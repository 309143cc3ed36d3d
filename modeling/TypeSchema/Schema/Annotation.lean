import TypeSchema.Diagnostic.Event
import TypeSchema.Graph.Constraint
import TypeSchema.Schema.Node

/-!
# Applying constraints

Constraints become keywords of the node that represents the constrained type or field, one after the
other: a later one replaces what an earlier one set, and a replacement by a different value is
reported. A pattern that is no regular expression is reported and left out. What is a regular
expression, and what is wrong with a text that is none, are parameters.
-/

namespace TypeSchema

/-- A check of patterns: what is wrong with a text that is no regular expression. -/
structure PatternCheck where
  fault? : (pattern : String) → Option String

/-- The check that finds nothing wrong with any text. -/
def PatternCheck.lenient : PatternCheck := ⟨fun _ => none⟩

/-- A check that has one thing to say about every text that it refuses. -/
def PatternCheck.ofValid (valid : String → Bool) : PatternCheck :=
  ⟨fun p => if valid p then none else some "not a regular expression"⟩

instance : Coe (String → Bool) PatternCheck := ⟨.ofValid⟩

namespace Keywords

/-- The field's name if a value is there and differs from the new one. -/
def conflict {α : Type} [BEq α] (field : String) (old : Option α) (new : α) : List String :=
  match old with
  | some x => if x == new then [] else [field]
  | none => []

/-- Sets the minimum. -/
def setMinimum (k : Keywords) (x : Float) : Keywords × List String :=
  ({ k with minimum := some x }, conflict "minimum" k.minimum x)

/-- Sets the maximum. -/
def setMaximum (k : Keywords) (x : Float) : Keywords × List String :=
  ({ k with maximum := some x }, conflict "maximum" k.maximum x)

/-- Sets the least length. -/
def setMinLength (k : Keywords) (n : Nat) : Keywords × List String :=
  ({ k with minLength := some n }, conflict "minLength" k.minLength n)

/-- Sets the greatest length. -/
def setMaxLength (k : Keywords) (n : Nat) : Keywords × List String :=
  ({ k with maxLength := some n }, conflict "maxLength" k.maxLength n)

/-- Sets the pattern. -/
def setPattern (k : Keywords) (p : String) : Keywords × List String :=
  ({ k with pattern := some p }, conflict "pattern" k.pattern p)

/-- Sets a value if there is one. -/
def setIf {α : Type} (set : Keywords → α → Keywords × List String) (k : Keywords) :
    Option α → Keywords × List String
  | some x => set k x
  | none => (k, [])

/-- Applies one constraint; the fields whose value was replaced by a different one. -/
def apply (k : Keywords) : Constraint → Keywords × List String
  | .range min max =>
    let (k, a) := setIf setMinimum k min
    let (k, b) := setIf setMaximum k max
    (k, a ++ b)
  | .minLength n => k.setMinLength n
  | .maxLength n => k.setMaxLength n
  | .length min max =>
    let (k, a) := setIf setMinLength k min
    let (k, b) := setIf setMaxLength k max
    (k, a ++ b)
  | .pattern p => k.setPattern p

/-- The report of a pattern that is no regular expression, and of what is wrong with it. -/
def invalidPatternEvent (member pattern fault : String) : DiagnosticEvent :=
  .withFields .error .invalidPattern
    ("member '" ++ member ++ "' declares an invalid pattern: " ++ fault)
    [("member", .string member), ("pattern", .string pattern)]

/-- The report of replaced fields. -/
def conflictEvent (member : String) (fields : List String) : DiagnosticEvent :=
  .withFields .warn .constraintConflict
    ("member '" ++ member ++ "' overwrote " ++ ", ".intercalate fields)
    [("member", .string member), ("fields", Json.ofStrings fields)]

/-- Applies one constraint on behalf of a member, with the event it gives rise to. -/
def applyReported (patterns : PatternCheck) (member : String) (k : Keywords) (c : Constraint) :
    Keywords × List DiagnosticEvent :=
  let applied :=
    let (k, conflicts) := k.apply c
    (k, if conflicts.isEmpty then [] else [conflictEvent member conflicts])
  match c with
  | .pattern p =>
    match patterns.fault? p with
    | some fault => (k, [invalidPatternEvent member p fault])
    | none => applied
  | _ => applied

/-- Applies constraints in order. -/
def applyAll (patterns : PatternCheck) (member : String) (k : Keywords) :
    List Constraint → Keywords × List DiagnosticEvent
  | [] => (k, [])
  | c :: rest =>
    let (k, events) := k.applyReported patterns member c
    let (k, more) := k.applyAll patterns member rest
    (k, events ++ more)

end Keywords

namespace Arena

/-- A new node around one node that must stay as it is. -/
def wrap (a : Arena) (id : NodeId) : NodeId × Arena := a.push { kind := .allOf [id] }

/-- Applies constraints to a node on behalf of a member. A placeholder or a reference is wrapped and
the wrapper takes the keywords. The node to use, the arena and the events. -/
def annotate (patterns : PatternCheck) (a : Arena) (id : NodeId) (member : String)
    (constraints : List Constraint) : NodeId × Arena × List DiagnosticEvent :=
  if constraints.isEmpty then (id, a, [])
  else
    let (target, a) := if a.isShared id then a.wrap id else (id, a)
    let before := ((a.get? target).map (·.keywords)).getD {}
    let (keywords, events) := before.applyAll patterns member constraints
    (target, a.modify target ({ · with keywords }), events)

end Arena

end TypeSchema
