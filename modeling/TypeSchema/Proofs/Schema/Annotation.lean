import Mathlib.Data.List.Infix
import TypeSchema.Proofs.Schema.Arena
import TypeSchema.Schema.Annotation

/-!
# Schema — what constraints leave on a node

A constraint sets some keywords (`Constraint.sets?`), and constraints of several kinds set the same
ones.  Applied in order, the last one that sets a keyword decides on its value (`settled`), and a
value that is replaced by one that is not equal is reported by the constraint that replaces it
(`reports`).  Both are said keyword by keyword, about the list of the constraints and the keywords
that were there before.

* `applyAll_settles`: the keywords and the events after any list of constraints.
* `annotate_append`: constraints applied in two lots.
* `annotate_settles`: all of it for the node that is annotated, or for the one around it where the
  node must stay as it is.
-/

namespace TypeSchema

/-! ### Keywords, one by one -/

/-- A keyword that constraints set. -/
inductive Keyword where
  | minimum
  | maximum
  | minLength
  | maxLength
  | pattern
  deriving DecidableEq

namespace Keyword

/-- All keywords, in the order in which they are set. -/
def all : List Keyword := [minimum, maximum, minLength, maxLength, pattern]

/-- The name by which reports call a keyword. -/
def name : Keyword → String
  | minimum => "minimum"
  | maximum => "maximum"
  | minLength => "minLength"
  | maxLength => "maxLength"
  | pattern => "pattern"

/-- The values of a keyword. -/
def Value : Keyword → Type
  | minimum | maximum => Float
  | minLength | maxLength => Nat
  | pattern => String

/-- Numbers are compared as floating-point numbers: both zeros are equal, and one that is not a
number is not equal to itself. -/
instance : (keyword : Keyword) → BEq keyword.Value
  | minimum | maximum => inferInstanceAs (BEq Float)
  | minLength | maxLength => inferInstanceAs (BEq Nat)
  | pattern => inferInstanceAs (BEq String)

end Keyword

/-- The value of a keyword. -/
def Keywords.get? (k : Keywords) : (keyword : Keyword) → Option keyword.Value
  | .minimum => k.minimum
  | .maximum => k.maximum
  | .minLength => k.minLength
  | .maxLength => k.maxLength
  | .pattern => k.pattern

namespace Constraint

/-- The value that a constraint gives a keyword. -/
def sets? : Constraint → (keyword : Keyword) → Option keyword.Value
  | .range min _, .minimum => min
  | .range _ max, .maximum => max
  | .minLength min, .minLength => some min
  | .maxLength max, .maxLength => some max
  | .length min _, .minLength => min
  | .length _ max, .maxLength => max
  | .pattern p, .pattern => some p
  | _, _ => none

/-- The text of a pattern that is no regular expression, and what is wrong with it. -/
def refused? (patterns : PatternCheck) : Constraint → Option (String × String)
  | .pattern p => (patterns.fault? p).map (p, ·)
  | _ => none

/-- The value that a constraint gives a keyword, unless it is a pattern that is left out. -/
def effect? (patterns : PatternCheck) (c : Constraint) (keyword : Keyword) : Option keyword.Value :=
  match c.refused? patterns with
  | some _ => none
  | none => c.sets? keyword

/-- What is a regular expression matters to patterns only. -/
theorem effect?_eq (patterns : PatternCheck) (c : Constraint) {keyword : Keyword}
    (other : keyword ≠ .pattern) : c.effect? patterns keyword = c.sets? keyword := by
  cases c with
  | pattern p =>
    have unset : (pattern p).sets? keyword = none := by
      cases keyword <;> first | rfl | contradiction
    unfold effect?
    split
    · exact unset.symm
    · rfl
  | _ => rfl

end Constraint

/-- Whether there is a value and the new one, if there is one, is not equal to it. -/
def differs {α : Type} [BEq α] : (new old : Option α) → Bool
  | some new, some old => !(old == new)
  | _, _ => false

section

variable (patterns : PatternCheck)

/-- The value of the last constraint that gives the keyword one. -/
def lastEffect? (constraints : List Constraint) (keyword : Keyword) : Option keyword.Value :=
  (constraints.filterMap (·.effect? patterns keyword)).getLast?

/-- The value of a keyword after constraints: the last one that they give it, or the one before. -/
def settled (before : Keywords) (constraints : List Constraint) (keyword : Keyword) :
    Option keyword.Value :=
  (lastEffect? patterns constraints keyword).or (before.get? keyword)

/-- The keywords whose value the constraint replaces by one that is not equal. -/
def replaced (current : (keyword : Keyword) → Option keyword.Value) (c : Constraint) :
    List Keyword :=
  Keyword.all.filter fun keyword => differs (c.effect? patterns keyword) (current keyword)

/-- The report of a constraint that replaces some values: it names their keywords. -/
def conflictReport? (member : String) (current : (keyword : Keyword) → Option keyword.Value)
    (c : Constraint) : Option DiagnosticEvent :=
  if replaced patterns current c = [] then none
  else some (Keywords.conflictEvent member ((replaced patterns current c).map (·.name)))

/-- What is reported on a constraint, where keywords have the values `current`. -/
def reports (member : String) (current : (keyword : Keyword) → Option keyword.Value)
    (c : Constraint) : List DiagnosticEvent :=
  match c.refused? patterns with
  | some (p, fault) => [Keywords.invalidPatternEvent member p fault]
  | none => (conflictReport? patterns member current c).toList

/-- The constraints of a list, each with those before it. -/
def withEarlier (constraints : List Constraint) : List (List Constraint × Constraint) :=
  constraints.inits.zip constraints

theorem withEarlier_cons (c : Constraint) (rest : List Constraint) :
    withEarlier (c :: rest) = ([], c) :: (withEarlier rest).map (Prod.map (c :: ·) id) := by
  simp only [withEarlier, List.inits_cons, List.zip_cons_cons, List.zip_map_left]

/-- Where the values are settled after the first constraint, the others go on from there. -/
theorem settled_cons {k k' : Keywords} {c : Constraint}
    (h : ∀ keyword, k'.get? keyword = (c.effect? patterns keyword).or (k.get? keyword))
    (rest : List Constraint) (keyword : Keyword) :
    settled patterns k (c :: rest) keyword = settled patterns k' rest keyword := by
  simp only [settled, lastEffect?, h, ← Option.or_assoc]
  cases effect : c.effect? patterns keyword with
  | none => simp [effect]
  | some x =>
    simp only [List.filterMap_cons, effect, List.getLast?_cons]
    cases (rest.filterMap (·.effect? patterns keyword)).getLast? <;> rfl

end

/-! ### One constraint -/

namespace Keywords

/-- A constraint sets its keywords and leaves the others. -/
theorem get?_apply (k : Keywords) (c : Constraint) (keyword : Keyword) :
    (k.apply c).1.get? keyword = (c.sets? keyword).or (k.get? keyword) := by
  rcases c with ⟨_ | _, _ | _⟩ | _ | _ | ⟨_ | _, _ | _⟩ | _ <;> cases keyword <;> rfl

theorem conflict_eq {α : Type} [BEq α] (field : String) (old : Option α) (new : α) :
    conflict field old new = if differs (some new) old then [field] else [] := by
  cases old with
  | none => rfl
  | some x => by_cases h : x == new <;> simp [conflict, differs, h]

theorem conflicts_setIf {α : Type} [BEq α] {set : Keywords → α → Keywords × List String}
    {field : String} {old : Option α} {k : Keywords}
    (h : ∀ x, (set k x).2 = conflict field old x) (new : Option α) :
    (setIf set k new).2 = if differs new old then [field] else [] := by
  cases new with
  | none => rfl
  | some x => exact (h x).trans (conflict_eq field old x)

/-- The fields that one constraint reports are the names of the keywords that it replaces. -/
theorem conflicts_apply (k : Keywords) (c : Constraint) : (k.apply c).2 =
    (Keyword.all.filter fun keyword =>
      differs (c.sets? keyword) (k.get? keyword)).map (·.name) := by
  -- keyword by keyword, where one that the constraint does not set adds nothing
  have each : ∀ (p : Keyword → Bool) (l : List Keyword), (l.filter p).map (·.name) =
      l.flatMap fun keyword => if p keyword then [keyword.name] else [] := fun p l => by
    induction l with
    | nil => rfl
    | cons keyword more ih => by_cases h : p keyword <;> simp [h, ih]
  rw [each]
  cases c with
  | range min max =>
    have lower : (setIf setMinimum k min).2 =
        if differs min k.minimum then ["minimum"] else [] := conflicts_setIf (fun _ => rfl) min
    have upper : (setIf setMaximum (setIf setMinimum k min).1 max).2 =
        if differs max k.maximum then ["maximum"] else [] :=
      conflicts_setIf (fun _ => by cases min <;> rfl) max
    exact congrArg₂ (· ++ ·) lower (upper.trans (List.append_nil _).symm)
  | minLength n =>
    exact (conflict_eq "minLength" k.minLength n).trans (List.append_nil _).symm
  | maxLength n =>
    exact (conflict_eq "maxLength" k.maxLength n).trans (List.append_nil _).symm
  | length min max =>
    have lower : (setIf setMinLength k min).2 =
        if differs min k.minLength then ["minLength"] else [] := conflicts_setIf (fun _ => rfl) min
    have upper : (setIf setMaxLength (setIf setMinLength k min).1 max).2 =
        if differs max k.maxLength then ["maxLength"] else [] :=
      conflicts_setIf (fun _ => by cases min <;> rfl) max
    have both := congrArg₂ (· ++ ·) lower (upper.trans (List.append_nil _).symm)
    exact both.trans rfl
  | pattern p => exact (conflict_eq "pattern" k.pattern p).trans (List.append_nil _).symm

variable (patterns : PatternCheck) (member : String)

/-- A constraint sets the keywords that it has an effect on, unless it is left out, and is reported
as one that is left out or for what it replaces. -/
theorem applyReported_settles (k : Keywords) (c : Constraint) :
    (∀ keyword, (k.applyReported patterns member c).1.get? keyword =
        (c.effect? patterns keyword).or (k.get? keyword)) ∧
      (k.applyReported patterns member c).2 = reports patterns member k.get? c := by
  cases refused : c.refused? patterns with
  | some refusal =>
    -- only a pattern is left out
    cases c with
    | pattern p =>
      obtain ⟨fault, hfault, rfl⟩ := Option.map_eq_some_iff.1 refused
      simp [applyReported, hfault, reports, Constraint.effect?, refused]
    | _ => cases refused
  | none =>
    have effect : ∀ keyword, c.effect? patterns keyword = c.sets? keyword := fun keyword => by
      simp only [Constraint.effect?, refused]
    have applied : k.applyReported patterns member c = ((k.apply c).1,
        if (k.apply c).2.isEmpty then [] else [conflictEvent member (k.apply c).2]) := by
      cases c with
      | pattern p =>
        have faultless : patterns.fault? p = none := by simpa [Constraint.refused?] using refused
        simp [applyReported, faultless]
      | _ => rfl
    refine ⟨fun keyword => by rw [applied, effect, get?_apply], ?_⟩
    have fields : (k.apply c).2 = (replaced patterns k.get? c).map (·.name) := by
      simp only [conflicts_apply, replaced, effect]
    rw [applied, reports, refused, conflictReport?, fields]
    by_cases h : replaced patterns k.get? c = [] <;> simp [h]

/-- **The keywords and the events after constraints in order.**  The last constraint that gives a
keyword a value decides on it; each constraint is reported against the values that those before it
left. -/
theorem applyAll_settles (k : Keywords) (constraints : List Constraint) :
    (∀ keyword, (k.applyAll patterns member constraints).1.get? keyword =
        settled patterns k constraints keyword) ∧
      (k.applyAll patterns member constraints).2 =
        (withEarlier constraints).flatMap fun (earlier, c) =>
          reports patterns member (settled patterns k earlier) c := by
  induction constraints generalizing k with
  | nil => exact ⟨fun keyword => rfl, rfl⟩
  | cons c rest ih =>
    obtain ⟨values, events⟩ := applyReported_settles patterns member k c
    obtain ⟨restValues, restEvents⟩ := ih (k.applyReported patterns member c).1
    refine ⟨fun keyword => ?_, ?_⟩
    · rw [settled_cons patterns values]
      exact restValues keyword
    · rw [withEarlier_cons, List.flatMap_cons, List.flatMap_map]
      -- with nothing earlier the values are those before
      have first : settled patterns k [] = k.get? := rfl
      have later : ∀ earlier, settled patterns k (c :: earlier) =
          settled patterns (k.applyReported patterns member c).1 earlier :=
        fun earlier => funext (settled_cons patterns values earlier)
      simp only [applyAll, events, restEvents, first, Prod.map, id, later]

/-- Constraints applied in two portions are applied one after the other. -/
theorem applyAll_append (k : Keywords) (constraints more : List Constraint) :
    k.applyAll patterns member (constraints ++ more) =
      (((k.applyAll patterns member constraints).1.applyAll patterns member more).1,
        (k.applyAll patterns member constraints).2 ++
          ((k.applyAll patterns member constraints).1.applyAll patterns member more).2) := by
  induction constraints generalizing k with
  | nil => rfl
  | cons c rest ih => simp only [List.cons_append, applyAll, ih, List.append_assoc]

end Keywords

/-! ### The node that is annotated -/

namespace Arena

variable (patterns : PatternCheck) (member : String)

theorem modify_modify (a : Arena) (id : NodeId) (f g : SchemaNode → SchemaNode) :
    (a.modify id f).modify id g = a.modify id fun n => g (f n) := by
  have found : ∀ j, ((a.modify id f).modify id g).get? j =
      (a.modify id fun n => g (f n)).get? j := fun j => by
    by_cases h : j = id
    · simp only [get?_modify, h, if_true, Option.map_map, Function.comp_def]
    · simp only [get?_modify, h, if_false]
  exact congrArg Arena.mk (Array.ext_getElem? fun i => found ⟨i⟩)

/-- Constraints on a node that takes them itself start from its keywords. -/
theorem mark_eq {a : Arena} {id : NodeId} {n : SchemaNode} (hn : a.get? id = some n)
    (constraints : List Constraint) : a.mark patterns id member constraints =
      (id, a.modify id ({ · with
        keywords := (n.keywords.applyAll patterns member constraints).1 }),
        (n.keywords.applyAll patterns member constraints).2) := by
  simp only [mark, keywordsAt, hn, Option.map_some, Option.getD_some]

/-- Constraints in two lots on a node that takes them itself. -/
theorem mark_append {a : Arena} {id : NodeId} {n : SchemaNode} (hn : a.get? id = some n)
    (constraints more : List Constraint) :
    a.mark patterns id member (constraints ++ more) =
      (((a.mark patterns id member constraints).2.1.mark patterns id member more).1,
        ((a.mark patterns id member constraints).2.1.mark patterns id member more).2.1,
        (a.mark patterns id member constraints).2.2 ++
          ((a.mark patterns id member constraints).2.1.mark patterns id member more).2.2) := by
  have marked : (a.modify id ({ · with
      keywords := (n.keywords.applyAll patterns member constraints).1 })).get? id =
        some { n with keywords := (n.keywords.applyAll patterns member constraints).1 } := by
    rw [get?_modify, if_pos rfl, hn]
    rfl
  rw [mark_eq patterns member hn, mark_eq patterns member hn, mark_eq patterns member marked,
    modify_modify, Keywords.applyAll_append]

/-- The number and the node that take the keywords of constraints: the node itself, or a new one
around it if there is something to put on a node that must stay as it is. -/
def carrier (a : Arena) (id : NodeId) (n : SchemaNode) (constraints : List Constraint) :
    NodeId × SchemaNode :=
  if n.isShared && !constraints.isEmpty then (⟨a.size⟩, { kind := .allOf [id] }) else (id, n)

theorem annotate_mark {a : Arena} {id : NodeId} {n : SchemaNode} (hn : a.get? id = some n)
    (own : ¬ n.isShared) {constraints : List Constraint} (some : constraints ≠ []) :
    a.annotate patterns id member constraints = a.mark patterns id member constraints := by
  have unshared : ¬ a.isShared id := isShared_eq hn ▸ own
  rw [annotate_eq, if_neg (by simpa using some), if_neg unshared]

/-- Some constraints become keywords of the carrier, in an arena that has it and every node that was
there. -/
theorem annotate_carrier {a : Arena} {id : NodeId} {n : SchemaNode} (hn : a.get? id = some n) :
    ∃ (a₀ : Arena) (id₀ : NodeId) (n₀ : SchemaNode), a₀.get? id₀ = some n₀ ∧ ¬ n₀.isShared ∧
      (∀ other, other ≠ id₀ → a₀.get? other = a.get? other) ∧
      ∀ constraints, constraints ≠ [] → a.carrier id n constraints = (id₀, n₀) ∧
        a.annotate patterns id member constraints = a₀.mark patterns id₀ member constraints := by
  by_cases shared : n.isShared
  · refine ⟨(a.wrap id).2, ⟨a.size⟩, { kind := .allOf [id] }, get?_push_self a _,
      by simp [SchemaNode.isShared], fun other ne => ?_, fun constraints some => ⟨?_, ?_⟩⟩
    · rw [wrap, get?_push, if_neg fun e => ne (by cases other; exact congrArg NodeId.mk e)]
    · simp [carrier, shared, some]
    · rw [annotate_eq, if_neg (by simpa using some), if_pos (isShared_eq hn ▸ shared)]
      rfl
  · exact ⟨a, id, n, hn, shared, fun _ _ => rfl, fun constraints some =>
      ⟨by simp [carrier, shared], annotate_mark patterns member hn shared some⟩⟩

/-- **Constraints in two lots.**  Where the second lot is applied to the node that the first one
gave, the two are one list of constraints. -/
theorem annotate_append {a : Arena} {id : NodeId} {n : SchemaNode} (hn : a.get? id = some n)
    {constraints : List Constraint} {id' : NodeId} {a' : Arena} {events : List DiagnosticEvent}
    (h : a.annotate patterns id member constraints = (id', a', events)) (more : List Constraint) :
    a.annotate patterns id member (constraints ++ more) =
      ((a'.annotate patterns id' member more).1, (a'.annotate patterns id' member more).2.1,
        events ++ (a'.annotate patterns id' member more).2.2) := by
  by_cases empty : constraints = []
  · subst empty
    obtain ⟨rfl, rfl, rfl⟩ : id = id' ∧ a = a' ∧ [] = events := by simpa [annotate] using h
    rfl
  by_cases done : more = []
  · subst done
    rw [List.append_nil, h]
    simp [annotate]
  · obtain ⟨a₀, id₀, n₀, hn₀, own, -, marks⟩ := annotate_carrier patterns member hn
    rw [(marks constraints empty).2, mark_eq patterns member hn₀] at h
    obtain ⟨rfl, rfl, rfl⟩ : id₀ = id' ∧ _ = a' ∧ _ = events := by simpa using h
    rw [(marks _ (by simp [empty])).2, mark_append patterns member hn₀, mark_eq patterns member hn₀]
    have marked : (a₀.modify id₀ ({ · with
        keywords := (n₀.keywords.applyAll patterns member constraints).1 })).get? id₀ =
          some { n₀ with keywords := (n₀.keywords.applyAll patterns member constraints).1 } := by
      rw [get?_modify, if_pos rfl, hn₀]
      rfl
    -- the node that took the first lot takes the second one as well
    rw [annotate_mark patterns member marked (by exact own) done]

end Arena

/-! ### The whole of it -/

/-- What constraints on the node `n` with the number `id` give.  The carrier is the node that takes
the keywords, as it is before. -/
structure Annotates (patterns : PatternCheck) (member : String) (a : Arena) (id : NodeId)
    (n : SchemaNode) (constraints : List Constraint) (id' : NodeId) (a' : Arena)
    (events : List DiagnosticEvent) : Prop where
  given : id' = (a.carrier id n constraints).1
  /-- Each keyword of the node that is given is as the last constraint says, and nothing else of the
  node is changed. -/
  settles : ∃ k, a'.get? id' = some { (a.carrier id n constraints).2 with keywords := k } ∧
    ∀ keyword, k.get? keyword =
      settled patterns (a.carrier id n constraints).2.keywords constraints keyword
  others : ∀ other, other ≠ id' → a'.get? other = a.get? other
  /-- Each constraint is reported against the values that those before it left. -/
  reported : events = (withEarlier constraints).flatMap fun (earlier, c) =>
    reports patterns member (settled patterns (a.carrier id n constraints).2.keywords earlier) c
  /-- One conflict for each constraint that replaces a value by one that is not equal. -/
  conflicts : events.filter (·.code = .constraintConflict) =
    (withEarlier constraints).filterMap fun (earlier, c) =>
      conflictReport? patterns member
        (settled patterns (a.carrier id n constraints).2.keywords earlier) c

/-- A constraint that is left out has no effect and so replaces nothing. -/
theorem conflictReport?_refused {patterns : PatternCheck} {c : Constraint}
    {refusal : String × String} (refused : c.refused? patterns = some refusal) (member : String)
    (current : (keyword : Keyword) → Option keyword.Value) :
    conflictReport? patterns member current c = none := by
  have none : replaced patterns current c = [] :=
    List.filter_eq_nil_iff.2 fun keyword _ => by simp [Constraint.effect?, refused, differs]
  rw [conflictReport?, if_pos none]

/-- Of the reports on a constraint the conflict is the one that names what is replaced. -/
theorem filter_reports (patterns : PatternCheck) (member : String)
    (current : (keyword : Keyword) → Option keyword.Value) (c : Constraint) :
    (reports patterns member current c).filter (·.code = .constraintConflict) =
      (conflictReport? patterns member current c).toList := by
  unfold reports
  cases refused : c.refused? patterns with
  | some p =>
    rw [conflictReport?_refused refused]
    rfl
  | none =>
    simp only [conflictReport?]
    split <;> rfl

/-- **Constraints on a node: the last one wins.**  Each keyword of the node that is given is as the
last constraint that sets it says, patterns that are left out aside, and else as it was before.  It
is the node itself, or one new node around a placeholder or a reference, and no other node is
changed.  Constraints that replace a value by one that is not equal are reported, in order, each
with the keywords in question.  To go on with more constraints on the node that is given is to apply
them all at once. -/
theorem annotate_settles (patterns : PatternCheck) {a : Arena} {id : NodeId} {n : SchemaNode}
    (hn : a.get? id = some n) (member : String) (constraints : List Constraint) :
    ∃ id' a' events, a.annotate patterns id member constraints = (id', a', events) ∧
      Annotates patterns member a id n constraints id' a' events ∧
      ∀ more, ∃ id'' a'' events', a'.annotate patterns id' member more = (id'', a'', events') ∧
        a.annotate patterns id member (constraints ++ more) = (id'', a'', events ++ events') := by
  have lots : ∀ {id' a' events}, a.annotate patterns id member constraints = (id', a', events) →
      ∀ more, ∃ id'' a'' events', a'.annotate patterns id' member more = (id'', a'', events') ∧
        a.annotate patterns id member (constraints ++ more) = (id'', a'', events ++ events') :=
    fun h more => ⟨_, _, _, rfl, Arena.annotate_append patterns member hn h more⟩
  by_cases empty : constraints = []
  · subst empty
    have carrier : a.carrier id n [] = (id, n) := by simp [Arena.carrier]
    refine ⟨id, a, [], rfl, ⟨?_, ⟨n.keywords, ?_, fun keyword => ?_⟩, fun _ _ => rfl, rfl, rfl⟩,
      lots rfl⟩
    · rw [carrier]
    · rw [carrier]
      exact hn
    · rw [carrier]
      rfl
  · obtain ⟨a₀, id₀, n₀, hn₀, -, others, marks⟩ := Arena.annotate_carrier patterns member hn
    obtain ⟨carrier, marked⟩ := marks constraints empty
    rw [Arena.mark_eq patterns member hn₀] at marked
    obtain ⟨values, events⟩ := Keywords.applyAll_settles patterns member n₀.keywords constraints
    refine ⟨id₀, _, _, marked, ⟨?_, ⟨(n₀.keywords.applyAll patterns member constraints).1, ?_,
      fun keyword => ?_⟩, fun other ne => ?_, ?_, ?_⟩, lots marked⟩
    · rw [carrier]
    · rw [carrier, Arena.get?_modify, if_pos rfl, hn₀]
      rfl
    · rw [carrier]
      exact values keyword
    · rw [Arena.get?_modify, if_neg ne, others other ne]
    · rw [carrier, events]
    · rw [carrier, events, List.filter_flatMap, List.filterMap_eq_flatMap_toList]
      exact List.flatMap_congr fun (earlier, c) _ => filter_reports patterns member _ c

/-- A check that refuses one text. -/
def PatternCheck.unclosed : PatternCheck :=
  ⟨fun p => if p = "([" then some "unclosed character class" else none⟩

/-- A stand-in gets a node around it.  The unclosed pattern is left out, the zeros of either sign
are equal, and the second length bound replaces one of the first two. -/
theorem annotate_settles_placeholder :
    ∃ id' a' events,
      (Arena.mk #[{ kind := .placeholder ⟨"Node", none, .cycle⟩ }]).annotate .unclosed ⟨0⟩
        "children" [.length (some 1) (some 10), .pattern "([", .range (some 0.0) none,
          .maxLength 5, .range (some (-0.0)) (some 2.5)] = (id', a', events) ∧
      id' = ⟨1⟩ ∧
      (∃ k, a'.get? ⟨1⟩ = some { kind := .allOf [⟨0⟩], keywords := k } ∧
        k.get? .minLength = some (1 : Nat) ∧ k.get? .maxLength = some (5 : Nat) ∧
        k.get? .pattern = none ∧ k.get? .maximum = some (2.5 : Float)) ∧
      events.map (·.code) = [.invalidPattern, .constraintConflict] ∧
      events.head? =
        some (Keywords.invalidPatternEvent "children" "([" "unclosed character class") ∧
      events.filter (·.code = .constraintConflict) =
        [Keywords.conflictEvent "children" ["maxLength"]] := by
  obtain ⟨id', a', events, annotated, annotates, -⟩ := @annotate_settles .unclosed
    ⟨#[{ kind := .placeholder ⟨"Node", none, .cycle⟩ }]⟩ ⟨0⟩ _ rfl "children"
    [.length (some 1) (some 10), .pattern "([", .range (some 0.0) none, .maxLength 5,
      .range (some (-0.0)) (some 2.5)]
  obtain ⟨k, node, values⟩ := annotates.settles
  have given : id' = ⟨1⟩ := annotates.given
  refine ⟨id', a', events, annotated, given,
    ⟨k, given ▸ node, values _, values _, values _, values _⟩, ?_, ?_, ?_⟩
  · rw [annotates.reported]
    decide +kernel
  · rw [annotates.reported]
    rfl
  · rw [annotates.conflicts]
    rfl

end TypeSchema
