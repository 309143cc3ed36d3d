import TypeSchema.Diagnostic.Event
import TypeSchema.Schema.Node

/-!
# Examples

`Arena.synthesize` makes up a value that fits a schema: its declared example, its first literal, or
a value of its type built from the samples of its parts. `ExampleSources.resolve` puts the examples
that were declared in front of it.

Sampling follows the edges of an arena as rendering does, and references to their targets as well.
It has a budget of time: the clock is looked at when a node is reached, and before each chunk of
padding, and a walk whose budget is spent is given up as a whole. What the clock says is a
parameter.
-/

namespace TypeSchema

namespace SchemaNode

/-- The sample text of a format; others have the plain one. -/
def formatSample (format : String) : String :=
  match format with
  | "uuid" => "3fa85f64-5717-4562-b3fc-2c963f66afa6"
  | "date-time" => "2024-01-01T00:00:00Z"
  | "date" => "2024-01-01"
  | "time" => "12:00:00"
  | "email" => "user@example.com"
  | "uri" | "url" => "https://example.com"
  | "hostname" => "example.com"
  | "ipv4" => "192.0.2.1"
  | "duration" => "PT1H"
  | "byte" => "c3RyaW5n"
  | _ => "string"

/-- The plain sample text, cut to a greatest length. -/
def cutText (k : Keywords) : List Char :=
  match k.maxLength with
  | some n => "string".toList.take n
  | none => "string".toList

/-- An integer that fits: the least one, else the greatest one if that is negative, else zero. -/
def sampleInteger (k : Keywords) : Json :=
  match k.minimum, k.maximum with
  | some x, _ => .int (Binary64.ofFloat x).ceilInt64
  | none, some x => if x < 0 then .int (Binary64.ofFloat x).floorInt64 else .int 0
  | none, none => .int 0

/-- A number that fits: the minimum, else the maximum if that is negative, else zero. -/
def sampleNumber (k : Keywords) : Json :=
  match k.minimum, k.maximum with
  | some x, _ => .ofBound x
  | none, some x => if x < 0 then .ofBound x else .float 0
  | none, none => .float 0

end SchemaNode

/-- Two samples for the parts of one schema: objects are merged, later fields counting, and of
other values the first counts. -/
def Json.mergeSample : Json → Json → Json
  | .object fields, .object more => .ofFields (fields ++ more)
  | v, _ => v

/-! ### The time budget -/

/-- The budget in milliseconds where none is configured. -/
def defaultExampleBudget : Nat := 25

/-- A budget, and the time that has passed at each look at the clock; both are in milliseconds. -/
structure Deadline where
  budget : Nat
  elapsed : (look : Nat) → Nat

/-- A budget on a clock that stands still. -/
def Deadline.still (budget : Nat) : Deadline := ⟨budget, fun _ => 0⟩

instance : Coe Nat Deadline := ⟨.still⟩

/-- What the clock says while a node of an arena is sampled: the time that has passed since the
sample was asked for, at each look. -/
abbrev Clock := Arena → NodeId → (look : Nat) → Nat

/-- The clock that stands still. -/
def Clock.still : Clock := fun _ _ _ => 0

/-- When a walk was given up, and at which kind of node. -/
structure Throttled where
  elapsed : Nat
  kind : String

/-- A step of a walk. Looks at the clock are counted. -/
abbrev Walk := EStateM Throttled Nat

/-- Looks at the clock at a node of some kind, and gives up if the budget is spent. -/
def Deadline.look (d : Deadline) (kind : String) : Walk Unit := fun looks =>
  if d.budget ≤ d.elapsed looks then .error ⟨d.elapsed looks, kind⟩ (looks + 1)
  else .ok () (looks + 1)

/-! ### Walks -/

namespace SchemaNode

/-- How many characters of padding are added between two looks at the clock. -/
def padChunk : Nat := 16 * 1024

/-- Pads a text. -/
def pad (d : Deadline) (cs : List Char) (missing : Nat) : Walk (List Char) :=
  if missing = 0 then return cs
  else do
    d.look PrimitiveType.string.name
    let chunk := min missing padChunk
    pad d (cs ++ List.replicate chunk 'x') (missing - chunk)
termination_by missing
decreasing_by
  simp only [padChunk]
  omega

/-- A text that fits; one with a format ignores length bounds. -/
def walkText (d : Deadline) (n : SchemaNode) : Walk Json :=
  match n.format? with
  | some format => return .string (formatSample format)
  | none => do
    let cs := cutText n.keywords
    let cs ← pad d cs (n.keywords.minLength.getD 0 - cs.length)
    return .string (String.ofList cs)

/-- Samples a node, given how its children are sampled and which of them are null. -/
def walk (d : Deadline) (n : SchemaNode) (isNull : NodeId → Bool) (child : NodeId → Walk Json) :
    Walk Json := do
  d.look n.kind.label
  match n.example?, n.enumValues with
  | some v, _ => return v
  | none, v :: _ => return v
  | none, [] =>
    match n.kind with
    | .primitive .string => n.walkText d
    | .primitive .integer => return sampleInteger n.keywords
    | .primitive .number => return sampleNumber n.keywords
    | .primitive .boolean => return .bool true
    | .primitive .array => return .array (← n.items?.toList.mapM child)
    | .primitive .object => do
      let fields ← n.properties.toList.mapM fun e => return (e.1, ← child e.2)
      let more? ← n.additional?.mapM child
      return .ofFields (fields ++ Json.optionalField "additionalProp1" more?)
    | .null => return .null
    | .anyOf ids | .oneOf ids =>
      -- null is the sample only where there is nothing else
      match ids.find? (fun id => !isNull id) with
      | some id => child id
      | none => return .null
    | .allOf ids => do
      match ← ids.mapM child with
      | [] => return .null
      | v :: rest => return rest.foldl Json.mergeSample v
    | .placeholder _ => return .object []
    | .reference r => child r.target

end SchemaNode

/-- The report of a sample that was given up. -/
def throttledEvent (budget : Nat) (t : Throttled) : DiagnosticEvent :=
  .withFields .warn .exampleThrottled
    ("example synthesis abandoned after " ++ toString t.elapsed ++ "ms at " ++ t.kind ++ " schema")
    [("elapsed_ms", Json.ofNat t.elapsed), ("budget_ms", Json.ofNat budget),
      ("kind", .string t.kind)]

namespace Arena

/-- Samples a node down to a number of levels; what lies deeper, and an unknown node, is null. -/
def walkTo (a : Arena) (d : Deadline) : (levels : Nat) → NodeId → Walk Json
  | 0, _ => return .null
  | levels + 1, id =>
    match a.get? id with
    | some n => n.walk d a.isNull (a.walkTo d levels)
    | none => return .null

/-- A sample of a node, or a report if the budget is spent on the way. -/
def synthesize (a : Arena) (d : Deadline) (id : NodeId) : Option Json × List DiagnosticEvent :=
  match a.walkTo d a.size id 0 with
  | .ok v _ => (some v, [])
  | .error t _ => (none, [throttledEvent d.budget t])

end Arena

/-! ### Declared examples -/

/-- Where an example comes from. -/
inductive ExampleSource where
  | named (key : String)
  | single
  | shared (key : String)
  | synthesized
  deriving DecidableEq

/-- The examples declared for a schema, and the schema. -/
structure ExampleSources where
  /-- No example is wanted. -/
  blocked : Bool := false
  named : List (String × Json) := []
  single? : Option Json := none
  /-- A key into the shared examples. -/
  sharedRef? : Option String := none
  schema? : Option NodeId := none

namespace ExampleSources

/-- The declared example: the first named one, else the single one, else the shared one. -/
def declared? (s : ExampleSources) (shared : SortedMap Json) : Option (ExampleSource × Json) :=
  match s.named, s.single?, s.sharedRef?.bind (fun key => (shared.get? key).map (key, ·)) with
  | (key, v) :: _, _, _ => some (.named key, v)
  | [], some v, _ => some (.single, v)
  | [], none, some (key, v) => some (.shared key, v)
  | [], none, none => none

/-- The example of a schema: a declared one, else a sample; none if examples are blocked. -/
def resolve (s : ExampleSources) (shared : SortedMap Json) (a : Arena) (d : Deadline) :
    Option (ExampleSource × Json) × List DiagnosticEvent :=
  if s.blocked then (none, [])
  else
    match s.declared? shared, s.schema? with
    | some found, _ => (some found, [])
    | none, none => (none, [])
    | none, some id =>
      let (v?, events) := a.synthesize d id
      (v?.map (.synthesized, ·), events)

end ExampleSources

end TypeSchema
