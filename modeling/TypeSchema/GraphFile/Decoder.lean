import TypeSchema.GraphFile.Entry
import TypeSchema.Text.Numeral

/-!
# Reading entries from a document

Entries are read in the same way from any format that offers the accesses of `Format`. Records are
strict: no field may be unknown or repeated, and a field without a default may not be missing.
Constraints are chosen by their `kind` and ignore fields that they do not know.
-/

namespace TypeSchema.GraphFile

/-- A value whose type the document itself decides, keys included. -/
inductive Content where
  | null
  | bool (b : Bool)
  | int (n : Int)
  | float (x : Float)
  | text (s : String)
  | list (items : List Content)
  | mapping (fields : List (Content × Content))
  deriving Inhabited

/-- How a document of type `T` is accessed; each access refuses what does not fit. -/
structure Format (T : Type) where
  /-- The fields of a record with the given field names, in any order, each at most once. -/
  record? : List String → T → Option (List (String × T))
  list? : T → Option (List T)
  text? : T → Option String
  flag? : T → Option Bool
  integer? : T → Option Int
  /-- The name of an alternative that has no data. -/
  choice? : T → Option String
  /-- Whether the value counts as absent where absence is allowed. -/
  absent? : T → Option Bool
  value? : T → Option Json
  /-- A record that says of which kind it is. -/
  content? : T → Option Content

/-! ### Constraints -/

namespace Content

/-- The fields of a constraint with some field names. A key may also be the position of the name,
and a list gives the fields in order. -/
def constraintFields? (names : List String) : Content → Option (List (String × Content))
  | list items => if items.length ≤ names.length then some (names.zip items) else none
  | mapping fields => do
    let named ← fields.mapM fun (k, v) =>
      match k with
      | text s => some (s, v)
      | int n => if 0 ≤ n then some (names.getD n.toNat "", v) else none
      | _ => none
    let known := named.filter fun (k, _) => k ∈ names
    if (known.map (·.1)).Nodup then some known else none
  | _ => none

/-- A number as a double. -/
def double? : Content → Option Float
  | int n =>
    let magnitude := (UInt64.ofNat n.natAbs).toFloat
    some (if n < 0 then -magnitude else magnitude)
  | float x => some x
  | _ => none

/-- A natural number of at most 64 bits. -/
def length? : Content → Option Nat
  | int n => if fitsUnsigned 64 n then some n.toNat else none
  | _ => none

/-- A text. -/
def text? : Content → Option String
  | text s => some s
  | _ => none

/-- A field that may be absent or null. -/
def optional? {α : Type} (read : Content → Option α) : Option Content → Option (Option α)
  | none | some null => some none
  | some c => (read c).map some

/-- The constraint of a kind with the given data. -/
def constraintOf? (kind : String) (c : Content) : Option Constraint :=
  match kind with
  | "range" => do
    let fields ← c.constraintFields? ["min", "max"]
    return .range (← optional? double? (fields.lookup "min"))
      (← optional? double? (fields.lookup "max"))
  | "min_length" => do
    let fields ← c.constraintFields? ["min"]
    return .minLength (← (fields.lookup "min").bind length?)
  | "max_length" => do
    let fields ← c.constraintFields? ["max"]
    return .maxLength (← (fields.lookup "max").bind length?)
  | "length" => do
    let fields ← c.constraintFields? ["min", "max"]
    return .length (← optional? length? (fields.lookup "min"))
      (← optional? length? (fields.lookup "max"))
  | "pattern" => do
    let fields ← c.constraintFields? ["pattern"]
    return .pattern (← (fields.lookup "pattern").bind text?)
  | _ => none

/-- Whether a key is the text `kind`. -/
def isKindKey : Content → Bool
  | text s => s == "kind"
  | _ => false

/-- Reads a constraint: the kind is one field of a mapping or the first item of a list. -/
def constraint? : Content → Option Constraint
  | mapping fields =>
    match fields.filter (fun f => f.1.isKindKey) with
    | [(_, text kind)] => constraintOf? kind (.mapping (fields.filter (fun f => !f.1.isKindKey)))
    | _ => none
  | list (text kind :: items) => constraintOf? kind (.list items)
  | _ => none

end Content

/-! ### Records -/

namespace Format

variable {T : Type} (F : Format T)

/-- A field that must be there. -/
def required? {α : Type} (read : T → Option α) (fields : List (String × T)) (name : String) :
    Option α :=
  (fields.lookup name).bind read

/-- A field with a default. -/
def defaulted? {α : Type} (read : T → Option α) (default : α) (fields : List (String × T))
    (name : String) : Option α :=
  match fields.lookup name with
  | some t => read t
  | none => some default

/-- A field that may be absent or null. -/
def optional? {α : Type} (read : T → Option α) (fields : List (String × T)) (name : String) :
    Option (Option α) :=
  match fields.lookup name with
  | some t =>
    match F.absent? t with
    | some true => some none
    | some false => (read t).map some
    | none => none
  | none => some none

/-- A list of values. -/
def listOf? {α : Type} (read : T → Option α) (t : T) : Option (List α) :=
  (F.list? t).bind (·.mapM read)

/-- A constraint. -/
def constraint? (t : T) : Option Constraint := (F.content? t).bind Content.constraint?

/-- The kind of an entry. -/
def entryKind? (t : T) : Option EntryKind :=
  match F.choice? t with
  | some "object" => some .object
  | some "enum" => some .enumeration
  | some "scalar" => some .scalar
  | _ => none

/-- A field of an object. -/
def fieldEntry? (t : T) : Option FieldEntry := do
  let fields ← F.record? ["name", "type", "required", "constraints", "example"] t
  return {
    name := ← required? F.text? fields "name"
    type := ← required? F.text? fields "type"
    required := ← defaulted? F.flag? false fields "required"
    constraints := ← defaulted? (F.listOf? F.constraint?) [] fields "constraints"
    example? := ← F.optional? F.value? fields "example" }

/-- A member of an enumeration. -/
def memberEntry? (t : T) : Option MemberEntry := do
  let fields ← F.record? ["name", "value"] t
  return {
    name := ← required? F.text? fields "name"
    value? := ← F.optional? F.integer? fields "value" }

/-- A named type. -/
def typeEntry? (t : T) : Option TypeEntry := do
  let fields ← F.record? ["name", "namespace", "kind", "fields", "members", "repr", "implements",
    "constraints", "example"] t
  return {
    name := ← required? F.text? fields "name"
    ns? := ← F.optional? F.text? fields "namespace"
    kind := ← required? F.entryKind? fields "kind"
    fields := ← defaulted? (F.listOf? F.fieldEntry?) [] fields "fields"
    members := ← defaulted? (F.listOf? F.memberEntry?) [] fields "members"
    repr? := ← F.optional? F.text? fields "repr"
    implements := ← defaulted? (F.listOf? F.text?) [] fields "implements"
    constraints := ← defaulted? (F.listOf? F.constraint?) [] fields "constraints"
    example? := ← F.optional? F.value? fields "example" }

/-- A whole file: a record with the list of its types. -/
def entries? (t : T) : Option (List TypeEntry) := do
  let fields ← F.record? ["types"] t
  required? (F.listOf? F.typeEntry?) fields "types"

end Format

end TypeSchema.GraphFile
