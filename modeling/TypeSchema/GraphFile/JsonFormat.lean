import TypeSchema.GraphFile.Decoder
import TypeSchema.Json.Text

/-!
# Type graph files in JSON

A record is an object or an array of its fields in order, from which fields at the end may be
missing. An alternative without data is its name, or an object with this name over null.
-/

namespace TypeSchema

namespace JsonText

mutual

/-- The value as the document types it; `none` if a number is out of range. -/
def content? : JsonText → Option GraphFile.Content
  | null => some .null
  | bool b => some (.bool b)
  | number n =>
    match n.value? with
    | some (.int i) => some (.int i)
    | some (.float x) => some (.float x)
    | _ => none
  | string s => some (.text s)
  | array items => (itemContents? items).map .list
  | object fields => (fieldContents? fields).map .mapping

/-- The values of array items. -/
def itemContents? : List JsonText → Option (List GraphFile.Content)
  | [] => some []
  | t :: rest => (content? t).bind fun v => (itemContents? rest).map (v :: ·)

/-- The keys and values of object fields. -/
def fieldContents? : List (String × JsonText) →
    Option (List (GraphFile.Content × GraphFile.Content))
  | [] => some []
  | (k, t) :: rest =>
    (content? t).bind fun v => (fieldContents? rest).map ((.text k, v) :: ·)

end

/-- The fields of a record. -/
def record? (names : List String) : JsonText → Option (List (String × JsonText))
  | array items => if items.length ≤ names.length then some (names.zip items) else none
  | object fields =>
    if (fields.map (·.1)).Nodup ∧ ∀ f ∈ fields, f.1 ∈ names then some fields else none
  | _ => none

/-- The items of an array. -/
def list? : JsonText → Option (List JsonText)
  | array items => some items
  | _ => none

/-- A text. -/
def text? : JsonText → Option String
  | string s => some s
  | _ => none

/-- A truth value. -/
def flag? : JsonText → Option Bool
  | bool b => some b
  | _ => none

/-- An integer literal that fits 128 bits with a sign. -/
def integer? : JsonText → Option Int
  | number n => n.integer?.filter (fitsSigned 128)
  | _ => none

/-- The name of an alternative. -/
def choice? : JsonText → Option String
  | string s => some s
  | object [(name, null)] => some name
  | _ => none

/-- Whether the value is null. -/
def isNull : JsonText → Bool
  | null => true
  | _ => false

end JsonText

namespace GraphFile

/-- JSON documents as sources of entries. -/
def jsonFormat : Format JsonText where
  record? := JsonText.record?
  list? := JsonText.list?
  text? := JsonText.text?
  flag? := JsonText.flag?
  integer? := JsonText.integer?
  choice? := JsonText.choice?
  absent? := fun t => some t.isNull
  value? := JsonText.value?
  content? := JsonText.content?

/-- The entries of a JSON file. -/
def ofJson? (s : String) : Option (List TypeEntry) :=
  (JsonText.read? s).bind jsonFormat.entries?

/-- A constraint written in JSON. -/
def constraintOfJson? (s : String) : Option Constraint :=
  (JsonText.read? s).bind jsonFormat.constraint?

end GraphFile

end TypeSchema
