import TypeSchema.GraphFile.Decoder
import TypeSchema.Yaml.Value

/-!
# Type graph files in YAML

A record is a mapping, and a list a sequence; where nothing is written, either is empty. The type of
a scalar is what is asked for, if its text allows that: every scalar is a text, and a plain scalar
may be a truth value or an integer. An alternative without data is its name, or its name as a tag.
-/

namespace TypeSchema

namespace Yaml

/-- Whether nothing is written. -/
def isEmpty : Yaml → Bool
  | void => true
  | scalar _ style text => style = .plain && text.isEmpty
  | _ => false

/-- The entries of a mapping, whose keys are scalars. -/
def entries? : Yaml → Option (List (String × Yaml))
  | mapping _ entries => entries.mapM fun (k, v) =>
    match k with
    | scalar _ _ text => some (text, v)
    | _ => none
  | y => if y.isEmpty then some [] else none

/-- The fields of a record. -/
def record? (names : List String) (y : Yaml) : Option (List (String × Yaml)) := do
  let fields ← y.entries?
  if (fields.map (·.1)).Nodup ∧ ∀ f ∈ fields, f.1 ∈ names then some fields else none

/-- The items of a list. -/
def list? : Yaml → Option (List Yaml)
  | sequence _ items => some items
  | y => if y.isEmpty then some [] else none

/-- A text. -/
def text? : Yaml → Option String
  | scalar _ _ text => some text
  | _ => none

/-- The text of a scalar that may be read as a type other than text: a plain one, or a literal block
whose tag names the type. -/
def typedText? (type : String) : Yaml → Option String
  | scalar tag? style text =>
    if style = .plain ∨ (style = .literal ∧ tag? = some (coreTag type)) then some text else none
  | _ => none

/-- A truth value. -/
def flag? (y : Yaml) : Option Bool := (y.typedText? "bool").bind boolOf?

/-- An integer that fits 128 bits with a sign. -/
def integer? (y : Yaml) : Option Int :=
  ((y.typedText? "int").bind intOf?).filter (fitsSigned 128)

/-- Whether a value is absent where absence is allowed; none if its tag says so and its text does
not. -/
def absent? : Yaml → Option Bool
  | void => some true
  | scalar tag? style text =>
    if style ≠ .plain then some false
    else
      match tag? with
      | none => some (text.isEmpty || isNullText text)
      | some tag =>
        if tag = coreTag "null" then if isNullText text then some true else none else some false
  | _ => some false

/-- The name of an alternative: the text of a scalar, or a tag of the document's own over nothing.
-/
def choice? : Yaml → Option String
  | void => none
  | scalar tag? style text =>
    match localTag? tag? with
    | some name => if style = .plain ∧ (text.isEmpty ∨ isNullText text) then some name else none
    | none => some text
  | _ => none

mutual

/-- The JSON value of a YAML value; `none` if an integer is too large or a tag has no meaning. -/
def value? : Yaml → Option Json
  | void => some .null
  | scalar tag? style text =>
    match typedScalar? tag? style text with
    | none => none
    | some .null => some .null
    | some (.bool b) => some (.bool b)
    | some (.int n) => if signedMin 64 ≤ n ∧ n ≤ unsignedMax 64 then some (.int n) else none
    | some (.float x) => some (if x.isFinite then .float x else .null)
    | some (.text s) => some (.string s)
  | sequence tag? items =>
    if (localTag? tag?).isSome then none else (itemValues? items).map .array
  | mapping tag? entries =>
    if (localTag? tag?).isSome then none else (entryValues? entries).map Json.ofFields

/-- The JSON values of the items of a sequence. -/
def itemValues? : List Yaml → Option (List Json)
  | [] => some []
  | y :: rest => (value? y).bind fun v => (itemValues? rest).map (v :: ·)

/-- The fields of the entries of a mapping. -/
def entryValues? : List (Yaml × Yaml) → Option (List (String × Json))
  | [] => some []
  | (k, y) :: rest =>
    match text? k with
    | some name => (value? y).bind fun v => (entryValues? rest).map ((name, v) :: ·)
    | none => none

end

mutual

/-- The value as the document types it. -/
def content? : Yaml → Option GraphFile.Content
  | void => some .null
  | scalar tag? style text =>
    match typedScalar? tag? style text with
    | none => none
    | some .null => some .null
    | some (.bool b) => some (.bool b)
    | some (.int n) => if signedMin 64 ≤ n ∧ n ≤ unsignedMax 64 then some (.int n) else none
    | some (.float x) => some (.float x)
    | some (.text s) => some (.text s)
  | sequence tag? items =>
    if (localTag? tag?).isSome then none else (itemContents? items).map .list
  | mapping tag? entries =>
    if (localTag? tag?).isSome then none else (entryContents? entries).map .mapping

/-- The values of the items of a sequence. -/
def itemContents? : List Yaml → Option (List GraphFile.Content)
  | [] => some []
  | y :: rest => (content? y).bind fun v => (itemContents? rest).map (v :: ·)

/-- The keys and values of the entries of a mapping. -/
def entryContents? : List (Yaml × Yaml) → Option (List (GraphFile.Content × GraphFile.Content))
  | [] => some []
  | (k, y) :: rest =>
    (content? k).bind fun k => (content? y).bind fun v =>
      (entryContents? rest).map ((k, v) :: ·)

end

/-- The value without its tag and style if it is a scalar. -/
def asText : Yaml → Yaml
  | scalar _ _ text => scalar none .quoted text
  | y => y

/-- A record that says of which kind it is, as the document types it; the kind itself is a text. -/
def kindedContent? : Yaml → Option GraphFile.Content
  | mapping tag? entries =>
    content? (.mapping tag? (entries.map fun (k, v) =>
      match content? k with
      | some (.text "kind") => (k, v.asText)
      | _ => (k, v)))
  | sequence tag? (kind :: items) => content? (.sequence tag? (kind.asText :: items))
  | y => content? y

end Yaml

namespace GraphFile

/-- YAML documents as sources of entries. -/
def yamlFormat : Format Yaml where
  record? := Yaml.record?
  list? := Yaml.list?
  text? := Yaml.text?
  flag? := Yaml.flag?
  integer? := Yaml.integer?
  choice? := Yaml.choice?
  absent? := Yaml.absent?
  value? := Yaml.value?
  content? := Yaml.kindedContent?

/-- The entries of a YAML file. -/
def ofYaml? (s : String) : Option (List TypeEntry) := (Yaml.read? s).bind yamlFormat.entries?

end GraphFile

end TypeSchema
