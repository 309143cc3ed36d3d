import TypeSchema.Number.Nearest
import TypeSchema.Yaml.Parser

/-!
# YAML values

A value is a node whose aliases have been replaced by what they refer to. An alias may refer to a
node that it is part of, so the replacement is limited: to 128 levels of collections, and to a
hundred times as many replacements as the document has events.
-/

namespace TypeSchema

/-- A YAML value. -/
inductive Yaml where
  /-- A document without content. -/
  | void
  | scalar (tag? : Option String) (style : Yaml.ScalarStyle) (text : String)
  | sequence (tag? : Option String) (items : List Yaml)
  | mapping (tag? : Option String) (entries : List (Yaml × Yaml))
  deriving Inhabited

namespace Yaml

/-! ### Resolving aliases -/

mutual

/-- The anchored nodes within a node, in the order in which they begin. -/
def Node.anchored : Node → List (Nat × Node)
  | .alias _ => []
  | .scalar anchor? tag? style text =>
    anchor?.toList.map (·, .scalar none tag? style text)
  | .sequence anchor? tag? items =>
    anchor?.toList.map (·, .sequence none tag? items) ++ anchoredItems items
  | .mapping anchor? tag? entries =>
    anchor?.toList.map (·, .mapping none tag? entries) ++ anchoredEntries entries

/-- The anchored nodes within the items of a sequence. -/
def anchoredItems : List Node → List (Nat × Node)
  | [] => []
  | n :: rest => n.anchored ++ anchoredItems rest

/-- The anchored nodes within the entries of a mapping. -/
def anchoredEntries : List (Node × Node) → List (Nat × Node)
  | [] => []
  | (k, v) :: rest => k.anchored ++ (v.anchored ++ anchoredEntries rest)

end

mutual

/-- The number of events of a node: one for each scalar and alias and two for each collection. -/
def Node.events : Node → Nat
  | .alias _ => 1
  | .scalar _ _ _ _ => 1
  | .sequence _ _ items => 2 + itemEvents items
  | .mapping _ _ entries => 2 + entryEvents entries

/-- The number of events of the items of a sequence. -/
def itemEvents : List Node → Nat
  | [] => 0
  | n :: rest => n.events + itemEvents rest

/-- The number of events of the entries of a mapping. -/
def entryEvents : List (Node × Node) → Nat
  | [] => 0
  | (k, v) :: rest => k.events + v.events + entryEvents rest

end

/-- Reads the items of a list one after the other, each with the replacements that the others have
left. -/
def forEach? {α β : Type} (read? : α → Nat → Option (β × Nat)) :
    List α → Nat → Option (List β × Nat)
  | [], left => some ([], left)
  | x :: rest, left =>
    match read? x left with
    | none => none
    | some (y, left) => (forEach? read? rest left).map fun (ys, left) => (y :: ys, left)

/-- The node that an alias refers to, and the number of replacements that are left. -/
def Node.target? (anchored : List (Nat × Node)) (left : Nat) : Node → Option (Node × Nat)
  | .alias n =>
    match left with
    | 0 => none
    | left + 1 => (anchored.lookup n).map (·, left)
  | n => some (n, left)

/-- The value of a node, inside of which at most `depth` levels of collections may open. -/
def Node.value? (anchored : List (Nat × Node)) : (depth : Nat) → Node → (left : Nat) →
    Option (Yaml × Nat)
  | depth, n, left =>
    match n.target? anchored left with
    | none => none
    | some (.alias _, _) => none
    | some (.scalar _ tag? style text, left) => some (.scalar tag? style text, left)
    | some (.sequence _ tag? items, left) =>
      match depth with
      | 0 => none
      | depth + 1 =>
        (forEach? (Node.value? anchored depth) items left).map fun (ys, left) =>
          (.sequence tag? ys, left)
    | some (.mapping _ tag? entries, left) =>
      match depth with
      | 0 => none
      | depth + 1 =>
        let entry? (e : Node × Node) (left : Nat) : Option ((Yaml × Yaml) × Nat) := do
          let (k, left) ← Node.value? anchored depth e.1 left
          let (v, left) ← Node.value? anchored depth e.2 left
          return ((k, v), left)
        (forEach? entry? entries left).map fun (ys, left) => (.mapping tag? ys, left)

/-- The number of levels of collections that a document may nest. -/
def nestingLimit : Nat := 128

/-- Reads a text with at most one document. -/
def read? (s : String) : Option Yaml :=
  match parse? s with
  | none => none
  | some none => some .void
  | some (some n) =>
    (n.value? n.anchored.reverse nestingLimit (100 * n.events)).map (·.1)

/-! ### Scalars -/

/-- The tag of texts, numbers and so on, whose names the standard gives. -/
def coreTag (name : String) : String := "tag:yaml.org,2002:" ++ name

/-- Whether a tag is the document's own: the name of an alternative rather than of a type. -/
def localTag? : Option String → Option String
  | some tag =>
    match tag.toList with
    | ['!'] => some "!"
    | '!' :: name => some (String.ofList name)
    | _ => none
  | none => none

/-- Whether a plain text stands for null. -/
def isNullText (s : String) : Bool := s ∈ ["null", "Null", "NULL", "~"]

/-- The truth value that a text stands for. -/
def boolOf? (s : String) : Option Bool :=
  if s ∈ ["true", "True", "TRUE"] then some true
  else if s ∈ ["false", "False", "FALSE"] then some false
  else none

/-- Whether a text has a zero before other digits, which makes it no number. -/
def hasLeadingZero (cs : List Char) : Bool :=
  let cs := match cs with
    | '+' :: rest => rest
    | '-' :: rest => rest
    | _ => cs
  match cs with
  | '0' :: d :: rest => (d :: rest).all Char.isDigit
  | _ => false

/-- The digits of a number in a radix that its first two characters tell. -/
def magnitude? : List Char → Option Nat
  | '0' :: 'x' :: rest => Text.readDigits? 16 rest
  | '0' :: 'o' :: rest => Text.readDigits? 8 rest
  | '0' :: 'b' :: rest => Text.readDigits? 2 rest
  | cs => if hasLeadingZero cs then none else Text.readDigits? 10 cs

/-- The integer that a text stands for. -/
def intOf? (s : String) : Option Int :=
  match s.toList with
  | '+' :: rest => (magnitude? rest).map fun n => n
  | '-' :: rest => (magnitude? rest).map fun n => -n
  | cs => (magnitude? cs).map fun n => n

/-- The digits before and after the point of a decimal, and its exponent. -/
def decimalParts? (cs : List Char) : Option (List Char × List Char × Int) := do
  let whole := cs.takeWhile Char.isDigit
  let rest := cs.dropWhile Char.isDigit
  let (fraction, rest) := match rest with
    | '.' :: rest => (rest.takeWhile Char.isDigit, rest.dropWhile Char.isDigit)
    | _ => ([], rest)
  if whole.isEmpty && fraction.isEmpty then none
  else
    match rest with
    | [] => return (whole, fraction, 0)
    | e :: rest =>
      if e = 'e' ∨ e = 'E' then
        let (negative, digits) := match rest with
          | '-' :: rest => (true, rest)
          | '+' :: rest => (false, rest)
          | _ => (false, rest)
        if digits.all Char.isDigit then
          let n ← Text.readDigits? 10 digits
          return (whole, fraction, Binary64.signed negative n)
        else none
      else none

/-- The double nearest to a decimal, if it is in range. -/
def decimalOf? (negative : Bool) (cs : List Char) : Option Float := do
  let (whole, fraction, exponent) ← decimalParts? cs
  let digits ← Text.readDigits? 10 (whole ++ fraction)
  match Binary64.ofDecimal negative ⟨digits, exponent - fraction.length⟩ with
  | .finite negative m e => return (Binary64.finite negative m e).toFloat
  | _ => none

/-- The double that a text stands for. -/
def floatOf? (s : String) : Option Float :=
  if s ∈ [".nan", ".NaN", ".NAN"] then some Binary64.nan.toFloat
  else
    let (negative, rest) := match s.toList with
      | '+' :: rest => (false, rest)
      | '-' :: rest => (true, rest)
      | cs => (false, cs)
    if String.ofList rest ∈ [".inf", ".Inf", ".INF"] then
      some (Binary64.infinite negative).toFloat
    else decimalOf? negative rest

/-- What a scalar without a type of its own stands for. -/
inductive Typed where
  | null
  | bool (b : Bool)
  | int (n : Int)
  | float (x : Float)
  | text (s : String)

/-- The integer that a text stands for; the text is too large for one beyond 128 bits. -/
def wideIntOf? (s : String) : Option Int :=
  (intOf? s).filter fun n => signedMin 128 ≤ n ∧ n ≤ unsignedMax 128

/-- The type of a plain text by what it looks like. -/
def typedText (s : String) : Typed :=
  if s.isEmpty ∨ isNullText s then .null
  else
    match boolOf? s with
    | some b => .bool b
    | none =>
      match wideIntOf? s with
      | some n => .int n
      | none =>
        if hasLeadingZero s.toList then .text s
        else
          match floatOf? s with
          | some x => .float x
          | none => .text s

/-- The type of a scalar: the one that its tag names, or the one that a plain text looks like. A
text that does not fit its tag, and a tag of the document's own, have none. -/
def typedScalar? (tag? : Option String) (style : ScalarStyle) (text : String) : Option Typed :=
  match tag? with
  | some tag =>
    if (localTag? (some tag)).isSome then none
    else if tag = coreTag "bool" then (boolOf? text).map .bool
    else if tag = coreTag "int" then (wideIntOf? text).map .int
    else if tag = coreTag "float" then (floatOf? text).map .float
    else if tag = coreTag "null" then if isNullText text then some .null else none
    else some (.text text)
  | none => some (if style = .plain then typedText text else .text text)

end Yaml

end TypeSchema
