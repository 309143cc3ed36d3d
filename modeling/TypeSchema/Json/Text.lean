import TypeSchema.Json.Numeral
import TypeSchema.Text.Numeral

/-!
# Reading JSON

`JsonText` is a document as it is written: repeated keys are still there, in order, and numbers are
spelled out, because the readers of records refuse the first and choose how to read the second.
`JsonText.value?` gives the plain value, where the last of several fields under one key counts.
`JsonText.read?` accepts the grammar of JSON with at most 127 levels of nesting.
-/

namespace TypeSchema

/-- A JSON document as written. -/
inductive JsonText where
  | null
  | bool (b : Bool)
  | number (n : Json.Numeral)
  | string (s : String)
  | array (items : List JsonText)
  | object (fields : List (String × JsonText))
  deriving Inhabited

namespace JsonText

mutual

/-- The plain value; `none` if a number is out of range. -/
def value? : JsonText → Option Json
  | null => some .null
  | bool b => some (.bool b)
  | number n => n.value?
  | string s => some (.string s)
  | array items => (itemValues? items).map .array
  | object fields => (fieldValues? fields).map Json.ofFields

/-- The values of array items. -/
def itemValues? : List JsonText → Option (List Json)
  | [] => some []
  | t :: rest => (value? t).bind fun v => (itemValues? rest).map (v :: ·)

/-- The values of object fields. -/
def fieldValues? : List (String × JsonText) → Option (List (String × Json))
  | [] => some []
  | (k, t) :: rest => (value? t).bind fun v => (fieldValues? rest).map ((k, v) :: ·)

end

/-! ### Leaves -/

/-- A JSON blank. -/
def isSpace (c : Char) : Bool := c = ' ' || c = '\n' || c = '\t' || c = '\r'

/-- The text after leading blanks. -/
def skipSpace (cs : List Char) : List Char := cs.dropWhile isSpace

/-- The text after a given beginning. -/
def stripStart? : List Char → List Char → Option (List Char)
  | [], cs => some cs
  | w :: ws, c :: cs => if w = c then stripStart? ws cs else none
  | _ :: _, [] => none

/-- Splits off leading decimal digits. -/
def takeDigits (cs : List Char) : List Char × List Char :=
  (cs.takeWhile Char.isDigit, cs.dropWhile Char.isDigit)

/-- The digits before the point: a single zero, or digits that do not begin with one. -/
def whole? (cs : List Char) : Option (List Char × List Char) :=
  match takeDigits cs with
  | ([], _) => none
  | (['0'], rest) => some (['0'], rest)
  | ('0' :: _, _) => none
  | (digits, rest) => some (digits, rest)

/-- The digits after the point, if there is one. -/
def fraction? : List Char → Option (Option (List Char) × List Char)
  | '.' :: cs =>
    match takeDigits cs with
    | ([], _) => none
    | (digits, rest) => some (some digits, rest)
  | cs => some (none, cs)

/-- The sign and digits of the exponent, if there is one. -/
def exponent? : List Char → Option (Option (Bool × List Char) × List Char)
  | c :: cs =>
    if c = 'e' ∨ c = 'E' then
      let (negative, cs) := match cs with
        | '+' :: rest => (false, rest)
        | '-' :: rest => (true, rest)
        | _ => (false, cs)
      match takeDigits cs with
      | ([], _) => none
      | (digits, rest) => some (some (negative, digits), rest)
    else some (none, c :: cs)
  | [] => some (none, [])

/-- A number. -/
def number? (cs : List Char) : Option (Json.Numeral × List Char) := do
  let (negative, cs) := match cs with
    | '-' :: rest => (true, rest)
    | _ => (false, cs)
  let (whole, cs) ← whole? cs
  let (fraction, cs) ← fraction? cs
  let (exponent, cs) ← exponent? cs
  return (⟨negative, whole, fraction, exponent⟩, cs)

/-- The code unit of four hexadecimal digits. -/
def codeUnit? : List Char → Option (Nat × List Char)
  | a :: b :: c :: d :: rest => (Text.readDigits? 16 [a, b, c, d]).map (·, rest)
  | _ => none

/-- The character after a backslash and `u`: one code unit, or two that form a pair. -/
def unicodeEscape? (cs : List Char) : Option (Char × List Char) := do
  let (u, rest) ← codeUnit? cs
  if 0xDC00 ≤ u ∧ u ≤ 0xDFFF then none
  else if 0xD800 ≤ u ∧ u ≤ 0xDBFF then
    let rest ← stripStart? ['\\', 'u'] rest
    let (v, rest) ← codeUnit? rest
    if 0xDC00 ≤ v ∧ v ≤ 0xDFFF then
      return (Char.ofNat (0x10000 + (u - 0xD800) * 0x400 + (v - 0xDC00)), rest)
    else none
  else return (Char.ofNat u, rest)

/-- The character after a backslash. -/
def escape? : List Char → Option (Char × List Char)
  | '"' :: rest => some ('"', rest)
  | '\\' :: rest => some ('\\', rest)
  | '/' :: rest => some ('/', rest)
  | 'b' :: rest => some ('\x08', rest)
  | 'f' :: rest => some ('\x0c', rest)
  | 'n' :: rest => some ('\n', rest)
  | 'r' :: rest => some ('\r', rest)
  | 't' :: rest => some ('\t', rest)
  | 'u' :: rest => unicodeEscape? rest
  | _ => none

/-- A text up to its closing quote; `read` holds the characters so far, last first. -/
def textBody? : (fuel : Nat) → (read : List Char) → List Char → Option (String × List Char)
  | 0, _, _ => none
  | _ + 1, _, [] => none
  | fuel + 1, read, c :: rest =>
    if c = '"' then some (String.ofList read.reverse, rest)
    else if c = '\\' then
      match escape? rest with
      | some (d, rest) => textBody? fuel (d :: read) rest
      | none => none
    else if c.toNat < 0x20 then none
    else textBody? fuel (c :: read) rest

/-! ### Documents -/

mutual

/-- A value, inside of which at most `depth` further levels may open. Each call spends one unit of
`fuel`, and no two calls in a row read nothing, so twice the number of characters is enough. -/
def readValue? : (fuel depth : Nat) → List Char → Option (JsonText × List Char)
  | 0, _, _ => none
  | fuel + 1, depth, cs =>
    match skipSpace cs with
    | '"' :: rest => (textBody? (rest.length + 1) [] rest).map fun (s, r) => (string s, r)
    | '[' :: rest =>
      match depth with
      | 0 => none
      | depth + 1 =>
        match skipSpace rest with
        | ']' :: rest => some (array [], rest)
        | _ => (readItems? fuel depth rest).map fun (items, r) => (array items, r)
    | '{' :: rest =>
      match depth with
      | 0 => none
      | depth + 1 =>
        match skipSpace rest with
        | '}' :: rest => some (object [], rest)
        | _ => (readFields? fuel depth rest).map fun (fields, r) => (object fields, r)
    | cs =>
      match stripStart? ['n', 'u', 'l', 'l'] cs with
      | some rest => some (null, rest)
      | none =>
        match stripStart? ['t', 'r', 'u', 'e'] cs with
        | some rest => some (bool true, rest)
        | none =>
          match stripStart? ['f', 'a', 'l', 's', 'e'] cs with
          | some rest => some (bool false, rest)
          | none => (number? cs).map fun (n, r) => (number n, r)

/-- One or more array items and the closing bracket. -/
def readItems? : (fuel depth : Nat) → List Char → Option (List JsonText × List Char)
  | 0, _, _ => none
  | fuel + 1, depth, cs =>
    match readValue? fuel depth cs with
    | none => none
    | some (v, rest) =>
      match skipSpace rest with
      | ',' :: rest => (readItems? fuel depth rest).map fun (vs, r) => (v :: vs, r)
      | ']' :: rest => some ([v], rest)
      | _ => none

/-- One or more object fields and the closing brace. -/
def readFields? : (fuel depth : Nat) → List Char → Option (List (String × JsonText) × List Char)
  | 0, _, _ => none
  | fuel + 1, depth, cs =>
    match skipSpace cs with
    | '"' :: rest =>
      match textBody? (rest.length + 1) [] rest with
      | none => none
      | some (k, rest) =>
        match skipSpace rest with
        | ':' :: rest =>
          match readValue? fuel depth rest with
          | none => none
          | some (v, rest) =>
            match skipSpace rest with
            | ',' :: rest => (readFields? fuel depth rest).map fun (fs, r) => ((k, v) :: fs, r)
            | '}' :: rest => some ([(k, v)], rest)
            | _ => none
        | _ => none
    | _ => none

end

/-- The number of levels of arrays and objects that a document may nest. -/
def nestingLimit : Nat := 127

/-- A whole document. -/
def read? (s : String) : Option JsonText :=
  let cs := s.toList
  match readValue? (2 * cs.length + 2) nestingLimit cs with
  | some (t, rest) => if (skipSpace rest).isEmpty then some t else none
  | none => none

end JsonText

/-- The value of a whole document. -/
def Json.read? (s : String) : Option Json := (JsonText.read? s).bind (·.value?)

end TypeSchema
