import TypeSchema.Number.Nearest
import TypeSchema.Text.Numeral
import TypeSchema.Toml.Value

/-!
# Reading TOML

A document is a list of lines, each with at most one statement: the header of a table, or a key and
its value. Arrays, inline tables and long texts may go over several lines. A reader takes the
characters still to be read and returns what is left of them.
-/

namespace TypeSchema.Toml

/-! ### Blanks -/

/-- A blank inside of a line. -/
def isSpace (c : Char) : Bool := c = ' ' || c = '\t'

/-- Whether a character may stand in texts and comments: any but the control characters. -/
def isPrintable (c : Char) : Bool := (0x20 ≤ c.toNat && c.toNat ≠ 0x7F) || c = '\t'

/-- The text after leading blanks. -/
def skipSpace (cs : List Char) : List Char := cs.dropWhile isSpace

/-- The text after a given beginning. -/
def after? : List Char → List Char → Option (List Char)
  | [], cs => some cs
  | w :: ws, c :: cs => if w = c then after? ws cs else none
  | _ :: _, [] => none

/-- The text after the end of a line. -/
def newline? : List Char → Option (List Char)
  | '\n' :: rest => some rest
  | '\r' :: '\n' :: rest => some rest
  | _ => none

/-- The text after blanks and a comment: the end of the line, or another token. -/
def skipComment? (cs : List Char) : Option (List Char) :=
  match skipSpace cs with
  | '#' :: rest =>
    let rest := rest.dropWhile isPrintable
    if rest.isEmpty || (newline? rest).isSome then some rest else none
  | rest => some rest

/-- The text after blanks, comments and the ends of lines. Each round but the last ends a line. -/
def skipLines? : (fuel : Nat) → List Char → Option (List Char)
  | 0, cs => some cs
  | fuel + 1, cs =>
    match skipComment? cs with
    | none => none
    | some rest =>
      match newline? rest with
      | some rest => skipLines? fuel rest
      | none => some rest

/-- The text after blanks, comments and the ends of lines. -/
def skipAll? (cs : List Char) : Option (List Char) := skipLines? (cs.length + 1) cs

/-! ### Texts -/

/-- The character of so many hexadecimal digits. -/
def hexChar? (width : Nat) (cs : List Char) : Option (Char × List Char) := do
  if cs.length < width then none
  else
    let n ← Text.readDigits? 16 (cs.take width)
    if n < 0x110000 ∧ ¬(0xD800 ≤ n ∧ n ≤ 0xDFFF) then return (Char.ofNat n, cs.drop width) else none

/-- The character after a backslash. -/
def escape? : List Char → Option (Char × List Char)
  | 'b' :: rest => some ('\x08', rest)
  | 't' :: rest => some ('\t', rest)
  | 'n' :: rest => some ('\n', rest)
  | 'f' :: rest => some ('\x0c', rest)
  | 'r' :: rest => some ('\r', rest)
  | 'e' :: rest => some ('\x1b', rest)
  | '"' :: rest => some ('"', rest)
  | '\\' :: rest => some ('\\', rest)
  | 'x' :: rest => hexChar? 2 rest
  | 'u' :: rest => hexChar? 4 rest
  | 'U' :: rest => hexChar? 8 rest
  | _ => none

/-- A text of one line up to its closing quote; `read` holds the characters so far, last first. Only
between double quotes there are escapes. -/
def line? (quote : Char) : (fuel : Nat) → (read : List Char) → List Char →
    Option (String × List Char)
  | 0, _, _ => none
  | _ + 1, _, [] => none
  | fuel + 1, read, c :: rest =>
    if c = quote then some (String.ofList read.reverse, rest)
    else if c = '\\' ∧ quote = '"' then
      match escape? rest with
      | some (d, rest) => line? quote fuel (d :: read) rest
      | none => none
    else if isPrintable c then line? quote fuel (c :: read) rest
    else none

/-- The text after a backslash at the end of a line: after the blanks and ends of lines behind
it. -/
def joinedLine? (cs : List Char) : Option (List Char) :=
  (newline? (skipSpace cs)).map fun rest =>
    rest.dropWhile fun c => isSpace c || c = '\n' || c = '\r'

/-- A text of several lines up to its three closing quotes. Up to two quotes more right before them
belong to the text. -/
def lines? (quote : Char) : (fuel : Nat) → (read : List Char) → List Char →
    Option (String × List Char)
  | 0, _, _ => none
  | _ + 1, _, [] => none
  | fuel + 1, read, c :: rest =>
    if c = quote then
      let count := 1 + (rest.takeWhile (· = quote)).length
      if count < 3 then lines? quote fuel (c :: read) rest
      else
        let inner := min 2 (count - 3)
        some (String.ofList (List.replicate inner quote ++ read).reverse, rest.drop (inner + 2))
    else if c = '\\' ∧ quote = '"' then
      match joinedLine? rest with
      | some rest => lines? quote fuel read rest
      | none =>
        match escape? rest with
        | some (d, rest) => lines? quote fuel (d :: read) rest
        | none => none
    else if c = '\r' then
      if rest.head? = some '\n' then lines? quote fuel (c :: read) rest else none
    else if isPrintable c || c = '\n' then lines? quote fuel (c :: read) rest
    else none

/-- A text after its first quote. -/
def text? (quote : Char) (cs : List Char) : Option (String × List Char) :=
  match after? [quote, quote] cs with
  | some rest =>
    let rest := (newline? rest).getD rest
    lines? quote (rest.length + 1) [] rest
  | none => line? quote (cs.length + 1) [] cs

/-! ### Keys -/

/-- Whether a character may stand in a key without quotes. -/
def isBareChar (c : Char) : Bool := c.isAlphanum || c = '_' || c = '-'

/-- One part of a key. -/
def simpleKey? (cs : List Char) : Option (String × List Char) :=
  match cs with
  | '"' :: rest => line? '"' (rest.length + 1) [] rest
  | '\'' :: rest => line? '\'' (rest.length + 1) [] rest
  | cs =>
    match cs.takeWhile isBareChar with
    | [] => none
    | key => some (String.ofList key, cs.dropWhile isBareChar)

/-- A key with dots between its parts. -/
def key? : (fuel : Nat) → List Char → Option (List String × List Char)
  | 0, _ => none
  | fuel + 1, cs =>
    match simpleKey? (skipSpace cs) with
    | none => none
    | some (part, rest) =>
      match skipSpace rest with
      | '.' :: rest => (key? fuel rest).map fun (parts, r) => (part :: parts, r)
      | rest => some ([part], rest)

/-! ### Numbers -/

/-- Removes underlines that stand between two digits each. -/
def withoutUnderlines? : List Char → Option (List Char)
  | [] => some []
  | c :: '_' :: d :: rest =>
    if c = '_' ∨ d = '_' then none else (withoutUnderlines? (d :: rest)).map (c :: ·)
  | c :: rest => if c = '_' then none else (withoutUnderlines? rest).map (c :: ·)
termination_by cs => cs.length

/-- Whether a character may stand in a number in a radix. -/
def isDigitOrUnderline (radix : Nat) (c : Char) : Bool :=
  (Text.digitValue? radix c).isSome || c = '_'

/-- Digits, perhaps with underlines between them. -/
def digits? (radix : Nat) (cs : List Char) : Option (List Char × List Char) :=
  match withoutUnderlines? (cs.takeWhile (isDigitOrUnderline radix)) with
  | some [] => none
  | some digits => some (digits, cs.dropWhile (isDigitOrUnderline radix))
  | none => none

/-- Digits that do not begin with a superfluous zero. -/
def whole? (cs : List Char) : Option (List Char × List Char) :=
  match digits? 10 cs with
  | some ('0' :: _ :: _, _) => none
  | r => r

/-- The digits after a point, if there is one. -/
def fraction? : List Char → Option (Option (List Char) × List Char)
  | '.' :: rest => (digits? 10 rest).map fun (ds, r) => (some ds, r)
  | cs => some (none, cs)

/-- The exponent, if there is one. -/
def exponent? : List Char → Option (Option Int × List Char)
  | c :: rest =>
    if c = 'e' ∨ c = 'E' then
      let (negative, rest) := match rest with
        | '-' :: rest => (true, rest)
        | '+' :: rest => (false, rest)
        | _ => (false, rest)
      match digits? 10 rest with
      | some (ds, rest) =>
        (Text.readDigits? 10 ds).map fun n => (some (Binary64.signed negative n), rest)
      | none => none
    else some (none, c :: rest)
  | [] => some (none, [])

/-- The double nearest to a decimal; `none` if it is out of range. -/
def float? (negative : Bool) (whole fraction : List Char) (exponent : Int) : Option Toml :=
  match Text.readDigits? 10 (whole ++ fraction) with
  | none => none
  | some digits =>
    match Binary64.ofDecimal negative ⟨digits, exponent - fraction.length⟩ with
    | .finite negative m e => some (.float (Binary64.finite negative m e).toFloat)
    | _ => none

/-- A decimal number without its sign. -/
def unsigned? (negative : Bool) (cs : List Char) : Option (Toml × List Char) :=
  match after? ['i', 'n', 'f'] cs with
  | some rest => some (.float (Binary64.infinite negative).toFloat, rest)
  | none =>
    match after? ['n', 'a', 'n'] cs with
    | some rest => some (.float Binary64.nan.toFloat, rest)
    | none => do
      let (whole, rest) ← whole? cs
      let (fraction?, rest) ← fraction? rest
      let (exponent?, rest) ← exponent? rest
      match fraction?, exponent? with
      | none, none =>
        let n ← Text.readDigits? 10 whole
        return (.integer (Binary64.signed negative n), rest)
      | fraction?, exponent? =>
        let x ← float? negative whole (fraction?.getD []) (exponent?.getD 0)
        return (x, rest)

/-- A number in a radix that its first two characters tell. -/
def inRadix? (radix : Nat) (cs : List Char) : Option (Toml × List Char) := do
  let (digits, rest) ← digits? radix cs
  let n ← Text.readDigits? radix digits
  return (.integer n, rest)

/-- A number. -/
def number? : List Char → Option (Toml × List Char)
  | '0' :: 'x' :: rest => inRadix? 16 rest
  | '0' :: 'o' :: rest => inRadix? 8 rest
  | '0' :: 'b' :: rest => inRadix? 2 rest
  | '+' :: rest => unsigned? false rest
  | '-' :: rest => unsigned? true rest
  | cs => unsigned? false cs

/-! ### Dates and times -/

/-- So many decimal digits. -/
def fixedDigits? (width : Nat) (cs : List Char) : Option (Nat × List Char) :=
  let digits := cs.take width
  if digits.length = width ∧ digits.all Char.isDigit then
    (Text.readDigits? 10 digits).map (·, cs.drop width)
  else none

/-- The number of days of a month. -/
def daysOf (year month : Nat) : Nat :=
  if month ∈ [4, 6, 9, 11] then 30
  else if month = 2 then
    if year % 4 = 0 ∧ (year % 100 ≠ 0 ∨ year % 400 = 0) then 29 else 28
  else 31

/-- The text after a date. -/
def date? (cs : List Char) : Option (List Char) := do
  let (year, rest) ← fixedDigits? 4 cs
  let (month, rest) ← (after? ['-'] rest).bind (fixedDigits? 2)
  let (day, rest) ← (after? ['-'] rest).bind (fixedDigits? 2)
  if 1 ≤ month ∧ month ≤ 12 ∧ 1 ≤ day ∧ day ≤ daysOf year month then some rest else none

/-- The text after the seconds and their fraction, which may be missing. -/
def seconds? (cs : List Char) : Option (List Char) :=
  match cs with
  | ':' :: rest => do
    let (second, rest) ← fixedDigits? 2 rest
    if 60 < second then none
    else
      match rest with
      | '.' :: rest =>
        match rest.takeWhile Char.isDigit with
        | [] => none
        | _ => some (rest.dropWhile Char.isDigit)
      | _ => some rest
  | _ => some cs

/-- The text after a time of a day. -/
def time? (cs : List Char) : Option (List Char) := do
  let (hour, rest) ← fixedDigits? 2 cs
  let (minute, rest) ← (after? [':'] rest).bind (fixedDigits? 2)
  if hour ≤ 23 ∧ minute ≤ 59 then seconds? rest else none

/-- The text after the offset from universal time, which may be missing. -/
def offset? (cs : List Char) : Option (List Char) :=
  match cs with
  | c :: rest =>
    if c = 'Z' ∨ c = 'z' then some rest
    else if c = '+' ∨ c = '-' then do
      let (hour, rest) ← fixedDigits? 2 rest
      let (minute, rest) ← (after? [':'] rest).bind (fixedDigits? 2)
      if hour ≤ 23 ∧ minute ≤ 59 then some rest else none
    else some cs
  | [] => some []

/-- Whether a text begins with a date rather than a number. -/
def beginsDate (cs : List Char) : Bool :=
  (cs.take 4).all Char.isDigit && cs[4]? == some '-'

/-- Whether a text begins with a time rather than a number. -/
def beginsTime (cs : List Char) : Bool :=
  (cs.take 2).all Char.isDigit && cs[2]? == some ':'

/-- The text after a date, and a time if one follows. -/
def dateTime? (cs : List Char) : Option (List Char) := do
  let rest ← date? cs
  match rest with
  | c :: inner =>
    if c = 'T' ∨ c = 't' ∨ (c = ' ' ∧ beginsTime inner) then (time? inner).bind offset?
    else some rest
  | [] => some []

/-! ### Values -/

/-- A truth value, a date, a time or a number. -/
def plain? (cs : List Char) : Option (Toml × List Char) :=
  match after? ['t', 'r', 'u', 'e'] cs with
  | some rest => some (.bool true, rest)
  | none =>
    match after? ['f', 'a', 'l', 's', 'e'] cs with
    | some rest => some (.bool false, rest)
    | none =>
      if beginsDate cs then (dateTime? cs).map (.datetime, ·)
      else if beginsTime cs then (time? cs).map (.datetime, ·)
      else number? cs

mutual

/-- A value, inside of which at most `depth` further levels may open. Each call spends one unit of
`fuel`, and no two calls in a row read nothing, so twice the number of characters is enough. -/
def readValue? : (fuel depth : Nat) → List Char → Option (Toml × List Char)
  | 0, _, _ => none
  | fuel + 1, depth, cs =>
    match cs with
    | '"' :: rest => (text? '"' rest).map fun (s, r) => (.string s, r)
    | '\'' :: rest => (text? '\'' rest).map fun (s, r) => (.string s, r)
    | '[' :: rest =>
      match depth with
      | 0 => none
      | depth + 1 => (readItems? fuel depth rest).map fun (vs, r) => (.array vs, r)
    | '{' :: rest =>
      match depth with
      | 0 => none
      | depth + 1 => readFields? fuel depth (.table .inline []) rest
    | cs => plain? cs

/-- The rest of an array, up to the bracket that closes it. A comma may stand after the last
item. -/
def readItems? : (fuel depth : Nat) → List Char → Option (List Toml × List Char)
  | 0, _, _ => none
  | fuel + 1, depth, cs =>
    match skipAll? cs with
    | none => none
    | some (']' :: rest) => some ([], rest)
    | some rest =>
      match readValue? fuel depth rest with
      | none => none
      | some (v, rest) =>
        match skipAll? rest with
        | some (',' :: rest) => (readItems? fuel depth rest).map fun (vs, r) => (v :: vs, r)
        | some (']' :: rest) => some ([v], rest)
        | _ => none

/-- The rest of an inline table, up to the brace that closes it. A comma may stand after the last
entry. -/
def readFields? : (fuel depth : Nat) → Toml → List Char → Option (Toml × List Char)
  | 0, _, _, _ => none
  | fuel + 1, depth, t, cs =>
    match skipAll? cs with
    | none => none
    | some ('}' :: rest) => some (t, rest)
    | some rest =>
      match key? (rest.length + 1) rest with
      | some (key, '=' :: rest) =>
        match readValue? fuel depth (skipSpace rest) with
        | none => none
        | some (v, rest) =>
          match setDotted v key t with
          | none => none
          | some t =>
            match skipAll? rest with
            | some (',' :: rest) => readFields? fuel depth t rest
            | some ('}' :: rest) => some (t, rest)
            | _ => none
      | _ => none

end

/-! ### Documents -/

/-- The number of levels of arrays and inline tables that a value may nest. -/
def nestingLimit : Nat := 80

/-- A statement. -/
def statement? (cs : List Char) : Option (Statement × List Char) :=
  match cs with
  | '[' :: '[' :: rest =>
    match key? (rest.length + 1) rest with
    | some (path, ']' :: ']' :: rest) => some (.element path, rest)
    | _ => none
  | '[' :: rest =>
    match key? (rest.length + 1) rest with
    | some (path, ']' :: rest) => some (.table path, rest)
    | _ => none
  | cs =>
    match key? (cs.length + 1) cs with
    | some (key, '=' :: rest) =>
      (readValue? (2 * rest.length + 2) nestingLimit (skipSpace rest)).map fun (v, r) =>
        (.entry key v, r)
    | _ => none

/-- The statements of a text. Every call but the last reads a character. -/
def statements? : (fuel : Nat) → List Char → Option (List Statement)
  | 0, _ => none
  | fuel + 1, cs =>
    match skipAll? cs with
    | none => none
    | some [] => some []
    | some rest =>
      match statement? rest with
      | none => none
      | some (s, rest) =>
        match skipComment? rest with
        | none => none
        | some rest =>
          if rest.isEmpty || (newline? rest).isSome then
            (statements? fuel rest).map (s :: ·)
          else none

/-- Reads a document. A byte order mark may stand at the beginning. -/
def read? (s : String) : Option Toml :=
  let cs := match s.toList with
    | '\ufeff' :: rest => rest
    | cs => cs
  (statements? (cs.length + 1) cs).bind (assemble [] emptyDocument)

end TypeSchema.Toml
