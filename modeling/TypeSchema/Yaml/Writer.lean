import TypeSchema.Json.Value
import TypeSchema.Number.Shortest
import TypeSchema.Yaml.Value

/-!
# Writing YAML

JSON values are written in block style: a mapping is indented by two columns below the key that
holds it, a sequence not at all. A text is written plainly if it reads back as that text; else
between single quotes, or, if it has characters that need escapes, between double quotes. A text of
several lines is written as a literal block.

The text of a value begins behind the colon or the hyphen before it, and ends with the end of a
line.
-/

namespace TypeSchema.Yaml

/-! ### The shape of texts -/

/-- Whether a character can be written as it is. -/
def isPrintable (c : Char) : Bool :=
  let n := c.toNat
  n = 0x0A || (0x20 ≤ n && n ≤ 0x7E) || (0xA0 ≤ n && n ≤ 0xD7FF) ||
    (0xE000 ≤ n && n ≤ 0xFFFD && n ≠ 0xFEFF)

/-- Whether a text contains two characters of two kinds, one right after the other. -/
def hasAdjacent (p q : Char → Bool) : List Char → Bool
  | a :: b :: rest => (p a && q b) || hasAdjacent p q (b :: rest)
  | _ => false

/-- Whether a colon before a blank, or a number sign behind one, makes a text after its first
character more than a plain scalar. -/
def hasInnerMark : List Char → Bool
  | [] => false
  | c :: rest =>
    (c = ':' && endsWord rest) || (!isInk c && rest.head? = some '#') || hasInnerMark rest

/-- Whether a text begins like something other than a plain scalar. -/
def hasLeadingMark : List Char → Bool
  | '-' :: '-' :: '-' :: _ => true
  | '.' :: '.' :: '.' :: _ => true
  | c :: rest =>
    c ∈ "#,[]{}&*!|>'\"%@\x60".toList || (c ∈ ['?', ':', '-'] && endsWord rest)
  | [] => false

/-- Whether a character is a space. -/
def isSpaceChar (c : Char) : Bool := c = ' '

/-- Whether a text needs escapes: it has a character that cannot be written as it is, or a space
right before the end of a line. -/
def needsEscapes (cs : List Char) : Bool :=
  cs.any (!isPrintable ·) || hasAdjacent isSpaceChar isBreak cs

/-- Whether a text may be written between single quotes. -/
def fitsQuotes (cs : List Char) : Bool := !needsEscapes cs && !hasAdjacent isBreak isSpaceChar cs

/-- Whether a text may be written plainly, as far as its characters are concerned. -/
def fitsPlain (cs : List Char) : Bool :=
  fitsQuotes cs && !cs.any isBreak && !hasLeadingMark cs && !hasInnerMark cs &&
    cs.head? ≠ some ' ' && cs.getLast? ≠ some ' '

/-- Whether a text may be written as a block. -/
def fitsBlock (cs : List Char) : Bool :=
  !cs.isEmpty && !needsEscapes cs && cs.getLast? ≠ some ' '

/-- The words that older readers take for truth values. -/
def oldBooleans : List String :=
  ["y", "Y", "yes", "Yes", "YES", "n", "N", "no", "No", "NO", "on", "On", "ON", "off", "Off", "OFF"]

/-- Whether a text, written plainly, reads as a text. -/
def readsAsText (s : String) : Bool :=
  match typedText s with
  | .text _ => !hasLeadingZero s.toList && s ∉ oldBooleans
  | _ => false

/-! ### Writing texts -/

/-- So many spaces. -/
def spaces (n : Nat) : List Char := List.replicate n ' '

/-- The escapes that have a letter or sign of their own. -/
def writtenEscapes : List (Char × Char) :=
  [('\x00', '0'), ('\x07', 'a'), ('\x08', 'b'), ('\t', 't'), ('\n', 'n'), ('\x0b', 'v'),
    ('\x0c', 'f'), ('\r', 'r'), ('\x1b', 'e'), ('"', '"'), ('\\', '\\'), ('\u0085', 'N'),
    ('\u00a0', '_'), ('\u2028', 'L'), ('\u2029', 'P')]

/-- A character's number in capital hexadecimal digits, of a fixed width. -/
def hexOf (width : Nat) (c : Char) : List Char :=
  ((Text.hexPadded width c.toNat).map Char.toUpper).toList

/-- A character between double quotes. -/
def escaped (c : Char) : List Char :=
  if isPrintable c && !isBreak c && c ≠ '"' && c ≠ '\\' then [c]
  else
    match writtenEscapes.lookup c with
    | some e => ['\\', e]
    | none =>
      if c.toNat ≤ 0xFF then '\\' :: 'x' :: hexOf 2 c
      else if c.toNat ≤ 0xFFFF then '\\' :: 'u' :: hexOf 4 c
      else '\\' :: 'U' :: hexOf 8 c

/-- A text between double quotes. -/
def doubleQuoted (cs : List Char) : List Char := '"' :: cs.flatMap escaped ++ ['"']

/-- The characters of a text between single quotes, where the beginning of a line is indented. -/
def singleInner (indent : Nat) : (lineStart : Bool) → List Char → List Char
  | lineStart, [] => if lineStart then spaces indent else []
  | lineStart, c :: rest =>
    if isBreak c then c :: singleInner indent true rest
    else
      let before := if lineStart then spaces indent else []
      let written := if c = '\'' then ['\'', '\''] else [c]
      before ++ written ++ singleInner indent false rest

/-- A text between single quotes. -/
def singleQuoted (indent : Nat) (cs : List Char) : List Char :=
  '\'' :: singleInner indent false cs ++ ['\'']

/-- The lines of a literal block, each indented unless it is empty. -/
def literalLines (indent : Nat) : (lineStart : Bool) → List Char → List Char
  | _, [] => []
  | lineStart, c :: rest =>
    if isBreak c then c :: literalLines indent true rest
    else (if lineStart then spaces indent else []) ++ c :: literalLines indent false rest

/-- What the header of a literal block says of its indentation and of the ends of lines after it. -/
def literalHints (cs : List Char) : List Char :=
  let indentation := if cs.head?.any (fun c => c = ' ' || isBreak c) then ['2'] else []
  let chomping := match cs.reverse with
    | [] => ['-']
    | last :: before =>
      if !isBreak last then ['-']
      else if before.isEmpty || before.head?.any isBreak then ['+']
      else []
  indentation ++ chomping

/-- A literal block with its indicator. -/
def literalBlock (indent : Nat) (cs : List Char) : List Char :=
  '|' :: literalHints cs ++ '\n' :: literalLines indent true cs

/-- A text as a scalar; `block` tells whether it may be written as a block. -/
def scalarText (indent : Nat) (block : Bool) (s : String) : List Char :=
  let cs := s.toList
  if cs.contains '\n' then
    if block && fitsBlock cs then literalBlock indent cs else doubleQuoted cs
  else if readsAsText s && fitsPlain cs && !cs.isEmpty then cs
  else if fitsQuotes cs && (block || !cs.any isBreak) then singleQuoted indent cs
  else doubleQuoted cs

/-- The style of doubles: like JSON's, but without a plus sign. -/
def floatStyle : DecimalStyle := ⟨-5, 16, false⟩

/-- A double as a scalar. -/
def floatText (x : Float) : String :=
  match Binary64.ofFloat x with
  | .nan => ".nan"
  | .infinite negative => if negative then "-.inf" else ".inf"
  | b => (b.text? floatStyle).getD ""

/-- Ends a line, unless a block has ended it. -/
def endLine (cs : List Char) : List Char :=
  if cs.getLast?.any isBreak then cs else cs ++ ['\n']

/-! ### Writing values -/

/-- Whether a key may stand on one line with its value. -/
def isSimpleKey (key : String) : Bool := key.utf8ByteSize ≤ 128 && !key.toList.any isBreak

/-- Puts entries under each other at a column. -/
def stack (indent : Nat) (entries : List (List Char)) : List Char :=
  entries.flatMap fun e => spaces indent ++ e

/-- Puts entries under each other at a column, the first one where the line stands. -/
def stackFrom (indent : Nat) : List (List Char) → List Char
  | [] => []
  | e :: rest => e ++ stack indent rest

mutual

/-- A value behind the colon of a simple key at a column. -/
def underKey (indent : Nat) : Json → List Char
  | .array (v :: vs) => '\n' :: stack indent (itemTexts indent (v :: vs))
  | .object (f :: fs) => '\n' :: stack (indent + 2) (entryTexts (indent + 2) (f :: fs))
  | v => ' ' :: leafText indent v

/-- A value behind a hyphen, or behind the mark of a key or value that is not simple, at a column.
-/
def underMark (indent : Nat) : Json → List Char
  | .array (v :: vs) => ' ' :: stackFrom (indent + 2) (itemTexts (indent + 2) (v :: vs))
  | .object (f :: fs) => ' ' :: stackFrom (indent + 2) (entryTexts (indent + 2) (f :: fs))
  | v => ' ' :: leafText indent v

/-- A value without parts. -/
def leafText (indent : Nat) : Json → List Char
  | .null => "null\n".toList
  | .bool b => (if b then "true\n" else "false\n").toList
  | .int n => (toString n ++ "\n").toList
  | .float x => (floatText x ++ "\n").toList
  | .string s => endLine (scalarText (indent + 2) true s)
  | .array _ => "[]\n".toList
  | .object _ => "\x7b\x7d\n".toList

/-- The items of a sequence at a column. -/
def itemTexts (indent : Nat) : List Json → List (List Char)
  | [] => []
  | v :: rest => ('-' :: underMark indent v) :: itemTexts indent rest

/-- The entries of a mapping at a column. -/
def entryTexts (indent : Nat) : List (String × Json) → List (List Char)
  | [] => []
  | (k, v) :: rest =>
    let entry :=
      if isSimpleKey k then scalarText (indent + 2) false k ++ ':' :: underKey indent v
      else
        ('?' :: ' ' :: endLine (scalarText (indent + 2) true k)) ++
          (spaces indent ++ ':' :: underMark indent v)
    entry :: entryTexts indent rest

end

end Yaml

/-- A value as a YAML document. -/
def Json.toYaml (v : Json) : String :=
  String.ofList (match v with
    | .array (v :: vs) => Yaml.stack 0 (Yaml.itemTexts 0 (v :: vs))
    | .object (f :: fs) => Yaml.stack 0 (Yaml.entryTexts 0 (f :: fs))
    | v => Yaml.leafText 0 v)

end TypeSchema
