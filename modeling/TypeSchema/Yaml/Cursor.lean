import TypeSchema.Text.Numeral
import TypeSchema.Yaml.Token

/-!
# Positions in a YAML text

A cursor is the text that is left, with the line and the column where it begins. The end of a line
is written in several ways; all but two of them read as a line feed.
-/

namespace TypeSchema.Yaml

/-! ### Characters -/

/-- Whether a character may stand in a YAML text. -/
def isAllowed (c : Char) : Bool :=
  let n := c.toNat
  n = 0x09 || n = 0x0A || n = 0x0D || (0x20 ≤ n && n ≤ 0x7E) || n = 0x85 ||
    (0xA0 ≤ n && n ≤ 0xD7FF) || (0xE000 ≤ n && n ≤ 0xFFFD) || 0x10000 ≤ n

/-- A blank inside of a line. -/
def isBlank (c : Char) : Bool := c = ' ' || c = '\t'

/-- A character that ends a line. -/
def isBreak (c : Char) : Bool :=
  c = '\n' || c = '\r' || c = '\u0085' || c = '\u2028' || c = '\u2029'

/-- Whether a character belongs to a word, neither blank nor end of a line. -/
def isInk (c : Char) : Bool := !isBlank c && !isBreak c

/-- Whether a character may stand in names of anchors, handles and directives. -/
def isNameChar (c : Char) : Bool := c.isAlphanum || c = '_' || c = '-'

/-- Whether there is a blank, the end of a line or the end of the text. -/
def endsWord : List Char → Bool
  | [] => true
  | c :: _ => !isInk c

/-- Whether there is the end of a line or of the text. -/
def endsLine : List Char → Bool
  | [] => true
  | c :: _ => isBreak c

/-! ### Cursors -/

/-- A position in a text. -/
structure Cursor where
  rest : List Char
  /-- The number of characters before. -/
  index : Nat := 0
  line : Nat := 0
  column : Nat := 0

namespace Cursor

/-- Moves over some characters of the line. -/
def advance (c : Cursor) (n : Nat) : Cursor :=
  { c with rest := c.rest.drop n, index := c.index + n, column := c.column + n }

/-- Moves over characters of the line for as long as they are of a kind. -/
def skipWhile (c : Cursor) (p : Char → Bool) : Cursor := c.advance (c.rest.takeWhile p).length

/-- Characters of the line that are of a kind, and the position after them. -/
def take (c : Cursor) (p : Char → Bool) : List Char × Cursor := (c.rest.takeWhile p, c.skipWhile p)

/-- Moves over the end of a line; what it reads as. -/
def takeBreak (c : Cursor) : List Char × Cursor :=
  let next (n : Nat) : Cursor :=
    { rest := c.rest.drop n, index := c.index + n, line := c.line + 1, column := 0 }
  match c.rest with
  | '\r' :: '\n' :: _ => (['\n'], next 2)
  | b :: _ =>
    if b = '\u2028' ∨ b = '\u2029' then ([b], next 1)
    else if isBreak b then (['\n'], next 1)
    else ([], c)
  | [] => ([], c)

/-- Moves to the end of the line over blanks and a comment. -/
def skipComment (c : Cursor) : Cursor :=
  let c := c.skipWhile isBlank
  match c.rest with
  | '#' :: _ => c.skipWhile (!isBreak ·)
  | _ => c

/-- Moves over the rest of a line, which may hold a comment only. -/
def skipLine? (c : Cursor) : Option Cursor :=
  let c := c.skipComment
  if endsLine c.rest then some c.takeBreak.2 else none

/-- Whether a line begins here that marks the beginning or the end of a document. -/
def isAtMark (c : Cursor) : Bool :=
  c.column == 0 &&
    match c.rest with
    | '-' :: '-' :: '-' :: rest => endsWord rest
    | '.' :: '.' :: '.' :: rest => endsWord rest
    | _ => false

end Cursor

end TypeSchema.Yaml
