import TypeSchema.Json.Value
import TypeSchema.Number.Shortest
import TypeSchema.Text.Numeral

/-!
# Writing JSON

Two layouts: `compact` without any blank, and `pretty` with two spaces of indentation per level.
In both, quotes, backslashes and control characters below the blank are escaped and all other
characters stand for themselves.
-/

namespace TypeSchema.Json

/-- Doubles are written positionally from `0.00001` up to below `1e16`, with at least one digit
after the point, and beyond with a signed exponent. -/
def numberStyle : DecimalStyle := ⟨-5, 16, true⟩

/-- The text of a double; null stands for what has none. -/
def floatText (x : Float) : String :=
  ((Binary64.ofFloat x).text? numberStyle).getD "null"

/-- A character inside a quoted text. -/
def escaped (c : Char) : List Char :=
  if c = '"' then ['\\', '"']
  else if c = '\\' then ['\\', '\\']
  else if c = '\x08' then ['\\', 'b']
  else if c = '\x0c' then ['\\', 'f']
  else if c = '\n' then ['\\', 'n']
  else if c = '\r' then ['\\', 'r']
  else if c = '\t' then ['\\', 't']
  else if c.toNat < 0x20 then '\\' :: 'u' :: (Text.hexPadded 4 c.toNat).toList
  else [c]

/-- A text in quotes. -/
def quoted (s : String) : String :=
  String.ofList ('"' :: (s.toList.flatMap escaped ++ ['"']))

mutual

/-- A value without blanks. -/
def compact : Json → String
  | null => "null"
  | bool b => if b then "true" else "false"
  | int n => toString n
  | float x => floatText x
  | string s => quoted s
  | array items => "[" ++ compactItems items ++ "]"
  | object fields => "\x7b" ++ compactFields fields ++ "\x7d"

/-- Array items with commas between them. -/
def compactItems : List Json → String
  | [] => ""
  | [v] => compact v
  | v :: rest => compact v ++ "," ++ compactItems rest

/-- Object fields with commas between them. -/
def compactFields : List (String × Json) → String
  | [] => ""
  | [(k, v)] => quoted k ++ ":" ++ compact v
  | (k, v) :: rest => quoted k ++ ":" ++ compact v ++ "," ++ compactFields rest

end

/-- A new line at an indentation level. -/
def lineBreak (level : Nat) : String := String.ofList ('\n' :: List.replicate (2 * level) ' ')

mutual

/-- A value over several lines, from a given indentation level on. -/
def prettyAt (level : Nat) : Json → String
  | null => "null"
  | bool b => if b then "true" else "false"
  | int n => toString n
  | float x => floatText x
  | string s => quoted s
  | array [] => "[]"
  | array items => "[" ++ prettyItems (level + 1) items ++ lineBreak level ++ "]"
  | object [] => "\x7b\x7d"
  | object fields => "\x7b" ++ prettyFields (level + 1) fields ++ lineBreak level ++ "\x7d"

/-- Array items, each on lines of its own. -/
def prettyItems (level : Nat) : List Json → String
  | [] => ""
  | [v] => lineBreak level ++ prettyAt level v
  | v :: rest => lineBreak level ++ prettyAt level v ++ "," ++ prettyItems level rest

/-- Object fields, each on lines of its own. -/
def prettyFields (level : Nat) : List (String × Json) → String
  | [] => ""
  | [(k, v)] => lineBreak level ++ quoted k ++ ": " ++ prettyAt level v
  | (k, v) :: rest =>
    lineBreak level ++ quoted k ++ ": " ++ prettyAt level v ++ "," ++ prettyFields level rest

end

/-- A value over several lines. -/
def pretty (v : Json) : String := prettyAt 0 v

end TypeSchema.Json
