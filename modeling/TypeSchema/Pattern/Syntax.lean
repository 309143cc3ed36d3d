import TypeSchema.Pattern.Property

/-!
# Regular expressions

The syntax trees of regular expressions, as far as it matters whether an expression is well formed:
what an assertion asserts and which characters a named set holds is left out.
-/

namespace TypeSchema.Pattern

/-- A character as a pattern spells it. -/
structure Literal where
  char : Char
  /-- Whether it is spelled by two hexadecimal digits, and so may stand for a byte. -/
  byte : Bool := false
  deriving DecidableEq, Repr

/-- A set of characters that a letter after a backslash stands for. -/
inductive Shorthand where
  | digit
  | space
  | word
  deriving DecidableEq, Repr

/-- A set of characters between brackets. -/
inductive CharSet where
  | literal (l : Literal)
  | range (first last : Literal)
  | shorthand (kind : Shorthand) (negated : Bool)
  /-- A set of ASCII characters, by a name between colons. -/
  | ascii (negated : Bool)
  | property (q : PropertyQuery)
  | union (items : List CharSet)
  /-- An intersection or a difference. -/
  | combined (left right : CharSet)
  | bracketed (negated : Bool) (s : CharSet)

/-- The flags that matter to whether an expression is well formed: which of them are set and which
are cleared. -/
structure Flags where
  unicode? : Option Bool := none
  /-- Whether blanks and comments between tokens are ignored. -/
  verbose? : Option Bool := none
  deriving DecidableEq, Repr, Inhabited

/-- What a group is there for. -/
inductive GroupKind where
  | numbered
  | named (name : String)
  | flagged (f : Flags)
  deriving DecidableEq, Repr

/-- How often a part may be repeated: at least so often, and at most so often. -/
structure Count where
  min : Nat
  max? : Option Nat
  deriving DecidableEq, Repr

/-- A regular expression. -/
inductive Syntax where
  | literal (l : Literal)
  | dot
  | assertion
  | shorthand (kind : Shorthand) (negated : Bool)
  | property (q : PropertyQuery)
  | set (negated : Bool) (s : CharSet)
  /-- Flags for the rest of the group. -/
  | flags (f : Flags)
  | repeated (count : Count) (p : Syntax)
  | group (kind : GroupKind) (p : Syntax)
  | sequence (ps : List Syntax)
  | alternatives (ps : List Syntax)

/-- Whether a repetition may be put after an expression. -/
def Syntax.isRepeatable : Syntax → Bool
  | flags _ => false
  | _ => true

end TypeSchema.Pattern
