import TypeSchema.Text.Alphanumeric
import TypeSchema.Text.Blank
import TypeSchema.TypeExpr.Basic

/-!
# Reading type expressions

The grammar is

    Expr ::= Ident ('<' Expr (',' Expr)* '>')? ('?' | '[' ']')*

where an identifier is a maximal run of letters, numbers and `_ . : -`, and blanks may stand before
any token and after the last one. The parser works on the characters still to be read, so an error
remembers what was left when it arose, and its offset is counted in bytes from there.
-/

namespace TypeSchema

/-- What a type expression lacks at the point where reading stopped. -/
inductive TypeExprError.Cause where
  | typeName
  | commaOrClose
  | closeBracket
  | endOfText
  deriving DecidableEq, Repr

/-- Why a text is no type expression: the cause, and the characters that were left. -/
structure TypeExprError where
  cause : TypeExprError.Cause
  rest : List Char
  deriving DecidableEq, Repr

namespace TypeExpr

/-- The number of bytes of some characters. -/
def byteLength (cs : List Char) : Nat := cs.foldl (fun n c => n + c.utf8Size) 0

/-- Whether a character may stand in a name. -/
def isNameChar (c : Char) : Bool :=
  Text.isAlphanumeric c || c = '_' || c = '.' || c = ':' || c = '-'

/-- The text after leading blanks. -/
def skipBlank (cs : List Char) : List Char := cs.dropWhile Text.isBlank

/-- The text after a character, which blanks may precede. -/
def eat? (c : Char) (cs : List Char) : Option (List Char) :=
  match skipBlank cs with
  | d :: rest => if d = c then some rest else none
  | [] => none

/-- A name, which blanks may precede. -/
def name? (cs : List Char) : Except TypeExprError (String × List Char) :=
  let cs := skipBlank cs
  match cs.takeWhile isNameChar with
  | [] => .error ⟨.typeName, cs⟩
  | name => .ok (String.ofList name, cs.dropWhile isNameChar)

/-- Suffixes of an expression that has been read. -/
def suffixes? : (fuel : Nat) → TypeExpr → List Char → Except TypeExprError (TypeExpr × List Char)
  | 0, e, cs => .ok (e, cs)
  | fuel + 1, e, cs =>
    match eat? '?' cs with
    | some rest => suffixes? fuel (.nullable e) rest
    | none =>
      match eat? '[' cs with
      | none => .ok (e, skipBlank cs)
      | some rest =>
        match eat? ']' rest with
        | some rest => suffixes? fuel (.array e) rest
        | none => .error ⟨.closeBracket, skipBlank rest⟩

mutual

/-- An expression and the text after it. A level of arguments spends two units of fuel and reads a
name and a bracket first, so two units more than there are characters are enough. -/
def expr? : (fuel : Nat) → List Char → Except TypeExprError (TypeExpr × List Char)
  | 0, cs => .error ⟨.typeName, cs⟩
  | fuel + 1, cs =>
    match name? cs with
    | .error e => .error e
    | .ok (name, rest) =>
      match eat? '<' rest with
      | none => suffixes? (fuel + 1) (.named name []) rest
      | some rest =>
        match args? fuel rest with
        | .error e => .error e
        | .ok (args, rest) => suffixes? (fuel + 1) (.named name args) rest

/-- One or more arguments and the closing bracket. -/
def args? : (fuel : Nat) → List Char → Except TypeExprError (List TypeExpr × List Char)
  | 0, cs => .error ⟨.typeName, cs⟩
  | fuel + 1, cs =>
    match expr? fuel cs with
    | .error e => .error e
    | .ok (a, rest) =>
      match eat? ',' rest with
      | some rest =>
        match args? fuel rest with
        | .error e => .error e
        | .ok (as, rest) => .ok (a :: as, rest)
      | none =>
        match eat? '>' rest with
        | some rest => .ok ([a], rest)
        | none => .error ⟨.commaOrClose, skipBlank rest⟩

end

/-- Reads a whole text as an expression. -/
def parse (src : String) : Except TypeExprError TypeExpr :=
  let cs := src.toList
  match expr? (cs.length + 2) cs with
  | .error e => .error e
  | .ok (e, rest) =>
    match skipBlank rest with
    | [] => .ok e
    | rest => .error ⟨.endOfText, rest⟩

end TypeExpr

namespace TypeExprError

/-- The byte offset at which reading a text stopped. -/
def offset (src : String) (e : TypeExprError) : Nat :=
  TypeExpr.byteLength src.toList - TypeExpr.byteLength e.rest

/-- What the error says about the text that was read. -/
def message (src : String) (e : TypeExprError) : String :=
  let wanted := match e.cause with
    | .typeName => "expected a type name"
    | .commaOrClose => "expected ',' or '>'"
    | .closeBracket => "expected ']'"
    | .endOfText => "unexpected trailing input"
  wanted ++ " at offset " ++ toString (e.offset src) ++ " in '" ++ src ++ "'"

end TypeExprError

end TypeSchema
