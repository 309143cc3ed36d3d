/-!
# Type expressions

A type is written as a name with generic arguments, followed by suffixes: `[]` for an array of it
and `?` for the same type with null. `TypeExpr.spelling` writes an expression without blanks; it is
the key under which a declared type is looked up.
-/

namespace TypeSchema

/-- A type expression. -/
inductive TypeExpr where
  | named (name : String) (args : List TypeExpr)
  | array (element : TypeExpr)
  | nullable (inner : TypeExpr)
  deriving Inhabited

namespace TypeExpr

mutual

/-- The expression written without blanks. -/
def spelling : TypeExpr → String
  | named name [] => name
  | named name (a :: rest) => name ++ "<" ++ spelling a ++ spellings rest ++ ">"
  | array e => spelling e ++ "[]"
  | nullable e => spelling e ++ "?"

/-- Further arguments, each after a comma. -/
def spellings : List TypeExpr → String
  | [] => ""
  | a :: rest => "," ++ spelling a ++ spellings rest

end

end TypeExpr

end TypeSchema
