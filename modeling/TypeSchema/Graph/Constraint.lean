/-!
# Constraints

What a type or a field declares about its values.
-/

namespace TypeSchema

/-- A declared constraint. -/
inductive Constraint where
  /-- Bounds of a number, both included; either may be open. -/
  | range (min max : Option Float)
  | minLength (min : Nat)
  | maxLength (max : Nat)
  /-- Both bounds of a length at once. -/
  | length (min max : Option Nat)
  /-- A regular expression. -/
  | pattern (pattern : String)
  deriving DecidableEq

end TypeSchema
