/-!
# Integers of fixed width

The least and the greatest integers that so many bits hold, with a sign bit or without.
-/

namespace TypeSchema

/-- The greatest natural number of so many bits. -/
def unsignedMax (bits : Nat) : Nat := Nat.pow 2 bits - 1

/-- The least integer of so many bits, one of which is its sign. -/
def signedMin (bits : Nat) : Int := -(Nat.pow 2 (bits - 1) : Nat)

/-- The greatest integer of so many bits, one of which is its sign. -/
def signedMax (bits : Nat) : Int := (Nat.pow 2 (bits - 1) : Nat) - 1

/-- Whether an integer has so many bits, one of which is its sign. -/
def fitsSigned (bits : Nat) (n : Int) : Bool := signedMin bits ≤ n && n ≤ signedMax bits

/-- Whether an integer is a natural number of so many bits. -/
def fitsUnsigned (bits : Nat) (n : Int) : Bool := 0 ≤ n && n ≤ unsignedMax bits

/-- The nearest signed 64-bit integer. -/
def clampInt64 (n : Int) : Int := max (signedMin 64) (min (signedMax 64) n)

end TypeSchema
