import TypeSchema.Number.Bounds

/-!
# Double-precision numbers, exactly

A finite double is `± m * 2 ^ e` with `m < 2 ^ 53`. `Binary64.ofBits` reads sign, mantissa and
exponent off the 64 bits, so that what is decided about a number's value is decided in exact
arithmetic.
-/

namespace TypeSchema

/-- What the 64 bits of a double stand for. -/
inductive Binary64 where
  | nan
  | infinite (negative : Bool)
  | finite (negative : Bool) (mantissa : Nat) (exponent : Int)
  deriving DecidableEq, Repr

namespace Binary64

/-- `2 ^ 52`, the least mantissa of all exponents but the least one. -/
def leastMantissa : Nat := 0x10000000000000

/-- Reads the sign bit, the eleven exponent bits and the 52 fraction bits. -/
def ofBits (bits : UInt64) : Binary64 :=
  let n := bits.toNat
  let negative := n.testBit 63
  let biased := n / leastMantissa % 2048
  let fraction := n % leastMantissa
  if biased = 2047 then
    if fraction = 0 then .infinite negative else .nan
  else if biased = 0 then .finite negative fraction (-1074)
  else .finite negative (leastMantissa + fraction) ((biased : Int) - 1075)

/-- The exact value of a double. -/
def ofFloat (x : Float) : Binary64 := ofBits x.toBits

/-- The integer `± n`. -/
def signed (negative : Bool) (n : Nat) : Int := if negative then -(n : Int) else n

/-- The integer that `± m * 2 ^ e` is, if it is one. -/
def integer? : Binary64 → Option Int
  | finite negative m e =>
    if 0 ≤ e then some (signed negative (m * Nat.pow 2 e.toNat))
    else if m % Nat.pow 2 (-e).toNat = 0 then
      some (signed negative (m / Nat.pow 2 (-e).toNat))
    else none
  | _ => none

/-- The greatest integer that is at most `± m * 2 ^ e`. -/
def floorOf (negative : Bool) (m : Nat) (e : Int) : Int :=
  if 0 ≤ e then signed negative (m * Nat.pow 2 e.toNat)
  else Int.fdiv (signed negative m) (Nat.pow 2 (-e).toNat)

/-- The least integer that is at least `± m * 2 ^ e`. -/
def ceilOf (negative : Bool) (m : Nat) (e : Int) : Int := -floorOf (!negative) m e

end Binary64

/-! ### Signed 64-bit integers -/

/-- The ceiling of a double as a signed 64-bit integer, out of range the nearest one; not a number
counts as zero. -/
def Binary64.ceilInt64 : Binary64 → Int
  | nan => 0
  | infinite negative => if negative then signedMin 64 else signedMax 64
  | finite negative m e => clampInt64 (ceilOf negative m e)

/-- The floor of a double as a signed 64-bit integer, out of range the nearest one; not a number
counts as zero. -/
def Binary64.floorInt64 : Binary64 → Int
  | nan => 0
  | infinite negative => if negative then signedMin 64 else signedMax 64
  | finite negative m e => clampInt64 (floorOf negative m e)

end TypeSchema
