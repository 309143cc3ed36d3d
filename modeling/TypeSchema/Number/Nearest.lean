import TypeSchema.Number.Shortest

/-!
# The double nearest to a decimal

A decimal reads as the nearest double, on a tie as the one with an even mantissa. The decimal is
taken as a fraction of natural numbers, so the rounding is exact. Beyond the greatest double it
reads as infinity.
-/

namespace TypeSchema

namespace Binary64

/-- The exponent of the unit in the last place for the fraction `num / den`: one that gives a
mantissa of 53 bits, if it is not below the least one. -/
def unitExponent (num den : Nat) : Int :=
  let guess : Int := (num.log2 : Int) - den.log2 - 52
  let fits := num * Nat.pow 2 (-guess).toNat < den * Nat.pow 2 (guess.toNat + 52)
  max (-1074) (if fits then guess - 1 else guess)

/-- The natural number nearest to `num / den`, on a tie the even one. -/
def nearestNat (num den : Nat) : Nat :=
  let n := num / den
  let rest := 2 * (num % den)
  if rest < den then n
  else if den < rest then n + 1
  else if n % 2 = 0 then n else n + 1

/-- The double nearest to the fraction `num / den`. -/
def ofFraction (negative : Bool) (num den : Nat) : Binary64 :=
  let e := unitExponent num den
  let m := nearestNat (num * Nat.pow 2 (-e).toNat) (den * Nat.pow 2 e.toNat)
  let (m, e) := if m = 2 * leastMantissa then (leastMantissa, e + 1) else (m, e)
  if 971 < e then .infinite negative else .finite negative m e

/-- The double nearest to `± d`. -/
def ofDecimal (negative : Bool) (d : Decimal) : Binary64 :=
  let leading := d.power + Shortest.digitCount d.digits
  if d.digits = 0 ∨ leading < -330 then .finite negative 0 (-1074)
  else if 320 < leading then .infinite negative
  else ofFraction negative (d.digits * Nat.pow 10 d.power.toNat) (Nat.pow 10 (-d.power).toNat)

/-- The 64 bits of a double. -/
def toBits : Binary64 → UInt64
  | nan => 0x7ff8000000000000
  | infinite negative => signBit negative ||| 0x7ff0000000000000
  | finite negative m e =>
    if m < leastMantissa then signBit negative ||| UInt64.ofNat m
    else signBit negative ||| UInt64.ofNat ((e + 1075).toNat * leastMantissa + (m - leastMantissa))
where
  /-- The highest bit if the number is negative. -/
  signBit (negative : Bool) : UInt64 := if negative then 0x8000000000000000 else 0

/-- The double as the machine has it. -/
def toFloat (x : Binary64) : Float := Float.ofBits x.toBits

end Binary64

end TypeSchema
