import TypeSchema.Json.Value

/-!
# The value of a JSON number

An integer literal that fits 64 bits, with or without a sign, is that integer. Any other literal is
a double: its leading digits are collected in a 64-bit word as long as they fit, and the word is
then scaled by a power of ten in double arithmetic, by at most `10 ^ 308` at a time. A literal
beyond the range of doubles has no value.
-/

namespace TypeSchema.Json

/-- A number as it is spelled: digits before and after the point, and the exponent's sign and
digits. -/
structure Numeral where
  negative : Bool
  whole : List Char
  fraction : Option (List Char)
  exponent : Option (Bool × List Char)
  deriving DecidableEq

namespace Numeral

/-- The value of a decimal digit. -/
def digit (c : Char) : Nat := c.toNat - '0'.toNat

/-- Collects digits in a 64-bit word as long as they fit; the digits left over. -/
def collect (word : Nat) : List Char → Nat × List Char
  | [] => (word, [])
  | c :: rest =>
    let next := word * 10 + digit c
    if next ≤ unsignedMax 64 then collect next rest else (word, c :: rest)

/-- The value of a list of decimal digits. -/
def naturalOf (cs : List Char) : Nat := cs.foldl (fun n c => n * 10 + digit c) 0

/-- The literal as an integer, if it has neither point nor exponent. -/
def integer? (n : Numeral) : Option Int :=
  match n.fraction, n.exponent with
  | none, none => some (Binary64.signed n.negative (naturalOf n.whole))
  | _, _ => none

/-- The power of ten as a double. -/
def powerOfTen (k : Nat) : Float := Float.ofScientific 1 false k

/-- Scales a double by a power of ten, by at most `10 ^ 308` at a time; `none` out of range. Two
divisions by `10 ^ 308` take any word to zero, so three rounds are enough. -/
def scaled : (rounds : Nat) → Float → Int → Option Float
  | 0, x, _ => some x
  | rounds + 1, x, power =>
    if power.natAbs ≤ 308 then
      if 0 ≤ power then
        let y := x * powerOfTen power.natAbs
        if y.isInf then none else some y
      else some (x / powerOfTen power.natAbs)
    else if x == 0 then some x
    else if 0 ≤ power then none
    else scaled rounds (x / powerOfTen 308) (power + 308)

/-- The largest exponent that is read digit by digit. -/
def exponentMax : Nat := unsignedMax 31

/-- The literal as a double. -/
def float? (n : Numeral) : Option Float :=
  let (word, left) := collect 0 n.whole
  let (word', left') := collect word (n.fraction.getD [])
  let taken := (n.fraction.getD []).length - left'.length
  let power : Int := (left.length : Int) - taken
  let magnitude :=
    match n.exponent with
    | none => scaled 4 (UInt64.ofNat word').toFloat power
    | some (negative, digits) =>
      if exponentMax < naturalOf digits then
        if word' ≠ 0 ∧ negative = false then none else some 0
      else
        let e : Int := Binary64.signed negative (naturalOf digits)
        scaled 4 (UInt64.ofNat word').toFloat (power + e)
  magnitude.map fun x => if n.negative then -x else x

/-- The value of a literal. -/
def value? (n : Numeral) : Option Json :=
  match n.integer? with
  | some i =>
    if n.negative then
      if i < 0 ∧ signedMin 64 ≤ i then some (.int i) else n.float?.map .float
    else if i ≤ unsignedMax 64 then some (.int i) else n.float?.map .float
  | none => n.float?.map .float

end Numeral

end TypeSchema.Json
