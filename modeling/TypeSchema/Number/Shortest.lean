import TypeSchema.Number.Binary64

/-!
# The shortest decimal of a double

Among the decimals that read back as a given double, the shortest are those with the fewest
digits, and of these the nearest to the double is taken, on a tie the one with an even last digit.
`Shortest.digits` looks for it on one decimal grid after the other, from one digit on: a grid point
in the interval of reals that round to the double exists only if one of the two grid points next to
the double lies in it. All of it is arithmetic on natural numbers.
-/

namespace TypeSchema

/-- The decimal `d * 10 ^ power`. -/
structure Decimal where
  digits : Nat
  power : Int
  deriving DecidableEq, Repr

namespace Shortest

/-- The number of decimal digits of a positive number. -/
def digitCount (n : Nat) : Nat := (Nat.toDigits 10 n).length

/-- The power of ten of the first digit of `num / den`. -/
def leadingPower (num den : Nat) : Int :=
  if den ≤ num then (digitCount (num / den) : Int) - 1
  else -(digitCount ((den + num - 1) / num - 1) : Int)

/-- The reals between `lo / den` and `hi / den`, with or without the ends, and the double
`mid / den` among them. -/
structure Interval where
  lo : Nat
  mid : Nat
  hi : Nat
  den : Nat
  closed : Bool

/-- The reals that round to the double `m * 2 ^ e`. Below the least mantissa of a binade the
neighbour is only half as far away. -/
def Interval.ofDouble (m : Nat) (e : Int) : Interval :=
  let below := if m = Binary64.leastMantissa ∧ -1074 < e then 1 else 2
  let up := Nat.pow 2 (e - 2).toNat
  ⟨(4 * m - below) * up, 4 * m * up, (4 * m + 2) * up, Nat.pow 2 (2 - e).toNat, m % 2 = 0⟩

/-- The interval in units of `10 ^ power`. -/
def Interval.inUnits (i : Interval) (power : Int) : Interval :=
  let up := Nat.pow 10 (-power).toNat
  let down := Nat.pow 10 power.toNat
  { i with lo := i.lo * up, mid := i.mid * up, hi := i.hi * up, den := i.den * down }

/-- Whether the interval holds a natural number. -/
def Interval.holds (i : Interval) (n : Nat) : Bool :=
  if i.closed then i.lo ≤ n * i.den && n * i.den ≤ i.hi
  else i.lo < n * i.den && n * i.den < i.hi

/-- The natural number of the interval that is nearest to its double, of the two next to it. -/
def Interval.nearest? (i : Interval) : Option Nat :=
  let n := i.mid / i.den
  match i.holds n, i.holds (n + 1) with
  | false, false => none
  | true, false => some n
  | false, true => some (n + 1)
  | true, true =>
    -- both fit: the nearer one, and on a tie the even one
    let rest := 2 * (i.mid % i.den)
    if rest < i.den then some n
    else if i.den < rest then some (n + 1)
    else if n % 2 = 0 then some n else some (n + 1)

/-- Removes trailing zeros. -/
def stripZeros : Nat → Decimal → Decimal
  | 0, d => d
  | fuel + 1, d =>
    if d.digits ≠ 0 ∧ d.digits % 10 = 0 then stripZeros fuel ⟨d.digits / 10, d.power + 1⟩ else d

/-- The first hit on the grids with `count`, `count + 1`, … digits. -/
def search (i : Interval) (leading : Int) : (grids count : Nat) → Decimal
  | 0, count => ⟨(i.inUnits (leading - count + 1)).mid / (i.inUnits (leading - count + 1)).den,
      leading - count + 1⟩
  | grids + 1, count =>
    match (i.inUnits (leading - count + 1)).nearest? with
    | some n => stripZeros (digitCount n) ⟨n, leading - count + 1⟩
    | none => search i leading grids (count + 1)

/-- The shortest decimal of the double `m * 2 ^ e`, for a positive mantissa. Seventeen digits
always suffice. -/
def digits (m : Nat) (e : Int) : Decimal :=
  let i := Interval.ofDouble m e
  search i (leadingPower i.mid i.den) 17 1

end Shortest

/-! ### Writing -/

/-- How a decimal is written: positionally between two powers of ten of its first digit, else with
an exponent, whose plus sign may be left out. -/
structure DecimalStyle where
  leastPositional : Int
  firstExponential : Int
  plusSign : Bool

/-- Digits with the point after the first `whole` of them, and a zero where one side is empty. -/
def placePoint (ds : List Char) (whole : Int) : List Char :=
  if whole ≤ 0 then '0' :: '.' :: (List.replicate (-whole).toNat '0' ++ ds)
  else
    let padded := ds ++ List.replicate (whole.toNat - ds.length) '0'
    let fraction := padded.drop whole.toNat
    padded.take whole.toNat ++ '.' :: (if fraction.isEmpty then ['0'] else fraction)

/-- Writes a positive decimal in a style. -/
def Decimal.text (style : DecimalStyle) (d : Decimal) : String :=
  let ds := Nat.toDigits 10 d.digits
  let leading := d.power + ds.length - 1
  if style.leastPositional ≤ leading ∧ leading < style.firstExponential then
    String.ofList (placePoint ds (leading + 1))
  else
    let mantissa := match ds with
      | [c] => [c]
      | c :: rest => c :: '.' :: rest
      | [] => []
    let sign := if leading < 0 then "-" else if style.plusSign then "+" else ""
    String.ofList mantissa ++ "e" ++ sign ++ toString leading.natAbs

/-- Writes a double with the fewest digits that read back; `none` for infinities and not a
number. -/
def Binary64.text? (style : DecimalStyle) : Binary64 → Option String
  | finite negative m e =>
    let sign := if negative then "-" else ""
    some (sign ++ if m = 0 then "0.0" else (Shortest.digits m e).text style)
  | _ => none

end TypeSchema
