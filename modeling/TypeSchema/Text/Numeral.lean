/-!
# Reading natural numbers

Digits in a radix up to 36, read from the left. A numeral may begin with one plus sign.
-/

namespace TypeSchema.Text

/-- The value of one digit in a radix. -/
def digitValue? (radix : Nat) (c : Char) : Option Nat :=
  let value :=
    if c.isDigit then some (c.toNat - '0'.toNat)
    else if c.isLower then some (c.toNat - 'a'.toNat + 10)
    else if c.isUpper then some (c.toNat - 'A'.toNat + 10)
    else none
  value.filter (· < radix)

/-- Appends digits to a number whose digits were read before. -/
def extendDigits? (radix : Nat) : Nat → List Char → Option Nat
  | n, [] => some n
  | n, c :: rest => (digitValue? radix c).bind fun d => extendDigits? radix (n * radix + d) rest

/-- The number that a non-empty list of digits stands for. -/
def readDigits? (radix : Nat) (cs : List Char) : Option Nat :=
  if cs.isEmpty then none else extendDigits? radix 0 cs

/-- A decimal numeral with an optional plus sign, of at most the given value. -/
def readUnsigned? (limit : Nat) (s : String) : Option Nat :=
  let digits := match s.toList with
    | '+' :: rest => rest
    | cs => cs
  (readDigits? 10 digits).filter (· ≤ limit)

/-- A number in base sixteen, in small letters, padded with zeros on the left. -/
def hexPadded (width : Nat) (n : Nat) : String :=
  let digits := Nat.toDigits 16 n
  String.ofList (List.replicate (width - digits.length) '0' ++ digits)

end TypeSchema.Text
