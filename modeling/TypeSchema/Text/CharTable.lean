/-!
# Tables of characters

Unicode properties are given by tables of code point runs. A `Run` is an arithmetic progression,
which keeps the alternating blocks of letters in two cases short.

All tables are those of Unicode 17.0. Which characters are letters, numbers, capital or small
changes with the version, for the characters that a later one assigns and for a few others.
-/

namespace TypeSchema.Text

/-- The code points `first`, `first + step`, `first + 2 * step`, … up to `last`. -/
structure Run where
  first : Nat
  last : Nat
  step : Nat

namespace Run

/-- Whether a code point is one of the run's. -/
def contains (r : Run) (n : Nat) : Bool :=
  r.first ≤ n && n ≤ r.last && (n - r.first) % r.step == 0

end Run

/-- Whether a code point is between the ends, both included, of one of the pairs. -/
def inRanges (ranges : List (Nat × Nat)) (n : Nat) : Bool :=
  ranges.any (fun r => r.1 ≤ n && n ≤ r.2)

end TypeSchema.Text
