import TypeSchema.Text.Alphanumeric
import TypeSchema.Text.LetterCase

/-!
# Words of an identifier

An identifier is cut into words at every character that is neither letter nor number, between a
small letter and a following capital, and before the last capital of a run of capitals that a
small letter follows: `XMLHttpRequest` has the words `XML`, `Http` and `Request`. A character
without case belongs to the word before it and does not change that word's case.
-/

namespace TypeSchema.Text

/-- The case of the letters read last; `start` before any letter of the word. -/
inductive Casing where
  | start
  | small
  | capital
  deriving DecidableEq

/-- The casing after one more character. -/
def Casing.next (casing : Casing) (c : Char) : Casing :=
  if isLower c then .small else if isUpper c then .capital else casing

/-- Maximal runs of alphanumeric characters; `run` holds the current one, last character first. -/
def alphanumericRuns (run : List Char) : List Char → List (List Char)
  | [] => if run.isEmpty then [] else [run.reverse]
  | c :: rest =>
    if isAlphanumeric c then alphanumericRuns (c :: run) rest
    else if run.isEmpty then alphanumericRuns [] rest
    else run.reverse :: alphanumericRuns [] rest

/-- Cuts a run at its changes of case; `word` holds the current word, last character first. -/
def splitCasing (casing : Casing) (word : List Char) : List Char → List (List Char)
  | [] => []
  | [c] => [(c :: word).reverse]
  | c :: d :: rest =>
    if casing.next c = .small ∧ isUpper d then
      (c :: word).reverse :: splitCasing .start [] (d :: rest)
    else if casing = .capital ∧ isUpper c ∧ isLower d then
      word.reverse :: splitCasing .start [c] (d :: rest)
    else
      splitCasing (casing.next c) (c :: word) (d :: rest)

/-- The words of an identifier, in order. -/
def words (s : String) : List (List Char) :=
  (alphanumericRuns [] s.toList).flatMap (splitCasing .start [])

/-- A word in lower case; a sigma that ends it takes its final form. -/
def lowerWord : List Char → List Char
  | [] => []
  | ['Σ'] => ['ς']
  | c :: rest => lower c ++ lowerWord rest

/-- A word in upper case. -/
def upperWord (word : List Char) : List Char := word.flatMap upper

/-- A word with its first character in upper case and the others in lower case. -/
def capitalized : List Char → List Char
  | [] => []
  | c :: rest => upper c ++ lowerWord rest

/-- The texts of some words with a separator between any two. -/
def joinWords (separator : String) (ws : List (List Char)) : String :=
  separator.intercalate (ws.map String.ofList)

end TypeSchema.Text
