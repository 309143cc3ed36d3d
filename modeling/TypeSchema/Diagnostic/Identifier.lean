import TypeSchema.Json.Value

/-!
# Identifiers of events

An identifier is a word of 128 bits. Its upper 48 bits are the milliseconds from the start of 1970
to the event and the rest is random, so identifiers are in the order of the events' times. The text
of an identifier is 26 digits in base 32, highest first; its alphabet leaves out the letters that
are easily taken for others.
-/

namespace TypeSchema

/-- The digits in base 32, least first. -/
def base32Alphabet : List Char := "0123456789ABCDEFGHJKMNPQRSTVWXYZ".toList

/-- The digit of a character, in letters of either case. -/
def base32Value? (c : Char) : Option (BitVec 128) :=
  (base32Alphabet.findIdx? (· == c.toUpper)).map (BitVec.ofNat 128)

/-- The character of a number's last digit. -/
def base32Digit (w : BitVec 128) : Char := base32Alphabet.getD (w.toNat % 32) '0'

/-- An identifier of an event. -/
structure DiagnosticId where
  word : BitVec 128
  deriving DecidableEq, Repr, Inhabited

namespace DiagnosticId

/-- Why a text is not an identifier. -/
inductive DecodeError where
  | length
  | character
  deriving DecidableEq, Repr

/-- The text of a reason. -/
def DecodeError.message : DecodeError → String
  | length => "invalid length"
  | character => "invalid character"

/-- The number of digits. -/
def digitCount : Nat := 26

/-- Appends digits. The digits have two bits more than the word, and the highest two are lost. -/
def readDigits : BitVec 128 → List Char → Except DecodeError (BitVec 128)
  | w, [] => .ok w
  | w, c :: rest =>
    match base32Value? c with
    | some d => readDigits ((w <<< 5) ||| d) rest
    | none => .error .character

/-- Reads the text of an identifier. Its length is counted in bytes. -/
def parse (s : String) : Except DecodeError DiagnosticId :=
  if s.utf8ByteSize ≠ digitCount then .error .length
  else (readDigits 0 s.toList).map .mk

/-- The last digits of a word, highest first, before those that are there. -/
def writeDigits : Nat → BitVec 128 → List Char → List Char
  | 0, _, digits => digits
  | n + 1, w, digits => writeDigits n (w >>> 5) (base32Digit w :: digits)

/-- The text of an identifier, in capital letters. -/
def text (id : DiagnosticId) : String := String.ofList (writeDigits digitCount id.word [])

/-- The time of an identifier, in milliseconds. -/
def timestamp (id : DiagnosticId) : Nat := (id.word >>> 80).toNat

/-- Whether an identifier comes before another. -/
def precedes (a b : DiagnosticId) : Bool := a.word.ult b.word

/-- An identifier as a JSON value. -/
def toJson (id : DiagnosticId) : Json := .string id.text

/-- Reads an identifier from a JSON value. -/
def ofJson? : Json → Option DiagnosticId
  | .string s => (parse s).toOption
  | _ => none

end DiagnosticId

end TypeSchema
