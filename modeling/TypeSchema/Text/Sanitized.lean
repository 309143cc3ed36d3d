/-!
# Cleaning messages

A message shown to people holds no control character except tab and line feed, and at most 512
characters, or 513 with the ellipsis that stands for what was cut.
-/

namespace TypeSchema.Text

/-- The number of characters of a message that are kept. -/
def messageLimit : Nat := 512

/-- Whether a character is of the Unicode category `Cc`. -/
def isControl (c : Char) : Bool := c.toNat < 0x20 || (0x7F ≤ c.toNat && c.toNat ≤ 0x9F)

/-- A control character that a message may not hold. -/
def isForbidden (c : Char) : Bool := isControl c && c ≠ '\t' && c ≠ '\n'

/-- A character of a message, or the replacement character for a forbidden one. -/
def cleanChar (c : Char) : Char := if isForbidden c then '\ufffd' else c

/-- The first characters of a message, followed by an ellipsis if more were there. -/
def capped (cs : List Char) : List Char :=
  if cs.length > messageLimit then cs.take messageLimit ++ ['…'] else cs

/-- The message without forbidden characters and cut to the limit, and whether that differs from
the message. -/
def sanitize (raw : String) : String × Bool :=
  let clean := String.ofList (capped (raw.toList.map cleanChar))
  (clean, clean ≠ raw)

end TypeSchema.Text
