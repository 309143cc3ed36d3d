/-!
# White space

The characters with the Unicode property `White_Space`. No version since 6.3 has changed them.
-/

namespace TypeSchema.Text

/-- Whether a character is Unicode white space. -/
def isBlank (c : Char) : Bool :=
  c ∈ ['\t', '\n', '\x0b', '\x0c', '\r', ' ', '\u0085', '\u00a0', '\u1680',
    '\u2000', '\u2001', '\u2002', '\u2003', '\u2004', '\u2005', '\u2006', '\u2007',
    '\u2008', '\u2009', '\u200a', '\u2028', '\u2029', '\u202f', '\u205f', '\u3000']

/-- A text without the blanks at its two ends. -/
def trimBlank (s : String) : String :=
  String.ofList (((s.toList.dropWhile isBlank).reverse.dropWhile isBlank).reverse)

end TypeSchema.Text
