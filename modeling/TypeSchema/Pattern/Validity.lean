import TypeSchema.Pattern.Parser

/-!
# Well-formed regular expressions

The check of patterns that the program is run with. A text passes if it follows the grammar and

* no two groups have the same name,
* parts are nested at most 250 deep,
* all named properties exist,
* nothing in it can match a part of a character, which might happen where the Unicode flag is
  cleared,
* its automaton is not too large.

This stands in for a library for regular expressions. The sizes of automata are estimates, so a
pattern near the limit may be judged otherwise than by a library. Constraints are applied under any
check (`PatternCheck`), and what is proved about them holds for every one.
-/

namespace TypeSchema.Pattern

/-! ### Nesting -/

mutual

/-- How deep a set is nested. -/
def CharSet.depth : CharSet → Nat
  | .union [] => 0
  | .union (s :: rest) => 1 + CharSet.depths (s :: rest)
  | .combined left right => 1 + max left.depth right.depth
  | .bracketed _ s => 1 + s.depth
  | _ => 0

/-- The greatest depth of some sets. -/
def CharSet.depths : List CharSet → Nat
  | [] => 0
  | s :: rest => max s.depth (CharSet.depths rest)

end

mutual

/-- How deep an expression is nested. -/
def Syntax.depth : Syntax → Nat
  | .set _ s => 1 + s.depth
  | .repeated _ p => 1 + p.depth
  | .group _ p => 1 + p.depth
  | .sequence [] => 0
  | .sequence (p :: rest) => 1 + Syntax.depths (p :: rest)
  | .alternatives ps => 1 + Syntax.depths ps
  | _ => 0

/-- The greatest depth of some expressions. -/
def Syntax.depths : List Syntax → Nat
  | [] => 0
  | p :: rest => max p.depth (Syntax.depths rest)

end

/-- The greatest depth that is allowed. -/
def depthLimit : Nat := 250

/-! ### Names of groups -/

mutual

/-- The names of an expression's groups. -/
def Syntax.names : Syntax → List String
  | .repeated _ p => p.names
  | .group (.named name) p => name :: p.names
  | .group _ p => p.names
  | .sequence ps => Syntax.namesOf ps
  | .alternatives ps => Syntax.namesOf ps
  | _ => []

/-- The names of some expressions' groups. -/
def Syntax.namesOf : List Syntax → List String
  | [] => []
  | p :: rest => p.names ++ Syntax.namesOf rest

end

/-! ### Characters and bytes -/

/-- Whether a literal of a set stands for characters only: without the Unicode flag it has to be an
ASCII character. -/
def Literal.fitsSet (unicode : Bool) (l : Literal) : Bool := unicode || l.char.toNat < 0x80

/-- Whether a literal stands for a character: without the Unicode flag two digits may spell a
byte. -/
def Literal.fits (unicode : Bool) (l : Literal) : Bool := unicode || !l.byte || l.char.toNat < 0x80

mutual

/-- Whether a set exists and holds characters only. Without the Unicode flag a complement would hold
bytes. -/
def CharSet.isSound (unicode : Bool) : CharSet → Bool
  | .literal l => l.fitsSet unicode
  | .range first last => first.fitsSet unicode && last.fitsSet unicode
  | .shorthand _ negated => unicode || !negated
  | .ascii negated => unicode || !negated
  | .property q => unicode && q.isKnown
  | .union items => CharSet.areSound unicode items
  | .combined left right => left.isSound unicode && right.isSound unicode
  | .bracketed negated s => (unicode || !negated) && s.isSound unicode

/-- Whether all of some sets exist and hold characters only. -/
def CharSet.areSound (unicode : Bool) : List CharSet → Bool
  | [] => true
  | s :: rest => s.isSound unicode && CharSet.areSound unicode rest

end

mutual

/-- Whether an expression matches characters only, given the Unicode flag before it: the flag after
it if so. A flag that is set in a group counts to the group's end. -/
def Syntax.soundThrough (unicode : Bool) : Syntax → Option Bool
  | .literal l => if l.fits unicode then some unicode else none
  | .dot => if unicode then some unicode else none
  | .assertion => some unicode
  | .shorthand _ negated => if unicode || !negated then some unicode else none
  | .property q => if unicode && q.isKnown then some unicode else none
  | .set negated s => if (unicode || !negated) && s.isSound unicode then some unicode else none
  | .flags f => some (f.unicode?.getD unicode)
  | .repeated _ p => p.soundThrough unicode
  | .group (.flagged f) p => (p.soundThrough (f.unicode?.getD unicode)).map fun _ => unicode
  | .group _ p => (p.soundThrough unicode).map fun _ => unicode
  | .sequence ps => Syntax.soundThroughAll unicode ps
  | .alternatives ps => Syntax.soundThroughAll unicode ps

/-- Whether all of some expressions match characters only, one after the other. -/
def Syntax.soundThroughAll (unicode : Bool) : List Syntax → Option Bool
  | [] => some unicode
  | p :: rest =>
    match p.soundThrough unicode with
    | some unicode => Syntax.soundThroughAll unicode rest
    | none => none

end

/-! ### Size -/

/-- The parts of an automaton that a set of characters takes. -/
structure SetSize where
  /-- The number of ranges of ASCII characters. -/
  ranges : Nat := 0
  /-- About how many bytes the other characters take. -/
  wide : Nat := 0

namespace SetSize

/-- Two sets together. -/
def add (a b : SetSize) : SetSize := ⟨a.ranges + b.ranges, a.wide + b.wide⟩

/-- The characters that are not in a set. -/
def complement (a : SetSize) : SetSize := ⟨a.ranges + 1, a.wide + 900⟩

/-- The bytes of a set: one state for ASCII characters alone, else one for each range. -/
def bytes (a : SetSize) : Nat :=
  if a.wide = 0 then 64 + 8 * a.ranges else 64 + 36 * a.ranges + a.wide

end SetSize

/-- The set of a letter; without the Unicode flag it is one of ASCII characters. -/
def Shorthand.size (unicode : Bool) (kind : Shorthand) (negated : Bool) : SetSize :=
  let all : SetSize :=
    match kind, negated with
    | .digit, false => ⟨1, 4900⟩
    | .digit, true => ⟨2, 12000⟩
    | .space, false => ⟨2, 550⟩
    | .space, true => ⟨3, 1750⟩
    | .word, false => ⟨4, 49300⟩
    | .word, true => ⟨5, 46000⟩
  if unicode then all else { all with wide := 0 }

/-- The set of a property: many kinds of letters are scattered, other characters less so. -/
def PropertyQuery.size (q : PropertyQuery) : SetSize :=
  let value := simpleName (match q with
    | .named name => name
    | .valued _ value => value)
  if value ∈ ["l", "letter", "alpha", "alphabetic", "c", "other", "cn", "unassigned", "assigned",
      "idc", "idcontinue", "ids", "idstart", "xidc", "xidcontinue", "xids", "xidstart", "grbase",
      "graphemebase"] then ⟨2, 42000⟩
  else if value ∈ ["lu", "uppercaseletter", "ll", "lowercaseletter", "lc", "casedletter", "upper",
      "uppercase", "lower", "lowercase", "cased"] then ⟨2, 27500⟩
  else if value ∈ ["m", "mark", "mn", "nonspacingmark", "s", "symbol", "lo", "otherletter"] then
    ⟨1, 18000⟩
  else if value ∈ ["n", "number", "p", "punctuation", "punct", "common", "zyyy", "emoji"] then
    ⟨3, 10500⟩
  else ⟨1, 3000⟩

/-- The set of one character or of a range. -/
def Literal.rangeSize (first last : Literal) : SetSize :=
  if last.char.toNat < 0x80 then ⟨1, 0⟩
  else if first.char = last.char then ⟨0, 4 + 32 * last.char.utf8Size⟩
  else ⟨if first.char.toNat < 0x80 then 1 else 0, 70 * last.char.utf8Size⟩

mutual

/-- The size of a set. -/
def CharSet.size (unicode : Bool) : CharSet → SetSize
  | .literal l => l.rangeSize l
  | .range first last => first.rangeSize last
  | .shorthand kind negated => kind.size unicode negated
  | .ascii negated => if negated then SetSize.complement ⟨3, 0⟩ else ⟨3, 0⟩
  | .property q => q.size
  | .union items => CharSet.sizes unicode items
  | .combined left _ => left.size unicode
  | .bracketed negated s => if negated then (s.size unicode).complement else s.size unicode

/-- The size of some sets together. -/
def CharSet.sizes (unicode : Bool) : List CharSet → SetSize
  | [] => {}
  | s :: rest => (s.size unicode).add (CharSet.sizes unicode rest)

end

mutual

/-- Whether an expression can match nothing but the empty text. -/
def Syntax.isEmptyOnly : Syntax → Bool
  | .assertion => true
  | .flags _ => true
  | .repeated count p => count.max? = some 0 || p.isEmptyOnly
  | .group _ p => p.isEmptyOnly
  | .sequence ps => Syntax.areEmptyOnly ps
  | .alternatives ps => Syntax.areEmptyOnly ps
  | _ => false

/-- Whether some expressions can match nothing but the empty text. -/
def Syntax.areEmptyOnly : List Syntax → Bool
  | [] => true
  | p :: rest => p.isEmptyOnly && Syntax.areEmptyOnly rest

end

/-- The bytes that copies of a part take: those that have to match, and those that may, each of
which can be left out. -/
def Count.bytes (count : Count) (part : Nat) : Nat :=
  match count.max? with
  | none => max count.min 1 * part + 40
  | some 0 => 32
  | some max => count.min * part + (max - count.min) * (part + 40) + 32

mutual

/-- About how many bytes the automaton of an expression takes, given the Unicode flag before it, and
the flag after it: a state for each byte of a literal, the states of a set, and copies of what is
repeated. Only the automaton that reads forward keeps where a group begins and ends. -/
def Syntax.bytes (forward unicode : Bool) : Syntax → Nat × Bool
  | .literal l => (32 * l.char.utf8Size, unicode)
  | .dot => (if forward then 424 else 1000, unicode)
  | .assertion => (32, unicode)
  | .shorthand kind negated =>
    ((kind.size unicode negated).bytes / if forward then 3 else 1, unicode)
  | .property q => (q.size.bytes / if forward then 3 else 1, unicode)
  | .set negated s =>
    ((CharSet.size unicode (.bracketed negated s)).bytes / if forward then 2 else 1, unicode)
  | .flags f => (32, f.unicode?.getD unicode)
  | .repeated count p =>
    let (part, after) := p.bytes forward unicode
    (if p.isEmptyOnly then 32 + part else count.bytes part, after)
  | .group (.flagged f) p => ((p.bytes forward (f.unicode?.getD unicode)).1, unicode)
  | .group _ p => ((p.bytes forward unicode).1 + if forward then 64 else 0, unicode)
  | .sequence ps => Syntax.bytesOf forward unicode ps
  | .alternatives ps =>
    let (parts, after) := Syntax.bytesOf forward unicode ps
    (parts + 64, after)

/-- About how many bytes the automatons of some expressions take, one after the other. -/
def Syntax.bytesOf (forward unicode : Bool) : List Syntax → Nat × Bool
  | [] => (0, unicode)
  | p :: rest =>
    let (first, after) := p.bytes forward unicode
    let (more, last) := Syntax.bytesOf forward after rest
    (first + more, last)

end

/-- The number of bytes that an automaton may take: ten mebibytes. -/
def sizeLimit : Nat := 10 * 1024 * 1024

/-- Whether the automatons that read forward and backward are not too large. -/
def Syntax.isSmall (p : Syntax) : Bool :=
  (p.bytes true true).1 ≤ sizeLimit && (p.bytes false true).1 ≤ sizeLimit

/-! ### Validity -/

/-- Whether an expression is well formed. -/
def Syntax.isWellFormed (p : Syntax) : Bool :=
  decide (p.depth ≤ depthLimit) && decide p.names.Nodup && (p.soundThrough true).isSome
    && p.isSmall

/-- Whether a text passes for a regular expression. -/
def isValid (s : String) : Bool :=
  match parse? s with
  | some p => p.isWellFormed
  | none => false

end TypeSchema.Pattern
