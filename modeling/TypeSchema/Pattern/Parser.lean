import TypeSchema.Number.Bounds
import TypeSchema.Pattern.Syntax
import TypeSchema.Text.Alphabetic
import TypeSchema.Text.Blank
import TypeSchema.Text.Numeral

/-!
# Reading regular expressions

The grammar is

    Alternatives ::= Sequence ('|' Sequence)*
    Sequence     ::= (Flags | Part Repetition*)*
    Part         ::= '(' Alternatives ')' | '[' Set ']' | '\' Escape | '.' | '^' | '$' | character
    Repetition   ::= ('?' | '*' | '+' | '{' Count '}') '?'?

A reader takes the characters still to be read and returns what is left of them. In verbose mode
blanks and comments may stand between tokens; each reader is told whether it is in that mode.
-/

namespace TypeSchema.Pattern

/-! ### Characters -/

/-- The text after leading blanks and comments, in verbose mode. A comment ends with its line. -/
def skip (verbose : Bool) (cs : List Char) : List Char :=
  if verbose then go false cs else cs
where
  /-- Skips, inside of a comment or not. -/
  go : Bool → List Char → List Char
    | _, [] => []
    | true, c :: rest => go (c ≠ '\n') rest
    | false, c :: rest =>
      if Text.isBlank c then go false rest else if c = '#' then go true rest else c :: rest

/-- The character after the first one of a text, beyond blanks and the marks of comments in verbose
mode; the one right after it if there is nothing else. -/
def peekAfter? (verbose : Bool) (rest : List Char) : Option Char :=
  if verbose then ((go false rest).or rest.head?) else rest.head?
where
  /-- The next character, with a comment's mark behind it or not. -/
  go : Bool → List Char → Option Char
    | _, [] => none
    | marked, c :: rest =>
      if Text.isBlank c then go marked rest
      else if marked = false ∧ c = '#' then go true rest
      else some c

/-- The text after a given beginning. -/
def after? : List Char → List Char → Option (List Char)
  | [], cs => some cs
  | w :: ws, c :: cs => if w = c then after? ws cs else none
  | _ :: _, [] => none

/-- Whether a character has a meaning of its own outside or inside of brackets. -/
def isMeta (c : Char) : Bool := c ∈ "\\.+*?()|[]{}^$#&-~".toList

/-- Whether a backslash before a character makes it stand for itself. -/
def isEscapable (c : Char) : Bool :=
  isMeta c || (c.toNat < 0x80 && !c.isAlphanum && c ≠ '<' && c ≠ '>')

/-- The character of a number. -/
def scalar? (n : Nat) : Option Char :=
  if n < 0x110000 ∧ ¬(0xD800 ≤ n ∧ n ≤ 0xDFFF) then some (Char.ofNat n) else none

/-! ### Escapes -/

/-- One token outside of brackets that is no group: what an escape stands for. -/
inductive Escape where
  | literal (l : Literal)
  | assertion
  | shorthand (kind : Shorthand) (negated : Bool)
  | property (q : PropertyQuery)

/-- A number of hexadecimal digits, each but the first one after a `skip`. -/
def hexDigits? (verbose : Bool) : Nat → List Char → Option (List Char × List Char)
  | 0, cs => some ([], cs)
  | n + 1, c :: rest =>
    match Text.digitValue? 16 c with
    | none => none
    | some _ => (hexDigits? verbose n (skip verbose rest)).map fun (ds, r) => (c :: ds, r)
  | _ + 1, [] => none

/-- Characters up to a closing brace, each after a `skip`, and the text from the brace on. -/
def untilBrace? (verbose : Bool) : (fuel : Nat) → List Char → Option (List Char × List Char)
  | 0, _ => none
  | fuel + 1, cs =>
    match skip verbose cs with
    | [] => none
    | '}' :: rest => some ([], rest)
    | c :: rest => (untilBrace? verbose fuel rest).map fun (ds, r) => (c :: ds, r)

/-- A character by its number in base sixteen: so many digits, or any number of them in braces. -/
def hexEscape? (verbose : Bool) (width : Nat) (cs : List Char) : Option (Literal × List Char) :=
  match skip verbose cs with
  | '{' :: rest => do
    let (digits, rest) ← untilBrace? verbose (rest.length + 1) rest
    let char ← (Text.readDigits? 16 digits).bind scalar?
    return (⟨char, false⟩, skip verbose rest)
  | cs => do
    let (digits, rest) ← hexDigits? verbose width cs
    let char ← (Text.readDigits? 16 digits).bind scalar?
    return (⟨char, width == 2⟩, rest)

/-- Splits a text at the first occurrence of a beginning of it. -/
def splitAt? (mark : List Char) : List Char → Option (List Char × List Char)
  | [] => none
  | c :: cs =>
    match after? mark (c :: cs) with
    | some rest => some ([], rest)
    | none => (splitAt? mark cs).map fun (before, rest) => (c :: before, rest)

/-- The query that stands between braces. -/
def queryOf (cs : List Char) : PropertyQuery :=
  match (splitAt? ['!', '='] cs).or ((splitAt? [':'] cs).or (splitAt? ['='] cs)) with
  | some (name, value) => .valued (String.ofList name) (String.ofList value)
  | none => .named (String.ofList cs)

/-- The query after a backslash and `p`. -/
def propertyEscape? (verbose : Bool) (cs : List Char) : Option (PropertyQuery × List Char) :=
  match skip verbose cs with
  | [] => none
  | '\\' :: _ => none
  | '{' :: rest => (untilBrace? verbose (rest.length + 1) rest).map fun (q, r) => (queryOf q, r)
  | c :: rest => some (.named c.toString, skip verbose rest)

/-- Whether a character may stand in the name of a boundary. -/
def isBoundaryChar (c : Char) : Bool := c.isAlpha || c = '-'

/-- The name of a boundary, up to the brace that closes it. -/
def boundaryName? (verbose : Bool) : (fuel : Nat) → List Char → Option (List Char × List Char)
  | 0, _ => none
  | fuel + 1, cs =>
    match cs with
    | '}' :: rest => some ([], rest)
    | c :: rest =>
      if isBoundaryChar c then
        (boundaryName? verbose fuel (skip verbose rest)).map fun (ds, r) => (c :: ds, r)
      else none
    | [] => none

/-- The text after a word boundary, which may be followed by the name of its kind in braces. Braces
that do not begin with a name are left, as the repetition that they are. -/
def boundary? (verbose : Bool) (cs : List Char) : Option (List Char) :=
  match cs with
  | '{' :: rest =>
    match skip verbose rest with
    | [] => none
    | c :: inner =>
      if isBoundaryChar c then
        match boundaryName? verbose (inner.length + 2) (c :: inner) with
        | some (name, rest) =>
          if String.ofList name ∈ ["start", "end", "start-half", "end-half"] then some rest
          else none
        | none => none
      else some cs
  | _ => some cs

/-- The set that a letter stands for; a capital letter stands for the complement. -/
def shorthand? (c : Char) : Option (Shorthand × Bool) :=
  match c with
  | 'd' => some (.digit, false)
  | 'D' => some (.digit, true)
  | 's' => some (.space, false)
  | 'S' => some (.space, true)
  | 'w' => some (.word, false)
  | 'W' => some (.word, true)
  | _ => none

/-- What comes after a backslash. -/
def escape? (verbose : Bool) : List Char → Option (Escape × List Char)
  | [] => none
  | c :: rest =>
    if c.isDigit then none
    else if c = 'x' then (hexEscape? verbose 2 rest).map fun (l, r) => (.literal l, r)
    else if c = 'u' then (hexEscape? verbose 4 rest).map fun (l, r) => (.literal l, r)
    else if c = 'U' then (hexEscape? verbose 8 rest).map fun (l, r) => (.literal l, r)
    else if c = 'p' ∨ c = 'P' then (propertyEscape? verbose rest).map fun (q, r) => (.property q, r)
    else if let some (kind, negated) := shorthand? c then some (.shorthand kind negated, rest)
    else if isEscapable c then some (.literal { char := c }, rest)
    else if c = 'b' then (boundary? verbose rest).map fun r => (.assertion, r)
    else if c ∈ ['A', 'z', 'B', '<', '>'] then some (.assertion, rest)
    else
      match [('a', '\x07'), ('f', '\x0c'), ('t', '\t'), ('n', '\n'), ('r', '\r'),
          ('v', '\x0b')].lookup c with
      | some d => some (.literal { char := d }, rest)
      | none => none

/-! ### Sets -/

/-- The names of the sets of ASCII characters. -/
def asciiSetNames : List String :=
  ["alnum", "alpha", "ascii", "blank", "cntrl", "digit", "graph", "lower", "print", "punct",
    "space", "upper", "word", "xdigit"]

/-- A set of ASCII characters by its name, after the bracket that opens it. -/
def asciiSet? (cs : List Char) : Option (CharSet × List Char) := do
  let rest ← after? [':'] cs
  let (negated, rest) := match rest with
    | '^' :: rest => (true, rest)
    | rest => (false, rest)
  let name := rest.takeWhile (· ≠ ':')
  let rest ← after? [':', ']'] (rest.dropWhile (· ≠ ':'))
  if String.ofList name ∈ asciiSetNames then some (.ascii negated, rest) else none

/-- One character of a set, or an escape. -/
def setItem? (verbose : Bool) : List Char → Option (Escape × List Char)
  | '\\' :: rest => escape? verbose rest
  | c :: rest => some (.literal { char := c }, rest)
  | [] => none

/-- An escape as a member of a set. -/
def Escape.toSet? : Escape → Option CharSet
  | literal l => some (.literal l)
  | assertion => none
  | shorthand kind negated => some (.shorthand kind negated)
  | property q => some (.property q)

/-- A member of a set: an item, or a range between two characters, the first not beyond the last. -/
def setRange? (verbose : Bool) (cs : List Char) : Option (CharSet × List Char) := do
  let (first, rest) ← setItem? verbose cs
  let rest := skip verbose rest
  match rest with
  | [] => none
  | '-' :: inner =>
    let next? := peekAfter? verbose inner
    if next? = some ']' ∨ next? = some '-' then return (← first.toSet?, rest)
    else
      let (last, rest) ← setItem? verbose (skip verbose inner)
      match first, last with
      | .literal a, .literal b => if a.char ≤ b.char then return (.range a b, rest) else none
      | _, _ => none
  | _ => return (← first.toSet?, rest)

/-- Hyphens at the beginning of a set. -/
def hyphens (verbose : Bool) : (fuel : Nat) → List Char → List CharSet × List Char
  | 0, cs => ([], cs)
  | fuel + 1, cs =>
    match cs with
    | '-' :: rest =>
      let (items, rest) := hyphens verbose fuel (skip verbose rest)
      (.literal { char := '-' } :: items, rest)
    | _ => ([], cs)

/-- What stands right behind an opening bracket: whether the set is a complement, and the hyphens or
the closing bracket that stand for themselves there. -/
def setStart (verbose : Bool) (cs : List Char) : Bool × List CharSet × List Char :=
  let cs := skip verbose cs
  let (negated, cs) := match cs with
    | '^' :: rest => (true, skip verbose rest)
    | _ => (false, cs)
  match hyphens verbose cs.length cs with
  | ([], ']' :: rest) => (negated, [.literal { char := ']' }], skip verbose rest)
  | (items, rest) => (negated, items.reverse, rest)

/-- A set under construction. -/
structure SetBuilder where
  /-- What stands before the last operator. -/
  left? : Option CharSet := none
  /-- What was read since, last first. -/
  items : List CharSet

namespace SetBuilder

/-- Adds an item. -/
def add (b : SetBuilder) (s : CharSet) : SetBuilder := { b with items := s :: b.items }

/-- The set so far. -/
def close (b : SetBuilder) : CharSet :=
  let last := match b.items with
    | [s] => s
    | items => .union items.reverse
  match b.left? with
  | some left => .combined left last
  | none => last

/-- What has been read is the left side of an operator. -/
def operator (b : SetBuilder) : SetBuilder := ⟨some b.close, []⟩

end SetBuilder

/-- The rest of a set, up to the bracket that closes it. Every call reads a character. -/
def setBody? (verbose : Bool) : (fuel : Nat) → SetBuilder → List Char →
    Option (CharSet × List Char)
  | 0, _, _ => none
  | fuel + 1, b, cs =>
    match skip verbose cs with
    | [] => none
    | ']' :: rest => some (b.close, rest)
    | '&' :: '&' :: rest => setBody? verbose fuel b.operator rest
    | '-' :: '-' :: rest => setBody? verbose fuel b.operator rest
    | '~' :: '~' :: rest => setBody? verbose fuel b.operator rest
    | '[' :: rest =>
      match asciiSet? rest with
      | some (s, rest) => setBody? verbose fuel (b.add s) rest
      | none =>
        let (negated, items, rest) := setStart verbose rest
        match setBody? verbose fuel { items } rest with
        | some (s, rest) => setBody? verbose fuel (b.add (.bracketed negated s)) rest
        | none => none
    | cs =>
      match setRange? verbose cs with
      | some (s, rest) => setBody? verbose fuel (b.add s) rest
      | none => none

/-- A set after the bracket that opens it. -/
def set? (verbose : Bool) (cs : List Char) : Option (Syntax × List Char) :=
  let (negated, items, rest) := setStart verbose cs
  (setBody? verbose (rest.length + 1) { items } rest).map fun (s, r) => (.set negated s, r)

/-! ### Repetitions -/

/-- The largest count of a repetition. -/
def countMax : Nat := unsignedMax 32

/-- The text after leading blanks, which are followed by a `skip` if there are any. -/
def skipBlanks (verbose : Bool) (cs : List Char) : List Char :=
  match cs with
  | c :: _ => if Text.isBlank c then skip verbose (cs.dropWhile Text.isBlank) else cs
  | [] => []

/-- Decimal digits, each followed by a `skip`. -/
def countDigits (verbose : Bool) : (fuel : Nat) → List Char → List Char × List Char
  | 0, cs => ([], cs)
  | fuel + 1, cs =>
    match cs with
    | c :: rest =>
      if c.isDigit then
        let (digits, rest) := countDigits verbose fuel (skip verbose rest)
        (c :: digits, rest)
      else ([], cs)
    | [] => ([], [])

/-- A count, among blanks: none if there are no digits or the number is too large. -/
def count (verbose : Bool) (cs : List Char) : Option Nat × List Char :=
  let cs := cs.dropWhile Text.isBlank
  let (digits, rest) := countDigits verbose cs.length cs
  ((Text.readDigits? 10 digits).filter (· ≤ countMax), skipBlanks verbose rest)

/-- The counts of a repetition, after the brace that opens them. -/
def counts? (verbose : Bool) (cs : List Char) : Option (Count × List Char) := do
  let (min?, rest) := count verbose (skip verbose cs)
  let min ← min?
  match rest with
  | '}' :: rest => return (⟨min, some min⟩, rest)
  | ',' :: rest =>
    match skip verbose rest with
    | '}' :: rest => return (⟨min, none⟩, rest)
    | rest =>
      let (max?, rest) := count verbose rest
      let max ← max?
      let rest ← after? ['}'] rest
      if min ≤ max then return (⟨min, some max⟩, rest) else none
  | _ => none

/-- The text after a question mark, which makes a repetition as short as possible. -/
def lazyMark (cs : List Char) : List Char :=
  match cs with
  | '?' :: rest => rest
  | _ => cs

/-! ### Groups -/

/-- Whether a character may stand in the name of a group, at the beginning or later. -/
def isNameChar (first : Bool) (c : Char) : Bool :=
  if first then c = '_' || Text.isAlphabetic c
  else c ∈ ['_', '.', '[', ']'] || Text.isAlphanumeric c

/-- The name of a group, and the text after its closing mark. -/
def groupName? (cs : List Char) : Option (String × List Char) := do
  let name := cs.takeWhile (· ≠ '>')
  let rest ← after? ['>'] (cs.dropWhile (· ≠ '>'))
  match name with
  | [] => none
  | c :: more =>
    if isNameChar true c && more.all (isNameChar false) then
      return (String.ofList name, rest)
    else none

/-- The letters of flags, with a hyphen before those that are cleared, up to the mark that ends
them. No letter may come twice, and no hyphen last. -/
def flagLetters? : (seen : List Char) → List Char → Option (List Char × List Char)
  | _, [] => none
  | seen, c :: rest =>
    if c = ':' ∨ c = ')' then
      if seen.head? = some '-' then none else some (seen.reverse, c :: rest)
    else if c ∈ "imsUuRx-".toList ∧ c ∉ seen then flagLetters? (c :: seen) rest
    else none

/-- What flag letters say of one flag. -/
def flagState? (letters : List Char) (flag : Char) : Option Bool :=
  if flag ∈ letters.takeWhile (· ≠ '-') then some true
  else if flag ∈ letters then some false
  else none

/-- The flags of some letters. -/
def flagsOf (letters : List Char) : Flags := ⟨flagState? letters 'u', flagState? letters 'x'⟩

/-- What follows an opening parenthesis: flags for the rest of the group around it, or a group. -/
inductive Opening where
  | flags (f : Flags)
  | group (kind : GroupKind)

/-- What follows an opening parenthesis. Looking around is not supported. -/
def opening? (verbose : Bool) (cs : List Char) : Option (Opening × List Char) :=
  match skip verbose cs with
  | '?' :: 'P' :: '<' :: rest => (groupName? rest).map fun (n, r) => (.group (.named n), r)
  | '?' :: '<' :: rest => (groupName? rest).map fun (n, r) => (.group (.named n), r)
  | '?' :: rest =>
    match flagLetters? [] rest with
    | some (letters, ')' :: rest) =>
      if letters.isEmpty then none else some (.flags (flagsOf letters), rest)
    | some (letters, _ :: rest) => some (.group (.flagged (flagsOf letters)), rest)
    | _ => none
  | cs => some (.group .numbered, cs)

/-- The mode inside of a group. -/
def GroupKind.verbose (outer : Bool) : GroupKind → Bool
  | flagged f => f.verbose?.getD outer
  | _ => outer

/-! ### Expressions -/

/-- An expression under construction. -/
structure Builder where
  /-- The alternatives before the last one, last first. -/
  branches : List Syntax := []
  /-- The parts of the last alternative, last first. -/
  parts : List Syntax := []

namespace Builder

/-- Adds a part. -/
def add (b : Builder) (p : Syntax) : Builder := { b with parts := p :: b.parts }

/-- The last alternative. -/
def branch (b : Builder) : Syntax :=
  match b.parts with
  | [p] => p
  | parts => .sequence parts.reverse

/-- Begins another alternative. -/
def split (b : Builder) : Builder := ⟨b.branch :: b.branches, []⟩

/-- The expression so far. -/
def close (b : Builder) : Syntax :=
  match b.branches with
  | [] => b.branch
  | branches => .alternatives (b.branch :: branches).reverse

/-- Repeats the last part, if there is one that may be repeated. -/
def repeat? (b : Builder) (count : Count) : Option Builder :=
  match b.parts with
  | p :: rest => if p.isRepeatable then some { b with parts := .repeated count p :: rest } else none
  | [] => none

end Builder

/-- An escape as an expression. -/
def Escape.toSyntax : Escape → Syntax
  | literal l => .literal l
  | assertion => .assertion
  | shorthand kind negated => .shorthand kind negated
  | property q => .property q

/-- The rest of a group, up to the parenthesis that closes it or to the end. Every call reads a
character. -/
def body? : (fuel : Nat) → (verbose : Bool) → Builder → List Char → Option (Syntax × List Char)
  | 0, _, _, _ => none
  | fuel + 1, verbose, b, cs =>
    let repeat? (count : Count) (rest : List Char) :=
      match b.repeat? count with
      | some b => body? fuel verbose b (lazyMark rest)
      | none => none
    match skip verbose cs with
    | [] => some (b.close, [])
    | ')' :: rest => some (b.close, ')' :: rest)
    | '|' :: rest => body? fuel verbose b.split rest
    | '(' :: rest =>
      match opening? verbose rest with
      | some (.flags f, rest) => body? fuel (f.verbose?.getD verbose) (b.add (.flags f)) rest
      | some (.group kind, rest) =>
        match body? fuel (kind.verbose verbose) {} rest with
        | some (p, ')' :: rest) => body? fuel verbose (b.add (.group kind p)) rest
        | _ => none
      | none => none
    | '[' :: rest =>
      match set? verbose rest with
      | some (p, rest) => body? fuel verbose (b.add p) rest
      | none => none
    | '?' :: rest => repeat? ⟨0, some 1⟩ rest
    | '*' :: rest => repeat? ⟨0, none⟩ rest
    | '+' :: rest => repeat? ⟨1, none⟩ rest
    | '{' :: rest =>
      match counts? verbose rest with
      | some (count, rest) => repeat? count (skip verbose rest)
      | none => none
    | '\\' :: rest =>
      match escape? verbose rest with
      | some (e, rest) => body? fuel verbose (b.add e.toSyntax) rest
      | none => none
    | '.' :: rest => body? fuel verbose (b.add .dot) rest
    | '^' :: rest => body? fuel verbose (b.add .assertion) rest
    | '$' :: rest => body? fuel verbose (b.add .assertion) rest
    | c :: rest => body? fuel verbose (b.add (.literal { char := c })) rest

/-- Reads a whole expression. -/
def parse? (s : String) : Option Syntax :=
  let cs := s.toList
  match body? (cs.length + 1) false {} cs with
  | some (p, []) => some p
  | _ => none

end TypeSchema.Pattern
