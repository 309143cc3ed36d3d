import TypeSchema.Yaml.Cursor

/-!
# Scanning YAML scalars

A scalar is plain, between quotes, or a block of lines. In plain and quoted scalars the end of one
line counts as a space, and of more lines as one end less; in folded blocks that holds between lines
that are not indented further.
-/

namespace TypeSchema.Yaml

/-! ### Gaps -/

/-- What stands between two words of a scalar. -/
structure Gap where
  /-- Blanks before the first end of a line, last first. -/
  blanks : List Char := []
  /-- The first end of a line. -/
  first : List Char := []
  /-- Further ends of lines, last first. -/
  more : List Char := []
  /-- Whether a line has ended. -/
  broken : Bool := false

namespace Gap

/-- The text of a gap, last character first. -/
def text (g : Gap) : List Char :=
  if g.broken then
    if g.first = ['\n'] then (if g.more.isEmpty then [' '] else g.more) else g.more ++ g.first
  else g.blanks

/-- Scans a gap that has begun. After the end of a line no tab may stand before the column
`indent`. Each round but the last reads a character. -/
def scan? (indent : Int) : (fuel : Nat) → Gap → Cursor → Option (Gap × Cursor)
  | 0, _, _ => none
  | fuel + 1, g, c =>
    match c.rest with
    | [] => some (g, c)
    | d :: _ =>
      if isBlank d then
        if g.broken ∧ (c.column : Int) < indent ∧ d = '\t' then none
        else if g.broken then scan? indent fuel g (c.advance 1)
        else scan? indent fuel { g with blanks := d :: g.blanks } (c.advance 1)
      else if isBreak d then
        let (b, c) := c.takeBreak
        if g.broken then scan? indent fuel { g with more := b ++ g.more } c
        else scan? indent fuel { g with blanks := [], first := b, broken := true } c
      else some (g, c)

end Gap

/-! ### Plain scalars -/

/-- A word of a plain scalar, last character first; none where the word would be ambiguous. -/
def plainWord? (inFlow : Bool) (read : List Char) : List Char → Option (List Char)
  | [] => some read
  | ':' :: rest =>
    if inFlow ∧ ∃ c ∈ rest.head?, c ∈ [',', '?', '[', ']', '{', '}'] then none
    else if endsWord rest then some read
    else plainWord? inFlow (':' :: read) rest
  | c :: rest =>
    if !isInk c || (inFlow && c ∈ [',', '[', ']', '{', '}']) then some read
    else plainWord? inFlow (c :: read) rest

/-- The rest of a plain scalar after some text, last character first, and a gap. In block context
its lines begin at the column `indent` or beyond. The text, the last gap, and the position after
it. -/
def plain? (inFlow : Bool) (indent : Int) : (fuel : Nat) → (read : List Char) → Gap → Cursor →
    Option (List Char × Gap × Cursor)
  | 0, _, _, _ => none
  | fuel + 1, read, gap, c =>
    if c.isAtMark ∨ c.rest.head? = some '#' then some (read, gap, c)
    else
      match plainWord? inFlow [] c.rest with
      | none => none
      | some word =>
        let c := c.advance word.length
        let (read, gap) := if word.isEmpty then (read, gap) else (word ++ gap.text ++ read, {})
        match c.rest with
        | [] => some (read, gap, c)
        | d :: _ =>
          if isInk d then some (read, gap, c)
          else
            match Gap.scan? indent (c.rest.length + 1) gap c with
            | none => none
            | some (gap, c) =>
              if inFlow = false ∧ (c.column : Int) < indent then some (read, gap, c)
              else plain? inFlow indent fuel read gap c

/-! ### Quoted scalars -/

/-- The character of so many hexadecimal digits. -/
def hexChar? (width : Nat) (cs : List Char) : Option Char :=
  if cs.length < width then none
  else
    match Text.readDigits? 16 (cs.take width) with
    | some n =>
      if n < 0x110000 ∧ ¬(0xD800 ≤ n ∧ n ≤ 0xDFFF) then some (Char.ofNat n) else none
    | none => none

/-- The characters that stand for another one after a backslash. -/
def shortEscapes : List (Char × Char) :=
  [('0', '\x00'), ('a', '\x07'), ('b', '\x08'), ('t', '\t'), ('\t', '\t'), ('n', '\n'),
    ('v', '\x0b'), ('f', '\x0c'), ('r', '\r'), ('e', '\x1b'), (' ', ' '), ('"', '"'), ('/', '/'),
    ('\\', '\\'), ('N', '\u0085'), ('_', '\u00a0'), ('L', '\u2028'), ('P', '\u2029')]

/-- The character after a backslash, and how many characters spell it. -/
def escape? : List Char → Option (Char × Nat)
  | 'x' :: rest => (hexChar? 2 rest).map (·, 3)
  | 'u' :: rest => (hexChar? 4 rest).map (·, 5)
  | 'U' :: rest => (hexChar? 8 rest).map (·, 9)
  | c :: _ => (shortEscapes.lookup c).map (·, 1)
  | [] => none

/-- A word of a quoted scalar, after some text, last character first. It ends at a blank, at the
closing quote, or after a backslash at the end of a line, which is told. -/
def quotedWord? (single : Bool) : (fuel : Nat) → (read : List Char) → Cursor →
    Option (List Char × Bool × Cursor)
  | 0, _, _ => none
  | fuel + 1, read, c =>
    match c.rest with
    | [] => some (read, false, c)
    | d :: rest =>
      if !isInk d then some (read, false, c)
      else if single then
        if d = '\'' then
          if rest.head? = some '\'' then quotedWord? single fuel ('\'' :: read) (c.advance 2)
          else some (read, false, c)
        else quotedWord? single fuel (d :: read) (c.advance 1)
      else if d = '"' then some (read, false, c)
      else if d = '\\' then
        if rest ≠ [] ∧ endsLine rest then some (read, true, (c.advance 1).takeBreak.2)
        else
          match escape? rest with
          | some (e, n) => quotedWord? single fuel (e :: read) (c.advance (n + 1))
          | none => none
      else quotedWord? single fuel (d :: read) (c.advance 1)

/-- The rest of a quoted scalar after some text, last character first, and its closing quote. -/
def quoted? (single : Bool) : (fuel : Nat) → (read : List Char) → Cursor →
    Option (String × Cursor)
  | 0, _, _ => none
  | fuel + 1, read, c =>
    if c.isAtMark ∨ c.rest.isEmpty then none
    else
      match quotedWord? single (c.rest.length + 1) read c with
      | none => none
      | some (read, broken, c) =>
        if c.rest.head? = some (if single then '\'' else '"') then
          some (String.ofList read.reverse, c.advance 1)
        else
          match Gap.scan? 0 (c.rest.length + 1) { broken } c with
          | some (gap, c) => quoted? single fuel (gap.text ++ read) c
          | none => none

/-! ### Block scalars -/

/-- What becomes of the ends of lines after the last line of a block. -/
inductive Chomping where
  | strip
  | clip
  | keep
  deriving DecidableEq, Repr

/-- A sign for the ends of lines, if there is one. -/
def chomping? : List Char → Option Chomping
  | '+' :: _ => some .keep
  | '-' :: _ => some .strip
  | _ => none

/-- The header of a block: chomping and further indentation, in any order. -/
def blockHeader? (c : Cursor) : Option (Chomping × Nat × Cursor) :=
  let digit? (c : Cursor) : Option (Nat × Cursor) :=
    match c.rest with
    | d :: _ =>
      if d.isDigit then
        if d = '0' then none else some (d.toNat - '0'.toNat, c.advance 1)
      else some (0, c)
    | [] => some (0, c)
  match chomping? c.rest with
  | some chomping => (digit? (c.advance 1)).map fun (n, c) => (chomping, n, c)
  | none =>
    match digit? c with
    | none => none
    | some (n, c) =>
      if n = 0 then some (.clip, 0, c)
      else
        match chomping? c.rest with
        | some chomping => some (chomping, n, c.advance 1)
        | none => some (.clip, n, c)

/-- Empty lines, and indentation up to the column `indent`; if that is not known yet, any number of
spaces. The ends of lines, last first, and the greatest column. -/
def blockBreaks? (indent : Nat) : (fuel : Nat) → (breaks : List Char) → (widest : Nat) → Cursor →
    Option (List Char × Nat × Cursor)
  | 0, _, _, _ => none
  | fuel + 1, breaks, widest, c =>
    let spaces := (c.rest.takeWhile (· = ' ')).length
    let c := c.advance (if indent = 0 then spaces else min spaces (indent - c.column))
    let widest := max widest c.column
    match c.rest with
    | [] => some (breaks, widest, c)
    | d :: _ =>
      if (indent = 0 ∨ c.column < indent) ∧ d = '\t' then none
      else if isBreak d then
        let (b, c) := c.takeBreak
        blockBreaks? indent fuel (b ++ breaks) widest c
      else some (breaks, widest, c)

/-- The state of reading a block: the text, the end of the last line and those of empty lines after
it, each last character first, and whether the last line began with a blank. -/
structure Block where
  read : List Char := []
  last : List Char := []
  breaks : List Char := []
  indented : Bool := false

/-- Adds what stands between two lines, given whether the next line begins with a blank. -/
def Block.join (b : Block) (folded indented : Bool) : List Char :=
  if folded && b.last = ['\n'] && !b.indented && !indented then
    if b.breaks.isEmpty then ' ' :: b.read else b.breaks ++ b.read
  else b.breaks ++ (b.last ++ b.read)

/-- The lines of a block at the column `indent`. Each round reads a line. -/
def blockLines? (folded : Bool) (indent : Nat) : (fuel : Nat) → Block → Cursor →
    Option (Block × Cursor)
  | 0, _, _ => none
  | fuel + 1, b, c =>
    match c.rest with
    | [] => some (b, c)
    | d :: _ =>
      if c.column ≠ indent then some (b, c)
      else
        let read := b.join folded (isBlank d)
        let (line, c) := c.take (!isBreak ·)
        let (last, c) := c.takeBreak
        match blockBreaks? indent (c.rest.length + 1) [] 0 c with
        | none => none
        | some (breaks, _, c) =>
          blockLines? folded indent fuel ⟨line.reverse ++ read, last, breaks, isBlank d⟩ c

/-- The text of a block after its last line. -/
def Block.finish (b : Block) (chomping : Chomping) : String :=
  let read := match chomping with
    | .strip => b.read
    | .clip => b.last ++ b.read
    | .keep => b.breaks ++ (b.last ++ b.read)
  String.ofList read.reverse

/-- A block scalar after its indicator, inside of a block at the column `outer`. -/
def block? (folded : Bool) (outer : Int) (c : Cursor) : Option (String × Cursor) := do
  let (chomping, further, c) ← blockHeader? c
  let c ← c.skipLine?
  let given : Nat := if further = 0 then 0 else (max outer 0).toNat + further
  let (breaks, widest, c) ← blockBreaks? given (c.rest.length + 1) [] 0 c
  let indent := if given = 0 then max widest (max (outer + 1) 1).toNat else given
  let (b, c) ← blockLines? folded indent (c.rest.length + 1) { breaks } c
  return (b.finish chomping, c)

end TypeSchema.Yaml
