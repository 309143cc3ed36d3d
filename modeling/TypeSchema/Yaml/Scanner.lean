import TypeSchema.Yaml.Scalars

/-!
# Scanning YAML

The scanner keeps the columns of the open blocks and notes where a simple key may have begun: a key
without a question mark is known as one only when its colon is met, and then a key token, and
perhaps the beginning of a block mapping, has to stand before it. So an `Item.slot` is put into the
output wherever a simple key may begin, and `fillSlots` replaces the slots in the end, each by the
tokens that were found to belong there.
-/

namespace TypeSchema.Yaml

/-- An element of the scanner's output. -/
inductive Item where
  | token (t : Token)
  /-- The beginning of what may be a simple key. -/
  | slot (number : Nat)
  deriving Inhabited

/-- The beginning of what may be a simple key. -/
structure SimpleKey where
  slot : Nat
  /-- Whether nothing but a key may stand here. -/
  required : Bool
  index : Nat
  line : Nat
  column : Nat

/-- The state of the scanner. -/
structure Scanner where
  cursor : Cursor
  /-- The output, last first. -/
  output : List Item := []
  /-- The number of slots in the output. -/
  slots : Nat := 0
  /-- The slots of keys, and whether a block mapping begins with the key. -/
  keys : List (Nat × Bool) := []
  /-- The column of the innermost block, `-1` outside of all blocks. -/
  indent : Int := -1
  /-- The columns of the blocks around it, innermost first. -/
  outer : List Int := []
  /-- Whether a simple key may begin here. -/
  keyAllowed : Bool := true
  /-- The simple key that may have begun in the innermost flow collection or the block around all of
  them. -/
  candidate? : Option SimpleKey := none
  /-- Those of the flow collections around, innermost first; one for each open flow collection. -/
  suspended : List (Option SimpleKey) := []

namespace Scanner

/-- Whether a flow collection is open. -/
def inFlow (s : Scanner) : Bool := !s.suspended.isEmpty

/-- Puts out a token. -/
def emit (s : Scanner) (t : Token) : Scanner := { s with output := .token t :: s.output }

/-- Moves on by some characters of the line. -/
def advance (s : Scanner) (n : Nat) : Scanner := { s with cursor := s.cursor.advance n }

/-! ### Blanks -/

/-- Moves to the next token, over blanks, comments and the ends of lines. Tabs do not count as
blanks where a simple key may begin in a block. Each round but the last reads a character. -/
def toNextToken : (fuel : Nat) → Scanner → Scanner
  | 0, s => s
  | fuel + 1, s =>
    let c := s.cursor
    -- a byte order mark counts at the beginning only
    let c := if c.index = 0 ∧ c.rest.head? = some '\ufeff' then c.advance 1 else c
    let c := c.skipWhile fun d => d = ' ' || ((s.inFlow || !s.keyAllowed) && d = '\t')
    let c := if c.rest.head? = some '#' then c.skipWhile (!isBreak ·) else c
    match c.rest with
    | d :: _ =>
      if isBreak d then
        toNextToken fuel { s with cursor := c.takeBreak.2, keyAllowed := s.keyAllowed || !s.inFlow }
      else { s with cursor := c }
    | [] => { s with cursor := c }

/-! ### Blocks -/

/-- Ends blocks for as long as a condition holds. -/
def endBlocks (ends : Int → Bool) (s : Scanner) : List Int → Scanner
  | [] => s
  | column :: rest =>
    if ends s.indent then
      endBlocks ends { s.emit .blockEnd with indent := column, outer := rest } rest
    else s

/-- Ends the blocks beyond a column. -/
def unroll (s : Scanner) (column : Int) : Scanner :=
  if s.inFlow then s else endBlocks (column < ·) s s.outer

/-- Begins a block at the current column, if that is beyond the innermost block's. -/
def roll (s : Scanner) (begins : Token) : Scanner :=
  let column : Int := s.cursor.column
  if s.inFlow = false ∧ s.indent < column then
    { s.emit begins with indent := column, outer := s.indent :: s.outer }
  else s

/-! ### Simple keys -/

/-- Whether a simple key that begins somewhere may still be one: it has to be on one line and within
1024 characters. -/
def isCurrent (c : Cursor) (k : SimpleKey) : Bool := c.line ≤ k.line && c.index ≤ k.index + 1024

/-- Gives up a candidate that cannot be a key; none if it had to be one. -/
def refresh? (c : Cursor) : Option SimpleKey → Option (Option SimpleKey)
  | none => some none
  | some k => if isCurrent c k then some (some k) else if k.required then none else some none

/-- Gives up the candidates that cannot be keys. -/
def dropStale? (s : Scanner) : Option Scanner := do
  let candidate? ← refresh? s.cursor s.candidate?
  let suspended ← s.suspended.mapM (refresh? s.cursor)
  return { s with candidate?, suspended }

/-- Gives up the innermost candidate; none if it had to be a key. -/
def dropKey? (s : Scanner) : Option Scanner :=
  match s.candidate? with
  | some k => if k.required then none else some { s with candidate? := none }
  | none => some s

/-- Notes that a simple key may begin here. -/
def saveKey? (s : Scanner) : Option Scanner :=
  if s.keyAllowed then
    s.dropKey?.map fun s =>
      let c := s.cursor
      let required := !s.inFlow && s.indent = (c.column : Int)
      { s with
        candidate? := some ⟨s.slots, required, c.index, c.line, c.column⟩
        output := .slot s.slots :: s.output
        slots := s.slots + 1 }
  else some s

/-! ### Tokens -/

/-- A token that is not a key and cannot begin one. -/
def plainToken? (s : Scanner) (keyAllowed : Bool) (width : Nat) (t : Token) : Option Scanner :=
  s.dropKey?.map fun s => { (s.emit t).advance width with keyAllowed }

/-- The mark of the beginning or the end of a document. -/
def documentMark? (s : Scanner) (t : Token) : Option Scanner :=
  (s.unroll (-1)).plainToken? false 3 t

/-- The beginning of a flow collection. -/
def flowStart? (s : Scanner) (t : Token) : Option Scanner :=
  s.saveKey?.map fun s =>
    { (s.emit t).advance 1 with
      keyAllowed := true, candidate? := none, suspended := s.candidate? :: s.suspended }

/-- The end of a flow collection. -/
def flowEnd? (s : Scanner) (t : Token) : Option Scanner :=
  (s.plainToken? false 1 t).map fun s =>
    match s.suspended with
    | k? :: rest => { s with candidate? := k?, suspended := rest }
    | [] => s

/-- The mark of an entry of a block sequence. -/
def blockEntry? (s : Scanner) : Option Scanner :=
  if s.inFlow then s.plainToken? true 1 .blockEntry
  else if s.keyAllowed then (s.roll .blockSequenceStart).plainToken? true 1 .blockEntry
  else none

/-- The mark of a key. -/
def keyMark? (s : Scanner) : Option Scanner :=
  if s.inFlow then s.plainToken? false 1 .key
  else if s.keyAllowed then (s.roll .blockMappingStart).plainToken? true 1 .key
  else none

/-- The mark of a value. If a simple key may have begun, it has. -/
def valueMark? (s : Scanner) : Option Scanner :=
  match s.candidate? with
  | some k =>
    let begins := !s.inFlow && s.indent < (k.column : Int)
    let s := if begins then { s with indent := k.column, outer := s.indent :: s.outer } else s
    some { (s.emit .value).advance 1 with
      keys := (k.slot, begins) :: s.keys, candidate? := none, keyAllowed := false }
  | none =>
    if s.inFlow then some { (s.emit .value).advance 1 with keyAllowed := false }
    else if s.keyAllowed then some ((s.roll .blockMappingStart).emit .value |>.advance 1)
    else none

/-- Puts out a token that may begin a simple key. -/
def keyToken? (s : Scanner) (scan? : Cursor → Option (Token × Cursor)) : Option Scanner := do
  let s ← s.saveKey?
  let (t, cursor) ← scan? s.cursor
  return { s.emit t with cursor, keyAllowed := false }

/-! ### Names and tags -/

/-- A name after its indicator. -/
def name? (c : Cursor) : Option (String × Cursor) :=
  let (name, c) := (c.advance 1).take isNameChar
  let ends := endsWord c.rest || c.rest.head?.any (· ∈ ['?', ':', ',', ']', '}', '%', '@', '\x60'])
  if name.isEmpty || !ends then none else some (String.ofList name, c)

/-- Whether a character may stand in a tag. -/
def isTagChar (verbatim : Bool) (c : Char) : Bool :=
  isNameChar c || c ∈ ";/?:@&=+$.%!~*'()".toList || (verbatim && c ∈ [',', '[', ']'])

/-- The value of a byte that is spelled by two hexadecimal digits after a percent sign. -/
def percentByte? : List Char → Option (Nat × List Char)
  | '%' :: a :: b :: rest => (Text.readDigits? 16 [a, b]).map (·, rest)
  | _ => none

/-- Further bytes of a character. -/
def percentRest? : Nat → Nat → List Char → Option (Nat × List Char)
  | 0, n, cs => some (n, cs)
  | count + 1, n, cs =>
    match percentByte? cs with
    | some (b, rest) => if b / 64 = 2 then percentRest? count (n * 64 + b % 64) rest else none
    | none => none

/-- A character that is spelled byte by byte. -/
def percentChar? (cs : List Char) : Option (Char × List Char) := do
  let (b, rest) ← percentByte? cs
  -- the first byte says how many follow
  let (n, rest) ←
    if b < 0x80 then some (b, rest)
    else if b / 32 = 6 then percentRest? 1 (b % 32) rest
    else if b / 16 = 14 then percentRest? 2 (b % 16) rest
    else if b / 8 = 30 then percentRest? 3 (b % 8) rest
    else none
  return (Char.ofNat n, rest)

/-- The characters that the spelling of a tag stands for. -/
def tagText? : (fuel : Nat) → List Char → Option (List Char)
  | 0, _ => none
  | _ + 1, [] => some []
  | fuel + 1, c :: rest =>
    if c = '%' then
      match percentChar? (c :: rest) with
      | some (d, rest) => (tagText? fuel rest).map (d :: ·)
      | none => none
    else (tagText? fuel rest).map (c :: ·)

/-- The rest of a tag, after characters that were read before. -/
def tagRest? (verbatim : Bool) (before : List Char) (c : Cursor) : Option (String × Cursor) :=
  let (spelled, c) := c.take (isTagChar verbatim)
  (tagText? (spelled.length + 1) spelled).map fun cs => (String.ofList (before ++ cs), c)

/-- The rest of a tag, which has at least one character. -/
def tagRest1? (verbatim : Bool) (c : Cursor) : Option (String × Cursor) :=
  if c.rest.head?.any (isTagChar verbatim) then tagRest? verbatim [] c else none

/-- A handle, from its first mark to a second one if there is one. -/
def handle? (c : Cursor) : Option (List Char × Cursor) :=
  match c.rest with
  | '!' :: _ =>
    let (name, c) := (c.advance 1).take isNameChar
    if c.rest.head? = some '!' then some ('!' :: name ++ ['!'], c.advance 1)
    else some ('!' :: name, c)
  | _ => none

/-- The handle and the rest of a tag. A single mark is a tag without a handle. -/
def tagParts? (c : Cursor) : Option (TagText × Cursor) :=
  match c.rest with
  | '!' :: '<' :: _ => do
    let (suffix, c) ← tagRest1? true (c.advance 2)
    if c.rest.head? = some '>' then return (⟨"", suffix⟩, c.advance 1) else none
  | _ => do
    let (handle, c) ← handle? c
    if handle.length > 1 ∧ handle.getLast? = some '!' then
      let (suffix, c) ← tagRest1? false c
      return (⟨String.ofList handle, suffix⟩, c)
    else
      let (suffix, c) ← tagRest? false handle.tail c
      return (if suffix.isEmpty then ⟨"", "!"⟩ else ⟨"!", suffix⟩, c)

/-- A tag, and the blank, the end of a line or, in a flow collection, the comma behind it. -/
def tag? (inFlow : Bool) (c : Cursor) : Option (Token × Cursor) := do
  let (t, c) ← tagParts? c
  if endsWord c.rest || (inFlow && c.rest.head? = some ',') then return (.tag t, c) else none

/-! ### Directives -/

/-- A number of at most nine digits. -/
def versionNumber? (c : Cursor) : Option (Nat × Cursor) :=
  let (digits, c) := c.take Char.isDigit
  if digits.length ≤ 9 then (Text.readDigits? 10 digits).map (·, c) else none

/-- The version that a document is written in. -/
def version? (c : Cursor) : Option (Token × Cursor) := do
  let (major, c) ← versionNumber? (c.skipWhile isBlank)
  if c.rest.head? = some '.' then
    let (minor, c) ← versionNumber? (c.advance 1)
    return (.versionDirective major minor, c)
  else none

/-- What a handle stands for. -/
def handleMeaning? (c : Cursor) : Option (Token × Cursor) := do
  let (handle, c) ← handle? (c.skipWhile isBlank)
  if handle ≠ ['!'] ∧ (handle.length < 2 ∨ handle.getLast? ≠ some '!') then none
  else if c.rest.head?.any isBlank then
    let (expansion, c) ← tagRest1? true (c.skipWhile isBlank)
    if endsWord c.rest then return (.tagDirective (String.ofList handle) expansion, c) else none
  else none

/-- A directive and its line. -/
def directive? (c : Cursor) : Option (Token × Cursor) := do
  let (name, c) := (c.advance 1).take isNameChar
  if !endsWord c.rest then none
  else
    let (t, c) ←
      if name = "YAML".toList then version? c
      else if name = "TAG".toList then handleMeaning? c
      else none
    let c ← c.skipLine?
    return (t, c)

/-! ### The scanner -/

/-- Whether a plain scalar may begin with these characters. -/
def beginsPlain (inFlow : Bool) : List Char → Bool
  | [] => false
  | c :: rest =>
    (isInk c && c ∉ "-?:,[]{}#&*!|>'\"%@\x60".toList) ||
      (c = '-' && !rest.head?.any isBlank) ||
      (!inFlow && (c = '?' || c = ':') && !endsWord rest)

/-- Puts out a block scalar. -/
def blockScalar? (s : Scanner) (folded : Bool) : Option Scanner := do
  let s ← s.dropKey?
  let (text, cursor) ← block? folded s.indent (s.cursor.advance 1)
  return { s.emit (.scalar text (if folded then .folded else .literal)) with
    cursor, keyAllowed := true }

/-- Puts out a quoted scalar. -/
def quotedScalar? (s : Scanner) (single : Bool) : Option Scanner :=
  s.keyToken? fun c =>
    let c := c.advance 1
    (quoted? single (c.rest.length + 1) [] c).map fun (text, c) => (.scalar text .quoted, c)

/-- Puts out a plain scalar. After one that goes over several lines a simple key may begin. -/
def plainScalar? (s : Scanner) : Option Scanner := do
  let s ← s.saveKey?
  let (read, gap, cursor) ←
    plain? s.inFlow (s.indent + 1) (s.cursor.rest.length + 1) [] {} s.cursor
  return { s.emit (.scalar (String.ofList read.reverse) .plain) with
    cursor, keyAllowed := gap.broken }

/-- Puts out the token that begins with these characters. -/
def token? (s : Scanner) : Option Scanner :=
  match s.cursor.rest with
  | [] => none
  | c :: rest =>
    let bare := endsWord rest
    if s.cursor.column = 0 ∧ c = '%' then do
      let s ← (s.unroll (-1)).dropKey?
      let (t, cursor) ← directive? s.cursor
      return { s.emit t with cursor, keyAllowed := false }
    else if s.cursor.isAtMark then
      s.documentMark? (if c = '-' then .documentStart else .documentEnd)
    else if c = '[' then s.flowStart? .flowSequenceStart
    else if c = '{' then s.flowStart? .flowMappingStart
    else if c = ']' then s.flowEnd? .flowSequenceEnd
    else if c = '}' then s.flowEnd? .flowMappingEnd
    else if c = ',' then s.plainToken? true 1 .flowEntry
    else if c = '-' ∧ bare then s.blockEntry?
    else if c = '?' ∧ (s.inFlow ∨ bare) then s.keyMark?
    else if c = ':' ∧ (s.inFlow ∨ bare) then s.valueMark?
    else if c = '*' then
      s.keyToken? fun c => (name? c).map fun (n, c) => (.alias n, c)
    else if c = '&' then
      s.keyToken? fun c => (name? c).map fun (n, c) => (.anchor n, c)
    else if c = '!' then s.keyToken? (tag? s.inFlow)
    else if c = '|' ∧ !s.inFlow then s.blockScalar? false
    else if c = '>' ∧ !s.inFlow then s.blockScalar? true
    else if c = '\'' then s.quotedScalar? true
    else if c = '"' then s.quotedScalar? false
    else if beginsPlain s.inFlow (c :: rest) then s.plainScalar?
    else none

/-- Ends all blocks at the end of the text. -/
def finish? (s : Scanner) : Option Scanner :=
  (s.unroll (-1)).dropKey?.map (·.emit .streamEnd)

/-- Scans the rest of a text. Each round but the last reads a character. -/
def run? : (fuel : Nat) → Scanner → Option Scanner
  | 0, _ => none
  | fuel + 1, s =>
    match (s.toNextToken (s.cursor.rest.length + 1)).dropStale? with
    | none => none
    | some s =>
      let s := s.unroll s.cursor.column
      if s.cursor.rest.isEmpty then s.finish?
      else
        match s.token? with
        | some s => run? fuel s
        | none => none

end Scanner

/-- Replaces the slots of an output, last first, by the tokens that belong there. -/
def fillSlots (keys : List (Nat × Bool)) : (done : List Token) → List Item → List Token
  | done, [] => done
  | done, .token t :: rest => fillSlots keys (t :: done) rest
  | done, .slot n :: rest =>
    match keys.lookup n with
    | some true => fillSlots keys (.blockMappingStart :: .key :: done) rest
    | some false => fillSlots keys (.key :: done) rest
    | none => fillSlots keys done rest

/-- The tokens of a text. -/
def tokens? (s : String) : Option (List Token) :=
  let cs := s.toList
  if cs.all isAllowed then
    (Scanner.run? (cs.length + 1) { cursor := { rest := cs } }).map fun s =>
      fillSlots s.keys [] s.output
  else none

end TypeSchema.Yaml
