import TypeSchema.Yaml.Scanner

/-!
# Parsing YAML

The parser turns tokens into nodes. A node may have a tag, and an anchor by which aliases refer to
it. Anchors are numbered: the number of a new anchor is the number of different names so far, so an
anchor whose name was used before gets the number that the next new name will get as well. What a
number refers to is decided by `Node.anchored`, when the whole document has been read.
-/

namespace TypeSchema.Yaml

/-- What a node consists of, aliases unresolved. -/
inductive Node where
  | alias (number : Nat)
  | scalar (anchor? : Option Nat) (tag? : Option String) (style : ScalarStyle) (text : String)
  | sequence (anchor? : Option Nat) (tag? : Option String) (items : List Node)
  | mapping (anchor? : Option Nat) (tag? : Option String) (entries : List (Node × Node))
  deriving Inhabited

/-- What a document says of names: the meaning of handles, and the numbers of anchors, the last one
first. -/
structure Names where
  handles : List (String × String)
  anchors : List (String × Nat) := []
  /-- The number of different names of anchors. -/
  count : Nat := 0

/-- The handles that every document has. -/
def defaultHandles : List (String × String) := [("!", "!"), ("!!", "tag:yaml.org,2002:")]

namespace Names

/-- Numbers an anchor. -/
def add (names : Names) (anchor : String) : Nat × Names :=
  let known := (names.anchors.lookup anchor).isSome
  (names.count, { names with
    anchors := (anchor, names.count) :: names.anchors
    count := if known then names.count else names.count + 1 })

/-- Numbers an anchor if there is one. -/
def addAny (names : Names) : Option String → Option Nat × Names
  | some anchor => let (n, names) := names.add anchor; (some n, names)
  | none => (none, names)

/-- The whole tag of a handle and a rest. -/
def tag? (names : Names) (t : TagText) : Option String :=
  if t.handle.isEmpty then some t.suffix
  else (names.handles.lookup t.handle).map (· ++ t.suffix)

end Names

/-! ### Nodes -/

/-- The properties of a node: an anchor and a tag, in any order. -/
def properties : List Token → Option String × Option TagText × List Token
  | .anchor a :: .tag t :: rest => (some a, some t, rest)
  | .tag t :: .anchor a :: rest => (some a, some t, rest)
  | .anchor a :: rest => (some a, none, rest)
  | .tag t :: rest => (none, some t, rest)
  | rest => (none, none, rest)

/-- The node where nothing is written. -/
def emptyNode : Node := .scalar none none .plain ""

/-- What may stand in the place of a node. -/
structure Place where
  /-- Whether blocks may begin. -/
  block : Bool
  /-- Whether a block sequence may begin at the column of the mapping around it. -/
  indentless : Bool
  deriving DecidableEq

/-- Whether the first token is one of some. -/
def startsWith (ts : List Token) (among : List Token) : Bool := ts.head?.any (· ∈ among)

mutual

/-- A node. Each call spends one unit of fuel, and among three calls in a row at least one reads a
token. -/
def node? : (fuel : Nat) → Place → Names → List Token → Option (Node × Names × List Token)
  | 0, _, _, _ => none
  | _ + 1, _, names, .alias name :: rest =>
    (names.anchors.lookup name).map fun n => (.alias n, names, rest)
  | fuel + 1, place, names, ts =>
    let (anchor?, tagText?, rest) := properties ts
    match tagText?.mapM names.tag? with
    | none => none
    | some tag? =>
      let (number?, names) := names.addAny anchor?
      match rest with
      | .scalar text style :: rest =>
        let tag? := if tag? = some "!" then none else tag?
        some (.scalar number? tag? style text, names, rest)
      | .blockEntry :: _ =>
        if place.indentless then
          (indentless? fuel names rest).map fun (items, names, rest) =>
            (.sequence number? tag? items, names, rest)
        else if anchor?.isSome || tagText?.isSome then
          some (.scalar number? tag? .plain "", names, rest)
        else none
      | .flowSequenceStart :: rest =>
        (flowItems? fuel true names rest).map fun (items, names, rest) =>
          (.sequence number? tag? items, names, rest)
      | .flowMappingStart :: rest =>
        (flowEntries? fuel true names rest).map fun (entries, names, rest) =>
          (.mapping number? tag? entries, names, rest)
      | .blockSequenceStart :: inner =>
        if place.block then
          (blockItems? fuel names inner).map fun (items, names, rest) =>
            (.sequence number? tag? items, names, rest)
        else if anchor?.isSome || tagText?.isSome then
          some (.scalar number? tag? .plain "", names, rest)
        else none
      | .blockMappingStart :: inner =>
        if place.block then
          (blockEntries? fuel names inner).map fun (entries, names, rest) =>
            (.mapping number? tag? entries, names, rest)
        else if anchor?.isSome || tagText?.isSome then
          some (.scalar number? tag? .plain "", names, rest)
        else none
      | rest =>
        if anchor?.isSome || tagText?.isSome then
          some (.scalar number? tag? .plain "", names, rest)
        else none

/-- A node, or the empty one before certain tokens. -/
def nodeUnless? : (fuel : Nat) → List Token → Place → Names → List Token →
    Option (Node × Names × List Token)
  | 0, _, _, _, _ => none
  | fuel + 1, ends, place, names, ts =>
    if startsWith ts ends then some (emptyNode, names, ts) else node? fuel place names ts

/-- The rest of a block sequence. -/
def blockItems? : (fuel : Nat) → Names → List Token → Option (List Node × Names × List Token)
  | 0, _, _ => none
  | fuel + 1, names, ts =>
    match ts with
    | .blockEntry :: rest =>
      match nodeUnless? fuel [.blockEntry, .blockEnd] ⟨true, false⟩ names rest with
      | none => none
      | some (n, names, rest) =>
        (blockItems? fuel names rest).map fun (ns, names, rest) => (n :: ns, names, rest)
    | .blockEnd :: rest => some ([], names, rest)
    | _ => none

/-- The rest of a block sequence at the column of the mapping around it. -/
def indentless? : (fuel : Nat) → Names → List Token → Option (List Node × Names × List Token)
  | 0, _, _ => none
  | fuel + 1, names, ts =>
    match ts with
    | .blockEntry :: rest =>
      match nodeUnless? fuel [.blockEntry, .key, .value, .blockEnd] ⟨true, false⟩ names rest with
      | none => none
      | some (n, names, rest) =>
        (indentless? fuel names rest).map fun (ns, names, rest) => (n :: ns, names, rest)
    | _ => some ([], names, ts)

/-- The rest of a block mapping. A key without a colon has the empty node as its value. -/
def blockEntries? : (fuel : Nat) → Names → List Token →
    Option (List (Node × Node) × Names × List Token)
  | 0, _, _ => none
  | fuel + 1, names, ts =>
    match ts with
    | .key :: rest =>
      match nodeUnless? fuel [.key, .value, .blockEnd] ⟨true, true⟩ names rest with
      | none => none
      | some (k, names, rest) =>
        match blockValue? fuel names rest with
        | none => none
        | some (v, names, rest) =>
          (blockEntries? fuel names rest).map fun (es, names, rest) => ((k, v) :: es, names, rest)
    | .blockEnd :: rest => some ([], names, rest)
    | _ => none

/-- The value of an entry of a block mapping. -/
def blockValue? : (fuel : Nat) → Names → List Token → Option (Node × Names × List Token)
  | 0, _, _ => none
  | fuel + 1, names, ts =>
    match ts with
    | .value :: rest => nodeUnless? fuel [.key, .value, .blockEnd] ⟨true, true⟩ names rest
    | _ => some (emptyNode, names, ts)

/-- The rest of a flow sequence. Before all items but the first there is a comma. -/
def flowItems? : (fuel : Nat) → (first : Bool) → Names → List Token →
    Option (List Node × Names × List Token)
  | 0, _, _, _ => none
  | fuel + 1, first, names, ts =>
    match ts with
    | .flowSequenceEnd :: rest => some ([], names, rest)
    | _ =>
      match if first then some ts else match ts with
        | .flowEntry :: rest => some rest
        | _ => none with
      | none => none
      | some (.flowSequenceEnd :: rest) => some ([], names, rest)
      | some (.key :: rest) =>
        match flowPair? fuel names rest with
        | none => none
        | some (entry, names, rest) =>
          (flowItems? fuel false names rest).map fun (ns, names, rest) =>
            (.mapping none none [entry] :: ns, names, rest)
      | some rest =>
        match node? fuel ⟨false, false⟩ names rest with
        | none => none
        | some (n, names, rest) =>
          (flowItems? fuel false names rest).map fun (ns, names, rest) => (n :: ns, names, rest)

/-- The only entry of a mapping without braces in a flow sequence, after the mark of its key. If the
key is missing, the token in its place is passed over. -/
def flowPair? : (fuel : Nat) → Names → List Token → Option ((Node × Node) × Names × List Token)
  | 0, _, _ => none
  | fuel + 1, names, ts =>
    let key? :=
      if startsWith ts [.value, .flowEntry, .flowSequenceEnd] then some (emptyNode, names, ts.tail)
      else node? fuel ⟨false, false⟩ names ts
    match key? with
    | none => none
    | some (k, names, rest) =>
      (flowValue? fuel [.flowEntry, .flowSequenceEnd] names rest).map fun (v, names, rest) =>
        ((k, v), names, rest)

/-- The value of an entry in a flow collection. -/
def flowValue? : (fuel : Nat) → (ends : List Token) → Names → List Token →
    Option (Node × Names × List Token)
  | 0, _, _, _ => none
  | fuel + 1, ends, names, ts =>
    match ts with
    | .value :: rest => nodeUnless? fuel ends ⟨false, false⟩ names rest
    | _ => some (emptyNode, names, ts)

/-- The rest of a flow mapping. Before all entries but the first there is a comma. A node without
the mark of a key is a key without a value. -/
def flowEntries? : (fuel : Nat) → (first : Bool) → Names → List Token →
    Option (List (Node × Node) × Names × List Token)
  | 0, _, _, _ => none
  | fuel + 1, first, names, ts =>
    match ts with
    | .flowMappingEnd :: rest => some ([], names, rest)
    | _ =>
      match if first then some ts else match ts with
        | .flowEntry :: rest => some rest
        | _ => none with
      | none => none
      | some (.flowMappingEnd :: rest) => some ([], names, rest)
      | some (.key :: rest) =>
        match nodeUnless? fuel [.value, .flowEntry, .flowMappingEnd] ⟨false, false⟩ names rest with
        | none => none
        | some (k, names, rest) =>
          match flowValue? fuel [.flowEntry, .flowMappingEnd] names rest with
          | none => none
          | some (v, names, rest) =>
            (flowEntries? fuel false names rest).map fun (es, names, rest) =>
              ((k, v) :: es, names, rest)
      | some rest =>
        match node? fuel ⟨false, false⟩ names rest with
        | none => none
        | some (k, names, rest) =>
          (flowEntries? fuel false names rest).map fun (es, names, rest) =>
            ((k, emptyNode) :: es, names, rest)

end

/-! ### Documents -/

/-- The directives before a document, and the handles they declare. -/
def directives? : (version : Bool) → (handles : List (String × String)) → List Token →
    Option (List (String × String) × List Token)
  | version, handles, .versionDirective major minor :: rest =>
    if version = false ∧ major = 1 ∧ (minor = 1 ∨ minor = 2) then directives? true handles rest
    else none
  | version, handles, .tagDirective handle expansion :: rest =>
    if (handles.lookup handle).isSome then none
    else directives? version ((handle, expansion) :: handles) rest
  | _, handles, rest => some (handles, rest)

/-- A document with directives or a mark of its own. -/
def explicit? (ts : List Token) : Option (Node × List Token) := do
  let (handles, rest) ← directives? false [] ts
  match rest with
  | .documentStart :: rest =>
    let names : Names := { handles := handles ++ defaultHandles }
    if rest.head?.any fun
        | .versionDirective _ _ | .tagDirective _ _ | .documentStart | .documentEnd
        | .streamEnd => true
        | _ => false then
      return (emptyNode, rest)
    else
      let (n, _, rest) ← node? (3 * rest.length + 3) ⟨true, false⟩ names rest
      return (n, rest)
  | _ => none

/-- A document. Without directives it needs no mark. -/
def document? (ts : List Token) : Option (Node × List Token) :=
  let marked := ts.head?.any fun
    | .versionDirective _ _ | .tagDirective _ _ | .documentStart => true
    | _ => false
  if marked then explicit? ts
  else
    (node? (3 * ts.length + 3) ⟨true, false⟩ { handles := defaultHandles } ts).map
      fun (n, _, rest) => (n, rest)

/-- What a text with at most one document holds: its node, or nothing. -/
def parse? (s : String) : Option (Option Node) := do
  let ts ← tokens? s
  if ts = [.streamEnd] then return none
  else
    let (n, rest) ← document? ts
    if rest.dropWhile (· = .documentEnd) = [.streamEnd] then return some n else none

end TypeSchema.Yaml
