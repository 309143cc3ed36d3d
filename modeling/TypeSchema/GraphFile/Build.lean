import TypeSchema.Graph.TypeGraph
import TypeSchema.GraphFile.Entry
import TypeSchema.TypeExpr.Parser

/-!
# Building the graph of a file

All entries are declared before any is defined, so they may refer to each other in any order;
entries with generic arguments are declared after the others, so that these can be the arguments.

A name stands for the first of: the entry of that name in the namespace of the entry that uses it,
the entry with that qualified name, the only namespaced entry spelled that way, the scalar of that
keyword. Several namespaced entries of one spelling make the bare spelling ambiguous.
-/

namespace TypeSchema.GraphFile

/-- Why a file describes no graph. The last four say where an error arose. -/
inductive BuildError where
  | expression (src : String) (e : TypeExprError)
  | unknownType (name : String)
  | ambiguous (spelling : String)
  | unknownRepr (name : String)
  | wrappedCapability (src : String)
  | notACollection (src : String)
  | wrappedName (name : String)
  | declaredTwice (qualified : String)
  | inTypeName (name : String) (e : BuildError)
  | inArguments (name : String) (e : BuildError)
  | inType (qualified : String) (e : BuildError)
  | inField (name : String) (e : BuildError)

/-- What the error says, the outermost place first. -/
def BuildError.message : BuildError → String
  | expression src e => e.message src
  | unknownType name => "unknown type '" ++ name ++ "'"
  | ambiguous spelling =>
    "type '" ++ spelling ++ "' is declared in several namespaces; qualify it"
  | unknownRepr name => "unknown enum representation '" ++ name ++ "'"
  | wrappedCapability src => "capability '" ++ src ++ "' must be a generic collection"
  | notACollection src => "capability '" ++ src ++ "' is neither a sequence nor a map"
  | wrappedName name => "type name '" ++ name ++ "' must be a plain or generic name"
  | declaredTwice qualified => "type '" ++ qualified ++ "' is declared twice"
  | inTypeName name e => "invalid type name '" ++ name ++ "': " ++ e.message
  | inArguments name e => "in generic arguments of '" ++ name ++ "': " ++ e.message
  | inType qualified e => "in type '" ++ qualified ++ "': " ++ e.message
  | inField name e => "in field '" ++ name ++ "': " ++ e.message

/-- What the bare spelling of a namespaced entry stands for. -/
inductive Alias where
  | unique (ty : TypeId)
  | ambiguous
  deriving DecidableEq

/-- The names that are declared. -/
structure Scope where
  /-- Entries by qualified spelling. -/
  qualified : SortedMap TypeId := {}
  /-- Entries by bare spelling, where it differs from the qualified one. -/
  aliases : SortedMap Alias := {}

/-- A name in a namespace; an empty namespace is none. -/
def qualify (ns? : Option String) (name : String) : String :=
  match ns? with
  | some ns => if ns.isEmpty then name else ns ++ "." ++ name
  | none => name

namespace Scope

/-- The declared type that a spelling stands for in a namespace. -/
def lookup (s : Scope) (ns? : Option String) (spelling : String) :
    Except BuildError (Option TypeId) :=
  match s.qualified.get? (qualify ns? spelling) with
  | some ty => .ok (some ty)
  | none =>
    -- the spelling may be qualified itself
    match s.qualified.get? spelling with
    | some ty => .ok (some ty)
    | none =>
      match s.aliases.get? spelling with
      | some (.unique ty) => .ok (some ty)
      | some .ambiguous => .error (.ambiguous spelling)
      | none => .ok none

/-- Adds the bare spelling of a namespaced entry. -/
def addAlias (s : Scope) (spelling : String) (ty : TypeId) : Scope :=
  let target := match s.aliases.get? spelling with
    | some _ => .ambiguous
    | none => .unique ty
  { s with aliases := s.aliases.insert spelling target }

mutual

/-- The type that an expression denotes, interned in the graph. -/
def resolve (s : Scope) (ns? : Option String) :
    TypeExpr → TypeGraph → Except BuildError (TypeId × TypeGraph)
  | .array e, g => do
    let (element, g) ← resolve s ns? e g
    return g.array element
  | .nullable e, g => do
    let (inner, g) ← resolve s ns? e g
    return g.nullable inner
  | .named name args, g => do
    match ← s.lookup ns? (TypeExpr.named name args).spelling with
    | some ty => return (ty, g)
    | none =>
      if args.isEmpty then
        match ScalarKind.ofKeyword? name with
        | some kind => return g.scalar kind
        | none => throw (.unknownType name)
      else
        let (tys, g) ← resolveAll s ns? args g
        match name, tys with
        | "Nullable", [inner] => return g.nullable inner
        | "KeyValuePair", [key, value] => return g.pair key value
        | _, _ => return g.collection (.ofName name) tys

/-- The types that some expressions denote, from left to right. -/
def resolveAll (s : Scope) (ns? : Option String) :
    List TypeExpr → TypeGraph → Except BuildError (List TypeId × TypeGraph)
  | [], g => return ([], g)
  | e :: rest, g => do
    let (ty, g) ← resolve s ns? e g
    let (tys, g) ← resolveAll s ns? rest g
    return (ty :: tys, g)

end

end Scope

/-- Says where an error arose. -/
def within {α : Type} (place : BuildError → BuildError) : Except BuildError α → Except BuildError α
  | .ok x => .ok x
  | .error e => .error (place e)

/-- Reads an expression. -/
def parseExpr (src : String) : Except BuildError TypeExpr :=
  match TypeExpr.parse src with
  | .ok e => .ok e
  | .error e => .error (.expression src e)

/-! ### Declaring -/

/-- The qualified spelling and the type of an entry. -/
structure Declaration where
  qualified : String
  type : TypeId
  deriving DecidableEq

/-- Declares an entry. -/
def declareEntry (s : Scope) (g : TypeGraph) (entry : TypeEntry) :
    Except BuildError (Declaration × Scope × TypeGraph) := do
  let expr ← within (.inTypeName entry.name) (parseExpr entry.name)
  let (ty, g) ← match expr with
    | .named name [] => pure (g.declare (qualify entry.ns? name))
    | .named name args => do
      let (tys, g) ← within (.inArguments entry.name) (s.resolveAll entry.ns? args g)
      pure (g.declareGeneric (qualify entry.ns? name) tys)
    | _ => throw (.wrappedName entry.name)
  let spelling := expr.spelling
  let qualified := qualify entry.ns? spelling
  if s.qualified.contains qualified then throw (.declaredTwice qualified)
  let s := { s with qualified := s.qualified.insert qualified ty }
  -- an entry without a namespace is found by its qualified name already
  let s := if qualified = spelling then s else s.addAlias spelling ty
  return (⟨qualified, ty⟩, s, g)

/-- Declares entries in order; each keeps its position. -/
def declareAll (s : Scope) (g : TypeGraph) :
    List (TypeEntry × Nat) → Except BuildError (List (Nat × Declaration) × Scope × TypeGraph)
  | [] => return ([], s, g)
  | (entry, i) :: rest => do
    let (d, s, g) ← declareEntry s g entry
    let (ds, s, g) ← declareAll s g rest
    return ((i, d) :: ds, s, g)

/-- Whether the name of an entry has generic arguments. -/
def TypeEntry.isGeneric (entry : TypeEntry) : Bool := '<' ∈ entry.name.toList

/-- The entries with their positions, those with generic arguments last. -/
def declarationOrder (entries : List TypeEntry) : List (TypeEntry × Nat) :=
  entries.zipIdx.filter (fun e => !e.1.isGeneric) ++ entries.zipIdx.filter (fun e => e.1.isGeneric)

/-! ### Defining -/

/-- A field of an object. -/
def buildField (s : Scope) (ns? : Option String) (g : TypeGraph) (f : FieldEntry) :
    Except BuildError (Field × TypeGraph) := do
  let expr ← within (.inField f.name) (parseExpr f.type)
  let (ty, g) ← within (.inField f.name) (s.resolve ns? expr g)
  return ({ name := f.name, type := ty, required := f.required, constraints := f.constraints,
            example? := f.example? }, g)

/-- A capability of an object. -/
def buildCapability (s : Scope) (ns? : Option String) (g : TypeGraph) (src : String) :
    Except BuildError (Capability × TypeGraph) := do
  match ← parseExpr src with
  | .named name args =>
    let (tys, g) ← s.resolveAll ns? args g
    let kind := CollectionKind.ofName name
    match tys with
    | [key, value] =>
      if kind.isMap then return (.map key value, g) else throw (.notACollection src)
    | [element] =>
      if kind.isSequence then return (.sequence element, g) else throw (.notACollection src)
    | _ => throw (.notACollection src)
  | _ => throw (.wrappedCapability src)

/-- Builds the parts of an object one after the other. -/
def buildAll {α β : Type} (build : TypeGraph → α → Except BuildError (β × TypeGraph))
    (g : TypeGraph) : List α → Except BuildError (List β × TypeGraph)
  | [] => return ([], g)
  | a :: rest => do
    let (b, g) ← build g a
    let (bs, g) ← buildAll build g rest
    return (b :: bs, g)

/-- The members of an enumeration; a missing value is the member's position. -/
def buildMembers (members : List MemberEntry) : List EnumMember :=
  members.zipIdx.map fun (m, i) => ⟨m.name, m.value?.getD i⟩

/-- The shape that an entry describes. -/
def buildShape (s : Scope) (g : TypeGraph) (entry : TypeEntry) :
    Except BuildError (Shape × TypeGraph) := do
  match entry.kind with
  | .scalar =>
    match ← parseExpr entry.name with
    | .named name _ => return (.scalar (.other name), g)
    | _ => return (.scalar (.other entry.name), g)
  | .enumeration =>
    let repr ← match entry.repr? with
      | none => pure .int32
      | some name =>
        match IntegerRepr.ofName? name with
        | some repr => pure repr
        | none => throw (.unknownRepr name)
    return (.enumeration ⟨buildMembers entry.members, repr⟩, g)
  | .object =>
    let (fields, g) ← buildAll (buildField s entry.ns?) g entry.fields
    let (capabilities, g) ← buildAll (buildCapability s entry.ns?) g entry.implements
    return (.object ⟨fields, capabilities⟩, g)

/-- Gives a declared entry its shape, constraints and example. -/
def defineEntry (s : Scope) (g : TypeGraph) (entry : TypeEntry) (d : Declaration) :
    Except BuildError TypeGraph := do
  let (shape, g) ← within (.inType d.qualified) (buildShape s g entry)
  let g := (g.define d.type shape).setConstraints d.type entry.constraints
  return match entry.example? with
    | some v => g.setExample d.type v
    | none => g

/-- Defines declared entries in order. -/
def defineAll (s : Scope) (g : TypeGraph) :
    List (TypeEntry × Declaration) → Except BuildError TypeGraph
  | [] => return g
  | (entry, d) :: rest => do
    let g ← defineEntry s g entry d
    defineAll s g rest

/-! ### Loaded graphs -/

/-- A graph with the entries of its file, in the order of the file. -/
structure LoadedGraph where
  graph : TypeGraph
  declared : List Declaration
  aliases : SortedMap Alias

/-- The declarations in the order of the file. -/
def inFileOrder (entries : List TypeEntry) (placed : List (Nat × Declaration)) :
    List (TypeEntry × Declaration) :=
  entries.zipIdx.filterMap fun (entry, i) => (placed.lookup i).map (entry, ·)

/-- Builds the graph of some entries. -/
def build (entries : List TypeEntry) : Except BuildError LoadedGraph := do
  let (placed, s, g) ← declareAll {} .empty (declarationOrder entries)
  let declared := inFileOrder entries placed
  let g ← defineAll s g declared
  return ⟨g, declared.map (·.2), s.aliases⟩

/-- The type of a name: an entry's qualified name, the bare spelling of a single namespaced entry,
or an identity in the graph. -/
def LoadedGraph.find? (l : LoadedGraph) (name : String) : Option TypeId :=
  match l.declared.find? (fun d => d.qualified == name) with
  | some d => some d.type
  | none =>
    match l.aliases.get? name with
    | some (.unique ty) => some ty
    | _ => l.graph.find? name

end TypeSchema.GraphFile
