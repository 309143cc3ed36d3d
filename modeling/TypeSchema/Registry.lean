import TypeSchema.Guard
import TypeSchema.Graph.TypeGraph

/-!
# Component identifiers

The registry gives every type a text that identifies its component, and keeps it until the type is
released. The base of an identifier is the type's display name with the bases of its generic
arguments. When another type holds the base, the identifier is the base with the suffix `_dup1`,
`_dup2`, …, the first that is free.
-/

namespace TypeSchema

namespace TypeGraph

/-- The base identifier of a type whose generic arguments nest less than `levels` deep. -/
def baseIdTo (g : TypeGraph) : (levels : Nat) → TypeId → Except GenerationError String
  | 0, ty => .error (.endless ty)
  | levels + 1, ty =>
    match g.describe? ty with
    | none => .error (.unknownType ty)
    | some d =>
      if d.genericArgs.isEmpty then .ok d.name
      else do
        let bases ← d.genericArgs.mapM (g.baseIdTo levels)
        return d.name ++ "«" ++ ",".intercalate bases ++ "»"

/-- The base identifier of a type. Arguments that do not contain themselves nest less deep than
there are types, and a last one may be unknown. -/
def baseId (g : TypeGraph) (ty : TypeId) : Except GenerationError String :=
  g.baseIdTo (g.size + 1) ty

end TypeGraph

/-- An identifier that is held, and the base it was made from. -/
structure Assignment where
  base : String
  id : String
  deriving DecidableEq

/-- The identifiers that are held. -/
structure Registry where
  /-- By identity of the type. -/
  byType : SortedMap Assignment := {}
  /-- The identity of the type that holds an identifier. -/
  owners : SortedMap String := {}
  /-- The types that claimed a base and still hold an identifier, in the order of their claims. -/
  claimants : SortedMap (List String) := {}
  deriving Inhabited

namespace Registry

/-- The registry in which nothing is held. -/
def empty : Registry := {}

/-- How many identifiers are held. -/
def size (r : Registry) : Nat := r.byType.size

/-- The identifier that a type holds. -/
def lookup? (r : Registry) (identity : String) : Option String :=
  (r.byType.get? identity).map (·.id)

/-- The `n`-th identifier for a base that is held. -/
def suffixed (base : String) (n : Nat) : String := base ++ "_dup" ++ toString n

/-- The first suffixed identifier from the `n`-th on that is free. Of more identifiers than are held
one is free, so as many tries as there are owners suffice. -/
def firstFree (owners : SortedMap String) (base : String) : (tries n : Nat) → String
  | 0, n => suffixed base n
  | tries + 1, n =>
    if owners.contains (suffixed base n) then firstFree owners base tries (n + 1)
    else suffixed base n

/-- The report of a base that another type holds. -/
def collisionEvent (base identity id : String) (owner? : Option String) : DiagnosticEvent :=
  .withFields .info .idCollision
    ("id '" ++ base ++ "' already taken; '" ++ identity ++ "' registered as '" ++ id ++ "'")
    [("base", .string base), ("assigned", .string id), ("identity", .string identity),
      ("owner", (owner?.map Json.string).getD .null)]

/-- Records that a type holds an identifier. -/
def hold (r : Registry) (identity base id : String) : Registry where
  byType := r.byType.insert identity ⟨base, id⟩
  owners := r.owners.insert id identity
  claimants := r.claimants.insert base ((r.claimants.get? base).getD [] ++ [identity])

/-- Claims a base for a type; the identifier that the type then holds. A type that holds one keeps
it. -/
def claim (r : Registry) (identity base : String) : String × Registry × List DiagnosticEvent :=
  match r.lookup? identity with
  | some id => (id, r, [])
  | none =>
    match r.owners.get? base with
    | none => (base, r.hold identity base base, [])
    | some owner =>
      -- a released identifier is free again, so the suffixes of a base need not be in order
      let id := firstFree r.owners base r.owners.size 1
      (id, r.hold identity base id, [collisionEvent base identity id owner])

/-- The identifier of a type of a graph, claimed at first sight. -/
def assign (r : Registry) (g : TypeGraph) (ty : TypeId) :
    Except GenerationError (String × Registry × List DiagnosticEvent) :=
  match g.describe? ty with
  | none => .error (.unknownType ty)
  | some d =>
    match r.lookup? d.identity with
    | some id => .ok (id, r, [])
    | none =>
      match g.baseId ty with
      | .ok base => .ok (r.claim d.identity base)
      | .error e => .error e

/-- Releases the identifier of a type; the identifier that is free now. -/
def deregister (r : Registry) (identity : String) : Option String × Registry :=
  match r.byType.get? identity with
  | none => (none, r)
  | some a =>
    let left := ((r.claimants.get? a.base).getD []).filter (· ≠ identity)
    (some a.id, {
      byType := r.byType.erase identity
      owners := r.owners.erase a.id
      claimants :=
        if left.isEmpty then r.claimants.erase a.base else r.claimants.insert a.base left })

/-- A base with its claimants and the identifiers they hold. -/
structure Entry where
  base : String
  claimants : List (String × String)
  deriving DecidableEq

/-- The claimed bases in lexical order. -/
def entries (r : Registry) : List Entry :=
  r.claimants.toList.map fun (base, identities) =>
    ⟨base, identities.filterMap fun identity => (r.lookup? identity).map (identity, ·)⟩

/-- The identities by identifier. -/
def assigned (r : Registry) : SortedMap String := r.owners

end Registry

end TypeSchema
