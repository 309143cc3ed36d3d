import TypeSchema.Proofs.Generation.Actions

/-!
# Generation — the visits of a run

`visitedFor gen g levels ty field? t` has the types that are visited when a type is built in a
state, in the order of their visits and each as often as it is visited: first the type itself, then
what is visited for its parts, for each of them in the state that the one before it left.  It
follows a run and changes nothing; where a run turns back, there are no parts to visit (`opening?`).

What is visited by a step is said with the cases of `Step` and `Expansion`: there is one equation
for a wrapper, an override and an expansion, and one for each way in which parts are opened or not.
-/

namespace TypeSchema

/-- The types that are visited when a type is built in a state. -/
abbrev Sightings := TypeId → Option Field → Traversal → List TypeId

/-- The types that are visited when some parts are built one after the other. -/
def partsVisited (descend : Descent) (below : Sightings) :
    List (TypeId × Option Field) → Traversal → List TypeId
  | [], _ => []
  | (ty, field?) :: rest, t =>
    below ty field? t ++
      match descend ty field? t with
      | .ok _ t₁ => partsVisited descend below rest t₁
      | .error _ _ => []

/-- The state in which the parts of a type are built.  There is none for a type without parts, for
one that may not be opened, and for an object that is expanded already. -/
def opening? (gen : Generator) (g : TypeGraph) (ty : TypeId) (d : TypeDescriptor)
    (cls : Classification) (t : Traversal) : Option Traversal :=
  match cls with
  | .object (some o) =>
    match t.registry.assign g ty with
    | .ok (id, r, events) =>
      if t.identifiers.get? id = none ∧ t.guard.cutReason? ty = none then
        some (((t.claimed ty id r events).opened ty).reported (objectEvents gen d o))
      else none
    | .error _ => none
  | cls =>
    if cls.isCollection ∧ t.guard.cutReason? ty = none then some (t.opened ty) else none

/-- The types that are visited when a type is expanded, itself not counted. -/
def expansionVisited (gen : Generator) (g : TypeGraph) (descend : Descent) (below : Sightings)
    (ty : TypeId) (d : TypeDescriptor) (cls : Classification) (t : Traversal) : List TypeId :=
  match opening? gen g ty d cls t with
  | some t₀ => partsVisited descend below (cls.parts gen.config.memberThreshold?) t₀
  | none => []

/-- The types that one step visits, given those that are visited for the parts. -/
def stepVisited (gen : Generator) (g : TypeGraph) (descend : Descent) (below : Sightings) :
    Sightings := fun ty field? t =>
  ty :: match g.describe? ty with
    | none => []
    | some d =>
      match g.classify d.shape with
      | .nullable inner => below inner field? t
      | cls =>
        match overrideFor gen ty d cls t with
        | .ok none t₀ => expansionVisited gen g descend below ty d cls t₀
        | _ => []

/-- The types that are visited when a type is built that nests less than `levels` deep. -/
def visitedFor (gen : Generator) (g : TypeGraph) : (levels : Nat) → Sightings
  | 0 => fun _ _ _ => []
  | levels + 1 => stepVisited gen g (nodeFor gen g levels) (visitedFor gen g levels)

/-- The types that a generation visits. -/
def Generator.visited (gen : Generator) (g : TypeGraph) (root : TypeId) (w : Workspace) :
    List TypeId :=
  visitedFor gen g (levelsFor g) root none (w.begin gen)

section

variable {gen : Generator} {g : TypeGraph} {descend : Descent} {below : Sightings} {ty : TypeId}
  {field? : Option Field} {d : TypeDescriptor} {cls : Classification} {t : Traversal}

/-- After a part, the others are visited in the state that it left. -/
theorem partsVisited_cons {rest : List (TypeId × Option Field)} {id : NodeId} {t₁ : Traversal}
    (head : descend ty field? t = .ok id t₁) :
    partsVisited descend below ((ty, field?) :: rest) t =
      below ty field? t ++ partsVisited descend below rest t₁ := by
  simp only [partsVisited, head]

/-! ### Expansions -/

/-- A leaf visits nothing below it. -/
theorem expansionVisited_leaf {n : SchemaNode} {events : List DiagnosticEvent}
    (node : leafNode? gen d cls = some (n, events)) :
    expansionVisited gen g descend below ty d cls t = [] := by
  cases cls with
  | object o? =>
    cases o? with
    | none => rfl
    | some o => cases node
  | scalar _ | bytes | enumeration _ => rfl
  | nullable _ | sequence _ | map _ | pair _ _ => cases node

/-- A collection is opened if it is not cut. -/
theorem opening?_collection_eq (collection : cls.isCollection) :
    opening? gen g ty d cls t =
      if t.guard.cutReason? ty = none then some (t.opened ty) else none := by
  cases cls with
  | sequence _ | map _ | pair _ _ => simp [opening?, Classification.isCollection]
  | scalar _ | bytes | nullable _ | enumeration _ | object _ => cases collection

theorem opening?_collection (collection : cls.isCollection)
    (opens : t.guard.cutReason? ty = none) :
    opening? gen g ty d cls t = some (t.opened ty) := by
  rw [opening?_collection_eq collection, if_pos opens]

/-- An expansion that is opened visits its parts. -/
theorem expansionVisited_of_opening? {t₀ : Traversal}
    (opening : opening? gen g ty d cls t = some t₀) :
    expansionVisited gen g descend below ty d cls t =
      partsVisited descend below (cls.parts gen.config.memberThreshold?) t₀ := by
  simp only [expansionVisited, opening]

/-- A collection that is cut visits nothing. -/
theorem expansionVisited_cut {reason : CutReason} (collection : cls.isCollection)
    (closed : t.guard.cutReason? ty = some reason) :
    expansionVisited gen g descend below ty d cls t = [] := by
  simp [expansionVisited, opening?_collection_eq collection, closed]

section Objects

variable {o : ObjectShape} {id : String} {r : Registry} {events : List DiagnosticEvent}
  (assigned : t.registry.assign g ty = .ok (id, r, events))
include assigned

/-- An object that is expanded already visits nothing. -/
theorem expansionVisited_reference {target : NodeId}
    (expanded : t.identifiers.get? id = some target) :
    expansionVisited gen g descend below ty d (.object (some o)) t = [] := by
  simp [expansionVisited, opening?, assigned, expanded]

/-- An object that is cut visits nothing. -/
theorem expansionVisited_cutObject {reason : CutReason}
    (closed : t.guard.cutReason? ty = some reason) :
    expansionVisited gen g descend below ty d (.object (some o)) t = [] := by
  simp [expansionVisited, opening?, assigned, closed]

/-- An object is opened after its identifier is claimed, and its fields are reported on before the
first of them is visited. -/
theorem opening?_object (fresh : t.identifiers.get? id = none)
    (opens : t.guard.cutReason? ty = none) :
    opening? gen g ty d (.object (some o)) t =
      some (((t.claimed ty id r events).opened ty).reported (objectEvents gen d o)) := by
  simp [opening?, assigned, fresh, opens]

end Objects

/-! ### Steps -/

section Steps

variable (known : g.describe? ty = some d)
include known

/-- A nullable type visits itself and what the wrapped type does. -/
theorem stepVisited_wrapped {inner : TypeId} (cls : g.classify d.shape = .nullable inner) :
    stepVisited gen g descend below ty field? t = ty :: below inner field? t := by
  simp only [stepVisited, known, cls]

theorem stepVisited_plain (cls : ∀ inner, g.classify d.shape ≠ .nullable inner) :
    stepVisited gen g descend below ty field? t =
      ty :: match overrideFor gen ty d (g.classify d.shape) t with
        | .ok none t₀ => expansionVisited gen g descend below ty d (g.classify d.shape) t₀
        | _ => [] := by
  -- the case of a wrapper is discharged by `cls`
  simp only [stepVisited, known]

/-- A type with an override visits itself alone. -/
theorem stepVisited_overridden {o : ScalarOverride}
    (lookup : gen.overrides.lookup? [d.identity, d.name] = some o)
    (cls : (g.classify d.shape).isOverridable) :
    stepVisited gen g descend below ty field? t = [ty] := by
  have plain : ∀ inner, g.classify d.shape ≠ .nullable inner := by
    intro inner hc
    rw [hc] at cls
    cases cls
  have found : overrideFor gen ty d (g.classify d.shape) t = .ok (some o) t := by
    simp only [overrideFor, lookup, cls, if_true]
    rfl
  rw [stepVisited_plain known plain, found]

/-- Any other type visits itself and then its expansion. -/
theorem stepVisited_expanded {t₀ : Traversal}
    (cls : ∀ inner, g.classify d.shape ≠ .nullable inner)
    (plain : overrideFor gen ty d (g.classify d.shape) t = .ok none t₀) :
    stepVisited gen g descend below ty field? t =
      ty :: expansionVisited gen g descend below ty d (g.classify d.shape) t₀ := by
  rw [stepVisited_plain known cls, plain]

end Steps

end

end TypeSchema
