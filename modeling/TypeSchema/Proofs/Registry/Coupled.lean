import Mathlib.Logic.Relator
import TypeSchema.Proofs.Registry

/-!
# Registry — two registries side by side

Two registries give the types of a graph different identifiers, depending on what else they hold.
`r.Ties r' id id'` says that one identity holds `id` in the one and `id'` in the other.  In coherent
registries that ties each identifier to one at most, both ways (`biUnique_ties`), and the name that
both get is the identity (`owner_of_ties`).

An identifier that is held is given again without a look at its base.  So assignments fail in both
registries or in neither only if the types that no base can be made for hold identifiers in both or
in neither (`Coupled.unnamed`); assigning keeps it so (`Coupled.assign`).
-/

namespace TypeSchema.Registry

/-! ### Identifiers of one identity -/

/-- One identity holds the first identifier in `r` and the second one in `r'`. -/
def Ties (r r' : Registry) (id id' : String) : Prop :=
  ∃ identity, r.lookup? identity = some id ∧ r'.lookup? identity = some id'

/-- The identity that holds an identifier. -/
def owner (r : Registry) (id : String) : String := (r.owners.get? id).getD id

/-- The identifier is held. -/
def IsHeld (r : Registry) (id : String) : Prop := ∃ identity, r.lookup? identity = some id

variable {r r' r₁ r₁' : Registry} {id id' : String}

theorem Ties.mono (h : r.Ties r' id id') (grows : r.Grows r₁) (grows' : r'.Grows r₁') :
    r₁.Ties r₁' id id' :=
  let ⟨identity, held, held'⟩ := h
  ⟨identity, grows held, grows' held'⟩

theorem Ties.left (h : r.Ties r' id id') : r.IsHeld id :=
  let ⟨identity, held, _⟩ := h
  ⟨identity, held⟩

theorem Coherent.owner_eq (h : r.Coherent) {identity : String}
    (held : r.lookup? identity = some id) : r.owner id = identity := by
  rw [owner, (h identity id).1 held, Option.getD_some]

/-- Ties pair the identifiers of two coherent registries one to one. -/
theorem biUnique_ties (coherent : r.Coherent) (coherent' : r'.Coherent) :
    Relator.BiUnique (r.Ties r') := by
  constructor
  · rintro id₁ id id₂ ⟨i, h₁, h⟩ ⟨j, h₂, h'⟩
    obtain rfl : i = j := coherent'.unique h h'
    exact Option.some.inj (h₁.symm.trans h₂)
  · rintro id id₁ id₂ ⟨i, h, h₁⟩ ⟨j, h', h₂⟩
    obtain rfl : i = j := coherent.unique h h'
    exact Option.some.inj (h₁.symm.trans h₂)

/-- Identifiers that are tied have one owner. -/
theorem owner_of_ties (coherent : r.Coherent) (coherent' : r'.Coherent) (h : r.Ties r' id id') :
    r'.owner id' = r.owner id := by
  obtain ⟨identity, held, held'⟩ := h
  rw [coherent.owner_eq held, coherent'.owner_eq held']

/-- Different identifiers that are tied have different owners. -/
theorem ties_of_owner_eq (coherent : r.Coherent) {id₁ id₁' : String} (h : r.Ties r' id id')
    (h₁ : r.Ties r' id₁ id₁') (same : r.owner id = r.owner id₁) : id = id₁ ∧ id' = id₁' := by
  obtain ⟨identity, held, held'⟩ := h
  obtain ⟨identity₁, held₁, held₁'⟩ := h₁
  obtain rfl : identity = identity₁ := by
    rw [← coherent.owner_eq held, same, coherent.owner_eq held₁]
  exact ⟨Option.some.inj (held.symm.trans held₁), Option.some.inj (held'.symm.trans held₁')⟩

/-! ### Assignments side by side -/

/-- The types that no base can be made for hold identifiers in both registries or in neither. -/
def SameUnnamed (g : TypeGraph) (r r' : Registry) : Prop :=
  ∀ ty, (∀ base, g.baseId ty ≠ .ok base) → ((∃ id, g.Holds r ty id) ↔ ∃ id, g.Holds r' ty id)

/-- If a base can be made for every type, it does not matter what the registries hold. -/
theorem SameUnnamed.of_bases {g : TypeGraph} (r r' : Registry)
    (bases : ∀ ty d, g.describe? ty = some d → ∃ base, g.baseId ty = .ok base) :
    SameUnnamed g r r' := by
  intro ty unnamed
  have unknown : ∀ r₀ : Registry, ¬ ∃ id, g.Holds r₀ ty id := by
    rintro r₀ ⟨id, d, known, -⟩
    obtain ⟨base, hb⟩ := bases ty d known
    exact unnamed base hb
  exact iff_of_false (unknown r) (unknown r')

/-- Two registries that can stand in for each other. -/
structure Coupled (g : TypeGraph) (r r' : Registry) : Prop where
  coherent : r.Coherent
  coherent' : r'.Coherent
  unnamed : SameUnnamed g r r'

/-- An assignment to a type says nothing of other identities. -/
theorem lookup?_assign_of_ne {g : TypeGraph} {ty : TypeId} {d : TypeDescriptor}
    {events : List DiagnosticEvent} (known : g.describe? ty = some d)
    (h : r.assign g ty = .ok (id, r₁, events)) {identity : String} (other : identity ≠ d.identity) :
    r₁.lookup? identity = r.lookup? identity := by
  obtain ⟨d', known', ⟨-, rfl, -⟩ | ⟨base, -, claimed⟩⟩ := assign_cases h
  · rfl
  · obtain rfl : d' = d := Option.some.inj (known'.symm.trans known)
    rcases claim_cases r d'.identity base with ⟨_, -, he⟩ | ⟨-, _, _, he⟩
    · rw [claimed] at he
      cases he
      rfl
    · rw [claimed] at he
      cases he
      rw [lookup?_hold, if_neg other]

/-- An assignment fails if the type is unknown, or holds nothing and has no base. -/
theorem assign_error_cases {g : TypeGraph} {ty : TypeId} {e : GenerationError}
    (h : r.assign g ty = .error e) :
    (g.describe? ty = none ∧ e = .unknownType ty) ∨
      ∃ d, g.describe? ty = some d ∧ r.lookup? d.identity = none ∧ g.baseId ty = .error e := by
  unfold assign at h
  cases hd : g.describe? ty with
  | none =>
    simp only [hd] at h
    cases h
    exact .inl ⟨rfl, rfl⟩
  | some d =>
    refine .inr ⟨d, rfl, ?_⟩
    cases hl : r.lookup? d.identity with
    | some id => simp only [hd, hl] at h; cases h
    | none =>
      cases hb : g.baseId ty with
      | ok base => simp only [hd, hl, hb] at h; cases h
      | error e' => simp only [hd, hl, hb] at h; cases h; exact ⟨rfl, rfl⟩

namespace Coupled

variable {g : TypeGraph} {ty : TypeId} {e : GenerationError} {events events' : List DiagnosticEvent}

theorem symm (h : r.Coupled g r') : r'.Coupled g r :=
  ⟨h.coherent', h.coherent, fun ty unnamed => (h.unnamed ty unnamed).symm⟩

/-- What fails in one registry fails in the other. -/
theorem assign_error (h : r.Coupled g r') (failed : r.assign g ty = .error e) :
    r'.assign g ty = .error e := by
  rcases assign_error_cases failed with ⟨unknown, rfl⟩ | ⟨d, known, free, unnamed⟩
  · simp only [assign, unknown]
  · have free' : r'.lookup? d.identity = none := by
      refine Option.eq_none_iff_forall_ne_some.2 fun id' held' => ?_
      obtain ⟨id, d', known', held⟩ := (h.unnamed ty fun base hb => by
        rw [unnamed] at hb; cases hb).2 ⟨id', d, known, held'⟩
      obtain rfl : d' = d := Option.some.inj (known'.symm.trans known)
      rw [free] at held
      cases held
    simp only [assign, known, free', unnamed]

/-- After both registries gave a type its identifier they can still stand in for each other, and tie
the two identifiers. -/
theorem assign_ok (h : r.Coupled g r') (assigned : r.assign g ty = .ok (id, r₁, events))
    (assigned' : r'.assign g ty = .ok (id', r₁', events')) :
    r₁.Coupled g r₁' ∧ r₁.Ties r₁' id id' := by
  obtain ⟨d, known, held⟩ := (assign_spec assigned).2
  obtain ⟨d', known', held'⟩ := (assign_spec assigned').2
  obtain rfl : d' = d := Option.some.inj (known'.symm.trans known)
  refine ⟨⟨h.coherent.assign assigned, h.coherent'.assign assigned', fun ty₂ unnamed => ?_⟩,
    d'.identity, held, held'⟩
  have same : ∀ d₂, g.describe? ty₂ = some d₂ →
      ((∃ id, r₁.lookup? d₂.identity = some id) ↔ ∃ id, r₁'.lookup? d₂.identity = some id) := by
    intro d₂ known₂
    by_cases identity : d₂.identity = d'.identity
    · rw [identity, held, held']
      exact ⟨fun _ => ⟨_, rfl⟩, fun _ => ⟨_, rfl⟩⟩
    · rw [lookup?_assign_of_ne known assigned identity,
        lookup?_assign_of_ne known assigned' identity]
      have before := h.unnamed ty₂ unnamed
      simpa only [TypeGraph.Holds, known₂, Option.some.injEq, exists_eq_left'] using before
  constructor
  · rintro ⟨id₂, d₂, known₂, held₂⟩
    obtain ⟨id₂', held₂'⟩ := (same d₂ known₂).1 ⟨id₂, held₂⟩
    exact ⟨id₂', d₂, known₂, held₂'⟩
  · rintro ⟨id₂', d₂, known₂, held₂'⟩
    obtain ⟨id₂, held₂⟩ := (same d₂ known₂).2 ⟨id₂', held₂'⟩
    exact ⟨id₂, d₂, known₂, held₂⟩

/-- **An identifier is assigned in both registries or in neither.** -/
theorem assign_cases (h : r.Coupled g r') (ty : TypeId) :
    (∃ e, r.assign g ty = .error e ∧ r'.assign g ty = .error e) ∨
      ∃ id r₁ events id' r₁' events', r.assign g ty = .ok (id, r₁, events) ∧
        r'.assign g ty = .ok (id', r₁', events') ∧ r₁.Coupled g r₁' ∧ r₁.Ties r₁' id id' := by
  cases ha : r.assign g ty with
  | error e => exact .inl ⟨e, rfl, h.assign_error ha⟩
  | ok p =>
    cases ha' : r'.assign g ty with
    | error e => rw [h.symm.assign_error ha'] at ha; cases ha
    | ok p' => exact .inr ⟨_, _, _, _, _, _, rfl, rfl, h.assign_ok ha ha'⟩

end Coupled

end TypeSchema.Registry
