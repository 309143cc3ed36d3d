import Mathlib.Data.List.Nodup
import Mathlib.Data.List.Perm.Subperm
import TypeSchema.Proofs.SortedMap
import TypeSchema.Registry

/-!
# Registry — who holds which identifier

`r.Grows r'` says that every identifier held in `r` is held in `r'` by the same identity: claims and
assignments only add to a registry.  `g.Holds r ty id` says that a type of a graph holds an
identifier.

A registry is *coherent* when its two readings agree: the identity that an identifier leads to is
the one that holds it.  Then no two identities hold one identifier (`Coherent.unique`).  Every
registry that claims, assignments and releases lead to is coherent (`Reachable.coherent`), because
a claim takes an identifier that is free (`firstFree_free`).
-/

namespace TypeSchema

namespace Registry

/-- What is held in `r` is held in `r'`. -/
def Grows (r r' : Registry) : Prop :=
  ∀ ⦃identity id⦄, r.lookup? identity = some id → r'.lookup? identity = some id

theorem Grows.refl (r : Registry) : r.Grows r := fun _ _ h => h

theorem Grows.trans {r r₁ r₂ : Registry} (h₁ : r.Grows r₁) (h₂ : r₁.Grows r₂) : r.Grows r₂ :=
  fun _ _ h => h₂ (h₁ h)

theorem lookup?_hold (r : Registry) (identity base id identity₂ : String) :
    (r.hold identity base id).lookup? identity₂ =
      if identity₂ = identity then some id else r.lookup? identity₂ := by
  by_cases h : identity₂ = identity <;> simp [lookup?, hold, h]

theorem hold_grows {r : Registry} {identity : String} (h : r.lookup? identity = none)
    (base id : String) : r.Grows (r.hold identity base id) := by
  intro identity₂ id₂ h₂
  rw [lookup?_hold, if_neg (fun e => by rw [e, h] at h₂; cases h₂), h₂]

/-- What a claim does: nothing for an identity that holds an identifier, and else it holds one. -/
theorem claim_cases (r : Registry) (identity base : String) :
    (∃ id, r.lookup? identity = some id ∧ r.claim identity base = (id, r, [])) ∨
    (r.lookup? identity = none ∧ ∃ id events,
      r.claim identity base = (id, r.hold identity base id, events)) := by
  unfold claim
  cases h : r.lookup? identity with
  | some id => exact .inl ⟨id, rfl, rfl⟩
  | none =>
    refine .inr ⟨rfl, ?_⟩
    cases r.owners.get? base with
    | none => exact ⟨base, [], rfl⟩
    | some owner => exact ⟨_, _, rfl⟩

/-- A claim takes no identifier away. -/
theorem claim_grows (r : Registry) (identity base : String) :
    r.Grows (r.claim identity base).2.1 := by
  rcases claim_cases r identity base with ⟨id, -, h⟩ | ⟨hn, id, events, h⟩ <;> rw [h]
  · exact .refl r
  · exact hold_grows hn base id

/-- What is claimed is held. -/
theorem lookup?_claim (r : Registry) (identity base : String) :
    (r.claim identity base).2.1.lookup? identity = some (r.claim identity base).1 := by
  rcases claim_cases r identity base with ⟨id, hid, h⟩ | ⟨hn, id, events, h⟩ <;> rw [h]
  · exact hid
  · simp [lookup?_hold]

end Registry

/-- No two types have the same identity. -/
def TypeGraph.Distinct (g : TypeGraph) : Prop :=
  ∀ ty ty' identity, g.identity? ty = some identity → g.identity? ty' = some identity → ty = ty'

/-- A type of the graph holds an identifier. -/
def TypeGraph.Holds (g : TypeGraph) (r : Registry) (ty : TypeId) (id : String) : Prop :=
  ∃ d, g.describe? ty = some d ∧ r.lookup? d.identity = some id

theorem TypeGraph.Holds.mono {g : TypeGraph} {r r' : Registry} (h : r.Grows r') {ty : TypeId}
    {id : String} : g.Holds r ty id → g.Holds r' ty id :=
  fun ⟨d, hd, hid⟩ => ⟨d, hd, h hid⟩

/-- A type holds at most one identifier. -/
theorem TypeGraph.Holds.id_eq {g : TypeGraph} {r : Registry} {ty : TypeId} {id id' : String}
    (h : g.Holds r ty id) (h' : g.Holds r ty id') : id = id' := by
  obtain ⟨d, hd, hid⟩ := h
  obtain ⟨d', hd', hid'⟩ := h'
  obtain rfl : d = d' := Option.some.inj (hd.symm.trans hd')
  exact Option.some.inj (hid.symm.trans hid')

namespace Registry

/-- What an assignment that succeeds does: nothing for a type whose identity holds an identifier,
and else it claims the type's base. -/
theorem assign_cases {r r' : Registry} {g : TypeGraph} {ty : TypeId} {id : String}
    {events : List DiagnosticEvent} (h : r.assign g ty = .ok (id, r', events)) :
    ∃ d, g.describe? ty = some d ∧
      ((r.lookup? d.identity = some id ∧ r' = r ∧ events = []) ∨
        ∃ base, g.baseId ty = .ok base ∧ r.claim d.identity base = (id, r', events)) := by
  unfold assign at h
  cases hd : g.describe? ty with
  | none => simp [hd] at h
  | some d =>
    simp only [hd] at h
    refine ⟨d, rfl, ?_⟩
    cases hl : r.lookup? d.identity with
    | some id' =>
      simp only [hl, Except.ok.injEq, Prod.mk.injEq] at h
      obtain ⟨rfl, rfl, rfl⟩ := h
      exact .inl ⟨rfl, rfl, rfl⟩
    | none =>
      simp only [hl] at h
      cases hb : g.baseId ty with
      | error e => simp [hb] at h
      | ok base =>
        simp only [hb, Except.ok.injEq] at h
        exact .inr ⟨base, rfl, h⟩

/-- An assignment that succeeds only adds to the registry, and its type holds the identifier. -/
theorem assign_spec {r r' : Registry} {g : TypeGraph} {ty : TypeId} {id : String}
    {events : List DiagnosticEvent} (h : r.assign g ty = .ok (id, r', events)) :
    r.Grows r' ∧ g.Holds r' ty id := by
  obtain ⟨d, hd, ⟨hl, rfl, rfl⟩ | ⟨base, -, hclaim⟩⟩ := assign_cases h
  · exact ⟨.refl _, d, hd, hl⟩
  · have hg := claim_grows r d.identity base
    have hk := lookup?_claim r d.identity base
    rw [hclaim] at hg hk
    exact ⟨hg, d, hd, hk⟩

/-- A type that holds an identifier is given it again, and nothing is reported. -/
theorem assign_of_holds {r : Registry} {g : TypeGraph} {ty : TypeId} {id : String}
    (h : g.Holds r ty id) : r.assign g ty = .ok (id, r, []) := by
  obtain ⟨d, hd, hid⟩ := h
  simp only [assign, hd, hid]

/-- After an assignment nothing is held but what was held before and the identifier that is
given. -/
theorem lookup?_of_assign {r r' : Registry} {g : TypeGraph} {ty : TypeId} {id : String}
    {events : List DiagnosticEvent} (h : r.assign g ty = .ok (id, r', events))
    {identity id' : String} (holds : r'.lookup? identity = some id') :
    r.lookup? identity = some id' ∨ id' = id := by
  obtain ⟨d, -, ⟨-, rfl, -⟩ | ⟨base, -, hclaim⟩⟩ := assign_cases h
  · exact .inl holds
  · rcases claim_cases r d.identity base with ⟨_, -, he⟩ | ⟨-, _, _, he⟩
    · rw [hclaim] at he
      cases he
      exact .inl holds
    · rw [hclaim] at he
      cases he
      rw [lookup?_hold] at holds
      split at holds
      · exact .inr (Option.some.inj holds).symm
      · exact .inl holds

/-! ### Free identifiers -/

/-- Different numbers give different suffixes. -/
theorem suffixed_injective {base : String} {m n : Nat} (h : suffixed base m = suffixed base n) :
    m = n := by
  have hr : m.repr = n.repr := (String.append_right_inj _).1 h
  rw [← Nat.ofDigitChars_ten_toDigits (n := m), ← Nat.toList_repr, hr, Nat.toList_repr,
    Nat.ofDigitChars_ten_toDigits]

/-- Of the suffixed identifiers from `m` on, at most as many in a row are taken as there are
owners. -/
theorem length_taken_le {owners : SortedMap String} {base : String} {m n : Nat}
    (h : ∀ i, m ≤ i → i < n → owners.contains (suffixed base i)) : n - m ≤ owners.size := by
  -- different suffixes make different identifiers, and each of them is owned
  have hnodup : ((List.range' m (n - m)).map (suffixed base)).Nodup :=
    List.Nodup.map (fun _ _ => suffixed_injective) (List.nodup_range' 1)
  have hsub : (List.range' m (n - m)).map (suffixed base) ⊆ owners.keys := by
    intro k hk
    obtain ⟨i, hi, rfl⟩ := List.mem_map.1 hk
    have := List.mem_range'_1.1 hi
    exact SortedMap.mem_keys_iff.2 (h i (by omega) (by omega))
  have hle := (List.Nodup.subperm hnodup hsub).length_le
  rwa [List.length_map, List.length_range', SortedMap.length_keys] at hle

/-- The search ends at the least suffix from `n` on that is free, if the tries and the suffixes that
were passed make up the number of owners. -/
theorem firstFree_least {owners : SortedMap String} {base : String} {m : Nat} :
    ∀ {tries n : Nat}, m ≤ n → owners.size ≤ tries + (n - m) →
      (∀ i, m ≤ i → i < n → owners.contains (suffixed base i)) →
      ∃ k, m ≤ k ∧ firstFree owners base tries n = suffixed base k ∧
        ¬ owners.contains (suffixed base k) ∧
        ∀ i, m ≤ i → i < k → owners.contains (suffixed base i)
  | 0, n, hmn, hsize, htaken => by
    refine ⟨n, hmn, rfl, fun hn => ?_, htaken⟩
    -- else one more identifier would be taken than there are owners
    have := length_taken_le (n := n + 1) fun i hi hlt => by
      rcases Nat.lt_succ_iff_lt_or_eq.1 hlt with hlt | rfl
      · exact htaken i hi hlt
      · exact hn
    omega
  | tries + 1, n, hmn, hsize, htaken => by
    simp only [firstFree]
    split
    · next hn =>
      refine firstFree_least (by omega) (by omega) fun i hi hlt => ?_
      rcases Nat.lt_succ_iff_lt_or_eq.1 hlt with hlt | rfl
      · exact htaken i hi hlt
      · exact hn
    · next hn => exact ⟨n, hmn, rfl, hn, htaken⟩

/-- The identifier that is found has the least suffix that is free. -/
theorem firstFree_spec (owners : SortedMap String) (base : String) :
    ∃ k, 1 ≤ k ∧ firstFree owners base owners.size 1 = suffixed base k ∧
      ¬ owners.contains (suffixed base k) ∧
        ∀ i, 1 ≤ i → i < k → owners.contains (suffixed base i) :=
  firstFree_least (Nat.le_refl 1) (by omega) (by omega)

/-- The identifier that is found is free. -/
theorem firstFree_free (owners : SortedMap String) (base : String) :
    ¬ owners.contains (firstFree owners base owners.size 1) := by
  obtain ⟨k, -, hk, hfree, -⟩ := firstFree_spec owners base
  rwa [hk]

/-! ### Coherent registries -/

/-- The identity that an identifier leads to is the one that holds it, and the other way round. -/
def Coherent (r : Registry) : Prop :=
  ∀ identity id, r.lookup? identity = some id ↔ r.owners.get? id = some identity

/-- No two identities hold one identifier. -/
theorem Coherent.unique {r : Registry} (h : r.Coherent) {identity identity' id : String}
    (h₁ : r.lookup? identity = some id) (h₂ : r.lookup? identity' = some id) :
    identity = identity' :=
  Option.some.inj (((h _ _).1 h₁).symm.trans ((h _ _).1 h₂))

theorem coherent_empty : empty.Coherent := fun identity id => by
  simp [lookup?, empty, EmptyCollection.emptyCollection]

theorem Coherent.hold {r : Registry} (h : r.Coherent) {identity id : String}
    (hn : r.lookup? identity = none) (hfree : r.owners.get? id = none) (base : String) :
    (r.hold identity base id).Coherent := by
  intro identity₂ id₂
  rw [lookup?_hold, Registry.hold, SortedMap.get?_insert]
  by_cases h₁ : identity₂ = identity <;> by_cases h₂ : id₂ = id
  · simp [h₁, h₂]
  · subst h₁
    rw [if_pos rfl, if_neg h₂, ← h, hn]
    simp [Ne.symm h₂]
  · subst h₂
    rw [if_neg h₁, if_pos rfl, h, hfree]
    simp [Ne.symm h₁]
  · rw [if_neg h₁, if_neg h₂, h]

/-- A claim keeps a registry coherent: the slot it takes was free. -/
theorem Coherent.claim {r : Registry} (h : r.Coherent) (identity base : String) :
    (r.claim identity base).2.1.Coherent := by
  unfold Registry.claim
  cases hl : r.lookup? identity with
  | some id => exact h
  | none =>
    cases ho : r.owners.get? base with
    | none => exact h.hold hl ho base
    | some owner =>
      refine h.hold hl ?_ base
      simpa [SortedMap.contains] using firstFree_free r.owners base

theorem Coherent.assign {r r' : Registry} (h : r.Coherent) {g : TypeGraph} {ty : TypeId}
    {id : String} {events : List DiagnosticEvent}
    (ha : r.assign g ty = .ok (id, r', events)) : r'.Coherent := by
  obtain ⟨d, -, ⟨-, rfl, -⟩ | ⟨base, -, hclaim⟩⟩ := assign_cases ha
  · exact h
  · have hc := h.claim d.identity base
    rwa [hclaim] at hc

theorem Coherent.deregister {r : Registry} (h : r.Coherent) (identity : String) :
    (r.deregister identity).2.Coherent := by
  unfold Registry.deregister
  cases ha : r.byType.get? identity with
  | none => exact h
  | some a =>
    intro identity₂ id₂
    have hheld : r.lookup? identity = some a.id := by simp [lookup?, ha]
    simp only [lookup?, SortedMap.get?_erase]
    -- the type and its identifier are both released
    by_cases h₁ : identity₂ = identity
    · subst h₁
      simp only [if_true, Option.map_none]
      by_cases h₂ : id₂ = a.id
      · simp [h₂]
      · rw [if_neg h₂, ← h, hheld]
        simp [Ne.symm h₂]
    · rw [if_neg h₁]
      by_cases h₂ : id₂ = a.id
      · subst h₂
        rw [if_pos rfl]
        exact ⟨fun h₂ => absurd (h.unique h₂ hheld) h₁, fun h => by cases h⟩
      · rw [if_neg h₂]
        exact h identity₂ id₂

/-- No two types of a graph with different identities hold one identifier. -/
theorem Coherent.type_eq {r : Registry} (h : r.Coherent) {g : TypeGraph} (distinct : g.Distinct)
    {ty ty' : TypeId} {id : String} (hty : g.Holds r ty id) (hty' : g.Holds r ty' id) :
    ty = ty' := by
  obtain ⟨d, hd, hid⟩ := hty
  obtain ⟨d', hd', hid'⟩ := hty'
  refine distinct ty ty' d.identity ?_ ?_
  · rw [TypeGraph.identity?, hd, Option.map_some]
  · rw [TypeGraph.identity?, hd', Option.map_some, h.unique hid hid']

/-- The registries that claims, assignments and releases lead to. -/
inductive Reachable : Registry → Prop where
  | empty : Reachable empty
  | claim {r : Registry} (h : Reachable r) (identity base : String) :
      Reachable (r.claim identity base).2.1
  | assign {r r' : Registry} (h : Reachable r) {g : TypeGraph} {ty : TypeId} {id : String}
      {events : List DiagnosticEvent} (assigned : r.assign g ty = .ok (id, r', events)) :
      Reachable r'
  | deregister {r : Registry} (h : Reachable r) (identity : String) :
      Reachable (r.deregister identity).2

/-- **Every registry that can be reached is coherent.** -/
theorem Reachable.coherent {r : Registry} (h : r.Reachable) : r.Coherent := by
  induction h with
  | empty => exact coherent_empty
  | claim _ identity base ih => exact ih.claim identity base
  | assign _ assigned ih => exact ih.assign assigned
  | deregister _ identity ih => exact ih.deregister identity

end Registry

end TypeSchema
