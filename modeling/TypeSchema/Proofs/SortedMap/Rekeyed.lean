import Mathlib.Data.List.Nodup
import Mathlib.Logic.Relator
import TypeSchema.Proofs.SortedMap

/-!
# Maps with text keys — other keys

`m.mapKeys f` is `m` with its values under other keys.  `Rekeyed S m m'` says that two maps have the
same values under keys that `S` ties together, and no others.  If `S` ties each key to one key at
most, both ways, then renaming the keys of both maps alike gives one map (`Rekeyed.mapKeys_eq`).
-/

namespace TypeSchema.SortedMap

variable {α : Type}

/-- A map is found by what is under its keys. -/
theorem ext_get? {m m' : SortedMap α} (h : ∀ k, m.get? k = m'.get? k) : m = m' := by
  have mem : ∀ e, e ∈ m.entries ↔ e ∈ m'.entries := by
    rintro ⟨k, x⟩
    have found : m.get? k = some x ↔ m'.get? k = some x := by rw [h]
    exact mem_toList_iff.trans (found.trans mem_toList_iff.symm)
  have perm : m.entries.Perm m'.entries :=
    (List.perm_ext_iff_of_nodup (nodup_toList m) (nodup_toList m')).2 mem
  exact ext_entries (perm.eq_of_pairwise
    (fun _ _ _ _ hab hba => absurd hba (String.lt_asymm hab)) m.sorted m'.sorted)

/-- The map with its values under other keys. -/
def mapKeys (f : String → String) (m : SortedMap α) : SortedMap α :=
  ofList (m.toList.map fun e => (f e.1, e.2))

/-- Under other keys are the values of the map, if different keys get different ones. -/
theorem get?_mapKeys {f : String → String} {m : SortedMap α}
    (inj : ∀ k k', m.contains k → m.contains k' → f k = f k' → k = k') {k : String} {x : α} :
    (m.mapKeys f).get? k = some x ↔ ∃ k₀, m.get? k₀ = some x ∧ f k₀ = k := by
  have nodup : ((m.toList.map fun e => (f e.1, e.2)).map (·.1)).Nodup := by
    rw [List.map_map]
    refine List.Nodup.map_on (fun e he e' he' same => ?_) (nodup_toList m)
    have found := mem_toList_iff.1 he
    have found' := mem_toList_iff.1 he'
    have key : e.1 = e'.1 := inj _ _ (contains_iff.2 ⟨_, found⟩) (contains_iff.2 ⟨_, found'⟩) same
    rw [key, found'] at found
    exact Prod.ext key (Option.some.inj found).symm
  rw [mapKeys, ← mem_toList_iff, mem_toList_ofList_iff nodup, List.mem_map]
  constructor
  · rintro ⟨⟨k₀, x₀⟩, he, same⟩
    cases same
    exact ⟨k₀, mem_toList_iff.1 he, rfl⟩
  · rintro ⟨k₀, found, rfl⟩
    exact ⟨(k₀, x), mem_toList_iff.2 found, rfl⟩

/-- The maps have the same values under keys that are tied together, and no others. -/
structure Rekeyed (S : String → String → Prop) (m m' : SortedMap α) : Prop where
  same : ∀ k k', S k k' → m'.get? k' = m.get? k
  left : ∀ k, m.contains k → ∃ k', S k k'
  right : ∀ k', m'.contains k' → ∃ k, S k k'

namespace Rekeyed

variable {S S' : String → String → Prop} {m m' : SortedMap α}

theorem empty (S : String → String → Prop) : Rekeyed S (∅ : SortedMap α) (∅ : SortedMap α) :=
  ⟨fun _ _ _ => rfl, fun _ h => absurd h Bool.false_ne_true,
    fun _ h => absurd h Bool.false_ne_true⟩

/-- More keys may be tied together, as long as none is tied to two. -/
theorem mono (h : Rekeyed S m m') (unique : Relator.BiUnique S') (sub : ∀ k k', S k k' → S' k k') :
    Rekeyed S' m m' := by
  refine ⟨fun k k' hk => ?_, fun k hk => ?_, fun k' hk' => ?_⟩
  · by_cases there : m.contains k
    · obtain ⟨k₁, hk₁⟩ := h.left k there
      obtain rfl : k₁ = k' := unique.2 (sub _ _ hk₁) hk
      exact h.same k k₁ hk₁
    · by_cases there' : m'.contains k'
      · obtain ⟨k₁, hk₁⟩ := h.right k' there'
        obtain rfl : k₁ = k := unique.1 (sub _ _ hk₁) hk
        exact h.same k₁ k' hk₁
      · have absent : m.get? k = none := by simpa [contains] using there
        have absent' : m'.get? k' = none := by simpa [contains] using there'
        rw [absent, absent']
  · obtain ⟨k', hk'⟩ := h.left k hk
    exact ⟨k', sub _ _ hk'⟩
  · obtain ⟨k, hk⟩ := h.right k' hk'
    exact ⟨k, sub _ _ hk⟩

/-- Keys that are paired get their new entry on both sides. -/
theorem insertNew (h : Rekeyed S m m') (unique : Relator.BiUnique S) {k k' : String}
    (hk : S k k') (x : α) : Rekeyed S (m.insertNew k x) (m'.insertNew k' x) := by
  refine ⟨fun k₁ k₁' hk₁ => ?_, fun k₁ hk₁ => ?_, fun k₁' hk₁' => ?_⟩
  · have keys : k₁ = k ↔ k₁' = k' :=
      ⟨fun e => unique.2 (e ▸ hk₁) hk, fun e => unique.1 (e ▸ hk₁) hk⟩
    rw [get?_insertNew, get?_insertNew, h.same _ _ hk, h.same _ _ hk₁]
    simp only [keys]
  · rw [contains_insertNew, Bool.or_eq_true, beq_iff_eq] at hk₁
    rcases hk₁ with rfl | hk₁
    · exact ⟨k', hk⟩
    · exact h.left k₁ hk₁
  · rw [contains_insertNew, Bool.or_eq_true, beq_iff_eq] at hk₁'
    rcases hk₁' with rfl | hk₁'
    · exact ⟨k, hk⟩
    · exact h.right k₁' hk₁'

/-- Keys that are tied together get one name, so the maps with these names are the same. -/
theorem mapKeys_eq (h : Rekeyed S m m') {f f' : String → String}
    (named : ∀ k k', S k k' → f' k' = f k)
    (inj : ∀ k k' k₁ k₁', S k k' → S k₁ k₁' → f k = f k₁ → k = k₁ ∧ k' = k₁') :
    m'.mapKeys f' = m.mapKeys f := by
  have injective : ∀ k k₁, m.contains k → m.contains k₁ → f k = f k₁ → k = k₁ := by
    intro k k₁ hk hk₁ same
    obtain ⟨k', hk'⟩ := h.left k hk
    obtain ⟨k₁', hk₁'⟩ := h.left k₁ hk₁
    exact (inj _ _ _ _ hk' hk₁' same).1
  have injective' : ∀ k' k₁', m'.contains k' → m'.contains k₁' → f' k' = f' k₁' → k' = k₁' := by
    intro k' k₁' hk' hk₁' same
    obtain ⟨k, hk⟩ := h.right k' hk'
    obtain ⟨k₁, hk₁⟩ := h.right k₁' hk₁'
    rw [named _ _ hk, named _ _ hk₁] at same
    exact (inj _ _ _ _ hk hk₁ same).2
  refine ext_get? fun name => Option.ext fun x => ?_
  rw [get?_mapKeys injective, get?_mapKeys injective']
  constructor
  · rintro ⟨k', found, rfl⟩
    obtain ⟨k, hk⟩ := h.right k' (contains_iff.2 ⟨x, found⟩)
    exact ⟨k, (h.same _ _ hk).symm.trans found, (named _ _ hk).symm⟩
  · rintro ⟨k, found, rfl⟩
    obtain ⟨k', hk'⟩ := h.left k (contains_iff.2 ⟨x, found⟩)
    exact ⟨k', (h.same _ _ hk').trans found, named _ _ hk'⟩

end Rekeyed

end TypeSchema.SortedMap
