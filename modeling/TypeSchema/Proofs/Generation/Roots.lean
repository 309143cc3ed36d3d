import TypeSchema.Generation.Document
import TypeSchema.Proofs.Outcome
import TypeSchema.Proofs.Registry

/-!
# Documents — the roots in their order

Roots are taken in the order of their identities, and of neighbours with one identity the first.
When identities are distinct nothing else is dropped: the roots in their order are the roots
(`mem_orderedRoots`).
-/

namespace TypeSchema

/-- Roots are identified one by one. -/
theorem identified_cons_ok {g : TypeGraph} {ty : TypeId} {rest : List TypeId}
    {named : List (String × TypeId)} :
    identified g (ty :: rest) = .ok named ↔ ∃ identity more,
      g.identity? ty = some identity ∧ identified g rest = .ok more ∧
        named = (identity, ty) :: more := by
  unfold identified
  rw [mapM_cons_ok_iff]
  cases g.identity? ty with
  | none => simp
  | some identity => simp

/-- The entries of a list of roots with their identities. -/
theorem mem_identified {g : TypeGraph} {roots : List TypeId} {named : List (String × TypeId)}
    (h : identified g roots = .ok named) {e : String × TypeId} :
    e ∈ named ↔ e.2 ∈ roots ∧ g.identity? e.2 = some e.1 := by
  induction roots generalizing named with
  | nil => cases h; simp
  | cons ty rest ih =>
    obtain ⟨identity, more, hty, hrest, rfl⟩ := identified_cons_ok.1 h
    obtain ⟨identity', ty'⟩ := e
    simp only [List.mem_cons, ih hrest, Prod.mk.injEq]
    constructor
    · rintro (⟨rfl, rfl⟩ | ⟨hm, hi⟩)
      · exact ⟨.inl rfl, hty⟩
      · exact ⟨.inr hm, hi⟩
    · rintro ⟨rfl | hm, hi⟩
      · exact .inl ⟨Option.some.inj (hi.symm.trans hty), rfl⟩
      · exact .inr ⟨hm, hi⟩

/-- Roots have their identities iff the graph knows them. -/
theorem exists_identified_iff {g : TypeGraph} {roots : List TypeId} :
    (∃ named, identified g roots = .ok named) ↔
      ∀ ty ∈ roots, ∃ identity, g.identity? ty = some identity := by
  induction roots with
  | nil => exact ⟨fun _ ty h => (List.not_mem_nil h).elim, fun _ => ⟨[], rfl⟩⟩
  | cons ty rest ih =>
    simp only [identified_cons_ok, List.forall_mem_cons, ← ih]
    constructor
    · rintro ⟨_, identity, more, hty, hrest, -⟩
      exact ⟨⟨identity, hty⟩, more, hrest⟩
    · rintro ⟨⟨identity, hty⟩, more, hrest⟩
      exact ⟨_, identity, more, hty, hrest, rfl⟩

theorem dropRepeated_subset (l : List (String × TypeId)) : dropRepeated l ⊆ l := by
  fun_induction dropRepeated l with
  | case1 a b rest he ih =>
    intro e h
    rcases List.mem_cons.1 (ih h) with rfl | h
    · exact List.mem_cons_self
    · exact List.mem_cons_of_mem _ (List.mem_cons_of_mem _ h)
  | case2 a b rest he ih => exact List.cons_subset_cons a ih
  | case3 l hl => exact List.Subset.refl l

/-- Every identity is kept. -/
theorem exists_mem_dropRepeated (l : List (String × TypeId)) :
    ∀ e ∈ l, ∃ e' ∈ dropRepeated l, e'.1 = e.1 := by
  fun_induction dropRepeated l with
  | case1 a b rest he ih =>
    intro e h
    rcases List.mem_cons.1 h with rfl | h
    · exact ih e List.mem_cons_self
    · rcases List.mem_cons.1 h with rfl | h
      · obtain ⟨e', hm, he'⟩ := ih a List.mem_cons_self
        exact ⟨e', hm, he'.trans he⟩
      · exact ih e (List.mem_cons_of_mem _ h)
  | case2 a b rest he ih =>
    intro e h
    rcases List.mem_cons.1 h with rfl | h
    · exact ⟨e, List.mem_cons_self, rfl⟩
    · obtain ⟨e', hm, he'⟩ := ih e h
      exact ⟨e', List.mem_cons_of_mem _ hm, he'⟩
  | case3 l hl => exact fun e h => ⟨e, h, rfl⟩

/-- Without repetitions a sorted list is strictly sorted. -/
theorem sorted_dropRepeated {l : List (String × TypeId)} (h : l.Pairwise fun a b => a.1 ≤ b.1) :
    (dropRepeated l).Pairwise fun a b => a.1 < b.1 := by
  fun_induction dropRepeated l with
  | case1 a b rest he ih =>
    obtain ⟨ha, hb⟩ := List.pairwise_cons.1 h
    refine ih (List.pairwise_cons.2 ⟨fun e hm => ?_, (List.pairwise_cons.1 hb).2⟩)
    exact ha e (List.mem_cons_of_mem _ hm)
  | case2 a b rest he ih =>
    obtain ⟨ha, hb⟩ := List.pairwise_cons.1 h
    refine List.pairwise_cons.2 ⟨fun e hm => ?_, ih hb⟩
    have hbe : b.1 ≤ e.1 := by
      rcases List.mem_cons.1 (dropRepeated_subset _ hm) with rfl | hm
      · exact String.le_refl _
      · exact (List.pairwise_cons.1 hb).1 e hm
    have hab := ha b List.mem_cons_self
    refine String.not_le.1 fun hea => he ?_
    exact String.le_antisymm hab (String.le_trans hbe hea)
  | case3 l hl =>
    rcases l with _ | ⟨a, _ | ⟨b, rest⟩⟩
    · exact .nil
    · exact List.pairwise_singleton _ _
    · exact absurd rfl (hl a b rest)

/-- The roots with their identities, in order. -/
def rankedRoots (named : List (String × TypeId)) : List (String × TypeId) :=
  dropRepeated (named.mergeSort fun a b => a.1 ≤ b.1)

/-- Roots are ranked by identity, each identity once. -/
theorem sorted_rankedRoots (named : List (String × TypeId)) :
    (rankedRoots named).Pairwise fun a b => a.1 < b.1 := by
  refine sorted_dropRepeated ?_
  have hsorted : (named.mergeSort fun a b => a.1 ≤ b.1).Pairwise
      fun a b => decide (a.1 ≤ b.1) = true :=
    List.pairwise_mergeSort
      (fun a b c hab hbc => by
        simpa using String.le_trans (by simpa using hab) (by simpa using hbc))
      (fun a b => by simpa using String.le_total a.1 b.1) named
  exact hsorted.imp fun h => by simpa using h

/-- When identities are distinct no root is lost. -/
theorem mem_rankedRoots {g : TypeGraph} (distinct : g.Distinct) {roots : List TypeId}
    {named : List (String × TypeId)} (h : identified g roots = .ok named) {e : String × TypeId} :
    e ∈ rankedRoots named ↔ e.2 ∈ roots ∧ g.identity? e.2 = some e.1 := by
  rw [← mem_identified h]
  have hsort : ∀ e, e ∈ named.mergeSort (fun a b => a.1 ≤ b.1) ↔ e ∈ named :=
    fun _ => List.mem_mergeSort
  refine ⟨fun hm => (hsort e).1 (dropRepeated_subset _ hm), fun hm => ?_⟩
  obtain ⟨e', hm', he⟩ := exists_mem_dropRepeated _ e ((hsort e).2 hm)
  have hnamed := (mem_identified h).1 ((hsort e').1 (dropRepeated_subset _ hm'))
  have hty : e'.2 = e.2 := distinct _ _ e.1 (he ▸ hnamed.2) ((mem_identified h).1 hm).2
  rwa [Prod.ext he hty] at hm'

/-- No root is made up. -/
theorem orderedRoots_subset {g : TypeGraph} {roots : List TypeId}
    {named : List (String × TypeId)} (h : identified g roots = .ok named) :
    orderedRoots named ⊆ roots := by
  intro ty hty
  obtain ⟨e, he, rfl⟩ := List.mem_map.1 hty
  exact ((mem_identified h).1 (List.mem_mergeSort.1 (dropRepeated_subset _ he))).1

/-- The roots in their order are the roots. -/
theorem mem_orderedRoots {g : TypeGraph} (distinct : g.Distinct) {roots : List TypeId}
    {named : List (String × TypeId)} (h : identified g roots = .ok named) {ty : TypeId} :
    ty ∈ orderedRoots named ↔ ty ∈ roots := by
  refine ⟨fun hty => orderedRoots_subset h hty, fun hty => ?_⟩
  obtain ⟨identity, hi⟩ := exists_identified_iff.1 ⟨named, h⟩ ty hty
  exact List.mem_map.2 ⟨(identity, ty), (mem_rankedRoots distinct h).2 ⟨hty, hi⟩, rfl⟩

end TypeSchema
