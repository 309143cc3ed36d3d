import Mathlib.Data.List.Forall2

/-!
# Lists whose members are related

What `List.Forall₂` says of single members, and of lists that are put together.
-/

namespace TypeSchema

variable {α β γ : Type} {R : α → β → Prop} {S : γ → β → Prop} {as as' : List α} {bs : List β}
  {cs : List γ}

/-- What is the same of related members is the same of their lists. -/
theorem map_eq_map {δ : Type} (h : List.Forall₂ R as bs) {f : α → δ} {f' : β → δ}
    (same : ∀ a b, R a b → f a = f' b) : as.map f = bs.map f' := by
  rw [← List.forall₂_eq_eq_eq]
  exact List.rel_map same h

theorem exists_right_of_mem (h : List.Forall₂ R as bs) {a : α} (ha : a ∈ as) :
    ∃ b ∈ bs, R a b := by
  induction h with
  | nil => cases ha
  | cons hr _ ih =>
    rcases List.mem_cons.1 ha with rfl | ha
    · exact ⟨_, List.mem_cons_self, hr⟩
    · obtain ⟨b, hb, h⟩ := ih ha
      exact ⟨b, List.mem_cons_of_mem _ hb, h⟩

theorem exists_left_of_mem (h : List.Forall₂ R as bs) {b : β} (hb : b ∈ bs) : ∃ a ∈ as, R a b :=
  exists_right_of_mem (R := flip R) (List.Forall₂.flip h) hb

theorem exists_right_of_getElem? (h : List.Forall₂ R as bs) {i : Nat} {a : α}
    (ha : as[i]? = some a) : ∃ b, bs[i]? = some b ∧ R a b := by
  induction h generalizing i with
  | nil => cases ha
  | cons hr _ ih => cases i with
    | zero => exact ⟨_, rfl, Option.some.inj ha ▸ hr⟩
    | succ i => exact ih ha

theorem forall₂_append_left (h : List.Forall₂ R (as ++ as') bs) :
    ∃ cs cs', bs = cs ++ cs' ∧ List.Forall₂ R as cs ∧ List.Forall₂ R as' cs' := by
  have flipped : List.Forall₂ (flip R) bs (as ++ as') := List.Forall₂.flip h
  exact ⟨bs.take as.length, bs.drop as.length, (List.take_append_drop ..).symm,
    (List.forall₂_take_append bs as as' flipped).flip,
    (List.forall₂_drop_append bs as as' flipped).flip⟩

/-- Members of two lists that are related to the members of a third are paired. -/
theorem forall₂_zip_left (h : List.Forall₂ R as bs) (h' : List.Forall₂ S cs bs) :
    List.Forall₂ (fun p b => R p.1 b ∧ S p.2 b) (as.zip cs) bs := by
  induction h generalizing cs with
  | nil => cases h'; exact .nil
  | cons hr _ ih => cases h' with
    | cons hs h' => exact .cons ⟨hr, hs⟩ (ih h')

end TypeSchema
