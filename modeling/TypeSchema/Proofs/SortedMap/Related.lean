import Mathlib.Data.List.Forall2
import TypeSchema.Proofs.SortedMap

/-!
# Maps with text keys — related maps

Two maps are related by a relation between values when they have the same keys, and related values
under each of them.  They stay related when both change alike (`Related.insert`), and what is found
in one of them has its counterpart in the other (`Related.get?_rel`).
-/

namespace TypeSchema.SortedMap

variable {α β γ : Type} {R : α → β → Prop}

/-- The entries have the same keys and related values. -/
abbrev RelatedEntries (R : α → β → Prop) : List (String × α) → List (String × β) → Prop :=
  List.Forall₂ fun e e' => e'.1 = e.1 ∧ R e.2 e'.2

/-- The maps have the same keys, and related values under each of them. -/
def Related (R : α → β → Prop) (m : SortedMap α) (m' : SortedMap β) : Prop :=
  RelatedEntries R m.toList m'.toList

/-! ### Entries -/

namespace RelatedEntries

variable {l : List (String × α)} {l' : List (String × β)}

theorem lookup (h : RelatedEntries R l l') (k : String) :
    Option.Rel R (SortedMap.lookup k l) (SortedMap.lookup k l') := by
  induction h with
  | nil => exact .none
  | cons he _ ih =>
    simp only [SortedMap.lookup, he.1]
    split
    · exact .some he.2
    · exact ih

theorem insertEntry (h : RelatedEntries R l l') (k : String) {x : α} {y : β} (hxy : R x y) :
    RelatedEntries R (SortedMap.insertEntry k x l) (SortedMap.insertEntry k y l') := by
  induction h with
  | nil => exact .cons ⟨rfl, hxy⟩ .nil
  | cons he rest ih =>
    simp only [SortedMap.insertEntry, he.1]
    split
    · exact .cons ⟨rfl, hxy⟩ (.cons ⟨rfl, he.2⟩ rest)
    · split
      · exact .cons ⟨rfl, hxy⟩ rest
      · exact .cons ⟨rfl, he.2⟩ ih

/-- Values that a function cannot tell apart. -/
theorem map_eq {f : α → γ} {f' : β → γ} (h : RelatedEntries (fun x y => f' y = f x) l l') :
    l'.map (fun e => (e.1, f' e.2)) = l.map fun e => (e.1, f e.2) := by
  induction h with
  | nil => rfl
  | cons he _ ih => rw [List.map_cons, List.map_cons, he.1, he.2, ih]

theorem keys_eq (h : RelatedEntries R l l') : l'.map (·.1) = l.map (·.1) := by
  induction h with
  | nil => rfl
  | cons he _ ih => rw [List.map_cons, List.map_cons, he.1, ih]

end RelatedEntries

/-! ### Maps -/

namespace Related

variable {m : SortedMap α} {m' : SortedMap β}

theorem empty : Related R (∅ : SortedMap α) (∅ : SortedMap β) := .nil

/-- A map is related to itself if its values are. -/
theorem of_get? {R : α → α → Prop} (h : ∀ k x, m.get? k = some x → R x x) : Related R m m :=
  List.forall₂_same.2 fun e he => ⟨rfl, h e.1 e.2 (mem_toList_iff.1 he)⟩

theorem imp {S : α → β → Prop} (h : Related R m m') (hRS : ∀ x y, R x y → S x y) :
    Related S m m' :=
  List.Forall₂.imp (fun _ _ ⟨key, value⟩ => ⟨key, hRS _ _ value⟩) h

/-- A weaker relation has to follow for what is in the maps only. -/
theorem imp_of_get? {S : α → β → Prop} (h : Related R m m')
    (hRS : ∀ k x y, m.get? k = some x → m'.get? k = some y → R x y → S x y) : Related S m m' := by
  obtain ⟨length, all⟩ := List.forall₂_iff_zip.1 h
  refine List.forall₂_iff_zip.2 ⟨length, fun {e e'} mem => ?_⟩
  obtain ⟨key, value⟩ := all mem
  obtain ⟨he, he'⟩ := List.of_mem_zip mem
  refine ⟨key, hRS e.1 e.2 e'.2 (mem_toList_iff.1 he) ?_ value⟩
  rw [← key]
  exact mem_toList_iff.1 he'

/-- Under one key both maps have related values, or none. -/
theorem get?_rel (h : Related R m m') (k : String) : Option.Rel R (m.get? k) (m'.get? k) :=
  h.lookup k

theorem exists_right (h : Related R m m') {k : String} {x : α} (hx : m.get? k = some x) :
    ∃ y, m'.get? k = some y ∧ R x y := by
  have found := h.get?_rel k
  rw [hx] at found
  cases hy : m'.get? k with
  | none => rw [hy] at found; cases found
  | some y => rw [hy] at found; cases found with | some hxy => exact ⟨y, rfl, hxy⟩

theorem exists_left (h : Related R m m') {k : String} {y : β} (hy : m'.get? k = some y) :
    ∃ x, m.get? k = some x ∧ R x y := by
  have found := h.get?_rel k
  rw [hy] at found
  cases hx : m.get? k with
  | none => rw [hx] at found; cases found
  | some x => rw [hx] at found; cases found with | some hxy => exact ⟨x, rfl, hxy⟩

theorem get?_eq_none (h : Related R m m') {k : String} (fresh : m.get? k = none) :
    m'.get? k = none := by
  have found := h.get?_rel k
  rw [fresh] at found
  cases hy : m'.get? k with
  | none => rfl
  | some y => rw [hy] at found; cases found

theorem contains_eq (h : Related R m m') (k : String) : m'.contains k = m.contains k := by
  have found := h.get?_rel k
  unfold contains
  cases hx : m.get? k <;> cases hy : m'.get? k <;> rw [hx, hy] at found <;> cases found <;> rfl

theorem insert (h : Related R m m') (k : String) {x : α} {y : β} (hxy : R x y) :
    Related R (m.insert k x) (m'.insert k y) :=
  RelatedEntries.insertEntry h k hxy

/-- A related entry that is new on one side is new on the other. -/
theorem insertNew (h : Related R m m') (k : String) {x : α} {y : β} (hxy : R x y) :
    Related R (m.insertNew k x) (m'.insertNew k y) := by
  unfold SortedMap.insertNew
  rw [h.contains_eq]
  split
  · exact h
  · exact h.insert k hxy

theorem keys_eq (h : Related R m m') : m'.keys = m.keys := RelatedEntries.keys_eq h

/-- Where two functions make the same of related values they make one map of related maps. -/
theorem mapValues_eq {f : α → γ} {f' : β → γ} (h : Related (fun x y => f' y = f x) m m') :
    m'.mapValues f' = m.mapValues f :=
  ext_entries (RelatedEntries.map_eq h)

end Related

end TypeSchema.SortedMap
