import TypeSchema.SortedMap

/-!
# Maps with text keys — more about the operations

What the entries of a map are, beside what is found in it: `mem_toList_iff` ties the two readings
together, and `mem_toList_ofList_iff` says what the entries of a map made from a list are.
-/

namespace TypeSchema.SortedMap

variable {α β : Type}

theorem contains_iff {m : SortedMap α} {k : String} : m.contains k ↔ ∃ x, m.get? k = some x := by
  simp [contains, Option.isSome_iff_exists]

@[simp] theorem contains_insert (m : SortedMap α) (k : String) (x : α) (k₂ : String) :
    (m.insert k x).contains k₂ = (k₂ == k || m.contains k₂) := by
  by_cases h : k₂ = k <;> simp [contains, h]

theorem contains_insertNew (m : SortedMap α) (k : String) (x : α) (k₂ : String) :
    (m.insertNew k x).contains k₂ = (k₂ == k || m.contains k₂) := by
  by_cases h : k₂ = k <;> simp [contains, get?_insertNew, h]

theorem insertNew_of_contains {m : SortedMap α} {k : String} (h : m.contains k) (x : α) :
    m.insertNew k x = m := if_pos h

@[simp] theorem insertNew_insertNew (m : SortedMap α) (k : String) (x y : α) :
    (m.insertNew k x).insertNew k y = m.insertNew k x :=
  insertNew_of_contains (by simp [contains_insertNew]) y

/-! ### Entries -/

theorem lookup_of_mem {l : List (String × α)} (sorted : l.Pairwise (fun a b => a.1 < b.1))
    {k : String} {x : α} (h : (k, x) ∈ l) : lookup k l = some x := by
  induction l with
  | nil => simp at h
  | cons e rest ih =>
    obtain ⟨hlt, hr⟩ := List.pairwise_cons.1 sorted
    rcases List.mem_cons.1 h with rfl | h
    · simp [lookup]
    · have hne : k ≠ e.1 := fun e' => String.lt_irrefl _ (e' ▸ hlt _ h)
      simp [lookup, hne, ih hr h]

theorem mem_of_lookup {l : List (String × α)} {k : String} {x : α} (h : lookup k l = some x) :
    (k, x) ∈ l := by
  induction l with
  | nil => simp [lookup] at h
  | cons e rest ih =>
    obtain ⟨k', x'⟩ := e
    by_cases hk : k = k'
    · simp_all [lookup]
    · exact List.mem_cons_of_mem _ (ih (by simpa [lookup, hk] using h))

theorem exists_lookup {l : List (String × α)} {k : String} {x : α} (h : (k, x) ∈ l) :
    ∃ y, lookup k l = some y := by
  induction l with
  | nil => simp at h
  | cons e rest ih =>
    obtain ⟨k', x'⟩ := e
    by_cases hk : k = k'
    · exact ⟨x', by simp [lookup, hk]⟩
    · obtain ⟨y, hy⟩ := ih ((List.mem_cons.1 h).resolve_left fun he => hk (congrArg Prod.fst he))
      exact ⟨y, by simp [lookup, hk, hy]⟩

/-- The entries are what is found. -/
theorem mem_toList_iff {m : SortedMap α} {k : String} {x : α} :
    (k, x) ∈ m.toList ↔ m.get? k = some x :=
  ⟨lookup_of_mem m.sorted, mem_of_lookup⟩

theorem mem_keys_iff {m : SortedMap α} {k : String} : k ∈ m.keys ↔ m.contains k := by
  simp only [keys, List.mem_map, Prod.exists, exists_and_right, exists_eq_right, contains_iff,
    ← mem_toList_iff, toList]

theorem nodup_keys (m : SortedMap α) : m.keys.Nodup := by
  refine List.pairwise_map.2 (m.sorted.imp fun {e e'} hlt he => ?_)
  rw [he] at hlt
  exact String.lt_irrefl _ hlt

theorem nodup_toList (m : SortedMap α) : m.toList.Nodup :=
  List.Pairwise.of_map (·.1) (fun _ _ hne he => hne (congrArg Prod.fst he)) m.nodup_keys

theorem length_keys (m : SortedMap α) : m.keys.length = m.size := by simp [keys, size]

/-! ### Taking the first entry -/

/-- A map with nothing to take out is empty. -/
theorem get?_of_popFirst?_eq_none {m : SortedMap α} (h : m.popFirst? = none) (k : String) :
    m.get? k = none := by
  obtain ⟨l, hl⟩ := m
  cases l with
  | nil => rfl
  | cons e rest => simp [popFirst?] at h

/-- What is taken out is the entry of its key; the others stay. -/
theorem get?_popFirst? {m m' : SortedMap α} {k : String} {x : α}
    (h : m.popFirst? = some ((k, x), m')) (k₂ : String) :
    m.get? k₂ = if k₂ = k then some x else m'.get? k₂ := by
  obtain ⟨l, hl⟩ := m
  cases l with
  | nil => simp [popFirst?] at h
  | cons e rest =>
    simp only [popFirst?, Option.some.injEq, Prod.mk.injEq] at h
    obtain ⟨rfl, rfl⟩ := h
    rfl

/-- The first entry is gone from the rest. -/
theorem get?_rest_of_popFirst? {m m' : SortedMap α} {k : String} {x : α}
    (h : m.popFirst? = some ((k, x), m')) : m'.get? k = none := by
  obtain ⟨l, hl⟩ := m
  cases l with
  | nil => simp [popFirst?] at h
  | cons e rest =>
    simp only [popFirst?, Option.some.injEq, Prod.mk.injEq] at h
    obtain ⟨rfl, rfl⟩ := h
    refine Option.eq_none_iff_forall_ne_some.2 fun y hy => ?_
    exact String.lt_irrefl _ ((List.pairwise_cons.1 hl).1 (k, y) (mem_of_lookup hy))

/-- What is left after the first entry was taken was there before. -/
theorem get?_of_rest {m m' : SortedMap α} {k : String} {x : α}
    (h : m.popFirst? = some ((k, x), m')) {k₂ : String} {y : α} (hy : m'.get? k₂ = some y) :
    m.get? k₂ = some y := by
  rw [get?_popFirst? h]
  split
  · next he => rw [he, get?_rest_of_popFirst? h] at hy; cases hy
  · exact hy

/-! ### Changing the values -/

theorem lookup_map (f : α → β) (k : String) (l : List (String × α)) :
    lookup k (l.map fun e => (e.1, f e.2)) = (lookup k l).map f := by
  induction l with
  | nil => rfl
  | cons e rest ih => by_cases h : k = e.1 <;> simp [lookup, h, ih]

@[simp] theorem get?_mapValues (f : α → β) (m : SortedMap α) (k : String) :
    (m.mapValues f).get? k = (m.get? k).map f := lookup_map f k m.entries

@[simp] theorem contains_mapValues (f : α → β) (m : SortedMap α) (k : String) :
    (m.mapValues f).contains k = m.contains k := by
  simp [contains]

theorem toList_mapValues (f : α → β) (m : SortedMap α) :
    (m.mapValues f).toList = m.toList.map fun e => (e.1, f e.2) := rfl

@[ext] theorem ext_entries {m m' : SortedMap α} (h : m.entries = m'.entries) : m = m' := by
  cases m; cases m'; cases h; rfl

@[simp] theorem mapValues_id (m : SortedMap α) : m.mapValues id = m :=
  ext_entries (List.map_id _)

@[simp] theorem mapValues_empty (f : α → β) : (∅ : SortedMap α).mapValues f = ∅ := rfl

theorem map_insertEntry (f : α → β) (k : String) (x : α) (l : List (String × α)) :
    (insertEntry k x l).map (fun e => (e.1, f e.2)) =
      insertEntry k (f x) (l.map fun e => (e.1, f e.2)) := by
  induction l with
  | nil => rfl
  | cons e rest ih =>
    simp only [insertEntry, List.map_cons]
    split
    · rfl
    · split
      · rfl
      · rw [List.map_cons, ih]

theorem mapValues_insert (f : α → β) (m : SortedMap α) (k : String) (x : α) :
    (m.insert k x).mapValues f = (m.mapValues f).insert k (f x) :=
  ext_entries (map_insertEntry f k x m.entries)

theorem mapValues_insertNew (f : α → β) (m : SortedMap α) (k : String) (x : α) :
    (m.insertNew k x).mapValues f = (m.mapValues f).insertNew k (f x) := by
  simp only [insertNew, contains_mapValues]
  split
  · rfl
  · exact mapValues_insert f m k x

theorem popFirst?_mapValues (f : α → β) (m : SortedMap α) :
    (m.mapValues f).popFirst? =
      m.popFirst?.map fun p => ((p.1.1, f p.1.2), p.2.mapValues f) := by
  obtain ⟨l, hl⟩ := m
  cases l <;> rfl

/-- An entry of a map made from a list is an entry of the list. -/
theorem mem_of_mem_ofList {l : List (String × α)} {e : String × α}
    (h : e ∈ (ofList l).toList) : e ∈ l := by
  have fold : ∀ (l : List (String × α)) (m : SortedMap α),
      e ∈ (l.foldl (fun m e => m.insert e.1 e.2) m).toList → e ∈ l ∨ e ∈ m.toList := by
    intro l
    induction l with
    | nil => exact fun m h => .inr h
    | cons e' rest ih =>
      intro m h
      rcases ih _ h with h | h
      · exact .inl (List.mem_cons_of_mem _ h)
      · rcases mem_insertEntry h with rfl | h
        · exact .inl List.mem_cons_self
        · exact .inr h
  exact (fold l empty h).resolve_right (by simp [empty, toList])

theorem get?_foldl_insert_of_not_mem {l : List (String × α)} {k : String}
    (h : k ∉ l.map (·.1)) (m : SortedMap α) :
    (l.foldl (fun m e => m.insert e.1 e.2) m).get? k = m.get? k := by
  induction l generalizing m with
  | nil => rfl
  | cons e rest ih =>
    simp only [List.map_cons, List.mem_cons, not_or] at h
    rw [List.foldl_cons, ih h.2, get?_insert, if_neg h.1]

/-- The entries of a map made from a list of different keys are those of the list. -/
theorem mem_toList_ofList_iff {l : List (String × α)} (nodup : (l.map (·.1)).Nodup)
    {e : String × α} : e ∈ (ofList l).toList ↔ e ∈ l := by
  refine ⟨mem_of_mem_ofList, fun h => mem_toList_iff.2 ?_⟩
  have fold : ∀ (l : List (String × α)) (m : SortedMap α), (l.map (·.1)).Nodup → e ∈ l →
      (l.foldl (fun m e => m.insert e.1 e.2) m).get? e.1 = some e.2 := by
    intro l
    induction l with
    | nil => exact fun m _ h => (List.not_mem_nil h).elim
    | cons e' rest ih =>
      intro m nodup h
      obtain ⟨hfirst, hrest⟩ := List.nodup_cons.1 nodup
      rcases List.mem_cons.1 h with rfl | h
      · rw [List.foldl_cons, get?_foldl_insert_of_not_mem hfirst, get?_insert, if_pos rfl]
      · exact ih _ hrest h
  exact fold l empty nodup h

/-- In a map made from a list the last entry of a key counts. -/
theorem get?_ofList (l : List (String × α)) (k : String) :
    (ofList l).get? k = (l.filter (·.1 = k)).getLast?.map (·.2) := by
  have fold : ∀ (l : List (String × α)) (m : SortedMap α),
      (l.foldl (fun m e => m.insert e.1 e.2) m).get? k =
        ((l.filter (·.1 = k)).getLast?.map (·.2)).or (m.get? k) := by
    intro l
    induction l with
    | nil => exact fun m => rfl
    | cons e rest ih =>
      intro m
      rw [List.foldl_cons, ih, get?_insert]
      by_cases h : e.1 = k
      · rw [List.filter_cons_of_pos (by simpa using h), List.getLast?_cons, if_pos h.symm]
        cases (rest.filter (·.1 = k)).getLast? <;> rfl
      · rw [List.filter_cons_of_neg (by simpa using h), if_neg (Ne.symm h)]
  exact (fold l empty).trans (Option.or_none ..)

/-- Putting in an entry under a new key keeps the others. -/
theorem perm_insertEntry {l : List (String × α)} {k : String} (h : lookup k l = none) (x : α) :
    (insertEntry k x l).Perm ((k, x) :: l) := by
  induction l with
  | nil => exact .refl _
  | cons e rest ih =>
    obtain ⟨k', x'⟩ := e
    have hne : k ≠ k' := fun hk => by simp [lookup, hk] at h
    have hrest : lookup k rest = none := by simpa [lookup, hne] using h
    simp only [insertEntry, if_neg hne]
    split
    · exact .refl _
    · exact ((ih hrest).cons _).trans (.swap ..)

theorem mem_insertEntry_iff {l : List (String × α)} {k : String} (h : lookup k l = none) {x : α}
    {e : String × α} : e ∈ insertEntry k x l ↔ e = (k, x) ∨ e ∈ l :=
  (perm_insertEntry h x).mem_iff.trans List.mem_cons

/-- A value under a new key is one more entry. -/
theorem perm_toList_insertNew {m : SortedMap α} {k : String} (h : m.get? k = none) (x : α) :
    (m.insertNew k x).toList.Perm ((k, x) :: m.toList) := by
  have new : m.insertNew k x = m.insert k x := if_neg (by simp [contains, h])
  rw [new]
  exact perm_insertEntry h x

end TypeSchema.SortedMap
