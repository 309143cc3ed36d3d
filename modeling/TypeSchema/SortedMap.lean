/-!
# Maps with text keys, in key order

A `SortedMap α` is a list of entries whose keys strictly increase, so a map has one
representation and reading it out gives its entries in lexical order of the keys (the order of
code points, which is also the order of the bytes of their encoding).

`get?` is the view: `get?_insert`, `get?_insertNew`, `get?_erase` and `get?_empty` say what each
operation does to it.
-/

namespace TypeSchema

/-- Entries in strictly increasing order of their keys. -/
structure SortedMap (α : Type) where
  entries : List (String × α)
  sorted : entries.Pairwise (fun a b => a.1 < b.1)

namespace SortedMap

variable {α β : Type}

/-! ### Operations on entry lists -/

/-- The value under `k` in an entry list: that of the first entry with this key. -/
def lookup (k : String) : List (String × α) → Option α
  | [] => none
  | (k', x) :: rest => if k = k' then some x else lookup k rest

/-- Puts `x` under `k`, before the first larger key; an entry with this key is replaced. -/
def insertEntry (k : String) (x : α) : List (String × α) → List (String × α)
  | [] => [(k, x)]
  | (k', x') :: rest =>
    if k < k' then (k, x) :: (k', x') :: rest
    else if k = k' then (k, x) :: rest
    else (k', x') :: insertEntry k x rest

theorem mem_insertEntry {k : String} {x : α} {e : String × α} {l : List (String × α)}
    (h : e ∈ insertEntry k x l) : e = (k, x) ∨ e ∈ l := by
  induction l with
  | nil => simpa [insertEntry] using h
  | cons e' rest ih =>
    obtain ⟨k', x'⟩ := e'
    simp only [insertEntry] at h
    split at h
    · simpa using h
    · split at h
      · rcases List.mem_cons.1 h with h | h
        · exact Or.inl h
        · exact Or.inr (List.mem_cons_of_mem _ h)
      · rcases List.mem_cons.1 h with h | h
        · exact Or.inr (h ▸ List.mem_cons_self)
        · exact (ih h).imp id (List.mem_cons_of_mem _)

theorem sorted_insertEntry (k : String) (x : α) {l : List (String × α)}
    (h : l.Pairwise (fun a b => a.1 < b.1)) :
    (insertEntry k x l).Pairwise (fun a b => a.1 < b.1) := by
  induction l with
  | nil => simp [insertEntry]
  | cons e' rest ih =>
    obtain ⟨k', x'⟩ := e'
    obtain ⟨hk, hr⟩ := List.pairwise_cons.1 h
    simp only [insertEntry]
    split
    · next hlt =>
      refine List.pairwise_cons.2 ⟨fun e he => ?_, h⟩
      rcases List.mem_cons.1 he with rfl | he
      · exact hlt
      · exact String.lt_trans hlt (hk e he)
    · split
      · next _ heq => exact List.pairwise_cons.2 ⟨fun e he => heq ▸ hk e he, hr⟩
      · next hnlt hne =>
        refine List.pairwise_cons.2 ⟨fun e he => ?_, ih hr⟩
        rcases mem_insertEntry he with rfl | he
        · rcases String.le_total k k' with hle | hle
          · rcases Decidable.em (k' < k) with hlt | hlt
            · exact hlt
            · exact absurd (String.le_antisymm hle (String.not_lt.1 hnlt)) hne
          · rcases Decidable.em (k' < k) with hlt | hlt
            · exact hlt
            · exact absurd (String.le_antisymm (String.not_lt.1 hlt) hle) hne
        · exact hk e he

theorem lookup_insertEntry (k : String) (x : α) (k₂ : String) (l : List (String × α)) :
    lookup k₂ (insertEntry k x l) = if k₂ = k then some x else lookup k₂ l := by
  induction l with
  | nil => simp [insertEntry, lookup]
  | cons e' rest ih =>
    obtain ⟨k', x'⟩ := e'
    simp only [insertEntry]
    split
    · simp [lookup]
    · split
      · next _ heq => subst heq; by_cases h : k₂ = k <;> simp [lookup, h]
      · next _ hne =>
        simp only [lookup, ih]
        by_cases h : k₂ = k'
        · subst h; simp [Ne.symm hne]
        · simp [h]

theorem lookup_filter_ne (k k₂ : String) (l : List (String × α)) :
    lookup k₂ (l.filter (fun e => e.1 ≠ k)) = if k₂ = k then none else lookup k₂ l := by
  induction l with
  | nil => simp [lookup]
  | cons e rest ih =>
    obtain ⟨k', x'⟩ := e
    by_cases h : k' = k
    · subst h
      by_cases h₂ : k₂ = k' <;> simp_all [lookup]
    · by_cases h₂ : k₂ = k'
      · subst h₂; simp [lookup, h]
      · by_cases h₃ : k₂ = k <;> simp_all [lookup]

/-! ### Maps -/

/-- The map without entries. -/
def empty : SortedMap α := ⟨[], List.Pairwise.nil⟩

instance : EmptyCollection (SortedMap α) := ⟨empty⟩
instance : Inhabited (SortedMap α) := ⟨empty⟩

/-- The value under a key. -/
def get? (m : SortedMap α) (k : String) : Option α := lookup k m.entries

/-- Whether a key has a value. -/
def contains (m : SortedMap α) (k : String) : Bool := (m.get? k).isSome

/-- Sets the value under a key. -/
def insert (m : SortedMap α) (k : String) (x : α) : SortedMap α :=
  ⟨insertEntry k x m.entries, sorted_insertEntry k x m.sorted⟩

/-- Sets the value under a key that has none, and keeps a value that is there. -/
def insertNew (m : SortedMap α) (k : String) (x : α) : SortedMap α :=
  if m.contains k then m else m.insert k x

/-- Removes a key and its value. -/
def erase (m : SortedMap α) (k : String) : SortedMap α :=
  ⟨m.entries.filter (fun e => e.1 ≠ k), m.sorted.filter _⟩

/-- The entries, in order of their keys. -/
def toList (m : SortedMap α) : List (String × α) := m.entries

/-- The keys, in order. -/
def keys (m : SortedMap α) : List String := m.entries.map (·.1)

/-- The number of entries. -/
def size (m : SortedMap α) : Nat := m.entries.length

/-- Whether there is no entry. -/
def isEmpty (m : SortedMap α) : Bool := m.entries.isEmpty

/-- The map of a list of entries; a later entry replaces an earlier one with its key. -/
def ofList (l : List (String × α)) : SortedMap α :=
  l.foldl (fun m e => m.insert e.1 e.2) empty

/-- Changes the values and keeps the keys. -/
def mapValues (f : α → β) (m : SortedMap α) : SortedMap β :=
  ⟨m.entries.map (fun e => (e.1, f e.2)), List.pairwise_map.2 m.sorted⟩

/-- The entry with the least key, and the map without it. -/
def popFirst? (m : SortedMap α) : Option ((String × α) × SortedMap α) :=
  match m with
  | ⟨[], _⟩ => none
  | ⟨e :: rest, h⟩ => some (e, ⟨rest, (List.pairwise_cons.1 h).2⟩)

/-! ### The view of each operation -/

@[simp] theorem get?_empty (k : String) : (empty : SortedMap α).get? k = none := rfl

@[simp] theorem get?_insert (m : SortedMap α) (k : String) (x : α) (k₂ : String) :
    (m.insert k x).get? k₂ = if k₂ = k then some x else m.get? k₂ :=
  lookup_insertEntry k x k₂ m.entries

theorem get?_insertNew (m : SortedMap α) (k : String) (x : α) (k₂ : String) :
    (m.insertNew k x).get? k₂ = if k₂ = k then some ((m.get? k).getD x) else m.get? k₂ := by
  unfold insertNew contains
  cases h : m.get? k with
  | none => by_cases hk : k₂ = k <;> simp [hk]
  | some y => by_cases hk : k₂ = k <;> simp [hk, h]

@[simp] theorem get?_erase (m : SortedMap α) (k k₂ : String) :
    (m.erase k).get? k₂ = if k₂ = k then none else m.get? k₂ :=
  lookup_filter_ne k k₂ m.entries

theorem size_popFirst? {m m' : SortedMap α} {e : String × α} (h : m.popFirst? = some (e, m')) :
    m'.size < m.size := by
  obtain ⟨l, hl⟩ := m
  cases l with
  | nil => simp [popFirst?] at h
  | cons e' rest =>
    simp only [popFirst?, Option.some.injEq, Prod.mk.injEq] at h
    rw [← h.2]
    simp [size]

end SortedMap

end TypeSchema
