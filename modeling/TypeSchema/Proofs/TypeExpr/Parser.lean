import TypeSchema.TypeExpr.Parser

/-!
# Type expressions — what is read as a named type

The name of a type consists of characters of names, of one at least, and a text that is read as a
type with generic arguments has an opening bracket (`parse_named`).
-/

namespace TypeSchema.TypeExpr

theorem mem_of_eat? {c : Char} {cs rest : List Char} (h : eat? c cs = some rest) : c ∈ cs := by
  unfold eat? at h
  split at h
  · next d tail left =>
    split at h
    · next same =>
      exact same ▸ (List.dropWhile_sublist _).subset (left ▸ List.mem_cons_self : d ∈ skipBlank cs)
    · cases h
  · cases h

theorem name?_ok {cs rest : List Char} {name : String} (h : name? cs = .ok (name, rest)) :
    name.toList ≠ [] ∧ (∀ c ∈ name.toList, isNameChar c) ∧ rest ⊆ cs := by
  simp only [name?] at h
  split at h
  · cases h
  · next nonempty =>
    cases h
    rw [String.toList_ofList]
    refine ⟨nonempty, fun c hc => List.all_eq_true.1 List.all_takeWhile c hc, ?_⟩
    exact ((List.dropWhile_sublist _).trans (List.dropWhile_sublist _)).subset

/-- Suffixes that are read make no named type. -/
theorem suffixes?_ok {fuel : Nat} {e r : TypeExpr} {cs rest : List Char}
    (h : suffixes? fuel e cs = .ok (r, rest)) :
    r = e ∨ (∃ inner, r = .nullable inner) ∨ ∃ element, r = .array element := by
  induction fuel generalizing e cs with
  | zero => cases h; exact .inl rfl
  | succ fuel ih =>
    rw [suffixes?] at h
    split at h
    · rcases ih h with rfl | wrapped
      · exact .inr (.inl ⟨_, rfl⟩)
      · exact .inr wrapped
    · split at h
      · cases h; exact .inl rfl
      · split at h
        · rcases ih h with rfl | wrapped
          · exact .inr (.inr ⟨_, rfl⟩)
          · exact .inr wrapped
        · cases h

theorem suffixes?_named {fuel : Nat} {e : TypeExpr} {cs rest : List Char} {name : String}
    {args : List TypeExpr} (h : suffixes? fuel e cs = .ok (.named name args, rest)) :
    e = .named name args := by
  rcases suffixes?_ok h with same | ⟨_, wrapped⟩ | ⟨_, wrapped⟩
  · exact same.symm
  · cases wrapped
  · cases wrapped

/-- A name that is parsed is not empty and has name characters. -/
theorem expr?_named {fuel : Nat} {cs rest : List Char} {name : String} {args : List TypeExpr}
    (h : expr? fuel cs = .ok (.named name args, rest)) :
    name.toList ≠ [] ∧ (∀ c ∈ name.toList, isNameChar c) ∧ (args ≠ [] → '<' ∈ cs) := by
  cases fuel with
  | zero => cases h
  | succ fuel =>
    rw [expr?] at h
    split at h
    · cases h
    · next read =>
      obtain ⟨nonempty, chars, sub⟩ := name?_ok read
      split at h
      · obtain ⟨rfl, rfl⟩ := TypeExpr.named.inj (suffixes?_named h)
        exact ⟨nonempty, chars, fun h => (h rfl).elim⟩
      · next opened =>
        split at h
        · cases h
        · obtain ⟨rfl, rfl⟩ := TypeExpr.named.inj (suffixes?_named h)
          exact ⟨nonempty, chars, fun _ => sub (mem_of_eat? opened)⟩

/-- **What is read as a named type** has a name, and a bracket if it has arguments. -/
theorem parse_named {src name : String} {args : List TypeExpr}
    (h : parse src = .ok (.named name args)) :
    name.toList ≠ [] ∧ (∀ c ∈ name.toList, isNameChar c) ∧ (args ≠ [] → '<' ∈ src.toList) := by
  rw [parse] at h
  split at h
  · cases h
  · next read =>
    split at h
    · cases h
      exact expr?_named read
    · cases h

end TypeSchema.TypeExpr
