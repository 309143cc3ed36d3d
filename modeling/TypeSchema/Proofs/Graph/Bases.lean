import Mathlib.Data.Nat.Find
import TypeSchema.Proofs.Graph.Founded

/-!
# Type graphs — the bases of identifiers

The base of a type's identifier is made from the bases of its generic arguments, so making it fails
where an argument, however deep, is not known, and never ends where the arguments nest without end
(`baseIdTo_error`).

A base settles at some number of levels if making it ends there, in a text or in an error.
`baseId` has enough levels: where it runs out of them, no number is enough
(`endless_of_baseId_endless`).  A type that settles late has an argument that settles late, too
(`exists_unsettled_argument`), and settles at fewer levels; so a chain of such arguments has no type
twice, and is no longer than the graph has types (`exists_chain`).
-/

namespace TypeSchema.TypeGraph

open Relation

variable {g : TypeGraph}

/-- A base cannot be made because of a type that is not known, or does not end. -/
theorem baseIdTo_error {levels : Nat} {ty : TypeId} {e : GenerationError}
    (h : g.baseIdTo levels ty = .error e) :
    (∃ arg, e = .unknownType arg ∧ ¬ g.knows arg ∧ ReflTransGen g.Takes ty arg) ∨
      ∃ arg, e = .endless arg := by
  induction levels generalizing ty with
  | zero => cases h; exact .inr ⟨ty, rfl⟩
  | succ levels ih =>
    simp only [baseIdTo] at h
    cases hd : g.describe? ty with
    | none =>
      simp only [hd] at h
      cases h
      exact .inl ⟨ty, rfl, not_knows_iff.2 hd, .refl⟩
    | some d =>
      simp only [hd] at h
      split at h
      · cases h
      · cases hm : d.genericArgs.mapM (g.baseIdTo levels) with
        | ok bases => simp only [hm] at h; cases h
        | error e' =>
          simp only [hm] at h
          cases h
          obtain ⟨arg, harg, he⟩ := exists_of_mapM_error hm
          rcases ih he with ⟨last, rfl, hunknown, hreach⟩ | hendless
          · exact .inl ⟨last, rfl, hunknown, hreach.head ⟨d, hd, harg⟩⟩
          · exact .inr hendless

/-! ### Enough levels -/

/-- The computation ran out of levels. -/
def Endless {α : Type} (x : Except GenerationError α) : Prop := ∃ ty, x = .error (.endless ty)

section Endless

variable {α β : Type} {f f' : α → Except GenerationError β}

/-- A list is endless if its first part is. -/
theorem endless_mapM_head {a : α} {rest : List α} (h : Endless (f a)) :
    Endless ((a :: rest).mapM f) := by
  obtain ⟨ty, he⟩ := h
  exact ⟨ty, by rw [List.mapM_cons, he]; rfl⟩

/-- After a first part that ends, a list is endless if its rest is. -/
theorem endless_mapM_cons_iff {a : α} {rest : List α} {b : β} (h : f a = .ok b) :
    Endless ((a :: rest).mapM f) ↔ Endless (rest.mapM f) := by
  rw [List.mapM_cons, h]
  cases hr : rest.mapM f with
  | ok bs => simp [Endless, bind, Except.bind, pure, Except.pure]
  | error e => simp [Endless, bind, Except.bind]

/-- What a function gives for a list that it does not run out of levels at, another gives that
agrees with it where it does not. -/
theorem mapM_eq_of_not_endless (agree : ∀ a, ¬ Endless (f a) → f' a = f a) {l : List α}
    (h : ¬ Endless (l.mapM f)) : l.mapM f' = l.mapM f := by
  induction l with
  | nil => rfl
  | cons a rest ih =>
    have ha : f' a = f a := agree a fun he => h (endless_mapM_head he)
    rw [List.mapM_cons, List.mapM_cons, ha]
    cases hf : f a with
    | error e => rfl
    | ok b => rw [ih fun he => h ((endless_mapM_cons_iff hf).2 he)]

/-- Where only the first of two functions runs out of levels on a list, it does at some entry. -/
theorem exists_endless_of_mapM (agree : ∀ a, ¬ Endless (f a) → f' a = f a) {l : List α}
    (h : Endless (l.mapM f)) (h' : ¬ Endless (l.mapM f')) :
    ∃ a ∈ l, Endless (f a) ∧ ¬ Endless (f' a) := by
  induction l with
  | nil => obtain ⟨ty, he⟩ := h; cases he
  | cons a rest ih =>
    have ha' : ¬ Endless (f' a) := fun he => h' (endless_mapM_head he)
    by_cases ha : Endless (f a)
    · exact ⟨a, List.mem_cons_self, ha, ha'⟩
    · cases hf : f a with
      | error e =>
        obtain ⟨ty, he⟩ := h
        rw [List.mapM_cons, hf] at he
        cases he
        exact absurd ⟨ty, hf⟩ ha
      | ok b =>
        have hf' : f' a = .ok b := by rw [agree a ha, hf]
        obtain ⟨a', hmem, hrest⟩ := ih ((endless_mapM_cons_iff hf).1 h)
          fun he => h' ((endless_mapM_cons_iff hf').2 he)
        exact ⟨a', List.mem_cons_of_mem _ hmem, hrest⟩

end Endless

/-- Making the base of a type ends at these levels. -/
def Settles (g : TypeGraph) (levels : Nat) (ty : TypeId) : Prop :=
  ¬ Endless (g.baseIdTo levels ty)

theorem not_settles_zero (ty : TypeId) : ¬ g.Settles 0 ty := fun h => h ⟨ty, rfl⟩

/-- Only known types can fail to settle. -/
theorem knows_of_not_settles {levels : Nat} {ty : TypeId} (h : ¬ g.Settles (levels + 1) ty) :
    g.knows ty := by
  by_contra unknown
  rw [not_knows_iff] at unknown
  exact h fun ⟨arg, he⟩ => by simp [baseIdTo, unknown] at he

/-- One more level does not change a base that has settled. -/
theorem baseIdTo_succ {levels : Nat} {ty : TypeId} (h : g.Settles levels ty) :
    g.baseIdTo (levels + 1) ty = g.baseIdTo levels ty := by
  induction levels generalizing ty with
  | zero => exact absurd h (not_settles_zero ty)
  | succ levels ih =>
    rw [baseIdTo, baseIdTo]
    cases hd : g.describe? ty with
    | none => rfl
    | some d =>
      dsimp only
      split
      · rfl
      · next hargs =>
        rw [mapM_eq_of_not_endless (fun arg ha => ih ha)]
        rintro ⟨arg, he⟩
        exact h ⟨arg, by simp only [baseIdTo, hd, hargs, he]; rfl⟩

theorem Settles.mono {levels levels' : Nat} {ty : TypeId} (h : g.Settles levels ty)
    (hle : levels ≤ levels') : g.baseIdTo levels' ty = g.baseIdTo levels ty := by
  induction hle with
  | refl => rfl
  | @step levels' _ ih => rw [baseIdTo_succ (by rw [Settles, ih]; exact h), ih]

/-- A type that settles late has a generic argument that settles late. -/
theorem exists_unsettled_argument {levels levels' : Nat} (hle : levels ≤ levels') {ty : TypeId}
    (h : ¬ g.Settles (levels + 1) ty) (h' : g.Settles (levels' + 1) ty) :
    ∃ arg, g.Takes ty arg ∧ ¬ g.Settles levels arg ∧ g.Settles levels' arg := by
  obtain ⟨d, hd⟩ := knows_iff_describe?.1 (knows_of_not_settles h)
  -- the arguments are looked at from left to right, and the first that is endless decides
  have args : ∀ n, Endless (g.baseIdTo (n + 1) ty) ↔
      d.genericArgs.isEmpty = false ∧ Endless (d.genericArgs.mapM (g.baseIdTo n)) := by
    intro n
    simp only [baseIdTo, hd]
    cases d.genericArgs.isEmpty with
    | true => simp [Endless]
    | false =>
      cases d.genericArgs.mapM (g.baseIdTo n) with
      | ok bases => simp [Endless, bind, Except.bind, pure, Except.pure]
      | error e => simp [Endless, bind, Except.bind]
  obtain ⟨hargs, hm⟩ := (args levels).1 (not_not.1 h)
  obtain ⟨arg, hmem, harg, harg'⟩ := exists_endless_of_mapM
    (fun arg (ha : g.Settles levels arg) => ha.mono hle) hm
    fun he => h' ((args levels').2 ⟨hargs, he⟩)
  exact ⟨arg, ⟨d, hd, hmem⟩, not_not.2 harg, harg'⟩

/-- A type that settles, but not at these levels, has as many different known types in its
arguments, itself included. -/
theorem exists_chain {levels : Nat} {levels' : Nat} {ty : TypeId} (h : ¬ g.Settles levels ty)
    (h' : g.Settles levels' ty) :
    ∃ chain : List TypeId, chain.Nodup ∧ chain.length = levels ∧
      ∀ c ∈ chain, g.knows c ∧ g.Settles levels' c := by
  induction levels generalizing levels' ty with
  | zero => exact ⟨[], List.nodup_nil, rfl, by simp⟩
  | succ levels ih =>
    -- the least number of levels at which the type settles
    obtain ⟨least, hleast, hbelow⟩ : ∃ n, g.Settles n ty ∧ ∀ m, m < n → ¬ g.Settles m ty := by
      classical
      have hex : ∃ n, g.Settles n ty := ⟨levels', h'⟩
      exact ⟨Nat.find hex, Nat.find_spec hex, fun m hm => Nat.find_min hex hm⟩
    have keep : ∀ {c n m}, g.Settles n c → n ≤ m → g.Settles m c := by
      intro c n m hc hnm
      rw [Settles, hc.mono hnm]
      exact hc
    have hle : least ≤ levels' := by
      by_contra hlt
      exact hbelow levels' (Nat.lt_of_not_le hlt) h'
    obtain ⟨n, rfl⟩ : ∃ n, least = n + 1 :=
      Nat.exists_eq_succ_of_ne_zero fun h0 => not_settles_zero ty (h0 ▸ hleast)
    have hlevels : levels ≤ n := by
      by_contra hlt
      exact h (keep hleast (by omega))
    obtain ⟨arg, -, harg, harg'⟩ := exists_unsettled_argument hlevels h hleast
    obtain ⟨chain, hnodup, hlength, hchain⟩ := ih harg harg'
    refine ⟨ty :: chain, List.nodup_cons.2 ⟨fun hmem => ?_, hnodup⟩, by simp [hlength], ?_⟩
    · exact hbelow n (Nat.lt_succ_self n) (hchain ty hmem).2
    · intro c hc
      rcases List.mem_cons.1 hc with rfl | hc
      · exact ⟨knows_of_not_settles h, h'⟩
      · exact ⟨(hchain c hc).1, keep (hchain c hc).2 (by omega)⟩

/-- **The levels of `baseId` are enough**: it runs out of them only where every number of levels is
too small. -/
theorem endless_of_baseId_endless {ty : TypeId} (h : Endless (g.baseId ty)) (levels : Nat) :
    Endless (g.baseIdTo levels ty) := by
  by_contra hsettles
  obtain ⟨chain, hnodup, hlength, hchain⟩ := exists_chain (not_not.2 h) hsettles
  have hle := length_le_size hnodup fun c hc => (hchain c hc).1
  omega

end TypeSchema.TypeGraph
