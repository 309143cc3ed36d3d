import Mathlib.Data.List.Nodup
import Mathlib.Data.Prod.Basic
import TypeSchema.Generation.Document
import TypeSchema.Proofs.Outcome
import TypeSchema.Proofs.Registry

/-!
# Registry — what every history keeps

A registry has three maps: the assignment of each identity, the owner of each identifier, and the
claimants of each base.  They agree (`Consistent`): assignments and owners are inverse to each
other, an identifier is its base or a suffixed form of it, and an identity is listed once, under the
base of its assignment.  So the entries list what is assigned, each pair once
(`Consistent.entries_perm`).

A history is a sequence of requests: claims, assignments, which may fail, and releases.  Whatever
came before, the maps agree, an identity keeps its identifier until it is released itself, and an
assignment that fails changes nothing (`history_consistent`).
-/

namespace TypeSchema

namespace Registry

/-- The claimants of a base. -/
def claimantsOf (r : Registry) (base : String) : List String := (r.claimants.get? base).getD []

/-- An identifier that may be made from a base. -/
def Forms (base id : String) : Prop := id = base ∨ ∃ n, 1 ≤ n ∧ id = suffixed base n

/-- The three maps agree. -/
structure Consistent (r : Registry) : Prop where
  coherent : r.Coherent
  formed : ∀ identity a, r.byType.get? identity = some a → Forms a.base a.id
  listed : ∀ identity base, (r.claimantsOf base).count identity =
    if (r.byType.get? identity).map (·.base) = some base then 1 else 0
  nonempty : ∀ base identities, r.claimants.get? base = some identities → identities ≠ []

/-! ### Requests -/

/-- A claim of an identity that holds nothing takes a free identifier made from the base. -/
theorem claim_of_new {r : Registry} {identity : String} (h : r.lookup? identity = none)
    (base : String) : ∃ id events, r.claim identity base = (id, r.hold identity base id, events) ∧
      r.owners.get? id = none ∧ Forms base id := by
  simp only [claim, h]
  cases ho : r.owners.get? base with
  | none => exact ⟨base, [], rfl, ho, .inl rfl⟩
  | some owner =>
    obtain ⟨k, hk, heq, hfree, -⟩ := firstFree_spec r.owners base
    refine ⟨_, _, rfl, ?_, .inr ⟨k, hk, heq⟩⟩
    rw [heq]
    simpa [SortedMap.contains] using hfree

/-- The claimants of each base after a release. -/
theorem claimantsOf_deregister {r : Registry} {identity : String} {a : Assignment}
    (h : r.byType.get? identity = some a) (base : String) :
    (r.deregister identity).2.claimantsOf base =
      if base = a.base then (r.claimantsOf a.base).filter (· ≠ identity)
      else r.claimantsOf base := by
  simp only [claimantsOf, deregister, h]
  by_cases hb : base = a.base
  · subst hb
    split
    · next he => rw [List.isEmpty_iff.1 he]; simp
    · simp
  · split <;> simp [hb]

namespace Consistent

variable {r : Registry}

theorem start : empty.Consistent := by
  refine ⟨coherent_empty, fun identity a h => ?_, fun identity base => ?_, fun base ids h => ?_⟩
  · simp [empty, EmptyCollection.emptyCollection] at h
  · simp [claimantsOf, empty, EmptyCollection.emptyCollection]
  · simp [empty, EmptyCollection.emptyCollection] at h

theorem hold (h : r.Consistent) {identity base id : String} (hn : r.lookup? identity = none)
    (free : r.owners.get? id = none) (forms : Forms base id) :
    (r.hold identity base id).Consistent := by
  have hnew : r.byType.get? identity = none := by simpa [lookup?] using hn
  refine ⟨h.coherent.hold hn free base, fun identity₂ a ha => ?_, fun identity₂ base₂ => ?_,
    fun base₂ ids hids => ?_⟩
  · simp only [Registry.hold, SortedMap.get?_insert] at ha
    split at ha
    · cases ha; exact forms
    · exact h.formed identity₂ a ha
  · have hold₂ := h.listed identity₂ base₂
    simp only [claimantsOf, Registry.hold, SortedMap.get?_insert] at hold₂ ⊢
    by_cases hb : base₂ = base <;> by_cases hi : identity₂ = identity
    · -- the new claimant at the end of its list
      subst hb hi
      rw [hnew] at hold₂
      simpa using hold₂
    · subst hb
      simpa [hi, Ne.symm hi] using hold₂
    · subst hi
      rw [hnew] at hold₂
      simpa [hb, Ne.symm hb] using hold₂
    · simpa [hb, hi] using hold₂
  · simp only [Registry.hold, SortedMap.get?_insert] at hids
    split at hids
    · cases hids; simp
    · exact h.nonempty base₂ ids hids

/-- A claim keeps the three maps consistent. -/
theorem claim (h : r.Consistent) (identity base : String) :
    (r.claim identity base).2.1.Consistent := by
  cases hl : r.lookup? identity with
  | some id => simpa only [Registry.claim, hl] using h
  | none =>
    obtain ⟨id, events, heq, free, forms⟩ := claim_of_new hl base
    rw [heq]
    exact h.hold hl free forms

/-- Deregistering takes an identity out of all three maps. -/
theorem deregister (h : r.Consistent) (identity : String) :
    (r.deregister identity).2.Consistent := by
  cases ha : r.byType.get? identity with
  | none => simpa only [Registry.deregister, ha] using h
  | some a =>
    have hbyType : ∀ i, (r.deregister identity).2.byType.get? i =
        if i = identity then none else r.byType.get? i := fun i => by
      simp [Registry.deregister, ha]
    refine ⟨h.coherent.deregister identity, fun i b hb => ?_, fun i base => ?_,
      fun base ids hids => ?_⟩
    · rw [hbyType] at hb
      split at hb
      · cases hb
      · exact h.formed i b hb
    · have hlisted := h.listed i base
      rw [claimantsOf_deregister ha, hbyType]
      by_cases hi : i = identity
      · subst hi
        rw [ha] at hlisted
        by_cases hbase : base = a.base
        · simp [hbase, List.count_eq_zero]
        · simpa [hbase, Ne.symm hbase] using hlisted
      · by_cases hbase : base = a.base
        · subst hbase
          rw [if_pos rfl, List.count_filter (by simpa using hi), hlisted, if_neg hi]
        · rw [if_neg hbase, hlisted, if_neg hi]
    · simp only [Registry.deregister, ha] at hids
      split at hids
      · next he =>
        rw [SortedMap.get?_erase] at hids
        split at hids
        · cases hids
        · exact h.nonempty base ids hids
      · next he =>
        rw [SortedMap.get?_insert] at hids
        split at hids
        · cases hids; simpa using he
        · exact h.nonempty base ids hids

/-! ### Entries -/

/-- An identity is among the claimants of a base iff it holds an identifier made from it. -/
theorem mem_claimantsOf_iff (h : r.Consistent) {identity base : String} :
    identity ∈ r.claimantsOf base ↔ (r.byType.get? identity).map (·.base) = some base := by
  rw [← List.count_pos_iff, h.listed]
  split <;> simp_all

theorem nodup_claimantsOf (h : r.Consistent) (base : String) : (r.claimantsOf base).Nodup := by
  refine List.nodup_iff_count_le_one.2 fun identity => ?_
  rw [h.listed]
  split <;> omega

/-- The entries, taken together, are the identities with the identifiers that they hold. -/
theorem mem_entries_iff (h : r.Consistent) {e : String × String} :
    e ∈ r.entries.flatMap (·.claimants) ↔ r.lookup? e.1 = some e.2 := by
  obtain ⟨identity, id⟩ := e
  simp only [entries, List.mem_flatMap, List.mem_map, exists_exists_and_eq_and,
    List.mem_filterMap, Option.map_eq_some_iff, Prod.mk.injEq]
  constructor
  · rintro ⟨_, -, i, -, id', hid, rfl, rfl⟩
    exact hid
  · intro hid
    obtain ⟨a, ha, rfl⟩ : ∃ a, r.byType.get? identity = some a ∧ a.id = id := by
      simpa [lookup?] using hid
    have hmem : identity ∈ r.claimantsOf a.base := h.mem_claimantsOf_iff.2 (by simp [ha])
    cases hc : r.claimants.get? a.base with
    | none => simp [claimantsOf, hc] at hmem
    | some ids =>
      refine ⟨(a.base, ids), SortedMap.mem_toList_iff.2 hc, identity, ?_, a.id, hid, rfl, rfl⟩
      simpa [claimantsOf, hc] using hmem

theorem nodup_entries (h : r.Consistent) : (r.entries.flatMap (·.claimants)).Nodup := by
  have claimants : ∀ e ∈ r.claimants.toList, r.claimantsOf e.1 = e.2 := fun e he => by
    rw [claimantsOf, SortedMap.mem_toList_iff.1 he, Option.getD_some]
  rw [entries, List.flatMap_map, List.nodup_flatMap]
  refine ⟨fun e he => ?_, ?_⟩
  · refine List.Nodup.filterMap (fun i i' p hi hi' => ?_) (claimants e he ▸ h.nodup_claimantsOf e.1)
    simp only [Option.mem_def, Option.map_eq_some_iff] at hi hi'
    obtain ⟨_, -, rfl⟩ := hi
    obtain ⟨_, -, heq⟩ := hi'
    exact (congrArg Prod.fst heq).symm
  · -- an identity under two bases would have two assignments
    refine List.Pairwise.imp_of_mem (fun {e e'} he he' hlt => ?_) r.claimants.sorted
    refine List.disjoint_left.2 fun p hp hp' => ?_
    have base : ∀ e ∈ r.claimants.toList,
        p ∈ e.2.filterMap (fun i => (r.lookup? i).map (i, ·)) →
          (r.byType.get? p.1).map (·.base) = some e.1 := by
      intro e he hp
      obtain ⟨i, hi, hmap⟩ := List.mem_filterMap.1 hp
      obtain ⟨_, -, rfl⟩ := Option.map_eq_some_iff.1 hmap
      exact h.mem_claimantsOf_iff.1 (claimants e he ▸ hi)
    have heq : e.1 = e'.1 := Option.some.inj ((base e he hp).symm.trans (base e' he' hp'))
    exact String.lt_irrefl _ (heq ▸ hlt)

/-- **The entries list what is assigned, each pair once.** -/
theorem entries_perm (h : r.Consistent) :
    (r.entries.flatMap (·.claimants)).Perm (r.assigned.toList.map Prod.swap) := by
  have nodup := r.assigned.nodup_toList.map Prod.swap_injective
  refine (List.perm_ext_iff_of_nodup h.nodup_entries nodup).2 fun e => ?_
  obtain ⟨identity, id⟩ := e
  rw [h.mem_entries_iff, h.coherent, ← SortedMap.mem_toList_iff]
  simp [assigned]

end Consistent

/-- **The maps agree in every registry that can be reached.** -/
theorem Reachable.consistent {r : Registry} (h : r.Reachable) : r.Consistent := by
  induction h with
  | empty => exact .start
  | claim _ identity base ih => exact ih.claim identity base
  | assign _ assigned ih =>
    obtain ⟨d, -, ⟨-, rfl, -⟩ | ⟨base, -, hclaim⟩⟩ := assign_cases assigned
    · exact ih
    · have hc := ih.claim d.identity base
      rwa [hclaim] at hc
  | deregister _ identity ih => exact ih.deregister identity

/-- A release takes the identifier of one identity only. -/
theorem lookup?_deregister (r : Registry) {identity other : String} (h : other ≠ identity) :
    (r.deregister identity).2.lookup? other = r.lookup? other := by
  unfold deregister
  cases r.byType.get? identity with
  | none => rfl
  | some a => simp [lookup?, h]

end Registry

/-! ### Histories -/

/-- What a registry is asked for. -/
inductive Request where
  | claim (identity base : String)
  | assign (g : TypeGraph) (ty : TypeId)
  | deregister (identity : String)

/-- Serves a request; an assignment may fail. -/
def Request.serve : Request → Work Unit
  | claim identity base => modify fun w =>
    let (_, registry, events) := w.registry.claim identity base
    { w with registry, events := w.events ++ events }
  | assign g ty => discard (assignId g ty)
  | deregister identity => modify fun w =>
    { w with registry := (w.registry.deregister identity).2 }

namespace Workspace

/-- The workspace after a request, also one that failed. -/
def after (w : Workspace) (q : Request) : Workspace :=
  match q.serve w with
  | .ok _ w' => w'
  | .error _ w' => w'

/-- The workspace after some requests, one after the other. -/
def afterAll (w : Workspace) (history : List Request) : Workspace := history.foldl after w

@[simp] theorem afterAll_nil (w : Workspace) : w.afterAll [] = w := rfl

@[simp] theorem afterAll_cons (w : Workspace) (q : Request) (rest : List Request) :
    w.afterAll (q :: rest) = (w.after q).afterAll rest := rfl

end Workspace

/-- Assigning an identifier, by what the registry makes of it. -/
theorem assignId_eq (g : TypeGraph) (ty : TypeId) (w : Workspace) :
    assignId g ty w = match w.registry.assign g ty with
      | .ok (id, r, events) => .ok id { w with registry := r, events := w.events ++ events }
      | .error e => .error e w := by
  unfold assignId
  rw [bind_of_ok (show (get : Work Workspace) w = .ok w w from rfl)]
  cases w.registry.assign g ty <;> rfl

namespace Workspace

/-- A request claims a base, releases an identity, or leaves the registry as it was. -/
theorem registry_after (w : Workspace) (q : Request) :
    (∃ identity base, (w.after q).registry = (w.registry.claim identity base).2.1) ∨
    (∃ identity, q = .deregister identity ∧
      (w.after q).registry = (w.registry.deregister identity).2) ∨
    (w.after q).registry = w.registry := by
  cases q with
  | claim identity base => exact .inl ⟨identity, base, rfl⟩
  | deregister identity => exact .inr (.inl ⟨identity, rfl, rfl⟩)
  | assign g ty =>
    have hserve : (Request.assign g ty).serve = assignId g ty >>= fun _ => pure () := rfl
    have heq := assignId_eq g ty w
    cases ha : w.registry.assign g ty with
    | error e =>
      rw [ha] at heq
      refine .inr (.inr ?_)
      simp only [after, hserve, bind_of_error heq]
    | ok p =>
      obtain ⟨id, r, events⟩ := p
      rw [ha] at heq
      have hafter : (w.after (.assign g ty)).registry = r := by
        simp only [after, hserve, bind_of_ok heq]
        rfl
      obtain ⟨d, -, ⟨-, rfl, -⟩ | ⟨base, -, hclaim⟩⟩ := Registry.assign_cases ha
      · exact .inr (.inr hafter)
      · exact .inl ⟨d.identity, base, by rw [hafter, hclaim]⟩

theorem reachable_after {w : Workspace} (h : w.registry.Reachable) (q : Request) :
    (w.after q).registry.Reachable := by
  rcases w.registry_after q with ⟨identity, base, hr⟩ | ⟨identity, -, hr⟩ | hr <;> rw [hr]
  · exact h.claim identity base
  · exact h.deregister identity
  · exact h

/-- A request keeps the identifiers of all but the identity that it releases. -/
theorem lookup?_after {w : Workspace} {q : Request} {identity id : String}
    (kept : q ≠ .deregister identity) (h : w.registry.lookup? identity = some id) :
    (w.after q).registry.lookup? identity = some id := by
  rcases w.registry_after q with ⟨other, base, hr⟩ | ⟨other, rfl, hr⟩ | hr <;> rw [hr]
  · exact Registry.claim_grows _ other base h
  · rwa [Registry.lookup?_deregister _ fun he => kept (by rw [he])]
  · exact h

theorem reachable_afterAll {w : Workspace} (h : w.registry.Reachable) (history : List Request) :
    (w.afterAll history).registry.Reachable := by
  induction history generalizing w with
  | nil => exact h
  | cons q rest ih => exact ih (reachable_after h q)

/-- An identifier lasts as long as its identity is not deregistered. -/
theorem lookup?_afterAll {w : Workspace} {history : List Request} {identity id : String}
    (kept : .deregister identity ∉ history) (h : w.registry.lookup? identity = some id) :
    (w.afterAll history).registry.lookup? identity = some id := by
  induction history generalizing w with
  | nil => exact h
  | cons q rest ih =>
    rw [List.mem_cons, not_or] at kept
    exact ih kept.2 (lookup?_after (Ne.symm kept.1) h)

end Workspace

/-- **The registry after any history**: its maps agree, so different identities hold different
identifiers and the entries list what is assigned; an identity keeps its identifier until it is
released; and an assignment that fails leaves everything as it was and reports nothing. -/
theorem history_consistent {history : List Request} {w : Workspace}
    (h : Workspace.afterAll {} history = w) :
    w.registry.Consistent ∧
    (∀ identity identity' id, w.registry.lookup? identity = some id →
      w.registry.lookup? identity' = some id → identity = identity') ∧
    (w.registry.entries.flatMap (·.claimants)).Perm (w.registry.assigned.toList.map Prod.swap) ∧
    (∀ later identity id, w.registry.lookup? identity = some id →
      .deregister identity ∉ later →
        (w.afterAll later).registry.lookup? identity = some id) ∧
    ∀ g ty e w', assignId g ty w = .error e w' → w' = w := by
  have reachable : w.registry.Reachable := h ▸ Workspace.reachable_afterAll .empty history
  have consistent := reachable.consistent
  refine ⟨consistent, fun _ _ _ => consistent.coherent.unique, consistent.entries_perm,
    fun later identity id hid kept => Workspace.lookup?_afterAll kept hid,
    fun g ty e w' herror => ?_⟩
  rw [assignId_eq] at herror
  cases ha : w.registry.assign g ty with
  | error e' => rw [ha] at herror; cases herror; rfl
  | ok p => rw [ha] at herror; cases herror

/-- A base that looks like a suffixed one is taken, a slot is released and given to another
identity, and a type that nobody knows gets nothing. -/
theorem history_consistent_reused :
    ∃ w, Workspace.afterAll {} [.claim "a.Widget" "Widget", .claim "x" "Widget_dup2",
        .claim "b.Widget" "Widget", .claim "c.Widget" "Widget", .deregister "b.Widget",
        .assign .empty ⟨7⟩, .claim "d.Widget" "Widget"] = w ∧
      w.registry.assigned.toList = [("Widget", "a.Widget"), ("Widget_dup1", "d.Widget"),
        ("Widget_dup2", "x"), ("Widget_dup3", "c.Widget")] ∧
      w.registry.entries = [
        ⟨"Widget", [("a.Widget", "Widget"), ("c.Widget", "Widget_dup3"),
          ("d.Widget", "Widget_dup1")]⟩,
        ⟨"Widget_dup2", [("x", "Widget_dup2")]⟩] ∧
      w.registry.Consistent ∧
      (w.afterAll [.deregister "a.Widget", .claim "e" "Widget"]).registry.lookup? "c.Widget" =
        some "Widget_dup3" := by
  refine ⟨_, rfl, by decide +kernel, by decide +kernel, (history_consistent rfl).1, ?_⟩
  exact (history_consistent rfl).2.2.2.1 _ _ _ (by decide +kernel) (by simp)

end TypeSchema
