import Mathlib.Data.Nat.Init
import TypeSchema.Proofs.Registry.History

/-!
# Registry — a claim takes the least slot that is free

The slots of a base are the base itself and its suffixed forms, in order.  A claim looks for one
that nobody holds.  The search has no bound of its own: it goes on from suffix to suffix (`Search`).
It ends because an identifier is held by one identity, so that only finitely many suffixes are
taken, and it ends at the least one that is free (`search_iff`).

Bases may look like suffixed forms of another base, and releases leave gaps between the suffixes
that are taken.  `claim_least_slot` is about any history.
-/

namespace TypeSchema

namespace Registry

/-- Somebody holds the identifier. -/
def Held (r : Registry) (id : String) : Prop := ∃ identity, r.lookup? identity = some id

/-- In a coherent registry the identifiers that are held are those that have an owner. -/
theorem Coherent.held_iff {r : Registry} (h : r.Coherent) {id : String} :
    r.Held id ↔ r.owners.contains id := by
  simp only [Held, h _ id, SortedMap.contains_iff]

/-! ### The search -/

/-- The search for a suffixed identifier that an identity may take, from the `n`-th on and without
a bound.  One that is free, or the identity's own, ends it; after one of somebody else comes the
next. -/
inductive Search (owners : SortedMap String) (base identity : String) : Nat → String → Prop where
  | found {n : Nat} (available : ∀ owner, owners.get? (suffixed base n) = some owner →
      owner = identity) : Search owners base identity n (suffixed base n)
  | next {n : Nat} {id owner : String} (taken : owners.get? (suffixed base n) = some owner)
      (other : owner ≠ identity) (more : Search owners base identity (n + 1) id) :
      Search owners base identity n id

namespace Search

variable {owners : SortedMap String} {base identity : String}

/-- A search has one outcome. -/
theorem unique {n : Nat} {id id' : String} (h : Search owners base identity n id)
    (h' : Search owners base identity n id') : id = id' := by
  induction h with
  | found available =>
    cases h' with
    | found _ => rfl
    | next taken other _ => exact absurd (available _ taken) other
  | next taken other _ ih =>
    cases h' with
    | found available => exact absurd (available _ taken) other
    | next _ _ more => exact ih more

/-- The search passes what others own, and ends at what is free. -/
theorem of_taken {k n : Nat} (hnk : n ≤ k) (free : owners.get? (suffixed base k) = none)
    (taken : ∀ i, n ≤ i → i < k →
      ∃ owner, owners.get? (suffixed base i) = some owner ∧ owner ≠ identity) :
    Search owners base identity n (suffixed base k) := by
  induction hnk using Nat.decreasingInduction with
  | self => exact .found fun owner h => by rw [free] at h; cases h
  | of_succ n hlt ih =>
    obtain ⟨owner, owned, other⟩ := taken n (Nat.le_refl n) hlt
    exact .next owned other (ih fun i hi => taken i (Nat.le_of_succ_le hi))

end Search

/-- **The search ends at the least suffix that nobody holds**, for an identity that holds
nothing. -/
theorem search_iff {r : Registry} (h : r.Coherent) {identity : String}
    (new : r.lookup? identity = none) (base : String) :
    ∃ n, 1 ≤ n ∧ firstFree r.owners base r.owners.size 1 = suffixed base n ∧
      ¬ r.Held (suffixed base n) ∧ (∀ m, 1 ≤ m → m < n → r.Held (suffixed base m)) ∧
      ∀ id, Search r.owners base identity 1 id ↔ id = suffixed base n := by
  obtain ⟨n, hn, found, free, taken⟩ := firstFree_spec r.owners base
  have ends : Search r.owners base identity 1 (suffixed base n) := by
    refine .of_taken hn (by simpa [SortedMap.contains] using free) fun i hi hlt => ?_
    obtain ⟨owner, owned⟩ := SortedMap.contains_iff.1 (taken i hi hlt)
    -- the identity itself owns nothing
    refine ⟨owner, owned, ?_⟩
    rintro rfl
    rw [(h owner _).2 owned] at new
    cases new
  exact ⟨n, hn, found, fun held => free (h.held_iff.1 held),
    fun m hm hlt => h.held_iff.2 (taken m hm hlt),
    fun id => ⟨fun search => search.unique ends, fun e => e ▸ ends⟩⟩

/-! ### Claims -/

/-- What a claim of a new identity leaves: the identity holds its identifier and is the last
claimant of the base, and nothing else is changed. -/
structure Enrolled (r : Registry) (identity base id : String) (r' : Registry) : Prop where
  holds : r'.lookup? identity = some id
  last : r'.claimantsOf base = r.claimantsOf base ++ [identity]
  others : ∀ other, other ≠ identity → r'.lookup? other = r.lookup? other
  otherBases : ∀ other, other ≠ base → r'.claimants.get? other = r.claimants.get? other

theorem enrolled_hold (r : Registry) (identity base id : String) :
    r.Enrolled identity base id (r.hold identity base id) where
  holds := by rw [lookup?_hold, if_pos rfl]
  last := by simp [claimantsOf, hold]
  others other ne := by rw [lookup?_hold, if_neg ne]
  otherBases other ne := by simp [hold, ne]

end Registry

/-- **A claim takes the least slot that is free**, after any history.  An identity that holds an
identifier keeps it, and nothing changes.  A new one gets the base if nobody holds it, with no
report, and else the suffixed base with the least number that nobody holds, which is where the
search ends, with one report.  It then holds the identifier and is the last claimant of the base;
whatever the others hold and claimed stays. -/
theorem claim_least_slot {history : List Request} {w : Workspace}
    (h : Workspace.afterAll {} history = w) (identity base : String) :
    (∀ id, w.registry.lookup? identity = some id →
      w.registry.claim identity base = (id, w.registry, [])) ∧
    (w.registry.lookup? identity = none → ∃ id r' events,
      w.registry.claim identity base = (id, r', events) ∧
      (¬ w.registry.Held base → id = base ∧ events = []) ∧
      (w.registry.Held base →
        (∃ n, 1 ≤ n ∧ id = Registry.suffixed base n ∧ ¬ w.registry.Held id ∧
          ∀ m, 1 ≤ m → m < n → w.registry.Held (Registry.suffixed base m)) ∧
        (∀ id', Registry.Search w.registry.owners base identity 1 id' ↔ id' = id) ∧
        ∃ owner, w.registry.lookup? owner = some base ∧
          events = [Registry.collisionEvent base identity id owner] ∧
          events.map (·.code) = [.idCollision]) ∧
      w.registry.Enrolled identity base id r') := by
  have coherent : w.registry.Coherent := (h ▸ Workspace.reachable_afterAll .empty history).coherent
  generalize w.registry = r at coherent
  refine ⟨fun id holds => by simp only [Registry.claim, holds], fun new => ?_⟩
  cases owned : r.owners.get? base with
  | none =>
    have free : ¬ r.Held base := fun held => by
      obtain ⟨owner, holds⟩ := SortedMap.contains_iff.1 (coherent.held_iff.1 held)
      rw [owned] at holds
      cases holds
    exact ⟨base, _, [], by simp only [Registry.claim, new, owned], fun _ => ⟨rfl, rfl⟩,
      fun held => absurd held free, r.enrolled_hold identity base base⟩
  | some owner =>
    have holds : r.lookup? owner = some base := (coherent owner base).2 owned
    obtain ⟨n, hn, found, free, taken, search⟩ := Registry.search_iff coherent new base
    refine ⟨Registry.suffixed base n, _,
      [Registry.collisionEvent base identity (Registry.suffixed base n) owner],
      by simp only [Registry.claim, new, owned, found],
      fun unheld => absurd ⟨owner, holds⟩ unheld, fun _ => ⟨⟨n, hn, rfl, free, taken⟩, search, ?_⟩,
      r.enrolled_hold identity base _⟩
    exact ⟨owner, holds, rfl, rfl⟩

/-- The second suffix is taken by another base that looks like it, and the first was released: it is
found for the next claim, and the one after that passes both. -/
theorem claim_least_slot_gap :
    ∃ w, Workspace.afterAll {} [.claim "a.Widget" "Widget", .claim "b.Widget" "Widget",
        .claim "x" "Widget_dup2", .deregister "b.Widget", .claim "d.Widget" "Widget"] = w ∧
      w.registry.lookup? "d.Widget" = some "Widget_dup1" ∧
      w.registry.lookup? "e.Widget" = none ∧
      ∃ id r' events, w.registry.claim "e.Widget" "Widget" = (id, r', events) ∧
        id = "Widget_dup3" ∧ events.map (·.code) = [.idCollision] ∧
        Registry.Search w.registry.owners "Widget" "e.Widget" 1 "Widget_dup3" ∧
        r'.claimantsOf "Widget" = ["a.Widget", "d.Widget", "e.Widget"] := by
  refine ⟨_, rfl, by decide +kernel, by decide +kernel, ?_⟩
  obtain ⟨id, r', events, claimed, -, suffix, enrolled⟩ :=
    (@claim_least_slot [.claim "a.Widget" "Widget", .claim "b.Widget" "Widget",
      .claim "x" "Widget_dup2", .deregister "b.Widget", .claim "d.Widget" "Widget"] _ rfl
      "e.Widget" "Widget").2 (by decide +kernel)
  have given := congrArg Prod.fst claimed
  obtain ⟨-, search, owner, -, -, reported⟩ := suffix ⟨"a.Widget", by decide +kernel⟩
  have third : id = "Widget_dup3" := given.symm.trans (by decide +kernel)
  refine ⟨id, r', events, claimed, third, reported, (search _).2 third.symm, ?_⟩
  rw [enrolled.last]
  decide +kernel

end TypeSchema
