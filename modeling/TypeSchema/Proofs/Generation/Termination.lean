import Mathlib
import TypeSchema.Proofs.Generation.Ends

/-!
# Generation — when it ends

A wrapper for null is taken off before the guard is asked, so a cycle of nothing but wrappers is
never cut: from a type on such a cycle no number of levels is enough (`endless_of_cycle`).

Without such a cycle a generation ends.  Each level opens a type at the guard or takes off a
wrapper.  At most every type is open, and between two of them the wrappers are different from each
other, so the levels that are left suffice (`Room`) until a leaf, a reference or a placeholder is
reached (`succeeds_nodeFor`).

For a graph that the operations build both together say exactly when every generation ends:
iff no wrapper is reached from itself through wrappers alone (`terminates_iff_no_wrapper_cycle`).
-/

namespace TypeSchema

open Build Relation

/-- `ty` is the wrapper for null around `inner`. -/
def TypeGraph.Wraps (g : TypeGraph) (ty inner : TypeId) : Prop :=
  g.shape? ty = some (.nullable inner)

/-- What a type wraps is read off its description. -/
theorem TypeGraph.wraps_iff {g : TypeGraph} {ty inner : TypeId} :
    g.Wraps ty inner ↔ ∃ d, g.describe? ty = some d ∧ g.classify d.shape = .nullable inner := by
  simp [Wraps, shape?, classify_eq_nullable_iff]

/-- The recursion from `root` ends: for some number of levels it does not run out of them. -/
def Terminates (gen : Generator) (g : TypeGraph) (root : TypeId) (w : Workspace) : Prop :=
  ∃ levels, ∀ ty t, nodeFor gen g levels root none (w.begin gen) ≠ .error (.endless ty) t

/-! ### Cycles of wrappers -/

/-- **A cycle of wrappers needs more than any number of levels.** -/
theorem endless_of_cycle {gen : Generator} {g : TypeGraph} {ty : TypeId}
    (cycle : TransGen g.Wraps ty ty) (levels : Nat) (field? : Option Field) (t : Traversal) :
    ∃ ty' t', nodeFor gen g levels ty field? t = .error (.endless ty') t' := by
  induction levels generalizing ty with
  | zero => exact ⟨ty, t, rfl⟩
  | succ levels ih =>
    -- the next type of the cycle is on the cycle, too
    obtain ⟨inner, hw, hback⟩ : ∃ inner, g.Wraps ty inner ∧ ReflTransGen g.Wraps inner ty :=
      TransGen.head'_iff.1 cycle
    obtain ⟨ty', t', herr⟩ := @ih inner (TransGen.tail' hback hw)
    obtain ⟨d, hd, hc⟩ := TypeGraph.wraps_iff.1 hw
    refine ⟨ty', t', ?_⟩
    have hdescribe : describe g ty t = .ok d t := by simp only [describe, hd]; rfl
    have hstep : nodeFor gen g (levels + 1) ty field? t =
        (do
          let id ← nodeFor gen g levels inner field?
          let id ← annotate gen.patterns id d.name d.constraints
          applyNull gen.config.nullEncoding id true : Build NodeId) t := by
      simp only [nodeFor, nodeStep, bind_of_ok hdescribe, hc]
    rw [hstep, bind_of_error herr]

/-- A type that wraps itself, directly or not, does not terminate. -/
theorem not_terminates_of_cycle {gen : Generator} {g : TypeGraph} {root : TypeId} {w : Workspace}
    (cycle : TransGen g.Wraps root root) : ¬ Terminates gen g root w := by
  rintro ⟨levels, h⟩
  obtain ⟨ty, t, herr⟩ :
      ∃ ty t, nodeFor gen g levels root none (w.begin gen) = .error (.endless ty) t :=
    endless_of_cycle cycle levels none (w.begin gen)
  exact h ty t herr

/-! ### Enough levels -/

/-- So many levels are enough for a type while these types are open: they are at least the types
that can still be opened, each with all wrappers around it, and the wrappers that can still be taken
off the type. -/
structure Room (g : TypeGraph) (levels : Nat) (active : List TypeId) (ty : TypeId) : Prop where
  nodup : active.Nodup
  known : ∀ a ∈ active, g.knows a
  enough : ∃ seen : List TypeId, seen.Nodup ∧ (∀ s ∈ seen, TransGen g.Wraps s ty) ∧
    (g.size - active.length) * (g.size + 1) + (g.size - seen.length) < levels

/-- With the levels of its graph a generation has room at its root. -/
theorem room_start (g : TypeGraph) (ty : TypeId) : Room g (levelsFor g) [] ty := by
  refine ⟨List.nodup_nil, by simp, [], List.nodup_nil, by simp, ?_⟩
  simp only [levelsFor, List.length_nil, Nat.sub_zero, Nat.add_mul, Nat.mul_add]
  omega

theorem TypeGraph.Wraps.knows {g : TypeGraph} {ty inner : TypeId} (h : g.Wraps ty inner) :
    g.knows ty := by
  obtain ⟨d, hd, -⟩ := wraps_iff.1 h
  exact knows_iff_describe?.2 ⟨d, hd⟩

/-- Taking off a wrapper takes one level, and the wrapper is not met again. -/
theorem Room.unwrap {g : TypeGraph} (acyclic : ∀ ty, ¬ TransGen g.Wraps ty ty) {levels : Nat}
    {active : List TypeId} {ty inner : TypeId} (h : Room g (levels + 1) active ty)
    (hw : g.Wraps ty inner) : Room g levels active inner := by
  obtain ⟨hnodup, hknown, seen, hseen, hreach, henough⟩ := h
  -- a wrapper that is met twice would reach itself
  have hnew : (ty :: seen).Nodup := List.nodup_cons.2 ⟨fun hm => acyclic ty (hreach ty hm), hseen⟩
  have hall : ∀ s ∈ ty :: seen, TransGen g.Wraps s inner := by
    intro s hs
    rcases List.mem_cons.1 hs with rfl | hs
    · exact .single hw
    · exact (hreach s hs).tail hw
  have hle := TypeGraph.length_le_size hnew fun s hs => by
    obtain ⟨_, hs', -⟩ := TransGen.head'_iff.1 (hall s hs)
    exact hs'.knows
  refine ⟨hnodup, hknown, ty :: seen, hnew, hall, ?_⟩
  simp only [List.length_cons] at hle ⊢
  omega

/-- Opening a type takes one level, and leaves room for its parts. -/
theorem Room.enter {g : TypeGraph} {levels : Nat} {active : List TypeId} {ty : TypeId}
    (h : Room g (levels + 1) active ty) (hty : g.knows ty) (hopen : ty ∉ active) (part : TypeId) :
    Room g levels (ty :: active) part := by
  obtain ⟨hnodup, hknown, seen, -, -, henough⟩ := h
  have hnew : (ty :: active).Nodup := List.nodup_cons.2 ⟨hopen, hnodup⟩
  have hall : ∀ a ∈ ty :: active, g.knows a := by
    intro a ha
    rcases List.mem_cons.1 ha with rfl | ha
    · exact hty
    · exact hknown a ha
  have hle := TypeGraph.length_le_size hnew hall
  refine ⟨hnew, hall, [], List.nodup_nil, by simp, ?_⟩
  simp only [List.length_cons, List.length_nil] at hle ⊢
  -- one type fewer can be opened, with all wrappers around it
  obtain ⟨k, hk⟩ : ∃ k, g.size - active.length = k + 1 := ⟨g.size - active.length - 1, by omega⟩
  have hk' : g.size - (active.length + 1) = k := by omega
  rw [hk, Nat.succ_mul] at henough
  rw [hk']
  omega

/-- A type that is not cut is not open. -/
theorem not_mem_of_cutReason?_eq_none {g : Guard} {ty : TypeId} (h : g.cutReason? ty = none) :
    ty ∉ g.active := by
  intro hm
  simp [Guard.cutReason?, Guard.isExpanding, hm] at h

/-- With room nothing fails. -/
theorem ends_nodeFor_of_room {gen : Generator} {g : TypeGraph} (wf : g.WellFormed)
    (acyclic : ∀ ty, ¬ TransGen g.Wraps ty ty) {levels : Nat} {ty : TypeId} {field? : Option Field}
    {t : Traversal} (hty : g.knows ty) (room : Room g levels t.guard.active ty) :
    Ends (fun _ => False) (nodeFor gen g levels ty field?) t := by
  induction levels generalizing ty field? t with
  | zero =>
    obtain ⟨-, -, _, -, -, henough⟩ := room
    exact absurd henough (Nat.not_lt_zero _)
  | succ levels ih =>
    have hknown : ∀ d, g.describe? ty = some d → ∀ part ∈ d.shape.mentioned, g.knows part :=
      fun d hd part hp => TypeGraph.knows_iff.2 ((wf ty d hd).closed part hp)
    refine ends_nodeStep (fun _ _ _ _ _ h => nodeFor_returns h) (fun hnone => ?_)
      (fun r e he => ?_) (fun d inner hd hc t' ht' => ?_) fun d hd hcut part hp t' ht' => ?_
    · exact TypeGraph.not_knows_iff.2 hnone hty
    · obtain ⟨_, _, _, hok⟩ := wf.exists_assign hty r
      rw [hok] at he
      cases he
    · -- a wrapper
      have hw : g.Wraps ty inner := TypeGraph.wraps_iff.2 ⟨d, hd, hc⟩
      have hinner : g.knows inner :=
        hknown d hd inner (by rw [TypeGraph.classify_eq_nullable_iff.1 hc]; simp [Shape.mentioned])
      exact ih hinner (ht' ▸ room.unwrap acyclic hw)
    · -- a part of a type that is opened
      have hpart := hknown d hd part.1 (TypeGraph.mem_mentioned_of_mem_parts hp)
      exact ih hpart (ht' ▸ room.enter hty (not_mem_of_cutReason?_eq_none hcut) part.1)

/-- **With room the node of a type is built.** -/
theorem succeeds_nodeFor {gen : Generator} {g : TypeGraph} (wf : g.WellFormed)
    (acyclic : ∀ ty, ¬ TransGen g.Wraps ty ty) {levels : Nat} {ty : TypeId} {field? : Option Field}
    {t : Traversal} (hty : g.knows ty) (room : Room g levels t.guard.active ty) :
    Succeeds (nodeFor gen g levels ty field?) t :=
  (ends_nodeFor_of_room wf acyclic hty room).succeeds

/-- A type of a well-formed graph without cycles of wrappers is generated. -/
theorem exists_generate {gen : Generator} {g : TypeGraph} (wf : g.WellFormed)
    (acyclic : ∀ ty, ¬ TransGen g.Wraps ty ty) {root : TypeId} (hroot : g.knows root)
    (w : Workspace) : Succeeds (generate gen g root) w := by
  obtain ⟨id, t, h⟩ : Succeeds (nodeFor gen g (levelsFor g) root none) (w.begin gen) :=
    succeeds_nodeFor wf acyclic hroot (room_start g root)
  exact ⟨_, _, generate_of_ok h⟩

/-- A generation that succeeds has terminated. -/
theorem Terminates.of_succeeds {gen : Generator} {g : TypeGraph} {root : TypeId} {w : Workspace}
    (h : Succeeds (generate gen g root) w) : Terminates gen g root w := by
  obtain ⟨s, w', hs⟩ := h
  obtain ⟨t, ht, -, -⟩ := generate_ok hs
  exact ⟨levelsFor g, fun ty t' he => by rw [ht] at he; cases he⟩

/-- **A graph that the operations build is one whose generations all end iff no wrapper for null is
reached from itself through such wrappers alone**, and then every generation gives a schema. -/
theorem terminates_iff_no_wrapper_cycle {g : TypeGraph} (built : g.Built) :
    ((∀ gen root w, g.knows root → Terminates gen g root w) ↔ ∀ ty, ¬ TransGen g.Wraps ty ty) ∧
      ((∀ ty, ¬ TransGen g.Wraps ty ty) →
        ∀ gen root w, g.knows root → Succeeds (generate gen g root) w) := by
  have ok : (∀ ty, ¬ TransGen g.Wraps ty ty) →
      ∀ gen root w, g.knows root → Succeeds (generate gen g root) w :=
    fun acyclic _ _ w hroot => exists_generate built.wellFormed acyclic hroot w
  refine ⟨⟨fun h ty cycle => ?_, fun acyclic gen root w hroot => ?_⟩, ok⟩
  · obtain ⟨_, hw, -⟩ := TransGen.head'_iff.1 cycle
    exact not_terminates_of_cycle cycle (h (.plain {}) ty {} hw.knows)
  · exact .of_succeeds (ok acyclic gen root w hroot)

/-- Wrappers of types that are no wrappers do not reach themselves. -/
theorem TypeGraph.acyclic_of_flat {g : TypeGraph}
    (flat : ∀ ty inner, g.Wraps ty inner → ∀ x, ¬ g.Wraps inner x) (ty : TypeId) :
    ¬ TransGen g.Wraps ty ty := by
  intro cycle
  obtain ⟨_, hw, -⟩ := TransGen.head'_iff.1 cycle
  obtain ⟨_, -, hw'⟩ := TransGen.tail'_iff.1 cycle
  exact flat _ _ hw' _ hw

/-- A list: objects with a next one, or null. -/
def TypeGraph.linkedList : TypeGraph :=
  (((TypeGraph.empty.declare "Node").2.nullable ⟨0⟩).2.define ⟨0⟩
    (.object { fields := [{ name := "next", type := ⟨1⟩ }] }))

/-- A list that contains itself through its fields terminates, under every generator. -/
theorem linkedList_terminates :
    TypeGraph.linkedList.Built ∧ (∀ ty, ¬ TransGen TypeGraph.linkedList.Wraps ty ty) ∧
      ∀ gen root w, TypeGraph.linkedList.knows root →
        Terminates gen TypeGraph.linkedList root w := by
  have built : TypeGraph.linkedList.Built := by
    refine .define (.nullable (.declare .empty "Node") ?_) ?_ ?_
    · cbv
    · cbv
    · intro part hpart
      obtain rfl : part = ⟨1⟩ := by simpa [Shape.mentioned] using hpart
      cbv
  have shapes : TypeGraph.linkedList.types.toList.map (·.shape) =
      [.object { fields := [{ name := "next", type := ⟨1⟩ }] }, .nullable ⟨0⟩] := by cbv
  have wraps : ∀ {ty inner}, TypeGraph.linkedList.Wraps ty inner → ty = ⟨1⟩ ∧ inner = ⟨0⟩ := by
    rintro ⟨index⟩ inner h
    have hshape : (TypeGraph.linkedList.types.toList.map (·.shape))[index]? =
        some (.nullable inner) := by
      simpa [TypeGraph.Wraps, TypeGraph.shape?, TypeGraph.describe?] using h
    rw [shapes] at hshape
    rcases index with _ | _ | index
    · simp at hshape
    · simpa [eq_comm] using hshape
    · simp at hshape
  have acyclic := TypeGraph.acyclic_of_flat fun ty inner h x h' => by
    have hne := (wraps h').1.symm.trans (wraps h).2
    cases hne
  exact ⟨built, acyclic, (terminates_iff_no_wrapper_cycle built).1.2 acyclic⟩

/-- A type that is a wrapper for null around itself. -/
def TypeGraph.selfWrapper : TypeGraph :=
  (TypeGraph.empty.declare "A").2.define ⟨0⟩ (.nullable ⟨0⟩)

/-- Operations build a graph with a type whose generation never ends. -/
theorem selfWrapper_endless :
    ¬ ∀ g : TypeGraph, g.Built → ∀ gen root w, g.knows root → Terminates gen g root w := by
  intro h
  have known : (TypeGraph.empty.declare "A").2.knows ⟨0⟩ := by cbv
  have built : TypeGraph.selfWrapper.Built :=
    .define (.declare .empty "A") known (by simpa [Shape.mentioned] using known)
  have cycle : TransGen TypeGraph.selfWrapper.Wraps ⟨0⟩ ⟨0⟩ :=
    .single (show TypeGraph.selfWrapper.shape? ⟨0⟩ = some (.nullable ⟨0⟩) by cbv)
  exact not_terminates_of_cycle cycle (h _ built (.plain {}) ⟨0⟩ {} (by cbv))

end TypeSchema
