import TypeSchema.Proofs.Generation.Ends
import TypeSchema.Proofs.Graph.Bases

/-!
# Generation — how it fails

A generation fails where it reaches a type that the graph does not know, through shapes and generic
arguments, or where it never ends (`Fault`).  The graph may mention whatever it likes, and the
registry may hold whatever it likes.

An assignment fails for the generic arguments of the type (`assign_fault`), and a step for the type
itself or for a part; a part's fault is one of the whole (`Fault.of_mentions`).  So the induction on
the levels carries `Ends` with the faults of the type at hand (`ends_nodeFor`).  That no type is
closed out of turn is in `Ends`: every type that is built leaves the open types as they were.
-/

namespace TypeSchema

open Relation

/-- How a generation of `root` may fail. -/
inductive Fault (g : TypeGraph) (root : TypeId) : GenerationError → Prop where
  /-- A type is reached that is not known. -/
  | unknown {ty : TypeId} (reached : ReflTransGen g.Mentions root ty) (unknown : ¬ g.knows ty) :
      Fault g root (.unknownType ty)
  /-- There is no end. -/
  | endless (ty : TypeId) : Fault g root (.endless ty)

section

variable {gen : Generator} {g : TypeGraph}

/-- A fault of a part is a fault of the whole. -/
theorem Fault.of_mentions {root part : TypeId} {e : GenerationError} (h : Fault g part e)
    (hm : g.Mentions root part) : Fault g root e := by
  cases h with
  | unknown reached unknown => exact .unknown (reached.head hm) unknown
  | endless ty => exact .endless ty

/-- An identifier fails to be assigned only for a type that is not described. -/
theorem assign_fault {r : Registry} {ty : TypeId} {e : GenerationError}
    (h : r.assign g ty = .error e) : Fault g ty e := by
  unfold Registry.assign at h
  split at h
  · next hd =>
    cases h
    exact .unknown .refl (TypeGraph.not_knows_iff.2 hd)
  · split at h
    · cases h
    · split at h <;> cases h
      next hbase =>
      rcases TypeGraph.baseIdTo_error hbase with ⟨arg, rfl, unknown, reached⟩ | ⟨arg, rfl⟩
      · exact .unknown (reached.lift id fun _ _ htakes => htakes.mentions) unknown
      · exact .endless arg

/-- **Building a type fails by a fault of the type, and closes nothing out of turn.** -/
theorem ends_nodeFor (levels : Nat) (ty : TypeId) (field? : Option Field) (t : Traversal) :
    Ends (Fault g ty) (nodeFor gen g levels ty field?) t := by
  induction levels generalizing ty field? t with
  | zero => exact .of_error rfl (.endless ty)
  | succ levels ih =>
    have ofPart : ∀ {d : TypeDescriptor}, g.describe? ty = some d → ∀ {part : TypeId},
        part ∈ d.shape.mentioned → ∀ field? t,
          Ends (Fault g ty) (nodeFor gen g levels part field?) t :=
      fun hd _ hpart field? t =>
        (ih _ field? t).mono fun _ he => he.of_mentions ⟨_, hd, .inl hpart⟩
    refine ends_nodeStep (fun _ _ _ _ _ h => nodeFor_returns h)
      (fun hnone => .unknown .refl (TypeGraph.not_knows_iff.2 hnone))
      (fun r e he => assign_fault he)
      (fun d inner hd hc t' _ => ?_) fun d hd _ part hp t' _ => ?_
    · refine ofPart hd ?_ field? t'
      rw [TypeGraph.classify_eq_nullable_iff.1 hc]
      exact List.mem_singleton_self inner
    · exact ofPart hd (TypeGraph.mem_mentioned_of_mem_parts hp) part.2 t'

end

/-- **How generations end.** Every type that is built leaves the open types as they were.  So for
any number of levels a generation gives a schema or fails by a fault of its root, and never closes a
type out of turn or reports that it did, and so does `generate`. -/
theorem generation_faults (gen : Generator) (g : TypeGraph) :
    (∀ levels ty field? t id t', nodeFor gen g levels ty field? t = .ok id t' →
      t'.guard.active = t.guard.active) ∧
    (∀ levels root (w : Workspace),
      Ends (Fault g root) (nodeFor gen g levels root none) (w.begin gen)) ∧
    ∀ root w,
      (∀ s w', generate gen g root w = .ok s w' →
        ∃ added, Quiet added ∧ w'.events = w.events ++ added) ∧
      ∀ e w', generate gen g root w = .error e w' →
        Fault g root e ∧ ∃ added, Quiet added ∧ w'.events = w.events ++ added := by
  refine ⟨fun _ _ _ _ _ _ h => (nodeFor_returns h).2.1, fun levels root w => ends_nodeFor .., ?_⟩
  intro root w
  have ends : Ends (Fault g root) (nodeFor gen g (levelsFor g) root none) (w.begin gen) :=
    ends_nodeFor ..
  refine ⟨fun s w' h => ?_, fun e w' h => ?_⟩
  · obtain ⟨t, ht, -, rfl⟩ := generate_ok h
    exact ends.ok _ t ht
  · obtain ⟨t, ht, rfl⟩ := generate_error h
    exact ends.error e t ht

/-- A type with a field of a type that the graph does not know. -/
def TypeGraph.dangling : TypeGraph :=
  (TypeGraph.empty.declareAs "A" (.object { fields := [{ name := "b", type := ⟨7⟩ }] })).2

/-- A graph that mentions a handle nothing describes: generation ends with that handle, silently. -/
theorem dangling_fault :
    ∃ w', generate (.plain {}) TypeGraph.dangling ⟨0⟩ {} = .error (.unknownType ⟨7⟩) w' ∧
      ReflTransGen TypeGraph.dangling.Mentions ⟨0⟩ ⟨7⟩ ∧ Quiet w'.events := by
  have outcome : (match generate (.plain {}) TypeGraph.dangling ⟨0⟩ {} with
      | .ok _ _ => none
      | .error e _ => some e) = some (.unknownType ⟨7⟩) := by decide +kernel
  cases h : generate (.plain {}) TypeGraph.dangling ⟨0⟩ {} with
  | ok s w' => rw [h] at outcome; cases outcome
  | error e w' =>
    rw [h] at outcome
    cases outcome
    obtain ⟨fault, added, quiet, hadded⟩ :=
      ((generation_faults (.plain {}) TypeGraph.dangling).2.2 ⟨0⟩ {}).2 _ w' h
    cases fault with
    | unknown reached _ => exact ⟨w', rfl, reached, by rw [hadded]; exact quiet⟩

end TypeSchema
