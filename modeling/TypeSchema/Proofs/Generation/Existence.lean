import TypeSchema.Proofs.Generation.Roots
import TypeSchema.Proofs.Generation.Run
import TypeSchema.Proofs.Generation.Termination

/-!
# Documents — when there is one

Collecting what a generation gives never fails, so a document is built whenever its generations
succeed: for a well-formed graph without cycles of wrappers, from roots that the graph knows
(`exists_generateDocument`).
-/

namespace TypeSchema

open Relation

variable {gen : Generator} {g : TypeGraph}

/-- A component can always be rendered. -/
theorem succeeds_componentJson (ty : TypeId) (s : GeneratedSchema) (node : NodeId) (w : Workspace) :
    Succeeds (componentJson gen g ty s node) w := by
  unfold componentJson
  split
  · refine Succeeds.bind ⟨_, _, rfl⟩ fun v? w' _ => ?_
    cases v? with
    | none => exact .of_pure _ _
    | some v => exact .of_pure _ _
  · exact .of_pure _ _

/-- The components of a call can always be added. -/
theorem succeeds_addExpanded (s : GeneratedSchema) (expansions : List (String × NodeId))
    (components : SortedMap Json) (w : Workspace) :
    Succeeds (addExpanded gen g s components expansions) w := by
  induction expansions generalizing components w with
  | nil => exact .of_pure _ _
  | cons e rest ih =>
    simp only [addExpanded]
    split
    · exact ih _ _
    · split
      · exact ih _ _
      · exact (succeeds_componentJson _ _ _ _).bind fun j w' _ => ih _ _

/-- A root that can be generated can be added. -/
theorem succeeds_addRoot {ty : TypeId} (ok : ∀ w, Succeeds (generate gen g ty) w) (c : Collected)
    (id : String) (w : Workspace) : Succeeds (addRoot gen g c id ty) w :=
  (ok w).bind fun s _ _ => (succeeds_componentJson ty s s.root _).bind fun _ _ _ =>
    (succeeds_addExpanded s _ _ _).bind fun _ _ _ => .of_pure _ _

/-- In a well-formed graph a known type can be given an identifier. -/
theorem succeeds_assignId (wf : g.WellFormed) {ty : TypeId} (known : g.knows ty) (w : Workspace) :
    Succeeds (assignId g ty) w := by
  obtain ⟨id, r, events, h⟩ := wf.exists_assign known w.registry
  refine Succeeds.bind ⟨_, _, rfl⟩ fun w' w₁ hw => ?_
  cases hw
  rw [h]
  exact ⟨_, _, rfl⟩

/-- Known roots can all be added. -/
theorem succeeds_addRoots (wf : g.WellFormed)
    (ok : ∀ ty, g.knows ty → ∀ w, Succeeds (generate gen g ty) w) {tys : List TypeId}
    (known : ∀ ty ∈ tys, g.knows ty) (c : Collected) (w : Workspace) :
    Succeeds (addRoots gen g c tys) w := by
  induction tys generalizing c w with
  | nil => exact .of_pure _ _
  | cons ty rest ih =>
    have hty := known ty List.mem_cons_self
    exact (succeeds_assignId wf hty w).bind fun id _ _ =>
      (succeeds_addRoot (ok ty hty) c id _).bind fun c _ _ =>
        ih (fun ty hty => known ty (List.mem_cons_of_mem _ hty)) c _

/-- The waiting types, all of them known, can be worked off. -/
theorem succeeds_drain (ok : ∀ ty, g.knows ty → ∀ w, Succeeds (generate gen g ty) w)
    {remaining : List TypeId} (known : ∀ ty ∈ remaining, g.knows ty) (c : Collected)
    (w : Workspace) : Succeeds (drain gen g remaining c) w := by
  fun_induction drain gen g remaining c generalizing w with
  | case1 => exact .of_pure _ _
  | case2 remaining c id ty pending hp hc ih => exact ih known w
  | case3 remaining c id ty pending hp hc hmem ih =>
    exact (succeeds_addRoot (ok ty (known ty hmem)) _ id w).bind fun c₁ w₁ _ =>
      ih c₁ (fun ty' hty => known ty' (List.mem_of_mem_erase hty)) w₁
  | case4 remaining c id ty pending hp hc hmem ih => exact ih known w

/-- **The document of known roots is built**, for a well-formed graph without cycles of wrappers. -/
theorem exists_generateDocument (wf : g.WellFormed) (acyclic : ∀ ty, ¬ TransGen g.Wraps ty ty)
    {roots : List TypeId} (known : ∀ ty ∈ roots, g.knows ty) (w : Workspace) :
    Succeeds (generateDocument gen g roots) w := by
  have ok : ∀ ty, g.knows ty → ∀ w, Succeeds (generate gen g ty) w :=
    fun ty hty w => exists_generate wf acyclic hty w
  have hidentity : ∀ ty ∈ roots, ∃ identity, g.identity? ty = some identity := by
    intro ty hty
    obtain ⟨d, hd⟩ := TypeGraph.knows_iff_describe?.1 (known ty hty)
    exact ⟨d.identity, by rw [TypeGraph.identity?, hd, Option.map_some]⟩
  obtain ⟨named, hnamed⟩ := exists_identified_iff.2 hidentity
  have hordered : ∀ ty ∈ orderedRoots named, g.knows ty :=
    fun ty hty => known ty (orderedRoots_subset hnamed hty)
  unfold generateDocument
  simp only [hnamed]
  exact (succeeds_addRoots wf ok hordered _ w).bind fun c w₁ _ =>
    (succeeds_drain ok (fun ty hty => TypeGraph.mem_ids_iff.1 (List.mem_filter.1 hty).1) c w₁).bind
      fun _ _ _ => .of_pure _ _

end TypeSchema
