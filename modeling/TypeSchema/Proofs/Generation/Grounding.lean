import Mathlib
import TypeSchema.Proofs.Generation.Frame
import TypeSchema.Proofs.Generation.Run
import TypeSchema.Proofs.Schema.Grounded

/-!
# Generation — every edge leads back

A node is added after the nodes that it leads to, and what is decorated is the node that was added
last, or else a stand-in that gets a node around it.  So the arena of a generation is grounded at
every moment (`nodeFor_grounded`), also where types contain themselves: there the guard gives a
placeholder, and a reference leads to the component that was recorded before.

`generate_grounded` draws the conclusion for the generated schema: rendering and sampling come to an
end at each of its nodes.
-/

namespace TypeSchema

open Build

variable {gen : Generator} {g : TypeGraph}

/-! ### Nodes that are added -/

/-- A node made of some nodes has edges to these alone. -/
theorem SchemaNode.IsMadeOf.edges_subset {n : SchemaNode} {identifier? : Option String}
    {ids : List NodeId} (h : n.IsMadeOf identifier? ids) {c : NodeId} (hc : c ∈ n.edges) :
    c ∈ ids := by
  obtain ⟨p, kind⟩ := h.primitive
  simp only [edges, kind, List.append_nil] at hc
  exact h.children c hc

namespace Arena.Grounded

variable {a : Arena}

/-- A node that an expansion makes of nodes that are there. -/
theorem pushMadeOf (h : a.Grounded) {n : SchemaNode} {identifier? : Option String}
    {ids : List NodeId} (made : n.IsMadeOf identifier? ids) (bare : n.IsBare)
    (inside : ∀ c ∈ ids, c.index < a.size) : (a.push n).2.Grounded := by
  obtain ⟨p, kind⟩ := made.primitive
  refine h.push (fun c hc => inside c (made.edges_subset hc)) bare.required fun ids hk => ?_
  rw [kind] at hk
  rcases hk with hk | hk <;> cases hk

theorem pushObject (h : a.Grounded) (gen : Generator) (o : ObjectShape) (identifier : String)
    {ids : List NodeId} (inside : ∀ c ∈ ids, c.index < a.size) :
    (a.push (objectNode gen o identifier ids)).2.Grounded :=
  h.pushMadeOf (SchemaNode.isMadeOf_objectNode gen o identifier ids)
    (.of_objectNode gen o identifier ids) inside

/-- A placeholder leads nowhere. -/
theorem pushPlaceholder (h : a.Grounded) (p : Placeholder) :
    (a.push { kind := .placeholder p }).2.Grounded :=
  h.push (fun _ hc => by cases hc) (fun _ hname => by cases hname) fun ids hk => by simp at hk

/-- A reference leads to its target. -/
theorem pushReference (h : a.Grounded) {r : Reference} (inside : r.target.index < a.size) :
    (a.push { kind := .reference r }).2.Grounded := by
  refine h.push (fun c hc => ?_) (fun _ hname => by cases hname) fun ids hk => by simp at hk
  have hc : c ∈ [r.target] := hc
  rwa [List.mem_singleton.1 hc]

end Arena.Grounded

/-- The arena is grounded, and the node `id` is the last one or a stand-in. -/
structure Traversal.Grounded (t : Traversal) (id : NodeId) : Prop where
  arena : t.arena.Grounded
  outermost : t.arena.Outermost id

namespace Traversal.Grounded

variable {t t' : Traversal} {id id' : NodeId}

/-- Dressing a node adds nodes and edges, and all of them go back. -/
theorem dressed (h : t.Grounded id) (hd : Dressed t.arena id t'.arena id') : t'.Grounded id' :=
  have ⟨arena, outermost⟩ := h.arena.dressed h.outermost hd
  ⟨arena, outermost⟩

theorem decorated (h : t.Grounded id) (hd : Decorated t id t' id') : t'.Grounded id' :=
  h.dressed hd.dressed

theorem pushed {n : SchemaNode} (h : (t.arena.push n).2.Grounded) :
    (t.pushed n).Grounded ⟨t.arena.size⟩ := ⟨h, Arena.outermost_push _ _⟩

/-- Where a type is cut the node is a new placeholder or the one that stands for it already. -/
theorem cut (h : t.arena.Grounded) (rests : t.RestsOn t.arena) (v : Visit) (reason : CutReason) :
    (t.cut v reason).2.Grounded (t.cut v reason).1 := by
  refine ⟨?_, .inr (rests.afterCut v reason).2⟩
  cases hl : t.guard.placeholders.lookup (v.type, reason) with
  | some id => rw [cut_of_lookup hl]; exact h
  | none => rw [(cut_of_lookup_none hl).2]; exact h.pushPlaceholder _

end Traversal.Grounded

/-! ### Steps -/

/-- What is built in a grounded arena leaves one. -/
def Descent.Grounds (descend : Descent) : Prop :=
  ∀ ty field? t id t', descend ty field? t = .ok id t' → t.RestsOn t.arena → t.arena.Grounded →
    t'.Grounded id

section

variable {levels : Nat} {ty : TypeId} {d : TypeDescriptor} {t t' : Traversal} {id : NodeId}

/-- After some parts are built the arena is grounded, and their nodes are in it. -/
theorem Visits.grounded {parts : List (TypeId × Option Field)} {ids : List NodeId}
    (h : Visits (nodeFor gen g levels) parts t ids t') (step : (nodeFor gen g levels).Grounds)
    (rests : t.RestsOn t.arena) (ht : t.arena.Grounded) :
    t'.arena.Grounded ∧ ∀ c ∈ ids, c.index < t'.arena.size := by
  induction h with
  | nil => exact ⟨ht, fun c hc => by cases hc⟩
  | @cons _ _ _ _ t₁ t₂ id _ head tail ih =>
    have first := step _ _ _ _ _ head rests ht
    have rests₁ := (nodeFor_settled head rests).rests
    obtain ⟨arena, inside⟩ := ih rests₁ first.arena
    refine ⟨arena, fun c hc => ?_⟩
    rcases List.mem_cons.1 hc with rfl | hc
    · exact Nat.lt_of_lt_of_le first.outermost.lt_size
        (tail.keeps (nodeFor_spares levels) rests₁).size_le
    · exact inside c hc

/-- An expansion leaves a grounded arena: its parts are there before the node that is made of them.
-/
theorem Expansion.grounded {cls : Classification}
    (h : Expansion gen g (nodeFor gen g levels) ty d cls t id t')
    (step : (nodeFor gen g levels).Grounds) (rests : t.RestsOn t.arena)
    (ht : t.arena.Grounded) : t'.Grounded id := by
  cases h with
  | @leaf _ _ n events node =>
    have pushed := ht.pushMadeOf (SchemaNode.isMadeOf_leafNode? node) (.of_leafNode? node)
      fun c hc => by cases hc
    exact ⟨pushed, Arena.outermost_push _ _⟩
  | cut _ _ => exact .cut ht rests _ _
  | @collection _ _ t₁ ids n _ parts node _ =>
    obtain ⟨arena, inside⟩ := parts.grounded step (rests.of_eq rfl rfl rfl) ht
    have pushed := arena.pushMadeOf (SchemaNode.isMadeOf_collectionNode? node)
      (.of_collectionNode? node) inside
    exact ⟨pushed, Arena.outermost_push _ _⟩
  | @reference _ _ i r events target _ expanded =>
    obtain ⟨_, there, -⟩ := rests.recorded i target expanded
    exact ⟨ht.pushReference (Arena.lt_size_of_get? there), Arena.outermost_push _ _⟩
  | @cutObject _ _ i r events _ _ _ _ =>
    have rests' : (t.claimed ty i r events).RestsOn t.arena := rests.of_eq rfl rfl rfl
    exact .cut (t := t.claimed ty i r events) ht rests' _ _
  | @object o _ t₁ i r events ids _ _ _ parts _ =>
    obtain ⟨arena, inside⟩ := parts.grounded step (rests.of_eq rfl rfl rfl) ht
    -- once as the component, and once more to be used
    have copy := (arena.pushObject gen o i inside).pushObject gen o i (Arena.inside_push inside _)
    have last := Arena.outermost_push (t₁.arena.push (objectNode gen o i ids)).2
      (objectNode gen o i ids)
    rw [Arena.size_push] at last
    exact ⟨copy, last⟩

/-- A step leaves a grounded arena, given that the descent does. -/
theorem Step.grounded {field? : Option Field}
    (h : Step gen g (nodeFor gen g levels) ty field? d t id t')
    (step : (nodeFor gen g levels).Grounds) (rests : t.RestsOn t.arena) (ht : t.arena.Grounded) :
    t'.Grounded id := by
  cases h with
  | wrapped _ part finish =>
    exact (step _ _ _ _ _ part rests ht).decorated (wrapNull_decorated finish)
  | @overridden o _ _ _ _ _ finish =>
    have pushed := ht.pushMadeOf (SchemaNode.isMadeOf_override o) (.of_override o)
      fun c hc => by cases hc
    exact (Traversal.Grounded.pushed pushed).decorated (decorate_decorated finish)
  | @expanded _ t₀ _ _ _ _ _ plain expansion finish =>
    obtain ⟨arena, rests₀⟩ := rests.looked plain
    exact (expansion.grounded step rests₀ (arena ▸ ht)).decorated (decorate_decorated finish)

end

/-- **Building a type in a grounded arena leaves a grounded arena.** -/
theorem nodeFor_grounded (levels : Nat) : (nodeFor gen g levels).Grounds :=
  fun ty field? t id t' h => nodeFor_descent
    (P := fun _ _ t id t' => t.RestsOn t.arena → t.arena.Grounded → t'.Grounded id)
    (fun _ step _ _ _ _ _ _ _ hs rests ht => hs.grounded step rests ht) levels ty field? t id t' h

/-! ### Generations -/

/-- What follows the edges from the node stays in the arena and comes to an end. -/
structure Arena.WellFoundedAt (a : Arena) (id : NodeId) (n : SchemaNode) : Prop where
  /-- Every edge leads to a node that is there and was added before. -/
  backward : ∀ c ∈ n.edges, c.index < id.index ∧ ∃ m, a.get? c = some m
  required : ∀ name ∈ n.required.keys, name ∈ n.properties.keys
  render : ∀ j, a.Computes SchemaNode.render id j ↔ j = a.render id
  /-- A budget that lasts gives the value that sampling comes to, and no report. -/
  sample : ∀ d : Deadline, d.Lasts → ∃ v, a.synthesize d id = (some v, []) ∧
    ∀ v', a.Computes (·.sample a.isNull) id v' ↔ v' = v

/-- Edges that all go back end. -/
theorem Arena.Grounded.wellFoundedAt {a : Arena} (h : a.Grounded) {id : NodeId} {n : SchemaNode}
    (hn : a.get? id = some n) : a.WellFoundedAt id n := by
  refine ⟨fun c hc => ?_, fun name hname => ?_, h.computes_render_iff hn,
    fun d lasts => ⟨a.sample id, a.synthesize_of_lasts id lasts, h.computes_sample_iff hn⟩⟩
  · have back := h.backward id n hn c hc
    exact ⟨back, exists_get? (Nat.lt_trans back (lt_size_of_get? hn))⟩
  · exact SortedMap.mem_keys_iff.2 (h.required id n hn name (SortedMap.mem_keys_iff.1 hname))

/-- **The arena of a generated schema is well founded at every node**, and its root is one. -/
theorem generate_grounded {root : TypeId} {w w' : Workspace} {s : GeneratedSchema}
    (h : generate gen g root w = .ok s w') :
    (∀ id n, s.arena.get? id = some n → s.arena.WellFoundedAt id n) ∧
      ∃ n, s.arena.get? s.root = some n := by
  obtain ⟨t, hn, hs, -⟩ := generate_ok h
  have grounded := nodeFor_grounded _ _ _ _ _ _ hn (.begin w gen) Arena.grounded_empty
  have arena : s.arena = t.arena := by rw [hs]
  rw [arena]
  exact ⟨fun id n => grounded.arena.wellFoundedAt, Arena.exists_get? grounded.outermost.lt_size⟩

/-- An object with a nullable field of its own type. -/
def TypeGraph.chain : TypeGraph := .ofTypes #[
  { identity := "Link", name := "Link",
    shape := .object { fields := [{ name := "next", type := ⟨1⟩, required := true }] } },
  { identity := "Link?", name := "Link?", shape := .nullable ⟨0⟩ }]

/-- A type that contains itself: the edges end at the placeholder for it. -/
theorem generate_grounded_chain :
    ∃ s w' n, generate (.plain {}) .chain ⟨0⟩ {} = .ok s w' ∧
      s.arena.placeholders.map (·.2.typeName) = ["Link"] ∧
      s.arena.get? s.root = some n ∧ s.arena.WellFoundedAt s.root n := by
  have computed : Work.value? (do
      let s ← generate (.plain {}) .chain ⟨0⟩
      return (s.arena.placeholders.map (·.2.typeName), (← get).throttled)) {} =
      some (["Link"], 0) := by cbv
  obtain ⟨s, w', hs, hread⟩ := Work.ok_of_reading computed
  obtain ⟨all, n, hn⟩ := generate_grounded hs
  exact ⟨s, w', n, hs, (Prod.mk.inj hread).1, hn, all _ n hn⟩

end TypeSchema
