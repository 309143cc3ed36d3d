import TypeSchema.Proofs.Meaning.Rendering
import TypeSchema.Proofs.Schema.Arena
import TypeSchema.Proofs.Schema.Walk

/-!
# Schema — arenas whose edges lead back

Rendering and sampling follow the edges of an arena and do not look for cycles.  In an arena whose
edges all lead to nodes that were added before (`Arena.Grounded`) they come to an end, and every
node that they reach is there.

`a.Computes value id v` says so for any such recursion: `v` is its value at the node `id`, and there
is a value at each node that it leads to.  There is no rule for a node that is missing, and none for
what is given up.

* `Arena.Grounded.push`, `Arena.Grounded.dressed`: adding and decorating nodes keeps an arena
  grounded, if the node that is decorated is the last one or a stand-in.
* `Arena.Grounded.computes_render_iff`, `Arena.Grounded.computes_sample_iff`: in a grounded arena,
  what rendering and sampling compute is what these recursions come to.
-/

namespace TypeSchema

namespace SchemaNode

/-- The nodes that a node leads to: those whose schemas are part of its own, and the target of a
reference. -/
def edges (n : SchemaNode) : List NodeId :=
  n.children ++
    match n.kind with
    | .reference r => [r.target]
    | _ => []

theorem mem_edges_of_mem_children {n : SchemaNode} {c : NodeId} (h : c ∈ n.children) :
    c ∈ n.edges := List.mem_append_left _ h

theorem SameBody.edges_eq {n n' : SchemaNode} (h : n.SameBody n') : n'.edges = n.edges := by
  rw [h]
  rfl

/-- A sample depends on the samples of the nodes that the node leads to. -/
theorem sample_congr {n : SchemaNode} {isNull : NodeId → Bool} {child child' : NodeId → Json}
    (h : ∀ c ∈ n.edges, child c = child' c) : n.sample isNull child = n.sample isNull child' := by
  have inner : ∀ c ∈ n.children, child c = child' c := fun c hc =>
    h c (mem_edges_of_mem_children hc)
  have properties : n.properties.mapValues child = n.properties.mapValues child' := by
    refine SortedMap.ext_entries (List.map_congr_left fun e he => ?_)
    have hc : e.2 ∈ n.children := by
      simp only [children, List.mem_append, List.mem_map]
      exact .inl (.inl (.inl ⟨e, he, rfl⟩))
    rw [inner _ hc]
  have additional : n.additional?.map child = n.additional?.map child' :=
    Option.map_congr fun c hc => inner c (by simp [children, hc])
  have items : n.items?.toList.map child = n.items?.toList.map child' :=
    List.map_congr_left fun c hc => inner c (by simp [children, hc])
  have alternatives : ∀ ids, n.kind = .anyOf ids ∨ n.kind = .oneOf ids ∨ n.kind = .allOf ids →
      ∀ c ∈ ids, child c = child' c := by
    intro ids hk c hc
    refine inner c ?_
    rcases hk with hk | hk | hk <;> simp [children, hk, hc]
  unfold sample
  split
  · rfl
  · rfl
  · split
    case h_1 | h_2 | h_3 | h_4 | h_7 | h_11 => rfl
    case h_5 => rw [items]
    case h_6 => rw [properties, additional]
    case h_8 ids hk =>
      cases hf : ids.find? (fun id => !isNull id) with
      | none => rfl
      | some c => exact alternatives ids (.inl hk) c (List.mem_of_find?_eq_some hf)
    case h_9 ids hk =>
      cases hf : ids.find? (fun id => !isNull id) with
      | none => rfl
      | some c => exact alternatives ids (.inr (.inl hk)) c (List.mem_of_find?_eq_some hf)
    case h_10 ids hk => rw [List.map_congr_left (alternatives ids (.inr (.inr hk)))]
    case h_12 r hk => exact h r.target (by simp [edges, hk])

end SchemaNode

namespace Arena

/-! ### Recursion over an arena -/

/-- The recursion that takes the value of a node from those of the nodes that it leads to comes to
an end at `id`, with the value `v`, and every node on the way is there. -/
inductive Computes (a : Arena) (value : SchemaNode → (NodeId → Json) → Json) :
    NodeId → Json → Prop where
  | node {id : NodeId} {n : SchemaNode} {child : NodeId → Json} (there : a.get? id = some n)
      (parts : ∀ c ∈ n.edges, Computes a value c (child c)) :
      Computes a value id (value n child)

/-- The value of a node depends only on those of the nodes that it leads to. -/
def FollowsEdges (value : SchemaNode → (NodeId → Json) → Json) : Prop :=
  ∀ n child child', (∀ c ∈ n.edges, child c = child' c) → value n child = value n child'

/-- A value that is computed along the edges is the only one. -/
theorem Computes.unique {a : Arena} {value : SchemaNode → (NodeId → Json) → Json}
    (follows : FollowsEdges value) {id : NodeId} {v v' : Json} (h : a.Computes value id v)
    (h' : a.Computes value id v') : v = v' := by
  induction h generalizing v' with
  | @node id n child there _ ih =>
    cases h' with
    | @node _ n' child' there' parts' =>
      cases there.symm.trans there'
      exact follows n child child' fun c hc => ih c hc (parts' c hc)

/-- Every edge leads to a node that was added before, a node requires only properties that it has,
and every union has null among its alternatives. -/
structure Grounded (a : Arena) : Prop where
  backward : ∀ id n, a.get? id = some n → ∀ c ∈ n.edges, c.index < id.index
  required : a.All fun n => ∀ name, n.required.contains name → n.properties.contains name
  unions : ∀ id ids, a.alternatives? id = some ids → ids.any a.isNull

namespace Grounded

variable {a : Arena}

theorem ranked (h : a.Grounded) : a.Ranked :=
  fun id n hn c hc => h.backward id n hn c (SchemaNode.mem_edges_of_mem_children hc)

/-- A recursion with a number of levels comes to an end at each node with a smaller number. -/
theorem computes (h : a.Grounded) {value : SchemaNode → (NodeId → Json) → Json}
    {f : Nat → NodeId → Json}
    (step : ∀ levels id n, a.get? id = some n → f (levels + 1) id = value n (f levels)) :
    ∀ {levels : Nat} {id : NodeId} {n : SchemaNode}, a.get? id = some n → id.index < levels →
      a.Computes value id (f levels id) := by
  intro levels
  induction levels with
  | zero => intro id n _ hid; omega
  | succ levels ih =>
    intro id n hn hid
    rw [step levels id n hn]
    refine .node hn fun c hc => ?_
    have hc := h.backward id n hn c hc
    have := lt_size_of_get? hn
    obtain ⟨m, hm⟩ : ∃ m, a.get? c = some m := exists_get? (by omega)
    exact ih hm (by omega)

/-- **Rendering comes to an end at every node**, with what `render` computes. -/
theorem computes_render_iff (h : a.Grounded) {id : NodeId} {n : SchemaNode}
    (hn : a.get? id = some n) (v : Json) :
    a.Computes SchemaNode.render id v ↔ v = a.render id := by
  have computes : a.Computes SchemaNode.render id (a.render id) :=
    h.computes (f := a.renderTo) (fun levels id n hn => by simp [renderTo, hn]) hn
      (lt_size_of_get? hn)
  have follows : FollowsEdges SchemaNode.render := fun n child child' h =>
    SchemaNode.render_congr fun c hc => h c (SchemaNode.mem_edges_of_mem_children hc)
  exact ⟨fun hv => hv.unique follows computes, fun hv => hv ▸ computes⟩

/-- **Sampling comes to an end at every node**, with what `sample` computes. -/
theorem computes_sample_iff (h : a.Grounded) {id : NodeId} {n : SchemaNode}
    (hn : a.get? id = some n) (v : Json) :
    a.Computes (·.sample a.isNull) id v ↔ v = a.sample id := by
  have computes : a.Computes (·.sample a.isNull) id (a.sample id) :=
    h.computes (f := a.sampleTo) (fun levels id n hn => by simp [sampleTo, hn]) hn
      (lt_size_of_get? hn)
  have follows : FollowsEdges (·.sample a.isNull) := fun _ _ _ => SchemaNode.sample_congr
  exact ⟨fun hv => hv.unique follows computes, fun hv => hv ▸ computes⟩

/-- The sample of a node is made of those of the nodes that it leads to. -/
theorem sample_eq (h : a.Grounded) {id : NodeId} {n : SchemaNode} (hn : a.get? id = some n) :
    a.sample id = n.sample a.isNull a.sample := by
  refine ((h.computes_sample_iff hn _).1 (.node hn fun c hc => ?_)).symm
  obtain ⟨m, hm⟩ := exists_get? (Nat.lt_trans (h.backward id n hn c hc) (lt_size_of_get? hn))
  exact (h.computes_sample_iff hm _).2 rfl

end Grounded

/-! ### Grounded arenas -/

theorem grounded_empty : Grounded {} := by
  have none : ∀ id, get? {} id = none := fun id => by simp [get?]
  refine ⟨fun id n h => ?_, fun id n h => ?_, fun id ids h => ?_⟩
  · rw [none] at h; cases h
  · rw [none] at h; cases h
  · simp [alternatives?, none] at h

theorem isNull_iff {a : Arena} {id : NodeId} :
    a.isNull id ↔ ∃ n, a.get? id = some n ∧ n.kind = .null := by
  simp only [isNull, Option.any_eq_true]
  refine exists_congr fun n => and_congr_right fun _ => ?_
  cases hk : n.kind <;> simp [SchemaNode.isNull, hk]

theorem Keeps.isNull {a a' : Arena} (h : a.Keeps a') {id : NodeId} (hn : a.isNull id) :
    a'.isNull id := by
  simp only [Arena.isNull] at hn ⊢
  cases hg : a.get? id with
  | none => simp [hg] at hn
  | some n => rw [h hg]; rwa [hg] at hn

/-- A union of some nodes, one of which is null. -/
def UnionsNull (a : Arena) (n : SchemaNode) : Prop :=
  ∀ ids, n.kind = .anyOf ids ∨ n.kind = .oneOf ids → ids.any a.isNull

/-- A new node keeps an arena grounded if its edges go back. -/
theorem Grounded.push {a : Arena} (h : a.Grounded) {n : SchemaNode}
    (edges : ∀ c ∈ n.edges, c.index < a.size)
    (required : ∀ name, n.required.contains name → n.properties.contains name)
    (union : a.UnionsNull n) : (a.push n).2.Grounded := by
  refine ⟨fun id m hm c hc => ?_, h.required.push required, fun id ids hids => ?_⟩
  · rw [get?_push] at hm
    split at hm
    · next last => cases hm; exact last ▸ edges c hc
    · exact h.backward id m hm c hc
  · obtain ⟨m, hm, kind⟩ := alternatives?_eq_some hids
    have null : ids.any a.isNull := by
      rw [get?_push] at hm
      split at hm
      · cases hm; exact union ids kind
      · refine h.unions id ids ?_
        rw [alternatives?, hm]
        rcases kind with hk | hk <;> simp [hk]
    obtain ⟨c, hc, hcn⟩ := List.any_eq_true.1 null
    exact List.any_eq_true.2 ⟨c, hc, (keeps_push a n).isNull hcn⟩

/-- What is asked of kinds is the same after nodes were marked. -/
theorem isNull_modify {a : Arena} {id : NodeId} {f : SchemaNode → SchemaNode}
    (body : ∀ n : SchemaNode, n.SameBody (f n)) : (a.modify id f).isNull = a.isNull := by
  funext j
  simp only [isNull, get?_modify]
  split
  · next hj =>
    subst hj
    cases a.get? j with
    | none => rfl
    | some n => simp only [Option.map_some, Option.any_some]; rw [body n]; rfl
  · rfl

theorem isShared_modify {a : Arena} {id : NodeId} {f : SchemaNode → SchemaNode}
    (body : ∀ n : SchemaNode, n.SameBody (f n)) (j : NodeId) :
    (a.modify id f).isShared j = a.isShared j := by
  simp only [isShared, get?_modify]
  split
  · next hj =>
    subst hj
    cases a.get? j with
    | none => rfl
    | some n => simp only [Option.map_some, Option.any_some]; rw [body n]; rfl
  · rfl

theorem alternatives?_modify {a : Arena} {id : NodeId} {f : SchemaNode → SchemaNode}
    (body : ∀ n : SchemaNode, n.SameBody (f n)) (j : NodeId) :
    (a.modify id f).alternatives? j = a.alternatives? j := by
  simp only [alternatives?, get?_modify]
  split
  · next hj =>
    subst hj
    cases a.get? j with
    | none => rfl
    | some n => simp only [Option.map_some, Option.bind_some]; rw [body n]
  · rfl

/-- A change that leaves bodies alone keeps an arena grounded. -/
theorem Grounded.mark {a : Arena} (h : a.Grounded) {id : NodeId} {f : SchemaNode → SchemaNode}
    (body : ∀ n : SchemaNode, n.SameBody (f n)) : (a.modify id f).Grounded := by
  refine ⟨fun j m hm c hc => ?_, h.required.modify fun n hn => ?_, fun j ids hids => ?_⟩
  · rw [get?_modify] at hm
    split at hm
    · next hj =>
      obtain ⟨n, hn, rfl⟩ := Option.map_eq_some_iff.1 hm
      subst hj
      exact h.backward j n hn c ((body n).edges_eq ▸ hc)
    · exact h.backward j m hm c hc
  · rw [body n]
    exact hn
  · rw [alternatives?_modify body] at hids
    rw [isNull_modify body]
    exact h.unions j ids hids

/-- The node is the last one, or a stand-in. -/
def Outermost (a : Arena) (id : NodeId) : Prop := id.index + 1 = a.size ∨ a.isShared id

theorem Outermost.lt_size {a : Arena} {id : NodeId} (h : a.Outermost id) : id.index < a.size := by
  rcases h with h | h
  · omega
  · obtain ⟨n, hn, -⟩ := isShared_iff.1 h
    exact lt_size_of_get? hn

theorem outermost_push (a : Arena) (n : SchemaNode) : (a.push n).2.Outermost ⟨a.size⟩ :=
  .inl (size_push a n).symm

/-- **Decorating the last node, or a stand-in, keeps an arena grounded**, and the node to use from
then on is the last one or a stand-in again. -/
theorem Grounded.dressed {a a' : Arena} {id id' : NodeId} (h : a.Grounded) (outer : a.Outermost id)
    (hd : Dressed a id a' id') : a'.Grounded ∧ a'.Outermost id' := by
  induction hd with
  | refl => exact ⟨h, outer⟩
  | @more a a₁ a' id id₁ id' hd _ ih =>
    suffices a₁.Grounded ∧ a₁.Outermost id₁ from ih this.1 this.2
    have inside := outer.lt_size
    cases hd with
    | mark _ body =>
      refine ⟨h.mark body, ?_⟩
      simpa only [Outermost, size_modify, isShared_modify body] using outer
    | wrap _ _ =>
      refine ⟨h.push (fun c hc => ?_) (fun _ hname => by cases hname) (fun ids hk => ?_),
        outermost_push _ _⟩
      · have hc : c ∈ [id] := hc
        obtain rfl := List.mem_singleton.1 hc
        exact inside
      · simp at hk
    | unite _ =>
      have null := h.push (n := { kind := .null }) (fun c hc => by cases hc)
        (fun _ hname => by cases hname) (fun ids hk => by simp at hk)
      refine ⟨null.push (fun c hc => ?_) (fun _ hname => by cases hname) (fun ids hk => ?_), ?_⟩
      · have hc : c ∈ [id, ⟨a.size⟩] := hc
        rw [size_push]
        simp only [List.mem_cons, List.not_mem_nil, or_false] at hc
        rcases hc with rfl | rfl
        · omega
        · exact Nat.lt_succ_self _
      · obtain rfl : [id, ⟨a.size⟩] = ids := by simpa using hk
        simp [isNull, get?_push_self, SchemaNode.isNull]
      · exact .inl (by simp)
    | extend union withoutNull =>
      -- every union has null already
      rw [h.unions id _ union] at withoutNull
      cases withoutNull

end Arena

end TypeSchema
