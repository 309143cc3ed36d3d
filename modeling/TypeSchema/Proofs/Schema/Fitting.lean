import TypeSchema.Proofs.Schema.Grounded

/-!
# Schema — samples that fit

`a.Accepts id v` says that the node `id`, read as a schema, accepts the value `v`.  A node is read
with the nodes that it leads to, level by level as for schemas in a document, and accepts a value if
it does so at every number of levels from some one on.  A reference stands for its target, and a
placeholder for any value.  The flag for null admits one value more and is not read.

Sampling and validation go through the same nodes with different questions.  A sample of a node fits
(`SchemaNode.validates_sample`) if the samples of the nodes it leads to do, where

* the parts of the node belong to its kind (`SchemaNode.IsShaped`), and
* its only bounds are lengths of plain texts that some text can have (`SchemaNode.OnlyLengths`).

In a grounded arena of such nodes every sample fits (`Arena.Grounded.accepts_sample`).
-/

namespace TypeSchema

/-! ### Reading nodes as schemas -/

/-- What the kind of a node asserts of a value, given what the nodes that it leads to accept. -/
def NodeKind.Admits (accepts : NodeId → Json → Prop) : NodeKind → Json → Prop
  | .primitive p, v => p.Admits v
  | .null, v => v = .null
  | .anyOf ids, v => ∃ c ∈ ids, accepts c v
  | .oneOf ids, v => ∃ (i : Nat) (c : NodeId), ids[i]? = some c ∧ accepts c v ∧
      ∀ (j : Nat) (c' : NodeId), ids[j]? = some c' → accepts c' v → j = i
  | .allOf ids, v => ∀ c ∈ ids, accepts c v
  | .placeholder _, _ => True
  | .reference r, v => accepts r.target v

namespace SchemaNode

/-- The length that the bounds of a node are about: on an array that of its items, and else that of
a text in characters. -/
def length? (n : SchemaNode) (v : Json) : Option Nat :=
  match n.primitive?, v with
  | some .array, .array items => some items.length
  | some .array, _ => none
  | _, .string s => some s.length
  | _, _ => none

/-- The value is as long as the node asks for. -/
def WithinLengths (n : SchemaNode) (v : Json) : Prop :=
  ∀ length, n.length? v = some length →
    (∀ min, n.keywords.minLength = some min → min ≤ length) ∧
      ∀ max, n.keywords.maxLength = some max → length ≤ max

/-- The value meets every keyword of the node. -/
structure Validates (n : SchemaNode) (accepts : NodeId → Json → Prop) (v : Json) : Prop where
  kind : n.kind.Admits accepts v
  fits : n.Fits accepts v
  lengths : n.WithinLengths v

end SchemaNode

namespace Arena

/-- The node accepts the value, read down to a number of levels. -/
def AcceptsTo (a : Arena) : (levels : Nat) → NodeId → Json → Prop
  | 0, _, _ => False
  | levels + 1, id, v => ∃ n, a.get? id = some n ∧ n.Validates (a.AcceptsTo levels) v

/-- The node accepts the value. -/
def Accepts (a : Arena) (id : NodeId) (v : Json) : Prop :=
  ∃ n, ∀ levels, n ≤ levels → a.AcceptsTo levels id v

end Arena

/-! ### Nodes whose parts belong to their kind -/

namespace SchemaNode

/-- The parts of a node belong to its kind. -/
structure IsShaped (n : SchemaNode) : Prop where
  /-- A node of no primitive type has no parts of its own. -/
  bodiless : (∃ p, n.kind = .primitive p) ∨ n.enumValues = [] ∧ n.properties = {} ∧
    n.required = {} ∧ n.items? = none ∧ n.additional? = none
  /-- Literals are values of the type. -/
  literals : ∀ v ∈ n.enumValues, (n.kind = .primitive .string ∧ ∃ s, v = .string s) ∨
    (n.kind = .primitive .integer ∧ ∃ i, v = .int i)
  /-- Where any name is allowed, none is declared. -/
  undeclared : ∀ c, n.additional? = some c → n.properties = {}
  alternatives : ∀ ids, n.kind = .anyOf ids → ids ≠ []
  exclusive : ∀ ids, n.kind ≠ .oneOf ids
  single : ∀ ids, n.kind = .allOf ids → ∃ c, ids = [c]

/-- A node of a primitive type with literals of it. -/
theorem IsShaped.of_primitive {n : SchemaNode} {p : PrimitiveType} (kind : n.kind = .primitive p)
    (literals : ∀ v ∈ n.enumValues, (p = .string ∧ ∃ s, v = .string s) ∨
      (p = .integer ∧ ∃ i, v = .int i))
    (undeclared : ∀ c, n.additional? = some c → n.properties = {}) : n.IsShaped where
  bodiless := .inl ⟨p, kind⟩
  literals v hv := by
    rw [kind]
    exact (literals v hv).imp (And.imp_left (congrArg _)) (And.imp_left (congrArg _))
  undeclared := undeclared
  alternatives ids hk := by rw [kind] at hk; cases hk
  exclusive ids hk := by rw [kind] at hk; cases hk
  single ids hk := by rw [kind] at hk; cases hk

/-- A node that has nothing but its kind. -/
theorem IsShaped.of_kind {kind : NodeKind} (nullable : Bool)
    (alternatives : ∀ ids, kind = .anyOf ids → ids ≠ []) (exclusive : ∀ ids, kind ≠ .oneOf ids)
    (single : ∀ ids, kind = .allOf ids → ∃ c, ids = [c]) :
    ({ kind, nullable } : SchemaNode).IsShaped where
  bodiless := .inr ⟨rfl, rfl, rfl, rfl, rfl⟩
  literals v hv := by cases hv
  undeclared c hc := by cases hc
  alternatives := alternatives
  exclusive := exclusive
  single := single

/-- **Decorating keeps the parts of nodes in their kinds.** -/
theorem decorable_isShaped : Decorable IsShaped where
  mark n n' body hn := by
    rw [body]
    exact ⟨hn.bodiless, hn.literals, hn.undeclared, hn.alternatives, hn.exclusive, hn.single⟩
  wrap id nullable := .of_kind nullable (by simp) (by simp) (by simp)
  null := .of_kind false (by simp) (by simp) (by simp)
  union id id' := .of_kind false (by simp) (by simp) (by simp)
  extend n id hn := by
    unfold Arena.addAlternative
    split
    case h_1 ids kind =>
      obtain ⟨literals, body⟩ :=
        hn.bodiless.resolve_left fun ⟨p, hp⟩ => by rw [kind] at hp; cases hp
      refine ⟨.inr ⟨literals, body⟩, fun v hv => ?_, hn.undeclared, ?_, ?_, ?_⟩
      · rw [literals] at hv
        cases hv
      all_goals simp
    case h_2 ids kind => exact absurd kind (hn.exclusive ids)
    case h_3 => exact hn

/-! ### Nodes whose bounds can be met -/

/-- No example is declared for the node, and its only bounds are lengths of a text without a format
and without literals, which some text has. -/
structure OnlyLengths (n : SchemaNode) : Prop where
  exampleless : n.example? = none
  bounds : n.keywords = {} ∨ n.kind = .primitive .string ∧ n.format? = none ∧ n.enumValues = [] ∧
    n.keywords.minimum = none ∧ n.keywords.maximum = none ∧ n.keywords.pattern = none
  consistent : ∀ min ∈ n.keywords.minLength, ∀ max ∈ n.keywords.maxLength, min ≤ max

instance : DecidablePred OnlyLengths := fun n =>
  decidable_of_iff (n.example?.isNone ∧
    (n.keywords = {} ∨ n.kind = .primitive .string ∧ n.format? = none ∧ n.enumValues = [] ∧
      n.keywords.minimum = none ∧ n.keywords.maximum = none ∧ n.keywords.pattern = none) ∧
    ∀ min ∈ n.keywords.minLength, ∀ max ∈ n.keywords.maxLength, min ≤ max)
    ⟨fun ⟨h, h', h''⟩ => ⟨Option.isNone_iff_eq_none.1 h, h', h''⟩,
      fun h => ⟨Option.isNone_iff_eq_none.2 h.exampleless, h.bounds, h.consistent⟩⟩

theorem OnlyLengths.keywords_eq {n : SchemaNode} (h : n.OnlyLengths) {kind : NodeKind}
    (hk : n.kind = kind) (other : kind ≠ .primitive .string) : n.keywords = {} :=
  h.bounds.resolve_right fun text => other (hk.symm.trans text.1)

/-! ### Samples of nodes -/

/-- Without bounds every length will do. -/
theorem WithinLengths.of_bare {n : SchemaNode} (bare : n.keywords = {}) (v : Json) :
    n.WithinLengths v := by
  intro length _
  constructor
  · intro min hmin
    rw [bare] at hmin
    cases hmin
  · intro max hmax
    rw [bare] at hmax
    cases hmax

/-- The sample of a plain text is as long as its bounds ask for. -/
theorem length_fittedText {k : Keywords} (consistent : ∀ min ∈ k.minLength, ∀ max ∈ k.maxLength,
    min ≤ max) : (∀ min, k.minLength = some min → min ≤ (fittedText k).length) ∧
      ∀ max, k.maxLength = some max → (fittedText k).length ≤ max := by
  -- the text is cut first and padded then
  have cut : (cutText k).length = min (k.maxLength.getD 6) 6 := by
    have plain : "string".toList.length = 6 := rfl
    unfold cutText
    cases k.maxLength with
    | none => rfl
    | some max => rw [List.length_take, plain, Option.getD_some]
  have length : (fittedText k).length =
      max (k.minLength.getD 0) (min (k.maxLength.getD 6) 6) := by
    rw [fittedText, String.length_ofList, List.length_append, List.length_replicate, cut]
    omega
  rw [length]
  constructor
  · intro min hmin
    rw [hmin, Option.getD_some]
    exact Nat.le_max_left _ _
  · intro max hmax
    rw [hmax, Option.getD_some]
    refine Nat.max_le.2 ⟨?_, Nat.min_le_left _ _⟩
    cases hmin : k.minLength with
    | none => exact Nat.zero_le _
    | some min => exact consistent min hmin max hmax

variable {n : SchemaNode} {accepts : NodeId → Json → Prop} {child : NodeId → Json}

/-- A value without parts fits if it is one of the literals. -/
theorem Fits.of_atom {v : Json} (literal : n.enumValues = [] ∨ v ∈ n.enumValues)
    (array : ∀ items, v ≠ .array items) (object : ∀ fields, v ≠ .object fields) :
    n.Fits accepts v where
  literal := literal
  properties fields hv := absurd hv (object fields)
  required fields hv := absurd hv (object fields)
  items items hv := absurd hv (array items)
  additional fields hv := absurd hv (object fields)

/-- A node without parts asks nothing of the parts of a value. -/
theorem Fits.of_bodiless (bodiless : n.enumValues = [] ∧ n.properties = {} ∧ n.required = {} ∧
    n.items? = none ∧ n.additional? = none) (v : Json) : n.Fits accepts v := by
  obtain ⟨literals, properties, required, items, additional⟩ := bodiless
  refine ⟨.inl literals, fun _ _ name c hc => ?_, fun _ _ name hname => ?_, fun _ _ c hc => ?_,
    fun _ _ c hc => ?_⟩
  · rw [properties] at hc; cases hc
  · rw [required] at hname; cases hname
  · rw [items] at hc; cases hc
  · rw [additional] at hc; cases hc

/-- A list of one sample fits an array. -/
theorem fits_sample_array (literals : n.enumValues = [])
    (fits : ∀ c ∈ n.edges, accepts c (child c)) :
    n.Fits accepts (.array (n.items?.toList.map child)) where
  literal := .inl literals
  properties fields hv := by cases hv
  required fields hv := by cases hv
  items items hv c hc x hx := by
    cases hv
    rw [hc] at hx
    obtain rfl := List.mem_singleton.1 hx
    exact fits c (mem_edges_of_mem_children (by simp [children, hc]))
  additional fields hv := by cases hv

/-- The fields of a sample of an object: its properties, or else one property of any name. -/
theorem mem_sample_object (shaped : n.IsShaped) {e : String × Json} :
    e ∈ (SortedMap.ofList ((n.properties.mapValues child).toList
      ++ Json.optionalField "additionalProp1" (n.additional?.map child))).toList ↔
      (∃ c, n.properties.get? e.1 = some c ∧ e.2 = child c) ∨
        e.1 = "additionalProp1" ∧ ∃ c, n.additional? = some c ∧ e.2 = child c := by
  have nodup : (((n.properties.mapValues child).toList
      ++ Json.optionalField "additionalProp1" (n.additional?.map child)).map (·.1)).Nodup := by
    cases hc : n.additional? with
    | none =>
      rw [Option.map_none, Json.optionalField, List.append_nil]
      exact (n.properties.mapValues child).nodup_keys
    | some c =>
      rw [shaped.undeclared c hc]
      exact List.nodup_singleton _
  obtain ⟨name, x⟩ := e
  rw [SortedMap.mem_toList_ofList_iff nodup, List.mem_append, SortedMap.mem_toList_iff,
    SortedMap.get?_mapValues, Option.map_eq_some_iff, Json.mem_optionalField]
  simp [eq_comm]

/-- The samples of the properties fit an object, and so does one of a property of any name. -/
theorem fits_sample_object (shaped : n.IsShaped) (literals : n.enumValues = [])
    (required : ∀ name, n.required.contains name → n.properties.contains name)
    (fits : ∀ c ∈ n.edges, accepts c (child c)) :
    n.Fits accepts (.ofFields ((n.properties.mapValues child).toList
      ++ Json.optionalField "additionalProp1" (n.additional?.map child))) where
  literal := .inl literals
  properties fields hv name c hc x hx := by
    cases hv
    rcases (mem_sample_object shaped).1 (SortedMap.mem_of_lookup hx) with
      ⟨c', hc', rfl⟩ | ⟨-, c', hc', -⟩
    · obtain rfl : c' = c := Option.some.inj (hc'.symm.trans (SortedMap.mem_toList_iff.1 hc))
      refine fits c' (mem_edges_of_mem_children ?_)
      simp only [children, List.mem_append, List.mem_map]
      exact .inl (.inl (.inl ⟨_, hc, rfl⟩))
    · rw [shaped.undeclared c' hc'] at hc
      cases hc
  required fields hv name hname := by
    cases hv
    obtain ⟨c, hc⟩ := SortedMap.contains_iff.1 (required name (SortedMap.mem_keys_iff.1 hname))
    obtain ⟨x, hx⟩ := SortedMap.exists_lookup
      ((mem_sample_object shaped (e := (name, child c))).2 (.inl ⟨c, hc, rfl⟩))
    rw [hx]
    rfl
  items items hv := by cases hv
  additional fields hv c hc e he undeclared := by
    cases hv
    rcases (mem_sample_object shaped).1 he with ⟨c', hc', -⟩ | ⟨-, c', hc', hx⟩
    · exact absurd (SortedMap.mem_keys_iff.2 (SortedMap.contains_iff.2 ⟨c', hc'⟩)) undeclared
    · obtain rfl : c' = c := Option.some.inj (hc'.symm.trans hc)
      rw [hx]
      exact fits c' (mem_edges_of_mem_children (by simp [children, hc]))

/-- The sample of a node of a primitive type without literals. -/
theorem validates_sample_primitive (shaped : n.IsShaped) (plain : n.OnlyLengths)
    {p : PrimitiveType} (kind : n.kind = .primitive p) (literals : n.enumValues = [])
    (required : ∀ name, n.required.contains name → n.properties.contains name)
    (isNull : NodeId → Bool) (fits : ∀ c ∈ n.edges, accepts c (child c)) :
    n.Validates accepts (n.sample isNull child) := by
  have bare : p ≠ .string → n.keywords = {} := fun other =>
    plain.keywords_eq kind fun hk => other (NodeKind.primitive.inj hk)
  have atom : ∀ {v : Json}, (∀ items, v ≠ .array items) → (∀ fields, v ≠ .object fields) →
      n.Fits accepts v := fun array object => .of_atom (.inl literals) array object
  simp only [sample, plain.exampleless, literals, kind]
  cases p with
  | string =>
    simp only [sampleText]
    cases format : n.format? with
    | some format =>
      refine ⟨by rw [kind]; trivial, atom (by simp) (by simp), .of_bare ?_ _⟩
      refine plain.bounds.resolve_right fun text => ?_
      rw [text.2.1] at format
      cases format
    | none =>
      refine ⟨by rw [kind]; trivial, atom (by simp) (by simp), fun length hlength => ?_⟩
      simp only [length?, primitive?, kind, Option.some.injEq] at hlength
      subst hlength
      exact length_fittedText plain.consistent
  | integer =>
    have sample : sampleInteger n.keywords = .int 0 := by rw [bare (by simp)]; rfl
    rw [sample]
    exact ⟨by rw [kind]; trivial, atom (by simp) (by simp), .of_bare (bare (by simp)) _⟩
  | number =>
    have sample : sampleNumber n.keywords = .float 0 := by rw [bare (by simp)]; rfl
    rw [sample]
    exact ⟨by rw [kind]; trivial, atom (by simp) (by simp), .of_bare (bare (by simp)) _⟩
  | boolean => exact ⟨by rw [kind]; trivial, atom (by simp) (by simp), .of_bare (bare (by simp)) _⟩
  | array =>
    exact ⟨by rw [kind]; trivial, fits_sample_array literals fits, .of_bare (bare (by simp)) _⟩
  | object =>
    exact ⟨by rw [kind]; trivial, fits_sample_object shaped literals required fits,
      .of_bare (bare (by simp)) _⟩

/-- **A sample of a node fits if those of the nodes that it leads to do.** -/
theorem validates_sample (shaped : n.IsShaped) (plain : n.OnlyLengths)
    (required : ∀ name, n.required.contains name → n.properties.contains name)
    {isNull : NodeId → Bool} (null : ∀ c, isNull c → child c = .null)
    (fits : ∀ c ∈ n.edges, accepts c (child c)) : n.Validates accepts (n.sample isNull child) := by
  cases literals : n.enumValues with
  | cons v rest =>
    -- the first literal is a text or an integer
    have sample : n.sample isNull child = v := by simp only [sample, plain.exampleless, literals]
    have mem : v ∈ n.enumValues := literals ▸ List.mem_cons_self
    have bare : n.keywords = {} := plain.bounds.resolve_right fun text => by
      rw [text.2.2.1] at literals
      cases literals
    rw [sample]
    rcases shaped.literals v mem with ⟨kind, s, rfl⟩ | ⟨kind, i, rfl⟩ <;>
      exact ⟨by rw [kind]; trivial, .of_atom (.inr mem) (by simp) (by simp), .of_bare bare _⟩
  | nil =>
    have inner : ∀ ids, (n.kind = .anyOf ids ∨ n.kind = .allOf ids) → ∀ c ∈ ids, c ∈ n.edges := by
      intro ids hk c hc
      refine mem_edges_of_mem_children ?_
      rcases hk with hk | hk <;> simp [children, hk, hc]
    have bodiless : ∀ kind, n.kind = kind → (∀ p, kind ≠ .primitive p) → ∀ v,
        kind.Admits accepts v → n.Validates accepts v := by
      intro kind hk none v admits
      refine ⟨hk ▸ admits, .of_bodiless (shaped.bodiless.resolve_left ?_) v,
        .of_bare (plain.keywords_eq hk (none _)) v⟩
      rintro ⟨p, hp⟩
      exact none p (hk.symm.trans hp)
    cases kind : n.kind with
    | primitive p =>
      exact validates_sample_primitive shaped plain kind literals required isNull fits
    | null =>
      simp only [sample, plain.exampleless, literals, kind]
      exact bodiless _ kind (by simp) _ rfl
    | anyOf ids =>
      refine bodiless _ kind (by simp) _ ?_
      simp only [sample, plain.exampleless, literals, kind]
      cases found : ids.find? (fun id => !isNull id) with
      | some c =>
        have mem := List.mem_of_find?_eq_some found
        exact ⟨c, mem, fits c (inner ids (.inl kind) c mem)⟩
      | none =>
        -- there is nothing but null
        obtain ⟨c, rest, rfl⟩ := List.exists_cons_of_ne_nil (shaped.alternatives ids kind)
        have hnull : isNull c := by simpa using List.find?_eq_none.1 found c List.mem_cons_self
        refine ⟨c, List.mem_cons_self, ?_⟩
        rw [← null c hnull]
        exact fits c (inner _ (.inl kind) c List.mem_cons_self)
    | oneOf ids => exact absurd kind (shaped.exclusive ids)
    | allOf ids =>
      obtain ⟨c, rfl⟩ := shaped.single ids kind
      refine bodiless _ kind (by simp) _ fun c' hc' => ?_
      obtain rfl := List.mem_singleton.1 hc'
      simp only [sample, plain.exampleless, literals, kind]
      exact fits c' (inner _ (.inr kind) c' List.mem_cons_self)
    | placeholder p => exact bodiless _ kind (by simp) _ trivial
    | reference r =>
      refine bodiless _ kind (by simp) _ ?_
      simp only [sample, plain.exampleless, literals, kind]
      exact fits r.target (by simp [edges, kind])

end SchemaNode

/-! ### Arenas -/

namespace Arena

variable {a : Arena}

/-- **In a grounded arena of well-shaped nodes whose bounds can be met, every sample fits.** -/
theorem Grounded.accepts_sample (h : a.Grounded) (shaped : a.All SchemaNode.IsShaped)
    (plain : a.All SchemaNode.OnlyLengths) {id : NodeId} {n : SchemaNode}
    (hn : a.get? id = some n) : a.Accepts id (a.sample id) := by
  have null : ∀ c, a.isNull c → a.sample c = .null := by
    intro c hc
    obtain ⟨m, hm, kind⟩ := isNull_iff.1 hc
    obtain ⟨literals, -⟩ := (shaped c m hm).bodiless.resolve_left fun ⟨p, hp⟩ => by
      rw [kind] at hp
      cases hp
    rw [h.sample_eq hm]
    simp only [SchemaNode.sample, (plain c m hm).exampleless, literals, kind]
  -- as many levels as nodes come before are enough
  suffices ∀ levels id n, a.get? id = some n → id.index < levels →
      a.AcceptsTo levels id (a.sample id) from
    ⟨id.index + 1, fun levels hle => this levels id n hn hle⟩
  intro levels
  induction levels with
  | zero => intro id n _ hid; omega
  | succ levels ih =>
    intro id n hn hid
    refine ⟨n, hn, ?_⟩
    rw [h.sample_eq hn]
    refine SchemaNode.validates_sample (shaped id n hn) (plain id n hn) (h.required id n hn) null
      fun c hc => ?_
    have back := h.backward id n hn c hc
    obtain ⟨m, hm⟩ := exists_get? (Nat.lt_trans back (lt_size_of_get? hn))
    exact ih c m hm (by omega)

end Arena

end TypeSchema
