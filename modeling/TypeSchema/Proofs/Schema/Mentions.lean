import TypeSchema.Proofs.Schema.Arena
import TypeSchema.Proofs.SortedMap
import TypeSchema.Schema.Render

/-!
# Schema — the components that a schema mentions

A schema mentions a component where it has a `$ref` to it, at any depth.  The value of an `example`
keyword is data and not looked into; a property of that name is a schema like any other.

Only references and placeholders are rendered with a `$ref` or an `x-placeholder`, and literals are
no objects.  So a schema with one of these keywords, anywhere in what is rendered, is the rendering
of a stand-in of the arena (`isShared_of_hasSchema`), and what is mentioned is what some node of the
arena points to (`pointsTo_of_mentions`).
-/

namespace TypeSchema

/-- The component `id` is mentioned. -/
inductive Json.Mentions (id : String) : Json → Prop where
  | ref {fields : List (String × Json)} (h : ("$ref", componentRef id) ∈ fields) :
      Mentions id (.object fields)
  | keyword {fields : List (String × Json)} {key : String} {v : Json} (h : (key, v) ∈ fields)
      (schema : key ≠ "example" ∧ key ≠ "properties") (inner : Mentions id v) :
      Mentions id (.object fields)
  | property {fields properties : List (String × Json)} {name : String} {v : Json}
      (h : ("properties", .object properties) ∈ fields) (member : (name, v) ∈ properties)
      (inner : Mentions id v) : Mentions id (.object fields)
  | item {items : List Json} {v : Json} (h : v ∈ items) (inner : Mentions id v) :
      Mentions id (.array items)

/-- One of the schemas in a value has just these fields. -/
inductive Json.HasSchema (schema : List (String × Json)) : Json → Prop where
  | here : HasSchema schema (.object schema)
  | keyword {fields : List (String × Json)} {key : String} {v : Json} (h : (key, v) ∈ fields)
      (inside : key ≠ "example" ∧ key ≠ "properties") (inner : HasSchema schema v) :
      HasSchema schema (.object fields)
  | property {fields properties : List (String × Json)} {name : String} {v : Json}
      (h : ("properties", .object properties) ∈ fields) (member : (name, v) ∈ properties)
      (inner : HasSchema schema v) : HasSchema schema (.object fields)
  | item {items : List Json} {v : Json} (h : v ∈ items) (inner : HasSchema schema v) :
      HasSchema schema (.array items)

/-- A component is mentioned by the schema that has the `$ref`. -/
theorem Json.mentions_iff {id : String} {j : Json} :
    j.Mentions id ↔ ∃ schema, j.HasSchema schema ∧ ("$ref", componentRef id) ∈ schema := by
  constructor
  · intro h
    induction h with
    | @ref fields h => exact ⟨fields, .here, h⟩
    | keyword h inside _ ih =>
      obtain ⟨schema, has, ref⟩ := ih
      exact ⟨schema, .keyword h inside has, ref⟩
    | property h member _ ih =>
      obtain ⟨schema, has, ref⟩ := ih
      exact ⟨schema, .property h member has, ref⟩
    | item h _ ih =>
      obtain ⟨schema, has, ref⟩ := ih
      exact ⟨schema, .item h has, ref⟩
  · rintro ⟨schema, has, ref⟩
    induction has with
    | here => exact .ref ref
    | keyword h inside _ ih => exact .keyword h inside ih
    | property h member _ ih => exact .property h member ih
    | item h _ ih => exact .item h ih

/-- A schema with these fields stands for another one. -/
def Json.IsStandIn (schema : List (String × Json)) : Prop :=
  ∃ e ∈ schema, e.1 = "$ref" ∨ e.1 = "x-placeholder"

/-- A value that is no array and no object. -/
def Json.IsAtom : Json → Prop
  | .array _ | .object _ => False
  | _ => True

theorem Json.IsAtom.not_hasSchema {schema : List (String × Json)} {v : Json} (h : v.IsAtom) :
    ¬ v.HasSchema schema := by
  intro has
  cases has <;> exact h

@[simp] theorem Json.isAtom_string (s : String) : (Json.string s).IsAtom := trivial

theorem Json.isAtom_ofBound (x : Float) : (Json.ofBound x).IsAtom := by
  unfold Json.ofBound
  split
  · split
    · split <;> trivial
    · trivial
  · trivial

@[simp] theorem Json.isAtom_ofNat (n : Nat) : (Json.ofNat n).IsAtom := trivial

theorem Json.not_hasSchema_array {schema : List (String × Json)} {vs : List Json}
    (h : ∀ v ∈ vs, v.IsAtom) : ¬ (Json.array vs).HasSchema schema := by
  rintro (_ | _ | _ | ⟨hv, has⟩)
  exact (h _ hv).not_hasSchema has

/-- A field of an object that is made from fields is one of them. -/
theorem Json.mem_of_ofFields {l fields : List (String × Json)} {e : String × Json}
    (h : Json.ofFields l = .object fields) (he : e ∈ fields) : e ∈ l := by
  obtain rfl : fields = (SortedMap.ofList l).toList := by cases h; rfl
  exact SortedMap.mem_of_mem_ofList he

theorem Json.mem_ofFields_iff {l fields : List (String × Json)} (nodup : (l.map (·.1)).Nodup)
    (h : Json.ofFields l = .object fields) {e : String × Json} : e ∈ fields ↔ e ∈ l := by
  obtain rfl : fields = (SortedMap.ofList l).toList := by cases h; rfl
  exact SortedMap.mem_toList_ofList_iff nodup

theorem Json.mem_optionalField {key k : String} {v? : Option Json} {v : Json} :
    (k, v) ∈ Json.optionalField key v? ↔ k = key ∧ v? = some v := by
  cases v? <;> simp [Json.optionalField, eq_comm]

namespace SchemaNode

/-- The node stands for the component `id`. -/
def PointsTo (n : SchemaNode) (id : String) : Prop :=
  (∃ r, n.kind = .reference r ∧ r.identifier = id) ∨
    ∃ p, n.kind = .placeholder p ∧ p.identifier? = some id

/-- The literals are no arrays and no objects. -/
def AtomicLiterals (n : SchemaNode) : Prop := ∀ v ∈ n.enumValues, v.IsAtom

end SchemaNode

/-- Where an object that is made from fields has a schema. -/
theorem Json.HasSchema.of_fields {schema l : List (String × Json)}
    (h : (Json.ofFields l).HasSchema schema) :
    Json.ofFields l = .object schema ∨
      (∃ key v, (key, v) ∈ l ∧ (key ≠ "example" ∧ key ≠ "properties") ∧ v.HasSchema schema) ∨
      ∃ properties name v, ("properties", .object properties) ∈ l ∧ (name, v) ∈ properties ∧
        v.HasSchema schema := by
  cases hf : Json.ofFields l with
  | object fields =>
    have hl : ∀ {e}, e ∈ fields → e ∈ l := Json.mem_of_ofFields hf
    rw [hf] at h
    cases h with
    | here => exact .inl rfl
    | keyword h inside inner => exact .inr (.inl ⟨_, _, hl h, inside, inner⟩)
    | property h member inner => exact .inr (.inr ⟨_, _, _, hl h, member, inner⟩)
  | _ => cases hf

/-- The keyword is neither one of a stand-in, nor does it have schemas under names. -/
def Json.IsKeyword (key : String) : Prop :=
  key ≠ "$ref" ∧ key ≠ "x-placeholder" ∧ key ≠ "properties"

instance (key : String) : Decidable (Json.IsKeyword key) :=
  inferInstanceAs (Decidable (_ ∧ _ ∧ _))

/-- An object of fields without schemas has no stand-in. -/
theorem Json.IsStandIn.not_hasSchema_ofFields {schema l : List (String × Json)}
    (standIn : Json.IsStandIn schema) (hl : ∀ e ∈ l, Json.IsKeyword e.1 ∧ e.2.IsAtom) :
    ¬ (Json.ofFields l).HasSchema schema := by
  intro h
  rcases h.of_fields with h | ⟨_, _, h, -, has⟩ | ⟨_, _, _, h, -⟩
  · obtain ⟨e, he, hkey⟩ := standIn
    obtain ⟨⟨noRef, noPlaceholder, -⟩, -⟩ := hl e (Json.mem_of_ofFields h he)
    exact hkey.elim noRef noPlaceholder
  · exact (hl _ h).2.not_hasSchema has
  · exact (hl _ h).1.2.2 rfl

/-- References to different components are different. -/
theorem componentRef_injective {id id' : String} (h : componentRef id = componentRef id') :
    id = id' := by
  simp only [componentRef, Json.string.injEq] at h
  exact (String.append_right_inj _).1 h

namespace SchemaNode

variable {schema : List (String × Json)} {child : NodeId → Json}

/-- A field that is not one of a stand-in, and has a schema only if one of the children does. -/
def Passes (schema : List (String × Json)) (child : NodeId → Json) (key : String) (v : Json) :
    Prop :=
  (key ≠ "$ref" ∧ key ≠ "x-placeholder") ∧
  (key = "properties" → ∃ m : SortedMap NodeId, v = Json.ofMap (m.mapValues child)) ∧
  (key ≠ "example" → key ≠ "properties" → v.HasSchema schema → ∃ c, (child c).HasSchema schema)

theorem passes_of_not_hasSchema {key : String} {v : Json} (hk : Json.IsKeyword key)
    (hv : ¬ v.HasSchema schema) : Passes schema child key v :=
  ⟨⟨hk.1, hk.2.1⟩, fun h => absurd h hk.2.2, fun _ _ has => absurd has hv⟩

theorem passes_atom {key : String} {v : Json} (hk : Json.IsKeyword key) (hv : v.IsAtom) :
    Passes schema child key v := passes_of_not_hasSchema hk hv.not_hasSchema

theorem passes_child {key : String} (hk : Json.IsKeyword key) (c : NodeId) :
    Passes schema child key (child c) :=
  ⟨⟨hk.1, hk.2.1⟩, fun h => absurd h hk.2.2, fun _ _ has => ⟨c, has⟩⟩

/-- A list of children has what one of them has. -/
theorem passes_children {key : String} (hk : Json.IsKeyword key) (ids : List NodeId) :
    Passes schema child key (.array (ids.map child)) := by
  refine ⟨⟨hk.1, hk.2.1⟩, fun h => absurd h hk.2.2, fun _ _ has => ?_⟩
  cases has with
  | item h inner =>
    obtain ⟨c, -, rfl⟩ := List.mem_map.1 h
    exact ⟨c, inner⟩

theorem isKeyword_lengthKeys (n : SchemaNode) :
    Json.IsKeyword n.lengthKeys.1 ∧ Json.IsKeyword n.lengthKeys.2 := by
  unfold lengthKeys
  split <;> decide

/-- Each keyword of a node passes on the schemas of its children. -/
theorem passes_keyword {n : SchemaNode} (hn : n.AtomicLiterals)
    (standIn : Json.IsStandIn schema) {key : String} {v : Json}
    (h : (key, v) ∈ n.keywordFields child) : Passes schema child key v := by
  simp only [keywordFields, numberField, List.mem_append, Json.mem_optionalField,
    Option.map_eq_some_iff] at h
  rcases h with (((((((((((((h | h) | h) | h) | h) | h) | h) | h) | h) | h) | h) | h) | h) | h) | h
  · obtain ⟨rfl, s, -, rfl⟩ := h; exact passes_atom (by decide) trivial
  · split at h
    · obtain ⟨rfl, rfl⟩ := Prod.mk.inj (List.mem_singleton.1 h)
      exact passes_atom (by decide) trivial
    · cases h
  · split at h
    · cases h
    · obtain ⟨rfl, rfl⟩ := Prod.mk.inj (List.mem_singleton.1 h)
      exact passes_of_not_hasSchema (by decide) (Json.not_hasSchema_array hn)
  · split at h
    · cases h
    · obtain ⟨rfl, rfl⟩ := Prod.mk.inj (List.mem_singleton.1 h)
      exact ⟨by decide, fun _ => ⟨_, rfl⟩, fun _ hk => absurd rfl hk⟩
  · split at h
    · cases h
    · obtain ⟨rfl, rfl⟩ := Prod.mk.inj (List.mem_singleton.1 h)
      refine passes_of_not_hasSchema (by decide) (Json.not_hasSchema_array fun v hv => ?_)
      obtain ⟨s, -, rfl⟩ := List.mem_map.1 hv
      trivial
  · obtain ⟨rfl, c, -, rfl⟩ := h; exact passes_child (by decide) c
  · obtain ⟨rfl, c, -, rfl⟩ := h; exact passes_child (by decide) c
  · obtain ⟨rfl, x, -, rfl⟩ := h; exact passes_atom (by decide) (Json.isAtom_ofBound x)
  · obtain ⟨rfl, x, -, rfl⟩ := h; exact passes_atom (by decide) (Json.isAtom_ofBound x)
  · obtain ⟨rfl, x, -, rfl⟩ := h; exact passes_atom n.isKeyword_lengthKeys.1 trivial
  · obtain ⟨rfl, x, -, rfl⟩ := h; exact passes_atom n.isKeyword_lengthKeys.2 trivial
  · obtain ⟨rfl, s, -, rfl⟩ := h; exact passes_atom (by decide) trivial
  · obtain ⟨rfl, -⟩ := h; exact ⟨by decide, fun h => by simp at h, fun hk => absurd rfl hk⟩
  · obtain ⟨rfl, s, -, rfl⟩ := h; exact passes_atom (by decide) trivial
  · obtain ⟨rfl, t, -, rfl⟩ := h
    refine passes_of_not_hasSchema (by decide) (standIn.not_hasSchema_ofFields ?_)
    simp [Json.IsKeyword]

/-- An object of fields that pass has a stand-in only if one of the children does. -/
theorem hasSchema_of_passes (standIn : Json.IsStandIn schema) {l : List (String × Json)}
    (hl : ∀ key v, (key, v) ∈ l → Passes schema child key v)
    (h : (Json.ofFields l).HasSchema schema) : ∃ c, (child c).HasSchema schema := by
  rcases h.of_fields with h | ⟨key, v, h, hk, has⟩ | ⟨ps, name, v, h, hv, has⟩
  · obtain ⟨⟨key, v⟩, he, hkey⟩ := standIn
    obtain ⟨noRef, noPlaceholder⟩ := (hl key v (Json.mem_of_ofFields h he)).1
    exact (hkey.elim noRef noPlaceholder).elim
  · exact (hl _ _ h).2.2 hk.1 hk.2 has
  · obtain ⟨m, he⟩ := (hl _ _ h).2.1 rfl
    obtain rfl : ps = (m.mapValues child).toList := by cases he; rfl
    simp only [SortedMap.mapValues, SortedMap.toList, List.mem_map, Prod.mk.injEq] at hv
    obtain ⟨e, -, -, rfl⟩ := hv
    exact ⟨e.2, has⟩

/-- A stand-in is rendered without its children. -/
theorem render_of_isShared {n : SchemaNode} (shared : n.isShared) (child child' : NodeId → Json) :
    n.render child = n.render child' := by
  unfold render
  cases hk : n.kind with
  | placeholder p => rfl
  | reference r => rfl
  | primitive _ | null | anyOf _ | oneOf _ | allOf _ => simp [isShared, hk] at shared

/-- The fields of a stand-in have no schemas but the whole. -/
theorem eq_of_hasSchema_isShared {n : SchemaNode} (shared : n.isShared)
    (standIn : Json.IsStandIn schema) (h : (n.render child).HasSchema schema) :
    n.render child = .object schema := by
  unfold render at h ⊢
  cases hk : n.kind with
  | placeholder p =>
    simp only [hk] at h ⊢
    have inner : ¬ (Json.ofFields [("type", .string p.typeName),
        ("reason", .string p.reason.name)]).HasSchema schema :=
      standIn.not_hasSchema_ofFields (by simp [Json.IsKeyword])
    rcases h.of_fields with h | ⟨key, v, h, -, has⟩ | ⟨_, _, _, h, -⟩
    · exact h
    · rcases List.mem_cons.1 h with h | h
      · obtain ⟨-, rfl⟩ := Prod.mk.inj h
        exact absurd has inner
      · obtain ⟨id, -, rfl⟩ := Option.map_eq_some_iff.1 (Json.mem_optionalField.1 h).2
        exact absurd has (Json.IsAtom.not_hasSchema trivial)
    · simp [Json.mem_optionalField] at h
  | reference r =>
    simp only [hk] at h ⊢
    rcases h.of_fields with h | ⟨key, v, h, -, has⟩ | ⟨_, _, _, h, -⟩
    · exact h
    · obtain ⟨-, rfl⟩ := Prod.mk.inj (List.mem_singleton.1 h)
      exact absurd has (Json.IsAtom.not_hasSchema trivial)
    · simp at h
  | primitive _ | null | anyOf _ | oneOf _ | allOf _ => simp [isShared, hk] at shared

/-- A node that stands for itself is rendered with fields that pass. -/
theorem exists_passes {n : SchemaNode} (own : ¬ n.isShared) (hn : n.AtomicLiterals)
    (standIn : Json.IsStandIn schema) (child : NodeId → Json) :
    ∃ l, n.render child = Json.ofFields l ∧ ∀ key v, (key, v) ∈ l → Passes schema child key v := by
  have keywords : ∀ {key : String} {v : Json}, Passes schema child key v →
      ∀ k x, (k, x) ∈ (key, v) :: n.keywordFields child → Passes schema child k x := by
    intro key v hfirst k x hx
    rcases List.mem_cons.1 hx with hx | hx
    · cases hx; exact hfirst
    · exact passes_keyword hn standIn hx
  unfold render
  cases hk : n.kind with
  | placeholder p => simp [isShared, hk] at own
  | reference r => simp [isShared, hk] at own
  | primitive p => exact ⟨_, rfl, keywords (passes_atom (by decide) (Json.isAtom_string _))⟩
  | null => exact ⟨_, rfl, keywords (passes_atom (by decide) (Json.isAtom_string _))⟩
  | anyOf ids | oneOf ids | allOf ids => exact ⟨_, rfl, keywords (passes_children (by decide) ids)⟩

/-- **A stand-in in a rendered node is the node itself or in one of its children.** -/
theorem hasSchema_render {n : SchemaNode} (hn : n.AtomicLiterals)
    (standIn : Json.IsStandIn schema) (h : (n.render child).HasSchema schema) :
    (n.isShared ∧ n.render child = .object schema) ∨ ∃ c, (child c).HasSchema schema := by
  by_cases shared : n.isShared
  · exact .inl ⟨shared, eq_of_hasSchema_isShared shared standIn h⟩
  · obtain ⟨l, rendered, passes⟩ := exists_passes shared hn standIn child
    exact .inr (hasSchema_of_passes standIn passes (rendered ▸ h))

/-- A node that stands for itself is not rendered as a stand-in. -/
theorem not_isStandIn_render {n : SchemaNode} (own : ¬ n.isShared) (hn : n.AtomicLiterals)
    (h : n.render child = .object schema) : ¬ Json.IsStandIn schema := by
  intro standIn
  obtain ⟨l, rendered, passes⟩ := exists_passes own hn standIn child
  obtain ⟨⟨key, v⟩, he, hkey⟩ := standIn
  obtain ⟨noRef, noPlaceholder⟩ :=
    (passes key v (Json.mem_of_ofFields (rendered.symm.trans h) he)).1
  exact hkey.elim noRef noPlaceholder

/-- A stand-in that is rendered with a `$ref` points to that component. -/
theorem pointsTo_of_ref {n : SchemaNode} (shared : n.isShared)
    (h : n.render child = .object schema) {id : String}
    (ref : ("$ref", componentRef id) ∈ schema) : n.PointsTo id := by
  unfold render at h
  cases hk : n.kind with
  | placeholder p =>
    simp only [hk] at h
    have mem := Json.mem_of_ofFields h ref
    simp only [List.mem_cons, Prod.mk.injEq, Json.mem_optionalField, Option.map_eq_some_iff] at mem
    rcases mem with ⟨key, -⟩ | ⟨-, id', hid, href⟩
    · exact absurd key (by decide)
    · exact .inr ⟨p, hk, componentRef_injective href ▸ hid⟩
  | reference r =>
    simp only [hk] at h
    have mem := Json.mem_of_ofFields h ref
    simp only [List.mem_singleton, Prod.mk.injEq, true_and] at mem
    exact .inl ⟨r, hk, (componentRef_injective mem).symm⟩
  | primitive _ | null | anyOf _ | oneOf _ | allOf _ => simp [isShared, hk] at shared

end SchemaNode

namespace Arena

variable {a : Arena} {schema : List (String × Json)}

theorem render_of_isShared {j : NodeId} {n : SchemaNode} (hn : a.get? j = some n)
    (shared : n.isShared) (child : NodeId → Json) : a.render j = n.render child := by
  obtain ⟨levels, hlevels⟩ := Nat.exists_eq_add_of_lt (lt_size_of_get? hn)
  simp only [render, hlevels, renderTo, hn]
  exact SchemaNode.render_of_isShared shared _ _

/-- What is not a stand-in is not rendered as one. -/
theorem not_isStandIn_render (ha : a.All SchemaNode.AtomicLiterals) {j : NodeId}
    (own : ¬ a.isShared j) (h : a.render j = .object schema) : ¬ Json.IsStandIn schema := by
  cases hn : a.get? j with
  | none =>
    have blank : a.render j = .object [] := by
      unfold render
      cases a.size <;> simp [renderTo, hn]
    cases blank.symm.trans h
    rintro ⟨e, he, -⟩
    cases he
  | some n =>
    rw [isShared_eq hn] at own
    obtain ⟨levels, hlevels⟩ := Nat.exists_eq_add_of_lt (lt_size_of_get? hn)
    simp only [render, hlevels, renderTo, hn] at h
    exact SchemaNode.not_isStandIn_render own (ha _ _ hn) h

/-- **A stand-in in what is rendered is the rendering of a stand-in of the arena.** -/
theorem isShared_of_hasSchema (ha : a.All SchemaNode.AtomicLiterals)
    (standIn : Json.IsStandIn schema) {levels : Nat} {node : NodeId}
    (h : (a.renderTo levels node).HasSchema schema) :
    ∃ j n, a.get? j = some n ∧ n.isShared ∧ a.render j = .object schema := by
  have blank : ¬ (Json.ofFields []).HasSchema schema :=
    standIn.not_hasSchema_ofFields (by simp)
  induction levels generalizing node with
  | zero => exact absurd h blank
  | succ levels ih =>
    simp only [renderTo] at h
    cases hn : a.get? node with
    | none =>
      rw [hn] at h
      exact absurd h blank
    | some n =>
      rw [hn] at h
      rcases SchemaNode.hasSchema_render (ha _ _ hn) standIn h with ⟨shared, whole⟩ | ⟨c, hc⟩
      · exact ⟨node, n, hn, shared, (render_of_isShared hn shared _).trans whole⟩
      · exact ih hc

/-- **What a rendered node mentions is what a node of the arena points to.** -/
theorem pointsTo_of_mentions (ha : a.All SchemaNode.AtomicLiterals) {id : String} {levels : Nat}
    {node : NodeId} (h : (a.renderTo levels node).Mentions id) :
    ∃ j n, a.get? j = some n ∧ n.PointsTo id := by
  obtain ⟨schema, has, ref⟩ := Json.mentions_iff.1 h
  obtain ⟨j, n, hn, shared, whole⟩ := isShared_of_hasSchema ha ⟨_, ref, .inl rfl⟩ has
  rw [render_of_isShared hn shared fun _ => .null] at whole
  exact ⟨j, n, hn, SchemaNode.pointsTo_of_ref shared whole ref⟩

end Arena

end TypeSchema
