import TypeSchema.Proofs.Meaning.Validation

/-!
# Meaning — what a rendered node asserts

A node without bounds is rendered with one keyword for its kind and one for each part that it has,
and accepts the values that meet them all: those that have the kind and that its body fits
(`SchemaNode.Fits`, `satisfies_primitive`, `satisfies_null`, `satisfies_anyOf`,
`satisfies_pointed`).

In an arena where children come before their parents, rendering has enough levels, so a node is
rendered from its rendered children (`Arena.render_eq`).
-/

namespace TypeSchema

namespace SchemaNode

/-- The nodes whose schemas are part of the schema of a node. -/
def children (n : SchemaNode) : List NodeId :=
  n.properties.toList.map (·.2) ++ n.items?.toList ++ n.additional?.toList ++
    match n.kind with
    | .anyOf ids | .oneOf ids | .allOf ids => ids
    | _ => []

theorem keywordFields_congr {n : SchemaNode} {child child' : NodeId → Json}
    (h : ∀ c ∈ n.children, child c = child' c) :
    n.keywordFields child = n.keywordFields child' := by
  have properties : n.properties.mapValues child = n.properties.mapValues child' := by
    refine SortedMap.ext_entries (List.map_congr_left fun e he => ?_)
    have hc : e.2 ∈ n.children := by
      simp only [children, List.mem_append, List.mem_map]
      exact .inl (.inl (.inl ⟨e, he, rfl⟩))
    rw [h _ hc]
  have items : n.items?.map child = n.items?.map child' :=
    Option.map_congr fun c hc => h c (by simp [children, hc])
  have additional : n.additional?.map child = n.additional?.map child' :=
    Option.map_congr fun c hc => h c (by simp [children, hc])
  simp only [keywordFields, properties, items, additional]

/-- A node is rendered by way of its children alone. -/
theorem render_congr {n : SchemaNode} {child child' : NodeId → Json}
    (h : ∀ c ∈ n.children, child c = child' c) : n.render child = n.render child' := by
  have alternatives : ∀ ids, n.kind = .anyOf ids ∨ n.kind = .oneOf ids ∨ n.kind = .allOf ids →
      ids.map child = ids.map child' := by
    intro ids hk
    refine List.map_congr_left fun c hc => h c ?_
    rcases hk with hk | hk | hk <;> simp [children, hk, hc]
  unfold render
  rw [keywordFields_congr h]
  split
  case h_1 | h_2 | h_3 | h_4 => rfl
  case h_5 ids hk => rw [alternatives ids (.inl hk)]
  case h_6 ids hk => rw [alternatives ids (.inr (.inl hk))]
  case h_7 ids hk => rw [alternatives ids (.inr (.inr hk))]

/-- The value meets what the parts of the node assert, given what its children accept. -/
structure Fits (n : SchemaNode) (accepts : NodeId → Json → Prop) (v : Json) : Prop where
  literal : n.enumValues = [] ∨ v ∈ n.enumValues
  properties : ∀ fields, v = .object fields → ∀ name c, (name, c) ∈ n.properties.toList →
    ∀ x, SortedMap.lookup name fields = some x → accepts c x
  required : ∀ fields, v = .object fields → ∀ name ∈ n.required.keys,
    (SortedMap.lookup name fields).isSome
  items : ∀ items, v = .array items → ∀ c, n.items? = some c → ∀ x ∈ items, accepts c x
  additional : ∀ fields, v = .object fields → ∀ c, n.additional? = some c →
    ∀ e ∈ fields, e.1 ∉ n.properties.keys → accepts c e.2

/-! ### The fields of a rendered node -/

/-- The fields for the parts of a node; a node without bounds has no others. -/
theorem keywordFields_of_bare {n : SchemaNode} (bare : n.keywords = {}) (child : NodeId → Json) :
    n.keywordFields child =
      Json.optionalField "format" (n.format?.map .string)
      ++ (if ¬ n.nullable then [] else [("nullable", .bool true)])
      ++ (if n.enumValues.isEmpty then [] else [("enum", .array n.enumValues)])
      ++ (if n.properties.isEmpty then []
          else [("properties", Json.ofMap (n.properties.mapValues child))])
      ++ (if n.required.isEmpty then [] else [("required", Json.ofStrings n.required.keys)])
      ++ Json.optionalField "items" (n.items?.map child)
      ++ Json.optionalField "additionalProperties" (n.additional?.map child)
      ++ Json.optionalField "example" n.example?
      ++ Json.optionalField "x-schema-id" (n.identifier?.map .string)
      ++ Json.optionalField "x-virtualized" (n.truncation?.map fun t =>
        Json.ofFields [("total", Json.ofNat t.total), ("truncated", Json.ofNat t.dropped)]) := by
  have none : ∀ key, Json.optionalField key none = [] := fun _ => rfl
  simp only [keywordFields, bare, numberField, Option.map_none, none, List.append_nil, ite_not]

theorem sublist_optionalField (key : String) (v? : Option Json) :
    List.Sublist ((Json.optionalField key v?).map (·.1)) [key] := by
  cases v? <;> simp [Json.optionalField]

theorem sublist_ite (key : String) (v : Json) (c : Prop) [Decidable c] :
    List.Sublist ((if c then [] else [(key, v)]).map (·.1)) [key] := by
  split <;> simp

theorem lengthKeys_cases (n : SchemaNode) :
    n.lengthKeys = ("minItems", "maxItems") ∨ n.lengthKeys = ("minLength", "maxLength") := by
  unfold lengthKeys
  split
  · exact .inl rfl
  · exact .inr rfl

/-- The keys of a rendered node that is no stand-in are different. -/
theorem nodup_keys (n : SchemaNode) (child : NodeId → Json) {key : String}
    (hkey : key ∈ ["type", "anyOf", "oneOf", "allOf"]) (arg : Json) :
    (((key, arg) :: n.keywordFields child).map (·.1)).Nodup := by
  have sublist : List.Sublist ((n.keywordFields child).map (·.1))
      (["format"] ++ ["nullable"] ++ ["enum"] ++ ["properties"] ++ ["required"] ++ ["items"]
        ++ ["additionalProperties"] ++ ["minimum"] ++ ["maximum"] ++ [n.lengthKeys.1]
        ++ [n.lengthKeys.2] ++ ["pattern"] ++ ["example"] ++ ["x-schema-id"]
        ++ ["x-virtualized"]) := by
    have nullable := sublist_ite "nullable" (.bool true) (¬ n.nullable)
    rw [ite_not] at nullable
    simp only [keywordFields, numberField, List.map_append]
    exact ((((((((((((((sublist_optionalField _ _).append nullable).append
      (sublist_ite _ _ _)).append (sublist_ite _ _ _)).append (sublist_ite _ _ _)).append
      (sublist_optionalField _ _)).append (sublist_optionalField _ _)).append
      (sublist_optionalField _ _)).append (sublist_optionalField _ _)).append
      (sublist_optionalField _ _)).append (sublist_optionalField _ _)).append
      (sublist_optionalField _ _)).append (sublist_optionalField _ _)).append
      (sublist_optionalField _ _)).append (sublist_optionalField _ _)
  refine List.Nodup.sublist (sublist.cons_cons key) ?_
  simp only [List.mem_cons, List.not_mem_nil, or_false] at hkey
  rcases n.lengthKeys_cases with h | h <;> rw [h] <;>
    rcases hkey with rfl | rfl | rfl | rfl <;> decide

theorem forall_mem_optionalField {key : String} {v? : Option Json} {P : String × Json → Prop} :
    (∀ e ∈ Json.optionalField key v?, P e) ↔ ∀ v, v? = some v → P (key, v) := by
  cases v? <;> simp [Json.optionalField]

theorem forall_mem_ite {key : String} {v : Json} {c : Prop} [Decidable c]
    {P : String × Json → Prop} :
    (∀ e ∈ if c then [] else [(key, v)], P e) ↔ (¬ c → P (key, v)) := by
  split <;> simp_all

open SchemaDocument

/-- The properties that a rendered node declares are its own. -/
theorem declares_iff {n : SchemaNode} (bare : n.keywords = {}) (child : NodeId → Json)
    {key : String} (hkey : key ∈ ["type", "anyOf", "oneOf", "allOf"]) (arg : Json)
    (name : String) :
    Declares ((key, arg) :: n.keywordFields child) name ↔ name ∈ n.properties.keys := by
  have hne : "properties" ≠ key := fun e => by subst e; revert hkey; decide
  have field : ∀ {j}, ("properties", j) ∈ (key, arg) :: n.keywordFields child ↔
      ¬ n.properties.isEmpty ∧ j = Json.ofMap (n.properties.mapValues child) := by
    intro j
    simp [keywordFields_of_bare bare, Json.mem_optionalField, hne]
  simp only [Declares, field, Json.ofMap, Json.object.injEq, SortedMap.keys, List.mem_map]
  constructor
  · rintro ⟨_, s, ⟨-, rfl⟩, hs⟩
    obtain ⟨e, he, hes⟩ := List.mem_map.1 hs
    exact ⟨e, he, congrArg Prod.fst hes⟩
  · rintro ⟨e, he, rfl⟩
    have hempty : ¬ n.properties.isEmpty := by
      simp only [SortedMap.isEmpty, List.isEmpty_iff]
      exact List.ne_nil_of_mem he
    exact ⟨_, child e.2, ⟨hempty, rfl⟩, List.mem_map.2 ⟨e, he, rfl⟩⟩

variable {d : SchemaDocument} {bound : BoundReading}

/-- **The values that the schema of a node accepts** are those that it fits, among those that have
what the keyword for its kind asserts. -/
theorem satisfies_keywords {n : SchemaNode} (bare : n.keywords = {}) {child : NodeId → Json}
    (key : String) (hkey : key ∈ ["type", "anyOf", "oneOf", "allOf"]) {arg v : Json}
    {levels : Nat} :
    d.Satisfies bound (levels + 1) (Json.ofFields ((key, arg) :: n.keywordFields child)) v ↔
      d.Asserts bound (d.Satisfies bound levels) (· ∈ n.properties.keys) key arg v ∧
        n.Fits (fun c => d.Satisfies bound levels (child c)) v := by
  have declares := funext fun name => propext (declares_iff bare child hkey arg name)
  rw [satisfies_ofFields (nodup_keys n child hkey arg), declares, List.forall_mem_cons]
  refine and_congr_right fun _ => ?_
  simp only [keywordFields_of_bare bare, List.forall_mem_append, forall_mem_optionalField,
    forall_mem_ite]
  -- a keyword that is left out has nothing to assert
  constructor
  · rintro ⟨⟨⟨⟨⟨⟨⟨⟨⟨-, -⟩, literal⟩, properties⟩, required⟩, items⟩, additional⟩, -⟩, -⟩, -⟩
    refine ⟨?_, fun fields hv name c hc x hx => ?_, fun fields hv name hname => ?_,
      fun vs hv c hc => ?_, fun fields hv c hc => ?_⟩
    · by_cases he : n.enumValues = []
      · exact .inl he
      · obtain ⟨_, hvalues, hmem⟩ := literal (by simpa using he)
        cases hvalues
        exact .inr hmem
    · have hne : ¬ n.properties.isEmpty := by
        simpa [SortedMap.isEmpty, SortedMap.toList] using List.ne_nil_of_mem hc
      obtain ⟨_, hschemas, each⟩ := properties hne
      cases hschemas
      exact each fields hv name _ (List.mem_map.2 ⟨(name, c), hc, rfl⟩) x hx
    · have hne : ¬ n.required.isEmpty := by
        obtain ⟨e, he, -⟩ := List.mem_map.1 hname
        simpa [SortedMap.isEmpty] using List.ne_nil_of_mem he
      obtain ⟨_, hnames, each⟩ := required hne
      cases hnames
      exact each fields hv name (List.mem_map.2 ⟨name, hname, rfl⟩)
    · exact items _ (Option.map_eq_some_iff.2 ⟨c, hc, rfl⟩) vs hv
    · exact additional _ (Option.map_eq_some_iff.2 ⟨c, hc, rfl⟩) fields hv
  · rintro ⟨literal, properties, required, items, additional⟩
    refine ⟨⟨⟨⟨⟨⟨⟨⟨⟨fun _ _ => trivial, fun _ => trivial⟩, fun h => ?_⟩, fun _ => ?_⟩,
      fun _ => ?_⟩, fun s hs => ?_⟩, fun s hs => ?_⟩, fun _ _ => trivial⟩, fun _ _ => trivial⟩,
      fun _ _ => trivial⟩
    · exact ⟨_, rfl, literal.resolve_left (by simpa using h)⟩
    · refine ⟨_, rfl, fun fields hv name s hs x hx => ?_⟩
      obtain ⟨⟨_, c⟩, hc, he⟩ := List.mem_map.1 hs
      cases he
      exact properties fields hv _ c hc x hx
    · refine ⟨_, rfl, fun fields hv name hname => ?_⟩
      obtain ⟨_, hmem, he⟩ := List.mem_map.1 hname
      cases he
      exact required fields hv name hmem
    · obtain ⟨c, hc, rfl⟩ := Option.map_eq_some_iff.1 hs
      exact fun vs hv => items vs hv c hc
    · obtain ⟨c, hc, rfl⟩ := Option.map_eq_some_iff.1 hs
      exact fun fields hv => additional fields hv c hc

/-! ### The kinds of nodes -/

section

variable {n : SchemaNode} {child : NodeId → Json} {v : Json} {levels : Nat}

/-- A primitive node accepts values of its type that fit. -/
theorem satisfies_primitive (bare : n.keywords = {}) {p : PrimitiveType}
    (kind : n.kind = .primitive p) :
    d.Satisfies bound (levels + 1) (n.render child) v ↔
      p.Admits v ∧ n.Fits (fun c => d.Satisfies bound levels (child c)) v := by
  -- the word for a type stands for that type only
  have named : v.HasType p.name ↔ p.Admits v := by
    have hname : PrimitiveType.ofName? p.name = some p := by cases p <;> rfl
    have hnull : p.name ≠ "null" := by cases p <;> decide
    simp [Json.HasType, hname, hnull]
  simp only [render, kind, satisfies_keywords bare "type" (by decide)]
  refine and_congr_left fun _ => ?_
  simp [Asserts, named]

theorem satisfies_null (bare : n.keywords = {}) (kind : n.kind = .null) :
    d.Satisfies bound (levels + 1) (n.render child) v ↔
      v = .null ∧ n.Fits (fun c => d.Satisfies bound levels (child c)) v := by
  have hname : PrimitiveType.ofName? "null" = none := rfl
  simp only [render, kind, satisfies_keywords bare "type" (by decide)]
  refine and_congr_left fun _ => ?_
  simp [Asserts, Json.HasType, hname]

/-- A union accepts what one of its alternatives does. -/
theorem satisfies_anyOf (bare : n.keywords = {}) {ids : List NodeId} (kind : n.kind = .anyOf ids) :
    d.Satisfies bound (levels + 1) (n.render child) v ↔
      (∃ c ∈ ids, d.Satisfies bound levels (child c) v) ∧
        n.Fits (fun c => d.Satisfies bound levels (child c)) v := by
  simp only [render, kind, satisfies_keywords bare "anyOf" (by decide)]
  refine and_congr_left fun _ => ?_
  simp [Asserts]

/-- A node that stands for a component accepts what the component accepts. -/
theorem satisfies_pointed {identifier : String} (points : n.PointsTo identifier) :
    d.Satisfies bound (levels + 1) (n.render child) v ↔
      ∃ s, d.components.get? identifier = some s ∧ d.Satisfies bound levels s v := by
  have ref : ∀ {declared}, d.Asserts bound (d.Satisfies bound levels) declared "$ref"
      (componentRef identifier) v ↔
        ∃ s, d.components.get? identifier = some s ∧ d.Satisfies bound levels s v := by
    intro declared
    constructor
    · rintro ⟨id, s, harg, hs, h⟩
      exact ⟨s, componentRef_injective harg ▸ hs, h⟩
    · rintro ⟨s, hs, h⟩
      exact ⟨identifier, s, rfl, hs, h⟩
  have annotation : ∀ {declared arg}, d.Asserts bound (d.Satisfies bound levels) declared
      "x-placeholder" arg v := trivial
  rcases points with ⟨r, kind, rfl⟩ | ⟨p, kind, hp⟩
  · simp only [render, kind]
    rw [satisfies_ofFields (by simp)]
    simp [ref]
  · simp only [render, kind, hp, Option.map_some, Json.optionalField]
    rw [satisfies_ofFields (by simp)]
    simp [ref, annotation]

end

end SchemaNode

/-! ### Arenas -/

namespace Arena

/-- Children come before their parents. -/
def Ranked (a : Arena) : Prop :=
  ∀ id n, a.get? id = some n → ∀ c ∈ n.children, c.index < id.index

/-- More levels than the number of a node change nothing. -/
theorem Ranked.renderTo_eq {a : Arena} (ranked : a.Ranked) :
    ∀ {levels levels' : Nat} {id : NodeId}, id.index < levels → id.index < levels' →
      a.renderTo levels id = a.renderTo levels' id := by
  intro levels
  induction levels with
  | zero => intro levels' id h; omega
  | succ levels ih =>
    intro levels' id h h'
    obtain ⟨levels', rfl⟩ := Nat.exists_eq_add_of_le' (Nat.one_le_of_lt h')
    simp only [renderTo]
    cases hn : a.get? id with
    | none => rfl
    | some n =>
      refine SchemaNode.render_congr fun c hc => ?_
      have := ranked id n hn c hc
      exact ih (by omega) (by omega)

/-- **A node is rendered from its rendered children.** -/
theorem Ranked.render_eq {a : Arena} (ranked : a.Ranked) {id : NodeId} {n : SchemaNode}
    (h : a.get? id = some n) : a.render id = n.render a.render := by
  have hid := lt_size_of_get? h
  have hlevels : a.render id = a.renderTo (id.index + 1) id :=
    ranked.renderTo_eq hid (Nat.lt_succ_self _)
  rw [hlevels]
  simp only [renderTo, h]
  refine SchemaNode.render_congr fun c hc => ?_
  have := ranked id n h c hc
  exact ranked.renderTo_eq this (by omega)

end Arena

end TypeSchema
