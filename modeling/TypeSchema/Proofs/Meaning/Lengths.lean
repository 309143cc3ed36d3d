import TypeSchema.Proofs.Meaning.Keywords

/-!
# Meaning — the length bounds of a schema

A node has one pair of length bounds, and its kind says how they are rendered: those of an array
bound its items, and those of any other node the length of a text (`SchemaNode.lengths_render`).  A
stand-in is rendered without bounds.
-/

namespace TypeSchema

/-- Bounds of a length; either may be missing. -/
structure LengthBounds where
  min : Option Nat := none
  max : Option Nat := none
  deriving DecidableEq

/-- The length bounds at the top of a schema, for texts and for arrays, neither more nor fewer. -/
structure Json.Lengths (j : Json) (texts items : LengthBounds) : Prop where
  minLength : j.get? "minLength" = texts.min.map Json.ofNat
  maxLength : j.get? "maxLength" = texts.max.map Json.ofNat
  minItems : j.get? "minItems" = items.min.map Json.ofNat
  maxItems : j.get? "maxItems" = items.max.map Json.ofNat

namespace SchemaNode

/-- The length bounds of a node. -/
def lengths (n : SchemaNode) : LengthBounds := ⟨n.keywords.minLength, n.keywords.maxLength⟩

/-- A node that stands for itself is rendered with one field for its kind and its keywords. -/
theorem exists_render_own {n : SchemaNode} (own : ¬ n.isShared) (child : NodeId → Json) :
    ∃ key arg, key ∈ ["type", "anyOf", "oneOf", "allOf"] ∧
      n.render child = Json.ofFields ((key, arg) :: n.keywordFields child) := by
  cases kind : n.kind with
  | primitive p => exact ⟨"type", .string p.name, by simp, by simp only [render, kind]⟩
  | null => exact ⟨"type", .string "null", by simp, by simp only [render, kind]⟩
  | anyOf ids => exact ⟨"anyOf", .array (ids.map child), by simp, by simp only [render, kind]⟩
  | oneOf ids => exact ⟨"oneOf", .array (ids.map child), by simp, by simp only [render, kind]⟩
  | allOf ids => exact ⟨"allOf", .array (ids.map child), by simp, by simp only [render, kind]⟩
  | placeholder p => exact absurd (by simp [isShared, kind]) own
  | reference r => exact absurd (by simp [isShared, kind]) own

/-- A keyword that does not say what kind the node is, is one of its fields. -/
theorem get?_render_own {n : SchemaNode} (own : ¬ n.isShared) (child : NodeId → Json) {k : String}
    (other : k ∉ ["type", "anyOf", "oneOf", "allOf"]) {v : Json} :
    (n.render child).get? k = some v ↔ (k, v) ∈ n.keywordFields child := by
  obtain ⟨key, arg, hkey, rendered⟩ := exists_render_own own child
  rw [rendered, Json.get?_ofFields (n.nodup_keys child hkey arg), List.mem_cons, or_iff_right]
  rintro ⟨rfl, rfl⟩
  exact other hkey

/-- **The bounds of an array are rendered as bounds of its items, those of any other node that
stands for itself as bounds of a text.** -/
theorem lengths_render {n : SchemaNode} (own : ¬ n.isShared) (child : NodeId → Json) :
    if n.primitive? = some .array then (n.render child).Lengths {} n.lengths
    else (n.render child).Lengths n.lengths {} := by
  by_cases array : n.primitive? = some .array
  · rw [if_pos array]
    refine ⟨?_, ?_, ?_, ?_⟩ <;>
      refine Option.ext fun v => (get?_render_own own child (by simp)).trans ?_ <;>
      simp [keywordFields, numberField, lengthKeys, array, lengths, Json.mem_optionalField]
  · rw [if_neg array]
    refine ⟨?_, ?_, ?_, ?_⟩ <;>
      refine Option.ext fun v => (get?_render_own own child (by simp)).trans ?_ <;>
      simp [keywordFields, numberField, lengthKeys, array, lengths, Json.mem_optionalField]

/-- The field for the kind of a node. -/
theorem get?_kind {n : SchemaNode} {child : NodeId → Json} {key : String} {arg : Json}
    (hkey : key ∈ ["type", "anyOf", "oneOf", "allOf"])
    (rendered : n.render child = Json.ofFields ((key, arg) :: n.keywordFields child)) :
    (n.render child).get? key = some arg := by
  rw [rendered]
  exact (Json.get?_ofFields (n.nodup_keys child hkey arg)).2 List.mem_cons_self

end SchemaNode

/-- A placeholder that points to no component: a name and a reason. -/
def Json.standIn (typeName : String) (reason : CutReason) : Json :=
  .ofFields [("x-placeholder",
    .ofFields [("type", .string typeName), ("reason", .string reason.name)])]

theorem SchemaNode.render_standIn {n : SchemaNode} {typeName : String} {reason : CutReason}
    (kind : n.kind = .placeholder ⟨typeName, none, reason⟩) (child : NodeId → Json) :
    n.render child = .standIn typeName reason := by
  simp only [render, kind]
  rfl

theorem Json.lengths_standIn (typeName : String) (reason : CutReason) :
    (standIn typeName reason).Lengths {} {} := ⟨rfl, rfl, rfl, rfl⟩

end TypeSchema
