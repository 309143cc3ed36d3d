import TypeSchema.Proofs.Generation.Run
import TypeSchema.Proofs.Meaning.Rendering

/-!
# Meaning — the keywords of a schema

`j.Bears k` says that the validation keywords at the top of a schema are `k`, neither more nor
fewer.  The schema of a node of a primitive type bears the keywords of the node
(`SchemaNode.bears_render`), unless it is an array, whose length bounds have other names; an example
leaves them as they are, so a component bears the keywords of the node that supplies it
(`GeneratedSchema.Supplies.bears`).
-/

namespace TypeSchema

/-- The validation keywords of a schema. -/
structure Json.Bears (j : Json) (k : Keywords) : Prop where
  minimum : j.get? "minimum" = k.minimum.map Json.ofBound
  maximum : j.get? "maximum" = k.maximum.map Json.ofBound
  minLength : j.get? "minLength" = k.minLength.map Json.ofNat
  maxLength : j.get? "maxLength" = k.maxLength.map Json.ofNat
  pattern : j.get? "pattern" = k.pattern.map Json.string

/-- The value of a field, if the fields have different keys. -/
theorem Json.get?_ofFields {l : List (String × Json)} (nodup : (l.map (·.1)).Nodup) {key : String}
    {v : Json} : (Json.ofFields l).get? key = some v ↔ (key, v) ∈ l := by
  rw [← SortedMap.mem_toList_ofList_iff nodup]
  exact SortedMap.mem_toList_iff.symm

theorem Json.get?_withDefault {key key' : String} (h : key' ≠ key) (v j : Json) :
    (Json.withDefault key v j).get? key' = j.get? key' := by
  cases j with
  | object fields =>
    simp only [Json.withDefault]
    split
    · rfl
    · rw [Json.get?, SortedMap.lookup_insertEntry, if_neg h, Json.get?]
  | _ => rfl

/-- An example is no validation keyword. -/
theorem Json.Bears.withExample {j : Json} {k : Keywords} (h : j.Bears k) (v : Json) :
    (Json.withDefault "example" v j).Bears k := by
  have other : ∀ {key}, key ≠ "example" →
      (Json.withDefault "example" v j).get? key = j.get? key :=
    fun hne => Json.get?_withDefault hne v j
  exact ⟨(other (by decide)).trans h.minimum, (other (by decide)).trans h.maximum,
    (other (by decide)).trans h.minLength, (other (by decide)).trans h.maxLength,
    (other (by decide)).trans h.pattern⟩

/-- A node of a primitive type is rendered with its keywords. -/
theorem SchemaNode.bears_render {n : SchemaNode} {p : PrimitiveType} (kind : n.kind = .primitive p)
    (single : p ≠ .array) (child : NodeId → Json) : (n.render child).Bears n.keywords := by
  have lengths : n.lengthKeys = ("minLength", "maxLength") := by
    simp [lengthKeys, primitive?, kind, single]
  have found : ∀ {key v}, (n.render child).get? key = some v ↔
      (key, v) ∈ ("type", Json.string p.name) :: n.keywordFields child := by
    intro key v
    simp only [render, kind]
    exact Json.get?_ofFields (n.nodup_keys child (by decide) _)
  refine ⟨?_, ?_, ?_, ?_, ?_⟩ <;> refine Option.ext fun v => found.trans ?_ <;>
    simp [keywordFields, numberField, lengths, Json.mem_optionalField]

/-- A component bears the keywords of the node that supplies it. -/
theorem GeneratedSchema.Supplies.bears {s : GeneratedSchema} {node : NodeId} {j : Json}
    (h : s.Supplies node j) {n : SchemaNode} (hn : s.arena.get? node = some n) {p : PrimitiveType}
    (kind : n.kind = .primitive p) (single : p ≠ .array) : j.Bears n.keywords := by
  have rendered : (s.arena.render node).Bears n.keywords := by
    obtain ⟨levels, hlevels⟩ := Nat.exists_eq_add_of_lt (Arena.lt_size_of_get? hn)
    simp only [Arena.render, hlevels, Arena.renderTo, hn]
    exact SchemaNode.bears_render kind single _
  rcases h with rfl | ⟨v, rfl⟩
  · exact rendered
  · exact rendered.withExample v

end TypeSchema
