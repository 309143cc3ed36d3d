import TypeSchema.Proofs.Graph.Known
import TypeSchema.Schema.ScalarMapping

/-!
# Meaning — the values of a type

`g.Inhabits v ty` says that the JSON value `v` is one of the type `ty`, by what the type is expanded
as.  It is the least such relation, so a value inhabits a type by finitely many reasons, and
`inhabits_iff` reads each of them back from the class of the type.
-/

namespace TypeSchema

/-- The values of a primitive type.  A double without a fractional part is an integer. -/
def PrimitiveType.Admits : PrimitiveType → Json → Prop
  | .string, .string _ => True
  | .integer, .int _ => True
  | .integer, .float x => (Binary64.ofFloat x).integer?.isSome
  | .number, .int _ | .number, .float _ => True
  | .boolean, .bool _ => True
  | .array, .array _ => True
  | .object, .object _ => True
  | _, _ => False

theorem PrimitiveType.admits_string_iff {v : Json} :
    PrimitiveType.string.Admits v ↔ ∃ s, v = .string s := by
  cases v <;> simp [Admits]

theorem PrimitiveType.admits_array_iff {v : Json} :
    PrimitiveType.array.Admits v ↔ ∃ items, v = .array items := by
  cases v <;> simp [Admits]

theorem PrimitiveType.admits_object_iff {v : Json} :
    PrimitiveType.object.Admits v ↔ ∃ fields, v = .object fields := by
  cases v <;> simp [Admits]

/-- The primitive type of a scalar; one that is known by name only is an object. -/
def ScalarKind.primitive (kind : ScalarKind) : PrimitiveType :=
  match kind.mapping? with
  | some (p, _) => p
  | none => .object

/-- The graph knows the type, and it is expanded as `cls`. -/
def TypeGraph.HasClass (g : TypeGraph) (ty : TypeId) (cls : Classification) : Prop :=
  ∃ d, g.describe? ty = some d ∧ g.classify d.shape = cls

theorem TypeGraph.HasClass.unique {g : TypeGraph} {ty : TypeId} {cls cls' : Classification}
    (h : g.HasClass ty cls) (h' : g.HasClass ty cls') : cls = cls' := by
  obtain ⟨d, hd, rfl⟩ := h
  obtain ⟨d', hd', rfl⟩ := h'
  obtain rfl : d = d' := Option.some.inj (hd.symm.trans hd')
  rfl

/-- The value is one of the type. -/
inductive TypeGraph.Inhabits (g : TypeGraph) : Json → TypeId → Prop where
  | scalar {ty : TypeId} {kind : ScalarKind} {v : Json} (cls : g.HasClass ty (.scalar kind))
      (admits : kind.primitive.Admits v) : Inhabits g v ty
  /-- A byte array is a text. -/
  | bytes {ty : TypeId} (cls : g.HasClass ty .bytes) (s : String) : Inhabits g (.string s) ty
  | null {ty inner : TypeId} (cls : g.HasClass ty (.nullable inner)) : Inhabits g .null ty
  | nullable {ty inner : TypeId} {v : Json} (cls : g.HasClass ty (.nullable inner))
      (value : Inhabits g v inner) : Inhabits g v ty
  /-- A member of an enumeration is written by its name. -/
  | member {ty : TypeId} {e : Enumeration} {m : EnumMember}
      (cls : g.HasClass ty (.enumeration e)) (mem : m ∈ e.members) : Inhabits g (.string m.name) ty
  | sequence {ty element : TypeId} {items : List Json} (cls : g.HasClass ty (.sequence element))
      (each : ∀ v ∈ items, Inhabits g v element) : Inhabits g (.array items) ty
  | map {ty value : TypeId} {fields : List (String × Json)} (cls : g.HasClass ty (.map value))
      (each : ∀ e ∈ fields, Inhabits g e.2 value) : Inhabits g (.object fields) ty
  | pair {ty key value : TypeId} {fields : List (String × Json)} {x y : Json}
      (cls : g.HasClass ty (.pair key value)) (hasKey : SortedMap.lookup "key" fields = some x)
      (hasValue : SortedMap.lookup "value" fields = some y) (first : Inhabits g x key)
      (second : Inhabits g y value) : Inhabits g (.object fields) ty
  /-- The declared fields that are there have values of their types, and the required ones are
  there. -/
  | object {ty : TypeId} {o : ObjectShape} {fields : List (String × Json)}
      (cls : g.HasClass ty (.object (some o)))
      (each : ∀ f ∈ o.fields, ∀ x, SortedMap.lookup f.name fields = some x → Inhabits g x f.type)
      (required : ∀ f ∈ o.fields, f.required → (SortedMap.lookup f.name fields).isSome) :
      Inhabits g (.object fields) ty
  /-- An object without a list of fields may have any. -/
  | memberless {ty : TypeId} (cls : g.HasClass ty (.object none)) (fields : List (String × Json)) :
      Inhabits g (.object fields) ty

/-- The values of a class of types, given those of the parts. -/
def Classification.Admits (inhabits : Json → TypeId → Prop) : Classification → Json → Prop
  | .scalar kind, v => kind.primitive.Admits v
  | .bytes, v => PrimitiveType.string.Admits v
  | .nullable inner, v => v = .null ∨ inhabits v inner
  | .enumeration e, v => ∃ m ∈ e.members, v = .string m.name
  | .sequence element, v => ∃ items, v = .array items ∧ ∀ x ∈ items, inhabits x element
  | .map value, v => ∃ fields, v = .object fields ∧ ∀ e ∈ fields, inhabits e.2 value
  | .pair key value, v => ∃ fields, v = .object fields ∧
      (∃ x, SortedMap.lookup "key" fields = some x ∧ inhabits x key) ∧
        ∃ x, SortedMap.lookup "value" fields = some x ∧ inhabits x value
  | .object (some o), v => ∃ fields, v = .object fields ∧
      (∀ f ∈ o.fields, ∀ x, SortedMap.lookup f.name fields = some x → inhabits x f.type) ∧
        ∀ f ∈ o.fields, f.required → (SortedMap.lookup f.name fields).isSome
  | .object none, v => PrimitiveType.object.Admits v

/-- **The values of a type are those of its class.** -/
theorem TypeGraph.inhabits_iff {g : TypeGraph} {ty : TypeId} {cls : Classification} {v : Json}
    (h : g.HasClass ty cls) : g.Inhabits v ty ↔ cls.Admits g.Inhabits v := by
  constructor
  · intro hv
    cases hv with
    | scalar hc admits => cases h.unique hc; exact admits
    | bytes hc s => cases h.unique hc; trivial
    | null hc => cases h.unique hc; exact .inl rfl
    | nullable hc value => cases h.unique hc; exact .inr value
    | member hc mem => cases h.unique hc; exact ⟨_, mem, rfl⟩
    | sequence hc each => cases h.unique hc; exact ⟨_, rfl, each⟩
    | map hc each => cases h.unique hc; exact ⟨_, rfl, each⟩
    | pair hc hasKey hasValue first second =>
      cases h.unique hc
      exact ⟨_, rfl, ⟨_, hasKey, first⟩, _, hasValue, second⟩
    | object hc each required => cases h.unique hc; exact ⟨_, rfl, each, required⟩
    | memberless hc fields => cases h.unique hc; trivial
  · intro hv
    cases cls with
    | scalar kind => exact .scalar h hv
    | bytes => obtain ⟨s, rfl⟩ := PrimitiveType.admits_string_iff.1 hv; exact .bytes h s
    | nullable inner =>
      rcases hv with rfl | hv
      · exact .null h
      · exact .nullable h hv
    | enumeration e => obtain ⟨m, hm, rfl⟩ := hv; exact .member h hm
    | sequence element => obtain ⟨items, rfl, each⟩ := hv; exact .sequence h each
    | map value => obtain ⟨fields, rfl, each⟩ := hv; exact .map h each
    | pair key value =>
      obtain ⟨fields, rfl, ⟨x, hx, first⟩, y, hy, second⟩ := hv
      exact .pair h hx hy first second
    | object o? =>
      cases o? with
      | none =>
        obtain ⟨fields, rfl⟩ := PrimitiveType.admits_object_iff.1 hv
        exact .memberless h fields
      | some o => obtain ⟨fields, rfl, each, required⟩ := hv; exact .object h each required

end TypeSchema
