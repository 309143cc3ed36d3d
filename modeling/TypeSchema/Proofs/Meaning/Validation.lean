import TypeSchema.Generation.Document
import TypeSchema.Proofs.Meaning.Values
import TypeSchema.Proofs.Schema.Mentions

/-!
# Meaning — validating a value against a schema

`d.Accepts bound s v` says that the JSON Schema `s`, read inside the document `d`, accepts the value
`v`.  A `$ref` stands for the component it names, and components may refer to each other, so the
reading goes down level by level (`d.Satisfies bound levels s v`), and a schema accepts a value if
it does so at every number of levels from some one on.

What the keywords for bounds and patterns assert is a parameter `bound`; any keyword that is not
listed is an annotation and asserts nothing.

References are read as they are written, a prefix and then the key of a component.  As a URI with a
JSON pointer the same text is read otherwise where the key has a `/`, `~`, `%` or `#`, none of which
is escaped when it is written: there `~1` and `%2F` stand for a `/`, and a `/` ends a step of the
pointer.  For keys without these four characters the two readings agree.

`Settles p q` says that the answers `p` at the single levels are `q` from some level on: the
validation ends, and with that answer.
-/

namespace TypeSchema

/-- The value has the type of a name. -/
def Json.HasType (name : String) (v : Json) : Prop :=
  name = "null" ∧ v = .null ∨ ∃ p, PrimitiveType.ofName? name = some p ∧ p.Admits v

/-- A reading of the keywords that bound a value: of the keyword, its argument and the value. -/
abbrev BoundReading := String → Json → Json → Prop

namespace SchemaDocument

/-- What one keyword with its argument asserts of a value, given what the schemas in the argument
accept and which properties the schema declares beside it.  A `$ref` names a component by its key,
as it is: nothing in it is read as an escape of a JSON pointer (`/`, `~`) or of a URI (`%`, `#`). -/
def Asserts (d : SchemaDocument) (bound : BoundReading) (accepts : Json → Json → Prop)
    (declared : String → Prop) (key : String) (arg v : Json) : Prop :=
  match key with
  | "type" => ∃ name, arg = .string name ∧ v.HasType name
  | "enum" => ∃ values, arg = .array values ∧ v ∈ values
  | "properties" => ∃ schemas, arg = .object schemas ∧
      ∀ fields, v = .object fields → ∀ name s, (name, s) ∈ schemas →
        ∀ x, SortedMap.lookup name fields = some x → accepts s x
  | "required" => ∃ names, arg = .array names ∧
      ∀ fields, v = .object fields → ∀ name, .string name ∈ names →
        (SortedMap.lookup name fields).isSome
  | "items" => ∀ items, v = .array items → ∀ x ∈ items, accepts arg x
  | "additionalProperties" =>
      ∀ fields, v = .object fields → ∀ e ∈ fields, ¬ declared e.1 → accepts arg e.2
  | "anyOf" => ∃ schemas, arg = .array schemas ∧ ∃ s ∈ schemas, accepts s v
  | "oneOf" => ∃ schemas, arg = .array schemas ∧
      ∃ (i : Nat) (s : Json), schemas[i]? = some s ∧ accepts s v ∧
        ∀ (j : Nat) (s' : Json), schemas[j]? = some s' → accepts s' v → j = i
  | "allOf" => ∃ schemas, arg = .array schemas ∧ ∀ s ∈ schemas, accepts s v
  | "$ref" => ∃ id s, arg = componentRef id ∧ d.components.get? id = some s ∧ accepts s v
  | "minimum" | "maximum" | "minLength" | "maxLength" | "minItems" | "maxItems" | "pattern" =>
      bound key arg v
  | _ => True

/-- The properties that the fields of a schema declare. -/
def Declares (fields : List (String × Json)) (name : String) : Prop :=
  ∃ schemas s, ("properties", .object schemas) ∈ fields ∧ (name, s) ∈ schemas

/-- The value meets every keyword of the schema, read down to a number of levels. -/
def Satisfies (d : SchemaDocument) (bound : BoundReading) : (levels : Nat) → Json → Json → Prop
  | 0, _, _ => False
  | levels + 1, .object fields, v => ∀ e ∈ fields,
      d.Asserts bound (d.Satisfies bound levels) (Declares fields) e.1 e.2 v
  | _ + 1, .bool b, _ => b = true
  | _ + 1, _, _ => False

/-- The schema accepts the value. -/
def Accepts (d : SchemaDocument) (bound : BoundReading) (s v : Json) : Prop :=
  ∃ n, ∀ levels, n ≤ levels → d.Satisfies bound levels s v

end SchemaDocument

/-! ### The keywords of a schema -/

namespace SchemaDocument

variable {d : SchemaDocument} {bound : BoundReading}

/-- The schema of some fields under different keys asserts what each of them does. -/
theorem satisfies_ofFields {l : List (String × Json)} (nodup : (l.map (·.1)).Nodup) {levels : Nat}
    {v : Json} : d.Satisfies bound (levels + 1) (Json.ofFields l) v ↔
      ∀ e ∈ l, d.Asserts bound (d.Satisfies bound levels) (Declares l) e.1 e.2 v := by
  have declares : Declares (SortedMap.ofList l).toList = Declares l := by
    funext name
    simp only [Declares, SortedMap.mem_toList_ofList_iff nodup]
  simp only [Json.ofFields, Json.ofMap, Satisfies, declares, SortedMap.mem_toList_ofList_iff nodup]

/-- An example asserts nothing. -/
theorem satisfies_withDefault {x s v : Json} {levels : Nat} :
    d.Satisfies bound levels (Json.withDefault "example" x s) v ↔
      d.Satisfies bound levels s v := by
  cases levels with
  | zero => exact Iff.rfl
  | succ levels =>
    cases s with
    | object fields =>
      simp only [Json.withDefault]
      cases hl : SortedMap.lookup "example" fields with
      | some y => exact Iff.rfl
      | none =>
        have declares : Declares (SortedMap.insertEntry "example" x fields) = Declares fields := by
          funext name
          simp [Declares, SortedMap.mem_insertEntry_iff hl]
        have annotation :
            d.Asserts bound (d.Satisfies bound levels) (Declares fields) "example" x v := trivial
        simp only [Option.isSome_none, Bool.false_eq_true, if_false, Satisfies, declares,
          SortedMap.mem_insertEntry_iff hl, forall_eq_or_imp, annotation, true_and]
    | _ => exact Iff.rfl

end SchemaDocument

/-! ### Answers that settle -/

/-- From some level on the answer is `q`. -/
def Settles (p : Nat → Prop) (q : Prop) : Prop := ∃ n, ∀ m, n ≤ m → (p m ↔ q)

namespace Settles

variable {α : Type} {p p' : Nat → Prop} {q q' : Prop}

theorem of_iff (h : ∀ m, p m ↔ q) : Settles p q := ⟨0, fun m _ => h m⟩

theorem congr (h : Settles p q) (hp : ∀ m, p' m ↔ p m) (hq : q' ↔ q) : Settles p' q' := by
  obtain ⟨n, hn⟩ := h
  exact ⟨n, fun m hm => by rw [hp, hq, hn m hm]⟩

/-- The answer one level up. -/
theorem succ (h : Settles p q) (hp : ∀ m, p' (m + 1) ↔ p m) : Settles p' q := by
  obtain ⟨n, hn⟩ := h
  refine ⟨n + 1, fun m hm => ?_⟩
  obtain ⟨m, rfl⟩ := Nat.exists_eq_add_of_le' hm
  rw [← Nat.add_assoc, hp, hn _ (Nat.le_add_left n m)]

theorem and (h : Settles p q) (h' : Settles p' q') : Settles (fun m => p m ∧ p' m) (q ∧ q') := by
  obtain ⟨n, hn⟩ := h
  obtain ⟨n', hn'⟩ := h'
  exact ⟨max n n', fun m hm => and_congr (hn m (by omega)) (hn' m (by omega))⟩

theorem or (h : Settles p q) (h' : Settles p' q') : Settles (fun m => p m ∨ p' m) (q ∨ q') := by
  obtain ⟨n, hn⟩ := h
  obtain ⟨n', hn'⟩ := h'
  exact ⟨max n n', fun m hm => or_congr (hn m (by omega)) (hn' m (by omega))⟩

theorem forall_mem {l : List α} {p : α → Nat → Prop} {q : α → Prop}
    (h : ∀ a ∈ l, Settles (p a) (q a)) : Settles (fun m => ∀ a ∈ l, p a m) (∀ a ∈ l, q a) := by
  induction l with
  | nil => exact of_iff fun m => by simp
  | cons a l ih =>
    have hl := ih fun a ha => h a (List.mem_cons_of_mem _ ha)
    exact ((h a List.mem_cons_self).and hl).congr (fun m => List.forall_mem_cons)
      List.forall_mem_cons

theorem forall_eq_some {o : Option α} {p : α → Nat → Prop} {q : α → Prop}
    (h : ∀ a, o = some a → Settles (p a) (q a)) :
    Settles (fun m => ∀ a, o = some a → p a m) (∀ a, o = some a → q a) := by
  cases o with
  | none => exact of_iff fun m => by simp
  | some a => exact (h a rfl).congr (fun m => by simp) (by simp)

/-- An answer that settles is what acceptance is. -/
theorem accepts_iff {d : SchemaDocument} {bound : BoundReading} {s v : Json}
    (h : Settles (fun levels => d.Satisfies bound levels s v) q) :
    d.Accepts bound s v ↔ q := by
  obtain ⟨n, hn⟩ := h
  constructor
  · rintro ⟨n', hn'⟩
    exact (hn (max n n') (by omega)).1 (hn' _ (by omega))
  · exact fun hq => ⟨n, fun levels hle => (hn levels hle).2 hq⟩

end Settles

end TypeSchema
