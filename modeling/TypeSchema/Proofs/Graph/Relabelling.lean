import Mathlib.Logic.Equiv.Defs
import TypeSchema.Generation.Traversal
import TypeSchema.Proofs.Graph.Known
import TypeSchema.Proofs.Outcome

/-!
# Type graphs — the numbers of types do not matter

`Relabels φ g g'` says that `g'` is `g` with its types numbered differently: `φ` takes each type of
`g` to the type of `g'` that has its descriptor, with the types that the descriptor mentions taken
along.  Such a graph has as many types (`Relabels.size_eq`), classifies its types in the same way
(`Relabels.classify`) and gives them the same identifiers (`Relabels.assign`).
-/

namespace TypeSchema

/-! ### Other numbers -/

/-- The capability with other numbers. -/
def Capability.relabel (f : TypeId → TypeId) : Capability → Capability
  | sequence element => sequence (f element)
  | map key value => map (f key) (f value)

/-- The field with another number for its type. -/
def Field.relabel (f : TypeId → TypeId) (x : Field) : Field := { x with type := f x.type }

/-- The fields and capabilities with other numbers. -/
def ObjectShape.relabel (f : TypeId → TypeId) (o : ObjectShape) : ObjectShape :=
  ⟨o.fields.map (·.relabel f), o.capabilities.map (·.relabel f)⟩

/-- The shape with other numbers. -/
def Shape.relabel (f : TypeId → TypeId) : Shape → Shape
  | scalar kind => scalar kind
  | nullable inner => nullable (f inner)
  | enumeration e => enumeration e
  | array element => array (f element)
  | collection kind args => collection kind (args.map f)
  | pair key value => pair (f key) (f value)
  | object o => object (o.relabel f)

/-- The descriptor with other numbers. -/
def TypeDescriptor.relabel (f : TypeId → TypeId) (d : TypeDescriptor) : TypeDescriptor :=
  { d with genericArgs := d.genericArgs.map f, shape := d.shape.relabel f }

/-- The class with other numbers. -/
def Classification.relabel (f : TypeId → TypeId) : Classification → Classification
  | scalar kind => scalar kind
  | bytes => bytes
  | nullable inner => nullable (f inner)
  | enumeration e => enumeration e
  | sequence element => sequence (f element)
  | map value => map (f value)
  | pair key value => pair (f key) (f value)
  | object o? => object (o?.map (·.relabel f))

/-- The content with another number. -/
def CollectionContent.relabel (f : TypeId → TypeId) : CollectionContent → CollectionContent
  | sequence element => sequence (f element)
  | map value => map (f value)

section Inverse

variable {f f' : TypeId → TypeId} (h : ∀ ty, f' (f ty) = ty)
include h

theorem Capability.relabel_relabel (c : Capability) : (c.relabel f).relabel f' = c := by
  cases c <;> simp [relabel, h]

theorem Field.relabel_relabel (x : Field) : (x.relabel f).relabel f' = x := by
  simp [relabel, h]

theorem ObjectShape.relabel_relabel (o : ObjectShape) : (o.relabel f).relabel f' = o := by
  simp [relabel, Function.comp_def, Field.relabel_relabel h, Capability.relabel_relabel h]

theorem Shape.relabel_relabel (s : Shape) : (s.relabel f).relabel f' = s := by
  cases s <;> simp [relabel, h, ObjectShape.relabel_relabel h, Function.comp_def]

/-- Renumbering with the inverse undoes a renumbering. -/
theorem TypeDescriptor.relabel_relabel (d : TypeDescriptor) : (d.relabel f).relabel f' = d := by
  simp [relabel, Function.comp_def, h, Shape.relabel_relabel h]

end Inverse

theorem Capability.relabel_id (c : Capability) : c.relabel id = c := by
  cases c <;> rfl

theorem ObjectShape.relabel_id (o : ObjectShape) : o.relabel id = o := by
  have fields : Field.relabel id = id := rfl
  have capabilities : Capability.relabel id = id := funext Capability.relabel_id
  simp only [relabel, fields, capabilities, List.map_id]

theorem Shape.relabel_id (s : Shape) : s.relabel id = s := by
  cases s <;> simp [relabel, ObjectShape.relabel_id]

/-- Renumbering every type by itself changes nothing. -/
theorem TypeDescriptor.relabel_id (d : TypeDescriptor) : d.relabel id = d := by
  simp [relabel, Shape.relabel_id]

namespace TypeGraph

/-- `g'` is `g` with its types numbered differently. -/
def Relabels (φ : TypeId ≃ TypeId) (g g' : TypeGraph) : Prop :=
  ∀ ty, g'.describe? (φ ty) = (g.describe? ty).map (·.relabel φ)

namespace Relabels

variable {φ : TypeId ≃ TypeId} {g g' : TypeGraph}

theorem refl (g : TypeGraph) : Relabels (Equiv.refl _) g g := by
  intro ty
  have same : TypeDescriptor.relabel (Equiv.refl TypeId) = id := funext TypeDescriptor.relabel_id
  rw [same, Option.map_id, id, Equiv.refl_apply]

theorem symm (h : Relabels φ g g') : Relabels φ.symm g' g := by
  intro ty
  have hty := h (φ.symm ty)
  rw [φ.apply_symm_apply] at hty
  rw [hty, Option.map_map]
  cases g.describe? (φ.symm ty) with
  | none => rfl
  | some d => simp [TypeDescriptor.relabel_relabel φ.symm_apply_apply]

/-- The description of a renumbered type is the renumbered one. -/
theorem describe? (h : Relabels φ g g') {ty : TypeId} {d : TypeDescriptor}
    (hd : g.describe? ty = some d) : g'.describe? (φ ty) = some (d.relabel φ) := by
  rw [h, hd, Option.map_some]

theorem knows (h : Relabels φ g g') {ty : TypeId} (hk : g.knows ty) : g'.knows (φ ty) := by
  obtain ⟨d, hd⟩ := knows_iff_describe?.1 hk
  exact knows_iff_describe?.2 ⟨_, h.describe? hd⟩

/-- The renumbered graph knows the renumbered types. -/
theorem knows_iff (h : Relabels φ g g') {ty : TypeId} : g'.knows (φ ty) ↔ g.knows ty :=
  ⟨fun hk => by simpa using h.symm.knows hk, h.knows⟩

/-- The renumbered graph is no smaller. -/
theorem size_le (h : Relabels φ g g') : g.size ≤ g'.size := by
  have hnodup : (g.ids.map φ).Nodup :=
    List.Nodup.map φ.injective g.nodup_ids
  have hle := length_le_size hnodup fun ty hty => by
    obtain ⟨ty₀, hty₀, rfl⟩ := List.mem_map.1 hty
    exact h.knows (mem_ids_iff.1 hty₀)
  rwa [List.length_map, length_ids] at hle

/-- A graph with other numbers has as many types. -/
theorem size_eq (h : Relabels φ g g') : g'.size = g.size :=
  Nat.le_antisymm h.symm.size_le h.size_le

/-! ### Classes -/

theorem shape? (h : Relabels φ g g') (ty : TypeId) :
    g'.shape? (φ ty) = (g.shape? ty).map (·.relabel φ) := by
  simp only [TypeGraph.shape?, h ty, Option.map_map]
  rfl

theorem isString (h : Relabels φ g g') (ty : TypeId) : g'.isString (φ ty) = g.isString ty := by
  simp only [TypeGraph.isString, h.shape?]
  cases g.shape? ty with
  | none => rfl
  | some s => cases s <;> rfl

theorem isByte (h : Relabels φ g g') (ty : TypeId) : g'.isByte (φ ty) = g.isByte ty := by
  simp only [TypeGraph.isByte, h.shape?]
  cases g.shape? ty with
  | none => rfl
  | some s => cases s <;> rfl

theorem isPair (h : Relabels φ g g') (ty : TypeId) : g'.isPair (φ ty) = g.isPair ty := by
  simp only [TypeGraph.isPair, h.shape?]
  cases g.shape? ty with
  | none => rfl
  | some s => cases s <;> rfl

theorem sequenceOf (h : Relabels φ g g') (element : TypeId) :
    g'.sequenceOf (φ element) = (g.sequenceOf element).map (·.relabel φ) := by
  simp only [TypeGraph.sequenceOf, h.isPair]
  split <;> rfl

theorem mapOf (h : Relabels φ g g') (key value : TypeId) :
    g'.mapOf (φ key) (φ value) = (g.mapOf key value).map (·.relabel φ) := by
  simp only [TypeGraph.mapOf, h.isString]
  split <;> rfl

theorem offeredMap (h : Relabels φ g g') (c : Capability) :
    g'.offeredMap (c.relabel φ) = (g.offeredMap c).map (·.relabel φ) := by
  cases c with
  | sequence element => rfl
  | map key value => exact h.mapOf key value

theorem offeredSequence (h : Relabels φ g g') (c : Capability) :
    g'.offeredSequence (c.relabel φ) = (g.offeredSequence c).map (·.relabel φ) := by
  cases c with
  | sequence element => exact h.sequenceOf element
  | map key value => rfl

theorem findSome?_relabel {p p' : Capability → Option CollectionContent}
    (hp : ∀ c, p' (c.relabel φ) = (p c).map (·.relabel φ)) (cs : List Capability) :
    (cs.map (·.relabel φ)).findSome? p' = (cs.findSome? p).map (·.relabel φ) := by
  induction cs with
  | nil => rfl
  | cons c rest ih =>
    simp only [List.map_cons, List.findSome?_cons, hp]
    cases p c with
    | none => exact ih
    | some content => rfl

/-- What a shape contains as a collection is renumbered with it. -/
theorem collectionContent (h : Relabels φ g g') (s : Shape) :
    g'.collectionContent (s.relabel φ) = (g.collectionContent s).map (·.relabel φ) := by
  cases s with
  | array element => exact h.sequenceOf element
  | collection kind args =>
    rcases args with _ | ⟨a, _ | ⟨b, _ | ⟨c, rest⟩⟩⟩
    · rfl
    · simp only [Shape.relabel, List.map_cons, List.map_nil, TypeGraph.collectionContent]
      split
      · exact h.sequenceOf a
      · rfl
    · simp only [Shape.relabel, List.map_cons, List.map_nil, TypeGraph.collectionContent]
      split
      · exact h.mapOf a b
      · rfl
    · rfl
  | object o =>
    simp only [Shape.relabel, ObjectShape.relabel, TypeGraph.collectionContent,
      findSome?_relabel h.offeredMap, findSome?_relabel h.offeredSequence]
    cases o.capabilities.findSome? g.offeredMap <;> rfl
  | _ => rfl

/-- A type is expanded as the same, whatever the numbers. -/
theorem classify (h : Relabels φ g g') (s : Shape) :
    g'.classify (s.relabel φ) = (g.classify s).relabel φ := by
  have hcontent := h.collectionContent s
  cases s with
  | array element =>
    simp only [Shape.relabel] at hcontent
    simp only [Shape.relabel, TypeGraph.classify, hcontent, h.isByte]
    split
    · rfl
    · rcases g.collectionContent (.array element) with _ | _ | _ <;> rfl
  | collection kind args =>
    simp only [Shape.relabel] at hcontent
    simp only [Shape.relabel, TypeGraph.classify, hcontent]
    rcases g.collectionContent (.collection kind args) with _ | _ | _ <;> rfl
  | object o =>
    simp only [Shape.relabel] at hcontent
    simp only [Shape.relabel, TypeGraph.classify, hcontent]
    rcases g.collectionContent (.object o) with _ | _ | _ <;> rfl
  | _ => rfl

/-! ### Identifiers -/

/-- Base identifiers are the same: they are made of names. -/
theorem baseIdTo (h : Relabels φ g g') {levels : Nat} {ty : TypeId} {base : String}
    (hb : g.baseIdTo levels ty = .ok base) : g'.baseIdTo levels (φ ty) = .ok base := by
  induction levels generalizing ty base with
  | zero => cases hb
  | succ levels ih =>
    cases hd : g.describe? ty with
    | none => simp [TypeGraph.baseIdTo, hd] at hb
    | some d =>
      have bases : ∀ (args : List TypeId) (bs : List String),
          args.mapM (g.baseIdTo levels) = .ok bs →
          (args.map φ).mapM (g'.baseIdTo levels) = .ok bs := by
        intro args
        induction args with
        | nil => exact fun bs hbs => hbs
        | cons arg rest iha =>
          intro bs hbs
          obtain ⟨b, more, hb, hmore, rfl⟩ := mapM_cons_ok_iff.1 hbs
          exact mapM_cons_ok_iff.2 ⟨b, more, ih hb, iha more hmore, rfl⟩
      simp only [TypeGraph.baseIdTo, hd] at hb
      simp only [TypeGraph.baseIdTo, h.describe? hd, TypeDescriptor.relabel, List.isEmpty_map]
      split at hb
      · next he => rw [if_pos he]; exact hb
      · next he =>
        rw [if_neg he]
        cases hbs : d.genericArgs.mapM (g.baseIdTo levels) with
        | error e => rw [hbs] at hb; cases hb
        | ok bs =>
          rw [hbs] at hb
          rw [bases _ _ hbs]
          exact hb

/-- A type gets the same identifier, whatever the numbers. -/
theorem assign (h : Relabels φ g g') {r r' : Registry} {ty : TypeId} {id : String}
    {events : List DiagnosticEvent} (ha : r.assign g ty = .ok (id, r', events)) :
    r.assign g' (φ ty) = .ok (id, r', events) := by
  unfold Registry.assign at ha ⊢
  cases hd : g.describe? ty with
  | none => simp [hd] at ha
  | some d =>
    simp only [hd] at ha
    simp only [h.describe? hd]
    have hidentity : (d.relabel φ).identity = d.identity := rfl
    rw [hidentity]
    cases hl : r.lookup? d.identity with
    | some id' =>
      simp only [hl] at ha ⊢
      exact ha
    | none =>
      simp only [hl] at ha ⊢
      cases hb : g.baseId ty with
      | error e => simp [hb] at ha
      | ok base =>
        have hb' : g'.baseId (φ ty) = .ok base := by
          rw [baseId, h.size_eq]
          exact h.baseIdTo hb
        simp only [hb] at ha
        simp only [hb']
        exact ha

end Relabels

end TypeGraph

end TypeSchema
