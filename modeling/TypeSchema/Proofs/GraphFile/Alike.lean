import TypeSchema.Proofs.Graph.Relabelling
import TypeSchema.Proofs.GraphFile.Entries

/-!
# Graph files — types that are alike in two graphs

Types of two graphs are alike if their descriptors are the same once the types that they mention are
read as their identities (`TypeGraph.Alike`).  A descriptor is settled by its head and by the entry
that describes its shape, so types with one head that one entry defines are alike
(`TypeEntry.Defines.alike`).
-/

namespace TypeSchema

namespace TypeGraph

/-- The type with the same identity in another graph. -/
def counterpart (g g' : TypeGraph) (ty : TypeId) : TypeId :=
  (g'.find? (g.identityText ty)).getD ty

/-- The types have the same identity. -/
def Twins (g g' : TypeGraph) (ty ty' : TypeId) : Prop :=
  ∃ i, g.identity? ty = some i ∧ g'.identity? ty' = some i

/-- A twin is found by its identity. -/
theorem Twins.eq_counterpart {g g' : TypeGraph} (indexed : g'.Indexed) {ty ty' : TypeId}
    (h : g.Twins g' ty ty') : ty' = g.counterpart g' ty := by
  obtain ⟨i, hi, hi'⟩ := h
  rw [counterpart, identityText_of_identity? hi, indexed.find?_eq_some_iff.2 hi', Option.getD_some]

/-- The descriptors of the types are the same, once mentioned types are read as identities. -/
def Alike (g g' : TypeGraph) (ty ty' : TypeId) : Prop :=
  ∃ d φ, g.describe? ty = some d ∧ g'.describe? ty' = some (d.relabel φ) ∧
    ∀ part, part ∈ d.genericArgs ∨ part ∈ d.shape.mentioned → g.Twins g' part (φ part)

/-- Types with the same identities in two graphs are twins, one by one. -/
theorem Identified.twins {g g' : TypeGraph} {tys tys' : List TypeId} {is : List String}
    (h : g.Identified tys is) (h' : g'.Identified tys' is) :
    List.Forall₂ (g.Twins g') tys tys' := by
  induction h generalizing tys' with
  | nil => cases h'; exact .nil
  | cons hi _ ih => cases h' with
    | cons hi' h' => exact .cons ⟨_, hi, hi'⟩ (ih h')

end TypeGraph

open TypeGraph

namespace GraphFile

section Described

variable {names : Denotation} {g g' : TypeGraph}

/-- What a source text denotes in two graphs are twins. -/
theorem Denotes.twins {src : String} {ty ty' : TypeId} (h : Denotes names g src ty)
    (h' : Denotes names g' src ty') : g.Twins g' ty ty' := by
  obtain ⟨e, head, parsed, denoted, identity⟩ := h
  obtain ⟨e', head', parsed', denoted', identity'⟩ := h'
  obtain rfl := Except.ok.inj (parsed.symm.trans parsed')
  obtain rfl := Except.ok.inj (denoted.symm.trans denoted')
  exact ⟨_, identity, identity'⟩

/-- `x'` is `x` with other numbers for the types `parts x` that it mentions. -/
def Renumbers {α : Type} (g g' : TypeGraph) (parts : α → List TypeId)
    (relabel : (TypeId → TypeId) → α → α) (x x' : α) : Prop :=
  x' = relabel (g.counterpart g') x ∧ ∀ part ∈ parts x, g.Twins g' part (g.counterpart g' part)

/-- Parts that are described by the same texts. -/
theorem renumbers_all {α β : Type} {D D' : α → β → Prop} {parts : β → List TypeId}
    {relabel : (TypeId → TypeId) → β → β}
    (one : ∀ a b b', D a b → D' a b' → Renumbers g g' parts relabel b b') {as : List α}
    {bs bs' : List β} (h : List.Forall₂ D as bs) (h' : List.Forall₂ D' as bs') :
    bs' = bs.map (relabel (g.counterpart g')) ∧
      ∀ part ∈ bs.flatMap parts, g.Twins g' part (g.counterpart g' part) := by
  induction h generalizing bs' with
  | nil => cases h'; exact ⟨rfl, by simp⟩
  | cons hd _ ih => cases h' with
    | cons hd' h' =>
      obtain ⟨rfl, first⟩ := one _ _ _ hd hd'
      obtain ⟨rfl, rest⟩ := ih h'
      refine ⟨rfl, fun part hpart => ?_⟩
      rw [List.flatMap_cons] at hpart
      rcases List.mem_append.1 hpart with hpart | hpart
      · exact first part hpart
      · exact rest part hpart

variable (indexed : g'.Indexed)
include indexed

theorem Twins.self {ty ty' : TypeId} (h : g.Twins g' ty ty') :
    g.Twins g' ty (g.counterpart g' ty) :=
  h.eq_counterpart indexed ▸ h

theorem twins_map {tys tys' : List TypeId} (h : List.Forall₂ (g.Twins g') tys tys') :
    tys' = tys.map (g.counterpart g') ∧ ∀ ty ∈ tys, g.Twins g' ty (g.counterpart g' ty) := by
  induction h with
  | nil => exact ⟨rfl, by simp⟩
  | cons h _ ih =>
    refine ⟨by rw [List.map_cons, ← ih.1, ← h.eq_counterpart indexed], fun ty hty => ?_⟩
    rcases List.mem_cons.1 hty with rfl | hty
    · exact Twins.self indexed h
    · exact ih.2 ty hty

/-- The fields that an entry describes in two graphs differ by a renumbering. -/
theorem FieldEntry.Describes.renumbers {entry : FieldEntry} {f f' : Field}
    (h : entry.Describes names g f) (h' : entry.Describes names g' f') :
    Renumbers g g' (fun f => [f.type]) Field.relabel f f' := by
  have twins := h.type.twins h'.type
  refine ⟨?_, List.forall_mem_singleton.2 (Twins.self indexed twins)⟩
  cases f
  cases f'
  simp only [Field.relabel, Field.mk.injEq]
  exact ⟨h'.name.trans h.name.symm, twins.eq_counterpart indexed,
    h'.required.trans h.required.symm, h'.constraints.trans h.constraints.symm,
    h'.example?.trans h.example?.symm⟩

/-- So do the capabilities. -/
theorem DescribesCapability.renumbers {src : String} {c c' : Capability}
    (h : DescribesCapability names g src c) (h' : DescribesCapability names g' src c') :
    Renumbers g g' Capability.mentioned Capability.relabel c c' := by
  obtain ⟨name, args, is, parsed, denoted, identified, kind⟩ := h
  obtain ⟨name', args', is', parsed', denoted', identified', kind'⟩ := h'
  obtain ⟨rfl, rfl⟩ := TypeExpr.named.inj (Except.ok.inj (parsed.symm.trans parsed'))
  obtain rfl := Except.ok.inj (denoted.symm.trans denoted')
  obtain ⟨mapped, twins⟩ := twins_map indexed (identified.twins identified')
  refine ⟨?_, twins⟩
  match c, c', mapped with
  | .sequence _, .sequence _, mapped => exact congrArg _ (List.cons.inj mapped).1
  | .map _ _, .map _ _, mapped =>
    obtain ⟨key, value⟩ := List.cons.inj mapped
    exact congrArg₂ _ key (List.cons.inj value).1
  | .sequence _, .map _ _, mapped => exact nomatch (List.cons.inj mapped).2
  | .map _ _, .sequence _, mapped => exact nomatch (List.cons.inj mapped).2

/-- **Shapes that one entry describes** differ in the numbers of types only. -/
theorem TypeEntry.Describes.renumbers {entry : TypeEntry} {shape shape' : Shape}
    (h : entry.Describes names g shape) (h' : entry.Describes names g' shape') :
    Renumbers g g' Shape.mentioned Shape.relabel shape shape' := by
  cases h with
  | scalar kind parsed => cases h' with
    | scalar kind' parsed' =>
      obtain rfl := Except.ok.inj (parsed.symm.trans parsed')
      exact ⟨rfl, fun part hpart => nomatch hpart⟩
    | enumeration kind' => rw [kind] at kind'; cases kind'
    | object kind' => rw [kind] at kind'; cases kind'
  | @enumeration e kind members repr => cases h' with
    | scalar kind' => rw [kind] at kind'; cases kind'
    | @enumeration e' kind' members' repr' =>
      have sameMembers : e'.members = e.members :=
        List.ext_getElem? fun i => (members' i).trans (members i).symm
      have sameRepr : e'.repr = e.repr := Option.some.inj (repr'.symm.trans repr)
      refine ⟨?_, fun part hpart => nomatch hpart⟩
      cases e
      cases e'
      simp only [Shape.relabel] at *
      rw [sameMembers, sameRepr]
    | object kind' => rw [kind] at kind'; cases kind'
  | @object o kind fields capabilities => cases h' with
    | scalar kind' => rw [kind] at kind'; cases kind'
    | enumeration kind' => rw [kind] at kind'; cases kind'
    | @object o' kind' fields' capabilities' =>
      obtain ⟨sameFields, ofFields⟩ := renumbers_all
        (fun (f : FieldEntry) _ _ (h : f.Describes names g _) (h' : f.Describes names g' _) =>
          h.renumbers indexed h') fields fields'
      obtain ⟨sameCapabilities, ofCapabilities⟩ := renumbers_all
        (fun (src : String) _ _ (h : DescribesCapability names g src _)
          (h' : DescribesCapability names g' src _) => h.renumbers indexed h')
        capabilities capabilities'
      refine ⟨?_, fun part hpart => ?_⟩
      · cases o'
        simp only [Shape.relabel, ObjectShape.relabel] at *
        rw [sameFields, sameCapabilities]
      · rcases List.mem_append.1 hpart with hpart | hpart
        · obtain ⟨f, hf, rfl⟩ := List.mem_map.1 hpart
          exact ofFields f.type (List.mem_flatMap.2 ⟨f, hf, List.mem_singleton_self _⟩)
        · exact ofCapabilities part hpart

/-- **Types with one head that one entry defines are alike.** -/
theorem TypeEntry.Defines.alike {entry : TypeEntry} {ty ty' : TypeId} {d d' : TypeDescriptor}
    {head : Head} (h : entry.Defines names g d) (h' : entry.Defines names g' d')
    (heads : g.Heads d head) (heads' : g'.Heads d' head) (known : g.describe? ty = some d)
    (known' : g'.describe? ty' = some d') : g.Alike g' ty ty' := by
  obtain ⟨args, ofArgs⟩ := twins_map indexed (heads.args.twins heads'.args)
  obtain ⟨shape, ofShape⟩ := h.shape.renumbers indexed h'.shape
  have same : d' = d.relabel (g.counterpart g') := by
    cases d
    cases d'
    simp only [TypeDescriptor.relabel, TypeDescriptor.mk.injEq]
    exact ⟨heads'.identity.trans heads.identity.symm, heads'.name.trans heads.name.symm, args,
      shape, h'.constraints.trans h.constraints.symm, h'.example?.trans h.example?.symm⟩
  refine ⟨d, _, known, same ▸ known', fun part hpart => ?_⟩
  rcases hpart with hpart | hpart
  · exact ofArgs part hpart
  · exact ofShape part hpart

end Described

end GraphFile

end TypeSchema
