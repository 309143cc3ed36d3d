import TypeSchema.Proofs.GraphFile.Declaring
import TypeSchema.Proofs.GraphFile.Loaded

/-!
# Graph files — definitions of entries

`TypeEntry.Describes` says which shape an entry describes: its fields with their names and
constraints, and of types that the texts in the file denote.  A shape is built exactly if the entry
describes one (`realizes_buildShape`).

Entries are defined one after the other, and a type may be defined more than once: the last entry
decides on its shape (`Redefined`, `defineAll_defined`).
-/

namespace TypeSchema

open TypeGraph

namespace GraphFile

/-! ### Descriptions -/

/-- The text is an expression that denotes the type. -/
def Denotes (names : Denotation) (g : TypeGraph) (src : String) (ty : TypeId) : Prop :=
  ∃ e h, parseExpr src = .ok e ∧ e.denote names = .ok h ∧ g.identity? ty = some h.identity

/-- The entry describes the field. -/
structure FieldEntry.Describes (entry : FieldEntry) (names : Denotation) (g : TypeGraph)
    (f : Field) : Prop where
  name : f.name = entry.name
  type : Denotes names g entry.type f.type
  required : f.required = entry.required
  constraints : f.constraints = entry.constraints
  example? : f.example? = entry.example?

/-- The collection is of the kind of the capability. -/
def Capability.OfKind (kind : CollectionKind) : Capability → Prop
  | .sequence _ => kind.isSequence
  | .map _ _ => kind.isMap

/-- The text describes the capability. -/
def DescribesCapability (names : Denotation) (g : TypeGraph) (src : String) (c : Capability) :
    Prop :=
  ∃ name args is, parseExpr src = .ok (.named name args) ∧
    TypeExpr.denoteAll names args = .ok is ∧ g.Identified (Capability.mentioned c) is ∧
    Capability.OfKind (.ofName name) c

/-- The outer name of an expression without suffixes. -/
def outerName? : TypeExpr → Option String
  | .named name _ => some name
  | _ => none

/-- The entry describes the shape. -/
inductive TypeEntry.Describes (entry : TypeEntry) (names : Denotation) (g : TypeGraph) :
    Shape → Prop where
  | scalar {e : TypeExpr} (kind : entry.kind = .scalar) (parsed : parseExpr entry.name = .ok e) :
      Describes entry names g (.scalar (.other ((outerName? e).getD entry.name)))
  | enumeration {e : Enumeration} (kind : entry.kind = .enumeration)
      (members : ∀ i : Nat, e.members[i]? =
        entry.members[i]?.map fun m => ⟨m.name, m.value?.getD i⟩)
      (repr : (entry.repr?.map IntegerRepr.ofName?).getD (some .int32) = some e.repr) :
      Describes entry names g (.enumeration e)
  | object {o : ObjectShape} (kind : entry.kind = .object)
      (fields : List.Forall₂ (fun f x => FieldEntry.Describes f names g x) entry.fields o.fields)
      (capabilities : List.Forall₂ (DescribesCapability names g) entry.implements
        o.capabilities) :
      Describes entry names g (.object o)

section Mono

variable {names : Denotation} {g g' : TypeGraph} (keeps : g.Keeps g')
include keeps

theorem Denotes.mono {src : String} {ty : TypeId} (h : Denotes names g src ty) :
    Denotes names g' src ty := by
  obtain ⟨e, head, parsed, denoted, identity⟩ := h
  exact ⟨e, head, parsed, denoted, keeps.identity _ _ identity⟩

theorem FieldEntry.Describes.mono {entry : FieldEntry} {f : Field}
    (h : entry.Describes names g f) : entry.Describes names g' f :=
  { h with type := h.type.mono keeps }

theorem DescribesCapability.mono {src : String} {c : Capability}
    (h : DescribesCapability names g src c) : DescribesCapability names g' src c := by
  obtain ⟨name, args, is, parsed, denoted, identified, kind⟩ := h
  exact ⟨name, args, is, parsed, denoted, keeps.identified identified, kind⟩

theorem TypeEntry.Describes.mono {entry : TypeEntry} {shape : Shape}
    (h : entry.Describes names g shape) : entry.Describes names g' shape := by
  cases h with
  | scalar kind parsed => exact .scalar kind parsed
  | enumeration kind members repr => exact .enumeration kind members repr
  | object kind fields capabilities =>
    exact .object kind (fields.imp fun _ _ h => h.mono keeps)
      (capabilities.imp fun _ _ h => h.mono keeps)

end Mono

/-! ### Building what is described -/

/-- Any type may be new. -/
abbrev Extended : TypeGraph → TypeGraph → Prop := Grown fun _ => True

/-- Where `F` holds, what is built is as described, and what can be described is built. -/
structure Realizes {α β : Type} (build : TypeGraph → α → Except BuildError (β × TypeGraph))
    (F : TypeGraph → Prop) (D : TypeGraph → α → β → Prop) : Prop where
  sound : ∀ {g a r}, F g → build g a = .ok r → Extended g r.2 ∧ D r.2 a r.1
  complete : ∀ {g g' a b}, F g → D g' a b → ∃ r, build g a = .ok r
  mono : ∀ {g g' a b}, g.Keeps g' → D g a b → D g' a b

/-- The parts are built one after the other. -/
theorem Realizes.all {α β : Type} {build : TypeGraph → α → Except BuildError (β × TypeGraph)}
    {F : TypeGraph → Prop} {D : TypeGraph → α → β → Prop} (h : Realizes build F D)
    (stays : ∀ {g g'}, g.Keeps g' → F g → F g') :
    Realizes (buildAll build) F fun g => List.Forall₂ (D g) where
  sound := by
    intro g as
    induction as generalizing g with
    | nil => intro r _ hb; cases hb; exact ⟨.refl _ g, .nil⟩
    | cons a rest ih =>
      intro r hF hb
      obtain ⟨⟨b, g₁⟩, hb₁, hb⟩ := except_bind_ok_iff.1 hb
      obtain ⟨⟨bs, g₂⟩, hb₂, hb⟩ := except_bind_ok_iff.1 hb
      cases hb
      obtain ⟨grown, described⟩ := h.sound hF hb₁
      obtain ⟨more, all⟩ := ih (stays grown.keeps hF) hb₂
      exact ⟨grown.trans more, .cons (h.mono more.keeps described) all⟩
  complete := by
    intro g g' as bs hF described
    induction described generalizing g with
    | nil => exact ⟨_, rfl⟩
    | cons first _ ih =>
      obtain ⟨⟨b, g₁⟩, hb₁⟩ := h.complete hF first
      obtain ⟨⟨bs, g₂⟩, hb₂⟩ := ih (stays (h.sound hF hb₁).1.keeps hF)
      exact ⟨_, except_bind_ok_iff.2 ⟨_, hb₁, except_bind_ok_iff.2 ⟨_, hb₂, rfl⟩⟩⟩
  mono keeps := List.Forall₂.imp fun _ _ => h.mono keeps

section Build

variable {s : Scope} {ns? : Option String} {names : Denotation}

/-- A field's program realizes what its entry describes. -/
theorem realizes_buildField : Realizes (buildField s ns?) (fun g => s.Finds g ns? names)
    (fun g f x => FieldEntry.Describes f names g x) where
  sound := by
    intro g f r finds h
    obtain ⟨e, parsed, h⟩ := except_bind_ok_iff.1 h
    obtain ⟨⟨ty, g₁⟩, resolved, h⟩ := except_bind_ok_iff.1 h
    cases h
    obtain ⟨head, denoted, grown, identity⟩ :=
      (Scope.resolve_agrees e finds).exists_right (within_ok_iff.1 resolved)
    exact ⟨grown.mono fun _ _ => trivial, rfl, ⟨e, head, within_ok_iff.1 parsed, denoted, identity⟩,
      rfl, rfl, rfl⟩
  complete := by
    rintro g g' f x finds ⟨-, ⟨e, head, parsed, denoted, -⟩, -, -, -⟩
    obtain ⟨r, resolved, -⟩ := (Scope.resolve_agrees e finds).exists_left denoted
    exact ⟨_, except_bind_ok_iff.2 ⟨e, within_ok_iff.2 parsed,
      except_bind_ok_iff.2 ⟨r, within_ok_iff.2 resolved, rfl⟩⟩⟩
  mono keeps h := h.mono keeps

/-- A capability is a name with resolved arguments. -/
theorem buildCapability_ok_iff {g : TypeGraph} {src : String} {r : Capability × TypeGraph} :
    buildCapability s ns? g src = .ok r ↔ ∃ name args, parseExpr src = .ok (.named name args) ∧
      s.resolveAll ns? args g = .ok (Capability.mentioned r.1, r.2) ∧
      Capability.OfKind (.ofName name) r.1 := by
  rw [buildCapability, except_bind_ok_iff]
  constructor
  · rintro ⟨e, parsed, h⟩
    cases e with
    | array e => cases h
    | nullable e => cases h
    | named name args =>
      obtain ⟨⟨tys, g₁⟩, resolved, h⟩ := except_bind_ok_iff.1 h
      refine ⟨name, args, parsed, ?_⟩
      rcases tys with _ | ⟨first, _ | ⟨second, _ | ⟨third, rest⟩⟩⟩
      · cases h
      · simp only at h
        split at h
        · next isSequence => cases h; exact ⟨resolved, isSequence⟩
        · cases h
      · simp only at h
        split at h
        · next isMap => cases h; exact ⟨resolved, isMap⟩
        · cases h
      · cases h
  · rintro ⟨name, args, parsed, resolved, kind⟩
    refine ⟨_, parsed, except_bind_ok_iff.2 ⟨_, resolved, ?_⟩⟩
    obtain ⟨c, g₁⟩ := r
    cases c with
    | sequence element => exact if_pos kind
    | map key value => exact if_pos kind

/-- A capability's program realizes what its source describes. -/
theorem realizes_buildCapability : Realizes (buildCapability s ns?)
    (fun g => s.Finds g ns? names) (DescribesCapability names) where
  sound := by
    intro g src r finds h
    obtain ⟨name, args, parsed, resolved, kind⟩ := buildCapability_ok_iff.1 h
    obtain ⟨is, denoted, grown, identified⟩ :=
      (Scope.resolveAll_agrees args finds).exists_right resolved
    exact ⟨grown.mono fun _ _ => trivial, name, args, is, parsed, denoted, identified, kind⟩
  complete := by
    rintro g g' src c finds ⟨name, args, is, parsed, denoted, identified, kind⟩
    obtain ⟨⟨tys, g₁⟩, resolved, -, identified'⟩ :=
      (Scope.resolveAll_agrees args finds).exists_left denoted
    have lengths := identified'.length_eq.trans identified.length_eq.symm
    cases c with
    | sequence _ =>
      obtain ⟨element, rfl⟩ := List.length_eq_one_iff.1 lengths
      exact ⟨(.sequence element, g₁), buildCapability_ok_iff.2 ⟨name, args, parsed, resolved, kind⟩⟩
    | map _ _ =>
      obtain ⟨key, value, rfl⟩ := List.length_eq_two.1 lengths
      exact ⟨(.map key value, g₁), buildCapability_ok_iff.2 ⟨name, args, parsed, resolved, kind⟩⟩
  mono keeps h := h.mono keeps

/-- So do all fields of an entry, from left to right. -/
theorem realizes_buildFields :
    Realizes (buildAll (buildField s ns?)) (fun g => s.Finds g ns? names)
      fun g => List.Forall₂ fun f x => FieldEntry.Describes f names g x :=
  realizes_buildField.all fun keeps finds => finds.mono keeps

theorem realizes_buildCapabilities :
    Realizes (buildAll (buildCapability s ns?)) (fun g => s.Finds g ns? names)
      fun g => List.Forall₂ (DescribesCapability names g) :=
  realizes_buildCapability.all fun keeps finds => finds.mono keeps

theorem getElem?_buildMembers (members : List MemberEntry) (i : Nat) :
    (buildMembers members)[i]? = members[i]?.map fun m => ⟨m.name, m.value?.getD i⟩ := by
  simp [buildMembers, List.getElem?_zipIdx, Function.comp_def]

end Build

section Shapes

variable {s : Scope} {g : TypeGraph} {entry : TypeEntry} {r : Shape × TypeGraph}

theorem buildShape_scalar_ok_iff (kind : entry.kind = .scalar) :
    buildShape s g entry = .ok r ↔ ∃ e, parseExpr entry.name = .ok e ∧
      r = (.scalar (.other ((outerName? e).getD entry.name)), g) := by
  rw [buildShape, kind, except_bind_ok_iff]
  refine exists_congr fun e => and_congr_right fun _ => ?_
  cases e <;> exact ⟨fun h => (Except.ok.inj h).symm, fun h => congrArg Except.ok h.symm⟩

/-- An enumeration is built if its representation is known. -/
theorem buildShape_enumeration_ok_iff (kind : entry.kind = .enumeration) :
    buildShape s g entry = .ok r ↔ ∃ repr,
      (entry.repr?.map IntegerRepr.ofName?).getD (some .int32) = some repr ∧
        r = (.enumeration ⟨buildMembers entry.members, repr⟩, g) := by
  have known : ∀ repr, (Except.ok (.enumeration ⟨buildMembers entry.members, repr⟩, g) :
      Except BuildError (Shape × TypeGraph)) = .ok r ↔ ∃ repr', some repr = some repr' ∧
        r = (.enumeration ⟨buildMembers entry.members, repr'⟩, g) :=
    fun repr => by simp [eq_comm]
  rw [buildShape, kind]
  cases entry.repr? with
  | none => exact known .int32
  | some name =>
    simp only [Option.map_some, Option.getD_some]
    cases IntegerRepr.ofName? name with
    | none =>
      constructor
      · intro h; cases h
      · rintro ⟨repr, h, -⟩; cases h
    | some repr => exact known repr

/-- An object is its fields and then its capabilities. -/
theorem buildShape_object_ok_iff (kind : entry.kind = .object) :
    buildShape s g entry = .ok r ↔ ∃ xs g₁ cs g₂,
      buildAll (buildField s entry.ns?) g entry.fields = .ok (xs, g₁) ∧
      buildAll (buildCapability s entry.ns?) g₁ entry.implements = .ok (cs, g₂) ∧
        r = (.object ⟨xs, cs⟩, g₂) := by
  rw [buildShape, kind]
  constructor
  · intro h
    obtain ⟨⟨xs, g₁⟩, hxs, h⟩ := except_bind_ok_iff.1 h
    obtain ⟨⟨cs, g₂⟩, hcs, h⟩ := except_bind_ok_iff.1 h
    exact ⟨xs, g₁, cs, g₂, hxs, hcs, (Except.ok.inj h).symm⟩
  · rintro ⟨xs, g₁, cs, g₂, hxs, hcs, rfl⟩
    exact except_bind_ok_iff.2 ⟨_, hxs, except_bind_ok_iff.2 ⟨_, hcs, rfl⟩⟩

end Shapes

/-- The names in scope are found from every namespace. -/
abbrev Scope.FindsAll (s : Scope) (g : TypeGraph) (names : Option String → Denotation) : Prop :=
  ∀ ns?, s.Finds g ns? (names ns?)

/-- **A shape is built as the entry describes it.** -/
theorem realizes_buildShape {s : Scope} {names : Option String → Denotation} :
    Realizes (buildShape s) (fun g => s.FindsAll g names)
      (fun g entry shape => TypeEntry.Describes entry (names entry.ns?) g shape) where
  sound := by
    intro g entry r finds h
    cases kind : entry.kind with
    | scalar =>
      obtain ⟨e, parsed, rfl⟩ := (buildShape_scalar_ok_iff kind).1 h
      exact ⟨.refl _ g, .scalar kind parsed⟩
    | enumeration =>
      obtain ⟨repr, known, rfl⟩ := (buildShape_enumeration_ok_iff kind).1 h
      exact ⟨.refl _ g, .enumeration kind (getElem?_buildMembers _) known⟩
    | object =>
      obtain ⟨xs, g₁, cs, g₂, hxs, hcs, rfl⟩ := (buildShape_object_ok_iff kind).1 h
      obtain ⟨grown, described⟩ := realizes_buildFields.sound (finds entry.ns?) hxs
      have finds₁ := (finds entry.ns?).mono grown.keeps
      obtain ⟨more, offered⟩ := realizes_buildCapabilities.sound finds₁ hcs
      exact ⟨grown.trans more,
        .object kind (described.imp fun _ _ h => h.mono more.keeps) offered⟩
  complete := by
    intro g g' entry shape finds h
    cases h with
    | scalar kind parsed => exact ⟨_, (buildShape_scalar_ok_iff kind).2 ⟨_, parsed, rfl⟩⟩
    | enumeration kind members repr =>
      exact ⟨_, (buildShape_enumeration_ok_iff kind).2 ⟨_, repr, rfl⟩⟩
    | object kind described offered =>
      obtain ⟨⟨xs, g₁⟩, hxs⟩ := realizes_buildFields.complete (finds entry.ns?) described
      have keeps := (realizes_buildFields.sound (finds entry.ns?) hxs).1.keeps
      have finds₁ := (finds entry.ns?).mono keeps
      obtain ⟨⟨cs, g₂⟩, hcs⟩ := realizes_buildCapabilities.complete finds₁ offered
      exact ⟨_, (buildShape_object_ok_iff kind).2 ⟨xs, g₁, cs, g₂, hxs, hcs, rfl⟩⟩
  mono keeps h := h.mono keeps

/-! ### Defining what is declared -/

/-- The descriptor with the shape that an entry describes and with its constraints; an example stays
if the entry has none. -/
def TypeEntry.redefine (entry : TypeEntry) (shape : Shape) (d : TypeDescriptor) : TypeDescriptor :=
  { d with shape, constraints := entry.constraints, example? := entry.example?.or d.example? }

/-- Two changes of one type are one change. -/
theorem modify_modify (g : TypeGraph) (ty : TypeId) (f f' : TypeDescriptor → TypeDescriptor) :
    (g.modify ty f).modify ty f' = g.modify ty (f' ∘ f) := by
  simp only [TypeGraph.modify, TypeGraph.mk.injEq, and_true]
  ext i d : 1
  · simp
  · simp only [Array.getElem_modify]
    split <;> rfl

theorem defineEntry_eq (s : Scope) (g : TypeGraph) (entry : TypeEntry) (d : Declaration) :
    defineEntry s g entry d = within (.inType d.qualified) (buildShape s g entry) >>= fun r =>
      .ok (r.2.modify d.type (entry.redefine r.1)) := by
  rw [defineEntry]
  refine bind_congr fun r => congrArg Except.ok ?_
  cases example? : entry.example? <;>
    simp only [define, setConstraints, setExample, modify_modify] <;>
    exact congrArg _ (funext fun d => by simp [TypeEntry.redefine, example?])

/-- An entry is defined if its shape can be built, and its type is redefined with it. -/
theorem defineEntry_ok_iff {s : Scope} {g g' : TypeGraph} {entry : TypeEntry} {d : Declaration} :
    defineEntry s g entry d = .ok g' ↔ ∃ shape g₁, buildShape s g entry = .ok (shape, g₁) ∧
      g' = g₁.modify d.type (entry.redefine shape) := by
  rw [defineEntry_eq, except_bind_ok_iff]
  constructor
  · rintro ⟨⟨shape, g₁⟩, built, h⟩
    exact ⟨shape, g₁, within_ok_iff.1 built, (Except.ok.inj h).symm⟩
  · rintro ⟨shape, g₁, built, rfl⟩
    exact ⟨_, within_ok_iff.2 built, rfl⟩

/-- What entries make of a descriptor, one after the other. -/
structure Redefined (names : Option String → Denotation) (g : TypeGraph) (entries : List TypeEntry)
    (d d' : TypeDescriptor) : Prop where
  identity : d'.identity = d.identity
  name : d'.name = d.name
  genericArgs : d'.genericArgs = d.genericArgs
  /-- Entries decide, if there are any. -/
  same : entries = [] → d' = d
  /-- The last entry decides on the shape and the constraints. -/
  last : ∀ entry, entries.getLast? = some entry →
    entry.Describes (names entry.ns?) g d'.shape ∧ d'.constraints = entry.constraints
  /-- The last entry with an example decides on the example. -/
  example? : d'.example? = ((entries.filterMap (·.example?)).getLast?).or d.example?

theorem Redefined.none {names : Option String → Denotation} {g : TypeGraph} {d : TypeDescriptor} :
    Redefined names g [] d d :=
  ⟨rfl, rfl, rfl, fun _ => rfl, (fun _ h => nomatch h), rfl⟩

theorem Redefined.trans {names : Option String → Denotation} {g G : TypeGraph}
    {entries more : List TypeEntry} {d d₁ d' : TypeDescriptor} (h : Redefined names g entries d d₁)
    (keeps : g.Keeps G) (h' : Redefined names G more d₁ d') :
    Redefined names G (entries ++ more) d d' := by
  refine ⟨h'.identity.trans h.identity, h'.name.trans h.name,
    h'.genericArgs.trans h.genericArgs, fun none => ?_, fun entry last => ?_, ?_⟩
  · obtain ⟨rfl, rfl⟩ := List.append_eq_nil_iff.1 none
    exact (h'.same rfl).trans (h.same rfl)
  · rw [List.getLast?_append] at last
    cases hmore : more.getLast? with
    | some entry' =>
      rw [hmore] at last
      obtain rfl := Option.some.inj last
      exact h'.last _ hmore
    | none =>
      rw [hmore] at last
      obtain rfl := h'.same (List.getLast?_eq_none_iff.1 hmore)
      obtain ⟨described, constraints⟩ := h.last entry last
      exact ⟨described.mono keeps, constraints⟩
  · rw [h'.example?, h.example?, List.filterMap_append, List.getLast?_append, Option.or_assoc]

/-- The entries of a type, in the order of the file. -/
def entriesOf (ty : TypeId) (ds : List (TypeEntry × Declaration)) : List TypeEntry :=
  (ds.filter (·.2.type = ty)).map (·.1)

/-- The entries of a type in two lists are those of the one and then of the other. -/
theorem entriesOf_append (ty : TypeId) (ds ds' : List (TypeEntry × Declaration)) :
    entriesOf ty (ds ++ ds') = entriesOf ty ds ++ entriesOf ty ds' := by
  rw [entriesOf, List.filter_append, List.map_append, entriesOf, entriesOf]

/-- Entries are defined, one after the other. -/
structure Defined (names : Option String → Denotation) (g : TypeGraph)
    (ds : List (TypeEntry × Declaration)) (G : TypeGraph) : Prop where
  keeps : g.Keeps G
  types : ∀ ty d, g.describe? ty = some d → ∃ d', G.describe? ty = some d' ∧
    Redefined names G (entriesOf ty ds) d d'
  described : ∀ e ∈ ds, ∃ shape, e.1.Describes (names e.1.ns?) G shape

theorem Defined.trans {names : Option String → Denotation} {g g₁ G : TypeGraph}
    {ds more : List (TypeEntry × Declaration)} (h : Defined names g ds g₁)
    (h' : Defined names g₁ more G) : Defined names g (ds ++ more) G := by
  refine ⟨h.keeps.trans h'.keeps, fun ty d hd => ?_, fun e he => ?_⟩
  · obtain ⟨d₁, hd₁, redefined⟩ := h.types ty d hd
    obtain ⟨d', hd', redefined'⟩ := h'.types ty d₁ hd₁
    exact ⟨d', hd', entriesOf_append .. ▸ redefined.trans h'.keeps redefined'⟩
  · rcases List.mem_append.1 he with he | he
    · obtain ⟨shape, described⟩ := h.described e he
      exact ⟨shape, described.mono h'.keeps⟩
    · exact h'.described e he

/-- **An entry is defined as it describes.** -/
theorem defineEntry_defined {s : Scope} {names : Option String → Denotation} {g g' : TypeGraph}
    {entry : TypeEntry} {d : Declaration} (finds : s.FindsAll g names)
    (h : defineEntry s g entry d = .ok g') : Defined names g [(entry, d)] g' := by
  obtain ⟨shape, g₁, built, rfl⟩ := defineEntry_ok_iff.1 h
  obtain ⟨grown, described⟩ := realizes_buildShape.sound finds built
  have keeps : g₁.Keeps (g₁.modify d.type (entry.redefine shape)) :=
    modify_keeps g₁ (f := entry.redefine shape) (fun _ => rfl) d.type
  refine ⟨grown.keeps.trans keeps, fun ty desc hd => ?_,
    List.forall_mem_singleton.2 ⟨shape, described.mono keeps⟩⟩
  have before := grown.retains ty desc hd
  rw [describe?_modify]
  by_cases same : ty = d.type
  · subst same
    refine ⟨entry.redefine shape desc, by rw [if_pos rfl, before, Option.map_some], ?_⟩
    have own : entriesOf d.type [(entry, d)] = [entry] := by simp [entriesOf]
    rw [own]
    refine ⟨rfl, rfl, rfl, (fun none => nomatch none), fun entry' last => ?_, ?_⟩
    · obtain rfl := Option.some.inj last
      exact ⟨described.mono keeps, rfl⟩
    · cases example? : entry.example? <;> simp [TypeEntry.redefine, example?]
  · refine ⟨desc, by rw [if_neg same, before], ?_⟩
    have none : entriesOf ty [(entry, d)] = [] := by simp [entriesOf, Ne.symm same]
    exact none ▸ .none

theorem Scope.FindsAll.mono {s : Scope} {g g' : TypeGraph} {names : Option String → Denotation}
    (h : s.FindsAll g names) (keeps : g.Keeps g') : s.FindsAll g' names :=
  fun ns? => (h ns?).mono keeps

/-- **Entries are defined as they describe.** -/
theorem defineAll_defined {s : Scope} {names : Option String → Denotation} {g G : TypeGraph}
    {ds : List (TypeEntry × Declaration)} (finds : s.FindsAll g names)
    (h : defineAll s g ds = .ok G) : Defined names g ds G := by
  induction ds generalizing g with
  | nil =>
    cases h
    exact ⟨.refl _, fun ty d hd => ⟨d, hd, .none⟩, fun e he => (List.not_mem_nil he).elim⟩
  | cons e rest ih =>
    obtain ⟨g₁, hd, h⟩ := except_bind_ok_iff.1 h
    have first := defineEntry_defined finds hd
    exact first.trans (ih (finds.mono first.keeps) h)

/-- Entries that describe shapes can be defined. -/
theorem exists_defineAll {s : Scope} {names : Option String → Denotation} {g : TypeGraph}
    {ds : List (TypeEntry × Declaration)} (finds : s.FindsAll g names)
    (described : ∀ e ∈ ds, ∃ g' shape, e.1.Describes (names e.1.ns?) g' shape) :
    ∃ G, defineAll s g ds = .ok G := by
  induction ds generalizing g with
  | nil => exact ⟨g, rfl⟩
  | cons e rest ih =>
    obtain ⟨g', shape, first⟩ := described e List.mem_cons_self
    obtain ⟨⟨shape', g₁⟩, built⟩ := realizes_buildShape.complete finds first
    have defined := (defineEntry_ok_iff (d := e.2)).2 ⟨shape', g₁, built, rfl⟩
    have keeps := (defineEntry_defined finds defined).keeps
    obtain ⟨G, hG⟩ := ih (finds.mono keeps) fun e he => described e (List.mem_cons_of_mem _ he)
    exact ⟨G, except_bind_ok_iff.2 ⟨_, defined, hG⟩⟩

end GraphFile

end TypeSchema
