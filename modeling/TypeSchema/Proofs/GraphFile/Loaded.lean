import TypeSchema.GraphFile.Build
import TypeSchema.Proofs.Generation.Existence
import TypeSchema.Proofs.Graph.Founded
import TypeSchema.Proofs.SortedMap

/-!
# Graph files — loaded graphs generate

Building the graph of a file starts from the graph without types and only interns types whose parts
are known, or changes the descriptor of a declared entry.  An expression is resolved to a known type
(`resolve_ok`), because every name that is in scope stands for one (`Scope.Known`); an entry is
defined as a scalar, an enumeration or an object, never as a wrapper for null (`buildShape_ok`).  So
each step of `declareAll` and `defineAll` leads from a founded graph to a founded one that extends
it, and the graph of a file is founded (`build_founded`).

A founded graph has what generations need, so they all succeed (`build_generates`).
-/

namespace TypeSchema.GraphFile

open Relation

/-! ### Names in scope -/

/-- Every name in scope stands for a known type. -/
structure Scope.Known (s : Scope) (g : TypeGraph) : Prop where
  qualified : ∀ spelling ty, s.qualified.get? spelling = some ty → g.knows ty
  unique : ∀ spelling ty, s.aliases.get? spelling = some (.unique ty) → g.knows ty

namespace Scope

variable {s : Scope} {g : TypeGraph}

theorem known_empty : Known {} g :=
  ⟨fun _ _ h => (nomatch h), fun _ _ h => (nomatch h)⟩

theorem Known.mono (hs : s.Known g) {g' : TypeGraph} (h : g.Extends g') : s.Known g' :=
  ⟨fun k ty hk => h.knows (hs.qualified k ty hk), fun k ty hk => h.knows (hs.unique k ty hk)⟩

/-- What a scope finds is known. -/
theorem Known.lookup (hs : s.Known g) {ns? : Option String} {spelling : String} {ty : TypeId}
    (h : s.lookup ns? spelling = .ok (some ty)) : g.knows ty := by
  unfold Scope.lookup at h
  split at h
  · next ty' hq => cases h; exact hs.qualified _ _ hq
  · split at h
    · next ty' hq => cases h; exact hs.qualified _ _ hq
    · split at h
      · next ty' ha => cases h; exact hs.unique _ _ ha
      · cases h
      · cases h

theorem Known.insert (hs : s.Known g) {ty : TypeId} (known : g.knows ty) (qualified : String) :
    Known { s with qualified := s.qualified.insert qualified ty } g := by
  refine ⟨fun k ty' hk => ?_, hs.unique⟩
  simp only [SortedMap.get?_insert] at hk
  split at hk
  · cases hk; exact known
  · exact hs.qualified k ty' hk

theorem Known.addAlias (hs : s.Known g) {ty : TypeId} (known : g.knows ty) (spelling : String) :
    (s.addAlias spelling ty).Known g := by
  refine ⟨hs.qualified, fun k ty' hk => ?_⟩
  simp only [Scope.addAlias, SortedMap.get?_insert] at hk
  split at hk
  · split at hk <;> cases hk
    exact known
  · exact hs.unique k ty' hk

/-! ### Expressions -/

mutual

/-- **An expression is resolved to a known type.** -/
theorem resolve_ok {g : TypeGraph} {ns? : Option String} {r : TypeId × TypeGraph} :
    (e : TypeExpr) → s.Known g → g.Founded → s.resolve ns? e g = .ok r → g.Yields r
  | .array e, hs, hg, h => by
    rw [resolve] at h
    obtain ⟨⟨element, g₁⟩, he, h⟩ := except_bind_ok_iff.1 h
    cases h
    obtain ⟨hext, hknown⟩ := resolve_ok e hs hg he
    exact hext.yields (hext.founded.array hknown)
  | .nullable e, hs, hg, h => by
    rw [resolve] at h
    obtain ⟨⟨inner, g₁⟩, he, h⟩ := except_bind_ok_iff.1 h
    cases h
    obtain ⟨hext, hknown⟩ := resolve_ok e hs hg he
    exact hext.yields (hext.founded.nullable hknown)
  | .named name args, hs, hg, h => by
    rw [resolve] at h
    obtain ⟨found?, hl, h⟩ := except_bind_ok_iff.1 h
    cases found? with
    | some ty => cases h; exact ⟨.refl hg, hs.lookup hl⟩
    | none =>
      simp only at h
      split at h
      · -- a scalar
        split at h
        · cases h; exact hg.scalar _
        · cases h
      · -- a generic abstraction
        obtain ⟨⟨tys, g₁⟩, ha, h⟩ := except_bind_ok_iff.1 h
        obtain ⟨hext, hknown⟩ := resolveAll_ok args hs hg ha
        refine hext.yields ?_
        simp only at h
        split at h <;> cases h
        · exact hext.founded.nullable (hknown _ (by simp))
        · exact hext.founded.pair (hknown _ (by simp)) (hknown _ (by simp))
        · exact hext.founded.collection _ hknown

/-- Resolving expressions extends the graph and gives known types. -/
theorem resolveAll_ok {g : TypeGraph} {ns? : Option String} {r : List TypeId × TypeGraph} :
    (es : List TypeExpr) → s.Known g → g.Founded → s.resolveAll ns? es g = .ok r →
      g.Extends r.2 ∧ ∀ ty ∈ r.1, r.2.knows ty
  | [], _, hg, h => by
    cases h
    exact ⟨.refl hg, by simp⟩
  | e :: rest, hs, hg, h => by
    rw [resolveAll] at h
    obtain ⟨⟨ty, g₁⟩, he, h⟩ := except_bind_ok_iff.1 h
    obtain ⟨⟨tys, g₂⟩, hr, h⟩ := except_bind_ok_iff.1 h
    cases h
    obtain ⟨hext, hknown⟩ := resolve_ok e hs hg he
    obtain ⟨hext', hknowns⟩ := resolveAll_ok rest (hs.mono hext) hext.founded hr
    refine ⟨hext.trans hext', fun ty' hty => ?_⟩
    rcases List.mem_cons.1 hty with rfl | hty
    · exact hext'.knows hknown
    · exact hknowns ty' hty

end

end Scope

theorem within_ok_iff {α : Type} {place : BuildError → BuildError} {x : Except BuildError α}
    {a : α} : within place x = .ok a ↔ x = .ok a := by
  cases x <;> simp [within]

/-! ### Declaring -/

/-- What declaring leads to: a scope of known names, and known types for the declarations. -/
structure Declared (g : TypeGraph) (ds : List Declaration) (s : Scope) (g' : TypeGraph) : Prop where
  grown : g.Extends g'
  known : s.Known g'
  types : ∀ d ∈ ds, g'.knows d.type

/-- A known type is declared under the names of its entry. -/
theorem Scope.Known.declared {s : Scope} {g g₁ : TypeGraph} (hs : s.Known g) {ty : TypeId}
    (h : g.Yields (ty, g₁)) (qualified spelling : String) :
    Declared g [⟨qualified, ty⟩]
      (if qualified = spelling then { s with qualified := s.qualified.insert qualified ty }
        else Scope.addAlias { s with qualified := s.qualified.insert qualified ty } spelling ty)
      g₁ := by
  obtain ⟨hext, hknown⟩ := h
  have hins := (hs.mono hext).insert hknown qualified
  refine ⟨hext, ?_, by simpa using hknown⟩
  split
  · exact hins
  · exact hins.addAlias hknown spelling

/-- Declaring an entry extends the graph and gives a known type. -/
theorem declareEntry_ok {s s' : Scope} {g g' : TypeGraph} {entry : TypeEntry} {d : Declaration}
    (hs : s.Known g) (hg : g.Founded) (h : declareEntry s g entry = .ok (d, s', g')) :
    Declared g [d] s' g' := by
  unfold declareEntry at h
  obtain ⟨expr, -, h⟩ := except_bind_ok_iff.1 h
  -- what is left when the type is there: the names, unless they are taken
  have named : ∀ {ty g₁}, g.Yields (ty, g₁) →
      (if s.qualified.contains (qualify entry.ns? expr.spelling)
        then .error (BuildError.declaredTwice (qualify entry.ns? expr.spelling))
        else .ok (⟨qualify entry.ns? expr.spelling, ty⟩,
          if qualify entry.ns? expr.spelling = expr.spelling then
            { s with qualified := s.qualified.insert (qualify entry.ns? expr.spelling) ty }
          else Scope.addAlias
            { s with qualified := s.qualified.insert (qualify entry.ns? expr.spelling) ty }
            expr.spelling ty, g₁)) = Except.ok (d, s', g') → Declared g [d] s' g' := by
    intro ty g₁ hy h
    split at h <;> cases h
    exact hs.declared hy _ _
  split at h
  · exact named (hg.declareGeneric _ (by simp)) h
  · obtain ⟨⟨tys, g₁⟩, ha, h⟩ := except_bind_ok_iff.1 h
    obtain ⟨hext, hknown⟩ := Scope.resolveAll_ok _ hs hg (within_ok_iff.1 ha)
    exact named (hext.yields (hext.founded.declareGeneric _ hknown)) h
  · cases h

/-- So does declaring all of them. -/
theorem declareAll_ok {s s' : Scope} {g g' : TypeGraph} {entries : List (TypeEntry × Nat)}
    {placed : List (Nat × Declaration)} (hs : s.Known g) (hg : g.Founded)
    (h : declareAll s g entries = .ok (placed, s', g')) :
    Declared g (placed.map (·.2)) s' g' := by
  induction entries generalizing s g placed with
  | nil => cases h; exact ⟨.refl hg, hs, by simp⟩
  | cons e rest ih =>
    obtain ⟨entry, i⟩ := e
    rw [declareAll] at h
    obtain ⟨⟨d, s₁, g₁⟩, hd, h⟩ := except_bind_ok_iff.1 h
    obtain ⟨⟨ds, s₂, g₂⟩, hr, h⟩ := except_bind_ok_iff.1 h
    cases h
    have hfirst := declareEntry_ok hs hg hd
    have hrest := ih hfirst.known hfirst.grown.founded hr
    refine ⟨hfirst.grown.trans hrest.grown, hrest.known, fun d' hd' => ?_⟩
    rcases List.mem_cons.1 hd' with rfl | hd'
    · exact hrest.grown.knows (hfirst.types d' List.mem_cons_self)
    · exact hrest.types d' hd'

/-! ### Defining -/

/-- The types of the elements, or of the keys and values. -/
def Capability.mentioned : Capability → List TypeId
  | .sequence element => [element]
  | .map key value => [key, value]

/-- Building a part leads to a graph that extends the one at hand and knows the types `parts` of
what is built. -/
def Builds {β : Type} (parts : β → List TypeId) (g : TypeGraph) (r : β × TypeGraph) : Prop :=
  g.Extends r.2 ∧ ∀ part ∈ parts r.1, r.2.knows part

/-- Building a field extends the graph, and its type is known. -/
theorem buildField_ok {s : Scope} {ns? : Option String} {g : TypeGraph} {f : FieldEntry}
    {r : Field × TypeGraph} (hs : s.Known g) (hg : g.Founded)
    (h : buildField s ns? g f = .ok r) : Builds (fun f => [f.type]) g r := by
  unfold buildField at h
  obtain ⟨expr, -, h⟩ := except_bind_ok_iff.1 h
  obtain ⟨⟨ty, g₁⟩, he, h⟩ := except_bind_ok_iff.1 h
  cases h
  obtain ⟨hext, hknown⟩ := Scope.resolve_ok expr hs hg (within_ok_iff.1 he)
  exact ⟨hext, by simpa using hknown⟩

/-- So does building a capability. -/
theorem buildCapability_ok {s : Scope} {ns? : Option String} {g : TypeGraph} {src : String}
    {r : Capability × TypeGraph} (hs : s.Known g) (hg : g.Founded)
    (h : buildCapability s ns? g src = .ok r) : Builds Capability.mentioned g r := by
  unfold buildCapability at h
  obtain ⟨expr, -, h⟩ := except_bind_ok_iff.1 h
  split at h
  · obtain ⟨⟨tys, g₁⟩, ha, h⟩ := except_bind_ok_iff.1 h
    obtain ⟨hext, hknown⟩ := Scope.resolveAll_ok _ hs hg ha
    simp only at h
    split at h
    · split at h <;> cases h
      exact ⟨hext, hknown⟩
    · split at h <;> cases h
      exact ⟨hext, hknown⟩
    · cases h
  · cases h

/-- What each of a list of parts does, all of them do. -/
theorem buildAll_ok {α β : Type} {build : TypeGraph → α → Except BuildError (β × TypeGraph)}
    {parts : β → List TypeId} {s : Scope}
    (step : ∀ {g a r}, s.Known g → g.Founded → build g a = .ok r → Builds parts g r)
    {g : TypeGraph} {as : List α} {r : List β × TypeGraph} (hs : s.Known g) (hg : g.Founded)
    (h : buildAll build g as = .ok r) : Builds (·.flatMap parts) g r := by
  induction as generalizing g r with
  | nil => cases h; exact ⟨.refl hg, by simp⟩
  | cons a rest ih =>
    rw [buildAll] at h
    obtain ⟨⟨b, g₁⟩, hb, h⟩ := except_bind_ok_iff.1 h
    obtain ⟨⟨bs, g₂⟩, hr, h⟩ := except_bind_ok_iff.1 h
    cases h
    obtain ⟨hext, hknown⟩ := step hs hg hb
    obtain ⟨hext', hknowns⟩ := ih (hs.mono hext) hext.founded hr
    refine ⟨hext.trans hext', fun part hpart => ?_⟩
    simp only [List.flatMap_cons, List.mem_append] at hpart
    rcases hpart with hpart | hpart
    · exact hext'.knows (hknown part hpart)
    · exact hknowns part hpart

/-- **An entry is defined as no wrapper for null**, and of known types. -/
theorem buildShape_ok {s : Scope} {g : TypeGraph} {entry : TypeEntry} {r : Shape × TypeGraph}
    (hs : s.Known g) (hg : g.Founded) (h : buildShape s g entry = .ok r) :
    Builds Shape.mentioned g r ∧ ∀ inner, r.1 ≠ .nullable inner := by
  unfold buildShape at h
  split at h
  · -- a scalar
    obtain ⟨expr, -, h⟩ := except_bind_ok_iff.1 h
    split at h <;> cases h <;> exact ⟨⟨.refl hg, by simp [Shape.mentioned]⟩, by simp⟩
  · -- an enumeration
    have plain : ∀ {repr}, Except.ok (Shape.enumeration ⟨buildMembers entry.members, repr⟩, g) =
        (.ok r : Except BuildError _) →
          Builds Shape.mentioned g r ∧ ∀ inner, r.1 ≠ .nullable inner := by
      intro repr h
      cases h
      exact ⟨⟨.refl hg, by simp [Shape.mentioned]⟩, by simp⟩
    split at h
    · exact plain h
    · split at h
      · exact plain h
      · cases h
  · -- an object
    obtain ⟨⟨fields, g₁⟩, hf, h⟩ := except_bind_ok_iff.1 h
    obtain ⟨⟨capabilities, g₂⟩, hc, h⟩ := except_bind_ok_iff.1 h
    cases h
    obtain ⟨hext, hfields⟩ := buildAll_ok (fun hs hg => buildField_ok hs hg) hs hg hf
    obtain ⟨hext', hcapabilities⟩ :=
      buildAll_ok (fun hs hg => buildCapability_ok hs hg) (hs.mono hext) hext.founded hc
    refine ⟨⟨hext.trans hext', fun part hpart => ?_⟩, by simp⟩
    rcases List.mem_append.1 hpart with hpart | hpart
    · obtain ⟨f, hf, rfl⟩ := List.mem_map.1 hpart
      exact hext'.knows (hfields f.type (List.mem_flatMap.2 ⟨f, hf, List.mem_singleton_self _⟩))
    · exact hcapabilities part hpart

/-- Defining an entry extends the graph. -/
theorem defineEntry_ok {s : Scope} {g g' : TypeGraph} {entry : TypeEntry} {d : Declaration}
    (hs : s.Known g) (hg : g.Founded) (h : defineEntry s g entry d = .ok g') : g.Extends g' := by
  unfold defineEntry at h
  obtain ⟨⟨shape, g₁⟩, hshape, h⟩ := except_bind_ok_iff.1 h
  obtain ⟨⟨hext, hmentioned⟩, hwrapper⟩ := buildShape_ok hs hg (within_ok_iff.1 hshape)
  have hdef := hext.founded.define d.type hmentioned hwrapper
  have hcon := hdef.founded.setConstraints d.type entry.constraints
  have hall := hext.trans (hdef.trans hcon)
  cases h
  cases entry.example? with
  | none => exact hall
  | some v => exact hall.trans (hcon.founded.setExample d.type v)

/-- So does defining all of them. -/
theorem defineAll_ok {s : Scope} {g g' : TypeGraph} {ds : List (TypeEntry × Declaration)}
    (hs : s.Known g) (hg : g.Founded) (h : defineAll s g ds = .ok g') : g.Extends g' := by
  induction ds generalizing g with
  | nil => cases h; exact .refl hg
  | cons e rest ih =>
    obtain ⟨entry, d⟩ := e
    rw [defineAll] at h
    obtain ⟨g₁, hd, h⟩ := except_bind_ok_iff.1 h
    have hfirst := defineEntry_ok hs hg hd
    exact hfirst.trans (ih (hs.mono hfirst) hfirst.founded h)

/-! ### Loaded graphs -/

/-- **The graph of a file is founded**, and knows its entries. -/
theorem build_founded {entries : List TypeEntry} {l : LoadedGraph} (h : build entries = .ok l) :
    l.graph.Founded ∧ ∀ d ∈ l.declared, l.graph.knows d.type := by
  unfold build at h
  obtain ⟨⟨placed, s, g₁⟩, hp, h⟩ := except_bind_ok_iff.1 h
  obtain ⟨g₂, hd, h⟩ := except_bind_ok_iff.1 h
  cases h
  have hdeclared := declareAll_ok Scope.known_empty TypeGraph.founded_empty hp
  have hext := defineAll_ok hdeclared.known hdeclared.grown.founded hd
  refine ⟨hext.founded, fun d hd => hext.knows (hdeclared.types d ?_)⟩
  obtain ⟨⟨entry, d'⟩, hmem, rfl⟩ := List.mem_map.1 hd
  -- a declaration in the order of the file is one that was made
  obtain ⟨⟨entry', i⟩, -, hlookup⟩ := List.mem_filterMap.1 hmem
  obtain ⟨d'', hfound, he⟩ := Option.map_eq_some_iff.1 hlookup
  cases he
  obtain ⟨before, after, rfl, -⟩ := List.lookup_eq_some_iff.1 hfound
  exact List.mem_map.2 ⟨(i, d'), by simp, rfl⟩

/-- **Loaded graphs generate.** The graph of a file knows every type that it mentions and every
entry of the file, no type reaches itself through wrappers for null or through generic arguments,
and the generations of its types and the documents of any list of them succeed. -/
theorem build_generates {entries : List TypeEntry} {l : LoadedGraph} (h : build entries = .ok l) :
    (∀ ty part, l.graph.Mentions ty part → l.graph.knows part) ∧
      (∀ d ∈ l.declared, l.graph.knows d.type) ∧
      (∀ ty, ¬ TransGen l.graph.Wraps ty ty) ∧
      (∀ ty, ¬ TransGen l.graph.Takes ty ty) ∧
      ∀ gen w,
        (∀ root, l.graph.knows root → Succeeds (generate gen l.graph root) w) ∧
        ∀ roots, (∀ ty ∈ roots, l.graph.knows ty) →
          Succeeds (generateDocument gen l.graph roots) w := by
  obtain ⟨founded, entriesKnown⟩ := build_founded h
  have wf := founded.wellFormed
  refine ⟨fun _ _ hm => wf.knows_of_mentions hm, entriesKnown, founded.no_wrapper_cycle,
    wf.no_argument_cycle, fun gen w => ⟨fun root hroot => ?_, fun roots hroots => ?_⟩⟩
  · exact exists_generate wf founded.no_wrapper_cycle hroot w
  · exact exists_generateDocument wf founded.no_wrapper_cycle hroots w

/-- A file of one entry: nodes with a next one or none, and with children. -/
def treeFile : List TypeEntry :=
  [{ name := "Node", ns? := none, kind := .object, members := [], repr? := none,
     implements := ["List<Node>"], constraints := [], example? := none,
     fields := [
      { name := "next", type := "Node?", required := false, constraints := [], example? := none },
      { name := "children", type := "List<Node[]>", required := true, constraints := [],
        example? := none }] }]

/-- A file with a recursive type: built, and generated by every generator. -/
theorem treeFile_generates : ∃ l, build treeFile = .ok l ∧ l.graph.knows ⟨0⟩ ∧
    ∀ gen w, Succeeds (generate gen l.graph ⟨0⟩) w ∧
      Succeeds (generateDocument gen l.graph [⟨0⟩, ⟨0⟩]) w := by
  have builds : (build treeFile).toOption.map (·.graph.knows ⟨0⟩) = some true := by
    decide +kernel
  cases h : build treeFile with
  | error e => rw [h] at builds; cases builds
  | ok l =>
    have known : l.graph.knows ⟨0⟩ := by simpa [h, Except.toOption] using builds
    obtain ⟨-, -, -, -, generates⟩ := build_generates h
    refine ⟨l, rfl, known, fun gen w => ⟨(generates gen w).1 _ known, (generates gen w).2 _ ?_⟩⟩
    simpa using known

end TypeSchema.GraphFile
