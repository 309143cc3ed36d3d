import TypeSchema.Proofs.Generation.Objects

/-!
# Generation — what becomes of the fields of an object

The fields of an object are sorted by name, cut to the limit if there is one and they exceed it, and
then put into a map by name.  Cutting is counted and reported, but the map keeps one property for
each name: of fields with one name all but one are lost, and nothing says so.

`Generator.Lists` says how a node and the fields of its object compare, and `generate_members` says
it of every object that is expanded: the properties and the fields that were cut are as many as the
fields that are declared exactly if no two of those that are kept have one name.
-/

namespace TypeSchema

variable {gen : Generator} {g : TypeGraph}

/-! ### Maps made from lists -/

theorem SortedMap.contains_ofList {α : Type} (l : List (String × α)) (k : String) :
    (ofList l).contains k ↔ k ∈ l.map (·.1) := by
  rw [contains, get?_ofList, Option.isSome_map, List.getLast?_isSome, ← List.length_pos_iff_ne_nil]
  simp [List.length_pos_iff_exists_mem, eq_comm]

/-- A map made from a list has one entry for each of its keys. -/
theorem SortedMap.size_ofList {α : Type} (l : List (String × α)) :
    (ofList l).size = (l.map (·.1)).dedup.length := by
  rw [← length_keys]
  refine List.Perm.length_eq <| (List.perm_ext_iff_of_nodup (nodup_keys _) (List.nodup_dedup _)).2
    fun k => ?_
  rw [mem_keys_iff, contains_ofList, List.mem_dedup]

/-! ### Fields that are kept -/

/-- There are more fields than may be kept. -/
def Generator.Exceeds (gen : Generator) (o : ObjectShape) (limit : Nat) : Prop :=
  gen.config.memberThreshold? = some limit ∧ limit < o.fields.length

/-- Ordering loses no field. -/
theorem length_sortedFields (o : ObjectShape) : (sortedFields o).length = o.fields.length :=
  List.length_mergeSort _

/-- The names of sorted fields ascend. -/
theorem pairwise_sortedFields (o : ObjectShape) :
    (sortedFields o).Pairwise fun f f' => f.name ≤ f'.name := by
  have sorted : (sortedFields o).Pairwise fun f f' => decide (f.name ≤ f'.name) := by
    refine List.pairwise_mergeSort (fun f f' f'' h h' => ?_) (fun f f' => ?_) o.fields
    · simp only [decide_eq_true_eq] at h h' ⊢
      exact String.le_trans h h'
    · simpa using String.le_total f.name f'.name
  exact sorted.imp fun h => by simpa using h

/-- **How the node of an object and its fields compare**: `kept` are the fields that it has
properties for, and `dropped` those that were cut. -/
structure Generator.Lists (gen : Generator) (o : ObjectShape) (n : SchemaNode)
    (kept dropped : List Field) : Prop where
  fields : (kept ++ dropped).Perm o.fields
  /-- The fields that are kept have the least names. -/
  least : ∀ f ∈ kept, ∀ f' ∈ dropped, f.name ≤ f'.name
  exceeded : ∀ limit, gen.Exceeds o limit → kept.length = limit ∧
    n.truncation? = some ⟨o.fields.length, o.fields.length - limit⟩
  within : (∀ limit, ¬ gen.Exceeds o limit) → dropped = [] ∧ n.truncation? = none
  properties : ∀ name, n.properties.contains name ↔ ∃ f ∈ kept, f.name = name
  required : ∀ name, n.required.contains name ↔ ∃ f ∈ kept, f.required ∧ f.name = name
  size : n.properties.size = (kept.map (·.name)).dedup.length

namespace Generator.Lists

variable {o : ObjectShape} {n : SchemaNode} {kept dropped : List Field}

/-- The node says how many fields were cut. -/
theorem truncated (h : gen.Lists o n kept dropped) :
    n.truncation?.elim 0 (·.dropped) = dropped.length := by
  by_cases exceeds : ∃ limit, gen.Exceeds o limit
  · obtain ⟨limit, exceeds⟩ := exceeds
    obtain ⟨length, truncation⟩ := h.exceeded limit exceeds
    have total := h.fields.length_eq
    rw [List.length_append] at total
    rw [truncation]
    simp only [Option.elim_some]
    omega
  · obtain ⟨none, truncation⟩ := h.within (not_exists.1 exceeds)
    rw [none, truncation]
    rfl

/-- Every field is accounted for exactly if those that are kept have different names. -/
theorem count_iff (h : gen.Lists o n kept dropped) :
    n.properties.size + n.truncation?.elim 0 (·.dropped) = o.fields.length ↔
      (kept.map (·.name)).Nodup := by
  have total := h.fields.length_eq
  rw [List.length_append] at total
  have lost : (kept.map (·.name)).dedup.length = kept.length ↔ (kept.map (·.name)).Nodup := by
    rw [← List.dedup_eq_self]
    refine ⟨fun same => (List.dedup_sublist _).eq_of_length (by rw [same, List.length_map]),
      fun same => by rw [same, List.length_map]⟩
  rw [h.truncated, h.size, ← lost]
  omega

/-- If the fields that are declared have different names, those that are kept do. -/
theorem nodup_kept (h : gen.Lists o n kept dropped) (nodup : (o.fields.map (·.name)).Nodup) :
    (kept.map (·.name)).Nodup := by
  have all := (h.fields.map (·.name)).nodup_iff.2 nodup
  rw [List.map_append] at all
  exact (List.nodup_append.1 all).1

/-- A field whose name no other one has is required as it says. -/
theorem required_iff (h : gen.Lists o n kept dropped) (nodup : (kept.map (·.name)).Nodup)
    {f : Field} (hf : f ∈ kept) : n.required.contains f.name ↔ f.required := by
  rw [h.required]
  refine ⟨fun ⟨f', hf', required, name⟩ => ?_, fun required => ⟨f, hf, required, rfl⟩⟩
  rwa [List.inj_on_of_nodup_map nodup hf hf' name.symm]

end Generator.Lists

/-- What keeping fields comes to: all of them, or as many as the limit allows. -/
theorem Generator.keptFields_cases (gen : Generator) (o : ObjectShape) :
    (∃ limit, gen.Exceeds o limit ∧
      TypeSchema.keptFields gen.config.memberThreshold? (sortedFields o) =
        ((sortedFields o).take limit, some ⟨o.fields.length, o.fields.length - limit⟩)) ∨
    (∀ limit, ¬ gen.Exceeds o limit) ∧
      TypeSchema.keptFields gen.config.memberThreshold? (sortedFields o) =
        (sortedFields o, none) := by
  cases threshold : gen.config.memberThreshold? with
  | none => exact .inr ⟨fun limit h => by simp [Exceeds, threshold] at h, rfl⟩
  | some limit =>
    by_cases exceeds : limit < o.fields.length
    · refine .inl ⟨limit, ⟨threshold, exceeds⟩, ?_⟩
      simp only [TypeSchema.keptFields, length_sortedFields, if_pos exceeds]
    · refine .inr ⟨fun limit' h => exceeds ?_, ?_⟩
      · obtain ⟨threshold', exceeds'⟩ := h
        rwa [Option.some.inj (threshold'.symm.trans threshold)] at exceeds'
      · simp only [TypeSchema.keptFields, length_sortedFields, if_neg exceeds]

/-- The node of an object, before it is decorated, lists its fields. -/
theorem lists_objectNode (gen : Generator) (o : ObjectShape) (i : String) {ids : List NodeId}
    (length : ids.length = (gen.keptFields o).length) :
    gen.Lists o (objectNode gen o i ids) (gen.keptFields o)
      ((sortedFields o).drop (gen.keptFields o).length) := by
  have prefixed : gen.keptFields o ++ (sortedFields o).drop (gen.keptFields o).length =
      sortedFields o := by
    rcases gen.keptFields_cases o with ⟨limit, ⟨-, exceeds⟩, kept⟩ | ⟨-, kept⟩
    · have within : limit ≤ (sortedFields o).length := by
        rw [length_sortedFields]
        exact Nat.le_of_lt exceeds
      rw [Generator.keptFields, kept, List.length_take, Nat.min_eq_left within,
        List.take_append_drop]
    · rw [Generator.keptFields, kept, List.drop_length, List.append_nil]
  have names : ((gen.keptFields o).zip ids).map (·.1) = gen.keptFields o :=
    List.map_fst_zip (Nat.le_of_eq length.symm)
  have properties : (objectNode gen o i ids).properties =
      SortedMap.ofList (((gen.keptFields o).zip ids).map fun q => (q.1.name, q.2)) :=
    SchemaNode.properties_withFields _ _
  have keys : (((gen.keptFields o).zip ids).map fun q => (q.1.name, q.2)).map (·.1) =
      (gen.keptFields o).map (·.name) := by
    conv_rhs => rw [← names]
    rw [List.map_map, List.map_map]
    rfl
  refine ⟨?_, ?_, fun limit exceeds => ?_, fun within => ?_, fun name => ?_, fun name => ?_, ?_⟩
  · rw [prefixed]
    exact List.mergeSort_perm _ _
  · have sorted := pairwise_sortedFields o
    rw [← prefixed] at sorted
    exact fun f hf f' hf' => (List.pairwise_append.1 sorted).2.2 f hf f' hf'
  · rcases gen.keptFields_cases o with ⟨limit', exceeds', kept⟩ | ⟨within, -⟩
    · obtain rfl : limit' = limit := Option.some.inj (exceeds'.1.symm.trans exceeds.1)
      refine ⟨?_, congrArg Prod.snd kept⟩
      rw [Generator.keptFields, kept, List.length_take, length_sortedFields]
      exact Nat.min_eq_left (Nat.le_of_lt exceeds.2)
    · exact absurd exceeds (within limit)
  · rcases gen.keptFields_cases o with ⟨limit, exceeds, -⟩ | ⟨-, kept⟩
    · exact absurd exceeds (within limit)
    · refine ⟨?_, congrArg Prod.snd kept⟩
      rw [Generator.keptFields, kept, List.drop_length]
  · rw [properties, SortedMap.contains_ofList, keys, List.mem_map]
  · have required : name ∈ (objectNode gen o i ids).required.keys ↔
        ∃ q ∈ (gen.keptFields o).zip ids, q.1.required ∧ q.1.name = name :=
      SchemaNode.mem_required_withFields
    rw [← SortedMap.mem_keys_iff, required]
    conv_rhs => rw [← names]
    simp only [List.mem_map, exists_exists_and_eq_and]
  · rw [properties, SortedMap.size_ofList, keys]

/-! ### Generations -/

/-- **What becomes of the fields of an object that is expanded.**  The properties of its node are
those of the fields with the least names, up to the limit, and the node counts the others if there
are any.  Together they are as many as the fields that are declared exactly if no two fields that
are kept have one name, and then a property is required exactly if its field is. -/
theorem generate_members {root : TypeId} {w w' : Workspace} {s : GeneratedSchema}
    (h : generate gen g root w = .ok s w') {j : NodeId} {n : SchemaNode} {i : String}
    (hn : s.arena.get? j = some n) (identifier : n.identifier? = some i) :
    ∃ ty o kept dropped, g.HasClass ty (.object (some o)) ∧ g.Holds w'.registry ty i ∧
      gen.Lists o n kept dropped ∧
      (n.properties.size + n.truncation?.elim 0 (·.dropped) = o.fields.length ↔
        (kept.map (·.name)).Nodup) ∧
      ((kept.map (·.name)).Nodup →
        ∀ f ∈ kept, (n.required.contains f.name ↔ f.required)) := by
  -- nothing is asked of the nodes of fields
  have anything : gen.FieldInvariant g fun _ _ _ => True :=
    ⟨fun _ _ => trivial, fun _ _ _ => trivial⟩
  obtain ⟨ty, o, ids, cls, holds, body, length, -, -⟩ :=
    (generate_made anything h).2 j n i hn identifier
  have lists : gen.Lists o n (gen.keptFields o)
      ((sortedFields o).drop (gen.keptFields o).length) := by
    rw [body]
    have bare := lists_objectNode gen o i length
    exact ⟨bare.fields, bare.least, bare.exceeded, bare.within, bare.properties, bare.required,
      bare.size⟩
  exact ⟨ty, o, _, _, cls, holds, lists, lists.count_iff,
    fun nodup f hf => lists.required_iff nodup hf⟩

/-- An object with a required field among three that are not in the order of their names. -/
def TypeGraph.wide : TypeGraph := .ofTypes #[
  { identity := "String", name := "String", shape := .scalar .string },
  { identity := "Wide", name := "Wide",
    shape := .object { fields := [{ name := "c", type := ⟨0⟩ },
      { name := "b", type := ⟨0⟩, required := true }, { name := "a", type := ⟨0⟩ }] } }]

theorem TypeGraph.hasClass_wide {ty : TypeId} {o : ObjectShape}
    (h : TypeGraph.wide.HasClass ty (.object (some o))) :
    o.fields = [{ name := "c", type := ⟨0⟩ }, { name := "b", type := ⟨0⟩, required := true },
      { name := "a", type := ⟨0⟩ }] := by
  obtain ⟨d, known, cls⟩ := h
  obtain ⟨index⟩ := ty
  rcases index with _ | _ | index
  all_goals cases known
  all_goals cases cls
  rfl

/-- With room for two fields the third one is counted. -/
theorem generate_members_wide :
    ∃ s w' n, generate (.plain { memberThreshold? := some 2 }) .wide ⟨1⟩ {} = .ok s w' ∧
      s.arena.get? s.root = some n ∧ n.properties.keys = ["a", "b"] ∧
      n.truncation? = some ⟨3, 1⟩ ∧ n.properties.size + 1 = 3 ∧ n.required.contains "b" := by
  have computed : Work.value? (do
      let s ← generate (.plain { memberThreshold? := some 2 }) .wide ⟨1⟩
      return (s.arena.get? s.root).map fun n => (n.identifier?, n.properties.keys)) {} =
      some (some (some "Wide", ["a", "b"])) := by cbv
  obtain ⟨s, w', hs, hread⟩ := Work.ok_of_reading computed
  obtain ⟨n, hn, hn'⟩ := Option.map_eq_some_iff.1 hread
  obtain ⟨identifier, keys⟩ := Prod.mk.inj hn'
  obtain ⟨ty, o, kept, dropped, cls, -, lists, count, required⟩ := generate_members hs hn identifier
  have fields := TypeGraph.hasClass_wide cls
  have truncation : n.truncation? = some ⟨3, 1⟩ := by
    have exceeds : Generator.Exceeds (.plain { memberThreshold? := some 2 }) o 2 :=
      ⟨rfl, by rw [fields]; decide⟩
    rw [(lists.exceeded 2 exceeds).2, fields]
    rfl
  have nodup := lists.nodup_kept (by rw [fields]; decide)
  refine ⟨s, w', n, hs, hn, keys, truncation, ?_, ?_⟩
  · have all := count.2 nodup
    rw [truncation, fields] at all
    exact all
  · have there : n.properties.contains "b" := SortedMap.mem_keys_iff.1 (by rw [keys]; decide)
    obtain ⟨f, hf, name⟩ := (lists.properties "b").1 there
    have needed : ∀ f ∈ o.fields, f.name = "b" → f.required := by
      rw [fields]
      simp
    have declared : f ∈ o.fields := lists.fields.subset (List.mem_append_left _ hf)
    exact name ▸ (required nodup f hf).2 (needed f declared name)

/-- Of two fields with one name one is lost, and nothing counts it. -/
theorem not_generate_members :
    ¬ ∀ (gen : Generator) (g : TypeGraph) (root : TypeId) (s : GeneratedSchema) (w' : Workspace),
      generate gen g root {} = .ok s w' →
      ∀ j n i, s.arena.get? j = some n → n.identifier? = some i →
        ∃ ty o, g.HasClass ty (.object (some o)) ∧ g.Holds w'.registry ty i ∧
          n.properties.size + n.truncation?.elim 0 (·.dropped) = o.fields.length := by
  intro h
  have computed : Work.value? (do
      let s ← generate (.plain {}) .repeatedField ⟨2⟩
      return (s.arena.get? s.root).map fun n =>
        (n.identifier?, n.properties.size, n.truncation?)) {} =
      some (some (some "A", 1, none)) := by cbv
  obtain ⟨s, w', hs, hread⟩ := Work.ok_of_reading computed
  obtain ⟨n, hn, hn'⟩ := Option.map_eq_some_iff.1 hread
  obtain ⟨identifier, hn'⟩ := Prod.mk.inj hn'
  obtain ⟨size, truncation⟩ := Prod.mk.inj hn'
  obtain ⟨ty, o, cls, -, count⟩ := h _ _ _ s w' hs s.root n "A" hn identifier
  rw [size, truncation, TypeGraph.hasClass_repeatedField cls] at count
  cases count

end TypeSchema
