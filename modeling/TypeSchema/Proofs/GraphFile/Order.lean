import TypeSchema.Proofs.GraphFile.Alike
import TypeSchema.Proofs.GraphFile.AnyOrder

/-!
# Graph files — the order of entries

The order of entries in a file does not matter if it is `OrderFree`: the graph can be built in one
order if it can in another, and the types that are declared under one name are alike
(`build_perm`).  Numbers may differ, because types are numbered as they are declared.

In general the order matters, because generic arguments in the name of an entry are looked up among
the entries that are declared before it (`not_build_perm`).
-/

namespace TypeSchema

open TypeGraph

namespace GraphFile

/-! ### Heads of entries -/

/-- A head is borne by an entry after the names before it. -/
theorem exists_bears_of_borne {known : List (Name Head)} {entries : List TypeEntry} {h : Head}
    (borne : Borne known entries h) : ∃ before entry after ms, entries = before ++ entry :: after ∧
      declareNames known before = .ok ms ∧ entry.Bears (meaning (known ++ ms) entry.ns?) h := by
  induction entries generalizing known with
  | nil => cases borne
  | cons entry rest ih =>
    rcases borne with bears | ⟨n, hn, borne⟩
    · exact ⟨[], entry, rest, [], rfl, rfl, by rwa [List.append_nil]⟩
    · obtain ⟨before, e, after, ms, rfl, named, bears⟩ := ih borne
      refine ⟨entry :: before, e, after, n :: ms, rfl, ?_, by simpa using bears⟩
      exact declareNames_cons_ok_iff.2 ⟨n, ms, hn, named, rfl⟩

namespace OrderFree

variable {entries es : List TypeEntry} (free : OrderFree entries) (perm : es.Perm entries)
include free perm

/-- **The type of an entry has the head that is read**, whatever it was born from. -/
theorem heads {l : LoadedGraph} {names : List (Name Head)} (loaded : l.Of es names)
    (named : declareNames [] (declarationList es) = .ok names) {d : Declaration}
    (hd : d ∈ l.declared) {n : Name Head} (hn : n ∈ names) (of : d.Of l.graph n) :
    ∃ desc, l.graph.describe? d.type = some desc ∧ l.graph.Heads desc n.target := by
  obtain ⟨read, unambiguous⟩ := (free.declareNames_all_ok_iff perm).1 named
  have among : ∀ m ∈ names, m ∈ namesAmong (plainNames entries) entries := fun m hm => by
    obtain ⟨e, he, hm⟩ := exists_left_of_mem read hm
    exact mem_namesAmong_iff.2 ⟨e, perm.mem_iff.1 ((perm_declarationList es).mem_iff.1 he), hm⟩
  obtain ⟨born, desc, known, ⟨-, head, borne, heads⟩, redefined⟩ := loaded.types d hd
  have identity : head.identity = n.target.identity := by
    have same := of.identity
    rw [identity?, known, Option.map_some, redefined.identity] at same
    exact heads.identity.symm.trans (Option.some.inj same)
  suffices same : head = n.target by
    subst same
    exact ⟨desc, known, redefined.identity.trans heads.identity, redefined.name.trans heads.name,
      redefined.genericArgs ▸ heads.args⟩
  obtain ⟨before, entry, after, ms, split, declared, bears⟩ := exists_bears_of_borne borne
  obtain ⟨readBefore, unambiguous'⟩ := (free.declareNames_ok_iff perm split).1 declared
  have mem : entry ∈ entries :=
    perm.mem_iff.1 ((perm_declarationList es).mem_iff.1 (split ▸ by simp))
  rcases bears with ⟨x, hx, denoted⟩ | ⟨m, hm, rfl⟩
  · -- a part of generic arguments
    have settled : x.denote (meaning (plainNames entries) entry.ns?) = .ok head := by
      rw [← denoted]
      refine (denote_congr x fun name args hpart => ?_).symm
      have part := TypeExpr.partsAll_subset _ hx hpart
      exact free.settled_before perm split readBefore unambiguous' part
    exact free.born _ (mem_argumentParts mem hx) n (among n hn) head
      (toOption_eq_some_iff.2 settled) identity
  · -- an entry
    have reads : Reads entries entry m :=
      (free.nameAmong_before perm split readBefore unambiguous').symm.trans hm
    obtain ⟨m', hm', reads'⟩ := exists_right_of_mem read (split ▸ by simp : entry ∈ _)
    obtain rfl : m = m' := Except.ok.inj (reads.symm.trans reads')
    rw [unambiguous.eq hm' hn (free.apart m (among m hm') n (among n hn) identity)]

/-- **An entry of a file whose order does not matter defines its type.** -/
theorem defines {l : LoadedGraph} {names : List (Name Head)} (loaded : l.Of es names)
    (named : declareNames [] (declarationList es) = .ok names) {d : Declaration}
    (hd : d ∈ l.declared) : ∃ e ∈ es, ∃ n ∈ names, Reads entries e n ∧
      d.qualified = n.qualified ∧ ∃ desc, l.graph.describe? d.type = some desc ∧
        l.graph.Heads desc n.target ∧ e.Defines (meaning names e.ns?) l.graph desc := by
  obtain ⟨read, unambiguous⟩ := (free.declareNames_all_ok_iff perm).1 named
  obtain ⟨ns, permNames, readEs, declared⟩ := loaded.aligned read
  rw [← List.map_snd_zip (Nat.le_of_eq loaded.length)] at hd
  obtain ⟨p, hp, rfl⟩ := List.mem_map.1 hd
  obtain ⟨n, hn, reads, of⟩ := exists_right_of_mem (forall₂_zip_left readEs declared) hp
  obtain ⟨he, hd⟩ := List.of_mem_zip hp
  have own : entriesOf p.2.type (es.zip l.declared) = [p.1] := by
    refine entriesOf_eq_singleton readEs declared ((permNames.map _).nodup_iff.2 unambiguous) hp
      fun n m other hn _ hm same => ?_
    obtain ⟨e, he', hm⟩ := exists_left_of_mem readEs hm
    exact free.apart m (mem_namesAmong_iff.2 ⟨e, perm.mem_iff.1 he', hm⟩) n
      (mem_namesAmong_iff.2 ⟨p.1, perm.mem_iff.1 he, hn⟩) same
  obtain ⟨desc, known, heads⟩ := free.heads perm loaded named hd (permNames.mem_iff.1 hn) of
  obtain ⟨desc', known', decided⟩ := loaded.decided hp
  obtain rfl := Option.some.inj (known.symm.trans known')
  exact ⟨p.1, he, n, permNames.mem_iff.1 hn, reads, of.qualified, desc, known, heads,
    (own ▸ decided).defines⟩

/-- The entries have the same names in another order. -/
theorem exists_declareNames {es' : List TypeEntry} (perm' : es'.Perm entries)
    {names : List (Name Head)} (named : declareNames [] (declarationList es) = .ok names) :
    ∃ names', declareNames [] (declarationList es') = .ok names' ∧ names'.Perm names := by
  obtain ⟨read, unambiguous⟩ := (free.declareNames_all_ok_iff perm).1 named
  have order : (declarationList es').Perm (declarationList es) :=
    ((perm_declarationList es').trans perm').trans ((perm_declarationList es).trans perm).symm
  obtain ⟨names', read', permNames⟩ := List.perm_comp_forall₂ order read
  have unambiguous' : Unambiguous names' := (permNames.map _).nodup_iff.2 unambiguous
  exact ⟨names', (free.declareNames_all_ok_iff perm').2 ⟨read', unambiguous'⟩, permNames⟩

/-- An entry is determined by its name. -/
theorem reads_injective {names : List (Name Head)}
    (named : declareNames [] (declarationList es) = .ok names) {e e' : TypeEntry} (he : e ∈ es)
    (he' : e' ∈ es) {n : Name Head} (hn : Reads entries e n) (hn' : Reads entries e' n) :
    e = e' := by
  obtain ⟨read, unambiguous⟩ := (free.declareNames_all_ok_iff perm).1 named
  have nodup : ((declarationList es).map (·.nameAmong (plainNames entries))).Nodup := by
    have same : _ = names.map Except.ok := map_eq_map read fun _ _ h => h
    rw [same]
    exact (List.Nodup.of_map _ unambiguous).map fun _ _ => Except.ok.inj
  have mem : ∀ {e}, e ∈ es → e ∈ declarationList es := (perm_declarationList es).mem_iff.2
  exact List.inj_on_of_nodup_map nodup (mem he) (mem he') (hn.trans hn'.symm)

/-- If the entries can be built in one order, they can be built in another. -/
theorem exists_build {es' : List TypeEntry} (perm' : es'.Perm entries) {l : LoadedGraph}
    (built : build es = .ok l) : ∃ l', build es' = .ok l' := by
  obtain ⟨names, named, loaded⟩ := build_ok built
  obtain ⟨names', named', permNames⟩ := free.exists_declareNames perm perm' named
  have unambiguous' := unambiguous_of_declareNames named'
  refine GraphFile.exists_build named' fun e he => ⟨l.graph, ?_⟩
  rw [meaning_perm permNames unambiguous']
  exact loaded.described e (perm.mem_iff.2 (perm'.mem_iff.1 he))

end OrderFree

/-- Entries are declared under their names. -/
theorem LoadedGraph.Of.perm_qualified {l : LoadedGraph} {entries : List TypeEntry}
    {names : List (Name Head)} (h : l.Of entries names)
    (named : declareNames [] (declarationList entries) = .ok names) :
    (l.declared.map (·.qualified)).Perm (names.map (·.qualified)) := by
  obtain ⟨ns, perm, -, declared⟩ := h.aligned (forall₂_of_declareNames named)
  rw [map_eq_map declared fun _ _ of => of.qualified]
  exact perm.map _

/-- **The order of entries does not matter** if generic arguments in the names of entries mean the
same among the plain entries, and no two entries have one type: the graph can be built in one order
if it can in another, the same names are declared, and the types under one name are alike. -/
theorem build_perm {entries entries' : List TypeEntry} (free : OrderFree entries)
    (perm : entries'.Perm entries) :
    ((∃ l, build entries = .ok l) ↔ ∃ l', build entries' = .ok l') ∧
    ∀ l l', build entries = .ok l → build entries' = .ok l' →
      (l'.declared.map (·.qualified)).Perm (l.declared.map (·.qualified)) ∧
      ∀ d ∈ l.declared, ∀ d' ∈ l'.declared, d.qualified = d'.qualified →
        l.graph.Alike l'.graph d.type d'.type := by
  refine ⟨⟨fun ⟨_, h⟩ => free.exists_build (.refl _) perm h,
    fun ⟨_, h⟩ => free.exists_build perm (.refl _) h⟩, fun l l' built built' => ?_⟩
  obtain ⟨names, named, loaded⟩ := build_ok built
  obtain ⟨names', named', loaded'⟩ := build_ok built'
  have permNames : names'.Perm names := by
    obtain ⟨names'', named'', permNames⟩ := free.exists_declareNames (.refl _) perm named
    rwa [Except.ok.inj (named'.symm.trans named'')]
  have unambiguous := unambiguous_of_declareNames named
  refine ⟨((loaded'.perm_qualified named').trans (permNames.map _)).trans
    (loaded.perm_qualified named).symm, fun d hd d' hd' same => ?_⟩
  obtain ⟨e, he, n, hn, reads, qualified, desc, known, heads, defines⟩ :=
    free.defines (.refl _) loaded named hd
  obtain ⟨e', he', n', hn', reads', qualified', desc', known', heads', defines'⟩ :=
    free.defines perm loaded' named' hd'
  obtain rfl : n = n' := unambiguous.eq hn (permNames.mem_iff.1 hn')
    (qualified.symm.trans (same.trans qualified'))
  obtain rfl := free.reads_injective (.refl _) named he (perm.mem_iff.1 he') reads reads'
  rw [meaning_perm permNames ((permNames.map _).nodup_iff.2 unambiguous)] at defines'
  exact defines.alike loaded'.indexed defines' heads heads' known known'

/-- Entries before those that they mention, in their names and in their fields. -/
def pagesFirst : List TypeEntry :=
  [{ bareEntry "Page<Box<Item>>" with ns? := none },
    { bareEntry "Box<Item>" with
      ns? := none
      fields := [{ name := "crate", type := "app.Crate", required := true, constraints := [],
                   example? := none }] },
    bareEntry "Crate",
    { bareEntry "Item" with ns? := none }]

/-- The crate has another number in the other order, and the boxes differ in nothing else. -/
theorem build_perm_pagesFirst : ∃ l l', build pagesFirst = .ok l ∧
    build pagesFirst.reverse = .ok l' ∧
    l.declared.map (·.type) = [⟨3⟩, ⟨2⟩, ⟨0⟩, ⟨1⟩] ∧
    l'.declared.map (·.type) = [⟨0⟩, ⟨1⟩, ⟨2⟩, ⟨3⟩] ∧
    l.graph.Alike l'.graph ⟨2⟩ ⟨2⟩ ∧ l.graph.Alike l'.graph ⟨0⟩ ⟨1⟩ := by
  have free : OrderFree pagesFirst := by decide +kernel
  obtain ⟨-, alike⟩ := build_perm free (List.reverse_perm _)
  have declared : (build pagesFirst).toOption.map (·.declared) =
      some [⟨"Page<Box<Item>>", ⟨3⟩⟩, ⟨"Box<Item>", ⟨2⟩⟩, ⟨"app.Crate", ⟨0⟩⟩, ⟨"Item", ⟨1⟩⟩] := by
    decide +kernel
  have declared' : (build pagesFirst.reverse).toOption.map (·.declared) =
      some [⟨"Item", ⟨0⟩⟩, ⟨"app.Crate", ⟨1⟩⟩, ⟨"Box<Item>", ⟨2⟩⟩, ⟨"Page<Box<Item>>", ⟨3⟩⟩] := by
    decide +kernel
  obtain ⟨l, built, declared⟩ := exists_build_of_view declared
  obtain ⟨l', built', declared'⟩ := exists_build_of_view declared'
  obtain ⟨-, alike⟩ := alike l l' built built'
  rw [declared, declared'] at alike
  refine ⟨l, l', built, built', by rw [declared]; rfl, by rw [declared']; rfl, ?_, ?_⟩
  · exact alike ⟨"Box<Item>", ⟨2⟩⟩ (by simp) ⟨"Box<Item>", ⟨2⟩⟩ (by simp) rfl
  · exact alike ⟨"app.Crate", ⟨0⟩⟩ (by simp) ⟨"app.Crate", ⟨1⟩⟩ (by simp) rfl

/-- Generic arguments are looked up among what has been declared before.  A box that is declared
after the page of it is not the box of the page, and a second box makes the page ambiguous. -/
theorem not_build_perm :
    (¬ ∀ entries entries' : List TypeEntry, entries'.Perm entries →
      (∃ l, build entries = .ok l) → ∃ l', build entries' = .ok l') ∧
    ¬ ∀ (entries entries' : List TypeEntry) (l l' : LoadedGraph), entries'.Perm entries →
      build entries = .ok l → build entries' = .ok l' →
      ∀ d ∈ l.declared, ∀ d' ∈ l'.declared, d.qualified = d'.qualified →
        l.graph.identity? d.type = l'.graph.identity? d'.type := by
  refine ⟨fun possible => ?_, fun same => ?_⟩
  · let box (ns : String) : TypeEntry := { bareEntry "Box<string>" with ns? := some ns }
    let page := bareEntry "Page<Box<string>>"
    have first : (build [page, box "a", box "b"]).toOption.map (·.declared.length) = some 3 := by
      decide +kernel
    have last : ¬ (build [box "a", box "b", page]).isOk := by decide +kernel
    obtain ⟨l, built, -⟩ := exists_build_of_view first
    have perm : [box "a", box "b", page].Perm [page, box "a", box "b"] :=
      List.perm_append_singleton page [box "a", box "b"]
    obtain ⟨l', built'⟩ := possible _ _ perm ⟨l, built⟩
    exact last (by rw [built']; rfl)
  · let box := bareEntry "Box<Widget>"
    let page := bareEntry "Page<Box<Widget>>"
    let seen (l : LoadedGraph) := (l.declared, l.graph.identity? ⟨2⟩)
    have last : (build [bareEntry "Widget", box, page]).toOption.map seen =
        some ([⟨"app.Widget", ⟨0⟩⟩, ⟨"app.Box<Widget>", ⟨1⟩⟩, ⟨"app.Page<Box<Widget>>", ⟨2⟩⟩],
          some "app.Page<app.Box<app.Widget>>") := by
      decide +kernel
    have first : (build [bareEntry "Widget", page, box]).toOption.map seen =
        some ([⟨"app.Widget", ⟨0⟩⟩, ⟨"app.Page<Box<Widget>>", ⟨2⟩⟩, ⟨"app.Box<Widget>", ⟨3⟩⟩],
          some "app.Page<Box<app.Widget>>") := by
      decide +kernel
    obtain ⟨l, built, view⟩ := exists_build_of_view last
    obtain ⟨l', built', view'⟩ := exists_build_of_view first
    obtain ⟨declared, identity⟩ := Prod.ext_iff.1 view
    obtain ⟨declared', identity'⟩ := Prod.ext_iff.1 view'
    simp only [seen] at declared declared' identity identity'
    have same := same _ _ l l' ((List.Perm.swap box page []).cons _) built built'
      ⟨"app.Page<Box<Widget>>", ⟨2⟩⟩ (by simp [declared])
      ⟨"app.Page<Box<Widget>>", ⟨2⟩⟩ (by simp [declared']) rfl
    rw [identity, identity'] at same
    exact absurd same (by decide)

end GraphFile

end TypeSchema
