import TypeSchema.Proofs.Outcome
import TypeSchema.Proofs.TypeExpr.Grammar

/-!
# Type expressions — the spelling as a key

Declared types are looked up by the spelling of an expression, so the spelling must determine the
expression.  It does for the expressions that can be written: those whose names are names
(`WellNamed`), which are exactly the ones that are read off some text
(`wellNamed_iff_exists_parse`).

The spelling of an expression consists of its tokens without blanks (`exists_tokens`).  A name takes
as many characters as it can, so this holds before any text that does not go on with a character of
a name (`Stops`): in a spelling, a name is followed by a symbol or by nothing.  The grammar then
says what is read (`parse_of_derives`).

**The spelling is a faithful key** (`parse_spelling_faithful`): it has no blanks, it is read back
as the expression, and no other expression has it.
-/

namespace TypeSchema.TypeExpr

/-- The text is a name: characters of names, one at least. -/
def IsName (name : String) : Prop := name.toList ≠ [] ∧ ∀ c ∈ name.toList, isNameChar c

instance : DecidablePred IsName := fun name =>
  decidable_of_iff (name.toList ≠ [] ∧ name.toList.all isNameChar) (by simp [IsName])

mutual

/-- Each name in the expression is a name. -/
def WellNamed : TypeExpr → Prop
  | named name args => IsName name ∧ AllWellNamed args
  | array e => WellNamed e
  | nullable e => WellNamed e

/-- Each name in the expressions is a name. -/
def AllWellNamed : List TypeExpr → Prop
  | [] => True
  | e :: rest => WellNamed e ∧ AllWellNamed rest

end

/-! ### What is read is well named -/

theorem Spells.isName_of_mem {ts : List Token} {cs rest : List Char} (h : Spells ts cs rest)
    {name : String} (mem : .name name ∈ ts) : IsName name := by
  induction h with
  | nil => cases mem
  | cons _ token _ ih =>
    rcases List.mem_cons.1 mem with rfl | mem
    · cases token with
      | name nonempty chars => exact ⟨nonempty, chars⟩
    · exact ih mem

mutual

theorem wellNamed_of_derives {ts : List Token} (names : ∀ name, .name name ∈ ts → IsName name) :
    (e : TypeExpr) → Derives ts e → e.WellNamed
  | .named name args, derived => by
    cases derived with
    | plain => exact ⟨names name List.mem_cons_self, trivial⟩
    | generic _ derived =>
      have inside := allWellNamed_of_derivesAll (fun name' h =>
        names name' (.tail _ (.tail _ (List.mem_append_left _ h)))) args derived
      exact ⟨names name List.mem_cons_self, inside⟩
  | .array e, derived => by
    cases derived with
    | array derived =>
      exact wellNamed_of_derives (fun name h => names name (List.mem_append_left _ h)) e derived
  | .nullable e, derived => by
    cases derived with
    | nullable derived =>
      exact wellNamed_of_derives (fun name h => names name (List.mem_append_left _ h)) e derived

theorem allWellNamed_of_derivesAll {ts : List Token}
    (names : ∀ name, .name name ∈ ts → IsName name) :
    (es : List TypeExpr) → DerivesAll ts es → AllWellNamed es
  | [], _ => trivial
  | e :: rest, derived => by
    cases derived with
    | one derived => exact ⟨wellNamed_of_derives names e derived, trivial⟩
    | more derived derivedMore =>
      refine ⟨wellNamed_of_derives (fun name h => ?_) e derived,
        allWellNamed_of_derivesAll (fun name h => ?_) rest derivedMore⟩
      · exact names name (List.mem_append_left _ h)
      · exact names name (List.mem_append_right _ (.tail _ h))

end

/-- What is parsed is well named. -/
theorem wellNamed_of_parse {src : String} {e : TypeExpr} (h : parse src = .ok e) :
    e.WellNamed := by
  obtain ⟨ts, derived, spelled⟩ := exists_derives_of_parse h
  exact wellNamed_of_derives (fun _ mem => spelled.isName_of_mem mem) e derived

/-! ### What is written is spelled by its tokens -/

/-- No name goes on with the text. -/
def Stops (rest : List Char) : Prop := ∀ c ∈ rest.head?, ¬ isNameChar c

/-- The characters are those of the tokens, without blanks, where no name goes on after them. -/
structure Writes (ts : List Token) (cs : List Char) : Prop where
  unspaced : ∀ c ∈ cs, ¬ Text.isBlank c
  spells : ∀ rest, Stops rest → Spells ts (cs ++ rest) rest

/-- A text may begin with a token at once, without blanks. -/
theorem Token.Starts.spells {t : Token} {ts : List Token} {cs mid rest : List Char}
    (token : t.Starts cs mid) (more : Spells ts mid rest) : Spells (t :: ts) cs rest :=
  @Spells.cons t ts [] cs mid rest (List.forall_mem_nil _) token more

theorem stops_symbol (s : Symbol) (rest : List Char) : Stops (s.char :: rest) := by
  intro c hc
  obtain rfl : s.char = c := Option.some.inj hc
  cases s <;> decide +kernel

namespace Writes

variable {ts us : List Token} {cs cs' : List Char}

theorem nil : Writes [] [] := ⟨List.forall_mem_nil _, fun rest _ => .refl rest⟩

theorem name {n : String} (h : IsName n) : Writes [.name n] n.toList where
  unspaced c hc := not_isBlank_of_isNameChar (h.2 c hc)
  spells rest stops := (Token.Starts.name h.1 h.2 stops).spells (.refl rest)

/-- A symbol ends what is written before it. -/
theorem symbol (h : Writes ts cs) (s : Symbol) (h' : Writes us cs') :
    Writes (ts ++ .symbol s :: us) (cs ++ s.char :: cs') where
  unspaced := List.forall_mem_append.2
    ⟨h.unspaced, List.forall_mem_cons.2 ⟨s.char_not_blank, h'.unspaced⟩⟩
  spells rest stops := by
    have after : Spells (.symbol s :: us) (s.char :: (cs' ++ rest)) rest :=
      (Token.Starts.symbol s _).spells (h'.spells rest stops)
    rw [List.append_assoc, List.cons_append]
    exact (h.spells _ (stops_symbol s _)).append after

end Writes

mutual

/-- **The spelling of an expression consists of its tokens.** -/
theorem exists_tokens : (e : TypeExpr) → e.WellNamed →
    ∃ ts, Derives ts e ∧ Writes ts e.spelling.toList
  | .named name [], h => ⟨_, .plain name, .name h.1⟩
  | .named name (a :: rest), ⟨isName, first, others⟩ => by
    obtain ⟨ts, derived, writes⟩ := exists_tokens a first
    obtain ⟨us, derived, writes⟩ := exists_tokensAll rest others derived writes
    refine ⟨_, .generic name derived, ?_⟩
    have whole := (Writes.name isName).symbol .openArgs (writes.symbol .closeArgs .nil)
    simpa [spelling, Symbol.char] using whole
  | .array e, h => by
    obtain ⟨ts, derived, writes⟩ := exists_tokens e h
    refine ⟨_, .array derived, ?_⟩
    have whole := writes.symbol .openBracket (Writes.nil.symbol .closeBracket .nil)
    simpa [spelling, Symbol.char] using whole
  | .nullable e, h => by
    obtain ⟨ts, derived, writes⟩ := exists_tokens e h
    refine ⟨_, .nullable derived, ?_⟩
    simpa [spelling, Symbol.char] using writes.symbol .question .nil

/-- More arguments are written after the first one. -/
theorem exists_tokensAll {ts : List Token} {e : TypeExpr} {cs : List Char} :
    (rest : List TypeExpr) → AllWellNamed rest → Derives ts e → Writes ts cs →
      ∃ us, DerivesAll us (e :: rest) ∧ Writes us (cs ++ (spellings rest).toList)
  | [], _, derived, writes => ⟨ts, .one derived, by simpa [spellings] using writes⟩
  | a :: rest, ⟨first, others⟩, derived, writes => by
    obtain ⟨us, derivedFirst, writesFirst⟩ := exists_tokens a first
    obtain ⟨vs, derivedMore, writesMore⟩ := exists_tokensAll rest others derivedFirst writesFirst
    refine ⟨_, .more derived derivedMore, ?_⟩
    simpa [spellings, Symbol.char] using writes.symbol .comma writesMore

end

/-- **What is written is read back.** -/
theorem parse_spelling {e : TypeExpr} (h : e.WellNamed) : parse e.spelling = .ok e := by
  obtain ⟨ts, derived, writes⟩ := exists_tokens e h
  have spelled : Spelled ts e.spelling := by
    simpa [Spelled] using writes.spells [] fun _ hc => nomatch hc
  exact parse_of_derives derived spelled

/-- The well named expressions are those that can be written. -/
theorem wellNamed_iff_exists_parse {e : TypeExpr} : e.WellNamed ↔ ∃ src, parse src = .ok e :=
  ⟨fun h => ⟨_, parse_spelling h⟩, fun ⟨_, h⟩ => wellNamed_of_parse h⟩

/-- There are no blanks in a spelling. -/
theorem unspaced_spelling {e : TypeExpr} (h : e.WellNamed) :
    ∀ c ∈ e.spelling.toList, ¬ Text.isBlank c := by
  obtain ⟨_, -, writes⟩ := exists_tokens e h
  exact writes.unspaced

/-- Well-named expressions with one spelling are one expression. -/
theorem spelling_injective {e e' : TypeExpr} (h : e.WellNamed) (h' : e'.WellNamed)
    (same : e.spelling = e'.spelling) : e = e' := by
  have read := parse_spelling h
  rw [same, parse_spelling h'] at read
  exact (Except.ok.inj read).symm

/-- **The spelling is a faithful key.**  The spelling of an expression whose names are names is read
back as the expression.  So whatever text an expression was read from, its spelling has no blanks
and is read as the same expression, and two such expressions with one spelling are equal. -/
theorem parse_spelling_faithful :
    (∀ e : TypeExpr, e.WellNamed → parse e.spelling = .ok e) ∧
    (∀ src e, parse src = .ok e →
      (∀ c ∈ e.spelling.toList, ¬ Text.isBlank c) ∧ parse e.spelling = .ok e) ∧
    ∀ e e' : TypeExpr, e.WellNamed → e'.WellNamed → e.spelling = e'.spelling → e = e' := by
  refine ⟨fun e h => parse_spelling h, fun src e read => ?_, fun e e' => spelling_injective⟩
  have h := wellNamed_of_parse read
  exact ⟨unspaced_spelling h, parse_spelling h⟩

/-- A dictionary of lists or nothing, from a text with blanks; another expression that is spelled
like it is the same one. -/
theorem parse_spelling_faithful_dictionary :
    let e : TypeExpr := .nullable (.named "Dictionary" [.named "größe" [],
      .array (.named "List" [.named "app.Widget" []])])
    let src := " Dictionary<größe ,\tList < app.Widget>[ ] > ?\n"
    e.spelling = "Dictionary<größe,List<app.Widget>[]>?" ∧ e.WellNamed ∧ parse src = .ok e ∧
    parse e.spelling = .ok e ∧ (∀ c ∈ e.spelling.toList, ¬ Text.isBlank c) ∧
    ∀ e' : TypeExpr, e'.WellNamed → e'.spelling = "Dictionary<größe,List<app.Widget>[]>?" →
      e' = e := by
  intro e src
  obtain ⟨readBack, ofText, injective⟩ := parse_spelling_faithful
  have spelled : e.spelling = "Dictionary<größe,List<app.Widget>[]>?" := by decide +kernel
  have named : e.WellNamed :=
    ⟨by decide +kernel, ⟨by decide +kernel, trivial⟩,
      ⟨by decide +kernel, ⟨by decide +kernel, trivial⟩, trivial⟩, trivial⟩
  have read : (parse src).toOption.map spelling = some e.spelling := by decide +kernel
  obtain ⟨e₀, read, same⟩ := Option.map_eq_some_iff.1 read
  replace read := toOption_eq_some_iff.1 read
  obtain rfl : e₀ = e := injective e₀ e (wellNamed_of_parse read) named same
  exact ⟨spelled, named, read, readBack _ named, (ofText src _ read).1,
    fun e' named' same => injective e' _ named' named (same.trans spelled.symm)⟩

end TypeSchema.TypeExpr
