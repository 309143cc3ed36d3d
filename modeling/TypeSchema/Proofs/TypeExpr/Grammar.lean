import TypeSchema.TypeExpr.Parser

/-!
# Type expressions — the grammar

A text is split into tokens, names and symbols, with blanks before each token and after the last one
(`Spells`).  A name takes as many characters as it can.  `Derives` says which tokens make up which
expression:

    Expr ::= Name ('<' Expr (',' Expr)* '>')? ('?' | '[' ']')*

**Reading follows the grammar** (`parse_eq_ok_iff`): a text is read as an expression exactly if its
tokens derive the expression.  The functions that read a name and a symbol are exact for one token
(`spells_name_iff`, `spells_symbol_iff`), so the two directions are proved on tokens: what is read
is derived (`expr?_derives`), and what is derived is read up to the suffixes that follow
(`expr?_of_derives`), provided that the fuel exceeds the characters that are left.
-/

namespace TypeSchema.TypeExpr

/-! ### Tokens -/

/-- A character that is a token of its own. -/
inductive Symbol where
  | openArgs
  | comma
  | closeArgs
  | question
  | openBracket
  | closeBracket
  deriving DecidableEq

/-- The character of a symbol. -/
def Symbol.char : Symbol → Char
  | openArgs => '<'
  | comma => ','
  | closeArgs => '>'
  | question => '?'
  | openBracket => '['
  | closeBracket => ']'

/-- A token of a type expression. -/
inductive Token where
  | name (name : String)
  | symbol (s : Symbol)

/-- The text begins with the token and goes on with the rest.  No character of a name follows a
name. -/
inductive Token.Starts : Token → List Char → List Char → Prop where
  | name {n : String} {rest : List Char} (nonempty : n.toList ≠ [])
      (chars : ∀ c ∈ n.toList, isNameChar c) (maximal : ∀ c ∈ rest.head?, ¬ isNameChar c) :
      Starts (.name n) (n.toList ++ rest) rest
  | symbol (s : Symbol) (rest : List Char) : Starts (.symbol s) (s.char :: rest) rest

/-- The text consists of the tokens, with blanks before each of them and after the last one, and of
the rest. -/
inductive Spells : List Token → List Char → List Char → Prop where
  | nil {blanks : List Char} (blank : ∀ c ∈ blanks, Text.isBlank c) (rest : List Char) :
      Spells [] (blanks ++ rest) rest
  | cons {t : Token} {ts : List Token} {blanks cs mid rest : List Char}
      (blank : ∀ c ∈ blanks, Text.isBlank c) (token : t.Starts cs mid) (more : Spells ts mid rest) :
      Spells (t :: ts) (blanks ++ cs) rest

/-! ### Expressions -/

mutual

/-- The tokens make up the expression. -/
inductive Derives : List Token → TypeExpr → Prop where
  | plain (name : String) : Derives [.name name] (.named name [])
  | generic (name : String) {ts : List Token} {args : List TypeExpr} (h : DerivesAll ts args) :
      Derives (.name name :: .symbol .openArgs :: (ts ++ [.symbol .closeArgs])) (.named name args)
  | nullable {ts : List Token} {e : TypeExpr} (h : Derives ts e) :
      Derives (ts ++ [.symbol .question]) (.nullable e)
  | array {ts : List Token} {e : TypeExpr} (h : Derives ts e) :
      Derives (ts ++ [.symbol .openBracket, .symbol .closeBracket]) (.array e)

/-- The tokens make up the expressions, with commas between them. -/
inductive DerivesAll : List Token → List TypeExpr → Prop where
  | one {ts : List Token} {e : TypeExpr} (h : Derives ts e) : DerivesAll ts [e]
  | more {ts us : List Token} {e : TypeExpr} {rest : List TypeExpr} (h : Derives ts e)
      (hrest : DerivesAll us rest) : DerivesAll (ts ++ .symbol .comma :: us) (e :: rest)

end

/-! ### Blanks -/

theorem Symbol.char_not_blank (s : Symbol) : ¬ Text.isBlank s.char := by
  cases s <;> decide

theorem Symbol.char_injective {s s' : Symbol} (h : s.char = s'.char) : s = s' := by
  cases s <;> cases s' <;> first | rfl | exact absurd h (by decide)

/-- No character of a name is a blank. -/
theorem not_isBlank_of_isNameChar {c : Char} (h : isNameChar c) : ¬ Text.isBlank c := by
  have absent : ∀ cs : List Char, cs.all (fun d => !isNameChar d) → c ∉ cs := fun cs all hc => by
    simpa [h] using List.all_eq_true.1 all c hc
  rw [Text.isBlank, decide_eq_true_eq]
  exact absent _ (by decide +kernel)

theorem skipBlank_append {blanks : List Char} (blank : ∀ c ∈ blanks, Text.isBlank c)
    (cs : List Char) : skipBlank (blanks ++ cs) = skipBlank cs :=
  List.dropWhile_append_of_pos blank

theorem skipBlank_cons {c : Char} (h : ¬ Text.isBlank c) (cs : List Char) :
    skipBlank (c :: cs) = c :: cs :=
  List.dropWhile_cons_of_neg h

/-- A text consists of blanks and of what is left without them. -/
theorem exists_blanks (cs : List Char) :
    ∃ blanks, (∀ c ∈ blanks, Text.isBlank c) ∧ cs = blanks ++ skipBlank cs :=
  ⟨cs.takeWhile Text.isBlank, fun _ hc => List.all_eq_true.1 List.all_takeWhile _ hc,
    List.takeWhile_append_dropWhile.symm⟩

theorem length_skipBlank_le (cs : List Char) : (skipBlank cs).length ≤ cs.length :=
  (List.dropWhile_sublist _).length_le

/-- A text begins with a token where its blanks end. -/
theorem Token.Starts.skipBlank_eq {t : Token} {cs mid : List Char} (h : t.Starts cs mid) :
    skipBlank cs = cs := by
  cases h with
  | symbol s => exact skipBlank_cons s.char_not_blank mid
  | @name n _ nonempty chars _ =>
    obtain ⟨c, rest, eq⟩ := List.exists_cons_of_ne_nil nonempty
    rw [eq] at chars ⊢
    exact skipBlank_cons (not_isBlank_of_isNameChar (chars c List.mem_cons_self)) _

namespace Spells

variable {ts us : List Token} {cs mid rest : List Char}

theorem refl (cs : List Char) : Spells [] cs cs := .nil (List.forall_mem_nil _) cs

theorem skip (cs : List Char) : Spells [] cs (skipBlank cs) := by
  obtain ⟨blanks, blank, eq⟩ := exists_blanks cs
  have spells := Spells.nil blank (skipBlank cs)
  rwa [← eq] at spells

theorem skipBlank_eq (h : Spells [] cs rest) : skipBlank cs = skipBlank rest := by
  cases h with
  | nil blank rest => exact skipBlank_append blank rest

/-- Blanks may be added in front. -/
theorem blanks {blanks : List Char} (blank : ∀ c ∈ blanks, Text.isBlank c)
    (h : Spells ts cs rest) : Spells ts (blanks ++ cs) rest := by
  have both : ∀ {more : List Char}, (∀ c ∈ more, Text.isBlank c) →
      ∀ c ∈ blanks ++ more, Text.isBlank c := fun hmore c hc =>
    (List.mem_append.1 hc).elim (blank c) (hmore c)
  cases h with
  | nil blank' rest => rw [← List.append_assoc]; exact .nil (both blank') rest
  | cons blank' token more => rw [← List.append_assoc]; exact .cons (both blank') token more

theorem append (h : Spells ts cs mid) (h' : Spells us mid rest) : Spells (ts ++ us) cs rest := by
  induction h with
  | nil blank mid => exact h'.blanks blank
  | cons blank token _ ih => exact .cons blank token (ih h')

theorem length_le (h : Spells ts cs rest) : rest.length ≤ cs.length := by
  induction h with
  | nil => simp
  | cons _ token _ ih => cases token <;> simp <;> omega

/-- Tokens one after the other are spelled by texts one after the other. -/
theorem append_iff : Spells (ts ++ us) cs rest ↔ ∃ mid, Spells ts cs mid ∧ Spells us mid rest := by
  refine ⟨fun h => ?_, fun ⟨mid, h, h'⟩ => h.append h'⟩
  induction ts generalizing cs with
  | nil => exact ⟨cs, .refl cs, h⟩
  | cons t ts ih => cases h with
    | cons blank token more =>
      obtain ⟨mid, first, second⟩ := ih more
      exact ⟨mid, .cons blank token first, second⟩

end Spells

/-! ### Reading tokens -/

theorem eat?_eq_some_iff {c : Char} {cs rest : List Char} :
    eat? c cs = some rest ↔ skipBlank cs = c :: rest := by
  unfold eat?
  split
  · next d tail left =>
    rw [left]
    split
    · next same => simp [same]
    · next other => simp [other]
  · next none => simp [none]

theorem eat?_congr {cs cs' : List Char} (h : skipBlank cs = skipBlank cs') (c : Char) :
    eat? c cs = eat? c cs' := by
  rw [eat?, eat?, h]

/-- A text that begins with one character does not begin with another one. -/
theorem eat?_eq_none {c d : Char} {cs rest : List Char} (h : eat? c cs = some rest)
    (other : d ≠ c) : eat? d cs = none := by
  rw [eat?_eq_some_iff] at h
  rw [eat?, h]
  exact if_neg other.symm

theorem length_of_eat? {c : Char} {cs rest : List Char} (h : eat? c cs = some rest) :
    rest.length < cs.length := by
  have left := length_skipBlank_le cs
  rw [eat?_eq_some_iff.1 h, List.length_cons] at left
  exact left

/-- **A symbol is read exactly where it stands.** -/
theorem spells_symbol_iff {s : Symbol} {ts : List Token} {cs rest : List Char} :
    Spells (.symbol s :: ts) cs rest ↔ ∃ mid, eat? s.char cs = some mid ∧ Spells ts mid rest := by
  constructor
  · rintro (_ | ⟨blank, token, more⟩)
    refine ⟨_, eat?_eq_some_iff.2 ?_, more⟩
    rw [skipBlank_append blank, token.skipBlank_eq]
    cases token
    rfl
  · rintro ⟨mid, eaten, more⟩
    obtain ⟨blanks, blank, eq⟩ := exists_blanks cs
    rw [eq, eat?_eq_some_iff.1 eaten]
    exact .cons blank (.symbol s mid) more

/-- A name is the longest run of name characters after the blanks. -/
theorem name?_eq_ok_iff {cs rest : List Char} {n : String} :
    name? cs = .ok (n, rest) ↔ n.toList ≠ [] ∧ (skipBlank cs).takeWhile isNameChar = n.toList ∧
      (skipBlank cs).dropWhile isNameChar = rest := by
  simp only [name?]
  split
  · next none =>
    rw [none]
    constructor
    · intro h; cases h
    · rintro ⟨nonempty, same, -⟩; exact absurd same.symm nonempty
  · next nonempty =>
    constructor
    · intro h
      cases h
      rw [String.toList_ofList]
      exact ⟨nonempty, rfl, rfl⟩
    · rintro ⟨-, same, rfl⟩
      rw [same, String.ofList_toList]

/-- **A name is read exactly where it stands.** -/
theorem spells_name_iff {n : String} {ts : List Token} {cs rest : List Char} :
    Spells (.name n :: ts) cs rest ↔ ∃ mid, name? cs = .ok (n, mid) ∧ Spells ts mid rest := by
  constructor
  · rintro (_ | @⟨_, _, _, _, mid, _, blank, token, more⟩)
    refine ⟨_, name?_eq_ok_iff.2 ?_, more⟩
    rw [skipBlank_append blank, token.skipBlank_eq]
    cases token with
    | name nonempty chars maximal =>
      rw [List.takeWhile_append_of_pos chars, List.dropWhile_append_of_pos chars]
      refine ⟨nonempty, ?_⟩
      cases mid with
      | nil => exact ⟨List.append_nil _, rfl⟩
      | cons c mid =>
        have stop := maximal c rfl
        rw [List.takeWhile_cons_of_neg stop, List.dropWhile_cons_of_neg stop, List.append_nil]
        exact ⟨rfl, rfl⟩
  · rintro ⟨mid, read, more⟩
    obtain ⟨nonempty, name, rfl⟩ := name?_eq_ok_iff.1 read
    obtain ⟨blanks, blank, eq⟩ := exists_blanks cs
    have split : skipBlank cs = n.toList ++ (skipBlank cs).dropWhile isNameChar := by
      rw [← name, List.takeWhile_append_dropWhile]
    rw [eq, split]
    refine .cons blank (.name nonempty (fun c hc => ?_) fun c hc => ?_) more
    · rw [← name] at hc
      exact List.all_eq_true.1 List.all_takeWhile c hc
    · have last := List.head?_dropWhile_not isNameChar (skipBlank cs)
      rw [Option.mem_def.1 hc] at last
      simpa using last

/-! ### What is read is derived -/

/-- The suffixes that are read derive from what they are put on. -/
theorem suffixes?_derives {fuel : Nat} {e r : TypeExpr} {cs rest : List Char}
    (h : suffixes? fuel e cs = .ok (r, rest)) :
    ∃ us, Spells us cs rest ∧ ∀ ts, Derives ts e → Derives (ts ++ us) r := by
  induction fuel generalizing e cs with
  | zero =>
    cases h
    exact ⟨[], .refl _, fun ts derived => by rwa [List.append_nil]⟩
  | succ fuel ih =>
    rw [suffixes?] at h
    split at h
    · next question =>
      obtain ⟨us, spelled, derives⟩ := ih h
      refine ⟨_, (spells_symbol_iff (s := .question)).2 ⟨_, question, spelled⟩,
        fun ts derived => ?_⟩
      simpa using derives _ derived.nullable
    · split at h
      · cases h
        exact ⟨[], .skip _, fun ts derived => by rwa [List.append_nil]⟩
      · next opened =>
        split at h
        · next closed =>
          obtain ⟨us, spelled, derives⟩ := ih h
          have closing := (spells_symbol_iff (s := .closeBracket)).2 ⟨_, closed, spelled⟩
          refine ⟨_, (spells_symbol_iff (s := .openBracket)).2 ⟨_, opened, closing⟩,
            fun ts derived => ?_⟩
          simpa using derives _ derived.array
        · cases h

mutual

/-- **An expression that is read is derived** from the tokens that are taken. -/
theorem expr?_derives {e : TypeExpr} {cs rest : List Char} : (fuel : Nat) →
    expr? fuel cs = .ok (e, rest) → ∃ ts, Derives ts e ∧ Spells ts cs rest
  | 0, h => nomatch h
  | fuel + 1, h => by
    rw [expr?] at h
    split at h
    · cases h
    · next name mid named =>
      split at h
      · obtain ⟨us, spelled, derives⟩ := suffixes?_derives h
        exact ⟨_, derives _ (.plain name), spells_name_iff.2 ⟨mid, named, spelled⟩⟩
      · next inside opened =>
        split at h
        · cases h
        · next args after read =>
          obtain ⟨ts, derived, spelledArgs⟩ := args?_derives fuel read
          obtain ⟨us, spelled, derives⟩ := suffixes?_derives h
          refine ⟨_, derives _ (.generic name derived), spells_name_iff.2 ⟨mid, named, ?_⟩⟩
          exact (spells_symbol_iff (s := .openArgs)).2 ⟨inside, opened, spelledArgs.append spelled⟩

/-- The arguments that are read derive, up to the closing bracket. -/
theorem args?_derives {es : List TypeExpr} {cs rest : List Char} : (fuel : Nat) →
    args? fuel cs = .ok (es, rest) →
      ∃ ts, DerivesAll ts es ∧ Spells (ts ++ [.symbol .closeArgs]) cs rest
  | 0, h => nomatch h
  | fuel + 1, h => by
    rw [args?] at h
    split at h
    · cases h
    · next a mid read =>
      obtain ⟨ts, derived, spelled⟩ := expr?_derives fuel read
      split at h
      · next after separated =>
        split at h
        · cases h
        · next more _ readMore =>
          cases h
          obtain ⟨us, derivedMore, spelledMore⟩ := args?_derives fuel readMore
          refine ⟨_, .more derived derivedMore, ?_⟩
          rw [List.append_assoc]
          exact spelled.append ((spells_symbol_iff (s := .comma)).2 ⟨after, separated, spelledMore⟩)
      · split at h
        · next closed =>
          cases h
          refine ⟨ts, .one derived, spelled.append ?_⟩
          exact (spells_symbol_iff (s := .closeArgs)).2 ⟨_, closed, .refl _⟩
        · cases h

end

/-! ### What is derived is read -/

/-- An expression with the suffixes at the beginning of a text, all of which there is fuel for. -/
def suffixed? (e : TypeExpr) (cs : List Char) : Except TypeExprError (TypeExpr × List Char) :=
  suffixes? (cs.length + 1) e cs

/-- Fuel and blanks do not matter where there is more fuel than there are characters. -/
theorem suffixes?_congr {n m : Nat} {e : TypeExpr} {cs cs' : List Char}
    (same : skipBlank cs = skipBlank cs') (hn : cs.length < n) (hm : cs'.length < m) :
    suffixes? n e cs = suffixes? m e cs' := by
  induction n generalizing m e cs cs' with
  | zero => cases hn
  | succ n ih => cases m with
    | zero => cases hm
    | succ m =>
      have less : ∀ {c : Char} {rest : List Char}, eat? c cs' = some rest →
          rest.length < n ∧ rest.length < m := fun {c rest} eaten => by
        have shorter := length_of_eat? ((eat?_congr same c).trans eaten)
        have shorter' := length_of_eat? eaten
        omega
      rw [suffixes?, suffixes?, eat?_congr same, eat?_congr same, same]
      split
      · next rest question => exact ih rfl (less question).1 (less question).2
      · split
        · rfl
        · next inside opened =>
          split
          · next rest closed =>
            obtain ⟨hn', hm'⟩ := less opened
            have shorter := length_of_eat? closed
            exact ih rfl (Nat.lt_trans shorter hn') (Nat.lt_trans shorter hm')
          · rfl

section Suffixed

variable {e : TypeExpr} {cs rest : List Char}

theorem suffixes?_eq_suffixed? {n : Nat} (h : Spells [] cs rest) (fuel : cs.length < n) :
    suffixes? n e cs = suffixed? e rest :=
  suffixes?_congr h.skipBlank_eq fuel (Nat.lt_succ_self _)

theorem suffixed?_nullable (h : Spells [.symbol .question] cs rest) :
    suffixed? e cs = suffixed? (.nullable e) rest := by
  obtain ⟨mid, eaten, spelled⟩ := spells_symbol_iff.1 h
  rw [suffixed?, suffixes?, show eat? '?' cs = some mid from eaten]
  exact suffixes?_eq_suffixed? spelled (length_of_eat? eaten)

theorem suffixed?_array (h : Spells [.symbol .openBracket, .symbol .closeBracket] cs rest) :
    suffixed? e cs = suffixed? (.array e) rest := by
  obtain ⟨inside, opened, h⟩ := spells_symbol_iff.1 h
  obtain ⟨mid, closed, spelled⟩ := spells_symbol_iff.1 h
  rw [suffixed?, suffixes?, eat?_eq_none opened (by decide : '?' ≠ '['),
    show eat? '[' cs = some inside from opened]
  simp only [show eat? ']' inside = some mid from closed]
  exact suffixes?_eq_suffixed? spelled
    (Nat.lt_trans (length_of_eat? closed) (length_of_eat? opened))

/-- An expression ends where no suffix follows. -/
theorem suffixed?_end (question : eat? '?' cs = none) (bracket : eat? '[' cs = none) :
    suffixed? e cs = .ok (e, skipBlank cs) := by
  rw [suffixed?, suffixes?, question, bracket]

end Suffixed

/-- Reading a name takes characters. -/
theorem length_of_name? {cs rest : List Char} {n : String} (h : name? cs = .ok (n, rest)) :
    rest.length < cs.length := by
  obtain ⟨nonempty, name, rfl⟩ := name?_eq_ok_iff.1 h
  have split := congrArg List.length (List.takeWhile_append_dropWhile (p := isNameChar)
    (l := skipBlank cs))
  rw [List.length_append, name] at split
  have positive := List.length_pos_iff.2 nonempty
  have left := length_skipBlank_le cs
  omega

mutual

/-- **An expression that is derived is read**, and then the suffixes that follow. -/
theorem expr?_of_derives {ts : List Token} {cs rest : List Char} {fuel : Nat} : (e : TypeExpr) →
    Derives ts e → Spells ts cs rest → eat? '<' rest = none → cs.length < fuel →
      expr? fuel cs = suffixed? e rest
  | .named name args, derived, spelled, closed, enough => by
    obtain ⟨fuel, rfl⟩ := Nat.exists_eq_add_one_of_ne_zero (Nat.ne_zero_of_lt enough)
    cases derived with
    | plain =>
      obtain ⟨mid, named, spelled⟩ := spells_name_iff.1 spelled
      have unopened : eat? '<' mid = none := (eat?_congr spelled.skipBlank_eq _).trans closed
      rw [expr?, named]
      simp only [unopened]
      exact suffixes?_eq_suffixed? spelled (Nat.lt_trans (length_of_name? named) enough)
    | generic _ derived =>
      obtain ⟨mid, named, spelled⟩ := spells_name_iff.1 spelled
      obtain ⟨inside, opened, spelled⟩ := spells_symbol_iff.1 spelled
      have shorter := length_of_name? named
      have shorter' := length_of_eat? opened
      obtain ⟨after, read, less, spelled⟩ :=
        args?_of_derivesAll args derived spelled (by omega : inside.length + 1 < fuel)
      rw [expr?, named]
      simp only [show eat? '<' mid = some inside from opened, read]
      exact suffixes?_eq_suffixed? spelled (by omega)
  | .nullable e, derived, spelled, closed, enough => by
    cases derived with
    | nullable derived =>
      obtain ⟨mid, first, suffix⟩ := Spells.append_iff.1 spelled
      obtain ⟨_, question, -⟩ := spells_symbol_iff.1 suffix
      rw [← suffixed?_nullable suffix]
      exact expr?_of_derives e derived first (eat?_eq_none question (by decide)) enough
  | .array e, derived, spelled, closed, enough => by
    cases derived with
    | array derived =>
      obtain ⟨mid, first, suffix⟩ := Spells.append_iff.1 spelled
      obtain ⟨_, opened, -⟩ := spells_symbol_iff.1 suffix
      rw [← suffixed?_array suffix]
      exact expr?_of_derives e derived first (eat?_eq_none opened (by decide)) enough

/-- Arguments that derive are read, with fuel for the rest of the text. -/
theorem args?_of_derivesAll {ts : List Token} {cs rest : List Char} {fuel : Nat} :
    (es : List TypeExpr) → DerivesAll ts es → Spells (ts ++ [.symbol .closeArgs]) cs rest →
      cs.length + 1 < fuel →
        ∃ mid, args? fuel cs = .ok (es, mid) ∧ mid.length < cs.length ∧ Spells [] mid rest
  | [], derived, _, _ => nomatch derived
  | e :: es, derived, spelled, enough => by
    obtain ⟨fuel, rfl⟩ := Nat.exists_eq_add_one_of_ne_zero (Nat.ne_zero_of_lt enough)
    have enough : cs.length < fuel := Nat.lt_of_succ_lt_succ enough
    -- no suffix follows an argument, and what ends it is read after the blanks
    have ends : ∀ {s : Symbol} {us vs : List Token}, Derives us e → s ≠ .question →
        s ≠ .openBracket → s ≠ .openArgs → Spells (us ++ .symbol s :: vs) cs rest →
          ∃ mid after, expr? fuel cs = .ok (e, mid) ∧ eat? s.char mid = some after ∧
            after.length < cs.length ∧ Spells vs after rest := by
      intro s us vs derived question bracket args spelled
      obtain ⟨mid, first, spelled⟩ := Spells.append_iff.1 spelled
      obtain ⟨after, found, spelled⟩ := spells_symbol_iff.1 spelled
      have other : ∀ {s' : Symbol}, s ≠ s' → eat? s'.char mid = none := fun ne =>
        eat?_eq_none found fun same => ne (Symbol.char_injective same).symm
      refine ⟨skipBlank mid, after, ?_, ?_, ?_, spelled⟩
      · rw [expr?_of_derives e derived first (other args) enough]
        exact suffixed?_end (other question) (other bracket)
      · rw [← found]
        exact (eat?_congr (Spells.skip mid).skipBlank_eq _).symm
      · exact Nat.lt_of_lt_of_le (length_of_eat? found) first.length_le
    cases derived with
    | one derived =>
      obtain ⟨mid, after, read, closed, shorter, spelled⟩ :=
        ends derived (by decide) (by decide) (by decide) spelled
      refine ⟨after, ?_, shorter, spelled⟩
      rw [args?, read]
      simp only [eat?_eq_none closed (by decide : ',' ≠ '>'),
        show eat? '>' mid = some after from closed]
    | more derived derivedMore =>
      rw [List.append_assoc, List.cons_append] at spelled
      obtain ⟨mid, after, read, separated, shorter, spelled⟩ :=
        ends derived (by decide) (by decide) (by decide) spelled
      obtain ⟨last, readMore, shorter', spelled⟩ :=
        args?_of_derivesAll es derivedMore spelled (by omega : after.length + 1 < fuel)
      refine ⟨last, ?_, Nat.lt_trans shorter' shorter, spelled⟩
      rw [args?, read]
      simp only [show eat? ',' mid = some after from separated, readMore]

end

/-- The whole text consists of the tokens, with blanks before each of them and after the last
one. -/
def Spelled (ts : List Token) (src : String) : Prop := Spells ts src.toList []

/-- What is parsed derives from tokens that spell the source. -/
theorem exists_derives_of_parse {src : String} {e : TypeExpr} (h : parse src = .ok e) :
    ∃ ts, Derives ts e ∧ Spelled ts src := by
  rw [parse] at h
  split at h
  · cases h
  · next read rest found =>
    split at h
    · next blank =>
      cases h
      obtain ⟨ts, derived, spelled⟩ := expr?_derives _ found
      have trailing : Spells [] rest [] := blank ▸ Spells.skip rest
      exact ⟨ts, derived, List.append_nil ts ▸ spelled.append trailing⟩
    · cases h

/-- What derives from tokens that spell the source is parsed. -/
theorem parse_of_derives {src : String} {e : TypeExpr} {ts : List Token} (derived : Derives ts e)
    (spelled : Spelled ts src) : parse src = .ok e := by
  have read : expr? (src.toList.length + 2) src.toList = .ok (e, []) := by
    rw [expr?_of_derives e derived spelled rfl (by omega)]
    exact suffixed?_end rfl rfl
  rw [parse, read]
  rfl

/-- **Reading follows the grammar.**  A text is read as an expression exactly if it consists of
tokens that make up the expression. -/
theorem parse_eq_ok_iff {src : String} {e : TypeExpr} :
    parse src = .ok e ↔ ∃ ts, Derives ts e ∧ Spelled ts src :=
  ⟨exists_derives_of_parse, fun ⟨_, derived, spelled⟩ => parse_of_derives derived spelled⟩

end TypeSchema.TypeExpr
