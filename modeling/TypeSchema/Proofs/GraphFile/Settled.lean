import TypeSchema.Proofs.GraphFile.Entries

/-!
# Graph files — names that change nothing

What an expression denotes depends on the names in scope.  `Settled` says that two scopes do not
differ for an expression, also where one of them has a name for it and the other reads it; then the
expression denotes the same (`denote_congr`).

Generic entries that are declared after the plain ones change nothing for an expression if each of
them that may stand for a part of it is what the part denotes without them (`settled_append`).
-/

namespace TypeSchema.GraphFile

/-! ### Expressions that mean the same -/

section Congruence

variable {names names' : Denotation}

/-- The names give the same for an expression, or one gives what the expression denotes under the
other. -/
def Settled (names names' : Denotation) (e : TypeExpr) : Prop :=
  names e.spelling = names' e.spelling ∨
    ∃ h, names e.spelling = .ok (some h) ∧ e.denote names' = .ok h

mutual

/-- An expression denotes the same where the names in it are settled. -/
theorem denote_congr : (e : TypeExpr) →
    (∀ name args, .named name args ∈ e.parts → Settled names names' (.named name args)) →
    e.denote names = e.denote names'
  | .array e, h => by
    rw [TypeExpr.denote, TypeExpr.denote,
      denote_congr e fun name args hm => h name args (List.mem_cons_of_mem _ hm)]
  | .nullable e, h => by
    rw [TypeExpr.denote, TypeExpr.denote,
      denote_congr e fun name args hm => h name args (List.mem_cons_of_mem _ hm)]
  | .named name args, h => by
    rcases h name args List.mem_cons_self with same | ⟨head, found, denoted⟩
    · rw [TypeExpr.denote, TypeExpr.denote, same,
        denoteAll_congr args fun name args hm => h name args (List.mem_cons_of_mem _ hm)]
    · rw [denoted, TypeExpr.denote, found]
      rfl

theorem denoteAll_congr : (es : List TypeExpr) →
    (∀ name args, .named name args ∈ TypeExpr.partsAll es →
      Settled names names' (.named name args)) →
    TypeExpr.denoteAll names es = TypeExpr.denoteAll names' es
  | [], _ => rfl
  | e :: rest, h => by
    rw [TypeExpr.denoteAll, TypeExpr.denoteAll,
      denote_congr e fun name args hm => h name args (List.mem_append_left _ hm),
      denoteAll_congr rest fun name args hm => h name args (List.mem_append_right _ hm)]

end

end Congruence

/-! ### Names that change nothing -/

/-- The spelling, in the namespace, may stand for the name. -/
def Name.answers {α : Type} (n : Name α) (ns? : Option String) (spelling : String) : Bool :=
  n.qualified == qualify ns? spelling || n.qualified == spelling || n.hasAlias spelling

/-- Names that do not answer change nothing. -/
theorem meaning_append {α : Type} {names more : List (Name α)} {ns? : Option String}
    {spelling : String} (silent : ∀ n ∈ more, ¬ n.answers ns? spelling) :
    meaning (names ++ more) ns? spelling = meaning names ns? spelling := by
  have none : ∀ {p : Name α → Bool}, (∀ n, p n → n.answers ns? spelling) →
      ∀ n ∈ more, ¬ p n := fun sub n hn hp => silent n hn (sub n hp)
  have first := List.find?_eq_none.2 (none (p := (·.qualified == qualify ns? spelling))
    fun n h => by simp [Name.answers, h])
  have second := List.find?_eq_none.2 (none (p := (·.qualified == spelling))
    fun n h => by simp [Name.answers, h])
  have third := List.filter_eq_nil_iff.2 (none (p := (·.hasAlias spelling))
    fun n h => by simp [Name.answers, h])
  simp only [meaning, List.find?_append, List.filter_append, first, second, third, Option.or_none,
    List.append_nil]

section Stages

variable {α : Type} {names : List (Name α)} {ns? : Option String} {spelling : String}

/-- The name in the own namespace comes first. -/
theorem meaning_of_namespace (h : Unambiguous names) {n : Name α} (hn : n ∈ names)
    (hq : n.qualified = qualify ns? spelling) :
    meaning names ns? spelling = .ok (some n.target) := by
  rw [meaning, h.find?_eq_some_iff.2 ⟨hn, hq⟩]

/-- The qualified name comes next. -/
theorem meaning_of_qualified (h : Unambiguous names)
    (elsewhere : ∀ n ∈ names, n.qualified ≠ qualify ns? spelling) {n : Name α} (hn : n ∈ names)
    (hq : n.qualified = spelling) : meaning names ns? spelling = .ok (some n.target) := by
  have first : names.find? (·.qualified == qualify ns? spelling) = none :=
    List.find?_eq_none.2 fun n hn => by simpa using elsewhere n hn
  simp only [meaning, first, h.find?_eq_some_iff.2 ⟨hn, hq⟩]

/-- The only name of that spelling comes last. -/
theorem meaning_of_alias (elsewhere : ∀ n ∈ names, n.qualified ≠ qualify ns? spelling)
    (unqualified : ∀ n ∈ names, n.qualified ≠ spelling) :
    meaning names ns? spelling = sole spelling (names.filter (·.hasAlias spelling)) := by
  have first : names.find? (·.qualified == qualify ns? spelling) = none :=
    List.find?_eq_none.2 fun n hn => by simpa using elsewhere n hn
  have second : names.find? (·.qualified == spelling) = none :=
    List.find?_eq_none.2 fun n hn => by simpa using unqualified n hn
  simp only [meaning, first, second]

end Stages

theorem denote_of_found {names : Denotation} {name : String} {args : List TypeExpr} {h : Head}
    (found : names (TypeExpr.named name args).spelling = .ok (some h)) :
    (TypeExpr.named name args).denote names = .ok h := by
  rw [TypeExpr.denote, found]
  rfl

/-- A name that fails to be looked up denotes nothing. -/
theorem not_denote_of_error {names : Denotation} {name : String} {args : List TypeExpr}
    {e : BuildError} (failed : names (TypeExpr.named name args).spelling = .error e) (h : Head) :
    (TypeExpr.named name args).denote names ≠ .ok h := by
  rw [TypeExpr.denote, failed]
  exact fun contra => nomatch contra

section Settled

variable {plain generic : List (Name Head)} {ns? : Option String} {name : String}
  {args : List TypeExpr}

/-- All names that may stand for an expression have one target if they are the generic names that
answer, and those that mean it among the plain ones. -/
theorem meaning_append_of_answers {spelling : String} {target : Head}
    (unambiguous : Unambiguous (plain ++ generic))
    (apart : ∀ n ∈ plain ++ generic, ∀ m ∈ plain ++ generic, n.target = m.target →
      n.qualified = m.qualified)
    (answered : ∀ m ∈ generic, m.answers ns? spelling → m.target = target)
    (meant : ∀ h, meaning plain ns? spelling = .ok (some h) → h = target)
    (unfailing : ∀ e, meaning plain ns? spelling ≠ .error e)
    {m : Name Head} (hm : m ∈ generic) (answers : m.answers ns? spelling) :
    meaning (plain ++ generic) ns? spelling = .ok (some target) := by
  have plain' : Unambiguous plain := by
    rw [Unambiguous, List.map_append] at unambiguous
    exact (List.nodup_append.1 unambiguous).1
  have left : ∀ {n}, n ∈ plain → n ∈ plain ++ generic := List.mem_append_left _
  by_cases inNamespace : ∃ n ∈ plain ++ generic, n.qualified = qualify ns? spelling
  · obtain ⟨n, hn, hq⟩ := inNamespace
    rw [meaning_of_namespace unambiguous hn hq]
    rcases List.mem_append.1 hn with hn | hn
    · rw [meant _ (meaning_of_namespace plain' hn hq)]
    · rw [answered n hn (by simp [Name.answers, hq])]
  push Not at inNamespace
  have elsewhere := fun n hn => inNamespace n (left hn)
  by_cases qualified : ∃ n ∈ plain ++ generic, n.qualified = spelling
  · obtain ⟨n, hn, hq⟩ := qualified
    rw [meaning_of_qualified unambiguous inNamespace hn hq]
    rcases List.mem_append.1 hn with hn | hn
    · rw [meant _ (meaning_of_qualified plain' elsewhere hn hq)]
    · rw [answered n hn (by simp [Name.answers, hq])]
  push Not at qualified
  have meaning_plain := meaning_of_alias elsewhere fun n hn => qualified n (left hn)
  have mem : m ∈ plain ++ generic := List.mem_append_right _ hm
  have shared : m.hasAlias spelling := by
    simpa [Name.answers, inNamespace m mem, qualified m mem] using answers
  -- all that have the alias have one target, so there is only one of them
  have only : (plain ++ generic).filter (·.hasAlias spelling) = [m] := by
    refine filter_eq_singleton unambiguous mem shared fun n hn hasAlias => ?_
    refine apart n hn m mem (Eq.trans ?_ (answered m hm answers).symm)
    rcases List.mem_append.1 hn with hn | hn
    · have found : n ∈ plain.filter (·.hasAlias spelling) := List.mem_filter.2 ⟨hn, hasAlias⟩
      refine meant _ (meaning_plain.trans (sole_eq_of_mem found fun e failed => ?_))
      exact unfailing e (meaning_plain.trans failed)
    · exact answered n hn (by simp [Name.answers, hasAlias])
  rw [meaning_of_alias inNamespace qualified, only, sole, answered m hm answers]

/-- **Generic names that an expression denotes without them** change nothing for it. -/
theorem settled_append (unambiguous : Unambiguous (plain ++ generic))
    (apart : ∀ n ∈ plain ++ generic, ∀ m ∈ plain ++ generic, n.target = m.target →
      n.qualified = m.qualified)
    (answered : ∀ m ∈ generic, m.answers ns? (TypeExpr.named name args).spelling →
      (TypeExpr.named name args).denote (meaning plain ns?) = .ok m.target) :
    Settled (meaning (plain ++ generic) ns?) (meaning plain ns?) (.named name args) := by
  by_cases silent : ∀ n ∈ generic, ¬ n.answers ns? (TypeExpr.named name args).spelling
  · exact .inl (meaning_append silent)
  · push Not at silent
    obtain ⟨m, hm, answers⟩ := silent
    have denoted := answered m hm answers
    have same : ∀ {h}, (TypeExpr.named name args).denote (meaning plain ns?) = .ok h →
        h = m.target := fun h => Except.ok.inj (h.symm.trans denoted)
    refine .inr ⟨m.target, meaning_append_of_answers unambiguous apart
      (fun n hn h => same (answered n hn h)) (fun h found => same (denote_of_found found))
      (fun e failed => not_denote_of_error failed _ denoted) hm answers, denoted⟩

end Settled

end TypeSchema.GraphFile
