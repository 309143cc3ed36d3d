import TypeSchema.Proofs.GraphFile.Readings
import TypeSchema.Proofs.TypeExpr.Spelling

/-!
# Type expressions — names

The names in an expression that is read consist of characters of names (`proper_of_parse`): the
expression is well named, and so are its parts.
-/

namespace TypeSchema.TypeExpr

/-- The names in the expression consist of characters of names. -/
def Proper (e : TypeExpr) : Prop :=
  ∀ name args, .named name args ∈ e.parts → ∀ c ∈ name.toList, isNameChar c

/-- The names in the expressions consist of characters of names. -/
def AllProper (es : List TypeExpr) : Prop :=
  ∀ name args, .named name args ∈ partsAll es → ∀ c ∈ name.toList, isNameChar c

theorem AllProper.head {e : TypeExpr} {rest : List TypeExpr} (h : AllProper (e :: rest)) :
    e.Proper := fun name args hx => h name args (List.mem_append_left _ hx)

theorem AllProper.tail {e : TypeExpr} {rest : List TypeExpr} (h : AllProper (e :: rest)) :
    AllProper rest := fun name args hx => h name args (List.mem_append_right _ hx)

section Proper

variable {e : TypeExpr} {name : String} {args : List TypeExpr}

theorem Proper.array (h : (array e).Proper) : e.Proper :=
  fun name args hx => h name args (List.mem_cons_of_mem _ hx)

theorem Proper.nullable (h : (nullable e).Proper) : e.Proper :=
  fun name args hx => h name args (List.mem_cons_of_mem _ hx)

theorem Proper.chars (h : (named name args).Proper) : ∀ c ∈ name.toList, isNameChar c :=
  h name args List.mem_cons_self

theorem Proper.all (h : (named name args).Proper) : AllProper args :=
  fun name args hx => h name args (List.mem_cons_of_mem _ hx)

end Proper

mutual

/-- Well-named expressions are proper in all their parts. -/
theorem WellNamed.proper : (e : TypeExpr) → e.WellNamed → e.Proper
  | .named _ as, h => fun name args hx => by
    rcases List.mem_cons.1 hx with same | hx
    · cases same
      exact h.1.2
    · exact AllWellNamed.proper as h.2 name args hx
  | .array e, h => fun name args hx => by
    rcases List.mem_cons.1 hx with same | hx
    · cases same
    · exact WellNamed.proper e h name args hx
  | .nullable e, h => fun name args hx => by
    rcases List.mem_cons.1 hx with same | hx
    · cases same
    · exact WellNamed.proper e h name args hx

theorem AllWellNamed.proper : (es : List TypeExpr) → AllWellNamed es → AllProper es
  | [], _ => fun _ _ hx => nomatch hx
  | e :: rest, h => fun name args hx => by
    rcases List.mem_append.1 hx with hx | hx
    · exact WellNamed.proper e h.1 name args hx
    · exact AllWellNamed.proper rest h.2 name args hx

end

/-- **What is read is made of names.** -/
theorem proper_of_parse {src : String} {e : TypeExpr} (h : parse src = .ok e) : e.Proper :=
  (wellNamed_of_parse h).proper

end TypeSchema.TypeExpr
