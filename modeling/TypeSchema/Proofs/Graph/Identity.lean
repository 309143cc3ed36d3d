import TypeSchema.Proofs.Graph.Interning

/-!
# Type graphs — what identities tell apart

Scalars, wrappers, collections and named types share one space of identities, so two kinds of types
are kept apart only if no identity of the one is an identity of the other.

The scalars of keywords have different names, and none of them ends in a bracket
(`ScalarKind.eq_of_name_eq`).  The commas in an identity stand inside of brackets (`Nested`), if
they do so in the names that it is made of; then a list of two identities or more is not taken for
one identity (`Nested.ne_intercalate`).
-/

namespace TypeSchema

/-! ### Scalars -/

namespace ScalarKind

/-- The scalars that have keywords. -/
def keywordKinds : List ScalarKind :=
  [string, char, boolean, int8, int16, int32, int64, uint8, uint16, uint32, uint64, float32,
    float64, decimal, uuid, dateTime, date, time, duration, uri, binary, file]

theorem mem_keywordKinds {keyword : String} {kind : ScalarKind}
    (h : ofKeyword? keyword = some kind) : kind ∈ keywordKinds := by
  unfold ofKeyword? at h
  split at h <;> cases h <;> decide

/-- A scalar without a keyword is only a name. -/
theorem ne_other {keyword : String} {kind : ScalarKind} (h : ofKeyword? keyword = some kind)
    (name : String) : kind ≠ .other name := by
  rintro rfl
  simpa [keywordKinds] using mem_keywordKinds h

/-- **The names of scalars with keywords are different.** -/
theorem eq_of_name_eq {keyword keyword' : String} {kind kind' : ScalarKind}
    (h : ofKeyword? keyword = some kind) (h' : ofKeyword? keyword' = some kind')
    (same : kind.name = kind'.name) : kind = kind' := by
  have nodup : (keywordKinds.map name).Nodup := by decide +kernel
  exact List.inj_on_of_nodup_map nodup (mem_keywordKinds h) (mem_keywordKinds h') same

/-- The name of a scalar with a keyword has no brackets and no commas. -/
theorem plain_name {keyword : String} {kind : ScalarKind} (h : ofKeyword? keyword = some kind) :
    ∀ c ∈ kind.name.toList, c ∉ ['<', ',', '>', ']'] := by
  have all : keywordKinds.all fun kind =>
      kind.name.toList.all fun c => c ∉ ['<', ',', '>', ']'] := by decide +kernel
  have plain := List.all_eq_true.1 all kind (mem_keywordKinds h)
  exact fun c hc => of_decide_eq_true (List.all_eq_true.1 plain c hc)

end ScalarKind

/-! ### Brackets -/

/-- What stands before the first bracket, and what stands after it. -/
theorem append_cons_inj {c : Char} {cs cs' rest rest' : List Char} (h : c ∉ cs) (h' : c ∉ cs')
    (same : cs ++ c :: rest = cs' ++ c :: rest') : cs = cs' ∧ rest = rest' := by
  have before : ∀ {cs : List Char} (rest : List Char), c ∉ cs →
      (cs ++ c :: rest).takeWhile (· != c) = cs := fun {cs} rest h => by
    rw [List.takeWhile_append_of_pos fun d hd => by simpa using ne_of_mem_of_not_mem hd h]
    simp
  obtain rfl : cs = cs' := by rw [← before rest h, same, before rest' h']
  exact ⟨rfl, List.tail_eq_of_cons_eq (List.append_cancel_left same)⟩

/-- How many commas of a text stand outside of brackets, if the text begins inside of `depth` of
them. -/
def outerCommas : Nat → List Char → Nat
  | _, [] => 0
  | depth, c :: cs =>
    if c = '<' then outerCommas (depth + 1) cs
    else if c = '>' then outerCommas (depth - 1) cs
    else if c = ',' ∧ depth = 0 then outerCommas depth cs + 1
    else outerCommas depth cs

/-- All commas of the text stand inside of its own brackets, and each bracket is closed: what
follows the text stands where the text began. -/
def Nested (cs : List Char) : Prop :=
  ∀ depth rest, outerCommas depth (cs ++ rest) = outerCommas depth rest

theorem nested_nil : Nested [] := fun _ _ => rfl

theorem Nested.append {cs cs' : List Char} (h : Nested cs) (h' : Nested cs') :
    Nested (cs ++ cs') := fun depth rest => by
  rw [List.append_assoc, h, h']

theorem nested_of_plain {cs : List Char} (plain : ∀ c ∈ cs, c ∉ ['<', ',', '>']) :
    Nested cs := by
  induction cs with
  | nil => exact nested_nil
  | cons c cs ih =>
    intro depth rest
    have here := plain c List.mem_cons_self
    simp only [List.mem_cons, not_or] at here
    obtain ⟨opening, comma, closing, -⟩ := here
    rw [List.cons_append, outerCommas, if_neg opening, if_neg closing,
      if_neg (fun h => comma h.1), ih fun c hc => plain c (List.mem_cons_of_mem _ hc)]

/-- Inside of a bracket there may be commas between nested texts. -/
theorem outerCommas_intercalate {args : List (List Char)} (nested : ∀ cs ∈ args, Nested cs)
    (depth : Nat) (rest : List Char) :
    outerCommas (depth + 1) ([','].intercalate args ++ rest) = outerCommas (depth + 1) rest := by
  induction args with
  | nil => rfl
  | cons cs more ih =>
    have first := nested cs List.mem_cons_self
    have ih := ih fun cs hcs => nested cs (List.mem_cons_of_mem _ hcs)
    cases more with
    | nil => rw [List.intercalate_singleton, first]
    | cons cs' more =>
      rw [List.intercalate_cons_cons, List.append_assoc, List.append_assoc, first]
      simpa [outerCommas] using ih

/-- A name with nested arguments in brackets is nested. -/
theorem Nested.bracketed {outer : List Char} {args : List (List Char)} (h : Nested outer)
    (nested : ∀ cs ∈ args, Nested cs) :
    Nested (outer ++ '<' :: [','].intercalate args ++ ['>']) := fun depth rest => by
  rw [List.append_assoc, List.append_assoc, h]
  simp [outerCommas, outerCommas_intercalate nested]

/-- **A nested text is no list of nested texts.** -/
theorem Nested.ne_intercalate {cs first second : List Char} (h : Nested cs) (nested : Nested first)
    (more : List (List Char)) : cs ≠ [','].intercalate (first :: second :: more) := by
  rintro rfl
  have counted := h 0 []
  rw [List.intercalate_cons_cons, List.append_assoc, List.append_assoc, nested] at counted
  simp [outerCommas] at counted

end TypeSchema
