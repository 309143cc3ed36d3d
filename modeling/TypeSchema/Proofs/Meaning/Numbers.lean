import Mathlib
import TypeSchema.Proofs.Meaning.Lengths
import TypeSchema.Proofs.Schema.Walk

/-!
# Meaning — the numbers in a schema

A finite double is a rational number (`Binary64.value?`), and so is a number in a JSON value
(`Json.number?`).  A bound that is an integer of 64 bits with a sign is written as an integer and
any other one as a double, so what is written denotes the bound — with one exception: the integer
after the greatest one passes for an integer of 64 bits, and the greatest one is written in its
place (`Json.ofBound_cases`).

Bounds are written that way wherever a node is rendered, and so is the sample of a number that is
bounded from below (`bounds_exact`).
-/

namespace TypeSchema

/-! ### Values -/

/-- The rational number that a finite double is. -/
def Binary64.value? : Binary64 → Option ℚ
  | finite negative m e => some (signed negative m * 2 ^ e)
  | _ => none

namespace Binary64

theorem natAbs_signed (negative : Bool) (n : ℕ) : (signed negative n).natAbs = n := by
  cases negative <;> simp [signed]

theorem signed_mul (negative : Bool) (n k : ℕ) :
    signed negative (n * k) = signed negative n * k := by
  cases negative <;> simp [signed]

/-- A number with a negative exponent is an integer only if the power of two divides it. -/
theorem mul_zpow_neg_eq_iff {z i : ℤ} {k : ℕ} :
    (z : ℚ) * 2 ^ (-(k : ℤ)) = i ↔ z = i * 2 ^ k := by
  rw [zpow_neg, zpow_natCast, ← div_eq_mul_inv, div_eq_iff (by positivity)]
  exact_mod_cast Iff.rfl

/-- **The integer that a double is**, is its value. -/
theorem integer?_eq_some_iff {b : Binary64} {v : ℚ} (h : b.value? = some v) {i : ℤ} :
    b.integer? = some i ↔ v = i := by
  cases b with
  | nan => cases h
  | infinite negative => cases h
  | finite negative m e =>
    obtain rfl := Option.some.inj h
    rcases le_or_gt 0 e with whole | fractional
    · lift e to ℕ using whole
      rw [integer?, if_pos (Int.natCast_nonneg e), Option.some.injEq, signed_mul, zpow_natCast,
        Int.toNat_natCast]
      norm_cast
    · obtain ⟨k, rfl⟩ : ∃ k : ℕ, e = -(k : ℤ) := ⟨e.natAbs, by omega⟩
      rw [integer?, if_neg (not_le.2 fractional), mul_zpow_neg_eq_iff, neg_neg, Int.toNat_natCast]
      split
      · next divides =>
        have whole : m / 2 ^ k * 2 ^ k = m := Nat.div_mul_cancel (Nat.dvd_of_mod_eq_zero divides)
        have split : signed negative m = signed negative (m / 2 ^ k) * 2 ^ k := by
          exact_mod_cast whole ▸ signed_mul negative (m / 2 ^ k) (2 ^ k)
        rw [Option.some.injEq, split, mul_left_inj' (by positivity)]
        rfl
      · next undivided =>
        refine iff_of_false (by simp) fun same => undivided (Nat.mod_eq_zero_of_dvd ?_)
        have size := congrArg Int.natAbs same
        rw [natAbs_signed, Int.natAbs_mul, Int.natAbs_pow] at size
        exact size ▸ Nat.dvd_mul_left _ _

end Binary64

namespace Json

/-- The number that a JSON value denotes.  A double denotes its own value, however many digits
that has. -/
def number? : Json → Option ℚ
  | int n => some n
  | float x => (Binary64.ofFloat x).value?
  | _ => none

theorem fits_iff {i : ℤ} : fitsSigned 64 i ↔ signedMin 64 ≤ i ∧ i ≤ signedMax 64 := by
  simp [fitsSigned]

/-- The integer after the greatest one of 64 bits is a double. -/
theorem limit_eq : (2 ^ 63 : ℚ) = (signedMax 64 + 1 : ℤ) := by norm_num [signedMax]

/-- A finite double is written by the integer that it is, if it is one. -/
theorem ofBound_eq {x : Float} {v : ℚ} (finite : (Binary64.ofFloat x).value? = some v) :
    ofBound x = (Binary64.ofFloat x).integer?.elim (float x) fun n =>
      if signedMin 64 ≤ n ∧ n ≤ signedMax 64 + 1 then int (min n (signedMax 64)) else float x := by
  unfold ofBound
  cases decoded : Binary64.ofFloat x with
  | nan => rw [decoded] at finite; cases finite
  | infinite negative => rw [decoded] at finite; cases finite
  | finite negative m e =>
    dsimp only
    cases (Binary64.finite negative m e).integer? <;> rfl

/-- **How a finite double is written**: as an integer if it is one of 64 bits, and else as the
double that it is.  The integer after the greatest one is taken for that. -/
theorem ofBound_cases {x : Float} {v : ℚ} (finite : (Binary64.ofFloat x).value? = some v) :
    (∃ i : ℤ, v = i ∧ fitsSigned 64 i ∧ ofBound x = int i) ∨
      (v = 2 ^ 63 ∧ ofBound x = int (signedMax 64)) ∨
      v ≠ 2 ^ 63 ∧ (∀ i : ℤ, v = i → ¬ fitsSigned 64 i) ∧ ofBound x = float x := by
  have integer := fun i => Binary64.integer?_eq_some_iff finite (i := i)
  have bound := ofBound_eq finite
  cases found : (Binary64.ofFloat x).integer? with
  | none =>
    have fractional : ∀ i : ℤ, v ≠ i := fun i same => by
      rw [(integer i).2 same] at found
      cases found
    rw [found] at bound
    exact .inr (.inr ⟨limit_eq ▸ fractional _, fun i same => absurd same (fractional i), bound⟩)
  | some n =>
    obtain rfl := (integer n).1 found
    rw [found, Option.elim_some] at bound
    split at bound
    · next range =>
      rcases range.2.lt_or_eq with below | rfl
      · have fits : n ≤ signedMax 64 := Int.lt_add_one_iff.1 below
        rw [min_eq_left fits] at bound
        exact .inl ⟨n, rfl, fits_iff.2 ⟨range.1, fits⟩, bound⟩
      · rw [min_eq_right (Int.le_add_one (Int.le_refl _))] at bound
        exact .inr (.inl ⟨limit_eq.symm, bound⟩)
    · next range =>
      refine .inr (.inr ⟨fun same => ?_, fun i same fits => ?_, bound⟩)
      · rw [limit_eq, Int.cast_inj] at same
        exact range ⟨same ▸ by decide, same.le⟩
      · obtain rfl := Int.cast_injective same
        obtain ⟨least, greatest⟩ := fits_iff.1 fits
        exact range ⟨least, Int.le_add_one greatest⟩

/-- A number denotes the bound for which it is written, unless that is the integer after the
greatest one. -/
theorem number?_ofBound {x : Float} {v : ℚ} (finite : (Binary64.ofFloat x).value? = some v) :
    (ofBound x).number? = some v ↔ v ≠ 2 ^ 63 := by
  rcases ofBound_cases finite with ⟨i, rfl, fits, written⟩ | ⟨rfl, written⟩ | ⟨other, -, written⟩
  · have range := fits_iff.1 fits
    rw [written, limit_eq, Ne, Int.cast_inj]
    exact iff_of_true rfl (by omega)
  · rw [written, limit_eq, number?, Option.some.injEq, Int.cast_inj]
    exact iff_of_false (by omega) (by simp)
  · rw [written]
    exact iff_of_true finite other

/-- A bound that is an integer of 64 bits is written as an integer. -/
theorem ofBound_integer {x : Float} {v : ℚ} (finite : (Binary64.ofFloat x).value? = some v)
    {i : ℤ} (same : v = i) (fits : fitsSigned 64 i) : ofBound x = int i := by
  rcases ofBound_cases finite with ⟨i', same', -, written⟩ | ⟨limit, -⟩ | ⟨-, unfit, -⟩
  · rw [written, Int.cast_injective (same'.symm.trans same)]
  · have range := fits_iff.1 fits
    have beyond : i = signedMax 64 + 1 :=
      Int.cast_injective (same.symm.trans (limit.trans limit_eq))
    omega
  · exact absurd fits (unfit i same)

end Json

/-! ### Bounds in schemas and samples -/

namespace SchemaNode

/-- The bounds of a node that stands for itself are among its keywords. -/
theorem bounds_render {n : SchemaNode} (own : ¬ n.isShared) (child : NodeId → Json) :
    (n.render child).get? "minimum" = n.keywords.minimum.map .ofBound ∧
      (n.render child).get? "maximum" = n.keywords.maximum.map .ofBound := by
  constructor <;> refine Option.ext fun v => (get?_render_own own child (by decide)).trans ?_ <;>
    by_cases array : n.primitive? = some .array <;>
    simp [keywordFields, numberField, lengthKeys, array, Json.mem_optionalField]

/-- The node is a number, and neither literals nor an example are given for it. -/
structure IsPlainNumber (n : SchemaNode) : Prop where
  kind : n.kind = .primitive .number
  literals : n.enumValues = []
  given : n.example? = none

theorem IsPlainNumber.sample_eq {n : SchemaNode} (h : n.IsPlainNumber) {x : Float}
    (bounded : n.keywords.minimum = some x) (isNull : NodeId → Bool) (child : NodeId → Json) :
    n.sample isNull child = .ofBound x := by
  simp only [sample, h.given, h.literals, h.kind, sampleNumber, bounded]

end SchemaNode

/-- **Bounds are written exactly.**  A finite bound of a node is written as one number wherever the
node is rendered or sampled: as an integer if it is one of 64 bits.  The number denotes the bound,
unless that is the integer after the greatest one. -/
theorem bounds_exact {x : Float} {v : ℚ} (finite : (Binary64.ofFloat x).value? = some v) {a : Arena}
    {id : NodeId} {n : SchemaNode} (hn : a.get? id = some n) :
    ∃ j : Json,
      (¬ n.isShared → ∀ levels ≠ 0,
        (n.keywords.minimum = some x → (a.renderTo levels id).get? "minimum" = some j) ∧
        (n.keywords.maximum = some x → (a.renderTo levels id).get? "maximum" = some j)) ∧
      (n.IsPlainNumber → n.keywords.minimum = some x →
        (∀ levels ≠ 0, Comes (a.walkTo · levels id) j) ∧
        ∀ d : Deadline, d.Lasts → a.synthesize d id = (some j, [])) ∧
      (j.number? = some v ↔ v ≠ 2 ^ 63) ∧
      ∀ i : ℤ, v = i → fitsSigned 64 i → j = .int i := by
  have sampled : n.IsPlainNumber → n.keywords.minimum = some x → ∀ levels ≠ 0,
      a.sampleTo levels id = .ofBound x := fun number bounded levels some => by
    obtain ⟨levels, rfl⟩ := Nat.exists_eq_succ_of_ne_zero some
    rw [Arena.sampleTo, hn]
    exact number.sample_eq bounded _ _
  refine ⟨.ofBound x, fun own levels some => ?_, fun number bounded =>
    ⟨fun levels some => ?_, fun d lasts => ?_⟩, Json.number?_ofBound finite,
    fun i same fits => Json.ofBound_integer finite same fits⟩
  · obtain ⟨levels, rfl⟩ := Nat.exists_eq_succ_of_ne_zero some
    obtain ⟨minimum, maximum⟩ := SchemaNode.bounds_render own (a.renderTo levels)
    rw [Arena.renderTo, hn]
    exact ⟨fun bounded => by rw [minimum, bounded, Option.map_some],
      fun bounded => by rw [maximum, bounded, Option.map_some]⟩
  · rw [← sampled number bounded levels some]
    exact a.comes_walkTo levels id
  · have value := sampled number bounded a.size (Nat.ne_zero_of_lt (Arena.lt_size_of_get? hn))
    rw [Arena.synthesize_of_lasts a id lasts, Arena.sample, value]

/-- An arena of one number with these bounds. -/
def Arena.ofBounds (minimum maximum : Float) : Arena where
  nodes := #[{ kind := .primitive .number,
               keywords := { minimum := some minimum, maximum := some maximum } }]

/-- The least integer of 64 bits is written as that integer, and a half as the double that it is. -/
theorem bounds_exact_leastInteger : ∃ j j' : Json,
    ((Arena.ofBounds (-9223372036854775808) 0.5).render ⟨0⟩).get? "minimum" = some j ∧
      (Arena.ofBounds (-9223372036854775808) 0.5).synthesize defaultExampleBudget ⟨0⟩ =
        (some j, []) ∧
      j = .int (-9223372036854775808) ∧
      ((Arena.ofBounds (-9223372036854775808) 0.5).render ⟨0⟩).get? "maximum" = some j' ∧
      j'.number? = some (1 / 2) := by
  have least : (Binary64.ofFloat (-9223372036854775808)).value? =
      some ((-9223372036854775808 : ℤ) : ℚ) := by
    have decoded : Binary64.ofFloat (-9223372036854775808) = .finite true (2 ^ 52) 11 := by decide
    rw [decoded]
    norm_num [Binary64.value?, Binary64.signed]
  have half : (Binary64.ofFloat 0.5).value? = some (1 / 2) := by
    have decoded : Binary64.ofFloat 0.5 = .finite false (2 ^ 52) (-53) := by decide
    rw [decoded]
    norm_num [Binary64.value?, Binary64.signed]
  let a : Arena := .ofBounds (-9223372036854775808) 0.5
  have known : a.get? ⟨0⟩ = some a.nodes[0] := rfl
  obtain ⟨j, rendered, sampled, -, integer⟩ := bounds_exact least known
  obtain ⟨j', rendered', -, exact', -⟩ := bounds_exact half known
  exact ⟨j, j', (rendered (by decide) 1 (by decide)).1 rfl,
    (sampled ⟨rfl, rfl, rfl⟩ rfl).2 defaultExampleBudget (Deadline.lasts_still (by decide)),
    integer _ rfl (by decide), (rendered' (by decide) 1 (by decide)).2 rfl,
    exact'.2 (by norm_num)⟩

/-- The integer after the greatest one of 64 bits is not written exactly, neither as a bound nor as
a sample. -/
theorem not_bounds_exact :
    (¬ ∀ (x : Float) (v : ℚ) (a : Arena) (id : NodeId) (n : SchemaNode) (j : Json),
      (Binary64.ofFloat x).value? = some v → a.get? id = some n → ¬ n.isShared →
        n.keywords.minimum = some x → (a.render id).get? "minimum" = some j →
          j.number? = some v) ∧
    (¬ ∀ (x : Float) (v : ℚ) (a : Arena) (id : NodeId) (n : SchemaNode) (j : Json),
      (Binary64.ofFloat x).value? = some v → a.get? id = some n → ¬ n.isShared →
        n.keywords.maximum = some x → (a.render id).get? "maximum" = some j →
          j.number? = some v) ∧
    ¬ ∀ (x : Float) (v : ℚ) (a : Arena) (id : NodeId) (n : SchemaNode) (j : Json),
      (Binary64.ofFloat x).value? = some v → a.get? id = some n → n.IsPlainNumber →
        n.keywords.minimum = some x → a.synthesize defaultExampleBudget id = (some j, []) →
          j.number? = some v := by
  have limit : (Binary64.ofFloat 9223372036854775808).value? = some (2 ^ 63) := by
    have decoded : Binary64.ofFloat 9223372036854775808 = .finite false (2 ^ 52) 11 := by decide
    rw [decoded]
    norm_num [Binary64.value?, Binary64.signed]
  have written : ¬ (Json.ofBound 9223372036854775808).number? = some (2 ^ 63) := fun h =>
    (Json.number?_ofBound limit).1 h rfl
  let a : Arena := .ofBounds 9223372036854775808 9223372036854775808
  obtain ⟨minimum, maximum⟩ := SchemaNode.bounds_render (n := a.nodes[0]) (by decide)
    (a.renderTo 0)
  have number : a.nodes[0].IsPlainNumber := ⟨rfl, rfl, rfl⟩
  have sample : a.sample ⟨0⟩ = .ofBound 9223372036854775808 :=
    number.sample_eq rfl a.isNull (a.sampleTo 0)
  refine ⟨fun h => ?_, fun h => ?_, fun h => ?_⟩
  · exact written (h _ _ a ⟨0⟩ _ _ limit rfl (by decide) rfl minimum)
  · exact written (h _ _ a ⟨0⟩ _ _ limit rfl (by decide) rfl maximum)
  · refine written (h _ _ a ⟨0⟩ _ _ limit rfl number rfl ?_)
    rw [← sample]
    exact Arena.synthesize_of_lasts a ⟨0⟩ (Deadline.lasts_still (by decide))

end TypeSchema
