import Mathlib.Algebra.Group.Int.Defs
import Mathlib.Algebra.Group.Nat.Defs
import TypeSchema.Schema.EnumEncoding

/-!
# Schema — enumerations of integers

An enumeration that is encoded by its values gets integers as literals if every value is a signed
64-bit integer, and texts otherwise.  The encoder does not look at all values itself: it goes by the
effective representation, and passes over values that do not fit.  `overflowing?_effectiveRepr` says
that nothing is passed over: whatever the declared representation is, the value that stops integer
literals is the first one beyond 64 bits.  `encode_integer` says what each literal is, and what is
cut and reported.

The format of the literals depends on the declared representation as well.  One with more than 32
bits and fewer than 64 is not wide, so the values that it holds are said to have 32 bits
(`encode_format`).
-/

namespace TypeSchema

/-! ### Ranges -/

theorem fitsSigned_iff {bits : Nat} {n : Int} : fitsSigned bits n ↔
    -((2 ^ (bits - 1) : Nat) : Int) ≤ n ∧ n < ((2 ^ (bits - 1) : Nat) : Int) := by
  rw [fitsSigned, Bool.and_eq_true, decide_eq_true_eq, decide_eq_true_eq, signedMin, signedMax,
    Int.le_sub_one_iff]
  rfl

theorem fitsSigned_mono {a b : Nat} {n : Int} (h : fitsSigned a n) (le : a ≤ b) :
    fitsSigned b n := by
  rw [fitsSigned_iff] at h ⊢
  have powers : 2 ^ (a - 1) ≤ 2 ^ (b - 1) :=
    Nat.pow_le_pow_right (by decide) (Nat.sub_le_sub_right le 1)
  omega

namespace IntegerRepr

/-- How many bits hold every value of the representation, one of which is a sign. -/
def signedBits (r : IntegerRepr) : Nat := if r.isSigned then r.width else r.width + 1

theorem contains_iff {r : IntegerRepr} {v : Int} :
    r.contains v ↔ r.minValue ≤ v ∧ v ≤ r.maxValue := by
  simp [contains]

theorem fitsSigned_of_contains {r : IntegerRepr} {v : Int} (h : r.contains v) :
    fitsSigned r.signedBits v := by
  rw [contains_iff, minValue, maxValue] at h
  rw [signedBits]
  split at h
  · next signed =>
    rw [if_pos signed, fitsSigned, Bool.and_eq_true, decide_eq_true_eq, decide_eq_true_eq]
    exact h
  · next unsigned =>
    have positive : 0 < 2 ^ r.width := Nat.two_pow_pos r.width
    have top : unsignedMax r.width = 2 ^ r.width - 1 := rfl
    rw [if_neg unsigned, fitsSigned_iff, Nat.add_sub_cancel]
    omega

theorem signedBits_le (r : IntegerRepr) (signed : r.isSigned = true) : r.signedBits ≤ 64 := by
  rw [signedBits, if_pos signed, width]
  omega

/-- A representation needs more than 32 bits with a sign if it is wide, or between the wide ones and
those of 32 bits. -/
theorem isWide_iff {r : IntegerRepr} (large : 32 < r.signedBits) :
    r.isWide ↔ ¬ (32 < r.bits ∧ r.bits < 64) := by
  rw [signedBits, width] at large
  rw [isWide, Bool.or_eq_true, Bool.and_eq_true, decide_eq_true_eq, beq_iff_eq]
  split at large
  · next signed => simp only [signed, Bool.not_true, Bool.false_eq_true, and_false, or_false]; omega
  · next unsigned => simp only [unsigned, Bool.not_false, and_true]; omega

end IntegerRepr

/-! ### The effective representation -/

namespace Enumeration

/-- Each value is a signed integer of so many bits. -/
def Fits (bits : Nat) (e : Enumeration) : Prop := ∀ m ∈ e.members, fitsSigned bits m.value

instance (bits : Nat) : DecidablePred (Fits bits) := fun e =>
  decidable_of_iff (e.members.all fun m => fitsSigned bits m.value) List.all_eq_true

theorem fits_64_iff {e : Enumeration} :
    e.Fits 64 ↔ ∀ m ∈ e.members, -2 ^ 63 ≤ m.value ∧ m.value < 2 ^ 63 :=
  forall₂_congr fun _ _ => fitsSigned_iff

theorem not_fits_64_iff {e : Enumeration} :
    ¬ e.Fits 64 ↔ ∃ m ∈ e.members, m.value < -2 ^ 63 ∨ 2 ^ 63 ≤ m.value := by
  rw [fits_64_iff]
  constructor
  · intro h
    refine Classical.byContradiction fun none => h fun m hm => ?_
    have inside : ¬ (m.value < -2 ^ 63 ∨ 2 ^ 63 ≤ m.value) := fun beyond => none ⟨m, hm, beyond⟩
    omega
  · rintro ⟨m, hm, beyond⟩ h
    have inside := h m hm
    omega

theorem fits_32_iff {e : Enumeration} :
    e.Fits 32 ↔ ∀ m ∈ e.members, -2 ^ 31 ≤ m.value ∧ m.value < 2 ^ 31 :=
  forall₂_congr fun _ _ => fitsSigned_iff

/-- The declared representation has each value. -/
def IsHeld (e : Enumeration) : Prop := ∀ m ∈ e.members, e.repr.contains m.value

instance : DecidablePred IsHeld := fun e =>
  decidable_of_iff (e.members.all fun m => e.repr.contains m.value) List.all_eq_true

/-- **What the effective representation is.** -/
theorem effectiveRepr_cases (e : Enumeration) :
    e.IsHeld ∧ e.effectiveRepr = e.repr ∨
    ¬ e.IsHeld ∧
      (e.Fits 64 ∧ e.effectiveRepr = .int64 ∨ ¬ e.Fits 64 ∧ e.effectiveRepr = .uint64) := by
  have held : (e.members.all fun m => e.repr.contains m.value) = true ↔ e.IsHeld := List.all_eq_true
  have fits : (e.members.all fun m => IntegerRepr.int64.contains m.value) = true ↔ e.Fits 64 :=
    List.all_eq_true
  rw [effectiveRepr]
  split
  · next h => exact .inl ⟨held.1 h, rfl⟩
  · next h =>
    split
    · next h' => exact .inr ⟨mt held.2 h, .inl ⟨fits.1 h', rfl⟩⟩
    · next h' => exact .inr ⟨mt held.2 h, .inr ⟨mt fits.2 h', rfl⟩⟩

theorem fits_of_signed {e : Enumeration} (signed : e.effectiveRepr.isSigned = true) :
    e.Fits 64 := by
  obtain ⟨held, same⟩ | ⟨-, ⟨fits, -⟩ | ⟨-, widened⟩⟩ := e.effectiveRepr_cases
  · rw [same] at signed
    exact fun m hm => fitsSigned_mono (IntegerRepr.fitsSigned_of_contains (held m hm))
      (e.repr.signedBits_le signed)
  · exact fits
  · rw [widened] at signed
    cases signed

/-- The first value that is no signed 64-bit integer. -/
def firstBeyond? (e : Enumeration) : Option EnumMember :=
  e.members.find? fun m => !fitsSigned 64 m.value

theorem firstBeyond?_eq_none_iff {e : Enumeration} : e.firstBeyond? = none ↔ e.Fits 64 := by
  simp [firstBeyond?, Fits]

theorem not_fits_of_firstBeyond? {e : Enumeration} {m : EnumMember} (h : e.firstBeyond? = some m) :
    ¬ e.Fits 64 := fun fits => by
  rw [firstBeyond?_eq_none_iff.2 fits] at h
  cases h

/-- The literal of a member: its value, as a text if not every value fits. -/
def literal (e : Enumeration) (m : EnumMember) : Json :=
  if e.Fits 64 then .int m.value else .string (toString m.value)

end Enumeration

/-! ### Encoding -/

namespace EnumEncoding

variable {enc : EnumEncoding} {e : Enumeration}

/-- **No value is passed over**: with the effective representation, the encoder finds the first
value that does not fit. -/
theorem overflowing?_effectiveRepr (e : Enumeration) :
    overflowing? e.effectiveRepr e = e.firstBeyond? := by
  rw [overflowing?]
  split
  · next signed =>
    exact (Enumeration.firstBeyond?_eq_none_iff.2 (Enumeration.fits_of_signed signed)).symm
  · rfl

/-- A value beyond 32 bits gets a format of 64 bits, unless the declared representation holds every
value and is between those of 32 and of 64 bits. -/
theorem integerFormat_effectiveRepr (fits : e.Fits 64) : integerFormat e.effectiveRepr e =
    if e.Fits 32 ∨ 32 < e.repr.bits ∧ e.repr.bits < 64 ∧ e.IsHeld then "int32" else "int64" := by
  have any : (e.members.any fun m => !fitsSigned 32 m.value) = true ↔ ¬ e.Fits 32 := by
    simp [Enumeration.Fits]
  rw [integerFormat]
  by_cases small : e.Fits 32
  · rw [if_pos (Or.inl small), if_neg fun h => any.1 (Bool.and_eq_true_iff.1 h).2 small]
  · rw [any.2 small, Bool.and_true]
    obtain ⟨held, same⟩ | ⟨unheld, ⟨-, widened⟩ | ⟨beyond, -⟩⟩ := e.effectiveRepr_cases
    · have large : 32 < e.repr.signedBits := Nat.lt_of_not_le fun le => small fun m hm =>
        fitsSigned_mono (IntegerRepr.fitsSigned_of_contains (held m hm)) le
      have wide := IntegerRepr.isWide_iff large
      rw [same]
      by_cases between : 32 < e.repr.bits ∧ e.repr.bits < 64
      · rw [if_neg fun h => wide.1 h between, if_pos (.inr ⟨between.1, between.2, held⟩)]
      · rw [if_pos (wide.2 between), if_neg fun h => h.elim small fun h => between ⟨h.1, h.2.1⟩]
    · rw [widened, if_pos (by decide), if_neg fun h => h.elim small fun h => unheld h.2.2]
    · exact absurd fits beyond

/-- How many of so many literals are kept. -/
def kept (enc : EnumEncoding) (total : Nat) : Nat :=
  if enc.threshold = 0 ∨ total ≤ enc.threshold then total else enc.threshold

theorem kept_le (enc : EnumEncoding) (total : Nat) : enc.kept total ≤ total := by
  unfold kept
  split <;> omega

/-- What cutting does to a node, and what it reports. -/
theorem truncate_eq (typeName : String) {n : SchemaNode} (whole : n.truncation? = none) :
    enc.truncate typeName n =
      let total := n.enumValues.length
      ({ n with
          enumValues := n.enumValues.take (enc.kept total)
          truncation? :=
            if enc.kept total < total then some ⟨total, total - enc.kept total⟩ else none },
        if enc.kept total < total then [truncationEvent typeName total (enc.kept total)]
        else []) := by
  rw [truncate]
  dsimp only
  split
  · next cut =>
    have keeps : enc.kept n.enumValues.length = enc.threshold := if_neg (by omega)
    rw [keeps, if_pos cut.2, if_pos cut.2]
  · next uncut =>
    have keeps : enc.kept n.enumValues.length = n.enumValues.length := if_pos (by omega)
    rw [keeps, if_neg (Nat.lt_irrefl _), if_neg (Nat.lt_irrefl _), List.take_length, ← whole]

/-- The node of the values of an enumeration, without literals. -/
def valueNode (e : Enumeration) : SchemaNode :=
  if e.Fits 64 then .ofPrimitive .integer (integerFormat e.effectiveRepr e)
  else .ofPrimitive .string

theorem valueNode_string_iff : (valueNode e).kind = .primitive .string ↔ ¬ e.Fits 64 := by
  unfold valueNode
  split
  · next fits => exact iff_of_false nofun (not_not_intro fits)
  · next unfit => exact iff_of_true rfl unfit

theorem valueNode_integer_iff : (valueNode e).kind = .primitive .integer ↔ e.Fits 64 := by
  unfold valueNode
  split
  · next fits => exact iff_of_true rfl fits
  · next unfit => exact iff_of_false nofun unfit

/-- The values of an enumeration as literals, before they are cut. -/
theorem complete_of_integer (mode : enc.mode = .integer) (typeName : String) (e : Enumeration) :
    enc.complete typeName e =
      ({ valueNode e with enumValues := e.members.map e.literal },
        e.firstBeyond?.toList.map (overflowEvent typeName)) := by
  rw [complete, mode]
  dsimp only
  rw [overflowing?_effectiveRepr]
  cases beyond : e.firstBeyond? with
  | some m =>
    have unfit := Enumeration.not_fits_of_firstBeyond? beyond
    have literals : e.literal = fun m => .string (toString m.value) :=
      funext fun m => if_neg unfit
    rw [valueNode, if_neg unfit, literals]
    rfl
  | none =>
    have fits := Enumeration.firstBeyond?_eq_none_iff.1 beyond
    have literals : e.literal = fun m => .int m.value := funext fun m => if_pos fits
    rw [valueNode, if_pos fits, literals, List.filter_eq_self.2 fits]
    rfl

/-- **The literals of an enumeration that is encoded by its values.** -/
theorem encode_of_integer (mode : enc.mode = .integer) (typeName : String) (e : Enumeration) :
    enc.encode typeName e =
      let total := e.members.length
      let kept := enc.kept total
      ({ valueNode e with
          enumValues := (e.members.take kept).map e.literal
          truncation? := if kept < total then some ⟨total, total - kept⟩ else none },
        e.firstBeyond?.toList.map (overflowEvent typeName) ++
          if kept < total then [truncationEvent typeName total kept] else []) := by
  rw [encode, complete_of_integer mode]
  dsimp only
  rw [truncate_eq]
  · simp
  · unfold valueNode
    split <;> rfl

theorem overflow_codes (typeName : String) (e : Enumeration) :
    (e.firstBeyond?.toList.map (overflowEvent typeName)).map (·.code) =
      if e.Fits 64 then [] else [.enumOverflow] := by
  cases beyond : e.firstBeyond? with
  | none => rw [if_pos (Enumeration.firstBeyond?_eq_none_iff.1 beyond)]; rfl
  | some m => rw [if_neg (Enumeration.not_fits_of_firstBeyond? beyond)]; rfl

theorem truncation_codes (typeName : String) (total kept : Nat) :
    (if kept < total then [truncationEvent typeName total kept] else []).map (·.code) =
      if kept < total then [.enumVirtualized] else [] := by
  split <;> rfl

/-- **Integer literals lose nothing.**  The node is one of texts exactly if some value is beyond the
signed 64-bit integers, and else one of integers.  In both cases the literals are the values of the
members that are kept, in order; what is cut is said in the node; and each of the two is reported
once, with nothing else. -/
theorem encode_integer (mode : enc.mode = .integer) (typeName : String) (e : Enumeration)
    {n : SchemaNode} {events : List DiagnosticEvent} (h : enc.encode typeName e = (n, events)) :
    let total := e.members.length
    let kept := if enc.threshold = 0 ∨ total ≤ enc.threshold then total else enc.threshold
    (n.kind = .primitive .string ↔ ∃ m ∈ e.members, m.value < -2 ^ 63 ∨ 2 ^ 63 ≤ m.value) ∧
    (n.kind = .primitive .integer ↔ ∀ m ∈ e.members, -2 ^ 63 ≤ m.value ∧ m.value < 2 ^ 63) ∧
    n.enumValues.length = kept ∧
    (∀ k m, k < kept → e.members[k]? = some m → n.enumValues[k]? =
      some (if n.kind = .primitive .string then .string (toString m.value) else .int m.value)) ∧
    n.truncation? = (if kept < total then some ⟨total, total - kept⟩ else none) ∧
    events.map (·.code) = (if n.kind = .primitive .string then [.enumOverflow] else []) ++
      if kept < total then [.enumVirtualized] else [] := by
  intro total kept
  have lawful : kept = enc.kept total := rfl
  rw [encode_of_integer mode] at h
  obtain ⟨rfl, rfl⟩ := Prod.mk.inj h
  dsimp only
  rw [← lawful, ← Enumeration.fits_64_iff, ← Enumeration.not_fits_64_iff]
  rw [List.map_append, overflow_codes, truncation_codes]
  simp only [valueNode_string_iff, valueNode_integer_iff, ite_not, List.length_map,
    List.length_take, true_and]
  refine ⟨Nat.min_eq_left (enc.kept_le total), fun k m inside found => ?_, rfl, rfl⟩
  rw [List.getElem?_map, List.getElem?_take_of_lt inside, found, Option.map_some,
    Enumeration.literal]

/-- A value beyond 64 bits makes texts of all values, also if it is cut off itself. -/
theorem encode_integer_beyond :
    let enc : EnumEncoding := { mode := .integer, threshold := 2, naming := .preserve }
    let e : Enumeration := ⟨[⟨"Low", -1⟩, ⟨"Mid", 5⟩, ⟨"High", 2 ^ 63⟩], .int32⟩
    let (n, events) := enc.encode "Big" e
    (n.kind = .primitive .string ∧ n.enumValues.length = 2 ∧ n.truncation? = some ⟨3, 1⟩) ∧
    n.enumValues[1]? = some (.string "5") ∧
    events.map (·.code) = [.enumOverflow, .enumVirtualized] := by
  intro enc e
  obtain ⟨texts, -, length, literals, cut, codes⟩ :=
    encode_integer (show enc.mode = .integer from rfl) "Big" e rfl
  have text := texts.2 (by decide)
  refine ⟨⟨text, length, cut⟩, ?_, ?_⟩
  · rw [literals 1 ⟨"Mid", 5⟩ (by decide) rfl, if_pos text]
    rfl
  · rw [codes, if_pos text]
    rfl

/-- **The format of integer literals**, if every value is a signed 64-bit integer. -/
theorem encode_format (mode : enc.mode = .integer) (typeName : String) (e : Enumeration)
    (fits : ∀ m ∈ e.members, -2 ^ 63 ≤ m.value ∧ m.value < 2 ^ 63) :
    let narrow := (∀ m ∈ e.members, -2 ^ 31 ≤ m.value ∧ m.value < 2 ^ 31) ∨
      32 < e.repr.bits ∧ e.repr.bits < 64 ∧ ∀ m ∈ e.members, e.repr.contains m.value
    (narrow → (enc.encode typeName e).1.format? = some "int32") ∧
    (¬ narrow → (enc.encode typeName e).1.format? = some "int64") := by
  intro narrow
  have fits := Enumeration.fits_64_iff.2 fits
  have format : (enc.encode typeName e).1.format? = some (integerFormat e.effectiveRepr e) := by
    rw [encode_of_integer mode]
    simp only [valueNode, if_pos fits, SchemaNode.ofPrimitive]
  have same : (e.Fits 32 ∨ 32 < e.repr.bits ∧ e.repr.bits < 64 ∧ e.IsHeld) ↔ narrow :=
    or_congr_left Enumeration.fits_32_iff
  rw [format, integerFormat_effectiveRepr fits]
  exact ⟨fun h => congrArg some (if_pos (same.2 h)),
    fun h => congrArg some (if_neg (mt same.1 h))⟩

/-- Unsigned integers of 32 bits get the format of 64 for a value that needs the highest bit. -/
theorem encode_format_highestBit :
    let enc : EnumEncoding := { mode := .integer, threshold := 0, naming := .preserve }
    let e : Enumeration := ⟨[⟨"None", 0⟩, ⟨"Top", 2 ^ 31⟩], ⟨32, false⟩⟩
    (enc.encode "Flags" e).1.format? = some "int64" := by
  intro enc e
  exact (encode_format (show enc.mode = .integer from rfl) "Flags" e (by decide)).2 (by decide)

/-- **The format can be too narrow**: that values fit 32 bits is not the condition, as the values of
a representation of 40 bits are said to have 32. -/
theorem not_encode_format :
    ¬ ∀ (enc : EnumEncoding) (typeName : String) (e : Enumeration), enc.mode = .integer →
      (∀ m ∈ e.members, -2 ^ 63 ≤ m.value ∧ m.value < 2 ^ 63) →
      ((enc.encode typeName e).1.format? = some "int32" ↔
        ∀ m ∈ e.members, -2 ^ 31 ≤ m.value ∧ m.value < 2 ^ 31) ∧
      ((enc.encode typeName e).1.format? = some "int64" ↔
        ¬ ∀ m ∈ e.members, -2 ^ 31 ≤ m.value ∧ m.value < 2 ^ 31) := by
  intro wide
  have h := wide { mode := .integer, threshold := 0, naming := .preserve } "Big"
    ⟨[⟨"A", 0⟩, ⟨"B", 2 ^ 31⟩], ⟨40, true⟩⟩ rfl (by decide)
  exact absurd (h.1.1 rfl) (by decide)

end EnumEncoding

end TypeSchema
