import TypeSchema.Number.Bounds

/-!
# Enumerations

Members are named integers in the order of their declaration; the declared representation says how
wide those integers are meant to be. `Enumeration.effectiveRepr` widens a representation that does
not hold every member.
-/

namespace TypeSchema

/-- An integer representation: a number of bits and whether one of them is a sign. -/
structure IntegerRepr where
  bits : Nat
  isSigned : Bool
  deriving DecidableEq, Repr

namespace IntegerRepr

/-- Signed 32-bit integers, the representation of an enumeration that declares none. -/
def int32 : IntegerRepr := ⟨32, true⟩

/-- Signed 64-bit integers. -/
def int64 : IntegerRepr := ⟨64, true⟩

/-- Unsigned 64-bit integers. -/
def uint64 : IntegerRepr := ⟨64, false⟩

instance : Inhabited IntegerRepr := ⟨int32⟩

/-- The representation of a name such as `u8`. -/
def ofName? (name : String) : Option IntegerRepr :=
  match name with
  | "i8" => some ⟨8, true⟩
  | "i16" => some ⟨16, true⟩
  | "i32" => some ⟨32, true⟩
  | "i64" => some ⟨64, true⟩
  | "u8" => some ⟨8, false⟩
  | "u16" => some ⟨16, false⟩
  | "u32" => some ⟨32, false⟩
  | "u64" => some ⟨64, false⟩
  | _ => none

/-- The number of bits that count: at least one, and at most 64. -/
def width (r : IntegerRepr) : Nat := max 1 (min 64 r.bits)

/-- The least value. -/
def minValue (r : IntegerRepr) : Int := if r.isSigned then signedMin r.width else 0

/-- The greatest value. -/
def maxValue (r : IntegerRepr) : Int :=
  if r.isSigned then signedMax r.width else unsignedMax r.width

/-- Whether a value is one of the representation's. -/
def contains (r : IntegerRepr) (value : Int) : Bool := r.minValue ≤ value && value ≤ r.maxValue

/-- Whether values may need a 64-bit format. -/
def isWide (r : IntegerRepr) : Bool := 64 ≤ r.bits || (r.bits == 32 && !r.isSigned)

end IntegerRepr

/-- A member: its name and its value. -/
structure EnumMember where
  name : String
  value : Int
  deriving DecidableEq, Repr

/-- Members in order of declaration, and their representation. -/
structure Enumeration where
  members : List EnumMember
  repr : IntegerRepr := .int32
  deriving DecidableEq, Repr

namespace Enumeration

/-- Members with the values `0`, `1`, `2`, … -/
def sequential (names : List String) : Enumeration :=
  { members := names.zipIdx.map fun (name, i) => ⟨name, i⟩ }

/-- The declared representation if it holds every member, else signed 64-bit integers if they do,
else unsigned ones. -/
def effectiveRepr (e : Enumeration) : IntegerRepr :=
  if e.members.all (fun m => e.repr.contains m.value) then e.repr
  else if e.members.all (fun m => IntegerRepr.int64.contains m.value) then .int64
  else .uint64

end Enumeration

end TypeSchema
