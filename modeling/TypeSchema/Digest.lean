import TypeSchema.Text.Numeral

/-!
# SHA-256

The digest of a list of bytes, as its standard defines it: the bytes are padded to a multiple of 64,
and each block of 64 bytes is compressed into eight words of 32 bits.
-/

namespace TypeSchema.Sha256

/-- The first 32 bits of the fractional parts of the cube roots of the first 64 primes. -/
def roundConstants : Array UInt32 := #[
  0x428a2f98, 0x71374491, 0xb5c0fbcf, 0xe9b5dba5, 0x3956c25b, 0x59f111f1, 0x923f82a4, 0xab1c5ed5,
  0xd807aa98, 0x12835b01, 0x243185be, 0x550c7dc3, 0x72be5d74, 0x80deb1fe, 0x9bdc06a7, 0xc19bf174,
  0xe49b69c1, 0xefbe4786, 0x0fc19dc6, 0x240ca1cc, 0x2de92c6f, 0x4a7484aa, 0x5cb0a9dc, 0x76f988da,
  0x983e5152, 0xa831c66d, 0xb00327c8, 0xbf597fc7, 0xc6e00bf3, 0xd5a79147, 0x06ca6351, 0x14292967,
  0x27b70a85, 0x2e1b2138, 0x4d2c6dfc, 0x53380d13, 0x650a7354, 0x766a0abb, 0x81c2c92e, 0x92722c85,
  0xa2bfe8a1, 0xa81a664b, 0xc24b8b70, 0xc76c51a3, 0xd192e819, 0xd6990624, 0xf40e3585, 0x106aa070,
  0x19a4c116, 0x1e376c08, 0x2748774c, 0x34b0bcb5, 0x391c0cb3, 0x4ed8aa4a, 0x5b9cca4f, 0x682e6ff3,
  0x748f82ee, 0x78a5636f, 0x84c87814, 0x8cc70208, 0x90befffa, 0xa4506ceb, 0xbef9a3f7, 0xc67178f2]

/-- The eight words of a running digest. -/
structure State where
  a : UInt32
  b : UInt32
  c : UInt32
  d : UInt32
  e : UInt32
  f : UInt32
  g : UInt32
  h : UInt32

/-- The first 32 bits of the fractional parts of the square roots of the first eight primes. -/
def initial : State :=
  ⟨0x6a09e667, 0xbb67ae85, 0x3c6ef372, 0xa54ff53a, 0x510e527f, 0x9b05688c, 0x1f83d9ab, 0x5be0cd19⟩

/-- Rotates a word to the right. -/
def rotate (x : UInt32) (n : UInt32) : UInt32 := (x >>> n) ||| (x <<< (32 - n))

/-- The bytes with a one bit, zeros and their number in bits, to a multiple of 64 bytes. -/
def padded (bytes : Array UInt8) : Array UInt8 :=
  let zeros := (55 + 64 - bytes.size % 64) % 64
  let bits := 8 * bytes.size
  let length := (List.range 8).map fun i => UInt8.ofNat (bits >>> (8 * (7 - i)))
  bytes ++ #[0x80] ++ Array.replicate zeros 0 ++ length.toArray

/-- The word of four bytes, the first one highest. -/
def word (bytes : Array UInt8) (start : Nat) : UInt32 :=
  let byte i := (bytes.getD (start + i) 0).toUInt32
  (byte 0 <<< 24) ||| (byte 1 <<< 16) ||| (byte 2 <<< 8) ||| byte 3

/-- Adds the next word of a message schedule. -/
def nextWord (schedule : Array UInt32) (i : Nat) : Array UInt32 :=
  let w j := schedule.getD (i - j) 0
  let s0 := rotate (w 15) 7 ^^^ rotate (w 15) 18 ^^^ (w 15 >>> 3)
  let s1 := rotate (w 2) 17 ^^^ rotate (w 2) 19 ^^^ (w 2 >>> 10)
  schedule.push (w 16 + s0 + w 7 + s1)

/-- The 64 words of a block's message schedule. -/
def schedule (bytes : Array UInt8) (start : Nat) : Array UInt32 :=
  let first := ((List.range 16).map fun i => word bytes (start + 4 * i)).toArray
  (List.range' 16 48).foldl nextWord first

/-- One round. -/
def round (words : Array UInt32) (s : State) (i : Nat) : State :=
  let s1 := rotate s.e 6 ^^^ rotate s.e 11 ^^^ rotate s.e 25
  let choice := (s.e &&& s.f) ^^^ (~~~s.e &&& s.g)
  let t1 := s.h + s1 + choice + roundConstants.getD i 0 + words.getD i 0
  let s0 := rotate s.a 2 ^^^ rotate s.a 13 ^^^ rotate s.a 22
  let majority := (s.a &&& s.b) ^^^ (s.a &&& s.c) ^^^ (s.b &&& s.c)
  ⟨t1 + (s0 + majority), s.a, s.b, s.c, s.d + t1, s.e, s.f, s.g⟩

/-- Compresses the block that starts at a byte. -/
def compress (bytes : Array UInt8) (s : State) (start : Nat) : State :=
  let words := schedule bytes start
  let t := (List.range 64).foldl (round words) s
  ⟨s.a + t.a, s.b + t.b, s.c + t.c, s.d + t.d, s.e + t.e, s.f + t.f, s.g + t.g, s.h + t.h⟩

/-- The words of the digest. -/
def words (bytes : Array UInt8) : List UInt32 :=
  let all := padded bytes
  let s := (List.range (all.size / 64)).foldl (fun s i => compress all s (64 * i)) initial
  [s.a, s.b, s.c, s.d, s.e, s.f, s.g, s.h]

/-- The digest of a text's bytes, in small hexadecimal digits. -/
def hex (s : String) : String :=
  String.join ((words s.toUTF8.data).map fun w => Text.hexPadded 8 w.toNat)

end TypeSchema.Sha256
