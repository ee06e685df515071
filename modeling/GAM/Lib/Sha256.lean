import GAM.Lib.Json

/-!
# SHA-256

The hash function over byte strings, with its digest in lower-case hexadecimal. The one fact proved
about it is the shape of its output (`sha256Hex_isHex`); nothing is assumed of collisions.
-/

namespace GAM.Lib

/-- A digest text: 64 lower-case hexadecimal digits. -/
def isHex64 (s : String) : Bool :=
  s.toList.length == 64 && s.toList.all fun c => c.isDigit || ('a' ≤ c && c ≤ 'f')

namespace Sha256

/-- The first words of the fractional parts of the cube roots of the first 64 primes. -/
def roundConstants : List UInt32 :=
  [0x428a2f98, 0x71374491, 0xb5c0fbcf, 0xe9b5dba5, 0x3956c25b, 0x59f111f1, 0x923f82a4, 0xab1c5ed5,
   0xd807aa98, 0x12835b01, 0x243185be, 0x550c7dc3, 0x72be5d74, 0x80deb1fe, 0x9bdc06a7, 0xc19bf174,
   0xe49b69c1, 0xefbe4786, 0x0fc19dc6, 0x240ca1cc, 0x2de92c6f, 0x4a7484aa, 0x5cb0a9dc, 0x76f988da,
   0x983e5152, 0xa831c66d, 0xb00327c8, 0xbf597fc7, 0xc6e00bf3, 0xd5a79147, 0x06ca6351, 0x14292967,
   0x27b70a85, 0x2e1b2138, 0x4d2c6dfc, 0x53380d13, 0x650a7354, 0x766a0abb, 0x81c2c92e, 0x92722c85,
   0xa2bfe8a1, 0xa81a664b, 0xc24b8b70, 0xc76c51a3, 0xd192e819, 0xd6990624, 0xf40e3585, 0x106aa070,
   0x19a4c116, 0x1e376c08, 0x2748774c, 0x34b0bcb5, 0x391c0cb3, 0x4ed8aa4a, 0x5b9cca4f, 0x682e6ff3,
   0x748f82ee, 0x78a5636f, 0x84c87814, 0x8cc70208, 0x90befffa, 0xa4506ceb, 0xbef9a3f7, 0xc67178f2]

/-- The eight words of the chaining value. -/
structure State where
  a : UInt32
  b : UInt32
  c : UInt32
  d : UInt32
  e : UInt32
  f : UInt32
  g : UInt32
  h : UInt32

/-- The first words of the fractional parts of the square roots of the first 8 primes. -/
def initial : State :=
  ⟨0x6a09e667, 0xbb67ae85, 0x3c6ef372, 0xa54ff53a, 0x510e527f, 0x9b05688c, 0x1f83d9ab, 0x5be0cd19⟩

/-- A word rotated to the right. -/
def rotr (x : UInt32) (n : UInt32) : UInt32 := (x >>> n) ||| (x <<< (32 - n))

/-- One round on a schedule word and its constant. -/
def round (s : State) (wk : UInt32 × UInt32) : State :=
  let s1 := rotr s.e 6 ^^^ rotr s.e 11 ^^^ rotr s.e 25
  let ch := (s.e &&& s.f) ^^^ (~~~s.e &&& s.g)
  let t1 := s.h + s1 + ch + wk.2 + wk.1
  let s0 := rotr s.a 2 ^^^ rotr s.a 13 ^^^ rotr s.a 22
  let maj := (s.a &&& s.b) ^^^ (s.a &&& s.c) ^^^ (s.b &&& s.c)
  ⟨t1 + (s0 + maj), s.a, s.b, s.c, s.d + t1, s.e, s.f, s.g⟩

/-- Extend the sixteen words of a block, newest first. -/
def extend : Nat → List UInt32 → List UInt32
  | 0, ws => ws
  | n + 1, ws =>
    let w15 := ws.getD 14 0
    let w2 := ws.getD 1 0
    let s0 := rotr w15 7 ^^^ rotr w15 18 ^^^ (w15 >>> 3)
    let s1 := rotr w2 17 ^^^ rotr w2 19 ^^^ (w2 >>> 10)
    extend n ((ws.getD 15 0 + s0 + ws.getD 6 0 + s1) :: ws)

/-- A state after one block. -/
def compress (s : State) (block : List UInt32) : State :=
  let r := ((extend 48 block.reverse).reverse.zip roundConstants).foldl round s
  ⟨s.a + r.a, s.b + r.b, s.c + r.c, s.d + r.d, s.e + r.e, s.f + r.f, s.g + r.g, s.h + r.h⟩

/-- The big-endian words of a byte list. -/
def words : List UInt8 → List UInt32
  | a :: b :: c :: d :: l =>
    ((a.toUInt32 <<< 24) ||| (b.toUInt32 <<< 16) ||| (c.toUInt32 <<< 8) ||| d.toUInt32) :: words l
  | _ => []

/-- The message with its padding and length. -/
def pad (l : List UInt8) : List UInt8 :=
  l ++ 0x80 :: List.replicate ((119 - l.length % 64) % 64) 0 ++
    (List.range 8).reverse.map fun i => UInt8.ofNat (8 * l.length / 256 ^ i)

/-- Absorb the words block by block, on a fuel that bounds the number of blocks. -/
def absorb : Nat → State → List UInt32 → State
  | 0, s, _ => s
  | n + 1, s, ws => if ws = [] then s else absorb n (compress s (ws.take 16)) (ws.drop 16)

/-- The state after all blocks of a padded message. -/
def digest (l : List UInt8) : State :=
  let ws := words (pad l)
  absorb ws.length initial ws

/-- A hexadecimal digit of a word, counted from the most significant one. -/
def nibble (w : UInt32) (i : Nat) : Nat := w.toNat / 16 ^ (7 - i) % 16

/-- The hexadecimal digits of a word. -/
def hexWord (w : UInt32) : List Char := (List.range 8).map fun i => hexChar (nibble w i)

/-- The words of a state, in order. -/
def State.words (s : State) : List UInt32 := [s.a, s.b, s.c, s.d, s.e, s.f, s.g, s.h]

end Sha256

/-- The hexadecimal SHA-256 digest of the UTF-8 encoding of a text. -/
def sha256Hex (s : String) : String :=
  String.ofList ((Sha256.digest s.toUTF8.toList).words.flatMap Sha256.hexWord)

/-- A hexadecimal digit is one of the sixteen characters. -/
lemma hexChar_isHex : ∀ d < 16, ((hexChar d).isDigit || ('a' ≤ hexChar d && hexChar d ≤ 'f')) = true := by
  decide

/-- A digest is 64 lower-case hexadecimal digits. -/
theorem sha256Hex_isHex (s : String) : isHex64 (sha256Hex s) = true := by
  have hw : ∀ w, (Sha256.hexWord w).length = 8 := fun w => by simp [Sha256.hexWord]
  simp only [isHex64, sha256Hex, String.toList_ofList, Bool.and_eq_true, beq_iff_eq]
  constructor
  · simp [Sha256.State.words, hw]
  · rw [List.all_eq_true]
    intro c hc
    obtain ⟨w, _, hc⟩ := List.mem_flatMap.mp hc
    obtain ⟨i, _, rfl⟩ := List.mem_map.mp hc
    exact hexChar_isHex _ (Nat.mod_lt _ (by decide))

end GAM.Lib
