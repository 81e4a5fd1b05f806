import TrexWebui.PyStr

/-!
# SHA-256

The digest that `hashlib.sha256` computes: the padded message in blocks of
sixteen words, a message schedule that is extended while the 64 rounds run,
and the eight chaining words in hexadecimal.
-/

namespace Sha2

open PyStr

abbrev Word := BitVec 32

/-- The eight chaining words. -/
structure Chain where
  a : Word
  b : Word
  c : Word
  d : Word
  e : Word
  f : Word
  g : Word
  h : Word

def initial : Chain where
  a := 0x6a09e667
  b := 0xbb67ae85
  c := 0x3c6ef372
  d := 0xa54ff53a
  e := 0x510e527f
  f := 0x9b05688c
  g := 0x1f83d9ab
  h := 0x5be0cd19

def roundConstants : List Word :=
  [0x428a2f98, 0x71374491, 0xb5c0fbcf, 0xe9b5dba5, 0x3956c25b, 0x59f111f1, 0x923f82a4, 0xab1c5ed5,
   0xd807aa98, 0x12835b01, 0x243185be, 0x550c7dc3, 0x72be5d74, 0x80deb1fe, 0x9bdc06a7, 0xc19bf174,
   0xe49b69c1, 0xefbe4786, 0x0fc19dc6, 0x240ca1cc, 0x2de92c6f, 0x4a7484aa, 0x5cb0a9dc, 0x76f988da,
   0x983e5152, 0xa831c66d, 0xb00327c8, 0xbf597fc7, 0xc6e00bf3, 0xd5a79147, 0x06ca6351, 0x14292967,
   0x27b70a85, 0x2e1b2138, 0x4d2c6dfc, 0x53380d13, 0x650a7354, 0x766a0abb, 0x81c2c92e, 0x92722c85,
   0xa2bfe8a1, 0xa81a664b, 0xc24b8b70, 0xc76c51a3, 0xd192e819, 0xd6990624, 0xf40e3585, 0x106aa070,
   0x19a4c116, 0x1e376c08, 0x2748774c, 0x34b0bcb5, 0x391c0cb3, 0x4ed8aa4a, 0x5b9cca4f, 0x682e6ff3,
   0x748f82ee, 0x78a5636f, 0x84c87814, 0x8cc70208, 0x90befffa, 0xa4506ceb, 0xbef9a3f7, 0xc67178f2]

def round (s : Chain) (k w : Word) : Chain :=
  let t1 := s.h + (s.e.rotateRight 6 ^^^ s.e.rotateRight 11 ^^^ s.e.rotateRight 25)
    + ((s.e &&& s.f) ^^^ (~~~ s.e &&& s.g)) + k + w
  let t2 := (s.a.rotateRight 2 ^^^ s.a.rotateRight 13 ^^^ s.a.rotateRight 22)
    + ((s.a &&& s.b) ^^^ (s.a &&& s.c) ^^^ (s.b &&& s.c))
  { a := t1 + t2, b := s.a, c := s.b, d := s.c, e := s.d + t1, f := s.e, g := s.f, h := s.g }

/-- The word of the schedule sixteen places after the first of a window. -/
def scheduled (window : List Word) : Word :=
  let w1 := window.getD 1 0
  let w14 := window.getD 14 0
  (w14.rotateRight 17 ^^^ w14.rotateRight 19 ^^^ w14 >>> 10) + window.getD 9 0
    + (w1.rotateRight 7 ^^^ w1.rotateRight 18 ^^^ w1 >>> 3) + window.getD 0 0

/-- The rounds that are left, with the next sixteen words of the schedule. -/
def rounds : (constants : List Word) → (window : List Word) → Chain → Chain
  | [], _, s => s
  | k :: constants, window, s =>
    rounds constants (window.tail ++ [scheduled window]) (round s k (window.getD 0 0))

def compress (s : Chain) (block : List Word) : Chain :=
  let t := rounds roundConstants block s
  { a := s.a + t.a, b := s.b + t.b, c := s.c + t.c, d := s.d + t.d,
    e := s.e + t.e, f := s.f + t.f, g := s.g + t.g, h := s.h + t.h }

def words : Bytes → List Word
  | a :: b :: c :: d :: rest =>
    .ofNat 32 (a.toNat * 0x1000000 + b.toNat * 0x10000 + c.toNat * 0x100 + d.toNat) :: words rest
  | _ => []

def pad (message : Bytes) : Bytes :=
  message ++ 0x80 :: List.replicate ((119 - message.length % 64) % 64) 0
    ++ (List.range 8).map fun i => .ofNat ((message.length * 8) >>> (8 * (7 - i)))

def blocks : (count : Nat) → List Word → Chain → Chain
  | 0, _, s => s
  | count + 1, ws, s => blocks count (ws.drop 16) (compress s (ws.take 16))

/-- `hashlib.sha256(message).hexdigest()` -/
def hexdigest (message : Bytes) : Str :=
  let padded := pad message
  let s := blocks (padded.length / 64) (words padded) initial
  [s.a, s.b, s.c, s.d, s.e, s.f, s.g, s.h].flatMap fun w => hexDigits 8 w.toNat

/-- `[0-9a-f]{64}` -/
def IsDigest (s : Str) : Prop := s.length = 64 ∧ ∀ c ∈ s, isLowerHex c = true

instance (s : Str) : Decidable (IsDigest s) := inferInstanceAs (Decidable (_ ∧ _))

/-- A digest is 64 hexadecimal digits in lower case, whatever the message. -/
theorem isDigest_hexdigest (message : Bytes) : IsDigest (hexdigest message) := by
  refine ⟨?_, ?_⟩
  · simp [hexdigest]
  · intro c hc
    obtain ⟨w, -, hw⟩ := List.mem_flatMap.mp hc
    exact isLowerHex_hexDigits 8 w.toNat c hw

example : hexdigest [97, 98, 99]
    = text "ba7816bf8f01cfea414140de5dae2223b00361a396177a9cb410ff61f20015ad" := by
  decide +kernel

end Sha2
