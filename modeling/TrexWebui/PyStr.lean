import Mathlib.Data.List.Lex
import Mathlib.Data.List.Sort

/-!
# Python strings and their bytes

A Python string is a sequence of code points, lone surrogates included, and
`bytes` is a sequence of octets. `encode` and `decode` are the strict UTF-8
codec, so `encode` fails at a surrogate and `decode` at an octet that no
shortest encoding has. Two strings are compared code point by code point,
which is the order of lists of numbers.
-/

namespace PyStr

/-- A Python `str`, as its code points. -/
abbrev Str := List Nat

instance : LawfulBEq Str := List.instLawfulBEq

/-- A Python `bytes`. -/
abbrev Bytes := List UInt8

def text (literal : String) : Str := literal.toList.map Char.toNat

/-! ## UTF-8 -/

def Scalar (c : Nat) : Prop := c < 0xD800 ∨ 0xE000 ≤ c ∧ c < 0x110000

instance (c : Nat) : Decidable (Scalar c) := inferInstanceAs (Decidable (_ ∨ _ ∧ _))

def encodePoint (c : Nat) : Bytes :=
  if c < 0x80 then [.ofNat c]
  else if c < 0x800 then [.ofNat (0xC0 + c / 0x40), .ofNat (0x80 + c % 0x40)]
  else if c < 0x10000 then
    [.ofNat (0xE0 + c / 0x1000), .ofNat (0x80 + c / 0x40 % 0x40), .ofNat (0x80 + c % 0x40)]
  else
    [.ofNat (0xF0 + c / 0x40000), .ofNat (0x80 + c / 0x1000 % 0x40),
      .ofNat (0x80 + c / 0x40 % 0x40), .ofNat (0x80 + c % 0x40)]

/-- `s.encode("utf-8")`; `none` is a `UnicodeEncodeError`. -/
def encode (s : Str) : Option Bytes :=
  if ∀ c ∈ s, Scalar c then some (s.flatMap encodePoint) else none

def isTail (b : UInt8) : Bool := 0x80 ≤ b.toNat && b.toNat < 0xC0

/-- `b.decode("utf-8")`; `none` is a `UnicodeDecodeError`. -/
def decode : Bytes → Option Str
  | [] => some []
  | a :: rest =>
    if a.toNat < 0x80 then (decode rest).map (a.toNat :: ·)
    else match rest with
    | [] => none
    | b :: rest =>
      if !isTail b then none
      else if 0xC2 ≤ a.toNat && a.toNat < 0xE0 then
        (decode rest).map ((a.toNat % 0x20 * 0x40 + b.toNat % 0x40) :: ·)
      else match rest with
      | [] => none
      | c :: rest =>
        let point := a.toNat % 0x10 * 0x1000 + b.toNat % 0x40 * 0x40 + c.toNat % 0x40
        if !isTail c then none
        else if 0xE0 ≤ a.toNat && a.toNat < 0xF0 then
          if 0x800 ≤ point && decide (Scalar point) then (decode rest).map (point :: ·) else none
        else match rest with
        | [] => none
        | d :: rest =>
          let point := a.toNat % 0x08 * 0x40000 + b.toNat % 0x40 * 0x1000
            + c.toNat % 0x40 * 0x40 + d.toNat % 0x40
          if isTail d && 0xF0 ≤ a.toNat && a.toNat < 0xF8 && 0x10000 ≤ point
            && point < 0x110000 then (decode rest).map (point :: ·)
          else none

theorem toNat_octet {n : Nat} (hn : n < 0x100) : (UInt8.ofNat n).toNat = n := by
  rw [UInt8.toNat_ofNat', Nat.mod_eq_of_lt (by simpa using hn)]

theorem toNat_tail (n : Nat) : (UInt8.ofNat (0x80 + n % 0x40)).toNat = 0x80 + n % 0x40 :=
  toNat_octet (by omega)

theorem isTail_tail (n : Nat) : isTail (.ofNat (0x80 + n % 0x40)) = true := by
  simp only [isTail, toNat_tail, Bool.and_eq_true, decide_eq_true_eq]
  omega

theorem tail_mod (n : Nat) : (0x80 + n % 0x40) % 0x40 = n % 0x40 := by omega

theorem decode_encodePoint {c : Nat} (hc : Scalar c) (rest : Bytes) :
    decode (encodePoint c ++ rest) = (decode rest).map (c :: ·) := by
  have hlt : c < 0x110000 := by rcases hc with h | h <;> omega
  unfold encodePoint
  split_ifs with h1 h2 h3
  · have hlead : (UInt8.ofNat c).toNat = c := toNat_octet (by omega)
    simp only [List.cons_append, List.nil_append]
    rw [decode.eq_def]
    simp only [hlead, h1, ↓reduceIte]
  · have hlead : (UInt8.ofNat (0xC0 + c / 0x40)).toNat = 0xC0 + c / 0x40 := toNat_octet (by omega)
    have hpoint : (0xC0 + c / 0x40) % 0x20 * 0x40 + c % 0x40 = c := by omega
    have hfirst : ¬ 0xC0 + c / 0x40 < 0x80 := by omega
    have hrange : (0xC2 ≤ 0xC0 + c / 0x40 && 0xC0 + c / 0x40 < 0xE0) = true := by
      simp only [Bool.and_eq_true, decide_eq_true_eq]
      omega
    simp only [List.cons_append, List.nil_append]
    rw [decode.eq_def]
    simp only [hlead, toNat_tail, isTail_tail, tail_mod,
      hfirst, hrange, hpoint, Bool.not_true, Bool.false_eq_true, ↓reduceIte]
  · have hlead : (UInt8.ofNat (0xE0 + c / 0x1000)).toNat = 0xE0 + c / 0x1000 :=
      toNat_octet (by omega)
    have hpoint : (0xE0 + c / 0x1000) % 0x10 * 0x1000 + c / 0x40 % 0x40 * 0x40 + c % 0x40 = c := by
      omega
    have hfirst : ¬ 0xE0 + c / 0x1000 < 0x80 := by omega
    have hsecond : ¬ (0xC2 ≤ 0xE0 + c / 0x1000 && 0xE0 + c / 0x1000 < 0xE0) = true := by
      simp only [Bool.and_eq_true, decide_eq_true_eq]
      omega
    have hrange : (0xE0 ≤ 0xE0 + c / 0x1000 && 0xE0 + c / 0x1000 < 0xF0) = true := by
      simp only [Bool.and_eq_true, decide_eq_true_eq]
      omega
    have hvalid : (0x800 ≤ c && decide (Scalar c)) = true := by
      simp only [Bool.and_eq_true, decide_eq_true_eq]
      exact ⟨by omega, hc⟩
    simp only [List.cons_append, List.nil_append]
    rw [decode.eq_def]
    simp only [hlead, toNat_tail, isTail_tail, tail_mod,
      hfirst, hsecond, hrange, hpoint, hvalid, Bool.not_true, Bool.false_eq_true, ↓reduceIte]
  · have hlead : (UInt8.ofNat (0xF0 + c / 0x40000)).toNat = 0xF0 + c / 0x40000 :=
      toNat_octet (by omega)
    have hpoint : (0xF0 + c / 0x40000) % 0x08 * 0x40000 + c / 0x1000 % 0x40 * 0x1000
        + c / 0x40 % 0x40 * 0x40 + c % 0x40 = c := by omega
    have hfirst : ¬ 0xF0 + c / 0x40000 < 0x80 := by omega
    have hsecond : ¬ (0xC2 ≤ 0xF0 + c / 0x40000 && 0xF0 + c / 0x40000 < 0xE0) = true := by
      simp only [Bool.and_eq_true, decide_eq_true_eq]
      omega
    have hthird : ¬ (0xE0 ≤ 0xF0 + c / 0x40000 && 0xF0 + c / 0x40000 < 0xF0) = true := by
      simp only [Bool.and_eq_true, decide_eq_true_eq]
      omega
    have hrange : 0xF0 ≤ 0xF0 + c / 0x40000 ∧ 0xF0 + c / 0x40000 < 0xF8 := by omega
    have hvalid : 0x10000 ≤ c ∧ c < 0x110000 := by omega
    simp only [List.cons_append, List.nil_append]
    rw [decode.eq_def]
    simp only [hlead, toNat_tail, isTail_tail, tail_mod,
      hfirst, hsecond, hthird, hrange, hpoint, hvalid, Bool.not_true, Bool.false_eq_true,
      ↓reduceIte, decide_true, Bool.and_self]

theorem decode_encode {s : Str} {b : Bytes} (h : encode s = some b) : decode b = some s := by
  unfold encode at h
  split_ifs at h with hs
  rcases Option.some.inj h with rfl
  clear h
  induction s with
  | nil => rfl
  | cons c s ih =>
      have hrest := ih fun d hd => hs d (List.mem_cons_of_mem c hd)
      rw [List.flatMap_cons, decode_encodePoint (hs c List.mem_cons_self), hrest]
      rfl

theorem encode_eq_some_iff {s : Str} {b : Bytes} :
    encode s = some b ↔ (∀ c ∈ s, Scalar c) ∧ b = s.flatMap encodePoint := by
  unfold encode
  split_ifs with hs
  · constructor
    · intro h
      exact ⟨hs, (Option.some.inj h).symm⟩
    · rintro ⟨-, rfl⟩
      rfl
  · constructor
    · intro h
      cases h
    · rintro ⟨h, -⟩
      exact absurd h hs

theorem scalar_of_ascii {c : Nat} (h : c < 0x80) : Scalar c := Or.inl (by omega)

/-! ## Hexadecimal digits -/

def hexDigit (d : Nat) : Nat := if d < 10 then 48 + d else 87 + d

/-- `[0-9a-f]` -/
def isLowerHex (c : Nat) : Bool := 48 ≤ c && c ≤ 57 || 97 ≤ c && c ≤ 102

/-- The last `width` hexadecimal digits of a number. -/
def hexDigits : (width : Nat) → (value : Nat) → Str
  | 0, _ => []
  | width + 1, value => hexDigits width (value / 16) ++ [hexDigit (value % 16)]

theorem isLowerHex_hexDigit {d : Nat} (hd : d < 16) : isLowerHex (hexDigit d) = true := by
  unfold hexDigit
  split_ifs
  · simp [isLowerHex]
    omega
  · simp [isLowerHex]
    omega

theorem hexDigit_lt_ascii {d : Nat} (hd : d < 16) : hexDigit d < 0x80 := by
  unfold hexDigit
  split_ifs <;> omega

@[simp] theorem length_hexDigits (width value : Nat) : (hexDigits width value).length = width := by
  induction width generalizing value with
  | zero => rfl
  | succ width ih => simp [hexDigits, ih]

theorem isLowerHex_hexDigits (width value : Nat) :
    ∀ c ∈ hexDigits width value, isLowerHex c = true := by
  induction width generalizing value with
  | zero => intro c hc; cases hc
  | succ width ih =>
      intro c hc
      rcases List.mem_append.mp hc with hc | hc
      · exact ih _ c hc
      · rw [List.mem_singleton.mp hc]
        exact isLowerHex_hexDigit (Nat.mod_lt _ (by decide))

end PyStr
