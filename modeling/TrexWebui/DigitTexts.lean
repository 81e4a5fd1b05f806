import Mathlib.Algebra.Ring.Nat
import Mathlib.Data.List.DropRight
import Mathlib.Data.List.Induction
import Mathlib.Data.List.TakeWhile
import TrexWebui.PyStr

/-!
# Digits in texts

The digits of a text as a number, to a base of up to sixteen, as JavaScript and
Python read them: JavaScript's `Number.parseInt` reads the digits that a text
begins with, after spaces, a sign and a `0x`, and leaves out what follows.
Python's `int` reads texts of digits only.
-/

namespace DigitTexts

open PyStr

/-! ## Digits -/

def digitValue (c : Nat) : Option Nat :=
  if 48 ≤ c ∧ c ≤ 57 then some (c - 48)
  else if 97 ≤ c ∧ c ≤ 102 then some (c - 87)
  else if 65 ≤ c ∧ c ≤ 70 then some (c - 55)
  else none

def IsDigitOf (base c : Nat) : Prop := ∃ d, digitValue c = some d ∧ d < base

instance (base c : Nat) : Decidable (IsDigitOf base c) :=
  match h : digitValue c with
  | none => isFalse (by rintro ⟨d, hd, -⟩; rw [h] at hd; cases hd)
  | some d =>
      decidable_of_iff (d < base) ⟨fun hlt => ⟨d, h, hlt⟩, by
        rintro ⟨e, he, hlt⟩
        rw [h] at he
        cases he
        exact hlt⟩

def valueOf (base : Nat) (digits : Str) : Nat :=
  digits.foldl (fun value c => value * base + (digitValue c).getD 0) 0

theorem IsDigitOf.range {base c : Nat} (h : IsDigitOf base c) :
    48 ≤ c ∧ c ≤ 57 ∨ 97 ≤ c ∧ c ≤ 102 ∨ 65 ≤ c ∧ c ≤ 70 := by
  obtain ⟨d, hd, -⟩ := h
  rw [digitValue] at hd
  split_ifs at hd with h1 h2 h3
  · exact Or.inl h1
  · exact Or.inr (Or.inl h2)
  · exact Or.inr (Or.inr h3)

theorem valueOf_append (base : Nat) (digits : Str) (c : Nat) :
    valueOf base (digits ++ [c]) = valueOf base digits * base + (digitValue c).getD 0 := by
  rw [valueOf, List.foldl_append]
  rfl

theorem valueOf_lt {base : Nat} (digits : Str) (h : ∀ c ∈ digits, IsDigitOf base c) :
    valueOf base digits < base ^ digits.length := by
  induction digits using List.reverseRecOn with
  | nil => exact Nat.one_pos
  | append_singleton digits c ih =>
      have hdigits := ih fun d hd => h d (List.mem_append_left _ hd)
      obtain ⟨d, hd, hlt⟩ := h c (List.mem_append_right _ (List.mem_singleton.mpr rfl))
      rw [valueOf_append, hd, Option.getD_some, List.length_append, List.length_singleton, Nat.pow_succ]
      calc valueOf base digits * base + d < valueOf base digits * base + base := by omega
        _ = (valueOf base digits + 1) * base := by rw [Nat.add_mul, Nat.one_mul]
        _ ≤ base ^ digits.length * base := Nat.mul_le_mul_right base hdigits

/-! ## Writing -/

def hexDigit (d : Nat) : Nat := if d < 10 then 48 + d else 87 + d

def hexTextLoop : (fuel n : Nat) → Str
  | 0, _ => []
  | fuel + 1, n => if n < 16 then [hexDigit n] else hexTextLoop fuel (n / 16) ++ [hexDigit (n % 16)]

/-- `n.toString(16)` and `'%x' % n` -/
def hexText (n : Nat) : Str := hexTextLoop (n + 1) n

theorem isDigitOf_hexDigit {d : Nat} (h : d < 16) : IsDigitOf 16 (hexDigit d) := by
  refine ⟨d, ?_, h⟩
  rw [hexDigit, digitValue]
  split_ifs <;> first | omega | (congr 1; omega)

theorem hexTextLoop_spec (fuel n k : Nat) (h : n < 16 ^ (k + 1)) :
    (∀ c ∈ hexTextLoop fuel n, IsDigitOf 16 c) ∧ (hexTextLoop fuel n).length ≤ k + 1 := by
  induction fuel generalizing n k with
  | zero => exact ⟨fun c hc => absurd hc List.not_mem_nil, Nat.zero_le _⟩
  | succ fuel ih =>
      rw [hexTextLoop]
      split
      · rename_i hlt
        refine ⟨?_, by rw [List.length_singleton]; omega⟩
        intro c hc
        rw [List.mem_singleton.mp hc]
        exact isDigitOf_hexDigit hlt
      · rename_i hge
        cases k with
        | zero => omega
        | succ k =>
            obtain ⟨hdigits, hlength⟩ := ih (n / 16) k (by rw [Nat.pow_succ] at h; omega)
            refine ⟨?_, ?_⟩
            · intro c hc
              rcases List.mem_append.mp hc with hc | hc
              · exact hdigits c hc
              · rw [List.mem_singleton.mp hc]
                exact isDigitOf_hexDigit (by omega)
            · rw [List.length_append, List.length_singleton]
              omega

theorem hexText_ne_nil (n : Nat) : hexText n ≠ [] := by
  rw [hexText, hexTextLoop]
  split
  · exact List.cons_ne_nil _ _
  · exact List.append_ne_nil_of_right_ne_nil _ (List.cons_ne_nil _ _)

/-! ## JavaScript's reading -/

/-- White space and line ends, as `trim` and `parseInt` take them off. -/
def IsJsSpace (c : Nat) : Prop :=
  c ∈ [9, 10, 11, 12, 13, 32, 0xA0, 0x1680, 0x2028, 0x2029, 0x202F, 0x205F, 0x3000, 0xFEFF]
    ∨ 0x2000 ≤ c ∧ c ≤ 0x200A

instance (c : Nat) : Decidable (IsJsSpace c) := inferInstanceAs (Decidable (_ ∨ _ ∧ _))

/-- `text.trim()` -/
def jsTrim (s : Str) : Str := (s.dropWhile fun c => IsJsSpace c).rdropWhile fun c => IsJsSpace c

theorem jsTrim_of_no_spaces {s : Str} (h : ∀ c ∈ s, ¬IsJsSpace c) : jsTrim s = s := by
  have hdrop : s.dropWhile (fun c => IsJsSpace c) = s := by
    cases s with
    | nil => rfl
    | cons c rest => exact List.dropWhile_cons_of_neg (by simpa using h c List.mem_cons_self)
  rw [jsTrim, hdrop, List.rdropWhile_eq_self_iff]
  intro hne
  simpa using h _ (List.getLast_mem hne)

theorem mem_dropWhile_of_not {p : Nat → Bool} {s : Str} {c : Nat} (h : c ∈ s) (hc : p c = false) :
    c ∈ s.dropWhile p := by
  rw [← List.takeWhile_append_dropWhile (p := p) (l := s)] at h
  rcases List.mem_append.mp h with h | h
  · rw [List.mem_takeWhile_imp h] at hc
    cases hc
  · exact h

theorem mem_rdropWhile_of_not {p : Nat → Bool} {s : Str} {c : Nat} (h : c ∈ s) (hc : p c = false) :
    c ∈ s.rdropWhile p :=
  List.mem_reverse.mpr (mem_dropWhile_of_not (List.mem_reverse.mpr h) hc)

theorem mem_jsTrim {s : Str} {c : Nat} (h : c ∈ s) (hc : ¬IsJsSpace c) : c ∈ jsTrim s :=
  mem_rdropWhile_of_not (mem_dropWhile_of_not h (by simpa using hc)) (by simpa using hc)

def jsSign : Str → Int × Str
  | 45 :: rest => (-1, rest)
  | 43 :: rest => (1, rest)
  | s => (1, s)

/-- A `0x` or `0X` in front is taken off. -/
def jsHexPrefix : Str → Str
  | 48 :: 120 :: rest => rest
  | 48 :: 88 :: rest => rest
  | s => s

/-- `Number.parseInt(text, base)` with a base of 10 or 16; `none` is `NaN`. -/
def jsParseInt (base : Nat) (s : Str) : Option Int :=
  let (sign, rest) := jsSign (s.dropWhile fun c => IsJsSpace c)
  let digits := (if base = 16 then jsHexPrefix rest else rest).takeWhile fun c => IsDigitOf base c
  if digits = [] then none else some (sign * valueOf base digits)

/-- The pieces of `text.split(cc)` with a separator of twice the same character. -/
def splitPair (c : Nat) : Str → List Str
  | [] => [[]]
  | [x] => [[x]]
  | x :: y :: rest =>
      if x = c ∧ y = c then [] :: splitPair c rest
      else
        match splitPair c (y :: rest) with
        | [] => [[x]]
        | piece :: pieces => (x :: piece) :: pieces

theorem intercalate_splitPair (c : Nat) (s : Str) :
    splitPair c s ≠ [] ∧ [c, c].intercalate (splitPair c s) = s := by
  induction s using splitPair.induct c with
  | case1 => exact ⟨List.cons_ne_nil _ _, rfl⟩
  | case2 x => exact ⟨List.cons_ne_nil _ _, rfl⟩
  | case3 x y rest h ih =>
      obtain ⟨rfl, rfl⟩ := h
      obtain ⟨hne, hjoin⟩ := ih
      obtain ⟨piece, pieces, hpieces⟩ := List.exists_cons_of_ne_nil hne
      rw [splitPair, if_pos ⟨rfl, rfl⟩]
      refine ⟨List.cons_ne_nil _ _, ?_⟩
      rw [hpieces] at hjoin ⊢
      rw [List.intercalate_cons_cons, hjoin]
      rfl
  | case4 x y rest h hnil ih => exact absurd hnil ih.1
  | case5 x y rest h piece pieces hpieces ih =>
      rw [splitPair, if_neg h, hpieces]
      refine ⟨List.cons_ne_nil _ _, ?_⟩
      rw [hpieces] at ih
      obtain ⟨-, hjoin⟩ := ih
      cases pieces with
      | nil =>
          rw [List.intercalate_singleton] at hjoin ⊢
          rw [hjoin]
      | cons next pieces =>
          rw [List.intercalate_cons_cons] at hjoin ⊢
          rw [← hjoin]
          rfl

theorem jsParseInt_digits {base : Nat} {s : Str} (hne : s ≠ []) (h : ∀ c ∈ s, IsDigitOf base c) :
    jsParseInt base s = some (valueOf base s : Int) := by
  obtain ⟨first, rest, rfl⟩ := List.exists_cons_of_ne_nil hne
  have hrange := (h first List.mem_cons_self).range
  have hspace : ¬IsJsSpace first := by
    rintro (hmem | hmem)
    · simp only [List.mem_cons, List.not_mem_nil, or_false] at hmem
      omega
    · omega
  have htrim : (first :: rest).dropWhile (fun c => IsJsSpace c) = first :: rest :=
    List.dropWhile_cons_of_neg (by simpa using hspace)
  have hsign : jsSign (first :: rest) = (1, first :: rest) := by
    rw [jsSign.eq_def]
    split
    · rename_i heq
      cases heq
      omega
    · rename_i heq
      cases heq
      omega
    · rfl
  have hplain : jsHexPrefix (first :: rest) = first :: rest := by
    have hsecond : ∀ c ∈ rest, c ≠ 120 ∧ c ≠ 88 := by
      intro c hc
      have hdigit := (h c (List.mem_cons_of_mem first hc)).range
      omega
    rw [jsHexPrefix.eq_def]
    split
    · rename_i heq
      cases heq
      exact absurd rfl (hsecond 120 List.mem_cons_self).1
    · rename_i heq
      cases heq
      exact absurd rfl (hsecond 88 List.mem_cons_self).2
    · rfl
  have hdigits : (first :: rest).takeWhile (fun c => IsDigitOf base c) = first :: rest :=
    List.takeWhile_eq_self_iff.mpr fun c hc => by simpa using h c hc
  rw [jsParseInt, htrim, hsign]
  simp only [hplain, ite_self, hdigits, if_neg hne, Int.one_mul]

end DigitTexts
