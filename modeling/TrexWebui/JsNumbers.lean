import Mathlib.Data.Rat.Floor
import Mathlib.Tactic.Linarith
import Mathlib.Tactic.NormNum
import Mathlib.Tactic.Positivity
import TrexWebui.DigitTexts
import TrexWebui.PyJson

/-!
# JavaScript's numbers and their texts

`Number(text)` is the double nearest to the number that the text writes, and
`String(number)` writes the shortest digits that are read back as the number:
in plain notation from `0.000001` on and below `10 ^ 21`, with an exponent
elsewhere. Doubles are given by the two functions on which both rest
(`Doubles`), the nearest double of a rational number and the shortest digits of
a double, with what the language promises of them (`Doubles.Lawful`). Only
numbers that are not negative are treated.

A number in plain notation is read back as itself (`number_plainText`).
-/

namespace JsNumbers

open PyStr PyJson DigitTexts

/-! ## Reading -/

def exponentValue : Str → Option Int
  | [] => some 0
  | c :: rest =>
      if c = 101 ∨ c = 69 then
        let (sign, digits) := jsSign rest
        if digits ≠ [] ∧ digits.all isDigit then some (sign * ofDecimal digits) else none
      else none

def fractionDigits : Str → Str × Str
  | 46 :: rest => (rest.takeWhile isDigit, rest.dropWhile isDigit)
  | rest => ([], rest)

def decimalValue (s : Str) : Option ℚ :=
  let whole := s.takeWhile isDigit
  let (fraction, rest) := fractionDigits (s.dropWhile isDigit)
  if whole ++ fraction = [] then none
  else (exponentValue rest).map fun e =>
    (ofDecimal (whole ++ fraction) : ℚ) * 10 ^ (e - (fraction.length : Int))

/-- Doubles: the nearest one of a number, where `none` is `Infinity`, and the digits `s` of a
positive one with its decimal exponent `n`. -/
structure Doubles where
  round : ℚ → Option ℚ
  digits : ℚ → Nat × Int

/-- The number of digits that `s` writes. -/
def digitCount (s : Nat) : Nat := (decimal s).length

/-- The number `0.s * 10 ^ n`. -/
def scaled (s : Nat) (n : Int) : ℚ := s * 10 ^ (n - digitCount s)

/-- What the language promises: rounding keeps the order, doubles and integers up to `2 ^ 53`; the
digits of a double are the shortest that are read back as it, and those of `0.000001` are `1`. -/
structure Doubles.Lawful (D : Doubles) : Prop where
  mono : ∀ {q r y}, q ≤ r → D.round r = some y → ∃ x, D.round q = some x ∧ x ≤ y
  round_round : ∀ {q x}, D.round q = some x → D.round x = some x
  natural : ∀ k : Nat, k ≤ 2 ^ 53 → D.round k = some (k : ℚ)
  digits_pos : ∀ {q x}, D.round q = some x → 0 < x → 0 < (D.digits x).1
  digits_short : ∀ {q x}, D.round q = some x → 0 < x → (D.digits x).1 % 10 ≠ 0
  digits_read : ∀ {q x}, D.round q = some x → 0 < x →
    D.round (scaled (D.digits x).1 (D.digits x).2) = some x
  digits_millionth : ∀ {x}, D.round (1 / 10 ^ 6) = some x → D.digits x = (1, -5)

/-- `Number(text)`; `none` is `NaN`. -/
def Doubles.number (D : Doubles) (s : Str) : Option (Option ℚ) := (decimalValue s).map D.round

/-! ## Writing -/

def zeros (count : Nat) : Str := List.replicate count 48

/-- The text of the digits `s` with exponent `n`. -/
def digitsText (s : Nat) (n : Int) : Str :=
  let digits := decimal s
  let k := digitCount s
  if k ≤ n ∧ n ≤ 21 then digits ++ zeros (n - k).toNat
  else if 0 < n ∧ n ≤ 21 then digits.take n.toNat ++ 46 :: digits.drop n.toNat
  else if -6 < n ∧ n ≤ 0 then 48 :: 46 :: (zeros (-n).toNat ++ digits)
  else (if k = 1 then digits else digits.take 1 ++ 46 :: digits.drop 1)
    ++ 101 :: (if n - 1 < 0 then 45 else 43) :: decimal (n - 1).natAbs

/-- `String(x)` -/
def Doubles.text (D : Doubles) : Option ℚ → Str
  | none => PyStr.text "Infinity"
  | some x => if x = 0 then [48] else digitsText (D.digits x).1 (D.digits x).2

example : (digitsText 1 (-5), digitsText 1 (-6), digitsText 15 1, digitsText 15 3, digitsText 15 23)
    = (text "0.000001", text "1e-7", text "1.5", text "150", text "1.5e+22") := by
  decide +kernel

/-! ## Digits -/

theorem ofDecimal_append (a b : Str) :
    ofDecimal (a ++ b) = ofDecimal a * 10 ^ b.length + ofDecimal b := by
  rw [ofDecimal, List.map_append, Nat.ofDigitChars_append,
    Nat.ofDigitChars_eq_ofDigitChars_zero, List.length_map, Nat.mul_comm]
  rfl

theorem ofDecimal_zeros (count : Nat) : ofDecimal (zeros count) = 0 := by
  have hmap : (zeros count).map Char.ofNat = List.replicate count '0' := List.map_replicate
  rw [ofDecimal, hmap, Nat.ofDigitChars_replicate_zero, Nat.mul_zero]

theorem length_zeros (count : Nat) : (zeros count).length = count := List.length_replicate

theorem isDigit_zeros {count c : Nat} (h : c ∈ zeros count) : isDigit c = true := by
  rw [List.eq_of_mem_replicate h]
  rfl

/-- The last digit of a number that ten does not divide is not a zero. -/
theorem decimal_last {s : Nat} (h : s % 10 ≠ 0) :
    ∃ digits last, decimal s = digits ++ [last] ∧ 49 ≤ last ∧ last ≤ 57 := by
  have hlast : ∀ d, d < 10 → d ≠ 0 → 49 ≤ d.digitChar.toNat ∧ d.digitChar.toNat ≤ 57 := by
    intro d hlt hne
    interval_cases d <;> first | exact absurd rfl hne | decide
  rcases Nat.lt_or_ge s 10 with hs | hs
  · refine ⟨[], _, ?_, hlast s hs (by omega)⟩
    rw [decimal, Nat.toDigits_of_lt_base hs]
    rfl
  · refine ⟨decimal (s / 10), _, ?_, hlast (s % 10) (Nat.mod_lt _ (by omega)) h⟩
    rw [decimal, Nat.toDigits_of_base_le (by decide) hs, List.map_append]
    rfl

theorem lt_pow_digitCount (s : Nat) : s < 10 ^ digitCount s := by
  rw [digitCount, decimal, List.length_map]
  exact (Nat.length_toDigits_le_iff (by decide) (Nat.length_toDigits_pos)).mp le_rfl

theorem digitCount_pos (s : Nat) : 0 < digitCount s :=
  List.length_pos_of_ne_nil (decimal_ne_nil s)

theorem pow_digitCount_le {s : Nat} (h : 0 < s) : 10 ^ (digitCount s - 1) ≤ s := by
  by_contra hlt
  rw [Nat.not_le] at hlt
  rcases Nat.lt_or_ge 1 (digitCount s) with hcount | hcount
  · have hle := (Nat.length_toDigits_le_iff (b := 10) (by decide) (by omega)).mpr hlt
    rw [digitCount, decimal, List.length_map] at hcount hle
    omega
  · have hone : digitCount s - 1 = 0 := by omega
    rw [hone, Nat.pow_zero] at hlt
    omega

/-! ## Literals without an exponent -/

/-- Digits, then a point and digits or neither; one digit at least. -/
def IsNumeral (s : Str) : Prop :=
  ∃ whole fraction, (∀ c ∈ whole, isDigit c = true) ∧ (∀ c ∈ fraction, isDigit c = true)
    ∧ whole ++ fraction ≠ [] ∧ (s = whole ∧ fraction = [] ∨ s = whole ++ 46 :: fraction)

theorem decimalValue_whole {whole : Str} (hne : whole ≠ [])
    (hdigits : ∀ c ∈ whole, isDigit c = true) : decimalValue whole = some (ofDecimal whole : ℚ) := by
  have htake : whole.takeWhile isDigit = whole := List.takeWhile_eq_self_iff.mpr hdigits
  have hdrop : whole.dropWhile isDigit = [] := List.dropWhile_eq_nil_iff.mpr hdigits
  rw [decimalValue, htake, hdrop]
  simp [fractionDigits, exponentValue, hne]

theorem decimalValue_point {whole fraction : Str} (hne : whole ++ fraction ≠ [])
    (hwhole : ∀ c ∈ whole, isDigit c = true) (hfraction : ∀ c ∈ fraction, isDigit c = true) :
    decimalValue (whole ++ 46 :: fraction)
      = some ((ofDecimal (whole ++ fraction) : ℚ) * 10 ^ (-(fraction.length : Int))) := by
  have htake : (whole ++ 46 :: fraction).takeWhile isDigit = whole :=
    takeWhile_digits hwhole (EndsDigits.cons rfl _)
  have hdrop : (whole ++ 46 :: fraction).dropWhile isDigit = 46 :: fraction := by
    rw [List.dropWhile_append_of_pos hwhole]
    rfl
  have hdigits : fraction.takeWhile isDigit = fraction := List.takeWhile_eq_self_iff.mpr hfraction
  have hrest : fraction.dropWhile isDigit = [] := List.dropWhile_eq_nil_iff.mpr hfraction
  rw [decimalValue, htake, hdrop]
  simp only [fractionDigits, hdigits, hrest, if_neg hne, exponentValue, Option.map_some, zero_sub]

theorem digitsText_plain {s : Nat} {n : Int} (hlow : -6 < n) (hhigh : n ≤ 21) :
    IsNumeral (digitsText s n) ∧ decimalValue (digitsText s n) = some (scaled s n) := by
  have hdigits : ∀ c ∈ decimal s, isDigit c = true := fun c hc => isDigit_decimal hc
  have hcount : (decimal s).length = digitCount s := rfl
  have hne := decimal_ne_nil s
  have hpos := digitCount_pos s
  rw [digitsText]
  by_cases hwhole : (digitCount s : Int) ≤ n
  · have hall : ∀ c ∈ decimal s ++ zeros (n - digitCount s).toNat, isDigit c = true := by
      intro c hc
      rcases List.mem_append.mp hc with hc | hc
      · exact hdigits c hc
      · exact isDigit_zeros hc
    have hfull := List.append_ne_nil_of_left_ne_nil hne (zeros (n - digitCount s).toNat)
    obtain ⟨z, hz⟩ := Int.eq_ofNat_of_zero_le (Int.sub_nonneg.mpr hwhole)
    rw [if_pos ⟨hwhole, hhigh⟩]
    refine ⟨⟨_, [], hall, List.forall_mem_nil _, ?_, Or.inl ⟨rfl, rfl⟩⟩, ?_⟩
    · rw [List.append_nil]
      exact hfull
    · rw [decimalValue_whole hfull hall, ofDecimal_append, ofDecimal_zeros, ofDecimal_decimal,
        length_zeros, scaled, hz, zpow_natCast, Int.toNat_natCast, Nat.add_zero, Nat.cast_mul,
        Nat.cast_pow]
      rfl
  rw [if_neg fun h => hwhole h.1]
  by_cases hpoint : 0 < n
  · have hsplit : (decimal s).take n.toNat ++ (decimal s).drop n.toNat = decimal s :=
      List.take_append_drop _ _
    have htake : ∀ c ∈ (decimal s).take n.toNat, isDigit c = true :=
      fun c hc => hdigits c (List.mem_of_mem_take hc)
    have hdrop : ∀ c ∈ (decimal s).drop n.toNat, isDigit c = true :=
      fun c hc => hdigits c (List.mem_of_mem_drop hc)
    have hlength : -(((decimal s).drop n.toNat).length : Int) = n - digitCount s := by
      rw [List.length_drop, hcount]
      omega
    have hfull : (decimal s).take n.toNat ++ (decimal s).drop n.toNat ≠ [] := by
      rw [hsplit]
      exact hne
    rw [if_pos ⟨hpoint, hhigh⟩]
    refine ⟨⟨_, _, htake, hdrop, hfull, Or.inr rfl⟩, ?_⟩
    rw [decimalValue_point hfull htake hdrop, hsplit, ofDecimal_decimal, hlength]
    rfl
  · have hall : ∀ c ∈ zeros (-n).toNat ++ decimal s, isDigit c = true := by
      intro c hc
      rcases List.mem_append.mp hc with hc | hc
      · exact isDigit_zeros hc
      · exact hdigits c hc
    have hzero : ∀ c ∈ [48], isDigit c = true := by decide
    have hlength : -((zeros (-n).toNat ++ decimal s).length : Int) = n - digitCount s := by
      rw [List.length_append, length_zeros, hcount]
      omega
    have hvalue : ofDecimal ([48] ++ (zeros (-n).toNat ++ decimal s)) = s := by
      have hfirst : ofDecimal [48] = 0 := rfl
      rw [ofDecimal_append, ofDecimal_append, ofDecimal_zeros, hfirst, ofDecimal_decimal]
      omega
    rw [if_neg fun h => hpoint h.1, if_pos ⟨hlow, by omega⟩]
    refine ⟨⟨[48], _, hzero, hall, List.cons_ne_nil _ _, Or.inr rfl⟩, ?_⟩
    have hread := decimalValue_point (List.cons_ne_nil 48 _) hzero hall
    rw [hvalue, hlength] at hread
    exact hread

theorem minus_mem_digitsText {s : Nat} {n : Int} (h : n ≤ -6) :
    ∃ mantissa, digitsText s n = mantissa ++ 101 :: 45 :: decimal (n - 1).natAbs := by
  have hcount := digitCount_pos s
  have hwhole : ¬((digitCount s : Int) ≤ n ∧ n ≤ 21) := by omega
  have hpoint : ¬(0 < n ∧ n ≤ 21) := by omega
  have hplain : ¬(-6 < n ∧ n ≤ 0) := by omega
  have hsign : n - 1 < 0 := by omega
  rw [digitsText, if_neg hwhole, if_neg hpoint, if_neg hplain, if_pos hsign]
  exact ⟨_, rfl⟩

theorem digitsText_last {s : Nat} {n : Int} (hlow : -6 < n) (hhigh : n ≤ 21)
    (hpoint : n < digitCount s) (hs : s % 10 ≠ 0) :
    ∃ rest last, digitsText s n = rest ++ [last] ∧ last ≠ 48 := by
  obtain ⟨digits, last, hdigits, hlast, -⟩ := decimal_last hs
  have hne : last ≠ 48 := by omega
  have hcount : digits.length + 1 = digitCount s := by
    rw [digitCount, hdigits, List.length_append, List.length_singleton]
  have hwhole : ¬((digitCount s : Int) ≤ n ∧ n ≤ 21) := by omega
  rw [digitsText, if_neg hwhole]
  by_cases hn : 0 < n
  · rw [if_pos ⟨hn, hhigh⟩]
    refine ⟨(decimal s).take n.toNat ++ 46 :: digits.drop n.toNat, last, ?_, hne⟩
    have hle : n.toNat ≤ digits.length := by omega
    rw [hdigits, List.drop_append_of_le_length hle, List.append_assoc]
    rfl
  · rw [if_neg fun h => hn h.1, if_pos ⟨hlow, by omega⟩]
    refine ⟨48 :: 46 :: (zeros (-n).toNat ++ digits), last, ?_, hne⟩
    rw [hdigits]
    simp

/-! ## The exponent of a double -/

theorem scaled_lt (s : Nat) (n : Int) : scaled s n < 10 ^ n := by
  have hlt : (s : ℚ) < 10 ^ (digitCount s : Int) := by
    rw [zpow_natCast]
    exact_mod_cast lt_pow_digitCount s
  calc scaled s n < 10 ^ (digitCount s : Int) * 10 ^ (n - digitCount s) :=
        mul_lt_mul_of_pos_right hlt (zpow_pos (by norm_num) _)
    _ = 10 ^ n := by rw [← zpow_add₀ (by norm_num : (10 : ℚ) ≠ 0), add_sub_cancel]

theorem le_scaled {s : Nat} (n : Int) (h : 0 < s) : 10 ^ (n - 1) ≤ scaled s n := by
  have hcount := digitCount_pos s
  have hle : (10 : ℚ) ^ ((digitCount s : Int) - 1) ≤ s := by
    have hnat : ((digitCount s - 1 : Nat) : Int) = digitCount s - 1 := by omega
    rw [← hnat, zpow_natCast]
    exact_mod_cast pow_digitCount_le h
  calc (10 : ℚ) ^ (n - 1) = 10 ^ ((digitCount s : Int) - 1) * 10 ^ (n - digitCount s) := by
        rw [← zpow_add₀ (by norm_num : (10 : ℚ) ≠ 0)]
        congr 1
        omega
    _ ≤ scaled s n := mul_le_mul_of_nonneg_right hle (zpow_nonneg (by norm_num) _)

namespace Doubles

variable {D : Doubles} (hD : D.Lawful) {q x : ℚ} (hx : D.round q = some x) (hpos : 0 < x)
include hD hx hpos

/-- A number is not above a double if the double nearest to it is below. -/
theorem scaled_lt_of_lt {k : Nat} (hk : k ≤ 2 ^ 53) (hlt : x < k) :
    scaled (D.digits x).1 (D.digits x).2 < k := by
  by_contra hle
  obtain ⟨y, hy, hyx⟩ := hD.mono (not_lt.mp hle) (hD.digits_read hx hpos)
  rw [hD.natural k hk] at hy
  cases hy
  linarith

/-- Numbers up to `10 ^ 12` are written without a positive exponent. -/
theorem exponent_le (hle : x ≤ 10 ^ 12) : (D.digits x).2 ≤ 21 := by
  by_contra hlt
  have hhigh : 21 ≤ (D.digits x).2 - 1 := by omega
  have hsmall : scaled (D.digits x).1 (D.digits x).2 < (10 ^ 13 : Nat) :=
    scaled_lt_of_lt hD hx hpos (by norm_num) (lt_of_le_of_lt hle (by norm_num))
  have hlarge : (10 : ℚ) ^ (21 : Int) ≤ 10 ^ ((D.digits x).2 - 1) :=
    zpow_le_zpow_right₀ (by norm_num) hhigh
  have hscaled := le_scaled (D.digits x).2 (hD.digits_pos hx hpos)
  have hpower : ((10 ^ 13 : Nat) : ℚ) < 10 ^ (21 : Int) := by norm_num
  linarith

/-- A number up to `10 ^ 12` whose digits all stand before the point is an integer. -/
theorem integer_of_digits (hle : x ≤ 10 ^ 12)
    (hn : (digitCount (D.digits x).1 : Int) ≤ (D.digits x).2) : ∃ k : Nat, x = k := by
  have hsmall : scaled (D.digits x).1 (D.digits x).2 < (10 ^ 13 : Nat) :=
    scaled_lt_of_lt hD hx hpos (by norm_num) (lt_of_le_of_lt hle (by norm_num))
  obtain ⟨z, hz⟩ := Int.eq_ofNat_of_zero_le (Int.sub_nonneg.mpr hn)
  have hscaled : scaled (D.digits x).1 (D.digits x).2 = ((D.digits x).1 * 10 ^ z : Nat) := by
    rw [scaled, hz, zpow_natCast]
    push_cast
    rfl
  have hread := hD.digits_read hx hpos
  rw [hscaled] at hsmall hread
  have hbound : (D.digits x).1 * 10 ^ z ≤ 2 ^ 53 := by
    have hnat : (D.digits x).1 * 10 ^ z < 10 ^ 13 := by exact_mod_cast hsmall
    omega
  rw [hD.natural _ hbound] at hread
  exact ⟨_, (Option.some.inj hread).symm⟩

/-- A double is written in plain notation from `0.000001` on. -/
theorem exponent_iff {m : ℚ} (hm : D.round (1 / 10 ^ 6) = some m) :
    m ≤ x ↔ -6 < (D.digits x).2 := by
  have hread := hD.digits_read hx hpos
  have hmillionth : (1 : ℚ) / 10 ^ 6 = 10 ^ (-6 : Int) := by norm_num
  constructor
  · intro hle
    by_contra hlt
    have hscaled : scaled (D.digits x).1 (D.digits x).2 ≤ 1 / 10 ^ 6 := by
      rw [hmillionth]
      exact (scaled_lt _ _).le.trans (zpow_le_zpow_right₀ (by norm_num) (not_lt.mp hlt))
    obtain ⟨y, hy, hym⟩ := hD.mono hscaled hm
    rw [hread] at hy
    cases hy
    have hsame : x = m := le_antisymm hym hle
    rw [hsame, hD.digits_millionth hm] at hlt
    exact hlt (by decide)
  · intro hlt
    have hscaled : (1 : ℚ) / 10 ^ 6 ≤ scaled (D.digits x).1 (D.digits x).2 := by
      rw [hmillionth]
      exact (zpow_le_zpow_right₀ (by norm_num) (by omega)).trans
        (le_scaled _ (hD.digits_pos hx hpos))
    obtain ⟨y, hy, hyx⟩ := hD.mono hscaled hread
    rw [hm] at hy
    cases hy
    exact hyx

/-- A number in plain notation is read back as itself. -/
theorem number_plainText (hlow : -6 < (D.digits x).2) (hle : x ≤ 10 ^ 12) :
    IsNumeral (D.text (some x)) ∧ D.number (D.text (some x)) = some (some x) := by
  have htext : D.text (some x) = digitsText (D.digits x).1 (D.digits x).2 := if_neg hpos.ne'
  obtain ⟨hnumeral, hvalue⟩ := digitsText_plain (s := (D.digits x).1) hlow (exponent_le hD hx hpos hle)
  refine ⟨htext ▸ hnumeral, ?_⟩
  rw [number, htext, hvalue, Option.map_some, hD.digits_read hx hpos]

end Doubles

/-! ## Doubles with thirty decimal places -/

/-- A number without the zeros at its end, and how many there are. -/
def withoutZeros : (fuel n : Nat) → Nat × Nat
  | 0, n => (n, 0)
  | fuel + 1, n =>
      if n % 10 = 0 then ((withoutZeros fuel (n / 10)).1, (withoutZeros fuel (n / 10)).2 + 1)
      else (n, 0)

theorem withoutZeros_spec {fuel n : Nat} (hpos : 0 < n) (hfuel : n ≤ fuel) :
    (withoutZeros fuel n).1 * 10 ^ (withoutZeros fuel n).2 = n
      ∧ (withoutZeros fuel n).1 % 10 ≠ 0 := by
  induction fuel generalizing n with
  | zero => omega
  | succ fuel ih =>
      rw [withoutZeros]
      split_ifs with hzero
      · obtain ⟨hvalue, hlast⟩ := ih (n := n / 10) (by omega) (by omega)
        refine ⟨?_, hlast⟩
        rw [Nat.pow_succ, ← Nat.mul_assoc, hvalue]
        omega
      · exact ⟨by rw [Nat.pow_zero, Nat.mul_one], hzero⟩

def thirtyPlaces : Doubles where
  round q := some (⌊q * 10 ^ 30⌋ / 10 ^ 30)
  digits x :=
    let n := ⌊x * 10 ^ 30⌋.toNat
    ((withoutZeros n n).1, digitCount (withoutZeros n n).1 + (withoutZeros n n).2 - 30)

theorem thirtyPlaces_round {q x : ℚ} (h : thirtyPlaces.round q = some x) :
    (⌊x * 10 ^ 30⌋ : ℚ) = x * 10 ^ 30 := by
  have hx : (⌊q * 10 ^ 30⌋ : ℚ) / 10 ^ 30 = x := Option.some.inj h
  have hmul : x * 10 ^ 30 = (⌊q * 10 ^ 30⌋ : ℚ) := by
    rw [← hx]
    exact div_mul_cancel₀ _ (by norm_num)
  rw [hmul, Int.floor_intCast]

theorem thirtyPlaces_self {x : ℚ} (h : (⌊x * 10 ^ 30⌋ : ℚ) = x * 10 ^ 30) :
    thirtyPlaces.round x = some x := by
  change some ((⌊x * 10 ^ 30⌋ : ℚ) / 10 ^ 30) = some x
  rw [h, mul_div_cancel_right₀ _ (by norm_num)]

theorem thirtyPlaces_digits {q x : ℚ} (h : thirtyPlaces.round q = some x) (hpos : 0 < x) :
    0 < (thirtyPlaces.digits x).1 ∧ (thirtyPlaces.digits x).1 % 10 ≠ 0
      ∧ scaled (thirtyPlaces.digits x).1 (thirtyPlaces.digits x).2 = x := by
  have hfloor := thirtyPlaces_round h
  obtain ⟨n, hn⟩ : ∃ n : Nat, ⌊x * 10 ^ 30⌋ = n :=
    Int.eq_ofNat_of_zero_le (Int.floor_nonneg.mpr (by positivity))
  have hvalue : (n : ℚ) = x * 10 ^ 30 := by
    rw [← hfloor, hn, Int.cast_natCast]
  have hnpos : 0 < n := by
    have hlt : (0 : ℚ) < n := by
      rw [hvalue]
      positivity
    exact_mod_cast hlt
  obtain ⟨hproduct, hlast⟩ := withoutZeros_spec hnpos (le_refl n)
  have hdigits : thirtyPlaces.digits x
      = ((withoutZeros n n).1, (digitCount (withoutZeros n n).1 + (withoutZeros n n).2 - 30 : Int)) := by
    rw [thirtyPlaces]
    simp only [hn, Int.toNat_natCast]
  rw [hdigits]
  refine ⟨Nat.pos_of_ne_zero fun h0 => hlast (by rw [h0]), hlast, ?_⟩
  have hexponent : (digitCount (withoutZeros n n).1 + (withoutZeros n n).2 - 30 : Int)
      - digitCount (withoutZeros n n).1 = (withoutZeros n n).2 + -30 := by omega
  rw [scaled, hexponent, zpow_add₀ (by norm_num), zpow_natCast, ← mul_assoc]
  have hcast : ((withoutZeros n n).1 : ℚ) * 10 ^ (withoutZeros n n).2 = x * 10 ^ 30 := by
    rw [← hvalue]
    exact_mod_cast hproduct
  rw [hcast, mul_assoc, ← zpow_natCast, ← zpow_add₀ (by norm_num)]
  exact mul_one x

theorem thirtyPlaces_lawful : thirtyPlaces.Lawful where
  mono := by
    intro q r y hle hy
    refine ⟨_, rfl, ?_⟩
    cases hy
    have hfloor : ⌊q * 10 ^ 30⌋ ≤ ⌊r * 10 ^ 30⌋ :=
      Int.floor_le_floor (mul_le_mul_of_nonneg_right hle (by norm_num))
    exact div_le_div_of_nonneg_right (by exact_mod_cast hfloor) (by norm_num)
  round_round h := thirtyPlaces_self (thirtyPlaces_round h)
  natural k _ := by
    refine thirtyPlaces_self ?_
    have hcast : (k : ℚ) * 10 ^ 30 = ((k * 10 ^ 30 : Nat) : Int) := by
      push_cast
      rfl
    rw [hcast, Int.floor_intCast]
  digits_pos h hpos := (thirtyPlaces_digits h hpos).1
  digits_short h hpos := (thirtyPlaces_digits h hpos).2.1
  digits_read h hpos := by
    rw [(thirtyPlaces_digits h hpos).2.2]
    exact thirtyPlaces_self (thirtyPlaces_round h)
  digits_millionth := by
    intro x h
    have hx : thirtyPlaces.round (1 / 10 ^ 6) = some (1 / 10 ^ 6) := by decide +kernel
    rw [hx] at h
    cases h
    decide +kernel

end JsNumbers
