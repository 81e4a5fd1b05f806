import TrexWebui.JsNumbers

/-!
# The rate of a traffic group

The rate a user types is a number with an optional scale letter; the unit is
chosen beside it, and the value sent to the API is the number, the letter and
the suffix of the unit. The plan of port pairs stores such a value and reads it
again before it is sent.

The number in the value is printed by JavaScript and stripped of zeros at its
end. Below `0.000001` it is printed with an exponent: the plan then refuses
the value, and where the exponent ends in a zero the value is another number.
From `0.000001` on the number keeps its value and the plan accepts the value
unchanged (`rate_kept_iff`).

Lower case is taken for ASCII letters only: no other character becomes one of
the letters of a suffix.
-/

namespace TrexWebui

open PyStr PyJson DigitTexts JsNumbers

/-! ## Units -/

inductive TrafficMultiplierUnit where
  | raw
  | percentage
  | bpsL1
  | bpsL2
  | pps
  deriving DecidableEq

def trafficMultiplierSuffix : TrafficMultiplierUnit → Str
  | .raw => []
  | .percentage => text "%"
  | .bpsL1 => text "bpsl1"
  | .bpsL2 => text "bps"
  | .pps => text "pps"

/-- `toLowerCase()` of a character. -/
def lowerCase (c : Nat) : Nat := if 65 ≤ c ∧ c ≤ 90 then c + 32 else c

def multiplierUnitFactor : Option Nat → Nat
  | some 107 => 10 ^ 3
  | some 109 => 10 ^ 6
  | some 103 => 10 ^ 9
  | some 116 => 10 ^ 12
  | some 112 => 10 ^ 15
  | some 101 => 10 ^ 18
  | _ => 1

/-! ## Building -/

def isScaleLetter (c : Nat) : Bool := (text "kmgtpe").contains (lowerCase c)

/-- Digits, which a point and digits may follow, or a point and digits. -/
def isNumeral (s : Str) : Bool :=
  match s.dropWhile isDigit with
  | [] => s ≠ []
  | c :: fraction =>
      c = 46 && fraction.all isDigit && (s.takeWhile isDigit ≠ [] || fraction ≠ [])

def multiplierPattern (s : Str) : Option (Str × Option Nat) :=
  match s.getLast? with
  | none => none
  | some c =>
      if isScaleLetter c then if isNumeral s.dropLast then some (s.dropLast, some c) else none
      else if isNumeral s then some (s, none) else none

/-- `s.replace(/\.?0+$/, "")` -/
def stripZeros (s : Str) : Str :=
  let stripped := s.rdropWhile (· = 48)
  if stripped = s then s
  else if stripped.getLast? = some 46 then stripped.dropLast else stripped

/-- `Number.isInteger(x)` -/
def isInteger : Option ℚ → Bool
  | none => false
  | some x => x.den = 1

def multiplierNumberText (D : Doubles) (value : Option ℚ) : Str :=
  if isInteger value then D.text value else stripZeros (D.text value)

/-- A number times a scale; `none` is a number that is not finite. -/
def times (D : Doubles) (value : Option ℚ) (multiplier : Nat) : Option ℚ :=
  value.bind fun x => D.round (x * multiplier)

def parseMultiplierText (D : Doubles) (value : Str) (allowUnitSuffix : Bool)
    (unitSuffixError : String) : Except String (Option ℚ × Str) :=
  match multiplierPattern (jsTrim value) with
  | none =>
      .error "Traffic multiplier must be a positive number with optional K/M/G/T/P/E suffix"
  | some (number, letter) =>
      let parsed := (D.number number).join
      let unit := letter.map lowerCase
      if unit.isSome ∧ allowUnitSuffix = false then .error unitSuffixError
      else .ok (times D parsed (multiplierUnitFactor unit),
        multiplierNumberText D parsed ++ unit.toList)

def TrafficMultiplierUnit.allowsSuffix (unit : TrafficMultiplierUnit) : Bool :=
  unit ≠ .percentage && unit ≠ .raw

def buildTrafficMultiplier (D : Doubles) (unit : TrafficMultiplierUnit) (value : Str) :
    Except String Str := do
  let (number, numberText) ← parseMultiplierText D value unit.allowsSuffix
    (if unit = .percentage then "Traffic percentage must not use K/M/G/T/P/E suffix"
      else "Raw traffic multiplier must not use K/M/G/T/P/E suffix")
  match number with
  | none => .error "Traffic multiplier must be greater than 0"
  | some x =>
      if x ≤ 0 then .error "Traffic multiplier must be greater than 0"
      else if unit = .percentage ∧ 100 < x then
        .error "Traffic percentage must be between 0 and 100"
      else if 10 ^ 12 < x then .error "Traffic multiplier is too large"
      else .ok (numberText ++ trafficMultiplierSuffix unit)

/-! ## Reading a stored value -/

def trafficMultiplierSuffixes : List TrafficMultiplierUnit := [.bpsL1, .bpsL2, .pps, .percentage]

def suffixUnit (s : Str) : Option TrafficMultiplierUnit :=
  trafficMultiplierSuffixes.find? fun unit => trafficMultiplierSuffix unit <:+ s.map lowerCase

def normalizeTrafficPlanMultiplier (D : Doubles) (value : Str) : Except String Str :=
  let trimmed := jsTrim value
  if trimmed = [] then .error "multiplier / rate is required"
  else
    match suffixUnit trimmed with
    | none => buildTrafficMultiplier D .raw trimmed
    | some unit =>
        buildTrafficMultiplier D unit
          (trimmed.take (trimmed.length - (trafficMultiplierSuffix unit).length))

/-! ## What is promised -/

/-- The value is a number, the scale letter of the text and the suffix of the unit; the number is
the same double as the number in the text, and the value is stored unchanged. -/
def RateKept (D : Doubles) (unit : TrafficMultiplierUnit) (text value : Str) : Prop :=
  ∃ number letter numberText, multiplierPattern (jsTrim text) = some (number, letter)
    ∧ value = numberText ++ (letter.map lowerCase).toList ++ trafficMultiplierSuffix unit
    ∧ D.number numberText = D.number number
    ∧ normalizeTrafficPlanMultiplier D value = .ok value

/-- The number in the text is not below `0.000001`, as doubles. -/
def NotBelowMillionth (D : Doubles) (text : Str) : Prop :=
  ∃ number letter x m, multiplierPattern (jsTrim text) = some (number, letter)
    ∧ D.number number = some (some x) ∧ D.round (1 / 10 ^ 6) = some m ∧ m ≤ x

/-! ## Texts of numbers -/

theorem isNumeral_iff (s : Str) : isNumeral s = true ↔ IsNumeral s := by
  constructor
  · intro h
    have hwhole : ∀ c ∈ s.takeWhile isDigit, isDigit c = true :=
      fun c hc => List.mem_takeWhile_imp hc
    have hsplit : s.takeWhile isDigit ++ s.dropWhile isDigit = s := List.takeWhile_append_dropWhile
    rw [isNumeral] at h
    generalize s.takeWhile isDigit = whole at h hwhole hsplit
    split at h
    · rename_i hdrop
      rw [hdrop, List.append_nil] at hsplit
      subst hsplit
      refine ⟨whole, [], hwhole, List.forall_mem_nil _, ?_, Or.inl ⟨rfl, rfl⟩⟩
      rw [List.append_nil]
      simpa using h
    · rename_i c fraction hdrop
      simp only [Bool.and_eq_true, Bool.or_eq_true, decide_eq_true_eq] at h
      obtain ⟨⟨rfl, hfraction⟩, hne⟩ := h
      rw [hdrop] at hsplit
      refine ⟨whole, fraction, hwhole, List.all_eq_true.mp hfraction, ?_, Or.inr hsplit.symm⟩
      rcases hne with hne | hne
      · exact List.append_ne_nil_of_left_ne_nil hne _
      · exact List.append_ne_nil_of_right_ne_nil _ hne
  · rintro ⟨whole, fraction, hwhole, hfraction, hne, ⟨rfl, rfl⟩ | rfl⟩
    · have hdrop : s.dropWhile isDigit = [] := List.dropWhile_eq_nil_iff.mpr hwhole
      rw [List.append_nil] at hne
      rw [isNumeral, hdrop]
      simpa using hne
    · have htake : (whole ++ 46 :: fraction).takeWhile isDigit = whole :=
        takeWhile_digits hwhole (EndsDigits.cons rfl _)
      have hdrop : (whole ++ 46 :: fraction).dropWhile isDigit = 46 :: fraction := by
        rw [List.dropWhile_append_of_pos hwhole]
        rfl
      have hparts : whole ≠ [] ∨ fraction ≠ [] := by
        by_contra hnone
        rw [not_or, not_not, not_not] at hnone
        rw [hnone.1, hnone.2] at hne
        exact hne rfl
      rw [isNumeral, hdrop, htake]
      simp only [Bool.and_eq_true, Bool.or_eq_true, decide_eq_true_eq]
      exact ⟨⟨trivial, List.all_eq_true.mpr hfraction⟩, hparts⟩

theorem range_of_numeral {s : Str} (h : IsNumeral s) {c : Nat} (hc : c ∈ s) :
    c = 46 ∨ 48 ≤ c ∧ c ≤ 57 := by
  have hrange : ∀ {c : Nat}, isDigit c = true → 48 ≤ c ∧ c ≤ 57 := by
    intro c hdigit
    simpa [isDigit] using hdigit
  obtain ⟨whole, fraction, hwhole, hfraction, -, ⟨rfl, -⟩ | rfl⟩ := h
  · exact Or.inr (hrange (hwhole c hc))
  · rcases List.mem_append.mp hc with hc | hc
    · exact Or.inr (hrange (hwhole c hc))
    · rcases List.mem_cons.mp hc with rfl | hc
      · exact Or.inl rfl
      · exact Or.inr (hrange (hfraction c hc))

theorem numeral_ne_nil {s : Str} (h : IsNumeral s) : s ≠ [] := by
  obtain ⟨whole, fraction, -, -, hne, ⟨rfl, rfl⟩ | rfl⟩ := h
  · simpa using hne
  · exact List.append_ne_nil_of_right_ne_nil _ (List.cons_ne_nil _ _)

theorem range_of_scaleLetter {c : Nat} (h : isScaleLetter c = true) :
    65 ≤ c ∧ c ≤ 90 ∨ 97 ≤ c ∧ c ≤ 122 := by
  rw [isScaleLetter, List.contains_iff_mem] at h
  have hrange : ∀ d ∈ text "kmgtpe", 97 ≤ d ∧ d ≤ 122 := by decide
  have hlower := hrange _ h
  rw [lowerCase] at hlower
  split_ifs at hlower <;> omega

theorem lowerCase_idem (c : Nat) : lowerCase (lowerCase c) = lowerCase c := by
  simp only [lowerCase]
  split_ifs <;> omega

theorem isScaleLetter_lowerCase {c : Nat} (h : isScaleLetter c = true) :
    isScaleLetter (lowerCase c) = true := by
  rw [isScaleLetter, lowerCase_idem]
  exact h

/-- What the pattern finds is a numeral and a scale letter, which together are the text. -/
theorem multiplierPattern_eq_some_iff {s number : Str} {letter : Option Nat} :
    multiplierPattern s = some (number, letter) ↔
      IsNumeral number ∧ (∀ c ∈ letter, isScaleLetter c = true) ∧ s = number ++ letter.toList := by
  constructor
  · intro h
    rw [multiplierPattern] at h
    split at h
    · cases h
    · rename_i c hlast
      obtain ⟨front, rfl⟩ := List.getLast?_eq_some_iff.mp hlast
      rw [List.dropLast_concat] at h
      split_ifs at h with hletter hnumeral hnumeral
      · cases h
        refine ⟨(isNumeral_iff _).mp hnumeral, ?_, rfl⟩
        rintro d hd
        cases hd
        exact hletter
      · cases h
        exact ⟨(isNumeral_iff _).mp hnumeral, (fun d hd => by cases hd), (List.append_nil _).symm⟩
  · rintro ⟨hnumeral, hletter, rfl⟩
    have hbool := (isNumeral_iff number).mpr hnumeral
    cases letter with
    | some c =>
        rw [Option.toList_some, multiplierPattern, List.getLast?_concat]
        simp only [List.dropLast_concat, hletter c rfl, hbool, if_true]
    | none =>
        obtain ⟨front, c, rfl⟩ := (List.eq_nil_or_concat' number).resolve_left (numeral_ne_nil hnumeral)
        have hno : isScaleLetter c = false := by
          by_contra hyes
          have hrange := range_of_scaleLetter (Bool.eq_true_of_not_eq_false hyes)
          have hdigit := range_of_numeral hnumeral (List.mem_append_right front List.mem_cons_self)
          omega
        rw [Option.toList_none, List.append_nil, multiplierPattern, List.getLast?_concat]
        simp only [hno, hbool, if_true, Bool.false_eq_true, if_false]

theorem multiplierPattern_minus {s : Str} (h : 45 ∈ s) : multiplierPattern (jsTrim s) = none := by
  have hmem : 45 ∈ jsTrim s := mem_jsTrim h (by decide)
  cases hpattern : multiplierPattern (jsTrim s) with
  | none => rfl
  | some found =>
      obtain ⟨hnumeral, hletter, hsplit⟩ := multiplierPattern_eq_some_iff.mp hpattern
      rw [hsplit] at hmem
      rcases List.mem_append.mp hmem with hmem | hmem
      · have hrange := range_of_numeral hnumeral hmem
        omega
      · have hrange := range_of_scaleLetter (hletter 45 (Option.mem_toList.mp hmem))
        omega

/-! ## Accepted rates -/

/-- A rate that is accepted: the text is a number and a letter where the unit takes one, and the
number scaled is `y`. -/
structure AcceptedRate (D : Doubles) (unit : TrafficMultiplierUnit) (value number : Str)
    (letter : Option Nat) (y : ℚ) : Prop where
  pattern : multiplierPattern (jsTrim value) = some (number, letter)
  allowed : letter.isSome = true → unit.allowsSuffix = true
  scaled : times D (D.number number).join (multiplierUnitFactor (letter.map lowerCase)) = some y
  pos : 0 < y
  percentage : unit = .percentage → y ≤ 100
  le : y ≤ 10 ^ 12

def multiplierValue (D : Doubles) (unit : TrafficMultiplierUnit) (number : Str)
    (letter : Option Nat) : Str :=
  multiplierNumberText D (D.number number).join ++ (letter.map lowerCase).toList
    ++ trafficMultiplierSuffix unit

section

variable {D : Doubles} {unit : TrafficMultiplierUnit} {value number : Str} {letter : Option Nat}
  {x y : ℚ}

theorem buildTrafficMultiplier_eq_ok_iff {result : Str} :
    buildTrafficMultiplier D unit value = .ok result ↔
      ∃ number letter y, AcceptedRate D unit value number letter y
        ∧ result = multiplierValue D unit number letter := by
  rw [buildTrafficMultiplier, parseMultiplierText]
  constructor
  · intro h
    cases hpattern : multiplierPattern (jsTrim value) with
    | none =>
        rw [hpattern] at h
        cases h
    | some found =>
        obtain ⟨number, letter⟩ := found
        rw [hpattern] at h
        by_cases hrefused : (letter.map lowerCase).isSome ∧ unit.allowsSuffix = false
        · simp only [if_pos hrefused] at h
          cases h
        · simp only [if_neg hrefused] at h
          change (match times D (D.number number).join _ with | none => _ | some x => _) = _ at h
          split at h
          · cases h
          · rename_i y hscaled
            split_ifs at h with hpos hpercentage hlarge
            cases h
            refine ⟨number, letter, y, ⟨hpattern, ?_, hscaled, not_le.mp hpos, ?_,
              not_lt.mp hlarge⟩, rfl⟩
            · intro hsome
              rw [Option.isSome_map] at hrefused
              exact Bool.eq_true_of_not_eq_false fun hno => hrefused ⟨hsome, hno⟩
            · intro hunit
              exact not_lt.mp fun hlt => hpercentage ⟨hunit, hlt⟩
  · rintro ⟨number, letter, y, haccepted, rfl⟩
    have hrefused : ¬((letter.map lowerCase).isSome ∧ unit.allowsSuffix = false) := by
      rintro ⟨hsome, hno⟩
      rw [Option.isSome_map] at hsome
      rw [haccepted.allowed hsome] at hno
      cases hno
    have hpercentage : ¬(unit = .percentage ∧ 100 < y) :=
      fun h => not_lt.mpr (haccepted.percentage h.1) h.2
    rw [haccepted.pattern]
    simp only [if_neg hrefused]
    change (match times D (D.number number).join _ with | none => _ | some x => _) = _
    rw [haccepted.scaled]
    simp only [if_neg (not_le.mpr haccepted.pos), if_neg hpercentage,
      if_neg (not_lt.mpr haccepted.le)]
    rfl

theorem buildTrafficMultiplier_minus (h : 45 ∈ value) (result : Str) :
    buildTrafficMultiplier D unit value ≠ .ok result := by
  intro hok
  obtain ⟨number, letter, y, haccepted, -⟩ := buildTrafficMultiplier_eq_ok_iff.mp hok
  have hpattern := haccepted.pattern
  rw [multiplierPattern_minus h] at hpattern
  cases hpattern

theorem one_le_multiplierUnitFactor (letter : Option Nat) : 1 ≤ multiplierUnitFactor letter := by
  rw [multiplierUnitFactor.eq_def]
  split <;> norm_num

theorem decimalValue_nonneg {s : Str} {q : ℚ} (h : decimalValue s = some q) : 0 ≤ q := by
  rw [decimalValue] at h
  simp only at h
  split_ifs at h
  obtain ⟨e, -, rfl⟩ := Option.map_eq_some_iff.mp h
  exact mul_nonneg (Nat.cast_nonneg _) (zpow_nonneg (by norm_num) _)

/-- The number of an accepted text is a positive double of at most `10 ^ 12`. -/
theorem AcceptedRate.number_range (hD : D.Lawful) (h : AcceptedRate D unit value number letter y) :
    ∃ q x, decimalValue number = some q ∧ D.round q = some x ∧ 0 < x ∧ x ≤ 10 ^ 12 := by
  have hscaled := h.scaled
  rw [times, Option.bind_eq_some_iff] at hscaled
  obtain ⟨x, hx, hround⟩ := hscaled
  obtain ⟨q, hq, hqx⟩ := Option.map_eq_some_iff.mp (Option.join_eq_some_iff.mp hx)
  have hnonneg : 0 ≤ x := by
    obtain ⟨z, hz, hle⟩ := hD.mono (decimalValue_nonneg hq) hqx
    have hzero := hD.natural 0 (by norm_num)
    rw [Nat.cast_zero, hz] at hzero
    cases hzero
    exact hle
  have hpos : 0 < x := by
    refine lt_of_le_of_ne hnonneg fun hzero => ?_
    have hnone := hD.natural 0 (by norm_num)
    rw [← hzero, zero_mul, ← Nat.cast_zero, hnone] at hround
    cases hround
    exact absurd h.pos (by norm_num)
  have hfactor : (1 : ℚ) ≤ multiplierUnitFactor (letter.map lowerCase) := by
    exact_mod_cast one_le_multiplierUnitFactor _
  obtain ⟨z, hz, hle⟩ := hD.mono (le_mul_of_one_le_right hnonneg hfactor) hround
  rw [hD.round_round hqx] at hz
  cases hz
  exact ⟨q, x, hq, hqx, hpos, hle.trans h.le⟩

/-! ## The text of a number -/

theorem stripZeros_of_last {rest : Str} {last : Nat} (h : last ≠ 48) :
    stripZeros (rest ++ [last]) = rest ++ [last] := by
  have hself : (rest ++ [last]).rdropWhile (· = 48) = rest ++ [last] :=
    List.rdropWhile_concat_neg _ _ _ (by simpa using h)
  rw [stripZeros, if_pos hself]

theorem mem_stripZeros {s : Str} {c : Nat} (h : c ∈ s) (hzero : c ≠ 48) (hpoint : c ≠ 46) :
    c ∈ stripZeros s := by
  have hmem : c ∈ s.rdropWhile (· = 48) := mem_rdropWhile_of_not h (by simpa using hzero)
  rw [stripZeros]
  split_ifs with hself hlast
  · exact h
  · obtain ⟨front, hfront⟩ := List.getLast?_eq_some_iff.mp hlast
    rw [hfront] at hmem ⊢
    rw [List.dropLast_concat]
    rcases List.mem_append.mp hmem with hmem | hmem
    · exact hmem
    · exact absurd (List.mem_singleton.mp hmem) hpoint
  · exact hmem

theorem multiplierNumberText_plain (hD : D.Lawful) {q : ℚ} (hx : D.round q = some x) (hpos : 0 < x)
    (hle : x ≤ 10 ^ 12) (hlow : -6 < (D.digits x).2) :
    multiplierNumberText D (some x) = D.text (some x) := by
  rw [multiplierNumberText]
  split_ifs with hinteger
  · rfl
  · have hpoint : (D.digits x).2 < digitCount (D.digits x).1 := by
      by_contra hall
      obtain ⟨k, rfl⟩ := Doubles.integer_of_digits hD hx hpos hle (not_lt.mp hall)
      exact hinteger (by simp [isInteger])
    have htext : D.text (some x) = digitsText (D.digits x).1 (D.digits x).2 := if_neg hpos.ne'
    obtain ⟨rest, last, hlast, hne⟩ := digitsText_last hlow (Doubles.exponent_le hD hx hpos hle)
      hpoint (hD.digits_short hx hpos)
    rw [htext, hlast]
    exact stripZeros_of_last hne

theorem minus_mem_multiplierNumberText (hD : D.Lawful) {m : ℚ} (hpos : 0 < x)
    (hm : D.round (1 / 10 ^ 6) = some m) (hlt : x < m) (hlow : (D.digits x).2 ≤ -6) :
    45 ∈ multiplierNumberText D (some x) := by
  have hone : m ≤ 1 := by
    have hle : (1 : ℚ) / 10 ^ 6 ≤ (1 : Nat) := by norm_num
    obtain ⟨y, hy, hle⟩ := hD.mono hle (hD.natural 1 (by norm_num))
    rw [hm] at hy
    cases hy
    exact hle.trans (by norm_num)
  have hinteger : isInteger (some x) = false := by
    rw [isInteger, decide_eq_false_iff_not]
    intro hden
    have hnum : (x.num : ℚ) = x := Rat.den_eq_one_iff x |>.mp hden
    have hlow : (0 : ℚ) < x.num := hnum ▸ hpos
    have hhigh : (x.num : ℚ) < 1 := hnum ▸ hlt.trans_le hone
    have hlow : 0 < x.num := by exact_mod_cast hlow
    have hhigh : x.num < 1 := by exact_mod_cast hhigh
    omega
  have htext : D.text (some x) = digitsText (D.digits x).1 (D.digits x).2 := if_neg hpos.ne'
  obtain ⟨mantissa, hminus⟩ := minus_mem_digitsText (s := (D.digits x).1) hlow
  rw [multiplierNumberText, hinteger, if_neg Bool.false_ne_true, htext, hminus]
  exact mem_stripZeros (List.mem_append_right _ (by simp)) (by decide) (by decide)

/-! ## Reading a value again -/

/-- A number and a scale letter in lower case. -/
structure IsRateText (number : Str) (letter : Option Nat) : Prop where
  numeral : IsNumeral number
  letter : ∀ c ∈ letter, isScaleLetter c = true ∧ lowerCase c = c

theorem IsRateText.range (h : IsRateText number letter) {c : Nat}
    (hc : c ∈ number ++ letter.toList) : c = 46 ∨ 48 ≤ c ∧ c ≤ 57 ∨ 97 ≤ c ∧ c ≤ 122 := by
  rcases List.mem_append.mp hc with hc | hc
  · have hrange := range_of_numeral h.numeral hc
    omega
  · obtain ⟨hletter, hlower⟩ := h.letter c (Option.mem_toList.mp hc)
    have hrange := range_of_scaleLetter hletter
    rw [lowerCase] at hlower
    split_ifs at hlower <;> omega

theorem not_isJsSpace {c : Nat} (h : c = 37 ∨ c = 46 ∨ 48 ≤ c ∧ c ≤ 57 ∨ 97 ≤ c ∧ c ≤ 122) :
    ¬IsJsSpace c := by
  rintro (hmem | hrange)
  · simp only [List.mem_cons, List.not_mem_nil, or_false] at hmem
    omega
  · omega

theorem suffix_range : ∀ c ∈ trafficMultiplierSuffix unit,
    c = 37 ∨ c = 46 ∨ 48 ≤ c ∧ c ≤ 57 ∨ 97 ≤ c ∧ c ≤ 122 := by
  cases unit <;> decide

theorem IsRateText.pattern (h : IsRateText number letter) :
    multiplierPattern (jsTrim (number ++ letter.toList)) = some (number, letter) := by
  rw [jsTrim_of_no_spaces fun c hc => not_isJsSpace (Or.inr (h.range hc))]
  exact multiplierPattern_eq_some_iff.mpr
    ⟨h.numeral, fun c hc => (h.letter c hc).1, rfl⟩

theorem suffixUnit_value (h : IsRateText number letter)
    (hletter : letter.isSome = true → unit.allowsSuffix = true) :
    suffixUnit (number ++ letter.toList ++ trafficMultiplierSuffix unit)
      = if unit = .raw then none else some unit := by
  have hlower : (number ++ letter.toList ++ trafficMultiplierSuffix unit).map lowerCase
      = number ++ letter.toList ++ trafficMultiplierSuffix unit := by
    refine (List.map_congr_left fun c hc => ?_).trans (List.map_id _)
    have hrange : c = 37 ∨ c = 46 ∨ 48 ≤ c ∧ c ≤ 57 ∨ 97 ≤ c ∧ c ≤ 122 := by
      rcases List.mem_append.mp hc with hc | hc
      · exact Or.inr (h.range hc)
      · exact suffix_range c hc
    rw [lowerCase, if_neg (by omega)]
    rfl
  -- The units without a scale letter: the value has no `p`, as the other suffixes have.
  have hdigits : letter = none → ∀ c ∈ number ++ letter.toList, c = 46 ∨ 48 ≤ c ∧ c ≤ 57 := by
    rintro rfl c hc
    rw [Option.toList_none, List.append_nil] at hc
    exact range_of_numeral h.numeral hc
  have hnone : unit.allowsSuffix = false → letter = none := by
    intro hunit
    cases letter with
    | none => rfl
    | some c =>
        rw [hletter rfl] at hunit
        cases hunit
  rw [suffixUnit, hlower]
  generalize number ++ letter.toList = front at hdigits
  have hother : ∀ {suffix tail : Str} {c : Nat},
      (∀ c ∈ front ++ tail, c = 37 ∨ c = 46 ∨ 48 ≤ c ∧ c ≤ 57) → c ∈ suffix → c = 112 →
        ¬ suffix <:+ front ++ tail := by
    rintro suffix tail c hrange hmem rfl hsuffix
    have hp := hrange 112 (hsuffix.subset hmem)
    omega
  have hlonger : ∀ {suffix tail : Str}, tail.length ≤ suffix.length → ¬ tail <:+ suffix →
      ¬ suffix <:+ front ++ tail := fun hlength hno hsuffix =>
    hno (List.suffix_of_suffix_length_le (List.suffix_append front _) hsuffix hlength)
  have hself : ∀ tail : Str, tail <:+ front ++ tail := List.suffix_append front
  rw [trafficMultiplierSuffixes]
  cases unit with
  | raw =>
      have hrange : ∀ c ∈ front ++ trafficMultiplierSuffix .raw, c = 37 ∨ c = 46 ∨ 48 ≤ c ∧ c ≤ 57 := by
        intro c hc
        rw [trafficMultiplierSuffix, List.append_nil] at hc
        exact Or.inr (hdigits (hnone rfl) c hc)
      have hpercent : ¬ trafficMultiplierSuffix .percentage <:+ front ++ trafficMultiplierSuffix .raw := by
        intro hsuffix
        have hmem := hsuffix.subset (List.mem_singleton.mpr rfl : 37 ∈ [37])
        rw [trafficMultiplierSuffix, List.append_nil] at hmem
        have hp := hdigits (hnone rfl) 37 hmem
        omega
      rw [if_pos rfl, List.find?_eq_none]
      intro u hu
      rw [decide_eq_true_eq]
      cases u with
      | raw => exact absurd hu (by decide)
      | percentage => exact hpercent
      | bpsL1 => exact hother (c := 112) hrange (by decide) rfl
      | bpsL2 => exact hother (c := 112) hrange (by decide) rfl
      | pps => exact hother (c := 112) hrange (by decide) rfl
  | percentage =>
      have hrange : ∀ c ∈ front ++ trafficMultiplierSuffix .percentage,
          c = 37 ∨ c = 46 ∨ 48 ≤ c ∧ c ≤ 57 := by
        intro c hc
        rcases List.mem_append.mp hc with hc | hc
        · exact Or.inr (hdigits (hnone rfl) c hc)
        · exact Or.inl (List.mem_singleton.mp hc)
      have hpair : ∀ {u : TrafficMultiplierUnit}, 112 ∈ trafficMultiplierSuffix u →
          ¬ trafficMultiplierSuffix u <:+ front ++ trafficMultiplierSuffix .percentage :=
        fun hmem => hother hrange hmem rfl
      rw [if_neg (by decide)]
      simp [hpair (u := .bpsL1) (by decide), hpair (u := .bpsL2) (by decide),
        hpair (u := .pps) (by decide), hself]
  | bpsL1 => simp [hself]
  | bpsL2 =>
      have hfirst : ¬ trafficMultiplierSuffix .bpsL1 <:+ front ++ trafficMultiplierSuffix .bpsL2 :=
        hlonger (by decide) (by decide)
      simp [hfirst, hself]
  | pps =>
      have hfirst : ¬ trafficMultiplierSuffix .bpsL1 <:+ front ++ trafficMultiplierSuffix .pps :=
        hlonger (by decide) (by decide)
      have hsecond : ¬ trafficMultiplierSuffix .bpsL2 <:+ front ++ trafficMultiplierSuffix .pps :=
        hlonger (by decide) (by decide)
      simp [hfirst, hsecond, hself]

theorem normalizeTrafficPlanMultiplier_value (h : IsRateText number letter)
    (hletter : letter.isSome = true → unit.allowsSuffix = true) :
    normalizeTrafficPlanMultiplier D (number ++ letter.toList ++ trafficMultiplierSuffix unit)
      = buildTrafficMultiplier D unit (number ++ letter.toList) := by
  have hspaces : ∀ c ∈ number ++ letter.toList ++ trafficMultiplierSuffix unit, ¬IsJsSpace c := by
    intro c hc
    rcases List.mem_append.mp hc with hc | hc
    · exact not_isJsSpace (Or.inr (h.range hc))
    · exact not_isJsSpace (suffix_range c hc)
  have hne : number ++ letter.toList ++ trafficMultiplierSuffix unit ≠ [] :=
    List.append_ne_nil_of_left_ne_nil
      (List.append_ne_nil_of_left_ne_nil (numeral_ne_nil h.numeral) _) _
  rw [normalizeTrafficPlanMultiplier, jsTrim_of_no_spaces hspaces]
  simp only [if_neg hne, suffixUnit_value h hletter]
  by_cases hunit : unit = .raw
  · subst hunit
    rw [if_pos rfl, trafficMultiplierSuffix, List.append_nil]
  · have hlength : (number ++ letter.toList ++ trafficMultiplierSuffix unit).length
        - (trafficMultiplierSuffix unit).length = (number ++ letter.toList).length := by
      rw [List.length_append, Nat.add_sub_cancel]
    rw [if_neg hunit]
    simp only [hlength]
    rw [List.take_left]

theorem normalizeTrafficPlanMultiplier_minus (h : 45 ∈ value) (result : Str) :
    normalizeTrafficPlanMultiplier D value ≠ .ok result := by
  have hmem : 45 ∈ jsTrim value := mem_jsTrim h (by decide)
  rw [normalizeTrafficPlanMultiplier]
  generalize jsTrim value = trimmed at hmem
  have hne : trimmed ≠ [] := List.ne_nil_of_mem hmem
  simp only [if_neg hne]
  split
  · exact buildTrafficMultiplier_minus hmem result
  · rename_i u hu
    -- What is cut off is the suffix in some case, which has no minus sign.
    obtain ⟨front, hfront⟩ : trafficMultiplierSuffix u <:+ trimmed.map lowerCase := by
      rw [suffixUnit] at hu
      simpa using List.find?_some hu
    have hlength : trimmed.length - (trafficMultiplierSuffix u).length = front.length := by
      rw [← List.length_map lowerCase, ← hfront, List.length_append, Nat.add_sub_cancel]
    refine buildTrafficMultiplier_minus ?_ result
    rw [hlength]
    rw [← List.take_append_drop front.length trimmed] at hmem
    rcases List.mem_append.mp hmem with hmem | hmem
    · exact hmem
    · have hcut : (trimmed.drop front.length).map lowerCase = trafficMultiplierSuffix u := by
        rw [List.map_drop, ← hfront, List.drop_left]
      have hsuffix : 45 ∈ trafficMultiplierSuffix u := by
        rw [← hcut]
        exact List.mem_map_of_mem hmem
      have hrange := suffix_range 45 hsuffix
      omega

end

/-! ## A rate keeps its value -/

/-- The number of a rate text keeps its value, and the plan the value, exactly if the number is not
below `0.000001`. -/
theorem rate_kept_iff {D : Doubles} (hD : D.Lawful) {unit : TrafficMultiplierUnit}
    {text value : Str} (h : buildTrafficMultiplier D unit text = .ok value) :
    RateKept D unit text value ↔ NotBelowMillionth D text := by
  obtain ⟨number, letter, y, haccepted, rfl⟩ := buildTrafficMultiplier_eq_ok_iff.mp h
  obtain ⟨q, x, hq, hx, hpos, hle⟩ := haccepted.number_range hD
  have hnumber : D.number number = some (some x) := by
    rw [Doubles.number, hq, Option.map_some, hx]
  have hmillionth : ∃ m, D.round (1 / 10 ^ 6) = some m := by
    have hle : (1 : ℚ) / 10 ^ 6 ≤ (1 : Nat) := by norm_num
    obtain ⟨m, hm, -⟩ := hD.mono hle (hD.natural 1 (by norm_num))
    exact ⟨m, hm⟩
  obtain ⟨m, hm⟩ := hmillionth
  have hexponent := Doubles.exponent_iff hD hx hpos hm
  have hvalue : multiplierValue D unit number letter = multiplierNumberText D (some x)
      ++ (letter.map lowerCase).toList ++ trafficMultiplierSuffix unit := by
    rw [multiplierValue, hnumber]
    rfl
  constructor
  · rintro ⟨-, -, -, -, -, -, hnormalize⟩
    refine ⟨number, letter, x, m, haccepted.pattern, hnumber, hm, ?_⟩
    by_contra hlt
    have hlow : (D.digits x).2 ≤ -6 := not_lt.mp fun hlow => hlt (hexponent.mpr hlow)
    have hminus := minus_mem_multiplierNumberText hD hpos hm (not_le.mp hlt) hlow
    refine normalizeTrafficPlanMultiplier_minus ?_ _ hnormalize
    rw [hvalue]
    exact List.mem_append_left _ (List.mem_append_left _ hminus)
  · rintro ⟨number', letter', x', m', hpattern, hnumber', hm', hmx⟩
    rw [haccepted.pattern] at hpattern
    cases hpattern
    rw [hnumber] at hnumber'
    cases hnumber'
    rw [hm] at hm'
    cases hm'
    have hlow := hexponent.mp hmx
    obtain ⟨hnumeral, hread⟩ := Doubles.number_plainText hD hx hpos hlow hle
    have htext := multiplierNumberText_plain hD hx hpos hle hlow
    have hrate : IsRateText (D.text (some x)) (letter.map lowerCase) := by
      refine ⟨hnumeral, fun c hc => ?_⟩
      obtain ⟨d, hd, rfl⟩ := Option.map_eq_some_iff.mp hc
      obtain ⟨-, hletter, -⟩ := multiplierPattern_eq_some_iff.mp haccepted.pattern
      exact ⟨isScaleLetter_lowerCase (hletter d hd), lowerCase_idem d⟩
    have hallowed : (letter.map lowerCase).isSome = true → unit.allowsSuffix = true := by
      rw [Option.isSome_map]
      exact haccepted.allowed
    have hlower : (letter.map lowerCase).map lowerCase = letter.map lowerCase := by
      cases letter with
      | none => rfl
      | some c => exact congrArg some (lowerCase_idem c)
    refine ⟨number, letter, D.text (some x), haccepted.pattern, ?_, hread.trans hnumber.symm, ?_⟩
    · rw [hvalue, htext]
    · rw [hvalue, htext, normalizeTrafficPlanMultiplier_value hrate hallowed]
      refine buildTrafficMultiplier_eq_ok_iff.mpr
        ⟨D.text (some x), letter.map lowerCase, y, ⟨hrate.pattern, hallowed, ?_, haccepted.pos,
          haccepted.percentage, haccepted.le⟩, ?_⟩
      · rw [hread, hlower, ← hnumber]
        exact haccepted.scaled
      · rw [multiplierValue, hread, hlower]
        change _ = multiplierNumberText D (some x) ++ _ ++ _
        rw [htext]

theorem rate_kept_iff_half : buildTrafficMultiplier thirtyPlaces .pps (text "1.50M")
      = .ok (text "1.5mpps")
    ∧ (RateKept thirtyPlaces .pps (text "1.50M") (text "1.5mpps")
      ↔ NotBelowMillionth thirtyPlaces (text "1.50M")) := by
  have hbuild : buildTrafficMultiplier thirtyPlaces .pps (text "1.50M") = .ok (text "1.5mpps") := by
    decide +kernel
  exact ⟨hbuild, rate_kept_iff thirtyPlaces_lawful hbuild⟩

/-- A rate of ten to the minus ten is stored as a rate of a tenth, which the plan refuses. -/
theorem rate_not_kept :
    ¬ ∀ (D : Doubles), D.Lawful → ∀ (unit : TrafficMultiplierUnit) (text value : Str),
      buildTrafficMultiplier D unit text = .ok value → RateKept D unit text value := by
  intro h
  have hbuild : buildTrafficMultiplier thirtyPlaces .pps (text "0.0000000001")
      = .ok (text "1e-1pps") := by
    decide +kernel
  obtain ⟨-, -, -, -, -, -, hnormalize⟩ :=
    h thirtyPlaces thirtyPlaces_lawful .pps (text "0.0000000001") (text "1e-1pps") hbuild
  have hrefused : normalizeTrafficPlanMultiplier thirtyPlaces (text "1e-1pps") = .error
      "Traffic multiplier must be a positive number with optional K/M/G/T/P/E suffix" := by
    decide +kernel
  rw [hrefused] at hnormalize
  cases hnormalize

end TrexWebui
