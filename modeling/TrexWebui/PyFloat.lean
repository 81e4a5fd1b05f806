import Mathlib.Data.Nat.Log
import TrexWebui.JsonTexts

/-!
# Python floats

A Python `float` is a binary64 number, which is Lean's `Float`. What the
language adds is here: `repr`, the shortest decimal text that is read back as
the number, in positional notation from `1e-4` on and below `1e16`, the text
that `json.dumps` writes for it, and the few functions of the standard library
that the program applies to counters.
-/

namespace PyFloat

open PyText

/-! ## The shortest text -/

/-- A positive number as a fraction. -/
structure Fraction where
  num : Nat
  den : Nat

def magnitude? (x : Float) : Option Fraction :=
  match x.toModel.unpack with
  | .finite _ mantissa exponent _ =>
    some ⟨mantissa * 2 ^ exponent.toNat, 2 ^ (-exponent).toNat⟩
  | _ => none

namespace Fraction

/-- The number of digits before the point; not positive below a tenth. -/
def point (v : Fraction) : Int :=
  if v.den ≤ v.num then Nat.log 10 (v.num / v.den) + 1
  else 1 - Nat.clog 10 ((v.den + v.num - 1) / v.num)

/-- `v * 10 ^ scale`. -/
def scaled (v : Fraction) (scale : Int) : Fraction :=
  ⟨v.num * 10 ^ scale.toNat, v.den * 10 ^ (-scale).toNat⟩

/-- The two integers next to a number, the nearer one first; the even one of a tie. -/
def nearest (v : Fraction) : List Nat :=
  let below := v.num / v.den
  let rest := 2 * (v.num % v.den)
  if rest < v.den ∨ rest = v.den ∧ below % 2 = 0 then [below, below + 1] else [below + 1, below]

end Fraction

/-- A decimal number `digits * 10 ^ (-scale)`. -/
structure Digits where
  digits : Nat
  scale : Int

namespace Digits

/-- `float(text)` for the text of a decimal number. -/
def toFloat (d : Digits) : Float := Float.ofScientific d.digits (0 ≤ d.scale) d.scale.natAbs

def strip : (fuel : Nat) → Digits → Digits
  | 0, d => d
  | fuel + 1, d =>
    if d.digits ≠ 0 ∧ d.digits % 10 = 0 then strip fuel ⟨d.digits / 10, d.scale - 1⟩ else d

/-- The shortest decimal number that is read back as `x`, whose magnitude is `v`. -/
def shortest (x : Float) (v : Fraction) : Digits :=
  let candidates := (List.range 17).flatMap fun count =>
    let scale : Int := count + 1 - v.point
    (v.scaled scale).nearest.map fun digits => (⟨digits, scale⟩ : Digits)
  strip 400 ((candidates.find? fun d => d.toFloat == x.abs).getD ⟨0, 0⟩)

def exponentText (exponent : Int) : String :=
  (if exponent < 0 then "-" else "+") ++ (if exponent.natAbs < 10 then "0" else "")
    ++ toString exponent.natAbs

/-- The text of a decimal number as `repr` writes a float. -/
def text (d : Digits) : String :=
  let count := (Nat.toDigits 10 d.digits).length
  let point : Int := count - d.scale
  if -4 < point ∧ point ≤ 16 then
    if 0 < d.scale then decimalText d.digits d.scale.toNat
    else decimalText (d.digits * 10 ^ ((-d.scale).toNat + 1)) 1
  else decimalText d.digits (count - 1) ++ "e" ++ exponentText (point - 1)

end Digits

def negative (x : Float) : Bool := x.toBits.toNat / 2 ^ 63 = 1

/-- `repr(x)` of a finite float. -/
def repr (x : Float) : String :=
  (if negative x then "-" else "") ++ match magnitude? x with
    | none => "0.0"
    | some v => (Digits.shortest x v).text

/-- The text that `json.dumps` writes for a float. -/
def jsonText (x : Float) : String :=
  if x.isNaN then "NaN"
  else if x.isInf then if negative x then "-Infinity" else "Infinity"
  else repr x

example : [0.0, 1.0, 0.1, 1e15, 1e16, 0.0001, 0.00001, 1.5e-7, 123456.789, -2.5].map repr
    = ["0.0", "1.0", "0.1", "1000000000000000.0", "1e+16", "0.0001", "1e-05", "1.5e-07",
      "123456.789", "-2.5"] := by
  decide +kernel

/-! ## A reader takes the text for a float -/

theorem isDigit_decimalDigits (width value : Nat) :
    ∀ c ∈ (decimalDigits width value).map Char.toNat, PyJson.isDigit c = true := by
  induction width generalizing value with
  | zero => intro c hc; cases hc
  | succ width ih =>
      intro c hc
      rw [decimalDigits, List.map_append, List.mem_append] at hc
      rcases hc with hc | hc
      · exact ih _ c hc
      · have hlt : value % 10 < 10 := Nat.mod_lt _ (by decide)
        rw [List.map_singleton, List.mem_singleton] at hc
        rw [hc]
        generalize value % 10 = d at hlt
        interval_cases d <;> rfl

/-- The fraction that `decimalText` writes. -/
theorem text_decimalText (n scale : Nat) :
    ∃ fraction, PyJson.IsFraction fraction ∧ (scale ≠ 0 → fraction ≠ [])
      ∧ PyStr.text (decimalText n scale) = PyJson.decimal (n / 10 ^ scale) ++ fraction := by
  have hsign : ¬ (n : Int) < 0 := by omega
  rw [decimalText, if_neg hsign, Int.natAbs_natCast, text_append, text_append, text_nat, text_empty,
    List.nil_append]
  by_cases hscale : scale = 0
  · refine ⟨[], Or.inl rfl, fun h => absurd hscale h, ?_⟩
    rw [if_pos hscale]
    rfl
  · refine ⟨PyJson.point :: (decimalDigits scale n).map Char.toNat,
      Or.inr ⟨_, ?_, isDigit_decimalDigits scale n, rfl⟩, fun _ => List.cons_ne_nil _ _, ?_⟩
    · intro h
      have hlength := congrArg List.length h
      rw [List.length_map, length_decimalDigits] at hlength
      exact hscale hlength
    · rw [if_neg hscale, text_append, text_ofList (decimalDigits scale n)]
      rfl

theorem isExponent_exponentText (exponent : Int) :
    PyJson.IsExponent (PyStr.text ("e" ++ Digits.exponentText exponent)) := by
  have hdigits : ∀ c ∈ PyStr.text (if exponent.natAbs < 10 then "0" else "")
      ++ PyJson.decimal exponent.natAbs, PyJson.isDigit c = true := by
    intro c hc
    rcases List.mem_append.mp hc with hc | hc
    · split_ifs at hc
      · rw [List.mem_singleton.mp (hc : c ∈ [48])]
        rfl
      · cases hc
    · exact PyJson.isDigit_decimal hc
  refine Or.inr ⟨PyStr.text (if exponent < 0 then "-" else "+"), _, ?_, ?_, hdigits, ?_⟩
  · split_ifs
    · exact Or.inr (Or.inr rfl)
    · exact Or.inr (Or.inl rfl)
  · exact List.append_ne_nil_of_right_ne_nil _ (PyJson.decimal_ne_nil _)
  · rw [Digits.exponentText, text_append, text_append, text_append, text_nat, List.append_assoc]
    rfl

theorem Digits.text_shape (d : Digits) :
    ∃ whole fraction exponent, PyJson.IsFraction fraction ∧ PyJson.IsExponent exponent
      ∧ (fraction ≠ [] ∨ exponent ≠ [])
      ∧ PyStr.text d.text = PyJson.decimal whole ++ (fraction ++ exponent) := by
  have hplain : ∀ n scale : Nat, scale ≠ 0 → ∃ whole fraction exponent,
      PyJson.IsFraction fraction ∧ PyJson.IsExponent exponent ∧ (fraction ≠ [] ∨ exponent ≠ [])
        ∧ PyStr.text (decimalText n scale) = PyJson.decimal whole ++ (fraction ++ exponent) := by
    intro n scale hscale
    obtain ⟨fraction, hfraction, hne, htext⟩ := text_decimalText n scale
    exact ⟨_, fraction, [], hfraction, Or.inl rfl, Or.inl (hne hscale), by rw [htext, List.append_nil]⟩
  unfold Digits.text
  dsimp only
  generalize ((Nat.toDigits 10 d.digits).length : Int) - d.scale = point
  split_ifs with hpoint hscale
  · exact hplain d.digits d.scale.toNat (by omega)
  · have := hplain (d.digits * 10 ^ ((-d.scale).toNat + 1)) 1 (by decide)
    exact_mod_cast this
  · generalize (Nat.toDigits 10 d.digits).length - 1 = scale
    obtain ⟨fraction, hfraction, -, htext⟩ := text_decimalText d.digits scale
    refine ⟨d.digits / 10 ^ scale, fraction, PyStr.text ("e" ++ exponentText (point - 1)), hfraction,
      isExponent_exponentText _, Or.inr ?_, ?_⟩
    · rw [text_append]
      exact List.cons_ne_nil 101 _
    · rw [text_append, text_append, htext, text_append]
      simp only [List.append_assoc]

/-- `json.dumps` writes what it writes for a float. -/
theorem isJsonText_jsonText (x : Float) : IsJsonText (jsonText x) := by
  have hfloat : ∀ literal : PyStr.Str, PyJson.IsFloatText literal ∨ literal ∈ PyJson.constants →
      ∀ t : String, PyStr.text t = literal → IsJsonText t :=
    fun literal h t ht => ⟨.float literal, h, ht.symm⟩
  unfold jsonText
  split_ifs
  · exact hfloat _ (Or.inr (by decide)) _ rfl
  · exact hfloat _ (Or.inr (by decide)) _ rfl
  · exact hfloat _ (Or.inr (by decide)) _ rfl
  · refine hfloat _ (Or.inl ?_) _ rfl
    have hsign : PyStr.text (if negative x then "-" else "")
        = if negative x then [PyJson.minus] else [] := by
      split_ifs <;> rfl
    rw [repr, text_append, hsign]
    cases magnitude? x with
    | none =>
        have hzero : PyJson.decimal 0 = [48] := by decide
        have htext : PyStr.text "0.0" = [48, PyJson.point, 48] := rfl
        exact ⟨negative x, 0, [PyJson.point, 48], [], Or.inr ⟨[48], by decide, by decide, rfl⟩,
          Or.inl rfl, Or.inl (by decide), by
            rw [hzero]
            exact congrArg _ htext⟩
    | some v =>
        obtain ⟨whole, fraction, exponent, hfraction, hexponent, hne, htext⟩ :=
          (Digits.shortest x v).text_shape
        exact ⟨negative x, whole, fraction, exponent, hfraction, hexponent, hne, by rw [htext]⟩

/-! ## Reading a float -/

/-- `float(text)` for the text of a JSON number. -/
def ofText (s : PyStr.Str) : Float :=
  let negative := s.head? = some PyJson.minus
  let unsigned := if negative then s.tail else s
  let whole := PyJson.intPart unsigned
  let fraction := PyJson.fractionPart (unsigned.drop whole.length)
  let exponent := (unsigned.drop (whole.length + fraction.length)).tail
  let power : Int := PyJson.ofDecimal (exponent.filter PyJson.isDigit)
  let scale : Int := fraction.tail.length
    - (if exponent.head? = some PyJson.minus then -power else power)
  let magnitude := (⟨PyJson.ofDecimal (whole ++ fraction.tail), scale⟩ : Digits).toFloat
  if negative then -magnitude else magnitude

/-! ## Functions of the standard library -/

/-- `max(0.0, x)`. -/
def max0 (x : Float) : Float := if 0.0 < x then x else 0.0

/-- `sum(items)`. -/
def sum (items : List Float) : Float := items.foldl (· + ·) 0.0

/-- `math.isclose(a, b)`. -/
def isclose (a b : Float) : Bool :=
  if a == b then true
  else if a.isInf || b.isInf then false
  else
    let diff := (b - a).abs
    decide (diff ≤ (1e-9 * b).abs) || decide (diff ≤ (1e-9 * a).abs) || decide (diff ≤ 0.0)

end PyFloat
