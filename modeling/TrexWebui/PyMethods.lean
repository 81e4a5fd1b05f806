import Mathlib.Data.List.DropRight
import Mathlib.Data.List.Infix
import TrexWebui.DigitTexts

/-!
# Methods of Python strings

`str.strip`, `str.splitlines`, `str.lower` of ASCII letters, `int(text, 16)` and
`shlex.split`, over texts of code points. A whitespace is what `str.isspace` calls one, a
line ends at more characters than a line feed, and `int` takes the decimal digits of every
script, in Unicode 14, which Python 3.11 has.
-/

namespace PyMethods

open PyStr DigitTexts

/-! ## Whitespace -/

/-- `chr(c).isspace()` -/
def IsSpace (c : Nat) : Prop :=
  9 ≤ c ∧ c ≤ 13 ∨ 28 ≤ c ∧ c ≤ 32 ∨ 0x2000 ≤ c ∧ c ≤ 0x200A
    ∨ c ∈ [0x85, 0xA0, 0x1680, 0x2028, 0x2029, 0x202F, 0x205F, 0x3000]

instance (c : Nat) : Decidable (IsSpace c) :=
  inferInstanceAs (Decidable (_ ∧ _ ∨ _ ∧ _ ∨ _ ∧ _ ∨ _))

/-- `text.strip()` -/
def strip (s : Str) : Str := (s.dropWhile fun c => IsSpace c).rdropWhile fun c => IsSpace c

theorem strip_eq_self {s : Str} (hhead : ∀ c, s.head? = some c → ¬IsSpace c)
    (hlast : ∀ c, s.getLast? = some c → ¬IsSpace c) : strip s = s := by
  have hfront : s.dropWhile (fun c => decide (IsSpace c)) = s := by
    cases s with
    | nil => rfl
    | cons c rest =>
        exact List.dropWhile_cons_of_neg (by simpa using hhead c rfl)
  rw [strip, hfront, List.rdropWhile_eq_self_iff]
  intro hne
  simpa using hlast (s.getLast hne) (List.getLast?_eq_some_getLast hne)

theorem strip_strip (s : Str) : strip (strip s) = strip s := by
  have hprefix : strip s <+: s.dropWhile fun c => IsSpace c := List.rdropWhile_prefix _ _
  refine strip_eq_self ?_ ?_
  · intro c hc hspace
    obtain ⟨rest, hrest⟩ := hprefix
    have hhead : (s.dropWhile fun c => decide (IsSpace c)).head? = some c := by
      rw [← hrest, List.head?_append, hc]
      rfl
    have hnot := List.head?_dropWhile_not (fun c => decide (IsSpace c)) s
    rw [hhead] at hnot
    simp [hspace] at hnot
  · intro c hc hspace
    have hne : strip s ≠ [] := by
      intro hnil
      rw [hnil] at hc
      cases hc
    have hlast := List.rdropWhile_last_not (fun c => decide (IsSpace c)) _ hne
    rw [List.getLast?_eq_some_getLast hne, Option.some.injEq] at hc
    exact hlast (decide_eq_true (hc.symm ▸ hspace))

theorem strip_cons_ne_nil {c : Nat} (h : ¬IsSpace c) (rest : Str) : strip (c :: rest) ≠ [] := by
  rw [strip, List.dropWhile_cons_of_neg (by simpa using h)]
  intro hnil
  have hall := List.rdropWhile_eq_nil_iff.mp hnil c List.mem_cons_self
  exact h (of_decide_eq_true hall)

/-- `text.lower()`, where no letter is outside ASCII. -/
def lower (s : Str) : Str := s.map fun c => if 65 ≤ c ∧ c ≤ 90 then c + 32 else c

/-! ## Lines -/

/-- Where `str.splitlines` ends a line. -/
def IsLineBreak (c : Nat) : Prop := 10 ≤ c ∧ c ≤ 13 ∨ 28 ≤ c ∧ c ≤ 30 ∨ c ∈ [0x85, 0x2028, 0x2029]

instance (c : Nat) : Decidable (IsLineBreak c) :=
  inferInstanceAs (Decidable (_ ∧ _ ∨ _ ∧ _ ∨ _))

/-- `text.splitlines()` -/
def splitlines : Str → List Str
  | [] => []
  | 13 :: 10 :: rest => [] :: splitlines rest
  | c :: rest =>
      if IsLineBreak c then [] :: splitlines rest
      else
        match splitlines rest with
        | [] => [[c]]
        | line :: lines => (c :: line) :: lines

theorem splitlines_line {line : Str} (h : ∀ c ∈ line, ¬IsLineBreak c) (rest : Str) :
    splitlines (line ++ 10 :: rest) = line :: splitlines rest := by
  induction line with
  | nil => rfl
  | cons c line ih =>
      obtain ⟨hc, hline⟩ := List.forall_mem_cons.mp h
      have hne : c ≠ 13 := by
        rintro rfl
        exact hc (by decide)
      rw [List.cons_append, splitlines.eq_3 _ _ fun rest' hcr => absurd hcr hne, if_neg hc, ih hline]

theorem splitlines_lines {lines : List Str} (h : ∀ line ∈ lines, ∀ c ∈ line, ¬IsLineBreak c) :
    splitlines (lines.flatMap fun line => line ++ [10]) = lines := by
  induction lines with
  | nil => rfl
  | cons line lines ih =>
      obtain ⟨hline, hlines⟩ := List.forall_mem_cons.mp h
      rw [List.flatMap_cons, List.append_assoc, List.singleton_append, splitlines_line hline,
        ih hlines]

/-! ## Shell words -/

/-- Where `shlex` is in a word: between words, in one, in quotes, or behind a backslash that it met
in a word or in quotes. -/
inductive WordState where
  | between
  | inWord
  | quoted (mark : Nat)
  | escaped (within : Option Nat)

/-- `shlex.split(text)` from a state on; `quoted` says that the word has quotes, so that it counts
even if it is empty. `none` is a `ValueError`. -/
def shlexLoop : (state : WordState) → (token : Str) → (quoted : Bool) → Str → Option (List Str)
  | .between, token, quoted, [] => some (if token ≠ [] ∨ quoted then [token] else [])
  | .inWord, token, quoted, [] => some (if token ≠ [] ∨ quoted then [token] else [])
  | .quoted _, _, _, [] => none
  | .escaped _, _, _, [] => none
  | .between, token, quoted, c :: rest =>
      if c ∈ [32, 9, 13, 10] then
        if token ≠ [] ∨ quoted then (shlexLoop .between [] false rest).map (token :: ·)
        else shlexLoop .between token quoted rest
      else if c = 92 then shlexLoop (.escaped none) token quoted rest
      else if c = 34 ∨ c = 39 then shlexLoop (.quoted c) token quoted rest
      else shlexLoop .inWord [c] quoted rest
  | .quoted mark, token, _, c :: rest =>
      if c = mark then shlexLoop .inWord token true rest
      else if c = 92 ∧ mark = 34 then shlexLoop (.escaped (some mark)) token true rest
      else shlexLoop (.quoted mark) (token ++ [c]) true rest
  | .escaped within, token, quoted, c :: rest =>
      match within with
      | none => shlexLoop .inWord (token ++ [c]) quoted rest
      | some mark =>
          shlexLoop (.quoted mark) (token ++ if c ≠ 92 ∧ c ≠ mark then [92, c] else [c]) quoted rest
  | .inWord, token, quoted, c :: rest =>
      if c ∈ [32, 9, 13, 10] then
        if token ≠ [] ∨ quoted then (shlexLoop .between [] false rest).map (token :: ·)
        else shlexLoop .between token quoted rest
      else if c = 34 ∨ c = 39 then shlexLoop (.quoted c) token quoted rest
      else if c = 92 then shlexLoop (.escaped none) token quoted rest
      else shlexLoop .inWord (token ++ [c]) quoted rest

def shlexSplit (s : Str) : Option (List Str) := shlexLoop .between [] false s

example : shlexSplit (text "a 'b c'\"d\\\"\"  \\  ''") =
    some [text "a", text "b cd\"", text " ", []] := by decide +kernel

/-! ## Numbers to base sixteen -/

/-- The zeros of the scripts that have decimal digits; the other nine follow each. -/
def decimalZeros : List Nat :=
  [0x30, 0x660, 0x6F0, 0x7C0, 0x966, 0x9E6, 0xA66, 0xAE6, 0xB66, 0xBE6, 0xC66, 0xCE6, 0xD66, 0xDE6,
    0xE50, 0xED0, 0xF20, 0x1040, 0x1090, 0x17E0, 0x1810, 0x1946, 0x19D0, 0x1A80, 0x1A90, 0x1B50,
    0x1BB0, 0x1C40, 0x1C50, 0xA620, 0xA8D0, 0xA900, 0xA9D0, 0xA9F0, 0xAA50, 0xABF0, 0xFF10, 0x104A0,
    0x10D30, 0x11066, 0x110F0, 0x11136, 0x111D0, 0x112F0, 0x11450, 0x114D0, 0x11650, 0x116C0,
    0x11730, 0x118E0, 0x11950, 0x11C50, 0x11D50, 0x11DA0, 0x16A60, 0x16AC0, 0x16B50, 0x1D7CE,
    0x1D7D8, 0x1D7E2, 0x1D7EC, 0x1D7F6, 0x1E140, 0x1E2F0, 0x1E950, 0x1FBF0]

/-- A character outside ASCII as `int` sees it: a space, a digit or a question mark, which is
neither. -/
def asciiOf (c : Nat) : Nat :=
  if c < 127 then c
  else if IsSpace c then 32
  else match decimalZeros.find? fun first => first ≤ c ∧ c ≤ first + 9 with
    | some first => 48 + (c - first)
    | none => 63

def IsAsciiSpace (c : Nat) : Prop := 9 ≤ c ∧ c ≤ 13 ∨ c = 32

instance (c : Nat) : Decidable (IsAsciiSpace c) := inferInstanceAs (Decidable (_ ∨ _))

def underscore : Nat := 95

/-- A `0x` in front is taken off, and an underscore behind it. -/
def hexPrefix (s : Str) : Str :=
  match s with
  | 48 :: 120 :: 95 :: rest => rest
  | 48 :: 88 :: 95 :: rest => rest
  | s => jsHexPrefix s

def IsGrouped (run : Str) : Prop :=
  run ≠ [] ∧ run.head? ≠ some underscore ∧ run.getLast? ≠ some underscore
    ∧ ¬[underscore, underscore] <:+: run

instance (run : Str) : Decidable (IsGrouped run) := inferInstanceAs (Decidable (_ ∧ _ ∧ _ ∧ _))

/-- `int(text, 16)`; `none` is a `ValueError`. -/
def intHex (s : Str) : Option Int :=
  let signed := jsSign ((s.map asciiOf).dropWhile fun c => IsAsciiSpace c)
  let body := hexPrefix signed.2
  let run := body.takeWhile fun c => IsDigitOf 16 c ∨ c = underscore
  if IsGrouped run ∧ ∀ c ∈ body.drop run.length, IsAsciiSpace c then
    some (signed.1 * valueOf 16 (run.filter (· ≠ underscore)))
  else none

example : (["0x1f", " 1_0\t", "-1", "\u0661\uFF12", "1__0", "0x", "1 2", "g"].map fun part =>
    intHex (text part)) = [some 31, some 16, some (-1), some 18, none, none, none, none] := by
  decide +kernel

end PyMethods
