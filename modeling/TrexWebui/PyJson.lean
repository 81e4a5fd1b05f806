import Mathlib.Data.List.TakeWhile
import Mathlib.Tactic.IntervalCases
import TrexWebui.PyStr

/-!
# JSON as Python reads and writes it

`loads` is `json.loads` of a text with two strict hooks: an object whose keys
repeat is refused, and so are `NaN` and the infinities. `dumps` is
`json.dumps` with `ensure_ascii=False`, `sort_keys=True` and the separators
`","` and `":"`. A number with a fraction or an exponent is kept as it is
written: no reader of these documents computes with one.

Reading back what was written gives the value with its keys sorted
(`loads_dumps`), for every value whose keys are distinct, whose strings can
be encoded and whose integers are below Python's limit on digits.
-/

namespace PyJson

open PyStr

/-- What `json.loads` returns. An object keeps the order of its keys. -/
inductive Value where
  | null
  | bool (b : Bool)
  | int (i : Int)
  | float (literal : Str)
  | str (s : Str)
  | arr (items : List Value)
  | obj (fields : List (Str × Value))

/-- The entries of a `dict`. -/
abbrev Fields := List (Str × Value)

/-- `d.get(key)`, where a missing key is `None`. -/
def get (fields : Fields) (key : Str) : Value :=
  match fields.find? fun field => field.1 = key with
  | some field => field.2
  | none => .null

/-- `set(d)`, for comparison with a set of keys. -/
def keysAre (fields : Fields) (keys : List Str) : Bool :=
  (fields.map (·.1)).all (keys.contains ·) && keys.all ((fields.map (·.1)).contains ·)

/-- `value == s` for a string `s`. -/
def Value.isText : Value → Str → Bool
  | .str t, s => t == s
  | _, _ => false

/-- `value is None` -/
def Value.isNull : Value → Bool
  | .null => true
  | _ => false

/-- `value is b` for a Boolean `b`. -/
def Value.isBool : Value → Bool → Bool
  | .bool c, b => c == b
  | _, _ => false

/-! ## Characters -/

def quoteMark : Nat := 34
def backslash : Nat := 92
def comma : Nat := 44
def colon : Nat := 58
def minus : Nat := 45
def point : Nat := 46
def openBracket : Nat := 91
def closeBracket : Nat := 93
def openBrace : Nat := 123
def closeBrace : Nat := 125

def isDigit (c : Nat) : Bool := 48 ≤ c && c ≤ 57

def isSpace (c : Nat) : Bool := c = 32 || c = 9 || c = 10 || c = 13

def hexValue (c : Nat) : Option Nat :=
  if isDigit c then some (c - 48)
  else if 97 ≤ c && c ≤ 102 then some (c - 87)
  else if 65 ≤ c && c ≤ 70 then some (c - 55)
  else none

/-- `str(n)` -/
def decimal (n : Nat) : Str := (Nat.toDigits 10 n).map Char.toNat

/-- `int(digits)` -/
def ofDecimal (digits : Str) : Nat := Nat.ofDigitChars 10 (digits.map Char.ofNat) 0

/-! ## Writing -/

def escape (c : Nat) : Str :=
  if c = quoteMark ∨ c = backslash then [backslash, c]
  else if c = 10 then [backslash, 110]
  else if c = 13 then [backslash, 114]
  else if c = 9 then [backslash, 116]
  else if c = 8 then [backslash, 98]
  else if c = 12 then [backslash, 102]
  else if c < 32 then [backslash, 117, 48, 48, hexDigit (c / 16), hexDigit (c % 16)]
  else [c]

def quote (s : Str) : Str := quoteMark :: s.flatMap escape ++ [quoteMark]

mutual

def write : Value → Str
  | .null => text "null"
  | .bool true => text "true"
  | .bool false => text "false"
  | .int i => (if i < 0 then [minus] else []) ++ decimal i.natAbs
  | .float literal => literal
  | .str s => quote s
  | .arr [] => [openBracket, closeBracket]
  | .arr (item :: rest) => openBracket :: write item ++ writeItems rest
  | .obj [] => [openBrace, closeBrace]
  | .obj ((key, value) :: rest) =>
    openBrace :: quote key ++ colon :: write value ++ writeFields rest

/-- The items of a list after its first, and the closing bracket. -/
def writeItems : List Value → Str
  | [] => [closeBracket]
  | item :: rest => comma :: write item ++ writeItems rest

/-- The entries of an object after its first, and the closing brace. -/
def writeFields : Fields → Str
  | [] => [closeBrace]
  | (key, value) :: rest => comma :: quote key ++ colon :: write value ++ writeFields rest

end

mutual

def sortKeys : Value → Value
  | .arr items => .arr (sortItems items)
  | .obj fields => .obj ((sortFields fields).insertionSort fun a b => a.1 ≤ b.1)
  | value => value

def sortItems : List Value → List Value
  | [] => []
  | item :: rest => sortKeys item :: sortItems rest

def sortFields : Fields → Fields
  | [] => []
  | (key, value) :: rest => (key, sortKeys value) :: sortFields rest

end

/-- `json.dumps(value, ensure_ascii=False, separators=(",", ":"), sort_keys=True)` -/
def dumps (value : Value) : Str := write (sortKeys value)

/-! ## Reading -/

/-- Why a text is refused. -/
inductive LoadError where
  /-- `json.JSONDecodeError` -/
  | decode
  /-- The hook on objects: a key stands twice. -/
  | duplicateKey (key : Str)
  /-- The hook on constants: `NaN`, `Infinity` or `-Infinity`. -/
  | constant (name : Str)
  /-- `int` refuses more than 4300 digits. -/
  | digits
  deriving DecidableEq, Repr

def skipSpaces (s : Str) : Str := s.dropWhile isSpace

/-- The body of a string up to its closing quote, each escape replaced. -/
def scanString : Str → Except LoadError (Str × Str)
  | [] => .error .decode
  | c :: rest =>
    if c = quoteMark then .ok ([], rest)
    else if c < 32 then .error .decode
    else if c ≠ backslash then do
      let (s, rest) ← scanString rest
      pure (c :: s, rest)
    else match rest with
    | [] => .error .decode
    | e :: rest =>
      if e = 117 then match rest with
        | a :: b :: c :: d :: rest =>
          match hexValue a, hexValue b, hexValue c, hexValue d with
          | some a, some b, some c, some d => do
            let (s, rest) ← scanString rest
            pure ((((a * 16 + b) * 16 + c) * 16 + d) :: s, rest)
          | _, _, _, _ => .error .decode
        | _ => .error .decode
      else
        let plain := if e = 110 then some 10 else if e = 114 then some 13
          else if e = 116 then some 9 else if e = 98 then some 8 else if e = 102 then some 12
          else if e = quoteMark ∨ e = backslash ∨ e = 47 then some e else none
        match plain with
        | some c => do
          let (s, rest) ← scanString rest
          pure (c :: s, rest)
        | none => .error .decode

/-- An escaped high surrogate and the escaped low surrogate after it are one character. -/
def joinSurrogates : Str → Str
  | high :: low :: rest =>
    if 0xD800 ≤ high ∧ high < 0xDC00 ∧ 0xDC00 ≤ low ∧ low < 0xE000 then
      (0x10000 + (high - 0xD800) * 0x400 + (low - 0xDC00)) :: joinSurrogates rest
    else high :: joinSurrogates (low :: rest)
  | s => s

def scanText : Str → Except LoadError (Str × Str)
  | [] => .error .decode
  | c :: rest =>
    if c = quoteMark then do
      let (s, rest) ← scanString rest
      pure (joinSurrogates s, rest)
    else .error .decode

/-- `0|[1-9]\d*` -/
def intPart (s : Str) : Str := if s.head? = some 48 then [48] else s.takeWhile isDigit

/-- `(\.\d+)?` -/
def fractionPart (s : Str) : Str :=
  let digits := s.tail.takeWhile isDigit
  if s.head? = some point ∧ digits ≠ [] then point :: digits else []

/-- `([eE][-+]?\d+)?` -/
def exponentPart (s : Str) : Str :=
  if s.head? = some 101 ∨ s.head? = some 69 then
    let sign := if s.tail.head? = some minus ∨ s.tail.head? = some 43 then s.tail.take 1 else []
    let digits := (s.tail.drop sign.length).takeWhile isDigit
    if digits = [] then [] else s.take 1 ++ sign ++ digits
  else []

/-- A number after its sign: an `int`, or a `float` if a fraction or an exponent follows. -/
def scanUnsigned (negative : Bool) (s : Str) : Except LoadError (Value × Str) :=
  let digits := intPart s
  let fraction := fractionPart (s.drop digits.length)
  let exponent := exponentPart (s.drop (digits.length + fraction.length))
  let sign := if negative then [minus] else []
  if digits = [] then .error .decode
  else if fraction = [] ∧ exponent = [] then
    if 4300 < digits.length then .error .digits
    else .ok (.int (if negative then -ofDecimal digits else ofDecimal digits), s.drop digits.length)
  else
    .ok (.float (sign ++ digits ++ fraction ++ exponent),
      s.drop (digits.length + fraction.length + exponent.length))

/-- `(-?(?:0|[1-9]\d*))(\.\d+)?([eE][-+]?\d+)?` -/
def scanNumber (s : Str) : Except LoadError (Value × Str) :=
  if s.head? = some minus then scanUnsigned true s.tail else scanUnsigned false s

def after? (word : String) (s : Str) : Option Str := (text word).isPrefixOf? s

/-- A key that an object holds twice, the first by position of its second occurrence. -/
def duplicate? (fields : Fields) : Option Str :=
  go [] (fields.map (·.1))
where
  go (seen : List Str) : List Str → Option Str
    | [] => none
    | key :: rest => if key ∈ seen then some key else go (key :: seen) rest

mutual

/-- A value. The fuel bounds the number of calls, at most two for each character. -/
def scanValue : (fuel : Nat) → Str → Except LoadError (Value × Str)
  | 0, _ => .error .decode
  | _ + 1, [] => .error .decode
  | fuel + 1, c :: rest =>
    if c = quoteMark then do
      let (s, rest) ← scanText (c :: rest)
      pure (.str s, rest)
    else if c = openBrace then
      if (skipSpaces rest).head? = some closeBrace then .ok (.obj [], (skipSpaces rest).tail)
      else do
        let (fields, rest) ← scanFields fuel (skipSpaces rest)
        match duplicate? fields with
        | some key => .error (.duplicateKey key)
        | none => pure (.obj fields, rest)
    else if c = openBracket then
      if (skipSpaces rest).head? = some closeBracket then .ok (.arr [], (skipSpaces rest).tail)
      else do
        let (items, rest) ← scanItems fuel (skipSpaces rest)
        pure (.arr items, rest)
    else if let some rest := after? "null" (c :: rest) then .ok (.null, rest)
    else if let some rest := after? "true" (c :: rest) then .ok (.bool true, rest)
    else if let some rest := after? "false" (c :: rest) then .ok (.bool false, rest)
    else match scanNumber (c :: rest) with
    | .error .decode =>
      if (after? "NaN" (c :: rest)).isSome then .error (.constant (text "NaN"))
      else if (after? "Infinity" (c :: rest)).isSome then .error (.constant (text "Infinity"))
      else if (after? "-Infinity" (c :: rest)).isSome then .error (.constant (text "-Infinity"))
      else .error .decode
    | scanned => scanned

/-- The items of a list from one of them on, and the closing bracket. -/
def scanItems : (fuel : Nat) → Str → Except LoadError (List Value × Str)
  | 0, _ => .error .decode
  | fuel + 1, s => do
    let (item, rest) ← scanValue fuel s
    match skipSpaces rest with
    | [] => .error .decode
    | c :: rest =>
      if c = comma then do
        let (items, rest) ← scanItems fuel (skipSpaces rest)
        pure (item :: items, rest)
      else if c = closeBracket then pure ([item], rest)
      else .error .decode

/-- The entries of an object from one of them on, and the closing brace. -/
def scanFields : (fuel : Nat) → Str → Except LoadError (Fields × Str)
  | 0, _ => .error .decode
  | fuel + 1, s => do
    let (key, rest) ← scanText s
    match skipSpaces rest with
    | [] => .error .decode
    | c :: rest =>
      if c ≠ colon then .error .decode
      else do
        let (value, rest) ← scanValue fuel (skipSpaces rest)
        match skipSpaces rest with
        | [] => .error .decode
        | c :: rest =>
          if c = comma then do
            let (fields, rest) ← scanFields fuel (skipSpaces rest)
            pure ((key, value) :: fields, rest)
          else if c = closeBrace then pure ([(key, value)], rest)
          else .error .decode

end

/-- `json.loads(s, object_pairs_hook=…, parse_constant=…)` -/
def loads (s : Str) : Except LoadError Value := do
  let (value, rest) ← scanValue (2 * s.length + 2) (skipSpaces s)
  if skipSpaces rest = [] then pure value else .error .decode

/-! ## Reading back what was written -/

def EndsNumber (rest : Str) : Prop :=
  ∀ c, rest.head? = some c → isDigit c = false ∧ c ≠ point ∧ c ≠ 101 ∧ c ≠ 69

theorem EndsNumber.nil : EndsNumber [] := fun c h => by cases h

theorem EndsNumber.cons {c : Nat} (h : isDigit c = false ∧ c ≠ point ∧ c ≠ 101 ∧ c ≠ 69)
    (rest : Str) : EndsNumber (c :: rest) := fun d hd => by
  rcases Option.some.inj hd with rfl
  exact h

theorem isDigit_decimal {n c : Nat} (h : c ∈ decimal n) : isDigit c = true := by
  obtain ⟨d, hd, rfl⟩ := List.mem_map.mp h
  have hdigit := Char.isDigit_iff_toNat.mp
    (Nat.isDigit_of_mem_toDigits (by decide) (by decide) hd)
  simp only [isDigit, Bool.and_eq_true, decide_eq_true_eq]
  exact hdigit

theorem decimal_ne_nil (n : Nat) : decimal n ≠ [] := by
  simp [decimal]

theorem ofDecimal_decimal (n : Nat) : ofDecimal (decimal n) = n := by
  have hmap : (decimal n).map Char.ofNat = Nat.toDigits 10 n := by
    rw [decimal, List.map_map]
    exact List.map_id'' (fun c => Char.ofNat_toNat c) _
  rw [ofDecimal, hmap]
  exact Nat.ofDigitChars_ten_toDigits

theorem head_decimal (n : Nat) : (decimal n).head? = some 48 → n = 0 := by
  induction n using Nat.strong_induction_on with
  | _ n ih =>
      intro h
      rcases Nat.lt_or_ge n 10 with hn | hn
      · rw [decimal, Nat.toDigits_of_lt_base hn] at h
        have hdigit : n.digitChar.toNat = 48 := Option.some.inj h
        interval_cases n <;> first | rfl | exact absurd hdigit (by decide)
      · have hsplit := Nat.toDigits_of_base_le (by decide : 1 < 10) hn
        have hhead : (decimal n).head? = (decimal (n / 10)).head? := by
          rw [decimal, hsplit, List.map_append, decimal]
          exact List.head?_append_of_ne_nil _ (by simp)
        have := ih (n / 10) (by omega) (hhead ▸ h)
        omega

def EndsDigits (rest : Str) : Prop := ∀ c, rest.head? = some c → isDigit c = false

theorem EndsDigits.nil : EndsDigits [] := fun c h => by cases h

theorem EndsDigits.cons {c : Nat} (h : isDigit c = false) (rest : Str) :
    EndsDigits (c :: rest) := fun d hd => by
  rcases Option.some.inj hd with rfl
  exact h

theorem EndsNumber.endsDigits {rest : Str} (h : EndsNumber rest) : EndsDigits rest :=
  fun c hc => (h c hc).1

theorem takeWhile_digits {ds rest : Str} (hds : ∀ c ∈ ds, isDigit c = true)
    (hrest : EndsDigits rest) : (ds ++ rest).takeWhile isDigit = ds := by
  rw [List.takeWhile_append_of_pos hds]
  cases rest with
  | nil => simp
  | cons c rest => simp [hrest c rfl]

theorem intPart_decimal (n : Nat) {rest : Str} (hrest : EndsDigits rest) :
    intPart (decimal n ++ rest) = decimal n := by
  have hhead : (decimal n ++ rest).head? = (decimal n).head? :=
    List.head?_append_of_ne_nil _ (decimal_ne_nil n)
  rw [intPart, hhead]
  split_ifs with h
  · rw [head_decimal n h]
    rfl
  · exact takeWhile_digits (fun c hc => isDigit_decimal hc) hrest

theorem fractionPart_of_ends {rest : Str} (hrest : EndsNumber rest) : fractionPart rest = [] := by
  have hpoint : rest.head? ≠ some point := fun h => (hrest _ h).2.1 rfl
  simp [fractionPart, hpoint]

theorem exponentPart_of_ends {rest : Str} (hrest : EndsNumber rest) : exponentPart rest = [] := by
  have hlower : rest.head? ≠ some 101 := fun h => (hrest _ h).2.2.1 rfl
  have hupper : rest.head? ≠ some 69 := fun h => (hrest _ h).2.2.2 rfl
  simp [exponentPart, hlower, hupper]

theorem scanUnsigned_decimal (negative : Bool) {n : Nat} {rest : Str} (hrest : EndsNumber rest)
    (hn : (decimal n).length ≤ 4300) :
    scanUnsigned negative (decimal n ++ rest)
      = .ok (.int (if negative then -n else n), rest) := by
  have hdrop : (decimal n ++ rest).drop (decimal n).length = rest := List.drop_left
  have hfraction := fractionPart_of_ends hrest
  have hexponent := exponentPart_of_ends hrest
  simp only [scanUnsigned, intPart_decimal n hrest.endsDigits, hdrop, hfraction, List.length_nil, Nat.add_zero,
    hexponent, decimal_ne_nil, and_self, ↓reduceIte, Nat.not_lt.mpr hn, ofDecimal_decimal]

theorem head_decimal_ne_minus (n : Nat) (rest : Str) :
    (decimal n ++ rest).head? ≠ some minus := by
  obtain ⟨d, ds, hds⟩ := List.exists_cons_of_ne_nil (decimal_ne_nil n)
  have hd : isDigit d = true := isDigit_decimal (by rw [hds]; exact List.mem_cons_self)
  rw [hds]
  intro h
  rcases Option.some.inj h with rfl
  exact absurd hd (by decide)

theorem scanNumber_int (i : Int) {rest : Str} (hrest : EndsNumber rest)
    (hi : (decimal i.natAbs).length ≤ 4300) :
    scanNumber (write (.int i) ++ rest) = .ok (.int i, rest) := by
  rw [write]
  split_ifs with hneg
  · have hvalue : -((i.natAbs : Nat) : Int) = i := by omega
    have := scanUnsigned_decimal true hrest hi
    rw [if_pos rfl, hvalue] at this
    rw [List.cons_append, List.nil_append, List.cons_append, scanNumber]
    exact this
  · have hvalue : ((i.natAbs : Nat) : Int) = i := by omega
    have := scanUnsigned_decimal false hrest hi
    rw [if_neg (by decide), hvalue] at this
    rw [List.nil_append, scanNumber, if_neg (head_decimal_ne_minus _ _)]
    exact this

/-! ## Numbers with a fraction or an exponent -/

def IsFraction (s : Str) : Prop :=
  s = [] ∨ ∃ digits, digits ≠ [] ∧ (∀ c ∈ digits, isDigit c = true) ∧ s = point :: digits

def IsExponent (s : Str) : Prop :=
  s = [] ∨ ∃ sign digits, (sign = [] ∨ sign = [43] ∨ sign = [minus]) ∧ digits ≠ []
    ∧ (∀ c ∈ digits, isDigit c = true) ∧ s = 101 :: (sign ++ digits)

/-- The text of a finite float: a fraction or an exponent follows its digits. -/
def IsFloatText (s : Str) : Prop :=
  ∃ (negative : Bool) (whole : Nat) (fraction exponent : Str), IsFraction fraction
    ∧ IsExponent exponent ∧ (fraction ≠ [] ∨ exponent ≠ [])
    ∧ s = (if negative then [minus] else []) ++ (decimal whole ++ (fraction ++ exponent))

theorem IsExponent.endsDigits {s rest : Str} (hs : IsExponent s) (hrest : EndsNumber rest) :
    EndsDigits (s ++ rest) := by
  rcases hs with rfl | ⟨sign, digits, -, -, -, rfl⟩
  · exact hrest.endsDigits
  · exact EndsDigits.cons (by decide) _

theorem IsExponent.head_ne_point {s rest : Str} (hs : IsExponent s) (hrest : EndsNumber rest) :
    (s ++ rest).head? ≠ some point := by
  rcases hs with rfl | ⟨sign, digits, -, -, -, rfl⟩
  · exact fun h => (hrest _ h).2.1 rfl
  · exact fun h => absurd (Option.some.inj h) (by decide)

theorem IsFraction.endsDigits {s rest : Str} (hs : IsFraction s) (hrest : EndsDigits rest) :
    EndsDigits (s ++ rest) := by
  rcases hs with rfl | ⟨digits, -, -, rfl⟩
  · exact hrest
  · exact EndsDigits.cons (by decide) _

theorem fractionPart_append {fraction rest : Str} (h : IsFraction fraction)
    (hrest : EndsDigits rest) (hpoint : rest.head? ≠ some point) :
    fractionPart (fraction ++ rest) = fraction := by
  rcases h with rfl | ⟨digits, hne, hdigits, rfl⟩
  · simp [fractionPart, hpoint]
  · have htake := takeWhile_digits hdigits hrest
    simp [fractionPart, htake, hne]

theorem exponentPart_append {exponent rest : Str} (h : IsExponent exponent)
    (hrest : EndsNumber rest) : exponentPart (exponent ++ rest) = exponent := by
  rcases h with rfl | ⟨sign, digits, hsign, hne, hdigits, rfl⟩
  · exact exponentPart_of_ends hrest
  · have htake := takeWhile_digits hdigits hrest.endsDigits
    rcases hsign with rfl | rfl | rfl
    · obtain ⟨d, ds, rfl⟩ := List.exists_cons_of_ne_nil hne
      have hd : isDigit d = true := hdigits d List.mem_cons_self
      have hminus : d ≠ minus := by rintro rfl; exact absurd hd (by decide)
      have hplus : d ≠ 43 := by rintro rfl; exact absurd hd (by decide)
      rw [List.cons_append] at htake
      simp [exponentPart, hminus, hplus, htake]
    · simp [exponentPart, htake, hne]
    · simp [exponentPart, htake, hne]

theorem scanUnsigned_float (negative : Bool) (whole : Nat) {fraction exponent rest : Str}
    (hfraction : IsFraction fraction) (hexponent : IsExponent exponent)
    (hne : fraction ≠ [] ∨ exponent ≠ []) (hrest : EndsNumber rest) :
    scanUnsigned negative (decimal whole ++ (fraction ++ (exponent ++ rest)))
      = .ok (.float ((if negative then [minus] else []) ++ decimal whole ++ fraction ++ exponent),
          rest) := by
  have hends := hfraction.endsDigits (hexponent.endsDigits hrest)
  have hdrop : (decimal whole ++ (fraction ++ (exponent ++ rest))).drop (decimal whole).length
      = fraction ++ (exponent ++ rest) := List.drop_left
  have hnext : (decimal whole ++ (fraction ++ (exponent ++ rest))).drop
      ((decimal whole).length + fraction.length) = exponent ++ rest := by
    rw [← List.drop_drop, hdrop, List.drop_left]
  have hlast : (decimal whole ++ (fraction ++ (exponent ++ rest))).drop
      ((decimal whole).length + fraction.length + exponent.length) = rest := by
    rw [← List.drop_drop, hnext, List.drop_left]
  have hboth : ¬ (fraction = [] ∧ exponent = []) := by
    rcases hne with h | h <;> simp [h]
  simp only [scanUnsigned, intPart_decimal whole hends, hdrop,
    fractionPart_append hfraction (hexponent.endsDigits hrest) (hexponent.head_ne_point hrest),
    hnext, exponentPart_append hexponent hrest, hlast, decimal_ne_nil, hboth, ↓reduceIte]

theorem scanNumber_float {s rest : Str} (hs : IsFloatText s) (hrest : EndsNumber rest) :
    scanNumber (s ++ rest) = .ok (.float s, rest) := by
  obtain ⟨negative, whole, fraction, exponent, hfraction, hexponent, hne, rfl⟩ := hs
  have hscan := scanUnsigned_float negative whole hfraction hexponent hne hrest
  cases negative with
  | true =>
      simp only [↓reduceIte, List.cons_append, List.nil_append, List.append_assoc] at hscan ⊢
      exact hscan
  | false =>
      simp only [Bool.false_eq_true, ↓reduceIte, List.nil_append, List.append_assoc] at hscan ⊢
      rw [scanNumber, if_neg (head_decimal_ne_minus _ _)]
      exact hscan

theorem hexValue_hexDigit {d : Nat} (hd : d < 16) : hexValue (hexDigit d) = some d := by
  interval_cases d <;> rfl

theorem scanString_escape (c : Nat) {r s rest : Str} (h : scanString r = .ok (s, rest)) :
    scanString (escape c ++ r) = .ok (c :: s, rest) := by
  unfold escape
  split_ifs with hspecial h10 h13 h9 h8 h12 hcontrol
  · rw [List.cons_append, List.cons_append, List.nil_append, scanString.eq_def]
    rcases hspecial with rfl | rfl <;> simp [h, quoteMark, backslash, bind, Except.bind, pure,
      Except.pure]
  · rcases h10 with rfl
    rw [List.cons_append, List.cons_append, List.nil_append, scanString.eq_def]
    simp [h, quoteMark, backslash, bind, Except.bind, pure, Except.pure]
  · rcases h13 with rfl
    rw [List.cons_append, List.cons_append, List.nil_append, scanString.eq_def]
    simp [h, quoteMark, backslash, bind, Except.bind, pure, Except.pure]
  · rcases h9 with rfl
    rw [List.cons_append, List.cons_append, List.nil_append, scanString.eq_def]
    simp [h, quoteMark, backslash, bind, Except.bind, pure, Except.pure]
  · rcases h8 with rfl
    rw [List.cons_append, List.cons_append, List.nil_append, scanString.eq_def]
    simp [h, quoteMark, backslash, bind, Except.bind, pure, Except.pure]
  · rcases h12 with rfl
    rw [List.cons_append, List.cons_append, List.nil_append, scanString.eq_def]
    simp [h, quoteMark, backslash, bind, Except.bind, pure, Except.pure]
  · have hhigh := hexValue_hexDigit (d := c / 16) (by omega)
    have hlow := hexValue_hexDigit (d := c % 16) (by omega)
    have hzero : hexValue 48 = some 0 := rfl
    have hvalue : c / 16 * 16 + c % 16 = c := by omega
    simp only [List.cons_append, List.nil_append]
    rw [scanString.eq_def]
    simp [h, quoteMark, backslash, bind, Except.bind, pure, Except.pure, hhigh, hlow, hzero, hvalue]
  · obtain ⟨hquote, hback⟩ := not_or.mp hspecial
    rw [List.cons_append, List.nil_append, scanString.eq_def]
    simp [h, hquote, hback, hcontrol, bind, Except.bind, pure, Except.pure]

theorem scanString_quote (s rest : Str) :
    scanString (s.flatMap escape ++ quoteMark :: rest) = .ok (s, rest) := by
  induction s with
  | nil =>
      rw [List.flatMap_nil, List.nil_append, scanString.eq_def]
      simp
  | cons c s ih =>
      rw [List.flatMap_cons, List.append_assoc]
      exact scanString_escape c ih

theorem joinSurrogates_eq_self {s : Str} (h : ∀ c ∈ s, Scalar c) : joinSurrogates s = s := by
  induction s with
  | nil => rfl
  | cons c s ih =>
      cases s with
      | nil => rfl
      | cons d s =>
          have hrest := ih fun e he => h e (List.mem_cons_of_mem c he)
          have hc := h c List.mem_cons_self
          rw [joinSurrogates, if_neg (by unfold Scalar at hc; omega), hrest]

theorem scanText_quote {s : Str} (hs : ∀ c ∈ s, Scalar c) (rest : Str) :
    scanText (quote s ++ rest) = .ok (s, rest) := by
  have hscan := scanString_quote s rest
  rw [quote, List.cons_append, List.cons_append, List.append_assoc, List.singleton_append, scanText,
    if_pos rfl, hscan]
  simp [bind, Except.bind, pure, Except.pure, joinSurrogates_eq_self hs]

mutual

def Readable : Value → Prop
  | .int i => (decimal i.natAbs).length ≤ 4300
  | .float _ => False
  | .str s => ∀ c ∈ s, Scalar c
  | .arr items => ReadableItems items
  | .obj fields => (fields.map (·.1)).Nodup ∧ ReadableFields fields
  | _ => True

def ReadableItems : List Value → Prop
  | [] => True
  | item :: rest => Readable item ∧ ReadableItems rest

def ReadableFields : Fields → Prop
  | [] => True
  | (key, value) :: rest => (∀ c ∈ key, Scalar c) ∧ Readable value ∧ ReadableFields rest

end

/-- The names under which `json.dumps` writes the numbers that are not finite. -/
def constants : List Str := [text "NaN", text "Infinity", text "-Infinity"]

mutual

/-- A value as `json.dumps` writes it, numbers that are not finite included. -/
def Written : Value → Prop
  | .int i => (decimal i.natAbs).length ≤ 4300
  | .float literal => IsFloatText literal ∨ literal ∈ constants
  | .str s => ∀ c ∈ s, Scalar c
  | .arr items => WrittenItems items
  | .obj fields => (fields.map (·.1)).Nodup ∧ WrittenFields fields
  | _ => True

def WrittenItems : List Value → Prop
  | [] => True
  | item :: rest => Written item ∧ WrittenItems rest

def WrittenFields : Fields → Prop
  | [] => True
  | (key, value) :: rest => (∀ c ∈ key, Scalar c) ∧ Written value ∧ WrittenFields rest

end

mutual

def constant? : Value → Option Str
  | .float literal => if literal ∈ constants then some literal else none
  | .arr items => constantOfItems? items
  | .obj fields => constantOfFields? fields
  | _ => none

def constantOfItems? : List Value → Option Str
  | [] => none
  | item :: rest => (constant? item).or (constantOfItems? rest)

def constantOfFields? : Fields → Option Str
  | [] => none
  | (_, value) :: rest => (constant? value).or (constantOfFields? rest)

end

def orConstant {α : Type} (refused : Option Str) (a : α) : Except LoadError α :=
  match refused with
  | none => .ok a
  | some name => .error (.constant name)

mutual

theorem Readable.written : (v : Value) → Readable v → Written v
  | .null, _ => trivial
  | .bool _, _ => trivial
  | .int _, h => h
  | .float _, h => absurd h not_false
  | .str _, h => h
  | .arr items, h => Readable.writtenItems items h
  | .obj fields, h => ⟨h.1, Readable.writtenFields fields h.2⟩

theorem Readable.writtenItems : (items : List Value) → ReadableItems items → WrittenItems items
  | [], _ => trivial
  | item :: items, h => ⟨Readable.written item h.1, Readable.writtenItems items h.2⟩

theorem Readable.writtenFields : (fields : Fields) → ReadableFields fields → WrittenFields fields
  | [], _ => trivial
  | (_, value) :: fields, h =>
      ⟨h.1, Readable.written value h.2.1, Readable.writtenFields fields h.2.2⟩

end

mutual

theorem Readable.constant?_eq : (v : Value) → Readable v → constant? v = none
  | .null, _ => rfl
  | .bool _, _ => rfl
  | .int _, _ => rfl
  | .float _, h => absurd h not_false
  | .str _, _ => rfl
  | .arr items, h => Readable.constantOfItems?_eq items h
  | .obj fields, h => Readable.constantOfFields?_eq fields h.2

theorem Readable.constantOfItems?_eq : (items : List Value) → ReadableItems items →
    constantOfItems? items = none
  | [], _ => rfl
  | item :: items, h => by
      rw [constantOfItems?, Readable.constant?_eq item h.1]
      exact Readable.constantOfItems?_eq items h.2

theorem Readable.constantOfFields?_eq : (fields : Fields) → ReadableFields fields →
    constantOfFields? fields = none
  | [], _ => rfl
  | (_, value) :: fields, h => by
      rw [constantOfFields?, Readable.constant?_eq value h.2.1]
      exact Readable.constantOfFields?_eq fields h.2.2

end

theorem duplicate?_eq_none {fields : Fields} (h : (fields.map (·.1)).Nodup) :
    duplicate? fields = none := by
  have hgo : ∀ (keys seen : List Str), keys.Nodup → (∀ key ∈ keys, key ∉ seen) →
      duplicate?.go seen keys = none := by
    intro keys
    induction keys with
    | nil => intros; rfl
    | cons key keys ih =>
        intro seen hnodup hseen
        obtain ⟨hkey, hrest⟩ := List.nodup_cons.mp hnodup
        rw [duplicate?.go, if_neg (hseen key List.mem_cons_self)]
        refine ih (key :: seen) hrest fun other hother hmem => ?_
        rcases List.mem_cons.mp hmem with rfl | hmem
        · exact hkey hother
        · exact hseen other (List.mem_cons_of_mem key hother) hmem
  exact hgo _ [] h fun _ _ => List.not_mem_nil

theorem skipSpaces_cons {c : Nat} (h : isSpace c = false) (rest : Str) :
    skipSpaces (c :: rest) = c :: rest := by
  simp [skipSpaces, h]

theorem IsFloatText.eq_cons {s : Str} (h : IsFloatText s) :
    ∃ c t, s = c :: t ∧ (c = minus ∨ isDigit c = true) := by
  obtain ⟨negative, whole, fraction, exponent, -, -, -, rfl⟩ := h
  cases negative with
  | true => exact ⟨minus, _, rfl, Or.inl rfl⟩
  | false =>
      obtain ⟨d, ds, hds⟩ := List.exists_cons_of_ne_nil (decimal_ne_nil whole)
      have hd : isDigit d = true := isDigit_decimal (by rw [hds]; exact List.mem_cons_self)
      exact ⟨d, _, by rw [hds]; rfl, Or.inr hd⟩

theorem write_int_eq_cons (i : Int) :
    ∃ c t, write (.int i) = c :: t ∧ (c = minus ∨ isDigit c = true) := by
  rw [write]
  split_ifs
  · exact ⟨minus, _, rfl, Or.inl rfl⟩
  · obtain ⟨d, ds, hds⟩ := List.exists_cons_of_ne_nil (decimal_ne_nil i.natAbs)
    exact ⟨d, ds, hds, Or.inr (isDigit_decimal (by rw [hds]; exact List.mem_cons_self))⟩

theorem number_head {c : Nat} (h : c = minus ∨ isDigit c = true) :
    isSpace c = false ∧ c ≠ closeBracket := by
  have hrange : c = 45 ∨ 48 ≤ c ∧ c ≤ 57 := by
    simpa [isDigit, minus] using h
  simp only [isSpace, closeBracket, Bool.or_eq_false_iff, decide_eq_false_iff_not]
  omega

/-- A written value starts with no space and not with a bracket that closes a list. -/
theorem write_eq_cons {v : Value} (h : Written v) :
    ∃ c t, write v = c :: t ∧ isSpace c = false ∧ c ≠ closeBracket := by
  cases v with
  | null => exact ⟨110, _, rfl, by decide⟩
  | bool b => cases b <;> exact ⟨_, _, rfl, by decide⟩
  | int i =>
      obtain ⟨c, t, hwrite, hc⟩ := write_int_eq_cons i
      exact ⟨c, t, hwrite, number_head hc⟩
  | float literal =>
      rcases h with h | h
      · obtain ⟨c, t, hwrite, hc⟩ := h.eq_cons
        exact ⟨c, t, hwrite, number_head hc⟩
      · simp only [constants, List.mem_cons, List.not_mem_nil, or_false] at h
        rcases h with rfl | rfl | rfl <;> exact ⟨_, _, rfl, by decide⟩
  | str s => exact ⟨quoteMark, _, rfl, by decide⟩
  | arr items => cases items <;> exact ⟨openBracket, _, rfl, by decide⟩
  | obj fields =>
      cases fields with
      | nil => exact ⟨openBrace, _, rfl, by decide⟩
      | cons field fields => exact ⟨openBrace, _, rfl, by decide⟩

theorem skipSpaces_write {v : Value} (h : Written v) (rest : Str) :
    skipSpaces (write v ++ rest) = write v ++ rest := by
  obtain ⟨c, t, hwrite, hspace, -⟩ := write_eq_cons h
  rw [hwrite, List.cons_append, skipSpaces_cons hspace]

theorem head_write_ne {v : Value} (h : Written v) (rest : Str) :
    (write v ++ rest).head? ≠ some closeBracket := by
  obtain ⟨c, t, hwrite, -, hne⟩ := write_eq_cons h
  rw [hwrite]
  exact fun heq => hne (Option.some.inj heq)

theorem scanValue_number {s rest : Str} {scanned : Value × Str} (fuel : Nat)
    (hs : ∃ c t, s = c :: t ∧ (c = minus ∨ isDigit c = true))
    (hscan : scanNumber (s ++ rest) = .ok scanned) :
    scanValue (fuel + 1) (s ++ rest) = .ok scanned := by
  obtain ⟨c, t, rfl, hc⟩ := hs
  rw [List.cons_append] at hscan ⊢
  have hrange : c = 45 ∨ 48 ≤ c ∧ c ≤ 57 := by
    simpa [isDigit, minus] using hc
  have hword : ∀ (d : Nat) (ds : Str), c ≠ d → (d :: ds).isPrefixOf? (c :: (t ++ rest)) = none := by
    intro d ds hne
    simp [List.isPrefixOf?, Ne.symm hne]
  have hnull : after? "null" (c :: (t ++ rest)) = none := hword 110 _ (by omega)
  have htrue : after? "true" (c :: (t ++ rest)) = none := hword 116 _ (by omega)
  have hfalse : after? "false" (c :: (t ++ rest)) = none := hword 102 _ (by omega)
  have h1 : c ≠ quoteMark := by unfold quoteMark; omega
  have h2 : c ≠ openBrace := by unfold openBrace; omega
  have h3 : c ≠ openBracket := by unfold openBracket; omega
  simp only [scanValue, h1, h2, h3, hnull, htrue, hfalse, hscan, ↓reduceIte]

theorem scanValue_constant {s : Str} (hs : s ∈ constants) (fuel : Nat) (rest : Str) :
    scanValue (fuel + 1) (s ++ rest) = .error (.constant s) := by
  simp only [constants, List.mem_cons, List.not_mem_nil, or_false] at hs
  rcases hs with rfl | rfl | rfl <;> rfl

theorem ends_items (items : List Value) (rest : Str) :
    EndsNumber (writeItems items ++ rest) := by
  cases items with
  | nil => exact EndsNumber.cons (by decide) _
  | cons item items => exact EndsNumber.cons (by decide) _

theorem ends_fields (fields : Fields) (rest : Str) :
    EndsNumber (writeFields fields ++ rest) := by
  cases fields with
  | nil => exact EndsNumber.cons (by decide) _
  | cons field fields => exact EndsNumber.cons (by decide) _

mutual

/-- The scanner reads back a value that was written, whatever follows it, or refuses the
first number in it that is not finite. -/
theorem scanValue_write : (v : Value) → (fuel : Nat) → (rest : Str) → Written v →
    EndsNumber rest → 2 * (write v).length ≤ fuel →
    scanValue fuel (write v ++ rest) = orConstant (constant? v) (v, rest)
  | v, 0, _, hwritten, _, hfuel => by
      obtain ⟨c, t, hwrite, -⟩ := write_eq_cons hwritten
      simp [hwrite] at hfuel
  | .null, fuel + 1, rest, _, _, _ => rfl
  | .bool true, fuel + 1, rest, _, _, _ => rfl
  | .bool false, fuel + 1, rest, _, _, _ => rfl
  | .int i, fuel + 1, rest, hwritten, hrest, _ =>
      scanValue_number fuel (write_int_eq_cons i) (scanNumber_int i hrest hwritten)
  | .float literal, fuel + 1, rest, hwritten, hrest, _ => by
      rw [write, constant?]
      split_ifs with hconstant
      · exact scanValue_constant hconstant fuel rest
      · have htext := hwritten.resolve_right hconstant
        exact scanValue_number fuel htext.eq_cons (scanNumber_float htext hrest)
  | .str s, fuel + 1, rest, hwritten, _, _ => by
      have hscan := scanText_quote hwritten rest
      rw [write]
      rw [quote, List.cons_append, List.cons_append] at hscan ⊢
      simp only [scanValue, ↓reduceIte, hscan]
      rfl
  | .arr [], fuel + 1, rest, _, _, _ => rfl
  | .arr (item :: items), fuel + 1, rest, hwritten, _, hfuel => by
      simp only [write, List.length_cons, List.length_append] at hfuel
      have hitems := scanItems_write item items fuel rest hwritten (by omega)
      have hskip := skipSpaces_write hwritten.1 (writeItems items ++ rest)
      have hhead := head_write_ne hwritten.1 (writeItems items ++ rest)
      rw [write, List.cons_append, List.cons_append, List.append_assoc, constant?]
      simp only [scanValue, hskip, hhead, hitems, ↓reduceIte]
      cases constantOfItems? (item :: items) <;> rfl
  | .obj [], fuel + 1, rest, _, _, _ => rfl
  | .obj ((key, value) :: fields), fuel + 1, rest, hwritten, _, hfuel => by
      simp only [write, List.length_cons, List.length_append] at hfuel
      have hfields := scanFields_write key value fields fuel rest hwritten.2 (by omega)
      have hdup := duplicate?_eq_none hwritten.1
      have hskip : ∀ tail, skipSpaces (quote key ++ tail) = quote key ++ tail :=
        fun tail => skipSpaces_cons (by decide) _
      have hhead : ∀ tail, (quote key ++ tail).head? ≠ some closeBrace := by
        intro tail h
        exact absurd (Option.some.inj h) (by decide)
      simp only [write, List.cons_append, List.append_assoc, constant?]
      simp only [scanValue, hskip, hhead, hfields, ↓reduceIte]
      cases constantOfFields? ((key, value) :: fields) with
      | none =>
          simp only [orConstant, bind, Except.bind, hdup, pure, Except.pure]
          rfl
      | some name => rfl

theorem scanItems_write : (item : Value) → (items : List Value) → (fuel : Nat) → (rest : Str) →
    WrittenItems (item :: items) → 2 * ((write item).length + (writeItems items).length) ≤ fuel →
    scanItems fuel (write item ++ (writeItems items ++ rest))
      = orConstant (constantOfItems? (item :: items)) (item :: items, rest)
  | item, items, 0, _, hwritten, hfuel => by
      obtain ⟨c, t, hwrite, -⟩ := write_eq_cons hwritten.1
      simp [hwrite] at hfuel
  | item, items, fuel + 1, rest, hwritten, hfuel => by
      have hpos : 0 < (writeItems items).length := by
        cases items with
        | nil => exact Nat.zero_lt_one
        | cons next items => exact Nat.succ_pos _
      have hitem := scanValue_write item fuel (writeItems items ++ rest) hwritten.1
        (ends_items items rest) (by omega)
      rw [scanItems, hitem, constantOfItems?]
      cases constant? item with
      | some name => rfl
      | none =>
          cases items with
          | nil => rfl
          | cons next items =>
              have hnext := scanItems_write next items fuel rest hwritten.2 (by
                simp only [writeItems, List.length_cons, List.length_append] at hfuel
                omega)
              have hskip := skipSpaces_write hwritten.2.1 (writeItems items ++ rest)
              rw [writeItems, List.cons_append, List.cons_append, List.append_assoc]
              simp only [orConstant, bind, Except.bind, skipSpaces_cons (c := comma) (by decide),
                hskip, hnext, ↓reduceIte, Option.none_or]
              cases constantOfItems? (next :: items) <;> rfl

theorem scanFields_write : (key : Str) → (value : Value) → (fields : Fields) → (fuel : Nat) →
    (rest : Str) → WrittenFields ((key, value) :: fields) →
    2 * ((quote key).length + ((write value).length + 1) + (writeFields fields).length) ≤ fuel →
    scanFields fuel (quote key ++ colon :: (write value ++ (writeFields fields ++ rest)))
      = orConstant (constantOfFields? ((key, value) :: fields)) ((key, value) :: fields, rest)
  | key, value, fields, 0, _, _, hfuel => by omega
  | key, value, fields, fuel + 1, rest, hwritten, hfuel => by
      have hpos : 0 < (writeFields fields).length := by
        cases fields with
        | nil => exact Nat.zero_lt_one
        | cons next fields => exact Nat.succ_pos _
      have hkey := scanText_quote hwritten.1 (colon :: (write value ++ (writeFields fields ++ rest)))
      have hvalue := scanValue_write value fuel (writeFields fields ++ rest) hwritten.2.1
        (ends_fields fields rest) (by omega)
      have hskip := skipSpaces_write hwritten.2.1 (writeFields fields ++ rest)
      rw [scanFields, hkey, constantOfFields?]
      simp only [bind, Except.bind, skipSpaces_cons (c := colon) (by decide), hskip, hvalue, ne_eq,
        not_true_eq_false, ↓reduceIte]
      cases constant? value with
      | some name => rfl
      | none =>
          cases fields with
          | nil => rfl
          | cons next fields =>
              obtain ⟨nextKey, nextValue⟩ := next
              have hnext := scanFields_write nextKey nextValue fields fuel rest hwritten.2.2 (by
                simp only [writeFields, List.length_cons, List.length_append] at hfuel
                omega)
              have hquote : ∀ tail, skipSpaces (quote nextKey ++ tail) = quote nextKey ++ tail :=
                fun tail => skipSpaces_cons (by decide) _
              simp only [writeFields, List.cons_append, List.append_assoc]
              simp only [orConstant, skipSpaces_cons (c := comma) (by decide), hquote, hnext,
                ↓reduceIte, Option.none_or]
              cases constantOfFields? ((nextKey, nextValue) :: fields) <;> rfl

end

theorem skipSpaces_spaces {tail : Str} (h : ∀ c ∈ tail, isSpace c = true) :
    skipSpaces tail = [] :=
  List.dropWhile_eq_nil_iff.mpr h

theorem loads_written {v : Value} (h : Written v) {tail : Str}
    (htail : ∀ c ∈ tail, isSpace c = true) :
    loads (write v ++ tail) = orConstant (constant? v) v := by
  have hends : EndsNumber tail := by
    intro c hc
    have hspace := htail c (List.mem_of_mem_head? hc)
    simp only [isSpace, Bool.or_eq_true, decide_eq_true_eq] at hspace
    rcases hspace with ((rfl | rfl) | rfl) | rfl <;> decide
  have hscan := scanValue_write v (2 * (write v ++ tail).length + 2) tail h hends
    (by rw [List.length_append]; omega)
  rw [loads, skipSpaces_write h tail, hscan]
  cases constant? v with
  | some name => rfl
  | none => simp [orConstant, bind, Except.bind, skipSpaces_spaces htail, pure, Except.pure]

theorem loads_write {v : Value} (h : Readable v) : loads (write v) = .ok v := by
  have hread := @loads_written v (Readable.written v h) [] fun _ hc => by cases hc
  rw [List.append_nil, Readable.constant?_eq v h] at hread
  exact hread

/-! ## The written text can be encoded -/

theorem scalar_text_of_ascii {s : Str} (h : ∀ c ∈ s, c < 0x80) : ∀ c ∈ s, Scalar c :=
  fun c hc => scalar_of_ascii (h c hc)

theorem scalar_digit {c : Nat} (h : isDigit c = true) : Scalar c := by
  simp only [isDigit, Bool.and_eq_true, decide_eq_true_eq] at h
  exact scalar_of_ascii (by omega)

theorem scalar_decimal (n : Nat) : ∀ c ∈ decimal n, Scalar c :=
  fun _ hc => scalar_digit (isDigit_decimal hc)

theorem scalar_escape {c : Nat} (hc : Scalar c) : ∀ d ∈ escape c, Scalar d := by
  unfold escape
  split_ifs with hspecial _ _ _ _ _ hcontrol
  · refine scalar_text_of_ascii fun d hd => ?_
    rcases hspecial with rfl | rfl <;> revert d hd <;> decide
  · exact scalar_text_of_ascii (by decide)
  · exact scalar_text_of_ascii (by decide)
  · exact scalar_text_of_ascii (by decide)
  · exact scalar_text_of_ascii (by decide)
  · exact scalar_text_of_ascii (by decide)
  · refine scalar_text_of_ascii fun d hd => ?_
    simp only [List.mem_cons, List.not_mem_nil, or_false, backslash] at hd
    rcases hd with rfl | rfl | rfl | rfl | rfl | rfl
    · decide
    · decide
    · decide
    · decide
    · exact hexDigit_lt_ascii (by omega)
    · exact hexDigit_lt_ascii (by omega)
  · intro d hd
    rcases List.mem_singleton.mp hd with rfl
    exact hc

theorem scalar_quote {s : Str} (hs : ∀ c ∈ s, Scalar c) : ∀ c ∈ quote s, Scalar c := by
  intro c hc
  rcases List.mem_cons.mp hc with rfl | hc
  · exact scalar_of_ascii (by decide)
  · rcases List.mem_append.mp hc with hc | hc
    · obtain ⟨d, hd, hcd⟩ := List.mem_flatMap.mp hc
      exact scalar_escape (hs d hd) c hcd
    · rcases List.mem_singleton.mp hc with rfl
      exact scalar_of_ascii (by decide)

theorem IsFraction.scalar {s : Str} (h : IsFraction s) : ∀ c ∈ s, Scalar c := by
  rcases h with rfl | ⟨digits, -, hdigits, rfl⟩
  · exact scalar_text_of_ascii (by decide)
  · intro c hc
    rcases List.mem_cons.mp hc with rfl | hc
    · exact scalar_of_ascii (by decide)
    · exact scalar_digit (hdigits c hc)

theorem IsExponent.scalar {s : Str} (h : IsExponent s) : ∀ c ∈ s, Scalar c := by
  rcases h with rfl | ⟨sign, digits, hsign, -, hdigits, rfl⟩
  · exact scalar_text_of_ascii (by decide)
  · intro c hc
    rcases List.mem_cons.mp hc with rfl | hc
    · exact scalar_of_ascii (by decide)
    · rcases List.mem_append.mp hc with hc | hc
      · rcases hsign with rfl | rfl | rfl <;> exact scalar_text_of_ascii (by decide) c hc
      · exact scalar_digit (hdigits c hc)

theorem IsFloatText.scalar {s : Str} (h : IsFloatText s) : ∀ c ∈ s, Scalar c := by
  obtain ⟨negative, whole, fraction, exponent, hfraction, hexponent, -, rfl⟩ := h
  intro c hc
  rcases List.mem_append.mp hc with hc | hc
  · cases negative <;> exact scalar_text_of_ascii (by decide) c hc
  · rcases List.mem_append.mp hc with hc | hc
    · exact scalar_decimal whole c hc
    · rcases List.mem_append.mp hc with hc | hc
      · exact hfraction.scalar c hc
      · exact hexponent.scalar c hc

mutual

theorem scalar_write : (v : Value) → Written v → ∀ c ∈ write v, Scalar c
  | .null, _ => scalar_text_of_ascii (by decide)
  | .bool true, _ => scalar_text_of_ascii (by decide)
  | .bool false, _ => scalar_text_of_ascii (by decide)
  | .int i, _ => by
      intro c hc
      rcases List.mem_append.mp hc with hc | hc
      · split_ifs at hc
        · rcases List.mem_singleton.mp hc with rfl
          exact scalar_of_ascii (by decide)
        · cases hc
      · exact scalar_decimal _ c hc
  | .float _, h => by
      rcases h with h | h
      · exact h.scalar
      · simp only [constants, List.mem_cons, List.not_mem_nil, or_false] at h
        rcases h with rfl | rfl | rfl <;> exact scalar_text_of_ascii (by decide)
  | .str _, h => scalar_quote h
  | .arr [], _ => scalar_text_of_ascii (by decide)
  | .arr (item :: items), h => by
      intro c hc
      simp only [write, List.cons_append, List.mem_cons, List.mem_append] at hc
      rcases hc with rfl | hc | hc
      · exact scalar_of_ascii (by decide)
      · exact scalar_write item h.1 c hc
      · exact scalar_writeItems items h.2 c hc
  | .obj [], _ => scalar_text_of_ascii (by decide)
  | .obj ((key, value) :: fields), h => by
      intro c hc
      simp only [write, List.cons_append, List.mem_cons, List.mem_append] at hc
      rcases hc with rfl | (hc | rfl | hc) | hc
      · exact scalar_of_ascii (by decide)
      · exact scalar_quote h.2.1 c hc
      · exact scalar_of_ascii (by decide)
      · exact scalar_write value h.2.2.1 c hc
      · exact scalar_writeFields fields h.2.2.2 c hc

theorem scalar_writeItems : (items : List Value) → WrittenItems items →
    ∀ c ∈ writeItems items, Scalar c
  | [], _ => scalar_text_of_ascii (by decide)
  | item :: items, h => by
      intro c hc
      simp only [writeItems, List.cons_append, List.mem_cons, List.mem_append] at hc
      rcases hc with rfl | hc | hc
      · exact scalar_of_ascii (by decide)
      · exact scalar_write item h.1 c hc
      · exact scalar_writeItems items h.2 c hc

theorem scalar_writeFields : (fields : Fields) → WrittenFields fields →
    ∀ c ∈ writeFields fields, Scalar c
  | [], _ => scalar_text_of_ascii (by decide)
  | (key, value) :: fields, h => by
      intro c hc
      simp only [writeFields, List.cons_append, List.mem_cons, List.mem_append] at hc
      rcases hc with rfl | (hc | rfl | hc) | hc
      · exact scalar_of_ascii (by decide)
      · exact scalar_quote h.1 c hc
      · exact scalar_of_ascii (by decide)
      · exact scalar_write value h.2.1 c hc
      · exact scalar_writeFields fields h.2.2 c hc

end

/-! ## Sorted keys -/

theorem map_sortFields (fields : Fields) :
    (sortFields fields).map (·.1) = fields.map (·.1) := by
  induction fields with
  | nil => rfl
  | cons field fields ih => simp [sortFields, ih]

theorem readableFields_iff {fields : Fields} :
    ReadableFields fields ↔ ∀ field ∈ fields, (∀ c ∈ field.1, Scalar c) ∧ Readable field.2 := by
  induction fields with
  | nil => simp [ReadableFields]
  | cons field fields ih => simp [ReadableFields, ih, and_assoc]

mutual

theorem readable_sortKeys : (v : Value) → Readable v → Readable (sortKeys v)
  | .null, h => h
  | .bool _, h => h
  | .int _, h => h
  | .float _, h => h
  | .str _, h => h
  | .arr items, h => readable_sortItems items h
  | .obj fields, h => by
      have hperm := List.perm_insertionSort (fun a b : Str × Value => a.1 ≤ b.1) (sortFields fields)
      rw [sortKeys]
      refine ⟨?_, ?_⟩
      · rw [(hperm.map _).nodup_iff, map_sortFields]
        exact h.1
      · rw [readableFields_iff]
        intro field hfield
        exact readableFields_iff.mp (readable_sortFields fields h.2) field (hperm.mem_iff.mp hfield)

theorem readable_sortItems : (items : List Value) → ReadableItems items →
    ReadableItems (sortItems items)
  | [], h => h
  | item :: items, h => ⟨readable_sortKeys item h.1, readable_sortItems items h.2⟩

theorem readable_sortFields : (fields : Fields) → ReadableFields fields →
    ReadableFields (sortFields fields)
  | [], h => h
  | (_, value) :: fields, h =>
      ⟨h.1, readable_sortKeys value h.2.1, readable_sortFields fields h.2.2⟩

end

/-- The canonical bytes of a value are read back as the value with its keys sorted. -/
theorem loads_dumps {v : Value} (h : Readable v) :
    ∃ b, encode (dumps v) = some b ∧ decode b = some (dumps v)
      ∧ loads (dumps v) = .ok (sortKeys v) := by
  have hread := readable_sortKeys v h
  have hencode : encode (dumps v) = some ((dumps v).flatMap encodePoint) :=
    encode_eq_some_iff.mpr ⟨scalar_write _ (Readable.written _ hread), rfl⟩
  exact ⟨_, hencode, decode_encode hencode, loads_write hread⟩

end PyJson
