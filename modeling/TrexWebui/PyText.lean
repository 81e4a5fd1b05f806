import Mathlib.Data.List.Basic
import Mathlib.Data.Nat.Notation
import Mathlib.Tactic.IntervalCases
import Mathlib.Tactic.SplitIfs

/-!
# Texts and JSON as Python writes them

The canonical texts of a UUID, a digest and a UTC timestamp, and the JSON
text of `json.dumps` with `ensure_ascii=False` and the separators `","` and
`":"`. `Json.size` is the number of bytes of that text in UTF-8, computed
without building it; `size_eq` connects the two.
-/

namespace PyText

/-! ## Digits -/

def hexDigit (d : Nat) : Char :=
  Char.ofNat (if d < 10 then 48 + d else 87 + d)

/-- The last `width` hexadecimal digits of a number. -/
def hexDigits : (width : Nat) → (value : Nat) → List Char
  | 0, _ => []
  | width + 1, value => hexDigits width (value / 16) ++ [hexDigit (value % 16)]

/-- The last `width` decimal digits of a number. -/
def decimalDigits : (width : Nat) → (value : Nat) → List Char
  | 0, _ => []
  | width + 1, value => decimalDigits width (value / 10) ++ [Char.ofNat (48 + value % 10)]

/-- `str(uuid.UUID(int=value))`. -/
def uuidText (value : Nat) : String :=
  String.ofList (hexDigits 8 (value / 16 ^ 24) ++ '-' :: hexDigits 4 (value / 16 ^ 20)
    ++ '-' :: hexDigits 4 (value / 16 ^ 16) ++ '-' :: hexDigits 4 (value / 16 ^ 12)
    ++ '-' :: hexDigits 12 value)

/-- `hashlib.sha256(…).hexdigest()` of a digest given as a number. -/
def sha256Text (value : Nat) : String := String.ofList (hexDigits 64 value)

/-- Year, month and day of a number of days since the epoch, in the proleptic
Gregorian calendar. -/
def civilDate (days : Nat) : Nat × Nat × Nat :=
  let shifted := days + 719468
  let era := shifted / 146097
  let dayOfEra := shifted % 146097
  let yearOfEra :=
    (dayOfEra - dayOfEra / 1460 + dayOfEra / 36524 - dayOfEra / 146096) / 365
  let dayOfYear := dayOfEra - (365 * yearOfEra + yearOfEra / 4 - yearOfEra / 100)
  let shiftedMonth := (5 * dayOfYear + 2) / 153
  let month := if shiftedMonth < 10 then shiftedMonth + 3 else shiftedMonth - 9
  let year := yearOfEra + era * 400 + (if month ≤ 2 then 1 else 0)
  (year, month, dayOfYear - (153 * shiftedMonth + 2) / 5 + 1)

/-- `datetime.isoformat()` in UTC with the offset written `Z`; the microseconds are
left out when they are zero. -/
def utcText (microseconds : Nat) : String :=
  let seconds := microseconds / 1000000
  let fraction := microseconds % 1000000
  let (year, month, day) := civilDate (seconds / 86400)
  let time := seconds % 86400
  String.ofList (decimalDigits 4 year ++ '-' :: decimalDigits 2 month ++ '-' :: decimalDigits 2 day
    ++ 'T' :: decimalDigits 2 (time / 3600) ++ ':' :: decimalDigits 2 (time / 60 % 60)
    ++ ':' :: decimalDigits 2 (time % 60)
    ++ (if fraction = 0 then [] else '.' :: decimalDigits 6 fraction) ++ ['Z'])

example : utcText 1704067200000000 = "2024-01-01T00:00:00Z" := by decide +kernel

/-- A number of microseconds as `f"{seconds:.3f}"`. -/
def secondsText (microseconds : Int) : String :=
  let milliseconds := (microseconds.natAbs + 500) / 1000
  (if microseconds < 0 then "-" else "") ++ toString (milliseconds / 1000) ++ "."
    ++ String.ofList (decimalDigits 3 milliseconds)

/-- `coefficient * 10 ^ (-scale)` in positional notation. -/
def decimalText (coefficient : Int) (scale : Nat) : String :=
  (if coefficient < 0 then "-" else "") ++ toString (coefficient.natAbs / 10 ^ scale)
    ++ (if scale = 0 then ""
        else "." ++ String.ofList (decimalDigits scale coefficient.natAbs))

@[simp] theorem length_hexDigits (width value : Nat) :
    (hexDigits width value).length = width := by
  induction width generalizing value with
  | zero => rfl
  | succ width ih => simp [hexDigits, ih]

/-! ## JSON -/

/-- A JSON value; `raw` is a number, or a value whose text is given. -/
inductive Json where
  | null
  | bool (b : Bool)
  | raw (text : String)
  | str (text : String)
  | arr (items : List Json)
  | obj (fields : List (String × Json))

def escapeChar (c : Char) : List Char :=
  if c = '"' then ['\\', '"']
  else if c = '\\' then ['\\', '\\']
  else if c = '\n' then ['\\', 'n']
  else if c = '\r' then ['\\', 'r']
  else if c = '\t' then ['\\', 't']
  else if c.toNat = 8 then ['\\', 'b']
  else if c.toNat = 12 then ['\\', 'f']
  else if c.toNat < 32 then '\\' :: 'u' :: hexDigits 4 c.toNat
  else [c]

def quote (s : String) : String :=
  "\"" ++ String.ofList (s.toList.flatMap escapeChar) ++ "\""

mutual

/-- `json.dumps(value, ensure_ascii=False, separators=(",", ":"))`. -/
def Json.text : Json → String
  | .null => "null"
  | .bool true => "true"
  | .bool false => "false"
  | .raw text => text
  | .str s => quote s
  | .arr items => "[" ++ itemsText items ++ "]"
  | .obj fields => "\x7b" ++ fieldsText fields ++ "\x7d"

def itemsText : List Json → String
  | [] => ""
  | [item] => item.text
  | item :: rest => item.text ++ "," ++ itemsText rest

def fieldsText : List (String × Json) → String
  | [] => ""
  | [(key, value)] => quote key ++ ":" ++ value.text
  | (key, value) :: rest => quote key ++ ":" ++ value.text ++ "," ++ fieldsText rest

end

mutual

def Json.size : Json → Nat
  | .null => 4
  | .bool true => 4
  | .bool false => 5
  | .raw text => text.utf8ByteSize
  | .str s => (quote s).utf8ByteSize
  | .arr items => 2 + itemsSize items + (items.length - 1)
  | .obj fields => 2 + fieldsSize fields + (fields.length - 1)

def itemsSize : List Json → Nat
  | [] => 0
  | item :: rest => item.size + itemsSize rest

def fieldsSize : List (String × Json) → Nat
  | [] => 0
  | (key, value) :: rest => (quote key).utf8ByteSize + 1 + value.size + fieldsSize rest

end

mutual

theorem Json.size_eq : (value : Json) → value.text.utf8ByteSize = value.size
  | .null => rfl
  | .bool true => rfl
  | .bool false => rfl
  | .raw _ => rfl
  | .str _ => rfl
  | .arr items => by
      rw [Json.text, Json.size, String.utf8ByteSize_append, String.utf8ByteSize_append,
        itemsText_size items]
      change 1 + _ + 1 = _
      omega
  | .obj fields => by
      rw [Json.text, Json.size, String.utf8ByteSize_append, String.utf8ByteSize_append,
        fieldsText_size fields]
      change 1 + _ + 1 = _
      omega

theorem itemsText_size : (items : List Json) →
    (itemsText items).utf8ByteSize = itemsSize items + (items.length - 1)
  | [] => rfl
  | [item] => by
      rw [itemsText, itemsSize, itemsSize, Json.size_eq item]
      rfl
  | item :: next :: rest => by
      rw [itemsText, itemsSize, String.utf8ByteSize_append, String.utf8ByteSize_append,
        Json.size_eq item, itemsText_size (next :: rest)]
      · change _ + 1 + (_ + (rest.length + 1 - 1)) = _ + (rest.length + 2 - 1)
        omega
      · simp

theorem fieldsText_size : (fields : List (String × Json)) →
    (fieldsText fields).utf8ByteSize = fieldsSize fields + (fields.length - 1)
  | [] => rfl
  | [(key, value)] => by
      rw [fieldsText, fieldsSize, fieldsSize, String.utf8ByteSize_append,
        String.utf8ByteSize_append, Json.size_eq value]
      rfl
  | (key, value) :: next :: rest => by
      rw [fieldsText, fieldsSize, String.utf8ByteSize_append, String.utf8ByteSize_append,
        String.utf8ByteSize_append, String.utf8ByteSize_append,
        Json.size_eq value, fieldsText_size (next :: rest)]
      · change _ + 1 + _ + 1 + (_ + (rest.length + 1 - 1)) = _ + 1 + _ + _ + (rest.length + 2 - 1)
        omega
      · simp

end

/-! ## Sizes -/

def charsSize (l : List Char) : Nat := (l.map Char.utf8Size).sum

theorem utf8ByteSize_ofList (l : List Char) :
    (String.ofList l).utf8ByteSize = charsSize l := by
  induction l with
  | nil => rfl
  | cons c l ih =>
      rw [String.ofList_cons, String.utf8ByteSize_append, String.utf8ByteSize_singleton, ih]
      rfl

theorem charsSize_toList (s : String) : charsSize s.toList = s.utf8ByteSize := by
  rw [← utf8ByteSize_ofList, String.ofList_toList]

theorem utf8Size_of_ascii {c : Char} (h : c.toNat < 128) : c.utf8Size = 1 := by
  have hval : c.val.toNat ≤ 0x7f := Nat.le_of_lt_succ h
  unfold Char.utf8Size
  rw [if_pos (UInt32.le_iff_toNat_le.mpr hval)]

theorem charsSize_of_ascii {l : List Char} (h : ∀ c ∈ l, c.toNat < 128) :
    charsSize l = l.length := by
  induction l with
  | nil => rfl
  | cons c l ih =>
      have hc := utf8Size_of_ascii (h c List.mem_cons_self)
      have hl := ih fun d hd => h d (List.mem_cons_of_mem c hd)
      rw [charsSize, List.map_cons, List.sum_cons, hc, List.length_cons, ← hl, Nat.add_comm]
      rfl

theorem hexDigit_ascii (d : Nat) (hd : d < 16) : (hexDigit d).toNat < 128 := by
  interval_cases d <;> decide

theorem hexDigits_ascii (width value : Nat) :
    ∀ c ∈ hexDigits width value, c.toNat < 128 := by
  induction width generalizing value with
  | zero => intro c hc; cases hc
  | succ width ih =>
      intro c hc
      rcases List.mem_append.mp hc with hc | hc
      · exact ih _ c hc
      · rw [List.mem_singleton.mp hc]
        exact hexDigit_ascii _ (Nat.mod_lt _ (by decide))

theorem decimalDigits_ascii (width value : Nat) :
    ∀ c ∈ decimalDigits width value, c.toNat < 128 := by
  induction width generalizing value with
  | zero => intro c hc; cases hc
  | succ width ih =>
      intro c hc
      rcases List.mem_append.mp hc with hc | hc
      · exact ih _ c hc
      · rw [List.mem_singleton.mp hc]
        have hlt : value % 10 < 10 := Nat.mod_lt _ (by decide)
        generalize value % 10 = d at hlt
        interval_cases d <;> decide

@[simp] theorem length_decimalDigits (width value : Nat) :
    (decimalDigits width value).length = width := by
  induction width generalizing value with
  | zero => rfl
  | succ width ih => simp [decimalDigits, ih]

theorem uuidText_size (value : Nat) : (uuidText value).utf8ByteSize = 36 := by
  rw [uuidText, utf8ByteSize_ofList, charsSize_of_ascii]
  · simp
  · intro c hc
    simp only [List.mem_append, List.mem_cons] at hc
    rcases hc with (((hc | rfl | hc) | rfl | hc) | rfl | hc) | rfl | hc
    all_goals first | exact hexDigits_ascii _ _ c hc | decide

theorem sha256Text_size (value : Nat) : (sha256Text value).utf8ByteSize = 64 := by
  rw [sha256Text, utf8ByteSize_ofList, charsSize_of_ascii (hexDigits_ascii _ _),
    length_hexDigits]

theorem utcText_size_le (microseconds : Nat) : (utcText microseconds).utf8ByteSize ≤ 27 := by
  unfold utcText
  dsimp only
  rw [utf8ByteSize_ofList, charsSize_of_ascii]
  · split <;> simp
  · intro c hc
    simp only [List.mem_append, List.mem_cons, List.not_mem_nil, or_false] at hc
    rcases hc with ((((((hc | rfl | hc) | rfl | hc) | rfl | hc) | rfl | hc) | rfl | hc) | hc)
      | rfl
    all_goals try first | exact decimalDigits_ascii _ _ c hc | decide
    split at hc
    · cases hc
    · rcases List.mem_cons.mp hc with rfl | hc
      · decide
      · exact decimalDigits_ascii _ _ c hc

theorem repr_size_le (n : Nat) : (toString n).utf8ByteSize ≤ n + 1 := by
  have hdigits : ∀ c ∈ Nat.toDigits 10 n, c.toNat < 128 := fun c hc => by
    have hdigit := Nat.isDigit_of_mem_toDigits (by decide) (by decide) hc
    have hval : c.val.toNat ≤ 57 := by
      have := Char.isDigit_iff_toNat.mp hdigit
      exact this.2
    exact Nat.lt_of_le_of_lt hval (by decide)
  rw [Nat.toString_eq_ofList_toDigits, utf8ByteSize_ofList, charsSize_of_ascii hdigits,
    Nat.length_toDigits_le_iff (by decide) (Nat.succ_pos n)]
  exact Nat.lt_of_lt_of_le (Nat.lt_pow_self (by decide)) (Nat.pow_le_pow_right (by decide) (by omega))

theorem charsSize_escape {d : Char} (hd : d.toNat < 128) : charsSize ['\\', d] = 2 := by
  rw [charsSize_of_ascii]
  · rfl
  · intro e he
    rcases List.mem_cons.mp he with rfl | he
    · decide
    · rw [List.mem_singleton.mp he]
      exact hd

theorem charsSize_control (n : Nat) : charsSize ('\\' :: 'u' :: hexDigits 4 n) = 6 := by
  rw [charsSize_of_ascii, List.length_cons, List.length_cons, length_hexDigits]
  intro d hd
  rcases List.mem_cons.mp hd with rfl | hd
  · decide
  · rcases List.mem_cons.mp hd with rfl | hd
    · decide
    · exact hexDigits_ascii _ _ d hd

theorem escapeChar_size_le (c : Char) : charsSize (escapeChar c) ≤ 6 * c.utf8Size := by
  have hpos : 0 < c.utf8Size := c.utf8Size_pos
  have hplain : charsSize [c] = c.utf8Size := by simp [charsSize]
  have hcontrol := charsSize_control c.toNat
  have hshort : ∀ {d : Char}, d.toNat < 128 → charsSize ['\\', d] ≤ 6 * c.utf8Size :=
    fun hd => by rw [charsSize_escape hd]; omega
  unfold escapeChar
  split_ifs
  · exact hshort (by decide)
  · exact hshort (by decide)
  · exact hshort (by decide)
  · exact hshort (by decide)
  · exact hshort (by decide)
  · exact hshort (by decide)
  · exact hshort (by decide)
  · omega
  · omega

theorem quote_size_le (s : String) : (quote s).utf8ByteSize ≤ 6 * s.utf8ByteSize + 2 := by
  have hflat : ∀ l : List Char, charsSize (l.flatMap escapeChar) ≤ 6 * charsSize l := by
    intro l
    induction l with
    | nil => exact Nat.zero_le _
    | cons c l ih =>
        have hc := escapeChar_size_le c
        simp only [charsSize, List.flatMap_cons, List.map_append, List.sum_append, List.map_cons,
          List.sum_cons] at ih hc ⊢
        omega
  have h := hflat s.toList
  rw [charsSize_toList] at h
  rw [quote, String.utf8ByteSize_append, String.utf8ByteSize_append,
    utf8ByteSize_ofList (s.toList.flatMap escapeChar)]
  change 1 + _ + 1 ≤ _
  omega

end PyText
