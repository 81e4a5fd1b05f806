import TrexWebui.PyJson
import TrexWebui.PyText

/-!
# What a reader makes of a JSON text

`PyText.Json` is a value on its way into a file: its numbers and its free-form
parts are given as texts. `PyJson` is the reader of the file. Here the two are
connected: under an interpretation of the texts (`Json.value`) the text of the
value is the text that `PyJson` writes (`write_value`), so the reader returns
the interpretation, or refuses the first number in it that is not finite
(`loads_text`).
-/

namespace PyText

open PyStr PyJson

/-! ## The texts in a value -/

mutual

/-- The texts that a value is given with: its numbers and its free-form parts. -/
def Json.raws : Json → List String
  | .raw text => [text]
  | .arr items => itemsRaws items
  | .obj fields => fieldsRaws fields
  | _ => []

def itemsRaws : List Json → List String
  | [] => []
  | item :: rest => item.raws ++ itemsRaws rest

def fieldsRaws : List (String × Json) → List String
  | [] => []
  | (_, value) :: rest => value.raws ++ fieldsRaws rest

end

mutual

def Json.KeysDistinct : Json → Prop
  | .arr items => ItemsDistinct items
  | .obj fields => (fields.map (·.1)).Nodup ∧ FieldsDistinct fields
  | _ => True

def ItemsDistinct : List Json → Prop
  | [] => True
  | item :: rest => item.KeysDistinct ∧ ItemsDistinct rest

def FieldsDistinct : List (String × Json) → Prop
  | [] => True
  | (_, value) :: rest => value.KeysDistinct ∧ FieldsDistinct rest

end

theorem itemsDistinct_iff {items : List Json} :
    ItemsDistinct items ↔ ∀ item ∈ items, item.KeysDistinct := by
  induction items with
  | nil => simp [ItemsDistinct]
  | cons item items ih => simp [ItemsDistinct, ih]

theorem fieldsDistinct_iff {fields : List (String × Json)} :
    FieldsDistinct fields ↔ ∀ field ∈ fields, field.2.KeysDistinct := by
  induction fields with
  | nil => simp [FieldsDistinct]
  | cons field fields ih => simp [FieldsDistinct, ih]

/-! ## The interpretation -/

section Interpretation

variable (read : String → Value)

mutual

/-- What a value stands for, when its texts stand for what `read` says. -/
def Json.value : Json → Value
  | .null => .null
  | .bool b => .bool b
  | .raw text => read text
  | .str s => .str (text s)
  | .arr items => .arr (itemsValue items)
  | .obj fields => .obj (fieldsValue fields)

def itemsValue : List Json → List Value
  | [] => []
  | item :: rest => item.value :: itemsValue rest

def fieldsValue : List (String × Json) → Fields
  | [] => []
  | (key, value) :: rest => (text key, value.value) :: fieldsValue rest

end

/-- `read` says what the reader makes of a text. -/
def Reads (t : String) : Prop := Written (read t) ∧ write (read t) = text t

end Interpretation

/-- The text is one that `json.dumps` writes. -/
def IsJsonText (t : String) : Prop := ∃ v, Written v ∧ write v = text t

theorem exists_reads {texts : List String} (h : ∀ t ∈ texts, IsJsonText t) :
    ∃ read : String → Value, ∀ t ∈ texts, Reads read t := by
  classical
  refine ⟨fun t => if ht : t ∈ texts then (h t ht).choose else .null, fun t ht => ?_⟩
  rw [Reads, dif_pos ht]
  exact (h t ht).choose_spec

/-! ## Texts as code points -/

theorem text_append (s t : String) : text (s ++ t) = text s ++ text t := by
  simp [text]

theorem text_ofList (l : List Char) : text (String.ofList l) = l.map Char.toNat := by
  simp [text]

theorem text_injective : Function.Injective text := by
  intro s t h
  have hlist : s.toList = t.toList :=
    List.map_injective_iff.mpr (fun a b hab => Char.toNat_inj.mp hab) h
  exact String.toList_inj.mp hlist

theorem scalar_text (s : String) : ∀ c ∈ text s, Scalar c := by
  intro c hc
  obtain ⟨d, -, rfl⟩ := List.mem_map.mp hc
  rcases d.valid with h | ⟨h, h'⟩
  · exact Or.inl h
  · exact Or.inr ⟨h, h'⟩

theorem toNat_hexDigit {d : Nat} (hd : d < 16) :
    (hexDigit d).toNat = PyStr.hexDigit d := by
  interval_cases d <;> rfl

theorem escape_toNat (c : Char) : (escapeChar c).map Char.toNat = escape c.toNat := by
  have hne : ∀ d : Char, c ≠ d → c.toNat ≠ d.toNat := fun d h heq => h (Char.toNat_inj.mp heq)
  unfold escapeChar
  split_ifs with hquote hback hn hr ht hb hf hcontrol
  · rw [hquote]; rfl
  · rw [hback]; rfl
  · rw [hn]; rfl
  · rw [hr]; rfl
  · rw [ht]; rfl
  · rw [hb]; rfl
  · rw [hf]; rfl
  all_goals
    have h34 : c.toNat ≠ quoteMark := hne '"' hquote
    have h92 : c.toNat ≠ backslash := hne '\\' hback
    have h10 : c.toNat ≠ 10 := hne '\n' hn
    have h13 : c.toNat ≠ 13 := hne '\r' hr
    have h9 : c.toNat ≠ 9 := hne '\t' ht
    unfold escape
    rw [if_neg (not_or.mpr ⟨h34, h92⟩), if_neg h10, if_neg h13, if_neg h9, if_neg hb, if_neg hf]
  · have hhigh := @toNat_hexDigit (c.toNat / 16) (by omega)
    have hlow := @toNat_hexDigit (c.toNat % 16) (by omega)
    have hsmall : c.toNat / 16 % 16 = c.toNat / 16 := by omega
    have hzero : c.toNat / 16 / 16 = 0 := by omega
    rw [if_pos hcontrol]
    simp only [hexDigits, hsmall, hzero, List.nil_append, List.cons_append, List.map_cons,
      List.map_nil, hhigh, hlow]
    rfl
  · rw [if_neg hcontrol]
    rfl

theorem text_quote (s : String) : text (PyText.quote s) = PyJson.quote (text s) := by
  rw [PyText.quote, text_append, text_append, text_ofList (s.toList.flatMap escapeChar),
    PyJson.quote, List.map_flatMap]
  have hescape : (s.toList.flatMap fun c => (escapeChar c).map Char.toNat)
      = (text s).flatMap escape := by
    rw [text, List.flatMap_map]
    exact List.flatMap_congr fun c _ => escape_toNat c
  rw [hescape]
  rfl

/-! ## What is written, under the interpretation -/

theorem itemsText_cons_cons (item next : Json) (rest : List Json) :
    itemsText (item :: next :: rest) = item.text ++ "," ++ itemsText (next :: rest) := by
  rw [itemsText]
  simp

theorem fieldsText_cons_cons (key : String) (value : Json) (next : String × Json)
    (rest : List (String × Json)) :
    fieldsText ((key, value) :: next :: rest)
      = PyText.quote key ++ ":" ++ value.text ++ "," ++ fieldsText (next :: rest) := by
  rw [fieldsText]
  simp

theorem text_comma : text "," = [comma] := rfl
theorem text_colon : text ":" = [colon] := rfl
theorem text_openBracket : text "[" = [openBracket] := rfl
theorem text_closeBracket : text "]" = [closeBracket] := rfl
theorem text_openBrace : text "\x7b" = [openBrace] := rfl
theorem text_closeBrace : text "\x7d" = [closeBrace] := rfl
theorem text_empty : text "" = [] := rfl

section Reading

variable {read : String → Value}

mutual

/-- The text of a value is the text of what it stands for. -/
theorem write_value : (j : Json) → (∀ t ∈ j.raws, Reads read t) →
    write (j.value read) = text j.text
  | .null, _ => rfl
  | .bool true, _ => rfl
  | .bool false, _ => rfl
  | .raw t, h => (h t List.mem_cons_self).2
  | .str s, _ => (text_quote s).symm
  | .arr [], _ => rfl
  | .arr (item :: items), h => by
      have hitem := write_value item fun t ht => h t (List.mem_append_left _ ht)
      have hitems := write_itemsValue items fun t ht => h t (List.mem_append_right _ ht)
      rw [Json.value, itemsValue, write, Json.text, hitem, hitems]
      cases items with
      | nil => simp [itemsText, text_append, text_openBracket, text_closeBracket, text_empty]
      | cons next items =>
          simp [itemsText_cons_cons, text_append, text_openBracket, text_closeBracket, text_comma]
  | .obj [], _ => rfl
  | .obj ((key, value) :: fields), h => by
      have hvalue := write_value value fun t ht => h t (List.mem_append_left _ ht)
      have hfields := write_fieldsValue fields fun t ht => h t (List.mem_append_right _ ht)
      rw [Json.value, fieldsValue, write, Json.text, hvalue, hfields, ← text_quote]
      cases fields with
      | nil =>
          simp [fieldsText, text_append, text_openBrace, text_closeBrace, text_colon, text_empty]
      | cons next fields =>
          simp [fieldsText_cons_cons, text_append, text_openBrace, text_closeBrace, text_colon,
            text_comma]

theorem write_itemsValue : (items : List Json) → (∀ t ∈ itemsRaws items, Reads read t) →
    writeItems (itemsValue read items)
      = (if items.isEmpty then [] else [comma]) ++ text (itemsText items) ++ [closeBracket]
  | [], _ => rfl
  | item :: items, h => by
      have hitem := write_value item fun t ht => h t (List.mem_append_left _ ht)
      have hitems := write_itemsValue items fun t ht => h t (List.mem_append_right _ ht)
      rw [itemsValue, writeItems, hitem, hitems]
      cases items with
      | nil => simp [itemsText, text_empty]
      | cons next items => simp [itemsText_cons_cons, text_append, text_comma]

theorem write_fieldsValue : (fields : List (String × Json)) →
    (∀ t ∈ fieldsRaws fields, Reads read t) →
    writeFields (fieldsValue read fields)
      = (if fields.isEmpty then [] else [comma]) ++ text (fieldsText fields) ++ [closeBrace]
  | [], _ => rfl
  | (key, value) :: fields, h => by
      have hvalue := write_value value fun t ht => h t (List.mem_append_left _ ht)
      have hfields := write_fieldsValue fields fun t ht => h t (List.mem_append_right _ ht)
      rw [fieldsValue, writeFields, hvalue, hfields, ← text_quote]
      cases fields with
      | nil => simp [fieldsText, text_append, text_colon, text_empty]
      | cons next fields => simp [fieldsText_cons_cons, text_append, text_colon, text_comma]

end

theorem keys_fieldsValue (fields : List (String × Json)) :
    (fieldsValue read fields).map (·.1) = (fields.map (·.1)).map text := by
  induction fields with
  | nil => rfl
  | cons field fields ih => rw [fieldsValue, List.map_cons, ih]; rfl

mutual

theorem written_value : (j : Json) → (∀ t ∈ j.raws, Reads read t) → j.KeysDistinct →
    Written (j.value read)
  | .null, _, _ => trivial
  | .bool _, _, _ => trivial
  | .raw t, h, _ => (h t List.mem_cons_self).1
  | .str s, _, _ => scalar_text s
  | .arr items, h, hkeys => written_itemsValue items h hkeys
  | .obj fields, h, hkeys => by
      refine ⟨?_, written_fieldsValue fields h hkeys.2⟩
      rw [keys_fieldsValue]
      exact hkeys.1.map text_injective

theorem written_itemsValue : (items : List Json) → (∀ t ∈ itemsRaws items, Reads read t) →
    ItemsDistinct items → WrittenItems (itemsValue read items)
  | [], _, _ => trivial
  | item :: items, h, hkeys =>
      ⟨written_value item (fun t ht => h t (List.mem_append_left _ ht)) hkeys.1,
        written_itemsValue items (fun t ht => h t (List.mem_append_right _ ht)) hkeys.2⟩

theorem written_fieldsValue : (fields : List (String × Json)) →
    (∀ t ∈ fieldsRaws fields, Reads read t) → FieldsDistinct fields →
    WrittenFields (fieldsValue read fields)
  | [], _, _ => trivial
  | (key, value) :: fields, h, hkeys =>
      ⟨scalar_text key, written_value value (fun t ht => h t (List.mem_append_left _ ht)) hkeys.1,
        written_fieldsValue fields (fun t ht => h t (List.mem_append_right _ ht)) hkeys.2⟩

end

/-! ## Numbers that are not finite -/

def finiteText (t : String) : Bool :=
  match loads (text t) with
  | .error (.constant _) => false
  | _ => true

/-- No number in the value, and none in its free-form parts, is infinite or `NaN`. -/
def Json.finite (j : Json) : Bool := j.raws.all finiteText

theorem loads_raw {t : String} (h : Reads read t) :
    loads (text t) = orConstant (constant? (read t)) (read t) := by
  have hread := @loads_written _ h.1 [] fun _ hc => by cases hc
  rwa [List.append_nil, h.2] at hread

theorem finiteText_iff {t : String} (h : Reads read t) :
    finiteText t = true ↔ constant? (read t) = none := by
  rw [finiteText, loads_raw h]
  cases constant? (read t) <;> simp [orConstant]

mutual

theorem constant?_value : (j : Json) → (∀ t ∈ j.raws, Reads read t) →
    (constant? (j.value read) = none ↔ j.raws.all finiteText = true)
  | .null, _ => by simp [Json.value, constant?, Json.raws]
  | .bool _, _ => by simp [Json.value, constant?, Json.raws]
  | .raw t, h => by
      rw [Json.value, Json.raws, List.all_cons, List.all_nil, Bool.and_true,
        finiteText_iff (h t List.mem_cons_self)]
  | .str _, _ => by simp [Json.value, constant?, Json.raws]
  | .arr items, h => constant?_itemsValue items h
  | .obj fields, h => constant?_fieldsValue fields h

theorem constant?_itemsValue : (items : List Json) → (∀ t ∈ itemsRaws items, Reads read t) →
    (constantOfItems? (itemsValue read items) = none ↔ (itemsRaws items).all finiteText = true)
  | [], _ => by simp [itemsValue, constantOfItems?, itemsRaws]
  | item :: items, h => by
      rw [itemsValue, constantOfItems?, itemsRaws, List.all_append, Bool.and_eq_true,
        Option.or_eq_none_iff,
        constant?_value item fun t ht => h t (List.mem_append_left _ ht),
        constant?_itemsValue items fun t ht => h t (List.mem_append_right _ ht)]

theorem constant?_fieldsValue : (fields : List (String × Json)) →
    (∀ t ∈ fieldsRaws fields, Reads read t) →
    (constantOfFields? (fieldsValue read fields) = none ↔ (fieldsRaws fields).all finiteText = true)
  | [], _ => by simp [fieldsValue, constantOfFields?, fieldsRaws]
  | (key, value) :: fields, h => by
      rw [fieldsValue, constantOfFields?, fieldsRaws, List.all_append, Bool.and_eq_true,
        Option.or_eq_none_iff,
        constant?_value value fun t ht => h t (List.mem_append_left _ ht),
        constant?_fieldsValue fields fun t ht => h t (List.mem_append_right _ ht)]

end

theorem loads_finite {j : Json} (hread : ∀ t ∈ j.raws, Reads read t) (hkeys : j.KeysDistinct)
    (hfinite : j.finite = true) {tail : Str} (htail : ∀ c ∈ tail, isSpace c = true) :
    loads (text j.text ++ tail) = .ok (j.value read) := by
  rw [← write_value j hread, loads_written (written_value j hread hkeys) htail,
    (constant?_value j hread).mpr hfinite]
  rfl

theorem loads_infinite {j : Json} (hread : ∀ t ∈ j.raws, Reads read t) (hkeys : j.KeysDistinct)
    (hfinite : j.finite = false) {tail : Str} (htail : ∀ c ∈ tail, isSpace c = true) :
    ∃ name, loads (text j.text ++ tail) = .error (.constant name) := by
  rw [← write_value j hread, loads_written (written_value j hread hkeys) htail]
  cases hconstant : constant? (j.value read) with
  | none =>
      have := (constant?_value j hread).mp hconstant
      rw [Json.finite, this] at hfinite
      exact Bool.noConfusion hfinite
  | some name => exact ⟨name, rfl⟩

theorem eq_int_of_digits {v : Value} (h : Written v) (hdigits : ∀ c ∈ write v, isDigit c = true) :
    ∃ n : Nat, v = .int n := by
  have hfirst : ∀ {c : Nat} {rest : Str}, write v = c :: rest → isDigit c = true :=
    fun heq => hdigits _ (by rw [heq]; exact List.mem_cons_self)
  cases v with
  | null => exact absurd (hfirst rfl) (by decide)
  | bool b => cases b <;> exact absurd (hfirst rfl) (by decide)
  | int i =>
      by_cases hneg : i < 0
      · exact absurd (hfirst (by rw [write, if_pos hneg]; rfl)) (by decide : ¬ isDigit minus = true)
      · exact ⟨i.natAbs, by rw [Int.natAbs_of_nonneg (not_lt.mp hneg)]⟩
  | float literal =>
      rcases h with ⟨negative, whole, fraction, exponent, hfraction, hexponent, hne, rfl⟩ | h
      · -- A point or an `e` is no digit.
        refine absurd hne (not_or.mpr ⟨fun hpoint => hpoint ?_, fun he => he ?_⟩)
        · rcases hfraction with rfl | ⟨digits, -, -, rfl⟩
          · rfl
          · exact absurd (hdigits point (by simp [write])) (by decide)
        · rcases hexponent with rfl | ⟨sign, digits, -, -, -, rfl⟩
          · rfl
          · exact absurd (hdigits 101 (by simp [write])) (by decide)
      · simp only [constants, List.mem_cons, List.not_mem_nil, or_false] at h
        rcases h with rfl | rfl | rfl <;> exact absurd (hfirst rfl) (by decide)
  | str s => exact absurd (hfirst rfl) (by decide)
  | arr items => cases items <;> exact absurd (hfirst rfl) (by decide)
  | obj fields =>
      cases fields with
      | nil => exact absurd (hfirst rfl) (by decide)
      | cons field fields => exact absurd (hfirst rfl) (by decide)

theorem text_nat (n : Nat) : text (toString n) = decimal n := by
  rw [Nat.toString_eq_ofList_toDigits, text_ofList, decimal]

theorem isJsonText_nat {n : Nat} (h : (decimal n).length ≤ 4300) : IsJsonText (toString n) :=
  ⟨.int n, h, by rw [text_nat, write, if_neg (by omega)]; rfl⟩

theorem read_nat {n : Nat} (h : Reads read (toString n)) : read (toString n) = .int n := by
  have hwrite : write (read (toString n)) = decimal n := h.2.trans (text_nat n)
  obtain ⟨m, hm⟩ := eq_int_of_digits h.1 fun c hc => isDigit_decimal (hwrite ▸ hc)
  have hdecimal : decimal m = decimal n := by
    rw [← hwrite, hm, write, if_neg (by omega)]
    rfl
  rw [hm, ← ofDecimal_decimal m, hdecimal, ofDecimal_decimal]

end Reading

end PyText
