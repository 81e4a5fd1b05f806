import TrexWebui.PyJson

/-!
# JSON on a line

`json.dumps` with `ensure_ascii=False`, `sort_keys=True` and its own separators, a comma and
a colon with a space behind each, and `json.loads` without hooks: the last of the entries of
a key counts, and `NaN` and the infinities are numbers. A value that was written is read
back with its keys sorted (`loads_dumps`). The text has no control character, so it is one
line to every reader that splits at these only; a character outside ASCII stands in it
exactly if it stands in a string of the value (`mem_write`).
-/

namespace JsonLines

open PyStr PyJson

/-! ## Writing -/

def space : Nat := 32

mutual

def writeSpaced : Value → Str
  | .arr (item :: rest) => openBracket :: writeSpaced item ++ writeSpacedItems rest
  | .obj ((key, value) :: rest) =>
    openBrace :: quote key ++ colon :: space :: writeSpaced value ++ writeSpacedFields rest
  | value => write value

def writeSpacedItems : List Value → Str
  | [] => [closeBracket]
  | item :: rest => comma :: space :: writeSpaced item ++ writeSpacedItems rest

def writeSpacedFields : Fields → Str
  | [] => [closeBrace]
  | (key, value) :: rest =>
    comma :: space :: quote key ++ colon :: space :: writeSpaced value ++ writeSpacedFields rest

end

/-- `json.dumps(value, ensure_ascii=False, sort_keys=True)` -/
def dumpsSpaced (value : Value) : Str := writeSpaced (sortKeys value)

/-! ## Reading -/

/-- `d[key] = value` -/
def setKey (fields : Fields) (key : Str) (value : Value) : Fields :=
  if key ∈ fields.map (·.1) then
    fields.map fun field => if field.1 = key then (key, value) else field
  else fields ++ [(key, value)]

def dictOf (fields : Fields) : Fields :=
  fields.foldl (fun dict field => setKey dict field.1 field.2) []

def constantAt (s : Str) : Except LoadError (Value × Str) :=
  match constants.find? (·.isPrefixOf s) with
  | some name => .ok (.float name, s.drop name.length)
  | none => .error .decode

mutual

/-- A value. The fuel bounds the number of calls, at most two for each character. -/
def parseValue : (fuel : Nat) → Str → Except LoadError (Value × Str)
  | 0, _ => .error .decode
  | _ + 1, [] => .error .decode
  | fuel + 1, c :: rest =>
    if c = quoteMark then do
      let (s, rest) ← scanText (c :: rest)
      pure (.str s, rest)
    else if c = openBrace then
      if (skipSpaces rest).head? = some closeBrace then .ok (.obj [], (skipSpaces rest).tail)
      else do
        let (fields, rest) ← parseFields fuel (skipSpaces rest)
        pure (.obj (dictOf fields), rest)
    else if c = openBracket then
      if (skipSpaces rest).head? = some closeBracket then .ok (.arr [], (skipSpaces rest).tail)
      else do
        let (items, rest) ← parseItems fuel (skipSpaces rest)
        pure (.arr items, rest)
    else if let some rest := after? "null" (c :: rest) then .ok (.null, rest)
    else if let some rest := after? "true" (c :: rest) then .ok (.bool true, rest)
    else if let some rest := after? "false" (c :: rest) then .ok (.bool false, rest)
    else match scanNumber (c :: rest) with
    | .error .decode => constantAt (c :: rest)
    | scanned => scanned

/-- The items of a list from one of them on, and the closing bracket. -/
def parseItems : (fuel : Nat) → Str → Except LoadError (List Value × Str)
  | 0, _ => .error .decode
  | fuel + 1, s => do
    let (item, rest) ← parseValue fuel s
    match skipSpaces rest with
    | [] => .error .decode
    | c :: rest =>
      if c = comma then do
        let (items, rest) ← parseItems fuel (skipSpaces rest)
        pure (item :: items, rest)
      else if c = closeBracket then pure ([item], rest)
      else .error .decode

/-- The entries of an object from one of them on, and the closing brace. -/
def parseFields : (fuel : Nat) → Str → Except LoadError (Fields × Str)
  | 0, _ => .error .decode
  | fuel + 1, s => do
    let (key, rest) ← scanText s
    match skipSpaces rest with
    | [] => .error .decode
    | c :: rest =>
      if c ≠ colon then .error .decode
      else do
        let (value, rest) ← parseValue fuel (skipSpaces rest)
        match skipSpaces rest with
        | [] => .error .decode
        | c :: rest =>
          if c = comma then do
            let (fields, rest) ← parseFields fuel (skipSpaces rest)
            pure ((key, value) :: fields, rest)
          else if c = closeBrace then pure ([(key, value)], rest)
          else .error .decode

end

/-- `json.loads(s)` -/
def jsonLoads (s : Str) : Except LoadError Value := do
  let (value, rest) ← parseValue (2 * s.length + 2) (skipSpaces s)
  if skipSpaces rest = [] then pure value else .error .decode

/-! ## Dictionaries of distinct keys -/

theorem foldl_setKey {fields done : Fields} (h : ((done ++ fields).map (·.1)).Nodup) :
    fields.foldl (fun dict field => setKey dict field.1 field.2) done = done ++ fields := by
  induction fields generalizing done with
  | nil => exact (List.append_nil done).symm
  | cons field fields ih =>
      have hnot : field.1 ∉ done.map (·.1) := by
        intro hmem
        rw [List.map_append, List.map_cons, List.nodup_append] at h
        exact h.2.2 field.1 hmem field.1 List.mem_cons_self rfl
      rw [List.foldl_cons, setKey, if_neg hnot, ih (by rwa [List.append_assoc]), List.append_assoc]
      rfl

theorem dictOf_eq_self {fields : Fields} (h : (fields.map (·.1)).Nodup) : dictOf fields = fields :=
  foldl_setKey h

/-! ## Reading back what was written -/

theorem head_writeSpaced (v : Value) : (writeSpaced v).head? = (write v).head? := by
  cases v with
  | arr items => cases items <;> rfl
  | obj fields => cases fields <;> rfl
  | _ => rfl

theorem writeSpaced_eq_cons {v : Value} (h : Written v) :
    ∃ c t, writeSpaced v = c :: t ∧ isSpace c = false ∧ c ≠ closeBracket := by
  obtain ⟨c, t, hwrite, hspace, hne⟩ := write_eq_cons h
  have hhead := head_writeSpaced v
  rw [hwrite] at hhead
  obtain ⟨rest, hrest⟩ := List.head?_eq_some_iff.mp hhead
  exact ⟨c, rest, hrest, hspace, hne⟩

theorem skipSpaces_writeSpaced {v : Value} (h : Written v) (rest : Str) :
    skipSpaces (space :: (writeSpaced v ++ rest)) = writeSpaced v ++ rest := by
  obtain ⟨c, t, hwrite, hspace, -⟩ := writeSpaced_eq_cons h
  rw [hwrite, List.cons_append]
  exact skipSpaces_cons hspace _

theorem skipSpaces_head {v : Value} (h : Written v) (rest : Str) :
    skipSpaces (writeSpaced v ++ rest) = writeSpaced v ++ rest := by
  obtain ⟨c, t, hwrite, hspace, -⟩ := writeSpaced_eq_cons h
  rw [hwrite, List.cons_append]
  exact skipSpaces_cons hspace _

theorem head_writeSpaced_ne {v : Value} (h : Written v) (rest : Str) :
    (writeSpaced v ++ rest).head? ≠ some closeBracket := by
  obtain ⟨c, t, hwrite, -, hne⟩ := writeSpaced_eq_cons h
  rw [hwrite]
  exact fun heq => hne (Option.some.inj heq)

theorem skipSpaces_quote (key tail : Str) :
    skipSpaces (space :: (quote key ++ tail)) = quote key ++ tail := by
  rfl

theorem parseValue_number {s rest : Str} {scanned : Value × Str} (fuel : Nat)
    (hs : ∃ c t, s = c :: t ∧ (c = minus ∨ isDigit c = true))
    (hscan : scanNumber (s ++ rest) = .ok scanned) :
    parseValue (fuel + 1) (s ++ rest) = .ok scanned := by
  obtain ⟨c, t, rfl, hc⟩ := hs
  rw [List.cons_append] at hscan ⊢
  have hrange : c = 45 ∨ 48 ≤ c ∧ c ≤ 57 := by
    simpa [isDigit, minus] using hc
  have hword : ∀ (d : Nat) (ds : Str), c ≠ d → (d :: ds).isPrefixOf? (c :: (t ++ rest)) = none := by
    intro d ds hne
    simp [List.isPrefixOf?, Ne.symm hne]
  have hnull : after? "null" (c :: (t ++ rest)) = none := hword 110 _ (by omega)
  have htrue : after? "true" (c :: (t ++ rest)) = none := hword 116 _ (by omega)
  have hfalse : after? "false" (c :: (t ++ rest)) = none := hword 102 _ (by omega)
  have h1 : c ≠ quoteMark := by unfold quoteMark; omega
  have h2 : c ≠ openBrace := by unfold openBrace; omega
  have h3 : c ≠ openBracket := by unfold openBracket; omega
  simp only [parseValue, h1, h2, h3, hnull, htrue, hfalse, hscan, ↓reduceIte]

theorem parseValue_constant {s : Str} (hs : s ∈ constants) (fuel : Nat) (rest : Str) :
    parseValue (fuel + 1) (s ++ rest) = .ok (.float s, rest) := by
  simp only [constants, List.mem_cons, List.not_mem_nil, or_false] at hs
  rcases hs with rfl | rfl | rfl <;> rfl

theorem ends_writeSpacedItems (items : List Value) (rest : Str) :
    EndsNumber (writeSpacedItems items ++ rest) := by
  cases items with
  | nil => exact EndsNumber.cons (by decide) _
  | cons item items => exact EndsNumber.cons (by decide) _

theorem ends_writeSpacedFields (fields : Fields) (rest : Str) :
    EndsNumber (writeSpacedFields fields ++ rest) := by
  cases fields with
  | nil => exact EndsNumber.cons (by decide) _
  | cons field fields => exact EndsNumber.cons (by decide) _

mutual

theorem parseValue_writeSpaced : (v : Value) → (fuel : Nat) → (rest : Str) → Written v →
    EndsNumber rest → 2 * (writeSpaced v).length ≤ fuel →
    parseValue fuel (writeSpaced v ++ rest) = .ok (v, rest)
  | v, 0, _, hwritten, _, hfuel => by
      obtain ⟨c, t, hwrite, -⟩ := writeSpaced_eq_cons hwritten
      simp [hwrite] at hfuel
  | .null, fuel + 1, rest, _, _, _ => rfl
  | .bool true, fuel + 1, rest, _, _, _ => rfl
  | .bool false, fuel + 1, rest, _, _, _ => rfl
  | .int i, fuel + 1, rest, hwritten, hrest, _ =>
      parseValue_number fuel (write_int_eq_cons i) (scanNumber_int i hrest hwritten)
  | .float literal, fuel + 1, rest, hwritten, hrest, _ => by
      show parseValue (fuel + 1) (literal ++ rest) = .ok (.float literal, rest)
      rcases hwritten with htext | hconstant
      · exact parseValue_number fuel htext.eq_cons (scanNumber_float htext hrest)
      · exact parseValue_constant hconstant fuel rest
  | .str s, fuel + 1, rest, hwritten, _, _ => by
      have hscan := scanText_quote hwritten rest
      show parseValue (fuel + 1) (quote s ++ rest) = .ok (.str s, rest)
      rw [quote, List.cons_append, List.cons_append] at hscan ⊢
      simp only [parseValue, ↓reduceIte, hscan]
      rfl
  | .arr [], fuel + 1, rest, _, _, _ => rfl
  | .arr (item :: items), fuel + 1, rest, hwritten, _, hfuel => by
      simp only [writeSpaced, List.length_cons, List.length_append] at hfuel
      have hitems := parseItems_writeSpaced item items fuel rest hwritten (by omega)
      have hskip := skipSpaces_head hwritten.1 (writeSpacedItems items ++ rest)
      have hhead := head_writeSpaced_ne hwritten.1 (writeSpacedItems items ++ rest)
      rw [writeSpaced, List.cons_append, List.cons_append, List.append_assoc]
      simp only [parseValue, hskip, hhead, hitems, ↓reduceIte]
      rfl
  | .obj [], fuel + 1, rest, _, _, _ => rfl
  | .obj ((key, value) :: fields), fuel + 1, rest, hwritten, _, hfuel => by
      simp only [writeSpaced, List.length_cons, List.length_append] at hfuel
      have hfields := parseFields_writeSpaced key value fields fuel rest hwritten.2 (by omega)
      have hskip : ∀ tail, skipSpaces (quote key ++ tail) = quote key ++ tail :=
        fun tail => skipSpaces_cons (by decide) _
      have hhead : ∀ tail, (quote key ++ tail).head? ≠ some closeBrace := by
        intro tail h
        exact absurd (Option.some.inj h) (by decide)
      simp only [writeSpaced, List.cons_append, List.append_assoc]
      simp only [parseValue, hskip, hhead, hfields, ↓reduceIte]
      exact congrArg (fun dict => Except.ok (Value.obj dict, rest)) (dictOf_eq_self hwritten.1)

theorem parseItems_writeSpaced : (item : Value) → (items : List Value) → (fuel : Nat) →
    (rest : Str) → WrittenItems (item :: items) →
    2 * ((writeSpaced item).length + (writeSpacedItems items).length) ≤ fuel →
    parseItems fuel (writeSpaced item ++ (writeSpacedItems items ++ rest))
      = .ok (item :: items, rest)
  | item, items, 0, _, hwritten, hfuel => by
      obtain ⟨c, t, hwrite, -⟩ := writeSpaced_eq_cons hwritten.1
      simp [hwrite] at hfuel
  | item, items, fuel + 1, rest, hwritten, hfuel => by
      have hpos : 0 < (writeSpacedItems items).length := by
        cases items with
        | nil => exact Nat.zero_lt_one
        | cons next items => exact Nat.succ_pos _
      have hitem := parseValue_writeSpaced item fuel (writeSpacedItems items ++ rest) hwritten.1
        (ends_writeSpacedItems items rest) (by omega)
      rw [parseItems, hitem]
      cases items with
      | nil => rfl
      | cons next items =>
          have hnext := parseItems_writeSpaced next items fuel rest hwritten.2 (by
            simp only [writeSpacedItems, List.length_cons, List.length_append] at hfuel
            omega)
          have hskip := skipSpaces_writeSpaced hwritten.2.1 (writeSpacedItems items ++ rest)
          simp only [writeSpacedItems, List.cons_append, List.append_assoc]
          simp only [bind, Except.bind, skipSpaces_cons (c := comma) (by decide), hskip, hnext,
            ↓reduceIte]
          rfl

theorem parseFields_writeSpaced : (key : Str) → (value : Value) → (fields : Fields) →
    (fuel : Nat) → (rest : Str) → WrittenFields ((key, value) :: fields) →
    2 * ((quote key).length + ((writeSpaced value).length + 1 + 1)
      + (writeSpacedFields fields).length) ≤ fuel →
    parseFields fuel
        (quote key ++ colon :: space :: (writeSpaced value ++ (writeSpacedFields fields ++ rest)))
      = .ok ((key, value) :: fields, rest)
  | key, value, fields, 0, _, _, hfuel => by omega
  | key, value, fields, fuel + 1, rest, hwritten, hfuel => by
      have hpos : 0 < (writeSpacedFields fields).length := by
        cases fields with
        | nil => exact Nat.zero_lt_one
        | cons next fields => exact Nat.succ_pos _
      have hkey := scanText_quote hwritten.1
        (colon :: space :: (writeSpaced value ++ (writeSpacedFields fields ++ rest)))
      have hvalue := parseValue_writeSpaced value fuel (writeSpacedFields fields ++ rest)
        hwritten.2.1 (ends_writeSpacedFields fields rest) (by omega)
      have hskip := skipSpaces_writeSpaced hwritten.2.1 (writeSpacedFields fields ++ rest)
      rw [parseFields, hkey]
      simp only [bind, Except.bind, skipSpaces_cons (c := colon) (by decide), hskip, hvalue, ne_eq,
        not_true_eq_false, ↓reduceIte]
      cases fields with
      | nil => rfl
      | cons next fields =>
          obtain ⟨nextKey, nextValue⟩ := next
          have hnext := parseFields_writeSpaced nextKey nextValue fields fuel rest hwritten.2.2 (by
            simp only [writeSpacedFields, List.length_cons, List.length_append] at hfuel
            omega)
          simp only [writeSpacedFields, List.cons_append, List.append_assoc]
          simp only [skipSpaces_cons (c := comma) (by decide), skipSpaces_quote, hnext, ↓reduceIte]
          rfl

end

theorem jsonLoads_writeSpaced {v : Value} (h : Written v) : jsonLoads (writeSpaced v) = .ok v := by
  have hscan := parseValue_writeSpaced v (2 * (writeSpaced v).length + 2) [] h EndsNumber.nil
    (by omega)
  have hskip := skipSpaces_head h []
  rw [List.append_nil] at hscan hskip
  rw [jsonLoads, hskip, hscan]
  rfl

/-! ## What a reader returns -/

mutual

/-- A value that a reader can have returned; a string of it may hold a lone surrogate. -/
def Loaded : Value → Prop
  | .int i => (decimal i.natAbs).length ≤ 4300
  | .float literal => IsFloatText literal ∨ literal ∈ constants
  | .arr items => LoadedItems items
  | .obj fields => (fields.map (·.1)).Nodup ∧ LoadedFields fields
  | _ => True

def LoadedItems : List Value → Prop
  | [] => True
  | item :: rest => Loaded item ∧ LoadedItems rest

def LoadedFields : Fields → Prop
  | [] => True
  | (_, value) :: rest => Loaded value ∧ LoadedFields rest

end

mutual

def Occurs (c : Nat) : Value → Prop
  | .str s => c ∈ s
  | .arr items => OccursItems c items
  | .obj fields => OccursFields c fields
  | _ => False

def OccursItems (c : Nat) : List Value → Prop
  | [] => False
  | item :: rest => Occurs c item ∨ OccursItems c rest

def OccursFields (c : Nat) : Fields → Prop
  | [] => False
  | (key, value) :: rest => c ∈ key ∨ Occurs c value ∨ OccursFields c rest

end

theorem loadedFields_iff {fields : Fields} :
    LoadedFields fields ↔ ∀ field ∈ fields, Loaded field.2 := by
  induction fields with
  | nil => simp [LoadedFields]
  | cons field fields ih => simp [LoadedFields, ih]

theorem occursFields_iff {c : Nat} {fields : Fields} :
    OccursFields c fields ↔ ∃ field ∈ fields, c ∈ field.1 ∨ Occurs c field.2 := by
  induction fields with
  | nil => simp [OccursFields]
  | cons field fields ih => simp [OccursFields, ih, or_assoc]

/-! ### Sorted keys -/

theorem perm_sortKeys (fields : Fields) :
    ((sortFields fields).insertionSort fun a b => a.1 ≤ b.1).Perm (sortFields fields) :=
  List.perm_insertionSort _ _

mutual

theorem loaded_sortKeys : (v : Value) → Loaded v → Loaded (sortKeys v)
  | .null, h => h
  | .bool _, h => h
  | .int _, h => h
  | .float _, h => h
  | .str _, h => h
  | .arr items, h => loaded_sortItems items h
  | .obj fields, h => by
      have hperm := perm_sortKeys fields
      rw [sortKeys]
      refine ⟨?_, ?_⟩
      · rw [(hperm.map _).nodup_iff, map_sortFields]
        exact h.1
      · rw [loadedFields_iff]
        intro field hfield
        exact loadedFields_iff.mp (loaded_sortFields fields h.2) field (hperm.mem_iff.mp hfield)

theorem loaded_sortItems : (items : List Value) → LoadedItems items → LoadedItems (sortItems items)
  | [], h => h
  | item :: items, h => ⟨loaded_sortKeys item h.1, loaded_sortItems items h.2⟩

theorem loaded_sortFields : (fields : Fields) → LoadedFields fields →
    LoadedFields (sortFields fields)
  | [], h => h
  | (_, value) :: fields, h => ⟨loaded_sortKeys value h.1, loaded_sortFields fields h.2⟩

end

mutual

theorem occurs_of_sortKeys (c : Nat) : (v : Value) → Occurs c (sortKeys v) → Occurs c v
  | .null, h => h
  | .bool _, h => h
  | .int _, h => h
  | .float _, h => h
  | .str _, h => h
  | .arr items, h => occurs_of_sortItems c items h
  | .obj fields, h => by
      obtain ⟨field, hfield, hc⟩ := occursFields_iff.mp h
      refine occurs_of_sortFields c fields (occursFields_iff.mpr ⟨field, ?_, hc⟩)
      exact (perm_sortKeys fields).mem_iff.mp hfield

theorem occurs_of_sortItems (c : Nat) : (items : List Value) → OccursItems c (sortItems items) →
    OccursItems c items
  | [], h => h
  | item :: items, h => h.imp (occurs_of_sortKeys c item) (occurs_of_sortItems c items)

theorem occurs_of_sortFields (c : Nat) : (fields : Fields) → OccursFields c (sortFields fields) →
    OccursFields c fields
  | [], h => h
  | (_, value) :: fields, h =>
      h.imp id (Or.imp (occurs_of_sortKeys c value) (occurs_of_sortFields c fields))

end

/-! ### The characters of a text -/

def IsPlain (c : Nat) : Prop := 32 ≤ c ∧ c < 127

instance (c : Nat) : Decidable (IsPlain c) := inferInstanceAs (Decidable (_ ∧ _))

theorem isPlain_digit {c : Nat} (h : isDigit c = true) : IsPlain c := by
  simp only [isDigit, Bool.and_eq_true, decide_eq_true_eq] at h
  exact ⟨by omega, by omega⟩

theorem isPlain_hexDigit {d : Nat} (hd : d < 16) : IsPlain (hexDigit d) := by
  unfold hexDigit
  split_ifs
  · exact ⟨by omega, by omega⟩
  · exact ⟨by omega, by omega⟩

theorem isPlain_of_text {s : Str} (h : ∀ c ∈ s, IsPlain c) {c : Nat} (hc : c ∈ s) : IsPlain c :=
  h c hc

theorem mem_escape {c d : Nat} (h : d ∈ escape c) : IsPlain d ∨ d = c ∧ 32 ≤ c := by
  unfold escape at h
  split_ifs at h with hspecial _ _ _ _ _ hcontrol
  · rcases hspecial with rfl | rfl <;> exact Or.inl (by revert d h; decide)
  · exact Or.inl (by revert d h; decide)
  · exact Or.inl (by revert d h; decide)
  · exact Or.inl (by revert d h; decide)
  · exact Or.inl (by revert d h; decide)
  · exact Or.inl (by revert d h; decide)
  · simp only [List.mem_cons, List.not_mem_nil, or_false, backslash] at h
    left
    rcases h with rfl | rfl | rfl | rfl | rfl | rfl
    · decide
    · decide
    · decide
    · decide
    · exact isPlain_hexDigit (by omega)
    · exact isPlain_hexDigit (by omega)
  · exact Or.inr ⟨List.mem_singleton.mp h, Nat.not_lt.mp hcontrol⟩

theorem mem_quote {s : Str} {d : Nat} (h : d ∈ quote s) : IsPlain d ∨ d ∈ s ∧ 32 ≤ d := by
  rcases List.mem_cons.mp h with rfl | h
  · exact Or.inl (by decide)
  · rcases List.mem_append.mp h with h | h
    · obtain ⟨c, hc, hd⟩ := List.mem_flatMap.mp h
      exact (mem_escape hd).imp id fun ⟨heq, hlow⟩ => heq ▸ ⟨hc, hlow⟩
    · rcases List.mem_singleton.mp h with rfl
      exact Or.inl (by decide)

theorem isPlain_number {s : Str} (h : IsFloatText s) : ∀ c ∈ s, IsPlain c := by
  obtain ⟨negative, whole, fraction, exponent, hfraction, hexponent, -, rfl⟩ := h
  intro c hc
  rcases List.mem_append.mp hc with hc | hc
  · cases negative <;> exact isPlain_of_text (by decide) hc
  rcases List.mem_append.mp hc with hc | hc
  · exact isPlain_digit (isDigit_decimal hc)
  rcases List.mem_append.mp hc with hc | hc
  · rcases hfraction with rfl | ⟨digits, -, hdigits, rfl⟩
    · cases hc
    · rcases List.mem_cons.mp hc with rfl | hc
      · decide
      · exact isPlain_digit (hdigits c hc)
  · rcases hexponent with rfl | ⟨sign, digits, hsign, -, hdigits, rfl⟩
    · cases hc
    · rcases List.mem_cons.mp hc with rfl | hc
      · decide
      · rcases List.mem_append.mp hc with hc | hc
        · rcases hsign with rfl | rfl | rfl <;> exact isPlain_of_text (by decide) hc
        · exact isPlain_digit (hdigits c hc)

theorem isPlain_int (i : Int) : ∀ c ∈ write (.int i), IsPlain c := by
  intro c hc
  rcases List.mem_append.mp hc with hc | hc
  · split_ifs at hc
    · exact isPlain_of_text (by decide) hc
    · cases hc
  · exact isPlain_digit (isDigit_decimal hc)

theorem isPlain_constant {s : Str} (h : s ∈ constants) : ∀ c ∈ s, IsPlain c := by
  simp only [constants, List.mem_cons, List.not_mem_nil, or_false] at h
  rcases h with rfl | rfl | rfl
  · exact fun c hc => isPlain_of_text (by decide) hc
  · exact fun c hc => isPlain_of_text (by decide) hc
  · exact fun c hc => isPlain_of_text (by decide) hc

mutual

theorem mem_writeSpaced : (v : Value) → Loaded v → {c : Nat} → c ∈ writeSpaced v →
    IsPlain c ∨ Occurs c v ∧ 32 ≤ c
  | .null, _, _, hc => Or.inl (isPlain_of_text (by decide) hc)
  | .bool true, _, _, hc => Or.inl (isPlain_of_text (by decide) hc)
  | .bool false, _, _, hc => Or.inl (isPlain_of_text (by decide) hc)
  | .int i, _, c, hc => Or.inl (isPlain_int i c hc)
  | .float _, h, c, hc => by
      rcases h with h | h
      · exact Or.inl (isPlain_number h c hc)
      · exact Or.inl (isPlain_constant h c hc)
  | .str _, _, _, hc => mem_quote hc
  | .arr [], _, _, hc => Or.inl (isPlain_of_text (by decide) hc)
  | .arr (item :: items), h, c, hc => by
      simp only [writeSpaced, List.cons_append, List.mem_cons, List.mem_append] at hc
      rcases hc with rfl | hc | hc
      · exact Or.inl (by decide)
      · exact (mem_writeSpaced item h.1 hc).imp id (And.imp Or.inl id)
      · exact (mem_writeSpacedItems items h.2 hc).imp id (And.imp Or.inr id)
  | .obj [], _, _, hc => Or.inl (isPlain_of_text (by decide) hc)
  | .obj ((key, value) :: fields), h, c, hc => by
      simp only [writeSpaced, List.cons_append, List.mem_cons, List.mem_append] at hc
      rcases hc with rfl | (hc | rfl | rfl | hc) | hc
      · exact Or.inl (by decide)
      · exact (mem_quote hc).imp id (And.imp Or.inl id)
      · exact Or.inl (by decide)
      · exact Or.inl (by decide)
      · exact (mem_writeSpaced value h.2.1 hc).imp id (And.imp (fun h => Or.inr (Or.inl h)) id)
      · exact (mem_writeSpacedFields fields h.2.2 hc).imp id
          (And.imp (fun h => Or.inr (Or.inr h)) id)

theorem mem_writeSpacedItems : (items : List Value) → LoadedItems items → {c : Nat} →
    c ∈ writeSpacedItems items → IsPlain c ∨ OccursItems c items ∧ 32 ≤ c
  | [], _, _, hc => Or.inl (isPlain_of_text (by decide) hc)
  | item :: items, h, c, hc => by
      simp only [writeSpacedItems, List.cons_append, List.mem_cons, List.mem_append] at hc
      rcases hc with rfl | rfl | hc | hc
      · exact Or.inl (by decide)
      · exact Or.inl (by decide)
      · exact (mem_writeSpaced item h.1 hc).imp id (And.imp Or.inl id)
      · exact (mem_writeSpacedItems items h.2 hc).imp id (And.imp Or.inr id)

theorem mem_writeSpacedFields : (fields : Fields) → LoadedFields fields → {c : Nat} →
    c ∈ writeSpacedFields fields → IsPlain c ∨ OccursFields c fields ∧ 32 ≤ c
  | [], _, _, hc => Or.inl (isPlain_of_text (by decide) hc)
  | (key, value) :: fields, h, c, hc => by
      simp only [writeSpacedFields, List.cons_append, List.mem_cons, List.mem_append] at hc
      rcases hc with rfl | rfl | (hc | rfl | rfl | hc) | hc
      · exact Or.inl (by decide)
      · exact Or.inl (by decide)
      · exact (mem_quote hc).imp id (And.imp Or.inl id)
      · exact Or.inl (by decide)
      · exact Or.inl (by decide)
      · exact (mem_writeSpaced value h.1 hc).imp id (And.imp (fun h => Or.inr (Or.inl h)) id)
      · exact (mem_writeSpacedFields fields h.2 hc).imp id
          (And.imp (fun h => Or.inr (Or.inr h)) id)

end

/-! ### Texts that can be encoded -/

theorem scalar_of_quote {s : Str} (h : ∀ c ∈ quote s, Scalar c) : ∀ c ∈ s, Scalar c := by
  intro c hc
  by_cases hlow : c < 0x80
  · exact scalar_of_ascii hlow
  · have hescape : escape c = [c] := by
      have hspecial : ¬(c = quoteMark ∨ c = backslash) := by
        unfold quoteMark backslash
        omega
      unfold escape
      rw [if_neg hspecial, if_neg (by omega), if_neg (by omega), if_neg (by omega),
        if_neg (by omega), if_neg (by omega), if_neg (by omega)]
    refine h c (List.mem_cons_of_mem _ (List.mem_append_left _ (List.mem_flatMap.mpr ⟨c, hc, ?_⟩)))
    rw [hescape]
    exact List.mem_singleton_self c

mutual

theorem written_of_scalar : (v : Value) → Loaded v → (∀ c ∈ writeSpaced v, Scalar c) → Written v
  | .null, _, _ => trivial
  | .bool _, _, _ => trivial
  | .int _, h, _ => h
  | .float _, h, _ => h
  | .str _, _, h => scalar_of_quote h
  | .arr [], _, _ => trivial
  | .arr (item :: items), h, hc => by
      simp only [writeSpaced, List.cons_append, List.forall_mem_cons, List.forall_mem_append] at hc
      exact ⟨written_of_scalar item h.1 hc.2.1, writtenItems_of_scalar items h.2 hc.2.2⟩
  | .obj [], h, _ => ⟨h.1, trivial⟩
  | .obj ((key, value) :: fields), h, hc => by
      simp only [writeSpaced, List.cons_append, List.forall_mem_cons, List.forall_mem_append] at hc
      exact ⟨h.1, scalar_of_quote hc.2.1.1, written_of_scalar value h.2.1 hc.2.1.2.2.2,
        writtenFields_of_scalar fields h.2.2 hc.2.2⟩

theorem writtenItems_of_scalar : (items : List Value) → LoadedItems items →
    (∀ c ∈ writeSpacedItems items, Scalar c) → WrittenItems items
  | [], _, _ => trivial
  | item :: items, h, hc => by
      simp only [writeSpacedItems, List.cons_append, List.forall_mem_cons,
        List.forall_mem_append] at hc
      exact ⟨written_of_scalar item h.1 hc.2.2.1, writtenItems_of_scalar items h.2 hc.2.2.2⟩

theorem writtenFields_of_scalar : (fields : Fields) → LoadedFields fields →
    (∀ c ∈ writeSpacedFields fields, Scalar c) → WrittenFields fields
  | [], _, _ => trivial
  | (key, value) :: fields, h, hc => by
      simp only [writeSpacedFields, List.cons_append, List.forall_mem_cons,
        List.forall_mem_append] at hc
      exact ⟨scalar_of_quote hc.2.2.1.1, written_of_scalar value h.1 hc.2.2.1.2.2.2,
        writtenFields_of_scalar fields h.2 hc.2.2.2⟩

end

theorem jsonLoads_dumpsSpaced {v : Value} (h : Loaded v) (hscalar : ∀ c ∈ dumpsSpaced v, Scalar c) :
    jsonLoads (dumpsSpaced v) = .ok (sortKeys v) :=
  jsonLoads_writeSpaced (written_of_scalar (sortKeys v) (loaded_sortKeys v h) hscalar)

theorem mem_dumpsSpaced {v : Value} (h : Loaded v) {c : Nat} (hc : c ∈ dumpsSpaced v) :
    IsPlain c ∨ Occurs c v ∧ 32 ≤ c :=
  (mem_writeSpaced (sortKeys v) (loaded_sortKeys v h) hc).imp id
    (And.imp (occurs_of_sortKeys c v) id)

/-! ### Looking up in sorted keys -/

theorem lookup_eq_some_iff_mem {fields : Fields} (h : (fields.map (·.1)).Nodup) {key : Str}
    {value : Value} : fields.lookup key = some value ↔ (key, value) ∈ fields := by
  induction fields with
  | nil => simp
  | cons field fields ih =>
      obtain ⟨hfirst, hrest⟩ := List.nodup_cons.mp h
      rw [List.lookup_cons, List.mem_cons]
      by_cases hkey : key = field.1
      · have hnot : (key, value) ∉ fields := fun hmem =>
          hfirst (List.mem_map.mpr ⟨(key, value), hmem, hkey⟩)
        rw [show (key == field.1) = true from beq_iff_eq.mpr hkey]
        constructor
        · intro hvalue
          exact Or.inl (Prod.ext hkey (Option.some.inj hvalue).symm)
        · rintro (heq | hmem)
          · rw [← heq]
          · exact absurd hmem hnot
      · rw [show (key == field.1) = false from beq_false_of_ne hkey]
        constructor
        · exact fun hvalue => Or.inr ((ih hrest).mp hvalue)
        · rintro (heq | hmem)
          · exact absurd (congrArg Prod.fst heq) hkey
          · exact (ih hrest).mpr hmem

theorem lookup_perm {fields fields' : Fields} (hperm : fields.Perm fields')
    (h : (fields'.map (·.1)).Nodup) (key : Str) : fields.lookup key = fields'.lookup key := by
  refine Option.ext fun value => ?_
  rw [lookup_eq_some_iff_mem ((hperm.map _).nodup_iff.mpr h), lookup_eq_some_iff_mem h]
  exact hperm.mem_iff

theorem lookup_sortFields (fields : Fields) (key : Str) :
    (sortFields fields).lookup key = (fields.lookup key).map sortKeys := by
  induction fields with
  | nil => rfl
  | cons field fields ih =>
      obtain ⟨first, value⟩ := field
      rw [sortFields, List.lookup_cons, List.lookup_cons]
      cases key == first with
      | true => rfl
      | false => exact ih

theorem lookup_sortKeys {fields : Fields} (h : (fields.map (·.1)).Nodup) (key : Str) :
    ((sortFields fields).insertionSort fun a b => a.1 ≤ b.1).lookup key
      = (fields.lookup key).map sortKeys := by
  rw [lookup_perm (perm_sortKeys fields) (by rwa [map_sortFields]), lookup_sortFields]

end JsonLines
