import TrexWebui.JsonLines

/-!
# Plain values of JSON

A value without a float, whose integers are below the limit on digits and
whose keys are distinct, is plain: all that a writer still has to look at are
the characters of its strings. A plain value is read back from its canonical
bytes exactly if these could be encoded (`loads_plain`), whatever spaces
follow them.
-/

namespace PyJson

open PyStr JsonLines

mutual

/-- A value without a float; a string of it may hold a lone surrogate. -/
def PlainValue : Value → Prop
  | .int i => (decimal i.natAbs).length ≤ 4300
  | .float _ => False
  | .arr items => PlainItems items
  | .obj fields => (fields.map (·.1)).Nodup ∧ PlainFields fields
  | _ => True

def PlainItems : List Value → Prop
  | [] => True
  | item :: rest => PlainValue item ∧ PlainItems rest

def PlainFields : Fields → Prop
  | [] => True
  | (_, value) :: rest => PlainValue value ∧ PlainFields rest

end

theorem plainItems_iff {items : List Value} :
    PlainItems items ↔ ∀ item ∈ items, PlainValue item := by
  induction items with
  | nil => simp [PlainItems]
  | cons item items ih => simp [PlainItems, ih]

theorem plainItems_map {α : Type} {f : α → Value} {l : List α} (h : ∀ a ∈ l, PlainValue (f a)) :
    PlainItems (l.map f) := by
  rw [plainItems_iff]
  intro item hitem
  obtain ⟨a, ha, rfl⟩ := List.mem_map.mp hitem
  exact h a ha

theorem plainFields_iff {fields : Fields} :
    PlainFields fields ↔ ∀ field ∈ fields, PlainValue field.2 := by
  induction fields with
  | nil => simp [PlainFields]
  | cons field fields ih => simp [PlainFields, ih]

mutual

theorem plain_sortKeys : (v : Value) → PlainValue v → PlainValue (sortKeys v)
  | .null, h => h
  | .bool _, h => h
  | .int _, h => h
  | .float _, h => h
  | .str _, h => h
  | .arr items, h => plain_sortItems items h
  | .obj fields, h => by
      have hperm := perm_sortKeys fields
      rw [sortKeys]
      refine ⟨?_, ?_⟩
      · rw [(hperm.map _).nodup_iff, map_sortFields]
        exact h.1
      · rw [plainFields_iff]
        intro field hfield
        exact plainFields_iff.mp (plain_sortFields fields h.2) field (hperm.mem_iff.mp hfield)

theorem plain_sortItems : (items : List Value) → PlainItems items → PlainItems (sortItems items)
  | [], h => h
  | item :: items, h => ⟨plain_sortKeys item h.1, plain_sortItems items h.2⟩

theorem plain_sortFields : (fields : Fields) → PlainFields fields → PlainFields (sortFields fields)
  | [], h => h
  | (_, value) :: fields, h => ⟨plain_sortKeys value h.1, plain_sortFields fields h.2⟩

end

mutual

theorem readable_of_scalar : (v : Value) → PlainValue v → (∀ c ∈ write v, Scalar c) → Readable v
  | .null, _, _ => trivial
  | .bool _, _, _ => trivial
  | .int _, h, _ => h
  | .float _, h, _ => h
  | .str _, _, hc => scalar_of_quote hc
  | .arr [], _, _ => trivial
  | .arr (item :: items), h, hc => by
      simp only [write, List.cons_append, List.forall_mem_cons, List.forall_mem_append] at hc
      exact ⟨readable_of_scalar item h.1 hc.2.1, readableItems_of_scalar items h.2 hc.2.2⟩
  | .obj [], h, _ => ⟨h.1, trivial⟩
  | .obj ((key, value) :: fields), h, hc => by
      simp only [write, List.cons_append, List.forall_mem_cons, List.forall_mem_append] at hc
      exact ⟨h.1, scalar_of_quote hc.2.1.1, readable_of_scalar value h.2.1 hc.2.1.2.2,
        readableFields_of_scalar fields h.2.2 hc.2.2⟩

theorem readableItems_of_scalar : (items : List Value) → PlainItems items →
    (∀ c ∈ writeItems items, Scalar c) → ReadableItems items
  | [], _, _ => trivial
  | item :: items, h, hc => by
      simp only [writeItems, List.cons_append, List.forall_mem_cons, List.forall_mem_append] at hc
      exact ⟨readable_of_scalar item h.1 hc.2.1, readableItems_of_scalar items h.2 hc.2.2⟩

theorem readableFields_of_scalar : (fields : Fields) → PlainFields fields →
    (∀ c ∈ writeFields fields, Scalar c) → ReadableFields fields
  | [], _, _ => trivial
  | (key, value) :: fields, h, hc => by
      simp only [writeFields, List.cons_append, List.forall_mem_cons, List.forall_mem_append] at hc
      exact ⟨scalar_of_quote hc.2.1.1, readable_of_scalar value h.1 hc.2.1.2.2,
        readableFields_of_scalar fields h.2 hc.2.2⟩

end

mutual

theorem readable_of_sortKeys : (v : Value) → Readable (sortKeys v) → Readable v
  | .null, h => h
  | .bool _, h => h
  | .int _, h => h
  | .float _, h => h
  | .str _, h => h
  | .arr items, h => readable_of_sortItems items h
  | .obj fields, h => by
      have hperm := perm_sortKeys fields
      rw [sortKeys] at h
      refine ⟨?_, readable_of_sortFields fields ?_⟩
      · rw [← map_sortFields]
        exact (hperm.map _).nodup_iff.mp h.1
      · rw [readableFields_iff]
        intro field hfield
        exact readableFields_iff.mp h.2 field (hperm.mem_iff.mpr hfield)

theorem readable_of_sortItems : (items : List Value) → ReadableItems (sortItems items) →
    ReadableItems items
  | [], h => h
  | item :: items, h => ⟨readable_of_sortKeys item h.1, readable_of_sortItems items h.2⟩

theorem readable_of_sortFields : (fields : Fields) → ReadableFields (sortFields fields) →
    ReadableFields fields
  | [], h => h
  | (_, value) :: fields, h =>
      ⟨h.1, readable_of_sortKeys value h.2.1, readable_of_sortFields fields h.2.2⟩

end

theorem readableFields_setKey {fields : Fields} {key : Str} {value : Value}
    (h : ReadableFields fields) (hkey : ∀ c ∈ key, Scalar c) (hvalue : Readable value) :
    ReadableFields (setKey fields key value) := by
  rw [readableFields_iff] at h ⊢
  intro field hfield
  unfold setKey at hfield
  split_ifs at hfield
  · obtain ⟨old, hold, rfl⟩ := List.mem_map.mp hfield
    split_ifs
    · exact ⟨hkey, hvalue⟩
    · exact h old hold
  · rcases List.mem_append.mp hfield with hold | hnew
    · exact h field hold
    · obtain rfl := List.mem_singleton.mp hnew
      exact ⟨hkey, hvalue⟩

theorem encode_append {s s' : Str} {b b' : Bytes} (h : encode s = some b)
    (h' : encode s' = some b') : encode (s ++ s') = some (b ++ b') := by
  obtain ⟨hs, rfl⟩ := encode_eq_some_iff.mp h
  obtain ⟨hs', rfl⟩ := encode_eq_some_iff.mp h'
  exact encode_eq_some_iff.mpr ⟨List.forall_mem_append.mpr ⟨hs, hs'⟩, (List.flatMap_append ..).symm⟩

theorem encodePoint_ne_nil (c : Nat) : encodePoint c ≠ [] := by
  unfold encodePoint
  split_ifs <;> exact List.cons_ne_nil _ _

theorem length_le_of_encode {s : Str} {b : Bytes} (h : encode s = some b) :
    s.length ≤ b.length := by
  obtain ⟨-, rfl⟩ := encode_eq_some_iff.mp h
  clear h
  induction s with
  | nil => exact Nat.le_refl 0
  | cons c s ih =>
      have hpos := List.length_pos_iff.mpr (encodePoint_ne_nil c)
      rw [List.flatMap_cons, List.length_cons, List.length_append]
      omega

/-- What was written with spaces behind it is read back with its keys sorted. -/
theorem loads_plain {v : Value} (h : PlainValue v) {tail : Str} (htail : ∀ c ∈ tail, isSpace c = true)
    (hscalar : ∀ c ∈ dumps v, Scalar c) : loads (dumps v ++ tail) = .ok (sortKeys v) := by
  have hreadable := readable_of_scalar (sortKeys v) (plain_sortKeys v h) hscalar
  rw [dumps, loads_written (Readable.written _ hreadable) htail, Readable.constant?_eq _ hreadable]
  rfl

end PyJson
