import Mathlib.Data.List.Nodup
import TrexWebui.Checks
import TrexWebui.PyJson

/-!
# Fields of a validated model

A pydantic model is read from a dictionary field by field: a value of the field's own
type is taken as it is, a value of another type is converted or refused, a missing field
has its default or is refused, and with `extra="forbid"` no other key may be there. An
error is the first that pydantic reports. `given` is how such a model is written back: the
entries that have a value, in order. What was written that way is read again
(`required_given`, `optional_given`), whatever the conversions are.
-/

namespace Pydantic

open PyStr PyJson Checks

variable {α : Type}

/-! ## Reading -/

/-- What becomes of a value that has not the type of its field, and which texts count as Unicode. -/
structure Conversions where
  int : Value → Except String Int
  bool : Value → Except String Bool
  text : Str → Bool

def Conversions.strict : Conversions where
  int _ := .error "Input should be a valid integer"
  bool _ := .error "Input should be a valid boolean"
  text _ := true

/-- `int` -/
def integer (lax : Conversions) : Value → Except String Int
  | .int n => .ok n
  | value => lax.int value

/-- `bool` -/
def boolean (lax : Conversions) : Value → Except String Bool
  | .bool b => .ok b
  | value => lax.bool value

/-- `str` -/
def string (lax : Conversions) : Value → Except String Str
  | .str s =>
      if lax.text s then .ok s
      else .error "Input should be a valid string, unable to parse raw data as a unicode string"
  | _ => .error "Input should be a valid string"

/-- `list[…]` -/
def list (item : Value → Except String α) : Value → Except String (List α)
  | .arr items => items.mapM item
  | _ => .error "Input should be a valid list"

/-- `Optional[…]` -/
def nullable (read : Value → Except String α) : Value → Except String (Option α)
  | .null => .ok none
  | value => (read value).map some

/-- `Field(ge=bound)` -/
def atLeast (bound : Int) (read : Value → Except String Int) (value : Value) :
    Except String Int := do
  let n ← read value
  refuseIf (n < bound) s!"Input should be greater than or equal to {bound}"
  pure n

/-- `Field(le=bound)` -/
def atMost (bound : Int) (read : Value → Except String Int) (value : Value) :
    Except String Int := do
  let n ← read value
  refuseIf (bound < n) s!"Input should be less than or equal to {bound}"
  pure n

def required (fields : Fields) (key : Str) (read : Value → Except String α) : Except String α :=
  match fields.lookup key with
  | some value => read value
  | none => .error "Field required"

def withDefault (default : α) (fields : Fields) (key : Str) (read : Value → Except String α) :
    Except String α :=
  match fields.lookup key with
  | some value => read value
  | none => .ok default

/-- `Optional[…] = None` -/
def optional (fields : Fields) (key : Str) (read : Value → Except String α) :
    Except String (Option α) :=
  withDefault none fields key (nullable read)

def dictionary : Value → Except String Fields
  | .obj fields => .ok fields
  | _ => .error "Input should be a valid dictionary"

/-- `extra="forbid"` -/
def refuseExtra (fields : Fields) (keys : List Str) : Except String Unit :=
  refuseIf (∃ field ∈ fields, field.1 ∉ keys) "Extra inputs are not permitted"

/-! ## Writing -/

/-- `if value is not None: payload[key] = value`, entry after entry. -/
def given (entries : List (Str × Option Value)) : Fields :=
  entries.filterMap fun entry => entry.2.map fun value => (entry.1, value)

theorem given_some (key : Str) (value : Value) (rest : List (Str × Option Value)) :
    given ((key, some value) :: rest) = (key, value) :: given rest := rfl

theorem given_none (key : Str) (rest : List (Str × Option Value)) :
    given ((key, none) :: rest) = given rest := rfl

/-! ## Bounds that were checked -/

theorem atLeast_eq_ok {bound n : Int} {read : Value → Except String Int} {value : Value} :
    atLeast bound read value = .ok n ↔ read value = .ok n ∧ bound ≤ n := by
  simp only [atLeast, bind_eq_ok, refuseIf_eq_ok, pure_eq_ok, not_lt, exists_const]
  constructor
  · rintro ⟨m, hread, hbound, rfl⟩
    exact ⟨hread, hbound⟩
  · rintro ⟨hread, hbound⟩
    exact ⟨n, hread, hbound, rfl⟩

theorem atMost_eq_ok {bound n : Int} {read : Value → Except String Int} {value : Value} :
    atMost bound read value = .ok n ↔ read value = .ok n ∧ n ≤ bound := by
  simp only [atMost, bind_eq_ok, refuseIf_eq_ok, pure_eq_ok, not_lt, exists_const]
  constructor
  · rintro ⟨m, hread, hbound, rfl⟩
    exact ⟨hread, hbound⟩
  · rintro ⟨hread, hbound⟩
    exact ⟨n, hread, hbound, rfl⟩

theorem string_eq_ok {lax : Conversions} {s : Str} {value : Value} (h : string lax value = .ok s) :
    lax.text s = true := by
  unfold string at h
  split at h
  · split_ifs at h with htext
    cases h
    exact htext
  · cases h

theorem exists_of_mapM {β : Type} {item : β → Except String α} {values : List β} {l : List α}
    (h : values.mapM item = .ok l) : ∀ a ∈ l, ∃ value ∈ values, item value = .ok a := by
  have hall := mapM_eq_ok.mp h
  clear h
  induction hall with
  | nil => exact fun a ha => absurd ha List.not_mem_nil
  | cons hread _ ih =>
      intro a ha
      rcases List.mem_cons.mp ha with rfl | ha
      · exact ⟨_, List.mem_cons_self, hread⟩
      · obtain ⟨value, hvalue, hitem⟩ := ih a ha
        exact ⟨value, List.mem_cons_of_mem _ hvalue, hitem⟩

theorem list_eq_ok {item : Value → Except String α} {value : Value} {l : List α}
    (h : list item value = .ok l) : ∀ a ∈ l, ∃ v, item v = .ok a := by
  unfold list at h
  split at h
  · intro a ha
    obtain ⟨v, -, hv⟩ := exists_of_mapM h a ha
    exact ⟨v, hv⟩
  · cases h

theorem nullable_eq_ok {read : Value → Except String α} {value : Value} {a : α}
    (h : nullable read value = .ok (some a)) : read value = .ok a := by
  unfold nullable at h
  split at h
  · cases h
  · cases hread : read value with
    | error e =>
        rw [hread] at h
        cases h
    | ok b =>
        rw [hread] at h
        cases h
        rfl

theorem required_eq_ok {fields : Fields} {key : Str} {read : Value → Except String α} {a : α}
    (h : required fields key read = .ok a) : ∃ value, read value = .ok a := by
  unfold required at h
  split at h
  · exact ⟨_, h⟩
  · cases h

theorem withDefault_eq_ok {default a : α} {fields : Fields} {key : Str}
    {read : Value → Except String α} (h : withDefault default fields key read = .ok a) :
    a = default ∨ ∃ value, read value = .ok a := by
  unfold withDefault at h
  split at h
  · exact Or.inr ⟨_, h⟩
  · cases h
    exact Or.inl rfl

theorem optional_eq_ok {fields : Fields} {key : Str} {read : Value → Except String α} {a : α}
    (h : optional fields key read = .ok (some a)) : ∃ value, read value = .ok a := by
  rcases withDefault_eq_ok h with hnone | ⟨value, hvalue⟩
  · cases hnone
  · exact ⟨value, nullable_eq_ok hvalue⟩

/-! ## Reading what was written -/

def ReadsBack (read : Value → Except String α) (dump : α → Value) (a : α) : Prop :=
  dump a ≠ .null ∧ read (dump a) = .ok a

theorem readsBack_integer (lax : Conversions) (n : Int) : ReadsBack (integer lax) .int n :=
  ⟨Value.noConfusion, rfl⟩

theorem readsBack_boolean (lax : Conversions) (b : Bool) : ReadsBack (boolean lax) .bool b :=
  ⟨Value.noConfusion, rfl⟩

theorem readsBack_string {lax : Conversions} {s : Str} (h : lax.text s = true) :
    ReadsBack (string lax) .str s :=
  ⟨Value.noConfusion, if_pos h⟩

theorem ReadsBack.atLeast {read : Value → Except String Int} {dump : Int → Value} {bound n : Int}
    (h : ReadsBack read dump n) (hbound : bound ≤ n) : ReadsBack (atLeast bound read) dump n :=
  ⟨h.1, atLeast_eq_ok.mpr ⟨h.2, hbound⟩⟩

theorem ReadsBack.atMost {read : Value → Except String Int} {dump : Int → Value} {bound n : Int}
    (h : ReadsBack read dump n) (hbound : n ≤ bound) : ReadsBack (atMost bound read) dump n :=
  ⟨h.1, atMost_eq_ok.mpr ⟨h.2, hbound⟩⟩

theorem mapM_readsBack {item : Value → Except String α} {dump : α → Value} {l : List α}
    (h : ∀ a ∈ l, item (dump a) = .ok a) : (l.map dump).mapM item = .ok l := by
  rw [mapM_eq_ok, List.forall₂_map_left_iff, List.forall₂_same]
  exact h

theorem readsBack_list {item : Value → Except String α} {dump : α → Value} {l : List α}
    (h : ∀ a ∈ l, ReadsBack item dump a) :
    ReadsBack (list item) (fun l => .arr (l.map dump)) l :=
  ⟨Value.noConfusion, mapM_readsBack fun a ha => (h a ha).2⟩

section Given

variable {entries : List (Str × Option Value)} {key : Str}

theorem lookup_given_of_not_mem (h : ∀ entry ∈ entries, entry.1 ≠ key) :
    (given entries).lookup key = none := by
  rw [List.lookup_eq_none_iff]
  intro field hfield
  obtain ⟨entry, hentry, hvalue⟩ := List.mem_filterMap.mp hfield
  obtain ⟨value, -, rfl⟩ := Option.map_eq_some_iff.mp hvalue
  exact bne_iff_ne.mpr fun hkey => h entry hentry hkey.symm

theorem lookup_given {value : Option Value} (hkeys : (entries.map (·.1)).Nodup)
    (h : (key, value) ∈ entries) : (given entries).lookup key = value := by
  induction entries with
  | nil => exact absurd h List.not_mem_nil
  | cons entry rest ih =>
      obtain ⟨hfirst, hrest⟩ := List.nodup_cons.mp hkeys
      rcases List.mem_cons.mp h with rfl | hmem
      · cases value with
        | some value =>
            rw [given_some]
            exact List.lookup_cons_self
        | none =>
            rw [given_none]
            exact lookup_given_of_not_mem fun entry hentry hkey =>
              hfirst (List.mem_map.mpr ⟨entry, hentry, hkey⟩)
      · have hne : entry.1 ≠ key := fun hkey =>
          hfirst (List.mem_map.mpr ⟨(key, value), hmem, hkey.symm⟩)
        obtain ⟨first, firstValue⟩ := entry
        cases firstValue with
        | some firstValue =>
            rw [given_some, List.lookup_cons,
              show (key == first) = false from beq_false_of_ne fun heq => hne heq.symm]
            exact ih hrest hmem
        | none =>
            rw [given_none]
            exact ih hrest hmem

theorem required_given {read : Value → Except String α} {dump : α → Value} {a : α}
    (hkeys : (entries.map (·.1)).Nodup) (h : (key, some (dump a)) ∈ entries)
    (hread : ReadsBack read dump a) : required (given entries) key read = .ok a := by
  rw [required, lookup_given hkeys h]
  exact hread.2

theorem withDefault_given {read : Value → Except String α} {dump : α → Value} {default a : α}
    (hkeys : (entries.map (·.1)).Nodup) (h : (key, some (dump a)) ∈ entries)
    (hread : ReadsBack read dump a) : withDefault default (given entries) key read = .ok a := by
  rw [withDefault, lookup_given hkeys h]
  exact hread.2

theorem nullable_of_readsBack {read : Value → Except String α} {dump : α → Value} {a : α}
    (hread : ReadsBack read dump a) : nullable read (dump a) = .ok (some a) := by
  unfold nullable
  split
  · rename_i hnull
    exact absurd hnull hread.1
  · rw [hread.2]
    rfl

theorem optional_given {read : Value → Except String α} {dump : α → Value} {o : Option α}
    (hkeys : (entries.map (·.1)).Nodup) (h : (key, o.map dump) ∈ entries)
    (hread : ∀ a, o = some a → ReadsBack read dump a) :
    optional (given entries) key read = .ok o := by
  rw [optional, withDefault, lookup_given hkeys h]
  cases o with
  | none => rfl
  | some a => exact nullable_of_readsBack (hread a rfl)

theorem refuseExtra_given {keys : List Str} (h : ∀ entry ∈ entries, entry.1 ∈ keys) :
    refuseExtra (given entries) keys = .ok () := by
  refine refuseIf_eq_ok.mpr ?_
  rintro ⟨field, hfield, hextra⟩
  obtain ⟨entry, hentry, hvalue⟩ := List.mem_filterMap.mp hfield
  obtain ⟨value, -, rfl⟩ := Option.map_eq_some_iff.mp hvalue
  exact hextra (h entry hentry)

end Given

end Pydantic
