import Mathlib.Data.Finmap
import Mathlib.Data.List.Sort
import Mathlib.Data.Finset.Image

/-!
# Dictionaries and sorted sets of a Python program

A Python `dict` with keys in `κ` is a `Finmap`: equality of dictionaries
ignores the order of insertion, and so does equality of finite maps. What
a program builds by a comprehension over a list of keys is `Dict.ofKeys`;
the set of values it iterates over is `Dict.values`.

`sortedSet l` is `sorted(set(l))`: the strictly increasing list of the
members of `l`.
-/

namespace TrexWebui

/-- A dictionary with keys in `κ` and values in `α`. -/
abbrev Dict (κ α : Type) := Finmap (fun _ : κ => α)

namespace Dict

variable {κ α β : Type} [DecidableEq κ]

/-- The comprehension `{k: f(k) for k in keys}`. -/
def ofKeys (keys : List κ) (f : κ → α) : Dict κ α :=
  (keys.map fun k => (⟨k, f k⟩ : Sigma fun _ : κ => α)).toFinmap

/-- `d.get(k, default)`. -/
def getD (d : Dict κ α) (k : κ) (default : α) : α := (d.lookup k).getD default

def values [DecidableEq α] (d : Dict κ α) : Finset α :=
  (d.entries.map Sigma.snd).toFinset

theorem lookup_ofKeys (keys : List κ) (f : κ → α) (k : κ) :
    (ofKeys keys f).lookup k = if k ∈ keys then some (f k) else none := by
  unfold ofKeys
  rw [Finmap.dlookup_list_toFinmap]
  induction keys with
  | nil => simp
  | cons a rest ih =>
      rw [List.map_cons]
      by_cases h : k = a
      · subst h
        simp [List.dlookup_cons_eq]
      · rw [List.dlookup_cons_ne _ _ h, ih]
        simp [h]

@[simp] theorem mem_ofKeys {keys : List κ} {f : κ → α} {k : κ} :
    k ∈ ofKeys keys f ↔ k ∈ keys := by
  rw [Finmap.mem_iff, lookup_ofKeys]
  by_cases h : k ∈ keys <;> simp [h]

@[simp] theorem keys_ofKeys (keys : List κ) (f : κ → α) :
    (ofKeys keys f).keys = keys.toFinset := by
  ext k
  rw [Finmap.mem_keys, mem_ofKeys, List.mem_toFinset]

theorem mem_values [DecidableEq α] {d : Dict κ α} {v : α} :
    v ∈ d.values ↔ ∃ k, d.lookup k = some v := by
  unfold values
  rw [Multiset.mem_toFinset, Multiset.mem_map]
  constructor
  · rintro ⟨⟨k, w⟩, hmem, rfl⟩
    exact ⟨k, Finmap.lookup_eq_some_iff.mpr hmem⟩
  · rintro ⟨k, hk⟩
    exact ⟨⟨k, v⟩, Finmap.lookup_eq_some_iff.mp hk, rfl⟩

theorem values_ofKeys_const [DecidableEq α] {keys : List κ} (hne : keys ≠ [])
    {f : κ → α} {v : α} (h : ∀ k ∈ keys, f k = v) : (ofKeys keys f).values = {v} := by
  ext w
  rw [mem_values, Finset.mem_singleton]
  constructor
  · rintro ⟨k, hk⟩
    rw [lookup_ofKeys] at hk
    by_cases hmem : k ∈ keys
    · rw [if_pos hmem, h k hmem] at hk
      exact (Option.some.inj hk).symm
    · rw [if_neg hmem] at hk
      cases hk
  · rintro rfl
    obtain ⟨k, hk⟩ := List.exists_mem_of_ne_nil _ hne
    exact ⟨k, by rw [lookup_ofKeys, if_pos hk, h k hk]⟩

theorem mem_keys_iff_isSome {d : Dict κ α} {k : κ} :
    k ∈ d.keys ↔ ∃ v, d.lookup k = some v := by
  rw [Finmap.mem_keys, Finmap.mem_iff]

/-- `for k in keys: d[k] = f(k)`. -/
def updateKeys (d : Dict κ α) (keys : List κ) (f : κ → α) : Dict κ α :=
  keys.foldl (fun acc k => acc.insert k (f k)) d

theorem lookup_updateKeys (keys : List κ) (f : κ → α) (k : κ) (d : Dict κ α) :
    (d.updateKeys keys f).lookup k = if k ∈ keys then some (f k) else d.lookup k := by
  unfold updateKeys
  induction keys generalizing d with
  | nil => simp
  | cons a rest ih =>
      rw [List.foldl_cons, ih]
      by_cases hrest : k ∈ rest
      · simp [hrest]
      · by_cases ha : k = a
        · subst ha; simp [hrest]
        · simp [hrest, ha]

theorem getD_updateKeys (keys : List κ) (f : κ → α) (k : κ) (d : Dict κ α) (default : α) :
    (d.updateKeys keys f).getD k default = if k ∈ keys then f k else d.getD k default := by
  unfold getD
  rw [lookup_updateKeys]
  by_cases h : k ∈ keys <;> simp [h]

theorem keys_updateKeys (keys : List κ) (f : κ → α) (d : Dict κ α) :
    (d.updateKeys keys f).keys = keys.toFinset ∪ d.keys := by
  ext k
  rw [Finset.mem_union, List.mem_toFinset, mem_keys_iff_isSome, mem_keys_iff_isSome,
    lookup_updateKeys]
  by_cases h : k ∈ keys <;> simp [h]

end Dict

/-! ## Optional values

A validator asks whether an optional field is present with a property, or
whether it has the property when it is present; both are decidable. -/

instance (priority := low) decidableExistsSome {α : Type} {P : α → Prop} [DecidablePred P] (o : Option α) :
    Decidable (∃ a, o = some a ∧ P a) :=
  match o with
  | none => isFalse fun ⟨_, h, _⟩ => nomatch h
  | some a => decidable_of_iff (P a)
      ⟨fun h => ⟨a, rfl, h⟩, fun ⟨_, h, hp⟩ => Option.some.inj h ▸ hp⟩

instance (priority := low) decidableForallSome {α : Type} {P : α → Prop} [DecidablePred P] (o : Option α) :
    Decidable (∀ a, o = some a → P a) :=
  match o with
  | none => isTrue fun _ h => nomatch h
  | some a => decidable_of_iff (P a)
      ⟨fun hp _ h => Option.some.inj h ▸ hp, fun h => h a rfl⟩

/-! ## Sorted sets -/

def sortedMembers {κ : Type} [LinearOrder κ] (s : Finset κ) : List κ :=
  Quot.liftOn s.val (List.insertionSort (· ≤ ·)) fun a b h =>
    List.Perm.eq_of_pairwise' (List.pairwise_insertionSort _ _) (List.pairwise_insertionSort _ _)
      ((List.perm_insertionSort _ a).trans (h.trans (List.perm_insertionSort _ b).symm))

theorem nodup_sortedMembers {κ : Type} [LinearOrder κ] (s : Finset κ) :
    (sortedMembers s).Nodup := by
  obtain ⟨l, hl⟩ := s
  induction l using Quot.inductionOn with
  | h l => exact (List.perm_insertionSort _ l).nodup_iff.mpr hl

theorem mem_sortedMembers {κ : Type} [LinearOrder κ] {s : Finset κ} {a : κ} :
    a ∈ sortedMembers s ↔ a ∈ s := by
  obtain ⟨l, hl⟩ := s
  induction l using Quot.inductionOn with
  | h l => exact List.mem_insertionSort _

def Dict.items {κ α : Type} [LinearOrder κ] (d : Dict κ α) : List (κ × α) :=
  (sortedMembers d.keys).filterMap fun k => (d.lookup k).map fun v => (k, v)

theorem Dict.mem_items {κ α : Type} [LinearOrder κ] {d : Dict κ α} {k : κ} {v : α} :
    (k, v) ∈ d.items ↔ d.lookup k = some v := by
  unfold Dict.items
  rw [List.mem_filterMap]
  constructor
  · rintro ⟨k', _, hk'⟩
    obtain ⟨v', hv', heq⟩ := Option.map_eq_some_iff.mp hk'
    obtain ⟨rfl, rfl⟩ := Prod.mk.inj heq
    exact hv'
  · intro hv
    refine ⟨k, mem_sortedMembers.mpr ?_, by rw [hv]; rfl⟩
    exact Finmap.mem_keys.mpr (Finmap.mem_iff.mpr ⟨v, hv⟩)

/-- `sorted(set(l))` for a list of numbers. -/
def sortedSet (l : List Nat) : List Nat := l.dedup.insertionSort (· ≤ ·)

@[simp] theorem mem_sortedSet {l : List Nat} {a : Nat} : a ∈ sortedSet l ↔ a ∈ l := by
  rw [sortedSet, List.mem_insertionSort, List.mem_dedup]

theorem nodup_sortedSet (l : List Nat) : (sortedSet l).Nodup :=
  (List.perm_insertionSort _ _).nodup_iff.mpr (List.nodup_dedup l)

end TrexWebui
