import Mathlib.Data.List.AList

/-!
# Dictionaries that keep the order of insertion

An `AList` is a list of entries with distinct keys. `OrderedDict.set` is the
assignment `d[k] = v` of a dictionary that remembers the order in which its
keys came in: a key that is there keeps its place, a new one goes to the
end. `erase` is that of `AList`; `without` erases a list of keys, and
`values` lists the values in the order of the keys.

A list with its repetitions dropped, the first occurrences kept, is
`List.eraseDups`; it has no repetition.

The laws say what `lookup` gives after each operation; a program that only
looks keys up never sees the order.
-/

namespace OrderedDict

variable {κ α : Type} [DecidableEq κ]

/-- `d[k] = v`. -/
def set (d : AList fun _ : κ => α) (k : κ) (v : α) : AList fun _ : κ => α :=
  if k ∈ d then d.replace k v else d ∪ AList.singleton k v

/-- `for k in keys: d.pop(k, None)`. -/
def without (d : AList fun _ : κ => α) (keys : List κ) : AList fun _ : κ => α :=
  keys.foldl (fun acc k => acc.erase k) d

def values (d : AList fun _ : κ => α) : List α := d.entries.map Sigma.snd

def items (d : AList fun _ : κ => α) : List (κ × α) := d.entries.map fun e => (e.1, e.2)

section

variable {d : AList fun _ : κ => α} {k k' : κ} {v : α} {keys : List κ}

theorem dlookup_kreplace (l : List (Sigma fun _ : κ => α)) :
    (l.kreplace k v).dlookup k' = if k' = k ∧ k ∈ l.keys then some v else l.dlookup k' := by
  induction l with
  | nil => simp [List.kreplace]
  | cons e rest ih =>
      obtain ⟨a, b⟩ := e
      by_cases ha : k = a
      · subst ha
        have hreplace : (⟨k, b⟩ :: rest : List (Sigma fun _ : κ => α)).kreplace k v
            = ⟨k, v⟩ :: rest :=
          List.lookmap_cons_some _ _ (by simp)
        rw [hreplace]
        by_cases hk : k' = k
        · subst hk
          simp
        · rw [List.dlookup_cons_ne _ _ hk, List.dlookup_cons_ne _ _ hk, if_neg (fun h => hk h.1)]
      · have hreplace : (⟨a, b⟩ :: rest : List (Sigma fun _ : κ => α)).kreplace k v
            = ⟨a, b⟩ :: rest.kreplace k v :=
          List.lookmap_cons_none _ _ (by simp [ha])
        rw [hreplace]
        by_cases hk : k' = a
        · subst hk
          rw [List.dlookup_cons_eq, List.dlookup_cons_eq, if_neg (fun h => ha h.1.symm)]
        · rw [List.dlookup_cons_ne _ _ hk, List.dlookup_cons_ne _ _ hk, ih]
          simp [ha]

theorem lookup_set : (set d k v).lookup k' = if k' = k then some v else d.lookup k' := by
  unfold set
  by_cases hk : k ∈ d
  · rw [if_pos hk]
    have h : (d.entries.kreplace k v).dlookup k'
        = if k' = k ∧ k ∈ d.entries.keys then some v else d.entries.dlookup k' :=
      dlookup_kreplace d.entries
    have hkeys : k ∈ d.entries.keys := hk
    simp only [hkeys, and_true] at h
    exact h
  · rw [if_neg hk]
    by_cases hk' : k' = k
    · subst hk'
      rw [AList.lookup_union_right hk, if_pos rfl]
      exact List.dlookup_cons_eq ..
    · rw [if_neg hk']
      by_cases hd : k' ∈ d
      · exact AList.lookup_union_left hd
      · rw [AList.lookup_union_right hd, AList.lookup_eq_none.mpr hd, AList.lookup_eq_none]
        simpa [AList.mem_keys] using hk'

@[simp] theorem mem_set : k' ∈ set d k v ↔ k' = k ∨ k' ∈ d := by
  rw [← AList.lookup_isSome, lookup_set]
  by_cases h : k' = k
  · simp [h]
  · simp [h, AList.lookup_isSome]

theorem lookup_without :
    (without d keys).lookup k = if k ∈ keys then none else d.lookup k := by
  unfold without
  induction keys generalizing d with
  | nil => simp
  | cons a rest ih =>
      rw [List.foldl_cons, ih]
      by_cases hrest : k ∈ rest
      · simp [hrest]
      · by_cases ha : k = a
        · subst ha
          simp
        · simp [hrest, ha, AList.lookup_erase_ne ha]

@[simp] theorem mem_without : k ∈ without d keys ↔ k ∉ keys ∧ k ∈ d := by
  rw [← AList.lookup_isSome, lookup_without, ← AList.lookup_isSome]
  by_cases h : k ∈ keys <;> simp [h]

theorem mem_iff_lookup : k ∈ d ↔ ∃ v, d.lookup k = some v := by
  rw [← AList.lookup_isSome, Option.isSome_iff_exists]

theorem mem_items : (k, v) ∈ items d ↔ d.lookup k = some v := by
  unfold items
  rw [List.mem_map]
  constructor
  · rintro ⟨⟨a, b⟩, hmem, heq⟩
    obtain ⟨rfl, rfl⟩ := Prod.mk.inj heq
    exact (List.mem_dlookup_iff d.nodupKeys).mpr hmem
  · intro h
    exact ⟨⟨k, v⟩, (List.mem_dlookup_iff d.nodupKeys).mp h, rfl⟩

theorem mem_keys_iff : k ∈ d.keys ↔ ∃ v, d.lookup k = some v := mem_iff_lookup

theorem nodup_eraseDups (l : List κ) : l.eraseDups.Nodup := by
  induction hn : l.length using Nat.strongRecOn generalizing l with
  | ind n ih =>
      cases l with
      | nil => simp
      | cons a rest =>
          rw [List.eraseDups_cons, List.nodup_cons]
          have hlength : (rest.filter fun b => !b == a).length < n := by
            have hle := List.length_filter_le (fun b => !b == a) rest
            simp only [List.length_cons] at hn
            omega
          refine ⟨?_, ih _ hlength _ rfl⟩
          rw [List.mem_eraseDups, List.mem_filter]
          simp

end

end OrderedDict
