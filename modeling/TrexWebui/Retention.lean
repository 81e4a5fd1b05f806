import Mathlib.Algebra.BigOperators.Group.List.Basic
import Mathlib.Algebra.Ring.Nat

/-!
# Keeping the newest items

A bounded buffer keeps the newest items within a number of items and a total
weight. Items that are too heavy alone are skipped, and the first other item
that does not fit ends the scan. So what is kept is the longest run of newest
items that fits, and an item that was dropped would not be kept later.
-/

namespace Retention

variable {α : Type}

/-- The weight of an item, and the limits on the number and on the total weight of items. -/
structure Limits (α : Type) where
  weight : α → Nat
  maxCount : Nat
  maxWeight : Nat

namespace Limits

variable (limits : Limits α)

def total (items : List α) : Nat := (items.map limits.weight).sum

@[simp] theorem total_cons (item : α) (items : List α) :
    limits.total (item :: items) = limits.weight item + limits.total items := by
  simp [total]

@[simp] theorem total_reverse (items : List α) : limits.total items.reverse = limits.total items := by
  rw [total, List.map_reverse, List.sum_reverse, total]

/-- The items that are kept, from the newest on, when `count` items of the weight `kept` are. -/
def scan : List α → (count kept : Nat) → List α
  | [], _, _ => []
  | item :: items, count, kept =>
      if limits.maxCount ≤ count then []
      else if limits.maxWeight < limits.weight item then scan items count kept
      else if limits.maxWeight < kept + limits.weight item then []
      else item :: scan items (count + 1) (kept + limits.weight item)

def retain (items : List α) : List α := (limits.scan items.reverse 0 0).reverse

/-! ## What is kept fits -/

theorem scan_full {count : Nat} (h : limits.maxCount ≤ count) (items : List α) (kept : Nat) :
    limits.scan items count kept = [] := by
  cases items with
  | nil => rfl
  | cons item items => rw [scan, if_pos h]

theorem scan_sublist (items : List α) (count kept : Nat) :
    (limits.scan items count kept).Sublist items := by
  induction items generalizing count kept with
  | nil => exact List.Sublist.refl []
  | cons item items ih =>
      rw [scan]
      split
      · exact List.nil_sublist _
      · split
        · exact (ih count kept).cons item
        · split
          · exact List.nil_sublist _
          · exact (ih _ _).cons_cons item

theorem scan_count (items : List α) {count : Nat} (h : count ≤ limits.maxCount) (kept : Nat) :
    count + (limits.scan items count kept).length ≤ limits.maxCount := by
  induction items generalizing count kept with
  | nil => exact h
  | cons item items ih =>
      rw [scan]
      split
      · exact h
      · rename_i hcount
        split
        · exact ih h kept
        · split
          · exact h
          · have hrest := ih (show count + 1 ≤ limits.maxCount by omega) (kept + limits.weight item)
            rw [List.length_cons]
            omega

theorem scan_weight (items : List α) (count : Nat) {kept : Nat} (h : kept ≤ limits.maxWeight) :
    kept + limits.total (limits.scan items count kept) ≤ limits.maxWeight := by
  induction items generalizing count kept with
  | nil => exact h
  | cons item items ih =>
      rw [scan]
      split
      · exact h
      · split
        · exact ih count h
        · split
          · exact h
          · rename_i hfits
            have hrest := ih (count + 1) (show kept + limits.weight item ≤ limits.maxWeight by omega)
            rw [total_cons]
            omega

theorem retain_sublist (items : List α) : (limits.retain items).Sublist items := by
  have h := (limits.scan_sublist items.reverse 0 0).reverse
  rwa [List.reverse_reverse] at h

theorem retain_count (items : List α) : (limits.retain items).length ≤ limits.maxCount := by
  have h := limits.scan_count items.reverse (Nat.zero_le limits.maxCount) 0
  rw [retain, List.length_reverse]
  omega

theorem retain_weight (items : List α) : limits.total (limits.retain items) ≤ limits.maxWeight := by
  have h := limits.scan_weight items.reverse 0 (Nat.zero_le limits.maxWeight)
  rw [retain, total_reverse]
  omega

/-! ## What was dropped would not be kept later -/

theorem scan_scan (items : List α) {count kept count' kept' : Nat} (hcount : count ≤ count')
    (hkept : kept ≤ kept') :
    limits.scan (limits.scan items count kept) count' kept' = limits.scan items count' kept' := by
  induction items generalizing count kept count' kept' with
  | nil => rfl
  | cons item items ih =>
      by_cases hfull : limits.maxCount ≤ count'
      · rw [scan_full limits hfull, scan_full limits hfull]
      · have hroom : ¬limits.maxCount ≤ count := by omega
        rw [scan, if_neg hroom]
        by_cases hheavy : limits.maxWeight < limits.weight item
        · rw [if_pos hheavy, ih hcount hkept, scan, if_neg hfull, if_pos hheavy]
        · rw [if_neg hheavy]
          by_cases hfits : limits.maxWeight < kept' + limits.weight item
          · -- the longer scan ends here, whatever the shorter one kept behind
            rw [scan, if_neg hfull, if_neg hheavy, if_pos hfits]
            split
            · rfl
            · rw [scan, if_neg hfull, if_neg hheavy, if_pos hfits]
          · have hfits' : ¬limits.maxWeight < kept + limits.weight item := by omega
            rw [if_neg hfits', scan, scan, if_neg hfull, if_neg hfull, if_neg hheavy, if_neg hheavy,
              if_neg hfits, if_neg hfits, ih (by omega) (by omega)]

theorem scan_append_scan (newer items : List α) (count kept : Nat) :
    limits.scan (newer ++ limits.scan items 0 0) count kept
      = limits.scan (newer ++ items) count kept := by
  induction newer generalizing count kept with
  | nil => exact limits.scan_scan items (Nat.zero_le count) (Nat.zero_le kept)
  | cons item newer ih => simp only [List.cons_append, scan, ih]

theorem retain_append (items newer : List α) :
    limits.retain (limits.retain items ++ newer) = limits.retain (items ++ newer) := by
  rw [retain, retain, retain, List.reverse_append, List.reverse_append, List.reverse_reverse,
    scan_append_scan]

end Limits

end Retention
