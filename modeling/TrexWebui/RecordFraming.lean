import Mathlib.Data.List.Infix

/-!
# Records one behind the other

A file of records that are written one behind the other, and a reader that
takes one record after the other until one is not complete. Of a file that was
cut anywhere the reader gets the records that are wholly there.
-/

namespace RecordFraming

variable {ρ σ α : Type}

/-- How a record is written, what is read of it, and how the first record is read. -/
structure Framing (ρ σ α : Type) where
  write : ρ → List α
  value : ρ → σ
  read : List α → Option (σ × List α)

namespace Framing

variable (framing : Framing ρ σ α)

def writeAll (records : List ρ) : List α := records.flatMap framing.write

def readAll : (fuel : Nat) → List α → List σ
  | 0, _ => []
  | fuel + 1, input =>
      match framing.read input with
      | none => []
      | some (value, rest) => value :: readAll fuel rest

/-- Each good record is read from its start on, and not before it is complete. -/
structure Lawful (good : ρ → Prop) : Prop where
  read_nil : framing.read [] = none
  read_write : ∀ record, good record → ∀ rest,
    framing.read (framing.write record ++ rest) = some (framing.value record, rest)
  read_short : ∀ record, good record → ∀ cut, cut <+: framing.write record →
    cut.length < (framing.write record).length → framing.read cut = none

variable {framing} {good : ρ → Prop}

theorem readAll_of_none {input : List α} (h : framing.read input = none) (fuel : Nat) :
    framing.readAll fuel input = [] := by
  cases fuel with
  | zero => rfl
  | succ fuel => rw [readAll, h]

theorem Lawful.write_pos (h : framing.Lawful good) {record : ρ} (hgood : good record) :
    0 < (framing.write record).length := by
  apply List.length_pos_iff.mpr
  intro hempty
  have hread := h.read_write record hgood []
  rw [hempty, List.append_nil, h.read_nil] at hread
  cases hread

theorem Lawful.readAll_cut (h : framing.Lawful good) {records : List ρ}
    (hgood : ∀ record ∈ records, good record) {cut : List α} (hcut : cut <+: framing.writeAll records)
    {fuel : Nat} (hfuel : cut.length ≤ fuel) :
    ∃ k ≤ records.length, framing.readAll fuel cut = (records.take k).map framing.value
      ∧ framing.writeAll (records.take k) <+: cut
      ∧ ∀ j ≤ records.length, framing.writeAll (records.take j) <+: cut → j ≤ k := by
  induction records generalizing cut fuel with
  | nil =>
      have hempty : cut = [] := List.prefix_nil.mp hcut
      subst hempty
      exact ⟨0, le_refl _, readAll_of_none h.read_nil fuel, List.prefix_refl _, fun j hj _ => hj⟩
  | cons record records ih =>
      have hrecord := hgood record List.mem_cons_self
      have hwrite : framing.writeAll (record :: records)
          = framing.write record ++ framing.writeAll records := List.flatMap_cons
      rw [hwrite] at hcut
      by_cases hshort : cut.length < (framing.write record).length
      · -- the first record is cut off
        have hinside : cut <+: framing.write record :=
          List.prefix_of_prefix_length_le hcut (List.prefix_append _ _) (le_of_lt hshort)
        refine ⟨0, Nat.zero_le _, readAll_of_none (h.read_short record hrecord cut hinside hshort) fuel,
          List.nil_prefix, ?_⟩
        intro j _ hpart
        cases j with
        | zero => exact le_refl 0
        | succ j =>
            have hle : (framing.writeAll (record :: records.take j)).length ≤ cut.length :=
              hpart.length_le
            rw [writeAll, List.flatMap_cons, List.length_append] at hle
            omega
      · obtain ⟨rest, rfl⟩ := List.prefix_of_prefix_length_le (List.prefix_append _ _) hcut
          (Nat.le_of_not_lt hshort)
        have hrest : rest <+: framing.writeAll records := (List.prefix_append_right_inj _).mp hcut
        have hpos := h.write_pos hrecord
        rw [List.length_append] at hfuel
        cases fuel with
        | zero => omega
        | succ fuel =>
            obtain ⟨k, hk, hread, hprefix, hlongest⟩ := ih
              (fun r hr => hgood r (List.mem_cons_of_mem record hr)) hrest
              (show rest.length ≤ fuel by omega)
            refine ⟨k + 1, Nat.succ_le_succ hk, ?_, ?_, ?_⟩
            · rw [readAll, h.read_write record hrecord rest]
              simp only [hread, List.take_succ_cons, List.map_cons]
            · rw [List.take_succ_cons, writeAll, List.flatMap_cons]
              exact (List.prefix_append_right_inj _).mpr hprefix
            · intro j hj hpart
              cases j with
              | zero => exact Nat.zero_le _
              | succ j =>
                  rw [List.take_succ_cons, writeAll, List.flatMap_cons] at hpart
                  exact Nat.succ_le_succ (hlongest j (Nat.le_of_succ_le_succ hj)
                    ((List.prefix_append_right_inj _).mp hpart))

end Framing

end RecordFraming
