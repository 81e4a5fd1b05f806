import Mathlib.Algebra.Ring.Nat
import Mathlib.Data.List.Induction
import TrexWebui.OctetWrites

/-!
# Numbers of any width in network order

The octets of a number, most significant first, for every width; and what is
in a field whose last octets are written over by a number.
-/

namespace Octets

open PyStr

/-- The last `width` octets of a number. -/
def octetsOf : (width n : Nat) → Bytes
  | 0, _ => []
  | width + 1, n => octetsOf width (n / 256) ++ [.ofNat n]

def numberOf (octets : Bytes) : Nat := octets.foldl (fun value octet => value * 256 + octet.toNat) 0

@[simp] theorem length_octetsOf (width n : Nat) : (octetsOf width n).length = width := by
  induction width generalizing n with
  | zero => rfl
  | succ width ih => rw [octetsOf, List.length_append, ih, List.length_singleton]

theorem numberOf_append (octets : Bytes) (octet : UInt8) :
    numberOf (octets ++ [octet]) = numberOf octets * 256 + octet.toNat := by
  rw [numberOf, List.foldl_append]
  rfl

theorem numberOf_octetsOf (width n : Nat) : numberOf (octetsOf width n) = n % 256 ^ width := by
  induction width generalizing n with
  | zero => rw [Nat.pow_zero, Nat.mod_one]; rfl
  | succ width ih =>
      rw [octetsOf, numberOf_append, ih, toNat_ofNat, Nat.pow_succ, Nat.mul_comm (256 ^ width),
        Nat.mod_mul]
      omega

theorem octetsOf_numberOf (octets : Bytes) : octetsOf octets.length (numberOf octets) = octets := by
  induction octets using List.reverseRecOn with
  | nil => rfl
  | append_singleton octets octet ih =>
      have hlt := octet.toNat_lt
      have hdiv : (numberOf octets * 256 + octet.toNat) / 256 = numberOf octets := by omega
      have hlast : UInt8.ofNat (numberOf octets * 256 + octet.toNat) = octet := by
        apply UInt8.toNat_inj.mp
        rw [toNat_ofNat]
        omega
      rw [List.length_append, List.length_singleton, octetsOf, numberOf_append, hdiv, hlast, ih]

theorem numberOf_lt (octets : Bytes) : numberOf octets < 256 ^ octets.length := by
  have h := numberOf_octetsOf octets.length (numberOf octets)
  rw [octetsOf_numberOf] at h
  rw [h]
  exact Nat.mod_lt _ (Nat.pow_pos (by decide))

theorem octetsOf_inj {width m n : Nat} (hm : m < 256 ^ width) (hn : n < 256 ^ width) :
    octetsOf width m = octetsOf width n ↔ m = n := by
  constructor
  · intro h
    have hvalue := congrArg numberOf h
    rwa [numberOf_octetsOf, numberOf_octetsOf, Nat.mod_eq_of_lt hm, Nat.mod_eq_of_lt hn] at hvalue
  · rintro rfl
    rfl

theorem octetsOf_add (high low n : Nat) :
    octetsOf (high + low) n = octetsOf high (n / 256 ^ low) ++ octetsOf low n := by
  induction low generalizing n with
  | zero => rw [Nat.pow_zero, Nat.div_one, octetsOf, List.append_nil, Nat.add_zero]
  | succ low ih =>
      rw [← Nat.add_assoc, octetsOf, ih, octetsOf, Nat.div_div_eq_div_mul, Nat.pow_succ,
        Nat.mul_comm 256, List.append_assoc]

theorem octetsOf_mod (width n : Nat) : octetsOf width (n % 256 ^ width) = octetsOf width n := by
  have h := octetsOf_numberOf (octetsOf width n)
  rwa [length_octetsOf, numberOf_octetsOf] at h

theorem slice_overwrite_low {packet : Bytes} {base width low n value : Nat}
    (hfits : base + width ≤ packet.length) (hlow : low ≤ width)
    (hfield : slice packet base width = octetsOf width n) :
    slice (overwrite packet (base + width - low) (octetsOf low value)) base width
      = octetsOf width (n / 256 ^ low * 256 ^ low + value % 256 ^ low) := by
  obtain ⟨high, rfl⟩ := Nat.exists_eq_add_of_le' hlow
  have hplace : base + (high + low) - low = base + high := by omega
  have hwrite : base + high + (octetsOf low value).length ≤ packet.length := by
    rw [length_octetsOf]
    omega
  have hself := slice_overwrite_self hwrite
  rw [length_octetsOf] at hself
  have hhigh : slice packet base high = octetsOf high (n / 256 ^ low) := by
    rw [slice_add, octetsOf_add] at hfield
    refine (List.append_inj hfield ?_).1
    rw [length_slice (by omega), length_octetsOf]
  have hpos : 0 < 256 ^ low := Nat.pow_pos (by decide)
  have hmod := Nat.mod_lt value hpos
  rw [hplace, slice_add, slice_overwrite hwrite (by omega), hself, hhigh, octetsOf_add,
    Nat.add_comm _ (value % 256 ^ low), Nat.add_mul_div_right _ _ hpos, Nat.div_eq_of_lt hmod,
    Nat.zero_add]
  congr 1
  rw [← octetsOf_mod low value, ← octetsOf_mod low (_ + _), Nat.add_mul_mod_self_right,
    Nat.mod_mod]

end Octets
