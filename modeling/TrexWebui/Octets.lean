import Mathlib.Data.List.GetD
import TrexWebui.PyStr

/-!
# Octets

Numbers in network order, as `struct.pack("!H")` and `int.from_bytes(…,
"big")` write and read them, and octet strings of a fixed length.
-/

namespace Octets

open PyStr

/-! ## Writing -/

def be16 (n : Nat) : Bytes := [.ofNat (n / 256), .ofNat n]

def be24 (n : Nat) : Bytes := [.ofNat (n / 65536), .ofNat (n / 256), .ofNat n]

def be32 (n : Nat) : Bytes :=
  [.ofNat (n / 16777216), .ofNat (n / 65536), .ofNat (n / 256), .ofNat n]

def le32 (n : Nat) : Bytes :=
  [.ofNat n, .ofNat (n / 256), .ofNat (n / 65536), .ofNat (n / 16777216)]

@[simp] theorem length_be16 (n : Nat) : (be16 n).length = 2 := rfl

@[simp] theorem length_be24 (n : Nat) : (be24 n).length = 3 := rfl

@[simp] theorem length_be32 (n : Nat) : (be32 n).length = 4 := rfl

@[simp] theorem length_le32 (n : Nat) : (le32 n).length = 4 := rfl

/-! ## Reading -/

/-- `packet[offset]`, zero beyond the end. -/
def octetAt (packet : Bytes) (offset : Nat) : Nat := (packet.getD offset 0).toNat

def be16At (packet : Bytes) (offset : Nat) : Nat :=
  octetAt packet offset * 256 + octetAt packet (offset + 1)

def be32At (packet : Bytes) (offset : Nat) : Nat :=
  be16At packet offset * 65536 + be16At packet (offset + 2)

def le32At (packet : Bytes) (offset : Nat) : Nat :=
  octetAt packet offset + octetAt packet (offset + 1) * 256 + octetAt packet (offset + 2) * 65536
    + octetAt packet (offset + 3) * 16777216

/-- `packet[offset : offset + length]` -/
def slice (packet : Bytes) (offset length : Nat) : Bytes := (packet.drop offset).take length

theorem octetAt_lt (packet : Bytes) (offset : Nat) : octetAt packet offset < 256 :=
  (packet.getD offset 0).toNat_lt

theorem octetAt_append_right {front : Bytes} (packet : Bytes) {offset : Nat}
    (h : front.length ≤ offset) :
    octetAt (front ++ packet) offset = octetAt packet (offset - front.length) := by
  rw [octetAt, octetAt, List.getD_append_right _ _ _ _ h]

theorem octetAt_append_left {packet : Bytes} (back : Bytes) {offset : Nat}
    (h : offset < packet.length) : octetAt (packet ++ back) offset = octetAt packet offset := by
  rw [octetAt, octetAt, List.getD_append _ _ _ _ h]

theorem octetAt_drop (packet : Bytes) (n offset : Nat) :
    octetAt (packet.drop n) offset = octetAt packet (n + offset) := by
  simp [octetAt, List.getD_eq_getElem?_getD]

theorem be16At_drop (packet : Bytes) (n offset : Nat) :
    be16At (packet.drop n) offset = be16At packet (n + offset) := by
  simp [be16At, octetAt_drop, Nat.add_assoc]

theorem be32At_drop (packet : Bytes) (n offset : Nat) :
    be32At (packet.drop n) offset = be32At packet (n + offset) := by
  simp [be32At, be16At_drop, Nat.add_assoc]

theorem be16At_append_right {front : Bytes} (packet : Bytes) {offset : Nat}
    (h : front.length ≤ offset) :
    be16At (front ++ packet) offset = be16At packet (offset - front.length) := by
  have hnext : front.length ≤ offset + 1 := by omega
  rw [be16At, be16At, octetAt_append_right packet h, octetAt_append_right packet hnext,
    Nat.sub_add_comm h]

theorem toNat_ofNat (n : Nat) : (UInt8.ofNat n).toNat = n % 256 := UInt8.toNat_ofNat'

@[simp] theorem be16At_be16 {n : Nat} (h : n < 65536) (back : Bytes) :
    be16At (be16 n ++ back) 0 = n := by
  simp only [be16At, octetAt, be16, List.cons_append, List.getD_cons_zero, List.getD_cons_succ,
    toNat_ofNat]
  omega

theorem be16At_write (front back : Bytes) (offset : Nat) {n : Nat} (hoffset : front.length = offset)
    (h : n < 65536) : be16At (front ++ be16 n ++ back) offset = n := by
  rw [List.append_assoc, be16At_append_right _ hoffset.le, hoffset, Nat.sub_self, be16At_be16 h]

theorem be32At_be32 {n : Nat} (h : n < 4294967296) (back : Bytes) :
    be32At (be32 n ++ back) 0 = n := by
  simp only [be32At, be16At, octetAt, be32, List.cons_append, List.getD_cons_zero,
    List.getD_cons_succ, toNat_ofNat]
  omega

theorem le32At_write (front back : Bytes) (offset : Nat) {n : Nat} (hoffset : front.length = offset)
    (h : n < 4294967296) : le32At (front ++ le32 n ++ back) offset = n := by
  have hright : ∀ k, octetAt (front ++ le32 n ++ back) (offset + k) = octetAt (le32 n ++ back) k := by
    intro k
    rw [List.append_assoc, octetAt_append_right _ (by omega), hoffset, Nat.add_sub_cancel_left]
  have hfirst := hright 0
  rw [Nat.add_zero] at hfirst
  rw [le32At, hfirst, hright 1, hright 2, hright 3]
  simp only [octetAt, le32, List.cons_append, List.getD_cons_zero, List.getD_cons_succ,
    toNat_ofNat]
  omega

/-! ## Reading along a packet

A packet is read chunk by chunk: what stands at an offset starts with the next chunk, and the
chunk behind it stands at the offset plus its length.
-/

section Chunks

variable {packet back : Bytes} {offset : Nat}

theorem drop_next {front : Bytes} {next : Nat} (h : packet.drop offset = front ++ back)
    (hnext : offset + front.length = next) : packet.drop next = back := by
  rw [← hnext, ← List.drop_drop, h, List.drop_left]

theorem drop_octet {octet : UInt8} {next : Nat} (h : packet.drop offset = octet :: back)
    (hnext : offset + 1 = next) : packet.drop next = back :=
  drop_next (List.singleton_append ▸ h) hnext

theorem length_of_drop {n : Nat} (h : packet.drop offset = back) (hn : n ≤ back.length)
    (hpos : 0 < n) : offset + n ≤ packet.length := by
  have hlength := congrArg List.length h
  rw [List.length_drop] at hlength
  omega

theorem octetAt_of_drop {octet : UInt8} (h : packet.drop offset = octet :: back) :
    octetAt packet offset = octet.toNat := by
  rw [← Nat.add_zero offset, ← octetAt_drop, h]
  rfl

theorem be16At_of_drop {n : Nat} (h : packet.drop offset = be16 n ++ back) (hn : n < 65536) :
    be16At packet offset = n := by
  rw [← Nat.add_zero offset, ← be16At_drop, h, be16At_be16 hn]

theorem be32At_of_drop {n : Nat} (h : packet.drop offset = be32 n ++ back) (hn : n < 4294967296) :
    be32At packet offset = n := by
  rw [← Nat.add_zero offset, ← be32At_drop, h, be32At_be32 hn]

theorem slice_of_drop {chunk : Bytes} {length : Nat} (h : packet.drop offset = chunk ++ back)
    (hlength : chunk.length = length) : slice packet offset length = chunk := by
  rw [slice, h, ← hlength, List.take_left]

end Chunks

/-! ## Fixed lengths -/

/-- An octet string of a fixed length, such as an address. -/
structure Fixed (n : Nat) where
  val : Bytes
  length_val : val.length = n

attribute [simp] Fixed.length_val

end Octets
