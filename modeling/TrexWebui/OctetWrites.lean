import Mathlib.Algebra.Ring.Nat
import TrexWebui.InternetChecksum

/-!
# Writing in place

`packet[offset : offset + n] = chunk` on a `bytearray`, for a chunk of `n`
octets that fits: what it changes, what a reader sees of it, and what it means
for a checksum that covers it.
-/

namespace Octets

open PyStr InternetChecksum

/-- `packet[offset : offset + len(chunk)] = chunk` -/
def overwrite (packet : Bytes) (offset : Nat) (chunk : Bytes) : Bytes :=
  packet.take offset ++ chunk ++ packet.drop (offset + chunk.length)

section
variable {packet chunk : Bytes} {offset : Nat}

theorem length_overwrite (h : offset + chunk.length ≤ packet.length) :
    (overwrite packet offset chunk).length = packet.length := by
  simp only [overwrite, List.length_append, List.length_take, List.length_drop]
  omega

/-! ## What is changed -/

theorem getElem_overwrite (h : offset + chunk.length ≤ packet.length) (i : Nat) :
    (overwrite packet offset chunk)[i]? =
      if offset ≤ i ∧ i < offset + chunk.length then chunk[i - offset]? else packet[i]? := by
  have htake : (packet.take offset).length = offset := by
    rw [List.length_take]
    omega
  rw [overwrite, List.append_assoc]
  by_cases hlow : i < offset
  · rw [List.getElem?_append_left (by omega), List.getElem?_take_of_lt hlow,
      if_neg (by omega)]
  · rw [List.getElem?_append_right (by omega), htake]
    by_cases hhigh : i - offset < chunk.length
    · rw [List.getElem?_append_left hhigh, if_pos (by omega)]
    · rw [List.getElem?_append_right (by omega), List.getElem?_drop, if_neg (by omega)]
      congr 1
      omega

theorem octetAt_overwrite (h : offset + chunk.length ≤ packet.length) {i : Nat}
    (hi : i < offset ∨ offset + chunk.length ≤ i) :
    octetAt (overwrite packet offset chunk) i = octetAt packet i := by
  rw [octetAt, octetAt, List.getD_eq_getElem?_getD, List.getD_eq_getElem?_getD,
    getElem_overwrite h, if_neg (by omega)]

theorem octetAt_overwrite_inside (h : offset + chunk.length ≤ packet.length) {i : Nat}
    (hi : i < chunk.length) :
    octetAt (overwrite packet offset chunk) (offset + i) = octetAt chunk i := by
  rw [octetAt, octetAt, List.getD_eq_getElem?_getD, List.getD_eq_getElem?_getD,
    getElem_overwrite h, if_pos (by omega), Nat.add_sub_cancel_left]

theorem slice_overwrite (h : offset + chunk.length ≤ packet.length) {i n : Nat}
    (hi : i + n ≤ offset ∨ offset + chunk.length ≤ i) :
    slice (overwrite packet offset chunk) i n = slice packet i n := by
  apply List.ext_getElem?
  intro k
  simp only [slice, List.getElem?_take, List.getElem?_drop]
  split
  · rw [getElem_overwrite h, if_neg (by omega)]
  · rfl

theorem slice_overwrite_self (h : offset + chunk.length ≤ packet.length) :
    slice (overwrite packet offset chunk) offset chunk.length = chunk := by
  have htake : (packet.take offset).length = offset := by
    rw [List.length_take]
    omega
  have hdrop : (packet.take offset ++ (chunk ++ packet.drop (offset + chunk.length))).drop offset
      = chunk ++ packet.drop (offset + chunk.length) := by
    rw [List.drop_left' htake]
  rw [slice, overwrite, List.append_assoc, hdrop, List.take_left]

theorem overwrite_overwrite (h : offset + chunk.length ≤ packet.length) {second : Bytes}
    (hlength : second.length = chunk.length) :
    overwrite (overwrite packet offset chunk) offset second = overwrite packet offset second := by
  apply List.ext_getElem?
  intro i
  have hfirst := length_overwrite h
  rw [getElem_overwrite (by omega), getElem_overwrite h, getElem_overwrite (by omega), hlength]
  split <;> rfl

/-! ## Cutting -/

theorem length_slice {i n : Nat} (h : i + n ≤ packet.length) : (slice packet i n).length = n := by
  simp only [slice, List.length_take, List.length_drop]
  omega

theorem slice_add (packet : Bytes) (i m n : Nat) :
    slice packet i (m + n) = slice packet i m ++ slice packet (i + m) n := by
  rw [slice, slice, slice, List.take_add, List.drop_drop]

theorem octetAt_slice {i n k : Nat} (h : k < n) : octetAt (slice packet i n) k = octetAt packet (i + k) := by
  simp only [octetAt, slice, List.getD_eq_getElem?_getD, List.getElem?_take, List.getElem?_drop,
    if_pos h]

theorem be16At_lt (packet : Bytes) (i : Nat) : be16At packet i < 65536 := by
  have hhigh := octetAt_lt packet i
  have hlow := octetAt_lt packet (i + 1)
  rw [be16At]
  omega

theorem slice_two {i : Nat} (h : i + 2 ≤ packet.length) : slice packet i 2 = be16 (be16At packet i) := by
  have hlength := length_slice h
  have hzero : octetAt (slice packet i 2) 0 = octetAt packet i := octetAt_slice (by decide)
  have hone : octetAt (slice packet i 2) 1 = octetAt packet (i + 1) := octetAt_slice (by decide)
  obtain ⟨a, b, heq⟩ := List.length_eq_two.mp hlength
  rw [heq] at hzero hone ⊢
  have ha : a.toNat = octetAt packet i := hzero
  have hb : b.toNat = octetAt packet (i + 1) := hone
  rw [be16At, ← ha, ← hb, be16]
  have halt := a.toNat_lt
  have hblt := b.toNat_lt
  congr 1
  · apply UInt8.toNat_inj.mp
    rw [toNat_ofNat]
    omega
  · congr 1
    apply UInt8.toNat_inj.mp
    rw [toNat_ofNat]
    omega

theorem slice_congr {other : Bytes} (hlength : packet.length = other.length) {i n : Nat}
    (h : ∀ k, i ≤ k → octetAt packet k = octetAt other k) : slice packet i n = slice other i n := by
  rw [slice, slice]
  congr 1
  apply List.ext_getElem
  · rw [List.length_drop, List.length_drop, hlength]
  · intro k hk hk'
    have hoctet := h (i + k) (Nat.le_add_right i k)
    rw [List.length_drop] at hk hk'
    rw [octetAt, octetAt, List.getD_eq_getElem _ _ (by omega), List.getD_eq_getElem _ _ (by omega)]
      at hoctet
    rw [List.getElem_drop, List.getElem_drop]
    exact UInt8.toNat_inj.mp hoctet

theorem overwrite_be16At {i : Nat} (h : i + 2 ≤ packet.length) :
    overwrite packet i (be16 (be16At packet i)) = packet := by
  rw [overwrite, ← slice_two h, length_slice h, slice, List.append_assoc, ← List.drop_drop,
    List.take_append_drop, List.take_append_drop]

end

end Octets

namespace InternetChecksum

open PyStr Octets

theorem carries_slice {packet : Bytes} {start length field : Nat}
    (hfits : start + length ≤ packet.length) (hlow : start ≤ field)
    (hhigh : field + 2 ≤ start + length) (heven : (field - start) % 2 = 0) :
    Carries fun n => slice (overwrite packet field (be16 n)) start length := by
  refine ⟨slice packet start (field - start), slice packet (field + 2) (start + length - (field + 2)),
    ?_, ?_⟩
  · rw [length_slice (by omega)]
    exact heven
  · intro n
    have hwrite : field + (be16 n).length ≤ packet.length := by
      rw [length_be16]
      omega
    have hsplit : length = (field - start) + 2 + (start + length - (field + 2)) := by omega
    have hself := slice_overwrite_self hwrite
    rw [length_be16] at hself
    show slice (overwrite packet field (be16 n)) start length = _
    rw [hsplit, slice_add, slice_add, slice_overwrite hwrite (by omega),
      show start + (field - start) = field by omega, hself,
      show start + (field - start + 2) = field + 2 by omega,
      slice_overwrite hwrite (by rw [length_be16]; omega)]
    congr 2
    omega

theorem words_overwrite {packet : Bytes} {start length field n : Nat}
    (hfits : start + length ≤ packet.length) (hlow : start ≤ field)
    (hhigh : field + 2 ≤ start + length) (heven : (field - start) % 2 = 0) (hn : n < 65536) :
    words (slice (overwrite packet field (be16 n)) start length) + be16At packet field
      = words (slice packet start length) + n := by
  obtain ⟨front, back, hfront, heq⟩ := carries_slice hfits hlow hhigh heven
  have hnew : slice (overwrite packet field (be16 n)) start length = front ++ be16 n ++ back := heq n
  have hsame : slice (overwrite packet field (be16 (be16At packet field))) start length
      = front ++ be16 (be16At packet field) ++ back := heq _
  rw [overwrite_be16At (by omega)] at hsame
  rw [hnew, hsame, words_field hfront hn, words_field hfront (be16At_lt packet field)]
  omega

theorem fold_mod (n : Nat) : fold n % 65535 = n % 65535 := by
  unfold fold
  split_ifs with h
  · rw [h]
  · omega

theorem fold_eq_full {n : Nat} : fold n = 65535 ↔ n ≠ 0 ∧ n % 65535 = 0 := by
  have hmod := fold_mod n
  have hle := fold_le n
  constructor
  · intro h
    rw [h] at hmod
    refine ⟨?_, hmod.symm⟩
    rintro rfl
    cases h
  · rintro ⟨hpos, hzero⟩
    have hfold : fold n ≠ 0 := by
      unfold fold
      rw [if_neg hpos]
      omega
    omega

theorem internetChecksum_eq_zero {data : Bytes} :
    internetChecksum data = 0 ↔ words data ≠ 0 ∧ words data % 65535 = 0 := by
  have hle := fold_le (words data)
  rw [internetChecksum_eq, ← fold_eq_full]
  omega

/-- The only value other than zero with which a message verifies is the checksum that is sent. -/
theorem Carries.verifies_iff {message : Nat → Bytes} (h : Carries message) {n : Nat}
    (hn : n < 65536) (hpos : n ≠ 0) :
    internetChecksum (message n) = 0 ↔
      n = if internetChecksum (message 0) = 0 then 0xFFFF else internetChecksum (message 0) := by
  obtain ⟨front, back, heven, heq⟩ := h
  have hmod := fold_mod (words front + 0 + words back)
  have hle := fold_le (words front + 0 + words back)
  rw [internetChecksum_eq_zero, heq n, heq 0, internetChecksum_eq, words_field heven hn,
    words_field heven (by decide)]
  generalize fold (words front + 0 + words back) = sum at *
  split_ifs <;> omega

/-! ## Sums over a segment -/

theorem fold_fold_add (m n : Nat) : fold (fold m + n) = fold (m + n) := by
  unfold fold
  split_ifs <;> omega

theorem fold_of_le {n : Nat} (h : n ≤ 65535) : fold n = n := by
  unfold fold
  split_ifs <;> omega

/-- The words of a packet from `start` on. -/
def wordSum (packet : Bytes) (start count : Nat) : Nat :=
  ((List.range count).map fun i => be16At packet (start + 2 * i)).sum

theorem wordSum_succ (packet : Bytes) (start count : Nat) :
    wordSum packet start (count + 1) = wordSum packet start count + be16At packet (start + 2 * count) := by
  rw [wordSum, wordSum, List.range_succ, List.map_append, List.sum_append]
  simp

theorem words_slice_two (packet : Bytes) (i : Nat) : words (slice packet i 2) = be16At packet i := by
  have hword := be16At_drop packet i 0
  rw [Nat.add_zero] at hword
  rw [← hword, slice]
  rcases packet.drop i with - | ⟨high, - | ⟨low, rest⟩⟩ <;> simp [words, be16At, octetAt]

theorem words_slice_one (packet : Bytes) (i : Nat) (h : octetAt packet (i + 1) = 0) :
    words (slice packet i 1) = be16At packet i := by
  have hoctet := octetAt_drop packet i 0
  rw [Nat.add_zero] at hoctet
  rw [be16At, h, ← hoctet, slice]
  cases packet.drop i with
  | nil => simp [words, octetAt]
  | cons high rest => simp [words, octetAt]

theorem words_append_slice (packet : Bytes) (start count n : Nat) :
    words (slice packet start (2 * count + n))
      = words (slice packet start (2 * count)) + words (slice packet (start + 2 * count) n) := by
  rw [slice_add]
  by_cases hfits : start + 2 * count ≤ packet.length
  · apply words_append
    rw [length_slice hfits]
    omega
  · have hnil : slice packet (start + 2 * count) n = [] := by
      rw [slice, List.drop_eq_nil_of_le (by omega), List.take_nil]
    rw [hnil, List.append_nil]
    rfl

theorem words_slice_even (packet : Bytes) (start count : Nat) :
    words (slice packet start (2 * count)) = wordSum packet start count := by
  induction count with
  | zero => simp [slice, words, wordSum]
  | succ count ih =>
      rw [show 2 * (count + 1) = 2 * count + 2 by omega, words_append_slice, ih, words_slice_two,
        wordSum_succ]

/-- The words of a segment, where the octet after an odd one is zero. -/
theorem words_slice {packet : Bytes} {start length : Nat}
    (h : length % 2 = 1 → octetAt packet (start + length) = 0) :
    words (slice packet start length) = wordSum packet start ((length + 1) / 2) := by
  obtain ⟨count, rfl | rfl⟩ : ∃ count, length = 2 * count ∨ length = 2 * count + 1 :=
    ⟨length / 2, by omega⟩
  · rw [words_slice_even]
    congr 1
    omega
  · have hzero : octetAt packet (start + 2 * count + 1) = 0 := h (by omega)
    rw [words_append_slice, words_slice_even, words_slice_one _ _ hzero, ← wordSum_succ]
    congr 1
    omega

/-- The sum of the words without the one at `skip`. -/
def wordSumSkipping (packet : Bytes) (start count skip : Nat) : Nat :=
  ((List.range count).map fun i =>
    if skip = start + 2 * i then 0 else be16At packet (start + 2 * i)).sum

theorem wordSumSkipping_succ (packet : Bytes) (start count skip : Nat) :
    wordSumSkipping packet start (count + 1) skip = wordSumSkipping packet start count skip
      + if skip = start + 2 * count then 0 else be16At packet (start + 2 * count) := by
  rw [wordSumSkipping, wordSumSkipping, List.range_succ, List.map_append, List.sum_append]
  simp

theorem wordSumSkipping_of_le (packet : Bytes) (start count skip : Nat)
    (h : start + 2 * count ≤ skip) :
    wordSumSkipping packet start count skip = wordSum packet start count := by
  induction count with
  | zero => rfl
  | succ count ih =>
      rw [wordSumSkipping_succ, wordSum_succ, ih (by omega), if_neg (by omega)]

theorem wordSumSkipping_add (packet : Bytes) {start count skip : Nat} (hlow : start ≤ skip)
    (heven : (skip - start) % 2 = 0) (hhigh : skip < start + 2 * count) :
    wordSumSkipping packet start count skip + be16At packet skip = wordSum packet start count := by
  induction count with
  | zero => omega
  | succ count ih =>
      rw [wordSumSkipping_succ, wordSum_succ]
      by_cases hlast : skip = start + 2 * count
      · rw [if_pos hlast, wordSumSkipping_of_le packet start count skip (by omega), hlast]
        omega
      · rw [if_neg hlast]
        have hrest := ih (by omega)
        omega

end InternetChecksum
