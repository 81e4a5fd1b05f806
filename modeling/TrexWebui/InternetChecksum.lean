import TrexWebui.Octets

/-!
# The internet checksum

The ones' complement sum of the 16-bit words of an octet string. The loop
folds the carry after each word; `sumWords_eq` says what it computes, and
`Carries.verifies` that a message with its checksum in place has checksum
zero, wherever in an even position the field stands.
-/

namespace InternetChecksum

open PyStr Octets

/-! ## The sum -/

def addWord (sum word : Nat) : Nat := (sum + word) % 65536 + (sum + word) / 65536

/-- The loop of `internet_checksum`; an odd octet at the end is padded with zero. -/
def sumWords : (sum : Nat) → Bytes → Nat
  | sum, [] => sum
  | sum, [high] => addWord sum (high.toNat * 256)
  | sum, high :: low :: rest => sumWords (addWord sum (high.toNat * 256 + low.toNat)) rest

def internetChecksum (data : Bytes) : Nat := 65535 - sumWords 0 data % 65536

def words : Bytes → Nat
  | [] => 0
  | [high] => high.toNat * 256
  | high :: low :: rest => high.toNat * 256 + low.toNat + words rest

/-- The residue of a sum modulo 65535, where 65535 stands for the residue of a positive sum. -/
def fold (n : Nat) : Nat := if n = 0 then 0 else (n - 1) % 65535 + 1

theorem fold_le (n : Nat) : fold n ≤ 65535 := by
  unfold fold
  split_ifs <;> omega

theorem addWord_fold (n : Nat) {word : Nat} (h : word ≤ 65535) :
    addWord (fold n) word = fold (n + word) := by
  have hle := fold_le n
  unfold addWord fold at *
  split_ifs at * <;> omega

theorem sumWords_eq (n : Nat) (data : Bytes) : sumWords (fold n) data = fold (n + words data) := by
  induction data using words.induct generalizing n with
  | case1 => rfl
  | case2 high =>
      have hhigh := high.toNat_lt
      exact addWord_fold n (by omega)
  | case3 high low rest ih =>
      have hhigh := high.toNat_lt
      have hlow := low.toNat_lt
      rw [sumWords, words, addWord_fold n (by omega), ih, Nat.add_assoc]

theorem internetChecksum_eq (data : Bytes) : internetChecksum data = 65535 - fold (words data) := by
  have hsum := sumWords_eq 0 data
  have hle := fold_le (words data)
  rw [Nat.zero_add] at hsum
  change 65535 - sumWords (fold 0) data % 65536 = _
  rw [hsum, Nat.mod_eq_of_lt (by omega)]

theorem internetChecksum_lt (data : Bytes) : internetChecksum data < 65536 := by
  rw [internetChecksum]
  omega

/-! ## A message with its checksum -/

theorem words_append {front : Bytes} (h : front.length % 2 = 0) (back : Bytes) :
    words (front ++ back) = words front + words back := by
  induction front using words.induct with
  | case1 => simp [words]
  | case2 high => simp at h
  | case3 high low rest ih =>
      have hrest : rest.length % 2 = 0 := by
        simp only [List.length_cons] at h
        omega
      rw [List.cons_append, List.cons_append, words, words, ih hrest]
      omega

theorem words_be16 {n : Nat} (h : n < 65536) (back : Bytes) :
    words (be16 n ++ back) = n + words back := by
  simp only [be16, List.cons_append, List.nil_append, words, toNat_ofNat]
  omega

theorem words_field {front : Bytes} (h : front.length % 2 = 0) {n : Nat} (hn : n < 65536)
    (back : Bytes) : words (front ++ be16 n ++ back) = words front + n + words back := by
  rw [List.append_assoc, words_append h, words_be16 hn, Nat.add_assoc]

/-- `message n` is a message with `n` in a field at an even offset. -/
def Carries (message : Nat → Bytes) : Prop :=
  ∃ front back, front.length % 2 = 0 ∧ ∀ n, message n = front ++ be16 n ++ back

theorem Carries.append {message : Nat → Bytes} (h : Carries message) (payload : Bytes) :
    Carries fun n => message n ++ payload := by
  obtain ⟨front, back, heven, heq⟩ := h
  refine ⟨front, back ++ payload, heven, ?_⟩
  intro n
  simp only [heq, List.append_assoc]

theorem Carries.prepend {message : Nat → Bytes} (h : Carries message) (header : Bytes)
    (hheader : header.length % 2 = 0) : Carries fun n => header ++ message n := by
  obtain ⟨front, back, heven, heq⟩ := h
  refine ⟨header ++ front, back, ?_, ?_⟩
  · rw [List.length_append]
    omega
  · intro n
    simp only [heq, List.append_assoc]

/-- A message that carries its checksum has checksum zero. -/
theorem Carries.verifies {message : Nat → Bytes} (h : Carries message) :
    internetChecksum (message (internetChecksum (message 0))) = 0 := by
  obtain ⟨front, back, heven, heq⟩ := h
  have hlt := internetChecksum_lt (message 0)
  rw [heq (internetChecksum (message 0)), internetChecksum_eq, words_field heven hlt, heq 0,
    internetChecksum_eq, words_field heven (by decide)]
  unfold fold
  split_ifs <;> omega

theorem Carries.verifies_nonzero {message : Nat → Bytes} (h : Carries message) :
    internetChecksum (message (if internetChecksum (message 0) = 0 then 0xFFFF
      else internetChecksum (message 0))) = 0 := by
  by_cases hzero : internetChecksum (message 0) = 0
  · obtain ⟨front, back, heven, heq⟩ := h
    rw [if_pos hzero, heq 0xFFFF, internetChecksum_eq, words_field heven (by decide)]
    rw [heq 0, internetChecksum_eq, words_field heven (by decide)] at hzero
    unfold fold at *
    split_ifs at * <;> omega
  · rw [if_neg hzero]
    exact h.verifies

end InternetChecksum
