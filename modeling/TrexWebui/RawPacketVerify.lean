import TrexWebui.RawPacketFields
import TrexWebui.RawPacketRepair

/-!
# When a checksum of a raw packet verifies

A checksum verifies when the words of its pseudo header and of its segment sum
up to a multiple of 65535, the last octet of an odd segment padded with zero.
A field that a repair would not change verifies, if the octet after an odd
segment, which the code adds to the sum, is zero.
-/

namespace TrexWebui

open PyStr Octets InternetChecksum

/-! ## What the loops compute -/

theorem foldCarriesLoop_eq {fuel sum : Nat} (h : sum ≤ fuel + 65535) :
    foldCarriesLoop fuel sum = fold sum := by
  induction fuel generalizing sum with
  | zero =>
      rw [foldCarriesLoop]
      exact (fold_of_le (by omega)).symm
  | succ fuel ih =>
      rw [foldCarriesLoop]
      split
      · rw [ih (by omega)]
        unfold fold
        split_ifs <;> omega
      · exact (fold_of_le (by omega)).symm

@[simp] theorem foldCarries_eq (sum : Nat) : foldCarries sum = fold sum :=
  foldCarriesLoop_eq (by omega)

theorem rawChecksumAddBytes_eq (bytes : Bytes) (start length n : Nat) :
    rawChecksumAddBytes bytes start length (fold n) none
      = fold (n + wordSum bytes start ((length + 1) / 2)) := by
  rw [rawChecksumAddBytes]
  generalize (length + 1) / 2 = count
  induction count with
  | zero => rfl
  | succ count ih =>
      rw [List.range_succ, List.foldl_append, ih, wordSum_succ]
      simp [fold_fold_add, Nat.add_assoc]

theorem rawChecksumAddBytes_skip (bytes : Bytes) (start length n skip : Nat) :
    rawChecksumAddBytes bytes start length (fold n) (some skip)
      = fold (n + wordSumSkipping bytes start ((length + 1) / 2) skip) := by
  rw [rawChecksumAddBytes]
  generalize (length + 1) / 2 = count
  induction count with
  | zero => rfl
  | succ count ih =>
      rw [List.range_succ, List.foldl_append, ih, wordSumSkipping_succ]
      simp [fold_fold_add, Nat.add_assoc]

theorem complement_fold (n : Nat) : complement (fold n) = 65535 - fold n := by
  have hle := fold_le n
  rw [complement]
  omega

theorem fold_complement (n : Nat) : n + (65535 - fold n) ≠ 0 ∧ (n + (65535 - fold n)) % 65535 = 0 := by
  unfold fold
  split_ifs <;> omega

/-! ## Verification -/

def rawPseudoHeader (bytes : Bytes) (version : IpVersion) (ipOffset protocol length : Nat) : Bytes :=
  match version with
  | .ipv4 => slice bytes (ipOffset + 12) 8 ++ ([0, .ofNat protocol] ++ be16 length)
  | .ipv6 => slice bytes (ipOffset + 8) 32 ++ (be32 length ++ [0, 0, 0, .ofNat protocol])

namespace RawChecksum

def Verifies (bytes : Bytes) : RawChecksum → Prop
  | ipv4 offset headerLength => internetChecksum (slice bytes offset headerLength) = 0
  | icmp target =>
      internetChecksum
        ((match target.ipVersion with
          | .ipv4 => []
          | .ipv6 => rawPseudoHeader bytes .ipv6 target.ipOffset 58 target.length)
        ++ slice bytes target.icmpOffset target.length) = 0
  | sctp target =>
      slice bytes (target.sctpOffset + 8) 4
        = le32 (sctpCrc32c (slice bytes target.sctpOffset 8 ++ [0, 0, 0, 0]
          ++ slice bytes (target.sctpOffset + 12) (target.length - 12))).toNat
  | transport target =>
      internetChecksum
        (rawPseudoHeader bytes target.ipVersion target.ipOffset target.protocol target.length
          ++ slice bytes target.l4Offset target.length) = 0
  | gre target => internetChecksum (slice bytes target.greOffset target.length) = 0

def padding : RawChecksum → List Nat
  | icmp target => if target.length % 2 = 1 then [target.icmpOffset + target.length] else []
  | transport target => if target.length % 2 = 1 then [target.l4Offset + target.length] else []
  | gre target => if target.length % 2 = 1 then [target.greOffset + target.length] else []
  | _ => []

def repair : RawChecksum → Bytes → Bytes
  | ipv4 offset _, bytes => repairIpv4 bytes offset
  | icmp target, bytes => repairIcmp bytes target
  | sctp target, bytes => repairSctp bytes target
  | transport target, bytes => repairTransport bytes target
  | gre target, bytes => repairGre bytes target

/-- The segment of a checksum lies in the packet, its field at an even place of it. -/
def Shape (bytes : Bytes) : RawChecksum → Prop
  | ipv4 offset headerLength => rawIpv4HeaderLengthAt bytes offset = some headerLength
  | icmp target =>
      target.checksumOffset = target.icmpOffset + 2 ∧ 4 ≤ target.length
        ∧ target.icmpOffset + target.length ≤ bytes.length
        ∧ (target.ipVersion = .ipv6 → target.ipOffset + 40 ≤ target.icmpOffset)
  | sctp target =>
      target.checksumOffset = target.sctpOffset + 8 ∧ 12 ≤ target.length
        ∧ target.sctpOffset + target.length ≤ bytes.length
  | transport target =>
      (target.protocol = 17 ∧ target.checksumOffset = target.l4Offset + 6
          ∨ target.protocol = 6 ∧ target.checksumOffset = target.l4Offset + 16)
        ∧ target.checksumOffset + 2 ≤ target.l4Offset + target.length
        ∧ target.l4Offset + target.length ≤ bytes.length
        ∧ (target.ipVersion = .ipv4 →
          target.ipOffset + 20 ≤ target.l4Offset ∧ target.length ≤ 0xFFFF)
        ∧ (target.ipVersion = .ipv6 → target.ipOffset + 40 ≤ target.l4Offset)
  | gre target =>
      target.checksumOffset = target.greOffset + 4 ∧ 8 ≤ target.length
        ∧ target.greOffset + target.length ≤ bytes.length

end RawChecksum

/-! ## What is settled verifies -/

section Settled

variable {bytes : Bytes}

theorem slice_of_writeChecksum {offset : Nat} {chunk : Bytes} (hpos : 0 < chunk.length)
    (hfits : offset + chunk.length ≤ bytes.length) (h : writeChecksum bytes offset chunk = bytes) :
    slice bytes offset chunk.length = chunk := by
  rw [writeChecksum, if_pos ⟨hpos, hfits⟩] at h
  have hself := slice_overwrite_self hfits
  rwa [h] at hself

theorem be16At_of_writeChecksum {offset n : Nat} (hn : n < 65536) (hfits : offset + 2 ≤ bytes.length)
    (h : writeChecksum bytes offset (be16 n) = bytes) : be16At bytes offset = n := by
  have hslice : slice bytes offset (be16 n).length = be16 n :=
    slice_of_writeChecksum Nat.two_pos hfits h
  have hwords := words_slice_two bytes offset
  rw [length_be16] at hslice
  rw [← hwords, hslice]
  have hself := words_be16 hn []
  rw [List.append_nil] at hself
  exact hself

/-- A segment whose field completes the sum of the rest, in front of which `n` was added. -/
theorem verifies_of_field (front : Bytes) (start length field : Nat)
    (hfront : front.length % 2 = 0) (hlow : start ≤ field) (heven : (field - start) % 2 = 0) (hhigh : field + 2 ≤ start + length)
    (hpadding : length % 2 = 1 → octetAt bytes (start + length) = 0)
    (hvalue : be16At bytes field
        = 65535 - fold (words front + wordSumSkipping bytes start ((length + 1) / 2) field)
      ∨ be16At bytes field = 65535
        ∧ fold (words front + wordSumSkipping bytes start ((length + 1) / 2) field) = 65535) :
    internetChecksum (front ++ slice bytes start length) = 0 := by
  have hsum := wordSumSkipping_add bytes hlow heven
    (show field < start + 2 * ((length + 1) / 2) by omega)
  rw [internetChecksum_eq_zero, words_append hfront, words_slice hpadding, ← hsum, ← Nat.add_assoc]
  rcases hvalue with hvalue | ⟨hvalue, hfull⟩
  · rw [hvalue]
    exact fold_complement _
  · obtain ⟨hne, hmod⟩ := fold_eq_full.mp hfull
    omega

/-! ### The values -/

theorem fold_zero : fold 0 = 0 := rfl

theorem rawIpv4HeaderChecksum_eq (offset headerLength : Nat) :
    rawIpv4HeaderChecksum bytes offset headerLength
      = 65535 - fold (wordSumSkipping bytes offset ((headerLength + 1) / 2) (offset + 10)) := by
  rw [rawIpv4HeaderChecksum, ← complement_fold]
  congr 1
  generalize (headerLength + 1) / 2 = count
  induction count with
  | zero => rfl
  | succ count ih =>
      rw [List.range_succ, List.foldl_append, ih, wordSumSkipping_succ]
      by_cases hskip : count = 5
      · simp [hskip]
      · have hcursor : 2 * count ≠ 10 := by omega
        have hplace : ¬10 = 2 * count := by omega
        simp [hcursor, hplace, fold_fold_add]

theorem rawGreChecksum_eq (target : RawPacketGreChecksumTarget) :
    rawGreChecksum bytes target
      = 65535 - fold (wordSumSkipping bytes target.greOffset ((target.length + 1) / 2)
        target.checksumOffset) := by
  have hsum := rawChecksumAddBytes_skip bytes target.greOffset target.length 0 target.checksumOffset
  rw [fold_zero, Nat.zero_add] at hsum
  rw [rawGreChecksum, hsum, complement_fold]

theorem words_pseudoHeader_ipv6 {ipOffset : Nat} (hfits : ipOffset + 40 ≤ bytes.length)
    {protocol : Nat} (hprotocol : protocol < 256) (length : Nat) :
    (rawPseudoHeader bytes .ipv6 ipOffset protocol length).length % 2 = 0
      ∧ words (rawPseudoHeader bytes .ipv6 ipOffset protocol length)
        = wordSum bytes (ipOffset + 8) 16 + length / 0x10000 % 0x10000 + length % 0x10000 + protocol := by
  have hlength : (slice bytes (ipOffset + 8) 32).length = 32 := length_slice (by omega)
  constructor
  · simp [rawPseudoHeader, hlength]
  · have hslice : words (slice bytes (ipOffset + 8) 32) = wordSum bytes (ipOffset + 8) 16 :=
      words_slice_even bytes (ipOffset + 8) 16
    rw [rawPseudoHeader, words_append (by rw [hlength]), hslice]
    have hword : ∀ n : Nat, n / 256 % 256 * 256 + n % 256 = n % 65536 := fun n => by omega
    have hquarter : length / 16777216 = length / 65536 / 256 := by rw [Nat.div_div_eq_div_mul]
    have hhigh : length / 16777216 % 256 * 256 + length / 65536 % 256 = length / 65536 % 65536 := by
      rw [hquarter, hword]
    have hlow := hword length
    have h0 : (0 : UInt8).toNat = 0 := rfl
    simp only [be32, List.cons_append, List.nil_append, words, toNat_ofNat, hhigh, hlow, h0,
      Nat.mod_eq_of_lt hprotocol]
    omega

theorem words_pseudoHeader_ipv4 {ipOffset : Nat} (hfits : ipOffset + 20 ≤ bytes.length)
    {protocol length : Nat} (hprotocol : protocol < 256) (hsegment : length ≤ 0xFFFF) :
    (rawPseudoHeader bytes .ipv4 ipOffset protocol length).length % 2 = 0
      ∧ words (rawPseudoHeader bytes .ipv4 ipOffset protocol length)
        = wordSum bytes (ipOffset + 12) 4 + protocol + length := by
  have hlength : (slice bytes (ipOffset + 12) 8).length = 8 := length_slice (by omega)
  constructor
  · simp [rawPseudoHeader, hlength]
  · have hslice : words (slice bytes (ipOffset + 12) 8) = wordSum bytes (ipOffset + 12) 4 :=
      words_slice_even bytes (ipOffset + 12) 4
    rw [rawPseudoHeader, words_append (by rw [hlength]), hslice]
    simp only [be16, List.cons_append, List.nil_append, words, toNat_ofNat]
    have h0 : (0 : UInt8).toNat = 0 := rfl
    omega

theorem rawIpv6PseudoHeaderSum_eq (ipOffset length protocol : Nat) :
    foldCarries (rawIpv6PseudoHeaderSum bytes ipOffset length protocol)
      = fold (wordSum bytes (ipOffset + 8) 16 + length / 0x10000 % 0x10000 + length % 0x10000
        + protocol) := by
  have hsum : rawChecksumAddBytes bytes (ipOffset + 8) 32 0 none
      = fold (0 + wordSum bytes (ipOffset + 8) 16) := rawChecksumAddBytes_eq bytes (ipOffset + 8) 32 0
  rw [foldCarries_eq, rawIpv6PseudoHeaderSum, hsum, Nat.zero_add, Nat.add_assoc, Nat.add_assoc,
    fold_fold_add, ← Nat.add_assoc, ← Nat.add_assoc]

theorem rawIcmpChecksum_eq (target : RawPacketIcmpChecksumTarget)
    (hfits : target.ipVersion = .ipv6 → target.ipOffset + 40 ≤ bytes.length) :
    ∃ front : Bytes,
      front = (match target.ipVersion with
        | .ipv4 => []
        | .ipv6 => rawPseudoHeader bytes .ipv6 target.ipOffset 58 target.length)
      ∧ front.length % 2 = 0
      ∧ rawIcmpChecksum bytes target
        = 65535 - fold (words front + wordSumSkipping bytes target.icmpOffset
          ((target.length + 1) / 2) target.checksumOffset) := by
  cases hversion : target.ipVersion with
  | ipv4 =>
      refine ⟨[], rfl, rfl, ?_⟩
      have hsum := rawChecksumAddBytes_skip bytes target.icmpOffset target.length 0 target.checksumOffset
      rw [fold_zero, Nat.zero_add] at hsum
      simp only [rawIcmpChecksum, hversion]
      rw [hsum, complement_fold, words, Nat.zero_add]
  | ipv6 =>
      have hsmall : 58 < 256 := by decide
      obtain ⟨heven, hwords⟩ := words_pseudoHeader_ipv6 (hfits hversion) hsmall target.length
      refine ⟨_, rfl, heven, ?_⟩
      simp only [rawIcmpChecksum, hversion]
      rw [rawIpv6PseudoHeaderSum_eq, rawChecksumAddBytes_skip, complement_fold, hwords]

theorem rawTransportChecksum_eq (target : RawPacketTransportChecksumTarget)
    (hshape : (RawChecksum.transport target).Shape bytes) :
    (rawPseudoHeader bytes target.ipVersion target.ipOffset target.protocol target.length).length % 2 = 0
      ∧ ∃ checksum, checksum = 65535 - fold
          (words (rawPseudoHeader bytes target.ipVersion target.ipOffset target.protocol target.length)
            + wordSumSkipping bytes target.l4Offset ((target.length + 1) / 2) target.checksumOffset)
        ∧ rawTransportChecksum bytes target
          = if target.protocol = 17 ∧ checksum = 0 then 0xFFFF else checksum := by
  obtain ⟨hprotocol, hinside, hend, hfour, hsix⟩ := hshape
  have hsmall : target.protocol < 256 := by omega
  cases hversion : target.ipVersion with
  | ipv4 =>
      obtain ⟨hbehind, hsegment⟩ := hfour hversion
      have hfits : target.ipOffset + 20 ≤ bytes.length := by omega
      obtain ⟨heven, hwords⟩ := words_pseudoHeader_ipv4 hfits hsmall hsegment
      have hsum : rawChecksumAddBytes bytes (target.ipOffset + 12) 8 0 none
          = fold (0 + wordSum bytes (target.ipOffset + 12) 4) :=
        rawChecksumAddBytes_eq bytes (target.ipOffset + 12) 8 0
      have hfold : foldCarries (fold (0 + wordSum bytes (target.ipOffset + 12) 4) + target.protocol
          + target.length) = fold (words (rawPseudoHeader bytes .ipv4 target.ipOffset
            target.protocol target.length)) := by
        rw [foldCarries_eq, Nat.add_assoc, fold_fold_add, hwords, Nat.zero_add, Nat.add_assoc]
      refine ⟨heven, _, rfl, ?_⟩
      simp only [rawTransportChecksum, hversion]
      rw [hsum, hfold, rawChecksumAddBytes_skip, complement_fold]
  | ipv6 =>
      have hbehind := hsix hversion
      have hfits : target.ipOffset + 40 ≤ bytes.length := by omega
      obtain ⟨heven, hwords⟩ := words_pseudoHeader_ipv6 hfits hsmall target.length
      refine ⟨heven, _, rfl, ?_⟩
      simp only [rawTransportChecksum, hversion]
      rw [rawIpv6PseudoHeaderSum_eq, rawChecksumAddBytes_skip, complement_fold, hwords]

theorem slice_eq_map {i n : Nat} (h : i + n ≤ bytes.length) :
    slice bytes i n = (List.range n).map fun k => bytes.getD (i + k) 0 := by
  apply List.ext_getElem
  · rw [length_slice h, List.length_map, List.length_range]
  · intro k hk hk'
    rw [length_slice h] at hk
    simp only [slice, List.getElem_take, List.getElem_drop, List.getElem_map, List.getElem_range]
    rw [List.getD_eq_getElem _ _ (by omega)]

theorem rawSctpCrc32c_eq (target : RawPacketSctpChecksumTarget)
    (hshape : (RawChecksum.sctp target).Shape bytes) :
    rawSctpCrc32c bytes target
      = sctpCrc32c (slice bytes target.sctpOffset 8 ++ [0, 0, 0, 0]
        ++ slice bytes (target.sctpOffset + 12) (target.length - 12)) := by
  obtain ⟨hfield, hmin, hfits⟩ := hshape
  have hlength : target.length = 8 + (4 + (target.length - 12)) := by omega
  have hoctets : (List.range target.length).map (fun cursor =>
      if target.checksumOffset ≤ target.sctpOffset + cursor
          ∧ target.sctpOffset + cursor < target.checksumOffset + 4 then 0
      else bytes.getD (target.sctpOffset + cursor) 0)
      = slice bytes target.sctpOffset 8 ++ [0, 0, 0, 0]
        ++ slice bytes (target.sctpOffset + 12) (target.length - 12) := by
    rw [slice_eq_map (by omega), slice_eq_map (by omega)]
    generalize target.length - 12 = rest at hlength
    rw [hlength, List.range_add, List.range_add]
    simp only [List.map_append, List.map_map]
    rw [← List.append_assoc]
    congr 1
    · congr 1
      · refine List.map_congr_left ?_
        intro k hk
        have hlt := List.mem_range.mp hk
        rw [if_neg (by omega)]
      · refine (List.map_congr_left (g := fun _ => (0 : UInt8)) ?_).trans rfl
        intro k hk
        have hlt := List.mem_range.mp hk
        simp only [Function.comp_apply]
        rw [if_pos (by omega)]
    · refine List.map_congr_left ?_
      intro k _
      simp only [Function.comp_apply]
      rw [if_neg (by omega)]
      congr 1
      omega
  rw [rawSctpCrc32c, sctpCrc32c, ← hoctets, List.foldl_map]

theorem verifies_of_settled {checksum : RawChecksum} (hshape : checksum.Shape bytes)
    (hpadding : ∀ k ∈ checksum.padding, octetAt bytes k = 0)
    (hsettled : checksum.repair bytes = bytes) : checksum.Verifies bytes := by
  have hodd : ∀ {start length}, (∀ k ∈ (if length % 2 = 1 then [start + length] else []),
      octetAt bytes k = 0) → length % 2 = 1 → octetAt bytes (start + length) = 0 := by
    intro start length h hone
    rw [if_pos hone] at h
    exact h _ List.mem_cons_self
  cases checksum with
  | ipv4 offset headerLength =>
      obtain ⟨hmin, heven, hfits⟩ := headerLength_spec hshape
      change repairIpv4 bytes offset = bytes at hsettled
      rw [repairIpv4, show rawIpv4HeaderLengthAt bytes offset = some headerLength from hshape] at hsettled
      have hvalue := be16At_of_writeChecksum (by rw [rawIpv4HeaderChecksum_eq]; omega) (by omega) hsettled
      rw [rawIpv4HeaderChecksum_eq] at hvalue
      refine verifies_of_field [] offset headerLength (offset + 10) rfl (by omega) (by omega) (by omega)
        (by omega) (Or.inl ?_)
      rw [hvalue, words, Nat.zero_add]
  | icmp target =>
      obtain ⟨hfield, hmin, hfits, hsix⟩ := hshape
      have haddresses : target.ipVersion = .ipv6 → target.ipOffset + 40 ≤ bytes.length := by
        intro hversion
        have hbehind := hsix hversion
        omega
      obtain ⟨front, hfront, heven, hchecksum⟩ := rawIcmpChecksum_eq target haddresses
      have hvalue := be16At_of_writeChecksum (by rw [hchecksum]; omega) (by omega) hsettled
      rw [hchecksum] at hvalue
      show internetChecksum (_ ++ _) = 0
      rw [← hfront]
      exact verifies_of_field front target.icmpOffset target.length target.checksumOffset heven
        (by omega) (by omega) (by omega) (hodd hpadding) (Or.inl hvalue)
  | sctp target =>
      have hcrc := rawSctpCrc32c_eq target hshape
      obtain ⟨hfield, hmin, hfits⟩ := hshape
      have hslice := slice_of_writeChecksum (by rw [length_le32]; omega)
        (by rw [length_le32]; omega) hsettled
      rw [length_le32, hfield, hcrc] at hslice
      exact hslice
  | transport target =>
      obtain ⟨heven, checksum, hchecksum, hsent⟩ := rawTransportChecksum_eq target hshape
      obtain ⟨hfield, hinside, hfits, -⟩ := hshape
      have hvalue := be16At_of_writeChecksum (by rw [hsent]; split <;> omega) (by omega) hsettled
      refine verifies_of_field _ target.l4Offset target.length target.checksumOffset heven
        (by omega) (by omega) (by omega) (hodd hpadding) ?_
      rw [hsent] at hvalue
      split at hvalue
      · rename_i hzero
        refine Or.inr ⟨hvalue, ?_⟩
        have hle := fold_le (words (rawPseudoHeader bytes target.ipVersion target.ipOffset
          target.protocol target.length)
          + wordSumSkipping bytes target.l4Offset ((target.length + 1) / 2) target.checksumOffset)
        omega
      · exact Or.inl (hvalue.trans hchecksum)
  | gre target =>
      obtain ⟨hfield, hmin, hfits⟩ := hshape
      have hvalue := be16At_of_writeChecksum (by rw [rawGreChecksum_eq]; omega) (by omega) hsettled
      rw [rawGreChecksum_eq] at hvalue
      refine verifies_of_field [] target.greOffset target.length target.checksumOffset rfl
        (by omega) (by omega) (by omega) (hodd hpadding) (Or.inl ?_)
      rw [hvalue, words, Nat.zero_add]

theorem slice_eq_slice {other : Bytes} (hlength : other.length = bytes.length) {i n : Nat}
    (h : ∀ k, i ≤ k → k < i + n → octetAt other k = octetAt bytes k) :
    slice other i n = slice bytes i n := by
  apply List.ext_getElem
  · simp only [slice, List.length_take, List.length_drop, hlength]
  · intro k hk hk'
    simp only [slice, List.length_take, List.length_drop] at hk hk'
    have hoctet := h (i + k) (by omega) (by omega)
    rw [octetAt, octetAt, List.getD_eq_getElem _ _ (by omega),
      List.getD_eq_getElem _ _ (by omega)] at hoctet
    simp only [slice, List.getElem_take, List.getElem_drop]
    exact UInt8.toNat_inj.mp hoctet

theorem pseudoHeader_congr {other : Bytes} (hlength : other.length = bytes.length)
    {version : IpVersion} {ipOffset : Nat}
    (h : ∀ k ∈ RawChecksum.pseudoPlaces version ipOffset, octetAt other k = octetAt bytes k)
    (protocol length : Nat) :
    rawPseudoHeader other version ipOffset protocol length
      = rawPseudoHeader bytes version ipOffset protocol length := by
  cases version with
  | ipv4 =>
      have haddresses : slice other (ipOffset + 12) 8 = slice bytes (ipOffset + 12) 8 :=
        slice_eq_slice hlength fun k hlow hhigh => h k ⟨hlow, by omega⟩
      simp only [rawPseudoHeader, haddresses]
  | ipv6 =>
      have haddresses : slice other (ipOffset + 8) 32 = slice bytes (ipOffset + 8) 32 :=
        slice_eq_slice hlength fun k hlow hhigh => h k ⟨hlow, by omega⟩
      simp only [rawPseudoHeader, haddresses]

theorem verifies_congr {other : Bytes} (hlength : other.length = bytes.length)
    {checksum : RawChecksum} (hshape : checksum.Shape bytes)
    (h : ∀ k ∈ checksum.covered, octetAt other k = octetAt bytes k)
    (hverifies : checksum.Verifies bytes) : checksum.Verifies other := by
  have hsegment : ∀ start length, (∀ k ∈ RawChecksum.wordPlaces start length,
      octetAt other k = octetAt bytes k) → slice other start length = slice bytes start length :=
    fun start length hplaces =>
      slice_eq_slice hlength fun k hlow hhigh => hplaces k ⟨hlow, by omega⟩
  cases checksum with
  | ipv4 offset headerLength =>
      show internetChecksum (slice other offset headerLength) = 0
      rw [hsegment offset headerLength h]
      exact hverifies
  | icmp target =>
      have hslice := hsegment target.icmpOffset target.length fun k hk => h k (Or.inr hk)
      show internetChecksum (_ ++ slice other target.icmpOffset target.length) = 0
      rw [hslice]
      cases hversion : target.ipVersion with
      | ipv4 =>
          change internetChecksum (_ ++ _) = 0 at hverifies
          simpa only [hversion] using hverifies
      | ipv6 =>
          change internetChecksum (_ ++ _) = 0 at hverifies
          simp only [hversion] at hverifies
          rw [pseudoHeader_congr hlength fun k hk => h k (Or.inl ⟨hversion, hk⟩)]
          exact hverifies
  | sctp target =>
      obtain ⟨hfield, hmin, hfits⟩ := hshape
      have hslice : ∀ i n, target.sctpOffset ≤ i → i + n ≤ target.sctpOffset + target.length →
          slice other i n = slice bytes i n := fun i n hi hn =>
        slice_eq_slice hlength fun k hlow hhigh => h k ⟨by omega, by omega⟩
      show slice other (target.sctpOffset + 8) 4 = _
      rw [hslice (target.sctpOffset + 8) 4 (by omega) (by omega),
        hslice target.sctpOffset 8 (by omega) (by omega),
        hslice (target.sctpOffset + 12) (target.length - 12) (by omega) (by omega)]
      exact hverifies
  | transport target =>
      have hslice := hsegment target.l4Offset target.length fun k hk => h k (Or.inr hk)
      show internetChecksum (_ ++ slice other target.l4Offset target.length) = 0
      rw [hslice, pseudoHeader_congr hlength fun k hk => h k (Or.inl hk)]
      exact hverifies
  | gre target =>
      show internetChecksum (slice other target.greOffset target.length) = 0
      rw [hsegment target.greOffset target.length h]
      exact hverifies

/-! ## The shape of what a walk reaches -/

theorem headerChecksum_shape {ip : RawIpHeader} {header : RawL4Header}
    (hheader : header ∈ processIp bytes walkProtocols ip) {checksum : RawChecksum}
    (h : checksum ∈ headerChecksums bytes header) : checksum.Shape bytes := by
  have hspec := mem_processIp hheader
  have hlimit := hspec.limit_le
  have hbehind := hspec.behind
  have hip := hspec.ipOffset
  have haddresses : header.ipVersion = .ipv6 → header.ipOffset + 40 ≤ header.l4Offset := by
    intro hversion
    rw [hip]
    exact hspec.addresses (hspec.version.symm.trans hversion)
  have hsegment : header.ipVersion = .ipv4 → header.limit - header.l4Offset ≤ 0xFFFF := by
    intro hversion
    exact hspec.segment (hspec.version.symm.trans hversion)
  rcases mem_headerChecksums.mp h with ⟨t, ht, rfl⟩ | ⟨t, ht, rfl⟩ | ⟨t, ht, rfl⟩ | ⟨t, ht, rfl⟩
  · obtain ⟨-, hmin, rfl⟩ := mem_addIcmpTarget ht
    exact ⟨rfl, by simp only; omega, by simp only; omega, haddresses⟩
  · obtain ⟨-, hmin, rfl⟩ := mem_addSctpTarget ht
    exact ⟨rfl, by simp only; omega, by simp only; omega⟩
  · rcases mem_addTransportTarget ht with ⟨hp, ⟨udp, hsome, rfl⟩, -⟩ | ⟨hp, htcp, rfl⟩
    · obtain ⟨hpayload, hend, hinside, hfits⟩ := udpTarget_payloadOffset hsome
      refine ⟨Or.inl ⟨hp, rfl⟩, by simp only; omega, by simp only; omega, ?_, haddresses⟩
      intro hversion
      have hle := hsegment hversion
      simp only
      omega
    · have hmin := tcpHeaderOffset_le htcp
      refine ⟨Or.inr ⟨hp, rfl⟩, by simp only; omega, by simp only; omega, ?_, haddresses⟩
      intro hversion
      have hle := hsegment hversion
      simp only
      omega
  · obtain ⟨-, hmin, -, rfl⟩ := mem_addGreTarget ht
    exact ⟨rfl, by simp only; omega, by simp only; omega⟩

theorem checksum_shape {fuel : Nat} {ip : RawIpHeader} {checksum : RawChecksum}
    (h : checksum ∈ checksumsFrom bytes fuel ip) : checksum.Shape bytes := by
  induction fuel generalizing ip with
  | zero => cases h
  | succ fuel ih =>
      rcases mem_checksumsFrom.mp h with hip | ⟨header, hheader, hown | ⟨inner, hinner, hdeep⟩⟩
      · obtain ⟨-, headerLength, hlength, rfl⟩ := mem_ipChecksums hip
        exact hlength
      · exact headerChecksum_shape hheader hown
      · exact ih hdeep

end Settled

end TrexWebui
