import TrexWebui.FieldRepairs
import TrexWebui.RawPacketVerify

/-!
# The repair of a raw packet

Each pass repairs the fields of one kind. A field is final when all fields that
it covers are: an ICMP, SCTP or IPv4 checksum after its own pass; a TCP or UDP
checksum that covers no such field after the first pass; a GRE checksum after
its pass, if it covers such TCP and UDP checksums only; the rest after the last
pass.
-/

namespace TrexWebui

open PyStr Octets InternetChecksum FieldRepairs

/-! ## One field -/

namespace RawChecksum

def chunk : RawChecksum → Bytes → Bytes
  | ipv4 offset headerLength, bytes => be16 (rawIpv4HeaderChecksum bytes offset headerLength)
  | icmp target, bytes => be16 (rawIcmpChecksum bytes target)
  | sctp target, bytes => le32 (rawSctpCrc32c bytes target).toNat
  | transport target, bytes => be16 (rawTransportChecksum bytes target)
  | gre target, bytes => be16 (rawGreChecksum bytes target)

theorem length_chunk (checksum : RawChecksum) (bytes : Bytes) :
    (checksum.chunk bytes).length = checksum.checksumLength := by
  cases checksum <;> rfl

theorem field_fits {checksum : RawChecksum} {bytes : Bytes} (h : checksum.Shape bytes) :
    checksum.checksumOffset + checksum.checksumLength ≤ bytes.length := by
  cases checksum with
  | ipv4 offset headerLength =>
      obtain ⟨hmin, -, hfits⟩ := headerLength_spec h
      show offset + 10 + 2 ≤ bytes.length
      omega
  | icmp target =>
      obtain ⟨hfield, hmin, hfits, -⟩ := h
      show target.checksumOffset + 2 ≤ bytes.length
      omega
  | sctp target =>
      obtain ⟨hfield, hmin, hfits⟩ := h
      show target.checksumOffset + 4 ≤ bytes.length
      omega
  | transport target =>
      obtain ⟨-, hinside, hfits, -⟩ := h
      show target.checksumOffset + 2 ≤ bytes.length
      omega
  | gre target =>
      obtain ⟨hfield, hmin, hfits⟩ := h
      show target.checksumOffset + 2 ≤ bytes.length
      omega

theorem repair_eq {checksum : RawChecksum} {bytes : Bytes} (h : checksum.Shape bytes) :
    checksum.repair bytes = overwrite bytes checksum.checksumOffset (checksum.chunk bytes) := by
  have hfits := field_fits h
  have hwrite : ∀ {offset : Nat} {chunk : Bytes}, 0 < chunk.length →
      offset + chunk.length ≤ bytes.length →
      writeChecksum bytes offset chunk = overwrite bytes offset chunk :=
    fun hpos hle => if_pos ⟨hpos, hle⟩
  cases checksum with
  | ipv4 offset headerLength =>
      show repairIpv4 bytes offset = _
      rw [repairIpv4, show rawIpv4HeaderLengthAt bytes offset = some headerLength from h]
      exact hwrite Nat.two_pos hfits
  | icmp target => exact hwrite Nat.two_pos hfits
  | sctp target => exact hwrite (Nat.succ_pos 3) hfits
  | transport target => exact hwrite Nat.two_pos hfits
  | gre target => exact hwrite Nat.two_pos hfits

/-! ### What the value depends on -/

section Congr

variable {bytes other : Bytes}

theorem be16At_congr {k : Nat} (h : octetAt other k = octetAt bytes k)
    (h' : octetAt other (k + 1) = octetAt bytes (k + 1)) : be16At other k = be16At bytes k := by
  rw [be16At, be16At, h, h']

theorem wordSum_congr (start count : Nat)
    (h : ∀ k, start ≤ k → k < start + 2 * count → octetAt other k = octetAt bytes k) :
    wordSum other start count = wordSum bytes start count := by
  induction count with
  | zero => simp [wordSum]
  | succ count ih =>
      have hword : be16At other (start + 2 * count) = be16At bytes (start + 2 * count) :=
        be16At_congr (h _ (by omega) (by omega)) (h _ (by omega) (by omega))
      rw [wordSum_succ, wordSum_succ, ih fun k hlow hhigh => h k hlow (by omega), hword]

theorem wordSumSkipping_congr (start count skip : Nat) (heven : (skip - start) % 2 = 0)
    (hlow : start ≤ skip)
    (h : ∀ k, start ≤ k → k < start + 2 * count → ¬(skip ≤ k ∧ k < skip + 2) →
      octetAt other k = octetAt bytes k) :
    wordSumSkipping other start count skip = wordSumSkipping bytes start count skip := by
  induction count with
  | zero => simp [wordSumSkipping]
  | succ count ih =>
      rw [wordSumSkipping_succ, wordSumSkipping_succ,
        ih fun k hlow hhigh => h k hlow (by omega)]
      split
      · rfl
      · have hword : be16At other (start + 2 * count) = be16At bytes (start + 2 * count) :=
          be16At_congr (h _ (by omega) (by omega) (by omega)) (h _ (by omega) (by omega) (by omega))
        rw [hword]

theorem rawSctpCrc32c_congr {target : RawPacketSctpChecksumTarget}
    (h : ∀ k, target.sctpOffset ≤ k → k < target.sctpOffset + target.length →
      ¬(target.checksumOffset ≤ k ∧ k < target.checksumOffset + 4) →
      octetAt other k = octetAt bytes k) :
    rawSctpCrc32c other target = rawSctpCrc32c bytes target := by
  have hoctets : (List.range target.length).map (fun cursor =>
      if target.checksumOffset ≤ target.sctpOffset + cursor
          ∧ target.sctpOffset + cursor < target.checksumOffset + 4 then (0 : UInt8)
      else other.getD (target.sctpOffset + cursor) 0)
      = (List.range target.length).map (fun cursor =>
        if target.checksumOffset ≤ target.sctpOffset + cursor
            ∧ target.sctpOffset + cursor < target.checksumOffset + 4 then 0
        else bytes.getD (target.sctpOffset + cursor) 0) := by
    refine List.map_congr_left ?_
    intro cursor hcursor
    have hlt := List.mem_range.mp hcursor
    split
    · rfl
    · rename_i hfield
      exact UInt8.toNat_inj.mp (h _ (by omega) (by omega) hfield)
  have hfold : ∀ packet : Bytes, rawSctpCrc32c packet target
      = ~~~((List.range target.length).map (fun cursor =>
        if target.checksumOffset ≤ target.sctpOffset + cursor
            ∧ target.sctpOffset + cursor < target.checksumOffset + 4 then (0 : UInt8)
        else packet.getD (target.sctpOffset + cursor) 0)).foldl crcOctet 0xFFFFFFFF := by
    intro packet
    rw [rawSctpCrc32c, List.foldl_map]
  rw [hfold, hfold, hoctets]

theorem pseudoHeaderSum_congr {ipOffset : Nat}
    (h : ∀ k, ipOffset + 8 ≤ k → k < ipOffset + 40 → octetAt other k = octetAt bytes k)
    (length protocol : Nat) :
    foldCarries (rawIpv6PseudoHeaderSum other ipOffset length protocol)
      = foldCarries (rawIpv6PseudoHeaderSum bytes ipOffset length protocol) := by
  rw [rawIpv6PseudoHeaderSum_eq, rawIpv6PseudoHeaderSum_eq,
    wordSum_congr (ipOffset + 8) 16 fun k hlow hhigh => h k hlow (by omega)]

theorem chunk_congr {checksum : RawChecksum} (hshape : checksum.Shape bytes)
    (h : ∀ k ∈ checksum.reads, octetAt other k = octetAt bytes k) :
    checksum.chunk other = checksum.chunk bytes := by
  cases checksum with
  | ipv4 offset headerLength =>
      obtain ⟨hmin, heven, hfits⟩ := headerLength_spec hshape
      show be16 (rawIpv4HeaderChecksum other offset headerLength)
        = be16 (rawIpv4HeaderChecksum bytes offset headerLength)
      rw [rawIpv4HeaderChecksum_eq, rawIpv4HeaderChecksum_eq,
        wordSumSkipping_congr offset ((headerLength + 1) / 2) (offset + 10) (by omega) (by omega)
          fun k hlow hhigh hfield => h k ⟨⟨hlow, hhigh⟩, hfield⟩]
  | icmp target =>
      obtain ⟨hfield, hmin, hfits, hsix⟩ := hshape
      have hsegment : ∀ n, rawChecksumAddBytes other target.icmpOffset target.length (fold n)
          (some target.checksumOffset)
          = rawChecksumAddBytes bytes target.icmpOffset target.length (fold n)
            (some target.checksumOffset) := by
        intro n
        rw [rawChecksumAddBytes_skip, rawChecksumAddBytes_skip,
          wordSumSkipping_congr target.icmpOffset ((target.length + 1) / 2) target.checksumOffset
            (by omega) (by omega) fun k hlow hhigh hskip => h k ⟨Or.inr ⟨hlow, hhigh⟩, hskip⟩]
      show be16 (rawIcmpChecksum other target) = be16 (rawIcmpChecksum bytes target)
      rw [rawIcmpChecksum, rawIcmpChecksum]
      cases hversion : target.ipVersion with
      | ipv4 =>
          have hzero := hsegment 0
          rw [fold_zero] at hzero
          simp only [hzero]
      | ipv6 =>
          have hbehind := hsix hversion
          have hpseudo : ∀ k, target.ipOffset + 8 ≤ k → k < target.ipOffset + 40 →
              octetAt other k = octetAt bytes k := by
            intro k hlow hhigh
            refine h k ⟨Or.inl ⟨hversion, hlow, hhigh⟩, ?_⟩
            rintro ⟨hle, -⟩
            change target.checksumOffset ≤ k at hle
            omega
          simp only [pseudoHeaderSum_congr hpseudo]
          rw [rawIpv6PseudoHeaderSum_eq, hsegment]
  | sctp target =>
      show le32 (rawSctpCrc32c other target).toNat = le32 (rawSctpCrc32c bytes target).toNat
      rw [rawSctpCrc32c_congr fun k hlow hhigh hfield => h k ⟨⟨hlow, hhigh⟩, hfield⟩]
  | transport target =>
      obtain ⟨hfield, hinside, hfits, hfour, hsix⟩ := hshape
      have hsegment : ∀ n, rawChecksumAddBytes other target.l4Offset target.length (fold n)
          (some target.checksumOffset)
          = rawChecksumAddBytes bytes target.l4Offset target.length (fold n)
            (some target.checksumOffset) := by
        intro n
        rw [rawChecksumAddBytes_skip, rawChecksumAddBytes_skip,
          wordSumSkipping_congr target.l4Offset ((target.length + 1) / 2) target.checksumOffset
            (by omega) (by omega) fun k hlow hhigh hskip => h k ⟨Or.inr ⟨hlow, hhigh⟩, hskip⟩]
      have hpseudo : ∀ k ∈ pseudoPlaces target.ipVersion target.ipOffset, k < target.l4Offset →
          octetAt other k = octetAt bytes k := by
        intro k hk hlt
        refine h k ⟨Or.inl hk, ?_⟩
        rintro ⟨hle, -⟩
        change target.checksumOffset ≤ k at hle
        omega
      show be16 (rawTransportChecksum other target) = be16 (rawTransportChecksum bytes target)
      rw [rawTransportChecksum, rawTransportChecksum]
      cases hversion : target.ipVersion with
      | ipv4 =>
          have hbehind := (hfour hversion).1
          rw [hversion] at hpseudo
          have haddresses : rawChecksumAddBytes other (target.ipOffset + 12) 8 0 none
              = rawChecksumAddBytes bytes (target.ipOffset + 12) 8 0 none := by
            have hother := rawChecksumAddBytes_eq other (target.ipOffset + 12) 8 0
            have hbytes := rawChecksumAddBytes_eq bytes (target.ipOffset + 12) 8 0
            rw [fold_zero] at hother hbytes
            rw [hother, hbytes, wordSum_congr (target.ipOffset + 12) ((8 + 1) / 2)
              fun k hlow hhigh => hpseudo k ⟨hlow, by omega⟩ (by omega)]
          simp only [haddresses, foldCarries_eq, hsegment]
      | ipv6 =>
          have hbehind := hsix hversion
          rw [hversion] at hpseudo
          have haddresses : ∀ k, target.ipOffset + 8 ≤ k → k < target.ipOffset + 40 →
              octetAt other k = octetAt bytes k := fun k hlow hhigh =>
            hpseudo k ⟨hlow, hhigh⟩ (by omega)
          simp only [pseudoHeaderSum_congr haddresses]
          rw [rawIpv6PseudoHeaderSum_eq, hsegment]
  | gre target =>
      obtain ⟨hfield, hmin, hfits⟩ := hshape
      show be16 (rawGreChecksum other target) = be16 (rawGreChecksum bytes target)
      rw [rawGreChecksum_eq, rawGreChecksum_eq,
        wordSumSkipping_congr target.greOffset ((target.length + 1) / 2) target.checksumOffset
          (by omega) (by omega) fun k hlow hhigh hskip => h k ⟨⟨hlow, hhigh⟩, hskip⟩]

end Congr

end RawChecksum

/-! ## The repairs of a packet -/

def rawRepairs : Repairs RawChecksum UInt8 where
  step := RawChecksum.repair
  reads := RawChecksum.reads
  writes := RawChecksum.writes

/-- A packet that differs in the fields of `targets` only, where no UDP checksum became zero. -/
structure Rewritten (bytes : Bytes) (targets : Set RawChecksum) (other : Bytes) : Prop where
  length : other.length = bytes.length
  octets : ∀ k, (∀ c ∈ targets, k ∉ c.writes) → octetAt other k = octetAt bytes k
  nonzero : ∀ target, .transport target ∈ targets → target.protocol = 17 →
    target.ipVersion = .ipv4 → rawPacketWord other target.checksumOffset ≠ 0

/-- Fields that are apart and stay where they are when they are rewritten. -/
structure Footing (bytes : Bytes) (targets : Set RawChecksum) : Prop where
  nonzero : ∀ target, .transport target ∈ targets → target.protocol = 17 →
    target.ipVersion = .ipv4 → rawPacketWord bytes target.checksumOffset ≠ 0
  disjoint : ∀ c ∈ targets, ∀ d ∈ targets, c ≠ d → ∀ k ∈ c.writes, k ∉ d.writes
  leaf : ∀ c ∈ targets, c.IsLeaf → ∀ d ∈ targets, c ≠ d → ∀ k ∈ c.covered, k ∉ d.writes
  shape : ∀ other, Rewritten bytes targets other → ∀ c ∈ targets, c.Shape other

section Lawful

variable {bytes : Bytes} {targets : Set RawChecksum}

theorem octetAt_of_getElem {other : Bytes} {k : Nat} (h : other[k]? = bytes[k]?) :
    octetAt other k = octetAt bytes k := by
  rw [octetAt, octetAt, List.getD_eq_getElem?_getD, List.getD_eq_getElem?_getD, h]

theorem Footing.rewritten (h : Footing bytes targets) : Rewritten bytes targets bytes :=
  ⟨rfl, fun _ _ => rfl, h.nonzero⟩

theorem be16At_overwrite_self {offset n : Nat} (hn : n < 65536) (hfits : offset + 2 ≤ bytes.length) :
    be16At (overwrite bytes offset (be16 n)) offset = n := by
  have hself : slice (overwrite bytes offset (be16 n)) offset 2 = be16 n :=
    slice_overwrite_self hfits
  rw [← words_slice_two, hself]
  have hwords := words_be16 hn []
  rw [List.append_nil] at hwords
  exact hwords

theorem rawTransportChecksum_spec {target : RawPacketTransportChecksumTarget}
    (h : (RawChecksum.transport target).Shape bytes) :
    rawTransportChecksum bytes target < 65536
      ∧ (target.protocol = 17 → rawTransportChecksum bytes target ≠ 0) := by
  obtain ⟨-, checksum, hchecksum, hsent⟩ := rawTransportChecksum_eq target h
  rw [hsent]
  constructor
  · split <;> omega
  · intro hudp
    split
    · decide
    · rename_i hzero
      exact fun hchecksum => hzero ⟨hudp, hchecksum⟩

theorem Footing.lawful (h : Footing bytes targets) :
    rawRepairs.Lawful targets (Rewritten bytes targets) where
  inv_step := by
    intro c hc l hl
    have hshape := h.shape l hl c hc
    have hfits := RawChecksum.field_fits hshape
    have hchunk := RawChecksum.length_chunk c l
    have hwrite : c.checksumOffset + (c.chunk l).length ≤ l.length := by rw [hchunk]; exact hfits
    show Rewritten bytes targets (c.repair l)
    rw [RawChecksum.repair_eq hshape]
    have hoctet : ∀ k, k ∉ c.writes →
        octetAt (overwrite l c.checksumOffset (c.chunk l)) k = octetAt l k := by
      intro k hk
      refine octetAt_overwrite hwrite ?_
      rw [hchunk]
      by_contra hne
      exact hk ⟨by omega, by omega⟩
    refine ⟨?_, ?_, ?_⟩
    · rw [length_overwrite hwrite, hl.length]
    · intro k hk
      rw [hoctet k (hk c hc), hl.octets k hk]
    · intro target htarget hudp hversion
      by_cases heq : c = .transport target
      · subst heq
        obtain ⟨hlt, hne⟩ := rawTransportChecksum_spec hshape
        have hself : be16At (overwrite l target.checksumOffset
            (be16 (rawTransportChecksum l target))) target.checksumOffset
            = rawTransportChecksum l target := be16At_overwrite_self hlt hfits
        show be16At _ _ ≠ 0
        rw [show overwrite l (RawChecksum.transport target).checksumOffset
          ((RawChecksum.transport target).chunk l)
          = overwrite l target.checksumOffset (be16 (rawTransportChecksum l target)) from rfl, hself]
        exact hne hudp
      · have hapart := h.disjoint c hc _ htarget heq
        have hother : ∀ k, target.checksumOffset ≤ k → k < target.checksumOffset + 2 →
            octetAt (overwrite l c.checksumOffset (c.chunk l)) k = octetAt l k := by
          intro k hlow hhigh
          exact hoctet k fun hk => hapart k hk ⟨hlow, hhigh⟩
        rw [rawPacketWord, RawChecksum.be16At_congr (hother _ (by omega) (by omega))
          (hother _ (by omega) (by omega))]
        exact hl.nonzero target htarget hudp hversion
  frame := by
    intro c hc l hl k hk
    have hshape := h.shape l hl c hc
    have hfits := RawChecksum.field_fits hshape
    have hchunk := RawChecksum.length_chunk c l
    show (c.repair l)[k]? = l[k]?
    rw [RawChecksum.repair_eq hshape, getElem_overwrite (by rw [hchunk]; exact hfits), if_neg]
    rw [hchunk]
    exact fun hmem => hk hmem
  congr := by
    intro c hc l m hl hm hreads k hk
    have hshape := h.shape l hl c hc
    have hshape' := h.shape m hm c hc
    have hsame : c.chunk l = c.chunk m :=
      RawChecksum.chunk_congr hshape' fun k hk => octetAt_of_getElem (hreads k hk)
    have hchunk := RawChecksum.length_chunk c m
    show (c.repair l)[k]? = (c.repair m)[k]?
    rw [RawChecksum.repair_eq hshape, RawChecksum.repair_eq hshape', hsame,
      getElem_overwrite (by rw [hchunk]; exact RawChecksum.field_fits hshape),
      getElem_overwrite (by rw [hchunk]; exact RawChecksum.field_fits hshape'), hchunk]
    have hmem : c.checksumOffset ≤ k ∧ k < c.checksumOffset + c.checksumLength := hk
    rw [if_pos hmem, if_pos hmem]
  apart := by
    rintro c - ⟨k, hread, hwrite⟩
    exact hread.2 hwrite
  disjoint := h.disjoint

theorem Footing.ready_leaf (h : Footing bytes targets) (done : Set RawChecksum) {c : RawChecksum}
    (hc : c ∈ targets) (hleaf : c.IsLeaf) : rawRepairs.Ready targets done c := by
  rintro d hd ⟨k, hread, hwrite⟩
  by_cases heq : c = d
  · subst heq
    exact absurd hwrite hread.2
  · exact absurd hwrite (h.leaf c hc hleaf d hd heq k hread.1)

end Lawful

/-! ## The values of a map -/

section Map

variable {τ κ : Type} [DecidableEq κ] {key : τ → κ}

theorem mem_setTarget {targets : List τ} {target x : τ} (h : x ∈ setTarget key targets target) :
    x ∈ targets ∨ x = target := by
  rw [setTarget] at h
  split at h
  · obtain ⟨t, ht, rfl⟩ := List.mem_map.mp h
    split
    · exact Or.inr rfl
    · exact Or.inl ht
  · rcases List.mem_append.mp h with h | h
    · exact Or.inl h
    · exact Or.inr (List.mem_singleton.mp h)

theorem setTarget_mem (targets : List τ) (target : τ) : target ∈ setTarget key targets target := by
  rw [setTarget]
  split
  · rename_i hkey
    obtain ⟨t, ht, hsame⟩ := List.mem_map.mp hkey
    exact List.mem_map.mpr ⟨t, ht, if_pos hsame⟩
  · exact List.mem_append_right _ (List.mem_singleton.mpr rfl)

theorem setTarget_keeps {targets : List τ} {target x : τ} (hx : x ∈ targets)
    (hkey : key x = key target → x = target) : x ∈ setTarget key targets target := by
  rw [setTarget]
  split
  · refine List.mem_map.mpr ⟨x, hx, ?_⟩
    split
    · rename_i hsame
      exact (hkey hsame).symm
    · rfl
  · exact List.mem_append_left _ hx

theorem mem_mapValues {targets : List τ}
    (hkey : ∀ x ∈ targets, ∀ y ∈ targets, key x = key y → x = y) {x : τ} :
    x ∈ mapValues key targets ↔ x ∈ targets := by
  have hfold : ∀ (rest start : List τ),
      (∀ x ∈ start ++ rest, ∀ y ∈ rest, key x = key y → x = y) →
      ∀ x, x ∈ rest.foldl (setTarget key) start ↔ x ∈ start ∨ x ∈ rest := by
    intro rest
    induction rest with
    | nil => simp
    | cons target rest ih =>
        intro start hsame x
        have hstep : ∀ y ∈ setTarget key start target, y ∈ start ∨ y = target :=
          fun y hy => mem_setTarget hy
        rw [List.foldl_cons, ih]
        · constructor
          · rintro (h | h)
            · rcases hstep x h with h | rfl
              · exact Or.inl h
              · exact Or.inr List.mem_cons_self
            · exact Or.inr (List.mem_cons_of_mem target h)
          · rintro (h | h)
            · refine Or.inl (setTarget_keeps h ?_)
              exact hsame x (List.mem_append_left _ h) target List.mem_cons_self
            · rcases List.mem_cons.mp h with rfl | h
              · exact Or.inl (setTarget_mem start x)
              · exact Or.inr h
        · intro y hy z hz hkeys
          refine hsame y ?_ z (List.mem_cons_of_mem target hz) hkeys
          rcases List.mem_append.mp hy with hy | hy
          · rcases hstep y hy with hy | rfl
            · exact List.mem_append_left _ hy
            · exact List.mem_append_right _ List.mem_cons_self
          · exact List.mem_append_right _ (List.mem_cons_of_mem target hy)
  rw [mapValues, hfold targets [] (by simpa using hkey)]
  simp

end Map

/-! ## The IPv4 headers that are repaired -/

section Ipv4

variable {bytes : Bytes}

/-- The header behind the outer one, in a fragment or in a packet cut short, too. -/
def outerL4 (bytes : Bytes) (ip : RawIpHeader) : List RawL4Header :=
  match ip.ipVersion with
  | .ipv4 =>
      match rawIpv4HeaderLengthAt bytes ip.ipOffset with
      | none => []
      | some headerLength =>
          [⟨.ipv4, ip.ipOffset, octetAt bytes (ip.ipOffset + 9), ip.ipOffset + headerLength,
            rawIpv4PacketEnd bytes ip.ipOffset headerLength⟩]
  | .ipv6 => processIpv6 bytes [47, 17] ip.ipOffset

def outerIpv4Checksums (bytes : Bytes) (ip : RawIpHeader) : List RawChecksum :=
  ipChecksums bytes ip ++ (outerL4 bytes ip).flatMap fun header =>
    (innerHeaders bytes header).flatMap (ipChecksums bytes)

theorem mem_outerIpv4Checksums {ip : RawIpHeader} {checksum : RawChecksum} :
    checksum ∈ outerIpv4Checksums bytes ip ↔
      checksum ∈ ipChecksums bytes ip ∨ ∃ header ∈ outerL4 bytes ip,
        ∃ inner ∈ innerHeaders bytes header, checksum ∈ ipChecksums bytes inner := by
  simp only [outerIpv4Checksums, List.mem_append, List.mem_flatMap]

def HasIpv4 (bytes : Bytes) (offset : Nat) (ips : List RawIpHeader) : Prop :=
  ∃ ip ∈ ips, ∃ headerLength, .ipv4 offset headerLength ∈ ipChecksums bytes ip

theorem mem_addIpv4Offset {offset place : Nat} :
    offset ∈ addIpv4Offset bytes place ↔ HasIpv4 bytes offset [⟨.ipv4, place⟩] := by
  rw [addIpv4Offset, HasIpv4]
  simp only [List.mem_singleton, exists_eq_left, ipChecksums]
  cases hlength : rawIpv4HeaderLengthAt bytes place with
  | none => simp
  | some headerLength => simp

theorem mem_ipv4OffsetsOfGre {offset greOffset : Nat} :
    offset ∈ ipv4OffsetsOfGre bytes greOffset ↔ HasIpv4 bytes offset (processGre bytes greOffset) := by
  rw [ipv4OffsetsOfGre, processGre]
  cases rawPacketGrePayloadTarget bytes greOffset with
  | none => simp [HasIpv4]
  | some gre =>
      simp only
      split
      · exact mem_addIpv4Offset
      · split
        · simp [HasIpv4, ipChecksums]
        · simp [HasIpv4]

theorem hasIpv4_append {offset : Nat} {xs ys : List RawIpHeader} :
    HasIpv4 bytes offset (xs ++ ys) ↔ HasIpv4 bytes offset xs ∨ HasIpv4 bytes offset ys := by
  constructor
  · rintro ⟨ip, hip, h⟩
    rcases List.mem_append.mp hip with hip | hip
    · exact Or.inl ⟨ip, hip, h⟩
    · exact Or.inr ⟨ip, hip, h⟩
  · rintro (⟨ip, hip, h⟩ | ⟨ip, hip, h⟩)
    · exact ⟨ip, List.mem_append_left _ hip, h⟩
    · exact ⟨ip, List.mem_append_right _ hip, h⟩

theorem not_hasIpv4_nil {offset : Nat} : ¬HasIpv4 bytes offset [] := by
  rintro ⟨ip, hip, -⟩
  cases hip

theorem mem_ipv4OffsetsOfUdpTunnels {offset udpOffset limit : Nat} :
    offset ∈ ipv4OffsetsOfUdpTunnels bytes udpOffset limit ↔
      HasIpv4 bytes offset (processUdpTunnels bytes udpOffset limit) := by
  rw [ipv4OffsetsOfUdpTunnels, processUdpTunnels]
  cases rawPacketUdpTarget bytes udpOffset limit with
  | none => simp [HasIpv4]
  | some udp =>
      simp only
      rw [List.mem_append, hasIpv4_append]
      refine or_congr ?_ ?_
      · split
        · rw [ethernetHeader]
          cases rawPacketEthernetL3Target bytes (udp.payloadOffset + 8) with
          | none => simp [HasIpv4]
          | some l3 =>
              simp only
              split
              · exact mem_addIpv4Offset
              · split
                · simp [HasIpv4, ipChecksums]
                · simp [HasIpv4]
        · simp [HasIpv4]
      · split
        · rw [gtpuHeader]
          cases rawPacketGtpuPayloadOffset bytes udp.payloadOffset udp.endOffset with
          | none => simp [HasIpv4]
          | some payloadOffset =>
              simp only
              split
              · exact mem_addIpv4Offset
              · rename_i hversion
                -- without the version there is no header, whatever the walk of the others finds
                have hnone : rawIpv4HeaderLengthAt bytes payloadOffset = none := by
                  rw [rawIpv4HeaderLengthAt, if_pos (Or.inr hversion)]
                rw [addIpv4Offset, if_pos hnone]
                split
                · simp [HasIpv4, ipChecksums]
                · simp [HasIpv4]
        · simp [HasIpv4]

theorem exists_outerIpv4Checksums {offset : Nat} {ip : RawIpHeader} :
    (∃ headerLength, .ipv4 offset headerLength ∈ outerIpv4Checksums bytes ip) ↔
      HasIpv4 bytes offset [ip]
        ∨ ∃ header ∈ outerL4 bytes ip, HasIpv4 bytes offset (innerHeaders bytes header) := by
  constructor
  · rintro ⟨headerLength, h⟩
    rcases mem_outerIpv4Checksums.mp h with h | ⟨header, hheader, inner, hinner, h⟩
    · exact Or.inl ⟨ip, List.mem_singleton.mpr rfl, headerLength, h⟩
    · exact Or.inr ⟨header, hheader, inner, hinner, headerLength, h⟩
  · rintro (⟨ip', hip, headerLength, h⟩ | ⟨header, hheader, inner, hinner, headerLength, h⟩)
    · rw [List.mem_singleton.mp hip] at h
      exact ⟨headerLength, mem_outerIpv4Checksums.mpr (Or.inl h)⟩
    · exact ⟨headerLength, mem_outerIpv4Checksums.mpr (Or.inr ⟨header, hheader, inner, hinner, h⟩)⟩

theorem mem_outer_ipv4 {offset l3Offset : Nat} :
    (offset ∈ match rawIpv4HeaderLengthAt bytes l3Offset with
      | none => []
      | some headerLength =>
          l3Offset ::
            if octetAt bytes (l3Offset + 9) = 47 then ipv4OffsetsOfGre bytes (l3Offset + headerLength)
            else if octetAt bytes (l3Offset + 9) = 17 then
              ipv4OffsetsOfUdpTunnels bytes (l3Offset + headerLength)
                (rawIpv4PacketEnd bytes l3Offset headerLength)
            else []) ↔
      ∃ headerLength, .ipv4 offset headerLength ∈ outerIpv4Checksums bytes ⟨.ipv4, l3Offset⟩ := by
  rw [exists_outerIpv4Checksums]
  have hhead := @mem_addIpv4Offset bytes offset l3Offset
  rw [addIpv4Offset] at hhead
  rw [← hhead, outerL4]
  cases hlength : rawIpv4HeaderLengthAt bytes l3Offset with
  | none => simp
  | some headerLength =>
      simp only [List.mem_cons, exists_eq_left, innerHeaders, reduceCtorEq, if_false,
        List.not_mem_nil, or_false]
      refine or_congr Iff.rfl ?_
      split
      · exact mem_ipv4OffsetsOfGre
      · split
        · exact mem_ipv4OffsetsOfUdpTunnels
        · exact ⟨(fun h => by cases h), fun h => absurd h not_hasIpv4_nil⟩

theorem mem_outer_ipv6 {offset l3Offset : Nat} :
    (offset ∈ if rawPacketHasBytes bytes l3Offset 40 then
        (match rawPacketIpv6L4Offset bytes l3Offset 47 with
          | none => []
          | some greTarget => ipv4OffsetsOfGre bytes greTarget.offset)
          ++ match rawPacketIpv6L4Offset bytes l3Offset 17 with
            | none => []
            | some udpTarget => ipv4OffsetsOfUdpTunnels bytes udpTarget.offset udpTarget.limit
      else []) ↔
      ∃ headerLength, .ipv4 offset headerLength ∈ outerIpv4Checksums bytes ⟨.ipv6, l3Offset⟩ := by
  have hmem : ∀ header, header ∈ outerL4 bytes ⟨.ipv6, l3Offset⟩ ↔
      header.ipVersion = .ipv6 ∧ header.ipOffset = l3Offset ∧ header.protocol ∈ [47, 17]
        ∧ rawPacketIpv6L4Offset bytes l3Offset header.protocol
          = some ⟨header.limit, header.l4Offset⟩ :=
    fun header => mem_processIpv6
  rw [exists_outerIpv4Checksums]
  have hself : ¬HasIpv4 bytes offset [⟨.ipv6, l3Offset⟩] := by
    rintro ⟨ip, hip, headerLength, h⟩
    rw [List.mem_singleton.mp hip] at h
    cases h
  have hgre : (∃ target, rawPacketIpv6L4Offset bytes l3Offset 47 = some target
      ∧ HasIpv4 bytes offset (processGre bytes target.offset)) →
      ∃ header ∈ outerL4 bytes ⟨.ipv6, l3Offset⟩, HasIpv4 bytes offset (innerHeaders bytes header) := by
    rintro ⟨target, htarget, h⟩
    exact ⟨⟨.ipv6, l3Offset, 47, target.offset, target.limit⟩,
      (hmem _).mpr ⟨rfl, rfl, List.mem_cons_self, htarget⟩, h⟩
  have hudp : (∃ target, rawPacketIpv6L4Offset bytes l3Offset 17 = some target
      ∧ HasIpv4 bytes offset (processUdpTunnels bytes target.offset target.limit)) →
      ∃ header ∈ outerL4 bytes ⟨.ipv6, l3Offset⟩, HasIpv4 bytes offset (innerHeaders bytes header) := by
    rintro ⟨target, htarget, h⟩
    exact ⟨⟨.ipv6, l3Offset, 17, target.offset, target.limit⟩,
      (hmem _).mpr ⟨rfl, rfl, List.mem_cons_of_mem 47 List.mem_cons_self, htarget⟩, h⟩
  constructor
  · intro h
    right
    split at h
    · rcases List.mem_append.mp h with h | h
      · split at h
        · cases h
        · rename_i target htarget
          exact hgre ⟨target, htarget, mem_ipv4OffsetsOfGre.mp h⟩
      · split at h
        · cases h
        · rename_i target htarget
          exact hudp ⟨target, htarget, mem_ipv4OffsetsOfUdpTunnels.mp h⟩
    · cases h
  · rintro (h | ⟨header, hheader, h⟩)
    · exact absurd h hself
    · obtain ⟨-, -, hprotocol, hsome⟩ := (hmem header).mp hheader
      have hfits : rawPacketHasBytes bytes l3Offset 40 := by
        by_contra hne
        rw [rawPacketIpv6L4Offset, if_pos (Or.inl hne)] at hsome
        cases hsome
      rw [if_pos hfits]
      rcases List.mem_cons.mp hprotocol with hp | hp
      · refine List.mem_append_left _ ?_
        rw [hp] at hsome
        rw [innerHeaders, if_pos hp] at h
        rw [hsome]
        exact mem_ipv4OffsetsOfGre.mpr h
      · have hp := List.mem_singleton.mp hp
        refine List.mem_append_right _ ?_
        rw [hp] at hsome
        rw [innerHeaders, if_neg (by omega), if_pos hp] at h
        rw [hsome]
        exact mem_ipv4OffsetsOfUdpTunnels.mpr h

theorem mem_collectIpv4 {offset : Nat} :
    offset ∈ collectRawPacketIpv4HeaderOffsets bytes ↔
      ∃ ip ∈ ethernetHeader bytes 0, ∃ headerLength,
        .ipv4 offset headerLength ∈ outerIpv4Checksums bytes ip := by
  rw [collectRawPacketIpv4HeaderOffsets, ethernetHeader]
  cases rawPacketEthernetL3Target bytes 0 with
  | none => simp
  | some outer =>
      simp only
      have hvalues : ∀ offsets : List Nat, offset ∈ mapValues id offsets ↔ offset ∈ offsets :=
        fun offsets => mem_mapValues fun x _ y _ h => h
      rw [hvalues, List.mem_append]
      by_cases hfour : outer.etherType = 0x0800
      · have hsix : ¬(outer.etherType = 0x86DD ∧ rawPacketHasBytes bytes outer.l3Offset 40) := by
          rintro ⟨htype, -⟩
          omega
        simp only [if_pos hfour, if_neg hsix, List.mem_singleton, exists_eq_left, List.not_mem_nil,
          or_false]
        exact mem_outer_ipv4
      · rw [if_neg hfour, if_neg hfour]
        by_cases hsix : outer.etherType = 0x86DD
        · simp only [hsix, true_and, if_true, List.mem_singleton, exists_eq_left, List.not_mem_nil,
            false_or]
          exact mem_outer_ipv6
        · simp [hsix]

end Ipv4

end TrexWebui
