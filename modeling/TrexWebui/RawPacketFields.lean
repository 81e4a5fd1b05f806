import TrexWebui.RawPacketPlaces

/-!
# The checksum fields of a raw packet

All checksums that a walk reaches, with the places that each one covers and the
field that holds it. Without a UDP header of two tunnels the headers lie one
behind the other, so the fields are apart, and rewriting them leaves the walks
as they are.
-/

namespace TrexWebui

open PyStr Octets

/-! ## Checksums -/

/-- A checksum of a packet. -/
inductive RawChecksum where
  | ipv4 (offset headerLength : Nat)
  | icmp (target : RawPacketIcmpChecksumTarget)
  | sctp (target : RawPacketSctpChecksumTarget)
  | transport (target : RawPacketTransportChecksumTarget)
  | gre (target : RawPacketGreChecksumTarget)
deriving DecidableEq

namespace RawChecksum

def checksumOffset : RawChecksum → Nat
  | ipv4 offset _ => offset + 10
  | icmp target => target.checksumOffset
  | sctp target => target.checksumOffset
  | transport target => target.checksumOffset
  | gre target => target.checksumOffset

def checksumLength : RawChecksum → Nat
  | sctp _ => 4
  | _ => 2

def writes (checksum : RawChecksum) : Set Nat :=
  {k | checksum.checksumOffset ≤ k ∧ k < checksum.checksumOffset + checksum.checksumLength}

def pseudoPlaces (version : IpVersion) (ipOffset : Nat) : Set Nat :=
  match version with
  | .ipv4 => {k | ipOffset + 12 ≤ k ∧ k < ipOffset + 20}
  | .ipv6 => {k | ipOffset + 8 ≤ k ∧ k < ipOffset + 40}

/-- The places of the words of a segment: one more than its octets if their number is odd. -/
def wordPlaces (start length : Nat) : Set Nat := {k | start ≤ k ∧ k < start + 2 * ((length + 1) / 2)}

/-- The places that the code reads for the checksum, its field among them. -/
def covered : RawChecksum → Set Nat
  | ipv4 offset headerLength => wordPlaces offset headerLength
  | icmp target =>
      {k | target.ipVersion = .ipv6 ∧ k ∈ pseudoPlaces .ipv6 target.ipOffset
        ∨ k ∈ wordPlaces target.icmpOffset target.length}
  | sctp target => {k | target.sctpOffset ≤ k ∧ k < target.sctpOffset + target.length}
  | transport target =>
      {k | k ∈ pseudoPlaces target.ipVersion target.ipOffset
        ∨ k ∈ wordPlaces target.l4Offset target.length}
  | gre target => wordPlaces target.greOffset target.length

def reads (checksum : RawChecksum) : Set Nat := {k | k ∈ checksum.covered ∧ k ∉ checksum.writes}

def IsLeaf : RawChecksum → Prop
  | transport _ => False
  | gre _ => False
  | _ => True

end RawChecksum

/-! ## What a walk reaches -/

def ipChecksums (bytes : Bytes) (ip : RawIpHeader) : List RawChecksum :=
  match ip.ipVersion with
  | .ipv4 =>
      match rawIpv4HeaderLengthAt bytes ip.ipOffset with
      | none => []
      | some headerLength => [.ipv4 ip.ipOffset headerLength]
  | .ipv6 => []

def headerChecksums (bytes : Bytes) (header : RawL4Header) : List RawChecksum :=
  (addIcmpTarget bytes header).map .icmp ++ (addSctpTarget bytes header).map .sctp
    ++ (addTransportTarget bytes header).map .transport ++ (addGreTarget bytes header).map .gre

def checksumCollector : Collector RawChecksum where
  protocols := walkProtocols
  addIp := ipChecksums
  add := headerChecksums

def headerCollector : Collector RawL4Header where
  protocols := walkProtocols
  add := fun _ header => [header]

theorem Collector.mem_process_succ {τ : Type} {c : Collector τ} {bytes : Bytes} {fuel : Nat}
    {ip : RawIpHeader} {x : τ} :
    x ∈ c.process bytes (fuel + 1) ip ↔
      x ∈ c.addIp bytes ip ∨ ∃ header ∈ processIp bytes c.protocols ip,
        x ∈ c.add bytes header
          ∨ c.follows bytes header = true
            ∧ ∃ inner ∈ innerHeaders bytes header, x ∈ c.process bytes fuel inner := by
  rw [Collector.process, List.mem_append, List.mem_flatMap]
  constructor
  · rintro (h | ⟨header, hheader, h⟩)
    · exact Or.inl h
    · refine Or.inr ⟨header, hheader, ?_⟩
      rcases List.mem_append.mp h with h | h
      · exact Or.inl h
      · split at h
        · rename_i hfollows
          exact Or.inr ⟨hfollows, List.mem_flatMap.mp h⟩
        · cases h
  · rintro (h | ⟨header, hheader, h | ⟨hfollows, h⟩⟩)
    · exact Or.inl h
    · exact Or.inr ⟨header, hheader, List.mem_append_left _ h⟩
    · refine Or.inr ⟨header, hheader, List.mem_append_right _ ?_⟩
      rw [if_pos hfollows]
      exact List.mem_flatMap.mpr h

/-! ## The checksums of one header -/

section Header

variable {bytes : Bytes} {header : RawL4Header}

def icmpProtocol : IpVersion → Nat
  | .ipv4 => 1
  | .ipv6 => 58

theorem mem_addIcmpTarget {target : RawPacketIcmpChecksumTarget}
    (h : target ∈ addIcmpTarget bytes header) :
    header.protocol = icmpProtocol header.ipVersion ∧ header.l4Offset + 4 ≤ header.limit
      ∧ target = ⟨header.l4Offset + 2, header.l4Offset, header.ipOffset, header.ipVersion,
        header.limit - header.l4Offset⟩ := by
  have hshape : addIcmpTarget bytes header =
      if header.protocol ≠ icmpProtocol header.ipVersion then []
      else if bytes.length < header.limit ∨ header.limit < header.l4Offset + 4
          ∨ ¬rawPacketHasBytes bytes header.l4Offset 4 then []
      else [⟨header.l4Offset + 2, header.l4Offset, header.ipOffset, header.ipVersion,
        header.limit - header.l4Offset⟩] := by
    rw [addIcmpTarget]
    cases header.ipVersion <;> rfl
  rw [hshape] at h
  split at h
  · cases h
  · rename_i hprotocol
    split at h
    · cases h
    · rename_i hlimit
      rw [not_or, not_or, not_lt, not_lt] at hlimit
      exact ⟨not_not.mp hprotocol, hlimit.2.1, List.mem_singleton.mp h⟩

theorem mem_addSctpTarget {target : RawPacketSctpChecksumTarget}
    (h : target ∈ addSctpTarget bytes header) :
    header.protocol = 132 ∧ header.l4Offset + 12 ≤ header.limit
      ∧ target = ⟨header.l4Offset + 8, header.limit - header.l4Offset, header.l4Offset⟩ := by
  rw [addSctpTarget] at h
  split at h
  · cases h
  · rename_i hprotocol
    split at h
    · cases h
    · rename_i hlimit
      rw [not_or, not_or, not_lt, not_lt] at hlimit
      exact ⟨not_not.mp hprotocol, hlimit.2.1, List.mem_singleton.mp h⟩

theorem mem_addGreTarget {target : RawPacketGreChecksumTarget}
    (h : target ∈ addGreTarget bytes header) :
    header.protocol = 47 ∧ header.l4Offset + 8 ≤ header.limit
      ∧ rawPacketWord bytes header.l4Offset &&& 0x8000 ≠ 0
      ∧ target = ⟨header.l4Offset + 4, header.l4Offset, header.limit - header.l4Offset⟩ := by
  rw [addGreTarget] at h
  split at h
  · cases h
  · rename_i hprotocol
    split at h
    · cases h
    · rename_i hlimit
      rw [not_or, not_or, not_or, not_lt, not_lt] at hlimit
      rw [not_or, not_not] at hprotocol
      exact ⟨hprotocol.1, hlimit.2.1, hlimit.2.2.2, List.mem_singleton.mp h⟩

theorem mem_addTransportTarget {target : RawPacketTransportChecksumTarget}
    (h : target ∈ addTransportTarget bytes header) :
    (header.protocol = 17 ∧ (∃ udp, rawPacketUdpTarget bytes header.l4Offset header.limit = some udp
        ∧ target = ⟨header.l4Offset + 6, header.ipOffset, header.ipVersion, header.l4Offset,
          udp.endOffset - header.l4Offset, header.protocol⟩)
      ∧ (header.ipVersion = .ipv4 → rawPacketWord bytes (header.l4Offset + 6) ≠ 0))
    ∨ (header.protocol = 6
      ∧ rawPacketTcpHeaderOffset bytes header.l4Offset header.limit ≠ none
      ∧ target = ⟨header.l4Offset + 16, header.ipOffset, header.ipVersion, header.l4Offset,
          header.limit - header.l4Offset, header.protocol⟩) := by
  rw [addTransportTarget] at h
  split at h
  · cases h
  rename_i hprotocol
  split at h
  · cases h
  split at h
  · rename_i hudp
    left
    refine ⟨hudp, ?_⟩
    split at h
    · cases h
    · rename_i udp hsome
      split at h
      · cases h
      · rename_i hzero
        refine ⟨⟨udp, hsome, List.mem_singleton.mp h⟩, ?_⟩
        intro hversion hword
        exact hzero ⟨hversion, hword⟩
  · rename_i hudp
    right
    split at h
    · cases h
    · rename_i htcp
      rw [not_and_or, not_not, not_not] at hprotocol
      exact ⟨hprotocol.resolve_right hudp, htcp, List.mem_singleton.mp h⟩

theorem tcpHeaderOffset_le {tcpOffset limit : Nat}
    (h : rawPacketTcpHeaderOffset bytes tcpOffset limit ≠ none) : tcpOffset + 20 ≤ limit := by
  rw [rawPacketTcpHeaderOffset] at h
  split at h
  · exact absurd rfl h
  · simp only at h
    split_ifs at h with hlength hlimit
    · exact absurd rfl h
    · exact absurd rfl h
    · rw [not_or, not_lt] at hlength
      omega

theorem mem_headerChecksums {checksum : RawChecksum} :
    checksum ∈ headerChecksums bytes header ↔
      (∃ target ∈ addIcmpTarget bytes header, checksum = .icmp target)
      ∨ (∃ target ∈ addSctpTarget bytes header, checksum = .sctp target)
      ∨ (∃ target ∈ addTransportTarget bytes header, checksum = .transport target)
      ∨ (∃ target ∈ addGreTarget bytes header, checksum = .gre target) := by
  simp only [headerChecksums, List.mem_append, List.mem_map, or_assoc, eq_comm]

theorem headerChecksum_protocol {checksum : RawChecksum} (h : checksum ∈ headerChecksums bytes header) :
    match checksum with
    | .ipv4 _ _ => False
    | .icmp _ => header.protocol = icmpProtocol header.ipVersion
    | .sctp _ => header.protocol = 132
    | .transport _ => header.protocol = 17 ∨ header.protocol = 6
    | .gre _ => header.protocol = 47 := by
  rcases mem_headerChecksums.mp h with ⟨t, ht, rfl⟩ | ⟨t, ht, rfl⟩ | ⟨t, ht, rfl⟩ | ⟨t, ht, rfl⟩
  · exact (mem_addIcmpTarget ht).1
  · exact (mem_addSctpTarget ht).1
  · rcases mem_addTransportTarget ht with ⟨hprotocol, -⟩ | ⟨hprotocol, -⟩
    · exact Or.inl hprotocol
    · exact Or.inr hprotocol
  · exact (mem_addGreTarget ht).1

theorem headerChecksum_of_udp (hudp : header.protocol = 17) {checksum : RawChecksum}
    (h : checksum ∈ headerChecksums bytes header) :
    checksum.checksumOffset = header.l4Offset + 6 ∧ checksum.checksumLength = 2 := by
  have hprotocol := headerChecksum_protocol h
  rcases mem_headerChecksums.mp h with ⟨t, ht, rfl⟩ | ⟨t, ht, rfl⟩ | ⟨t, ht, rfl⟩ | ⟨t, ht, rfl⟩ <;>
    simp only at hprotocol
  · cases hversion : header.ipVersion <;>
    · rw [hversion, icmpProtocol] at hprotocol
      omega
  · omega
  · rcases mem_addTransportTarget ht with ⟨-, ⟨udp, -, rfl⟩, -⟩ | ⟨hp, -, -⟩
    · exact ⟨rfl, rfl⟩
    · omega
  · omega

theorem headerChecksum_of_tcp (htcp : header.protocol = 6) {checksum : RawChecksum}
    (h : checksum ∈ headerChecksums bytes header) :
    checksum.checksumOffset = header.l4Offset + 16 := by
  have hprotocol := headerChecksum_protocol h
  rcases mem_headerChecksums.mp h with ⟨t, ht, rfl⟩ | ⟨t, ht, rfl⟩ | ⟨t, ht, rfl⟩ | ⟨t, ht, rfl⟩ <;>
    simp only at hprotocol
  · cases hversion : header.ipVersion <;>
    · rw [hversion, icmpProtocol] at hprotocol
      omega
  · omega
  · rcases mem_addTransportTarget ht with ⟨hp, -⟩ | ⟨-, -, rfl⟩
    · omega
    · rfl
  · omega

theorem headerChecksum_of_gre (hgre : header.protocol = 47) {checksum : RawChecksum}
    (h : checksum ∈ headerChecksums bytes header) :
    checksum.checksumOffset = header.l4Offset + 4 := by
  have hprotocol := headerChecksum_protocol h
  rcases mem_headerChecksums.mp h with ⟨t, ht, rfl⟩ | ⟨t, ht, rfl⟩ | ⟨t, ht, rfl⟩ | ⟨t, ht, rfl⟩ <;>
    simp only at hprotocol
  · cases hversion : header.ipVersion <;>
    · rw [hversion, icmpProtocol] at hprotocol
      omega
  · omega
  · omega
  · obtain ⟨-, -, -, rfl⟩ := mem_addGreTarget ht
    rfl

theorem headerChecksum_unique {c d : RawChecksum} (hc : c ∈ headerChecksums bytes header)
    (hd : d ∈ headerChecksums bytes header) : c = d := by
  have hicmp : icmpProtocol header.ipVersion = 1 ∨ icmpProtocol header.ipVersion = 58 := by
    cases header.ipVersion
    · exact Or.inl rfl
    · exact Or.inr rfl
  have hpc := headerChecksum_protocol hc
  have hpd := headerChecksum_protocol hd
  rcases mem_headerChecksums.mp hc with ⟨t, ht, rfl⟩ | ⟨t, ht, rfl⟩ | ⟨t, ht, rfl⟩ | ⟨t, ht, rfl⟩ <;>
    rcases mem_headerChecksums.mp hd with ⟨u, hu, rfl⟩ | ⟨u, hu, rfl⟩ | ⟨u, hu, rfl⟩ | ⟨u, hu, rfl⟩ <;>
    simp only at hpc hpd
  case inl.inl => rw [(mem_addIcmpTarget ht).2.2, (mem_addIcmpTarget hu).2.2]
  case inr.inl.inr.inl => rw [(mem_addSctpTarget ht).2.2, (mem_addSctpTarget hu).2.2]
  case inr.inr.inr.inr.inr.inr => rw [(mem_addGreTarget ht).2.2.2, (mem_addGreTarget hu).2.2.2]
  case inr.inr.inl.inr.inr.inl =>
    rcases mem_addTransportTarget ht with ⟨hp, ⟨udp, hsome, rfl⟩, -⟩ | ⟨hp, -, rfl⟩ <;>
      rcases mem_addTransportTarget hu with ⟨hp', ⟨udp', hsome', rfl⟩, -⟩ | ⟨hp', -, rfl⟩
    · rw [hsome] at hsome'
      cases hsome'
      rfl
    · omega
    · omega
    · rfl
  all_goals omega

theorem headerChecksum_writes {checksum : RawChecksum} (h : checksum ∈ headerChecksums bytes header)
    {k : Nat} (hk : k ∈ checksum.writes) :
    header.l4Offset + 2 ≤ k ∧ k < header.limit
      ∧ ∀ inner ∈ innerHeaders bytes header, k < inner.ipOffset := by
  have hicmp : icmpProtocol header.ipVersion = 1 ∨ icmpProtocol header.ipVersion = 58 := by
    cases header.ipVersion
    · exact Or.inl rfl
    · exact Or.inr rfl
  obtain ⟨hlow, hhigh⟩ := hk
  rcases mem_headerChecksums.mp h with ⟨t, ht, rfl⟩ | ⟨t, ht, rfl⟩ | ⟨t, ht, rfl⟩ | ⟨t, ht, rfl⟩
  · obtain ⟨hprotocol, hlimit, rfl⟩ := mem_addIcmpTarget ht
    change header.l4Offset + 2 ≤ k at hlow
    change k < header.l4Offset + 2 + 2 at hhigh
    refine ⟨by omega, by omega, ?_⟩
    intro inner hinner
    rcases mem_innerHeaders hinner with ⟨hp, -⟩ | ⟨hp, -⟩ <;> omega
  · obtain ⟨hprotocol, hlimit, rfl⟩ := mem_addSctpTarget ht
    change header.l4Offset + 8 ≤ k at hlow
    change k < header.l4Offset + 8 + 4 at hhigh
    refine ⟨by omega, by omega, ?_⟩
    intro inner hinner
    rcases mem_innerHeaders hinner with ⟨hp, -⟩ | ⟨hp, -⟩ <;> omega
  · rcases mem_addTransportTarget ht with ⟨hp, ⟨udp, hsome, rfl⟩, -⟩ | ⟨hp, htcp, rfl⟩
    · obtain ⟨hpayload, hend, hlimit, -⟩ := udpTarget_payloadOffset hsome
      change header.l4Offset + 6 ≤ k at hlow
      change k < header.l4Offset + 6 + 2 at hhigh
      refine ⟨by omega, by omega, ?_⟩
      intro inner hinner
      rcases mem_innerHeaders hinner with ⟨-, hle⟩ | ⟨hp', -⟩ <;> omega
    · have hlimit := tcpHeaderOffset_le htcp
      change header.l4Offset + 16 ≤ k at hlow
      change k < header.l4Offset + 16 + 2 at hhigh
      refine ⟨by omega, by omega, ?_⟩
      intro inner hinner
      rcases mem_innerHeaders hinner with ⟨hp', -⟩ | ⟨hp', -⟩ <;> omega
  · obtain ⟨hprotocol, hlimit, hflag, rfl⟩ := mem_addGreTarget ht
    change header.l4Offset + 4 ≤ k at hlow
    change k < header.l4Offset + 4 + 2 at hhigh
    refine ⟨by omega, by omega, ?_⟩
    intro inner hinner
    rcases mem_innerHeaders hinner with ⟨hp', -⟩ | ⟨-, -, hle⟩
    · omega
    · have hbehind := hle hflag
      omega

theorem headerChecksum_covered {checksum : RawChecksum} (h : checksum ∈ headerChecksums bytes header)
    (hbehind : header.ipOffset ≤ header.l4Offset) {k : Nat} (hk : k ∈ checksum.covered) :
    header.ipOffset ≤ k := by
  rcases mem_headerChecksums.mp h with ⟨t, ht, rfl⟩ | ⟨t, ht, rfl⟩ | ⟨t, ht, rfl⟩ | ⟨t, ht, rfl⟩
  · obtain ⟨-, -, rfl⟩ := mem_addIcmpTarget ht
    rcases hk with ⟨-, hpseudo, -⟩ | ⟨hle, -⟩
    · exact le_trans (Nat.le_add_right _ 8) hpseudo
    · exact le_trans hbehind hle
  · obtain ⟨-, -, rfl⟩ := mem_addSctpTarget ht
    exact le_trans hbehind hk.1
  · have htarget : t.ipOffset = header.ipOffset ∧ t.l4Offset = header.l4Offset := by
      rcases mem_addTransportTarget ht with ⟨-, ⟨udp, -, rfl⟩, -⟩ | ⟨-, -, rfl⟩ <;> exact ⟨rfl, rfl⟩
    rcases hk with hpseudo | ⟨hle, -⟩
    · cases hversion : t.ipVersion with
      | ipv4 =>
          rw [hversion] at hpseudo
          have hle : t.ipOffset + 12 ≤ k := hpseudo.1
          omega
      | ipv6 =>
          rw [hversion] at hpseudo
          have hle : t.ipOffset + 8 ≤ k := hpseudo.1
          omega
    · omega
  · obtain ⟨-, -, -, rfl⟩ := mem_addGreTarget ht
    exact le_trans hbehind hk.1

theorem headerChecksum_leaf {checksum : RawChecksum} (h : checksum ∈ headerChecksums bytes header)
    (hleaf : checksum.IsLeaf) :
    innerHeaders bytes header = []
      ∧ (header.ipVersion = .ipv4 → ∀ k ∈ checksum.covered, header.l4Offset ≤ k) := by
  have hnone : header.protocol ≠ 17 → header.protocol ≠ 47 → innerHeaders bytes header = [] := by
    intro hudp hgre
    rw [innerHeaders, if_neg hgre, if_neg hudp]
  rcases mem_headerChecksums.mp h with ⟨t, ht, rfl⟩ | ⟨t, ht, rfl⟩ | ⟨t, ht, rfl⟩ | ⟨t, ht, rfl⟩
  · obtain ⟨hprotocol, -, rfl⟩ := mem_addIcmpTarget ht
    constructor
    · cases hversion : header.ipVersion <;>
      · rw [hversion, icmpProtocol] at hprotocol
        exact hnone (by omega) (by omega)
    · intro hversion k hk
      rcases hk with ⟨hsix, -⟩ | ⟨hle, -⟩
      · rw [show header.ipVersion = .ipv6 from hsix] at hversion
        cases hversion
      · exact hle
  · obtain ⟨hprotocol, -, rfl⟩ := mem_addSctpTarget ht
    exact ⟨hnone (by omega) (by omega), fun _ k hk => hk.1⟩
  · exact hleaf.elim
  · exact hleaf.elim

end Header

/-! ## The fields are apart -/

section Chain

variable {bytes : Bytes}

theorem mem_ipChecksums {ip : RawIpHeader} {checksum : RawChecksum}
    (h : checksum ∈ ipChecksums bytes ip) :
    ip.ipVersion = .ipv4 ∧ ∃ headerLength,
      rawIpv4HeaderLengthAt bytes ip.ipOffset = some headerLength
        ∧ checksum = .ipv4 ip.ipOffset headerLength := by
  obtain ⟨version, offset⟩ := ip
  cases version with
  | ipv4 =>
      rw [ipChecksums] at h
      simp only at h ⊢
      split at h
      · cases h
      · rename_i headerLength hlength
        exact ⟨trivial, headerLength, hlength, List.mem_singleton.mp h⟩
  | ipv6 => cases h

/-- The checksum of an IPv4 header covers this header, which ends where the next one begins. -/
theorem ipChecksum_places {ip : RawIpHeader} {checksum : RawChecksum}
    (h : checksum ∈ ipChecksums bytes ip) {k : Nat} (hk : k ∈ checksum.covered) :
    ip.ipOffset ≤ k ∧ ∀ header ∈ processIp bytes walkProtocols ip, k < header.l4Offset := by
  obtain ⟨hversion, headerLength, hlength, rfl⟩ := mem_ipChecksums h
  obtain ⟨-, heven, -⟩ := headerLength_spec hlength
  obtain ⟨hlow, hhigh⟩ := hk
  refine ⟨hlow, ?_⟩
  intro header hheader
  obtain ⟨version, offset⟩ := ip
  simp only at hversion
  subst hversion
  change header ∈ processIpv4 bytes offset at hheader
  obtain ⟨headerLength', hlength', hl4⟩ := (mem_processIpv4 hheader).length
  change rawIpv4HeaderLengthAt bytes offset = some headerLength at hlength
  rw [hlength] at hlength'
  cases hlength'
  rw [hl4]
  change k < offset + 2 * ((headerLength + 1) / 2) at hhigh
  omega

theorem ipChecksum_writes {ip : RawIpHeader} {checksum : RawChecksum}
    (h : checksum ∈ ipChecksums bytes ip) {k : Nat} (hk : k ∈ checksum.writes) :
    ip.ipOffset + 10 ≤ k ∧ k < ip.ipOffset + 12 := by
  obtain ⟨-, headerLength, -, rfl⟩ := mem_ipChecksums h
  exact hk

def SinglePorts (bytes : Bytes) (fuel : Nat) (ip : RawIpHeader) : Prop :=
  ∀ header ∈ headerCollector.process bytes fuel ip, SinglePort bytes header

theorem SinglePorts.header {fuel : Nat} {ip : RawIpHeader} (h : SinglePorts bytes (fuel + 1) ip)
    {header : RawL4Header} (hheader : header ∈ processIp bytes walkProtocols ip) :
    SinglePort bytes header :=
  h header (Collector.mem_process_succ.mpr
    (Or.inr ⟨header, hheader, Or.inl (List.mem_singleton.mpr rfl)⟩))

theorem SinglePorts.inner {fuel : Nat} {ip : RawIpHeader} (h : SinglePorts bytes (fuel + 1) ip)
    {header : RawL4Header} (hheader : header ∈ processIp bytes walkProtocols ip)
    {inner : RawIpHeader} (hinner : inner ∈ innerHeaders bytes header) :
    SinglePorts bytes fuel inner :=
  fun deeper hdeeper => h deeper (Collector.mem_process_succ.mpr
    (Or.inr ⟨header, hheader, Or.inr ⟨rfl, inner, hinner, hdeeper⟩⟩))

abbrev checksumsFrom (bytes : Bytes) (fuel : Nat) (ip : RawIpHeader) : List RawChecksum :=
  checksumCollector.process bytes fuel ip

/-- A checksum of a walk is one of the two headers that the walk begins with, or lies in the
tunnel. -/
theorem mem_checksumsFrom {fuel : Nat} {ip : RawIpHeader} {checksum : RawChecksum} :
    checksum ∈ checksumsFrom bytes (fuel + 1) ip ↔
      checksum ∈ ipChecksums bytes ip ∨ ∃ header ∈ processIp bytes walkProtocols ip,
        checksum ∈ headerChecksums bytes header
          ∨ ∃ inner ∈ innerHeaders bytes header, checksum ∈ checksumsFrom bytes fuel inner := by
  constructor
  · intro h
    rcases Collector.mem_process_succ.mp h with hip | ⟨header, hheader, hown | ⟨-, hdeep⟩⟩
    · exact Or.inl hip
    · exact Or.inr ⟨header, hheader, Or.inl hown⟩
    · exact Or.inr ⟨header, hheader, Or.inr hdeep⟩
  · rintro (hip | ⟨header, hheader, hown | hdeep⟩)
    · exact Collector.mem_process_succ.mpr (Or.inl hip)
    · exact Collector.mem_process_succ.mpr (Or.inr ⟨header, hheader, Or.inl hown⟩)
    · exact Collector.mem_process_succ.mpr (Or.inr ⟨header, hheader, Or.inr ⟨rfl, hdeep⟩⟩)

theorem checksumsFrom_ge {fuel : Nat} {ip : RawIpHeader} {checksum : RawChecksum}
    (h : checksum ∈ checksumsFrom bytes fuel ip) :
    (∀ k ∈ checksum.writes, ip.ipOffset + 2 ≤ k) ∧ ∀ k ∈ checksum.covered, ip.ipOffset ≤ k := by
  induction fuel generalizing ip with
  | zero => cases h
  | succ fuel ih =>
      rcases mem_checksumsFrom.mp h with hip | ⟨header, hheader, hown | ⟨inner, hinner, hdeep⟩⟩
      · constructor
        · intro k hk
          have hplace := (ipChecksum_writes hip hk).1
          omega
        · intro k hk
          exact (ipChecksum_places hip hk).1
      · have hspec := mem_processIp hheader
        have hbehind := hspec.behind
        have hoffset := hspec.ipOffset
        constructor
        · intro k hk
          have hplace := (headerChecksum_writes hown hk).1
          omega
        · intro k hk
          have hplace := headerChecksum_covered hown (by omega) hk
          omega
      · have hbehind := (mem_processIp hheader).behind
        have hle := mem_innerHeaders_le hinner
        obtain ⟨hwrites, hcovered⟩ := ih hdeep
        constructor
        · intro k hk
          have hplace := hwrites k hk
          omega
        · intro k hk
          have hplace := hcovered k hk
          omega

theorem writes_before_inner {ip : RawIpHeader} {header : RawL4Header}
    (hheader : header ∈ processIp bytes walkProtocols ip) {inner : RawIpHeader}
    (hinner : inner ∈ innerHeaders bytes header) {checksum : RawChecksum}
    (h : checksum ∈ ipChecksums bytes ip ∨ checksum ∈ headerChecksums bytes header) {k : Nat}
    (hk : k ∈ checksum.writes) : k < inner.ipOffset := by
  rcases h with hip | hown
  · have hplace := (ipChecksum_writes hip hk).2
    have hbehind := (mem_processIp hheader).behind
    have hle := mem_innerHeaders_le hinner
    omega
  · exact (headerChecksum_writes hown hk).2.2 inner hinner

theorem checksumsFrom_disjoint {fuel : Nat} {ip : RawIpHeader} (hsingle : SinglePorts bytes fuel ip)
    {c d : RawChecksum} (hc : c ∈ checksumsFrom bytes fuel ip) (hd : d ∈ checksumsFrom bytes fuel ip)
    (hne : c ≠ d) : ∀ k ∈ c.writes, k ∉ d.writes := by
  induction fuel generalizing ip with
  | zero => cases hc
  | succ fuel ih =>
      intro k hkc hkd
      rcases mem_checksumsFrom.mp hc with hcip | ⟨hdr, hhdr, hcown | ⟨inner, hinner, hcdeep⟩⟩ <;>
        rcases mem_checksumsFrom.mp hd with hdip | ⟨hdr', hhdr', hdown | ⟨inner', hinner', hddeep⟩⟩
      · obtain ⟨-, headerLength, hlength, rfl⟩ := mem_ipChecksums hcip
        obtain ⟨-, headerLength', hlength', rfl⟩ := mem_ipChecksums hdip
        rw [hlength] at hlength'
        cases hlength'
        exact hne rfl
      · have hlow := (ipChecksum_writes hcip hkc).2
        have hhigh := (headerChecksum_writes hdown hkd).1
        have hbehind := (mem_processIp hhdr').behind
        omega
      · have hlow := writes_before_inner hhdr' hinner' (Or.inl hcip) hkc
        have hhigh := (checksumsFrom_ge hddeep).1 k hkd
        omega
      · have hlow := (ipChecksum_writes hdip hkd).2
        have hhigh := (headerChecksum_writes hcown hkc).1
        have hbehind := (mem_processIp hhdr).behind
        omega
      · have hsame := processIp_unique (List.Subset.refl _) (List.Subset.refl _) hhdr hhdr'
        subst hsame
        exact hne (headerChecksum_unique hcown hdown)
      · have hsame := processIp_unique (List.Subset.refl _) (List.Subset.refl _) hhdr hhdr'
        subst hsame
        have hlow := writes_before_inner hhdr hinner' (Or.inr hcown) hkc
        have hhigh := (checksumsFrom_ge hddeep).1 k hkd
        omega
      · have hlow := writes_before_inner hhdr hinner (Or.inl hdip) hkd
        have hhigh := (checksumsFrom_ge hcdeep).1 k hkc
        omega
      · have hsame := processIp_unique (List.Subset.refl _) (List.Subset.refl _) hhdr hhdr'
        subst hsame
        have hlow := writes_before_inner hhdr hinner (Or.inr hdown) hkd
        have hhigh := (checksumsFrom_ge hcdeep).1 k hkc
        omega
      · have hsame := processIp_unique (List.Subset.refl _) (List.Subset.refl _) hhdr hhdr'
        subst hsame
        have hinners := innerHeaders_unique (hsingle.header hhdr) hinner hinner'
        subst hinners
        exact ih (hsingle.inner hhdr hinner) hcdeep hddeep k hkc hkd

theorem checksumsFrom_leaf {fuel : Nat} {ip : RawIpHeader} (hsingle : SinglePorts bytes fuel ip)
    {c d : RawChecksum} (hc : c ∈ checksumsFrom bytes fuel ip) (hleaf : c.IsLeaf)
    (hd : d ∈ checksumsFrom bytes fuel ip) (hne : c ≠ d) : ∀ k ∈ c.covered, k ∉ d.writes := by
  induction fuel generalizing ip with
  | zero => cases hc
  | succ fuel ih =>
      intro k hkc hkd
      rcases mem_checksumsFrom.mp hc with hcip | ⟨hdr, hhdr, hcown | ⟨inner, hinner, hcdeep⟩⟩ <;>
        rcases mem_checksumsFrom.mp hd with hdip | ⟨hdr', hhdr', hdown | ⟨inner', hinner', hddeep⟩⟩
      · obtain ⟨-, headerLength, hlength, rfl⟩ := mem_ipChecksums hcip
        obtain ⟨-, headerLength', hlength', rfl⟩ := mem_ipChecksums hdip
        rw [hlength] at hlength'
        cases hlength'
        exact hne rfl
      · have hlow := (ipChecksum_places hcip hkc).2 hdr' hhdr'
        have hhigh := (headerChecksum_writes hdown hkd).1
        omega
      · have hlow := (ipChecksum_places hcip hkc).2 hdr' hhdr'
        have hhigh := (checksumsFrom_ge hddeep).1 k hkd
        have hle := mem_innerHeaders_le hinner'
        omega
      · have hspec := mem_processIp hhdr
        have hversion := (mem_ipChecksums hdip).1
        have hlow := (headerChecksum_leaf hcown hleaf).2 (hspec.version.trans hversion) k hkc
        have hhigh := (ipChecksum_writes hdip hkd).2
        have hbehind := hspec.behind
        omega
      · have hsame := processIp_unique (List.Subset.refl _) (List.Subset.refl _) hhdr hhdr'
        subst hsame
        exact hne (headerChecksum_unique hcown hdown)
      · have hsame := processIp_unique (List.Subset.refl _) (List.Subset.refl _) hhdr hhdr'
        subst hsame
        rw [(headerChecksum_leaf hcown hleaf).1] at hinner'
        cases hinner'
      · have hlow := writes_before_inner hhdr hinner (Or.inl hdip) hkd
        have hhigh := (checksumsFrom_ge hcdeep).2 k hkc
        omega
      · have hsame := processIp_unique (List.Subset.refl _) (List.Subset.refl _) hhdr hhdr'
        subst hsame
        have hlow := writes_before_inner hhdr hinner (Or.inr hdown) hkd
        have hhigh := (checksumsFrom_ge hcdeep).2 k hkc
        omega
      · have hsame := processIp_unique (List.Subset.refl _) (List.Subset.refl _) hhdr hhdr'
        subst hsame
        have hinners := innerHeaders_unique (hsingle.header hhdr) hinner hinner'
        subst hinners
        exact ih (hsingle.inner hhdr hinner) hcdeep hddeep k hkc hkd

/-! ## The walks do not read the fields -/

/-- Nothing that a walk reads of a header differs; of a UDP checksum it reads whether it is zero. -/
structure HeaderAlike (bytes other : Bytes) (header : RawL4Header) : Prop where
  length : other.length = bytes.length
  udp : header.protocol = 17 → rawPacketUdpTarget other header.l4Offset header.limit
    = rawPacketUdpTarget bytes header.l4Offset header.limit
  zero : header.protocol = 17 → header.ipVersion = .ipv4 →
    rawPacketUdpTarget bytes header.l4Offset header.limit ≠ none →
    (rawPacketWord other (header.l4Offset + 6) = 0 ↔ rawPacketWord bytes (header.l4Offset + 6) = 0)
  tcp : header.protocol = 6 → rawPacketTcpHeaderOffset other header.l4Offset header.limit
    = rawPacketTcpHeaderOffset bytes header.l4Offset header.limit
  gre : header.protocol = 47 → rawPacketGrePayloadTarget other header.l4Offset
    = rawPacketGrePayloadTarget bytes header.l4Offset
  flags : header.protocol = 47 →
    rawPacketWord other header.l4Offset = rawPacketWord bytes header.l4Offset

/-- What a walk adds depends on what it reads of a header. -/
structure Collector.Local {τ : Type} (c : Collector τ) : Prop where
  addIp : ∀ bytes other ip, other.length = bytes.length →
    octetAt other ip.ipOffset = octetAt bytes ip.ipOffset → c.addIp other ip = c.addIp bytes ip
  add : ∀ bytes other header, HeaderAlike bytes other header → c.add other header = c.add bytes header
  follows : ∀ bytes other header, HeaderAlike bytes other header →
    c.follows other header = c.follows bytes header

/-- A packet that differs in checksum fields only, where no UDP checksum became zero. -/
structure Kept (bytes other : Bytes) (fuel : Nat) (ip : RawIpHeader) : Prop where
  length : other.length = bytes.length
  octets : ∀ k, ip.ipOffset ≤ k → (∀ c ∈ checksumsFrom bytes fuel ip, k ∉ c.writes) →
    octetAt other k = octetAt bytes k
  nonzero : ∀ target, .transport target ∈ checksumsFrom bytes fuel ip → target.protocol = 17 →
    target.ipVersion = .ipv4 → rawPacketWord other target.checksumOffset ≠ 0

namespace Kept

variable {other : Bytes} {fuel : Nat} {ip : RawIpHeader} {header : RawL4Header}

theorem octet_eq (h : Kept bytes other (fuel + 1) ip)
    (hheader : header ∈ processIp bytes walkProtocols ip) {k : Nat} (hk : ip.ipOffset ≤ k)
    (hip : ∀ c ∈ ipChecksums bytes ip, k ∉ c.writes)
    (hown : ∀ c ∈ headerChecksums bytes header, k ∉ c.writes)
    (hinner : ∀ inner ∈ innerHeaders bytes header, k ≤ inner.ipOffset + 1) :
    octetAt other k = octetAt bytes k := by
  refine h.octets k hk ?_
  intro c hc hwrite
  rcases mem_checksumsFrom.mp hc with hcip | ⟨header', hheader', hcown | ⟨inner, hmem, hdeep⟩⟩
  · exact hip c hcip hwrite
  · rw [processIp_unique (List.Subset.refl _) (List.Subset.refl _) hheader' hheader] at hcown
    exact hown c hcown hwrite
  · rw [processIp_unique (List.Subset.refl _) (List.Subset.refl _) hheader' hheader] at hmem
    have hle := hinner inner hmem
    have hge := (checksumsFrom_ge hdeep).1 k hwrite
    omega

theorem inner (h : Kept bytes other (fuel + 1) ip) (hsingle : SinglePorts bytes (fuel + 1) ip)
    (hheader : header ∈ processIp bytes walkProtocols ip) {inner : RawIpHeader}
    (hinner : inner ∈ innerHeaders bytes header) : Kept bytes other fuel inner := by
  have hbehind := (mem_processIp hheader).behind
  have hle := mem_innerHeaders_le hinner
  refine ⟨h.length, ?_, ?_⟩
  · intro k hk hfields
    refine h.octets k (by omega) ?_
    intro c hc hwrite
    rcases mem_checksumsFrom.mp hc with hcip | ⟨header', hheader', hcown | ⟨inner', hmem, hdeep⟩⟩
    · have hbefore := writes_before_inner hheader hinner (Or.inl hcip) hwrite
      omega
    · rw [processIp_unique (List.Subset.refl _) (List.Subset.refl _) hheader' hheader] at hcown
      have hbefore := writes_before_inner hheader hinner (Or.inr hcown) hwrite
      omega
    · rw [processIp_unique (List.Subset.refl _) (List.Subset.refl _) hheader' hheader] at hmem
      rw [innerHeaders_unique (hsingle.header hheader) hinner hmem] at hdeep
      exact hfields c hdeep hwrite
  · intro target htarget
    exact h.nonzero target (mem_checksumsFrom.mpr
      (Or.inr ⟨header, hheader, Or.inr ⟨inner, hinner, htarget⟩⟩))

theorem first_octet (h : Kept bytes other fuel ip) :
    octetAt other ip.ipOffset = octetAt bytes ip.ipOffset := by
  refine h.octets ip.ipOffset (le_refl _) ?_
  intro c hc hwrite
  have hge := (checksumsFrom_ge hc).1 _ hwrite
  omega

theorem processIp_eq (h : Kept bytes other (fuel + 1) ip) (protocols : List Nat) :
    processIp other protocols ip = processIp bytes protocols ip := by
  refine processIp_congr h.length protocols ?_
  intro k hk hfour hbefore
  refine h.octets k hk ?_
  intro c hc hwrite
  rcases mem_checksumsFrom.mp hc with hcip | ⟨header', hheader', hcown | ⟨inner, hmem, hdeep⟩⟩
  · have hlow := (ipChecksum_writes hcip hwrite).1
    have hhigh := hfour (mem_ipChecksums hcip).1
    omega
  · have hlow := hbefore header' hheader'
    have hhigh := (headerChecksum_writes hcown hwrite).1
    omega
  · have hlow := hbefore header' hheader'
    have hhigh := (checksumsFrom_ge hdeep).1 k hwrite
    have hle := mem_innerHeaders_le hmem
    omega

theorem header_octet (h : Kept bytes other (fuel + 1) ip)
    (hheader : header ∈ processIp bytes walkProtocols ip) {k : Nat} (hk : header.l4Offset ≤ k)
    (hown : ∀ c ∈ headerChecksums bytes header, k ∉ c.writes)
    (hinner : ∀ inner ∈ innerHeaders bytes header, k ≤ inner.ipOffset + 1) :
    octetAt other k = octetAt bytes k := by
  have hbehind := (mem_processIp hheader).behind
  refine h.octet_eq hheader (by omega) ?_ hown hinner
  intro c hc hwrite
  have hhigh := (ipChecksum_writes hc hwrite).2
  omega

/-- The ports and the length of a UDP header, which stand before its field. -/
theorem udp_octet (h : Kept bytes other (fuel + 1) ip)
    (hheader : header ∈ processIp bytes walkProtocols ip) (hudp : header.protocol = 17) {k : Nat}
    (hlow : header.l4Offset ≤ k) (hhigh : k < header.l4Offset + 6) :
    octetAt other k = octetAt bytes k := by
  refine h.header_octet hheader hlow ?_ ?_
  · intro c hc hwrite
    have hfield := (headerChecksum_of_udp hudp hc).1
    have hle := hwrite.1
    omega
  · intro inner hinner
    rcases mem_innerHeaders hinner with ⟨-, hle⟩ | ⟨hprotocol, -⟩ <;> omega

/-- The flags and the protocol type of a GRE header, which stand before its field. -/
theorem gre_octet (h : Kept bytes other (fuel + 1) ip)
    (hheader : header ∈ processIp bytes walkProtocols ip) (hgre : header.protocol = 47) {k : Nat}
    (hlow : header.l4Offset ≤ k) (hhigh : k < header.l4Offset + 4) :
    octetAt other k = octetAt bytes k := by
  refine h.header_octet hheader hlow ?_ ?_
  · intro c hc hwrite
    have hfield := headerChecksum_of_gre hgre hc
    have hle := hwrite.1
    omega
  · intro inner hinner
    have hle := mem_innerHeaders_le hinner
    omega

theorem innerHeaders_eq (h : Kept bytes other (fuel + 1) ip) (hsingle : SinglePorts bytes (fuel + 1) ip)
    (hheader : header ∈ processIp bytes walkProtocols ip) :
    innerHeaders other header = innerHeaders bytes header := by
  by_cases hopens : header.protocol = 17 ∨ header.protocol = 47
  · refine innerHeaders_congr h.length (hsingle.header hheader) ?_
    intro k hk hudp hgre hbefore
    refine h.header_octet hheader hk ?_ fun inner hinner => le_trans (hbefore inner hinner)
      (Nat.le_add_right _ 1)
    intro c hc hwrite
    rcases hopens with hp | hp
    · obtain ⟨hoffset, hlen⟩ := headerChecksum_of_udp hp hc
      obtain ⟨hlow, hhigh⟩ := hwrite
      have hne := hudp hp
      omega
    · have hoffset := headerChecksum_of_gre hp hc
      have hlow := hwrite.1
      have hhigh := hgre hp
      omega
  · rw [not_or] at hopens
    rw [innerHeaders, innerHeaders, if_neg hopens.2, if_neg hopens.2, if_neg hopens.1,
      if_neg hopens.1]

theorem udp_zero (h : Kept bytes other (fuel + 1) ip)
    (hheader : header ∈ processIp bytes walkProtocols ip) (hudp : header.protocol = 17)
    (hversion : header.ipVersion = .ipv4)
    (hthere : rawPacketUdpTarget bytes header.l4Offset header.limit ≠ none) :
    rawPacketWord other (header.l4Offset + 6) = 0 ↔ rawPacketWord bytes (header.l4Offset + 6) = 0 := by
  obtain ⟨udp, hsome⟩ := Option.ne_none_iff_exists'.mp hthere
  obtain ⟨hpayload, hend, hlimit, -⟩ := udpTarget_payloadOffset hsome
  have hspec := mem_processIp hheader
  have hfits := hspec.limit_le
  by_cases hzero : rawPacketWord bytes (header.l4Offset + 6) = 0
  · have hnone : headerChecksums bytes header = [] := by
      apply List.eq_nil_iff_forall_not_mem.mpr
      intro c hc
      have hoffset := (headerChecksum_of_udp hudp hc).1
      rcases mem_headerChecksums.mp hc with ⟨t, ht, rfl⟩ | ⟨t, ht, rfl⟩ | ⟨t, ht, rfl⟩ | ⟨t, ht, rfl⟩
      · have hp := (mem_addIcmpTarget ht).1
        rw [hversion, icmpProtocol] at hp
        omega
      · have hp := (mem_addSctpTarget ht).1
        omega
      · rcases mem_addTransportTarget ht with ⟨-, -, hnonzero⟩ | ⟨hp, -⟩
        · exact hnonzero hversion hzero
        · omega
      · have hp := (mem_addGreTarget ht).1
        omega
    have hsame : ∀ k, header.l4Offset ≤ k → k < header.l4Offset + 8 →
        octetAt other k = octetAt bytes k := by
      intro k hlow hhigh
      refine h.header_octet hheader hlow (by simp [hnone]) ?_
      intro inner hinner
      rcases mem_innerHeaders hinner with ⟨-, hle⟩ | ⟨hp, -⟩ <;> omega
    rw [word_congr (hsame (header.l4Offset + 6) (by omega) (by omega))
      (hsame (header.l4Offset + 6 + 1) (by omega) (by omega))]
  · have htarget : (⟨header.l4Offset + 6, header.ipOffset, header.ipVersion, header.l4Offset,
        udp.endOffset - header.l4Offset, header.protocol⟩ : RawPacketTransportChecksumTarget)
        ∈ addTransportTarget bytes header := by
      rw [addTransportTarget, if_neg (fun hp => hp.2 hudp), if_neg (by omega), if_pos hudp, hsome]
      simp only
      rw [if_neg (fun hword => hzero hword.2)]
      exact List.mem_singleton.mpr rfl
    have hmem : RawChecksum.transport ⟨header.l4Offset + 6, header.ipOffset, header.ipVersion,
        header.l4Offset, udp.endOffset - header.l4Offset, header.protocol⟩
        ∈ checksumsFrom bytes (fuel + 1) ip :=
      mem_checksumsFrom.mpr (Or.inr ⟨header, hheader, Or.inl
        (mem_headerChecksums.mpr (Or.inr (Or.inr (Or.inl ⟨_, htarget, rfl⟩))))⟩)
    have hnonzero := h.nonzero _ hmem hudp hversion
    exact ⟨fun hother => absurd hother hnonzero, fun hword => absurd hword hzero⟩

theorem headerAlike (h : Kept bytes other (fuel + 1) ip)
    (hheader : header ∈ processIp bytes walkProtocols ip) : HeaderAlike bytes other header where
  length := h.length
  udp := fun hudp => udpTarget_congr h.length fun _ hlow hhigh =>
    h.udp_octet hheader hudp hlow hhigh
  zero := fun hudp hversion hthere => h.udp_zero hheader hudp hversion hthere
  tcp := by
    intro htcp
    refine tcpHeaderOffset_congr h.length ?_
    refine h.header_octet hheader (by omega) ?_ ?_
    · intro c hc hwrite
      have hoffset := headerChecksum_of_tcp htcp hc
      have hlow := hwrite.1
      omega
    · intro inner hinner
      rcases mem_innerHeaders hinner with ⟨hp, -⟩ | ⟨hp, -⟩ <;> omega
  gre := fun hgre => grePayloadTarget_congr h.length fun _ hlow hhigh =>
    h.gre_octet hheader hgre hlow hhigh
  flags := fun hgre => word_congr (h.gre_octet hheader hgre (le_refl _) (by omega))
    (h.gre_octet hheader hgre (by omega) (by omega))

theorem process_eq {τ : Type} {c : Collector τ} (hlocal : c.Local)
    (h : Kept bytes other fuel ip) (hsingle : SinglePorts bytes fuel ip)
    (hprotocols : c.protocols ⊆ walkProtocols) :
    c.process other fuel ip = c.process bytes fuel ip := by
  induction fuel generalizing ip with
  | zero => rfl
  | succ fuel ih =>
      rw [Collector.process, Collector.process, h.processIp_eq,
        hlocal.addIp bytes other ip h.length h.first_octet]
      congr 1
      refine List.flatMap_congr ?_
      intro header hmem
      have hheader := ((mem_processIp_iff hprotocols).mp hmem).1
      have halike := h.headerAlike hheader
      rw [hlocal.add bytes other header halike, hlocal.follows bytes other header halike,
        h.innerHeaders_eq hsingle hheader]
      split
      · congr 1
        refine List.flatMap_congr ?_
        intro inner hinner
        exact ih (h.inner hsingle hheader hinner) (hsingle.inner hheader hinner)
      · rfl

end Kept

/-! ## The walks find the checksums -/

section Collectors

variable {τ : Type} {c : Collector τ} {kind : τ → RawChecksum}

theorem Collector.checksum_of_mem (hprotocols : c.protocols ⊆ walkProtocols)
    (hip : ∀ ip, c.addIp bytes ip = [])
    (hadd : ∀ header, ∀ x ∈ c.add bytes header, kind x ∈ headerChecksums bytes header) {fuel : Nat}
    {ip : RawIpHeader} {x : τ} (h : x ∈ c.process bytes fuel ip) :
    kind x ∈ checksumsFrom bytes fuel ip := by
  induction fuel generalizing ip with
  | zero => cases h
  | succ fuel ih =>
      rcases Collector.mem_process_succ.mp h with h | ⟨header, hheader, hown | ⟨-, inner, hinner, hdeep⟩⟩
      · rw [hip] at h
        cases h
      · exact mem_checksumsFrom.mpr (Or.inr ⟨header, ((mem_processIp_iff hprotocols).mp hheader).1,
          Or.inl (hadd header x hown)⟩)
      · exact mem_checksumsFrom.mpr (Or.inr ⟨header, ((mem_processIp_iff hprotocols).mp hheader).1,
          Or.inr ⟨inner, hinner, ih hdeep⟩⟩)

theorem Collector.mem_of_checksum (hprotocols : c.protocols ⊆ walkProtocols)
    (hudp : 17 ∈ c.protocols) (hgre : 47 ∈ c.protocols)
    (hfollows : ∀ header, c.follows bytes header = true)
    (hip : ∀ ip x, kind x ∉ ipChecksums bytes ip)
    (hadd : ∀ header x, kind x ∈ headerChecksums bytes header →
      x ∈ c.add bytes header ∧ (header.ipVersion = .ipv6 → header.protocol ∈ c.protocols))
    {fuel : Nat} {ip : RawIpHeader} {x : τ} (h : kind x ∈ checksumsFrom bytes fuel ip) :
    x ∈ c.process bytes fuel ip := by
  induction fuel generalizing ip with
  | zero => cases h
  | succ fuel ih =>
      rcases mem_checksumsFrom.mp h with h | ⟨header, hheader, hown | ⟨inner, hinner, hdeep⟩⟩
      · exact absurd h (hip ip x)
      · obtain ⟨hmem, hprotocol⟩ := hadd header x hown
        refine Collector.mem_process_succ.mpr (Or.inr ⟨header, ?_, Or.inl hmem⟩)
        refine (mem_processIp_iff hprotocols).mpr ⟨hheader, ?_⟩
        intro hversion
        exact hprotocol ((mem_processIp hheader).version.trans hversion)
      · refine Collector.mem_process_succ.mpr
          (Or.inr ⟨header, ?_, Or.inr ⟨hfollows header, inner, hinner, ih hdeep⟩⟩)
        refine (mem_processIp_iff hprotocols).mpr ⟨hheader, ?_⟩
        intro _
        rcases mem_innerHeaders hinner with ⟨hp, -⟩ | ⟨hp, -⟩
        · rw [hp]
          exact hudp
        · rw [hp]
          exact hgre

end Collectors

theorem icmpCollector_protocols : icmpCollector.protocols ⊆ walkProtocols := by
  show [58, 17, 47] ⊆ [58, 132, 6, 17, 47]
  decide

theorem sctpCollector_protocols : sctpCollector.protocols ⊆ walkProtocols := by
  show [132, 17, 47] ⊆ [58, 132, 6, 17, 47]
  decide

theorem transportCollector_protocols : transportCollector.protocols ⊆ walkProtocols := by
  show [6, 17, 47] ⊆ [58, 132, 6, 17, 47]
  decide

theorem greCollector_protocols : greCollector.protocols ⊆ walkProtocols := by
  show [47, 17] ⊆ [58, 132, 6, 17, 47]
  decide

variable {fuel : Nat} {ip : RawIpHeader}

theorem mem_icmpCollector {target : RawPacketIcmpChecksumTarget} :
    target ∈ icmpCollector.process bytes fuel ip ↔
      .icmp target ∈ checksumsFrom bytes fuel ip := by
  constructor
  · refine Collector.checksum_of_mem icmpCollector_protocols (fun _ => rfl) ?_
    intro header x hx
    exact mem_headerChecksums.mpr (Or.inl ⟨x, hx, rfl⟩)
  · refine Collector.mem_of_checksum icmpCollector_protocols (by decide) (by decide) (fun _ => rfl)
      ?_ ?_
    · intro ip x hx
      obtain ⟨-, headerLength, -, hkind⟩ := mem_ipChecksums hx
      cases hkind
    · intro header x hx
      rcases mem_headerChecksums.mp hx with ⟨t, ht, hkind⟩ | ⟨t, -, hkind⟩ | ⟨t, -, hkind⟩ | ⟨t, -, hkind⟩
      · cases hkind
        refine ⟨ht, ?_⟩
        intro hversion
        have hp := (mem_addIcmpTarget ht).1
        rw [hversion] at hp
        rw [hp]
        decide
      all_goals cases hkind

theorem mem_sctpCollector {target : RawPacketSctpChecksumTarget} :
    target ∈ sctpCollector.process bytes fuel ip ↔
      .sctp target ∈ checksumsFrom bytes fuel ip := by
  constructor
  · refine Collector.checksum_of_mem sctpCollector_protocols (fun _ => rfl) ?_
    intro header x hx
    exact mem_headerChecksums.mpr (Or.inr (Or.inl ⟨x, hx, rfl⟩))
  · refine Collector.mem_of_checksum sctpCollector_protocols (by decide) (by decide) (fun _ => rfl)
      ?_ ?_
    · intro ip x hx
      obtain ⟨-, headerLength, -, hkind⟩ := mem_ipChecksums hx
      cases hkind
    · intro header x hx
      rcases mem_headerChecksums.mp hx with ⟨t, -, hkind⟩ | ⟨t, ht, hkind⟩ | ⟨t, -, hkind⟩ | ⟨t, -, hkind⟩
      · cases hkind
      · cases hkind
        refine ⟨ht, fun _ => ?_⟩
        rw [(mem_addSctpTarget ht).1]
        decide
      all_goals cases hkind

theorem mem_transportCollector {target : RawPacketTransportChecksumTarget} :
    target ∈ transportCollector.process bytes fuel ip ↔
      .transport target ∈ checksumsFrom bytes fuel ip := by
  constructor
  · refine Collector.checksum_of_mem transportCollector_protocols (fun _ => rfl) ?_
    intro header x hx
    exact mem_headerChecksums.mpr (Or.inr (Or.inr (Or.inl ⟨x, hx, rfl⟩)))
  · refine Collector.mem_of_checksum transportCollector_protocols (by decide) (by decide)
      (fun _ => rfl) ?_ ?_
    · intro ip x hx
      obtain ⟨-, headerLength, -, hkind⟩ := mem_ipChecksums hx
      cases hkind
    · intro header x hx
      rcases mem_headerChecksums.mp hx with ⟨t, -, hkind⟩ | ⟨t, -, hkind⟩ | ⟨t, ht, hkind⟩ | ⟨t, -, hkind⟩
      · cases hkind
      · cases hkind
      · cases hkind
        refine ⟨ht, fun _ => ?_⟩
        rcases mem_addTransportTarget ht with ⟨hp, -⟩ | ⟨hp, -⟩
        · rw [hp]
          decide
        · rw [hp]
          decide
      · cases hkind

theorem mem_greCollector {target : RawPacketGreChecksumTarget}
    (h : target ∈ greCollector.process bytes fuel ip) : .gre target ∈ checksumsFrom bytes fuel ip := by
  refine Collector.checksum_of_mem greCollector_protocols (fun _ => rfl) ?_ h
  intro header x hx
  refine mem_headerChecksums.mpr (Or.inr (Or.inr (Or.inr ⟨x, ?_, rfl⟩)))
  change x ∈ if grePayloadInside bytes header then addGreTarget bytes header else [] at hx
  split at hx
  · exact hx
  · cases hx

end Chain

/-! ## The walks are local -/

theorem addIcmpTarget_congr {bytes other : Bytes} {header : RawL4Header}
    (h : HeaderAlike bytes other header) : addIcmpTarget other header = addIcmpTarget bytes header := by
  simp only [addIcmpTarget, h.length, hasBytes_congr h.length]

theorem addSctpTarget_congr {bytes other : Bytes} {header : RawL4Header}
    (h : HeaderAlike bytes other header) : addSctpTarget other header = addSctpTarget bytes header := by
  simp only [addSctpTarget, h.length, hasBytes_congr h.length]

theorem addGreTarget_congr {bytes other : Bytes} {header : RawL4Header}
    (h : HeaderAlike bytes other header) : addGreTarget other header = addGreTarget bytes header := by
  by_cases hgre : header.protocol = 47
  · simp only [addGreTarget, h.length, hasBytes_congr h.length, h.gre hgre, h.flags hgre]
  · rw [addGreTarget, addGreTarget, if_pos (Or.inl hgre), if_pos (Or.inl hgre)]

theorem addTransportTarget_congr {bytes other : Bytes} {header : RawL4Header}
    (h : HeaderAlike bytes other header) :
    addTransportTarget other header = addTransportTarget bytes header := by
  rw [addTransportTarget, addTransportTarget, h.length]
  split
  · rfl
  rename_i hprotocol
  split
  · rfl
  split
  · rename_i hudp
    rw [h.udp hudp]
    cases hsome : rawPacketUdpTarget bytes header.l4Offset header.limit with
    | none => rfl
    | some udp =>
        have hthere : rawPacketUdpTarget bytes header.l4Offset header.limit ≠ none := by
          rw [hsome]
          exact Option.some_ne_none udp
        have hzero : (header.ipVersion = .ipv4 ∧ rawPacketWord other (header.l4Offset + 6) = 0) ↔
            (header.ipVersion = .ipv4 ∧ rawPacketWord bytes (header.l4Offset + 6) = 0) :=
          and_congr_right fun hversion => h.zero hudp hversion hthere
        simp only [hzero]
  · rename_i hudp
    rw [not_and_or, not_not, not_not] at hprotocol
    rw [h.tcp (hprotocol.resolve_right hudp)]

theorem grePayloadInside_congr {bytes other : Bytes} {header : RawL4Header}
    (h : HeaderAlike bytes other header) (hgre : header.protocol = 47) :
    grePayloadInside other header = grePayloadInside bytes header := by
  rw [grePayloadInside, grePayloadInside, h.gre hgre]

theorem icmpCollector_local : icmpCollector.Local where
  addIp := fun _ _ _ _ _ => rfl
  add := fun _ _ _ h => addIcmpTarget_congr h
  follows := fun _ _ _ _ => rfl

theorem sctpCollector_local : sctpCollector.Local where
  addIp := fun _ _ _ _ _ => rfl
  add := fun _ _ _ h => addSctpTarget_congr h
  follows := fun _ _ _ _ => rfl

theorem transportCollector_local : transportCollector.Local where
  addIp := fun _ _ _ _ _ => rfl
  add := fun _ _ _ h => addTransportTarget_congr h
  follows := fun _ _ _ _ => rfl

theorem greCollector_local : greCollector.Local where
  addIp := fun _ _ _ _ _ => rfl
  add := by
    intro bytes other header h
    show (if grePayloadInside other header then addGreTarget other header else [])
      = if grePayloadInside bytes header then addGreTarget bytes header else []
    rw [addGreTarget_congr h]
    by_cases hgre : header.protocol = 47
    · rw [grePayloadInside_congr h hgre]
    · have hnone : addGreTarget bytes header = [] := by
        rw [addGreTarget, if_pos (Or.inl hgre)]
      rw [hnone, ite_self, ite_self]
  follows := by
    intro bytes other header h
    show (header.protocol ≠ 47 || grePayloadInside other header)
      = (header.protocol ≠ 47 || grePayloadInside bytes header)
    by_cases hgre : header.protocol = 47
    · rw [grePayloadInside_congr h hgre]
    · simp [hgre]

theorem checksumCollector_local : checksumCollector.Local where
  addIp := by
    intro bytes other ip hlength hfirst
    show ipChecksums other ip = ipChecksums bytes ip
    rw [ipChecksums, ipChecksums, headerLengthAt_congr hlength hfirst]
  add := by
    intro bytes other header h
    show headerChecksums other header = headerChecksums bytes header
    rw [headerChecksums, headerChecksums, addIcmpTarget_congr h, addSctpTarget_congr h,
      addTransportTarget_congr h, addGreTarget_congr h]
  follows := fun _ _ _ _ => rfl

end TrexWebui
