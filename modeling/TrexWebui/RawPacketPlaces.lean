import TrexWebui.RawPacketWalks

/-!
# Where the headers of a raw packet lie

Each parser reads a header between its start and what it finds behind it. So a
header lies behind the one that leads to it, and two packets that agree up to
what a parser finds give it the same result.
-/

namespace TrexWebui

open PyStr Octets

/-! ## The internet header -/

section Ip

variable {bytes : Bytes}

theorem hasBytes_le {offset length : Nat} (h : rawPacketHasBytes bytes offset length) :
    offset + length ≤ bytes.length := h.2

theorem headerLength_spec {offset headerLength : Nat}
    (h : rawIpv4HeaderLengthAt bytes offset = some headerLength) :
    20 ≤ headerLength ∧ headerLength % 2 = 0 ∧ offset + headerLength ≤ bytes.length := by
  rw [rawIpv4HeaderLengthAt] at h
  split at h
  · cases h
  · simp only at h
    split at h
    · cases h
    · rename_i hlength
      cases h
      rw [not_or, not_or, not_not] at hlength
      have hle := hasBytes_le hlength.2.2
      omega

/-- The header that follows an IPv4 header, in a packet that is there to its end. -/
structure Ipv4Spec (bytes : Bytes) (offset : Nat) (header : RawL4Header) : Prop where
  version : header.ipVersion = .ipv4
  ip : header.ipOffset = offset
  length : ∃ headerLength, rawIpv4HeaderLengthAt bytes offset = some headerLength
    ∧ header.l4Offset = offset + headerLength
  le_limit : header.l4Offset ≤ header.limit
  limit_le : header.limit ≤ bytes.length
  segment : header.limit - header.l4Offset ≤ 0xFFFF

theorem mem_processIpv4 {offset : Nat} {header : RawL4Header}
    (h : header ∈ processIpv4 bytes offset) : Ipv4Spec bytes offset header := by
  rw [processIpv4] at h
  split at h
  · cases h
  · rename_i headerLength hlength
    split at h
    · cases h
    · simp only at h
      split at h
      · cases h
      · rename_i htotal
        rw [not_or, not_not, not_lt] at htotal
        obtain ⟨hle, hfits⟩ := htotal
        have hword : rawPacketWord bytes (offset + 2) < 65536 := be16At_lt bytes (offset + 2)
        have hend := hasBytes_le hfits
        rw [List.mem_singleton.mp h]
        exact ⟨rfl, rfl, ⟨headerLength, hlength, rfl⟩, by simpa using hle, hend, by
          show offset + rawPacketWord bytes (offset + 2) - (offset + headerLength) ≤ 0xFFFF
          omega⟩

theorem ipv6PacketEnd_le (offset : Nat) : rawIpv6PacketEnd bytes offset ≤ bytes.length := by
  rw [rawIpv6PacketEnd]
  split
  · exact le_refl _
  · simp only
    split
    · rename_i h
      have hle := hasBytes_le h.2
      omega
    · exact le_refl _

theorem extensionHeaderLength_pos {header offset extensionLength : Nat}
    (h : rawIpv6ExtensionHeaderLength bytes header offset = some extensionLength) :
    8 ≤ extensionLength := by
  rw [rawIpv6ExtensionHeaderLength] at h
  split_ifs at h with h1 h2 h3 h4 h5 h6
  · cases h
    exact le_refl 8
  · simp only at h
    split_ifs at h with hlength
    cases h
    omega
  · simp only at h
    split_ifs at h with hlength
    cases h
    exact hlength.1

/-- The protocols that the walks ask for; none of them is an extension header. -/
def walkProtocols : List Nat := [58, 132, 6, 17, 47]

theorem extensionHeaderLength_final {protocol : Nat} (h : protocol ∈ walkProtocols) (offset : Nat) :
    rawIpv6ExtensionHeaderLength bytes protocol offset = none := by
  simp only [walkProtocols, List.mem_cons, List.not_mem_nil, or_false] at h
  rcases h with rfl | rfl | rfl | rfl | rfl <;> rfl

theorem ipv6L4Loop_spec {protocol limit rounds nextHeader offset : Nat}
    {target : RawPacketL4Target}
    (h : rawPacketIpv6L4Loop bytes protocol limit rounds nextHeader offset = some target) :
    target.limit = limit ∧ offset ≤ target.offset ∧ target.offset < limit := by
  induction rounds generalizing nextHeader offset with
  | zero => cases h
  | succ rounds ih =>
      rw [rawPacketIpv6L4Loop] at h
      split at h
      · split at h
        · rename_i hfits
          cases h
          exact ⟨rfl, le_refl _, hfits.2⟩
        · cases h
      · split at h
        · cases h
        · split at h
          · cases h
          · obtain ⟨hlimit, hle, hlt⟩ := ih h
            exact ⟨hlimit, by omega, hlt⟩

theorem ipv6L4Loop_unique {p q limit rounds nextHeader offset : Nat} (hp : p ∈ walkProtocols)
    (hq : q ∈ walkProtocols) {s t : RawPacketL4Target}
    (hs : rawPacketIpv6L4Loop bytes p limit rounds nextHeader offset = some s)
    (ht : rawPacketIpv6L4Loop bytes q limit rounds nextHeader offset = some t) : p = q := by
  induction rounds generalizing nextHeader offset with
  | zero => cases hs
  | succ rounds ih =>
      rw [rawPacketIpv6L4Loop] at hs ht
      by_cases hnextP : nextHeader = p
      · by_cases hnextQ : nextHeader = q
        · exact hnextP.symm.trans hnextQ
        · rw [if_neg hnextQ, hnextP, extensionHeaderLength_final hp] at ht
          cases ht
      · by_cases hnextQ : nextHeader = q
        · rw [if_neg hnextP, hnextQ, extensionHeaderLength_final hq] at hs
          cases hs
        · rw [if_neg hnextP] at hs
          rw [if_neg hnextQ] at ht
          cases hextension : rawIpv6ExtensionHeaderLength bytes nextHeader offset with
          | none =>
              rw [hextension] at hs
              cases hs
          | some extensionLength =>
              rw [hextension] at hs ht
              simp only at hs ht
              split at hs
              · cases hs
              · rename_i hfits
                rw [if_neg hfits] at ht
                exact ih hs ht

theorem ipv6L4Offset_spec {offset protocol : Nat} {target : RawPacketL4Target}
    (h : rawPacketIpv6L4Offset bytes offset protocol = some target) :
    offset + 40 ≤ target.offset ∧ target.offset < target.limit ∧ target.limit ≤ bytes.length := by
  rw [rawPacketIpv6L4Offset] at h
  split at h
  · cases h
  · obtain ⟨hlimit, hle, hlt⟩ := ipv6L4Loop_spec h
    rw [hlimit]
    exact ⟨hle, hlt, ipv6PacketEnd_le offset⟩

theorem ipv6L4Offset_unique {offset p q : Nat} (hp : p ∈ walkProtocols) (hq : q ∈ walkProtocols)
    {s t : RawPacketL4Target} (hs : rawPacketIpv6L4Offset bytes offset p = some s)
    (ht : rawPacketIpv6L4Offset bytes offset q = some t) : p = q := by
  rw [rawPacketIpv6L4Offset] at hs ht
  split at hs
  · cases hs
  · rename_i hheader
    rw [if_neg hheader] at ht
    exact ipv6L4Loop_unique hp hq hs ht

theorem mem_processIpv6 {offset : Nat} {protocols : List Nat} {header : RawL4Header} :
    header ∈ processIpv6 bytes protocols offset ↔
      header.ipVersion = .ipv6 ∧ header.ipOffset = offset ∧ header.protocol ∈ protocols
        ∧ rawPacketIpv6L4Offset bytes offset header.protocol
          = some ⟨header.limit, header.l4Offset⟩ := by
  have hnone : ¬rawPacketHasBytes bytes offset 40 ∨ octetAt bytes offset / 16 ≠ 6 → ∀ protocol,
      rawPacketIpv6L4Offset bytes offset protocol = none := by
    intro h protocol
    rw [rawPacketIpv6L4Offset, if_pos h]
  rw [processIpv6]
  split
  · rename_i h
    constructor
    · intro hmem
      cases hmem
    · rintro ⟨-, -, -, hsome⟩
      rw [hnone h] at hsome
      cases hsome
  · rw [List.mem_filterMap]
    constructor
    · rintro ⟨protocol, hmem, hmap⟩
      obtain ⟨target, hsome, rfl⟩ := Option.map_eq_some_iff.mp hmap
      exact ⟨rfl, rfl, hmem, hsome⟩
    · obtain ⟨version, ipOffset, protocol, l4Offset, limit⟩ := header
      rintro ⟨rfl, rfl, hmem, hsome⟩
      exact ⟨protocol, hmem, Option.map_eq_some_iff.mpr ⟨_, hsome, rfl⟩⟩

/-- What follows an internet header lies behind it, inside the packet. -/
structure L4Spec (bytes : Bytes) (ip : RawIpHeader) (header : RawL4Header) : Prop where
  version : header.ipVersion = ip.ipVersion
  ipOffset : header.ipOffset = ip.ipOffset
  behind : ip.ipOffset + 20 ≤ header.l4Offset
  le_limit : header.l4Offset ≤ header.limit
  limit_le : header.limit ≤ bytes.length
  segment : ip.ipVersion = .ipv4 → header.limit - header.l4Offset ≤ 0xFFFF
  addresses : ip.ipVersion = .ipv6 → ip.ipOffset + 40 ≤ header.l4Offset

theorem mem_processIp {protocols : List Nat} {ip : RawIpHeader} {header : RawL4Header}
    (h : header ∈ processIp bytes protocols ip) : L4Spec bytes ip header := by
  obtain ⟨version, offset⟩ := ip
  cases version with
  | ipv4 =>
      change header ∈ processIpv4 bytes offset at h
      obtain ⟨hversion, hip, ⟨headerLength, hlength, hl4⟩, hle, hlimit, hsegment⟩ := mem_processIpv4 h
      have hmin := (headerLength_spec hlength).1
      have hbehind : offset + 20 ≤ header.l4Offset := by omega
      exact ⟨hversion, hip, hbehind, hle, hlimit, fun _ => hsegment, fun hsix => by cases hsix⟩
  | ipv6 =>
      obtain ⟨hversion, hip, -, hsome⟩ := mem_processIpv6.mp h
      obtain ⟨hl4, hlt, hlimit⟩ := ipv6L4Offset_spec hsome
      have hbehind : offset + 20 ≤ header.l4Offset := by
        simp only at hl4
        omega
      exact ⟨hversion, hip, hbehind, hlt.le, hlimit, (fun hfour => by cases hfour), fun _ => hl4⟩

theorem mem_processIp_iff {protocols : List Nat} (hprotocols : protocols ⊆ walkProtocols)
    {ip : RawIpHeader} {header : RawL4Header} :
    header ∈ processIp bytes protocols ip ↔
      header ∈ processIp bytes walkProtocols ip
        ∧ (ip.ipVersion = .ipv6 → header.protocol ∈ protocols) := by
  obtain ⟨version, offset⟩ := ip
  cases version with
  | ipv4 =>
      constructor
      · intro h
        exact ⟨h, fun hversion => by cases hversion⟩
      · intro h
        exact h.1
  | ipv6 =>
      show header ∈ processIpv6 bytes protocols offset ↔
        header ∈ processIpv6 bytes walkProtocols offset ∧ _
      rw [mem_processIpv6, mem_processIpv6]
      constructor
      · rintro ⟨hversion, hip, hmem, hsome⟩
        exact ⟨⟨hversion, hip, hprotocols hmem, hsome⟩, fun _ => hmem⟩
      · rintro ⟨⟨hversion, hip, -, hsome⟩, hmem⟩
        exact ⟨hversion, hip, hmem rfl, hsome⟩

theorem processIp_unique {ps qs : List Nat} (hps : ps ⊆ walkProtocols) (hqs : qs ⊆ walkProtocols)
    {ip : RawIpHeader} {h₁ h₂ : RawL4Header} (hmem₁ : h₁ ∈ processIp bytes ps ip)
    (hmem₂ : h₂ ∈ processIp bytes qs ip) : h₁ = h₂ := by
  obtain ⟨version, offset⟩ := ip
  cases version with
  | ipv4 =>
      change h₁ ∈ processIpv4 bytes offset at hmem₁
      change h₂ ∈ processIpv4 bytes offset at hmem₂
      rw [processIpv4] at hmem₁ hmem₂
      split at hmem₁
      · cases hmem₁
      · rename_i headerLength hlength
        rw [hlength] at hmem₂
        simp only at hmem₁ hmem₂
        split at hmem₁
        · cases hmem₁
        · rename_i hfragment
          rw [if_neg hfragment] at hmem₂
          split at hmem₁
          · cases hmem₁
          · rename_i htotal
            rw [if_neg htotal] at hmem₂
            rw [List.mem_singleton.mp hmem₁, List.mem_singleton.mp hmem₂]
  | ipv6 =>
      obtain ⟨hversion₁, hip₁, hp, hsome₁⟩ := mem_processIpv6.mp hmem₁
      obtain ⟨hversion₂, hip₂, hq, hsome₂⟩ := mem_processIpv6.mp hmem₂
      have hprotocol := ipv6L4Offset_unique (hps hp) (hqs hq) hsome₁ hsome₂
      rw [hprotocol, hsome₂] at hsome₁
      obtain ⟨v₁, ip₁, p₁, l₁, e₁⟩ := h₁
      obtain ⟨v₂, ip₂, p₂, l₂, e₂⟩ := h₂
      cases hsome₁
      simp_all

end Ip

/-! ## Tunnels -/

section Tunnels

variable {bytes : Bytes}

theorem vlanLoop_le (rounds : Nat) (target : RawPacketL3Target) :
    target.l3Offset ≤ (rawPacketVlanLoop bytes rounds target).l3Offset := by
  induction rounds generalizing target with
  | zero => exact le_refl _
  | succ rounds ih =>
      rw [rawPacketVlanLoop]
      split
      · have hnext := ih ⟨rawPacketWord bytes (target.l3Offset + 2), target.l3Offset + 4⟩
        exact le_trans (Nat.le_add_right _ 4) hnext
      · exact le_refl _

theorem mplsLoop_le (rounds l3Offset : Nat) : l3Offset ≤ rawPacketMplsLoop bytes rounds l3Offset := by
  induction rounds generalizing l3Offset with
  | zero => exact le_refl _
  | succ rounds ih =>
      rw [rawPacketMplsLoop]
      split
      · split
        · exact Nat.le_add_right _ 4
        · exact le_trans (Nat.le_add_right _ 4) (ih _)
      · exact le_refl _

theorem ethernetL3Target_spec {ethernetOffset : Nat} {target : RawPacketL3Target}
    (h : rawPacketEthernetL3Target bytes ethernetOffset = some target) :
    ethernetOffset + 14 ≤ target.l3Offset ∧ ethernetOffset + 14 ≤ bytes.length := by
  rw [rawPacketEthernetL3Target] at h
  split at h
  · cases h
  · rename_i hfits
    rw [not_not] at hfits
    have hle := hasBytes_le hfits
    have hvlan := @vlanLoop_le bytes 4
      ⟨rawPacketWord bytes (ethernetOffset + 12), ethernetOffset + 14⟩
    simp only at h
    split at h
    · cases h
      exact ⟨le_trans hvlan (mplsLoop_le 8 _), hle⟩
    · cases h
      exact ⟨hvlan, hle⟩

theorem mem_ethernetHeader {ethernetOffset : Nat} {ip : RawIpHeader}
    (h : ip ∈ ethernetHeader bytes ethernetOffset) :
    (∃ etherType, rawPacketEthernetL3Target bytes ethernetOffset = some ⟨etherType, ip.ipOffset⟩)
      ∧ ∀ other ∈ ethernetHeader bytes ethernetOffset, other = ip := by
  rw [ethernetHeader] at h ⊢
  cases htarget : rawPacketEthernetL3Target bytes ethernetOffset with
  | none =>
      rw [htarget] at h
      cases h
  | some target =>
      rw [htarget] at h
      simp only at h ⊢
      split_ifs at h ⊢ with h4 h6
      · rw [List.mem_singleton.mp h]
        exact ⟨⟨target.etherType, rfl⟩, fun other hother => List.mem_singleton.mp hother⟩
      · rw [List.mem_singleton.mp h]
        exact ⟨⟨target.etherType, rfl⟩, fun other hother => List.mem_singleton.mp hother⟩
      · cases h

theorem gtpuLoop_le {messageEnd rounds next payloadOffset result : Nat}
    (h : rawPacketGtpuLoop bytes messageEnd rounds next payloadOffset = some result) :
    payloadOffset ≤ result := by
  induction rounds generalizing next payloadOffset with
  | zero =>
      cases h
      exact le_refl _
  | succ rounds ih =>
      rw [rawPacketGtpuLoop] at h
      split_ifs at h
      · cases h
        exact le_refl _
      · simp only at h
        split_ifs at h
        have hle := ih h
        omega

theorem gtpuOptionalFields_le {flags payloadOffset messageEnd next first : Nat}
    (h : rawPacketGtpuOptionalFields bytes flags payloadOffset messageEnd = some (next, first)) :
    payloadOffset ≤ first := by
  rw [rawPacketGtpuOptionalFields] at h
  split_ifs at h
  · cases h
    omega
  · cases h
    exact le_refl _

theorem gtpuPayloadOffset_le {gtpuOffset limit result : Nat}
    (h : rawPacketGtpuPayloadOffset bytes gtpuOffset limit = some result) :
    gtpuOffset + 8 ≤ result := by
  rw [rawPacketGtpuPayloadOffset] at h
  split_ifs at h
  simp only at h
  split_ifs at h
  all_goals
    obtain ⟨⟨next, first⟩, hfirst, h⟩ := Option.bind_eq_some_iff.mp h
    obtain ⟨payloadOffset, hloop, h⟩ := Option.bind_eq_some_iff.mp h
    split_ifs at h
    cases h
    exact le_trans (gtpuOptionalFields_le hfirst) (gtpuLoop_le hloop)

theorem mem_gtpuHeader {udp : RawPacketUdpTarget} {ip : RawIpHeader} (h : ip ∈ gtpuHeader bytes udp) :
    rawPacketGtpuPayloadOffset bytes udp.payloadOffset udp.endOffset = some ip.ipOffset
      ∧ ∀ other ∈ gtpuHeader bytes udp, other = ip := by
  rw [gtpuHeader] at h ⊢
  cases hpayload : rawPacketGtpuPayloadOffset bytes udp.payloadOffset udp.endOffset with
  | none =>
      rw [hpayload] at h
      cases h
  | some payloadOffset =>
      rw [hpayload] at h
      simp only at h ⊢
      split_ifs at h ⊢ with h4 h6
      · rw [List.mem_singleton.mp h]
        exact ⟨rfl, fun other hother => List.mem_singleton.mp hother⟩
      · rw [List.mem_singleton.mp h]
        exact ⟨rfl, fun other hother => List.mem_singleton.mp hother⟩
      · cases h

theorem greOptionalField_le {flag : Prop} [Decidable flag] {offset next : Nat}
    (h : greOptionalField bytes flag offset = some next) :
    offset ≤ next ∧ (flag → offset + 4 ≤ next) := by
  rw [greOptionalField] at h
  split_ifs at h with hflag
  · cases h
    exact ⟨Nat.le_add_right _ 4, fun _ => le_refl _⟩
  · cases h
    exact ⟨le_refl _, fun hset => absurd hset hflag⟩

theorem grePayloadTarget_le {greOffset : Nat} {gre : RawPacketGrePayloadTarget}
    (h : rawPacketGrePayloadTarget bytes greOffset = some gre) :
    greOffset + 4 ≤ gre.payloadOffset
      ∧ (rawPacketWord bytes greOffset &&& 0x8000 ≠ 0 → greOffset + 8 ≤ gre.payloadOffset) := by
  rw [rawPacketGrePayloadTarget] at h
  split at h
  · cases h
  · simp only at h
    split at h
    · cases h
    · obtain ⟨afterChecksum, hchecksum, h⟩ := Option.bind_eq_some_iff.mp h
      obtain ⟨afterKey, hkey, h⟩ := Option.bind_eq_some_iff.mp h
      obtain ⟨payloadOffset, hsequence, h⟩ := Option.bind_eq_some_iff.mp h
      cases h
      have hfirst := greOptionalField_le hchecksum
      have hsecond := (greOptionalField_le hkey).1
      have hthird := (greOptionalField_le hsequence).1
      have hle : greOffset + 4 ≤ payloadOffset := by omega
      refine ⟨hle, ?_⟩
      intro hflag
      have hafter := hfirst.2 hflag
      show greOffset + 8 ≤ payloadOffset
      omega

theorem udpTarget_payloadOffset {udpOffset limit : Nat} {udp : RawPacketUdpTarget}
    (h : rawPacketUdpTarget bytes udpOffset limit = some udp) :
    udp.payloadOffset = udpOffset + 8 ∧ udp.payloadOffset ≤ udp.endOffset
      ∧ udp.endOffset ≤ limit ∧ udp.endOffset ≤ bytes.length := by
  rw [rawPacketUdpTarget] at h
  split at h
  · cases h
  · simp only at h
    generalize (if rawPacketWord bytes (udpOffset + 4) = 0 then limit
      else udpOffset + rawPacketWord bytes (udpOffset + 4)) = endOffset at h
    split at h
    · cases h
    · rename_i hend
      cases h
      rw [not_or, not_or, not_lt, not_lt, not_lt] at hend
      exact ⟨rfl, hend.2.2, hend.1, hend.2.1⟩

theorem mem_processGre {greOffset : Nat} {ip : RawIpHeader} (h : ip ∈ processGre bytes greOffset) :
    (∃ protocolType, rawPacketGrePayloadTarget bytes greOffset = some ⟨ip.ipOffset, protocolType⟩)
      ∧ ∀ other ∈ processGre bytes greOffset, other = ip := by
  rw [processGre] at h ⊢
  cases hgre : rawPacketGrePayloadTarget bytes greOffset with
  | none =>
      rw [hgre] at h
      cases h
  | some gre =>
      rw [hgre] at h
      simp only at h ⊢
      split_ifs at h ⊢ with h4 h6
      · rw [List.mem_singleton.mp h]
        exact ⟨⟨gre.protocolType, rfl⟩, fun other hother => List.mem_singleton.mp hother⟩
      · rw [List.mem_singleton.mp h]
        exact ⟨⟨gre.protocolType, rfl⟩, fun other hother => List.mem_singleton.mp hother⟩
      · cases h

theorem mem_processUdpTunnels {udpOffset limit : Nat} {ip : RawIpHeader} :
    ip ∈ processUdpTunnels bytes udpOffset limit ↔
      ∃ udp, rawPacketUdpTarget bytes udpOffset limit = some udp
        ∧ (udp.isVxlan ∧ ip ∈ ethernetHeader bytes (udp.payloadOffset + 8)
          ∨ udp.isGtpu ∧ ip ∈ gtpuHeader bytes udp) := by
  rw [processUdpTunnels]
  cases hudp : rawPacketUdpTarget bytes udpOffset limit with
  | none => simp
  | some udp =>
      simp only [List.mem_append, Option.some.injEq, exists_eq_left']
      split_ifs with hvxlan hgtpu <;> simp [*]

theorem mem_innerHeaders {header : RawL4Header} {ip : RawIpHeader}
    (h : ip ∈ innerHeaders bytes header) :
    header.protocol = 17 ∧ header.l4Offset + 8 ≤ ip.ipOffset
      ∨ header.protocol = 47 ∧ header.l4Offset + 4 ≤ ip.ipOffset
        ∧ (rawPacketWord bytes header.l4Offset &&& 0x8000 ≠ 0 →
          header.l4Offset + 8 ≤ ip.ipOffset) := by
  rw [innerHeaders] at h
  split_ifs at h with hgre hudp
  · obtain ⟨⟨protocolType, hpayload⟩, -⟩ := mem_processGre h
    exact Or.inr ⟨hgre, grePayloadTarget_le hpayload⟩
  · left
    obtain ⟨udp, htarget, hinner⟩ := mem_processUdpTunnels.mp h
    have hpayload := (udpTarget_payloadOffset htarget).1
    refine ⟨hudp, ?_⟩
    rcases hinner with ⟨-, hmem⟩ | ⟨-, hmem⟩
    · obtain ⟨⟨etherType, hl3⟩, -⟩ := mem_ethernetHeader hmem
      have hle := (ethernetL3Target_spec hl3).1
      simp only at hle
      omega
    · have hle := gtpuPayloadOffset_le (mem_gtpuHeader hmem).1
      omega
  · cases h

theorem mem_innerHeaders_le {header : RawL4Header} {ip : RawIpHeader}
    (h : ip ∈ innerHeaders bytes header) : header.l4Offset + 4 ≤ ip.ipOffset := by
  rcases mem_innerHeaders h with ⟨-, hle⟩ | ⟨-, hle, -⟩
  · omega
  · exact hle

theorem innerHeaders_unique {header : RawL4Header} (hsingle : SinglePort bytes header)
    {ip other : RawIpHeader} (h : ip ∈ innerHeaders bytes header)
    (hother : other ∈ innerHeaders bytes header) : other = ip := by
  rw [innerHeaders] at h hother
  split_ifs at h hother with hgre hudp
  · exact (mem_processGre h).2 other hother
  · obtain ⟨udp, htarget, hinner⟩ := mem_processUdpTunnels.mp h
    obtain ⟨udp', htarget', hinner'⟩ := mem_processUdpTunnels.mp hother
    rw [htarget] at htarget'
    cases htarget'
    have hports := hsingle hudp udp htarget
    rcases hinner with ⟨hvxlan, hmem⟩ | ⟨hgtpu, hmem⟩
    · rcases hinner' with ⟨-, hmem'⟩ | ⟨hgtpu', -⟩
      · exact (mem_ethernetHeader hmem).2 other hmem'
      · exact absurd ⟨hvxlan, hgtpu'⟩ hports
    · rcases hinner' with ⟨hvxlan', -⟩ | ⟨-, hmem'⟩
      · exact absurd ⟨hvxlan', hgtpu⟩ hports
      · exact (mem_gtpuHeader hmem).2 other hmem'
  · cases h

end Tunnels

/-! ## What a parser reads -/

section Reads

variable {bytes other : Bytes} (hlength : other.length = bytes.length)

include hlength

theorem hasBytes_congr (offset length : Nat) :
    rawPacketHasBytes other offset length ↔ rawPacketHasBytes bytes offset length := by
  rw [rawPacketHasBytes, rawPacketHasBytes, hlength]

omit hlength in
theorem word_congr {offset : Nat} (h : octetAt other offset = octetAt bytes offset)
    (h' : octetAt other (offset + 1) = octetAt bytes (offset + 1)) :
    rawPacketWord other offset = rawPacketWord bytes offset := by
  rw [rawPacketWord, rawPacketWord, be16At, be16At, h, h']

theorem headerLengthAt_congr {offset : Nat} (h : octetAt other offset = octetAt bytes offset) :
    rawIpv4HeaderLengthAt other offset = rawIpv4HeaderLengthAt bytes offset := by
  simp only [rawIpv4HeaderLengthAt, hasBytes_congr hlength, h]

theorem processIpv4_congr {offset : Nat}
    (h : ∀ k, offset ≤ k → k < offset + 10 → octetAt other k = octetAt bytes k) :
    processIpv4 other offset = processIpv4 bytes offset := by
  have hfirst := h offset (le_refl _) (by omega)
  have htotal : rawPacketWord other (offset + 2) = rawPacketWord bytes (offset + 2) :=
    word_congr (h _ (by omega) (by omega)) (h _ (by omega) (by omega))
  have hfragment : rawPacketWord other (offset + 6) = rawPacketWord bytes (offset + 6) :=
    word_congr (h _ (by omega) (by omega)) (h _ (by omega) (by omega))
  have hprotocol := h (offset + 9) (by omega) (by omega)
  have hfragmented : rawPacketIpv4IsFragmented other offset ↔ rawPacketIpv4IsFragmented bytes offset := by
    rw [rawPacketIpv4IsFragmented, rawPacketIpv4IsFragmented, hfragment]
  rw [processIpv4, processIpv4, headerLengthAt_congr hlength hfirst]
  cases rawIpv4HeaderLengthAt bytes offset with
  | none => rfl
  | some headerLength => simp only [hfragmented, hasBytes_congr hlength, htotal, hprotocol]

theorem extensionHeaderLength_congr {header offset : Nat}
    (h : octetAt other (offset + 1) = octetAt bytes (offset + 1)) :
    rawIpv6ExtensionHeaderLength other header offset
      = rawIpv6ExtensionHeaderLength bytes header offset := by
  simp only [rawIpv6ExtensionHeaderLength, hasBytes_congr hlength, h]

/-- Two octets of an extension header are read; a header that is searched for is not read. -/
theorem ipv6L4Loop_congr {limit rounds nextHeader offset : Nat}
    (h : ∀ k, offset ≤ k →
      (∀ q ∈ walkProtocols, ∀ target,
        rawPacketIpv6L4Loop bytes q limit rounds nextHeader offset = some target →
          k < target.offset) →
      octetAt other k = octetAt bytes k)
    (p : Nat) :
    rawPacketIpv6L4Loop other p limit rounds nextHeader offset
      = rawPacketIpv6L4Loop bytes p limit rounds nextHeader offset := by
  induction rounds generalizing nextHeader offset with
  | zero => rfl
  | succ rounds ih =>
      rw [rawPacketIpv6L4Loop, rawPacketIpv6L4Loop]
      by_cases hnext : nextHeader = p
      · simp only [if_pos hnext, hasBytes_congr hlength]
      · rw [if_neg hnext, if_neg hnext]
        by_cases hfinal : nextHeader ∈ walkProtocols
        · rw [extensionHeaderLength_final hfinal, extensionHeaderLength_final hfinal]
        · have hloop : ∀ q ∈ walkProtocols, ∀ target,
              rawPacketIpv6L4Loop bytes q limit (rounds + 1) nextHeader offset = some target →
                ∃ extensionLength,
                  rawIpv6ExtensionHeaderLength bytes nextHeader offset = some extensionLength
                    ∧ rawPacketIpv6L4Loop bytes q limit rounds (octetAt bytes offset)
                      (offset + extensionLength) = some target := by
            intro q hq target htarget
            have hne : nextHeader ≠ q := by
              rintro rfl
              exact hfinal hq
            rw [rawPacketIpv6L4Loop, if_neg hne] at htarget
            split at htarget
            · cases htarget
            · rename_i extensionLength hextension
              split at htarget
              · cases htarget
              · exact ⟨extensionLength, hextension, htarget⟩
          have hread : ∀ k, offset ≤ k → k < offset + 8 → octetAt other k = octetAt bytes k := by
            intro k hle hlt
            refine h k hle ?_
            intro q hq target htarget
            obtain ⟨extensionLength, hextension, hrest⟩ := hloop q hq target htarget
            have hpos := extensionHeaderLength_pos hextension
            have hbehind := (ipv6L4Loop_spec hrest).2.1
            omega
          rw [extensionHeaderLength_congr hlength (hread _ (by omega) (by omega)),
            hread offset (le_refl _) (by omega)]
          cases hextension : rawIpv6ExtensionHeaderLength bytes nextHeader offset with
          | none => rfl
          | some extensionLength =>
              simp only
              split
              · rfl
              · refine ih ?_
                intro k hle hbefore
                refine h k (by omega) ?_
                intro q hq target htarget
                obtain ⟨_, hextension', hrest⟩ := hloop q hq target htarget
                rw [hextension] at hextension'
                cases hextension'
                exact hbefore q hq target hrest

theorem ipv6L4Offset_congr {offset : Nat}
    (h : ∀ k, offset ≤ k →
      (∀ q ∈ walkProtocols, ∀ target, rawPacketIpv6L4Offset bytes offset q = some target →
        k < target.offset) →
      octetAt other k = octetAt bytes k)
    (p : Nat) :
    rawPacketIpv6L4Offset other offset p = rawPacketIpv6L4Offset bytes offset p := by
  have hread : ∀ k, offset ≤ k → k < offset + 40 → octetAt other k = octetAt bytes k := by
    intro k hle hlt
    refine h k hle ?_
    intro q _ target htarget
    have hbehind := (ipv6L4Offset_spec htarget).1
    omega
  have hpayload : rawPacketWord other (offset + 4) = rawPacketWord bytes (offset + 4) :=
    word_congr (hread _ (by omega) (by omega)) (hread _ (by omega) (by omega))
  have hend : rawIpv6PacketEnd other offset = rawIpv6PacketEnd bytes offset := by
    simp only [rawIpv6PacketEnd, hasBytes_congr hlength, hpayload, hlength]
  rw [rawPacketIpv6L4Offset, rawPacketIpv6L4Offset, hend, hread offset (le_refl _) (by omega),
    hread (offset + 6) (by omega) (by omega)]
  simp only [hasBytes_congr hlength]
  split
  · rfl
  · rename_i hheader
    refine ipv6L4Loop_congr hlength ?_ p
    intro k hle hbefore
    refine h k (by omega) ?_
    intro q hq target htarget
    rw [rawPacketIpv6L4Offset, if_neg hheader] at htarget
    exact hbefore q hq target htarget

/-- A walk goes on from an internet header in the same way if what it reads up to the next header
is the same. -/
theorem processIp_congr (protocols : List Nat) {ip : RawIpHeader}
    (h : ∀ k, ip.ipOffset ≤ k → (ip.ipVersion = .ipv4 → k < ip.ipOffset + 10) →
      (∀ header ∈ processIp bytes walkProtocols ip, k < header.l4Offset) →
      octetAt other k = octetAt bytes k) :
    processIp other protocols ip = processIp bytes protocols ip := by
  obtain ⟨version, offset⟩ := ip
  cases version with
  | ipv4 =>
      refine processIpv4_congr hlength ?_
      intro k hle hlt
      refine h k hle (fun _ => hlt) ?_
      intro header hmem
      have hbehind : offset + 20 ≤ header.l4Offset := (mem_processIp hmem).behind
      change k < offset + 10 at hlt
      omega
  | ipv6 =>
      have hl4 : ∀ p, rawPacketIpv6L4Offset other offset p = rawPacketIpv6L4Offset bytes offset p := by
        refine ipv6L4Offset_congr hlength ?_
        intro k hle hbefore
        refine h k hle (fun hversion => by cases hversion) ?_
        intro header hmem
        obtain ⟨-, -, hq, hsome⟩ := mem_processIpv6.mp hmem
        exact hbefore header.protocol hq _ hsome
      have hfirst : octetAt other offset = octetAt bytes offset := by
        refine h offset (le_refl _) (fun hversion => by cases hversion) ?_
        intro header hmem
        have hbehind : offset + 20 ≤ header.l4Offset := (mem_processIp hmem).behind
        exact lt_of_lt_of_le (Nat.lt_add_of_pos_right (by decide)) hbehind
      show processIpv6 other protocols offset = processIpv6 bytes protocols offset
      simp only [processIpv6, hasBytes_congr hlength, hl4, hfirst]

/-! ### Inside a tunnel -/

theorem vlanLoop_congr {rounds : Nat} {target : RawPacketL3Target}
    (h : ∀ k, target.l3Offset ≤ k → k < (rawPacketVlanLoop bytes rounds target).l3Offset →
      octetAt other k = octetAt bytes k) :
    rawPacketVlanLoop other rounds target = rawPacketVlanLoop bytes rounds target := by
  induction rounds generalizing target with
  | zero => rfl
  | succ rounds ih =>
      rw [rawPacketVlanLoop] at h
      rw [rawPacketVlanLoop, rawPacketVlanLoop]
      simp only [hasBytes_congr hlength]
      split
      · rename_i htag
        rw [if_pos htag] at h
        have hnext := @vlanLoop_le bytes rounds
          ⟨rawPacketWord bytes (target.l3Offset + 2), target.l3Offset + 4⟩
        have hword : rawPacketWord other (target.l3Offset + 2)
            = rawPacketWord bytes (target.l3Offset + 2) :=
          word_congr (h _ (by omega) (by simp only at hnext; omega))
            (h _ (by omega) (by simp only at hnext; omega))
        rw [hword]
        refine ih ?_
        intro k hle hlt
        simp only at hle
        exact h k (by omega) hlt
      · rfl

theorem mplsLoop_congr {rounds l3Offset : Nat}
    (h : ∀ k, l3Offset ≤ k → k < rawPacketMplsLoop bytes rounds l3Offset →
      octetAt other k = octetAt bytes k) :
    rawPacketMplsLoop other rounds l3Offset = rawPacketMplsLoop bytes rounds l3Offset := by
  induction rounds generalizing l3Offset with
  | zero => rfl
  | succ rounds ih =>
      rw [rawPacketMplsLoop] at h
      rw [rawPacketMplsLoop, rawPacketMplsLoop]
      simp only [hasBytes_congr hlength]
      split
      · rename_i hlabel
        rw [if_pos hlabel] at h
        have hnext := @mplsLoop_le bytes rounds (l3Offset + 4)
        have hbottom : octetAt other (l3Offset + 2) = octetAt bytes (l3Offset + 2) := by
          refine h _ (by omega) ?_
          split <;> omega
        rw [hbottom]
        split
        · rfl
        · rename_i hmore
          rw [if_neg hmore] at h
          exact ih fun k hle hlt => h k (by omega) hlt
      · rfl

theorem ethernetL3Target_congr {ethernetOffset : Nat}
    (h : ∀ k, ethernetOffset ≤ k →
      (∀ target, rawPacketEthernetL3Target bytes ethernetOffset = some target →
        k ≤ target.l3Offset) →
      octetAt other k = octetAt bytes k) :
    rawPacketEthernetL3Target other ethernetOffset
      = rawPacketEthernetL3Target bytes ethernetOffset := by
  have hspec := @ethernetL3Target_spec bytes ethernetOffset
  rw [rawPacketEthernetL3Target] at h hspec ⊢
  rw [rawPacketEthernetL3Target]
  simp only [hasBytes_congr hlength]
  split
  · rfl
  · rename_i hfits
    rw [if_neg hfits] at h hspec
    have htype : rawPacketWord other (ethernetOffset + 12)
        = rawPacketWord bytes (ethernetOffset + 12) := by
      apply word_congr <;>
      · refine h _ (by omega) ?_
        intro target htarget
        have hle := (hspec htarget).1
        omega
    have hvlan : rawPacketVlanLoop other 4
        ⟨rawPacketWord bytes (ethernetOffset + 12), ethernetOffset + 14⟩
        = rawPacketVlanLoop bytes 4
          ⟨rawPacketWord bytes (ethernetOffset + 12), ethernetOffset + 14⟩ := by
      refine vlanLoop_congr hlength ?_
      intro k hle hlt
      simp only at hle
      refine h k (by omega) ?_
      intro target htarget
      simp only at htarget
      split at htarget
      · cases htarget
        exact le_trans hlt.le (mplsLoop_le 8 _)
      · cases htarget
        exact hlt.le
    rw [htype, hvlan]
    simp only at h ⊢
    split
    · rename_i hlabels
      simp only [if_pos hlabels, Option.some.injEq] at h
      have hbehind := @vlanLoop_le bytes 4
        ⟨rawPacketWord bytes (ethernetOffset + 12), ethernetOffset + 14⟩
      have hlabel := @mplsLoop_le bytes 8
        (rawPacketVlanLoop bytes 4
          ⟨rawPacketWord bytes (ethernetOffset + 12), ethernetOffset + 14⟩).l3Offset
      simp only at hbehind
      have hmpls := @mplsLoop_congr bytes other hlength 8
        (rawPacketVlanLoop bytes 4
          ⟨rawPacketWord bytes (ethernetOffset + 12), ethernetOffset + 14⟩).l3Offset (by
            intro k hle hlt
            refine h k (by omega) ?_
            rintro target rfl
            exact hlt.le)
      have hversion := h _ (le_trans (by omega) (hbehind.trans hlabel)) (by
        rintro target rfl
        exact le_refl _)
      rw [hmpls, hversion]
    · rfl

theorem ethernetHeader_congr {ethernetOffset : Nat}
    (h : ∀ k, ethernetOffset ≤ k →
      (∀ ip ∈ ethernetHeader bytes ethernetOffset, k ≤ ip.ipOffset) →
      octetAt other k = octetAt bytes k) :
    ethernetHeader other ethernetOffset = ethernetHeader bytes ethernetOffset := by
  have htarget : rawPacketEthernetL3Target other ethernetOffset
      = rawPacketEthernetL3Target bytes ethernetOffset := by
    refine ethernetL3Target_congr hlength ?_
    intro k hle hbefore
    refine h k hle ?_
    intro ip hmem
    obtain ⟨⟨etherType, hl3⟩, -⟩ := mem_ethernetHeader hmem
    exact hbefore _ hl3
  rw [ethernetHeader, ethernetHeader, htarget]

theorem gtpuLoop_congr {messageEnd rounds next payloadOffset : Nat}
    (h : ∀ k, payloadOffset ≤ k →
      (∀ result, rawPacketGtpuLoop bytes messageEnd rounds next payloadOffset = some result →
        k < result) →
      octetAt other k = octetAt bytes k) :
    rawPacketGtpuLoop other messageEnd rounds next payloadOffset
      = rawPacketGtpuLoop bytes messageEnd rounds next payloadOffset := by
  induction rounds generalizing next payloadOffset with
  | zero => rfl
  | succ rounds ih =>
      rw [rawPacketGtpuLoop] at h
      rw [rawPacketGtpuLoop, rawPacketGtpuLoop]
      simp only [hasBytes_congr hlength]
      by_cases hnext : next = 0
      · rw [if_pos hnext, if_pos hnext]
      · rw [if_neg hnext] at h ⊢
        rw [if_neg hnext]
        by_cases hfits : ¬rawPacketHasBytes bytes payloadOffset 1 ∨ messageEnd < payloadOffset + 1
        · rw [if_pos hfits, if_pos hfits]
        · rw [if_neg hfits] at h ⊢
          rw [if_neg hfits]
          simp only at h
          have hread : ∀ k, payloadOffset ≤ k →
              k < payloadOffset + max 1 (octetAt bytes payloadOffset * 4) →
              octetAt other k = octetAt bytes k := by
            intro k hle hlt
            refine h k hle ?_
            intro result hresult
            split at hresult
            · cases hresult
            · rename_i hextension
              have hbehind := gtpuLoop_le hresult
              rw [not_or, not_lt] at hextension
              omega
          rw [hread payloadOffset (le_refl _) (by omega)]
          split
          · rfl
          · rename_i hextension
            rw [if_neg hextension] at h
            rw [not_or, not_lt] at hextension
            rw [hread (payloadOffset + octetAt bytes payloadOffset * 4 - 1) (by omega) (by omega)]
            refine ih ?_
            intro k hle hbefore
            exact h k (by omega) hbefore

theorem gtpuPayloadOffset_congr {gtpuOffset limit : Nat}
    (h : ∀ k, gtpuOffset ≤ k →
      (∀ result, rawPacketGtpuPayloadOffset bytes gtpuOffset limit = some result → k < result) →
      octetAt other k = octetAt bytes k) :
    rawPacketGtpuPayloadOffset other gtpuOffset limit
      = rawPacketGtpuPayloadOffset bytes gtpuOffset limit := by
  have hread : ∀ k, gtpuOffset ≤ k → k < gtpuOffset + 8 → octetAt other k = octetAt bytes k := by
    intro k hle hlt
    refine h k hle ?_
    intro result hresult
    have hbehind := gtpuPayloadOffset_le hresult
    omega
  have hmessage : rawPacketWord other (gtpuOffset + 2) = rawPacketWord bytes (gtpuOffset + 2) :=
    word_congr (hread _ (by omega) (by omega)) (hread _ (by omega) (by omega))
  rw [rawPacketGtpuPayloadOffset] at h
  rw [rawPacketGtpuPayloadOffset, rawPacketGtpuPayloadOffset, hread gtpuOffset (le_refl _) (by omega),
    hmessage, hlength]
  simp only [hasBytes_congr hlength] at h ⊢
  generalize (if rawPacketWord bytes (gtpuOffset + 2) = 0 then limit
    else gtpuOffset + 8 + rawPacketWord bytes (gtpuOffset + 2)) = messageEnd at h ⊢
  by_cases hfits : ¬rawPacketHasBytes bytes gtpuOffset 8 ∨ limit < gtpuOffset + 8
  · rw [if_pos hfits, if_pos hfits]
  rw [if_neg hfits] at h ⊢
  rw [if_neg hfits]
  by_cases hflags : octetAt bytes gtpuOffset / 32 ≠ 1 ∨ octetAt bytes gtpuOffset &&& 0x10 = 0
  · rw [if_pos hflags, if_pos hflags]
  rw [if_neg hflags] at h ⊢
  rw [if_neg hflags]
  by_cases hend : limit < messageEnd ∨ bytes.length < messageEnd
  · rw [if_pos hend, if_pos hend]
  rw [if_neg hend] at h ⊢
  rw [if_neg hend]
  have hresult : ∀ {fields : Nat × Nat} {result : Nat},
      rawPacketGtpuOptionalFields bytes (octetAt bytes gtpuOffset) (gtpuOffset + 8) messageEnd
        = some fields →
      (∀ payload, rawPacketGtpuLoop bytes messageEnd 8 fields.1 fields.2 = some payload →
        result < payload) →
      gtpuOffset ≤ result → octetAt other result = octetAt bytes result := by
    intro fields k hfields hbefore hle
    refine h k hle ?_
    intro result hsome
    obtain ⟨fields', hfields', hsome⟩ := Option.bind_eq_some_iff.mp hsome
    rw [hfields] at hfields'
    cases hfields'
    obtain ⟨payload, hloop, hsome⟩ := Option.bind_eq_some_iff.mp hsome
    split at hsome
    · cases hsome
      exact hbefore _ hloop
    · cases hsome
  have hfields : rawPacketGtpuOptionalFields other (octetAt bytes gtpuOffset) (gtpuOffset + 8) messageEnd
      = rawPacketGtpuOptionalFields bytes (octetAt bytes gtpuOffset) (gtpuOffset + 8) messageEnd := by
    rw [rawPacketGtpuOptionalFields, rawPacketGtpuOptionalFields]
    simp only [hasBytes_congr hlength]
    split
    · rename_i hflag
      split
      · rfl
      · rename_i hroom
        have hthere : rawPacketGtpuOptionalFields bytes (octetAt bytes gtpuOffset) (gtpuOffset + 8)
            messageEnd = some (octetAt bytes (gtpuOffset + 8 + 3), gtpuOffset + 8 + 4) := by
          rw [rawPacketGtpuOptionalFields, if_pos hflag, if_neg hroom]
        rw [hresult hthere (fun payload hpayload => lt_of_lt_of_le (by omega) (gtpuLoop_le hpayload))
          (by omega)]
    · rfl
  rw [hfields]
  cases hsome : rawPacketGtpuOptionalFields bytes (octetAt bytes gtpuOffset) (gtpuOffset + 8)
      messageEnd with
  | none => rfl
  | some fields =>
      have hfirst : gtpuOffset + 8 ≤ fields.2 := gtpuOptionalFields_le hsome
      have hloop := @gtpuLoop_congr bytes other hlength messageEnd 8 fields.1 fields.2
        fun k hle hbefore => hresult hsome hbefore (by omega)
      simp only [Option.bind_eq_bind, Option.bind_some]
      rw [hloop]

theorem gtpuHeader_congr {udp : RawPacketUdpTarget}
    (h : ∀ k, udp.payloadOffset ≤ k → (∀ ip ∈ gtpuHeader bytes udp, k ≤ ip.ipOffset) →
      octetAt other k = octetAt bytes k) :
    gtpuHeader other udp = gtpuHeader bytes udp := by
  have hpayload : rawPacketGtpuPayloadOffset other udp.payloadOffset udp.endOffset
      = rawPacketGtpuPayloadOffset bytes udp.payloadOffset udp.endOffset := by
    refine gtpuPayloadOffset_congr hlength ?_
    intro k hle hbefore
    refine h k hle ?_
    intro ip hmem
    exact (hbefore _ (mem_gtpuHeader hmem).1).le
  rw [gtpuHeader, gtpuHeader, hpayload]
  cases hsome : rawPacketGtpuPayloadOffset bytes udp.payloadOffset udp.endOffset with
  | none => rfl
  | some payloadOffset =>
      have hbehind := gtpuPayloadOffset_le hsome
      have hversion : octetAt other payloadOffset = octetAt bytes payloadOffset := by
        refine h payloadOffset (by omega) ?_
        intro ip hmem
        have hsame := (mem_gtpuHeader hmem).1
        rw [hsome] at hsame
        cases hsame
        exact le_refl _
      simp only [hversion]

theorem udpTarget_congr {udpOffset limit : Nat}
    (h : ∀ k, udpOffset ≤ k → k < udpOffset + 6 → octetAt other k = octetAt bytes k) :
    rawPacketUdpTarget other udpOffset limit = rawPacketUdpTarget bytes udpOffset limit := by
  have hsource : rawPacketWord other udpOffset = rawPacketWord bytes udpOffset :=
    word_congr (h _ (by omega) (by omega)) (h _ (by omega) (by omega))
  have hdestination : rawPacketWord other (udpOffset + 2) = rawPacketWord bytes (udpOffset + 2) :=
    word_congr (h _ (by omega) (by omega)) (h _ (by omega) (by omega))
  have hword : rawPacketWord other (udpOffset + 4) = rawPacketWord bytes (udpOffset + 4) :=
    word_congr (h _ (by omega) (by omega)) (h _ (by omega) (by omega))
  simp only [rawPacketUdpTarget, hasBytes_congr hlength, hlength, hsource, hdestination, hword]

theorem tcpHeaderOffset_congr {tcpOffset limit : Nat}
    (h : octetAt other (tcpOffset + 12) = octetAt bytes (tcpOffset + 12)) :
    rawPacketTcpHeaderOffset other tcpOffset limit = rawPacketTcpHeaderOffset bytes tcpOffset limit := by
  simp only [rawPacketTcpHeaderOffset, hasBytes_congr hlength, h]

theorem grePayloadTarget_congr {greOffset : Nat}
    (h : ∀ k, greOffset ≤ k → k < greOffset + 4 → octetAt other k = octetAt bytes k) :
    rawPacketGrePayloadTarget other greOffset = rawPacketGrePayloadTarget bytes greOffset := by
  have hflags : rawPacketWord other greOffset = rawPacketWord bytes greOffset :=
    word_congr (h _ (by omega) (by omega)) (h _ (by omega) (by omega))
  have htype : rawPacketWord other (greOffset + 2) = rawPacketWord bytes (greOffset + 2) :=
    word_congr (h _ (by omega) (by omega)) (h _ (by omega) (by omega))
  simp only [rawPacketGrePayloadTarget, greOptionalField, hasBytes_congr hlength, hflags, htype]

/-- A walk goes on into a tunnel in the same way if what it reads up to the header inside is the
same; it does not read the checksum of UDP or of GRE. -/
theorem innerHeaders_congr {header : RawL4Header} (hsingle : SinglePort bytes header)
    (h : ∀ k, header.l4Offset ≤ k →
      (header.protocol = 17 → k ≠ header.l4Offset + 6 ∧ k ≠ header.l4Offset + 7) →
      (header.protocol = 47 → k < header.l4Offset + 4) →
      (∀ ip ∈ innerHeaders bytes header, k ≤ ip.ipOffset) → octetAt other k = octetAt bytes k) :
    innerHeaders other header = innerHeaders bytes header := by
  by_cases hgre : header.protocol = 47
  · have hpayload : rawPacketGrePayloadTarget other header.l4Offset
        = rawPacketGrePayloadTarget bytes header.l4Offset := by
      refine grePayloadTarget_congr hlength ?_
      intro k hle hlt
      refine h k hle (fun hudp => by omega) (fun _ => hlt) ?_
      intro ip hmem
      have hbehind := mem_innerHeaders_le hmem
      omega
    rw [innerHeaders, innerHeaders, if_pos hgre, if_pos hgre, processGre, processGre, hpayload]
  · by_cases hudp : header.protocol = 17
    · have hinner : innerHeaders bytes header
          = processUdpTunnels bytes header.l4Offset header.limit := by
        rw [innerHeaders, if_neg hgre, if_pos hudp]
      have htarget : rawPacketUdpTarget other header.l4Offset header.limit
          = rawPacketUdpTarget bytes header.l4Offset header.limit := by
        refine udpTarget_congr hlength ?_
        intro k hle hlt
        refine h k hle (fun _ => by omega) (fun hprotocol => absurd hprotocol hgre) ?_
        intro ip hmem
        have hbehind := mem_innerHeaders_le hmem
        rcases mem_innerHeaders hmem with ⟨-, hle'⟩ | ⟨hprotocol, -⟩
        · omega
        · exact absurd hprotocol hgre
      have hpayload : ∀ udp, rawPacketUdpTarget bytes header.l4Offset header.limit = some udp →
          ∀ k, udp.payloadOffset ≤ k → (∀ ip ∈ innerHeaders bytes header, k ≤ ip.ipOffset) →
          octetAt other k = octetAt bytes k := by
        intro udp hsome k hle hbefore
        have hstart := (udpTarget_payloadOffset hsome).1
        exact h k (by omega) (fun _ => by omega) (fun hprotocol => absurd hprotocol hgre) hbefore
      rw [hinner, innerHeaders, if_neg hgre, if_pos hudp, processUdpTunnels, processUdpTunnels, htarget]
      cases hsome : rawPacketUdpTarget bytes header.l4Offset header.limit with
      | none => rfl
      | some udp =>
          have hports := hsingle hudp udp hsome
          have hmem : ∀ {ip}, ip ∈ innerHeaders bytes header →
              udp.isVxlan ∧ ip ∈ ethernetHeader bytes (udp.payloadOffset + 8)
                ∨ udp.isGtpu ∧ ip ∈ gtpuHeader bytes udp := by
            intro ip hip
            rw [hinner] at hip
            obtain ⟨udp', hsome', hwhere⟩ := mem_processUdpTunnels.mp hip
            rw [hsome] at hsome'
            cases hsome'
            exact hwhere
          have hvxlan : udp.isVxlan → ethernetHeader other (udp.payloadOffset + 8)
              = ethernetHeader bytes (udp.payloadOffset + 8) := by
            intro hvxlan
            refine ethernetHeader_congr hlength ?_
            intro k hle hbefore
            refine hpayload udp hsome k (by omega) ?_
            intro ip hip
            rcases hmem hip with ⟨-, hthere⟩ | ⟨hgtpu, -⟩
            · exact hbefore ip hthere
            · exact absurd ⟨hvxlan, hgtpu⟩ hports
          have hgtpu : udp.isGtpu → gtpuHeader other udp = gtpuHeader bytes udp := by
            intro hgtpu
            refine gtpuHeader_congr hlength ?_
            intro k hle hbefore
            refine hpayload udp hsome k hle ?_
            intro ip hip
            rcases hmem hip with ⟨hvxlan, -⟩ | ⟨-, hthere⟩
            · exact absurd ⟨hvxlan, hgtpu⟩ hports
            · exact hbefore ip hthere
          simp only
          split_ifs with h1 h2 h2
          · exact absurd ⟨h1, h2⟩ hports
          · rw [hvxlan h1]
          · rw [hgtpu h2]
          · rfl
    · rw [innerHeaders, innerHeaders, if_neg hgre, if_neg hgre, if_neg hudp, if_neg hudp]

end Reads

end TrexWebui
