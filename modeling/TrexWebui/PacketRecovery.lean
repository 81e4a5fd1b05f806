import TrexWebui.HeaderRecovery

/-!
# Import recovers what the builder encoded

The importer reads a built packet back into the stream that it was built from,
for ARP and for TCP, SCTP and GRE over either version: the headers that were
written are found one behind the other, each where the length of the one
before it says, and any payload may follow.
-/

namespace TrexWebui

open PyStr Octets

/-! ## The statement -/

/-- The tags of an imported stream, with the type that each would be written with. -/
def ImportedStream.vlanTags (imported : ImportedStream) : List Tag :=
  let tag (fields : VlanFields) : Tag :=
    { tpid := if fields.tpidOverride then fields.tpid else 0x8100, priority := fields.priority,
      cfi := fields.cfi, id := fields.id }
  if imported.vlan.enabled then
    tag imported.vlan :: if imported.vlan2.enabled then [tag imported.vlan2] else []
  else []

/-- The imported stream has the link layer of the stream. -/
structure LinkRecovered (stream : NormalizedStream) (imported : ImportedStream) : Prop where
  packetType : imported.layout.packetType = stream.packetType
  etherDst : imported.etherDst = stream.etherDst.val
  etherSrc : imported.etherSrc = stream.etherSrc.val
  vlanTags : imported.vlanTags = stream.vlanTags
  mplsStack : imported.layout.mplsStack = stream.mplsStack

/-- The imported stream has what the builder encoded of the stream; `same` compares IPv6
addresses. -/
structure Recovers (same : Ipv6Address → Ipv6Address → Prop) (stream : NormalizedStream)
    (imported : ImportedStream) : Prop where
  link : LinkRecovered stream imported
  arp : stream.packetType = .arp → imported.arp = stream.arpFields
  ipv4 : stream.packetType.hasL3 = true → stream.packetType.ipVersion = .ipv4 →
    Ipv4Recovered stream.toStream imported.ipv4
  ipv6 : stream.packetType.hasL3 = true → stream.packetType.ipVersion = .ipv6 →
    Ipv6Recovered same stream imported.ipv6
  ports : stream.packetType.isTcp = true ∨ stream.packetType.isSctp = true →
    imported.l4SrcPort = stream.l4SrcPort.toNat ∧ imported.l4DstPort = stream.l4DstPort.toNat
  tcp : stream.packetType.isTcp = true → TcpRecovered stream.toStream imported.tcp
  tcpOptions : stream.packetType.isTcp = true →
    TcpOptionsRecovered stream.toLayoutFields imported.layout
  sctp : stream.packetType.isSctp = true → SctpRecovered stream.toStream imported.sctp
  gre : stream.packetType.isGre = true →
    GreRecovered same stream imported.layout imported.gre

/-- A stream of the kinds that are recovered whole. -/
structure NormalizedStream.Encodable (stream : NormalizedStream) : Prop where
  link : stream.PlainLink
  kind : stream.packetType = .arp ∧ stream.arpHardwareSize = 6 ∧ stream.arpProtocolSize = 4
    ∨ stream.packetType.isTcp = true ∨ stream.packetType.isSctp = true
    ∨ stream.packetType.isGre = true

/-! ## The link layer -/

section Link

variable (stream : NormalizedStream)

def NormalizedStream.l2Info : L2Info where
  etherType := stream.l3EtherType
  ipOffset := stream.l2HeaderLength
  vlanStack := foundTags stream.vlanTags stream.innerEtherType
  mplsStack := stream.mplsStack

theorem vlanTags_importedVlan (tags : List Tag) (hcount : tags.length ≤ 2) (innerType : Nat)
    {imported : ImportedStream}
    (hfirst : imported.vlan = importedVlan (foundTags tags innerType)[0]? 0)
    (hsecond : imported.vlan2 = importedVlan (foundTags tags innerType)[1]? 1) :
    imported.vlanTags = tags := by
  have htpid : ∀ n : Nat, (if n = 0x8100 then 0x8100 else n) = n := by
    intro n
    split
    · rename_i h
      exact h.symm
    · rfl
  rw [ImportedStream.vlanTags, hfirst, hsecond]
  match tags with
  | [] => rfl
  | [first] => simp [foundTags, importedVlan, htpid]
  | [first, second] => simp [foundTags, importedVlan, htpid]
  | _ :: _ :: _ :: _ => simp at hcount

theorem mplsStack_apply (layout : LayoutFields) :
    (stream.l2Info.apply layout).mplsStack = stream.mplsStack := by
  cases hmpls : stream.mplsEnabled <;> cases hsecond : stream.mplsLabel2Enabled <;>
    cases hthird : stream.mplsLabel3Enabled <;>
    simp [NormalizedStream.l2Info, L2Info.apply, LayoutFields.mplsStack, hmpls, hsecond, hthird,
      LayoutFields.markBottom]

theorem linkRecovered (body : Bytes) {layout : LayoutFields} {upper : UpperFields}
    (htype : layout.packetType = stream.packetType)
    (hmpls : layout.mplsStack = stream.mplsStack) :
    LinkRecovered stream
      (importedFields (stream.ethernetHeader ++ body) stream.l2Info layout upper) := by
  have hcount : stream.vlanTags.length ≤ 2 := by
    rw [stream.length_vlanTags, LayoutFields.vlanTagCount]
    split_ifs <;> omega
  have hdrop : ∃ back, (stream.ethernetHeader ++ body).drop 0
      = stream.etherDst.val ++ (stream.etherSrc.val ++ back) := by
    rw [List.drop_zero]
    simp only [Stream.ethernetHeader, List.append_assoc]
    exact ⟨_, rfl⟩
  obtain ⟨back, hdrop⟩ := hdrop
  have hsource : (stream.ethernetHeader ++ body).drop 6 = _ :=
    drop_next hdrop (by rw [Fixed.length_val])
  constructor
  · exact htype
  · exact slice_of_drop hdrop (Fixed.length_val _)
  · exact slice_of_drop hsource (Fixed.length_val _)
  · exact vlanTags_importedVlan stream.vlanTags hcount _ rfl rfl
  · exact hmpls

end Link

/-! ## Lengths -/

section Lengths

variable (stream : NormalizedStream) (draws : Nat → UInt32)

theorem l2HeaderLength_le : stream.l2HeaderLength ≤ 34 := by
  have hstack : stream.mplsStack.length ≤ 3 := by
    unfold LayoutFields.mplsStack
    cases stream.mplsEnabled <;> cases stream.mplsLabel2Enabled <;>
      cases stream.mplsLabel3Enabled <;> simp [LayoutFields.markBottom]
  unfold LayoutFields.l2HeaderLength LayoutFields.vlanTagCount
  split_ifs <;> omega

theorem l4HeaderLength_le : stream.packetType.isTcp = true ∨ stream.packetType.isSctp = true
    ∨ stream.packetType.isGre = true → stream.l4HeaderLength ≤ 52 := by
  intro hkind
  have htcp := stream.tcpHeaderLength_le
  have hgre := stream.greHeaderLength_le
  unfold Stream.l4HeaderLength
  revert hkind
  cases stream.packetType <;> simp [PacketType.isTcp, PacketType.isSctp, PacketType.isGre] <;> omega

end Lengths

/-! ## ARP -/

section Arp

variable (stream : NormalizedStream) (draws : Nat → UInt32)

theorem recovers_arp (hlink : stream.PlainLink) (htype : stream.packetType = .arp)
    (hhardware : stream.arpHardwareSize = 6) (hprotocol : stream.arpProtocolSize = 4) :
    ∃ imported, importedStream (stream.buildProfilePacket draws) = some imported
      ∧ Recovers Ipv6Address.SamePacked stream imported := by
  have hpacket : ∃ payload, payload.length
        = stream.targetLength - stream.l2HeaderLength - stream.arpHeader.length
      ∧ stream.buildProfilePacket draws
        = stream.ethernetHeader ++ (stream.arpHeader ++ payload) := by
    have hbuild : stream.buildProfilePacket draws = stream.buildArpPacket draws := by
      rw [Stream.buildProfilePacket, htype]
      rfl
    rw [hbuild, Stream.buildArpPacket, List.append_assoc]
    exact ⟨_, length_payloadBytes .., rfl⟩
  obtain ⟨payload, hpayload, hpacket⟩ := hpacket
  rw [hpacket]
  generalize hbody : stream.arpHeader ++ payload = body
  have hbodyLength : body.length = 28 + payload.length := by
    rw [← hbody, List.length_append, Stream.length_arpHeader]
  have hl2 : packetL2PayloadInfo (stream.ethernetHeader ++ body) = some stream.l2Info := by
    apply stream.packetL2PayloadInfo_ethernetHeader hlink (by omega)
    rw [htype]
    intro h
    exact absurd h (by decide)
  have hetherType : stream.l2Info.etherType = 0x0806 := by
    show stream.l3EtherType = _
    rw [Stream.l3EtherType, htype]
    rfl
  have hip : ipHeader (stream.ethernetHeader ++ body) = none := by
    simp [ipHeader, ipv6Offsets, ipv4Offsets, hl2, hetherType]
  have hlength : ¬9216 < (stream.ethernetHeader ++ body).length + 4 := by
    have htarget := stream.targetLength_le
    have hl2Length := l2HeaderLength_le stream
    rw [Stream.length_arpHeader] at hpayload
    rw [List.length_append, stream.length_ethernetHeader]
    omega
  have hstream : streamFromEthernetPacket (stream.ethernetHeader ++ body)
      = some (stream.l2Info.apply { packetType := .arp },
        { network := some stream.l2Info.ipOffset }) := by
    simp only [streamFromEthernetPacket, hl2, hip]
    rw [if_neg hlength, if_pos hetherType]
  have hdrop : (stream.ethernetHeader ++ body).drop stream.l2HeaderLength
      = stream.arpHeader ++ payload := by
    rw [← stream.length_ethernetHeader, List.drop_left, hbody]
  refine ⟨_, by simp only [importedStream, hstream, hl2, hip]; rfl, ?_⟩
  constructor
  · exact linkRecovered stream body htype.symm (mplsStack_apply stream _)
  · intro _
    exact arpFieldsFromPacket_arpHeader stream.toStream hdrop hhardware hprotocol
  · rw [htype]
    intro h
    exact absurd h (by decide)
  · rw [htype]
    intro h
    exact absurd h (by decide)
  · rw [htype]
    rintro (h | h) <;> cases h
  · rw [htype]
    intro h
    exact absurd h (by decide)
  · rw [htype]
    intro h
    exact absurd h (by decide)
  · rw [htype]
    intro h
    exact absurd h (by decide)
  · rw [htype]
    intro h
    exact absurd h (by decide)

end Arp

/-! ## Datagrams -/

section Datagrams

variable (stream : NormalizedStream) (draws : Nat → UInt32)

/-- The segment behind the internet header. -/
structure IsSegment (segment : Bytes) : Prop where
  tcp : stream.packetType.isTcp = true → ∃ checksum payload,
    segment = stream.tcpHeader checksum ++ payload
  sctp : stream.packetType.isSctp = true → ∃ payload,
    segment = stream.sctpHeader payload ++ payload
  gre : stream.packetType.isGre = true → ∃ payload, segment = stream.greHeader
    (innerPacket stream.greInnerVersion stream.greInner payload)
      ++ innerPacket stream.greInnerVersion stream.greInner payload

def NormalizedStream.ipHeaderBytes (version : IpVersion) (length : Nat) : Bytes :=
  match version with
  | .ipv4 => stream.ipv4Header length
  | .ipv6 => stream.ipv6Header length

theorem length_ipHeaderBytes (version : IpVersion) (length : Nat) :
    (stream.ipHeaderBytes version length).length = version.headerLength := by
  cases version with
  | ipv4 =>
      show (putBe16 10 _ _).length = 20
      rw [length_putBe16 (by simp), length_packIpv4Header]
  | ipv6 => exact length_packIpv6Header ..

/-- The payload of a packet of these kinds is cut so that the packet stays within the limit. -/
theorem payload_fits {headers l4 payload : Nat} (hheaders : headers ≤ 74) (hl4 : l4 ≤ 52)
    (hpayload : payload ≤ max (stream.targetLength - headers - l4) 48) :
    headers + l4 + payload ≤ 9212 := by
  have htarget := stream.targetLength_le
  omega

/-- The payload that the kinds share: an inner datagram behind GRE, otherwise plain octets. -/
structure IsPayload (length : Nat) (payload : Bytes) : Prop where
  le : payload.length ≤ max length 48
  gre : stream.packetType.isGre = true →
    ∃ inner, payload = innerPacket stream.greInnerVersion stream.greInner inner

theorem isPayload_gre (length : Nat) : IsPayload stream length (stream.grePayloadBytes draws length) := by
  have hversion := Stream.headerLength_le stream.greInnerVersion
  constructor
  · rw [Stream.grePayloadBytes, length_innerPacket, length_payloadBytes]
    omega
  · intro _
    exact ⟨_, rfl⟩

theorem isPayload_plain (hgre : ¬stream.packetType.isGre = true) (length : Nat) :
    IsPayload stream length (payloadBytes stream.toPayloadFields draws length) := by
  constructor
  · rw [length_payloadBytes]
    omega
  · intro h
    exact absurd h hgre

section Kinds

variable (hkind : stream.packetType.isTcp = true ∨ stream.packetType.isSctp = true
  ∨ stream.packetType.isGre = true)

include hkind in
theorem kind_hasL3 : stream.packetType.hasL3 = true ∧ stream.packetType.hasArp = false
    ∧ stream.packetType ≠ .ipv4Udp ∧ stream.packetType.isUdp = false := by
  revert hkind
  cases stream.packetType <;> simp [PacketType.isTcp, PacketType.isSctp, PacketType.isGre,
    PacketType.hasL3, PacketType.hasArp, PacketType.isUdp]

include hkind in
theorem isPayload_ipv4 : IsPayload stream (stream.targetLength - (stream.l2HeaderLength + 20)
    - stream.l4HeaderLength) (stream.ipv4Payload draws) := by
  obtain ⟨-, -, hudp4, hudp⟩ := kind_hasL3 stream hkind
  have hgtpu : stream.hasGtpu = false := by
    simp [LayoutFields.hasGtpu, hudp4]
  have hvxlan : stream.vxlanEnabled = false := by
    cases hon : stream.vxlanEnabled with
    | false => rfl
    | true => exact absurd (stream.tunnel_udp (Or.inl hon)) hudp4
  rw [← Nat.sub_sub]
  simp only [Stream.ipv4Payload, hgtpu, hvxlan, hudp, Bool.false_eq_true, if_false]
  split_ifs with hgre
  · exact isPayload_gre stream draws _
  · exact isPayload_plain stream draws hgre _

include hkind in
theorem isPayload_ipv6 : IsPayload stream (stream.targetLength - (stream.l2HeaderLength + 40)
    - stream.l4HeaderLength) (stream.ipv6Payload draws) := by
  obtain ⟨-, -, -, hudp⟩ := kind_hasL3 stream hkind
  rw [← Nat.sub_sub]
  simp only [Stream.ipv6Payload, hudp, Bool.false_eq_true, if_false]
  split_ifs with hgre
  · exact isPayload_gre stream draws _
  · exact isPayload_plain stream draws hgre _

theorem isSegment_ipv4 (hversion : stream.packetType.ipVersion = .ipv4) {length : Nat}
    {payload : Bytes} (hpayload : IsPayload stream length payload) :
    IsSegment stream (stream.ipv4L4Header payload ++ payload) := by
  constructor
  · intro h
    rcases PacketType.isTcp_iff.mp h with htype | htype
    · simp only [Stream.ipv4L4Header, htype]
      exact ⟨_, _, rfl⟩
    · simp [htype, PacketType.ipVersion] at hversion
  · intro h
    rcases PacketType.isSctp_iff.mp h with htype | htype
    · simp only [Stream.ipv4L4Header, htype]
      exact ⟨_, rfl⟩
    · simp [htype, PacketType.ipVersion] at hversion
  · intro h
    obtain ⟨inner, rfl⟩ := hpayload.gre h
    rcases PacketType.isGre_iff.mp h with htype | htype
    · simp only [Stream.ipv4L4Header, htype]
      exact ⟨_, rfl⟩
    · simp [htype, PacketType.ipVersion] at hversion

theorem isSegment_ipv6 (hversion : stream.packetType.ipVersion = .ipv6) {length : Nat}
    {payload : Bytes} (hpayload : IsPayload stream length payload) :
    IsSegment stream (stream.ipv6L4Header payload ++ payload) := by
  constructor
  · intro h
    rcases PacketType.isTcp_iff.mp h with htype | htype
    · simp [htype, PacketType.ipVersion] at hversion
    · simp only [Stream.ipv6L4Header, htype]
      exact ⟨_, _, rfl⟩
  · intro h
    rcases PacketType.isSctp_iff.mp h with htype | htype
    · simp [htype, PacketType.ipVersion] at hversion
    · simp only [Stream.ipv6L4Header, htype]
      exact ⟨_, rfl⟩
  · intro h
    obtain ⟨inner, rfl⟩ := hpayload.gre h
    rcases PacketType.isGre_iff.mp h with htype | htype
    · simp [htype, PacketType.ipVersion] at hversion
    · simp only [Stream.ipv6L4Header, htype]
      exact ⟨_, rfl⟩

include hkind in
theorem buildProfilePacket_datagram :
    ∃ length segment, stream.buildProfilePacket draws = stream.ethernetHeader
        ++ (stream.ipHeaderBytes stream.packetType.ipVersion length ++ segment)
      ∧ IsSegment stream segment
      ∧ stream.l2HeaderLength + stream.packetType.ipVersion.headerLength + segment.length ≤ 9212
      ∧ 4 ≤ segment.length := by
  have hl2 := l2HeaderLength_le stream
  have hl4 := l4HeaderLength_le stream hkind
  have hl4' : 4 ≤ stream.l4HeaderLength := by
    unfold Stream.l4HeaderLength LayoutFields.tcpHeaderLength LayoutFields.greHeaderLength
    revert hkind
    cases stream.packetType <;> simp [PacketType.isTcp, PacketType.isSctp, PacketType.isGre] <;> omega
  obtain ⟨hl3, harp, -, -⟩ := kind_hasL3 stream hkind
  cases hversion : stream.packetType.ipVersion with
  | ipv4 =>
      have hpayload := isPayload_ipv4 stream draws hkind
      have hlength := stream.length_ipv4L4Header (stream.ipv4Payload draws) hl3 hversion
      have hfits := payload_fits stream (by omega) hl4 hpayload.le
      have hbuild : stream.buildProfilePacket draws = stream.buildIpv4Packet draws := by
        rw [Stream.buildProfilePacket, harp, hl3, hversion]
        rfl
      refine ⟨(stream.ipv4L4Header (stream.ipv4Payload draws)).length
        + (stream.ipv4Payload draws).length, _, ?_,
        isSegment_ipv4 stream hversion hpayload, ?_, ?_⟩
      · rw [hbuild]
        simp only [Stream.buildIpv4Packet, List.append_assoc]
        rfl
      · rw [List.length_append, hlength, IpVersion.headerLength]
        omega
      · rw [List.length_append, hlength]
        omega
  | ipv6 =>
      have hpayload := isPayload_ipv6 stream draws hkind
      have hlength := stream.length_ipv6L4Header (stream.ipv6Payload draws) hl3 hversion
      have hfits := payload_fits stream (by omega) hl4 hpayload.le
      have hbuild : stream.buildProfilePacket draws = stream.buildIpv6Packet draws := by
        rw [Stream.buildProfilePacket, harp, hl3, hversion]
        rfl
      refine ⟨stream.l4HeaderLength + (stream.ipv6Payload draws).length, _, ?_,
        isSegment_ipv6 stream hversion hpayload, ?_, ?_⟩
      · rw [hbuild]
        simp only [Stream.buildIpv6Packet, List.append_assoc]
        rfl
      · rw [List.length_append, hlength, IpVersion.headerLength]
        omega
      · rw [List.length_append, hlength]
        omega

end Kinds

end Datagrams

/-! ## The theorem -/

section Recovery

variable (stream : NormalizedStream) (length : Nat) (segment : Bytes)
  (hkind : stream.packetType.isTcp = true ∨ stream.packetType.isSctp = true
    ∨ stream.packetType.isGre = true)

def NormalizedStream.datagramPacket (length : Nat) (segment : Bytes) : Bytes :=
  stream.ethernetHeader
    ++ (stream.ipHeaderBytes stream.packetType.ipVersion length ++ segment)

theorem drop_datagramPacket :
    (stream.datagramPacket length segment).drop stream.l2HeaderLength
        = stream.ipHeaderBytes stream.packetType.ipVersion length ++ segment
      ∧ (stream.datagramPacket length segment).drop
          (stream.l2HeaderLength + stream.packetType.ipVersion.headerLength) = segment := by
  have hfirst : (stream.datagramPacket length segment).drop stream.l2HeaderLength
      = stream.ipHeaderBytes stream.packetType.ipVersion length ++ segment := by
    rw [NormalizedStream.datagramPacket, ← stream.length_ethernetHeader, List.drop_left]
  exact ⟨hfirst, drop_next hfirst (by rw [length_ipHeaderBytes])⟩

theorem packetL2PayloadInfo_datagramPacket (hlink : stream.PlainLink) :
    packetL2PayloadInfo (stream.datagramPacket length segment) = some stream.l2Info := by
  apply stream.packetL2PayloadInfo_ethernetHeader hlink
  · rw [List.length_append, length_ipHeaderBytes]
    cases stream.packetType.ipVersion <;> simp only [IpVersion.headerLength] <;> omega
  · intro _
    cases stream.packetType.ipVersion with
    | ipv4 =>
        obtain ⟨checksum, hheader⟩ := ipv4Header_eq stream
        show octetAt (stream.ipv4Header length ++ segment) 0 / 16 = 4
        rw [hheader]
        show (0x45 : UInt8).toNat / 16 = 4
        decide
    | ipv6 =>
        have hclass := stream.ipv6TrafficClass_le
        have hflow := stream.ipv6FlowLabel_le
        show octetAt (stream.ipv6Header length ++ segment) 0 / 16 = 6
        rw [ipv6Header_eq]
        show (UInt8.ofNat (stream.versionWord / 16777216)).toNat / 16 = 6
        rw [toNat_ofNat]
        unfold NormalizedStream.versionWord
        omega

include hkind in
theorem ipHeader_datagramPacket (hlink : stream.PlainLink) :
    ipHeader (stream.datagramPacket length segment) = some ⟨stream.packetType.ipVersion,
      stream.l2HeaderLength, stream.packetType.ipVersion.headerLength,
      stream.protocol.toNat⟩ := by
  have hl2 := packetL2PayloadInfo_datagramPacket stream length segment hlink
  have hdrop := (drop_datagramPacket stream length segment).1
  obtain ⟨hl3, harp, -, -⟩ := kind_hasL3 stream hkind
  have htype : stream.l2Info.etherType = stream.l3EtherType := rfl
  rw [Stream.l3EtherType, harp, hl3] at htype
  cases hversion : stream.packetType.ipVersion with
  | ipv4 =>
      rw [hversion] at hdrop htype
      exact ipHeader_ipv4Header stream hdrop hl2 htype rfl
  | ipv6 =>
      rw [hversion] at hdrop htype
      exact ipHeader_ipv6Header stream hdrop hl2 htype rfl

theorem protocol_of_kind :
    (stream.packetType.isTcp = true → stream.protocol = 6)
      ∧ (stream.packetType.isSctp = true → stream.protocol = 132)
      ∧ (stream.packetType.isGre = true → stream.protocol = 47) := by
  unfold Stream.protocol
  cases stream.packetType <;> simp [PacketType.isTcp, PacketType.isSctp, PacketType.isGre]

def NormalizedStream.foundHeader : IpHeader where
  version := stream.packetType.ipVersion
  offset := stream.l2HeaderLength
  length := stream.packetType.ipVersion.headerLength
  protocol := stream.protocol.toNat

def NormalizedStream.foundLayout (packet : Bytes) : LayoutFields :=
  let l4Offset := stream.l2HeaderLength + stream.packetType.ipVersion.headerLength
  applyGre (if stream.protocol.toNat = 47 then packetGreInfo packet l4Offset else none)
    (applyUdpTunnels none none
      ((if stream.protocol.toNat = 6 then tcpOptionsFromPacket packet l4Offset else {}).apply
        (stream.l2Info.apply { packetType := stream.packetType })))

include hkind in
theorem importedClassification_datagramPacket (hsegment : IsSegment stream segment)
    (hlength : 4 ≤ segment.length) :
    importedClassification (stream.datagramPacket length segment) stream.foundHeader
      = some (stream.packetType, true) := by
  have hdrop := (drop_datagramPacket stream length segment).2
  have hfits := length_of_drop hdrop hlength (by decide)
  have hshort : ¬(stream.datagramPacket length segment).length
      < stream.l2HeaderLength + stream.packetType.ipVersion.headerLength + 4 := by omega
  obtain ⟨htcp, hsctp, hgre⟩ := protocol_of_kind stream
  rcases hkind with h | h | h
  · simp only [importedClassification, NormalizedStream.foundHeader, htcp h]
    rw [if_pos (by decide), if_neg hshort]
    rcases PacketType.isTcp_iff.mp h with htype | htype <;> rw [htype] <;> rfl
  · simp only [importedClassification, NormalizedStream.foundHeader, hsctp h]
    rw [if_neg (by decide), if_neg (by decide), if_neg (by simp), if_neg (by simp),
      if_neg (by decide), if_pos (by decide), if_neg hshort]
    rcases PacketType.isSctp_iff.mp h with htype | htype <;> rw [htype] <;> rfl
  · obtain ⟨payload, rfl⟩ := hsegment.gre h
    obtain ⟨info, hinfo, -⟩ := packetGreInfo_greHeader stream h hdrop
    simp only [importedClassification, NormalizedStream.foundHeader, hgre h, hinfo]
    rw [if_neg (by decide), if_neg (by decide), if_neg (by simp), if_neg (by simp),
      if_pos (by decide), if_neg (by simp), if_neg hshort]
    rcases PacketType.isGre_iff.mp h with htype | htype <;> rw [htype] <;> rfl

include hkind in
theorem importedStream_datagramPacket (hlink : stream.PlainLink)
    (hsegment : IsSegment stream segment) (hlength : 4 ≤ segment.length)
    (hle : stream.l2HeaderLength + stream.packetType.ipVersion.headerLength + segment.length
      ≤ 9212) :
    importedStream (stream.datagramPacket length segment)
      = some (importedFields (stream.datagramPacket length segment) stream.l2Info
        (stream.foundLayout (stream.datagramPacket length segment))
        (upperFields (stream.datagramPacket length segment) stream.foundHeader true)) := by
  have hl2 := packetL2PayloadInfo_datagramPacket stream length segment hlink
  have hip : ipHeader (stream.datagramPacket length segment) = some stream.foundHeader :=
    ipHeader_datagramPacket stream length segment hkind hlink
  have hclass :=
    importedClassification_datagramPacket stream length segment hkind hsegment hlength
  have hpacket : ¬9216 < (stream.datagramPacket length segment).length + 4 := by
    rw [NormalizedStream.datagramPacket, List.length_append, List.length_append,
      stream.length_ethernetHeader, length_ipHeaderBytes]
    omega
  have hprotocol : ¬stream.protocol.toNat = 17 := by
    obtain ⟨htcp, hsctp, hgre⟩ := protocol_of_kind stream
    rcases hkind with h | h | h
    · rw [htcp h]
      decide
    · rw [hsctp h]
      decide
    · rw [hgre h]
      decide
  have hstream : ∃ found, streamFromEthernetPacket (stream.datagramPacket length segment)
      = some (stream.foundLayout (stream.datagramPacket length segment), found) := by
    simp only [streamFromEthernetPacket, hl2, hip, ipStream, hclass]
    simp only [NormalizedStream.foundHeader, hprotocol, if_false]
    rw [if_neg hpacket]
    exact ⟨_, rfl⟩
  obtain ⟨found, hstream⟩ := hstream
  simp only [importedStream, hstream, hl2, hip, hclass]
  rfl

include hkind in
theorem recovers_datagramPacket (hsegment : IsSegment stream segment) :
    Recovers Ipv6Address.SamePacked stream
      (importedFields (stream.datagramPacket length segment) stream.l2Info
        (stream.foundLayout (stream.datagramPacket length segment))
        (upperFields (stream.datagramPacket length segment) stream.foundHeader true)) := by
  obtain ⟨hdrop, hsegmentDrop⟩ := drop_datagramPacket stream length segment
  obtain ⟨htcp, hsctp, hgre⟩ := protocol_of_kind stream
  obtain ⟨hl3, harp, -, -⟩ := kind_hasL3 stream hkind
  constructor
  · have htype : (stream.foundLayout (stream.datagramPacket length segment)).packetType
        = stream.packetType := rfl
    have hmpls : (stream.foundLayout (stream.datagramPacket length segment)).mplsStack
        = stream.mplsStack := mplsStack_apply stream { packetType := stream.packetType }
    exact linkRecovered stream _ htype hmpls
  · intro h
    rw [h] at hl3
    cases hl3
  · intro _ hversion
    rw [hversion] at hdrop
    have hfields : (upperFields (stream.datagramPacket length segment) stream.foundHeader true).ipv4
        = importedIpv4Fields (stream.datagramPacket length segment) stream.l2HeaderLength := by
      simp only [upperFields, NormalizedStream.foundHeader, hversion]
    show Ipv4Recovered _ (UpperFields.ipv4 _)
    rw [hfields]
    exact importedIpv4Fields_ipv4Header stream hdrop
  · intro _ hversion
    rw [hversion] at hdrop
    have hfields : (upperFields (stream.datagramPacket length segment) stream.foundHeader true).ipv6
        = importedIpv6Fields (stream.datagramPacket length segment) stream.l2HeaderLength := by
      simp only [upperFields, NormalizedStream.foundHeader, hversion]
    show Ipv6Recovered _ _ (UpperFields.ipv6 _)
    rw [hfields]
    exact importedIpv6Fields_ipv6Header stream hdrop
  · rintro (h | h)
    · obtain ⟨checksum, payload, rfl⟩ := hsegment.tcp h
      exact ports_tcpHeader stream.toStream hsegmentDrop
    · obtain ⟨payload, rfl⟩ := hsegment.sctp h
      exact ports_sctpHeader stream.toStream hsegmentDrop
  · intro h
    obtain ⟨checksum, payload, rfl⟩ := hsegment.tcp h
    show TcpRecovered _ (if stream.protocol.toNat = 6 then _ else _)
    rw [htcp h, if_pos (by decide)]
    exact tcpFieldsFromPacket_tcpHeader stream.toStream hsegmentDrop
  · intro h
    obtain ⟨checksum, payload, rfl⟩ := hsegment.tcp h
    have hoptions := tcpOptionsFromPacket_tcpHeader stream.toStream hsegmentDrop
    show TcpOptionsRecovered _ (stream.foundLayout _)
    simp only [NormalizedStream.foundLayout, htcp h]
    rw [if_neg (by decide), if_pos (by decide), hoptions]
    have hrecovered := tcpOptionsRecovered stream.toLayoutFields
      (stream.l2Info.apply { packetType := stream.packetType })
    exact ⟨hrecovered.1, hrecovered.2, hrecovered.3, hrecovered.4, hrecovered.5, hrecovered.6,
      hrecovered.7, hrecovered.8, hrecovered.9, hrecovered.10, hrecovered.11⟩
  · intro h
    obtain ⟨payload, rfl⟩ := hsegment.sctp h
    show SctpRecovered _ (if stream.protocol.toNat = 132 then _ else _)
    rw [hsctp h, if_pos (by decide)]
    exact sctpFieldsFromPacket_sctpHeader stream.toStream hsegmentDrop
  · intro h
    obtain ⟨payload, rfl⟩ := hsegment.gre h
    obtain ⟨info, hinfo, hrecovered⟩ := packetGreInfo_greHeader stream h hsegmentDrop
    show GreRecovered _ _ (stream.foundLayout _) (if stream.protocol.toNat = 47 then _ else _)
    simp only [NormalizedStream.foundLayout, NormalizedStream.foundHeader, hgre h]
    rw [if_pos (by decide), if_neg (by decide), hinfo]
    exact hrecovered _

end Recovery

/-- A packet built from a stream of these kinds is imported again, with everything that the
builder encoded of the stream. -/
theorem import_recovers (stream : NormalizedStream) (draws : Nat → UInt32)
    (h : stream.Encodable) :
    ∃ imported, importedStream (stream.buildProfilePacket draws) = some imported
      ∧ Recovers Ipv6Address.SamePacked stream imported := by
  rcases h.kind with ⟨htype, hhardware, hprotocol⟩ | hkind
  · exact recovers_arp stream draws h.link htype hhardware hprotocol
  · obtain ⟨length, segment, hpacket, hsegment, hle, hlength⟩ :=
      buildProfilePacket_datagram stream draws hkind
    rw [hpacket]
    exact ⟨_, importedStream_datagramPacket stream length segment hkind h.link hsegment hlength hle,
      recovers_datagramPacket stream length segment hkind hsegment⟩

theorem plain_gre : false = true ∨ false = true → PacketType.ipv6Gre = .ipv4Udp := by decide

theorem plain_tcp : false = true ∨ false = true → PacketType.ipv6Tcp = .ipv4Udp := by decide

def labelledGreStream : NormalizedStream :=
  { plainStream with
    packetType := .ipv6Gre
    vlanEnabled := true
    vlan2Enabled := true
    vlanTpidOverride := true
    vlanTpid := 0x88A8
    vlanPriority := 5
    vlanId := 100
    vlan2Id := 200
    mplsEnabled := true
    mplsLabel2Enabled := true
    mplsLabel3Enabled := true
    greKeyPresent := true
    greKey := 7
    tunnel_udp := plain_gre
    vlanPriority_le := by decide
    vlanId_le := by decide
    vlan2Id_le := by decide
    mpls_l3 := by decide
    greProtocolType_eq := by decide }

theorem import_recovers_labelledGreStream :
    ∃ imported, importedStream (labelledGreStream.buildProfilePacket fun _ => 0) = some imported
      ∧ Recovers Ipv6Address.SamePacked labelledGreStream imported :=
  import_recovers labelledGreStream (fun _ => 0)
    ⟨⟨rfl, by decide⟩, Or.inr (Or.inr (Or.inr rfl))⟩

def scopedStream : NormalizedStream :=
  { plainStream with
    packetType := .ipv6Tcp
    ipv6Src := ⟨[0xFE, 0x80, 0, 0, 0, 0, 0, 0, 0, 0, 0, 0, 0, 0, 0, 1], rfl⟩
    ipv6SrcScope := some "eth0"
    tunnel_udp := plain_tcp
    mpls_l3 := by decide
    greProtocolType_eq := by decide }

/-- The packet does not have the scope, so the importer returns another address. -/
theorem import_loses_scope :
    ¬∀ (stream : NormalizedStream) (draws : Nat → UInt32), stream.Encodable →
      ∃ imported, importedStream (stream.buildProfilePacket draws) = some imported
        ∧ Recovers Eq stream imported := by
  intro hall
  obtain ⟨imported, himported, hrecovers⟩ := hall scopedStream (fun _ => 0)
    ⟨⟨rfl, by decide⟩, Or.inr (Or.inl rfl)⟩
  have hsource := (hrecovers.ipv6 rfl rfl).src
  have hscope : imported.ipv6.src.scopeId = none := by
    simp only [importedStream, Option.bind_eq_bind, Option.bind_eq_some_iff] at himported
    obtain ⟨found, -, l2, -, himported⟩ := himported
    split at himported
    · cases himported
      rfl
    · rename_i ip _
      obtain ⟨⟨_, hasL4⟩, -, himported⟩ := Option.bind_eq_some_iff.mp himported
      cases himported
      show (upperFields _ ip hasL4).ipv6.src.scopeId = none
      unfold upperFields
      cases ip.version <;> rfl
  rw [hsource] at hscope
  cases hscope

end TrexWebui
