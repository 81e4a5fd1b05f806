import TrexWebui.PacketChecks

/-!
# Built packets are consistent

Every length and checksum of a built packet is right, whatever the stream: the
headers stand where the layout functions say, each has the length that the
builder subtracted for it, and each checksum is computed over what is sent.
-/

namespace TrexWebui

open PyStr Octets InternetChecksum

/-! ## The statement -/

/-- What is right about a packet whose headers stand where the layout says. -/
structure ConsistentPacket (stream : LayoutFields) (packet : Bytes) : Prop where
  ip : stream.packetType.hasL3 = true →
    IpChecked stream.packetType.ipVersion (packet.drop stream.ipOffset)
  udpLength : stream.packetType.isUdp = true → UdpLengthChecked (packet.drop stream.l4Offset)
  udpChecksum : stream.packetType = .ipv6Udp →
    TransportChecked .ipv6 (packet.drop stream.ipOffset)
  tcpChecksum : stream.packetType.isTcp = true →
    TransportChecked stream.packetType.ipVersion (packet.drop stream.ipOffset)
  icmpChecksum : stream.packetType = .ipv4Icmp →
    internetChecksum (packet.drop stream.l4Offset) = 0
  icmpv6Checksum : stream.packetType = .ipv6Icmpv6 →
    TransportChecked .ipv6 (packet.drop stream.ipOffset)
  sctp : stream.packetType.isSctp = true → SctpChecked (packet.drop stream.l4Offset)
  greChecksum : stream.packetType.isGre = true → stream.greChecksumPresent = true →
    internetChecksum (packet.drop stream.l4Offset) = 0
  greInner : stream.packetType.isGre = true →
    InnerChecked stream.greInnerVersion (packet.drop stream.greInnerOffset)
  vxlanInner : stream.vxlanEnabled = true →
    InnerChecked stream.vxlanInnerIpVersion (packet.drop stream.vxlanInnerOffset)
  gtpuLength : stream.hasGtpu = true →
    GtpuLengthChecked (packet.drop (stream.l4Offset + 8))
  gtpuInner : stream.hasGtpu = true →
    InnerChecked stream.gtpuInnerIpVersion (packet.drop stream.gtpuInnerOffset)

/-- Every checksum and length is computed. -/
structure Stream.NoOverrides (stream : Stream) : Prop where
  ipv4Checksum : stream.ipv4ChecksumOverride = false
  udpLength : stream.udpLengthOverride = false
  udpChecksum : stream.udpChecksumOverride = false
  tcpChecksum : stream.tcpChecksumOverride = false
  icmpChecksum : stream.icmp.checksumOverride = false
  greChecksum : stream.greChecksumOverride = false
  sctpChecksum : stream.sctpChecksumOverride = false

/-! ## Inner datagrams -/

@[simp] theorem length_innerUdpHeader (inner : InnerFields) (payloadLength checksum : Nat) :
    (innerUdpHeader inner payloadLength checksum).length = 8 := rfl

theorem length_innerPacket (version : IpVersion) (inner : InnerFields) (payload : Bytes) :
    (innerPacket version inner payload).length = version.headerLength + 8 + payload.length := by
  cases version with
  | ipv4 =>
      simp only [innerPacket, innerIpv4Packet, IpVersion.headerLength, List.length_append]
      rw [length_putBe16 (by simp)]
      simp
  | ipv6 =>
      simp [innerPacket, innerIpv6Packet, IpVersion.headerLength]
      omega

theorem innerUdpHeader_carries (inner : InnerFields) (payloadLength : Nat) :
    Carries (innerUdpHeader inner payloadLength) :=
  ⟨be16 inner.l4SrcPort.toNat ++ be16 inner.l4DstPort.toNat ++ be16 (8 + payloadLength), [], by simp,
    fun _ => by rw [List.append_nil]; rfl⟩

theorem innerUdpLength (inner : InnerFields) (checksum : Nat) {payload : Bytes}
    (h : payload.length < 60000) :
    UdpLengthChecked (innerUdpHeader inner payload.length checksum ++ payload) := by
  have hlt : 8 + payload.length < 65536 := by omega
  have hwrite := be16At_write (be16 inner.l4SrcPort.toNat ++ be16 inner.l4DstPort.toNat)
    (be16 checksum ++ payload) 4 rfl hlt
  rw [← List.append_assoc] at hwrite
  constructor
  · simp
  · rw [List.length_append, length_innerUdpHeader]
    exact hwrite

theorem innerIpv4Packet_checked (inner : InnerFields) {payload : Bytes}
    (h : payload.length < 60000) : InnerChecked .ipv4 (innerIpv4Packet inner payload) := by
  generalize hsegment : innerUdpHeader inner payload.length 0 ++ payload = segment
  have hlength : 20 + (innerUdpHeader inner payload.length 0).length + payload.length
      = 20 + segment.length := by
    rw [← hsegment, List.length_append, Nat.add_assoc]
  have hudp : UdpLengthChecked segment := hsegment ▸ innerUdpLength inner 0 h
  have hlt : segment.length < 65000 := by
    rw [length_innerUdpHeader] at hlength
    omega
  simp only [innerIpv4Packet]
  rw [List.append_assoc, hsegment, hlength]
  constructor
  · exact ipv4Checked_packIpv4Header _ _ _ _ _ _ _ _ hlt
  · rwa [IpVersion.headerLength, drop_packIpv4Header]
  · nofun

theorem innerIpv6Packet_checked (inner : InnerFields) {payload : Bytes}
    (h : payload.length < 60000) : InnerChecked .ipv6 (innerIpv6Packet inner payload) := by
  have hchecksum := l4ChecksumIpv6_verifies
    ((innerUdpHeader_carries inner payload.length).append payload) inner.ipv6Src inner.ipv6Dst 17 rfl
  have hudp := innerUdpLength inner (l4ChecksumIpv6 inner.ipv6Src inner.ipv6Dst 17
    (innerUdpHeader inner payload.length 0 ++ payload)) h
  simp only [innerIpv6Packet]
  generalize l4ChecksumIpv6 inner.ipv6Src inner.ipv6Dst 17
    (innerUdpHeader inner payload.length 0 ++ payload) = checksum at hchecksum hudp ⊢
  rw [List.append_assoc, ← List.length_append]
  generalize hsegment : innerUdpHeader inner payload.length checksum ++ payload = segment
    at hchecksum hudp ⊢
  have hlt : segment.length < 65536 := by
    rw [← hsegment, List.length_append, length_innerUdpHeader]
    omega
  constructor
  · exact ipv6Checked_packIpv6Header _ _ _ _ _ _ (by decide) hlt
  · rwa [IpVersion.headerLength, drop_packIpv6Header]
  · intro _
    rwa [TransportChecked, pseudoHeader_packIpv6Header, IpVersion.headerLength, drop_packIpv6Header]

theorem innerPacket_checked (version : IpVersion) (inner : InnerFields) {payload : Bytes}
    (h : payload.length < 60000) : InnerChecked version (innerPacket version inner payload) := by
  cases version with
  | ipv4 => exact innerIpv4Packet_checked inner h
  | ipv6 => exact innerIpv6Packet_checked inner h

namespace Stream

variable (stream : Stream) (draws : Nat → UInt32)

/-! ## Lengths -/

theorem targetLength_le : stream.targetLength ≤ 9212 := by
  have hle := stream.frameLength_le
  unfold targetLength
  omega

theorem length_mplsHeader : stream.mplsHeader.length = 4 * stream.mplsStack.length := by
  rw [mplsHeader, List.length_flatMap]
  simp only [length_be32, List.map_const', List.sum_replicate_nat]
  omega

theorem length_ethernetHeader : stream.ethernetHeader.length = stream.l2HeaderLength := by
  have hmpls := stream.length_mplsHeader
  have hnone : stream.mplsEnabled = false → stream.mplsStack = [] := by
    intro h
    simp [LayoutFields.mplsStack, h]
  have hstack : (if stream.mplsEnabled then stream.mplsHeader else []).length
      = 4 * stream.mplsStack.length := by
    cases h : stream.mplsEnabled with
    | false => simp [hnone h]
    | true => simpa [h] using hmpls
  rw [ethernetHeader, LayoutFields.l2HeaderLength, List.length_append, hstack]
  unfold LayoutFields.vlanTagCount
  cases stream.vlanEnabled <;> cases stream.vlan2Enabled <;> simp

theorem length_messagePayload (message : Bytes) (length : Nat) :
    (stream.messagePayload draws message length).length = length := by
  unfold messagePayload
  split
  · rw [List.length_take]
    omega
  · rw [List.length_append, length_payloadBytes]
    omega

theorem length_udpPayloadBytes (length : Nat) :
    (stream.udpPayloadBytes draws length).length = length := by
  unfold udpPayloadBytes
  split_ifs with hzero
  · rw [hzero, List.length_nil]
  · exact stream.length_messagePayload draws _ length
  · exact length_payloadBytes ..
  · exact stream.length_messagePayload draws _ length

theorem headerLength_le (version : IpVersion) : version.headerLength ≤ 40 := by
  cases version <;> decide

theorem length_vxlanPayloadBytes_le {length : Nat} (h : length ≤ 9212) :
    (stream.vxlanPayloadBytes draws length).length ≤ 9212 := by
  have hversion := headerLength_le stream.vxlanInnerIpVersion
  simp only [vxlanPayloadBytes, List.length_append, length_innerPacket, length_payloadBytes,
    Fixed.length_val, length_be16, length_be24, List.length_cons, List.length_nil]
  omega

theorem length_gtpuOptionalHeader :
    stream.gtpuOptionalHeader.length = stream.gtpuOptionalHeaderLength := by
  unfold gtpuOptionalHeader LayoutFields.gtpuOptionalHeaderLength
  split <;> simp

theorem length_gtpuExtensionHeader :
    stream.gtpuExtensionHeader.length = stream.gtpuExtensionHeaderLength := by
  unfold gtpuExtensionHeader LayoutFields.gtpuExtensionHeaderLength
  split <;> simp

theorem gtpuOptionalHeaderLength_le : stream.gtpuOptionalHeaderLength ≤ 4 := by
  unfold LayoutFields.gtpuOptionalHeaderLength
  split <;> omega

theorem gtpuExtensionHeaderLength_le : stream.gtpuExtensionHeaderLength ≤ 4 := by
  unfold LayoutFields.gtpuExtensionHeaderLength
  split <;> omega

theorem length_gtpuPayloadBytes_le {length : Nat} (h : length ≤ 9212) :
    (stream.gtpuPayloadBytes draws length).length ≤ 9212 := by
  have hversion := headerLength_le stream.gtpuInnerIpVersion
  have hoptional := stream.gtpuOptionalHeaderLength_le
  have hextension := stream.gtpuExtensionHeaderLength_le
  simp only [gtpuPayloadBytes, List.length_append, length_innerPacket, length_payloadBytes,
    length_be16, length_be32, length_gtpuOptionalHeader, length_gtpuExtensionHeader,
    List.length_cons, List.length_nil]
  omega

theorem length_grePayloadBytes_le {length : Nat} (h : length ≤ 9212) :
    (stream.grePayloadBytes draws length).length ≤ 9212 := by
  have hversion := headerLength_le stream.greInnerVersion
  rw [grePayloadBytes, length_innerPacket, length_payloadBytes]
  omega

theorem length_ipv4Payload_le : (stream.ipv4Payload draws).length ≤ 9212 := by
  have htarget := stream.targetLength_le
  unfold ipv4Payload
  generalize hlength : stream.targetLength - stream.l2HeaderLength - 20 - stream.l4HeaderLength
    = length
  have hle : length ≤ 9212 := by omega
  split_ifs
  · exact stream.length_gtpuPayloadBytes_le draws hle
  · exact stream.length_vxlanPayloadBytes_le draws hle
  · exact stream.length_grePayloadBytes_le draws hle
  · rwa [length_udpPayloadBytes]
  · rwa [length_payloadBytes]

theorem length_ipv6Payload_le : (stream.ipv6Payload draws).length ≤ 9212 := by
  have htarget := stream.targetLength_le
  unfold ipv6Payload
  generalize hlength : stream.targetLength - stream.l2HeaderLength - 40 - stream.l4HeaderLength
    = length
  have hle : length ≤ 9212 := by omega
  split_ifs
  · exact stream.length_grePayloadBytes_le draws hle
  · rwa [length_udpPayloadBytes]
  · rwa [length_payloadBytes]

/-! ## Transport headers -/

theorem length_udpHeader (payloadLength checksum : Nat) :
    (stream.udpHeader payloadLength checksum).length = 8 := rfl

theorem length_tcpHeader (checksum : Nat) :
    (stream.tcpHeader checksum).length = stream.tcpHeaderLength := by
  simp only [tcpHeader, LayoutFields.tcpHeaderLength, List.length_append, length_be16, length_be32]

theorem length_icmpHeader (checksum : Nat) :
    (stream.icmpHeader checksum).length = stream.icmpHeaderLength := by
  unfold icmpHeader icmpBody icmpHeaderLength
  simp only [List.length_append, length_be16, apply_ite List.length, List.length_cons,
    List.length_nil, Fixed.length_val, length_be32]
  split_ifs <;> rfl

theorem length_greHeader (payload : Bytes) :
    (stream.greHeader payload).length = stream.greHeaderLength := by
  unfold greHeader greKeyAndSequence LayoutFields.greHeaderLength
  cases stream.greChecksumPresent <;> cases stream.greKeyPresent <;>
    cases stream.greSequencePresent <;> simp [length_putBe16]

theorem length_arpHeader : stream.arpHeader.length = 28 := by
  simp [arpHeader]

theorem length_sctpHeader (payload : Bytes) : (stream.sctpHeader payload).length = 28 := by
  simp [sctpHeader, sctpDataChunk]

theorem length_ipv4L4Header (payload : Bytes) (h : stream.packetType.hasL3 = true)
    (hversion : stream.packetType.ipVersion = .ipv4) :
    (stream.ipv4L4Header payload).length = stream.l4HeaderLength := by
  unfold ipv4L4Header l4HeaderLength
  generalize stream.packetType = packetType at h hversion ⊢
  cases packetType <;> simp_all [length_udpHeader, length_tcpHeader, length_icmpHeader,
    length_greHeader, length_sctpHeader, PacketType.ipVersion, PacketType.hasL3]

theorem length_ipv6L4Header (payload : Bytes) (h : stream.packetType.hasL3 = true)
    (hversion : stream.packetType.ipVersion = .ipv6) :
    (stream.ipv6L4Header payload).length = stream.l4HeaderLength := by
  unfold ipv6L4Header l4HeaderLength
  generalize stream.packetType = packetType at h hversion ⊢
  cases packetType <;> simp_all [length_udpHeader, length_tcpHeader, length_icmpHeader,
    length_greHeader, length_sctpHeader, PacketType.ipVersion, PacketType.hasL3]

/-! ## Checksums of the headers -/

theorem udpHeader_carries (h : stream.udpChecksumOverride = false) (payloadLength : Nat) :
    Carries (stream.udpHeader payloadLength) := by
  refine ⟨be16 stream.l4SrcPort.toNat ++ be16 stream.l4DstPort.toNat
    ++ be16 (if stream.udpLengthOverride then stream.udpLength.toNat else max 8 (8 + payloadLength)),
    [], by simp, ?_⟩
  intro checksum
  simp [udpHeader, h]

theorem tcpHeader_carries (h : stream.tcpChecksumOverride = false) : Carries stream.tcpHeader := by
  refine ⟨be16 stream.l4SrcPort.toNat ++ be16 stream.l4DstPort.toNat
    ++ be32 stream.tcpSequenceNumber.toNat ++ be32 stream.tcpAckNumber.toNat
    ++ be16 ((20 + stream.tcpOptionsBytes.length) / 4 * 4096 + stream.tcpFlagsValue)
    ++ be16 stream.tcpWindow.toNat,
    be16 stream.tcpUrgentPointer.toNat ++ stream.tcpOptionsBytes, by simp, ?_⟩
  intro checksum
  simp [tcpHeader, h]

theorem icmpHeader_carries (h : stream.icmp.checksumOverride = false) :
    Carries stream.icmpHeader := by
  refine ⟨[stream.icmp.type, stream.icmp.code], stream.icmpBody, by simp, ?_⟩
  intro checksum
  simp [icmpHeader, h]

theorem udpHeader_checked (h : stream.udpLengthOverride = false) (checksum : Nat) {payload : Bytes}
    (hle : payload.length ≤ 9212) :
    UdpLengthChecked (stream.udpHeader payload.length checksum ++ payload) := by
  have hlength : (if stream.udpLengthOverride then stream.udpLength.toNat
      else max 8 (8 + payload.length)) = 8 + payload.length := by
    rw [if_neg (by simp [h])]
    omega
  have hlt : 8 + payload.length < 65536 := by omega
  have hwrite := be16At_write (be16 stream.l4SrcPort.toNat ++ be16 stream.l4DstPort.toNat)
    (be16 (if stream.udpChecksumOverride then stream.udpChecksum.toNat else checksum) ++ payload)
    4 rfl hlt
  rw [← List.append_assoc] at hwrite
  constructor
  · rw [List.length_append, length_udpHeader]
    omega
  · rw [List.length_append, length_udpHeader, udpHeader, hlength]
    exact hwrite

theorem greHeader_checksum (h : stream.greChecksumOverride = false)
    (hpresent : stream.greChecksumPresent = true) (payload : Bytes) :
    internetChecksum (stream.greHeader payload ++ payload) = 0 := by
  let front := be16 stream.greFlags ++ be16 stream.greProtocolType
  let back := [0, 0] ++ stream.greKeyAndSequence
  have hfront : front.length = 4 := rfl
  have hheader : front ++ [0, 0, 0, 0] ++ stream.greKeyAndSequence = front ++ be16 0 ++ back := by
    simp [back, be16]
  have hcarries : Carries fun n => front ++ be16 n ++ back ++ payload :=
    ⟨front, back ++ payload, by omega, fun n => List.append_assoc ..⟩
  have hgre : stream.greHeader payload
      = front ++ be16 (internetChecksum (front ++ be16 0 ++ back ++ payload)) ++ back := by
    simp only [greHeader, hpresent, if_true, h, Bool.false_eq_true, if_false]
    rw [hheader]
    exact putBe16_field hfront ..
  rw [hgre]
  exact hcarries.verifies

theorem sctpHeader_checked (h : stream.sctpChecksumOverride = false) {payload : Bytes}
    (hle : payload.length ≤ 9212) : SctpChecked (stream.sctpHeader payload ++ payload) := by
  let ports := be16 stream.l4SrcPort.toNat ++ be16 stream.l4DstPort.toNat
    ++ be32 stream.sctpVerificationTag.toNat
  let back := stream.sctpDataChunk payload ++ payload
  generalize hcrc : sctpCrc32c (ports ++ [0, 0, 0, 0] ++ back) = crc
  have hsegment : stream.sctpHeader payload ++ payload = ports ++ le32 crc.toNat ++ back := by
    simp only [sctpHeader, h, Bool.false_eq_true, if_false]
    rw [List.append_assoc _ (stream.sctpDataChunk payload) payload,
      List.append_assoc _ (stream.sctpDataChunk payload) payload, ← hcrc]
  have hlength : (stream.sctpHeader payload ++ payload).length = 28 + payload.length := by
    rw [List.length_append, length_sctpHeader]
  have hports : ports.length = 8 := rfl
  have hdrop : (ports ++ le32 crc.toNat ++ back).drop 12 = back := List.drop_left' rfl
  constructor
  · omega
  · rw [hsegment, hdrop, le32At_write _ _ _ hports crc.toNat_lt, List.append_assoc ports,
      List.take_left' hports, hcrc]
  · have hwrite := be16At_write (ports ++ le32 crc.toNat ++ [0, stream.sctpDataFlags])
      (be32 stream.sctpTsn.toNat ++ (be16 stream.sctpStreamId.toNat
        ++ (be16 stream.sctpStreamSequence.toNat ++ (be32 stream.sctpPayloadProtocolId.toNat
          ++ payload)))) 14 (n := 16 + payload.length) rfl (by omega)
    rw [hlength, hsegment]
    simp only [back, sctpDataChunk, List.append_assoc] at hwrite ⊢
    rw [hwrite]
    omega

theorem gtpuPayloadBytes_length {length : Nat} (hle : length ≤ 9212) :
    GtpuLengthChecked (stream.gtpuPayloadBytes draws length) := by
  have htotal := stream.length_gtpuPayloadBytes_le draws hle
  simp only [gtpuPayloadBytes] at htotal ⊢
  generalize innerPacket _ _ _ = inner at htotal ⊢
  generalize UInt8.ofNat _ = flags at htotal ⊢
  have hlength : ([flags, stream.gtpuMessageType]
      ++ be16 (stream.gtpuOptionalHeaderLength + stream.gtpuExtensionHeaderLength + inner.length)
      ++ be32 stream.gtpuTeid.toNat ++ stream.gtpuOptionalHeader ++ stream.gtpuExtensionHeader
      ++ inner).length
      = 8 + (stream.gtpuOptionalHeaderLength + stream.gtpuExtensionHeaderLength + inner.length) := by
    simp only [List.length_append, length_gtpuOptionalHeader, length_gtpuExtensionHeader,
      length_be16, length_be32, List.length_cons, List.length_nil]
    omega
  rw [hlength] at htotal
  have hlt : stream.gtpuOptionalHeaderLength + stream.gtpuExtensionHeaderLength + inner.length
      < 65536 := by omega
  have hwrite := be16At_write [flags, stream.gtpuMessageType] (be32 stream.gtpuTeid.toNat
    ++ (stream.gtpuOptionalHeader ++ (stream.gtpuExtensionHeader ++ inner))) 2 rfl hlt
  simp only [← List.append_assoc] at hwrite
  constructor
  · omega
  · rw [hlength, hwrite]
    omega

theorem gtpuPayloadBytes_inner {length : Nat} (hle : length ≤ 9212) :
    InnerChecked stream.gtpuInnerIpVersion ((stream.gtpuPayloadBytes draws length).drop
      (8 + stream.gtpuOptionalHeaderLength + stream.gtpuExtensionHeaderLength)) := by
  simp only [gtpuPayloadBytes]
  rw [List.drop_left']
  · apply innerPacket_checked
    rw [length_payloadBytes]
    omega
  · simp only [List.length_append, length_gtpuOptionalHeader, length_gtpuExtensionHeader,
      length_be16, length_be32, List.length_cons, List.length_nil]

theorem vxlanPayloadBytes_inner {length : Nat} (hle : length ≤ 9212) :
    InnerChecked stream.vxlanInnerIpVersion ((stream.vxlanPayloadBytes draws length).drop 22) := by
  simp only [vxlanPayloadBytes]
  rw [List.drop_left']
  · apply innerPacket_checked
    rw [length_payloadBytes]
    omega
  · simp

theorem grePayloadBytes_inner {length : Nat} (hle : length ≤ 9212) :
    InnerChecked stream.greInnerVersion (stream.grePayloadBytes draws length) := by
  apply innerPacket_checked
  rw [length_payloadBytes]
  omega

/-! ## Packets -/

theorem icmpHeaderLength_le : stream.icmpHeaderLength ≤ 56 := by
  unfold icmpHeaderLength
  split_ifs <;> omega

theorem l4HeaderLength_le : stream.l4HeaderLength ≤ 56 := by
  have htcp := stream.tcpHeaderLength_le
  have hgre := stream.greHeaderLength_le
  have hicmp := stream.icmpHeaderLength_le
  unfold l4HeaderLength
  split <;> omega

theorem drop_ipOffset (datagram : Bytes) :
    (stream.ethernetHeader ++ datagram).drop stream.ipOffset = datagram :=
  List.drop_left' stream.length_ethernetHeader

theorem ipv4Udp_of_vxlan (h : stream.vxlanEnabled = true) :
    stream.packetType = .ipv4Udp ∧ stream.hasGtpu = false := by
  have hgtpu : stream.gtpuEnabled = false := by
    cases hgtpu : stream.gtpuEnabled with
    | false => rfl
    | true => exact absurd (stream.gtpu_only hgtpu) (by simp [h])
  exact ⟨stream.tunnel_udp (.inl h), by simp [LayoutFields.hasGtpu, hgtpu]⟩

theorem ipv4Udp_of_gtpu (h : stream.hasGtpu = true) : stream.packetType = .ipv4Udp := by
  simp only [LayoutFields.hasGtpu, Bool.and_eq_true, decide_eq_true_eq] at h
  exact h.1

theorem no_tunnel (h : stream.packetType ≠ .ipv4Udp) :
    stream.vxlanEnabled = false ∧ stream.hasGtpu = false := by
  constructor
  · cases hvxlan : stream.vxlanEnabled with
    | false => rfl
    | true => exact absurd (stream.ipv4Udp_of_vxlan hvxlan).1 h
  · simp [LayoutFields.hasGtpu, h]

theorem consistent_ipv4 (h : stream.packetType.hasL3 = true)
    (hversion : stream.packetType.ipVersion = .ipv4) (hno : stream.NoOverrides) :
    ConsistentPacket stream.toLayoutFields (stream.buildIpv4Packet draws) := by
  have hpayload := stream.length_ipv4Payload_le draws
  have hl4 := stream.length_ipv4L4Header (stream.ipv4Payload draws) h hversion
  have hl4le := stream.l4HeaderLength_le
  have hl3 : stream.l3HeaderLength = 20 := by
    rw [LayoutFields.l3HeaderLength, if_pos h, hversion]
    rfl
  have htarget := stream.targetLength_le
  have hle : stream.targetLength - stream.l2HeaderLength - 20 - stream.l4HeaderLength ≤ 9212 := by
    omega
  generalize hsegment : stream.ipv4L4Header (stream.ipv4Payload draws) ++ stream.ipv4Payload draws
    = segment
  have hlength : (stream.ipv4L4Header (stream.ipv4Payload draws)).length
      + (stream.ipv4Payload draws).length = segment.length := by
    rw [← hsegment, List.length_append]
  have hpacket : stream.buildIpv4Packet draws
      = stream.ethernetHeader ++ (stream.ipv4Header segment.length ++ segment) := by
    simp only [buildIpv4Packet]
    rw [hlength, List.append_assoc, hsegment, List.append_assoc]
  have hdatagram : (stream.buildIpv4Packet draws).drop stream.ipOffset
      = stream.ipv4Header segment.length ++ segment := by
    rw [hpacket, drop_ipOffset]
  have hdrop : (stream.buildIpv4Packet draws).drop stream.l4Offset = segment := by
    rw [LayoutFields.l4Offset, ← List.drop_drop, hdatagram, hl3]
    exact drop_packIpv4Header ..
  have hpseudo : internetChecksum (stream.ipv4Src.val ++ stream.ipv4Dst.val ++ [0, stream.protocol]
      ++ be16 segment.length ++ segment) = 0
      → TransportChecked .ipv4 ((stream.buildIpv4Packet draws).drop stream.ipOffset) := by
    intro hsum
    rw [TransportChecked, hdatagram, ipv4Header, pseudoHeader_packIpv4Header,
      IpVersion.headerLength, drop_packIpv4Header]
    exact hsum
  constructor
  · intro _
    rw [hversion, hdatagram, ipv4Header, if_neg (by simp [hno.ipv4Checksum])]
    exact ipv4Checked_packIpv4Header _ _ _ _ _ _ _ _ (by omega)
  · intro hudp
    obtain hp | hp := PacketType.isUdp_iff.mp hudp
    · rw [hdrop, ← hsegment, ipv4L4Header, hp]
      exact stream.udpHeader_checked hno.udpLength 0 hpayload
    · simp [hp, PacketType.ipVersion] at hversion
  · intro hp
    simp [hp, PacketType.ipVersion] at hversion
  · intro htcp
    obtain hp | hp := PacketType.isTcp_iff.mp htcp
    · rw [hversion]
      apply hpseudo
      have hprotocol : stream.protocol = 6 := by rw [protocol, hp]
      have hverifies := l4ChecksumIpv4_verifies
        ((stream.tcpHeader_carries hno.tcpChecksum).append (stream.ipv4Payload draws))
        stream.ipv4Src stream.ipv4Dst 6 rfl
      rw [← hsegment, ipv4L4Header, hp, hprotocol]
      exact hverifies
    · simp [hp, PacketType.ipVersion] at hversion
  · intro hp
    rw [hdrop, ← hsegment, ipv4L4Header, hp]
    exact ((stream.icmpHeader_carries hno.icmpChecksum).append (stream.ipv4Payload draws)).verifies
  · intro hp
    simp [hp, PacketType.ipVersion] at hversion
  · intro hsctp
    obtain hp | hp := PacketType.isSctp_iff.mp hsctp
    · rw [hdrop, ← hsegment, ipv4L4Header, hp]
      exact stream.sctpHeader_checked hno.sctpChecksum hpayload
    · simp [hp, PacketType.ipVersion] at hversion
  · intro hgre hpresent
    obtain hp | hp := PacketType.isGre_iff.mp hgre
    · rw [hdrop, ← hsegment, ipv4L4Header, hp]
      exact stream.greHeader_checksum hno.greChecksum hpresent _
    · simp [hp, PacketType.ipVersion] at hversion
  · intro hgre
    obtain hp | hp := PacketType.isGre_iff.mp hgre
    · obtain ⟨hvxlan, hgtpu⟩ := stream.no_tunnel (by simp [hp])
      rw [LayoutFields.greInnerOffset, ← LayoutFields.l4Offset, ← List.drop_drop, hdrop, ← hsegment,
        ipv4L4Header, hp]
      dsimp only
      rw [List.drop_left' (stream.length_greHeader _), ipv4Payload, hgtpu, hvxlan, hgre]
      exact stream.grePayloadBytes_inner draws hle
    · simp [hp, PacketType.ipVersion] at hversion
  · intro hvxlan
    obtain ⟨hp, hgtpu⟩ := stream.ipv4Udp_of_vxlan hvxlan
    have hoffset : stream.vxlanInnerOffset = stream.l4Offset + (8 + 22) := rfl
    rw [hoffset, ← List.drop_drop, hdrop, ← hsegment, ipv4L4Header, hp]
    dsimp only
    rw [← List.drop_drop, List.drop_left' (stream.length_udpHeader _ _), ipv4Payload, hgtpu, hvxlan]
    exact stream.vxlanPayloadBytes_inner draws hle
  · intro hgtpu
    have hp := stream.ipv4Udp_of_gtpu hgtpu
    rw [← List.drop_drop, hdrop, ← hsegment, ipv4L4Header, hp]
    dsimp only
    rw [List.drop_left' (stream.length_udpHeader _ _), ipv4Payload, hgtpu]
    exact stream.gtpuPayloadBytes_length draws hle
  · intro hgtpu
    have hp := stream.ipv4Udp_of_gtpu hgtpu
    have hoffset : stream.gtpuInnerOffset = stream.l4Offset
        + (8 + (8 + stream.gtpuOptionalHeaderLength + stream.gtpuExtensionHeaderLength)) := by
      simp only [LayoutFields.gtpuInnerOffset, LayoutFields.gtpuTeidOffset, LayoutFields.l4Offset]
      omega
    rw [hoffset, ← List.drop_drop, hdrop, ← hsegment, ipv4L4Header, hp]
    dsimp only
    rw [← List.drop_drop, List.drop_left' (stream.length_udpHeader _ _), ipv4Payload, hgtpu]
    exact stream.gtpuPayloadBytes_inner draws hle

/-- The payload length of an IPv6 packet is that of the segment, though the builder computes it
from `l4_header_length`. -/
theorem consistent_ipv6 (h : stream.packetType.hasL3 = true)
    (hversion : stream.packetType.ipVersion = .ipv6) (hno : stream.NoOverrides) :
    ConsistentPacket stream.toLayoutFields (stream.buildIpv6Packet draws) := by
  have hpayload := stream.length_ipv6Payload_le draws
  have hl4 := stream.length_ipv6L4Header (stream.ipv6Payload draws) h hversion
  have hl4le := stream.l4HeaderLength_le
  have hl3 : stream.l3HeaderLength = 40 := by
    rw [LayoutFields.l3HeaderLength, if_pos h, hversion]
    rfl
  have hudp : stream.packetType ≠ .ipv4Udp := by
    intro hp
    simp [hp, PacketType.ipVersion] at hversion
  obtain ⟨hvxlan, hgtpu⟩ := stream.no_tunnel hudp
  have htarget := stream.targetLength_le
  have hle : stream.targetLength - stream.l2HeaderLength - 40 - stream.l4HeaderLength ≤ 9212 := by
    omega
  generalize hsegment : stream.ipv6L4Header (stream.ipv6Payload draws) ++ stream.ipv6Payload draws
    = segment
  have hlength : stream.l4HeaderLength + (stream.ipv6Payload draws).length = segment.length := by
    rw [← hsegment, List.length_append, hl4]
  have hpacket : stream.buildIpv6Packet draws
      = stream.ethernetHeader ++ (stream.ipv6Header segment.length ++ segment) := by
    simp only [buildIpv6Packet]
    rw [hlength, List.append_assoc, hsegment, List.append_assoc]
  have hdatagram : (stream.buildIpv6Packet draws).drop stream.ipOffset
      = stream.ipv6Header segment.length ++ segment := by
    rw [hpacket, drop_ipOffset]
  have hdrop : (stream.buildIpv6Packet draws).drop stream.l4Offset = segment := by
    rw [LayoutFields.l4Offset, ← List.drop_drop, hdatagram, hl3]
    exact drop_packIpv6Header ..
  have hpseudo : internetChecksum (stream.ipv6Src.val ++ stream.ipv6Dst.val ++ be32 segment.length
      ++ [0, 0, 0, stream.protocol] ++ segment) = 0
      → TransportChecked .ipv6 ((stream.buildIpv6Packet draws).drop stream.ipOffset) := by
    intro hsum
    rw [TransportChecked, hdatagram, ipv6Header, pseudoHeader_packIpv6Header,
      IpVersion.headerLength, drop_packIpv6Header]
    exact hsum
  constructor
  · intro _
    rw [hversion, hdatagram]
    exact ipv6Checked_packIpv6Header _ _ _ _ _ _ (by omega) (by omega)
  · intro hisUdp
    obtain hp | hp := PacketType.isUdp_iff.mp hisUdp
    · exact absurd hp hudp
    · rw [hdrop, ← hsegment, ipv6L4Header, hp]
      exact stream.udpHeader_checked hno.udpLength _ hpayload
  · intro hp
    apply hpseudo
    have hprotocol : stream.protocol = 17 := by rw [protocol, hp]
    have hverifies := l4ChecksumIpv6_verifies
      ((stream.udpHeader_carries hno.udpChecksum (stream.ipv6Payload draws).length).append
        (stream.ipv6Payload draws)) stream.ipv6Src stream.ipv6Dst 17 rfl
    rw [← hsegment, ipv6L4Header, hp, hprotocol]
    exact hverifies
  · intro htcp
    obtain hp | hp := PacketType.isTcp_iff.mp htcp
    · simp [hp, PacketType.ipVersion] at hversion
    · rw [hversion]
      apply hpseudo
      have hprotocol : stream.protocol = 6 := by rw [protocol, hp]
      have hverifies := l4ChecksumIpv6_verifies
        ((stream.tcpHeader_carries hno.tcpChecksum).append (stream.ipv6Payload draws))
        stream.ipv6Src stream.ipv6Dst 6 rfl
      rw [← hsegment, ipv6L4Header, hp, hprotocol]
      exact hverifies
  · intro hp
    simp [hp, PacketType.ipVersion] at hversion
  · intro hp
    apply hpseudo
    have hprotocol : stream.protocol = 58 := by rw [protocol, hp]
    have hverifies := l4ChecksumIpv6_verifies
      ((stream.icmpHeader_carries hno.icmpChecksum).append (stream.ipv6Payload draws))
      stream.ipv6Src stream.ipv6Dst 58 rfl
    rw [← hsegment, ipv6L4Header, hp, hprotocol]
    exact hverifies
  · intro hsctp
    obtain hp | hp := PacketType.isSctp_iff.mp hsctp
    · simp [hp, PacketType.ipVersion] at hversion
    · rw [hdrop, ← hsegment, ipv6L4Header, hp]
      exact stream.sctpHeader_checked hno.sctpChecksum hpayload
  · intro hgre hpresent
    obtain hp | hp := PacketType.isGre_iff.mp hgre
    · simp [hp, PacketType.ipVersion] at hversion
    · rw [hdrop, ← hsegment, ipv6L4Header, hp]
      exact stream.greHeader_checksum hno.greChecksum hpresent _
  · intro hgre
    obtain hp | hp := PacketType.isGre_iff.mp hgre
    · simp [hp, PacketType.ipVersion] at hversion
    · rw [LayoutFields.greInnerOffset, ← LayoutFields.l4Offset, ← List.drop_drop, hdrop, ← hsegment,
        ipv6L4Header, hp]
      dsimp only
      rw [List.drop_left' (stream.length_greHeader _), ipv6Payload, hgre]
      exact stream.grePayloadBytes_inner draws hle
  · intro h
    exact absurd h (by simp [hvxlan])
  · intro h
    exact absurd h (by simp [hgtpu])
  · intro h
    exact absurd h (by simp [hgtpu])

end Stream

/-! ## The theorem -/

/-- Without overrides, every length and every checksum of a built packet is right. -/
theorem builtPacket_consistent (stream : Stream) (draws : Nat → UInt32)
    (hno : stream.NoOverrides) :
    ConsistentPacket stream.toLayoutFields (stream.buildProfilePacket draws) := by
  cases hl3 : stream.packetType.hasL3 with
  | true =>
      have harp : stream.packetType.hasArp = false := by
        cases hp : stream.packetType <;> simp_all [PacketType.hasL3, PacketType.hasArp]
      rw [Stream.buildProfilePacket, harp, hl3]
      cases hversion : stream.packetType.ipVersion with
      | ipv4 => exact stream.consistent_ipv4 draws hl3 hversion hno
      | ipv6 => exact stream.consistent_ipv6 draws hl3 hversion hno
  | false =>
      -- without an internet header there is nothing to check
      have hudp : stream.packetType ≠ .ipv4Udp := by
        intro hp
        simp [hp, PacketType.hasL3] at hl3
      obtain ⟨hvxlan, hgtpu⟩ := stream.no_tunnel hudp
      have htype : stream.packetType = .ethernet ∨ stream.packetType = .arp := by
        cases hp : stream.packetType <;> simp_all [PacketType.hasL3]
      constructor <;> intro h <;> obtain hp | hp := htype <;>
        simp_all [PacketType.hasL3, PacketType.isUdp, PacketType.isTcp, PacketType.isSctp,
          PacketType.isGre]

/-- A TCP segment of 64 octets over IPv4. -/
theorem builtPacket_consistent_tcp :
    ConsistentPacket { packetType := .ipv4Tcp }
      (Stream.buildProfilePacket { packetType := .ipv4Tcp } fun _ => 0) :=
  builtPacket_consistent { packetType := .ipv4Tcp } _ ⟨rfl, rfl, rfl, rfl, rfl, rfl, rfl⟩

end TrexWebui
