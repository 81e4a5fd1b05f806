import TrexWebui.LinkRecovery

/-!
# Headers are recovered

One lemma for each header of the packet builder: where the packet has the
header, the importer reads the values that it was built from. Checksums and
lengths, which the builder computes, are left open.
-/

namespace TrexWebui

open PyStr Octets

/-! ## Addresses and the ARP header -/

section Arp

variable (stream : Stream) {packet after : Bytes} {offset : Nat}

def Stream.arpFields : ArpFields where
  hardwareType := stream.arpHardwareType.toNat
  protocolType := stream.arpProtocolType.toNat
  hardwareSize := stream.arpHardwareSize.toNat
  protocolSize := stream.arpProtocolSize.toNat
  operation := stream.arpOperation.toNat
  senderMac := stream.arpSenderMac.val
  senderIp := stream.arpSenderIp.val
  targetMac := stream.arpTargetMac.val
  targetIp := stream.arpTargetIp.val

theorem arpFieldsFromPacket_arpHeader (hdrop : packet.drop offset = stream.arpHeader ++ after)
    (hhardware : stream.arpHardwareSize = 6) (hprotocol : stream.arpProtocolSize = 4) :
    arpFieldsFromPacket packet offset = stream.arpFields := by
  have hlength := length_of_drop hdrop (n := 28) (by simp [Stream.arpHeader]; omega)
    (by decide)
  simp only [Stream.arpHeader, List.append_assoc] at hdrop
  have h2 : packet.drop (offset + 2) = _ := drop_next hdrop rfl
  have h4 : packet.drop (offset + 4) = _ := drop_next h2 rfl
  have h5 : packet.drop (offset + 5) = _ := drop_octet h4 rfl
  have h6 : packet.drop (offset + 6) = _ := drop_next h4 rfl
  have h8 : packet.drop (offset + 8) = _ := drop_next h6 rfl
  have h14 : packet.drop (offset + 14) = _ := drop_next h8 (by rw [Fixed.length_val])
  have h18 : packet.drop (offset + 18) = _ := drop_next h14 (by rw [Fixed.length_val])
  have h24 : packet.drop (offset + 24) = _ := drop_next h18 (by rw [Fixed.length_val])
  have hsize := octetAt_of_drop h4
  have hsize' := octetAt_of_drop h5
  rw [arpFieldsFromPacket, if_neg (by omega)]
  simp only [hsize, hsize', hhardware, hprotocol]
  rw [if_pos ⟨rfl, rfl, hlength⟩]
  simp only [packetIpv4FromBinary, Stream.arpFields, hhardware, hprotocol]
  rw [if_pos (by omega), if_pos (by omega), be16At_of_drop hdrop (UInt16.toNat_lt _),
    be16At_of_drop h2 (UInt16.toNat_lt _), be16At_of_drop h6 (UInt16.toNat_lt _),
    slice_of_drop h8 (Fixed.length_val _), slice_of_drop h14 (Fixed.length_val _),
    slice_of_drop h18 (Fixed.length_val _), slice_of_drop h24 (Fixed.length_val _)]

end Arp

/-! ## Internet headers -/

/-- The importer reads the values of the IPv4 header. -/
structure Ipv4Recovered (stream : Stream) (fields : Ipv4Fields) : Prop where
  src : fields.src = stream.ipv4Src.val
  dst : fields.dst = stream.ipv4Dst.val
  dscp : fields.dscp = stream.ipv4Dscp
  ecn : fields.ecn = stream.ipv4Ecn
  id : fields.id = stream.ipv4Id.toNat
  flagDf : fields.flagDf = stream.ipv4FlagDf
  flagMf : fields.flagMf = stream.ipv4FlagMf
  fragmentOffset : fields.fragmentOffset = stream.ipv4FragmentOffset
  ttl : fields.ttl = stream.ipv4Ttl.toNat

section Ipv4

variable (stream : NormalizedStream) {packet segment : Bytes} {offset following : Nat}

def Stream.fragmentWord (stream : Stream) : Nat :=
  (if stream.ipv4FlagDf then 0x4000 else 0) + (if stream.ipv4FlagMf then 0x2000 else 0)
    + stream.ipv4FragmentOffset % 8192

theorem ipv4Header_eq : ∃ checksum, stream.ipv4Header following ++ segment =
    0x45 :: .ofNat (stream.ipv4Dscp * 4 + stream.ipv4Ecn) :: (be16 (20 + following)
      ++ (be16 stream.ipv4Id.toNat ++ (be16 stream.fragmentWord ++ (stream.ipv4Ttl
        :: stream.protocol :: (be16 checksum ++ (stream.ipv4Src.val
          ++ (stream.ipv4Dst.val ++ segment))))))) := by
  have hdscp := stream.ipv4Dscp_le
  have hecn := stream.ipv4Ecn_le
  have hservice : stream.ipv4Dscp % 64 * 4 + stream.ipv4Ecn % 4
      = stream.ipv4Dscp * 4 + stream.ipv4Ecn := by omega
  rw [Stream.ipv4Header, putChecksum_packIpv4Header, hservice]
  simp only [List.append_assoc, List.cons_append, List.nil_append]
  exact ⟨_, rfl⟩

theorem fragmentWord_fields :
    stream.fragmentWord < 65536
      ∧ decide (stream.fragmentWord / 0x4000 % 2 = 1) = stream.ipv4FlagDf
      ∧ decide (stream.fragmentWord / 0x2000 % 2 = 1) = stream.ipv4FlagMf
      ∧ stream.fragmentWord % 0x2000 = stream.ipv4FragmentOffset := by
  have hoffset := stream.ipv4FragmentOffset_le
  unfold Stream.fragmentWord
  refine ⟨?_, ?_, ?_, ?_⟩
  · split_ifs <;> omega
  · cases stream.ipv4FlagDf <;> cases stream.ipv4FlagMf <;> simp <;> omega
  · cases stream.ipv4FlagDf <;> cases stream.ipv4FlagMf <;> simp <;> omega
  · split_ifs <;> omega

variable (hdrop : packet.drop offset = stream.ipv4Header following ++ segment)

include hdrop in
theorem importedIpv4Fields_ipv4Header :
    Ipv4Recovered stream.toStream (importedIpv4Fields packet offset) := by
  obtain ⟨checksum, hheader⟩ := ipv4Header_eq stream
  rw [hheader] at hdrop
  have h1 : packet.drop (offset + 1) = _ := drop_octet hdrop rfl
  have h2 : packet.drop (offset + 2) = _ := drop_octet h1 rfl
  have h4 : packet.drop (offset + 4) = _ := drop_next h2 rfl
  have h6 : packet.drop (offset + 6) = _ := drop_next h4 rfl
  have h8 : packet.drop (offset + 8) = _ := drop_next h6 rfl
  have h9 : packet.drop (offset + 9) = _ := drop_octet h8 rfl
  have h10 : packet.drop (offset + 10) = _ := drop_octet h9 rfl
  have h12 : packet.drop (offset + 12) = _ := drop_next h10 rfl
  have h16 : packet.drop (offset + 16) = _ := drop_next h12 (by rw [Fixed.length_val])
  have hlength := length_of_drop h12 (n := 8) (by simp; omega) (by decide)
  obtain ⟨hword, hdf, hmf, hfragment⟩ := fragmentWord_fields stream
  have hdscp := stream.ipv4Dscp_le
  have hecn := stream.ipv4Ecn_le
  have htos : packetByteFromBinary packet (offset + 1) 0
      = stream.ipv4Dscp * 4 + stream.ipv4Ecn := by
    rw [packetByteFromBinary, if_pos (by omega), octetAt_of_drop h1, toNat_ofNat]
    omega
  have hread := be16At_of_drop h6 hword
  constructor
  · exact slice_of_drop h12 (Fixed.length_val _)
  · exact slice_of_drop h16 (Fixed.length_val _)
  · show packetByteFromBinary packet (offset + 1) 0 / 4 = _
    omega
  · show packetByteFromBinary packet (offset + 1) 0 % 4 = _
    omega
  · exact be16At_of_drop h4 (UInt16.toNat_lt _)
  · show decide (be16At packet (offset + 6) / 0x4000 % 2 = 1) = _
    rw [hread, hdf]
  · show decide (be16At packet (offset + 6) / 0x2000 % 2 = 1) = _
    rw [hread, hmf]
  · show be16At packet (offset + 6) % 0x2000 = _
    rw [hread, hfragment]
  · show packetByteFromBinary packet (offset + 8) 127 = _
    rw [packetByteFromBinary, if_pos (by omega), octetAt_of_drop h8]

include hdrop in
theorem ipHeader_ipv4Header {l2 : L2Info} (hl2 : packetL2PayloadInfo packet = some l2)
    (htype : l2.etherType = 0x0800) (hoffset : l2.ipOffset = offset) :
    ipHeader packet = some ⟨.ipv4, offset, 20, stream.protocol.toNat⟩ := by
  obtain ⟨checksum, hheader⟩ := ipv4Header_eq stream
  rw [hheader] at hdrop
  have hlength := length_of_drop hdrop (n := 20) (by simp; omega) (by decide)
  have hfirst : octetAt packet offset = 0x45 := octetAt_of_drop hdrop
  have hprotocol : octetAt packet (offset + 9) = stream.protocol.toNat := by
    rw [← octetAt_drop, hdrop]
    rfl
  have hipv6 : ipv6Offsets packet = none := by
    simp [ipv6Offsets, hl2, htype]
  have hipv4 : ipv4Offsets packet = some ⟨.ipv4, offset, 20, stream.protocol.toNat⟩ := by
    simp only [ipv4Offsets, hl2, htype, hoffset, hfirst, hprotocol]
    rw [if_neg (by omega), if_neg (by omega)]
  rw [ipHeader, hipv6, hipv4]
  rfl

end Ipv4

/-- The importer reads the values of the IPv6 header; `same` compares the addresses. -/
structure Ipv6Recovered (same : Ipv6Address → Ipv6Address → Prop) (stream : NormalizedStream)
    (fields : Ipv6Fields) : Prop where
  src : same fields.src { packed := stream.ipv6Src.val, scopeId := stream.ipv6SrcScope }
  dst : same fields.dst { packed := stream.ipv6Dst.val, scopeId := stream.ipv6DstScope }
  trafficClass : fields.trafficClass = stream.ipv6TrafficClass
  flowLabel : fields.flowLabel = stream.ipv6FlowLabel
  hopLimit : fields.hopLimit = stream.ipv6HopLimit.toNat

def Ipv6Address.SamePacked (a b : Ipv6Address) : Prop := a.packed = b.packed

section Ipv6

variable (stream : NormalizedStream) {packet segment : Bytes} {offset payloadLength : Nat}
  (hdrop : packet.drop offset = stream.ipv6Header payloadLength ++ segment)

def NormalizedStream.versionWord : Nat :=
  0x60000000 + stream.ipv6TrafficClass * 1048576 + stream.ipv6FlowLabel

theorem ipv6Header_eq : stream.ipv6Header payloadLength ++ segment =
    be32 stream.versionWord ++ (be16 payloadLength ++ (stream.protocol :: stream.ipv6HopLimit
      :: (stream.ipv6Src.val ++ (stream.ipv6Dst.val ++ segment)))) := by
  have hclass := stream.ipv6TrafficClass_le
  have hflow := stream.ipv6FlowLabel_le
  have hword : 0x60000000 + stream.ipv6TrafficClass % 256 * 1048576
      + stream.ipv6FlowLabel % 1048576 = stream.versionWord := by
    unfold NormalizedStream.versionWord
    omega
  rw [Stream.ipv6Header, hword, packIpv6Header]
  simp only [List.append_assoc, List.cons_append, List.nil_append]

include hdrop in
theorem importedIpv6Fields_ipv6Header :
    Ipv6Recovered Ipv6Address.SamePacked stream (importedIpv6Fields packet offset) := by
  rw [ipv6Header_eq] at hdrop
  have h4 : packet.drop (offset + 4) = _ := drop_next hdrop rfl
  have h6 : packet.drop (offset + 6) = _ := drop_next h4 rfl
  have h7 : packet.drop (offset + 7) = _ := drop_octet h6 rfl
  have h8 : packet.drop (offset + 8) = _ := drop_octet h7 rfl
  have h24 : packet.drop (offset + 24) = _ := drop_next h8 (by rw [Fixed.length_val])
  have hlength := length_of_drop h8 (n := 32) (by simp; omega) (by decide)
  have hclass := stream.ipv6TrafficClass_le
  have hflow := stream.ipv6FlowLabel_le
  have hword := be32At_of_drop hdrop (by unfold NormalizedStream.versionWord; omega)
  constructor
  · exact slice_of_drop h8 (Fixed.length_val _)
  · exact slice_of_drop h24 (Fixed.length_val _)
  · have hfirst : octetAt packet offset = stream.versionWord / 16777216 % 256 := by
      rw [octetAt_of_drop hdrop, toNat_ofNat]
    have hsecond : octetAt packet (offset + 1) = stream.versionWord / 65536 % 256 := by
      rw [← octetAt_drop, hdrop]
      exact toNat_ofNat _
    show (if offset + 2 ≤ packet.length then
      octetAt packet offset % 16 * 16 + octetAt packet (offset + 1) / 16 else 0) = _
    rw [if_pos (by omega), hfirst, hsecond]
    unfold NormalizedStream.versionWord
    omega
  · show (if offset + 4 ≤ packet.length then be32At packet offset % 0x100000 else 0) = _
    rw [if_pos (by omega), hword]
    unfold NormalizedStream.versionWord
    omega
  · show packetByteFromBinary packet (offset + 7) 127 = _
    rw [packetByteFromBinary, if_pos (by omega), octetAt_of_drop h7]

include hdrop in
theorem ipHeader_ipv6Header {l2 : L2Info} (hl2 : packetL2PayloadInfo packet = some l2)
    (htype : l2.etherType = 0x86DD) (hoffset : l2.ipOffset = offset) :
    ipHeader packet = some ⟨.ipv6, offset, 40, stream.protocol.toNat⟩ := by
  rw [ipv6Header_eq] at hdrop
  have hlength := length_of_drop hdrop (n := 40) (by simp; omega) (by decide)
  have hclass := stream.ipv6TrafficClass_le
  have hflow := stream.ipv6FlowLabel_le
  have hfirst : octetAt packet offset / 16 = 6 := by
    rw [octetAt_of_drop hdrop, toNat_ofNat]
    unfold NormalizedStream.versionWord
    omega
  have hprotocol : octetAt packet (offset + 6) = stream.protocol.toNat := by
    rw [← octetAt_drop, hdrop]
    rfl
  have hipv6 : ipv6Offsets packet = some ⟨.ipv6, offset, 40, stream.protocol.toNat⟩ := by
    simp only [ipv6Offsets, hl2, htype, hoffset, hfirst, hprotocol]
    rw [if_neg (by omega), if_neg (by omega)]
  rw [ipHeader, hipv6]
  rfl

end Ipv6

/-! ## TCP -/

/-- The importer reads the values of the TCP header. -/
structure TcpRecovered (stream : Stream) (fields : TcpFields) : Prop where
  sequenceNumber : fields.sequenceNumber = stream.tcpSequenceNumber.toNat
  ackNumber : fields.ackNumber = stream.tcpAckNumber.toNat
  window : fields.window = stream.tcpWindow.toNat
  urgentPointer : fields.urgentPointer = stream.tcpUrgentPointer.toNat
  flagUrg : fields.flagUrg = stream.tcpFlagUrg
  flagAck : fields.flagAck = stream.tcpFlagAck
  flagPsh : fields.flagPsh = stream.tcpFlagPsh
  flagRst : fields.flagRst = stream.tcpFlagRst
  flagSyn : fields.flagSyn = stream.tcpFlagSyn
  flagFin : fields.flagFin = stream.tcpFlagFin

section Tcp

variable (stream : Stream) {packet after : Bytes} {offset checksum : Nat}

def Stream.tcpOffsetFlags : Nat :=
  (20 + stream.tcpOptionsBytes.length) / 4 * 4096 + stream.tcpFlagsValue

theorem tcpOffsetFlags_fields :
    stream.tcpOffsetFlags < 65536
      ∧ stream.tcpOffsetFlags / 256 % 256 / 16 * 4 = 20 + stream.tcpOptionsBytes.length
      ∧ stream.tcpOffsetFlags % 0x40 = stream.tcpFlagsValue := by
  have hle := stream.tcpHeaderLength_le
  have hmod := LayoutFields.length_padded stream.tcpOptions
  have hflags : stream.tcpFlagsValue < 64 := by
    unfold Stream.tcpFlagsValue
    split_ifs <;> decide
  have hlength : stream.tcpOptionsBytes.length ≤ 32 := by
    unfold LayoutFields.tcpHeaderLength at hle
    omega
  have hmod' : stream.tcpOptionsBytes.length % 4 = 0 := hmod
  unfold Stream.tcpOffsetFlags
  omega

theorem tcpFlagsValue_bits (urg ack psh rst syn fin : Bool) :
    let value := (if urg then 0x20 else 0) + (if ack then 0x10 else 0) + (if psh then 0x08 else 0)
      + (if rst then 0x04 else 0) + (if syn then 0x02 else 0) + (if fin then 0x01 else 0)
    decide (value / 0x20 % 2 = 1) = urg ∧ decide (value / 0x10 % 2 = 1) = ack
      ∧ decide (value / 0x08 % 2 = 1) = psh ∧ decide (value / 0x04 % 2 = 1) = rst
      ∧ decide (value / 0x02 % 2 = 1) = syn ∧ decide (value % 2 = 1) = fin := by
  revert urg ack psh rst syn fin
  decide

theorem tcpHeader_eq : ∃ sum, stream.tcpHeader checksum ++ after =
    be16 stream.l4SrcPort.toNat ++ (be16 stream.l4DstPort.toNat
      ++ (be32 stream.tcpSequenceNumber.toNat ++ (be32 stream.tcpAckNumber.toNat
        ++ (be16 stream.tcpOffsetFlags ++ (be16 stream.tcpWindow.toNat ++ (be16 sum
          ++ (be16 stream.tcpUrgentPointer.toNat ++ (stream.tcpOptionsBytes ++ after)))))))) := by
  simp only [Stream.tcpHeader, List.append_assoc]
  exact ⟨_, rfl⟩

variable (hdrop : packet.drop offset = stream.tcpHeader checksum ++ after)

include hdrop in
theorem tcpFieldsFromPacket_tcpHeader :
    TcpRecovered stream (tcpFieldsFromPacket packet offset) := by
  obtain ⟨sum, hheader⟩ := tcpHeader_eq stream
  rw [hheader] at hdrop
  have h2 : packet.drop (offset + 2) = _ := drop_next hdrop rfl
  have h4 : packet.drop (offset + 4) = _ := drop_next h2 rfl
  have h8 : packet.drop (offset + 8) = _ := drop_next h4 rfl
  have h12 : packet.drop (offset + 12) = _ := drop_next h8 rfl
  have h14 : packet.drop (offset + 14) = _ := drop_next h12 rfl
  have h16 : packet.drop (offset + 16) = _ := drop_next h14 rfl
  have h18 : packet.drop (offset + 18) = _ := drop_next h16 rfl
  have hlength := length_of_drop h18 (n := 2) (by simp) (by decide)
  obtain ⟨hlt, -, hflags⟩ := tcpOffsetFlags_fields stream
  have hbits := tcpFlagsValue_bits stream.tcpFlagUrg stream.tcpFlagAck stream.tcpFlagPsh
    stream.tcpFlagRst stream.tcpFlagSyn stream.tcpFlagFin
  change decide (stream.tcpFlagsValue / 0x20 % 2 = 1) = _ ∧ _ at hbits
  obtain ⟨hurg, hack, hpsh, hrst, hsyn, hfin⟩ := hbits
  rw [tcpFieldsFromPacket, if_neg (by omega)]
  simp only [be16At_of_drop h12 hlt, hflags]
  constructor
  · exact be32At_of_drop h4 (UInt32.toNat_lt _)
  · exact be32At_of_drop h8 (UInt32.toNat_lt _)
  · exact be16At_of_drop h14 (UInt16.toNat_lt _)
  · exact be16At_of_drop h18 (UInt16.toNat_lt _)
  · exact hurg
  · exact hack
  · exact hpsh
  · exact hrst
  · exact hsyn
  · exact hfin

include hdrop in
theorem ports_tcpHeader : be16At packet offset = stream.l4SrcPort.toNat
    ∧ be16At packet (offset + 2) = stream.l4DstPort.toNat := by
  obtain ⟨sum, hheader⟩ := tcpHeader_eq stream
  rw [hheader] at hdrop
  have h2 : packet.drop (offset + 2) = _ := drop_next hdrop rfl
  exact ⟨be16At_of_drop hdrop (UInt16.toNat_lt _), be16At_of_drop h2 (UInt16.toNat_lt _)⟩

theorem tcpOptionsFromPacket_tcpHeader
    (hdrop : packet.drop offset = stream.tcpHeader checksum ++ after) :
    tcpOptionsFromPacket packet offset =
      (placed 0 stream.optionItems).foldl ParsedTcpOptions.note {} := by
  obtain ⟨sum, hheader⟩ := tcpHeader_eq stream
  have hprefix := hheader ▸ hdrop
  obtain ⟨-, hdata, -⟩ := tcpOffsetFlags_fields stream
  have hle := stream.tcpHeaderLength_le
  have hlength := length_of_drop hdrop (n := 20 + stream.tcpOptionsBytes.length)
    (by rw [List.length_append, stream.length_tcpHeader, LayoutFields.tcpHeaderLength]; omega)
    (by omega)
  have hwalk := stream.tcpOptionsOf_tcpOptionsBytes
  have hoctet : octetAt packet (offset + 12) = stream.tcpOffsetFlags / 256 % 256 := by
    rw [← octetAt_drop, hprefix]
    exact toNat_ofNat _
  have hoptions : packet.drop (offset + 20) = stream.tcpOptionsBytes ++ after := by
    rw [← List.drop_drop, hprefix]
    rfl
  rw [tcpOptionsFromPacket, if_neg (by omega)]
  simp only [hoctet, hdata, hoptions, Nat.add_sub_cancel_left, List.take_left, hwalk]
  unfold LayoutFields.tcpHeaderLength at hle
  split_ifs with hnone
  · -- Without options the walk has nothing to find.
    have hempty : stream.tcpOptionsBytes = [] := by
      apply List.eq_nil_of_length_eq_zero
      omega
    rw [← hwalk, hempty]
    rfl
  · rfl

end Tcp

/-! ## TCP options -/

/-- The layout has the options of the stream, with the values of those that are on. -/
structure TcpOptionsRecovered (stream layout : LayoutFields) : Prop where
  mssEnabled : layout.tcpOptionMssEnabled = stream.tcpOptionMssEnabled
  mss : stream.tcpOptionMssEnabled = true → layout.tcpOptionMss = stream.tcpOptionMss
  sackPermittedEnabled :
    layout.tcpOptionSackPermittedEnabled = stream.tcpOptionSackPermittedEnabled
  sackBlocksEnabled : layout.tcpOptionSackBlocksEnabled = stream.tcpOptionSackBlocksEnabled
  sackLeftEdge : stream.tcpOptionSackBlocksEnabled = true →
    layout.tcpOptionSackLeftEdge = stream.tcpOptionSackLeftEdge
  sackRightEdge : stream.tcpOptionSackBlocksEnabled = true →
    layout.tcpOptionSackRightEdge = stream.tcpOptionSackRightEdge
  timestampEnabled : layout.tcpOptionTimestampEnabled = stream.tcpOptionTimestampEnabled
  timestampValue : stream.tcpOptionTimestampEnabled = true →
    layout.tcpOptionTimestampValue = stream.tcpOptionTimestampValue
  timestampEcho : stream.tcpOptionTimestampEnabled = true →
    layout.tcpOptionTimestampEcho = stream.tcpOptionTimestampEcho
  windowScaleEnabled : layout.tcpOptionWindowScaleEnabled = stream.tcpOptionWindowScaleEnabled
  windowScale : stream.tcpOptionWindowScaleEnabled = true →
    layout.tcpOptionWindowScale = stream.tcpOptionWindowScale

theorem note_optionItems (stream : LayoutFields) :
    let parsed := (placed 0 stream.optionItems).foldl ParsedTcpOptions.note {}
    parsed.mss.map (·.body)
        = (if stream.tcpOptionMssEnabled then some (be16 stream.tcpOptionMss.toNat) else none)
      ∧ parsed.sackPermitted = stream.tcpOptionSackPermittedEnabled
      ∧ parsed.sack.map (·.body) = (if stream.tcpOptionSackBlocksEnabled then
          some (be32 stream.tcpOptionSackLeftEdge.toNat ++ be32 stream.tcpOptionSackRightEdge.toNat)
        else none)
      ∧ parsed.timestamp.map (·.body) = (if stream.tcpOptionTimestampEnabled then
          some (be32 stream.tcpOptionTimestampValue.toNat ++ be32 stream.tcpOptionTimestampEcho.toNat)
        else none)
      ∧ parsed.windowScale.map (·.body)
        = (if stream.tcpOptionWindowScaleEnabled then some [stream.tcpOptionWindowScale] else none) := by
  unfold LayoutFields.optionItems
  cases stream.tcpOptionMssEnabled <;> cases stream.tcpOptionSackPermittedEnabled <;>
    cases stream.tcpOptionSackBlocksEnabled <;> cases stream.tcpOptionTimestampEnabled <;>
    cases stream.tcpOptionWindowScaleEnabled <;>
    simp [placed, ParsedTcpOptions.note, TcpOption.length]

theorem isSome_of_body {found : Option TcpOption} {on : Bool} {body : Bytes}
    (h : found.map (·.body) = if on then some body else none) : found.isSome = on := by
  cases on <;> cases found <;> simp_all

theorem value_of_body {α : Type} {found : Option TcpOption} {on : Bool} {body : Bytes}
    (h : found.map (·.body) = if on then some body else none) (hon : on = true)
    (read : Bytes → α) (other : α) :
    (found.map fun option => read option.body).getD other = read body := by
  rw [if_pos hon] at h
  obtain ⟨option, rfl, rfl⟩ := Option.map_eq_some_iff.mp h
  rfl

theorem be32At_second {m n : Nat} (hn : n < 4294967296) : be32At (be32 m ++ be32 n) 4 = n := by
  have hdrop : (be32 m ++ be32 n).drop 4 = be32 n ++ [] := by
    rw [List.append_nil]
    rfl
  exact be32At_of_drop hdrop hn

theorem tcpOptionsRecovered (stream layout : LayoutFields) :
    TcpOptionsRecovered stream
      (((placed 0 stream.optionItems).foldl ParsedTcpOptions.note {}).apply layout) := by
  obtain ⟨hmss, hpermitted, hsack, htimestamp, hscale⟩ := note_optionItems stream
  constructor
  · exact isSome_of_body hmss
  · intro hon
    refine (value_of_body hmss hon (fun body => UInt16.ofNat (be16At body 0)) 1460).trans ?_
    rw [← List.append_nil (be16 _), be16At_be16 (UInt16.toNat_lt _)]
    exact UInt16.ofNat_toNat
  · exact hpermitted
  · exact isSome_of_body hsack
  · intro hon
    refine (value_of_body hsack hon (fun body => UInt32.ofNat (be32At body 0)) 1000).trans ?_
    rw [be32At_be32 (UInt32.toNat_lt _)]
    exact UInt32.ofNat_toNat
  · intro hon
    refine (value_of_body hsack hon (fun body => UInt32.ofNat (be32At body 4)) 2000).trans ?_
    rw [be32At_second (UInt32.toNat_lt _)]
    exact UInt32.ofNat_toNat
  · exact isSome_of_body htimestamp
  · intro hon
    refine (value_of_body htimestamp hon (fun body => UInt32.ofNat (be32At body 0)) 1).trans ?_
    rw [be32At_be32 (UInt32.toNat_lt _)]
    exact UInt32.ofNat_toNat
  · intro hon
    refine (value_of_body htimestamp hon (fun body => UInt32.ofNat (be32At body 4)) 0).trans ?_
    rw [be32At_second (UInt32.toNat_lt _)]
    exact UInt32.ofNat_toNat
  · exact isSome_of_body hscale
  · intro hon
    refine (value_of_body hscale hon (fun body => UInt8.ofNat (octetAt body 0)) 7).trans ?_
    exact UInt8.ofNat_toNat

/-! ## SCTP -/

/-- The importer reads the values of the SCTP header and of its data chunk. -/
structure SctpRecovered (stream : Stream) (fields : SctpFields) : Prop where
  verificationTag : fields.verificationTag = stream.sctpVerificationTag.toNat
  dataFlags : fields.dataFlags = stream.sctpDataFlags.toNat
  tsn : fields.tsn = stream.sctpTsn.toNat
  streamId : fields.streamId = stream.sctpStreamId.toNat
  streamSequence : fields.streamSequence = stream.sctpStreamSequence.toNat
  payloadProtocolId : fields.payloadProtocolId = stream.sctpPayloadProtocolId.toNat

section Sctp

variable (stream : Stream) {packet payload after : Bytes} {offset : Nat}
  (hdrop : packet.drop offset = stream.sctpHeader payload ++ after)

theorem sctpHeader_eq : ∃ crc, stream.sctpHeader payload ++ after =
    be16 stream.l4SrcPort.toNat ++ (be16 stream.l4DstPort.toNat
      ++ (be32 stream.sctpVerificationTag.toNat ++ (le32 crc ++ (0 :: stream.sctpDataFlags
        :: (be16 (16 + payload.length) ++ (be32 stream.sctpTsn.toNat
          ++ (be16 stream.sctpStreamId.toNat ++ (be16 stream.sctpStreamSequence.toNat
            ++ (be32 stream.sctpPayloadProtocolId.toNat ++ after))))))))) := by
  simp only [Stream.sctpHeader, Stream.sctpDataChunk, List.append_assoc, List.cons_append,
    List.nil_append]
  exact ⟨_, rfl⟩

include hdrop in
theorem sctpFieldsFromPacket_sctpHeader :
    SctpRecovered stream (sctpFieldsFromPacket packet offset) := by
  obtain ⟨crc, hheader⟩ := sctpHeader_eq stream
  rw [hheader] at hdrop
  have h2 : packet.drop (offset + 2) = _ := drop_next hdrop rfl
  have h4 : packet.drop (offset + 4) = _ := drop_next h2 rfl
  have h8 : packet.drop (offset + 8) = _ := drop_next h4 rfl
  have h12 : packet.drop (offset + 12) = _ := drop_next h8 rfl
  have h13 : packet.drop (offset + 12 + 1) = _ := drop_octet h12 rfl
  have h14 : packet.drop (offset + 12 + 2) = _ := drop_octet h13 rfl
  have h16 : packet.drop (offset + 12 + 4) = _ := drop_next h14 rfl
  have h20 : packet.drop (offset + 12 + 8) = _ := drop_next h16 rfl
  have h22 : packet.drop (offset + 12 + 10) = _ := drop_next h20 rfl
  have h24 : packet.drop (offset + 12 + 12) = _ := drop_next h22 rfl
  have hlength := length_of_drop h24 (n := 4) (by simp) (by decide)
  have hkind : octetAt packet (offset + 12) = 0 := octetAt_of_drop h12
  rw [sctpFieldsFromPacket, if_neg (by omega)]
  simp only []
  rw [if_pos ⟨by omega, hkind⟩]
  constructor
  · exact be32At_of_drop h4 (UInt32.toNat_lt _)
  · exact octetAt_of_drop h13
  · exact be32At_of_drop h16 (UInt32.toNat_lt _)
  · exact be16At_of_drop h20 (UInt16.toNat_lt _)
  · exact be16At_of_drop h22 (UInt16.toNat_lt _)
  · exact be32At_of_drop h24 (UInt32.toNat_lt _)

include hdrop in
theorem ports_sctpHeader : be16At packet offset = stream.l4SrcPort.toNat
    ∧ be16At packet (offset + 2) = stream.l4DstPort.toNat := by
  obtain ⟨crc, hheader⟩ := sctpHeader_eq stream
  rw [hheader] at hdrop
  have h2 : packet.drop (offset + 2) = _ := drop_next hdrop rfl
  exact ⟨be16At_of_drop hdrop (UInt16.toNat_lt _), be16At_of_drop h2 (UInt16.toNat_lt _)⟩

end Sctp

/-! ## GRE -/

/-- The importer reads the values of the inner datagram. -/
structure InnerRecovered (same : Ipv6Address → Ipv6Address → Prop) (version : IpVersion)
    (inner : InnerFields) (srcScope dstScope : Option String) (fields : GreInnerFields) : Prop where
  ipv4Src : version = .ipv4 → fields.ipv4Src = inner.ipv4Src.val
  ipv4Dst : version = .ipv4 → fields.ipv4Dst = inner.ipv4Dst.val
  ipv4Ttl : version = .ipv4 → fields.ipv4Ttl = inner.ipv4Ttl.toNat
  ipv6Src : version = .ipv6 →
    same fields.ipv6Src { packed := inner.ipv6Src.val, scopeId := srcScope }
  ipv6Dst : version = .ipv6 →
    same fields.ipv6Dst { packed := inner.ipv6Dst.val, scopeId := dstScope }
  ipv6HopLimit : version = .ipv6 → fields.ipv6HopLimit = inner.ipv6HopLimit.toNat
  l4SrcPort : fields.l4SrcPort = inner.l4SrcPort.toNat
  l4DstPort : fields.l4DstPort = inner.l4DstPort.toNat

section Inner

variable {inner : InnerFields} {packet payload : Bytes} {offset : Nat}

theorem innerIpv4Packet_eq (inner : InnerFields) (payload : Bytes) :
    ∃ total sum length, innerIpv4Packet inner payload =
      0x45 :: 0 :: (be16 total ++ (be16 0x04D2 ++ (be16 0 ++ (inner.ipv4Ttl :: 17 :: (be16 sum
        ++ (inner.ipv4Src.val ++ (inner.ipv4Dst.val ++ (be16 inner.l4SrcPort.toNat
          ++ (be16 inner.l4DstPort.toNat ++ (be16 length ++ (be16 0 ++ payload))))))))))) := by
  simp only [innerIpv4Packet, putChecksum_packIpv4Header, innerUdpHeader, List.append_assoc,
    List.cons_append, List.nil_append]
  exact ⟨_, _, _, rfl⟩

theorem innerIpv6Packet_eq (inner : InnerFields) (payload : Bytes) :
    ∃ total length sum, innerIpv6Packet inner payload =
      be32 0x60000000 ++ (be16 total ++ (17 :: inner.ipv6HopLimit :: (inner.ipv6Src.val
        ++ (inner.ipv6Dst.val ++ (be16 inner.l4SrcPort.toNat ++ (be16 inner.l4DstPort.toNat
          ++ (be16 length ++ (be16 sum ++ payload)))))))) := by
  simp only [innerIpv6Packet, packIpv6Header, innerUdpHeader, List.append_assoc, List.cons_append,
    List.nil_append]
  exact ⟨_, _, _, rfl⟩

theorem greInnerFields_ipv4 (srcScope dstScope : Option String)
    (hdrop : packet.drop offset = innerIpv4Packet inner payload) :
    innerIpv4Ok packet offset = true ∧ InnerRecovered Ipv6Address.SamePacked .ipv4 inner srcScope
      dstScope (greInnerFields packet ⟨.ipv4, offset⟩) := by
  obtain ⟨total, sum, length, heq⟩ := innerIpv4Packet_eq inner payload
  rw [heq] at hdrop
  have h1 : packet.drop (offset + 1) = _ := drop_octet hdrop rfl
  have h2 : packet.drop (offset + 2) = _ := drop_octet h1 rfl
  have h4 : packet.drop (offset + 4) = _ := drop_next h2 rfl
  have h6 : packet.drop (offset + 6) = _ := drop_next h4 rfl
  have h8 : packet.drop (offset + 8) = _ := drop_next h6 rfl
  have h9 : packet.drop (offset + 9) = _ := drop_octet h8 rfl
  have h10 : packet.drop (offset + 10) = _ := drop_octet h9 rfl
  have h12 : packet.drop (offset + 12) = _ := drop_next h10 rfl
  have h16 : packet.drop (offset + 16) = _ := drop_next h12 (by rw [Fixed.length_val])
  have h20 : packet.drop (offset + 20) = _ := drop_next h16 (by rw [Fixed.length_val])
  have h22 : packet.drop (offset + 20 + 2) = _ := drop_next h20 rfl
  have hlength := length_of_drop h20 (n := 8) (by simp; omega) (by decide)
  have hfirst : octetAt packet offset = 0x45 := octetAt_of_drop hdrop
  have hprotocol : octetAt packet (offset + 9) = 17 := octetAt_of_drop h9
  constructor
  · have hshort : ¬packet.length < offset + 20 := by omega
    have hshort' : ¬packet.length < offset + 20 + 8 := by omega
    simp [innerIpv4Ok, hfirst, hprotocol, hshort, hshort']
  · simp only [greInnerFields, hfirst]
    constructor
    · exact fun _ => slice_of_drop h12 (Fixed.length_val _)
    · exact fun _ => slice_of_drop h16 (Fixed.length_val _)
    · exact fun _ => octetAt_of_drop h8
    · nofun
    · nofun
    · nofun
    · exact be16At_of_drop h20 (UInt16.toNat_lt _)
    · exact be16At_of_drop h22 (UInt16.toNat_lt _)

theorem greInnerFields_ipv6 (srcScope dstScope : Option String)
    (hdrop : packet.drop offset = innerIpv6Packet inner payload) :
    innerIpv6Ok packet offset = true ∧ InnerRecovered Ipv6Address.SamePacked .ipv6 inner srcScope
      dstScope (greInnerFields packet ⟨.ipv6, offset⟩) := by
  obtain ⟨total, length, sum, heq⟩ := innerIpv6Packet_eq inner payload
  rw [heq] at hdrop
  have h4 : packet.drop (offset + 4) = _ := drop_next hdrop rfl
  have h6 : packet.drop (offset + 6) = _ := drop_next h4 rfl
  have h7 : packet.drop (offset + 7) = _ := drop_octet h6 rfl
  have h8 : packet.drop (offset + 8) = _ := drop_octet h7 rfl
  have h24 : packet.drop (offset + 24) = _ := drop_next h8 (by rw [Fixed.length_val])
  have h40 : packet.drop (offset + 40) = _ := drop_next h24 (by rw [Fixed.length_val])
  have h42 : packet.drop (offset + 40 + 2) = _ := drop_next h40 rfl
  have hlength := length_of_drop h40 (n := 8) (by simp; omega) (by decide)
  have hfirst : octetAt packet offset = 0x60 := octetAt_of_drop hdrop
  have hprotocol : octetAt packet (offset + 6) = 17 := octetAt_of_drop h6
  constructor
  · have hshort : ¬packet.length < offset + 40 + 8 := by omega
    simp [innerIpv6Ok, hfirst, hprotocol, hshort]
  · constructor
    · nofun
    · nofun
    · nofun
    · exact fun _ => slice_of_drop h8 (Fixed.length_val _)
    · exact fun _ => slice_of_drop h24 (Fixed.length_val _)
    · exact fun _ => octetAt_of_drop h7
    · exact be16At_of_drop h40 (UInt16.toNat_lt _)
    · exact be16At_of_drop h42 (UInt16.toNat_lt _)

end Inner

/-- The importer reads the values of the GRE header and of the datagram in it. -/
structure GreRecovered (same : Ipv6Address → Ipv6Address → Prop) (stream : NormalizedStream)
    (layout : LayoutFields) (fields : GreFields) : Prop where
  checksumPresent : layout.greChecksumPresent = stream.greChecksumPresent
  keyPresent : layout.greKeyPresent = stream.greKeyPresent
  sequencePresent : layout.greSequencePresent = stream.greSequencePresent
  innerVersion : layout.greInnerIpVersion = stream.greInnerVersion
  key : stream.greKeyPresent = true → fields.key = stream.greKey.toNat
  sequence : stream.greSequencePresent = true → fields.sequence = stream.greSequence.toNat
  inner : InnerRecovered same stream.greInnerVersion stream.greInner stream.greInnerIpv6SrcScope
    stream.greInnerIpv6DstScope fields.inner

section Gre

variable (stream : NormalizedStream) {packet payload after : Bytes} {offset : Nat}

theorem greHeader_eq (stream : Stream) (payload after : Bytes) :
    ∃ sum, stream.greHeader payload ++ after =
      be16 stream.greFlags ++ (be16 stream.greProtocolType
        ++ ((if stream.greChecksumPresent then be16 sum ++ [0, 0] else [])
          ++ ((if stream.greKeyPresent then be32 stream.greKey.toNat else [])
            ++ ((if stream.greSequencePresent then be32 stream.greSequence.toNat else [])
              ++ after)))) := by
  generalize hkey : (if stream.greKeyPresent then be32 stream.greKey.toNat else []) = key
  generalize hsequence : (if stream.greSequencePresent then be32 stream.greSequence.toNat else [])
    = sequence
  simp only [Stream.greHeader, Stream.greKeyAndSequence, hkey, hsequence]
  cases stream.greChecksumPresent with
  | false => exact ⟨0, by simp⟩
  | true =>
      have hput : ∀ n, putBe16 4 n (be16 stream.greFlags ++ be16 stream.greProtocolType
          ++ [0, 0, 0, 0] ++ (key ++ sequence))
          = be16 stream.greFlags ++ be16 stream.greProtocolType ++ be16 n
            ++ ([0, 0] ++ (key ++ sequence)) := by
        intro n
        have hzero : be16 stream.greFlags ++ be16 stream.greProtocolType ++ [0, 0, 0, 0]
            ++ (key ++ sequence) = be16 stream.greFlags ++ be16 stream.greProtocolType ++ be16 0
            ++ ([0, 0] ++ (key ++ sequence)) := by simp [be16]
        rw [hzero]
        exact putBe16_field (by simp) 0 n
      simp only [if_true]
      rw [hput]
      simp only [List.append_assoc]
      exact ⟨_, rfl⟩

theorem greFlags_bits (stream : Stream) :
    stream.greFlags < 65536 ∧ stream.greFlags % 8 = 0
      ∧ decide (stream.greFlags / 0x8000 % 2 = 1) = stream.greChecksumPresent
      ∧ decide (stream.greFlags / 0x2000 % 2 = 1) = stream.greKeyPresent
      ∧ decide (stream.greFlags / 0x1000 % 2 = 1) = stream.greSequencePresent := by
  unfold Stream.greFlags
  cases stream.greChecksumPresent <;> cases stream.greKeyPresent <;>
    cases stream.greSequencePresent <;> decide

theorem packetGreInfo_greHeader (htype : stream.packetType.isGre = true)
    (hdrop : packet.drop offset = stream.greHeader
      (innerPacket stream.greInnerVersion stream.greInner payload)
        ++ innerPacket stream.greInnerVersion stream.greInner payload) :
    ∃ info, packetGreInfo packet offset = some info
      ∧ ∀ layout, GreRecovered Ipv6Address.SamePacked stream (applyGre (some info) layout)
        (greFieldsFromPacket packet offset info) := by
  have hinner : packet.drop (offset + stream.greHeaderLength)
      = innerPacket stream.greInnerVersion stream.greInner payload :=
    drop_next hdrop (by rw [stream.length_greHeader])
  obtain ⟨sum, hheader⟩ := greHeader_eq stream.toStream
    (innerPacket stream.greInnerVersion stream.greInner payload)
    (innerPacket stream.greInnerVersion stream.greInner payload)
  rw [hheader] at hdrop
  obtain ⟨hlt, hversion, hchecksum, hkey, hsequence⟩ := greFlags_bits stream.toStream
  have hprotocol := stream.greProtocolType_eq htype
  have hprotocolLt : stream.greProtocolType < 65536 := by
    rw [hprotocol]
    split <;> decide
  have h2 : packet.drop (offset + 2) = _ := drop_next hdrop rfl
  have h4 : packet.drop (offset + 4) = _ := drop_next h2 rfl
  have hkeyDrop : packet.drop (offset + 4 + if stream.greChecksumPresent then 4 else 0) = _ :=
    drop_next h4 (by cases stream.greChecksumPresent <;> rfl)
  have hsequenceDrop : packet.drop (offset + 4 + (if stream.greChecksumPresent then 4 else 0)
      + if stream.greKeyPresent then 4 else 0) = _ :=
    drop_next hkeyDrop (by cases stream.greKeyPresent <;> rfl)
  have hflagsRead := be16At_of_drop hdrop hlt
  have hprotocolRead := be16At_of_drop h2 hprotocolLt
  have hoffset : grePayloadOffset stream.greFlags offset = offset + stream.greHeaderLength := by
    unfold grePayloadOffset LayoutFields.greHeaderLength
    rw [← hchecksum, ← hkey, ← hsequence]
    simp only [decide_eq_true_eq]
    omega
  have hlength : offset + stream.greHeaderLength + 1 ≤ packet.length := by
    apply length_of_drop hinner _ Nat.one_pos
    rw [length_innerPacket]
    omega
  have hheader4 : 4 ≤ stream.greHeaderLength := by
    unfold LayoutFields.greHeaderLength
    omega
  have hrecovered : ∀ info : GreInfo, info.checksumPresent = stream.greChecksumPresent →
      info.keyPresent = stream.greKeyPresent → info.sequencePresent = stream.greSequencePresent →
      info.inner.version = stream.greInnerVersion →
      InnerRecovered Ipv6Address.SamePacked stream.greInnerVersion stream.greInner
        stream.greInnerIpv6SrcScope stream.greInnerIpv6DstScope (greInnerFields packet info.inner) →
      ∀ layout, GreRecovered Ipv6Address.SamePacked stream (applyGre (some info) layout)
        (greFieldsFromPacket packet offset info) := by
    intro info hc hk hs hv hinfo layout
    constructor
    · exact hc
    · exact hk
    · exact hs
    · exact hv
    · intro hpresent
      rw [hpresent, if_pos rfl] at hkeyDrop
      simp only [greFieldsFromPacket, hc, hk, hpresent, if_true]
      exact be32At_of_drop hkeyDrop (UInt32.toNat_lt _)
    · intro hpresent
      rw [hpresent, if_pos rfl] at hsequenceDrop
      simp only [greFieldsFromPacket, hc, hk, hs, hpresent, if_true]
      exact be32At_of_drop hsequenceDrop (UInt32.toNat_lt _)
    · exact hinfo
  simp only [packetGreInfo, hflagsRead, hprotocolRead, hoffset]
  rw [if_neg (by omega), if_neg (by omega), if_neg (by omega)]
  cases hinnerVersion : stream.greInnerVersion with
  | ipv4 =>
      rw [hinnerVersion] at hinner hprotocol hrecovered
      obtain ⟨hok, hfields⟩ := greInnerFields_ipv4 stream.greInnerIpv6SrcScope
        stream.greInnerIpv6DstScope hinner
      rw [if_pos (by simpa using hprotocol), if_pos hok]
      exact ⟨_, rfl, hrecovered _ hchecksum hkey hsequence rfl hfields⟩
  | ipv6 =>
      rw [hinnerVersion] at hinner hprotocol hrecovered
      obtain ⟨hok, hfields⟩ := greInnerFields_ipv6 stream.greInnerIpv6SrcScope
        stream.greInnerIpv6DstScope hinner
      have htype' : stream.greProtocolType = 0x86DD := by simpa using hprotocol
      rw [if_neg (by omega), if_pos htype', if_pos hok]
      exact ⟨_, rfl, hrecovered _ hchecksum hkey hsequence rfl hfields⟩

end Gre

end TrexWebui
