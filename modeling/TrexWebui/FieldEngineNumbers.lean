import TrexWebui.FieldEngineAddresses
import TrexWebui.IteratedFields

/-!
# Number fields of the field engine

The instructions that `workbench_vm.py` emits for a field with a number: a
variable that starts at the number, and the write into the packet. The number
is bounded by the normalizer. Every builder but one cuts the range of the
variable at the largest number of the field or has room for it otherwise; the
builder for the ARP operation does neither.
-/

namespace TrexWebui

open PyStr Octets
open AddressField (some_of_guard)

/-! ## Instructions -/

/-- An instruction of the type `write_mask_flow_var`, in network order and with nothing added. -/
structure MaskedWrite where
  name : String
  mask : Nat
  pktCastSize : Nat
  pktOffset : Nat
  shift : Nat
  deriving DecidableEq, Repr

inductive FieldWrite where
  | plain (write : WriteFlowVar)
  | masked (write : MaskedWrite)
  deriving DecidableEq, Repr

def FieldWrite.name : FieldWrite → String
  | .plain write => write.name
  | .masked write => write.name

/-- Where a field stands, in whole octets or under a mask. -/
inductive FieldPlace where
  | octets (pktOffset : Nat)
  | bits (pktOffset mask pktCastSize shift : Nat)
  deriving DecidableEq, Repr

def FieldPlace.write (name : String) : FieldPlace → FieldWrite
  | .octets pktOffset => .plain { name, pktOffset }
  | .bits pktOffset mask pktCastSize shift => .masked { name, mask, pktCastSize, pktOffset, shift }

@[simp] theorem FieldPlace.write_name (name : String) (place : FieldPlace) :
    (place.write name).name = name := by
  cases place <;> rfl

/-! ## Ranges -/

/-- `workbench_u16_field_engine_bounds` and `workbench_u32_field_engine_bounds`, for the largest
number `most`. -/
def fieldEngineBounds (most initValue count step : Nat) : FieldEngineOperation → Nat × Nat
  | .dec => (initValue - (count - 1) * step, initValue)
  | .inc => (initValue, min most (initValue + (count - 1) * step))
  | _ => (initValue, min most (initValue + count - 1))

/-- `workbench_u16_field_engine_bounds` -/
def u16FieldEngineBounds : Nat → Nat → Nat → FieldEngineOperation → Nat × Nat :=
  fieldEngineBounds 65535

/-- `workbench_u32_field_engine_bounds` -/
def u32FieldEngineBounds : Nat → Nat → Nat → FieldEngineOperation → Nat × Nat :=
  fieldEngineBounds 4294967295

/-- The bounds of the DHCP numbers: everything from `least` to `most` where the numbers are
drawn. -/
def dhcpBounds (least most initValue count step : Nat) : FieldEngineOperation → Nat × Nat
  | .dec => (max least (initValue - (count - 1) * step), initValue)
  | .inc => (initValue, min most (initValue + (count - 1) * step))
  | _ => (least, most)

/-- The bounds in `workbench_dhcp_bootp_number_vm_instructions`, which cuts at both ends. -/
def dhcpBootpNumberBounds (size initValue count step : Nat) : FieldEngineOperation → Nat × Nat
  | .dec => (initValue - (count - 1) * step, min (256 ^ size - 1) initValue)
  | .inc => (initValue, min (256 ^ size - 1) (initValue + (count - 1) * step))
  | _ => (0, 256 ^ size - 1)

def mplsLabelFieldEngineSizeAndInit (label count : Nat) : Nat × Nat :=
  if label + count < 256 then (1, label)
  else if label + count < 65536 then (2, label)
  else (4, label)

namespace EngineStream

variable (stream : EngineStream)

/-! ## Builders -/

/-- The instructions of a field, for its size and the bounds of its variable. -/
def boundedVmInstructions (field : NumberField) (size : Nat) (bounds : Nat × Nat)
    (place : FieldPlace) : Option (FlowVar × FieldWrite) :=
  if (stream.number field).operation = .fixed then none
  else some
    ({ name := field.variableName, initValue := stream.value field, minValue := bounds.1,
       maxValue := bounds.2, op := (stream.number field).operation, size,
       step := (stream.number field).step },
     place.write field.variableName)

/-- The instructions of most fields: the variable starts at the bottom, and `most` cuts its
range. -/
def clampedVmInstructions (field : NumberField) (most size : Nat) (place : FieldPlace) :
    Option (FlowVar × FieldWrite) :=
  stream.boundedVmInstructions field size
    (stream.value field, min most (stream.value field + (stream.number field).count - 1)) place

def rangedVmInstructions (field : NumberField) (size : Nat)
    (bounds : Nat → Nat → Nat → FieldEngineOperation → Nat × Nat) (place : FieldPlace) :
    Option (FlowVar × FieldWrite) :=
  stream.boundedVmInstructions field size
    (bounds (stream.value field) (stream.number field).count (stream.number field).step
      (stream.number field).operation) place

/-- `workbench_vlan_priority_vm_instructions` -/
def vlanPriorityVmInstructions (index : Nat) : Option (FlowVar × FieldWrite) :=
  if !stream.vlanFieldEnabled index then none
  else stream.clampedVmInstructions (.vlanPriority index) 7 1
    (.bits (vlanIndexOffset index) 0xE000 2 13)

/-- `workbench_vlan_id_vm_instructions` -/
def vlanIdVmInstructions (index : Nat) : Option (FlowVar × FieldWrite) :=
  if !stream.vlanFieldEnabled index then none
  else stream.clampedVmInstructions (.vlanId index) 4094 2
    (.bits (vlanIndexOffset index) 0x0FFF 2 0)

/-- `workbench_mpls_label_vm_instructions` -/
def mplsLabelVmInstructions (index : Nat) : Option (FlowVar × FieldWrite) :=
  if !stream.mplsFieldEnabled index then none
  else
    let count := (stream.number (.mplsLabel index)).count
    let sizeAndInit := mplsLabelFieldEngineSizeAndInit (stream.value (.mplsLabel index)) count
    stream.boundedVmInstructions (.mplsLabel index) sizeAndInit.1
      (sizeAndInit.2, sizeAndInit.2 + count - 1)
      (.bits (stream.mplsIndexOffset index) 0xFFFFF000 4 12)

/-- `workbench_mpls_tc_vm_instructions` -/
def mplsTcVmInstructions (index : Nat) : Option (FlowVar × FieldWrite) :=
  if !stream.mplsFieldEnabled index then none
  else stream.clampedVmInstructions (.mplsTc index) 7 1
    (.bits (stream.mplsIndexOffset index) 0x00000E00 4 9)

/-- `workbench_mpls_ttl_vm_instructions` -/
def mplsTtlVmInstructions (index : Nat) : Option (FlowVar × FieldWrite) :=
  if !stream.mplsFieldEnabled index then none
  else stream.clampedVmInstructions (.mplsTtl index) 255 1
    (.octets (stream.mplsIndexOffset index + 3))

/-- `workbench_vxlan_vni_vm_instructions` -/
def vxlanVniVmInstructions : Option (FlowVar × FieldWrite) :=
  if !stream.vxlanEnabled then none
  else stream.clampedVmInstructions .vxlanVni 16777215 4
    (.bits stream.vxlanVniOffset 0xFFFFFF00 4 8)

/-- `workbench_vxlan_inner_ipv4_ttl_vm_instructions`,
`workbench_gtpu_inner_ipv4_ttl_vm_instructions` and
`workbench_gre_inner_ipv4_ttl_vm_instructions` -/
def innerIpv4TtlVmInstructions (tunnel : Tunnel) : Option (FlowVar × FieldWrite) :=
  if !tunnel.carries stream.addressLayout .ipv4 then none
  else stream.clampedVmInstructions (.innerIpv4Ttl tunnel) 255 1
    (.octets (tunnel.innerOffset stream.addressLayout + 8))

/-- `workbench_vxlan_inner_ipv6_hop_limit_vm_instructions`,
`workbench_gtpu_inner_ipv6_hop_limit_vm_instructions` and
`workbench_gre_inner_ipv6_hop_limit_vm_instructions` -/
def innerIpv6HopLimitVmInstructions (tunnel : Tunnel) : Option (FlowVar × FieldWrite) :=
  if !tunnel.carries stream.addressLayout .ipv6 then none
  else stream.clampedVmInstructions (.innerIpv6HopLimit tunnel) 255 1
    (.octets (tunnel.innerOffset stream.addressLayout + 7))

def hasTunnel : Tunnel → Bool
  | .vxlan => stream.vxlanEnabled
  | .gtpu => stream.hasGtpu
  | .gre => stream.packetType.isGre

def innerVersion : Tunnel → IpVersion
  | .vxlan => stream.vxlanInnerIpVersion
  | .gtpu => stream.gtpuInnerIpVersion
  | .gre => stream.greInnerVersion

/-- `workbench_vxlan_inner_l4_port_vm_instructions`,
`workbench_gtpu_inner_l4_port_vm_instructions` and
`workbench_gre_inner_l4_port_vm_instructions` -/
def innerL4PortVmInstructions (tunnel : Tunnel) (field : FlowEnd) :
    Option (FlowVar × FieldWrite) :=
  if !stream.hasTunnel tunnel then none
  else stream.clampedVmInstructions (.innerL4Port tunnel field) 65535 2
    (.octets (tunnel.innerOffset stream.addressLayout + (stream.innerVersion tunnel).headerLength
      + if field = .dst then 2 else 0))

/-- `workbench_gtpu_teid_vm_instructions` -/
def gtpuTeidVmInstructions : Option (FlowVar × FieldWrite) :=
  if !stream.hasGtpu then none
  else stream.clampedVmInstructions .gtpuTeid 4294967295 4 (.octets stream.gtpuTeidOffset)

/-- `workbench_gtpu_sequence_vm_instructions` -/
def gtpuSequenceVmInstructions : Option (FlowVar × FieldWrite) :=
  if !stream.hasGtpu || !stream.gtpuSequenceEnabled then none
  else stream.clampedVmInstructions .gtpuSequence 65535 2 (.octets (stream.gtpuTeidOffset + 4))

/-- `workbench_gtpu_npdu_vm_instructions` -/
def gtpuNpduVmInstructions : Option (FlowVar × FieldWrite) :=
  if !stream.hasGtpu || !stream.gtpuNpduEnabled then none
  else stream.clampedVmInstructions .gtpuNpdu 255 1 (.octets (stream.gtpuTeidOffset + 4 + 2))

/-- `workbench_gtpu_extension_udp_port_vm_instructions` -/
def gtpuExtensionUdpPortVmInstructions : Option (FlowVar × FieldWrite) :=
  if !stream.hasGtpu || !stream.gtpuExtensionEnabled then none
  else stream.clampedVmInstructions .gtpuExtensionUdpPort 65535 2
    (.octets (stream.gtpuTeidOffset + 4 + stream.gtpuOptionalHeaderLength + 1))

/-- `workbench_gre_number_vm_instructions` -/
def greNumberVmInstructions (field : GreNumber) : Option (FlowVar × FieldWrite) :=
  if !stream.packetType.isGre then none
  else (stream.greOptionOffset field).bind fun packetOffset =>
    stream.clampedVmInstructions (.gre field) 4294967295 4 (.octets packetOffset)

/-- `workbench_arp_operation_vm_instructions`: nothing cuts the range. -/
def arpOperationVmInstructions : Option (FlowVar × FieldWrite) :=
  stream.boundedVmInstructions .arpOperation 2
    (stream.value .arpOperation,
      stream.value .arpOperation + (stream.number .arpOperation).count - 1)
    (.octets (stream.l2HeaderLength + 6))

/-- `workbench_ipv4_dscp_vm_instructions` -/
def ipv4DscpVmInstructions : Option (FlowVar × FieldWrite) :=
  stream.clampedVmInstructions .ipv4Dscp 63 1 (.bits (stream.ipOffset + 1) 0xFC 1 2)

/-- `workbench_ipv4_ecn_vm_instructions` -/
def ipv4EcnVmInstructions : Option (FlowVar × FieldWrite) :=
  stream.clampedVmInstructions .ipv4Ecn 3 1 (.bits (stream.ipOffset + 1) 0x03 1 0)

/-- `workbench_ipv4_id_vm_instructions` -/
def ipv4IdVmInstructions : Option (FlowVar × FieldWrite) :=
  stream.clampedVmInstructions .ipv4Id 65535 2 (.octets (stream.ipOffset + 4))

/-- `workbench_ipv4_fragment_offset_vm_instructions` -/
def ipv4FragmentOffsetVmInstructions : Option (FlowVar × FieldWrite) :=
  stream.clampedVmInstructions .ipv4FragmentOffset 8191 2
    (.bits (stream.ipOffset + 6) 0x1FFF 2 0)

/-- `workbench_ipv4_ttl_vm_instructions` -/
def ipv4TtlVmInstructions : Option (FlowVar × FieldWrite) :=
  stream.clampedVmInstructions .ipv4Ttl 255 1 (.octets (stream.ipOffset + 8))

/-- `workbench_ipv6_flow_label_vm_instructions` -/
def ipv6FlowLabelVmInstructions : Option (FlowVar × FieldWrite) :=
  stream.clampedVmInstructions .ipv6FlowLabel 1048575 4 (.bits stream.ipOffset 0x000FFFFF 4 0)

/-- `workbench_ipv6_traffic_class_vm_instructions` -/
def ipv6TrafficClassVmInstructions : Option (FlowVar × FieldWrite) :=
  stream.clampedVmInstructions .ipv6TrafficClass 255 1 (.bits stream.ipOffset 0x0FF00000 4 20)

/-- `workbench_ipv6_hop_limit_vm_instructions` -/
def ipv6HopLimitVmInstructions : Option (FlowVar × FieldWrite) :=
  stream.clampedVmInstructions .ipv6HopLimit 255 1 (.octets (stream.ipOffset + 7))

/-- `workbench_l4_port_vm_instructions` -/
def l4PortVmInstructions (field : FlowEnd) : Option (FlowVar × FieldWrite) :=
  let override := match field with
    | .dst => stream.l4DstPortOverride
    | .src => stream.l4SrcPortOverride
  if !override then none
  else stream.clampedVmInstructions (.l4Port field) 65535 2
    (.octets (stream.l4Offset + if field = .dst then 2 else 0))

/-- `workbench_udp_length_vm_instructions` -/
def udpLengthVmInstructions : Option (FlowVar × FieldWrite) :=
  if !stream.udpLengthOverride then none
  else stream.clampedVmInstructions .udpLength 65535 2 (.octets (stream.l4Offset + 4))

/-- `workbench_udp_checksum_vm_instructions` -/
def udpChecksumVmInstructions : Option (FlowVar × FieldWrite) :=
  if !stream.udpChecksumOverride then none
  else stream.clampedVmInstructions .udpChecksum 65535 2 (.octets (stream.l4Offset + 6))

/-- `workbench_tcp_number_vm_instructions` -/
def tcpNumberVmInstructions (field : TcpNumber) : Option (FlowVar × FieldWrite) :=
  stream.clampedVmInstructions (.tcpNumber field) 4294967295 4
    (.octets (stream.l4Offset + if field = .ack then 8 else 4))

/-- `workbench_tcp_window_vm_instructions` -/
def tcpWindowVmInstructions : Option (FlowVar × FieldWrite) :=
  stream.clampedVmInstructions .tcpWindow 65535 2 (.octets (stream.l4Offset + 14))

/-- `workbench_tcp_urgent_pointer_vm_instructions` -/
def tcpUrgentPointerVmInstructions : Option (FlowVar × FieldWrite) :=
  stream.clampedVmInstructions .tcpUrgentPointer 65535 2 (.octets (stream.l4Offset + 18))

/-- `workbench_tcp_checksum_vm_instructions` -/
def tcpChecksumVmInstructions : Option (FlowVar × FieldWrite) :=
  if !stream.tcpChecksumOverride then none
  else stream.clampedVmInstructions .tcpChecksum 65535 2 (.octets (stream.l4Offset + 16))

/-- `workbench_tcp_flags_vm_instructions` -/
def tcpFlagsVmInstructions : Option (FlowVar × FieldWrite) :=
  stream.clampedVmInstructions .tcpFlags 0x3F 1 (.bits (stream.l4Offset + 13) 0x3F 1 0)

/-- `workbench_tcp_option_mss_vm_instructions` -/
def tcpOptionMssVmInstructions : Option (FlowVar × FieldWrite) :=
  if !stream.tcpOptionMssEnabled then none
  else (stream.tcpOptionValueOffset 2 4 2).bind fun valueOffset =>
    stream.clampedVmInstructions .tcpOptionMss 65535 2 (.octets (stream.l4Offset + valueOffset))

/-- `workbench_tcp_option_sack_vm_instructions` -/
def tcpOptionSackVmInstructions (field : SackEdge) : Option (FlowVar × FieldWrite) :=
  if !stream.tcpOptionSackBlocksEnabled then none
  else (stream.tcpOptionValueOffset 5 10 (if field = .left then 2 else 6)).bind fun valueOffset =>
    stream.clampedVmInstructions (.tcpOptionSack field) 4294967295 4
      (.octets (stream.l4Offset + valueOffset))

/-- `workbench_tcp_option_timestamp_vm_instructions` -/
def tcpOptionTimestampVmInstructions (field : TimestampField) : Option (FlowVar × FieldWrite) :=
  if !stream.tcpOptionTimestampEnabled then none
  else (stream.tcpOptionValueOffset 8 10 (if field = .value then 2 else 6)).bind fun valueOffset =>
    stream.clampedVmInstructions (.tcpOptionTimestamp field) 4294967295 4
      (.octets (stream.l4Offset + valueOffset))

/-- `workbench_tcp_option_window_scale_vm_instructions` -/
def tcpOptionWindowScaleVmInstructions : Option (FlowVar × FieldWrite) :=
  if !stream.tcpOptionWindowScaleEnabled then none
  else (stream.tcpOptionValueOffset 3 3 2).bind fun valueOffset =>
    stream.clampedVmInstructions .tcpOptionWindowScale 255 1
      (.octets (stream.l4Offset + valueOffset))

/-- The size of the variable and the place in the header, in
`workbench_sctp_number_vm_instructions`. -/
def sctpNumberSpec : SctpNumber → Nat × Nat
  | .verificationTag => (4, 4)
  | .dataFlags => (1, 13)
  | .tsn => (4, 16)
  | .streamId => (2, 20)
  | .streamSequence => (2, 22)
  | .payloadProtocolId => (4, 24)

/-- `workbench_sctp_number_vm_instructions` -/
def sctpNumberVmInstructions (field : SctpNumber) : Option (FlowVar × FieldWrite) :=
  let size := (sctpNumberSpec field).1
  stream.clampedVmInstructions (.sctp field) (256 ^ size - 1) size
    (.octets (stream.l4Offset + (sctpNumberSpec field).2))

/-- `field_spec` in `workbench_icmp_number_vm_instructions`: the size of the variable and the
place in the header. -/
def icmpNumberSpec : IcmpNumber → Nat × Nat
  | .type => (1, 0)
  | .code => (1, 1)
  | .identifier => (2, 4)
  | .sequence => (2, 6)

/-- `workbench_icmp_number_vm_instructions` -/
def icmpNumberVmInstructions (field : IcmpNumber) : Option (FlowVar × FieldWrite) :=
  let size := (icmpNumberSpec field).1
  stream.clampedVmInstructions (.icmp field) (256 ^ size - 1) size
    (.octets (stream.l4Offset + (icmpNumberSpec field).2))

/-- `workbench_dns_transaction_id_vm_instructions` -/
def dnsTransactionIdVmInstructions : Option (FlowVar × FieldWrite) :=
  if !stream.hasDns then none
  else stream.rangedVmInstructions .dnsTransactionId 2 u16FieldEngineBounds
    (.octets stream.messageOffset)

/-- `workbench_dns_flags_vm_instructions` -/
def dnsFlagsVmInstructions : Option (FlowVar × FieldWrite) :=
  if !stream.hasDns then none
  else stream.rangedVmInstructions .dnsFlags 2 u16FieldEngineBounds
    (.octets (stream.messageOffset + 2))

/-- `workbench_dns_question_field_vm_instructions` -/
def dnsQuestionFieldVmInstructions (field : DnsQuestionField) : Option (FlowVar × FieldWrite) :=
  if !stream.hasDns then none
  else stream.rangedVmInstructions (.dnsQuestion field) 2 u16FieldEngineBounds
    (.octets (stream.messageOffset + 12 + (Stream.dnsNameBytes stream.dns.queryName).length
      + if field = .queryType then 0 else 2))

/-- `workbench_dns_answer_ttl_vm_instructions` -/
def dnsAnswerTtlVmInstructions : Option (FlowVar × FieldWrite) :=
  stream.dnsAnswerOffset.bind fun answerOffset =>
    stream.rangedVmInstructions .dnsAnswerTtl 4 u32FieldEngineBounds (.octets (answerOffset + 6))

/-- `payload_offset` and `size`, as `_workbench_vm_body` passes them. -/
def bootpNumberSpec : BootpNumber → Nat × Nat
  | .operation => (0, 1)
  | .hops => (3, 1)
  | .seconds => (8, 2)

/-- `workbench_dhcp_bootp_number_vm_instructions` -/
def dhcpBootpNumberVmInstructions (field : BootpNumber) : Option (FlowVar × FieldWrite) :=
  if !stream.hasDhcp then none
  else
    let size := (bootpNumberSpec field).2
    stream.rangedVmInstructions (.dhcpBootp field) size (dhcpBootpNumberBounds size)
      (.octets (stream.messageOffset + (bootpNumberSpec field).1))

/-- `workbench_dhcp_xid_vm_instructions` -/
def dhcpXidVmInstructions : Option (FlowVar × FieldWrite) :=
  if !stream.hasDhcp then none
  else stream.clampedVmInstructions .dhcpXid 4294967295 4 (.octets (stream.messageOffset + 4))

/-- `workbench_dhcp_message_type_vm_instructions` -/
def dhcpMessageTypeVmInstructions : Option (FlowVar × FieldWrite) :=
  if !stream.hasDhcp then none
  else stream.rangedVmInstructions .dhcpMessageType 1 (dhcpBounds 1 255)
    (.octets (stream.messageOffset + 242))

/-- `workbench_dhcp_flags_vm_instructions` -/
def dhcpFlagsVmInstructions : Option (FlowVar × FieldWrite) :=
  if !stream.hasDhcp then none
  else stream.rangedVmInstructions .dhcpFlags 2 u16FieldEngineBounds
    (.octets (stream.messageOffset + 10))

/-- `option_codes` in `workbench_dhcp_u32_option_vm_instructions` -/
def dhcpTimeCode : DhcpTime → Nat
  | .leaseTime => 51
  | .renewalTime => 58
  | .rebindingTime => 59

/-- `workbench_dhcp_u32_option_vm_instructions` -/
def dhcpU32OptionVmInstructions (field : DhcpTime) : Option (FlowVar × FieldWrite) :=
  if !stream.hasDhcp || stream.value (.dhcpTime field) = 0 then none
  else (stream.dhcpOptionValueOffset (dhcpTimeCode field)).bind fun optionOffset =>
    stream.rangedVmInstructions (.dhcpTime field) 4 (dhcpBounds 0 4294967295)
      (.octets optionOffset)

def numberVmInstructions : NumberField → Option (FlowVar × FieldWrite)
  | .vlanPriority index => stream.vlanPriorityVmInstructions index
  | .vlanId index => stream.vlanIdVmInstructions index
  | .mplsLabel index => stream.mplsLabelVmInstructions index
  | .mplsTc index => stream.mplsTcVmInstructions index
  | .mplsTtl index => stream.mplsTtlVmInstructions index
  | .vxlanVni => stream.vxlanVniVmInstructions
  | .innerIpv4Ttl tunnel => stream.innerIpv4TtlVmInstructions tunnel
  | .innerIpv6HopLimit tunnel => stream.innerIpv6HopLimitVmInstructions tunnel
  | .innerL4Port tunnel field => stream.innerL4PortVmInstructions tunnel field
  | .gtpuTeid => stream.gtpuTeidVmInstructions
  | .gtpuSequence => stream.gtpuSequenceVmInstructions
  | .gtpuNpdu => stream.gtpuNpduVmInstructions
  | .gtpuExtensionUdpPort => stream.gtpuExtensionUdpPortVmInstructions
  | .gre field => stream.greNumberVmInstructions field
  | .arpOperation => stream.arpOperationVmInstructions
  | .ipv4Dscp => stream.ipv4DscpVmInstructions
  | .ipv4Ecn => stream.ipv4EcnVmInstructions
  | .ipv4Id => stream.ipv4IdVmInstructions
  | .ipv4FragmentOffset => stream.ipv4FragmentOffsetVmInstructions
  | .ipv4Ttl => stream.ipv4TtlVmInstructions
  | .ipv6TrafficClass => stream.ipv6TrafficClassVmInstructions
  | .ipv6FlowLabel => stream.ipv6FlowLabelVmInstructions
  | .ipv6HopLimit => stream.ipv6HopLimitVmInstructions
  | .l4Port field => stream.l4PortVmInstructions field
  | .dnsTransactionId => stream.dnsTransactionIdVmInstructions
  | .dnsFlags => stream.dnsFlagsVmInstructions
  | .dnsQuestion field => stream.dnsQuestionFieldVmInstructions field
  | .dnsAnswerTtl => stream.dnsAnswerTtlVmInstructions
  | .dhcpBootp field => stream.dhcpBootpNumberVmInstructions field
  | .dhcpXid => stream.dhcpXidVmInstructions
  | .dhcpMessageType => stream.dhcpMessageTypeVmInstructions
  | .dhcpFlags => stream.dhcpFlagsVmInstructions
  | .dhcpTime field => stream.dhcpU32OptionVmInstructions field
  | .udpLength => stream.udpLengthVmInstructions
  | .udpChecksum => stream.udpChecksumVmInstructions
  | .tcpNumber field => stream.tcpNumberVmInstructions field
  | .tcpWindow => stream.tcpWindowVmInstructions
  | .tcpUrgentPointer => stream.tcpUrgentPointerVmInstructions
  | .tcpFlags => stream.tcpFlagsVmInstructions
  | .tcpOptionMss => stream.tcpOptionMssVmInstructions
  | .tcpOptionSack field => stream.tcpOptionSackVmInstructions field
  | .tcpOptionTimestamp field => stream.tcpOptionTimestampVmInstructions field
  | .tcpOptionWindowScale => stream.tcpOptionWindowScaleVmInstructions
  | .tcpChecksum => stream.tcpChecksumVmInstructions
  | .sctp field => stream.sctpNumberVmInstructions field
  | .icmp field => stream.icmpNumberVmInstructions field

/-! ## Ranges fit -/

variable {stream : EngineStream} {field : NumberField} {size most least : Nat}

/-- The bounds are around the first value, and fit the size. -/
structure Fits (stream : EngineStream) (field : NumberField) (size : Nat) (bounds : Nat × Nat) :
    Prop where
  low : bounds.1 ≤ stream.value field
  high : stream.value field ≤ bounds.2
  fits : bounds.2 < 256 ^ size

/-- Up to the number of the last of `count` values, there is nothing below the first. -/
theorem value_le_last : stream.value field ≤ stream.value field + (stream.number field).count - 1 := by
  have hcount := (stream.number field).count_pos
  omega

theorem fits_clamped (hvalue : stream.value field ≤ most) (hmost : most < 256 ^ size) :
    stream.Fits field size
      (stream.value field, min most (stream.value field + (stream.number field).count - 1)) :=
  ⟨Nat.le_refl _, Nat.le_min.mpr ⟨hvalue, value_le_last⟩,
    Nat.lt_of_le_of_lt (Nat.min_le_left _ _) hmost⟩

theorem fits_fieldEngineBounds (hvalue : stream.value field ≤ most) (hmost : most < 256 ^ size)
    (step : Nat) (operation : FieldEngineOperation) :
    stream.Fits field size
      (fieldEngineBounds most (stream.value field) (stream.number field).count step operation) := by
  have hlast := stream.fits_clamped hvalue hmost
  cases operation with
  | dec => exact ⟨Nat.sub_le _ _, Nat.le_refl _, Nat.lt_of_le_of_lt hvalue hmost⟩
  | inc =>
      exact ⟨Nat.le_refl _, Nat.le_min.mpr ⟨hvalue, Nat.le_add_right _ _⟩,
        Nat.lt_of_le_of_lt (Nat.min_le_left _ _) hmost⟩
  | fixed => exact hlast
  | random => exact hlast

theorem fits_dhcpBounds (hleast : least ≤ stream.value field) (hvalue : stream.value field ≤ most)
    (hmost : most < 256 ^ size) (count step : Nat) (operation : FieldEngineOperation) :
    stream.Fits field size (dhcpBounds least most (stream.value field) count step operation) := by
  cases operation with
  | dec =>
      exact ⟨Nat.max_le.mpr ⟨hleast, Nat.sub_le _ _⟩, Nat.le_refl _,
        Nat.lt_of_le_of_lt hvalue hmost⟩
  | inc =>
      exact ⟨Nat.le_refl _, Nat.le_min.mpr ⟨hvalue, Nat.le_add_right _ _⟩,
        Nat.lt_of_le_of_lt (Nat.min_le_left _ _) hmost⟩
  | fixed => exact ⟨hleast, hvalue, hmost⟩
  | random => exact ⟨hleast, hvalue, hmost⟩

theorem fits_dhcpBootpNumberBounds (hvalue : stream.value field ≤ 256 ^ size - 1)
    (count step : Nat) (operation : FieldEngineOperation) :
    stream.Fits field size
      (dhcpBootpNumberBounds size (stream.value field) count step operation) := by
  have hmost : 256 ^ size - 1 < 256 ^ size := Nat.sub_lt (Nat.pow_pos (by decide)) Nat.one_pos
  cases operation with
  | dec =>
      exact ⟨Nat.sub_le _ _, Nat.le_min.mpr ⟨hvalue, Nat.le_refl _⟩,
        Nat.lt_of_le_of_lt (Nat.min_le_left _ _) hmost⟩
  | inc =>
      exact ⟨Nat.le_refl _, Nat.le_min.mpr ⟨hvalue, Nat.le_add_right _ _⟩,
        Nat.lt_of_le_of_lt (Nat.min_le_left _ _) hmost⟩
  | fixed => exact ⟨Nat.zero_le _, hvalue, hmost⟩
  | random => exact ⟨Nat.zero_le _, hvalue, hmost⟩

theorem fits_mplsLabel (stream : EngineStream) (index : Nat) :
    let count := (stream.number (.mplsLabel index)).count
    let sizeAndInit := mplsLabelFieldEngineSizeAndInit (stream.value (.mplsLabel index)) count
    stream.Fits (.mplsLabel index) sizeAndInit.1 (sizeAndInit.2, sizeAndInit.2 + count - 1) := by
  have hlast : stream.value (.mplsLabel index) ≤ stream.value (.mplsLabel index)
      + (stream.number (.mplsLabel index)).count - 1 := value_le_last
  have hcount := stream.mplsLabel_count_le index
  have hvalue : stream.value (.mplsLabel index) ≤ 1048575 := by
    have hfirst := stream.mplsLabel_le
    have hsecond := stream.mplsLabel2_le
    have hthird := stream.mplsLabel3_le
    unfold value
    dsimp only
    split_ifs <;> assumption
  dsimp only
  unfold mplsLabelFieldEngineSizeAndInit
  split_ifs with hone htwo
  · exact ⟨Nat.le_refl _, hlast, by dsimp only; omega⟩
  · exact ⟨Nat.le_refl _, hlast, by dsimp only; omega⟩
  · exact ⟨Nat.le_refl _, hlast, by dsimp only; omega⟩

/-! ## What the builders emit -/

variable {flowVar : FlowVar} {write : FieldWrite}

theorem boundedVmInstructions_spec {bounds : Nat × Nat} {place : FieldPlace}
    (h : stream.boundedVmInstructions field size bounds place = some (flowVar, write)) :
    (stream.number field).operation ≠ .fixed ∧ write = place.write field.variableName ∧
      flowVar = ⟨field.variableName, stream.value field, bounds.1, bounds.2,
        (stream.number field).operation, size, (stream.number field).step⟩ := by
  unfold boundedVmInstructions at h
  split_ifs at h with hfixed
  obtain ⟨rfl, rfl⟩ := Prod.mk.inj (Option.some.inj h)
  exact ⟨hfixed, rfl, rfl⟩

theorem representable_iff {bounds : Nat × Nat} {place : FieldPlace}
    (h : stream.boundedVmInstructions field size bounds place = some (flowVar, write)) :
    flowVar.Representable ↔ stream.Fits field size bounds := by
  obtain ⟨-, -, rfl⟩ := boundedVmInstructions_spec h
  exact ⟨fun hrange => ⟨hrange.low, hrange.high, hrange.fits⟩,
    fun hrange => ⟨hrange.low, hrange.high, hrange.fits⟩⟩

/-- What is emitted for a field: a variable of its name, in a range that fits unless the field
is the ARP operation. -/
structure Emits (stream : EngineStream) (field : NumberField) (flowVar : FlowVar)
    (write : FieldWrite) : Prop where
  iterated : (stream.number field).operation ≠ .fixed
  op : flowVar.op = (stream.number field).operation
  name : flowVar.name = field.variableName
  write_name : write.name = field.variableName
  representable : field ≠ .arpOperation → flowVar.Representable

theorem emits_of_bounded {bounds : Nat × Nat} {place : FieldPlace}
    (h : stream.boundedVmInstructions field size bounds place = some (flowVar, write))
    (hfits : field ≠ .arpOperation → stream.Fits field size bounds) :
    stream.Emits field flowVar write := by
  obtain ⟨hiterated, hwrite, hflowVar⟩ := boundedVmInstructions_spec h
  refine ⟨hiterated, by rw [hflowVar], by rw [hflowVar], ?_, ?_⟩
  · rw [hwrite, FieldPlace.write_name]
  · intro hfield
    exact (representable_iff h).mpr (hfits hfield)

theorem emits_of_clamped {place : FieldPlace}
    (h : stream.clampedVmInstructions field most size place = some (flowVar, write))
    (hvalue : stream.value field ≤ most) (hmost : most < 256 ^ size) :
    stream.Emits field flowVar write :=
  emits_of_bounded h fun _ => fits_clamped hvalue hmost

end EngineStream

/-! ## All number fields -/

theorem octet_le (n : UInt8) : n.toNat ≤ 255 := Nat.le_of_lt_succ n.toNat_lt

theorem word_le (n : UInt16) : n.toNat ≤ 65535 := Nat.le_of_lt_succ n.toNat_lt

theorem long_le (n : UInt32) : n.toNat ≤ 4294967295 := Nat.le_of_lt_succ n.toNat_lt

theorem ite_le_of_le {c : Prop} [Decidable c] {a b most : Nat} (ha : a ≤ most) (hb : b ≤ most) :
    (if c then a else b) ≤ most := by
  split_ifs <;> assumption

theorem tcpFlagsValue_le (stream : Stream) : stream.tcpFlagsValue ≤ 0x3F := by
  unfold Stream.tcpFlagsValue
  split_ifs <;> decide

namespace EngineStream

variable {stream : EngineStream} {field : NumberField} {flowVar : FlowVar} {write : FieldWrite}

theorem numberVmInstructions_emits
    (h : stream.numberVmInstructions field = some (flowVar, write)) :
    stream.Emits field flowVar write := by
  cases field with
  | vlanPriority index =>
      exact emits_of_clamped (some_of_guard h)
        (ite_le_of_le stream.vlanPriority_le stream.vlan2Priority_le) (by decide)
  | vlanId index =>
      exact emits_of_clamped (some_of_guard h)
        (ite_le_of_le stream.vlanId_le stream.vlan2Id_le) (by decide)
  | mplsLabel index =>
      exact emits_of_bounded (some_of_guard h) fun _ => stream.fits_mplsLabel index
  | mplsTc index =>
      exact emits_of_clamped (some_of_guard h) (ite_le_of_le stream.mplsTc_le
        (ite_le_of_le stream.mplsLabel2Tc_le stream.mplsLabel3Tc_le)) (by decide)
  | mplsTtl index =>
      exact emits_of_clamped (some_of_guard h) (ite_le_of_le stream.mplsTtl_le
        (ite_le_of_le stream.mplsLabel2Ttl_le stream.mplsLabel3Ttl_le)) (by decide)
  | arpOperation => exact emits_of_bounded h fun hfield => absurd rfl hfield
  | vxlanVni => exact emits_of_clamped (some_of_guard h) stream.vxlanVni_le (by decide)
  | innerIpv4Ttl tunnel => exact emits_of_clamped (some_of_guard h) (octet_le _) (by decide)
  | innerIpv6HopLimit tunnel => exact emits_of_clamped (some_of_guard h) (octet_le _) (by decide)
  | innerL4Port tunnel field =>
      cases field <;> exact emits_of_clamped (some_of_guard h) (word_le _) (by decide)
  | gtpuTeid => exact emits_of_clamped (some_of_guard h) (long_le _) (by decide)
  | gtpuSequence => exact emits_of_clamped (some_of_guard h) (word_le _) (by decide)
  | gtpuNpdu => exact emits_of_clamped (some_of_guard h) (octet_le _) (by decide)
  | gtpuExtensionUdpPort => exact emits_of_clamped (some_of_guard h) (word_le _) (by decide)
  | gre field =>
      obtain ⟨_, -, h⟩ := Option.bind_eq_some_iff.mp (some_of_guard h)
      cases field <;> exact emits_of_clamped h (long_le _) (by decide)
  | ipv4Dscp => exact emits_of_clamped h stream.ipv4Dscp_le (by decide)
  | ipv4Ecn => exact emits_of_clamped h stream.ipv4Ecn_le (by decide)
  | ipv4Id => exact emits_of_clamped h (word_le _) (by decide)
  | ipv4FragmentOffset => exact emits_of_clamped h stream.ipv4FragmentOffset_le (by decide)
  | ipv4Ttl => exact emits_of_clamped h (octet_le _) (by decide)
  | ipv6TrafficClass => exact emits_of_clamped h stream.ipv6TrafficClass_le (by decide)
  | ipv6FlowLabel => exact emits_of_clamped h stream.ipv6FlowLabel_le (by decide)
  | ipv6HopLimit => exact emits_of_clamped h (octet_le _) (by decide)
  | l4Port field =>
      cases field <;> exact emits_of_clamped (some_of_guard h) (word_le _) (by decide)
  | dnsTransactionId =>
      exact emits_of_bounded (some_of_guard h) fun _ =>
        fits_fieldEngineBounds (word_le _) (by decide) _ _
  | dnsFlags =>
      exact emits_of_bounded (some_of_guard h) fun _ =>
        fits_fieldEngineBounds (word_le _) (by decide) _ _
  | dnsQuestion field =>
      cases field <;>
        exact emits_of_bounded (some_of_guard h) fun _ =>
          fits_fieldEngineBounds (word_le _) (by decide) _ _
  | dnsAnswerTtl =>
      obtain ⟨_, -, h⟩ := Option.bind_eq_some_iff.mp h
      exact emits_of_bounded h fun _ => fits_fieldEngineBounds (long_le _) (by decide) _ _
  | dhcpBootp field =>
      refine emits_of_bounded (some_of_guard h) fun _ => fits_dhcpBootpNumberBounds ?_ _ _ _
      cases field with
      | operation => exact octet_le _
      | hops => exact octet_le _
      | seconds => exact word_le _
  | dhcpXid => exact emits_of_clamped (some_of_guard h) (long_le _) (by decide)
  | dhcpMessageType =>
      exact emits_of_bounded (some_of_guard h) fun _ =>
        fits_dhcpBounds stream.messageType_pos (octet_le _) (by decide) _ _ _
  | dhcpFlags =>
      exact emits_of_bounded (some_of_guard h) fun _ =>
        fits_fieldEngineBounds (word_le _) (by decide) _ _
  | dhcpTime field =>
      obtain ⟨_, -, h⟩ := Option.bind_eq_some_iff.mp (some_of_guard h)
      cases field <;>
        exact emits_of_bounded h fun _ =>
          fits_dhcpBounds (Nat.zero_le _) (long_le _) (by decide) _ _ _
  | udpLength => exact emits_of_clamped (some_of_guard h) (word_le _) (by decide)
  | udpChecksum => exact emits_of_clamped (some_of_guard h) (word_le _) (by decide)
  | tcpNumber field => cases field <;> exact emits_of_clamped h (long_le _) (by decide)
  | tcpWindow => exact emits_of_clamped h (word_le _) (by decide)
  | tcpUrgentPointer => exact emits_of_clamped h (word_le _) (by decide)
  | tcpFlags => exact emits_of_clamped h (tcpFlagsValue_le _) (by decide)
  | tcpOptionMss =>
      obtain ⟨_, -, h⟩ := Option.bind_eq_some_iff.mp (some_of_guard h)
      exact emits_of_clamped h (word_le _) (by decide)
  | tcpOptionSack field =>
      obtain ⟨_, -, h⟩ := Option.bind_eq_some_iff.mp (some_of_guard h)
      cases field <;> exact emits_of_clamped h (long_le _) (by decide)
  | tcpOptionTimestamp field =>
      obtain ⟨_, -, h⟩ := Option.bind_eq_some_iff.mp (some_of_guard h)
      cases field <;> exact emits_of_clamped h (long_le _) (by decide)
  | tcpOptionWindowScale =>
      obtain ⟨_, -, h⟩ := Option.bind_eq_some_iff.mp (some_of_guard h)
      exact emits_of_clamped h (octet_le _) (by decide)
  | tcpChecksum => exact emits_of_clamped (some_of_guard h) (word_le _) (by decide)
  | sctp field =>
      cases field with
      | verificationTag => exact emits_of_clamped h (long_le _) (by decide)
      | dataFlags => exact emits_of_clamped h (octet_le _) (by decide)
      | tsn => exact emits_of_clamped h (long_le _) (by decide)
      | streamId => exact emits_of_clamped h (word_le _) (by decide)
      | streamSequence => exact emits_of_clamped h (word_le _) (by decide)
      | payloadProtocolId => exact emits_of_clamped h (long_le _) (by decide)
  | icmp field =>
      cases field with
      | type => exact emits_of_clamped h (octet_le _) (by decide)
      | code => exact emits_of_clamped h (octet_le _) (by decide)
      | identifier => exact emits_of_clamped h (word_le _) (by decide)
      | sequence => exact emits_of_clamped h (word_le _) (by decide)

/-- The variable of the ARP operation fits exactly when the last operation does. -/
theorem arpOperation_representable_iff
    (h : stream.arpOperationVmInstructions = some (flowVar, write)) :
    flowVar.Representable ↔
      stream.arpOperation.toNat + (stream.number .arpOperation).count ≤ 65536 := by
  have hcount := (stream.number .arpOperation).count_pos
  have hvalue : stream.value .arpOperation = stream.arpOperation.toNat := rfl
  rw [representable_iff h, hvalue]
  constructor
  · intro hfits
    have hlast := hfits.fits
    dsimp only at hlast
    omega
  · intro hroom
    refine ⟨Nat.le_refl _, ?_, ?_⟩
    · rw [hvalue]
      dsimp only
      omega
    · dsimp only
      omega

end EngineStream

end TrexWebui
