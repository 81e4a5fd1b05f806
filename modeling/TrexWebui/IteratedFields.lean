import TrexWebui.AddressIteration
import TrexWebui.LinkRecovery
import TrexWebui.PacketTrimming

/-!
# Streams with iterated fields

What a stream says about the iteration of its fields, and what the builders of
`workbench_vm.py` read of it: the first value of each field with a number, and
the places of the fields that stand behind optional parts of the packet.
-/

namespace TrexWebui

open PyStr Octets

/-! ## Fields -/

/-- The optional numbers of a GRE header. -/
inductive GreNumber where
  | key
  | sequence
  deriving DecidableEq, Repr

inductive DnsQuestionField where
  | queryType
  | queryClass
  deriving DecidableEq, Repr

inductive BootpNumber where
  | operation
  | hops
  | seconds
  deriving DecidableEq, Repr

inductive DhcpTime where
  | leaseTime
  | renewalTime
  | rebindingTime
  deriving DecidableEq, Repr

inductive TcpNumber where
  | ack
  | sequence
  deriving DecidableEq, Repr

/-- The ends of a SACK block. -/
inductive SackEdge where
  | left
  | right
  deriving DecidableEq, Repr

/-- The two halves of a TCP timestamp. -/
inductive TimestampField where
  | value
  | echo
  deriving DecidableEq, Repr

inductive SctpNumber where
  | verificationTag
  | dataFlags
  | tsn
  | streamId
  | streamSequence
  | payloadProtocolId
  deriving DecidableEq, Repr

inductive IcmpNumber where
  | type
  | code
  | identifier
  | sequence
  deriving DecidableEq, Repr

/-- The fields with a number that `_workbench_vm_body` iterates over. VLAN tags and labels are
counted from one. -/
inductive NumberField where
  | vlanPriority (index : Nat)
  | vlanId (index : Nat)
  | mplsLabel (index : Nat)
  | mplsTc (index : Nat)
  | mplsTtl (index : Nat)
  | vxlanVni
  | innerIpv4Ttl (tunnel : Tunnel)
  | innerIpv6HopLimit (tunnel : Tunnel)
  | innerL4Port (tunnel : Tunnel) (field : FlowEnd)
  | gtpuTeid
  | gtpuSequence
  | gtpuNpdu
  | gtpuExtensionUdpPort
  | gre (field : GreNumber)
  | arpOperation
  | ipv4Dscp
  | ipv4Ecn
  | ipv4Id
  | ipv4FragmentOffset
  | ipv4Ttl
  | ipv6TrafficClass
  | ipv6FlowLabel
  | ipv6HopLimit
  | l4Port (field : FlowEnd)
  | dnsTransactionId
  | dnsFlags
  | dnsQuestion (field : DnsQuestionField)
  | dnsAnswerTtl
  | dhcpBootp (field : BootpNumber)
  | dhcpXid
  | dhcpMessageType
  | dhcpFlags
  | dhcpTime (field : DhcpTime)
  | udpLength
  | udpChecksum
  | tcpNumber (field : TcpNumber)
  | tcpWindow
  | tcpUrgentPointer
  | tcpFlags
  | tcpOptionMss
  | tcpOptionSack (field : SackEdge)
  | tcpOptionTimestamp (field : TimestampField)
  | tcpOptionWindowScale
  | tcpChecksum
  | sctp (field : SctpNumber)
  | icmp (field : IcmpNumber)
  deriving DecidableEq, Repr

namespace NumberField

/-- The name of the variable, which is `variable_name` in each builder. -/
def variableName : NumberField → String
  | .vlanPriority index => if index = 1 then "vlan_priority" else s!"vlan{index}_priority"
  | .vlanId index => if index = 1 then "vlan_id" else s!"vlan{index}_id"
  | .mplsLabel index => if index = 1 then "mpls_label" else s!"mpls_label{index}"
  | .mplsTc index => if index = 1 then "mpls_tc" else s!"mpls_label{index}_tc"
  | .mplsTtl index => if index = 1 then "mpls_ttl" else s!"mpls_label{index}_ttl"
  | .vxlanVni => "vxlan_vni"
  | .innerIpv4Ttl tunnel => s!"{tunnel.name}_inner_ipv4_ttl"
  | .innerIpv6HopLimit tunnel => s!"{tunnel.name}_inner_ipv6_hop_limit"
  | .innerL4Port tunnel field => s!"{tunnel.name}_inner_udp_{field.name}"
  | .gtpuTeid => "gtpu_teid"
  | .gtpuSequence => "gtpu_sequence"
  | .gtpuNpdu => "gtpu_npdu"
  | .gtpuExtensionUdpPort => "gtpu_extension_udp_port"
  | .gre .key => "gre_key"
  | .gre .sequence => "gre_sequence"
  | .arpOperation => "arp_operation"
  | .ipv4Dscp => "ip_dscp"
  | .ipv4Ecn => "ip_ecn"
  | .ipv4Id => "ip_id"
  | .ipv4FragmentOffset => "ip_fragment_offset"
  | .ipv4Ttl => "ip_ttl"
  | .ipv6TrafficClass => "ipv6_traffic_class"
  | .ipv6FlowLabel => "ipv6_flow_label"
  | .ipv6HopLimit => "ipv6_hop_limit"
  | .l4Port .dst => "l4_dest_port"
  | .l4Port .src => "l4_src_port"
  | .dnsTransactionId => "dns_transaction_id"
  | .dnsFlags => "dns_flags"
  | .dnsQuestion .queryType => "dns_query_type"
  | .dnsQuestion .queryClass => "dns_query_class"
  | .dnsAnswerTtl => "dns_answer_ttl"
  | .dhcpBootp .operation => "dhcp_operation"
  | .dhcpBootp .hops => "dhcp_hops"
  | .dhcpBootp .seconds => "dhcp_seconds"
  | .dhcpXid => "dhcp_xid"
  | .dhcpMessageType => "dhcp_message_type"
  | .dhcpFlags => "dhcp_flags"
  | .dhcpTime .leaseTime => "dhcp_lease_time"
  | .dhcpTime .renewalTime => "dhcp_renewal_time"
  | .dhcpTime .rebindingTime => "dhcp_rebinding_time"
  | .udpLength => "udp_length"
  | .udpChecksum => "udp_checksum"
  | .tcpNumber .ack => "tcp_ack"
  | .tcpNumber .sequence => "tcp_sequence"
  | .tcpWindow => "tcp_window"
  | .tcpUrgentPointer => "tcp_urgent_pointer"
  | .tcpFlags => "tcp_flags"
  | .tcpOptionMss => "tcp_option_mss"
  | .tcpOptionSack .left => "tcp_option_sack_left_edge"
  | .tcpOptionSack .right => "tcp_option_sack_right_edge"
  | .tcpOptionTimestamp .value => "tcp_option_timestamp_value"
  | .tcpOptionTimestamp .echo => "tcp_option_timestamp_echo"
  | .tcpOptionWindowScale => "tcp_option_window_scale"
  | .tcpChecksum => "tcp_checksum"
  | .sctp .verificationTag => "sctp_verification_tag"
  | .sctp .dataFlags => "sctp_data_flags"
  | .sctp .tsn => "sctp_tsn"
  | .sctp .streamId => "sctp_stream_id"
  | .sctp .streamSequence => "sctp_stream_sequence"
  | .sctp .payloadProtocolId => "sctp_payload_protocol_id"
  | .icmp .type => "icmp_type"
  | .icmp .code => "icmp_code"
  | .icmp .identifier => "icmp_identifier"
  | .icmp .sequence => "icmp_sequence"

end NumberField

/-! ## Streams -/

/-- `<field>_mode`, `<field>_count` and `<field>_step` of a field, as the normalizer bounds them. -/
structure Iteration where
  operation : FieldEngineOperation := .fixed
  count : Nat := 16
  step : Nat := 1
  count_pos : 0 < count := by decide

def Iteration.of {width : Nat} (iteration : Iteration) (address : Fixed width) :
    AddressSetting width :=
  { address, operation := iteration.operation, count := iteration.count, step := iteration.step }

/-- A normalized stream without a packet binary and without `advanced_mode`, with what it says
about iteration. The normalizer knows no random MAC address, and bounds the counts; of these
bounds only that of the labels matters. -/
structure EngineStream extends FramedStream, NormalizedStream where
  mac : FlowEnd → Iteration := fun _ => {}
  ipv4 : FlowEnd → Iteration := fun _ => {}
  ipv6 : FlowEnd → Iteration := fun _ => {}
  innerIpv4 : Tunnel → FlowEnd → Iteration := fun _ _ => {}
  innerIpv6 : Tunnel → FlowEnd → Iteration := fun _ _ => {}
  arpIp : ArpEnd → Iteration := fun _ => {}
  arpMac : ArpEnd → Iteration := fun _ => {}
  dnsAnswerIpv4 : Iteration := {}
  dhcpClientMac : Iteration := {}
  dhcpIpv4Option : FlowEnd → Iteration := fun _ => {}
  dhcpBootpIpv4 : BootpField → Iteration := fun _ => {}
  number : NumberField → Iteration := fun _ => {}
  l4SrcPortOverride : Bool := false
  l4DstPortOverride : Bool := false
  mac_not_random : ∀ field, (mac field).operation ≠ .random
  mplsLabel_count_le : ∀ index, (number (.mplsLabel index)).count ≤ 1048576
  messageType_pos : 0 < dhcp.messageType.toNat
  vxlanVni_le : vxlanVni ≤ 16777215

namespace EngineStream

variable (stream : EngineStream)

/-! ## Offsets -/

/-- `workbench_vlan_index_offset` -/
def vlanIndexOffset (index : Nat) : Nat := 14 + 4 * (index - 1)

/-- `workbench_vlan_field_enabled` -/
def vlanFieldEnabled (index : Nat) : Bool :=
  if index = 1 then stream.vlanEnabled else stream.vlanEnabled && stream.vlan2Enabled

/-- `workbench_mpls_index_offset` -/
def mplsIndexOffset (index : Nat) : Nat := 14 + 4 * stream.vlanTagCount + 4 * (index - 1)

/-- `workbench_mpls_field_enabled` -/
def mplsFieldEnabled (index : Nat) : Bool :=
  stream.mplsEnabled && match index with
    | 1 => true
    | 2 => stream.mplsLabel2Enabled
    | 3 => stream.mplsLabel2Enabled && stream.mplsLabel3Enabled
    | _ => false

/-- `workbench_gre_option_offset` -/
def greOptionOffset (field : GreNumber) : Option Nat :=
  let offset := stream.l4Offset + 4 + if stream.greChecksumPresent then 4 else 0
  match field with
  | .key => if stream.greKeyPresent then some offset else none
  | .sequence =>
      if stream.greSequencePresent then some (offset + if stream.greKeyPresent then 4 else 0)
      else none

/-- The walk of `tcp_option_value_offset` over the options that are left. -/
def tcpOptionWalk (kind : UInt8) (optionLength : Nat) (options : Bytes) (offset : Nat) :
    Option Nat :=
  match options with
  | [] => none
  | candidateKind :: rest =>
      if candidateKind = 0 then none
      else if candidateKind = 1 then tcpOptionWalk kind optionLength rest (offset + 1)
      else match rest.head? with
        | none => none
        | some candidateLength =>
            if candidateLength.toNat < 2 ∨ (candidateKind :: rest).length < candidateLength.toNat then
              none
            else if candidateKind = kind ∧ candidateLength.toNat = optionLength then some offset
            else tcpOptionWalk kind optionLength (rest.drop (candidateLength.toNat - 1))
              (offset + candidateLength.toNat)
  termination_by options.length
  decreasing_by
    · simp
    · simp only [List.length_cons, List.length_drop]
      omega

def tcpOptionValueOffset (kind : UInt8) (optionLength valueOffset : Nat) : Option Nat :=
  (tcpOptionWalk kind optionLength stream.tcpOptionsBytes 20).map (· + valueOffset)

def messageOffset : Nat := stream.l4Offset + 8

/-- `workbench_dns_answer_offset` -/
def dnsAnswerOffset : Option Nat :=
  if !stream.hasDns || !stream.dns.answerEnabled then none
  else some (stream.messageOffset + 12 + (Stream.dnsNameBytes stream.dns.queryName).length + 4)

def dhcpOptions : List (Nat × Nat) :=
  let dhcp := stream.dhcp
  let time := fun (code : Nat) (seconds : UInt32) => if 0 < seconds.toNat then [(code, 4)] else []
  let address := fun (code : Nat) (address : Fixed 4) =>
    if address.val = [0, 0, 0, 0] then [] else [(code, 4)]
  [(53, 1)]
    ++ (if dhcp.parameterRequestList.isEmpty then [] else [(55, dhcp.parameterRequestList.length)])
    ++ (if dhcp.hostname.isEmpty then [] else [(12, dhcp.hostname.length)])
    ++ address 50 dhcp.requestedIp ++ address 54 dhcp.serverId ++ time 51 dhcp.leaseTime
    ++ time 58 dhcp.renewalTime ++ time 59 dhcp.rebindingTime

def optionOffset (code : Nat) : List (Nat × Nat) → Nat → Option Nat
  | [], _ => none
  | (optionCode, optionLength) :: options, offset =>
      if optionCode = code then some offset else optionOffset code options (offset + 2 + optionLength)

/-- `workbench_dhcp_option_value_offset` -/
def dhcpOptionValueOffset (code : Nat) : Option Nat :=
  if !stream.hasDhcp then none
  else (optionOffset code stream.dhcpOptions 240).map (stream.messageOffset + · + 2)

def addressLayout : AddressLayout :=
  { layout := stream.toLayoutFields, dhcpEnabled := stream.dhcp.enabled,
    dnsAnswerOffset := stream.dnsAnswerOffset,
    requestedIpOffset := stream.dhcpOptionValueOffset 50,
    serverIdOffset := stream.dhcpOptionValueOffset 54 }

/-! ## Values -/

def inner : Tunnel → InnerFields
  | .vxlan => stream.vxlanInner
  | .gtpu => stream.gtpuInner
  | .gre => stream.greInner

/-- `init_value` of each field. -/
def value : NumberField → Nat
  | .vlanPriority index => if index = 1 then stream.vlanPriority else stream.vlan2Priority
  | .vlanId index => if index = 1 then stream.vlanId else stream.vlan2Id
  | .mplsLabel index =>
      if index = 1 then stream.mplsLabel
      else if index = 2 then stream.mplsLabel2 else stream.mplsLabel3
  | .mplsTc index =>
      if index = 1 then stream.mplsTc
      else if index = 2 then stream.mplsLabel2Tc else stream.mplsLabel3Tc
  | .mplsTtl index =>
      if index = 1 then stream.mplsTtl
      else if index = 2 then stream.mplsLabel2Ttl else stream.mplsLabel3Ttl
  | .vxlanVni => stream.vxlanVni
  | .innerIpv4Ttl tunnel => (stream.inner tunnel).ipv4Ttl.toNat
  | .innerIpv6HopLimit tunnel => (stream.inner tunnel).ipv6HopLimit.toNat
  | .innerL4Port tunnel .dst => (stream.inner tunnel).l4DstPort.toNat
  | .innerL4Port tunnel .src => (stream.inner tunnel).l4SrcPort.toNat
  | .gtpuTeid => stream.gtpuTeid.toNat
  | .gtpuSequence => stream.gtpuSequence.toNat
  | .gtpuNpdu => stream.gtpuNpdu.toNat
  | .gtpuExtensionUdpPort => stream.gtpuExtensionUdpPort.toNat
  | .gre .key => stream.greKey.toNat
  | .gre .sequence => stream.greSequence.toNat
  | .arpOperation => stream.arpOperation.toNat
  | .ipv4Dscp => stream.ipv4Dscp
  | .ipv4Ecn => stream.ipv4Ecn
  | .ipv4Id => stream.ipv4Id.toNat
  | .ipv4FragmentOffset => stream.ipv4FragmentOffset
  | .ipv4Ttl => stream.ipv4Ttl.toNat
  | .ipv6TrafficClass => stream.ipv6TrafficClass
  | .ipv6FlowLabel => stream.ipv6FlowLabel
  | .ipv6HopLimit => stream.ipv6HopLimit.toNat
  | .l4Port .dst => stream.l4DstPort.toNat
  | .l4Port .src => stream.l4SrcPort.toNat
  | .dnsTransactionId => stream.dns.transactionId.toNat
  | .dnsFlags => stream.dns.flags.toNat
  | .dnsQuestion .queryType => stream.dns.queryType.toNat
  | .dnsQuestion .queryClass => stream.dns.queryClass.toNat
  | .dnsAnswerTtl => stream.dns.answerTtl.toNat
  | .dhcpBootp .operation => stream.dhcp.operation.toNat
  | .dhcpBootp .hops => stream.dhcp.hops.toNat
  | .dhcpBootp .seconds => stream.dhcp.seconds.toNat
  | .dhcpXid => stream.dhcp.xid.toNat
  | .dhcpMessageType => stream.dhcp.messageType.toNat
  | .dhcpFlags => stream.dhcp.flags.toNat
  | .dhcpTime .leaseTime => stream.dhcp.leaseTime.toNat
  | .dhcpTime .renewalTime => stream.dhcp.renewalTime.toNat
  | .dhcpTime .rebindingTime => stream.dhcp.rebindingTime.toNat
  | .udpLength => stream.udpLength.toNat
  | .udpChecksum => stream.udpChecksum.toNat
  | .tcpNumber .ack => stream.tcpAckNumber.toNat
  | .tcpNumber .sequence => stream.tcpSequenceNumber.toNat
  | .tcpWindow => stream.tcpWindow.toNat
  | .tcpUrgentPointer => stream.tcpUrgentPointer.toNat
  | .tcpFlags => stream.tcpFlagsValue
  | .tcpOptionMss => stream.tcpOptionMss.toNat
  | .tcpOptionSack .left => stream.tcpOptionSackLeftEdge.toNat
  | .tcpOptionSack .right => stream.tcpOptionSackRightEdge.toNat
  | .tcpOptionTimestamp .value => stream.tcpOptionTimestampValue.toNat
  | .tcpOptionTimestamp .echo => stream.tcpOptionTimestampEcho.toNat
  | .tcpOptionWindowScale => stream.tcpOptionWindowScale.toNat
  | .tcpChecksum => stream.tcpChecksum.toNat
  | .sctp .verificationTag => stream.sctpVerificationTag.toNat
  | .sctp .dataFlags => stream.sctpDataFlags.toNat
  | .sctp .tsn => stream.sctpTsn.toNat
  | .sctp .streamId => stream.sctpStreamId.toNat
  | .sctp .streamSequence => stream.sctpStreamSequence.toNat
  | .sctp .payloadProtocolId => stream.sctpPayloadProtocolId.toNat
  | .icmp .type => stream.icmp.type.toNat
  | .icmp .code => stream.icmp.code.toNat
  | .icmp .identifier => stream.icmp.identifier.toNat
  | .icmp .sequence => stream.icmp.sequence.toNat

end EngineStream

end TrexWebui
