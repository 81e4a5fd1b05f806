import TrexWebui.PayloadBytes
import TrexWebui.StreamLayout

/-!
# Workbench streams

A stream as `normalize_workbench_streams` leaves it, when it carries no packet
of its own: a record of typed fields. Addresses are their octets, hexadecimal
texts their values, and a DNS name the list of its labels. The defaults are
those of `workbench_values.py`.
-/

namespace TrexWebui

open PyStr Octets

/-- The inner datagram of a tunnel (`vxlan_inner_…`, `gtpu_inner_…`, `gre_inner_…`). -/
structure InnerFields where
  ipv4Src : Fixed 4
  ipv4Dst : Fixed 4
  ipv4Ttl : UInt8
  ipv6Src : Fixed 16
  ipv6Dst : Fixed 16
  ipv6HopLimit : UInt8 := 64
  l4SrcPort : UInt16 := 1025
  l4DstPort : UInt16 := 12

structure DnsFields where
  enabled : Bool := false
  transactionId : UInt16 := 0x1234
  flags : UInt16 := 0x0100
  queryName : List Bytes := [text "example" |>.map .ofNat, text "com" |>.map .ofNat]
  queryType : UInt16 := 1
  queryClass : UInt16 := 1
  answerEnabled : Bool := false
  answerTtl : UInt32 := 60
  answerIpv4 : Fixed 4 := ⟨[192, 0, 2, 1], rfl⟩

structure DhcpFields where
  enabled : Bool := false
  operation : UInt8 := 1
  hops : UInt8 := 0
  seconds : UInt16 := 0
  messageType : UInt8 := 1
  xid : UInt32 := 0x3903F326
  flags : UInt16 := 0x8000
  clientIp : Fixed 4 := ⟨[0, 0, 0, 0], rfl⟩
  yourIp : Fixed 4 := ⟨[0, 0, 0, 0], rfl⟩
  serverIp : Fixed 4 := ⟨[0, 0, 0, 0], rfl⟩
  relayIp : Fixed 4 := ⟨[0, 0, 0, 0], rfl⟩
  clientMac : Fixed 6 := ⟨[0, 17, 34, 51, 68, 85], rfl⟩
  hostname : Bytes := text "trex-webui" |>.map .ofNat
  requestedIp : Fixed 4 := ⟨[0, 0, 0, 0], rfl⟩
  serverId : Fixed 4 := ⟨[0, 0, 0, 0], rfl⟩
  parameterRequestList : Bytes := [1, 3, 6, 15, 28, 51, 58, 59]
  leaseTime : UInt32 := 0
  renewalTime : UInt32 := 0
  rebindingTime : UInt32 := 0

structure IcmpFields where
  type : UInt8 := 8
  code : UInt8 := 0
  checksumOverride : Bool := false
  checksum : UInt16 := 0
  identifier : UInt16 := 1
  sequence : UInt16 := 1
  ndTarget : Fixed 16 := ⟨[0x20, 1, 13, 0xb8, 0, 0, 0, 0, 0, 0, 0, 0, 0, 0, 0, 2], rfl⟩
  ndIncludeOption : Bool := true
  ndOptionMac : Fixed 6 := ⟨[0, 0, 0, 0, 0, 0], rfl⟩
  ndNaRouter : Bool := false
  ndNaSolicited : Bool := true
  ndNaOverride : Bool := true
  rsIncludeSlla : Bool := true
  rsSllaMac : Fixed 6 := ⟨[0, 0, 0, 0, 0, 0], rfl⟩
  raCurHopLimit : UInt8 := 64
  raManaged : Bool := false
  raOther : Bool := false
  raRouterLifetime : UInt16 := 1800
  raReachableTime : UInt32 := 0
  raRetransTimer : UInt32 := 0
  raIncludeSlla : Bool := true
  raSllaMac : Fixed 6 := ⟨[0, 0, 0, 0, 0, 0], rfl⟩
  raIncludePrefix : Bool := true
  raPrefix : Fixed 16 := ⟨[0x20, 1, 13, 0xb8, 0, 1, 0, 0, 0, 0, 0, 0, 0, 0, 0, 0], rfl⟩
  raPrefixLength : UInt8 := 64
  raPrefixOnLink : Bool := true
  raPrefixAutonomous : Bool := true
  raPrefixValidLifetime : UInt32 := 2592000
  raPrefixPreferredLifetime : UInt32 := 604800

/-- A normalized stream without a packet binary. -/
structure Stream extends LayoutFields, PayloadFields where
  frameLength : Nat := 64
  frameLength_le : frameLength ≤ 9216 := by decide
  /-- A tunnel makes the stream one of UDP over IPv4, and GTP-U excludes VXLAN. -/
  tunnel_udp : vxlanEnabled = true ∨ gtpuEnabled = true → packetType = .ipv4Udp := by decide
  gtpu_only : gtpuEnabled = true → vxlanEnabled = false := by decide
  etherDst : Fixed 6 := ⟨[0, 0, 0, 0, 0, 0], rfl⟩
  etherSrc : Fixed 6 := ⟨[0, 0, 0, 0, 0, 0], rfl⟩
  etherTypeOverride : Bool := false
  etherType : UInt16 := 0x0800
  vlanTpidOverride : Bool := false
  vlanTpid : UInt16 := 0x8100
  vlanPriority : Nat := 0
  vlanCfi : Nat := 0
  vlanId : Nat := 0
  vlan2TpidOverride : Bool := false
  vlan2Tpid : UInt16 := 0x8100
  vlan2Priority : Nat := 0
  vlan2Cfi : Nat := 0
  vlan2Id : Nat := 1
  arpHardwareType : UInt16 := 1
  arpProtocolType : UInt16 := 0x0800
  arpHardwareSize : UInt8 := 6
  arpProtocolSize : UInt8 := 4
  arpOperation : UInt16 := 1
  arpSenderMac : Fixed 6 := ⟨[0, 0, 0, 0, 0, 0], rfl⟩
  arpSenderIp : Fixed 4 := ⟨[16, 0, 0, 1], rfl⟩
  arpTargetMac : Fixed 6 := ⟨[0, 0, 0, 0, 0, 0], rfl⟩
  arpTargetIp : Fixed 4 := ⟨[48, 0, 0, 1], rfl⟩
  ipv4Src : Fixed 4 := ⟨[16, 0, 0, 1], rfl⟩
  ipv4Dst : Fixed 4 := ⟨[48, 0, 0, 1], rfl⟩
  ipv4Dscp : Nat := 0
  ipv4Ecn : Nat := 0
  ipv4Id : UInt16 := 1234
  ipv4FlagDf : Bool := false
  ipv4FlagMf : Bool := false
  ipv4FragmentOffset : Nat := 0
  ipv4Ttl : UInt8 := 127
  ipv4ChecksumOverride : Bool := false
  ipv4Checksum : UInt16 := 0
  ipv6Src : Fixed 16 := ⟨[0x20, 1, 13, 0xb8, 0, 0, 0, 0, 0, 0, 0, 0, 0, 0, 0, 1], rfl⟩
  ipv6Dst : Fixed 16 := ⟨[0x20, 1, 13, 0xb8, 0, 0, 0, 0, 0, 0, 0, 0, 0, 0, 0, 2], rfl⟩
  ipv6TrafficClass : Nat := 0
  ipv6FlowLabel : Nat := 0
  ipv6HopLimit : UInt8 := 127
  l4SrcPort : UInt16 := 1025
  l4DstPort : UInt16 := 12
  udpLengthOverride : Bool := false
  udpLength : UInt16 := 26
  udpChecksumOverride : Bool := false
  udpChecksum : UInt16 := 0
  tcpSequenceNumber : UInt32 := 1234567
  tcpAckNumber : UInt32 := 7654321
  tcpWindow : UInt16 := 9999
  tcpChecksumOverride : Bool := false
  tcpChecksum : UInt16 := 0xABCD
  tcpUrgentPointer : UInt16 := 1111
  tcpFlagUrg : Bool := false
  tcpFlagAck : Bool := false
  tcpFlagPsh : Bool := false
  tcpFlagRst : Bool := false
  tcpFlagSyn : Bool := false
  tcpFlagFin : Bool := false
  sctpVerificationTag : UInt32 := 0x12345678
  sctpChecksumOverride : Bool := false
  sctpChecksum : UInt32 := 0
  sctpDataFlags : UInt8 := 3
  sctpTsn : UInt32 := 1
  sctpStreamId : UInt16 := 0
  sctpStreamSequence : UInt16 := 0
  sctpPayloadProtocolId : UInt32 := 0
  icmp : IcmpFields := {}
  dns : DnsFields := {}
  dhcp : DhcpFields := {}
  vxlanVni : Nat := 42
  vxlanInnerEtherDst : Fixed 6 := ⟨[0, 0, 0, 0, 0, 0], rfl⟩
  vxlanInnerEtherSrc : Fixed 6 := ⟨[0, 0, 0, 0, 0, 0], rfl⟩
  vxlanInner : InnerFields :=
    { ipv4Src := ⟨[10, 0, 0, 1], rfl⟩, ipv4Dst := ⟨[10, 0, 0, 2], rfl⟩, ipv4Ttl := 127,
      ipv6Src := ⟨[0x20, 1, 13, 0xb8, 0, 0x50, 0, 0, 0, 0, 0, 0, 0, 0, 0, 1], rfl⟩,
      ipv6Dst := ⟨[0x20, 1, 13, 0xb8, 0, 0x50, 0, 0, 0, 0, 0, 0, 0, 0, 0, 2], rfl⟩ }
  gtpuMessageType : UInt8 := 255
  gtpuTeid : UInt32 := 0x12345678
  gtpuSequence : UInt16 := 0
  gtpuNpdu : UInt8 := 0
  gtpuExtensionUdpPort : UInt16 := 2152
  gtpuInner : InnerFields :=
    { ipv4Src := ⟨[10, 3, 0, 1], rfl⟩, ipv4Dst := ⟨[10, 3, 0, 2], rfl⟩, ipv4Ttl := 64,
      ipv6Src := ⟨[0x20, 1, 13, 0xb8, 0, 0x30, 0, 0, 0, 0, 0, 0, 0, 0, 0, 1], rfl⟩,
      ipv6Dst := ⟨[0x20, 1, 13, 0xb8, 0, 0x30, 0, 0, 0, 0, 0, 0, 0, 0, 0, 2], rfl⟩ }
  greChecksumOverride : Bool := false
  greChecksum : UInt16 := 0
  greKey : UInt32 := 0
  greSequence : UInt32 := 0
  greInner : InnerFields :=
    { ipv4Src := ⟨[10, 2, 0, 1], rfl⟩, ipv4Dst := ⟨[10, 2, 0, 2], rfl⟩, ipv4Ttl := 64,
      ipv6Src := ⟨[0x20, 1, 13, 0xb8, 0, 0x40, 0, 0, 0, 0, 0, 0, 0, 0, 0, 1], rfl⟩,
      ipv6Dst := ⟨[0x20, 1, 13, 0xb8, 0, 0x40, 0, 0, 0, 0, 0, 0, 0, 0, 0, 2], rfl⟩ }

/-- The stream of a request without fields. -/
instance : Inhabited Stream := ⟨{}⟩

end TrexWebui
