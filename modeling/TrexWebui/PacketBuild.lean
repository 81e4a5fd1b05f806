import TrexWebui.InternetChecksum
import TrexWebui.WorkbenchStream

/-!
# The packet builder

`workbench_packet_build.py`. `draws` are the numbers that
`random.getrandbits` returns while the payload is built.
-/

namespace TrexWebui

open PyStr Octets InternetChecksum

/-- Two octets written over those at `offset`. -/
def putBe16 (offset n : Nat) (header : Bytes) : Bytes :=
  header.take offset ++ be16 n ++ header.drop (offset + 2)

/-! ## Internet headers -/

/-- `struct.pack("!BBHHHBBH4s4s", …)`: an IPv4 header whose checksum is zero. -/
def packIpv4Header (service : UInt8) (totalLength identification fragment : Nat)
    (ttl protocol : UInt8) (source destination : Fixed 4) : Bytes :=
  [0x45, service] ++ be16 totalLength ++ be16 identification ++ be16 fragment ++ [ttl, protocol]
    ++ be16 0 ++ (source.val ++ destination.val)

/-- `struct.pack("!IHBB16s16s", …)`: an IPv6 header. -/
def packIpv6Header (versionClassFlow payloadLength : Nat) (nextHeader hopLimit : UInt8)
    (source destination : Fixed 16) : Bytes :=
  be32 versionClassFlow ++ be16 payloadLength ++ [nextHeader, hopLimit]
    ++ (source.val ++ destination.val)

/-! ## Checksums -/

def l4ChecksumIpv4 (source destination : Fixed 4) (protocol : UInt8) (payload : Bytes) : Nat :=
  let pseudoHeader :=
    source.val ++ destination.val ++ [0, protocol] ++ be16 payload.length
  let checksum := internetChecksum (pseudoHeader ++ payload)
  if checksum = 0 then 0xFFFF else checksum

def l4ChecksumIpv6 (source destination : Fixed 16) (protocol : UInt8) (payload : Bytes) : Nat :=
  let pseudoHeader :=
    source.val ++ destination.val ++ be32 payload.length ++ [0, 0, 0, protocol]
  let checksum := internetChecksum (pseudoHeader ++ payload)
  if checksum = 0 then 0xFFFF else checksum

/-- One of the eight rounds of `sctp_crc32c`. -/
def crcRound (crc : UInt32) : UInt32 :=
  if crc &&& 1 = 1 then (crc >>> 1) ^^^ 0x82F63B78 else crc >>> 1

def crcOctet (crc : UInt32) (octet : UInt8) : UInt32 :=
  (List.range 8).foldl (fun crc _ => crcRound crc) (crc ^^^ octet.toUInt32)

def sctpCrc32c (data : Bytes) : UInt32 := ~~~(data.foldl crcOctet 0xFFFFFFFF)

/-! ## The link layer -/

namespace Stream

variable (stream : Stream)

/-- `workbench_l3_ether_type` -/
def l3EtherType : Nat :=
  if stream.packetType.hasArp then 0x0806
  else if !stream.packetType.hasL3 then 0xFFFF
  else match stream.packetType.ipVersion with
    | .ipv6 => 0x86DD
    | .ipv4 => 0x0800

/-- `workbench_inner_ether_type` -/
def innerEtherType : Nat := if stream.mplsEnabled then 0x8847 else stream.l3EtherType

/-- `workbench_vlan_tpid`, for the first and the second tag. -/
def vlanTpidValue (second : Bool) : Nat :=
  if second then if stream.vlan2TpidOverride then stream.vlan2Tpid.toNat else 0x8100
  else if stream.vlanTpidOverride then stream.vlanTpid.toNat else 0x8100

/-- `workbench_vlan_tci` -/
def vlanTci (second : Bool) : Nat :=
  if second then
    stream.vlan2Priority % 8 * 8192 + stream.vlan2Cfi % 2 * 4096 + stream.vlan2Id % 4096
  else stream.vlanPriority % 8 * 8192 + stream.vlanCfi % 2 * 4096 + stream.vlanId % 4096

/-- `workbench_outer_ether_type` -/
def outerEtherType : Nat :=
  if stream.etherTypeOverride then stream.etherType.toNat
  else if !stream.vlanEnabled then stream.innerEtherType
  else stream.vlanTpidValue false

/-- A label of `_mpls_header`. -/
def mplsWord (label : LayoutFields.MplsLabel) : Nat :=
  label.label % 1048576 * 4096 + label.trafficClass % 8 * 512 + label.bottomOfStack % 2 * 256
    + label.ttl % 256

def mplsHeader : Bytes := stream.mplsStack.flatMap fun label => be32 (mplsWord label)

def ethernetHeader : Bytes :=
  stream.etherDst.val ++ stream.etherSrc.val
    ++ (match stream.vlanTagCount with
      | 0 => be16 stream.outerEtherType
      | 1 => be16 stream.outerEtherType ++ be16 (stream.vlanTci false) ++ be16 stream.innerEtherType
      | _ =>
          be16 stream.outerEtherType ++ be16 (stream.vlanTci false)
            ++ be16 (stream.vlanTpidValue true) ++ be16 (stream.vlanTci true)
            ++ be16 stream.innerEtherType)
    ++ (if stream.mplsEnabled then stream.mplsHeader else [])

def arpHeader : Bytes :=
  be16 stream.arpHardwareType.toNat ++ be16 stream.arpProtocolType.toNat
    ++ [stream.arpHardwareSize, stream.arpProtocolSize] ++ be16 stream.arpOperation.toNat
    ++ stream.arpSenderMac.val ++ stream.arpSenderIp.val ++ stream.arpTargetMac.val
    ++ stream.arpTargetIp.val

/-! ## Transport headers -/

def udpHeader (payloadLength checksum : Nat) : Bytes :=
  be16 stream.l4SrcPort.toNat ++ be16 stream.l4DstPort.toNat
    ++ be16 (if stream.udpLengthOverride then stream.udpLength.toNat else max 8 (8 + payloadLength))
    ++ be16 (if stream.udpChecksumOverride then stream.udpChecksum.toNat else checksum)

def tcpFlagsValue : Nat :=
  (if stream.tcpFlagUrg then 0x20 else 0) + (if stream.tcpFlagAck then 0x10 else 0)
    + (if stream.tcpFlagPsh then 0x08 else 0) + (if stream.tcpFlagRst then 0x04 else 0)
    + (if stream.tcpFlagSyn then 0x02 else 0) + (if stream.tcpFlagFin then 0x01 else 0)

def tcpHeader (checksum : Nat) : Bytes :=
  let options := stream.tcpOptionsBytes
  be16 stream.l4SrcPort.toNat ++ be16 stream.l4DstPort.toNat
    ++ be32 stream.tcpSequenceNumber.toNat ++ be32 stream.tcpAckNumber.toNat
    ++ be16 ((20 + options.length) / 4 * 4096 + stream.tcpFlagsValue)
    ++ be16 stream.tcpWindow.toNat
    ++ be16 (if stream.tcpChecksumOverride then stream.tcpChecksum.toNat else checksum)
    ++ be16 stream.tcpUrgentPointer.toNat ++ options

/-- `workbench_is_icmpv6_rs` -/
def isIcmpv6Rs : Bool := stream.packetType = .ipv6Icmpv6 && stream.icmp.type = 133

/-- `workbench_is_icmpv6_ra` -/
def isIcmpv6Ra : Bool := stream.packetType = .ipv6Icmpv6 && stream.icmp.type = 134

/-- `workbench_is_icmpv6_nd` -/
def isIcmpv6Nd : Bool :=
  stream.packetType = .ipv6Icmpv6 && (stream.icmp.type = 135 || stream.icmp.type = 136)

/-- `workbench_icmp_header_length` -/
def icmpHeaderLength : Nat :=
  if stream.isIcmpv6Rs then 8 + (if stream.icmp.rsIncludeSlla then 8 else 0)
  else if stream.isIcmpv6Ra then
    16 + (if stream.icmp.raIncludeSlla then 8 else 0)
      + (if stream.icmp.raIncludePrefix then 32 else 0)
  else if stream.isIcmpv6Nd then 24 + (if stream.icmp.ndIncludeOption then 8 else 0)
  else 8

/-- The part of `_icmp_header` after the checksum. -/
def icmpBody : Bytes :=
  let icmp := stream.icmp
  if stream.isIcmpv6Rs then
    [0, 0, 0, 0] ++ (if icmp.rsIncludeSlla then [1, 1] ++ icmp.rsSllaMac.val else [])
  else if stream.isIcmpv6Ra then
    [icmp.raCurHopLimit,
      .ofNat ((if icmp.raManaged then 0x80 else 0) + (if icmp.raOther then 0x40 else 0))]
      ++ be16 icmp.raRouterLifetime.toNat ++ be32 icmp.raReachableTime.toNat
      ++ be32 icmp.raRetransTimer.toNat
      ++ (if icmp.raIncludeSlla then [1, 1] ++ icmp.raSllaMac.val else [])
      ++ (if icmp.raIncludePrefix then
        [3, 4, icmp.raPrefixLength,
          .ofNat ((if icmp.raPrefixOnLink then 0x80 else 0)
            + (if icmp.raPrefixAutonomous then 0x40 else 0))]
          ++ be32 icmp.raPrefixValidLifetime.toNat ++ be32 icmp.raPrefixPreferredLifetime.toNat
          ++ be32 0 ++ icmp.raPrefix.val
        else [])
  else if stream.isIcmpv6Nd then
    (if icmp.type = 136 then
      [.ofNat ((if icmp.ndNaRouter then 0x80 else 0) + (if icmp.ndNaSolicited then 0x40 else 0)
        + (if icmp.ndNaOverride then 0x20 else 0)), 0, 0, 0]
    else [0, 0, 0, 0])
      ++ icmp.ndTarget.val
      ++ (if icmp.ndIncludeOption then
        [if icmp.type = 135 then 1 else 2, 1] ++ icmp.ndOptionMac.val else [])
  else be16 icmp.identifier.toNat ++ be16 icmp.sequence.toNat

def icmpHeader (checksum : Nat) : Bytes :=
  [stream.icmp.type, stream.icmp.code]
    ++ be16 (if stream.icmp.checksumOverride then stream.icmp.checksum.toNat else checksum)
    ++ stream.icmpBody

/-- The key and the sequence number of `_gre_header`. -/
def greKeyAndSequence : Bytes :=
  (if stream.greKeyPresent then be32 stream.greKey.toNat else [])
    ++ (if stream.greSequencePresent then be32 stream.greSequence.toNat else [])

/-- The flags of `_gre_header`. -/
def greFlags : Nat :=
  (if stream.greChecksumPresent then 0x8000 else 0) + (if stream.greKeyPresent then 0x2000 else 0)
    + (if stream.greSequencePresent then 0x1000 else 0)

def greHeader (payload : Bytes) : Bytes :=
  let header := be16 stream.greFlags ++ be16 stream.greProtocolType
    ++ (if stream.greChecksumPresent then [0, 0, 0, 0] else []) ++ stream.greKeyAndSequence
  if stream.greChecksumPresent then
    putBe16 4 (if stream.greChecksumOverride then stream.greChecksum.toNat
      else internetChecksum (header ++ payload)) header
  else header

/-- The data chunk of `_sctp_header`. -/
def sctpDataChunk (payload : Bytes) : Bytes :=
  [0, stream.sctpDataFlags] ++ be16 (16 + payload.length) ++ be32 stream.sctpTsn.toNat
    ++ be16 stream.sctpStreamId.toNat ++ be16 stream.sctpStreamSequence.toNat
    ++ be32 stream.sctpPayloadProtocolId.toNat

def sctpHeader (payload : Bytes) : Bytes :=
  let ports := be16 stream.l4SrcPort.toNat ++ be16 stream.l4DstPort.toNat
    ++ be32 stream.sctpVerificationTag.toNat
  let dataChunk := stream.sctpDataChunk payload
  let segment := ports ++ [0, 0, 0, 0] ++ dataChunk ++ payload
  let checksum := if stream.sctpChecksumOverride then stream.sctpChecksum else sctpCrc32c segment
  ports ++ le32 checksum.toNat ++ dataChunk

/-! ## Application messages -/

def dnsNameBytes (labels : List Bytes) : Bytes :=
  (labels.flatMap fun label => .ofNat label.length :: label) ++ [0]

def dnsQueryBytes : Bytes :=
  let dns := stream.dns
  let question :=
    dnsNameBytes dns.queryName ++ be16 dns.queryType.toNat ++ be16 dns.queryClass.toNat
  let answer := if dns.answerEnabled then
    [0xC0, 0x0C] ++ be16 1 ++ be16 dns.queryClass.toNat ++ be32 dns.answerTtl.toNat ++ be16 4
      ++ dns.answerIpv4.val else []
  be16 dns.transactionId.toNat ++ be16 dns.flags.toNat ++ be16 1
    ++ be16 (if dns.answerEnabled then 1 else 0) ++ be16 0 ++ be16 0 ++ question ++ answer

/-- `_dhcp_add_option` -/
def dhcpOption (code : UInt8) (value : Bytes) : Bytes := code :: .ofNat value.length :: value

def dhcpAddressOption (code : UInt8) (address : Fixed 4) : Bytes :=
  if address.val = [0, 0, 0, 0] then [] else dhcpOption code address.val

def dhcpTimeOption (code : UInt8) (seconds : UInt32) : Bytes :=
  if seconds = 0 then [] else dhcpOption code (be32 seconds.toNat)

def dhcpMessageBytes : Bytes :=
  let dhcp := stream.dhcp
  let bootpHeader :=
    [dhcp.operation, 1, 6, dhcp.hops] ++ be32 dhcp.xid.toNat ++ be16 dhcp.seconds.toNat
      ++ be16 dhcp.flags.toNat ++ dhcp.clientIp.val ++ dhcp.yourIp.val ++ dhcp.serverIp.val
      ++ dhcp.relayIp.val ++ dhcp.clientMac.val ++ List.replicate 10 0 ++ List.replicate 64 0
      ++ List.replicate 128 0
  let options :=
    [0x63, 0x82, 0x53, 0x63] ++ dhcpOption 53 [dhcp.messageType]
      ++ (if dhcp.parameterRequestList.isEmpty then [] else dhcpOption 55 dhcp.parameterRequestList)
      ++ (if dhcp.hostname.isEmpty then [] else dhcpOption 12 dhcp.hostname)
      ++ dhcpAddressOption 50 dhcp.requestedIp ++ dhcpAddressOption 54 dhcp.serverId
      ++ dhcpTimeOption 51 dhcp.leaseTime ++ dhcpTimeOption 58 dhcp.renewalTime
      ++ dhcpTimeOption 59 dhcp.rebindingTime ++ [255]
  let payload := bootpHeader ++ options
  payload ++ List.replicate (300 - payload.length) 0

/-- `workbench_has_dns` -/
def hasDns : Bool :=
  stream.packetType.isUdp && stream.dns.enabled && !stream.vxlanEnabled && !stream.gtpuEnabled

/-- `workbench_has_dhcp` -/
def hasDhcp : Bool :=
  stream.packetType = .ipv4Udp && stream.dhcp.enabled && !stream.vxlanEnabled
    && !stream.gtpuEnabled

variable (draws : Nat → UInt32)

def messagePayload (message : Bytes) (length : Nat) : Bytes :=
  if length ≤ message.length then message.take length
  else message ++ payloadBytes stream.toPayloadFields draws (length - message.length)

def udpPayloadBytes (length : Nat) : Bytes :=
  if length = 0 then []
  else if stream.hasDhcp then stream.messagePayload draws stream.dhcpMessageBytes length
  else if !stream.hasDns then payloadBytes stream.toPayloadFields draws length
  else stream.messagePayload draws stream.dnsQueryBytes length

end Stream

/-! ## Inner datagrams -/

def innerUdpHeader (inner : InnerFields) (payloadLength checksum : Nat) : Bytes :=
  be16 inner.l4SrcPort.toNat ++ be16 inner.l4DstPort.toNat ++ be16 (8 + payloadLength)
    ++ be16 checksum

def innerIpv4Packet (inner : InnerFields) (payload : Bytes) : Bytes :=
  let udp := innerUdpHeader inner payload.length 0
  let header := packIpv4Header 0 (20 + udp.length + payload.length) 0x04D2 0 inner.ipv4Ttl 17
    inner.ipv4Src inner.ipv4Dst
  putBe16 10 (internetChecksum header) header ++ udp ++ payload

def innerIpv6Packet (inner : InnerFields) (payload : Bytes) : Bytes :=
  let checksum := l4ChecksumIpv6 inner.ipv6Src inner.ipv6Dst 17
    (innerUdpHeader inner payload.length 0 ++ payload)
  let udp := innerUdpHeader inner payload.length checksum
  packIpv6Header 0x60000000 (udp.length + payload.length) 17 inner.ipv6HopLimit inner.ipv6Src
    inner.ipv6Dst ++ udp ++ payload

def innerPacket (version : IpVersion) (inner : InnerFields) (payload : Bytes) : Bytes :=
  match version with
  | .ipv4 => innerIpv4Packet inner payload
  | .ipv6 => innerIpv6Packet inner payload

namespace Stream

variable (stream : Stream) (draws : Nat → UInt32)

def vxlanPayloadBytes (outerPayloadLength : Nat) : Bytes :=
  let version := stream.vxlanInnerIpVersion
  let payload := payloadBytes stream.toPayloadFields draws
    (outerPayloadLength - (8 + 14 + version.headerLength + 8))
  let innerEthertype := match version with
    | .ipv4 => 0x0800
    | .ipv6 => 0x86DD
  [8, 0, 0, 0] ++ be24 stream.vxlanVni ++ [0] ++ stream.vxlanInnerEtherDst.val
    ++ stream.vxlanInnerEtherSrc.val ++ be16 innerEthertype
    ++ innerPacket version stream.vxlanInner payload

/-- The optional header of `_gtpu_payload_bytes`. -/
def gtpuOptionalHeader : Bytes :=
  if stream.gtpuSequenceEnabled || stream.gtpuNpduEnabled || stream.gtpuExtensionEnabled then
    be16 stream.gtpuSequence.toNat
      ++ [if stream.gtpuNpduEnabled then stream.gtpuNpdu else 0,
        if stream.gtpuExtensionEnabled then 0x40 else 0]
  else []

/-- The extension header of `_gtpu_payload_bytes`. -/
def gtpuExtensionHeader : Bytes :=
  if stream.gtpuExtensionEnabled then [1] ++ be16 stream.gtpuExtensionUdpPort.toNat ++ [0] else []

def gtpuPayloadBytes (outerPayloadLength : Nat) : Bytes :=
  let version := stream.gtpuInnerIpVersion
  let payload := payloadBytes stream.toPayloadFields draws
    (outerPayloadLength - 8 - stream.gtpuOptionalHeaderLength - stream.gtpuExtensionHeaderLength
      - version.headerLength - 8)
  let inner := innerPacket version stream.gtpuInner payload
  let flags := 0x30 + (if stream.gtpuExtensionEnabled then 4 else 0)
    + (if stream.gtpuSequenceEnabled then 2 else 0) + (if stream.gtpuNpduEnabled then 1 else 0)
  [.ofNat flags, stream.gtpuMessageType]
    ++ be16 (stream.gtpuOptionalHeaderLength + stream.gtpuExtensionHeaderLength + inner.length)
    ++ be32 stream.gtpuTeid.toNat ++ stream.gtpuOptionalHeader ++ stream.gtpuExtensionHeader
    ++ inner

def grePayloadBytes (grePayloadLength : Nat) : Bytes :=
  let version := stream.greInnerVersion
  innerPacket version stream.greInner
    (payloadBytes stream.toPayloadFields draws (grePayloadLength - version.headerLength - 8))

/-! ## Packets -/

/-- The protocol number of the transport header; `none` stands for a datagram without one. -/
def protocol : UInt8 :=
  match stream.packetType with
  | .ipv4Udp | .ipv6Udp => 17
  | .ipv4Tcp | .ipv6Tcp => 6
  | .ipv4Sctp | .ipv6Sctp => 132
  | .ipv4Icmp => 1
  | .ipv6Icmpv6 => 58
  | .ipv4Gre | .ipv6Gre => 47
  | .ipv6 => 59
  | _ => 0

def l4HeaderLength : Nat :=
  match stream.packetType with
  | .ipv4Udp | .ipv6Udp => 8
  | .ipv4Tcp | .ipv6Tcp => stream.tcpHeaderLength
  | .ipv4Sctp | .ipv6Sctp => 28
  | .ipv4Icmp | .ipv6Icmpv6 => stream.icmpHeaderLength
  | .ipv4Gre | .ipv6Gre => stream.greHeaderLength
  | _ => 0

def targetLength : Nat := max 60 (stream.frameLength - 4)

def ipv4Payload : Bytes :=
  let payloadLength :=
    stream.targetLength - stream.l2HeaderLength - 20 - stream.l4HeaderLength
  if stream.hasGtpu then stream.gtpuPayloadBytes draws payloadLength
  else if stream.vxlanEnabled then stream.vxlanPayloadBytes draws payloadLength
  else if stream.packetType.isGre then stream.grePayloadBytes draws payloadLength
  else if stream.packetType.isUdp then stream.udpPayloadBytes draws payloadLength
  else payloadBytes stream.toPayloadFields draws payloadLength

def ipv4L4Header (payload : Bytes) : Bytes :=
  let source := stream.ipv4Src
  let destination := stream.ipv4Dst
  match stream.packetType with
  | .ipv4Udp => stream.udpHeader payload.length 0
  | .ipv4Tcp =>
      stream.tcpHeader (l4ChecksumIpv4 source destination 6 (stream.tcpHeader 0 ++ payload))
  | .ipv4Sctp => stream.sctpHeader payload
  | .ipv4Icmp => stream.icmpHeader (internetChecksum (stream.icmpHeader 0 ++ payload))
  | .ipv4Gre => stream.greHeader payload
  | _ => []

/-- The IPv4 header of a datagram with this many octets after the header. -/
def ipv4Header (following : Nat) : Bytes :=
  let flagsFragment := (if stream.ipv4FlagDf then 0x4000 else 0)
    + (if stream.ipv4FlagMf then 0x2000 else 0) + stream.ipv4FragmentOffset % 8192
  let header := packIpv4Header (.ofNat (stream.ipv4Dscp % 64 * 4 + stream.ipv4Ecn % 4))
    (20 + following) stream.ipv4Id.toNat flagsFragment stream.ipv4Ttl stream.protocol
    stream.ipv4Src stream.ipv4Dst
  putBe16 10 (if stream.ipv4ChecksumOverride then stream.ipv4Checksum.toNat
    else internetChecksum header) header

def buildIpv4Packet : Bytes :=
  let payload := stream.ipv4Payload draws
  let l4Header := stream.ipv4L4Header payload
  stream.ethernetHeader ++ stream.ipv4Header (l4Header.length + payload.length) ++ l4Header
    ++ payload

def ipv6Payload : Bytes :=
  let payloadLength :=
    stream.targetLength - stream.l2HeaderLength - 40 - stream.l4HeaderLength
  if stream.packetType.isGre then stream.grePayloadBytes draws payloadLength
  else if stream.packetType.isUdp then stream.udpPayloadBytes draws payloadLength
  else payloadBytes stream.toPayloadFields draws payloadLength

def ipv6L4Header (payload : Bytes) : Bytes :=
  let source := stream.ipv6Src
  let destination := stream.ipv6Dst
  match stream.packetType with
  | .ipv6Udp =>
      stream.udpHeader payload.length
        (l4ChecksumIpv6 source destination 17 (stream.udpHeader payload.length 0 ++ payload))
  | .ipv6Tcp =>
      stream.tcpHeader (l4ChecksumIpv6 source destination 6 (stream.tcpHeader 0 ++ payload))
  | .ipv6Sctp => stream.sctpHeader payload
  | .ipv6Icmpv6 =>
      stream.icmpHeader (l4ChecksumIpv6 source destination 58 (stream.icmpHeader 0 ++ payload))
  | .ipv6Gre => stream.greHeader payload
  | _ => []

def ipv6Header (payloadLength : Nat) : Bytes :=
  packIpv6Header
    (0x60000000 + stream.ipv6TrafficClass % 256 * 1048576 + stream.ipv6FlowLabel % 1048576)
    payloadLength stream.protocol stream.ipv6HopLimit stream.ipv6Src stream.ipv6Dst

/-- `_build_ipv6_packet`; the payload length is computed from `l4_header_length`, not from the
header that is emitted. -/
def buildIpv6Packet : Bytes :=
  let payload := stream.ipv6Payload draws
  stream.ethernetHeader ++ stream.ipv6Header (stream.l4HeaderLength + payload.length)
    ++ stream.ipv6L4Header payload ++ payload

def buildEthernetPacket : Bytes :=
  stream.ethernetHeader
    ++ payloadBytes stream.toPayloadFields draws (stream.targetLength - stream.l2HeaderLength)

def buildArpPacket : Bytes :=
  stream.ethernetHeader ++ stream.arpHeader
    ++ payloadBytes stream.toPayloadFields draws
      (stream.targetLength - stream.l2HeaderLength - stream.arpHeader.length)

/-- `build_profile_packet`, of a stream without a packet binary. -/
def buildProfilePacket : Bytes :=
  if stream.packetType.hasArp then stream.buildArpPacket draws
  else if !stream.packetType.hasL3 then stream.buildEthernetPacket draws
  else match stream.packetType.ipVersion with
    | .ipv6 => stream.buildIpv6Packet draws
    | .ipv4 => stream.buildIpv4Packet draws

end Stream

end TrexWebui
