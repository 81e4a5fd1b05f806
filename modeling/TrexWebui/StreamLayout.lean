import TrexWebui.Octets

/-!
# The layout of a stream's packet

The fields of a workbench stream that decide where its headers stand, and the
functions of `workbench_protocol.py`, `workbench_layout.py` and
`workbench_transport.py` that compute header lengths and offsets from them.
-/

namespace TrexWebui

open PyStr Octets

/-! ## Packet types -/

/-- `PROFILE_WORKBENCH_PACKET_TYPES` -/
inductive PacketType where
  | ethernet
  | arp
  | ipv4
  | ipv6
  | ipv4Udp
  | ipv4Tcp
  | ipv4Icmp
  | ipv4Gre
  | ipv4Sctp
  | ipv6Udp
  | ipv6Tcp
  | ipv6Icmpv6
  | ipv6Gre
  | ipv6Sctp
  deriving DecidableEq, Repr

inductive IpVersion where
  | ipv4
  | ipv6
  deriving DecidableEq, Repr

/-- `workbench_l3_header_length` of a datagram of this version. -/
def IpVersion.headerLength : IpVersion → Nat
  | .ipv4 => 20
  | .ipv6 => 40

/-- `workbench_has_l3`: the name starts with "Ethernet/IPv". -/
def PacketType.hasL3 : PacketType → Bool
  | .ethernet | .arp => false
  | _ => true

def PacketType.hasArp (packetType : PacketType) : Bool := packetType = .arp

/-- `workbench_ip_version`: 6 where the name starts with "Ethernet/IPv6", otherwise 4. -/
def PacketType.ipVersion : PacketType → IpVersion
  | .ipv6 | .ipv6Udp | .ipv6Tcp | .ipv6Icmpv6 | .ipv6Gre | .ipv6Sctp => .ipv6
  | _ => .ipv4

def PacketType.isUdp : PacketType → Bool
  | .ipv4Udp | .ipv6Udp => true
  | _ => false

def PacketType.isTcp : PacketType → Bool
  | .ipv4Tcp | .ipv6Tcp => true
  | _ => false

/-- `workbench_has_sctp` -/
def PacketType.isSctp : PacketType → Bool
  | .ipv4Sctp | .ipv6Sctp => true
  | _ => false

/-- `workbench_has_gre` -/
def PacketType.isGre : PacketType → Bool
  | .ipv4Gre | .ipv6Gre => true
  | _ => false

theorem PacketType.isUdp_iff {packetType : PacketType} :
    packetType.isUdp = true ↔ packetType = .ipv4Udp ∨ packetType = .ipv6Udp := by
  cases packetType <;> simp [isUdp]

theorem PacketType.isTcp_iff {packetType : PacketType} :
    packetType.isTcp = true ↔ packetType = .ipv4Tcp ∨ packetType = .ipv6Tcp := by
  cases packetType <;> simp [isTcp]

theorem PacketType.isSctp_iff {packetType : PacketType} :
    packetType.isSctp = true ↔ packetType = .ipv4Sctp ∨ packetType = .ipv6Sctp := by
  cases packetType <;> simp [isSctp]

theorem PacketType.isGre_iff {packetType : PacketType} :
    packetType.isGre = true ↔ packetType = .ipv4Gre ∨ packetType = .ipv6Gre := by
  cases packetType <;> simp [isGre]

/-! ## The fields -/

/-- The fields of a stream that the layout functions read. -/
structure LayoutFields where
  packetType : PacketType := .ipv4Udp
  vlanEnabled : Bool := false
  vlan2Enabled : Bool := false
  mplsEnabled : Bool := false
  mplsLabel : Nat := 17
  mplsTc : Nat := 0
  mplsTtl : Nat := 255
  mplsLabel2Enabled : Bool := false
  mplsLabel2 : Nat := 18
  mplsLabel2Tc : Nat := 0
  mplsLabel2Ttl : Nat := 255
  mplsLabel3Enabled : Bool := false
  mplsLabel3 : Nat := 19
  mplsLabel3Tc : Nat := 0
  mplsLabel3Ttl : Nat := 255
  vxlanEnabled : Bool := false
  vxlanInnerIpVersion : IpVersion := .ipv4
  gtpuEnabled : Bool := false
  gtpuSequenceEnabled : Bool := false
  gtpuNpduEnabled : Bool := false
  gtpuExtensionEnabled : Bool := false
  gtpuInnerIpVersion : IpVersion := .ipv4
  greChecksumPresent : Bool := false
  greKeyPresent : Bool := false
  greSequencePresent : Bool := false
  greProtocolType : Nat := 0x0800
  greInnerIpVersion : IpVersion := .ipv4
  tcpOptionMssEnabled : Bool := false
  tcpOptionMss : UInt16 := 1460
  tcpOptionSackPermittedEnabled : Bool := false
  tcpOptionSackBlocksEnabled : Bool := false
  tcpOptionSackLeftEdge : UInt32 := 1000
  tcpOptionSackRightEdge : UInt32 := 2000
  tcpOptionTimestampEnabled : Bool := false
  tcpOptionTimestampValue : UInt32 := 1
  tcpOptionTimestampEcho : UInt32 := 0
  tcpOptionWindowScaleEnabled : Bool := false
  tcpOptionWindowScale : UInt8 := 7

namespace LayoutFields

variable (stream : LayoutFields)

/-! ## The link layer -/

/-- `workbench_vlan_tag_count` -/
def vlanTagCount : Nat :=
  if stream.vlanEnabled then if stream.vlan2Enabled then 2 else 1 else 0

/-- An entry of an MPLS label stack. -/
structure MplsLabel where
  label : Nat
  trafficClass : Nat
  ttl : Nat
  bottomOfStack : Nat := 0

def markBottom : List MplsLabel → List MplsLabel
  | [] => []
  | [last] => [{ last with bottomOfStack := 1 }]
  | first :: second :: rest => { first with bottomOfStack := 0 } :: markBottom (second :: rest)

/-- `workbench_mpls_stack` -/
def mplsStack : List MplsLabel :=
  if stream.mplsEnabled then
    markBottom
      ([{ label := stream.mplsLabel, trafficClass := stream.mplsTc, ttl := stream.mplsTtl }]
        ++ (if stream.mplsLabel2Enabled then
          [{ label := stream.mplsLabel2, trafficClass := stream.mplsLabel2Tc,
             ttl := stream.mplsLabel2Ttl }] else [])
        ++ (if stream.mplsLabel2Enabled && stream.mplsLabel3Enabled then
          [{ label := stream.mplsLabel3, trafficClass := stream.mplsLabel3Tc,
             ttl := stream.mplsLabel3Ttl }] else []))
  else []

/-- `workbench_l2_header_length` -/
def l2HeaderLength : Nat := 14 + 4 * stream.vlanTagCount + 4 * stream.mplsStack.length

/-- `workbench_ip_offset` -/
def ipOffset : Nat := stream.l2HeaderLength

/-- `workbench_l3_header_length` -/
def l3HeaderLength : Nat :=
  if stream.packetType.hasL3 then stream.packetType.ipVersion.headerLength else 0

def l4Offset : Nat := stream.ipOffset + stream.l3HeaderLength

/-! ## Tunnels -/

/-- `workbench_has_gtpu` -/
def hasGtpu : Bool := stream.packetType = .ipv4Udp && stream.gtpuEnabled

/-- `workbench_gre_inner_ip_version` -/
def greInnerVersion : IpVersion :=
  if stream.greInnerIpVersion = .ipv6 then .ipv6
  else if stream.greProtocolType = 0x86DD then .ipv6 else .ipv4

/-- `workbench_vxlan_vni_offset` -/
def vxlanVniOffset : Nat := stream.ipOffset + stream.l3HeaderLength + 8 + 4

/-- `workbench_vxlan_inner_ipv4_offset`, for either version. -/
def vxlanInnerOffset : Nat := stream.vxlanVniOffset + 4 + 14

/-- `workbench_gtpu_teid_offset` -/
def gtpuTeidOffset : Nat := stream.ipOffset + stream.l3HeaderLength + 8 + 4

/-- `workbench_gtpu_optional_header_length` -/
def gtpuOptionalHeaderLength : Nat :=
  if stream.gtpuSequenceEnabled || stream.gtpuNpduEnabled || stream.gtpuExtensionEnabled then 4
  else 0

/-- `workbench_gtpu_extension_header_length` -/
def gtpuExtensionHeaderLength : Nat := if stream.gtpuExtensionEnabled then 4 else 0

/-- `workbench_gtpu_inner_ipv4_offset`, for either version. -/
def gtpuInnerOffset : Nat :=
  stream.gtpuTeidOffset + 4 + stream.gtpuOptionalHeaderLength + stream.gtpuExtensionHeaderLength

/-- `workbench_gre_header_length` -/
def greHeaderLength : Nat :=
  4 + (if stream.greChecksumPresent then 4 else 0) + (if stream.greKeyPresent then 4 else 0)
    + (if stream.greSequencePresent then 4 else 0)

/-- `workbench_gre_inner_ipv4_offset`, for either version. -/
def greInnerOffset : Nat := stream.ipOffset + stream.l3HeaderLength + stream.greHeaderLength

/-! ## TCP options -/

/-- `tcp_options_bytes`, before padding. -/
def tcpOptions : Bytes :=
  (if stream.tcpOptionMssEnabled then [2, 4] ++ be16 stream.tcpOptionMss.toNat else [])
    ++ (if stream.tcpOptionSackPermittedEnabled then [4, 2] else [])
    ++ (if stream.tcpOptionSackBlocksEnabled then
      [5, 10] ++ be32 stream.tcpOptionSackLeftEdge.toNat ++ be32 stream.tcpOptionSackRightEdge.toNat
      else [])
    ++ (if stream.tcpOptionTimestampEnabled then
      [1, 1, 8, 10] ++ be32 stream.tcpOptionTimestampValue.toNat
        ++ be32 stream.tcpOptionTimestampEcho.toNat
      else [])
    ++ (if stream.tcpOptionWindowScaleEnabled then [1, 3, 3, stream.tcpOptionWindowScale] else [])

/-- `(-length) % 4` zero octets. -/
def padded (options : Bytes) : Bytes :=
  options ++ List.replicate ((4 - options.length % 4) % 4) 0

def tcpOptionsBytes : Bytes := padded stream.tcpOptions

def tcpHeaderLength : Nat := 20 + stream.tcpOptionsBytes.length

theorem length_tcpOptions :
    stream.tcpOptions.length =
      (if stream.tcpOptionMssEnabled then 4 else 0)
        + (if stream.tcpOptionSackPermittedEnabled then 2 else 0)
        + (if stream.tcpOptionSackBlocksEnabled then 10 else 0)
        + (if stream.tcpOptionTimestampEnabled then 12 else 0)
        + (if stream.tcpOptionWindowScaleEnabled then 4 else 0) := by
  simp only [tcpOptions, List.length_append, apply_ite List.length, List.length_cons,
    List.length_nil, length_be16, length_be32]

theorem length_padded (options : Bytes) : (padded options).length % 4 = 0 := by
  simp only [padded, List.length_append, List.length_replicate]
  omega

theorem tcpHeaderLength_le : stream.tcpHeaderLength ≤ 52 := by
  have hlength := stream.length_tcpOptions
  simp only [tcpHeaderLength, tcpOptionsBytes, padded, List.length_append, List.length_replicate]
  split_ifs at hlength <;> omega

theorem greHeaderLength_le : stream.greHeaderLength ≤ 16 := by
  unfold greHeaderLength
  split_ifs <;> omega

end LayoutFields

end TrexWebui
