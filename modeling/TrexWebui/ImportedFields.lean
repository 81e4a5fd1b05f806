import TrexWebui.PacketImport
import TrexWebui.WorkbenchStream

/-!
# The fields of an imported stream

The rest of what `stream_from_ethernet_packet` returns: beside the layout, the
values that the importer reads from the headers it found. Texts of addresses
are the octets they name, and an IPv6 address keeps the scope it was written
with, which the octets do not have. The modes, counts and steps of the field
engine are constants of the importer and are left out, like the fields of
UDP, ICMP and the tunnels over UDP.
-/

namespace TrexWebui

open PyStr Octets

/-! ## Reading -/

def packetByteFromBinary (packet : Bytes) (offset fallback : Nat) : Nat :=
  if offset < packet.length then octetAt packet offset else fallback

def packetIpv4FromBinary (packet : Bytes) (offset : Nat) (fallback : Bytes) : Bytes :=
  if offset + 4 ≤ packet.length then slice packet offset 4 else fallback

/-- What `ipaddress.IPv6Address` holds. -/
structure Ipv6Address where
  packed : Bytes
  scopeId : Option String := none
  deriving DecidableEq

/-- `ipaddress.IPv6Address(packet[offset : offset + 16])` -/
def ipv6AddressAt (packet : Bytes) (offset : Nat) : Ipv6Address := { packed := slice packet offset 16 }

/-! ## The link layer -/

structure VlanFields where
  enabled : Bool := false
  tpidOverride : Bool := false
  tpid : Nat := 0x8100
  priority : Nat := 0
  cfi : Nat := 0
  id : Nat
  deriving DecidableEq

def importedVlan (tag : Option VlanTag) (defaultId : Nat) : VlanFields :=
  match tag with
  | none => { id := defaultId }
  | some tag =>
      { enabled := true, tpidOverride := tag.tpid ≠ 0x8100, tpid := tag.tpid,
        priority := tag.priority, cfi := tag.cfi, id := tag.vlan }

structure ArpFields where
  hardwareType : Nat := 1
  protocolType : Nat := 0x0800
  hardwareSize : Nat := 6
  protocolSize : Nat := 4
  operation : Nat := 1
  senderMac : Bytes := [0, 0, 0, 0, 0, 0]
  senderIp : Bytes := [16, 0, 0, 1]
  targetMac : Bytes := [0, 0, 0, 0, 0, 0]
  targetIp : Bytes := [48, 0, 0, 1]
  deriving DecidableEq

/-- `arp_fields_from_packet`; the addresses are read from a header of the usual sizes only. -/
def arpFieldsFromPacket (packet : Bytes) (offset : Nat) : ArpFields :=
  if packet.length < offset + 8 then {}
  else
    let fields : ArpFields :=
      { hardwareType := be16At packet offset, protocolType := be16At packet (offset + 2),
        hardwareSize := octetAt packet (offset + 4), protocolSize := octetAt packet (offset + 5),
        operation := be16At packet (offset + 6) }
    if fields.hardwareSize = 6 ∧ fields.protocolSize = 4 ∧ offset + 28 ≤ packet.length then
      { fields with
        senderMac := slice packet (offset + 8) 6
        senderIp := packetIpv4FromBinary packet (offset + 14) [16, 0, 0, 1]
        targetMac := slice packet (offset + 18) 6
        targetIp := packetIpv4FromBinary packet (offset + 24) [48, 0, 0, 1] }
    else fields

/-! ## The internet header -/

structure Ipv4Fields where
  src : Bytes := [16, 0, 0, 1]
  dst : Bytes := [48, 0, 0, 1]
  dscp : Nat := 0
  ecn : Nat := 0
  id : Nat := 1234
  flagDf : Bool := false
  flagMf : Bool := false
  fragmentOffset : Nat := 0
  ttl : Nat := 127
  checksumOverride : Bool := false
  checksum : Nat := 0
  deriving DecidableEq

structure Ipv6Fields where
  src : Ipv6Address := { packed := [0x20, 1, 13, 0xb8, 0, 0, 0, 0, 0, 0, 0, 0, 0, 0, 0, 1] }
  dst : Ipv6Address := { packed := [0x20, 1, 13, 0xb8, 0, 0, 0, 0, 0, 0, 0, 0, 0, 0, 0, 2] }
  trafficClass : Nat := 0
  flowLabel : Nat := 0
  hopLimit : Nat := 127
  deriving DecidableEq

/-- The fields of `imported_ip_header_fields` for a packet type of IPv4. -/
def importedIpv4Fields (packet : Bytes) (offset : Nat) : Ipv4Fields :=
  let tos := packetByteFromBinary packet (offset + 1) 0
  let fragmentWord := be16At packet (offset + 6)
  { src := slice packet (offset + 12) 4
    dst := slice packet (offset + 16) 4
    dscp := tos / 4
    ecn := tos % 4
    id := be16At packet (offset + 4)
    flagDf := fragmentWord / 0x4000 % 2 = 1
    flagMf := fragmentWord / 0x2000 % 2 = 1
    fragmentOffset := fragmentWord % 0x2000
    ttl := packetByteFromBinary packet (offset + 8) 127
    checksumOverride := true
    checksum := if offset + 12 ≤ packet.length then be16At packet (offset + 10) else 0 }

/-- The fields of `imported_ip_header_fields` for a packet type of IPv6, with
`packet_ipv6_traffic_class_from_binary` and `packet_ipv6_flow_label_from_binary`. -/
def importedIpv6Fields (packet : Bytes) (offset : Nat) : Ipv6Fields :=
  { src := ipv6AddressAt packet (offset + 8)
    dst := ipv6AddressAt packet (offset + 24)
    trafficClass :=
      if offset + 2 ≤ packet.length then
        octetAt packet offset % 16 * 16 + octetAt packet (offset + 1) / 16
      else 0
    flowLabel := if offset + 4 ≤ packet.length then be32At packet offset % 0x100000 else 0
    hopLimit := packetByteFromBinary packet (offset + 7) 127 }

/-! ## Transport headers -/

structure TcpFields where
  sequenceNumber : Nat := 1234567
  ackNumber : Nat := 7654321
  window : Nat := 9999
  checksumOverride : Bool := false
  checksum : Nat := 0xABCD
  urgentPointer : Nat := 1111
  flagUrg : Bool := false
  flagAck : Bool := false
  flagPsh : Bool := false
  flagRst : Bool := false
  flagSyn : Bool := false
  flagFin : Bool := false
  deriving DecidableEq

/-- `tcp_fields_from_packet`, without the options, which are among the layout. -/
def tcpFieldsFromPacket (packet : Bytes) (offset : Nat) : TcpFields :=
  if packet.length < offset + 20 then {}
  else
    let flags := be16At packet (offset + 12) % 0x40
    { sequenceNumber := be32At packet (offset + 4)
      ackNumber := be32At packet (offset + 8)
      window := be16At packet (offset + 14)
      checksumOverride := true
      checksum := be16At packet (offset + 16)
      urgentPointer := be16At packet (offset + 18)
      flagUrg := flags / 0x20 % 2 = 1
      flagAck := flags / 0x10 % 2 = 1
      flagPsh := flags / 0x08 % 2 = 1
      flagRst := flags / 0x04 % 2 = 1
      flagSyn := flags / 0x02 % 2 = 1
      flagFin := flags % 2 = 1 }

structure SctpFields where
  verificationTag : Nat := 0x12345678
  checksumOverride : Bool := false
  checksum : Nat := 0
  dataFlags : Nat := 3
  tsn : Nat := 1
  streamId : Nat := 0
  streamSequence : Nat := 0
  payloadProtocolId : Nat := 0
  deriving DecidableEq

def sctpFieldsFromPacket (packet : Bytes) (offset : Nat) : SctpFields :=
  if packet.length < offset + 12 then {}
  else
    let fields : SctpFields :=
      { verificationTag := be32At packet (offset + 4), checksumOverride := true,
        checksum := le32At packet (offset + 8) }
    let chunkOffset := offset + 12
    if chunkOffset + 16 ≤ packet.length ∧ octetAt packet chunkOffset = 0 then
      { fields with
        dataFlags := octetAt packet (chunkOffset + 1)
        tsn := be32At packet (chunkOffset + 4)
        streamId := be16At packet (chunkOffset + 8)
        streamSequence := be16At packet (chunkOffset + 10)
        payloadProtocolId := be32At packet (chunkOffset + 12) }
    else fields

/-- The inner datagram of a GRE packet. -/
structure GreInnerFields where
  ipv4Src : Bytes := [10, 2, 0, 1]
  ipv4Dst : Bytes := [10, 2, 0, 2]
  ipv4Ttl : Nat := 64
  ipv6Src : Ipv6Address := { packed := [0x20, 1, 13, 0xb8, 0, 0x40, 0, 0, 0, 0, 0, 0, 0, 0, 0, 1] }
  ipv6Dst : Ipv6Address := { packed := [0x20, 1, 13, 0xb8, 0, 0x40, 0, 0, 0, 0, 0, 0, 0, 0, 0, 2] }
  ipv6HopLimit : Nat := 64
  l4SrcPort : Nat := 1025
  l4DstPort : Nat := 12
  deriving DecidableEq

/-- `inner_info` of `packet_gre_info`, with the ports after it. -/
def greInnerFields (packet : Bytes) (inner : InnerInfo) : GreInnerFields :=
  let offset := inner.offset
  match inner.version with
  | .ipv4 =>
      let innerL4Offset := offset + octetAt packet offset % 16 * 4
      { ipv4Src := slice packet (offset + 12) 4
        ipv4Dst := slice packet (offset + 16) 4
        ipv4Ttl := octetAt packet (offset + 8)
        l4SrcPort := be16At packet innerL4Offset
        l4DstPort := be16At packet (innerL4Offset + 2) }
  | .ipv6 =>
      let innerL4Offset := offset + 40
      { ipv6Src := ipv6AddressAt packet (offset + 8)
        ipv6Dst := ipv6AddressAt packet (offset + 24)
        ipv6HopLimit := octetAt packet (offset + 7)
        l4SrcPort := be16At packet innerL4Offset
        l4DstPort := be16At packet (innerL4Offset + 2) }

structure GreFields where
  checksumOverride : Bool := false
  checksum : Nat := 0
  key : Nat := 0
  sequence : Nat := 0
  inner : GreInnerFields := {}
  deriving DecidableEq

/-- The values of `packet_gre_info`; the optional fields follow each other in this order. -/
def greFieldsFromPacket (packet : Bytes) (l4Offset : Nat) (gre : GreInfo) : GreFields :=
  let keyOffset := l4Offset + 4 + (if gre.checksumPresent then 4 else 0)
  let sequenceOffset := keyOffset + (if gre.keyPresent then 4 else 0)
  { checksumOverride := gre.checksumPresent
    checksum := if gre.checksumPresent then be16At packet (l4Offset + 4) else 0
    key := if gre.keyPresent then be32At packet keyOffset else 0
    sequence := if gre.sequencePresent then be32At packet sequenceOffset else 0
    inner := greInnerFields packet gre.inner }

/-! ## Streams -/

/-- What `stream_from_ethernet_packet` returns. -/
structure ImportedStream where
  layout : LayoutFields
  etherDst : Bytes
  etherSrc : Bytes
  etherTypeOverride : Bool
  etherType : Nat
  vlan : VlanFields
  vlan2 : VlanFields
  arp : ArpFields
  ipv4 : Ipv4Fields
  ipv6 : Ipv6Fields
  l4SrcPort : Nat
  l4DstPort : Nat
  tcp : TcpFields
  sctp : SctpFields
  gre : GreFields

/-- `workbench_l3_ether_type` of a packet type. -/
def PacketType.l3EtherType (packetType : PacketType) : Nat :=
  if packetType.hasArp then 0x0806
  else if !packetType.hasL3 then 0xFFFF
  else match packetType.ipVersion with
    | .ipv6 => 0x86DD
    | .ipv4 => 0x0800

/-- `workbench_default_outer_ether_type_for_fields` -/
def defaultOuterEtherType (packetType : PacketType) (vlan mpls : Bool) (vlanTpid : Nat) : Nat :=
  if vlan then vlanTpid else if mpls then 0x8847 else packetType.l3EtherType

/-- The fields that depend on the internet header. -/
structure UpperFields where
  ipv4 : Ipv4Fields := {}
  ipv6 : Ipv6Fields := {}
  l4SrcPort : Nat := 1025
  l4DstPort : Nat := 12
  tcp : TcpFields := {}
  sctp : SctpFields := {}
  gre : GreFields := {}

/-- The values from the internet header on, of a packet whose transport header was found. -/
def upperFields (packet : Bytes) (ip : IpHeader) (hasL4 : Bool) : UpperFields :=
  let l4Offset := ip.offset + ip.length
  { ipv4 := match ip.version with
      | .ipv4 => importedIpv4Fields packet ip.offset
      | .ipv6 => {}
    ipv6 := match ip.version with
      | .ipv4 => {}
      | .ipv6 => importedIpv6Fields packet ip.offset
    l4SrcPort := if hasL4 then be16At packet l4Offset else 1025
    l4DstPort := if hasL4 then be16At packet (l4Offset + 2) else 12
    tcp := if ip.protocol = 6 then tcpFieldsFromPacket packet l4Offset else {}
    sctp := if ip.protocol = 132 then sctpFieldsFromPacket packet l4Offset else {}
    gre := if ip.protocol = 47 then
        ((packetGreInfo packet l4Offset).map (greFieldsFromPacket packet l4Offset)).getD {}
      else {} }

def importedFields (packet : Bytes) (l2 : L2Info) (layout : LayoutFields) (upper : UpperFields) :
    ImportedStream :=
  let vlanTpid := (l2.vlanStack[0]?.map (·.tpid)).getD 0x8100
  let etherType := be16At packet 12
  { layout
    etherDst := slice packet 0 6
    etherSrc := slice packet 6 6
    etherTypeOverride := etherType ≠ defaultOuterEtherType layout.packetType layout.vlanEnabled
      layout.mplsEnabled vlanTpid
    etherType
    vlan := importedVlan l2.vlanStack[0]? 0
    vlan2 := importedVlan l2.vlanStack[1]? 1
    arp := if layout.packetType.hasArp then arpFieldsFromPacket packet l2.ipOffset else {}
    ipv4 := upper.ipv4
    ipv6 := upper.ipv6
    l4SrcPort := upper.l4SrcPort
    l4DstPort := upper.l4DstPort
    tcp := upper.tcp
    sctp := upper.sctp
    gre := upper.gre }

/-- `stream_from_ethernet_packet`, with the fields. -/
def importedStream (packet : Bytes) : Option ImportedStream := do
  let (layout, _) ← streamFromEthernetPacket packet
  let l2 ← packetL2PayloadInfo packet
  match ipHeader packet with
  | none => some (importedFields packet l2 layout {})
  | some ip =>
      let (_, hasL4) ← importedClassification packet ip
      some (importedFields packet l2 layout (upperFields packet ip hasL4))

end TrexWebui
