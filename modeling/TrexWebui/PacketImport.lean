import TrexWebui.TcpOptions

/-!
# The packet importer

`stream_from_ethernet_packet` of `workbench_packet_import.py`, with the readers of
`workbench_packet.py` and `capture_decode.py` that it uses: the fields of the
stream that the layout functions read, and beside them the offsets at which
the importer found the headers, which the code keeps in local variables only.
-/

namespace TrexWebui

open PyStr Octets

/-! ## The link layer -/

structure VlanTag where
  tpid : Nat
  priority : Nat
  cfi : Nat
  vlan : Nat
  innerType : Nat

/-- The loop of `packet_vlan_stack_info`, for the tags that are left of two. -/
def vlanTags (packet : Bytes) : (left offset etherType : Nat) → List VlanTag
  | 0, _, _ => []
  | left + 1, offset, etherType =>
      if packet.length < offset + 4 then []
      else if etherType ∉ [0x8100, 0x88A8, 0x9100] then []
      else
        let tci := be16At packet offset
        let innerType := be16At packet (offset + 2)
        { tpid := etherType, priority := tci / 8192, cfi := tci / 4096 % 2, vlan := tci % 4096,
          innerType := innerType } :: vlanTags packet left (offset + 4) innerType

def packetVlanStackInfo (packet : Bytes) : List VlanTag :=
  if packet.length < 18 then [] else vlanTags packet 2 14 (be16At packet 12)

/-- The loop of `packet_mpls_stack_info`, for the labels that are left of eight: the labels and
where their payload starts. -/
def mplsLabels (packet : Bytes) : (left offset : Nat) → Option (List LayoutFields.MplsLabel × Nat)
  | 0, _ => none
  | left + 1, offset =>
      if packet.length < offset + 4 then none
      else
        let word := be32At packet offset
        let label : LayoutFields.MplsLabel :=
          { label := word / 4096, trafficClass := word / 512 % 8, ttl := word % 256,
            bottomOfStack := word / 256 % 2 }
        if label.bottomOfStack = 1 then some ([label], offset + 4)
        else (mplsLabels packet left (offset + 4)).map fun (labels, payload) =>
          (label :: labels, payload)

def packetMplsStackInfo (packet : Bytes) (offset : Nat) :
    Option (List LayoutFields.MplsLabel × Nat) :=
  mplsLabels packet 8 offset

/-- What `packet_l2_payload_info` returns. -/
structure L2Info where
  etherType : Nat
  ipOffset : Nat
  vlanStack : List VlanTag
  mplsStack : List LayoutFields.MplsLabel

def taggedEtherType (packet : Bytes) : Nat :=
  match (packetVlanStackInfo packet).getLast? with
  | some tag => tag.innerType
  | none => be16At packet 12

/-- `packet_l2_payload_info`; an MPLS stack is not empty. -/
def packetL2PayloadInfo (packet : Bytes) : Option L2Info :=
  if packet.length < 14 then none
  else
    let vlanStack := packetVlanStackInfo packet
    let etherType := taggedEtherType packet
    let ipOffset := 14 + 4 * vlanStack.length
    if etherType ∈ [0x8847, 0x8848] then
      match packetMplsStackInfo packet ipOffset with
      | none => none
      | some (labels, payload) =>
          if packet.length ≤ payload then none
          else if octetAt packet payload / 16 = 4 then some ⟨0x0800, payload, vlanStack, labels⟩
          else if octetAt packet payload / 16 = 6 then some ⟨0x86DD, payload, vlanStack, labels⟩
          else none
    else some ⟨etherType, ipOffset, vlanStack, []⟩

/-! ## The internet header -/

/-- An internet header: where it starts, how long it is, and the protocol after it. -/
structure IpHeader where
  version : IpVersion
  offset : Nat
  length : Nat
  protocol : Nat

def ipv4Offsets (packet : Bytes) : Option IpHeader :=
  match packetL2PayloadInfo packet with
  | none => none
  | some l2 =>
      if l2.etherType ≠ 0x0800 ∨ packet.length < l2.ipOffset + 20 then none
      else
        let version := octetAt packet l2.ipOffset / 16
        let length := octetAt packet l2.ipOffset % 16 * 4
        if version ≠ 4 ∨ length < 20 ∨ packet.length < l2.ipOffset + length then none
        else some ⟨.ipv4, l2.ipOffset, length, octetAt packet (l2.ipOffset + 9)⟩

def ipv6Offsets (packet : Bytes) : Option IpHeader :=
  match packetL2PayloadInfo packet with
  | none => none
  | some l2 =>
      if l2.etherType ≠ 0x86DD ∨ packet.length < l2.ipOffset + 40 then none
      else if octetAt packet l2.ipOffset / 16 ≠ 6 then none
      else some ⟨.ipv6, l2.ipOffset, 40, octetAt packet (l2.ipOffset + 6)⟩

def ipHeader (packet : Bytes) : Option IpHeader := (ipv6Offsets packet).or (ipv4Offsets packet)

/-! ## Tunnels -/

/-- The check of an inner IPv4 datagram that carries UDP, and of the least length before it. -/
def innerIpv4Ok (packet : Bytes) (offset : Nat) : Bool :=
  let length := octetAt packet offset % 16 * 4
  !(packet.length < offset + 20 || octetAt packet offset / 16 ≠ 4 || length < 20
    || packet.length < offset + length + 8 || octetAt packet (offset + 9) ≠ 17)

def innerIpv6Ok (packet : Bytes) (offset : Nat) : Bool :=
  !(packet.length < offset + 40 + 8 || octetAt packet offset / 16 ≠ 6
    || octetAt packet (offset + 6) ≠ 17)

/-- The version and the place of an inner datagram. -/
structure InnerInfo where
  version : IpVersion
  offset : Nat

def packetVxlanInfo (packet : Bytes) (l4Offset : Nat) : Option InnerInfo :=
  if packet.length < l4Offset + 8 + 8 + 14 then none
  else if be16At packet (l4Offset + 2) ≠ 4789 then none
  else if octetAt packet (l4Offset + 8) / 8 % 2 ≠ 1 then none
  else
    let innerOffset := l4Offset + 8 + 8
    let innerIpOffset := innerOffset + 14
    let innerEthertype := be16At packet (innerOffset + 12)
    if innerEthertype = 0x0800 then
      if innerIpv4Ok packet innerIpOffset then some ⟨.ipv4, innerIpOffset⟩ else none
    else if innerEthertype = 0x86DD then
      if innerIpv6Ok packet innerIpOffset then some ⟨.ipv6, innerIpOffset⟩ else none
    else none

/-- The loop of `packet_gtpu_info` over the extension headers, for the rounds that are left of
four: where the inner datagram starts, and the port of the last UDP port extension. -/
def gtpuExtensions (packet : Bytes) :
    (left current offset : Nat) → (port : Option Nat) → Option (Nat × Option Nat)
  | left, current, offset, port =>
      if current = 0 then some (offset, port)
      else match left with
        | 0 => none
        | left + 1 =>
            let length := octetAt packet offset * 4
            if packet.length < offset + 4 then none
            else if length < 4 ∨ packet.length < offset + length then none
            else gtpuExtensions packet left (octetAt packet (offset + length - 1)) (offset + length)
              (if current = 0x40 then some (be16At packet (offset + 1)) else port)

/-- What `packet_gtpu_info` returns, as far as the layout reads it. -/
structure GtpuInfo where
  sequenceEnabled : Bool
  npduEnabled : Bool
  extensionUdpPortEnabled : Bool
  inner : InnerInfo

def packetGtpuInfo (packet : Bytes) (l4Offset : Nat) : Option GtpuInfo :=
  if packet.length < l4Offset + 8 + 8 + 20 + 8 then none
  else if be16At packet l4Offset ≠ 2152 ∧ be16At packet (l4Offset + 2) ≠ 2152 then none
  else
    let gtpuOffset := l4Offset + 8
    let flags := octetAt packet gtpuOffset
    if flags / 32 ≠ 1 then none
    else if octetAt packet (gtpuOffset + 1) ≠ 255 then none
    else
      let messageLength := be16At packet (gtpuOffset + 2)
      let optional := gtpuOffset + 8
      if flags % 8 ≠ 0 ∧ packet.length < optional + 4 then none
      else
        let innerOffset := if flags % 8 ≠ 0 then optional + 4 else optional
        let next := if flags % 8 ≠ 0 then octetAt packet (optional + 3) else 0
        match gtpuExtensions packet 4 next innerOffset none with
        | none => none
        | some (innerOffset, port) =>
            let info (version : IpVersion) : GtpuInfo :=
              { sequenceEnabled := flags / 2 % 2 = 1, npduEnabled := flags % 2 = 1,
                extensionUdpPortEnabled := port.isSome, inner := ⟨version, innerOffset⟩ }
            if packet.length < innerOffset + 20 then none
            else if octetAt packet innerOffset / 16 = 4 then
              if !innerIpv4Ok packet innerOffset then none
              else if messageLength ≠ 0 ∧ packet.length
                < innerOffset + min messageLength (octetAt packet innerOffset % 16 * 4 + 8) then none
              else some (info .ipv4)
            else if octetAt packet innerOffset / 16 = 6 then
              if !innerIpv6Ok packet innerOffset then none
              else if messageLength ≠ 0 ∧ packet.length < innerOffset + min messageLength (40 + 8) then
                none
              else some (info .ipv6)
            else none

/-- What `packet_gre_info` returns, as far as the layout reads it. -/
structure GreInfo where
  checksumPresent : Bool
  keyPresent : Bool
  sequencePresent : Bool
  protocolType : Nat
  inner : InnerInfo

def grePayloadOffset (flags l4Offset : Nat) : Nat :=
  l4Offset + 4 + (if flags / 0x8000 % 2 = 1 then 4 else 0) + (if flags / 0x2000 % 2 = 1 then 4 else 0)
    + (if flags / 0x1000 % 2 = 1 then 4 else 0)

/-- `packet_gre_info`; each optional field is checked to be inside the packet when it is passed. -/
def packetGreInfo (packet : Bytes) (l4Offset : Nat) : Option GreInfo :=
  if packet.length < l4Offset + 4 then none
  else
    let flags := be16At packet l4Offset
    let protocolType := be16At packet (l4Offset + 2)
    let offset := grePayloadOffset flags l4Offset
    let info (version : IpVersion) : GreInfo :=
      { checksumPresent := flags / 0x8000 % 2 = 1, keyPresent := flags / 0x2000 % 2 = 1,
        sequencePresent := flags / 0x1000 % 2 = 1, protocolType := protocolType,
        inner := ⟨version, offset⟩ }
    if flags % 8 ≠ 0 then none
    else if packet.length < offset then none
    else if protocolType = 0x0800 then
      if innerIpv4Ok packet offset then some (info .ipv4) else none
    else if protocolType = 0x86DD then
      if innerIpv6Ok packet offset then some (info .ipv6) else none
    else none

/-! ## TCP options -/

/-- The last option of each kind that `_tcp_options_from_packet` keeps. -/
structure ParsedTcpOptions where
  mss : Option TcpOption := none
  windowScale : Option TcpOption := none
  sackPermitted : Bool := false
  sack : Option TcpOption := none
  timestamp : Option TcpOption := none

def ParsedTcpOptions.note (parsed : ParsedTcpOptions) (option : TcpOption) : ParsedTcpOptions :=
  if option.kind = 2 ∧ option.length = 4 then { parsed with mss := some option }
  else if option.kind = 3 ∧ option.length = 3 then { parsed with windowScale := some option }
  else if option.kind = 4 ∧ option.length = 2 then { parsed with sackPermitted := true }
  else if option.kind = 5 ∧ 10 ≤ option.length ∧ (option.length - 2) % 8 = 0 then
    { parsed with sack := some option }
  else if option.kind = 8 ∧ option.length = 10 then { parsed with timestamp := some option }
  else parsed

def tcpOptionsFromPacket (packet : Bytes) (offset : Nat) : ParsedTcpOptions :=
  if packet.length < offset + 20 then {}
  else
    let dataOffset := octetAt packet (offset + 12) / 16 * 4
    if dataOffset ≤ 20 ∨ 60 < dataOffset ∨ packet.length < offset + dataOffset then {}
    else
      let options := (packet.drop (offset + 20)).take (dataOffset - 20)
      (tcpOptionsOf 0 options).foldl ParsedTcpOptions.note {}

/-- The TCP options among the fields of the stream (`tcp_fields_from_packet`). -/
def ParsedTcpOptions.apply (parsed : ParsedTcpOptions) (stream : LayoutFields) : LayoutFields :=
  { stream with
    tcpOptionMssEnabled := parsed.mss.isSome
    tcpOptionMss := (parsed.mss.map fun option => .ofNat (be16At option.body 0)).getD 1460
    tcpOptionWindowScaleEnabled := parsed.windowScale.isSome
    tcpOptionWindowScale :=
      (parsed.windowScale.map fun option => .ofNat (octetAt option.body 0)).getD 7
    tcpOptionSackPermittedEnabled := parsed.sackPermitted
    tcpOptionSackBlocksEnabled := parsed.sack.isSome
    tcpOptionSackLeftEdge := (parsed.sack.map fun option => .ofNat (be32At option.body 0)).getD 1000
    tcpOptionSackRightEdge :=
      (parsed.sack.map fun option => .ofNat (be32At option.body 4)).getD 2000
    tcpOptionTimestampEnabled := parsed.timestamp.isSome
    tcpOptionTimestampValue :=
      (parsed.timestamp.map fun option => .ofNat (be32At option.body 0)).getD 1
    tcpOptionTimestampEcho :=
      (parsed.timestamp.map fun option => .ofNat (be32At option.body 4)).getD 0 }

/-! ## Streams -/

/-- `imported_ip_packet_classification`: the packet type, and whether there is a transport
header. -/
def importedClassification (packet : Bytes) (ip : IpHeader) : Option (PacketType × Bool) :=
  let l4Offset := ip.offset + ip.length
  let choose (v4 v6 : PacketType) : PacketType := match ip.version with
    | .ipv4 => v4
    | .ipv6 => v6
  let transport (packetType : PacketType) : Option (PacketType × Bool) :=
    if packet.length < l4Offset + 4 then none else some (packetType, true)
  if ip.protocol = 6 then transport (choose .ipv4Tcp .ipv6Tcp)
  else if ip.protocol = 17 then transport (choose .ipv4Udp .ipv6Udp)
  else if ip.version = .ipv4 ∧ ip.protocol = 1 then transport .ipv4Icmp
  else if ip.version = .ipv6 ∧ ip.protocol = 58 then transport .ipv6Icmpv6
  else if ip.protocol = 47 then
    if (packetGreInfo packet l4Offset).isNone then none else transport (choose .ipv4Gre .ipv6Gre)
  else if ip.protocol = 132 then transport (choose .ipv4Sctp .ipv6Sctp)
  else if ip.version = .ipv4 ∧ ip.protocol = 0 then some (.ipv4, false)
  else none

/-- Where the importer found headers and options: offsets in the packet. -/
structure FoundOffsets where
  network : Option Nat := none
  transport : Option Nat := none
  mssValue : Option Nat := none
  sackLeftEdge : Option Nat := none
  sackRightEdge : Option Nat := none
  timestampValue : Option Nat := none
  timestampEcho : Option Nat := none
  windowScaleValue : Option Nat := none
  vxlanInner : Option Nat := none
  gtpuInner : Option Nat := none
  greInner : Option Nat := none

def L2Info.apply (l2 : L2Info) (stream : LayoutFields) : LayoutFields :=
  let label (index : Nat) : Option LayoutFields.MplsLabel := l2.mplsStack[index]?
  { stream with
    vlanEnabled := decide (0 < l2.vlanStack.length)
    vlan2Enabled := decide (1 < l2.vlanStack.length)
    mplsEnabled := decide (0 < l2.mplsStack.length)
    mplsLabel := ((label 0).map (·.label)).getD 17
    mplsTc := ((label 0).map (·.trafficClass)).getD 0
    mplsTtl := ((label 0).map (·.ttl)).getD 255
    mplsLabel2Enabled := decide (1 < l2.mplsStack.length)
    mplsLabel2 := ((label 1).map (·.label)).getD 18
    mplsLabel2Tc := ((label 1).map (·.trafficClass)).getD 0
    mplsLabel2Ttl := ((label 1).map (·.ttl)).getD 255
    mplsLabel3Enabled := decide (2 < l2.mplsStack.length)
    mplsLabel3 := ((label 2).map (·.label)).getD 19
    mplsLabel3Tc := ((label 2).map (·.trafficClass)).getD 0
    mplsLabel3Ttl := ((label 2).map (·.ttl)).getD 255 }

def applyUdpTunnels (vxlan : Option InnerInfo) (gtpu : Option GtpuInfo) (stream : LayoutFields) :
    LayoutFields :=
  { stream with
    vxlanEnabled := vxlan.isSome
    vxlanInnerIpVersion := (vxlan.map (·.version)).getD .ipv4
    gtpuEnabled := gtpu.isSome
    gtpuSequenceEnabled := (gtpu.map (·.sequenceEnabled)).getD false
    gtpuNpduEnabled := (gtpu.map (·.npduEnabled)).getD false
    gtpuExtensionEnabled := (gtpu.map (·.extensionUdpPortEnabled)).getD false
    gtpuInnerIpVersion := (gtpu.map (·.inner.version)).getD .ipv4 }

def applyGre (gre : Option GreInfo) (stream : LayoutFields) : LayoutFields :=
  { stream with
    greChecksumPresent := (gre.map (·.checksumPresent)).getD false
    greKeyPresent := (gre.map (·.keyPresent)).getD false
    greSequencePresent := (gre.map (·.sequencePresent)).getD false
    greProtocolType := (gre.map (·.protocolType)).getD 0x0800
    greInnerIpVersion := (gre.map (·.inner.version)).getD .ipv4 }

/-- The stream of a packet with an internet header, and the offsets in it. -/
def ipStream (packet : Bytes) (l2 : L2Info) (ip : IpHeader) :
    Option (LayoutFields × FoundOffsets) :=
  match importedClassification packet ip with
  | none => none
  | some (packetType, hasL4) =>
      let l4Offset := ip.offset + ip.length
      let options := if ip.protocol = 6 then tcpOptionsFromPacket packet l4Offset else {}
      let vxlan := if ip.protocol = 17 then packetVxlanInfo packet l4Offset else none
      let gtpu := if ip.protocol = 17 then packetGtpuInfo packet l4Offset else none
      let gre := if ip.protocol = 47 then packetGreInfo packet l4Offset else none
      let stream :=
        applyGre gre (applyUdpTunnels vxlan gtpu (options.apply (l2.apply { packetType })))
      let value (field : Nat) (option : TcpOption) : Nat := l4Offset + 20 + option.index + field
      some (stream,
        { network := some ip.offset
          transport := if hasL4 then some l4Offset else none
          mssValue := options.mss.map (value 2)
          sackLeftEdge := options.sack.map (value 2)
          sackRightEdge := options.sack.map (value 6)
          timestampValue := options.timestamp.map (value 2)
          timestampEcho := options.timestamp.map (value 6)
          windowScaleValue := options.windowScale.map (value 2)
          vxlanInner := vxlan.map (·.offset)
          gtpuInner := gtpu.map (·.inner.offset)
          greInner := gre.map (·.inner.offset) })

/-- `stream_from_ethernet_packet`. The ARP header stands where an internet header would. -/
def streamFromEthernetPacket (packet : Bytes) : Option (LayoutFields × FoundOffsets) :=
  if 9216 < packet.length + 4 then none
  else match packetL2PayloadInfo packet with
    | none => none
    | some l2 =>
        match ipHeader packet with
        | some ip => ipStream packet l2 ip
        | none =>
            if l2.etherType = 0x0806 then
              some (l2.apply { packetType := .arp }, { network := some l2.ipOffset })
            else some (l2.apply { packetType := .ethernet }, {})

end TrexWebui
