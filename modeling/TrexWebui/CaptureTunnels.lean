import TrexWebui.CaptureDecoding

/-!
# Headers that carry headers

The rest of `_capture_decoded_layers`: the network headers and the tunnels
through which they call each other. A function that goes on with a frame or a
datagram is given what it calls, `recur`, and `appendLayers` closes the cycle.
Its rounds are the octets of the packet and one more.
-/

namespace TrexWebui

open PyStr Octets PacketReader

/-! ## Generic routing encapsulation -/

/-- A part of a GRE header that is there when its flag is set: the offset behind it and its fields,
`none` where the packet ends before. -/
def greOptionalFields (present : Bool) (cursor : Nat) (fields : Decoder (List CaptureField)) :
    Decoder (Option (Nat × List CaptureField)) :=
  if present then do
    let length ← size
    if length < cursor + 4 then pure none
    else do
      let part ← fields
      pure (some (cursor + 4, part))
  else pure (some (cursor, []))

/-- What `_append_gre_layers` calls for the payload. -/
def appendGrePayload (recur : LayerCall → Decoder Unit) (protocolType cursor : Nat) : Decoder Unit :=
  if protocolType = 0x0800 then recur (.ipv4 cursor none)
  else if protocolType = 0x86DD then recur (.ipv6 cursor none)
  else do
    let length ← size
    appendLayer "GRE Payload"
      [("Protocol Type", .hex 4 protocolType), ("Length", .number (length - cursor))]

def greChecksumFields (cursor : Nat) : Decoder (List CaptureField) := do
  let checksum ← word cursor
  let reserved ← word (cursor + 2)
  pure [("Checksum", .hex 4 checksum), ("Reserved", .hex 4 reserved)]

def greKeyFields (cursor : Nat) : Decoder (List CaptureField) := do
  let key ← word32 cursor
  pure [("Key", .hex 8 key)]

def greSequenceFields (cursor : Nat) : Decoder (List CaptureField) := do
  let sequence ← word32 cursor
  pure [("Sequence", .number sequence)]

def appendGreLayers (recur : LayerCall → Decoder Unit) (offset : Nat) : Decoder Unit := call do
  let length ← size
  if length < offset + 4 then appendLayer "GRE" [("Status", .text "Truncated GRE")]
  else do
    let flags ← word offset
    let protocolType ← word (offset + 2)
    let head := [("Flags", FieldValue.hex 4 flags), ("Protocol Type", .hex 4 protocolType)]
    let checksum ← greOptionalFields (flags &&& 0x8000 ≠ 0) (offset + 4) (greChecksumFields (offset + 4))
    match checksum with
    | none => appendLayer "GRE" (head ++ [("Status", .text "Truncated GRE checksum")])
    | some (keyOffset, checksumFields) => do
        let key ← greOptionalFields (flags &&& 0x2000 ≠ 0) keyOffset (greKeyFields keyOffset)
        match key with
        | none => appendLayer "GRE" (head ++ checksumFields ++ [("Status", .text "Truncated GRE key")])
        | some (sequenceOffset, keyFields) => do
            let sequence ← greOptionalFields (flags &&& 0x1000 ≠ 0) sequenceOffset
              (greSequenceFields sequenceOffset)
            match sequence with
            | none =>
                appendLayer "GRE"
                  (head ++ checksumFields ++ keyFields ++ [("Status", .text "Truncated GRE sequence")])
            | some (cursor, sequenceFields) => do
                appendLayer "GRE" (head ++ checksumFields ++ keyFields ++ sequenceFields
                  ++ [("Payload Length", .number (length - cursor))])
                appendGrePayload recur protocolType cursor

/-! ## Datagrams in datagrams -/

def appendIpTunnelLayers (recur : LayerCall → Decoder Unit) (offset packetEnd protocol : Nat)
    (outerIpv6 : Bool) : Decoder Unit := call do
  let length ← size
  let payloadEnd := min length packetEnd
  let names := [("Encapsulation", FieldValue.text (if protocol = 4 then "IPv4" else "IPv6")),
    ("Outer", .text (if outerIpv6 then "IPv6" else "IPv4"))]
  if payloadEnd ≤ offset then
    appendLayer "IP Tunnel" (names ++ [("Status", .text "Truncated tunnel payload")])
  else do
    let first ← octet offset
    let version := first / 16
    let fields := names ++ [("Payload Length", .number (payloadEnd - offset))]
    if (protocol = 4 ∧ version ≠ 4) ∨ (protocol = 41 ∧ version ≠ 6) then
      appendLayer "IP Tunnel" (fields ++ [("Status", .text "Unexpected inner IP version"),
        ("Inner Version", .number version)])
    else do
      appendLayer "IP Tunnel" fields
      if protocol = 4 then recur (.ipv4 offset (some payloadEnd))
      else recur (.ipv6 offset (some payloadEnd))

def appendUdpIpTunnelLayers (recur : LayerCall → Decoder Unit)
    (offset packetEnd srcPort dstPort : Nat) : Decoder Bool := call do
  let length ← size
  let payloadEnd := min length packetEnd
  if payloadEnd ≤ offset then pure false
  else do
    let first ← octet offset
    let version := first / 16
    if version = 4 ∨ version = 6 then do
      appendLayer "UDP Tunnel" [("Encapsulation", .text (if version = 4 then "IPv4" else "IPv6")),
        ("Tunnel Type",
          .text (if 3544 ∈ [srcPort, dstPort] then "Teredo / IP over UDP" else "IP over UDP")),
        ("Source Port", .number srcPort), ("Destination Port", .number dstPort),
        ("Payload Length", .number (payloadEnd - offset))]
      if version = 4 then recur (.ipv4 offset (some payloadEnd))
      else recur (.ipv6 offset (some payloadEnd))
      pure true
    else pure false

/-! ## Mobile and virtual networks -/

def gtpuPortFields (extensionHeader cursor : Nat) : Decoder (List CaptureField) :=
  if extensionHeader = 0x40 then do
    let port ← word (cursor + 1)
    pure [("UDP Port", .number port)]
  else pure []

/-- The loop of `_append_gtpu_extension_layers`, with the rounds that are left of four; the offset
behind the extensions. -/
def gtpuExtensionLoop (packetEnd : Nat) : (left cursor extensionHeader : Nat) → Decoder Nat
  | 0, cursor, extensionHeader =>
      if extensionHeader = 0 then pure cursor
      else do
        appendLayer "GTP-U Extension" (gtpuExtensionHeaderFields extensionHeader
          ++ [("Status", .text "GTP-U extension chain too deep"),
            ("Next Extension Header", .hex 2 extensionHeader)])
        pure cursor
  | left + 1, cursor, extensionHeader =>
      if extensionHeader = 0 then pure cursor
      else if packetEnd < cursor + 4 then do
        appendLayer "GTP-U Extension" (gtpuExtensionHeaderFields extensionHeader
          ++ [("Status", .text "Truncated GTP-U extension"), ("Length", .number (packetEnd - cursor))])
        pure packetEnd
      else do
        let units ← octet cursor
        let fields := gtpuExtensionHeaderFields extensionHeader
          ++ [("Length Units", .number units), ("Length", .number (units * 4))]
        if units * 4 < 4 then do
          appendLayer "GTP-U Extension"
            (fields ++ [("Status", .text "Invalid GTP-U extension length")])
          pure cursor
        else if packetEnd < cursor + units * 4 then do
          appendLayer "GTP-U Extension" (fields ++ [("Status", .text "Truncated GTP-U extension"),
            ("Available Length", .number (packetEnd - cursor))])
          pure packetEnd
        else do
          let extensionNext ← octet (cursor + units * 4 - 1)
          let port ← gtpuPortFields extensionHeader cursor
          appendLayer "GTP-U Extension"
            (fields ++ port ++ [("Next Extension Header", .hex 2 extensionNext)])
          gtpuExtensionLoop packetEnd left (cursor + units * 4) extensionNext

def appendGtpuExtensionLayers (offset packetEnd nextExtensionHeader : Nat) : Decoder Nat :=
  call (gtpuExtensionLoop packetEnd 4 offset nextExtensionHeader)

/-- What `_append_gtpu_layers` calls for the payload. -/
def appendGtpuPayload (recur : LayerCall → Decoder Unit) (cursor gtpuEnd : Nat) : Decoder Unit := do
  let first ← octet cursor
  let version := first / 16
  if version = 4 then recur (.ipv4 cursor (some gtpuEnd))
  else if version = 6 then recur (.ipv6 cursor (some gtpuEnd))
  else
    appendLayer "GTP-U Payload"
      [("First Nibble", .hex 1 version), ("Length", .number (gtpuEnd - cursor))]

/-- What `_append_gtpu_layers` goes on with behind its header. -/
def appendGtpuContents (recur : LayerCall → Decoder Unit)
    (messageType cursor gtpuEnd nextExtensionHeader : Nat) : Decoder Unit :=
  if messageType ≠ 0xFF ∨ gtpuEnd ≤ cursor then pure ()
  else if nextExtensionHeader = 0 then appendGtpuPayload recur cursor gtpuEnd
  else do
    let behind ← appendGtpuExtensionLayers cursor gtpuEnd nextExtensionHeader
    if gtpuEnd ≤ behind then pure () else appendGtpuPayload recur behind gtpuEnd

/-- `"yes" if flag else "no"` -/
def yesNo (flag : Bool) : FieldValue := .text (if flag then "yes" else "no")

/-- `_append_gtpu_layers`, which returns `True` -/
def appendGtpuLayers (recur : LayerCall → Decoder Unit) (offset packetEnd : Nat) : Decoder Unit :=
  call do
    let length ← size
    let payloadEnd := min length packetEnd
    if payloadEnd < offset + 8 then
      appendLayer "GTP-U"
        [("Status", .text "Truncated GTP-U"), ("Length", .number (payloadEnd - offset))]
    else do
      let flags ← octet offset
      let messageType ← octet (offset + 1)
      let payloadLength ← word (offset + 2)
      let teid ← word32 (offset + 4)
      let version := flags >>> 5 &&& 0x07
      let protocolType := flags >>> 4 &&& 0x01
      let gtpuEnd := min payloadEnd (offset + 8 + payloadLength)
      let fields := [("Flags", FieldValue.hex 2 flags), ("Version", .number version),
        ("Protocol Type", .text (if protocolType ≠ 0 then "GTP" else "GTP'")),
        ("Message Type", .text (gtpuMessageTypeName messageType)), ("Length", .number payloadLength),
        ("TEID", .hex 8 teid), ("Extension Header", yesNo (flags &&& 0x04 ≠ 0)),
        ("Sequence Number Present", yesNo (flags &&& 0x02 ≠ 0)),
        ("N-PDU Present", yesNo (flags &&& 0x01 ≠ 0))]
      if version ≠ 1 ∨ protocolType ≠ 1 then
        appendLayer "GTP-U" (fields ++ [("Status", .text "Unexpected GTP-U flags")])
      else if flags &&& 0x07 = 0 then do
        appendLayer "GTP-U" (fields ++ [("Payload Length", .number (gtpuEnd - (offset + 8)))])
        appendGtpuContents recur messageType (offset + 8) gtpuEnd 0
      else if gtpuEnd < offset + 12 then
        appendLayer "GTP-U" (fields ++ [("Status", .text "Truncated GTP-U optional header")])
      else do
        let sequence ← word (offset + 8)
        let nPdu ← octet (offset + 10)
        let nextExtensionHeader ← octet (offset + 11)
        appendLayer "GTP-U" (fields ++ [("Sequence", .number sequence), ("N-PDU Number", .number nPdu),
          ("Next Extension Header", .hex 2 nextExtensionHeader),
          ("Payload Length", .number (gtpuEnd - (offset + 12)))])
        appendGtpuContents recur messageType (offset + 12) gtpuEnd
          (if flags &&& 0x04 ≠ 0 then nextExtensionHeader else 0)

def appendVxlanLayers (recur : LayerCall → Decoder Unit) (offset packetEnd : Nat) : Decoder Bool :=
  call do
    let length ← size
    let payloadEnd := min length packetEnd
    if payloadEnd < offset + 8 then pure false
    else do
      let flags ← octet offset
      if flags &&& 0x08 ≠ 0x08 then pure false
      else do
        let reserved ← word24 (offset + 1)
        let vni ← word24 (offset + 4)
        let vniReserved ← octet (offset + 7)
        appendLayer "VXLAN" [("Flags", .hex 2 flags), ("Reserved", .hex 6 reserved),
          ("VNI", .number vni), ("VNI Reserved", .hex 2 vniReserved),
          ("Payload Length", .number (payloadEnd - (offset + 8)))]
        recur (.ethernet (offset + 8) payloadEnd "Inner Ethernet")
        pure true

/-! ## Transport -/

/-- `seen and decode()` -/
def tryWhen (seen : Bool) (decode : Decoder Bool) : Decoder Bool :=
  if seen then decode else pure false

/-- What `_append_udp_layer` shows of the payload where no tunnel was found. -/
def appendUdpApplication (offset packetEnd srcPort dstPort : Nat) : Decoder Unit :=
  if (srcPort = 53 ∨ dstPort = 53) ∧ offset + 12 ≤ packetEnd then appendDnsLayer offset packetEnd
  else if (67 ∈ [srcPort, dstPort] ∨ 68 ∈ [srcPort, dstPort]) ∧ offset + 240 ≤ packetEnd then
    appendDhcpLayer offset packetEnd
  else pure ()

/-- What `_append_udp_layer` goes on with where no virtual network was found. -/
def appendUdpPayload (recur : LayerCall → Decoder Unit) (offset packetEnd srcPort dstPort : Nat) :
    Decoder Unit :=
  if 2152 ∈ [srcPort, dstPort] then appendGtpuLayers recur offset packetEnd
  else do
    let tunnel ← tryWhen (3544 ∈ [srcPort, dstPort] ∨ 3797 ∈ [srcPort, dstPort])
      (appendUdpIpTunnelLayers recur offset packetEnd srcPort dstPort)
    if tunnel = true then pure () else appendUdpApplication offset packetEnd srcPort dstPort

def appendUdpLayer (recur : LayerCall → Decoder Unit) (offset packetEnd : Nat) : Decoder Unit := do
  let length ← size
  if length < offset + 8 then appendLayer "UDP" [("Status", .text "Truncated UDP")]
  else do
    let srcPort ← word offset
    let dstPort ← word (offset + 2)
    let udpLength ← word (offset + 4)
    let checksum ← word (offset + 6)
    let payloadEnd := min packetEnd (offset + udpLength)
    appendLayer "UDP" [("Source Port", .number srcPort), ("Destination Port", .number dstPort),
      ("Length", .number udpLength), ("Checksum", .hex 4 checksum),
      ("Payload Length", .number (payloadEnd - (offset + 8)))]
    let vxlan ← tryWhen (4789 ∈ [srcPort, dstPort]) (appendVxlanLayers recur (offset + 8) payloadEnd)
    if vxlan = true then pure () else appendUdpPayload recur (offset + 8) payloadEnd srcPort dstPort

def appendTransportLayers (recur : LayerCall → Decoder Unit) (offset packetEnd protocol : Nat)
    (ipv6 : Bool) : Decoder Unit :=
  call <|
    if protocol = 17 then appendUdpLayer recur offset packetEnd
    else if protocol = 6 then appendTcpLayer offset packetEnd
    else if protocol = 132 then appendSctpLayer offset packetEnd
    else if protocol = 1 ∨ protocol = 58 then appendIcmpLayer offset protocol ipv6
    else if protocol = 47 then appendGreLayers recur offset
    else if protocol = 4 ∨ protocol = 41 then
      appendIpTunnelLayers recur offset packetEnd protocol ipv6
    else pure ()

/-! ## Datagrams -/

/-- `_append_ipv4_layers` behind the first line, which takes the end of the frame. -/
def ipv4Datagram (recur : LayerCall → Decoder Unit) (offset frameEnd : Nat) : Decoder Unit :=
  if frameEnd < offset + 20 then appendLayer "IPv4" [("Status", .text "Truncated IPv4")]
  else do
    let first ← octet offset
    let ihl := first % 16 * 4
    let version := first / 16
    if version ≠ 4 ∨ ihl < 20 ∨ frameEnd < offset + ihl then
      appendLayer "IPv4" [("Status", .text "Malformed IPv4"), ("Version", .number version),
        ("Header Length", .number ihl)]
    else do
      let totalLength ← word (offset + 2)
      let packetEnd := if ihl ≤ totalLength then min frameEnd (offset + totalLength) else frameEnd
      let protocol ← octet (offset + 9)
      let flagsFragment ← word (offset + 6)
      let source ← octets (offset + 12) 4
      let destination ← octets (offset + 16) 4
      let ttl ← octet (offset + 8)
      let service ← octet (offset + 1)
      let identification ← word (offset + 4)
      let checksum ← word (offset + 10)
      appendLayer "IPv4" [("Source", .ipv4 source), ("Destination", .ipv4 destination),
        ("Protocol", ipProtocolName protocol false), ("Header Length", .number ihl),
        ("Total Length", .number totalLength), ("TTL", .number ttl), ("DSCP", .number (service / 4)),
        ("ECN", .number (service % 4)), ("Identification", .number identification),
        ("Flags", ipv4Flags flagsFragment), ("Fragment Offset", .number (flagsFragment &&& 0x1FFF)),
        ("Checksum", .hex 4 checksum)]
      appendTransportLayers recur (offset + ihl) packetEnd protocol false

/-- `min(len(packet), packet_end) if packet_end is not None else len(packet)` -/
def frameEndOf (length : Nat) (packetEnd : Option Nat) : Nat :=
  match packetEnd with
  | some e => min length e
  | none => length

def appendIpv4Layers (recur : LayerCall → Decoder Unit) (offset : Nat) (packetEnd : Option Nat) :
    Decoder Unit := call do
  let length ← size
  ipv4Datagram recur offset (frameEndOf length packetEnd)

/-- `_append_ipv6_layers` behind the first line. -/
def ipv6Datagram (recur : LayerCall → Decoder Unit) (offset frameEnd : Nat) : Decoder Unit :=
  if frameEnd < offset + 40 then appendLayer "IPv6" [("Status", .text "Truncated IPv6")]
  else do
    let first ← octet offset
    let version := first / 16
    if version ≠ 6 then
      appendLayer "IPv6" [("Status", .text "Malformed IPv6"), ("Version", .number version)]
    else do
      let protocol ← octet (offset + 6)
      let payloadLength ← word (offset + 4)
      let packetEnd :=
        if 0 < payloadLength then min frameEnd (offset + 40 + payloadLength) else frameEnd
      let source ← octets (offset + 8) 16
      let destination ← octets (offset + 24) 16
      let second ← octet (offset + 1)
      let label ← word (offset + 2)
      let hopLimit ← octet (offset + 7)
      appendLayer "IPv6" [("Source", .ipv6 source), ("Destination", .ipv6 destination),
        ("Next Header", ipProtocolName protocol true), ("Payload Length", .number payloadLength),
        ("Traffic Class", .number ((first &&& 0x0F) <<< 4 ||| second >>> 4)),
        ("Flow Label", .number ((second &&& 0x0F) <<< 16 ||| label)), ("Hop Limit", .number hopLimit)]
      appendTransportLayers recur (offset + 40) packetEnd protocol true

def appendIpv6Layers (recur : LayerCall → Decoder Unit) (offset : Nat) (packetEnd : Option Nat) :
    Decoder Unit := call do
  let length ← size
  ipv6Datagram recur offset (frameEndOf length packetEnd)

/-! ## Frames -/

/-- The label stack of `_append_mpls_layers`, with the entries that are left of eight: the offset behind
the last label, `none` where there is nothing to go on with. -/
def mplsLabelLoop (frameEnd etherType : Nat) : (left currentOffset : Nat) → Decoder (Option Nat)
  | 0, _ => do
      appendLayer "MPLS Payload" [("Status", .text "MPLS label stack too deep")]
      pure none
  | left + 1, currentOffset =>
      if frameEnd < currentOffset + 4 then do
        appendLayer "MPLS" [("Status", .text "Truncated MPLS label"), ("Stack Entry", .number (8 - left)),
          ("EtherType", .hex 4 etherType)]
        pure none
      else do
        let label ← word32 currentOffset
        let bottomOfStack := label >>> 8 &&& 0x1
        appendLayer "MPLS" ([("Stack Entry", .number (8 - left))]
          ++ (if left = 7 then [("EtherType", .hex 4 etherType)] else [])
          ++ [("Label", .number (label >>> 12 &&& 0xFFFFF)),
            ("Traffic Class", .number (label >>> 9 &&& 0x7)),
            ("Bottom Of Stack", .number bottomOfStack), ("TTL", .number (label &&& 0xFF))])
        if bottomOfStack = 1 then pure (some (currentOffset + 4))
        else mplsLabelLoop frameEnd etherType left (currentOffset + 4)

/-- `_append_mpls_layers`, for the end of the frame. Its caller has taken the smaller of the two ends. -/
def appendMplsLayers (recur : LayerCall → Decoder Unit) (offset frameEnd etherType : Nat) :
    Decoder Unit := call do
  let stackEnd ← mplsLabelLoop frameEnd etherType 8 offset
  match stackEnd with
  | none => pure ()
  | some currentOffset =>
      if frameEnd ≤ currentOffset then appendLayer "MPLS Payload" [("Length", .number 0)]
      else do
        let first ← octet currentOffset
        let version := first / 16
        if version = 4 then recur (.ipv4 currentOffset (some frameEnd))
        else if version = 6 then recur (.ipv6 currentOffset (some frameEnd))
        else
          appendLayer "MPLS Payload"
            [("First Nibble", .hex 1 version), ("Length", .number (frameEnd - currentOffset))]

/-- The tag loop of `_append_ethernet_frame_layers`, with the rounds that are left of two: the type and
the offset of what the frame carries, `none` for a truncated tag. -/
def vlanTagLoop (frameEnd : Nat) : (left etherType payloadOffset : Nat) → Decoder (Option (Nat × Nat))
  | 0, etherType, payloadOffset => pure (some (etherType, payloadOffset))
  | left + 1, etherType, payloadOffset =>
      if etherType ∈ [0x8100, 0x88A8, 0x9100] then
        if frameEnd < payloadOffset + 4 then do
          appendLayer "802.1Q VLAN" [("Status", .text "Truncated VLAN tag")]
          pure none
        else do
          let tci ← word payloadOffset
          let innerType ← word (payloadOffset + 2)
          appendLayer "802.1Q VLAN" [("TPID", .hex 4 etherType), ("Tag", .number (2 - left)),
            ("Priority", .number (tci >>> 13 &&& 0x07)), ("DEI", .number (tci >>> 12 &&& 0x01)),
            ("VLAN ID", .number (tci &&& 0x0FFF)), ("Inner Type", .hex 4 innerType)]
          vlanTagLoop frameEnd left innerType (payloadOffset + 4)
      else pure (some (etherType, payloadOffset))

/-- What `_append_ethernet_frame_layers` calls for the type of the frame. -/
def appendFramePayload (recur : LayerCall → Decoder Unit) (frameEnd etherType payloadOffset : Nat) :
    Decoder Unit :=
  if etherType = 0x0800 then recur (.ipv4 payloadOffset (some frameEnd))
  else if etherType = 0x86DD then recur (.ipv6 payloadOffset (some frameEnd))
  else if etherType = 0x0806 then appendArpLayers payloadOffset
  else if etherType = 0x8847 ∨ etherType = 0x8848 then
    appendMplsLayers recur payloadOffset frameEnd etherType
  else
    appendLayer "Payload"
      [("EtherType", .hex 4 etherType), ("Length", .number (frameEnd - payloadOffset))]

/-- `_append_ethernet_frame_layers` behind the first line. -/
def ethernetFrame (recur : LayerCall → Decoder Unit) (offset frameEnd : Nat) (name : String) :
    Decoder Unit :=
  if frameEnd < offset + 14 then
    appendLayer name [("Status", .text ("Truncated " ++ name)), ("Length", .number (frameEnd - offset))]
  else do
    let destination ← octets offset 6
    let source ← octets (offset + 6) 6
    let etherType ← word (offset + 12)
    appendLayer name [("Destination", .mac destination), ("Source", .mac source),
      ("EtherType", .hex 4 etherType)]
    let tagged ← vlanTagLoop frameEnd 2 etherType (offset + 14)
    match tagged with
    | none => pure ()
    | some (innerType, payloadOffset) => appendFramePayload recur frameEnd innerType payloadOffset

def appendEthernetFrameLayers (recur : LayerCall → Decoder Unit) (offset packetEnd : Nat)
    (name : String) : Decoder Unit := call do
  let length ← size
  ethernetFrame recur offset (min length packetEnd) name

/-! ## Packets -/

def appendLayersWith (recur : LayerCall → Decoder Unit) : LayerCall → Decoder Unit
  | .ethernet offset packetEnd name => appendEthernetFrameLayers recur offset packetEnd name
  | .ipv4 offset packetEnd => appendIpv4Layers recur offset packetEnd
  | .ipv6 offset packetEnd => appendIpv6Layers recur offset packetEnd

def appendLayers : (fuel : Nat) → LayerCall → Decoder Unit
  | 0, _ => raise .rounds
  | fuel + 1, target => appendLayersWith (appendLayers fuel) target

def captureDecodedLayers : Decoder Unit := do
  let length ← size
  if length < 14 then
    appendLayer "Packet" [("Status", .text "Short packet"), ("Length", .number length)]
  else appendLayers (length + 1) (.ethernet 0 length "Ethernet")

end TrexWebui
