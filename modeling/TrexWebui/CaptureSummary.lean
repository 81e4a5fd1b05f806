import TrexWebui.CaptureDepth

/-!
# The line of a packet in the capture list

`_ethernet_summary` of `capture_decode.py` and what it calls: the addresses, the
type and the text that the list shows for a packet. The texts are kept as the
pieces that they are joined from. The functions read the packet as the decoder
does and call each other without a cycle; with the decoder they are what is
computed of a captured packet, and `decode_total` says that none of it can fail.
-/

namespace TrexWebui

open PyStr Octets PacketReader

abbrev Pieces := List FieldValue

structure PacketSummary where
  destination : Pieces
  source : Pieces
  type : Pieces
  info : Pieces

/-- `f"{src_ip} -> {dst_ip}"` -/
def arrow (source destination : Pieces) : Pieces := source ++ [.text " -> "] ++ destination

/-- `_endpoint_text`: an address with a colon stands in brackets. -/
def endpointText (address : FieldValue) (port : Nat) : Pieces :=
  match address with
  | .ipv6 _ => [.text "[", address, .text "]:", .number port]
  | _ => [address, .text ":", .number port]

/-! ## Contents of a datagram -/

/-- The loop of `_dhcp_message_type_from_payload`. -/
def dhcpMessageTypeLoop (packetEnd : Nat) : (fuel cursor : Nat) → Decoder (Option FieldValue)
  | 0, _ => raise .rounds
  | fuel + 1, cursor =>
      if packetEnd ≤ cursor then pure none
      else do
        let option ← octet cursor
        if option = 255 then pure none
        else if option = 0 then dhcpMessageTypeLoop packetEnd fuel (cursor + 1)
        else if packetEnd ≤ cursor + 1 then pure none
        else do
          let length ← octet (cursor + 1)
          if packetEnd < cursor + 2 + length then pure none
          else do
            let value ← octets (cursor + 2) length
            if option = 53 ∧ 1 ≤ length then pure (some (dhcpMessageTypeName (octetAt value 0)))
            else dhcpMessageTypeLoop packetEnd fuel (cursor + 2 + length)

def dhcpMessageTypeFromPayload (offset packetEnd : Nat) : Decoder (Option FieldValue) :=
  if packetEnd < offset + 240 then pure none
  else do
    let magic ← octets (offset + 236) 4
    if magic ≠ dhcpMagicCookie then pure none
    else dhcpMessageTypeLoop packetEnd (packetEnd + 1) (offset + 240)

/-- `_gtpu_extension_detail`, with the rounds that are left of four: the offset behind the extensions
and what is said of them. -/
def gtpuExtensionDetail (packetEnd : Nat) :
    (left cursor extensionHeader : Nat) → Decoder (Nat × List Pieces)
  | 0, cursor, extensionHeader =>
      if extensionHeader = 0 then pure (cursor, [])
      else pure (cursor, [[.text "extension-chain-too-deep"]])
  | left + 1, cursor, extensionHeader =>
      if extensionHeader = 0 then pure (cursor, [])
      else if packetEnd < cursor + 4 then pure (packetEnd, [[.text "truncated-extension"]])
      else do
        let units ← octet cursor
        if units * 4 < 4 then pure (cursor, [[.text "invalid-extension-length"]])
        else if packetEnd < cursor + units * 4 then
          pure (packetEnd, [[.text "truncated-extension"]])
        else do
          let extensionNext ← octet (cursor + units * 4 - 1)
          let port ← gtpuPortFields extensionHeader cursor
          let rest ← gtpuExtensionDetail packetEnd left (cursor + units * 4) extensionNext
          pure (rest.1, port.map (fun field => [.text "udp-port=", field.2]) ++ rest.2)

/-- The datagram that `_gtpu_detail` names at the end. -/
def gtpuInnerDetail (cursor gtpuEnd : Nat) : Decoder Pieces := do
  let first ← octet cursor
  let version := first / 16
  if version = 4 ∧ cursor + 20 ≤ gtpuEnd ∧ 20 ≤ first % 16 * 4 ∧ cursor + first % 16 * 4 ≤ gtpuEnd
  then do
    let source ← octets (cursor + 12) 4
    let destination ← octets (cursor + 16) 4
    let protocol ← octet (cursor + 9)
    pure ([.text " inner IPv4 "] ++ arrow [.ipv4 source] [.ipv4 destination]
      ++ [.text " ", ipProtocolName protocol false])
  else if version = 6 ∧ cursor + 40 ≤ gtpuEnd then do
    let source ← octets (cursor + 8) 16
    let destination ← octets (cursor + 24) 16
    let protocol ← octet (cursor + 6)
    pure ([.text " inner IPv6 "] ++ arrow [.ipv6 source] [.ipv6 destination]
      ++ [.text " ", ipProtocolName protocol true])
  else pure [.text " inner version ", .number version]

/-- The optional word of a GTP-U header, as `_gtpu_detail` shows it. -/
def gtpuOptionalParts (flags sequence nPdu nextExtensionHeader : Nat) : List Pieces :=
  (if flags &&& 0x02 ≠ 0 then [[FieldValue.text "seq=", .number sequence]] else [])
    ++ (if flags &&& 0x01 ≠ 0 then [[.text "n-pdu=", .number nPdu]] else [])
    ++ (if flags &&& 0x04 ≠ 0 then [[.text "ext=", .hex 2 nextExtensionHeader]] else [])

/-- `" ".join(parts)` behind another text; nothing where there are no parts. -/
def spaced (parts : List Pieces) : Pieces := parts.flatMap fun part => .text " " :: part

/-- What `_gtpu_detail` adds for the extensions and the payload. -/
def gtpuContentsDetail (messageType cursor gtpuEnd nextExtensionHeader : Nat) : Decoder Pieces := do
  let extensions ← gtpuExtensionDetail gtpuEnd 4 cursor nextExtensionHeader
  if messageType ≠ 0xFF ∨ gtpuEnd ≤ extensions.1 then pure (spaced extensions.2)
  else do
    let inner ← gtpuInnerDetail extensions.1 gtpuEnd
    pure (spaced extensions.2 ++ inner)

def gtpuDetail (offset packetEnd : Nat) : Decoder Pieces := do
  let length ← size
  let payloadEnd := min length packetEnd
  if payloadEnd < offset + 8 then pure [.text "GTP-U truncated"]
  else do
    let flags ← octet offset
    let messageType ← octet (offset + 1)
    let payloadLength ← word (offset + 2)
    let teid ← word32 (offset + 4)
    let gtpuEnd := min payloadEnd (offset + 8 + payloadLength)
    let detail := [FieldValue.text "GTP-U ", .text (gtpuMessageTypeName messageType), .text " teid=",
      .hex 8 teid]
    if (flags >>> 5 &&& 0x07) ≠ 1 ∨ (flags >>> 4 &&& 0x01) ≠ 1 then
      pure (detail ++ [.text " unexpected-flags"])
    else if flags &&& 0x07 = 0 then do
      let contents ← gtpuContentsDetail messageType (offset + 8) gtpuEnd 0
      pure (detail ++ contents)
    else if gtpuEnd < offset + 12 then pure (detail ++ [.text " truncated"])
    else do
      let sequence ← word (offset + 8)
      let nPdu ← octet (offset + 10)
      let nextExtensionHeader ← octet (offset + 11)
      let contents ← gtpuContentsDetail messageType (offset + 12) gtpuEnd
        (if flags &&& 0x04 ≠ 0 then nextExtensionHeader else 0)
      pure (detail ++ spaced (gtpuOptionalParts flags sequence nPdu nextExtensionHeader) ++ contents)

/-! ## Transport -/

/-- What `_l4_detail` says of the payload of a UDP datagram. -/
def udpDetail (payloadOffset payloadEnd srcPort dstPort : Nat) : Decoder Pieces :=
  if (srcPort = 53 ∨ dstPort = 53) ∧ payloadOffset + 12 ≤ payloadEnd then do
    let query ← dnsQuerySummary (payloadOffset + 12) payloadEnd payloadOffset
    pure ([.text " DNS ", query.name] ++ (query.queryType.toList.flatMap fun name => [.text " ", name]))
  else if (67 ∈ [srcPort, dstPort] ∨ 68 ∈ [srcPort, dstPort]) ∧ payloadOffset + 240 ≤ payloadEnd then do
    let messageType ← dhcpMessageTypeFromPayload payloadOffset payloadEnd
    pure (messageType.toList.flatMap fun name => [.text " DHCP ", name])
  else if 2152 ∈ [srcPort, dstPort] ∧ payloadOffset + 8 ≤ payloadEnd then do
    let detail ← gtpuDetail payloadOffset payloadEnd
    pure (.text " " :: detail)
  else if (3544 ∈ [srcPort, dstPort] ∨ 3797 ∈ [srcPort, dstPort]) ∧ payloadOffset < payloadEnd then do
    let first ← octet payloadOffset
    if first / 16 = 4 then pure [.text " IPv4-over-UDP"]
    else if first / 16 = 6 then pure [.text " IPv6-over-UDP"]
    else pure []
  else pure []

/-- The chunk of an SCTP packet in `_l4_detail`. -/
def sctpDetail (chunkOffset : Nat) : Decoder Pieces := do
  let length ← size
  if chunkOffset + 16 ≤ length then do
    let chunkType ← octet chunkOffset
    if chunkType = 0 then do
      let tsn ← word32 (chunkOffset + 4)
      let streamId ← word (chunkOffset + 8)
      pure [.text " SCTP TSN ", .number tsn, .text " stream ", .number streamId]
    else pure [.text " SCTP"]
  else pure [.text " SCTP"]

/-- The TCP header in `_l4_detail`. -/
def tcpDetail (offset packetEnd : Nat) : Decoder Pieces := do
  let first ← octet (offset + 12)
  let dataOffset := max 20 (first / 16 * 4)
  let flags ← octet (offset + 13)
  let sequence ← word32 (offset + 4)
  let acknowledge ← word32 (offset + 8)
  let window ← word (offset + 14)
  pure [.text " [", tcpFlagNames flags, .text "] Seq=", .number sequence, .text " Ack=",
    .number acknowledge, .text " Win=", .number window, .text " Len=",
    .number (packetEnd - offset - dataOffset)]

def l4Detail (offset packetEnd protocol : Nat) (source destination : FieldValue) : Decoder Pieces := do
  let srcPort ← word offset
  let dstPort ← word (offset + 2)
  let endpoints := arrow (endpointText source srcPort) (endpointText destination dstPort)
  let length ← size
  if protocol = 17 then
    if offset + 8 ≤ length then do
      let udpLength ← word (offset + 4)
      let detail ← udpDetail (offset + 8) (min packetEnd (offset + udpLength)) srcPort dstPort
      pure (endpoints ++ detail)
    else pure endpoints
  else if protocol = 132 then do
    let detail ← sctpDetail (offset + 12)
    pure (endpoints ++ detail)
  else if protocol ≠ 6 ∨ length < offset + 20 then pure endpoints
  else do
    let detail ← tcpDetail offset packetEnd
    pure (endpoints ++ detail)

def icmpDetail (offset : Nat) (source destination : FieldValue) (ipv6 : Bool) : Decoder Pieces := do
  let addresses := arrow [source] [destination]
  let length ← size
  if length < offset + 4 then
    pure (addresses ++ [.text " Truncated ", .text (if ipv6 then "ICMPv6" else "ICMP")])
  else do
    let icmpType ← octet offset
    let named := addresses ++ [.text " ", icmpTypeName icmpType ipv6]
    if icmpType ∈ [0, 8, 128, 129] ∧ offset + 8 ≤ length then do
      let identifier ← word (offset + 4)
      let sequence ← word (offset + 6)
      pure (named ++ [.text " id=", .number identifier, .text " seq=", .number sequence])
    else if ipv6 = true ∧ icmpType ∈ [135, 136] ∧ offset + 24 ≤ length then do
      let target ← octets (offset + 8) 16
      pure (named ++ [.text " target=", .ipv6 target])
    else pure named

/-- A word of a GRE header that `_gre_detail` shows when its flag is set and the packet has it. -/
def greDetailPart (present : Bool) (offset : Nat) (shown : Nat → Pieces) : Decoder Pieces :=
  if present then do
    let length ← size
    if offset + 4 ≤ length then do
      let value ← word32 offset
      pure (shown value)
    else pure []
  else pure []

def greDetail (offset : Nat) (source destination : FieldValue) : Decoder Pieces := do
  let addresses := arrow [source] [destination]
  let length ← size
  if length < offset + 4 then pure (addresses ++ [.text " Truncated GRE"])
  else do
    let flags ← word offset
    let protocolType ← word (offset + 2)
    let keyOffset := offset + 4 + (if flags &&& 0x8000 ≠ 0 then 4 else 0)
    let key ← greDetailPart (flags &&& 0x2000 ≠ 0) keyOffset fun value =>
      [.text " key=", .hex 8 value]
    let sequenceOffset := keyOffset + (if flags &&& 0x2000 ≠ 0 then 4 else 0)
    let sequence ← greDetailPart (flags &&& 0x1000 ≠ 0) sequenceOffset fun value =>
      [.text " seq=", .number value]
    pure (addresses ++ [.text " GRE protocol ", .hex 4 protocolType] ++ key ++ sequence)

def ipTunnelDetail (offset packetEnd protocol : Nat) (source destination : FieldValue) (outer : String) :
    Decoder Pieces := do
  let named := arrow [source] [destination]
    ++ [.text " ", .text (if protocol = 4 then "IPv4" else "IPv6"), .text "-in-", .text outer]
  let length ← size
  let payloadEnd := min length packetEnd
  if payloadEnd ≤ offset then pure (named ++ [.text " truncated"])
  else do
    let first ← octet offset
    let version := first / 16
    if protocol = 4 then
      if version ≠ 4 ∨ payloadEnd < offset + 20 ∨ first % 16 * 4 < 20
        ∨ payloadEnd < offset + first % 16 * 4
      then pure (named ++ [.text " malformed inner IPv4"])
      else do
        let innerSource ← octets (offset + 12) 4
        let innerDestination ← octets (offset + 16) 4
        let innerProtocol ← octet (offset + 9)
        pure (named ++ [.text " "] ++ arrow [.ipv4 innerSource] [.ipv4 innerDestination]
          ++ [.text " ", ipProtocolName innerProtocol false])
    else if version ≠ 6 ∨ payloadEnd < offset + 40 then
      pure (named ++ [.text " malformed inner IPv6"])
    else do
      let innerSource ← octets (offset + 8) 16
      let innerDestination ← octets (offset + 24) 16
      let innerProtocol ← octet (offset + 6)
      pure (named ++ [.text " "] ++ arrow [.ipv6 innerSource] [.ipv6 innerDestination]
        ++ [.text " ", ipProtocolName innerProtocol true])

/-! ## Datagrams and frames -/

/-- The text for the payload of a datagram, in `_ipv4_summary` and `_ipv6_summary`, which differ in the
number of their control messages. -/
def datagramDetail (offset packetEnd protocol controlProtocol : Nat) (source destination : FieldValue)
    (outer : String) : Decoder Pieces := do
  let length ← size
  if protocol ∈ [6, 17] ∧ offset + 4 ≤ length then
    l4Detail offset packetEnd protocol source destination
  else if protocol = controlProtocol then
    icmpDetail offset source destination (controlProtocol = 58)
  else if protocol = 47 then greDetail offset source destination
  else if protocol ∈ [4, 41] then ipTunnelDetail offset packetEnd protocol source destination outer
  else pure (arrow [source] [destination])

def ipv4Summary (offset : Nat) (pre : String) (ethernetDestination ethernetSource : FieldValue) :
    Decoder PacketSummary := do
  let length ← size
  if length < offset + 20 then
    pure ⟨[ethernetDestination], [ethernetSource], [.text pre, .text "IPv4"], [.text "Truncated IPv4"]⟩
  else do
    let first ← octet offset
    let ihl := first % 16 * 4
    if first / 16 ≠ 4 ∨ ihl < 20 ∨ length < offset + ihl then
      pure ⟨[ethernetDestination], [ethernetSource], [.text pre, .text "IPv4"],
        [.text "Malformed IPv4"]⟩
    else do
      let totalLength ← word (offset + 2)
      let packetEnd := if ihl ≤ totalLength then min length (offset + totalLength) else length
      let protocol ← octet (offset + 9)
      let source ← octets (offset + 12) 4
      let destination ← octets (offset + 16) 4
      let detail ← datagramDetail (offset + ihl) packetEnd protocol 1 (.ipv4 source)
        (.ipv4 destination) "IPv4"
      pure ⟨[.ipv4 destination], [.ipv4 source],
        [.text pre, .text "IPv4/", ipProtocolName protocol false], detail⟩

def ipv6Summary (offset : Nat) (pre : String) (ethernetDestination ethernetSource : FieldValue) :
    Decoder PacketSummary := do
  let length ← size
  if length < offset + 40 then
    pure ⟨[ethernetDestination], [ethernetSource], [.text pre, .text "IPv6"], [.text "Truncated IPv6"]⟩
  else do
    let first ← octet offset
    if first / 16 ≠ 6 then
      pure ⟨[ethernetDestination], [ethernetSource], [.text pre, .text "IPv6"],
        [.text "Malformed IPv6"]⟩
    else do
      let protocol ← octet (offset + 6)
      let payloadLength ← word (offset + 4)
      let packetEnd := if 0 < payloadLength then min length (offset + 40 + payloadLength) else length
      let source ← octets (offset + 8) 16
      let destination ← octets (offset + 24) 16
      let detail ← datagramDetail (offset + 40) packetEnd protocol 58 (.ipv6 source)
        (.ipv6 destination) "IPv6"
      pure ⟨[.ipv6 destination], [.ipv6 source],
        [.text pre, .text "IPv6/", ipProtocolName protocol true], detail⟩

def arpSummary (offset : Nat) (pre : String) (ethernetDestination ethernetSource : FieldValue) :
    Decoder PacketSummary := do
  let length ← size
  let shown := fun info =>
    PacketSummary.mk [ethernetDestination] [ethernetSource] [.text pre, .text "ARP"] info
  if length < offset + 28 then pure (shown [.text "Truncated ARP"])
  else do
    let hlen ← octet (offset + 4)
    let plen ← octet (offset + 5)
    let operation ← word (offset + 6)
    if hlen ≠ 6 ∨ plen ≠ 4 ∨ length < offset + 8 + 2 * hlen + 2 * plen then
      pure (shown [.text "ARP packet"])
    else do
      let senderMac ← octets (offset + 8) hlen
      let senderIp ← octets (offset + 8 + hlen) plen
      let targetIp ← octets (offset + 8 + hlen + plen + hlen) plen
      if operation = 1 then
        pure (shown [.text "[Request] Who has ", .ipv4 targetIp, .text " tell ", .ipv4 senderIp])
      else if operation = 2 then
        pure (shown [.text "[Reply] ", .ipv4 senderIp, .text " is at ", .mac senderMac])
      else pure (shown [.text "ARP operation ", .number operation])

/-- The tag loop of `_ethernet_summary`: the type, the offset and the identifiers of the tags. -/
def summaryTagLoop (length : Nat) :
    (left etherType offset : Nat) → Decoder (Nat × Nat × List Nat)
  | 0, etherType, offset => pure (etherType, offset, [])
  | left + 1, etherType, offset =>
      if etherType ∈ [0x8100, 0x88A8, 0x9100] ∧ offset + 4 ≤ length then do
        let tci ← word offset
        let innerType ← word (offset + 2)
        let rest ← summaryTagLoop length left innerType (offset + 4)
        pure (rest.1, rest.2.1, (tci &&& 0x0FFF) :: rest.2.2)
      else pure (etherType, offset, [])

/-- `f" VLAN {','.join(…)}"` -/
def vlanDetail (vlanIds : List Nat) : Pieces :=
  if vlanIds = [] then []
  else .text " VLAN " :: (vlanIds.map fun id => FieldValue.number id).intersperse (.text ",")

def ethernetSummary : Decoder PacketSummary := do
  let length ← size
  if length < 14 then pure ⟨[.text "-"], [.text "-"], [.text "-"], [.text "Short packet"]⟩
  else do
    let destination ← octets 0 6
    let source ← octets 6 6
    let etherType ← word 12
    let tagged ← summaryTagLoop length 2 etherType 14
    let pre := if tagged.2.2 = [] then "" else "802.1Q/"
    if tagged.1 = 0x0800 then ipv4Summary tagged.2.1 pre (.mac destination) (.mac source)
    else if tagged.1 = 0x86DD then ipv6Summary tagged.2.1 pre (.mac destination) (.mac source)
    else if tagged.1 = 0x0806 then arpSummary tagged.2.1 pre (.mac destination) (.mac source)
    else
      pure ⟨[.mac destination], [.mac source], [.text pre, .hex 4 tagged.1],
        .text "Ethernet frame" :: vlanDetail tagged.2.2⟩

/-! ## The line is always there -/

variable {p : Bytes}

abbrev Total {α : Type} (p : Bytes) (m : Decoder α) : Prop := Plain p p m m

theorem dhcpMessageTypeLoop_total {packetEnd : Nat} (hend : packetEnd ≤ p.length) :
    ∀ {fuel cursor : Nat}, packetEnd - cursor < fuel →
      Total p (dhcpMessageTypeLoop packetEnd fuel cursor) := by
  intro fuel
  induction fuel with
  | zero => intro _ hfuel; omega
  | succ fuel ih =>
      intro cursor hfuel
      have h := Agree.refl p
      rw [dhcpMessageTypeLoop]
      refine .ite Iff.rfl (fun _ => .pure _) fun hcursor => ?_
      refine Runs.bindPlain (.octet h (by omega)) ?_
      refine .ite Iff.rfl (fun _ => .pure _) fun _ => ?_
      refine .ite Iff.rfl (fun _ => ih (by omega)) fun _ => ?_
      refine .ite Iff.rfl (fun _ => .pure _) fun hlength => ?_
      refine Runs.bindPlain (.octet h (by omega)) ?_
      refine .ite Iff.rfl (fun _ => .pure _) fun hvalue => ?_
      refine Runs.bindPlain (.octets h (by omega)) ?_
      exact .ite Iff.rfl (fun _ => .pure _) fun _ => ih (by omega)

theorem dhcpMessageTypeFromPayload_total {packetEnd : Nat} (hend : packetEnd ≤ p.length)
    (offset : Nat) : Total p (dhcpMessageTypeFromPayload offset packetEnd) := by
  unfold dhcpMessageTypeFromPayload
  refine .ite Iff.rfl (fun _ => .pure _) fun hlong => ?_
  refine Runs.bindPlain (.octets (Agree.refl p) (by omega)) ?_
  exact .ite Iff.rfl (fun _ => .pure _) fun _ => dhcpMessageTypeLoop_total hend (by omega)

theorem gtpuExtensionDetail_total {packetEnd : Nat} (hend : packetEnd ≤ p.length) :
    ∀ {left cursor extensionHeader : Nat},
      Total p (gtpuExtensionDetail packetEnd left cursor extensionHeader) := by
  have h := Agree.refl p
  intro left
  induction left with
  | zero => exact .ite Iff.rfl (fun _ => .pure _) fun _ => .pure _
  | succ left ih =>
      intro cursor extensionHeader
      rw [gtpuExtensionDetail]
      refine .ite Iff.rfl (fun _ => .pure _) fun _ => ?_
      refine .ite Iff.rfl (fun _ => .pure _) fun hshort => ?_
      refine Runs.bindPlain (.octet h (by omega)) ?_
      refine .ite Iff.rfl (fun _ => .pure _) fun hvalid => ?_
      refine .ite Iff.rfl (fun _ => .pure _) fun hlong => ?_
      refine Runs.bindPlain (.octet h (by omega)) ?_
      refine (gtpuPortFields_plain h (by omega)).bind fun port => ?_
      exact ih.bind fun rest => .pure _

theorem gtpuInnerDetail_total {cursor gtpuEnd : Nat} (hend : gtpuEnd ≤ p.length)
    (hlt : cursor < gtpuEnd) : Total p (gtpuInnerDetail cursor gtpuEnd) := by
  have h := Agree.refl p
  unfold gtpuInnerDetail
  refine Runs.bindPlain (.octet h (by omega)) ?_
  refine .ite Iff.rfl (fun hipv4 => ?_) fun _ => .ite Iff.rfl (fun hipv6 => ?_) fun _ => .pure _
  · refine Runs.bindPlain (.octets h (by omega)) ?_
    refine Runs.bindPlain (.octets h (by omega)) ?_
    exact Runs.bindPlain (.octet h (by omega)) (.pure _)
  · refine Runs.bindPlain (.octets h (by omega)) ?_
    refine Runs.bindPlain (.octets h (by omega)) ?_
    exact Runs.bindPlain (.octet h (by omega)) (.pure _)

theorem gtpuContentsDetail_total {gtpuEnd : Nat} (hend : gtpuEnd ≤ p.length)
    (messageType cursor nextExtensionHeader : Nat) :
    Total p (gtpuContentsDetail messageType cursor gtpuEnd nextExtensionHeader) := by
  unfold gtpuContentsDetail
  refine (gtpuExtensionDetail_total hend).bind fun extensions => ?_
  refine .ite Iff.rfl (fun _ => .pure _) fun hmore => ?_
  exact (gtpuInnerDetail_total hend (by omega)).bind fun inner => .pure _

theorem gtpuDetail_total (offset packetEnd : Nat) : Total p (gtpuDetail offset packetEnd) := by
  have h := Agree.refl p
  have hend : min p.length packetEnd ≤ p.length := Nat.min_le_left _ _
  unfold gtpuDetail
  refine .size (.ite Iff.rfl (fun _ => .pure _) fun hlong => ?_)
  refine Runs.bindPlain (.octet h (by omega)) ?_
  refine Runs.bindPlain (.octet h (by omega)) ?_
  refine Runs.bindPlain (.word h (by omega)) ?_
  refine Runs.bindPlain (.word32 h (by omega)) ?_
  refine .ite Iff.rfl (fun _ => .pure _) fun _ => ?_
  refine .ite Iff.rfl (fun _ => ?_) fun _ => .ite Iff.rfl (fun _ => .pure _) fun hoptional => ?_
  · exact (gtpuContentsDetail_total (by omega) _ _ _).bind fun contents => .pure _
  · refine Runs.bindPlain (.word h (by omega)) ?_
    refine Runs.bindPlain (.octet h (by omega)) ?_
    refine Runs.bindPlain (.octet h (by omega)) ?_
    exact (gtpuContentsDetail_total (by omega) _ _ _).bind fun contents => .pure _

theorem udpDetail_total {payloadEnd : Nat} (hend : payloadEnd ≤ p.length)
    (payloadOffset srcPort dstPort : Nat) :
    Total p (udpDetail payloadOffset payloadEnd srcPort dstPort) := by
  have h := Agree.refl p
  unfold udpDetail
  refine .ite Iff.rfl (fun _ => ?_) fun _ => .ite Iff.rfl (fun _ => ?_) fun _ =>
    .ite Iff.rfl (fun _ => ?_) fun _ => .ite Iff.rfl (fun htunnel => ?_) fun _ => .pure _
  · exact (dnsQuerySummary_plain h hend _ _).bind fun query => .pure _
  · exact (dhcpMessageTypeFromPayload_total hend _).bind fun messageType => .pure _
  · exact (gtpuDetail_total _ _).bind fun detail => .pure _
  · refine Runs.bindPlain (.octet h (by omega)) ?_
    exact .ite Iff.rfl (fun _ => .pure _) fun _ => .ite Iff.rfl (fun _ => .pure _) fun _ => .pure _

theorem sctpDetail_total (chunkOffset : Nat) : Total p (sctpDetail chunkOffset) := by
  have h := Agree.refl p
  unfold sctpDetail
  refine .size (.ite Iff.rfl (fun hlong => ?_) fun _ => .pure _)
  refine Runs.bindPlain (.octet h (by omega)) ?_
  refine .ite Iff.rfl (fun _ => ?_) fun _ => .pure _
  refine Runs.bindPlain (.word32 h (by omega)) ?_
  exact Runs.bindPlain (.word h (by omega)) (.pure _)

theorem tcpDetail_total {offset : Nat} (hlong : offset + 20 ≤ p.length) (packetEnd : Nat) :
    Total p (tcpDetail offset packetEnd) := by
  have h := Agree.refl p
  unfold tcpDetail
  refine Runs.bindPlain (.octet h (by omega)) ?_
  refine Runs.bindPlain (.octet h (by omega)) ?_
  refine Runs.bindPlain (.word32 h (by omega)) ?_
  refine Runs.bindPlain (.word32 h (by omega)) ?_
  exact Runs.bindPlain (.word h (by omega)) (.pure _)

theorem l4Detail_total {offset packetEnd : Nat} (hlong : offset + 4 ≤ p.length)
    (hend : packetEnd ≤ p.length) (protocol : Nat) (source destination : FieldValue) :
    Total p (l4Detail offset packetEnd protocol source destination) := by
  have h := Agree.refl p
  unfold l4Detail
  refine Runs.bindPlain (.word h (by omega)) ?_
  refine Runs.bindPlain (.word h (by omega)) ?_
  refine .size (.ite Iff.rfl (fun _ => ?_) fun _ => .ite Iff.rfl (fun _ => ?_) fun _ =>
    .ite Iff.rfl (fun _ => .pure _) fun htcp => ?_)
  · refine .ite Iff.rfl (fun hheader => ?_) fun _ => .pure _
    refine Runs.bindPlain (.word h (by omega)) ?_
    exact (udpDetail_total (by omega) _ _ _).bind fun detail => .pure _
  · exact (sctpDetail_total _).bind fun detail => .pure _
  · exact (tcpDetail_total (by omega) _).bind fun detail => .pure _

theorem icmpDetail_total (offset : Nat) (source destination : FieldValue) (ipv6 : Bool) :
    Total p (icmpDetail offset source destination ipv6) := by
  have h := Agree.refl p
  unfold icmpDetail
  refine .size (.ite Iff.rfl (fun _ => .pure _) fun hlong => ?_)
  refine Runs.bindPlain (.octet h (by omega)) ?_
  refine .ite Iff.rfl (fun hecho => ?_) fun _ => .ite Iff.rfl (fun htarget => ?_) fun _ => .pure _
  · refine Runs.bindPlain (.word h (by omega)) ?_
    exact Runs.bindPlain (.word h (by omega)) (.pure _)
  · exact Runs.bindPlain (.octets h (by omega)) (.pure _)

theorem greDetailPart_total (present : Bool) (offset : Nat) (shown : Nat → Pieces) :
    Total p (greDetailPart present offset shown) := by
  unfold greDetailPart
  refine .ite Iff.rfl (fun _ => ?_) fun _ => .pure _
  refine .size (.ite Iff.rfl (fun hlong => ?_) fun _ => .pure _)
  exact Runs.bindPlain (.word32 (Agree.refl p) hlong) (.pure _)

theorem greDetail_total (offset : Nat) (source destination : FieldValue) :
    Total p (greDetail offset source destination) := by
  have h := Agree.refl p
  unfold greDetail
  refine .size (.ite Iff.rfl (fun _ => .pure _) fun hlong => ?_)
  refine Runs.bindPlain (.word h (by omega)) ?_
  refine Runs.bindPlain (.word h (by omega)) ?_
  refine (greDetailPart_total _ _ _).bind fun key => ?_
  exact (greDetailPart_total _ _ _).bind fun sequence => .pure _

theorem ipTunnelDetail_total (offset packetEnd protocol : Nat) (source destination : FieldValue)
    (outer : String) : Total p (ipTunnelDetail offset packetEnd protocol source destination outer) := by
  have h := Agree.refl p
  have hend : min p.length packetEnd ≤ p.length := Nat.min_le_left _ _
  unfold ipTunnelDetail
  refine .size (.ite Iff.rfl (fun _ => .pure _) fun hempty => ?_)
  refine Runs.bindPlain (.octet h (by omega)) ?_
  refine .ite Iff.rfl (fun _ => .ite Iff.rfl (fun _ => .pure _) fun hform => ?_) fun _ =>
    .ite Iff.rfl (fun _ => .pure _) fun hform => ?_
  · refine Runs.bindPlain (.octets h (by omega)) ?_
    refine Runs.bindPlain (.octets h (by omega)) ?_
    exact Runs.bindPlain (.octet h (by omega)) (.pure _)
  · refine Runs.bindPlain (.octets h (by omega)) ?_
    refine Runs.bindPlain (.octets h (by omega)) ?_
    exact Runs.bindPlain (.octet h (by omega)) (.pure _)

theorem datagramDetail_total {packetEnd : Nat} (hend : packetEnd ≤ p.length)
    (offset protocol controlProtocol : Nat) (source destination : FieldValue) (outer : String) :
    Total p (datagramDetail offset packetEnd protocol controlProtocol source destination outer) := by
  unfold datagramDetail
  refine .size (.ite Iff.rfl (fun hports => l4Detail_total hports.2 hend _ _ _) fun _ => ?_)
  refine .ite Iff.rfl (fun _ => icmpDetail_total _ _ _ _) fun _ => ?_
  refine .ite Iff.rfl (fun _ => greDetail_total _ _ _) fun _ => ?_
  exact .ite Iff.rfl (fun _ => ipTunnelDetail_total _ _ _ _ _ _) fun _ => .pure _

theorem ipv4Summary_total (offset : Nat) (pre : String) (destination source : FieldValue) :
    Total p (ipv4Summary offset pre destination source) := by
  have h := Agree.refl p
  unfold ipv4Summary
  refine .size (.ite Iff.rfl (fun _ => .pure _) fun hlong => ?_)
  refine Runs.bindPlain (.octet h (by omega)) ?_
  refine .ite Iff.rfl (fun _ => .pure _) fun hform => ?_
  refine Runs.bindPlain (.word h (by omega)) ?_
  refine Runs.bindPlain (.octet h (by omega)) ?_
  refine Runs.bindPlain (.octets h (by omega)) ?_
  refine Runs.bindPlain (.octets h (by omega)) ?_
  refine (datagramDetail_total ?_ _ _ _ _ _ _).bind fun detail => .pure _
  split <;> omega

theorem ipv6Summary_total (offset : Nat) (pre : String) (destination source : FieldValue) :
    Total p (ipv6Summary offset pre destination source) := by
  have h := Agree.refl p
  unfold ipv6Summary
  refine .size (.ite Iff.rfl (fun _ => .pure _) fun hlong => ?_)
  refine Runs.bindPlain (.octet h (by omega)) ?_
  refine .ite Iff.rfl (fun _ => .pure _) fun hform => ?_
  refine Runs.bindPlain (.octet h (by omega)) ?_
  refine Runs.bindPlain (.word h (by omega)) ?_
  refine Runs.bindPlain (.octets h (by omega)) ?_
  refine Runs.bindPlain (.octets h (by omega)) ?_
  refine (datagramDetail_total ?_ _ _ _ _ _ _).bind fun detail => .pure _
  split <;> omega

theorem arpSummary_total (offset : Nat) (pre : String) (destination source : FieldValue) :
    Total p (arpSummary offset pre destination source) := by
  have h := Agree.refl p
  unfold arpSummary
  refine .size (.ite Iff.rfl (fun _ => .pure _) fun hlong => ?_)
  refine Runs.bindPlain (.octet h (by omega)) ?_
  refine Runs.bindPlain (.octet h (by omega)) ?_
  refine Runs.bindPlain (.word h (by omega)) ?_
  refine .ite Iff.rfl (fun _ => .pure _) fun hsizes => ?_
  refine Runs.bindPlain (.octets h (by omega)) ?_
  refine Runs.bindPlain (.octets h (by omega)) ?_
  refine Runs.bindPlain (.octets h (by omega)) ?_
  exact .ite Iff.rfl (fun _ => .pure _) fun _ => .ite Iff.rfl (fun _ => .pure _) fun _ => .pure _

theorem summaryTagLoop_total : ∀ {left etherType offset : Nat},
    Total p (summaryTagLoop p.length left etherType offset) := by
  have h := Agree.refl p
  intro left
  induction left with
  | zero => exact .pure _
  | succ left ih =>
      intro etherType offset
      rw [summaryTagLoop]
      refine .ite Iff.rfl (fun htag => ?_) fun _ => .pure _
      refine Runs.bindPlain (.word h (by omega)) ?_
      refine Runs.bindPlain (.word h (by omega)) ?_
      exact ih.bind fun rest => .pure _

theorem ethernetSummary_total (p : Bytes) : Total p ethernetSummary := by
  have h := Agree.refl p
  unfold ethernetSummary
  refine .size (.ite Iff.rfl (fun _ => .pure _) fun hlong => ?_)
  refine Runs.bindPlain (.octets h (by omega)) ?_
  refine Runs.bindPlain (.octets h (by omega)) ?_
  refine Runs.bindPlain (.word h (by omega)) ?_
  refine summaryTagLoop_total.bind fun tagged => ?_
  refine .ite Iff.rfl (fun _ => ipv4Summary_total _ _ _ _) fun _ => ?_
  refine .ite Iff.rfl (fun _ => ipv6Summary_total _ _ _ _) fun _ => ?_
  exact .ite Iff.rfl (fun _ => arpSummary_total _ _ _ _) fun _ => .pure _

/-- Whatever was captured, its layers and its line are computed: no read is outside the packet, and
no loop or recursion goes on for more rounds than it was given. -/
theorem decode_total (packet : Bytes) :
    (∃ output, captureDecodedLayers packet = .ok output)
      ∧ ∃ output, ethernetSummary packet = .ok output := by
  obtain ⟨layers, _, _, hlayers, -⟩ := captureDecodedLayers_relates packet
  obtain ⟨summary, items, hsummary, -⟩ := ethernetSummary_total packet
  exact ⟨⟨_, hlayers⟩, _, hsummary⟩

end TrexWebui
