import TrexWebui.PacketImport
import TrexWebui.PacketReaders

/-!
# Decoding captured packets

`_capture_decoded_layers` of `capture_decode.py`: the layers that the capture
view shows for a packet. Each function of the source appends its layers and
calls the function for what follows; the two ends of a packet that the
functions pass on, the end of the enclosing datagram and the length of the
packet, are kept apart as in the source.

The functions call each other in cycles through tunnels. Where a tunnel goes
on with a frame or a datagram, the function is given what it calls (`recur`);
`appendLayers` closes the cycle. The calls of the functions whose name ends
in `_layers` are counted. A field of a layer has a value where the program has
its text: every kind of value has one text.
-/

namespace TrexWebui

open PyStr Octets PacketReader

/-! ## Layers -/

inductive FieldValue where
  /-- `str(n)` -/
  | number (n : Nat)
  /-- `f"0x{n:04x}"`, with as many digits as given. -/
  | hex (digits n : Nat)
  | text (s : String)
  | mac (octets : Bytes)
  | ipv4 (octets : Bytes)
  | ipv6 (octets : Bytes)
  /-- Labels decoded as ASCII, joined with points. -/
  | labels (labels : List Bytes)
  /-- Octets decoded as ASCII. -/
  | ascii (octets : Bytes)
  /-- `octets.hex()` -/
  | raw (octets : Bytes)
  /-- Numbers joined with commas. -/
  | listed (octets : Bytes)
  deriving DecidableEq

abbrev CaptureField := String × FieldValue

structure CaptureLayer where
  name : String
  fields : List CaptureField
  deriving DecidableEq

abbrev Decoder := Reader CaptureLayer

/-- `layers.append(_capture_layer(name, fields))` -/
def appendLayer (name : String) (fields : List CaptureField) : Decoder Unit := append ⟨name, fields⟩

/-- `_capture_layer` leaves out a field whose value is `None`. -/
def optionalField (name : String) (value : Option FieldValue) : List CaptureField :=
  (value.map fun v => (name, v)).toList

/-- What follows a tunnel header. -/
inductive LayerCall where
  | ethernet (offset packetEnd : Nat) (name : String)
  | ipv4 (offset : Nat) (packetEnd : Option Nat)
  | ipv6 (offset : Nat) (packetEnd : Option Nat)
  deriving DecidableEq

/-! ## Names -/

/-- `names.get(value, str(value))` -/
def nameOr (names : List (Nat × String)) (value : Nat) : FieldValue :=
  match names.lookup value with
  | some name => .text name
  | none => .number value

def ipProtocolName (protocol : Nat) (ipv6 : Bool) : FieldValue :=
  match [(1, "ICMP"), (4, "IPv4"), (6, "TCP"), (17, "UDP"), (41, "IPv6"), (47, "GRE"),
    (58, "ICMPv6"), (132, "SCTP")].lookup protocol with
  | some name => .text name
  | none => .text ((if ipv6 then "IPv6" else "IP") ++ s!" protocol {protocol}")

def flagNames (flags : List (String × Nat)) (value : Nat) : FieldValue :=
  let enabled := (flags.filter fun flag => value &&& flag.2 ≠ 0).map (·.1)
  .text (if enabled = [] then "-" else ", ".intercalate enabled)

def ipv4Flags (flagsFragment : Nat) : FieldValue :=
  flagNames [("Reserved", 0x8000), ("DF", 0x4000), ("MF", 0x2000)] flagsFragment

/-- `_tcp_flags` -/
def tcpFlagNames (value : Nat) : FieldValue :=
  flagNames [("URG", 0x20), ("ACK", 0x10), ("PSH", 0x08), ("RST", 0x04), ("SYN", 0x02), ("FIN", 0x01)]
    value

def sctpChunkName (chunkType : Nat) : FieldValue :=
  nameOr [(0, "DATA"), (1, "INIT"), (2, "INIT ACK"), (3, "SACK"), (4, "HEARTBEAT"),
    (5, "HEARTBEAT ACK"), (6, "ABORT"), (7, "SHUTDOWN"), (8, "SHUTDOWN ACK"), (9, "ERROR"),
    (10, "COOKIE ECHO"), (11, "COOKIE ACK"), (14, "SHUTDOWN COMPLETE")] chunkType

def icmpTypeName (icmpType : Nat) (ipv6 : Bool) : FieldValue :=
  if ipv6 then
    nameOr [(1, "Destination Unreachable"), (2, "Packet Too Big"), (3, "Time Exceeded"),
      (4, "Parameter Problem"), (128, "Echo Request"), (129, "Echo Reply"),
      (133, "Router Solicitation"), (134, "Router Advertisement"), (135, "Neighbor Solicitation"),
      (136, "Neighbor Advertisement")] icmpType
  else
    nameOr [(0, "Echo Reply"), (3, "Destination Unreachable"), (5, "Redirect"), (8, "Echo Request"),
      (11, "Time Exceeded"), (12, "Parameter Problem")] icmpType

def icmpv6OptionName (optionType : Nat) : FieldValue :=
  nameOr [(1, "Source Link-Layer Address"), (2, "Target Link-Layer Address"),
    (3, "Prefix Information")] optionType

def dnsQueryTypeName (queryType : Nat) : FieldValue :=
  nameOr [(1, "A"), (2, "NS"), (5, "CNAME"), (6, "SOA"), (12, "PTR"), (15, "MX"), (28, "AAAA"),
    (33, "SRV"), (255, "ANY")] queryType

def dnsQueryClassName (queryClass : Nat) : FieldValue :=
  nameOr [(1, "IN"), (3, "CH"), (4, "HS"), (255, "ANY")] queryClass

/-- `_bootp_operation_name` and `_arp_operation_name` -/
def operationName (operation : Nat) : FieldValue :=
  nameOr [(1, "request"), (2, "reply")] operation

def dhcpMessageTypeName (value : Nat) : FieldValue :=
  nameOr [(1, "Discover"), (2, "Offer"), (3, "Request"), (4, "Decline"), (5, "Ack"), (6, "Nak"),
    (7, "Release"), (8, "Inform")] value

def gtpuMessageTypeName (value : Nat) : String :=
  let label := ([(1, "Echo Request"), (2, "Echo Response"), (26, "Error Indication"),
    (31, "Supported Extension Headers Notification"), (254, "End Marker"),
    (255, "G-PDU")].lookup value).getD "Message"
  label ++ s!" ({value})"

/-- `_gtpu_extension_header_name` -/
def gtpuExtensionHeaderFields (extensionHeader : Nat) : List CaptureField :=
  -- The one name, `UDP Port (0x40)`, is for one value.
  if extensionHeader = 0x40 then [("Type", .text "UDP Port (0x40)")]
  else [("Type", .hex 2 extensionHeader)]

/-! ## Transport headers -/

/-- The options that are shown of the octets behind a TCP header. -/
def notedTcpOptions (options : Bytes) : ParsedTcpOptions :=
  (tcpOptionsOf 0 options).foldl ParsedTcpOptions.note {}

/-- `_tcp_options_from_packet`. The options are read from a copy, in which `walkTcpOptions` looks at
no octet beyond the end. -/
def decodedTcpOptions (offset : Nat) : Decoder ParsedTcpOptions := do
  let length ← size
  if length < offset + 20 then pure {}
  else do
    let first ← octet (offset + 12)
    let dataOffset := first / 16 * 4
    if dataOffset ≤ 20 ∨ 60 < dataOffset ∨ length < offset + dataOffset then pure {}
    else do
      let options ← octets (offset + 20) (dataOffset - 20)
      pure (notedTcpOptions options)

def tcpOptionFields (options : ParsedTcpOptions) : List CaptureField :=
  (options.mss.map fun option => ("Option MSS", FieldValue.number (be16At option.body 0))).toList
    ++ (if options.sackPermitted then [("Option SACK Permitted", .text "yes")] else [])
    ++ (match options.sack with
      | none => []
      | some option => [("Option SACK Left Edge", .number (be32At option.body 0)),
          ("Option SACK Right Edge", .number (be32At option.body 4))])
    ++ (match options.timestamp with
      | none => []
      | some option => [("Option Timestamp Value", .number (be32At option.body 0)),
          ("Option Timestamp Echo", .number (be32At option.body 4))])
    ++ (options.windowScale.map fun option =>
      ("Option Window Scale", FieldValue.number (octetAt option.body 0))).toList

def appendTcpLayer (offset packetEnd : Nat) : Decoder Unit := do
  let length ← size
  if length < offset + 20 then appendLayer "TCP" [("Status", .text "Truncated TCP")]
  else do
    let srcPort ← word offset
    let dstPort ← word (offset + 2)
    let first ← octet (offset + 12)
    let dataOffset := max 20 (first / 16 * 4)
    let options ← decodedTcpOptions offset
    let sequence ← word32 (offset + 4)
    let acknowledge ← word32 (offset + 8)
    let flags ← octet (offset + 13)
    let window ← word (offset + 14)
    let checksum ← word (offset + 16)
    let urgent ← word (offset + 18)
    appendLayer "TCP" ([("Source Port", .number srcPort), ("Destination Port", .number dstPort),
      ("Sequence", .number sequence), ("Acknowledge", .number acknowledge),
      ("Header Length", .number dataOffset), ("Flags", tcpFlagNames flags),
      ("Window", .number window), ("Checksum", .hex 4 checksum), ("Urgent Pointer", .number urgent),
      ("Payload Length", .number (packetEnd - offset - dataOffset))] ++ tcpOptionFields options)

def sctpChunkFields (chunkOffset packetEnd : Nat) : Decoder (List CaptureField) := do
  let length ← size
  if chunkOffset + 16 ≤ length then do
    let chunkType ← octet chunkOffset
    let chunkFlags ← octet (chunkOffset + 1)
    let chunkLength ← word (chunkOffset + 2)
    let fields := [("Chunk Type", sctpChunkName chunkType), ("Chunk Flags", FieldValue.hex 2 chunkFlags),
      ("Chunk Length", .number chunkLength)]
    if chunkType = 0 then do
      let tsn ← word32 (chunkOffset + 4)
      let streamId ← word (chunkOffset + 8)
      let streamSequence ← word (chunkOffset + 10)
      let payloadProtocol ← word32 (chunkOffset + 12)
      pure (fields ++ [("TSN", .number tsn), ("Stream ID", .number streamId),
        ("Stream Sequence", .number streamSequence), ("Payload Protocol ID", .number payloadProtocol),
        ("Payload Length",
          .number (min packetEnd (chunkOffset + chunkLength) - chunkOffset - 16))])
    else pure fields
  else pure []

def appendSctpLayer (offset packetEnd : Nat) : Decoder Unit := do
  let length ← size
  if length < offset + 12 then appendLayer "SCTP" [("Status", .text "Truncated SCTP")]
  else do
    let srcPort ← word offset
    let dstPort ← word (offset + 2)
    let verificationTag ← word32 (offset + 4)
    let checksum ← little32 (offset + 8)
    let chunk ← sctpChunkFields (offset + 12) packetEnd
    appendLayer "SCTP" ([("Source Port", .number srcPort), ("Destination Port", .number dstPort),
      ("Verification Tag", .hex 8 verificationTag), ("Checksum", .hex 8 checksum)] ++ chunk)

def icmpv6OptionDetail (optionType optionLength cursor : Nat) : Decoder (List CaptureField) :=
  if optionType ∈ [1, 2] ∧ 8 ≤ optionLength then do
    let address ← octets (cursor + 2) 6
    pure [("Option MAC", .mac address)]
  else if optionType = 3 ∧ 32 ≤ optionLength then do
    let prefixLength ← octet (cursor + 2)
    let prefixFlags ← octet (cursor + 3)
    let validLifetime ← word32 (cursor + 4)
    let preferredLifetime ← word32 (cursor + 8)
    let address ← octets (cursor + 16) 16
    pure [("Prefix Length", .number prefixLength), ("Prefix Flags", .hex 2 prefixFlags),
      ("Prefix Valid Lifetime", .number validLifetime),
      ("Prefix Preferred Lifetime", .number preferredLifetime), ("Prefix", .ipv6 address)]
  else pure []

/-- The loop of `_icmpv6_options_summary`, with the rounds that are left of sixteen. -/
def icmpv6OptionsLoop : (left cursor : Nat) → Decoder (List CaptureField)
  | 0, _ => pure [("Option", .text "too many options")]
  | left + 1, cursor => do
      let length ← size
      if length ≤ cursor then pure []
      else if length < cursor + 2 then pure [("Option", .text "truncated")]
      else do
        let optionType ← octet cursor
        let units ← octet (cursor + 1)
        if units = 0 then pure [("Option", .text s!"type {optionType} length 0")]
        else if length < cursor + units * 8 then
          pure [("Option", .text s!"type {optionType} truncated")]
        else do
          let detail ← icmpv6OptionDetail optionType (units * 8) cursor
          let rest ← icmpv6OptionsLoop left (cursor + units * 8)
          pure ([("Option Type", icmpv6OptionName optionType), ("Option Length", .number (units * 8))]
            ++ detail ++ rest)

/-- `_icmpv6_options_summary`; no fields where the source returns `None`. -/
def icmpv6OptionsSummary (offset : Nat) : Decoder (List CaptureField) := icmpv6OptionsLoop 16 offset

def icmpMessageFields (offset icmpType : Nat) (ipv6 : Bool) : Decoder (List CaptureField) := do
  let length ← size
  if icmpType ∈ [0, 8, 128, 129] ∧ offset + 8 ≤ length then do
    let identifier ← word (offset + 4)
    let sequence ← word (offset + 6)
    pure [("Identifier", .number identifier), ("Sequence", .number sequence)]
  else if ipv6 = true ∧ icmpType ∈ [135, 136] ∧ offset + 24 ≤ length then do
    let flags ← word32 (offset + 4)
    let target ← octets (offset + 8) 16
    let options ← icmpv6OptionsSummary (offset + 24)
    pure ([("Flags", .hex 8 flags), ("Target", .ipv6 target)] ++ options)
  else if ipv6 = true ∧ icmpType = 133 ∧ offset + 8 ≤ length then do
    let reserved ← word32 (offset + 4)
    let options ← icmpv6OptionsSummary (offset + 8)
    pure ([("Reserved", .hex 8 reserved)] ++ options)
  else if ipv6 = true ∧ icmpType = 134 ∧ offset + 16 ≤ length then do
    let hopLimit ← octet (offset + 4)
    let flags ← octet (offset + 5)
    let lifetime ← word (offset + 6)
    let reachable ← word32 (offset + 8)
    let retrans ← word32 (offset + 12)
    let options ← icmpv6OptionsSummary (offset + 16)
    pure ([("Current Hop Limit", .number hopLimit), ("Flags", .hex 2 flags),
      ("Router Lifetime", .number lifetime), ("Reachable Time", .number reachable),
      ("Retrans Timer", .number retrans)] ++ options)
  else pure []

def appendIcmpLayer (offset protocol : Nat) (ipv6 : Bool) : Decoder Unit := do
  let version6 := ipv6 || protocol = 58
  let name := if version6 then "ICMPv6" else "ICMP"
  let length ← size
  if length < offset + 4 then appendLayer name [("Status", .text ("Truncated " ++ name))]
  else do
    let icmpType ← octet offset
    let icmpCode ← octet (offset + 1)
    let checksum ← word (offset + 2)
    let message ← icmpMessageFields offset icmpType version6
    appendLayer name ([("Type", .number icmpType), ("Type Name", icmpTypeName icmpType version6),
      ("Code", .number icmpCode), ("Checksum", .hex 4 checksum)] ++ message)

/-! ## Address resolution -/

/-- The addresses of an ARP packet, where they are an Ethernet and an IPv4 address. -/
def arpAddressFields (offset hlen plen : Nat) : Decoder (List CaptureField) := do
  let length ← size
  if hlen = 6 ∧ plen = 4 ∧ offset + 8 + 2 * hlen + 2 * plen ≤ length then do
    let senderMac ← octets (offset + 8) hlen
    let senderIp ← octets (offset + 8 + hlen) plen
    let targetMac ← octets (offset + 8 + hlen + plen) hlen
    let targetIp ← octets (offset + 8 + hlen + plen + hlen) plen
    pure [("Sender MAC", .mac senderMac), ("Sender IP", .ipv4 senderIp),
      ("Target MAC", .mac targetMac), ("Target IP", .ipv4 targetIp)]
  else pure [("Status", .text "Unsupported ARP address sizes")]

def appendArpLayers (offset : Nat) : Decoder Unit := call do
  let length ← size
  if length < offset + 28 then appendLayer "ARP" [("Status", .text "Truncated ARP")]
  else do
    let hlen ← octet (offset + 4)
    let plen ← octet (offset + 5)
    let operation ← word (offset + 6)
    let hardwareType ← word offset
    let protocolType ← word (offset + 2)
    let addresses ← arpAddressFields offset hlen plen
    appendLayer "ARP" ([("Hardware Type", .number hardwareType), ("Protocol Type", .hex 4 protocolType),
      ("Hardware Size", .number hlen), ("Protocol Size", .number plen),
      ("Operation", operationName operation)] ++ addresses)

/-! ## Name service -/

/-- The loop of `_dns_query_summary`: the labels of a name and the offset behind it, or the text that
is shown instead. -/
def dnsNameLoop (packetEnd messageOffset : Nat) :
    (fuel : Nat) → (labels : List Bytes) → (cursor jumps : Nat) → (jumpReturn : Option Nat) →
      Decoder (Except String (List Bytes × Nat))
  | 0, _, _, _, _ => raise .rounds
  | fuel + 1, labels, cursor, jumps, jumpReturn =>
      if packetEnd ≤ cursor then pure (.ok (labels, jumpReturn.getD cursor))
      else do
        let labelLength ← octet cursor
        if labelLength = 0 then pure (.ok (labels, jumpReturn.getD (cursor + 1)))
        else if labelLength &&& 0xC0 = 0xC0 then
          if packetEnd ≤ cursor + 1 then pure (.error "truncated pointer")
          else do
            let low ← octet (cursor + 1)
            let pointer := messageOffset + ((labelLength &&& 0x3F) <<< 8 ||| low)
            if packetEnd ≤ pointer ∨ 4 ≤ jumps then pure (.error "invalid pointer")
            else
              dnsNameLoop packetEnd messageOffset fuel labels pointer (jumps + 1)
                (some (jumpReturn.getD (cursor + 2)))
        else if labelLength &&& 0xC0 ≠ 0 then pure (.error "invalid label")
        else if packetEnd < cursor + 1 + labelLength then pure (.error "truncated name")
        else do
          let label ← octets (cursor + 1) labelLength
          dnsNameLoop packetEnd messageOffset fuel (labels ++ [label]) (cursor + 1 + labelLength) jumps
            jumpReturn

/-- A name, with the type and the class that stand behind it where there is room. -/
structure DnsQuery where
  name : FieldValue
  queryType : Option FieldValue
  queryClass : Option FieldValue

def dnsQuerySummary (offset packetEnd messageOffset : Nat) : Decoder DnsQuery := do
  -- Five runs over the message: four pointers are followed.
  let name ← dnsNameLoop packetEnd messageOffset (5 * (packetEnd + 1)) [] offset 0 none
  match name with
  | .error text => pure ⟨.text text, none, none⟩
  | .ok (labels, queryEnd) =>
      if packetEnd < queryEnd + 4 then pure ⟨.labels labels, none, none⟩
      else do
        let queryType ← word queryEnd
        let queryClass ← word (queryEnd + 2)
        pure ⟨.labels labels, some (dnsQueryTypeName queryType), some (dnsQueryClassName queryClass)⟩

/-- The loop of `_dns_name_end_offset`, on the octets from `base` up to the end. -/
def dnsNameEndLoop (base packetEnd : Nat) : (fuel offset : Nat) → Decoder (Option Nat)
  | 0, _ => raise .rounds
  | fuel + 1, offset =>
      if packetEnd ≤ base + offset then pure none
      else do
        let labelLength ← octet (base + offset)
        if labelLength &&& 0xC0 = 0xC0 then
          pure (if base + offset + 2 ≤ packetEnd then some (offset + 2) else none)
        else if labelLength = 0 then pure (some (offset + 1))
        else if 63 < labelLength ∨ packetEnd < base + offset + 1 + labelLength then pure none
        else dnsNameEndLoop base packetEnd fuel (offset + 1 + labelLength)

/-- `_dns_name_end_offset(packet[base:packet_end], offset)` -/
def dnsNameEndOffset (base packetEnd offset : Nat) : Decoder (Option Nat) :=
  dnsNameEndLoop base packetEnd (packetEnd + 1) offset

/-- The first answer, whose name begins at `offset + answerOffset`. -/
def dnsAnswerFields (offset packetEnd answerOffset : Nat) : Decoder (List CaptureField) := do
  let answerNameEnd ← dnsNameEndOffset offset packetEnd answerOffset
  match answerNameEnd with
  | none => pure []
  | some nameEnd =>
      if offset + nameEnd + 10 ≤ packetEnd then do
        let answerType ← word (offset + nameEnd)
        let answerClass ← word (offset + nameEnd + 2)
        let answerTtl ← word32 (offset + nameEnd + 4)
        let answerLength ← word (offset + nameEnd + 8)
        let fields := [("Answer Type", dnsQueryTypeName answerType),
          ("Answer Class", dnsQueryClassName answerClass), ("Answer TTL", FieldValue.number answerTtl),
          ("Answer Length", .number answerLength)]
        if answerType = 1 ∧ answerLength = 4 ∧ offset + nameEnd + 10 + 4 ≤ packetEnd then do
          let address ← octets (offset + nameEnd + 10) 4
          pure (fields ++ [("Answer IPv4", .ipv4 address)])
        else pure fields
      else pure []

/-- The first answer of a message, where it counts one and its question ends before the message. -/
def dnsFirstAnswer (offset packetEnd ancount : Nat) (questionNameEnd : Option Nat) :
    Decoder (List CaptureField) :=
  match questionNameEnd with
  | none => pure []
  | some nameEnd =>
      if 1 ≤ ancount ∧ offset + nameEnd + 4 < packetEnd then
        dnsAnswerFields offset packetEnd (nameEnd + 4)
      else pure []

def appendDnsLayer (offset packetEnd : Nat) : Decoder Unit :=
  if packetEnd < offset + 12 then appendLayer "DNS" [("Status", .text "Truncated DNS")]
  else do
    let transactionId ← word offset
    let flags ← word (offset + 2)
    let qdcount ← word (offset + 4)
    let ancount ← word (offset + 6)
    let nscount ← word (offset + 8)
    let arcount ← word (offset + 10)
    let query ← dnsQuerySummary (offset + 12) packetEnd offset
    let questionNameEnd ← dnsNameEndOffset offset packetEnd 12
    let answer ← dnsFirstAnswer offset packetEnd ancount questionNameEnd
    appendLayer "DNS" ([("Transaction ID", .hex 4 transactionId), ("Flags", .hex 4 flags),
      ("QR", .text (if flags &&& 0x8000 ≠ 0 then "response" else "query")),
      ("Opcode", .number (flags >>> 11 &&& 0x0F)), ("Response Code", .number (flags &&& 0x0F)),
      ("Questions", .number qdcount), ("Answers", .number ancount), ("Authority RRs", .number nscount),
      ("Additional RRs", .number arcount), ("Query Name", query.name)]
      ++ optionalField "Query Type" query.queryType ++ optionalField "Query Class" query.queryClass
      ++ answer)

/-! ## Host configuration -/

/-- `b"\x63\x82\x53\x63"` -/
def dhcpMagicCookie : Bytes := [0x63, 0x82, 0x53, 0x63]

def dhcpOptionFields (option : Nat) (value : Bytes) : List CaptureField :=
  if option = 53 ∧ 1 ≤ value.length then [("Message Type", dhcpMessageTypeName (octetAt value 0))]
  else if option = 12 then [("Hostname", .ascii value)]
  else if option = 50 ∧ value.length = 4 then [("Requested IP", .ipv4 value)]
  else if option = 54 ∧ value.length = 4 then [("Server ID", .ipv4 value)]
  else if option = 55 then [("Parameter Request List", .listed value)]
  else if option = 51 ∧ value.length = 4 then [("Lease Time", .number (be32At value 0))]
  else if option = 58 ∧ value.length = 4 then [("Renewal Time", .number (be32At value 0))]
  else if option = 59 ∧ value.length = 4 then [("Rebinding Time", .number (be32At value 0))]
  else []

/-- The loop of `_dhcp_option_summary`. -/
def dhcpOptionLoop (packetEnd : Nat) : (fuel cursor : Nat) → Decoder (List CaptureField)
  | 0, _ => raise .rounds
  | fuel + 1, cursor =>
      if packetEnd ≤ cursor then pure []
      else do
        let option ← octet cursor
        if option = 255 then pure []
        else if option = 0 then dhcpOptionLoop packetEnd fuel (cursor + 1)
        else if packetEnd ≤ cursor + 1 then pure [("Option", .text s!"{option} truncated")]
        else do
          let length ← octet (cursor + 1)
          if packetEnd < cursor + 2 + length then pure [("Option", .text s!"{option} truncated")]
          else do
            let value ← octets (cursor + 2) length
            let rest ← dhcpOptionLoop packetEnd fuel (cursor + 2 + length)
            pure (dhcpOptionFields option value ++ rest)

def dhcpOptionSummary (offset packetEnd : Nat) : Decoder (List CaptureField) :=
  dhcpOptionLoop packetEnd (packetEnd + 1) offset

def dhcpOptionalFields (magic : Bytes) (offset packetEnd : Nat) : Decoder (List CaptureField) :=
  if magic = dhcpMagicCookie then dhcpOptionSummary offset packetEnd
  else pure [("Status", .text "Missing DHCP magic cookie")]

def appendDhcpLayer (offset packetEnd : Nat) : Decoder Unit :=
  if packetEnd < offset + 240 then appendLayer "DHCP" [("Status", .text "Truncated DHCP")]
  else do
    let magic ← octets (offset + 236) 4
    let operation ← octet offset
    let hardwareType ← octet (offset + 1)
    let hardwareSize ← octet (offset + 2)
    let hops ← octet (offset + 3)
    let transactionId ← word32 (offset + 4)
    let seconds ← word (offset + 8)
    let flags ← word (offset + 10)
    let clientIp ← octets (offset + 12) 4
    let yourIp ← octets (offset + 16) 4
    let serverIp ← octets (offset + 20) 4
    let relayIp ← octets (offset + 24) 4
    let clientMac ← octets (offset + 28) 6
    let options ← dhcpOptionalFields magic (offset + 240) packetEnd
    appendLayer "DHCP" ([("Operation", operationName operation), ("Hardware Type", .number hardwareType),
      ("Hardware Size", .number hardwareSize), ("Hops", .number hops),
      ("Transaction ID", .hex 8 transactionId), ("Seconds", .number seconds), ("Flags", .hex 4 flags),
      ("Client IP", .ipv4 clientIp), ("Your IP", .ipv4 yourIp), ("Server IP", .ipv4 serverIp),
      ("Relay IP", .ipv4 relayIp), ("Client MAC", .mac clientMac), ("Magic Cookie", .raw magic)]
      ++ options)

end TrexWebui
