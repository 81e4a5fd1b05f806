import TrexWebui.OctetWrites
import TrexWebui.PacketBuild

/-!
# Reading a raw packet

The parsers of `rawPacketModel.ts` that find the headers of a packet: the link
layer, the internet header and its options, UDP, GRE and GTP-U. A place beyond
the end reads as zero.
-/

namespace TrexWebui

open PyStr Octets

/-! ## Places -/

def rawPacketWord (bytes : Bytes) (offset : Nat) : Nat := be16At bytes offset

def rawPacketHasBytes (bytes : Bytes) (offset length : Nat) : Prop :=
  0 < length ∧ offset + length ≤ bytes.length

instance (bytes : Bytes) (offset length : Nat) : Decidable (rawPacketHasBytes bytes offset length) :=
  inferInstanceAs (Decidable (_ ∧ _))

/-! ## The internet headers -/

def rawIpv6ExtensionHeaderLength (bytes : Bytes) (header offset : Nat) : Option Nat :=
  if header = 44 then
    if rawPacketHasBytes bytes offset 8 then some 8 else none
  else if header = 51 then
    if ¬rawPacketHasBytes bytes offset 12 then none
    else
      let ahLength := (octetAt bytes (offset + 1) + 2) * 4
      if 12 ≤ ahLength ∧ rawPacketHasBytes bytes offset ahLength then some ahLength else none
  else if header = 0 ∨ header = 43 ∨ header = 60 ∨ header = 135 then
    if ¬rawPacketHasBytes bytes offset 8 then none
    else
      let extensionLength := (octetAt bytes (offset + 1) + 1) * 8
      if 8 ≤ extensionLength ∧ rawPacketHasBytes bytes offset extensionLength then
        some extensionLength
      else none
  else none

def rawIpv4HeaderLengthAt (bytes : Bytes) (offset : Nat) : Option Nat :=
  if ¬rawPacketHasBytes bytes offset 20 ∨ octetAt bytes offset / 16 ≠ 4 then none
  else
    let headerLength := octetAt bytes offset % 16 * 4
    if headerLength < 20 ∨ 60 < headerLength ∨ ¬rawPacketHasBytes bytes offset headerLength then none
    else some headerLength

def rawPacketIpv4IsFragmented (bytes : Bytes) (ipv4Offset : Nat) : Prop :=
  rawPacketWord bytes (ipv4Offset + 6) &&& 0x3FFF ≠ 0

instance (bytes : Bytes) (offset : Nat) : Decidable (rawPacketIpv4IsFragmented bytes offset) :=
  inferInstanceAs (Decidable (_ ≠ _))

def rawIpv4PacketEnd (bytes : Bytes) (ipv4Offset headerLength : Nat) : Nat :=
  let totalLength := rawPacketWord bytes (ipv4Offset + 2)
  if headerLength ≤ totalLength ∧ rawPacketHasBytes bytes ipv4Offset totalLength then
    ipv4Offset + totalLength
  else bytes.length

def rawIpv6PacketEnd (bytes : Bytes) (ipv6Offset : Nat) : Nat :=
  if ¬rawPacketHasBytes bytes ipv6Offset 40 then bytes.length
  else
    let payloadLength := rawPacketWord bytes (ipv6Offset + 4)
    if 0 < payloadLength ∧ rawPacketHasBytes bytes ipv6Offset (40 + payloadLength) then
      ipv6Offset + 40 + payloadLength
    else bytes.length

/-- A header inside an IPv6 packet, and where the packet ends. -/
structure RawPacketL4Target where
  limit : Nat
  offset : Nat
deriving DecidableEq

/-- The loop of `rawPacketIpv6L4Offset` over the extension headers. -/
def rawPacketIpv6L4Loop (bytes : Bytes) (protocol limit : Nat) :
    (rounds nextHeader offset : Nat) → Option RawPacketL4Target
  | 0, _, _ => none
  | rounds + 1, nextHeader, offset =>
      if nextHeader = protocol then
        if rawPacketHasBytes bytes offset 1 ∧ offset < limit then some ⟨limit, offset⟩ else none
      else
        match rawIpv6ExtensionHeaderLength bytes nextHeader offset with
        | none => none
        | some extensionLength =>
            if limit < offset + extensionLength then none
            else rawPacketIpv6L4Loop bytes protocol limit rounds (octetAt bytes offset)
              (offset + extensionLength)

def rawPacketIpv6L4Offset (bytes : Bytes) (ipv6Offset protocol : Nat) : Option RawPacketL4Target :=
  if ¬rawPacketHasBytes bytes ipv6Offset 40 ∨ octetAt bytes ipv6Offset / 16 ≠ 6 then none
  else
    rawPacketIpv6L4Loop bytes protocol (rawIpv6PacketEnd bytes ipv6Offset) 8
      (octetAt bytes (ipv6Offset + 6)) (ipv6Offset + 40)

/-! ## The link layer -/

/-- What `rawPacketEthernetL3Target` finds. -/
structure RawPacketL3Target where
  etherType : Nat
  l3Offset : Nat
deriving DecidableEq

def rawPacketVlanLoop (bytes : Bytes) : (rounds : Nat) → RawPacketL3Target → RawPacketL3Target
  | 0, target => target
  | rounds + 1, target =>
      if (target.etherType = 0x8100 ∨ target.etherType = 0x88A8 ∨ target.etherType = 0x9100
          ∨ target.etherType = 0x9200) ∧ rawPacketHasBytes bytes target.l3Offset 4 then
        rawPacketVlanLoop bytes rounds ⟨rawPacketWord bytes (target.l3Offset + 2), target.l3Offset + 4⟩
      else target

/-- The loop over the MPLS labels, down to the bottom of the stack. -/
def rawPacketMplsLoop (bytes : Bytes) : (rounds l3Offset : Nat) → Nat
  | 0, l3Offset => l3Offset
  | rounds + 1, l3Offset =>
      if rawPacketHasBytes bytes l3Offset 4 then
        if octetAt bytes (l3Offset + 2) % 2 = 1 then l3Offset + 4
        else rawPacketMplsLoop bytes rounds (l3Offset + 4)
      else l3Offset

def rawPacketEthernetL3Target (bytes : Bytes) (ethernetOffset : Nat) : Option RawPacketL3Target :=
  if ¬rawPacketHasBytes bytes ethernetOffset 14 then none
  else
    let tagged := rawPacketVlanLoop bytes 4
      ⟨rawPacketWord bytes (ethernetOffset + 12), ethernetOffset + 14⟩
    if (tagged.etherType = 0x8847 ∨ tagged.etherType = 0x8848)
        ∧ rawPacketHasBytes bytes tagged.l3Offset 4 then
      let l3Offset := rawPacketMplsLoop bytes 8 tagged.l3Offset
      let version := octetAt bytes l3Offset / 16
      some ⟨if version = 4 then 0x0800 else if version = 6 then 0x86DD else tagged.etherType, l3Offset⟩
    else some tagged

/-! ## What a datagram carries -/

def rawPacketTcpHeaderOffset (bytes : Bytes) (tcpOffset limit : Nat) : Option Nat :=
  if ¬rawPacketHasBytes bytes tcpOffset 20 then none
  else
    let headerLength := octetAt bytes (tcpOffset + 12) / 16 * 4
    if headerLength < 20 ∨ 60 < headerLength ∨ ¬rawPacketHasBytes bytes tcpOffset headerLength then
      none
    else if limit < tcpOffset + headerLength then none
    else some tcpOffset

/-- What `rawPacketUdpTarget` finds. -/
structure RawPacketUdpTarget where
  destinationPort : Nat
  endOffset : Nat
  payloadOffset : Nat
  sourcePort : Nat
deriving DecidableEq

def rawPacketUdpTarget (bytes : Bytes) (udpOffset limit : Nat) : Option RawPacketUdpTarget :=
  if ¬rawPacketHasBytes bytes udpOffset 8 ∨ limit < udpOffset + 8 then none
  else
    let length := rawPacketWord bytes (udpOffset + 4)
    let endOffset := if length = 0 then limit else udpOffset + length
    if limit < endOffset ∨ bytes.length < endOffset ∨ endOffset < udpOffset + 8 then none
    else some ⟨rawPacketWord bytes (udpOffset + 2), endOffset, udpOffset + 8,
      rawPacketWord bytes udpOffset⟩

/-- What `rawPacketGrePayloadTarget` finds. -/
structure RawPacketGrePayloadTarget where
  payloadOffset : Nat
  protocolType : Nat
deriving DecidableEq

/-- An optional field of a GRE header, which is there when the header has its flag. -/
def greOptionalField (bytes : Bytes) (flag : Prop) [Decidable flag] (payloadOffset : Nat) :
    Option Nat :=
  if flag then
    if ¬rawPacketHasBytes bytes payloadOffset 4 then none else some (payloadOffset + 4)
  else some payloadOffset

def rawPacketGrePayloadTarget (bytes : Bytes) (greOffset : Nat) : Option RawPacketGrePayloadTarget :=
  if ¬rawPacketHasBytes bytes greOffset 4 then none
  else
    let flags := rawPacketWord bytes greOffset
    if flags &&& 0x4000 ≠ 0 ∨ flags &&& 0x0007 ≠ 0 then none
    else do
      let afterChecksum ← greOptionalField bytes (flags &&& 0x8000 ≠ 0) (greOffset + 4)
      let afterKey ← greOptionalField bytes (flags &&& 0x2000 ≠ 0) afterChecksum
      let payloadOffset ← greOptionalField bytes (flags &&& 0x1000 ≠ 0) afterKey
      return ⟨payloadOffset, rawPacketWord bytes (greOffset + 2)⟩

def rawPacketGtpuLoop (bytes : Bytes) (messageEnd : Nat) :
    (rounds nextExtensionHeader payloadOffset : Nat) → Option Nat
  | 0, _, payloadOffset => some payloadOffset
  | rounds + 1, nextExtensionHeader, payloadOffset =>
      if nextExtensionHeader = 0 then some payloadOffset
      else if ¬rawPacketHasBytes bytes payloadOffset 1 ∨ messageEnd < payloadOffset + 1 then none
      else
        let extensionByteLength := octetAt bytes payloadOffset * 4
        if extensionByteLength < 4 ∨ ¬rawPacketHasBytes bytes payloadOffset extensionByteLength
            ∨ messageEnd < payloadOffset + extensionByteLength then none
        else rawPacketGtpuLoop bytes messageEnd rounds
          (octetAt bytes (payloadOffset + extensionByteLength - 1))
          (payloadOffset + extensionByteLength)

/-- The optional fields of a GTP-U header: the type of the first extension header, and where it is. -/
def rawPacketGtpuOptionalFields (bytes : Bytes) (flags payloadOffset messageEnd : Nat) :
    Option (Nat × Nat) :=
  if flags &&& 0x07 ≠ 0 then
    if ¬rawPacketHasBytes bytes payloadOffset 4 ∨ messageEnd < payloadOffset + 4 then none
    else some (octetAt bytes (payloadOffset + 3), payloadOffset + 4)
  else some (0, payloadOffset)

def rawPacketGtpuPayloadOffset (bytes : Bytes) (gtpuOffset limit : Nat) : Option Nat :=
  if ¬rawPacketHasBytes bytes gtpuOffset 8 ∨ limit < gtpuOffset + 8 then none
  else
    let flags := octetAt bytes gtpuOffset
    if flags / 32 ≠ 1 ∨ flags &&& 0x10 = 0 then none
    else
      let messageLength := rawPacketWord bytes (gtpuOffset + 2)
      let messageEnd := if messageLength = 0 then limit else gtpuOffset + 8 + messageLength
      if limit < messageEnd ∨ bytes.length < messageEnd then none
      else do
        let (nextExtensionHeader, first) ←
          rawPacketGtpuOptionalFields bytes flags (gtpuOffset + 8) messageEnd
        let payloadOffset ← rawPacketGtpuLoop bytes messageEnd 8 nextExtensionHeader first
        if payloadOffset < messageEnd then some payloadOffset else none

end TrexWebui
