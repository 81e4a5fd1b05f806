import TrexWebui.RawPacketWalks

/-!
# Repairing the checksums of a raw packet

`repairRawPacketChecksums` runs over the packet six times: IPv4 headers, ICMP,
SCTP, TCP and UDP, GRE, and TCP and UDP again. Each pass finds its checksums in
the packet as the pass before left it.
-/

namespace TrexWebui

open PyStr Octets InternetChecksum

/-! ## Sums -/

/-- `while (sum > 0xffff) sum = (sum & 0xffff) + (sum >>> 16)` -/
def foldCarriesLoop : (fuel sum : Nat) → Nat
  | 0, sum => sum
  | fuel + 1, sum =>
      if 0xFFFF < sum then foldCarriesLoop fuel (sum % 0x10000 + sum / 0x10000) else sum

def foldCarries (sum : Nat) : Nat := foldCarriesLoop sum sum

/-- `rawChecksumAddBytes`: the octet after a segment of odd length is read, too. -/
def rawChecksumAddBytes (bytes : Bytes) (start length initial : Nat) (skipOffset : Option Nat) : Nat :=
  (List.range ((length + 1) / 2)).foldl
    (fun sum i =>
      let absoluteOffset := start + 2 * i
      let word := if skipOffset = some absoluteOffset then 0 else be16At bytes absoluteOffset
      foldCarries (sum + word))
    initial

/-- `(~sum) & 0xffff` -/
def complement (sum : Nat) : Nat := 0xFFFF - sum % 0x10000

def rawIpv4HeaderChecksum (bytes : Bytes) (offset headerLength : Nat) : Nat :=
  complement ((List.range ((headerLength + 1) / 2)).foldl
    (fun sum i =>
      let cursor := 2 * i
      if cursor = 10 then sum else foldCarries (sum + be16At bytes (offset + cursor)))
    0)

/-- The sum over the pseudo header of an IPv6 datagram, its carries not folded yet. -/
def rawIpv6PseudoHeaderSum (bytes : Bytes) (ipOffset length protocol : Nat) : Nat :=
  rawChecksumAddBytes bytes (ipOffset + 8) 32 0 none + length / 0x10000 % 0x10000
    + length % 0x10000 + protocol

def rawTransportChecksum (bytes : Bytes) (target : RawPacketTransportChecksumTarget) : Nat :=
  let pseudoHeader := match target.ipVersion with
    | .ipv4 => rawChecksumAddBytes bytes (target.ipOffset + 12) 8 0 none + target.protocol + target.length
    | .ipv6 => rawIpv6PseudoHeaderSum bytes target.ipOffset target.length target.protocol
  let sum := rawChecksumAddBytes bytes target.l4Offset target.length (foldCarries pseudoHeader)
    (some target.checksumOffset)
  let checksum := complement sum
  if target.protocol = 17 ∧ checksum = 0 then 0xFFFF else checksum

def rawIcmpChecksum (bytes : Bytes) (target : RawPacketIcmpChecksumTarget) : Nat :=
  let sum := match target.ipVersion with
    | .ipv4 => 0
    | .ipv6 => foldCarries (rawIpv6PseudoHeaderSum bytes target.ipOffset target.length 58)
  complement (rawChecksumAddBytes bytes target.icmpOffset target.length sum
    (some target.checksumOffset))

def rawSctpCrc32c (bytes : Bytes) (target : RawPacketSctpChecksumTarget) : UInt32 :=
  ~~~(List.range target.length).foldl
    (fun crc cursor =>
      let offset := target.sctpOffset + cursor
      let octet : UInt8 :=
        if target.checksumOffset ≤ offset ∧ offset < target.checksumOffset + 4 then 0
        else bytes.getD offset 0
      crcOctet crc octet)
    0xFFFFFFFF

def rawGreChecksum (bytes : Bytes) (target : RawPacketGreChecksumTarget) : Nat :=
  complement (rawChecksumAddBytes bytes target.greOffset target.length 0
    (some target.checksumOffset))

/-! ## Passes -/

def writeChecksum (repaired : Bytes) (checksumOffset : Nat) (checksum : Bytes) : Bytes :=
  if rawPacketHasBytes repaired checksumOffset checksum.length then
    overwrite repaired checksumOffset checksum
  else repaired

def repairIpv4 (repaired : Bytes) (offset : Nat) : Bytes :=
  match rawIpv4HeaderLengthAt repaired offset with
  | none => repaired
  | some headerLength =>
      writeChecksum repaired (offset + 10) (be16 (rawIpv4HeaderChecksum repaired offset headerLength))

def repairRawPacketIpv4Checksums (bytes : Bytes) : Bytes :=
  (collectRawPacketIpv4HeaderOffsets bytes).foldl repairIpv4 bytes

def repairSctp (repaired : Bytes) (target : RawPacketSctpChecksumTarget) : Bytes :=
  writeChecksum repaired target.checksumOffset (le32 (rawSctpCrc32c repaired target).toNat)

def repairRawPacketSctpChecksums (bytes : Bytes) : Bytes :=
  (collectRawPacketSctpChecksumTargets bytes).foldl repairSctp bytes

def repairIcmp (repaired : Bytes) (target : RawPacketIcmpChecksumTarget) : Bytes :=
  writeChecksum repaired target.checksumOffset (be16 (rawIcmpChecksum repaired target))

def repairRawPacketIcmpChecksums (bytes : Bytes) : Bytes :=
  (collectRawPacketIcmpChecksumTargets bytes).foldl repairIcmp bytes

def repairGre (repaired : Bytes) (target : RawPacketGreChecksumTarget) : Bytes :=
  writeChecksum repaired target.checksumOffset (be16 (rawGreChecksum repaired target))

def repairRawPacketGreChecksums (bytes : Bytes) : Bytes :=
  (collectRawPacketGreChecksumTargets bytes).foldl repairGre bytes

def repairTransport (repaired : Bytes) (target : RawPacketTransportChecksumTarget) : Bytes :=
  writeChecksum repaired target.checksumOffset (be16 (rawTransportChecksum repaired target))

def repairRawPacketTransportChecksums (bytes : Bytes) : Bytes :=
  (collectRawPacketTransportChecksumTargets bytes).foldl repairTransport bytes

def repairRawPacketChecksums (bytes : Bytes) : Bytes :=
  let withIpv4 := repairRawPacketIpv4Checksums bytes
  let withIcmp := repairRawPacketIcmpChecksums withIpv4
  let withSctp := repairRawPacketSctpChecksums withIcmp
  let withTransport := repairRawPacketTransportChecksums withSctp
  let withGre := repairRawPacketGreChecksums withTransport
  repairRawPacketTransportChecksums withGre

end TrexWebui
