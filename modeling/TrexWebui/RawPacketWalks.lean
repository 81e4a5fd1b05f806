import TrexWebui.RawPacketModel

/-!
# Walking a raw packet

The checksums of a raw packet are found by walks from the outer header through
VXLAN, GTP-U and GRE. Four of the walks of `rawPacketModel.ts` differ in what
they add at a header and in where they stop, and are one walk here with these as
parameters. The walk for the IPv4 headers is another function: it goes through
one tunnel only.
-/

namespace TrexWebui

open PyStr Octets

/-! ## Headers -/

/-- An internet header that a walk reaches. -/
structure RawIpHeader where
  ipVersion : IpVersion
  ipOffset : Nat
deriving DecidableEq

/-- What an internet header is followed by. -/
structure RawL4Header where
  ipVersion : IpVersion
  ipOffset : Nat
  protocol : Nat
  l4Offset : Nat
  limit : Nat
deriving DecidableEq

/-- The header that `processIpv4` goes on with: none in a fragment or in a packet cut short. -/
def processIpv4 (bytes : Bytes) (ipv4Offset : Nat) : List RawL4Header :=
  match rawIpv4HeaderLengthAt bytes ipv4Offset with
  | none => []
  | some headerLength =>
      if rawPacketIpv4IsFragmented bytes ipv4Offset then []
      else
        let totalLength := rawPacketWord bytes (ipv4Offset + 2)
        if totalLength < headerLength ∨ ¬rawPacketHasBytes bytes ipv4Offset totalLength then []
        else [⟨.ipv4, ipv4Offset, octetAt bytes (ipv4Offset + 9), ipv4Offset + headerLength,
          ipv4Offset + totalLength⟩]

/-- The headers that `processIpv6` goes on with, for the protocols that the walk looks for. -/
def processIpv6 (bytes : Bytes) (protocols : List Nat) (ipv6Offset : Nat) : List RawL4Header :=
  if ¬rawPacketHasBytes bytes ipv6Offset 40 ∨ octetAt bytes ipv6Offset / 16 ≠ 6 then []
  else protocols.filterMap fun protocol =>
    (rawPacketIpv6L4Offset bytes ipv6Offset protocol).map fun target =>
      ⟨.ipv6, ipv6Offset, protocol, target.offset, target.limit⟩

def processIp (bytes : Bytes) (protocols : List Nat) (ip : RawIpHeader) : List RawL4Header :=
  match ip.ipVersion with
  | .ipv4 => processIpv4 bytes ip.ipOffset
  | .ipv6 => processIpv6 bytes protocols ip.ipOffset

/-! ## Tunnels -/

def processGre (bytes : Bytes) (greOffset : Nat) : List RawIpHeader :=
  match rawPacketGrePayloadTarget bytes greOffset with
  | none => []
  | some gre =>
      if gre.protocolType = 0x0800 then [⟨.ipv4, gre.payloadOffset⟩]
      else if gre.protocolType = 0x86DD then [⟨.ipv6, gre.payloadOffset⟩]
      else []

def RawPacketUdpTarget.hasPort (udp : RawPacketUdpTarget) (port : Nat) : Prop :=
  udp.sourcePort = port ∨ udp.destinationPort = port

instance (udp : RawPacketUdpTarget) (port : Nat) : Decidable (udp.hasPort port) :=
  inferInstanceAs (Decidable (_ ∨ _))

def RawPacketUdpTarget.isVxlan (udp : RawPacketUdpTarget) : Prop := udp.hasPort 4789 ∨ udp.hasPort 8472

instance (udp : RawPacketUdpTarget) : Decidable udp.isVxlan := inferInstanceAs (Decidable (_ ∨ _))

def RawPacketUdpTarget.isGtpu (udp : RawPacketUdpTarget) : Prop := udp.hasPort 2152

instance (udp : RawPacketUdpTarget) : Decidable udp.isGtpu :=
  inferInstanceAs (Decidable (udp.hasPort 2152))

def ethernetHeader (bytes : Bytes) (ethernetOffset : Nat) : List RawIpHeader :=
  match rawPacketEthernetL3Target bytes ethernetOffset with
  | none => []
  | some l3 =>
      if l3.etherType = 0x0800 then [⟨.ipv4, l3.l3Offset⟩]
      else if l3.etherType = 0x86DD then [⟨.ipv6, l3.l3Offset⟩]
      else []

def gtpuHeader (bytes : Bytes) (udp : RawPacketUdpTarget) : List RawIpHeader :=
  match rawPacketGtpuPayloadOffset bytes udp.payloadOffset udp.endOffset with
  | none => []
  | some payloadOffset =>
      let version := octetAt bytes payloadOffset / 16
      if version = 4 then [⟨.ipv4, payloadOffset⟩]
      else if version = 6 then [⟨.ipv6, payloadOffset⟩]
      else []

def processUdpTunnels (bytes : Bytes) (udpOffset limit : Nat) : List RawIpHeader :=
  match rawPacketUdpTarget bytes udpOffset limit with
  | none => []
  | some udp =>
      (if udp.isVxlan then ethernetHeader bytes (udp.payloadOffset + 8) else [])
        ++ if udp.isGtpu then gtpuHeader bytes udp else []

/-- The headers inside the tunnel that `header` opens. -/
def innerHeaders (bytes : Bytes) (header : RawL4Header) : List RawIpHeader :=
  if header.protocol = 47 then processGre bytes header.l4Offset
  else if header.protocol = 17 then processUdpTunnels bytes header.l4Offset header.limit
  else []

/-- The header is not a UDP header that has both a VXLAN and a GTP-U port. -/
def SinglePort (bytes : Bytes) (header : RawL4Header) : Prop :=
  header.protocol = 17 → ∀ udp, rawPacketUdpTarget bytes header.l4Offset header.limit = some udp →
    ¬(udp.isVxlan ∧ udp.isGtpu)

/-! ## The walk -/

/-- What a walk looks for: the protocols it asks for behind IPv6, in its order, what it adds at an
internet header and at the header behind it, and whether it goes on from there. -/
structure Collector (τ : Type) where
  protocols : List Nat
  addIp : Bytes → RawIpHeader → List τ := fun _ _ => []
  add : Bytes → RawL4Header → List τ
  follows : Bytes → RawL4Header → Bool := fun _ _ => true

namespace Collector

variable {τ : Type} (c : Collector τ)

/-- The walk from an internet header. A tunnel is longer than nothing, so `fuel` does not run out:
see `process_fuel`. -/
def process (bytes : Bytes) : (fuel : Nat) → RawIpHeader → List τ
  | 0, _ => []
  | fuel + 1, ip =>
      c.addIp bytes ip ++ (processIp bytes c.protocols ip).flatMap fun header =>
        c.add bytes header
          ++ if c.follows bytes header then (innerHeaders bytes header).flatMap (process bytes fuel)
             else []

def collect (bytes : Bytes) : List τ :=
  (ethernetHeader bytes 0).flatMap (c.process bytes (bytes.length + 1))

end Collector

/-! ## Targets -/

structure RawPacketTransportChecksumTarget where
  checksumOffset : Nat
  ipOffset : Nat
  ipVersion : IpVersion
  l4Offset : Nat
  length : Nat
  protocol : Nat
deriving DecidableEq

structure RawPacketIcmpChecksumTarget where
  checksumOffset : Nat
  icmpOffset : Nat
  ipOffset : Nat
  ipVersion : IpVersion
  length : Nat
deriving DecidableEq

structure RawPacketSctpChecksumTarget where
  checksumOffset : Nat
  length : Nat
  sctpOffset : Nat
deriving DecidableEq

structure RawPacketGreChecksumTarget where
  checksumOffset : Nat
  greOffset : Nat
  length : Nat
deriving DecidableEq

/-- `addIcmpTarget`, at a header of the protocol ICMP. -/
def addIcmpTarget (bytes : Bytes) (header : RawL4Header) : List RawPacketIcmpChecksumTarget :=
  let icmp := match header.ipVersion with
    | .ipv4 => 1
    | .ipv6 => 58
  if header.protocol ≠ icmp then []
  else if bytes.length < header.limit ∨ header.limit < header.l4Offset + 4
      ∨ ¬rawPacketHasBytes bytes header.l4Offset 4 then []
  else [⟨header.l4Offset + 2, header.l4Offset, header.ipOffset, header.ipVersion,
    header.limit - header.l4Offset⟩]

/-- `addSctpTarget`, at a header of the protocol SCTP. -/
def addSctpTarget (bytes : Bytes) (header : RawL4Header) : List RawPacketSctpChecksumTarget :=
  if header.protocol ≠ 132 then []
  else if bytes.length < header.limit ∨ header.limit < header.l4Offset + 12
      ∨ ¬rawPacketHasBytes bytes header.l4Offset 12 then []
  else [⟨header.l4Offset + 8, header.limit - header.l4Offset, header.l4Offset⟩]

/-- `addGreTarget`, at a header of the protocol GRE that can be read. -/
def addGreTarget (bytes : Bytes) (header : RawL4Header) : List RawPacketGreChecksumTarget :=
  if header.protocol ≠ 47 ∨ rawPacketGrePayloadTarget bytes header.l4Offset = none then []
  else if bytes.length < header.limit ∨ header.limit < header.l4Offset + 8
      ∨ ¬rawPacketHasBytes bytes header.l4Offset 8
      ∨ rawPacketWord bytes header.l4Offset &&& 0x8000 = 0 then []
  else [⟨header.l4Offset + 4, header.l4Offset, header.limit - header.l4Offset⟩]

/-- `addTransportTarget`, at a header of the protocol TCP or UDP. -/
def addTransportTarget (bytes : Bytes) (header : RawL4Header) :
    List RawPacketTransportChecksumTarget :=
  if header.protocol ≠ 6 ∧ header.protocol ≠ 17 then []
  else if bytes.length < header.limit ∨ header.limit ≤ header.l4Offset then []
  else if header.protocol = 17 then
    match rawPacketUdpTarget bytes header.l4Offset header.limit with
    | none => []
    | some udp =>
        if header.ipVersion = .ipv4 ∧ rawPacketWord bytes (header.l4Offset + 6) = 0 then []
        else [⟨header.l4Offset + 6, header.ipOffset, header.ipVersion, header.l4Offset,
          udp.endOffset - header.l4Offset, header.protocol⟩]
  else if rawPacketTcpHeaderOffset bytes header.l4Offset header.limit = none then []
  else [⟨header.l4Offset + 16, header.ipOffset, header.ipVersion, header.l4Offset,
    header.limit - header.l4Offset, header.protocol⟩]

/-! ## The four walks -/

/-- `targets.set(key, target)` on a `Map`: a key that is there keeps its place. -/
def setTarget {τ κ : Type} [DecidableEq κ] (key : τ → κ) (targets : List τ) (target : τ) : List τ :=
  if key target ∈ targets.map key then
    targets.map fun t => if key t = key target then target else t
  else targets ++ [target]

/-- The values of the `Map` after each target was set. -/
def mapValues {τ κ : Type} [DecidableEq κ] (key : τ → κ) (targets : List τ) : List τ :=
  targets.foldl (setTarget key) []

def icmpCollector : Collector RawPacketIcmpChecksumTarget where
  protocols := [58, 17, 47]
  add := addIcmpTarget

def collectRawPacketIcmpChecksumTargets (bytes : Bytes) : List RawPacketIcmpChecksumTarget :=
  mapValues (fun t => (t.ipVersion, t.icmpOffset)) (icmpCollector.collect bytes)

def sctpCollector : Collector RawPacketSctpChecksumTarget where
  protocols := [132, 17, 47]
  add := addSctpTarget

def collectRawPacketSctpChecksumTargets (bytes : Bytes) : List RawPacketSctpChecksumTarget :=
  mapValues (fun t => t.sctpOffset) (sctpCollector.collect bytes)

def transportCollector : Collector RawPacketTransportChecksumTarget where
  protocols := [6, 17, 47]
  add := addTransportTarget

def collectRawPacketTransportChecksumTargets (bytes : Bytes) :
    List RawPacketTransportChecksumTarget :=
  mapValues (fun t => (t.protocol, t.l4Offset)) (transportCollector.collect bytes)

/-- The payload of a GRE header starts before the end of its packet. -/
def grePayloadInside (bytes : Bytes) (header : RawL4Header) : Bool :=
  match rawPacketGrePayloadTarget bytes header.l4Offset with
  | none => false
  | some gre => gre.payloadOffset < header.limit

def greCollector : Collector RawPacketGreChecksumTarget where
  protocols := [47, 17]
  add := fun bytes header => if grePayloadInside bytes header then addGreTarget bytes header else []
  follows := fun bytes header => header.protocol ≠ 47 || grePayloadInside bytes header

def collectRawPacketGreChecksumTargets (bytes : Bytes) : List RawPacketGreChecksumTarget :=
  mapValues (fun t => t.greOffset) (greCollector.collect bytes)

/-! ## The walk of the IPv4 headers -/

/-- `addIpv4Offset` on what a tunnel carries. -/
def addIpv4Offset (bytes : Bytes) (offset : Nat) : List Nat :=
  if rawIpv4HeaderLengthAt bytes offset = none then [] else [offset]

def ipv4OffsetsOfGre (bytes : Bytes) (greOffset : Nat) : List Nat :=
  match rawPacketGrePayloadTarget bytes greOffset with
  | none => []
  | some gre => if gre.protocolType = 0x0800 then addIpv4Offset bytes gre.payloadOffset else []

def ipv4OffsetsOfUdpTunnels (bytes : Bytes) (udpOffset limit : Nat) : List Nat :=
  match rawPacketUdpTarget bytes udpOffset limit with
  | none => []
  | some udp =>
      (if udp.isVxlan then
        match rawPacketEthernetL3Target bytes (udp.payloadOffset + 8) with
        | none => []
        | some innerL3 =>
            if innerL3.etherType = 0x0800 then addIpv4Offset bytes innerL3.l3Offset else []
       else [])
        ++ if udp.isGtpu then
             match rawPacketGtpuPayloadOffset bytes udp.payloadOffset udp.endOffset with
             | none => []
             | some gtpuPayloadOffset => addIpv4Offset bytes gtpuPayloadOffset
           else []

/-- `collectRawPacketIpv4HeaderOffsets`: the outer header, a fragment too, and one in its tunnel. -/
def collectRawPacketIpv4HeaderOffsets (bytes : Bytes) : List Nat :=
  match rawPacketEthernetL3Target bytes 0 with
  | none => []
  | some outer =>
      let ipv4 :=
        if outer.etherType = 0x0800 then
          match rawIpv4HeaderLengthAt bytes outer.l3Offset with
          | none => []
          | some headerLength =>
              let protocol := octetAt bytes (outer.l3Offset + 9)
              outer.l3Offset ::
                if protocol = 47 then ipv4OffsetsOfGre bytes (outer.l3Offset + headerLength)
                else if protocol = 17 then
                  ipv4OffsetsOfUdpTunnels bytes (outer.l3Offset + headerLength)
                    (rawIpv4PacketEnd bytes outer.l3Offset headerLength)
                else []
        else []
      let ipv6 :=
        if outer.etherType = 0x86DD ∧ rawPacketHasBytes bytes outer.l3Offset 40 then
          (match rawPacketIpv6L4Offset bytes outer.l3Offset 47 with
            | none => []
            | some greTarget => ipv4OffsetsOfGre bytes greTarget.offset)
            ++ match rawPacketIpv6L4Offset bytes outer.l3Offset 17 with
              | none => []
              | some udpTarget => ipv4OffsetsOfUdpTunnels bytes udpTarget.offset udpTarget.limit
        else []
      mapValues id (ipv4 ++ ipv6)

end TrexWebui
