import TrexWebui.PacketBuild

/-!
# What a receiver checks

The lengths and checksums of a datagram, read from its octets alone, and how
the headers of the packet builder meet them.
-/

namespace TrexWebui

open PyStr Octets InternetChecksum

/-! ## The checks -/

/-- An IPv4 datagram without options whose length and header checksum are right. -/
structure Ipv4Checked (datagram : Bytes) : Prop where
  version : octetAt datagram 0 = 0x45
  header : 20 ≤ datagram.length
  totalLength : be16At datagram 2 = datagram.length
  checksum : internetChecksum (datagram.take 20) = 0

/-- An IPv6 datagram without extension headers whose length is right. -/
structure Ipv6Checked (datagram : Bytes) : Prop where
  version : octetAt datagram 0 / 16 = 6
  header : 40 ≤ datagram.length
  payloadLength : be16At datagram 4 = datagram.length - 40

def IpChecked : IpVersion → Bytes → Prop
  | .ipv4, datagram => Ipv4Checked datagram
  | .ipv6, datagram => Ipv6Checked datagram

/-- The addresses, protocol and length that the transport checksum covers, as the header of the
datagram has them. -/
def pseudoHeader : IpVersion → Bytes → Bytes
  | .ipv4, datagram =>
      (datagram.drop 12).take 8 ++ [0, datagram.getD 9 0] ++ be16 (datagram.length - 20)
  | .ipv6, datagram =>
      (datagram.drop 8).take 32 ++ be32 (datagram.length - 40) ++ [0, 0, 0, datagram.getD 6 0]

def TransportChecked (version : IpVersion) (datagram : Bytes) : Prop :=
  internetChecksum (pseudoHeader version datagram ++ datagram.drop version.headerLength) = 0

/-- The length of a UDP header is that of the segment. -/
structure UdpLengthChecked (segment : Bytes) : Prop where
  header : 8 ≤ segment.length
  length : be16At segment 4 = segment.length

/-- An inner datagram: a UDP checksum is due over IPv6 only. -/
structure InnerChecked (version : IpVersion) (datagram : Bytes) : Prop where
  ip : IpChecked version datagram
  udpLength : UdpLengthChecked (datagram.drop version.headerLength)
  udpChecksum : version = .ipv6 → TransportChecked version datagram

/-- An SCTP packet of one data chunk. -/
structure SctpChecked (segment : Bytes) : Prop where
  header : 28 ≤ segment.length
  crc : le32At segment 8
    = (sctpCrc32c (segment.take 8 ++ [0, 0, 0, 0] ++ segment.drop 12)).toNat
  chunkLength : be16At segment 14 = segment.length - 12

/-- The length of a GTP-U header counts what follows its first eight octets. -/
structure GtpuLengthChecked (tunnel : Bytes) : Prop where
  header : 8 ≤ tunnel.length
  length : be16At tunnel 2 = tunnel.length - 8

/-! ## Header fields -/

theorem putBe16_field {front back : Bytes} {offset : Nat} (h : front.length = offset) (m n : Nat) :
    putBe16 offset n (front ++ be16 m ++ back) = front ++ be16 n ++ back := by
  subst h
  have hdrop : (front ++ be16 m ++ back).drop (front.length + 2) = back := by
    have hlength : front.length + 2 = (front ++ be16 m).length := by simp
    rw [hlength, List.drop_left]
  rw [putBe16, hdrop, List.append_assoc front (be16 m), List.take_left]

theorem length_putBe16 {offset n : Nat} {header : Bytes} (h : offset + 2 ≤ header.length) :
    (putBe16 offset n header).length = header.length := by
  simp only [putBe16, List.length_append, List.length_take, List.length_drop, length_be16]
  omega

@[simp] theorem length_packIpv4Header (service : UInt8) (totalLength identification fragment : Nat)
    (ttl protocol : UInt8) (source destination : Fixed 4) :
    (packIpv4Header service totalLength identification fragment ttl protocol source
      destination).length = 20 := by
  simp [packIpv4Header]

@[simp] theorem length_packIpv6Header (versionClassFlow payloadLength : Nat)
    (nextHeader hopLimit : UInt8) (source destination : Fixed 16) :
    (packIpv6Header versionClassFlow payloadLength nextHeader hopLimit source destination).length
      = 40 := by
  simp [packIpv6Header]

/-! ## Datagrams -/

section Ipv4

variable (service : UInt8) (identification fragment : Nat) (ttl protocol : UInt8)
  (source destination : Fixed 4) (segment : Bytes) (checksum : Nat)

theorem putChecksum_packIpv4Header (totalLength : Nat) :
    putBe16 10 checksum (packIpv4Header service totalLength identification fragment ttl protocol
      source destination) =
      [0x45, service] ++ be16 totalLength ++ be16 identification ++ be16 fragment
        ++ [ttl, protocol] ++ be16 checksum ++ (source.val ++ destination.val) := by
  rw [packIpv4Header, putBe16_field (by simp)]

theorem ipv4Checked_packIpv4Header (h : segment.length < 65000) :
    let header := packIpv4Header service (20 + segment.length) identification fragment ttl protocol
      source destination
    Ipv4Checked (putBe16 10 (internetChecksum header) header ++ segment) := by
  intro header
  have hcarries : Carries fun n => putBe16 10 n header := by
    refine ⟨[0x45, service] ++ be16 (20 + segment.length) ++ be16 identification ++ be16 fragment
      ++ [ttl, protocol], source.val ++ destination.val, by simp, ?_⟩
    intro n
    exact putChecksum_packIpv4Header ..
  have hzero : putBe16 10 0 header = header := putChecksum_packIpv4Header ..
  have hlength : ∀ n, (putBe16 10 n header).length = 20 := by
    intro n
    rw [length_putBe16 (by simp [header]), length_packIpv4Header]
  generalize hsum : internetChecksum header = sum
  constructor
  · rw [putChecksum_packIpv4Header]
    rfl
  · rw [List.length_append, hlength]
    omega
  · have hwrite := be16At_write [0x45, service] (be16 identification ++ (be16 fragment
      ++ ([ttl, protocol] ++ (be16 sum ++ (source.val ++ destination.val ++ segment))))) 2
      (n := 20 + segment.length) rfl (by omega)
    rw [List.length_append, hlength, putChecksum_packIpv4Header]
    simpa only [List.append_assoc] using hwrite
  · rw [← hlength sum, List.take_left, ← hsum, ← hzero]
    exact hcarries.verifies

theorem drop_packIpv4Header (totalLength : Nat) :
    (putBe16 10 checksum (packIpv4Header service totalLength identification fragment ttl protocol
      source destination) ++ segment).drop 20 = segment := by
  apply List.drop_left'
  rw [length_putBe16 (by simp), length_packIpv4Header]

theorem pseudoHeader_packIpv4Header (totalLength : Nat) :
    pseudoHeader .ipv4 (putBe16 10 checksum (packIpv4Header service totalLength identification
      fragment ttl protocol source destination) ++ segment) =
      source.val ++ destination.val ++ [0, protocol] ++ be16 segment.length := by
  rw [putChecksum_packIpv4Header]
  generalize hfront : [0x45, service] ++ be16 totalLength ++ be16 identification ++ be16 fragment
    ++ [ttl, protocol] ++ be16 checksum = front
  generalize haddresses : source.val ++ destination.val = addresses
  have hprotocol : (front ++ addresses ++ segment).getD 9 0 = protocol := by
    subst hfront
    rfl
  have hlength : front.length = 12 := by
    subst hfront
    rfl
  have hlength' : addresses.length = 8 := by
    subst haddresses
    simp
  have htake : ((front ++ addresses ++ segment).drop 12).take 8 = addresses := by
    rw [List.append_assoc, ← hlength, List.drop_left, ← hlength', List.take_left]
  have hsegment : (front ++ addresses ++ segment).length - 20 = segment.length := by
    rw [List.length_append, List.length_append, hlength, hlength', Nat.add_sub_cancel_left]
  rw [pseudoHeader, htake, hprotocol, hsegment]

end Ipv4

section Ipv6

variable (versionClassFlow : Nat) (nextHeader hopLimit : UInt8) (source destination : Fixed 16)
  (segment : Bytes)

theorem ipv6Checked_packIpv6Header (hversion : versionClassFlow / 268435456 % 16 = 6)
    (h : segment.length < 65536) :
    Ipv6Checked (packIpv6Header versionClassFlow segment.length nextHeader hopLimit source
      destination ++ segment) := by
  constructor
  · simp only [packIpv6Header, be32, octetAt, List.cons_append, List.getD_cons_zero, toNat_ofNat]
    omega
  · simp
  · have hwrite := be16At_write (be32 versionClassFlow) ([nextHeader, hopLimit]
      ++ (source.val ++ destination.val ++ segment)) 4 rfl h
    rw [List.length_append, length_packIpv6Header, packIpv6Header, Nat.add_sub_cancel_left]
    simpa only [List.append_assoc] using hwrite

theorem drop_packIpv6Header (payloadLength : Nat) :
    (packIpv6Header versionClassFlow payloadLength nextHeader hopLimit source destination
      ++ segment).drop 40 = segment :=
  List.drop_left' (length_packIpv6Header ..)

theorem pseudoHeader_packIpv6Header (payloadLength : Nat) :
    pseudoHeader .ipv6 (packIpv6Header versionClassFlow payloadLength nextHeader hopLimit source
      destination ++ segment) =
      source.val ++ destination.val ++ be32 segment.length ++ [0, 0, 0, nextHeader] := by
  rw [packIpv6Header]
  generalize hfront : be32 versionClassFlow ++ be16 payloadLength ++ [nextHeader, hopLimit] = front
  generalize haddresses : source.val ++ destination.val = addresses
  have hprotocol : (front ++ addresses ++ segment).getD 6 0 = nextHeader := by
    subst hfront
    rfl
  have hlength : front.length = 8 := by
    subst hfront
    rfl
  have hlength' : addresses.length = 32 := by
    subst haddresses
    simp
  have htake : ((front ++ addresses ++ segment).drop 8).take 32 = addresses := by
    rw [List.append_assoc, ← hlength, List.drop_left, ← hlength', List.take_left]
  have hsegment : (front ++ addresses ++ segment).length - 40 = segment.length := by
    rw [List.length_append, List.length_append, hlength, hlength', Nat.add_sub_cancel_left]
  rw [pseudoHeader, htake, hprotocol, hsegment]

end Ipv6

/-! ## Transport checksums -/

/-- The message of which `l4_checksum_ipv4` computes the checksum. -/
theorem l4ChecksumIpv4_verifies {header : Nat → Bytes} (h : Carries header)
    (source destination : Fixed 4) (protocol : UInt8) {checksum : Nat}
    (hchecksum : checksum = l4ChecksumIpv4 source destination protocol (header 0)) :
    internetChecksum (source.val ++ destination.val ++ [0, protocol]
      ++ be16 (header checksum).length ++ header checksum) = 0 := by
  obtain ⟨front, back, heven, heq⟩ := id h
  have hlength : ∀ n, (header n).length = (header 0).length := by
    intro n
    simp [heq]
  have hcarries := h.prepend (source.val ++ destination.val ++ [0, protocol]
    ++ be16 (header 0).length) (by simp)
  rw [hlength, hchecksum]
  exact hcarries.verifies_nonzero

theorem l4ChecksumIpv6_verifies {header : Nat → Bytes} (h : Carries header)
    (source destination : Fixed 16) (protocol : UInt8) {checksum : Nat}
    (hchecksum : checksum = l4ChecksumIpv6 source destination protocol (header 0)) :
    internetChecksum (source.val ++ destination.val ++ be32 (header checksum).length
      ++ [0, 0, 0, protocol] ++ header checksum) = 0 := by
  obtain ⟨front, back, heven, heq⟩ := id h
  have hlength : ∀ n, (header n).length = (header 0).length := by
    intro n
    simp [heq]
  have hcarries := h.prepend (source.val ++ destination.val ++ be32 (header 0).length
    ++ [0, 0, 0, protocol]) (by simp)
  rw [hlength, hchecksum]
  exact hcarries.verifies_nonzero

end TrexWebui
