import TrexWebui.ImportedFields
import TrexWebui.OctetWrites

/-!
# Rewriting the addresses of an imported capture

The part of `workbench_pcap.py` that replaces the addresses of the packets of
a capture by those of the import options: which header field takes which
address, the octets, and the checksums. `none` is a `struct.error`, for a
datagram whose length does not fit the pseudo header.
-/

namespace TrexWebui

open PyStr Octets InternetChecksum

/-! ## Options -/

/-- `PROFILE_WORKBENCH_IPV4_ADDRESS_MODES` -/
inductive Ipv4AddressMode where
  | fixed
  | incrementHost
  | decrementHost
  | randomHost
  deriving DecidableEq, Repr

/-- The options of `normalize_pcap_import_options` that concern addresses. -/
structure PcapImportOptions where
  rewriteSrcEnabled : Bool
  srcAddress : Fixed 4
  srcMode : Ipv4AddressMode
  srcCount : Nat
  rewriteDstEnabled : Bool
  dstAddress : Fixed 4
  dstMode : Ipv4AddressMode
  dstCount : Nat

/-- The addresses of the first IPv4 stream. -/
structure PcapRewriteState where
  defaultSrc : Bytes
  defaultDst : Bytes

/-- `stream["packet_type"].startswith("Ethernet/IPv4")` -/
def ImportedStream.isIpv4 (stream : ImportedStream) : Bool :=
  stream.layout.packetType.hasL3 && stream.layout.packetType.ipVersion = .ipv4

def pcapImportRewriteState (streams : List ImportedStream) (options : PcapImportOptions) :
    Option PcapRewriteState :=
  if !options.rewriteSrcEnabled && !options.rewriteDstEnabled then none
  else (streams.find? (·.isIpv4)).map fun stream => ⟨stream.ipv4.src, stream.ipv4.dst⟩

/-! ## The field engine -/

inductive Ipv4AddressField where
  | src
  | dst
  deriving DecidableEq, Repr

def Ipv4AddressField.offset : Ipv4AddressField → Nat
  | .src => 12
  | .dst => 16

def pcapImportRewriteField (stream : ImportedStream) (defaultAddress : Bytes) :
    Option Ipv4AddressField :=
  if stream.ipv4.src = defaultAddress then some .src
  else if stream.ipv4.dst = defaultAddress then some .dst
  else none

/-- `ipv4_<field>_mode`, `_count` and `_step`. -/
structure FieldEngineEntry where
  mode : Ipv4AddressMode
  count : Nat
  step : Nat
  deriving DecidableEq, Repr

/-- The entries of the patch. -/
structure Ipv4FieldPatch where
  src : Option FieldEngineEntry := none
  dst : Option FieldEngineEntry := none

def Ipv4FieldPatch.entry (patch : Ipv4FieldPatch) : Ipv4AddressField → Option FieldEngineEntry
  | .src => patch.src
  | .dst => patch.dst

def Ipv4FieldPatch.assign (patch : Ipv4FieldPatch) (field : Option Ipv4AddressField)
    (entry : FieldEngineEntry) : Ipv4FieldPatch :=
  match field with
  | none => patch
  | some .src => { patch with src := some entry }
  | some .dst => { patch with dst := some entry }

def srcPatchField (stream : ImportedStream) (options : PcapImportOptions)
    (state : PcapRewriteState) : Option Ipv4AddressField :=
  if options.rewriteSrcEnabled then pcapImportRewriteField stream state.defaultSrc else none

def dstPatchField (stream : ImportedStream) (options : PcapImportOptions)
    (state : PcapRewriteState) : Option Ipv4AddressField :=
  if options.rewriteDstEnabled then pcapImportRewriteField stream state.defaultDst else none

def pcapImportIpv4FieldPatch (stream : ImportedStream) (options : PcapImportOptions)
    (state : PcapRewriteState) : Ipv4FieldPatch :=
  (Ipv4FieldPatch.assign {} (srcPatchField stream options state)
      ⟨options.srcMode, max 2 options.srcCount, 1⟩).assign (dstPatchField stream options state)
    ⟨options.dstMode, max 2 options.dstCount, 1⟩

/-! ## Checksums -/

/-- `l4_length`: what the datagram holds behind its header. -/
def transportLength (packet : Bytes) (ip : IpHeader) : Nat :=
  let totalLength := be16At packet (ip.offset + 2)
  let available := packet.length - ip.offset
  min (if 0 < totalLength then totalLength else available) available - ip.length

/-- `checksum_offset`, in the cases that write a transport checksum. -/
def transportChecksumOffset (packet : Bytes) (ip : IpHeader) : Option Nat :=
  let l4Offset := ip.offset + ip.length
  let l4Length := transportLength packet ip
  if ip.protocol = 6 ∧ 20 ≤ l4Length ∧ l4Offset + l4Length ≤ packet.length then
    some (l4Offset + 16)
  else if ip.protocol = 17 ∧ 8 ≤ l4Length ∧ l4Offset + l4Length ≤ packet.length then
    some (l4Offset + 6)
  else none

/-- The addresses, protocol and length that a transport checksum covers. -/
def pseudoHeaderOf (packet : Bytes) (ip : IpHeader) (l4Length : Nat) : Bytes :=
  slice packet (ip.offset + 12) 4 ++ slice packet (ip.offset + 16) 4
    ++ [0, .ofNat ip.protocol] ++ be16 l4Length

def checksummed (packet : Bytes) (ip : IpHeader) (l4Length : Nat) : Bytes :=
  pseudoHeaderOf packet ip l4Length ++ slice packet (ip.offset + ip.length) l4Length

def refreshHeaderChecksum (packet : Bytes) (ip : IpHeader) : Bytes :=
  let zeroed := overwrite packet (ip.offset + 10) [0, 0]
  overwrite zeroed (ip.offset + 10) (be16 (internetChecksum (slice zeroed ip.offset ip.length)))

/-- The transport checksum, written over zeros; a checksum of zero is sent as 65535. -/
def refreshTransportChecksum (packet : Bytes) (ip : IpHeader) (checksumOffset : Nat) : Bytes :=
  let zeroed := overwrite packet checksumOffset [0, 0]
  let checksum := internetChecksum (checksummed zeroed ip (transportLength packet ip))
  overwrite zeroed checksumOffset (be16 (if checksum = 0 then 0xFFFF else checksum))

def refreshIpv4PacketChecksums (packet : Bytes) (ip : IpHeader) : Option Bytes :=
  if packet.length < ip.offset + ip.length then some packet
  else
    let packet := refreshHeaderChecksum packet ip
    match transportChecksumOffset packet ip with
    | none => some packet
    | some checksumOffset =>
        if 65535 < transportLength packet ip then none
        else some (refreshTransportChecksum packet ip checksumOffset)

/-! ## Packets -/

def srcRewriteField (stream : ImportedStream) (options : PcapImportOptions)
    (state : PcapRewriteState) : Option Ipv4AddressField :=
  if options.rewriteSrcEnabled then
    if stream.ipv4.src = state.defaultSrc then some .src
    else if stream.ipv4.dst = state.defaultSrc then some .dst
    else none
  else none

def dstRewriteField (stream : ImportedStream) (options : PcapImportOptions)
    (state : PcapRewriteState) : Option Ipv4AddressField :=
  if options.rewriteDstEnabled then
    if stream.ipv4.dst = state.defaultDst then some .dst
    else if stream.ipv4.src = state.defaultDst then some .src
    else none
  else none

/-- `rewritten[ip_offset + 12 : ip_offset + 16] = replacement`, or the same for the
destination. -/
def replaceAddress (packet : Bytes) (ip : IpHeader) (field : Option Ipv4AddressField)
    (address : Fixed 4) : Bytes :=
  match field with
  | none => packet
  | some field => overwrite packet (ip.offset + field.offset) address.val

def replaceAddresses (packet : Bytes) (ip : IpHeader) (stream : ImportedStream)
    (options : PcapImportOptions) (state : PcapRewriteState) : Bytes :=
  replaceAddress (replaceAddress packet ip (srcRewriteField stream options state)
    options.srcAddress) ip (dstRewriteField stream options state) options.dstAddress

def pcapImportRewriteIpv4Packet (packet : Bytes) (stream : ImportedStream)
    (options : PcapImportOptions) (state : PcapRewriteState) : Option Bytes :=
  match ipv4Offsets packet with
  | none => some packet
  | some ip => refreshIpv4PacketChecksums (replaceAddresses packet ip stream options state) ip

end TrexWebui
