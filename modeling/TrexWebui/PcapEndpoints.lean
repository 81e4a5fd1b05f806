import Mathlib.Data.Finset.Insert
import TrexWebui.ImportedLayout
import TrexWebui.PcapConfinement

/-!
# The endpoints of an imported capture

The field engine and the packets of an imported capture are patched by two
functions that decide for themselves which header field belongs to the source
options and which to the destination options. They agree on every packet of a
flow whose two addresses differ. Where both addresses are the same, the
destination address is written over the destination field, while the
destination options go to the source field.
-/

namespace TrexWebui

open PyStr Octets

/-! ## Flows -/

/-- `workbench_has_transport_ports` -/
def PacketType.hasTransportPorts (packetType : PacketType) : Bool :=
  packetType.isTcp || packetType.isUdp || packetType.isSctp

/-- The endpoints of a flow: a tuple, or a `frozenset` of addresses with their ports. -/
inductive EndpointFlow where
  | ordered (addresses : List Bytes)
  | unordered (endpoints : Finset (Bytes × Nat))

/-- `endpoint_flow` of `stream_flow_key`, without the fields of ICMP. -/
def endpointFlow (stream : ImportedStream) : EndpointFlow :=
  let packetType := stream.layout.packetType
  let src := match packetType.ipVersion with
    | .ipv4 => stream.ipv4.src
    | .ipv6 => stream.ipv6.src.packed
  let dst := match packetType.ipVersion with
    | .ipv4 => stream.ipv4.dst
    | .ipv6 => stream.ipv6.dst.packed
  if packetType.hasArp then
    .ordered [stream.arp.senderIp, stream.arp.targetIp, stream.arp.senderMac, stream.arp.targetMac]
  else if !packetType.hasL3 then .ordered [stream.etherSrc, stream.etherDst]
  else if !packetType.hasTransportPorts then .ordered [src, dst]
  else .unordered {(src, stream.l4SrcPort), (dst, stream.l4DstPort)}

/-- `stream_flow_key`. The fields of ICMP and of the tunnels, which are left out, divide these
flows further. -/
structure FlowKey where
  packetType : PacketType
  vlanEnabled : Bool
  mplsEnabled : Bool
  vxlanEnabled : Bool
  gtpuEnabled : Bool
  endpoints : EndpointFlow

def streamFlowKey (stream : ImportedStream) : FlowKey :=
  { packetType := stream.layout.packetType
    vlanEnabled := stream.layout.vlanEnabled
    mplsEnabled := stream.layout.mplsEnabled
    vxlanEnabled := stream.layout.vxlanEnabled
    gtpuEnabled := stream.layout.gtpuEnabled
    endpoints := endpointFlow stream }

/-- A packet and the stream that was imported from it. -/
structure PcapStream where
  packet : Bytes
  stream : ImportedStream
  imported : importedStream packet = some stream

/-- The streams that `streams_from_pcap` returns: they are all of one flow. -/
structure PcapFlow where
  streams : List PcapStream
  same : ∀ s ∈ streams, ∀ t ∈ streams, streamFlowKey s.stream = streamFlowKey t.stream

/-! ## Patches -/

/-- `rewrite_pcap_import_stream_ipv4`: the stream and its patch; `none` is an exception. -/
def rewritePcapImportStreamIpv4 (s : PcapStream) (options : PcapImportOptions) :
    Option PcapRewriteState → Option (ImportedStream × Ipv4FieldPatch)
  | none => some (s.stream, {})
  | some state =>
      if !s.stream.isIpv4 then some (s.stream, {})
      else (pcapImportRewriteIpv4Packet s.packet s.stream options state).map fun rewritten =>
        ((importedStream rewritten).map fun parsed =>
          (parsed, pcapImportIpv4FieldPatch s.stream options state)).getD (s.stream, {})

/-! ## The property -/

def rewrittenField (packet rewritten : Bytes) (field : Ipv4AddressField) : Option Bytes :=
  (ipv4Offsets packet).map fun ip => slice rewritten (ip.offset + field.offset) 4

/-- The rewriting puts the source address of the options, whichever it is, into the field. -/
def SrcReplaces (s : PcapStream) (options : PcapImportOptions) (state : PcapRewriteState)
    (field : Ipv4AddressField) : Prop :=
  ∀ address : Fixed 4, ∃ rewritten,
    pcapImportRewriteIpv4Packet s.packet s.stream { options with srcAddress := address } state
        = some rewritten
      ∧ rewrittenField s.packet rewritten field = some address.val

/-- The rewriting puts the destination address of the options into the field. -/
def DstReplaces (s : PcapStream) (options : PcapImportOptions) (state : PcapRewriteState)
    (field : Ipv4AddressField) : Prop :=
  ∀ address : Fixed 4, ∃ rewritten,
    pcapImportRewriteIpv4Packet s.packet s.stream { options with dstAddress := address } state
        = some rewritten
      ∧ rewrittenField s.packet rewritten field = some address.val

/-- The patch and the rewriting take the same fields, and different ones for the two ends. -/
structure SameEndpoints (s : PcapStream) (options : PcapImportOptions) (state : PcapRewriteState) :
    Prop where
  src : ∀ field, srcPatchField s.stream options state = some field
    ↔ SrcReplaces s options state field
  dst : ∀ field, dstPatchField s.stream options state = some field
    ↔ DstReplaces s options state field
  apart : ∀ field, srcPatchField s.stream options state = some field →
    dstPatchField s.stream options state ≠ some field

def FlowEndpointsAgree (flow : PcapFlow) (options : PcapImportOptions) : Prop :=
  ∀ state, pcapImportRewriteState (flow.streams.map (·.stream)) options = some state →
    ∀ s ∈ flow.streams, s.stream.isIpv4 = true → SameEndpoints s options state

/-! ## Imported packets -/

theorem importedStream_ipv4 {packet : Bytes} {stream : ImportedStream}
    (himported : importedStream packet = some stream) (h : stream.isIpv4 = true) :
    ∃ ip, ipv4Offsets packet = some ip ∧ packet.length ≤ 9212 := by
  rw [ImportedStream.isIpv4, Bool.and_eq_true, decide_eq_true_eq] at h
  obtain ⟨hl3, hversion⟩ := h
  simp only [importedStream, Option.bind_eq_bind, Option.bind_eq_some_iff] at himported
  obtain ⟨⟨layout, found⟩, hlayout, l2, hl2, hstream⟩ := himported
  unfold streamFromEthernetPacket at hlayout
  split at hlayout
  · cases hlayout
  · rename_i hshort
    rw [hl2] at hlayout
    dsimp only at hlayout
    cases hip : ipHeader packet with
    | none =>
        rw [hip] at hlayout hstream
        dsimp only at hlayout hstream
        cases hstream
        split at hlayout <;> cases hlayout <;> cases hl3
    | some ip =>
        rw [hip] at hlayout hstream
        dsimp only [ipStream] at hlayout
        cases hclass : importedClassification packet ip with
        | none =>
            rw [hclass] at hlayout
            cases hlayout
        | some classified =>
            obtain ⟨packetType, hasL4⟩ := classified
            rw [hclass] at hlayout
            simp only [hclass, Option.bind_some] at hstream
            cases hlayout
            cases hstream
            obtain ⟨-, hsame, -⟩ := importedClassification_spec hclass
            have hipv4 : ip.version = .ipv4 := hsame.symm.trans hversion
            refine ⟨ip, ?_, by omega⟩
            obtain hipv6 | ⟨-, hipv4⟩ := Option.or_eq_some_iff.mp hip
            · have hother := (ipv6Offsets_spec hl2 hipv6).2.1
              rw [hipv4] at hother
              cases hother
            · exact hipv4

section
variable {packet : Bytes} {ip : IpHeader}

theorem slice_replaceAddress_self (accepted : AcceptedHeader packet ip) (field : Ipv4AddressField)
    (address : Fixed 4) :
    slice (replaceAddress packet ip (some field) address) (ip.offset + field.offset) 4
      = address.val := by
  have hheader := accepted.header
  have hfits := accepted.fits
  have hwrite : ip.offset + field.offset + address.val.length ≤ packet.length := by
    rw [address.length_val]
    cases field <;> simp only [Ipv4AddressField.offset] <;> omega
  have hself := slice_overwrite_self hwrite
  rw [address.length_val] at hself
  exact hself

theorem slice_replaceAddress_other (accepted : AcceptedHeader packet ip)
    {written : Option Ipv4AddressField} {field : Ipv4AddressField} (h : written ≠ some field)
    (address : Fixed 4) :
    slice (replaceAddress packet ip written address) (ip.offset + field.offset) 4
      = slice packet (ip.offset + field.offset) 4 := by
  have hheader := accepted.header
  have hfits := accepted.fits
  cases written with
  | none => rfl
  | some written =>
      apply slice_overwrite
      · rw [address.length_val]
        cases written <;> simp only [Ipv4AddressField.offset] <;> omega
      · rw [address.length_val]
        cases written <;> cases field <;> simp only [Ipv4AddressField.offset] at h ⊢ <;>
          first | omega | exact absurd rfl h

theorem rewrite_addresses (h : ipv4Offsets packet = some ip) (hshort : packet.length ≤ 9212)
    (stream : ImportedStream) (options : PcapImportOptions) (state : PcapRewriteState) :
    ∃ rewritten, pcapImportRewriteIpv4Packet packet stream options state = some rewritten
      ∧ ∀ field : Ipv4AddressField, slice rewritten (ip.offset + field.offset) 4
        = slice (replaceAddresses packet ip stream options state) (ip.offset + field.offset) 4 := by
  have accepted := ipv4Offsets_accepted h
  have hheader := accepted.header
  have hreplaced := accepted.replaceAddresses stream options state
  have hfirst : ∀ field : Ipv4AddressField,
      slice (refreshedHeader packet ip stream options state) (ip.offset + field.offset) 4
        = slice (replaceAddresses packet ip stream options state) (ip.offset + field.offset) 4 := by
    intro field
    apply slice_congr (length_refreshHeaderChecksum hreplaced)
    intro k hk
    apply octetAt_refreshHeaderChecksum hreplaced
    cases field <;> simp only [Ipv4AddressField.offset] at hk <;> omega
  cases hfield : transportChecksumOffset packet ip with
  | none => exact ⟨_, rewrite_plain stream options state h hfield, hfirst⟩
  | some checksumField =>
      have hplace := checksumField_of_offset hfield
      have hlow := hplace.low
      have hinside := hplace.inside
      have hfits := hplace.fits
      have hlength := length_refreshedHeader stream options state accepted
      refine ⟨_, (rewrite_repaired stream options state h hfield).trans (if_neg (by omega)), ?_⟩
      intro field
      rw [← hfirst field, repaired, slice_overwrite]
      · rw [length_be16, hlength]
        omega
      · cases field <;> simp only [Ipv4AddressField.offset] <;> omega

end

/-! ## What is replaced -/

section
variable (s : PcapStream) (options : PcapImportOptions) (state : PcapRewriteState)

theorem addresses_differ : ∃ a b : Fixed 4, a.val ≠ b.val :=
  ⟨⟨[0, 0, 0, 0], rfl⟩, ⟨[1, 1, 1, 1], rfl⟩, by simp⟩

theorem rewritten_field (h : s.stream.isIpv4 = true) (field : Ipv4AddressField) :
    ∃ rewritten, pcapImportRewriteIpv4Packet s.packet s.stream options state = some rewritten
      ∧ (dstRewriteField s.stream options state = some field →
          rewrittenField s.packet rewritten field = some options.dstAddress.val)
      ∧ (dstRewriteField s.stream options state ≠ some field →
          srcRewriteField s.stream options state = some field →
          rewrittenField s.packet rewritten field = some options.srcAddress.val)
      ∧ (dstRewriteField s.stream options state ≠ some field →
          srcRewriteField s.stream options state ≠ some field →
          rewrittenField s.packet rewritten field = rewrittenField s.packet s.packet field) := by
  obtain ⟨ip, hip, hshort⟩ := importedStream_ipv4 s.imported h
  have accepted := ipv4Offsets_accepted hip
  obtain ⟨rewritten, hrewrite, hslice⟩ := rewrite_addresses hip hshort s.stream options state
  have hfirst := accepted.replaceAddress (srcRewriteField s.stream options state) options.srcAddress
  refine ⟨rewritten, hrewrite, ?_, ?_, ?_⟩
  · intro hdst
    rw [rewrittenField, hip, Option.map_some, hslice, replaceAddresses, hdst,
      slice_replaceAddress_self hfirst]
  · intro hdst hsrc
    rw [rewrittenField, hip, Option.map_some, hslice, replaceAddresses,
      slice_replaceAddress_other hfirst hdst, hsrc, slice_replaceAddress_self accepted]
  · intro hdst hsrc
    rw [rewrittenField, rewrittenField, hip, Option.map_some, Option.map_some, hslice,
      replaceAddresses, slice_replaceAddress_other hfirst hdst,
      slice_replaceAddress_other accepted hsrc]

theorem dstReplaces_iff (h : s.stream.isIpv4 = true) (field : Ipv4AddressField) :
    DstReplaces s options state field ↔ dstRewriteField s.stream options state = some field := by
  constructor
  · intro hreplaces
    by_contra hdst
    obtain ⟨a, b, hne⟩ := addresses_differ
    have hfixed : ∃ value, ∀ address : Fixed 4, value = some address.val := by
      by_cases hsrc : srcRewriteField s.stream options state = some field
      · refine ⟨some options.srcAddress.val, ?_⟩
        intro address
        obtain ⟨rewritten, hrewrite, -, hother, -⟩ :=
          rewritten_field s { options with dstAddress := address } state h field
        obtain ⟨_, hrewrite', hvalue⟩ := hreplaces address
        cases hrewrite.symm.trans hrewrite'
        rw [← hvalue, hother hdst hsrc]
      · refine ⟨rewrittenField s.packet s.packet field, ?_⟩
        intro address
        obtain ⟨rewritten, hrewrite, -, -, hother⟩ :=
          rewritten_field s { options with dstAddress := address } state h field
        obtain ⟨_, hrewrite', hvalue⟩ := hreplaces address
        cases hrewrite.symm.trans hrewrite'
        rw [← hvalue, hother hdst hsrc]
    obtain ⟨value, hvalue⟩ := hfixed
    exact hne (Option.some.inj ((hvalue a).symm.trans (hvalue b)))
  · intro hdst address
    obtain ⟨rewritten, hrewrite, hvalue, -, -⟩ :=
      rewritten_field s { options with dstAddress := address } state h field
    exact ⟨rewritten, hrewrite, hvalue hdst⟩

theorem srcReplaces_iff (h : s.stream.isIpv4 = true) (field : Ipv4AddressField)
    (hapart : srcRewriteField s.stream options state = some field →
      dstRewriteField s.stream options state ≠ some field) :
    SrcReplaces s options state field ↔ srcRewriteField s.stream options state = some field := by
  constructor
  · intro hreplaces
    by_contra hsrc
    obtain ⟨a, b, hne⟩ := addresses_differ
    have hfixed : ∃ value, ∀ address : Fixed 4, value = some address.val := by
      by_cases hdst : dstRewriteField s.stream options state = some field
      · refine ⟨some options.dstAddress.val, ?_⟩
        intro address
        obtain ⟨rewritten, hrewrite, hother, -, -⟩ :=
          rewritten_field s { options with srcAddress := address } state h field
        obtain ⟨_, hrewrite', hvalue⟩ := hreplaces address
        cases hrewrite.symm.trans hrewrite'
        rw [← hvalue, hother hdst]
      · refine ⟨rewrittenField s.packet s.packet field, ?_⟩
        intro address
        obtain ⟨rewritten, hrewrite, -, -, hother⟩ :=
          rewritten_field s { options with srcAddress := address } state h field
        obtain ⟨_, hrewrite', hvalue⟩ := hreplaces address
        cases hrewrite.symm.trans hrewrite'
        rw [← hvalue, hother hdst hsrc]
    obtain ⟨value, hvalue⟩ := hfixed
    exact hne (Option.some.inj ((hvalue a).symm.trans (hvalue b)))
  · intro hsrc address
    obtain ⟨rewritten, hrewrite, -, hvalue, -⟩ :=
      rewritten_field s { options with srcAddress := address } state h field
    exact ⟨rewritten, hrewrite, hvalue (hapart hsrc) hsrc⟩

end

/-! ## The two directions of a flow -/

/-- The stream carries the addresses of the state, in one of the two directions. -/
def Endpoints (stream : ImportedStream) (state : PcapRewriteState) : Prop :=
  (stream.ipv4.src = state.defaultSrc ∧ stream.ipv4.dst = state.defaultDst)
    ∨ (stream.ipv4.src = state.defaultDst ∧ stream.ipv4.dst = state.defaultSrc)

theorem pair_endpoints {a b c d : Bytes × Nat}
    (h : ({a, b} : Finset (Bytes × Nat)) = {c, d}) :
    (a = c ∧ b = d) ∨ (a = d ∧ b = c) := by
  have ha : a ∈ ({c, d} : Finset (Bytes × Nat)) := h ▸ Finset.mem_insert_self a {b}
  have hb : b ∈ ({c, d} : Finset (Bytes × Nat)) :=
    h ▸ Finset.mem_insert_of_mem (Finset.mem_singleton_self b)
  have hc : c ∈ ({a, b} : Finset (Bytes × Nat)) := h ▸ Finset.mem_insert_self c {d}
  have hd : d ∈ ({a, b} : Finset (Bytes × Nat)) :=
    h ▸ Finset.mem_insert_of_mem (Finset.mem_singleton_self d)
  rw [Finset.mem_insert, Finset.mem_singleton] at ha hb hc hd
  rcases ha with rfl | rfl <;> rcases hb with rfl | rfl <;> simp_all

theorem endpointFlow_ipv4 {stream : ImportedStream} (h : stream.isIpv4 = true) :
    endpointFlow stream =
      if stream.layout.packetType.hasTransportPorts then
        .unordered {(stream.ipv4.src, stream.l4SrcPort), (stream.ipv4.dst, stream.l4DstPort)}
      else .ordered [stream.ipv4.src, stream.ipv4.dst] := by
  rw [ImportedStream.isIpv4, Bool.and_eq_true, decide_eq_true_eq] at h
  obtain ⟨hl3, hversion⟩ := h
  have harp : stream.layout.packetType.hasArp = false := by
    cases htype : stream.layout.packetType <;> simp_all [PacketType.hasL3, PacketType.hasArp]
  cases hports : stream.layout.packetType.hasTransportPorts <;>
    simp [endpointFlow, harp, hl3, hversion, hports]

theorem endpoints_of_flow {first stream : ImportedStream} (hfirst : first.isIpv4 = true)
    (hstream : stream.isIpv4 = true) (h : streamFlowKey stream = streamFlowKey first) :
    Endpoints stream ⟨first.ipv4.src, first.ipv4.dst⟩ := by
  have htype : stream.layout.packetType = first.layout.packetType :=
    congrArg FlowKey.packetType h
  have hflow : endpointFlow stream = endpointFlow first := congrArg FlowKey.endpoints h
  rw [endpointFlow_ipv4 hstream, endpointFlow_ipv4 hfirst, htype] at hflow
  split at hflow
  · rcases pair_endpoints (EndpointFlow.unordered.inj hflow) with ⟨hsrc, hdst⟩ | ⟨hsrc, hdst⟩
    · exact .inl ⟨congrArg Prod.fst hsrc, congrArg Prod.fst hdst⟩
    · exact .inr ⟨congrArg Prod.fst hsrc, congrArg Prod.fst hdst⟩
  · have haddresses := EndpointFlow.ordered.inj hflow
    rw [List.cons.injEq, List.cons.injEq] at haddresses
    exact .inl ⟨haddresses.1, haddresses.2.1⟩

theorem fields_of_distinct {stream : ImportedStream} {state : PcapRewriteState}
    (options : PcapImportOptions) (h : Endpoints stream state)
    (hne : stream.ipv4.src ≠ stream.ipv4.dst) :
    srcPatchField stream options state = srcRewriteField stream options state
      ∧ dstPatchField stream options state = dstRewriteField stream options state
      ∧ ∀ field, srcRewriteField stream options state = some field →
        dstRewriteField stream options state ≠ some field := by
  have hne' := hne.symm
  rcases h with ⟨hsrc, hdst⟩ | ⟨hsrc, hdst⟩ <;> rw [hsrc, hdst] at hne hne' <;>
    cases hs : options.rewriteSrcEnabled <;> cases hd : options.rewriteDstEnabled <;>
    simp [srcPatchField, srcRewriteField, dstPatchField, dstRewriteField, pcapImportRewriteField,
      hs, hd, hsrc, hdst, hne, hne']

theorem fields_of_same {stream : ImportedStream} {state : PcapRewriteState}
    (options : PcapImportOptions) (h : Endpoints stream state)
    (hsame : stream.ipv4.src = stream.ipv4.dst) :
    srcPatchField stream options state = srcRewriteField stream options state
      ∧ dstPatchField stream options state
        = (if options.rewriteDstEnabled then some .src else none)
      ∧ dstRewriteField stream options state
        = (if options.rewriteDstEnabled then some .dst else none)
      ∧ srcRewriteField stream options state ≠ some .dst := by
  rcases h with ⟨hsrc, hdst⟩ | ⟨hsrc, hdst⟩ <;> rw [hsrc, hdst] at hsame <;>
    cases hs : options.rewriteSrcEnabled <;> cases hd : options.rewriteDstEnabled <;>
    simp [srcPatchField, srcRewriteField, dstPatchField, dstRewriteField, pcapImportRewriteField,
      hs, hd, hsrc, hdst, hsame]

/-- One stream: the functions agree unless a destination is rewritten and the addresses are the
same. -/
theorem sameEndpoints_iff (s : PcapStream) (options : PcapImportOptions)
    {state : PcapRewriteState} (hipv4 : s.stream.isIpv4 = true) (h : Endpoints s.stream state) :
    SameEndpoints s options state ↔
      (options.rewriteDstEnabled = true → s.stream.ipv4.src ≠ s.stream.ipv4.dst) := by
  by_cases hsame : s.stream.ipv4.src = s.stream.ipv4.dst
  · obtain ⟨hsrc, hdst, hdst', hapart⟩ := fields_of_same options h hsame
    constructor
    · intro agree henabled
      have hfield := agree.dst .src
      rw [hdst, if_pos henabled, dstReplaces_iff s options state hipv4, hdst',
        if_pos henabled] at hfield
      exact absurd (hfield.mp rfl) (by simp)
    · intro hdisabled
      have hoff : ¬ options.rewriteDstEnabled = true := fun henabled => hdisabled henabled hsame
      rw [if_neg hoff] at hdst hdst'
      refine ⟨?_, ?_, ?_⟩
      · intro field
        rw [srcReplaces_iff s options state hipv4 field (by simp [hdst']), hsrc]
      · intro field
        rw [dstReplaces_iff s options state hipv4, hdst, hdst']
      · intro field _
        rw [hdst]
        simp
  · obtain ⟨hsrc, hdst, hapart⟩ := fields_of_distinct options h hsame
    refine iff_of_true ⟨?_, ?_, ?_⟩ fun _ => hsame
    · intro field
      rw [srcReplaces_iff s options state hipv4 field (hapart field), hsrc]
    · intro field
      rw [dstReplaces_iff s options state hipv4, hdst]
    · intro field hfield
      rw [hdst]
      exact hapart field (hsrc ▸ hfield)

def selfAddressedPacket : Bytes :=
  [2, 0, 0, 0, 0, 1, 2, 0, 0, 0, 0, 2, 8, 0]
    ++ [0x45, 0, 0, 28, 0, 1, 0, 0, 64, 17, 0, 0, 10, 0, 0, 1, 10, 0, 0, 1]
    ++ [4, 1, 0, 12, 0, 8, 0, 0]

def rewriteDestination : PcapImportOptions :=
  { rewriteSrcEnabled := false, srcAddress := dottedAddress 16 0 0 1, srcMode := .fixed,
    srcCount := 16, rewriteDstEnabled := true, dstAddress := dottedAddress 48 0 0 9,
    dstMode := .incrementHost, dstCount := 16 }

end TrexWebui
