import TrexWebui.PacketImport

/-!
# The layout of imported packets

The importer follows the headers of the packet it is given, and keeps the
packet; the layout functions compute where the editor would have put those
headers. `importedLayout_agrees_iff` says for which packets the two are the
same.
-/

namespace TrexWebui

open PyStr Octets

/-! ## Agreement -/

/-- Every header and option that was found stands where the layout functions say. -/
structure LayoutAgrees (stream : LayoutFields) (found : FoundOffsets) : Prop where
  network : ∀ offset ∈ found.network, stream.ipOffset = offset
  transport : ∀ offset ∈ found.transport, stream.ipOffset + stream.l3HeaderLength = offset
  mssValue : ∀ offset ∈ found.mssValue,
    stream.tcpOptionMssValueOffset.map (stream.l4Offset + ·) = some offset
  sackLeftEdge : ∀ offset ∈ found.sackLeftEdge,
    (stream.tcpOptionSackValueOffset 2).map (stream.l4Offset + ·) = some offset
  sackRightEdge : ∀ offset ∈ found.sackRightEdge,
    (stream.tcpOptionSackValueOffset 6).map (stream.l4Offset + ·) = some offset
  timestampValue : ∀ offset ∈ found.timestampValue,
    (stream.tcpOptionTimestampValueOffset 2).map (stream.l4Offset + ·) = some offset
  timestampEcho : ∀ offset ∈ found.timestampEcho,
    (stream.tcpOptionTimestampValueOffset 6).map (stream.l4Offset + ·) = some offset
  windowScaleValue : ∀ offset ∈ found.windowScaleValue,
    stream.tcpOptionWindowScaleValueOffset.map (stream.l4Offset + ·) = some offset
  vxlanInner : ∀ offset ∈ found.vxlanInner, stream.vxlanInnerOffset = offset
  gtpuInner : ∀ offset ∈ found.gtpuInner, stream.gtpuInnerOffset = offset
  greInner : ∀ offset ∈ found.greInner, stream.greInnerOffset = offset

/-! ## Canonical packets -/

/-- MSS at the front, then SACK-permitted, the SACK blocks, the timestamp behind two octets of
padding and the window scale behind one, as far as the header has them. -/
structure ParsedTcpOptions.Canonical (options : ParsedTcpOptions) : Prop where
  mss : ∀ option ∈ options.mss, option.index = 0
  sack : ∀ option ∈ options.sack, option.index =
    (if options.mss.isSome then 4 else 0) + (if options.sackPermitted then 2 else 0)
  timestamp : ∀ option ∈ options.timestamp, option.index =
    (if options.mss.isSome then 4 else 0) + (if options.sackPermitted then 2 else 0)
      + (if options.sack.isSome then 10 else 0) + 2
  windowScale : ∀ option ∈ options.windowScale, option.index =
    (if options.mss.isSome then 4 else 0) + (if options.sackPermitted then 2 else 0)
      + (if options.sack.isSome then 10 else 0) + (if options.timestamp.isSome then 12 else 0) + 1

/-- The GTP-U header at `offset` has no optional field, or a sequence or N-PDU number and no
extension, or exactly one extension: a UDP port of four octets. -/
def GtpuCanonical (packet : Bytes) (offset : Nat) : Prop :=
  let flags := octetAt packet offset
  let next := octetAt packet (offset + 11)
  flags % 8 = 0 ∨ (next = 0 ∧ flags % 4 ≠ 0)
    ∨ (next = 0x40 ∧ octetAt packet (offset + 12) = 1 ∧ octetAt packet (offset + 15) = 0)

/-- At most three MPLS labels, no IPv4 options before a transport header, and TCP options and
GTP-U extensions in the one form that the editor writes. -/
structure CanonicalPacket (packet : Bytes) (l2 : L2Info) (ip : IpHeader) : Prop where
  mpls : l2.mplsStack.length ≤ 3
  ipv4 : ip.version = .ipv4 → ip.protocol ≠ 0 → ip.length = 20
  options : ip.protocol = 6 → (tcpOptionsFromPacket packet (ip.offset + ip.length)).Canonical
  gtpu : ip.protocol = 17 → (packetGtpuInfo packet (ip.offset + ip.length)).isSome = true →
    GtpuCanonical packet (ip.offset + ip.length + 8)

/-! ## The link layer -/

theorem length_vlanTags_le (packet : Bytes) (left offset etherType : Nat) :
    (vlanTags packet left offset etherType).length ≤ left := by
  induction left generalizing offset etherType with
  | zero => exact Nat.le_refl _
  | succ left ih =>
      rw [vlanTags]
      split
      · exact Nat.zero_le _
      · split
        · exact Nat.zero_le _
        · exact Nat.succ_le_succ (ih _ _)

theorem length_packetVlanStackInfo_le (packet : Bytes) :
    (packetVlanStackInfo packet).length ≤ 2 := by
  unfold packetVlanStackInfo
  split
  · exact Nat.zero_le _
  · exact length_vlanTags_le ..

theorem mplsLabels_offset {packet : Bytes} {left offset payload : Nat}
    {labels : List LayoutFields.MplsLabel}
    (h : mplsLabels packet left offset = some (labels, payload)) :
    payload = offset + 4 * labels.length ∧ 0 < labels.length := by
  induction left generalizing offset labels with
  | zero => simp [mplsLabels] at h
  | succ left ih =>
      rw [mplsLabels] at h
      split at h
      · simp at h
      · dsimp only at h
        split at h
        · cases h
          exact ⟨rfl, Nat.one_pos⟩
        · obtain ⟨⟨rest, final⟩, hrest, heq⟩ := Option.map_eq_some_iff.mp h
          cases heq
          obtain ⟨hfinal, hpos⟩ := ih hrest
          simp only [List.length_cons]
          omega

/-- The link layer ends where its tags and labels end, and labels are followed by an internet
header. -/
theorem packetL2PayloadInfo_offset {packet : Bytes} {l2 : L2Info}
    (h : packetL2PayloadInfo packet = some l2) :
    l2.vlanStack.length ≤ 2 ∧ l2.ipOffset = 14 + 4 * l2.vlanStack.length + 4 * l2.mplsStack.length
      ∧ (l2.etherType = 0x0806 → l2.mplsStack = []) := by
  have hvlan := length_packetVlanStackInfo_le packet
  unfold packetL2PayloadInfo at h
  split at h
  · simp at h
  · dsimp only at h
    split at h
    · split at h
      · simp at h
      · rename_i labels payload hmpls
        obtain ⟨hpayload, -⟩ := mplsLabels_offset hmpls
        split at h
        · simp at h
        · split at h
          · cases h
            exact ⟨hvlan, by simpa using hpayload, by simp⟩
          · split at h
            · cases h
              exact ⟨hvlan, by simpa using hpayload, by simp⟩
            · simp at h
    · cases h
      exact ⟨hvlan, rfl, fun _ => rfl⟩

theorem ipOffset_apply (l2 : L2Info) (stream : LayoutFields) (h : l2.vlanStack.length ≤ 2) :
    (l2.apply stream).ipOffset = 14 + 4 * l2.vlanStack.length + 4 * min 3 l2.mplsStack.length := by
  have hvlan : (l2.apply stream).vlanTagCount = l2.vlanStack.length := by
    simp only [L2Info.apply, LayoutFields.vlanTagCount, decide_eq_true_eq]
    split_ifs <;> omega
  have hmark : ∀ labels, (LayoutFields.markBottom labels).length = labels.length := by
    intro labels
    induction labels using LayoutFields.markBottom.induct with
    | case1 => rfl
    | case2 => rfl
    | case3 first second rest ih => rw [LayoutFields.markBottom, List.length_cons, ih]; rfl
  have hmpls : (l2.apply stream).mplsStack.length = min 3 l2.mplsStack.length := by
    simp only [L2Info.apply, LayoutFields.mplsStack, decide_eq_true_eq, Bool.and_eq_true]
    split_ifs <;> simp only [hmark, List.length_append, List.length_cons, List.length_nil] <;> omega
  rw [LayoutFields.ipOffset, LayoutFields.l2HeaderLength, hvlan, hmpls]

/-! ## The internet header -/

theorem ipv4Offsets_spec {packet : Bytes} {l2 : L2Info} {ip : IpHeader}
    (hl2 : packetL2PayloadInfo packet = some l2) (h : ipv4Offsets packet = some ip) :
    ip.offset = l2.ipOffset ∧ ip.version = .ipv4 := by
  unfold ipv4Offsets at h
  rw [hl2] at h
  dsimp only at h
  split at h
  · simp at h
  · split at h
    · simp at h
    · cases h
      exact ⟨rfl, rfl⟩

theorem ipv6Offsets_spec {packet : Bytes} {l2 : L2Info} {ip : IpHeader}
    (hl2 : packetL2PayloadInfo packet = some l2) (h : ipv6Offsets packet = some ip) :
    ip.offset = l2.ipOffset ∧ ip.version = .ipv6 ∧ ip.length = 40 := by
  unfold ipv6Offsets at h
  rw [hl2] at h
  dsimp only at h
  split at h
  · simp at h
  · split at h
    · simp at h
    · cases h
      exact ⟨rfl, rfl, rfl⟩

theorem ipHeader_spec {packet : Bytes} {l2 : L2Info} {ip : IpHeader}
    (hl2 : packetL2PayloadInfo packet = some l2) (h : ipHeader packet = some ip) :
    ip.offset = l2.ipOffset ∧ (ip.version = .ipv6 → ip.length = 40) := by
  obtain h | ⟨-, h⟩ := Option.or_eq_some_iff.mp h
  · obtain ⟨hoffset, -, hlength⟩ := ipv6Offsets_spec hl2 h
    exact ⟨hoffset, fun _ => hlength⟩
  · obtain ⟨hoffset, hversion⟩ := ipv4Offsets_spec hl2 h
    exact ⟨hoffset, by simp [hversion]⟩

/-- The packet type has the version of the header, and only an IPv4 header without a protocol
has no transport header after it. -/
theorem importedClassification_spec {packet : Bytes} {ip : IpHeader} {packetType : PacketType}
    {hasL4 : Bool} (h : importedClassification packet ip = some (packetType, hasL4)) :
    packetType.hasL3 = true ∧ packetType.ipVersion = ip.version
      ∧ (hasL4 = true ↔ ¬(ip.version = .ipv4 ∧ ip.protocol = 0)) := by
  obtain ⟨version, offset, length, protocol⟩ := ip
  unfold importedClassification at h
  cases version <;> dsimp only at h <;> split_ifs at h <;> cases h <;>
    simp_all [PacketType.hasL3, PacketType.ipVersion]

/-! ## GTP-U extensions -/

theorem gtpuExtensions_le {packet : Bytes} {left current offset final : Nat}
    {port found : Option Nat}
    (h : gtpuExtensions packet left current offset port = some (final, found)) :
    offset ≤ final ∧ (current ≠ 0 → offset + 4 ≤ final) := by
  induction left generalizing current offset port with
  | zero =>
      unfold gtpuExtensions at h
      split at h
      · cases h
        exact ⟨Nat.le_refl _, fun hne => absurd ‹current = 0› hne⟩
      · simp at h
  | succ left ih =>
      unfold gtpuExtensions at h
      split at h
      · cases h
        exact ⟨Nat.le_refl _, fun hne => absurd ‹current = 0› hne⟩
      · dsimp only at h
        split at h
        · simp at h
        · split at h
          · simp at h
          · obtain ⟨hle, -⟩ := ih h
            omega

theorem gtpuExtensions_none {packet : Bytes} {left offset final : Nat} {port found : Option Nat}
    (h : gtpuExtensions packet left 0 offset port = some (final, found)) :
    final = offset ∧ found = port := by
  unfold gtpuExtensions at h
  rw [if_pos rfl] at h
  cases h
  exact ⟨rfl, rfl⟩

theorem gtpuExtensions_single {packet : Bytes} {left current offset final : Nat}
    {found : Option Nat} (hcurrent : current ≠ 0)
    (h : gtpuExtensions packet (left + 1) current offset none = some (final, found)) :
    (final = offset + 4 ↔ octetAt packet offset = 1 ∧ octetAt packet (offset + 3) = 0)
      ∧ (final = offset + 4 → (found.isSome = true ↔ current = 0x40)) := by
  unfold gtpuExtensions at h
  rw [if_neg hcurrent] at h
  dsimp only at h
  split at h
  · simp at h
  · split at h
    · simp at h
    · rename_i hfits
      obtain ⟨hle, hmore⟩ := gtpuExtensions_le h
      by_cases hone : octetAt packet offset = 1
      · have hoffset : offset + octetAt packet offset * 4 = offset + 4 := by omega
        have hlast : offset + octetAt packet offset * 4 - 1 = offset + 3 := by omega
        rw [hlast] at h hmore
        rw [hoffset] at h hmore
        by_cases hend : octetAt packet (offset + 3) = 0
        · rw [hend] at h
          obtain ⟨hfinal, hfound⟩ := gtpuExtensions_none h
          refine ⟨by simp [hfinal, hone, hend], fun _ => ?_⟩
          rw [hfound]
          split_ifs with hport <;> simp [hport]
        · have hlong := hmore hend
          constructor
          · simp only [hone, hend, and_false, iff_false]
            omega
          · omega
      · constructor
        · simp only [hone, false_and, iff_false]
          omega
        · omega

theorem packetGtpuInfo_spec {packet : Bytes} {l4Offset : Nat} {info : GtpuInfo}
    (h : packetGtpuInfo packet l4Offset = some info) :
    let flags := octetAt packet (l4Offset + 8)
    let start := if flags % 8 ≠ 0 then l4Offset + 8 + 8 + 4 else l4Offset + 8 + 8
    let next := if flags % 8 ≠ 0 then octetAt packet (l4Offset + 8 + 8 + 3) else 0
    ∃ port, gtpuExtensions packet 4 next start none = some (info.inner.offset, port)
      ∧ info.sequenceEnabled = decide (flags / 2 % 2 = 1)
      ∧ info.npduEnabled = decide (flags % 2 = 1)
      ∧ info.extensionUdpPortEnabled = port.isSome := by
  intro flags start next
  simp only [packetGtpuInfo] at h
  iterate 5
    split at h
    · simp at h
  split at h
  · simp at h
  · rename_i final port hextensions
    refine ⟨port, ?_⟩
    split_ifs at h <;> cases h <;> exact ⟨hextensions, rfl, rfl, rfl⟩

/-- Where the layout puts the inner datagram of a GTP-U header, and where it is. -/
theorem gtpuInner_iff {packet : Bytes} {l4Offset : Nat} {info : GtpuInfo}
    (h : packetGtpuInfo packet l4Offset = some info) :
    l4Offset + 8 + 8
        + (if info.sequenceEnabled || info.npduEnabled || info.extensionUdpPortEnabled then 4 else 0)
        + (if info.extensionUdpPortEnabled then 4 else 0) = info.inner.offset ↔
      GtpuCanonical packet (l4Offset + 8) := by
  obtain ⟨port, hextensions, hsequence, hnpdu, hport⟩ := packetGtpuInfo_spec h
  rw [hsequence, hnpdu, hport, GtpuCanonical]
  generalize octetAt packet (l4Offset + 8) = flags at hextensions ⊢
  have hnext : octetAt packet (l4Offset + 8 + 8 + 3) = octetAt packet (l4Offset + 8 + 11) := rfl
  have hlength : octetAt packet (l4Offset + 8 + 8 + 4) = octetAt packet (l4Offset + 8 + 12) := rfl
  have hlast : octetAt packet (l4Offset + 8 + 8 + 4 + 3) = octetAt packet (l4Offset + 8 + 15) := rfl
  by_cases hflags : flags % 8 = 0
  · simp only [hflags, ne_eq, not_true_eq_false, if_false] at hextensions
    obtain ⟨hfinal, hfound⟩ := gtpuExtensions_none hextensions
    have hsequence : ¬flags / 2 % 2 = 1 := by omega
    have hnpdu : ¬flags % 2 = 1 := by omega
    simp [hfinal, hfound, hflags, hsequence, hnpdu]
  · simp only [hflags, ne_eq, not_false_eq_true, if_true] at hextensions
    rw [hnext] at hextensions
    generalize octetAt packet (l4Offset + 8 + 11) = next at hextensions ⊢
    by_cases hnone : next = 0
    · rw [hnone] at hextensions
      obtain ⟨hfinal, hfound⟩ := gtpuExtensions_none hextensions
      have hbits : flags % 4 ≠ 0 ↔ (flags / 2 % 2 = 1 ∨ flags % 2 = 1) := by omega
      simp only [hfinal, hfound, hflags, hnone, Option.isSome_none, Bool.or_false,
        Bool.or_eq_true, decide_eq_true_eq, hbits]
      split_ifs <;> simp_all
    · obtain ⟨hsingle, hkind⟩ := gtpuExtensions_single hnone hextensions
      obtain ⟨-, hlong⟩ := gtpuExtensions_le hextensions
      have hlong := hlong hnone
      rw [hlength, hlast] at hsingle
      by_cases hsome : port.isSome = true
      · have htotal : l4Offset + 8 + 8 + 4 + 4 = info.inner.offset
            ↔ info.inner.offset = l4Offset + 8 + 8 + 4 + 4 := eq_comm
        simp only [hsome, Bool.or_true, if_true, hflags, hnone, false_or, false_and, htotal]
        constructor
        · intro hfinal
          exact ⟨(hkind hfinal).mp hsome, hsingle.mp hfinal⟩
        · rintro ⟨-, hend⟩
          exact hsingle.mpr hend
      · have hport : next = 0x40 → info.inner.offset ≠ l4Offset + 8 + 8 + 4 + 4 := by
          intro hudp hfinal
          exact hsome ((hkind hfinal).mpr hudp)
        simp only [hsome, hflags, hnone, false_or, false_and, Bool.false_eq_true, if_false]
        constructor
        · intro hfinal
          split_ifs at hfinal <;> omega
        · rintro ⟨hudp, hend⟩
          exact absurd (hsingle.mpr hend) (hport hudp)

/-! ## The theorem -/

theorem place_iff {found : Option TcpOption} {place field l4Offset : Nat} {value : Option Nat}
    (hvalue : found.isSome = true → value = some (20 + place + field)) :
    (∀ offset ∈ found.map fun option => l4Offset + 20 + option.index + field,
        value.map (l4Offset + ·) = some offset) ↔ ∀ option ∈ found, option.index = place := by
  cases found with
  | none => simp
  | some option =>
      rw [hvalue rfl]
      simp only [Option.map_some, Option.mem_def, Option.some.injEq, forall_eq']
      omega

section Options

variable {stream : LayoutFields} {options : ParsedTcpOptions}
  (hmss : stream.tcpOptionMssEnabled = options.mss.isSome)
  (hpermitted : stream.tcpOptionSackPermittedEnabled = options.sackPermitted)
  (hsack : stream.tcpOptionSackBlocksEnabled = options.sack.isSome)
  (htimestamp : stream.tcpOptionTimestampEnabled = options.timestamp.isSome)
  (hscale : stream.tcpOptionWindowScaleEnabled = options.windowScale.isSome)

include hmss in
theorem mss_iff (l4Offset : Nat) :
    (∀ offset ∈ options.mss.map fun option => l4Offset + 20 + option.index + 2,
        stream.tcpOptionMssValueOffset.map (l4Offset + ·) = some offset) ↔
      ∀ option ∈ options.mss, option.index = 0 := by
  apply place_iff
  intro h
  exact stream.mssValueOffset (hmss.trans h)

include hmss hpermitted hsack in
theorem sack_iff (l4Offset field : Nat) :
    (∀ offset ∈ options.sack.map fun option => l4Offset + 20 + option.index + field,
        (stream.tcpOptionSackValueOffset field).map (l4Offset + ·) = some offset) ↔
      ∀ option ∈ options.sack, option.index =
        (if options.mss.isSome then 4 else 0) + (if options.sackPermitted then 2 else 0) := by
  apply place_iff
  intro h
  rw [stream.sackValueOffset (hsack.trans h), LayoutFields.sackIndex, hmss, hpermitted]

include hmss hpermitted hsack htimestamp in
theorem timestamp_iff (l4Offset field : Nat) :
    (∀ offset ∈ options.timestamp.map fun option => l4Offset + 20 + option.index + field,
        (stream.tcpOptionTimestampValueOffset field).map (l4Offset + ·) = some offset) ↔
      ∀ option ∈ options.timestamp, option.index =
        (if options.mss.isSome then 4 else 0) + (if options.sackPermitted then 2 else 0)
          + (if options.sack.isSome then 10 else 0) + 2 := by
  apply place_iff
  intro h
  rw [stream.timestampValueOffset (htimestamp.trans h), LayoutFields.timestampIndex,
    LayoutFields.sackIndex, hmss, hpermitted, hsack]

include hmss hpermitted hsack htimestamp hscale in
theorem windowScale_iff (l4Offset : Nat) :
    (∀ offset ∈ options.windowScale.map fun option => l4Offset + 20 + option.index + 2,
        stream.tcpOptionWindowScaleValueOffset.map (l4Offset + ·) = some offset) ↔
      ∀ option ∈ options.windowScale, option.index =
        (if options.mss.isSome then 4 else 0) + (if options.sackPermitted then 2 else 0)
          + (if options.sack.isSome then 10 else 0) + (if options.timestamp.isSome then 12 else 0)
          + 1 := by
  apply place_iff
  intro h
  rw [stream.windowScaleValueOffset (hscale.trans h), LayoutFields.windowScaleIndex,
    LayoutFields.sackIndex, hmss, hpermitted, hsack, htimestamp]

end Options

/-! ## Tunnels -/

theorem packetVxlanInfo_offset {packet : Bytes} {l4Offset : Nat} {info : InnerInfo}
    (h : packetVxlanInfo packet l4Offset = some info) : info.offset = l4Offset + 30 := by
  simp only [packetVxlanInfo] at h
  split_ifs at h <;> cases h <;> rfl

theorem packetGreInfo_offset {packet : Bytes} {l4Offset : Nat} {info : GreInfo}
    (h : packetGreInfo packet l4Offset = some info) :
    info.inner.offset = l4Offset + 4 + (if info.checksumPresent then 4 else 0)
      + (if info.keyPresent then 4 else 0) + (if info.sequencePresent then 4 else 0) := by
  simp only [packetGreInfo] at h
  split_ifs at h <;> cases h <;> simp [grePayloadOffset]

/-- A packet without an internet header has nothing to disagree about. -/
theorem agrees_without_ip {packet : Bytes} {l2 : L2Info}
    (hl2 : packetL2PayloadInfo packet = some l2) :
    LayoutAgrees (l2.apply { packetType := .ethernet }) {} ∧ (l2.etherType = 0x0806 →
      LayoutAgrees (l2.apply { packetType := .arp }) { network := some l2.ipOffset }) := by
  obtain ⟨hvlan, hoffset, harp⟩ := packetL2PayloadInfo_offset hl2
  constructor
  · constructor <;> simp
  · intro htype
    have hnetwork : (l2.apply { packetType := .arp }).ipOffset = l2.ipOffset := by
      rw [ipOffset_apply l2 _ hvlan, hoffset, harp htype]
      simp
    constructor <;> simp [hnetwork]

theorem ipStream_agrees_iff {packet : Bytes} {l2 : L2Info} {ip : IpHeader} {stream : LayoutFields}
    {found : FoundOffsets} (hl2 : packetL2PayloadInfo packet = some l2)
    (hip : ipHeader packet = some ip) (h : ipStream packet l2 ip = some (stream, found)) :
    LayoutAgrees stream found ↔ CanonicalPacket packet l2 ip := by
  obtain ⟨hvlan, hl2offset, -⟩ := packetL2PayloadInfo_offset hl2
  obtain ⟨hoffset, hipv6⟩ := ipHeader_spec hl2 hip
  unfold ipStream at h
  split at h
  · simp at h
  · rename_i packetType hasL4 hclass
    obtain ⟨hl3, hversion, hhas⟩ := importedClassification_spec hclass
    dsimp only at h
    generalize hoptions : (if ip.protocol = 6 then tcpOptionsFromPacket packet
      (ip.offset + ip.length) else {}) = options at h
    generalize hvxlan : (if ip.protocol = 17 then packetVxlanInfo packet
      (ip.offset + ip.length) else none) = vxlan at h
    generalize hgtpu : (if ip.protocol = 17 then packetGtpuInfo packet
      (ip.offset + ip.length) else none) = gtpu at h
    generalize hgre : (if ip.protocol = 47 then packetGreInfo packet
      (ip.offset + ip.length) else none) = gre at h
    simp only [Option.some.injEq, Prod.mk.injEq] at h
    obtain ⟨hstream, rfl⟩ := h
    have hipOffset : stream.ipOffset
        = 14 + 4 * l2.vlanStack.length + 4 * min 3 l2.mplsStack.length := by
      rw [← hstream]
      exact ipOffset_apply l2 { packetType } hvlan
    have hl3Length : stream.l3HeaderLength = ip.version.headerLength := by
      have htype : stream.packetType = packetType := by rw [← hstream]; rfl
      rw [LayoutFields.l3HeaderLength, htype, if_pos hl3, hversion]
    have hmss : stream.tcpOptionMssEnabled = options.mss.isSome := by rw [← hstream]; rfl
    have hpermitted : stream.tcpOptionSackPermittedEnabled = options.sackPermitted := by
      rw [← hstream]; rfl
    have hsack : stream.tcpOptionSackBlocksEnabled = options.sack.isSome := by
      rw [← hstream]; rfl
    have htimestamp : stream.tcpOptionTimestampEnabled = options.timestamp.isSome := by
      rw [← hstream]; rfl
    have hscale : stream.tcpOptionWindowScaleEnabled = options.windowScale.isSome := by
      rw [← hstream]; rfl
    have hl4Length : hasL4 = true → stream.l4Offset = stream.ipOffset + ip.version.headerLength := by
      intro _
      rw [LayoutFields.l4Offset, hl3Length]
    have hudp : ip.protocol = 17 → hasL4 = true := by
      intro hp
      simp [hhas, hp]
    constructor
    · intro hagree
      have hnetwork : stream.ipOffset = ip.offset := hagree.network _ rfl
      have hl4 : hasL4 = true → stream.l4Offset = ip.offset + ip.length := by
        intro hl4
        exact hagree.transport _ (by simp [hl4])
      constructor
      · omega
      · intro hv4 hp
        have hl4' := hl4 (by simp [hhas, hp])
        rw [hl4Length (by simp [hhas, hp]), hnetwork, hv4, IpVersion.headerLength] at hl4'
        omega
      · intro hp
        have hl4 := hl4 (by simp [hhas, hp])
        rw [if_pos hp] at hoptions
        rw [hoptions]
        have hmssValue := hagree.mssValue
        have hsackEdge := hagree.sackLeftEdge
        have htimestampValue := hagree.timestampValue
        have hscaleValue := hagree.windowScaleValue
        rw [hl4] at hmssValue hsackEdge htimestampValue hscaleValue
        constructor
        · exact (mss_iff hmss _).mp hmssValue
        · exact (sack_iff hmss hpermitted hsack _ _).mp hsackEdge
        · exact (timestamp_iff hmss hpermitted hsack htimestamp _ _).mp htimestampValue
        · exact (windowScale_iff hmss hpermitted hsack htimestamp hscale _).mp hscaleValue
      · intro hp hsome
        obtain ⟨info, hinfo⟩ := Option.isSome_iff_exists.mp hsome
        rw [if_pos hp, hinfo] at hgtpu
        have hinner := hagree.gtpuInner info.inner.offset (by rw [← hgtpu]; rfl)
        have hl4 := hl4 (hudp hp)
        rw [← gtpuInner_iff hinfo, ← hinner, ← hl4, ← hstream, ← hgtpu]
        rfl
    · intro hcanonical
      have hnetwork : stream.ipOffset = ip.offset := by
        have hmpls := hcanonical.mpls
        omega
      have hl4 : hasL4 = true → stream.l4Offset = ip.offset + ip.length := by
        intro hl4
        rw [hl4Length hl4, hnetwork]
        cases hv : ip.version with
        | ipv4 =>
            rw [hcanonical.ipv4 hv (fun hp => hhas.mp hl4 ⟨hv, hp⟩)]
            rfl
        | ipv6 =>
            rw [hipv6 hv]
            rfl
      have hoptionsCanonical : options.Canonical := by
        rw [← hoptions]
        split_ifs with hp
        · exact hcanonical.options hp
        · constructor <;> simp
      -- an option is found behind a transport header
      have hplace : ∀ {found : Option TcpOption} {value : Option Nat} {field : Nat},
          (ip.protocol ≠ 6 → found = none)
          → (∀ offset ∈ found.map fun option => ip.offset + ip.length + 20 + option.index + field,
            value.map (ip.offset + ip.length + ·) = some offset)
          → ∀ offset ∈ found.map fun option => ip.offset + ip.length + 20 + option.index + field,
            value.map (stream.l4Offset + ·) = some offset := by
        intro found value field hnone h
        by_cases hp : ip.protocol = 6
        · rwa [hl4 (by simp [hhas, hp])]
        · simp [hnone hp]
      have hnone : ip.protocol ≠ 6 → options = {} := by
        intro hp
        rw [← hoptions, if_neg hp]
      constructor
      · rintro _ ⟨⟩
        exact hnetwork
      · intro offset hoffset
        split_ifs at hoffset with hhasL4
        · cases hoffset
          exact hl4 hhasL4
        · simp at hoffset
      · exact hplace (fun hp => by rw [hnone hp]) ((mss_iff hmss _).mpr hoptionsCanonical.mss)
      · exact hplace (fun hp => by rw [hnone hp])
          ((sack_iff hmss hpermitted hsack _ _).mpr hoptionsCanonical.sack)
      · exact hplace (fun hp => by rw [hnone hp])
          ((sack_iff hmss hpermitted hsack _ _).mpr hoptionsCanonical.sack)
      · exact hplace (fun hp => by rw [hnone hp])
          ((timestamp_iff hmss hpermitted hsack htimestamp _ _).mpr hoptionsCanonical.timestamp)
      · exact hplace (fun hp => by rw [hnone hp])
          ((timestamp_iff hmss hpermitted hsack htimestamp _ _).mpr hoptionsCanonical.timestamp)
      · exact hplace (fun hp => by rw [hnone hp])
          ((windowScale_iff hmss hpermitted hsack htimestamp hscale _).mpr
            hoptionsCanonical.windowScale)
      · intro offset hoffset
        obtain ⟨info, hinfo, rfl⟩ := Option.map_eq_some_iff.mp hoffset
        rw [hinfo] at hvxlan
        split_ifs at hvxlan with hp
        rw [packetVxlanInfo_offset hvxlan, ← hl4 (hudp hp)]
        rfl
      · intro offset hoffset
        obtain ⟨info, hinfo, rfl⟩ := Option.map_eq_some_iff.mp hoffset
        rw [hinfo] at hgtpu hstream
        split_ifs at hgtpu with hp
        rw [← (gtpuInner_iff hgtpu).mpr (hcanonical.gtpu hp (by rw [hgtpu]; rfl)), ← hl4 (hudp hp),
          ← hstream]
        rfl
      · intro offset hoffset
        obtain ⟨info, hinfo, rfl⟩ := Option.map_eq_some_iff.mp hoffset
        rw [hinfo] at hgre hstream
        split_ifs at hgre with hp
        rw [packetGreInfo_offset hgre, ← hl4 (by simp [hhas, hp]), ← hstream]
        simp only [LayoutFields.greInnerOffset, LayoutFields.l4Offset, LayoutFields.greHeaderLength,
          Nat.add_assoc]
        rfl

/-- The layout of an imported stream is that of its packet exactly when the packet has the form
that the editor writes. -/
theorem importedLayout_agrees_iff {packet : Bytes} {stream : LayoutFields} {found : FoundOffsets}
    (h : streamFromEthernetPacket packet = some (stream, found)) :
    LayoutAgrees stream found ↔ ∀ l2 ip, packetL2PayloadInfo packet = some l2 →
      ipHeader packet = some ip → CanonicalPacket packet l2 ip := by
  unfold streamFromEthernetPacket at h
  split at h
  · simp at h
  · split at h
    · simp at h
    · rename_i l2 hl2
      obtain ⟨hethernet, harp⟩ := agrees_without_ip hl2
      split at h
      · rename_i ip hip
        rw [ipStream_agrees_iff hl2 hip h]
        constructor
        · rintro hcanonical l2' ip' hl2' hip'
          cases hl2.symm.trans hl2'
          cases hip.symm.trans hip'
          exact hcanonical
        · intro hcanonical
          exact hcanonical l2 ip hl2 hip
      · rename_i hip
        have hnone : ∀ l2 ip, packetL2PayloadInfo packet = some l2 → ipHeader packet = some ip →
            CanonicalPacket packet l2 ip := by
          intro l2 ip _ hsome
          simp [hip] at hsome
        split_ifs at h with htype <;> cases h
        · exact iff_of_true (harp htype) hnone
        · exact iff_of_true hethernet hnone

def packetWithIpv4Options : Bytes :=
  List.replicate 12 0 ++ [8, 0] ++ [0x46, 0, 0, 44, 0, 0, 0, 0, 64, 6, 0, 0, 16, 0, 0, 1, 48, 0, 0, 1]
    ++ [1, 1, 1, 0] ++ [4, 1, 0, 12, 0, 0, 0, 0, 0, 0, 0, 0, 0x50, 0, 0, 0, 0, 0, 0, 0]

theorem importedLayout_agrees_packetWithIpv4Options :
    ∃ stream found, streamFromEthernetPacket packetWithIpv4Options = some (stream, found)
      ∧ (LayoutAgrees stream found ↔ ∀ l2 ip, packetL2PayloadInfo packetWithIpv4Options = some l2 →
        ipHeader packetWithIpv4Options = some ip →
        CanonicalPacket packetWithIpv4Options l2 ip) := by
  have hsome : (streamFromEthernetPacket packetWithIpv4Options).isSome = true := by decide
  obtain ⟨⟨stream, found⟩, h⟩ := Option.isSome_iff_exists.mp hsome
  exact ⟨stream, found, h, importedLayout_agrees_iff h⟩

/-- The importer finds the transport header at 38, the layout has it at 34. -/
theorem importedLayout_disagrees :
    ¬∀ packet stream found, streamFromEthernetPacket packet = some (stream, found) →
      LayoutAgrees stream found := by
  intro hall
  have hoffsets : (streamFromEthernetPacket packetWithIpv4Options).map
      (fun imported => (imported.1.ipOffset + imported.1.l3HeaderLength, imported.2.transport))
      = some (34, some 38) := by decide
  obtain ⟨⟨stream, found⟩, h, heq⟩ := Option.map_eq_some_iff.mp hoffsets
  simp only [Prod.mk.injEq] at heq
  obtain ⟨hlayout, hfound⟩ := heq
  have hagree := (hall _ stream found h).transport 38 hfound
  omega

end TrexWebui
