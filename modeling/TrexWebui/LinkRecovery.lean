import TrexWebui.ImportedFields
import TrexWebui.PacketConsistency

/-!
# The link layer is recovered

What the importer finds before the internet header of a built packet: the tags
and the labels that the stream describes, and the type of what follows. Both
loops are followed along the list that was written.
-/

namespace TrexWebui

open PyStr Octets LayoutFields

/-! ## Normalized streams -/

/-- A stream as `normalize_workbench_streams` leaves it: the bounds of its numbers, the switches
that depend on others, and the scopes of its IPv6 addresses, which no packet carries. -/
structure NormalizedStream extends Stream where
  ipv6SrcScope : Option String := none
  ipv6DstScope : Option String := none
  greInnerIpv6SrcScope : Option String := none
  greInnerIpv6DstScope : Option String := none
  vlanPriority_le : vlanPriority ≤ 7 := by decide
  vlanCfi_le : vlanCfi ≤ 1 := by decide
  vlanId_le : vlanId ≤ 4094 := by decide
  vlan2Priority_le : vlan2Priority ≤ 7 := by decide
  vlan2Cfi_le : vlan2Cfi ≤ 1 := by decide
  vlan2Id_le : vlan2Id ≤ 4094 := by decide
  /-- MPLS needs an internet header. -/
  mpls_l3 : mplsEnabled = true → packetType.hasL3 = true := by decide
  mplsLabel_le : mplsLabel ≤ 1048575 := by decide
  mplsTc_le : mplsTc ≤ 7 := by decide
  mplsTtl_le : mplsTtl ≤ 255 := by decide
  mplsLabel2_le : mplsLabel2 ≤ 1048575 := by decide
  mplsLabel2Tc_le : mplsLabel2Tc ≤ 7 := by decide
  mplsLabel2Ttl_le : mplsLabel2Ttl ≤ 255 := by decide
  mplsLabel3_le : mplsLabel3 ≤ 1048575 := by decide
  mplsLabel3Tc_le : mplsLabel3Tc ≤ 7 := by decide
  mplsLabel3Ttl_le : mplsLabel3Ttl ≤ 255 := by decide
  ipv4Dscp_le : ipv4Dscp ≤ 63 := by decide
  ipv4Ecn_le : ipv4Ecn ≤ 3 := by decide
  ipv4FragmentOffset_le : ipv4FragmentOffset ≤ 8191 := by decide
  ipv6TrafficClass_le : ipv6TrafficClass ≤ 255 := by decide
  ipv6FlowLabel_le : ipv6FlowLabel ≤ 1048575 := by decide
  /-- The protocol type of a GRE packet is that of its inner datagram. -/
  greProtocolType_eq : packetType.isGre = true →
    greProtocolType = if toLayoutFields.greInnerVersion = .ipv6 then 0x86DD else 0x0800 := by decide

def plainStream : NormalizedStream := { (default : Stream) with }

theorem plainStream_frameLength : plainStream.frameLength ≤ 9216 := plainStream.frameLength_le

theorem plainStream_gtpu : plainStream.gtpuEnabled = true → plainStream.vxlanEnabled = false :=
  plainStream.gtpu_only

/-! ## VLAN tags -/

/-- A tag as the editor shows it. -/
structure Tag where
  tpid : Nat
  priority : Nat
  cfi : Nat
  id : Nat
  deriving DecidableEq

def Tag.tci (tag : Tag) : Nat := tag.priority * 8192 + tag.cfi * 4096 + tag.id

/-- The tag is one that the importer knows, and its numbers fit. -/
structure Tag.Known (tag : Tag) : Prop where
  tpid : tag.tpid ∈ [0x8100, 0x88A8, 0x9100]
  priority : tag.priority ≤ 7
  cfi : tag.cfi ≤ 1
  id : tag.id ≤ 4094

def firstType : List Tag → (innerType : Nat) → Nat
  | [], innerType => innerType
  | tag :: _, _ => tag.tpid

def tagBytes : List Tag → (innerType : Nat) → Bytes
  | [], innerType => be16 innerType
  | tag :: rest, innerType => be16 tag.tpid ++ (be16 tag.tci ++ tagBytes rest innerType)

def foundTags : List Tag → (innerType : Nat) → List VlanTag
  | [], _ => []
  | tag :: rest, innerType =>
      { tpid := tag.tpid, priority := tag.priority, cfi := tag.cfi, vlan := tag.id,
        innerType := firstType rest innerType } :: foundTags rest innerType

@[simp] theorem length_foundTags (tags : List Tag) (innerType : Nat) :
    (foundTags tags innerType).length = tags.length := by
  induction tags with
  | nil => rfl
  | cons tag rest ih => simp [foundTags, ih]

theorem length_tagBytes (tags : List Tag) (innerType : Nat) :
    (tagBytes tags innerType).length = 4 * tags.length + 2 := by
  induction tags with
  | nil => rfl
  | cons tag rest ih =>
      simp only [tagBytes, List.length_append, length_be16, ih, List.length_cons]
      omega

theorem be16At_tagBytes {tags : List Tag} {innerType : Nat} (hknown : ∀ tag ∈ tags, tag.Known)
    (htype : innerType < 65536) (after : Bytes) :
    be16At (tagBytes tags innerType ++ after) 0 = firstType tags innerType := by
  cases tags with
  | nil => exact be16At_be16 htype after
  | cons tag rest =>
      have htpid : tag.tpid < 65536 := by
        have hmem := (hknown tag List.mem_cons_self).tpid
        simp only [List.mem_cons, List.not_mem_nil, or_false] at hmem
        omega
      rw [tagBytes, List.append_assoc]
      exact be16At_be16 htpid _

theorem vlanTags_tagBytes {packet after : Bytes} {tags : List Tag} {innerType left offset : Nat}
    (hknown : ∀ tag ∈ tags, tag.Known) (htype : innerType < 65536)
    (hinner : innerType ∉ [0x8100, 0x88A8, 0x9100]) (hleft : tags.length ≤ left)
    (hdrop : packet.drop offset = (tagBytes tags innerType).drop 2 ++ after) :
    vlanTags packet left offset (firstType tags innerType) = foundTags tags innerType := by
  induction tags generalizing left offset with
  | nil =>
      cases left with
      | zero => rfl
      | succ left =>
          show (if packet.length < offset + 4 then [] else _) = []
          rw [firstType, if_pos hinner, ite_self]
  | cons tag rest ih =>
      obtain ⟨left, rfl⟩ : ∃ n, left = n + 1 := ⟨left - 1, by simp at hleft; omega⟩
      have hrest : ∀ tag ∈ rest, tag.Known := fun t ht => hknown t (List.mem_cons_of_mem tag ht)
      have htag := hknown tag List.mem_cons_self
      have htci : tag.tci < 65536 := by
        have hpriority := htag.priority
        have hcfi := htag.cfi
        have hid := htag.id
        unfold Tag.tci
        omega
      have hdrop : packet.drop offset = be16 tag.tci ++ (tagBytes rest innerType ++ after) := by
        rw [hdrop, tagBytes, List.drop_left' (length_be16 _), List.append_assoc]
      have hlength : ¬packet.length < offset + 4 := by
        have hlength := congrArg List.length hdrop
        rw [List.length_drop, List.length_append, List.length_append, length_tagBytes,
          length_be16] at hlength
        omega
      have hread := be16At_of_drop hdrop htci
      have hnext : be16At packet (offset + 2) = firstType rest innerType := by
        rw [← be16At_drop, hdrop, be16At_append_right _ (length_be16 _).le]
        exact be16At_tagBytes hrest htype after
      have hafter : packet.drop (offset + 4) = (tagBytes rest innerType).drop 2 ++ after := by
        have hle : 2 ≤ (tagBytes rest innerType).length := by
          rw [length_tagBytes]
          omega
        rw [← List.drop_drop, hdrop]
        show (be16 tag.tci ++ (tagBytes rest innerType ++ after)).drop (2 + 2) = _
        rw [← List.drop_drop, List.drop_left' (length_be16 _), List.drop_append_of_le_length hle]
      have hfields : tag.tci / 8192 = tag.priority ∧ tag.tci / 4096 % 2 = tag.cfi
          ∧ tag.tci % 4096 = tag.id := by
        have hcfi := htag.cfi
        have hid := htag.id
        unfold Tag.tci
        omega
      obtain ⟨hpriority, hcfi, hid⟩ := hfields
      have htpid : ¬(firstType (tag :: rest) innerType ∉ [0x8100, 0x88A8, 0x9100]) :=
        not_not.mpr htag.tpid
      rw [vlanTags, if_neg hlength, if_neg htpid]
      simp only [hread, hnext, hpriority, hcfi, hid]
      rw [ih hrest (by simpa using hleft) hafter]
      rfl

theorem innerType_foundTags (tags : List Tag) (innerType : Nat) :
    match (foundTags tags innerType).getLast? with
    | some tag => tag.innerType = innerType
    | none => tags = [] := by
  induction tags with
  | nil => rfl
  | cons tag rest ih =>
      cases rest with
      | nil => rfl
      | cons next rest => exact ih

/-! ## MPLS labels -/

structure LabelFits (entry : MplsLabel) : Prop where
  label : entry.label ≤ 1048575
  trafficClass : entry.trafficClass ≤ 7
  ttl : entry.ttl ≤ 255

def labelOf (word : Nat) : MplsLabel :=
  { label := word / 4096, trafficClass := word / 512 % 8, ttl := word % 256,
    bottomOfStack := word / 256 % 2 }

theorem labelOf_mplsWord {label : MplsLabel} (hfits : LabelFits label)
    (hbottom : label.bottomOfStack ≤ 1) : labelOf (Stream.mplsWord label) = label := by
  obtain ⟨value, trafficClass, ttl, bottom⟩ := label
  obtain ⟨hvalue, hclass, httl⟩ := hfits
  simp only at hvalue hclass httl hbottom
  simp only [labelOf, Stream.mplsWord, MplsLabel.mk.injEq]
  omega

theorem mplsWord_lt (label : MplsLabel) : Stream.mplsWord label < 4294967296 := by
  unfold Stream.mplsWord
  omega

theorem mplsLabels_word {packet after : Bytes} (label : MplsLabel) {left offset : Nat}
    (hfits : LabelFits label) (hbottom : label.bottomOfStack ≤ 1)
    (hdrop : packet.drop offset = be32 (Stream.mplsWord label) ++ after) :
    mplsLabels packet (left + 1) offset =
      if label.bottomOfStack = 1 then some ([label], offset + 4)
      else (mplsLabels packet left (offset + 4)).map fun found => (label :: found.1, found.2) := by
  have hlength : ¬packet.length < offset + 4 := by
    have hlength := congrArg List.length hdrop
    rw [List.length_drop, List.length_append, length_be32] at hlength
    omega
  have hread := be32At_of_drop hdrop (mplsWord_lt label)
  have hlabel := labelOf_mplsWord hfits hbottom
  have hbit : Stream.mplsWord label / 256 % 2 = label.bottomOfStack :=
    congrArg MplsLabel.bottomOfStack hlabel
  rw [labelOf, hbit] at hlabel
  rw [mplsLabels, if_neg hlength]
  simp only [hread, hbit, hlabel]

theorem mplsLabels_markBottom {packet after : Bytes} {labels : List MplsLabel} {left offset : Nat}
    (hne : labels ≠ []) (hfits : ∀ label ∈ labels, LabelFits label) (hleft : labels.length ≤ left)
    (hdrop : packet.drop offset
      = ((markBottom labels).flatMap fun label => be32 (Stream.mplsWord label)) ++ after) :
    mplsLabels packet left offset = some (markBottom labels, offset + 4 * labels.length) := by
  induction labels generalizing left offset with
  | nil => exact absurd rfl hne
  | cons label rest ih =>
      obtain ⟨left, rfl⟩ : ∃ n, left = n + 1 := ⟨left - 1, by simp at hleft; omega⟩
      obtain ⟨hlabel, hclass, httl⟩ := hfits label List.mem_cons_self
      cases rest with
      | nil =>
          rw [markBottom, List.flatMap_singleton] at hdrop
          rw [mplsLabels_word { label with bottomOfStack := 1 } ⟨hlabel, hclass, httl⟩ (Nat.le_refl 1)
            hdrop]
          rfl
      | cons next rest =>
          rw [markBottom, List.flatMap_cons, List.append_assoc] at hdrop
          have hafter := congrArg (List.drop 4) hdrop
          rw [List.drop_drop, List.drop_left' (length_be32 _)] at hafter
          have hrest := ih (List.cons_ne_nil next rest)
            (fun label hmem => hfits label (List.mem_cons_of_mem _ hmem)) (by simpa using hleft) hafter
          rw [mplsLabels_word { label with bottomOfStack := 0 } ⟨hlabel, hclass, httl⟩ (Nat.zero_le 1)
            hdrop, hrest, if_neg Nat.zero_ne_one, markBottom]
          simp only [Option.map_some, List.length_cons, Nat.mul_add, Nat.add_assoc]
          congr 2
          omega

/-! ## The link layer of a stream -/

/-- The tags of the stream, with the type that each is written with. -/
def Stream.vlanTags (stream : Stream) : List Tag :=
  if stream.vlanEnabled then
    { tpid := stream.vlanTpidValue false, priority := stream.vlanPriority, cfi := stream.vlanCfi,
      id := stream.vlanId }
      :: if stream.vlan2Enabled then
        [{ tpid := stream.vlanTpidValue true, priority := stream.vlan2Priority,
           cfi := stream.vlan2Cfi, id := stream.vlan2Id }]
        else []
  else []

def IpVersion.number : IpVersion → Nat
  | .ipv4 => 4
  | .ipv6 => 6

/-- The link layer is one that the importer knows: no EtherType of its own, and each tag's type is
among the three of `packet_vlan_stack_info`. -/
structure Stream.PlainLink (stream : Stream) : Prop where
  etherType : stream.etherTypeOverride = false
  tpid : ∀ second, stream.vlanTpidValue second ∈ [0x8100, 0x88A8, 0x9100]

theorem Stream.length_vlanTags (stream : Stream) : stream.vlanTags.length = stream.vlanTagCount := by
  unfold Stream.vlanTags LayoutFields.vlanTagCount
  cases stream.vlanEnabled <;> cases stream.vlan2Enabled <;> rfl

namespace NormalizedStream

variable (stream : NormalizedStream)

theorem knownTags (h : stream.PlainLink) : ∀ tag ∈ stream.vlanTags, tag.Known := by
  intro tag hmem
  unfold Stream.vlanTags at hmem
  split_ifs at hmem
  · simp only [List.mem_cons, List.not_mem_nil, or_false] at hmem
    rcases hmem with rfl | rfl
    · exact ⟨h.tpid false, stream.vlanPriority_le, stream.vlanCfi_le, stream.vlanId_le⟩
    · exact ⟨h.tpid true, stream.vlan2Priority_le, stream.vlan2Cfi_le, stream.vlan2Id_le⟩
  · obtain rfl := List.mem_singleton.mp hmem
    exact ⟨h.tpid false, stream.vlanPriority_le, stream.vlanCfi_le, stream.vlanId_le⟩
  · simp at hmem

theorem vlanTci_first : stream.vlanTci false
    = stream.vlanPriority * 8192 + stream.vlanCfi * 4096 + stream.vlanId := by
  have hpriority := stream.vlanPriority_le
  have hcfi := stream.vlanCfi_le
  have hid := stream.vlanId_le
  show stream.vlanPriority % 8 * 8192 + stream.vlanCfi % 2 * 4096 + stream.vlanId % 4096 = _
  omega

theorem vlanTci_second : stream.vlanTci true
    = stream.vlan2Priority * 8192 + stream.vlan2Cfi * 4096 + stream.vlan2Id := by
  have hpriority := stream.vlan2Priority_le
  have hcfi := stream.vlan2Cfi_le
  have hid := stream.vlan2Id_le
  show stream.vlan2Priority % 8 * 8192 + stream.vlan2Cfi % 2 * 4096 + stream.vlan2Id % 4096 = _
  omega

theorem ethernetHeader_eq (h : stream.PlainLink) :
    stream.ethernetHeader = stream.etherDst.val ++ stream.etherSrc.val
      ++ (tagBytes stream.vlanTags stream.innerEtherType ++ stream.mplsHeader) := by
  have hmpls : (if stream.mplsEnabled then stream.mplsHeader else []) = stream.mplsHeader := by
    cases hmpls : stream.mplsEnabled with
    | true => rfl
    | false => simp [Stream.mplsHeader, LayoutFields.mplsStack, hmpls]
  rw [Stream.ethernetHeader, hmpls, List.append_assoc _ _ stream.mplsHeader]
  unfold Stream.vlanTags LayoutFields.vlanTagCount Stream.outerEtherType
  rw [h.etherType]
  cases stream.vlanEnabled <;> cases stream.vlan2Enabled <;>
    simp [tagBytes, Tag.tci, vlanTci_first, vlanTci_second]

theorem fittingLabels : stream.mplsEnabled = true → ∃ labels : List MplsLabel,
    labels ≠ [] ∧ labels.length ≤ 3 ∧ (∀ label ∈ labels, LabelFits label)
      ∧ stream.mplsStack = markBottom labels := by
  intro hmpls
  have hfirst : LabelFits ⟨stream.mplsLabel, stream.mplsTc, stream.mplsTtl, 0⟩ :=
    ⟨stream.mplsLabel_le, stream.mplsTc_le, stream.mplsTtl_le⟩
  have hsecond : LabelFits ⟨stream.mplsLabel2, stream.mplsLabel2Tc, stream.mplsLabel2Ttl, 0⟩ :=
    ⟨stream.mplsLabel2_le, stream.mplsLabel2Tc_le, stream.mplsLabel2Ttl_le⟩
  have hthird : LabelFits ⟨stream.mplsLabel3, stream.mplsLabel3Tc, stream.mplsLabel3Ttl, 0⟩ :=
    ⟨stream.mplsLabel3_le, stream.mplsLabel3Tc_le, stream.mplsLabel3Ttl_le⟩
  rw [LayoutFields.mplsStack, if_pos hmpls]
  refine ⟨_, ?_, ?_, ?_, rfl⟩
  · simp
  · cases stream.mplsLabel2Enabled <;> cases stream.mplsLabel3Enabled <;> simp
  · cases stream.mplsLabel2Enabled <;> cases stream.mplsLabel3Enabled <;>
      simp [hfirst, hsecond, hthird]

theorem innerEtherType_lt : stream.innerEtherType < 65536
    ∧ stream.innerEtherType ∉ [0x8100, 0x88A8, 0x9100] := by
  unfold Stream.innerEtherType Stream.l3EtherType
  split_ifs <;> first | decide | (split <;> decide)

theorem packetL2PayloadInfo_ethernetHeader (h : stream.PlainLink) {body : Bytes}
    (hbody : 4 ≤ body.length) (hversion : stream.packetType.hasL3 = true →
      octetAt body 0 / 16 = stream.packetType.ipVersion.number) :
    packetL2PayloadInfo (stream.ethernetHeader ++ body) =
      some ⟨stream.l3EtherType, stream.l2HeaderLength,
        foundTags stream.vlanTags stream.innerEtherType, stream.mplsStack⟩ := by
  generalize hpacket : stream.ethernetHeader ++ body = packet
  obtain ⟨htype, hinner⟩ := stream.innerEtherType_lt
  have hknown := stream.knownTags h
  have haddresses : (stream.etherDst.val ++ stream.etherSrc.val).length = 12 := by simp
  have hsplit : packet = stream.etherDst.val ++ stream.etherSrc.val
      ++ (tagBytes stream.vlanTags stream.innerEtherType ++ (stream.mplsHeader ++ body)) := by
    rw [← hpacket, stream.ethernetHeader_eq h]
    simp only [List.append_assoc]
  have htags : packet.drop 12
      = tagBytes stream.vlanTags stream.innerEtherType ++ (stream.mplsHeader ++ body) := by
    rw [hsplit, List.drop_left' haddresses]
  have htagsLength := length_tagBytes stream.vlanTags stream.innerEtherType
  have hlength : packet.length = 14 + 4 * stream.vlanTags.length + stream.mplsHeader.length
      + body.length := by
    rw [hsplit, List.length_append, haddresses, List.length_append, List.length_append, htagsLength]
    omega
  have hfirst : be16At packet 12 = firstType stream.vlanTags stream.innerEtherType := by
    rw [← Nat.add_zero 12, ← be16At_drop, htags]
    exact be16At_tagBytes hknown htype _
  have hafter : packet.drop 14
      = (tagBytes stream.vlanTags stream.innerEtherType).drop 2 ++ (stream.mplsHeader ++ body) := by
    show packet.drop (12 + 2) = _
    rw [← List.drop_drop, htags, List.drop_append_of_le_length (by omega)]
  have hcount : stream.vlanTags.length ≤ 2 := by
    rw [stream.length_vlanTags, LayoutFields.vlanTagCount]
    split_ifs <;> omega
  have hstack : packetVlanStackInfo packet = foundTags stream.vlanTags stream.innerEtherType := by
    rw [packetVlanStackInfo, if_neg (by omega), hfirst]
    exact vlanTags_tagBytes hknown htype hinner hcount hafter
  have htagged : taggedEtherType packet = stream.innerEtherType := by
    have hlast := innerType_foundTags stream.vlanTags stream.innerEtherType
    unfold taggedEtherType
    rw [hstack]
    revert hlast
    cases (foundTags stream.vlanTags stream.innerEtherType).getLast? with
    | some tag => exact id
    | none =>
        intro hnil
        rw [hfirst, hnil]
        rfl
  have hlabels : packet.drop (14 + 4 * stream.vlanTags.length) = stream.mplsHeader ++ body := by
    have hsum : 14 + 4 * stream.vlanTags.length
        = 12 + (tagBytes stream.vlanTags stream.innerEtherType).length := by omega
    rw [hsum, ← List.drop_drop, htags, List.drop_left]
  rw [packetL2PayloadInfo, if_neg (by omega)]
  simp only [hstack, htagged, length_foundTags]
  cases hmpls : stream.mplsEnabled with
  | false =>
      have hinnerType : stream.innerEtherType = stream.l3EtherType := by
        rw [Stream.innerEtherType, hmpls]
        rfl
      have hplain : stream.l3EtherType ∉ [0x8847, 0x8848] := by
        unfold Stream.l3EtherType
        split_ifs <;> first | decide | (split <;> decide)
      have hempty : stream.mplsStack = [] := by
        rw [LayoutFields.mplsStack, hmpls]
        rfl
      rw [hinnerType, if_neg hplain, LayoutFields.l2HeaderLength, hempty, stream.length_vlanTags]
      rfl
  | true =>
      obtain ⟨labels, hne, hthree, hfits, hmarked⟩ := stream.fittingLabels hmpls
      have hl3 := stream.mpls_l3 hmpls
      have hinnerType : stream.innerEtherType = 0x8847 := by
        rw [Stream.innerEtherType, hmpls]
        rfl
      have hmarkedLength : (markBottom labels).length = labels.length := by
        clear hmarked hfits hthree hne
        induction labels with
        | nil => rfl
        | cons label rest ih =>
            cases rest with
            | nil => rfl
            | cons next rest => simpa [markBottom] using ih
      have hheader : stream.mplsHeader.length = 4 * labels.length := by
        rw [stream.length_mplsHeader, hmarked, hmarkedLength]
      have hfound : packetMplsStackInfo packet (14 + 4 * stream.vlanTags.length)
          = some (stream.mplsStack, 14 + 4 * stream.vlanTags.length + 4 * labels.length) := by
        rw [hmarked]
        apply mplsLabels_markBottom hne hfits (by omega)
        rw [hlabels, Stream.mplsHeader, hmarked]
      have hoctet : octetAt packet (14 + 4 * stream.vlanTags.length + 4 * labels.length)
          = octetAt body 0 := by
        rw [← hheader, ← Nat.add_zero (_ + _), ← octetAt_drop, ← List.drop_drop, hlabels,
          List.drop_left]
      have hl2 : stream.l2HeaderLength = 14 + 4 * stream.vlanTags.length + 4 * labels.length := by
        rw [LayoutFields.l2HeaderLength, hmarked, hmarkedLength, stream.length_vlanTags]
      rw [hinnerType, if_pos (by decide), hfound]
      simp only [hoctet, hversion hl3]
      rw [if_neg (by omega), hl2]
      have harp : stream.packetType.hasArp = false := by
        revert hl3
        cases stream.packetType <;> decide
      unfold Stream.l3EtherType
      rw [harp, hl3]
      cases stream.packetType.ipVersion <;> rfl

end NormalizedStream

end TrexWebui
