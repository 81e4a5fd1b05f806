import TrexWebui.CaptureNests

/-!
# The tunnels run

Every function of the decoder runs in the depth that its nest has
(`appendLayers_relates`), with the same result on two packets that begin alike as
long as the headers on the way are contained in what the packets share.
-/

namespace TrexWebui

open PyStr Octets PacketReader

/-! ## Encapsulation -/

/-- Both functions run for what is carried, with related layers and in the depth that it has. Where
nothing is carried, equal layers are related. -/
structure Conveys (R : List CaptureLayer → List CaptureLayer → Prop) (p q : Bytes)
    (recur recur' : LayerCall → Decoder Unit) (deep : LayerCall → Nat) (carried : Option LayerCall) :
    Prop where
  inner : ∀ c, carried = some c → 0 < deep c ∧ Relates R p q (recur c) (recur' c) () (deep c)
  leaf : carried = none → ∀ layers, R layers layers

theorem Conveys.nothing {p q : Bytes} {recur recur' : LayerCall → Decoder Unit} {deep : LayerCall → Nat} :
    Conveys Eq p q recur recur' deep none where
  inner := by
    intro c hc
    cases hc
  leaf := fun _ _ => rfl

variable {n : Nat} {p q : Bytes} {recur recur' : LayerCall → Decoder Unit} {deep : LayerCall → Nat}
  {R : List CaptureLayer → List CaptureLayer → Prop} [Steady R]

theorem greOptionalFields_runs (hend : Ended n p q) (present : Bool) (cursor : Nat)
    {fields : Decoder (List CaptureField)} (hfields : cursor + 4 ≤ n → Plain p q fields fields) :
    ∃ part, Runs p q (greOptionalFields present cursor fields) (greOptionalFields present cursor fields)
      (if present = true ∧ n < cursor + 4 then none
        else some (cursor + (if present = true then 4 else 0), part)) 0 := by
  obtain ⟨hp, hq⟩ := hend
  cases present with
  | false =>
      refine ⟨[], ?_⟩
      simp only [Bool.false_eq_true, false_and, ite_false, Nat.add_zero]
      exact .pure _
  | true =>
      simp only [true_and, ite_true]
      by_cases hshort : n < cursor + 4
      · refine ⟨[], ?_⟩
        rw [if_pos hshort]
        refine .size (.ite (by omega) (fun _ => .pure _) fun hlong => ?_)
        omega
      · obtain ⟨part, hpart⟩ := hfields (by omega)
        refine ⟨part, ?_⟩
        rw [if_neg hshort]
        refine .size (.ite (by omega) (fun hlong => ?_) fun _ => hpart.bind (.pure _))
        omega

theorem greChecksumFields_plain (h : Agree n p q) {cursor : Nat} (hend : cursor + 4 ≤ n) :
    Plain p q (greChecksumFields cursor) (greChecksumFields cursor) := by
  refine Runs.bindPlain (.word h (by omega)) ?_
  exact Runs.bindPlain (.word h (by omega)) (.pure _)

theorem greKeyFields_plain (h : Agree n p q) {cursor : Nat} (hend : cursor + 4 ≤ n) :
    Plain p q (greKeyFields cursor) (greKeyFields cursor) :=
  Runs.bindPlain (.word32 h hend) (.pure _)

theorem greSequenceFields_plain (h : Agree n p q) {cursor : Nat} (hend : cursor + 4 ≤ n) :
    Plain p q (greSequenceFields cursor) (greSequenceFields cursor) :=
  Runs.bindPlain (.word32 h hend) (.pure _)

theorem appendGrePayload_relates (hend : Ended n p q) {protocolType cursor : Nat}
    (hinner : Conveys R p q recur recur' deep (grePayloadNest protocolType cursor).carried) :
    Relates R p q (appendGrePayload recur protocolType cursor) (appendGrePayload recur' protocolType cursor)
      () ((grePayloadNest protocolType cursor).depth deep) := by
  obtain ⟨hp, hq⟩ := hend
  unfold appendGrePayload
  unfold grePayloadNest at hinner ⊢
  by_cases hipv4 : protocolType = 0x0800
  · rw [if_pos hipv4] at hinner
    rw [if_pos hipv4, if_pos hipv4, if_pos hipv4, Nest.depth_some, Nat.zero_add]
    exact (hinner.inner _ rfl).2
  rw [if_neg hipv4] at hinner
  rw [if_neg hipv4, if_neg hipv4, if_neg hipv4]
  by_cases hipv6 : protocolType = 0x86DD
  · rw [if_pos hipv6] at hinner
    rw [if_pos hipv6, if_pos hipv6, if_pos hipv6, Nest.depth_some, Nat.zero_add]
    exact (hinner.inner _ rfl).2
  · rw [if_neg hipv6] at hinner
    rw [if_neg hipv6, if_neg hipv6, if_neg hipv6, Nest.depth_leaf]
    refine .size ?_
    rw [hp, hq]
    exact (Runs.append _).relates (hinner.leaf rfl)

theorem appendGreLayers_relates (h : Agree n p q) (hend : Ended n p q) {offset : Nat}
    (hinner : Conveys R p q recur recur' deep (greNest p offset).carried) :
    Relates R p q (appendGreLayers recur offset) (appendGreLayers recur' offset) ()
      ((greNest p offset).depth deep) := by
  have hp : p.length = n := hend.1
  have hq : q.length = n := hend.2
  have hcursor : greHeaderEnd (be16At p offset) offset = offset + 4
      + (if be16At p offset &&& 0x8000 ≠ 0 then 4 else 0)
      + (if be16At p offset &&& 0x2000 ≠ 0 then 4 else 0)
      + (if be16At p offset &&& 0x1000 ≠ 0 then 4 else 0) := rfl
  simp only [greNest, Nest.carried_called] at hinner
  simp only [greNest, Nest.depth_called]
  refine Relates.call (.size (.ite (by omega) (fun hshort => ?_) fun hlong => ?_))
  · have hleaf : p.length < greHeaderEnd (be16At p offset) offset := by omega
    rw [if_pos hleaf] at hinner ⊢
    exact (Runs.append _).relates (hinner.leaf rfl)
  refine Relates.bind (.word h (by omega)) (Relates.bind (.word h (by omega)) ?_)
  -- Each part of the header is there as a whole, or the packet ends in it.
  obtain ⟨checksum, hchecksum⟩ := greOptionalFields_runs hend
    (decide (be16At p offset &&& 0x8000 ≠ 0)) (offset + 4) (greChecksumFields_plain h)
  simp only [decide_eq_true_eq] at hchecksum
  refine Relates.bind hchecksum ?_
  by_cases hsum : be16At p offset &&& 0x8000 ≠ 0 ∧ n < offset + 4 + 4
  · have hshort : p.length < greHeaderEnd (be16At p offset) offset := by
      rw [hcursor, if_pos hsum.1]
      omega
    rw [if_pos hshort] at hinner ⊢
    rw [if_pos hsum]
    exact (Runs.append _).relates (hinner.leaf rfl)
  rw [if_neg hsum]
  obtain ⟨key, hkey⟩ := greOptionalFields_runs hend (decide (be16At p offset &&& 0x2000 ≠ 0))
    (offset + 4 + if be16At p offset &&& 0x8000 ≠ 0 then 4 else 0) (greKeyFields_plain h)
  simp only [decide_eq_true_eq] at hkey
  refine Relates.bind hkey ?_
  by_cases hkeyed : be16At p offset &&& 0x2000 ≠ 0
      ∧ n < offset + 4 + (if be16At p offset &&& 0x8000 ≠ 0 then 4 else 0) + 4
  · have hshort : p.length < greHeaderEnd (be16At p offset) offset := by
      rw [hcursor, if_pos hkeyed.1]
      omega
    rw [if_pos hshort] at hinner ⊢
    rw [if_pos hkeyed]
    exact (Runs.append _).relates (hinner.leaf rfl)
  rw [if_neg hkeyed]
  obtain ⟨sequence, hsequence⟩ := greOptionalFields_runs hend
    (decide (be16At p offset &&& 0x1000 ≠ 0))
    (offset + 4 + (if be16At p offset &&& 0x8000 ≠ 0 then 4 else 0)
      + if be16At p offset &&& 0x2000 ≠ 0 then 4 else 0)
    (greSequenceFields_plain h)
  simp only [decide_eq_true_eq] at hsequence
  refine Relates.bind hsequence ?_
  by_cases hnumbered : be16At p offset &&& 0x1000 ≠ 0
      ∧ n < offset + 4 + (if be16At p offset &&& 0x8000 ≠ 0 then 4 else 0)
        + (if be16At p offset &&& 0x2000 ≠ 0 then 4 else 0) + 4
  · have hshort : p.length < greHeaderEnd (be16At p offset) offset := by
      rw [hcursor, if_pos hnumbered.1]
      omega
    rw [if_pos hshort] at hinner ⊢
    rw [if_pos hnumbered]
    exact (Runs.append _).relates (hinner.leaf rfl)
  have hwhole : ¬p.length < greHeaderEnd (be16At p offset) offset := by
    rw [hcursor]
    split_ifs at hsum hkeyed hnumbered ⊢ <;> omega
  rw [if_neg hnumbered, ← hcursor]
  rw [if_neg hwhole] at hinner ⊢
  rw [hp, hq]
  exact Relates.bind (.append _) (appendGrePayload_relates hend hinner)

theorem appendIpTunnelLayers_relates (h : Agree n p q) {offset packetEnd protocol : Nat}
    (hend : packetEnd ≤ n) (outerIpv6 : Bool)
    (hinner : Conveys R p q recur recur' deep (ipTunnelNest p offset packetEnd protocol).carried) :
    Relates R p q (appendIpTunnelLayers recur offset packetEnd protocol outerIpv6)
      (appendIpTunnelLayers recur' offset packetEnd protocol outerIpv6) ()
      ((ipTunnelNest p offset packetEnd protocol).depth deep) := by
  have hp : min p.length packetEnd = packetEnd := Nat.min_eq_right (hend.trans h.left)
  have hq : min q.length packetEnd = packetEnd := Nat.min_eq_right (hend.trans h.right)
  simp only [ipTunnelNest, Nest.carried_called] at hinner
  simp only [ipTunnelNest, Nest.depth_called]
  refine Relates.call (.size ?_)
  simp only [hp, hq]
  by_cases hempty : packetEnd ≤ offset
  · simp only [if_pos hempty, Nest.depth_leaf] at hinner ⊢
    exact (Runs.append _).relates (hinner.leaf rfl)
  simp only [if_neg hempty] at hinner ⊢
  refine Relates.bind (.octet h (by omega)) ?_
  by_cases hversion : (protocol = 4 ∧ octetAt p offset / 16 ≠ 4)
      ∨ (protocol = 41 ∧ octetAt p offset / 16 ≠ 6)
  · simp only [if_pos hversion, Nest.depth_leaf] at hinner ⊢
    exact (Runs.append _).relates (hinner.leaf rfl)
  simp only [if_neg hversion] at hinner ⊢
  refine Relates.bind (.append _) ?_
  by_cases hipv4 : protocol = 4
  · simp only [if_pos hipv4] at hinner ⊢
    rw [Nest.depth_some, Nat.zero_add]
    exact (hinner.inner _ rfl).2
  · simp only [if_neg hipv4] at hinner ⊢
    rw [Nest.depth_some, Nat.zero_add]
    exact (hinner.inner _ rfl).2

theorem appendUdpIpTunnelLayers_relates (h : Agree n p q) {offset packetEnd : Nat} (hend : packetEnd ≤ n)
    (srcPort dstPort : Nat)
    (hinner : Conveys R p q recur recur' deep (udpTunnelled p offset packetEnd)) :
    Relates R p q (appendUdpIpTunnelLayers recur offset packetEnd srcPort dstPort)
      (appendUdpIpTunnelLayers recur' offset packetEnd srcPort dstPort)
      (udpTunnelled p offset packetEnd).isSome
      ((Nest.mk 1 (udpTunnelled p offset packetEnd)).depth deep) := by
  have hp : min p.length packetEnd = packetEnd := Nat.min_eq_right (hend.trans h.left)
  have hq : min q.length packetEnd = packetEnd := Nat.min_eq_right (hend.trans h.right)
  have hdepth : (Nest.mk 1 (udpTunnelled p offset packetEnd)).depth deep
      = (Nest.mk 0 (udpTunnelled p offset packetEnd)).depth deep + 1 :=
    Nest.depth_called deep ⟨0, udpTunnelled p offset packetEnd⟩
  rw [hdepth]
  refine Relates.call (.size ?_)
  simp only [hp, hq]
  unfold udpTunnelled datagramAt at hinner ⊢
  by_cases hempty : packetEnd ≤ offset
  · simp only [if_pos hempty] at hinner ⊢
    exact (Runs.pure _).relates (hinner.leaf rfl)
  simp only [if_neg hempty] at hinner ⊢
  refine Relates.bind (.octet h (by omega)) ?_
  by_cases hipv4 : octetAt p offset / 16 = 4
  · simp only [hipv4, true_or, ite_true] at hinner ⊢
    rw [Nest.depth_some, Nat.zero_add]
    exact Relates.bind (.append _) (Relates.bindLast (hinner.inner _ rfl).2 (.pure _))
  by_cases hipv6 : octetAt p offset / 16 = 6
  · have hnot : ¬(6 : Nat) = 4 := by decide
    simp only [hipv6, hnot, or_true, ite_true, ite_false] at hinner ⊢
    rw [Nest.depth_some, Nat.zero_add]
    exact Relates.bind (.append _) (Relates.bindLast (hinner.inner _ rfl).2 (.pure _))
  · simp only [hipv4, hipv6, or_self, ite_false] at hinner ⊢
    exact (Runs.pure _).relates (hinner.leaf rfl)

/-! ## Mobile and virtual networks -/

theorem gtpuPortFields_plain (h : Agree n p q) {extensionHeader cursor : Nat} (hend : cursor + 3 ≤ n) :
    Plain p q (gtpuPortFields extensionHeader cursor) (gtpuPortFields extensionHeader cursor) := by
  unfold gtpuPortFields
  exact .ite Iff.rfl (fun _ => Runs.bindPlain (.word h (by omega)) (.pure _)) fun _ => .pure _

theorem gtpuExtensionLoop_runs (h : Agree n p q) {packetEnd : Nat} (hend : packetEnd ≤ n) :
    ∀ {left cursor extensionHeader : Nat},
      Runs p q (gtpuExtensionLoop packetEnd left cursor extensionHeader)
        (gtpuExtensionLoop packetEnd left cursor extensionHeader)
        (gtpuExtensionEnd p packetEnd left cursor extensionHeader) 0 := by
  intro left
  induction left with
  | zero =>
      intro cursor extensionHeader
      exact .ite Iff.rfl (fun _ => .pure _) fun _ => Runs.bind (.append _) (.pure _)
  | succ left ih =>
      intro cursor extensionHeader
      rw [gtpuExtensionLoop, gtpuExtensionEnd]
      by_cases hlast : extensionHeader = 0
      · simp only [if_pos hlast]
        exact .pure _
      simp only [if_neg hlast]
      by_cases hshort : packetEnd < cursor + 4
      · simp only [if_pos hshort]
        exact Runs.bind (.append _) (.pure _)
      simp only [if_neg hshort]
      refine Runs.bind (.octet h (by omega)) ?_
      by_cases hinvalid : octetAt p cursor * 4 < 4
      · simp only [if_pos hinvalid]
        exact Runs.bind (.append _) (.pure _)
      simp only [if_neg hinvalid]
      by_cases hlong : packetEnd < cursor + octetAt p cursor * 4
      · simp only [if_pos hlong]
        exact Runs.bind (.append _) (.pure _)
      simp only [if_neg hlong]
      refine Runs.bind (.octet h (by omega)) ?_
      have hthree : cursor + 3 ≤ n := by omega
      obtain ⟨port, hport⟩ := @gtpuPortFields_plain n p q h extensionHeader cursor hthree
      exact Runs.bind hport (Runs.bind (.append _) ih)

theorem appendGtpuPayload_relates (h : Agree n p q) {cursor gtpuEnd : Nat} (hlt : cursor < n)
    (hinner : Conveys R p q recur recur' deep (datagramAt p cursor gtpuEnd)) :
    Relates R p q (appendGtpuPayload recur cursor gtpuEnd) (appendGtpuPayload recur' cursor gtpuEnd) ()
      ((Nest.mk 0 (datagramAt p cursor gtpuEnd)).depth deep) := by
  unfold appendGtpuPayload
  unfold datagramAt at hinner ⊢
  refine Relates.bind (.octet h hlt) ?_
  by_cases hipv4 : octetAt p cursor / 16 = 4
  · simp only [if_pos hipv4] at hinner ⊢
    rw [Nest.depth_some, Nat.zero_add]
    exact (hinner.inner _ rfl).2
  simp only [if_neg hipv4] at hinner ⊢
  by_cases hipv6 : octetAt p cursor / 16 = 6
  · simp only [if_pos hipv6] at hinner ⊢
    rw [Nest.depth_some, Nat.zero_add]
    exact (hinner.inner _ rfl).2
  · simp only [if_neg hipv6] at hinner ⊢
    exact (Runs.append _).relates (hinner.leaf rfl)

theorem appendGtpuContents_relates (h : Agree n p q) {gtpuEnd : Nat} (hend : gtpuEnd ≤ n)
    (messageType cursor nextExtensionHeader : Nat)
    (hinner : Conveys R p q recur recur' deep
      (gtpuContentsNest p messageType cursor gtpuEnd nextExtensionHeader).carried) :
    Relates R p q (appendGtpuContents recur messageType cursor gtpuEnd nextExtensionHeader)
      (appendGtpuContents recur' messageType cursor gtpuEnd nextExtensionHeader) ()
      ((gtpuContentsNest p messageType cursor gtpuEnd nextExtensionHeader).depth deep) := by
  unfold appendGtpuContents
  unfold gtpuContentsNest at hinner ⊢
  by_cases hnothing : messageType ≠ 0xFF ∨ gtpuEnd ≤ cursor
  · simp only [if_pos hnothing] at hinner ⊢
    exact (Runs.pure _).relates (hinner.leaf rfl)
  simp only [if_neg hnothing] at hinner ⊢
  by_cases hplain : nextExtensionHeader = 0
  · simp only [if_pos hplain] at hinner ⊢
    exact appendGtpuPayload_relates h (by omega) hinner
  simp only [if_neg hplain] at hinner ⊢
  have hextensions : Runs p q (appendGtpuExtensionLayers cursor gtpuEnd nextExtensionHeader)
      (appendGtpuExtensionLayers cursor gtpuEnd nextExtensionHeader)
      (gtpuExtensionEnd p gtpuEnd 4 cursor nextExtensionHeader) 1 :=
    Runs.call (gtpuExtensionLoop_runs h hend)
  by_cases hbehind : gtpuEnd ≤ gtpuExtensionEnd p gtpuEnd 4 cursor nextExtensionHeader
  · simp only [if_pos hbehind] at hinner ⊢
    refine (Runs.bindLast hextensions ?_).relates (hinner.leaf rfl)
    rw [if_pos hbehind, if_pos hbehind]
    exact .pure _
  simp only [if_neg hbehind] at hinner ⊢
  have hpayload := @appendGtpuPayload_relates n p q recur recur' deep R _ h
    (gtpuExtensionEnd p gtpuEnd 4 cursor nextExtensionHeader) gtpuEnd (by omega)
  rcases hdatagram : datagramAt p (gtpuExtensionEnd p gtpuEnd 4 cursor nextExtensionHeader) gtpuEnd
    with _ | c
  · simp only [hdatagram] at hinner hpayload
    have hmax : Nest.leaf.called.depth deep = max 1 ((Nest.mk 0 none).depth deep) := rfl
    rw [hmax]
    refine Relates.bindMax (hextensions.relates fun _ => rfl) ?_
    rw [if_neg hbehind, if_neg hbehind]
    exact hpayload hinner
  · simp only [hdatagram] at hinner hpayload
    have hdeep : 0 < deep c := (hinner.inner c rfl).1
    have hmax : (Nest.mk 0 (some c)).depth deep = max 1 ((Nest.mk 0 (some c)).depth deep) := by
      rw [Nest.depth_some]
      omega
    rw [hmax]
    refine Relates.bindMax (hextensions.relates fun _ => rfl) ?_
    rw [if_neg hbehind, if_neg hbehind]
    exact hpayload hinner

theorem appendGtpuLayers_relates (h : Agree n p q) {offset packetEnd : Nat} (hend : packetEnd ≤ n)
    (hinner : Conveys R p q recur recur' deep (gtpuNest p offset packetEnd).carried) :
    Relates R p q (appendGtpuLayers recur offset packetEnd) (appendGtpuLayers recur' offset packetEnd) ()
      ((gtpuNest p offset packetEnd).depth deep) := by
  have hp : min p.length packetEnd = packetEnd := Nat.min_eq_right (hend.trans h.left)
  have hq : min q.length packetEnd = packetEnd := Nat.min_eq_right (hend.trans h.right)
  simp only [gtpuNest, Nest.carried_called] at hinner
  simp only [gtpuNest, Nest.depth_called]
  refine Relates.call (.size ?_)
  simp only [hp, hq]
  by_cases hshort : packetEnd < offset + 8
  · simp only [if_pos hshort, Nest.depth_leaf] at hinner ⊢
    exact (Runs.append _).relates (hinner.leaf rfl)
  simp only [if_neg hshort] at hinner ⊢
  refine Relates.bind (.octet h (by omega)) ?_
  refine Relates.bind (.octet h (by omega)) ?_
  refine Relates.bind (.word h (by omega)) ?_
  refine Relates.bind (.word32 h (by omega)) ?_
  by_cases hflags : (octetAt p offset >>> 5 &&& 0x07) ≠ 1 ∨ (octetAt p offset >>> 4 &&& 0x01) ≠ 1
  · simp only [if_pos hflags, Nest.depth_leaf] at hinner ⊢
    exact (Runs.append _).relates (hinner.leaf rfl)
  simp only [if_neg hflags] at hinner ⊢
  by_cases hplain : octetAt p offset &&& 0x07 = 0
  · simp only [if_pos hplain] at hinner ⊢
    exact Relates.bind (.append _) (appendGtpuContents_relates h (by omega) _ _ _ hinner)
  simp only [if_neg hplain] at hinner ⊢
  by_cases hoptional : min packetEnd (offset + 8 + be16At p (offset + 2)) < offset + 12
  · simp only [if_pos hoptional, Nest.depth_leaf] at hinner ⊢
    exact (Runs.append _).relates (hinner.leaf rfl)
  simp only [if_neg hoptional] at hinner ⊢
  refine Relates.bind (.word h (by omega)) ?_
  refine Relates.bind (.octet h (by omega)) ?_
  refine Relates.bind (.octet h (by omega)) ?_
  exact Relates.bind (.append _) (appendGtpuContents_relates h (by omega) _ _ _ hinner)

theorem appendVxlanLayers_relates (h : Agree n p q) {offset packetEnd : Nat} (hend : packetEnd ≤ n)
    (hinner : Conveys R p q recur recur' deep (vxlanFrame p offset packetEnd)) :
    Relates R p q (appendVxlanLayers recur offset packetEnd) (appendVxlanLayers recur' offset packetEnd)
      (vxlanFrame p offset packetEnd).isSome
      ((Nest.mk 1 (vxlanFrame p offset packetEnd)).depth deep) := by
  have hp : min p.length packetEnd = packetEnd := Nat.min_eq_right (hend.trans h.left)
  have hq : min q.length packetEnd = packetEnd := Nat.min_eq_right (hend.trans h.right)
  have hdepth : (Nest.mk 1 (vxlanFrame p offset packetEnd)).depth deep
      = (Nest.mk 0 (vxlanFrame p offset packetEnd)).depth deep + 1 :=
    Nest.depth_called deep ⟨0, vxlanFrame p offset packetEnd⟩
  rw [hdepth]
  refine Relates.call (.size ?_)
  simp only [hp, hq]
  unfold vxlanFrame at hinner ⊢
  by_cases hshort : packetEnd < offset + 8
  · simp only [hshort, true_or, ite_true] at hinner ⊢
    exact (Runs.pure _).relates (hinner.leaf rfl)
  simp only [hshort, false_or, ite_false] at hinner ⊢
  refine Relates.bind (.octet h (by omega)) ?_
  by_cases hflag : octetAt p offset &&& 0x08 ≠ 0x08
  · simp only [if_pos hflag] at hinner ⊢
    exact (Runs.pure _).relates (hinner.leaf rfl)
  simp only [if_neg hflag] at hinner ⊢
  have hfirst : offset + 1 + 3 ≤ n := by omega
  have hsecond : offset + 4 + 3 ≤ n := by omega
  obtain ⟨reserved, hreserved⟩ := @Plain.word24 CaptureLayer n p q h (offset + 1) hfirst
  obtain ⟨vni, hvni⟩ := @Plain.word24 CaptureLayer n p q h (offset + 4) hsecond
  refine Relates.bind hreserved (Relates.bind hvni ?_)
  refine Relates.bind (.octet h (by omega)) (Relates.bind (.append _) ?_)
  rw [Nest.depth_some, Nat.zero_add]
  exact Relates.bindLast (hinner.inner _ rfl).2 (.pure _)

/-! ## Transport -/

theorem appendUdpApplication_plain (h : Agree n p q) {packetEnd : Nat} (hend : packetEnd ≤ n)
    (offset srcPort dstPort : Nat) :
    Plain p q (appendUdpApplication offset packetEnd srcPort dstPort)
      (appendUdpApplication offset packetEnd srcPort dstPort) := by
  unfold appendUdpApplication
  refine .ite Iff.rfl (fun _ => appendDnsLayer_plain h hend offset) fun _ => ?_
  exact .ite Iff.rfl (fun _ => appendDhcpLayer_plain h hend offset) fun _ => .pure _

theorem appendUdpPayload_relates (h : Agree n p q) {packetEnd : Nat} (hend : packetEnd ≤ n)
    (offset srcPort dstPort : Nat)
    (hinner : Conveys R p q recur recur' deep
      (udpPayloadNest p offset packetEnd srcPort dstPort).carried) :
    Relates R p q (appendUdpPayload recur offset packetEnd srcPort dstPort)
      (appendUdpPayload recur' offset packetEnd srcPort dstPort) ()
      ((udpPayloadNest p offset packetEnd srcPort dstPort).depth deep) := by
  have happlication := (appendUdpApplication_plain h hend offset srcPort dstPort).runs
  unfold appendUdpPayload
  unfold udpPayloadNest at hinner ⊢
  by_cases hgtpu : 2152 ∈ [srcPort, dstPort]
  · simp only [if_pos hgtpu] at hinner ⊢
    exact appendGtpuLayers_relates h hend hinner
  simp only [if_neg hgtpu] at hinner ⊢
  by_cases htunnel : 3544 ∈ [srcPort, dstPort] ∨ 3797 ∈ [srcPort, dstPort]
  · simp only [if_pos htunnel, tryWhen, decide_eq_true htunnel, ite_true] at hinner ⊢
    refine Relates.bindLast (appendUdpIpTunnelLayers_relates h hend srcPort dstPort hinner) ?_
    exact .ite Iff.rfl (fun _ => .pure _) fun _ => happlication
  · simp only [if_neg htunnel, tryWhen, decide_eq_false htunnel, Bool.false_eq_true, ite_false]
      at hinner ⊢
    exact Relates.bind (.pure false) (happlication.relates (hinner.leaf rfl))

theorem udpPayloadNest_calls (packet : Bytes) (offset packetEnd srcPort dstPort : Nat) :
    (udpPayloadNest packet offset packetEnd srcPort dstPort).carried = none
      ∨ 1 ≤ (udpPayloadNest packet offset packetEnd srcPort dstPort).calls := by
  unfold udpPayloadNest
  split_ifs
  · exact .inr (Nat.le_add_left 1 _)
  · exact .inr (le_refl 1)
  · exact .inl rfl

theorem appendUdpLayer_relates (h : Agree n p q) {offset packetEnd : Nat} (hend : packetEnd ≤ n)
    (hfit : Ended n p q ∨ offset + 8 ≤ n)
    (hinner : Conveys R p q recur recur' deep (udpNest p offset packetEnd).carried) :
    Relates R p q (appendUdpLayer recur offset packetEnd) (appendUdpLayer recur' offset packetEnd) ()
      ((udpNest p offset packetEnd).depth deep) := by
  have hleft := h.left
  have hright := h.right
  unfold Ended at hfit
  unfold appendUdpLayer
  unfold udpNest at hinner ⊢
  refine .size (.ite (by omega) (fun hshort => ?_) fun hlong => ?_)
  · simp only [if_pos hshort] at hinner ⊢
    exact (Runs.append _).relates (hinner.leaf rfl)
  simp only [if_neg hlong] at hinner ⊢
  refine Relates.bind (.word h (by omega)) (Relates.bind (.word h (by omega)) ?_)
  refine Relates.bind (.word h (by omega)) (Relates.bind (.word h (by omega)) ?_)
  refine Relates.bind (.append _) ?_
  have hpayload := @appendUdpPayload_relates n p q recur recur' deep R _ h
    (min packetEnd (offset + be16At p (offset + 4))) (by omega) (offset + 8) (be16At p offset)
    (be16At p (offset + 2))
  have hcalls := udpPayloadNest_calls p (offset + 8) (min packetEnd (offset + be16At p (offset + 4)))
    (be16At p offset) (be16At p (offset + 2))
  by_cases hport : 4789 ∈ [be16At p offset, be16At p (offset + 2)]
  · simp only [if_pos hport, tryWhen, decide_eq_true hport, ite_true] at hinner ⊢
    have hend' : min packetEnd (offset + be16At p (offset + 4)) ≤ n := by omega
    rcases hframe : vxlanFrame p (offset + 8) (min packetEnd (offset + be16At p (offset + 4)))
      with _ | c
    · simp only [hframe] at hinner ⊢
      have hvxlan := @appendVxlanLayers_relates n p q recur recur' deep Eq _ h (offset + 8) _ hend'
      rw [hframe] at hvxlan
      rw [Nest.depth_beside deep hcalls]
      exact Relates.bindMax (hvxlan .nothing) (hpayload hinner)
    · simp only [hframe] at hinner ⊢
      have hvxlan := @appendVxlanLayers_relates n p q recur recur' deep R _ h (offset + 8) _ hend'
      rw [hframe] at hvxlan
      exact Relates.bindLast (hvxlan hinner) (.pure _)
  · simp only [if_neg hport, tryWhen, decide_eq_false hport, Bool.false_eq_true, ite_false] at hinner ⊢
    exact Relates.bind (.pure false) (hpayload hinner)

theorem appendTransportLayers_relates (h : Agree n p q) {offset packetEnd protocol : Nat} {ipv6 : Bool}
    (hend : packetEnd ≤ n) (hfit : Ended n p q ∨ TransportContained p n offset protocol ipv6)
    (hinner : Conveys R p q recur recur' deep (transportNest p offset packetEnd protocol).carried) :
    Relates R p q (appendTransportLayers recur offset packetEnd protocol ipv6)
      (appendTransportLayers recur' offset packetEnd protocol ipv6) ()
      ((transportNest p offset packetEnd protocol).depth deep) := by
  unfold appendTransportLayers
  unfold transportNest at hinner ⊢
  by_cases hudp : protocol = 17
  · simp only [if_pos hudp, Nest.carried_called, Nest.depth_called] at hinner ⊢
    exact Relates.call (appendUdpLayer_relates h hend (hfit.imp id fun hin => hin.1 hudp) hinner)
  by_cases hgre : protocol = 47
  · subst hgre
    simp only [hudp, ite_false, ite_true, Nest.carried_called, Nest.depth_called] at hinner ⊢
    have hended : Ended n p q := by
      rcases hfit with hended | hin
      · exact hended
      · exact absurd rfl hin.2.2.2.2
    refine Relates.call ?_
    exact appendGreLayers_relates h hended hinner
  by_cases htunnel : protocol = 4 ∨ protocol = 41
  · simp only [if_neg hudp, if_neg hgre, if_pos htunnel, Nest.carried_called, Nest.depth_called]
      at hinner ⊢
    have hrun := appendIpTunnelLayers_relates h hend ipv6 hinner
    rcases htunnel with rfl | rfl
    · exact Relates.call hrun
    · exact Relates.call hrun
  · simp only [if_neg hudp, if_neg hgre, if_neg htunnel, Nest.depth_called, Nest.depth_leaf]
      at hinner ⊢
    refine Relates.call (Runs.relates (Plain.runs ?_) (hinner.leaf rfl))
    refine .ite Iff.rfl (fun htcp => ?_) fun htcp => ?_
    · exact appendTcpLayer_plain h packetEnd (hfit.imp id fun hin => hin.2.1 htcp)
    refine .ite Iff.rfl (fun hsctp => ?_) fun hsctp => ?_
    · exact appendSctpLayer_plain h packetEnd (hfit.imp id fun hin => hin.2.2.1 hsctp)
    refine .ite Iff.rfl (fun hicmp => ?_) fun hicmp => .pure _
    exact appendIcmpLayer_plain h (hfit.imp id fun hin => hin.2.2.2.1 hicmp)

/-! ## Datagrams -/

/-- The end of the datagram is the same for both ends of the frame: they are equal, or the header
is whole and tells an end before both. -/
def SameIpv4End (packet : Bytes) (offset frameEnd frameEnd' : Nat) : Prop :=
  frameEnd = frameEnd' ∨ (frameEnd ≤ frameEnd' ∧ Ipv4WellFormed packet offset frameEnd
    ∧ ipv4HeaderLength packet offset ≤ be16At packet (offset + 2)
    ∧ offset + be16At packet (offset + 2) ≤ frameEnd)

theorem ipv4Datagram_relates (h : Agree n p q) {offset frameEnd frameEnd' : Nat} (hend : frameEnd ≤ n)
    (hends : SameIpv4End p offset frameEnd frameEnd')
    (htransport : Ipv4WellFormed p offset frameEnd →
      Relates R p q
        (appendTransportLayers recur (offset + ipv4HeaderLength p offset) (ipv4PacketEnd p offset frameEnd) (octetAt p (offset + 9)) false)
        (appendTransportLayers recur' (offset + ipv4HeaderLength p offset) (ipv4PacketEnd p offset frameEnd) (octetAt p (offset + 9)) false) ()
        ((transportNest p (offset + ipv4HeaderLength p offset) (ipv4PacketEnd p offset frameEnd) (octetAt p (offset + 9))).depth deep))
    (hleaf : ¬Ipv4WellFormed p offset frameEnd → ∀ layers, R layers layers) :
    Relates R p q (ipv4Datagram recur offset frameEnd) (ipv4Datagram recur' offset frameEnd') ()
      ((ipv4Nest p offset frameEnd).depth deep) := by
  unfold ipv4Datagram
  unfold ipv4Nest
  by_cases hform : Ipv4WellFormed p offset frameEnd
  · have hsame : (if ipv4HeaderLength p offset ≤ be16At p (offset + 2) then
        min frameEnd' (offset + be16At p (offset + 2)) else frameEnd') = ipv4PacketEnd p offset frameEnd := by
      unfold ipv4PacketEnd
      rcases hends with rfl | ⟨hle, -, htotal, hin⟩
      · rfl
      · rw [if_pos htotal, if_pos htotal]
        omega
    have hle : frameEnd ≤ frameEnd' := by
      rcases hends with rfl | ⟨hle, -⟩
      · exact le_refl _
      · exact hle
    rw [if_pos hform]
    have hrun := htransport hform
    obtain ⟨htwenty, hversion, hihl, hheader⟩ := hform
    refine .ite (by omega) (fun hshort => absurd htwenty (by omega)) fun _ => ?_
    refine Relates.bind (.octet h (by omega)) ?_
    have hgood : ¬(octetAt p offset / 16 ≠ 4 ∨ octetAt p offset % 16 * 4 < 20
        ∨ frameEnd < offset + octetAt p offset % 16 * 4) := by
      unfold ipv4HeaderLength at hihl hheader
      omega
    have hgood' : ¬(octetAt p offset / 16 ≠ 4 ∨ octetAt p offset % 16 * 4 < 20
        ∨ frameEnd' < offset + octetAt p offset % 16 * 4) := by
      unfold ipv4HeaderLength at hihl hheader
      omega
    simp only [if_neg hgood, if_neg hgood']
    refine Relates.bind (.word h (by omega)) ?_
    refine Relates.bind (.octet h (by omega)) ?_
    refine Relates.bind (.word h (by omega)) ?_
    refine Relates.bind (.octets h (by omega)) ?_
    refine Relates.bind (.octets h (by omega)) ?_
    refine Relates.bind (.octet h (by omega)) ?_
    refine Relates.bind (.octet h (by omega)) ?_
    refine Relates.bind (.word h (by omega)) ?_
    refine Relates.bind (.word h (by omega)) ?_
    refine Relates.bind (.append _) ?_
    unfold ipv4HeaderLength at hsame hrun
    rw [hsame]
    exact hrun
  · rw [if_neg hform]
    rcases hends with rfl | ⟨-, hform', -⟩
    · refine .ite Iff.rfl (fun _ => (Runs.append _).relates (hleaf hform)) fun htwenty => ?_
      refine Relates.bind (.octet h (by omega)) ?_
      have hbad : octetAt p offset / 16 ≠ 4 ∨ octetAt p offset % 16 * 4 < 20
          ∨ frameEnd < offset + octetAt p offset % 16 * 4 := by
        unfold Ipv4WellFormed ipv4HeaderLength at hform
        omega
      simp only [if_pos hbad]
      exact (Runs.append _).relates (hleaf hform)
    · exact absurd hform' hform

theorem ipv4Datagram_contained (h : Agree n p q) {offset frameEnd frameEnd' : Nat}
    (hend : frameEnd ≤ n) (hends : SameIpv4End p offset frameEnd frameEnd')
    (hfit : Ended n p q ∨ (Ipv4WellFormed p offset frameEnd →
      TransportContained p n (offset + ipv4HeaderLength p offset) (octetAt p (offset + 9)) false))
    (hinner : Conveys R p q recur recur' deep (ipv4Nest p offset frameEnd).carried) :
    Relates R p q (ipv4Datagram recur offset frameEnd) (ipv4Datagram recur' offset frameEnd') ()
      ((ipv4Nest p offset frameEnd).depth deep) := by
  refine ipv4Datagram_relates h hend hends (fun hform => ?_) fun hform => hinner.leaf ?_
  · rw [ipv4Nest, if_pos hform] at hinner
    refine appendTransportLayers_relates h ?_ (hfit.imp id fun hin => hin hform) hinner
    unfold ipv4PacketEnd
    split
    · exact (Nat.min_le_left _ _).trans hend
    · exact hend
  · rw [ipv4Nest, if_neg hform]
    rfl

def SameIpv6End (packet : Bytes) (offset frameEnd frameEnd' : Nat) : Prop :=
  frameEnd = frameEnd' ∨ (frameEnd ≤ frameEnd' ∧ Ipv6WellFormed packet offset frameEnd
    ∧ 0 < be16At packet (offset + 4) ∧ offset + 40 + be16At packet (offset + 4) ≤ frameEnd)

theorem ipv6Datagram_relates (h : Agree n p q) {offset frameEnd frameEnd' : Nat} (hend : frameEnd ≤ n)
    (hends : SameIpv6End p offset frameEnd frameEnd')
    (htransport : Ipv6WellFormed p offset frameEnd →
      Relates R p q
        (appendTransportLayers recur (offset + 40) (ipv6PacketEnd p offset frameEnd) (octetAt p (offset + 6)) true)
        (appendTransportLayers recur' (offset + 40) (ipv6PacketEnd p offset frameEnd) (octetAt p (offset + 6)) true) ()
        ((transportNest p (offset + 40) (ipv6PacketEnd p offset frameEnd) (octetAt p (offset + 6))).depth deep))
    (hleaf : ¬Ipv6WellFormed p offset frameEnd → ∀ layers, R layers layers) :
    Relates R p q (ipv6Datagram recur offset frameEnd) (ipv6Datagram recur' offset frameEnd') ()
      ((ipv6Nest p offset frameEnd).depth deep) := by
  unfold ipv6Datagram
  unfold ipv6Nest
  by_cases hform : Ipv6WellFormed p offset frameEnd
  · have hsame : (if 0 < be16At p (offset + 4) then
        min frameEnd' (offset + 40 + be16At p (offset + 4)) else frameEnd')
          = ipv6PacketEnd p offset frameEnd := by
      unfold ipv6PacketEnd
      rcases hends with rfl | ⟨hle, -, hpositive, hin⟩
      · rfl
      · rw [if_pos hpositive, if_pos hpositive]
        omega
    have hle : frameEnd ≤ frameEnd' := by
      rcases hends with rfl | ⟨hle, -⟩
      · exact le_refl _
      · exact hle
    rw [if_pos hform]
    have hrun := htransport hform
    obtain ⟨hforty, hversion⟩ := hform
    refine .ite (by omega) (fun hshort => absurd hforty (by omega)) fun _ => ?_
    refine Relates.bind (.octet h (by omega)) ?_
    have hgood : ¬octetAt p offset / 16 ≠ 6 := not_not_intro hversion
    simp only [if_neg hgood]
    refine Relates.bind (.octet h (by omega)) ?_
    refine Relates.bind (.word h (by omega)) ?_
    refine Relates.bind (.octets h (by omega)) ?_
    refine Relates.bind (.octets h (by omega)) ?_
    refine Relates.bind (.octet h (by omega)) ?_
    refine Relates.bind (.word h (by omega)) ?_
    refine Relates.bind (.octet h (by omega)) ?_
    refine Relates.bind (.append _) ?_
    rw [hsame]
    exact hrun
  · rw [if_neg hform]
    rcases hends with rfl | ⟨-, hform', -⟩
    · refine .ite Iff.rfl (fun _ => (Runs.append _).relates (hleaf hform)) fun hforty => ?_
      refine Relates.bind (.octet h (by omega)) ?_
      have hbad : octetAt p offset / 16 ≠ 6 := by
        unfold Ipv6WellFormed at hform
        omega
      simp only [if_pos hbad]
      exact (Runs.append _).relates (hleaf hform)
    · exact absurd hform' hform

theorem ipv6Datagram_contained (h : Agree n p q) {offset frameEnd frameEnd' : Nat}
    (hend : frameEnd ≤ n) (hends : SameIpv6End p offset frameEnd frameEnd')
    (hfit : Ended n p q ∨ (Ipv6WellFormed p offset frameEnd →
      TransportContained p n (offset + 40) (octetAt p (offset + 6)) true))
    (hinner : Conveys R p q recur recur' deep (ipv6Nest p offset frameEnd).carried) :
    Relates R p q (ipv6Datagram recur offset frameEnd) (ipv6Datagram recur' offset frameEnd') ()
      ((ipv6Nest p offset frameEnd).depth deep) := by
  refine ipv6Datagram_relates h hend hends (fun hform => ?_) fun hform => hinner.leaf ?_
  · rw [ipv6Nest, if_pos hform] at hinner
    refine appendTransportLayers_relates h ?_ (hfit.imp id fun hin => hin hform) hinner
    unfold ipv6PacketEnd
    split
    · exact (Nat.min_le_left _ _).trans hend
    · exact hend
  · rw [ipv6Nest, if_neg hform]
    rfl

/-! ## Frames -/

theorem mplsLabelLoop_runs (h : Agree n p q) {frameEnd frameEnd' etherType : Nat}
    (hend : frameEnd ≤ n) (hle : frameEnd ≤ frameEnd') : ∀ {left currentOffset : Nat},
      (frameEnd = frameEnd' ∨ mplsStackEnd p frameEnd left currentOffset ≠ none) →
        Runs p q (mplsLabelLoop frameEnd etherType left currentOffset)
          (mplsLabelLoop frameEnd' etherType left currentOffset)
          (mplsStackEnd p frameEnd left currentOffset) 0 := by
  intro left
  induction left with
  | zero => exact fun _ => Runs.bind (.append _) (.pure _)
  | succ left ih =>
      intro currentOffset hends
      rw [mplsLabelLoop, mplsLabelLoop]
      rw [mplsStackEnd] at hends ⊢
      by_cases hshort : frameEnd < currentOffset + 4
      · rw [if_pos hshort] at hends
        have heq : frameEnd = frameEnd' := hends.resolve_right fun hne => hne rfl
        simp only [← heq, if_pos hshort]
        exact Runs.bind (.append _) (.pure _)
      have hshort' : ¬frameEnd' < currentOffset + 4 := by omega
      simp only [if_neg hshort, if_neg hshort'] at hends ⊢
      refine Runs.bind (.word32 h (by omega)) (Runs.bind (.append _) ?_)
      by_cases hbottom : be32At p currentOffset >>> 8 &&& 0x1 = 1
      · simp only [if_pos hbottom]
        exact .pure _
      · simp only [if_neg hbottom] at hends ⊢
        exact ih hends

theorem appendMplsLayers_relates (h : Agree n p q) {offset frameEnd frameEnd' etherType : Nat}
    (hend : frameEnd ≤ n) (hle : frameEnd ≤ frameEnd')
    (hends : frameEnd = frameEnd' ∨ (mplsNest p offset frameEnd).carried ≠ none)
    (hinner : Conveys R p q recur (fun c => recur' (c.ending frameEnd')) deep
      (mplsNest p offset frameEnd).carried) :
    Relates R p q (appendMplsLayers recur offset frameEnd etherType)
      (appendMplsLayers recur' offset frameEnd' etherType) ()
      ((mplsNest p offset frameEnd).depth deep) := by
  unfold appendMplsLayers
  have hlabels := @mplsLabelLoop_runs n p q h frameEnd frameEnd' etherType hend hle 8 offset
  unfold mplsNest at hends hinner ⊢
  rcases hstack : mplsStackEnd p frameEnd 8 offset with _ | currentOffset
  · simp only [hstack] at hends hinner hlabels ⊢
    have heq : frameEnd = frameEnd' := hends.resolve_right fun hne => hne rfl
    exact Relates.call (Relates.bind (hlabels (.inl heq)) ((Runs.pure _).relates (hinner.leaf rfl)))
  simp only [hstack] at hends hinner hlabels ⊢
  have hnone : frameEnd = frameEnd' ∨ some currentOffset ≠ none := .inr (Option.some_ne_none _)
  by_cases hempty : frameEnd ≤ currentOffset
  · simp only [if_pos hempty] at hends hinner ⊢
    have heq : frameEnd = frameEnd' := hends.resolve_right fun hne => hne rfl
    refine Relates.call (Relates.bind (hlabels hnone) ?_)
    simp only [← heq, if_pos hempty]
    exact (Runs.append _).relates (hinner.leaf rfl)
  have hempty' : ¬frameEnd' ≤ currentOffset := by omega
  simp only [if_neg hempty] at hends hinner ⊢
  have hdepth : (Nest.mk 1 (datagramAt p currentOffset frameEnd)).depth deep
      = (Nest.mk 0 (datagramAt p currentOffset frameEnd)).depth deep + 1 :=
    Nest.depth_called deep ⟨0, datagramAt p currentOffset frameEnd⟩
  rw [hdepth]
  refine Relates.call (Relates.bind (hlabels hnone) ?_)
  simp only [if_neg hempty, if_neg hempty']
  refine Relates.bind (.octet h (by omega)) ?_
  unfold datagramAt at hends hinner ⊢
  by_cases hipv4 : octetAt p currentOffset / 16 = 4
  · simp only [if_pos hipv4] at hinner ⊢
    rw [Nest.depth_some, Nat.zero_add]
    exact (hinner.inner _ rfl).2
  simp only [if_neg hipv4] at hends hinner ⊢
  by_cases hipv6 : octetAt p currentOffset / 16 = 6
  · simp only [if_pos hipv6] at hinner ⊢
    rw [Nest.depth_some, Nat.zero_add]
    exact (hinner.inner _ rfl).2
  · simp only [if_neg hipv6] at hends hinner ⊢
    have heq : frameEnd = frameEnd' := hends.resolve_right fun hne => hne rfl
    rw [← heq]
    exact (Runs.append _).relates (hinner.leaf rfl)

theorem vlanTagLoop_runs (h : Agree n p q) {frameEnd frameEnd' : Nat} (hend : frameEnd ≤ n)
    (hle : frameEnd ≤ frameEnd') : ∀ {left etherType payloadOffset : Nat},
      (frameEnd = frameEnd' ∨ vlanTagged p frameEnd left etherType payloadOffset ≠ none) →
        Runs p q (vlanTagLoop frameEnd left etherType payloadOffset)
          (vlanTagLoop frameEnd' left etherType payloadOffset)
          (vlanTagged p frameEnd left etherType payloadOffset) 0 := by
  intro left
  induction left with
  | zero => exact fun _ => .pure _
  | succ left ih =>
      intro etherType payloadOffset hends
      rw [vlanTagLoop, vlanTagLoop]
      rw [vlanTagged] at hends ⊢
      by_cases htag : etherType ∈ [0x8100, 0x88A8, 0x9100]
      · rw [if_pos htag] at hends ⊢
        rw [if_pos htag, if_pos htag]
        by_cases hshort : frameEnd < payloadOffset + 4
        · rw [if_pos hshort] at hends
          have heq : frameEnd = frameEnd' := hends.resolve_right fun hne => hne rfl
          simp only [← heq, if_pos hshort]
          exact Runs.bind (.append _) (.pure _)
        have hshort' : ¬frameEnd' < payloadOffset + 4 := by omega
        simp only [if_neg hshort, if_neg hshort'] at hends ⊢
        refine Runs.bind (.word h (by omega)) (Runs.bind (.word h (by omega)) ?_)
        exact Runs.bind (.append _) (ih hends)
      · rw [if_neg htag, if_neg htag, if_neg htag]
        exact .pure _

theorem appendFramePayload_relates (h : Agree n p q) {frameEnd frameEnd' etherType payloadOffset : Nat}
    (hend : frameEnd ≤ n) (hle : frameEnd ≤ frameEnd')
    (hends : frameEnd = frameEnd'
      ∨ (framePayloadNest p frameEnd etherType payloadOffset).carried ≠ none)
    (harp : etherType = 0x0806 →
      Relates R p q (appendArpLayers payloadOffset) (appendArpLayers payloadOffset) () 1)
    (hinner : etherType ≠ 0x0806 → Conveys R p q recur (fun c => recur' (c.ending frameEnd')) deep
      (framePayloadNest p frameEnd etherType payloadOffset).carried) :
    Relates R p q (appendFramePayload recur frameEnd etherType payloadOffset)
      (appendFramePayload recur' frameEnd' etherType payloadOffset) ()
      ((framePayloadNest p frameEnd etherType payloadOffset).depth deep) := by
  by_cases hresolution : etherType = 0x0806
  · subst hresolution
    exact harp rfl
  have hinner := hinner hresolution
  unfold appendFramePayload
  unfold framePayloadNest at hends hinner ⊢
  by_cases hipv4 : etherType = 0x0800
  · simp only [if_pos hipv4] at hinner ⊢
    rw [Nest.depth_some, Nat.zero_add]
    exact (hinner.inner _ rfl).2
  simp only [if_neg hipv4] at hends hinner ⊢
  by_cases hipv6 : etherType = 0x86DD
  · simp only [if_pos hipv6] at hinner ⊢
    rw [Nest.depth_some, Nat.zero_add]
    exact (hinner.inner _ rfl).2
  simp only [if_neg hipv6, if_neg hresolution] at hends hinner ⊢
  by_cases hmpls : etherType = 0x8847 ∨ etherType = 0x8848
  · simp only [if_pos hmpls] at hends hinner ⊢
    exact appendMplsLayers_relates h hend hle hends hinner
  · simp only [if_neg hmpls] at hends hinner ⊢
    have heq : frameEnd = frameEnd' := hends.resolve_right fun hne => hne rfl
    rw [← heq]
    exact (Runs.append _).relates (hinner.leaf rfl)

theorem ethernetFrame_relates (h : Agree n p q) {offset frameEnd frameEnd' : Nat} (name : String)
    (hend : frameEnd ≤ n) (hle : frameEnd ≤ frameEnd')
    (hends : frameEnd = frameEnd' ∨ (ethernetNest p offset frameEnd).carried ≠ none)
    (harp : ∀ payloadOffset, framePayload p offset frameEnd = some (0x0806, payloadOffset) →
      Relates R p q (appendArpLayers payloadOffset) (appendArpLayers payloadOffset) () 1)
    (hinner : (∀ payloadOffset, framePayload p offset frameEnd ≠ some (0x0806, payloadOffset)) →
      Conveys R p q recur (fun c => recur' (c.ending frameEnd')) deep
        (ethernetNest p offset frameEnd).carried) :
    Relates R p q (ethernetFrame recur offset frameEnd name) (ethernetFrame recur' offset frameEnd' name)
      () ((ethernetNest p offset frameEnd).depth deep) := by
  unfold ethernetFrame
  unfold ethernetNest framePayload at hends hinner
  unfold ethernetNest framePayload
  unfold framePayload at harp
  by_cases hshort : frameEnd < offset + 14
  · simp only [if_pos hshort] at hends hinner ⊢
    have heq : frameEnd = frameEnd' := hends.resolve_right fun hne => hne rfl
    rw [← heq, if_pos hshort]
    refine (Runs.append _).relates ((hinner ?_).leaf rfl)
    intro payloadOffset hnone
    cases hnone
  have hshort' : ¬frameEnd' < offset + 14 := by omega
  simp only [if_neg hshort, if_neg hshort'] at hends harp hinner ⊢
  refine Relates.bind (.octets h (by omega)) (Relates.bind (.octets h (by omega)) ?_)
  refine Relates.bind (.word h (by omega)) (Relates.bind (.append _) ?_)
  have htags := @vlanTagLoop_runs n p q h frameEnd frameEnd' hend hle 2 (be16At p (offset + 12))
    (offset + 14)
  rcases htagged : vlanTagged p frameEnd 2 (be16At p (offset + 12)) (offset + 14)
    with _ | ⟨etherType, payloadOffset⟩
  · simp only [htagged] at hends hinner htags ⊢
    have heq : frameEnd = frameEnd' := hends.resolve_right fun hne => hne rfl
    refine Relates.bind (htags (.inl heq)) ((Runs.pure _).relates ((hinner ?_).leaf rfl))
    intro payloadOffset hnone
    cases hnone
  · simp only [htagged] at hends harp hinner htags ⊢
    refine Relates.bind (htags (.inr (Option.some_ne_none _))) ?_
    refine appendFramePayload_relates h hend hle hends (fun htype => ?_) fun htype => hinner ?_
    · exact harp payloadOffset (by rw [htype])
    · intro other hsome
      exact htype (Prod.mk.inj (Option.some.inj hsome)).1

/-! ## Packets -/

theorem ending_of_ethernetNest {packet : Bytes} {offset frameEnd : Nat} {c : LayerCall}
    (h : (ethernetNest packet offset frameEnd).carried = some c) : c.ending frameEnd = c := by
  unfold ethernetNest at h
  rcases hpayload : framePayload packet offset frameEnd with _ | ⟨etherType, payloadOffset⟩
  · rw [hpayload] at h
    cases h
  · rw [hpayload] at h
    dsimp only at h
    unfold framePayloadNest mplsNest at h
    split_ifs at h
    · cases h
      rfl
    · cases h
      rfl
    · cases h
    · rcases hstack : mplsStackEnd packet frameEnd 8 payloadOffset with _ | stackEnd
      · rw [hstack] at h
        cases h
      · rw [hstack] at h
        dsimp only [datagramAt] at h
        split_ifs at h
        · cases h
        · cases h
          rfl
        · cases h
          rfl
    · cases h

theorem frameEndOf_le (h : Agree n p q) {packetEnd : Option Nat}
    (hends : EndWithin n (Ended n p q) packetEnd) :
    frameEndOf p.length packetEnd ≤ n ∧ frameEndOf q.length packetEnd = frameEndOf p.length packetEnd := by
  have hleft := h.left
  have hright := h.right
  rcases packetEnd with _ | e
  · exact ⟨le_of_eq hends.1, hends.2.trans hends.1.symm⟩
  · change min p.length e ≤ n ∧ min q.length e = min p.length e
    change e ≤ n at hends
    omega

theorem appendLayersWith_relates (h : Agree n p q) {c : LayerCall} (hends : c.EndsBy n (Ended n p q))
    (hfit : Ended n p q ∨ Contained p n c)
    (hinner : Conveys R p q recur recur' deep (layerNest p c).carried) :
    Relates R p q (appendLayersWith recur c) (appendLayersWith recur' c) ()
      ((layerNest p c).depth deep) := by
  have hleft := h.left
  have hright := h.right
  cases c with
  | ethernet offset packetEnd name =>
      change packetEnd ≤ n at hends
      have hsame : min q.length packetEnd = min p.length packetEnd := by omega
      change Conveys R p q recur recur' deep (ethernetNest p offset (min p.length packetEnd)).carried
        at hinner
      rw [layerNest, Nest.depth_called]
      refine Relates.call (.size ?_)
      rw [hsame]
      refine ethernetFrame_relates h name (by omega) (le_refl _) (.inl rfl) ?_ fun _ => ?_
      · intro payloadOffset hpayload
        refine (appendArpLayers_runs h (hfit.imp id fun hin => hin payloadOffset hpayload)).relates
          (hinner.leaf ?_)
        rw [ethernetNest, hpayload]
        rfl
      · refine ⟨fun inner hcarried => ?_, hinner.leaf⟩
        have hsame : inner.ending (min p.length packetEnd) = inner := ending_of_ethernetNest hcarried
        simp only [hsame]
        exact hinner.inner inner hcarried
  | ipv4 offset packetEnd =>
      obtain ⟨hle, hsame⟩ := frameEndOf_le h hends
      rw [layerNest, Nest.depth_called]
      refine Relates.call (.size ?_)
      rw [hsame]
      exact ipv4Datagram_contained h hle (.inl rfl) hfit hinner
  | ipv6 offset packetEnd =>
      obtain ⟨hle, hsame⟩ := frameEndOf_le h hends
      rw [layerNest, Nest.depth_called]
      refine Relates.call (.size ?_)
      rw [hsame]
      exact ipv6Datagram_contained h hle (.inl rfl) hfit hinner

theorem layerNest_onward {ended : Prop} (hlength : ended → p.length ≤ n) {c inner : LayerCall}
    (hends : c.EndsBy n ended) (hfit : ended ∨ Contained p n c)
    (hcarried : (layerNest p c).carried = some inner) : Onward n (c.offset + 1) ended inner := by
  have hframe : ∀ {packetEnd : Option Nat}, EndWithin n ended packetEnd →
      frameEndOf p.length packetEnd ≤ n := by
    rintro (_ | e) hend
    · exact hlength hend
    · exact (Nat.min_le_right _ _).trans hend
  cases c with
  | ethernet offset packetEnd name =>
      exact ethernetNest_onward ((Nat.min_le_right _ _).trans hends) hcarried
  | ipv4 offset packetEnd =>
      exact ipv4Nest_onward (hframe hends) hlength (hfit.imp id fun hin hform => (hin hform).2.2.2.2)
        hcarried
  | ipv6 offset packetEnd =>
      exact ipv6Nest_onward (hframe hends) hlength (hfit.imp id fun hin hform => (hin hform).2.2.2.2)
        hcarried

/-- The rounds are enough when they are more than the octets that are left: every header lies behind
the one that carries it. -/
theorem appendLayers_relates (h : Agree n p q) : ∀ {fuel fuel' : Nat} {c : LayerCall},
    n < fuel + c.offset → n < fuel' + c.offset → c.offset ≤ n → c.EndsBy n (Ended n p q) →
      (Ended n p q ∨ ∀ header ∈ nestedHeaders p fuel c, Contained p n header) →
        0 < nestedCalls p fuel c
          ∧ Relates Eq p q (appendLayers fuel c) (appendLayers fuel' c) () (nestedCalls p fuel c) := by
  intro fuel
  induction fuel with
  | zero => intro _ _ _ _ hin _ _; omega
  | succ fuel ih =>
      intro fuel' c hfuel hfuel' hin hends hfit
      obtain ⟨fuel', rfl⟩ : ∃ left, fuel' = left + 1 := ⟨fuel' - 1, by omega⟩
      have hhere : Ended n p q ∨ Contained p n c :=
        hfit.imp id fun hall => hall c (List.mem_cons_self ..)
      have hinner : Conveys Eq p q (appendLayers fuel) (appendLayers fuel') (nestedCalls p fuel)
          (layerNest p c).carried := by
        refine ⟨fun inner hcarried => ?_, fun _ _ => rfl⟩
        have honward := layerNest_onward (fun hended => le_of_eq hended.1) hends hhere hcarried
        have hbehind := honward.behind
        refine ih (by omega) (by omega) honward.inside honward.ends (hfit.imp id fun hall header hmem => ?_)
        refine hall header (List.mem_cons_of_mem _ ?_)
        rw [hcarried]
        exact hmem
      rw [nestedCalls_succ]
      refine ⟨?_, appendLayersWith_relates h hends hhere hinner⟩
      have hcalls := calls_layerNest p c
      unfold Nest.depth
      omega

end TrexWebui
