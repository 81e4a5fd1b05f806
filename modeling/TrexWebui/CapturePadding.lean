import TrexWebui.CaptureSummary
import TrexWebui.CaptureTrailers

/-!
# What follows a datagram

A frame may be longer than the datagram in it. The layers of a packet are those
of the octets before the end of its first datagram, whatever trailer follows,
exactly when the headers in the datagram are whole (`layers_of_trailer_iff`):
the transport decoders ask for the length of the packet, not for the end of the
datagram, and a GRE header is decoded up to the end of the packet always.
-/

namespace TrexWebui

open PyStr Octets PacketReader

def capturedLayers (packet : Bytes) : Except Fault (List CaptureLayer) :=
  (captureDecodedLayers packet).map Output.items

/-- The first IP header of a frame, behind VLAN tags and MPLS labels. -/
def firstIpHeader (frame : Bytes) : Option LayerCall := (ethernetNest frame 0 frame.length).carried

/-- The header is well formed and its length ends the datagram at `e`, inside the frame. -/
def DatagramEnds (frame : Bytes) (e : Nat) : LayerCall → Prop
  | .ethernet _ _ _ => False
  | .ipv4 offset _ => Ipv4WellFormed frame offset frame.length
      ∧ ipv4HeaderLength frame offset ≤ be16At frame (offset + 2)
      ∧ offset + be16At frame (offset + 2) = e ∧ e ≤ frame.length
  | .ipv6 offset _ => Ipv6WellFormed frame offset frame.length
      ∧ 0 < be16At frame (offset + 4)
      ∧ offset + 40 + be16At frame (offset + 4) = e ∧ e ≤ frame.length

/-- The first IP header of the frame ends its datagram at `e`. -/
def FirstDatagramEnds (frame : Bytes) (e : Nat) : Prop :=
  ∃ header, firstIpHeader frame = some header ∧ DatagramEnds frame e header

/-! ## The frame without its trailer -/

section

variable {frame : Bytes} {e : Nat}

theorem agree_take {n : Nat} (hle : n ≤ frame.length) : Agree n frame (frame.take n) := by
  refine ⟨hle, ?_, ?_⟩
  · rw [List.length_take]
    omega
  · rw [List.take_take, Nat.min_self]

theorem vlanTagged_take (hle : e ≤ frame.length) :
    ∀ {left etherType payloadOffset etherType' payloadOffset' : Nat}, payloadOffset ≤ frame.length →
      vlanTagged frame frame.length left etherType payloadOffset = some (etherType', payloadOffset') →
        payloadOffset' ≤ e →
          vlanTagged (frame.take e) e left etherType payloadOffset = some (etherType', payloadOffset') := by
  intro left
  induction left with
  | zero => exact fun _ h _ => h
  | succ left ih =>
      intro etherType payloadOffset etherType' payloadOffset' hin h hbefore
      rw [vlanTagged] at h ⊢
      by_cases htag : etherType ∈ [0x8100, 0x88A8, 0x9100]
      · rw [if_pos htag] at h ⊢
        by_cases hshort : frame.length < payloadOffset + 4
        · rw [if_pos hshort] at h
          cases h
        rw [if_neg hshort] at h
        have hbounds := vlanTagged_bounds (by omega) h
        rw [if_neg (by omega), ← (agree_take hle).be16At (by omega)]
        exact ih (by omega) h hbefore
      · rw [if_neg htag] at h ⊢
        exact h

theorem mplsStackEnd_take (hle : e ≤ frame.length) : ∀ {left currentOffset stackEnd : Nat},
    mplsStackEnd frame frame.length left currentOffset = some stackEnd → stackEnd ≤ e →
      mplsStackEnd (frame.take e) e left currentOffset = some stackEnd := by
  intro left
  induction left with
  | zero => exact fun h _ => h
  | succ left ih =>
      intro currentOffset stackEnd h hbefore
      have hbounds := mplsStackEnd_bounds h
      rw [mplsStackEnd] at h ⊢
      by_cases hshort : frame.length < currentOffset + 4
      · rw [if_pos hshort] at h
        cases h
      rw [if_neg hshort] at h
      by_cases hbottom : be32At frame currentOffset >>> 8 &&& 0x1 = 1
      · rw [if_pos hbottom] at h
        have hend : currentOffset + 4 = stackEnd := by simpa using h
        rw [if_neg (by omega), ← (agree_take hle).be32At (by omega), if_pos hbottom, hend]
      · rw [if_neg hbottom] at h
        have hrest := mplsStackEnd_bounds h
        rw [if_neg (by omega), ← (agree_take hle).be32At (by omega), if_neg hbottom]
        exact ih h hbefore

theorem framePayload_take (hle : e ≤ frame.length) {etherType payloadOffset : Nat}
    (h : framePayload frame 0 frame.length = some (etherType, payloadOffset))
    (hbefore : payloadOffset ≤ e) :
    framePayload (frame.take e) 0 e = some (etherType, payloadOffset) := by
  have hbounds := framePayload_bounds h
  unfold framePayload at h ⊢
  split_ifs at h with hshort
  rw [if_neg (by omega), ← (agree_take hle).be16At (by omega)]
  exact vlanTagged_take hle (by omega) h hbefore

theorem datagramAt_take (hle : e ≤ frame.length) {offset packetEnd : Nat} {header : LayerCall}
    (h : datagramAt frame offset packetEnd = some header) (hbefore : offset < e) :
    datagramAt (frame.take e) offset e = some (header.ending e) := by
  unfold datagramAt at h ⊢
  rw [← (agree_take hle).octetAt hbefore]
  split_ifs at h ⊢
  · cases h
    rfl
  · cases h
    rfl

theorem firstIpHeader_take (hle : e ≤ frame.length) {header : LayerCall}
    (h : firstIpHeader frame = some header) (hbefore : header.offset < e) :
    firstIpHeader (frame.take e) = some (header.ending e) := by
  have hlength : (frame.take e).length = e := by
    rw [List.length_take]
    omega
  unfold firstIpHeader ethernetNest at h ⊢
  rw [hlength]
  rcases hpayload : framePayload frame 0 frame.length with _ | ⟨etherType, payloadOffset⟩
  · rw [hpayload] at h
    cases h
  rw [hpayload] at h
  dsimp only [framePayloadNest] at h
  split_ifs at h with hipv4 hipv6 harp hmpls
  · cases h
    rw [framePayload_take hle hpayload (le_of_lt hbefore)]
    dsimp only [framePayloadNest]
    rw [if_pos hipv4]
    rfl
  · cases h
    rw [framePayload_take hle hpayload (le_of_lt hbefore)]
    dsimp only [framePayloadNest]
    rw [if_neg hipv4, if_pos hipv6]
    rfl
  · cases h
  · have hbehind : payloadOffset ≤ header.offset :=
      (@mplsNest_onward frame frame.length payloadOffset frame.length True header (le_refl _) h).behind
    rw [framePayload_take hle hpayload (by omega)]
    dsimp only [framePayloadNest]
    rw [if_neg hipv4, if_neg hipv6, if_neg harp, if_pos hmpls]
    unfold mplsNest at h ⊢
    rcases hstack : mplsStackEnd frame frame.length 8 payloadOffset with _ | stackEnd
    · rw [hstack] at h
      cases h
    rw [hstack] at h
    dsimp only at h
    split_ifs at h with hempty
    · cases h
    · have hstart : stackEnd ≤ header.offset :=
        (@datagramAt_onward frame frame.length stackEnd frame.length True header (by omega) (le_refl _)
          h).behind
      rw [mplsStackEnd_take hle hstack (by omega)]
      dsimp only
      rw [if_neg (by omega)]
      exact datagramAt_take hle h (by omega)
  · cases h

theorem FirstDatagramEnds.le (h : FirstDatagramEnds frame e) : e ≤ frame.length := by
  obtain ⟨header, -, hends⟩ := h
  cases header with
  | ethernet offset packetEnd name => exact hends.elim
  | ipv4 offset packetEnd => exact hends.2.2.2
  | ipv6 offset packetEnd => exact hends.2.2.2

theorem FirstDatagramEnds.take (h : FirstDatagramEnds frame e) : FirstDatagramEnds (frame.take e) e := by
  obtain ⟨header, hfirst, hends⟩ := h
  cases header with
  | ethernet offset packetEnd name => exact hends.elim
  | ipv4 offset packetEnd =>
      obtain ⟨⟨htwenty, hversion, hihl, hheader⟩, htotal, hend, hle⟩ := hends
      have hlength : (frame.take e).length = e := by
        rw [List.length_take]
        omega
      have hagree := agree_take hle
      have hsame : ipv4HeaderLength (frame.take e) offset = ipv4HeaderLength frame offset := by
        rw [ipv4HeaderLength, ipv4HeaderLength, hagree.octetAt (by omega)]
      refine ⟨_, firstIpHeader_take hle hfirst (by change offset < e; omega), ?_⟩
      refine ⟨⟨?_, ?_, ?_, ?_⟩, ?_, ?_, le_of_eq hlength.symm⟩
      · omega
      · rw [← hagree.octetAt (by omega)]
        exact hversion
      · rw [hsame]
        exact hihl
      · rw [hsame]
        omega
      · rw [hsame, ← hagree.be16At (by omega)]
        exact htotal
      · rw [← hagree.be16At (by omega)]
        exact hend
  | ipv6 offset packetEnd =>
      obtain ⟨⟨hforty, hversion⟩, hpositive, hend, hle⟩ := hends
      have hlength : (frame.take e).length = e := by
        rw [List.length_take]
        omega
      have hagree := agree_take hle
      refine ⟨_, firstIpHeader_take hle hfirst (by change offset < e; omega), ?_⟩
      refine ⟨⟨?_, ?_⟩, ?_, ?_, le_of_eq hlength.symm⟩
      · omega
      · rw [← hagree.octetAt (by omega)]
        exact hversion
      · rw [← hagree.be16At (by omega)]
        exact hpositive
      · rw [← hagree.be16At (by omega)]
        exact hend

end

/-! ## The frame with a trailer -/

section

variable {p q : Bytes} {recur recur' : LayerCall → Decoder Unit} {deep : LayerCall → Nat}
  {R : List CaptureLayer → List CaptureLayer → Prop} [Steady R]

/-- The first datagram runs alike, however far the frame goes on behind it. -/
theorem firstDatagram_relates (h : Agree p.length p q) {header : LayerCall}
    (hends : DatagramEnds p p.length header) (hending : header.ending p.length = header)
    (hhere : Contained p p.length header)
    (hinner : Conveys R p q recur recur' deep (layerNest p header).carried) :
    Relates R p q (appendLayersWith recur header) (appendLayersWith recur' (header.ending q.length)) ()
      ((layerNest p header).depth deep) := by
  have hlen : p.length ≤ q.length := h.right
  have hp : frameEndOf p.length (some p.length) = p.length := Nat.min_self _
  have hq : frameEndOf q.length (some q.length) = q.length := Nat.min_self _
  cases header with
  | ethernet offset packetEnd name => exact hends.elim
  | ipv4 offset packetEnd =>
      obtain rfl : some p.length = packetEnd := by
        injection hending
      obtain ⟨hform, htotal, hend, -⟩ := hends
      rw [Contained, hp] at hhere
      rw [layerNest, hp] at hinner ⊢
      rw [Nest.depth_called]
      refine Relates.call (.size ?_)
      rw [hp, hq]
      exact ipv4Datagram_contained h (le_refl _) (.inr ⟨hlen, hform, htotal, le_of_eq hend⟩)
        (.inr hhere) hinner
  | ipv6 offset packetEnd =>
      obtain rfl : some p.length = packetEnd := by
        injection hending
      obtain ⟨hform, hpositive, hend, -⟩ := hends
      rw [Contained, hp] at hhere
      rw [layerNest, hp] at hinner ⊢
      rw [Nest.depth_called]
      refine Relates.call (.size ?_)
      rw [hp, hq]
      exact ipv6Datagram_contained h (le_refl _) (.inr ⟨hlen, hform, hpositive, le_of_eq hend⟩)
        (.inr hhere) hinner

theorem long_of_first {header : LayerCall} (hfirst : firstIpHeader p = some header) :
    14 ≤ p.length := by
  unfold firstIpHeader ethernetNest framePayload at hfirst
  by_contra hshort
  rw [if_pos (by omega)] at hfirst
  cases hfirst

theorem captureHeaders_of_first {header : LayerCall} (hfirst : firstIpHeader p = some header) :
    captureHeaders p = .ethernet 0 p.length "Ethernet" :: nestedHeaders p p.length header := by
  have hlong := long_of_first hfirst
  have hcarried : (ethernetNest p 0 p.length).carried = some header := hfirst
  rw [captureHeaders, if_neg (by omega), nestedHeaders, layerNest, Nat.min_self, Nest.carried_called,
    hcarried]
  rfl

theorem contained_of_first {header : LayerCall} (hfirst : firstIpHeader p = some header) :
    Contained p p.length (.ethernet 0 p.length "Ethernet") := by
  have hcarried : (ethernetNest p 0 p.length).carried = some header := hfirst
  intro payloadOffset hpayload
  rw [Nat.min_self] at hpayload
  rw [ethernetNest, hpayload] at hcarried
  cases hcarried

theorem capturedFrame_relates (h : Agree p.length p q) {header : LayerCall}
    (hfirst : firstIpHeader p = some header)
    (hrun : Relates R p q (appendLayersWith (appendLayers (p.length - 1)) header)
      (appendLayersWith (appendLayers (q.length - 1)) (header.ending q.length)) ()
      ((layerNest p header).depth (nestedCalls p (p.length - 1)))) :
    Relates R p q captureDecodedLayers captureDecodedLayers () (captureCalls p) := by
  have hlen : p.length ≤ q.length := h.right
  have hlong := long_of_first hfirst
  have hcarried : (ethernetNest p 0 p.length).carried = some header := hfirst
  have hnotarp : ∀ payloadOffset, framePayload p 0 p.length ≠ some (0x0806, payloadOffset) := by
    intro payloadOffset hpayload
    rw [ethernetNest, hpayload] at hcarried
    cases hcarried
  unfold captureDecodedLayers captureCalls captureHeaders
  refine .size ?_
  rw [if_neg (by omega), if_neg (by omega), if_neg (by omega)]
  change Relates R p q _ _ () (nestedCalls p (p.length + 1) (.ethernet 0 p.length "Ethernet"))
  have hp : min p.length p.length = p.length := Nat.min_self _
  have hq : min q.length q.length = q.length := Nat.min_self _
  rw [nestedCalls_succ, layerNest, hp, Nest.depth_called]
  refine Relates.call (.size ?_)
  rw [hp, hq]
  refine ethernetFrame_relates h "Ethernet" (le_refl _) hlen (.inr ?_) ?_ fun _ => ⟨?_, ?_⟩
  · rw [hcarried]
    exact Option.some_ne_none _
  · exact fun payloadOffset hpayload => absurd hpayload (hnotarp payloadOffset)
  · intro inner hinner
    obtain rfl : header = inner := Option.some.inj (hcarried.symm.trans hinner)
    have hcalls := calls_layerNest p header
    have hpositive : (p.length - 1).succ = p.length := by omega
    have hpositive' : (q.length - 1).succ = q.length := by omega
    have hdepth : nestedCalls p p.length header
        = (layerNest p header).depth (nestedCalls p (p.length - 1)) := by
      rw [← nestedCalls_succ]
      exact congrArg (nestedCalls p · header) hpositive.symm
    rw [← appendLayers, ← appendLayers, hpositive, hpositive', ← hdepth] at hrun
    refine ⟨?_, hrun⟩
    rw [hdepth, Nest.depth]
    omega
  · intro hnone
    rw [hcarried] at hnone
    cases hnone

end

/-! ## A header beyond the end -/

theorem transportNest_carries {r : Bytes} {fuel offset packetEnd protocol : Nat}
    (hend : packetEnd ≤ r.length) (hfuel : r.length < fuel + offset) :
    Conveys Eq r r (appendLayers fuel) (appendLayers fuel) (nestedCalls r fuel)
      (transportNest r offset packetEnd protocol).carried := by
  refine ⟨fun inner hcarried => ?_, fun _ _ => rfl⟩
  have hended : Ended r.length r r := ⟨rfl, rfl⟩
  have honward := transportNest_onward hend (fun _ => le_refl r.length) (.inl hended) hcarried
  have hbehind := honward.behind
  exact appendLayers_relates (Agree.refl r) (by omega) (by omega) honward.inside honward.ends
    (.inl hended)

section

variable {p : Bytes}

theorem appendTransportLayers_differs {fuel offset packetEnd protocol : Nat} (ipv6 : Bool)
    (hin : offset ≤ p.length) (hend : packetEnd ≤ p.length) (hfuel : p.length < fuel + offset)
    (hfit : ¬TransportContained p p.length offset protocol ipv6) :
    ∃ trailer, ∀ fuel', (p ++ trailer).length < fuel' + offset →
      Relates Differ p (p ++ trailer)
        (appendTransportLayers (appendLayers fuel) offset packetEnd protocol ipv6)
        (appendTransportLayers (appendLayers fuel') offset packetEnd protocol ipv6) ()
        ((transportNest p offset packetEnd protocol).depth (nestedCalls p fuel)) := by
  obtain ⟨trailer, hparts⟩ := @appendTransportLayers_parts offset packetEnd protocol ipv6 p hin hfit
  refine ⟨trailer, fun fuel' hfuel' => ?_⟩
  have hend' : packetEnd ≤ (p ++ trailer).length := hend.trans (Agree.append p trailer).right
  exact (hparts _ _).relates
    (appendTransportLayers_relates (Agree.refl p) hend (.inl ⟨rfl, rfl⟩) (transportNest_carries hend hfuel))
    (appendTransportLayers_relates (Agree.refl _) hend' (.inl ⟨rfl, rfl⟩)
      (transportNest_carries hend' hfuel'))

theorem ipv4Datagram_differs {fuel offset frameEnd : Nat} (hend : frameEnd ≤ p.length)
    (hfuel : p.length < fuel + (offset + 1))
    (hfit : ¬(Ipv4WellFormed p offset frameEnd →
      TransportContained p p.length (offset + ipv4HeaderLength p offset) (octetAt p (offset + 9)) false)) :
    ∃ trailer, ∀ fuel' frameEnd', (p ++ trailer).length < fuel' + (offset + 1) →
      SameIpv4End p offset frameEnd frameEnd' →
        Relates Differ p (p ++ trailer) (ipv4Datagram (appendLayers fuel) offset frameEnd)
          (ipv4Datagram (appendLayers fuel') offset frameEnd') ()
          ((ipv4Nest p offset frameEnd).depth (nestedCalls p fuel)) := by
  obtain ⟨hform, hfit⟩ := Classical.not_imp.mp hfit
  have hihl := hform.2.2.1
  have hheader := hform.2.2.2
  have hpacket : ipv4PacketEnd p offset frameEnd ≤ p.length := by
    unfold ipv4PacketEnd
    split <;> omega
  obtain ⟨trailer, hdiffers⟩ := @appendTransportLayers_differs p fuel (offset + ipv4HeaderLength p offset)
    (ipv4PacketEnd p offset frameEnd) _ false (by omega) hpacket (by omega) hfit
  refine ⟨trailer, fun fuel' frameEnd' hfuel' hends => ?_⟩
  refine ipv4Datagram_relates (Agree.append p trailer) hend hends (fun _ => ?_) fun hnot => absurd hform hnot
  exact hdiffers fuel' (by omega)

theorem ipv6Datagram_differs {fuel offset frameEnd : Nat} (hend : frameEnd ≤ p.length)
    (hfuel : p.length < fuel + (offset + 1))
    (hfit : ¬(Ipv6WellFormed p offset frameEnd →
      TransportContained p p.length (offset + 40) (octetAt p (offset + 6)) true)) :
    ∃ trailer, ∀ fuel' frameEnd', (p ++ trailer).length < fuel' + (offset + 1) →
      SameIpv6End p offset frameEnd frameEnd' →
        Relates Differ p (p ++ trailer) (ipv6Datagram (appendLayers fuel) offset frameEnd)
          (ipv6Datagram (appendLayers fuel') offset frameEnd') ()
          ((ipv6Nest p offset frameEnd).depth (nestedCalls p fuel)) := by
  obtain ⟨hform, hfit⟩ := Classical.not_imp.mp hfit
  have hforty := hform.1
  have hpacket : ipv6PacketEnd p offset frameEnd ≤ p.length := by
    unfold ipv6PacketEnd
    split <;> omega
  obtain ⟨trailer, hdiffers⟩ := @appendTransportLayers_differs p fuel (offset + 40)
    (ipv6PacketEnd p offset frameEnd) _ true (by omega) hpacket (by omega) hfit
  refine ⟨trailer, fun fuel' frameEnd' hfuel' hends => ?_⟩
  refine ipv6Datagram_relates (Agree.append p trailer) hend hends (fun _ => ?_) fun hnot => absurd hform hnot
  exact hdiffers fuel' (by omega)

theorem ethernetFrame_differs {fuel offset packetEnd : Nat} (name : String)
    (hend : packetEnd ≤ p.length)
    (hfit : ¬Contained p p.length (.ethernet offset packetEnd name)) :
    ∃ trailer, ∀ fuel', Relates Differ p (p ++ trailer)
      (ethernetFrame (appendLayers fuel) offset packetEnd name)
      (ethernetFrame (appendLayers fuel') offset packetEnd name) ()
      ((ethernetNest p offset packetEnd).depth (nestedCalls p fuel)) := by
  have hmin : min p.length packetEnd = packetEnd := Nat.min_eq_right hend
  simp only [Contained, hmin, not_forall] at hfit
  obtain ⟨payloadOffset, hpayload, hbeyond⟩ := hfit
  have hbounds := framePayload_bounds hpayload
  have hover := overrun_replicate p
  have hfar := hover.far
  unfold ArpContained at hbeyond
  refine ⟨List.replicate 2100 1, fun fuel' => ethernetFrame_relates hover.agree name hend (le_refl _) (.inl rfl) ?_ ?_⟩
  · intro payloadOffset' hpayload'
    obtain rfl : payloadOffset = payloadOffset' :=
      (Prod.mk.inj (Option.some.inj (hpayload.symm.trans hpayload'))).2
    have hparts := @appendArpLayers_parts p (p ++ List.replicate 2100 1) payloadOffset (by omega) (by omega)
    exact hparts.relates ((appendArpLayers_runs (Agree.refl p) (.inl ⟨rfl, rfl⟩)).relates fun _ => rfl)
      ((appendArpLayers_runs (Agree.refl _) (.inl ⟨rfl, rfl⟩)).relates fun _ => rfl)
  · exact fun hnone => absurd hpayload (hnone payloadOffset)

theorem nestedCalls_pos {fuel : Nat} (target : LayerCall) (hfuel : 0 < fuel) :
    0 < nestedCalls p fuel target := by
  obtain ⟨fuel, rfl⟩ : ∃ left, fuel = left + 1 := ⟨fuel - 1, by omega⟩
  have hcalls := calls_layerNest p target
  rw [nestedCalls_succ]
  unfold Nest.depth
  omega

/-- A header that is not contained in the packet is this one, or is reached from what it carries. -/
theorem beyond_cases {fuel n : Nat} {c header : LayerCall} (hmem : header ∈ nestedHeaders p (fuel + 1) c)
    (hbeyond : ¬Contained p n header) :
    ¬Contained p n c ∨ ∃ inner, Contained p n c ∧ (layerNest p c).carried = some inner
      ∧ header ∈ nestedHeaders p fuel inner := by
  by_cases hhere : Contained p n c
  · rw [nestedHeaders, List.mem_cons] at hmem
    rcases hmem with rfl | hmem
    · exact absurd hhere hbeyond
    · rcases hcarried : (layerNest p c).carried with _ | inner
      · rw [hcarried] at hmem
        cases hmem
      · rw [hcarried] at hmem
        exact .inr ⟨inner, hhere, rfl, hmem⟩
  · exact .inl hhere

theorem appendLayersWith_differs {fuel : Nat} {c : LayerCall} (hfuel : p.length < fuel + (c.offset + 1))
    (hends : c.EndsBy p.length False) (hbeyond : ¬Contained p p.length c) :
    ∃ trailer, ∀ fuel', (p ++ trailer).length < fuel' + (c.offset + 1) →
      Relates Differ p (p ++ trailer) (appendLayersWith (appendLayers fuel) c)
        (appendLayersWith (appendLayers fuel') c) () ((layerNest p c).depth (nestedCalls p fuel)) := by
  have hframe : ∀ {trailer : Bytes} {e : Nat}, e ≤ p.length →
      min p.length e = e ∧ min (p ++ trailer).length e = e := by
    intro trailer e hle
    have hright := (Agree.append p trailer).right
    omega
  cases c with
  | ethernet offset packetEnd name =>
      change packetEnd ≤ p.length at hends
      obtain ⟨trailer, hdiffers⟩ := @ethernetFrame_differs p fuel _ _ name hends hbeyond
      refine ⟨trailer, fun fuel' _ => ?_⟩
      obtain ⟨hp, hq⟩ := @hframe trailer _ hends
      rw [layerNest, Nest.depth_called, hp]
      refine Relates.call (.size ?_)
      rw [hp, hq]
      exact hdiffers fuel'
  | ipv4 offset packetEnd =>
      rcases packetEnd with _ | e
      · exact hends.elim
      change e ≤ p.length at hends
      obtain ⟨hp, -⟩ := @hframe [] _ hends
      have hend : frameEndOf p.length (some e) = e := hp
      rw [Contained, hend] at hbeyond
      obtain ⟨trailer, hdiffers⟩ := ipv4Datagram_differs hends hfuel hbeyond
      refine ⟨trailer, fun fuel' hfuel' => ?_⟩
      have hend' : frameEndOf (p ++ trailer).length (some e) = e := (@hframe trailer _ hends).2
      rw [layerNest, Nest.depth_called, hend]
      refine Relates.call (.size ?_)
      rw [hend, hend']
      exact hdiffers fuel' e hfuel' (.inl rfl)
  | ipv6 offset packetEnd =>
      rcases packetEnd with _ | e
      · exact hends.elim
      change e ≤ p.length at hends
      obtain ⟨hp, -⟩ := @hframe [] _ hends
      have hend : frameEndOf p.length (some e) = e := hp
      rw [Contained, hend] at hbeyond
      obtain ⟨trailer, hdiffers⟩ := ipv6Datagram_differs hends hfuel hbeyond
      refine ⟨trailer, fun fuel' hfuel' => ?_⟩
      have hend' : frameEndOf (p ++ trailer).length (some e) = e := (@hframe trailer _ hends).2
      rw [layerNest, Nest.depth_called, hend]
      refine Relates.call (.size ?_)
      rw [hend, hend']
      exact hdiffers fuel' e hfuel' (.inl rfl)

theorem LayerCall.EndsBy.imp {n : Nat} {ended ended' : Prop} {c : LayerCall} (h : c.EndsBy n ended)
    (himp : ended → ended') : c.EndsBy n ended' := by
  rcases c with ⟨offset, packetEnd, name⟩ | ⟨offset, _ | e⟩ | ⟨offset, _ | e⟩
  · exact h
  · exact himp h
  · exact h
  · exact himp h
  · exact h

/-- The layers of a header differ where a header that is reached from it is not contained. -/
theorem appendLayers_differs : ∀ {fuel : Nat} {c header : LayerCall}, p.length < fuel + c.offset →
    c.offset ≤ p.length → c.EndsBy p.length False → header ∈ nestedHeaders p fuel c →
      ¬Contained p p.length header →
        ∃ trailer, ∀ fuel', (p ++ trailer).length < fuel' + c.offset →
          Relates Differ p (p ++ trailer) (appendLayers fuel c) (appendLayers fuel' c) ()
            (nestedCalls p fuel c) := by
  intro fuel
  induction fuel with
  | zero =>
      intro c header _ _ _ hmem _
      cases hmem
  | succ fuel ih =>
      intro c header hfuel hin hends hmem hbeyond
      rw [nestedCalls_succ]
      rcases beyond_cases hmem hbeyond with hhere | ⟨inner, hhere, hcarried, hmem⟩
      · obtain ⟨trailer, hdiffers⟩ := @appendLayersWith_differs p fuel c (by omega) hends hhere
        refine ⟨trailer, fun fuel' hfuel' => ?_⟩
        have hright := (Agree.append p trailer).right
        obtain ⟨fuel', rfl⟩ : ∃ left, fuel' = left + 1 := ⟨fuel' - 1, by omega⟩
        exact hdiffers fuel' (by omega)
      · have honward := layerNest_onward False.elim hends (.inr hhere) hcarried
        have hbehind := honward.behind
        have hinside := honward.inside
        obtain ⟨trailer, hdiffers⟩ := ih (by omega) hinside honward.ends hmem hbeyond
        refine ⟨trailer, fun fuel' hfuel' => ?_⟩
        have hright := (Agree.append p trailer).right
        obtain ⟨fuel', rfl⟩ : ∃ left, fuel' = left + 1 := ⟨fuel' - 1, by omega⟩
        refine appendLayersWith_relates (Agree.append p trailer) (hends.imp False.elim) (.inr hhere)
          ⟨fun other hother => ?_, fun hnone => ?_⟩
        · obtain rfl : inner = other := Option.some.inj (hcarried.symm.trans hother)
          exact ⟨nestedCalls_pos inner (by omega), hdiffers fuel' (by omega)⟩
        · rw [hcarried] at hnone
          cases hnone

/-- The first datagram differs in one of two ways: its own header is not contained, or a later one. -/
theorem firstDatagram_differs {c header : LayerCall} (hends : DatagramEnds p p.length c)
    (hending : c.ending p.length = c) (hin : c.offset ≤ p.length) (hlong : 1 ≤ c.offset)
    (hmem : header ∈ nestedHeaders p p.length c) (hbeyond : ¬Contained p p.length header) :
    ∃ trailer, Relates Differ p (p ++ trailer) (appendLayersWith (appendLayers (p.length - 1)) c)
      (appendLayersWith (appendLayers ((p ++ trailer).length - 1)) (c.ending (p ++ trailer).length)) ()
      ((layerNest p c).depth (nestedCalls p (p.length - 1))) := by
  have hpositive : p.length - 1 + 1 = p.length := by omega
  rw [← hpositive] at hmem
  rcases beyond_cases hmem hbeyond with hhere | ⟨inner, hhere, hcarried, hmem⟩
  · have hp : frameEndOf p.length (some p.length) = p.length := Nat.min_self _
    cases c with
    | ethernet offset packetEnd name => exact hends.elim
    | ipv4 offset packetEnd =>
        obtain rfl : some p.length = packetEnd := by
          injection hending
        change offset ≤ p.length at hin
        change 1 ≤ offset at hlong
        obtain ⟨hform, htotal, hend, -⟩ := hends
        rw [Contained, hp] at hhere
        obtain ⟨trailer, hdiffers⟩ := @ipv4Datagram_differs p (p.length - 1) offset _ (le_refl _)
          (by omega) hhere
        refine ⟨trailer, ?_⟩
        have hright := (Agree.append p trailer).right
        have hq : frameEndOf (p ++ trailer).length (some (p ++ trailer).length) = (p ++ trailer).length :=
          Nat.min_self _
        rw [layerNest, hp, Nest.depth_called]
        refine Relates.call (.size ?_)
        rw [hp, hq]
        exact hdiffers _ _ (by omega) (.inr ⟨hright, hform, htotal, le_of_eq hend⟩)
    | ipv6 offset packetEnd =>
        obtain rfl : some p.length = packetEnd := by
          injection hending
        change offset ≤ p.length at hin
        change 1 ≤ offset at hlong
        obtain ⟨hform, hpositive', hend, -⟩ := hends
        rw [Contained, hp] at hhere
        obtain ⟨trailer, hdiffers⟩ := @ipv6Datagram_differs p (p.length - 1) offset _ (le_refl _)
          (by omega) hhere
        refine ⟨trailer, ?_⟩
        have hright := (Agree.append p trailer).right
        have hq : frameEndOf (p ++ trailer).length (some (p ++ trailer).length) = (p ++ trailer).length :=
          Nat.min_self _
        rw [layerNest, hp, Nest.depth_called]
        refine Relates.call (.size ?_)
        rw [hp, hq]
        exact hdiffers _ _ (by omega) (.inr ⟨hright, hform, hpositive', le_of_eq hend⟩)
  · have hby : c.EndsBy p.length False := by
      rw [← hending]
      cases c <;> exact le_refl p.length
    have honward := layerNest_onward False.elim hby (.inr hhere) hcarried
    have hbehind := honward.behind
    have hinside := honward.inside
    obtain ⟨trailer, hdiffers⟩ := appendLayers_differs (by omega) hinside honward.ends hmem hbeyond
    refine ⟨trailer, firstDatagram_relates (Agree.append p trailer) hends hending hhere
      ⟨fun other hother => ?_, fun hnone => ?_⟩⟩
    · obtain rfl : inner = other := Option.some.inj (hcarried.symm.trans hother)
      have hright := (Agree.append p trailer).right
      exact ⟨nestedCalls_pos inner (by omega), hdiffers _ (by omega)⟩
    · rw [hcarried] at hnone
      cases hnone

end

/-! ## Padding -/

/-- A packet whose first datagram ends with it has the same layers with a trailer, where every header
ends in the datagram. -/
theorem capturedFrame_contained {p q : Bytes} (h : Agree p.length p q)
    (hends : FirstDatagramEnds p p.length)
    (hfit : ∀ header ∈ captureHeaders p, Contained p p.length header) :
    Relates Eq p q captureDecodedLayers captureDecodedLayers () (captureCalls p) := by
  have hlen : p.length ≤ q.length := h.right
  obtain ⟨header, hfirst, hdatagram⟩ := hends
  have honward : Onward p.length 1 True header := ethernetNest_onward (le_refl _) hfirst
  have hending : header.ending p.length = header := ending_of_ethernetNest hfirst
  have hbehind := honward.behind
  have hinside := honward.inside
  have hheaders := captureHeaders_of_first hfirst
  have hhere : ∀ later ∈ nestedHeaders p p.length header, Contained p p.length later := by
    intro later hmem
    refine hfit later ?_
    rw [hheaders]
    exact List.mem_cons_of_mem _ hmem
  have hlong := long_of_first hfirst
  have hpositive : p.length = p.length - 1 + 1 := by omega
  have hfirsthere : Contained p p.length header := by
    refine hhere header ?_
    rw [hpositive]
    exact List.mem_cons_self ..
  refine capturedFrame_relates h hfirst (firstDatagram_relates h hdatagram hending hfirsthere ?_)
  refine ⟨fun inner hcarried => ?_, fun _ _ => rfl⟩
  have hby : header.EndsBy p.length (Ended p.length p q) := by
    rw [← hending]
    cases header <;> exact le_refl p.length
  have honward := layerNest_onward (fun hended => le_of_eq hended.1) hby (.inr hfirsthere) hcarried
  have hbehind := honward.behind
  refine appendLayers_relates h (by omega) (by omega) honward.inside honward.ends
    (.inr fun later hmem => hhere later ?_)
  rw [hpositive, nestedHeaders, hcarried]
  exact List.mem_cons_of_mem _ hmem

theorem capturedLayers_of_relates {R : List CaptureLayer → List CaptureLayer → Prop} {p q : Bytes}
    {depth : Nat} (h : Relates R p q captureDecodedLayers captureDecodedLayers () depth) :
    ∃ layers layers', capturedLayers p = .ok layers ∧ capturedLayers q = .ok layers'
      ∧ R layers layers' := by
  obtain ⟨layers, layers', _, hp, hq, hrelated⟩ := h
  refine ⟨layers, layers', ?_, ?_, hrelated⟩
  · rw [capturedLayers, hp]
    rfl
  · rw [capturedLayers, hq]
    rfl

/-- The trailer of a frame is not decoded exactly where every header ends in the datagram. -/
theorem layers_of_trailer_iff {frame : Bytes} {e : Nat} (hends : FirstDatagramEnds frame e) :
    (∀ trailer, capturedLayers (frame.take e ++ trailer) = capturedLayers (frame.take e))
      ↔ ∀ header ∈ captureHeaders (frame.take e), Contained (frame.take e) e header := by
  have hlength : (frame.take e).length = e := by
    rw [List.length_take]
    have hle := hends.le
    omega
  obtain ⟨p, hp⟩ : ∃ p, p = frame.take e := ⟨_, rfl⟩
  have hdatagram := hends.take
  rw [← hp] at hlength hdatagram ⊢
  subst hlength
  constructor
  · intro hall header hmem
    by_contra hbeyond
    obtain ⟨first, hfirst, hends⟩ := hdatagram
    have honward : Onward p.length 1 True first := ethernetNest_onward (le_refl _) hfirst
    rw [captureHeaders_of_first hfirst, List.mem_cons] at hmem
    rcases hmem with rfl | hmem
    · exact hbeyond (contained_of_first hfirst)
    obtain ⟨trailer, hdiffers⟩ := firstDatagram_differs hends (ending_of_ethernetNest hfirst)
      honward.inside honward.behind hmem hbeyond
    obtain ⟨layers, layers', hp, hq, hne⟩ := capturedLayers_of_relates
      (capturedFrame_relates (Agree.append p trailer) hfirst hdiffers)
    have hsame := hall trailer
    rw [hp, hq] at hsame
    exact hne.ne (Except.ok.inj hsame).symm
  · intro hfit trailer
    obtain ⟨layers, layers', hp, hq, rfl⟩ := capturedLayers_of_relates
      (capturedFrame_contained (Agree.append p trailer) hdatagram hfit)
    rw [hp, hq]

/-- A frame with an IPv4 header and a GRE header of another protocol. -/
def greFrame : Bytes :=
  [0, 0, 0, 0, 0, 0, 0, 0, 0, 0, 0, 0, 0x08, 0x00,
   0x45, 0, 0, 24, 0, 0, 0, 0, 64, 47, 0, 0, 10, 0, 0, 1, 10, 0, 0, 2,
   0, 0, 0x12, 0x34]

theorem firstDatagramEnds_greFrame : FirstDatagramEnds greFrame 38 :=
  ⟨.ipv4 14 (some 38), by decide, by unfold DatagramEnds; decide⟩

theorem layers_of_trailer_greFrame :
    (∀ trailer, capturedLayers (greFrame.take 38 ++ trailer) = capturedLayers (greFrame.take 38))
      ↔ ∀ header ∈ captureHeaders (greFrame.take 38), Contained (greFrame.take 38) 38 header :=
  layers_of_trailer_iff firstDatagramEnds_greFrame

/-- An octet of padding behind a GRE header is counted as its payload. -/
theorem padding_decoded : ¬∀ (frame : Bytes) (e : Nat), FirstDatagramEnds frame e → ∀ trailer : Bytes,
    capturedLayers (frame.take e ++ trailer) = capturedLayers (frame.take e) := by
  intro hall
  have hsame := hall greFrame 38 firstDatagramEnds_greFrame [0]
  have hdiffer : capturedLayers (greFrame.take 38 ++ [0]) ≠ capturedLayers (greFrame.take 38) := by
    decide +kernel
  exact hdiffer hsame

end TrexWebui
