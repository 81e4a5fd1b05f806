import TrexWebui.CaptureReads

/-!
# Nested headers

The headers of a packet, each with what it carries, read off the packet without
any layers. A `Nest` says of a header how many of the counted functions the
decoder calls for it and to which of the three recursive functions they lead.
`nestedHeaders` follows the headers from one to the next.
-/

namespace TrexWebui

open PyStr Octets PacketReader

/-! ## What a header carries -/

/-- The calls that a header takes, and what the last of them is followed by. -/
structure Nest where
  calls : Nat
  carried : Option LayerCall

def Nest.leaf : Nest := ⟨0, none⟩

def Nest.called (nest : Nest) : Nest := ⟨nest.calls + 1, nest.carried⟩

def Nest.depth (deep : LayerCall → Nat) (nest : Nest) : Nat :=
  nest.calls + (nest.carried.map deep).getD 0

@[simp] theorem Nest.depth_leaf (deep : LayerCall → Nat) : Nest.leaf.depth deep = 0 := rfl

@[simp] theorem Nest.carried_called (nest : Nest) : nest.called.carried = nest.carried := rfl

theorem Nest.depth_called (deep : LayerCall → Nat) (nest : Nest) :
    nest.called.depth deep = nest.depth deep + 1 := by
  simp only [depth, called]
  omega

@[simp] theorem Nest.depth_some (deep : LayerCall → Nat) (calls : Nat) (c : LayerCall) :
    (Nest.mk calls (some c)).depth deep = calls + deep c := rfl

@[simp] theorem Nest.depth_none (deep : LayerCall → Nat) (calls : Nat) :
    (Nest.mk calls none).depth deep = calls := rfl

def Nest.beside (nest : Nest) : Nest := ⟨max 1 nest.calls, nest.carried⟩

theorem Nest.depth_beside (deep : LayerCall → Nat) {nest : Nest}
    (h : nest.carried = none ∨ 1 ≤ nest.calls) : nest.beside.depth deep = max 1 (nest.depth deep) := by
  rcases h with hnone | hcalls
  · simp only [depth, beside, hnone, Option.map_none, Option.getD_none, Nat.add_zero]
  · simp only [depth, beside]
    omega

def datagramAt (packet : Bytes) (offset packetEnd : Nat) : Option LayerCall :=
  if octetAt packet offset / 16 = 4 then some (.ipv4 offset (some packetEnd))
  else if octetAt packet offset / 16 = 6 then some (.ipv6 offset (some packetEnd))
  else none

def greHeaderEnd (flags offset : Nat) : Nat :=
  offset + 4 + (if flags &&& 0x8000 ≠ 0 then 4 else 0) + (if flags &&& 0x2000 ≠ 0 then 4 else 0)
    + (if flags &&& 0x1000 ≠ 0 then 4 else 0)

def grePayloadNest (protocolType cursor : Nat) : Nest :=
  if protocolType = 0x0800 then ⟨0, some (.ipv4 cursor none)⟩
  else if protocolType = 0x86DD then ⟨0, some (.ipv6 cursor none)⟩
  else Nest.leaf

def greNest (packet : Bytes) (offset : Nat) : Nest :=
  let cursor := greHeaderEnd (be16At packet offset) offset
  Nest.called (if packet.length < cursor then Nest.leaf
    else grePayloadNest (be16At packet (offset + 2)) cursor)

def ipTunnelNest (packet : Bytes) (offset packetEnd protocol : Nat) : Nest :=
  let version := octetAt packet offset / 16
  Nest.called (
    if packetEnd ≤ offset then Nest.leaf
    else if (protocol = 4 ∧ version ≠ 4) ∨ (protocol = 41 ∧ version ≠ 6) then Nest.leaf
    else if protocol = 4 then ⟨0, some (.ipv4 offset (some packetEnd))⟩
    else ⟨0, some (.ipv6 offset (some packetEnd))⟩)

def udpTunnelled (packet : Bytes) (offset packetEnd : Nat) : Option LayerCall :=
  if packetEnd ≤ offset then none else datagramAt packet offset packetEnd

def gtpuExtensionEnd (packet : Bytes) (packetEnd : Nat) : (left cursor extensionHeader : Nat) → Nat
  | 0, cursor, _ => cursor
  | left + 1, cursor, extensionHeader =>
      let units := octetAt packet cursor
      if extensionHeader = 0 then cursor
      else if packetEnd < cursor + 4 then packetEnd
      else if units * 4 < 4 then cursor
      else if packetEnd < cursor + units * 4 then packetEnd
      else
        gtpuExtensionEnd packet packetEnd left (cursor + units * 4)
          (octetAt packet (cursor + units * 4 - 1))

/-- What follows a GTP-U header; the call for extensions is made before. -/
def gtpuContentsNest (packet : Bytes) (messageType cursor gtpuEnd nextExtensionHeader : Nat) : Nest :=
  if messageType ≠ 0xFF ∨ gtpuEnd ≤ cursor then Nest.leaf
  else if nextExtensionHeader = 0 then ⟨0, datagramAt packet cursor gtpuEnd⟩
  else
    let behind := gtpuExtensionEnd packet gtpuEnd 4 cursor nextExtensionHeader
    if gtpuEnd ≤ behind then Nest.leaf.called
    else
      match datagramAt packet behind gtpuEnd with
      | none => Nest.leaf.called
      | some c => ⟨0, some c⟩

def gtpuNest (packet : Bytes) (offset packetEnd : Nat) : Nest :=
  let flags := octetAt packet offset
  let messageType := octetAt packet (offset + 1)
  let gtpuEnd := min packetEnd (offset + 8 + be16At packet (offset + 2))
  Nest.called (
    if packetEnd < offset + 8 then Nest.leaf
    else if (flags >>> 5 &&& 0x07) ≠ 1 ∨ (flags >>> 4 &&& 0x01) ≠ 1 then Nest.leaf
    else if flags &&& 0x07 = 0 then gtpuContentsNest packet messageType (offset + 8) gtpuEnd 0
    else if gtpuEnd < offset + 12 then Nest.leaf
    else
      gtpuContentsNest packet messageType (offset + 12) gtpuEnd
        (if flags &&& 0x04 ≠ 0 then octetAt packet (offset + 11) else 0))

def vxlanFrame (packet : Bytes) (offset packetEnd : Nat) : Option LayerCall :=
  if packetEnd < offset + 8 ∨ octetAt packet offset &&& 0x08 ≠ 0x08 then none
  else some (.ethernet (offset + 8) packetEnd "Inner Ethernet")

def udpPayloadNest (packet : Bytes) (offset packetEnd srcPort dstPort : Nat) : Nest :=
  if 2152 ∈ [srcPort, dstPort] then gtpuNest packet offset packetEnd
  else if 3544 ∈ [srcPort, dstPort] ∨ 3797 ∈ [srcPort, dstPort] then
    ⟨1, udpTunnelled packet offset packetEnd⟩
  else Nest.leaf

def udpNest (packet : Bytes) (offset packetEnd : Nat) : Nest :=
  let srcPort := be16At packet offset
  let dstPort := be16At packet (offset + 2)
  let payloadEnd := min packetEnd (offset + be16At packet (offset + 4))
  let payload := udpPayloadNest packet (offset + 8) payloadEnd srcPort dstPort
  if packet.length < offset + 8 then Nest.leaf
  else if 4789 ∈ [srcPort, dstPort] then
    match vxlanFrame packet (offset + 8) payloadEnd with
    | some c => ⟨1, some c⟩
    | none => payload.beside
  else payload

def transportNest (packet : Bytes) (offset packetEnd protocol : Nat) : Nest :=
  if protocol = 17 then (udpNest packet offset packetEnd).called
  else if protocol = 47 then (greNest packet offset).called
  else if protocol = 4 ∨ protocol = 41 then (ipTunnelNest packet offset packetEnd protocol).called
  else Nest.leaf.called

def ipv4HeaderLength (packet : Bytes) (offset : Nat) : Nat := octetAt packet offset % 16 * 4

/-- The checks that `_append_ipv4_layers` makes on a header. -/
def Ipv4WellFormed (packet : Bytes) (offset frameEnd : Nat) : Prop :=
  offset + 20 ≤ frameEnd ∧ octetAt packet offset / 16 = 4 ∧ 20 ≤ ipv4HeaderLength packet offset
    ∧ offset + ipv4HeaderLength packet offset ≤ frameEnd

instance (packet : Bytes) (offset frameEnd : Nat) : Decidable (Ipv4WellFormed packet offset frameEnd) :=
  inferInstanceAs (Decidable (_ ∧ _))

def ipv4PacketEnd (packet : Bytes) (offset frameEnd : Nat) : Nat :=
  if ipv4HeaderLength packet offset ≤ be16At packet (offset + 2) then
    min frameEnd (offset + be16At packet (offset + 2))
  else frameEnd

def ipv4Nest (packet : Bytes) (offset frameEnd : Nat) : Nest :=
  if Ipv4WellFormed packet offset frameEnd then
    transportNest packet (offset + ipv4HeaderLength packet offset)
      (ipv4PacketEnd packet offset frameEnd) (octetAt packet (offset + 9))
  else Nest.leaf

/-- The checks that `_append_ipv6_layers` makes on a header. -/
def Ipv6WellFormed (packet : Bytes) (offset frameEnd : Nat) : Prop :=
  offset + 40 ≤ frameEnd ∧ octetAt packet offset / 16 = 6

instance (packet : Bytes) (offset frameEnd : Nat) : Decidable (Ipv6WellFormed packet offset frameEnd) :=
  inferInstanceAs (Decidable (_ ∧ _))

def ipv6PacketEnd (packet : Bytes) (offset frameEnd : Nat) : Nat :=
  if 0 < be16At packet (offset + 4) then min frameEnd (offset + 40 + be16At packet (offset + 4))
  else frameEnd

def ipv6Nest (packet : Bytes) (offset frameEnd : Nat) : Nest :=
  if Ipv6WellFormed packet offset frameEnd then
    transportNest packet (offset + 40) (ipv6PacketEnd packet offset frameEnd)
      (octetAt packet (offset + 6))
  else Nest.leaf

/-- The offset behind a label stack of at most `left` entries. -/
def mplsStackEnd (packet : Bytes) (frameEnd : Nat) : (left currentOffset : Nat) → Option Nat
  | 0, _ => none
  | left + 1, currentOffset =>
      if frameEnd < currentOffset + 4 then none
      else if be32At packet currentOffset >>> 8 &&& 0x1 = 1 then some (currentOffset + 4)
      else mplsStackEnd packet frameEnd left (currentOffset + 4)

def mplsNest (packet : Bytes) (offset frameEnd : Nat) : Nest :=
  match mplsStackEnd packet frameEnd 8 offset with
  | none => Nest.leaf.called
  | some currentOffset =>
      if frameEnd ≤ currentOffset then Nest.leaf.called
      else ⟨1, datagramAt packet currentOffset frameEnd⟩

/-- The type and the offset of what a frame carries behind at most `left` tags. -/
def vlanTagged (packet : Bytes) (frameEnd : Nat) : (left etherType payloadOffset : Nat) → Option (Nat × Nat)
  | 0, etherType, payloadOffset => some (etherType, payloadOffset)
  | left + 1, etherType, payloadOffset =>
      if etherType ∈ [0x8100, 0x88A8, 0x9100] then
        if frameEnd < payloadOffset + 4 then none
        else vlanTagged packet frameEnd left (be16At packet (payloadOffset + 2)) (payloadOffset + 4)
      else some (etherType, payloadOffset)

def framePayloadNest (packet : Bytes) (frameEnd etherType payloadOffset : Nat) : Nest :=
  if etherType = 0x0800 then ⟨0, some (.ipv4 payloadOffset (some frameEnd))⟩
  else if etherType = 0x86DD then ⟨0, some (.ipv6 payloadOffset (some frameEnd))⟩
  else if etherType = 0x0806 then Nest.leaf.called
  else if etherType = 0x8847 ∨ etherType = 0x8848 then mplsNest packet payloadOffset frameEnd
  else Nest.leaf

def framePayload (packet : Bytes) (offset frameEnd : Nat) : Option (Nat × Nat) :=
  if frameEnd < offset + 14 then none
  else vlanTagged packet frameEnd 2 (be16At packet (offset + 12)) (offset + 14)

def ethernetNest (packet : Bytes) (offset frameEnd : Nat) : Nest :=
  match framePayload packet offset frameEnd with
  | none => Nest.leaf
  | some (etherType, payloadOffset) => framePayloadNest packet frameEnd etherType payloadOffset

/-- The nest of one of the three functions that the tunnels go on with. -/
def layerNest (packet : Bytes) : LayerCall → Nest
  | .ethernet offset packetEnd _ =>
      (ethernetNest packet offset (min packet.length packetEnd)).called
  | .ipv4 offset packetEnd => (ipv4Nest packet offset (frameEndOf packet.length packetEnd)).called
  | .ipv6 offset packetEnd => (ipv6Nest packet offset (frameEndOf packet.length packetEnd)).called

/-! ## One header after the other -/

/-- The headers that are reached from one, with the rounds that are left. -/
def nestedHeaders (packet : Bytes) : (fuel : Nat) → LayerCall → List LayerCall
  | 0, _ => []
  | fuel + 1, target =>
      target :: ((layerNest packet target).carried.map (nestedHeaders packet fuel)).getD []

def nestedCalls (packet : Bytes) (fuel : Nat) (target : LayerCall) : Nat :=
  ((nestedHeaders packet fuel target).map fun header => (layerNest packet header).calls).sum

theorem nestedCalls_succ (packet : Bytes) (fuel : Nat) (target : LayerCall) :
    nestedCalls packet (fuel + 1) target
      = (layerNest packet target).depth (nestedCalls packet fuel) := by
  unfold nestedCalls Nest.depth
  rw [nestedHeaders, List.map_cons, List.sum_cons]
  rcases (layerNest packet target).carried with _ | c
  · rfl
  · rfl

theorem calls_layerNest (packet : Bytes) (target : LayerCall) : 1 ≤ (layerNest packet target).calls := by
  cases target <;> exact Nat.le_add_left 1 _

/-! ## What is read of a header -/

/-- What `_append_transport_layers` reads for the protocol ends within `n` octets. -/
def TransportContained (packet : Bytes) (n offset protocol : Nat) (ipv6 : Bool) : Prop :=
  (protocol = 17 → offset + 8 ≤ n)
    ∧ (protocol = 6 → TcpContained packet n offset)
    ∧ (protocol = 132 → SctpContained n offset)
    ∧ (protocol = 1 ∨ protocol = 58 → IcmpContained packet n offset (ipv6 || protocol = 58))
    ∧ protocol ≠ 47

/-- What is read of a header, and of the transport header behind it, ends within `n` octets. -/
def Contained (packet : Bytes) (n : Nat) : LayerCall → Prop
  | .ethernet offset packetEnd _ =>
      ∀ payloadOffset, framePayload packet offset (min packet.length packetEnd)
        = some (0x0806, payloadOffset) → ArpContained n payloadOffset
  | .ipv4 offset packetEnd =>
      Ipv4WellFormed packet offset (frameEndOf packet.length packetEnd) →
        TransportContained packet n (offset + ipv4HeaderLength packet offset)
          (octetAt packet (offset + 9)) false
  | .ipv6 offset packetEnd =>
      Ipv6WellFormed packet offset (frameEndOf packet.length packetEnd) →
        TransportContained packet n (offset + 40) (octetAt packet (offset + 6)) true

/-! ## Later headers lie behind -/

def LayerCall.ending (packetEnd : Nat) : LayerCall → LayerCall
  | .ethernet offset _ name => .ethernet offset packetEnd name
  | .ipv4 offset _ => .ipv4 offset (some packetEnd)
  | .ipv6 offset _ => .ipv6 offset (some packetEnd)

def LayerCall.offset : LayerCall → Nat
  | .ethernet offset _ _ => offset
  | .ipv4 offset _ => offset
  | .ipv6 offset _ => offset

/-- The end that is passed on is one of the first `n` octets; where none is, the packet ends there. -/
def EndWithin (n : Nat) (ended : Prop) : Option Nat → Prop
  | some packetEnd => packetEnd ≤ n
  | none => ended

def LayerCall.EndsBy (n : Nat) (ended : Prop) : LayerCall → Prop
  | .ethernet _ packetEnd _ => packetEnd ≤ n
  | .ipv4 _ packetEnd => EndWithin n ended packetEnd
  | .ipv6 _ packetEnd => EndWithin n ended packetEnd

/-- The header begins behind `start` and within `n` octets. -/
structure Onward (n start : Nat) (ended : Prop) (c : LayerCall) : Prop where
  behind : start ≤ c.offset
  inside : c.offset ≤ n
  ends : c.EndsBy n ended

theorem Onward.mono {n start start' : Nat} {ended : Prop} {c : LayerCall} (h : Onward n start ended c)
    (hle : start' ≤ start) : Onward n start' ended c := ⟨hle.trans h.behind, h.inside, h.ends⟩

section

variable {packet : Bytes} {n offset packetEnd : Nat} {ended : Prop} {c : LayerCall}

theorem datagramAt_onward (hlt : offset ≤ n) (hend : packetEnd ≤ n)
    (h : datagramAt packet offset packetEnd = some c) : Onward n offset ended c := by
  unfold datagramAt at h
  split_ifs at h
  · cases h
    exact ⟨le_refl _, hlt, hend⟩
  · cases h
    exact ⟨le_refl _, hlt, hend⟩

theorem greNest_onward (hended : ended) (hlength : ended → packet.length ≤ n)
    (h : (greNest packet offset).carried = some c) : Onward n offset ended c := by
  have hle : offset ≤ greHeaderEnd (be16At packet offset) offset := by
    unfold greHeaderEnd
    omega
  have hin := hlength hended
  simp only [greNest, Nest.carried_called] at h
  split_ifs at h with hshort
  · cases h
  · unfold grePayloadNest at h
    split_ifs at h
    · cases h
      exact ⟨hle, (Nat.le_of_not_lt hshort).trans hin, hended⟩
    · cases h
      exact ⟨hle, (Nat.le_of_not_lt hshort).trans hin, hended⟩
    · cases h

theorem ipTunnelNest_onward {protocol : Nat} (hend : packetEnd ≤ n)
    (h : (ipTunnelNest packet offset packetEnd protocol).carried = some c) :
    Onward n offset ended c := by
  simp only [ipTunnelNest, Nest.carried_called] at h
  split_ifs at h with hempty
  · cases h
  · cases h
  · cases h
    exact ⟨le_refl _, (by change offset ≤ n; omega), hend⟩
  · cases h
    exact ⟨le_refl _, (by change offset ≤ n; omega), hend⟩

theorem udpTunnelled_onward (hend : packetEnd ≤ n)
    (h : udpTunnelled packet offset packetEnd = some c) : Onward n offset ended c := by
  unfold udpTunnelled at h
  split_ifs at h with hempty
  exact datagramAt_onward (by omega) hend h

theorem le_gtpuExtensionEnd : ∀ {left cursor extensionHeader : Nat}, cursor ≤ packetEnd →
    cursor ≤ gtpuExtensionEnd packet packetEnd left cursor extensionHeader := by
  intro left
  induction left with
  | zero => exact fun _ => le_refl _
  | succ left ih =>
      intro cursor extensionHeader hle
      simp only [gtpuExtensionEnd]
      split_ifs with _ _ _ hlong
      · exact le_refl _
      · exact hle
      · exact le_refl _
      · exact hle
      · exact (Nat.le_add_right _ _).trans (ih (by omega))

theorem gtpuContentsNest_onward {messageType nextExtensionHeader : Nat} (hend : packetEnd ≤ n)
    (h : (gtpuContentsNest packet messageType offset packetEnd nextExtensionHeader).carried = some c) :
    Onward n offset ended c := by
  unfold gtpuContentsNest at h
  split_ifs at h with hnothing hplain
  · cases h
  · exact datagramAt_onward (by omega) hend h
  · dsimp only at h
    have hle : offset ≤ gtpuExtensionEnd packet packetEnd 4 offset nextExtensionHeader :=
      le_gtpuExtensionEnd (by omega)
    split_ifs at h with hbehind
    · cases h
    · rcases hdatagram : datagramAt packet
        (gtpuExtensionEnd packet packetEnd 4 offset nextExtensionHeader) packetEnd with _ | inner
      · rw [hdatagram] at h
        cases h
      · rw [hdatagram] at h
        cases h
        exact (datagramAt_onward (by omega) hend hdatagram).mono hle

theorem gtpuNest_onward (hend : packetEnd ≤ n)
    (h : (gtpuNest packet offset packetEnd).carried = some c) : Onward n offset ended c := by
  simp only [gtpuNest, Nest.carried_called] at h
  split_ifs at h
  · cases h
  · cases h
  · exact (gtpuContentsNest_onward (by omega) h).mono (by omega)
  · cases h
  · exact (gtpuContentsNest_onward (by omega) h).mono (by omega)
  · exact (gtpuContentsNest_onward (by omega) h).mono (by omega)

theorem vxlanFrame_onward (hend : packetEnd ≤ n) (h : vxlanFrame packet offset packetEnd = some c) :
    Onward n offset ended c := by
  unfold vxlanFrame at h
  split_ifs at h with hshort
  cases h
  exact ⟨Nat.le_add_right _ _, (by change offset + 8 ≤ n; omega), hend⟩

theorem udpPayloadNest_onward {srcPort dstPort : Nat} (hend : packetEnd ≤ n)
    (h : (udpPayloadNest packet offset packetEnd srcPort dstPort).carried = some c) :
    Onward n offset ended c := by
  unfold udpPayloadNest at h
  split_ifs at h
  · exact gtpuNest_onward hend h
  · exact udpTunnelled_onward hend h
  · cases h

theorem udpNest_onward (hend : packetEnd ≤ n)
    (h : (udpNest packet offset packetEnd).carried = some c) : Onward n offset ended c := by
  have hpayload : min packetEnd (offset + be16At packet (offset + 4)) ≤ n := by omega
  unfold udpNest at h
  dsimp only at h
  split_ifs at h
  · cases h
  · rcases hframe : vxlanFrame packet (offset + 8)
      (min packetEnd (offset + be16At packet (offset + 4))) with _ | inner
    · rw [hframe] at h
      exact (udpPayloadNest_onward hpayload h).mono (Nat.le_add_right _ _)
    · rw [hframe] at h
      cases h
      exact (vxlanFrame_onward hpayload hframe).mono (Nat.le_add_right _ _)
  · exact (udpPayloadNest_onward hpayload h).mono (Nat.le_add_right _ _)

theorem transportNest_onward {protocol : Nat} (hend : packetEnd ≤ n)
    (hlength : ended → packet.length ≤ n) (hgre : ended ∨ protocol ≠ 47)
    (h : (transportNest packet offset packetEnd protocol).carried = some c) :
    Onward n offset ended c := by
  unfold transportNest at h
  split_ifs at h with hudp hprotocol
  · exact udpNest_onward hend h
  · exact greNest_onward (hgre.resolve_right (not_not_intro hprotocol)) hlength h
  · exact ipTunnelNest_onward hend h
  · cases h

theorem ipv4Nest_onward (hend : packetEnd ≤ n) (hlength : ended → packet.length ≤ n)
    (hgre : ended ∨ (Ipv4WellFormed packet offset packetEnd → octetAt packet (offset + 9) ≠ 47))
    (h : (ipv4Nest packet offset packetEnd).carried = some c) : Onward n (offset + 1) ended c := by
  unfold ipv4Nest at h
  split_ifs at h with hform
  · have hin : ipv4PacketEnd packet offset packetEnd ≤ n := by
      unfold ipv4PacketEnd
      split <;> omega
    have hihl := hform.2.2.1
    exact (transportNest_onward hin hlength (hgre.imp id fun hne => hne hform) h).mono (by omega)
  · cases h

theorem ipv6Nest_onward (hend : packetEnd ≤ n) (hlength : ended → packet.length ≤ n)
    (hgre : ended ∨ (Ipv6WellFormed packet offset packetEnd → octetAt packet (offset + 6) ≠ 47))
    (h : (ipv6Nest packet offset packetEnd).carried = some c) : Onward n (offset + 1) ended c := by
  unfold ipv6Nest at h
  split_ifs at h with hform
  · have hin : ipv6PacketEnd packet offset packetEnd ≤ n := by
      unfold ipv6PacketEnd
      split <;> omega
    exact (transportNest_onward hin hlength (hgre.imp id fun hne => hne hform) h).mono (by omega)
  · cases h

theorem mplsStackEnd_bounds : ∀ {left currentOffset stackEnd : Nat},
    mplsStackEnd packet packetEnd left currentOffset = some stackEnd →
      currentOffset ≤ stackEnd ∧ stackEnd ≤ packetEnd := by
  intro left
  induction left with
  | zero => 
      intro _ _ h
      cases h
  | succ left ih =>
      intro currentOffset stackEnd h
      rw [mplsStackEnd] at h
      split_ifs at h with hshort hbottom
      · cases h
        omega
      · have hrest := ih h
        omega

theorem mplsNest_onward (hend : packetEnd ≤ n)
    (h : (mplsNest packet offset packetEnd).carried = some c) : Onward n offset ended c := by
  unfold mplsNest at h
  rcases hstack : mplsStackEnd packet packetEnd 8 offset with _ | stackEnd
  · rw [hstack] at h
    cases h
  · rw [hstack] at h
    dsimp only at h
    have hbounds := mplsStackEnd_bounds hstack
    split_ifs at h
    · cases h
    · exact (datagramAt_onward (by omega) hend h).mono hbounds.1

theorem vlanTagged_bounds : ∀ {left etherType payloadOffset etherType' payloadOffset' : Nat},
    payloadOffset ≤ packetEnd →
      vlanTagged packet packetEnd left etherType payloadOffset = some (etherType', payloadOffset') →
        payloadOffset ≤ payloadOffset' ∧ payloadOffset' ≤ packetEnd := by
  intro left
  induction left with
  | zero =>
      intro _ _ _ _ hle h
      cases h
      exact ⟨le_refl _, hle⟩
  | succ left ih =>
      intro _ payloadOffset _ _ hle h
      rw [vlanTagged] at h
      split_ifs at h with htag hshort
      · have hrest := ih (by omega) h
        omega
      · cases h
        exact ⟨le_refl _, hle⟩

theorem framePayload_bounds {etherType payloadOffset : Nat}
    (h : framePayload packet offset packetEnd = some (etherType, payloadOffset)) :
    offset + 14 ≤ payloadOffset ∧ payloadOffset ≤ packetEnd := by
  unfold framePayload at h
  split_ifs at h with hshort
  exact vlanTagged_bounds (by omega) h

theorem ethernetNest_onward (hend : packetEnd ≤ n)
    (h : (ethernetNest packet offset packetEnd).carried = some c) : Onward n (offset + 1) ended c := by
  unfold ethernetNest at h
  rcases hpayload : framePayload packet offset packetEnd with _ | ⟨etherType, payloadOffset⟩
  · rw [hpayload] at h
    cases h
  · rw [hpayload] at h
    dsimp only at h
    have hbounds := framePayload_bounds hpayload
    have hinside : payloadOffset ≤ n := hbounds.2.trans hend
    have hbehind : offset + 1 ≤ payloadOffset := by omega
    unfold framePayloadNest at h
    split_ifs at h
    · cases h
      exact ⟨hbehind, hinside, hend⟩
    · cases h
      exact ⟨hbehind, hinside, hend⟩
    · cases h
    · exact (mplsNest_onward hend h).mono hbehind
    · cases h

end

end TrexWebui
