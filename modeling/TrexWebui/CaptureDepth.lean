import TrexWebui.CaptureFetching
import TrexWebui.CaptureNestRuns

/-!
# How deep the decoder calls

The decoder takes every header with a call of its own, and a tunnel with the
calls that lead to the next one. Repetitions of a tag, a label or an extension
are counted and cut off, tunnels are not: in `tunnelFrame` each header announces
another, and takes three calls.
-/

namespace TrexWebui

open PyStr Octets PacketReader

def captureHeaders (packet : Bytes) : List LayerCall :=
  if packet.length < 14 then []
  else nestedHeaders packet (packet.length + 1) (.ethernet 0 packet.length "Ethernet")

/-- The calls that the headers of a packet take together: one for a frame, a label stack or a tunnel
header, two for an IP header with its payload. -/
def captureCalls (packet : Bytes) : Nat :=
  ((captureHeaders packet).map fun header => (layerNest packet header).calls).sum

theorem captureDecodedLayers_relates (packet : Bytes) :
    Relates Eq packet packet captureDecodedLayers captureDecodedLayers () (captureCalls packet) := by
  unfold captureDecodedLayers captureCalls captureHeaders
  refine .size ?_
  by_cases hshort : packet.length < 14
  · simp only [if_pos hshort]
    exact (Runs.append _).relates fun _ => rfl
  · simp only [if_neg hshort]
    have hends : (LayerCall.ethernet 0 packet.length "Ethernet").EndsBy packet.length
        (Ended packet.length packet packet) := le_refl packet.length
    exact (appendLayers_relates (Agree.refl packet) (Nat.lt_succ_self _) (Nat.lt_succ_self _)
      (Nat.zero_le _) hends (.inl ⟨rfl, rfl⟩)).2

/-- An octet of a frame that is filled with IPv4 headers, each of which announces another. -/
def tunnelOctet (i : Nat) : UInt8 :=
  if i < 14 then (if i = 12 then 0x08 else 0)
  else if (i - 14) % 20 = 0 then 0x45
  else if (i - 14) % 20 = 9 then 4
  else 0

/-- The frame with `count` headers. -/
def tunnelFrame (count : Nat) : Bytes := (List.range (14 + 20 * count)).map tunnelOctet

theorem length_tunnelFrame (count : Nat) : (tunnelFrame count).length = 14 + 20 * count := by
  rw [tunnelFrame, List.length_map, List.length_range]

theorem octetAt_tunnelFrame {count i : Nat} (hlt : i < 14 + 20 * count) :
    octetAt (tunnelFrame count) i = (tunnelOctet i).toNat := by
  unfold octetAt tunnelFrame
  rw [List.getD_eq_getElem?_getD, List.getElem?_map, List.getElem?_range hlt]
  rfl

section

variable {count m : Nat}

theorem octetAt_tunnelHeader (hlt : m < count) {j : Nat} (hj : j < 20) :
    octetAt (tunnelFrame count) (14 + 20 * m + j) = if j = 0 then 0x45 else if j = 9 then 4 else 0 := by
  have hmod : (14 + 20 * m + j - 14) % 20 = j := by omega
  have hbehind : ¬14 + 20 * m + j < 14 := by omega
  rw [octetAt_tunnelFrame (by omega), tunnelOctet, if_neg hbehind, hmod]
  split_ifs <;> rfl

theorem layerNest_tunnelFrame (hlt : m < count) :
    layerNest (tunnelFrame count) (.ipv4 (14 + 20 * m) (some (14 + 20 * count)))
      = ⟨3, if m + 1 < count then some (.ipv4 (14 + 20 * (m + 1)) (some (14 + 20 * count))) else none⟩ := by
  have hzero : 0 < 20 := by decide
  have hfirst : octetAt (tunnelFrame count) (14 + 20 * m) = 0x45 := octetAt_tunnelHeader hlt hzero
  have hprotocol : octetAt (tunnelFrame count) (14 + 20 * m + 9) = 4 :=
    octetAt_tunnelHeader hlt (by decide)
  have htotal : be16At (tunnelFrame count) (14 + 20 * m + 2) = 0 := by
    have hhigh : octetAt (tunnelFrame count) (14 + 20 * m + 2) = 0 :=
      octetAt_tunnelHeader hlt (by decide)
    have hlow : octetAt (tunnelFrame count) (14 + 20 * m + 2 + 1) = 0 :=
      @octetAt_tunnelHeader count m hlt 3 (by decide)
    rw [be16At, hhigh, hlow]
  have hihl : ipv4HeaderLength (tunnelFrame count) (14 + 20 * m) = 20 := by
    rw [ipv4HeaderLength, hfirst]
  have hend : frameEndOf (tunnelFrame count).length (some (14 + 20 * count)) = 14 + 20 * count := by
    rw [length_tunnelFrame]
    exact Nat.min_self _
  have hform : Ipv4WellFormed (tunnelFrame count) (14 + 20 * m) (14 + 20 * count) := by
    unfold Ipv4WellFormed
    rw [hihl, hfirst]
    omega
  have hpacketEnd : ipv4PacketEnd (tunnelFrame count) (14 + 20 * m) (14 + 20 * count)
      = 14 + 20 * count := by
    rw [ipv4PacketEnd, hihl, htotal]
    rfl
  have hnext : 14 + 20 * m + 20 = 14 + 20 * (m + 1) := by omega
  rw [layerNest, hend, ipv4Nest, if_pos hform, hpacketEnd, hprotocol, hihl, hnext]
  by_cases hlast : m + 1 < count
  · have hinner : octetAt (tunnelFrame count) (14 + 20 * (m + 1)) = 0x45 :=
      octetAt_tunnelHeader hlast hzero
    have hroom : ¬14 + 20 * count ≤ 14 + 20 * (m + 1) := by omega
    rw [if_pos hlast]
    simp only [transportNest, ipTunnelNest, hinner, if_neg hroom]
    rfl
  · have hroom : 14 + 20 * count ≤ 14 + 20 * (m + 1) := by omega
    rw [if_neg hlast]
    simp only [transportNest, ipTunnelNest, if_pos hroom]
    rfl

/-- With `left` headers behind, the calls nest three deep for each. -/
theorem nestedCalls_tunnelFrame : ∀ {left fuel m : Nat}, m + left + 1 = count → left < fuel →
    nestedCalls (tunnelFrame count) fuel (.ipv4 (14 + 20 * m) (some (14 + 20 * count)))
      = 3 * (left + 1) := by
  intro left
  induction left with
  | zero =>
      intro fuel m hcount hfuel
      obtain ⟨fuel, rfl⟩ : ∃ k, fuel = k + 1 := ⟨fuel - 1, by omega⟩
      rw [nestedCalls_succ, layerNest_tunnelFrame (by omega), if_neg (by omega)]
      rfl
  | succ left ih =>
      intro fuel m hcount hfuel
      obtain ⟨fuel, rfl⟩ : ∃ k, fuel = k + 1 := ⟨fuel - 1, by omega⟩
      rw [nestedCalls_succ, layerNest_tunnelFrame (by omega), if_pos (by omega), Nest.depth_some,
        ih (by omega) (by omega)]
      omega

theorem captureCalls_tunnelFrame (hpositive : 0 < count) :
    captureCalls (tunnelFrame count) = 3 * count + 1 := by
  have hlength := length_tunnelFrame count
  have hshort : ¬(tunnelFrame count).length < 14 := by omega
  have htype : be16At (tunnelFrame count) (0 + 12) = 0x0800 := by
    rw [be16At, octetAt_tunnelFrame (by omega), octetAt_tunnelFrame (by omega)]
    rfl
  have hpayload : framePayload (tunnelFrame count) 0 (14 + 20 * count) = some (0x0800, 14) := by
    rw [framePayload, if_neg (by omega), htype]
    rfl
  have hnest : layerNest (tunnelFrame count) (.ethernet 0 (14 + 20 * count) "Ethernet")
      = ⟨1, some (.ipv4 14 (some (14 + 20 * count)))⟩ := by
    rw [layerNest, hlength, Nat.min_self, ethernetNest, hpayload]
    rfl
  have hinner := @nestedCalls_tunnelFrame count (count - 1) (14 + 20 * count) 0 (by omega) (by omega)
  have hcalls : nestedCalls (tunnelFrame count) (14 + 20 * count + 1)
      (.ethernet 0 (14 + 20 * count) "Ethernet") = 3 * count + 1 := by
    rw [nestedCalls_succ, hnest, Nest.depth_some]
    rw [Nat.mul_zero, Nat.add_zero] at hinner
    rw [hinner]
    omega
  rw [captureCalls, captureHeaders, if_neg hshort, hlength]
  exact hcalls

end

end TrexWebui
