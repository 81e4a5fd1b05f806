import TrexWebui.Retention
import Mathlib.Data.List.Basic

/-!
# The buffer of captured packets

The browser appends each batch of captured packets to a buffer that keeps the
newest packets within a number and a size. How the packets come in batches does
not matter for what the buffer holds.
-/

namespace TrexWebui

open Retention

/-! ## Packets -/

/-- A JavaScript string: its length is the number of its UTF-16 units. -/
abbrev JsString := List UInt16

structure DecodedField where
  name : JsString
  value : JsString

structure DecodedLayer where
  name : JsString
  fields : List DecodedField

/-- The texts of a `TrexCapturePacket`: its numbers do not count. -/
structure TrexCapturePacket where
  mode : JsString
  destination : JsString
  source : JsString
  type : JsString
  info : JsString
  binaryBase64 : JsString
  hexPreview : JsString
  decodedLayers : Option (List DecodedLayer)

def capturePacketRetentionMaxCount : Nat := 2000

def capturePacketRetentionMaxBytes : Nat := 8 * 1024 * 1024

def retainedPacketBytes (packet : TrexCapturePacket) : Nat :=
  let characters := packet.binaryBase64.length + packet.hexPreview.length
    + packet.destination.length + packet.source.length + packet.type.length + packet.mode.length
    + packet.info.length
  let withLayers := (packet.decodedLayers.getD []).foldl
    (fun characters layer => layer.fields.foldl
      (fun characters field => characters + (field.name.length + field.value.length))
      (characters + layer.name.length))
    characters
  withLayers * 2 + 256

/-! ## The buffer -/

structure CapturePacketBuffer where
  dropped : Nat
  packets : List TrexCapturePacket

/-- The loop of `appendCapturePackets` from the newest candidate on: `retained` grows at its end. -/
def retainLoop : (candidates retained : List TrexCapturePacket) → (retainedBytes : Nat) →
    List TrexCapturePacket
  | [], retained, _ => retained
  | packet :: candidates, retained, retainedBytes =>
      if capturePacketRetentionMaxCount ≤ retained.length then retained
      else
        let packetBytes := retainedPacketBytes packet
        if capturePacketRetentionMaxBytes < packetBytes then
          retainLoop candidates retained retainedBytes
        else if capturePacketRetentionMaxBytes < retainedBytes + packetBytes then retained
        else retainLoop candidates (retained ++ [packet]) (retainedBytes + packetBytes)

def appendCapturePackets (current : CapturePacketBuffer) (incoming : List TrexCapturePacket) :
    CapturePacketBuffer :=
  if incoming.length = 0 then current
  else
    let candidates := current.packets ++ incoming
    let retained := (retainLoop candidates.reverse [] 0).reverse
    { dropped := current.dropped + candidates.length - retained.length
      packets := retained }

def emptyBuffer : CapturePacketBuffer := { dropped := 0, packets := [] }

/-! ## What the loop keeps -/

def captureLimits : Limits TrexCapturePacket where
  weight := retainedPacketBytes
  maxCount := capturePacketRetentionMaxCount
  maxWeight := capturePacketRetentionMaxBytes

theorem retainLoop_eq (candidates retained : List TrexCapturePacket) (retainedBytes : Nat) :
    retainLoop candidates retained retainedBytes
      = retained ++ captureLimits.scan candidates retained.length retainedBytes := by
  induction candidates generalizing retained retainedBytes with
  | nil => exact (List.append_nil retained).symm
  | cons packet candidates ih =>
      rw [retainLoop, Limits.scan]
      change _ = retained ++ if capturePacketRetentionMaxCount ≤ retained.length then []
        else if capturePacketRetentionMaxBytes < retainedPacketBytes packet then
          captureLimits.scan candidates retained.length retainedBytes
        else if capturePacketRetentionMaxBytes < retainedBytes + retainedPacketBytes packet then []
        else packet :: captureLimits.scan candidates (retained.length + 1)
          (retainedBytes + retainedPacketBytes packet)
      simp only [ih]
      split
      · exact (List.append_nil retained).symm
      · split
        · rfl
        · split
          · exact (List.append_nil retained).symm
          · rw [List.length_append, List.length_singleton, List.append_assoc, List.singleton_append]

theorem appendCapture_packets (current : CapturePacketBuffer) {incoming : List TrexCapturePacket}
    (h : incoming ≠ []) :
    (appendCapturePackets current incoming).packets
        = captureLimits.retain (current.packets ++ incoming)
      ∧ (appendCapturePackets current incoming).dropped
          + (appendCapturePackets current incoming).packets.length
        = current.dropped + current.packets.length + incoming.length := by
  have hloop : (retainLoop (current.packets ++ incoming).reverse [] 0).reverse
      = captureLimits.retain (current.packets ++ incoming) := by
    rw [retainLoop_eq, List.nil_append, Limits.retain, List.length_nil]
  have hle := (captureLimits.retain_sublist (current.packets ++ incoming)).length_le
  rw [appendCapturePackets, if_neg (fun hzero => h (List.length_eq_zero_iff.mp hzero))]
  simp only [hloop]
  rw [List.length_append] at hle ⊢
  exact ⟨trivial, by omega⟩

theorem appendCapture_twice (current : CapturePacketBuffer) (first second : List TrexCapturePacket) :
    appendCapturePackets (appendCapturePackets current first) second
      = appendCapturePackets current (first ++ second) := by
  by_cases hfirst : first = []
  · subst hfirst
    rfl
  by_cases hsecond : second = []
  · subst hsecond
    rw [List.append_nil]
    rfl
  obtain ⟨hpackets, hdropped⟩ := appendCapture_packets current hfirst
  obtain ⟨hpackets', hdropped'⟩ :=
    appendCapture_packets (appendCapturePackets current first) hsecond
  obtain ⟨hboth, hall⟩ :=
    appendCapture_packets current (List.append_ne_nil_of_left_ne_nil hfirst second)
  have hsame : (appendCapturePackets (appendCapturePackets current first) second).packets
      = (appendCapturePackets current (first ++ second)).packets := by
    rw [hpackets', hpackets, hboth, captureLimits.retain_append, List.append_assoc]
  have hcount : (appendCapturePackets (appendCapturePackets current first) second).dropped
      = (appendCapturePackets current (first ++ second)).dropped := by
    rw [hsame] at hdropped'
    rw [List.length_append] at hall
    omega
  cases hleft : appendCapturePackets (appendCapturePackets current first) second
  cases hright : appendCapturePackets current (first ++ second)
  rw [hleft, hright] at hsame hcount
  exact congrArg₂ CapturePacketBuffer.mk hcount hsame

/-! ## Runs -/

/-- The buffer holds what is kept of the packets received, and counts the others. -/
structure BufferHolds (received : List TrexCapturePacket) (buffer : CapturePacketBuffer) : Prop where
  packets : buffer.packets = captureLimits.retain received
  count : buffer.dropped + buffer.packets.length = received.length

theorem BufferHolds.append {received incoming : List TrexCapturePacket} {buffer : CapturePacketBuffer}
    (h : BufferHolds received buffer) :
    BufferHolds (received ++ incoming) (appendCapturePackets buffer incoming) := by
  by_cases hempty : incoming = []
  · subst hempty
    rw [List.append_nil]
    exact h
  · obtain ⟨hpackets, hcount⟩ := appendCapture_packets buffer hempty
    refine ⟨?_, ?_⟩
    · rw [hpackets, h.packets, captureLimits.retain_append]
    · rw [hcount, h.count, List.length_append]

theorem BufferHolds.run {received : List TrexCapturePacket} {buffer : CapturePacketBuffer}
    (h : BufferHolds received buffer) (batches : List (List TrexCapturePacket)) :
    BufferHolds (received ++ batches.flatten) (batches.foldl appendCapturePackets buffer) := by
  induction batches generalizing received buffer with
  | nil =>
      rw [List.flatten_nil, List.append_nil]
      exact h
  | cons batch batches ih =>
      rw [List.flatten_cons, ← List.append_assoc]
      exact ih h.append

/-- The buffer after any batches: every packet is kept or counted, what is kept is in order and
within the limits, and two batches are one. -/
theorem capture_retention (batches : List (List TrexCapturePacket)) :
    let buffer := batches.foldl appendCapturePackets emptyBuffer
    buffer.dropped + buffer.packets.length = batches.flatten.length
      ∧ buffer.packets.Sublist batches.flatten
      ∧ buffer.packets.length ≤ capturePacketRetentionMaxCount
      ∧ (buffer.packets.map retainedPacketBytes).sum ≤ capturePacketRetentionMaxBytes
      ∧ ∀ first second, appendCapturePackets (appendCapturePackets buffer first) second
          = appendCapturePackets buffer (first ++ second) := by
  have hempty : BufferHolds [] emptyBuffer := ⟨rfl, rfl⟩
  have hholds : BufferHolds batches.flatten (batches.foldl appendCapturePackets emptyBuffer) :=
    hempty.run batches
  refine ⟨hholds.count, ?_, ?_, ?_, appendCapture_twice _⟩
  · rw [hholds.packets]
    exact captureLimits.retain_sublist batches.flatten
  · rw [hholds.packets]
    exact captureLimits.retain_count batches.flatten
  · rw [hholds.packets]
    exact captureLimits.retain_weight batches.flatten

end TrexWebui
