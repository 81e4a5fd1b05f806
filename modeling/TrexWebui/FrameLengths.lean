import TrexWebui.FieldEngine
import TrexWebui.PacketBuild

/-!
# Frame lengths

How `normalize_workbench_streams` settles the three frame lengths of a stream
without a packet binary, and the instructions of `workbench_vm.py` that vary
the length from packet to packet.
-/

namespace TrexWebui

open PyStr Octets

/-! ## Requests -/

/-- `bounded_int`, of the whole number that a value stands for, if it stands for one. -/
def boundedInt (value : Option Int) (minimum maximum fallback : Nat) : Nat :=
  match value with
  | some n => if (minimum : Int) ≤ n ∧ n ≤ maximum then n.toNat else fallback
  | none => fallback

theorem boundedInt_mem (value : Option Int) {minimum maximum fallback : Nat}
    (hlow : minimum ≤ fallback) (hhigh : fallback ≤ maximum) :
    minimum ≤ boundedInt value minimum maximum fallback ∧
      boundedInt value minimum maximum fallback ≤ maximum := by
  cases value with
  | none => exact ⟨hlow, hhigh⟩
  | some n =>
      unfold boundedInt
      dsimp only
      split <;> omega

/-- `PROFILE_WORKBENCH_FRAME_LENGTH_TYPES` -/
inductive FrameLengthType where
  | fixed
  | increment
  | decrement
  | random
  deriving DecidableEq, Repr

/-- `frame_length_operation` -/
def FrameLengthType.operation : FrameLengthType → FieldEngineOperation
  | .increment => .inc
  | .decrement => .dec
  | .random => .random
  | .fixed => .fixed

theorem FrameLengthType.operation_eq_fixed {type : FrameLengthType} :
    type.operation = .fixed ↔ type = .fixed := by
  cases type <;> simp [operation]

structure FrameLengthRequest where
  frameLengthType : FrameLengthType := .fixed
  frameLength : Option Int := none
  frameLengthMin : Option Int := none
  frameLengthMax : Option Int := none

/-- The four fields of the normalized stream. -/
structure FrameLengths where
  frameLengthType : FrameLengthType
  frameLength : Nat
  frameLengthMin : Nat
  frameLengthMax : Nat
  deriving DecidableEq

def FrameLengthRequest.bounded (request : FrameLengthRequest) : FrameLengths :=
  let frameLength := boundedInt request.frameLength 64 9216 64
  let frameLengthMin := boundedInt request.frameLengthMin 64 9216 64
  let frameLengthMax := boundedInt request.frameLengthMax 64 9216 (max 1518 frameLength)
  if request.frameLengthType = .fixed then ⟨.fixed, frameLength, frameLengthMin, frameLengthMax⟩
  else
    let low := min frameLengthMin 9211
    let high := if frameLengthMax ≤ low then min 9216 (low + 5) else frameLengthMax
    ⟨request.frameLengthType, high, low, high⟩

/-! ## Adjustments -/

/-- `frame_length_type = "Fixed"`, on a condition. -/
def FrameLengths.fixedWhen (condition : Bool) (lengths : FrameLengths) : FrameLengths :=
  if condition then { lengths with frameLengthType := .fixed } else lengths

def FrameLengths.raisedWhen (condition : Bool) (minimum : Nat) (lengths : FrameLengths) :
    FrameLengths :=
  if condition then
    { lengths with
      frameLength := max lengths.frameLength minimum
      frameLengthMin := max lengths.frameLengthMin minimum
      frameLengthMax := max lengths.frameLengthMax minimum }
  else lengths

namespace Stream

variable (stream : Stream)

/-- `workbench_is_icmpv6_control` -/
def isIcmpv6Control : Bool := stream.isIcmpv6Rs || stream.isIcmpv6Ra || stream.isIcmpv6Nd

/-- `_workbench_minimum_wire_length` -/
def minimumWireLength : Nat :=
  if stream.hasDhcp then max 64 (stream.l2HeaderLength + stream.l3HeaderLength + 8 + 300 + 4)
  else if stream.hasDns then
    max 64 (stream.l2HeaderLength + stream.l3HeaderLength + 8 + stream.dnsQueryBytes.length + 4)
  else if stream.isIcmpv6Control then
    max 64 (stream.l2HeaderLength + 40 + stream.icmpHeaderLength + 4)
  else if stream.packetType.isGre then
    max 64 (stream.l2HeaderLength + stream.l3HeaderLength + stream.greHeaderLength
      + stream.greInnerVersion.headerLength + 8 + 4)
  else if stream.packetType.isSctp then
    max 64 (stream.l2HeaderLength + stream.l3HeaderLength + 28 + 4)
  else if stream.hasGtpu then
    max 64 (stream.l2HeaderLength + 20 + 8 + 8 + stream.gtpuOptionalHeaderLength
      + stream.gtpuExtensionHeaderLength + stream.gtpuInnerIpVersion.headerLength + 8 + 4)
  else if !stream.vxlanEnabled then 64
  else stream.l2HeaderLength + 20 + 8 + 8 + 14 + stream.vxlanInnerIpVersion.headerLength + 8 + 4

/-- `workbench_supports_variable_frame_length` -/
def supportsVariableFrameLength : Bool :=
  !(stream.packetType.isGre || stream.hasGtpu || stream.vxlanEnabled
    || stream.packetType = .ipv4Icmp || stream.packetType = .ipv6Icmpv6
    || stream.packetType.isSctp)

end Stream

/-- The adjustments of `normalize_workbench_streams`, in its order. The fields that
`_workbench_minimum_wire_length` reads have their final values at each call that counts;
`sctpIterated` says that a mode of an SCTP number is not `Fixed`. -/
def normalizeFrameLengths (stream : Stream) (sctpIterated : Bool) (request : FrameLengthRequest) :
    FrameLengths :=
  let minimum := stream.minimumWireLength
  let isIcmpv6 : Bool := stream.packetType = .ipv6Icmpv6
  request.bounded
    |>.fixedWhen stream.packetType.isGre |>.raisedWhen stream.packetType.isGre minimum
    |>.fixedWhen stream.hasGtpu |>.raisedWhen stream.hasGtpu minimum
    |>.raisedWhen stream.hasDns minimum
    |>.raisedWhen stream.hasDhcp minimum
    |>.raisedWhen (stream.packetType.isSctp && sctpIterated) minimum
    |>.fixedWhen isIcmpv6 |>.raisedWhen stream.isIcmpv6Control minimum
    |>.fixedWhen stream.vxlanEnabled |>.raisedWhen stream.vxlanEnabled minimum
    |>.fixedWhen !stream.supportsVariableFrameLength

/-- A normalized stream with its frame lengths. -/
structure FramedStream extends Stream where
  frameLengthType : FrameLengthType := .fixed
  frameLengthMin : Nat := 64
  frameLengthMax : Nat := 1518
  normalized : ∃ sctpIterated request, normalizeFrameLengths toStream sctpIterated request
    = ⟨frameLengthType, frameLength, frameLengthMin, frameLengthMax⟩

/-! ## The invariant -/

/-- A length that varies starts at 64 or above, and the packet is built for the longest. -/
def FrameLengths.Ordered (lengths : FrameLengths) : Prop :=
  lengths.frameLengthType ≠ .fixed → 64 ≤ lengths.frameLengthMin ∧
    lengths.frameLengthMin ≤ lengths.frameLengthMax ∧ lengths.frameLength = lengths.frameLengthMax

theorem FrameLengths.Ordered.fixedWhen {lengths : FrameLengths} (h : lengths.Ordered)
    (condition : Bool) : (lengths.fixedWhen condition).Ordered := by
  intro htype
  unfold FrameLengths.fixedWhen at htype ⊢
  cases condition with
  | false => exact h htype
  | true => exact absurd rfl htype

theorem FrameLengths.Ordered.raisedWhen {lengths : FrameLengths} (h : lengths.Ordered)
    (condition : Bool) (minimum : Nat) : (lengths.raisedWhen condition minimum).Ordered := by
  intro htype
  unfold FrameLengths.raisedWhen at htype ⊢
  cases condition with
  | false => exact h htype
  | true =>
      obtain ⟨hlow, hle, heq⟩ := h htype
      simp only [if_true]
      omega

theorem FrameLengthRequest.bounded_ordered (request : FrameLengthRequest) :
    request.bounded.Ordered := by
  intro htype
  have hlength := boundedInt_mem request.frameLength (Nat.le_refl 64) (show 64 ≤ 9216 by decide)
  unfold bounded at htype ⊢
  dsimp only at htype ⊢
  generalize boundedInt request.frameLength 64 9216 64 = frameLength at *
  have hlow := boundedInt_mem request.frameLengthMin (Nat.le_refl 64) (show 64 ≤ 9216 by decide)
  have hhigh := boundedInt_mem request.frameLengthMax (show 64 ≤ max 1518 frameLength by omega)
    (show max 1518 frameLength ≤ 9216 by omega)
  generalize boundedInt request.frameLengthMin _ _ _ = low at *
  generalize boundedInt request.frameLengthMax _ _ _ = high at *
  split at htype
  · exact absurd rfl htype
  · split_ifs <;> dsimp only <;> omega

theorem normalizeFrameLengths_ordered (stream : Stream) (sctpIterated : Bool)
    (request : FrameLengthRequest) :
    (normalizeFrameLengths stream sctpIterated request).Ordered := by
  unfold normalizeFrameLengths
  repeat' first
    | apply FrameLengths.Ordered.fixedWhen
    | apply FrameLengths.Ordered.raisedWhen
  exact request.bounded_ordered

end TrexWebui
