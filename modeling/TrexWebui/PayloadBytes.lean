import TrexWebui.Octets

/-!
# Payloads

`_payload_bytes` of `workbench_packet_build.py`: the filler that brings a frame
to its length. It always has exactly the length it was asked for, whatever the
pattern, and whatever the random generator draws.
-/

namespace TrexWebui

open PyStr Octets

/-- `PROFILE_WORKBENCH_PAYLOAD_TYPES` -/
inductive PayloadType where
  | fixedWord
  | incrementByte
  | decrementByte
  | random
  deriving DecidableEq, Repr

/-! ## Repeated sources -/

def repeatPayloadBytes (source : Bytes) (length : Nat) : Bytes :=
  let source := if source.isEmpty then [0] else source
  let repeatCount := (length + source.length - 1) / source.length
  ((List.replicate repeatCount source).flatten).take length

/-- `_payload_pattern_bytes`, of the octets that the pattern spells. -/
def payloadPatternBytes (pattern : Bytes) (length : Nat) : Bytes :=
  repeatPayloadBytes pattern length

theorem le_repeat_length (length : Nat) {size : Nat} (h : 0 < size) :
    length ≤ (length + size - 1) / size * size := by
  have hmod := Nat.mod_lt (length + size - 1) h
  have hdiv := Nat.div_add_mod (length + size - 1) size
  rw [Nat.mul_comm] at hdiv
  omega

@[simp] theorem length_repeatPayloadBytes (source : Bytes) (length : Nat) :
    (repeatPayloadBytes source length).length = length := by
  have hsize : 0 < (if source.isEmpty then [0] else source).length := by
    cases source with
    | nil => exact Nat.one_pos
    | cons => exact Nat.succ_pos _
  have hle := le_repeat_length length hsize
  simp only [repeatPayloadBytes, List.length_take, List.length_flatten, List.map_replicate,
    List.sum_replicate_nat]
  omega

/-! ## Random octets -/

/-- The digits of `f"{number:x}"`. -/
def hexDigits (number : UInt32) : List Nat :=
  let digits := [28, 24, 20, 16, 12, 8, 4, 0].map fun shift => (number.toNat >>> shift) % 16
  match digits.dropWhile (· == 0) with
  | [] => [0]
  | first :: rest => first :: rest

theorem hexDigits_pos (number : UInt32) : 0 < (hexDigits number).length := by
  simp only [hexDigits]
  split <;> simp

/-- The loop of the random payload. Every draw has a digit, so it ends within as many draws as
there are digits missing. -/
def fillHex (draws : Nat → UInt32) (length : Nat) : (fuel next : Nat) → List Nat → List Nat
  | 0, _, digits => digits
  | fuel + 1, next, digits =>
      if digits.length < length then
        fillHex draws length fuel (next + 1) (digits ++ hexDigits (draws next))
      else digits

theorem le_length_fillHex (draws : Nat → UInt32) (length fuel next : Nat) (digits : List Nat)
    (h : length ≤ digits.length + fuel) :
    length ≤ (fillHex draws length fuel next digits).length := by
  induction fuel generalizing next digits with
  | zero => exact h
  | succ fuel ih =>
      rw [fillHex]
      split
      · have hpos := hexDigits_pos (draws next)
        apply ih (next + 1)
        rw [List.length_append]
        omega
      · omega

def fromHex : List Nat → Bytes
  | high :: low :: rest => .ofNat (high * 16 + low) :: fromHex rest
  | _ => []

theorem length_fromHex (digits : List Nat) : (fromHex digits).length = digits.length / 2 := by
  induction digits using fromHex.induct with
  | case1 high low rest ih =>
      rw [fromHex, List.length_cons, ih, List.length_cons, List.length_cons]
      omega
  | case2 digits h =>
      match digits with
      | [] => rfl
      | [_] => simp [fromHex]
      | high :: low :: rest => exact absurd rfl (h high low rest)

def randomPayloadBytes (draws : Nat → UInt32) (length : Nat) : Bytes :=
  fromHex ((fillHex draws (length * 2) (length * 2) 0 [4, 3]).take (length * 2))

@[simp] theorem length_randomPayloadBytes (draws : Nat → UInt32) (length : Nat) :
    (randomPayloadBytes draws length).length = length := by
  have hle := le_length_fillHex draws (length * 2) (length * 2) 0 [4, 3] (by simp)
  rw [randomPayloadBytes, length_fromHex, List.length_take]
  omega

/-! ## The filler -/

/-- The fields of a stream that `_payload_bytes` reads. -/
structure PayloadFields where
  payloadEnabled : Bool := true
  payloadType : PayloadType := .fixedWord
  payloadPattern : Bytes := [0]

def payloadBytes (stream : PayloadFields) (draws : Nat → UInt32) (length : Nat) : Bytes :=
  if length = 0 then []
  else if !stream.payloadEnabled then List.replicate length 0
  else
    match stream.payloadType with
    | .incrementByte => repeatPayloadBytes ((List.range 255).map fun n => .ofNat (n + 1)) length
    | .decrementByte => repeatPayloadBytes ((List.range 256).map fun n => .ofNat (255 - n)) length
    | .random => randomPayloadBytes draws length
    | .fixedWord => payloadPatternBytes stream.payloadPattern length

@[simp] theorem length_payloadBytes (stream : PayloadFields) (draws : Nat → UInt32)
    (length : Nat) : (payloadBytes stream draws length).length = length := by
  unfold payloadBytes payloadPatternBytes
  split_ifs with hzero henabled
  · rw [hzero, List.length_nil]
  · rw [List.length_replicate]
  · split <;> simp

end TrexWebui
