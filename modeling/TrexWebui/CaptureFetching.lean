import TrexWebui.PyJson

/-!
# Fetching captured packets

`_fetch_capture_packets_bounded` of `capture_operations.py` asks the server
for one batch of packets after another, until the wanted number is there, a
batch falls short, or the byte budget has no room for one more packet of the
longest size. `fetch_capture` and `stop_capture` call it with arguments that
`bounded_capture_int` has checked.

The server is a parameter: what it answers to a call may depend on all calls
before. A run records the exchanges, and the results speak about that record.
-/

namespace TrexWebui

open PyStr

/-! ## Arguments -/

def captureFetchCountMax : Nat := 10_000
def captureFetchLimitMax : Nat := 1_000
def captureFetchBytesMax : Nat := 16_000_000
def captureSnaplenMax : Nat := 65_535
def captureStopFetchLimit : Nat := 50

structure CaptureRequestValidationError where
  blocker : String
  error : String
  deriving DecidableEq, Repr

/-- `bounded_capture_int`; a `bool` is no integer. -/
def boundedCaptureInt (value : PyJson.Value) (minimum maximum : Nat) (blocker label : String) :
    Except CaptureRequestValidationError {n : Nat // minimum ≤ n ∧ n ≤ maximum} :=
  match value with
  | .int n =>
    if h : minimum ≤ n.toNat ∧ n.toNat ≤ maximum ∧ 0 ≤ n then .ok ⟨n.toNat, h.1, h.2.1⟩
    else .error (refusal minimum maximum)
  | _ => .error (refusal minimum maximum)
where
  refusal (minimum maximum : Nat) : CaptureRequestValidationError :=
    ⟨blocker, s!"{label} must be an integer between {minimum} and {maximum}"⟩

/-- The arguments of a fetch: every batch may hold at least one packet. -/
structure CaptureFetch where
  captureId : Nat
  pktCount : Nat
  fetchLimit : Nat
  snaplen : Nat
  availablePacketCount : Option Nat
  fetchLimit_pos : 0 < fetchLimit

/-- The arguments that `fetch_capture` passes on. -/
def CaptureFetch.ofFetchCapture (captureId : Nat) (pktCount fetchLimit snaplen : PyJson.Value) :
    Except CaptureRequestValidationError CaptureFetch := do
  let pktCount ← boundedCaptureInt pktCount 1 captureFetchCountMax
    "capture_fetch_count_invalid" "pkt_count"
  let fetchLimit ← boundedCaptureInt fetchLimit 1 captureFetchLimitMax
    "capture_fetch_limit_invalid" "fetch_limit"
  let snaplen ← boundedCaptureInt snaplen 0 captureSnaplenMax "capture_snaplen_invalid" "snaplen"
  return ⟨captureId, pktCount, fetchLimit, snaplen, none, fetchLimit.property.1⟩

/-- The arguments that `stop_capture` passes on, with the count that the stopped recorder
reported. -/
def CaptureFetch.ofStopCapture (captureId : Nat) (pktCount snaplen : PyJson.Value)
    (availablePacketCount : Nat) : Except CaptureRequestValidationError CaptureFetch := do
  let pktCount ← boundedCaptureInt pktCount 1 captureFetchCountMax
    "capture_fetch_count_invalid" "pkt_count"
  let snaplen ← boundedCaptureInt snaplen 0 captureSnaplenMax "capture_snaplen_invalid" "snaplen"
  return ⟨captureId, pktCount, captureStopFetchLimit, snaplen, some availablePacketCount,
    Nat.le_of_ble_eq_true rfl⟩

/-- `min(pkt_count, available_packet_count)` -/
def CaptureFetch.targetPacketCount (request : CaptureFetch) : Nat :=
  match request.availablePacketCount with
  | some available => min request.pktCount available
  | none => request.pktCount

/-- `snaplen or CAPTURE_SNAPLEN_MAX` -/
def CaptureFetch.effectiveSnaplen (request : CaptureFetch) : Nat :=
  if request.snaplen = 0 then captureSnaplenMax else request.snaplen

theorem CaptureFetch.effectiveSnaplen_pos (request : CaptureFetch) :
    0 < request.effectiveSnaplen := by
  unfold CaptureFetch.effectiveSnaplen captureSnaplenMax
  split <;> omega

/-! ## Packets -/

inductive PacketValue where
  | bytes (octets : Bytes)
  | bytearray (octets : Bytes)
  | str (value : Str)
  | other (value : PyJson.Value)

/-- What the server puts into a batch: a `dict`, or something else. -/
inductive FetchedPacket where
  | record (fields : List (String × PacketValue))
  | other (value : PyJson.Value)

abbrev CapturedPacket := List (String × PacketValue)

/-- `value.encode("utf-8", errors="replace")`: a lone surrogate becomes a question mark. -/
def encodeReplacing (value : Str) : Bytes :=
  value.flatMap fun c => if Scalar c then encodePoint c else [63]

section
variable (b64decode : Str → Option Bytes)

/-- `packet_bytes_from_value`, over the strict base64 decoder. -/
def packetBytesFromValue : Option PacketValue → Bytes
  | some (.bytes octets) => octets
  | some (.bytearray octets) => octets
  | some (.str value) => (b64decode value).getD (encodeReplacing value)
  | some (.other _) => []
  | none => []

/-- `len(packet_bytes_from_value(packet.get("binary")))` -/
def packetSize (packet : CapturedPacket) : Nat :=
  (packetBytesFromValue b64decode (packet.lookup "binary")).length

/-! ## The loop -/

/-- A call of `client.fetch_capture_packets`. -/
structure FetchCall where
  captureId : Nat
  pktCount : Nat
  fetchLimit : Nat
  snaplen : Nat
  deriving DecidableEq

/-- A call and the batch that answered it. -/
structure FetchExchange where
  call : FetchCall
  batch : List FetchedPacket

/-- The server: a batch or an exception for each call, whatever it was asked before. -/
abbrev CaptureServer := List FetchExchange → FetchCall → Except String (List FetchedPacket)

inductive CaptureFetchError where
  | client (error : String)
  | exceededBatch
  | nonObject
  | exceededSnaplen
  | exceededBudget
  deriving DecidableEq, Repr

def CaptureFetchError.text : CaptureFetchError → String
  | .client error => error
  | .exceededBatch => "TRex capture fetch exceeded the requested packet batch"
  | .nonObject => "TRex capture fetch returned a non-object packet"
  | .exceededSnaplen => "TRex capture fetch exceeded the requested snaplen"
  | .exceededBudget => "TRex capture fetch exceeded the byte budget"

/-- The variables of the loop, and what was exchanged so far. -/
structure FetchState where
  packets : List CapturedPacket
  fetchedBytes : Nat
  exchanges : List FetchExchange

def FetchState.start : FetchState := ⟨[], 0, []⟩

def takeBatch (snaplen : Nat) :
    List FetchedPacket → FetchState → Except CaptureFetchError FetchState
  | [], state => .ok state
  | .other _ :: _, _ => .error .nonObject
  | .record packet :: rest, state =>
    let size := packetSize b64decode packet
    if snaplen < size then .error .exceededSnaplen
    else if captureFetchBytesMax < state.fetchedBytes + size then .error .exceededBudget
    else takeBatch snaplen rest
      { state with packets := state.packets ++ [packet], fetchedBytes := state.fetchedBytes + size }

/-- `remaining_bytes // effective_snaplen` -/
def packetCapacity (request : CaptureFetch) (state : FetchState) : Nat :=
  (captureFetchBytesMax - state.fetchedBytes) / request.effectiveSnaplen

def batchCount (request : CaptureFetch) (state : FetchState) : Nat :=
  min (min (request.targetPacketCount - state.packets.length) request.fetchLimit)
    (packetCapacity request state)

def nextCall (request : CaptureFetch) (state : FetchState) : FetchCall :=
  { captureId := request.captureId
    pktCount := batchCount request state
    fetchLimit := min request.fetchLimit (batchCount request state)
    snaplen := request.effectiveSnaplen }

def fetchBatch (server : CaptureServer) (request : CaptureFetch) (state : FetchState) :
    Except CaptureFetchError (List FetchedPacket × FetchState) :=
  match server state.exchanges (nextCall request state) with
  | .error e => .error (.client e)
  | .ok batch =>
    if batchCount request state < batch.length then .error .exceededBatch
    else (takeBatch b64decode request.effectiveSnaplen batch
      { state with exchanges := state.exchanges ++ [⟨nextCall request state, batch⟩] }).map
        (batch, ·)

/-- The `while` loop, with `byte_budget_exhausted`. `none` is a loop that has not ended after
that many rounds. -/
def fetchLoop (server : CaptureServer) (request : CaptureFetch) :
    Nat → FetchState → Option (Except CaptureFetchError (FetchState × Bool))
  | 0, _ => none
  | rounds + 1, state =>
    if state.packets.length < request.targetPacketCount then
      if packetCapacity request state = 0 then some (.ok (state, true))
      else match fetchBatch b64decode server request state with
        | .error e => some (.error e)
        | .ok (batch, next) =>
          if batch.length < batchCount request state then some (.ok (next, false))
          else fetchLoop server request rounds next
    else some (.ok (state, false))

/-- The `fetch_budget` of the answer. -/
structure FetchBudget where
  requestedPacketCount : Nat
  targetPacketCount : Nat
  maxPacketCount : Nat
  maxBytes : Nat
  fetchedBytes : Nat
  effectiveSnaplen : Nat
  truncatedByByteBudget : Bool
  availablePacketCount : Option Nat
  omittedPacketCount : Option Nat

/-- What the function returns, and the exchanges behind it. -/
structure FetchReport where
  packets : List CapturedPacket
  budget : FetchBudget
  exchanges : List FetchExchange

def fetchReport (request : CaptureFetch) (state : FetchState) (byteBudgetExhausted : Bool) :
    FetchReport :=
  { packets := state.packets
    budget :=
      { requestedPacketCount := request.pktCount
        targetPacketCount := request.targetPacketCount
        maxPacketCount := captureFetchCountMax
        maxBytes := captureFetchBytesMax
        fetchedBytes := state.fetchedBytes
        effectiveSnaplen := request.effectiveSnaplen
        truncatedByByteBudget := byteBudgetExhausted
        availablePacketCount := request.availablePacketCount
        omittedPacketCount := request.availablePacketCount.map (· - state.packets.length) }
    exchanges := state.exchanges }

/-- `_fetch_capture_packets_bounded`; `none` is a loop that has not ended after that many
rounds. -/
def fetchCapturePacketsBounded (server : CaptureServer) (request : CaptureFetch) (rounds : Nat) :
    Option (Except CaptureFetchError FetchReport) :=
  (fetchLoop b64decode server request rounds .start).map fun outcome =>
    outcome.map fun ended => fetchReport request ended.1 ended.2

/-! ## What a batch adds -/

/-- A batch that was taken over: its records, in order, each short enough and all of them
within the budget. -/
structure Taken (snaplen : Nat) (batch : List FetchedPacket) (before after : FetchState) :
    Prop where
  packets : ∃ records, batch = records.map .record ∧ after.packets = before.packets ++ records
  bytes : before.fetchedBytes = (before.packets.map (packetSize b64decode)).sum →
    after.fetchedBytes = (after.packets.map (packetSize b64decode)).sum
  budget : before.fetchedBytes ≤ captureFetchBytesMax → after.fetchedBytes ≤ captureFetchBytesMax
  sizes : (∀ packet ∈ before.packets, packetSize b64decode packet ≤ snaplen) →
    ∀ packet ∈ after.packets, packetSize b64decode packet ≤ snaplen
  exchanges : after.exchanges = before.exchanges

variable {b64decode}

theorem takeBatch_taken {snaplen : Nat} {batch : List FetchedPacket} {before after : FetchState}
    (h : takeBatch b64decode snaplen batch before = .ok after) :
    Taken b64decode snaplen batch before after := by
  induction batch generalizing before with
  | nil =>
      cases h
      exact ⟨⟨[], rfl, (List.append_nil _).symm⟩, id, id, id, rfl⟩
  | cons item rest ih =>
      cases item with
      | other value => cases h
      | record packet =>
          rw [takeBatch] at h
          split at h
          · cases h
          · rename_i hsnap
            split at h
            · cases h
            · rename_i hbudget
              have taken := ih h
              obtain ⟨records, hbatch, hpackets⟩ := taken.packets
              refine ⟨⟨packet :: records, by rw [hbatch]; rfl, ?_⟩, ?_, ?_, ?_, taken.exchanges⟩
              · rw [hpackets, List.append_assoc]
                rfl
              · intro hbytes
                apply taken.bytes
                rw [List.map_append, List.sum_append, hbytes]
                rfl
              · intro _
                exact taken.budget (Nat.le_of_not_lt hbudget)
              · intro hsizes
                apply taken.sizes
                intro p hp
                rcases List.mem_append.mp hp with hold | hnew
                · exact hsizes p hold
                · rw [List.mem_singleton.mp hnew]
                  exact Nat.le_of_not_lt hsnap

/-! ## The record of a run -/

/-- The server gave each batch of the record, in this order, to the call that stands with
it. -/
inductive Served (server : CaptureServer) : List FetchExchange → Prop
  | nil : Served server []
  | snoc {exchanges : List FetchExchange} {call : FetchCall} {batch : List FetchedPacket}
      (earlier : Served server exchanges) (answer : server exchanges call = .ok batch) :
      Served server (exchanges ++ [⟨call, batch⟩])

/-- What the loop has collected, after any number of rounds. -/
structure Collected (b64decode : Str → Option Bytes) (server : CaptureServer)
    (request : CaptureFetch) (state : FetchState) : Prop where
  served : Served server state.exchanges
  packets : state.packets.map .record = state.exchanges.flatMap (·.batch)
  bytes : state.fetchedBytes = (state.packets.map (packetSize b64decode)).sum
  budget : state.fetchedBytes ≤ captureFetchBytesMax
  sizes : ∀ packet ∈ state.packets, packetSize b64decode packet ≤ request.effectiveSnaplen
  count : state.packets.length ≤ request.targetPacketCount
  asked : ∀ exchange ∈ state.exchanges, exchange.batch.length ≤ exchange.call.pktCount

def FullBatches (exchanges : List FetchExchange) : Prop :=
  ∀ exchange ∈ exchanges, exchange.batch.length = exchange.call.pktCount

theorem collected_start (server : CaptureServer) (request : CaptureFetch) :
    Collected b64decode server request .start := by
  refine ⟨.nil, rfl, rfl, Nat.zero_le _, ?_, Nat.zero_le _, ?_⟩
  · intro packet hpacket
    cases hpacket
  · intro exchange hexchange
    cases hexchange

section
variable {server : CaptureServer} {request : CaptureFetch} {state next : FetchState}
  {batch : List FetchedPacket}

theorem batchCount_le_target (request : CaptureFetch) (state : FetchState) :
    batchCount request state ≤ request.targetPacketCount - state.packets.length :=
  (Nat.min_le_left _ _).trans (Nat.min_le_left _ _)

theorem batchCount_pos (hmore : state.packets.length < request.targetPacketCount)
    (hroom : packetCapacity request state ≠ 0) : 0 < batchCount request state := by
  have := request.fetchLimit_pos
  unfold batchCount
  omega

theorem packetCapacity_eq_zero : packetCapacity request state = 0 ↔
    captureFetchBytesMax - state.fetchedBytes < request.effectiveSnaplen := by
  rw [packetCapacity, Nat.div_eq_zero_iff]
  have := request.effectiveSnaplen_pos
  omega

/-- What a round does: the server's answer to the call, no longer than asked for, is taken
over. -/
theorem fetchBatch_cases (h : fetchBatch b64decode server request state = .ok (batch, next)) :
    server state.exchanges (nextCall request state) = .ok batch
      ∧ batch.length ≤ batchCount request state
      ∧ Taken b64decode request.effectiveSnaplen batch
          { state with exchanges := state.exchanges ++ [⟨nextCall request state, batch⟩] } next := by
  unfold fetchBatch at h
  cases hserver : server state.exchanges (nextCall request state) with
  | error e =>
      rw [hserver] at h
      cases h
  | ok answer =>
      rw [hserver] at h
      dsimp only at h
      split at h
      · cases h
      · rename_i hlength
        cases htake : takeBatch b64decode request.effectiveSnaplen answer
            { state with exchanges := state.exchanges ++ [⟨nextCall request state, answer⟩] } with
        | error e =>
            rw [htake] at h
            cases h
        | ok after =>
            rw [htake] at h
            cases h
            exact ⟨rfl, Nat.le_of_not_lt hlength, takeBatch_taken htake⟩

theorem fetchBatch_length (h : fetchBatch b64decode server request state = .ok (batch, next)) :
    next.packets.length = state.packets.length + batch.length := by
  obtain ⟨-, -, taken⟩ := fetchBatch_cases h
  obtain ⟨records, hbatch, hpackets⟩ := taken.packets
  rw [hpackets, hbatch, List.length_append, List.length_map]

theorem collected_fetchBatch (collected : Collected b64decode server request state)
    (h : fetchBatch b64decode server request state = .ok (batch, next))
    (hmore : state.packets.length < request.targetPacketCount) :
    Collected b64decode server request next := by
  obtain ⟨hserver, hlength, taken⟩ := fetchBatch_cases h
  have hcount := fetchBatch_length h
  have htarget := batchCount_le_target request state
  obtain ⟨records, hbatch, hpackets⟩ := taken.packets
  refine ⟨?_, ?_, taken.bytes collected.bytes, taken.budget collected.budget,
    taken.sizes collected.sizes, by omega, ?_⟩
  · rw [taken.exchanges]
    exact collected.served.snoc hserver
  · rw [taken.exchanges, hpackets, List.map_append, collected.packets, List.flatMap_append,
      ← hbatch]
    simp
  · rw [taken.exchanges]
    intro exchange hexchange
    rcases List.mem_append.mp hexchange with hold | hnew
    · exact collected.asked exchange hold
    · rw [List.mem_singleton.mp hnew]
      exact hlength

theorem fullBatches_fetchBatch (h : fetchBatch b64decode server request state = .ok (batch, next)) :
    FullBatches next.exchanges ↔
      FullBatches state.exchanges ∧ batch.length = batchCount request state := by
  obtain ⟨-, -, taken⟩ := fetchBatch_cases h
  rw [taken.exchanges]
  constructor
  · intro hfull
    exact ⟨fun e he => hfull e (List.mem_append_left _ he),
      hfull ⟨nextCall request state, batch⟩ (List.mem_append_right _ (List.mem_singleton_self _))⟩
  · rintro ⟨hfull, hlast⟩ exchange hexchange
    rcases List.mem_append.mp hexchange with hold | hnew
    · exact hfull exchange hold
    · rw [List.mem_singleton.mp hnew]
      exact hlast

/-! ## Runs -/

theorem fetchLoop_ends (server : CaptureServer) (request : CaptureFetch) (state : FetchState) :
    ∃ outcome, ∀ rounds, request.targetPacketCount - state.packets.length < rounds →
      fetchLoop b64decode server request rounds state = some outcome := by
  induction hleft : request.targetPacketCount - state.packets.length using Nat.strong_induction_on
    generalizing state with
  | _ left ih =>
      by_cases hmore : state.packets.length < request.targetPacketCount
      · by_cases hroom : packetCapacity request state = 0
        · refine ⟨.ok (state, true), ?_⟩
          intro rounds hrounds
          obtain ⟨rest, rfl⟩ := Nat.exists_eq_succ_of_ne_zero (by omega : rounds ≠ 0)
          rw [fetchLoop, if_pos hmore, if_pos hroom]
        · cases hbatch : fetchBatch b64decode server request state with
          | error e =>
              refine ⟨.error e, ?_⟩
              intro rounds hrounds
              obtain ⟨rest, rfl⟩ := Nat.exists_eq_succ_of_ne_zero (by omega : rounds ≠ 0)
              rw [fetchLoop, if_pos hmore, if_neg hroom, hbatch]
          | ok answer =>
              obtain ⟨batch, next⟩ := answer
              by_cases hshort : batch.length < batchCount request state
              · refine ⟨.ok (next, false), ?_⟩
                intro rounds hrounds
                obtain ⟨rest, rfl⟩ := Nat.exists_eq_succ_of_ne_zero (by omega : rounds ≠ 0)
                rw [fetchLoop, if_pos hmore, if_neg hroom, hbatch]
                exact if_pos hshort
              · have hpos := batchCount_pos hmore hroom
                have hcount := fetchBatch_length hbatch
                obtain ⟨outcome, hends⟩ := ih _ (by omega) next rfl
                refine ⟨outcome, ?_⟩
                intro rounds hrounds
                obtain ⟨rest, rfl⟩ := Nat.exists_eq_succ_of_ne_zero (by omega : rounds ≠ 0)
                rw [fetchLoop, if_pos hmore, if_neg hroom, hbatch]
                exact (if_neg hshort).trans (hends rest (by omega))
      · refine ⟨.ok (state, false), ?_⟩
        intro rounds hrounds
        obtain ⟨rest, rfl⟩ := Nat.exists_eq_succ_of_ne_zero (by omega : rounds ≠ 0)
        rw [fetchLoop, if_neg hmore]

/-- Why the loop ended: it had all batches in full and no room for one more packet, or not. -/
def StoppedForBudget (request : CaptureFetch) (state : FetchState) : Prop :=
  state.packets.length < request.targetPacketCount ∧ FullBatches state.exchanges
    ∧ captureFetchBytesMax - state.fetchedBytes < request.effectiveSnaplen

theorem fetchLoop_collected {rounds : Nat} {last : FetchState} {exhausted : Bool}
    (collected : Collected b64decode server request state) (full : FullBatches state.exchanges)
    (h : fetchLoop b64decode server request rounds state = some (.ok (last, exhausted))) :
    Collected b64decode server request last
      ∧ (exhausted = true ↔ StoppedForBudget request last) := by
  induction rounds generalizing state with
  | zero => cases h
  | succ rounds ih =>
      rw [fetchLoop] at h
      split at h
      · rename_i hmore
        split at h
        · rename_i hroom
          cases h
          exact ⟨collected, fun _ => ⟨hmore, full, packetCapacity_eq_zero.mp hroom⟩, fun _ => rfl⟩
        · cases hbatch : fetchBatch b64decode server request state with
          | error e =>
              rw [hbatch] at h
              cases h
          | ok answer =>
              obtain ⟨batch, next⟩ := answer
              rw [hbatch] at h
              have hnext := collected_fetchBatch collected hbatch hmore
              have hfull := fullBatches_fetchBatch hbatch
              dsimp only at h
              split at h
              · rename_i hshort
                cases h
                refine ⟨hnext, ?_⟩
                constructor
                · intro hflag
                  cases hflag
                · rintro ⟨-, hall, -⟩
                  exact absurd (hfull.mp hall).2 (Nat.ne_of_lt hshort)
              · rename_i hlong
                have hlength := (fetchBatch_cases hbatch).2.1
                exact ih hnext (hfull.mpr ⟨full, by omega⟩) h
      · rename_i hdone
        cases h
        refine ⟨collected, ?_⟩
        constructor
        · intro hflag
          cases hflag
        · rintro ⟨hmore, -⟩
          exact absurd hmore hdone

end

end

end TrexWebui
