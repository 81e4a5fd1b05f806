import TrexWebui.PyFloat
import TrexWebui.RuntimeStateEncoding

/-!
# The document of the guided validation

The records of `quick_validation.py`, with what its pydantic validators
accept and the JSON document that `QuickValidationStateStore._write_unlocked`
writes. As for the runtime state, timestamps are microseconds, UUIDs and
digests are their values, a dictionary of ports whose values are one literal
is the set of its keys, and literal constant fields (`version`,
`live_state_sampled`, `wal_cleared`) appear in the encoding only.
-/

namespace TrexWebui

open PyText

def QUICK_VALIDATION_STATE_MAX_BYTES : Nat := 512 * 1024
def QUICK_VALIDATION_SAMPLE_LIMIT : Nat := 128
def TRAFFIC_HARD_STOP_MAX_WINDOW_SECONDS : Nat := 300

/-- `timedelta(seconds=seconds)`. -/
def seconds (count : Nat) : Time := count * 1000000

/-! ## Phases -/

/-- `QuickValidationPendingTerminal` and `QuickValidationTerminalPhase`. -/
inductive QuickValidationTerminal where
  | pass | fail | cancelled
  deriving DecidableEq, Repr

inductive QuickValidationPhase where
  | preflight | running | stopping
  | ended (terminal : QuickValidationTerminal)
  deriving DecidableEq, Repr

/-- `phase in _TERMINAL_PHASES`. -/
def QuickValidationPhase.terminal : QuickValidationPhase → Bool
  | .ended _ => true
  | _ => false

inductive QuickValidationCleanupMode where
  | notStarted | operatorStop | hardStop
  deriving DecidableEq, Repr

def QuickValidationTerminal.text : QuickValidationTerminal → String
  | .pass => "pass"
  | .fail => "fail"
  | .cancelled => "cancelled"

def QuickValidationPhase.text : QuickValidationPhase → String
  | .preflight => "preflight"
  | .running => "running"
  | .stopping => "stopping"
  | .ended terminal => terminal.text

def QuickValidationCleanupMode.text : QuickValidationCleanupMode → String
  | .notStarted => "not_started"
  | .operatorStop => "operator_stop"
  | .hardStop => "hard_stop"

/-! ## Counters and samples -/

structure QuickValidationPortCounters where
  txPackets : Float
  rxPackets : Float

/-- `Field(ge=0)`. -/
def QuickValidationPortCounters.Valid (c : QuickValidationPortCounters) : Prop :=
  0.0 ≤ c.txPackets ∧ 0.0 ≤ c.rxPackets

instance : DecidablePred QuickValidationPortCounters.Valid :=
  fun c => inferInstanceAs (Decidable (0.0 ≤ c.txPackets ∧ 0.0 ≤ c.rxPackets))

structure QuickValidationPortSample where
  port : Port
  absoluteTxPackets : Float
  absoluteRxPackets : Float
  txPackets : Float
  rxPackets : Float
  lossPackets : Float
  lossRatio : Float

@[mk_iff] structure QuickValidationPortSample.Valid (s : QuickValidationPortSample) : Prop where
  absolute : 0.0 ≤ s.absoluteTxPackets ∧ 0.0 ≤ s.absoluteRxPackets
  delta : 0.0 ≤ s.txPackets ∧ 0.0 ≤ s.rxPackets
  loss : 0.0 ≤ s.lossPackets ∧ 0.0 ≤ s.lossRatio ∧ s.lossRatio ≤ 1.0

instance : DecidablePred QuickValidationPortSample.Valid :=
  fun s => decidable_of_iff _ (QuickValidationPortSample.valid_iff s).symm

structure QuickValidationSample where
  sampledAt : Time
  ports : List QuickValidationPortSample
  totalTxPackets : Float
  totalRxPackets : Float
  totalLossPackets : Float
  totalLossRatio : Float

namespace QuickValidationSample

/-- `loss / tx if tx > 0 else 0.0`. -/
def ratio (loss tx : Float) : Float := if 0.0 < tx then loss / tx else 0.0

/-- `sample_totals_must_match_ports`, with the field validators. -/
@[mk_iff] structure Valid (s : QuickValidationSample) : Prop where
  ports_nonempty : s.ports ≠ []
  ports_valid : ∀ p ∈ s.ports, p.Valid
  totals : 0.0 ≤ s.totalTxPackets ∧ 0.0 ≤ s.totalRxPackets ∧ 0.0 ≤ s.totalLossPackets
    ∧ 0.0 ≤ s.totalLossRatio ∧ s.totalLossRatio ≤ 1.0
  ports_unique : (s.ports.map (·.port)).Nodup
  tx_total : PyFloat.isclose s.totalTxPackets (PyFloat.sum (s.ports.map (·.txPackets))) = true
  rx_total : PyFloat.isclose s.totalRxPackets (PyFloat.sum (s.ports.map (·.rxPackets))) = true
  loss_total : PyFloat.isclose s.totalLossPackets (PyFloat.max0
    (PyFloat.sum (s.ports.map (·.txPackets)) - PyFloat.sum (s.ports.map (·.rxPackets)))) = true
  loss_ratio : PyFloat.isclose s.totalLossRatio (ratio
    (PyFloat.max0 (PyFloat.sum (s.ports.map (·.txPackets))
      - PyFloat.sum (s.ports.map (·.rxPackets))))
    (PyFloat.sum (s.ports.map (·.txPackets)))) = true

instance : DecidablePred Valid := fun s => decidable_of_iff _ (valid_iff s).symm

end QuickValidationSample

/-! ## What a run keeps of its start -/

structure QuickValidationConfigSnapshot where
  path : String
  portLimit : Nat
  interfaces : List String
  deriving DecidableEq

@[mk_iff] structure QuickValidationConfigSnapshot.Valid (c : QuickValidationConfigSnapshot) :
    Prop where
  path_length : 1 ≤ c.path.length ∧ c.path.length ≤ 4096
  limit_range : 1 ≤ c.portLimit ∧ c.portLimit ≤ 256
  interfaces_length : 1 ≤ c.interfaces.length ∧ c.interfaces.length ≤ 256
  interfaces_cover : c.portLimit ≤ c.interfaces.length

instance : DecidablePred QuickValidationConfigSnapshot.Valid :=
  fun c => decidable_of_iff _ (QuickValidationConfigSnapshot.valid_iff c).symm

structure QuickValidationPlanGroupSnapshot where
  groupId : String
  planRevision : Nat
  name : String
  ports : List Port
  profilePath : String
  profileSha256 : Option Sha256 := none
  multiplier : String
  planDuration : Float
  force : Bool
  total : Bool
  synchronized : Bool
  clearExisting : Bool
  tunables : Dict String JsonText

@[mk_iff] structure QuickValidationPlanGroupSnapshot.Valid
    (g : QuickValidationPlanGroupSnapshot) : Prop where
  id_length : 1 ≤ g.groupId.length ∧ g.groupId.length ≤ 64
  name_length : 1 ≤ g.name.length ∧ g.name.length ≤ 128
  ports_length : 1 ≤ g.ports.length ∧ g.ports.length ≤ 256
  ports_unique : g.ports.Nodup
  path_length : 1 ≤ g.profilePath.length ∧ g.profilePath.length ≤ 4096
  multiplier_length : 1 ≤ g.multiplier.length ∧ g.multiplier.length ≤ 64

instance : DecidablePred QuickValidationPlanGroupSnapshot.Valid :=
  fun g => decidable_of_iff _ (QuickValidationPlanGroupSnapshot.valid_iff g).symm

structure QuickValidationPreflightEvidence where
  observedAt : Time
  runtimeReconciliation : String
  linkStates : Finset Port
  portStatuses : Finset Port
  initialPortStates : Finset Port
  initialPortOwnership : Finset Port
  baselineCounters : Dict Port QuickValidationPortCounters

def QuickValidationPreflightEvidence.Valid (p : QuickValidationPreflightEvidence) : Prop :=
  ∀ port ∈ p.baselineCounters.keys, ∀ c, p.baselineCounters.lookup port = some c → c.Valid

instance : DecidablePred QuickValidationPreflightEvidence.Valid :=
  fun p => inferInstanceAs (Decidable (∀ _ ∈ p.baselineCounters.keys, _))

/-- `acquisition_restored` is `True` or `None`. -/
structure QuickValidationCleanupEvidence where
  mode : QuickValidationCleanupMode
  completedAt : Time
  trafficSessionRevision : Option Nat := none
  finalPorts : Finset Port
  intentNonce : Option Uuid := none
  acquisitionRestored : Bool := false
  deriving DecidableEq

/-- `command_fields_must_match_mode`. -/
@[mk_iff] structure QuickValidationCleanupEvidence.Valid (c : QuickValidationCleanupEvidence) :
    Prop where
  revision_positive : ∀ r, c.trafficSessionRevision = some r → 1 ≤ r
  notStarted_claims_nothing : c.mode = .notStarted →
    c.trafficSessionRevision = none ∧ c.intentNonce = none ∧ c.acquisitionRestored = false
  commanded_exact : c.mode ≠ .notStarted → c.acquisitionRestored = true ∧ c.intentNonce ≠ none

instance : DecidablePred QuickValidationCleanupEvidence.Valid :=
  fun c => decidable_of_iff _ (QuickValidationCleanupEvidence.valid_iff c).symm

/-! ## The run -/

structure QuickValidationRunState where
  id : Uuid
  revision : Nat
  processInstanceId : Uuid
  phase : QuickValidationPhase
  group : QuickValidationPlanGroupSnapshot
  config : QuickValidationConfigSnapshot
  durationSeconds : Nat
  createdAt : Time
  startedAt : Option Time := none
  deadlineAt : Time
  watchdogAt : Time
  endedAt : Option Time := none
  trafficSessionId : Option Uuid := none
  trafficSessionRevision : Option Nat := none
  trafficRunId : Option Uuid := none
  preflight : QuickValidationPreflightEvidence
  samples : List QuickValidationSample := []
  pendingTerminal : Option QuickValidationTerminal := none
  recoveryRequired : Bool := false
  failureCode : Option String := none
  failureDetail : Option String := none
  cleanup : Option QuickValidationCleanupEvidence := none
  idleVerified : Bool := false

namespace QuickValidationRunState

def passStillPossible (r : QuickValidationRunState) : Bool :=
  r.phase = .running || r.phase = .ended .pass
    || r.phase = .stopping && r.pendingTerminal = some .pass

def Unfinished (r : QuickValidationRunState) : Prop :=
  r.endedAt = none ∧ r.cleanup = none ∧ r.idleVerified = false

instance : DecidablePred Unfinished := fun _ => inferInstanceAs (Decidable (_ ∧ _ ∧ _))

/-- `phase_evidence_must_be_consistent`, with the field validators. -/
@[mk_iff] structure Valid (r : QuickValidationRunState) : Prop where
  revision_positive : 1 ≤ r.revision
  group_valid : r.group.Valid
  config_valid : r.config.Valid
  preflight_valid : r.preflight.Valid
  samples_valid : ∀ s ∈ r.samples, s.Valid
  cleanup_valid : ∀ c, r.cleanup = some c → c.Valid
  duration_range : 1 ≤ r.durationSeconds ∧ r.durationSeconds ≤ 60
  session_revision_positive : ∀ n, r.trafficSessionRevision = some n → 1 ≤ n
  samples_length : r.samples.length ≤ QUICK_VALIDATION_SAMPLE_LIMIT
  code_length : ∀ t, r.failureCode = some t → t.length ≤ 128
  detail_length : ∀ t, r.failureDetail = some t → t.length ≤ 1024
  deadline_exact : r.deadlineAt = r.startedAt.getD r.createdAt + seconds r.durationSeconds
  watchdog_follows : r.passStillPossible = true → r.deadlineAt < r.watchdogAt
  watchdog_within : r.watchdogAt ≤ r.createdAt + seconds TRAFFIC_HARD_STOP_MAX_WINDOW_SECONDS
  initial_states : r.preflight.initialPortStates = r.group.ports.toFinset
  links : r.preflight.linkStates = r.group.ports.toFinset
  statuses : r.preflight.portStatuses = r.group.ports.toFinset
  ownership : r.preflight.initialPortOwnership = r.group.ports.toFinset
  baseline : r.preflight.baselineCounters.keys = r.group.ports.toFinset
  samples_match : ∀ s ∈ r.samples, (s.ports.map (·.port)).toFinset = r.group.ports.toFinset
  session_revision : r.trafficSessionId.isSome = r.trafficSessionRevision.isSome
  session_run : r.trafficSessionId.isSome = r.trafficRunId.isSome
  session_profile : r.trafficSessionId.isSome = r.group.profileSha256.isSome
  running_exact : r.phase = .running → r.trafficSessionId ≠ none ∧ r.startedAt ≠ none
    ∧ r.pendingTerminal = none ∧ r.Unfinished
  preflight_exact : r.phase = .preflight → r.trafficSessionId = none ∧ r.startedAt = none
    ∧ r.pendingTerminal = none ∧ r.Unfinished
  stopping_exact : r.phase = .stopping → r.pendingTerminal ≠ none ∧ r.Unfinished
  terminal_exact : r.phase.terminal = true → r.pendingTerminal = none ∧ r.endedAt ≠ none
    ∧ r.cleanup ≠ none ∧ r.idleVerified = true ∧ r.recoveryRequired = false
  pass_commanded : r.phase = .ended .pass → r.trafficSessionId ≠ none
    ∧ ∀ c, r.cleanup = some c → c.mode ≠ .notStarted
  terminal_ports : r.phase.terminal = true →
    ∀ c, r.cleanup = some c → c.finalPorts = r.group.ports.toFinset

set_option synthInstance.maxSize 512 in
instance : DecidablePred Valid := fun r => decidable_of_iff _ (valid_iff r).symm

end QuickValidationRunState

structure QuickValidationStateDocument where
  revision : Nat := 0
  updatedAt : Time
  run : Option QuickValidationRunState := none

def QuickValidationStateDocument.Valid (d : QuickValidationStateDocument) : Prop :=
  ∀ r, d.run = some r → r.Valid

instance : DecidablePred QuickValidationStateDocument.Valid :=
  fun d => inferInstanceAs (Decidable (∀ r, d.run = some r → r.Valid))

/-! ## The file -/

def floatJson (x : Float) : Json := .raw (PyFloat.jsonText x)

def constantStatesJson (state : String) (ports : Finset Port) : Json :=
  .obj ((sortedMembers ports).map fun p => (toString p, .str state))

def QuickValidationPortCounters.json (c : QuickValidationPortCounters) : Json := .obj [
  ("rx_packets", floatJson c.rxPackets),
  ("tx_packets", floatJson c.txPackets)]

def QuickValidationPortSample.json (s : QuickValidationPortSample) : Json := .obj [
  ("absolute_rx_packets", floatJson s.absoluteRxPackets),
  ("absolute_tx_packets", floatJson s.absoluteTxPackets),
  ("loss_packets", floatJson s.lossPackets),
  ("loss_ratio", floatJson s.lossRatio),
  ("port", natJson s.port),
  ("rx_packets", floatJson s.rxPackets),
  ("tx_packets", floatJson s.txPackets)]

def QuickValidationSample.json (s : QuickValidationSample) : Json := .obj [
  ("ports", .arr (s.ports.map (·.json))),
  ("sampled_at", timeJson s.sampledAt),
  ("total_loss_packets", floatJson s.totalLossPackets),
  ("total_loss_ratio", floatJson s.totalLossRatio),
  ("total_rx_packets", floatJson s.totalRxPackets),
  ("total_tx_packets", floatJson s.totalTxPackets)]

def QuickValidationConfigSnapshot.json (c : QuickValidationConfigSnapshot) : Json := .obj [
  ("interfaces", .arr (c.interfaces.map .str)),
  ("path", .str c.path),
  ("port_limit", natJson c.portLimit)]

def QuickValidationPlanGroupSnapshot.json (g : QuickValidationPlanGroupSnapshot) : Json := .obj [
  ("clear_existing", .bool g.clearExisting),
  ("force", .bool g.force),
  ("group_id", .str g.groupId),
  ("multiplier", .str g.multiplier),
  ("name", .str g.name),
  ("plan_duration", floatJson g.planDuration),
  ("plan_revision", natJson g.planRevision),
  ("ports", natListJson g.ports),
  ("profile_path", .str g.profilePath),
  ("profile_sha256", optionalJson sha256Json g.profileSha256),
  ("synchronized", .bool g.synchronized),
  ("total", .bool g.total),
  ("tunables", tunablesJson g.tunables)]

def QuickValidationPreflightEvidence.json (p : QuickValidationPreflightEvidence) : Json := .obj [
  ("baseline_counters", portDictJson (·.json) p.baselineCounters),
  ("initial_port_ownership", constantStatesJson "none" p.initialPortOwnership),
  ("initial_port_states", constantStatesJson "stopped" p.initialPortStates),
  ("link_states", constantStatesJson "up" p.linkStates),
  ("live_state_sampled", .bool true),
  ("observed_at", timeJson p.observedAt),
  ("port_statuses", constantStatesJson "idle" p.portStatuses),
  ("runtime_reconciliation", .str p.runtimeReconciliation)]

def QuickValidationCleanupEvidence.json (c : QuickValidationCleanupEvidence) : Json := .obj [
  ("acquisition_restored", if c.acquisitionRestored then .bool true else .null),
  ("completed_at", timeJson c.completedAt),
  ("final_port_states", constantStatesJson "stopped" c.finalPorts),
  ("intent_nonce", optionalJson uuidJson c.intentNonce),
  ("mode", .str c.mode.text),
  ("traffic_session_revision", optionalJson natJson c.trafficSessionRevision),
  ("wal_cleared", .bool true)]

def QuickValidationRunState.json (r : QuickValidationRunState) : Json := .obj [
  ("cleanup", optionalJson (·.json) r.cleanup),
  ("config", r.config.json),
  ("created_at", timeJson r.createdAt),
  ("deadline_at", timeJson r.deadlineAt),
  ("duration_seconds", natJson r.durationSeconds),
  ("ended_at", optionalJson timeJson r.endedAt),
  ("failure_code", optionalJson .str r.failureCode),
  ("failure_detail", optionalJson .str r.failureDetail),
  ("group", r.group.json),
  ("id", uuidJson r.id),
  ("idle_verified", .bool r.idleVerified),
  ("pending_terminal", optionalJson (fun t => .str t.text) r.pendingTerminal),
  ("phase", .str r.phase.text),
  ("preflight", r.preflight.json),
  ("process_instance_id", uuidJson r.processInstanceId),
  ("recovery_required", .bool r.recoveryRequired),
  ("revision", natJson r.revision),
  ("samples", .arr (r.samples.map (·.json))),
  ("started_at", optionalJson timeJson r.startedAt),
  ("traffic_run_id", optionalJson uuidJson r.trafficRunId),
  ("traffic_session_id", optionalJson uuidJson r.trafficSessionId),
  ("traffic_session_revision", optionalJson natJson r.trafficSessionRevision),
  ("watchdog_at", timeJson r.watchdogAt)]

def QuickValidationStateDocument.json (d : QuickValidationStateDocument) : Json := .obj [
  ("revision", natJson d.revision),
  ("run", optionalJson (·.json) d.run),
  ("updated_at", timeJson d.updatedAt),
  ("version", natJson 1)]

def QuickValidationStateDocument.encoded (d : QuickValidationStateDocument) : String :=
  d.json.text ++ "\n"

/-- `len(encoded)`. -/
def QuickValidationStateDocument.encodedSize (d : QuickValidationStateDocument) : Nat :=
  d.json.size + 1

def QuickValidationStateDocument.Fits (d : QuickValidationStateDocument) : Prop :=
  d.encodedSize ≤ QUICK_VALIDATION_STATE_MAX_BYTES

instance : DecidablePred QuickValidationStateDocument.Fits :=
  fun d => inferInstanceAs (Decidable (d.encodedSize ≤ QUICK_VALIDATION_STATE_MAX_BYTES))

end TrexWebui
