import Mathlib.Tactic.MkIffOfInductiveProp
import TrexWebui.PyDict
import TrexWebui.PyText

/-!
# The durable runtime state

The records of `runtime_state.py`, with what its pydantic validators
accept. A leaf record that no operation edits in place (an authority, the
evidence of a mutation, the evidence of a cleanup) carries its validator
as fields, so an invalid one cannot be built. The session groups, the
session, the pending mutation intent and the document are edited in place
by the operations and validated again by the store, so for those the
validator is a separate decidable predicate `Valid`.

Timestamps are microseconds since the epoch: every timestamp the program
writes is the canonical UTC text of one. UUIDs are their 128-bit values
(their canonical text always has 36 characters), SHA-256 digests likewise.
Ports are natural numbers. Literal constant fields (`version`, the
`acquisition_restored` and `wal_cleared` of mutation evidence) are left
out of the records and appear in the encoding only.
-/

namespace TrexWebui

abbrev Port := Nat

abbrev Time := Nat

/-- The JSON text of a free-form value (`Any`). -/
abbrev JsonText := String

structure Uuid where
  value : Nat
  deriving DecidableEq, Repr

def Uuid.text (u : Uuid) : String := PyText.uuidText u.value

instance : ToString Uuid := ⟨Uuid.text⟩

structure Sha256 where
  value : Nat
  deriving DecidableEq, Repr

/-- A finite decimal, `coefficient * 10 ^ (-scale)`: the value of a JSON number
that the program keeps as a `float`. -/
structure Decimal where
  coefficient : Int
  scale : Nat
  deriving DecidableEq, Repr

namespace Decimal

/-- `value > 0`. -/
def positive (d : Decimal) : Bool := decide (0 < d.coefficient)

/-- `value >= -1`. -/
def atLeastMinusOne (d : Decimal) : Bool := decide (-(10 : Int) ^ d.scale ≤ d.coefficient)

/-- `-1.0`. -/
def minusOne : Decimal := ⟨-10, 1⟩

end Decimal

/-! ## Enumerations -/

inductive PortState where
  | running | paused | stopped | unknown
  deriving DecidableEq, Repr

inductive GroupState where
  | running | paused | stopped | mixed | unknown
  deriving DecidableEq, Repr

inductive TrafficOperation where
  | start | stop | pause | resume | update
  deriving DecidableEq, Repr

inductive TrafficCompletionMode where
  | direct | recovered | replayed | hardStop
  deriving DecidableEq, Repr

inductive CleanupCompletion where
  | operatorStop | hardStop | observed
  deriving DecidableEq, Repr

inductive TrafficStartSource where
  | plan | adHoc
  deriving DecidableEq, Repr

inductive IntentPhase where
  | prepared | cleanupRequired
  deriving DecidableEq, Repr

inductive HardwareStage where
  | prepared | acquireIntent | acquired | streamsRemoveIntent | streamsRemoved
  | profileAddIntent | profileAdded | startIntent | startReturned
  deriving DecidableEq, Repr

/-- `_START_STAGE_ORDER`. -/
def HardwareStage.order : HardwareStage → Nat
  | .prepared => 0
  | .acquireIntent => 1
  | .acquired => 2
  | .streamsRemoveIntent => 3
  | .streamsRemoved => 4
  | .profileAddIntent => 5
  | .profileAdded => 6
  | .startIntent => 7
  | .startReturned => 8

inductive DaemonSupervisor where
  | external | systemd
  deriving DecidableEq, Repr

/-- `evidence_version: Literal[1]`. -/
inductive EvidenceVersion where
  | one
  deriving DecidableEq, Repr

inductive CaptureRecoveryPhase where
  | active | preparing | pendingStart | cleanupRequired
  deriving DecidableEq, Repr

inductive CapturePreparationStage where
  | wal | acquireIntent | acquired | serviceIntent | serviceEnabled
  | restoreIntent | serviceRestored | releaseIntent | portsReleased
  deriving DecidableEq, Repr

/-! ## Literal texts -/

def PortState.text : PortState → String
  | .running => "running"
  | .paused => "paused"
  | .stopped => "stopped"
  | .unknown => "unknown"

def GroupState.text : GroupState → String
  | .running => "running"
  | .paused => "paused"
  | .stopped => "stopped"
  | .mixed => "mixed"
  | .unknown => "unknown"

def TrafficOperation.text : TrafficOperation → String
  | .start => "start"
  | .stop => "stop"
  | .pause => "pause"
  | .resume => "resume"
  | .update => "update"

def TrafficCompletionMode.text : TrafficCompletionMode → String
  | .direct => "direct"
  | .recovered => "recovered"
  | .replayed => "replayed"
  | .hardStop => "hard_stop"

def CleanupCompletion.text : CleanupCompletion → String
  | .operatorStop => "operator_stop"
  | .hardStop => "hard_stop"
  | .observed => "observed"

def TrafficStartSource.text : TrafficStartSource → String
  | .plan => "plan"
  | .adHoc => "ad_hoc"

def IntentPhase.text : IntentPhase → String
  | .prepared => "prepared"
  | .cleanupRequired => "cleanup_required"

def HardwareStage.text : HardwareStage → String
  | .prepared => "prepared"
  | .acquireIntent => "acquire_intent"
  | .acquired => "acquired"
  | .streamsRemoveIntent => "streams_remove_intent"
  | .streamsRemoved => "streams_removed"
  | .profileAddIntent => "profile_add_intent"
  | .profileAdded => "profile_added"
  | .startIntent => "start_intent"
  | .startReturned => "start_returned"

def DaemonSupervisor.text : DaemonSupervisor → String
  | .external => "external"
  | .systemd => "systemd"

def CaptureRecoveryPhase.text : CaptureRecoveryPhase → String
  | .active => "active"
  | .preparing => "preparing"
  | .pendingStart => "pending_start"
  | .cleanupRequired => "cleanup_required"

def CapturePreparationStage.text : CapturePreparationStage → String
  | .wal => "wal"
  | .acquireIntent => "acquire_intent"
  | .acquired => "acquired"
  | .serviceIntent => "service_intent"
  | .serviceEnabled => "service_enabled"
  | .restoreIntent => "restore_intent"
  | .serviceRestored => "service_restored"
  | .releaseIntent => "release_intent"
  | .portsReleased => "ports_released"

/-! ## Aggregate states -/

def PortState.toGroupState : PortState → GroupState
  | .running => .running
  | .paused => .paused
  | .stopped => .stopped
  | .unknown => .unknown

/-- The aggregate of a set of states: the common state of a singleton. -/
def aggregateStates (states : Finset GroupState) : GroupState :=
  if states = ∅ then .stopped
  else if .unknown ∈ states then .unknown
  else if states = {.running} then .running
  else if states = {.paused} then .paused
  else if states = {.stopped} then .stopped
  else .mixed

def aggregatePortStates (portStates : Dict Port PortState) : GroupState :=
  aggregateStates (portStates.values.image PortState.toGroupState)

theorem aggregateStates_stopped_iff {states : Finset GroupState} :
    aggregateStates states = .stopped ↔ ∀ s ∈ states, s = .stopped := by
  unfold aggregateStates
  split_ifs with hempty hunknown hrunning hpaused hstopped
  · simp [hempty]
  · exact iff_of_false (by decide) fun h => absurd (h _ hunknown) (by decide)
  · exact iff_of_false (by decide) fun h =>
      absurd (h .running (by rw [hrunning]; exact Finset.mem_singleton_self _)) (by decide)
  · exact iff_of_false (by decide) fun h =>
      absurd (h .paused (by rw [hpaused]; exact Finset.mem_singleton_self _)) (by decide)
  · exact iff_of_true rfl fun s hs => Finset.mem_singleton.mp (hstopped ▸ hs)
  · refine iff_of_false (by decide) fun h => ?_
    obtain ⟨s, hs⟩ := Finset.nonempty_iff_ne_empty.mpr hempty
    exact hstopped (Finset.eq_singleton_iff_unique_mem.mpr ⟨h s hs ▸ hs, h⟩)

theorem aggregatePortStates_stopped_iff {portStates : Dict Port PortState} :
    aggregatePortStates portStates = .stopped ↔ ∀ s ∈ portStates.values, s = .stopped := by
  rw [aggregatePortStates, aggregateStates_stopped_iff, Finset.forall_mem_image]
  refine forall₂_congr fun s _ => ?_
  cases s <;> decide

/-! ## Connection and authority -/

/-- `value != value.strip() or "\x00" in value` is false; whitespace inside is
accepted. -/
def cleanText (text : String) : Bool :=
  text.toList.all (· ≠ Char.ofNat 0)
    && !(text.toList.head?.any Char.isWhitespace)
    && !(text.toList.getLast?.any Char.isWhitespace)

structure RuntimeConnectionState where
  host : String
  syncPort : Nat
  asyncPort : Nat
  scapyPort : Nat
  clientName : String
  connectTimeoutSeconds : Nat
  updatedAt : Time
  host_length : 1 ≤ host.length ∧ host.length ≤ 253
  sync_range : 1 ≤ syncPort ∧ syncPort ≤ 65535
  async_range : 1 ≤ asyncPort ∧ asyncPort ≤ 65535
  scapy_range : 1 ≤ scapyPort ∧ scapyPort ≤ 65535
  clientName_length : 1 ≤ clientName.length ∧ clientName.length ≤ 64
  timeout_range : 1 ≤ connectTimeoutSeconds ∧ connectTimeoutSeconds ≤ 300
  deriving DecidableEq

/-- The exact TRex target and daemon generation. The generation text is the
UUID under `systemd` and `process:` followed by the UUID otherwise. -/
structure RuntimeAuthorityIdentity where
  host : String
  syncPort : Nat
  asyncPort : Nat
  scapyPort : Nat
  daemonSupervisor : DaemonSupervisor
  generation : Uuid
  host_clean : cleanText host = true
  host_length : 1 ≤ host.length ∧ host.length ≤ 253
  sync_range : 1 ≤ syncPort ∧ syncPort ≤ 65535
  async_range : 1 ≤ asyncPort ∧ asyncPort ≤ 65535
  scapy_range : 1 ≤ scapyPort ∧ scapyPort ≤ 65535
  deriving DecidableEq

/-! ## Capture leases

The traffic authority reads the authority of a lease and stores the rest
unchanged. -/

/-- `capture_id: int | str`; a text identifier is `pending-start:` and a UUID. -/
inductive CaptureId where
  | recorder (id : Nat)
  | pendingStart (id : Uuid)
  deriving DecidableEq, Repr

def CaptureId.isRecorder : CaptureId → Bool
  | .recorder _ => true
  | .pendingStart _ => false

structure CaptureRecorderIdentityState where
  captureId : Nat
  txPorts : List Port
  rxPorts : List Port
  bpfFilter : String
  tx_unique : txPorts.Nodup
  rx_unique : rxPorts.Nodup
  filter_length : bpfFilter.length ≤ 1024
  deriving DecidableEq

structure CaptureLeaseState where
  captureId : CaptureId
  recoveryPhase : CaptureRecoveryPhase
  preparationStage : Option CapturePreparationStage
  baselineCaptureIds : List Nat
  baselineRecorders : List CaptureRecorderIdentityState
  preAcquiredPorts : List Port
  acquirePlannedPorts : List Port
  serviceEnablePlannedPorts : List Port
  authority : RuntimeAuthorityIdentity
  preparationServiceStates : Dict Port (Dict String JsonText)
  serviceStates : Dict Port (Dict String JsonText)
  txPorts : List Port
  rxPorts : List Port
  bpfFilter : String
  ports : List Port
  acquiredPorts : List Port
  deriving DecidableEq

namespace CaptureLeaseState

/-- The lease has not been resolved into a recorder of the server. -/
def unresolved (l : CaptureLeaseState) : Bool :=
  match l.recoveryPhase with
  | .preparing | .pendingStart => true
  | .active | .cleanupRequired => false

/-- The ports whose service mode was explicitly off in the snapshot. -/
def expectedServicePlan (l : CaptureLeaseState) : Finset Port :=
  l.preparationServiceStates.keys.filter fun p =>
    (l.preparationServiceStates.getD p ∅).lookup "enabled" = some "false"

/-- `acquired_ports_must_belong_to_capture`, with the field validators. -/
@[mk_iff] structure Valid (l : CaptureLeaseState) : Prop where
  lists_unique : l.baselineCaptureIds.Nodup ∧ l.preAcquiredPorts.Nodup
    ∧ l.acquirePlannedPorts.Nodup ∧ l.serviceEnablePlannedPorts.Nodup
    ∧ l.txPorts.Nodup ∧ l.rxPorts.Nodup ∧ l.ports.Nodup ∧ l.acquiredPorts.Nodup
  filter_length : l.bpfFilter.length ≤ 1024
  resolved : l.unresolved = false →
    l.captureId.isRecorder = true ∧ l.baselineCaptureIds = [] ∧ l.baselineRecorders = []
  pending : l.unresolved = true → l.captureId.isRecorder = false
  has_port : l.txPorts ++ l.rxPorts ≠ []
  directional : (l.txPorts ++ l.rxPorts).toFinset = l.ports.toFinset
  acquired_within : l.acquiredPorts.toFinset ⊆ l.ports.toFinset
  preparation_within : (l.preAcquiredPorts ++ l.acquirePlannedPorts
    ++ l.serviceEnablePlannedPorts).toFinset ⊆ l.ports.toFinset
  recorders_unique : (l.baselineRecorders.map (·.captureId)).Nodup
  recorders_exact : (l.baselineRecorders.map (·.captureId)).toFinset
    = l.baselineCaptureIds.toFinset
  preparing : l.recoveryPhase = .preparing →
    l.preparationStage ≠ none
    ∧ l.preparationServiceStates.keys = l.ports.toFinset
    ∧ Disjoint l.preAcquiredPorts.toFinset l.acquirePlannedPorts.toFinset
    ∧ (l.preAcquiredPorts ++ l.acquirePlannedPorts).toFinset = l.ports.toFinset
    ∧ l.serviceEnablePlannedPorts.toFinset = l.expectedServicePlan
    ∧ l.acquiredPorts.toFinset =
        (if l.preparationStage = some .wal ∨ l.preparationStage = some .acquireIntent
         then ∅ else l.acquirePlannedPorts.toFinset)
  not_preparing : l.recoveryPhase ≠ .preparing →
    l.preparationStage = none ∧ l.preAcquiredPorts = [] ∧ l.acquirePlannedPorts = []
    ∧ l.serviceEnablePlannedPorts = [] ∧ l.preparationServiceStates = ∅

set_option synthInstance.maxSize 512 in
instance : DecidablePred Valid := fun l => decidable_of_iff _ (valid_iff l).symm

end CaptureLeaseState

/-! ## The traffic plan -/

/-- `^[a-z0-9][a-z0-9._-]*$`. -/
def groupIdPattern (id : String) : Bool :=
  let first (c : Char) : Bool := c.isLower || c.isDigit
  match id.toList with
  | [] => false
  | c :: rest => first c && rest.all fun d => first d || d = '.' || d = '_' || d = '-'

structure TrafficGroupState where
  id : String
  name : String
  ports : List Port
  profilePath : String
  multiplier : String := "1"
  duration : Decimal := .minusOne
  force : Bool := false
  total : Bool := false
  synchronized : Bool := false
  clearExisting : Bool := true
  tunables : Dict String JsonText := ∅
  deriving DecidableEq

namespace TrafficGroupState

@[mk_iff] structure Valid (g : TrafficGroupState) : Prop where
  id_length : 1 ≤ g.id.length ∧ g.id.length ≤ 64
  id_pattern : groupIdPattern g.id = true
  name_length : 1 ≤ g.name.length ∧ g.name.length ≤ 128
  ports_nonempty : g.ports ≠ []
  ports_unique : g.ports.Nodup
  path_length : 1 ≤ g.profilePath.length ∧ g.profilePath.length ≤ 1024
  multiplier_length : 1 ≤ g.multiplier.length ∧ g.multiplier.length ≤ 64
  duration_bound : g.duration.atLeastMinusOne = true

instance : DecidablePred Valid := fun g => decidable_of_iff _ (valid_iff g).symm

end TrafficGroupState

/-! ## Evidence -/

/-- What a promoted mutation leaves behind in its session. -/
structure TrafficMutationEvidenceState where
  intentNonce : Uuid
  operation : TrafficOperation
  completionMode : TrafficCompletionMode
  ports : List Port
  baselinePortStates : Dict Port PortState
  desiredPortStates : Dict Port PortState
  baselineAcquiredPorts : List Port
  preparedAt : Time
  completedAt : Time
  ports_nonempty : ports ≠ []
  ports_unique : ports.Nodup
  acquired_unique : baselineAcquiredPorts.Nodup
  hardStop_is_stop : completionMode = .hardStop → operation = .stop
  baseline_covers : ports.toFinset ⊆ baselinePortStates.keys
  desired_exact : desiredPortStates.keys = ports.toFinset
  acquired_within : baselineAcquiredPorts.toFinset ⊆ ports.toFinset
  deriving DecidableEq

/-- How a managed group came to rest. `finalPorts` are the keys of
`final_port_states`, whose values are all `stopped`; `acquisitionRestored` is
false for the `None` of `acquisition_restored`. -/
structure TrafficCleanupEvidenceState where
  completion : CleanupCompletion
  completedAt : Time
  finalPorts : Finset Port
  intentNonce : Option Uuid := none
  acquisitionRestored : Bool := false
  walCleared : Bool := true
  observed_claims_nothing : completion = .observed →
    intentNonce = none ∧ acquisitionRestored = false ∧ walCleared = true := by simp
  operatorStop_is_exact : completion = .operatorStop →
    intentNonce ≠ none ∧ acquisitionRestored = true ∧ walCleared = true := by simp
  hardStop_restored : completion = .hardStop → acquisitionRestored = true := by simp
  deriving DecidableEq

/-! ## The managed session -/

structure TrafficSessionGroupState where
  groupId : Option String := none
  runId : Option Uuid := none
  source : Option TrafficStartSource := none
  planRevision : Option Nat := none
  ports : List Port
  profilePath : String
  profileSha256 : Option Sha256 := none
  startMultiplier : Option String := none
  multiplier : String
  duration : Decimal
  startForce : Option Bool := none
  startTotal : Option Bool := none
  startSynchronized : Option Bool := none
  startClearExisting : Option Bool := none
  startedAt : Option Time := none
  endedAt : Option Time := none
  hardStopAt : Option Time := none
  tunables : Dict String JsonText := ∅
  startEvidence : Option TrafficMutationEvidenceState := none
  cleanupEvidence : Option TrafficCleanupEvidenceState := none
  state : GroupState
  portStates : Dict Port PortState
  updatedAt : Time
  deriving DecidableEq

/-- `evidence_by_nonce.get(nonce)`. -/
def evidenceByNonce (evidence : List TrafficMutationEvidenceState) (nonce : Uuid) :
    Option TrafficMutationEvidenceState :=
  evidence.find? fun e => e.intentNonce = nonce

namespace TrafficSessionGroupState

/-- `port_states_must_exactly_describe_group`, with the field validators. -/
@[mk_iff] structure Valid (g : TrafficSessionGroupState) : Prop where
  ports_nonempty : g.ports ≠ []
  ports_unique : g.ports.Nodup
  startMultiplier_length : ∀ m, g.startMultiplier = some m → 1 ≤ m.length ∧ m.length ≤ 64
  portStates_exact : g.portStates.keys = g.ports.toFinset
  state_aggregates : g.state = aggregatePortStates g.portStates

instance : DecidablePred Valid := fun g => decidable_of_iff _ (valid_iff g).symm

def Legacy (g : TrafficSessionGroupState) : Prop :=
  g.runId = none ∧ g.source = none ∧ g.planRevision = none ∧ g.profileSha256 = none
    ∧ g.startMultiplier = none ∧ g.startForce = none ∧ g.startTotal = none
    ∧ g.startSynchronized = none ∧ g.startClearExisting = none ∧ g.startedAt = none
    ∧ g.endedAt = none ∧ g.startEvidence = none ∧ g.cleanupEvidence = none

instance : DecidablePred Legacy := fun g => by unfold Legacy; infer_instance

/-- The cleanup of a stopped run refers to a stop of the same session. -/
def CleanupReferences (evidence : List TrafficMutationEvidenceState)
    (cleanup : TrafficCleanupEvidenceState) : Prop :=
  ∀ nonce, cleanup.intentNonce = some nonce →
    ∃ stop, evidenceByNonce evidence nonce = some stop
      ∧ (stop.operation = .stop
      ∧ stop.completedAt = cleanup.completedAt
      ∧ (cleanup.completion = .operatorStop → stop.completionMode ≠ .hardStop)
      ∧ (cleanup.completion = .hardStop → stop.completionMode = .hardStop))

instance (evidence : List TrafficMutationEvidenceState)
    (cleanup : TrafficCleanupEvidenceState) :
    Decidable (CleanupReferences evidence cleanup) := by
  unfold CleanupReferences; infer_instance

/-- What an evidenced session demands of each of its groups. -/
@[mk_iff] structure Evidenced (evidence : List TrafficMutationEvidenceState)
    (g : TrafficSessionGroupState) : Prop where
  start_fields : g.runId ≠ none ∧ g.source ≠ none ∧ g.profileSha256 ≠ none
    ∧ g.startMultiplier ≠ none ∧ g.startForce ≠ none ∧ g.startTotal ≠ none
    ∧ g.startSynchronized ≠ none ∧ g.startClearExisting ≠ none ∧ g.startedAt ≠ none
  plan_identity : g.source = some .plan → g.groupId ≠ none ∧ g.planRevision ≠ none
  adHoc_identity : g.source ≠ some .plan → g.groupId = none ∧ g.planRevision = none
  start_evidence : ∃ e, g.startEvidence = some e ∧ (e.operation = .start
    ∧ some e.intentNonce = g.runId ∧ e.ports.toFinset = g.ports.toFinset
    ∧ evidenceByNonce evidence e.intentNonce = some e)
  stopped_cleanup : g.state = .stopped →
    ∃ cleanup, g.cleanupEvidence = some cleanup ∧ (g.endedAt = some cleanup.completedAt
      ∧ cleanup.finalPorts = g.ports.toFinset ∧ CleanupReferences evidence cleanup)
  active_clean : g.state ≠ .stopped → g.endedAt = none ∧ g.cleanupEvidence = none

instance (evidence : List TrafficMutationEvidenceState) (g : TrafficSessionGroupState) :
    Decidable (Evidenced evidence g) := decidable_of_iff _ (evidenced_iff evidence g).symm

end TrafficSessionGroupState

def aggregateState (groups : List TrafficSessionGroupState) : GroupState :=
  aggregateStates (groups.map (·.state)).toFinset

theorem aggregateState_stopped_iff {groups : List TrafficSessionGroupState} :
    aggregateState groups = .stopped ↔ ∀ g ∈ groups, g.state = .stopped := by
  rw [aggregateState, aggregateStates_stopped_iff]
  simp

structure TrafficSessionState where
  id : Uuid
  revision : Nat := 0
  evidenceVersion : Option EvidenceVersion := none
  authority : RuntimeAuthorityIdentity
  state : GroupState
  startedAt : Time
  updatedAt : Time
  endedAt : Option Time := none
  groups : List TrafficSessionGroupState := []
  completedGroups : List TrafficSessionGroupState := []
  mutationEvidence : List TrafficMutationEvidenceState := []
  reconciliation : Option String := none
  deriving DecidableEq

namespace TrafficSessionState

/-- `groups` followed by `completed_groups`. -/
def allGroups (s : TrafficSessionState) : List TrafficSessionGroupState :=
  s.groups ++ s.completedGroups

/-- The part of the validator that applies to `evidence_version == 1`. -/
@[mk_iff] structure Evidenced (s : TrafficSessionState) : Prop where
  positive_revision : 1 ≤ s.revision
  nonces_unique : (s.mutationEvidence.map (·.intentNonce)).Nodup
  begins_with_start : ∃ e, s.mutationEvidence.head? = some e
    ∧ (e.operation = .start ∧ e.intentNonce = s.id)
  groups_evidenced : ∀ g ∈ s.allGroups, g.Evidenced s.mutationEvidence
  completed_stopped : ∀ g ∈ s.completedGroups, g.state = .stopped
  starts_exact : (s.allGroups.map (·.runId)).toFinset =
    ((s.mutationEvidence.filter (·.operation = .start)).map
      fun e => some e.intentNonce).toFinset

instance : DecidablePred Evidenced := fun s => decidable_of_iff _ (evidenced_iff s).symm

/-- `session_group_ports_must_not_overlap`, with the validators of the groups. -/
@[mk_iff] structure Valid (s : TrafficSessionState) : Prop where
  groups_valid : ∀ g ∈ s.allGroups, g.Valid
  ports_disjoint : s.groups.Pairwise fun g h => ∀ p ∈ g.ports, p ∉ h.ports
  state_aggregates : s.state = aggregateState s.groups
  legacy : s.evidenceVersion = none →
    s.completedGroups = [] ∧ s.mutationEvidence = [] ∧ ∀ g ∈ s.groups, g.Legacy
  evidenced : s.evidenceVersion ≠ none → s.Evidenced

instance : DecidablePred Valid := fun s => decidable_of_iff _ (valid_iff s).symm

end TrafficSessionState

/-! ## The pending mutation intent -/

structure TrafficMutationIntentState where
  nonce : Uuid
  phase : IntentPhase := .prepared
  operation : TrafficOperation
  hardwareStage : HardwareStage := .prepared
  authority : RuntimeAuthorityIdentity
  expectedSessionId : Option Uuid := none
  ports : List Port
  baselinePortStates : Dict Port PortState
  desiredPortStates : Dict Port PortState
  sessionBefore : Option TrafficSessionState := none
  startGroup : Option TrafficSessionGroupState := none
  startSource : Option TrafficStartSource := none
  startPlanRevision : Option Nat := none
  startProfileSha256 : Option Sha256 := none
  startClearExisting : Option Bool := none
  startForce : Option Bool := none
  startTotal : Option Bool := none
  startSynchronized : Option Bool := none
  baselineStreamIds : Option (Dict Port (List Nat)) := none
  baselineAcquiredPorts : List Port := []
  updateMultiplier : Option String := none
  updateForce : Option Bool := none
  updateTotal : Option Bool := none
  supersededIntentNonce : Option Uuid := none
  supersededIntentOperation : Option TrafficOperation := none
  supersededIntentPorts : Option (List Port) := none
  supersededReason : Option String := none
  preparedAt : Time
  reconciliation : Option String := none
  deriving DecidableEq

namespace TrafficMutationIntentState

def NoStartData (i : TrafficMutationIntentState) : Prop :=
  i.startGroup = none ∧ i.startSource = none ∧ i.startPlanRevision = none
    ∧ i.startProfileSha256 = none ∧ i.startClearExisting = none ∧ i.startForce = none
    ∧ i.startTotal = none ∧ i.startSynchronized = none ∧ i.baselineStreamIds = none
    ∧ i.hardwareStage = .prepared

instance : DecidablePred NoStartData := fun i => by unfold NoStartData; infer_instance

def NoUpdateData (i : TrafficMutationIntentState) : Prop :=
  i.updateMultiplier = none ∧ i.updateForce = none ∧ i.updateTotal = none

instance : DecidablePred NoUpdateData := fun i => by unfold NoUpdateData; infer_instance

def NotSuperseding (i : TrafficMutationIntentState) : Prop :=
  i.supersededIntentNonce = none ∧ i.supersededIntentOperation = none
    ∧ i.supersededIntentPorts = none ∧ i.supersededReason = none

instance : DecidablePred NotSuperseding := fun i => by
  unfold NotSuperseding; infer_instance

def Superseding (i : TrafficMutationIntentState) : Prop :=
  i.supersededIntentNonce ≠ none
    ∧ (∃ op, i.supersededIntentOperation = some op ∧ op ≠ .start)
    ∧ (∃ ports, i.supersededIntentPorts = some ports
        ∧ (ports.Nodup ∧ ports.toFinset ⊆ i.ports.toFinset))
    ∧ (∃ reason, i.supersededReason = some reason
        ∧ (1 ≤ reason.length ∧ reason.length ≤ 512))
    ∧ i.operation = .stop

instance : DecidablePred Superseding := fun i => by unfold Superseding; infer_instance

def PlanIdentity (i : TrafficMutationIntentState) (g : TrafficSessionGroupState) : Prop :=
  match i.startSource with
  | some .plan => i.startPlanRevision ≠ none ∧ g.groupId ≠ none
  | some .adHoc => i.startPlanRevision = none ∧ g.groupId = none
  | none => i.startPlanRevision = none

instance (i : TrafficMutationIntentState) (g : TrafficSessionGroupState) :
    Decidable (i.PlanIdentity g) := by
  unfold PlanIdentity
  cases i.startSource with
  | none => infer_instance
  | some source => cases source <;> infer_instance

/-- Stream evidence of a start covers its ports from the acquisition on. -/
def StreamEvidence (i : TrafficMutationIntentState) : Prop :=
  (i.baselineStreamIds = none →
      i.hardwareStage = .prepared ∨ i.hardwareStage = .acquireIntent)
    ∧ ∀ ids, i.baselineStreamIds = some ids →
        ids.keys = i.ports.toFinset ∧ ∀ l ∈ ids.values, l.Nodup

instance : DecidablePred StreamEvidence := fun i => by
  unfold StreamEvidence; infer_instance

@[mk_iff] structure StartValid (i : TrafficMutationIntentState) : Prop where
  group : ∃ g, i.startGroup = some g ∧ (g.Valid ∧ i.PlanIdentity g
    ∧ g.ports.toFinset = i.ports.toFinset ∧ g.portStates.values = {.running})
  profile : i.startProfileSha256 ≠ none
  desired_running : i.desiredPortStates.values = {.running}
  flags : i.startClearExisting ≠ none ∧ i.startForce ≠ none ∧ i.startTotal ≠ none
    ∧ i.startSynchronized ≠ none
  streams : i.StreamEvidence
  no_update : i.NoUpdateData

instance : DecidablePred StartValid := fun i => decidable_of_iff _ (startValid_iff i).symm

@[mk_iff] structure UpdateValid (i : TrafficMutationIntentState) : Prop where
  no_start : i.NoStartData
  parameters : i.updateMultiplier ≠ none ∧ i.updateForce ≠ none ∧ i.updateTotal ≠ none
  multiplier_length : ∀ m, i.updateMultiplier = some m → 1 ≤ m.length ∧ m.length ≤ 64
  unchanged : ∀ p ∈ i.ports, i.desiredPortStates.lookup p = i.baselinePortStates.lookup p

instance : DecidablePred UpdateValid := fun i => decidable_of_iff _ (updateValid_iff i).symm

/-- A stop, pause or resume that takes its ports to `desired`. -/
@[mk_iff] structure ActionValid (i : TrafficMutationIntentState) (desired : PortState) :
    Prop where
  no_start : i.NoStartData
  no_update : i.NoUpdateData
  desired_state : i.desiredPortStates.values = {desired}

instance (i : TrafficMutationIntentState) (desired : PortState) :
    Decidable (i.ActionValid desired) := decidable_of_iff _ (actionValid_iff i desired).symm

def OperationValid (i : TrafficMutationIntentState) : Prop :=
  match i.operation with
  | .start => i.StartValid
  | .update => i.UpdateValid
  | .stop => i.ActionValid .stopped
  | .pause => i.ActionValid .paused
  | .resume => i.ActionValid .running

instance : DecidablePred OperationValid := fun i => by
  unfold OperationValid
  cases i.operation <;> infer_instance

/-- `mutation_evidence_must_be_exact` of the intent, with the field validators
and the validator of the session snapshot. -/
@[mk_iff] structure Valid (i : TrafficMutationIntentState) : Prop where
  ports_nonempty : i.ports ≠ []
  ports_unique : i.ports.Nodup
  acquired_unique : i.baselineAcquiredPorts.Nodup
  session_valid : ∀ s, i.sessionBefore = some s → s.Valid
  baseline_covers : i.ports.toFinset ⊆ i.baselinePortStates.keys
  desired_exact : i.desiredPortStates.keys = i.ports.toFinset
  baseline_known : .unknown ∉ i.baselinePortStates.values
  desired_known : .unknown ∉ i.desiredPortStates.values
  acquired_within : i.baselineAcquiredPorts.toFinset ⊆ i.ports.toFinset
  superseded : i.NotSuperseding ∨ i.Superseding
  unexpected_session : i.expectedSessionId = none → i.operation = .start
  expected_session : ∀ id, i.expectedSessionId = some id →
    ∃ s, i.sessionBefore = some s ∧ s.id = id
  operation_valid : i.OperationValid

instance : DecidablePred Valid := fun i => decidable_of_iff _ (valid_iff i).symm

end TrafficMutationIntentState

/-! ## The document -/

structure RuntimeStateDocument where
  revision : Nat := 0
  connection : Option RuntimeConnectionState := none
  captureLeases : List CaptureLeaseState := []
  trafficPlanRevision : Nat := 0
  trafficGroups : List TrafficGroupState := []
  trafficSession : Option TrafficSessionState := none
  trafficMutationIntent : Option TrafficMutationIntentState := none
  updatedAt : Option Time := none
  deriving DecidableEq

namespace RuntimeStateDocument

/-- `runtime_authorities_must_be_unambiguous`, with the nested validators. -/
@[mk_iff] structure Valid (d : RuntimeStateDocument) : Prop where
  leases_valid : ∀ l ∈ d.captureLeases, l.Valid
  capture_ids_unique : (d.captureLeases.map (·.captureId)).Nodup
  one_pending_capture : (d.captureLeases.filter (·.unresolved)).length ≤ 1
  plan_valid : ∀ g ∈ d.trafficGroups, g.Valid
  plan_ids_unique : (d.trafficGroups.map (·.id)).Nodup
  plan_ports_disjoint : d.trafficGroups.Pairwise fun g h => ∀ p ∈ g.ports, p ∉ h.ports
  session_valid : ∀ s, d.trafficSession = some s → s.Valid
  intent_valid : ∀ i, d.trafficMutationIntent = some i →
    i.Valid ∧ i.sessionBefore = d.trafficSession

instance : DecidablePred Valid := fun d => decidable_of_iff _ (valid_iff d).symm

theorem valid_empty : Valid {} := by
  constructor <;> simp

end RuntimeStateDocument

/-- A document that the store has validated: what a file holds. -/
structure PersistedDocument where
  document : RuntimeStateDocument
  valid : document.Valid
  deriving DecidableEq

namespace PersistedDocument

def empty : PersistedDocument := ⟨{}, RuntimeStateDocument.valid_empty⟩

end PersistedDocument

end TrexWebui
