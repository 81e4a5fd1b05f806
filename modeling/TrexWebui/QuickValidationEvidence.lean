import TrexWebui.QuickValidationState
import TrexWebui.TrafficRecovery

/-!
# What the guided validation demands of the traffic session

`_validated_started_session` and `_validated_cleanup` of `quick_validation.py`:
the checks, in their order and with their texts, that a session of the traffic
runtime has to pass before a run is bound to it or ends with it. The snapshot
is the record that the traffic authority returns, so the checks that its
fields have the right type are left out.
-/

namespace TrexWebui

open PyText

/-! ## Checks -/

/-- `raise QuickValidationStateError(message)`, on a condition. -/
def refuseWhen (condition : Prop) [Decidable condition] (message : String) : Except String Unit :=
  if condition then .error message else .ok ()

def required {α : Type} (value : Option α) (message : String) : Except String α :=
  match value with
  | some x => .ok x
  | none => .error message

/-- `_strict_stopped_port_states`: the ports, all of them stopped. -/
def strictStoppedPortStates (states : Dict Port PortState) (label : String) :
    Except String (Finset Port) := do
  refuseWhen (∃ port ∈ states.keys, states.lookup port ≠ some .stopped)
    s!"{label} must report every target port as stopped"
  return states.keys

def portsAreIdle (runtime : SnapshotPayload) (ports : List Port) : Bool :=
  runtime.liveStateSampled
    && ports.all fun port =>
      match runtime.portStates.reverse.find? (·.port = port) with
      | some record => record.state = .stopped && record.ownership = .none
      | none => false

/-! ## The started session -/

/-- What `_validated_started_session` returns. -/
structure StartedSession where
  sessionId : Uuid
  sessionRevision : Nat
  sessionState : GroupState
  trafficRunId : Uuid
  profileSha256 : Sha256
  startedAt : Time
  groupEndedAt : Option Time
  group : TrafficSessionGroupState

/-- `float` of a decimal number. -/
def Decimal.toFloat (d : Decimal) : Float :=
  let magnitude := Float.ofScientific d.coefficient.natAbs true d.scale
  if d.coefficient < 0 then -magnitude else magnitude

def QuickValidationRunState.isPlanned (run : QuickValidationRunState)
    (group : TrafficSessionGroupState) : Bool :=
  group.groupId = some run.group.groupId && group.source = some .plan
    && group.planRevision = some run.group.planRevision
    && (group.hardStopAt = some run.watchdogAt || group.hardStopAt = none)

def QuickValidationRunState.mismatchedFields (run : QuickValidationRunState)
    (group : TrafficSessionGroupState) : List String :=
  (if group.duration.toFloat == run.group.planDuration then [] else ["duration"])
    ++ (if group.startForce = some run.group.force then [] else ["start_force"])
    ++ (if group.startTotal = some run.group.total then [] else ["start_total"])
    ++ (if group.startSynchronized = some run.group.synchronized then []
      else ["start_synchronized"])
    ++ (if group.startClearExisting = some run.group.clearExisting then []
      else ["start_clear_existing"])
    ++ (if group.tunables = run.group.tunables then [] else ["tunables"])

/-- The start of the group is the one that its run describes, and the session has it. -/
def checkStartEvidence (run : QuickValidationRunState) (session : TrafficSessionState)
    (group : TrafficSessionGroupState) (runId : Uuid) : Except String Unit := do
  let evidence ← required (group.startEvidence.filter fun evidence =>
      evidence.operation = .start && evidence.intentNonce = runId
        && evidence.ports = run.group.ports)
    "canonical traffic group lacks exact start evidence"
  let first ← required session.mutationEvidence.head?
    "canonical traffic session mutation evidence is missing"
  refuseWhen (¬(first.operation = .start ∧ first.intentNonce = session.id))
    "canonical traffic session does not begin with exact start evidence"
  refuseWhen (evidence ∉ session.mutationEvidence)
    "canonical traffic group start evidence is not in its session"

/-- The end of the group: a stopped one has it, a running one keeps its lease. -/
def checkGroupEnd (run : QuickValidationRunState) (group : TrafficSessionGroupState)
    (startedAt : Time) : Except String Unit := do
  if group.state = .stopped then
    let states ← strictStoppedPortStates group.portStates "canonical traffic group port states"
    refuseWhen (states ≠ run.group.ports.toFinset)
      "canonical traffic group port states differ from the guided run"
    refuseWhen (group.hardStopAt ≠ none)
      "stopped canonical traffic group retained a hard-stop lease"
    let endedAt ← required group.endedAt "stopped canonical traffic group has no end time"
    refuseWhen (endedAt < startedAt) "canonical traffic group ended before it started"
  else
    refuseWhen (group.hardStopAt ≠ some run.watchdogAt)
      "active canonical traffic group changed its watchdog lease"
    refuseWhen (group.endedAt ≠ none) "active canonical traffic group already has an end time"

def validatedStartedSession (raw : Option TrafficSessionState) (run : QuickValidationRunState) :
    Except String StartedSession := do
  let session ← required raw "canonical traffic response did not include a session"
  refuseWhen (session.revision < 1) "canonical traffic session revision must be positive"
  refuseWhen (∃ revision ∈ run.trafficSessionRevision, session.revision < revision)
    "canonical traffic session revision moved backwards"
  refuseWhen (session.evidenceVersion ≠ some .one)
    "quick validation requires traffic evidence version 1"
  refuseWhen (∃ id ∈ run.trafficSessionId, session.id ≠ id)
    "canonical traffic session changed during quick validation"
  let group ← required (session.allGroups.find? run.isPlanned)
    "canonical traffic session does not contain the exact saved-plan run"
  refuseWhen (group.ports ≠ run.group.ports)
    "canonical traffic session ports differ from quick-validation preflight"
  refuseWhen (group.profilePath ≠ run.group.profilePath)
    "canonical traffic profile differs from quick-validation preflight"
  refuseWhen (group.startMultiplier ≠ some run.group.multiplier)
    "canonical traffic multiplier differs from quick-validation preflight"
  refuseWhen (run.mismatchedFields group ≠ [])
    ("canonical traffic start differs from the saved plan fields: "
      ++ ", ".intercalate (run.mismatchedFields group))
  let profileSha256 ← required group.profileSha256 "canonical traffic profile digest is invalid"
  refuseWhen (∃ digest ∈ run.group.profileSha256, profileSha256 ≠ digest)
    "canonical traffic profile digest changed during quick validation"
  let runId ← required group.runId "canonical traffic group run id is missing"
  refuseWhen (∃ id ∈ run.trafficRunId, runId ≠ id)
    "canonical traffic group run changed during quick validation"
  checkStartEvidence run session group runId
  let startedAt ← required group.startedAt "canonical traffic group start time is missing"
  refuseWhen (startedAt < run.createdAt)
    "canonical traffic session predates this quick-validation run"
  refuseWhen (run.watchdogAt < startedAt)
    "canonical traffic session starts after this run's watchdog"
  refuseWhen ((session.state = .stopped) ≠ (group.state = .stopped))
    "canonical traffic session and guided group states drifted apart"
  checkGroupEnd run group startedAt
  return { sessionId := session.id, sessionRevision := session.revision,
           sessionState := session.state, trafficRunId := runId, profileSha256, startedAt,
           groupEndedAt := group.endedAt, group }

/-! ## The cleanup -/

def checkStopEvidence (run : QuickValidationRunState) (session : TrafficSessionState)
    (completion : CleanupCompletion) (completedAt : Time) (nonce : Uuid) : Except String Unit := do
  let stops := session.mutationEvidence.filter (·.intentNonce = nonce)
  let stop ← required (if stops.length = 1 then stops.head? else none)
    "traffic cleanup must reference exactly one stop mutation nonce"
  refuseWhen (stop.operation ≠ .stop) "traffic cleanup nonce does not reference a stop mutation"
  refuseWhen (stop.ports ≠ run.group.ports)
    "traffic cleanup stop mutation ports do not match the guided run"
  let desired ← strictStoppedPortStates stop.desiredPortStates
    "traffic cleanup stop mutation desired port states"
  refuseWhen (desired ≠ run.group.ports.toFinset)
    "traffic cleanup stop mutation desired port states do not match the guided run"
  refuseWhen (stop.completedAt ≠ completedAt)
    "traffic cleanup completion time differs from its stop mutation"
  refuseWhen (completion = .operatorStop ∧ stop.completionMode = .hardStop ∨
      completion = .hardStop ∧ stop.completionMode ≠ .hardStop)
    "traffic cleanup mode disagrees with its stop mutation"

def validatedCleanup (runtime : SnapshotPayload) (run : QuickValidationRunState) :
    Except String QuickValidationCleanupEvidence := do
  refuseWhen (runtime.liveStateSampled = false)
    "cleanup requires a fresh complete port-state sample"
  refuseWhen (runtime.mutationIntent ≠ none)
    "cleanup cannot complete while traffic WAL is pending"
  refuseWhen (portsAreIdle runtime run.group.ports = false)
    "quick-validation ports are not all idle after stop"
  let session ← required (runtime.session.filter fun session =>
      some session.id = run.trafficSessionId && session.evidenceVersion = some .one
        && session.state = .stopped)
    "cleanup requires the exact stopped evidence-v1 traffic session"
  refuseWhen (session.revision < 1) "stopped traffic session revision must be positive"
  refuseWhen (∃ revision ∈ run.trafficSessionRevision, session.revision < revision)
    "stopped traffic session revision moved backwards"
  let started ← validatedStartedSession runtime.session run
  refuseWhen (started.group.state ≠ .stopped) "quick-validation traffic group is not stopped"
  let cleanup ← required started.group.cleanupEvidence
    "stopped traffic group has no cleanup evidence"
  refuseWhen (cleanup.completion = .observed)
    "observed traffic idle cannot certify commanded quick-validation cleanup"
  refuseWhen (¬(cleanup.walCleared = true ∧ cleanup.acquisitionRestored = true))
    "traffic cleanup has not restored acquisition and cleared WAL"
  refuseWhen (cleanup.finalPorts ≠ run.group.ports.toFinset)
    "traffic cleanup final port states do not match the guided run"
  refuseWhen (started.group.endedAt ≠ some cleanup.completedAt)
    "traffic cleanup completion time differs from the guided group end time"
  let nonce ← required cleanup.intentNonce "commanded cleanup is missing its stop intent nonce"
  checkStopEvidence run session cleanup.completion cleanup.completedAt nonce
  return { mode := if cleanup.completion = .hardStop then .hardStop else .operatorStop,
           completedAt := cleanup.completedAt,
           trafficSessionRevision := some session.revision,
           finalPorts := run.group.ports.toFinset, intentNonce := some nonce,
           acquisitionRestored := true }

end TrexWebui
