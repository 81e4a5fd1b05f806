import TrexWebui.RuntimeState

/-!
# The mutations of the runtime state

Every write of the traffic authority goes through `RuntimeStateStore.update`
with a closure that edits the document it is given. Here each closure of
`traffic_runtime.py` is a function of the document and of the values it
closes over, under its own name. A closure returns `none` to leave the
document alone, returns the candidate document, or raises.

`Mutation` enumerates them, so that a write can be recorded together with
what it was meant to do.
-/

namespace TrexWebui

/-! ## Exceptions -/

/-- The subclasses of `RuntimeStateError` that the authority tells apart. -/
inductive RuntimeStateErrorKind where
  | runtimeState | connectionTargetMismatch | authorityMismatch | sessionIdConflict
  | partialGroupUpdate | recoveryRequired
  deriving DecidableEq, Repr

/-- What an operation can raise. `crashed` is the end of the process: no handler
and no `finally` clause runs after it. -/
inductive TrafficError where
  | crashed
  | runtimeState (kind : RuntimeStateErrorKind) (message : String)
  | planRevisionConflict (message : String)
  | planRuntimeBusy (message : String)
  | validation (message : String)
  | value (message : String)
  | runtime (message : String)
  deriving DecidableEq, Repr

namespace TrafficError

def isCrash : TrafficError → Bool
  | .crashed => true
  | _ => false

/-- `str(exc)`. -/
def text : TrafficError → String
  | .crashed => ""
  | .runtimeState _ message | .planRevisionConflict message | .planRuntimeBusy message
  | .validation message | .value message | .runtime message => message

/-- `except RuntimeStateError`. -/
def isRuntimeState : TrafficError → Bool
  | .runtimeState _ _ => true
  | _ => false

/-- `except Exception`. -/
def isException (e : TrafficError) : Bool := !e.isCrash

def sessionIdConflict (message : String) : TrafficError :=
  .runtimeState .sessionIdConflict message

def recoveryRequired (message : String) : TrafficError :=
  .runtimeState .recoveryRequired message

def authorityMismatch (message : String) : TrafficError :=
  .runtimeState .authorityMismatch message

def plain (message : String) : TrafficError := .runtimeState .runtimeState message

end TrafficError

/-- `{"running", "paused", "mixed"}`: a session that may be mutated. -/
def GroupState.safelyActive : GroupState → Bool
  | .running | .paused | .mixed => true
  | .stopped | .unknown => false

/-- `{"running", "paused"}`. -/
def PortState.active : PortState → Bool
  | .running | .paused => true
  | .stopped | .unknown => false

def hardStopIsExpired (deadline now : Time) : Bool := decide (deadline ≤ now)

namespace TrafficSessionGroupState

def leased (g : TrafficSessionGroupState) : Bool :=
  g.hardStopAt.isSome && decide (g.state ≠ .stopped)

/-- The group holds a lease that has expired at `now`, and is not stopped. -/
def leaseExpired (now : Time) (g : TrafficSessionGroupState) : Bool :=
  g.hardStopAt.any (hardStopIsExpired · now) && decide (g.state ≠ .stopped)

/-- `{port: "stopped" for port in group.ports}`. -/
def stoppedStates (g : TrafficSessionGroupState) : Dict Port PortState :=
  .ofKeys g.ports fun _ => .stopped

/-- `(tuple(group.ports), group.hard_stop_at)`. -/
def leaseIdentity (g : TrafficSessionGroupState) : List Port × Option Time :=
  (g.ports, g.hardStopAt)

def meets (g : TrafficSessionGroupState) (target : List Port) : Bool :=
  g.ports.any (· ∈ target)

def coveredBy (g : TrafficSessionGroupState) (target : List Port) : Bool :=
  g.ports.all (· ∈ target)

end TrafficSessionGroupState

/-- `TrafficCleanupEvidenceState(completion="observed", …)`. -/
def observedCleanup (now : Time) (ports : List Port) : TrafficCleanupEvidenceState where
  completion := .observed
  completedAt := now
  finalPorts := ports.toFinset

def commandedCleanup (mode : TrafficCompletionMode) (now : Time) (ports : List Port)
    (nonce : Uuid) : TrafficCleanupEvidenceState where
  completion := if mode = .hardStop then .hardStop else .operatorStop
  completedAt := now
  finalPorts := ports.toFinset
  intentNonce := some nonce
  acquisitionRestored := true
  observed_claims_nothing := by split <;> simp

/-- The cleanup evidence of a stop issued over a retained intent. -/
def retainedHardStopCleanup (now : Time) (ports : List Port) :
    TrafficCleanupEvidenceState where
  completion := .hardStop
  completedAt := now
  finalPorts := ports.toFinset
  acquisitionRestored := true
  walCleared := false

namespace TrafficMutationIntentState

/-- The intent starts a group whose lease has expired at `now`. -/
def expiredStart (now : Time) (i : TrafficMutationIntentState) : Bool :=
  decide (i.operation = .start)
    && (i.startGroup.bind (·.hardStopAt)).any (hardStopIsExpired · now)

def isHardStopSupersedingIntent (i : TrafficMutationIntentState) : Bool :=
  decide (i.operation = .stop) && i.supersededIntentNonce.isSome
    && i.supersededIntentOperation.isSome && i.supersededIntentPorts.isSome
    && i.supersededReason.isSome

def startStageAtLeast (i : TrafficMutationIntentState) (stage : HardwareStage) : Bool :=
  decide (stage.order ≤ i.hardwareStage.order)

/-- The evidence that a promotion appends, if its validator accepts it. -/
def evidence (i : TrafficMutationIntentState) (mode : TrafficCompletionMode) (now : Time) :
    Except TrafficError TrafficMutationEvidenceState :=
  if h : i.ports ≠ [] ∧ i.ports.Nodup ∧ i.baselineAcquiredPorts.Nodup
      ∧ (mode = .hardStop → i.operation = .stop)
      ∧ i.ports.toFinset ⊆ i.baselinePortStates.keys
      ∧ i.desiredPortStates.keys = i.ports.toFinset
      ∧ i.baselineAcquiredPorts.toFinset ⊆ i.ports.toFinset then
    .ok {
      intentNonce := i.nonce
      operation := i.operation
      completionMode := mode
      ports := i.ports
      baselinePortStates := i.baselinePortStates
      desiredPortStates := i.desiredPortStates
      baselineAcquiredPorts := i.baselineAcquiredPorts
      preparedAt := i.preparedAt
      completedAt := now
      ports_nonempty := h.1
      ports_unique := h.2.1
      acquired_unique := h.2.2.1
      hardStop_is_stop := h.2.2.2.1
      baseline_covers := h.2.2.2.2.1
      desired_exact := h.2.2.2.2.2.1
      acquired_within := h.2.2.2.2.2.2 }
  else .error (.validation "traffic mutation evidence is not exact")

end TrafficMutationIntentState

/-- What a closure handed to `RuntimeStateStore.update` does. -/
abbrev MutationResult := Except TrafficError (Option RuntimeStateDocument)

/-! ## The reaper and the retirement -/

/-- `clear_stopped` of `reap_expired_hard_stops`. -/
def clearStopped (expectedSessionId : Uuid) (current : RuntimeStateDocument) :
    MutationResult :=
  match current.trafficSession with
  | none => .ok none
  | some session =>
    if session.id ≠ expectedSessionId ∨ current.trafficMutationIntent ≠ none then .ok none
    else
      let stoppedWithLease (g : TrafficSessionGroupState) : Bool :=
        decide (g.state = .stopped) && g.hardStopAt.isSome
      if session.groups.any stoppedWithLease then
        .ok (some { current with
          trafficSession := some { session with
            groups := session.groups.map fun g =>
              if stoppedWithLease g then { g with hardStopAt := none } else g } })
      else .ok none

/-- A group as the retirement and the generation rollover leave it, with an observed
cleanup if the session is evidenced and the run has none. -/
def TrafficSessionGroupState.observedStopped (evidenced : Bool) (now : Time)
    (g : TrafficSessionGroupState) : TrafficSessionGroupState :=
  if evidenced && g.cleanupEvidence.isNone then
    { g with endedAt := some now, cleanupEvidence := some (observedCleanup now g.ports) }
  else g

/-- One step of the loop of `retire`. -/
def retireGroup (evidenced : Bool) (now : Time) (g : TrafficSessionGroupState) :
    TrafficSessionGroupState :=
  (if g.state ≠ .stopped ∨ g.portStates ≠ g.stoppedStates ∨ g.hardStopAt ≠ none then
    { g with
      state := .stopped
      portStates := g.stoppedStates
      hardStopAt := none
      updatedAt := now }
  else g).observedStopped evidenced now

def retiredReconciliation : String :=
  "retired after the TRex daemon confirmed process termination"

/-- The session that `retire` leaves. -/
def retiredSession (now : Time) (session : TrafficSessionState) : TrafficSessionState :=
  let groups := session.groups.map
    (retireGroup (decide (session.evidenceVersion = some .one)) now)
  let changed := decide (groups ≠ session.groups) || decide (session.state ≠ .stopped)
    || session.endedAt.isNone || decide (session.reconciliation ≠ some retiredReconciliation)
  { session with
    groups := groups
    state := .stopped
    updatedAt := now
    endedAt := some (session.endedAt.getD now)
    reconciliation := some retiredReconciliation
    revision := if changed then session.revision + 1 else session.revision }

/-- `retire` of `retire_after_trex_termination`. -/
def retire (expectedSessionId expectedIntentNonce : Option Uuid) (now : Time)
    (document : RuntimeStateDocument) : MutationResult :=
  if document.trafficSession.map (·.id) ≠ expectedSessionId
      ∨ document.trafficMutationIntent.map (·.nonce) ≠ expectedIntentNonce then
    .error (.sessionIdConflict "traffic runtime changed after TRex process termination")
  else
    .ok (some { document with
      trafficSession := document.trafficSession.map (retiredSession now)
      trafficMutationIntent := none })

def retainStoppedGroup (evidenced : Bool) (now : Time) (g : TrafficSessionGroupState) :
    TrafficSessionGroupState :=
  let stopped := { g with
    portStates := g.stoppedStates
    state := .stopped
    hardStopAt := none
    updatedAt := now }
  if evidenced && g.cleanupEvidence.isNone then
    { stopped with
      endedAt := some now
      cleanupEvidence := some (retainedHardStopCleanup now g.ports) }
  else stopped

/-- The session that `retain_after_stop` leaves. -/
def retainedSession (intent : TrafficMutationIntentState)
    (leaseIdentity : List (List Port × Option Time)) (now : Time)
    (session : TrafficSessionState) : TrafficSessionState :=
  let groups := session.groups.map fun g =>
    if g.leaseIdentity ∈ leaseIdentity then
      retainStoppedGroup (decide (session.evidenceVersion = some .one)) now g
    else g
  let state := aggregateState groups
  { session with
    groups := groups
    state := state
    updatedAt := now
    revision := session.revision + 1
    endedAt := if state = .stopped then some now else none
    reconciliation := some s!"expired lease stopped before retaining disjoint traffic {
      intent.operation.text} intent {intent.nonce}" }

/-- The pending intent that `retain_after_stop` keeps. -/
def retainIntent (expiredPorts : List Port) (session : TrafficSessionState)
    (intent : TrafficMutationIntentState) : TrafficMutationIntentState :=
  let overlaps := intent.ports.any (· ∈ expiredPorts)
  { intent with
    baselinePortStates := intent.baselinePortStates.updateKeys expiredPorts fun _ => .stopped
    desiredPortStates :=
      if intent.operation = .update then
        intent.desiredPortStates.updateKeys
          (expiredPorts.filter (· ∈ intent.desiredPortStates)) fun _ => .stopped
      else intent.desiredPortStates
    phase := if overlaps then .cleanupRequired else intent.phase
    reconciliation :=
      if overlaps then
        some ("expired lease stopped ports inside this mutation; "
          ++ "the WAL is retained fail-closed and will not replay")
      else intent.reconciliation
    expectedSessionId :=
      if intent.operation = .start ∧ overlaps = false ∧ session.state = .stopped then none
      else intent.expectedSessionId
    sessionBefore := some session }

/-- `retain_after_stop` of `_stop_expired_leases_over_pending_mutation`. -/
def retainAfterStop (session : TrafficSessionState) (intent : TrafficMutationIntentState)
    (leaseIdentity : List (List Port × Option Time)) (expiredGroupPorts : List Port)
    (now : Time) (current : RuntimeStateDocument) : MutationResult :=
  if current.trafficSession ≠ some session ∨ current.trafficMutationIntent ≠ some intent
      ∨ intent.sessionBefore ≠ some session then
    .error (.sessionIdConflict
      "traffic session or pending mutation changed before hard-stop persistence")
  else if session.groups.all fun g => g.leaseIdentity ∉ leaseIdentity then
    .error (.sessionIdConflict "expired lease disappeared before hard-stop persistence")
  else
    let stopped := retainedSession intent leaseIdentity now session
    .ok (some { current with
      trafficSession := some stopped
      trafficMutationIntent := some (retainIntent expiredGroupPorts stopped intent) })

/-- `supersede` of `_stop_expired_leases_over_pending_mutation`. -/
def supersede (session : TrafficSessionState) (intent : TrafficMutationIntentState)
    (currentAuthority : RuntimeAuthorityIdentity)
    (leaseIdentity : List (List Port × Option Time)) (observedAt : Time)
    (hardStopIntent : TrafficMutationIntentState) (current : RuntimeStateDocument) :
    MutationResult :=
  if current.trafficSession ≠ some session ∨ current.trafficMutationIntent ≠ some intent
      ∨ intent.sessionBefore ≠ some session ∨ session.authority ≠ currentAuthority then
    .error (.sessionIdConflict
      "traffic session or mutation changed before durable hard-stop supersession")
  else
    let currentLeases :=
      (session.groups.filter (·.leaseExpired observedAt)).map (·.leaseIdentity)
    if leaseIdentity.all (· ∈ currentLeases) then
      .ok (some { current with trafficMutationIntent := some hardStopIntent })
    else .error (.sessionIdConflict
      "traffic hard-stop lease changed before durable supersession")

/-! ## The plan -/

/-- `replace` of `replace_plan`. -/
def replace (expectedRevision : Nat) (groups : List TrafficGroupState)
    (document : RuntimeStateDocument) : MutationResult :=
  if document.trafficPlanRevision ≠ expectedRevision then
    .error (.planRevisionConflict s!"traffic plan revision is {
      document.trafficPlanRevision}, not {expectedRevision}")
  else match document.trafficMutationIntent with
  | some intent => .error (.planRuntimeBusy
      s!"traffic plan cannot change while durable mutation intent {intent.nonce} ({
        intent.operation.text}) is pending")
  | none =>
    let fullyStopped := document.trafficSession.all fun session =>
      decide (session.state = .stopped) && session.groups.all fun g =>
        decide (g.state = .stopped) && g.hardStopAt.isNone
          && decide (∀ state ∈ g.portStates.values, state = .stopped)
    if fullyStopped then
      .ok (some { document with
        trafficGroups := groups
        trafficPlanRevision := document.trafficPlanRevision + 1 })
    else .error (.planRuntimeBusy
      ("traffic plan cannot change until every managed session group and port is durably "
        ++ "stopped and all hard-stop leases are cleared"))

/-- `initialize` of `_initialize_default_plan`. -/
def initializePlan (groups : List TrafficGroupState) (document : RuntimeStateDocument) :
    MutationResult :=
  if document.trafficPlanRevision ≠ 0 ∨ document.trafficGroups ≠ [] then .ok none
  else .ok (some { document with trafficGroups := groups, trafficPlanRevision := 1 })

/-! ## The write-ahead intent -/

def assertStartSessionAuthority (document : RuntimeStateDocument)
    (currentAuthority : RuntimeAuthorityIdentity) (expectedSessionId ownedSessionId : Option Uuid) :
    Except TrafficError Unit :=
  if document.trafficMutationIntent ≠ none then
    .error (.recoveryRequired
      "a durable traffic mutation intent must be recovered before starting")
  else match expectedSessionId, document.trafficSession with
  | none, none => .ok ()
  | none, some session =>
    if session.state = .stopped then .ok ()
    else .error (.sessionIdConflict s!"expected no active managed traffic session, but session {
      session.id} is {session.state.text}")
  | some id, none => .error (.sessionIdConflict s!"traffic session {id} does not exist")
  | some id, some session =>
    if session.id ≠ id then
      .error (.sessionIdConflict s!"traffic session id is {session.id}, not {id}")
    else if session.state.safelyActive = false then
      .error (.sessionIdConflict s!"traffic session {session.id} is not safely active: {
        session.state.text}")
    else if session.evidenceVersion ≠ some .one then
      .error (.sessionIdConflict ("legacy traffic sessions cannot accept additional starts; "
        ++ "stop the session and start a new evidenced run"))
    else if session.authority ≠ currentAuthority then
      .error (.sessionIdConflict
        "traffic session belongs to a different TRex target or daemon generation")
    else if some session.id ≠ ownedSessionId then
      .error (.sessionIdConflict
        "traffic session has not been safely adopted by this API process")
    else .ok ()

/-- `prepare` of `_prepare_traffic_mutation_intent`. -/
def prepare (intent : TrafficMutationIntentState) (ownedSessionId : Option Uuid)
    (document : RuntimeStateDocument) : MutationResult :=
  if document.trafficMutationIntent ≠ none then
    .error (.recoveryRequired
      "a durable traffic mutation intent already requires recovery")
  else if document.trafficSession ≠ intent.sessionBefore then
    .error (.sessionIdConflict
      "the managed traffic session changed before intent persistence")
  else
    let prepared := { document with trafficMutationIntent := some intent }
    if intent.operation = .start then
      match assertStartSessionAuthority document intent.authority intent.expectedSessionId
        ownedSessionId with
      | .error e => .error e
      | .ok () => .ok (some prepared)
    else
      match document.trafficSession with
      | none => .error (.sessionIdConflict
          "the managed traffic session changed before intent persistence")
      | some session =>
        if some session.id = intent.expectedSessionId ∧ some session.id = ownedSessionId
            ∧ session.authority = intent.authority ∧ session.state.safelyActive then
          .ok (some prepared)
        else .error (.sessionIdConflict
          "the managed traffic session changed before intent persistence")

/-- `start_deadlines` of `_advance_start_intent_stage`. -/
def startDeadlines (intent : TrafficMutationIntentState) : List Time :=
  (((intent.sessionBefore.map (·.groups)).getD []).filter (·.leased)).filterMap (·.hardStopAt)
    ++ (intent.startGroup.bind (·.hardStopAt)).toList

/-- The round trips that a stage budgets for before it is entered. -/
def HardwareStage.rpcCount : HardwareStage → Option Nat
  | .acquireIntent => some 3
  | .streamsRemoveIntent | .profileAddIntent | .startIntent => some 2
  | .prepared | .acquired | .streamsRemoved | .profileAdded | .startReturned => none

/-- `advance` of `_advance_start_intent_stage`. The clock reading behind the budget
guard is `budget`: the error text of the failed guard, if it failed. -/
def advance (intentNonce : Uuid) (stage : HardwareStage)
    (streamIds : Option (Dict Port (List Nat)))
    (budget : TrafficMutationIntentState → Option String)
    (document : RuntimeStateDocument) : MutationResult :=
  match document.trafficMutationIntent with
  | none => .error (.recoveryRequired "traffic start intent changed during live execution")
  | some intent =>
    if intent.nonce ≠ intentNonce ∨ intent.operation ≠ .start then
      .error (.recoveryRequired "traffic start intent changed during live execution")
    else if stage.order < intent.hardwareStage.order then .ok (some document)
    else match (if intent.startGroup.isSome then budget intent else none) with
    | some failure => .error (.recoveryRequired failure)
    | none =>
      let advanced (ids : Option (Dict Port (List Nat))) : MutationResult :=
        .ok (some { document with
          trafficMutationIntent := some { intent with
            baselineStreamIds := ids
            hardwareStage := stage
            reconciliation := some s!"live TRex start reached durable stage {stage.text}" } })
      if stage = .acquired then
        match streamIds with
        | none => .error (.plain "cannot persist exact stream evidence after acquisition")
        | some ids =>
          if ids.keys = intent.ports.toFinset then advanced (some ids)
          else .error (.plain "cannot persist exact stream evidence after acquisition")
      else if HardwareStage.streamsRemoveIntent.order ≤ stage.order
          ∧ intent.baselineStreamIds = none then
        .error (.plain "cannot mutate streams before exact baseline evidence is durable")
      else advanced intent.baselineStreamIds

/-- `retain` of `_retain_failed_mutation_intent`. -/
def retain (intentNonce : Uuid) (reason : String) (document : RuntimeStateDocument) :
    MutationResult :=
  match document.trafficMutationIntent with
  | none => .ok none
  | some intent =>
    if intent.nonce ≠ intentNonce then .ok none
    else .ok (some { document with
      trafficMutationIntent := some { intent with
        phase := .cleanupRequired
        reconciliation := some s!"live mutation did not complete cleanly: {reason}" } })

/-- `clear` of `_clear_traffic_mutation_intent`. -/
def clear (intentNonce : Uuid) (sessionBefore : Option TrafficSessionState)
    (document : RuntimeStateDocument) : MutationResult :=
  if document.trafficMutationIntent.map (·.nonce) ≠ some intentNonce then
    .error (.recoveryRequired
      "the durable traffic mutation intent changed during recovery")
  else if document.trafficSession ≠ sessionBefore then
    .error (.sessionIdConflict "the managed traffic session changed during recovery")
  else .ok (some { document with trafficMutationIntent := none })

def rolloverReconciliation : String :=
  "retired after managed TRex daemon generation rollover"

def rolloverGroup (evidenced : Bool) (now : Time) (g : TrafficSessionGroupState) :
    TrafficSessionGroupState :=
  ({ g with
    portStates := g.stoppedStates
    state := .stopped
    hardStopAt := none
    updatedAt := now } : TrafficSessionGroupState).observedStopped evidenced now

def rolledOverSession (previousAuthority : RuntimeAuthorityIdentity) (now : Time)
    (session : TrafficSessionState) : TrafficSessionState :=
  if session.authority = previousAuthority then
    { session with
      groups := session.groups.map
        (rolloverGroup (decide (session.evidenceVersion = some .one)) now)
      state := .stopped
      revision := session.revision + 1
      updatedAt := now
      endedAt := some now
      reconciliation := some rolloverReconciliation }
  else session

/-- `retire` of `_retire_mutation_intent_after_generation_rollover`. -/
def retireAfterRollover (intentNonce : Uuid) (previousAuthority : RuntimeAuthorityIdentity)
    (now : Time) (document : RuntimeStateDocument) : MutationResult :=
  match document.trafficMutationIntent with
  | none => .error (.recoveryRequired
      "traffic mutation intent changed during generation rollover")
  | some intent =>
    if intent.nonce ≠ intentNonce ∨ intent.authority ≠ previousAuthority then
      .error (.recoveryRequired
        "traffic mutation intent changed during generation rollover")
    else if document.trafficSession ≠ intent.sessionBefore then
      .error (.sessionIdConflict
        "managed traffic session changed during generation rollover")
    else
      .ok (some { document with
        trafficSession := document.trafficSession.map (rolledOverSession previousAuthority now)
        trafficMutationIntent := none })

/-! ## Promotion -/

def promotedGroup (intent : TrafficMutationIntentState) (started : TrafficSessionGroupState)
    (evidence : TrafficMutationEvidenceState) (now : Time) : TrafficSessionGroupState :=
  if intent.startSource.isSome then
    { started with
      runId := some intent.nonce
      source := intent.startSource
      planRevision := intent.startPlanRevision
      profileSha256 := intent.startProfileSha256
      startMultiplier := some started.multiplier
      startForce := intent.startForce
      startTotal := intent.startTotal
      startSynchronized := intent.startSynchronized
      startClearExisting := intent.startClearExisting
      startedAt := some now
      endedAt := none
      startEvidence := some evidence
      cleanupEvidence := none
      updatedAt := now }
  else { started with updatedAt := now }

/-- The session that a start without an expected session creates. -/
def createdSession (intent : TrafficMutationIntentState) (authority : RuntimeAuthorityIdentity)
    (promoted : TrafficSessionGroupState) (evidence : TrafficMutationEvidenceState)
    (now : Time) : TrafficSessionState where
  id := intent.nonce
  revision := if intent.startSource.isSome then 1 else 0
  evidenceVersion := if intent.startSource.isSome then some .one else none
  authority := authority
  state := aggregateState [promoted]
  startedAt := now
  updatedAt := now
  groups := [promoted]
  mutationEvidence := if intent.startSource.isSome then [evidence] else []
  reconciliation := some "promoted from durable traffic start intent"

def joinedSession (intent : TrafficMutationIntentState) (promoted : TrafficSessionGroupState)
    (evidence : TrafficMutationEvidenceState) (now : Time) (session : TrafficSessionState) :
    TrafficSessionState :=
  let groups := session.groups.filter (fun g => !g.meets intent.ports) ++ [promoted]
  { session with
    groups := groups
    completedGroups := session.completedGroups ++ session.groups.filter (·.meets intent.ports)
    revision := session.revision + 1
    mutationEvidence := session.mutationEvidence ++ [evidence]
    state := aggregateState groups
    updatedAt := now
    endedAt := none
    reconciliation := some "promoted from durable traffic start intent" }

def promoteStart (intent : TrafficMutationIntentState) (authority : RuntimeAuthorityIdentity)
    (ownedSessionId : Option Uuid) (evidence : TrafficMutationEvidenceState) (now : Time)
    (existing : Option TrafficSessionState) : Except TrafficError TrafficSessionState :=
  match intent.startGroup with
  | none => .error (.plain "traffic start intent is missing its exact group")
  | some started =>
    let promoted := promotedGroup intent started evidence now
    match intent.expectedSessionId, existing with
    | some _, none => .error (.sessionIdConflict
        "the managed traffic session changed before start promotion")
    | some id, some session =>
      if session.id ≠ id ∨ some session.id ≠ ownedSessionId
          ∨ session.state.safelyActive = false ∨ session.authority ≠ authority then
        .error (.sessionIdConflict
          "the managed traffic session changed before start promotion")
      else
        if (session.groups.filter (·.meets intent.ports)).any fun g =>
            decide (g.state ≠ .stopped) then
          .error (.sessionIdConflict
            "an active traffic group cannot be replaced by a new run")
        else .ok (joinedSession intent promoted evidence now session)
    | none, existing =>
      if existing.any fun session => decide (session.state ≠ .stopped) then
        .error (.sessionIdConflict
          "a managed traffic session appeared before start promotion")
      else .ok (createdSession intent authority promoted evidence now)

def promoteUpdateGroup (intent : TrafficMutationIntentState) (multiplier : String) (now : Time)
    (g : TrafficSessionGroupState) : TrafficSessionGroupState :=
  if g.coveredBy intent.ports then { g with multiplier := multiplier, updatedAt := now } else g

def promoteActionGroup (intent : TrafficMutationIntentState) (now : Time)
    (g : TrafficSessionGroupState) : TrafficSessionGroupState :=
  if g.meets intent.ports then
    let portStates := g.portStates.updateKeys (g.ports.filter (· ∈ intent.ports))
      fun p => intent.desiredPortStates.getD p .unknown
    let state := aggregatePortStates portStates
    { g with
      portStates := portStates
      state := state
      hardStopAt := if state = .stopped then none else g.hardStopAt
      updatedAt := now }
  else g

/-- The cleanup evidence that a promoted action leaves on a group it stopped. -/
def cleanActionGroup (intent : TrafficMutationIntentState) (mode : TrafficCompletionMode)
    (now : Time) (g : TrafficSessionGroupState) : TrafficSessionGroupState :=
  if g.state = .stopped ∧ g.cleanupEvidence = none then
    { g with
      endedAt := some now
      cleanupEvidence := some (commandedCleanup mode now g.ports intent.nonce) }
  else g

/-- What every promoted mutation other than a start does to its session. -/
def finishedSession (intent : TrafficMutationIntentState)
    (evidence : TrafficMutationEvidenceState) (now : Time)
    (before edited : TrafficSessionState) : TrafficSessionState :=
  { edited with
    revision :=
      if before.evidenceVersion = some .one then before.revision + 1 else before.revision
    mutationEvidence :=
      if before.evidenceVersion = some .one then before.mutationEvidence ++ [evidence]
      else before.mutationEvidence
    updatedAt := now
    reconciliation :=
      some s!"promoted from durable traffic {intent.operation.text} intent" }

def actedGroups (intent : TrafficMutationIntentState) (mode : TrafficCompletionMode)
    (now : Time) (session : TrafficSessionState) : List TrafficSessionGroupState :=
  let acted := session.groups.map (promoteActionGroup intent now)
  if session.evidenceVersion = some .one then acted.map (cleanActionGroup intent mode now)
  else acted

def promoteMutation (intent : TrafficMutationIntentState) (authority : RuntimeAuthorityIdentity)
    (mode : TrafficCompletionMode) (ownedSessionId : Option Uuid)
    (evidence : TrafficMutationEvidenceState) (now : Time)
    (existing : Option TrafficSessionState) : Except TrafficError TrafficSessionState :=
  match existing with
  | none => .error (.sessionIdConflict
      "the managed traffic session changed before mutation promotion")
  | some session =>
    if some session.id ≠ intent.expectedSessionId ∨ some session.id ≠ ownedSessionId
        ∨ session.authority ≠ authority then
      .error (.sessionIdConflict
        "the managed traffic session changed before mutation promotion")
    else
      if intent.operation = .update then
        match intent.updateMultiplier with
        | none => .error (.plain "traffic update intent is missing its multiplier")
        | some multiplier =>
          if session.groups.any (·.coveredBy intent.ports) then
            .ok (finishedSession intent evidence now session { session with
              groups := session.groups.map (promoteUpdateGroup intent multiplier now) })
          else .error (.plain "traffic update intent does not cover a managed group")
      else if session.groups.any (·.meets intent.ports) then
        let state := aggregateState (session.groups.map (promoteActionGroup intent now))
        .ok (finishedSession intent evidence now session { session with
          groups := actedGroups intent mode now session
          state := state
          endedAt := if state = .stopped then some now else none })
      else .error (.plain "traffic action intent does not cover a managed port")

/-- `promote` of `_promote_traffic_mutation_intent`. -/
def promote (intentNonce : Uuid) (expectedOperation : TrafficOperation)
    (authority : RuntimeAuthorityIdentity) (mode : TrafficCompletionMode)
    (ownedSessionId : Option Uuid) (now : Time) (document : RuntimeStateDocument) :
    MutationResult :=
  match document.trafficMutationIntent with
  | none => .error (.sessionIdConflict
      "the durable traffic mutation intent changed before promotion")
  | some intent =>
    if intent.nonce ≠ intentNonce ∨ intent.operation ≠ expectedOperation then
      .error (.sessionIdConflict
        "the durable traffic mutation intent changed before promotion")
    else if intent.authority ≠ authority then
      .error (.authorityMismatch "traffic mutation crossed a daemon generation boundary")
    else if document.trafficSession ≠ intent.sessionBefore then
      .error (.sessionIdConflict
        "the managed traffic session changed before mutation promotion")
    else do
      let evidence ← intent.evidence mode now
      let session ←
        if intent.operation = .start then
          promoteStart intent authority ownedSessionId evidence now document.trafficSession
        else
          promoteMutation intent authority mode ownedSessionId evidence now
            document.trafficSession
      return some { document with
        trafficSession := some session
        trafficMutationIntent := none }

/-! ## Reconciliation -/

/-- The state of a group's ports as `_reconcile_session` sees it. -/
def reconciledPortStates (evidenced owned : Bool) (live : Dict Port PortState)
    (g : TrafficSessionGroupState) : Dict Port PortState :=
  if evidenced && g.cleanupEvidence.isSome then g.stoppedStates
  else if owned then .ofKeys g.ports fun p => live.getD p .unknown
  else .ofKeys g.ports fun p =>
    if live.getD p .unknown = .stopped then .stopped else .unknown

/-- One step of the loop of `_reconcile_session`. -/
def reconcileGroup (evidenced owned : Bool) (live : Dict Port PortState) (now : Time)
    (g : TrafficSessionGroupState) : TrafficSessionGroupState :=
  let portStates := reconciledPortStates evidenced owned live g
  let state := aggregatePortStates portStates
  let hardStopAt := if state = .stopped then none else g.hardStopAt
  if g.state = state ∧ g.portStates = portStates ∧ g.hardStopAt = hardStopAt then g
  else
    let updated := { g with
      state := state, portStates := portStates, hardStopAt := hardStopAt, updatedAt := now }
    if evidenced && decide (state = .stopped) && g.cleanupEvidence.isNone then
      { updated with
        endedAt := some now
        cleanupEvidence := some (observedCleanup now g.ports) }
    else updated

/-- `persist` of `_reconcile_session`. -/
def persistReconciled (sessionId : Uuid) (groups : List TrafficSessionGroupState)
    (now : Time) (reconciliation : String) (current : RuntimeStateDocument) :
    MutationResult :=
  match current.trafficSession with
  | none => .ok none
  | some session =>
    if session.id ≠ sessionId then .ok none
    else
      let aggregate := aggregateState groups
      .ok (some { current with
        trafficSession := some { session with
          groups := groups
          state := aggregate
          updatedAt := now
          endedAt := if aggregate = .stopped then some (session.endedAt.getD now) else none
          revision := session.revision + 1
          reconciliation := some reconciliation } })

/-! ## All mutations -/

/-- A closure with the values it closes over. -/
inductive Mutation where
  | clearStopped (expectedSessionId : Uuid)
  | retire (expectedSessionId expectedIntentNonce : Option Uuid) (now : Time)
  | retainAfterStop (session : TrafficSessionState) (intent : TrafficMutationIntentState)
      (leaseIdentity : List (List Port × Option Time)) (expiredGroupPorts : List Port)
      (now : Time)
  | supersede (session : TrafficSessionState) (intent : TrafficMutationIntentState)
      (currentAuthority : RuntimeAuthorityIdentity)
      (leaseIdentity : List (List Port × Option Time)) (observedAt : Time)
      (hardStopIntent : TrafficMutationIntentState)
  | replace (expectedRevision : Nat) (groups : List TrafficGroupState)
  | initializePlan (groups : List TrafficGroupState)
  | prepare (intent : TrafficMutationIntentState) (ownedSessionId : Option Uuid)
  | advance (intentNonce : Uuid) (stage : HardwareStage)
      (streamIds : Option (Dict Port (List Nat)))
      (budget : TrafficMutationIntentState → Option String)
  | retain (intentNonce : Uuid) (reason : String)
  | clear (intentNonce : Uuid) (sessionBefore : Option TrafficSessionState)
  | retireAfterRollover (intentNonce : Uuid) (previousAuthority : RuntimeAuthorityIdentity)
      (now : Time)
  | promote (intentNonce : Uuid) (expectedOperation : TrafficOperation)
      (authority : RuntimeAuthorityIdentity) (mode : TrafficCompletionMode)
      (ownedSessionId : Option Uuid) (now : Time)
  | persistReconciled (sessionId : Uuid) (groups : List TrafficSessionGroupState)
      (now : Time) (reconciliation : String)

def Mutation.apply : Mutation → RuntimeStateDocument → MutationResult
  | .clearStopped id => TrexWebui.clearStopped id
  | .retire id nonce now => TrexWebui.retire id nonce now
  | .retainAfterStop session intent identity ports now =>
      TrexWebui.retainAfterStop session intent identity ports now
  | .supersede session intent authority identity observedAt hardStop =>
      TrexWebui.supersede session intent authority identity observedAt hardStop
  | .replace revision groups => TrexWebui.replace revision groups
  | .initializePlan groups => TrexWebui.initializePlan groups
  | .prepare intent owned => TrexWebui.prepare intent owned
  | .advance nonce stage ids budget => TrexWebui.advance nonce stage ids budget
  | .retain nonce reason => TrexWebui.retain nonce reason
  | .clear nonce session => TrexWebui.clear nonce session
  | .retireAfterRollover nonce authority now =>
      TrexWebui.retireAfterRollover nonce authority now
  | .promote nonce operation authority mode owned now =>
      TrexWebui.promote nonce operation authority mode owned now
  | .persistReconciled id groups now reconciliation =>
      TrexWebui.persistReconciled id groups now reconciliation

end TrexWebui
