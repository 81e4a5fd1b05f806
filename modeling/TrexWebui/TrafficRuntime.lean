import TrexWebui.TrafficRecovery

/-!
# The operations of the traffic authority

The public methods of `TrafficRuntimeAuthority`. Each of them runs under the
process-wide mutation fence, so they exclude one another: a run of the
authority is a sequence of whole operations, cut short only where the
process ends.
-/

namespace TrexWebui

open OracleProgram

section

variable (env : TrafficEnvironment)

def withinBudget {α : Type} (deadlines : List Time) (operation : String) (rpcCount : Nat)
    (rest : TrafficM (CallResult α)) : TrafficM (CallResult α) := do
  match ← hardStopRpcBudgetFailure env deadlines operation rpcCount with
  | some f => pure (.failed f)
  | none => rest

/-- Go on if the persisted connection target is the one of this service. -/
def withConnectionTarget {α : Type} (rest : TrafficM (CallResult α)) :
    TrafficM (CallResult α) := do
  match ← connectionTargetFailure env with
  | some f => pure (.failed f)
  | none => rest

def onSuccess {α β : Type} (call : TrafficM (CallResult α))
    (rest : α → TrafficM (CallResult β)) : TrafficM (CallResult β) := do
  match ← call with
  | .failed f => pure (.failed f)
  | .ok data => rest data

def TrafficSessionState.leasedDeadlines (session : TrafficSessionState) : List Time :=
  (session.groups.filter (·.leased)).filterMap (·.hardStopAt)

def prepareFailure {α : Type} (operation : String) (exc : TrafficError) : CallResult α :=
  match exc with
  | .runtimeState .sessionIdConflict message =>
      failure "traffic_session_id_conflict" message
  | .runtimeState .recoveryRequired message =>
      failure "traffic_mutation_recovery_required" message
  | exc => failure "traffic_state_persist_failed"
      s!"cannot persist traffic {operation} intent: {exc.text}"

/-- The failed call of a mutation that the session does not admit. -/
def mutationAuthorityFailure {α : Type} (exc : TrafficError) : CallResult α :=
  match exc with
  | .runtimeState .sessionIdConflict message =>
      failure "traffic_session_id_conflict" message
  | .runtimeState .partialGroupUpdate message =>
      failure "traffic_group_partial_update" message
  | .runtimeState .recoveryRequired message =>
      failure "traffic_mutation_recovery_required" message
  | exc => failure "traffic_session_unowned" exc.text

def abandonIntent {α : Type} (operation : String) (intent : TrafficMutationIntentState)
    (sessionBefore : TrafficSessionState) (f : Failure) : TrafficM (CallResult α) := do
  retainFailedMutationIntent env intent.nonce
    s!"hard-stop lease budget expired before {operation} RPC"
  guarded TrafficError.isRuntimeState
    (clearTrafficMutationIntent env intent.nonce (some sessionBefore))
    (fun exc => pure (failure "traffic_mutation_recovery_required"
      (s!"traffic {operation} was not sent; its fail-closed WAL could not be cleared after "
        ++ s!"lease-budget expiry and must remain for the supervisor: {exc.text}")))
    fun _ => pure (.failed f)

def promoteOrRetain {α β : Type} (operation : String) (authority : RuntimeAuthorityIdentity)
    (intent : TrafficMutationIntentState) (persist : TrafficM α)
    (rest : α → TrafficM (CallResult β)) : TrafficM (CallResult β) :=
  guarded TrafficError.isRuntimeState
    (do
      assertAuthorityUnchanged env authority
      persist)
    (fun exc => do
      retainFailedMutationIntent env intent.nonce exc.text
      pure (failure "traffic_mutation_recovery_required"
        (s!"traffic {operation} reached TRex but durable promotion failed; intent {
          intent.nonce} remains authoritative: {exc.text}")))
    rest

/-! ## Starts -/

/-- The groups of the session that a start would replace while they are active. -/
def activeOverlaps (document : RuntimeStateDocument) (targetPorts : List Port) : List String :=
  (((document.trafficSession.map (·.groups)).getD []).filter fun g =>
    g.meets targetPorts && decide (g.state ≠ .stopped)).map fun g =>
      match g.groupId.filter (· ≠ "") with
      | some id => id
      | none => "/".intercalate (g.ports.map fun p => s!"P{p}")

def startGroupState (group : TrafficGroupState) (persistedGroupId : Option String)
    (targetPorts : List Port) (profilePath : String) (hardStopAt : Option Time)
    (now : Time) : TrafficSessionGroupState where
  groupId := persistedGroupId
  ports := targetPorts
  profilePath := profilePath
  multiplier := group.multiplier
  duration := group.duration
  hardStopAt := hardStopAt
  tunables := group.tunables
  state := .running
  portStates := .ofKeys targetPorts fun _ => .running
  updatedAt := now

def normalizeHardStopAt (deadline now : Time) : Except String Time :=
  if deadline ≤ now then .error "hard_stop_at must be in the future"
  else if now + TRAFFIC_HARD_STOP_MAX_WINDOW < deadline then
    .error "hard_stop_at exceeds the maximum 300-second safety window"
  else .ok deadline

/-- The requested lease of a start; a text that is no timestamp is its parse error. -/
def requestedHardStop (hardStopAt : Option (Except String Time)) :
    TrafficQuery (Except String (Option Time)) :=
  match hardStopAt with
  | none => pure (.ok none)
  | some parsed => do
    let now ← clock env
    pure ((parsed.bind fun deadline => normalizeHardStopAt deadline now).map some)

/-- What a start is asked to do. -/
structure StartRequest where
  group : TrafficGroupState
  expectedSessionId : Option Uuid
  hardStopAt : Option (Except String Time)
  source : TrafficStartSource
  planRevision : Option Nat
  persistedGroupId : Option String := none
  portsOverride : Option (List Port) := none

def StartRequest.targetPorts (request : StartRequest) : List Port :=
  request.portsOverride.getD request.group.ports

def executeStart (request : StartRequest) (profilePath : String)
    (authority : RuntimeAuthorityIdentity) (intent : TrafficMutationIntentState) :
    TrafficM (CallResult StartData) := do
  let group := request.group
  match ← startProfile env profilePath (some request.targetPorts) {
        multiplier := group.multiplier
        duration := group.duration
        force := group.force
        total := group.total
        synchronized := group.synchronized
        clearExisting := group.clearExisting
        tunables := group.tunables }
      (trafficStartPreflight env) (advanceStartIntentStage env intent.nonce) with
  | .failed f => do
    let detail := f.detail "traffic start failed"
    retainFailedMutationIntent env intent.nonce detail
    pure (failure "traffic_mutation_recovery_required"
      (s!"traffic start did not complete cleanly; durable intent {intent.nonce} was retained "
        ++ s!"for exact rollback or fail-closed recovery. TRex reported: {detail}"))
  | .ok data =>
    promoteOrRetain env "start" authority intent (persistStart env authority intent.nonce)
      fun session => do
        setOwned (some session.id)
        pure (.ok { data with statePersisted := true, session := some session })

def startDraft (request : StartRequest) (authority : RuntimeAuthorityIdentity)
    (sessionBefore : Option TrafficSessionState) (startGroup : TrafficSessionGroupState)
    (digest : Sha256) (baseline : MutationBaseline) (nonce : Uuid) (preparedAt : Time) :
    TrafficMutationIntentState where
  nonce := nonce
  operation := .start
  authority := authority
  expectedSessionId := request.expectedSessionId
  ports := request.targetPorts
  baselinePortStates := baseline.portStates
  desiredPortStates := .ofKeys request.targetPorts fun _ => .running
  sessionBefore := sessionBefore
  startGroup := some startGroup
  startSource := some request.source
  startPlanRevision := request.planRevision
  startProfileSha256 := some digest
  startClearExisting := some request.group.clearExisting
  startForce := some request.group.force
  startTotal := some request.group.total
  startSynchronized := some request.group.synchronized
  baselineAcquiredPorts := baseline.acquiredPorts
  preparedAt := preparedAt

def startFromBaseline (request : StartRequest) (hardStopAt : Option Time)
    (authority : RuntimeAuthorityIdentity) (current : RuntimeStateDocument)
    (profilePath : String) (digest : Sha256) (deadlines : List Time)
    (configuredPorts : List Port) : TrafficM (CallResult StartData) := do
  match ← sampleStartMutationBaseline env configuredPorts request.targetPorts with
  | .failed f => pure (.failed f)
  | .ok baseline =>
    let conflict := current.trafficSession.bind (sessionBaselineFailure · baseline.portStates)
    match (if request.expectedSessionId.isSome then conflict else none) with
    | some f => pure (.failed f)
    | none =>
      withinBudget env deadlines "start" 3 do
        let now ← utcNowIso env
        let startGroup := startGroupState request.group request.persistedGroupId
          request.targetPorts profilePath hardStopAt now
        raiseIf (¬startGroup.Valid) (TrafficError.validation "traffic session group is invalid")
        guarded TrafficError.isRuntimeState
          (prepareTrafficMutationIntent env (startDraft request authority
            current.trafficSession startGroup digest baseline))
          (fun exc => pure (prepareFailure "start" exc))
          fun intent => executeStart env request profilePath authority intent

/-- `_start`. -/
def startRequested (request : StartRequest) : TrafficM (CallResult StartData) := do
  match ← requestedHardStop env request.hardStopAt with
  | .error message => pure (failure "traffic_hard_stop_invalid" message)
  | .ok hardStopAt =>
    withinBudget env hardStopAt.toList "start" 1 do
    guarded TrafficError.isRuntimeState (currentAuthority env)
      (fun exc => pure (failure "traffic_runtime_authority_invalid" exc.text))
      fun authority =>
    guarded TrafficError.isRuntimeState (liftM (load env))
      (fun exc => pure (failure "traffic_runtime_state_invalid" exc.text))
      fun current => do
    let owned ← ownedSession
    match assertStartSessionAuthority current authority request.expectedSessionId owned with
    | .error exc => match exc with
      | .runtimeState .sessionIdConflict message =>
          pure (failure "traffic_session_id_conflict" message)
      | exc => pure (failure "traffic_mutation_recovery_required" exc.text)
    | .ok () =>
    let deadlines := ((current.trafficSession.map (·.leasedDeadlines)).getD [])
      ++ hardStopAt.toList
    withinBudget env deadlines "start" 1 do
    let staleCaptureIds := current.captureLeases.filter fun l => l.authority ≠ authority
    if staleCaptureIds ≠ [] then
      pure (failure "traffic_runtime_authority_invalid"
        "capture leases belong to a different TRex target or daemon generation")
    else if activeOverlaps current request.targetPorts ≠ [] then
      pure (failure "traffic_group_runtime_busy"
        ("traffic start cannot replace active managed groups: "
          ++ ", ".intercalate (activeOverlaps current request.targetPorts)))
    else match ← ask env (.resolveProfile request.group.profilePath) with
    | .error f => pure (.failed f)
    | .ok profilePath =>
    guarded TrafficError.isRuntimeState (liftM (profileSha256 env profilePath))
      (fun exc => pure (failure "traffic_profile_identity_invalid" exc.text))
      fun digest =>
    guarded TrafficError.isRuntimeState (liftM (loadConfig env))
      (fun exc => pure (failure "traffic_runtime_state_invalid" exc.text))
      fun config =>
    withinBudget env deadlines "start baseline"
      (config.portLimit + request.targetPorts.length + 4)
      (startFromBaseline env request hardStopAt authority current profilePath digest deadlines
        config.ports)

def startGroup (groupId : String) (expectedRevision : Nat) (expectedSessionId : Option Uuid)
    (hardStopAt : Option (Except String Time) := none) : TrafficM (CallResult StartData) :=
  withConnectionTarget env <|
  guarded TrafficError.isRuntimeState (liftM (load env))
    (fun exc => pure (failure "traffic_runtime_state_invalid" exc.text))
    fun document =>
    if document.trafficPlanRevision ≠ expectedRevision then
      pure (failure "traffic_plan_revision_conflict" s!"traffic plan revision is {
        document.trafficPlanRevision}, not {expectedRevision}")
    else match document.trafficGroups.find? fun g => g.id = groupId with
    | none => pure (failure "traffic_group_not_found"
        s!"traffic group '{groupId}' does not exist")
    | some group => startRequested env {
        group := group
        expectedSessionId := expectedSessionId
        hardStopAt := hardStopAt
        source := .plan
        planRevision := some expectedRevision
        persistedGroupId := some group.id }

/-- `start`, of an ad hoc group. -/
def start (expectedSessionId : Option Uuid) (profilePath : String) (ports : Option (List Port))
    (command : StartCommand) (hardStopAt : Option (Except String Time) := none) :
    TrafficM (CallResult StartData) :=
  withConnectionTarget env <|
  match normalizePortList ports with
  | .failed f => pure (.failed f)
  | .ok normalizedPorts =>
    guarded TrafficError.isRuntimeState
      (do
        let _ ← load env
        match normalizedPorts with
        | some ports => pure ports
        | none => do
          let config ← loadConfig env
          pure config.ports : TrafficM (List Port))
      (fun exc => pure (failure "traffic_runtime_state_invalid" exc.text))
      fun fallbackPorts =>
      let group : TrafficGroupState := {
        id := "ad-hoc"
        name := "Ad hoc traffic"
        ports := fallbackPorts
        profilePath := profilePath
        multiplier := command.multiplier
        duration := command.duration
        force := command.force
        total := command.total
        synchronized := command.synchronized
        clearExisting := command.clearExisting
        tunables := command.tunables }
      if group.Valid then
        startRequested env {
          group := group
          expectedSessionId := expectedSessionId
          hardStopAt := hardStopAt
          source := .adHoc
          planRevision := none
          portsOverride := normalizedPorts }
      else pure (failure "traffic_start_invalid" "traffic group is invalid")

/-! ## Updates -/

def updateDraft (authority : RuntimeAuthorityIdentity) (expectedSessionId : Option Uuid)
    (targetPorts : List Port) (baseline : MutationBaseline)
    (sessionBefore : TrafficSessionState) (multiplier : String) (force total : Bool)
    (nonce : Uuid) (preparedAt : Time) : TrafficMutationIntentState where
  nonce := nonce
  operation := .update
  authority := authority
  expectedSessionId := expectedSessionId
  ports := targetPorts
  baselinePortStates := baseline.portStates
  desiredPortStates := .ofKeys targetPorts fun p => baseline.portStates.getD p .unknown
  sessionBefore := some sessionBefore
  baselineAcquiredPorts := baseline.acquiredPorts
  updateMultiplier := some multiplier
  updateForce := some force
  updateTotal := some total
  preparedAt := preparedAt

def executeUpdate (authority : RuntimeAuthorityIdentity) (targetPorts : List Port)
    (sessionBefore : TrafficSessionState) (multiplier : String) (force total : Bool)
    (intent : TrafficMutationIntentState) : TrafficM (CallResult UpdateData) := do
  match ← hardStopRpcBudgetFailure env sessionBefore.leasedDeadlines "update" 4 with
  | some f => abandonIntent env "update" intent sessionBefore f
  | none =>
    match ← updateTraffic env (some targetPorts) multiplier force total with
    | .failed f => do
      retainFailedMutationIntent env intent.nonce (f.detail "traffic update failed")
      pure (failure "traffic_mutation_recovery_required"
        (s!"traffic update returned an indeterminate live result; durable intent {
          intent.nonce} was retained fail-closed. A later read will not retry an RPC that "
          ++ "returned failure."))
    | .ok data =>
      promoteOrRetain env "update" authority intent
        (persistUpdate env authority intent.nonce)
        fun session => pure (.ok { data with statePersisted := true, session := session })

def update (ports : Option (List Port)) (multiplier : String) (force total : Bool)
    (expectedSessionId : Option Uuid) : TrafficM (CallResult UpdateData) :=
  withConnectionTarget env <|
  match normalizePortList ports with
  | .failed f => pure (.failed f)
  | .ok normalizedPorts =>
    guarded TrafficError.isRuntimeState
      (assertSessionMutationAuthority env normalizedPorts expectedSessionId true)
      (fun exc => pure (mutationAuthorityFailure exc))
      fun (authority, targetPorts, sessionBefore) =>
    if sessionBefore.evidenceVersion ≠ some .one then
      pure (failure "traffic_session_evidence_unavailable"
        ("legacy traffic sessions may only be stopped; start a new session before updating "
          ++ "traffic"))
    else
    withinBudget env sessionBefore.leasedDeadlines "update" 1 <|
    guarded TrafficError.isRuntimeState (liftM (loadConfig env))
      (fun exc => pure (failure "traffic_runtime_state_invalid" exc.text))
      fun config =>
    withinBudget env sessionBefore.leasedDeadlines "update baseline" (config.portLimit + 2) <|
    onSuccess (liftM (sampleSessionMutationBaseline env config.ports targetPorts))
      fun baseline =>
    match sessionBaselineFailure sessionBefore baseline.portStates with
    | some f => pure (.failed f)
    | none =>
    withinBudget env sessionBefore.leasedDeadlines "update" 4 <|
    guarded TrafficError.isRuntimeState
      (prepareTrafficMutationIntent env (updateDraft authority expectedSessionId targetPorts
        baseline sessionBefore multiplier force total))
      (fun exc => pure (prepareFailure "update" exc))
      fun intent => executeUpdate env authority targetPorts sessionBefore multiplier force total
        intent

/-! ## Stop, pause and resume -/

def TrafficOperation.nextState : TrafficOperation → PortState
  | .pause => .paused
  | .resume => .running
  | .stop | .start | .update => .stopped

def TrafficSessionGroupState.activePorts (g : TrafficSessionGroupState) : List Port :=
  g.ports.filter fun p => (g.portStates.getD p .unknown).active

/-- The leases that an action has to leave time for: a stop need not wait for the
groups whose active ports it stops. -/
def guardedDeadlines (action : TrafficOperation) (session : TrafficSessionState)
    (targetPorts : List Port) : List Time :=
  (session.groups.filter fun g => g.leased
    && (decide (action ≠ .stop) || g.activePorts.any (· ∉ targetPorts))).filterMap
      (·.hardStopAt)

def finiteGroups (session : TrafficSessionState) (targetPorts : List Port) :
    List TrafficSessionGroupState :=
  session.groups.filter fun g => g.duration.positive && g.meets targetPorts

def actionDraft (action : TrafficOperation) (authority : RuntimeAuthorityIdentity)
    (expectedSessionId : Option Uuid) (targetPorts : List Port) (baseline : MutationBaseline)
    (sessionBefore : TrafficSessionState) (nonce : Uuid) (preparedAt : Time) :
    TrafficMutationIntentState where
  nonce := nonce
  operation := action
  authority := authority
  expectedSessionId := expectedSessionId
  ports := targetPorts
  baselinePortStates := baseline.portStates
  desiredPortStates := .ofKeys targetPorts fun _ => action.nextState
  sessionBefore := some sessionBefore
  baselineAcquiredPorts := baseline.acquiredPorts
  preparedAt := preparedAt

def executeAction (action : TrafficOperation) (authority : RuntimeAuthorityIdentity)
    (targetPorts : List Port) (sessionBefore : TrafficSessionState)
    (intent : TrafficMutationIntentState) : TrafficM (CallResult ActionData) := do
  let deadlines := guardedDeadlines action sessionBefore targetPorts
  match ← hardStopRpcBudgetFailure env deadlines action.text 4 with
  | some f => abandonIntent env action.text intent sessionBefore f
  | none =>
    match ← trafficAction env action (some targetPorts) with
    | .failed f => do
      retainFailedMutationIntent env intent.nonce (f.detail s!"traffic {action.text} failed")
      pure (failure "traffic_mutation_recovery_required"
        (s!"traffic {action.text} returned an indeterminate live result; durable intent {
          intent.nonce} was retained fail-closed. A later read will not apply the action to "
          ++ "additional ports."))
    | .ok data =>
      promoteOrRetain env action.text authority intent
        (persistAction env action authority intent.nonce)
        fun session => pure (.ok { data with statePersisted := true, session := session })

def action (action : TrafficOperation) (ports : Option (List Port))
    (expectedSessionId : Option Uuid) : TrafficM (CallResult ActionData) :=
  if action.isAction = false then
    pure (failure "unsupported_traffic_action" s!"unsupported action: {action.text}")
  else
  withConnectionTarget env <|
  match normalizePortList ports with
  | .failed f => pure (.failed f)
  | .ok normalizedPorts =>
    guarded TrafficError.isRuntimeState
      (assertSessionMutationAuthority env normalizedPorts expectedSessionId)
      (fun exc => pure (mutationAuthorityFailure exc))
      fun (authority, targetPorts, sessionBefore) =>
    if sessionBefore.evidenceVersion ≠ some .one ∧ action ≠ .stop then
      pure (failure "traffic_session_evidence_unavailable"
        (s!"legacy traffic sessions may only be stopped; start a new session before traffic {
          action.text}"))
    else
    let deadlines := guardedDeadlines action sessionBefore targetPorts
    withinBudget env deadlines action.text 1 <|
    if action = .pause ∧ finiteGroups sessionBefore targetPorts ≠ [] then
      pure (failure "traffic_pause_unsupported_finite_duration"
        "TRex pause requires a duration-disabled start")
    else
    guarded TrafficError.isRuntimeState (liftM (loadConfig env))
      (fun exc => pure (failure "traffic_runtime_state_invalid" exc.text))
      fun config =>
    withinBudget env deadlines (action.text ++ " baseline") (config.portLimit + 2) <|
    onSuccess (liftM (sampleSessionMutationBaseline env config.ports targetPorts))
      fun baseline =>
    match sessionBaselineFailure sessionBefore baseline.portStates with
    | some f => pure (.failed f)
    | none =>
    withinBudget env deadlines action.text 4 <|
    guarded TrafficError.isRuntimeState
      (prepareTrafficMutationIntent env (actionDraft action authority expectedSessionId
        targetPorts baseline sessionBefore))
      (fun exc => pure (prepareFailure action.text exc))
      fun intent => executeAction env action authority targetPorts sessionBefore intent

/-! ## The plan -/

/-- `_validated_groups`: the groups with their resolved profile paths. -/
def validatedGroups (config : TrexConfig) : (earlier groups : List TrafficGroupState) →
    TrafficQuery (List TrafficGroupState)
  | _, [] => pure []
  | earlier, group :: rest => do
    raiseIf (¬group.Valid) (TrafficError.validation "traffic group is invalid")
    raiseIf (group.id ∈ earlier.map (·.id))
      (TrafficError.value s!"traffic group id must be unique: {group.id}")
    raiseIf (group.ports.any (· ∉ config.ports) = true)
      (TrafficError.value s!"traffic group '{group.id}' contains unknown ports: {
        sortedSet (group.ports.filter (· ∉ config.ports))}")
    raiseIf (earlier.any (fun g => group.ports.any (· ∈ g.ports)) = true)
      (TrafficError.value "traffic group ports must not overlap")
    match ← ask env (.resolveProfile group.profilePath) with
    | .error f => throw (.value (s!"traffic group '{group.id}' profile is invalid: "
        ++ f.detail "profile resolution failed"))
    | .ok path => do
      let resolved := { group with profilePath := path }
      let others ← validatedGroups config (earlier ++ [resolved]) rest
      pure (resolved :: others)

def replacePlan (expectedRevision : Nat) (groups : List TrafficGroupState) :
    TrafficM (CallResult SnapshotPayload) :=
  withConnectionTarget env <|
  guarded TrafficError.isRuntimeState (currentAuthority env)
    (fun exc => pure (failure "traffic_runtime_authority_invalid" exc.text))
    fun authority =>
  guarded TrafficError.isException
    (do
      let config ← loadConfig env
      let normalizedGroups ← validatedGroups env config [] groups
      let document ← storeUpdate env (.replace expectedRevision normalizedGroups)
      pure (config, document))
    (fun exc => match exc with
      | .planRevisionConflict message =>
          pure (failure "traffic_plan_revision_conflict" message)
      | .planRuntimeBusy message => pure (failure "traffic_plan_runtime_busy" message)
      | .runtimeState _ message => pure (failure "traffic_runtime_state_invalid" message)
      | .validation message | .value message => pure (failure "traffic_plan_invalid" message)
      | exc => throw exc)
    fun (config, document) =>
      liftM (snapshotResult env document config (unknownStates config.ports)
        "plan updated; live state not sampled" authority false)

end

end TrexWebui
