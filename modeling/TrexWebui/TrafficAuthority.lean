import TrexWebui.TrafficOperations

/-!
# The write-ahead intents of the traffic authority

The internal methods of `TrafficRuntimeAuthority` up to, but not including,
recovery: the lease budget, the sampling of baselines, the durable intent
with its stages, its promotion, its retention and its removal, and the
rollback and the replay of a start.
-/

namespace TrexWebui

open OracleProgram

/-! ## The lease budget -/

/-- `TRAFFIC_HARD_STOP_RPC_MARGIN_SECONDS`, in microseconds. -/
def TRAFFIC_HARD_STOP_RPC_MARGIN : Nat := 1000000

/-- `TRAFFIC_HARD_STOP_MAX_WINDOW_SECONDS`, in microseconds. -/
def TRAFFIC_HARD_STOP_MAX_WINDOW : Nat := 300 * 1000000

def DEFAULT_TRAFFIC_PROFILE : String := "udp_1pkt_simple.py"

section

variable (env : TrafficEnvironment)

/-- What the budget of `rpcCount` round trips needs, in microseconds. -/
def requiredWindow (rpcCount : Nat) : Nat :=
  env.connectTimeoutSeconds * rpcCount * 1000000 + TRAFFIC_HARD_STOP_RPC_MARGIN

/-- The comparison of `_hard_stop_rpc_budget_failure`, after the clock was read. -/
def rpcBudgetFailure (now : Time) (deadlines : List Time) (operation : String)
    (rpcCount : Nat) : Option Failure :=
  match (deadlines.map fun deadline => (deadline : Int) - now).min? with
  | none => none
  | some remaining =>
    let required : Int := requiredWindow env rpcCount
    if required < remaining then none
    else some {
      blocker := some "traffic_hard_stop_window_insufficient"
      error := some (s!"traffic {operation} is blocked because the hard-stop lease has only "
        ++ s!"{PyText.secondsText (max 0 remaining)}s remaining; more than "
        ++ s!"{PyText.secondsText required}s is required to cover the configured TRex RPC "
        ++ "timeout and supervisor polling margin")
      data := some (.budget operation rpcCount (max 0 remaining) required) }

def hardStopRpcBudgetFailure (deadlines : List Time) (operation : String)
    (rpcCount : Nat := 1) : TrafficQuery (Option Failure) := do
  if deadlines = [] then pure none
  else
    raiseIf (rpcCount < 1) (TrafficError.value "traffic RPC budget count must be positive")
    let now ← clock env
    pure (rpcBudgetFailure env now deadlines operation rpcCount)

/-! ## The connection target and the session -/

/-- `assert_persisted_connection_target`. -/
def connectionTargetMatches (connection : RuntimeConnectionState) : Bool :=
  decide ((connection.host, connection.syncPort, connection.asyncPort, connection.scapyPort,
      connection.clientName, connection.connectTimeoutSeconds)
    = (env.host, env.syncPort, env.asyncPort, env.scapyPort, env.clientName,
      env.connectTimeoutSeconds))

def connectionTargetFailure : TrafficQuery (Option Failure) :=
  guarded TrafficError.isException (load env)
    (fun exc => pure (some {
      blocker := some "traffic_runtime_state_invalid"
      error := some ("cannot validate the persisted TRex connection target: " ++ exc.text) }))
    fun document =>
      if document.connection.all (connectionTargetMatches env) then pure none
      else pure (some {
        blocker := some "trex_runtime_connection_changed"
        error := some ("the persisted TRex connection target changed; discard this stale "
          ++ "service") })

def loadConfig : TrafficQuery TrexConfig := do
  match ← ask env .config with
  | .ok config => pure config
  | .error message => throw (.plain message)

/-- `list(range(config.port_limit))`. -/
def TrexConfig.ports (config : TrexConfig) : List Port := List.range config.portLimit

def profileSha256 (path : String) : TrafficQuery Sha256 := do
  match ← ask env (.profileSha256 path) with
  | .ok digest => pure digest
  | .error message => throw (.plain message)

def TrafficSessionState.ownedPorts (session : TrafficSessionState) : List Port :=
  sortedSet (session.groups.flatMap (·.ports))

/-- The target of a mutation of the session, from the checks of
`_assert_session_mutation_authority` that follow the loads. -/
def sessionMutationTarget (document : RuntimeStateDocument)
    (authority : RuntimeAuthorityIdentity) (ownedSessionId : Option Uuid)
    (requestedPorts : Option (List Port)) (expectedSessionId : Option Uuid)
    (requireCompleteGroups : Bool) : Except TrafficError (List Port × TrafficSessionState) :=
  if document.trafficMutationIntent ≠ none then
    .error (.recoveryRequired "a durable traffic mutation intent must be recovered first")
  else match document.trafficSession, expectedSessionId with
  | none, _ => .error (.authorityMismatch "no managed traffic session exists")
  | some _, none => .error (.sessionIdConflict
      "expected_session_id is required for traffic mutations")
  | some session, some id =>
    if session.id ≠ id then
      .error (.sessionIdConflict s!"traffic session id is {session.id}, not {id}")
    else if session.authority ≠ authority then
      .error (.authorityMismatch ("persisted traffic belongs to a different TRex target or "
        ++ "daemon generation"))
    else if session.state.safelyActive = false then
      .error (.authorityMismatch s!"managed traffic session is not safely active: {
        session.state.text}")
    else if some session.id ≠ ownedSessionId then
      .error (.authorityMismatch
        "active traffic has not been safely re-adopted by this API process")
    else if session.ownedPorts = [] then
      .error (.authorityMismatch "managed traffic session has no owned ports")
    else match requestedPorts with
    | none => .ok (session.ownedPorts, session)
    | some requested =>
      if requested = [] then
        .error (.authorityMismatch "traffic mutation requires at least one owned port")
      else if requested.any (· ∉ session.ownedPorts) then
        .error (.authorityMismatch s!"traffic mutation ports are not owned by this session: {
          sortedSet (requested.filter (· ∉ session.ownedPorts))}")
      else if requireCompleteGroups
          && session.groups.any fun g => g.meets requested && !g.coveredBy requested then
        .error (.runtimeState .partialGroupUpdate
          "traffic update must target complete managed groups")
      else .ok (requested, session)

def assertSessionMutationAuthority (requestedPorts : Option (List Port))
    (expectedSessionId : Option Uuid) (requireCompleteGroups : Bool := false) :
    TrafficM (RuntimeAuthorityIdentity × List Port × TrafficSessionState) := do
  let authority ← currentAuthority env
  let document ← load env
  let owned ← ownedSession
  let (target, session) ← liftExcept (sessionMutationTarget document authority
    owned requestedPorts expectedSessionId requireCompleteGroups)
  pure (authority, target, session)

def assertAuthorityUnchanged (expected : RuntimeAuthorityIdentity) : TrafficM Unit := do
  let observed ← currentAuthority env
  raiseIf (observed ≠ expected) (TrafficError.authorityMismatch
    "TRex target or daemon generation changed during the operation")

/-! ## Baselines -/

/-- The state of the ports and the target ports that the client holds. -/
structure MutationBaseline where
  portStates : Dict Port PortState
  acquiredPorts : List Port

/-- The states of the configured ports, if all of them are known. -/
def knownStates (configuredPorts : List Port) (states : Dict Port PortState)
    (message : String) : CallResult (Dict Port PortState) :=
  let unknownPorts := configuredPorts.filter fun p => states.getD p .unknown = .unknown
  if unknownPorts = [] then
    .ok (.ofKeys configuredPorts fun p => states.getD p .unknown)
  else failure "traffic_runtime_state_unverifiable" s!"{message}; unknown ports: {unknownPorts}"

def sampleMutationBaseline (configuredPorts : List Port) :
    TrafficQuery (CallResult (Dict Port PortState)) := do
  match ← withClient env (livePortStates env configuredPorts) with
  | .failed f => pure (.failed f)
  | .ok states => pure (knownStates configuredPorts states
      "traffic mutation requires known state for every configured port")

def sampleAcquiredPorts (targetPorts : List Port) (kind : String) :
    TrafficQuery (List Port) := do
  match ← ask env .getAcquiredPorts with
  | .ok acquired => pure (sortedSet (acquired.filter (· ∈ targetPorts)))
  | .error message => throw (.runtime
      s!"cannot sample the {kind} acquisition baseline: {message}")

/-- A sample with the ports that the client holds, if every configured port is known. -/
def sampleBaseline (configuredPorts : List Port) (sample : TrafficQuery MutationBaseline)
    (kind : String) : TrafficQuery (CallResult MutationBaseline) := do
  match ← withClient env sample with
  | .failed f => pure (.failed f)
  | .ok result =>
    match knownStates configuredPorts result.portStates (s!"traffic {kind} requires freshly "
        ++ "synchronized state for every configured port") with
    | .failed f => pure (.failed f)
    | .ok baseline => pure (.ok ⟨baseline, result.acquiredPorts⟩)

def sampleSessionMutationBaseline (configuredPorts targetPorts : List Port) :
    TrafficQuery (CallResult MutationBaseline) :=
  sampleBaseline env configuredPorts (do
    let portStates ← livePortStates env configuredPorts
    let acquiredPorts ← sampleAcquiredPorts env targetPorts "mutation"
    pure ⟨portStates, acquiredPorts⟩) "mutation"

def sampleStartMutationBaseline (configuredPorts startPorts : List Port) :
    TrafficQuery (CallResult MutationBaseline) :=
  sampleBaseline env configuredPorts (do
    trafficStartPreflight env startPorts
    let portStates ← livePortStates env configuredPorts
    let acquiredPorts ← sampleAcquiredPorts env startPorts "start"
    pure ⟨portStates, acquiredPorts⟩) "start"

/-- The live state of every port of the session's groups is the recorded one. -/
def TrafficSessionState.agreesWith (session : TrafficSessionState)
    (baseline : Dict Port PortState) : Bool :=
  session.groups.all fun g => g.portStates.items.all fun (p, expected) =>
    baseline.getD p .unknown = expected

def sessionBaselineFailure (session : TrafficSessionState) (baseline : Dict Port PortState) :
    Option Failure :=
  if session.agreesWith baseline then none
  else some {
    blocker := some "traffic_session_state_conflict"
    error := some ("live traffic state no longer matches the managed session; refresh runtime "
      ++ "state before mutating") }

/-! ## The durable intent -/

/-- The intent that `_prepare_traffic_mutation_intent` builds: `draft` is the intent but
for what the method itself fills in. -/
def preparedIntent (draft : Uuid → Time → TrafficMutationIntentState) (nonce : Uuid)
    (preparedAt : Time) : TrafficMutationIntentState :=
  { draft nonce preparedAt with
    nonce := nonce
    phase := .prepared
    hardwareStage := .prepared
    preparedAt := preparedAt
    reconciliation := some "prepared before live TRex mutation" }

def prepareTrafficMutationIntent (draft : Uuid → Time → TrafficMutationIntentState) :
    TrafficM TrafficMutationIntentState := do
  let nonce ← freshUuid
  let preparedAt ← utcNowIso env
  let intent := preparedIntent draft nonce preparedAt
  raiseIf (¬intent.Valid) (TrafficError.validation "traffic mutation intent is invalid")
  let owned ← ownedSession
  let updated ← storeUpdate env (.prepare intent owned)
  match updated.trafficMutationIntent with
  | none => throw (.plain "persisted traffic mutation intent is missing")
  | some persisted => do
    raiseIf (persisted.nonce ≠ nonce)
      (TrafficError.plain "persisted traffic mutation intent is missing")
    pure persisted

/-- The stream evidence that the stage `acquired` persists. -/
def acquiredStreamIds (intentNonce : Uuid) : TrafficQuery (Dict Port (List Nat)) := do
  let document ← load env
  match document.trafficMutationIntent with
  | none => throw (.recoveryRequired "traffic start intent changed before stream sampling")
  | some current => do
    raiseIf (current.nonce ≠ intentNonce ∨ current.operation ≠ .start)
      (TrafficError.recoveryRequired "traffic start intent changed before stream sampling")
    match ← hardStopRpcBudgetFailure env (startDeadlines current) "start stream baseline"
        (current.ports.length * 2 + 1) with
    | some f => throw (.recoveryRequired
        (f.error.getD "traffic hard-stop RPC window is insufficient"))
    | none => liveStreamIds env current.ports

/-- The budget guard inside `advance`, after the clock was read. -/
def stageBudget (stage : HardwareStage) : TrafficQuery (TrafficMutationIntentState → Option String) :=
  match stage.rpcCount with
  | none => pure fun _ => none
  | some rpcCount => do
    let now ← clock env
    pure fun intent => (rpcBudgetFailure env now (startDeadlines intent) "start" rpcCount).map
      fun f => f.error.getD "traffic hard-stop RPC window is insufficient"

def advanceStartIntentStage (intentNonce : Uuid) (stage : HardwareStage) : TrafficM Unit := do
  let streamIds ← (if stage = .acquired then do
      let ids ← acquiredStreamIds env intentNonce
      pure (some ids)
    else pure none : TrafficQuery (Option (Dict Port (List Nat))))
  let budget ← stageBudget env stage
  let _ ← storeUpdate env (.advance intentNonce stage streamIds budget)

/-- `_retain_failed_mutation_intent`: a store error is swallowed, since the intent is
already durable. -/
def retainFailedMutationIntent (intentNonce : Uuid) (reason : String) : TrafficM Unit :=
  guarded TrafficError.isRuntimeState (storeUpdate env (.retain intentNonce reason))
    (fun _ => pure ()) fun _ => pure ()

def clearTrafficMutationIntent (intentNonce : Uuid)
    (sessionBefore : Option TrafficSessionState) : TrafficM RuntimeStateDocument :=
  storeUpdate env (.clear intentNonce sessionBefore)

def promoteTrafficMutationIntent (intentNonce : Uuid) (expectedOperation : TrafficOperation)
    (authority : RuntimeAuthorityIdentity) (mode : TrafficCompletionMode) :
    TrafficM (Option TrafficSessionState) := do
  let now ← utcNowIso env
  let owned ← ownedSession
  let updated ← storeUpdate env
    (.promote intentNonce expectedOperation authority mode owned now)
  pure updated.trafficSession

def persistStart (authority : RuntimeAuthorityIdentity) (intentNonce : Uuid)
    (mode : TrafficCompletionMode := .direct) : TrafficM TrafficSessionState := do
  match ← promoteTrafficMutationIntent env intentNonce .start authority mode with
  | none => throw (.plain "persisted traffic session is missing after start")
  | some session => pure session

def persistUpdate (authority : RuntimeAuthorityIdentity) (intentNonce : Uuid)
    (mode : TrafficCompletionMode := .direct) : TrafficM (Option TrafficSessionState) :=
  promoteTrafficMutationIntent env intentNonce .update authority mode

def persistAction (action : TrafficOperation) (authority : RuntimeAuthorityIdentity)
    (intentNonce : Uuid) (mode : TrafficCompletionMode := .direct) :
    TrafficM (Option TrafficSessionState) := do
  let session ← promoteTrafficMutationIntent env intentNonce action authority mode
  if session.any fun s => decide (s.state = .stopped) then
    setOwned none
    pure session
  else pure session

/-! ## Controlled ports -/

/-- The `finally` of `_with_mutation_ports_controlled`: release what the intent did
not hold before, and prove that exactly its baseline is held. -/
def restoreAcquisitionBaseline (intent : TrafficMutationIntentState) : TrafficQuery Unit :=
  guarded TrafficError.isException
    (do
      let acquiredAfter ← orRaise (← ask env .getAcquiredPorts)
      let releasePorts := sortedSet (intent.ports.filter fun p =>
        p ∈ acquiredAfter ∧ p ∉ intent.baselineAcquiredPorts)
      releasePortsForOperationStrict env releasePorts
      let acquired ← orRaise (← ask env .getAcquiredPorts)
      raiseIf ((acquired.filter (· ∈ intent.ports)).toFinset
          ≠ intent.baselineAcquiredPorts.toFinset)
        (TrafficError.runtime
          "traffic recovery could not restore the exact acquisition baseline"))
    (fun exc => throw (.runtime s!"cannot restore traffic acquisition baseline: {exc.text}"))
    fun _ => pure ()

/-- The acquisition before the operation, and the proof that it took. -/
def controlMutationPorts (intent : TrafficMutationIntentState) : TrafficQuery Unit := do
  match ← ask env .getAcquiredPorts with
  | .error message => throw (.runtime
      s!"cannot inspect local TRex acquisition ownership: {message}")
  | .ok acquiredBefore =>
    let missing := sortedSet (intent.ports.filter (· ∉ acquiredBefore))
    if missing = [] then pure () else orRaise (← ask env (.acquire missing))

def proveMutationPorts (intent : TrafficMutationIntentState) : TrafficQuery Unit := do
  let acquiredNow ← orRaise (← ask env .getAcquiredPorts)
  raiseIf (intent.ports.any (· ∉ acquiredNow) = true)
    (TrafficError.runtime "TRex did not confirm ownership of every recovery port")

def withMutationPortsControlled {m : Type → Type} [Monad m] [MonadExceptOf TrafficError m]
    [MonadLiftT TrafficQuery m] {α : Type} (intent : TrafficMutationIntentState)
    (operation : m α) : m (CallResult α) :=
  withClient env do
    (liftM (controlMutationPorts env intent) : m Unit)
    ensuring TrafficError.isCrash
      (do
        (liftM (proveMutationPorts env intent) : m Unit)
        operation)
      (liftM (restoreAcquisitionBaseline env intent) : m Unit)

/-- Prove that the ports can be controlled and leave them as they were. -/
def proveControl (intent : TrafficMutationIntentState) : TrafficQuery (CallResult Unit) :=
  withMutationPortsControlled env intent (pure () : TrafficQuery Unit)

/-! ## Rollback and replay of a start -/

def assertNoBaselineStreamMissing (baseline current : Dict Port (List Nat))
    (ports : List Port) : TrafficQuery Unit :=
  ports.forM fun p =>
    let missing := (baseline.getD p []).filter (· ∉ current.getD p [])
    raiseIf (missing ≠ []) (TrafficError.runtime
      (s!"traffic start removed baseline stream definitions that cannot be reconstructed on "
        ++ s!"port {p}: {missing}"))

def restoreStartStreamBaseline (intent : TrafficMutationIntentState) : TrafficM Unit := do
  match intent.baselineStreamIds with
  | none => throw (.runtime "traffic start has no exact pre-mutation stream evidence")
  | some baseline => do
    let current ← liveStreamIds env intent.ports
    assertNoBaselineStreamMissing baseline current intent.ports
    intent.ports.forM fun p => do
      let extras := (current.getD p []).filter (· ∉ baseline.getD p [])
      if extras = [] then pure ()
      else
        let _ ← issue env (.removeStreams extras (some [p]))
        pure ()
    let restored ← liveStreamIds env intent.ports
    raiseIf (restored ≠ baseline) (TrafficError.runtime
      "traffic start stream cleanup did not restore the exact baseline")

def rollbackStreams (intent : TrafficMutationIntentState) : TrafficM Unit := do
  if intent.startStageAtLeast .streamsRemoveIntent = false then
    match intent.baselineStreamIds with
    | none => pure ()
    | some baseline => do
      let observed ← liveStreamIds env intent.ports
      raiseIf (observed ≠ baseline) (TrafficError.runtime
        "stream state changed before the durable remove boundary")
  else if intent.startClearExisting = some true then
    match intent.baselineStreamIds with
    | none => throw (.runtime "traffic start has no stream baseline after acquisition")
    | some baseline => do
      raiseIf (baseline.items.any (fun (_, ids) => decide (ids ≠ [])) = true)
        (TrafficError.runtime ("clear_existing may have removed baseline stream definitions; "
          ++ "exact rollback is impossible"))
      let _ ← issue env (.removeAllStreams (some intent.ports))
      let remaining ← liveStreamIds env intent.ports
      raiseIf (remaining.items.any (fun (_, ids) => decide (ids ≠ [])) = true)
        (TrafficError.runtime "traffic start rollback could not restore empty streams")
  else restoreStartStreamBaseline env intent

/-- `rollback` of `_rollback_failed_start`. -/
def rollback (intent : TrafficMutationIntentState) : TrafficM Unit := do
  let live ← livePortStates env intent.ports
  raiseIf (intent.ports.any (fun p => decide (live.getD p .unknown = .unknown)) = true)
    (TrafficError.runtime "cannot prove live state before traffic start rollback")
  let activePorts := intent.ports.filter fun p => (live.getD p .unknown).active
  (if activePorts = [] then pure ()
  else do
    let _ ← issue env (.stop (some activePorts))
    pure ())
  let stopped ← livePortStates env intent.ports
  raiseIf (intent.ports.any (fun p => decide (stopped.getD p .unknown
      ≠ intent.baselinePortStates.getD p .unknown)) = true)
    (TrafficError.runtime "traffic start rollback did not restore the port-state baseline")
  rollbackStreams env intent

def rollbackFailedStart (intent : TrafficMutationIntentState) : TrafficM (CallResult Unit) :=
  withMutationPortsControlled env intent (rollback env intent)

def normalizeStartReplay (intent : TrafficMutationIntentState) : TrafficM (CallResult Unit) :=
  if intent.startClearExisting = some true then pure (.ok ())
  else if intent.startStageAtLeast .profileAddIntent = false then pure (.ok ())
  else withMutationPortsControlled env intent (restoreStartStreamBaseline env intent)

def replayStartIntent (intent : TrafficMutationIntentState) :
    TrafficM (CallResult StartData) := do
  match intent.startGroup, intent.startProfileSha256, intent.startForce, intent.startTotal,
    intent.startSynchronized, intent.startClearExisting with
  | some group, some digest, some force, some total, some synchronized, some clearExisting =>
    guarded TrafficError.isRuntimeState (liftM (profileSha256 env group.profilePath))
      (fun exc => pure (failure "traffic_mutation_recovery_required" exc.text))
      fun observed => do
      if observed ≠ digest then
        pure (failure "traffic_mutation_recovery_required"
          "traffic profile bytes changed after the durable start intent")
      else
        match ← normalizeStartReplay env intent with
        | .failed f => pure (.failed f)
        | .ok () =>
          startProfile env group.profilePath (some intent.ports) {
              multiplier := group.multiplier
              duration := group.duration
              force := force
              total := total
              synchronized := synchronized
              clearExisting := clearExisting
              tunables := group.tunables }
            (trafficStartPreflight env) (advanceStartIntentStage env intent.nonce)
  | _, _, _, _, _, _ => pure (failure "traffic_mutation_recovery_required"
      "traffic start intent does not contain an exact replay command")

def isRelativeUpdateMultiplier (multiplier : String) : Bool :=
  match (multiplier.toList.reverse.dropWhile Char.isWhitespace).head? with
  | some c => c = '+' || c = '-'
  | none => false

end

end TrexWebui
