import TrexWebui.TrafficAuthority

/-!
# Recovery and reconciliation

How a read of the traffic state recovers a pending intent from its durable
record and the live sample, adopts a session of an earlier process, and
writes what it saw into the session.
-/

namespace TrexWebui

open OracleProgram

section

variable (env : TrafficEnvironment)

/-! ## Recovery of a pending intent -/

/-- What `_recover_traffic_mutation_intent` returns. -/
structure Recovery where
  document : RuntimeStateDocument
  liveStates : Dict Port PortState
  message : String

/-- `unresolved`: the intent is retained, and no session is owned any more. -/
def unresolved (intent : TrafficMutationIntentState) (liveStates : Dict Port PortState)
    (reason : String) : TrafficM Recovery := do
  setOwned none
  retainFailedMutationIntent env intent.nonce reason
  let document ← load env
  pure ⟨document, liveStates,
    s!"traffic mutation {intent.nonce} retained fail-closed: {reason}"⟩

def isSafeDaemonGenerationRollover (previous current : RuntimeAuthorityIdentity) : Bool :=
  decide (previous.daemonSupervisor = .systemd ∧ current.daemonSupervisor = .systemd
    ∧ previous.generation ≠ current.generation
    ∧ (previous.host, previous.syncPort, previous.asyncPort, previous.scapyPort)
      = (current.host, current.syncPort, current.asyncPort, current.scapyPort))

def retireMutationIntentAfterGenerationRollover (intentNonce : Uuid)
    (previousAuthority : RuntimeAuthorityIdentity) : TrafficM RuntimeStateDocument := do
  let now ← utcNowIso env
  storeUpdate env (.retireAfterRollover intentNonce previousAuthority now)

/-- Some lease of the groups has expired; the clock is read for each of them. -/
def anyLeaseExpired : List TrafficSessionGroupState → TrafficQuery Bool
  | [] => pure false
  | g :: rest =>
    if g.leased then do
      let now ← clock env
      if g.leaseExpired now then pure true else anyLeaseExpired rest
    else anyLeaseExpired rest

def startLeaseExpired (intent : TrafficMutationIntentState) : TrafficQuery Bool :=
  match intent.startGroup.bind (·.hardStopAt) with
  | none => pure false
  | some deadline => do
    let now ← clock env
    pure (hardStopIsExpired deadline now)

def matchesStates (sample expected : Dict Port PortState) (ports : List Port) : Bool :=
  ports.all fun p => decide (sample.getD p .unknown = expected.getD p .unknown)

/-- The ports of the configuration that the intent does not target. -/
def TrafficMutationIntentState.untargeted (intent : TrafficMutationIntentState)
    (configuredPorts : List Port) : List Port :=
  configuredPorts.filter (· ∉ intent.ports)

/-- The sample shows the targets in their desired states and the other ports in
their baseline states. -/
def TrafficMutationIntentState.reached (intent : TrafficMutationIntentState)
    (configuredPorts : List Port) (sample : Dict Port PortState) : Bool :=
  matchesStates sample intent.desiredPortStates intent.ports
    && matchesStates sample intent.baselinePortStates (intent.untargeted configuredPorts)

def recoverByRollback (intent : TrafficMutationIntentState) (liveStates : Dict Port PortState)
    (configuredPorts : List Port) (hardStopExpired : Bool) : TrafficM Recovery := do
  match ← rollbackFailedStart env intent with
  | .failed f =>
    unresolved env intent liveStates
      (f.detail "traffic start rollback could not be proven")
  | .ok () =>
    match ← sampleMutationBaseline env configuredPorts with
    | .failed f =>
      unresolved env intent liveStates
        (f.detail "cannot verify traffic start rollback")
    | .ok sampled =>
      if matchesStates sampled intent.baselinePortStates configuredPorts = false then
        unresolved env intent sampled
          "traffic start rollback did not restore its exact port-state baseline"
      else
        let updated ← clearTrafficMutationIntent env intent.nonce intent.sessionBefore
        pure ⟨updated, sampled,
          if hardStopExpired then
            s!"expired traffic start {intent.nonce} was exactly rolled back without replay"
          else s!"failed traffic start {intent.nonce} was exactly rolled back"⟩

def promoteRecoveredStart (intent : TrafficMutationIntentState)
    (liveStates : Dict Port PortState) (authority : RuntimeAuthorityIdentity)
    (mode : TrafficCompletionMode) : TrafficM Recovery := do
  let session ← persistStart env authority intent.nonce mode
  setOwned (some session.id)
  let document ← load env
  pure ⟨document, liveStates,
    s!"traffic start {intent.nonce} {mode.text} and promoted"⟩

def recoverByReplay (intent : TrafficMutationIntentState) (liveStates : Dict Port PortState)
    (configuredPorts : List Port) (authority : RuntimeAuthorityIdentity) :
    TrafficM Recovery := do
  match ← replayStartIntent env intent with
  | .failed f => unresolved env intent liveStates (f.detail "traffic start replay failed")
  | .ok _ =>
    match ← proveControl env intent with
    | .failed f =>
      unresolved env intent liveStates
        (f.detail "cannot restore the start acquisition baseline")
    | .ok () =>
      match ← sampleMutationBaseline env configuredPorts with
      | .failed f =>
        unresolved env intent liveStates
          (f.detail "cannot verify replayed traffic start")
      | .ok sampled =>
        if intent.reached configuredPorts sampled = false then
          unresolved env intent sampled
            "replayed traffic start did not reach its exact desired state"
        else promoteRecoveredStart env intent sampled authority .replayed

def recoverStart (intent : TrafficMutationIntentState) (liveStates : Dict Port PortState)
    (configuredPorts : List Port) (authority : RuntimeAuthorityIdentity) :
    TrafficM Recovery := do
  let hardStopExpired ← startLeaseExpired env intent
  if intent.phase = .cleanupRequired ∨ hardStopExpired = true then
    recoverByRollback env intent liveStates configuredPorts hardStopExpired
  else if matchesStates liveStates intent.desiredPortStates intent.ports then
    if intent.startStageAtLeast .startIntent = false then
      unresolved env intent liveStates
        "traffic is running before the durable start RPC boundary"
    else
      match ← proveControl env intent with
      | .failed f =>
        unresolved env intent liveStates
          (f.detail "cannot prove control of recovered running traffic")
      | .ok () => promoteRecoveredStart env intent liveStates authority .recovered
  else if matchesStates liveStates intent.baselinePortStates intent.ports then
    if intent.startStageAtLeast .startIntent then
      unresolved env intent liveStates
        ("the start RPC may have completed a finite run while the API was unavailable; "
          ++ "replay would duplicate traffic")
    else recoverByReplay env intent liveStates configuredPorts authority
  else
    unresolved env intent liveStates
      ("start target state is neither its exact baseline nor desired state; partial replay "
        ++ "is unsafe")

/-- Prove control of the ports of an intent that stays unresolved. -/
def proveThenUnresolved (intent : TrafficMutationIntentState)
    (liveStates : Dict Port PortState) (failed reason : String) : TrafficM Recovery := do
  match ← proveControl env intent with
  | .failed f => unresolved env intent liveStates (f.detail failed)
  | .ok () => unresolved env intent liveStates reason

def recoverUpdate (intent : TrafficMutationIntentState) (liveStates : Dict Port PortState)
    (authority : RuntimeAuthorityIdentity) : TrafficM Recovery := do
  if matchesStates liveStates intent.baselinePortStates intent.ports = false then
    unresolved env intent liveStates "traffic state changed while an update intent was pending"
  else match intent.updateMultiplier, intent.updateForce, intent.updateTotal with
  | some multiplier, some force, some total =>
    if intent.phase = .cleanupRequired then
      proveThenUnresolved env intent liveStates
        "cannot restore the update acquisition baseline"
        ("the update RPC returned failure and its live rate outcome cannot be proven; "
          ++ "read-side recovery will not replay it")
    else if isRelativeUpdateMultiplier multiplier then
      proveThenUnresolved env intent liveStates
        "cannot restore the update acquisition baseline"
        ("relative traffic update outcome is ambiguous and cannot be replayed without "
          ++ "double-applying the delta")
    else
      match ← updateTraffic env (some intent.ports) multiplier force total with
      | .failed f => unresolved env intent liveStates (f.detail "traffic update replay failed")
      | .ok _ =>
        match ← proveControl env intent with
        | .failed f =>
          unresolved env intent liveStates
            (f.detail "cannot restore the update acquisition baseline")
        | .ok () => do
          let session ← persistUpdate env authority intent.nonce .replayed
          (match session with
          | some session => setOwned (some session.id)
          | none => pure ())
          let document ← load env
          pure ⟨document, liveStates, s!"traffic update {intent.nonce} replayed and promoted"⟩
  | _, _, _ => unresolved env intent liveStates "traffic update intent is incomplete"

/-- Promote a stop, pause or resume, and own its session if it is still active. -/
def promoteRecoveredAction (intent : TrafficMutationIntentState)
    (liveStates : Dict Port PortState) (authority : RuntimeAuthorityIdentity)
    (mode : TrafficCompletionMode) : TrafficM Recovery := do
  let session ← persistAction env intent.operation authority intent.nonce mode
  (match session with
  | some session => if session.state ≠ .stopped then setOwned (some session.id) else pure ()
  | none => pure ())
  let document ← load env
  pure ⟨document, liveStates,
    s!"traffic {intent.operation.text} {intent.nonce} {mode.text} and promoted"⟩

def recoverByRetry (intent : TrafficMutationIntentState) (liveStates : Dict Port PortState)
    (configuredPorts : List Port) (authority : RuntimeAuthorityIdentity) :
    TrafficM Recovery := do
  let retryPorts := intent.ports.filter fun p =>
    liveStates.lookup p ≠ intent.desiredPortStates.lookup p
  match ← trafficAction env intent.operation (some retryPorts) with
  | .failed f =>
    unresolved env intent liveStates
      (f.detail s!"traffic {intent.operation.text} recovery replay failed")
  | .ok _ =>
    match ← sampleMutationBaseline env configuredPorts with
    | .failed f =>
      unresolved env intent liveStates
        (f.detail "cannot verify traffic action recovery")
    | .ok sampled =>
      if intent.reached configuredPorts sampled = false then
        unresolved env intent sampled
          s!"traffic {intent.operation.text} replay did not reach exact desired state"
      else
        match ← proveControl env intent with
        | .failed f =>
          unresolved env intent sampled
            (f.detail "cannot restore the action acquisition baseline")
        | .ok () => promoteRecoveredAction env intent sampled authority .replayed

/-- The part of the recovery for a pending stop, pause or resume. -/
def recoverAction (intent : TrafficMutationIntentState) (liveStates : Dict Port PortState)
    (configuredPorts : List Port) (authority : RuntimeAuthorityIdentity) :
    TrafficM Recovery := do
  if matchesStates liveStates intent.desiredPortStates intent.ports then
    match ← proveControl env intent with
    | .failed f =>
      unresolved env intent liveStates
        (f.detail "cannot restore the action acquisition baseline")
    | .ok () => promoteRecoveredAction env intent liveStates authority .recovered
  else if matchesStates liveStates intent.baselinePortStates intent.ports then
    match ← proveControl env intent with
    | .failed f =>
      unresolved env intent liveStates
        (f.detail "cannot restore the action acquisition baseline")
    | .ok () => do
      let updated ← clearTrafficMutationIntent env intent.nonce intent.sessionBefore
      pure ⟨updated, liveStates,
        s!"traffic {intent.operation.text} {intent.nonce} proved unapplied and was cleared"⟩
  else if intent.ports.any (fun p =>
      let live := liveStates.getD p .unknown
      decide (live ≠ intent.baselinePortStates.getD p .unknown
        ∧ live ≠ intent.desiredPortStates.getD p .unknown)) then
    unresolved env intent liveStates
      "traffic action target state is outside its exact WAL evidence"
  else if intent.phase = .cleanupRequired then
    proveThenUnresolved env intent liveStates
      "cannot restore the action acquisition baseline"
      (s!"traffic {intent.operation.text} RPC returned failure after a partial state change; "
        ++ "read-side recovery will not mutate remaining ports")
  else recoverByRetry env intent liveStates configuredPorts authority

/-- The expected session of the intent is the recorded one and may be recovered. -/
def TrafficMutationIntentState.safelyRecoverable (intent : TrafficMutationIntentState)
    (authority : RuntimeAuthorityIdentity) (id : Uuid) : Bool :=
  intent.sessionBefore.any fun session =>
    decide (session.id = id ∧ session.authority = authority)
      && session.state.safelyActive

def recoverOperation (intent : TrafficMutationIntentState) (liveStates : Dict Port PortState)
    (configuredPorts : List Port) (authority : RuntimeAuthorityIdentity) :
    TrafficM Recovery := do
  if intent.baselinePortStates.keys ≠ configuredPorts.toFinset then
    unresolved env intent liveStates "WAL baseline does not exactly cover configured ports"
  else if matchesStates liveStates intent.baselinePortStates
      (intent.untargeted configuredPorts) = false then
    unresolved env intent liveStates
      "non-target port state changed outside the exact mutation intent"
  else if intent.expectedSessionId.any
      (fun id => !intent.safelyRecoverable authority id) then
    unresolved env intent liveStates "expected managed session is not safely recoverable"
  else do
    (match intent.expectedSessionId with
    | some id => setOwned (some id)
    | none => pure ())
    match intent.operation with
    | .start => recoverStart env intent liveStates configuredPorts authority
    | .update => recoverUpdate env intent liveStates authority
    | .stop | .pause | .resume =>
      recoverAction env intent liveStates configuredPorts authority

def recoverTrafficMutationIntent (document : RuntimeStateDocument)
    (liveStates : Dict Port PortState) (configuredPorts : List Port)
    (authority : RuntimeAuthorityIdentity) : TrafficM Recovery := do
  match document.trafficMutationIntent with
  | none => pure ⟨document, liveStates, "no traffic mutation recovery required"⟩
  | some intent =>
    if intent.authority ≠ authority then
      if isSafeDaemonGenerationRollover intent.authority authority then do
        let retired ← retireMutationIntentAfterGenerationRollover env intent.nonce
          intent.authority
        setOwned none
        pure ⟨retired, liveStates, "traffic mutation from the previous managed daemon "
          ++ "generation was retired without touching current hardware"⟩
      else unresolved env intent liveStates "runtime target or daemon generation changed"
    else if document.trafficSession ≠ intent.sessionBefore then
      unresolved env intent liveStates "managed session no longer matches the WAL baseline"
    else do
      let expired ← anyLeaseExpired env ((intent.sessionBefore.map (·.groups)).getD [])
      if expired || intent.isHardStopSupersedingIntent then
        pure ⟨document, liveStates, "expired traffic hard-stop lease has priority; pending "
          ++ "WAL awaits the runtime supervisor without read-side replay"⟩
      else recoverOperation env intent liveStates configuredPorts authority

/-! ## Adoption and reconciliation -/

/-- A group of a session that can be adopted shows what the record says. -/
def TrafficSessionGroupState.adoptable (g : TrafficSessionGroupState)
    (liveStates : Dict Port PortState) : Bool :=
  decide (.unknown ∉ g.portStates.values)
    && matchesStates liveStates g.portStates g.ports

def TrafficSessionGroupState.hasActivePort (g : TrafficSessionGroupState) : Bool :=
  decide (∃ state ∈ g.portStates.values, state.active = true)

def adoptManagedSession (document : RuntimeStateDocument) (liveStates : Dict Port PortState)
    (authority : RuntimeAuthorityIdentity) : TrafficM Bool := do
  let owned ← ownedSession
  match document.trafficSession with
  | none => pure false
  | some session =>
    if owned ≠ none ∨ env.daemonSupervisor ≠ .systemd ∨ session.groups = []
        ∨ session.authority ≠ authority then pure false
    else if session.groups.all (·.adoptable liveStates)
        && session.groups.any (·.hasActivePort) then do
      setOwned (some session.id)
      pure true
    else pure false

/-- The text that `_reconcile_session` records. -/
def fullReconciliation (reconciliation : String) (authorityMatches owned : Bool)
    (groups : List TrafficSessionGroupState) : String :=
  reconciliation
    ++ (if authorityMatches then ""
        else "; persisted session belongs to a different TRex target or daemon generation")
    ++ (if !owned && groups.any fun g => decide (g.state = .unknown) then
        "; active traffic cannot be attributed to this API process" else "")

def reconcileSession (document : RuntimeStateDocument) (liveStates : Dict Port PortState)
    (reconciliation : String) (authority : RuntimeAuthorityIdentity) :
    TrafficM RuntimeStateDocument := do
  match document.trafficSession with
  | none => pure document
  | some session =>
    let authorityMatches := decide (session.authority = authority)
    (if authorityMatches then pure () else setOwned none)
    let ownedId ← ownedSession
    let owned := authorityMatches && decide (some session.id = ownedId)
    let now ← utcNowIso env
    let evidenced := decide (session.evidenceVersion = some .one)
    let groups := session.groups.map (reconcileGroup evidenced owned liveStates now)
    let aggregate := aggregateState groups
    let full := fullReconciliation reconciliation authorityMatches owned groups
    if groups = session.groups ∧ aggregate = session.state
        ∧ session.reconciliation = some full then pure document
    else do
      let updated ← storeUpdate env (.persistReconciled session.id groups now full)
      (if aggregate = .stopped then setOwned none else pure ())
      pure updated

/-! ## The snapshot -/

inductive PortOwnership where
  | managed | external | none
  deriving DecidableEq, Repr

structure SnapshotPort where
  port : Port
  state : PortState
  ownership : PortOwnership
  deriving DecidableEq

structure SnapshotPayload where
  planRevision : Nat
  groups : List TrafficGroupState
  authority : RuntimeAuthorityIdentity
  session : Option TrafficSessionState
  mutationIntent : Option TrafficMutationIntentState
  configPath : String
  portLimit : Nat
  interfaces : List String
  availablePorts : List Port
  portStates : List SnapshotPort
  liveStateSampled : Bool
  reconciliation : String

def snapshotPayload (document : RuntimeStateDocument) (config : TrexConfig)
    (liveStates : Dict Port PortState) (reconciliation : String)
    (authority : RuntimeAuthorityIdentity) (liveStateSampled : Bool) :
    TrafficQuery SnapshotPayload := do
  let ownedId ← ownedSession
  let owned := document.trafficSession.any fun session =>
    decide (session.authority = authority ∧ some session.id = ownedId)
  let sessionPorts := (document.trafficSession.map (·.ownedPorts)).getD []
  let portStates := config.ports.map fun p =>
    let real := liveStates.getD p .unknown
    let portOwned := owned && decide (p ∈ sessionPorts)
    if real.active && !portOwned then ⟨p, .unknown, .external⟩
    else ⟨p, real, if portOwned then .managed else .none⟩
  pure {
    planRevision := document.trafficPlanRevision
    groups := document.trafficGroups
    authority := authority
    session := document.trafficSession
    mutationIntent := document.trafficMutationIntent
    configPath := env.configPath
    portLimit := config.portLimit
    interfaces := config.interfaces.take config.portLimit
    availablePorts := config.ports
    portStates := portStates
    liveStateSampled := liveStateSampled
    reconciliation := reconciliation }

/-- The groups of `_initialize_default_plan`: one for each pair of ports. -/
def defaultGroups (portLimit : Nat) (profilePath : String) : List TrafficGroupState :=
  (List.range (portLimit / 2)).map fun pair => {
    id := s!"pair-{pair}"
    name := s!"P{2 * pair} ↔ P{2 * pair + 1}"
    ports := [2 * pair, 2 * pair + 1]
    profilePath := profilePath }

def initializeDefaultPlan (config : TrexConfig) : TrafficM RuntimeStateDocument := do
  let current ← load env
  if current.trafficPlanRevision ≠ 0 ∨ current.trafficGroups ≠ [] then pure current
  else match ← ask env (.resolveProfile DEFAULT_TRAFFIC_PROFILE) with
  | .error f => throw (.plain ("default traffic profile cannot be resolved: "
      ++ f.detail "profile resolution failed"))
  | .ok resolved => do
    let groups := defaultGroups config.portLimit resolved
    raiseIf (groups.any (fun g => decide ¬g.Valid) = true)
      (TrafficError.validation "traffic group is invalid")
    storeUpdate env (.initializePlan groups)

def snapshotDeadlines (document : RuntimeStateDocument) : List Time :=
  (((document.trafficSession.map (·.groups)).getD []).filter (·.leased)).filterMap
      (·.hardStopAt)
    ++ ((document.trafficMutationIntent.filter fun i => i.operation = .start).bind
      fun i => i.startGroup.bind (·.hardStopAt)).toList

def snapshotResult (document : RuntimeStateDocument) (config : TrexConfig)
    (liveStates : Dict Port PortState) (reconciliation : String)
    (authority : RuntimeAuthorityIdentity) (liveStateSampled : Bool) :
    TrafficQuery (CallResult SnapshotPayload) := do
  let payload ← snapshotPayload env document config liveStates reconciliation authority
    liveStateSampled
  pure (.ok payload)

def reconcileSnapshot (document : RuntimeStateDocument) (config : TrexConfig)
    (liveStates : Dict Port PortState) (reconciliation : String)
    (authority : RuntimeAuthorityIdentity) : TrafficM (CallResult SnapshotPayload) := do
  let adopted ← adoptManagedSession env document liveStates authority
  let reconciliation := if adopted then
      reconciliation ++ "; managed session authority recovered after API restart"
    else reconciliation
  guarded TrafficError.isRuntimeState
    (reconcileSession env document liveStates reconciliation authority)
    (fun exc => pure (failure "traffic_runtime_state_invalid" exc.text))
    fun document =>
      liftM (snapshotResult env document config liveStates reconciliation authority true)

/-- The part of a snapshot that may write: recovery, adoption and reconciliation. -/
def recoverSnapshot (document : RuntimeStateDocument) (config : TrexConfig)
    (liveStates : Dict Port PortState) (authority : RuntimeAuthorityIdentity) :
    TrafficM (CallResult SnapshotPayload) := do
  let reconciliation := "live TRex port state reconciled"
  if document.trafficMutationIntent = none then
    reconcileSnapshot env document config liveStates reconciliation authority
  else
    guarded TrafficError.isRuntimeState
      (recoverTrafficMutationIntent env document liveStates config.ports authority)
      (fun exc => pure (failure "traffic_runtime_state_invalid" exc.text))
      fun recovery => do
        let reconciliation := reconciliation ++ "; " ++ recovery.message
        if recovery.document.trafficMutationIntent ≠ none then
          snapshotResult env recovery.document config recovery.liveStates reconciliation
            authority true
        else
          reconcileSnapshot env recovery.document config recovery.liveStates reconciliation
            authority

/-- The live sample of a snapshot; a partial one is not evidence. -/
def sampleSnapshot (document : RuntimeStateDocument) (config : TrexConfig)
    (authority : RuntimeAuthorityIdentity) : TrafficM (CallResult SnapshotPayload) := do
  let unsampled (detail : String) : TrafficQuery (CallResult SnapshotPayload) :=
    snapshotResult env document config (unknownStates config.ports)
      s!"live TRex port state unavailable: {detail}" authority false
  match ← (withClient env (livePortStates env config.ports) :
      TrafficQuery (CallResult (Dict Port PortState))) with
  | .failed f => unsampled (f.detail "TRex state unavailable")
  | .ok sampledStates =>
    if config.ports.any fun p => decide (sampledStates.getD p .unknown = .unknown) then
      unsampled "TRex state unavailable"
    else recoverSnapshot env document config sampledStates authority

/-- `snapshot`; `hardStopPriority` is `runtime_hard_stop_priority_active()`. -/
def snapshot (hardStopPriority : Bool := false) : TrafficM (CallResult SnapshotPayload) := do
  match ← connectionTargetFailure env with
  | some f => pure (.failed f)
  | none =>
    guarded TrafficError.isRuntimeState (currentAuthority env)
      (fun exc => pure (failure "traffic_runtime_authority_invalid" exc.text))
      fun authority =>
    guarded TrafficError.isRuntimeState
      (do
        let config ← loadConfig env
        let document ← initializeDefaultPlan env config
        pure (config, document))
      (fun exc => pure (failure "traffic_runtime_state_invalid" exc.text))
      fun (config, document) => do
        let budget ← (if hardStopPriority then pure none
          else hardStopRpcBudgetFailure env (snapshotDeadlines document) "snapshot"
            (config.portLimit + 1) : TrafficQuery (Option Failure))
        match budget with
        | some _ =>
          snapshotResult env document config (unknownStates config.ports)
            ("durable-only snapshot; live TRex sampling is deferred to preserve the "
              ++ "hard-stop supervisor window") authority false
        | none => sampleSnapshot env document config authority

end

end TrexWebui
