import TrexWebui.TrafficRuntime

/-!
# The hard-stop supervisor

`reap_expired_hard_stops` with its routes to the hardware, and the
retirement of a session after the daemon has ended. Last come the commands
of the authority and their runs, with restarts of the process in between.
-/

namespace TrexWebui

open OracleProgram

section

variable (env : TrafficEnvironment)

/-! ## Exact stops -/

/-- The checks of `stop_remaining` before its RPC. -/
def hardStopBoundary (intent : TrafficMutationIntentState) (configuredPorts : List Port)
    (before : Dict Port PortState) : Except TrafficError Unit :=
  let outsideChanged := (intent.untargeted configuredPorts).filter fun p =>
    before.getD p .unknown ≠ intent.baselinePortStates.getD p .unknown
  let unknownTargets := intent.ports.filter fun p => before.getD p .unknown = .unknown
  if outsideChanged ≠ [] ∨ unknownTargets ≠ [] then
    .error (.runtime (s!"cannot prove the exact hard-stop boundary before RPC: outside_changed={
      outsideChanged}, unknown_targets={unknownTargets}"))
  else .ok ()

/-- The checks of `stop_remaining` after its RPC. -/
def hardStopVerification (intent : TrafficMutationIntentState) (configuredPorts : List Port)
    (after : Dict Port PortState) : Except TrafficError Unit :=
  let outsideChanged := (intent.untargeted configuredPorts).filter fun p =>
    after.getD p .unknown ≠ intent.baselinePortStates.getD p .unknown
  let notStopped := intent.ports.filter fun p => after.getD p .unknown ≠ .stopped
  if outsideChanged ≠ [] ∨ notStopped ≠ [] then
    .error (.runtime (s!"exact hard-stop verification failed: outside_changed={
      outsideChanged}, not_stopped={notStopped}"))
  else .ok ()

/-- `stop_remaining` of `_execute_exact_hard_stop_intent`; the result is the list of
the ports it stopped. -/
def stopRemaining (intent : TrafficMutationIntentState) (configuredPorts : List Port) :
    TrafficM (List Port) := do
  let before ← livePortStates env configuredPorts
  liftExcept (hardStopBoundary intent configuredPorts before)
  let activePorts := intent.ports.filter fun p => (before.getD p .unknown).active
  (if activePorts = [] then pure ()
  else do
    let result ← issue env (.stop (some activePorts))
    liftExcept (requireSdkResult result "expired traffic hard stop"))
  let after ← livePortStates env configuredPorts
  liftExcept (hardStopVerification intent configuredPorts after)
  pure activePorts

def executeExactHardStopIntent (intent : TrafficMutationIntentState)
    (configuredPorts : List Port) : TrafficM (CallResult (List Port)) :=
  withMutationPortsControlled env intent (stopRemaining env intent configuredPorts)

/-! ## A stop over a pending mutation -/

/-- What one call of `_stop_expired_leases_over_pending_mutation` works on. -/
structure ExpiredLeases where
  session : TrafficSessionState
  intent : TrafficMutationIntentState
  leasedGroups : List TrafficSessionGroupState
  authority : RuntimeAuthorityIdentity
  observedAt : Time

namespace ExpiredLeases

def expiredGroupPorts (x : ExpiredLeases) : List Port :=
  sortedSet (x.leasedGroups.flatMap (·.ports))

def allExpiredPorts (x : ExpiredLeases) : List Port :=
  sortedSet (x.leasedGroups.flatMap (·.ports)
    ++ if x.intent.expiredStart x.observedAt then x.intent.ports else [])

def isSupersedingStop (x : ExpiredLeases) : Bool := x.intent.isHardStopSupersedingIntent

def targetPorts (x : ExpiredLeases) : List Port :=
  if x.isSupersedingStop then x.intent.ports else x.allExpiredPorts

def leaseIdentity (x : ExpiredLeases) : List (List Port × Option Time) :=
  x.leasedGroups.map (·.leaseIdentity)

def report (x : ExpiredLeases) (ports : List Port) : HardStopReport where
  checkedAt := x.observedAt
  sessionId := some x.session.id
  ports := ports

/-- `can_supersede_intent`. -/
def canSupersede (x : ExpiredLeases) : Bool :=
  decide (x.intent.operation ≠ .start) && x.intent.ports.all (· ∈ x.targetPorts)

def restoreAcquired (x : ExpiredLeases) (currentAcquired : List Port) : List Port :=
  sortedSet (currentAcquired.filter (· ∉ x.intent.ports)
    ++ x.intent.baselineAcquiredPorts.filter (· ∈ x.targetPorts))

/-- The stop intent, without what only a superseding one records. -/
def stopIntent (x : ExpiredLeases) (baseline : MutationBaseline) (nonce : Uuid)
    (preparedAt : Time) : TrafficMutationIntentState where
  nonce := nonce
  operation := .stop
  authority := x.authority
  expectedSessionId := some x.session.id
  ports := x.targetPorts
  baselinePortStates := baseline.portStates
  desiredPortStates := .ofKeys x.targetPorts fun _ => .stopped
  sessionBefore := some x.session
  baselineAcquiredPorts := x.restoreAcquired baseline.acquiredPorts
  preparedAt := preparedAt

/-- `direct_intent`: it is never persisted. -/
def directIntent (x : ExpiredLeases) (baseline : MutationBaseline) (nonce : Uuid)
    (preparedAt : Time) : TrafficMutationIntentState :=
  { x.stopIntent baseline nonce preparedAt with
    reconciliation := some ("ephemeral exact stop authorized by an already-fsynced expired "
      ++ "lease while an unrelated WAL is retained") }

/-- `hard_stop_intent`. -/
def supersedingIntent (x : ExpiredLeases) (baseline : MutationBaseline) (nonce : Uuid)
    (preparedAt : Time) : TrafficMutationIntentState :=
  { x.stopIntent baseline nonce preparedAt with
    supersededIntentNonce := some x.intent.nonce
    supersededIntentOperation := some x.intent.operation
    supersededIntentPorts := some x.intent.ports
    supersededReason := some ("expired durable traffic hard-stop lease superseded the "
      ++ "same-session mutation before any stop RPC")
    reconciliation := some "prepared exact expired-lease stop before live TRex mutation" }

end ExpiredLeases

def hardStopFailure {α : Type} (blocker error : String) (report : HardStopReport) :
    CallResult α :=
  failure blocker error (some (.hardStop report))

/-- Stop the ports, roll the expired start back, and clear its intent. -/
def rollbackExpiredStart (x : ExpiredLeases) (rpcPorts configuredPorts : List Port) :
    TrafficM (CallResult HardStopReport) := do
  let report := x.report x.targetPorts
  match ← rollbackFailedStart env x.intent with
  | .failed f => pure (hardStopFailure "traffic_hard_stop_recovery_required"
      ("all expired traffic was stopped, but the expired start WAL could not restore its "
        ++ "exact stream and acquisition baseline")
      { report with
        rpcPorts := some rpcPorts, stopped := some true, statePersisted := some false
        intentNonce := some x.intent.nonce, recoveryError := some (f.detail "") })
  | .ok () =>
    match ← sampleMutationBaseline env configuredPorts with
    | .failed _ => pure (hardStopFailure "traffic_hard_stop_recovery_required"
        "expired start rollback could not be verified after the exact hard stop"
        { report with
          stopped := some true, statePersisted := some false
          intentNonce := some x.intent.nonce })
    | .ok sampled =>
      guarded TrafficError.isRuntimeState
        (do
          let cleared ← clearTrafficMutationIntent env x.intent.nonce x.intent.sessionBefore
          setOwned (some x.session.id)
          reconcileSession env cleared sampled
            s!"expired promoted lease stopped before exact rollback of expired start intent {
              x.intent.nonce}" x.authority)
        (fun exc => pure (hardStopFailure "traffic_hard_stop_persist_failed"
          (s!"expired traffic was stopped but start-WAL retirement could not be persisted: {
            exc.text}")
          { report with
            stopped := some true, statePersisted := some false
            intentNonce := some x.intent.nonce }))
        fun reconciled => pure (.ok { report with
          attempted := some true, rpcPorts := some rpcPorts, stopped := some true
          statePersisted := some true, supersededIntent := some x.intent.nonce
          session := reconciled.trafficSession })

def retainPendingIntent (x : ExpiredLeases) (rpcPorts : List Port) :
    TrafficM (CallResult HardStopReport) := do
  let report := { x.report x.targetPorts with
    rpcPorts := some rpcPorts, stopped := some true }
  let now ← utcNowIso env
  guarded TrafficError.isRuntimeState
    (storeUpdate env (.retainAfterStop x.session x.intent x.leaseIdentity x.expiredGroupPorts
      now))
    (fun exc => pure (hardStopFailure "traffic_hard_stop_persist_failed"
      (s!"expired lease traffic was stopped but the disjoint pending WAL could not be retained "
        ++ s!"consistently: {exc.text}")
      { report with statePersisted := some false, intentNonce := some x.intent.nonce }))
    fun retained => do
      setOwned ((retained.trafficSession.filter fun s => s.state ≠ .stopped).map (·.id))
      pure (.ok { report with
        attempted := some true, statePersisted := some true
        pendingIntentRetained := some x.intent.nonce })

def stopDirectly (x : ExpiredLeases) (baseline : MutationBaseline)
    (configuredPorts : List Port) : TrafficM (CallResult HardStopReport) := do
  let nonce ← freshUuid
  let preparedAt ← utcNowIso env
  let directIntent := x.directIntent baseline nonce preparedAt
  raiseIf (¬directIntent.Valid) (TrafficError.validation "traffic mutation intent is invalid")
  match ← executeExactHardStopIntent env directIntent configuredPorts with
  | .failed f => pure (hardStopFailure (f.blocker.getD "traffic_hard_stop_failed")
      (f.error.getD "expired traffic hard-stop RPC failed")
      { x.report x.targetPorts with
        rpcPorts := some [], stopped := some false, intentNonce := some x.intent.nonce })
  | .ok rpcPorts =>
    if x.intent.expiredStart x.observedAt then
      rollbackExpiredStart env x rpcPorts configuredPorts
    else retainPendingIntent env x rpcPorts

/-- Execute a durable stop intent of the supervisor and promote it. -/
def finishHardStop (x : ExpiredLeases) (hardStopIntent : TrafficMutationIntentState)
    (configuredPorts : List Port) : TrafficM (CallResult HardStopReport) := do
  let report := x.report x.targetPorts
  match ← executeExactHardStopIntent env hardStopIntent configuredPorts with
  | .failed f => do
    retainFailedMutationIntent env hardStopIntent.nonce
      (f.detail "expired traffic hard stop did not complete")
    pure (hardStopFailure (f.blocker.getD "traffic_hard_stop_failed")
      (f.error.getD "expired traffic hard-stop RPC failed")
      { report with
        rpcPorts := some [], stopped := some false, statePersisted := some false
        intentNonce := some hardStopIntent.nonce })
  | .ok rpcPorts =>
    guarded TrafficError.isRuntimeState
      (do
        assertAuthorityUnchanged env x.authority
        setOwned (some x.session.id)
        persistAction env .stop x.authority hardStopIntent.nonce .hardStop)
      (fun exc => do
        retainFailedMutationIntent env hardStopIntent.nonce exc.text
        pure (hardStopFailure "traffic_hard_stop_persist_failed"
          (s!"expired lease traffic was stopped but its exact durable promotion failed: {
            exc.text}")
          { report with
            rpcPorts := some rpcPorts, stopped := some true, statePersisted := some false
            intentNonce := some hardStopIntent.nonce }))
      fun session => do
        (match session.filter fun s => s.state ≠ .stopped with
        | some session => setOwned (some session.id)
        | none => pure ())
        pure (.ok { report with
          attempted := some true, rpcPorts := some rpcPorts, stopped := some true
          statePersisted := some true
          supersededIntent := hardStopIntent.supersededIntentNonce })

/-- Replace the pending intent by a stop of the expired leases, and finish that. -/
def supersedeAndStop (x : ExpiredLeases) (baseline : MutationBaseline)
    (configuredPorts : List Port) : TrafficM (CallResult HardStopReport) := do
  let nonce ← freshUuid
  let preparedAt ← utcNowIso env
  let hardStopIntent := x.supersedingIntent baseline nonce preparedAt
  raiseIf (¬hardStopIntent.Valid)
    (TrafficError.validation "traffic mutation intent is invalid")
  guarded TrafficError.isRuntimeState
    (storeUpdate env (.supersede x.session x.intent x.authority x.leaseIdentity x.observedAt
      hardStopIntent))
    (fun exc => pure (hardStopFailure "traffic_hard_stop_persist_failed"
      (s!"cannot fsync the exact expired-lease stop intent before hardware mutation: {
        exc.text}")
      { x.report x.targetPorts with stopped := some false }))
    fun updated =>
      if updated.trafficMutationIntent ≠ some hardStopIntent then
        pure (hardStopFailure "traffic_hard_stop_persist_failed"
          "the exact expired-lease stop intent is missing after fsync"
          { x.report x.targetPorts with stopped := some false })
      else finishHardStop env x hardStopIntent configuredPorts

def stopExpiredLeasesOverPendingMutation (document : RuntimeStateDocument)
    (x : ExpiredLeases) : TrafficM (CallResult HardStopReport) :=
  if document.trafficSession ≠ some x.session ∨ document.trafficMutationIntent ≠ some x.intent
      ∨ x.intent.sessionBefore ≠ some x.session
      ∨ x.intent.expectedSessionId ≠ some x.session.id
      ∨ x.intent.authority ≠ x.authority ∨ x.session.authority ≠ x.authority then
    pure (hardStopFailure "traffic_hard_stop_authority_mismatch"
      ("pending traffic mutation does not share the exact expired lease session and "
        ++ "authority; no stop was issued") (x.report []))
  else if x.targetPorts = [] ∨ x.targetPorts.any (· ∉ x.allExpiredPorts) then
    pure (hardStopFailure "traffic_hard_stop_session_conflict"
      ("persisted hard-stop WAL no longer exactly matches an expired session lease; no stop "
        ++ "was issued") (x.report x.targetPorts))
  else
  guarded TrafficError.isRuntimeState (liftM (loadConfig env))
    (fun exc => pure (failure "traffic_runtime_state_invalid" exc.text))
    fun config =>
  guarded TrafficError.isRuntimeState (liftM (load env))
    (fun exc => pure (failure "traffic_runtime_state_invalid" exc.text))
    fun latest =>
  if latest.trafficSession ≠ some x.session
      ∨ latest.trafficMutationIntent ≠ some x.intent then
    pure (hardStopFailure "traffic_hard_stop_session_conflict"
      ("traffic session or mutation changed before the exact hard-stop RPC; no stop was "
        ++ "issued") (x.report x.targetPorts))
  else if x.isSupersedingStop then finishHardStop env x x.intent config.ports
  else
  onSuccess (liftM (sampleSessionMutationBaseline env config.ports x.targetPorts))
    fun baseline =>
  if x.canSupersede then supersedeAndStop env x baseline config.ports
  else stopDirectly env x baseline config.ports

/-! ## The reaper -/

def RuntimeStateDocument.expiredGroups (document : RuntimeStateDocument) (now : Time) :
    List TrafficSessionGroupState :=
  ((document.trafficSession.map (·.groups)).getD []).filter (·.leaseExpired now)

def RuntimeStateDocument.expiredStartIntent (document : RuntimeStateDocument) (now : Time) :
    Bool :=
  document.trafficMutationIntent.any (·.expiredStart now)

def clearStoppedLeases (document : RuntimeStateDocument) : TrafficM RuntimeStateDocument :=
  match document.trafficMutationIntent, document.trafficSession with
  | none, some session =>
    if session.groups.any fun g => decide (g.state = .stopped) && g.hardStopAt.isSome then
      storeUpdate env (.clearStopped session.id)
    else pure document
  | _, _ => pure document

/-- An expired lease over a pending intent: the pending intent has no say. -/
def reapOverPendingMutation (document : RuntimeStateDocument)
    (intent : TrafficMutationIntentState) (now : Time) :
    TrafficM (CallResult HardStopReport) :=
  match document.trafficSession with
  | none => pure (hardStopFailure "traffic_hard_stop_recovery_required"
      "expired traffic lease has no persisted session" { checkedAt := now })
  | some session =>
    guarded TrafficError.isRuntimeState (currentAuthority env)
      (fun exc => pure (failure "traffic_runtime_authority_invalid" exc.text))
      fun authority =>
    if session.authority ≠ authority then
      pure (hardStopFailure "traffic_hard_stop_authority_mismatch"
        ("expired traffic lease belongs to a different TRex target or daemon generation; no "
          ++ "stop was issued") { checkedAt := now, sessionId := some session.id })
    else stopExpiredLeasesOverPendingMutation env document {
      session := session
      intent := intent
      leasedGroups := document.expiredGroups now
      authority := authority
      observedAt := now }

/-- The ordinary stop of the expired leases of a reconciled session. -/
def stopExpiredGroups (session : TrafficSessionState)
    (leasedGroups : List TrafficSessionGroupState) (now : Time) :
    TrafficM (CallResult HardStopReport) := do
  let report : HardStopReport := { checkedAt := now, sessionId := some session.id }
  let unknownPorts := sortedSet (leasedGroups.flatMap fun g =>
    g.ports.filter fun p => g.portStates.getD p .unknown = .unknown)
  let targetPorts := sortedSet (leasedGroups.flatMap (·.activePorts))
  if unknownPorts ≠ [] then
    pure (hardStopFailure "traffic_hard_stop_state_unverifiable"
      "expired traffic lease contains unknown live state; no stop was issued"
      { report with ports := unknownPorts })
  else if targetPorts = [] then
    pure (hardStopFailure "traffic_hard_stop_state_unverifiable"
      "expired traffic lease has no exactly active managed ports" report)
  else match ← action env .stop (some targetPorts) (some session.id) with
  | .failed f => pure (hardStopFailure (f.blocker.getD "traffic_hard_stop_failed")
      (f.error.getD "expired traffic hard stop failed") { report with ports := targetPorts })
  | .ok data => pure (.ok { report with
      attempted := some true, ports := targetPorts, stopped := some true
      session := data.session })

def reapReconciled (now : Time) (expiredStartIntent : Bool) (document : RuntimeStateDocument)
    (authority : RuntimeAuthorityIdentity) : TrafficM (CallResult HardStopReport) :=
  match document.trafficMutationIntent.filter (·.expiredStart now) with
  | some intent => pure (hardStopFailure "traffic_hard_stop_recovery_required"
      ("expired traffic start intent could not be exactly rolled back; it remains "
        ++ "authoritative and was not replayed")
      { checkedAt := now, intentNonce := some intent.nonce, ports := intent.ports })
  | none =>
    let nothing (sessionId : Option Uuid) : HardStopReport := {
      checkedAt := now, attempted := some expiredStartIntent, sessionId := sessionId
      stopped := some expiredStartIntent }
    match document.trafficSession with
    | none => pure (.ok (nothing none))
    | some session =>
      if session.authority ≠ authority then
        pure (hardStopFailure "traffic_hard_stop_authority_mismatch"
          ("expired traffic lease belongs to a different TRex target or daemon generation; no "
            ++ "stop was issued") { checkedAt := now, sessionId := some session.id })
      else if document.expiredGroups now = [] then pure (.ok (nothing (some session.id)))
      else match document.trafficMutationIntent with
      | some intent => stopExpiredLeasesOverPendingMutation env document {
          session := session
          intent := intent
          leasedGroups := document.expiredGroups now
          authority := authority
          observedAt := now }
      | none => stopExpiredGroups env session (document.expiredGroups now) now

/-- `reap_expired_hard_stops`, once its observation time is known. -/
def reapExpiredHardStopsAt (now : Time) : TrafficM (CallResult HardStopReport) :=
  withConnectionTarget env <|
  guarded TrafficError.isRuntimeState (liftM (load env))
    (fun exc => pure (failure "traffic_runtime_state_invalid" exc.text))
    fun loaded => do
  let document ← clearStoppedLeases env loaded
  let expiredStartIntent := document.expiredStartIntent now
  let expiredGroups := document.expiredGroups now
  if expiredStartIntent = false ∧ expiredGroups = [] then
    pure (.ok { checkedAt := now, attempted := some false, stopped := some false })
  else match (if expiredGroups ≠ [] then document.trafficMutationIntent else none) with
  | some intent => reapOverPendingMutation env document intent now
  | none =>
    onSuccess (snapshot env true) fun _ =>
    guarded TrafficError.isRuntimeState
      (do
        let document ← load env
        let authority ← currentAuthority env
        pure (document, authority))
      (fun exc => pure (failure "traffic_runtime_state_invalid" exc.text))
      fun (document, authority) => reapReconciled env now expiredStartIntent document authority

def reapExpiredHardStops (now : Option Time) : TrafficM (CallResult HardStopReport) := do
  let observedAt ← (match now with
    | some now => pure now
    | none => clock env : TrafficQuery Time)
  Program.modify (·.observe observedAt)
  reapExpiredHardStopsAt env observedAt

/-! ## Retirement -/

def TrafficSessionState.needsRetirement (session : TrafficSessionState) : Bool :=
  decide (session.state ≠ .stopped)
    || session.groups.any fun g => decide (g.state ≠ .stopped) || g.hardStopAt.isSome

/-- What `retire_after_trex_termination` reports. -/
structure RetirementData where
  retired : Bool
  sessionId : Option Uuid
  ports : List Port := []
  mutationIntentCleared : Bool

def retireAfterTrexTermination : TrafficM (CallResult RetirementData) :=
  guarded TrafficError.isRuntimeState (liftM (load env))
    (fun exc => pure (failure "traffic_runtime_state_invalid" exc.text))
    fun before => do
  let expectedSessionId := before.trafficSession.map (·.id)
  if (before.trafficSession.any (·.needsRetirement)) = false
      ∧ before.trafficMutationIntent = none then
    setOwned none
    pure (.ok {
      retired := false, sessionId := expectedSessionId, mutationIntentCleared := false })
  else
    let now ← utcNowIso env
    let expectedIntentNonce := before.trafficMutationIntent.map (·.nonce)
    let retiredPorts := sortedSet (
      ((before.trafficSession.map (·.ownedPorts)).getD [])
        ++ (before.trafficMutationIntent.map (·.ports)).getD [])
    guarded TrafficError.isRuntimeState
      (storeUpdate env (.retire expectedSessionId expectedIntentNonce now))
      (fun exc => pure (match exc with
        | .runtimeState .sessionIdConflict message =>
            failure "traffic_session_id_conflict" message
        | exc => failure "traffic_runtime_state_invalid" exc.text))
      fun _ => do
        setOwned none
        pure (.ok {
          retired := true
          sessionId := expectedSessionId
          ports := retiredPorts
          mutationIntentCleared := before.trafficMutationIntent.isSome })

/-! ## Runs -/

/-- A call on the authority, or a restart of its process. -/
inductive Command where
  | startGroup (groupId : String) (expectedRevision : Nat) (expectedSessionId : Option Uuid)
      (hardStopAt : Option (Except String Time))
  | start (expectedSessionId : Option Uuid) (profilePath : String)
      (ports : Option (List Port)) (command : StartCommand)
      (hardStopAt : Option (Except String Time))
  | update (ports : Option (List Port)) (multiplier : String) (force total : Bool)
      (expectedSessionId : Option Uuid)
  | action (operation : TrafficOperation) (ports : Option (List Port))
      (expectedSessionId : Option Uuid)
  | snapshot
  | reap (now : Option Time)
  | retire
  | replacePlan (expectedRevision : Nat) (groups : List TrafficGroupState)
  | restart

def Command.program : Command → TrafficM Unit
  | .startGroup groupId revision sessionId hardStopAt => do
      let _ ← TrexWebui.startGroup env groupId revision sessionId hardStopAt
  | .start sessionId path ports command hardStopAt => do
      let _ ← TrexWebui.start env sessionId path ports command hardStopAt
  | .update ports multiplier force total sessionId => do
      let _ ← TrexWebui.update env ports multiplier force total sessionId
  | .action operation ports sessionId => do
      let _ ← TrexWebui.action env operation ports sessionId
  | .snapshot => do let _ ← TrexWebui.snapshot env
  | .reap now => do let _ ← reapExpiredHardStops env now
  | .retire => do let _ ← retireAfterTrexTermination env
  | .replacePlan revision groups => do let _ ← TrexWebui.replacePlan env revision groups
  | .restart => setOwned none

/-- An operation begins: the moment of its invocation is recorded, and it has read no
authority yet. -/
def TrafficWorld.invoke (w : TrafficWorld) : TrafficWorld :=
  { w with authority := none, invocation := { store := w.store } }

def TrafficWorld.restarted (w : TrafficWorld) : TrafficWorld := w.own none

/-- One command: an operation that raises leaves the world as it is at that point,
and one during which the process ends leaves it to a new process. -/
def runCommand (s : TrafficWorld × List Consultation) (command : Command) :
    TrafficWorld × List Consultation :=
  match command.program env s.1.invoke s.2 with
  | ((.ok (), w), log) => (w, log)
  | ((.error e, w), log) => (if e.isCrash then w.restarted else w, log)

def runCommands (s : TrafficWorld × List Consultation) (commands : List Command) :
    TrafficWorld × List Consultation :=
  commands.foldl (runCommand env) s

def TrafficWorld.boot (store : PersistedDocument) (nonces : Nat := 0) : TrafficWorld where
  store := store
  nonces := nonces
  invocation := { store := store }

end

end TrexWebui
