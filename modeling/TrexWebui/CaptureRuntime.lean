import TrexWebui.CaptureWorld

/-!
# Capture recovery

The methods of `CaptureRuntime` that talk to the server. Each is a program
over `CaptureWorld`; what only reads is a query, so that it cannot change
the ledger or the server. The errors carry the texts of the source.

`classifyEntry` is the body of the first loop of `reconcile`: it decides
what to do with one entry of the ledger, and changes nothing.
-/

namespace TrexWebui

open OracleProgram

/-- The answer of the methods that report service modes. -/
structure ServiceModePayload where
  enabledPorts : List Port := []
  alreadyEnabledPorts : List Port := []
  restoredPorts : List Port := []
  managedCaptureIds : List CaptureId := []
  releasedCaptureIds : List CaptureId := []

structure PendingCaptureStartResolution where
  captureId : Option Nat
  newCaptureIds : List Nat

/-! ## Pure checks -/

namespace CaptureRuntime

def requiredPreparation (r : CaptureRuntime) (id : CaptureId)
    (expectedStage : Option CapturePreparationStage := none) :
    Except CaptureError CapturePreparation :=
  let name := id.name
  match r.preparations.lookup id with
  | none => .error (.runtimeState s!"capture preparation {name} does not exist")
  | some preparation =>
    match expectedStage with
    | none => .ok preparation
    | some expected =>
      if preparation.stage = expected then .ok preparation
      else
        let stage := preparation.stage.text
        let wanted := expected.text
        .error (.runtimeState
          s!"capture preparation {name} is at '{stage}', expected '{wanted}'")

def checkBaselineRecorder (id : CaptureId) (records : List CaptureRecord)
    (expected : CaptureRecorderIdentityState) : Except CaptureError Unit :=
  let name := id.name
  match recordOf records (.recorder expected.captureId) with
  | none =>
    let recorder := expected.captureId
    .error (.identity ("capture start baseline changed concurrently; "
      ++ s!"recorder {recorder} disappeared and ledger {name} was retained"))
  | some record =>
    if record.identity = some (.create expected.txPorts expected.rxPorts expected.bpfFilter)
    then .ok ()
    else .error (.identity ("capture start baseline recorder identity changed concurrently; "
      ++ s!"ledger {name} retained"))

def assertBaselineRecorders (r : CaptureRuntime) (id : CaptureId)
    (records : List CaptureRecord) (allowNewRecorders : Bool) : Except CaptureError Unit :=
  let name := id.name
  match r.baselineRecorders.lookup id with
  | none => .error (.identity s!"capture start ledger {name} has no baseline identities")
  | some expected =>
    if allowNewRecorders = false
        ∧ (records.map (·.id)).toFinset ≠ (expected.map (·.captureId)).toFinset then
      .error (.identity ("capture preparation recorder baseline changed concurrently; "
        ++ s!"ledger {name} retained"))
    else expected.forM (checkBaselineRecorder id records)

/-- What `_record_identity` and the ids of the baseline leave of the new recorders. -/
def newRecords (r : CaptureRuntime) (id : CaptureId) (records : List CaptureRecord) :
    List CaptureRecord :=
  records.filter fun record => record.id ∉ (r.pendingBaselines.lookup id).getD []

/-- The last part of `pending_start_resolution`. -/
def resolveNewRecords (r : CaptureRuntime) (id : CaptureId) (records : List CaptureRecord) :
    Except CaptureError PendingCaptureStartResolution :=
  match r.identities.lookup id with
  | none =>
    let name := id.name
    .error (.identity s!"capture lease {name} has no persisted recorder identity")
  | some expected =>
    let new := r.newRecords id records
    let newCaptureIds := new.map (·.id)
    match new, new.filter fun record => record.identity = some expected with
    | [], _ => .ok ⟨none, []⟩
    | [_], [record] => .ok ⟨some record.id, newCaptureIds⟩
    | _, _ => .error (.identity ("capture start recovery cannot safely attribute a unique "
        ++ s!"live recorder; new ids are {newCaptureIds}"))

def serviceModePayload (r : CaptureRuntime) : ServiceModePayload where
  enabledPorts := sortedSet ((OrderedDict.values r.serviceStates).flatMap fun states =>
    (states.items.filter fun item => item.2.enabledIs false).map Prod.fst)
  alreadyEnabledPorts := sortedSet ((OrderedDict.values r.serviceStates).flatMap fun states =>
    (states.items.filter fun item => item.2.enabledIs true).map Prod.fst)
  managedCaptureIds := r.managedCaptureIds

end CaptureRuntime

def validatedServiceState (port : Port) (enabled filtered : Option Bool)
    (mask : Option (Option Int)) : Except CaptureError ServiceStateDict :=
  match enabled, filtered, mask with
  | none, _, _ =>
    .error (.runtimeState s!"capture port {port} has an invalid service-mode state")
  | some _, none, _ =>
    .error (.runtimeState s!"capture port {port} has an invalid filtered service-mode state")
  | some _, some _, none =>
    .error (.runtimeState s!"capture port {port} has an invalid service-mode mask")
  | some enabled, some filtered, some mask =>
    .ok (ServiceState.toDict ⟨enabled, filtered, mask⟩)

def baselineRecorder (record : CaptureRecord) :
    Except CaptureError CaptureRecorderIdentityState :=
  match record.identity with
  | none =>
    let recorder := record.id
    .error (.identity s!"baseline capture {recorder} has no exact recorder identity")
  | some identity =>
    if h : identity.txPorts.Nodup ∧ identity.rxPorts.Nodup ∧ identity.bpfFilter.length ≤ 1024
    then .ok ⟨record.id, identity.txPorts, identity.rxPorts, identity.bpfFilter,
      h.1, h.2.1, h.2.2⟩
    else .error (.validation "capture recorder identity is invalid")

/-- The loop of `_service_intent_states_are_attributable` over the planned ports. -/
def enabledPrefix (pre expected current : Dict Port ServiceStateDict) :
    List Port → Bool → Bool → Bool
  | [], _, observedEnabled => observedEnabled
  | p :: rest, ended, observedEnabled =>
    if current.lookup p = expected.lookup p then
      if ended then false else enabledPrefix pre expected current rest ended true
    else if current.lookup p = pre.lookup p then
      enabledPrefix pre expected current rest true observedEnabled
    else false

/-- What `set_service_mode(enabled=True, filtered=False, mask=None)` leaves. -/
def enabledState : ServiceStateDict := (ServiceState.plain true).toDict

namespace CapturePreparation

/-- `_service_intent_states_are_attributable`. -/
def attributable (preparation : CapturePreparation) (current : Dict Port ServiceStateDict) :
    Bool :=
  (preparation.preServiceStates.items.all fun item =>
    item.1 ∈ preparation.serviceEnablePlannedPorts || current.lookup item.1 = some item.2)
  && enabledPrefix preparation.preServiceStates (preparation.expectedEnabled enabledState)
    current preparation.serviceEnablePlannedPorts false false

def allowed (preparation : CapturePreparation) (p : Port) (state : ServiceStateDict) : Bool :=
  some state = preparation.preServiceStates.lookup p
    || (p ∈ preparation.serviceEnablePlannedPorts
      && some state = (preparation.expectedEnabled enabledState).lookup p)

end CapturePreparation

section

variable (env : CaptureEnvironment)

/-! ## Reading the server -/

/-- `client.get_capture_status()`, validated. -/
def liveRecords : CaptureQuery (List CaptureRecord) := do
  raised (validatedCaptureStatusRecords (← getCaptureStatus env))

def strictAcquiredPorts : CaptureQuery (Finset Port) := do
  raiseIf (env.canListAcquired = false)
    (CaptureError.runtimeState "TRex client cannot prove its exact acquired-port snapshot")
  match ← answered (consult env .getAcquiredPorts) with
  | .invalid =>
    throw (.runtimeState "TRex client returned an invalid acquired-port snapshot")
  | .ports ports => do
    raiseIf (∃ n ∈ ports, n < 0)
      (CaptureError.runtimeState "TRex client returned an invalid acquired-port snapshot")
    raiseIf (¬ports.Nodup)
      (CaptureError.runtimeState "TRex client returned duplicate acquired ports")
    pure (ports.map Int.toNat).toFinset

/-- `_currently_acquired_ports`: a client that cannot say leaves the ports as they are. -/
def currentlyAcquiredPorts (ports : List Port) : CaptureQuery (List Port) :=
  if env.canListAcquired = false then pure ports
  else guarded CaptureError.caught (answered (consult env .getAcquiredPorts))
    (fun _ => pure ports) fun acquired =>
      match acquired with
      | .invalid => pure ports
      | .ports acquired => pure (ports.filter fun p => Int.ofNat p ∈ acquired)

def strictSynchronizedServiceState (port : Port) : CaptureQuery ServiceStateDict := do
  match ← consult env (.syncPort port) with
  | .unresolved =>
    throw (.runtimeState s!"capture recovery cannot resolve TRex port {port}")
  | .notSynchronizable =>
    throw (.runtimeState s!"capture recovery cannot synchronize TRex port {port}")
  | .failed error =>
    let suffix := if error = "" then "" else ": " ++ error
    throw (.runtimeState s!"capture recovery failed to synchronize TRex port {port}{suffix}")
  | .fields enabled filtered mask => raised (validatedServiceState port enabled filtered mask)

def snapshotRecoveryServiceStates (ports : List Port) :
    CaptureQuery (Dict Port ServiceStateDict) :=
  ports.foldlM (fun states p => do
    let state ← strictSynchronizedServiceState env p
    pure (states.insert p state)) ∅

/-! ## Authority and identity -/

def assertRuntimeAuthority (captureId : CaptureId) : CaptureQuery Unit := do
  let runtime ← theRuntime
  if captureId ∈ runtime.managedCaptureIds then
    let name := captureId.name
    match runtime.authorities.lookup captureId with
    | none =>
      throw (.identity s!"capture lease {name} has no persisted runtime authority")
    | some expected => do
      let observed ← runtimeAuthority env
      raiseIf (observed ≠ expected) (CaptureError.identity
        (s!"capture lease {name} belongs to a different TRex target "
          ++ "or daemon generation"))
  else pure ()

def assertAllRuntimeAuthorities : CaptureQuery Unit := do
  (← theRuntime).managedCaptureIds.forM (assertRuntimeAuthority env)

def assertCaptureIdentity (captureId : CaptureId) (record : CaptureRecord) :
    CaptureQuery Unit := do
  let runtime ← theRuntime
  if captureId ∈ runtime.managedCaptureIds then do
    assertRuntimeAuthority env captureId
    let name := captureId.name
    match runtime.identities.lookup captureId with
    | none => throw (.identity s!"capture lease {name} has no persisted recorder identity")
    | some expected =>
      raiseIf (record.identity ≠ some expected) (CaptureError.identity
        s!"capture lease {name} does not match the live recorder identity")
  else pure ()

def validatedCurrentAuthority (authority : Option RuntimeAuthorityIdentity) :
    CaptureQuery RuntimeAuthorityIdentity := do
  let observed ← runtimeAuthority env
  raiseIf (∃ expected, authority = some expected ∧ expected ≠ observed)
    (CaptureError.identity "TRex target or daemon generation changed during capture start")
  pure observed

/-! ## Commands -/

def enableServiceMode (port : Port) (state : ServiceStateDict) : CaptureM Unit :=
  if state.enabledIs false then command env (.setServiceMode port true) else pure ()

def restoreServiceModeStrict (port : Port) (state : ServiceStateDict) : CaptureM Unit :=
  if state.enabledIs false then command env (.setServiceMode port false) else pure ()

/-- `_release_ports_for_operation_strict`. -/
def releasePortsForOperation (ports : List Port) : CaptureM Unit :=
  if ports = [] then pure () else command env (.release ports)

/-! ## The stages of a start -/

def setPreparationStage (pendingId : CaptureId) (stage : CapturePreparationStage) :
    CaptureM Unit := do
  assertRuntimeAuthority env pendingId
  let runtime ← theRuntime
  let preparation ← raised (runtime.requiredPreparation pendingId)
  let name := pendingId.name
  let from_ := preparation.stage.text
  let to_ := stage.text
  raiseIf (stage ∉ preparation.stage.next) (CaptureError.runtimeState
    s!"capture preparation {name} cannot transition from '{from_}' to '{to_}'")
  replaceRuntimeState env (runtime.withStage pendingId preparation stage)

def targetAcquiredPorts (pendingId : CaptureId) : CaptureQuery (Finset Port) := do
  let runtime ← theRuntime
  let acquired ← strictAcquiredPorts env
  pure (((runtime.ports.lookup pendingId).getD []).toFinset ∩ acquired)

def confirmCaptureAcquired (pendingId : CaptureId) : CaptureM Unit := do
  let preparation ← raised ((← theRuntime).requiredPreparation pendingId (some .acquireIntent))
  assertRuntimeAuthority env pendingId
  let acquired ← targetAcquiredPorts env pendingId
  let name := pendingId.name
  raiseIf (acquired ≠ (preparation.preAcquiredPorts ++ preparation.acquirePlannedPorts).toFinset)
    (CaptureError.identity
      ("capture acquisition could not be confirmed exactly; " ++ s!"ledger {name} retained"))
  setPreparationStage env pendingId .acquired

/-- `begin_capture_start`; the caller has validated the records of the baseline. -/
def beginCaptureStart (ports txPorts rxPorts : List Port) (bpfFilter : String)
    (baselineRecords : List CaptureRecord) (authority : RuntimeAuthorityIdentity) :
    CaptureM CaptureId := do
  let runtime ← theRuntime
  raiseIf (runtime.pendingBaselines.keys ≠ [] ∨ runtime.preparations.keys ≠ [])
    (CaptureError.runtimeState
      "an unresolved capture start must be reconciled before starting another")
  let observedAuthority ← validatedCurrentAuthority env (some authority)
  let normalizedPorts := dedupePorts ports
  let acquiredSnapshot ← strictAcquiredPorts env
  let preServiceStates ← snapshotRecoveryServiceStates env normalizedPorts
  let baselineRecorders ← raised (baselineRecords.mapM baselineRecorder)
  let _ ← validatedCurrentAuthority env (some observedAuthority)
  let pendingId := CaptureId.pendingStart (← freshCaptureUuid)
  let restoreStates := Dict.ofKeys normalizedPorts fun p =>
    runtime.originalServiceState p (preServiceStates.getD p ∅)
  let states ← raised
    (CaptureRuntime.validatedServiceStates pendingId restoreStates normalizedPorts)
  replaceRuntimeState env (runtime.withPreparation pendingId states normalizedPorts
    (.create txPorts rxPorts bpfFilter) observedAuthority baselineRecorders
    { stage := .wal
      preAcquiredPorts := normalizedPorts.filter (· ∈ acquiredSnapshot)
      acquirePlannedPorts := normalizedPorts.filter (· ∉ acquiredSnapshot)
      serviceEnablePlannedPorts := normalizedPorts.filter fun p =>
        (preServiceStates.getD p ∅).enabledIs false
      preServiceStates := preServiceStates })
  pure pendingId

def preparedServiceModePayload (runtime : CaptureRuntime) (pendingId : CaptureId) :
    Except CaptureError ServiceModePayload := do
  let preparation ← runtime.requiredPreparation pendingId
  pure {
    enabledPorts := preparation.serviceEnablePlannedPorts
    alreadyEnabledPorts := sortedSet (((runtime.ports.lookup pendingId).getD []).filter
      (· ∉ preparation.serviceEnablePlannedPorts)) }

/-- The first half of `prepare_capture_hardware`: the ports are acquired. -/
def acquireCapturePorts (pendingId : CaptureId) : CaptureM Unit := do
  let preparation ← raised ((← theRuntime).requiredPreparation pendingId (some .wal))
  assertRuntimeAuthority env pendingId
  let acquired ← targetAcquiredPorts env pendingId
  let name := pendingId.name
  raiseIf (acquired ≠ preparation.preAcquiredPorts.toFinset) (CaptureError.identity
    ("capture port ownership changed after the durable preparation "
      ++ s!"snapshot; ledger {name} retained"))
  raiseIf (preparation.acquirePlannedPorts ≠ [] ∧ env.canAcquire = false)
    (CaptureError.runtimeState "TRex client does not expose port acquisition")
  setPreparationStage env pendingId .acquireIntent
  if preparation.acquirePlannedPorts ≠ [] then do
    assertRuntimeAuthority env pendingId
    command env (.acquire preparation.acquirePlannedPorts)
  confirmCaptureAcquired env pendingId

/-- The second half of `prepare_capture_hardware`: service mode is switched on. -/
def enableCaptureService (pendingId : CaptureId) : CaptureM Unit := do
  let runtime ← theRuntime
  let preparation ← raised (runtime.requiredPreparation pendingId (some .acquired))
  assertRuntimeAuthority env pendingId
  let ports := (runtime.ports.lookup pendingId).getD []
  let currentStates ← snapshotRecoveryServiceStates env ports
  let name := pendingId.name
  raiseIf (currentStates ≠ preparation.preServiceStates) (CaptureError.identity
    ("capture service-mode state changed after the durable preparation "
      ++ s!"snapshot; ledger {name} retained"))
  setPreparationStage env pendingId .serviceIntent
  preparation.serviceEnablePlannedPorts.forM fun p => do
    assertRuntimeAuthority env pendingId
    enableServiceMode env p (preparation.preServiceStates.getD p ∅)
  assertRuntimeAuthority env pendingId
  let enabledStates ← snapshotRecoveryServiceStates env ports
  raiseIf (enabledStates ≠ preparation.expectedEnabled enabledState) (CaptureError.identity
    ("capture service-mode enable could not be confirmed exactly; "
      ++ s!"ledger {name} retained"))
  setPreparationStage env pendingId .serviceEnabled

def prepareCaptureHardware (pendingId : CaptureId) : CaptureM ServiceModePayload := do
  acquireCapturePorts env pendingId
  enableCaptureService env pendingId
  raised (preparedServiceModePayload (← theRuntime) pendingId)

def markCaptureRpcAttempted (pendingId : CaptureId) : CaptureM Unit := do
  let runtime ← theRuntime
  let _ ← raised (runtime.requiredPreparation pendingId (some .serviceEnabled))
  assertRuntimeAuthority env pendingId
  replaceRuntimeState env { runtime with preparations := runtime.preparations.erase pendingId }

def transitionPendingStart (pendingId : CaptureId) (captureId : Nat)
    (cleanupRequired : Bool) : CaptureM Unit := do
  let runtime ← theRuntime
  let name := pendingId.name
  raiseIf (pendingId ∉ runtime.pendingBaselines) (CaptureError.runtimeState
    s!"capture pending-start authority {name} does not exist")
  assertRuntimeAuthority env pendingId
  raiseIf (.recorder captureId ∈ runtime.managedCaptureIds) (CaptureError.identity
    s!"TRex capture id {captureId} is already managed")
  let candidate ← raised (runtime.withStarted pendingId (.recorder captureId) cleanupRequired)
  replaceRuntimeState env candidate

def promotePendingStart (pendingId : CaptureId) (captureId : Nat) : CaptureM Unit :=
  transitionPendingStart env pendingId captureId false

def requirePendingStartCleanup (pendingId : CaptureId) (captureId : Nat) : CaptureM Unit :=
  transitionPendingStart env pendingId captureId true

/-! ## Forgetting, restoring and releasing -/

def forgetCaptureIdsWithoutHardware (ids : List CaptureId) : CaptureM Unit := do
  replaceRuntimeState env ((← theRuntime).forgetting ids)
  Program.modify (·.markStale ids)

def restoreServiceMode (captureIds : List CaptureId) : CaptureM ServiceModePayload := do
  let runtime ← theRuntime
  let selected := runtime.matchingCaptureIds captureIds
  selected.forM fun id => (assertRuntimeAuthority env id : CaptureM Unit)
  let restored := runtime.restoredPorts selected
  restored.forM fun p => command env (.setServiceMode p false)
  replaceRuntimeState env (runtime.withoutServiceStates selected)
  pure { (← theRuntime).serviceModePayload with
    restoredPorts := restored
    releasedCaptureIds := selected.filter (· ∈ runtime.serviceStates) }

def releasePorts (captureIds : List CaptureId) : CaptureM Unit := do
  let runtime ← theRuntime
  let selected := runtime.matchingCaptureIds captureIds
  selected.forM fun id => (assertRuntimeAuthority env id : CaptureM Unit)
  let released ← currentlyAcquiredPorts env (runtime.releasedPorts selected)
  releasePortsForOperation env released
  replaceRuntimeState env (runtime.afterRelease selected)

def recoverAcquiredPorts (captureIds : List CaptureId) : CaptureM Unit := do
  let runtime ← theRuntime
  captureIds.forM fun id => (assertRuntimeAuthority env id : CaptureM Unit)
  let managed := dedupePorts ((OrderedDict.items runtime.acquiredPorts).flatMap fun item =>
    if item.1 ∈ captureIds then item.2 else [])
  if managed = [] ∨ env.canListAcquired = false ∨ env.canAcquire = false then pure ()
  else do
    match ← answered (consult env .getAcquiredPorts) with
    | .invalid => throw (.runtime "get_acquired_ports() returned no list")
    | .ports acquired =>
      let missing := managed.filter fun p => Int.ofNat p ∉ acquired
      if missing = [] then pure () else command env (.acquire missing)

/-! ## Recovering a preparation -/

def claimPlannedPortsForRecovery (pendingId : CaptureId) : CaptureM (Finset Port) := do
  let preparation ← raised ((← theRuntime).requiredPreparation pendingId)
  let planned := preparation.acquirePlannedPorts.toFinset
  let name := pendingId.name
  let locallyAcquired ← strictAcquiredPorts env
  let missing := sortedMembers (planned \ locallyAcquired)
  if planned = ∅ then pure locallyAcquired
  else if missing = [] then pure locallyAcquired
  else do
    raiseIf (env.canAcquire = false) (CaptureError.identity
      ("TRex client cannot probe server ownership for capture "
        ++ s!"recovery; ledger {name} retained"))
    assertRuntimeAuthority env pendingId
    guarded CaptureError.caught (command env (.acquire missing))
      (fun _ => throw (.identity
        ("capture recovery could not acquire its planned ports "
          ++ "without force; a previous or concurrent STL session may "
          ++ s!"still own them and ledger {name} was retained")))
      fun _ => do
        let locallyAcquired ← strictAcquiredPorts env
        raiseIf (¬planned ⊆ locallyAcquired) (CaptureError.identity
          ("capture recovery could not confirm current-session ownership "
            ++ s!"of its planned ports; ledger {name} retained"))
        pure locallyAcquired

/-- The stages `acquired`, `service_intent` and `service_enabled` of a recovery. -/
def leaveServiceStages (pendingId : CaptureId) (preparation : CapturePreparation)
    (currentStates : Dict Port ServiceStateDict) : CaptureM Unit :=
  let name := pendingId.name
  let ambiguous : CaptureError := .identity
    ("capture service-mode outcome is ambiguous after restart; "
      ++ s!"ledger {name} retained without restoring or releasing")
  match preparation.stage with
  | .acquired => do
    raiseIf (currentStates ≠ preparation.preServiceStates) ambiguous
    setPreparationStage env pendingId .serviceRestored
  | .serviceIntent =>
    if currentStates = preparation.preServiceStates then
      setPreparationStage env pendingId .serviceRestored
    else if preparation.attributable currentStates then
      setPreparationStage env pendingId .restoreIntent
    else throw ambiguous
  | .serviceEnabled => do
    raiseIf (currentStates ≠ preparation.expectedEnabled enabledState) (CaptureError.identity
      ("confirmed capture service-mode state changed concurrently; "
        ++ s!"ledger {name} retained without restoring or releasing"))
    setPreparationStage env pendingId .restoreIntent
  | _ => pure ()

/-- One iteration of the loop that switches the planned ports off again. -/
def restorePlannedPort (pendingId : CaptureId) (preparation : CapturePreparation)
    (currentStates : Dict Port ServiceStateDict) (locallyAcquired : Finset Port) (p : Port) :
    CaptureM Unit := do
  let name := pendingId.name
  if currentStates.lookup p = preparation.preServiceStates.lookup p then pure ()
  else do
    raiseIf (p ∉ locallyAcquired) (CaptureError.identity
      ("capture recovery cannot prove current-session ownership "
        ++ s!"of service-mode port {p}; ledger {name} "
        ++ "retained without restoring or releasing"))
    assertRuntimeAuthority env pendingId
    match (((← theRuntime).serviceStates.lookup pendingId).getD ∅).lookup p with
    | none => throw (.runtime (toString p))
    | some state => restoreServiceModeStrict env p state

/-- The stage `restore_intent` of a recovery. -/
def restorePlannedPorts (pendingId : CaptureId) (locallyAcquired : Finset Port) :
    CaptureM Unit := do
  let runtime ← theRuntime
  let preparation ← raised (runtime.requiredPreparation pendingId)
  let name := pendingId.name
  if preparation.stage = .restoreIntent then do
    let ports := (runtime.ports.lookup pendingId).getD []
    let currentStates ← snapshotRecoveryServiceStates env ports
    currentStates.items.forM fun item => do
      let port := item.1
      raiseIf (preparation.allowed item.1 item.2 = false) (CaptureError.identity
        ("capture recovery observed an ambiguous service-mode "
          ++ s!"state on port {port}; ledger {name} retained"))
    preparation.serviceEnablePlannedPorts.reverse.forM
      (restorePlannedPort env pendingId preparation currentStates locallyAcquired)
    let restoredStates ← snapshotRecoveryServiceStates env ports
    raiseIf (restoredStates ≠ preparation.preServiceStates) (CaptureError.identity
      ("capture recovery could not confirm service-mode restoration; "
        ++ s!"ledger {name} retained"))
    setPreparationStage env pendingId .serviceRestored
  else pure ()

/-- The stage `service_restored` of a recovery. -/
def leaveServiceRestored (pendingId : CaptureId) : CaptureM Unit := do
  let runtime ← theRuntime
  let preparation ← raised (runtime.requiredPreparation pendingId)
  let name := pendingId.name
  if preparation.stage = .serviceRestored then do
    let states ← snapshotRecoveryServiceStates env ((runtime.ports.lookup pendingId).getD [])
    raiseIf (states ≠ preparation.preServiceStates) (CaptureError.identity
      ("restored capture service-mode state changed concurrently; "
        ++ s!"ledger {name} retained"))
    setPreparationStage env pendingId .releaseIntent
  else pure ()

/-- The end of a recovery: the planned ports are released, and the entry is forgotten. -/
def releasePlannedPorts (pendingId : CaptureId) (ports : List Port) : CaptureM Unit := do
  let preparation ← raised ((← theRuntime).requiredPreparation pendingId)
  assertRuntimeAuthority env pendingId
  releasePortsForOperation env ports
  let acquired ← strictAcquiredPorts env
  let name := pendingId.name
  raiseIf (preparation.acquirePlannedPorts.toFinset ∩ acquired ≠ ∅) (CaptureError.identity
    ("capture recovery could not confirm its port release; " ++ s!"ledger {name} retained"))
  setPreparationStage env pendingId .portsReleased
  forgetCaptureIdsWithoutHardware env [pendingId]

/-- `_recover_capture_preparation` from the stage `acquired` on. -/
def recoverAcquiredPreparation (pendingId : CaptureId) : CaptureM Unit := do
  let locallyAcquired ← claimPlannedPortsForRecovery env pendingId
  let runtime ← theRuntime
  let preparation ← raised (runtime.requiredPreparation pendingId)
  let currentStates ←
    snapshotRecoveryServiceStates env ((runtime.ports.lookup pendingId).getD [])
  leaveServiceStages env pendingId preparation currentStates
  restorePlannedPorts env pendingId locallyAcquired
  leaveServiceRestored env pendingId
  releasePlannedPorts env pendingId preparation.acquirePlannedPorts

def recoverCapturePreparation (records : List CaptureRecord) (pendingId : CaptureId) :
    CaptureM Unit := do
  assertRuntimeAuthority env pendingId
  let runtime ← theRuntime
  raised (runtime.assertBaselineRecorders pendingId records false)
  let preparation ← raised (runtime.requiredPreparation pendingId)
  match preparation.stage with
  | .wal | .portsReleased => forgetCaptureIdsWithoutHardware env [pendingId]
  | .acquireIntent =>
    if preparation.acquirePlannedPorts = [] then
      forgetCaptureIdsWithoutHardware env [pendingId]
    else do
      let _ ← claimPlannedPortsForRecovery env pendingId
      setPreparationStage env pendingId .acquired
      recoverAcquiredPreparation env pendingId
  | .releaseIntent => do
    let locallyAcquired ← claimPlannedPortsForRecovery env pendingId
    releasePlannedPorts env pendingId
      (sortedMembers (preparation.acquirePlannedPorts.toFinset ∩ locallyAcquired))
  | .acquired | .serviceIntent | .serviceEnabled | .restoreIntent | .serviceRestored =>
    recoverAcquiredPreparation env pendingId

/-! ## Reconciliation -/

def pendingStartResolution (pendingId : CaptureId) (records : List CaptureRecord) :
    CaptureQuery PendingCaptureStartResolution := do
  let runtime ← theRuntime
  let name := pendingId.name
  raiseIf (pendingId ∉ runtime.pendingBaselines) (CaptureError.runtimeState
    s!"capture pending-start authority {name} does not exist")
  assertRuntimeAuthority env pendingId
  raised (runtime.assertBaselineRecorders pendingId records true)
  raised (runtime.resolveNewRecords pendingId records)

/-- What `reconcile` will do with an entry of the ledger. -/
inductive EntryPlan where
  | staleGeneration
  | preparing
  | pending (recorder : Nat)
  | cleanup (recorder : Option Nat)
  | matching
  | missing
  deriving DecidableEq

/-- The body of the first loop of `reconcile`. -/
def classifyEntry (records : List CaptureRecord) (current : RuntimeAuthorityIdentity)
    (captureId : CaptureId) : CaptureQuery EntryPlan := do
  let runtime ← theRuntime
  let name := captureId.name
  let record := recordOf records captureId
  match runtime.authorities.lookup captureId with
  | none => throw (.identity s!"capture lease {name} has no persisted runtime authority")
  | some expected =>
    if expected ≠ current then
      if ¬isSystemdGenerationRollover expected current then
        throw (.identity (s!"capture lease {name} belongs to a different TRex "
          ++ "target or daemon generation"))
      else if runtime.isPendingCaptureId captureId ∨ runtime.isPreparingCaptureId captureId then
        pure .staleGeneration
      else match record with
        | some _ => throw (.identity (s!"capture lease {name} belongs to an earlier daemon "
            ++ "generation and its id is in use by the current daemon; "
            ++ "the lease belongs to a different TRex target or daemon generation"))
        | none => pure .staleGeneration
    else if runtime.isPreparingCaptureId captureId then do
      raised (runtime.assertBaselineRecorders captureId records true)
      pure .preparing
    else if runtime.isPendingCaptureId captureId then do
      let resolution ← pendingStartResolution env captureId records
      match resolution.captureId with
      | none => throw (.identity ("capture start recovery is still waiting for a uniquely "
          ++ s!"attributable live recorder; ledger {name} retained"))
      | some recorder => pure (.pending recorder)
    else if captureId ∈ runtime.cleanupRequiredIds then
      match record with
      | some record => do
        assertCaptureIdentity env captureId record
        pure (.cleanup (some record.id))
      | none => pure (.cleanup none)
    else match record with
      | none => pure .missing
      | some record => do
        assertCaptureIdentity env captureId record
        pure .matching

def planned (entries : List (CaptureId × EntryPlan)) (plan : EntryPlan) : List CaptureId :=
  (entries.filter fun entry => entry.2 = plan).map Prod.fst

def pendingResolutions (entries : List (CaptureId × EntryPlan)) : List (CaptureId × Nat) :=
  entries.filterMap fun
    | (id, .pending recorder) => some (id, recorder)
    | _ => none

/-- `cleanup_records` after the classification. -/
def cleanupRecords (entries : List (CaptureId × EntryPlan)) : List (CaptureId × Option Nat) :=
  entries.filterMap fun
    | (id, .cleanup recorder) => some (id, recorder)
    | _ => none

/-- The first loop of `reconcile`, and what precedes it. -/
def classifyLedger (records : List CaptureRecord) : CaptureQuery (List (CaptureId × EntryPlan)) := do
  let current ← runtimeAuthority env
  (← theRuntime).managedCaptureIds.mapM fun id => do
    let plan ← classifyEntry env records current id
    pure (id, plan)

/-- The body of the loop over `cleanup_records`. -/
def cleanUpCapture (entry : CaptureId × Option Nat) : CaptureM Unit := do
  assertRuntimeAuthority env entry.1
  match entry.2 with
  | some recorder => command env (.removeCapture recorder)
  | none => pure ()
  let _ ← restoreServiceMode env [entry.1]
  releasePorts env [entry.1]

/-- The end of `reconcile`: the ports of the matching entries are acquired again, and the
entries without a recorder are released. -/
def settleActive (entries : List (CaptureId × EntryPlan)) : CaptureM ServiceModePayload := do
  recoverAcquiredPorts env (planned entries .matching)
  let missing := planned entries .missing
  if missing = [] then pure (← theRuntime).serviceModePayload
  else do
    let serviceMode ← restoreServiceMode env missing
    releasePorts env missing
    pure serviceMode

/-- The loops of `reconcile` over the entries of this generation. -/
def settleCurrent (records : List CaptureRecord) (entries : List (CaptureId × EntryPlan)) :
    CaptureM ServiceModePayload := do
  (planned entries .preparing).forM (recoverCapturePreparation env records)
  (pendingResolutions entries).forM fun entry =>
    requirePendingStartCleanup env entry.1 entry.2
  (cleanupRecords entries).forM (cleanUpCapture env)
  (pendingResolutions entries).forM fun entry =>
    cleanUpCapture env (.recorder entry.2, some entry.2)
  settleActive env entries

/-- `reconcile` after the classification. -/
def settleLedger (records : List CaptureRecord) (entries : List (CaptureId × EntryPlan)) :
    CaptureM ServiceModePayload := do
  let stale := planned entries .staleGeneration
  if stale ≠ [] then forgetCaptureIdsWithoutHardware env stale
  settleCurrent env records entries

/-- The recorders that `reconcile` works with. -/
def reconcileRecords : Option RawCaptureStatus → CaptureQuery (List CaptureRecord)
  | none => liveRecords env
  | some status => raised (validatedCaptureStatusRecords status)

def reconcile (captures : Option RawCaptureStatus) : CaptureM ServiceModePayload := do
  let records ← reconcileRecords env captures
  let entries ← classifyLedger env records
  settleLedger env records entries

end

end TrexWebui
