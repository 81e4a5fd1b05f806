import TrexWebui.JsonLines
import TrexWebui.ReleaseEngine

/-!
# The operations of the release engine

What the installer calls, each under the lock of the state root. Between two
calls anybody may have changed the host artifacts, and the process may have
ended anywhere in an operation.
-/

namespace TrexWebui.ReleaseEngine

open PyStr PyJson JsonLines Checks OracleProgram

/-! ## Preparation -/

structure PrepareRequest where
  reserveBytes : Int
  consumerEnable : List Str
  consumerStart : List Str
  consumerRollbackPlan : List Str
  hostProfile : Option HostProfile
  transactionKind : TransactionKind

/-- `[unit for unit in CONSUMER_ENABLE_UNITS if unit in units]`, of units that are known and
differ. -/
def orderedUnits (units : List Str) (message : String) : EngineQuery (List Str) := do
  failIf (¬units.Nodup ∨ (consumerEnableUnits.filter (· ∈ units)).length ≠ units.length) message
  pure (consumerEnableUnits.filter (· ∈ units))

/-- The consumers of a request. -/
structure Intent where
  enable : List Str
  start : List Str
  rollbackPlan : List Str

/-- The checks of `prepare` before it takes the lock. -/
def checkedIntent (request : PrepareRequest) : EngineQuery Intent := do
  let enable ← orderedUnits request.consumerEnable "consumer enable intent is invalid"
  let start ← orderedUnits request.consumerStart "consumer start intent is invalid"
  failIf (∃ unit ∈ start, unit ∉ enable) "consumer start intent is invalid"
  let rollbackPlan ← orderedUnits request.consumerRollbackPlan "consumer rollback plan is invalid"
  failIf (request.transactionKind = .nMinusOne) "release transaction kind is invalid"
  failIf (request.transactionKind = .archive ∧ ¬(apiUnit ∈ rollbackPlan ∧ nginxUnit ∈ rollbackPlan))
    "archive rollback plan must include API and Nginx"
  failIf (request.transactionKind ∈ [.legacyBaseline, .selectorOnly] ∧ rollbackPlan ≠ [])
    "transaction cannot mutate consumers"
  failIf (request.hostProfile ≠ some .managedLocal ∧ (daemonUnit ∈ enable ∨ daemonUnit ∈ start
      ∨ daemonUnit ∈ rollbackPlan))
    "external-daemon host profile cannot own daemon consumer intent"
  pure { enable, start, rollbackPlan }

section

variable (env : EngineEnvironment)

def reconcileFirst : EngineM Unit := do
  let reconciled ← reconcileLocked env
  failIf (∃ t ∈ reconciled, t.phase ∉ Phase.terminal)
    "consumer recovery is still pending; acknowledge it before prepare"

def candidateBytes (digest : Str) (logicalBytes : Nat) : EngineQuery Nat := do
  let releases ← theReleases
  if digest ∈ releases then do
    check env (.verifyRelease digest)
    pure 0
  else do
    let allocated ← answered (consult env .allocatedBytes)
    pure (max allocated logicalBytes)

def capacityPreflight (candidateBytes : Nat) (reserveBytes : Int) : EngineQuery Nat := do
  failIf (reserveBytes < 0) "reserve bytes must be a non-negative integer"
  check env (.capacity candidateBytes reserveBytes.toNat)
  pure reserveBytes.toNat

def copyCandidate (digest : Str) : EngineM Unit := do
  let releases ← theReleases
  if digest ∈ releases then check env (.verifyRelease digest)
  else do
    check env (.stage digest)
    perform env (.publish digest)

def snapshotBoundaryOf (profile : Option HostProfile) (transactionId : Str) :
    EngineM (Option NativeBoundary) :=
  if profile = some .managedLocal then some <$> snapshotNativeBoundary env transactionId
  else pure none

/-- A transaction that is about to begin. -/
structure Opening where
  kind : TransactionKind
  candidate : Str
  current : Option Str
  previous : Option Str
  profile : Option HostProfile
  intent : Intent
  candidateBytes : Nat
  reserveBytes : Nat

def Opening.transaction (o : Opening) (transactionId now : Str)
    (hostArtifacts : List HostArtifact) (nativeBoundary : Option NativeBoundary) :
    Transaction where
  transactionId := transactionId
  transactionKind := o.kind
  phase := .staging
  candidate := o.candidate
  currentBefore := o.current
  previousBefore := o.previous
  rollbackAuthorityRetired := false
  hostArtifacts := hostArtifacts
  hostProfile := o.profile
  nativeBoundary := nativeBoundary
  consumerEnable := o.intent.enable
  consumerActiveBefore := []
  consumerBaseline := []
  consumerRollbackPlan := o.intent.rollbackPlan
  consumerMutationArmed := false
  daemonMutationStarted := false
  consumerStart := o.intent.start
  rollbackRestored := false
  candidateBytes := o.candidateBytes
  reserveBytes := o.reserveBytes
  createdAt := now
  updatedAt := now

def openTransaction (o : Opening) (boundary : Str → EngineM (Option NativeBoundary)) :
    EngineM Transaction := do
  let now ← consult env .utcNow
  let transactionId ← consult env .uuid
  let paths ← raised (hostPathsForProfile env.host o.profile)
  let hostArtifacts ← snapshotHostArtifacts env transactionId paths
  let nativeBoundary ← boundary transactionId
  let t := o.transaction transactionId now hostArtifacts nativeBoundary
  writeTransaction env t
  cleanupHostSnapshotsExcept env transactionId
  pure t

def openingOf (request : PrepareRequest) (intent : Intent) (current previous : Option Str) :
    EngineQuery Opening := do
  let (digest, logicalBytes) ← answered (consult env .verifySource)
  failIf (some digest = current) "candidate release is already current"
  failIf (request.transactionKind = .archive ∧ some digest = previous)
    "archive candidate is the retained previous release; use guarded N-1 rollback"
  let bytes ← candidateBytes env digest logicalBytes
  let reserveBytes ← capacityPreflight env bytes request.reserveBytes
  pure {
    kind := request.transactionKind
    candidate := digest
    current, previous, intent
    profile := request.hostProfile
    candidateBytes := bytes
    reserveBytes }

def prepare (request : PrepareRequest) : EngineM Transaction := do
  let intent ← checkedIntent request
  check env .layout
  reconcileFirst env
  check env .disjointSource
  let current ← selectorDigest env .current
  let previous ← selectorDigest env .previous
  strictPrepareHousekeeping env current previous
  let opening ← openingOf env request intent current previous
  let t ← openTransaction env opening (snapshotBoundaryOf env request.hostProfile)
  copyCandidate env t.candidate
  setPhase env t .prepared

def reactivation (profile : Option HostProfile) (current previous : Str) : Opening where
  kind := .nMinusOne
  candidate := previous
  current := some current
  previous := some previous
  profile := profile
  intent := ⟨[], [], [apiUnit, nginxUnit]⟩
  candidateBytes := 0
  reserveBytes := 0

def preparePrevious (profile : Option HostProfile) : EngineM Transaction := do
  check env .layout
  reconcileFirst env
  let current ← selectorDigest env .current
  let previous ← selectorDigest env .previous
  let current ← requireRelease current
  let previous ← requireRelease previous
  strictPrepareHousekeeping env (some current) (some previous)
  validateSelectedRelease env current
  validateSelectedRelease env previous
  let t ← openTransaction env (reactivation profile current previous) fun _ => pure none
  setPhase env t .prepared
where
  requireRelease : Option Str → EngineQuery Str
    | some digest => pure digest
    | none =>
      throw (.failed "a current and complete previous release are required for N-1 rollback")

/-! ## The steps of a transaction -/

def requireTransaction (transactionId : Str)
    (missing : String := "release transaction id does not match") : EngineQuery Transaction := do
  match ← loadTransaction env with
  | none => throw (.failed missing)
  | some t => do
    failIf (t.transactionId ≠ transactionId) "release transaction id does not match"
    pure t

def captureConsumerActiveBefore : List Str → EngineQuery (List Str)
  | [] => pure []
  | unit :: units => do
    let active ← answered (consult env (.isActive unit))
    let rest ← captureConsumerActiveBefore units
    pure (if active then unit :: rest else rest)

/-- The record of one consumer in `_capture_consumer_baseline`. -/
def captureConsumer (transactionId : Str) (index : Nat) (unit : Str) : EngineM Fields := do
  let captured ← answered (consult env (.captureConsumer unit))
  match captured.response with
  | none => pure captured.record
  | some content => do
    let backup := consumerResponseBackup transactionId index
    perform env (.writeBackup backup content)
    failIf (maxHostArtifactBytes < content.length)
      "consumer baseline response exceeds the size limit"
    let named := setKey captured.record (text "response_backup") (.str backup)
    let sized := setKey named (text "response_size") (.int content.length)
    pure (setKey sized (text "response_sha256") (.str (Sha2.hexdigest content)))

/-- The loop of `_capture_consumer_baseline`. -/
def captureConsumers (transactionId : Str) : (index : Nat) → List Str → EngineM (List Fields)
  | _, [] => pure []
  | index, unit :: units => do
    let record ← captureConsumer env transactionId index unit
    let records ← captureConsumers transactionId (index + 1) units
    pure (record :: records)

def captureConsumerBaseline (transactionId : Str) (active : List Str) :
    EngineM (List ConsumerBaseline) :=
  if active = [] then pure []
  else do
    check env (.snapshotRoot transactionId)
    let records ← captureConsumers env transactionId 0 active
    let files ← theFiles env
    raised (validateConsumerBaselineRecords env.host files transactionId active
      (.arr (records.map .obj)))

def cleanupUnarmedConsumerBaseline (transactionId : Str) : EngineM Unit := do
  check env (.snapshotRoot transactionId)
  let backups ← theBackups
  backups.forM fun entry =>
    if isUnarmedResponse transactionId entry.1 then do
      check env (.removableBackups transactionId)
      perform env (.removeBackup entry.1)
    else pure ()

def verifySnapshots (t : Transaction) : EngineQuery Unit := do
  verifyHostArtifactsExact env t
  verifyNativeBoundary env t

def revalidateBaseline (baseline : List ConsumerBaseline) : EngineQuery Unit :=
  baseline.forM fun record => do
    let ready ← answered (consult env (.isReady record))
    failIf (ready = false) "baseline consumer changed during rollback capture"

/-- The baseline of an unarmed transaction, captured between two checks of its snapshots. -/
def captureBaseline (t : Transaction) : EngineM (List Str × List ConsumerBaseline) := do
  verifySnapshots env t
  cleanupUnarmedConsumerBaseline env t.transactionId
  let active ← captureConsumerActiveBefore env t.consumerRollbackPlan
  let baseline ← captureConsumerBaseline env t.transactionId active
  verifySnapshots env t
  let observed ← captureConsumerActiveBefore env t.consumerRollbackPlan
  failIf (observed ≠ active) "consumer active-state authority changed during baseline capture"
  revalidateBaseline env baseline
  let again ← captureConsumerActiveBefore env t.consumerRollbackPlan
  failIf (again ≠ active) "consumer active-state authority changed during readiness revalidation"
  pure (active, baseline)

/-- `armed` of `arm_consumers` -/
def Transaction.armed (t : Transaction) (active : List Str) (baseline : List ConsumerBaseline)
    (now : Str) : Transaction :=
  { t with
    consumerActiveBefore := active, consumerBaseline := baseline,
    consumerMutationArmed := true, updatedAt := now }

def armConsumers (transactionId : Str) (consumers : List Str) : EngineM Transaction := do
  let requested ← orderedUnits consumers "rollback consumer scope is invalid"
  check env .layout
  let t ← requireTransaction env transactionId
  failIf (requested ≠ t.consumerRollbackPlan)
    "consumer arm scope must exactly match the immutable rollback plan"
  if t.consumerMutationArmed = true then pure t
  else do
    failIf (t.phase ≠ .prepared) "consumers can be armed only for a prepared release"
    let (active, baseline) ← captureBaseline env t
    let now ← consult env .utcNow
    writeTransaction env (t.armed active baseline now)
    pure (t.armed active baseline now)

/-- `updated` of `mark_daemon_mutation_started` -/
def Transaction.mutating (t : Transaction) (now : Str) : Transaction :=
  { t with daemonMutationStarted := true, updatedAt := now }

def markDaemonMutationStarted (transactionId : Str) : EngineM Transaction := do
  check env .layout
  let t ← requireTransaction env transactionId
  if t.daemonMutationStarted = true then pure t
  else do
    failIf (t.phase ≠ .prepared ∨ t.consumerMutationArmed ≠ true ∨ t.managedDaemonPlan = false)
      "daemon mutation intent requires an armed managed archive"
    verifySnapshots env t
    check env (.daemonMutationPreflight (decide (daemonUnit ∈ t.consumerActiveBefore)))
    let now ← consult env .utcNow
    writeTransaction env (t.mutating now)
    pure (t.mutating now)

/-- `activate`, for a prepared transaction. -/
def switchSelectors (t : Transaction) : EngineM Transaction := do
  failIf (t.consumerMutationArmed ≠ true)
    "release consumers must be durably armed before activation"
  failIf (t.managedDaemonPlan = true ∧ t.daemonMutationStarted ≠ true)
    "managed archive daemon mutation intent must be durable before activation"
  let _ ← assertSelectorsBelongToTransaction env t
  validateSelectedRelease env t.candidate
  let t ← setPhase env t .switchingCurrent
  atomicSetSelector env .current (some t.candidate)
  let t ← setPhase env t .currentSwitched
  let t ← setPhase env t .switchingPrevious
  atomicSetSelector env .previous t.currentBefore
  setPhase env t .activated

def activate (transactionId : Str) : EngineM Transaction := do
  check env .layout
  let t ← requireTransaction env transactionId "there is no prepared release transaction"
  if t.phase = .activated then do
    requireActivated env t "activated selectors do not match the transaction"
    pure t
  else if t.phase = .prepared then switchSelectors env t
  else do
    let _ ← reconcileLocked env
    throw (.failed "interrupted release transaction was rolled back; prepare it again")

def commit (transactionId : Str) : EngineM Transaction := do
  check env .layout
  let t ← requireTransaction env transactionId
  if t.phase = .committed then settleCommitted env t
  else if t.phase = .finalizingConsumerEnable then finalizeCommitLocked env t
  else if t.phase = .activated then do
    requireActivated env t "activated selectors do not match the transaction"
    let t ← setPhase env { t with daemonMutationStarted := false } .finalizingConsumerEnable
    finalizeCommitLocked env t
  else do
    let _ ← reconcileLocked env
    throw (.failed "only an activated release can be committed")

def rollback (transactionId : Str) : EngineM Transaction := do
  check env .layout
  let t ← requireTransaction env transactionId
  rollbackLocked env t

end

/-! ## Runs -/

inductive EngineOperation where
  | prepare (request : PrepareRequest)
  | preparePrevious (profile : Option HostProfile)
  | armConsumers (transactionId : Str) (consumers : List Str)
  | markDaemonMutationStarted (transactionId : Str)
  | activate (transactionId : Str)
  | commit (transactionId : Str)
  | rollback (transactionId : Str)
  | acknowledgeConsumers
  | reconcile

def EngineOperation.program (env : EngineEnvironment) : EngineOperation → EngineM Unit
  | .prepare request => do let _ ← ReleaseEngine.prepare env request
  | .preparePrevious profile => do let _ ← ReleaseEngine.preparePrevious env profile
  | .armConsumers id consumers => do let _ ← ReleaseEngine.armConsumers env id consumers
  | .markDaemonMutationStarted id => do let _ ← ReleaseEngine.markDaemonMutationStarted env id
  | .activate id => do let _ ← ReleaseEngine.activate env id
  | .commit id => do let _ ← ReleaseEngine.commit env id
  | .rollback id => do let _ ← ReleaseEngine.rollback env id
  | .acknowledgeConsumers => do let _ ← ReleaseEngine.acknowledgeConsumers env
  | .reconcile => do let _ ← ReleaseEngine.reconcile env

end TrexWebui.ReleaseEngine
