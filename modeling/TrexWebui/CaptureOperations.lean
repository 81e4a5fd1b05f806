import TrexWebui.CaptureRuntime

/-!
# Capture operations

`capture_operations.py`, and what `stl_client.py` puts around it: the
connect path that reconciles the ledger before the first operation of a
process, and the cleanup of a disconnect. The bounds of the request fields
are those of `capture_requests.py`. Packets are not described; fetching
and saving them may fail.
-/

namespace TrexWebui

open OracleProgram

/-! ## Errors -/

structure ErrorRecord where
  stage : String
  error : String
  deriving DecidableEq, Repr

/-- `exc.__class__.__name__`. -/
def CaptureError.className : CaptureError → String
  | .identity _ => "CaptureIdentityError"
  | .runtimeState _ => "RuntimeStateError"
  | .validation _ => "ValidationError"
  | .runtime _ => "RuntimeError"
  | .crashed => ""

def errorRecord (stage : String) (e : CaptureError) : ErrorRecord :=
  let text := stripped e.message
  ⟨stage, if text = "" then e.className else text⟩

def errorSummary (primaryError : Option ErrorRecord) (cleanupErrors : List ErrorRecord) :
    String :=
  let shown := fun (r : ErrorRecord) => r.stage ++ ": " ++ r.error
  let cleanup := "; ".intercalate (cleanupErrors.map shown)
  "; ".intercalate ((primaryError.toList.map shown)
    ++ (if cleanupErrors = [] then [] else [s!"cleanup failed ({cleanup})"]))

/-- `try: body except Exception as exc: …append(_error_record(stage, exc))`. -/
def attempt {α : Type} (stage : String) (body : CaptureM α) : CaptureM (Except ErrorRecord α) :=
  guarded CaptureError.caught body (fun e => pure (.error (errorRecord stage e)))
    fun a => pure (.ok a)

def attemptErrors {α : Type} : Except ErrorRecord α → List ErrorRecord
  | .ok _ => []
  | .error e => [e]

def attemptOk {α : Type} : Except ErrorRecord α → Bool
  | .ok _ => true
  | .error _ => false

section

variable (env : CaptureEnvironment)

/-! ## Shared steps -/

def assertManagedCaptureAuthority (captures : RawCaptureStatus) (captureIds : List CaptureId) :
    CaptureQuery Unit := do
  let records ← raised (captureStatusRecords captures)
  captureIds.forM fun id => do
    assertRuntimeAuthority env id
    match recordOf records id with
    | some record => assertCaptureIdentity env id record
    | none => pure ()

def cleanupPendingCaptureStart (pendingId : CaptureId) (captureId : Nat) :
    CaptureM (List ErrorRecord) := do
  match ← attempt "capture_cleanup_authority_persist"
      (requirePendingStartCleanup env pendingId captureId) with
  | .error e => pure [e]
  | .ok () => do
    let removed ← attempt "capture_remove" do
      assertRuntimeAuthority env (.recorder captureId)
      command env (.removeCapture captureId)
    match removed with
    | .error e => pure [e]
    | .ok () => do
      match ← attempt "service_mode_restore"
          (restoreServiceMode env [.recorder captureId]) with
      | .error e => pure [e]
      | .ok _ => do
        let released ← attempt "port_release" (releasePorts env [.recorder captureId])
        pure (attemptErrors released)

def ensurePortExists (port : Port) : CaptureQuery Unit := do
  let ports ← answered (consult env .getAllPorts)
  raiseIf (port ∉ ports) (CaptureError.runtime s!"port {port} does not exist")

/-! ## Starting -/

/-- The clause for a preparation that failed: the ledger is reconciled at once. -/
def preparationFailed (pendingId : CaptureId) (exc : CaptureError) : CaptureM Nat := do
  let recovery ← attempt "capture_start_recovery" do
    let status ← getCaptureStatus env
    reconcile env (some status)
  let runtime ← theRuntime
  let name := pendingId.name
  let suffix := if pendingId ∈ runtime.managedCaptureIds
    then s!"; recovery ledger {name} retained" else ""
  throw (.runtime (errorSummary (some (errorRecord "capture_start_prepare" exc))
    (attemptErrors recovery) ++ suffix))

/-- What the response of `start_capture` names, or why it cannot be used. -/
def startedCaptureId (response : Except ErrorRecord (Option CaptureStartResponse)) :
    Except ErrorRecord Nat :=
  match response with
  | .error e => .error e
  | .ok none =>
    .error ⟨"capture_start_response", "TRex capture start response must be an object"⟩
  | .ok (some response) =>
    match response.id with
    | some (.number n) =>
      if 0 ≤ n then .ok n.toNat
      else .error ⟨"capture_start_response", "CaptureRequestValidationError"⟩
    | _ => .error ⟨"capture_start_response", "CaptureRequestValidationError"⟩

/-- The end of a start that has a resolution but cannot be promoted. -/
def abandonStart (pendingId : CaptureId) (responseError : ErrorRecord)
    (resolution : PendingCaptureStartResolution) : CaptureM Nat := do
  let name := pendingId.name
  match resolution.captureId with
  | none => throw (.runtime (errorSummary (some responseError) []
      ++ ("; no uniquely attributable live recorder is visible yet; "
        ++ s!"recovery ledger {name} retained")))
  | some recorder => do
    let cleanupErrors ← cleanupPendingCaptureStart env pendingId recorder
    let runtime ← theRuntime
    let suffix := if runtime.isPendingCaptureId pendingId
        ∨ CaptureId.recorder recorder ∈ runtime.cleanupRequiredIds
      then s!"; recovery ledger retained for capture {recorder}" else ""
    throw (.runtime (errorSummary (some responseError) cleanupErrors ++ suffix))

/-- `start_capture` once the recorder may exist. -/
def finishStart (pendingId : CaptureId) (request : CaptureRequest) : CaptureM Nat := do
  let response ← attempt "capture_start" do
    assertRuntimeAuthority env pendingId
    command env (.startCapture request)
  let name := pendingId.name
  let verified ← attempt "capture_start_verification" do
    let after ← liveRecords env
    pendingStartResolution env pendingId after
  match verified with
  | .error e =>
    let summary := match response with
      | .error started => errorSummary (some started) [⟨"capture_start_recovery", e.error⟩]
      | .ok _ => errorSummary (some e) []
    throw (.runtime (summary ++ s!"; recovery ledger {name} retained"))
  | .ok resolution =>
    match startedCaptureId response with
    | .error e => abandonStart env pendingId e resolution
    | .ok captureId =>
      if resolution.captureId = some captureId then do
        match ← attempt "capture_authority_persist"
            (promotePendingStart env pendingId captureId) with
        | .ok () => pure captureId
        | .error e => do
          let cleanupErrors ← cleanupPendingCaptureStart env pendingId captureId
          throw (.runtime (errorSummary (some e) cleanupErrors))
      else
        let shown := match resolution.captureId with
          | none => "None"
          | some recorder => toString recorder
        abandonStart env pendingId ⟨"capture_start_verification",
          s!"TRex returned capture id {captureId}, but the uniquely "
            ++ s!"attributable recorder is {shown}"⟩ resolution

/-- The ledger is settled, and the intent of the start is durable. -/
def openStart (request : CaptureRequest) : CaptureM CaptureId := do
  let initialCaptures ← getCaptureStatus env
  let _ ← reconcile env (some initialCaptures)
  let before ← liveRecords env
  let operationAuthority ← runtimeAuthority env
  assertAllRuntimeAuthorities env
  let capturePorts := dedupePorts (request.txPorts ++ request.rxPorts)
  capturePorts.forM fun p => (ensurePortExists env p : CaptureM Unit)
  guarded CaptureError.caught
    (beginCaptureStart env capturePorts request.txPorts request.rxPorts request.bpfFilter
      before operationAuthority)
    (fun e => throw (.runtime
      (errorSummary (some (errorRecord "capture_start_intent_persist" e)) [])))
    pure

/-- `start_capture`: the id of the recorder. -/
def startCapture (request : CaptureRequest) : CaptureM Nat := do
  let pendingId ← openStart env request
  guarded CaptureError.caught
    (do let serviceMode ← prepareCaptureHardware env pendingId
        markCaptureRpcAttempted env pendingId
        pure serviceMode)
    (preparationFailed env pendingId) fun _ => finishStart env pendingId request

/-! ## Status and packets -/

def captureStatus : CaptureM ServiceModePayload := do
  let captures ← getCaptureStatus env
  let serviceMode ← reconcile env (some captures)
  let _ ← getCaptureStatus env
  pure serviceMode

def fetchCapture (captureId : Nat) : CaptureM Unit := do
  if .recorder captureId ∈ (← theRuntime).managedCaptureIds then do
    let captures ← getCaptureStatus env
    assertManagedCaptureAuthority env captures [.recorder captureId]
  answered (consult env (.fetchPackets captureId))
  let _ ← getCaptureStatus env

/-! ## Stopping -/

structure StopOutcome where
  captureStopped : Bool
  captureRemoved : Bool
  primaryError : Option ErrorRecord
  cleanupErrors : List ErrorRecord

def StopOutcome.accepted (o : StopOutcome) : Bool :=
  o.primaryError.isNone && o.cleanupErrors.isEmpty

/-- The first `try` of `stop`: the primary error, and whether the recorder stopped. -/
def collectPackets (captureId : Nat) (savePcap : Bool) :
    CaptureM (Option ErrorRecord × Bool) := do
  match ← attempt "capture_stop" (command env (.stopCapture captureId)) with
  | .error e => pure (some e, false)
  | .ok _ => do
    match ← attempt "packet_fetch" (answered (consult env (.fetchPackets captureId))) with
    | .error e => pure (some e, true)
    | .ok () =>
      if savePcap then do
        match ← attempt "pcap_write" (answered (consult env (.savePackets captureId))) with
        | .error e => pure (some e, true)
        | .ok () => pure (none, true)
      else pure (none, true)

/-- The ledger part of `stop`, after the recorder is gone. -/
def releaseStopped (captureId : Nat) : CaptureM (List ErrorRecord) := do
  match ← attempt "service_mode_restore" (restoreServiceMode env [.recorder captureId]) with
  | .error e => pure [e]
  | .ok _ => do
    let released ← attempt "port_release" (releasePorts env [.recorder captureId])
    pure (attemptErrors released)

def stopCapture (captureId : Nat) (savePcap : Bool) : CaptureM StopOutcome := do
  let captures ← getCaptureStatus env
  assertManagedCaptureAuthority env captures [.recorder captureId]
  let collected ← collectPackets env captureId savePcap
  let removed ← attempt "capture_remove" do
    assertRuntimeAuthority env (.recorder captureId)
    command env (.removeCapture captureId)
  let ledgerErrors ← match removed with
    | .ok () => releaseStopped env captureId
    | .error e => pure [e]
  let status ← attempt "capture_status" (getCaptureStatus env : CaptureM RawCaptureStatus)
  pure {
    captureStopped := collected.2
    captureRemoved := attemptOk removed
    primaryError := collected.1
    cleanupErrors := ledgerErrors ++ attemptErrors status }

/-! ## Removing -/

def releaseRemoved (captureIds : List CaptureId) : CaptureM ServiceModePayload := do
  let serviceMode ← restoreServiceMode env captureIds
  releasePorts env captureIds
  pure serviceMode

def removeAllCaptures : CaptureM ServiceModePayload := do
  let before ← liveRecords env
  let reconciled ← reconcile env (some (statusOf before))
  assertManagedCaptureAuthority env (statusOf before) (← theRuntime).managedCaptureIds
  assertAllRuntimeAuthorities env
  command env .removeAllCaptures
  let liveIds := before.map fun record => CaptureId.recorder record.id
  let captureIds := liveIds ++ (← theRuntime).managedCaptureIds.filter (· ∉ liveIds)
  let serviceMode ← releaseRemoved env captureIds
  let _ ← getCaptureStatus env
  pure { serviceMode with
    releasedCaptureIds := (reconciled.releasedCaptureIds ++ serviceMode.releasedCaptureIds).eraseDups
    restoredPorts := sortedSet (reconciled.restoredPorts ++ serviceMode.restoredPorts) }

def removeCapture (captureId : Nat) : CaptureM ServiceModePayload := do
  let before ← liveRecords env
  let stale := fun (w : CaptureWorld) => w.staleGenerationCaptureIds
  let staleIds ← (Query.asks stale : CaptureQuery (List CaptureId))
  let wasManaged := CaptureId.recorder captureId ∈ (← theRuntime).managedCaptureIds
    ∨ CaptureId.recorder captureId ∈ staleIds
  let serviceMode ← reconcile env (some (statusOf before))
  let runtime ← theRuntime
  if wasManaged ∧ captureId ∉ before.map (·.id)
      ∧ CaptureId.recorder captureId ∉ runtime.managedCaptureIds then do
    let _ ← getCaptureStatus env
    pure serviceMode
  else do
    assertManagedCaptureAuthority env (statusOf before) [.recorder captureId]
    assertRuntimeAuthority env (.recorder captureId)
    command env (.removeCapture captureId)
    let serviceMode ← releaseRemoved env [.recorder captureId]
    let _ ← getCaptureStatus env
    pure serviceMode

/-! ## Connecting and disconnecting -/

/-- `_connect_client_locked`: the first connection of a process reconciles the ledger. -/
def connectClient : CaptureM (CallResult Unit) := do
  match ← consult env .connect with
  | some f => pure (.failed f)
  | none => do
    let reconciled ← (Query.asks CaptureWorld.captureReconciled : CaptureQuery Bool)
    if reconciled then pure (.ok ())
    else
      guarded CaptureError.caught (reconcile env none)
        (fun e =>
          let detail := if e.message = "" then e.className else e.message
          pure (failure "trex_runtime_reconciliation_failed"
            s!"capture runtime reconciliation failed: {detail}"))
        fun _ => do
          Program.modify CaptureWorld.markReconciled
          pure (.ok ())

def runWithClient {α : Type} (operation : CaptureM α) : CaptureM (CallResult α) := do
  match ← connectClient env with
  | .failed f => pure (.failed f)
  | .ok () =>
    guarded CaptureError.caught operation
      (fun e => pure (failure "trex_command_failed" e.message)) fun a => pure (.ok a)

/-- The body of the loop of `_cleanup_managed_captures`. -/
def cleanUpManagedCapture (live : List CaptureRecord) (captureId : CaptureId) :
    CaptureM Unit := do
  match recordOf live captureId with
  | some record => do
    assertRuntimeAuthority env captureId
    command env (.removeCapture record.id)
  | none => pure ()
  let _ ← restoreServiceMode env [captureId]
  releasePorts env [captureId]

/-- `_cleanup_managed_captures`; a failure of any step is raised. -/
def cleanUpManagedCaptures : CaptureM Unit := do
  if (← theRuntime).managedCaptureIds = [] then pure ()
  else do
    let status ← getCaptureStatus env
    let _ ← reconcile env (some status)
    let captureIds := (← theRuntime).managedCaptureIds
    if captureIds = [] then pure ()
    else do
      let live ← liveRecords env
      captureIds.forM fun id => do
        match recordOf live id with
        | some record => (assertCaptureIdentity env id record : CaptureM Unit)
        | none => pure ()
      captureIds.forM (cleanUpManagedCapture env live)

/-! ## Operations -/

/-- A request to the capture facade; `disconnect` stands for the cleanup of the captures
that it starts with. -/
inductive CaptureOperation where
  | status
  | start (request : CaptureRequest)
  | fetch (captureId : Nat)
  | stop (captureId : Nat) (savePcap : Bool)
  | remove (captureId : Nat)
  | removeAll
  | disconnect

/-- The operation, without its result; a stop that is not accepted counts as an error. -/
def CaptureOperation.body : CaptureOperation → CaptureM Unit
  | .status => do let _ ← captureStatus env
  | .start request => do let _ ← startCapture env request
  | .fetch captureId => fetchCapture env captureId
  | .stop captureId savePcap => do
    let outcome ← stopCapture env captureId savePcap
    raiseIf (outcome.accepted = false) (CaptureError.runtime
      (errorSummary outcome.primaryError outcome.cleanupErrors))
  | .remove captureId => do let _ ← removeCapture env captureId
  | .removeAll => do let _ ← removeAllCaptures env
  | .disconnect => cleanUpManagedCaptures env

def CaptureOperation.run (operation : CaptureOperation) : CaptureM (CallResult Unit) :=
  runWithClient env (operation.body env)

end

end TrexWebui
