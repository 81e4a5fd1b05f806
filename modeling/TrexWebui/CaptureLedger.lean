import TrexWebui.CaptureRecords
import TrexWebui.OrderedDict

/-!
# The ledger of the managed captures

The dictionaries of `CaptureRuntime` and the edits that its methods make on
copies of them, without the SDK and the store. `captureLeases` is what a
ledger persists, `restorePersistedLeases` what a process reads back.

A capture id is a recorder number or a pending id: the texts of two ids
agree exactly when the ids do, so ids are compared directly.
-/

namespace TrexWebui

abbrev ServiceStateDict := Dict String JsonText

/-- `state.get("enabled") is value`. -/
def ServiceStateDict.enabledIs (state : ServiceStateDict) (value : Bool) : Bool :=
  state.lookup "enabled" = some (if value then "true" else "false")

/-- `repr(capture_id)`. -/
def CaptureId.name : CaptureId → String
  | .recorder id => toString id
  | .pendingStart id => "'pending-start:" ++ id.text ++ "'"

structure CapturePreparation where
  stage : CapturePreparationStage
  preAcquiredPorts : List Port
  acquirePlannedPorts : List Port
  serviceEnablePlannedPorts : List Port
  preServiceStates : Dict Port ServiceStateDict
  deriving DecidableEq

/-- The transitions that `_set_preparation_stage` allows. -/
def CapturePreparationStage.next :
    CapturePreparationStage → List CapturePreparationStage
  | .wal => [.acquireIntent]
  | .acquireIntent => [.acquired]
  | .acquired => [.serviceIntent, .serviceRestored]
  | .serviceIntent => [.serviceEnabled, .restoreIntent]
  | .serviceEnabled => [.restoreIntent]
  | .restoreIntent => [.serviceRestored]
  | .serviceRestored => [.releaseIntent]
  | .releaseIntent => [.portsReleased]
  | .portsReleased => []

/-- `_expected_enabled_service_states`. -/
def CapturePreparation.expectedEnabled (preparation : CapturePreparation)
    (enabled : ServiceStateDict) : Dict Port ServiceStateDict :=
  Dict.ofKeys (sortedMembers preparation.preServiceStates.keys) fun p =>
    if p ∈ preparation.serviceEnablePlannedPorts then enabled
    else preparation.preServiceStates.getD p ∅

/-- A dictionary of `CaptureRuntime`, by capture id. -/
abbrev PerCapture (α : Type) := AList fun _ : CaptureId => α

/-- The fields of `CaptureRuntime` that are persisted. -/
structure CaptureRuntime where
  serviceStates : PerCapture (Dict Port ServiceStateDict) := ∅
  ports : PerCapture (List Port) := ∅
  acquiredPorts : PerCapture (List Port) := ∅
  identities : PerCapture CaptureIdentity := ∅
  authorities : PerCapture RuntimeAuthorityIdentity := ∅
  pendingBaselines : PerCapture (List Nat) := ∅
  baselineRecorders : PerCapture (List CaptureRecorderIdentityState) := ∅
  preparations : PerCapture CapturePreparation := ∅
  cleanupRequiredIds : List CaptureId := []
  deriving DecidableEq

def isSystemdGenerationRollover (expected observed : RuntimeAuthorityIdentity) : Prop :=
  expected.daemonSupervisor = .systemd ∧ observed.daemonSupervisor = .systemd
    ∧ expected.host = observed.host ∧ expected.syncPort = observed.syncPort
    ∧ expected.asyncPort = observed.asyncPort ∧ expected.scapyPort = observed.scapyPort
    ∧ expected.generation ≠ observed.generation

instance (expected observed : RuntimeAuthorityIdentity) :
    Decidable (isSystemdGenerationRollover expected observed) := by
  unfold isSystemdGenerationRollover; infer_instance

namespace CaptureRuntime

/-! ## Managed ids -/

def managedCaptureIds (r : CaptureRuntime) : List CaptureId :=
  (r.serviceStates.keys ++ r.ports.keys ++ r.acquiredPorts.keys ++ r.identities.keys
    ++ r.authorities.keys ++ r.pendingBaselines.keys ++ r.baselineRecorders.keys
    ++ r.preparations.keys ++ r.cleanupRequiredIds).eraseDups

def isPendingCaptureId (r : CaptureRuntime) (id : CaptureId) : Prop :=
  id ∈ r.pendingBaselines ∧ id ∉ r.preparations

instance (r : CaptureRuntime) (id : CaptureId) : Decidable (r.isPendingCaptureId id) := by
  unfold isPendingCaptureId; infer_instance

def isPreparingCaptureId (r : CaptureRuntime) (id : CaptureId) : Prop := id ∈ r.preparations

instance (r : CaptureRuntime) (id : CaptureId) : Decidable (r.isPreparingCaptureId id) := by
  unfold isPreparingCaptureId; infer_instance

def matchingCaptureIds (r : CaptureRuntime) (ids : List CaptureId) : List CaptureId :=
  r.managedCaptureIds.filter (· ∈ ids)

/-! ## Persistence -/

/-- The `recovery_phase` of a capture. -/
def recoveryPhase (r : CaptureRuntime) (id : CaptureId) : CaptureRecoveryPhase :=
  if id ∈ r.preparations then .preparing
  else if id ∈ r.pendingBaselines then .pendingStart
  else if id ∈ r.cleanupRequiredIds then .cleanupRequired
  else .active

/-- The record that `_capture_leases` builds of one capture. -/
def leaseWith (r : CaptureRuntime) (id : CaptureId) (identity : CaptureIdentity)
    (authority : RuntimeAuthorityIdentity) : CaptureLeaseState where
  captureId := id
  recoveryPhase := r.recoveryPhase id
  preparationStage := (r.preparations.lookup id).map (·.stage)
  baselineCaptureIds := (r.pendingBaselines.lookup id).getD []
  baselineRecorders := (r.baselineRecorders.lookup id).getD []
  preAcquiredPorts := ((r.preparations.lookup id).map (·.preAcquiredPorts)).getD []
  acquirePlannedPorts := ((r.preparations.lookup id).map (·.acquirePlannedPorts)).getD []
  serviceEnablePlannedPorts :=
    ((r.preparations.lookup id).map (·.serviceEnablePlannedPorts)).getD []
  authority := authority
  preparationServiceStates := ((r.preparations.lookup id).map (·.preServiceStates)).getD ∅
  serviceStates := (r.serviceStates.lookup id).getD ∅
  txPorts := identity.txPorts
  rxPorts := identity.rxPorts
  bpfFilter := identity.bpfFilter
  ports := (r.ports.lookup id).getD []
  acquiredPorts := (r.acquiredPorts.lookup id).getD []

/-- One iteration of `_capture_leases`: the record is validated when it is built. -/
def captureLease (r : CaptureRuntime) (id : CaptureId) : Except CaptureError CaptureLeaseState :=
  match r.identities.lookup id, r.authorities.lookup id with
  | none, _ =>
    let name := id.name
    .error (.runtimeState s!"capture lease {name} has no recorder identity")
  | some _, none =>
    let name := id.name
    .error (.runtimeState s!"capture lease {name} has no runtime authority")
  | some identity, some authority =>
    let lease := r.leaseWith id identity authority
    if lease.Valid then .ok lease
    else .error (.validation "capture lease is invalid")

def captureLeases (r : CaptureRuntime) : Except CaptureError (List CaptureLeaseState) :=
  r.managedCaptureIds.mapM r.captureLease

def validatedServiceStates (id : CaptureId) (states : Dict Port ServiceStateDict)
    (ports : List Port) : Except CaptureError (Dict Port ServiceStateDict) :=
  let name := id.name
  if ¬∀ p ∈ states.keys, p ∈ ports then
    .error (.runtimeState s!"capture lease {name} has service state outside its ports")
  else if ¬∀ s ∈ states.values, s.enabledIs true ∨ s.enabledIs false then
    .error (.runtimeState s!"capture lease {name} has an invalid service-mode state")
  else .ok states

/-- One iteration of `_restore_persisted_leases`. -/
def restoreLease (r : CaptureRuntime) (lease : CaptureLeaseState) :
    Except CaptureError CaptureRuntime := do
  let id := lease.captureId
  let states ← validatedServiceStates id lease.serviceStates lease.ports
  let restored : CaptureRuntime := { r with
    serviceStates := OrderedDict.set r.serviceStates id states
    ports := OrderedDict.set r.ports id lease.ports
    acquiredPorts := OrderedDict.set r.acquiredPorts id lease.acquiredPorts
    identities := OrderedDict.set r.identities id
      (.create lease.txPorts lease.rxPorts lease.bpfFilter)
    authorities := OrderedDict.set r.authorities id lease.authority
    pendingBaselines := if lease.unresolved then
      OrderedDict.set r.pendingBaselines id lease.baselineCaptureIds else r.pendingBaselines
    baselineRecorders := if lease.unresolved then
      OrderedDict.set r.baselineRecorders id lease.baselineRecorders else r.baselineRecorders }
  match lease.recoveryPhase, lease.preparationStage with
  | .preparing, none =>
    let name := id.name
    throw (.runtimeState s!"capture preparation {name} has no durable stage")
  | .preparing, some stage =>
    let preparation : CapturePreparation := ⟨stage, lease.preAcquiredPorts,
      lease.acquirePlannedPorts, lease.serviceEnablePlannedPorts, lease.preparationServiceStates⟩
    pure { restored with preparations := OrderedDict.set r.preparations id preparation }
  | .cleanupRequired, _ =>
    pure { restored with cleanupRequiredIds := r.cleanupRequiredIds ++ [id] }
  | .active, _ | .pendingStart, _ => pure restored

def restorePersistedLeases (leases : List CaptureLeaseState) :
    Except CaptureError CaptureRuntime :=
  leases.foldlM restoreLease {}

/-! ## Edits -/

def withPreparation (r : CaptureRuntime) (id : CaptureId)
    (states : Dict Port ServiceStateDict) (ports : List Port) (identity : CaptureIdentity)
    (authority : RuntimeAuthorityIdentity) (recorders : List CaptureRecorderIdentityState)
    (preparation : CapturePreparation) : CaptureRuntime :=
  { r with
    serviceStates := OrderedDict.set r.serviceStates id states
    ports := OrderedDict.set r.ports id ports
    acquiredPorts := OrderedDict.set r.acquiredPorts id []
    identities := OrderedDict.set r.identities id identity
    authorities := OrderedDict.set r.authorities id authority
    pendingBaselines := OrderedDict.set r.pendingBaselines id (recorders.map (·.captureId))
    baselineRecorders := OrderedDict.set r.baselineRecorders id recorders
    preparations := OrderedDict.set r.preparations id preparation }

def withStage (r : CaptureRuntime) (id : CaptureId) (preparation : CapturePreparation)
    (stage : CapturePreparationStage) : CaptureRuntime :=
  { r with
    preparations := OrderedDict.set r.preparations id { preparation with stage := stage }
    acquiredPorts := if stage = .acquired then
      OrderedDict.set r.acquiredPorts id preparation.acquirePlannedPorts else r.acquiredPorts }

def moveCaptureKey {α : Type} (source : PerCapture α) (previousId captureId : CaptureId) :
    Except CaptureError (PerCapture α) :=
  match source.lookup previousId with
  | none =>
    let name := previousId.name
    .error (.runtimeState s!"capture lease {name} is incomplete")
  | some value => .ok (OrderedDict.set (source.erase previousId) captureId value)

/-- The candidate of `_transition_pending_start`. -/
def withStarted (r : CaptureRuntime) (pendingId captureId : CaptureId)
    (cleanupRequired : Bool) : Except CaptureError CaptureRuntime := do
  let serviceStates ← moveCaptureKey r.serviceStates pendingId captureId
  let ports ← moveCaptureKey r.ports pendingId captureId
  let acquiredPorts ← moveCaptureKey r.acquiredPorts pendingId captureId
  let identities ← moveCaptureKey r.identities pendingId captureId
  let authorities ← moveCaptureKey r.authorities pendingId captureId
  pure {
    serviceStates, ports, acquiredPorts, identities, authorities
    pendingBaselines := r.pendingBaselines.erase pendingId
    baselineRecorders := r.baselineRecorders.erase pendingId
    preparations := r.preparations.erase pendingId
    cleanupRequiredIds := if cleanupRequired ∧ captureId ∉ r.cleanupRequiredIds
      then r.cleanupRequiredIds ++ [captureId] else r.cleanupRequiredIds }

/-- The candidate of `_forget_capture_ids_without_hardware`. -/
def forgetting (r : CaptureRuntime) (ids : List CaptureId) : CaptureRuntime where
  serviceStates := OrderedDict.without r.serviceStates ids
  ports := OrderedDict.without r.ports ids
  acquiredPorts := OrderedDict.without r.acquiredPorts ids
  identities := OrderedDict.without r.identities ids
  authorities := OrderedDict.without r.authorities ids
  pendingBaselines := OrderedDict.without r.pendingBaselines ids
  baselineRecorders := OrderedDict.without r.baselineRecorders ids
  preparations := OrderedDict.without r.preparations ids
  cleanupRequiredIds := r.cleanupRequiredIds.filter (· ∉ ids)

/-! ## Service modes -/

/-- `_original_service_state`: the state that the first capture to switch the port on
found there. -/
def originalServiceState (r : CaptureRuntime) (port : Port) (fallback : ServiceStateDict) :
    ServiceStateDict :=
  ((OrderedDict.values r.serviceStates).findSome? fun states =>
    (states.lookup port).filter (·.enabledIs false)).getD fallback

/-- The states of the selected captures; of two captures on a port the first counts. -/
def removedStates (r : CaptureRuntime) (selected : List CaptureId) :
    Dict Port ServiceStateDict :=
  selected.foldl (fun removed id => removed ∪ (r.serviceStates.lookup id).getD ∅) ∅

def remainsAutomatic (r : CaptureRuntime) (selected : List CaptureId) (port : Port) : Prop :=
  ∃ item ∈ OrderedDict.items r.serviceStates, item.1 ∉ selected
    ∧ ((item.2.lookup port).any (·.enabledIs false)) = true

instance (r : CaptureRuntime) (selected : List CaptureId) (port : Port) :
    Decidable (r.remainsAutomatic selected port) := by
  unfold remainsAutomatic; infer_instance

/-- The ports that `restore_service_mode` switches off, in its order. -/
def restoredPorts (r : CaptureRuntime) (selected : List CaptureId) : List Port :=
  ((r.removedStates selected).items.filter fun item =>
    item.2.enabledIs false ∧ ¬r.remainsAutomatic selected item.1).map Prod.fst

/-- The ledger without the service states of the selected captures. -/
def withoutServiceStates (r : CaptureRuntime) (selected : List CaptureId) : CaptureRuntime :=
  { r with serviceStates := OrderedDict.without r.serviceStates selected }

/-! ## Acquired ports -/

def portOwner (r : CaptureRuntime) (selected : List CaptureId) (port : Port) :
    Option CaptureId :=
  ((OrderedDict.items r.ports).find? fun item =>
    item.1 ∉ selected ∧ port ∈ item.2).map Prod.fst

/-- The ports acquired for the selected captures, with repetitions. -/
def removedAcquisitions (r : CaptureRuntime) (selected : List CaptureId) : List Port :=
  selected.flatMap fun id => (r.acquiredPorts.lookup id).getD []

def releasedPorts (r : CaptureRuntime) (selected : List CaptureId) : List Port :=
  dedupePorts ((r.removedAcquisitions selected).filter fun p => r.portOwner selected p = none)

/-- `for port in extra: if port not in ports: ports.append(port)`. -/
def appendMissing (ports extra : List Port) : List Port :=
  extra.foldl (fun acc p => if p ∈ acc then acc else acc ++ [p]) ports

/-- One iteration of the loop of `release_ports` that looks for a new owner. -/
def handOver (r : CaptureRuntime) (selected : List CaptureId)
    (transferred : PerCapture (List Port)) (p : Port) : PerCapture (List Port) :=
  match r.portOwner selected p with
  | none => transferred
  | some owner => OrderedDict.set transferred owner
      (appendMissing ((transferred.lookup owner).getD []) [p])

/-- The ports that `release_ports` hands over, by their new owner. -/
def transferredPorts (r : CaptureRuntime) (selected : List CaptureId) :
    PerCapture (List Port) :=
  (r.removedAcquisitions selected).foldl (r.handOver selected) ∅

def receivePorts (acquired : PerCapture (List Port)) (item : CaptureId × List Port) :
    PerCapture (List Port) :=
  OrderedDict.set acquired item.1 (appendMissing ((acquired.lookup item.1).getD []) item.2)

def acquiredAfterRelease (r : CaptureRuntime) (selected : List CaptureId) :
    PerCapture (List Port) :=
  (OrderedDict.items (r.transferredPorts selected)).foldl receivePorts
    (OrderedDict.without r.acquiredPorts selected)

/-- The candidate of `release_ports`. -/
def afterRelease (r : CaptureRuntime) (selected : List CaptureId) : CaptureRuntime :=
  let ports := OrderedDict.without r.ports selected
  let acquiredPorts := r.acquiredAfterRelease selected
  let gone := selected.filter fun id =>
    id ∉ r.serviceStates ∧ id ∉ ports ∧ id ∉ acquiredPorts
  { r with
    ports, acquiredPorts
    identities := OrderedDict.without r.identities gone
    authorities := OrderedDict.without r.authorities gone
    pendingBaselines := OrderedDict.without r.pendingBaselines gone
    baselineRecorders := OrderedDict.without r.baselineRecorders gone
    preparations := OrderedDict.without r.preparations gone
    cleanupRequiredIds := r.cleanupRequiredIds.filter (· ∉ gone) }

end CaptureRuntime

end TrexWebui
