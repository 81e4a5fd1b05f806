import TrexWebui.CaptureSoundness

/-!
# Runs of the capture runtime

An invariant that survives the commands, the edits of the ledger and the
opening of a start survives every operation (`operation_keeps`). A run is
any sequence of operations, each against surroundings of its own, of
restarts, which read the ledger back from the file, and of changes that
others make to the server or to the rest of the document (`CaptureStep`).
-/

namespace TrexWebui

open OracleProgram

/-- What survives the steps of the operations survives every operation. -/
structure OperationInvariant (env : CaptureEnvironment) (I : CaptureWorld → Prop) : Prop where
  edits : CaptureInvariant env (fun _ => True) (fun _ => True) I
  sent : ∀ w log r, I w → I (w.sent r (env.react w log r).2)
  begun : ∀ w candidate doc, w.runtime.Begins candidate → w.runtime.cleanupRequiredIds = [] →
    WritesLedger w candidate doc → I w → I (w.commit doc)
  opened : ∀ w candidate doc, w.runtime.Begins candidate → w.runtime.cleanupRequiredIds = [] →
    WritesLedger w candidate doc → I w → I ((w.commit doc).assign candidate)
  drawn : ∀ w, I w → I w.draw
  connected : ∀ w, I w → I w.markReconciled
  sound : ∀ w, I w → w.runtime.Sound

section

variable {env : CaptureEnvironment} {I : CaptureWorld → Prop} {w : CaptureWorld}

variable (hI : OperationInvariant env I)

include hI

/-! ## Reconciliation and starts -/

theorem reconcile_spec (captures : Option RawCaptureStatus) :
    Spec I w (reconcile env captures)
      (fun _ w' => w'.runtime.cleanupRequiredIds = []) fun _ => True := by
  refine ⟨fun hw log => ?_⟩
  rcases reconcile_run env captures w log with ⟨e, herror⟩ | ⟨records, _, current, _, entries,
    log₃, _, _, hclassified, hrun⟩
  · rw [herror]
    exact ⟨hw, trivial⟩
  · rw [hrun]
    exact (settleLedger_settles hI.edits hI.sent hclassified (hI.sound w hw)).run hw log₃

theorem reconcile_keeps (captures : Option RawCaptureStatus) : Keeps I (reconcile env captures) :=
  fun _ => (reconcile_spec hI captures).mono (fun _ _ _ _ => trivial) fun _ _ _ => trivial

theorem command_anyKeeps (r : CaptureRpc) : Keeps I (command env r) := anyCommand_keeps hI.sent r

theorem beginCaptureStart_spec {ports txPorts rxPorts : List Port} {bpfFilter : String}
    {before : List CaptureRecord} {authority : RuntimeAuthorityIdentity}
    (hcleanup : w.runtime.cleanupRequiredIds = []) :
    Spec I w (beginCaptureStart env ports txPorts rxPorts bpfFilter before authority)
      (fun _ _ => True) fun _ => True := by
  unfold beginCaptureStart
  refine runtime_bind (Spec.raiseIf_bind trivial fun hnone => ?_)
  obtain ⟨hpending, hpreparing⟩ := not_or.mp hnone
  refine Spec.query_bind trivial fun observed => Spec.query_bind trivial fun acquired => ?_
  refine Spec.query_bind trivial fun states => raised_bind trivial fun recorders _ => ?_
  refine Spec.query_bind trivial fun _ => ?_
  refine Spec.call (S := fun _ w' => w' = w.draw) (F := fun _ => True)
    ⟨fun hw _ => ⟨hI.drawn w hw, rfl⟩⟩ (fun uuid w' _ hw' => ?_) fun _ _ _ => trivial
  subst hw'
  refine raised_bind trivial fun restoreStates _ => ?_
  have hbegins : ∀ {id states ports identity authority recorders preparation},
      w.draw.runtime.Begins (w.runtime.withPreparation id states ports identity authority
        recorders preparation) := fun {id states ports identity authority recorders preparation} =>
    ⟨not_not.mp hpending, not_not.mp hpreparing, id, states, ports, identity, authority,
      recorders, preparation, rfl⟩
  refine Spec.call (replaceRuntimeState_spec (fun doc => hI.begun w.draw _ doc hbegins hcleanup)
    fun doc => hI.opened w.draw _ doc hbegins hcleanup) (fun _ _ _ _ => Spec.pure trivial)
    fun _ _ _ => trivial

theorem openStart_keeps (request : CaptureRequest) : Keeps I (openStart env request) := by
  intro w
  unfold openStart
  refine Spec.query_bind trivial fun status => ?_
  refine Spec.call (reconcile_spec hI _) (fun _ w₁ _ hcleanup => ?_) fun _ _ _ => trivial
  refine Spec.query_bind trivial fun before => Spec.query_bind trivial fun authority => ?_
  refine Spec.query_bind trivial fun _ => ?_
  dsimp only
  refine Spec.call (S := fun _ w' => w'.runtime = w₁.runtime) (F := fun _ => True)
    ((forM_sameRuntime rfl fun p _ w' _ => Spec.query (fun _ => rfl) rfl).mono
      (fun _ _ _ h => h) fun _ _ _ => trivial) (fun _ w₂ _ h₂ => ?_) fun _ _ _ => trivial
  refine Spec.guarded (beginCaptureStart_spec hI (h₂ ▸ hcleanup))
    (fun _ _ _ _ => Spec.pure trivial) (fun _ _ _ _ => Spec.throw trivial) fun _ _ _ => trivial

theorem cleanupPendingCaptureStart_keeps (pendingId : CaptureId) (captureId : Nat) :
    Keeps I (cleanupPendingCaptureStart env pendingId captureId) := by
  unfold cleanupPendingCaptureStart
  have htransition : Keeps I (requirePendingStartCleanup env pendingId captureId) :=
    transitionPendingStart_keeps hI.edits trivial captureId true fun _ _ _ => trivial
  refine keeps_bind (keeps_attempt htransition) fun persisted => ?_
  cases persisted with
  | error e => exact keeps_pure
  | ok _ =>
      refine keeps_bind (keeps_attempt (keeps_bind keeps_query fun _ => command_anyKeeps hI _))
        fun removed => ?_
      cases removed with
      | error e => exact keeps_pure
      | ok _ =>
          refine keeps_bind (keeps_attempt (restoreServiceMode_keeps hI.edits fun _ _ => trivial))
            fun restored => ?_
          cases restored with
          | error e => exact keeps_pure
          | ok _ =>
              refine keeps_bind (keeps_attempt (releasePorts_keeps hI.edits fun _ _ => trivial))
                fun _ => keeps_pure

theorem preparationFailed_keeps (pendingId : CaptureId) (exc : CaptureError) :
    Keeps I (preparationFailed env pendingId exc) := by
  unfold preparationFailed
  refine keeps_bind (keeps_attempt (keeps_bind keeps_query fun status => reconcile_keeps hI _))
    fun recovery => ?_
  exact keeps_bind keeps_query fun runtime => keeps_throw

theorem abandonStart_keeps (pendingId : CaptureId) (e : ErrorRecord)
    (resolution : PendingCaptureStartResolution) :
    Keeps I (abandonStart env pendingId e resolution) := by
  unfold abandonStart
  dsimp only
  cases resolution.captureId with
  | none => exact keeps_throw
  | some recorder =>
      refine keeps_bind (cleanupPendingCaptureStart_keeps hI pendingId recorder) fun errors => ?_
      exact keeps_bind keeps_query fun runtime => keeps_throw

theorem finishStart_keeps (pendingId : CaptureId) (request : CaptureRequest) :
    Keeps I (finishStart env pendingId request) := by
  unfold finishStart
  refine keeps_bind (keeps_attempt (keeps_bind keeps_query fun _ => command_anyKeeps hI _))
    fun response => ?_
  refine keeps_bind (keeps_attempt (keeps_bind keeps_query fun after => keeps_query))
    fun verified => ?_
  cases verified with
  | error e => exact keeps_throw
  | ok resolution =>
      dsimp only
      cases startedCaptureId response with
      | error e => exact abandonStart_keeps hI pendingId e resolution
      | ok captureId =>
          refine keeps_ite (fun _ => ?_) fun _ => abandonStart_keeps hI pendingId _ resolution
          have hpromote : Keeps I (promotePendingStart env pendingId captureId) :=
            transitionPendingStart_keeps hI.edits trivial captureId false fun _ _ _ => trivial
          refine keeps_bind (keeps_attempt hpromote) fun promoted => ?_
          cases promoted with
          | ok _ => exact keeps_pure
          | error e =>
              exact keeps_bind (cleanupPendingCaptureStart_keeps hI pendingId captureId)
                fun errors => keeps_throw

theorem startCapture_keeps (request : CaptureRequest) : Keeps I (startCapture env request) := by
  unfold startCapture
  refine keeps_bind (openStart_keeps hI request) fun pendingId => ?_
  refine keeps_guarded ?_ (preparationFailed_keeps hI pendingId)
    fun _ => finishStart_keeps hI pendingId request
  refine keeps_bind (prepareCaptureHardware_keeps hI.edits trivial) fun payload => ?_
  exact keeps_bind (markCaptureRpcAttempted_keeps hI.edits trivial) fun _ => keeps_pure

/-! ## Stops and removals -/

theorem collectPackets_keeps (captureId : Nat) (savePcap : Bool) :
    Keeps I (collectPackets env captureId savePcap) := by
  unfold collectPackets
  refine keeps_bind (keeps_attempt (command_anyKeeps hI _)) fun stopped => ?_
  cases stopped with
  | error e => exact keeps_pure
  | ok _ =>
      refine keeps_bind (keeps_attempt keeps_query) fun fetched => ?_
      cases fetched with
      | error e => exact keeps_pure
      | ok _ =>
          refine keeps_ite (fun _ => ?_) fun _ => keeps_pure
          refine keeps_bind (keeps_attempt keeps_query) fun saved => ?_
          cases saved with
          | error e => exact keeps_pure
          | ok _ => exact keeps_pure

theorem releaseStopped_keeps (captureId : Nat) : Keeps I (releaseStopped env captureId) := by
  unfold releaseStopped
  refine keeps_bind (keeps_attempt (restoreServiceMode_keeps hI.edits fun _ _ => trivial))
    fun restored => ?_
  cases restored with
  | error e => exact keeps_pure
  | ok _ =>
      exact keeps_bind (keeps_attempt (releasePorts_keeps hI.edits fun _ _ => trivial))
        fun _ => keeps_pure

theorem stopCapture_keeps (captureId : Nat) (savePcap : Bool) :
    Keeps I (stopCapture env captureId savePcap) := by
  unfold stopCapture
  refine keeps_bind keeps_query fun captures => keeps_bind keeps_query fun _ => ?_
  refine keeps_bind (collectPackets_keeps hI captureId savePcap) fun collected => ?_
  refine keeps_bind (keeps_attempt (keeps_bind keeps_query fun _ => command_anyKeeps hI _))
    fun removed => ?_
  have hrest : ∀ ledgerErrors : List ErrorRecord, Keeps I (do
      let status ← attempt "capture_status" (getCaptureStatus env : CaptureM RawCaptureStatus)
      pure ({
        captureStopped := collected.2
        captureRemoved := attemptOk removed
        primaryError := collected.1
        cleanupErrors := ledgerErrors ++ attemptErrors status } : StopOutcome)) :=
    fun ledgerErrors => keeps_bind (keeps_attempt keeps_query) fun status => keeps_pure
  cases removed with
  | ok _ => exact keeps_bind (releaseStopped_keeps hI captureId) hrest
  | error e => exact hrest [e]

theorem releaseRemoved_keeps (captureIds : List CaptureId) :
    Keeps I (releaseRemoved env captureIds) := by
  unfold releaseRemoved
  refine keeps_bind (restoreServiceMode_keeps hI.edits fun _ _ => trivial) fun payload => ?_
  exact keeps_bind (releasePorts_keeps hI.edits fun _ _ => trivial) fun _ => keeps_pure

theorem removeAllCaptures_keeps : Keeps I (removeAllCaptures env) := by
  unfold removeAllCaptures
  refine keeps_bind keeps_query fun before => keeps_bind (reconcile_keeps hI _) fun reconciled => ?_
  refine keeps_bind keeps_query fun runtime => keeps_bind keeps_query fun _ => ?_
  refine keeps_bind keeps_query fun _ => keeps_bind (command_anyKeeps hI _) fun _ => ?_
  refine keeps_bind keeps_query fun runtime' => ?_
  refine keeps_bind (releaseRemoved_keeps hI _) fun payload => ?_
  exact keeps_bind keeps_query fun _ => keeps_pure

theorem removeCapture_runKeeps (captureId : Nat) : Keeps I (removeCapture env captureId) := by
  unfold removeCapture
  refine keeps_bind keeps_query fun before => keeps_bind keeps_query fun staleIds => ?_
  refine keeps_bind keeps_query fun runtime => keeps_bind (reconcile_keeps hI _) fun payload => ?_
  refine keeps_bind keeps_query fun runtime' => keeps_ite (fun _ => ?_) fun _ => ?_
  · exact keeps_bind keeps_query fun _ => keeps_pure
  · refine keeps_bind keeps_query fun _ => keeps_bind keeps_query fun _ => ?_
    refine keeps_bind (command_anyKeeps hI _) fun _ => ?_
    refine keeps_bind (releaseRemoved_keeps hI _) fun payload' => ?_
    exact keeps_bind keeps_query fun _ => keeps_pure

theorem cleanUpManagedCapture_keeps (live : List CaptureRecord) (id : CaptureId) :
    Keeps I (cleanUpManagedCapture env live id) := by
  unfold cleanUpManagedCapture
  have hrest : Keeps I (do
      let _ ← restoreServiceMode env [id]
      releasePorts env [id]) :=
    keeps_bind (restoreServiceMode_keeps hI.edits fun _ _ => trivial)
      fun _ => releasePorts_keeps hI.edits fun _ _ => trivial
  cases recordOf live id with
  | none => exact hrest
  | some record =>
      exact keeps_bind keeps_query fun _ => keeps_bind (command_anyKeeps hI _) fun _ => hrest

theorem cleanUpManagedCaptures_keeps : Keeps I (cleanUpManagedCaptures env) := by
  unfold cleanUpManagedCaptures
  refine keeps_bind keeps_query fun runtime => keeps_ite (fun _ => keeps_pure) fun _ => ?_
  refine keeps_bind keeps_query fun status => keeps_bind (reconcile_keeps hI _) fun _ => ?_
  refine keeps_bind keeps_query fun runtime' => keeps_ite (fun _ => keeps_pure) fun _ => ?_
  refine keeps_bind keeps_query fun live => keeps_bind (keeps_forM fun id _ => ?_) fun _ => ?_
  · cases recordOf live id with
    | none => exact keeps_pure
    | some record => exact keeps_query
  · exact keeps_forM fun id _ => cleanUpManagedCapture_keeps hI live id

/-! ## Operations -/

theorem connectClient_keeps : Keeps I (connectClient env) := by
  unfold connectClient
  refine keeps_bind keeps_query fun connected => ?_
  cases connected with
  | some f => exact keeps_pure
  | none =>
      refine keeps_bind keeps_query fun reconciled => keeps_ite (fun _ => keeps_pure) fun _ => ?_
      refine keeps_guarded (reconcile_keeps hI none) (fun e => keeps_pure) fun _ w => ?_
      exact Spec.modify_bind (hI.connected w) (Spec.pure trivial)

theorem runWithClient_keeps {α : Type} {operation : CaptureM α} (h : Keeps I operation) :
    Keeps I (runWithClient env operation) := by
  unfold runWithClient
  refine keeps_bind (connectClient_keeps hI) fun connected => ?_
  cases connected with
  | failed f => exact keeps_pure
  | ok _ => exact keeps_guarded h (fun e => keeps_pure) fun a => keeps_pure

theorem body_keeps (operation : CaptureOperation) : Keeps I (operation.body env) := by
  cases operation with
  | status =>
      refine keeps_bind (keeps_bind keeps_query fun captures => ?_) fun _ => keeps_pure
      exact keeps_bind (reconcile_keeps hI _) fun _ => keeps_bind keeps_query fun _ => keeps_pure
  | start request => exact keeps_bind (startCapture_keeps hI request) fun _ => keeps_pure
  | fetch captureId =>
      refine keeps_bind keeps_query fun runtime => ?_
      have hrest : Keeps I (do
          answered (consult env (.fetchPackets captureId))
          let _ ← getCaptureStatus env
          pure () : CaptureM Unit) :=
        keeps_bind keeps_query fun _ => keeps_bind keeps_query fun _ => keeps_pure
      refine keeps_ite (fun _ => ?_) fun _ => hrest
      exact keeps_bind keeps_query fun captures => keeps_bind keeps_query fun _ => hrest
  | stop captureId savePcap =>
      exact keeps_bind (stopCapture_keeps hI captureId savePcap) fun outcome => keeps_raiseIf
  | remove captureId =>
      exact keeps_bind (removeCapture_runKeeps hI captureId) fun _ => keeps_pure
  | removeAll => exact keeps_bind (removeAllCaptures_keeps hI) fun _ => keeps_pure
  | disconnect => exact cleanUpManagedCaptures_keeps hI

/-- Every operation keeps the invariant, against any surroundings. -/
theorem operation_keeps (operation : CaptureOperation) : Keeps I (operation.run env) :=
  runWithClient_keeps hI (body_keeps hI operation)

end

/-! ## Runs -/

/-- What a run is exposed to: how the SDK and the file system may answer, and what others
may do to the server. -/
structure CaptureSurroundings where
  environment : CaptureEnvironment → Prop
  drift : CaptureDaemon → CaptureDaemon → Prop

def CaptureSurroundings.any : CaptureSurroundings where
  environment := fun _ => True
  drift := fun _ _ => True

def CaptureWorld.restarted (w : CaptureWorld) (runtime : CaptureRuntime) (daemon : CaptureDaemon) :
    CaptureWorld :=
  { w with
    runtime := runtime, daemon := daemon, staleGenerationCaptureIds := []
    captureReconciled := false }

/-- One step of a run: an operation, which may end anywhere; a restart, after which the
session owns no port; or a change by others. -/
inductive CaptureStep (S : CaptureSurroundings) : CaptureWorld → CaptureWorld → Prop where
  | operation {w : CaptureWorld} {env : CaptureEnvironment} {log : List CaptureConsultation}
      (operation : CaptureOperation) (henv : S.environment env) :
      CaptureStep S w (operation.run env w log).1.2
  | restart {w : CaptureWorld} {runtime : CaptureRuntime} {daemon : CaptureDaemon}
      (hread : CaptureRuntime.restorePersistedLeases w.leases = .ok runtime)
      (hdrift : S.drift { w.daemon with session := ∅ } daemon) :
      CaptureStep S w (w.restarted runtime daemon)
  | others {w : CaptureWorld} {doc : PersistedDocument} {daemon : CaptureDaemon}
      (hleases : doc.document.captureLeases = w.leases) (hdrift : S.drift w.daemon daemon) :
      CaptureStep S w { w with store := doc, daemon := daemon }

/-- A service without captures. -/
structure CaptureWorld.Fresh (w : CaptureWorld) : Prop where
  runtime : w.runtime = {}
  leases : w.leases = []

def CaptureReachable (S : CaptureSurroundings) (w : CaptureWorld) : Prop :=
  ∃ first, first.Fresh ∧ Relation.ReflTransGen (CaptureStep S) first w

theorem CaptureReachable.invariant {S : CaptureSurroundings} {J : CaptureWorld → Prop}
    (hfresh : ∀ w : CaptureWorld, w.Fresh → J w)
    (hstep : ∀ w w', J w → CaptureStep S w w' → J w') {w : CaptureWorld}
    (h : CaptureReachable S w) : J w := by
  obtain ⟨first, hfirst, hrun⟩ := h
  induction hrun with
  | refl => exact hfresh first hfirst
  | tail _ hlast ih => exact hstep _ _ ih hlast

/-! ## Every reachable ledger is sound and recorded -/

def LeasesSound (leases : List CaptureLeaseState) : Prop :=
  (∃ l ∈ leases, l.unresolved = true) → ∀ l ∈ leases, l.recoveryPhase ≠ .cleanupRequired

/-- What holds of every reachable state. -/
structure RunSound (w : CaptureWorld) : Prop where
  sound : w.runtime.Sound
  recorded : w.runtime.Recorded
  leases : LeasesSound w.leases

section

variable {env : CaptureEnvironment} {w : CaptureWorld} {S : CaptureSurroundings}
  {candidate : CaptureRuntime} {doc : PersistedDocument}

theorem WritesLedger.leasesSound (h : WritesLedger w candidate doc) (hsound : candidate.Sound) :
    LeasesSound doc.document.captureLeases := by
  rintro ⟨lease, hlease, hunresolved⟩ other hother hphase
  obtain ⟨id, _, hid⟩ := (CaptureRuntime.mem_captureLeases h.leases).mp hlease
  obtain ⟨other_id, _, hother_id⟩ := (CaptureRuntime.mem_captureLeases h.leases).mp hother
  have hpending : id ∈ candidate.pendingBaselines :=
    ((CaptureRuntime.unresolved_of_captureLease hid).mp hunresolved).elim
      (hsound.preparing id) fun h => h
  obtain ⟨_, _, _, _, rfl, _⟩ := CaptureRuntime.captureLease_eq_ok.mp hother_id
  change candidate.recoveryPhase other_id = .cleanupRequired at hphase
  unfold CaptureRuntime.recoveryPhase at hphase
  rw [hsound.settled id hpending] at hphase
  split at hphase
  · cases hphase
  · split at hphase
    · cases hphase
    · simp at hphase

theorem RunSound.written (h : RunSound w) (hsound : candidate.Sound)
    (hwrites : WritesLedger w candidate doc) :
    RunSound (w.commit doc) ∧ RunSound ((w.commit doc).assign candidate) :=
  ⟨⟨h.sound, h.recorded, hwrites.leasesSound hsound⟩,
    ⟨hsound, hwrites.recorded, hwrites.leasesSound hsound⟩⟩

theorem runSound_invariant : OperationInvariant env RunSound where
  edits := {
    sent := fun _ _ _ _ h => ⟨h.sound, h.recorded, h.leases⟩
    committed := fun _ _ _ hedit hwrites h => (h.written (h.sound.edit hedit) hwrites).1
    assigned := fun _ _ _ hedit hwrites h => (h.written (h.sound.edit hedit) hwrites).2
    stale := fun _ _ h => ⟨h.sound, h.recorded, h.leases⟩ }
  sent := fun _ _ _ h => ⟨h.sound, h.recorded, h.leases⟩
  begun := fun _ _ _ hbegins hcleanup hwrites h =>
    (h.written (CaptureRuntime.Sound.begun hcleanup hbegins) hwrites).1
  opened := fun _ _ _ hbegins hcleanup hwrites h =>
    (h.written (CaptureRuntime.Sound.begun hcleanup hbegins) hwrites).2
  drawn := fun _ h => ⟨h.sound, h.recorded, h.leases⟩
  connected := fun _ h => ⟨h.sound, h.recorded, h.leases⟩
  sound := fun _ h => h.sound

theorem Restored.sound {runtime : CaptureRuntime}
    (h : Restored doc.document.captureLeases runtime)
    (hleases : LeasesSound doc.document.captureLeases) : runtime.Sound := by
  have hvalid := doc.valid.leases_valid
  refine ⟨fun id id' hid hid' => h.recorded.one_unresolved id id' (.inr hid) (.inr hid'),
    fun id hid => ?_, fun id hid => ?_⟩
  · obtain ⟨l, hl, hunresolved⟩ := (h.unresolved hvalid).mp (.inl hid)
    rw [← AList.lookup_isSome, h.pendingBaselines, hl]
    simp [hunresolved]
  · obtain ⟨l, hl, hunresolved⟩ := (h.unresolved hvalid).mp (.inr hid)
    rw [List.eq_nil_iff_forall_not_mem]
    intro other hother
    obtain ⟨l', hl', hphase⟩ := (h.cleanupRequiredIds other).mp hother
    exact hleases ⟨l, (leaseOf_some hl).1, hunresolved⟩ l' (leaseOf_some hl').1 hphase

theorem runSound_step {w' : CaptureWorld} (h : RunSound w) (hstep : CaptureStep S w w') :
    RunSound w' := by
  cases hstep with
  | @operation env log operation henv =>
      have hkeeps : Keeps RunSound (operation.run env) := operation_keeps runSound_invariant operation
      have hrun := (hkeeps w).run h log
      rcases hresult : operation.run env w log with ⟨⟨result, w'⟩, log'⟩
      rw [hresult] at hrun
      cases result with
      | ok a => exact hrun.1
      | error e => exact hrun.1
  | restart hread hdrift =>
      have hrestored := restored_of_restore w.store.valid.capture_ids_unique hread
      exact ⟨hrestored.sound h.leases, hrestored.recorded, h.leases⟩
  | others hleases hdrift =>
      refine ⟨h.sound, h.recorded, ?_⟩
      have hkept := h.leases
      rwa [← hleases] at hkept

theorem CaptureReachable.runSound (h : CaptureReachable S w) : RunSound w := by
  refine h.invariant (fun w hfresh => ⟨?_, ?_, ?_⟩) fun w w' hw hstep => runSound_step hw hstep
  · rw [hfresh.runtime]
    exact CaptureRuntime.sound_empty
  · rw [hfresh.runtime]
    have hnone : CaptureRuntime.captureLeases {} = .ok [] := rfl
    exact CaptureRuntime.recorded_of_leases hnone (by simp)
  · rw [hfresh.leases]
    exact fun ⟨l, hl, _⟩ => nomatch hl

end

/-! ## What a reconciliation removes -/

/-- What a recorder that a reconciliation removes was attributed to. -/
inductive Attributed (r : CaptureRuntime) (records : List CaptureRecord)
    (current : RuntimeAuthorityIdentity) (n : Nat) : Prop where
  /-- An entry that requires cleanup, whose live recorder has its ports and filter. -/
  | cleanup {id : CaptureId} (hmanaged : id ∈ r.managedCaptureIds) (howned : r.OwnedNow current id)
      (hcleanup : id ∈ r.cleanupRequiredIds) (hlive : r.LiveMatch id records n)
  /-- A pending start with one recorder outside its baseline, which is as requested. -/
  | pending {id : CaptureId} (hmanaged : id ∈ r.managedCaptureIds) (howned : r.OwnedNow current id)
      (hpending : r.isPendingCaptureId id) (hnew : r.UniqueNew id records n)
      (hbaseline : n ∉ (r.pendingBaselines.lookup id).getD [])

section

variable {env : CaptureEnvironment} {w : CaptureWorld} {records : List CaptureRecord}
  {current : RuntimeAuthorityIdentity} {entries : List (CaptureId × EntryPlan)} {n : Nat}

theorem Classified.attributed (h : Classified w.runtime records current entries)
    (hn : Removable w.runtime entries n) : Attributed w.runtime records current n
      ∧ ¬w.runtime.Active (.recorder n) := by
  have hmanaged : ∀ {id plan}, (id, plan) ∈ entries → id ∈ w.runtime.managedCaptureIds := by
    intro id plan hentry
    rw [← h.ids]
    exact List.mem_map.mpr ⟨_, hentry, rfl⟩
  rcases hn with ⟨id, hentry⟩ | ⟨id, hentry, hinactive⟩
  · obtain ⟨howned, _, hcleanup, hlive⟩ := h.plans _ hentry
    refine ⟨.cleanup (hmanaged hentry) howned hcleanup hlive, fun hactive => ?_⟩
    obtain ⟨record, identity, hrecord, rfl, _, _⟩ := hlive
    rw [(recordOf_some hrecord).2] at hcleanup
    exact hactive.2.2 hcleanup
  · obtain ⟨howned, hpending, _, hnew⟩ := h.plans _ hentry
    exact ⟨.pending (hmanaged hentry) howned hpending hnew hnew.not_baseline, hinactive⟩

theorem Attributed.not_baseline (h : Attributed w.runtime records current n)
    (hsound : w.runtime.Sound) (id : CaptureId) :
    n ∉ (w.runtime.pendingBaselines.lookup id).getD [] := by
  intro hmem
  have hid : id ∈ w.runtime.pendingBaselines := by
    rw [← AList.lookup_isSome]
    cases hlookup : w.runtime.pendingBaselines.lookup id with
    | none => rw [hlookup] at hmem; cases hmem
    | some ids => rfl
  cases h with
  | cleanup hmanaged howned hcleanup hlive =>
      rw [hsound.settled id hid] at hcleanup
      cases hcleanup
  | pending hmanaged howned hpending hnew hbaseline =>
      rw [hsound.one _ _ hpending.1 hid] at hbaseline
      exact hbaseline hmem

/-- A reconciliation that finds an entry that cannot be proved ends before it has changed
anything. Whatever the ledger, it sends no command that removes a recorder but for one that
is attributed to an entry and belongs to no active one; and a ledger that a run comes to
never lets it remove a recorder of a baseline. -/
theorem reconcile_proves_before_mutating (env : CaptureEnvironment)
    (captures : Option RawCaptureStatus) (w : CaptureWorld) (log : List CaptureConsultation) :
    (∀ records log₁ current log₂ id,
        reconcileRecords env captures w log = (.ok records, log₁) →
        runtimeAuthority env w log₁ = (.ok current, log₂) →
        id ∈ w.runtime.managedCaptureIds → w.runtime.Unproved records current id →
        ∃ e, (reconcile env captures w log).1 = (.error e, w))
      ∧ ((∃ e, (reconcile env captures w log).1 = (.error e, w))
        ∨ ∃ records log₁ current log₂,
          reconcileRecords env captures w log = (.ok records, log₁)
          ∧ runtimeAuthority env w log₁ = (.ok current, log₂)
          ∧ RemovesOnly (fun n => Attributed w.runtime records current n
              ∧ ¬w.runtime.Active (.recorder n)
              ∧ (CaptureReachable .any w →
                ∀ id, n ∉ (w.runtime.pendingBaselines.lookup id).getD []))
            w (reconcile env captures w log).1.2) := by
  constructor
  · intro records log₁ current log₂ id hrecords hauthority hid hunproved
    exact reconcile_unproved hrecords hauthority hid hunproved
  · rcases reconcile_run env captures w log with herror | ⟨records, log₁, current, log₂, entries,
      log₃, hrecords, hauthority, hclassified, hrun⟩
    · exact .inl herror
    refine .inr ⟨records, log₁, current, log₂, hrecords, hauthority, ?_⟩
    have hspec : Spec (RemovesOnly (Removable w.runtime entries) w) w
        (settleLedger env records entries) (fun _ _ => True) fun _ => True :=
      settleLedger_removes hclassified
    have hremoves := hspec.run ⟨[], rfl, fun _ h => nomatch h⟩ log₃
    rw [hrun]
    rcases hresult : settleLedger env records entries w log₃ with ⟨⟨result, w'⟩, log'⟩
    rw [hresult] at hremoves
    have hremoved : RemovesOnly (Removable w.runtime entries) w w' := by
      cases result with
      | ok payload => exact hremoves.1
      | error e => exact hremoves.1
    obtain ⟨new, heffects, hnew⟩ := hremoved
    refine ⟨new, heffects, fun r hr => (hnew r hr).imp_right ?_⟩
    rintro ⟨n, rfl, hn⟩
    obtain ⟨hattributed, hinactive⟩ := hclassified.attributed hn
    exact ⟨n, rfl, hattributed, hinactive,
      fun hreachable => hattributed.not_baseline hreachable.runSound.sound⟩

end

end TrexWebui
