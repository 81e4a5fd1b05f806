import TrexWebui.CaptureClassification
import TrexWebui.CaptureOperations

/-!
# What the steps of the capture runtime do

`LedgerEdit` lists the edits of the ledger: all that the methods of
`CaptureRuntime`, apart from `begin_capture_start`, ever write. An
invariant of the world that survives the ordinary commands and these edits
(`CaptureInvariant`) survives every method, however the oracle answers and
wherever it ends the process; each method has one lemma that says so.
-/

namespace TrexWebui

open OracleProgram

/-- A command that `reconcile` sends without naming a recorder. -/
def CaptureRpc.Ordinary : CaptureRpc → Prop
  | .acquire _ | .release _ | .setServiceMode _ _ => True
  | .startCapture _ | .stopCapture _ | .removeCapture _ | .removeAllCaptures => False

/-- The edits of the ledger that concern allowed captures only, and give a recorder an
entry only if it may be `fresh`. -/
inductive LedgerEdit (allowed fresh : CaptureId → Prop) (r : CaptureRuntime) : CaptureRuntime → Prop where
  | forget {ids : List CaptureId} (hids : ∀ id ∈ ids, allowed id) :
      LedgerEdit allowed fresh r (r.forgetting ids)
  | stage {id : CaptureId} {preparation : CapturePreparation} {stage : CapturePreparationStage}
      (hid : allowed id) (h : r.preparations.lookup id = some preparation)
      (hnext : stage ∈ preparation.stage.next) :
      LedgerEdit allowed fresh r (r.withStage id preparation stage)
  | rpcAttempted {id : CaptureId} {preparation : CapturePreparation} (hid : allowed id)
      (h : r.preparations.lookup id = some preparation)
      (hstage : preparation.stage = .serviceEnabled) :
      LedgerEdit allowed fresh r { r with preparations := r.preparations.erase id }
  | started {pendingId : CaptureId} {captureId : Nat} {cleanupRequired : Bool}
      {candidate : CaptureRuntime} (hid : allowed pendingId)
      (hnew : fresh (.recorder captureId)) (hpending : pendingId ∈ r.pendingBaselines)
      (hfree : .recorder captureId ∉ r.managedCaptureIds)
      (h : r.withStarted pendingId (.recorder captureId) cleanupRequired = .ok candidate) :
      LedgerEdit allowed fresh r candidate
  | restore {ids : List CaptureId} (hids : ∀ id ∈ ids, allowed id) :
      LedgerEdit allowed fresh r (r.withoutServiceStates (r.matchingCaptureIds ids))
  | release {ids : List CaptureId} (hids : ∀ id ∈ ids, allowed id) :
      LedgerEdit allowed fresh r (r.afterRelease (r.matchingCaptureIds ids))

structure WritesLedger (w : CaptureWorld) (candidate : CaptureRuntime) (doc : PersistedDocument) :
    Prop where
  leases : candidate.captureLeases = .ok doc.document.captureLeases
  stamped : ∃ now, doc.document = stampLeases w.store.document doc.document.captureLeases now

/-- What survives the commands and the edits survives every method. -/
structure CaptureInvariant (env : CaptureEnvironment) (allowed fresh : CaptureId → Prop)
    (I : CaptureWorld → Prop) : Prop where
  sent : ∀ w log r, r.Ordinary → I w → I (w.sent r (env.react w log r).2)
  committed : ∀ w candidate doc, LedgerEdit allowed fresh w.runtime candidate → WritesLedger w candidate doc →
    I w → I (w.commit doc)
  assigned : ∀ w candidate doc, LedgerEdit allowed fresh w.runtime candidate → WritesLedger w candidate doc →
    I w → I ((w.commit doc).assign candidate)
  stale : ∀ w ids, I w → I (w.markStale ids)

abbrev Keeps {α : Type} (I : CaptureWorld → Prop) (m : CaptureM α) : Prop :=
  ∀ w, Spec I w m (fun _ _ => True) fun _ => True

section

variable {env : CaptureEnvironment} {I : CaptureWorld → Prop} {w : CaptureWorld}
  {α β : Type} {E : CaptureWorld → Prop} {allowed fresh : CaptureId → Prop}

/-! ## Rules -/

theorem raised_spec {x : Except CaptureError α} {Q : α → CaptureWorld → Prop} (herror : E w)
    (h : ∀ a, x = .ok a → Q a w) : Spec I w (raised x : CaptureM α) Q E := by
  cases x with
  | ok a => exact Spec.pure (h a rfl)
  | error e => exact Spec.throw herror

theorem raised_bind {x : Except CaptureError α} {f : α → CaptureM β}
    {R : β → CaptureWorld → Prop} (herror : E w)
    (h : ∀ a, x = .ok a → Spec I w (f a) R E) :
    Spec I w ((raised x : CaptureM α) >>= f) R E :=
  Spec.bind (raised_spec herror h)

theorem runtime_bind {f : CaptureRuntime → CaptureM β} {R : β → CaptureWorld → Prop}
    (h : Spec I w (f w.runtime) R E) :
    Spec I w ((liftM theRuntime : CaptureM CaptureRuntime) >>= f) R E :=
  Spec.asks_bind h

theorem keeps_bind {m : CaptureM α} {f : α → CaptureM β} (hm : Keeps I m)
    (hf : ∀ a, Keeps I (f a)) : Keeps I (m >>= f) :=
  fun w => Spec.call (hm w) (fun a w' _ _ => hf a w') fun _ _ _ => trivial

theorem keeps_pure {a : α} : Keeps I (Pure.pure a : CaptureM α) := fun _ => Spec.pure trivial

theorem keeps_throw {e : CaptureError} : Keeps I (throw e : CaptureM α) :=
  fun _ => Spec.throw trivial

theorem keeps_query {q : CaptureQuery α} : Keeps I (liftM q : CaptureM α) :=
  fun _ => Spec.query (fun _ => trivial) trivial

theorem keeps_raised {x : Except CaptureError α} : Keeps I (raised x : CaptureM α) :=
  fun _ => raised_spec trivial fun _ _ => trivial

theorem keeps_ite {c : Prop} {_ : Decidable c} {m m' : CaptureM α} (hpos : c → Keeps I m)
    (hneg : ¬c → Keeps I m') : Keeps I (if c then m else m') :=
  fun w => Spec.ite (fun h => hpos h w) fun h => hneg h w

theorem keeps_forM {l : List α} {body : α → CaptureM PUnit}
    (h : ∀ a ∈ l, Keeps I (body a)) : Keeps I (l.forM body) := fun w =>
  (Spec.forM (J := fun _ => True) trivial fun a ha w' _ _ => h a ha w').mono
    (fun _ _ _ _ => trivial) fun _ _ _ => trivial

theorem keeps_guarded {caught : CaptureError → Bool} {m : CaptureM α}
    {handler : CaptureError → CaptureM β} {rest : α → CaptureM β} (hm : Keeps I m)
    (hhandler : ∀ e, Keeps I (handler e)) (hrest : ∀ a, Keeps I (rest a)) :
    Keeps I (guarded caught m handler rest) := fun w =>
  Spec.guarded (hm w) (fun a w' _ _ => hrest a w') (fun e w' _ _ => hhandler e w')
    fun _ _ _ => trivial

theorem keeps_attempt {stage : String} {m : CaptureM α} (hm : Keeps I m) :
    Keeps I (attempt stage m) :=
  keeps_guarded hm (fun _ => keeps_pure) fun _ => keeps_pure

theorem keeps_raiseIf {c : Prop} {_ : Decidable c} {e : CaptureError} :
    Keeps I (raiseIf c e : CaptureM Unit) :=
  fun _ => Spec.raiseIf (fun _ => trivial) fun _ => trivial

/-! ## The primitives -/

theorem command_dead {r : CaptureRpc} {log : List CaptureConsultation}
    (h : env.crashes w log = true) : command env r w log = ((.error .crashed, w), log) := by
  simp [command, h]

theorem command_error {r : CaptureRpc} {log : List CaptureConsultation} {message : String}
    (h : env.crashes w log = false) (hreply : (env.react w log r).1 = .error message) :
    command env r w log = ((.error (.runtime message), w.sent r (env.react w log r).2),
      .rpc r :: log) := by
  simp [command, h, hreply]

theorem command_ok {r : CaptureRpc} {log : List CaptureConsultation} {value : r.Reply}
    (h : env.crashes w log = false) (hreply : (env.react w log r).1 = .ok value) :
    command env r w log = ((.ok value, w.sent r (env.react w log r).2), .rpc r :: log) := by
  simp [command, h, hreply]

theorem command_spec {r : CaptureRpc} (h : ∀ log, I w → I (w.sent r (env.react w log r).2)) :
    Spec I w (command env r)
      (fun value w' => ∃ log, (env.react w log r).1 = .ok value
        ∧ w' = w.sent r (env.react w log r).2)
      (fun w' => w' = w ∨ ∃ log, w' = w.sent r (env.react w log r).2) := by
  refine ⟨fun hI log => ?_⟩
  by_cases hcrash : env.crashes w log = true
  · rw [command_dead hcrash]
    exact ⟨hI, .inl rfl⟩
  · have halive : env.crashes w log = false := by simpa using hcrash
    cases hreply : (env.react w log r).1 with
    | ok value =>
        rw [command_ok halive hreply]
        exact ⟨h log hI, log, hreply, rfl⟩
    | error message =>
        rw [command_error halive hreply]
        exact ⟨h log hI, .inr ⟨log, rfl⟩⟩

theorem replaceRuntimeState_spec {candidate : CaptureRuntime}
    (hcommitted : ∀ doc, WritesLedger w candidate doc → I w → I (w.commit doc))
    (hassigned : ∀ doc, WritesLedger w candidate doc → I w → I ((w.commit doc).assign candidate)) :
    Spec I w (replaceRuntimeState env candidate)
      (fun _ w' => ∃ doc, WritesLedger w candidate doc ∧ w' = (w.commit doc).assign candidate)
      (fun w' => w' = w ∨ ∃ doc, WritesLedger w candidate doc ∧ w' = w.commit doc) := by
  unfold replaceRuntimeState
  refine raised_bind (.inl rfl) fun leases hleases => ?_
  have hupdate : Spec I w (updateLeases env leases)
      (fun _ w' => ∃ doc, WritesLedger w candidate doc ∧ w' = w.commit doc)
      (fun w' => w' = w ∨ ∃ doc, WritesLedger w candidate doc ∧ w' = w.commit doc) := by
    unfold updateLeases
    refine Spec.query_bind (.inl rfl) fun loaded => ?_
    cases loaded with
    | some message => exact Spec.throw (.inl rfl)
    | none =>
        refine Spec.asks_bind ?_
        refine Spec.query_bind (.inl rfl) fun now => ?_
        by_cases hvalid : (stampLeases w.store.document leases now).Valid
        · have hwrites : WritesLedger w candidate
              ⟨stampLeases w.store.document leases now, hvalid⟩ := ⟨hleases, now, rfl⟩
          rw [dif_pos hvalid]
          refine Spec.query_bind (.inl rfl) fun outcome => ?_
          cases outcome with
          | written => exact Spec.modify (hcommitted _ hwrites) ⟨_, hwrites, rfl⟩
          | refused message => exact Spec.throw (.inl rfl)
          | renamedThenFailed message =>
              exact Spec.modify_bind (hcommitted _ hwrites)
                (Spec.throw (.inr ⟨_, hwrites, rfl⟩))
        · rw [dif_neg hvalid]
          exact Spec.throw (.inl rfl)
  refine Spec.assume fun hI => ?_
  refine Spec.call hupdate (fun _ w' _ hw' => ?_) fun _ _ h => h
  obtain ⟨doc, hwrites, rfl⟩ := hw'
  exact Spec.modify (fun _ => hassigned doc hwrites hI) ⟨doc, hwrites, rfl⟩

theorem forM_sameRuntime {γ : Type} {l : List γ} {body : γ → CaptureM PUnit}
    {runtime : CaptureRuntime} (hw : w.runtime = runtime)
    (hbody : ∀ a ∈ l, ∀ w', w'.runtime = runtime → Spec I w' (body a)
      (fun _ w'' => w''.runtime = w'.runtime) fun w'' => w''.runtime = w'.runtime) :
    Spec I w (l.forM body) (fun _ w' => w'.runtime = runtime) fun w' => w'.runtime = runtime :=
  Spec.forM hw fun a ha w' _ hw' => (hbody a ha w' hw').mono (fun _ _ _ h => h.trans hw')
    fun _ _ h => h.trans hw'

theorem requiredPreparation_eq_ok {r : CaptureRuntime} {id : CaptureId}
    {stage : Option CapturePreparationStage} {preparation : CapturePreparation} :
    r.requiredPreparation id stage = .ok preparation ↔
      r.preparations.lookup id = some preparation
        ∧ ∀ expected, stage = some expected → preparation.stage = expected := by
  unfold CaptureRuntime.requiredPreparation
  cases r.preparations.lookup id with
  | none => simp
  | some found =>
      cases stage with
      | none => simp
      | some expected =>
          dsimp only
          by_cases hstage : found.stage = expected
          · rw [if_pos hstage]
            constructor
            · rintro h
              cases h
              exact ⟨rfl, fun _ h => by cases h; exact hstage⟩
            · rintro ⟨h, _⟩
              cases h
              rfl
          · rw [if_neg hstage]
            constructor
            · intro h
              cases h
            · rintro ⟨h, hexpected⟩
              cases h
              exact absurd (hexpected expected rfl) hstage

/-! ## The methods -/

variable (hI : CaptureInvariant env allowed fresh I)

include hI

/-- As `command_spec`, for the commands that an invariant survives. -/
theorem ordinary_spec {r : CaptureRpc} (hr : r.Ordinary) :
    Spec I w (command env r) (fun _ w' => w'.runtime = w.runtime)
      fun w' => w'.runtime = w.runtime := by
  refine (command_spec fun log => hI.sent w log r hr).mono (fun _ w' _ h => ?_)
    fun w' _ h => ?_
  · obtain ⟨log, _, rfl⟩ := h
    rfl
  · rcases h with rfl | ⟨log, rfl⟩ <;> rfl

theorem edit_spec {candidate : CaptureRuntime} (hedit : LedgerEdit allowed fresh w.runtime candidate) :
    Spec I w (replaceRuntimeState env candidate) (fun _ w' => w'.runtime = candidate)
      fun _ => True := by
  refine (replaceRuntimeState_spec (fun doc => hI.committed w candidate doc hedit)
    fun doc => hI.assigned w candidate doc hedit).mono (fun _ w' _ h => ?_) fun _ _ _ => trivial
  obtain ⟨doc, _, rfl⟩ := h
  rfl

theorem setPreparationStage_keeps {id : CaptureId} (hid : allowed id) (stage : CapturePreparationStage) :
    Keeps I (setPreparationStage env id stage) := by
  intro w
  unfold setPreparationStage
  refine Spec.query_bind trivial fun _ => runtime_bind ?_
  refine raised_bind trivial fun preparation hpreparation => ?_
  refine Spec.raiseIf_bind trivial fun hnext => ?_
  have hlookup := (requiredPreparation_eq_ok.mp hpreparation).1
  exact (edit_spec hI (.stage hid hlookup (not_not.mp hnext))).mono (fun _ _ _ _ => trivial)
    fun _ _ _ => trivial

theorem confirmCaptureAcquired_keeps {id : CaptureId} (hid : allowed id) :
    Keeps I (confirmCaptureAcquired env id) := by
  intro w
  unfold confirmCaptureAcquired
  refine runtime_bind (raised_bind trivial fun preparation _ => ?_)
  refine Spec.query_bind trivial fun _ => Spec.query_bind trivial fun acquired => ?_
  exact Spec.raiseIf_bind trivial fun _ => setPreparationStage_keeps hI hid .acquired w

theorem command_keeps {r : CaptureRpc} (hr : r.Ordinary) : Keeps I (command env r) :=
  fun _ => (ordinary_spec hI hr).mono (fun _ _ _ _ => trivial) fun _ _ _ => trivial

theorem acquireCapturePorts_keeps {id : CaptureId} (hid : allowed id) : Keeps I (acquireCapturePorts env id) := by
  intro w
  unfold acquireCapturePorts
  refine runtime_bind (raised_bind trivial fun preparation _ => ?_)
  refine Spec.query_bind trivial fun _ => Spec.query_bind trivial fun acquired => ?_
  refine Spec.raiseIf_bind trivial fun _ => Spec.raiseIf_bind trivial fun _ => ?_
  refine keeps_bind (setPreparationStage_keeps hI hid .acquireIntent) (fun _ => ?_) w
  refine keeps_ite (fun _ => ?_) fun _ => confirmCaptureAcquired_keeps hI hid
  refine keeps_bind keeps_query fun _ => ?_
  exact keeps_bind (command_keeps hI trivial) fun _ => confirmCaptureAcquired_keeps hI hid

theorem enableServiceMode_keeps (p : Port) (state : ServiceStateDict) :
    Keeps I (enableServiceMode env p state) :=
  keeps_ite (fun _ => command_keeps hI trivial) fun _ => keeps_pure

theorem restoreServiceModeStrict_keeps (p : Port) (state : ServiceStateDict) :
    Keeps I (restoreServiceModeStrict env p state) :=
  keeps_ite (fun _ => command_keeps hI trivial) fun _ => keeps_pure

theorem releasePortsForOperation_keeps (ports : List Port) :
    Keeps I (releasePortsForOperation env ports) :=
  keeps_ite (fun _ => keeps_pure) fun _ => command_keeps hI trivial

theorem enableCaptureService_keeps {id : CaptureId} (hid : allowed id) :
    Keeps I (enableCaptureService env id) := by
  intro w
  unfold enableCaptureService
  refine runtime_bind (raised_bind trivial fun preparation _ => ?_)
  refine Spec.query_bind trivial fun _ => Spec.query_bind trivial fun states => ?_
  refine Spec.raiseIf_bind trivial fun _ => ?_
  refine keeps_bind (setPreparationStage_keeps hI hid .serviceIntent) (fun _ => ?_) w
  refine keeps_bind (keeps_forM fun p _ => ?_) fun _ => ?_
  · exact keeps_bind keeps_query fun _ => enableServiceMode_keeps hI p _
  refine keeps_bind keeps_query fun _ => keeps_bind keeps_query fun _ => ?_
  exact keeps_bind keeps_raiseIf fun _ => setPreparationStage_keeps hI hid .serviceEnabled

theorem prepareCaptureHardware_keeps {id : CaptureId} (hid : allowed id) :
    Keeps I (prepareCaptureHardware env id) := by
  refine keeps_bind (acquireCapturePorts_keeps hI hid) fun _ => ?_
  refine keeps_bind (enableCaptureService_keeps hI hid) fun _ => ?_
  exact keeps_bind keeps_query fun _ => keeps_raised

theorem markCaptureRpcAttempted_keeps {id : CaptureId} (hid : allowed id) :
    Keeps I (markCaptureRpcAttempted env id) := by
  intro w
  unfold markCaptureRpcAttempted
  refine runtime_bind (raised_bind trivial fun preparation hpreparation => ?_)
  refine Spec.query_bind trivial fun _ => ?_
  obtain ⟨hlookup, hstage⟩ := requiredPreparation_eq_ok.mp hpreparation
  exact (edit_spec hI (LedgerEdit.rpcAttempted hid hlookup (hstage _ rfl))).mono (fun _ _ _ _ => trivial)
    fun _ _ _ => trivial

/-- The new id may be fresh, unless it is managed already, so that the step raises. -/
theorem transitionPendingStart_keeps {id : CaptureId} (hid : allowed id) (captureId : Nat)
    (cleanup : Bool) (hnew : ∀ w, I w → .recorder captureId ∉ w.runtime.managedCaptureIds →
      fresh (.recorder captureId)) :
    Keeps I (transitionPendingStart env id captureId cleanup) := by
  intro w
  unfold transitionPendingStart
  refine Spec.assume fun hw => ?_
  refine runtime_bind (Spec.raiseIf_bind trivial fun hpending => ?_)
  refine Spec.query_bind trivial fun _ => Spec.raiseIf_bind trivial fun hfree => ?_
  refine raised_bind trivial fun candidate hcandidate => ?_
  have hedit := LedgerEdit.started hid (hnew w hw hfree) (not_not.mp hpending) hfree hcandidate
  exact (edit_spec hI hedit).mono (fun _ _ _ _ => trivial) fun _ _ _ => trivial

theorem forgetCaptureIds_spec {ids : List CaptureId} (hids : ∀ id ∈ ids, allowed id) :
    Spec I w (forgetCaptureIdsWithoutHardware env ids)
      (fun _ w' => w'.runtime = w.runtime.forgetting ids) fun _ => True := by
  unfold forgetCaptureIdsWithoutHardware
  refine runtime_bind (Spec.call (edit_spec hI (.forget hids)) (fun _ w' _ h => ?_)
    fun _ _ _ => trivial)
  exact Spec.modify (hI.stale w' ids) h

theorem forgetCaptureIds_keeps {ids : List CaptureId} (hids : ∀ id ∈ ids, allowed id) :
    Keeps I (forgetCaptureIdsWithoutHardware env ids) := fun _ =>
  (forgetCaptureIds_spec hI hids).mono (fun _ _ _ _ => trivial) fun _ _ _ => trivial

theorem restoreServiceMode_spec {ids : List CaptureId} (hids : ∀ id ∈ ids, allowed id) :
    Spec I w (restoreServiceMode env ids)
      (fun _ w' => w'.runtime
        = w.runtime.withoutServiceStates (w.runtime.matchingCaptureIds ids)) fun _ => True := by
  unfold restoreServiceMode
  refine runtime_bind ?_
  dsimp only
  refine Spec.call (forM_sameRuntime rfl fun id _ w' _ => Spec.query (fun _ => rfl) rfl)
    (fun _ w₁ _ h₁ => ?_) fun _ _ _ => trivial
  refine Spec.call (forM_sameRuntime h₁ fun p _ w' _ => ordinary_spec hI trivial)
    (fun _ w₂ _ h₂ => ?_) fun _ _ _ => trivial
  rw [← h₂]
  refine Spec.call (edit_spec hI (.restore hids)) (fun _ w₃ _ h₃ => ?_) fun _ _ _ => trivial
  exact runtime_bind (Spec.pure h₃)

theorem restoreServiceMode_keeps {ids : List CaptureId} (hids : ∀ id ∈ ids, allowed id) :
    Keeps I (restoreServiceMode env ids) := fun _ =>
  (restoreServiceMode_spec hI hids).mono (fun _ _ _ _ => trivial) fun _ _ _ => trivial

theorem releasePorts_spec {ids : List CaptureId} (hids : ∀ id ∈ ids, allowed id) :
    Spec I w (releasePorts env ids)
      (fun _ w' => w'.runtime = w.runtime.afterRelease (w.runtime.matchingCaptureIds ids))
      fun _ => True := by
  unfold releasePorts
  refine runtime_bind ?_
  dsimp only
  refine Spec.call (forM_sameRuntime rfl fun id _ w' _ => Spec.query (fun _ => rfl) rfl)
    (fun _ w₁ _ h₁ => ?_) fun _ _ _ => trivial
  refine Spec.query_bind trivial fun released => ?_
  have hrelease : Spec I w₁ (releasePortsForOperation env released)
      (fun _ w' => w'.runtime = w.runtime) fun _ => True := by
    refine Spec.ite (fun _ => Spec.pure h₁) fun _ => ?_
    have hsend := ordinary_spec (w := w₁) hI (r := .release released) trivial
    exact hsend.mono (fun _ _ _ h => h.trans h₁) fun _ _ _ => trivial
  refine Spec.call hrelease (fun _ w₂ _ h₂ => ?_) fun _ _ _ => trivial
  rw [← h₂]
  exact edit_spec hI (.release hids)

theorem releasePorts_keeps {ids : List CaptureId} (hids : ∀ id ∈ ids, allowed id) :
    Keeps I (releasePorts env ids) := fun _ =>
  (releasePorts_spec hI hids).mono (fun _ _ _ _ => trivial) fun _ _ _ => trivial

theorem recoverAcquiredPorts_keeps (ids : List CaptureId) :
    Keeps I (recoverAcquiredPorts env ids) := by
  unfold recoverAcquiredPorts
  refine keeps_bind keeps_query fun runtime => ?_
  refine keeps_bind (keeps_forM fun id _ => keeps_query) fun _ => ?_
  refine keeps_ite (fun _ => keeps_pure) fun _ => keeps_bind keeps_query fun acquired => ?_
  cases acquired with
  | invalid => exact keeps_throw
  | ports acquired => exact keeps_ite (fun _ => keeps_pure) fun _ => command_keeps hI trivial

/-! ## Recovering a preparation -/

theorem claimPlannedPorts_keeps (id : CaptureId) :
    Keeps I (claimPlannedPortsForRecovery env id) := by
  unfold claimPlannedPortsForRecovery
  refine keeps_bind keeps_query fun runtime => keeps_bind keeps_raised fun preparation => ?_
  refine keeps_bind keeps_query fun acquired => ?_
  refine keeps_ite (fun _ => keeps_pure) fun _ => keeps_ite (fun _ => keeps_pure) fun _ => ?_
  refine keeps_bind keeps_raiseIf fun _ => keeps_bind keeps_query fun _ => ?_
  refine keeps_guarded (command_keeps hI trivial) (fun _ => keeps_throw) fun _ => ?_
  exact keeps_bind keeps_query fun _ => keeps_bind keeps_raiseIf fun _ => keeps_pure

theorem leaveServiceStages_keeps {id : CaptureId} (hid : allowed id) (preparation : CapturePreparation)
    (states : Dict Port ServiceStateDict) :
    Keeps I (leaveServiceStages env id preparation states) := by
  unfold leaveServiceStages
  dsimp only
  have hset := setPreparationStage_keeps hI hid
  cases preparation.stage with
  | acquired => exact keeps_bind keeps_raiseIf fun _ => hset _
  | serviceIntent =>
      exact keeps_ite (fun _ => hset _) fun _ => keeps_ite (fun _ => hset _) fun _ => keeps_throw
  | serviceEnabled => exact keeps_bind keeps_raiseIf fun _ => hset _
  | wal | acquireIntent | restoreIntent | serviceRestored | releaseIntent | portsReleased =>
      exact keeps_pure

theorem restorePlannedPort_keeps (id : CaptureId) (preparation : CapturePreparation)
    (states : Dict Port ServiceStateDict) (acquired : Finset Port) (p : Port) :
    Keeps I (restorePlannedPort env id preparation states acquired p) := by
  unfold restorePlannedPort
  refine keeps_ite (fun _ => keeps_pure) fun _ => keeps_bind keeps_raiseIf fun _ => ?_
  refine keeps_bind keeps_query fun _ => keeps_bind keeps_query fun runtime => ?_
  cases ((runtime.serviceStates.lookup id).getD ∅).lookup p with
  | none => exact keeps_throw
  | some state => exact restoreServiceModeStrict_keeps hI p state

theorem restorePlannedPorts_keeps {id : CaptureId} (hid : allowed id) (acquired : Finset Port) :
    Keeps I (restorePlannedPorts env id acquired) := by
  unfold restorePlannedPorts
  refine keeps_bind keeps_query fun runtime => keeps_bind keeps_raised fun preparation => ?_
  refine keeps_ite (fun _ => ?_) fun _ => keeps_pure
  refine keeps_bind keeps_query fun states => ?_
  refine keeps_bind (keeps_forM fun item _ => keeps_raiseIf) fun _ => ?_
  refine keeps_bind (keeps_forM fun p _ => restorePlannedPort_keeps hI id preparation states acquired p) fun _ => ?_
  refine keeps_bind keeps_query fun _ => keeps_bind keeps_raiseIf fun _ => ?_
  exact setPreparationStage_keeps hI hid .serviceRestored

theorem leaveServiceRestored_keeps {id : CaptureId} (hid : allowed id) :
    Keeps I (leaveServiceRestored env id) := by
  unfold leaveServiceRestored
  refine keeps_bind keeps_query fun runtime => keeps_bind keeps_raised fun preparation => ?_
  refine keeps_ite (fun _ => ?_) fun _ => keeps_pure
  refine keeps_bind keeps_query fun _ => keeps_bind keeps_raiseIf fun _ => ?_
  exact setPreparationStage_keeps hI hid .releaseIntent

theorem releasePlannedPorts_keeps {id : CaptureId} (hid : allowed id) (ports : List Port) :
    Keeps I (releasePlannedPorts env id ports) := by
  unfold releasePlannedPorts
  refine keeps_bind keeps_query fun runtime => keeps_bind keeps_raised fun preparation => ?_
  refine keeps_bind keeps_query fun _ => ?_
  refine keeps_bind (releasePortsForOperation_keeps hI ports) fun _ => ?_
  refine keeps_bind keeps_query fun _ => keeps_bind keeps_raiseIf fun _ => ?_
  refine keeps_bind (setPreparationStage_keeps hI hid .portsReleased) fun _ => ?_
  exact forgetCaptureIds_keeps hI (by simpa using hid)

theorem recoverAcquiredPreparation_keeps {id : CaptureId} (hid : allowed id) :
    Keeps I (recoverAcquiredPreparation env id) := by
  unfold recoverAcquiredPreparation
  refine keeps_bind (claimPlannedPorts_keeps hI id) fun acquired => ?_
  refine keeps_bind keeps_query fun runtime => keeps_bind keeps_raised fun preparation => ?_
  refine keeps_bind keeps_query fun states => ?_
  refine keeps_bind (leaveServiceStages_keeps hI hid preparation states) fun _ => ?_
  refine keeps_bind (restorePlannedPorts_keeps hI hid acquired) fun _ => ?_
  refine keeps_bind (leaveServiceRestored_keeps hI hid) fun _ => ?_
  exact releasePlannedPorts_keeps hI hid _

theorem recoverCapturePreparation_keeps (records : List CaptureRecord) {id : CaptureId}
    (hid : allowed id) :
    Keeps I (recoverCapturePreparation env records id) := by
  unfold recoverCapturePreparation
  refine keeps_bind keeps_query fun _ => keeps_bind keeps_query fun runtime => ?_
  refine keeps_bind keeps_raised fun _ => keeps_bind keeps_raised fun preparation => ?_
  cases preparation.stage with
  | wal | portsReleased => exact forgetCaptureIds_keeps hI (by simpa using hid)
  | acquireIntent =>
      refine keeps_ite (fun _ => forgetCaptureIds_keeps hI (by simpa using hid)) fun _ => ?_
      refine keeps_bind (claimPlannedPorts_keeps hI id) fun _ => ?_
      refine keeps_bind (setPreparationStage_keeps hI hid .acquired) fun _ => ?_
      exact recoverAcquiredPreparation_keeps hI hid
  | releaseIntent =>
      refine keeps_bind (claimPlannedPorts_keeps hI id) fun _ => ?_
      exact releasePlannedPorts_keeps hI hid _
  | acquired | serviceIntent | serviceEnabled | restoreIntent | serviceRestored =>
      exact recoverAcquiredPreparation_keeps hI hid

/-! ## Reconciliation -/

/-- The removal of a recorder is the only command that is not an ordinary one. -/
theorem cleanUpCapture_keeps {entry : CaptureId × Option Nat} (hid : allowed entry.1)
    (hremove : ∀ recorder, entry.2 = some recorder → Keeps I (command env (.removeCapture recorder))) :
    Keeps I (cleanUpCapture env entry) := by
  unfold cleanUpCapture
  refine keeps_bind keeps_query fun _ => ?_
  obtain ⟨id, recorder⟩ := entry
  have hids : ∀ id' ∈ [id], allowed id' := by simpa using hid
  cases recorder with
  | none =>
      exact keeps_bind (restoreServiceMode_keeps hI hids) fun _ => releasePorts_keeps hI hids
  | some recorder =>
      refine keeps_bind (hremove recorder rfl) fun _ => ?_
      exact keeps_bind (restoreServiceMode_keeps hI hids) fun _ => releasePorts_keeps hI hids

theorem settleActive_keeps {entries : List (CaptureId × EntryPlan)}
    (hmissing : ∀ id ∈ planned entries .missing, allowed id) :
    Keeps I (settleActive env entries) := by
  unfold settleActive
  refine keeps_bind (recoverAcquiredPorts_keeps hI _) fun _ => ?_
  refine keeps_ite (fun _ => keeps_bind keeps_query fun _ => keeps_pure) fun _ => ?_
  refine keeps_bind (restoreServiceMode_keeps hI hmissing) fun _ => ?_
  exact keeps_bind (releasePorts_keeps hI hmissing) fun _ => keeps_pure

theorem settleCurrent_keeps {records : List CaptureRecord}
    {entries : List (CaptureId × EntryPlan)}
    (hallowed : ∀ entry ∈ entries, entry.2 ≠ .matching → allowed entry.1)
    (hnew : ∀ entry ∈ pendingResolutions entries, allowed (.recorder entry.2))
    (hfresh : ∀ entry ∈ pendingResolutions entries, ∀ w, I w →
      .recorder entry.2 ∉ w.runtime.managedCaptureIds → fresh (.recorder entry.2))
    (hcleanup : ∀ entry ∈ cleanupRecords entries, ∀ recorder, entry.2 = some recorder →
      Keeps I (command env (.removeCapture recorder)))
    (hpending : ∀ entry ∈ pendingResolutions entries,
      Keeps I (command env (.removeCapture entry.2))) :
    Keeps I (settleCurrent env records entries) := by
  unfold settleCurrent
  refine keeps_bind (keeps_forM fun id hid => recoverCapturePreparation_keeps hI records
    (hallowed _ (mem_planned.mp hid) (by simp))) fun _ => ?_
  refine keeps_bind (keeps_forM fun entry hentry =>
    transitionPendingStart_keeps hI ?_ entry.2 true (hfresh entry hentry)) fun _ => ?_
  · exact hallowed _ (mem_pendingResolutions.mp hentry) (by simp)
  refine keeps_bind (keeps_forM fun entry hentry =>
    cleanUpCapture_keeps hI ?_ (hcleanup entry hentry)) fun _ => ?_
  · exact hallowed _ (mem_cleanupRecords.mp hentry) (by simp)
  refine keeps_bind (keeps_forM fun entry hentry =>
    cleanUpCapture_keeps hI (hnew entry hentry) ?_) fun _ => ?_
  · rintro recorder hrecorder
    cases hrecorder
    exact hpending entry hentry
  exact settleActive_keeps hI fun id hid => hallowed _ (mem_planned.mp hid) (by simp)

theorem settleLedger_keeps {records : List CaptureRecord}
    {entries : List (CaptureId × EntryPlan)}
    (hallowed : ∀ entry ∈ entries, entry.2 ≠ .matching → allowed entry.1)
    (hnew : ∀ entry ∈ pendingResolutions entries, allowed (.recorder entry.2))
    (hfresh : ∀ entry ∈ pendingResolutions entries, ∀ w, I w →
      .recorder entry.2 ∉ w.runtime.managedCaptureIds → fresh (.recorder entry.2))
    (hcleanup : ∀ entry ∈ cleanupRecords entries, ∀ recorder, entry.2 = some recorder →
      Keeps I (command env (.removeCapture recorder)))
    (hpending : ∀ entry ∈ pendingResolutions entries,
      Keeps I (command env (.removeCapture entry.2))) :
    Keeps I (settleLedger env records entries) := by
  have hcurrent : Keeps I (settleCurrent env records entries) :=
    settleCurrent_keeps hI hallowed hnew hfresh hcleanup hpending
  unfold settleLedger
  refine keeps_ite (fun _ => ?_) fun _ => hcurrent
  refine keeps_bind (forgetCaptureIds_keeps hI fun id hid => ?_) fun _ => hcurrent
  exact hallowed _ (mem_planned.mp hid) (by simp)

end

end TrexWebui
