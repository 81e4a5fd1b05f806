import TrexWebui.ReleasePreparation

/-!
# Activation

The steps of a prepared transaction up to its commit. Each of them writes
what it is about to do into the journal first, so that everything it does is
announced (`armConsumers_spec`, `switchSelectors_spec`, `commit_spec`).
-/

namespace TrexWebui.ReleaseEngine

open PyStr PyJson JsonLines PosixPath Sha2 Checks OracleProgram GuardedRuns

section Specs

variable {env : EngineEnvironment} {w : EngineWorld} {s : EngineState} {t : Transaction}

theorem requireTransaction_gives {F : Prop} (hF : ¬env.Cooperative → F) {transactionId : Str}
    {missing : String} (hconsistent : Consistent env.host w.toEngineState)
    (hnamed : ¬F → ∃ t, w.journal = some t ∧ t.transactionId = transactionId ∧ t.Loadable) :
    Gives w F (requireTransaction env transactionId missing) fun t =>
      w.journal = some t ∧ t.transactionId = transactionId := by
  refine Gives.call (loadTransaction_gives hF hconsistent.rules fun hn u hu => ?_) fun o ho => ?_
  · obtain ⟨t, hjournal, -, hloadable⟩ := hnamed hn
    obtain rfl := Option.some.inj (hjournal.symm.trans hu)
    exact hloadable
  cases o with
  | none =>
      refine ⟨fun _ => not_not.mp fun hn => ?_⟩
      obtain ⟨t, hjournal, -⟩ := hnamed hn
      cases ho.trans hjournal
  | some u =>
      refine Gives.call (failIf_gives fun hid => not_not.mp fun hn => ?_) fun _ hid =>
        Gives.pure ⟨ho.symm, not_not.mp hid⟩
      obtain ⟨t, hjournal, hsame, -⟩ := hnamed hn
      obtain rfl := Option.some.inj (ho.trans hjournal)
      exact hid hsame

theorem requireTransaction_spec {transactionId : Str} {missing : String} {α : Type}
    {f : Transaction → EngineM α} {Q : α → EngineWorld → Prop}
    (hf : ∀ t, w.journal = some t → t.transactionId = transactionId →
      Spec (Running env.host s) w (f t) Q fun _ => True) :
    Spec (Running env.host s) w (do
      let t ← requireTransaction env transactionId missing
      f t : EngineM α) Q fun _ => True := by
  refine Spec.assume fun hI => ?_
  exact Spec.gives_bind (requireTransaction_gives (excused env) hI.now fun h => absurd trivial h)
    (fun h => h) fun t ht => hf t ht.1 ht.2

/-! ## Arming -/

/-- The responses of an unarmed transaction are not those that its journal refers to. -/
theorem unused_of_unarmed (hconsistent : Consistent env.host s) (hjournal : s.journal = some t)
    (hunarmed : t.consumerMutationArmed = false) {name : Str}
    (hname : ¬IsSnapshotName t.transactionId name) : ∀ u ∈ s.journal, name ∉ u.backupNames := by
  rintro u (hu : s.journal = some u) hmem
  obtain rfl := Option.some.inj (hjournal.symm.trans hu)
  exact hname (snapshotName_of_unarmed (hconsistent.rules t hjournal) hunarmed hmem)

theorem not_snapshotName_unarmed {id name : Str} (h : isUnarmedResponse id name = true) :
    ¬IsSnapshotName id name := by
  rw [isUnarmedResponse, Bool.and_eq_true, decide_eq_true_eq, List.isPrefixOf_iff_prefix] at h
  obtain ⟨⟨leaf, rfl⟩, -, hconsumer, -⟩ := h
  rw [List.drop_left] at hconsumer
  obtain ⟨rest, rfl⟩ := hconsumer
  rw [List.append_assoc]
  exact not_snapshotName rfl

theorem not_snapshotName_response (id : Str) (index : Nat) :
    ¬IsSnapshotName id (consumerResponseBackup id index) := not_snapshotName rfl

theorem cleanupUnarmed_spec (hjournal : w.journal = some t)
    (hunarmed : t.consumerMutationArmed = false) :
    Spec (Running env.host s) w (cleanupUnarmedConsumerBaseline env t.transactionId)
      (fun _ w' => Housekept w.toEngineState w'.toEngineState) fun _ => True := by
  refine Spec.query_bind trivial fun _ => Spec.asks_bind ?_
  refine (removeBackups_spec (excused env) fun entry _ w' hconsistent hkept => ?_).mono
    (fun _ _ _ h => h) fun _ _ _ => trivial
  split_ifs with hresponse
  · exact Or.inr ⟨_, entry.1, rfl, unused_of_unarmed hconsistent (hkept.journal.trans hjournal)
      hunarmed (not_snapshotName_unarmed hresponse)⟩
  · exact Or.inl rfl

theorem captureConsumer_spec {index : Nat} {unit : Str} (hjournal : w.journal = some t)
    (hunarmed : t.consumerMutationArmed = false) :
    Spec (Running env.host s) w (captureConsumer env t.transactionId index unit)
      (fun _ w' => Housekept w.toEngineState w'.toEngineState) fun _ => True := by
  refine Spec.assume fun hI => Spec.query_bind trivial fun captured => ?_
  cases captured.response with
  | none => exact Spec.pure (Housekept.refl _)
  | some content =>
      have hallowed : Allowed env.host w.toEngineState
          (.writeBackup (consumerResponseBackup t.transactionId index) content) :=
        unused_of_unarmed hI.now hjournal hunarmed (not_snapshotName_response _ _)
      refine Spec.call (perform_spec (excused env) hallowed) (fun _ w' _ hw' => ?_)
        fun _ _ _ => trivial
      refine Spec.query_bind trivial fun _ => Spec.pure ?_
      rw [hw']
      exact Housekept.written hallowed

theorem captureConsumers_spec {index : Nat} {units : List Str} (hjournal : w.journal = some t)
    (hunarmed : t.consumerMutationArmed = false) :
    Spec (Running env.host s) w (captureConsumers env t.transactionId index units)
      (fun _ w' => Housekept w.toEngineState w'.toEngineState) fun _ => True := by
  induction units generalizing w index with
  | nil => exact Spec.pure (Housekept.refl _)
  | cons unit units ih =>
      refine Spec.next (captureConsumer_spec hjournal hunarmed) fun _ w' _ hkept => ?_
      refine Spec.next (ih (hkept.journal.trans hjournal)) fun _ _ _ hkept' => Spec.pure ?_
      exact hkept.trans hkept'

theorem captureBaseline_spec (hjournal : w.journal = some t)
    (hunarmed : t.consumerMutationArmed = false) :
    Spec (Running env.host s) w (captureBaseline env t)
      (fun _ w' => Housekept w.toEngineState w'.toEngineState ∧ t.ArtifactsMet w.toEngineState)
      fun _ => True := by
  refine Spec.query_bind trivial fun _ => ?_
  refine Spec.next (cleanupUnarmed_spec hjournal hunarmed) fun _ w₁ _ hkept => ?_
  refine Spec.query_bind trivial fun active => ?_
  refine Spec.call (S := fun _ w₂ => Housekept w₁.toEngineState w₂.toEngineState) ?_
    (fun baseline w₂ _ hkept' => ?_) fun _ _ h => h
  · refine Spec.ite (fun _ => Spec.pure (Housekept.refl _)) fun _ => ?_
    refine Spec.query_bind trivial fun _ => ?_
    refine Spec.next (captureConsumers_spec (hkept.journal.trans hjournal) hunarmed)
      fun _ w₂ _ hkept' => ?_
    exact Spec.asks_bind (Spec.query (fun _ => hkept') trivial)
  have hartifacts : w₂.artifacts = w.artifacts := hkept'.artifacts.trans hkept.artifacts
  have hverify : Gives w₂ True (verifySnapshots env t) fun _ => t.ArtifactsMet w.toEngineState := by
    refine Gives.call (verifyHostArtifactsExact_gives (excused env) fun h => absurd trivial h)
      fun _ hmet => ?_
    rw [Transaction.ArtifactsMet, hartifacts] at hmet
    refine ⟨fun k => ?_⟩
    cases (verifyNativeBoundary env t w₂ k).1 with
    | ok a => exact hmet
    | error e => trivial
  refine Spec.gives_bind hverify (fun h => h) fun _ hmet => ?_
  refine Spec.query_bind trivial fun _ => Spec.query_bind trivial fun _ =>
    Spec.query_bind trivial fun _ => Spec.query_bind trivial fun _ =>
    Spec.query_bind trivial fun _ => Spec.pure ⟨hkept.trans hkept', hmet⟩

/-- The consumers are armed once, with the baseline that was captured before. -/
theorem armConsumers_spec {transactionId : Str} {consumers : List Str} :
    Spec (Running env.host s) w (armConsumers env transactionId consumers)
      (fun t w' => w'.journal = some t ∧ t.consumerMutationArmed = true) fun _ => True := by
  refine Spec.query_bind trivial fun _ => Spec.query_bind trivial fun _ => ?_
  refine requireTransaction_spec fun t hjournal _ => Spec.query_bind trivial fun _ => ?_
  refine Spec.ite (fun harmed => Spec.pure ⟨hjournal, harmed⟩) fun hunarmed => ?_
  have hunarmed := Bool.of_not_eq_true hunarmed
  refine Spec.gives_bind (failIf_gives fun _ => trivial) (fun h => h) fun _ hphase => ?_
  refine Spec.next (captureBaseline_spec hjournal hunarmed) fun pair w' _ h => ?_
  obtain ⟨active, baseline⟩ := pair
  obtain ⟨hkept, -⟩ := h
  refine Spec.query_bind trivial fun now => ?_
  have hreplaces : Replaces w'.toEngineState (t.armed active baseline now) :=
    .armed (hkept.journal.trans hjournal) (not_not.mp hphase) hunarmed
  refine Spec.next (writeTransaction_spec (excused env) hreplaces fun h => absurd trivial h)
    fun _ w'' _ hstate => Spec.pure ⟨?_, rfl⟩
  rw [hstate]

theorem markDaemonMutationStarted_spec {transactionId : Str} :
    Spec (Running env.host s) w (markDaemonMutationStarted env transactionId)
      (fun t w' => w'.journal = some t ∧ t.daemonMutationStarted = true) fun _ => True := by
  refine Spec.query_bind trivial fun _ => requireTransaction_spec fun t hjournal _ => ?_
  refine Spec.ite (fun hstarted => Spec.pure ⟨hjournal, hstarted⟩) fun _ => ?_
  refine Spec.gives_bind (failIf_gives fun _ => trivial) (fun h => h) fun _ h => ?_
  simp only [not_or, not_not, ne_eq] at h
  obtain ⟨hphase, harmed, hmanaged⟩ := h
  refine Spec.query_bind trivial fun _ => Spec.query_bind trivial fun _ =>
    Spec.query_bind trivial fun now => ?_
  have hreplaces : Replaces w.toEngineState (t.mutating now) :=
    .mutating hjournal hphase harmed (Bool.of_not_eq_false hmanaged)
  refine Spec.next (writeTransaction_spec (excused env) hreplaces fun h => absurd trivial h)
    fun _ w' _ hstate => Spec.pure ⟨?_, rfl⟩
  rw [hstate]

/-! ## Activation -/

section Ready

variable {F : Prop} (hF : ¬env.Cooperative → F)

include hF

omit hF in
/-- A prepared transaction that may be activated. -/
structure Transaction.Activatable (t : Transaction) : Prop where
  phase : t.phase = .prepared
  armed : t.consumerMutationArmed = true
  mutation : t.managedDaemonPlan = true → t.daemonMutationStarted = true

/-- Both selectors are switched, each under a phase of its own. -/
theorem switchSelectors_spec (hjournal : w.journal = some t) (hphase : t.phase = .prepared)
    (hready : ¬F → t.Activatable ∧ t.Encodable) :
    Spec (Running env.host s) w (switchSelectors env t)
      (fun t' w' => w'.journal = some t' ∧ t'.transactionId = t.transactionId
        ∧ t'.phase = .activated) fun _ => F := by
  refine Spec.assume fun hI => ?_
  have hrules := hI.now.rules t hjournal
  have hselectors := hI.now.selectors t hjournal
  have hkept := kept_of_open hrules (by rw [hphase]; decide)
  refine Spec.gives_bind (failIf_gives fun h => not_not.mp fun hn => h (hready hn).1.armed) id
    fun _ harmed => ?_
  refine Spec.gives_bind (failIf_gives fun h => not_not.mp fun hn =>
    h.2 ((hready hn).1.mutation h.1)) id fun _ hmutation => ?_
  have hmutation : t.managedDaemonPlan = true → t.daemonMutationStarted = true := fun hmanaged =>
    not_not.mp fun hn => hmutation ⟨hmanaged, hn⟩
  refine Spec.gives_bind (assertSelectors_gives hF hI.now fun _ => ⟨?_, ?_, ?_⟩) id fun _ _ => ?_
  · exact (selectorsAt_own hselectors (by rw [hphase]; decide)).1
  · exact (selectorsAt_own hselectors (by rw [hphase]; decide)).2
  · intro _ hsome heq
    obtain ⟨hcurrent, hprevious⟩ := hselectors.at hphase
    exact hsome (hcurrent.trans (hrules.differ (hcurrent.symm.trans (heq.trans hprevious))))
  refine Spec.gives_bind (validateSelectedRelease_gives hF fun _ =>
    hI.now.candidateStored t hjournal (by rw [hphase]; decide)) id fun _ _ => ?_
  refine Spec.next (advance_spec hF hjournal (fun hn => (hready hn).2)
    (.switchingCurrent hphase (not_not.mp harmed) hmutation)) fun t₁ w₁ hI₁ h => ?_
  obtain ⟨now₁, rfl, hencodable₁, hstate₁⟩ := h
  have hjournal₁ : w₁.journal = some (t.moved .switchingCurrent now₁) := by rw [hstate₁]
  refine Spec.next (atomicSetSelector_spec hF hjournal₁ (.forwardCurrent rfl) fun _ d hd => ?_)
    fun _ w₂ _ hstate₂ => ?_
  · obtain rfl := Option.some.inj hd
    exact hI₁.now.candidateStored (t.moved .switchingCurrent now₁) hjournal₁
      (show Phase.switchingCurrent ∈ Phase.activating by decide)
  have hjournal₂ : w₂.journal = some (t.moved .switchingCurrent now₁) := by
    rw [hstate₂, journal_select, hjournal₁]
  have hcurrent : w₂.current = some t.candidate := by
    rw [hstate₂]
    rfl
  refine Spec.next (advance_spec hF hjournal₂ hencodable₁ (.currentSwitched rfl hcurrent))
    fun t₃ w₃ _ h => ?_
  obtain ⟨now₃, rfl, hencodable₃, hstate₃⟩ := h
  have hjournal₃ : w₃.journal = some (t.moved .currentSwitched now₃) := by
    rw [hstate₃]
    rfl
  refine Spec.next (advance_spec hF hjournal₃ hencodable₃ (.switchingPrevious rfl))
    fun t₄ w₄ hI₄ h => ?_
  obtain ⟨now₄, rfl, hencodable₄, hstate₄⟩ := h
  have hjournal₄ : w₄.journal = some (t.moved .switchingPrevious now₄) := by
    rw [hstate₄]
    rfl
  refine Spec.next (atomicSetSelector_spec hF hjournal₄ (.forwardPrevious rfl) fun _ d hd => ?_)
    fun _ w₅ _ hstate₅ => ?_
  · exact hI₄.now.baselineStored (t.moved .switchingPrevious now₄) hjournal₄ hkept d
      (List.mem_append_left _ (Option.mem_toList.mpr hd))
  have hjournal₅ : w₅.journal = some (t.moved .switchingPrevious now₄) := by
    rw [hstate₅, journal_select, hjournal₄]
  have hprevious : w₅.previous = t.currentBefore := by
    rw [hstate₅]
    rfl
  refine (advance_spec hF hjournal₅ hencodable₄ (.activated rfl hprevious)).weaken
    fun t₆ w₆ _ h => ?_
  obtain ⟨now₆, rfl, -, hstate₆⟩ := h
  rw [hstate₆]
  exact ⟨rfl, rfl, rfl⟩

theorem activate_spec {transactionId : Str}
    (hready : ¬F → ∃ t, w.journal = some t ∧ t.transactionId = transactionId ∧ t.Loadable
      ∧ (t.phase = .activated ∨ t.Activatable)) :
    Spec (Running env.host s) w (activate env transactionId)
      (fun t w' => w'.journal = some t ∧ t.transactionId = transactionId
        ∧ t.phase = .activated) fun _ => F := by
  refine Spec.assume fun hI => Spec.gives_bind (check_gives hF) id fun _ _ => ?_
  refine Spec.gives_bind (requireTransaction_gives hF hI.now fun hn => ?_) id fun t ht => ?_
  · obtain ⟨t, hjournal, hid, hloadable, -⟩ := hready hn
    exact ⟨t, hjournal, hid, hloadable⟩
  obtain ⟨hjournal, hid⟩ := ht
  have hready : ¬F → t.Loadable ∧ (t.phase = .activated ∨ t.Activatable) := fun hn => by
    obtain ⟨u, hu, -, hrest⟩ := hready hn
    obtain rfl := Option.some.inj (hjournal.symm.trans hu)
    exact hrest
  refine Spec.ite (fun hphase => ?_) fun hactivated => Spec.ite (fun hphase => ?_) fun hprepared => ?_
  · exact Spec.gives_bind (requireActivated_gives hF hI.now hjournal (by rw [hphase]; decide)) id
      fun _ _ => Spec.pure ⟨hjournal, hid, hphase⟩
  · refine (switchSelectors_spec hF hjournal hphase fun hn => ?_).weaken
      fun _ _ _ h => ⟨h.1, h.2.1.trans hid, h.2.2⟩
    obtain ⟨⟨content, hcontent, -⟩, hphase' | hactivatable⟩ := hready hn
    · exact absurd (hphase.symm.trans hphase') (by decide)
    · exact ⟨hactivatable, encodable_of_content hcontent⟩
  · have hexcuse : F := not_not.mp fun hn =>
      (hready hn).2.elim hactivated fun hactivatable => hprepared hactivatable.phase
    refine Spec.next (reconcileLocked_spec hF (fun hn => absurd hexcuse hn)
      fun hn => absurd hexcuse hn) fun _ _ _ _ => Spec.throw hexcuse

/-! ## Commit -/

def Phase.committable : List Phase := [.activated, .finalizingConsumerEnable, .committed]

omit hF in
theorem later_finalizing {host : EngineHost} {files : BackupFiles} {now : Str}
    (h : t.Rules host files) (hphase : t.phase = .activated) :
    LaterJournal t ({ t with daemonMutationStarted := false }.moved .finalizingConsumerEnable now)
    where
  kept := rfl
  enable := Or.inl ⟨rfl, rfl⟩
  baseline := Or.inl ⟨rfl, rfl, rfl⟩
  mutation := fun hmutation => by cases hmutation
  restored := fun hrestored => never_restored h hrestored (by rw [hphase]; decide)

/-- A commit that returns has ended the transaction. -/
theorem commit_spec {transactionId : Str}
    (hready : ¬F → ∃ t, w.journal = some t ∧ t.transactionId = transactionId ∧ t.Loadable
      ∧ t.phase ∈ Phase.committable) :
    Spec (Running env.host s) w (commit env transactionId)
      (fun t w' => w'.journal = some t ∧ t.transactionId = transactionId ∧ t.phase = .committed
        ∧ t.rollbackAuthorityRetired = true) fun _ => F := by
  have hforward : ∀ {files : BackupFiles} {u t' : Transaction} {s' : EngineState},
      Recovered env.host files u s' t' →
      u.transactionId = transactionId → u.phase ∈ Phase.forward →
      s'.journal = some t' ∧ t'.transactionId = transactionId ∧ t'.phase = .committed
        ∧ t'.rollbackAuthorityRetired = true := by
    intro files u t' s' hrecovered hid hphase
    exact ⟨hrecovered.journal, hrecovered.continues.transactionId.trans hid,
      hrecovered.forward hphase⟩
  refine Spec.assume fun hI => Spec.gives_bind (check_gives hF) id fun _ _ => ?_
  refine Spec.gives_bind (requireTransaction_gives hF hI.now fun hn => ?_) id fun t ht => ?_
  · obtain ⟨t, hjournal, hid, hloadable, -⟩ := hready hn
    exact ⟨t, hjournal, hid, hloadable⟩
  obtain ⟨hjournal, hid⟩ := ht
  have hready : ¬F → t.Encodable ∧ t.phase ∈ Phase.committable := fun hn => by
    obtain ⟨u, hu, -, ⟨content, hcontent, -⟩, hphase⟩ := hready hn
    obtain rfl := Option.some.inj (hjournal.symm.trans hu)
    exact ⟨encodable_of_content hcontent, hphase⟩
  have hencodable := fun hn => (hready hn).1
  refine Spec.ite (fun hphase => ?_) fun hcommitted => Spec.ite (fun hphase => ?_) fun hfinalizing =>
    Spec.ite (fun hphase => ?_) fun hactivated => ?_
  · refine (settleCommitted_spec hF hjournal hphase hencodable).weaken fun t' w' _ hended => ?_
    have hrecovered : Recovered env.host (w.files env.host) t w'.toEngineState t' :=
      hended.recovered (by rw [hphase]; decide)
    exact hforward hrecovered hid (by rw [hphase]; decide)
  · exact (finalizeCommitLocked_spec hF hjournal hphase hencodable).weaken
      fun _ _ _ hrecovered => hforward hrecovered hid (by rw [hphase]; decide)
  · refine Spec.gives_bind (requireActivated_gives hF hI.now hjournal (by rw [hphase]; decide)) id
      fun _ _ => ?_
    refine Spec.next (later_spec hF hjournal (fun hn => encodable_unmutated (hencodable hn))
      (by decide) (fun _ => .finalizing hjournal hphase) (by rw [hphase]; decide)
      fun hrules _ => later_finalizing hrules hphase) fun t' w' _ h => ?_
    obtain ⟨now, rfl, hencodable', hstate⟩ := h
    refine (finalizeCommitLocked_spec hF (by rw [hstate]) rfl hencodable').weaken
      fun t' w'' _ hrecovered => ?_
    exact hforward hrecovered hid
      (show Phase.finalizingConsumerEnable ∈ Phase.forward by decide)
  · have hexcuse : F := not_not.mp fun hn => by
      have hphase := (hready hn).2
      simp only [Phase.committable, List.mem_cons, List.not_mem_nil, or_false] at hphase
      exact hphase.elim hactivated fun h => h.elim hfinalizing hcommitted
    refine Spec.next (reconcileLocked_spec hF (fun hn => absurd hexcuse hn)
      fun hn => absurd hexcuse hn) fun _ _ _ _ => Spec.throw hexcuse

end Ready

/-! ## Every operation -/

theorem rollback_spec {transactionId : Str} :
    Spec (Running env.host s) w (rollback env transactionId)
      (fun t' w' => ∃ t, w.journal = some t
        ∧ Recovered env.host (w.files env.host) t w'.toEngineState t') fun _ => True := by
  refine Spec.query_bind trivial fun _ => requireTransaction_spec fun t hjournal _ => ?_
  exact (rollbackLocked_spec (excused env) hjournal (fun h => absurd trivial h)
    fun h => absurd trivial h).weaken fun _ _ _ h => ⟨t, hjournal, h⟩

/-- Whatever an operation does, however it ends, the protocol allows it. -/
theorem operation_spec (operation : EngineOperation) :
    Spec (Running env.host s) w (operation.program env) (fun _ _ => True) fun _ => True := by
  have never : ∀ {P : Prop}, ¬True → P := fun h => absurd trivial h
  have hdone : ∀ {α : Type} {m : EngineM α} {Q : α → EngineWorld → Prop},
      Spec (Running env.host s) w m Q (fun _ => True) →
      Spec (Running env.host s) w (do let _ ← m : EngineM Unit) (fun _ _ => True) fun _ => True :=
    fun hm => Spec.next hm fun _ _ _ _ => Spec.pure trivial
  cases operation with
  | prepare request => exact hdone prepare_spec
  | preparePrevious profile => exact hdone preparePrevious_spec
  | armConsumers id consumers => exact hdone armConsumers_spec
  | markDaemonMutationStarted id => exact hdone markDaemonMutationStarted_spec
  | activate id => exact hdone (activate_spec (excused env) never)
  | commit id => exact hdone (commit_spec (excused env) never)
  | rollback id => exact hdone rollback_spec
  | acknowledgeConsumers => exact hdone (acknowledgeConsumers_spec (excused env) never never)
  | reconcile => exact hdone (reconcile_spec (excused env) never never)

end Specs

end TrexWebui.ReleaseEngine
