import TrexWebui.ReleaseRuns

/-!
# What a run comes to

From every state that a run can be in, wherever the process has ended, a
reconciliation that nothing hinders leads to one of two ends: the candidate is
selected, if the intent to commit it was durable, and otherwise everything is
as it was before the transaction. The host artifacts are put back to the byte
(`rollback_restores_host`).
-/

namespace TrexWebui.ReleaseEngine

open PyStr PyJson JsonLines PosixPath Sha2 Checks OracleProgram GuardedRuns

/-! ## Where the selectors stand -/

section Outcomes

variable {host : EngineHost} {files : BackupFiles} {s : EngineState} {w : EngineWorld}

/-- The candidate is selected, with the release before it as the previous one. -/
def Transaction.Forward (t : Transaction) (s : EngineState) : Prop :=
  s.current = some t.candidate ∧ s.previous = t.currentBefore

def Transaction.Back (t : Transaction) (s : EngineState) : Prop :=
  s.current = t.currentBefore ∧ s.previous = t.previousBefore

theorem Recovered.selectors {t t' : Transaction} (h : Recovered host files t s t')
    (hs : Consistent host s) :
    (t.phase ∈ Phase.forward → t.Forward s) ∧ (t.phase ∉ Phase.forward → t.Back s) := by
  have hselectors := hs.selectors t' h.journal
  refine ⟨fun hforward => ?_, fun hback => ?_⟩
  · have hnew : s.current = some t'.candidate ∧ s.previous = t'.currentBefore :=
      hselectors.at (h.forward hforward).1
    rw [h.continues.candidate, h.continues.currentBefore] at hnew
    exact hnew
  · have hphase : t'.phase = .rolledBack ∨ t'.phase = .startingBaselineConsumers := by
      rcases h.ended with ⟨hterminal, -⟩ | hpending
      · simp only [Phase.terminal, List.mem_cons, List.not_mem_nil, or_false] at hterminal
        exact Or.inl (hterminal.resolve_left fun hcommitted => hback (h.committed hcommitted))
      · exact Or.inr hpending
    have hold : s.current = t'.currentBefore ∧ s.previous = t'.previousBefore := by
      rcases hphase with hphase | hphase
      · exact hselectors.at hphase
      · exact hselectors.at hphase
    rw [h.continues.currentBefore, h.continues.previousBefore] at hold
    exact hold

theorem recoverable_bare {t : Transaction} (hloadable : t.Loadable)
    (hartifacts : t.hostArtifacts = []) : Recoverable host t s where
  loadable := hloadable
  replaceable _ artifact hmem := by
    rw [hartifacts] at hmem
    cases hmem
  kept _ artifact hmem := by
    rw [hartifacts] at hmem
    cases hmem

/-! ## Recovery -/

/-- The process may have ended anywhere: a reconciliation that nothing hinders returns, and the
selectors are then forward if the intent to commit was durable, and else back. -/
theorem reconcile_recovers {env : EngineEnvironment} (hs : Consistent env.host s)
    (h : EngineRun env.host s w) (hcooperative : env.Cooperative)
    (hrecoverable : ∀ t ∈ w.journal, Recoverable env.host t w.toEngineState)
    (hdiffer : w.journal = none → w.current ≠ none → w.current ≠ w.previous)
    (log : List EngineConsultation) :
    ∃ o w' log', reconcile env w log = ((.ok o, w'), log')
      ∧ Consistent env.host w'.toEngineState
      ∧ Reconciled env.host w.toEngineState w'.toEngineState o
      ∧ ∀ t ∈ w.journal, (t.phase ∈ Phase.forward → t.Forward w'.toEngineState)
        ∧ (t.phase ∉ Phase.forward → t.Back w'.toEngineState) := by
  have hspec := reconcile_spec (F := False) (s := s) (fun hn => hn hcooperative)
    (fun _ => hrecoverable) fun _ => hdiffer
  obtain ⟨o, w', log', hrun, hrunning, hreconciled⟩ := hspec.returns (h.running hs) log
  refine ⟨o, w', log', hrun, hrunning.now, hreconciled, fun t hjournal => ?_⟩
  obtain ⟨t', -, hrecovered⟩ := hreconciled.2 t hjournal
  exact hrecovered.selectors hrunning.now

/-- The activation that was cut short is taken back. -/
theorem interrupted_recovers : ∃ o w' log',
    reconcile (.undisturbed bareHost false) { interruptedState with } [] = ((.ok o, w'), log')
      ∧ interruptedTransaction.Back w'.toEngineState := by
  obtain ⟨o, w', log', hrun, -, -, hends⟩ := reconcile_recovers consistent_interrupted .start
    (undisturbed_cooperative bareHost false)
    (fun t ht => Option.some.inj ht ▸ recoverable_bare interruptedTransaction_accepted.2 rfl)
    (fun h => by cases h) []
  exact ⟨o, w', log', hrun, (hends _ rfl).2 (by decide)⟩

/-- An archive that is taken back and waits for the API, which ran before it. -/
def waitingTransaction : Transaction :=
  { selectorTransaction with
    transactionKind := .archive
    phase := .startingBaselineConsumers
    consumerRollbackPlan := [apiUnit, nginxUnit]
    consumerActiveBefore := [apiUnit]
    consumerBaseline := [.api (text "/opt/trex-webui") (text "/usr/bin/node server.js")
      (text "/usr/bin/node") (text "/usr/bin/node")]
    consumerMutationArmed := true
    rollbackRestored := true }

def waitingState : EngineState :=
  .under waitingTransaction (some (List.replicate 64 98)) none

theorem waitingTransaction_accepted :
    waitingTransaction.Rules bareHost (fun _ => none) ∧ waitingTransaction.Loadable :=
  accepted_of_encoded (by decide +kernel)

theorem consistent_waiting : Consistent bareHost waitingState :=
  consistent_under waitingTransaction_accepted.1 ⟨rfl, rfl⟩ (fun h => by cases h) (by decide)
    (by decide)

/-- A transaction that was prepared and armed is activated, if nothing hinders that. -/
theorem activation_completes {env : EngineEnvironment} (hs : Consistent env.host s)
    (h : EngineRun env.host s w) (hcooperative : env.Cooperative) {t : Transaction}
    (hjournal : w.journal = some t) (hloadable : t.Loadable) (hready : t.Activatable)
    (log : List EngineConsultation) :
    ∃ t' w' log', activate env t.transactionId w log = ((.ok t', w'), log')
      ∧ w'.journal = some t' ∧ t'.phase = .activated ∧ t'.Forward w'.toEngineState := by
  have hspec := activate_spec (F := False) (s := s) (fun hn => hn hcooperative)
    fun _ => ⟨t, hjournal, rfl, hloadable, Or.inr hready⟩
  obtain ⟨t', w', log', hrun, hrunning, hjournal', -, hphase⟩ := hspec.returns (h.running hs) log
  have hforward : t'.Forward w'.toEngineState := (hrunning.now.selectors t' hjournal').at hphase
  exact ⟨t', w', log', hrun, hjournal', hphase, hforward⟩

/-- The selectors of `selectorTransaction` in the phase, with its consumers armed. -/
def armedTransaction (phase : Phase) : Transaction :=
  { selectorTransaction with
    phase := phase
    consumerMutationArmed := true }

theorem preparedTransaction_accepted :
    (armedTransaction .prepared).Rules bareHost (fun _ => none)
      ∧ (armedTransaction .prepared).Loadable := accepted_of_encoded (by decide +kernel)

def preparedState : EngineState :=
  .under (armedTransaction .prepared) (some (List.replicate 64 98)) none

theorem consistent_prepared : Consistent bareHost preparedState :=
  consistent_under preparedTransaction_accepted.1 ⟨rfl, rfl⟩ (fun h => by cases h) (by decide)
    (by decide)

theorem prepared_activated : ∃ t' w' log',
    activate (.undisturbed bareHost false) selectorTransaction.transactionId
        { preparedState with } [] = ((.ok t', w'), log')
      ∧ t'.phase = .activated := by
  obtain ⟨t', w', log', hrun, -, hphase, -⟩ := activation_completes consistent_prepared .start
    (undisturbed_cooperative bareHost false) rfl preparedTransaction_accepted.2
    ⟨rfl, rfl, fun h => by cases h⟩ []
  exact ⟨t', w', log', hrun, hphase⟩

/-- A commit that nothing hinders ends the transaction, also where an earlier one was cut short. -/
theorem commit_completes {env : EngineEnvironment} (hs : Consistent env.host s)
    (h : EngineRun env.host s w) (hcooperative : env.Cooperative) {t : Transaction}
    (hjournal : w.journal = some t) (hloadable : t.Loadable)
    (hphase : t.phase ∈ Phase.committable) (log : List EngineConsultation) :
    ∃ t' w' log', commit env t.transactionId w log = ((.ok t', w'), log')
      ∧ w'.journal = some t' ∧ t'.phase = .committed ∧ t'.rollbackAuthorityRetired = true
      ∧ t'.Forward w'.toEngineState := by
  have hspec := commit_spec (F := False) (s := s) (fun hn => hn hcooperative)
    fun _ => ⟨t, hjournal, rfl, hloadable, hphase⟩
  obtain ⟨t', w', log', hrun, hrunning, hjournal', -, hcommitted, hretired⟩ :=
    hspec.returns (h.running hs) log
  have hforward : t'.Forward w'.toEngineState := (hrunning.now.selectors t' hjournal').at hcommitted
  exact ⟨t', w', log', hrun, hjournal', hcommitted, hretired, hforward⟩

theorem activatedTransaction_accepted :
    (armedTransaction .activated).Rules bareHost (fun _ => none)
      ∧ (armedTransaction .activated).Loadable := accepted_of_encoded (by decide +kernel)

def activatedState : EngineState :=
  .under (armedTransaction .activated) (some (List.replicate 64 97)) (some (List.replicate 64 98))

theorem consistent_activated : Consistent bareHost activatedState :=
  consistent_under activatedTransaction_accepted.1 ⟨rfl, rfl⟩ (fun h => by cases h) (by decide)
    (by decide)

theorem activated_committed : ∃ t' w' log',
    commit (.undisturbed bareHost false) selectorTransaction.transactionId
        { activatedState with } [] = ((.ok t', w'), log')
      ∧ t'.phase = .committed := by
  obtain ⟨t', w', log', hrun, -, hphase, -⟩ := commit_completes consistent_activated .start
    (undisturbed_cooperative bareHost false) rfl activatedTransaction_accepted.2 (by decide) []
  exact ⟨t', w', log', hrun, hphase⟩

/-! ## The host -/

/-- A rollback puts back what stood at the paths of the transaction when it was prepared, whatever
the engine and others have done in between. -/
theorem rollback_restores_host {env env' : EngineEnvironment} {request : PrepareRequest}
    {t t₂ : Transaction} {o : Option Transaction} {w₁ w₂ w₃ : EngineWorld}
    {log log₁ log₂ log₃ : List EngineConsultation} (hs : Consistent env.host s)
    (h : EngineRun env.host s w) (hprepare : prepare env request w log = ((.ok t, w₁), log₁))
    (h₁ : EngineRun env.host w₁.toEngineState w₂) (hopens : ∀ p ∈ w₂.trace, ¬Opens p.2)
    (hjournal₂ : w₂.journal = some t₂) (howed : t₂.RestoresHost) (hhost : env'.host = env.host)
    (hreconcile : reconcile env' w₂ log₂ = ((.ok o, w₃), log₃)) :
    ∃ paths, hostPathsForProfile env.host t.hostProfile = .ok paths
      ∧ ∀ path ∈ paths, w₃.artifacts path = w₁.artifacts path := by
  obtain ⟨hrunning₁, hprepared⟩ := prepare_spec.returned (h.running hs) hprepare
  have hconsistent₁ := hrunning₁.now
  have hrules := hconsistent₁.rules t hprepared.journal
  have hopen : t.rollbackAuthorityRetired = false :=
    kept_of_open hrules (by rw [hprepared.phase]; decide)
  obtain ⟨t', hjournal', hcontinues, hbackups⟩ :=
    h₁.keeps hconsistent₁ hopens t hprepared.journal
  obtain rfl := Option.some.inj (hjournal₂.symm.trans hjournal')
  have hrunning₂ := h₁.running hconsistent₁
  have hrules₂ := hrunning₂.now.rules t₂ hjournal₂
  have hopen₂ := kept_of_open hrules₂ (not_terminal howed.undecided)
  have hartifacts := (hcontinues.authority hopen₂).1
  have hspec := reconcile_spec (F := True) (w := w₂) (s := w₁.toEngineState) (excused env')
    (fun h => absurd trivial h) fun h => absurd trivial h
  obtain ⟨-, hreconciled⟩ := hspec.returned (hhost ▸ hrunning₂) hreconcile
  obtain ⟨t₃, -, hrecovered⟩ := hreconciled.2 t₂ hjournal₂
  have hrestored := hrecovered.restored howed
  rw [hhost] at hrestored
  obtain ⟨paths, hpaths, hproper⟩ := hrules.artifacts
  refine ⟨paths, ?_, fun path hpath => ?_⟩
  · rw [expectedHostPaths, hopen] at hpaths
    exact hpaths
  rw [← map_path hproper] at hpath
  obtain ⟨artifact, hmem, rfl⟩ := List.mem_map.mp hpath
  have hmem₂ : artifact ∈ t₂.hostArtifacts := hartifacts ▸ hmem
  refine HostArtifact.Records.restores (s := w₂.toEngineState) ?_ hrules₂ hmem₂
    (hrestored artifact hmem₂)
  exact (hprepared.recorded artifact hmem).congr fun name hname =>
    hbackups hopen₂ name (List.mem_flatMap.mpr ⟨artifact, hmem, hname⟩)

end Outcomes

def configuredHost : EngineHost :=
  ⟨0, [text "/etc/trex-webui/webui.env"], List.nodup_singleton _⟩

def configuredState : EngineState where
  artifacts := fun path =>
    if path = text "/etc/trex-webui/webui.env" then some (.file 0 0 0o600 1 [80, 61, 49, 10])
    else none

def armedWorld (t : Transaction) (w : EngineWorld) : EngineWorld :=
  (EngineOperation.armConsumers t.transactionId [apiUnit, nginxUnit]).leaves
    (.undisturbed configuredHost false) { w.toEngineState with } []

def wipedWorld (t : Transaction) (w : EngineWorld) : EngineWorld :=
  { armedWorld t w with artifacts := fun _ => none }

theorem wipedWorld_run (t : Transaction) (w : EngineWorld) :
    EngineRun configuredHost w.toEngineState (wipedWorld t w) := by
  have harmed : EngineRun configuredHost w.toEngineState (armedWorld t w) :=
    .operation (.armConsumers t.transactionId [apiUnit, nginxUnit]) [] rfl .start
  exact harmed.interference fun _ => none

/-- The preparation returns, its world can be wiped, and a reconciliation then returns. -/
def wipedReconciles : (Except EngineError Transaction × EngineWorld) × List EngineConsultation → Bool
  | ((.ok t, w), _) =>
    decide (∀ p ∈ (wipedWorld t w).trace, ¬Opens p.2)
      && (wipedWorld t w).journal.any (fun u => decide u.RestoresHost)
      && (reconcile (.undisturbed configuredHost false) (wipedWorld t w) []).1.1.isOk
  | ((.error _, _), _) => false

theorem wiped_restored : ∃ t w₁ log₁ o w₃ log₃,
    prepare (.undisturbed configuredHost false) archiveRequest { configuredState with } []
        = ((.ok t, w₁), log₁)
      ∧ reconcile (.undisturbed configuredHost false) (wipedWorld t w₁) [] = ((.ok o, w₃), log₃)
      ∧ ∃ paths, hostPathsForProfile configuredHost t.hostProfile = .ok paths
        ∧ ∀ path ∈ paths, w₃.artifacts path = w₁.artifacts path := by
  have h : wipedReconciles (prepare (.undisturbed configuredHost false) archiveRequest
    { configuredState with } []) = true := by decide +kernel
  rcases hprepare : prepare (.undisturbed configuredHost false) archiveRequest
    { configuredState with } [] with ⟨⟨e | t, w₁⟩, log₁⟩
  · rw [hprepare] at h
    cases h
  rw [hprepare] at h
  simp only [wipedReconciles, Bool.and_eq_true, decide_eq_true_eq, Option.any_eq_true] at h
  obtain ⟨⟨hopens, t₂, hjournal, howed⟩, hok⟩ := h
  rcases hreconcile : reconcile (.undisturbed configuredHost false) (wipedWorld t w₁) [] with
    ⟨⟨e | o, w₃⟩, log₃⟩
  · rw [hreconcile] at hok
    cases hok
  exact ⟨t, w₁, log₁, o, w₃, log₃, rfl, hreconcile,
    rollback_restores_host (consistent_bare configuredHost _) .start hprepare
      (wipedWorld_run t w₁) hopens hjournal howed rfl hreconcile⟩

end TrexWebui.ReleaseEngine
