import TrexWebui.ReleaseActivation

/-!
# Runs of the release engine

A run is any sequence of operations, each in surroundings of its own: it may
fail, and the process may end before any effect of it. Between two operations
others may change the host artifacts. Every run is a run of the protocol, so
that its states are consistent and its effects are announced, and what a
transaction has decided is final.
-/

namespace TrexWebui.ReleaseEngine

open PyStr PyJson JsonLines PosixPath Sha2 Checks OracleProgram GuardedRuns

/-! ## Runs -/

def EngineOperation.leaves (env : EngineEnvironment) (operation : EngineOperation) (w : EngineWorld)
    (log : List EngineConsultation) : EngineWorld := (operation.program env w log).1.2

/-- The runs of the engine on a host, from a state. -/
inductive EngineRun (host : EngineHost) (s : EngineState) : EngineWorld → Prop where
  | start : EngineRun host s { s with }
  | operation {w : EngineWorld} {env : EngineEnvironment} (operation : EngineOperation)
      (log : List EngineConsultation) (hhost : env.host = host) (hrun : EngineRun host s w) :
      EngineRun host s (operation.leaves env w log)
  | interference {w : EngineWorld} (artifacts : Str → Option HostNode)
      (hrun : EngineRun host s w) : EngineRun host s { w with artifacts }

section Runs

variable {host : EngineHost} {s : EngineState} {w : EngineWorld}

theorem EngineRun.running (h : EngineRun host s w) (hs : Consistent host s) :
    Running host s w := by
  induction h with
  | start => exact ⟨hs, .start⟩
  | @operation w env operation log hhost _ ih =>
      subst hhost
      exact (operation_spec operation).keeps ih log
  | @interference w artifacts _ ih => exact ⟨hs, ih.run.interference ⟨artifacts, rfl⟩⟩

/-! ## Where a run may begin -/

/-- The state of a transaction that refers to no backup, with the releases that it knows. -/
def EngineState.under (t : Transaction) (current previous : Option Str) : EngineState where
  journal := some t
  current := current
  previous := previous
  releases := t.selectedDigests

theorem consistent_bare (host : EngineHost) (artifacts : Str → Option HostNode) :
    Consistent host { artifacts := artifacts } where
  rules _ h := by cases h
  selectors _ h := by cases h
  armed _ h := by cases h
  currentStored _ h := by cases h
  previousStored _ h := by cases h
  baselineStored _ h := by cases h
  candidateStored _ h := by cases h

theorem consistent_under {t : Transaction} {current previous : Option Str}
    (hrules : t.Rules host fun _ => none) (hselectors : t.SelectorsAt current previous)
    (harmed : t.ArmedInTime) (hcurrent : ∀ digest ∈ current, digest ∈ t.selectedDigests)
    (hprevious : ∀ digest ∈ previous, digest ∈ t.selectedDigests) :
    Consistent host (.under t current previous) where
  rules u hu := by
    obtain rfl : t = u := Option.some.inj hu
    exact hrules
  selectors u hu := by
    obtain rfl : t = u := Option.some.inj hu
    exact hselectors
  armed u hu := by
    obtain rfl : t = u := Option.some.inj hu
    exact harmed
  currentStored := hcurrent
  previousStored := hprevious
  baselineStored u hu _ digest hdigest := by
    obtain rfl : t = u := Option.some.inj hu
    exact List.mem_cons_of_mem _ hdigest
  candidateStored u hu _ := by
    obtain rfl : t = u := Option.some.inj hu
    exact List.mem_cons_self

theorem accepted_of_encoded {files : BackupFiles} {t : Transaction}
    (h : ((encodeTransaction host files t.fields).toOption.any fun content =>
      decide (content.length ≤ maxTransactionBytes)) = true) : t.Rules host files ∧ t.Loadable := by
  cases hrun : encodeTransaction host files t.fields with
  | error e =>
      rw [hrun] at h
      cases h
  | ok content =>
      rw [hrun] at h
      simp only [encodeTransaction, bind_eq_ok] at hrun
      obtain ⟨u, hu, hcontent⟩ := hrun
      obtain ⟨rfl, hrules⟩ := validateTransaction_fields.mp hu
      exact ⟨hrules, content, hcontent, of_decide_eq_true h⟩

/-- The request of an archive that takes over the API and its proxy. -/
def archiveRequest : PrepareRequest where
  reserveBytes := 1048576
  consumerEnable := [apiUnit, nginxUnit]
  consumerStart := [apiUnit, nginxUnit]
  consumerRollbackPlan := [apiUnit, nginxUnit]
  hostProfile := none
  transactionKind := .archive

/-- The world after the preparation of an archive on a host where nothing is installed. -/
def preparedWorld : EngineWorld :=
  (EngineOperation.prepare archiveRequest).leaves (.undisturbed bareHost false) {} []

theorem preparedWorld_run : EngineRun bareHost {} preparedWorld :=
  .operation (.prepare archiveRequest) [] rfl .start

def interruptedTransaction : Transaction :=
  { selectorTransaction with
    phase := .switchingCurrent
    consumerMutationArmed := true }

def interruptedState : EngineState :=
  .under interruptedTransaction (some (List.replicate 64 98)) none

theorem interruptedTransaction_accepted :
    interruptedTransaction.Rules bareHost (fun _ => none) ∧ interruptedTransaction.Loadable :=
  accepted_of_encoded (by decide +kernel)

theorem consistent_interrupted : Consistent bareHost interruptedState :=
  consistent_under interruptedTransaction_accepted.1 ⟨Or.inl rfl, rfl⟩ (fun h => by cases h)
    (by decide) (by decide)

/-! ## Safety -/

/-- Every run of the engine is a run of the protocol: whatever it does is announced by the journal
that is durable then. -/
theorem engine_refines_protocol (hs : Consistent host s) (h : EngineRun host s w) :
    GuardedRuns.Run (releaseProtocol host) s w.trace w.toEngineState
      ∧ ∀ p ∈ w.trace, Allowed host p.1 p.2 := by
  have hrun := (h.running hs).run
  exact ⟨hrun, fun p hp => (hrun.of_mem (invariant_consistent host) hs p hp).2⟩

theorem preparation_refines_protocol :
    GuardedRuns.Run (releaseProtocol bareHost) {} preparedWorld.trace preparedWorld.toEngineState
      ∧ ∀ p ∈ preparedWorld.trace, Allowed bareHost p.1 p.2 :=
  engine_refines_protocol (consistent_bare bareHost _) preparedWorld_run

/-- Every state that a run passes through is consistent, also where the process has ended. -/
theorem run_consistent (hs : Consistent host s) (h : EngineRun host s w) :
    Consistent host w.toEngineState ∧ ∀ p ∈ w.trace, Consistent host p.1 := by
  have hrunning := h.running hs
  exact ⟨hrunning.now, fun p hp =>
    (hrunning.run.of_mem (invariant_consistent host) hs p hp).1⟩

theorem preparation_consistent : Consistent bareHost preparedWorld.toEngineState
    ∧ ∀ p ∈ preparedWorld.trace, Consistent bareHost p.1 :=
  run_consistent (consistent_bare bareHost _) preparedWorld_run

/-! ## A decision is final -/

def Opens (e : EngineEffect) : Prop := ∃ u : Transaction, e = .writeJournal u ∧ u.phase = .staging

instance : DecidablePred Opens
  | .writeJournal t => decidable_of_iff (t.phase = .staging)
      ⟨fun h => ⟨t, rfl, h⟩, fun ⟨_, heq, h⟩ => EngineEffect.writeJournal.inj heq ▸ h⟩
  | .select _ _ | .publish _ | .removeRelease _ | .writeBackup _ _ | .removeBackup _
  | .replaceArtifact _ _ | .restoreBoundary _ | .stop _ _ | .start _ | .enable _ | .daemonReload =>
    .isFalse fun ⟨_, h, _⟩ => by cases h

theorem change_journal {s : EngineState} {e : EngineEffect} :
    (∃ u, e = .writeJournal u) ∨ (s.change e).journal = s.journal := by
  cases e with
  | writeJournal t => exact Or.inl ⟨t, rfl⟩
  | select selector digest => exact Or.inr journal_select
  | publish digest => exact Or.inr rfl
  | removeRelease digest => exact Or.inr rfl
  | writeBackup name content => exact Or.inr rfl
  | removeBackup name => exact Or.inr rfl
  | replaceArtifact path node => exact Or.inr rfl
  | restoreBoundary record => exact Or.inr rfl
  | stop force units => exact Or.inr rfl
  | start unit => exact Or.inr rfl
  | enable unit => exact Or.inr rfl
  | daemonReload => exact Or.inr rfl

/-- The transaction went on to this one, or it has ended so before another was opened. -/
def LeadsTo (trace : List (EngineState × EngineEffect)) (s : EngineState) (t : Transaction) :
    Prop :=
  s.journal = some t ∨ (t.rollbackAuthorityRetired = true ∧ t.phase ∈ Phase.terminal
    ∧ ∃ p ∈ trace, p.1.journal = some t ∧ Opens p.2)

theorem leadsTo_effect {trace : List (EngineState × EngineEffect)} {e : EngineEffect}
    {t : Transaction} (hs : Consistent host s) (hallowed : Allowed host s e)
    (h : LeadsTo trace s t) : ∃ t', Continues t t' ∧ LeadsTo ((s, e) :: trace) (s.change e) t' := by
  rcases h with hjournal | ⟨hretired, hterminal, p, hp, hended⟩
  · rcases change_journal (s := s) (e := e) with ⟨u, rfl⟩ | hsame
    · rcases replaces_cases hallowed.1 with ⟨hsettled, hstaging, -⟩ | ⟨old, hold, hnext⟩
      · have hretired := hsettled t hjournal
        exact ⟨t, Continues.refl t, Or.inr ⟨hretired, (hs.rules t hjournal).retired hretired, _,
          List.mem_cons_self, hjournal, u, rfl, hstaging⟩⟩
      · obtain rfl := Option.some.inj (hjournal.symm.trans hold)
        exact ⟨u, hnext, Or.inl rfl⟩
    · exact ⟨t, Continues.refl t, Or.inl (hsame.trans hjournal)⟩
  · exact ⟨t, Continues.refl t,
      Or.inr ⟨hretired, hterminal, p, List.mem_cons_of_mem _ hp, hended⟩⟩

theorem leadsTo_run {trace : List (EngineState × EngineEffect)} {s' : EngineState} {t : Transaction}
    (hs : Consistent host s) (hrun : GuardedRuns.Run (releaseProtocol host) s trace s')
    (hjournal : s.journal = some t) : ∃ t', Continues t t' ∧ LeadsTo trace s' t' := by
  induction hrun with
  | start => exact ⟨t, Continues.refl t, Or.inl hjournal⟩
  | effect hrun hallowed ih =>
      obtain ⟨t', hcontinues, hleads⟩ := ih
      have hconsistent := hrun.holds (invariant_consistent host) hs
      obtain ⟨t'', hcontinues', hleads'⟩ := leadsTo_effect hconsistent hallowed hleads
      exact ⟨t'', hcontinues.trans hcontinues', hleads'⟩
  | interference _ hinterferes ih =>
      obtain ⟨artifacts, rfl⟩ := hinterferes
      exact ih

/-- The transaction of a state goes on, or it has ended before another was opened. -/
theorem transaction_continues (hs : Consistent host s) (h : EngineRun host s w) {t : Transaction}
    (hjournal : s.journal = some t) :
    ∃ t', Continues t t' ∧ LeadsTo w.trace w.toEngineState t' :=
  leadsTo_run hs (h.running hs).run hjournal

/-- The world after the reconciliation of the transaction that was interrupted. -/
def reconciledWorld : EngineWorld :=
  EngineOperation.reconcile.leaves (.undisturbed bareHost false) { interruptedState with } []

theorem reconciledWorld_run : EngineRun bareHost interruptedState reconciledWorld :=
  .operation .reconcile [] rfl .start

theorem interrupted_continues : ∃ t', Continues interruptedTransaction t'
    ∧ LeadsTo reconciledWorld.trace reconciledWorld.toEngineState t' :=
  transaction_continues consistent_interrupted reconciledWorld_run rfl

/-! ## What was recorded is kept -/

/-- The transaction goes on, and until it gives up its authority it keeps its backups. -/
def Keeps (s s' : EngineState) : Prop :=
  ∀ t ∈ s.journal, ∃ t', s'.journal = some t' ∧ Continues t t'
    ∧ (t'.rollbackAuthorityRetired = false → ∀ name ∈ t.hostArtifacts.flatMap HostArtifact.backups,
      s'.backups.lookup name = s.backups.lookup name)

theorem keeps_effect {e : EngineEffect} (hallowed : Allowed host s e) (hopens : ¬Opens e) :
    Keeps s (s.change e) := by
  intro t hjournal
  have hused : ∀ name ∈ t.hostArtifacts.flatMap HostArtifact.backups, name ∈ t.backupNames :=
    fun name hname => List.mem_append_left _ hname
  have hstays : ∀ {s' : EngineState}, s'.journal = s.journal → s'.backups = s.backups →
      ∃ t', s'.journal = some t' ∧ Continues t t' ∧ (t'.rollbackAuthorityRetired = false →
        ∀ name ∈ t.hostArtifacts.flatMap HostArtifact.backups,
          s'.backups.lookup name = s.backups.lookup name) :=
    fun hsame hbackups => ⟨t, hsame.trans hjournal, Continues.refl t, fun _ _ _ => by rw [hbackups]⟩
  cases e with
  | writeJournal u =>
      rcases replaces_cases hallowed.1 with ⟨-, hstaging, -⟩ | ⟨old, hold, hcontinues⟩
      · exact absurd ⟨u, rfl, hstaging⟩ hopens
      · obtain rfl := Option.some.inj (hjournal.symm.trans hold)
        exact ⟨u, rfl, hcontinues, fun _ _ _ => rfl⟩
  | select selector digest => exact hstays journal_select backups_select
  | publish digest => exact hstays rfl rfl
  | removeRelease digest => exact hstays rfl rfl
  | writeBackup name content =>
      refine ⟨t, hjournal, Continues.refl t, fun _ other hother => lookup_cons_ne ?_⟩
      exact fun heq => hallowed t hjournal (heq ▸ hused other hother)
  | removeBackup name =>
      refine ⟨t, hjournal, Continues.refl t, fun _ other hother => lookup_filter_ne ?_⟩
      exact fun heq => hallowed t hjournal (heq ▸ hused other hother)
  | replaceArtifact path node => exact hstays rfl rfl
  | restoreBoundary record => exact hstays rfl rfl
  | stop force units => exact hstays rfl rfl
  | start unit => exact hstays rfl rfl
  | enable unit => exact hstays rfl rfl
  | daemonReload => exact hstays rfl rfl

theorem Keeps.trans {s s' s'' : EngineState} (h : Keeps s s') (h' : Keeps s' s'') :
    Keeps s s'' := by
  intro t hjournal
  obtain ⟨t', hjournal', hcontinues, hbackups⟩ := h t hjournal
  obtain ⟨t'', hjournal'', hcontinues', hbackups'⟩ := h' t' hjournal'
  refine ⟨t'', hjournal'', hcontinues.trans hcontinues', fun hkept name hname => ?_⟩
  have hkept' := hcontinues'.kept hkept
  rw [hbackups' hkept name ((hcontinues.authority hkept').1 ▸ hname), hbackups hkept' name hname]

/-- A run in which no transaction is opened keeps the one that there is. -/
theorem EngineRun.keeps (h : EngineRun host s w) (hs : Consistent host s)
    (hopens : ∀ p ∈ w.trace, ¬Opens p.2) : Keeps s w.toEngineState := by
  refine (h.running hs).run.related (R := Keeps) (P := fun _ e => ¬Opens e)
    (invariant_consistent host) hs hopens ?_ (fun h h' => h.trans h')
    (fun _ hallowed hopens => keeps_effect hallowed hopens) ?_
  · exact fun s _ t hjournal => ⟨t, hjournal, Continues.refl t, fun _ _ _ => rfl⟩
  · rintro s' _ - ⟨artifacts, rfl⟩ t hjournal
    exact ⟨t, hjournal, Continues.refl t, fun _ _ _ => rfl⟩

end Runs

end TrexWebui.ReleaseEngine
