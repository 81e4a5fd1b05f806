import TrexWebui.ReleaseRestoration

/-!
# The end of a transaction

A transaction ends in three steps: its terminal phase is written, its rollback
authority is retired, and the housekeeping removes what nothing refers to any
more (`finish_spec`). Each journal on the way follows the one before it and
obeys its rules, so that it can be written.
-/

namespace TrexWebui.ReleaseEngine

open PyStr PyJson PosixPath Sha2 Checks OracleProgram GuardedRuns

/-! ## Later journals -/

section Later

variable {host : EngineHost} {files : BackupFiles} {s : EngineState} {t : Transaction} {now : Str}

theorem advances_mutation {phase : Phase} (h : Advances s t phase) :
    phase ∈ Phase.daemonMutation := by
  cases h <;> decide

theorem not_terminal {phase : Phase} (h : phase ∉ Phase.decided) : phase ∉ Phase.terminal := by
  revert h
  cases phase <;> decide

theorem never_restored {P : Prop} (h : t.Rules host files) (hrestored : t.rollbackRestored = true)
    (hphase : t.phase ∉ [.startingBaselineConsumers, .rolledBack]) : P :=
  absurd (h.restored hrestored) hphase

theorem not_late {phase : Phase} (h : phase ∉ Phase.decided) :
    phase ∉ [.startingBaselineConsumers, .rolledBack] := by
  revert h
  cases phase <;> decide

theorem armed_of_mutation (h : t.Rules host files) (hmutation : t.daemonMutationStarted = true)
    (hphase : t.phase ≠ .rolledBack) : t.consumerMutationArmed = true := by
  cases harmed : t.consumerMutationArmed with
  | true => rfl
  | false => exact absurd ((h.mutation hmutation).armed harmed) hphase

theorem continues_replaces {u : Transaction} (hjournal : s.journal = some t)
    (hreplaces : Replaces s u) (hphase : u.phase ≠ .staging) : Continues t u := by
  rcases replaces_cases hreplaces with ⟨-, hstaging, -⟩ | ⟨old, hold, hcontinues⟩
  · exact absurd hstaging hphase
  · obtain rfl := Option.some.inj (hjournal.symm.trans hold)
    exact hcontinues

theorem later_advances {phase : Phase} (h : t.Rules host files) (hadvances : Advances s t phase) :
    LaterJournal t (t.moved phase now) where
  kept := rfl
  enable := Or.inl ⟨rfl, rfl⟩
  baseline := Or.inl ⟨rfl, rfl, rfl⟩
  mutation := fun hmutation => by
    refine ⟨hmutation, advances_mutation hadvances, fun harmed => ?_⟩
    have hphase : t.phase ≠ .rolledBack := fun heq =>
      advances_open hadvances (heq ▸ by decide)
    exact absurd ((armed_of_mutation h hmutation hphase).symm.trans harmed) (by decide)
  restored := fun hrestored => never_restored h hrestored (not_late (advances_open hadvances))

theorem later_unarmed :
    LaterJournal t ({ t.disarmed with rollbackRestored := false }.moved .rolledBack now) where
  kept := rfl
  enable := Or.inl ⟨rfl, rfl⟩
  baseline := Or.inr ⟨rfl, rfl⟩
  mutation := fun hmutation =>
    ⟨hmutation, (by decide : Phase.rolledBack ∈ Phase.daemonMutation), fun _ => rfl⟩
  restored := fun hrestored => by cases hrestored

theorem later_rolledBack (h : t.Rules host files) (hactive : t.consumerActiveBefore = []) :
    LaterJournal t ({ t with
      rollbackRestored := t.hostRestorePlanned
      consumerMutationArmed := false }.moved .rolledBack now) where
  kept := rfl
  enable := Or.inl ⟨rfl, rfl⟩
  baseline := by
    refine Or.inr ⟨hactive, ?_⟩
    have hbaseline := h.baseline
    rw [hactive] at hbaseline
    show t.consumerBaseline = []
    cases hrecords : t.consumerBaseline with
    | nil => rfl
    | cons record records =>
        rw [hrecords] at hbaseline
        exact hbaseline.elim
  mutation := fun hmutation =>
    ⟨hmutation, (by decide : Phase.rolledBack ∈ Phase.daemonMutation), fun _ => rfl⟩
  restored := fun _ => List.mem_cons_of_mem _ List.mem_cons_self

theorem later_starting (h : t.Rules host files) (hphase : t.phase ∉ Phase.decided) :
    LaterJournal t ({ t with rollbackRestored := t.hostRestorePlanned }.moved
      .startingBaselineConsumers now) where
  kept := rfl
  enable := Or.inl ⟨rfl, rfl⟩
  baseline := Or.inl ⟨rfl, rfl, rfl⟩
  mutation := fun hmutation => by
    refine ⟨hmutation, (by decide : Phase.startingBaselineConsumers ∈ Phase.daemonMutation),
      fun harmed => ?_⟩
    have hnot : t.phase ≠ .rolledBack := fun heq => hphase (heq ▸ by decide)
    exact absurd ((armed_of_mutation h hmutation hnot).symm.trans harmed) (by decide)
  restored := fun _ => List.mem_cons_self

theorem later_acknowledged :
    LaterJournal t (t.disarmed.moved .rolledBack now) where
  kept := rfl
  enable := Or.inl ⟨rfl, rfl⟩
  baseline := Or.inr ⟨rfl, rfl⟩
  mutation := fun hmutation =>
    ⟨hmutation, (by decide : Phase.rolledBack ∈ Phase.daemonMutation), fun _ => rfl⟩
  restored := fun _ => List.mem_cons_of_mem _ List.mem_cons_self

theorem later_committed (h : t.Rules host files) (hphase : t.phase = .finalizingConsumerEnable) :
    LaterJournal t (t.finalized.moved .committed now) where
  kept := rfl
  enable := Or.inr ⟨rfl, rfl⟩
  baseline := Or.inr ⟨rfl, rfl⟩
  mutation := fun hmutation => by cases hmutation
  restored := fun hrestored => never_restored h hrestored (by rw [hphase]; decide)

end Later

section Specs

variable {env : EngineEnvironment} {F : Prop} {w : EngineWorld} {s : EngineState} {t : Transaction}
  (hF : ¬env.Cooperative → F)

include hF

theorem later_spec {u : Transaction} {phase : Phase} (hjournal : w.journal = some t)
    (hencodable : ¬F → u.Encodable) (hphase : phase ≠ .staging)
    (hreplaces : ∀ now, Replaces w.toEngineState (u.moved phase now))
    (hopen : t.phase ∉ Phase.terminal)
    (hlater : t.Rules env.host (w.files env.host) → ∀ now, LaterJournal t (u.moved phase now)) :
    Spec (Running env.host s) w (setPhase env u phase)
      (fun t' w' => ∃ now, t' = u.moved phase now ∧ (¬F → t'.Encodable)
        ∧ w'.toEngineState = { w.toEngineState with journal := some t' }) fun _ => F := by
  refine Spec.assume fun hI => ?_
  have hrules := hI.now.rules t hjournal
  have hcontinues : ∀ now, Continues t (u.moved phase now) := fun now =>
    continues_replaces hjournal (hreplaces now) hphase
  have hcreated : u.createdAt = t.createdAt := (hcontinues u.createdAt).createdAt
  refine setPhase_spec hF hreplaces fun hn => ⟨⟨t, hjournal, hcreated.symm, hrules.createdAt⟩,
    hencodable hn, ?_⟩
  intro now hnow horder
  exact rules_later hrules hopen (hcontinues now).toSameTransaction (hlater hrules now) hnow horder

theorem advance_spec {phase : Phase} (hjournal : w.journal = some t)
    (hencodable : ¬F → t.Encodable) (hadvances : Advances w.toEngineState t phase) :
    Spec (Running env.host s) w (setPhase env t phase)
      (fun t' w' => ∃ now, t' = t.moved phase now ∧ (¬F → t'.Encodable)
        ∧ w'.toEngineState = { w.toEngineState with journal := some t' }) fun _ => F :=
  later_spec hF hjournal hencodable (by rintro rfl; cases hadvances)
    (fun _ => .advanced hjournal hadvances) (not_terminal (advances_open hadvances))
    fun hrules _ => later_advances hrules hadvances

/-! ## Housekeeping -/

def Retains (retained : List Str) (s : EngineState) : Prop :=
  ∀ digest, digest ∈ retained ↔ s.current = some digest ∨ s.previous = some digest

theorem prune_spec {retained : List Str} (hsettled : Settled w.journal)
    (hretains : Retains retained w.toEngineState) :
    Spec (Running env.host s) w (pruneReleases env retained)
      (fun _ w' => Housekept w.toEngineState w'.toEngineState)
      fun w' => F ∧ Housekept w.toEngineState w'.toEngineState := by
  refine Spec.assume fun hI => ?_
  refine pruneReleases_spec hF hsettled (fun d hd => (hretains d).mpr (Or.inl hd))
    (fun d hd => (hretains d).mpr (Or.inr hd)) fun _ d hd => ?_
  rcases (hretains d).mp hd with hselected | hselected
  · exact hI.now.currentStored d hselected
  · exact hI.now.previousStored d hselected

theorem housekeeping_spec {cleanup : EngineM Unit} {retained : List Str}
    (hsettled : Settled w.journal) (hretains : Retains retained w.toEngineState)
    (hcleanup : Spec (Running env.host s) w cleanup
      (fun _ w' => Housekept w.toEngineState w'.toEngineState)
      fun w' => F ∧ Housekept w.toEngineState w'.toEngineState) :
    Spec (Running env.host s) w (do
        bestEffort (liftM (check env .cleanStaging))
        bestEffort cleanup
        bestEffort (pruneReleases env retained) : EngineM Unit)
      (fun _ w' => Housekept w.toEngineState w'.toEngineState) fun _ => F := by
  have hstaging : Spec (Running env.host s) w (liftM (check env .cleanStaging) : EngineM Unit)
      (fun _ w' => w' = w) fun w' => F ∧ w' = w :=
    (gives_spec (check_gives hF)).weaken fun _ _ _ h => h.2
  refine Spec.call (bestEffort_spec hstaging) ?_ fun _ _ h => h.1
  rintro - w' - rfl
  refine Spec.call (bestEffort_spec hcleanup) (fun _ w'' _ hkept => ?_) fun _ _ h => h.1
  have hsettled' : Settled w''.journal := hkept.journal ▸ hsettled
  have hretains' : Retains retained w''.toEngineState := fun d => by
    rw [hkept.current, hkept.previous]
    exact hretains d
  exact (bestEffort_spec (prune_spec hF hsettled' hretains')).mono
    (fun _ _ _ h => hkept.trans h) fun _ _ h => h.1

theorem terminalHousekeeping_spec {retained : List Str} (hsettled : Settled w.journal)
    (hretains : Retains retained w.toEngineState) :
    Spec (Running env.host s) w (terminalHousekeeping env t retained)
      (fun _ w' => Housekept w.toEngineState w'.toEngineState) fun _ => F :=
  housekeeping_spec hF hsettled hretains
    (cleanupExcept_spec hF fun u hjournal => Or.inl (hsettled u hjournal))

theorem unjournaledHousekeeping_spec {retained : List Str} (hsettled : Settled w.journal)
    (hretains : Retains retained w.toEngineState) :
    Spec (Running env.host s) w (unjournaledHousekeeping env retained)
      (fun _ w' => Housekept w.toEngineState w'.toEngineState) fun _ => F :=
  housekeeping_spec hF hsettled hretains (cleanup_spec hF hsettled)

/-! ## Retirement -/

omit hF in
theorem selectorsAt_terminal {current previous : Option Str} (h : t.SelectorsAt current previous)
    (hphase : t.phase ∈ Phase.terminal) :
    (t.phase = .committed ∧ current = some t.candidate ∧ previous = t.currentBefore)
      ∨ (t.phase = .rolledBack ∧ current = t.currentBefore ∧ previous = t.previousBefore) := by
  simp only [Phase.terminal, List.mem_cons, List.not_mem_nil, or_false] at hphase
  rcases hphase with hphase | hphase
  · exact Or.inl ⟨hphase, h.at hphase⟩
  · exact Or.inr ⟨hphase, h.at hphase⟩

theorem verifyTerminal_spec (hjournal : w.journal = some t) (hphase : t.phase ∈ Phase.terminal)
    (hmet : ¬F → t.rollbackRestored = true → t.ArtifactsMet w.toEngineState) :
    Spec (Running env.host s) w (verifyTerminal env t)
      (fun _ w' => w'.toEngineState = w.toEngineState
        ∧ (t.rollbackRestored = true → t.ArtifactsMet w.toEngineState)) fun _ => F := by
  refine Spec.assume fun hI => ?_
  refine Spec.gives_bind (failIf_gives fun h => absurd hphase h) id fun _ _ => ?_
  refine selectors_spec hF id ?_
  rcases selectorsAt_terminal (hI.now.selectors t hjournal) hphase with
    ⟨hphase, hcurrent, hprevious⟩ | ⟨hphase, hcurrent, hprevious⟩
  · refine Spec.ite (fun _ => ?_) fun h => absurd hphase h
    refine (gives_spec (failIf_gives ?_)).mono (fun _ _ _ h => ?_) fun _ _ h => h.1
    · rintro (h | h)
      · exact absurd hcurrent h
      · exact absurd hprevious h
    · exact ⟨h.2 ▸ rfl, fun hrestored =>
        never_restored (hI.now.rules t hjournal) hrestored (by rw [hphase]; decide)⟩
  · refine Spec.ite (fun h => absurd (hphase.symm.trans h) (by decide)) fun _ => ?_
    refine Spec.gives_bind (failIf_gives ?_) id fun _ _ => ?_
    · rintro (h | h)
      · exact absurd hcurrent h
      · exact absurd hprevious h
    · refine verifyRestored_spec hF hjournal ?_ hmet
      rw [hphase]
      decide

/-- The transaction has given its authority up, and changed nothing else but its backups. -/
structure Ended (t : Transaction) (s : EngineState) (t' : Transaction) (s' : EngineState) :
    Prop where
  journal : s'.journal = some t'
  retired : t'.rollbackAuthorityRetired = true
  phase : t'.phase = t.phase
  continues : Continues t t'
  current : s'.current = s.current
  previous : s'.previous = s.previous
  artifacts : s'.artifacts = s.artifacts
  met : t.rollbackRestored = true → t.ArtifactsMet s

omit hF in
theorem Ended.housekept {t t' : Transaction} {s s' s'' : EngineState} (h : Ended t s t' s')
    (hkept : Housekept s' s'') : Ended t s t' s'' where
  journal := hkept.journal.trans h.journal
  retired := h.retired
  phase := h.phase
  continues := h.continues
  current := hkept.current.trans h.current
  previous := hkept.previous.trans h.previous
  artifacts := hkept.artifacts.trans h.artifacts
  met := h.met

omit hF in
theorem Ended.settled {t t' : Transaction} {s s' : EngineState} (h : Ended t s t' s') :
    Settled s'.journal := by
  rw [h.journal]
  rintro u (hu : some t' = some u)
  exact Option.some.inj hu ▸ h.retired

theorem compactTerminal_spec (hjournal : w.journal = some t) (hphase : t.phase ∈ Phase.terminal)
    (hencodable : ¬F → t.Encodable)
    (hmet : ¬F → t.rollbackRestored = true → t.ArtifactsMet w.toEngineState) :
    Spec (Running env.host s) w (compactTerminal env t)
      (fun t' w' => Ended t w.toEngineState t' w'.toEngineState) fun _ => F := by
  refine Spec.assume fun hI => Spec.ite (fun hretired => Spec.pure ?_) fun _ => ?_
  · have hcompact := (hI.now.rules t hjournal).compact hretired
    exact ⟨hjournal, hretired, rfl, Continues.refl t, rfl, rfl, rfl, fun hrestored =>
      absurd (hcompact.rollbackRestored.symm.trans hrestored) (by decide)⟩
  refine Spec.next (verifyTerminal_spec hF hjournal hphase hmet) fun _ w' hI hw' => ?_
  obtain ⟨hstate, hmet⟩ := hw'
  have hjournal' : w'.journal = some t := by
    rw [hstate]
    exact hjournal
  refine Spec.gives_bind (utcNow_gives hF) id fun now hnow => ?_
  have hreplaces : Replaces w'.toEngineState (t.compacted now) :=
    .retired hjournal' hphase (hstate ▸ hmet)
  refine Spec.next (writeTransaction_spec hF hreplaces fun hn => ?_) fun _ w'' _ hw'' => ?_
  · obtain ⟨htimestamp, horder⟩ := hnow hn
    have hrules := hI.now.rules t hjournal'
    exact ⟨rules_compacted hrules hphase htimestamp (horder t hjournal' hrules.createdAt),
      encodable_compacted (hencodable hn) htimestamp⟩
  · refine Spec.pure ?_
    have hopen : (t.compacted now).phase ≠ .staging := by
      show t.phase ≠ .staging
      intro heq
      rw [heq] at hphase
      exact absurd hphase (by decide)
    have hcontinues := continues_replaces hjournal' hreplaces hopen
    rw [hw'', hstate]
    exact ⟨rfl, rfl, rfl, hcontinues, rfl, rfl, rfl, hmet⟩

theorem retire_spec (hjournal : w.journal = some t) (hphase : t.phase ∈ Phase.terminal)
    (hencodable : ¬F → t.Encodable)
    (hmet : ¬F → t.rollbackRestored = true → t.ArtifactsMet w.toEngineState) :
    Spec (Running env.host s) w (retireTerminalRollbackAuthority env t)
      (fun t' w' => Ended t w.toEngineState t' w'.toEngineState) fun _ => F := by
  refine Spec.gives_bind (failIf_gives fun h => absurd hphase h) id fun _ _ => ?_
  refine Spec.next (compactTerminal_spec hF hjournal hphase hencodable hmet)
    fun t' w' _ hended => ?_
  refine Spec.call (bestEffort_spec (cleanup_spec hF hended.settled)) (fun _ w'' _ hkept => ?_)
    fun _ _ h => h.1
  exact Spec.pure (hended.housekept hkept)

/-! ## Endings -/

omit hF in
theorem retains_baseline {s : EngineState} (hcurrent : s.current = t.currentBefore)
    (hprevious : s.previous = t.previousBefore) : Retains t.baselineDigests s := by
  intro digest
  rw [Transaction.baselineDigests, List.mem_append, Option.mem_toList, Option.mem_toList, hcurrent,
    hprevious]

omit hF in
theorem retains_committed {s : EngineState} (hcurrent : s.current = some t.candidate)
    (hprevious : s.previous = t.currentBefore) : Retains t.committedDigests s := by
  intro digest
  rw [Transaction.committedDigests, List.mem_cons, Option.mem_toList, hcurrent, hprevious,
    Option.some.injEq, eq_comm (a := digest)]

/-- A transaction ends in a terminal phase that its journal may move to. -/
theorem finish_spec {u : Transaction} {phase : Phase} {retained : List Str}
    (hjournal : w.journal = some t) (hencodable : ¬F → u.Encodable)
    (hphase : phase ∈ Phase.terminal)
    (hreplaces : ∀ now, Replaces w.toEngineState (u.moved phase now))
    (hunended : t.phase ∉ Phase.terminal)
    (hlater : t.Rules env.host (w.files env.host) → ∀ now, LaterJournal t (u.moved phase now))
    (hmet : ¬F → u.rollbackRestored = true → u.ArtifactsMet w.toEngineState)
    (hretains : Retains retained w.toEngineState) :
    Spec (Running env.host s) w (finish env u phase retained)
      (fun t' w' => ∃ now, Continues t (u.moved phase now)
        ∧ Ended (u.moved phase now) w.toEngineState t' w'.toEngineState) fun _ => F := by
  have hopen : phase ≠ .staging := by
    rintro rfl
    exact absurd hphase (by decide)
  refine Spec.next (later_spec hF hjournal hencodable hopen hreplaces hunended
    hlater) fun t' w' _ h => ?_
  obtain ⟨now, rfl, hencodable', hstate⟩ := h
  have hcontinues := continues_replaces hjournal (hreplaces now) hopen
  have hjournal' : w'.journal = some (u.moved phase now) := congrArg EngineState.journal hstate
  have hartifacts : w'.artifacts = w.artifacts := by rw [hstate]
  have hcurrent : w'.current = w.current := by rw [hstate]
  have hprevious : w'.previous = w.previous := by rw [hstate]
  have hmet' : ¬F → u.rollbackRestored = true →
      (u.moved phase now).ArtifactsMet w'.toEngineState := fun hn hrestored => by
    rw [Transaction.ArtifactsMet, hartifacts]
    exact hmet hn hrestored
  refine Spec.next (retire_spec hF hjournal' hphase hencodable' hmet') fun t' w'' _ hended => ?_
  have hretains' : Retains retained w''.toEngineState := fun d => by
    rw [hended.current, hended.previous, hcurrent, hprevious]
    exact hretains d
  refine Spec.next (terminalHousekeeping_spec hF hended.settled hretains') fun _ v _ hkept => ?_
  have hdone := hended.housekept hkept
  have hmet'' : (u.moved phase now).rollbackRestored = true →
      (u.moved phase now).ArtifactsMet w.toEngineState := by
    rw [Transaction.ArtifactsMet, ← hartifacts]
    exact hdone.met
  exact Spec.pure ⟨now, hcontinues, { hdone with
    current := hdone.current.trans hcurrent
    previous := hdone.previous.trans hprevious
    artifacts := hdone.artifacts.trans hartifacts
    met := hmet'' }⟩

theorem settle_spec {retained : Transaction → List Str} (hjournal : w.journal = some t)
    (hphase : t.phase ∈ Phase.terminal) (hencodable : ¬F → t.Encodable)
    (hmet : ¬F → t.rollbackRestored = true → t.ArtifactsMet w.toEngineState)
    (hretains : ∀ t' s', Ended t w.toEngineState t' s' → Retains (retained t') s') :
    Spec (Running env.host s) w (do
        let t ← retireTerminalRollbackAuthority env t
        verifyTerminal env t
        terminalHousekeeping env t (retained t)
        pure t : EngineM Transaction)
      (fun t' w' => Ended t w.toEngineState t' w'.toEngineState) fun _ => F := by
  refine Spec.next (retire_spec hF hjournal hphase hencodable hmet) fun t' w' hI hended => ?_
  have hphase' : t'.phase ∈ Phase.terminal := hended.phase ▸ hphase
  have hcompact := (hI.now.rules t' hended.journal).compact hended.retired
  refine Spec.next (verifyTerminal_spec hF hended.journal hphase' fun _ hrestored => ?_)
    fun _ w'' _ h => ?_
  · rw [hcompact.rollbackRestored] at hrestored
    cases hrestored
  have hended' : Ended t w.toEngineState t' w''.toEngineState := h.1 ▸ hended
  refine Spec.next (terminalHousekeeping_spec hF hended'.settled (hretains t' _ hended'))
    fun _ _ _ hkept => Spec.pure (hended'.housekept hkept)

theorem settleRolledBack_spec (hjournal : w.journal = some t) (hphase : t.phase = .rolledBack)
    (hencodable : ¬F → t.Encodable)
    (hmet : ¬F → t.rollbackRestored = true → t.ArtifactsMet w.toEngineState) :
    Spec (Running env.host s) w (settleRolledBack env t)
      (fun t' w' => Ended t w.toEngineState t' w'.toEngineState) fun _ => F := by
  refine Spec.assume fun hI => ?_
  have hselectors := (hI.now.selectors t hjournal).at hphase
  refine settle_spec hF hjournal (by rw [hphase]; decide) hencodable hmet fun t' s' hended => ?_
  exact retains_baseline (hended.current.trans (hselectors.1.trans hended.continues.currentBefore.symm))
    (hended.previous.trans (hselectors.2.trans hended.continues.previousBefore.symm))

theorem settleCommitted_spec (hjournal : w.journal = some t) (hphase : t.phase = .committed)
    (hencodable : ¬F → t.Encodable) :
    Spec (Running env.host s) w (settleCommitted env t)
      (fun t' w' => Ended t w.toEngineState t' w'.toEngineState) fun _ => F := by
  refine Spec.assume fun hI => ?_
  have hselectors := (hI.now.selectors t hjournal).at hphase
  refine settle_spec hF hjournal (by rw [hphase]; decide) hencodable (fun _ hrestored => ?_)
    fun t' s' hended => ?_
  · exact never_restored (hI.now.rules t hjournal) hrestored (by rw [hphase]; decide)
  · refine retains_committed (hended.current.trans ?_) (hended.previous.trans ?_)
    · rw [hselectors.1, hended.continues.candidate]
    · rw [hselectors.2, hended.continues.currentBefore]

end Specs

end TrexWebui.ReleaseEngine
