import TrexWebui.ReleaseProtocol

/-!
# Consistent states

Every effect that the protocol allows keeps the state consistent
(`consistent_change`), so that every state of a run is consistent
(`invariant_consistent`).
-/

namespace TrexWebui.ReleaseEngine

open PyStr PyJson PosixPath Sha2 Checks GuardedRuns

/-! ## The backups that the rules read -/

section Backups

variable {host : EngineHost} {files files' : BackupFiles}

theorem loadBackup_congr {label : String} {missing : JournalError} {limit : Option Nat}
    {backup : Str} {size : Nat} {digest : Str} (h : files' backup = files backup) :
    loadBackup host files' label missing limit backup size digest
      = loadBackup host files label missing limit backup size digest := by
  simp only [loadBackup, h]

theorem checkHostBackup_congr {artifact : HostArtifact}
    (h : ∀ name ∈ artifact.backups, files' name = files name) :
    checkHostBackup host files' artifact = checkHostBackup host files artifact := by
  cases artifact with
  | absent path => rfl
  | file path backup uid gid mode size sha256 =>
      simp only [checkHostBackup, loadHostBackup,
        loadBackup_congr (h backup (List.mem_singleton_self backup))]
  | symlink path uid gid mode size sha256 target => rfl

theorem checkHostBackups_congr {artifacts : List HostArtifact}
    (h : ∀ name ∈ artifacts.flatMap HostArtifact.backups, files' name = files name) :
    artifacts.forM (checkHostBackup host files') = artifacts.forM (checkHostBackup host files) := by
  induction artifacts with
  | nil => rfl
  | cons artifact artifacts ih =>
      rw [List.flatMap_cons, List.forall_mem_append] at h
      rw [List.forM, List.forM, checkHostBackup_congr h.1, ih h.2]

theorem NativeBoundary.Proper.congr {transactionId : Str} {record : NativeBoundary}
    (hproper : record.Proper host files transactionId)
    (h : ∀ name ∈ record.backups, files' name = files name) :
    record.Proper host files' transactionId := by
  have hbackup := h record.backup List.mem_cons_self
  have hhelper := h record.helperBackup (List.mem_cons_of_mem _ List.mem_cons_self)
  exact { hproper with
    snapshot := by
      rw [loadNativeBoundaryBackup, loadBackup_congr hbackup]
      exact hproper.snapshot
    helper := by
      rw [loadNativeBoundaryBackup, loadBackup_congr hhelper]
      exact hproper.helper }

theorem ConsumerBaseline.Proper.congr {transactionId : Str} {index : Nat} {unit : Str}
    {record : ConsumerBaseline} (hproper : record.Proper host files transactionId index unit)
    (h : ∀ name ∈ record.backups, files' name = files name) :
    record.Proper host files' transactionId index unit := by
  cases record with
  | daemon => exact hproper
  | api workingDirectory execStart argv0 resolvedExec => exact hproper
  | nginx responseBackup responseSize responseSha256 =>
      obtain ⟨hunit, hbackup, hpos, hsmall, hdigest, hcontent⟩ := hproper
      refine ⟨hunit, hbackup, hpos, hsmall, hdigest, ?_⟩
      rw [loadConsumerResponse, loadBackup_congr (h responseBackup (List.mem_singleton_self _))]
      exact hcontent

theorem ProperBaselines.congr {transactionId : Str} {index : Nat} {units : List Str}
    {records : List ConsumerBaseline}
    (hproper : ProperBaselines host files transactionId index units records)
    (h : ∀ name ∈ records.flatMap ConsumerBaseline.backups, files' name = files name) :
    ProperBaselines host files' transactionId index units records :=
  Aligned.imp hproper fun _ _ record hmem hrecord =>
    hrecord.congr fun name hname => h name (List.mem_flatMap.mpr ⟨record, hmem, hname⟩)

theorem Transaction.Rules.congr {t : Transaction} (hrules : t.Rules host files)
    (h : ∀ name ∈ t.backupNames, files' name = files name) : t.Rules host files' := by
  rw [Transaction.backupNames, List.forall_mem_append, List.forall_mem_append] at h
  obtain ⟨hartifacts, hboundary, hbaseline⟩ := h
  exact { hrules with
    backups := by
      rw [checkHostBackups_congr hartifacts]
      exact hrules.backups
    boundary := by
      have hrule := hrules.boundary
      rw [Transaction.BoundaryRule] at hrule ⊢
      split_ifs with hrequired
      · rw [if_pos hrequired] at hrule
        obtain ⟨record, hrecord, hproper⟩ := hrule
        refine ⟨record, hrecord, hproper.congr fun name hname => hboundary name ?_⟩
        rw [hrecord]
        exact List.mem_flatMap.mpr ⟨record, List.mem_singleton_self record, hname⟩
      · rwa [if_neg hrequired] at hrule
    baseline := hrules.baseline.congr hbaseline }

theorem Transaction.Compact.backupNames {t : Transaction} (h : t.Compact) : t.backupNames = [] := by
  rw [Transaction.backupNames, h.hostArtifacts, h.nativeBoundary, h.consumerBaseline]
  rfl

end Backups

/-! ## The selectors -/

section Selectors

variable {s : EngineState} {t : Transaction} {current previous : Option Str}

theorem selectorsAt_open (h : t.SelectorsAt current previous) (hphase : t.phase ∉ Phase.decided) :
    (current = t.currentBefore ∨ current = some t.candidate)
      ∧ (previous = t.previousBefore ∨ previous = t.currentBefore) := by
  revert h hphase
  unfold Transaction.SelectorsAt
  cases t.phase <;> simp +contextual [Phase.decided]

theorem Transaction.SelectorsAt.at {phase : Phase} (h : t.SelectorsAt current previous)
    (hphase : t.phase = phase) : Transaction.SelectorsAt { t with phase } current previous := by
  subst hphase
  exact h

/-- The selectors stand where the journal says, also after it has moved on. -/
theorem selectorsAt_advances {phase : Phase} {now : Str} (h : t.SelectorsAt s.current s.previous)
    (hadvances : Advances s t phase) : (t.moved phase now).SelectorsAt s.current s.previous := by
  cases hadvances with
  | prepared hphase => exact h.at hphase
  | switchingCurrent hphase => exact ⟨Or.inl (h.at hphase).1, (h.at hphase).2⟩
  | currentSwitched hphase hcurrent => exact ⟨hcurrent, (h.at hphase).2⟩
  | switchingPrevious hphase => exact ⟨(h.at hphase).1, Or.inl (h.at hphase).2⟩
  | activated hphase hprevious => exact ⟨(h.at hphase).1, hprevious⟩
  | stoppingConsumers hphase =>
      have hopen := selectorsAt_open h hphase
      exact hopen
  | consumersStopped hphase => exact h.at hphase
  | rollingBackCurrent hphase =>
      have hopen := selectorsAt_open h hphase
      exact hopen
  | rollingBackPrevious hphase hcurrent => exact ⟨hcurrent, (h.at hphase).2⟩
  | restoringNativeBoundary hback => exact ⟨(h.at hback.1).1, hback.2⟩
  | nativeBoundaryRestored hphase => exact h.at hphase
  | restoringHostArtifacts _ hboundary =>
      rcases hboundary with hphase | ⟨-, hback⟩
      · exact h.at hphase
      · exact ⟨(h.at hback.1).1, hback.2⟩
  | hostArtifactsRestored hphase => exact h.at hphase

theorem selectorsAt_restored (h : t.SelectorsAt s.current s.previous) (hrestored : t.Restored s) :
    s.current = t.currentBefore ∧ s.previous = t.previousBefore := by
  rcases hrestored with hphase | ⟨-, hback⟩
  · exact h.at hphase
  · exact ⟨(h.at hback.1).1, hback.2⟩

theorem selectorsAt_replaces {t' : Transaction}
    (h : ∀ t ∈ s.journal, t.SelectorsAt s.current s.previous) (hreplaces : Replaces s t') :
    t'.SelectorsAt s.current s.previous := by
  cases hreplaces with
  | opened _ hphase hcurrent hprevious =>
      rw [Transaction.SelectorsAt, hphase]
      exact ⟨hcurrent.symm, hprevious.symm⟩
  | advanced hjournal hadvances => exact selectorsAt_advances (h _ hjournal) hadvances
  | armed hjournal =>
      have hselectors := h _ hjournal
      exact hselectors
  | mutating hjournal =>
      have hselectors := h _ hjournal
      exact hselectors
  | finalizing hjournal hphase => exact (h _ hjournal).at hphase
  | committed hjournal hphase => exact (h _ hjournal).at hphase
  | starting hjournal hrestored =>
      have hback := selectorsAt_restored (h _ hjournal) hrestored
      exact hback
  | rolledBack hjournal hrestored =>
      have hback := selectorsAt_restored (h _ hjournal) hrestored
      exact hback
  | unarmed _ _ _ hcurrent hprevious => exact ⟨hcurrent, hprevious⟩
  | acknowledged hjournal hphase => exact (h _ hjournal).at hphase
  | retired hjournal =>
      have hselectors := h _ hjournal
      exact hselectors

end Selectors

/-! ## The steps between the phases -/

namespace Phase

def forward : List Phase := [finalizingConsumerEnable, committed]

def backward : List Phase :=
  [stoppingConsumers, consumersStopped, rollingBackCurrent, rollingBackPrevious,
    restoringNativeBoundary, nativeBoundaryRestored, restoringHostArtifacts, hostArtifactsRestored,
    startingBaselineConsumers, rolledBack]

def steps : List (Phase × Phase) :=
  [(staging, prepared), (prepared, switchingCurrent), (switchingCurrent, currentSwitched),
    (currentSwitched, switchingPrevious), (switchingPrevious, activated),
    (stoppingConsumers, consumersStopped), (rollingBackCurrent, rollingBackPrevious),
    (rollingBackPrevious, restoringNativeBoundary),
    (restoringNativeBoundary, nativeBoundaryRestored),
    (nativeBoundaryRestored, restoringHostArtifacts),
    (rollingBackPrevious, restoringHostArtifacts),
    (restoringHostArtifacts, hostArtifactsRestored)]

end Phase

section Steps

variable {s : EngineState} {t : Transaction} {phase : Phase}

/-- A transaction moves on by a step, or its rollback begins, which it may in any open phase. -/
theorem advances_step (h : Advances s t phase) : (t.phase, phase) ∈ Phase.steps
    ∨ (phase ∈ [.stoppingConsumers, .rollingBackCurrent] ∧ t.phase ∉ Phase.decided
      ∧ t.consumerMutationArmed = true) := by
  cases h with
  | prepared hphase => exact Or.inl (by rw [hphase]; decide)
  | switchingCurrent hphase => exact Or.inl (by rw [hphase]; decide)
  | currentSwitched hphase => exact Or.inl (by rw [hphase]; decide)
  | switchingPrevious hphase => exact Or.inl (by rw [hphase]; decide)
  | activated hphase => exact Or.inl (by rw [hphase]; decide)
  | stoppingConsumers hphase harmed => exact Or.inr ⟨by decide, hphase, harmed⟩
  | consumersStopped hphase => exact Or.inl (by rw [hphase]; decide)
  | rollingBackCurrent hphase harmed => exact Or.inr ⟨by decide, hphase, harmed⟩
  | rollingBackPrevious hphase => exact Or.inl (by rw [hphase]; decide)
  | restoringNativeBoundary hback => exact Or.inl (by rw [hback.1]; decide)
  | nativeBoundaryRestored hphase => exact Or.inl (by rw [hphase]; decide)
  | restoringHostArtifacts _ hboundary =>
      rcases hboundary with hphase | ⟨-, hphase, -⟩
      · exact Or.inl (by rw [hphase]; decide)
      · exact Or.inl (by rw [hphase]; decide)
  | hostArtifactsRestored hphase => exact Or.inl (by rw [hphase]; decide)

theorem advances_open (h : Advances s t phase) : t.phase ∉ Phase.decided := by
  have hsteps : ∀ e ∈ Phase.steps, e.1 ∉ Phase.decided := by decide
  rcases advances_step h with hstep | ⟨-, hopen, -⟩
  · exact hsteps _ hstep
  · exact hopen

theorem not_forward (h : phase ∉ Phase.decided) : phase ∉ Phase.forward := by
  revert h
  cases phase <;> decide

end Steps

/-! ## The consumers are armed in time -/

section Armed

variable {s : EngineState} {t : Transaction}

theorem Transaction.ArmedInTime.armed (h : t.ArmedInTime) {phase : Phase} (hphase : t.phase = phase)
    (hlate : phase ∉ [.staging, .prepared]) (hopen : phase ∉ Phase.decided) :
    t.consumerMutationArmed = true := by
  cases harmed : t.consumerMutationArmed with
  | true => rfl
  | false =>
      rw [← hphase] at hlate hopen
      exact (h harmed).elim (fun hearly => absurd hearly hlate) fun hdecided => absurd hdecided hopen

theorem armed_advances {phase : Phase} (h : t.ArmedInTime) (hadvances : Advances s t phase) :
    phase = .prepared ∨ t.consumerMutationArmed = true := by
  have hsteps : ∀ e ∈ Phase.steps, e.2 = .prepared ∨ e.2 = .switchingCurrent
      ∨ e.1 ∉ [Phase.staging, .prepared] := by decide
  rcases advances_step hadvances with hstep | ⟨-, -, harmed⟩
  · rcases hsteps _ hstep with hprepared | hswitching | hlate
    · exact Or.inl hprepared
    · obtain rfl : phase = .switchingCurrent := hswitching
      cases hadvances with
      | switchingCurrent _ harmed => exact Or.inr harmed
    · exact Or.inr (h.armed rfl hlate (advances_open hadvances))
  · exact Or.inr harmed

theorem armed_replaces {t' : Transaction} (h : ∀ t ∈ s.journal, t.ArmedInTime)
    (hreplaces : Replaces s t') : t'.ArmedInTime := by
  intro hunarmed
  cases hreplaces with
  | opened _ hphase => exact Or.inl (by rw [hphase]; decide)
  | advanced hjournal hadvances =>
      rcases armed_advances (h _ hjournal) hadvances with rfl | harmed
      · exact Or.inl (List.mem_cons_of_mem _ List.mem_cons_self)
      · exact absurd (harmed.symm.trans hunarmed) (by decide)
  | armed => cases hunarmed
  | mutating _ _ harmed => exact absurd (harmed.symm.trans hunarmed) (by decide)
  | finalizing => exact Or.inr (show Phase.finalizingConsumerEnable ∈ Phase.decided by decide)
  | committed => exact Or.inr (show Phase.committed ∈ Phase.decided by decide)
  | starting => exact Or.inr (show Phase.startingBaselineConsumers ∈ Phase.decided by decide)
  | rolledBack => exact Or.inr (show Phase.rolledBack ∈ Phase.decided by decide)
  | unarmed => exact Or.inr (show Phase.rolledBack ∈ Phase.decided by decide)
  | acknowledged => exact Or.inr (show Phase.rolledBack ∈ Phase.decided by decide)
  | @retired t now _ hphase =>
      refine Or.inr (show t.phase ∈ Phase.decided from ?_)
      revert hphase
      cases t.phase <;> decide

end Armed

/-! ## The candidate is stored -/

section Stored

variable {s : EngineState} {t : Transaction}

theorem stored_advances {phase : Phase} (h : t.phase ∈ Phase.activating → t.candidate ∈ s.releases)
    (hadvances : Advances s t phase) (hphase : phase ∈ Phase.activating) :
    t.candidate ∈ s.releases := by
  have hsteps : ∀ e ∈ Phase.steps, e.2 ∈ Phase.activating →
      e.2 = .prepared ∨ e.1 ∈ Phase.activating := by decide
  rcases advances_step hadvances with hstep | ⟨hback, -⟩
  · rcases hsteps _ hstep hphase with hprepared | hactivating
    · obtain rfl : phase = .prepared := hprepared
      cases hadvances with
      | prepared _ hstored => exact hstored
    · exact h hactivating
  · have hlate : ∀ p ∈ [Phase.stoppingConsumers, .rollingBackCurrent], p ∉ Phase.activating := by
      decide
    exact absurd hphase (hlate phase hback)

theorem stored_replaces {t' : Transaction}
    (h : ∀ t ∈ s.journal, t.phase ∈ Phase.activating → t.candidate ∈ s.releases)
    (hreplaces : Replaces s t') (hphase : t'.phase ∈ Phase.activating) :
    t'.candidate ∈ s.releases := by
  cases hreplaces with
  | opened _ hstaging =>
      rw [hstaging] at hphase
      exact absurd hphase (by decide)
  | @advanced t phase now hjournal hadvances =>
      have hstored := stored_advances (h t hjournal) hadvances hphase
      exact hstored
  | @armed t _ _ _ hjournal hold => exact h t hjournal (by rw [hold]; decide)
  | @mutating t _ hjournal hold => exact h t hjournal (by rw [hold]; decide)
  | @finalizing t _ hjournal hold => exact h t hjournal (by rw [hold]; decide)
  | committed => exact absurd (show Phase.committed ∈ Phase.activating from hphase) (by decide)
  | starting =>
      exact absurd (show Phase.startingBaselineConsumers ∈ Phase.activating from hphase) (by decide)
  | rolledBack => exact absurd (show Phase.rolledBack ∈ Phase.activating from hphase) (by decide)
  | unarmed => exact absurd (show Phase.rolledBack ∈ Phase.activating from hphase) (by decide)
  | acknowledged => exact absurd (show Phase.rolledBack ∈ Phase.activating from hphase) (by decide)
  | @retired t _ hjournal => exact h t hjournal hphase

end Stored

/-! ## What a journal keeps of the one before it -/

/-- The same transaction; authority that was given up does not come back, and until then it is
not changed. -/
structure SameTransaction (t t' : Transaction) : Prop where
  transactionId : t'.transactionId = t.transactionId
  transactionKind : t'.transactionKind = t.transactionKind
  candidate : t'.candidate = t.candidate
  currentBefore : t'.currentBefore = t.currentBefore
  previousBefore : t'.previousBefore = t.previousBefore
  hostProfile : t'.hostProfile = t.hostProfile
  consumerRollbackPlan : t'.consumerRollbackPlan = t.consumerRollbackPlan
  createdAt : t'.createdAt = t.createdAt
  retired : t.rollbackAuthorityRetired = true → t'.rollbackAuthorityRetired = true
  authority : t'.rollbackAuthorityRetired = false →
    t'.hostArtifacts = t.hostArtifacts ∧ t'.nativeBoundary = t.nativeBoundary

/-- A later journal of the same transaction: a decision is final. -/
structure Continues (t t' : Transaction) : Prop extends SameTransaction t t' where
  forward : t.phase ∈ Phase.forward → t'.phase ∈ Phase.forward
  backward : t.phase ∈ Phase.backward → t'.phase ∈ Phase.backward

theorem SameTransaction.refl (t : Transaction) : SameTransaction t t :=
  ⟨rfl, rfl, rfl, rfl, rfl, rfl, rfl, rfl, id, fun _ => ⟨rfl, rfl⟩⟩

theorem SameTransaction.kept {t t' : Transaction} (h : SameTransaction t t')
    (hretired : t'.rollbackAuthorityRetired = false) : t.rollbackAuthorityRetired = false := by
  cases hkept : t.rollbackAuthorityRetired with
  | false => rfl
  | true => exact absurd (h.retired hkept) (by rw [hretired]; decide)

theorem SameTransaction.baselineDigests {t t' : Transaction} (h : SameTransaction t t') :
    t'.baselineDigests = t.baselineDigests := by
  rw [Transaction.baselineDigests, h.currentBefore, h.previousBefore]
  rfl

theorem Continues.refl (t : Transaction) : Continues t t := ⟨SameTransaction.refl t, id, id⟩

theorem Continues.trans {t t' t'' : Transaction} (h : Continues t t') (h' : Continues t' t'') :
    Continues t t'' where
  transactionId := h'.transactionId.trans h.transactionId
  transactionKind := h'.transactionKind.trans h.transactionKind
  candidate := h'.candidate.trans h.candidate
  currentBefore := h'.currentBefore.trans h.currentBefore
  previousBefore := h'.previousBefore.trans h.previousBefore
  hostProfile := h'.hostProfile.trans h.hostProfile
  consumerRollbackPlan := h'.consumerRollbackPlan.trans h.consumerRollbackPlan
  createdAt := h'.createdAt.trans h.createdAt
  retired := fun hretired => h'.retired (h.retired hretired)
  authority := fun hretired =>
    ⟨(h'.authority hretired).1.trans (h.authority (h'.kept hretired)).1,
      (h'.authority hretired).2.trans (h.authority (h'.kept hretired)).2⟩
  forward := fun hphase => h'.forward (h.forward hphase)
  backward := fun hphase => h'.backward (h.backward hphase)

theorem SameTransaction.moved {t u : Transaction} {phase : Phase} {now : Str}
    (h : SameTransaction t u) (hforward : t.phase ∈ Phase.forward → phase ∈ Phase.forward)
    (hbackward : t.phase ∈ Phase.backward → phase ∈ Phase.backward) :
    Continues t (u.moved phase now) :=
  ⟨⟨h.transactionId, h.transactionKind, h.candidate, h.currentBefore, h.previousBefore,
    h.hostProfile, h.consumerRollbackPlan, h.createdAt, h.retired, h.authority⟩, hforward, hbackward⟩

theorem SameTransaction.back {t u : Transaction} {phase : Phase} {now : Str}
    (h : SameTransaction t u) (hphase : t.phase ∉ Phase.forward) (hback : phase ∈ Phase.backward) :
    Continues t (u.moved phase now) :=
  h.moved (fun hforward => absurd hforward hphase) fun _ => hback

theorem continues_advances {s : EngineState} {t : Transaction} {phase : Phase} {now : Str}
    (h : Advances s t phase) : Continues t (t.moved phase now) := by
  have hsteps : ∀ e ∈ Phase.steps, (e.1 ∈ Phase.forward → e.2 ∈ Phase.forward)
      ∧ (e.1 ∈ Phase.backward → e.2 ∈ Phase.backward) := by decide
  rcases advances_step h with hstep | ⟨hback, hopen, -⟩
  · exact (SameTransaction.refl t).moved (hsteps _ hstep).1 (hsteps _ hstep).2
  · refine (SameTransaction.refl t).back (not_forward hopen) ?_
    revert hback
    cases phase <;> decide

theorem Transaction.Restored.not_forward {s : EngineState} {t : Transaction} (h : t.Restored s) :
    t.phase ∉ Phase.forward := by
  rcases h with hphase | ⟨-, hphase, -⟩
  · rw [hphase]; decide
  · rw [hphase]; decide

theorem replaces_cases {s : EngineState} {t' : Transaction} (h : Replaces s t') :
    (Settled s.journal ∧ t'.phase = .staging ∧ t'.currentBefore = s.current
      ∧ t'.previousBefore = s.previous) ∨ ∃ t, s.journal = some t ∧ Continues t t' := by
  have hdisarmed := fun t : Transaction =>
    (⟨rfl, rfl, rfl, rfl, rfl, rfl, rfl, rfl, id, fun _ => ⟨rfl, rfl⟩⟩ : SameTransaction t t.disarmed)
  cases h with
  | opened hsettled hphase hcurrent hprevious => exact Or.inl ⟨hsettled, hphase, hcurrent, hprevious⟩
  | advanced hjournal hadvances => exact Or.inr ⟨_, hjournal, continues_advances hadvances⟩
  | @armed t active baseline now hjournal =>
      have hsame : SameTransaction t (t.armed active baseline now) :=
        ⟨rfl, rfl, rfl, rfl, rfl, rfl, rfl, rfl, id, fun _ => ⟨rfl, rfl⟩⟩
      exact Or.inr ⟨t, hjournal, hsame, id, id⟩
  | @mutating t now hjournal =>
      have hsame : SameTransaction t (t.mutating now) :=
        ⟨rfl, rfl, rfl, rfl, rfl, rfl, rfl, rfl, id, fun _ => ⟨rfl, rfl⟩⟩
      exact Or.inr ⟨t, hjournal, hsame, id, id⟩
  | @finalizing t now hjournal hphase =>
      have hsame : SameTransaction t { t with daemonMutationStarted := false } :=
        ⟨rfl, rfl, rfl, rfl, rfl, rfl, rfl, rfl, id, fun _ => ⟨rfl, rfl⟩⟩
      exact Or.inr ⟨t, hjournal, hsame.moved (fun _ => by decide) (by rw [hphase]; decide)⟩
  | @committed t now hjournal hphase =>
      have hsame : SameTransaction t t.finalized :=
        ⟨rfl, rfl, rfl, rfl, rfl, rfl, rfl, rfl, id, fun _ => ⟨rfl, rfl⟩⟩
      exact Or.inr ⟨t, hjournal, hsame.moved (fun _ => by decide) (by rw [hphase]; decide)⟩
  | @starting t now hjournal hrestored =>
      have hsame : SameTransaction t { t with rollbackRestored := t.hostRestorePlanned } :=
        ⟨rfl, rfl, rfl, rfl, rfl, rfl, rfl, rfl, id, fun _ => ⟨rfl, rfl⟩⟩
      exact Or.inr ⟨t, hjournal, hsame.back hrestored.not_forward (by decide)⟩
  | @rolledBack t now hjournal hrestored =>
      have hsame : SameTransaction t
          { t with rollbackRestored := t.hostRestorePlanned, consumerMutationArmed := false } :=
        ⟨rfl, rfl, rfl, rfl, rfl, rfl, rfl, rfl, id, fun _ => ⟨rfl, rfl⟩⟩
      exact Or.inr ⟨t, hjournal, hsame.back hrestored.not_forward (by decide)⟩
  | @unarmed t now hjournal hphase =>
      have hsame : SameTransaction t { t.disarmed with rollbackRestored := false } :=
        ⟨rfl, rfl, rfl, rfl, rfl, rfl, rfl, rfl, id, fun _ => ⟨rfl, rfl⟩⟩
      exact Or.inr ⟨t, hjournal, hsame.back (not_forward hphase) (by decide)⟩
  | acknowledged hjournal hphase =>
      exact Or.inr ⟨_, hjournal, (hdisarmed _).back (by rw [hphase]; decide) (by decide)⟩
  | retired hjournal =>
      refine Or.inr ⟨_, hjournal, ⟨rfl, rfl, rfl, rfl, rfl, rfl, rfl, rfl, fun _ => rfl, ?_⟩, id, id⟩
      intro h
      cases h

/-! ## The effects keep the state consistent -/

theorem lookup_cons_ne {backups : List (Str × Bytes)} {name other : Str} {content : Bytes}
    (h : other ≠ name) : ((name, content) :: backups).lookup other = backups.lookup other := by
  rw [List.lookup_cons, beq_false_of_ne h]

theorem files_writeBackup {host : EngineHost} {s : EngineState} {name other : Str} {content : Bytes}
    (h : other ≠ name) :
    (s.change (.writeBackup name content)).files host other = s.files host other := by
  rw [EngineState.files, EngineState.files, EngineState.change, lookup_cons_ne h]

theorem lookup_filter_ne {backups : List (Str × Bytes)} {name other : Str} (h : other ≠ name) :
    (backups.filter fun entry => entry.1 ≠ name).lookup other = backups.lookup other := by
  induction backups with
  | nil => rfl
  | cons entry backups ih =>
      obtain ⟨key, content⟩ := entry
      rw [List.filter_cons, List.lookup_cons]
      by_cases hkey : key = name
      · rw [if_neg (by simpa using hkey), ih, beq_false_of_ne (hkey ▸ h)]
      · rw [if_pos (by simpa using hkey), List.lookup_cons, ih]

theorem files_removeBackup {host : EngineHost} {s : EngineState} {name other : Str}
    (h : other ≠ name) :
    (s.change (.removeBackup name)).files host other = s.files host other := by
  rw [EngineState.files, EngineState.files, EngineState.change, lookup_filter_ne h]

variable {host : EngineHost} {s : EngineState}

theorem consistent_writeJournal {t : Transaction} (h : Consistent host s)
    (hallowed : Allowed host s (.writeJournal t)) :
    Consistent host (s.change (.writeJournal t)) := by
  obtain ⟨hreplaces, hrules⟩ := hallowed
  have hselectors := selectorsAt_replaces h.selectors hreplaces
  have harmed := armed_replaces h.armed hreplaces
  have hstored := stored_replaces h.candidateStored hreplaces
  have hwritten : ∀ {P : Transaction → Prop}, P t → ∀ u, some t = some u → P u :=
    fun hP u hu => Option.some.inj hu ▸ hP
  refine { h with
    rules := hwritten hrules
    selectors := hwritten hselectors
    armed := hwritten harmed
    baselineStored := hwritten fun hretired digest hdigest => ?_
    candidateStored := hwritten hstored }
  · rcases replaces_cases hreplaces with ⟨-, -, hcurrent, hprevious⟩ | ⟨old, hjournal, hcontinues⟩
    · rw [Transaction.baselineDigests, hcurrent, hprevious, List.mem_append] at hdigest
      rcases hdigest with hdigest | hdigest
      · exact h.currentStored digest (Option.mem_toList.mp hdigest)
      · exact h.previousStored digest (Option.mem_toList.mp hdigest)
    · rw [hcontinues.baselineDigests] at hdigest
      exact h.baselineStored old hjournal (hcontinues.kept hretired) digest hdigest

theorem consistent_select {selector : Selector} {digest : Option Str} (h : Consistent host s)
    (hallowed : Allowed host s (.select selector digest)) :
    Consistent host (s.change (.select selector digest)) := by
  obtain ⟨⟨t, hjournal, hswitches⟩, hstored⟩ := hallowed
  have hselectors := h.selectors t hjournal
  have hselected : ∀ {current previous}, t.SelectorsAt current previous →
      ∀ u, s.journal = some u → u.SelectorsAt current previous := by
    intro current previous hat u hu
    obtain rfl := Option.some.inj (Eq.trans hjournal.symm hu)
    exact hat
  cases hswitches with
  | forwardCurrent hphase =>
      refine { h with selectors := hselected ?_, currentStored := hstored }
      rw [Transaction.SelectorsAt, hphase] at hselectors ⊢
      exact ⟨Or.inr rfl, hselectors.2⟩
  | forwardPrevious hphase =>
      refine { h with selectors := hselected ?_, previousStored := hstored }
      rw [Transaction.SelectorsAt, hphase] at hselectors ⊢
      exact ⟨hselectors.1, Or.inr rfl⟩
  | backCurrent hphase =>
      refine { h with selectors := hselected ?_, currentStored := hstored }
      rw [Transaction.SelectorsAt, hphase] at hselectors ⊢
      exact ⟨Or.inl rfl, hselectors.2⟩
  | backPrevious hphase =>
      refine { h with selectors := hselected ?_, previousStored := hstored }
      rw [Transaction.SelectorsAt, hphase] at hselectors ⊢
      exact ⟨hselectors.1, Or.inl rfl⟩

theorem consistent_removeRelease {digest : Str} (h : Consistent host s)
    (hallowed : Allowed host s (.removeRelease digest)) :
    Consistent host (s.change (.removeRelease digest)) := by
  obtain ⟨hsettled, hcurrent, hprevious⟩ := hallowed
  have hkept : ∀ d, d ≠ digest → d ∈ s.releases → d ∈ s.releases.filter (· ≠ digest) :=
    fun d hne hmem => List.mem_filter.mpr ⟨hmem, decide_eq_true hne⟩
  refine { h with
    currentStored := ?_
    previousStored := ?_
    baselineStored := ?_
    candidateStored := ?_ }
  · rintro d (hd : s.current = some d)
    exact hkept d (fun heq => hcurrent (heq ▸ hd)) (h.currentStored d hd)
  · rintro d (hd : s.previous = some d)
    exact hkept d (fun heq => hprevious (heq ▸ hd)) (h.previousStored d hd)
  · intro t hjournal hretired
    exact absurd (hsettled t hjournal) (by rw [hretired]; decide)
  · intro t hjournal hphase
    have hterminal := (h.rules t hjournal).retired (hsettled t hjournal)
    have hclosed : t.phase ∉ Phase.activating := by
      revert hterminal
      cases t.phase <;> decide
    exact absurd hphase hclosed

theorem consistent_backups {e : EngineEffect} {name : Str} (h : Consistent host s)
    (hunused : ∀ t ∈ s.journal, name ∉ t.backupNames)
    (hsame : ∃ backups, s.change e = { s with backups })
    (hfiles : ∀ other, other ≠ name → (s.change e).files host other = s.files host other) :
    Consistent host (s.change e) := by
  have hrules : ∀ t ∈ s.journal, t.Rules host ((s.change e).files host) := fun t hjournal =>
    (h.rules t hjournal).congr fun other hother =>
      hfiles other fun heq => hunused t hjournal (heq ▸ hother)
  obtain ⟨backups, hchange⟩ := hsame
  rw [hchange] at hrules ⊢
  exact { h with rules := hrules }

/-- Every effect that the protocol allows keeps the state consistent. -/
theorem consistent_change {e : EngineEffect} (h : Consistent host s) (hallowed : Allowed host s e) :
    Consistent host (s.change e) := by
  cases e with
  | writeJournal t => exact consistent_writeJournal h hallowed
  | select selector digest => exact consistent_select h hallowed
  | publish digest =>
      exact { h with
        currentStored := fun d hd => List.mem_cons_of_mem _ (h.currentStored d hd)
        previousStored := fun d hd => List.mem_cons_of_mem _ (h.previousStored d hd)
        baselineStored := fun t hjournal hretired d hd =>
          List.mem_cons_of_mem _ (h.baselineStored t hjournal hretired d hd)
        candidateStored := fun t hjournal hphase =>
          List.mem_cons_of_mem _ (h.candidateStored t hjournal hphase) }
  | removeRelease digest => exact consistent_removeRelease h hallowed
  | writeBackup name content =>
      exact consistent_backups h hallowed ⟨_, rfl⟩ fun _ hne => files_writeBackup hne
  | removeBackup name =>
      exact consistent_backups h hallowed ⟨_, rfl⟩ fun _ hne => files_removeBackup hne
  | replaceArtifact path node => exact { h with }
  | restoreBoundary record => exact h
  | stop force units => exact h
  | start unit => exact h
  | enable unit => exact h
  | daemonReload => exact h

/-- Every state of a run from a consistent state is consistent. -/
theorem invariant_consistent (host : EngineHost) :
    Invariant (releaseProtocol host) (Consistent host) where
  effect := consistent_change
  interference := by
    rintro s _ h ⟨artifacts, rfl⟩
    exact { h with }

end TrexWebui.ReleaseEngine
