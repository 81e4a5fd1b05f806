import TrexWebui.GuardedRuns
import TrexWebui.ReleaseJournalRules
import TrexWebui.ReleaseOperations

/-!
# The protocol of a release transaction

What the engine may do in a state, said without its program. The journal is
the authority: a journal is replaced only by one that follows it
(`Replaces`), and every other effect is allowed only under a journal that
announces it (`Allowed`). In a consistent state the journal obeys its rules,
its backups and releases are there, and the selectors stand where its phase
says (`SelectorsAt`). Every allowed effect keeps that (`consistent_change`).
-/

namespace TrexWebui.ReleaseEngine

open PyStr PyJson PosixPath Sha2 Checks GuardedRuns

/-! ## Journals that follow a journal -/

/-- `_set_phase` on the transaction. -/
def Transaction.moved (t : Transaction) (phase : Phase) (now : Str) : Transaction :=
  { t with phase, updatedAt := now }

def Settled (journal : Option Transaction) : Prop :=
  ∀ t ∈ journal, t.rollbackAuthorityRetired = true

namespace Phase

/-- The phases of a prepared transaction on its way to the commit. -/
def activating : List Phase :=
  [prepared, switchingCurrent, currentSwitched, switchingPrevious, activated,
    finalizingConsumerEnable]

/-- The phases of a transaction that `_rollback_locked` does not take back step by step. -/
def decided : List Phase :=
  [finalizingConsumerEnable, committed, startingBaselineConsumers, rolledBack]

end Phase

/-- Every host artifact of a transaction stands as it was recorded. -/
def Transaction.ArtifactsMet (t : Transaction) (s : EngineState) : Prop :=
  ∀ artifact ∈ t.hostArtifacts, artifact.isMet (s.artifacts artifact.path) = true

/-- The selectors are back, and what follows them in a rollback may begin. -/
def Transaction.SelectorsBack (t : Transaction) (s : EngineState) : Prop :=
  t.phase = .rollingBackPrevious ∧ s.previous = t.previousBefore

def Transaction.Restored (t : Transaction) (s : EngineState) : Prop :=
  t.phase = .hostArtifactsRestored ∨ (t.hostRestorePlanned = false ∧ t.SelectorsBack s)

/-- The phases that a transaction may move to with nothing else changed. -/
inductive Advances (s : EngineState) (t : Transaction) : Phase → Prop where
  | prepared (hphase : t.phase = .staging) (hstored : t.candidate ∈ s.releases) :
      Advances s t .prepared
  | switchingCurrent (hphase : t.phase = .prepared) (harmed : t.consumerMutationArmed = true)
      (hmutation : t.managedDaemonPlan = true → t.daemonMutationStarted = true) :
      Advances s t .switchingCurrent
  | currentSwitched (hphase : t.phase = .switchingCurrent)
      (hcurrent : s.current = some t.candidate) : Advances s t .currentSwitched
  | switchingPrevious (hphase : t.phase = .currentSwitched) : Advances s t .switchingPrevious
  | activated (hphase : t.phase = .switchingPrevious) (hprevious : s.previous = t.currentBefore) :
      Advances s t .activated
  | stoppingConsumers (hphase : t.phase ∉ Phase.decided) (harmed : t.consumerMutationArmed = true) :
      Advances s t .stoppingConsumers
  | consumersStopped (hphase : t.phase = .stoppingConsumers) : Advances s t .consumersStopped
  | rollingBackCurrent (hphase : t.phase ∉ Phase.decided) (harmed : t.consumerMutationArmed = true)
      (hstopped : t.effectivePlan = [] ∨ t.phase = .consumersStopped) :
      Advances s t .rollingBackCurrent
  | rollingBackPrevious (hphase : t.phase = .rollingBackCurrent)
      (hcurrent : s.current = t.currentBefore) : Advances s t .rollingBackPrevious
  | restoringNativeBoundary (hback : t.SelectorsBack s) (hplanned : t.nativeRestorePlanned = true) :
      Advances s t .restoringNativeBoundary
  | nativeBoundaryRestored (hphase : t.phase = .restoringNativeBoundary) :
      Advances s t .nativeBoundaryRestored
  | restoringHostArtifacts (hplanned : t.hostRestorePlanned = true)
      (hboundary : t.phase = .nativeBoundaryRestored
        ∨ (t.nativeRestorePlanned = false ∧ t.SelectorsBack s)) :
      Advances s t .restoringHostArtifacts
  | hostArtifactsRestored (hphase : t.phase = .restoringHostArtifacts) (hmet : t.ArtifactsMet s) :
      Advances s t .hostArtifactsRestored

/-- The journals that may replace the journal of a state. -/
inductive Replaces (s : EngineState) : Transaction → Prop where
  | opened {t : Transaction} (hsettled : Settled s.journal) (hphase : t.phase = .staging)
      (hcurrent : t.currentBefore = s.current) (hprevious : t.previousBefore = s.previous)
      (harmed : t.consumerMutationArmed = false) (hmutation : t.daemonMutationStarted = false)
      (hretired : t.rollbackAuthorityRetired = false) : Replaces s t
  | advanced {t : Transaction} {phase : Phase} {now : Str} (hjournal : s.journal = some t)
      (hadvances : Advances s t phase) : Replaces s (t.moved phase now)
  | armed {t : Transaction} {active : List Str} {baseline : List ConsumerBaseline} {now : Str}
      (hjournal : s.journal = some t) (hphase : t.phase = .prepared)
      (hunarmed : t.consumerMutationArmed = false) : Replaces s (t.armed active baseline now)
  | mutating {t : Transaction} {now : Str} (hjournal : s.journal = some t)
      (hphase : t.phase = .prepared) (harmed : t.consumerMutationArmed = true)
      (hmanaged : t.managedDaemonPlan = true) : Replaces s (t.mutating now)
  | finalizing {t : Transaction} {now : Str} (hjournal : s.journal = some t)
      (hphase : t.phase = .activated) :
      Replaces s ({ t with daemonMutationStarted := false }.moved .finalizingConsumerEnable now)
  | committed {t : Transaction} {now : Str} (hjournal : s.journal = some t)
      (hphase : t.phase = .finalizingConsumerEnable) :
      Replaces s (t.finalized.moved .committed now)
  | starting {t : Transaction} {now : Str} (hjournal : s.journal = some t) (hrestored : t.Restored s)
      (hactive : t.consumerActiveBefore ≠ []) :
      Replaces s ({ t with rollbackRestored := t.hostRestorePlanned }.moved
        .startingBaselineConsumers now)
  | rolledBack {t : Transaction} {now : Str} (hjournal : s.journal = some t)
      (hrestored : t.Restored s) (hactive : t.consumerActiveBefore = []) :
      Replaces s ({ t with
        rollbackRestored := t.hostRestorePlanned
        consumerMutationArmed := false }.moved .rolledBack now)
  | unarmed {t : Transaction} {now : Str} (hjournal : s.journal = some t)
      (hphase : t.phase ∉ Phase.decided) (hunarmed : t.consumerMutationArmed = false)
      (hcurrent : s.current = t.currentBefore) (hprevious : s.previous = t.previousBefore) :
      Replaces s ({ t.disarmed with rollbackRestored := false }.moved .rolledBack now)
  | acknowledged {t : Transaction} {now : Str} (hjournal : s.journal = some t)
      (hphase : t.phase = .startingBaselineConsumers) :
      Replaces s (t.disarmed.moved .rolledBack now)
  | retired {t : Transaction} {now : Str} (hjournal : s.journal = some t)
      (hphase : t.phase ∈ Phase.terminal)
      (hmet : t.rollbackRestored = true → t.ArtifactsMet s) : Replaces s (t.compacted now)

/-! ## Effects -/

/-- What a selector may be set to. -/
inductive Switches (t : Transaction) : Selector → Option Str → Prop where
  | forwardCurrent (hphase : t.phase = .switchingCurrent) : Switches t .current (some t.candidate)
  | forwardPrevious (hphase : t.phase = .switchingPrevious) : Switches t .previous t.currentBefore
  | backCurrent (hphase : t.phase = .rollingBackCurrent) : Switches t .current t.currentBefore
  | backPrevious (hphase : t.phase = .rollingBackPrevious) : Switches t .previous t.previousBefore

def HostArtifact.backups : HostArtifact → List Str
  | .file _ backup _ _ _ _ _ => [backup]
  | _ => []

def NativeBoundary.backups (record : NativeBoundary) : List Str := [record.backup, record.helperBackup]

def ConsumerBaseline.backups : ConsumerBaseline → List Str
  | .nginx responseBackup _ _ => [responseBackup]
  | _ => []

def Transaction.backupNames (t : Transaction) : List Str :=
  t.hostArtifacts.flatMap HostArtifact.backups
    ++ (t.nativeBoundary.toList.flatMap NativeBoundary.backups
      ++ t.consumerBaseline.flatMap ConsumerBaseline.backups)

/-- What stands at a path is what the record and its backup make of it. -/
def HostArtifact.Restores (host : EngineHost) (files : BackupFiles) (node : Option HostNode) :
    HostArtifact → Prop
  | .absent _ => node = none
  | .file _ backup uid gid mode size sha256 =>
    ∃ content, loadHostBackup host files backup size sha256 = .ok content
      ∧ node = some (.file uid gid mode 1 content)
  | .symlink _ uid gid _ _ _ target => node = some (.symlink uid gid 0o777 1 target)

def Transaction.Starts (t : Transaction) (unit : Str) : Prop :=
  (t.phase = .finalizingConsumerEnable ∧ unit ∈ t.consumerStart)
    ∨ (t.phase = .startingBaselineConsumers ∧ unit ∈ t.consumerActiveBefore
      ∧ t.leavesAlone unit = false)

def Allowed (host : EngineHost) (s : EngineState) : EngineEffect → Prop
  | .writeJournal t => Replaces s t ∧ t.Rules host (s.files host)
  | .select selector digest =>
    (∃ t ∈ s.journal, Switches t selector digest) ∧ ∀ d ∈ digest, d ∈ s.releases
  | .publish digest => ∃ t ∈ s.journal, t.phase = .staging ∧ digest = t.candidate
  | .removeRelease digest =>
    Settled s.journal ∧ s.current ≠ some digest ∧ s.previous ≠ some digest
  | .writeBackup name _ => ∀ t ∈ s.journal, name ∉ t.backupNames
  | .removeBackup name => ∀ t ∈ s.journal, name ∉ t.backupNames
  | .replaceArtifact path node => ∃ t ∈ s.journal, t.phase = .restoringHostArtifacts
      ∧ ∃ artifact ∈ t.hostArtifacts, artifact.path = path
        ∧ artifact.Restores host (s.files host) node
  | .restoreBoundary record => ∃ t ∈ s.journal, t.phase = .restoringNativeBoundary
      ∧ t.nativeBoundary = some record
  | .stop force units => ∃ t ∈ s.journal, t.phase = .stoppingConsumers ∧ units = t.effectivePlan
      ∧ force = (t.managedDaemonPlan && t.daemonMutationStarted)
  | .start unit => ∃ t ∈ s.journal, t.Starts unit
  | .enable unit => ∃ t ∈ s.journal, t.phase = .finalizingConsumerEnable ∧ unit ∈ t.consumerEnable
  | .daemonReload => ∃ t ∈ s.journal, t.phase ∈ [.finalizingConsumerEnable, .restoringHostArtifacts,
      .startingBaselineConsumers, .rolledBack]

def Interferes (s s' : EngineState) : Prop := ∃ artifacts, s' = { s with artifacts }

def releaseProtocol (host : EngineHost) : System EngineState EngineEffect where
  change := EngineState.change
  Allowed := Allowed host
  Interferes := Interferes

/-! ## Consistent states -/

def Transaction.SelectorsAt (t : Transaction) (current previous : Option Str) : Prop :=
  match t.phase with
  | .staging | .prepared => current = t.currentBefore ∧ previous = t.previousBefore
  | .switchingCurrent =>
    (current = t.currentBefore ∨ current = some t.candidate) ∧ previous = t.previousBefore
  | .currentSwitched => current = some t.candidate ∧ previous = t.previousBefore
  | .switchingPrevious =>
    current = some t.candidate ∧ (previous = t.previousBefore ∨ previous = t.currentBefore)
  | .activated | .finalizingConsumerEnable | .committed =>
    current = some t.candidate ∧ previous = t.currentBefore
  | .stoppingConsumers | .consumersStopped | .rollingBackCurrent =>
    (current = t.currentBefore ∨ current = some t.candidate)
      ∧ (previous = t.previousBefore ∨ previous = t.currentBefore)
  | .rollingBackPrevious =>
    current = t.currentBefore ∧ (previous = t.previousBefore ∨ previous = t.currentBefore)
  | .restoringNativeBoundary | .nativeBoundaryRestored | .restoringHostArtifacts
  | .hostArtifactsRestored | .startingBaselineConsumers | .rolledBack =>
    current = t.currentBefore ∧ previous = t.previousBefore

/-- Nothing but the opening of a transaction comes before its consumers are armed. -/
def Transaction.ArmedInTime (t : Transaction) : Prop :=
  t.consumerMutationArmed = false → t.phase ∈ [.staging, .prepared] ∨ t.phase ∈ Phase.decided

structure Consistent (host : EngineHost) (s : EngineState) : Prop where
  /-- The journal and all that it refers to are valid. -/
  rules : ∀ t ∈ s.journal, t.Rules host (s.files host)
  selectors : ∀ t ∈ s.journal, t.SelectorsAt s.current s.previous
  armed : ∀ t ∈ s.journal, t.ArmedInTime
  /-- The selected releases are in the store. -/
  currentStored : ∀ digest ∈ s.current, digest ∈ s.releases
  previousStored : ∀ digest ∈ s.previous, digest ∈ s.releases
  /-- The releases that a rollback selects are in the store. -/
  baselineStored : ∀ t ∈ s.journal, t.rollbackAuthorityRetired = false →
    ∀ digest ∈ t.baselineDigests, digest ∈ s.releases
  /-- The release that a commit selects is in the store. -/
  candidateStored : ∀ t ∈ s.journal, t.phase ∈ Phase.activating → t.candidate ∈ s.releases

end TrexWebui.ReleaseEngine
