import TrexWebui.QuickValidationCleanup

/-!
# Polling again

A poll that finds the cleanup of a run blocked records the blocker, unless the
run is already to end as failed for another reason: that failure is kept. The
next poll with the same answers is then blocked by the same blocker, and finds
on record a failure that is not it, so it writes the document once more
(`repeated_poll_iff`).
-/

namespace TrexWebui

open PyText

namespace QuickValidationStateDocument

def restamped (document : QuickValidationStateDocument) (now : Time) :
    QuickValidationStateDocument :=
  { revision := document.revision + 1, updatedAt := now,
    run := document.run.map fun run => { run with revision := run.revision + 1 } }

variable {document written : QuickValidationStateDocument} {now : Time}
  {change : QuickValidationRunState → QuickValidationRunState}

theorem update_eq_ok (h : document.update now change = .ok written) :
    written = { revision := document.revision + 1, updatedAt := now,
                run := document.run.map change } ∧ written.Valid ∧ written.Fits := by
  unfold update at h
  dsimp only at h
  split at h
  · cases h
    exact ⟨rfl, by assumption⟩
  · cases h

theorem update_of_valid {candidate : QuickValidationStateDocument}
    (h : candidate = ⟨document.revision + 1, now, document.run.map change⟩)
    (hvalid : candidate.Valid) (hfits : candidate.Fits) :
    document.update now change = .ok candidate := by
  subst h
  exact if_pos ⟨hvalid, hfits⟩

theorem run_of_update {run : QuickValidationRunState}
    (h : document.update now change = .ok written) (hrun : document.run = some run) :
    written.run = some (change run) := by
  rw [(update_eq_ok h).1, hrun]
  rfl

end QuickValidationStateDocument

theorem Poll.after_eq_ok {document first : QuickValidationStateDocument}
    {edited : Except String QuickValidationStateDocument}
    {next : QuickValidationStateDocument → Poll} {note : String}
    (h : Poll.after document edited next = ⟨first, .ok note⟩) :
    ∃ written, edited = .ok written ∧ next written = ⟨first, .ok note⟩ := by
  cases edited with
  | ok written => exact ⟨written, rfl, h⟩
  | error message => cases h

namespace QuickValidationRunState

/-! ## What an edit leaves alone -/

variable {run : QuickValidationRunState}

def FailureKept (run : QuickValidationRunState) : Prop :=
  run.pendingTerminal = some .fail ∧ run.failureCode ≠ none

instance : DecidablePred FailureKept := fun _ => inferInstanceAs (Decidable (_ ∧ _))

def Records (run : QuickValidationRunState) (blocker : Blocker) : Prop :=
  run.failureCode = some blocker.code ∧ run.failureDetail = some blocker.detail

instance (blocker : Blocker) : Decidable (run.Records blocker) :=
  inferInstanceAs (Decidable (_ ∧ _))

/-- A failure on record that is kept although it is not this one. -/
def KeepsOther (run : QuickValidationRunState) (blocker : Blocker) : Prop :=
  run.FailureKept ∧ ¬run.Records blocker

theorem retained_kept (h : run.FailureKept) (code detail : String) :
    run.retained code detail
      = { run with recoveryRequired := true, revision := run.revision + 1 } := by
  have hkept : run.pendingTerminal = some .fail ∧ run.failureCode ≠ none := h
  simp [retained, hkept]

theorem retained_records (h : ¬run.FailureKept) (blocker : Blocker) :
    (run.retained blocker.code blocker.detail).Records blocker := by
  have hkept : ¬(run.pendingTerminal = some .fail ∧ run.failureCode ≠ none) := h
  constructor <;> simp only [retained, if_neg hkept]

theorem Valid.nextRevision (h : run.Valid) : Valid { run with revision := run.revision + 1 } :=
  { h with revision_positive := Nat.succ_pos _ }

end QuickValidationRunState

theorem QuickValidationStateDocument.Valid.restamped {document : QuickValidationStateDocument}
    (h : document.Valid) (now : Time) : (document.restamped now).Valid := by
  intro run hrun
  cases hdocument : document.run with
  | none => simp [QuickValidationStateDocument.restamped, hdocument] at hrun
  | some before =>
      simp only [QuickValidationStateDocument.restamped, hdocument, Option.map_some,
        Option.some.injEq] at hrun
      rw [← hrun]
      exact (h before hdocument).nextRevision

/-! ## The blocker -/

def blocker? (answers : CleanupAnswers) (run : QuickValidationRunState) : Option Blocker :=
  let verified (runtime : SnapshotPayload) (run : QuickValidationRunState) : Option Blocker :=
    match verifyCleanup answers runtime run with
    | .ok _ => none
    | .error blocker => some blocker
  match answers.snapshot with
  | .failed blocker error => some (runtimeUnavailable blocker error)
  | .ok runtime =>
      if runtime.mutationIntent ≠ none then some trafficRecoveryPending
      else if run.trafficSessionId = none then
        match recoveredSession? runtime run with
        | some evidence => verified runtime (run.bound evidence)
        | none =>
            if portsAreIdle runtime run.group.ports then none else some startRecoveryRequired
      else verified runtime run

section
variable {answers : CleanupAnswers} {run : QuickValidationRunState}

def Settled (answers : CleanupAnswers) (run : QuickValidationRunState) : Prop :=
  ∀ runtime, answers.snapshot = .ok runtime → runtime.mutationIntent = none →
    run.trafficSessionId = none → recoveredSession? runtime run = none

theorem verifyCleanup_retained (runtime : SnapshotPayload) (code detail : String) :
    verifyCleanup answers runtime (run.retained code detail)
      = verifyCleanup answers runtime run := rfl

theorem recoveredSession?_retained (runtime : SnapshotPayload) (code detail : String) :
    recoveredSession? runtime (run.retained code detail) = recoveredSession? runtime run := rfl

/-- Where there is no session to bind to, the blocker is the same for a retained run. -/
theorem blocker?_retained (hsettled : Settled answers run) (code detail : String) :
    blocker? answers (run.retained code detail) = blocker? answers run := by
  unfold blocker?
  cases hsnapshot : answers.snapshot with
  | failed text error => rfl
  | ok runtime =>
      dsimp only
      by_cases hintent : runtime.mutationIntent = none
      · rw [if_neg (not_not.mpr hintent), if_neg (not_not.mpr hintent),
          recoveredSession?_retained, verifyCleanup_retained]
        by_cases hid : run.trafficSessionId = none
        · rw [hsettled runtime hsnapshot hintent hid]
          rfl
        · have hid' : (run.retained code detail).trafficSessionId ≠ none := hid
          rw [if_neg hid, if_neg hid']
      · rw [if_pos hintent, if_pos hintent]

theorem blocker?_recovered : blocker? answers run.recovered = blocker? answers run := by
  unfold blocker?
  rfl

/-! ## Ends -/

variable {now : Time} {document first : QuickValidationStateDocument}
  {last : QuickValidationRunState} {note : String}

theorem finishRun_ends {cleanup : QuickValidationCleanupEvidence}
    {terminal : QuickValidationTerminal} {notes : QuickValidationTerminal → String}
    (hrun : document.run = some run)
    (h : finishRun answers now document run cleanup terminal notes = ⟨first, .ok note⟩)
    (hlast : first.run = some last) : last.phase ≠ .stopping := by
  obtain ⟨written, hwritten, hnext⟩ := Poll.after_eq_ok h
  cases hnext
  have hended := QuickValidationStateDocument.run_of_update hwritten hrun
  rw [hlast, Option.some.injEq] at hended
  rw [hended]
  intro hphase
  cases hphase

theorem finishCertified_ends {cleanup : QuickValidationCleanupEvidence}
    (hrun : document.run = some run)
    (h : finishCertified answers now document run cleanup = ⟨first, .ok note⟩)
    (hlast : first.run = some last) : last.phase ≠ .stopping := by
  unfold finishCertified at h
  dsimp only at h
  split at h
  · -- the final sample, or the failure that stands for it, is written first
    obtain ⟨written, hwritten, hnext⟩ := Poll.after_eq_ok h
    have hwrittenRun := QuickValidationStateDocument.run_of_update hwritten hrun
    split at hnext
    · cases hnext
    · exact finishRun_ends hwrittenRun hnext hlast
  · split at h
    · cases h
    · exact finishRun_ends hrun h hlast

theorem driveVerified_blocked {runtime : SnapshotPayload} (hrun : document.run = some run)
    (h : driveVerified answers now runtime document run = ⟨first, .ok note⟩)
    (hlast : first.run = some last) (hstill : last.phase = .stopping) :
    ∃ blocker, verifyCleanup answers runtime run = .error blocker ∧
      setRecoveryDetail now document run blocker = ⟨first, .ok note⟩ := by
  unfold driveVerified at h
  cases hverify : verifyCleanup answers runtime run with
  | ok cleanup =>
      rw [hverify] at h
      exact absurd hstill (finishCertified_ends hrun h hlast)
  | error blocker =>
      rw [hverify] at h
      exact ⟨blocker, rfl, h⟩

/-! ## Blocked polls -/

theorem driveStopping_settled {blocker : Blocker} (hsettled : Settled answers run)
    (h : blocker? answers run = some blocker) :
    driveStopping answers now document run = setRecoveryDetail now document run blocker := by
  unfold blocker? at h
  unfold driveStopping
  cases hsnapshot : answers.snapshot with
  | failed text error =>
      rw [hsnapshot] at h
      cases h
      rfl
  | ok runtime =>
      rw [hsnapshot] at h
      dsimp only at h ⊢
      by_cases hintent : runtime.mutationIntent = none
      · rw [if_neg (not_not.mpr hintent)] at h ⊢
        by_cases hid : run.trafficSessionId = none
        · rw [if_pos hid, hsettled runtime hsnapshot hintent hid] at h ⊢
          dsimp only at h ⊢
          split at h
          · cases h
          · rename_i hidle
            cases h
            rw [if_neg hidle]
        · rw [if_neg hid] at h ⊢
          unfold driveVerified
          cases hverify : verifyCleanup answers runtime run with
          | ok cleanup =>
              rw [hverify] at h
              cases h
          | error found =>
              rw [hverify] at h
              cases h
              rfl
      · rw [if_pos hintent] at h ⊢
        cases h
        rfl

/-- A poll after which the run is still stopping met a blocker and recorded it, at most after it
had bound the run to its session. -/
theorem driveStopping_blocked (hrun : document.run = some run)
    (h : driveStopping answers now document run = ⟨first, .ok note⟩)
    (hlast : first.run = some last) (hstill : last.phase = .stopping) :
    ∃ blocker before beforeRun, blocker? answers run = some blocker ∧
      before.run = some beforeRun ∧ Settled answers beforeRun ∧
      blocker? answers beforeRun = some blocker ∧
      (beforeRun.KeepsOther blocker ↔ run.KeepsOther blocker) ∧
      setRecoveryDetail now before beforeRun blocker = ⟨first, .ok note⟩ := by
  unfold driveStopping at h
  cases hsnapshot : answers.snapshot with
  | failed text error =>
      rw [hsnapshot] at h
      have hblocker : blocker? answers run = some (runtimeUnavailable text error) := by
        rw [blocker?, hsnapshot]
      have hsettled : Settled answers run := by
        intro runtime hok
        rw [hsnapshot] at hok
        cases hok
      exact ⟨_, document, run, hblocker, hrun, hsettled, hblocker, Iff.rfl, h⟩
  | ok runtime =>
      rw [hsnapshot] at h
      dsimp only at h
      by_cases hintent : runtime.mutationIntent = none
      · rw [if_neg (not_not.mpr hintent)] at h
        by_cases hid : run.trafficSessionId = none
        · rw [if_pos hid] at h
          cases hrecovered : recoveredSession? runtime run with
          | some evidence =>
              -- the run is bound to the session before the cleanup is verified
              rw [hrecovered] at h
              obtain ⟨written, hwritten, hnext⟩ := Poll.after_eq_ok h
              have hbound := QuickValidationStateDocument.run_of_update hwritten hrun
              obtain ⟨blocker, hverify, hrecords⟩ :=
                driveVerified_blocked hbound hnext hlast hstill
              have hblocker : blocker? answers run = some blocker := by
                simp only [blocker?, hsnapshot, hintent, hid, hrecovered, hverify, ne_eq,
                  not_true_eq_false, if_false, if_true]
              have hboundBlocker : blocker? answers (run.bound evidence) = some blocker := by
                have hid : (run.bound evidence).trafficSessionId ≠ none := by
                  intro hnone
                  cases hnone
                simp only [blocker?, hsnapshot, hintent, hid, hverify, ne_eq, not_true_eq_false,
                  if_false]
              have hsettled : Settled answers (run.bound evidence) := by
                intro _ _ _ hnone
                cases hnone
              exact ⟨blocker, written, _, hblocker, hbound, hsettled, hboundBlocker, Iff.rfl,
                hrecords⟩
          | none =>
              rw [hrecovered] at h
              dsimp only at h
              split at h
              · exact absurd hstill (finishRun_ends hrun h hlast)
              · rename_i hidle
                have hblocker : blocker? answers run = some startRecoveryRequired := by
                  simp only [blocker?, hsnapshot, hintent, hid, hrecovered, hidle, ne_eq,
                    not_true_eq_false, Bool.false_eq_true, if_false, if_true]
                have hsettled : Settled answers run := by
                  intro other hok _ _
                  rw [hsnapshot] at hok
                  cases hok
                  exact hrecovered
                exact ⟨_, document, run, hblocker, hrun, hsettled, hblocker, Iff.rfl, h⟩
        · rw [if_neg hid] at h
          obtain ⟨blocker, hverify, hrecords⟩ := driveVerified_blocked hrun h hlast hstill
          have hblocker : blocker? answers run = some blocker := by
            simp only [blocker?, hsnapshot, hintent, hid, hverify, ne_eq, not_true_eq_false,
              if_false]
          have hsettled : Settled answers run := fun _ _ _ hnone => absurd hnone hid
          exact ⟨blocker, document, run, hblocker, hrun, hsettled, hblocker, Iff.rfl, hrecords⟩
      · rw [if_pos hintent] at h
        have hblocker : blocker? answers run = some trafficRecoveryPending := by
          simp only [blocker?, hsnapshot, ne_eq, hintent, not_false_eq_true, if_true]
        have hsettled : Settled answers run := by
          intro other hok hnone
          rw [hsnapshot] at hok
          cases hok
          exact absurd hnone hintent
        exact ⟨_, document, run, hblocker, hrun, hsettled, hblocker, Iff.rfl, h⟩

/-! ## The record -/

def OnRecord (run : QuickValidationRunState) (blocker : Blocker) : Prop :=
  run.recoveryRequired = true ∧ run.Records blocker

theorem setRecoveryDetail_ok {blocker : Blocker} (hrun : document.run = some run)
    (h : setRecoveryDetail now document run blocker = ⟨first, .ok note⟩) :
    first = document ∧ OnRecord run blocker ∨
      first.run = some (run.retained blocker.code blocker.detail) ∧ first.Valid := by
  unfold setRecoveryDetail at h
  split at h
  · rename_i hrecorded
    cases h
    exact Or.inl ⟨rfl, hrecorded⟩
  · obtain ⟨written, hwritten, hnext⟩ := Poll.after_eq_ok h
    cases hnext
    exact Or.inr ⟨QuickValidationStateDocument.run_of_update hwritten hrun,
      (QuickValidationStateDocument.update_eq_ok hwritten).2.1⟩

theorem setRecoveryDetail_onRecord {blocker : Blocker} (h : OnRecord run blocker) :
    setRecoveryDetail now document run blocker = ⟨document, .ok blocker.note⟩ := by
  have hrecorded : run.recoveryRequired = true ∧ run.failureCode = some blocker.code
      ∧ run.failureDetail = some blocker.detail := h
  rw [setRecoveryDetail, if_pos hrecorded]

/-- A kept failure that is not the blocker is written again, where the document still fits. -/
theorem setRecoveryDetail_keepsOther {blocker : Blocker} (hrun : document.run = some run)
    (hvalid : document.Valid) (hrecovery : run.recoveryRequired = true)
    (hkeeps : run.KeepsOther blocker) :
    (setRecoveryDetail now document run blocker).document
      = if (document.restamped now).Fits then document.restamped now else document := by
  have hnot : ¬(run.recoveryRequired = true ∧ run.failureCode = some blocker.code
      ∧ run.failureDetail = some blocker.detail) := fun h => hkeeps.2 h.2
  have hretained : run.retained blocker.code blocker.detail
      = { run with revision := run.revision + 1 } := by
    rw [QuickValidationRunState.retained_kept hkeeps.1, ← hrecovery]
  have hcandidate : (⟨document.revision + 1, now,
      document.run.map (·.retained blocker.code blocker.detail)⟩ : QuickValidationStateDocument)
        = document.restamped now := by
    rw [QuickValidationStateDocument.restamped, hrun, Option.map_some, Option.map_some, hretained]
  rw [setRecoveryDetail, if_neg hnot, QuickValidationStateDocument.update, hcandidate]
  by_cases hfits : (document.restamped now).Fits
  · rw [if_pos ⟨hvalid.restamped now, hfits⟩, if_pos hfits]
    rfl
  · rw [if_neg fun h => hfits h.2, if_neg hfits]
    rfl

end

/-! ## The theorem -/

/-- The failure that a run has on record when `status` gets to the cleanup. -/
def QuickValidationRunState.polled (run : QuickValidationRunState) (process : Uuid) :
    QuickValidationRunState :=
  if run.restarted process then run.recovered else run

theorem driveStopping_of_poll {process : Uuid} {answers : CleanupAnswers} {now : Time}
    {polled : StoppingDocument} {first : QuickValidationStateDocument} {note : String}
    (hpoll : pollStatus process answers now polled = ⟨first, .ok note⟩) :
    ∃ entered, entered.run = some (polled.run.polled process) ∧
      driveStopping answers now entered (polled.run.polled process) = ⟨first, .ok note⟩ := by
  unfold pollStatus at hpoll
  unfold QuickValidationRunState.polled
  split at hpoll
  · rename_i hrestarted
    obtain ⟨written, hwritten, hnext⟩ := Poll.after_eq_ok hpoll
    rw [if_pos hrestarted]
    exact ⟨written, QuickValidationStateDocument.run_of_update hwritten polled.holds, hnext⟩
  · rename_i hsame
    rw [if_neg hsame]
    exact ⟨polled.document, polled.holds, hpoll⟩

theorem blocker?_polled {answers : CleanupAnswers} {run : QuickValidationRunState}
    (process : Uuid) : blocker? answers (run.polled process) = blocker? answers run := by
  unfold QuickValidationRunState.polled
  split
  · exact blocker?_recovered
  · rfl

theorem pollStatus_again {process : Uuid} {answers : CleanupAnswers} {later : Time}
    {again : StoppingDocument} {blocker : Blocker} (hrecovery : again.run.recoveryRequired = true)
    (hsettled : Settled answers again.run) (hblocker : blocker? answers again.run = some blocker) :
    pollStatus process answers later again
      = setRecoveryDetail later again.document again.run blocker := by
  have hrestarted : again.run.restarted process = false := by
    simp [QuickValidationRunState.restarted, hrecovery]
  rw [pollStatus, hrestarted]
  exact driveStopping_settled hsettled hblocker

/-- Where a poll leaves the run stopping, another poll with the same answers leaves the document as
it is, unless a failure is kept that is not what blocks the cleanup; then it writes the document
again, as long as it fits the file. -/
theorem repeated_poll_iff (process : Uuid) (answers : CleanupAnswers) (now later : Time)
    (polled again : StoppingDocument) (note : String)
    (hpoll : pollStatus process answers now polled = ⟨again.document, .ok note⟩) :
    (pollStatus process answers later again).document = again.document ↔
      (∀ blocker, blocker? answers polled.run = some blocker →
        ¬(polled.run.polled process).KeepsOther blocker) ∨ ¬(again.document.restamped later).Fits := by
  obtain ⟨entered, hentered, hdrive⟩ := driveStopping_of_poll hpoll
  obtain ⟨blocker, before, beforeRun, hblocker, hbefore, hsettled, hagain, hkeeps, hrecords⟩ :=
    driveStopping_blocked hentered hdrive again.holds again.stopping
  rw [blocker?_polled] at hblocker
  have hcondition : (∀ found, blocker? answers polled.run = some found →
      ¬(polled.run.polled process).KeepsOther found) ↔ ¬beforeRun.KeepsOther blocker := by
    rw [hkeeps, hblocker]
    constructor
    · intro h
      exact h blocker rfl
    · intro h found hfound
      cases hfound
      exact h
  rw [hcondition]
  rcases setRecoveryDetail_ok hbefore hrecords with ⟨hsame, honRecord⟩ | ⟨hretained, hvalid⟩
  · -- nothing was written the first time
    have hrun : again.run = beforeRun := by
      have hholds := again.holds
      rw [hsame, hbefore, Option.some.injEq] at hholds
      exact hholds.symm
    rw [← hrun] at honRecord hsettled hagain ⊢
    rw [pollStatus_again honRecord.1 hsettled hagain, setRecoveryDetail_onRecord honRecord]
    exact iff_of_true rfl (Or.inl fun hkeepsOther => hkeepsOther.2 honRecord.2)
  · have hrun : again.run = beforeRun.retained blocker.code blocker.detail := by
      have hholds := again.holds
      rw [hretained, Option.some.injEq] at hholds
      exact hholds.symm
    have hrecovery : again.run.recoveryRequired = true := by
      rw [hrun]
      rfl
    have hsettled' : Settled answers again.run := by
      rw [hrun]
      exact hsettled
    have hagain' : blocker? answers again.run = some blocker := by
      rw [hrun, blocker?_retained hsettled]
      exact hagain
    rw [pollStatus_again hrecovery hsettled' hagain']
    by_cases hkept : beforeRun.FailureKept
    · rw [QuickValidationRunState.retained_kept hkept] at hrun
      have hkeepsAgain : again.run.KeepsOther blocker ↔ beforeRun.KeepsOther blocker := by
        rw [hrun]
        rfl
      by_cases hother : beforeRun.KeepsOther blocker
      · rw [setRecoveryDetail_keepsOther again.holds hvalid hrecovery (hkeepsAgain.mpr hother)]
        constructor
        · intro hunchanged
          refine Or.inr fun hfits => ?_
          rw [if_pos hfits] at hunchanged
          have hrevision : again.document.revision + 1 = again.document.revision :=
            congrArg QuickValidationStateDocument.revision hunchanged
          omega
        · rintro (hnot | hfits)
          · exact absurd hother hnot
          · rw [if_neg hfits]
      · have hrecordsOld : beforeRun.Records blocker := by
          by_contra hnot
          exact hother ⟨hkept, hnot⟩
        have honRecord : OnRecord again.run blocker := by
          rw [hrun]
          exact ⟨rfl, hrecordsOld⟩
        rw [setRecoveryDetail_onRecord honRecord]
        exact iff_of_true rfl (Or.inl hother)
    · have honRecord : OnRecord again.run blocker := by
        rw [hrun]
        exact ⟨rfl, QuickValidationRunState.retained_records hkept blocker⟩
      rw [setRecoveryDetail_onRecord honRecord]
      exact iff_of_true rfl (Or.inl fun hkeepsOther => hkept hkeepsOther.1)

/-! ## A run that stays -/

def interruptedRun : QuickValidationRunState where
  id := ⟨1⟩
  revision := 3
  processInstanceId := ⟨2⟩
  phase := .stopping
  group :=
    { groupId := "pair-0", planRevision := 1, name := "P0", ports := [0],
      profilePath := "stl/bench.py", multiplier := "1", planDuration := -1.0, force := false,
      total := false, synchronized := false, clearExisting := true, tunables := ∅ }
  config := { path := "/etc/trex_cfg.yaml", portLimit := 1, interfaces := ["0"] }
  durationSeconds := 10
  createdAt := 0
  deadlineAt := seconds 10
  watchdogAt := seconds 20
  preflight :=
    { observedAt := 0, runtimeReconciliation := "ok", linkStates := {0}, portStatuses := {0},
      initialPortStates := {0}, initialPortOwnership := {0},
      baselineCounters := Dict.ofKeys [0] fun _ => ⟨0.0, 0.0⟩ }
  pendingTerminal := some .fail
  recoveryRequired := true
  failureCode := some "quick_validation_preflight_interrupted"
  failureDetail := some "durable preflight exists without canonical start promotion"

def interrupted (revision : Nat) : StoppingDocument :=
  { document := { revision := revision + 3, updatedAt := 0,
                  run := some { interruptedRun with revision := revision + 3 } }
    run := { interruptedRun with revision := revision + 3 }
    holds := rfl
    stopping := rfl }

def unanswered : CleanupAnswers :=
  { snapshot := .failed none none, stop := .failed none none,
    snapshotAfterStop := .failed none none, counters := .error "", formatLoss := fun _ => "" }

theorem interruptedRun_keeps (revision : Nat) :
    (interrupted revision).run.KeepsOther (runtimeUnavailable none none) := by
  constructor
  · exact ⟨rfl, by intro h; cases h⟩
  · intro h
    have hcode : interruptedRun.failureCode ≠ some (runtimeUnavailable none none).code := by decide
    exact hcode h.1

theorem interrupted_fits : (interrupted 1).document.Fits ∧ (interrupted 2).document.Fits := by
  decide +kernel

theorem interrupted_valid : (interrupted 1).document.Valid := by
  decide +kernel

theorem poll_interrupted : pollStatus ⟨2⟩ unanswered 0 (interrupted 0)
    = ⟨(interrupted 1).document, .ok (runtimeUnavailable none none).note⟩ := by
  have hupdate : (interrupted 0).document.update 0 (·.retained
      (runtimeUnavailable none none).code (runtimeUnavailable none none).detail)
      = .ok (interrupted 1).document :=
    QuickValidationStateDocument.update_of_valid rfl interrupted_valid interrupted_fits.1
  show setRecoveryDetail 0 (interrupted 0).document (interrupted 0).run
    (runtimeUnavailable none none) = _
  rw [setRecoveryDetail, if_neg, hupdate]
  · rfl
  · intro h
    exact (interruptedRun_keeps 0).2 h.2

/-- The poll after it, by the theorem. -/
theorem interrupted_polled_again :
    (pollStatus ⟨2⟩ unanswered 0 (interrupted 1)).document = (interrupted 1).document ↔
      (∀ blocker, blocker? unanswered (interrupted 0).run = some blocker →
        ¬((interrupted 0).run.polled ⟨2⟩).KeepsOther blocker)
      ∨ ¬((interrupted 1).document.restamped 0).Fits :=
  repeated_poll_iff ⟨2⟩ unanswered 0 0 (interrupted 0) (interrupted 1) _ poll_interrupted

/-- Every poll of it writes the document again. -/
theorem interrupted_written_again : ¬ ∀ (process : Uuid) (answers : CleanupAnswers)
    (now later : Time) (polled again : StoppingDocument) (note : String),
    pollStatus process answers now polled = ⟨again.document, .ok note⟩ →
      (pollStatus process answers later again).document = again.document := by
  intro hidempotent
  have hagain := hidempotent ⟨2⟩ unanswered 0 0 (interrupted 0) (interrupted 1) _ poll_interrupted
  have hsecond : (pollStatus ⟨2⟩ unanswered 0 (interrupted 1)).document
      = (interrupted 2).document := by
    show (setRecoveryDetail 0 (interrupted 1).document (interrupted 1).run
      (runtimeUnavailable none none)).document = _
    rw [setRecoveryDetail_keepsOther rfl interrupted_valid rfl (interruptedRun_keeps 1)]
    exact if_pos interrupted_fits.2
  rw [hsecond] at hagain
  have hrevision : 5 = 4 := congrArg QuickValidationStateDocument.revision hagain
  omega

end TrexWebui
