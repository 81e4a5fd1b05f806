import TrexWebui.QuickValidationEvidence

/-!
# Polling a stopping run

`QuickValidationAuthority.status` of a document whose run is stopping: the
store, the edits of the document, and `_drive_stopping`, which asks the
traffic authority and either ends the run or records what blocks the cleanup.
What the services answer during one call, and what its clock reads, are given.
-/

namespace TrexWebui

open PyText

/-! ## The store -/

/-- `QuickValidationStateStore.update`: the document gets its next revision, and is refused where
the validators or the limit on the size of the file refuse it. The disk accepts what is written. -/
def QuickValidationStateDocument.update (document : QuickValidationStateDocument) (now : Time)
    (change : QuickValidationRunState → QuickValidationRunState) :
    Except String QuickValidationStateDocument :=
  let candidate : QuickValidationStateDocument :=
    { revision := document.revision + 1, updatedAt := now, run := document.run.map change }
  if candidate.Valid ∧ candidate.Fits then .ok candidate
  else .error "quick-validation state mutation is invalid"

/-- What is on disk after a call, and how the call ended. -/
structure Poll where
  document : QuickValidationStateDocument
  result : Except String String

/-- An edit that is refused ends the call and leaves the document as it was. -/
def Poll.after (document : QuickValidationStateDocument)
    (edited : Except String QuickValidationStateDocument)
    (next : QuickValidationStateDocument → Poll) : Poll :=
  match edited with
  | .ok written => next written
  | .error message => ⟨document, .error message⟩

/-! ## What the services answer -/

/-- A `TrexCallResult`, with data of the expected type or as a failure. -/
inductive ServiceAnswer (α : Type) where
  | ok (data : α)
  | failed (blocker error : Option String)

/-- `text or fallback` -/
def orElseText (text : Option String) (fallback : String) : String :=
  match text with
  | some t => if t = "" then fallback else t
  | none => fallback

/-- The answers during one call of `status`. `formatLoss` is `f"{loss:g}"`. -/
structure CleanupAnswers where
  snapshot : ServiceAnswer SnapshotPayload
  stop : ServiceAnswer Unit
  snapshotAfterStop : ServiceAnswer SnapshotPayload
  counters : Except String (Dict Port QuickValidationPortCounters)
  formatLoss : Float → String

/-! ## Edits -/

namespace QuickValidationRunState

/-- `retain` of `_set_recovery_detail`. -/
def retained (code detail : String) (run : QuickValidationRunState) : QuickValidationRunState :=
  let failureKept := run.pendingTerminal = some .fail ∧ run.failureCode ≠ none
  { run with
    recoveryRequired := true
    failureCode := if failureKept then run.failureCode else some code
    failureDetail := if failureKept then run.failureDetail else some detail
    pendingTerminal := if run.pendingTerminal = some .pass then some .fail else run.pendingTerminal
    revision := run.revision + 1 }

/-- `bind` of `_bind_recovered_session`. -/
def bound (evidence : StartedSession) (run : QuickValidationRunState) : QuickValidationRunState :=
  { run with
    startedAt := some evidence.startedAt
    deadlineAt := evidence.startedAt + seconds run.durationSeconds
    trafficSessionId := some evidence.sessionId
    trafficSessionRevision := some evidence.sessionRevision
    trafficRunId := some evidence.trafficRunId
    group := { run.group with profileSha256 := some evidence.profileSha256 }
    revision := run.revision + 1 }

/-- `recover` of `_mark_restart_recovery`. -/
def recovered (run : QuickValidationRunState) : QuickValidationRunState :=
  { run with
    phase := .stopping
    pendingTerminal := some .fail
    recoveryRequired := true
    failureCode := some "quick_validation_api_restarted"
    failureDetail := some ("API process changed while the guided run was non-terminal; "
      ++ "canonical traffic cleanup must be re-verified")
    revision := run.revision + 1 }

/-- `fail` of `_fail_pending_terminal`. -/
def failed (code detail : String) (run : QuickValidationRunState) : QuickValidationRunState :=
  { run with
    pendingTerminal := some .fail
    failureCode := some code
    failureDetail := some detail
    recoveryRequired := false
    revision := run.revision + 1 }

/-- `finish` of `_finish`. -/
def finished (terminal : QuickValidationTerminal) (failure : Option String × Option String)
    (cleanup : QuickValidationCleanupEvidence) (run : QuickValidationRunState) :
    QuickValidationRunState :=
  { run with
    phase := .ended terminal
    pendingTerminal := none
    recoveryRequired := false
    failureCode := failure.1
    failureDetail := failure.2
    cleanup := some cleanup
    idleVerified := true
    endedAt := some cleanup.completedAt
    trafficSessionRevision :=
      if cleanup.trafficSessionRevision = none then run.trafficSessionRevision
      else cleanup.trafficSessionRevision
    revision := run.revision + 1 }

/-! ## Samples -/

/-- The sample of one port; `none` where a counter went back. -/
def portSample? (run : QuickValidationRunState)
    (counters : Dict Port QuickValidationPortCounters) (port : Port) :
    Except String QuickValidationPortSample :=
  let baseline := run.preflight.baselineCounters.getD port ⟨0.0, 0.0⟩
  let current := counters.getD port ⟨0.0, 0.0⟩
  let tx := current.txPackets - baseline.txPackets
  let rx := current.rxPackets - baseline.rxPackets
  if tx < 0.0 ∨ rx < 0.0 then
    .error s!"P{port} packet counters reset during quick validation"
  else
    let loss := PyFloat.max0 (tx - rx)
    .ok { port, absoluteTxPackets := current.txPackets, absoluteRxPackets := current.rxPackets,
          txPackets := tx, rxPackets := rx, lossPackets := loss,
          lossRatio := QuickValidationSample.ratio loss tx }

/-- The sample of `_append_sample`. -/
def sample? (run : QuickValidationRunState) (now : Time)
    (counters : Dict Port QuickValidationPortCounters) : Except String QuickValidationSample := do
  let ports ← run.group.ports.mapM (run.portSample? counters)
  let totalTx := PyFloat.sum (ports.map (·.txPackets))
  let totalRx := PyFloat.sum (ports.map (·.rxPackets))
  let totalLoss := PyFloat.max0 (totalTx - totalRx)
  return { sampledAt := now, ports, totalTxPackets := totalTx, totalRxPackets := totalRx,
           totalLossPackets := totalLoss,
           totalLossRatio := QuickValidationSample.ratio totalLoss totalTx }

/-- `append` of `_append_sample`: the last 127 samples and the new one. -/
def sampled (sample : QuickValidationSample) (run : QuickValidationRunState) :
    QuickValidationRunState :=
  { run with
    samples := run.samples.drop (run.samples.length - (QUICK_VALIDATION_SAMPLE_LIMIT - 1))
      ++ [sample]
    revision := run.revision + 1 }

/-- `_passing_sample_failure` -/
def passingSampleFailure? (run : QuickValidationRunState) (formatLoss : Float → String) :
    Option (String × String) :=
  match run.samples.getLast? with
  | none =>
      some ("quick_validation_packets_missing", "no per-port packet sample was recorded")
  | some sample =>
      let missing := sample.ports.filter fun port =>
        port.txPackets ≤ 0.0 ∨ port.rxPackets ≤ 0.0
      let lossy := sample.ports.filter fun port => 0.0 < port.lossPackets
      let names (ports : List QuickValidationPortSample) : String :=
        ", ".intercalate (ports.map fun port => s!"P{port.port}")
      if sample.sampledAt < run.deadlineAt then
        some ("quick_validation_final_sample_missing",
          "the latest packet sample predates the canonical traffic deadline")
      else if !missing.isEmpty then
        some ("quick_validation_packets_missing",
          "TX/RX packet growth is missing on " ++ names missing)
      else if 0.0 < sample.totalLossPackets then
        some ("quick_validation_packet_loss",
          s!"aggregate packet deficit is {formatLoss sample.totalLossPackets}")
      else if !lossy.isEmpty then
        some ("quick_validation_packet_loss",
          "per-port packet deficit detected on " ++ names lossy)
      else none

/-- The verdict of `_finish`, and the failure that goes with it. -/
def verdict (run : QuickValidationRunState) (formatLoss : Float → String)
    (cleanup : QuickValidationCleanupEvidence) (terminal : QuickValidationTerminal) :
    QuickValidationTerminal × (Option String × Option String) :=
  let outcome :=
    if terminal = .pass then
      if cleanup.mode = .hardStop then
        some ("quick_validation_hard_stop_triggered",
          "the safety watchdog stopped traffic; an unattended hard-stop "
            ++ "cannot certify a passing guided run")
      else if cleanup.completedAt < run.deadlineAt then
        some ("quick_validation_traffic_stopped_early",
          "canonical traffic cleanup completed before the requested duration")
      else run.passingSampleFailure? formatLoss
    else none
  match outcome with
  | some (code, detail) => (.fail, some code, some detail)
  | none => (terminal, run.failureCode, run.failureDetail)

end QuickValidationRunState

/-! ## Ways to end -/

/-- `_finish`, with the note that goes with it. -/
def finishRun (answers : CleanupAnswers) (now : Time) (document : QuickValidationStateDocument)
    (run : QuickValidationRunState) (cleanup : QuickValidationCleanupEvidence)
    (terminal : QuickValidationTerminal) (note : QuickValidationTerminal → String) : Poll :=
  let verdict := run.verdict answers.formatLoss cleanup terminal
  Poll.after document (document.update now (·.finished verdict.1 verdict.2 cleanup))
    fun written => ⟨written, .ok (note verdict.1)⟩

/-- `_finish_without_start`, where the ports are idle. -/
def finishWithoutStart (answers : CleanupAnswers) (now : Time)
    (document : QuickValidationStateDocument) (run : QuickValidationRunState) : Poll :=
  finishRun answers now document run
    { mode := .notStarted, completedAt := now, finalPorts := run.group.ports.toFinset }
    .fail fun _ => "preflight failed before canonical traffic start"

/-- The final sample of a run that may pass, and `_finish`. -/
def finishCertified (answers : CleanupAnswers) (now : Time)
    (document : QuickValidationStateDocument) (run : QuickValidationRunState)
    (cleanup : QuickValidationCleanupEvidence) : Poll :=
  let finishing (document : QuickValidationStateDocument) (run : QuickValidationRunState) : Poll :=
    match run.pendingTerminal with
    | none => ⟨document,
        .error "terminal transition requires a stopping quick-validation run"⟩
    | some terminal => finishRun answers now document run cleanup terminal
        fun ended => s!"quick-validation cleanup verified; run is {ended.text}"
  if run.pendingTerminal = some .pass then
    let edit : QuickValidationRunState → QuickValidationRunState :=
      match answers.counters >>= run.sample? now with
      | .ok sample => (·.sampled sample)
      | .error message => (·.failed "quick_validation_stats_invalid" message)
    Poll.after document (document.update now edit) fun written => finishing written (edit run)
  else finishing document run

/-! ## The cleanup -/

/-- What a blocked cleanup records, and the note that `status` returns. -/
structure Blocker where
  code : String
  detail : String
  note : String

/-- `_set_recovery_detail` of a stopping run. -/
def setRecoveryDetail (now : Time) (document : QuickValidationStateDocument)
    (run : QuickValidationRunState) (blocker : Blocker) : Poll :=
  if run.recoveryRequired = true ∧ run.failureCode = some blocker.code
      ∧ run.failureDetail = some blocker.detail then ⟨document, .ok blocker.note⟩
  else
    Poll.after document (document.update now (·.retained blocker.code blocker.detail))
      fun written => ⟨written, .ok blocker.note⟩

def runtimeUnavailable (blocker error : Option String) : Blocker :=
  ⟨orElseText blocker "quick_validation_cleanup_runtime_unavailable",
    orElseText error "canonical traffic runtime is unavailable during cleanup",
    "cleanup is waiting for canonical runtime recovery"⟩

def trafficRecoveryPending : Blocker :=
  ⟨"quick_validation_traffic_recovery_pending",
    "canonical traffic mutation recovery is still pending",
    "cleanup is waiting for traffic WAL recovery"⟩

def startRecoveryRequired : Blocker :=
  ⟨"quick_validation_start_recovery_required",
    "traffic start outcome cannot yet be attributed safely",
    "cleanup awaits exact start attribution"⟩

/-- What the answers say about the cleanup of a run with a session: a blocker, or the evidence. -/
def verifyCleanup (answers : CleanupAnswers) (runtime : SnapshotPayload)
    (run : QuickValidationRunState) : Except Blocker QuickValidationCleanupEvidence :=
  let certify (runtime : SnapshotPayload) : Except Blocker QuickValidationCleanupEvidence :=
    match validatedCleanup runtime run with
    | .ok cleanup => .ok cleanup
    | .error message => .error ⟨"quick_validation_cleanup_evidence_invalid", message,
        "cleanup evidence is not yet certifiable"⟩
  match runtime.session.filter fun session => some session.id = run.trafficSessionId with
  | none => .error ⟨"quick_validation_session_conflict",
      "canonical traffic session changed before cleanup verification",
      "cleanup blocked by traffic session conflict"⟩
  | some session =>
      if session.state = .running ∨ session.state = .paused ∨ session.state = .mixed then
        match answers.stop with
        | .failed blocker error => .error
            ⟨orElseText blocker "quick_validation_stop_recovery_required",
              orElseText error "canonical traffic stop did not complete cleanly",
              "cleanup stop requires traffic supervisor recovery"⟩
        | .ok () =>
            match answers.snapshotAfterStop with
            | .failed blocker error => .error
                ⟨orElseText blocker "quick_validation_stop_verification_unavailable",
                  orElseText error "cannot refresh canonical traffic after stop",
                  "cleanup stop issued; verification is pending"⟩
            | .ok runtime => certify runtime
      else certify runtime

def recoveredSession? (runtime : SnapshotPayload) (run : QuickValidationRunState) :
    Option StartedSession :=
  match validatedStartedSession runtime.session run with
  | .ok evidence =>
      if evidence.sessionState = .running ∨ evidence.sessionState = .paused
          ∨ evidence.sessionState = .mixed ∨ evidence.sessionState = .stopped then some evidence
      else none
  | .error _ => none

/-- The end of `_drive_stopping`, of a run with a session. -/
def driveVerified (answers : CleanupAnswers) (now : Time) (runtime : SnapshotPayload)
    (document : QuickValidationStateDocument) (run : QuickValidationRunState) : Poll :=
  match verifyCleanup answers runtime run with
  | .ok cleanup => finishCertified answers now document run cleanup
  | .error blocker => setRecoveryDetail now document run blocker

def driveStopping (answers : CleanupAnswers) (now : Time) (document : QuickValidationStateDocument)
    (run : QuickValidationRunState) : Poll :=
  match answers.snapshot with
  | .failed blocker error => setRecoveryDetail now document run (runtimeUnavailable blocker error)
  | .ok runtime =>
      if runtime.mutationIntent ≠ none then
        setRecoveryDetail now document run trafficRecoveryPending
      else if run.trafficSessionId = none then
        match recoveredSession? runtime run with
        | some evidence => Poll.after document (document.update now (·.bound evidence))
            fun written => driveVerified answers now runtime written (run.bound evidence)
        | none =>
            if portsAreIdle runtime run.group.ports then
              finishWithoutStart answers now document run
            else setRecoveryDetail now document run startRecoveryRequired
      else driveVerified answers now runtime document run

/-- The API process changed under a run whose recovery is not yet on record. -/
def QuickValidationRunState.restarted (run : QuickValidationRunState) (process : Uuid) : Bool :=
  run.processInstanceId ≠ process && !run.recoveryRequired

/-- A document whose run is stopping. -/
structure StoppingDocument where
  document : QuickValidationStateDocument
  run : QuickValidationRunState
  holds : document.run = some run
  stopping : run.phase = .stopping

/-- `status` of such a document, by the process with this identity. -/
def pollStatus (process : Uuid) (answers : CleanupAnswers) (now : Time)
    (polled : StoppingDocument) : Poll :=
  if polled.run.restarted process then
    Poll.after polled.document (polled.document.update now (·.recovered))
      fun written => driveStopping answers now written polled.run.recovered
  else driveStopping answers now polled.document polled.run

end TrexWebui
