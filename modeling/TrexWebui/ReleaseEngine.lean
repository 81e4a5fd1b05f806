import TrexWebui.ReleaseEngineWorld

/-!
# The release engine

The operations of `ReleaseTransactionEngine` over a journal: `prepare` and
`prepare_previous` open a transaction, `arm_consumers`,
`mark_daemon_mutation_started`, `activate` and `commit` take it forward,
`rollback` takes it back, and `reconcile` decides after a crash which of the
two is due.
-/

namespace TrexWebui.ReleaseEngine

open PyStr PyJson PosixPath Checks OracleProgram

/-! ## Transactions -/

namespace Transaction

/-- `{digest for digest in (candidate, current_before, previous_before) if …}` -/
def selectedDigests (t : Transaction) : List Str :=
  t.candidate :: (t.currentBefore.toList ++ t.previousBefore.toList)

def baselineDigests (t : Transaction) : List Str :=
  t.currentBefore.toList ++ t.previousBefore.toList

def committedDigests (t : Transaction) : List Str := t.candidate :: t.currentBefore.toList

def managedDaemonPlan (t : Transaction) : Bool :=
  t.transactionKind = .archive && t.hostProfile = some .managedLocal
    && daemonUnit ∈ t.consumerRollbackPlan

def effectivePlan (t : Transaction) : List Str :=
  t.consumerRollbackPlan.filter fun unit =>
    !(t.managedDaemonPlan && !t.daemonMutationStarted && unit = daemonUnit)

def hostRestorePlanned (t : Transaction) : Bool :=
  t.transactionKind = .archive && (!t.managedDaemonPlan || t.daemonMutationStarted)

def nativeRestorePlanned (t : Transaction) : Bool :=
  t.hostRestorePlanned && daemonUnit ∈ t.consumerRollbackPlan

def leavesAlone (t : Transaction) (unit : Str) : Bool :=
  unit = daemonUnit && t.transactionKind = .archive && t.hostProfile = some .managedLocal
    && !t.daemonMutationStarted

/-- `completed` without its baseline and its authority. -/
def disarmed (t : Transaction) : Transaction :=
  { t with consumerActiveBefore := [], consumerBaseline := [], consumerMutationArmed := false }

/-- `completed` of `_finalize_commit_locked`. -/
def finalized (t : Transaction) : Transaction :=
  { t.disarmed with consumerEnable := [], consumerStart := [], daemonMutationStarted := false }

/-- `compacted` of `_retire_terminal_rollback_authority`. -/
def compacted (t : Transaction) (now : Str) : Transaction :=
  { t.finalized with
    hostArtifacts := [], nativeBoundary := none, rollbackRestored := false,
    rollbackAuthorityRetired := true, updatedAt := now }

end Transaction

/-- The transaction that a backup belongs to: `HOST_SNAPSHOT_RE` on its directory. -/
def snapshotOwner (name : Str) : Option Str :=
  let directory := name.takeWhile (· ≠ slash)
  let id := directory.drop (text "host-artifacts-").length
  if text "host-artifacts-" <+: directory ∧ IsUuid id ∧ 49 ≤ id.getD 14 0 ∧ id.getD 14 0 ≤ 53
      ∧ id.getD 19 0 ∈ text "89ab" then some id
  else none

/-- `consumer-[0-9]{2}\.bin` -/
def IsConsumerResponse (leaf : Str) : Prop :=
  leaf.length = 15 ∧ text "consumer-" <+: leaf ∧ text ".bin" <:+ leaf
    ∧ isDigit (leaf.getD 9 0) = true ∧ isDigit (leaf.getD 10 0) = true

instance (leaf : Str) : Decidable (IsConsumerResponse leaf) :=
  inferInstanceAs (Decidable (_ ∧ _ ∧ _ ∧ _ ∧ _))

def isUnarmedResponse (transactionId name : Str) : Bool :=
  (hostSnapshotRoot transactionId ++ [slash]).isPrefixOf name
    && decide (IsConsumerResponse (name.drop (hostSnapshotRoot transactionId ++ [slash]).length))

section

variable (env : EngineEnvironment)

/-! ## The journal -/

def loadTransaction : EngineQuery (Option Transaction) := do
  check env .inspectJournal
  match ← theJournal with
  | none => pure none
  | some t => do
    let content ← raised (journalContent t)
    failIf (content.length < 2 ∨ maxTransactionBytes < content.length)
      "release transaction size is invalid"
    let files ← theFiles env
    let loaded ← raised (validateTransaction env.host files t.fields)
    pure (some loaded)

def writeTransaction (value : Transaction) : EngineM Unit := do
  let files ← theFiles env
  let t ← raised (validateTransaction env.host files value.fields)
  let _ ← raised (journalContent t)
  perform env (.writeJournal t)

def setPhase (t : Transaction) (phase : Phase) : EngineM Transaction := do
  let now ← consult env .utcNow
  writeTransaction env { t with phase, updatedAt := now }
  pure { t with phase, updatedAt := now }

/-! ## The selectors -/

def validateSelectedRelease (digest : Str) : EngineQuery Unit := do
  let releases ← theReleases
  failIf (digest ∉ releases) "cannot inspect release tree"
  check env (.verifyRelease digest)

def selectorDigest (selector : Selector) (validateRelease : Bool := true) :
    EngineQuery (Option Str) := do
  check env (.inspectSelector selector)
  match ← theSelector selector with
  | none => pure none
  | some digest => do
    if validateRelease then validateSelectedRelease env digest
    pure (some digest)

def atomicSetSelector (selector : Selector) : Option Str → EngineM Unit
  | none => do
    check env (.inspectSelector selector)
    let existing ← theSelector selector
    if existing = none then pure () else perform env (.select selector none)
  | some digest => do
    check env (.inspectSelector selector)
    validateSelectedRelease env digest
    perform env (.select selector (some digest))

def assertSelectorsBelongToTransaction (t : Transaction)
    (allowEqualDuringRollback : Bool := false) : EngineQuery (Option Str × Option Str) := do
  let current ← selectorDigest env .current !allowEqualDuringRollback
  let previous ← selectorDigest env .previous !allowEqualDuringRollback
  failIf (∃ digest ∈ current, digest ∉ t.selectedDigests)
    "current selector escaped the active transaction"
  failIf (∃ digest ∈ previous, digest ∉ t.selectedDigests)
    "previous selector escaped the active transaction"
  failIf (current ≠ none ∧ current = previous ∧ allowEqualDuringRollback = false)
    "current and previous selectors must differ"
  pure (current, previous)

/-! ## Housekeeping -/

def cleanupHostSnapshots (transactionId : Option Str := none) : EngineM Unit := do
  let backups ← theBackups
  backups.forM fun entry =>
    match snapshotOwner entry.1 with
    | none => pure ()
    | some owner =>
      if transactionId = none ∨ transactionId = some owner then do
        check env (.removableBackups owner)
        perform env (.removeBackup entry.1)
      else pure ()

def cleanupHostSnapshotsExcept (transactionId : Str) : EngineM Unit := do
  let backups ← theBackups
  backups.forM fun entry =>
    match snapshotOwner entry.1 with
    | none => pure ()
    | some owner =>
      if owner = transactionId then pure ()
      else do
        check env (.removableBackups owner)
        perform env (.removeBackup entry.1)

def pruneReleases (retained : List Str) : EngineM Unit := do
  retained.forM fun digest => (validateSelectedRelease env digest : EngineM Unit)
  check env .releaseStore
  let releases ← theReleases
  releases.forM fun digest =>
    if digest ∈ retained then pure ()
    else do
      check env (.removableRelease digest)
      perform env (.removeRelease digest)

/-- `_best_effort_terminal_housekeeping` -/
def terminalHousekeeping (t : Transaction) (retained : List Str) : EngineM Unit := do
  bestEffort (liftM (check env .cleanStaging))
  bestEffort (cleanupHostSnapshotsExcept env t.transactionId)
  bestEffort (pruneReleases env retained)

/-- `_best_effort_unjournaled_housekeeping` -/
def unjournaledHousekeeping (retained : List Str) : EngineM Unit := do
  bestEffort (liftM (check env .cleanStaging))
  bestEffort (cleanupHostSnapshots env)
  bestEffort (pruneReleases env retained)

def strictPrepareHousekeeping (current previous : Option Str) : EngineM Unit := do
  check env .cleanStaging
  cleanupHostSnapshots env
  pruneReleases env (current.toList ++ previous.toList)

/-! ## Host artifacts -/

/-- What `_restore_host_artifacts` puts at the path of a record. -/
def HostArtifact.restored (content : Bytes) : HostArtifact → Option HostNode
  | .absent _ => none
  | .file _ _ uid gid mode _ _ => some (.file uid gid mode 1 content)
  | .symlink _ uid gid _ _ _ target => some (.symlink uid gid 0o777 1 target)

def HostArtifact.path : HostArtifact → Str
  | .absent path => path
  | .file path _ _ _ _ _ _ => path
  | .symlink path _ _ _ _ _ _ => path

def assertReplaceableHostTarget (path : Str) : EngineQuery Unit := do
  check env (.artifactParent path)
  check env (.inspectArtifact path)
  match ← theArtifact path with
  | none => pure ()
  | some (.special _ _ _ _) => throw (.failed "current host artifact is unsafe to replace")
  | some node =>
    failIf (node.uid ≠ env.host.expectedUid ∨ node.nlink ≠ 1)
      "current host artifact is unsafe to replace"

def restoredContent (artifact : HostArtifact) : EngineQuery Bytes := do
  match artifact with
  | .file _ backup _ _ _ size sha256 => do
    let files ← theFiles env
    raised (loadHostBackup env.host files backup size sha256)
  | _ => pure []

/-- The body of the loop of `_restore_host_artifacts`. -/
def restoreHostArtifact (artifact : HostArtifact) : EngineM Unit := do
  assertReplaceableHostTarget env artifact.path
  let content ← restoredContent env artifact
  perform env (.replaceArtifact artifact.path (artifact.restored content))
  match artifact with
  | .absent _ => pure ()
  | _ => check env (.relabel artifact.path)

def restoreHostArtifacts (t : Transaction) : EngineM Unit := do
  t.hostArtifacts.forM (restoreHostArtifact env)
  if t.hostArtifacts = [] then pure () else perform env .daemonReload

def HostArtifact.isMet (artifact : HostArtifact) (found : Option HostNode) : Bool :=
  match artifact, found with
  | .absent _, none => true
  | .file _ _ uid gid mode size sha256, some (.file uid' gid' mode' nlink content) =>
    uid' = uid && gid' = gid && mode' = mode && nlink = 1 && content.length = size
      && Sha2.hexdigest content = sha256
  | .symlink _ uid gid mode _ _ target, some (.symlink uid' gid' mode' nlink target') =>
    uid' = uid && gid' = gid && mode' = mode && nlink = 1 && target' = target
  | _, _ => false

def verifyHostArtifactsExact (t : Transaction) : EngineQuery Unit :=
  t.hostArtifacts.forM fun artifact => do
    check env (.inspectArtifact artifact.path)
    let found ← theArtifact artifact.path
    failIf (artifact.isMet found = false) "restored host artifact mismatch"

def HostArtifact.isAbsent : HostArtifact → Bool
  | .absent _ => true
  | _ => false

def verifyRestoredHostArtifacts (t : Transaction) : EngineM Unit := do
  verifyHostArtifactsExact env t
  (t.hostArtifacts.filter fun artifact => !artifact.isAbsent).forM fun artifact =>
    (check env (.relabel artifact.path) : EngineM Unit)
  if t.hostArtifacts = [] then pure () else perform env .daemonReload

/-- `_snapshot_host_artifacts`, for one of the paths. -/
def snapshotHostArtifact (transactionId : Str) (index : Nat) (path : Str) :
    EngineM HostArtifact := do
  check env (.artifactParent path)
  check env (.inspectArtifact path)
  match ← theArtifact path with
  | none => pure (.absent path)
  | some (.special _ _ _ _) =>
    throw (.failed "host artifact must be a regular file, symlink, or absent")
  | some (.file uid gid mode nlink content) => do
    failIf (uid ≠ env.host.expectedUid ∨ nlink ≠ 1) "host artifact must be owned and single-link"
    failIf (mode &&& 0o7022 ≠ 0 ∨ maxHostArtifactBytes < content.length)
      "host artifact has unsafe mode or size"
    let backup := hostArtifactBackup transactionId index
    perform env (.writeBackup backup content)
    pure (.file path backup uid gid mode content.length (Sha2.hexdigest content))
  | some (.symlink uid gid mode nlink target) => do
    failIf (uid ≠ env.host.expectedUid ∨ nlink ≠ 1) "host artifact must be owned and single-link"
    let encoded ← raised (orRefuse (fsencode target) (.refusal .unicodeEncode))
    failIf (target = [] ∨ 0 ∈ target ∨ 4096 < encoded.length ∨ ¬IsCanonicalAbsolute target)
      "host artifact link is unsafe or changed"
    pure (.symlink path uid gid mode encoded.length (Sha2.hexdigest encoded) target)

/-- The loop of `_snapshot_host_artifacts`. -/
def snapshotPaths (transactionId : Str) : (index : Nat) → (paths : List Str) →
    EngineM (List HostArtifact)
  | _, [] => pure []
  | index, path :: paths => do
    let artifact ← snapshotHostArtifact env transactionId index path
    let artifacts ← snapshotPaths transactionId (index + 1) paths
    pure (artifact :: artifacts)

def snapshotHostArtifacts (transactionId : Str) (paths : List Str) :
    EngineM (List HostArtifact) := do
  failIf (¬paths.Nodup ∨ paths ≠ env.host.hostArtifactPaths.filter (· ∈ paths))
    "host artifact transaction scope is invalid"
  if paths = [] then pure []
  else do
    check env (.snapshotRoot transactionId)
    snapshotPaths env transactionId 0 paths

/-! ## The native boundary -/

def snapshotNativeBoundary (transactionId : Str) : EngineM NativeBoundary := do
  check env (.snapshotRoot transactionId)
  let helper ← answered (consult env .boundaryHelper)
  failIf (maxHostArtifactBytes < helper.length) "native-boundary helper is too large"
  perform env (.writeBackup (boundaryHelperBackup transactionId) helper)
  let snapshot ← answered (consult env .boundarySnapshot)
  perform env (.writeBackup (boundaryBackup transactionId) snapshot)
  failIf (maxHostArtifactBytes < snapshot.length) "native-boundary snapshot is too large"
  let state ← raised (nativeBoundarySnapshotState snapshot)
  pure {
    backup := boundaryBackup transactionId
    helperBackup := boundaryHelperBackup transactionId
    helperSha256 := Sha2.hexdigest helper
    helperSize := helper.length
    sha256 := Sha2.hexdigest snapshot
    size := snapshot.length
    state }

def loadNativeBoundary (record : NativeBoundary) : EngineQuery Unit := do
  let files ← theFiles env
  let _ ← raised (loadNativeBoundaryBackup env.host files record.backup record.size record.sha256)
  let _ ← raised (loadNativeBoundaryBackup env.host files record.helperBackup record.helperSize
    record.helperSha256)
  pure ()

def verifyNativeBoundary (t : Transaction) : EngineQuery Unit :=
  match t.nativeBoundary with
  | none => pure ()
  | some record => do
    loadNativeBoundary env record
    check env (.verifyBoundary record)

def restoreNativeBoundary (t : Transaction) : EngineM Unit :=
  match t.nativeBoundary with
  | none => pure ()
  | some record => do
    loadNativeBoundary env record
    perform env (.restoreBoundary record)
    verifyNativeBoundary env t

/-! ## Terminal transactions -/

/-- The last part of `_verify_terminal` and of `_queue_baseline_consumer_starts`. -/
def verifyRestored (t : Transaction) : EngineM Unit :=
  if t.rollbackRestored = true then do
    verifyRestoredHostArtifacts env t
    if daemonUnit ∈ t.consumerRollbackPlan then verifyNativeBoundary env t else pure ()
  else pure ()

def verifyTerminal (t : Transaction) : EngineM Unit := do
  failIf (t.phase ∉ Phase.terminal) "release transaction is not terminal"
  let current ← selectorDigest env .current
  let previous ← selectorDigest env .previous
  if t.phase = .committed then
    failIf (current ≠ some t.candidate ∨ previous ≠ t.currentBefore)
      "terminal selectors do not match the durable journal"
  else do
    failIf (current ≠ t.currentBefore ∨ previous ≠ t.previousBefore)
      "terminal selectors do not match the durable journal"
    verifyRestored env t

/-- The compaction of `_retire_terminal_rollback_authority`. -/
def compactTerminal (t : Transaction) : EngineM Transaction :=
  if t.rollbackAuthorityRetired = true then pure t
  else do
    verifyTerminal env t
    let now ← consult env .utcNow
    writeTransaction env (t.compacted now)
    pure (t.compacted now)

def retireTerminalRollbackAuthority (t : Transaction) : EngineM Transaction := do
  failIf (t.phase ∉ Phase.terminal)
    "rollback authority can be retired only after a terminal transition"
  let t ← compactTerminal env t
  bestEffort (cleanupHostSnapshots env (some t.transactionId))
  pure t

/-- The end of a transaction: its terminal phase, its compaction and the housekeeping. -/
def finish (t : Transaction) (phase : Phase) (retained : List Str) : EngineM Transaction := do
  let t ← setPhase env t phase
  let t ← retireTerminalRollbackAuthority env t
  terminalHousekeeping env t retained
  pure t

/-! ## Rollback -/

def queueBaselineConsumerStarts (t : Transaction) : EngineM Transaction := do
  failIf (t.phase ≠ .startingBaselineConsumers)
    "baseline consumer starts require durable pending intent"
  let current ← selectorDigest env .current
  let previous ← selectorDigest env .previous
  failIf (current ≠ t.currentBefore ∨ previous ≠ t.previousBefore)
    "baseline selectors changed while consumer starts were pending"
  verifyRestored env t
  t.consumerActiveBefore.forM fun unit =>
    if t.leavesAlone unit then pure () else perform env (.start unit)
  pure t

/-- The rollback of a transaction that has not armed its consumers. -/
def rollBackUnarmed (t : Transaction) : EngineM Transaction := do
  let current ← selectorDigest env .current
  let previous ← selectorDigest env .previous
  failIf (current ≠ t.currentBefore ∨ previous ≠ t.previousBefore)
    "unarmed transaction changed selectors or host mutation ordering"
  finish env { t.disarmed with rollbackRestored := false } .rolledBack t.baselineDigests

def quiesceConsumers (t : Transaction) : EngineM Transaction :=
  if t.effectivePlan = [] then pure t
  else do
    let stopping ← setPhase env t .stoppingConsumers
    perform env (.stop (t.managedDaemonPlan && t.daemonMutationStarted) t.effectivePlan)
    setPhase env stopping .consumersStopped

def restoreSelectors (t : Transaction) : EngineM Transaction := do
  let t ← setPhase env t .rollingBackCurrent
  atomicSetSelector env .current t.currentBefore
  let t ← setPhase env t .rollingBackPrevious
  atomicSetSelector env .previous t.previousBefore
  pure t

def restoreBoundaryPlanned (t : Transaction) : EngineM Transaction :=
  if t.nativeRestorePlanned then do
    let t ← setPhase env t .restoringNativeBoundary
    restoreNativeBoundary env t
    setPhase env t .nativeBoundaryRestored
  else pure t

def restoreArtifactsPlanned (t : Transaction) : EngineM Transaction :=
  if t.hostRestorePlanned then do
    let t ← setPhase env t .restoringHostArtifacts
    restoreHostArtifacts env t
    setPhase env t .hostArtifactsRestored
  else pure t

def finishRollback (restored : Transaction) : EngineM Transaction :=
  if restored.consumerActiveBefore = [] then
    finish env { restored with consumerMutationArmed := false } .rolledBack
      restored.baselineDigests
  else do
    let t ← setPhase env restored .startingBaselineConsumers
    queueBaselineConsumerStarts env t

def rollBackArmed (t : Transaction) : EngineM Transaction := do
  let t ← quiesceConsumers env t
  let t ← restoreSelectors env t
  let t ← restoreBoundaryPlanned env t
  let t ← restoreArtifactsPlanned env t
  finishRollback env { t with rollbackRestored := t.hostRestorePlanned }

def settleRolledBack (t : Transaction) : EngineM Transaction := do
  let t ← retireTerminalRollbackAuthority env t
  verifyTerminal env t
  terminalHousekeeping env t t.baselineDigests
  pure t

def rollbackLocked (t : Transaction) : EngineM Transaction := do
  failIf (t.phase = .finalizingConsumerEnable ∨ t.phase = .committed)
    "a release with durable commit intent cannot be rolled back implicitly"
  if t.phase = .rolledBack then settleRolledBack env t
  else if t.phase = .startingBaselineConsumers then queueBaselineConsumerStarts env t
  else do
    let _ ← assertSelectorsBelongToTransaction env t true
    if t.consumerMutationArmed = true then rollBackArmed env t else rollBackUnarmed env t

/-- The loop of `acknowledge_consumers`. -/
def acknowledgeEach (t : Transaction) : List (Str × ConsumerBaseline) → EngineQuery Unit
  | [] => pure ()
  | (unit, baseline) :: rest => do
    if t.leavesAlone unit then pure ()
    else do
      let active ← answered (consult env (.isActive unit))
      failIf (active = false) "baseline consumer is not active yet"
      let ready ← answered (consult env (.isReady baseline))
      failIf (ready = false) "baseline consumer is active but not ready"
    acknowledgeEach t rest

def acknowledgeConsumers : EngineM (Option Transaction) := do
  check env .layout
  match ← (loadTransaction env : EngineM (Option Transaction)) with
  | none => pure none
  | some t =>
    if t.phase = .startingBaselineConsumers then do
      acknowledgeEach env t (t.consumerActiveBefore.zip t.consumerBaseline)
      let t ← finish env t.disarmed .rolledBack t.baselineDigests
      pure (some t)
    else pure (some t)

/-! ## Commit -/

def requireActivated (t : Transaction) (message : String) : EngineQuery Unit := do
  let (current, previous) ← assertSelectorsBelongToTransaction env t
  failIf (current ≠ some t.candidate ∨ previous ≠ t.currentBefore) message

def enableConsumers (t : Transaction) : EngineM Unit :=
  t.consumerEnable.forM fun unit => do
    perform env (.enable unit)
    let enabled ← answered (consult env (.isEnabled unit))
    failIf (enabled = false) "committed consumer did not become enabled"

def startConsumers (t : Transaction) : EngineM Unit :=
  if t.consumerEnable = [] then pure ()
  else do
    perform env .daemonReload
    t.consumerStart.forM fun unit => perform env (.start unit)

def finalizeCommitLocked (t : Transaction) : EngineM Transaction := do
  failIf (t.phase ≠ .finalizingConsumerEnable)
    "consumer enable publication requires durable commit intent"
  requireActivated env t "commit-intent selectors do not match the transaction"
  enableConsumers env t
  startConsumers env t
  finish env t.finalized .committed t.committedDigests

def settleCommitted (t : Transaction) : EngineM Transaction := do
  let t ← retireTerminalRollbackAuthority env t
  verifyTerminal env t
  terminalHousekeeping env t t.committedDigests
  pure t

/-! ## Reconciliation -/

/-- The part of `_reconcile_locked` without a journal. -/
def reconcileUnjournaled : EngineM Unit := do
  let current ← selectorDigest env .current
  let previous ← selectorDigest env .previous
  failIf (current ≠ none ∧ current = previous) "current and previous selectors must differ"
  unjournaledHousekeeping env (current.toList ++ previous.toList)

def reconcileLocked : EngineM (Option Transaction) := do
  match ← (loadTransaction env : EngineM (Option Transaction)) with
  | none => do
    reconcileUnjournaled env
    pure none
  | some t =>
    if t.phase = .finalizingConsumerEnable then some <$> finalizeCommitLocked env t
    else if t.phase = .startingBaselineConsumers then some <$> queueBaselineConsumerStarts env t
    else if t.phase = .committed then some <$> settleCommitted env t
    else if t.phase = .rolledBack then some <$> settleRolledBack env t
    else some <$> rollbackLocked env t

def reconcile : EngineM (Option Transaction) := do
  check env .layout
  reconcileLocked env

end

end TrexWebui.ReleaseEngine

