import TrexWebui.ReleaseJournalRecords

/-!
# The journal of a release transaction

`ReleaseTransactionEngine` keeps what it is about to do in a journal, a JSON
object that `_write_transaction` replaces as a whole and `_load_transaction`
reads back. Both pass it through `_validate_transaction`, which relates its
23 fields. A journal that passed is a `Transaction`; `Transaction.value` is
the dictionary that the validator returns.
-/

namespace TrexWebui.ReleaseEngine

open PyStr PyJson PyMethods PosixPath Sha2 Checks

/-! ## Names and limits -/

def transactionSchema : Str := text "trex-webui-release-transaction/v3"
def maxTransactionBytes : Nat := 64 * 1024

def transactionKeys : List Str :=
  [text "schema", text "transaction_id", text "transaction_kind", text "phase",
    text "candidate", text "current_before", text "previous_before",
    text "rollback_authority_retired", text "host_artifacts", text "host_profile",
    text "native_boundary", text "consumer_enable", text "consumer_active_before",
    text "consumer_baseline", text "consumer_rollback_plan", text "consumer_mutation_armed",
    text "daemon_mutation_started", text "consumer_start", text "rollback_restored",
    text "candidate_bytes", text "reserve_bytes", text "created_at", text "updated_at"]

inductive Phase where
  | staging
  | prepared
  | switchingCurrent
  | currentSwitched
  | switchingPrevious
  | activated
  | finalizingConsumerEnable
  | committed
  | restoringHostArtifacts
  | hostArtifactsRestored
  | restoringNativeBoundary
  | nativeBoundaryRestored
  | stoppingConsumers
  | consumersStopped
  | startingBaselineConsumers
  | rollingBackCurrent
  | rollingBackPrevious
  | rolledBack
  deriving DecidableEq, Repr

namespace Phase

/-- `PHASES` -/
def all : List Phase :=
  [staging, prepared, switchingCurrent, currentSwitched, switchingPrevious, activated,
    finalizingConsumerEnable, committed, restoringHostArtifacts, hostArtifactsRestored,
    restoringNativeBoundary, nativeBoundaryRestored, stoppingConsumers, consumersStopped,
    startingBaselineConsumers, rollingBackCurrent, rollingBackPrevious, rolledBack]

def name : Phase → Str
  | staging => text "staging"
  | prepared => text "prepared"
  | switchingCurrent => text "switching_current"
  | currentSwitched => text "current_switched"
  | switchingPrevious => text "switching_previous"
  | activated => text "activated"
  | finalizingConsumerEnable => text "finalizing_consumer_enable"
  | committed => text "committed"
  | restoringHostArtifacts => text "restoring_host_artifacts"
  | hostArtifactsRestored => text "host_artifacts_restored"
  | restoringNativeBoundary => text "restoring_native_boundary"
  | nativeBoundaryRestored => text "native_boundary_restored"
  | stoppingConsumers => text "stopping_consumers"
  | consumersStopped => text "consumers_stopped"
  | startingBaselineConsumers => text "starting_baseline_consumers"
  | rollingBackCurrent => text "rolling_back_current"
  | rollingBackPrevious => text "rolling_back_previous"
  | rolledBack => text "rolled_back"

def ofName (s : Str) : Option Phase := all.find? fun phase => phase.name = s

/-- `TERMINAL_PHASES` -/
def terminal : List Phase := [committed, rolledBack]

/-- `DAEMON_MUTATION_PHASES` -/
def daemonMutation : List Phase :=
  [prepared, switchingCurrent, currentSwitched, switchingPrevious, activated, stoppingConsumers,
    consumersStopped, rollingBackCurrent, rollingBackPrevious, restoringNativeBoundary,
    nativeBoundaryRestored, restoringHostArtifacts, hostArtifactsRestored,
    startingBaselineConsumers, rolledBack]

end Phase

inductive TransactionKind where
  | archive
  | legacyBaseline
  | nMinusOne
  | selectorOnly
  deriving DecidableEq, Repr

namespace TransactionKind

/-- `TRANSACTION_KINDS` -/
def all : List TransactionKind := [archive, legacyBaseline, nMinusOne, selectorOnly]

def name : TransactionKind → Str
  | archive => text "archive"
  | legacyBaseline => text "legacy-baseline"
  | nMinusOne => text "n-minus-one"
  | selectorOnly => text "selector-only"

def ofName (s : Str) : Option TransactionKind := all.find? fun kind => kind.name = s

end TransactionKind

/-! ## The transaction -/

structure Transaction where
  transactionId : Str
  transactionKind : TransactionKind
  phase : Phase
  candidate : Str
  currentBefore : Option Str
  previousBefore : Option Str
  rollbackAuthorityRetired : Bool
  hostArtifacts : List HostArtifact
  hostProfile : Option HostProfile
  nativeBoundary : Option NativeBoundary
  consumerEnable : List Str
  consumerActiveBefore : List Str
  consumerBaseline : List ConsumerBaseline
  consumerRollbackPlan : List Str
  consumerMutationArmed : Bool
  daemonMutationStarted : Bool
  consumerStart : List Str
  rollbackRestored : Bool
  candidateBytes : Nat
  reserveBytes : Nat
  createdAt : Str
  updatedAt : Str
  deriving DecidableEq

/-- A text, or `None`. -/
def optionalText : Option Str → Value
  | none => .null
  | some s => .str s

def boundaryValue : Option NativeBoundary → Value
  | none => .null
  | some record => record.value

/-- The entries of the dictionary that `_validate_transaction` returns. -/
def Transaction.fields (t : Transaction) : Fields :=
  [(text "schema", .str transactionSchema), (text "transaction_id", .str t.transactionId),
    (text "transaction_kind", .str t.transactionKind.name), (text "phase", .str t.phase.name),
    (text "candidate", .str t.candidate), (text "current_before", optionalText t.currentBefore),
    (text "previous_before", optionalText t.previousBefore),
    (text "rollback_authority_retired", .bool t.rollbackAuthorityRetired),
    (text "host_artifacts", .arr (t.hostArtifacts.map HostArtifact.value)),
    (text "host_profile", optionalText (t.hostProfile.map HostProfile.name)),
    (text "native_boundary", boundaryValue t.nativeBoundary),
    (text "consumer_enable", .arr (t.consumerEnable.map .str)),
    (text "consumer_active_before", .arr (t.consumerActiveBefore.map .str)),
    (text "consumer_baseline", .arr (t.consumerBaseline.map ConsumerBaseline.value)),
    (text "consumer_rollback_plan", .arr (t.consumerRollbackPlan.map .str)),
    (text "consumer_mutation_armed", .bool t.consumerMutationArmed),
    (text "daemon_mutation_started", .bool t.daemonMutationStarted),
    (text "consumer_start", .arr (t.consumerStart.map .str)),
    (text "rollback_restored", .bool t.rollbackRestored),
    (text "candidate_bytes", .int t.candidateBytes), (text "reserve_bytes", .int t.reserveBytes),
    (text "created_at", .str t.createdAt), (text "updated_at", .str t.updatedAt)]

def Transaction.value (t : Transaction) : Value := .obj t.fields

/-! ## The validator -/

def hostPathsForProfile (host : EngineHost) : Option HostProfile → Except JournalError (List Str)
  | none => .ok host.hostArtifactPaths
  | some profile => do
      refuseIf (host.hostArtifactPaths ≠ hostArtifactPaths)
        (refused "named host profiles require the production host allowlist")
      pure (match profile with
        | .common => commonHostArtifactPaths
        | .managedLocal => hostArtifactPaths)

/-- The units of a list that was checked: each once, in the order of `CONSUMER_ENABLE_UNITS`. -/
def validateUnits (value : Value) (message : String) : Except JournalError (List Str) := do
  let items ← orRefuse (asList value) (refused message)
  let units ← orRefuse (items.mapM asText) (refused message)
  refuseIf (¬units.Nodup ∨ units ≠ consumerEnableUnits.filter (· ∈ units)) (refused message)
  pure units

/-- `value is True` or `value is False` -/
def validateMarker (value : Value) (message : String) : Except JournalError Bool :=
  orRefuse (asBool value) (refused message)

/-- What a transaction is about. -/
structure Subject where
  transactionId : Str
  phase : Phase
  candidate : Str
  currentBefore : Option Str
  previousBefore : Option Str
  candidateBytes : Nat
  reserveBytes : Nat
  createdAt : Str
  updatedAt : Str

def validateSubject (value : Fields) : Except JournalError Subject := do
  refuseIf (keysAre value transactionKeys = false)
    (refused "release transaction has an unexpected shape")
  refuseIf ((get value (text "schema")).isText transactionSchema = false)
    (refused "release transaction schema is unsupported")
  let transactionId ← requireUuid (get value (text "transaction_id")) "transaction id"
  let phaseName ← orRefuse (asText (get value (text "phase")))
    (refused "release transaction phase is invalid")
  let phase ← orRefuse (Phase.ofName phaseName) (refused "release transaction phase is invalid")
  let candidate ← digestOf (get value (text "candidate")) "candidate"
  let currentBefore ← requireOptionalDigest (get value (text "current_before")) "current_before"
  let previousBefore ← requireOptionalDigest (get value (text "previous_before")) "previous_before"
  refuseIf (currentBefore = previousBefore ∧ currentBefore ≠ none)
    (refused "current_before and previous_before must differ")
  refuseIf (some candidate = currentBefore) (refused "candidate is already selected as current")
  let candidateBytes ← requireNonNegativeInteger (get value (text "candidate_bytes"))
    "candidate_bytes"
  let reserveBytes ← requireNonNegativeInteger (get value (text "reserve_bytes")) "reserve_bytes"
  let createdAt ← requireTimestamp (get value (text "created_at")) "created_at"
  let updatedAt ← requireTimestamp (get value (text "updated_at")) "updated_at"
  refuseIf (updatedAt < createdAt) (refused "release transaction timestamps are reversed")
  pure { transactionId, phase, candidate, currentBefore, previousBefore, candidateBytes,
         reserveBytes, createdAt, updatedAt }

/-- What a transaction may touch beside the selectors. -/
structure Authority where
  transactionKind : TransactionKind
  hostProfile : Option HostProfile
  rollbackAuthorityRetired : Bool
  hostArtifacts : List HostArtifact
  nativeBoundary : Option NativeBoundary

/-- `host_profile`; a text that is no profile is refused. -/
def validateHostProfile (value : Value) : Except JournalError (Option HostProfile) :=
  match value with
  | .null => .ok none
  | value =>
      (textInSet (fun s => if s = HostProfile.common.name then some HostProfile.common
          else if s = HostProfile.managedLocal.name then some HostProfile.managedLocal else none)
        value (refused "release transaction host profile is invalid")).map some

def expectedHostPaths (host : EngineHost) (hostProfile : Option HostProfile) (retired : Bool) :
    Except JournalError (List Str) :=
  if retired then .ok [] else hostPathsForProfile host hostProfile

def validateAuthority (host : EngineHost) (files : BackupFiles) (value : Fields)
    (subject : Subject) : Except JournalError Authority := do
  let kindName ← orRefuse (asText (get value (text "transaction_kind")))
    (refused "release transaction kind is invalid")
  let transactionKind ← orRefuse (TransactionKind.ofName kindName)
    (refused "release transaction kind is invalid")
  refuseIf (transactionKind = .archive ∧ some subject.candidate = subject.previousBefore)
    (refused "archive transaction cannot reuse retained previous release authority")
  let hostProfile ← validateHostProfile (get value (text "host_profile"))
  let rollbackAuthorityRetired ← validateMarker (get value (text "rollback_authority_retired"))
    "release transaction rollback authority retirement marker is invalid"
  refuseIf (rollbackAuthorityRetired = true ∧ subject.phase ∉ Phase.terminal)
    (refused "nonterminal transaction cannot retire rollback authority")
  let expectedPaths ← expectedHostPaths host hostProfile rollbackAuthorityRetired
  let hostArtifacts ← validateHostArtifactRecords host subject.transactionId expectedPaths
    (get value (text "host_artifacts"))
  hostArtifacts.forM (checkHostBackup host files)
  let nativeBoundary ← validateNativeBoundaryRecord host files subject.transactionId
    (decide (hostProfile = some .managedLocal) && !rollbackAuthorityRetired)
    (get value (text "native_boundary"))
  pure { transactionKind, hostProfile, rollbackAuthorityRetired, hostArtifacts, nativeBoundary }

/-- Which consumers a transaction enables, stops and starts. -/
structure Consumers where
  enable : List Str
  rollbackPlan : List Str
  mutationArmed : Bool
  daemonMutationStarted : Bool
  activeBefore : List Str
  baseline : List ConsumerBaseline
  start : List Str

def validatePlan (authority : Authority) (plan : List Str) : Except JournalError Unit := do
  refuseIf (authority.transactionKind = .archive ∧ ¬(apiUnit ∈ plan ∧ nginxUnit ∈ plan))
    (refused "archive rollback plan must include API and Nginx")
  refuseIf (authority.transactionKind = .nMinusOne ∧ plan ≠ [apiUnit, nginxUnit])
    (refused "N-1 rollback plan is invalid")
  refuseIf (authority.transactionKind ∈ [.legacyBaseline, .selectorOnly] ∧ plan ≠ [])
    (refused "transaction cannot mutate consumers")
  refuseIf (authority.transactionKind = .selectorOnly ∧ authority.hostProfile ≠ none)
    (refused "selector-only transactions cannot own production host artifacts")

def validateConsumers (host : EngineHost) (files : BackupFiles) (value : Fields)
    (subject : Subject) (authority : Authority) : Except JournalError Consumers := do
  let enable ← validateUnits (get value (text "consumer_enable"))
    "release transaction consumer enable intent is invalid"
  let rollbackPlan ← validateUnits (get value (text "consumer_rollback_plan"))
    "release transaction rollback consumer plan is invalid"
  validatePlan authority rollbackPlan
  let mutationArmed ← validateMarker (get value (text "consumer_mutation_armed"))
    "release transaction consumer mutation marker is invalid"
  refuseIf (mutationArmed = false ∧ (truthy (get value (text "consumer_active_before")) = true
      ∨ truthy (get value (text "consumer_baseline")) = true))
    (refused "unarmed release transaction contains baseline consumer state")
  let daemonMutationStarted ← validateMarker (get value (text "daemon_mutation_started"))
    "release transaction daemon mutation marker is invalid"
  let activeBefore ← validateUnits (get value (text "consumer_active_before"))
    "release transaction baseline consumer state is invalid"
  refuseIf (∃ unit ∈ activeBefore, unit ∉ rollbackPlan)
    (refused "release transaction baseline consumer state is invalid")
  let baseline ← validateConsumerBaselineRecords host files subject.transactionId activeBefore
    (get value (text "consumer_baseline"))
  let start ← validateUnits (get value (text "consumer_start"))
    "release transaction consumer start intent is invalid"
  refuseIf (∃ unit ∈ start, unit ∉ enable)
    (refused "release transaction consumer start intent is invalid")
  refuseIf (authority.hostProfile ≠ some .managedLocal ∧ (daemonUnit ∈ enable ∨ daemonUnit ∈ start
      ∨ daemonUnit ∈ rollbackPlan ∨ daemonUnit ∈ activeBefore))
    (refused "external-daemon host profile cannot own daemon consumer intent")
  refuseIf (daemonMutationStarted = true ∧ (authority.transactionKind ≠ .archive
      ∨ authority.hostProfile ≠ some .managedLocal ∨ daemonUnit ∉ rollbackPlan
      ∨ authority.rollbackAuthorityRetired = true ∨ subject.phase ∉ Phase.daemonMutation
      ∨ (mutationArmed = false ∧ subject.phase ≠ .rolledBack)))
    (refused "daemon mutation marker escaped managed archive rollback authority")
  pure { enable, rollbackPlan, mutationArmed, daemonMutationStarted, activeBefore, baseline, start }

/-- The rules of the restored marker and of a transaction that was retired. -/
def validateRestored (value : Fields) (subject : Subject) (authority : Authority)
    (consumers : Consumers) : Except JournalError Bool := do
  let restored ← validateMarker (get value (text "rollback_restored"))
    "release transaction rollback restoration marker is invalid"
  refuseIf (restored = true ∧ subject.phase ∉ [.startingBaselineConsumers, .rolledBack])
    (refused "release transaction claims rollback restoration too early")
  refuseIf (authority.rollbackAuthorityRetired = true ∧ (authority.hostArtifacts ≠ []
      ∨ authority.nativeBoundary ≠ none ∨ consumers.enable ≠ [] ∨ consumers.start ≠ []
      ∨ consumers.activeBefore ≠ [] ∨ consumers.baseline ≠ [] ∨ consumers.mutationArmed = true
      ∨ consumers.daemonMutationStarted = true ∨ restored = true))
    (refused "retired terminal transaction retained rollback-only authority")
  pure restored

def validateTransaction (host : EngineHost) (files : BackupFiles) (value : Fields) :
    Except JournalError Transaction := do
  let subject ← validateSubject value
  let authority ← validateAuthority host files value subject
  let consumers ← validateConsumers host files value subject authority
  let rollbackRestored ← validateRestored value subject authority consumers
  pure {
    transactionId := subject.transactionId
    transactionKind := authority.transactionKind
    phase := subject.phase
    candidate := subject.candidate
    currentBefore := subject.currentBefore
    previousBefore := subject.previousBefore
    rollbackAuthorityRetired := authority.rollbackAuthorityRetired
    hostArtifacts := authority.hostArtifacts
    hostProfile := authority.hostProfile
    nativeBoundary := authority.nativeBoundary
    consumerEnable := consumers.enable
    consumerActiveBefore := consumers.activeBefore
    consumerBaseline := consumers.baseline
    consumerRollbackPlan := consumers.rollbackPlan
    consumerMutationArmed := consumers.mutationArmed
    daemonMutationStarted := consumers.daemonMutationStarted
    consumerStart := consumers.start
    rollbackRestored
    candidateBytes := subject.candidateBytes
    reserveBytes := subject.reserveBytes
    createdAt := subject.createdAt
    updatedAt := subject.updatedAt }

/-! ## Writing and reading -/

def HostArtifact.integers : HostArtifact → List Nat
  | .absent _ => []
  | .file _ _ uid gid mode size _ => [uid, gid, mode, size]
  | .symlink _ uid gid mode size _ _ => [uid, gid, mode, size]

def NativeBoundary.integers (record : NativeBoundary) : List Nat := [record.helperSize, record.size]

def ConsumerBaseline.integers : ConsumerBaseline → List Nat
  | .nginx _ responseSize _ => [responseSize]
  | _ => []

def Transaction.integers (t : Transaction) : List Nat :=
  t.candidateBytes :: t.reserveBytes :: (t.hostArtifacts.flatMap HostArtifact.integers
    ++ t.nativeBoundary.toList.flatMap NativeBoundary.integers
    ++ t.consumerBaseline.flatMap ConsumerBaseline.integers)

/-- The bytes of a journal. `str` refuses an integer of more than 4300 digits. -/
def journalContent (t : Transaction) : Except JournalError Bytes := do
  refuseIf (∃ n ∈ t.integers, 4300 < (decimal n).length) (.refusal .value)
  let content ← (canonicalJsonBytes t.value).mapError .refusal
  pure (content ++ [10])

/-- The content that `_write_transaction` writes. -/
def encodeTransaction (host : EngineHost) (files : BackupFiles) (value : Fields) :
    Except JournalError Bytes := do
  let t ← validateTransaction host files value
  journalContent t

/-- What `_load_transaction` makes of the content of the journal. The file is as the engine
creates it: regular, of its own user, with mode 0600 and one link. -/
def decodeTransaction (host : EngineHost) (files : BackupFiles) (content : Bytes) :
    Except JournalError Transaction := do
  refuseIf (content.length < 2 ∨ maxTransactionBytes < content.length)
    (refused "release transaction size is invalid")
  let parsed ← (strictJsonLoadsOf "release transaction" content).mapError .refusal
  let value ← orRefuse (asDict parsed) (refused "release transaction root must be an object")
  validateTransaction host files value

end TrexWebui.ReleaseEngine
