import TrexWebui.ConfigAuditLog
import TrexWebui.IpAddressTexts

/-!
# The calls that leave a record

`daemon_trex_start` and `daemon_config_version_restore` up to the record that they write. What
the daemon answers, what the file system does and what the clock says are given with a call.
Each step either goes on or ends the call with the blocker that it reports.
-/

namespace TrexWebui.ConfigAudit

open PyStr PyJson PyMethods JsonLines Checks Sha2 PosixPath

/-! ## The environment -/

/-- The fields of `TrexEnvironment` that are read, and whether some are in
`configuration_errors`. -/
structure Environment where
  host : Str
  hostError : Bool
  daemonPort : Int
  daemonPortError : Bool
  configPath : Str
  daemonLog : Str
  requireConfirmation : Bool
  commandTimeoutSeconds : Int
  commandTimeoutError : Bool

/-- A label of `HOSTNAME_PATTERN`. -/
def IsHostLabel (s : Str) : Prop :=
  s ≠ [] ∧ s.length ≤ 63 ∧ (∀ c ∈ s, IsSlug c ∧ c ≠ 95 ∧ c ≠ 46)
    ∧ s.head? ≠ some 45 ∧ s.getLast? ≠ some 45

instance (s : Str) : Decidable (IsHostLabel s) := inferInstanceAs (Decidable (_ ∧ _ ∧ _ ∧ _ ∧ _))

/-- `HOSTNAME_PATTERN` -/
def IsHostname (s : Str) : Prop :=
  1 ≤ s.length ∧ s.length ≤ 253 ∧ ∀ label ∈ s.splitOn stop, IsHostLabel label

instance (s : Str) : Decidable (IsHostname s) := inferInstanceAs (Decidable (_ ∧ _ ∧ _))

/-- `trex_host_error(value) is None` -/
def IsTrexHost (value : Str) : Prop :=
  ¬(strip value = [] ∨ value ≠ strip value ∨ 0 ∈ value)
    ∧ ¬(text "://" <:+: value ∨ slash ∈ value ∨ 64 ∈ value)
    ∧ ¬(value.head? = some 91 ∨ value.getLast? = some 93)
    ∧ ((IpAddressTexts.ipv4Address value).isSome ∨ (IpAddressTexts.ipv6Address value).isSome
        ∨ colon ∉ value ∧ IsHostname value)

instance (value : Str) : Decidable (IsTrexHost value) :=
  inferInstanceAs (Decidable (_ ∧ _ ∧ _ ∧ _))

/-- `is_clean_absolute_local_path` of a path. -/
def IsCleanAbsolutePath (path : Str) : Prop :=
  strip path ≠ [] ∧ path = strip path ∧ 0 ∉ path ∧ path.head? = some slash

instance (path : Str) : Decidable (IsCleanAbsolutePath path) :=
  inferInstanceAs (Decidable (_ ∧ _ ∧ _ ∧ _))

/-- `path.parent` -/
def parentOf (path : Str) : Str :=
  let parent := (path.rdropWhile (· ≠ slash)).dropLast
  if parent = [] then [slash] else parent

/-! ## Calls of the daemon -/

/-- What a request of the daemon comes back with. A result was read from JSON. -/
inductive RpcAnswer where
  | timeout
  | failed
  | error
  | result (value : Value) (loaded : Loaded value)

inductive RpcError where
  | hostInvalid
  | portInvalid
  | timeoutInvalid
  | timeout
  | failed
  deriving DecidableEq

def RpcError.blocker : RpcError → String
  | .hostInvalid => "daemon_host_invalid"
  | .portInvalid => "daemon_port_invalid"
  | .timeoutInvalid => "daemon_rpc_timeout_invalid"
  | .timeout => "daemon_rpc_timeout"
  | .failed => "daemon_rpc_failed"

/-- `daemon_rpc_call`; `none` is a response with an error. -/
def daemonRpcCall (env : Environment) (timeoutSeconds : Option Int) (answer : RpcAnswer) :
    Except RpcError (Option Value) := do
  refuseIf (env.hostError ∨ ¬IsTrexHost env.host) .hostInvalid
  refuseIf (env.daemonPortError ∨ ¬(1 ≤ env.daemonPort ∧ env.daemonPort ≤ 65535)) .portInvalid
  let selected := timeoutSeconds.getD env.commandTimeoutSeconds
  refuseIf (timeoutSeconds = none ∧ env.commandTimeoutError) .timeoutInvalid
  refuseIf (¬(1 ≤ selected ∧ selected ≤ 600)) .timeoutInvalid
  match answer with
  | .timeout => .error .timeout
  | .failed => .error .failed
  | .error => .ok none
  | .result value _ => .ok (some value)

/-- The result of a call, where an exception and an error end the caller. -/
def rpcResult (env : Environment) (timeoutSeconds : Option Int) (answer : RpcAnswer)
    (blocker : String) : Except String Value :=
  match daemonRpcCall env timeoutSeconds answer with
  | .error e => .error e.blocker
  | .ok none => .error blocker
  | .ok (some value) => .ok value

/-! ## Contents and versions -/

def invalidGeneratedPrefix : Str := text "### errors in config"

def isInvalidGeneratedConfigPreview (value : Str) : Bool :=
  let stripped := value.dropWhile fun c => IsSpace c
  decide (stripped ≠ []) && invalidGeneratedPrefix.isPrefixOf ((splitlines stripped).headD [])

def daemonConfigVersionContentBytes (content : Str) : Except String Bytes := do
  refuseIf (0 ∈ content) "daemon_config_content_invalid"
  refuseIf (strip content = []) "daemon_config_content_missing"
  refuseIf (isInvalidGeneratedConfigPreview content) "daemon_config_content_invalid_generated"
  let bytes ← orRefuse (encode content) "daemon_config_encode_failed"
  refuseIf (1048576 < bytes.length) "daemon_config_content_too_large"
  pure bytes

/-- The content given, or else that of the configuration file with whether it is cut off. -/
def contentOr (content : Option Str) (snapshot : Except String (Str × Bool)) :
    Except String Str :=
  match content with
  | some content => .ok content
  | none => do
      let (content, truncated) ← snapshot
      refuseIf truncated "daemon_config_content_too_large"
      pure content

/-- `ensure_daemon_config_versions_root`; the blocker is that of the directory. -/
def ensureRoot (env : Environment) (root : Option String) : Except String Unit :=
  if IsCleanAbsolutePath env.daemonLog then
    match root with
    | some blocker => .error blocker
    | none => .ok ()
  else .error "daemon_config_version_root_invalid"

/-- What the clock and the file system do for a version that is saved. -/
structure SaveAnswers where
  root : Option String
  stamp : Str
  writeError : Option String
  readable : Bool

structure VersionRecord where
  name : Str
  sha256 : Str

/-- `daemon_config_version_record` of a file that can be read. -/
def daemonConfigVersionRecord (name : Str) (bytes : Bytes) : Option VersionRecord :=
  if 1048576 < bytes.length then none
  else (cleanDaemonConfigVersionName (.str name)).map fun name => ⟨name, hexdigest bytes⟩

/-- `None`, or the error. -/
def orBlocker (blocker : Option String) : Except String Unit :=
  match blocker with
  | some blocker => .error blocker
  | none => .ok ()

def daemonConfigVersionSave (env : Environment) (answers : SaveAnswers) (source note : Str)
    (content : Except String Str) : Except String (Option VersionRecord) := do
  refuseIf (0 ∈ note ∨ 240 < note.length) "daemon_config_version_note_invalid"
  ensureRoot env answers.root
  let content ← content
  let bytes ← daemonConfigVersionContentBytes content
  orBlocker answers.writeError
  let name := answers.stamp ++ 45 :: (source ++ 45 :: ((hexdigest bytes).take 12 ++ text ".yaml"))
  pure (if answers.readable then daemonConfigVersionRecord name bytes else none)

def underBlocker {α : Type} (blocker : String) (m : Except String α) : Except String α :=
  m.mapError fun _ => blocker

/-! ## The clock -/

structure Moment where
  year : Nat
  month : Nat
  day : Nat
  hour : Nat
  minute : Nat
  second : Nat
  microsecond : Nat

def padded : (width n : Nat) → Str
  | 0, _ => []
  | width + 1, n => padded width (n / 10) ++ [48 + n % 10]

/-- `datetime.now(timezone.utc).isoformat()` -/
def Moment.isoformat (m : Moment) : Str :=
  padded 4 m.year ++ 45 :: padded 2 m.month ++ 45 :: padded 2 m.day ++ 84 :: padded 2 m.hour
    ++ 58 :: padded 2 m.minute ++ 58 :: padded 2 m.second
    ++ (if m.microsecond = 0 then [] else 46 :: padded 6 m.microsecond) ++ text "+00:00"

/-! ## Starting TRex -/

def trexWebui : Str := text "trex-webui"

/-- `daemon_user` of what `getpass.getuser` returns. -/
def daemonUser (systemUser : Str) : Str :=
  let user := strip (if systemUser = [] then trexWebui else systemUser)
  if user = [] then trexWebui else user

def daemonConfigFilename (user : Str) : Str :=
  let filename := user.map fun c => if IsSlug c then c else 95
  if filename = [] ∨ ∀ c ∈ filename, c = 46 then trexWebui else filename

def daemonStartConfigFilename (user : Str) (content : Bytes) : Str :=
  daemonConfigFilename user ++ 45 :: ((hexdigest content).take 12 ++ text ".yaml")

/-- `posixpath.join(directory, name)` -/
def joinPath (directory name : Str) : Str :=
  if name.head? = some slash then name
  else if directory = [] ∨ directory.getLast? = some slash then directory ++ name
  else directory ++ slash :: name

/-- `DAEMON_START_RPC_GRACE_SECONDS` and `DAEMON_START_RECONCILIATION_RPC_TIMEOUT_SECONDS` -/
def graceSeconds : Int := 5

def configuredTimeout (env : Environment) (default : Int) : Int :=
  if 1 ≤ env.commandTimeoutSeconds ∧ env.commandTimeoutSeconds ≤ 600 then env.commandTimeoutSeconds
  else default

def daemonStartRpcTimeoutSeconds (env : Environment) (startTimeout : Int) : Int :=
  min 600 (max (configuredTimeout env 1) (startTimeout + graceSeconds))

/-- A token `--cfg` with the path behind it, or `--cfg=` and the path. -/
def tokensUse (path : Str) : (tokens : List Str) → Bool
  | [] => false
  | token :: tokens =>
      decide (token = text "--cfg" ∧ tokens.head? = some path)
        || decide (token = text "--cfg=" ++ path) || tokensUse path tokens

def daemonCommandUsesConfig (command path : Str) : Bool :=
  match shlexSplit command with
  | some tokens => tokensUse path tokens
  | none => false

/-- `is_trex_pid_string` of a text. -/
def IsPidText (s : Str) : Prop :=
  IsCleanText s ∧ (∀ c ∈ s, isDigit c = true) ∧ ∃ c ∈ s, c ≠ 48

instance (s : Str) : Decidable (IsPidText s) := inferInstanceAs (Decidable (_ ∧ _ ∧ _))

/-- The command of a pair that `is_trex_command_pair_list` accepts. -/
def commandOf : Value → Option Str
  | .arr [.str pid, .str command] => if IsPidText pid ∧ IsCleanText command then some command else none
  | _ => none

def commandsOf : Value → Option (List Str)
  | .arr entries => entries.mapM commandOf
  | _ => none

/-- What the daemon answers after a start timed out. The last is what `daemon_file_content` and the
decoding of its result make of the uploaded file. -/
structure ReconciliationAnswers where
  isRunning : RpcAnswer
  runningStatus : RpcAnswer
  trexCmds : RpcAnswer
  remoteConfig : Except String Bytes

structure Reconciliation where
  status : Value
  matchedCommand : Str
  expectedSha256 : Str
  observedSha256 : Str

def Reconciliation.fields (r : Reconciliation) : Fields :=
  [(text "running", .bool true), (text "status", r.status),
    (text "matched_command", .str r.matchedCommand),
    (text "expected_config_sha256", .str r.expectedSha256),
    (text "observed_config_sha256", .str r.observedSha256)]

/-- `daemon_trex_runtime_status`: whether TRex is running, its status and its commands. -/
def daemonTrexRuntimeStatus (env : Environment) (timeout : Int) (answers : ReconciliationAnswers) :
    Except String (Value × Value × List Str) := do
  let running ← rpcResult env (some timeout) answers.isRunning "daemon_rpc_error"
  refuseIf (¬(running.isBool true ∨ running.isBool false)) "daemon_running_result_invalid"
  let status ← rpcResult env (some timeout) answers.runningStatus "daemon_running_status_failed"
  refuseIf (isTrexRunningStatus status = false) "daemon_running_status_result_invalid"
  let result ← rpcResult env (some timeout) answers.trexCmds "daemon_trex_cmds_failed"
  let commands ← orRefuse (commandsOf result) "daemon_trex_cmds_result_invalid"
  pure (running, status, commands)

def daemonTrexStartReconciliation (env : Environment) (answers : ReconciliationAnswers)
    (configPath sha256 : Str) : Except String Reconciliation := do
  let timeout := min (configuredTimeout env graceSeconds) graceSeconds
  let (running, status, commands) ← underBlocker "daemon_start_reconciliation_status_failed"
    (daemonTrexRuntimeStatus env timeout answers)
  refuseIf (¬(running.isBool true ∧ isStatusIn [3] status))
    "daemon_start_reconciliation_not_running"
  let command ← orRefuse (commands.find? (daemonCommandUsesConfig · configPath))
    "daemon_start_reconciliation_command_mismatch"
  let remote ← underBlocker "daemon_start_reconciliation_config_unavailable" answers.remoteConfig
  refuseIf (hexdigest remote ≠ sha256) "daemon_start_reconciliation_config_hash_mismatch"
  pure { status, matchedCommand := command, expectedSha256 := sha256,
         observedSha256 := hexdigest remote }

structure StartCall where
  env : Environment
  systemUser : Str
  confirmation : Option Str
  timeoutSeconds : Option Int
  configContent : Option Str
  snapshot : Except String (Str × Bool)
  save : SaveAnswers
  pushFile : RpcAnswer
  filesPath : RpcAnswer
  lifecycle : Option String
  startTrex : RpcAnswer
  reconciliation : ReconciliationAnswers
  createdAt : Moment

/-- How a start ended well: with a sequence, or found running after it timed out. -/
inductive Started where
  | sequence (n : Int)
  | recovered (reconciliation : Reconciliation)

/-- The entries `sequence`, `recovered_from_timeout` and `reconciliation` of a record. -/
def Started.entries : Started → Fields
  | .sequence n =>
      [(text "sequence", .int n), (text "recovered_from_timeout", .bool false),
        (text "reconciliation", .null)]
  | .recovered r =>
      [(text "sequence", .null), (text "recovered_from_timeout", .bool true),
        (text "reconciliation", .obj r.fields)]

namespace StartCall

def user (call : StartCall) : Str := daemonUser call.systemUser

/-- The call of `start_trex`, and what becomes of its answer. -/
def start (call : StartCall) (cfg sha256 : Str) (timeout : Int) : Except String Started :=
  let rpcTimeout := daemonStartRpcTimeoutSeconds call.env timeout
  match daemonRpcCall call.env (some rpcTimeout) call.startTrex with
  | .error .timeout =>
      underBlocker "daemon_rpc_timeout"
        ((daemonTrexStartReconciliation call.env call.reconciliation cfg sha256).map .recovered)
  | .error e => .error e.blocker
  | .ok none => .error "daemon_start_trex_failed"
  | .ok (some (.int n)) => if n < 1 then .error "daemon_start_sequence_invalid" else .ok (.sequence n)
  | .ok (some _) => .error "daemon_start_sequence_invalid"

def readFilesPath (call : StartCall) : Except String Str := do
  let result ← rpcResult call.env none call.filesPath "daemon_files_path_unavailable"
  match result with
  | .str filesPath =>
      if IsFilesPath filesPath then .ok filesPath else .error "daemon_files_path_unavailable"
  | _ => .error "daemon_files_path_unavailable"

def upload (call : StartCall) : Except String Unit := do
  let result ← rpcResult call.env none call.pushFile "daemon_config_upload_failed"
  match result with
  | .bool true => .ok ()
  | .bool false => .error "daemon_config_upload_failed"
  | _ => .error "daemon_config_upload_result_invalid"

/-- The checks of the request: the confirmation, the user and the timeout, which is returned. -/
def checkRequest (call : StartCall) : Except String Int := do
  refuseIf (call.env.requireConfirmation ∧ call.confirmation ≠ some (text "start-trex"))
    "confirmation_required"
  refuseIf (128 < call.user.length) "daemon_start_user_too_long"
  refuseIf (0 ∈ call.user) "daemon_start_user_invalid"
  refuseIf (call.timeoutSeconds = none ∧ call.env.commandTimeoutError) "daemon_start_timeout_invalid"
  let timeout := call.timeoutSeconds.getD call.env.commandTimeoutSeconds
  refuseIf (timeout < 1 ∨ 600 < timeout) "daemon_start_timeout_invalid"
  pure timeout

def auditRecord (call : StartCall) (version : VersionRecord) (filename filesPath : Str)
    (started : Started) : Fields :=
  [(text "action", .str (text "start")),
    (text "created_at", .str call.createdAt.isoformat),
    (text "config_path", .str (joinPath filesPath filename)),
    (text "version_name", .str version.name),
    (text "version_sha256", .str version.sha256)]
  ++ started.entries
  ++ [(text "config_filename", .str filename), (text "files_path", .str filesPath),
    (text "user", .str call.user), (text "host", .str call.env.host),
    (text "daemon_port", .int call.env.daemonPort)]

/-- `daemon_trex_start` up to its record, which there is none of where the saved version could not be
read again. -/
def record (call : StartCall) : Except String (Option Fields) := do
  let timeout ← call.checkRequest
  let content ← contentOr call.configContent call.snapshot
  let bytes ← daemonConfigVersionContentBytes content
  let filename := daemonStartConfigFilename call.user bytes
  let version ← underBlocker "daemon_config_backup_failed"
    (daemonConfigVersionSave call.env call.save (text "start")
      (text "pre-start upload " ++ filename) (.ok content))
  call.upload
  let filesPath ← call.readFilesPath
  orBlocker call.lifecycle
  let started ← call.start (joinPath filesPath filename) (hexdigest bytes) timeout
  pure (version.map fun version => call.auditRecord version filename filesPath started)

end StartCall

/-! ## Restoring a version -/

structure RestoreCall where
  env : Environment
  name : Value
  confirmation : Option Str
  root : Option String
  stored : Except String Bytes
  parentExists : Bool
  configInvalid : Bool
  configExists : Bool
  snapshot : Except String (Str × Bool)
  save : SaveAnswers
  writeError : Option String
  createdAt : Moment

namespace RestoreCall

/-- `daemon_config_version_load`: the name and the content of the version. -/
def load (call : RestoreCall) : Except String (Str × Str) := do
  let name ← orRefuse (cleanDaemonConfigVersionName call.name) "daemon_config_version_name_invalid"
  ensureRoot call.env call.root
  let bytes ← call.stored
  refuseIf (1048576 < bytes.length) "daemon_config_version_too_large"
  let content ← orRefuse (decode bytes) "daemon_config_version_decode_failed"
  refuseIf (0 ∈ content) "daemon_config_version_invalid"
  pure (name, content)

/-- The copy of the configuration that is replaced, if there is one. -/
def backup (call : RestoreCall) (name : Str) : Except String (Option VersionRecord) :=
  if call.configExists then
    underBlocker "daemon_config_restore_backup_failed"
      (daemonConfigVersionSave call.env call.save (text "restore_before")
        (text "before restore " ++ name) (contentOr none call.snapshot))
  else .ok none

def auditRecord (call : RestoreCall) (name : Str) (content : Bytes)
    (before : Option VersionRecord) : Fields :=
  [(text "action", .str (text "restore")),
    (text "created_at", .str call.createdAt.isoformat),
    (text "config_path", .str call.env.configPath),
    (text "restored_name", .str name),
    (text "restored_sha256", .str (hexdigest content)),
    (text "before_name", match before with
      | some version => .str version.name
      | none => .null),
    (text "host", .str call.env.host),
    (text "daemon_port", .int call.env.daemonPort)]

/-- `daemon_config_version_restore` up to its record. -/
def record (call : RestoreCall) : Except String (Option Fields) := do
  refuseIf (call.env.requireConfirmation ∧ call.confirmation ≠ some (text "restore-config"))
    "confirmation_required"
  let (name, content) ← call.load
  refuseIf (¬IsCleanAbsolutePath call.env.configPath) "config_path_invalid"
  refuseIf (¬IsCleanAbsolutePath (parentOf call.env.configPath)) "config_path_invalid"
  refuseIf (call.parentExists = false) "config_parent_missing"
  refuseIf call.configInvalid "config_path_invalid"
  let bytes ← daemonConfigVersionContentBytes content
  let before ← call.backup name
  orBlocker call.writeError
  pure (some (call.auditRecord name bytes before))

end RestoreCall

end TrexWebui.ConfigAudit
