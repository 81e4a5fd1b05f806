import TrexWebui.PyMethods
import TrexWebui.ReleaseStore

/-!
# The records of a release journal

The journal of a release transaction lists what the transaction may have to
put back: the host artifacts, the native boundary and the consumers that ran
before it. Each record refers to backups under the state root, and its
validator reads them. A record that passed is a value of a type of its own,
and `value` is the dictionary that it came from.
-/

namespace TrexWebui.ReleaseEngine

open PyStr PyJson PyMethods PosixPath Sha2 Checks

/-! ## Names and limits -/

/-- An exception. The script's own is a `refusal`; a list or a dictionary raises a `TypeError`
where it is looked up in a set, and an unknown unit a `KeyError`. -/
inductive JournalError where
  | refusal (e : Refusal)
  | type
  | key
  deriving DecidableEq, Repr

/-- `ReleaseTransactionError(text)` -/
def refused (message : String) : JournalError := .refusal (.error message)

def maxHostArtifactBytes : Nat := 16 * 1024 * 1024

def daemonUnit : Str := text "trex-daemon-server.service"
def apiUnit : Str := text "trex-webui-api.service"
def nginxUnit : Str := text "nginx.service"

def consumerEnableUnits : List Str := [daemonUnit, apiUnit, nginxUnit]

inductive HostProfile where
  | common
  | managedLocal
  deriving DecidableEq, Repr

def HostProfile.name : HostProfile → Str
  | .common => text "common"
  | .managedLocal => text "managed-local"

def hostArtifactPaths : List Str :=
  [text "/etc/nginx/conf.d/trex-webui.conf", text "/etc/systemd/system/trex-webui-api.service",
    text "/etc/systemd/system/trex-daemon-server.service",
    text "/etc/logrotate.d/trex-daemon-server",
    text "/usr/libexec/trex-webui/trex_daemon_supervisor.py",
    text "/usr/libexec/trex-webui/daemon_rpc_probe.py",
    text "/usr/libexec/trex-webui/trex_native_boundary.sh",
    text "/etc/systemd/system/nftables.service.d/trex-webui-native-boundary.conf",
    text "/etc/trex-webui/trex-webui.env"]

def commonHostArtifactPaths : List Str :=
  [text "/etc/nginx/conf.d/trex-webui.conf", text "/etc/systemd/system/trex-webui-api.service",
    text "/etc/trex-webui/trex-webui.env"]

/-- What the validator knows of its engine. The constructor refuses a path that stands twice. -/
structure EngineHost where
  expectedUid : Nat
  hostArtifactPaths : List Str
  distinct : hostArtifactPaths.Nodup

/-! ## Values -/

def textInSet {α : Type} (lookup : Str → Option α) (value : Value) (e : JournalError) :
    Except JournalError α :=
  match value with
  | .str s => orRefuse (lookup s) e
  | .arr _ => .error .type
  | .obj _ => .error .type
  | _ => .error e

def requireNonNegativeInteger (value : Value) (label : String) : Except JournalError Nat :=
  match value with
  | .int n =>
      if 0 ≤ n then .ok n.toNat
      else .error (.refusal (.error "must be a non-negative integer" (text label)))
  | _ => .error (.refusal (.error "must be a non-negative integer" (text label)))

/-- A UUID as `str` writes it. -/
def IsUuid (s : Str) : Prop :=
  (s.splitOn minus).map List.length = [8, 4, 4, 4, 12] ∧ ∀ c ∈ s, c = minus ∨ isLowerHex c = true

instance (s : Str) : Decidable (IsUuid s) := inferInstanceAs (Decidable (_ ∧ _))

def requireUuid (value : Value) (label : String) : Except JournalError Str :=
  (textWith IsUuid value (.error "must be a canonical UUID" (text label))).mapError .refusal

def digestOf (value : Value) (label : String) : Except JournalError Str :=
  (requireDigest value label).mapError .refusal

def requireOptionalDigest (value : Value) (label : String) : Except JournalError (Option Str) :=
  match value with
  | .null => .ok none
  | value => (digestOf value label).map some

def daysInMonth (year month : Nat) : Nat :=
  if month = 2 then
    if year % 4 = 0 ∧ (year % 100 ≠ 0 ∨ year % 400 = 0) then 29 else 28
  else if month ∈ [4, 6, 9, 11] then 30 else 31

def digitsAt (s : Str) (start count : Nat) : Nat := ofDecimal ((s.drop start).take count)

/-- `YYYY-MM-DDTHH:MM:SSZ`, of a date and a time that there are. -/
def IsTimestamp (s : Str) : Prop :=
  s.length = 20
    ∧ (∀ i < 20, i ∉ [4, 7, 10, 13, 16, 19] → isDigit (s.getD i 0) = true)
    ∧ s.getD 4 0 = minus ∧ s.getD 7 0 = minus ∧ s.getD 10 0 = 84 ∧ s.getD 13 0 = colon
    ∧ s.getD 16 0 = colon ∧ s.getD 19 0 = 90
    ∧ 1 ≤ digitsAt s 0 4 ∧ (1 ≤ digitsAt s 5 2 ∧ digitsAt s 5 2 ≤ 12)
    ∧ (1 ≤ digitsAt s 8 2 ∧ digitsAt s 8 2 ≤ daysInMonth (digitsAt s 0 4) (digitsAt s 5 2))
    ∧ digitsAt s 11 2 ≤ 23 ∧ digitsAt s 14 2 ≤ 59 ∧ digitsAt s 17 2 ≤ 59

instance (s : Str) : Decidable (IsTimestamp s) :=
  inferInstanceAs (Decidable (_ ∧ _ ∧ _ ∧ _ ∧ _ ∧ _ ∧ _ ∧ _ ∧ _ ∧ _ ∧ _ ∧ _ ∧ _ ∧ _))

def requireTimestamp (value : Value) (label : String) : Except JournalError Str :=
  (textWith IsTimestamp value (.error "must be a canonical UTC timestamp" (text label))).mapError
    .refusal

/-- `bool(value)`. A literal that is too small for a float counts as true. -/
def truthy : Value → Bool
  | .null => false
  | .bool b => b
  | .int n => n ≠ 0
  | .float literal =>
      (literal.takeWhile fun c => c ≠ 101 && c ≠ 69).any fun c =>
        49 ≤ c && c ≤ 57 || c = 73 || c = 78
  | .str s => s ≠ []
  | .arr items => !items.isEmpty
  | .obj fields => !fields.isEmpty

/-- `item.get(key) is not None` for some of the keys. -/
def someGiven (fields : Fields) (keys : List Str) : Bool :=
  keys.any fun key => !(get fields key).isNull

/-- `f"{n:0{width}d}"` -/
def zeroPadded (width n : Nat) : Str :=
  List.replicate (width - (decimal n).length) 48 ++ decimal n

/-- `os.fsencode(s)` -/
def fsencode (s : Str) : Option Bytes :=
  if ∀ c ∈ s, Scalar c ∨ 0xDC80 ≤ c ∧ c ≤ 0xDCFF then
    some (s.flatMap fun c => if Scalar c then encodePoint c else [UInt8.ofNat (c - 0xDC00)])
  else none

/-! ## Backups -/

abbrev BackupFiles := Str → Option Node

/-- `host-artifacts-<id>` -/
def hostSnapshotRoot (transactionId : Str) : Str := text "host-artifacts-" ++ transactionId

def hostArtifactBackup (transactionId : Str) (index : Nat) : Str :=
  hostSnapshotRoot transactionId ++ slash :: (zeroPadded 4 index ++ text ".bin")

def boundaryBackup (transactionId : Str) : Str :=
  hostSnapshotRoot transactionId ++ slash :: text "native-boundary.snapshot"

def boundaryHelperBackup (transactionId : Str) : Str :=
  hostSnapshotRoot transactionId ++ slash :: text "native-boundary-helper.sh"

def consumerResponseBackup (transactionId : Str) (index : Nat) : Str :=
  hostSnapshotRoot transactionId ++ slash :: (text "consumer-" ++ zeroPadded 2 index ++ text ".bin")

/-- The checks of a backup, and its content. The label begins their texts, and `missing` is what is
raised where there is no such file. -/
def loadBackup (host : EngineHost) (files : BackupFiles) (label : String) (missing : JournalError)
    (limit : Option Nat) (backup : Str) (size : Nat) (digest : Str) : Except JournalError Bytes := do
  refuseIf (root backup ≠ [] ∨ (names backup).length ≠ 2)
    (refused (label ++ " escaped state root"))
  let node ← orRefuse (files backup) missing
  match node with
  | .file stat content => do
      refuseIf (stat.uid ≠ host.expectedUid ∨ permissions stat.mode ≠ 0o600 ∨ stat.nlink ≠ 1
          ∨ stat.size ≠ size)
        (refused (label ++ " is unsafe"))
      refuseIf (∃ bound, limit = some bound ∧ bound < content.length)
        (refused (label ++ " exceeds the size limit"))
      refuseIf (hexdigest content ≠ digest) (refused (label ++ " digest mismatch"))
      pure content
  | _ => .error (refused (label ++ " is unsafe"))

def loadHostBackup (host : EngineHost) (files : BackupFiles) :
    (backup : Str) → (size : Nat) → (digest : Str) → Except JournalError Bytes :=
  loadBackup host files "host artifact backup" (refused "cannot inspect host artifact backup")
    (some maxHostArtifactBytes)

def loadNativeBoundaryBackup (host : EngineHost) (files : BackupFiles) :
    (backup : Str) → (size : Nat) → (digest : Str) → Except JournalError Bytes :=
  loadBackup host files "native-boundary backup" (.refusal .os) (some maxHostArtifactBytes)

def loadConsumerResponse (host : EngineHost) (files : BackupFiles) :
    (backup : Str) → (size : Nat) → (digest : Str) → Except JournalError Bytes :=
  loadBackup host files "consumer baseline response" (.refusal .os) none

/-! ## Host artifacts -/

/-- What was found at the path of a host artifact. -/
inductive HostArtifact where
  | absent (path : Str)
  | file (path backup : Str) (uid gid mode size : Nat) (sha256 : Str)
  | symlink (path : Str) (uid gid mode size : Nat) (sha256 symlinkTarget : Str)
  deriving DecidableEq

def hostArtifactFields (path kind : Str) (backup uid gid mode : Value) (size : Nat)
    (sha256 symlinkTarget : Value) : Fields :=
  [(text "path", .str path), (text "kind", .str kind), (text "backup", backup),
    (text "uid", uid), (text "gid", gid), (text "mode", mode), (text "size", .int size),
    (text "sha256", sha256), (text "symlink_target", symlinkTarget)]

def HostArtifact.value : HostArtifact → Value
  | .absent path =>
      .obj (hostArtifactFields path (text "absent") .null .null .null .null 0 .null .null)
  | .file path backup uid gid mode size sha256 =>
      .obj (hostArtifactFields path (text "file") (.str backup) (.int uid) (.int gid) (.int mode) size
        (.str sha256) .null)
  | .symlink path uid gid mode size sha256 symlinkTarget =>
      .obj (hostArtifactFields path (text "symlink") .null (.int uid) (.int gid) (.int mode) size
        (.str sha256) (.str symlinkTarget))

def hostArtifactEntryKeys : List Str :=
  [text "path", text "kind", text "backup", text "uid", text "gid", text "mode", text "size",
    text "sha256", text "symlink_target"]

inductive HostArtifactKind where
  | absent
  | file
  | symlink
  deriving DecidableEq

def HostArtifactKind.ofName (s : Str) : Option HostArtifactKind :=
  if s = text "absent" then some .absent
  else if s = text "file" then some .file
  else if s = text "symlink" then some .symlink
  else none

/-- A path that `normpath` leaves as it is, without a part `..`. -/
def IsCanonicalAbsolute (path : Str) : Prop :=
  root path ≠ [] ∧ parts (normpath path) = parts path ∧ dotDot ∉ parts path

instance (path : Str) : Decidable (IsCanonicalAbsolute path) :=
  inferInstanceAs (Decidable (_ ∧ _ ∧ _))

/-- The owner, the group and the permissions of an artifact that is there. -/
def validateOwnership (host : EngineHost) (item : Fields) (kind : HostArtifactKind) :
    Except JournalError (Nat × Nat × Nat) := do
  let uid ← requireNonNegativeInteger (get item (text "uid")) "host artifact uid"
  let gid ← requireNonNegativeInteger (get item (text "gid")) "host artifact gid"
  let mode ← requireNonNegativeInteger (get item (text "mode")) "host artifact mode"
  refuseIf (uid ≠ host.expectedUid ∨ 0o7777 < mode ∨ (kind = .file ∧ mode &&& 0o7022 ≠ 0)
      ∨ (kind = .symlink ∧ mode ≠ 0o777))
    (refused "host artifact journal ownership or mode is unsafe")
  pure (uid, gid, mode)

/-- One record of `_validate_host_artifact_records`. -/
def validateHostArtifact (host : EngineHost) (transactionId : Str) (index : Nat)
    (expectedPath : Str) (value : Value) : Except JournalError HostArtifact := do
  let item ← orRefuse (asDict value) (refused "host artifact journal entry is malformed")
  refuseIf (keysAre item hostArtifactEntryKeys = false)
    (refused "host artifact journal entry is malformed")
  refuseIf ((get item (text "path")).isText expectedPath = false)
    (refused "host artifact journal path is not allowlisted")
  let kind ← textInSet HostArtifactKind.ofName (get item (text "kind"))
    (refused "host artifact journal kind is invalid")
  let size ← requireNonNegativeInteger (get item (text "size")) "host artifact size"
  refuseIf (maxHostArtifactBytes < size) (refused "host artifact journal size is too large")
  match kind with
  | .absent => do
      refuseIf (someGiven item [text "backup", text "uid", text "gid", text "mode", text "sha256",
          text "symlink_target"] = true ∨ size ≠ 0)
        (refused "absent host artifact journal metadata is invalid")
      pure (.absent expectedPath)
  | .file => do
      let (uid, gid, mode) ← validateOwnership host item .file
      let digest ← digestOf (get item (text "sha256")) "host artifact digest"
      let expectedBackup := hostArtifactBackup transactionId index
      refuseIf ((get item (text "backup")).isText expectedBackup = false
          ∨ (get item (text "symlink_target")).isNull = false)
        (refused "host artifact backup authority is invalid")
      pure (.file expectedPath expectedBackup uid gid mode size digest)
  | .symlink => do
      let (uid, gid, mode) ← validateOwnership host item .symlink
      let digest ← digestOf (get item (text "sha256")) "host artifact digest"
      refuseIf ((get item (text "backup")).isNull = false)
        (refused "host artifact symlink authority is invalid")
      let target ← orRefuse (asText (get item (text "symlink_target")))
        (refused "host artifact symlink authority is invalid")
      refuseIf (target = [] ∨ 0 ∈ target ∨ ¬IsCanonicalAbsolute target)
        (refused "host artifact symlink authority is invalid")
      let encoded ← orRefuse (fsencode target) (.refusal .unicodeEncode)
      refuseIf (encoded.length ≠ size ∨ hexdigest encoded ≠ digest)
        (refused "host artifact symlink authority is invalid")
      pure (.symlink expectedPath uid gid mode size digest target)

/-- The loop of `_validate_host_artifact_records`, from one of the records on. -/
def validateHostArtifacts (host : EngineHost) (transactionId : Str) :
    (index : Nat) → (expectedPaths : List Str) → (value : List Value) →
      Except JournalError (List HostArtifact)
  | index, path :: paths, item :: items => do
      let artifact ← validateHostArtifact host transactionId index path item
      let artifacts ← validateHostArtifacts host transactionId (index + 1) paths items
      pure (artifact :: artifacts)
  | _, _, _ => pure []

def validateHostArtifactRecords (host : EngineHost) (transactionId : Str)
    (expectedPaths : List Str) (value : Value) : Except JournalError (List HostArtifact) := do
  let items ← orRefuse (asList value) (refused "release transaction host artifact list is incomplete")
  refuseIf (items.length ≠ expectedPaths.length)
    (refused "release transaction host artifact list is incomplete")
  validateHostArtifacts host transactionId 0 expectedPaths items

def checkHostBackup (host : EngineHost) (files : BackupFiles) :
    HostArtifact → Except JournalError Unit
  | .file _ backup _ _ _ size sha256 => do
      let _ ← loadHostBackup host files backup size sha256
      pure ()
  | _ => pure ()

/-! ## The native boundary -/

inductive BoundaryState where
  | absent
  | managed
  deriving DecidableEq

def BoundaryState.name : BoundaryState → Str
  | .absent => text "absent"
  | .managed => text "managed"

def BoundaryState.ofName (s : Str) : Option BoundaryState :=
  if s = text "absent" then some .absent else if s = text "managed" then some .managed else none

structure NativeBoundary where
  backup : Str
  helperBackup : Str
  helperSha256 : Str
  helperSize : Nat
  sha256 : Str
  size : Nat
  state : BoundaryState
  deriving DecidableEq

def NativeBoundary.fields (record : NativeBoundary) : Fields :=
  [(text "backup", .str record.backup), (text "helper_backup", .str record.helperBackup),
    (text "helper_sha256", .str record.helperSha256), (text "helper_size", .int record.helperSize),
    (text "sha256", .str record.sha256), (text "size", .int record.size),
    (text "state", .str record.state.name)]

def NativeBoundary.value (record : NativeBoundary) : Value := .obj record.fields

def nativeBoundaryEntryKeys : List Str :=
  [text "backup", text "helper_backup", text "helper_sha256", text "helper_size", text "sha256",
    text "size", text "state"]

def nativeBoundaryHeaderPrefix : Str := text "# TRex WebUI native boundary snapshot v1: "

def nativeBoundarySnapshotState (content : Bytes) : Except JournalError BoundaryState := do
  let decoded ← orRefuse (decode content) (refused "native-boundary snapshot is not UTF-8")
  match splitlines decoded with
  | [] => .error (refused "native-boundary snapshot is empty")
  | header :: lines =>
      if header = nativeBoundaryHeaderPrefix ++ text "absent" then do
        refuseIf (lines ≠ []) (refused "absent native-boundary snapshot contains rules")
        pure .absent
      else if header = nativeBoundaryHeaderPrefix ++ text "managed" then do
        let body := [10].intercalate lines
        refuseIf (¬text "table inet trex_webui_native_boundary \x7b" <:+: body
            ∨ ¬text "comment \"Managed by TRex WebUI deploy/install.sh.\"" <:+: body)
          (refused "managed native-boundary snapshot lacks exact ownership authority")
        pure .managed
      else .error (refused "native-boundary snapshot header is invalid")

def validateNativeBoundaryRecord (host : EngineHost) (files : BackupFiles) (transactionId : Str)
    (required : Bool) (value : Value) : Except JournalError (Option NativeBoundary) :=
  if required = false then do
    refuseIf (value.isNull = false)
      (refused "native-boundary authority is outside this host profile")
    pure none
  else do
    let item ← orRefuse (asDict value) (refused "native-boundary journal entry is malformed")
    refuseIf (keysAre item nativeBoundaryEntryKeys = false)
      (refused "native-boundary journal entry is malformed")
    let backup := boundaryBackup transactionId
    let helperBackup := boundaryHelperBackup transactionId
    refuseIf ((get item (text "backup")).isText backup = false
        ∨ (get item (text "helper_backup")).isText helperBackup = false)
      (refused "native-boundary backup authority is invalid")
    let state ← textInSet BoundaryState.ofName (get item (text "state"))
      (refused "native-boundary state is invalid")
    let size ← requireNonNegativeInteger (get item (text "size")) "native-boundary snapshot size"
    let helperSize ← requireNonNegativeInteger (get item (text "helper_size"))
      "native-boundary helper size"
    refuseIf (size = 0 ∨ maxHostArtifactBytes < size)
      (refused "native-boundary snapshot size is invalid")
    refuseIf (helperSize = 0 ∨ maxHostArtifactBytes < helperSize)
      (refused "native-boundary helper size is invalid")
    let sha256 ← digestOf (get item (text "sha256")) "native-boundary snapshot digest"
    let helperSha256 ← digestOf (get item (text "helper_sha256")) "native-boundary helper digest"
    let snapshot ← loadNativeBoundaryBackup host files backup size sha256
    let helper ← loadNativeBoundaryBackup host files helperBackup helperSize helperSha256
    let found ← nativeBoundarySnapshotState snapshot
    refuseIf (found ≠ state) (refused "native-boundary snapshot state does not match its journal")
    refuseIf ([35, 33, 47].isPrefixOf helper = false)
      (refused "native-boundary helper backup is invalid")
    pure (some { backup, helperBackup, helperSha256, helperSize, sha256, size, state })

/-! ## The baseline of the consumers -/

/-- How a consumer ran before the transaction. -/
inductive ConsumerBaseline where
  | daemon
  | api (workingDirectory execStart argv0 resolvedExec : Str)
  | nginx (responseBackup : Str) (responseSize : Nat) (responseSha256 : Str)
  deriving DecidableEq

def consumerBaselineFields (unit kind : Str) (workingDirectory execStart argv0 resolvedExec
    responseBackup responseSha256 : Value) (responseSize : Nat) : Fields :=
  [(text "unit", .str unit), (text "kind", .str kind), (text "working_directory", workingDirectory),
    (text "exec_start", execStart), (text "argv0", argv0), (text "resolved_exec", resolvedExec),
    (text "response_backup", responseBackup), (text "response_sha256", responseSha256),
    (text "response_size", .int responseSize)]

def ConsumerBaseline.value : ConsumerBaseline → Value
  | .daemon =>
      .obj (consumerBaselineFields daemonUnit (text "daemon") .null .null .null .null .null .null 0)
  | .api workingDirectory execStart argv0 resolvedExec =>
      .obj (consumerBaselineFields apiUnit (text "api") (.str workingDirectory) (.str execStart)
        (.str argv0) (.str resolvedExec) .null .null 0)
  | .nginx responseBackup responseSize responseSha256 =>
      .obj (consumerBaselineFields nginxUnit (text "nginx") .null .null .null .null
        (.str responseBackup) (.str responseSha256) responseSize)

def consumerBaselineEntryKeys : List Str :=
  [text "unit", text "kind", text "working_directory", text "exec_start", text "argv0",
    text "resolved_exec", text "response_backup", text "response_sha256", text "response_size"]

inductive ConsumerKind where
  | daemon
  | api
  | nginx
  deriving DecidableEq

def ConsumerKind.name : ConsumerKind → Str
  | .daemon => text "daemon"
  | .api => text "api"
  | .nginx => text "nginx"

/-- `kinds[unit]` -/
def consumerKind (unit : Str) : Option ConsumerKind :=
  if unit = daemonUnit then some .daemon
  else if unit = apiUnit then some .api
  else if unit = nginxUnit then some .nginx
  else none

def processKeys : List Str :=
  [text "working_directory", text "exec_start", text "argv0", text "resolved_exec"]

def responseKeys : List Str := [text "response_backup", text "response_sha256"]

def validateProcessField (item : Fields) (key : Str) : Except JournalError Str := do
  let field ← orRefuse (asText (get item key)) (refused "API baseline process identity is invalid")
  refuseIf (field = [] ∨ 0 ∈ field) (refused "API baseline process identity is invalid")
  let encoded ← orRefuse (encode field) (.refusal .unicodeEncode)
  refuseIf (16 * 1024 < encoded.length) (refused "API baseline process identity is invalid")
  pure field

/-- `Path(field)` is absolute and canonical. -/
def IsProcessPath (path : Str) : Prop :=
  root path ≠ [] ∧ parts (normpath (str path)) = parts path

instance (path : Str) : Decidable (IsProcessPath path) := inferInstanceAs (Decidable (_ ∧ _))

/-- One record of `_validate_consumer_baseline_records`. -/
def validateConsumerBaseline (host : EngineHost) (files : BackupFiles) (transactionId : Str)
    (index : Nat) (unit : Str) (value : Value) : Except JournalError ConsumerBaseline := do
  let item ← orRefuse (asDict value) (refused "consumer baseline journal is malformed")
  refuseIf (keysAre item consumerBaselineEntryKeys = false)
    (refused "consumer baseline journal is malformed")
  refuseIf ((get item (text "unit")).isText unit = false)
    (refused "consumer baseline identity is invalid")
  let kind ← orRefuse (consumerKind unit) .key
  refuseIf ((get item (text "kind")).isText kind.name = false)
    (refused "consumer baseline identity is invalid")
  let responseSize ← requireNonNegativeInteger (get item (text "response_size"))
    "consumer baseline response size"
  refuseIf (maxHostArtifactBytes < responseSize)
    (refused "consumer baseline response exceeds the size limit")
  match kind with
  | .api => do
      let workingDirectory ← validateProcessField item (text "working_directory")
      let execStart ← validateProcessField item (text "exec_start")
      let argv0 ← validateProcessField item (text "argv0")
      let resolvedExec ← validateProcessField item (text "resolved_exec")
      refuseIf (¬IsProcessPath workingDirectory ∨ ¬IsProcessPath argv0 ∨ ¬IsProcessPath resolvedExec)
        (refused "API baseline process path is invalid")
      refuseIf (someGiven item responseKeys = true ∨ responseSize ≠ 0)
        (refused "API baseline contains unexpected response authority")
      pure (.api workingDirectory execStart argv0 resolvedExec)
  | .nginx => do
      refuseIf (someGiven item processKeys = true)
        (refused "Nginx baseline contains unexpected process authority")
      let expectedBackup := consumerResponseBackup transactionId index
      refuseIf ((get item (text "response_backup")).isText expectedBackup = false
          ∨ responseSize = 0)
        (refused "Nginx baseline response authority is invalid")
      let digest ← digestOf (get item (text "response_sha256")) "Nginx baseline response digest"
      let _ ← loadConsumerResponse host files expectedBackup responseSize digest
      pure (.nginx expectedBackup responseSize digest)
  | .daemon => do
      refuseIf (someGiven item processKeys = true ∨ someGiven item responseKeys = true
          ∨ responseSize ≠ 0)
        (refused "daemon baseline contains unexpected authority")
      pure .daemon

/-- The loop of `_validate_consumer_baseline_records`, from one of the records on. -/
def validateConsumerBaselines (host : EngineHost) (files : BackupFiles) (transactionId : Str) :
    (index : Nat) → (active : List Str) → (value : List Value) →
      Except JournalError (List ConsumerBaseline)
  | index, unit :: units, item :: items => do
      let baseline ← validateConsumerBaseline host files transactionId index unit item
      let baselines ← validateConsumerBaselines host files transactionId (index + 1) units items
      pure (baseline :: baselines)
  | _, _, _ => pure []

def validateConsumerBaselineRecords (host : EngineHost) (files : BackupFiles) (transactionId : Str)
    (active : List Str) (value : Value) : Except JournalError (List ConsumerBaseline) := do
  let items ← orRefuse (asList value)
    (refused "consumer baseline journal does not match active-state authority")
  refuseIf (items.length ≠ active.length)
    (refused "consumer baseline journal does not match active-state authority")
  validateConsumerBaselines host files transactionId 0 active items

end TrexWebui.ReleaseEngine
