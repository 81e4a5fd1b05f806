import TrexWebui.Checks
import TrexWebui.JsonLines
import TrexWebui.PosixPath
import TrexWebui.PyMethods
import TrexWebui.Sha256

/-!
# The audit log of the daemon's configuration

A start of TRex and a restored configuration leave a record each in `audit.jsonl`, a line of
JSON. `daemon_config_audit` reads the log from its end: it splits the whole text into lines,
leaves out what is no JSON and what `is_daemon_config_audit_record` refuses, counts that,
and returns the fields of each other record.
-/

namespace TrexWebui.ConfigAudit

open PyStr PyJson PyMethods JsonLines Checks Sha2 PosixPath

/-! ## Checks of values -/

/-- What `is_clean_daemon_text` asks of a text. -/
def IsCleanText (s : Str) : Prop := strip s ≠ [] ∧ s = strip s ∧ 0 ∉ s

instance (s : Str) : Decidable (IsCleanText s) := inferInstanceAs (Decidable (_ ∧ _ ∧ _))

def isTextThat (p : Str → Prop) [DecidablePred p] : Value → Bool
  | .str s => decide (p s)
  | _ => false

def isCleanDaemonText : Value → Bool := isTextThat IsCleanText

def isValidTcpPort : Value → Bool
  | .int n => decide (1 ≤ n ∧ n ≤ 65535)
  | _ => false

/-- `re.fullmatch(r"[0-9a-f]{64}", value)` of a string. -/
def isDigestText : Value → Bool := isTextThat IsDigest

/-- `isinstance(value, int) and not isinstance(value, bool) and value >= 1` -/
def isSequence : Value → Bool
  | .int n => decide (1 ≤ n)
  | _ => false

/-- `[A-Za-z0-9_.-]` -/
def IsSlug (c : Nat) : Prop :=
  65 ≤ c ∧ c ≤ 90 ∨ 97 ≤ c ∧ c ≤ 122 ∨ 48 ≤ c ∧ c ≤ 57 ∨ c ∈ [95, 46, 45]

instance (c : Nat) : Decidable (IsSlug c) :=
  inferInstanceAs (Decidable (_ ∧ _ ∨ _ ∧ _ ∨ _ ∧ _ ∨ _))

/-- `DAEMON_CONFIG_VERSION_RE`: all its parts but the third have a fixed length. -/
def MatchesVersion (s : Str) : Prop :=
  42 ≤ s.length ∧ s.length ≤ 73
    ∧ (∀ c ∈ s.take 8, isDigit c = true) ∧ s.getD 8 0 = 84
    ∧ (∀ c ∈ (s.drop 9).take 12, isDigit c = true) ∧ s.getD 21 0 = 90 ∧ s.getD 22 0 = 45
    ∧ (∀ c ∈ (s.drop 23).take (s.length - 41), IsSlug c) ∧ s.getD (s.length - 18) 0 = 45
    ∧ (∀ c ∈ (s.drop (s.length - 17)).take 12, isLowerHex c = true)
    ∧ s.drop (s.length - 5) = text ".yaml"

instance (s : Str) : Decidable (MatchesVersion s) :=
  inferInstanceAs (Decidable (_ ∧ _ ∧ _ ∧ _ ∧ _ ∧ _ ∧ _ ∧ _ ∧ _ ∧ _ ∧ _))

def cleanDaemonConfigVersionName : Value → Option Str
  | .str value =>
      if strip value = [] ∨ value ≠ strip value ∨ 0 ∈ value ∨ slash ∈ value
          ∨ value = dot ∨ value = dotDot ∨ 160 < value.length ∨ ¬MatchesVersion value then none
      else some value
  | _ => none

def isVersionName (value : Value) : Bool := (cleanDaemonConfigVersionName value).isSome

/-- What `is_daemon_files_path_result` asks of a text. -/
def IsFilesPath (s : Str) : Prop :=
  s ≠ [] ∧ s = strip s ∧ 0 ∉ s ∧ s.head? = some slash ∧ s.length ≤ 4096

instance (s : Str) : Decidable (IsFilesPath s) := inferInstanceAs (Decidable (_ ∧ _ ∧ _ ∧ _ ∧ _))

def isDaemonFilesPathResult : Value → Bool := isTextThat IsFilesPath

/-- `value is None or check(value)` -/
def isNoneOr (check : Value → Bool) (value : Value) : Bool := value.isNull || check value

/-- A status whose `state` is one of the given numbers. -/
def isStatusIn (states : List Int) : Value → Bool
  | .obj fields =>
      (match get fields (text "state") with
        | .int state => decide (state ∈ states)
        | _ => false)
      && isTextThat (fun _ => True) (get fields (text "verbose"))
  | _ => false

def isTrexRunningStatus : Value → Bool := isStatusIn [1, 2, 3]

/-- What is asked of the reconciliation of a start that timed out. -/
def isReconciliation (versionSha256 : Value) : Value → Bool
  | .obj fields =>
      (get fields (text "running")).isBool true
      && isTrexRunningStatus (get fields (text "status"))
      && isStatusIn [3] (get fields (text "status"))
      && isCleanDaemonText (get fields (text "matched_command"))
      && match get fields (text "expected_config_sha256"),
            get fields (text "observed_config_sha256") with
          | .str expected, .str observed =>
              isDigestText (.str expected) && decide (expected = observed)
                && versionSha256.isText expected
          | _, _ => false
  | _ => false

def isRestoreRecord (value : Fields) : Bool :=
  isVersionName (get value (text "restored_name"))
    && isDigestText (get value (text "restored_sha256"))
    && isNoneOr isVersionName (get value (text "before_name"))

def isStartRecord (value : Fields) : Bool :=
  isVersionName (get value (text "version_name"))
    && isDigestText (get value (text "version_sha256"))
    && (match (value.lookup (text "recovered_from_timeout")).getD (.bool false) with
        | .bool true =>
            (get value (text "sequence")).isNull
              && isReconciliation (get value (text "version_sha256"))
                (get value (text "reconciliation"))
        | .bool false => isSequence (get value (text "sequence"))
        | _ => false)
    && isNoneOr isCleanDaemonText (get value (text "config_filename"))
    && isNoneOr isDaemonFilesPathResult (get value (text "files_path"))
    && isNoneOr isCleanDaemonText (get value (text "user"))

def isDaemonConfigAuditRecord : Value → Bool
  | .obj value =>
      isCleanDaemonText (get value (text "action"))
        && isCleanDaemonText (get value (text "created_at"))
        && isCleanDaemonText (get value (text "config_path"))
        && isCleanDaemonText (get value (text "host"))
        && isValidTcpPort (get value (text "daemon_port"))
        && (if (get value (text "action")).isText (text "restore") then isRestoreRecord value
            else if (get value (text "action")).isText (text "start") then isStartRecord value
            else false)
  | _ => false

/-! ## Reading the log -/

/-- An exception that leaves `daemon_config_audit`. -/
inductive AuditFault where
  /-- `int` refuses a number of more than 4300 digits. -/
  | digits
  | keyError

/-- `entry[key]` -/
def item (entry : Fields) (key : Str) : Except AuditFault Value :=
  orRefuse (entry.lookup key) .keyError

/-- `{key: entry[key], …}` -/
def items (entry : Fields) (keys : List Str) : Except AuditFault Fields :=
  keys.mapM fun key => (item entry key).map fun value => (key, value)

/-- `if key in entry: record[key] = entry[key]` -/
def itemIfPresent (entry : Fields) (key : Str) : Fields :=
  match entry.lookup key with
  | some value => [(key, value)]
  | none => []

def auditEntry (entry : Fields) : Except AuditFault Fields := do
  let common ← items entry [text "action", text "created_at", text "config_path", text "host",
    text "daemon_port"]
  if (get entry (text "action")).isText (text "restore") then do
    let restored ← items entry [text "restored_name", text "restored_sha256"]
    pure (common ++ restored ++ [(text "before_name", get entry (text "before_name"))])
  else do
    let version ← items entry [text "version_name", text "version_sha256", text "sequence"]
    pure (common ++ version
      ++ [(text "config_filename", get entry (text "config_filename")),
        (text "files_path", get entry (text "files_path")), (text "user", get entry (text "user"))]
      ++ itemIfPresent entry (text "recovered_from_timeout")
      ++ itemIfPresent entry (text "reconciliation"))

/-- The record of a line; `none` where the line is skipped. -/
def auditLine? (line : Str) : Except AuditFault (Option Fields) :=
  match jsonLoads line with
  | .ok (.obj entry) =>
      if isDaemonConfigAuditRecord (.obj entry) then (auditEntry entry).map some else .ok none
  | .error .digits => .error .digits
  | _ => .ok none

/-- The lines from the last one on, with the records and the number of lines skipped so far. -/
def auditLoop (limit : Nat) :
    (lines : List Str) → (records : List Fields) → (skipped : Nat) →
      Except AuditFault (List Fields × Nat)
  | [], records, skipped => .ok (records, skipped)
  | line :: lines, records, skipped =>
      if limit ≤ records.length then .ok (records, skipped)
      else if strip line = [] then auditLoop limit lines records skipped
      else do
        match ← auditLine? line with
        | some record => auditLoop limit lines (records ++ [record]) skipped
        | none => auditLoop limit lines records (skipped + 1)

/-- `audit.jsonl` as it is met. -/
inductive AuditFile where
  | missing
  | notRegular
  | unreadable (blocker : String)
  | content (bytes : Bytes)

structure AuditPayload where
  ok : Bool
  records : List Fields
  truncated : Bool
  skippedLines : Nat
  blocker : Option String

def blocked (blocker : String) (truncated : Bool) : AuditPayload :=
  { ok := false, records := [], truncated, skippedLines := 0, blocker := some blocker }

/-- `DAEMON_CONFIG_AUDIT_MAX_BYTES` -/
def maxBytes : Nat := 1048576

/-- What is read of the file, and whether that is less than all: of a long file its end, from the
first line on that begins there. -/
def readTail (bytes : Bytes) : Bytes × Bool :=
  if maxBytes < bytes.length then
    (((bytes.drop (bytes.length - maxBytes)).dropWhile (· ≠ 10)).drop 1, true)
  else (bytes, false)

def auditText (limit : Nat) (raw : Bytes) (truncated : Bool) : Except AuditFault AuditPayload :=
  match decode raw with
  | none => .ok (blocked "daemon_config_audit_decode_failed" truncated)
  | some decoded => do
      let (records, skippedLines) ← auditLoop limit (splitlines decoded).reverse [] 0
      pure { ok := true, records, truncated, skippedLines, blocker := none }

/-- `root` is the blocker, if there is one, of the directory that the log is in. -/
def daemonConfigAudit (root : Option String) (file : AuditFile) (limit : Int) :
    Except AuditFault AuditPayload :=
  if limit < 1 ∨ 200 < limit then .ok (blocked "daemon_config_audit_limit_invalid" false)
  else
    match root, file with
    | some blocker, _ => .ok (blocked blocker false)
    | none, .missing =>
        .ok { ok := true, records := [], truncated := false, skippedLines := 0, blocker := none }
    | none, .notRegular => .ok (blocked "daemon_config_audit_path_invalid" false)
    | none, .unreadable blocker => .ok (blocked blocker false)
    | none, .content bytes => auditText limit.toNat (readTail bytes).1 (readTail bytes).2

/-! ## Writing a record -/

/-- `json.dumps(audit_record, ensure_ascii=False, sort_keys=True) + "\n"` -/
def auditLine (record : Fields) : Str := dumpsSpaced (.obj record) ++ [10]

/-- What the disk makes of the line: the file cannot be opened, the writing stops with an error after
some bytes, or the line is written. -/
inductive Disk where
  | refused
  | failsAfter (count : Nat)
  | whole

/-- The log behind a writer, and what the call reports as `audit_written`; `none` is an exception
that leaves the call. -/
structure Appended where
  log : Option Bytes
  written : Option Bool

/-- `audit_path.open("a")`, and the line of the record. A text that cannot be encoded is not
written. -/
def appendAudit (disk : Disk) (record : Fields) (log : Option Bytes) : Appended :=
  let before := log.getD []
  match disk, encode (auditLine record) with
  | .refused, _ => ⟨log, some false⟩
  | _, none => ⟨some before, none⟩
  | .failsAfter count, some bytes => ⟨some (before ++ bytes.take count), some false⟩
  | .whole, some bytes => ⟨some (before ++ bytes), some true⟩

end TrexWebui.ConfigAudit
