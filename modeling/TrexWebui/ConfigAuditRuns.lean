import TrexWebui.ConfigAuditRecords

/-!
# The audit log over a run of calls

Each start and each restore that comes to its record appends a line to the log, and the
call reports whether it was written. Over a run the log is to be the lines of the records
that were reported, one after another; `daemon_config_audit` then returns the last of them,
newest first. That holds as long as nothing of a line is left behind by a failed write, no
text of a record has one of the three characters that JSON leaves as they are and that end a
line, and a restore has a host and a port that the reader accepts (`audit_of_sound_run`). It
does not hold of every run: a files path with a line separator splits the line of its record
(`separator_hides_record`).
-/

namespace TrexWebui.ConfigAudit

open PyStr PyJson PyMethods JsonLines Checks

/-! ## Runs -/

/-- A call, with what the disk makes of its line. -/
inductive Call where
  | start (call : StartCall) (disk : Disk)
  | restore (call : RestoreCall) (disk : Disk)

namespace Call

def record : Call → Except String (Option Fields)
  | .start call _ => call.record
  | .restore call _ => call.record

def disk : Call → Disk
  | .start _ disk => disk
  | .restore _ disk => disk

/-- The texts of the record have no character that ends a line, and the reader accepts them. -/
def OneLine : Call → Prop
  | .start call _ => call.OneLine
  | .restore call _ => call.OneLine

/-- A call that leaves all of its line in the log, or nothing: it has no record, or none that can
be encoded; or the write fails before the first byte; or the record is well-formed and is written. -/
def Sound (call : Call) : Prop :=
  ∀ record bytes, call.record = .ok (some record) → encode (auditLine record) = some bytes →
    call.disk = .refused ∨ call.disk = .failsAfter 0 ∨ call.disk = .whole ∧ call.OneLine

end Call

/-- The log, and the records whose call reported them as written. -/
structure State where
  log : Option Bytes
  reported : List Fields

def initial : State := ⟨none, []⟩

/-- The record of a call is appended; a call without one changes nothing. -/
def perform (s : State) (call : Call) : State :=
  match call.record with
  | .ok (some record) =>
      let appended := appendAudit call.disk record s.log
      { log := appended.log
        reported := if appended.written = some true then s.reported ++ [record] else s.reported }
  | _ => s

def run (calls : List Call) : State := calls.foldl perform initial

def fileOf : Option Bytes → AuditFile
  | none => .missing
  | some bytes => .content bytes

/-! ## Lines -/

theorem auditLine_cons (record : Fields) : ∃ rest, dumpsSpaced (.obj record) = openBrace :: rest := by
  rw [dumpsSpaced, sortKeys_record]
  cases sorted record with
  | nil => exact ⟨_, rfl⟩
  | cons field fields => exact ⟨_, rfl⟩

theorem strip_dumpsSpaced_ne (record : Fields) : strip (dumpsSpaced (.obj record)) ≠ [] := by
  obtain ⟨rest, hrest⟩ := auditLine_cons record
  rw [hrest]
  exact strip_cons_ne_nil (by decide) rest

/-- The line of a record, in which no character ends a line before the line feed. -/
theorem not_isLineBreak {record : Fields} (h : Acceptable record) :
    ∀ c ∈ dumpsSpaced (.obj record), ¬IsLineBreak c := by
  intro c hc
  rcases mem_dumpsSpaced h.loaded hc with ⟨hlow, hhigh⟩ | ⟨hoccurs, hlow⟩
  · rintro (hbreak | hbreak | hbreak)
    · omega
    · omega
    · simp only [List.mem_cons, List.not_mem_nil, or_false] at hbreak
      omega
  · rintro (hbreak | hbreak | hbreak)
    · omega
    · omega
    · exact h.oneLine c hoccurs hbreak

theorem auditLine?_dumpsSpaced {record : Fields} (h : Acceptable record)
    (hscalar : ∀ c ∈ dumpsSpaced (.obj record), Scalar c) :
    ∃ entry, auditLine? (dumpsSpaced (.obj record)) = .ok (some entry) ∧ IsAsWritten entry record := by
  obtain ⟨entry, hentry, hwritten⟩ := h.entry
  refine ⟨entry, ?_, hwritten⟩
  rw [auditLine?, jsonLoads_dumpsSpaced h.loaded hscalar, sortKeys_record]
  simp only
  rw [if_pos h.accepted, hentry]
  rfl

/-! ## A log of good lines -/

/-- A record whose line is in the log as it was written. -/
structure Logged (record : Fields) : Prop where
  acceptable : Acceptable record
  scalar : ∀ c ∈ auditLine record, Scalar c

theorem Logged.scalar_dumpsSpaced {record : Fields} (h : Logged record) :
    ∀ c ∈ dumpsSpaced (.obj record), Scalar c :=
  fun c hc => h.scalar c (List.mem_append_left _ hc)

/-- The loop goes over the lines of records, each of which it takes until the limit is reached. -/
theorem auditLoop_lines (limit : Nat) {records : List Fields} (h : ∀ record ∈ records, Logged record)
    (done : List Fields) (skipped : Nat) :
    ∃ entries, auditLoop limit (records.map fun record => dumpsSpaced (.obj record)) done skipped
        = .ok (done ++ entries, skipped)
      ∧ List.Forall₂ IsAsWritten entries (records.take (limit - done.length)) := by
  induction records generalizing done with
  | nil =>
      refine ⟨[], ?_, ?_⟩
      · rw [List.map_nil, auditLoop, List.append_nil]
      · rw [List.take_nil]
        exact .nil
  | cons record records ih =>
      obtain ⟨hfirst, hrest⟩ := List.forall_mem_cons.mp h
      rw [List.map_cons, auditLoop]
      by_cases hlimit : limit ≤ done.length
      · refine ⟨[], ?_, ?_⟩
        · rw [if_pos hlimit, List.append_nil]
        · rw [Nat.sub_eq_zero_of_le hlimit, List.take_zero]
          exact .nil
      · obtain ⟨entry, hentry, hwritten⟩ :=
          auditLine?_dumpsSpaced hfirst.acceptable hfirst.scalar_dumpsSpaced
        obtain ⟨entries, hloop, hentries⟩ := ih hrest (done ++ [entry])
        refine ⟨entry :: entries, ?_, ?_⟩
        · rw [if_neg hlimit, if_neg (strip_dumpsSpaced_ne record), hentry]
          simp only [bind, Except.bind]
          rw [hloop, List.append_assoc, List.singleton_append]
        · have hleft : limit - done.length = limit - (done ++ [entry]).length + 1 := by
            rw [List.length_append, List.length_singleton]
            omega
          rw [hleft, List.take_succ_cons]
          exact .cons hwritten hentries

/-- The invariant of a run: the log is the lines of the records that were reported. -/
structure Faithful (s : State) : Prop where
  logged : ∀ record ∈ s.reported, Logged record
  log : s.log.getD [] = (s.reported.flatMap auditLine).flatMap encodePoint
  missing : s.log = none → s.reported = []

theorem splitlines_reported {records : List Fields} (h : ∀ record ∈ records, Logged record) :
    splitlines (records.flatMap auditLine)
      = records.map fun record => dumpsSpaced (.obj record) := by
  have hlines : records.flatMap auditLine
      = (records.map fun record => dumpsSpaced (.obj record)).flatMap fun line => line ++ [10] := by
    rw [List.flatMap_map]
    rfl
  rw [hlines]
  refine splitlines_lines fun line hline => ?_
  obtain ⟨record, hrecord, rfl⟩ := List.mem_map.mp hline
  exact not_isLineBreak (h record hrecord).acceptable

theorem decode_reported {records : List Fields} (h : ∀ record ∈ records, Logged record) :
    decode ((records.flatMap auditLine).flatMap encodePoint) = some (records.flatMap auditLine) := by
  refine decode_encode (encode_eq_some_iff.mpr ⟨fun c hc => ?_, rfl⟩)
  obtain ⟨record, hrecord, hmem⟩ := List.mem_flatMap.mp hc
  exact (h record hrecord).scalar c hmem

theorem Faithful.audit {s : State} (h : Faithful s) {limit : Int} (hlow : 1 ≤ limit)
    (hhigh : limit ≤ 200) (hsize : (s.log.getD []).length ≤ maxBytes) :
    ∃ records, daemonConfigAudit none (fileOf s.log) limit
        = .ok { ok := true, records, truncated := false, skippedLines := 0, blocker := none }
      ∧ List.Forall₂ IsAsWritten records (s.reported.reverse.take limit.toNat) := by
  obtain ⟨entries, hloop, hentries⟩ := auditLoop_lines limit.toNat
    (fun record hrecord => h.logged record (List.mem_reverse.mp hrecord)) [] 0
  rw [List.map_reverse, List.nil_append] at hloop
  rw [List.length_nil, Nat.sub_zero] at hentries
  have hlimit : ¬(limit < 1 ∨ 200 < limit) := by omega
  cases hlog : s.log with
  | none =>
      refine ⟨[], ?_, ?_⟩
      · unfold daemonConfigAudit
        rw [if_neg hlimit]
        rfl
      · rw [h.missing hlog, List.reverse_nil, List.take_nil]
        exact .nil
  | some bytes =>
      have hbytes := h.log
      rw [hlog, Option.getD_some] at hbytes hsize
      refine ⟨entries, ?_, hentries⟩
      have htail : readTail bytes = (bytes, false) := by
        rw [readTail, if_neg (by omega)]
      unfold daemonConfigAudit
      rw [if_neg hlimit]
      simp only [fileOf, htail]
      rw [auditText, hbytes, decode_reported h.logged]
      simp only [splitlines_reported h.logged, hloop, bind, Except.bind, pure, Except.pure]

/-! ## What a call does -/

theorem acceptable_of_record {call : Call} {record : Fields} (hline : call.OneLine)
    (h : call.record = .ok (some record)) : Acceptable record := by
  cases call with
  | start call disk => exact StartCall.acceptable hline h
  | restore call disk => exact RestoreCall.acceptable hline h

theorem faithful_initial : Faithful initial where
  logged _ hrecord := absurd hrecord List.not_mem_nil
  log := rfl
  missing _ := rfl

theorem Faithful.untouched {s : State} (h : Faithful s) :
    Faithful ⟨some (s.log.getD []), s.reported⟩ where
  logged := h.logged
  log := h.log
  missing hnone := by cases hnone

theorem Faithful.append {s : State} (h : Faithful s) {record : Fields} {bytes : Bytes}
    (haccept : Acceptable record) (hencode : encode (auditLine record) = some bytes) :
    Faithful ⟨some (s.log.getD [] ++ bytes), s.reported ++ [record]⟩ := by
  obtain ⟨hscalar, rfl⟩ := encode_eq_some_iff.mp hencode
  constructor
  · intro other hother
    rcases List.mem_append.mp hother with hold | hnew
    · exact h.logged other hold
    · rw [List.mem_singleton.mp hnew]
      exact ⟨haccept, hscalar⟩
  · show s.log.getD [] ++ _ = ((s.reported ++ [record]).flatMap auditLine).flatMap encodePoint
    rw [h.log, List.flatMap_append, List.flatMap_append, List.flatMap_singleton]
  · intro hnone
    cases hnone

theorem Faithful.perform {s : State} (h : Faithful s) {call : Call} (hsound : call.Sound) :
    Faithful (perform s call) := by
  unfold ConfigAudit.perform
  split
  · rename_i record hrecord
    cases hencode : encode (auditLine record) with
    | none =>
        cases hdisk : call.disk with
        | refused =>
            simp only [appendAudit]
            exact h
        | failsAfter count =>
            simp only [appendAudit, hencode]
            exact h.untouched
        | whole =>
            simp only [appendAudit, hencode]
            exact h.untouched
    | some bytes =>
        rcases hsound record bytes hrecord hencode with hdisk | hdisk | ⟨hdisk, hline⟩
        · simp only [hdisk, appendAudit]
          exact h
        · simp only [hdisk, appendAudit, hencode, List.take_zero, List.append_nil]
          exact h.untouched
        · simp only [hdisk, appendAudit, hencode, if_true]
          exact h.append (acceptable_of_record hline hrecord) hencode
  · exact h

theorem faithful_run {calls : List Call} (h : ∀ call ∈ calls, call.Sound) : Faithful (run calls) := by
  have hfold : ∀ s, Faithful s → Faithful (calls.foldl perform s) := by
    induction calls with
    | nil => exact fun s hs => hs
    | cons call calls ih =>
        obtain ⟨hfirst, hrest⟩ := List.forall_mem_cons.mp h
        exact fun s hs => ih hrest _ (hs.perform hfirst)
  exact hfold initial faithful_initial

/-- The log of a sound run is read back as it was written: `daemon_config_audit` skips no line and
returns the last records that were reported, the newest first, with the fields that they had. -/
theorem audit_of_sound_run {calls : List Call} (hsound : ∀ call ∈ calls, call.Sound) {limit : Int}
    (hlow : 1 ≤ limit) (hhigh : limit ≤ 200)
    (hsize : ((run calls).log.getD []).length ≤ maxBytes) :
    ∃ records, daemonConfigAudit none (fileOf (run calls).log) limit
        = .ok { ok := true, records, truncated := false, skippedLines := 0, blocker := none }
      ∧ List.Forall₂ IsAsWritten records ((run calls).reported.reverse.take limit.toNat) :=
  (faithful_run hsound).audit hlow hhigh hsize

/-! ### Starts on one machine -/

theorem loaded_one : Loaded (.int 1) := loaded_port (by decide)

/-- A start that the daemon answers at once, where it keeps its files in a directory. -/
def startIn (filesPath : Str) : StartCall where
  env := {
    host := text "127.0.0.1"
    hostError := false
    daemonPort := 8090
    daemonPortError := false
    configPath := text "/etc/trex_cfg.yaml"
    daemonLog := text "/var/log/trex-daemon.log"
    requireConfirmation := false
    commandTimeoutSeconds := 30
    commandTimeoutError := false }
  systemUser := text "trex"
  confirmation := none
  timeoutSeconds := none
  configContent := some (text "- version: 2")
  snapshot := .error "config_missing"
  save := {
    root := none
    stamp := text "20260101T120000000000Z"
    writeError := none
    readable := true }
  pushFile := .result (.bool true) trivial
  filesPath := .result (.str filesPath) trivial
  lifecycle := none
  startTrex := .result (.int 1) loaded_one
  reconciliation := {
    isRunning := .failed
    runningStatus := .failed
    trexCmds := .failed
    remoteConfig := .error "daemon_file_missing" }
  createdAt := ⟨2026, 1, 1, 12, 0, 0, 0⟩

theorem oneLine_startIn {filesPath : Str} (h : NoSeparator filesPath) :
    (startIn filesPath).OneLine where
  user := show NoSeparator (daemonUser (text "trex")) by decide +kernel
  host := show NoSeparator (text "127.0.0.1") by decide +kernel
  filesPath other hloaded hanswer := by
    cases hanswer
    exact h
  status htimeout := by cases htimeout
  command htimeout := by cases htimeout

/-- A record is written, after one that the disk refused, and is read back. -/
theorem audit_of_two_starts :
    ∃ records, daemonConfigAudit none (fileOf (run [.start (startIn (text "/tmp/trex")) .refused,
          .start (startIn (text "/tmp/trex_files")) .whole]).log) 50
        = .ok { ok := true, records, truncated := false, skippedLines := 0, blocker := none }
      ∧ List.Forall₂ IsAsWritten records ((run [.start (startIn (text "/tmp/trex")) .refused,
          .start (startIn (text "/tmp/trex_files")) .whole]).reported.reverse.take 50) := by
  have hline : NoSeparator (text "/tmp/trex_files") := by decide +kernel
  refine audit_of_sound_run ?_ (by decide) (by decide) (by decide +kernel)
  refine List.forall_mem_cons.mpr ⟨fun _ _ _ _ => .inl rfl, List.forall_mem_singleton.mpr ?_⟩
  exact fun _ _ _ _ => .inr (.inr ⟨rfl, oneLine_startIn hline⟩)

/-- With a line separator in the files path, which is in two fields, the line of the record is read
as three, none of which is a record. -/
theorem separator_hides_record :
    (run [.start (startIn (text "/tmp/trex" ++ 0x2028 :: text "files")) .whole]).reported.length = 1
      ∧ ((run [.start (startIn (text "/tmp/trex" ++ 0x2028 :: text "files")) .whole]).log.getD
          []).length ≤ maxBytes
      ∧ ((daemonConfigAudit none (fileOf (run [.start (startIn (text "/tmp/trex" ++ 0x2028 ::
          text "files")) .whole]).log) 50).toOption.map fun payload =>
            (payload.ok, payload.records.length, payload.skippedLines)) = some (true, 0, 3) := by
  decide +kernel

end TrexWebui.ConfigAudit
