import TrexWebui.ConfigAuditWriters

/-!
# What the writers write, the reader accepts

Each check of `is_daemon_config_audit_record` holds of a record that a writer made, because
of a check of the writer or because of how the field was made: a start was answered by the
daemon, so the host and its port are valid; the files path was checked; the file's name has
no character that was not put there. A restore does not look at the host and the port, so
that much is left to ask.
-/

namespace TrexWebui.ConfigAudit

open PyStr PyJson PyMethods JsonLines Checks Sha2 PosixPath

/-! ## Clean texts -/

def IsGraphic (c : Nat) : Prop := 33 ≤ c ∧ c < 127

instance (c : Nat) : Decidable (IsGraphic c) := inferInstanceAs (Decidable (_ ∧ _))

theorem IsGraphic.not_space {c : Nat} (h : IsGraphic c) : ¬IsSpace c := by
  obtain ⟨hlow, hhigh⟩ := h
  rintro (hspace | hspace | hspace | hspace)
  · omega
  · omega
  · omega
  · simp only [List.mem_cons, List.not_mem_nil, or_false] at hspace
    omega

/-- A text that begins and ends with no whitespace is clean, unless it has a NUL. -/
theorem isCleanText_of_ends {s : Str} (hne : s ≠ []) (hhead : ∀ c, s.head? = some c → ¬IsSpace c)
    (hlast : ∀ c, s.getLast? = some c → ¬IsSpace c) (hnul : 0 ∉ s) : IsCleanText s := by
  have hstrip := strip_eq_self hhead hlast
  refine ⟨?_, hstrip.symm, hnul⟩
  rw [hstrip]
  exact hne

theorem isCleanText_of_graphic {s : Str} (hne : s ≠ []) (h : ∀ c ∈ s, IsGraphic c) :
    IsCleanText s := by
  refine isCleanText_of_ends hne (fun c hc => (h c (List.mem_of_mem_head? hc)).not_space)
    (fun c hc => (h c (List.mem_of_getLast? hc)).not_space) fun hnul => ?_
  exact absurd (h 0 hnul) (by decide)

theorem graphic_append {s t : Str} (hs : ∀ c ∈ s, IsGraphic c) (ht : ∀ c ∈ t, IsGraphic c) :
    ∀ c ∈ s ++ t, IsGraphic c := by
  intro c hc
  rcases List.mem_append.mp hc with hc | hc
  · exact hs c hc
  · exact ht c hc

theorem graphic_cons {d : Nat} {t : Str} (hd : IsGraphic d) (ht : ∀ c ∈ t, IsGraphic c) :
    ∀ c ∈ d :: t, IsGraphic c :=
  List.forall_mem_cons.mpr ⟨hd, ht⟩

theorem graphic_padded (width n : Nat) : ∀ c ∈ padded width n, IsGraphic c := by
  induction width generalizing n with
  | zero => exact fun c hc => absurd hc List.not_mem_nil
  | succ width ih =>
      refine graphic_append (ih (n / 10)) fun c hc => ?_
      rw [List.mem_singleton.mp hc]
      exact ⟨by omega, by omega⟩

theorem graphic_isoformat (m : Moment) : ∀ c ∈ m.isoformat, IsGraphic c := by
  have hfraction : ∀ c ∈ (if m.microsecond = 0 then [] else 46 :: padded 6 m.microsecond),
      IsGraphic c := by
    split_ifs
    · exact fun c hc => absurd hc List.not_mem_nil
    · exact graphic_cons (by decide) (graphic_padded _ _)
  have hzone : ∀ c ∈ text "+00:00", IsGraphic c := by decide +kernel
  refine graphic_append (graphic_append ?_ hfraction) hzone
  refine graphic_append (graphic_append (graphic_append (graphic_append (graphic_append
    (graphic_padded _ _) ?_) ?_) ?_) ?_) ?_
  all_goals exact graphic_cons (by decide) (graphic_padded _ _)

theorem isCleanText_isoformat (m : Moment) : IsCleanText m.isoformat := by
  refine isCleanText_of_graphic (fun hnil => ?_) (graphic_isoformat m)
  have hzone : text "+00:00" = [] := (List.append_eq_nil_iff.mp hnil).2
  exact absurd hzone (by decide)

theorem isGraphic_slug {c : Nat} (h : IsSlug c) : IsGraphic c := by
  rcases h with h | h | h | h
  · exact ⟨by omega, by omega⟩
  · exact ⟨by omega, by omega⟩
  · exact ⟨by omega, by omega⟩
  · simp only [List.mem_cons, List.not_mem_nil, or_false] at h
    exact ⟨by omega, by omega⟩

theorem graphic_hexdigest (message : Bytes) : ∀ c ∈ hexdigest message, IsGraphic c := by
  intro c hc
  have hhex := (isDigest_hexdigest message).2 c hc
  simp only [isLowerHex, Bool.or_eq_true, Bool.and_eq_true, decide_eq_true_eq] at hhex
  exact ⟨by omega, by omega⟩

/-! ### Names of files -/

theorem graphic_daemonConfigFilename (user : Str) : ∀ c ∈ daemonConfigFilename user, IsGraphic c := by
  unfold daemonConfigFilename
  simp only
  split_ifs
  · exact fun c hc => (show ∀ c ∈ trexWebui, IsGraphic c by decide +kernel) c hc
  · intro c hc
    obtain ⟨d, -, rfl⟩ := List.mem_map.mp hc
    split_ifs with hslug
    · exact isGraphic_slug hslug
    · decide

/-- No name of a configuration begins with a slash, since only a user's name with no slash is
kept. -/
theorem head_daemonConfigFilename (user : Str) : ∃ c rest, daemonConfigFilename user = c :: rest
    ∧ c ≠ slash := by
  unfold daemonConfigFilename
  simp only
  split_ifs with hdefault
  · exact ⟨116, _, rfl, by decide⟩
  · obtain ⟨c, rest, hrest⟩ := List.exists_cons_of_ne_nil (not_or.mp hdefault).1
    refine ⟨c, rest, hrest, ?_⟩
    have hmem : c ∈ user.map fun c => if IsSlug c then c else 95 := by
      rw [hrest]
      exact List.mem_cons_self
    obtain ⟨d, -, rfl⟩ := List.mem_map.mp hmem
    split_ifs with hslug
    · rintro rfl
      exact absurd hslug (by decide)
    · decide

theorem graphic_filename (user : Str) (content : Bytes) :
    ∀ c ∈ daemonStartConfigFilename user content, IsGraphic c := by
  have hsuffix : ∀ c ∈ text ".yaml", IsGraphic c := by decide +kernel
  refine graphic_append (graphic_daemonConfigFilename user) (graphic_cons (by decide) ?_)
  exact graphic_append (fun c hc => graphic_hexdigest content c (List.mem_of_mem_take hc)) hsuffix

theorem filename_ends (user : Str) (content : Bytes) :
    ∃ c rest, daemonStartConfigFilename user content = c :: (rest ++ [108]) ∧ c ≠ slash := by
  obtain ⟨c, rest, hrest, hne⟩ := head_daemonConfigFilename user
  refine ⟨c, rest ++ 45 :: ((hexdigest content).take 12 ++ text ".yam"), ?_, hne⟩
  rw [daemonStartConfigFilename, hrest, List.cons_append, List.append_assoc, List.cons_append,
    List.append_assoc]
  rfl

/-- The path of an uploaded configuration is clean: it begins with the slash of the files path and
ends with the suffix of its name. -/
theorem isCleanText_joinPath {filesPath : Str} (h : IsFilesPath filesPath) (user : Str)
    (content : Bytes) :
    IsCleanText (joinPath filesPath (daemonStartConfigFilename user content)) := by
  obtain ⟨-, -, hnul, habsolute, -⟩ := h
  obtain ⟨c, rest, hname, hne⟩ := filename_ends user content
  have hgraphic := graphic_filename user content
  obtain ⟨path, rfl⟩ := List.head?_eq_some_iff.mp habsolute
  have hjoin : ∃ middle, joinPath (slash :: path) (daemonStartConfigFilename user content)
      = slash :: (middle ++ [108]) ∧ 0 ∉ middle := by
    have hnameNul : 0 ∉ c :: rest := by
      intro hmem
      refine absurd (hgraphic 0 ?_) (by decide)
      rw [hname, ← List.cons_append]
      exact List.mem_append_left _ hmem
    have hpathNul : 0 ∉ path := fun hmem => hnul (List.mem_cons_of_mem _ hmem)
    rw [joinPath, hname, if_neg (by simpa using hne)]
    by_cases hend : slash :: path = [] ∨ (slash :: path).getLast? = some slash
    · rw [if_pos hend]
      refine ⟨path ++ c :: rest, by simp, ?_⟩
      rw [List.mem_append, not_or]
      exact ⟨hpathNul, hnameNul⟩
    · rw [if_neg hend]
      refine ⟨path ++ slash :: c :: rest, by simp, ?_⟩
      rw [List.mem_append, List.mem_cons, not_or, not_or]
      exact ⟨hpathNul, by decide, hnameNul⟩
  obtain ⟨middle, hmiddle, hmiddleNul⟩ := hjoin
  rw [hmiddle]
  refine isCleanText_of_ends (List.cons_ne_nil _ _) ?_ ?_ ?_
  · intro d hd
    cases hd
    decide
  · intro d hd
    rw [← List.cons_append, List.getLast?_append_of_ne_nil _ (List.cons_ne_nil _ _)] at hd
    cases hd
    decide
  · intro hmem
    rcases List.mem_cons.mp hmem with hslash | hmem
    · exact absurd hslash (by decide)
    · rcases List.mem_append.mp hmem with hmem | hmem
      · exact hmiddleNul hmem
      · exact absurd (List.mem_singleton.mp hmem) (by decide)

theorem isCleanText_daemonUser {systemUser : Str} (h : 0 ∉ daemonUser systemUser) :
    IsCleanText (daemonUser systemUser) := by
  unfold daemonUser at h ⊢
  simp only at h ⊢
  by_cases hempty : strip (if systemUser = [] then trexWebui else systemUser) = []
  · rw [if_pos hempty]
    exact isCleanText_of_graphic (List.cons_ne_nil _ _)
      (show ∀ c ∈ trexWebui, IsGraphic c by decide +kernel)
  · rw [if_neg hempty] at h ⊢
    refine ⟨?_, (strip_strip _).symm, h⟩
    rw [strip_strip]
    exact hempty

theorem isCleanText_of_host {host : Str} (h : IsTrexHost host) : IsCleanText host := by
  obtain ⟨hclean, -, -, -⟩ := h
  obtain ⟨hne, hstrip, hnul⟩ := not_or.mp hclean |>.imp id not_or.mp
  exact ⟨hne, not_not.mp hstrip, hnul⟩

theorem isCleanText_of_path {path : Str} (h : IsCleanAbsolutePath path) : IsCleanText path :=
  ⟨h.1, h.2.1, h.2.2.1⟩

/-! ## What a step has checked -/

theorem isVersionName_of_clean {value : Value} {name : Str}
    (h : cleanDaemonConfigVersionName value = some name) :
    isVersionName (.str name) = true := by
  unfold cleanDaemonConfigVersionName at h
  split at h
  · rename_i s
    split_ifs at h with hbad
    cases h
    rw [isVersionName, cleanDaemonConfigVersionName, if_neg hbad]
    rfl
  · cases h

theorem version_of_record {name : Str} {bytes : Bytes} {version : VersionRecord}
    (h : daemonConfigVersionRecord name bytes = some version) :
    isVersionName (.str version.name) = true ∧ version.sha256 = hexdigest bytes := by
  unfold daemonConfigVersionRecord at h
  split_ifs at h
  obtain ⟨clean, hclean, rfl⟩ := Option.map_eq_some_iff.mp h
  exact ⟨isVersionName_of_clean hclean, rfl⟩

theorem underBlocker_eq_ok {α : Type} {blocker : String} {m : Except String α} {a : α} :
    underBlocker blocker m = .ok a ↔ m = .ok a := by
  cases m with
  | ok b => exact Iff.rfl
  | error e =>
      refine ⟨fun h => ?_, fun h => ?_⟩
      · cases h
      · cases h

theorem version_of_save {env : Environment} {answers : SaveAnswers} {source note : Str}
    {content : Except String Str} {version : VersionRecord}
    (h : daemonConfigVersionSave env answers source note content = .ok (some version)) :
    isVersionName (.str version.name) = true ∧ ∃ text bytes, content = .ok text
      ∧ daemonConfigVersionContentBytes text = .ok bytes ∧ version.sha256 = hexdigest bytes := by
  simp only [daemonConfigVersionSave, bind_eq_ok, pure_eq_ok] at h
  obtain ⟨-, -, -, -, text, htext, bytes, hbytes, -, -, hrecord⟩ := h
  split_ifs at hrecord
  obtain ⟨hname, hsha⟩ := version_of_record hrecord
  exact ⟨hname, text, bytes, htext, hbytes, hsha⟩

theorem result_of_rpcCall {env : Environment} {timeoutSeconds : Option Int} {answer : RpcAnswer}
    {value : Value} (h : daemonRpcCall env timeoutSeconds answer = .ok (some value)) :
    IsTrexHost env.host ∧ (1 ≤ env.daemonPort ∧ env.daemonPort ≤ 65535)
      ∧ ∃ hloaded, answer = .result value hloaded := by
  simp only [daemonRpcCall, bind_eq_ok, refuseIf_eq_ok] at h
  obtain ⟨-, hhost, -, hport, -, -, -, -, hanswer⟩ := h
  refine ⟨not_not.mp (not_or.mp hhost).2, not_not.mp (not_or.mp hport).2, ?_⟩
  cases answer with
  | timeout => cases hanswer
  | failed => cases hanswer
  | error => cases hanswer
  | result v hloaded =>
      cases hanswer
      exact ⟨hloaded, rfl⟩

theorem error_behind_check {ε α : Type} {c : Prop} [Decidable c] {e e' : ε}
    {f : Unit → Except ε α} (h : (refuseIf c e >>= f) = .error e') (hne : e ≠ e') :
    f () = .error e' := by
  unfold refuseIf at h
  by_cases hc : c
  · rw [if_pos hc] at h
    cases h
    exact absurd rfl hne
  · rw [if_neg hc] at h
    exact h

theorem timeout_of_rpcCall {env : Environment} {timeoutSeconds : Option Int} {answer : RpcAnswer}
    (h : daemonRpcCall env timeoutSeconds answer = .error .timeout) : answer = .timeout := by
  have hhost := error_behind_check h (by decide)
  have hport := error_behind_check hhost (by decide)
  have hconfigured := error_behind_check hport (by decide)
  have hanswer := error_behind_check hconfigured (by decide)
  cases answer with
  | timeout => rfl
  | failed => cases hanswer
  | error => cases hanswer
  | result v hloaded => cases hanswer

theorem result_of_rpcResult {env : Environment} {timeoutSeconds : Option Int} {answer : RpcAnswer}
    {blocker : String} {value : Value}
    (h : rpcResult env timeoutSeconds answer blocker = .ok value) :
    IsTrexHost env.host ∧ (1 ≤ env.daemonPort ∧ env.daemonPort ≤ 65535)
      ∧ ∃ hloaded, answer = .result value hloaded := by
  unfold rpcResult at h
  split at h
  · cases h
  · cases h
  · rename_i v hcall
    cases h
    exact result_of_rpcCall hcall

/-! ### A start that timed out -/

theorem clean_of_mapM {entries : List Value} {commands : List Str}
    (h : entries.mapM commandOf = some commands) : ∀ command ∈ commands, IsCleanText command := by
  induction entries generalizing commands with
  | nil =>
      cases h
      exact fun command hcommand => absurd hcommand List.not_mem_nil
  | cons entry entries ih =>
      rw [List.mapM_cons] at h
      obtain ⟨first, hfirst, hentries⟩ := Option.bind_eq_some_iff.mp h
      obtain ⟨rest, hrest, heq⟩ := Option.bind_eq_some_iff.mp hentries
      cases heq
      refine List.forall_mem_cons.mpr ⟨?_, ih hrest⟩
      unfold commandOf at hfirst
      split at hfirst
      · split_ifs at hfirst with hclean
        cases hfirst
        exact hclean.2
      · cases hfirst

theorem clean_of_commandsOf {result : Value} {commands : List Str}
    (h : commandsOf result = some commands) : ∀ command ∈ commands, IsCleanText command := by
  unfold commandsOf at h
  split at h
  · exact clean_of_mapM h
  · cases h

/-- What is known of a reconciliation that found TRex running. -/
structure Reconciled (answers : ReconciliationAnswers) (cfg sha256 : Str) (r : Reconciliation) :
    Prop where
  status : ∃ hloaded, answers.runningStatus = .result r.status hloaded
  running : isTrexRunningStatus r.status = true
  state : isStatusIn [3] r.status = true
  command : ∃ result hloaded commands, answers.trexCmds = .result result hloaded
    ∧ commandsOf result = some commands
    ∧ commands.find? (daemonCommandUsesConfig · cfg) = some r.matchedCommand
  clean : IsCleanText r.matchedCommand
  expected : r.expectedSha256 = sha256
  observed : r.observedSha256 = sha256

theorem reconciled {env : Environment} {answers : ReconciliationAnswers} {cfg sha256 : Str}
    {r : Reconciliation} (h : daemonTrexStartReconciliation env answers cfg sha256 = .ok r) :
    Reconciled answers cfg sha256 r := by
  simp only [daemonTrexStartReconciliation, bind_eq_ok, pure_eq_ok, underBlocker_eq_ok,
    refuseIf_eq_ok, orRefuse_eq_ok, Prod.exists] at h
  obtain ⟨running, status, commands, hstatus, -, hrunning, command, hcommand, remote, -, -, hsha,
    rfl⟩ := h
  simp only [daemonTrexRuntimeStatus, bind_eq_ok, pure_eq_ok, refuseIf_eq_ok, orRefuse_eq_ok,
    Prod.mk.injEq] at hstatus
  obtain ⟨_, -, -, -, state, hanswer, -, hknown, result, hresult, pairs, hpairs, rfl, rfl, rfl⟩ :=
    hstatus
  obtain ⟨-, -, hstatusLoaded, hrunningStatus⟩ := result_of_rpcResult hanswer
  obtain ⟨-, -, hresultLoaded, htrexCmds⟩ := result_of_rpcResult hresult
  exact {
    status := ⟨hstatusLoaded, hrunningStatus⟩
    running := Bool.not_eq_false _ ▸ hknown
    state := (not_not.mp hrunning).2
    command := ⟨result, hresultLoaded, pairs, htrexCmds, hpairs, hcommand⟩
    clean := clean_of_commandsOf hpairs command (List.mem_of_find?_eq_some hcommand)
    expected := rfl
    observed := not_not.mp hsha }

/-! ## Fields of a record that was read back -/

def sorted (record : Fields) : Fields :=
  (sortFields record).insertionSort fun a b => a.1 ≤ b.1

theorem sortKeys_record (record : Fields) : sortKeys (.obj record) = .obj (sorted record) := rfl

theorem get_eq_lookup (fields : Fields) (key : Str) :
    get fields key = (fields.lookup key).getD .null := by
  induction fields with
  | nil => rfl
  | cons field fields ih =>
      rw [PyJson.get, List.find?_cons, List.lookup_cons]
      by_cases hkey : field.1 = key
      · rw [decide_eq_true hkey, show (key == field.1) = true from beq_iff_eq.mpr hkey.symm]
        rfl
      · rw [decide_eq_false hkey, show (key == field.1) = false from
          beq_false_of_ne fun heq => hkey heq.symm]
        exact ih

section Sorted

variable {record : Fields} {key : Str} {value : Value}

theorem lookup_sorted (h : (record.map (·.1)).Nodup) (hmem : (key, value) ∈ record) :
    (sorted record).lookup key = some (sortKeys value) := by
  rw [sorted, lookup_sortKeys h, (lookup_eq_some_iff_mem h).mpr hmem]
  rfl

theorem get_sorted (h : (record.map (·.1)).Nodup) (hmem : (key, value) ∈ record) :
    get (sorted record) key = sortKeys value := by
  rw [get_eq_lookup, lookup_sorted h hmem]
  rfl

theorem lookup_sorted_key (h : (record.map (·.1)).Nodup) (hkey : key ∈ record.map (·.1)) :
    (sorted record).lookup key = some (get (sorted record) key) := by
  obtain ⟨⟨k, value⟩, hmem, rfl⟩ := List.mem_map.mp hkey
  rw [lookup_sorted h hmem, get_sorted h hmem]

end Sorted

/-- The fields of a record are those that were written. Of an object in a field only the order of
its keys is another, which the comparison of dictionaries does not see. -/
def IsAsWritten (entry record : Fields) : Prop :=
  ∀ key, entry.lookup key = (record.lookup key).map sortKeys

theorem lookup_map_keys (keys : List Str) (f : Str → Value) (key : Str) :
    (keys.map fun k => (k, f k)).lookup key = if key ∈ keys then some (f key) else none := by
  induction keys with
  | nil => rfl
  | cons first keys ih =>
      rw [List.map_cons, List.lookup_cons]
      by_cases hkey : key = first
      · subst hkey
        rw [show (key == key) = true from beq_self_eq_true key, if_pos List.mem_cons_self]
      · rw [show (key == first) = false from beq_false_of_ne hkey, ih]
        simp only [List.mem_cons, hkey, false_or]

theorem isAsWritten_of_keys {record : Fields} {keys : List Str} (h : (record.map (·.1)).Nodup)
    (hkeys : ∀ key, key ∈ keys ↔ key ∈ record.map (·.1)) :
    IsAsWritten (keys.map fun key => (key, get (sorted record) key)) record := by
  intro key
  rw [lookup_map_keys]
  by_cases hkey : key ∈ keys
  · rw [if_pos hkey, ← lookup_sorted_key h ((hkeys key).mp hkey), sorted, lookup_sortKeys h]
  · rw [if_neg hkey, ← lookup_sortKeys h]
    symm
    rw [List.lookup_eq_none_iff]
    intro field hfield
    refine bne_iff_ne.mpr fun heq => hkey ((hkeys key).mpr ?_)
    have hmem : field ∈ sortFields record := (perm_sortKeys record).mem_iff.mp hfield
    rw [← map_sortFields, heq]
    exact List.mem_map_of_mem hmem

theorem items_sorted {record : Fields} {keys : List Str} (h : (record.map (·.1)).Nodup)
    (hkeys : ∀ key ∈ keys, key ∈ record.map (·.1)) :
    items (sorted record) keys = .ok (keys.map fun key => (key, get (sorted record) key)) := by
  rw [items, mapM_eq_ok, List.forall₂_map_right_iff, List.forall₂_same]
  intro key hkey
  rw [item, lookup_sorted_key h (hkeys key hkey)]
  rfl

theorem itemIfPresent_sorted {record : Fields} {key : Str} (h : (record.map (·.1)).Nodup)
    (hkey : key ∈ record.map (·.1)) :
    itemIfPresent (sorted record) key = [(key, get (sorted record) key)] := by
  rw [itemIfPresent, lookup_sorted_key h hkey]

/-! ## Records that are read back -/

def IsSeparator (c : Nat) : Prop := c ∈ [0x85, 0x2028, 0x2029]

instance (c : Nat) : Decidable (IsSeparator c) := inferInstanceAs (Decidable (_ ∈ _))

def NoSeparator (s : Str) : Prop := ∀ c ∈ s, ¬IsSeparator c

theorem noSeparator_of_graphic {s : Str} (h : ∀ c ∈ s, IsGraphic c) : NoSeparator s := by
  intro c hc hsep
  have hrange := (h c hc).2
  simp only [IsSeparator, List.mem_cons, List.not_mem_nil, or_false] at hsep
  omega

theorem isTextThat_written {p : Str → Prop} [DecidablePred p] {s : Str} (h : p s) :
    isTextThat p (sortKeys (.str s)) = true :=
  decide_eq_true h

theorem isNoneOr_written {p : Str → Prop} [DecidablePred p] {s : Str} (h : p s) :
    isNoneOr (isTextThat p) (sortKeys (.str s)) = true :=
  Bool.or_eq_true_iff.mpr (.inr (isTextThat_written h))

/-- A record that stands on one line and is accepted. -/
structure Acceptable (record : Fields) : Prop where
  loaded : Loaded (.obj record)
  oneLine : ∀ c, Occurs c (.obj record) → ¬IsSeparator c
  accepted : isDaemonConfigAuditRecord (.obj (sorted record)) = true
  entry : ∃ entry, auditEntry (sorted record) = .ok entry ∧ IsAsWritten entry record

theorem loaded_port {n : Int} (h : 1 ≤ n ∧ n ≤ 65535) : Loaded (.int n) := by
  have hfive : (decimal n.natAbs).length ≤ 5 := by
    rw [decimal, List.length_map]
    refine (Nat.length_toDigits_le_iff (by decide) (by decide)).mpr ?_
    rw [show (10 : Nat) ^ 5 = 100000 from rfl]
    omega
  exact Nat.le_trans hfive (by decide)

/-- The record of a restore whose host and port the reader accepts. -/
structure RestoreCall.OneLine (call : RestoreCall) : Prop where
  configPath : NoSeparator call.env.configPath
  host : NoSeparator call.env.host
  cleanHost : IsCleanText call.env.host
  port : 1 ≤ call.env.daemonPort ∧ call.env.daemonPort ≤ 65535

theorem mem_slice {s : Str} {i : Nat} (start count : Nat) (hi : i < s.length) (hlow : start ≤ i)
    (hhigh : i < start + count) : s[i] ∈ (s.drop start).take count := by
  refine List.mem_take_iff_getElem.mpr ⟨i - start, ?_, ?_⟩
  · rw [List.length_drop]
    omega
  · rw [List.getElem_drop]
    congr 1
    omega

theorem graphic_of_version {name : Str} (h : MatchesVersion name) : ∀ c ∈ name, IsGraphic c := by
  obtain ⟨hshort, hlong, hdate, hT, htime, hZ, hdash, hsource, hdash', hhex, hsuffix⟩ := h
  have hat : ∀ {i c : Nat} (hi : i < name.length), name.getD i 0 = c → name[i] = c := by
    intro i c hi heq
    rwa [List.getD_eq_getElem _ _ hi] at heq
  intro c hc
  obtain ⟨i, hi, rfl⟩ := List.mem_iff_getElem.mp hc
  have hdigit : isDigit name[i] = true → IsGraphic name[i] := by
    intro hd
    simp only [isDigit, Bool.and_eq_true, decide_eq_true_eq] at hd
    exact ⟨by omega, by omega⟩
  by_cases h1 : i < 8
  · exact hdigit (hdate _ (mem_slice 0 8 hi (Nat.zero_le _) (by omega)))
  by_cases h2 : i = 8
  · subst h2
    rw [hat hi hT]
    decide
  by_cases h3 : i < 21
  · exact hdigit (htime _ (mem_slice 9 12 hi (by omega) (by omega)))
  by_cases h4 : i = 21
  · subst h4
    rw [hat hi hZ]
    decide
  by_cases h5 : i = 22
  · subst h5
    rw [hat hi hdash]
    decide
  by_cases h6 : i < name.length - 18
  · exact isGraphic_slug (hsource _ (mem_slice 23 (name.length - 41) hi (by omega) (by omega)))
  by_cases h7 : i = name.length - 18
  · subst h7
    rw [hat hi hdash']
    decide
  by_cases h8 : i < name.length - 5
  · have hlower := hhex _ (mem_slice (name.length - 17) 12 hi (by omega) (by omega))
    simp only [isLowerHex, Bool.or_eq_true, Bool.and_eq_true, decide_eq_true_eq] at hlower
    exact ⟨by omega, by omega⟩
  · have hmem : name[i] ∈ text ".yaml" := by
      rw [← hsuffix]
      exact List.mem_of_mem_take (mem_slice (name.length - 5) 5 hi (by omega) (by omega))
    exact (show ∀ c ∈ text ".yaml", IsGraphic c by decide +kernel) _ hmem

theorem noSeparator_of_versionName {name : Str} (h : isVersionName (.str name) = true) :
    NoSeparator name := by
  unfold isVersionName cleanDaemonConfigVersionName at h
  simp only at h
  split_ifs at h with hbad
  · cases h
  · simp only [not_or, not_not] at hbad
    exact noSeparator_of_graphic (graphic_of_version hbad.2.2.2.2.2.2.2)

theorem oneLine_of_fields {record : Fields} (hkeys : ∀ key ∈ record.map (·.1), NoSeparator key)
    (hvalues : ∀ field ∈ record, ∀ c, Occurs c field.2 → ¬IsSeparator c) :
    ∀ c, Occurs c (.obj record) → ¬IsSeparator c := by
  intro c hc
  obtain ⟨field, hfield, hkey | hvalue⟩ := occursFields_iff.mp hc
  · exact hkeys field.1 (List.mem_map_of_mem hfield) c hkey
  · exact hvalues field hfield c hvalue

theorem noSeparator_joinPath {filesPath : Str} (h : NoSeparator filesPath) (user : Str)
    (content : Bytes) :
    NoSeparator (joinPath filesPath (daemonStartConfigFilename user content)) := by
  have hname := noSeparator_of_graphic (graphic_filename user content)
  unfold joinPath
  split_ifs
  · exact hname
  · exact List.forall_mem_append.mpr ⟨h, hname⟩
  · exact List.forall_mem_append.mpr ⟨h, List.forall_mem_cons.mpr ⟨by decide, hname⟩⟩

theorem noSeparator_hexdigest (message : Bytes) : NoSeparator (hexdigest message) :=
  noSeparator_of_graphic (graphic_hexdigest message)

instance (s : Str) : Decidable (NoSeparator s) := inferInstanceAs (Decidable (∀ c ∈ s, _))

/-! ### A restore -/

namespace RestoreCall

/-- The keys of a record in the order in which they are returned. -/
def keys : List Str :=
  [text "action", text "created_at", text "config_path", text "host", text "daemon_port",
    text "restored_name", text "restored_sha256", text "before_name"]

variable {call : RestoreCall} {name : Str} {content : Bytes} {before : Option VersionRecord}

theorem map_auditRecord : (call.auditRecord name content before).map (·.1)
    = [text "action", text "created_at", text "config_path", text "restored_name",
      text "restored_sha256", text "before_name", text "host", text "daemon_port"] := rfl

theorem nodup_auditRecord : ((call.auditRecord name content before).map (·.1)).Nodup := by
  rw [map_auditRecord]
  decide +kernel

theorem mem_keys (key : Str) :
    key ∈ keys ↔ key ∈ (call.auditRecord name content before).map (·.1) := by
  rw [map_auditRecord]
  have hperm : keys.Perm [text "action", text "created_at", text "config_path",
      text "restored_name", text "restored_sha256", text "before_name", text "host",
      text "daemon_port"] := by decide +kernel
  exact hperm.mem_iff

theorem get_auditRecord {key : Str} {value : Value} (i : Nat)
    (h : (call.auditRecord name content before)[i]? = some (key, value)) :
    get (sorted (call.auditRecord name content before)) key = sortKeys value :=
  get_sorted nodup_auditRecord (List.mem_of_getElem? h)

theorem entry_auditRecord :
    auditEntry (sorted (call.auditRecord name content before))
      = .ok (keys.map fun key => (key, get (sorted (call.auditRecord name content before)) key)) := by
  have hcommon : ∀ key ∈ [text "action", text "created_at", text "config_path", text "host",
      text "daemon_port"], key ∈ keys := by decide +kernel
  have hrestored : ∀ key ∈ [text "restored_name", text "restored_sha256"], key ∈ keys := by
    decide +kernel
  rw [auditEntry,
    items_sorted nodup_auditRecord fun key hkey => (mem_keys key).mp (hcommon key hkey)]
  simp only [bind, Except.bind, get_auditRecord 0 rfl]
  rw [if_pos (by decide +kernel),
    items_sorted nodup_auditRecord fun key hkey => (mem_keys key).mp (hrestored key hkey)]
  rfl

theorem of_record {record : Fields} (h : call.record = .ok (some record)) :
    ∃ name content before, record = call.auditRecord name content before
      ∧ isVersionName (.str name) = true ∧ IsCleanAbsolutePath call.env.configPath
      ∧ ∀ version, before = some version → isVersionName (.str version.name) = true := by
  simp only [RestoreCall.record, bind_eq_ok, pure_eq_ok, refuseIf_eq_ok, Prod.exists,
    Option.some.injEq] at h
  obtain ⟨-, -, name, content, hload, -, hpath, -, -, -, -, -, -, bytes, -, before, hbefore, -, -,
    rfl⟩ := h
  simp only [load, bind_eq_ok, pure_eq_ok, refuseIf_eq_ok, orRefuse_eq_ok, Prod.mk.injEq] at hload
  obtain ⟨name, hname, -, -, -, -, -, -, -, -, -, -, rfl, rfl⟩ := hload
  refine ⟨name, bytes, before, rfl, isVersionName_of_clean hname, not_not.mp hpath, ?_⟩
  rintro version rfl
  unfold backup at hbefore
  split_ifs at hbefore
  · exact (version_of_save (underBlocker_eq_ok.mp hbefore)).1
  · cases hbefore

theorem acceptable {record : Fields} (hline : call.OneLine) (h : call.record = .ok (some record)) :
    Acceptable record := by
  obtain ⟨name, content, before, rfl, hname, hpath, hbefore⟩ := of_record h
  have hnodup := @nodup_auditRecord call name content before
  refine ⟨⟨hnodup, ?_⟩, oneLine_of_fields ?_ ?_, ?_,
    ⟨_, entry_auditRecord, isAsWritten_of_keys hnodup mem_keys⟩⟩
  · rw [loadedFields_iff]
    unfold auditRecord
    simp only [List.forall_mem_cons]
    refine ⟨trivial, trivial, trivial, trivial, trivial, ?_, trivial, loaded_port hline.port, ?_⟩
    · cases before <;> trivial
    · exact fun _ hfield => absurd hfield List.not_mem_nil
  · rw [map_auditRecord]
    decide +kernel
  · unfold auditRecord
    simp only [List.forall_mem_cons]
    refine ⟨show NoSeparator (text "restore") by decide +kernel,
      noSeparator_of_graphic (graphic_isoformat _), hline.configPath,
      noSeparator_of_versionName hname, noSeparator_hexdigest content, ?_, hline.host,
      fun _ hc => hc.elim, fun _ hfield => absurd hfield List.not_mem_nil⟩
    cases before with
    | none => exact fun _ hc => hc.elim
    | some version => exact noSeparator_of_versionName (hbefore version rfl)
  · have hrestored : isRestoreRecord (sorted (call.auditRecord name content before)) = true := by
      rw [isRestoreRecord, get_auditRecord 3 rfl, get_auditRecord 4 rfl, get_auditRecord 5 rfl]
      simp only [Bool.and_eq_true]
      refine ⟨⟨hname, isTextThat_written (isDigest_hexdigest content)⟩, ?_⟩
      cases before with
      | none => rfl
      | some version => exact hbefore version rfl
    rw [isDaemonConfigAuditRecord, get_auditRecord 0 rfl, get_auditRecord 1 rfl,
      get_auditRecord 2 rfl, get_auditRecord 6 rfl, get_auditRecord 7 rfl, hrestored]
    simp only [Bool.and_eq_true]
    exact ⟨⟨⟨⟨⟨isTextThat_written (show IsCleanText (text "restore") by decide +kernel),
      isTextThat_written (isCleanText_isoformat _)⟩,
      isTextThat_written (isCleanText_of_path hpath)⟩, isTextThat_written hline.cleanHost⟩,
      decide_eq_true hline.port⟩, if_pos (by decide +kernel)⟩

end RestoreCall

/-! ### A start -/

theorem get_sortKeys {fields : Fields} (h : (fields.map (·.1)).Nodup) (key : Str) :
    get (sorted fields) key = sortKeys (get fields key) := by
  rw [get_eq_lookup, get_eq_lookup, sorted, lookup_sortKeys h]
  cases fields.lookup key <;> rfl

theorem isTextThat_sortKeys (p : Str → Prop) [DecidablePred p] (value : Value) :
    isTextThat p (sortKeys value) = isTextThat p value := by
  cases value <;> rfl

theorem isStatusIn_sortKeys {states : List Int} {status : Value} (h : Loaded status)
    (hstatus : isStatusIn states status = true) : isStatusIn states (sortKeys status) = true := by
  cases status with
  | obj fields =>
      have hnodup : (fields.map (·.1)).Nodup := h.1
      rw [sortKeys_record, isStatusIn, get_sortKeys hnodup, get_sortKeys hnodup,
        isTextThat_sortKeys]
      rw [isStatusIn] at hstatus
      cases hstate : PyJson.get fields (text "state") with
      | int n =>
          rw [hstate] at hstatus
          exact hstatus
      | _ =>
          rw [hstate] at hstatus
          cases hstatus
  | _ => cases hstatus

namespace StartCall

/-- A start whose texts have no character that ends a line: its user, its host and the files path,
and, if it timed out, the status and the command that are recorded instead of its sequence. -/
structure OneLine (call : StartCall) : Prop where
  user : NoSeparator call.user
  host : NoSeparator call.env.host
  filesPath : ∀ filesPath hloaded, call.filesPath = .result (.str filesPath) hloaded →
    NoSeparator filesPath
  status : call.startTrex = .timeout →
    ∀ status hloaded, call.reconciliation.runningStatus = .result status hloaded →
      ∀ c, Occurs c status → ¬IsSeparator c
  command : call.startTrex = .timeout →
    ∀ filesPath hloaded, call.filesPath = .result (.str filesPath) hloaded →
    ∀ content bytes, contentOr call.configContent call.snapshot = .ok content →
      daemonConfigVersionContentBytes content = .ok bytes →
    ∀ result hloaded commands command, call.reconciliation.trexCmds = .result result hloaded →
      commandsOf result = some commands →
      commands.find? (daemonCommandUsesConfig ·
        (joinPath filesPath (daemonStartConfigFilename call.user bytes))) = some command →
      NoSeparator command

/-- What is known of a start that ended well. -/
inductive HasStarted (call : StartCall) (cfg sha256 : Str) : Started → Prop where
  | sequence {n : Int} (positive : 1 ≤ n) (loaded : Loaded (.int n)) :
      HasStarted call cfg sha256 (.sequence n)
  | recovered {r : Reconciliation} (timeout : call.startTrex = .timeout)
      (reconciled : Reconciled call.reconciliation cfg sha256 r) :
      HasStarted call cfg sha256 (.recovered r)

theorem hasStarted {call : StartCall} {cfg sha256 : Str} {timeout : Int} {started : Started}
    (h : call.start cfg sha256 timeout = .ok started) : HasStarted call cfg sha256 started := by
  unfold start at h
  simp only at h
  split at h
  · rename_i htimeout
    rw [underBlocker_eq_ok] at h
    cases hr : daemonTrexStartReconciliation call.env call.reconciliation cfg sha256 with
    | error e =>
        rw [hr] at h
        cases h
    | ok r =>
        rw [hr] at h
        cases h
        exact .recovered (timeout_of_rpcCall htimeout) (reconciled hr)
  · cases h
  · cases h
  · rename_i n hanswer
    split_ifs at h with hn
    cases h
    obtain ⟨-, -, hloaded, -⟩ := result_of_rpcCall hanswer
    exact .sequence (by omega) hloaded
  · cases h

/-- What a start has checked when it writes its record. -/
structure Recorded (call : StartCall) (version : VersionRecord) (bytes : Bytes) (filesPath : Str)
    (started : Started) : Prop where
  name : isVersionName (.str version.name) = true
  sha256 : version.sha256 = hexdigest bytes
  user : 0 ∉ call.user
  content : ∃ content, contentOr call.configContent call.snapshot = .ok content
    ∧ daemonConfigVersionContentBytes content = .ok bytes
  path : IsFilesPath filesPath
  answered : ∃ hloaded, call.filesPath = .result (.str filesPath) hloaded
  host : IsTrexHost call.env.host
  port : 1 ≤ call.env.daemonPort ∧ call.env.daemonPort ≤ 65535
  started : HasStarted call (joinPath filesPath (daemonStartConfigFilename call.user bytes))
    (hexdigest bytes) started

theorem of_readFilesPath {call : StartCall} {filesPath : Str}
    (h : call.readFilesPath = .ok filesPath) :
    IsFilesPath filesPath ∧ (∃ hloaded, call.filesPath = .result (.str filesPath) hloaded)
      ∧ IsTrexHost call.env.host ∧ (1 ≤ call.env.daemonPort ∧ call.env.daemonPort ≤ 65535) := by
  simp only [readFilesPath, bind_eq_ok] at h
  obtain ⟨result, hresult, hpath⟩ := h
  obtain ⟨hhost, hport, hloaded, hanswer⟩ := result_of_rpcResult hresult
  split at hpath
  · split_ifs at hpath with hfiles
    cases hpath
    exact ⟨hfiles, ⟨hloaded, hanswer⟩, hhost, hport⟩
  · cases hpath

theorem of_record {call : StartCall} {record : Fields} (h : call.record = .ok (some record)) :
    ∃ version bytes filesPath started,
      record = call.auditRecord version (daemonStartConfigFilename call.user bytes) filesPath started
        ∧ Recorded call version bytes filesPath started := by
  simp only [StartCall.record, bind_eq_ok, pure_eq_ok, Option.map_eq_some_iff] at h
  obtain ⟨timeout, hrequest, content, hcontent, bytes, hbytes, version?, hsave, -, -, filesPath,
    hfiles, -, -, started, hstarted, version, rfl, rfl⟩ := h
  obtain ⟨hname, saved, savedBytes, hsaved, hencoded, hsha⟩ :=
    version_of_save (underBlocker_eq_ok.mp hsave)
  cases hsaved
  rw [hbytes] at hencoded
  cases hencoded
  simp only [checkRequest, bind_eq_ok, refuseIf_eq_ok] at hrequest
  obtain ⟨-, -, -, -, -, huser, -⟩ := hrequest
  obtain ⟨hpath, hanswer, hhost, hport⟩ := of_readFilesPath hfiles
  exact ⟨version, bytes, filesPath, started, rfl, {
    name := hname
    sha256 := hsha
    user := huser
    content := ⟨content, hcontent, hbytes⟩
    path := hpath
    answered := hanswer
    host := hhost
    port := hport
    started := hasStarted hstarted }⟩

/-- The keys of a record in the order in which they are returned. -/
def keys : List Str :=
  [text "action", text "created_at", text "config_path", text "host", text "daemon_port",
    text "version_name", text "version_sha256", text "sequence", text "config_filename",
    text "files_path", text "user", text "recovered_from_timeout", text "reconciliation"]

section

variable {call : StartCall} {version : VersionRecord} {filename filesPath : Str}
  {started : Started}

theorem map_auditRecord : (call.auditRecord version filename filesPath started).map (·.1)
    = [text "action", text "created_at", text "config_path", text "version_name",
      text "version_sha256", text "sequence", text "recovered_from_timeout", text "reconciliation",
      text "config_filename", text "files_path", text "user", text "host", text "daemon_port"] := by
  cases started <;> rfl

theorem nodup_auditRecord :
    ((call.auditRecord version filename filesPath started).map (·.1)).Nodup := by
  rw [map_auditRecord]
  decide +kernel

theorem mem_keys (key : Str) :
    key ∈ keys ↔ key ∈ (call.auditRecord version filename filesPath started).map (·.1) := by
  rw [map_auditRecord]
  have hperm : keys.Perm [text "action", text "created_at", text "config_path",
      text "version_name", text "version_sha256", text "sequence", text "recovered_from_timeout",
      text "reconciliation", text "config_filename", text "files_path", text "user", text "host",
      text "daemon_port"] := by decide +kernel
  exact hperm.mem_iff

theorem get_auditRecord {key : Str} {value : Value} (i : Nat)
    (h : (call.auditRecord version filename filesPath started)[i]? = some (key, value)) :
    get (sorted (call.auditRecord version filename filesPath started)) key = sortKeys value :=
  get_sorted nodup_auditRecord (List.mem_of_getElem? h)

theorem entry_auditRecord :
    auditEntry (sorted (call.auditRecord version filename filesPath started))
      = .ok (keys.map fun key =>
        (key, get (sorted (call.auditRecord version filename filesPath started)) key)) := by
  have hcommon : ∀ key ∈ [text "action", text "created_at", text "config_path", text "host",
      text "daemon_port"], key ∈ keys := by decide +kernel
  have hversion : ∀ key ∈ [text "version_name", text "version_sha256", text "sequence"],
      key ∈ keys := by decide +kernel
  have hrecovered : text "recovered_from_timeout" ∈ keys := by decide +kernel
  have hreconciliation : text "reconciliation" ∈ keys := by decide +kernel
  rw [auditEntry,
    items_sorted nodup_auditRecord fun key hkey => (mem_keys key).mp (hcommon key hkey)]
  simp only [bind, Except.bind, get_auditRecord 0 rfl]
  rw [if_neg (by decide +kernel),
    items_sorted nodup_auditRecord fun key hkey => (mem_keys key).mp (hversion key hkey),
    itemIfPresent_sorted nodup_auditRecord ((mem_keys _).mp hrecovered),
    itemIfPresent_sorted nodup_auditRecord ((mem_keys _).mp hreconciliation)]
  rfl

end

/-! #### The reconciliation of a start that timed out -/

section

variable {answers : ReconciliationAnswers} {cfg sha256 : Str} {r : Reconciliation}

theorem map_fields (r : Reconciliation) : r.fields.map (·.1)
    = [text "running", text "status", text "matched_command", text "expected_config_sha256",
      text "observed_config_sha256"] := rfl

theorem nodup_fields (r : Reconciliation) : (r.fields.map (·.1)).Nodup := by
  rw [map_fields]
  decide +kernel

theorem get_fields {key : Str} {value : Value} (i : Nat) (h : r.fields[i]? = some (key, value)) :
    get (sorted r.fields) key = sortKeys value :=
  get_sorted (nodup_fields r) (List.mem_of_getElem? h)

theorem loaded_fields (h : Reconciled answers cfg sha256 r) : Loaded (.obj r.fields) := by
  obtain ⟨hloaded, -⟩ := h.status
  exact ⟨nodup_fields r, trivial, hloaded, trivial, trivial, trivial, trivial⟩

theorem isReconciliation_fields {message : Bytes}
    (h : Reconciled answers cfg (hexdigest message) r) :
    isReconciliation (.str (hexdigest message)) (sortKeys (.obj r.fields)) = true := by
  obtain ⟨hloaded, -⟩ := h.status
  rw [sortKeys_record, isReconciliation, get_fields 0 rfl, get_fields 1 rfl, get_fields 2 rfl,
    get_fields 3 rfl, get_fields 4 rfl, h.expected, h.observed]
  simp only [Bool.and_eq_true]
  refine ⟨⟨⟨⟨rfl, isStatusIn_sortKeys hloaded h.running⟩, isStatusIn_sortKeys hloaded h.state⟩,
    isTextThat_written h.clean⟩, ?_⟩
  simp only [sortKeys, Bool.and_eq_true, decide_eq_true_eq, isDigestText, isTextThat]
  exact ⟨⟨isDigest_hexdigest message, trivial⟩, by simp [Value.isText]⟩

end

/-! #### The record -/

namespace HasStarted

variable {call : StartCall} {cfg : Str} {started : Started}

theorem loaded_entries {sha256 : Str} (h : HasStarted call cfg sha256 started) :
    ∀ field ∈ started.entries, Loaded field.2 := by
  cases h with
  | sequence hpositive hloaded =>
      rw [← loadedFields_iff]
      exact ⟨hloaded, trivial, trivial, trivial⟩
  | recovered htimeout hreconciled =>
      rw [← loadedFields_iff]
      exact ⟨trivial, trivial, loaded_fields hreconciled, trivial⟩

theorem oneLine_entries {content : Str} {bytes message : Bytes} {filesPath : Str}
    {hloaded : Loaded (.str filesPath)} (hline : call.OneLine)
    (hfiles : call.filesPath = .result (.str filesPath) hloaded)
    (hcontent : contentOr call.configContent call.snapshot = .ok content)
    (hbytes : daemonConfigVersionContentBytes content = .ok bytes)
    (h : HasStarted call (joinPath filesPath (daemonStartConfigFilename call.user bytes))
      (hexdigest message) started) :
    ∀ field ∈ started.entries, ∀ c, Occurs c field.2 → ¬IsSeparator c := by
  have hempty : ∀ field ∈ ([] : Fields), ∀ c, Occurs c field.2 → ¬IsSeparator c :=
    fun _ hfield => absurd hfield List.not_mem_nil
  cases h with
  | sequence hpositive hint =>
      simp only [Started.entries, List.forall_mem_cons]
      exact ⟨fun _ hc => hc.elim, fun _ hc => hc.elim, fun _ hc => hc.elim, hempty⟩
  | recovered htimeout hr =>
      rename_i r
      obtain ⟨hstatusLoaded, hstatus⟩ := hr.status
      obtain ⟨result, hresultLoaded, commands, hresult, hcommands, hfind⟩ := hr.command
      have hfields : ∀ c, Occurs c (.obj r.fields) → ¬IsSeparator c := by
        refine oneLine_of_fields (by rw [map_fields]; decide +kernel) ?_
        simp only [Reconciliation.fields, List.forall_mem_cons, hr.expected, hr.observed]
        exact ⟨fun _ hc => hc.elim, hline.status htimeout _ _ hstatus,
          hline.command htimeout _ _ hfiles _ _ hcontent hbytes _ _ _ _ hresult hcommands hfind,
          noSeparator_hexdigest message, noSeparator_hexdigest message, hempty⟩
      simp only [Started.entries, List.forall_mem_cons]
      exact ⟨fun _ hc => hc.elim, fun _ hc => hc.elim, hfields, hempty⟩

end HasStarted

namespace Recorded

variable {call : StartCall} {version : VersionRecord} {bytes : Bytes} {filesPath : Str}
  {started : Started}

theorem isStartRecord_sorted (h : Recorded call version bytes filesPath started) :
    isStartRecord (sorted (call.auditRecord version (daemonStartConfigFilename call.user bytes)
      filesPath started)) = true := by
  have hfilename : IsCleanText (daemonStartConfigFilename call.user bytes) := by
    obtain ⟨c, rest, hname, -⟩ := filename_ends call.user bytes
    exact isCleanText_of_graphic (by rw [hname]; exact List.cons_ne_nil _ _)
      (graphic_filename call.user bytes)
  have hsha := isTextThat_written (isDigest_hexdigest bytes)
  have hcleanName := isNoneOr_written hfilename
  have hpath := isNoneOr_written h.path
  have hcleanUser := isNoneOr_written (isCleanText_daemonUser h.user)
  cases h.started with
  | sequence hpositive _ =>
      rw [isStartRecord, lookup_sorted nodup_auditRecord (List.mem_of_getElem? (i := 6) rfl),
        get_auditRecord 3 rfl, get_auditRecord 4 rfl, get_auditRecord 5 rfl, get_auditRecord 7 rfl,
        get_auditRecord 8 rfl, get_auditRecord 9 rfl, get_auditRecord 10 rfl, h.sha256]
      simp only [Bool.and_eq_true]
      exact ⟨⟨⟨⟨⟨h.name, hsha⟩, decide_eq_true hpositive⟩, hcleanName⟩, hpath⟩, hcleanUser⟩
  | recovered _ hr =>
      rw [isStartRecord, lookup_sorted nodup_auditRecord (List.mem_of_getElem? (i := 6) rfl),
        get_auditRecord 3 rfl, get_auditRecord 4 rfl, get_auditRecord 5 rfl, get_auditRecord 7 rfl,
        get_auditRecord 8 rfl, get_auditRecord 9 rfl, get_auditRecord 10 rfl, h.sha256]
      have hreconciled := isReconciliation_fields hr
      simp only [Bool.and_eq_true]
      exact ⟨⟨⟨⟨⟨h.name, hsha⟩, Bool.and_eq_true_iff.mpr ⟨rfl, hreconciled⟩⟩, hcleanName⟩,
        hpath⟩, hcleanUser⟩

theorem accepted (h : Recorded call version bytes filesPath started) :
    isDaemonConfigAuditRecord (.obj (sorted (call.auditRecord version
      (daemonStartConfigFilename call.user bytes) filesPath started))) = true := by
  have hstart := isStartRecord_sorted h
  have hhost : IsCleanText call.env.host := isCleanText_of_host h.host
  have hpath := isCleanText_joinPath h.path call.user bytes
  cases started <;>
  · rw [isDaemonConfigAuditRecord, get_auditRecord 0 rfl, get_auditRecord 1 rfl,
      get_auditRecord 2 rfl, get_auditRecord 11 rfl, get_auditRecord 12 rfl, hstart]
    simp only [Bool.and_eq_true]
    exact ⟨⟨⟨⟨⟨isTextThat_written (show IsCleanText (text "start") by decide +kernel),
      isTextThat_written (isCleanText_isoformat _)⟩, isTextThat_written hpath⟩,
      isTextThat_written hhost⟩, decide_eq_true h.port⟩,
      (if_neg (by decide +kernel)).trans (if_pos (by decide +kernel))⟩

theorem loaded (h : Recorded call version bytes filesPath started) :
    Loaded (.obj (call.auditRecord version (daemonStartConfigFilename call.user bytes) filesPath
      started)) := by
  refine ⟨nodup_auditRecord, loadedFields_iff.mpr ?_⟩
  have hentries := h.started.loaded_entries
  simp only [auditRecord, List.forall_mem_append, List.forall_mem_cons]
  exact ⟨⟨⟨trivial, trivial, trivial, trivial, trivial, fun _ hfield => absurd hfield
    List.not_mem_nil⟩, hentries⟩, trivial, trivial, trivial, trivial, loaded_port h.port,
    fun _ hfield => absurd hfield List.not_mem_nil⟩

theorem oneLine (hline : call.OneLine) (h : Recorded call version bytes filesPath started) :
    ∀ c, Occurs c (.obj (call.auditRecord version (daemonStartConfigFilename call.user bytes)
      filesPath started)) → ¬IsSeparator c := by
  obtain ⟨content, hcontent, hbytes⟩ := h.content
  obtain ⟨hloaded, hfiles⟩ := h.answered
  have hentries := h.started.oneLine_entries hline hfiles hcontent hbytes
  have hpath := hline.filesPath filesPath hloaded hfiles
  have hname := noSeparator_of_graphic (graphic_filename call.user bytes)
  refine oneLine_of_fields (by rw [map_auditRecord]; decide +kernel) ?_
  simp only [auditRecord, List.forall_mem_append, List.forall_mem_cons, h.sha256]
  refine ⟨⟨⟨show NoSeparator (text "start") by decide +kernel,
    noSeparator_of_graphic (graphic_isoformat _), noSeparator_joinPath hpath _ _,
    noSeparator_of_versionName h.name, noSeparator_hexdigest bytes, ?_⟩, hentries⟩,
    hname, hpath, hline.user, hline.host, fun _ hc => hc.elim, ?_⟩
  all_goals exact fun _ hfield => absurd hfield List.not_mem_nil

end Recorded

theorem acceptable {call : StartCall} {record : Fields} (hline : call.OneLine)
    (h : call.record = .ok (some record)) : Acceptable record := by
  obtain ⟨version, bytes, filesPath, started, rfl, hrecorded⟩ := of_record h
  exact {
    loaded := hrecorded.loaded
    oneLine := hrecorded.oneLine hline
    accepted := hrecorded.accepted
    entry := ⟨_, entry_auditRecord, isAsWritten_of_keys nodup_auditRecord mem_keys⟩ }

end StartCall

end TrexWebui.ConfigAudit
