import TrexWebui.ReleaseEngineSteps

/-!
# Housekeeping

The backups and the releases that the housekeeping of the engine removes are
none that the journal refers to, and none that is selected. Housekeeping
changes nothing else (`Housekept`), also where it is cut short.
-/

namespace TrexWebui.ReleaseEngine

open PyStr PyJson PosixPath Sha2 Checks OracleProgram GuardedRuns

/-! ## The names of the backups -/

theorem slash_not_mem_uuid {id : Str} (h : IsUuid id) : slash ∉ id := by
  intro hmem
  rcases h.2 slash hmem with heq | hhex
  · exact absurd heq (by decide)
  · exact absurd hhex (by decide)

theorem slash_not_mem_root {id : Str} (h : IsUuid id) : slash ∉ hostSnapshotRoot id := by
  rw [hostSnapshotRoot, List.mem_append, not_or]
  exact ⟨by decide, slash_not_mem_uuid h⟩

theorem eq_of_snapshotOwner {id leaf owner : Str} (h : IsUuid id)
    (howner : snapshotOwner (hostSnapshotRoot id ++ slash :: leaf) = some owner) : owner = id := by
  have hdirectory : (hostSnapshotRoot id ++ slash :: leaf).takeWhile (· ≠ slash)
      = hostSnapshotRoot id := by
    rw [List.takeWhile_append_of_pos, List.takeWhile_cons_of_neg, List.append_nil]
    · simp
    · intro c hc
      exact decide_eq_true fun heq => slash_not_mem_root h (heq ▸ hc)
  simp only [snapshotOwner, hdirectory, Option.ite_none_right_eq_some, Option.some.injEq] at howner
  exact howner.2.symm.trans List.drop_left

theorem head_zeroPadded (width n : Nat) : ∃ c, (zeroPadded width n).head? = some c ∧ isDigit c = true := by
  unfold zeroPadded
  cases hzeros : width - (decimal n).length with
  | zero =>
      obtain ⟨c, rest, hdecimal⟩ := List.exists_cons_of_ne_nil (decimal_ne_nil n)
      refine ⟨c, by rw [hdecimal]; rfl, isDigit_decimal (n := n) ?_⟩
      rw [hdecimal]
      exact List.mem_cons_self
  | succ zeros => exact ⟨48, rfl, by decide⟩

/-- A name under the root of a transaction that is not that of a response. -/
def IsSnapshotName (id name : Str) : Prop :=
  ∃ leaf, name = hostSnapshotRoot id ++ slash :: leaf ∧ leaf.head? ≠ some 99

theorem snapshotName_artifact (id : Str) (index : Nat) :
    IsSnapshotName id (hostArtifactBackup id index) := by
  refine ⟨_, rfl, fun hhead => ?_⟩
  obtain ⟨c, hc, hdigit⟩ := head_zeroPadded 4 index
  rw [List.head?_append, hc] at hhead
  obtain rfl := Option.some.inj hhead
  exact absurd hdigit (by decide)

theorem snapshotName_boundary (id : Str) : IsSnapshotName id (boundaryBackup id) :=
  ⟨_, rfl, by decide⟩

theorem snapshotName_helper (id : Str) : IsSnapshotName id (boundaryHelperBackup id) :=
  ⟨_, rfl, by decide⟩

theorem not_snapshotName {id leaf : Str} (h : leaf.head? = some 99) :
    ¬IsSnapshotName id (hostSnapshotRoot id ++ slash :: leaf) := by
  rintro ⟨other, heq, hhead⟩
  have hleaf := List.append_cancel_left heq
  obtain ⟨-, rfl⟩ := List.cons.inj hleaf
  exact hhead h

section Names

variable {host : EngineHost} {files : BackupFiles} {t : Transaction}

theorem boundary_of_some (h : t.Rules host files) {record : NativeBoundary}
    (hrecord : t.nativeBoundary = some record) : record.Proper host files t.transactionId := by
  have hrule := h.boundary
  rw [Transaction.BoundaryRule] at hrule
  split_ifs at hrule
  · obtain ⟨other, hother, hproper⟩ := hrule
    obtain rfl := Option.some.inj (hrecord.symm.trans hother)
    exact hproper
  · rw [hrecord] at hrule
    cases hrule

theorem snapshotName_of_artifact (h : t.Rules host files) {name : Str}
    (hname : name ∈ t.hostArtifacts.flatMap HostArtifact.backups) :
    IsSnapshotName t.transactionId name := by
  obtain ⟨artifact, hmem, hname⟩ := List.mem_flatMap.mp hname
  obtain ⟨paths, -, hproper⟩ := h.artifacts
  obtain ⟨i, path, hproper⟩ := hproper.exists_of_mem hmem
  cases artifact with
  | absent path => cases hname
  | file path backup uid gid mode size sha256 =>
      obtain rfl := List.mem_singleton.mp hname
      rw [hproper.2.2.2.2.2.2]
      exact snapshotName_artifact _ _
  | symlink path uid gid mode size sha256 target => cases hname

theorem snapshotName_of_boundary (h : t.Rules host files) {name : Str}
    (hname : name ∈ t.nativeBoundary.toList.flatMap NativeBoundary.backups) :
    IsSnapshotName t.transactionId name := by
  obtain ⟨record, hmem, hname⟩ := List.mem_flatMap.mp hname
  have hproper := boundary_of_some h (Option.mem_toList.mp hmem)
  simp only [NativeBoundary.backups, List.mem_cons, List.not_mem_nil, or_false] at hname
  rcases hname with rfl | rfl
  · exact hproper.backup ▸ snapshotName_boundary _
  · exact hproper.helperBackup ▸ snapshotName_helper _

theorem root_of_backupName (h : t.Rules host files) {name : Str} (hname : name ∈ t.backupNames) :
    ∃ leaf, name = hostSnapshotRoot t.transactionId ++ slash :: leaf := by
  rw [Transaction.backupNames, List.mem_append, List.mem_append] at hname
  rcases hname with hname | hname | hname
  · obtain ⟨leaf, hleaf, -⟩ := snapshotName_of_artifact h hname
    exact ⟨leaf, hleaf⟩
  · obtain ⟨leaf, hleaf, -⟩ := snapshotName_of_boundary h hname
    exact ⟨leaf, hleaf⟩
  · obtain ⟨record, hmem, hname⟩ := List.mem_flatMap.mp hname
    obtain ⟨i, unit, hproper⟩ := h.baseline.exists_of_mem hmem
    cases record with
    | daemon => cases hname
    | api workingDirectory execStart argv0 resolvedExec => cases hname
    | nginx responseBackup responseSize responseSha256 =>
        obtain rfl := List.mem_singleton.mp hname
        exact ⟨_, hproper.2.1⟩

theorem snapshotName_of_unarmed (h : t.Rules host files) (hunarmed : t.consumerMutationArmed = false)
    {name : Str} (hname : name ∈ t.backupNames) : IsSnapshotName t.transactionId name := by
  rw [Transaction.backupNames, (h.unarmed hunarmed).2, List.flatMap_nil, List.append_nil,
    List.mem_append] at hname
  rcases hname with hname | hname
  · exact snapshotName_of_artifact h hname
  · exact snapshotName_of_boundary h hname

end Names

/-! ## What housekeeping leaves as it is -/

/-- Housekeeping has happened in between. -/
structure Housekept (s s' : EngineState) : Prop where
  journal : s'.journal = s.journal
  current : s'.current = s.current
  previous : s'.previous = s.previous
  artifacts : s'.artifacts = s.artifacts
  /-- The backups that the journal refers to are as they were. -/
  backups : ∀ t ∈ s.journal, ∀ name ∈ t.backupNames,
    s'.backups.lookup name = s.backups.lookup name

theorem Housekept.refl (s : EngineState) : Housekept s s := ⟨rfl, rfl, rfl, rfl, fun _ _ _ _ => rfl⟩

theorem Housekept.trans {s s' s'' : EngineState} (h : Housekept s s') (h' : Housekept s' s'') :
    Housekept s s'' :=
  ⟨h'.journal.trans h.journal, h'.current.trans h.current, h'.previous.trans h.previous,
    h'.artifacts.trans h.artifacts, fun t hjournal name hname =>
      (h'.backups t (h.journal ▸ hjournal) name hname).trans (h.backups t hjournal name hname)⟩

theorem Housekept.removed {s : EngineState} {name : Str}
    (hunused : ∀ t ∈ s.journal, name ∉ t.backupNames) :
    Housekept s (s.change (.removeBackup name)) :=
  ⟨rfl, rfl, rfl, rfl, fun t hjournal _ hother =>
    lookup_filter_ne fun heq => hunused t hjournal (heq ▸ hother)⟩

theorem Housekept.written {s : EngineState} {name : Str} {content : Bytes}
    (hunused : ∀ t ∈ s.journal, name ∉ t.backupNames) :
    Housekept s (s.change (.writeBackup name content)) :=
  ⟨rfl, rfl, rfl, rfl, fun t hjournal _ hother =>
    lookup_cons_ne fun heq => hunused t hjournal (heq ▸ hother)⟩

theorem unused_of_retired {host : EngineHost} {s : EngineState} (h : Consistent host s)
    {t : Transaction} (hjournal : t ∈ s.journal) (hretired : t.rollbackAuthorityRetired = true)
    (name : Str) : name ∉ t.backupNames := by
  rw [((h.rules t hjournal).compact hretired).backupNames]
  exact List.not_mem_nil

section Specs

variable {env : EngineEnvironment} {F : Prop} {w : EngineWorld} {s : EngineState} {α : Type}

theorem gives_spec {q : EngineQuery α} {P : α → Prop} (hq : Gives w F q P) :
    Spec (Running env.host s) w (liftM q : EngineM α) (fun a w' => P a ∧ w' = w)
      fun w' => F ∧ w' = w := by
  refine ⟨fun hI log => ?_⟩
  have h := hq.run log
  rw [Program.liftM_eq]
  rcases hrun : q w log with ⟨r, log'⟩
  rw [hrun] at h
  cases r with
  | ok a => exact ⟨hI, h, rfl⟩
  | error e => exact ⟨hI, h, rfl⟩

theorem bestEffort_spec {body : EngineM Unit} {J : EngineWorld → Prop}
    (h : Spec (Running env.host s) w body (fun _ => J) fun w' => F ∧ J w') :
    Spec (Running env.host s) w (bestEffort body) (fun _ => J) fun w' => F ∧ J w' := by
  refine ⟨fun hI log => ?_⟩
  have hrun := h.run hI log
  rcases hresult : body w log with ⟨⟨r, w'⟩, log'⟩
  rw [hresult] at hrun
  cases r with
  | ok a =>
      have hbody : bestEffort body w log = ((.ok a, w'), log') := by
        simp only [bestEffort, tryCatch, tryCatchThe, MonadExceptOf.tryCatch, hresult]
      rw [hbody]
      exact hrun
  | error e =>
      have hbody : bestEffort body w log
          = (if e = .crashed then throw e else pure () : EngineM Unit) w' log' := by
        simp only [bestEffort, tryCatch, tryCatchThe, MonadExceptOf.tryCatch, hresult]
      rw [hbody]
      split_ifs with hcrashed
      · exact hrun
      · exact ⟨hrun.1, hrun.2.2⟩

variable (hF : ¬env.Cooperative → F)

include hF

theorem removeBackup_spec {c : EngineCheck} {name : Str}
    (hunused : ∀ t ∈ w.journal, name ∉ t.backupNames) :
    Spec (Running env.host s) w (do check env c; perform env (.removeBackup name) : EngineM Unit)
      (fun _ w' => Housekept w.toEngineState w'.toEngineState)
      fun w' => F ∧ Housekept w.toEngineState w'.toEngineState := by
  refine Spec.gives_bind (check_gives hF) (fun h => ⟨h, Housekept.refl _⟩) fun _ _ => ?_
  have hallowed : Allowed env.host w.toEngineState (.removeBackup name) := hunused
  refine (perform_spec hF hallowed).mono (fun _ w' _ hw' => ?_) fun w' _ h => ⟨h.1, ?_⟩
  · rw [hw']
    exact Housekept.removed hunused
  · rcases h.2 with rfl | rfl
    · exact Housekept.refl _
    · exact Housekept.removed hunused

/-- A loop over backups that removes some of them, none of which the journal refers to. -/
theorem removeBackups_spec {backups : List (Str × Bytes)} {body : Str × Bytes → EngineM Unit}
    (hbody : ∀ entry ∈ backups, ∀ w' : EngineWorld, Consistent env.host w'.toEngineState →
      Housekept w.toEngineState w'.toEngineState → body entry = pure () ∨ ∃ c name,
        body entry = (do check env c; perform env (.removeBackup name) : EngineM Unit)
          ∧ ∀ t ∈ w'.journal, name ∉ t.backupNames) :
    Spec (Running env.host s) w (backups.forM body)
      (fun _ w' => Housekept w.toEngineState w'.toEngineState)
      fun w' => F ∧ Housekept w.toEngineState w'.toEngineState := by
  refine Spec.loop (J := fun w' : EngineWorld => Housekept w.toEngineState w'.toEngineState) (Housekept.refl _)
    fun entry hmem w' hI hkept => ?_
  rcases hbody entry hmem w' hI.now hkept with hnone | ⟨c, name, hremove, hunused⟩
  · rw [hnone]
    exact Spec.pure hkept
  · rw [hremove]
    exact (removeBackup_spec hF hunused).mono (fun _ _ _ h => hkept.trans h)
      fun _ _ h => ⟨h.1, hkept.trans h.2⟩

theorem cleanupExcept_spec {id : Str}
    (hown : ∀ t ∈ w.journal, t.rollbackAuthorityRetired = true ∨ t.transactionId = id) :
    Spec (Running env.host s) w (cleanupHostSnapshotsExcept env id)
      (fun _ w' => Housekept w.toEngineState w'.toEngineState)
      fun w' => F ∧ Housekept w.toEngineState w'.toEngineState := by
  refine Spec.asks_bind (removeBackups_spec hF fun entry _ w' hconsistent hkept => ?_)
  cases howner : snapshotOwner entry.1 with
  | none => exact Or.inl rfl
  | some owner =>
      dsimp only
      split_ifs with hid
      · exact Or.inl rfl
      · refine Or.inr ⟨.removableBackups owner, entry.1, rfl, fun t hjournal hname => ?_⟩
        rcases hown t (hkept.journal ▸ hjournal) with hretired | hsame
        · exact unused_of_retired hconsistent hjournal hretired _ hname
        · have hrules := hconsistent.rules t hjournal
          obtain ⟨leaf, hleaf⟩ := root_of_backupName hrules hname
          rw [hleaf] at howner
          exact hid ((eq_of_snapshotOwner hrules.transactionId howner).trans hsame)

theorem cleanup_spec {id : Option Str} (hsettled : Settled w.journal) :
    Spec (Running env.host s) w (cleanupHostSnapshots env id)
      (fun _ w' => Housekept w.toEngineState w'.toEngineState)
      fun w' => F ∧ Housekept w.toEngineState w'.toEngineState := by
  refine Spec.asks_bind (removeBackups_spec hF fun entry _ w' hconsistent hkept => ?_)
  cases howner : snapshotOwner entry.1 with
  | none => exact Or.inl rfl
  | some owner =>
      dsimp only
      split_ifs with hid
      · refine Or.inr ⟨.removableBackups owner, entry.1, rfl, fun t hjournal => ?_⟩
        exact unused_of_retired hconsistent hjournal (hsettled t (hkept.journal ▸ hjournal)) _
      · exact Or.inl rfl

theorem pruneReleases_spec {retained : List Str} (hsettled : Settled w.journal)
    (hcurrent : ∀ d ∈ w.current, d ∈ retained) (hprevious : ∀ d ∈ w.previous, d ∈ retained)
    (hstored : ¬F → ∀ d ∈ retained, d ∈ w.releases) :
    Spec (Running env.host s) w (pruneReleases env retained)
      (fun _ w' => Housekept w.toEngineState w'.toEngineState)
      fun w' => F ∧ Housekept w.toEngineState w'.toEngineState := by
  have hcheck : Spec (Running env.host s) w
      (retained.forM fun digest => (validateSelectedRelease env digest : EngineM Unit))
      (fun _ w' => w' = w) fun w' => F ∧ w' = w := by
    refine Spec.loop (J := fun w' => w' = w) rfl ?_
    rintro digest hmem w' - rfl
    exact (gives_spec (validateSelectedRelease_gives hF fun hn => hstored hn digest hmem)).weaken
      fun _ _ _ h => h.2
  refine Spec.call hcheck ?_ fun w' _ h => ⟨h.1, h.2 ▸ Housekept.refl _⟩
  rintro - w' - rfl
  refine Spec.gives_bind (check_gives hF) (fun h => ⟨h, Housekept.refl _⟩) fun _ _ => ?_
  refine Spec.asks_bind (Spec.loop (J := fun u : EngineWorld => Housekept w'.toEngineState u.toEngineState)
    (Housekept.refl _) fun digest _ u hI hkept => ?_)
  refine Spec.ite (fun _ => Spec.pure hkept) fun hnot => ?_
  refine Spec.gives_bind (check_gives hF) (fun h => ⟨h, hkept⟩) fun _ _ => ?_
  have hallowed : Allowed env.host u.toEngineState (.removeRelease digest) := by
    refine ⟨fun t hjournal => hsettled t (hkept.journal ▸ hjournal), fun h => ?_, fun h => ?_⟩
    · exact hnot (hcurrent digest (hkept.current.symm.trans h))
    · exact hnot (hprevious digest (hkept.previous.symm.trans h))
  refine (perform_spec hF hallowed).mono (fun _ u' _ hu' => ?_) fun u' _ h => ⟨h.1, ?_⟩
  · rw [hu']
    exact hkept.trans ⟨rfl, rfl, rfl, rfl, fun _ _ _ _ => rfl⟩
  · rcases h.2 with rfl | rfl
    · exact hkept
    · exact hkept.trans ⟨rfl, rfl, rfl, rfl, fun _ _ _ _ => rfl⟩

end Specs

end TrexWebui.ReleaseEngine
