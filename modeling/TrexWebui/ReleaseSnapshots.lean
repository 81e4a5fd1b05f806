import TrexWebui.ReleaseRecovery

/-!
# Snapshots

Before a transaction is opened its host artifacts are recorded, and the bytes
of each file are copied to a backup of its own (`snapshotHostArtifacts_spec`).
What is restored from a record is what was recorded (`Records.restores`).
-/

namespace TrexWebui.ReleaseEngine

open PyStr PyJson JsonLines PosixPath Sha2 Checks OracleProgram GuardedRuns

/-! ## Records -/

def HostArtifact.Records (s : EngineState) (node : Option HostNode) : HostArtifact → Prop
  | .absent _ => node = none
  | .file _ backup uid gid mode size sha256 =>
    ∃ content, s.backups.lookup backup = some content ∧ content.length = size
      ∧ hexdigest content = sha256 ∧ node = some (.file uid gid mode 1 content)
  | .symlink _ uid gid mode _ _ target => node = some (.symlink uid gid mode 1 target)

section Records

variable {host : EngineHost} {s s' : EngineState} {t : Transaction} {artifact : HostArtifact}
  {node node' : Option HostNode}

theorem HostArtifact.Records.congr (h : artifact.Records s node)
    (hbackups : ∀ name ∈ artifact.backups, s'.backups.lookup name = s.backups.lookup name) :
    artifact.Records s' node := by
  cases artifact with
  | absent path => exact h
  | file path backup uid gid mode size sha256 =>
      obtain ⟨content, hcontent, hrest⟩ := h
      exact ⟨content, (hbackups backup (List.mem_singleton_self _)).trans hcontent, hrest⟩
  | symlink path uid gid mode size sha256 target => exact h

/-- What is restored from a record is what was recorded. -/
theorem HostArtifact.Records.restores (h : artifact.Records s node)
    (hrules : t.Rules host (s.files host)) (hmem : artifact ∈ t.hostArtifacts)
    (hrestores : artifact.Restores host (s.files host) node') : node' = node := by
  cases artifact with
  | absent path =>
      obtain rfl : node = none := h
      exact hrestores
  | file path backup uid gid mode size sha256 =>
      obtain ⟨content, hcontent, -, -, rfl⟩ := h
      obtain ⟨content', hload, rfl⟩ := hrestores
      obtain ⟨hcontent', -, -⟩ := loadBackup_files hload
      obtain rfl := Option.some.inj (hcontent.symm.trans hcontent')
      rfl
  | symlink path uid gid mode size sha256 target =>
      obtain ⟨paths, -, hproper⟩ := hrules.artifacts
      obtain ⟨i, path, -, -, -, hmode, -⟩ := hproper.exists_of_mem hmem
      obtain rfl : node = some (.symlink uid gid mode 1 target) := h
      obtain rfl : node' = some (.symlink uid gid 0o777 1 target) := hrestores
      rw [hmode]

end Records

theorem ofDecimal_zeroPadded (width n : Nat) : ofDecimal (zeroPadded width n) = n := by
  rw [zeroPadded]
  induction width - (decimal n).length with
  | zero => exact ofDecimal_decimal n
  | succ zeros ih =>
      rw [List.replicate_succ, List.cons_append]
      exact ih

theorem hostArtifactBackup_injective {id : Str} {i j : Nat}
    (h : hostArtifactBackup id i = hostArtifactBackup id j) : i = j := by
  have hpadded := List.append_cancel_right (List.cons.inj (List.append_cancel_left h)).2
  rw [← ofDecimal_zeroPadded 4 i, hpadded, ofDecimal_zeroPadded]

theorem hostArtifactBackup_ne {id leaf : Str} (i : Nat)
    (hleaf : ∀ c ∈ leaf.head?, isDigit c = false) :
    hostArtifactBackup id i ≠ hostSnapshotRoot id ++ slash :: leaf := by
  intro heq
  have htail := (List.cons.inj (List.append_cancel_left heq)).2
  obtain ⟨c, hc, hdigit⟩ := head_zeroPadded 4 i
  have hhead : leaf.head? = some c := by rw [← htail, List.head?_append, hc]; rfl
  rw [hleaf c hhead] at hdigit
  cases hdigit

section Specs

variable {env : EngineEnvironment} {w : EngineWorld} {s : EngineState} {t : Transaction}

theorem excused (env : EngineEnvironment) : ¬env.Cooperative → True := fun _ => trivial

/-! ## Snapshots -/

theorem unused_of_settled (hconsistent : Consistent env.host s) (hsettled : Settled s.journal)
    (name : Str) : ∀ t ∈ s.journal, name ∉ t.backupNames := fun t hjournal =>
  unused_of_retired hconsistent hjournal (hsettled t hjournal) name

theorem writeBackup_spec {name : Str} {content : Bytes} (hsettled : Settled w.journal) :
    Spec (Running env.host s) w (perform env (.writeBackup name content))
      (fun _ w' => Housekept w.toEngineState w'.toEngineState
        ∧ w'.backups = (name, content) :: w.backups) fun _ => True := by
  refine Spec.assume fun hI => ?_
  have hallowed : Allowed env.host w.toEngineState (.writeBackup name content) :=
    unused_of_settled hI.now hsettled name
  refine (perform_spec (excused env) hallowed).mono (fun _ w' _ hw' => ?_) fun _ _ _ => trivial
  rw [hw']
  exact ⟨Housekept.written hallowed, rfl⟩

theorem snapshotHostArtifact_spec {id path : Str} {index : Nat} (hsettled : Settled w.journal) :
    Spec (Running env.host s) w (snapshotHostArtifact env id index path)
      (fun artifact w' => Housekept w.toEngineState w'.toEngineState
        ∧ artifact.Records w'.toEngineState (w.artifacts artifact.path)
        ∧ (∀ name ∈ artifact.backups, name = hostArtifactBackup id index)
        ∧ ∀ name, name ≠ hostArtifactBackup id index →
          w'.backups.lookup name = w.backups.lookup name) fun _ => True := by
  refine Spec.query_bind trivial fun _ => Spec.query_bind trivial fun _ => Spec.asks_bind ?_
  rcases hfound : w.artifacts path with _ | ⟨uid, gid, mode, nlink, content⟩ |
      ⟨uid, gid, mode, nlink, target⟩ | ⟨uid, gid, mode, nlink⟩
  · refine Spec.pure ⟨Housekept.refl _, ?_, (fun _ h => absurd h List.not_mem_nil), fun _ _ => rfl⟩
    rw [HostArtifact.path, hfound]
    rfl
  · refine Spec.gives_bind (failIf_gives fun _ => trivial) (fun h => h) fun _ howned => ?_
    have hlink : nlink = 1 := not_not.mp (not_or.mp howned).2
    refine Spec.query_bind trivial fun _ => ?_
    refine Spec.next (writeBackup_spec hsettled) fun _ w' _ h => Spec.pure ?_
    obtain ⟨hkept, hbackups⟩ := h
    refine ⟨hkept, ?_, fun _ h => List.mem_singleton.mp h, fun name hname => ?_⟩
    · rw [HostArtifact.path, hfound]
      refine ⟨content, ?_, rfl, rfl, by rw [hlink]⟩
      rw [hbackups, List.lookup_cons_self]
    · rw [hbackups, lookup_cons_ne hname]
  · refine Spec.gives_bind (failIf_gives fun _ => trivial) (fun h => h) fun _ howned => ?_
    have hlink : nlink = 1 := not_not.mp (not_or.mp howned).2
    refine Spec.query_bind trivial fun encoded => Spec.query_bind trivial fun _ => ?_
    refine Spec.pure ⟨Housekept.refl _, ?_, (fun _ h => absurd h List.not_mem_nil), fun _ _ => rfl⟩
    rw [HostArtifact.path, hfound, hlink]
    rfl
  · exact Spec.throw trivial

/-- What a snapshot of several artifacts leaves: each record has its own backup. -/
structure Snapshot (id : Str) (index : Nat) (s : EngineState) (artifacts : List HostArtifact)
    (s' : EngineState) : Prop where
  kept : Housekept s s'
  records : ∀ a ∈ artifacts, a.Records s' (s.artifacts a.path)
  backups : ∀ a ∈ artifacts, ∀ name ∈ a.backups, ∃ i ≥ index, name = hostArtifactBackup id i
  others : ∀ name, (∀ i ≥ index, name ≠ hostArtifactBackup id i) →
    s'.backups.lookup name = s.backups.lookup name

theorem Snapshot.nil {id : Str} {index : Nat} {s : EngineState} : Snapshot id index s [] s where
  kept := Housekept.refl s
  records := fun _ h => absurd h List.not_mem_nil
  backups := fun _ h => absurd h List.not_mem_nil
  others := fun _ _ => rfl

theorem snapshotPaths_spec {id : Str} {index : Nat} {paths : List Str}
    (hsettled : Settled w.journal) :
    Spec (Running env.host s) w (snapshotPaths env id index paths)
      (fun artifacts w' => Snapshot id index w.toEngineState artifacts w'.toEngineState)
      fun _ => True := by
  induction paths generalizing w index with
  | nil => exact Spec.pure Snapshot.nil
  | cons path paths ih =>
      refine Spec.next (snapshotHostArtifact_spec hsettled) fun artifact w' _ h => ?_
      obtain ⟨hkept, hrecords, hname, hothers⟩ := h
      refine Spec.next (ih (hkept.journal ▸ hsettled)) fun artifacts w'' _ h => Spec.pure ?_
      -- the backup of the first record is under a smaller number than those of the rest
      have hfirst : w''.backups.lookup (hostArtifactBackup id index)
          = w'.backups.lookup (hostArtifactBackup id index) :=
        h.others _ fun i hi heq => absurd (hostArtifactBackup_injective heq) (by omega)
      refine ⟨hkept.trans h.kept, fun a ha => ?_, fun a ha name hmem => ?_, fun name hnew => ?_⟩
      · rcases List.mem_cons.mp ha with rfl | ha
        · exact hrecords.congr fun name hmem => hname name hmem ▸ hfirst
        · rw [← hkept.artifacts]
          exact h.records a ha
      · rcases List.mem_cons.mp ha with rfl | ha
        · exact ⟨index, le_rfl, hname name hmem⟩
        · obtain ⟨i, hi, heq⟩ := h.backups a ha name hmem
          exact ⟨i, by omega, heq⟩
      · rw [h.others name fun i hi => hnew i (by omega), hothers name (hnew index le_rfl)]

theorem snapshotHostArtifacts_spec {id : Str} {paths : List Str} (hsettled : Settled w.journal) :
    Spec (Running env.host s) w (snapshotHostArtifacts env id paths)
      (fun artifacts w' => Snapshot id 0 w.toEngineState artifacts w'.toEngineState)
      fun _ => True := by
  refine Spec.query_bind trivial fun _ => Spec.ite (fun _ => Spec.pure Snapshot.nil) fun _ => ?_
  exact Spec.query_bind trivial fun _ => snapshotPaths_spec hsettled

def BoundarySnapshot (id : Str) (s s' : EngineState) : Prop :=
  Housekept s s' ∧ ∀ i, s'.backups.lookup (hostArtifactBackup id i)
    = s.backups.lookup (hostArtifactBackup id i)

theorem snapshotNativeBoundary_spec {id : Str} (hsettled : Settled w.journal) :
    Spec (Running env.host s) w (snapshotNativeBoundary env id)
      (fun _ w' => BoundarySnapshot id w.toEngineState w'.toEngineState) fun _ => True := by
  refine Spec.query_bind trivial fun _ => Spec.query_bind trivial fun helper =>
    Spec.query_bind trivial fun _ => ?_
  refine Spec.next (writeBackup_spec hsettled) fun _ w' _ h => ?_
  obtain ⟨hkept, hbackups⟩ := h
  refine Spec.query_bind trivial fun snapshot => ?_
  refine Spec.next (writeBackup_spec (hkept.journal ▸ hsettled)) fun _ w'' _ h => ?_
  obtain ⟨hkept', hbackups'⟩ := h
  refine Spec.query_bind trivial fun _ => Spec.query_bind trivial fun state => ?_
  refine Spec.pure ⟨hkept.trans hkept', fun i => ?_⟩
  have hsnapshot : hostArtifactBackup id i ≠ boundaryBackup id := hostArtifactBackup_ne i (by decide)
  have hhelper : hostArtifactBackup id i ≠ boundaryHelperBackup id :=
    hostArtifactBackup_ne i (by decide)
  rw [hbackups', lookup_cons_ne hsnapshot, hbackups, lookup_cons_ne hhelper]

theorem snapshotBoundaryOf_spec {profile : Option HostProfile} {id : Str}
    (hsettled : Settled w.journal) :
    Spec (Running env.host s) w (snapshotBoundaryOf env profile id)
      (fun _ w' => BoundarySnapshot id w.toEngineState w'.toEngineState) fun _ => True := by
  refine Spec.ite (fun _ => ?_) fun _ => Spec.pure ⟨Housekept.refl _, fun _ => rfl⟩
  rw [map_eq_pure_bind]
  exact Spec.next (snapshotNativeBoundary_spec hsettled) fun _ _ _ h => Spec.pure h

end Specs

end TrexWebui.ReleaseEngine
