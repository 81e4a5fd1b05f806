import TrexWebui.ReleaseHousekeeping

/-!
# Restoration

The host artifacts that `_restore_host_artifacts` has put back are what their
records say (`restoreHostArtifacts_spec`): each record stands for one path,
and no path stands in two of them. What was restored can be checked, and so
can the native boundary, as long as the journal refers to their backups.
-/

namespace TrexWebui.ReleaseEngine

open PyStr PyJson PosixPath Sha2 Checks OracleProgram GuardedRuns

/-! ## Records and backups -/

section Records

variable {host : EngineHost} {files : BackupFiles} {s : EngineState} {t : Transaction}

def Replaceable (host : EngineHost) : Option HostNode → Prop
  | none => True
  | some (.special _ _ _ _) => False
  | some node => node.uid = host.expectedUid ∧ node.nlink = 1

theorem loadBackup_files {label : String} {missing : JournalError} {limit : Option Nat}
    {backup : Str} {size : Nat} {digest : Str} {content : Bytes}
    (h : loadBackup host (s.files host) label missing limit backup size digest = .ok content) :
    s.backups.lookup backup = some content ∧ content.length = size ∧ hexdigest content = digest := by
  simp only [loadBackup, bind_eq_ok, refuseIf_eq_ok, orRefuse_eq_ok, exists_const, EngineState.files,
    Option.map_eq_some_iff] at h
  obtain ⟨-, node, ⟨bytes, hlookup, rfl⟩, h⟩ := h
  simp only [EngineState.backupNode, bind_eq_ok, refuseIf_eq_ok, exists_const, pure_eq_ok, not_or,
    not_not, ne_eq] at h
  obtain ⟨⟨-, -, -, hsize⟩, -, hdigest, rfl⟩ := h
  exact ⟨hlookup, hsize, hdigest⟩

theorem checkHostBackup_of_mem {artifacts : List HostArtifact}
    (h : artifacts.forM (checkHostBackup host files) = .ok ()) {artifact : HostArtifact}
    (hmem : artifact ∈ artifacts) : checkHostBackup host files artifact = .ok () := by
  induction artifacts with
  | nil => cases hmem
  | cons first artifacts ih =>
      rw [List.forM, bind_eq_ok] at h
      obtain ⟨_, hfirst, hrest⟩ := h
      rcases List.mem_cons.mp hmem with rfl | hmem
      · exact hfirst
      · exact ih hrest hmem

theorem map_path {id : Str} {index : Nat} {paths : List Str} {artifacts : List HostArtifact}
    (h : ProperArtifacts host id index paths artifacts) :
    artifacts.map HostArtifact.path = paths := by
  refine h.map_eq fun i path artifact hartifact => ?_
  cases artifact with
  | absent p => exact hartifact
  | file p backup uid gid mode size sha256 => exact hartifact.1
  | symlink p uid gid mode size sha256 target => exact hartifact.1

theorem nodup_paths (h : t.Rules host files) : (t.hostArtifacts.map HostArtifact.path).Nodup := by
  obtain ⟨paths, hpaths, hproper⟩ := h.artifacts
  rw [map_path hproper]
  unfold expectedHostPaths at hpaths
  split_ifs at hpaths
  · obtain rfl := Except.ok.inj hpaths
    exact List.nodup_nil
  · cases hprofile : t.hostProfile with
    | none =>
        rw [hprofile] at hpaths
        obtain rfl := Except.ok.inj hpaths
        exact host.distinct
    | some profile =>
        rw [hprofile] at hpaths
        simp only [hostPathsForProfile, bind_eq_ok, refuseIf_eq_ok, exists_const, pure_eq_ok] at hpaths
        obtain ⟨-, rfl⟩ := hpaths
        cases profile <;> decide +kernel

theorem isMet_restored (h : t.Rules host (s.files host)) {artifact : HostArtifact}
    (hmem : artifact ∈ t.hostArtifacts) {node : Option HostNode}
    (hnode : artifact.Restores host (s.files host) node) : artifact.isMet node = true := by
  obtain ⟨paths, -, hproper⟩ := h.artifacts
  obtain ⟨i, path, hproper⟩ := hproper.exists_of_mem hmem
  cases artifact with
  | absent p =>
      obtain rfl : node = none := hnode
      rfl
  | file p backup uid gid mode size sha256 =>
      obtain ⟨content, hcontent, rfl⟩ := hnode
      obtain ⟨-, hsize, hdigest⟩ := loadBackup_files hcontent
      simp [HostArtifact.isMet, hsize, hdigest]
  | symlink p uid gid mode size sha256 target =>
      obtain rfl : node = some (.symlink uid gid 0o777 1 target) := hnode
      obtain ⟨-, -, -, hmode, -⟩ := hproper
      simp [HostArtifact.isMet, hmode]

/-- What stands at the paths is what the records and the backups make of them. -/
def Transaction.RestoredFrom (t : Transaction) (host : EngineHost) (files : BackupFiles)
    (s : EngineState) : Prop :=
  ∀ artifact ∈ t.hostArtifacts, artifact.Restores host files (s.artifacts artifact.path)

theorem Transaction.RestoredFrom.met {s' : EngineState} (h : t.RestoredFrom host (s.files host) s')
    (hrules : t.Rules host (s.files host)) : t.ArtifactsMet s' := fun artifact hmem =>
  isMet_restored hrules hmem (h artifact hmem)

end Records

section Specs

variable {env : EngineEnvironment} {F : Prop} {w : EngineWorld} {s : EngineState} {t : Transaction}
  {α : Type}

theorem gives_forM {γ : Type} {body : γ → EngineQuery PUnit} {S : γ → Prop} {l : List γ}
    (h : ∀ x ∈ l, Gives w F (body x) fun _ => S x) :
    Gives w F (l.forM body) fun _ => ∀ x ∈ l, S x := by
  induction l with
  | nil => exact Gives.pure fun x hx => absurd hx List.not_mem_nil
  | cons x rest ih =>
      refine Gives.call (h x List.mem_cons_self) fun _ hx => ?_
      refine (ih fun y hy => h y (List.mem_cons_of_mem x hy)).mono fun _ hrest y hy => ?_
      rcases List.mem_cons.mp hy with rfl | hy
      · exact hx
      · exact hrest y hy

variable (hF : ¬env.Cooperative → F)

include hF

theorem assertReplaceable_gives {path : Str}
    (hreplaceable : ¬F → Replaceable env.host (w.artifacts path)) :
    Gives w F (assertReplaceableHostTarget env path) fun _ => True := by
  refine Gives.call (check_gives hF) fun _ _ => Gives.call (check_gives hF) fun _ _ =>
    Gives.asks_bind ?_
  have hstuck : ¬Replaceable env.host (w.artifacts path) → F := fun h =>
    not_not.mp fun hn => h (hreplaceable hn)
  rcases hfound : w.artifacts path with _ | ⟨uid, gid, mode, nlink, content⟩ |
      ⟨uid, gid, mode, nlink, target⟩ | ⟨uid, gid, mode, nlink⟩
  · exact Gives.pure trivial
  · refine (failIf_gives fun h => hstuck ?_).mono fun _ _ => trivial
    rw [hfound]
    exact fun hown => h.elim (fun hu => hu hown.1) fun hl => hl hown.2
  · refine (failIf_gives fun h => hstuck ?_).mono fun _ _ => trivial
    rw [hfound]
    exact fun hown => h.elim (fun hu => hu hown.1) fun hl => hl hown.2
  · refine ⟨fun _ => hstuck ?_⟩
    rw [hfound]
    exact id

theorem restoreHostArtifact_spec {artifact : HostArtifact} (hjournal : w.journal = some t)
    (hphase : t.phase = .restoringHostArtifacts) (hmem : artifact ∈ t.hostArtifacts)
    (hreplaceable : ¬F → Replaceable env.host (w.artifacts artifact.path)) :
    Spec (Running env.host s) w (restoreHostArtifact env artifact)
      (fun _ w' => ∃ node, artifact.Restores env.host (w.files env.host) node ∧ w'.toEngineState
        = { w.toEngineState with artifacts := Function.update w.artifacts artifact.path node })
      fun _ => F := by
  refine Spec.assume fun hI => ?_
  have hrules := hI.now.rules t hjournal
  refine Spec.gives_bind (assertReplaceable_gives hF hreplaceable) id fun _ _ => ?_
  have hcontent : Gives w F (restoredContent env artifact) fun content =>
      artifact.Restores env.host (w.files env.host) (artifact.restored content) := by
    cases artifact with
    | absent p => exact Gives.pure rfl
    | file p backup uid gid mode size sha256 =>
        have hcheck := checkHostBackup_of_mem hrules.backups hmem
        simp only [checkHostBackup, bind_eq_ok] at hcheck
        obtain ⟨content, hload, -⟩ := hcheck
        refine Gives.asks_bind ((raised_gives fun _ => ⟨content, hload⟩).mono fun c hc => ?_)
        exact ⟨c, hc, rfl⟩
    | symlink p uid gid mode size sha256 target => exact Gives.pure rfl
  refine Spec.gives_bind hcontent id fun content hrestores => ?_
  have hallowed : Allowed env.host w.toEngineState
      (.replaceArtifact artifact.path (artifact.restored content)) :=
    ⟨t, hjournal, hphase, artifact, hmem, rfl, hrestores⟩
  refine Spec.call (perform_spec hF hallowed) (fun _ w' _ hw' => ?_) fun _ _ h => h.1
  have hdone : ∃ node, artifact.Restores env.host (w.files env.host) node ∧ w'.toEngineState
      = { w.toEngineState with artifacts := Function.update w.artifacts artifact.path node } :=
    ⟨_, hrestores, by rw [hw']; rfl⟩
  cases artifact with
  | absent p => exact Spec.pure hdone
  | file p backup uid gid mode size sha256 =>
      exact (gives_spec (check_gives hF)).mono (fun _ _ _ h => h.2 ▸ hdone) fun _ _ h => h.1
  | symlink p uid gid mode size sha256 target =>
      exact (gives_spec (check_gives hF)).mono (fun _ _ _ h => h.2 ▸ hdone) fun _ _ h => h.1

theorem restoreEach_spec {artifacts : List HostArtifact} (hjournal : w.journal = some t)
    (hphase : t.phase = .restoringHostArtifacts) (hmem : ∀ a ∈ artifacts, a ∈ t.hostArtifacts)
    (hnodup : (artifacts.map HostArtifact.path).Nodup)
    (hreplaceable : ¬F → ∀ a ∈ artifacts, Replaceable env.host (w.artifacts a.path)) :
    Spec (Running env.host s) w (artifacts.forM (restoreHostArtifact env))
      (fun _ w' => w'.toEngineState = { w.toEngineState with artifacts := w'.artifacts }
        ∧ (∀ a ∈ artifacts, a.Restores env.host (w.files env.host) (w'.artifacts a.path))
        ∧ ∀ path ∉ artifacts.map HostArtifact.path, w'.artifacts path = w.artifacts path)
      fun _ => F := by
  induction artifacts generalizing w with
  | nil =>
      refine Spec.pure ⟨rfl, ?_, fun _ _ => rfl⟩
      intro a ha
      cases ha
  | cons first artifacts ih =>
      rw [List.map_cons, List.nodup_cons] at hnodup
      refine Spec.next (restoreHostArtifact_spec hF hjournal hphase (hmem first List.mem_cons_self)
        fun hn => hreplaceable hn first List.mem_cons_self) fun _ w' _ hw' => ?_
      obtain ⟨node, hrestores, hstate⟩ := hw'
      have hfiles : w'.files env.host = w.files env.host := by
        rw [hstate]
        rfl
      have hjournal' : w'.journal = some t := by
        rw [hstate]
        exact hjournal
      have hartifacts : w'.artifacts = Function.update w.artifacts first.path node :=
        congrArg EngineState.artifacts hstate
      have hother : ∀ a ∈ artifacts, a.path ≠ first.path := fun a ha heq =>
        hnodup.1 (heq ▸ List.mem_map_of_mem ha)
      refine (ih hjournal' (fun a ha => hmem a (List.mem_cons_of_mem _ ha)) hnodup.2
        fun hn a ha => ?_).weaken fun _ w'' _ h => ?_
      · rw [hartifacts, Function.update_of_ne (hother a ha)]
        exact hreplaceable hn a (List.mem_cons_of_mem _ ha)
      · obtain ⟨hkept, hrest, hframe⟩ := h
        refine ⟨?_, fun a ha => ?_, fun path hpath => ?_⟩
        · rw [hkept, hstate]
        · rcases List.mem_cons.mp ha with rfl | ha
          · rw [hframe _ hnodup.1, hartifacts, Function.update_self]
            exact hrestores
          · exact hfiles ▸ hrest a ha
        · rw [List.map_cons, List.mem_cons, not_or] at hpath
          rw [hframe path hpath.2, hartifacts, Function.update_of_ne hpath.1]

/-- Every host artifact of the transaction is restored. -/
theorem restoreHostArtifacts_spec (hjournal : w.journal = some t)
    (hphase : t.phase = .restoringHostArtifacts)
    (hreplaceable : ¬F → ∀ a ∈ t.hostArtifacts, Replaceable env.host (w.artifacts a.path)) :
    Spec (Running env.host s) w (restoreHostArtifacts env t)
      (fun _ w' => w'.toEngineState = { w.toEngineState with artifacts := w'.artifacts }
        ∧ t.RestoredFrom env.host (w.files env.host) w'.toEngineState) fun _ => F := by
  refine Spec.assume fun hI => ?_
  have hnodup := nodup_paths (hI.now.rules t hjournal)
  refine Spec.next (restoreEach_spec hF hjournal hphase (fun a ha => ha) hnodup hreplaceable)
    fun _ w' _ hw' => ?_
  obtain ⟨hstate, hrestored, -⟩ := hw'
  refine Spec.ite (fun _ => Spec.pure ⟨hstate, hrestored⟩) fun _ => ?_
  have hallowed : Allowed env.host w'.toEngineState .daemonReload := by
    refine ⟨t, ?_, by rw [hphase]; decide⟩
    rw [hstate]
    exact hjournal
  refine (perform_spec hF hallowed).mono (fun _ w'' _ hw'' => ?_) fun _ _ h => h.1
  rw [hw'']
  exact ⟨hstate, hrestored⟩

/-! ## What was restored can be checked -/

theorem verifyHostArtifactsExact_gives (hmet : ¬F → t.ArtifactsMet w.toEngineState) :
    Gives w F (verifyHostArtifactsExact env t) fun _ => t.ArtifactsMet w.toEngineState := by
  refine gives_forM fun artifact hmem => ?_
  refine Gives.call (check_gives hF) fun _ _ => Gives.asks_bind ?_
  refine (failIf_gives fun h => not_not.mp fun hn => ?_).mono fun _ h => ?_
  · have hartifact := hmet hn artifact hmem
    rw [h] at hartifact
    cases hartifact
  · exact Bool.of_not_eq_false h

/-- The check of the artifacts, which reloads systemd, changes nothing that it checks. -/
theorem verifyRestoredHostArtifacts_spec (hjournal : w.journal = some t)
    (hphase : t.phase ∈ [.startingBaselineConsumers, .rolledBack])
    (hmet : ¬F → t.ArtifactsMet w.toEngineState) :
    Spec (Running env.host s) w (verifyRestoredHostArtifacts env t)
      (fun _ w' => w'.toEngineState = w.toEngineState ∧ t.ArtifactsMet w.toEngineState)
      fun _ => F := by
  refine Spec.gives_bind (verifyHostArtifactsExact_gives hF hmet) id fun _ hmet => ?_
  have hlabels : Spec (Running env.host s) w
      ((t.hostArtifacts.filter fun artifact => !artifact.isAbsent).forM fun artifact =>
        (check env (.relabel artifact.path) : EngineM Unit))
      (fun _ w' => w' = w) fun _ => F := by
    refine Spec.loop (J := fun w' => w' = w) rfl ?_
    rintro artifact - w' - rfl
    exact (gives_spec (check_gives hF)).mono (fun _ _ _ h => h.2) fun _ _ h => h.1
  refine Spec.call hlabels ?_ fun _ _ h => h
  rintro - w' - rfl
  refine Spec.ite (fun _ => Spec.pure ⟨rfl, hmet⟩) fun _ => ?_
  have hallowed : Allowed env.host w'.toEngineState .daemonReload := by
    refine ⟨t, hjournal, ?_⟩
    simp only [List.mem_cons, List.not_mem_nil, or_false] at hphase ⊢
    exact Or.inr (Or.inr hphase)
  refine (perform_spec hF hallowed).mono (fun _ w'' _ hw'' => ?_) fun _ _ h => h.1
  rw [hw'']
  exact ⟨rfl, hmet⟩

omit hF in
theorem loadNativeBoundary_gives {record : NativeBoundary} {id : Str}
    (hproper : record.Proper env.host (w.files env.host) id) :
    Gives w F (loadNativeBoundary env record) fun _ => True := by
  obtain ⟨snapshot, hsnapshot, -⟩ := hproper.snapshot
  obtain ⟨helper, hhelper, -⟩ := hproper.helper
  exact Gives.asks_bind (Gives.call (raised_gives fun _ => ⟨snapshot, hsnapshot⟩) fun _ _ =>
    Gives.call (raised_gives fun _ => ⟨helper, hhelper⟩) fun _ _ => Gives.pure trivial)

theorem verifyNativeBoundary_gives (hrules : t.Rules env.host (w.files env.host)) :
    Gives w F (verifyNativeBoundary env t) fun _ => True := by
  unfold verifyNativeBoundary
  cases hboundary : t.nativeBoundary with
  | none => exact Gives.pure trivial
  | some record =>
      exact Gives.call (loadNativeBoundary_gives (boundary_of_some hrules hboundary)) fun _ _ =>
        check_gives hF

theorem restoreNativeBoundary_spec (hjournal : w.journal = some t)
    (hphase : t.phase = .restoringNativeBoundary) :
    Spec (Running env.host s) w (restoreNativeBoundary env t)
      (fun _ w' => w'.toEngineState = w.toEngineState) fun _ => F := by
  refine Spec.assume fun hI => ?_
  have hrules := hI.now.rules t hjournal
  unfold restoreNativeBoundary
  cases hboundary : t.nativeBoundary with
  | none => exact Spec.pure rfl
  | some record =>
      refine Spec.gives_bind (loadNativeBoundary_gives (boundary_of_some hrules hboundary)) id
        fun _ _ => ?_
      have hallowed : Allowed env.host w.toEngineState (.restoreBoundary record) :=
        ⟨t, hjournal, hphase, hboundary⟩
      refine Spec.call (perform_spec hF hallowed) (fun _ w' hI' hw' => ?_) fun _ _ h => h.1
      obtain rfl := hw'
      exact (gives_spec (verifyNativeBoundary_gives hF (hI'.now.rules t hjournal))).mono
        (fun _ _ _ h => h.2 ▸ rfl) fun _ _ h => h.1

theorem verifyRestored_spec (hjournal : w.journal = some t)
    (hphase : t.phase ∈ [.startingBaselineConsumers, .rolledBack])
    (hmet : ¬F → t.rollbackRestored = true → t.ArtifactsMet w.toEngineState) :
    Spec (Running env.host s) w (verifyRestored env t)
      (fun _ w' => w'.toEngineState = w.toEngineState
        ∧ (t.rollbackRestored = true → t.ArtifactsMet w.toEngineState)) fun _ => F := by
  refine Spec.ite (fun hrestored => ?_) fun hnot => Spec.pure ⟨rfl, fun h => absurd h hnot⟩
  refine Spec.next (verifyRestoredHostArtifacts_spec hF hjournal hphase fun hn => hmet hn hrestored)
    fun _ w' hI hw' => ?_
  have hrules : t.Rules env.host (w'.files env.host) :=
    hI.now.rules t (by rw [hw'.1]; exact hjournal)
  refine Spec.ite (fun _ => ?_) fun _ => Spec.pure ⟨hw'.1, fun _ => hw'.2⟩
  exact (gives_spec (verifyNativeBoundary_gives hF hrules)).mono
    (fun _ _ _ h => ⟨h.2 ▸ hw'.1, fun _ => hw'.2⟩) fun _ _ h => h.1

end Specs

end TrexWebui.ReleaseEngine
