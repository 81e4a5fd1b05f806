import TrexWebui.ReleaseSnapshots

/-!
# Preparation

A preparation opens a transaction only after the one before it has ended. Its
records are of what the host has when it is opened (`openTransaction_spec`),
and its candidate is in the store when it is prepared.
-/

namespace TrexWebui.ReleaseEngine

open PyStr PyJson JsonLines PosixPath Sha2 Checks OracleProgram GuardedRuns

section Specs

variable {env : EngineEnvironment} {w : EngineWorld} {s : EngineState} {t : Transaction}

/-! ## Opening -/

/-- The records of a transaction are of what stands at their paths. -/
def Transaction.Recorded (t : Transaction) (s : EngineState) : Prop :=
  ∀ artifact ∈ t.hostArtifacts, artifact.Records s (s.artifacts artifact.path)

/-- The transaction that was opened, and what it was opened upon. -/
structure Opened (s : EngineState) (o : Opening) (t : Transaction) (s' : EngineState) : Prop where
  journal : s'.journal = some t
  phase : t.phase = .staging
  candidate : t.candidate = o.candidate
  current : s'.current = s.current
  previous : s'.previous = s.previous
  artifacts : s'.artifacts = s.artifacts
  records : t.Recorded s'

/-- The first journal of a transaction is written after its snapshots. -/
theorem openTransaction_spec {o : Opening} {boundary : Str → EngineM (Option NativeBoundary)}
    (hsettled : Settled w.journal) (hcurrent : o.current = w.current)
    (hprevious : o.previous = w.previous)
    (hboundary : ∀ id (w' : EngineWorld), Settled w'.journal →
      Spec (Running env.host s) w' (boundary id)
        (fun _ w'' => BoundarySnapshot id w'.toEngineState w''.toEngineState) fun _ => True) :
    Spec (Running env.host s) w (openTransaction env o boundary)
      (fun t w' => Opened w.toEngineState o t w'.toEngineState) fun _ => True := by
  refine Spec.query_bind trivial fun now => Spec.query_bind trivial fun id =>
    Spec.query_bind trivial fun paths => ?_
  refine Spec.next (snapshotHostArtifacts_spec hsettled) fun artifacts w₁ _ hsnapshot => ?_
  have hsettled₁ : Settled w₁.journal := hsnapshot.kept.journal ▸ hsettled
  refine Spec.next (hboundary id w₁ hsettled₁) fun record w₂ _ h => ?_
  obtain ⟨hkept₂, hothers₂⟩ := h
  have hkept := hsnapshot.kept.trans hkept₂
  have hrecords₂ : ∀ a ∈ artifacts, a.Records w₂.toEngineState (w.artifacts a.path) := by
    intro a ha
    refine (hsnapshot.records a ha).congr fun name hname => ?_
    obtain ⟨i, -, rfl⟩ := hsnapshot.backups a ha name hname
    exact hothers₂ i
  have hreplaces : Replaces w₂.toEngineState (o.transaction id now artifacts record) :=
    .opened (hkept₂.journal ▸ hsettled₁) rfl (hcurrent.trans hkept.current.symm)
      (hprevious.trans hkept.previous.symm) rfl rfl rfl
  refine Spec.next (writeTransaction_spec (excused env) hreplaces fun h => absurd trivial h)
    fun _ w₃ _ hstate => ?_
  have hjournal : w₃.journal = some (o.transaction id now artifacts record) := by rw [hstate]
  refine Spec.call (cleanupExcept_spec (excused env) fun u hu => Or.inr ?_)
    (fun _ w₄ _ hkept₄ => Spec.pure ?_) fun _ _ _ => trivial
  · rw [hjournal] at hu
    obtain rfl := Option.some.inj hu
    rfl
  have hartifacts : w₄.artifacts = w.artifacts := by
    rw [hkept₄.artifacts, hstate]
    exact hkept.artifacts
  refine ⟨hkept₄.journal.trans hjournal, rfl, rfl, ?_, ?_, hartifacts, fun a ha => ?_⟩
  · rw [hkept₄.current, hstate]
    exact hkept.current
  · rw [hkept₄.previous, hstate]
    exact hkept.previous
  · rw [hartifacts]
    refine (hrecords₂ a ha).congr fun name hname => ?_
    rw [hkept₄.backups _ hjournal name (List.mem_append_left _ (List.mem_flatMap.mpr ⟨a, ha, hname⟩)),
      hstate]

/-! ## The operations -/

theorem reconcileFirst_spec :
    Spec (Running env.host s) w (reconcileFirst env)
      (fun _ w' => Settled w'.journal) fun _ => True := by
  refine Spec.next (reconcileLocked_spec (excused env) (fun h => absurd trivial h)
    fun h => absurd trivial h) fun o w' _ hreconciled => ?_
  refine (gives_spec (failIf_gives fun _ => trivial)).mono (fun _ w'' _ h => ?_) fun _ _ _ => trivial
  obtain ⟨hterminal, rfl⟩ := h
  obtain ⟨hnone, hsome⟩ := hreconciled
  rintro u (hu : w''.journal = some u)
  cases hjournal : w.journal with
  | none =>
      rw [(hnone hjournal).2.journal, hjournal] at hu
      cases hu
  | some t =>
      obtain ⟨t', rfl, hrecovered⟩ := hsome t hjournal
      obtain rfl := Option.some.inj (hrecovered.journal.symm.trans hu)
      rcases hrecovered.ended with ⟨-, hretired⟩ | hpending
      · exact hretired
      · refine absurd ⟨_, rfl, ?_⟩ hterminal
        rw [hpending]
        decide

theorem strictPrepareHousekeeping_spec (hsettled : Settled w.journal) :
    Spec (Running env.host s) w (strictPrepareHousekeeping env w.current w.previous)
      (fun _ w' => Housekept w.toEngineState w'.toEngineState) fun _ => True := by
  refine Spec.query_bind trivial fun _ => ?_
  refine Spec.call (cleanup_spec (excused env) hsettled) (fun _ w' _ hkept => ?_) fun _ _ _ => trivial
  refine (prune_spec (excused env) (hkept.journal ▸ hsettled) fun digest => ?_).mono
    (fun _ _ _ hkept' => hkept.trans hkept') fun _ _ _ => trivial
  rw [hkept.current, hkept.previous, List.mem_append, Option.mem_toList, Option.mem_toList]

theorem copyCandidate_spec (hjournal : w.journal = some t) (hphase : t.phase = .staging) :
    Spec (Running env.host s) w (copyCandidate env t.candidate)
      (fun _ w' => t.candidate ∈ w'.releases ∧ w'.journal = some t
        ∧ w'.backups = w.backups ∧ w'.artifacts = w.artifacts) fun _ => True := by
  refine Spec.asks_bind (Spec.ite (fun hstored => ?_) fun _ => ?_)
  · refine (gives_spec (check_gives (excused env))).mono (fun _ w' _ h => ?_) fun _ _ _ => trivial
    obtain ⟨-, rfl⟩ := h
    exact ⟨hstored, hjournal, rfl, rfl⟩
  · refine Spec.query_bind trivial fun _ => ?_
    have hallowed : Allowed env.host w.toEngineState (.publish t.candidate) :=
      ⟨t, hjournal, hphase, rfl⟩
    refine (perform_spec (excused env) hallowed).mono (fun _ w' _ hw' => ?_) fun _ _ _ => trivial
    rw [hw']
    exact ⟨List.mem_cons_self, hjournal, rfl, rfl⟩

/-- A transaction is prepared: it may be activated, or taken back. -/
structure Prepared (s : EngineState) (t : Transaction) : Prop where
  journal : s.journal = some t
  phase : t.phase = .prepared
  stored : t.candidate ∈ s.releases
  recorded : t.Recorded s

theorem preparedPhase_spec (hjournal : w.journal = some t) (hphase : t.phase = .staging)
    (hstored : t.candidate ∈ w.releases) (hrecorded : t.Recorded w.toEngineState) :
    Spec (Running env.host s) w (setPhase env t .prepared)
      (fun t' w' => Prepared w'.toEngineState t') fun _ => True := by
  refine (advance_spec (excused env) hjournal (fun h => absurd trivial h)
    (.prepared hphase hstored)).weaken fun t' w' _ h => ?_
  obtain ⟨now, rfl, -, hstate⟩ := h
  rw [hstate]
  exact ⟨rfl, rfl, hstored, hrecorded⟩

theorem openingOf_answers {request : PrepareRequest} {intent : Intent}
    {current previous : Option Str} :
    Answers w (openingOf env request intent current previous) fun o =>
      o.current = current ∧ o.previous = previous := by
  refine Answers.bind (Answers.any.mono fun source _ => ?_)
  obtain ⟨digest, logicalBytes⟩ := source
  refine Answers.bind (Answers.any.mono fun _ _ => Answers.bind (Answers.any.mono fun _ _ => ?_))
  refine Answers.bind (Answers.any.mono fun _ _ => Answers.bind (Answers.any.mono fun _ _ => ?_))
  exact Answers.pure ⟨rfl, rfl⟩

theorem requireRelease_answers {selected : Option Str} :
    Answers w (preparePrevious.requireRelease selected) fun digest => selected = some digest := by
  cases selected with
  | none => exact Answers.throw
  | some digest => exact Answers.pure rfl

/-- Whatever a preparation is asked for, the transaction that it returns is prepared. -/
theorem prepare_spec {request : PrepareRequest} :
    Spec (Running env.host s) w (prepare env request)
      (fun t w' => Prepared w'.toEngineState t) fun _ => True := by
  refine Spec.query_bind trivial fun intent => Spec.query_bind trivial fun _ => ?_
  refine Spec.next reconcileFirst_spec fun _ w₁ _ hsettled => ?_
  refine Spec.query_bind trivial fun _ => selectors_spec (excused env) (fun h => h) ?_
  refine Spec.next (strictPrepareHousekeeping_spec hsettled) fun _ w₂ _ hkept => ?_
  have hsettled₂ : Settled w₂.journal := hkept.journal ▸ hsettled
  refine Spec.query_bind_of (openingOf_answers (w := w₂)) trivial fun o ho => ?_
  obtain ⟨hcurrent, hprevious⟩ := ho
  refine Spec.next (openTransaction_spec hsettled₂ (hcurrent.trans hkept.current.symm)
    (hprevious.trans hkept.previous.symm) fun _ _ h => snapshotBoundaryOf_spec h)
    fun t w₃ _ hopened => ?_
  refine Spec.next (copyCandidate_spec hopened.journal hopened.phase) fun _ w₄ _ h => ?_
  obtain ⟨hstored, hjournal, hbackups, hartifacts⟩ := h
  refine preparedPhase_spec hjournal hopened.phase hstored fun a ha => ?_
  rw [hartifacts]
  exact (hopened.records a ha).congr fun name _ => by rw [hbackups]

theorem preparePrevious_spec {profile : Option HostProfile} :
    Spec (Running env.host s) w (preparePrevious env profile)
      (fun t w' => Prepared w'.toEngineState t) fun _ => True := by
  refine Spec.query_bind trivial fun _ => ?_
  refine Spec.next reconcileFirst_spec fun _ w₁ _ hsettled => ?_
  refine selectors_spec (excused env) (fun h => h) ?_
  refine Spec.query_bind_of requireRelease_answers trivial fun current hcurrent => ?_
  refine Spec.query_bind_of requireRelease_answers trivial fun previous hprevious => ?_
  rw [← hcurrent, ← hprevious]
  refine Spec.next (strictPrepareHousekeeping_spec hsettled) fun _ w₂ _ hkept => ?_
  have hsettled₂ : Settled w₂.journal := hkept.journal ▸ hsettled
  refine Spec.query_bind trivial fun _ => Spec.query_bind trivial fun _ => ?_
  refine Spec.next (openTransaction_spec hsettled₂ (hcurrent.symm.trans hkept.current.symm)
    (hprevious.symm.trans hkept.previous.symm) fun _ _ _ =>
      Spec.pure ⟨Housekept.refl _, fun _ => rfl⟩) fun t w₃ hI hopened => ?_
  refine preparedPhase_spec hopened.journal hopened.phase ?_ hopened.records
  refine hI.now.previousStored _ ?_
  rw [hopened.previous, hopened.candidate, hkept.previous, hprevious]
  rfl

end Specs

end TrexWebui.ReleaseEngine
