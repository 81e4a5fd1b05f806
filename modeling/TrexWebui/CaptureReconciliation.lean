import TrexWebui.CaptureFrames

/-!
# What a reconciliation removes

A reconciliation either ends before it has changed anything, or has a plan
for every entry of the ledger. Then the recorders that it removes are those
of its plans: the recorder of an entry that requires cleanup, or the one
recorder that a pending start can be attributed to.
-/

namespace TrexWebui

open OracleProgram

/-- Every managed entry has a plan, and the plan holds of it. -/
structure Classified (r : CaptureRuntime) (records : List CaptureRecord)
    (current : RuntimeAuthorityIdentity) (entries : List (CaptureId × EntryPlan)) : Prop where
  ids : entries.map Prod.fst = r.managedCaptureIds
  plans : ∀ entry ∈ entries, r.PlanHolds records current entry.1 entry.2

/-- The entry is managed, and neither preparing nor pending nor in need of cleanup. -/
def CaptureRuntime.Active (r : CaptureRuntime) (id : CaptureId) : Prop :=
  id ∈ r.managedCaptureIds ∧ r.Resolved id ∧ id ∉ r.cleanupRequiredIds

section

variable {env : CaptureEnvironment} {w : CaptureWorld} {records : List CaptureRecord}
  {current : RuntimeAuthorityIdentity} {entries : List (CaptureId × EntryPlan)}
  {captures : Option RawCaptureStatus} {log log' : List CaptureConsultation}

/-! ## The classification comes first -/

theorem nodup_managedCaptureIds (r : CaptureRuntime) : r.managedCaptureIds.Nodup :=
  OrderedDict.nodup_eraseDups _

theorem Classified.unique (h : Classified w.runtime records current entries) {id : CaptureId}
    {plan plan' : EntryPlan} (hplan : (id, plan) ∈ entries) (hplan' : (id, plan') ∈ entries) :
    plan = plan' := by
  have hnodup : (entries.map Prod.fst).Nodup := h.ids ▸ nodup_managedCaptureIds _
  have hsame := List.inj_on_of_nodup_map hnodup hplan hplan' rfl
  exact (Prod.mk.inj hsame).2

theorem forall₂_entries {P : CaptureId × EntryPlan → Prop} {ids : List CaptureId}
    {entries : List (CaptureId × EntryPlan)}
    (h : List.Forall₂ (fun id entry => entry.1 = id ∧ P entry) ids entries) :
    entries.map Prod.fst = ids ∧ ∀ entry ∈ entries, P entry := by
  induction h with
  | nil => exact ⟨rfl, fun _ h => nomatch h⟩
  | cons hhead _ ih =>
      refine ⟨by rw [List.map_cons, hhead.1, ih.1], fun entry hentry => ?_⟩
      rcases List.mem_cons.mp hentry with rfl | hentry
      · exact hhead.2
      · exact ih.2 entry hentry

/-- The entries that a classification returns have plans that hold, for the authority
that it read. -/
theorem classifyLedger_classified {log₂ : List CaptureConsultation}
    (hauthority : runtimeAuthority env w log = (.ok current, log'))
    (h : classifyLedger env records w log = (.ok entries, log₂)) :
    Classified w.runtime records current entries := by
  have hrun : classifyLedger env records w log
      = (w.runtime.managedCaptureIds.mapM fun id => (do
          let plan ← classifyEntry env records current id
          pure (id, plan) : CaptureQuery (CaptureId × EntryPlan))) w log' :=
    Query.bind_ok hauthority
  rw [hrun] at h
  have hanswers : Answers w (w.runtime.managedCaptureIds.mapM fun id => (do
      let plan ← classifyEntry env records current id
      pure (id, plan) : CaptureQuery (CaptureId × EntryPlan)))
      (List.Forall₂ (fun id entry => entry.1 = id
        ∧ w.runtime.PlanHolds records current entry.1 entry.2) w.runtime.managedCaptureIds) :=
    Answers.mapM fun id hid =>
      Answers.bind ((classifyEntry_holds hid).mono fun plan hplan => Answers.pure ⟨rfl, hplan⟩)
  have hentries := hanswers.elim h
  obtain ⟨hids, hplans⟩ := forall₂_entries hentries
  exact ⟨hids, hplans⟩

/-- A reconciliation that cannot prove an entry changes nothing; otherwise it settles the
ledger by plans that hold. -/
theorem reconcile_run (env : CaptureEnvironment) (captures : Option RawCaptureStatus)
    (w : CaptureWorld) (log : List CaptureConsultation) :
    (∃ e, (reconcile env captures w log).1 = (.error e, w))
      ∨ ∃ records log₁ current log₂ entries log₃,
        reconcileRecords env captures w log = (.ok records, log₁)
        ∧ runtimeAuthority env w log₁ = (.ok current, log₂)
        ∧ Classified w.runtime records current entries
        ∧ reconcile env captures w log = settleLedger env records entries w log₃ := by
  unfold reconcile
  rcases hrecords : reconcileRecords env captures w log with ⟨records | records, log₁⟩
  · exact .inl ⟨records, by rw [Program.query_error hrecords]⟩
  rw [Program.query_ok hrecords]
  rcases hentries : classifyLedger env records w log₁ with ⟨entries | entries, log₃⟩
  · exact .inl ⟨entries, by rw [Program.query_error hentries]⟩
  rw [Program.query_ok hentries]
  rcases hauthority : runtimeAuthority env w log₁ with ⟨current | current, log₂⟩
  · have herror : classifyLedger env records w log₁ = (.error current, log₂) :=
      Query.bind_error hauthority
    rw [hentries] at herror
    cases herror
  exact .inr ⟨records, log₁, current, log₂, entries, log₃, rfl, hauthority,
    classifyLedger_classified hauthority hentries, rfl⟩

theorem reconcile_unproved {log₁ log₂ : List CaptureConsultation} {id : CaptureId}
    (hrecords : reconcileRecords env captures w log = (.ok records, log₁))
    (hauthority : runtimeAuthority env w log₁ = (.ok current, log₂))
    (hid : id ∈ w.runtime.managedCaptureIds)
    (hunproved : w.runtime.Unproved records current id) :
    ∃ e, (reconcile env captures w log).1 = (.error e, w) := by
  rcases reconcile_run env captures w log with herror | ⟨records', log₁', current', log₂',
    entries, log₃, hrecords', hauthority', hclassified, _⟩
  · exact herror
  rw [hrecords] at hrecords'
  cases hrecords'
  rw [hauthority] at hauthority'
  cases hauthority'
  rw [← hclassified.ids, List.mem_map] at hid
  obtain ⟨entry, hentry, rfl⟩ := hid
  exact absurd (hclassified.plans entry hentry) (hunproved.no_plan entry.2)

/-! ## Removals -/

/-- Since `base`, only the recorders in `A` were removed, each by its id. -/
def RemovesOnly (A : Nat → Prop) (base w : CaptureWorld) : Prop :=
  ∃ new, w.effects = new ++ base.effects
    ∧ ∀ r, .rpc r ∈ new → r.Ordinary ∨ ∃ n, r = .removeCapture n ∧ A n

theorem removesOnly_sent {A : Nat → Prop} {base : CaptureWorld} {r : CaptureRpc}
    {d : CaptureDaemon} (hr : r.Ordinary ∨ ∃ n, r = .removeCapture n ∧ A n)
    (h : RemovesOnly A base w) : RemovesOnly A base (w.sent r d) := by
  obtain ⟨new, heffects, hnew⟩ := h
  refine ⟨.rpc r :: new, by simp [CaptureWorld.sent, heffects], fun r' hr' => ?_⟩
  rcases List.mem_cons.mp hr' with heq | hr'
  · cases heq
    exact hr
  · exact hnew r' hr'

theorem removesOnly_commit {A : Nat → Prop} {base : CaptureWorld} {doc : PersistedDocument}
    (h : RemovesOnly A base w) : RemovesOnly A base (w.commit doc) := by
  obtain ⟨new, heffects, hnew⟩ := h
  refine ⟨.wrote doc.document.captureLeases :: new, by simp [CaptureWorld.commit, heffects],
    fun r hr => ?_⟩
  rcases List.mem_cons.mp hr with heq | hr
  · cases heq
  · exact hnew r hr

theorem removesOnly_invariant (A : Nat → Prop) (base : CaptureWorld) :
    CaptureInvariant env (fun _ => True) (fun _ => True) (RemovesOnly A base) where
  sent := fun _ _ _ hr h => removesOnly_sent (.inl hr) h
  committed := fun _ _ _ _ _ h => removesOnly_commit h
  assigned := fun _ _ _ _ _ h => removesOnly_commit h
  stale := fun _ _ h => h

theorem managed_invariant {A : Nat → Prop} {base : CaptureWorld} (id : CaptureId) :
    CaptureInvariant env (· ≠ id) (fun _ => True)
      (fun w => RemovesOnly A base w ∧ id ∈ w.runtime.managedCaptureIds) where
  sent := fun _ _ _ hr h => ⟨removesOnly_sent (.inl hr) h.1, h.2⟩
  committed := fun _ _ _ _ _ h => ⟨removesOnly_commit h.1, h.2⟩
  assigned := fun _ _ _ hedit _ h =>
    ⟨removesOnly_commit h.1, (hedit.framed (fun hne => hne rfl) h.2).managed h.2⟩
  stale := fun _ _ h => h

theorem removeCapture_keeps {A : Nat → Prop} {base : CaptureWorld} {n : Nat} (hn : A n) :
    Keeps (RemovesOnly A base) (command env (.removeCapture n)) := fun _ =>
  (command_spec fun _ h => removesOnly_sent (.inr ⟨n, rfl, hn⟩) h).mono
    (fun _ _ _ _ => trivial) fun _ _ _ => trivial

theorem forM_raises {I : CaptureWorld → Prop} {α : Type} {l : List α}
    {body : α → CaptureM PUnit} (hkeeps : ∀ a ∈ l, Keeps I (body a)) {x : α} (hx : x ∈ l)
    (hraises : ∀ w, Spec I w (body x) (fun _ _ => False) fun _ => True) :
    ∀ w, Spec I w (l.forM body) (fun _ _ => False) fun _ => True := by
  induction l with
  | nil => cases hx
  | cons a rest ih =>
      intro w
      rcases List.mem_cons.mp hx with rfl | hx
      · exact Spec.call (hraises w) (fun _ _ _ h => h.elim) fun _ _ _ => trivial
      · refine Spec.call (hkeeps a List.mem_cons_self w) (fun _ w' _ _ => ?_) fun _ _ _ => trivial
        exact ih (fun b hb => hkeeps b (List.mem_cons_of_mem a hb)) hx w'

/-- The recorders that a reconciliation with these plans may remove. -/
def Removable (r : CaptureRuntime) (entries : List (CaptureId × EntryPlan)) (n : Nat) : Prop :=
  (∃ id, (id, EntryPlan.cleanup (some n)) ∈ entries)
    ∨ ∃ id, (id, EntryPlan.pending n) ∈ entries ∧ ¬r.Active (.recorder n)

/-- A recorder that is live and belongs to an active entry makes its plan `matching`. -/
theorem Classified.matching (h : Classified w.runtime records current entries) {n : Nat}
    (hactive : w.runtime.Active (.recorder n))
    (hlive : ∃ record ∈ records, record.id = n) :
    (.recorder n, EntryPlan.matching) ∈ entries := by
  obtain ⟨hmanaged, hresolved, hcleanup⟩ := hactive
  rw [← h.ids, List.mem_map] at hmanaged
  obtain ⟨⟨id, plan⟩, hentry, hid⟩ := hmanaged
  cases hid
  have hplan := h.plans _ hentry
  have hrecord : recordOf records (.recorder n) ≠ none := by
    obtain ⟨record, hmem, hid⟩ := hlive
    unfold recordOf
    rw [Ne, List.find?_eq_none]
    intro hnone
    exact hnone record hmem (decide_eq_true hid)
  cases plan with
  | matching => exact hentry
  | staleGeneration =>
      obtain ⟨_, _, _, _, hnone⟩ := hplan
      exact absurd (hnone hresolved) hrecord
  | preparing => exact absurd hplan.2.1 hresolved.1
  | pending recorder => exact absurd hplan.2.1 hresolved.2
  | cleanup recorder => cases recorder <;> exact absurd hplan.2.2.1 hcleanup
  | missing => exact absurd hplan.2.2.2 hrecord

/-- A reconciliation whose pending start resolves to the recorder of an active entry ends
before the first removal. -/
theorem settleLedger_refuses (hclassified : Classified w.runtime records current entries)
    {pendingId : CaptureId} {n : Nat} (hpending : (pendingId, EntryPlan.pending n) ∈ entries)
    (hactive : w.runtime.Active (.recorder n)) (A : Nat → Prop) :
    Spec (RemovesOnly A w) w (settleLedger env records entries) (fun _ _ => True)
      fun _ => True := by
  have hmatching := hclassified.matching hactive
    ((hclassified.plans _ hpending).2.2.2).live
  have hI : CaptureInvariant env (· ≠ .recorder n) (fun _ => True)
      (fun w' => RemovesOnly A w w' ∧ .recorder n ∈ w'.runtime.managedCaptureIds) :=
    managed_invariant (.recorder n)
  have hplanned : ∀ {id plan}, (id, plan) ∈ entries → plan ≠ .matching → id ≠ .recorder n := by
    rintro id plan hentry hne rfl
    exact hne (hclassified.unique hentry hmatching)
  refine Spec.invariant (J := fun w' => RemovesOnly A w w'
    ∧ .recorder n ∈ w'.runtime.managedCaptureIds) (fun h => ⟨h, hactive.1⟩) (fun _ h => h.1) ?_
  have hraises : Keeps (fun w' => RemovesOnly A w w'
      ∧ .recorder n ∈ w'.runtime.managedCaptureIds) (settleCurrent env records entries) := by
    unfold settleCurrent
    refine keeps_bind (keeps_forM fun id hid => recoverCapturePreparation_keeps hI records
      (hplanned (mem_planned.mp hid) (by decide))) fun _ w₁ => ?_
    refine Spec.call (forM_raises (fun entry hentry => transitionPendingStart_keeps hI
      (hplanned (mem_pendingResolutions.mp hentry) (by simp)) entry.2 true
      fun _ _ _ => trivial)
      (x := (pendingId, n)) (mem_pendingResolutions.mpr hpending) (fun w₂ => ?_) w₁)
      (fun _ _ _ h => h.elim) fun _ _ _ => trivial
    refine Spec.assume fun hw₂ => ?_
    unfold transitionPendingStart
    refine runtime_bind (Spec.raiseIf_bind trivial fun _ => Spec.query_bind trivial fun _ => ?_)
    exact Spec.raiseIf_bind trivial fun hfree => absurd hw₂.2 hfree
  unfold settleLedger
  refine keeps_ite (fun _ => ?_) (fun _ => hraises) w
  refine keeps_bind (forgetCaptureIds_keeps hI fun id hid => ?_) fun _ => hraises
  exact hplanned (mem_planned.mp hid) (by decide)

theorem settleLedger_removes (hclassified : Classified w.runtime records current entries) :
    Spec (RemovesOnly (Removable w.runtime entries) w) w (settleLedger env records entries)
      (fun _ _ => True) fun _ => True := by
  by_cases hfree : ∀ entry ∈ pendingResolutions entries, ¬w.runtime.Active (.recorder entry.2)
  · refine settleLedger_keeps (removesOnly_invariant _ w) (fun _ _ _ => trivial)
      (fun _ _ => trivial) (fun _ _ _ _ _ => trivial) (fun entry hentry recorder hrecorder => ?_) (fun entry hentry => ?_) w
    · refine removeCapture_keeps (.inl ⟨entry.1, ?_⟩)
      rw [← hrecorder]
      exact mem_cleanupRecords.mp hentry
    · exact removeCapture_keeps
        (.inr ⟨entry.1, mem_pendingResolutions.mp hentry, hfree entry hentry⟩)
  · push Not at hfree
    obtain ⟨entry, hentry, hactive⟩ := hfree
    exact settleLedger_refuses hclassified (mem_pendingResolutions.mp hentry) hactive _

end

end TrexWebui
