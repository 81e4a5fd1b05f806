import TrexWebui.CaptureReconciliation
import TrexWebui.CaptureRestart

/-!
# Unresolved starts and cleanup

While a start is unresolved no entry requires cleanup, and at most one start
is unresolved (`Sound`). A start opens only after a reconciliation that
returned, and a reconciliation that returns leaves no entry that requires
cleanup (`reconcile_settles`), so every operation keeps this, however its
surroundings answer and wherever it ends.
-/

namespace TrexWebui

open OracleProgram

namespace CaptureRuntime

/-- At most one start is unresolved, and while one is no entry requires cleanup. -/
structure Sound (r : CaptureRuntime) : Prop where
  one : ∀ id id', id ∈ r.pendingBaselines → id' ∈ r.pendingBaselines → id = id'
  preparing : ∀ id ∈ r.preparations, id ∈ r.pendingBaselines
  settled : ∀ id ∈ r.pendingBaselines, r.cleanupRequiredIds = []

/-- What `begin_capture_start` writes. -/
def Begins (r c : CaptureRuntime) : Prop :=
  r.pendingBaselines.keys = [] ∧ r.preparations.keys = [] ∧
  ∃ id states ports identity authority recorders preparation,
    c = r.withPreparation id states ports identity authority recorders preparation

section

variable {allowed fresh : CaptureId → Prop} {r c : CaptureRuntime} {id : CaptureId}

theorem sound_empty : Sound {} where
  one := by simp
  preparing := by simp
  settled := by simp

theorem Sound.shrink (h : Sound r) (hpending : ∀ id ∈ c.pendingBaselines, id ∈ r.pendingBaselines)
    (hpreparing : ∀ id ∈ c.preparations, id ∈ r.preparations ∧
      (id ∈ r.pendingBaselines → id ∈ c.pendingBaselines))
    (hcleanup : ∀ id ∈ c.cleanupRequiredIds, id ∈ r.cleanupRequiredIds) : Sound c where
  one := fun id id' hid hid' => h.one id id' (hpending id hid) (hpending id' hid')
  preparing := fun id hid => (hpreparing id hid).2 (h.preparing id (hpreparing id hid).1)
  settled := by
    intro id hid
    have hnone := h.settled id (hpending id hid)
    rw [List.eq_nil_iff_forall_not_mem]
    intro id' hid'
    have hmem := hcleanup id' hid'
    rw [hnone] at hmem
    cases hmem

theorem Sound.edit (h : Sound r) (hedit : LedgerEdit allowed fresh r c) : Sound c := by
  cases hedit with
  | forget hids =>
      refine h.shrink (fun id hid => ?_) (fun id hid => ?_) fun id hid => ?_
      · exact (OrderedDict.mem_without.mp hid).2
      · obtain ⟨hnot, hmem⟩ := OrderedDict.mem_without.mp hid
        exact ⟨hmem, fun hpending => OrderedDict.mem_without.mpr ⟨hnot, hpending⟩⟩
      · exact (List.mem_filter.mp hid).1
  | @stage other preparation stage hother hlookup hnext =>
      refine h.shrink (fun id hid => hid) (fun id hid => ?_) fun id hid => hid
      rcases OrderedDict.mem_set.mp hid with rfl | hmem
      · exact ⟨OrderedDict.mem_iff_lookup.mpr ⟨_, hlookup⟩, fun hpending => hpending⟩
      · exact ⟨hmem, fun hpending => hpending⟩
  | rpcAttempted hother hlookup hstage =>
      exact h.shrink (fun id hid => hid)
        (fun id hid => ⟨(AList.mem_erase.mp hid).2, fun hpending => hpending⟩) fun id hid => hid
  | @started pendingId captureId cleanup _ hother hnew hpending hfree hstarted =>
      obtain ⟨_, _, _, _, _, -, -, -, -, -, rfl⟩ := withStarted_eq_ok hstarted
      -- The entry that starts was the only unresolved one.
      have hnone : ∀ id, id ∉ r.pendingBaselines.erase pendingId := by
        intro id hid
        obtain ⟨hne, hmem⟩ := AList.mem_erase.mp hid
        exact hne (h.one _ _ hmem hpending)
      refine ⟨fun id _ hid => absurd hid (hnone id), fun id hid => ?_,
        fun id hid => absurd hid (hnone id)⟩
      obtain ⟨hne, hmem⟩ := AList.mem_erase.mp hid
      exact absurd (h.one _ _ (h.preparing _ hmem) hpending) hne
  | restore hids =>
      exact h.shrink (fun id hid => hid) (fun id hid => ⟨hid, fun hpending => hpending⟩)
        fun id hid => hid
  | release hids =>
      refine h.shrink (fun id hid => ?_) (fun id hid => ?_) fun id hid => ?_
      · exact (OrderedDict.mem_without.mp hid).2
      · obtain ⟨hnot, hmem⟩ := OrderedDict.mem_without.mp hid
        exact ⟨hmem, fun hpending => OrderedDict.mem_without.mpr ⟨hnot, hpending⟩⟩
      · exact (List.mem_filter.mp hid).1

theorem Sound.begun (hcleanup : r.cleanupRequiredIds = []) (hbegins : Begins r c) : Sound c := by
  obtain ⟨hpending, hpreparing, id, states, ports, identity, authority, recorders, preparation,
    rfl⟩ := hbegins
  have hnone : ∀ {α : Type} {d : PerCapture α} {other : CaptureId}, d.keys = [] → other ∉ d := by
    intro α d other hkeys hmem
    have hin : other ∈ d.keys := hmem
    rw [hkeys] at hin
    cases hin
  have honly : ∀ other, other ∈ (r.withPreparation id states ports identity authority recorders
      preparation).pendingBaselines → other = id :=
    fun other hother => (OrderedDict.mem_set.mp hother).resolve_right (hnone hpending)
  refine ⟨fun a b ha hb => ?_, fun other hother => ?_, fun _ _ => hcleanup⟩
  · rw [honly a ha, honly b hb]
  · have heq := (OrderedDict.mem_set.mp hother).resolve_right (hnone hpreparing)
    exact OrderedDict.mem_set.mpr (.inl heq)

theorem cleanup_of_edit (hedit : LedgerEdit allowed fresh r c) (hid : ¬fresh id)
    (hmem : id ∈ c.cleanupRequiredIds) : id ∈ r.cleanupRequiredIds := by
  cases hedit with
  | forget hids => exact (List.mem_filter.mp hmem).1
  | stage hother hlookup hnext => exact hmem
  | rpcAttempted hother hlookup hstage => exact hmem
  | @started pendingId captureId cleanup _ hother hnew hpending hfree hstarted =>
      obtain ⟨_, _, _, _, _, -, -, -, -, -, rfl⟩ := withStarted_eq_ok hstarted
      dsimp only at hmem
      split at hmem
      · rcases List.mem_append.mp hmem with hold | heq
        · exact hold
        · rw [List.mem_singleton] at heq
          exact absurd (heq ▸ hnew) hid
      · exact hmem
  | restore hids => exact hmem
  | release hids => exact (List.mem_filter.mp hmem).1

theorem notMem_cleanup_afterRelease (hmanaged : id ∈ r.managedCaptureIds)
    (hstates : id ∉ r.serviceStates) :
    id ∉ (r.afterRelease (r.matchingCaptureIds [id])).cleanupRequiredIds := by
  have hselected : id ∈ r.matchingCaptureIds [id] :=
    List.mem_filter.mpr ⟨hmanaged, by simp⟩
  intro hmem
  obtain ⟨_, hkept⟩ := List.mem_filter.mp hmem
  refine of_decide_eq_true hkept (List.mem_filter.mpr ⟨hselected, decide_eq_true ?_⟩)
  exact ⟨hstates, fun h => (OrderedDict.mem_without.mp h).1 hselected,
    notMem_acquiredAfterRelease hselected⟩

end

end CaptureRuntime

/-! ## A reconciliation leaves nothing to clean up -/

section

variable {env : CaptureEnvironment} {I : CaptureWorld → Prop} {w : CaptureWorld}
  {records : List CaptureRecord} {current : RuntimeAuthorityIdentity}
  {entries : List (CaptureId × EntryPlan)} {id : CaptureId}

def Uncleaned (I : CaptureWorld → Prop) (id : CaptureId) (w : CaptureWorld) : Prop :=
  I w ∧ id ∉ w.runtime.cleanupRequiredIds

theorem uncleaned_invariant (hI : CaptureInvariant env (fun _ => True) (fun _ => True) I) :
    CaptureInvariant env (fun _ => True) (· ≠ id) (Uncleaned I id) := by
  have hmono : ∀ {r c : CaptureRuntime}, LedgerEdit (fun _ => True) (· ≠ id) r c →
      LedgerEdit (fun _ => True) (fun _ => True) r c := by
    intro r c hedit
    cases hedit with
    | forget hids => exact .forget hids
    | stage hother hlookup hnext => exact .stage hother hlookup hnext
    | rpcAttempted hother hlookup hstage => exact .rpcAttempted hother hlookup hstage
    | started hother hnew hpending hfree hstarted =>
        exact .started hother trivial hpending hfree hstarted
    | restore hids => exact .restore hids
    | release hids => exact .release hids
  exact {
    sent := fun w log r hr h => ⟨hI.sent w log r hr h.1, h.2⟩
    committed := fun w candidate doc hedit hwrites h =>
      ⟨hI.committed w candidate doc (hmono hedit) hwrites h.1, h.2⟩
    assigned := fun w candidate doc hedit hwrites h =>
      ⟨hI.assigned w candidate doc (hmono hedit) hwrites h.1,
        fun hmem => h.2 (CaptureRuntime.cleanup_of_edit hedit (fun hne => hne rfl) hmem)⟩
    stale := fun w ids h => ⟨hI.stale w ids h.1, h.2⟩ }

/-- A program that keeps `Uncleaned` leaves an entry that did not require cleanup like that. -/
theorem Keeps.uncleaned {α : Type} {m : CaptureM α} (hm : Keeps (Uncleaned I id) m)
    (hid : id ∉ w.runtime.cleanupRequiredIds) :
    Spec I w m (fun _ w' => id ∉ w'.runtime.cleanupRequiredIds) fun _ => True := by
  refine Spec.invariant (J := Uncleaned I id) (fun hw => ⟨hw, hid⟩) (fun _ h => h.1) ?_
  exact (hm w).mono (fun _ _ h _ => h.2) fun _ _ _ => trivial

variable (hI : CaptureInvariant env (fun _ => True) (fun _ => True) I)
  (hsent : ∀ w log r, I w → I (w.sent r (env.react w log r).2))

include hsent

theorem anyCommand_keeps (r : CaptureRpc) : Keeps I (command env r) := fun w =>
  (command_spec fun log => hsent w log r).mono (fun _ _ _ _ => trivial) fun _ _ _ => trivial

theorem anyCommand_uncleaned (r : CaptureRpc) : Keeps (Uncleaned I id) (command env r) :=
  anyCommand_keeps (I := Uncleaned I id) (fun w log r h => ⟨hsent w log r h.1, h.2⟩) r

include hI

theorem cleanUpCapture_cleans (entry : CaptureId × Option Nat) :
    Spec I w (cleanUpCapture env entry)
      (fun _ w' => entry.1 ∉ w'.runtime.cleanupRequiredIds) fun _ => True := by
  have hids : ∀ id ∈ [entry.1], True := fun _ _ => trivial
  have hrelease : ∀ w', Spec I w' (do
      let _ ← restoreServiceMode env [entry.1]
      releasePorts env [entry.1]) (fun _ w'' => entry.1 ∉ w''.runtime.cleanupRequiredIds)
      fun _ => True := by
    intro w'
    refine Spec.call (restoreServiceMode_spec hI hids) (fun _ w₁ _ h₁ => ?_) fun _ _ _ => trivial
    refine (releasePorts_spec hI hids).mono (fun _ w₂ _ h₂ => ?_) fun _ _ _ => trivial
    rw [h₂]
    by_cases hmanaged : entry.1 ∈ w₁.runtime.managedCaptureIds
    · refine CaptureRuntime.notMem_cleanup_afterRelease hmanaged ?_
      rw [h₁]
      intro hmem
      obtain ⟨hnot, hstates⟩ := OrderedDict.mem_without.mp hmem
      refine hnot (List.mem_filter.mpr ⟨?_, by simp⟩)
      exact mem_managedCaptureIds.mpr (.inl hstates)
    · intro hmem
      have hold := (List.mem_filter.mp hmem).1
      exact hmanaged (mem_managedCaptureIds.mpr (by simp [hold]))
  unfold cleanUpCapture
  refine Spec.query_bind trivial fun _ => ?_
  cases entry.2 with
  | none => exact hrelease w
  | some recorder =>
      exact Spec.call (anyCommand_keeps hsent _ w) (fun _ w' _ _ => hrelease w') fun _ _ _ => trivial

theorem cleanUpCapture_uncleaned (entry : CaptureId × Option Nat) :
    Keeps (Uncleaned I id) (cleanUpCapture env entry) :=
  cleanUpCapture_keeps (uncleaned_invariant hI) trivial fun _ _ => anyCommand_uncleaned hsent _

theorem forM_cleans {α : Type} {l : List α} {f : α → CaptureId × Option Nat}
    (hid : ∃ a ∈ l, (f a).1 = id) :
    Spec I w (l.forM fun a => cleanUpCapture env (f a))
      (fun _ w' => id ∉ w'.runtime.cleanupRequiredIds) fun _ => True := by
  induction l generalizing w with
  | nil => simp at hid
  | cons a rest ih =>
      by_cases hrest : ∃ b ∈ rest, (f b).1 = id
      · refine Spec.call (cleanUpCapture_keeps hI trivial (fun _ _ => anyCommand_keeps hsent _) w)
          (fun _ w' _ _ => ih hrest) fun _ _ _ => trivial
      · have ha : (f a).1 = id := by
          obtain ⟨b, hb, hsame⟩ := hid
          rcases List.mem_cons.mp hb with rfl | hb
          · exact hsame
          · exact absurd ⟨b, hb, hsame⟩ hrest
        subst ha
        refine Spec.call (cleanUpCapture_cleans hI hsent (f a)) (fun _ w' _ hcleaned => ?_)
          fun _ _ _ => trivial
        exact (keeps_forM fun b _ => cleanUpCapture_uncleaned hI hsent (f b)).uncleaned hcleaned

omit hsent in
theorem settleActive_uncleaned : Keeps (Uncleaned I id) (settleActive env entries) :=
  settleActive_keeps (uncleaned_invariant hI) fun _ _ => trivial

theorem settleCurrent_uncleaned (hfree : ∀ entry ∈ pendingResolutions entries,
    .recorder entry.2 ≠ id) : Keeps (Uncleaned I id) (settleCurrent env records entries) :=
  settleCurrent_keeps (uncleaned_invariant hI) (fun _ _ _ => trivial) (fun _ _ => trivial)
    (fun entry hentry _ _ _ => hfree entry hentry) (fun _ _ _ _ => anyCommand_uncleaned hsent _)
    fun _ _ => anyCommand_uncleaned hsent _

theorem settleCurrent_cleans (hid : (∃ entry ∈ cleanupRecords entries, entry.1 = id)
      ∨ ∃ entry ∈ pendingResolutions entries, .recorder entry.2 = id) :
    Spec I w (settleCurrent env records entries)
      (fun _ w' => id ∉ w'.runtime.cleanupRequiredIds) fun _ => True := by
  unfold settleCurrent
  have hpreparing : Keeps I
      ((planned entries .preparing).forM (recoverCapturePreparation env records)) :=
    keeps_forM fun id _ => recoverCapturePreparation_keeps hI records trivial
  have hstarted : Keeps I ((pendingResolutions entries).forM fun entry =>
      requirePendingStartCleanup env entry.1 entry.2) :=
    keeps_forM fun entry _ =>
      transitionPendingStart_keeps hI trivial entry.2 true fun _ _ _ => trivial
  refine Spec.call (hpreparing w) (fun _ w₁ _ _ => ?_) fun _ _ _ => trivial
  refine Spec.call (hstarted w₁) (fun _ w₂ _ _ => ?_) fun _ _ _ => trivial
  have hpending : ∀ w', id ∉ w'.runtime.cleanupRequiredIds ∨
      (∃ entry ∈ pendingResolutions entries, .recorder entry.2 = id) →
      Spec I w' ((pendingResolutions entries).forM fun entry =>
        cleanUpCapture env (.recorder entry.2, some entry.2))
        (fun _ w'' => id ∉ w''.runtime.cleanupRequiredIds) fun _ => True := by
    rintro w' (hcleaned | hfound)
    · exact Keeps.uncleaned (keeps_forM fun entry _ => cleanUpCapture_uncleaned hI hsent _) hcleaned
    · exact forM_cleans hI hsent (l := pendingResolutions entries)
        (f := fun entry => (.recorder entry.2, some entry.2)) hfound
  have hcleanup : Spec I w₂ ((cleanupRecords entries).forM (cleanUpCapture env))
      (fun _ w' => id ∉ w'.runtime.cleanupRequiredIds ∨
        ∃ entry ∈ pendingResolutions entries, .recorder entry.2 = id) fun _ => True := by
    rcases hid with hfound | hfound
    · exact (forM_cleans hI hsent (l := cleanupRecords entries) (f := fun entry => entry) hfound).mono
        (fun _ _ _ h => .inl h) fun _ _ _ => trivial
    · have hkeeps : Keeps I ((cleanupRecords entries).forM (cleanUpCapture env)) :=
        keeps_forM fun entry _ => cleanUpCapture_keeps hI trivial
          fun _ _ => anyCommand_keeps hsent _
      exact (hkeeps w₂).mono (fun _ _ _ _ => .inr hfound) fun _ _ _ => trivial
  refine Spec.call hcleanup (fun _ w₃ _ h₃ => ?_) fun _ _ _ => trivial
  refine Spec.call (hpending w₃ h₃) (fun _ w₄ _ h₄ => ?_) fun _ _ _ => trivial
  exact (settleActive_uncleaned hI).uncleaned h₄

theorem settleLedger_settles (hclassified : Classified w.runtime records current entries)
    (hsound : w.runtime.Sound) :
    Spec I w (settleLedger env records entries)
      (fun _ w' => w'.runtime.cleanupRequiredIds = []) fun _ => True := by
  have hall : Spec I w (settleLedger env records entries)
      (fun _ w' => ∀ id, id ∉ w'.runtime.cleanupRequiredIds) fun _ => True := by
    have hkeeps : Keeps I (settleLedger env records entries) :=
      settleLedger_keeps hI (fun _ _ _ => trivial) (fun _ _ => trivial)
        (fun _ _ _ _ _ => trivial) (fun _ _ _ _ => anyCommand_keeps hsent _)
        fun _ _ => anyCommand_keeps hsent _
    refine Spec.all (hkeeps w) fun id => ?_
    unfold settleLedger
    by_cases hloop : (∃ entry ∈ cleanupRecords entries, entry.1 = id)
        ∨ ∃ entry ∈ pendingResolutions entries, .recorder entry.2 = id
    · have hcurrent : ∀ w', Spec I w' (settleCurrent env records entries)
          (fun _ w'' => id ∉ w''.runtime.cleanupRequiredIds) fun _ => True :=
        fun w' => settleCurrent_cleans hI hsent hloop
      refine Spec.ite (fun _ => ?_) fun _ => hcurrent w
      exact Spec.call (forgetCaptureIds_keeps hI (fun _ _ => trivial) w)
        (fun _ w' _ _ => hcurrent w') fun _ _ _ => trivial
    · have hfree : ∀ entry ∈ pendingResolutions entries, .recorder entry.2 ≠ id :=
        fun entry hentry heq => hloop (.inr ⟨entry, hentry, heq⟩)
      have hcurrent : Keeps (Uncleaned I id) (settleCurrent env records entries) :=
        settleCurrent_uncleaned hI hsent hfree
      by_cases hid : id ∈ w.runtime.cleanupRequiredIds
      · -- The plan of an entry that requires cleanup is to clean it up, or it is stale.
        have hstale : id ∈ planned entries .staleGeneration := by
          have hmanaged : id ∈ w.runtime.managedCaptureIds :=
            mem_managedCaptureIds.mpr (by simp [hid])
          rw [← hclassified.ids, List.mem_map] at hmanaged
          obtain ⟨⟨id, plan⟩, hentry, rfl⟩ := hmanaged
          have hplan := hclassified.plans _ hentry
          have hresolved : id ∉ w.runtime.pendingBaselines := fun hpending => by
            rw [hsound.settled _ hpending] at hid
            cases hid
          cases plan with
          | staleGeneration => exact mem_planned.mpr hentry
          | preparing => exact absurd (hsound.preparing _ hplan.2.1) hresolved
          | pending recorder => exact absurd hplan.2.1.1 hresolved
          | cleanup recorder =>
              exact absurd (.inl ⟨(id, recorder), mem_cleanupRecords.mpr hentry, rfl⟩) hloop
          | matching => exact absurd hid hplan.2.2.1
          | missing => exact absurd hid hplan.2.2.1
        refine Spec.ite (fun _ => ?_) fun hnone => ?_
        · refine Spec.call (forgetCaptureIds_spec hI fun _ _ => trivial) (fun _ w₁ _ h₁ => ?_)
            fun _ _ _ => trivial
          refine hcurrent.uncleaned ?_
          rw [h₁]
          exact fun hmem => of_decide_eq_true (List.mem_filter.mp hmem).2 hstale
        · rw [not_not.mp hnone] at hstale
          cases hstale
      · refine Spec.ite (fun _ => ?_) fun _ => hcurrent.uncleaned hid
        refine Keeps.uncleaned ?_ hid
        exact keeps_bind (forgetCaptureIds_keeps (uncleaned_invariant hI) fun _ _ => trivial)
          fun _ => hcurrent
  exact hall.mono (fun _ _ _ h => List.eq_nil_iff_forall_not_mem.mpr h) fun _ _ h => h

end

end TrexWebui
