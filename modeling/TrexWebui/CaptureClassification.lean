import TrexWebui.CaptureRuntime

/-!
# Reconciliation proves before it mutates

`PlanHolds` says when an entry of the ledger may be handled as `reconcile`
plans to, in terms of the ledger, the recorders and the authority that were
read; `Unproved` lists the reasons why no plan may be made. The
classification returns a plan only when it holds, so that one unproved
entry ends the reconciliation; and since the classification is a query,
the ledger and the server are then as they were.
-/

namespace TrexWebui

open OracleProgram

namespace CaptureRuntime

/-! ## What is proved of an entry -/

/-- Every recorder of the baseline is there, with the ports and the filter it had. -/
def BaselineKept (r : CaptureRuntime) (id : CaptureId) (records : List CaptureRecord) : Prop :=
  ∃ expected, r.baselineRecorders.lookup id = some expected
    ∧ ∀ e ∈ expected, ∃ record, recordOf records (.recorder e.captureId) = some record
      ∧ record.identity = some (.create e.txPorts e.rxPorts e.bpfFilter)

/-- The recorder is the only one outside the baseline, and it is as requested. -/
def UniqueNew (r : CaptureRuntime) (id : CaptureId) (records : List CaptureRecord)
    (recorder : Nat) : Prop :=
  ∃ record identity, r.newRecords id records = [record] ∧ record.id = recorder
    ∧ r.identities.lookup id = some identity ∧ record.identity = some identity

/-- The live recorder with the id of the entry has its ports and filter. -/
def LiveMatch (r : CaptureRuntime) (id : CaptureId) (records : List CaptureRecord)
    (recorder : Nat) : Prop :=
  ∃ record identity, recordOf records id = some record ∧ record.id = recorder
    ∧ r.identities.lookup id = some identity ∧ record.identity = some identity

def OwnedNow (r : CaptureRuntime) (current : RuntimeAuthorityIdentity) (id : CaptureId) : Prop :=
  r.authorities.lookup id = some current

def Resolved (r : CaptureRuntime) (id : CaptureId) : Prop :=
  ¬r.isPreparingCaptureId id ∧ ¬r.isPendingCaptureId id

def PlanHolds (r : CaptureRuntime) (records : List CaptureRecord)
    (current : RuntimeAuthorityIdentity) (id : CaptureId) : EntryPlan → Prop
  | .staleGeneration => ∃ expected, r.authorities.lookup id = some expected
      ∧ expected ≠ current ∧ isSystemdGenerationRollover expected current
      ∧ (r.Resolved id → recordOf records id = none)
  | .preparing => r.OwnedNow current id ∧ r.isPreparingCaptureId id
      ∧ r.BaselineKept id records
  | .pending recorder => r.OwnedNow current id ∧ r.isPendingCaptureId id
      ∧ r.BaselineKept id records ∧ r.UniqueNew id records recorder
  | .cleanup (some recorder) => r.OwnedNow current id ∧ r.Resolved id
      ∧ id ∈ r.cleanupRequiredIds ∧ r.LiveMatch id records recorder
  | .cleanup none => r.OwnedNow current id ∧ r.Resolved id
      ∧ id ∈ r.cleanupRequiredIds ∧ recordOf records id = none
  | .matching => r.OwnedNow current id ∧ r.Resolved id ∧ id ∉ r.cleanupRequiredIds
      ∧ ∃ recorder, r.LiveMatch id records recorder
  | .missing => r.OwnedNow current id ∧ r.Resolved id ∧ id ∉ r.cleanupRequiredIds
      ∧ recordOf records id = none

/-- Why an entry cannot be proved. -/
inductive Unproved (r : CaptureRuntime) (records : List CaptureRecord)
    (current : RuntimeAuthorityIdentity) (id : CaptureId) : Prop where
  | noAuthority (h : r.authorities.lookup id = none)
  | otherAuthority {expected : RuntimeAuthorityIdentity}
      (h : r.authorities.lookup id = some expected) (hother : expected ≠ current)
      (hrollover : ¬isSystemdGenerationRollover expected current)
  | reusedId {expected : RuntimeAuthorityIdentity} {record : CaptureRecord}
      (h : r.authorities.lookup id = some expected) (hother : expected ≠ current)
      (hresolved : r.Resolved id) (hrecord : recordOf records id = some record)
  | otherRecorder {record : CaptureRecord} (h : r.OwnedNow current id)
      (hresolved : r.Resolved id) (hrecord : recordOf records id = some record)
      (hidentity : record.identity = none ∨ record.identity ≠ r.identities.lookup id)
  | baselineChanged (h : r.OwnedNow current id)
      (hunresolved : r.isPreparingCaptureId id ∨ r.isPendingCaptureId id)
      (hbaseline : ¬r.BaselineKept id records)
  | noUniqueRecorder (h : r.OwnedNow current id) (hpending : r.isPendingCaptureId id)
      (hnew : ∀ recorder, ¬r.UniqueNew id records recorder)

theorem UniqueNew.not_baseline {r : CaptureRuntime} {id : CaptureId}
    {records : List CaptureRecord} {recorder : Nat} (h : r.UniqueNew id records recorder) :
    recorder ∉ (r.pendingBaselines.lookup id).getD [] := by
  obtain ⟨record, _, hnew, rfl, _, _⟩ := h
  have hmem : record ∈ r.newRecords id records := by
    rw [hnew]
    exact List.mem_singleton_self record
  exact of_decide_eq_true (List.mem_filter.mp hmem).2

theorem UniqueNew.live {r : CaptureRuntime} {id : CaptureId} {records : List CaptureRecord}
    {recorder : Nat} (h : r.UniqueNew id records recorder) :
    ∃ record ∈ records, record.id = recorder := by
  obtain ⟨record, _, hnew, hid, _, _⟩ := h
  have hmem : record ∈ r.newRecords id records := by
    rw [hnew]
    exact List.mem_singleton_self record
  exact ⟨record, (List.mem_filter.mp hmem).1, hid⟩

theorem Unproved.no_plan {r : CaptureRuntime} {records : List CaptureRecord}
    {current : RuntimeAuthorityIdentity} {id : CaptureId}
    (h : r.Unproved records current id) (plan : EntryPlan) :
    ¬r.PlanHolds records current id plan := by
  intro hplan
  have hstale : plan = .staleGeneration ∨ r.OwnedNow current id := by
    cases plan with
    | staleGeneration => exact .inl rfl
    | preparing => exact .inr hplan.1
    | pending recorder => exact .inr hplan.1
    | cleanup recorder => cases recorder <;> exact .inr hplan.1
    | matching => exact .inr hplan.1
    | missing => exact .inr hplan.1
  -- An entry of another generation can only be stale, one of this generation never is.
  cases h with
  | noAuthority h =>
      rcases hstale with rfl | howned
      · obtain ⟨expected, hexpected, _⟩ := hplan
        rw [h] at hexpected
        cases hexpected
      · rw [OwnedNow, h] at howned
        cases howned
  | otherAuthority h hother hrollover =>
      rcases hstale with rfl | howned
      · obtain ⟨expected, hexpected, _, hsafe, _⟩ := hplan
        rw [h] at hexpected
        cases hexpected
        exact hrollover hsafe
      · rw [OwnedNow, h] at howned
        exact hother (Option.some.inj howned)
  | reusedId h hother hresolved hrecord =>
      rcases hstale with rfl | howned
      · obtain ⟨_, _, _, _, hnone⟩ := hplan
        rw [hnone hresolved] at hrecord
        cases hrecord
      · rw [OwnedNow, h] at howned
        exact hother (Option.some.inj howned)
  | otherRecorder h hresolved hrecord hidentity =>
      have hmatch : ∀ recorder, ¬r.LiveMatch id records recorder := by
        rintro recorder ⟨record', identity, hrecord', _, hid, hsame⟩
        rw [hrecord] at hrecord'
        cases hrecord'
        rcases hidentity with hnone | hne
        · rw [hnone] at hsame
          cases hsame
        · exact hne (hsame.trans hid.symm)
      cases plan with
      | staleGeneration =>
          obtain ⟨expected, hexpected, hother, _⟩ := hplan
          rw [OwnedNow, hexpected] at h
          exact hother (Option.some.inj h)
      | preparing => exact hresolved.1 hplan.2.1
      | pending recorder => exact hresolved.2 hplan.2.1
      | cleanup recorder =>
          cases recorder with
          | none =>
              have hnone := hplan.2.2.2
              rw [hrecord] at hnone
              cases hnone
          | some recorder => exact hmatch recorder hplan.2.2.2
      | matching =>
          obtain ⟨recorder, hlive⟩ := hplan.2.2.2
          exact hmatch recorder hlive
      | missing =>
          have hnone := hplan.2.2.2
          rw [hrecord] at hnone
          cases hnone
  | baselineChanged h hunresolved hbaseline =>
      have hnot : ¬r.Resolved id := fun hr => hunresolved.elim hr.1 hr.2
      cases plan with
      | staleGeneration =>
          obtain ⟨expected, hexpected, hother, _⟩ := hplan
          rw [OwnedNow, hexpected] at h
          exact hother (Option.some.inj h)
      | preparing => exact hbaseline hplan.2.2
      | pending recorder => exact hbaseline hplan.2.2.1
      | cleanup recorder => cases recorder <;> exact hnot hplan.2.1
      | matching => exact hnot hplan.2.1
      | missing => exact hnot hplan.2.1
  | noUniqueRecorder h hpending hnew =>
      cases plan with
      | staleGeneration =>
          obtain ⟨expected, hexpected, hother, _⟩ := hplan
          rw [OwnedNow, hexpected] at h
          exact hother (Option.some.inj h)
      | preparing => exact hpending.2 hplan.2.1
      | pending recorder => exact hnew recorder hplan.2.2.2
      | cleanup recorder => cases recorder <;> exact hplan.2.1.2 hpending
      | matching => exact hplan.2.1.2 hpending
      | missing => exact hplan.2.1.2 hpending

/-! ## What the checks establish -/

theorem forM_eq_ok {α : Type} {f : α → Except CaptureError Unit} {l : List α} :
    l.forM f = .ok () ↔ ∀ a ∈ l, f a = .ok () := by
  induction l with
  | nil => simp [pure, Except.pure]
  | cons a rest ih =>
      rw [List.forall_mem_cons, ← ih]
      change (f a >>= fun _ => rest.forM f) = .ok () ↔ _
      cases ha : f a with
      | error e => simp [bind, Except.bind]
      | ok u => simp [bind, Except.bind]

theorem checkBaselineRecorder_eq_ok {id : CaptureId} {records : List CaptureRecord}
    {e : CaptureRecorderIdentityState} :
    checkBaselineRecorder id records e = .ok () ↔
      ∃ record, recordOf records (.recorder e.captureId) = some record
        ∧ record.identity = some (.create e.txPorts e.rxPorts e.bpfFilter) := by
  unfold checkBaselineRecorder
  cases recordOf records (.recorder e.captureId) with
  | none => simp
  | some record => simp

theorem assertBaselineRecorders_eq_ok {r : CaptureRuntime} {id : CaptureId}
    {records : List CaptureRecord} {allowNew : Bool} :
    r.assertBaselineRecorders id records allowNew = .ok () ↔
      r.BaselineKept id records ∧ (allowNew = false → ∃ expected,
        r.baselineRecorders.lookup id = some expected
        ∧ (records.map (·.id)).toFinset = (expected.map (·.captureId)).toFinset) := by
  unfold assertBaselineRecorders BaselineKept
  cases r.baselineRecorders.lookup id with
  | none => simp
  | some expected =>
      dsimp only
      by_cases hids : allowNew = false
          ∧ (records.map (·.id)).toFinset ≠ (expected.map (·.captureId)).toFinset
      · rw [if_pos hids]
        simp only [reduceCtorEq, false_iff, not_and]
        intro _ hexact
        obtain ⟨expected', heq, hsame⟩ := hexact hids.1
        cases heq
        exact hids.2 hsame
      · rw [if_neg hids, forM_eq_ok]
        simp only [checkBaselineRecorder_eq_ok]
        constructor
        · intro h
          refine ⟨⟨expected, rfl, h⟩, fun hallow => ⟨expected, rfl, ?_⟩⟩
          by_contra hne
          exact hids ⟨hallow, hne⟩
        · rintro ⟨⟨expected', heq, h⟩, _⟩
          cases heq
          exact h

theorem resolveNewRecords_unique {r : CaptureRuntime} {id : CaptureId}
    {records : List CaptureRecord} {resolution : PendingCaptureStartResolution}
    {recorder : Nat} (h : r.resolveNewRecords id records = .ok resolution)
    (hrecorder : resolution.captureId = some recorder) : r.UniqueNew id records recorder := by
  unfold resolveNewRecords at h
  cases hidentity : r.identities.lookup id with
  | none => rw [hidentity] at h; cases h
  | some identity =>
      rw [hidentity] at h
      dsimp only at h
      rcases hnew : r.newRecords id records with _ | ⟨record, _ | ⟨second, rest⟩⟩
      · rw [hnew] at h
        cases h
        cases hrecorder
      · rw [hnew] at h
        by_cases hsame : record.identity = some identity
        · simp only [List.filter_cons, hsame, decide_true, List.filter_nil, ↓reduceIte] at h
          cases h
          cases hrecorder
          exact ⟨record, identity, hnew, rfl, hidentity, hsame⟩
        · simp [hsame] at h
      · rw [hnew] at h
        simp at h

end CaptureRuntime

/-! ## The classification -/

theorem mem_planned {entries : List (CaptureId × EntryPlan)} {id : CaptureId}
    {plan : EntryPlan} : id ∈ planned entries plan ↔ (id, plan) ∈ entries := by
  unfold planned
  rw [List.mem_map]
  constructor
  · rintro ⟨⟨id', plan'⟩, hmem, rfl⟩
    obtain ⟨hentry, hplan⟩ := List.mem_filter.mp hmem
    have hsame : plan' = plan := of_decide_eq_true hplan
    rwa [← hsame]
  · intro h
    exact ⟨(id, plan), List.mem_filter.mpr ⟨h, by simp⟩, rfl⟩

theorem mem_pendingResolutions {entries : List (CaptureId × EntryPlan)}
    {entry : CaptureId × Nat} :
    entry ∈ pendingResolutions entries ↔ (entry.1, EntryPlan.pending entry.2) ∈ entries := by
  unfold pendingResolutions
  rw [List.mem_filterMap]
  constructor
  · rintro ⟨⟨id, plan⟩, hmem, h⟩
    cases plan with
    | pending recorder => cases h; exact hmem
    | staleGeneration | preparing | cleanup _ | matching | missing => cases h
  · intro h
    exact ⟨_, h, rfl⟩

theorem mem_cleanupRecords {entries : List (CaptureId × EntryPlan)}
    {entry : CaptureId × Option Nat} :
    entry ∈ cleanupRecords entries ↔ (entry.1, EntryPlan.cleanup entry.2) ∈ entries := by
  unfold cleanupRecords
  rw [List.mem_filterMap]
  constructor
  · rintro ⟨⟨id, plan⟩, hmem, h⟩
    cases plan with
    | cleanup recorder => cases h; exact hmem
    | staleGeneration | preparing | pending _ | matching | missing => cases h
  · intro h
    exact ⟨_, h, rfl⟩

section

variable {env : CaptureEnvironment} {w : CaptureWorld} {records : List CaptureRecord}
  {current : RuntimeAuthorityIdentity} {id : CaptureId}

theorem raised_answers {α : Type} {x : Except CaptureError α} :
    Answers w (raised x : CaptureQuery α) fun a => x = .ok a := by
  cases x with
  | ok a => exact Answers.pure rfl
  | error e => exact Answers.throw

theorem mem_managedCaptureIds {r : CaptureRuntime} :
    id ∈ r.managedCaptureIds ↔ id ∈ r.serviceStates ∨ id ∈ r.ports ∨ id ∈ r.acquiredPorts
      ∨ id ∈ r.identities ∨ id ∈ r.authorities ∨ id ∈ r.pendingBaselines
      ∨ id ∈ r.baselineRecorders ∨ id ∈ r.preparations ∨ id ∈ r.cleanupRequiredIds := by
  unfold CaptureRuntime.managedCaptureIds
  rw [List.mem_eraseDups]
  simp only [List.mem_append, AList.mem_keys, or_assoc]

theorem assertCaptureIdentity_answers {record : CaptureRecord}
    (hid : id ∈ w.runtime.managedCaptureIds) :
    Answers w (assertCaptureIdentity env id record) fun _ =>
      ∃ identity, w.runtime.identities.lookup id = some identity
        ∧ record.identity = some identity := by
  unfold assertCaptureIdentity theRuntime
  refine Answers.asks_bind ?_
  rw [if_pos hid]
  refine Answers.bind (Answers.any.mono fun _ _ => ?_)
  dsimp only
  cases hidentity : w.runtime.identities.lookup id with
  | none => exact Answers.throw
  | some expected =>
      refine Answers.raiseIf fun hsame => ⟨expected, rfl, ?_⟩
      exact not_not.mp hsame

theorem pendingStartResolution_answers :
    Answers w (pendingStartResolution env id records) fun resolution =>
      w.runtime.BaselineKept id records
        ∧ w.runtime.resolveNewRecords id records = .ok resolution := by
  unfold pendingStartResolution theRuntime
  refine Answers.asks_bind ?_
  refine Answers.bind (Answers.any.mono fun _ _ => ?_)
  refine Answers.bind (Answers.any.mono fun _ _ => ?_)
  refine Answers.bind (raised_answers.mono fun _ hbaseline => ?_)
  have hkept := (CaptureRuntime.assertBaselineRecorders_eq_ok.mp hbaseline).1
  exact raised_answers.mono fun _ hresolve => ⟨hkept, hresolve⟩

theorem classifyEntry_holds (hid : id ∈ w.runtime.managedCaptureIds) :
    Answers w (classifyEntry env records current id)
      (w.runtime.PlanHolds records current id) := by
  unfold classifyEntry theRuntime
  refine Answers.asks_bind ?_
  dsimp only
  cases hexpected : w.runtime.authorities.lookup id with
  | none => exact Answers.throw
  | some expected =>
      dsimp only
      refine Answers.ite (fun hother => ?_) fun hsame => ?_
      · refine Answers.ite (fun _ => Answers.throw) fun hrollover => ?_
        have hsafe := not_not.mp hrollover
        refine Answers.ite (fun hunresolved => Answers.pure ?_) fun hresolved => ?_
        · exact ⟨expected, hexpected, hother, hsafe,
            fun h => hunresolved.elim (absurd · h.2) (absurd · h.1)⟩
        · cases hrecord : recordOf records id with
          | some record => exact Answers.throw
          | none => exact Answers.pure ⟨expected, hexpected, hother, hsafe, fun _ => hrecord⟩
      · have howned : w.runtime.OwnedNow current id := by
          rw [CaptureRuntime.OwnedNow, hexpected, not_not.mp hsame]
        refine Answers.ite (fun hpreparing => ?_) fun hprep => ?_
        · refine Answers.bind (raised_answers.mono fun _ hbaseline => Answers.pure ?_)
          exact ⟨howned, hpreparing, (CaptureRuntime.assertBaselineRecorders_eq_ok.mp hbaseline).1⟩
        refine Answers.ite (fun hpending => ?_) fun hpend => ?_
        · refine Answers.bind (pendingStartResolution_answers.mono fun resolution h => ?_)
          cases hrecorder : resolution.captureId with
          | none => exact Answers.throw
          | some recorder =>
              exact Answers.pure ⟨howned, hpending, h.1,
                CaptureRuntime.resolveNewRecords_unique h.2 hrecorder⟩
        have hresolved : w.runtime.Resolved id := ⟨hprep, hpend⟩
        have hlive : ∀ record, recordOf records id = some record →
            (∃ identity, w.runtime.identities.lookup id = some identity
              ∧ record.identity = some identity) →
            w.runtime.LiveMatch id records record.id := by
          rintro record hrecord ⟨identity, hidentity, hmatch⟩
          exact ⟨record, identity, hrecord, rfl, hidentity, hmatch⟩
        refine Answers.ite (fun hcleanup => ?_) fun hcleanup => ?_
        · cases hrecord : recordOf records id with
          | none => exact Answers.pure ⟨howned, hresolved, hcleanup, hrecord⟩
          | some record =>
              refine Answers.bind ((assertCaptureIdentity_answers hid).mono fun _ h => ?_)
              exact Answers.pure ⟨howned, hresolved, hcleanup, hlive record hrecord h⟩
        · cases hrecord : recordOf records id with
          | none => exact Answers.pure ⟨howned, hresolved, hcleanup, hrecord⟩
          | some record =>
              refine Answers.bind ((assertCaptureIdentity_answers hid).mono fun _ h => ?_)
              exact Answers.pure ⟨howned, hresolved, hcleanup, record.id,
                hlive record hrecord h⟩

end

end TrexWebui
