import TrexWebui.ReleaseJournalCopies

/-!
# The rules of a release journal

What `_validate_transaction` demands of a transaction (`Transaction.Rules`),
and that it makes of any copy of a transaction that transaction, exactly if
the rules hold (`validateTransaction_copy`). A journal that was written is
therefore read back as it was, unless it has outgrown the reader.
-/

namespace TrexWebui.ReleaseEngine

open PyStr PyJson JsonLines PosixPath Sha2 Checks

/-! ## The rules -/

def Transaction.BoundaryRule (host : EngineHost) (files : BackupFiles) (t : Transaction) : Prop :=
  if t.hostProfile = some .managedLocal ∧ t.rollbackAuthorityRetired = false then
    ∃ record, t.nativeBoundary = some record ∧ record.Proper host files t.transactionId
  else t.nativeBoundary = none

/-- The plan belongs to the kind. -/
structure Transaction.PlanRule (t : Transaction) : Prop where
  archive : t.transactionKind = .archive →
    apiUnit ∈ t.consumerRollbackPlan ∧ nginxUnit ∈ t.consumerRollbackPlan
  nMinusOne : t.transactionKind = .nMinusOne → t.consumerRollbackPlan = [apiUnit, nginxUnit]
  others : t.transactionKind ∈ [.legacyBaseline, .selectorOnly] → t.consumerRollbackPlan = []
  selectorOnly : t.transactionKind = .selectorOnly → t.hostProfile = none

/-- Who may have begun to change the daemon. -/
structure Transaction.MutationRule (t : Transaction) : Prop where
  kind : t.transactionKind = .archive
  profile : t.hostProfile = some .managedLocal
  planned : daemonUnit ∈ t.consumerRollbackPlan
  kept : t.rollbackAuthorityRetired = false
  phase : t.phase ∈ Phase.daemonMutation
  armed : t.consumerMutationArmed = false → t.phase = .rolledBack

/-- What is left of a transaction that was retired. -/
structure Transaction.Compact (t : Transaction) : Prop where
  hostArtifacts : t.hostArtifacts = []
  nativeBoundary : t.nativeBoundary = none
  consumerEnable : t.consumerEnable = []
  consumerStart : t.consumerStart = []
  consumerActiveBefore : t.consumerActiveBefore = []
  consumerBaseline : t.consumerBaseline = []
  consumerMutationArmed : t.consumerMutationArmed = false
  daemonMutationStarted : t.daemonMutationStarted = false
  rollbackRestored : t.rollbackRestored = false

/-- The rules of `_validate_transaction`. -/
structure Transaction.Rules (host : EngineHost) (files : BackupFiles) (t : Transaction) : Prop where
  transactionId : IsUuid t.transactionId
  candidate : IsDigest t.candidate
  currentBefore : ∀ digest ∈ t.currentBefore, IsDigest digest
  previousBefore : ∀ digest ∈ t.previousBefore, IsDigest digest
  differ : t.currentBefore = t.previousBefore → t.currentBefore = none
  fresh : some t.candidate ≠ t.currentBefore
  createdAt : IsTimestamp t.createdAt
  updatedAt : IsTimestamp t.updatedAt
  inOrder : ¬t.updatedAt < t.createdAt
  archive : t.transactionKind = .archive → some t.candidate ≠ t.previousBefore
  retired : t.rollbackAuthorityRetired = true → t.phase ∈ Phase.terminal
  artifacts : ∃ paths, expectedHostPaths host t.hostProfile t.rollbackAuthorityRetired = .ok paths
    ∧ ProperArtifacts host t.transactionId 0 paths t.hostArtifacts
  backups : t.hostArtifacts.forM (checkHostBackup host files) = .ok ()
  boundary : t.BoundaryRule host files
  enable : OrderedUnits t.consumerEnable
  plan : OrderedUnits t.consumerRollbackPlan
  planned : t.PlanRule
  unarmed : t.consumerMutationArmed = false →
    t.consumerActiveBefore = [] ∧ t.consumerBaseline = []
  active : OrderedUnits t.consumerActiveBefore
  activePlanned : ∀ unit ∈ t.consumerActiveBefore, unit ∈ t.consumerRollbackPlan
  baseline : ProperBaselines host files t.transactionId 0 t.consumerActiveBefore t.consumerBaseline
  start : OrderedUnits t.consumerStart
  startEnabled : ∀ unit ∈ t.consumerStart, unit ∈ t.consumerEnable
  daemonOwned : t.hostProfile ≠ some .managedLocal → daemonUnit ∉ t.consumerEnable
    ∧ daemonUnit ∉ t.consumerStart ∧ daemonUnit ∉ t.consumerRollbackPlan
    ∧ daemonUnit ∉ t.consumerActiveBefore
  mutation : t.daemonMutationStarted = true → t.MutationRule
  restored : t.rollbackRestored = true → t.phase ∈ [.startingBaselineConsumers, .rolledBack]
  compact : t.rollbackAuthorityRetired = true → t.Compact

/-! ## The validator on a copy -/

section Copied

variable {σ : Value → Value} (hσ : Copy σ) {host : EngineHost} {files : BackupFiles}
  {t : Transaction} {c : Fields}

/-- A copy of the dictionary of a transaction. -/
structure CopyOf (σ : Value → Value) (t : Transaction) (c : Fields) : Prop where
  keys : keysAre c transactionKeys = true
  at_ : ∀ (i : Nat) {key value}, t.fields[i]? = some (key, value) → get c key = σ value

include hσ

theorem copied_transaction (t : Transaction) : ∃ c, σ t.value = .obj c ∧ CopyOf σ t c := by
  obtain ⟨c, heq, hkeys, hat⟩ := copied_fields hσ t.fields transactionKeys rfl
    (by decide +kernel)
  exact ⟨c, heq, hkeys, hat⟩

theorem copied_optionalText (o : Option Str) : σ (optionalText o) = optionalText o := by
  cases o with
  | none => exact hσ.null
  | some s => exact hσ.str s

theorem copied_units (units : List Str) :
    σ (.arr (units.map .str)) = .arr (units.map .str) := by
  rw [hσ.arr, List.map_map]
  exact congrArg Value.arr (List.map_congr_left fun unit _ => hσ.str unit)

theorem validateSubject_copy (hc : CopyOf σ t c) {subject : Subject} :
    validateSubject c = .ok subject ↔ subject = ⟨t.transactionId, t.phase, t.candidate,
        t.currentBefore, t.previousBefore, t.candidateBytes, t.reserveBytes, t.createdAt, t.updatedAt⟩
      ∧ IsUuid t.transactionId ∧ IsDigest t.candidate
      ∧ (∀ digest ∈ t.currentBefore, IsDigest digest)
      ∧ (∀ digest ∈ t.previousBefore, IsDigest digest)
      ∧ (t.currentBefore = t.previousBefore → t.currentBefore = none)
      ∧ some t.candidate ≠ t.currentBefore
      ∧ IsTimestamp t.createdAt ∧ IsTimestamp t.updatedAt ∧ ¬t.updatedAt < t.createdAt := by
  have hschema := (hc.at_ 0 rfl).trans (hσ.str _)
  have hid := (hc.at_ 1 rfl).trans (hσ.str _)
  have hphase := (hc.at_ 3 rfl).trans (hσ.str _)
  have hcandidate := (hc.at_ 4 rfl).trans (hσ.str _)
  have hcurrent := (hc.at_ 5 rfl).trans (copied_optionalText hσ _)
  have hprevious := (hc.at_ 6 rfl).trans (copied_optionalText hσ _)
  have hbytes := (hc.at_ 19 rfl).trans (hσ.int _)
  have hreserve := (hc.at_ 20 rfl).trans (hσ.int _)
  have hcreated := (hc.at_ 21 rfl).trans (hσ.str _)
  have hupdated := (hc.at_ 22 rfl).trans (hσ.str _)
  simp only [validateSubject, bind_eq_ok, refuseIf_eq_ok, orRefuse_eq_ok, pure_eq_ok, hc.keys,
    hschema, hid, hphase, hcandidate, hcurrent, hprevious, hbytes, hreserve, hcreated, hupdated,
    requireUuid_str, digestOf_str, requireOptionalDigest_optionalText, requireTimestamp_str,
    requireNonNegativeInteger_int, asText, Option.some.injEq, exists_eq_left, exists_eq_left',
    ofName_name, Value.isText, beq_self_eq_true, Bool.true_eq_false, not_false_eq_true, exists_const,
    true_and, not_and, not_not, ne_eq]
  constructor
  · rintro ⟨_, ⟨rfl, hid⟩, _, ⟨rfl, hdigest⟩, _, ⟨rfl, hcurrent⟩, _, ⟨rfl, hprevious⟩, hdiffer, hfresh,
      _, ⟨rfl, hcreated⟩, _, ⟨rfl, hupdated⟩, horder, rfl⟩
    exact ⟨rfl, hid, hdigest, hcurrent, hprevious, hdiffer, hfresh, hcreated, hupdated, horder⟩
  · rintro ⟨rfl, hid, hdigest, hcurrent, hprevious, hdiffer, hfresh, hcreated, hupdated, horder⟩
    exact ⟨_, ⟨rfl, hid⟩, _, ⟨rfl, hdigest⟩, _, ⟨rfl, hcurrent⟩, _, ⟨rfl, hprevious⟩, hdiffer, hfresh,
      _, ⟨rfl, hcreated⟩, _, ⟨rfl, hupdated⟩, horder, rfl⟩

theorem validateNativeBoundary_required {o : Option NativeBoundary} :
    validateNativeBoundaryRecord host files t.transactionId true (σ (boundaryValue t.nativeBoundary))
        = .ok o
      ↔ o = t.nativeBoundary
        ∧ ∃ record, t.nativeBoundary = some record ∧ record.Proper host files t.transactionId := by
  cases t.nativeBoundary with
  | none =>
      rw [boundaryValue, hσ.null]
      simp [validateNativeBoundaryRecord, asDict]
  | some record =>
      rw [boundaryValue, validateNativeBoundary_copy hσ]
      simp

theorem validateNativeBoundary_unrequired {o : Option NativeBoundary} :
    validateNativeBoundaryRecord host files t.transactionId false (σ (boundaryValue t.nativeBoundary))
        = .ok o
      ↔ o = t.nativeBoundary ∧ t.nativeBoundary = none := by
  cases t.nativeBoundary with
  | none =>
      rw [boundaryValue, hσ.null]
      simp only [validateNativeBoundaryRecord, if_true, Value.isNull, bind_eq_ok, refuseIf_eq_ok,
        Bool.true_eq_false, not_false_eq_true, exists_const, true_and, pure_eq_ok, and_true]
      exact eq_comm
  | some record =>
      obtain ⟨c, heq, -, -⟩ := copied_fields hσ record.fields nativeBoundaryEntryKeys rfl
        (by decide +kernel)
      rw [boundaryValue, NativeBoundary.value, heq]
      simp only [validateNativeBoundaryRecord, if_true, Value.isNull, bind_eq_ok, refuseIf_eq_ok,
        not_true_eq_false, exists_const, false_and, reduceCtorEq, and_false]

theorem validateBoundary_copy {o : Option NativeBoundary} :
    validateNativeBoundaryRecord host files t.transactionId
        (decide (t.hostProfile = some .managedLocal) && !t.rollbackAuthorityRetired)
        (σ (boundaryValue t.nativeBoundary)) = .ok o
      ↔ o = t.nativeBoundary ∧ t.BoundaryRule host files := by
  rw [Transaction.BoundaryRule]
  by_cases hrequired : t.hostProfile = some .managedLocal ∧ t.rollbackAuthorityRetired = false
  · rw [if_pos hrequired, hrequired.1, hrequired.2]
    exact validateNativeBoundary_required hσ
  · have hfalse : (decide (t.hostProfile = some .managedLocal) && !t.rollbackAuthorityRetired)
        = false := by
      cases hretired : t.rollbackAuthorityRetired with
      | false => simpa [hretired] using hrequired
      | true => simp
    rw [if_neg hrequired, hfalse]
    exact validateNativeBoundary_unrequired hσ

theorem validateAuthority_copy (hc : CopyOf σ t c) {subject : Subject} {authority : Authority}
    (hid : subject.transactionId = t.transactionId) (hphase : subject.phase = t.phase)
    (hcandidate : subject.candidate = t.candidate)
    (hprevious : subject.previousBefore = t.previousBefore) :
    validateAuthority host files c subject = .ok authority
      ↔ authority = ⟨t.transactionKind, t.hostProfile, t.rollbackAuthorityRetired,
          t.hostArtifacts, t.nativeBoundary⟩
        ∧ (t.transactionKind = .archive → some t.candidate ≠ t.previousBefore)
        ∧ (t.rollbackAuthorityRetired = true → t.phase ∈ Phase.terminal)
        ∧ (∃ paths, expectedHostPaths host t.hostProfile t.rollbackAuthorityRetired = .ok paths
          ∧ ProperArtifacts host t.transactionId 0 paths t.hostArtifacts)
        ∧ t.hostArtifacts.forM (checkHostBackup host files) = .ok ()
        ∧ t.BoundaryRule host files := by
  have hkind := (hc.at_ 2 rfl).trans (hσ.str _)
  have hretired := (hc.at_ 7 rfl).trans (hσ.bool _)
  have hartifacts := hc.at_ 8 rfl
  have hprofile := (hc.at_ 9 rfl).trans (copied_optionalText hσ _)
  have hboundary := hc.at_ 10 rfl
  simp only [validateAuthority, bind_eq_ok, refuseIf_eq_ok, orRefuse_eq_ok, pure_eq_ok, hkind,
    hretired, hartifacts, hprofile, hboundary, asText, Option.some.injEq, exists_eq_left',
    kindOfName_name, validateHostProfile_optionalText, validateMarker_bool, exists_eq_left,
    validateHostArtifactRecords_copy hσ, hid, hphase, hcandidate, hprevious, exists_const,
    not_and, not_not, validateBoundary_copy hσ]
  constructor
  · rintro ⟨harchive, hterminal, paths, hpaths, _, ⟨rfl, hproper⟩, _, hbackups, _,
      ⟨rfl, hrule⟩, rfl⟩
    exact ⟨rfl, harchive, hterminal, ⟨paths, hpaths, hproper⟩, hbackups, hrule⟩
  · rintro ⟨rfl, harchive, hterminal, ⟨paths, hpaths, hproper⟩, hbackups, hrule⟩
    exact ⟨harchive, hterminal, paths, hpaths, _, ⟨rfl, hproper⟩, (), hbackups, _, ⟨rfl, hrule⟩, rfl⟩

omit hσ in
theorem validatePlan_eq_ok {authority : Authority} {u : Unit}
    (hkind : authority.transactionKind = t.transactionKind)
    (hprofile : authority.hostProfile = t.hostProfile) :
    validatePlan authority t.consumerRollbackPlan = .ok u ↔ t.PlanRule := by
  simp only [validatePlan, bind_eq_ok, refuseIf_eq_ok, exists_const, hkind, hprofile]
  constructor
  · rintro ⟨harchive, hprevious, hothers, honly⟩
    exact ⟨fun h => not_not.mp fun hn => harchive ⟨h, hn⟩,
      fun h => not_not.mp fun hn => hprevious ⟨h, hn⟩,
      fun h => not_not.mp fun hn => hothers ⟨h, hn⟩, fun h => not_not.mp fun hn => honly ⟨h, hn⟩⟩
  · rintro ⟨harchive, hprevious, hothers, honly⟩
    exact ⟨fun h => h.2 (harchive h.1), fun h => h.2 (hprevious h.1), fun h => h.2 (hothers h.1),
      fun h => h.2 (honly h.1)⟩

omit hσ in
theorem truthy_units (units : List Str) :
    truthy (.arr (units.map .str)) = true ↔ units ≠ [] := by
  cases units <;> simp [truthy]

theorem truthy_baseline (records : List ConsumerBaseline) :
    truthy (σ (.arr (records.map ConsumerBaseline.value))) = true ↔ records ≠ [] := by
  rw [hσ.arr]
  cases records <;> simp [truthy]

theorem validateConsumers_copy (hc : CopyOf σ t c) {subject : Subject} {authority : Authority}
    {consumers : Consumers} (hid : subject.transactionId = t.transactionId)
    (hphase : subject.phase = t.phase) (hkind : authority.transactionKind = t.transactionKind)
    (hprofile : authority.hostProfile = t.hostProfile)
    (hretired : authority.rollbackAuthorityRetired = t.rollbackAuthorityRetired) :
    validateConsumers host files c subject authority = .ok consumers
      ↔ consumers = ⟨t.consumerEnable, t.consumerRollbackPlan, t.consumerMutationArmed,
          t.daemonMutationStarted, t.consumerActiveBefore, t.consumerBaseline, t.consumerStart⟩
        ∧ OrderedUnits t.consumerEnable ∧ OrderedUnits t.consumerRollbackPlan ∧ t.PlanRule
        ∧ (t.consumerMutationArmed = false →
          t.consumerActiveBefore = [] ∧ t.consumerBaseline = [])
        ∧ OrderedUnits t.consumerActiveBefore
        ∧ (∀ unit ∈ t.consumerActiveBefore, unit ∈ t.consumerRollbackPlan)
        ∧ ProperBaselines host files t.transactionId 0 t.consumerActiveBefore t.consumerBaseline
        ∧ OrderedUnits t.consumerStart
        ∧ (∀ unit ∈ t.consumerStart, unit ∈ t.consumerEnable)
        ∧ (t.hostProfile ≠ some .managedLocal → daemonUnit ∉ t.consumerEnable
          ∧ daemonUnit ∉ t.consumerStart ∧ daemonUnit ∉ t.consumerRollbackPlan
          ∧ daemonUnit ∉ t.consumerActiveBefore)
        ∧ (t.daemonMutationStarted = true → t.MutationRule) := by
  have henable := (hc.at_ 11 rfl).trans (copied_units hσ _)
  have hactive := (hc.at_ 12 rfl).trans (copied_units hσ _)
  have hbaseline := hc.at_ 13 rfl
  have hplan := (hc.at_ 14 rfl).trans (copied_units hσ _)
  have harmed := (hc.at_ 15 rfl).trans (hσ.bool _)
  have hmutation := (hc.at_ 16 rfl).trans (hσ.bool _)
  have hstart := (hc.at_ 17 rfl).trans (copied_units hσ _)
  have hrule : t.MutationRule ↔ t.transactionKind = .archive ∧ t.hostProfile = some .managedLocal
      ∧ daemonUnit ∈ t.consumerRollbackPlan ∧ ¬t.rollbackAuthorityRetired = true
      ∧ t.phase ∈ Phase.daemonMutation
      ∧ (t.consumerMutationArmed = false → t.phase = .rolledBack) :=
    ⟨fun h => ⟨h.kind, h.profile, h.planned, by rw [h.kept]; decide, h.phase, h.armed⟩,
      fun ⟨hk, hp, hd, hr, hph, ha⟩ => ⟨hk, hp, hd, by simpa using hr, hph, ha⟩⟩
  simp only [validateConsumers, bind_eq_ok, refuseIf_eq_ok, pure_eq_ok, henable, hactive, hbaseline,
    hplan, harmed, hmutation, hstart, validateUnits_arr, validateMarker_bool, exists_eq_left,
    truthy_units, truthy_baseline hσ,
    validateConsumerBaselineRecords_copy hσ, hid, hphase, hkind, hprofile, hretired, exists_const,
    hrule, not_and, not_or, not_not, not_exists, ne_eq]
  constructor
  · rintro ⟨_, ⟨rfl, henable⟩, _, ⟨rfl, hplan⟩, _, hplanned, hunarmed, _, ⟨rfl, hactive⟩, hsubset, _,
      ⟨rfl, hbaseline⟩, _, ⟨rfl, hstart⟩, hstarted, howned, hmutation, rfl⟩
    exact ⟨rfl, henable, hplan, (validatePlan_eq_ok hkind hprofile).mp hplanned, hunarmed, hactive,
      hsubset, hbaseline, hstart, hstarted, howned, hmutation⟩
  · rintro ⟨rfl, henable, hplan, hplanned, hunarmed, hactive, hsubset, hbaseline, hstart, hstarted,
      howned, hmutation⟩
    exact ⟨_, ⟨rfl, henable⟩, _, ⟨rfl, hplan⟩, (), (validatePlan_eq_ok hkind hprofile).mpr hplanned,
      hunarmed, _, ⟨rfl, hactive⟩, hsubset, _, ⟨rfl, hbaseline⟩, _, ⟨rfl, hstart⟩, hstarted, howned,
      hmutation, rfl⟩

theorem validateRestored_copy (hc : CopyOf σ t c) {subject : Subject} {authority : Authority}
    {consumers : Consumers} {b : Bool} (hphase : subject.phase = t.phase)
    (hauthority : authority = ⟨t.transactionKind, t.hostProfile, t.rollbackAuthorityRetired,
      t.hostArtifacts, t.nativeBoundary⟩)
    (hconsumers : consumers = ⟨t.consumerEnable, t.consumerRollbackPlan, t.consumerMutationArmed,
      t.daemonMutationStarted, t.consumerActiveBefore, t.consumerBaseline, t.consumerStart⟩) :
    validateRestored c subject authority consumers = .ok b
      ↔ b = t.rollbackRestored
        ∧ (t.rollbackRestored = true → t.phase ∈ [.startingBaselineConsumers, .rolledBack])
        ∧ (t.rollbackAuthorityRetired = true → t.Compact) := by
  subst hauthority hconsumers
  have hrestored := (hc.at_ 18 rfl).trans (hσ.bool _)
  simp only [validateRestored, bind_eq_ok, refuseIf_eq_ok, pure_eq_ok, hrestored, validateMarker_bool,
    exists_eq_left, exists_const, hphase, not_and, not_not, not_or, ne_eq, Bool.not_eq_true]
  constructor
  · rintro ⟨hphases, hcompact, rfl⟩
    refine ⟨rfl, hphases, fun hretired => ?_⟩
    obtain ⟨h₁, h₂, h₃, h₄, h₅, h₆, h₇, h₈, h₉⟩ := hcompact hretired
    exact ⟨h₁, h₂, h₃, h₄, h₅, h₆, h₇, h₈, h₉⟩
  · rintro ⟨rfl, hphases, hcompact⟩
    refine ⟨hphases, fun hretired => ?_, rfl⟩
    obtain ⟨h₁, h₂, h₃, h₄, h₅, h₆, h₇, h₈, h₉⟩ := hcompact hretired
    exact ⟨h₁, h₂, h₃, h₄, h₅, h₆, h₇, h₈, h₉⟩

/-- Of a copy of a transaction the validator makes that transaction, exactly if it obeys the
rules. -/
theorem validateTransaction_copy (hc : CopyOf σ t c) {t' : Transaction} :
    validateTransaction host files c = .ok t' ↔ t' = t ∧ t.Rules host files := by
  rw [validateTransaction]
  simp only [bind_eq_ok, pure_eq_ok, validateSubject_copy hσ hc]
  constructor
  · rintro ⟨subject, ⟨rfl, hid, hcandidate, hcurrent, hprevious, hdiffer, hfresh, hcreated, hupdated,
      horder⟩, authority, hauthority, consumers, hconsumers, b, hb, rfl⟩
    obtain ⟨rfl, harchive, hretired, hartifacts, hbackups, hboundary⟩ :=
      (validateAuthority_copy hσ hc rfl rfl rfl rfl).mp hauthority
    obtain ⟨rfl, henable, hplan, hplanned, hunarmed, hactive, hsubset, hbaseline, hstart, hstarted,
      howned, hmutation⟩ := (validateConsumers_copy hσ hc rfl rfl rfl rfl rfl).mp hconsumers
    obtain ⟨rfl, hrestored, hcompact⟩ := (validateRestored_copy hσ hc rfl rfl rfl).mp hb
    exact ⟨rfl, {
      transactionId := hid, candidate := hcandidate, currentBefore := hcurrent
      previousBefore := hprevious, differ := hdiffer, fresh := hfresh, createdAt := hcreated
      updatedAt := hupdated, inOrder := horder, archive := harchive, retired := hretired
      artifacts := hartifacts, backups := hbackups, boundary := hboundary, enable := henable
      plan := hplan, planned := hplanned, unarmed := hunarmed, active := hactive
      activePlanned := hsubset, baseline := hbaseline, start := hstart, startEnabled := hstarted
      daemonOwned := howned, mutation := hmutation, restored := hrestored, compact := hcompact }⟩
  · rintro ⟨rfl, h⟩
    refine ⟨_, ⟨rfl, h.transactionId, h.candidate, h.currentBefore, h.previousBefore, h.differ, h.fresh,
      h.createdAt, h.updatedAt, h.inOrder⟩, _, (validateAuthority_copy hσ hc rfl rfl rfl rfl).mpr
      ⟨rfl, h.archive, h.retired, h.artifacts, h.backups, h.boundary⟩, _,
      (validateConsumers_copy hσ hc rfl rfl rfl rfl rfl).mpr ⟨rfl, h.enable, h.plan, h.planned,
        h.unarmed, h.active, h.activePlanned, h.baseline, h.start, h.startEnabled, h.daemonOwned,
        h.mutation⟩, _, (validateRestored_copy hσ hc rfl rfl rfl).mpr ⟨rfl, h.restored, h.compact⟩, ?_⟩
    rfl

end Copied

theorem validateTransaction_fields {host : EngineHost} {files : BackupFiles} {t t' : Transaction} :
    validateTransaction host files t.fields = .ok t' ↔ t' = t ∧ t.Rules host files := by
  obtain ⟨c, heq, hc⟩ := copied_transaction copy_id t
  obtain rfl : t.fields = c := Value.obj.inj heq
  exact validateTransaction_copy copy_id hc

end TrexWebui.ReleaseEngine
