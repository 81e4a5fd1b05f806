import TrexWebui.ReleaseJournalRules

/-!
# What the reader of a journal accepts

Whatever dictionary `_validate_transaction` accepts, the transaction that it
returns obeys all the rules (`rules_of_validated`). The rules are what the
loader promises to every operation of the engine, also of a journal that
something else wrote.
-/

namespace TrexWebui.ReleaseEngine

open PyStr PyJson PosixPath Sha2 Checks

/-! ## Leaves -/

theorem asText_eq_some {value : Value} {s : Str} : asText value = some s ↔ value = .str s := by
  cases value <;> simp [asText]

theorem asList_eq_some {value : Value} {items : List Value} :
    asList value = some items ↔ value = .arr items := by
  cases value <;> simp [asList]

theorem digestOf_eq_ok {value : Value} {label : String} {s : Str}
    (h : digestOf value label = .ok s) : IsDigest s := by
  simp only [digestOf, mapError_eq_ok, requireDigest, textWith, bind_eq_ok, refuseIf_eq_ok,
    pure_eq_ok, not_not] at h
  obtain ⟨_, -, -, hdigest, rfl⟩ := h
  exact hdigest

theorem requireUuid_eq_ok {value : Value} {label : String} {s : Str}
    (h : requireUuid value label = .ok s) : IsUuid s := by
  simp only [requireUuid, mapError_eq_ok, textWith, bind_eq_ok, refuseIf_eq_ok, pure_eq_ok,
    not_not] at h
  obtain ⟨_, -, -, huuid, rfl⟩ := h
  exact huuid

theorem requireTimestamp_eq_ok {value : Value} {label : String} {s : Str}
    (h : requireTimestamp value label = .ok s) : IsTimestamp s := by
  simp only [requireTimestamp, mapError_eq_ok, textWith, bind_eq_ok, refuseIf_eq_ok, pure_eq_ok,
    not_not] at h
  obtain ⟨_, -, -, htimestamp, rfl⟩ := h
  exact htimestamp

theorem requireOptionalDigest_eq_ok {value : Value} {label : String} {o : Option Str}
    (h : requireOptionalDigest value label = .ok o) : ∀ digest ∈ o, IsDigest digest := by
  rintro digest rfl
  unfold requireOptionalDigest at h
  split at h
  · cases h
  · obtain ⟨s, hs, heq⟩ := map_eq_ok.mp h
    obtain rfl := Option.some.inj heq
    exact digestOf_eq_ok hs

theorem validateUnits_eq_ok {value : Value} {message : String} {units : List Str}
    (h : validateUnits value message = .ok units) :
    value = .arr (units.map .str) ∧ OrderedUnits units := by
  simp only [validateUnits, bind_eq_ok, orRefuse_eq_ok, refuseIf_eq_ok, pure_eq_ok, not_or, not_not,
    asList_eq_some, ne_eq] at h
  obtain ⟨items, rfl, us, hus, -, hordered, rfl⟩ := h
  refine ⟨congrArg Value.arr ?_, hordered⟩
  clear hordered
  induction items generalizing us with
  | nil =>
      obtain rfl : [] = us := by simpa using hus
      rfl
  | cons item items ih =>
      simp only [List.mapM_cons, Option.bind_eq_bind, Option.bind_eq_some_iff, Option.pure_def,
        Option.some.injEq, asText_eq_some] at hus
      obtain ⟨unit, rfl, rest, hrest, rfl⟩ := hus
      rw [List.map_cons, ← ih rest hrest]

/-! ## Records -/

theorem ownership_of_validated {host : EngineHost} {item : Fields} {kind : HostArtifactKind}
    {uid gid mode : Nat} (h : validateOwnership host item kind = .ok (uid, gid, mode)) :
    uid = host.expectedUid ∧ mode ≤ 0o7777 ∧ (kind = .file → mode &&& 0o7022 = 0)
      ∧ (kind = .symlink → mode = 0o777) := by
  simp only [validateOwnership, bind_eq_ok, refuseIf_eq_ok, pure_eq_ok, not_or, not_and, not_not,
    not_lt, ne_eq, Prod.mk.injEq] at h
  obtain ⟨_, -, _, -, _, -, -, howned, rfl, rfl, rfl⟩ := h
  exact howned

theorem proper_of_validated {host : EngineHost} {transactionId : Str} {index : Nat} {path : Str}
    {value : Value} {artifact : HostArtifact}
    (h : validateHostArtifact host transactionId index path value = .ok artifact) :
    artifact.Proper host transactionId index path := by
  simp only [validateHostArtifact, bind_eq_ok, orRefuse_eq_ok, refuseIf_eq_ok, exists_const] at h
  obtain ⟨item, -, -, -, kind, -, size, -, hsize, h⟩ := h
  have hsmall : size ≤ maxHostArtifactBytes := Nat.not_lt.mp hsize
  cases kind with
  | absent =>
      simp only [bind_eq_ok, refuseIf_eq_ok, pure_eq_ok] at h
      obtain ⟨-, -, rfl⟩ := h
      rfl
  | file =>
      simp only [bind_eq_ok, refuseIf_eq_ok, pure_eq_ok, exists_const] at h
      obtain ⟨⟨uid, gid, mode⟩, howner, digest, hdigest, -, rfl⟩ := h
      obtain ⟨huid, hmode, hsafe, -⟩ := ownership_of_validated howner
      exact ⟨rfl, hsmall, huid, hmode, hsafe rfl, digestOf_eq_ok hdigest, rfl⟩
  | symlink =>
      simp only [bind_eq_ok, orRefuse_eq_ok, refuseIf_eq_ok, pure_eq_ok, exists_const, not_or, ne_eq,
        not_not] at h
      obtain ⟨⟨uid, gid, mode⟩, howner, digest, hdigest, -, target, -, htarget, encoded, hencoded,
        hsame, rfl⟩ := h
      obtain ⟨huid, -, -, hmode⟩ := ownership_of_validated howner
      exact ⟨rfl, hsmall, huid, hmode rfl, digestOf_eq_ok hdigest, htarget.1, htarget.2.1,
        htarget.2.2, encoded, hencoded, hsame.1, hsame.2⟩

theorem properArtifacts_of_validated {host : EngineHost} {transactionId : Str} {index : Nat}
    {paths : List Str} {items : List Value} {artifacts : List HostArtifact}
    (hlength : items.length = paths.length)
    (h : validateHostArtifacts host transactionId index paths items = .ok artifacts) :
    ProperArtifacts host transactionId index paths artifacts := by
  induction paths generalizing index items artifacts with
  | nil =>
      obtain rfl := List.length_eq_zero_iff.mp hlength
      obtain rfl := pure_eq_ok.mp h
      trivial
  | cons path paths ih =>
      cases items with
      | nil => cases hlength
      | cons item items =>
          simp only [validateHostArtifacts, bind_eq_ok, pure_eq_ok] at h
          obtain ⟨artifact, hartifact, rest, hrest, rfl⟩ := h
          exact ⟨proper_of_validated hartifact, ih (Nat.succ.inj hlength) hrest⟩

theorem boundary_of_validated {host : EngineHost} {files : BackupFiles} {transactionId : Str}
    {required : Bool} {value : Value} {o : Option NativeBoundary}
    (h : validateNativeBoundaryRecord host files transactionId required value = .ok o) :
    if required = true then ∃ record, o = some record ∧ record.Proper host files transactionId
    else o = none := by
  cases required with
  | false =>
      simp only [validateNativeBoundaryRecord, if_true, bind_eq_ok, pure_eq_ok] at h
      obtain ⟨-, -, rfl⟩ := h
      rfl
  | true =>
      simp only [validateNativeBoundaryRecord, Bool.true_eq_false, if_false, bind_eq_ok,
        orRefuse_eq_ok, refuseIf_eq_ok, exists_const, pure_eq_ok, not_or, not_lt, ne_eq,
        not_not] at h
      obtain ⟨item, -, -, -, state, -, size, -, helperSize, -, hsize, hhelperSize, sha256, hsha,
        helperSha256, hhelperSha, snapshot, hsnapshot, helper, hhelper, found, hfound, rfl, hscript,
        rfl⟩ := h
      exact ⟨_, rfl, {
        backup := rfl
        helperBackup := rfl
        size := ⟨Nat.pos_of_ne_zero hsize.1, hsize.2⟩
        helperSize := ⟨Nat.pos_of_ne_zero hhelperSize.1, hhelperSize.2⟩
        sha256 := digestOf_eq_ok hsha
        helperSha256 := digestOf_eq_ok hhelperSha
        snapshot := ⟨snapshot, hsnapshot, hfound⟩
        helper := ⟨helper, hhelper, by simpa using hscript⟩ }⟩

theorem processField_of_validated {item : Fields} {key field : Str}
    (h : validateProcessField item key = .ok field) : IsProcessField field := by
  simp only [validateProcessField, bind_eq_ok, orRefuse_eq_ok, refuseIf_eq_ok, exists_const,
    pure_eq_ok, not_or, not_lt] at h
  obtain ⟨_, -, hfield, encoded, hencoded, hlength, rfl⟩ := h
  exact ⟨hfield.1, hfield.2, encoded, hencoded, hlength⟩

theorem eq_unit_of_consumerKind {unit : Str} {kind : ConsumerKind}
    (h : consumerKind unit = some kind) :
    unit = (match kind with | .daemon => daemonUnit | .api => apiUnit | .nginx => nginxUnit) := by
  unfold consumerKind at h
  split_ifs at h with hdaemon hapi hnginx
  · obtain rfl := Option.some.inj h
    exact hdaemon
  · obtain rfl := Option.some.inj h
    exact hapi
  · obtain rfl := Option.some.inj h
    exact hnginx

theorem properBaseline_of_validated {host : EngineHost} {files : BackupFiles} {transactionId : Str}
    {index : Nat} {unit : Str} {value : Value} {record : ConsumerBaseline}
    (h : validateConsumerBaseline host files transactionId index unit value = .ok record) :
    record.Proper host files transactionId index unit := by
  simp only [validateConsumerBaseline, bind_eq_ok, orRefuse_eq_ok, refuseIf_eq_ok,
    exists_const] at h
  obtain ⟨item, -, -, -, kind, hkind, -, size, -, hsize, h⟩ := h
  have hunit := eq_unit_of_consumerKind hkind
  cases kind with
  | daemon =>
      simp only [bind_eq_ok, refuseIf_eq_ok, pure_eq_ok] at h
      obtain ⟨-, -, rfl⟩ := h
      exact hunit
  | api =>
      simp only [bind_eq_ok, refuseIf_eq_ok, exists_const, pure_eq_ok, not_or, not_not] at h
      obtain ⟨wd, hwd, exec, hexec, argv, hargv, resolved, hresolved, hpaths, -, rfl⟩ := h
      exact ⟨hunit, ⟨processField_of_validated hwd, processField_of_validated hexec,
        processField_of_validated hargv, processField_of_validated hresolved⟩, hpaths⟩
  | nginx =>
      simp only [bind_eq_ok, refuseIf_eq_ok, exists_const, pure_eq_ok, not_or] at h
      obtain ⟨-, hbackup, digest, hdigest, content, hcontent, rfl⟩ := h
      exact ⟨hunit, rfl, Nat.pos_of_ne_zero hbackup.2, Nat.not_lt.mp hsize, digestOf_eq_ok hdigest,
        content, hcontent⟩

theorem properBaselines_of_validated {host : EngineHost} {files : BackupFiles} {transactionId : Str}
    {index : Nat} {units : List Str} {items : List Value} {records : List ConsumerBaseline}
    (hlength : items.length = units.length)
    (h : validateConsumerBaselines host files transactionId index units items = .ok records) :
    ProperBaselines host files transactionId index units records := by
  induction units generalizing index items records with
  | nil =>
      obtain rfl := List.length_eq_zero_iff.mp hlength
      obtain rfl := pure_eq_ok.mp h
      trivial
  | cons unit units ih =>
      cases items with
      | nil => cases hlength
      | cons item items =>
          simp only [validateConsumerBaselines, bind_eq_ok, pure_eq_ok] at h
          obtain ⟨record, hrecord, rest, hrest, rfl⟩ := h
          exact ⟨properBaseline_of_validated hrecord, ih (Nat.succ.inj hlength) hrest⟩

/-! ## The whole -/

section Validated

variable {host : EngineHost} {files : BackupFiles} {value : Fields}

theorem plan_of_validated {authority : Authority} {plan : List Str} {u : Unit} {t : Transaction}
    (hkind : t.transactionKind = authority.transactionKind)
    (hprofile : t.hostProfile = authority.hostProfile) (hplan : t.consumerRollbackPlan = plan)
    (h : validatePlan authority plan = .ok u) : t.PlanRule := by
  subst hplan
  exact (validatePlan_eq_ok hkind.symm hprofile.symm).mp h

/-- The dictionaries that the validator accepts obey its rules. -/
theorem rules_of_validated {t : Transaction} (h : validateTransaction host files value = .ok t) :
    t.Rules host files := by
  simp only [validateTransaction, bind_eq_ok, pure_eq_ok] at h
  obtain ⟨subject, hsubject, authority, hauthority, consumers, hconsumers, restored, hrestored, rfl⟩
    := h
  simp only [validateSubject, bind_eq_ok, refuseIf_eq_ok, orRefuse_eq_ok, pure_eq_ok,
    exists_const] at hsubject
  obtain ⟨-, -, id, hid, name, -, phase, -, candidate, hcandidate, current, hcurrent, previous,
    hprevious, hdiffer, hfresh, bytes, -, reserve, -, created, hcreated, updated, hupdated, horder,
    rfl⟩ := hsubject
  simp only [validateAuthority, bind_eq_ok, refuseIf_eq_ok, orRefuse_eq_ok, pure_eq_ok,
    exists_const] at hauthority
  obtain ⟨kindName, -, kind, -, harchive, profile, -, retired, -, hterminal, paths, hpaths, artifacts,
    hartifacts, _, hbackups, boundary, hboundary, rfl⟩ := hauthority
  simp only [validateHostArtifactRecords, bind_eq_ok, orRefuse_eq_ok, refuseIf_eq_ok, exists_const,
    ne_eq, not_not] at hartifacts
  obtain ⟨items, -, hlength, hartifacts⟩ := hartifacts
  simp only [validateConsumers, bind_eq_ok, refuseIf_eq_ok, pure_eq_ok, exists_const] at hconsumers
  obtain ⟨enable, henable, plan, hplan, u, hplanned, armed, harmed, hunarmed, mutation, hmutation,
    active, hactive, hsubset, baseline, hbaseline, start, hstart, hstarted, howned, hrule, rfl⟩ :=
    hconsumers
  simp only [validateConsumerBaselineRecords, bind_eq_ok, orRefuse_eq_ok, refuseIf_eq_ok,
    exists_const, ne_eq, not_not] at hbaseline
  obtain ⟨records, hrecords, hsame, hbaseline⟩ := hbaseline
  simp only [validateRestored, bind_eq_ok, refuseIf_eq_ok, pure_eq_ok, exists_const] at hrestored
  obtain ⟨marker, -, hphases, hcompact, rfl⟩ := hrestored
  have hboundary := boundary_of_validated hboundary
  have hactiveValue := (validateUnits_eq_ok hactive).1
  have hrecordsValue := asList_eq_some.mp hrecords
  exact {
    transactionId := requireUuid_eq_ok hid
    candidate := digestOf_eq_ok hcandidate
    currentBefore := requireOptionalDigest_eq_ok hcurrent
    previousBefore := requireOptionalDigest_eq_ok hprevious
    differ := fun heq => not_not.mp fun hne => hdiffer ⟨heq, hne⟩
    fresh := hfresh
    createdAt := requireTimestamp_eq_ok hcreated
    updatedAt := requireTimestamp_eq_ok hupdated
    inOrder := horder
    archive := fun hk heq => harchive ⟨hk, heq⟩
    retired := fun hr => not_not.mp fun hn => hterminal ⟨hr, hn⟩
    artifacts := ⟨paths, hpaths, properArtifacts_of_validated hlength hartifacts⟩
    backups := hbackups
    boundary := by
      rw [Transaction.BoundaryRule]
      simpa using hboundary
    enable := (validateUnits_eq_ok henable).2
    plan := (validateUnits_eq_ok hplan).2
    planned := plan_of_validated rfl rfl rfl hplanned
    unarmed := fun ha => by
      have hnone := fun htruthy => hunarmed ⟨ha, htruthy⟩
      rw [hactiveValue, hrecordsValue] at hnone
      refine ⟨?_, ?_⟩
      · exact not_not.mp fun hne => hnone (Or.inl ((truthy_units active).mpr hne))
      · cases records with
        | nil =>
            have hempty : active = [] := List.length_eq_zero_iff.mp hsame.symm
            subst hempty
            exact (pure_eq_ok.mp hbaseline).symm
        | cons record records => exact absurd (Or.inr rfl) hnone
    active := (validateUnits_eq_ok hactive).2
    activePlanned := fun unit hmem => not_not.mp fun hn => hsubset ⟨unit, hmem, hn⟩
    baseline := properBaselines_of_validated hsame hbaseline
    start := (validateUnits_eq_ok hstart).2
    startEnabled := fun unit hmem => not_not.mp fun hn => hstarted ⟨unit, hmem, hn⟩
    daemonOwned := fun hprofile => by
      have hnone := not_and.mp howned hprofile
      simpa only [not_or] using hnone
    mutation := fun hm => by
      have hnone := not_and.mp hrule hm
      simp only [not_or, not_and, not_not, ne_eq, Bool.not_eq_true] at hnone
      exact ⟨hnone.1, hnone.2.1, hnone.2.2.1, hnone.2.2.2.1, hnone.2.2.2.2.1, hnone.2.2.2.2.2⟩
    restored := fun hr => not_not.mp fun hn => hphases ⟨hr, hn⟩
    compact := fun hr => by
      have hnone := not_and.mp hcompact hr
      simp only [not_or, not_not, ne_eq, Bool.not_eq_true] at hnone
      obtain ⟨h₁, h₂, h₃, h₄, h₅, h₆, h₇, h₈, h₉⟩ := hnone
      exact ⟨h₁, h₂, h₃, h₄, h₅, h₆, h₇, h₈, h₉⟩ }

end Validated

end TrexWebui.ReleaseEngine
