import TrexWebui.CaptureSteps

/-!
# What a file holds, and what a process reads back

A ledger is `Recorded` when the store accepts it: every entry has a valid
lease, and at most one is unresolved. What `_replace_runtime_state` has
written is recorded, and so is what `_restore_persisted_leases` reads from
a valid document. `Restored` says entry by entry what a process reads.
-/

namespace TrexWebui

open OracleProgram

namespace CaptureRuntime

/-! ## Recorded ledgers -/

def Unresolved (r : CaptureRuntime) (id : CaptureId) : Prop :=
  id ∈ r.preparations ∨ id ∈ r.pendingBaselines

/-- The store accepts the ledger. -/
structure Recorded (r : CaptureRuntime) : Prop where
  lease : ∀ id ∈ r.managedCaptureIds, ∃ lease, r.captureLease id = .ok lease
  one_unresolved : ∀ id id', r.Unresolved id → r.Unresolved id' → id = id'

theorem Unresolved.managed {r : CaptureRuntime} {id : CaptureId} (h : r.Unresolved id) :
    id ∈ r.managedCaptureIds := by
  rw [mem_managedCaptureIds]
  rcases h with h | h <;> simp [h]

theorem leaseWith_unresolved {r : CaptureRuntime} {id : CaptureId} {identity : CaptureIdentity}
    {authority : RuntimeAuthorityIdentity} :
    (r.leaseWith id identity authority).unresolved = true ↔ r.Unresolved id := by
  unfold CaptureLeaseState.unresolved leaseWith recoveryPhase Unresolved
  dsimp only
  by_cases hprep : id ∈ r.preparations
  · simp [hprep]
  · by_cases hpend : id ∈ r.pendingBaselines
    · simp [hprep, hpend]
    · by_cases hcleanup : id ∈ r.cleanupRequiredIds <;> simp [hprep, hpend, hcleanup]

theorem captureLease_eq_ok {r : CaptureRuntime} {id : CaptureId} {lease : CaptureLeaseState} :
    r.captureLease id = .ok lease ↔ ∃ identity authority,
      r.identities.lookup id = some identity ∧ r.authorities.lookup id = some authority
      ∧ lease = r.leaseWith id identity authority ∧ lease.Valid := by
  unfold captureLease
  cases r.identities.lookup id with
  | none => simp
  | some identity =>
      cases r.authorities.lookup id with
      | none => simp
      | some authority =>
          dsimp only
          by_cases hvalid : (r.leaseWith id identity authority).Valid
          · rw [if_pos hvalid]
            constructor
            · intro h
              cases h
              exact ⟨identity, authority, rfl, rfl, rfl, hvalid⟩
            · rintro ⟨_, _, hidentity, hauthority, rfl, _⟩
              cases hidentity
              cases hauthority
              rfl
          · rw [if_neg hvalid]
            simp only [reduceCtorEq, false_iff, not_exists]
            rintro _ _ ⟨hidentity, hauthority, rfl, hvalid'⟩
            cases hidentity
            cases hauthority
            exact hvalid hvalid'

theorem mapM_eq_ok {α β : Type} {f : α → Except CaptureError β} {l : List α} {bs : List β} :
    l.mapM f = .ok bs ↔ List.Forall₂ (fun a b => f a = .ok b) l bs := by
  induction l generalizing bs with
  | nil => simp [pure, Except.pure, eq_comm]
  | cons a rest ih =>
      rw [List.mapM_cons]
      cases ha : f a with
      | error e => simp [bind, Except.bind, List.forall₂_cons_left_iff, ha]
      | ok b =>
          cases hrest : rest.mapM f with
          | error e =>
              simp only [bind, Except.bind, reduceCtorEq, false_iff]
              intro h
              obtain ⟨_, rest', _, htail, _⟩ := List.forall₂_cons_left_iff.mp h
              rw [ih.mpr htail] at hrest
              cases hrest
          | ok rest' =>
              simp only [bind, Except.bind, pure, Except.pure, Except.ok.injEq,
                List.forall₂_cons_left_iff, ha]
              constructor
              · rintro rfl
                exact ⟨b, rest', rfl, ih.mp hrest, rfl⟩
              · rintro ⟨b', rest'', rfl, htail, rfl⟩
                have hsame := ih.mpr htail
                rw [hrest] at hsame
                cases hsame
                rfl

theorem captureLeases_eq_ok {r : CaptureRuntime} {leases : List CaptureLeaseState} :
    r.captureLeases = .ok leases ↔
      List.Forall₂ (fun id lease => r.captureLease id = .ok lease) r.managedCaptureIds leases :=
  mapM_eq_ok

section

variable {r : CaptureRuntime} {leases : List CaptureLeaseState}

theorem captureId_of_captureLease {id : CaptureId} {lease : CaptureLeaseState}
    (h : r.captureLease id = .ok lease) : lease.captureId = id := by
  obtain ⟨_, _, _, _, rfl, _⟩ := captureLease_eq_ok.mp h
  rfl

theorem unresolved_of_captureLease {id : CaptureId} {lease : CaptureLeaseState}
    (h : r.captureLease id = .ok lease) : lease.unresolved = true ↔ r.Unresolved id := by
  obtain ⟨_, _, _, _, rfl, _⟩ := captureLease_eq_ok.mp h
  exact leaseWith_unresolved

theorem captureLeases_ids (h : r.captureLeases = .ok leases) :
    leases.map (·.captureId) = r.managedCaptureIds := by
  have hforall := captureLeases_eq_ok.mp h
  clear h
  generalize r.managedCaptureIds = ids at hforall ⊢
  induction hforall with
  | nil => rfl
  | cons hhead _ ih => rw [List.map_cons, ih, captureId_of_captureLease hhead]

theorem mem_captureLeases (h : r.captureLeases = .ok leases) {lease : CaptureLeaseState} :
    lease ∈ leases ↔ ∃ id ∈ r.managedCaptureIds, r.captureLease id = .ok lease := by
  have hforall := captureLeases_eq_ok.mp h
  clear h
  generalize r.managedCaptureIds = ids at hforall ⊢
  induction hforall with
  | nil => simp
  | @cons id found ids rest hhead _ ih =>
      simp only [List.mem_cons, ih, exists_eq_or_imp]
      refine or_congr ⟨fun heq => heq ▸ hhead, fun heq => ?_⟩ Iff.rfl
      rw [hhead] at heq
      exact (Except.ok.inj heq).symm

theorem length_le_one {α : Type} {l : List α} (hnodup : l.Nodup)
    (hsame : ∀ a ∈ l, ∀ b ∈ l, a = b) : l.length ≤ 1 := by
  rcases l with _ | ⟨a, _ | ⟨b, rest⟩⟩
  · simp
  · simp
  · have heq := hsame a (by simp) b (by simp)
    simp [heq] at hnodup

theorem same_of_length_le_one {α : Type} {l : List α} (hlength : l.length ≤ 1) {a b : α}
    (ha : a ∈ l) (hb : b ∈ l) : a = b := by
  rcases l with _ | ⟨c, _ | ⟨d, rest⟩⟩
  · cases ha
  · rw [List.mem_singleton.mp ha, List.mem_singleton.mp hb]
  · simp at hlength

theorem recorded_of_leases (h : r.captureLeases = .ok leases)
    (hone : (leases.filter (·.unresolved)).length ≤ 1) : r.Recorded where
  lease := by
    intro id hid
    rw [← captureLeases_ids h, List.mem_map] at hid
    obtain ⟨lease, hlease, rfl⟩ := hid
    obtain ⟨id, _, hok⟩ := (mem_captureLeases h).mp hlease
    exact ⟨lease, captureId_of_captureLease hok ▸ hok⟩
  one_unresolved := by
    have hfound : ∀ id, r.Unresolved id →
        ∃ lease ∈ leases.filter (·.unresolved), lease.captureId = id := by
      intro id hid
      have hmem := hid.managed
      rw [← captureLeases_ids h, List.mem_map] at hmem
      obtain ⟨lease, hlease, rfl⟩ := hmem
      obtain ⟨id, _, hok⟩ := (mem_captureLeases h).mp hlease
      have hsame := captureId_of_captureLease hok
      rw [hsame] at hid
      have hunresolved := (unresolved_of_captureLease hok).mpr hid
      exact ⟨lease, List.mem_filter.mpr ⟨hlease, hunresolved⟩, rfl⟩
    intro id id' hid hid'
    obtain ⟨lease, hlease, rfl⟩ := hfound id hid
    obtain ⟨lease', hlease', rfl⟩ := hfound id' hid'
    rw [same_of_length_le_one hone hlease hlease']

/-- The store accepts the leases of a recorded ledger, in whatever document. -/
theorem Recorded.accepted (h : r.Recorded) : ∃ leases, r.captureLeases = .ok leases
    ∧ ∀ (doc : PersistedDocument) now, (stampLeases doc.document leases now).Valid := by
  have hexists : ∃ leases, List.Forall₂ (fun id lease => r.captureLease id = .ok lease)
      r.managedCaptureIds leases := by
    have hlease := h.lease
    generalize r.managedCaptureIds = ids at hlease
    induction ids with
    | nil => exact ⟨[], .nil⟩
    | cons id rest ih =>
        obtain ⟨lease, hok⟩ := hlease id (by simp)
        obtain ⟨leases, hleases⟩ := ih fun id hid => hlease id (List.mem_cons_of_mem _ hid)
        exact ⟨lease :: leases, .cons hok hleases⟩
  obtain ⟨leases, hforall⟩ := hexists
  have hok := captureLeases_eq_ok.mpr hforall
  have hids : (leases.map (·.captureId)).Nodup := by
    rw [captureLeases_ids hok]
    exact OrderedDict.nodup_eraseDups _
  refine ⟨leases, hok, fun doc now => { doc.valid with
    leases_valid := ?_, capture_ids_unique := hids, one_pending_capture := ?_ }⟩
  · intro lease hlease
    obtain ⟨id, _, hlease⟩ := (mem_captureLeases hok).mp hlease
    obtain ⟨_, _, _, _, _, hvalid⟩ := captureLease_eq_ok.mp hlease
    exact hvalid
  · refine length_le_one ((List.Nodup.of_map _ hids).filter _) fun a ha b hb => ?_
    have hunresolved : ∀ lease ∈ leases.filter (·.unresolved), r.Unresolved lease.captureId := by
      intro lease hlease
      obtain ⟨hmem, hunresolved⟩ := List.mem_filter.mp hlease
      obtain ⟨id, _, hlease⟩ := (mem_captureLeases hok).mp hmem
      rw [captureId_of_captureLease hlease]
      exact (unresolved_of_captureLease hlease).mp hunresolved
    have hsame := h.one_unresolved _ _ (hunresolved a ha) (hunresolved b hb)
    exact List.inj_on_of_nodup_map hids (List.mem_filter.mp ha).1 (List.mem_filter.mp hb).1 hsame

end

end CaptureRuntime

theorem WritesLedger.recorded {w : CaptureWorld} {candidate : CaptureRuntime} {doc : PersistedDocument}
    (h : WritesLedger w candidate doc) : candidate.Recorded :=
  CaptureRuntime.recorded_of_leases h.leases doc.valid.one_pending_capture

/-! ## What the store writes -/

section

variable {env : CaptureEnvironment} {w : CaptureWorld} {log : List CaptureConsultation}
  {candidate : CaptureRuntime}

theorem consult_alive {c : CaptureConsultation} (h : env.crashes w log = false) :
    consult env c w log = (.ok (env.answer w log c), c :: log) := by
  simp [consult, h]

theorem consult_dead {c : CaptureConsultation} (h : env.crashes w log = true) :
    consult env c w log = (.error .crashed, log) := by
  simp [consult, h]

theorem theStore_eq (w : CaptureWorld) (log : List CaptureConsultation) :
    theStore w log = (.ok w.store, log) := rfl

/-- The process lives, and the file system takes what the validators accept. -/
structure StoreWrites (env : CaptureEnvironment) (w : CaptureWorld)
    (log : List CaptureConsultation) : Prop where
  load_alive : env.crashes w log = false
  loads : env.answer w log .loadState = none
  clock_alive : env.crashes w (.loadState :: log) = false
  persist_alive : env.crashes w (.utcNow :: .loadState :: log) = false
  writes : env.answer w (.utcNow :: .loadState :: log) .persistState = .written

theorem replaceRuntimeState_writes (hrecorded : candidate.Recorded)
    (hstore : StoreWrites env w log) : ∃ doc, WritesLedger w candidate doc
      ∧ replaceRuntimeState env candidate w log
        = ((.ok (), (w.commit doc).assign candidate), .persistState :: .utcNow :: .loadState :: log) := by
  obtain ⟨leases, hleases, haccepted⟩ := hrecorded.accepted
  let now := env.answer w (.loadState :: log) .utcNow
  have hvalid := haccepted w.store now
  refine ⟨⟨stampLeases w.store.document leases now, hvalid⟩, ⟨hleases, now, rfl⟩, ?_⟩
  have hupdate : updateLeases env leases w log
      = ((.ok (), w.commit ⟨stampLeases w.store.document leases now, hvalid⟩),
        .persistState :: .utcNow :: .loadState :: log) := by
    unfold updateLeases
    rw [Program.query_ok (consult_alive hstore.load_alive), hstore.loads]
    dsimp only
    rw [Program.query_ok (theStore_eq w _)]
    rw [Program.query_ok (consult_alive hstore.clock_alive)]
    rw [dif_pos hvalid, Program.query_ok (consult_alive hstore.persist_alive), hstore.writes]
    rfl
  unfold replaceRuntimeState
  rw [hleases]
  change (updateLeases env leases >>= fun _ =>
    Program.modify (·.assign candidate) : CaptureM Unit) w log = _
  rw [Program.bind_ok hupdate]
  rfl

/-- A ledger that is not recorded, or that the file system does not take, raises. -/
theorem replaceRuntimeState_returns {w' : CaptureWorld} {log' : List CaptureConsultation}
    (h : replaceRuntimeState env candidate w log = ((.ok (), w'), log')) :
    candidate.Recorded ∧ StoreWrites env w log := by
  unfold replaceRuntimeState at h
  cases hleases : candidate.captureLeases with
  | error e =>
      rw [hleases] at h
      cases h
  | ok leases =>
      rw [hleases] at h
      change (updateLeases env leases >>= fun _ =>
        Program.modify (·.assign candidate) : CaptureM Unit) w log = _ at h
      have hupdate : ∃ w₁ log₁, updateLeases env leases w log = ((.ok (), w₁), log₁) := by
        rcases hrun : updateLeases env leases w log with ⟨⟨result, w₁⟩, log₁⟩
        cases result with
        | ok u => exact ⟨w₁, log₁, rfl⟩
        | error e =>
            rw [Program.bind_error hrun] at h
            cases h
      obtain ⟨w₁, log₁, hupdate⟩ := hupdate
      unfold updateLeases at hupdate
      have halive : ∀ {c : CaptureConsultation} {log₀ log₂ : List CaptureConsultation}
          {f : c.Answer → CaptureM Unit} {w₂ : CaptureWorld},
          ((liftM (consult env c) : CaptureM c.Answer) >>= f) w log₀ = ((.ok (), w₂), log₂) →
          env.crashes w log₀ = false := by
        intro c log₀ log₂ f w₂ hrun
        by_contra hdead
        rw [Program.query_error (consult_dead (by simpa using hdead))] at hrun
        cases hrun
      have hload := halive hupdate
      rw [Program.query_ok (consult_alive hload)] at hupdate
      cases hloads : env.answer w log .loadState with
      | some message =>
          rw [hloads] at hupdate
          cases hupdate
      | none =>
          rw [hloads] at hupdate
          dsimp only at hupdate
          rw [Program.query_ok (theStore_eq w _)] at hupdate
          have hclock := halive hupdate
          rw [Program.query_ok (consult_alive hclock)] at hupdate
          by_cases hvalid : (stampLeases w.store.document leases
              (env.answer w (.loadState :: log) .utcNow)).Valid
          · rw [dif_pos hvalid] at hupdate
            have hpersist := halive hupdate
            rw [Program.query_ok (consult_alive hpersist)] at hupdate
            have hone := CaptureRuntime.recorded_of_leases hleases hvalid.one_pending_capture
            cases hwrites : env.answer w (.utcNow :: .loadState :: log) .persistState with
            | written => exact ⟨hone, hload, hloads, hclock, hpersist, hwrites⟩
            | refused message =>
                rw [hwrites] at hupdate
                cases hupdate
            | renamedThenFailed message =>
                rw [hwrites] at hupdate
                cases hupdate
          · rw [dif_neg hvalid] at hupdate
            cases hupdate

end

/-! ## What a process reads back -/

def CaptureLeaseState.preparation (l : CaptureLeaseState) : Option CapturePreparation :=
  match l.recoveryPhase, l.preparationStage with
  | .preparing, some stage => some ⟨stage, l.preAcquiredPorts, l.acquirePlannedPorts,
      l.serviceEnablePlannedPorts, l.preparationServiceStates⟩
  | _, _ => none

def leaseOf (leases : List CaptureLeaseState) (id : CaptureId) : Option CaptureLeaseState :=
  leases.find? fun l => l.captureId = id

/-- The ledger that these leases restore, entry by entry. -/
structure Restored (leases : List CaptureLeaseState) (r : CaptureRuntime) : Prop where
  serviceStates : ∀ id, r.serviceStates.lookup id = (leaseOf leases id).map (·.serviceStates)
  ports : ∀ id, r.ports.lookup id = (leaseOf leases id).map (·.ports)
  acquiredPorts : ∀ id, r.acquiredPorts.lookup id = (leaseOf leases id).map (·.acquiredPorts)
  identities : ∀ id, r.identities.lookup id
    = (leaseOf leases id).map fun l => .create l.txPorts l.rxPorts l.bpfFilter
  authorities : ∀ id, r.authorities.lookup id = (leaseOf leases id).map (·.authority)
  pendingBaselines : ∀ id, r.pendingBaselines.lookup id
    = (leaseOf leases id).bind fun l => if l.unresolved then some l.baselineCaptureIds else none
  baselineRecorders : ∀ id, r.baselineRecorders.lookup id
    = (leaseOf leases id).bind fun l => if l.unresolved then some l.baselineRecorders else none
  preparations : ∀ id, r.preparations.lookup id
    = (leaseOf leases id).bind CaptureLeaseState.preparation
  cleanupRequiredIds : ∀ id, id ∈ r.cleanupRequiredIds ↔
    ∃ l, leaseOf leases id = some l ∧ l.recoveryPhase = .cleanupRequired

section

variable {leases : List CaptureLeaseState} {lease : CaptureLeaseState} {r r' : CaptureRuntime}
  {id : CaptureId}

theorem leaseOf_none (hnew : id ∉ leases.map (·.captureId)) : leaseOf leases id = none := by
  rw [leaseOf, List.find?_eq_none]
  exact fun l hl hsame => hnew (List.mem_map.mpr ⟨l, hl, of_decide_eq_true hsame⟩)

theorem leaseOf_append (hnew : lease.captureId ∉ leases.map (·.captureId)) :
    leaseOf (leases ++ [lease]) id
      = if id = lease.captureId then some lease else leaseOf leases id := by
  unfold leaseOf
  rw [List.find?_append]
  by_cases hid : id = lease.captureId
  · have hnone : leases.find? (fun l => l.captureId = id) = none := leaseOf_none (hid ▸ hnew)
    rw [hnone, if_pos hid]
    simp [hid]
  · have hother : [lease].find? (fun l => l.captureId = id) = none := by
      simp [Ne.symm hid]
    rw [hother, if_neg hid, Option.or_none]

theorem leaseOf_some {l : CaptureLeaseState} (h : leaseOf leases id = some l) :
    l ∈ leases ∧ l.captureId = id := by
  have hid := List.find?_some h
  exact ⟨List.mem_of_find?_eq_some h, of_decide_eq_true hid⟩

theorem lookup_append {α : Type} {d : PerCapture α} {value : CaptureLeaseState → α}
    (hnew : lease.captureId ∉ leases.map (·.captureId))
    (h : ∀ id, d.lookup id = (leaseOf leases id).map value) :
    (OrderedDict.set d lease.captureId (value lease)).lookup id
      = (leaseOf (leases ++ [lease]) id).map value := by
  rw [OrderedDict.lookup_set, leaseOf_append hnew]
  by_cases hid : id = lease.captureId
  · rw [if_pos hid, if_pos hid, Option.map_some]
  · rw [if_neg hid, if_neg hid, h id]

/-- As `lookup_append`, for a dictionary that only some leases have an entry in. -/
theorem lookup_append_bind {α : Type} {d d' : PerCapture α}
    {value : CaptureLeaseState → Option α}
    (hnew : lease.captureId ∉ leases.map (·.captureId))
    (h : ∀ id, d.lookup id = (leaseOf leases id).bind value)
    (hsome : ∀ a, value lease = some a → d' = OrderedDict.set d lease.captureId a)
    (hnone : value lease = none → d' = d) :
    d'.lookup id = (leaseOf (leases ++ [lease]) id).bind value := by
  rw [leaseOf_append hnew]
  cases hvalue : value lease with
  | some a =>
      rw [hsome a hvalue, OrderedDict.lookup_set]
      by_cases hid : id = lease.captureId
      · rw [if_pos hid, if_pos hid, Option.bind_some, hvalue]
      · rw [if_neg hid, if_neg hid, h id]
  | none =>
      rw [hnone hvalue]
      by_cases hid : id = lease.captureId
      · have habsent : leaseOf leases id = none := hid ▸ leaseOf_none hnew
        rw [if_pos hid, Option.bind_some, hvalue, h id, habsent, Option.bind_none]
      · rw [if_neg hid, h id]

theorem validatedServiceStates_eq_ok {states states' : Dict Port ServiceStateDict}
    {ports : List Port} (h : CaptureRuntime.validatedServiceStates id states ports = .ok states') :
    states' = states := by
  unfold CaptureRuntime.validatedServiceStates at h
  dsimp only at h
  split at h
  · cases h
  · split at h
    · cases h
    · cases h
      rfl

theorem restoreLease_eq_ok (h : r.restoreLease lease = .ok r') :
    r' = { r with
      serviceStates := OrderedDict.set r.serviceStates lease.captureId lease.serviceStates
      ports := OrderedDict.set r.ports lease.captureId lease.ports
      acquiredPorts := OrderedDict.set r.acquiredPorts lease.captureId lease.acquiredPorts
      identities := OrderedDict.set r.identities lease.captureId
        (.create lease.txPorts lease.rxPorts lease.bpfFilter)
      authorities := OrderedDict.set r.authorities lease.captureId lease.authority
      pendingBaselines := if lease.unresolved then
        OrderedDict.set r.pendingBaselines lease.captureId lease.baselineCaptureIds
        else r.pendingBaselines
      baselineRecorders := if lease.unresolved then
        OrderedDict.set r.baselineRecorders lease.captureId lease.baselineRecorders
        else r.baselineRecorders
      preparations := lease.preparation.elim r.preparations
        (OrderedDict.set r.preparations lease.captureId)
      cleanupRequiredIds := if lease.recoveryPhase = .cleanupRequired then
        r.cleanupRequiredIds ++ [lease.captureId] else r.cleanupRequiredIds } := by
  unfold CaptureRuntime.restoreLease at h
  dsimp only at h
  cases hstates : CaptureRuntime.validatedServiceStates lease.captureId lease.serviceStates
      lease.ports with
  | error e => simp [hstates, bind, Except.bind] at h
  | ok states =>
      have hsame := validatedServiceStates_eq_ok hstates
      subst hsame
      rw [hstates] at h
      simp only [bind, Except.bind, pure, Except.pure, throw, throwThe,
        MonadExceptOf.throw] at h
      unfold CaptureLeaseState.preparation
      cases hphase : lease.recoveryPhase with
      | preparing =>
          cases hstage : lease.preparationStage with
          | none => simp [hphase, hstage] at h
          | some stage =>
              simp only [hphase, hstage, Except.ok.injEq] at h
              simp [← h]
      | active | pendingStart | cleanupRequired =>
          simp only [hphase, Except.ok.injEq] at h
          simp [← h]

theorem Restored.snoc (hnew : lease.captureId ∉ leases.map (·.captureId))
    (h : Restored leases r) (hlease : r.restoreLease lease = .ok r') :
    Restored (leases ++ [lease]) r' := by
  rw [restoreLease_eq_ok hlease]
  constructor
  · exact fun id => lookup_append hnew h.serviceStates
  · exact fun id => lookup_append hnew h.ports
  · exact fun id => lookup_append hnew h.acquiredPorts
  · exact fun id => lookup_append hnew
      (fun id => (h.identities id : _ = (leaseOf leases id).map fun l =>
        CaptureIdentity.create l.txPorts l.rxPorts l.bpfFilter))
  · exact fun id => lookup_append hnew h.authorities
  · refine fun id => lookup_append_bind hnew h.pendingBaselines (fun a ha => ?_) fun hnone => ?_
    · by_cases hunresolved : lease.unresolved = true
      · simp only [hunresolved, ↓reduceIte, Option.some.injEq] at ha ⊢
        rw [ha]
      · simp [hunresolved] at ha
    · by_cases hunresolved : lease.unresolved = true <;> simp [hunresolved] at hnone ⊢
  · refine fun id => lookup_append_bind hnew h.baselineRecorders (fun a ha => ?_) fun hnone => ?_
    · by_cases hunresolved : lease.unresolved = true
      · simp only [hunresolved, ↓reduceIte, Option.some.injEq] at ha ⊢
        rw [ha]
      · simp [hunresolved] at ha
    · by_cases hunresolved : lease.unresolved = true <;> simp [hunresolved] at hnone ⊢
  · refine fun id => lookup_append_bind hnew h.preparations (fun a ha => ?_) fun hnone => ?_
    · rw [ha, Option.elim_some]
    · rw [hnone, Option.elim_none]
  · intro id
    rw [leaseOf_append hnew]
    have hold : lease.captureId ∉ r.cleanupRequiredIds := by
      intro hmem
      obtain ⟨l, hl, _⟩ := (h.cleanupRequiredIds _).mp hmem
      rw [leaseOf_none hnew] at hl
      cases hl
    by_cases hid : id = lease.captureId
    · subst hid
      by_cases hphase : lease.recoveryPhase = .cleanupRequired <;> simp [hphase, hold]
    · by_cases hphase : lease.recoveryPhase = .cleanupRequired <;>
        simp [hphase, hid, h.cleanupRequiredIds]

theorem restored_of_restore (hnodup : (leases.map (·.captureId)).Nodup)
    (h : CaptureRuntime.restorePersistedLeases leases = .ok r) : Restored leases r := by
  unfold CaptureRuntime.restorePersistedLeases at h
  induction leases using List.reverseRecOn generalizing r with
  | nil =>
      cases h
      constructor <;> simp [leaseOf]
  | append_singleton leases lease ih =>
      rw [List.foldlM_append] at h
      cases hrest : leases.foldlM CaptureRuntime.restoreLease ({} : CaptureRuntime) with
      | error e => rw [hrest] at h; cases h
      | ok before =>
          rw [hrest] at h
          change ([lease].foldlM CaptureRuntime.restoreLease before) = .ok r at h
          rw [List.foldlM_cons] at h
          cases hlease : before.restoreLease lease with
          | error e => rw [hlease] at h; cases h
          | ok after =>
              rw [hlease] at h
              cases h
              rw [List.map_append, List.nodup_append] at hnodup
              refine Restored.snoc (fun hmem => ?_) (ih hnodup.1 hrest) hlease
              exact hnodup.2.2 _ hmem _ (by simp) rfl

/-! ## A restored ledger is recorded -/

/-- A lease with its ports as `CaptureIdentity.create` leaves them. -/
def CaptureLeaseState.normalized (l : CaptureLeaseState) : CaptureLeaseState :=
  { l with txPorts := sortedSet l.txPorts, rxPorts := sortedSet l.rxPorts }

theorem CaptureLeaseState.Valid.normalized {l : CaptureLeaseState} (h : l.Valid) :
    l.normalized.Valid := by
  have hset : ∀ ports : List Port, (sortedSet ports).toFinset = ports.toFinset := fun ports => by
    ext p
    simp
  have hempty : ∀ ports : List Port, sortedSet ports = [] → ports = [] := by
    intro ports hnil
    rw [List.eq_nil_iff_forall_not_mem]
    intro p hp
    have hmem := mem_sortedSet.mpr hp
    rw [hnil] at hmem
    cases hmem
  obtain ⟨hb, hpre, hplan, hservice, -, -, hports, hacquired⟩ := h.lists_unique
  exact { h with
    lists_unique := ⟨hb, hpre, hplan, hservice, nodup_sortedSet _, nodup_sortedSet _, hports,
      hacquired⟩
    has_port := by
      intro hnil
      obtain ⟨htx, hrx⟩ := List.append_eq_nil_iff.mp hnil
      exact h.has_port (by rw [hempty _ htx, hempty _ hrx]; rfl)
    directional := by
      have hsame := h.directional
      rw [List.toFinset_append] at hsame
      change (sortedSet l.txPorts ++ sortedSet l.rxPorts).toFinset = l.ports.toFinset
      rw [List.toFinset_append, hset, hset, hsame] }

theorem CaptureLeaseState.Valid.preparation_isSome {l : CaptureLeaseState} (h : l.Valid) :
    l.preparation.isSome = true ↔ l.recoveryPhase = .preparing := by
  unfold CaptureLeaseState.preparation
  cases hphase : l.recoveryPhase with
  | preparing =>
      have hstage := (h.preparing hphase).1
      cases hs : l.preparationStage with
      | none => exact absurd hs hstage
      | some stage => simp
  | active | pendingStart | cleanupRequired => simp

theorem Restored.recoveryPhase (h : Restored leases r) {l : CaptureLeaseState}
    (hl : leaseOf leases id = some l) (hvalid : l.Valid) : r.recoveryPhase id = l.recoveryPhase := by
  have hprep : id ∈ r.preparations ↔ l.recoveryPhase = .preparing := by
    rw [← AList.lookup_isSome, h.preparations, hl, Option.bind_some, hvalid.preparation_isSome]
  have hpend : id ∈ r.pendingBaselines ↔ l.unresolved = true := by
    rw [← AList.lookup_isSome, h.pendingBaselines, hl, Option.bind_some]
    by_cases hunresolved : l.unresolved = true <;> simp [hunresolved]
  have hcleanup : id ∈ r.cleanupRequiredIds ↔ l.recoveryPhase = .cleanupRequired := by
    rw [h.cleanupRequiredIds, hl]
    simp
  unfold CaptureRuntime.recoveryPhase
  unfold CaptureLeaseState.unresolved at hpend
  cases hphase : l.recoveryPhase <;> rw [hphase] at hprep hpend hcleanup <;>
    simp [hprep, hpend, hcleanup]

theorem Restored.leaseWith (h : Restored leases r) {l : CaptureLeaseState}
    (hl : leaseOf leases id = some l) (hvalid : l.Valid) :
    r.leaseWith id (.create l.txPorts l.rxPorts l.bpfFilter) l.authority = l.normalized := by
  have hphase := h.recoveryPhase hl hvalid
  have hid := (leaseOf_some hl).2
  have hprep : r.preparations.lookup id = l.preparation := by
    rw [h.preparations, hl, Option.bind_some]
  have hbaseline : (r.pendingBaselines.lookup id).getD [] = l.baselineCaptureIds
      ∧ (r.baselineRecorders.lookup id).getD [] = l.baselineRecorders := by
    rw [h.pendingBaselines, h.baselineRecorders, hl, Option.bind_some, Option.bind_some]
    by_cases hunresolved : l.unresolved = true
    · simp [hunresolved]
    · obtain ⟨_, hids, hrecorders⟩ := hvalid.resolved (by simpa using hunresolved)
      simp [hunresolved, hids, hrecorders]
  have hother : l.preparation = none → l.preparationStage = none ∧ l.preAcquiredPorts = []
      ∧ l.acquirePlannedPorts = [] ∧ l.serviceEnablePlannedPorts = []
      ∧ l.preparationServiceStates = ∅ := by
    intro hnone
    refine hvalid.not_preparing fun hpreparing => ?_
    have hsome := hvalid.preparation_isSome.mpr hpreparing
    rw [hnone] at hsome
    cases hsome
  have hsome : ∀ preparation, l.preparation = some preparation →
      l.preparationStage = some preparation.stage
      ∧ l.preAcquiredPorts = preparation.preAcquiredPorts
      ∧ l.acquirePlannedPorts = preparation.acquirePlannedPorts
      ∧ l.serviceEnablePlannedPorts = preparation.serviceEnablePlannedPorts
      ∧ l.preparationServiceStates = preparation.preServiceStates := by
    intro preparation hpreparation
    unfold CaptureLeaseState.preparation at hpreparation
    split at hpreparation
    · rename_i stage _ hstage
      cases hpreparation
      exact ⟨hstage, rfl, rfl, rfl, rfl⟩
    · cases hpreparation
  unfold CaptureRuntime.leaseWith CaptureLeaseState.normalized
  rw [hphase, hbaseline.1, hbaseline.2, hprep, h.serviceStates, h.ports, h.acquiredPorts, hl]
  cases hpreparation : l.preparation with
  | none =>
      obtain ⟨hstage, hpre, hplan, hservice, hstates⟩ := hother hpreparation
      simp [CaptureIdentity.create, hid, hstage, hpre, hplan, hservice, hstates]
  | some preparation =>
      obtain ⟨hstage, hpre, hplan, hservice, hstates⟩ := hsome preparation hpreparation
      simp [CaptureIdentity.create, hid, hstage, hpre, hplan, hservice, hstates]

theorem Restored.managed (h : Restored leases r) :
    id ∈ r.managedCaptureIds ↔ ∃ l, leaseOf leases id = some l := by
  have hmap : ∀ {α : Type} {d : PerCapture α} {f : CaptureLeaseState → α},
      d.lookup id = (leaseOf leases id).map f → (id ∈ d ↔ ∃ l, leaseOf leases id = some l) := by
    intro α d f hd
    rw [← AList.lookup_isSome, hd, Option.isSome_map, Option.isSome_iff_exists]
  have hbind : ∀ {α : Type} {d : PerCapture α} {f : CaptureLeaseState → Option α},
      d.lookup id = (leaseOf leases id).bind f → id ∈ d → ∃ l, leaseOf leases id = some l := by
    intro α d f hd hmem
    rw [← AList.lookup_isSome, hd] at hmem
    cases hl : leaseOf leases id with
    | none => rw [hl] at hmem; cases hmem
    | some l => exact ⟨l, rfl⟩
  rw [mem_managedCaptureIds]
  constructor
  · rintro (hid | hid | hid | hid | hid | hid | hid | hid | hid)
    · exact (hmap (h.serviceStates id)).mp hid
    · exact (hmap (h.ports id)).mp hid
    · exact (hmap (h.acquiredPorts id)).mp hid
    · exact (hmap (f := fun l => CaptureIdentity.create l.txPorts l.rxPorts l.bpfFilter)
        (h.identities id)).mp hid
    · exact (hmap (h.authorities id)).mp hid
    · exact hbind (h.pendingBaselines id) hid
    · exact hbind (h.baselineRecorders id) hid
    · exact hbind (h.preparations id) hid
    · obtain ⟨l, hl, _⟩ := (h.cleanupRequiredIds id).mp hid
      exact ⟨l, hl⟩
  · exact fun hl => .inr (.inl ((hmap (h.ports id)).mpr hl))

theorem Restored.unresolved (h : Restored leases r) (hvalid : ∀ l ∈ leases, l.Valid) :
    r.Unresolved id ↔ ∃ l, leaseOf leases id = some l ∧ l.unresolved = true := by
  unfold CaptureRuntime.Unresolved
  have hpend : id ∈ r.pendingBaselines ↔ ∃ l, leaseOf leases id = some l ∧ l.unresolved = true := by
    rw [← AList.lookup_isSome, h.pendingBaselines]
    cases leaseOf leases id with
    | none => simp
    | some l => by_cases hunresolved : l.unresolved = true <;> simp [hunresolved]
  rw [← hpend]
  refine or_iff_right_of_imp fun hprep => hpend.mpr ?_
  rw [← AList.lookup_isSome, h.preparations] at hprep
  cases hl : leaseOf leases id with
  | none => rw [hl] at hprep; cases hprep
  | some l =>
      rw [hl, Option.bind_some] at hprep
      have hphase := (hvalid l (leaseOf_some hl).1).preparation_isSome.mp hprep
      exact ⟨l, rfl, by simp [CaptureLeaseState.unresolved, hphase]⟩

/-- What a process reads from a valid document is recorded. -/
theorem Restored.recorded {doc : PersistedDocument}
    (h : Restored doc.document.captureLeases r) : r.Recorded where
  lease := by
    intro id hid
    obtain ⟨l, hl⟩ := h.managed.mp hid
    have hvalid := doc.valid.leases_valid l (leaseOf_some hl).1
    refine ⟨l.normalized, CaptureRuntime.captureLease_eq_ok.mpr ⟨_, l.authority, ?_, ?_,
      (h.leaseWith hl hvalid).symm, hvalid.normalized⟩⟩
    · rw [h.identities, hl, Option.map_some]
    · rw [h.authorities, hl, Option.map_some]
  one_unresolved := by
    intro id id' hid hid'
    have hvalid := doc.valid.leases_valid
    obtain ⟨l, hl, hunresolved⟩ := (h.unresolved hvalid).mp hid
    obtain ⟨l', hl', hunresolved'⟩ := (h.unresolved hvalid).mp hid'
    have hsame := CaptureRuntime.same_of_length_le_one doc.valid.one_pending_capture
      (List.mem_filter.mpr ⟨(leaseOf_some hl).1, hunresolved⟩)
      (List.mem_filter.mpr ⟨(leaseOf_some hl').1, hunresolved'⟩)
    rw [← (leaseOf_some hl).2, ← (leaseOf_some hl').2, hsame]

end

end TrexWebui
