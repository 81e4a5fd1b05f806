import TrexWebui.TrafficGroupEdits
import TrexWebui.TrafficLedger

/-!
# Steps of the ledger

What any single effect does to a good world. `apply_intent` and
`apply_session` say once what a write can do to the pending intent and to
the session, whichever mutation it applies; that a world stays good after a
write, a call, a draw of an identifier or a reading of the authority follows
from them.
-/

namespace TrexWebui

open OracleProgram

variable {d c : RuntimeStateDocument} {m : Mutation}

/-! ## What a write does to the pending intent -/

def Mutation.introduces : Mutation → Option TrafficMutationIntentState
  | .prepare intent _ => some intent
  | .supersede _ _ _ _ _ hardStop => some hardStop
  | _ => none

/-- A later record of the same intent. -/
structure SameIntent (i i' : TrafficMutationIntentState) : Prop where
  nonce : i'.nonce = i.nonce
  operation : i'.operation = i.operation
  ports : i'.ports = i.ports
  authority : i'.authority = i.authority
  startGroup : i'.startGroup = i.startGroup
  updateMultiplier : i'.updateMultiplier = i.updateMultiplier
  stage : i.hardwareStage.order ≤ i'.hardwareStage.order

theorem SameIntent.refl (i : TrafficMutationIntentState) : SameIntent i i :=
  ⟨rfl, rfl, rfl, rfl, rfl, rfl, le_rfl⟩

/-- A write drops the pending intent, keeps it, or introduces one. -/
inductive IntentWrite (m : Mutation) (d c : RuntimeStateDocument) : Prop where
  | dropped (h : c.trafficMutationIntent = none)
  | kept (i i' : TrafficMutationIntentState) (before : d.trafficMutationIntent = some i)
      (after : c.trafficMutationIntent = some i') (same : SameIntent i i')
  | introduced (i : TrafficMutationIntentState) (by_mutation : m.introduces = some i)
      (after : c.trafficMutationIntent = some i)

theorem IntentWrite.untouched (h : c.trafficMutationIntent = d.trafficMutationIntent) :
    IntentWrite m d c := by
  cases hi : d.trafficMutationIntent with
  | none => exact .dropped (h.trans hi)
  | some i => exact .kept i i hi (h.trans hi) (.refl i)

theorem apply_intent (h : m.apply d = .ok (some c)) : IntentWrite m d c := by
  cases m with
  | clearStopped id =>
      obtain ⟨_, _, _, _, rfl⟩ := clearStopped_some h
      exact .untouched rfl
  | retire id nonce now =>
      obtain rfl := retire_some h
      exact .dropped rfl
  | retainAfterStop session intent identity ports now =>
      obtain ⟨_, hi, _, _, rfl⟩ := retainAfterStop_some h
      exact .kept intent _ hi rfl ⟨rfl, rfl, rfl, rfl, rfl, rfl, le_rfl⟩
  | supersede session intent authority identity observedAt hardStop =>
      obtain ⟨_, _, _, _, rfl⟩ := supersede_some h
      exact .introduced hardStop rfl rfl
  | replace revision groups =>
      obtain ⟨_, rfl⟩ := replace_some h
      exact .untouched rfl
  | initializePlan groups =>
      obtain rfl := initializePlan_some h
      exact .untouched rfl
  | prepare intent owned =>
      obtain ⟨_, _, _, _, rfl⟩ := prepare_some h
      exact .introduced intent rfl rfl
  | advance nonce stage ids budget =>
      obtain ⟨i, hi, _, _, ⟨_, rfl⟩ | ⟨horder, streams, _, rfl⟩⟩ := advance_some h
      · exact .untouched rfl
      · exact .kept i _ hi rfl ⟨rfl, rfl, rfl, rfl, rfl, rfl, horder⟩
  | retain nonce reason =>
      obtain ⟨i, hi, _, rfl⟩ := retain_some h
      exact .kept i _ hi rfl ⟨rfl, rfl, rfl, rfl, rfl, rfl, le_rfl⟩
  | clear nonce session =>
      obtain ⟨_, _, rfl⟩ := clear_some h
      exact .dropped rfl
  | retireAfterRollover nonce authority now =>
      obtain ⟨_, _, _, _, _, rfl⟩ := retireAfterRollover_some h
      exact .dropped rfl
  | promote nonce operation authority mode owned now =>
      obtain ⟨_, _, _, _, _, _, _, _, _, _, _, rfl⟩ := promote_some h
      exact .dropped rfl
  | persistReconciled id groups now reconciliation =>
      obtain ⟨_, _, _, rfl⟩ := persistReconciled_some h
      exact .untouched rfl

/-! ## What a write does to the session -/

/-- A write leaves the session alone, edits its groups, starts a new session from the
pending intent, or adds the group of the pending intent to it. -/
inductive SessionWrite (d c : RuntimeStateDocument) : Prop where
  | unchanged (h : c.trafficSession = d.trafficSession)
  | edited (s s' : TrafficSessionState) (before : d.trafficSession = some s)
      (after : c.trafficSession = some s') (edit : SessionEdit s s')
      (same_evidence : s'.mutationEvidence = s.mutationEvidence)
  | promoted (i : TrafficMutationIntentState) (e : TrafficMutationEvidenceState)
      (s s' : TrafficSessionState) (pending : d.trafficMutationIntent = some i)
      (evidence : e.intentNonce = i.nonce) (before : d.trafficSession = some s)
      (after : c.trafficSession = some s') (edit : SessionEdit s s')
      (appended : s'.mutationEvidence = s.mutationEvidence
        ∨ s'.mutationEvidence = s.mutationEvidence ++ [e])
  | created (i : TrafficMutationIntentState) (e : TrafficMutationEvidenceState)
      (started : TrafficSessionGroupState) (authority : RuntimeAuthorityIdentity) (now : Time)
      (pending : d.trafficMutationIntent = some i) (start : i.operation = .start)
      (group : i.startGroup = some started) (evidence : e.intentNonce = i.nonce)
      (stopped : ∀ s, d.trafficSession = some s → s.state = .stopped)
      (after : c.trafficSession = some
        (createdSession i authority (promotedGroup i started e now) e now))
  | joined (i : TrafficMutationIntentState) (e : TrafficMutationEvidenceState)
      (started : TrafficSessionGroupState) (now : Time) (s : TrafficSessionState)
      (pending : d.trafficMutationIntent = some i) (start : i.operation = .start)
      (group : i.startGroup = some started) (evidence : e.intentNonce = i.nonce)
      (before : d.trafficSession = some s)
      (after : c.trafficSession = some
        (joinedSession i (promotedGroup i started e now) e now s))

theorem SessionWrite.mapped {f : TrafficSessionState → TrafficSessionState}
    (hf : ∀ s, SessionEdit s (f s)) (hevidence : ∀ s, (f s).mutationEvidence = s.mutationEvidence)
    (h : c.trafficSession = d.trafficSession.map f) : SessionWrite d c := by
  cases hs : d.trafficSession with
  | none => exact .unchanged (by rw [h, hs, Option.map_none])
  | some s => exact .edited s (f s) hs (by rw [h, hs, Option.map_some]) (hf s) (hevidence s)

theorem apply_session (hm : Admissible d m) (h : m.apply d = .ok (some c)) :
    SessionWrite d c := by
  cases m with
  | clearStopped id =>
      obtain ⟨s, hs, _, _, rfl⟩ := clearStopped_some h
      refine .edited s _ hs rfl ⟨rfl, rfl, rfl, rfl, forall₂_map _ fun g => ?_⟩ rfl
      split
      · exact ⟨rfl, .inl rfl, fun _ => ⟨rfl, rfl⟩, fun _ _ => rfl⟩
      · exact .refl g
  | retire id nonce now =>
      obtain rfl := retire_some h
      exact .mapped (sessionEdit_retired now) (fun _ => rfl) rfl
  | retainAfterStop session intent identity ports now =>
      obtain ⟨hs, _, _, _, rfl⟩ := retainAfterStop_some h
      exact .edited session _ hs rfl (sessionEdit_retained intent identity now session) rfl
  | supersede session intent authority identity observedAt hardStop =>
      obtain ⟨_, _, _, _, rfl⟩ := supersede_some h
      exact .unchanged rfl
  | replace revision groups =>
      obtain ⟨_, rfl⟩ := replace_some h
      exact .unchanged rfl
  | initializePlan groups =>
      obtain rfl := initializePlan_some h
      exact .unchanged rfl
  | prepare intent owned =>
      obtain ⟨_, _, _, _, rfl⟩ := prepare_some h
      exact .unchanged rfl
  | advance nonce stage ids budget =>
      obtain ⟨_, _, _, _, ⟨_, rfl⟩ | ⟨_, _, _, rfl⟩⟩ := advance_some h
      · exact .unchanged rfl
      · exact .unchanged rfl
  | retain nonce reason =>
      obtain ⟨_, _, _, rfl⟩ := retain_some h
      exact .unchanged rfl
  | clear nonce session =>
      obtain ⟨_, _, rfl⟩ := clear_some h
      exact .unchanged rfl
  | retireAfterRollover nonce authority now =>
      obtain ⟨_, _, _, _, _, rfl⟩ := retireAfterRollover_some h
      refine .mapped (sessionEdit_rolledOver authority now) (fun s => ?_) rfl
      unfold rolledOverSession
      split <;> rfl
  | promote nonce operation authority mode owned now =>
      obtain ⟨i, e, s', hi, _, hop, _, _, he, hstart, hother, rfl⟩ := promote_some h
      have hnonce := (TrafficMutationIntentState.evidence_ok he).1
      by_cases hs : operation = .start
      · obtain ⟨started, hgroup, ⟨_, hstopped, rfl⟩ | ⟨before, hb, _, _, _, _, _, rfl⟩⟩ :=
          promoteStart_ok (hstart hs)
        · exact .created i e started authority now hi (hop.trans hs) hgroup hnonce hstopped rfl
        · exact .joined i e started now before hi (hop.trans hs) hgroup hnonce hb rfl
      · obtain ⟨before, hb, hedit⟩ := sessionEdit_promoteMutation (hother hs)
        refine .promoted i e before s' hi hnonce hb rfl hedit ?_
        obtain ⟨before', hb', _, _, _, hcase⟩ := promoteMutation_ok (hother hs)
        obtain rfl := Option.some.inj (hb.symm.trans hb')
        rcases hcase with ⟨_, _, _, _, rfl⟩ | ⟨_, _, rfl⟩
        all_goals
          unfold finishedSession
          dsimp only
          split
          · exact .inr rfl
          · exact .inl rfl
  | persistReconciled id groups now reconciliation =>
      obtain ⟨s, hs, _, rfl⟩ := persistReconciled_some h
      obtain ⟨_, s', owned, live, hs', _, rfl⟩ := hm
      obtain rfl := Option.some.inj (hs.symm.trans hs')
      exact .edited s _ hs rfl ⟨rfl, rfl, rfl, rfl, forall₂_map _
        (groupEdit_reconcile _ owned live now)⟩ rfl

/-! ## Identifiers and leases across a write -/

theorem apply_nonces {bound : Nat} (hm : Admissible d m) (h : m.apply d = .ok (some c))
    (hd : d.NoncesBelow bound) (hnew : ∀ i, m.introduces = some i → i.nonce.value < bound) :
    c.NoncesBelow bound := by
  have hintent : ∀ i, c.trafficMutationIntent = some i → i.nonce.value < bound := by
    intro i hi
    cases apply_intent h with
    | dropped hnone => rw [hnone] at hi; cases hi
    | kept j j' hj hj' same =>
        obtain rfl := Option.some.inj (hi.symm.trans hj')
        rw [same.nonce]; exact hd.intent j hj
    | introduced j hj hj' =>
        obtain rfl := Option.some.inj (hi.symm.trans hj')
        exact hnew i hj
  cases apply_session hm h with
  | unchanged hs =>
      exact ⟨fun s h' => hd.session_id s (hs ▸ h'), fun s h' => hd.evidence s (hs ▸ h'), hintent⟩
  | edited s s' hs hs' hedit hsame =>
      refine ⟨fun t ht => ?_, fun t ht => ?_, hintent⟩
      · obtain rfl := Option.some.inj (hs'.symm.trans ht)
        rw [hedit.id]; exact hd.session_id s hs
      · obtain rfl := Option.some.inj (hs'.symm.trans ht)
        rw [hsame]; exact hd.evidence s hs
  | promoted i e s s' hi he hs hs' hedit happended =>
      refine ⟨fun t ht => ?_, fun t ht x hx => ?_, hintent⟩
      · obtain rfl := Option.some.inj (hs'.symm.trans ht)
        rw [hedit.id]; exact hd.session_id s hs
      · obtain rfl := Option.some.inj (hs'.symm.trans ht)
        rcases happended with hsame | hsame
        · exact hd.evidence s hs x (hsame ▸ hx)
        · rw [hsame, List.mem_append, List.mem_singleton] at hx
          rcases hx with hx | rfl
          · exact hd.evidence s hs x hx
          · rw [he]; exact hd.intent i hi
  | created i e started authority now hi _ _ he _ hs' =>
      refine ⟨fun t ht => ?_, fun t ht x hx => ?_, hintent⟩
      · obtain rfl := Option.some.inj (hs'.symm.trans ht)
        exact hd.intent i hi
      · obtain rfl := Option.some.inj (hs'.symm.trans ht)
        unfold createdSession at hx
        dsimp only at hx
        split at hx
        · rw [List.mem_singleton.mp hx, he]; exact hd.intent i hi
        · cases hx
  | joined i e started now s hi _ _ he hs hs' =>
      refine ⟨fun t ht => ?_, fun t ht x hx => ?_, hintent⟩
      · obtain rfl := Option.some.inj (hs'.symm.trans ht)
        exact hd.session_id s hs
      · obtain rfl := Option.some.inj (hs'.symm.trans ht)
        rcases List.mem_append.mp hx with hx | hx
        · exact hd.evidence s hs x hx
        · rw [List.mem_singleton.mp hx, he]; exact hd.intent i hi

theorem SameIntent.expiredStart {i i' : TrafficMutationIntentState} (h : SameIntent i i')
    (now : Time) : i'.expiredStart now = i.expiredStart now := by
  unfold TrafficMutationIntentState.expiredStart
  rw [h.operation, h.startGroup]

theorem promotedGroup_lease (i : TrafficMutationIntentState)
    (started : TrafficSessionGroupState) (e : TrafficMutationEvidenceState) (now : Time) :
    (promotedGroup i started e now).hardStopAt = started.hardStopAt
      ∧ (promotedGroup i started e now).ports = started.ports := by
  unfold promotedGroup
  split <;> exact ⟨rfl, rfl⟩

theorem mem_ports_startGroup {i : TrafficMutationIntentState}
    {started : TrafficSessionGroupState} (hi : i.Valid) (hstart : i.operation = .start)
    (hgroup : i.startGroup = some started) {p : Port} : p ∈ started.ports ↔ p ∈ i.ports := by
  have hvalid := hi.operation_valid
  unfold TrafficMutationIntentState.OperationValid at hvalid
  rw [hstart] at hvalid
  obtain ⟨g, hg, _, _, hports, _⟩ := hvalid.group
  obtain rfl := Option.some.inj (hgroup.symm.trans hg)
  rw [← List.mem_toFinset, hports, List.mem_toFinset]

theorem exists_of_mem_forall₂ {α β : Type} {R : α → β → Prop} {l : List α} {l' : List β}
    (h : List.Forall₂ R l l') {b : β} (hb : b ∈ l') : ∃ a ∈ l, R a b := by
  induction h with
  | nil => cases hb
  | cons hab _ ih =>
      rcases List.mem_cons.mp hb with rfl | hb
      · exact ⟨_, List.mem_cons_self, hab⟩
      · obtain ⟨a, ha, hr⟩ := ih hb
        exact ⟨a, List.mem_cons_of_mem _ ha, hr⟩

theorem expired_of_edit {s s' : TrafficSessionState} (hedit : SessionEdit s s') {now : Time}
    {p : Port} {g' : TrafficSessionGroupState} (hg' : g' ∈ s'.groups)
    (hover : g'.leaseOver now = true) (hp : p ∈ g'.ports) :
    ∃ g ∈ s.groups, g.leaseOver now = true ∧ p ∈ g.ports := by
  obtain ⟨g, hg, hge⟩ := exists_of_mem_forall₂ hedit.groups hg'
  exact ⟨g, hg, hge.leaseOver (.inr hover), hge.ports ▸ hp⟩

theorem apply_leases (hm : Admissible d m) (h : m.apply d = .ok (some c))
    (hlease : m.mayAddLease = false)
    (hvalid : ∀ i, d.trafficMutationIntent = some i → i.Valid) {now : Time} {p : Port}
    (hp : p ∈ c.expiredPorts now) : p ∈ d.expiredPorts now := by
  rw [mem_expiredPorts] at hp ⊢
  -- the group of a promoted start holds the lease that the intent held
  have hpromoted : ∀ i e started t, d.trafficMutationIntent = some i → i.operation = .start →
      i.startGroup = some started → (promotedGroup i started e t).leaseOver now = true →
      p ∈ (promotedGroup i started e t).ports →
      ∃ j, d.trafficMutationIntent = some j ∧ j.expiredStart now = true ∧ p ∈ j.ports := by
    intro i e started t hi hstart hgroup hover hport
    obtain ⟨hsame, hports⟩ := promotedGroup_lease i started e t
    rw [hports] at hport
    refine ⟨i, hi, ?_, (mem_ports_startGroup (hvalid i hi) hstart hgroup).mp hport⟩
    unfold TrafficMutationIntentState.expiredStart
    unfold TrafficSessionGroupState.leaseOver at hover
    rw [hsame] at hover
    simp [hstart, hgroup, hover]
  rcases hp with ⟨s', hs', g', hg', hover, hport⟩ | ⟨i', hi', hover, hport⟩
  · cases apply_session hm h with
    | unchanged hs => exact .inl ⟨s', hs ▸ hs', g', hg', hover, hport⟩
    | edited s t hs ht hedit _ =>
        obtain rfl := Option.some.inj (hs'.symm.trans ht)
        exact .inl ⟨s, hs, expired_of_edit hedit hg' hover hport⟩
    | promoted _ _ s t _ _ hs ht hedit _ =>
        obtain rfl := Option.some.inj (hs'.symm.trans ht)
        exact .inl ⟨s, hs, expired_of_edit hedit hg' hover hport⟩
    | created i e started _ t hi hstart hgroup _ _ ht =>
        obtain rfl := Option.some.inj (hs'.symm.trans ht)
        rcases List.mem_singleton.mp hg' with rfl
        exact .inr (hpromoted i e started t hi hstart hgroup hover hport)
    | joined i e started t s hi hstart hgroup _ hs ht =>
        obtain rfl := Option.some.inj (hs'.symm.trans ht)
        rcases List.mem_append.mp hg' with hg' | hg'
        · exact .inl ⟨s, hs, g', (List.mem_filter.mp hg').1, hover, hport⟩
        · rcases List.mem_singleton.mp hg' with rfl
          exact .inr (hpromoted i e started t hi hstart hgroup hover hport)
  · cases apply_intent h with
    | dropped hnone => rw [hnone] at hi'; cases hi'
    | kept i j hi hj same =>
        obtain rfl := Option.some.inj (hi'.symm.trans hj)
        exact .inr ⟨i, hi, same.expiredStart now ▸ hover, same.ports ▸ hport⟩
    | introduced j hj hj' =>
        obtain rfl := Option.some.inj (hi'.symm.trans hj')
        -- neither a prepared intent nor a superseding stop is a start here
        exfalso
        have hstart : i'.operation = .start := by
          unfold TrafficMutationIntentState.expiredStart at hover
          rw [Bool.and_eq_true, decide_eq_true_eq] at hover
          exact hover.1
        cases m with
        | prepare intent owned =>
            rw [← Option.some.inj hj] at hstart
            exact of_decide_eq_false hlease hstart
        | supersede session intent authority identity observedAt hardStop =>
            rw [← Option.some.inj hj, SupersedingStop.operation hm] at hstart
            cases hstart
        | _ => cases hj

/-! ## Good worlds -/

section

variable {env : TrafficEnvironment} {initial : RuntimeStateDocument} {w : TrafficWorld}

/-- A world is not worse for a change of what the ledger does not speak about. -/
theorem Good.frame {w' : TrafficWorld} (h : Good env initial w) (hstore : w'.store = w.store)
    (heffects : w'.effects = w.effects) (hnonces : w.nonces ≤ w'.nonces)
    (hleases : ∀ now, w'.invocation.reapedAt = some now → ∀ p ∈ w'.document.expiredPorts now,
      p ∈ w'.invocation.store.document.expiredPorts now) : Good env initial w' := by
  have hdocument : w'.document = w.document := by unfold TrafficWorld.document; rw [hstore]
  refine ⟨?_, ?_, ?_, ?_, ?_, ?_, ?_, ?_, hleases⟩
  · rw [hdocument]; exact h.nonces.mono hnonces
  · rw [heffects]; exact h.start_once
  · rw [heffects, hdocument]
    exact fun n e he hn => ⟨lt_of_lt_of_le (h.start_used n e he hn).1 hnonces,
      (h.start_used n e he hn).2⟩
  · rw [heffects]; exact h.update_once
  · rw [heffects]
    exact fun n e he hn => lt_of_lt_of_le (h.update_used n e he hn) hnonces
  · rw [heffects]; exact h.covered
  · rw [heffects]; exact h.isolated
  · rw [heffects, hdocument]; exact h.chained

theorem Good.draw (h : Good env initial w) : Good env initial w.draw :=
  h.frame rfl rfl (Nat.le_succ _) h.leases

theorem Good.own (h : Good env initial w) (id : Option Uuid) : Good env initial (w.own id) :=
  h.frame rfl rfl le_rfl h.leases

theorem Good.readAuthority (h : Good env initial w) (a : RuntimeAuthorityIdentity) :
    Good env initial (w.readAuthority a) :=
  h.frame rfl rfl le_rfl h.leases

theorem Good.invoke (h : Good env initial w) : Good env initial w.invoke :=
  h.frame rfl rfl le_rfl nofun

theorem Good.observe (h : Good env initial w) (hstore : w.invocation.store = w.store)
    (now : Time) : Good env initial (w.observe now) := by
  refine h.frame rfl rfl le_rfl fun t ht p hp => ?_
  change p ∈ w.invocation.store.document.expiredPorts t
  rw [hstore]
  exact hp

def Unstarted (n : Uuid) (w : TrafficWorld) : Prop := ∀ e ∈ w.effects, e.startsFor n = false

def Unupdated (n : Uuid) (w : TrafficWorld) : Prop :=
  ∀ e ∈ w.effects, e.relativeUpdateFor n = false

theorem countP_zero_of_forall {f : Effect → Bool} {l : List Effect}
    (h : ∀ e ∈ l, f e = false) : l.countP f = 0 :=
  List.countP_eq_zero.mpr fun e he => by rw [h e he]; exact Bool.false_ne_true

theorem countP_cons_le_one {f : Effect → Bool} {l : List Effect} {e : Effect}
    (h : l.countP f ≤ 1) (hfirst : f e = true → ∀ x ∈ l, f x = false) :
    (e :: l).countP f ≤ 1 := by
  rw [List.countP_cons]
  cases hf : f e with
  | false => simpa using h
  | true => rw [countP_zero_of_forall (hfirst hf)]; rfl

/-- What the ledger demands of a call before it is issued. -/
structure MayIssue (env : TrafficEnvironment) (w : TrafficWorld) (r : Rpc) : Prop where
  covered : Covered r w.moment
  isolated : Isolated env r w.moment
  start : r.isStart = true → ∀ i, w.document.trafficMutationIntent = some i →
    Unstarted i.nonce w ∧ i.startStageAtLeast .startIntent = true
  update : r.isUpdate = true → ∀ i, w.document.trafficMutationIntent = some i →
    i.updateMultiplier.any isRelativeUpdateMultiplier = true → Unupdated i.nonce w

theorem startsFor_rpc {n : Uuid} {r : Rpc} (h : (Effect.rpc r w.moment).startsFor n = true) :
    r.isStart = true ∧ ∃ i, w.document.trafficMutationIntent = some i ∧ i.nonce = n := by
  change (r.isStart && w.document.trafficMutationIntent.any fun i => decide (i.nonce = n))
    = true at h
  rw [Bool.and_eq_true, Option.any_eq_true] at h
  obtain ⟨hr, i, hi, hn⟩ := h
  exact ⟨hr, i, hi, of_decide_eq_true hn⟩

theorem relativeUpdateFor_rpc {n : Uuid} {r : Rpc}
    (h : (Effect.rpc r w.moment).relativeUpdateFor n = true) :
    r.isUpdate = true ∧ ∃ i, w.document.trafficMutationIntent = some i ∧ i.nonce = n
      ∧ i.updateMultiplier.any isRelativeUpdateMultiplier = true := by
  change (r.isUpdate && w.document.trafficMutationIntent.any fun i =>
    decide (i.nonce = n) && i.updateMultiplier.any isRelativeUpdateMultiplier) = true at h
  rw [Bool.and_eq_true, Option.any_eq_true] at h
  obtain ⟨hr, i, hi, hn⟩ := h
  rw [Bool.and_eq_true, decide_eq_true_eq] at hn
  exact ⟨hr, i, hi, hn⟩

theorem Good.issue {r : Rpc} (h : Good env initial w) (hr : MayIssue env w r) :
    Good env initial (w.record (.rpc r w.moment)) where
  nonces := h.nonces
  start_once n := countP_cons_le_one (h.start_once n) fun hn => by
    obtain ⟨hstart, i, hi, rfl⟩ := startsFor_rpc hn
    exact (hr.start hstart i hi).1
  start_used n e he hn := by
    rcases List.mem_cons.mp he with rfl | he
    · obtain ⟨hstart, i, hi, rfl⟩ := startsFor_rpc hn
      refine ⟨h.nonces.intent i hi, fun j hj _ => ?_⟩
      obtain rfl := Option.some.inj (hi.symm.trans hj)
      exact (hr.start hstart i hi).2
    · exact h.start_used n e he hn
  update_once n := countP_cons_le_one (h.update_once n) fun hn => by
    obtain ⟨hupdate, i, hi, rfl, hrelative⟩ := relativeUpdateFor_rpc hn
    exact hr.update hupdate i hi hrelative
  update_used n e he hn := by
    rcases List.mem_cons.mp he with rfl | he
    · obtain ⟨_, i, hi, rfl, _⟩ := relativeUpdateFor_rpc hn
      exact h.nonces.intent i hi
    · exact h.update_used n e he hn
  covered r' m' he := by
    rcases List.mem_cons.mp he with heq | he
    · obtain ⟨rfl, rfl⟩ := Effect.rpc.inj heq
      exact hr.covered
    · exact h.covered r' m' he
  isolated r' m' he := by
    rcases List.mem_cons.mp he with heq | he
    · obtain ⟨rfl, rfl⟩ := Effect.rpc.inj heq
      exact hr.isolated
    · exact h.isolated r' m' he
  chained := h.chained
  leases := h.leases

/-- What the ledger demands of a write before it is made. -/
structure MayWrite (w : TrafficWorld) (m : Mutation) : Prop where
  admissible : Admissible w.document m
  introduces : ∀ i, m.introduces = some i → i.nonce.value < w.nonces ∧ Unstarted i.nonce w
  lease : w.invocation.reapedAt ≠ none → m.mayAddLease = false

theorem startsFor_of_not_rpc {n : Uuid} {e : Effect} (h : e.isRpc = false) :
    e.startsFor n = false ∧ e.relativeUpdateFor n = false := by
  cases e with
  | rpc => cases h
  | wrote => exact ⟨rfl, rfl⟩
  | rejected => exact ⟨rfl, rfl⟩

theorem Good.commit {m : Mutation} {candidate : RuntimeStateDocument} {now : Time}
    (h : Good env initial w) (hm : MayWrite w m)
    (happly : m.apply w.document = .ok (some candidate))
    (hvalid : (stamp w.document candidate now).Valid) :
    Good env initial (w.commit m ⟨stamp w.document candidate now, hvalid⟩) where
  nonces := by
    have hbelow := apply_nonces hm.admissible happly h.nonces fun i hi =>
      (hm.introduces i hi).1
    exact ⟨hbelow.session_id, hbelow.evidence, hbelow.intent⟩
  start_once n := countP_cons_le_one (h.start_once n) nofun
  start_used n e he hn := by
    rcases List.mem_cons.mp he with rfl | he
    · cases hn
    · refine ⟨(h.start_used n e he hn).1, fun i' hi' hin => ?_⟩
      change candidate.trafficMutationIntent = some i' at hi'
      cases apply_intent happly with
      | dropped hnone => rw [hnone] at hi'; cases hi'
      | kept i j hi hj same =>
          obtain rfl := Option.some.inj (hi'.symm.trans hj)
          have hstage := (h.start_used n e he hn).2 i hi (same.nonce ▸ hin)
          unfold TrafficMutationIntentState.startStageAtLeast at hstage ⊢
          exact decide_eq_true ((of_decide_eq_true hstage).trans same.stage)
      | introduced j hj hj' =>
          obtain rfl := Option.some.inj (hi'.symm.trans hj')
          subst hin
          rw [(hm.introduces i' hj).2 e he] at hn
          cases hn
  update_once n := countP_cons_le_one (h.update_once n) nofun
  update_used n e he hn := by
    rcases List.mem_cons.mp he with rfl | he
    · cases hn
    · exact h.update_used n e he hn
  covered r m he := by
    rcases List.mem_cons.mp he with heq | he
    · cases heq
    · exact h.covered r m he
  isolated r m he := by
    rcases List.mem_cons.mp he with heq | he
    · cases heq
    · exact h.isolated r m he
  chained := ⟨rfl, ⟨⟨hm.admissible, candidate, now, happly, rfl⟩, hvalid⟩, h.chained⟩
  leases t ht p hp := by
    refine h.leases t ht p (apply_leases hm.admissible happly (hm.lease ?_) ?_ hp)
    · intro hnone
      rw [show w.invocation.reapedAt = some t from ht] at hnone
      cases hnone
    · exact fun i hi => (w.store.valid.intent_valid i hi).1

theorem Good.reject {m : Mutation} {candidate : RuntimeStateDocument} {now : Time}
    (h : Good env initial w) (hm : Admissible w.document m)
    (happly : m.apply w.document = .ok (some candidate))
    (hinvalid : ¬(stamp w.document candidate now).Valid) :
    Good env initial
      (w.record (.rejected m w.store (stamp w.document candidate now) w.moment)) where
  nonces := h.nonces
  start_once n := countP_cons_le_one (h.start_once n) nofun
  start_used n e he hn := by
    rcases List.mem_cons.mp he with rfl | he
    · cases hn
    · exact h.start_used n e he hn
  update_once n := countP_cons_le_one (h.update_once n) nofun
  update_used n e he hn := by
    rcases List.mem_cons.mp he with rfl | he
    · cases hn
    · exact h.update_used n e he hn
  covered r m he := by
    rcases List.mem_cons.mp he with heq | he
    · cases heq
    · exact h.covered r m he
  isolated r m he := by
    rcases List.mem_cons.mp he with heq | he
    · cases heq
    · exact h.isolated r m he
  chained := ⟨rfl, ⟨hm, candidate, now, happly, rfl⟩, hinvalid, h.chained⟩
  leases := h.leases

theorem Good.of_no_effects (h : w.document.NoncesBelow w.nonces) (hnone : w.effects = [])
    (hreaped : w.invocation.reapedAt = none) : Good env w.document w where
  nonces := h
  start_once _ := by rw [hnone]; exact Nat.zero_le 1
  start_used _ _ he _ := absurd (hnone ▸ he) List.not_mem_nil
  update_once _ := by rw [hnone]; exact Nat.zero_le 1
  update_used _ _ he _ := absurd (hnone ▸ he) List.not_mem_nil
  covered _ _ he := absurd (hnone ▸ he) List.not_mem_nil
  isolated _ _ he := absurd (hnone ▸ he) List.not_mem_nil
  chained := by rw [hnone]; rfl
  leases now hnow := by rw [hreaped] at hnow; cases hnow

end

end TrexWebui
