import TrexWebui.TrafficLedgerSteps

/-!
# The reachable documents

What holds of every document that the writes of the authority lead to from
the empty one. The validators give most of it, since the store refuses any
other document; the rest relates a session to its leases and a pending
intent to the session it was prepared for (`Consistent`). It is proved once
for every write, by cases on the mutation.
-/

namespace TrexWebui

variable {d d' c : RuntimeStateDocument} {m : Mutation}

/-! ## Aggregates -/

theorem aggregatePortStates_running {portStates : Dict Port PortState}
    (h : portStates.values = {.running}) : aggregatePortStates portStates = .running := by
  unfold aggregatePortStates
  rw [h]
  rfl

/-! ## Groups of a session -/

theorem TrafficSessionState.Valid.eq_of_mem_ports {s : TrafficSessionState} (hs : s.Valid)
    {g h : TrafficSessionGroupState} (hg : g ∈ s.groups) (hh : h ∈ s.groups) {p : Port}
    (hpg : p ∈ g.ports) (hph : p ∈ h.ports) : g = h := by
  have hshared : s.groups.Pairwise fun g h => ∀ p ∈ g.ports, p ∈ h.ports → g = h :=
    hs.ports_disjoint.imp fun hdisjoint p hp hp' => absurd hp' (hdisjoint p hp)
  have hflip : s.groups.Pairwise (flip fun g h : TrafficSessionGroupState =>
      ∀ p ∈ g.ports, p ∈ h.ports → g = h) :=
    hs.ports_disjoint.imp fun hdisjoint p hp hp' => absurd hp (hdisjoint p hp')
  exact List.Pairwise.forall_of_forall_of_flip (fun _ _ _ _ _ => rfl) hshared hflip hg hh
    p hpg hph

theorem TrafficSessionState.Valid.evidenced_of_mem {s : TrafficSessionState} (hs : s.Valid)
    (hversion : s.evidenceVersion = some .one) {g : TrafficSessionGroupState}
    (hg : g ∈ s.allGroups) : g.Evidenced s.mutationEvidence :=
  (hs.evidenced (by rw [hversion]; exact Option.some_ne_none _)).groups_evidenced g hg

/-- In an evidenced session a group is at rest exactly if its run has ended. -/
theorem TrafficSessionState.Valid.stopped_iff {s : TrafficSessionState} (hs : s.Valid)
    (hversion : s.evidenceVersion = some .one) {g : TrafficSessionGroupState}
    (hg : g ∈ s.allGroups) : g.state = .stopped ↔ g.cleanupEvidence ≠ none := by
  have hevidenced := hs.evidenced_of_mem hversion hg
  constructor
  · intro hstopped
    obtain ⟨cleanup, hcleanup, _⟩ := hevidenced.stopped_cleanup hstopped
    rw [hcleanup]
    exact Option.some_ne_none cleanup
  · intro hcleanup
    by_contra hactive
    exact hcleanup (hevidenced.active_clean hactive).2

/-! ## The invariant -/

/-- A session of the authority: its runs are evidenced, and none holds a lease at rest. -/
structure TrafficSessionState.Managed (s : TrafficSessionState) : Prop where
  version : s.evidenceVersion = some .one
  unleased : ∀ g ∈ s.allGroups, g.Unleased

/-- A pending intent fits the session it was prepared for. -/
structure TrafficMutationIntentState.Follows (i : TrafficMutationIntentState) : Prop where
  fresh : ∀ s, i.sessionBefore = some s → s.id.value < i.nonce.value
    ∧ ∀ e ∈ s.mutationEvidence, e.intentNonce.value < i.nonce.value
  start : i.operation = .start → i.startSource ≠ none
    ∧ ∀ g, i.startGroup = some g → 1 ≤ g.multiplier.length ∧ g.multiplier.length ≤ 64
  agrees : i.NotSuperseding → ∀ s, i.sessionBefore = some s → ∀ g ∈ s.groups,
    g.cleanupEvidence = none → ∀ p ∈ g.ports,
      i.baselinePortStates.getD p .unknown = g.portStates.getD p .unknown
  unexpected : i.expectedSessionId = none → ∀ s, i.sessionBefore = some s → s.state = .stopped

/-- What holds of every document reachable from the empty one. -/
structure Consistent (d : RuntimeStateDocument) : Prop where
  valid : d.Valid
  session : ∀ s, d.trafficSession = some s → s.Managed
  intent : ∀ i, d.trafficMutationIntent = some i → i.Follows

theorem consistent_empty : Consistent {} :=
  ⟨RuntimeStateDocument.valid_empty, fun _ h => (nomatch h), fun _ h => (nomatch h)⟩

namespace Consistent

theorem session_valid (h : Consistent d) {s : TrafficSessionState}
    (hs : d.trafficSession = some s) : s.Valid := h.valid.session_valid s hs

theorem intent_valid (h : Consistent d) {i : TrafficMutationIntentState}
    (hi : d.trafficMutationIntent = some i) : i.Valid := (h.valid.intent_valid i hi).1

theorem sessionBefore (h : Consistent d) {i : TrafficMutationIntentState}
    (hi : d.trafficMutationIntent = some i) : i.sessionBefore = d.trafficSession :=
  (h.valid.intent_valid i hi).2

end Consistent

/-! ## Sessions across a write -/

theorem SessionEdit.managed {s s' : TrafficSessionState} (hedit : SessionEdit s s')
    (h : s.Managed) : s'.Managed := by
  refine ⟨hedit.evidenceVersion.trans h.version, fun g' hg' => ?_⟩
  rcases List.mem_append.mp hg' with hg' | hg'
  · obtain ⟨g, hg, hge⟩ := exists_of_mem_forall₂ hedit.groups hg'
    exact hge.unleased (h.unleased g (List.mem_append_left _ hg))
  · exact h.unleased g' (List.mem_append_right _ (hedit.completed ▸ hg'))

theorem promotedGroup_running {i : TrafficMutationIntentState}
    {started : TrafficSessionGroupState} (hi : i.Valid) (hop : i.operation = .start)
    (hgroup : i.startGroup = some started) (e : TrafficMutationEvidenceState) (now : Time) :
    (promotedGroup i started e now).state = .running := by
  have hvalid := hi.operation_valid
  unfold TrafficMutationIntentState.OperationValid at hvalid
  rw [hop] at hvalid
  obtain ⟨g, hg, hgvalid, _, _, hrunning⟩ := hvalid.group
  obtain rfl := Option.some.inj (hgroup.symm.trans hg)
  have hstate : started.state = .running := by
    rw [hgvalid.state_aggregates, aggregatePortStates_running hrunning]
  unfold promotedGroup
  split <;> exact hstate

theorem managed_of_write (hm : Admissible d m) (happly : m.apply d = .ok (some c))
    (h : Consistent d) {s' : TrafficSessionState} (hs' : c.trafficSession = some s') :
    s'.Managed := by
  cases apply_session hm happly with
  | unchanged hsame => exact h.session s' (hsame ▸ hs')
  | edited s t hs ht hedit _ =>
      obtain rfl := Option.some.inj (hs'.symm.trans ht)
      exact hedit.managed (h.session s hs)
  | promoted _ _ s t _ _ hs ht hedit _ =>
      obtain rfl := Option.some.inj (hs'.symm.trans ht)
      exact hedit.managed (h.session s hs)
  | created i e started authority now hi hop hgroup _ _ ht =>
      obtain rfl := Option.some.inj (hs'.symm.trans ht)
      have hsource : i.startSource.isSome = true :=
        Option.isSome_iff_ne_none.mpr ((h.intent i hi).start hop).1
      refine ⟨if_pos hsource, fun g hg hstopped => ?_⟩
      have hsingle : g ∈ [promotedGroup i started e now] ++ [] := hg
      rw [List.append_nil, List.mem_singleton] at hsingle
      subst hsingle
      rw [promotedGroup_running (h.intent_valid hi) hop hgroup] at hstopped
      cases hstopped
  | joined i e started now s hi hop hgroup _ hs ht =>
      obtain rfl := Option.some.inj (hs'.symm.trans ht)
      have hsession := h.session s hs
      refine ⟨hsession.version, fun g hg => ?_⟩
      have hcases : g ∈ s.allGroups ∨ g = promotedGroup i started e now := by
        unfold TrafficSessionState.allGroups joinedSession at *
        simp only [List.mem_append, List.mem_filter, List.mem_singleton] at hg ⊢
        tauto
      rcases hcases with hg | rfl
      · exact hsession.unleased g hg
      · intro hstopped
        rw [promotedGroup_running (h.intent_valid hi) hop hgroup] at hstopped
        cases hstopped

/-! ## Pending intents across a write -/

theorem getD_of_agreesWith {s : TrafficSessionState} {baseline : Dict Port PortState}
    (hs : s.Valid) (h : s.agreesWith baseline = true) {g : TrafficSessionGroupState}
    (hg : g ∈ s.groups) {p : Port} (hp : p ∈ g.ports) :
    baseline.getD p .unknown = g.portStates.getD p .unknown := by
  have hkeys := (hs.groups_valid g (List.mem_append_left _ hg)).portStates_exact
  have hmem : p ∈ g.portStates.keys := by rw [hkeys]; exact List.mem_toFinset.mpr hp
  obtain ⟨state, hstate⟩ := Dict.mem_keys_iff_isSome.mp hmem
  have hgroup := List.all_eq_true.mp h g hg
  have hport := of_decide_eq_true (List.all_eq_true.mp hgroup (p, state)
    (Dict.mem_items.mpr hstate))
  rw [hport]
  unfold Dict.getD
  rw [hstate]
  rfl

theorem Prepared.follows {i : TrafficMutationIntentState} {owned : Option Uuid}
    (hp : Prepared d i) (happly : prepare i owned d = .ok (some c)) (h : Consistent d) :
    i.Follows := by
  obtain ⟨_, hsession, hstart, _, _⟩ := prepare_some happly
  refine ⟨fun s hs => ?_, hp.start, fun _ s hs g hg hactive p hport => ?_, fun hid s hs =>
    (assertStartSessionAuthority_ok (hstart (hp.valid.unexpected_session hid))).2.1 hid s
      (hsession.trans hs)⟩
  · exact ⟨hp.fresh.session_id s (hsession.trans hs), hp.fresh.evidence s (hsession.trans hs)⟩
  · have hsession' := hsession.trans hs
    have hvalid := h.session_valid hsession'
    by_cases hid : i.expectedSessionId = none
    · -- a start that expects no session only replaces one whose runs have all ended
      have hstopped := (assertStartSessionAuthority_ok
        (hstart (hp.valid.unexpected_session hid))).2.1 hid s hsession'
      rw [hvalid.state_aggregates] at hstopped
      have hended := (hvalid.stopped_iff (h.session s hsession').version
        (List.mem_append_left _ hg)).mp (aggregateState_stopped_iff.mp hstopped g hg)
      exact absurd hactive hended
    · exact getD_of_agreesWith hvalid (hp.agrees hid s hs) hg hport

theorem SupersedingStop.follows {i : TrafficMutationIntentState} (hp : SupersedingStop d i) :
    i.Follows := by
  refine ⟨fun s hs => ?_, fun hop => ?_, fun hnot => ?_, fun hnone => ?_⟩
  · have hsession := hp.session.symm.trans hs
    exact ⟨hp.fresh.session_id s hsession, hp.fresh.evidence s hsession⟩
  · rw [hp.operation] at hop
    cases hop
  · exact absurd hnot.1 hp.superseding.1
  · have hstart := hp.valid.unexpected_session hnone
    rw [hp.operation] at hstart
    cases hstart

theorem follows_of_retainAfterStop {session : TrafficSessionState}
    {i : TrafficMutationIntentState} {now observedAt : Time} (hs : session.Valid)
    (hmanaged : session.Managed) (hi : i.Follows) (hbefore : i.sessionBefore = some session) :
    (retainIntent
      (sortedSet ((session.groups.filter (·.leaseExpired observedAt)).flatMap (·.ports)))
      (retainedSession i ((session.groups.filter (·.leaseExpired observedAt)).map
        (·.leaseIdentity)) now session) i).Follows := by
  refine ⟨fun s hs' => ?_, hi.start, fun hnot s hs' g' hg' hactive p hp => ?_,
    fun hnone s hs' => ?_⟩
  · obtain rfl := Option.some.inj hs'
    exact hi.fresh session hbefore
  · obtain rfl := Option.some.inj hs'
    obtain ⟨g, hg, rfl⟩ := List.mem_map.mp hg'
    split at hactive
    · -- a group that was stopped has a cleanup
      exfalso
      unfold retainStoppedGroup at hactive
      simp only [hmanaged.version, decide_true, Bool.true_and] at hactive
      split at hactive
      · cases hactive
      · rename_i hsome
        exact hsome (Option.isNone_iff_eq_none.mpr hactive)
    · rename_i hlease
      rw [if_neg hlease] at hp ⊢
      change (i.baselinePortStates.updateKeys _ _).getD p .unknown = _
      rw [Dict.getD_updateKeys, if_neg, hi.agrees hnot session hbefore g hg hactive p hp]
      -- its ports belong to no expired group
      intro hexpired
      obtain ⟨other, hother, hport⟩ := List.mem_flatMap.mp (mem_sortedSet.mp hexpired)
      obtain rfl := hs.eq_of_mem_ports hg (List.mem_filter.mp hother).1 hp hport
      exact hlease (List.mem_map.mpr ⟨g, hother, rfl⟩)
  · obtain rfl := Option.some.inj hs'
    change (if _ then none else i.expectedSessionId) = none at hnone
    split at hnone
    · rename_i hstopped
      exact hstopped.2.2
    · -- the session was at rest before
      have hrest := hi.unexpected hnone session hbefore
      rw [hs.state_aggregates] at hrest
      refine aggregateState_stopped_iff.mpr fun g' hg' => ?_
      obtain ⟨g, hg, rfl⟩ := List.mem_map.mp hg'
      split
      · unfold retainStoppedGroup
        dsimp only
        split <;> rfl
      · exact aggregateState_stopped_iff.mp hrest g hg

theorem follows_of_write (hm : Admissible d m) (happly : m.apply d = .ok (some c))
    (h : Consistent d) {i' : TrafficMutationIntentState}
    (hi' : c.trafficMutationIntent = some i') : i'.Follows := by
  cases m with
  | clearStopped id =>
      obtain ⟨_, _, _, _, rfl⟩ := clearStopped_some happly
      exact h.intent i' hi'
  | retire id nonce now =>
      obtain rfl := retire_some happly
      cases hi'
  | retainAfterStop session intent identity ports now =>
      obtain ⟨hs, hi, hbefore, _, rfl⟩ := retainAfterStop_some happly
      obtain ⟨_, observedAt, rfl, rfl⟩ := hm
      obtain rfl := Option.some.inj hi'
      exact follows_of_retainAfterStop (h.session_valid hs) (h.session session hs)
        (h.intent intent hi) hbefore
  | supersede session intent authority identity observedAt hardStop =>
      obtain ⟨_, _, _, _, rfl⟩ := supersede_some happly
      obtain rfl := Option.some.inj hi'
      exact SupersedingStop.follows hm
  | replace revision groups =>
      obtain ⟨_, rfl⟩ := replace_some happly
      exact h.intent i' hi'
  | initializePlan groups =>
      obtain rfl := initializePlan_some happly
      exact h.intent i' hi'
  | prepare intent owned =>
      have hfollows := Prepared.follows hm happly h
      obtain ⟨_, _, _, _, rfl⟩ := prepare_some happly
      obtain rfl := Option.some.inj hi'
      exact hfollows
  | advance nonce stage ids budget =>
      obtain ⟨i, hi, _, _, ⟨_, rfl⟩ | ⟨_, streams, _, rfl⟩⟩ := advance_some happly
      · exact h.intent i' hi'
      · obtain rfl := Option.some.inj hi'
        exact ⟨(h.intent i hi).fresh, (h.intent i hi).start, (h.intent i hi).agrees,
          (h.intent i hi).unexpected⟩
  | retain nonce reason =>
      obtain ⟨i, hi, _, rfl⟩ := retain_some happly
      obtain rfl := Option.some.inj hi'
      exact ⟨(h.intent i hi).fresh, (h.intent i hi).start, (h.intent i hi).agrees,
        (h.intent i hi).unexpected⟩
  | clear nonce session =>
      obtain ⟨_, _, rfl⟩ := clear_some happly
      cases hi'
  | retireAfterRollover nonce authority now =>
      obtain ⟨_, _, _, _, _, rfl⟩ := retireAfterRollover_some happly
      cases hi'
  | promote nonce operation authority mode owned now =>
      obtain ⟨_, _, _, _, _, _, _, _, _, _, _, rfl⟩ := promote_some happly
      cases hi'
  | persistReconciled id groups now reconciliation =>
      obtain ⟨_, _, _, rfl⟩ := persistReconciled_some happly
      exact h.intent i' hi'

/-! ## Runs -/

theorem Consistent.step (h : Consistent d) (hw : Writes m d d') : Consistent d' := by
  obtain ⟨candidate, now, happly, rfl⟩ := hw.applies
  exact ⟨hw.valid, fun _ hs => managed_of_write hw.admissible happly h hs,
    fun _ hi => follows_of_write hw.admissible happly h hi⟩

theorem Reachable.consistent (h : Reachable {} d) : Consistent d :=
  h.invariant consistent_empty fun _ _ _ hd ⟨_, hw⟩ => hd.step hw

end TrexWebui
