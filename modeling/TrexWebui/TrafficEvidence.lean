import TrexWebui.TrafficDocuments
import TrexWebui.TrafficServer
import TrexWebui.TrafficWriteAhead

/-!
# The evidence of a session

A session certifies its runs to its reports: a report names the revision of
the session it was made from, and a group whose cleanup is recorded is not
expected to change any more. Here is what the writes of the authority keep
of this. A revision identifies the content of its session. A run that has
ended is kept by every write but the promotion of a mutation that reaches
its ports, and the rollover of a daemon generation.
-/

namespace TrexWebui

open OracleProgram

variable {d d' c : RuntimeStateDocument} {m : Mutation} {s s' : TrafficSessionState}

/-! ## Revisions -/

structure TrafficSessionState.SameContent (s s' : TrafficSessionState) : Prop where
  state : s'.state = s.state
  groups : s'.groups = s.groups
  completedGroups : s'.completedGroups = s.completedGroups
  mutationEvidence : s'.mutationEvidence = s.mutationEvidence
  endedAt : s'.endedAt = s.endedAt

def TrafficSessionState.Revised (s s' : TrafficSessionState) : Prop :=
  s.SameContent s' ∨ s.revision < s'.revision

theorem TrafficSessionState.Revised.refl (s : TrafficSessionState) : s.Revised s :=
  .inl ⟨rfl, rfl, rfl, rfl, rfl⟩

theorem retiredSession_revised (now : Time) (s : TrafficSessionState) :
    s.Revised (retiredSession now s) := by
  unfold retiredSession
  dsimp only
  split
  · exact .inr (Nat.lt_succ_self _)
  · rename_i hsame
    simp only [Bool.or_eq_true, decide_eq_true_eq, not_or, not_not, Option.isNone_iff_eq_none]
      at hsame
    obtain ⟨⟨⟨hgroups, hstate⟩, hended⟩, _⟩ := hsame
    refine .inl ⟨hstate.symm, hgroups, rfl, rfl, ?_⟩
    obtain ⟨t, ht⟩ := Option.ne_none_iff_exists'.mp hended
    simp only [ht, Option.getD_some]

theorem revised_of_write (hm : Admissible d m) (happly : m.apply d = .ok (some c))
    (h : Consistent d) (hs : d.trafficSession = some s) (hs' : c.trafficSession = some s')
    (hid : s'.id = s.id) : s.Revised s' := by
  have hmanaged := h.session s hs
  have hunchanged : c.trafficSession = d.trafficSession → s.Revised s' := fun hsame => by
    obtain rfl := Option.some.inj (hs.symm.trans (hsame.symm.trans hs'))
    exact .refl s
  cases m with
  | clearStopped id =>
      -- the clearing never fires: no group at rest holds a lease
      obtain ⟨t, ht, _, ⟨g, hg, hstopped, hlease⟩, _⟩ := clearStopped_some happly
      obtain rfl := Option.some.inj (hs.symm.trans ht)
      exact absurd (hmanaged.unleased g (List.mem_append_left _ hg) hstopped) hlease
  | retire id nonce now =>
      obtain rfl := retire_some happly
      simp only [hs, Option.map_some, Option.some.injEq] at hs'
      exact hs' ▸ retiredSession_revised now s
  | retainAfterStop session intent identity ports now =>
      obtain ⟨ht, _, _, _, rfl⟩ := retainAfterStop_some happly
      obtain rfl := Option.some.inj (hs.symm.trans ht)
      obtain rfl := Option.some.inj hs'
      exact .inr (Nat.lt_succ_self _)
  | supersede session intent authority identity observedAt hardStop =>
      obtain ⟨_, _, _, _, rfl⟩ := supersede_some happly
      exact hunchanged rfl
  | replace revision groups =>
      obtain ⟨_, rfl⟩ := replace_some happly
      exact hunchanged rfl
  | initializePlan groups =>
      obtain rfl := initializePlan_some happly
      exact hunchanged rfl
  | prepare intent owned =>
      obtain ⟨_, _, _, _, rfl⟩ := prepare_some happly
      exact hunchanged rfl
  | advance nonce stage ids budget =>
      obtain ⟨_, _, _, _, ⟨_, rfl⟩ | ⟨_, _, _, rfl⟩⟩ := advance_some happly
      · exact hunchanged rfl
      · exact hunchanged rfl
  | retain nonce reason =>
      obtain ⟨_, _, _, rfl⟩ := retain_some happly
      exact hunchanged rfl
  | clear nonce session =>
      obtain ⟨_, _, rfl⟩ := clear_some happly
      exact hunchanged rfl
  | retireAfterRollover nonce authority now =>
      obtain ⟨_, _, _, _, _, rfl⟩ := retireAfterRollover_some happly
      simp only [hs, Option.map_some, Option.some.injEq] at hs'
      subst hs'
      unfold rolledOverSession
      split
      · exact .inr (Nat.lt_succ_self _)
      · exact .refl s
  | promote nonce operation authority mode owned now =>
      obtain ⟨i, e, t, hi, _, _, _, hbefore, _, hstart, hother, rfl⟩ := promote_some happly
      obtain rfl := Option.some.inj hs'
      by_cases hop : operation = .start
      · obtain ⟨started, _, ⟨_, _, rfl⟩ | ⟨before, hb, _, _, _, _, _, rfl⟩⟩ :=
          promoteStart_ok (hstart hop)
        · -- a new session has the identifier of its intent, which is a later one
          have hfresh := ((h.intent i hi).fresh s (hbefore.symm.trans hs)).1
          rw [← hid] at hfresh
          exact absurd hfresh (lt_irrefl _)
        · obtain rfl := Option.some.inj (hs.symm.trans hb)
          exact .inr (Nat.lt_succ_self _)
      · obtain ⟨before, hb, _, _, _, ⟨_, _, _, _, rfl⟩ | ⟨_, _, rfl⟩⟩ :=
          promoteMutation_ok (hother hop)
        all_goals
          obtain rfl := Option.some.inj (hs.symm.trans hb)
          refine .inr ?_
          unfold finishedSession
          rw [if_pos hmanaged.version]
          exact Nat.lt_succ_self _
  | persistReconciled id groups now reconciliation =>
      obtain ⟨t, ht, _, rfl⟩ := persistReconciled_some happly
      obtain rfl := Option.some.inj (hs.symm.trans ht)
      obtain rfl := Option.some.inj hs'
      exact .inr (Nat.lt_succ_self _)

/-! ## Ended runs -/

/-- `s'` keeps what `s` certifies: the groups whose run has ended, which may only move to
the completed groups, and the evidence, which may only grow. -/
structure TrafficSessionState.Keeps (s s' : TrafficSessionState) : Prop where
  groups : ∀ g ∈ s.groups, g.cleanupEvidence ≠ none → g ∈ s'.groups ∨ g ∈ s'.completedGroups
  completed : ∀ g ∈ s.completedGroups, g.cleanupEvidence ≠ none → g ∈ s'.completedGroups
  evidence : s.mutationEvidence <+: s'.mutationEvidence

theorem TrafficSessionState.Keeps.refl (s : TrafficSessionState) : s.Keeps s :=
  ⟨fun _ hg _ => .inl hg, fun _ hg _ => hg, List.prefix_refl _⟩

theorem TrafficSessionState.Keeps.trans {s'' : TrafficSessionState} (h : s.Keeps s')
    (h' : s'.Keeps s'') : s.Keeps s'' := by
  refine ⟨fun g hg hended => ?_, fun g hg hended => ?_, h.evidence.trans h'.evidence⟩
  · rcases h.groups g hg hended with hg' | hg'
    · exact h'.groups g hg' hended
    · exact .inr (h'.completed g hg' hended)
  · exact h'.completed g (h.completed g hg hended) hended

/-- The mutation that the pending intent promotes reaches the group. -/
def TrafficMutationIntentState.reaches (i : TrafficMutationIntentState)
    (g : TrafficSessionGroupState) : Bool :=
  match i.operation with
  | .start => false
  | .update => g.coveredBy i.ports
  | .stop | .pause | .resume => g.meets i.ports

namespace TrafficMutationIntentState

variable {i : TrafficMutationIntentState} {g : TrafficSessionGroupState}

theorem reaches_update (h : i.operation = .update) : i.reaches g = g.coveredBy i.ports := by
  unfold reaches
  rw [h]

theorem reaches_action (hstart : i.operation ≠ .start) (hupdate : i.operation ≠ .update) :
    i.reaches g = g.meets i.ports := by
  unfold reaches
  cases h : i.operation with
  | start => exact absurd h hstart
  | update => exact absurd h hupdate
  | stop | pause | resume => rfl

end TrafficMutationIntentState

/-- The write does not edit a group whose run has ended: a promoted mutation does not reach
one, and a rollover of the daemon finds none in the session it retires. -/
def Mutation.SparesEnded (d : RuntimeStateDocument) : Mutation → Prop
  | .promote _ _ _ _ _ _ => ∀ i ∈ d.trafficMutationIntent, ∀ s ∈ d.trafficSession,
      ∀ g ∈ s.groups, g.cleanupEvidence ≠ none → i.reaches g = false
  | .retireAfterRollover _ authority _ => ∀ s ∈ d.trafficSession,
      s.authority = authority → ∀ g ∈ s.groups, g.cleanupEvidence = none
  | _ => True

instance (d : RuntimeStateDocument) (m : Mutation) : Decidable (m.SparesEnded d) := by
  cases m <;> unfold Mutation.SparesEnded <;> infer_instance

def Effect.SparesEnded : Effect → Prop
  | .wrote m before _ _ => m.SparesEnded before.document
  | .rpc _ _ | .rejected _ _ _ _ => True

instance (e : Effect) : Decidable e.SparesEnded := by
  cases e <;> unfold Effect.SparesEnded <;> infer_instance

theorem TrafficSessionGroupState.Valid.stoppedStates {g : TrafficSessionGroupState}
    (hg : g.Valid) (hstopped : g.state = .stopped) : g.portStates = g.stoppedStates := by
  have hvalues := aggregatePortStates_stopped_iff.mp (hg.state_aggregates.symm.trans hstopped)
  refine Finmap.ext_lookup fun p => ?_
  rw [TrafficSessionGroupState.stoppedStates, Dict.lookup_ofKeys]
  have hkeys : p ∈ g.portStates.keys ↔ p ∈ g.ports := by
    rw [hg.portStates_exact, List.mem_toFinset]
  by_cases hp : p ∈ g.ports
  · obtain ⟨state, hstate⟩ := Dict.mem_keys_iff_isSome.mp (hkeys.mpr hp)
    rw [if_pos hp, hstate, hvalues state (Dict.mem_values.mpr ⟨p, hstate⟩)]
  · rw [if_neg hp, Finmap.lookup_eq_none]
    exact fun hmem => hp (hkeys.mp (Finmap.mem_keys.mpr hmem))

/-- A group of a managed session whose run has ended. -/
structure TrafficSessionGroupState.Ended (g : TrafficSessionGroupState) : Prop where
  cleanup : g.cleanupEvidence ≠ none
  state : g.state = .stopped
  portStates : g.portStates = g.stoppedStates
  aggregates : aggregatePortStates g.portStates = .stopped
  lease : g.hardStopAt = none

theorem TrafficSessionState.Managed.ended (hmanaged : s.Managed) (hs : s.Valid)
    {g : TrafficSessionGroupState} (hg : g ∈ s.allGroups) (hended : g.cleanupEvidence ≠ none) :
    g.Ended := by
  have hstopped := (hs.stopped_iff hmanaged.version hg).mpr hended
  have hvalid := hs.groups_valid g hg
  exact ⟨hended, hstopped, hvalid.stoppedStates hstopped,
    hvalid.state_aggregates.symm.trans hstopped, hmanaged.unleased g hg hstopped⟩

theorem retireGroup_ended {g : TrafficSessionGroupState} (hg : g.Ended) (evidenced : Bool)
    (now : Time) : retireGroup evidenced now g = g := by
  have hsame : ¬(g.state ≠ .stopped ∨ g.portStates ≠ g.stoppedStates ∨ g.hardStopAt ≠ none) := by
    rw [not_or, not_or, not_not, not_not, not_not]
    exact ⟨hg.state, hg.portStates, hg.lease⟩
  unfold retireGroup
  rw [if_neg hsame]
  unfold TrafficSessionGroupState.observedStopped
  rw [if_neg]
  simp [hg.cleanup]

theorem reconcileGroup_ended {g : TrafficSessionGroupState} (hg : g.Ended) (owned : Bool)
    (live : Dict Port PortState) (now : Time) : reconcileGroup true owned live now g = g := by
  have hstates : reconciledPortStates true owned live g = g.portStates := by
    unfold reconciledPortStates
    rw [if_pos, hg.portStates]
    simpa [Option.isSome_iff_ne_none] using hg.cleanup
  unfold reconcileGroup
  dsimp only
  rw [hstates, hg.aggregates, if_pos rfl, if_pos ⟨hg.state, rfl, hg.lease⟩]

theorem actedGroup_ended {g : TrafficSessionGroupState} {i : TrafficMutationIntentState}
    (hg : g.cleanupEvidence ≠ none) (hspared : g.meets i.ports = false)
    (mode : TrafficCompletionMode) (now : Time) :
    cleanActionGroup i mode now (promoteActionGroup i now g) = g := by
  unfold promoteActionGroup
  rw [hspared, if_neg Bool.false_ne_true]
  unfold cleanActionGroup
  rw [if_neg fun h => hg h.2]

/-- The groups of a session after a write that edits each of them by `f`. -/
theorem TrafficSessionState.Keeps.of_map {f : TrafficSessionGroupState → TrafficSessionGroupState}
    (hgroups : s'.groups = s.groups.map f) (hcompleted : s'.completedGroups = s.completedGroups)
    (hevidence : s.mutationEvidence <+: s'.mutationEvidence)
    (hf : ∀ g ∈ s.groups, g.cleanupEvidence ≠ none → f g = g) : s.Keeps s' := by
  refine ⟨fun g hg hended => .inl ?_, fun g hg _ => hcompleted ▸ hg, hevidence⟩
  rw [hgroups]
  exact List.mem_map.mpr ⟨g, hg, hf g hg hended⟩

theorem finishedSession_evidence (i : TrafficMutationIntentState)
    (e : TrafficMutationEvidenceState) (now : Time) (before edited : TrafficSessionState) :
    before.mutationEvidence <+: (finishedSession i e now before edited).mutationEvidence := by
  unfold finishedSession
  dsimp only
  split
  · exact List.prefix_append _ _
  · exact List.prefix_refl _

theorem promoteMutation_keeps {i : TrafficMutationIntentState}
    {authority : RuntimeAuthorityIdentity} {mode : TrafficCompletionMode}
    {owned : Option Uuid} {e : TrafficMutationEvidenceState} {now : Time}
    (hmanaged : s.Managed) (hop : i.operation ≠ .start)
    (hspared : ∀ g ∈ s.groups, g.cleanupEvidence ≠ none → i.reaches g = false)
    (h : promoteMutation i authority mode owned e now (some s) = .ok s') : s.Keeps s' := by
  obtain ⟨before, hb, _, _, _, hcase⟩ := promoteMutation_ok h
  obtain rfl := Option.some.inj hb
  rcases hcase with ⟨hupdate, multiplier, _, _, rfl⟩ | ⟨hupdate, _, rfl⟩
  · refine .of_map (f := promoteUpdateGroup i multiplier now) rfl rfl
      (finishedSession_evidence ..) fun g hg hended => ?_
    have hcovered := hspared g hg hended
    rw [TrafficMutationIntentState.reaches_update hupdate] at hcovered
    unfold promoteUpdateGroup
    rw [hcovered, if_neg Bool.false_ne_true]
  · refine .of_map
      (f := fun g => cleanActionGroup i mode now (promoteActionGroup i now g)) ?_ rfl
      (finishedSession_evidence ..) fun g hg hended => actedGroup_ended hended ?_ mode now
    · change actedGroups i mode now s = _
      unfold actedGroups
      rw [if_pos hmanaged.version, List.map_map]
      rfl
    · rw [← TrafficMutationIntentState.reaches_action hop hupdate]
      exact hspared g hg hended

theorem keeps_of_write (hm : Admissible d m) (happly : m.apply d = .ok (some c))
    (h : Consistent d) (hspares : m.SparesEnded d) (hs : d.trafficSession = some s)
    (hs' : c.trafficSession = some s') (hid : s'.id = s.id) : s.Keeps s' := by
  have hmanaged := h.session s hs
  have hvalid := h.session_valid hs
  have hended : ∀ g ∈ s.groups, g.cleanupEvidence ≠ none → g.Ended := fun g hg =>
    hmanaged.ended hvalid (List.mem_append_left _ hg)
  have hunchanged : c.trafficSession = d.trafficSession → s.Keeps s' := fun hsame => by
    obtain rfl := Option.some.inj (hs.symm.trans (hsame.symm.trans hs'))
    exact .refl s
  cases m with
  | clearStopped id =>
      obtain ⟨t, ht, _, ⟨g, hg, hstopped, hlease⟩, _⟩ := clearStopped_some happly
      obtain rfl := Option.some.inj (hs.symm.trans ht)
      exact absurd (hmanaged.unleased g (List.mem_append_left _ hg) hstopped) hlease
  | retire id nonce now =>
      obtain rfl := retire_some happly
      simp only [hs, Option.map_some, Option.some.injEq] at hs'
      subst hs'
      exact .of_map (f := retireGroup _ now) rfl rfl (List.prefix_refl _)
        fun g hg hg' => retireGroup_ended (hended g hg hg') _ now
  | retainAfterStop session intent identity ports now =>
      obtain ⟨ht, _, _, _, rfl⟩ := retainAfterStop_some happly
      obtain ⟨_, observedAt, rfl, _⟩ := hm
      obtain rfl := Option.some.inj (hs.symm.trans ht)
      obtain rfl := Option.some.inj hs'
      refine .of_map (f := _) rfl rfl (List.prefix_refl _) fun g hg hg' => if_neg fun hlease => ?_
      -- a group at rest has no lease, so it shares none with an expired group
      obtain ⟨other, hother, hsame⟩ := List.mem_map.mp hlease
      have hexpired := (List.mem_filter.mp hother).2
      unfold TrafficSessionGroupState.leaseExpired at hexpired
      rw [show other.hardStopAt = none from
        (Prod.mk.inj hsame).2.trans (hended g hg hg').lease] at hexpired
      cases hexpired
  | supersede session intent authority identity observedAt hardStop =>
      obtain ⟨_, _, _, _, rfl⟩ := supersede_some happly
      exact hunchanged rfl
  | replace revision groups =>
      obtain ⟨_, rfl⟩ := replace_some happly
      exact hunchanged rfl
  | initializePlan groups =>
      obtain rfl := initializePlan_some happly
      exact hunchanged rfl
  | prepare intent owned =>
      obtain ⟨_, _, _, _, rfl⟩ := prepare_some happly
      exact hunchanged rfl
  | advance nonce stage ids budget =>
      obtain ⟨_, _, _, _, ⟨_, rfl⟩ | ⟨_, _, _, rfl⟩⟩ := advance_some happly
      · exact hunchanged rfl
      · exact hunchanged rfl
  | retain nonce reason =>
      obtain ⟨_, _, _, rfl⟩ := retain_some happly
      exact hunchanged rfl
  | clear nonce session =>
      obtain ⟨_, _, rfl⟩ := clear_some happly
      exact hunchanged rfl
  | retireAfterRollover nonce authority now =>
      obtain ⟨_, _, _, _, _, rfl⟩ := retireAfterRollover_some happly
      simp only [hs, Option.map_some, Option.some.injEq] at hs'
      subst hs'
      unfold rolledOverSession
      split
      · rename_i hauthority
        exact .of_map (f := rolloverGroup _ now) rfl rfl (List.prefix_refl _)
          fun g hg hg' => absurd (hspares s hs hauthority g hg) hg'
      · exact .refl s
  | promote nonce operation authority mode owned now =>
      obtain ⟨i, e, t, hi, _, hoperation, _, hbefore, _, hstart, hother, rfl⟩ := promote_some happly
      obtain rfl := Option.some.inj hs'
      by_cases hop : operation = .start
      · obtain ⟨started, _, ⟨_, _, rfl⟩ | ⟨before, hb, _, _, _, _, _, rfl⟩⟩ :=
          promoteStart_ok (hstart hop)
        · have hfresh := ((h.intent i hi).fresh s (hbefore.symm.trans hs)).1
          rw [← hid] at hfresh
          exact absurd hfresh (lt_irrefl _)
        · obtain rfl := Option.some.inj (hs.symm.trans hb)
          refine ⟨fun g hg _ => ?_, fun g hg _ => List.mem_append_left _ hg,
            List.prefix_append _ _⟩
          -- a group whose ports the new run takes over moves to the completed groups
          cases hmeets : g.meets i.ports with
          | true => exact .inr (List.mem_append_right _ (List.mem_filter.mpr ⟨hg, hmeets⟩))
          | false =>
              exact .inl (List.mem_append_left _ (List.mem_filter.mpr ⟨hg, by rw [hmeets]; rfl⟩))
      · have hpromoted := hother hop
        rw [hs] at hpromoted
        exact promoteMutation_keeps hmanaged (hoperation ▸ hop) (hspares i hi s hs) hpromoted
  | persistReconciled id groups now reconciliation =>
      obtain ⟨t, ht, _, rfl⟩ := persistReconciled_some happly
      obtain ⟨_, u, owned, live, hu, _, rfl⟩ := hm
      obtain rfl := Option.some.inj (hs.symm.trans ht)
      obtain rfl := Option.some.inj (hs.symm.trans hu)
      obtain rfl := Option.some.inj hs'
      refine .of_map (f := reconcileGroup _ owned live now) rfl rfl (List.prefix_refl _)
        fun g hg hg' => ?_
      rw [hmanaged.version]
      exact reconcileGroup_ended (hended g hg hg') owned live now

/-! ## Runs -/

/-- The session of a document is followed by the same one, or by a later one. -/
def Succeeds (d d' : RuntimeStateDocument) : Prop :=
  ∀ s, d.trafficSession = some s →
    ∃ s', d'.trafficSession = some s' ∧ (s'.id = s.id ∨ s.id.value < s'.id.value)

theorem succeeds_of_write (hm : Admissible d m) (happly : m.apply d = .ok (some c))
    (h : Consistent d) : Succeeds d c := by
  intro s hs
  cases apply_session hm happly with
  | unchanged hsame => exact ⟨s, hsame.trans hs, .inl rfl⟩
  | edited t s' ht hs' hedit _ =>
      obtain rfl := Option.some.inj (hs.symm.trans ht)
      exact ⟨s', hs', .inl hedit.id⟩
  | promoted _ _ t s' _ _ ht hs' hedit _ =>
      obtain rfl := Option.some.inj (hs.symm.trans ht)
      exact ⟨s', hs', .inl hedit.id⟩
  | created i _ _ _ _ hi _ _ _ _ hs' =>
      have hfresh := ((h.intent i hi).fresh s ((h.sessionBefore hi).trans hs)).1
      exact ⟨_, hs', .inr hfresh⟩
  | joined _ _ _ _ t _ _ _ _ ht hs' =>
      obtain rfl := Option.some.inj (hs.symm.trans ht)
      exact ⟨_, hs', .inl rfl⟩

/-- Between two moments of a ledger whose writes spare the ended runs, a session that is
still there keeps what it certified. -/
theorem Chained.keeps {newer older : List Effect} {d : RuntimeStateDocument}
    (h : Chained {} (newer ++ older) d)
    (hspares : ∀ e ∈ newer, e.SparesEnded) :
    ∀ s, (documentAfter {} older).trafficSession = some s →
      ∃ s', d.trafficSession = some s'
        ∧ (s'.id = s.id ∧ s.Keeps s' ∨ s.id.value < s'.id.value) := by
  induction newer generalizing d with
  | nil =>
      intro s hs
      rw [List.nil_append] at h
      exact ⟨s, h.document ▸ hs, .inl ⟨rfl, .refl s⟩⟩
  | cons e rest ih =>
      have hrest : ∀ e ∈ rest, e.SparesEnded := fun e' he =>
        hspares e' (List.mem_cons_of_mem e he)
      cases e with
      | rpc call moment => exact ih h hrest
      | rejected m before candidate moment => exact ih h.2.2.2 hrest
      | wrote m before after moment =>
          intro s hs
          obtain ⟨rfl, hwrites, hbefore⟩ := h
          obtain ⟨t, ht, hst⟩ := ih hbefore hrest s hs
          have hconsistent := hbefore.reachable.consistent
          obtain ⟨candidate, now, happly, hafter⟩ := hwrites.applies
          have hcandidate : after.document.trafficSession = candidate.trafficSession := by
            rw [hafter]; rfl
          obtain ⟨s', hs', hid⟩ := succeeds_of_write hwrites.admissible happly hconsistent t ht
          refine ⟨s', hcandidate.trans hs', ?_⟩
          rcases hst with ⟨hts, hkeeps⟩ | hlater
          · rcases hid with hid | hid
            · exact .inl ⟨hid.trans hts, hkeeps.trans (keeps_of_write hwrites.admissible happly
                hconsistent (hspares _ List.mem_cons_self) ht hs' hid)⟩
            · exact .inr (hts ▸ hid)
          · rcases hid with hid | hid
            · exact .inr (hid ▸ hlater)
            · exact .inr (hlater.trans hid)

abbrev runEffects (env : TrafficEnvironment) (nonces : Nat) (log : List Consultation)
    (commands : List Command) : List Effect :=
  (reachedWorld env .empty nonces log commands).effects

theorem runEffects_chained (env : TrafficEnvironment) (nonces : Nat) (log : List Consultation)
    (commands : List Command) :
    Chained {} (runEffects env nonces log commands)
      (reachedWorld env .empty nonces log commands).document :=
  (reachedWorld_good env .empty nonces log commands
    ⟨fun _ h => (nomatch h), fun _ h => (nomatch h), fun _ h => (nomatch h)⟩).chained

/-- Over every run from the empty document, a write that changes the content of a session
takes its revision up, and at every moment no group at rest holds a lease. -/
theorem revision_identifies_content (env : TrafficEnvironment) (nonces : Nat)
    (log : List Consultation) (commands : List Command) :
    (∀ m before after moment,
      .wrote m before after moment ∈ runEffects env nonces log commands → ∀ s s',
        before.document.trafficSession = some s → after.document.trafficSession = some s' →
        s.evidenceVersion = some .one → s'.id = s.id →
        ¬s.SameContent s' → s.revision < s'.revision)
      ∧ ∀ newer older, runEffects env nonces log commands = newer ++ older → ∀ s,
          (documentAfter {} older).trafficSession = some s →
          ∀ g ∈ s.allGroups, g.state = .stopped → g.hardStopAt = none := by
  have hchained := runEffects_chained env nonces log commands
  refine ⟨fun m before after moment he s s' hs hs' _ hid hchanged => ?_,
    fun newer older hsplit s hs => ?_⟩
  · obtain ⟨hreach, hwrites⟩ := hchained.wrote he
    obtain ⟨candidate, now, happly, hafter⟩ := hwrites.applies
    rw [hafter] at hs'
    exact (revised_of_write hwrites.admissible happly hreach.consistent hs hs' hid).resolve_left
      hchanged
  · rw [hsplit] at hchained
    exact (hchained.earlier.reachable.consistent.session s hs).unleased

/-- In every run from the empty document, between any two of its moments with only writes
that spare the ended runs between them, a session that is still there keeps the groups
whose run had ended, and its evidence has only grown. -/
theorem ended_runs_kept (env : TrafficEnvironment) (nonces : Nat) (log : List Consultation)
    (commands : List Command) (newest newer older : List Effect)
    (hsplit : runEffects env nonces log commands = newest ++ (newer ++ older))
    (hspares : ∀ e ∈ newer, e.SparesEnded)
    (s s' : TrafficSessionState) (hs : (documentAfter {} older).trafficSession = some s)
    (hs' : (documentAfter {} (newer ++ older)).trafficSession = some s') (hid : s'.id = s.id) :
    s.Keeps s' := by
  have hchained := runEffects_chained env nonces log commands
  rw [hsplit] at hchained
  obtain ⟨t, ht, ⟨_, hkeeps⟩ | hlater⟩ := hchained.earlier.keeps hspares s hs
  · obtain rfl := Option.some.inj (hs'.symm.trans ht)
    exact hkeeps
  · obtain rfl := Option.some.inj (hs'.symm.trans ht)
    rw [hid] at hlater
    exact absurd hlater (lt_irrefl _)

/-! ### A session with an ended run

Two groups run in one session, and the first is stopped. A pause of the second spares the
first; an update of the session does not.
-/

/-- The first default group is started, joined by the second and stopped. -/
def firstGroupEnded : List Command :=
  [.snapshot, .startGroup "pair-0" 1 none none, .startGroup "pair-1" 1 (some ⟨0⟩) none,
    .action .stop (some [0, 1]) (some ⟨0⟩)]

abbrev endedEffects (c : Command) : List Effect :=
  runEffects (Server.environment {}) 0 [] (firstGroupEnded ++ [c])

/-- A pause of the second group keeps the first. -/
theorem ended_runs_kept_pause : ∃ s s',
    (documentAfter {} ((endedEffects (.action .pause (some [2, 3]) (some ⟨0⟩))).drop
      3)).trafficSession = some s
      ∧ (documentAfter {} (endedEffects (.action .pause (some [2, 3])
        (some ⟨0⟩)))).trafficSession = some s'
      ∧ s.groups.any (·.cleanupEvidence.isSome) = true ∧ s.Keeps s' := by
  have hsplit := (List.take_append_drop 3
    (endedEffects (.action .pause (some [2, 3]) (some ⟨0⟩)))).symm
  have hspares : ∀ e ∈ (endedEffects (.action .pause (some [2, 3]) (some ⟨0⟩))).take 3,
      e.SparesEnded := by decide +kernel
  have hsessions : (documentAfter {} ((endedEffects (.action .pause (some [2, 3])
      (some ⟨0⟩))).drop 3)).trafficSession.any (fun s =>
        (documentAfter {} (endedEffects (.action .pause (some [2, 3])
          (some ⟨0⟩)))).trafficSession.any fun s' => decide (s'.id = s.id)
            && s.groups.any (·.cleanupEvidence.isSome)) = true := by decide +kernel
  obtain ⟨s, hs, hnext⟩ := (Option.any_eq_true _ _).mp hsessions
  obtain ⟨s', hs', hsame⟩ := (Option.any_eq_true _ _).mp hnext
  rw [Bool.and_eq_true] at hsame
  refine ⟨s, s', hs, hs', hsame.2, ended_runs_kept (Server.environment {}) 0 []
    (firstGroupEnded ++ [.action .pause (some [2, 3]) (some ⟨0⟩)]) [] _ _ hsplit hspares s s' hs
    ?_ (of_decide_eq_true hsame.1)⟩
  rw [← hsplit]
  exact hs'

/-- An update of the session rewrites the multiplier of the first group: the law does not
hold of every run. -/
theorem ended_runs_kept_fails_update :
    ¬∀ (env : TrafficEnvironment) (nonces : Nat) (log : List Consultation)
      (commands : List Command) (newest newer older : List Effect),
      runEffects env nonces log commands = newest ++ (newer ++ older) →
      ∀ s s' : TrafficSessionState, (documentAfter {} older).trafficSession = some s →
        (documentAfter {} (newer ++ older)).trafficSession = some s' →
        s.evidenceVersion = some .one → s'.id = s.id → s.Keeps s' := by
  intro hlaw
  have hsplit := (List.take_append_drop 3
    (endedEffects (.update none "2" false false (some ⟨0⟩)))).symm
  have hsessions : (documentAfter {} ((endedEffects (.update none "2" false false
      (some ⟨0⟩))).drop 3)).trafficSession.any (fun s =>
        (documentAfter {} (endedEffects (.update none "2" false false
          (some ⟨0⟩)))).trafficSession.any fun s' =>
            decide (s.evidenceVersion = some .one) && decide (s'.id = s.id)
              && s.groups.any fun g => g.cleanupEvidence.isSome
                && decide (g ∉ s'.groups) && decide (g ∉ s'.completedGroups)) = true := by
    decide +kernel
  obtain ⟨s, hs, hnext⟩ := (Option.any_eq_true _ _).mp hsessions
  obtain ⟨s', hs', hchanged⟩ := (Option.any_eq_true _ _).mp hnext
  simp only [Bool.and_eq_true, decide_eq_true_eq, List.any_eq_true] at hchanged
  obtain ⟨⟨hversion, hid⟩, g, hg, ⟨hended, hgone⟩, hgone'⟩ := hchanged
  have hkeeps := hlaw (Server.environment {}) 0 []
    (firstGroupEnded ++ [.update none "2" false false (some ⟨0⟩)]) [] _ _ hsplit s s' hs
    (by rw [← hsplit]; exact hs') hversion hid
  rcases hkeeps.groups g hg (Option.isSome_iff_ne_none.mp hended) with hmem | hmem
  · exact hgone hmem
  · exact hgone' hmem

end TrexWebui
