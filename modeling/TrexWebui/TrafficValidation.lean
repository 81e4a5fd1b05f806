import TrexWebui.TrafficEvidence

/-!
# Which writes the validators accept

Every write of the authority is validated again as a whole, after the hardware
has been changed. Here the validators are followed through each mutation: from a
consistent document, every candidate passes them except in two cases. A pause
or resume that reaches a group whose run has ended takes the group out of its
rest but leaves its cleanup in place, and a plan may be replaced by one whose
resolved paths are longer than a document may hold.
-/

namespace TrexWebui

variable {d c : RuntimeStateDocument} {m : Mutation}

/-! ## Evidence that grows -/

theorem evidenceByNonce_mono {l l' : List TrafficMutationEvidenceState} (h : l <+: l')
    {nonce : Uuid} {e : TrafficMutationEvidenceState}
    (he : evidenceByNonce l nonce = some e) : evidenceByNonce l' nonce = some e := by
  obtain ⟨rest, rfl⟩ := h
  unfold evidenceByNonce at he ⊢
  rw [List.find?_append, he]
  rfl

theorem evidenceByNonce_append {l : List TrafficMutationEvidenceState}
    {e : TrafficMutationEvidenceState}
    (hfresh : ∀ e' ∈ l, e'.intentNonce ≠ e.intentNonce) :
    evidenceByNonce (l ++ [e]) e.intentNonce = some e := by
  unfold evidenceByNonce
  have hnone : l.find? (fun e' => decide (e'.intentNonce = e.intentNonce)) = none := by
    rw [List.find?_eq_none]
    intro e' he' hsame
    exact hfresh e' he' (of_decide_eq_true hsame)
  rw [List.find?_append, hnone]
  simp

/-- `l'` is `l` with evidence of further mutations, none of them a start. -/
structure Appended (l l' : List TrafficMutationEvidenceState) : Prop where
  grown : l <+: l'
  nonces_unique : (l'.map (·.intentNonce)).Nodup
  same_starts : l'.filter (·.operation = .start) = l.filter (·.operation = .start)

theorem Appended.refl {l : List TrafficMutationEvidenceState}
    (h : (l.map (·.intentNonce)).Nodup) : Appended l l :=
  ⟨List.prefix_refl l, h, rfl⟩

theorem nonces_unique_append {l : List TrafficMutationEvidenceState}
    {e : TrafficMutationEvidenceState} (h : (l.map (·.intentNonce)).Nodup)
    (hfresh : ∀ e' ∈ l, e'.intentNonce ≠ e.intentNonce) :
    ((l ++ [e]).map (·.intentNonce)).Nodup := by
  rw [List.map_append, List.nodup_append]
  refine ⟨h, List.nodup_singleton _, fun a ha b hb => ?_⟩
  obtain ⟨e', he', rfl⟩ := List.mem_map.mp ha
  obtain rfl := List.mem_singleton.mp hb
  exact hfresh e' he'

theorem Appended.single {l : List TrafficMutationEvidenceState}
    {e : TrafficMutationEvidenceState} (h : (l.map (·.intentNonce)).Nodup)
    (hfresh : ∀ e' ∈ l, e'.intentNonce ≠ e.intentNonce) (hop : e.operation ≠ .start) :
    Appended l (l ++ [e]) := by
  refine ⟨List.prefix_append _ _, nonces_unique_append h hfresh, ?_⟩
  rw [List.filter_append]
  simp [hop]

/-! ## Edited groups -/

/-- How the run of a group stands: it has ended with a cleanup that the evidence backs, or
it has not. -/
structure TrafficSessionGroupState.Settled (evidence : List TrafficMutationEvidenceState)
    (g : TrafficSessionGroupState) : Prop where
  stopped_cleanup : g.state = .stopped →
    ∃ cleanup, g.cleanupEvidence = some cleanup ∧ (g.endedAt = some cleanup.completedAt
      ∧ cleanup.finalPorts = g.ports.toFinset
      ∧ TrafficSessionGroupState.CleanupReferences evidence cleanup)
  active_clean : g.state ≠ .stopped → g.endedAt = none ∧ g.cleanupEvidence = none

/-- An edit of a group that the validators of the group and of its session accept. -/
structure AcceptedEdit (evidence : List TrafficMutationEvidenceState)
    (g g' : TrafficSessionGroupState) : Prop where
  edit : GroupEdit g g'
  valid : g'.Valid
  settled : g'.Settled evidence

theorem CleanupReferences.mono {l l' : List TrafficMutationEvidenceState} (h : l <+: l')
    {cleanup : TrafficCleanupEvidenceState}
    (hc : TrafficSessionGroupState.CleanupReferences l cleanup) :
    TrafficSessionGroupState.CleanupReferences l' cleanup := by
  intro nonce hnonce
  obtain ⟨stop, hstop, hrest⟩ := hc nonce hnonce
  exact ⟨stop, evidenceByNonce_mono h hstop, hrest⟩

namespace TrafficSessionGroupState

variable {l l' : List TrafficMutationEvidenceState} {g g' : TrafficSessionGroupState}

theorem Evidenced.settled (h : g.Evidenced l) : g.Settled l :=
  ⟨h.stopped_cleanup, h.active_clean⟩

theorem Settled.mono (h : l <+: l') (hg : g.Settled l) : g.Settled l' := by
  refine ⟨fun hstopped => ?_, hg.active_clean⟩
  obtain ⟨cleanup, hcleanup, hended, hports, hreferences⟩ := hg.stopped_cleanup hstopped
  exact ⟨cleanup, hcleanup, hended, hports, CleanupReferences.mono h hreferences⟩

theorem Evidenced.edited (hg : g.Evidenced l) (hedit : GroupEdit g g') (h : l <+: l')
    (hsettled : g'.Settled l') : g'.Evidenced l' := by
  have hrun := hedit.same_run
  obtain ⟨e, he, hop, hrunId, hports, hfound⟩ := hg.start_evidence
  refine ⟨?_, ?_, ?_, ?_, hsettled.stopped_cleanup, hsettled.active_clean⟩
  · rw [hrun]; exact hg.start_fields
  · rw [hrun]; exact hg.plan_identity
  · rw [hrun]; exact hg.adHoc_identity
  · rw [hrun]; exact ⟨e, he, hop, hrunId, hports, evidenceByNonce_mono h hfound⟩

end TrafficSessionGroupState

theorem AcceptedEdit.refl {l l' : List TrafficMutationEvidenceState}
    {g : TrafficSessionGroupState} (h : l <+: l') (hvalid : g.Valid) (hg : g.Evidenced l) :
    AcceptedEdit l' g g :=
  ⟨.refl g, hvalid, hg.settled.mono h⟩

theorem TrafficSessionState.Valid.edited {s s' : TrafficSessionState}
    {f : TrafficSessionGroupState → TrafficSessionGroupState} (hs : s.Valid)
    (hmanaged : s.Managed) (hedit : SessionEdit s s') (hgroups : s'.groups = s.groups.map f)
    (hf : ∀ g ∈ s.groups, AcceptedEdit s'.mutationEvidence g (f g))
    (hstate : s'.state = aggregateState s'.groups) (hrevision : 1 ≤ s'.revision)
    (hevidence : Appended s.mutationEvidence s'.mutationEvidence) : s'.Valid := by
  have hversion : s.evidenceVersion ≠ none := by
    rw [hmanaged.version]
    exact Option.some_ne_none _
  have hold := hs.evidenced hversion
  refine ⟨fun g' hg' => ?_, ?_, hstate, fun hnone => ?_, fun _ => ?_⟩
  · rcases List.mem_append.mp hg' with hg' | hg'
    · obtain ⟨g, hg, rfl⟩ := List.mem_map.mp (hgroups ▸ hg')
      exact (hf g hg).valid
    · exact hs.groups_valid g' (List.mem_append_right _ (hedit.completed ▸ hg'))
  · rw [hgroups, List.pairwise_map]
    refine hs.ports_disjoint.imp_of_mem fun {g h} hg hh hdisjoint => ?_
    rw [(hf g hg).edit.ports, (hf h hh).edit.ports]
    exact hdisjoint
  · rw [hedit.evidenceVersion] at hnone
    exact absurd hnone hversion
  · obtain ⟨e, he, hop, hid⟩ := hold.begins_with_start
    refine ⟨hrevision, hevidence.nonces_unique, ⟨e, ?_, hop, hid.trans hedit.id.symm⟩,
      fun g' hg' => ?_, fun g' hg' => ?_, ?_⟩
    · obtain ⟨rest, hrest⟩ := hevidence.grown
      rw [← hrest, List.head?_append, he]
      rfl
    · rcases List.mem_append.mp hg' with hg' | hg'
      · obtain ⟨g, hg, rfl⟩ := List.mem_map.mp (hgroups ▸ hg')
        exact (hold.groups_evidenced g (List.mem_append_left _ hg)).edited (hf g hg).edit
          hevidence.grown (hf g hg).settled
      · have hmem := List.mem_append_right s.groups (hedit.completed ▸ hg')
        have hg := hold.groups_evidenced g' hmem
        exact hg.edited (.refl g') hevidence.grown (hg.settled.mono hevidence.grown)
    · exact hold.completed_stopped g' (hedit.completed ▸ hg')
    · rw [hevidence.same_starts, ← hold.starts_exact]
      unfold allGroups
      rw [hedit.completed, hgroups, List.map_append, List.map_append, List.map_map]
      congr 2
      exact List.map_congr_left fun g hg => (hf g hg).edit.runId

/-! ## The edits are accepted -/

namespace TrafficSessionGroupState

theorem keys_stoppedStates (g : TrafficSessionGroupState) :
    g.stoppedStates.keys = g.ports.toFinset := Dict.keys_ofKeys _ _

theorem aggregate_stoppedStates {g : TrafficSessionGroupState} (h : g.ports ≠ []) :
    aggregatePortStates g.stoppedStates = .stopped := by
  have hvalues : g.stoppedStates.values = {.stopped} :=
    Dict.values_ofKeys_const h fun _ _ => rfl
  unfold aggregatePortStates
  rw [hvalues]
  rfl

end TrafficSessionGroupState

section

variable {l l' : List TrafficMutationEvidenceState} {g g' : TrafficSessionGroupState}

theorem GroupEdit.valid (h : GroupEdit g g') (hg : g.Valid)
    (hkeys : g'.portStates.keys = g.ports.toFinset)
    (hstate : g'.state = aggregatePortStates g'.portStates) : g'.Valid := by
  have hrun := h.same_run
  refine ⟨?_, ?_, ?_, ?_, hstate⟩
  · rw [hrun]; exact hg.ports_nonempty
  · rw [hrun]; exact hg.ports_unique
  · rw [hrun]; exact hg.startMultiplier_length
  · rw [hkeys, h.ports]

theorem AcceptedEdit.of_state (hedit : GroupEdit g g') (hvalid : g.Valid) (hg : g.Evidenced l)
    (hgrown : l <+: l') (hkeys : g'.portStates.keys = g.ports.toFinset)
    (hstate : g'.state = aggregatePortStates g'.portStates)
    (hcleanup : g'.state = .stopped → g.cleanupEvidence = none →
      ∃ cleanup, g'.cleanupEvidence = some cleanup ∧ g'.endedAt = some cleanup.completedAt
        ∧ cleanup.finalPorts = g.ports.toFinset
        ∧ TrafficSessionGroupState.CleanupReferences l' cleanup)
    (hactive : g'.state ≠ .stopped → g'.endedAt = none ∧ g'.cleanupEvidence = none) :
    AcceptedEdit l' g g' := by
  refine ⟨hedit, hedit.valid hvalid hkeys hstate, fun hstopped => ?_, hactive⟩
  rw [hedit.ports]
  by_cases hnone : g.cleanupEvidence = none
  · exact hcleanup hstopped hnone
  · obtain ⟨hsame, hended⟩ := hedit.cleanup hnone
    have hrested : g.state = .stopped := by
      by_contra hrunning
      exact hnone (hg.active_clean hrunning).2
    obtain ⟨cleanup, hc, hcompleted, hfinal, hreferences⟩ := hg.stopped_cleanup hrested
    exact ⟨cleanup, hsame.trans hc, hended.trans hcompleted, hfinal,
      CleanupReferences.mono hgrown hreferences⟩

theorem AcceptedEdit.stopped (hedit : GroupEdit g g') (hvalid : g.Valid) (hg : g.Evidenced l)
    (hstate : g'.state = .stopped) (hports : g'.portStates = g.stoppedStates)
    (hcleanup : g.cleanupEvidence = none → ∃ cleanup, g'.cleanupEvidence = some cleanup
      ∧ g'.endedAt = some cleanup.completedAt ∧ cleanup.finalPorts = g.ports.toFinset
      ∧ TrafficSessionGroupState.CleanupReferences l cleanup) : AcceptedEdit l g g' := by
  refine .of_state hedit hvalid hg (List.prefix_refl l) ?_ ?_ (fun _ => hcleanup)
    fun hactive => absurd hstate hactive
  · rw [hports, g.keys_stoppedStates]
  · rw [hstate, hports, TrafficSessionGroupState.aggregate_stoppedStates hvalid.ports_nonempty]

theorem observedCleanup_references (l : List TrafficMutationEvidenceState) (now : Time)
    (ports : List Port) :
    TrafficSessionGroupState.CleanupReferences l (observedCleanup now ports) :=
  fun _ h => (nomatch h)

theorem observedStopped_cleanup (now : Time) (h : g.cleanupEvidence = none) :
    (g.observedStopped true now).cleanupEvidence = some (observedCleanup now g.ports)
      ∧ (g.observedStopped true now).endedAt = some now := by
  unfold TrafficSessionGroupState.observedStopped
  rw [if_pos (by rw [h]; rfl)]
  exact ⟨rfl, rfl⟩

theorem observedStopped_same (evidenced : Bool) (now : Time) (g : TrafficSessionGroupState) :
    (g.observedStopped evidenced now).state = g.state
      ∧ (g.observedStopped evidenced now).portStates = g.portStates := by
  unfold TrafficSessionGroupState.observedStopped
  split <;> exact ⟨rfl, rfl⟩

theorem acceptedEdit_rollover (hvalid : g.Valid) (hg : g.Evidenced l) (now : Time) :
    AcceptedEdit l g (rolloverGroup true now g) := by
  have hsame := observedStopped_same true now { g with
    portStates := g.stoppedStates, state := .stopped, hardStopAt := none, updatedAt := now }
  refine .stopped (groupEdit_rollover true now g) hvalid hg hsame.1 hsame.2
    fun hnone => ?_
  obtain ⟨hcleanup, hended⟩ := observedStopped_cleanup (g := { g with
    portStates := g.stoppedStates, state := .stopped, hardStopAt := none, updatedAt := now })
    now hnone
  exact ⟨_, hcleanup, hended, rfl, observedCleanup_references l now _⟩

theorem acceptedEdit_retire (hvalid : g.Valid) (hg : g.Evidenced l) (now : Time) :
    AcceptedEdit l g (retireGroup true now g) := by
  have hedit := groupEdit_retire true now g
  unfold retireGroup at hedit ⊢
  by_cases hchanged : g.state ≠ .stopped ∨ g.portStates ≠ g.stoppedStates ∨ g.hardStopAt ≠ none
  · rw [if_pos hchanged] at hedit ⊢
    have hsame := observedStopped_same true now { g with
      state := .stopped, portStates := g.stoppedStates, hardStopAt := none, updatedAt := now }
    refine .stopped hedit hvalid hg hsame.1 hsame.2 fun hnone => ?_
    obtain ⟨hcleanup, hended⟩ := observedStopped_cleanup (g := { g with
      state := .stopped, portStates := g.stoppedStates, hardStopAt := none, updatedAt := now })
      now hnone
    exact ⟨_, hcleanup, hended, rfl, observedCleanup_references l now _⟩
  · rw [if_neg hchanged] at hedit ⊢
    rw [not_or, not_or, not_not, not_not] at hchanged
    have hsame := observedStopped_same true now g
    refine .stopped hedit hvalid hg (hsame.1.trans hchanged.1)
      (hsame.2.trans hchanged.2.1) fun hnone => ?_
    obtain ⟨hcleanup, hended⟩ := observedStopped_cleanup now hnone
    exact ⟨_, hcleanup, hended, rfl, observedCleanup_references l now _⟩

theorem acceptedEdit_retainStopped (hvalid : g.Valid) (hg : g.Evidenced l) (now : Time) :
    AcceptedEdit l g (retainStoppedGroup true now g) := by
  have hedit := groupEdit_retainStopped true now g
  unfold retainStoppedGroup at hedit ⊢
  dsimp only at hedit ⊢
  split at hedit
  · rename_i hnone
    rw [if_pos hnone]
    exact .stopped hedit hvalid hg rfl rfl
      fun _ => ⟨_, rfl, rfl, rfl, fun _ h => (nomatch h)⟩
  · rename_i hsome
    rw [if_neg hsome]
    refine .stopped hedit hvalid hg rfl rfl fun hnone => ?_
    rw [hnone] at hsome
    exact absurd rfl hsome

theorem acceptedEdit_reconcile (hvalid : g.Valid) (hg : g.Evidenced l) (owned : Bool)
    (live : Dict Port PortState) (now : Time) :
    AcceptedEdit l g (reconcileGroup true owned live now g) := by
  have hedit := groupEdit_reconcile true owned live now g
  have hkeys : (reconciledPortStates true owned live g).keys = g.ports.toFinset := by
    unfold reconciledPortStates
    split_ifs <;> exact Dict.keys_ofKeys _ _
  -- a group whose run has ended is seen at rest
  have hended : g.cleanupEvidence ≠ none →
      aggregatePortStates (reconciledPortStates true owned live g) = .stopped := by
    intro hcleanup
    unfold reconciledPortStates
    rw [if_pos (by simpa [Option.isSome_iff_ne_none] using hcleanup)]
    exact TrafficSessionGroupState.aggregate_stoppedStates hvalid.ports_nonempty
  have hactive : aggregatePortStates (reconciledPortStates true owned live g) ≠ .stopped →
      g.endedAt = none ∧ g.cleanupEvidence = none := by
    intro hrunning
    have hnone : g.cleanupEvidence = none := by
      by_contra hcleanup
      exact hrunning (hended hcleanup)
    refine hg.active_clean fun hstopped => ?_
    obtain ⟨cleanup, hc, _⟩ := hg.stopped_cleanup hstopped
    exact absurd (hc.symm.trans hnone) (Option.some_ne_none _)
  unfold reconcileGroup at hedit ⊢
  dsimp only at hedit ⊢
  by_cases hsame : g.state = aggregatePortStates (reconciledPortStates true owned live g)
      ∧ g.portStates = reconciledPortStates true owned live g
      ∧ g.hardStopAt = if aggregatePortStates (reconciledPortStates true owned live g) = .stopped
        then none else g.hardStopAt
  · rw [if_pos hsame]
    exact .refl (List.prefix_refl l) hvalid hg
  · rw [if_neg hsame] at hedit ⊢
    split at hedit
    · rename_i hstops
      simp only [Bool.true_and, Bool.and_eq_true, decide_eq_true_eq,
        Option.isNone_iff_eq_none] at hstops
      rw [if_pos (by simp [hstops])]
      exact .of_state hedit hvalid hg (List.prefix_refl l) hkeys rfl
        (fun _ _ => ⟨_, rfl, rfl, rfl, observedCleanup_references l now _⟩)
        fun hrunning => absurd hstops.1 hrunning
    · rename_i hstays
      rw [if_neg hstays]
      refine .of_state hedit hvalid hg (List.prefix_refl l) hkeys rfl (fun hstopped hnone => ?_)
        hactive
      refine absurd ?_ hstays
      rw [show aggregatePortStates (reconciledPortStates true owned live g) = .stopped from
        hstopped, hnone]
      rfl

theorem acceptedEdit_promoteUpdate (hvalid : g.Valid) (hg : g.Evidenced l) (hgrown : l <+: l')
    (i : TrafficMutationIntentState) (multiplier : String) (now : Time) :
    AcceptedEdit l' g (promoteUpdateGroup i multiplier now g) := by
  have hedit := groupEdit_promoteUpdate i multiplier now g
  unfold promoteUpdateGroup at hedit ⊢
  split
  · rename_i hcovered
    rw [if_pos hcovered] at hedit
    refine .of_state hedit hvalid hg hgrown hvalid.portStates_exact hvalid.state_aggregates
      (fun hstopped hnone => ?_) hg.active_clean
    obtain ⟨cleanup, hc, _⟩ := hg.stopped_cleanup hstopped
    exact absurd (hc.symm.trans hnone) (Option.some_ne_none _)
  · exact .refl hgrown hvalid hg

/-! ### Promoted actions -/

def TrafficOperation.target : TrafficOperation → PortState
  | .stop => .stopped
  | .pause => .paused
  | .resume | .start | .update => .running

theorem TrafficMutationIntentState.Valid.desired {i : TrafficMutationIntentState}
    (hi : i.Valid) (hstart : i.operation ≠ .start) (hupdate : i.operation ≠ .update) {p : Port}
    (hp : p ∈ i.ports) : i.desiredPortStates.getD p .unknown = i.operation.target := by
  have hvalues : i.desiredPortStates.values = {i.operation.target} := by
    have hvalid := hi.operation_valid
    unfold TrafficMutationIntentState.OperationValid at hvalid
    cases hop : i.operation with
    | start => exact absurd hop hstart
    | update => exact absurd hop hupdate
    | stop => rw [hop] at hvalid; exact hvalid.desired_state
    | pause => rw [hop] at hvalid; exact hvalid.desired_state
    | resume => rw [hop] at hvalid; exact hvalid.desired_state
  have hmem : p ∈ i.desiredPortStates.keys := by
    rw [hi.desired_exact]
    exact List.mem_toFinset.mpr hp
  obtain ⟨state, hstate⟩ := Dict.mem_keys_iff_isSome.mp hmem
  have hvalue := Dict.mem_values.mpr ⟨p, hstate⟩
  rw [hvalues, Finset.mem_singleton] at hvalue
  unfold Dict.getD
  rw [hstate]
  exact hvalue

/-- What a promoted stop, pause or resume records for the ports of a group it meets. -/
abbrev TrafficMutationIntentState.actedPortStates (i : TrafficMutationIntentState)
    (g : TrafficSessionGroupState) : Dict Port PortState :=
  g.portStates.updateKeys (g.ports.filter (· ∈ i.ports))
    fun p => i.desiredPortStates.getD p .unknown

theorem keys_actedPortStates (i : TrafficMutationIntentState) (hvalid : g.Valid) :
    (i.actedPortStates g).keys = g.ports.toFinset := by
  rw [Dict.keys_updateKeys, hvalid.portStates_exact, Finset.union_eq_right]
  intro p hp
  rw [List.mem_toFinset] at hp ⊢
  exact List.mem_of_mem_filter hp

theorem aggregate_acted_stop {i : TrafficMutationIntentState} (hi : i.Valid)
    (hop : i.operation = .stop) (hvalid : g.Valid) (hstopped : g.state = .stopped) :
    aggregatePortStates (i.actedPortStates g) = .stopped := by
  refine aggregatePortStates_stopped_iff.mpr fun state hstate => ?_
  obtain ⟨p, hp⟩ := Dict.mem_values.mp hstate
  rw [Dict.lookup_updateKeys] at hp
  by_cases htarget : p ∈ g.ports.filter (· ∈ i.ports)
  · rw [if_pos htarget] at hp
    have hport : p ∈ i.ports := of_decide_eq_true (List.mem_filter.mp htarget).2
    rw [hi.desired (by rw [hop]; decide) (by rw [hop]; decide) hport, hop] at hp
    exact (Option.some.inj hp).symm
  · rw [if_neg htarget] at hp
    exact aggregatePortStates_stopped_iff.mp (hvalid.state_aggregates.symm.trans hstopped) state
      (Dict.mem_values.mpr ⟨p, hp⟩)

theorem aggregate_acted_active {i : TrafficMutationIntentState} (hi : i.Valid)
    (hstart : i.operation ≠ .start) (hupdate : i.operation ≠ .update)
    (hop : i.operation ≠ .stop) (hmeets : g.meets i.ports = true) :
    aggregatePortStates (i.actedPortStates g) ≠ .stopped := by
  intro hstopped
  obtain ⟨p, hp, hport⟩ := List.any_eq_true.mp hmeets
  have hport := of_decide_eq_true hport
  have hvalue : i.operation.target ∈ (i.actedPortStates g).values := by
    refine Dict.mem_values.mpr ⟨p, ?_⟩
    rw [Dict.lookup_updateKeys, if_pos (List.mem_filter.mpr ⟨hp, decide_eq_true hport⟩),
      hi.desired hstart hupdate hport]
  have htarget := aggregatePortStates_stopped_iff.mp hstopped _ hvalue
  cases h : i.operation with
  | start => exact hstart h
  | update => exact hupdate h
  | stop => exact hop h
  | pause => rw [h] at htarget; cases htarget
  | resume => rw [h] at htarget; cases htarget

theorem commandedCleanup_references {e : TrafficMutationEvidenceState}
    (hfresh : ∀ e' ∈ l, e'.intentNonce ≠ e.intentNonce) (hop : e.operation = .stop)
    (ports : List Port) :
    TrafficSessionGroupState.CleanupReferences (l ++ [e])
      (commandedCleanup e.completionMode e.completedAt ports e.intentNonce) := by
  intro nonce hnonce
  obtain rfl := Option.some.inj hnonce
  refine ⟨e, evidenceByNonce_append hfresh, hop, rfl, fun hcompletion => ?_,
    fun hcompletion => ?_⟩
  · unfold commandedCleanup at hcompletion
    dsimp only at hcompletion
    split at hcompletion
    · cases hcompletion
    · assumption
  · unfold commandedCleanup at hcompletion
    dsimp only at hcompletion
    split at hcompletion
    · assumption
    · cases hcompletion

theorem cleanActionGroup_stopped {i : TrafficMutationIntentState} {mode : TrafficCompletionMode}
    {now : Time} (h : g.state = .stopped ∧ g.cleanupEvidence = none) :
    cleanActionGroup i mode now g = { g with
      endedAt := some now
      cleanupEvidence := some (commandedCleanup mode now g.ports i.nonce) } := if_pos h

theorem cleanActionGroup_other {i : TrafficMutationIntentState} {mode : TrafficCompletionMode}
    {now : Time} (h : ¬(g.state = .stopped ∧ g.cleanupEvidence = none)) :
    cleanActionGroup i mode now g = g := if_neg h

theorem acceptedEdit_act {i : TrafficMutationIntentState} {e : TrafficMutationEvidenceState}
    (hi : i.Valid) (hstart : i.operation ≠ .start) (hupdate : i.operation ≠ .update)
    (hnonce : e.intentNonce = i.nonce) (hoperation : e.operation = i.operation)
    (hfresh : ∀ e' ∈ l, e'.intentNonce ≠ e.intentNonce) (hvalid : g.Valid)
    (hg : g.Evidenced l)
    (hspares : i.operation ≠ .stop → g.cleanupEvidence ≠ none → g.meets i.ports = false) :
    AcceptedEdit (l ++ [e]) g (cleanActionGroup i e.completionMode e.completedAt
      (promoteActionGroup i e.completedAt g)) := by
  have hgrown : l <+: l ++ [e] := List.prefix_append _ _
  have hedit := (groupEdit_promoteAction i e.completedAt g).trans
    (groupEdit_cleanAction i e.completionMode e.completedAt _)
  have hclean : g.cleanupEvidence = none → g.endedAt = none ∧ g.cleanupEvidence = none := by
    intro hnone
    refine hg.active_clean fun hstopped => ?_
    obtain ⟨cleanup, hc, _⟩ := hg.stopped_cleanup hstopped
    exact absurd (hc.symm.trans hnone) (Option.some_ne_none _)
  by_cases hmeets : g.meets i.ports = true
  · have hacted : promoteActionGroup i e.completedAt g = { g with
        portStates := i.actedPortStates g
        state := aggregatePortStates (i.actedPortStates g)
        hardStopAt :=
          if aggregatePortStates (i.actedPortStates g) = .stopped then none else g.hardStopAt
        updatedAt := e.completedAt } := if_pos hmeets
    rw [hacted] at hedit ⊢
    by_cases hstops : aggregatePortStates (i.actedPortStates g) = .stopped
        ∧ g.cleanupEvidence = none
    · rw [cleanActionGroup_stopped (g := { g with
        portStates := i.actedPortStates g
        state := aggregatePortStates (i.actedPortStates g)
        hardStopAt :=
          if aggregatePortStates (i.actedPortStates g) = .stopped then none else g.hardStopAt
        updatedAt := e.completedAt }) hstops] at hedit ⊢
      refine .of_state hedit hvalid hg hgrown (keys_actedPortStates i hvalid) rfl
        (fun _ _ => ⟨_, rfl, rfl, rfl, ?_⟩) fun hrunning => absurd hstops.1 hrunning
      have hop : i.operation = .stop := by
        by_contra hop
        exact aggregate_acted_active hi hstart hupdate hop hmeets hstops.1
      rw [← hnonce]
      exact commandedCleanup_references hfresh (hoperation.trans hop) g.ports
    · rw [cleanActionGroup_other (g := { g with
        portStates := i.actedPortStates g
        state := aggregatePortStates (i.actedPortStates g)
        hardStopAt :=
          if aggregatePortStates (i.actedPortStates g) = .stopped then none else g.hardStopAt
        updatedAt := e.completedAt }) hstops] at hedit ⊢
      refine .of_state hedit hvalid hg hgrown (keys_actedPortStates i hvalid) rfl
        (fun hstopped hnone => absurd ⟨hstopped, hnone⟩ hstops) fun hrunning => hclean ?_
      by_contra hcleanup
      -- the run had ended: a stop leaves it at rest, nothing else reaches it
      by_cases hop : i.operation = .stop
      · refine hrunning (aggregate_acted_stop hi hop hvalid ?_)
        by_contra hactive
        exact hcleanup (hg.active_clean hactive).2
      · rw [hspares hop hcleanup] at hmeets
        cases hmeets
  · have hacted : promoteActionGroup i e.completedAt g = g := if_neg hmeets
    rw [hacted, cleanActionGroup_other fun hstops => ?_]
    · exact .refl hgrown hvalid hg
    · obtain ⟨cleanup, hc, _⟩ := hg.stopped_cleanup hstops.1
      exact absurd (hc.symm.trans hstops.2) (Option.some_ne_none _)

end

/-! ## Sessions after a promotion -/

section

variable {i : TrafficMutationIntentState} {e : TrafficMutationEvidenceState}
  {started : TrafficSessionGroupState} {s : TrafficSessionState}

structure TrafficMutationIntentState.Evidences (i : TrafficMutationIntentState)
    (e : TrafficMutationEvidenceState) : Prop where
  nonce : e.intentNonce = i.nonce
  operation : e.operation = i.operation
  ports : e.ports = i.ports

theorem TrafficMutationIntentState.Evidences.fresh (he : i.Evidences e) (hi : i.Follows)
    (hs : i.sessionBefore = some s) :
    ∀ e' ∈ s.mutationEvidence, e'.intentNonce ≠ e.intentNonce := by
  intro e' he' hsame
  have hlt := (hi.fresh s hs).2 e' he'
  rw [hsame, he.nonce] at hlt
  exact absurd hlt (lt_irrefl _)

/-- The start intent of a run that a plan or a caller asked for. -/
structure StartsRun (i : TrafficMutationIntentState) (started : TrafficSessionGroupState) :
    Prop where
  valid : i.Valid
  operation : i.operation = .start
  follows : i.Follows
  group : i.startGroup = some started

namespace StartsRun

theorem source (h : StartsRun i started) : i.startSource.isSome = true :=
  Option.isSome_iff_ne_none.mpr (h.follows.start h.operation).1

theorem startValid (h : StartsRun i started) : i.StartValid := by
  have hvalid := h.valid.operation_valid
  unfold TrafficMutationIntentState.OperationValid at hvalid
  rw [h.operation] at hvalid
  exact hvalid

theorem started_exact (h : StartsRun i started) : started.Valid ∧ i.PlanIdentity started
    ∧ started.ports.toFinset = i.ports.toFinset ∧ started.portStates.values = {.running} := by
  obtain ⟨g, hg, hrest⟩ := h.startValid.group
  obtain rfl := Option.some.inj (h.group.symm.trans hg)
  exact hrest

theorem promoted_eq (h : StartsRun i started) (now : Time) :
    promotedGroup i started e now = { started with
      runId := some i.nonce
      source := i.startSource
      planRevision := i.startPlanRevision
      profileSha256 := i.startProfileSha256
      startMultiplier := some started.multiplier
      startForce := i.startForce
      startTotal := i.startTotal
      startSynchronized := i.startSynchronized
      startClearExisting := i.startClearExisting
      startedAt := some now
      endedAt := none
      startEvidence := some e
      cleanupEvidence := none
      updatedAt := now } := if_pos h.source

theorem promoted_valid (h : StartsRun i started) (now : Time) :
    (promotedGroup i started e now).Valid := by
  have hvalid := h.started_exact.1
  rw [h.promoted_eq]
  refine ⟨hvalid.ports_nonempty, hvalid.ports_unique, fun m hm => ?_, hvalid.portStates_exact,
    hvalid.state_aggregates⟩
  obtain rfl := Option.some.inj hm
  exact (h.follows.start h.operation).2 started h.group

theorem promoted_evidenced (h : StartsRun i started) (he : i.Evidences e) (now : Time)
    {l : List TrafficMutationEvidenceState}
    (hfound : evidenceByNonce l e.intentNonce = some e) :
    (promotedGroup i started e now).Evidenced l := by
  have hflags := h.startValid.flags
  have hrunning := promotedGroup_running h.valid h.operation h.group e now
  have hplan := h.started_exact.2.1
  unfold TrafficMutationIntentState.PlanIdentity at hplan
  rw [h.promoted_eq] at hrunning ⊢
  refine ⟨⟨Option.some_ne_none _, (h.follows.start h.operation).1, h.startValid.profile,
      Option.some_ne_none _, hflags.2.1, hflags.2.2.1, hflags.2.2.2, hflags.1,
      Option.some_ne_none _⟩, fun hsource => ?_, fun hsource => ?_,
    ⟨e, rfl, he.operation.trans h.operation, congrArg some he.nonce, ?_, hfound⟩,
    fun hstopped => ?_, fun _ => ⟨rfl, rfl⟩⟩
  · rw [show i.startSource = some .plan from hsource] at hplan
    exact ⟨hplan.2, hplan.1⟩
  · cases hsome : i.startSource with
    | none => exact absurd hsome (h.follows.start h.operation).1
    | some source =>
        cases source with
        | plan => exact absurd hsome hsource
        | adHoc =>
            rw [hsome] at hplan
            exact ⟨hplan.2, hplan.1⟩
  · rw [he.ports]
    exact h.started_exact.2.2.1.symm
  · rw [hrunning] at hstopped
    cases hstopped

theorem promoted_ports (h : StartsRun i started) (now : Time) :
    (promotedGroup i started e now).ports.toFinset = i.ports.toFinset := by
  rw [h.promoted_eq]
  exact h.started_exact.2.2.1

theorem promoted_runId (h : StartsRun i started) (he : i.Evidences e) (now : Time) :
    (promotedGroup i started e now).runId = some e.intentNonce := by
  rw [h.promoted_eq, he.nonce]

theorem created_valid (h : StartsRun i started) (he : i.Evidences e)
    (authority : RuntimeAuthorityIdentity) (now : Time) :
    (createdSession i authority (promotedGroup i started e now) e now).Valid := by
  have hfound : evidenceByNonce [e] e.intentNonce = some e :=
    evidenceByNonce_append (l := []) fun _ he' => (nomatch he')
  have hstart : e.operation = .start := he.operation.trans h.operation
  unfold createdSession
  rw [if_pos h.source, if_pos h.source, if_pos h.source]
  refine ⟨fun g hg => ?_, List.pairwise_singleton _ _, rfl, fun hnone => (nomatch hnone),
    fun _ => ⟨le_refl 1, List.nodup_singleton _, ⟨e, rfl, hstart, he.nonce⟩, fun g hg => ?_,
      fun _ hg => (nomatch hg), ?_⟩⟩
  · obtain rfl := List.mem_singleton.mp hg
    exact h.promoted_valid now
  · obtain rfl := List.mem_singleton.mp hg
    exact h.promoted_evidenced he now hfound
  · change ([promotedGroup i started e now].map (·.runId)).toFinset = _
    rw [List.map_singleton, h.promoted_runId he, List.filter_singleton, hstart]
    rfl

theorem joined_valid (h : StartsRun i started) (he : i.Evidences e) (hs : s.Valid)
    (hmanaged : s.Managed) (hbefore : i.sessionBefore = some s)
    (hrest : ∀ g ∈ s.groups, g.meets i.ports = true → g.state = .stopped) (now : Time) :
    (joinedSession i (promotedGroup i started e now) e now s).Valid := by
  have hfresh := he.fresh h.follows hbefore
  have hstart : e.operation = .start := he.operation.trans h.operation
  have hold := hs.evidenced (by rw [hmanaged.version]; exact Option.some_ne_none _)
  have hgrown : s.mutationEvidence <+: s.mutationEvidence ++ [e] := List.prefix_append _ _
  -- the groups of the session are the earlier ones and the promoted one
  have hgroups : ∀ g, g ∈ (joinedSession i (promotedGroup i started e now) e now s).allGroups ↔
      g ∈ s.allGroups ∨ g = promotedGroup i started e now := by
    intro g
    unfold TrafficSessionState.allGroups joinedSession
    simp only [List.mem_append, List.mem_filter, List.mem_singleton]
    cases g.meets i.ports <;> simp <;> tauto
  refine ⟨fun g hg => ?_, ?_, rfl, fun hnone => ?_, fun _ => ⟨Nat.succ_pos _, ?_, ?_,
    fun g hg => ?_, fun g hg => ?_, ?_⟩⟩
  · rcases (hgroups g).mp hg with hg | rfl
    · exact hs.groups_valid g hg
    · exact h.promoted_valid now
  · refine List.pairwise_append.mpr ⟨hs.ports_disjoint.filter _, List.pairwise_singleton _ _,
      fun g hg g' hg' p hp hp' => ?_⟩
    obtain rfl := List.mem_singleton.mp hg'
    have hport : p ∈ i.ports := by
      rw [← List.mem_toFinset, ← h.promoted_ports (e := e) now]
      exact List.mem_toFinset.mpr hp'
    have hmeets : g.meets i.ports = true := List.any_eq_true.mpr ⟨p, hp, decide_eq_true hport⟩
    have hkept := (List.mem_filter.mp hg).2
    rw [hmeets] at hkept
    cases hkept
  · exact absurd (hmanaged.version.symm.trans hnone) (Option.some_ne_none _)
  · exact nonces_unique_append hold.nonces_unique hfresh
  · obtain ⟨first, hfirst, hrest⟩ := hold.begins_with_start
    refine ⟨first, ?_, hrest⟩
    change (s.mutationEvidence ++ [e]).head? = some first
    rw [List.head?_append, hfirst]
    rfl
  · rcases (hgroups g).mp hg with hg | rfl
    · have hevidenced := hold.groups_evidenced g hg
      exact hevidenced.edited (.refl g) hgrown (hevidenced.settled.mono hgrown)
    · exact h.promoted_evidenced he now (evidenceByNonce_append hfresh)
  · rcases List.mem_append.mp hg with hg | hg
    · exact hold.completed_stopped g hg
    · exact hrest g (List.mem_filter.mp hg).1 (List.mem_filter.mp hg).2
  · change _ = (((s.mutationEvidence ++ [e]).filter (·.operation = .start)).map
      fun e => some e.intentNonce).toFinset
    rw [List.filter_append, List.map_append, List.toFinset_append, ← hold.starts_exact,
      List.filter_singleton, hstart]
    ext run
    simp only [Finset.mem_union, List.mem_toFinset, List.mem_map, hgroups]
    constructor
    · rintro ⟨g, hg | rfl, rfl⟩
      · exact .inl ⟨g, hg, rfl⟩
      · exact .inr ⟨e, List.mem_singleton_self e, (h.promoted_runId he now).symm⟩
    · rintro (⟨g, hg, rfl⟩ | ⟨e', he', rfl⟩)
      · exact ⟨g, .inl hg, rfl⟩
      · obtain rfl := List.mem_singleton.mp he'
        exact ⟨_, .inr rfl, h.promoted_runId he now⟩

end StartsRun

theorem promoteMutation_valid {authority : RuntimeAuthorityIdentity} {owned : Option Uuid}
    {s' : TrafficSessionState} (hi : i.Valid) (hfollows : i.Follows) (he : i.Evidences e)
    (hs : s.Valid) (hmanaged : s.Managed) (hbefore : i.sessionBefore = some s)
    (hstart : i.operation ≠ .start)
    (hspares : i.operation = .pause ∨ i.operation = .resume →
      ∀ g ∈ s.groups, g.cleanupEvidence ≠ none → g.meets i.ports = false)
    (h : promoteMutation i authority e.completionMode owned e e.completedAt (some s) = .ok s') :
    s'.Valid := by
  have hold := hs.evidenced (by rw [hmanaged.version]; exact Option.some_ne_none _)
  have hfresh := he.fresh hfollows hbefore
  obtain ⟨_, hb, hedit⟩ := sessionEdit_promoteMutation h
  obtain rfl := Option.some.inj hb
  have hevidenced : ∀ g ∈ s.groups, g.Evidenced s.mutationEvidence := fun g hg =>
    hold.groups_evidenced g (List.mem_append_left _ hg)
  have hgroups : ∀ g ∈ s.groups, g.Valid := fun g hg =>
    hs.groups_valid g (List.mem_append_left _ hg)
  have hgrown : Appended s.mutationEvidence (s.mutationEvidence ++ [e]) :=
    .single hold.nonces_unique hfresh (he.operation ▸ hstart)
  have hrevision : ∀ edited,
      1 ≤ (finishedSession i e e.completedAt s edited).revision := fun edited => by
    unfold finishedSession
    rw [if_pos hmanaged.version]
    exact Nat.succ_pos _
  have hevidence : ∀ edited, (finishedSession i e e.completedAt s edited).mutationEvidence
      = s.mutationEvidence ++ [e] := fun edited => by
    unfold finishedSession
    exact if_pos hmanaged.version
  obtain ⟨_, hb, _, _, _, hcase⟩ := promoteMutation_ok h
  obtain rfl := Option.some.inj hb
  rcases hcase with ⟨_, multiplier, _, _, rfl⟩ | ⟨hupdate, _, rfl⟩
  · refine hs.edited (f := promoteUpdateGroup i multiplier e.completedAt) hmanaged hedit rfl
      (fun g hg => ?_) ?_ (hrevision _) ?_
    · rw [hevidence]
      exact acceptedEdit_promoteUpdate (hgroups g hg) (hevidenced g hg) hgrown.grown i multiplier _
    · -- an update changes no state
      have hstates : aggregateState (s.groups.map (promoteUpdateGroup i multiplier e.completedAt))
          = aggregateState s.groups := by
        unfold aggregateState
        rw [List.map_map]
        congr 2
        refine List.map_congr_left fun g _ => ?_
        change (promoteUpdateGroup i multiplier e.completedAt g).state = g.state
        unfold promoteUpdateGroup
        split <;> rfl
      exact hs.state_aggregates.trans hstates.symm
    · rw [hevidence]
      exact hgrown
  · have hacted : actedGroups i e.completionMode e.completedAt s = s.groups.map fun g =>
        cleanActionGroup i e.completionMode e.completedAt
          (promoteActionGroup i e.completedAt g) := by
      unfold actedGroups
      rw [if_pos hmanaged.version, List.map_map]
      rfl
    refine hs.edited (f := fun g => cleanActionGroup i e.completionMode e.completedAt
      (promoteActionGroup i e.completedAt g)) hmanaged hedit hacted (fun g hg => ?_) ?_
      (hrevision _) ?_
    · rw [hevidence]
      refine acceptedEdit_act hi hstart hupdate he.nonce he.operation hfresh (hgroups g hg)
        (hevidenced g hg) fun hstop => hspares ?_ g hg
      cases hop : i.operation with
      | start => exact absurd hop hstart
      | update => exact absurd hop hupdate
      | stop => exact absurd hop hstop
      | pause => exact .inl rfl
      | resume => exact .inr rfl
    · -- the cleanups change no state
      have hstates : aggregateState (actedGroups i e.completionMode e.completedAt s)
          = aggregateState (s.groups.map (promoteActionGroup i e.completedAt)) := by
        rw [hacted]
        unfold aggregateState
        rw [List.map_map, List.map_map]
        congr 2
        refine List.map_congr_left fun g _ => ?_
        change (cleanActionGroup i e.completionMode e.completedAt
          (promoteActionGroup i e.completedAt g)).state = _
        unfold cleanActionGroup
        split <;> rfl
      exact hstates.symm
    · rw [hevidence]
      exact hgrown

end

/-! ## Intents -/

theorem operationValid_of {i j : TrafficMutationIntentState} (hop : j.operation = i.operation)
    (hi : i.OperationValid) (hstart : i.operation = .start → i.StartValid → j.StartValid)
    (hupdate : i.operation = .update → i.UpdateValid → j.UpdateValid)
    (haction : ∀ state, i.operation ≠ .start → i.operation ≠ .update → i.ActionValid state →
      j.ActionValid state) : j.OperationValid := by
  unfold TrafficMutationIntentState.OperationValid at hi ⊢
  rw [hop]
  cases h : i.operation with
  | start => rw [h] at hi; exact hstart h hi
  | update => rw [h] at hi; exact hupdate h hi
  | stop => rw [h] at hi; exact haction _ (by rw [h]; decide) (by rw [h]; decide) hi
  | pause => rw [h] at hi; exact haction _ (by rw [h]; decide) (by rw [h]; decide) hi
  | resume => rw [h] at hi; exact haction _ (by rw [h]; decide) (by rw [h]; decide) hi

theorem retainIntent_valid {i : TrafficMutationIntentState} {s : TrafficSessionState}
    (hi : i.Valid) (hs : s.Valid) (hid : ∀ id, i.expectedSessionId = some id → s.id = id)
    (ports : List Port) : (retainIntent ports s i).Valid := by
  have hmem : ∀ {d : Dict Port PortState} {keys : List Port} {v : PortState},
      v ∈ (d.updateKeys keys fun _ => .stopped).values → v ∈ d.values ∨ v = .stopped := by
    intro d keys v hv
    obtain ⟨p, hp⟩ := Dict.mem_values.mp hv
    rw [Dict.lookup_updateKeys] at hp
    split at hp
    · exact .inr (Option.some.inj hp).symm
    · exact .inl (Dict.mem_values.mpr ⟨p, hp⟩)
  refine ⟨hi.ports_nonempty, hi.ports_unique, hi.acquired_unique, fun t ht => ?_, ?_, ?_, ?_, ?_,
    hi.acquired_within, hi.superseded, fun hnone => ?_, fun id hsome => ⟨s, rfl, ?_⟩, ?_⟩
  · obtain rfl := Option.some.inj ht
    exact hs
  · refine hi.baseline_covers.trans ?_
    change _ ⊆ (i.baselinePortStates.updateKeys ports _).keys
    rw [Dict.keys_updateKeys]
    exact Finset.subset_union_right
  · change (if i.operation = .update then _ else i.desiredPortStates).keys = i.ports.toFinset
    split
    · rw [Dict.keys_updateKeys, ← hi.desired_exact, Finset.union_eq_right]
      intro p hp
      have hmem := (List.mem_filter.mp (List.mem_toFinset.mp hp)).2
      exact Finmap.mem_keys.mpr (of_decide_eq_true hmem)
    · exact hi.desired_exact
  · intro hunknown
    rcases hmem hunknown with hold | hstopped
    · exact hi.baseline_known hold
    · cases hstopped
  · change .unknown ∉ (if i.operation = .update then _ else i.desiredPortStates).values
    split
    · intro hunknown
      rcases hmem hunknown with hold | hstopped
      · exact hi.desired_known hold
      · cases hstopped
    · exact hi.desired_known
  · change (if _ then none else i.expectedSessionId) = none at hnone
    split at hnone
    · rename_i hstart
      exact hstart.1
    · exact hi.unexpected_session hnone
  · change (if _ then none else i.expectedSessionId) = some id at hsome
    split at hsome
    · cases hsome
    · exact hid id hsome
  · have hdesired : i.operation ≠ .update →
        (retainIntent ports s i).desiredPortStates = i.desiredPortStates := fun h => if_neg h
    refine operationValid_of (i := i) (j := retainIntent ports s i) rfl
      hi.operation_valid (fun hop hv => ⟨hv.group, hv.profile, ?_, hv.flags, hv.streams, hv.no_update⟩)
      (fun hop hv => ⟨hv.no_start, hv.parameters, hv.multiplier_length, fun p hp => ?_⟩)
      fun state _ hop hv => ⟨hv.no_start, hv.no_update, ?_⟩
    · rw [hdesired (by rw [hop]; decide)]
      exact hv.desired_running
    · -- the baseline and the desired states are stopped on the same ports
      have hkey : p ∈ i.desiredPortStates := by
        rw [← Finmap.mem_keys, show i.desiredPortStates.keys = _ from hi.desired_exact]
        exact List.mem_toFinset.mpr hp
      change (if i.operation = .update then _ else i.desiredPortStates).lookup p
        = (i.baselinePortStates.updateKeys ports _).lookup p
      rw [if_pos hop, Dict.lookup_updateKeys, Dict.lookup_updateKeys]
      by_cases hport : p ∈ ports
      · rw [if_pos hport, if_pos (List.mem_filter.mpr ⟨hport, decide_eq_true hkey⟩)]
      · rw [if_neg hport, if_neg fun h => hport (List.mem_filter.mp h).1]
        exact hv.unchanged p hp
    · rw [hdesired hop]
      exact hv.desired_state

theorem advanced_valid {i : TrafficMutationIntentState} (hi : i.Valid)
    (hstart : i.operation = .start) {streams : Option (Dict Port (List Nat))}
    {stage : HardwareStage} (reconciliation : Option String)
    (hnone : streams = none → stage = .prepared ∨ stage = .acquireIntent)
    (hsome : ∀ ids, streams = some ids →
      ids.keys = i.ports.toFinset ∧ ∀ l ∈ ids.values, l.Nodup) :
    ({ i with
      baselineStreamIds := streams
      hardwareStage := stage
      reconciliation := reconciliation } : TrafficMutationIntentState).Valid := by
  refine ⟨hi.ports_nonempty, hi.ports_unique, hi.acquired_unique, hi.session_valid,
    hi.baseline_covers, hi.desired_exact, hi.baseline_known, hi.desired_known,
    hi.acquired_within, hi.superseded, hi.unexpected_session, hi.expected_session, ?_⟩
  exact operationValid_of (i := i) (j := { i with
      baselineStreamIds := streams, hardwareStage := stage, reconciliation := reconciliation })
    rfl hi.operation_valid
    (fun _ hv => ⟨hv.group, hv.profile, hv.desired_running, hv.flags, ⟨hnone, hsome⟩,
      hv.no_update⟩)
    (fun hop => absurd (hstart.symm.trans hop) (by decide)) fun _ hop => absurd hstart hop

theorem retained_valid {i : TrafficMutationIntentState} (hi : i.Valid) (phase : IntentPhase)
    (reconciliation : Option String) :
    ({ i with phase := phase, reconciliation := reconciliation } :
      TrafficMutationIntentState).Valid := by
  refine ⟨hi.ports_nonempty, hi.ports_unique, hi.acquired_unique, hi.session_valid,
    hi.baseline_covers, hi.desired_exact, hi.baseline_known, hi.desired_known,
    hi.acquired_within, hi.superseded, hi.unexpected_session, hi.expected_session, ?_⟩
  exact operationValid_of (i := i)
    (j := { i with phase := phase, reconciliation := reconciliation }) rfl hi.operation_valid
    (fun _ hv => ⟨hv.group, hv.profile, hv.desired_running, hv.flags, hv.streams, hv.no_update⟩)
    (fun _ hv => ⟨hv.no_start, hv.parameters, hv.multiplier_length, hv.unchanged⟩)
    fun _ _ _ hv => ⟨hv.no_start, hv.no_update, hv.desired_state⟩

/-! ## Documents -/

theorem pairId_injective : Function.Injective fun pair : Nat => s!"pair-{pair}" := by
  intro a b h
  have hdigits : "pair-" ++ Nat.repr a = "pair-" ++ Nat.repr b := h
  rw [String.append_right_inj] at hdigits
  have hlist := congrArg String.toList hdigits
  rw [Nat.toList_repr, Nat.toList_repr] at hlist
  rw [← Nat.ofDigitChars_ten_toDigits (n := a), hlist, Nat.ofDigitChars_ten_toDigits]

theorem defaultGroups_exact (limit : Nat) (path : String) :
    ((defaultGroups limit path).map (·.id)).Nodup
      ∧ (defaultGroups limit path).Pairwise fun g h => ∀ p ∈ g.ports, p ∉ h.ports := by
  unfold defaultGroups
  constructor
  · rw [List.map_map]
    exact List.nodup_range.map pairId_injective
  · rw [List.pairwise_map]
    refine List.nodup_range.imp fun {a b} hne (p : Nat) hp hp' => hne ?_
    have ha : p = 2 * a ∨ p = 2 * a + 1 := List.mem_pair.mp hp
    have hb : p = 2 * b ∨ p = 2 * b + 1 := List.mem_pair.mp hp'
    omega
theorem RuntimeStateDocument.Valid.traffic (h : d.Valid) {session : Option TrafficSessionState}
    {intent : Option TrafficMutationIntentState} (hs : ∀ s, session = some s → s.Valid)
    (hi : ∀ i, intent = some i → i.Valid ∧ i.sessionBefore = session) :
    ({ d with trafficSession := session, trafficMutationIntent := intent } :
      RuntimeStateDocument).Valid :=
  ⟨h.leases_valid, h.capture_ids_unique, h.one_pending_capture, h.plan_valid, h.plan_ids_unique,
    h.plan_ports_disjoint, hs, hi⟩

theorem RuntimeStateDocument.Valid.plan (h : d.Valid) {groups : List TrafficGroupState}
    {revision : Nat} (hvalid : ∀ g ∈ groups, g.Valid) (hids : (groups.map (·.id)).Nodup)
    (hdisjoint : groups.Pairwise fun g h => ∀ p ∈ g.ports, p ∉ h.ports) :
    ({ d with trafficGroups := groups, trafficPlanRevision := revision } :
      RuntimeStateDocument).Valid :=
  ⟨h.leases_valid, h.capture_ids_unique, h.one_pending_capture, hvalid, hids, hdisjoint,
    h.session_valid, h.intent_valid⟩

theorem stamp_valid {before : RuntimeStateDocument} {now : Time} :
    (stamp before c now).Valid ↔ c.Valid :=
  ⟨fun h => ⟨h.leases_valid, h.capture_ids_unique, h.one_pending_capture, h.plan_valid,
      h.plan_ids_unique, h.plan_ports_disjoint, h.session_valid, h.intent_valid⟩,
    fun h => ⟨h.leases_valid, h.capture_ids_unique, h.one_pending_capture, h.plan_valid,
      h.plan_ids_unique, h.plan_ports_disjoint, h.session_valid, h.intent_valid⟩⟩

section

variable {s : TrafficSessionState}

theorem evidenced_groups (hs : s.Valid) (hmanaged : s.Managed) :
    ∀ g ∈ s.groups, g.Valid ∧ g.Evidenced s.mutationEvidence := fun g hg =>
  ⟨hs.groups_valid g (List.mem_append_left _ hg),
    hs.evidenced_of_mem hmanaged.version (List.mem_append_left _ hg)⟩

theorem appended_refl (hs : s.Valid) (hmanaged : s.Managed) :
    Appended s.mutationEvidence s.mutationEvidence :=
  .refl (hs.evidenced (by rw [hmanaged.version]; exact Option.some_ne_none _)).nonces_unique

theorem positive_revision (hs : s.Valid) (hmanaged : s.Managed) : 1 ≤ s.revision :=
  (hs.evidenced (by rw [hmanaged.version]; exact Option.some_ne_none _)).positive_revision

theorem retiredSession_valid (hs : s.Valid) (hmanaged : s.Managed) (now : Time) :
    (retiredSession now s).Valid := by
  have hversion : decide (s.evidenceVersion = some .one) = true := decide_eq_true hmanaged.version
  have hgroups : (retiredSession now s).groups = s.groups.map (retireGroup true now) := by
    rw [← hversion]
    rfl
  refine hs.edited hmanaged (sessionEdit_retired now s) hgroups (fun g hg => ?_) ?_ ?_
    (appended_refl hs hmanaged)
  · obtain ⟨hvalid, hevidenced⟩ := evidenced_groups hs hmanaged g hg
    exact acceptedEdit_retire hvalid hevidenced now
  · refine (aggregateState_stopped_iff.mpr fun g' hg' => ?_).symm
    obtain ⟨g, hg, rfl⟩ := List.mem_map.mp (hgroups ▸ hg')
    have hsame := observedStopped_same true now
      (if g.state ≠ .stopped ∨ g.portStates ≠ g.stoppedStates ∨ g.hardStopAt ≠ none then
        { g with
          state := .stopped, portStates := g.stoppedStates, hardStopAt := none,
          updatedAt := now }
      else g)
    refine hsame.1.trans ?_
    split
    · rfl
    · rename_i hsame
      rw [not_or, not_not] at hsame
      exact hsame.1
  · have hpositive := positive_revision hs hmanaged
    change 1 ≤ (if _ then s.revision + 1 else s.revision)
    split
    · exact Nat.succ_pos _
    · exact hpositive

theorem rolledOverSession_valid (hs : s.Valid) (hmanaged : s.Managed)
    (authority : RuntimeAuthorityIdentity) (now : Time) :
    (rolledOverSession authority now s).Valid := by
  have hedit := sessionEdit_rolledOver authority now s
  unfold rolledOverSession at hedit ⊢
  split at hedit
  · rename_i hauthority
    rw [if_pos hauthority]
    rw [decide_eq_true hmanaged.version] at hedit ⊢
    refine hs.edited (f := rolloverGroup true now) hmanaged hedit rfl (fun g hg => ?_) ?_
      (Nat.succ_pos _) (appended_refl hs hmanaged)
    · obtain ⟨hvalid, hevidenced⟩ := evidenced_groups hs hmanaged g hg
      exact acceptedEdit_rollover hvalid hevidenced now
    · refine (aggregateState_stopped_iff.mpr fun g' hg' => ?_).symm
      obtain ⟨g, _, rfl⟩ := List.mem_map.mp hg'
      exact (observedStopped_same true now _).1
  · rename_i hauthority
    rw [if_neg hauthority]
    exact hs

theorem retainedSession_valid (hs : s.Valid) (hmanaged : s.Managed)
    (intent : TrafficMutationIntentState) (leaseIdentity : List (List Port × Option Time))
    (now : Time) : (retainedSession intent leaseIdentity now s).Valid := by
  refine hs.edited hmanaged (sessionEdit_retained intent leaseIdentity now s) rfl
    (fun g hg => ?_) rfl (Nat.succ_pos _) (appended_refl hs hmanaged)
  obtain ⟨hvalid, hevidenced⟩ := evidenced_groups hs hmanaged g hg
  rw [decide_eq_true hmanaged.version]
  split
  · exact acceptedEdit_retainStopped hvalid hevidenced now
  · exact .refl (List.prefix_refl _) hvalid hevidenced

theorem reconciledSession_valid (hs : s.Valid) (hmanaged : s.Managed) (owned : Bool)
    (live : Dict Port PortState) (now : Time) (endedAt : Option Time)
    (reconciliation : Option String) :
    ({ s with
      groups := s.groups.map (reconcileGroup true owned live now)
      state := aggregateState (s.groups.map (reconcileGroup true owned live now))
      updatedAt := now
      endedAt := endedAt
      revision := s.revision + 1
      reconciliation := reconciliation } : TrafficSessionState).Valid := by
  refine hs.edited (f := reconcileGroup true owned live now) hmanaged
    ⟨rfl, rfl, rfl, rfl, forall₂_map _ (groupEdit_reconcile true owned live now)⟩ rfl
    (fun g hg => ?_) rfl (Nat.succ_pos _) (appended_refl hs hmanaged)
  obtain ⟨hvalid, hevidenced⟩ := evidenced_groups hs hmanaged g hg
  exact acceptedEdit_reconcile hvalid hevidenced owned live now

end

/-! ## Writes -/

/-- The write keeps to what the validators accept: a pause or resume that is promoted meets
no group whose run has ended, and the paths of a new plan fit. -/
def Mutation.Regular (d : RuntimeStateDocument) : Mutation → Prop
  | .promote _ _ _ _ _ _ => ∀ i ∈ d.trafficMutationIntent, ∀ s ∈ d.trafficSession,
      i.operation = .pause ∨ i.operation = .resume →
        ∀ g ∈ s.groups, g.cleanupEvidence ≠ none → g.meets i.ports = false
  | .replace _ groups => ∀ g ∈ groups, 1 ≤ g.profilePath.length ∧ g.profilePath.length ≤ 1024
  | _ => True

theorem evidences_of_evidence {i : TrafficMutationIntentState} {mode : TrafficCompletionMode}
    {now : Time} {e : TrafficMutationEvidenceState} (h : i.evidence mode now = .ok e) :
    i.Evidences e ∧ e.completionMode = mode ∧ e.completedAt = now := by
  obtain ⟨hnonce, hoperation, hmode, hports, hnow⟩ := TrafficMutationIntentState.evidence_ok h
  exact ⟨⟨hnonce, hoperation, hports⟩, hmode, hnow⟩

theorem valid_of_write (hm : Admissible d m) (happly : m.apply d = .ok (some c))
    (h : Consistent d) (hregular : m.Regular d) : c.Valid := by
  have hvalid := h.valid
  cases m with
  | clearStopped id =>
      obtain ⟨s, hs, _, ⟨g, hg, hstopped, hlease⟩, _⟩ := clearStopped_some happly
      exact absurd ((h.session s hs).unleased g (List.mem_append_left _ hg) hstopped) hlease
  | retire id nonce now =>
      obtain rfl := retire_some happly
      refine hvalid.traffic (fun s' hs' => ?_) fun _ hnone => (nomatch hnone)
      obtain ⟨s, hs, rfl⟩ := Option.map_eq_some_iff.mp hs'
      exact retiredSession_valid (h.session_valid hs) (h.session s hs) now
  | retainAfterStop session intent identity ports now =>
      obtain ⟨hs, hi, hbefore, _, rfl⟩ := retainAfterStop_some happly
      have hnew := retainedSession_valid (h.session_valid hs) (h.session session hs) intent
        identity now
      refine hvalid.traffic (fun s' hs' => ?_) fun i' hi' => ?_
      · obtain rfl := Option.some.inj hs'
        exact hnew
      · obtain rfl := Option.some.inj hi'
        refine ⟨retainIntent_valid (h.intent_valid hi) hnew (fun id hid => ?_) ports, rfl⟩
        obtain ⟨t, ht, hsame⟩ := (h.intent_valid hi).expected_session id hid
        obtain rfl := Option.some.inj (hbefore.symm.trans ht)
        exact hsame
  | supersede session intent authority identity observedAt hardStop =>
      obtain ⟨_, _, _, _, rfl⟩ := supersede_some happly
      refine hvalid.traffic hvalid.session_valid fun i' hi' => ?_
      obtain rfl := Option.some.inj hi'
      exact ⟨SupersedingStop.valid hm, SupersedingStop.session hm⟩
  | replace revision groups =>
      obtain ⟨_, rfl⟩ := replace_some happly
      obtain ⟨hids, hdisjoint, hgroups⟩ := hm
      refine hvalid.plan (fun g hg => ?_) hids hdisjoint
      obtain ⟨path, hpath⟩ := hgroups g hg
      exact ⟨hpath.id_length, hpath.id_pattern, hpath.name_length, hpath.ports_nonempty,
        hpath.ports_unique, hregular g hg, hpath.multiplier_length, hpath.duration_bound⟩
  | initializePlan groups =>
      obtain rfl := initializePlan_some happly
      obtain ⟨⟨limit, path, rfl⟩, hgroups⟩ := hm
      exact hvalid.plan hgroups (defaultGroups_exact limit path).1
        (defaultGroups_exact limit path).2
  | prepare intent owned =>
      obtain ⟨_, hsession, _, _, rfl⟩ := prepare_some happly
      refine hvalid.traffic hvalid.session_valid fun i' hi' => ?_
      obtain rfl := Option.some.inj hi'
      exact ⟨Prepared.valid hm, hsession.symm⟩
  | advance nonce stage ids budget =>
      obtain ⟨i, hi, _, hop, ⟨_, rfl⟩ | ⟨_, streams, hstreams, rfl⟩⟩ := advance_some happly
      · exact hvalid
      · have hbefore := h.sessionBefore hi
        refine hvalid.traffic hvalid.session_valid fun i' hi' => ?_
        obtain rfl := Option.some.inj hi'
        refine ⟨advanced_valid (h.intent_valid hi) hop _ (fun hnone => ?_) fun sampled hsome => ?_,
          hbefore⟩
        · rcases hstreams with ⟨_, _, _, rfl, _⟩ | ⟨hstage, _, hlate⟩
          · cases hnone
          · cases stage with
            | prepared => exact .inl rfl
            | acquireIntent => exact .inr rfl
            | acquired => exact absurd rfl hstage
            | _ => exact absurd hnone (hlate (by decide))
        · rcases hstreams with ⟨_, ids', hids, rfl, hkeys⟩ | ⟨_, rfl, _⟩
          · obtain rfl := Option.some.inj hsome
            exact ⟨hkeys, hm _ hids⟩
          · have hstart := (h.intent_valid hi).operation_valid
            unfold TrafficMutationIntentState.OperationValid at hstart
            rw [hop] at hstart
            exact hstart.streams.2 sampled hsome
  | retain nonce reason =>
      obtain ⟨i, hi, _, rfl⟩ := retain_some happly
      have hbefore := h.sessionBefore hi
      refine hvalid.traffic hvalid.session_valid fun i' hi' => ?_
      obtain rfl := Option.some.inj hi'
      exact ⟨retained_valid (h.intent_valid hi) _ _, hbefore⟩
  | clear nonce session =>
      obtain ⟨_, _, rfl⟩ := clear_some happly
      exact hvalid.traffic hvalid.session_valid fun _ hnone => (nomatch hnone)
  | retireAfterRollover nonce authority now =>
      obtain ⟨_, _, _, _, _, rfl⟩ := retireAfterRollover_some happly
      refine hvalid.traffic (fun s' hs' => ?_) fun _ hnone => (nomatch hnone)
      obtain ⟨s, hs, rfl⟩ := Option.map_eq_some_iff.mp hs'
      exact rolledOverSession_valid (h.session_valid hs) (h.session s hs) authority now
  | promote nonce operation authority mode owned now =>
      obtain ⟨i, e, t, hi, _, hoperation, _, hbefore, hevidence, hstart, hother, rfl⟩ :=
        promote_some happly
      obtain ⟨he, rfl, rfl⟩ := evidences_of_evidence hevidence
      refine hvalid.traffic (fun s' hs' => ?_) fun _ hnone => (nomatch hnone)
      obtain rfl := Option.some.inj hs'
      by_cases hop : operation = .start
      · obtain ⟨started, hgroup, hcase⟩ := promoteStart_ok (hstart hop)
        have hstarts : StartsRun i started :=
          ⟨h.intent_valid hi, hoperation.trans hop, h.intent i hi, hgroup⟩
        rcases hcase with ⟨_, _, rfl⟩ | ⟨s, hs, _, _, _, _, hrest, rfl⟩
        · exact hstarts.created_valid he authority _
        · exact hstarts.joined_valid he (h.session_valid hs) (h.session s hs)
            (hbefore.symm.trans hs) hrest _
      · have hpromoted := hother hop
        obtain ⟨s, hs, _⟩ := promoteMutation_ok hpromoted
        rw [hs] at hpromoted
        exact promoteMutation_valid (h.intent_valid hi) (h.intent i hi) he (h.session_valid hs)
          (h.session s hs) (hbefore.symm.trans hs) (hoperation ▸ hop)
          (fun hactive => hregular i hi s hs hactive) hpromoted
  | persistReconciled id groups now reconciliation =>
      obtain ⟨s, hs, _, rfl⟩ := persistReconciled_some happly
      obtain ⟨hnone, t, owned, live, ht, _, rfl⟩ := hm
      obtain rfl := Option.some.inj (hs.symm.trans ht)
      rw [decide_eq_true (h.session s hs).version]
      refine hvalid.traffic (fun s' hs' => ?_) fun _ hsome => ?_
      · obtain rfl := Option.some.inj hs'
        exact reconciledSession_valid (h.session_valid hs) (h.session s hs) owned live now _ _
      · exact absurd (hnone.symm.trans hsome) (Option.some_ne_none _).symm

/-- A write that is not regular leads to a candidate that the validators refuse. -/
theorem regular_of_valid (happly : m.apply d = .ok (some c)) (h : Consistent d)
    (hc : c.Valid) : m.Regular d := by
  cases m with
  | promote nonce operation authority mode owned now =>
      intro i hi s hs hactive g hg hended
      obtain ⟨i', e, t, hi', _, hoperation, _, _, _, _, hother, rfl⟩ := promote_some happly
      obtain rfl := Option.some.inj (hi.symm.trans hi')
      have hstart : i.operation ≠ .start := by rcases hactive with h | h <;> rw [h] <;> decide
      have hstop : i.operation ≠ .stop := by rcases hactive with h | h <;> rw [h] <;> decide
      have hupdate : i.operation ≠ .update := by rcases hactive with h | h <;> rw [h] <;> decide
      by_contra hmeets
      rw [Bool.not_eq_false] at hmeets
      obtain ⟨before, hb, _, _, _, hcase⟩ := promoteMutation_ok (hother (hoperation ▸ hstart))
      obtain rfl := Option.some.inj (hs.symm.trans hb)
      obtain ⟨_, _, rfl⟩ := hcase.resolve_left fun hcase => hupdate hcase.1
      have hversion := (h.session s hs).version
      -- the group that is no longer at rest, with its cleanup
      have hacted : cleanActionGroup i mode now (promoteActionGroup i now g)
          ∈ actedGroups i mode now s := by
        unfold actedGroups
        rw [if_pos hversion, List.map_map]
        exact List.mem_map.mpr ⟨g, hg, rfl⟩
      have hstate : (cleanActionGroup i mode now (promoteActionGroup i now g)).state
          = aggregatePortStates (i.actedPortStates g) := by
        unfold promoteActionGroup
        rw [if_pos hmeets]
        unfold cleanActionGroup
        split <;> rfl
      have hkept := ((groupEdit_promoteAction i now g).trans
        (groupEdit_cleanAction i mode now _)).cleanup hended
      have hvalid : TrafficSessionState.Valid _ := hc.session_valid _ rfl
      have hevidenced := hvalid.evidenced_of_mem hversion
        (g := cleanActionGroup i mode now (promoteActionGroup i now g))
        (List.mem_append_left _ hacted)
      refine hended (hkept.1.symm.trans (hevidenced.active_clean ?_).2)
      rw [hstate]
      exact aggregate_acted_active (h.intent_valid hi) hstart hupdate hstop hmeets
  | replace revision groups =>
      obtain ⟨_, rfl⟩ := replace_some happly
      exact fun g hg => (hc.plan_valid g hg).path_length
  | _ => trivial

/-! ## Refused evidence

The validators also run on the evidence that a promotion builds.
-/

theorem evidence_exists {i : TrafficMutationIntentState} (hi : i.Valid)
    {mode : TrafficCompletionMode} (hmode : mode = .hardStop → i.operation = .stop) (now : Time) :
    ∃ e, i.evidence mode now = .ok e := by
  unfold TrafficMutationIntentState.evidence
  rw [dif_pos ⟨hi.ports_nonempty, hi.ports_unique, hi.acquired_unique, hmode, hi.baseline_covers,
    hi.desired_exact, hi.acquired_within⟩]
  exact ⟨_, rfl⟩

theorem promoteStart_ne_validation {i : TrafficMutationIntentState}
    {authority : RuntimeAuthorityIdentity} {owned : Option Uuid}
    {e : TrafficMutationEvidenceState} {now : Time} {existing : Option TrafficSessionState}
    (message : String) :
    promoteStart i authority owned e now existing ≠ .error (.validation message) := by
  intro h
  unfold promoteStart at h
  split at h
  · cases h
  · dsimp only at h
    split at h
    · cases h
    · split_ifs at h <;> cases h
    · split_ifs at h <;> cases h

theorem promoteMutation_ne_validation {i : TrafficMutationIntentState}
    {authority : RuntimeAuthorityIdentity} {mode : TrafficCompletionMode} {owned : Option Uuid}
    {e : TrafficMutationEvidenceState} {now : Time} {existing : Option TrafficSessionState}
    (message : String) :
    promoteMutation i authority mode owned e now existing ≠ .error (.validation message) := by
  intro h
  unfold promoteMutation at h
  split at h
  · cases h
  · split at h
    · cases h
    · split at h
      · split at h
        · cases h
        · split at h <;> cases h
      · split at h <;> cases h

theorem promote_ne_validation {nonce : Uuid} {operation : TrafficOperation}
    {authority : RuntimeAuthorityIdentity} {mode : TrafficCompletionMode} {owned : Option Uuid}
    {now : Time} (hmode : mode = .hardStop → operation = .stop) (h : Consistent d)
    (message : String) :
    promote nonce operation authority mode owned now d ≠ .error (.validation message) := by
  intro hrefused
  unfold promote at hrefused
  cases hi : d.trafficMutationIntent with
  | none => rw [hi] at hrefused; cases hrefused
  | some i =>
      rw [hi] at hrefused
      simp only at hrefused
      by_cases h1 : i.nonce ≠ nonce ∨ i.operation ≠ operation
      · rw [if_pos h1] at hrefused
        cases hrefused
      by_cases h2 : i.authority ≠ authority
      · rw [if_neg h1, if_pos h2] at hrefused
        cases hrefused
      by_cases h3 : d.trafficSession ≠ i.sessionBefore
      · rw [if_neg h1, if_neg h2, if_pos h3] at hrefused
        cases hrefused
      rw [if_neg h1, if_neg h2, if_neg h3] at hrefused
      rw [not_or, not_not, not_not] at h1
      obtain ⟨e, he⟩ := evidence_exists (h.intent_valid hi)
        (fun hhard => h1.2.trans (hmode hhard)) now
      rw [he] at hrefused
      simp only [bind, Except.bind] at hrefused
      split_ifs at hrefused
      · cases hstart : promoteStart i authority owned e now d.trafficSession with
        | ok session => rw [hstart] at hrefused; cases hrefused
        | error failure =>
            rw [hstart] at hrefused
            obtain rfl := Except.error.inj hrefused
            exact promoteStart_ne_validation message hstart
      · cases hother : promoteMutation i authority mode owned e now d.trafficSession with
        | ok session => rw [hother] at hrefused; cases hrefused
        | error failure =>
            rw [hother] at hrefused
            obtain rfl := Except.error.inj hrefused
            exact promoteMutation_ne_validation message hother

theorem assertStartSessionAuthority_ne_validation {authority : RuntimeAuthorityIdentity}
    {expected owned : Option Uuid} (message : String) :
    assertStartSessionAuthority d authority expected owned ≠ .error (.validation message) := by
  intro h
  unfold assertStartSessionAuthority at h
  split_ifs at h
  · cases h
  · split at h
    · cases h
    · split_ifs at h
      cases h
    · cases h
    · split_ifs at h <;> cases h

theorem apply_ne_validation (hm : Admissible d m) (h : Consistent d) (message : String) :
    m.apply d ≠ .error (.validation message) := by
  intro hrefused
  cases m with
  | promote nonce operation authority mode owned now =>
      exact promote_ne_validation hm h message hrefused
  | clearStopped id =>
      change clearStopped id d = _ at hrefused
      unfold clearStopped at hrefused
      split at hrefused
      · cases hrefused
      · dsimp only at hrefused
        split_ifs at hrefused
  | retire id nonce now =>
      change retire id nonce now d = _ at hrefused
      unfold retire at hrefused
      split_ifs at hrefused
      cases hrefused
  | retainAfterStop session intent identity ports now =>
      change retainAfterStop session intent identity ports now d = _ at hrefused
      unfold retainAfterStop at hrefused
      split_ifs at hrefused <;> cases hrefused
  | supersede session intent authority identity observedAt hardStop =>
      change supersede session intent authority identity observedAt hardStop d = _ at hrefused
      unfold supersede at hrefused
      dsimp only at hrefused
      split_ifs at hrefused <;> cases hrefused
  | replace revision groups =>
      change replace revision groups d = _ at hrefused
      unfold replace at hrefused
      split at hrefused
      · cases hrefused
      · split at hrefused
        · cases hrefused
        · dsimp only at hrefused
          split_ifs at hrefused
          cases hrefused
  | initializePlan groups =>
      change initializePlan groups d = _ at hrefused
      unfold initializePlan at hrefused
      split_ifs at hrefused
  | prepare intent owned =>
      change prepare intent owned d = _ at hrefused
      unfold prepare at hrefused
      split_ifs at hrefused
      · cases hrefused
      · cases hrefused
      · split at hrefused
        · rename_i failure hfailure
          obtain rfl := Except.error.inj hrefused
          exact assertStartSessionAuthority_ne_validation message hfailure
        · cases hrefused
      · split at hrefused
        · cases hrefused
        · split_ifs at hrefused
          cases hrefused
  | advance nonce stage ids budget =>
      change advance nonce stage ids budget d = _ at hrefused
      unfold advance at hrefused
      split at hrefused
      · cases hrefused
      · split at hrefused
        · cases hrefused
        · split at hrefused
          · cases hrefused
          · split at hrefused
            · cases hrefused
            · dsimp only at hrefused
              split at hrefused
              · split at hrefused
                · cases hrefused
                · split at hrefused <;> cases hrefused
              · split at hrefused <;> cases hrefused
  | retain nonce reason =>
      change retain nonce reason d = _ at hrefused
      unfold retain at hrefused
      split at hrefused
      · cases hrefused
      · split_ifs at hrefused
  | clear nonce session =>
      change clear nonce session d = _ at hrefused
      unfold clear at hrefused
      split_ifs at hrefused <;> cases hrefused
  | retireAfterRollover nonce authority now =>
      change retireAfterRollover nonce authority now d = _ at hrefused
      unfold retireAfterRollover at hrefused
      split at hrefused
      · cases hrefused
      · split_ifs at hrefused <;> cases hrefused
  | persistReconciled id groups now reconciliation =>
      change persistReconciled id groups now reconciliation d = _ at hrefused
      unfold persistReconciled at hrefused
      split at hrefused
      · cases hrefused
      · split_ifs at hrefused

/-! ## Runs -/

/-- In every run from the empty document the validators refuse exactly the candidates of the
irregular writes, and no closure raises a validation error. -/
theorem candidates_refused_iff (env : TrafficEnvironment) (nonces : Nat)
    (log : List Consultation) (commands : List Command) :
    (∀ m before after moment,
      .wrote m before after moment ∈ runEffects env nonces log commands →
        m.Regular before.document)
      ∧ (∀ m before candidate moment,
        .rejected m before candidate moment ∈ runEffects env nonces log commands →
          ¬m.Regular before.document)
      ∧ ∀ newer older, runEffects env nonces log commands = newer ++ older →
          ∀ m, Admissible (documentAfter {} older) m → ∀ message,
            m.apply (documentAfter {} older) ≠ .error (.validation message) := by
  have hchained := runEffects_chained env nonces log commands
  refine ⟨fun m before after moment he => ?_, fun m before candidate moment he hregular => ?_,
    fun newer older hsplit m hm message => ?_⟩
  · obtain ⟨hreach, hwrites⟩ := hchained.wrote he
    obtain ⟨candidate, now, happly, hafter⟩ := hwrites.applies
    have hvalid := hwrites.valid
    rw [hafter, stamp_valid] at hvalid
    exact regular_of_valid happly hreach.consistent hvalid
  · obtain ⟨hreach, hproposes, hinvalid⟩ := hchained.rejected he
    obtain ⟨proposed, now, happly, rfl⟩ := hproposes.applies
    exact hinvalid (stamp_valid.mpr
      (valid_of_write hproposes.admissible happly hreach.consistent hregular))
  · rw [hsplit] at hchained
    exact apply_ne_validation hm hchained.earlier.reachable.consistent message

/-- A pause of a session with an ended run is refused once the hardware is paused. -/
theorem candidates_refused_pause :
    ¬∀ (env : TrafficEnvironment) (nonces : Nat) (log : List Consultation)
      (commands : List Command) (m : Mutation) (before : PersistedDocument)
      (candidate : RuntimeStateDocument) (moment : Moment),
      .rejected m before candidate moment ∉ runEffects env nonces log commands := by
  intro hlaw
  have hrefused : (endedEffects (.action .pause none (some ⟨0⟩))).any (fun
      | .rejected _ _ _ _ => true
      | _ => false) = true := by decide +kernel
  obtain ⟨e, he, hrejected⟩ := List.any_eq_true.mp hrefused
  cases e with
  | rejected m before candidate moment =>
      exact hlaw (Server.environment {}) 0 []
        (firstGroupEnded ++ [.action .pause none (some ⟨0⟩)]) m before candidate moment he
  | rpc call moment => cases hrejected
  | wrote m before after moment => cases hrejected

end TrexWebui
