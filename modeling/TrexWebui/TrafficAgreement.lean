import TrexWebui.TrafficEvidence
import TrexWebui.TrafficServer

/-!
# A recovery agrees with the hardware

When a recovery is done with an intent, what the document then says about the
groups that still run is what the sample showed, and the ports that the intent
did not target are as they were when it was prepared. The second half rests on
the invariant that the baseline of a pending intent agrees with the session it
was prepared for.
-/

namespace TrexWebui

open OracleProgram

def EndedBefore (before : RuntimeStateDocument) (g : TrafficSessionGroupState) : Prop :=
  ∃ s, before.trafficSession = some s ∧ ∃ earlier ∈ s.groups, earlier.runId = g.runId
    ∧ earlier.ports = g.ports ∧ earlier.cleanupEvidence ≠ none

/-- The intent is gone, and the document agrees with the sample. -/
structure Agrees (i : TrafficMutationIntentState) (configuredPorts : List Port)
    (live : Dict Port PortState) (before after : RuntimeStateDocument) : Prop where
  gone : after.trafficMutationIntent = none
  recorded : ∀ s', after.trafficSession = some s' → ∀ g ∈ s'.groups, ¬EndedBefore before g →
    ∀ p ∈ g.ports, g.portStates.getD p .unknown = live.getD p .unknown
  untargeted : ∀ p ∈ configuredPorts, p ∉ i.ports →
    live.getD p .unknown = i.baselinePortStates.getD p .unknown
  kept : ∀ s', after.trafficSession = some s' → ∀ g ∈ s'.groups, ¬EndedBefore before g →
    ∀ p ∈ g.ports, p ∉ i.ports →
      g.portStates.getD p .unknown = i.baselinePortStates.getD p .unknown

/-- The intent is still there, further on at most, and the session is the same. -/
structure Retained (i : TrafficMutationIntentState) (before after : RuntimeStateDocument) :
    Prop where
  intent : ∃ j, after.trafficMutationIntent = some j ∧ Advanced i j
  session : after.trafficSession = before.trafficSession

section

variable {d : RuntimeStateDocument} {i : TrafficMutationIntentState}
  {configuredPorts : List Port} {live : Dict Port PortState} {s : TrafficSessionState}
  {g : TrafficSessionGroupState} {p : Port} {w w' : TrafficWorld}

/-! ## The baseline -/

theorem aggregateState_ne_unknown {groups : List TrafficSessionGroupState}
    (h : aggregateState groups ≠ .unknown) (hg : g ∈ groups) : g.state ≠ .unknown := by
  intro hunknown
  refine h ?_
  have hmem : GroupState.unknown ∈ (groups.map (·.state)).toFinset :=
    List.mem_toFinset.mpr (List.mem_map.mpr ⟨g, hg, hunknown⟩)
  unfold aggregateState aggregateStates
  rw [if_neg (Finset.ne_empty_of_mem hmem), if_pos hmem]

theorem aggregatePortStates_ne_unknown {portStates : Dict Port PortState}
    (h : aggregatePortStates portStates ≠ .unknown) : .unknown ∉ portStates.values := by
  intro hunknown
  refine h ?_
  have hmem : GroupState.unknown ∈ portStates.values.image PortState.toGroupState :=
    Finset.mem_image.mpr ⟨.unknown, hunknown, rfl⟩
  unfold aggregatePortStates aggregateStates
  rw [if_neg (Finset.ne_empty_of_mem hmem), if_pos hmem]

/-- A port of a run that has not ended is configured, and recorded as the baseline of a
recoverable intent has it. -/
theorem recorded_baseline (h : Consistent d) (hi : d.trafficMutationIntent = some i)
    (hrecoverable : Recoverable i configuredPorts) (hs : d.trafficSession = some s)
    (hg : g ∈ s.groups) (hactive : g.cleanupEvidence = none) (hp : p ∈ g.ports) :
    p ∈ configuredPorts ∧ i.baselinePortStates.getD p .unknown = g.portStates.getD p .unknown := by
  have hbefore := (h.sessionBefore hi).trans hs
  have hsession := h.session_valid hs
  have hgroup := hsession.groups_valid g (List.mem_append_left _ hg)
  have hnot : i.NotSuperseding := by
    rcases (h.intent_valid hi).superseded with hnot | hsuper
    · exact hnot
    · have hordinary := hrecoverable.ordinary
      obtain ⟨hnonce, ⟨_, hop, _⟩, ⟨_, hports, _⟩, ⟨_, hreason, _⟩, hstop⟩ := hsuper
      unfold TrafficMutationIntentState.isHardStopSupersedingIntent at hordinary
      rw [hop, hports, hreason, hstop] at hordinary
      obtain ⟨n, hn⟩ := Option.ne_none_iff_exists'.mp hnonce
      rw [hn] at hordinary
      cases hordinary
  have hagrees := (h.intent i hi).agrees hnot s hbefore g hg hactive p hp
  refine ⟨?_, hagrees⟩
  -- the session is known, since a group of it still runs
  have hknown : s.state ≠ .unknown := by
    cases hid : i.expectedSessionId with
    | none =>
        rw [(h.intent i hi).unexpected hid s hbefore]
        decide
    | some id =>
        have hsafe := hrecoverable.session id hid
        unfold TrafficMutationIntentState.safelyRecoverable at hsafe
        rw [hbefore, Option.any_some, Bool.and_eq_true] at hsafe
        intro hunknown
        rw [hunknown] at hsafe
        exact Bool.false_ne_true hsafe.2
  have hport : .unknown ∉ g.portStates.values := by
    refine aggregatePortStates_ne_unknown ?_
    rw [← hgroup.state_aggregates]
    exact aggregateState_ne_unknown (hsession.state_aggregates ▸ hknown) hg
  by_contra houtside
  have hmissing : i.baselinePortStates.lookup p = none := by
    rw [Finmap.lookup_eq_none]
    intro hmem
    have hkeys := Finmap.mem_keys.mpr hmem
    rw [show i.baselinePortStates.keys = _ from hrecoverable.covers, List.mem_toFinset] at hkeys
    exact houtside hkeys
  have hkey : p ∈ g.portStates.keys := by
    rw [hgroup.portStates_exact]
    exact List.mem_toFinset.mpr hp
  obtain ⟨state, hstate⟩ := Dict.mem_keys_iff_isSome.mp hkey
  unfold Dict.getD at hagrees
  rw [hmissing, hstate] at hagrees
  have hunknown : PortState.unknown = state := hagrees
  exact hport (Dict.mem_values.mpr ⟨p, hunknown ▸ hstate⟩)

theorem matches_at {sample expected : Dict Port PortState} {ports : List Port}
    (h : matchesStates sample expected ports = true) (hp : p ∈ ports) :
    sample.getD p .unknown = expected.getD p .unknown :=
  of_decide_eq_true (List.all_eq_true.mp h p hp)

theorem reached_iff : i.reached configuredPorts live = true ↔
    (∀ p ∈ i.ports, live.getD p .unknown = i.desiredPortStates.getD p .unknown)
      ∧ ∀ p ∈ configuredPorts, p ∉ i.ports →
        live.getD p .unknown = i.baselinePortStates.getD p .unknown := by
  unfold TrafficMutationIntentState.reached matchesStates TrafficMutationIntentState.untargeted
  simp only [Bool.and_eq_true, List.all_eq_true, decide_eq_true_eq, List.mem_filter, and_imp]

/-! ## What a recovery leaves -/

/-- A group as a write that edited it leaves it: the run has not ended before. -/
theorem active_of_edit {g' : TrafficSessionGroupState} (hs : d.trafficSession = some s)
    (hg : g ∈ s.groups) (hedit : GroupEdit g g') (hnot : ¬EndedBefore d g') :
    g.cleanupEvidence = none := by
  by_contra hended
  exact hnot ⟨s, hs, g, hg, hedit.runId.symm, hedit.ports.symm, hended⟩

theorem agrees_cleared (h : Consistent d) (hi : d.trafficMutationIntent = some i)
    (hrecoverable : Recoverable i configuredPorts)
    (hsample : matchesStates live i.baselinePortStates configuredPorts = true)
    {after : RuntimeStateDocument} (hgone : after.trafficMutationIntent = none)
    (hsame : after.trafficSession = d.trafficSession) :
    Agrees i configuredPorts live d after := by
  have hrecorded : ∀ s', after.trafficSession = some s' → ∀ g ∈ s'.groups, ¬EndedBefore d g →
      ∀ p ∈ g.ports, p ∈ configuredPorts
        ∧ i.baselinePortStates.getD p .unknown = g.portStates.getD p .unknown := by
    intro s' hs' g hg hnot p hp
    have hs := hsame.symm.trans hs'
    exact recorded_baseline h hi hrecoverable hs hg (active_of_edit hs hg (.refl g) hnot) hp
  refine ⟨hgone, fun s' hs' g hg hnot p hp => ?_, fun p hp _ => matches_at hsample hp,
    fun s' hs' g hg hnot p hp _ => (hrecorded s' hs' g hg hnot p hp).2.symm⟩
  obtain ⟨hport, hbaseline⟩ := hrecorded s' hs' g hg hnot p hp
  exact hbaseline.symm.trans (matches_at hsample hport).symm

section

variable (h : Consistent d) (hi : d.trafficMutationIntent = some i)
  (hrecoverable : Recoverable i configuredPorts) (hsample : i.reached configuredPorts live = true)
  (hs : d.trafficSession = some s)

include h hi hrecoverable hsample hs

theorem agrees_untargeted (hg : g ∈ s.groups) (hactive : g.cleanupEvidence = none)
    (hp : p ∈ g.ports) (houtside : p ∉ i.ports) :
    g.portStates.getD p .unknown = live.getD p .unknown
      ∧ g.portStates.getD p .unknown = i.baselinePortStates.getD p .unknown := by
  obtain ⟨hport, hbaseline⟩ := recorded_baseline h hi hrecoverable hs hg hactive hp
  refine ⟨?_, hbaseline.symm⟩
  rw [← hbaseline, (reached_iff.mp hsample).2 p hport houtside]

theorem agrees_updated (hop : i.operation = .update) (multiplier : String) (now : Time)
    (hg : g ∈ s.groups) (hactive : g.cleanupEvidence = none) (hp : p ∈ g.ports) :
    (promoteUpdateGroup i multiplier now g).portStates.getD p .unknown
      = live.getD p .unknown := by
  have hstates : (promoteUpdateGroup i multiplier now g).portStates = g.portStates := by
    unfold promoteUpdateGroup
    split <;> rfl
  rw [hstates]
  by_cases htarget : p ∈ i.ports
  · have hupdate := (h.intent_valid hi).operation_valid
    unfold TrafficMutationIntentState.OperationValid at hupdate
    rw [hop] at hupdate
    have hdesired : i.desiredPortStates.getD p .unknown
        = i.baselinePortStates.getD p .unknown := by
      unfold Dict.getD
      rw [hupdate.unchanged p htarget]
    rw [(reached_iff.mp hsample).1 p htarget, hdesired,
      (recorded_baseline h hi hrecoverable hs hg hactive hp).2]
  · exact (agrees_untargeted h hi hrecoverable hsample hs hg hactive hp htarget).1

theorem agrees_acted (mode : TrafficCompletionMode) (now : Time) (hg : g ∈ s.groups)
    (hactive : g.cleanupEvidence = none) (hp : p ∈ g.ports) :
    (cleanActionGroup i mode now (promoteActionGroup i now g)).portStates.getD p .unknown
      = live.getD p .unknown := by
  have hstates : (cleanActionGroup i mode now (promoteActionGroup i now g)).portStates
      = (promoteActionGroup i now g).portStates := by
    unfold cleanActionGroup
    split <;> rfl
  rw [hstates]
  unfold promoteActionGroup
  by_cases htarget : p ∈ i.ports
  · have hmeets : g.meets i.ports = true :=
      List.any_eq_true.mpr ⟨p, hp, decide_eq_true htarget⟩
    rw [if_pos hmeets]
    change (g.portStates.updateKeys _ _).getD p .unknown = _
    rw [Dict.getD_updateKeys, if_pos (List.mem_filter.mpr ⟨hp, decide_eq_true htarget⟩),
      (reached_iff.mp hsample).1 p htarget]
  · have huntouched := (agrees_untargeted h hi hrecoverable hsample hs hg hactive hp htarget).1
    have hskipped : p ∉ g.ports.filter (· ∈ i.ports) := fun hmem =>
      htarget (of_decide_eq_true (List.mem_filter.mp hmem).2)
    split
    · change (g.portStates.updateKeys _ _).getD p .unknown = _
      rw [Dict.getD_updateKeys, if_neg hskipped]
      exact huntouched
    · exact huntouched

theorem acted_untargeted (mode : TrafficCompletionMode) (now : Time) (hg : g ∈ s.groups)
    (hactive : g.cleanupEvidence = none) (hp : p ∈ g.ports) (houtside : p ∉ i.ports) :
    (cleanActionGroup i mode now (promoteActionGroup i now g)).portStates.getD p .unknown
      = i.baselinePortStates.getD p .unknown := by
  rw [agrees_acted h hi hrecoverable hsample hs mode now hg hactive hp]
  obtain ⟨hlive, hbaseline⟩ :=
    agrees_untargeted h hi hrecoverable hsample hs hg hactive hp houtside
  exact hlive.symm.trans hbaseline

end

theorem agrees_started {started : TrafficSessionGroupState} (hi : i.Valid)
    (hop : i.operation = .start) (hgroup : i.startGroup = some started)
    (hsample : i.reached configuredPorts live = true) (e : TrafficMutationEvidenceState)
    (now : Time) (hp : p ∈ (promotedGroup i started e now).ports) :
    p ∈ i.ports ∧ (promotedGroup i started e now).portStates.getD p .unknown
      = live.getD p .unknown := by
  have hvalid := hi.operation_valid
  unfold TrafficMutationIntentState.OperationValid at hvalid
  rw [hop] at hvalid
  obtain ⟨g, hg, hstarted, _, hports, hrunning⟩ := hvalid.group
  obtain rfl := Option.some.inj (hgroup.symm.trans hg)
  have hsame : (promotedGroup i started e now).ports = started.ports
      ∧ (promotedGroup i started e now).portStates = started.portStates := by
    unfold promotedGroup
    split <;> exact ⟨rfl, rfl⟩
  rw [hsame.1] at hp
  rw [hsame.2]
  have htarget : p ∈ i.ports := by
    rw [← List.mem_toFinset, ← hports]
    exact List.mem_toFinset.mpr hp
  -- both are running on every port of the start
  have hvalue : ∀ {states : Dict Port PortState}, states.values = {.running} →
      p ∈ states.keys → states.getD p .unknown = .running := by
    intro states hvalues hkey
    obtain ⟨state, hstate⟩ := Dict.mem_keys_iff_isSome.mp hkey
    have hmem := Dict.mem_values.mpr ⟨p, hstate⟩
    rw [hvalues, Finset.mem_singleton] at hmem
    unfold Dict.getD
    rw [hstate, hmem]
    rfl
  refine ⟨htarget, ?_⟩
  rw [(reached_iff.mp hsample).1 p htarget, hvalue hrunning, hvalue hvalid.desired_running]
  · rw [hi.desired_exact]
    exact List.mem_toFinset.mpr htarget
  · rw [hstarted.portStates_exact]
    exact List.mem_toFinset.mpr hp

/-- A port of a group shows the sample, and the baseline if the intent does not target it. -/
def Shows (i : TrafficMutationIntentState) (live : Dict Port PortState)
    (g : TrafficSessionGroupState) (p : Port) : Prop :=
  g.portStates.getD p .unknown = live.getD p .unknown
    ∧ (p ∉ i.ports → g.portStates.getD p .unknown = i.baselinePortStates.getD p .unknown)

theorem agrees_of_shows {after : RuntimeStateDocument} {s' : TrafficSessionState}
    (hgone : after.trafficMutationIntent = none) (hs' : after.trafficSession = some s')
    (hsample : i.reached configuredPorts live = true)
    (hshows : ∀ g ∈ s'.groups, ¬EndedBefore d g → ∀ p ∈ g.ports, Shows i live g p) :
    Agrees i configuredPorts live d after := by
  refine ⟨hgone, fun t ht g hg hnot p hp => ?_, (reached_iff.mp hsample).2,
    fun t ht g hg hnot p hp => ?_⟩
  all_goals obtain rfl := Option.some.inj (hs'.symm.trans ht)
  · exact (hshows g hg hnot p hp).1
  · exact (hshows g hg hnot p hp).2

section

variable {j : TrafficMutationIntentState} (h : Consistent d)
  (hi : d.trafficMutationIntent = some i) (hrecoverable : Recoverable i configuredPorts)
  (hsample : i.reached configuredPorts live = true) (hs : d.trafficSession = some s)
  (hij : Advanced i j)

include h hi hrecoverable hsample hs hij

theorem shows_joined {started : TrafficSessionGroupState} (hop : i.operation = .start)
    (hgroup : i.startGroup = some started) (e : TrafficMutationEvidenceState) (now : Time) :
    ∀ g ∈ (joinedSession j (promotedGroup j started e now) e now s).groups, ¬EndedBefore d g →
      ∀ p ∈ g.ports, Shows i live g p := by
  intro g hg hnot p hp
  rcases List.mem_append.mp hg with hg | hg
  · -- a group that does not meet the start keeps its states
    obtain ⟨hmem, hmeets⟩ := List.mem_filter.mp hg
    have houtside : p ∉ i.ports := by
      intro htarget
      have hmet : g.meets j.ports = true :=
        List.any_eq_true.mpr ⟨p, hp, decide_eq_true (hij.ports ▸ htarget)⟩
      rw [hmet] at hmeets
      cases hmeets
    obtain ⟨hlive, hbaseline⟩ := agrees_untargeted h hi hrecoverable hsample hs hmem
      (active_of_edit hs hmem (.refl g) hnot) hp houtside
    exact ⟨hlive, fun _ => hbaseline⟩
  · obtain rfl := List.mem_singleton.mp hg
    rw [hij.same] at hp ⊢
    obtain ⟨htarget, hlive⟩ := agrees_started (h.intent_valid hi) hop hgroup hsample e now hp
    exact ⟨hlive, fun houtside => absurd htarget houtside⟩

theorem shows_updated (hop : i.operation = .update) (multiplier : String) (now : Time) :
    ∀ g ∈ s.groups.map (promoteUpdateGroup j multiplier now), ¬EndedBefore d g →
      ∀ p ∈ g.ports, Shows i live g p := by
  intro g' hg' hnot p hp
  obtain ⟨g, hg, rfl⟩ := List.mem_map.mp hg'
  have hedit := groupEdit_promoteUpdate j multiplier now g
  have hactive := active_of_edit hs hg hedit hnot
  rw [hedit.ports] at hp
  have hlive := agrees_updated h hi hrecoverable hsample hs hop multiplier now hg hactive hp
  have hsame : promoteUpdateGroup j multiplier now g = promoteUpdateGroup i multiplier now g := by
    rw [hij.same]
    rfl
  rw [hsame]
  refine ⟨hlive, fun houtside => hlive.trans ?_⟩
  exact (reached_iff.mp hsample).2 p
    (recorded_baseline h hi hrecoverable hs hg hactive hp).1 houtside

theorem shows_acted (mode : TrafficCompletionMode) (now : Time) :
    ∀ g ∈ actedGroups j mode now s, ¬EndedBefore d g → ∀ p ∈ g.ports, Shows i live g p := by
  intro g' hg' hnot p hp
  unfold actedGroups at hg'
  rw [if_pos (h.session s hs).version, List.map_map] at hg'
  obtain ⟨g, hg, rfl⟩ := List.mem_map.mp hg'
  have hedit := (groupEdit_promoteAction j now g).trans (groupEdit_cleanAction j mode now _)
  have hactive := active_of_edit hs hg hedit hnot
  rw [Function.comp_apply, hedit.ports] at hp
  have hsame : (cleanActionGroup j mode now (promoteActionGroup j now g)).portStates
      = (cleanActionGroup i mode now (promoteActionGroup i now g)).portStates := by
    rw [hij.same]
    rfl
  unfold Shows
  rw [Function.comp_apply, hsame]
  exact ⟨agrees_acted h hi hrecoverable hsample hs mode now hg hactive hp,
    acted_untargeted h hi hrecoverable hsample hs mode now hg hactive hp⟩

end

theorem agrees_promoted (h : Consistent d) (hi : d.trafficMutationIntent = some i)
    (hrecoverable : Recoverable i configuredPorts) (hsample : i.reached configuredPorts live = true)
    {mode : TrafficCompletionMode} {w₁ w₂ : TrafficWorld} (hpending : Pending i w₁)
    (hpromoted : Promoted i.nonce i.operation i.authority mode w₁ w₂) :
    Agrees i configuredPorts live d w₂.document := by
  obtain ⟨owned, now, candidate, stamped, happly, _, rfl⟩ := hpromoted
  obtain ⟨j, hj, hij⟩ := hpending.intent
  have hsession : w₁.document.trafficSession = d.trafficSession :=
    hpending.session.trans (h.sessionBefore hi)
  obtain ⟨j', e, t, hj', _, hoperation, _, _, _, hstart, hother, rfl⟩ := promote_some happly
  obtain rfl := Option.some.inj (hj.symm.trans hj')
  rw [hsession] at hstart hother
  refine agrees_of_shows rfl rfl hsample (?_ : ∀ g ∈ t.groups, _)
  by_cases hop : i.operation = .start
  · obtain ⟨started, hgroup, hcase⟩ := promoteStart_ok (hstart hop)
    have hgroup : i.startGroup = some started := by
      rw [hij.same] at hgroup
      exact hgroup
    rcases hcase with ⟨_, _, rfl⟩ | ⟨s, hs, _, _, _, _, _, rfl⟩
    · intro g hg _ p hp
      obtain rfl := List.mem_singleton.mp hg
      rw [hij.same] at hp ⊢
      obtain ⟨htarget, hlive⟩ := agrees_started (h.intent_valid hi) hop hgroup hsample e now hp
      exact ⟨hlive, fun houtside => absurd htarget houtside⟩
    · exact shows_joined h hi hrecoverable hsample hs hij hop hgroup e now
  · obtain ⟨s, hs, _, _, _, hcase⟩ := promoteMutation_ok (hother hop)
    rcases hcase with ⟨hupdate, multiplier, _, _, rfl⟩ | ⟨_, _, rfl⟩
    · exact shows_updated h hi hrecoverable hsample hs hij (hoperation.symm.trans hupdate)
        multiplier now
    · exact shows_acted h hi hrecoverable hsample hs hij mode now

theorem agrees_of_outcome (h : Consistent d) (hi : d.trafficMutationIntent = some i)
    (hrecoverable : Recoverable i configuredPorts) (houtcome : Outcome i configuredPorts live w') :
    Agrees i configuredPorts live d w'.document ∨ Retained i d w'.document := by
  cases houtcome with
  | retained hpending =>
      exact .inr ⟨hpending.intent, hpending.session.trans (h.sessionBefore hi)⟩
  | cleared w₁ w₂ hpending hwrote hsame hsample =>
      obtain ⟨candidate, now, happly, _, rfl⟩ := hwrote
      obtain ⟨_, _, rfl⟩ := clear_some happly
      rw [hsame]
      exact .inl (agrees_cleared h hi hrecoverable hsample rfl
        (hpending.session.trans (h.sessionBefore hi)))
  | promoted mode w₁ w₂ hpending hwrote hsame hsample =>
      rw [hsame]
      exact .inl (agrees_promoted h hi hrecoverable hsample hpending hwrote)

end

/-! ## Runs -/

/-- The world of an operation that has read the authority, after a run from the empty
document. -/
abbrev recoveringWorld (env : TrafficEnvironment) (nonces : Nat) (log : List Consultation)
    (commands : List Command) (authority : RuntimeAuthorityIdentity) : TrafficWorld :=
  (reachedWorld env .empty nonces log commands).invoke.readAuthority authority

/-- A server that fails every pause, and whose disk fails to sync after so many effects. -/
def pauseFails (unsynced : Nat) : Server where
  rpcFails
    | .pause _ => some "timed out"
    | _ => none
  persists w :=
    if w.effects.length = unsynced then .renamedThenFailed "directory sync failed" else .written

def pauseFailed : List Command :=
  [.snapshot, .startGroup "pair-0" 1 none none, .action .pause none (some ⟨0⟩)]

/-- The world that recovers the failed pause, and the recovery in it. -/
abbrev pausedWorld (server : Server) : TrafficWorld :=
  recoveringWorld server.environment 0 [] pauseFailed Server.identity

abbrev pauseRecovery (server : Server) : Except TrafficError Recovery × TrafficWorld :=
  (recoverTrafficMutationIntent server.environment (pausedWorld server).document
    (.ofKeys [0, 1, 2, 3] fun p => if p < 2 then .running else .stopped) [0, 1, 2, 3]
    Server.identity (pausedWorld server) []).1

end TrexWebui
