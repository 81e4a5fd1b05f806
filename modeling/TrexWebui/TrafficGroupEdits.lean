import TrexWebui.TrafficMutationSpecs

/-!
# What the writers do to a group

Seven writers rebuild the groups of a session, each with its own rule. What
they share is `GroupEdit`: the run keeps its identity and its start
evidence, a lease is kept or dropped but never changed, a group that comes
to rest loses its lease, and evidence of a cleanup, once there, stays.
`SessionEdit` lifts this to a session whose groups are edited one by one.
-/

namespace TrexWebui

def TrafficSessionGroupState.Unleased (g : TrafficSessionGroupState) : Prop :=
  g.state = .stopped → g.hardStopAt = none

/-- `g'` is `g` after one edit of a writer. -/
structure GroupEdit (g g' : TrafficSessionGroupState) : Prop where
  same_run : g' = { g with
    multiplier := g'.multiplier
    hardStopAt := g'.hardStopAt
    endedAt := g'.endedAt
    cleanupEvidence := g'.cleanupEvidence
    state := g'.state
    portStates := g'.portStates
    updatedAt := g'.updatedAt }
  lease : g'.hardStopAt = none ∨ g'.hardStopAt = g.hardStopAt
  cleanup : g.cleanupEvidence ≠ none →
    g'.cleanupEvidence = g.cleanupEvidence ∧ g'.endedAt = g.endedAt
  unleased : g.Unleased → g'.Unleased

namespace GroupEdit

variable {g g' g'' : TrafficSessionGroupState}

theorem refl (g : TrafficSessionGroupState) : GroupEdit g g :=
  ⟨rfl, .inr rfl, fun _ => ⟨rfl, rfl⟩, id⟩

theorem ports (h : GroupEdit g g') : g'.ports = g.ports := by rw [h.same_run]

theorem runId (h : GroupEdit g g') : g'.runId = g.runId := by rw [h.same_run]

theorem startEvidence (h : GroupEdit g g') : g'.startEvidence = g.startEvidence := by
  rw [h.same_run]

theorem trans (h : GroupEdit g g') (h' : GroupEdit g' g'') : GroupEdit g g'' where
  same_run := by rw [h'.same_run, h.same_run]
  lease := by
    rcases h'.lease with hnone | hsame
    · exact .inl hnone
    · rw [hsame]; exact h.lease
  cleanup hne := by
    obtain ⟨hc, he⟩ := h.cleanup hne
    obtain ⟨hc', he'⟩ := h'.cleanup (hc ▸ hne)
    exact ⟨hc'.trans hc, he'.trans he⟩
  unleased hg := h'.unleased (h.unleased hg)

theorem leaseOver (h : GroupEdit g g') {now : Time} (hover : g'.leaseExpired now = true ∨
    g'.hardStopAt.any (hardStopIsExpired · now) = true) :
    g.hardStopAt.any (hardStopIsExpired · now) = true := by
  have hany : g'.hardStopAt.any (hardStopIsExpired · now) = true := by
    rcases hover with hexpired | hany
    · unfold TrafficSessionGroupState.leaseExpired at hexpired
      rw [Bool.and_eq_true] at hexpired
      exact hexpired.1
    · exact hany
  rcases h.lease with hnone | hsame
  · rw [hnone] at hany; cases hany
  · rw [← hsame]; exact hany

end GroupEdit

/-! ## The edits -/

theorem groupEdit_observedStopped (evidenced : Bool) (now : Time)
    (g : TrafficSessionGroupState) : GroupEdit g (g.observedStopped evidenced now) := by
  unfold TrafficSessionGroupState.observedStopped
  split
  · rename_i h
    rw [Bool.and_eq_true, Option.isNone_iff_eq_none] at h
    exact ⟨rfl, .inr rfl, fun hne => absurd h.2 hne, id⟩
  · exact .refl g

theorem groupEdit_retire (evidenced : Bool) (now : Time) (g : TrafficSessionGroupState) :
    GroupEdit g (retireGroup evidenced now g) := by
  unfold retireGroup
  refine GroupEdit.trans ?_ (groupEdit_observedStopped evidenced now _)
  split
  · exact ⟨rfl, .inl rfl, fun _ => ⟨rfl, rfl⟩, fun _ _ => rfl⟩
  · exact .refl g

theorem groupEdit_rollover (evidenced : Bool) (now : Time) (g : TrafficSessionGroupState) :
    GroupEdit g (rolloverGroup evidenced now g) := by
  unfold rolloverGroup
  refine GroupEdit.trans ?_ (groupEdit_observedStopped evidenced now _)
  exact ⟨rfl, .inl rfl, fun _ => ⟨rfl, rfl⟩, fun _ _ => rfl⟩

theorem groupEdit_retainStopped (evidenced : Bool) (now : Time)
    (g : TrafficSessionGroupState) : GroupEdit g (retainStoppedGroup evidenced now g) := by
  unfold retainStoppedGroup
  dsimp only
  split
  · rename_i h
    rw [Bool.and_eq_true, Option.isNone_iff_eq_none] at h
    exact ⟨rfl, .inl rfl, fun hne => absurd h.2 hne, fun _ _ => rfl⟩
  · exact ⟨rfl, .inl rfl, fun _ => ⟨rfl, rfl⟩, fun _ _ => rfl⟩

theorem groupEdit_reconcile (evidenced owned : Bool) (live : Dict Port PortState) (now : Time)
    (g : TrafficSessionGroupState) : GroupEdit g (reconcileGroup evidenced owned live now g) := by
  unfold reconcileGroup
  dsimp only
  generalize reconciledPortStates evidenced owned live g = portStates
  generalize aggregatePortStates portStates = state
  have hlease : (if state = .stopped then none else g.hardStopAt) = none
      ∨ (if state = .stopped then none else g.hardStopAt) = g.hardStopAt := by
    by_cases h : state = .stopped
    · exact .inl (if_pos h)
    · exact .inr (if_neg h)
  have hrest : state = .stopped → (if state = .stopped then none else g.hardStopAt) = none :=
    fun h => if_pos h
  generalize (if state = .stopped then none else g.hardStopAt) = lease at hlease hrest ⊢
  split
  · exact .refl g
  · split
    · rename_i h
      simp only [Bool.and_eq_true, Option.isNone_iff_eq_none] at h
      exact ⟨rfl, hlease, fun hne => absurd h.2 hne, fun _ => hrest⟩
    · exact ⟨rfl, hlease, fun _ => ⟨rfl, rfl⟩, fun _ => hrest⟩

theorem groupEdit_promoteUpdate (intent : TrafficMutationIntentState) (multiplier : String)
    (now : Time) (g : TrafficSessionGroupState) :
    GroupEdit g (promoteUpdateGroup intent multiplier now g) := by
  unfold promoteUpdateGroup
  split
  · exact ⟨rfl, .inr rfl, fun _ => ⟨rfl, rfl⟩, id⟩
  · exact .refl g

theorem groupEdit_promoteAction (intent : TrafficMutationIntentState) (now : Time)
    (g : TrafficSessionGroupState) : GroupEdit g (promoteActionGroup intent now g) := by
  unfold promoteActionGroup
  split
  · refine ⟨rfl, ?_, fun _ => ⟨rfl, rfl⟩, fun _ hstopped => if_pos hstopped⟩
    dsimp only
    split
    · exact .inl rfl
    · exact .inr rfl
  · exact .refl g

theorem groupEdit_cleanAction (intent : TrafficMutationIntentState)
    (mode : TrafficCompletionMode) (now : Time) (g : TrafficSessionGroupState) :
    GroupEdit g (cleanActionGroup intent mode now g) := by
  unfold cleanActionGroup
  split
  · rename_i h
    exact ⟨rfl, .inr rfl, fun hne => absurd h.2 hne, id⟩
  · exact .refl g

/-! ## Sessions -/

/-- The groups of `s'` are the groups of `s`, each after an edit. -/
structure SessionEdit (s s' : TrafficSessionState) : Prop where
  id : s'.id = s.id
  evidenceVersion : s'.evidenceVersion = s.evidenceVersion
  authority : s'.authority = s.authority
  completed : s'.completedGroups = s.completedGroups
  groups : List.Forall₂ GroupEdit s.groups s'.groups

theorem forall₂_map {α : Type} {R : α → α → Prop} {f : α → α} (l : List α)
    (h : ∀ a, R a (f a)) : List.Forall₂ R l (l.map f) := by
  induction l with
  | nil => exact .nil
  | cons a rest ih => exact .cons (h a) ih

theorem sessionEdit_retired (now : Time) (s : TrafficSessionState) :
    SessionEdit s (retiredSession now s) :=
  ⟨rfl, rfl, rfl, rfl, forall₂_map _ (groupEdit_retire _ now)⟩

theorem sessionEdit_retained (intent : TrafficMutationIntentState)
    (leaseIdentity : List (List Port × Option Time)) (now : Time) (s : TrafficSessionState) :
    SessionEdit s (retainedSession intent leaseIdentity now s) := by
  refine ⟨rfl, rfl, rfl, rfl, forall₂_map _ fun g => ?_⟩
  split
  · exact groupEdit_retainStopped _ now g
  · exact .refl g

theorem sessionEdit_rolledOver (authority : RuntimeAuthorityIdentity) (now : Time)
    (s : TrafficSessionState) : SessionEdit s (rolledOverSession authority now s) := by
  unfold rolledOverSession
  split
  · exact ⟨rfl, rfl, rfl, rfl, forall₂_map _ (groupEdit_rollover _ now)⟩
  · exact ⟨rfl, rfl, rfl, rfl, List.forall₂_same.mpr fun g _ => .refl g⟩

theorem groupEdit_acted (intent : TrafficMutationIntentState) (mode : TrafficCompletionMode)
    (now : Time) (s : TrafficSessionState) :
    List.Forall₂ GroupEdit s.groups (actedGroups intent mode now s) := by
  unfold actedGroups
  split
  · rw [List.map_map]
    exact forall₂_map _ fun g =>
      (groupEdit_promoteAction intent now g).trans (groupEdit_cleanAction intent mode now _)
  · exact forall₂_map _ (groupEdit_promoteAction intent now)

theorem sessionEdit_promoteMutation {intent : TrafficMutationIntentState}
    {authority : RuntimeAuthorityIdentity} {mode : TrafficCompletionMode}
    {owned : Option Uuid} {evidence : TrafficMutationEvidenceState} {now : Time}
    {existing : Option TrafficSessionState} {session : TrafficSessionState}
    (h : promoteMutation intent authority mode owned evidence now existing = .ok session) :
    ∃ before, existing = some before ∧ SessionEdit before session := by
  obtain ⟨before, hbefore, _, _, _, hcase⟩ := promoteMutation_ok h
  refine ⟨before, hbefore, ?_⟩
  rcases hcase with ⟨_, multiplier, _, _, rfl⟩ | ⟨_, _, rfl⟩
  · exact ⟨rfl, rfl, rfl, rfl, forall₂_map _ (groupEdit_promoteUpdate intent multiplier now)⟩
  · exact ⟨rfl, rfl, rfl, rfl, groupEdit_acted intent mode now before⟩

end TrexWebui
