import TrexWebui.ReleaseRollback

/-!
# Recovery

What becomes of a transaction that was interrupted. A rollback that has begun
is taken up where its journal says, an intent to commit is carried through,
and every other transaction is rolled back (`reconcileLocked_spec`). Nothing
of it depends on where the process has ended before.
-/

namespace TrexWebui.ReleaseEngine

open PyStr PyJson PosixPath Sha2 Checks OracleProgram GuardedRuns

section Specs

variable {env : EngineEnvironment} {F : Prop} {w : EngineWorld} {s : EngineState} {t : Transaction}
  (hF : ¬env.Cooperative → F)

include hF

/-! ## An intent to commit -/

theorem requireActivated_gives {message : String} (hconsistent : Consistent env.host w.toEngineState)
    (hjournal : w.journal = some t) (hphase : t.phase ∈ [.activated, .finalizingConsumerEnable]) :
    Gives w F (requireActivated env t message) fun _ => True := by
  have hselectors := hconsistent.selectors t hjournal
  have hfresh := (hconsistent.rules t hjournal).fresh
  have hswitched : w.current = some t.candidate ∧ w.previous = t.currentBefore := by
    simp only [List.mem_cons, List.not_mem_nil, or_false] at hphase
    rcases hphase with hphase | hphase
    · exact hselectors.at hphase
    · exact hselectors.at hphase
  obtain ⟨hcurrent, hprevious⟩ := hswitched
  refine Gives.call (assertSelectors_gives hF hconsistent fun _ => ⟨?_, ?_, ?_⟩) fun o ho => ?_
  · intro d (hd : w.current = some d)
    exact mem_selectedDigests.mpr (Or.inl (Option.some.inj (hd.symm.trans hcurrent)))
  · intro d (hd : w.previous = some d)
    exact mem_selectedDigests.mpr (Or.inr (Or.inl (hprevious.symm.trans hd)))
  · intro _ _ heq
    exact hfresh (hcurrent.symm.trans (heq.trans hprevious))
  · obtain rfl := ho
    exact (failIf_gives fun h => absurd h (by simp [hcurrent, hprevious])).mono fun _ _ => trivial

theorem publishConsumers_spec (hjournal : w.journal = some t)
    (hphase : t.phase = .finalizingConsumerEnable) :
    Spec (Running env.host s) w (do enableConsumers env t; startConsumers env t : EngineM Unit)
      (fun _ w' => w'.toEngineState = w.toEngineState) fun _ => F := by
  have hallowed : ∀ {w' : EngineWorld} {e : EngineEffect}, w'.toEngineState = w.toEngineState →
      (Allowed env.host w.toEngineState e) → w.toEngineState.change e = w.toEngineState →
      Spec (Running env.host s) w' (perform env e)
        (fun _ w'' => w''.toEngineState = w.toEngineState) fun _ => F := by
    intro w' e hstate hallowed hsame
    refine (perform_spec hF (hstate ▸ hallowed)).mono (fun _ w'' _ h => ?_) fun _ _ h => h.1
    rw [h]
    show w'.toEngineState.change e = w.toEngineState
    rw [hstate, hsame]
  refine Spec.call (S := fun _ w' => w'.toEngineState = w.toEngineState) (Spec.loop
    (J := fun w' : EngineWorld => w'.toEngineState = w.toEngineState) rfl fun unit hunit w' _ hstate => ?_)
    (fun _ w' _ hstate => ?_) fun _ _ h => h
  · refine Spec.next (hallowed hstate ⟨t, hjournal, hphase, hunit⟩ rfl) fun _ w'' _ hstate' => ?_
    refine Spec.gives_bind (answered_gives (consult_gives hF) fun hn x hx => ?_) id fun enabled h => ?_
    · obtain ⟨log, rfl⟩ := hx
      exact ⟨true, (not_not.mp fun hnot => hn (hF hnot)).enabled w'' log unit⟩
    refine (gives_spec (failIf_gives fun hdisabled => not_not.mp fun hn => ?_)).mono
      (fun _ _ _ h => h.2 ▸ hstate') fun _ _ h => h.1
    obtain ⟨log, henabled⟩ := h
    rw [(not_not.mp fun hnot => hn (hF hnot)).enabled w'' log unit, hdisabled] at henabled
    cases henabled
  · refine Spec.ite (fun _ => Spec.pure hstate) fun _ => ?_
    refine Spec.next (hallowed hstate ⟨t, hjournal, by rw [hphase]; decide⟩ rfl)
      fun _ w'' _ hstate' => ?_
    exact Spec.loop hstate' fun unit hunit u _ hstate'' =>
      hallowed hstate'' ⟨t, hjournal, Or.inl ⟨hphase, hunit⟩⟩ rfl

theorem finalizeCommitLocked_spec (hjournal : w.journal = some t)
    (hphase : t.phase = .finalizingConsumerEnable) (hencodable : ¬F → t.Encodable) :
    Spec (Running env.host s) w (finalizeCommitLocked env t)
      (fun t' w' => Recovered env.host (w.files env.host) t w'.toEngineState t') fun _ => F := by
  refine Spec.assume fun hI => ?_
  have hselectors := (hI.now.selectors t hjournal).at hphase
  have hunrestored : ∀ {P : Prop}, t.rollbackRestored = true → P := fun hrestored =>
    never_restored (hI.now.rules t hjournal) hrestored (by rw [hphase]; decide)
  refine Spec.gives_bind (failIf_gives fun h => absurd hphase h) id fun _ _ => ?_
  refine Spec.gives_bind (requireActivated_gives hF hI.now hjournal (by rw [hphase]; decide)) id
    fun _ _ => ?_
  rw [← bind_assoc]
  refine Spec.next (publishConsumers_spec hF hjournal hphase) fun _ w' _ hstate => ?_
  have hjournal' : w'.journal = some t := by
    rw [hstate]
    exact hjournal
  refine (finish_spec hF hjournal' (fun hn => encodable_finalized (hencodable hn)) (by decide)
    (fun _ => .committed hjournal' hphase) (by rw [hphase]; decide)
    (fun hrules _ => later_committed hrules hphase)
    (fun _ => hunrestored) ?_).weaken fun t' w'' _ h => ?_
  · rw [hstate]
    exact retains_committed hselectors.1 hselectors.2
  obtain ⟨now, hcontinues, hended⟩ := h
  refine hended.recovers hcontinues List.mem_cons_self (fun _ => ?_) (fun howed => ?_) hunrestored
  · rw [hphase]
    decide
  · exact absurd howed.undecided (by rw [hphase]; decide)

/-! ## Reconciliation -/

theorem reconcileJournal_spec (hjournal : w.journal = some t)
    (hrecoverable : ¬F → Recoverable env.host t w.toEngineState) :
    Spec (Running env.host s) w
      (if t.phase = .finalizingConsumerEnable then some <$> finalizeCommitLocked env t
        else if t.phase = .startingBaselineConsumers then some <$> queueBaselineConsumerStarts env t
        else if t.phase = .committed then some <$> settleCommitted env t
        else if t.phase = .rolledBack then some <$> settleRolledBack env t
        else some <$> rollbackLocked env t)
      (fun o w' => ∃ t', o = some t' ∧ Recovered env.host (w.files env.host) t w'.toEngineState t')
      fun _ => F := by
  have hencodable := fun hn => (hrecoverable hn).encodable
  have hkept := fun hn => (hrecoverable hn).kept
  have hsome : ∀ {m : EngineM Transaction}, Spec (Running env.host s) w m
      (fun t' w' => Recovered env.host (w.files env.host) t w'.toEngineState t') (fun _ => F) →
      Spec (Running env.host s) w (some <$> m)
        (fun o w' => ∃ t', o = some t' ∧ Recovered env.host (w.files env.host) t w'.toEngineState t')
        fun _ => F := by
    intro m hm
    rw [map_eq_pure_bind]
    exact Spec.next hm fun t' _ _ h => Spec.pure ⟨t', rfl, h⟩
  refine Spec.ite (fun hphase => ?_) fun hfinalizing => Spec.ite (fun hphase => ?_) fun hstarting =>
    Spec.ite (fun hphase => ?_) fun hcommitted => Spec.ite (fun hphase => ?_) fun hrolledBack => ?_
  · exact hsome (finalizeCommitLocked_spec hF hjournal hphase hencodable)
  · exact hsome (pendingRecovered_spec hF hjournal hphase hkept)
  · exact hsome ((settleCommitted_spec hF hjournal hphase hencodable).weaken
      fun _ _ _ hended => hended.recovered (by rw [hphase]; decide))
  · exact hsome ((settleRolledBack_spec hF hjournal hphase hencodable hkept).weaken
      fun _ _ _ hended => hended.recovered (by rw [hphase]; decide))
  · refine hsome (rollbackLocked_spec hF hjournal (fun _ => ?_) hrecoverable)
    simp only [Phase.forward, List.mem_cons, List.not_mem_nil, or_false, not_or]
    exact ⟨hfinalizing, hcommitted⟩

def Reconciled (host : EngineHost) (s s' : EngineState) (o : Option Transaction) : Prop :=
  (s.journal = none → o = none ∧ Housekept s s')
    ∧ ∀ t ∈ s.journal, ∃ t', o = some t' ∧ Recovered host (s.files host) t s' t'

theorem reconcileLocked_spec
    (hrecoverable : ¬F → ∀ t ∈ w.journal, Recoverable env.host t w.toEngineState)
    (hdiffer : ¬F → w.journal = none → w.current ≠ none → w.current ≠ w.previous) :
    Spec (Running env.host s) w (reconcileLocked env)
      (fun o w' => Reconciled env.host w.toEngineState w'.toEngineState o) fun _ => F := by
  refine Spec.assume fun hI => ?_
  refine Spec.gives_bind (loadTransaction_gives hF hI.now.rules fun hn t hjournal =>
    (hrecoverable hn t hjournal).loadable) id fun o ho => ?_
  cases hjournal : w.journal with
  | none =>
      obtain rfl : o = none := ho.trans hjournal
      have hsettled : Settled w.journal := by
        rw [hjournal]
        rintro u (hu : none = some u)
        cases hu
      refine Spec.call (S := fun _ w' => Housekept w.toEngineState w'.toEngineState) ?_
        (fun _ w' _ hkept => Spec.pure ⟨fun _ => ⟨rfl, hkept⟩, ?_⟩) fun _ _ h => h
      · refine selectors_spec hF id (Spec.gives_bind (failIf_gives fun h => ?_) id fun _ _ => ?_)
        · exact not_not.mp fun hn => hdiffer hn hjournal h.1 h.2
        · refine unjournaledHousekeeping_spec hF hsettled fun digest => ?_
          rw [List.mem_append, Option.mem_toList, Option.mem_toList]
      · rw [hjournal]
        rintro u (hu : none = some u)
        cases hu
  | some t =>
      obtain rfl : o = some t := ho.trans hjournal
      refine (reconcileJournal_spec hF hjournal fun hn => hrecoverable hn t hjournal).weaken
        fun o w' _ h => ⟨fun hnone => ?_, ?_⟩
      · rw [hjournal] at hnone
        cases hnone
      · rintro u (hu : w.journal = some u)
        obtain rfl := Option.some.inj (hjournal.symm.trans hu)
        exact h

theorem reconcile_spec
    (hrecoverable : ¬F → ∀ t ∈ w.journal, Recoverable env.host t w.toEngineState)
    (hdiffer : ¬F → w.journal = none → w.current ≠ none → w.current ≠ w.previous) :
    Spec (Running env.host s) w (reconcile env)
      (fun o w' => Reconciled env.host w.toEngineState w'.toEngineState o) fun _ => F :=
  Spec.gives_bind (check_gives hF) id fun _ _ => reconcileLocked_spec hF hrecoverable hdiffer

/-! ## Acknowledgement -/

omit hF in
/-- The consumers of the baseline run, and they answer. -/
structure EngineEnvironment.Serving (env : EngineEnvironment) : Prop where
  active : ∀ (w : EngineWorld) log unit, env.answer w log (.isActive unit) = .ok true
  ready : ∀ (w : EngineWorld) log baseline, env.answer w log (.isReady baseline) = .ok true

omit hF in
theorem undisturbed_serving (host : EngineHost) :
    (EngineEnvironment.undisturbed host true).Serving where
  active _ _ _ := rfl
  ready _ _ _ := rfl

theorem acknowledgeEach_gives (hserving : ¬F → env.Serving)
    {consumers : List (Str × ConsumerBaseline)} :
    Gives w F (acknowledgeEach env t consumers) fun _ => True := by
  induction consumers with
  | nil => exact Gives.pure trivial
  | cons consumer rest ih =>
      obtain ⟨unit, baseline⟩ := consumer
      unfold acknowledgeEach
      refine Gives.ite (fun _ => ?_) fun _ => ?_
      · exact ih
      refine Gives.call (answered_gives (consult_gives hF) fun hn x hx => ?_) fun active hactive => ?_
      · obtain ⟨log, rfl⟩ := hx
        exact ⟨true, (hserving hn).active w log unit⟩
      refine Gives.call (failIf_gives fun hidle => not_not.mp fun hn => ?_) fun _ _ => ?_
      · obtain ⟨log, hactive⟩ := hactive
        rw [(hserving hn).active w log unit, hidle] at hactive
        cases hactive
      refine Gives.call (answered_gives (consult_gives hF) fun hn x hx => ?_) fun ready hready => ?_
      · obtain ⟨log, rfl⟩ := hx
        exact ⟨true, (hserving hn).ready w log baseline⟩
      refine Gives.call (failIf_gives fun hslow => not_not.mp fun hn => ?_) fun _ _ => ih
      obtain ⟨log, hready⟩ := hready
      rw [(hserving hn).ready w log baseline, hslow] at hready
      cases hready

/-- The consumers of a rollback are acknowledged, which ends it; any other journal stays. -/
theorem acknowledgeConsumers_spec (hserving : ¬F → env.Serving)
    (hrecoverable : ¬F → ∀ t ∈ w.journal, Recoverable env.host t w.toEngineState) :
    Spec (Running env.host s) w (acknowledgeConsumers env)
      (fun o w' => ∀ t ∈ w.journal, t.phase = .startingBaselineConsumers →
        ∃ t', o = some t' ∧ t'.phase = .rolledBack ∧ Recovered env.host (w.files env.host) t w'.toEngineState t')
      fun _ => F := by
  refine Spec.gives_bind (check_gives hF) id fun _ _ => Spec.assume fun hI => ?_
  refine Spec.gives_bind (loadTransaction_gives hF hI.now.rules fun hn t hjournal =>
    (hrecoverable hn t hjournal).loadable) id fun o ho => ?_
  cases hjournal : w.journal with
  | none =>
      obtain rfl : o = none := ho.trans hjournal
      refine Spec.pure ?_
      rintro u (hu : none = some u)
      cases hu
  | some t =>
      obtain rfl : o = some t := ho.trans hjournal
      refine Spec.ite (fun hphase => ?_) fun hphase => Spec.pure ?_
      · refine Spec.gives_bind (acknowledgeEach_gives hF hserving) id fun _ _ => ?_
        have hselectors := (hI.now.selectors t hjournal).at hphase
        have hencodable := fun hn => (hrecoverable hn t hjournal).encodable
        refine Spec.next (finish_spec hF hjournal (fun hn => encodable_disarmed (hencodable hn))
          (by decide) (fun _ => .acknowledged hjournal hphase) (by rw [hphase]; decide)
          (fun _ _ => later_acknowledged)
          (fun hn => (hrecoverable hn t hjournal).kept)
          (retains_baseline hselectors.1 hselectors.2)) fun t' w' _ h => Spec.pure ?_
        obtain ⟨now, hcontinues, hended⟩ := h
        rintro u (hu : some t = some u) -
        obtain rfl := Option.some.inj hu
        refine ⟨t', rfl, hended.phase, ?_⟩
        refine hended.recovers hcontinues (List.mem_cons_of_mem _ List.mem_cons_self)
          (fun hcommitted => by cases hcommitted) (fun howed => ?_) hended.met
        exact absurd howed.undecided (by rw [hphase]; decide)
      · rintro u (hu : some t = some u) hstarting
        obtain rfl := Option.some.inj hu
        exact absurd hstarting hphase

end Specs

end TrexWebui.ReleaseEngine
