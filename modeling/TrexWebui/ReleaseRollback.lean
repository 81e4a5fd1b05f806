import TrexWebui.ReleaseEndings

/-!
# Rollback

A rollback stops the consumers, puts the selectors, the native boundary and
the host artifacts back in this order, and starts the consumers of the
baseline again. It may be taken up in any phase that it can have been cut
short in (`rollbackLocked_spec`).
-/

namespace TrexWebui.ReleaseEngine

open PyStr PyJson PosixPath Sha2 Checks OracleProgram GuardedRuns

/-! ## What a recovery owes -/

/-- The rollback of the transaction puts its host artifacts back. -/
structure Transaction.RestoresHost (t : Transaction) : Prop where
  undecided : t.phase ∉ Phase.decided
  armed : t.consumerMutationArmed = true
  planned : t.hostRestorePlanned = true

instance (t : Transaction) : Decidable t.RestoresHost :=
  decidable_of_iff (t.phase ∉ Phase.decided ∧ t.consumerMutationArmed = true
    ∧ t.hostRestorePlanned = true) ⟨fun ⟨h, h', h''⟩ => ⟨h, h', h''⟩, fun ⟨h, h', h''⟩ => ⟨h, h', h''⟩⟩

/-- What a recovery makes of a transaction, from the backups that there are when it begins. -/
structure Recovered (host : EngineHost) (files : BackupFiles) (t : Transaction) (s : EngineState)
    (t' : Transaction) : Prop where
  journal : s.journal = some t'
  continues : Continues t t'
  /-- It has ended, or it waits for the consumers of its baseline. -/
  ended : (t'.phase ∈ Phase.terminal ∧ t'.rollbackAuthorityRetired = true)
    ∨ t'.phase = .startingBaselineConsumers
  /-- Only an intent to commit is carried through. -/
  committed : t'.phase = .committed → t.phase ∈ Phase.forward
  restored : t.RestoresHost → t.RestoredFrom host files s
  /-- What was restored before is still there. -/
  met : t.rollbackRestored = true → t.ArtifactsMet s

/-- Nothing that others have done to the host is in the way of the recovery. -/
structure Recoverable (host : EngineHost) (t : Transaction) (s : EngineState) : Prop where
  loadable : t.Loadable
  replaceable : t.phase ∉ Phase.decided →
    ∀ artifact ∈ t.hostArtifacts, Replaceable host (s.artifacts artifact.path)
  kept : t.rollbackRestored = true → t.ArtifactsMet s

section Facts

variable {host : EngineHost} {files : BackupFiles} {t t' : Transaction} {s s' : EngineState}

theorem Recovered.forward (h : Recovered host files t s t')
    (hphase : t.phase ∈ Phase.forward) :
    t'.phase = .committed ∧ t'.rollbackAuthorityRetired = true := by
  have hforward := h.continues.forward hphase
  simp only [Phase.forward, List.mem_cons, List.not_mem_nil, or_false] at hforward
  rcases h.ended with ⟨hterminal, hretired⟩ | hpending
  · refine ⟨hforward.resolve_left fun hfinalizing => ?_, hretired⟩
    rw [hfinalizing] at hterminal
    exact absurd hterminal (by decide)
  · rw [hpending] at hforward
    exact absurd hforward (by decide)

theorem Recoverable.encodable (h : Recoverable host t s) : t.Encodable := by
  obtain ⟨content, hcontent, -⟩ := h.loadable
  exact encodable_of_content hcontent

theorem Ended.recovers {u : Transaction} (h : Ended u s t' s') (hcontinues : Continues t u)
    (hphase : u.phase ∈ Phase.terminal)
    (hcommitted : u.phase = .committed → t.phase ∈ Phase.forward)
    (hrestored : t.RestoresHost → t.RestoredFrom host files s)
    (hmet : t.rollbackRestored = true → t.ArtifactsMet s) : Recovered host files t s' t' where
  journal := h.journal
  continues := hcontinues.trans h.continues
  ended := Or.inl ⟨h.phase ▸ hphase, h.retired⟩
  committed := fun hphase => hcommitted (h.phase.symm.trans hphase)
  restored := fun howed => by
    rw [Transaction.RestoredFrom, h.artifacts]
    exact hrestored howed
  met := fun howed => by
    rw [Transaction.ArtifactsMet, h.artifacts]
    exact hmet howed

theorem Ended.recovered (h : Ended t s t' s') (hphase : t.phase ∈ Phase.terminal) :
    Recovered host files t s' t' := by
  refine h.recovers (Continues.refl t) hphase (fun hcommitted => ?_) (fun howed => ?_) h.met
  · rw [hcommitted]; decide
  · exact absurd hphase (not_terminal howed.undecided)

end Facts

section Specs

variable {env : EngineEnvironment} {F : Prop} {w : EngineWorld} {s : EngineState} {t : Transaction}
  (hF : ¬env.Cooperative → F)

include hF

/-! ## The consumers of the baseline -/

theorem queueBaselineConsumerStarts_spec (hjournal : w.journal = some t)
    (hphase : t.phase = .startingBaselineConsumers)
    (hmet : ¬F → t.rollbackRestored = true → t.ArtifactsMet w.toEngineState) :
    Spec (Running env.host s) w (queueBaselineConsumerStarts env t)
      (fun t' w' => t' = t ∧ w'.toEngineState = w.toEngineState
        ∧ (t.rollbackRestored = true → t.ArtifactsMet w.toEngineState)) fun _ => F := by
  refine Spec.assume fun hI => ?_
  have hselectors := (hI.now.selectors t hjournal).at hphase
  refine Spec.gives_bind (failIf_gives fun h => absurd hphase h) id fun _ _ => ?_
  refine selectors_spec hF id ?_
  refine Spec.gives_bind (failIf_gives ?_) id fun _ _ => ?_
  · rintro (h | h)
    · exact absurd hselectors.1 h
    · exact absurd hselectors.2 h
  refine Spec.next (verifyRestored_spec hF hjournal (by rw [hphase]; decide) hmet)
    fun _ w' _ h => ?_
  obtain ⟨hstate, hmet⟩ := h
  have hstarts : Spec (Running env.host s) w'
      (t.consumerActiveBefore.forM fun unit =>
        if t.leavesAlone unit then pure () else perform env (.start unit))
      (fun _ w'' => w''.toEngineState = w.toEngineState) fun _ => F := by
    refine Spec.loop (J := fun w'' : EngineWorld => w''.toEngineState = w.toEngineState) hstate
      fun unit hunit w'' _ hstate' => ?_
    refine Spec.ite (fun _ => Spec.pure hstate') fun hleft => ?_
    have hallowed : Allowed env.host w''.toEngineState (.start unit) := by
      refine ⟨t, ?_, Or.inr ⟨hphase, hunit, Bool.of_not_eq_true hleft⟩⟩
      rw [hstate']
      exact hjournal
    exact (perform_spec hF hallowed).mono (fun _ _ _ h => h ▸ hstate') fun _ _ h => h.1
  exact Spec.next hstarts fun _ _ _ hstate' => Spec.pure ⟨rfl, hstate', hmet⟩

/-! ## The rollback of an armed transaction -/

omit hF in
@[simp] theorem journal_select {selector : Selector} {digest : Option Str} :
    (s.change (.select selector digest)).journal = s.journal := by
  cases selector <;> rfl

omit hF in
@[simp] theorem backups_select {selector : Selector} {digest : Option Str} :
    (s.change (.select selector digest)).backups = s.backups := by
  cases selector <;> rfl

omit hF in
@[simp] theorem artifacts_select {selector : Selector} {digest : Option Str} :
    (s.change (.select selector digest)).artifacts = s.artifacts := by
  cases selector <;> rfl

/-- The rollback of a transaction has gone on. -/
structure RolledOn (F : Prop) (t : Transaction) (s : EngineState) (t' : Transaction)
    (s' : EngineState) : Prop where
  moved : ∃ phase now, t' = t.moved phase now
  journal : s'.journal = some t'
  encodable : ¬F → t'.Encodable
  backups : s'.backups = s.backups
  artifacts : s'.artifacts = s.artifacts

theorem quiesceConsumers_spec (hjournal : w.journal = some t) (hencodable : ¬F → t.Encodable)
    (hphase : t.phase ∉ Phase.decided) (harmed : t.consumerMutationArmed = true) :
    Spec (Running env.host s) w (quiesceConsumers env t)
      (fun t' w' => RolledOn F t w.toEngineState t' w'.toEngineState ∧ t'.phase ∉ Phase.decided
        ∧ (t'.effectivePlan = [] ∨ t'.phase = .consumersStopped)) fun _ => F := by
  refine Spec.ite (fun hempty => Spec.pure ?_) fun _ => ?_
  · exact ⟨⟨⟨t.phase, t.updatedAt, rfl⟩, hjournal, hencodable, rfl, rfl⟩, hphase, Or.inl hempty⟩
  refine Spec.next (advance_spec hF hjournal hencodable (.stoppingConsumers hphase harmed))
    fun t' w' _ h => ?_
  obtain ⟨now, rfl, hencodable', hstate⟩ := h
  have hjournal' : w'.journal = some (t.moved .stoppingConsumers now) := by rw [hstate]
  have hallowed : Allowed env.host w'.toEngineState
      (.stop (t.managedDaemonPlan && t.daemonMutationStarted) t.effectivePlan) :=
    ⟨_, hjournal', rfl, rfl, rfl⟩
  refine Spec.call (perform_spec hF hallowed) (fun _ w'' _ hw'' => ?_) fun _ _ h => h.1
  have hstate' : w''.toEngineState = w'.toEngineState := hw'' ▸ rfl
  have hjournal'' : w''.journal = some (t.moved .stoppingConsumers now) := by
    rw [hstate', hjournal']
  refine (advance_spec hF hjournal'' hencodable' (.consumersStopped rfl)).weaken
    fun t'' u _ h => ?_
  obtain ⟨later, rfl, hencodable'', hstate''⟩ := h
  refine ⟨⟨⟨_, later, rfl⟩, by rw [hstate''], hencodable'', ?_, ?_⟩, ?_, Or.inr rfl⟩
  · rw [hstate'', hstate', hstate]
  · rw [hstate'', hstate', hstate]
  · exact (by decide : Phase.consumersStopped ∉ Phase.decided)

theorem restoreSelectors_spec (hjournal : w.journal = some t) (hencodable : ¬F → t.Encodable)
    (hphase : t.phase ∉ Phase.decided) (harmed : t.consumerMutationArmed = true)
    (hstopped : t.effectivePlan = [] ∨ t.phase = .consumersStopped) :
    Spec (Running env.host s) w (restoreSelectors env t)
      (fun t' w' => RolledOn F t w.toEngineState t' w'.toEngineState
        ∧ t'.SelectorsBack w'.toEngineState) fun _ => F := by
  refine Spec.assume fun hI => ?_
  have hkept := kept_of_open (hI.now.rules t hjournal) (not_terminal hphase)
  refine Spec.next (advance_spec hF hjournal hencodable (.rollingBackCurrent hphase harmed hstopped))
    fun t' w' hI' h => ?_
  obtain ⟨now, rfl, hencodable', hstate⟩ := h
  have hjournal' : w'.journal = some (t.moved .rollingBackCurrent now) := by rw [hstate]
  refine Spec.next (atomicSetSelector_spec hF hjournal' (.backCurrent rfl) fun _ d hd => ?_)
    fun _ u _ hu => ?_
  · exact hI'.now.baselineStored (t.moved .rollingBackCurrent now) hjournal' hkept d
      (List.mem_append_left _ (Option.mem_toList.mpr hd))
  have hjournal'' : u.journal = some (t.moved .rollingBackCurrent now) := by
    rw [hu, journal_select, hjournal']
  have hcurrent : u.current = t.currentBefore := by
    rw [hu]
    rfl
  refine Spec.next (advance_spec hF hjournal'' hencodable' (.rollingBackPrevious rfl hcurrent))
    fun t'' v hI'' h => ?_
  obtain ⟨later, rfl, hencodable'', hstate'⟩ := h
  have hback : v.journal = some (t.moved .rollingBackPrevious later) := by
    rw [hstate']
    rfl
  refine Spec.next (atomicSetSelector_spec hF hback (.backPrevious rfl) fun _ d hd => ?_)
    fun _ x _ hx => ?_
  · exact hI''.now.baselineStored (t.moved .rollingBackPrevious later) hback hkept d
      (List.mem_append_right _ (Option.mem_toList.mpr hd))
  refine Spec.pure ⟨⟨⟨_, later, rfl⟩, ?_, hencodable'', ?_, ?_⟩, rfl, ?_⟩
  · rw [hx, journal_select, hback]
    rfl
  · rw [hx, backups_select, hstate', hu, backups_select, hstate]
  · rw [hx, artifacts_select, hstate', hu, artifacts_select, hstate]
  · rw [hx]
    rfl

theorem restoreBoundaryPlanned_spec (hjournal : w.journal = some t) (hencodable : ¬F → t.Encodable)
    (hback : t.SelectorsBack w.toEngineState) :
    Spec (Running env.host s) w (restoreBoundaryPlanned env t)
      (fun t' w' => RolledOn F t w.toEngineState t' w'.toEngineState
        ∧ ((t'.nativeRestorePlanned = true ∧ t'.phase = .nativeBoundaryRestored)
          ∨ (t'.nativeRestorePlanned = false ∧ t'.SelectorsBack w'.toEngineState))) fun _ => F := by
  refine Spec.ite (fun hplanned => ?_) fun hunplanned => Spec.pure ?_
  · refine Spec.next (advance_spec hF hjournal hencodable (.restoringNativeBoundary hback hplanned))
      fun t' w' _ h => ?_
    obtain ⟨now, rfl, hencodable', hstate⟩ := h
    have hjournal' : w'.journal = some (t.moved .restoringNativeBoundary now) := by rw [hstate]
    refine Spec.next (restoreNativeBoundary_spec hF hjournal' rfl) fun _ w'' _ hstate' => ?_
    have hjournal'' : w''.journal = some (t.moved .restoringNativeBoundary now) := by
      rw [hstate', hjournal']
    refine (advance_spec hF hjournal'' hencodable' (.nativeBoundaryRestored rfl)).weaken
      fun t'' v _ h => ?_
    obtain ⟨later, rfl, hencodable'', hstate''⟩ := h
    refine ⟨⟨⟨_, later, rfl⟩, by rw [hstate''], hencodable'', ?_, ?_⟩, Or.inl ⟨hplanned, rfl⟩⟩
    · rw [hstate'', hstate', hstate]
    · rw [hstate'', hstate', hstate]
  · exact ⟨⟨⟨t.phase, t.updatedAt, rfl⟩, hjournal, hencodable, rfl, rfl⟩,
      Or.inr ⟨Bool.of_not_eq_true hunplanned, hback⟩⟩

theorem restoreArtifactsPlanned_spec (hjournal : w.journal = some t)
    (hencodable : ¬F → t.Encodable)
    (hboundary : (t.nativeRestorePlanned = true ∧ t.phase = .nativeBoundaryRestored)
      ∨ (t.nativeRestorePlanned = false ∧ t.SelectorsBack w.toEngineState))
    (hreplaceable : ¬F → ∀ a ∈ t.hostArtifacts, Replaceable env.host (w.artifacts a.path)) :
    Spec (Running env.host s) w (restoreArtifactsPlanned env t)
      (fun t' w' => (∃ phase now, t' = t.moved phase now) ∧ w'.journal = some t'
        ∧ (¬F → t'.Encodable) ∧ t'.Restored w'.toEngineState
        ∧ (t'.hostRestorePlanned = true → t'.RestoredFrom env.host (w.files env.host) w'.toEngineState)
        ∧ (t'.hostRestorePlanned = true → t'.ArtifactsMet w'.toEngineState)) fun _ => F := by
  refine Spec.ite (fun hplanned => ?_) fun hunplanned => Spec.pure ?_
  · have hadvances : Advances w.toEngineState t .restoringHostArtifacts :=
      .restoringHostArtifacts hplanned (hboundary.imp And.right id)
    refine Spec.next (advance_spec hF hjournal hencodable hadvances) fun t' w' hI h => ?_
    obtain ⟨now, rfl, hencodable', hstate⟩ := h
    have hjournal' : w'.journal = some (t.moved .restoringHostArtifacts now) := by rw [hstate]
    have hreplaceable' : ¬F → ∀ a ∈ t.hostArtifacts,
        Replaceable env.host (w'.artifacts a.path) := by
      rw [hstate]
      exact hreplaceable
    refine Spec.next (restoreHostArtifacts_spec hF hjournal' rfl hreplaceable')
      fun _ w'' _ h => ?_
    obtain ⟨hstate', hrestored⟩ := h
    have hmet := hrestored.met (hI.now.rules (t.moved .restoringHostArtifacts now) hjournal')
    have hfiles : w'.files env.host = w.files env.host := by
      rw [hstate]
      rfl
    have hjournal'' : w''.journal = some (t.moved .restoringHostArtifacts now) := by
      rw [hstate', hjournal']
    refine (advance_spec hF hjournal'' hencodable' (.hostArtifactsRestored rfl hmet)).weaken
      fun t'' v _ h => ?_
    obtain ⟨later, rfl, hencodable'', hstate''⟩ := h
    refine ⟨⟨_, later, rfl⟩, by rw [hstate''], hencodable'', Or.inl rfl, fun _ => ?_, fun _ => ?_⟩
    · rw [hstate'', ← hfiles]
      exact hrestored
    · rw [hstate'']
      exact hmet
  · have hunplanned := Bool.of_not_eq_true hunplanned
    have never : ∀ {P : Prop}, t.hostRestorePlanned = true → P := fun hplanned =>
      absurd (hplanned.symm.trans hunplanned) (by decide)
    refine ⟨⟨t.phase, t.updatedAt, rfl⟩, hjournal, hencodable, ?_, never, never⟩
    · rcases hboundary with ⟨hplanned, -⟩ | ⟨-, hback⟩
      · rw [Transaction.nativeRestorePlanned, hunplanned] at hplanned
        cases hplanned
      · exact Or.inr ⟨hunplanned, hback⟩

omit hF in
theorem Transaction.Restored.open {s : EngineState} (h : t.Restored s) :
    t.phase ∉ Phase.decided := by
  rcases h with hphase | ⟨-, hphase, -⟩
  · rw [hphase]; decide
  · rw [hphase]; decide

/-- The end of a rollback: nothing is left to be done, or the baseline is to be started. -/
theorem finishRollback_spec (hjournal : w.journal = some t) (hencodable : ¬F → t.Encodable)
    {files : BackupFiles} (hrestored : t.Restored w.toEngineState)
    (hfrom : t.hostRestorePlanned = true → t.RestoredFrom env.host files w.toEngineState)
    (hmet : t.hostRestorePlanned = true → t.ArtifactsMet w.toEngineState) :
    Spec (Running env.host s) w
      (finishRollback env { t with rollbackRestored := t.hostRestorePlanned })
      (fun t' w' => Recovered env.host files t w'.toEngineState t') fun _ => F := by
  refine Spec.assume fun hI => ?_
  obtain ⟨hcurrent, hprevious⟩ := selectorsAt_restored (hI.now.selectors t hjournal) hrestored
  have hopen := hrestored.open
  have hearly : t.rollbackRestored = true → t.ArtifactsMet w.toEngineState := fun hlate =>
    never_restored (hI.now.rules t hjournal) hlate (not_late hopen)
  refine Spec.ite (fun hactive => ?_) fun hactive => ?_
  · refine (finish_spec hF hjournal
      (fun hn => encodable_armed false (encodable_restored t.hostRestorePlanned (hencodable hn)))
      (by decide) (fun _ => .rolledBack (t := t) hjournal hrestored hactive) (not_terminal hopen)
      (fun hrules _ => later_rolledBack hrules hactive)
      (fun _ => hmet) (retains_baseline hcurrent hprevious)).weaken fun t' w' _ h => ?_
    obtain ⟨now, hcontinues, hended⟩ := h
    exact hended.recovers hcontinues (List.mem_cons_of_mem _ List.mem_cons_self)
      (fun hcommitted => by cases hcommitted) (fun howed => hfrom howed.planned) hearly
  · refine Spec.next (later_spec hF hjournal (fun hn => encodable_restored _ (hencodable hn))
      (by decide) (fun _ => .starting hjournal hrestored hactive) (not_terminal hopen)
      fun hrules _ => later_starting hrules hopen) fun t' w' _ h => ?_
    obtain ⟨now, rfl, hencodable', hstate⟩ := h
    have hjournal' : w'.journal = some ({ t with
        rollbackRestored := t.hostRestorePlanned }.moved .startingBaselineConsumers now) := by
      rw [hstate]
    have hreplaces : Replaces w.toEngineState ({ t with
        rollbackRestored := t.hostRestorePlanned }.moved .startingBaselineConsumers now) :=
      .starting hjournal hrestored hactive
    have hcontinues := continues_replaces hjournal hreplaces (by intro h; cases h)
    have hartifacts : w'.artifacts = w.artifacts := by rw [hstate]
    refine (queueBaselineConsumerStarts_spec hF hjournal' rfl fun _ hplanned => ?_).weaken
      fun t' w'' _ h => ?_
    · rw [Transaction.ArtifactsMet, hartifacts]
      exact hmet hplanned
    · obtain ⟨rfl, hstate', -⟩ := h
      refine ⟨?_, hcontinues, Or.inr rfl, (fun h => by cases h), fun howed => ?_, fun hlate => ?_⟩
      · rw [hstate', hjournal']
      · rw [Transaction.RestoredFrom, hstate', hartifacts]
        exact hfrom howed.planned
      · rw [Transaction.ArtifactsMet, hstate', hartifacts]
        exact hearly hlate

omit hF in
theorem Transaction.Restored.backward {s : EngineState} (h : t.Restored s) :
    t.phase ∈ Phase.backward := by
  rcases h with hphase | ⟨-, hphase, -⟩
  · rw [hphase]; decide
  · rw [hphase]; decide

theorem rollBackArmed_spec (hjournal : w.journal = some t) (hencodable : ¬F → t.Encodable)
    (hphase : t.phase ∉ Phase.decided) (harmed : t.consumerMutationArmed = true)
    (hreplaceable : ¬F → ∀ a ∈ t.hostArtifacts, Replaceable env.host (w.artifacts a.path)) :
    Spec (Running env.host s) w (rollBackArmed env t)
      (fun t' w' => Recovered env.host (w.files env.host) t w'.toEngineState t') fun _ => F := by
  refine Spec.next (quiesceConsumers_spec hF hjournal hencodable hphase harmed)
    fun t₁ w₁ _ h₁ => ?_
  obtain ⟨⟨⟨phase₁, now₁, rfl⟩, hjournal₁, hencodable₁, hbackups₁, hartifacts₁⟩, hphase₁, hstopped⟩ := h₁
  refine Spec.next (restoreSelectors_spec hF hjournal₁ hencodable₁ hphase₁ harmed hstopped)
    fun t₂ w₂ _ h₂ => ?_
  obtain ⟨⟨⟨phase₂, now₂, rfl⟩, hjournal₂, hencodable₂, hbackups₂, hartifacts₂⟩, hback⟩ := h₂
  refine Spec.next (restoreBoundaryPlanned_spec hF hjournal₂ hencodable₂ hback)
    fun t₃ w₃ _ h₃ => ?_
  obtain ⟨⟨⟨phase₃, now₃, rfl⟩, hjournal₃, hencodable₃, hbackups₃, hartifacts₃⟩, hboundary⟩ := h₃
  have hreplaceable₃ : ¬F → ∀ a ∈ t.hostArtifacts, Replaceable env.host (w₃.artifacts a.path) := by
    rw [hartifacts₃, hartifacts₂, hartifacts₁]
    exact hreplaceable
  refine Spec.next (restoreArtifactsPlanned_spec hF hjournal₃ hencodable₃ hboundary hreplaceable₃)
    fun t₄ w₄ _ h₄ => ?_
  obtain ⟨⟨phase₄, now₄, rfl⟩, hjournal₄, hencodable₄, hrestored, hfrom, hmet⟩ := h₄
  have hfiles : w₃.files env.host = w.files env.host := by
    funext name
    rw [EngineState.files, EngineState.files, hbackups₃, hbackups₂, hbackups₁]
  refine (finishRollback_spec hF hjournal₄ hencodable₄ hrestored (hfiles ▸ hfrom) hmet).weaken
    fun t' w' _ h => ?_
  have hcontinues : Continues t (t.moved phase₄ now₄) :=
    (SameTransaction.refl t).back (not_forward hphase) hrestored.backward
  exact {
    journal := h.journal
    continues := hcontinues.trans h.continues
    ended := h.ended
    committed := fun hcommitted => absurd (h.committed hcommitted) hrestored.not_forward
    restored := fun howed => h.restored ⟨hrestored.open, howed.armed, howed.planned⟩
    met := h.met }

theorem rollBackUnarmed_spec (hjournal : w.journal = some t) (hencodable : ¬F → t.Encodable)
    (hphase : t.phase ∉ Phase.decided) (hunarmed : t.consumerMutationArmed = false)
    (hselectors : ¬F → w.current = t.currentBefore ∧ w.previous = t.previousBefore) :
    Spec (Running env.host s) w (rollBackUnarmed env t)
      (fun t' w' => Recovered env.host (w.files env.host) t w'.toEngineState t') fun _ => F := by
  refine Spec.assume fun hI => selectors_spec hF id ?_
  refine Spec.gives_bind (failIf_gives fun h => not_not.mp fun hn => ?_) id fun _ h => ?_
  · exact h.elim (fun hne => hne (hselectors hn).1) fun hne => hne (hselectors hn).2
  rw [not_or, not_not, not_not] at h
  obtain ⟨hcurrent, hprevious⟩ := h
  refine (finish_spec hF hjournal
    (fun hn => encodable_restored false (encodable_disarmed (hencodable hn))) (by decide)
    (fun _ => .unarmed hjournal hphase hunarmed hcurrent hprevious) (not_terminal hphase)
    (fun _ _ => later_unarmed)
    (fun _ hrestored => by cases hrestored) (retains_baseline hcurrent hprevious)).weaken
    fun t' w' _ h => ?_
  obtain ⟨now, hcontinues, hended⟩ := h
  refine hended.recovers hcontinues (List.mem_cons_of_mem _ List.mem_cons_self)
    (fun hcommitted => by cases hcommitted) (fun howed => ?_) fun hlate => ?_
  · exact absurd (howed.armed.symm.trans hunarmed) (by decide)
  · exact never_restored (hI.now.rules t hjournal) hlate (not_late hphase)

/-! ## Rollback and commit -/

omit hF in
theorem mem_selectedDigests {digest : Str} : digest ∈ t.selectedDigests ↔
    digest = t.candidate ∨ t.currentBefore = some digest ∨ t.previousBefore = some digest := by
  rw [Transaction.selectedDigests, List.mem_cons, List.mem_append, Option.mem_toList,
    Option.mem_toList]

omit hF in
theorem selectorsAt_own {current previous : Option Str} (h : t.SelectorsAt current previous)
    (hphase : t.phase ∉ Phase.decided) :
    (∀ d ∈ current, d ∈ t.selectedDigests) ∧ ∀ d ∈ previous, d ∈ t.selectedDigests := by
  obtain ⟨hcurrent, hprevious⟩ := selectorsAt_open h hphase
  refine ⟨fun d (hd : current = some d) => mem_selectedDigests.mpr ?_,
    fun d (hd : previous = some d) => mem_selectedDigests.mpr ?_⟩
  · rcases hcurrent with heq | heq
    · exact Or.inr (Or.inl (heq.symm.trans hd))
    · exact Or.inl (Option.some.inj (hd.symm.trans heq))
  · rcases hprevious with heq | heq
    · exact Or.inr (Or.inr (heq.symm.trans hd))
    · exact Or.inr (Or.inl (heq.symm.trans hd))

theorem pendingRecovered_spec (hjournal : w.journal = some t)
    (hphase : t.phase = .startingBaselineConsumers)
    (hmet : ¬F → t.rollbackRestored = true → t.ArtifactsMet w.toEngineState) :
    Spec (Running env.host s) w (queueBaselineConsumerStarts env t)
      (fun t' w' => Recovered env.host (w.files env.host) t w'.toEngineState t') fun _ => F := by
  refine (queueBaselineConsumerStarts_spec hF hjournal hphase hmet).weaken fun t' w' _ h => ?_
  obtain ⟨rfl, hstate, hmet⟩ := h
  refine ⟨by rw [hstate, hjournal], Continues.refl _, Or.inr hphase, fun h => ?_, fun howed => ?_,
    fun hrestored => ?_⟩
  · exact absurd (hphase.symm.trans h) (by decide)
  · exact absurd howed.undecided (by rw [hphase]; decide)
  · rw [Transaction.ArtifactsMet, hstate]
    exact hmet hrestored

/-- Whatever phase a rollback is begun or taken up in, it goes on to its end. -/
theorem rollbackLocked_spec (hjournal : w.journal = some t) (hforward : ¬F → t.phase ∉ Phase.forward)
    (hrecoverable : ¬F → Recoverable env.host t w.toEngineState) :
    Spec (Running env.host s) w (rollbackLocked env t)
      (fun t' w' => Recovered env.host (w.files env.host) t w'.toEngineState t') fun _ => F := by
  have hencodable := fun hn => (hrecoverable hn).encodable
  have hkept := fun hn => (hrecoverable hn).kept
  refine Spec.assume fun hI => ?_
  have hselectors := hI.now.selectors t hjournal
  refine Spec.gives_bind (failIf_gives fun h => not_not.mp fun hn => ?_) id fun _ hopen => ?_
  · rcases h with h | h
    · exact hforward hn (by rw [h]; decide)
    · exact hforward hn (by rw [h]; decide)
  refine Spec.ite (fun hphase => ?_) fun hrolledBack => Spec.ite (fun hphase => ?_) fun hstarting => ?_
  · exact (settleRolledBack_spec hF hjournal hphase hencodable hkept).weaken
      fun _ _ _ hended => hended.recovered (by rw [hphase]; decide)
  · exact pendingRecovered_spec hF hjournal hphase hkept
  have hphase : t.phase ∉ Phase.decided := by
    simp only [Phase.decided, List.mem_cons, List.not_mem_nil, or_false, not_or] at hopen ⊢
    exact ⟨hopen.1, hopen.2, hstarting, hrolledBack⟩
  refine Spec.gives_bind (assertSelectors_gives hF hI.now fun _ => ⟨?_, ?_, ?_⟩) id fun _ _ => ?_
  · exact fun d hd => (selectorsAt_own hselectors hphase).1 d hd
  · exact fun d hd => (selectorsAt_own hselectors hphase).2 d hd
  · intro h; cases h
  refine Spec.ite (fun harmed => ?_) fun hunarmed => ?_
  · exact rollBackArmed_spec hF hjournal hencodable hphase harmed
      fun hn => (hrecoverable hn).replaceable hphase
  · have hunarmed := Bool.of_not_eq_true hunarmed
    refine rollBackUnarmed_spec hF hjournal hencodable hphase hunarmed fun _ => ?_
    have hearly := (hI.now.armed t hjournal hunarmed).resolve_right hphase
    simp only [List.mem_cons, List.not_mem_nil, or_false] at hearly
    rcases hearly with hearly | hearly
    · exact hselectors.at hearly
    · exact hselectors.at hearly

end Specs

end TrexWebui.ReleaseEngine
