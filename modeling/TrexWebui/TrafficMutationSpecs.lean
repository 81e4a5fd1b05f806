import TrexWebui.TrafficMutations

/-!
# What each mutation can do

One inversion lemma for each closure: if it returns a candidate document,
then these were the conditions, and this is the candidate. Everything that
is proved about the writes of the authority starts from these lemmas; the
definitions are not unfolded again.
-/

namespace TrexWebui

variable {d c : RuntimeStateDocument}

theorem clearStopped_some {id : Uuid} (h : clearStopped id d = .ok (some c)) :
    ∃ session, d.trafficSession = some session ∧ d.trafficMutationIntent = none
      ∧ (∃ g ∈ session.groups, g.state = .stopped ∧ g.hardStopAt ≠ none)
      ∧ c = { d with trafficSession := some { session with
          groups := session.groups.map fun g =>
            if decide (g.state = .stopped) && g.hardStopAt.isSome then
              { g with hardStopAt := none } else g } } := by
  unfold clearStopped at h
  split at h
  · cases h
  · rename_i session hsession
    split at h
    · cases h
    · rename_i hguard
      dsimp only at h
      split at h
      · rename_i hany
        obtain ⟨g, hg, hlease⟩ := List.any_eq_true.mp hany
        rw [Bool.and_eq_true, decide_eq_true_eq, Option.isSome_iff_ne_none] at hlease
        have hintent : d.trafficMutationIntent = none := by
          by_contra hne
          exact hguard (.inr hne)
        exact ⟨session, hsession, hintent, ⟨g, hg, hlease⟩,
          (Option.some.inj (Except.ok.inj h)).symm⟩
      · cases h

theorem retire_some {id nonce : Option Uuid} {now : Time}
    (h : retire id nonce now d = .ok (some c)) :
    c = { d with
      trafficSession := d.trafficSession.map (retiredSession now)
      trafficMutationIntent := none } := by
  unfold retire at h
  split at h
  · cases h
  · exact (Option.some.inj (Except.ok.inj h)).symm

theorem retainAfterStop_some {session : TrafficSessionState}
    {intent : TrafficMutationIntentState} {leaseIdentity : List (List Port × Option Time)}
    {ports : List Port} {now : Time}
    (h : retainAfterStop session intent leaseIdentity ports now d = .ok (some c)) :
    d.trafficSession = some session ∧ d.trafficMutationIntent = some intent
      ∧ intent.sessionBefore = some session
      ∧ (∃ g ∈ session.groups, g.leaseIdentity ∈ leaseIdentity)
      ∧ c = { d with
          trafficSession := some (retainedSession intent leaseIdentity now session)
          trafficMutationIntent := some (retainIntent ports
            (retainedSession intent leaseIdentity now session) intent) } := by
  unfold retainAfterStop at h
  split at h
  · cases h
  · rename_i hguard
    split at h
    · cases h
    · rename_i hmatched
      rw [not_or, not_or, not_not, not_not, not_not] at hguard
      refine ⟨hguard.1, hguard.2.1, hguard.2.2, ?_, (Option.some.inj (Except.ok.inj h)).symm⟩
      by_contra hnone
      refine hmatched (List.all_eq_true.mpr fun g hg => decide_eq_true ?_)
      exact fun hmem => hnone ⟨g, hg, hmem⟩

theorem supersede_some {session : TrafficSessionState} {intent : TrafficMutationIntentState}
    {authority : RuntimeAuthorityIdentity} {leaseIdentity : List (List Port × Option Time)}
    {observedAt : Time} {hardStop : TrafficMutationIntentState}
    (h : supersede session intent authority leaseIdentity observedAt hardStop d
      = .ok (some c)) :
    d.trafficSession = some session ∧ d.trafficMutationIntent = some intent
      ∧ intent.sessionBefore = some session ∧ session.authority = authority
      ∧ c = { d with trafficMutationIntent := some hardStop } := by
  unfold supersede at h
  split at h
  · cases h
  · rename_i hguard
    rw [not_or, not_or, not_or, not_not, not_not, not_not, not_not] at hguard
    dsimp only at h
    split at h
    · exact ⟨hguard.1, hguard.2.1, hguard.2.2.1, hguard.2.2.2,
        (Option.some.inj (Except.ok.inj h)).symm⟩
    · cases h

theorem replace_some {revision : Nat} {groups : List TrafficGroupState}
    (h : replace revision groups d = .ok (some c)) :
    d.trafficMutationIntent = none
      ∧ c = { d with
          trafficGroups := groups
          trafficPlanRevision := d.trafficPlanRevision + 1 } := by
  unfold replace at h
  split at h
  · cases h
  · split at h
    · cases h
    · rename_i hnone
      simp only at h
      split at h
      · exact ⟨hnone, (Option.some.inj (Except.ok.inj h)).symm⟩
      · cases h

theorem initializePlan_some {groups : List TrafficGroupState}
    (h : initializePlan groups d = .ok (some c)) :
    c = { d with trafficGroups := groups, trafficPlanRevision := 1 } := by
  unfold initializePlan at h
  split at h
  · cases h
  · exact (Option.some.inj (Except.ok.inj h)).symm

theorem assertStartSessionAuthority_ok {authority : RuntimeAuthorityIdentity}
    {id owned : Option Uuid} (h : assertStartSessionAuthority d authority id owned = .ok ()) :
    d.trafficMutationIntent = none
      ∧ (id = none → ∀ s, d.trafficSession = some s → s.state = .stopped)
      ∧ (∀ u, id = some u → ∃ s, d.trafficSession = some s ∧ s.id = u
          ∧ s.state.safelyActive = true ∧ s.evidenceVersion = some .one
          ∧ s.authority = authority ∧ owned = some u) := by
  unfold assertStartSessionAuthority at h
  by_cases hintent : d.trafficMutationIntent = none
  · rw [if_neg (not_not.mpr hintent)] at h
    refine ⟨hintent, ?_⟩
    cases id with
    | none =>
        refine ⟨fun _ s hs => ?_, nofun⟩
        rw [hs] at h
        by_contra hstate
        simp only [if_neg hstate] at h
        cases h
    | some u =>
        refine ⟨nofun, ?_⟩
        rintro _ ⟨⟩
        cases hs : d.trafficSession with
        | none => rw [hs] at h; cases h
        | some s =>
            simp only [hs] at h
            split_ifs at h with h1 h2 h3 h4 h5
            rw [not_not] at h1 h3 h4 h5
            exact ⟨s, rfl, h1, by simpa using h2, h3, h4, h5.symm.trans (congrArg some h1)⟩
  · rw [if_pos hintent] at h
    cases h

theorem prepare_some {intent : TrafficMutationIntentState} {owned : Option Uuid}
    (h : prepare intent owned d = .ok (some c)) :
    d.trafficMutationIntent = none ∧ d.trafficSession = intent.sessionBefore
      ∧ (intent.operation = .start → assertStartSessionAuthority d intent.authority
          intent.expectedSessionId owned = .ok ())
      ∧ (intent.operation ≠ .start → ∃ s, d.trafficSession = some s
          ∧ some s.id = intent.expectedSessionId ∧ some s.id = owned
          ∧ s.authority = intent.authority ∧ s.state.safelyActive = true)
      ∧ c = { d with trafficMutationIntent := some intent } := by
  unfold prepare at h
  split_ifs at h with hintent hsession hstart
  · rw [not_not] at hintent hsession
    refine ⟨hintent, hsession, fun _ => ?_, fun hne => absurd hstart hne, ?_⟩
    · split at h
      · cases h
      · assumption
    · split at h
      · cases h
      · exact (Option.some.inj (Except.ok.inj h)).symm
  · rw [not_not] at hintent hsession
    refine ⟨hintent, hsession, fun hs => absurd hs hstart, fun _ => ?_, ?_⟩
    · split at h
      · cases h
      · rename_i s hs
        split at h
        · rename_i hall
          exact ⟨s, hs, hall⟩
        · cases h
    · split at h
      · cases h
      · split at h
        · exact (Option.some.inj (Except.ok.inj h)).symm
        · cases h

/-- `prepare` writes or raises. -/
theorem prepare_ne_none {intent : TrafficMutationIntentState} {owned : Option Uuid} :
    prepare intent owned d ≠ .ok none := by
  intro h
  unfold prepare at h
  split_ifs at h
  · split at h <;> cases h
  · split at h
    · cases h
    · split at h <;> cases h

theorem advance_some {nonce : Uuid} {stage : HardwareStage}
    {ids : Option (Dict Port (List Nat))} {budget : TrafficMutationIntentState → Option String}
    (h : advance nonce stage ids budget d = .ok (some c)) :
    ∃ intent, d.trafficMutationIntent = some intent ∧ intent.nonce = nonce
      ∧ intent.operation = .start
      ∧ ((stage.order < intent.hardwareStage.order ∧ c = d)
        ∨ (intent.hardwareStage.order ≤ stage.order ∧ ∃ streams,
            ((stage = .acquired ∧ ∃ sampled, ids = some sampled ∧ streams = some sampled
                ∧ sampled.keys = intent.ports.toFinset)
              ∨ (stage ≠ .acquired ∧ streams = intent.baselineStreamIds
                ∧ (HardwareStage.streamsRemoveIntent.order ≤ stage.order → streams ≠ none)))
            ∧ c = { d with trafficMutationIntent := some { intent with
                baselineStreamIds := streams
                hardwareStage := stage
                reconciliation :=
                  some s!"live TRex start reached durable stage {stage.text}" } })) := by
  unfold advance at h
  split at h
  · cases h
  · rename_i intent hintent
    split at h
    · cases h
    · rename_i hguard
      rw [not_or, not_not, not_not] at hguard
      refine ⟨intent, hintent, hguard.1, hguard.2, ?_⟩
      split at h
      · rename_i horder
        exact .inl ⟨horder, (Option.some.inj (Except.ok.inj h)).symm⟩
      · rename_i horder
        refine .inr ⟨Nat.not_lt.mp horder, ?_⟩
        split at h
        · cases h
        · simp only at h
          split at h
          · rename_i hacquired
            split at h
            · cases h
            · split at h
              · rename_i sampled hkeys
                exact ⟨some sampled, .inl ⟨hacquired, sampled, rfl, rfl, hkeys⟩,
                  (Option.some.inj (Except.ok.inj h)).symm⟩
              · cases h
          · rename_i hacquired
            split at h
            · cases h
            · rename_i hstreams
              refine ⟨intent.baselineStreamIds, .inr ⟨hacquired, rfl, fun hle hnone => ?_⟩,
                (Option.some.inj (Except.ok.inj h)).symm⟩
              exact hstreams ⟨hle, hnone⟩

/-- `advance` writes or raises. -/
theorem advance_ne_none {nonce : Uuid} {stage : HardwareStage}
    {ids : Option (Dict Port (List Nat))} {budget : TrafficMutationIntentState → Option String} :
    advance nonce stage ids budget d ≠ .ok none := by
  intro h
  unfold advance at h
  split at h
  · cases h
  · split at h
    · cases h
    · split at h
      · cases h
      · split at h
        · cases h
        · simp only at h
          split at h
          · split at h
            · cases h
            · split at h <;> cases h
          · split at h <;> cases h

theorem retain_some {nonce : Uuid} {reason : String} (h : retain nonce reason d = .ok (some c)) :
    ∃ intent, d.trafficMutationIntent = some intent ∧ intent.nonce = nonce
      ∧ c = { d with trafficMutationIntent := some { intent with
          phase := .cleanupRequired
          reconciliation := some s!"live mutation did not complete cleanly: {reason}" } } := by
  unfold retain at h
  split at h
  · cases h
  · rename_i intent hintent
    split at h
    · cases h
    · rename_i hnonce
      exact ⟨intent, hintent, not_not.mp hnonce, (Option.some.inj (Except.ok.inj h)).symm⟩

theorem clear_some {nonce : Uuid} {session : Option TrafficSessionState}
    (h : clear nonce session d = .ok (some c)) :
    d.trafficMutationIntent.map (·.nonce) = some nonce ∧ d.trafficSession = session
      ∧ c = { d with trafficMutationIntent := none } := by
  unfold clear at h
  split_ifs at h with hnonce hsession
  exact ⟨not_not.mp hnonce, not_not.mp hsession, (Option.some.inj (Except.ok.inj h)).symm⟩

/-- `clear` writes or raises. -/
theorem clear_ne_none {nonce : Uuid} {session : Option TrafficSessionState} :
    clear nonce session d ≠ .ok none := by
  intro h
  unfold clear at h
  split_ifs at h
  cases h

theorem retireAfterRollover_some {nonce : Uuid} {authority : RuntimeAuthorityIdentity}
    {now : Time} (h : retireAfterRollover nonce authority now d = .ok (some c)) :
    ∃ intent, d.trafficMutationIntent = some intent ∧ intent.nonce = nonce
      ∧ intent.authority = authority ∧ d.trafficSession = intent.sessionBefore
      ∧ c = { d with
          trafficSession := d.trafficSession.map (rolledOverSession authority now)
          trafficMutationIntent := none } := by
  unfold retireAfterRollover at h
  split at h
  · cases h
  · rename_i intent hintent
    split at h
    · cases h
    · rename_i hguard
      rw [not_or, not_not, not_not] at hguard
      split at h
      · cases h
      · rename_i hsession
        exact ⟨intent, hintent, hguard.1, hguard.2, not_not.mp hsession,
          (Option.some.inj (Except.ok.inj h)).symm⟩

/-! ## Promotion -/

theorem TrafficMutationIntentState.evidence_ok {i : TrafficMutationIntentState}
    {mode : TrafficCompletionMode} {now : Time} {e : TrafficMutationEvidenceState}
    (h : i.evidence mode now = .ok e) :
    e.intentNonce = i.nonce ∧ e.operation = i.operation ∧ e.completionMode = mode
      ∧ e.ports = i.ports ∧ e.completedAt = now := by
  unfold TrafficMutationIntentState.evidence at h
  split at h
  · cases h
    exact ⟨rfl, rfl, rfl, rfl, rfl⟩
  · cases h

theorem promoteStart_ok {intent : TrafficMutationIntentState}
    {authority : RuntimeAuthorityIdentity} {owned : Option Uuid}
    {evidence : TrafficMutationEvidenceState} {now : Time}
    {existing : Option TrafficSessionState} {session : TrafficSessionState}
    (h : promoteStart intent authority owned evidence now existing = .ok session) :
    ∃ started, intent.startGroup = some started
      ∧ ((intent.expectedSessionId = none
          ∧ (∀ s, existing = some s → s.state = .stopped)
          ∧ session = createdSession intent authority
              (promotedGroup intent started evidence now) evidence now)
        ∨ (∃ before, existing = some before ∧ intent.expectedSessionId = some before.id
          ∧ owned = some before.id ∧ before.state.safelyActive = true
          ∧ before.authority = authority
          ∧ (∀ g ∈ before.groups, g.meets intent.ports = true → g.state = .stopped)
          ∧ session = joinedSession intent (promotedGroup intent started evidence now)
              evidence now before)) := by
  unfold promoteStart at h
  cases hgroup : intent.startGroup with
  | none => simp only [hgroup] at h; cases h
  | some started =>
      refine ⟨started, rfl, ?_⟩
      simp only [hgroup] at h
      cases hid : intent.expectedSessionId with
      | none =>
          simp only [hid] at h
          split at h
          · cases h
          · rename_i hstopped
            refine .inl ⟨rfl, fun s hs => ?_, (Except.ok.inj h).symm⟩
            subst hs
            by_contra hne
            exact hstopped (decide_eq_true hne)
      | some id =>
          cases existing with
          | none => simp only [hid] at h; cases h
          | some before =>
              simp only [hid] at h
              split at h
              · cases h
              · rename_i hguard
                rw [not_or, not_or, not_or, not_not, not_not, not_not] at hguard
                split at h
                · cases h
                · rename_i hactive
                  refine .inr ⟨before, rfl, by rw [hguard.1], hguard.2.1.symm,
                    by simpa using hguard.2.2.1, hguard.2.2.2, fun g hg hmeets => ?_,
                    (Except.ok.inj h).symm⟩
                  by_contra hne
                  exact hactive (List.any_eq_true.mpr
                    ⟨g, List.mem_filter.mpr ⟨hg, hmeets⟩, decide_eq_true hne⟩)

theorem promoteMutation_ok {intent : TrafficMutationIntentState}
    {authority : RuntimeAuthorityIdentity} {mode : TrafficCompletionMode}
    {owned : Option Uuid} {evidence : TrafficMutationEvidenceState} {now : Time}
    {existing : Option TrafficSessionState} {session : TrafficSessionState}
    (h : promoteMutation intent authority mode owned evidence now existing = .ok session) :
    ∃ before, existing = some before ∧ intent.expectedSessionId = some before.id
      ∧ owned = some before.id ∧ before.authority = authority
      ∧ ((intent.operation = .update ∧ ∃ multiplier,
            intent.updateMultiplier = some multiplier
            ∧ (∃ g ∈ before.groups, g.coveredBy intent.ports = true)
            ∧ session = finishedSession intent evidence now before { before with
                groups := before.groups.map (promoteUpdateGroup intent multiplier now) })
        ∨ (intent.operation ≠ .update
            ∧ (∃ g ∈ before.groups, g.meets intent.ports = true)
            ∧ session = finishedSession intent evidence now before { before with
                groups := actedGroups intent mode now before
                state := aggregateState (before.groups.map (promoteActionGroup intent now))
                endedAt :=
                  if aggregateState (before.groups.map (promoteActionGroup intent now))
                    = .stopped then some now else none })) := by
  unfold promoteMutation at h
  cases existing with
  | none => cases h
  | some before =>
      simp only at h
      split at h
      · cases h
      · rename_i hguard
        rw [not_or, not_or, not_not, not_not, not_not] at hguard
        refine ⟨before, rfl, hguard.1.symm, hguard.2.1.symm, hguard.2.2, ?_⟩
        split at h
        · rename_i hupdate
          split at h
          · cases h
          · rename_i multiplier hmultiplier
            split at h
            · rename_i hcovered
              refine .inl ⟨hupdate, multiplier, hmultiplier,
                List.any_eq_true.mp hcovered, ?_⟩
              exact (Except.ok.inj h).symm
            · cases h
        · rename_i hupdate
          split at h
          · rename_i hmeets
            refine .inr ⟨hupdate, List.any_eq_true.mp hmeets, ?_⟩
            exact (Except.ok.inj h).symm
          · cases h

theorem promote_some {nonce : Uuid} {operation : TrafficOperation}
    {authority : RuntimeAuthorityIdentity} {mode : TrafficCompletionMode}
    {owned : Option Uuid} {now : Time}
    (h : promote nonce operation authority mode owned now d = .ok (some c)) :
    ∃ intent evidence session, d.trafficMutationIntent = some intent
      ∧ intent.nonce = nonce ∧ intent.operation = operation ∧ intent.authority = authority
      ∧ d.trafficSession = intent.sessionBefore
      ∧ intent.evidence mode now = .ok evidence
      ∧ (operation = .start →
          promoteStart intent authority owned evidence now d.trafficSession = .ok session)
      ∧ (operation ≠ .start →
          promoteMutation intent authority mode owned evidence now d.trafficSession
            = .ok session)
      ∧ c = { d with trafficSession := some session, trafficMutationIntent := none } := by
  unfold promote at h
  split at h
  · cases h
  · rename_i intent hintent
    split_ifs at h with h1 h2 h3 h4
    · rw [not_or, not_not, not_not] at h1
      rw [not_not] at h2 h3
      cases hevidence : intent.evidence mode now with
      | error e => rw [hevidence] at h; cases h
      | ok evidence =>
          cases hsession : promoteStart intent authority owned evidence now
              d.trafficSession with
          | error e => rw [hevidence, bind, Except.instMonad] at h; simp [hsession, Except.bind] at h
          | ok session =>
              rw [hevidence] at h
              change (do
                let session ← promoteStart intent authority owned evidence now d.trafficSession
                pure _ : Except TrafficError _) = _ at h
              rw [hsession] at h
              refine ⟨intent, evidence, session, hintent, h1.1, h1.2, h2, h3, hevidence,
                fun _ => hsession, fun hne => absurd (h1.2 ▸ h4) hne, ?_⟩
              exact (Option.some.inj (Except.ok.inj h)).symm
    · rw [not_or, not_not, not_not] at h1
      rw [not_not] at h2 h3
      cases hevidence : intent.evidence mode now with
      | error e => rw [hevidence] at h; cases h
      | ok evidence =>
          cases hsession : promoteMutation intent authority mode owned evidence now
              d.trafficSession with
          | error e => rw [hevidence, bind, Except.instMonad] at h; simp [hsession, Except.bind] at h
          | ok session =>
              rw [hevidence] at h
              change (do
                let session ← promoteMutation intent authority mode owned evidence now
                  d.trafficSession
                pure _ : Except TrafficError _) = _ at h
              rw [hsession] at h
              refine ⟨intent, evidence, session, hintent, h1.1, h1.2, h2, h3, hevidence,
                fun hs => absurd (h1.2.trans hs) h4, fun _ => hsession, ?_⟩
              exact (Option.some.inj (Except.ok.inj h)).symm

/-- `promote` writes or raises. -/
theorem promote_ne_none {nonce : Uuid} {operation : TrafficOperation}
    {authority : RuntimeAuthorityIdentity} {mode : TrafficCompletionMode}
    {owned : Option Uuid} {now : Time} :
    promote nonce operation authority mode owned now d ≠ .ok none := by
  intro h
  unfold promote at h
  split at h
  · cases h
  · rename_i intent _
    split_ifs at h
    all_goals
      cases hevidence : intent.evidence mode now with
      | error e => rw [hevidence] at h; cases h
      | ok evidence =>
          rw [hevidence] at h
          simp only [bind, Except.bind] at h
          split at h <;> cases h

theorem persistReconciled_some {id : Uuid} {groups : List TrafficSessionGroupState}
    {now : Time} {reconciliation : String}
    (h : persistReconciled id groups now reconciliation d = .ok (some c)) :
    ∃ session, d.trafficSession = some session ∧ session.id = id
      ∧ c = { d with trafficSession := some { session with
          groups := groups
          state := aggregateState groups
          updatedAt := now
          endedAt :=
            if aggregateState groups = .stopped then some (session.endedAt.getD now) else none
          revision := session.revision + 1
          reconciliation := some reconciliation } } := by
  unfold persistReconciled at h
  split at h
  · cases h
  · rename_i session hsession
    split at h
    · cases h
    · rename_i hid
      exact ⟨session, hsession, not_not.mp hid, (Option.some.inj (Except.ok.inj h)).symm⟩

end TrexWebui
