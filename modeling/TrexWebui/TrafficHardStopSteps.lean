import TrexWebui.TrafficRuntimeSteps

/-!
# Steps of the hard-stop supervisor

The reaper has four routes to the hardware. Each of them stops only ports
whose lease has expired in the durable document, and the document only ever
loses expired leases while the reaper runs. With the specifications of the
other operations this gives the run theorem: whatever is called, answered or
cut short, every world that is reached is good.
-/

namespace TrexWebui

open OracleProgram

section

variable {env : TrafficEnvironment} {initial : RuntimeStateDocument} {inv : Invocation}
  {past : List Effect} {w w' : TrafficWorld} {α β : Type} {i : TrafficMutationIntentState}

/-! ## Exact stops -/

theorem stopRemaining_spec {configuredPorts : List Port}
    (hcovered : ∀ r : Rpc, r.isStop = true → r.Within i.ports → Covered r w.moment)
    (hreap : Reapable env inv i.ports) :
    Spec (Sound env initial inv past) w (stopRemaining env i configuredPorts)
      (fun _ w' => SameState w w' ∧ True) (SameState w) := by
  unfold stopRemaining
  refine Spec.query_bind (.refl w) fun before => ?_
  refine Spec.bind (liftExcept_spec (.refl w) fun _ _ => ?_)
  dsimp only
  refine Spec.call (S := fun _ => SameState w) (F := SameState w) (Spec.ite (fun _ =>
    Spec.pure (.refl _)) fun _ => ?_) ?_ fun _ _ h => h
  · have hwithin : (Rpc.stop (some (i.ports.filter fun p =>
        (before.getD p .unknown).active))).Within i.ports :=
      ⟨_, rfl, fun p hp => (List.mem_filter.mp hp).1⟩
    refine Spec.bind (issue_spec (fun hw => mayIssue_of_covered rfl rfl
      (hcovered _ rfl hwithin) (hw.isolated hreap rfl hwithin)) (.refl w) (fun _ => ?_)
      ⟨rfl, rfl, rfl, rfl⟩)
    exact liftExcept_spec ⟨rfl, rfl, rfl, rfl⟩ fun _ _ => ⟨rfl, rfl, rfl, rfl⟩
  · intro _ w' _ hw'
    refine Spec.query_bind hw' fun after => ?_
    exact Spec.bind (liftExcept_spec hw' fun _ _ => Spec.pure ⟨hw', trivial⟩)

theorem executeExactHardStopIntent_spec {configuredPorts : List Port}
    (hcovered : ∀ r : Rpc, r.isStop = true → r.Within i.ports → Covered r w.moment)
    (hreap : Reapable env inv i.ports) :
    Spec (Sound env initial inv past) w (executeExactHardStopIntent env i configuredPorts)
      (fun _ => SameState w) (SameState w) := by
  unfold executeExactHardStopIntent
  exact (withMutationPortsControlled_spec (P := fun _ _ => True) (.refl w)
    (stopRemaining_spec hcovered hreap)).mono (fun _ _ _ h => h.1) fun _ _ h => h

/-! ## Stops over a pending mutation -/

/-- What `_stop_expired_leases_over_pending_mutation` works on describes the document. -/
structure ExpiredLeases.Current (x : ExpiredLeases) (inv : Invocation) (w : TrafficWorld) :
    Prop where
  session : w.document.trafficSession = some x.session
  intent : w.document.trafficMutationIntent = some x.intent
  authority : w.authority = some x.authority
  reaping : inv.reapedAt = some x.observedAt
  leased : x.leasedGroups = x.session.groups.filter (·.leaseExpired x.observedAt)

variable {x : ExpiredLeases}

theorem ExpiredLeases.Current.sameState (h : x.Current inv w) (hw : SameState w w') :
    x.Current inv w' :=
  ⟨hw.document ▸ h.session, hw.document ▸ h.intent, hw.authority.trans h.authority,
    h.reaping, h.leased⟩

theorem ExpiredLeases.Current.draw (h : x.Current inv w) : x.Current inv w.draw :=
  ⟨h.session, h.intent, h.authority, h.reaping, h.leased⟩

/-- A port with an expired lease is in a group that is not stopped, or in the start whose
lease has expired. -/
theorem ExpiredLeases.Current.mem_allExpiredPorts (h : x.Current inv w) {p : Port}
    (hp : p ∈ x.allExpiredPorts) :
    (∃ g ∈ x.session.groups, g.leaseExpired x.observedAt = true ∧ p ∈ g.ports)
      ∨ (x.intent.expiredStart x.observedAt = true ∧ p ∈ x.intent.ports) := by
  unfold ExpiredLeases.allExpiredPorts at hp
  rw [mem_sortedSet, List.mem_append, List.mem_flatMap] at hp
  rcases hp with ⟨g, hg, hport⟩ | hp
  · rw [h.leased, List.mem_filter] at hg
    exact .inl ⟨g, hg.1, hg.2, hport⟩
  · by_cases hexpired : x.intent.expiredStart x.observedAt = true
    · rw [if_pos hexpired] at hp
      exact .inr ⟨hexpired, hp⟩
    · rw [if_neg hexpired] at hp
      cases hp

theorem ExpiredLeases.Current.expired (h : x.Current inv w) {p : Port}
    (hp : p ∈ x.allExpiredPorts) : p ∈ w.document.expiredPorts x.observedAt := by
  rw [mem_expiredPorts]
  rcases h.mem_allExpiredPorts hp with ⟨g, hg, hlease, hport⟩ | ⟨hexpired, hport⟩
  · exact .inl ⟨x.session, h.session, g, hg, leaseOver_of_leaseExpired hlease, hport⟩
  · exact .inr ⟨x.intent, h.intent, hexpired, hport⟩

theorem Sound.reapable (hw : Sound env initial inv past w) {now : Time}
    (hnow : inv.reapedAt = some now) {ports : List Port}
    (h : ∀ p ∈ ports, p ∈ w.document.expiredPorts now) : Reapable env inv ports := by
  intro t ht _ p hp
  obtain rfl := Option.some.inj (hnow.symm.trans ht)
  have hleases := hw.good.leases now
  rw [hw.invocation] at hleases
  exact hleases hnow p (h p hp)

theorem Sound.covered_expired (hw : Sound env initial inv past w) {now : Time}
    (hnow : inv.reapedAt = some now) {ports : List Port}
    (h : ∀ p ∈ ports, p ∈ w.document.expiredPorts now) {r : Rpc} (hr : r.isStop = true)
    (hwithin : r.Within ports) : Covered r w.moment :=
  .inr ⟨hr, now, by rw [← hnow]; exact congrArg Invocation.reapedAt hw.invocation,
    hwithin.mono h⟩

theorem rollbackExpiredStart_safe {rpcPorts configuredPorts : List Port}
    (hcurrent : x.Current inv w) (hexpired : x.intent.expiredStart x.observedAt = true)
    (hbefore : x.intent.sessionBefore = some x.session)
    (hauthority : x.intent.authority = x.authority) :
    Safe env initial inv past w (rollbackExpiredStart env x rpcPorts configuredPorts) := by
  refine Spec.assume fun hw => ?_
  have hheld : Held x.intent w := ⟨⟨⟨x.intent, hcurrent.intent, .refl _⟩,
    hcurrent.session.trans hbefore.symm⟩, hauthority ▸ hcurrent.authority⟩
  have hreap : Reapable env inv x.intent.ports := hw.reapable hcurrent.reaping fun p hp =>
    mem_expiredPorts.mpr (.inr ⟨x.intent, hcurrent.intent, hexpired, hp⟩)
  unfold rollbackExpiredStart
  dsimp only
  refine Spec.call (rollbackFailedStart_spec hheld hreap) ?_ fun _ _ _ => trivial
  intro r w' _ _
  cases r with
  | failed f => exact Spec.pure trivial
  | ok u =>
      refine Spec.query_bind trivial fun r => ?_
      cases r with
      | failed f => exact Spec.pure trivial
      | ok sampled =>
          refine Spec.guarded (S := fun _ _ => True) (F := fun _ => True) ?_
            (fun _ _ _ _ => Spec.pure trivial) (fun _ _ _ _ => Spec.pure trivial)
            fun _ _ h => h
          refine Spec.call clearTrafficMutationIntent_spec ?_ fun _ _ _ => trivial
          rintro d w'' _ ⟨hd, hwrote⟩
          have hnone : d.trafficMutationIntent = none := by
            obtain ⟨candidate, now, happly, _, rfl⟩ := hwrote
            obtain ⟨_, _, rfl⟩ := clear_some happly
            rw [hd]
            rfl
          have hd' : d = (w''.own (some x.session.id)).document := hd
          exact setOwned_bind ((reconcileSession_spec hd' hnone).mono (fun _ _ _ _ => trivial)
            fun _ _ h => h)

theorem retainPendingIntent_safe {rpcPorts : List Port} (hcurrent : x.Current inv w)
    (hstop : x.isSupersedingStop = false) :
    Safe env initial inv past w (retainPendingIntent env x rpcPorts) := by
  unfold retainPendingIntent
  refine Spec.query_bind trivial fun now => ?_
  have hmay : MayWrite w (.retainAfterStop x.session x.intent x.leaseIdentity
      x.expiredGroupPorts now) := by
    refine ⟨⟨hstop, x.observedAt, ?_, ?_⟩, fun _ h => (nomatch h), fun _ => rfl⟩
    · rw [← hcurrent.leased]; rfl
    · rw [← hcurrent.leased]; rfl
  refine Spec.guarded (storeUpdate_spec fun _ => hmay) (fun retained w' _ _ => ?_)
    (fun _ _ _ _ => Spec.pure trivial) fun _ _ _ => trivial
  exact setOwned_bind (Spec.pure trivial)

theorem stopDirectly_safe {baseline : MutationBaseline} {configuredPorts : List Port}
    (hcurrent : x.Current inv w) (hstop : x.isSupersedingStop = false)
    (hbefore : x.intent.sessionBefore = some x.session)
    (hauthority : x.intent.authority = x.authority) :
    Safe env initial inv past w (stopDirectly env x baseline configuredPorts) := by
  unfold stopDirectly
  refine freshUuid_bind (Spec.assume fun hw => ?_)
  refine Spec.query_bind trivial fun preparedAt => ?_
  refine Spec.bind (Spec.raiseIf (fun _ => trivial) fun _ => ?_)
  -- the stop is covered by the expired leases themselves
  have hports : ∀ p ∈ (x.directIntent baseline ⟨w.nonces⟩ preparedAt).ports,
      p ∈ w.draw.document.expiredPorts x.observedAt := by
    intro p hp
    change p ∈ x.targetPorts at hp
    unfold ExpiredLeases.targetPorts at hp
    rw [hstop, if_neg Bool.false_ne_true] at hp
    exact hcurrent.draw.expired hp
  refine Spec.call (executeExactHardStopIntent_spec
    (fun r hr hwithin => hw.covered_expired hcurrent.reaping hports hr hwithin)
    (hw.reapable hcurrent.reaping hports)) ?_ fun _ _ _ => trivial
  intro r w' _ hsame
  have hcurrent' := hcurrent.draw.sameState hsame
  cases r with
  | failed f => exact Spec.pure trivial
  | ok rpcPorts =>
      exact Spec.ite (fun hexpired => rollbackExpiredStart_safe hcurrent' hexpired hbefore
        hauthority) fun _ => retainPendingIntent_safe hcurrent' hstop

theorem finishHardStop_safe {configuredPorts : List Port}
    (hpending : w.document.trafficMutationIntent = some i) (hi : i.authority = x.authority)
    (hauthority : w.authority = some x.authority) (hreap : Reapable env inv i.ports) :
    Safe env initial inv past w (finishHardStop env x i configuredPorts) := by
  have hcovered : ∀ r : Rpc, r.isStop = true → r.Within i.ports → Covered r w.moment :=
    fun r _ hwithin => .inl ⟨i, hpending, hwithin, hauthority.trans (by rw [hi])⟩
  unfold finishHardStop
  dsimp only
  refine Spec.call (executeExactHardStopIntent_spec hcovered hreap) ?_ fun _ _ _ => trivial
  intro r w' _ _
  cases r with
  | failed f =>
      exact Spec.call retainFailedMutationIntent_safe (fun _ _ _ _ => Spec.pure trivial)
        fun _ _ h => h
  | ok rpcPorts =>
      refine Spec.guarded (S := fun _ _ => True) (F := fun _ => True) ?_ ?_ ?_ fun _ _ h => h
      · unfold assertAuthorityUnchanged
        refine Spec.bind (Spec.bind (currentAuthority_spec trivial fun a => ?_))
        refine Spec.raiseIf (fun _ => trivial) fun _ => setOwned_bind ?_
        exact persistAction_safe fun _ => rfl
      · intro session w'' _ _
        refine Spec.call (S := fun _ _ => True) (F := fun _ => True) ?_
          (fun _ _ _ _ => Spec.pure trivial) fun _ _ h => h
        cases session.filter fun s => s.state ≠ .stopped with
        | some session => exact setOwned_spec trivial
        | none => exact Spec.pure trivial
      · exact fun _ _ _ _ => Spec.call retainFailedMutationIntent_safe
          (fun _ _ _ _ => Spec.pure trivial) fun _ _ h => h

theorem supersedeAndStop_safe {baseline : MutationBaseline} {configuredPorts : List Port}
    (hcurrent : x.Current inv w) (hstop : x.isSupersedingStop = false)
    (hsupersede : x.canSupersede = true) :
    Safe env initial inv past w (supersedeAndStop env x baseline configuredPorts) := by
  have hop : x.intent.operation ≠ .start := by
    unfold ExpiredLeases.canSupersede at hsupersede
    rw [Bool.and_eq_true, decide_eq_true_eq] at hsupersede
    exact hsupersede.1
  have hports : x.targetPorts = x.allExpiredPorts := by
    unfold ExpiredLeases.targetPorts
    rw [hstop, if_neg Bool.false_ne_true]
  refine Spec.assume fun hw => ?_
  unfold supersedeAndStop
  refine freshUuid_bind (Spec.query_bind trivial fun preparedAt => ?_)
  dsimp only
  generalize hhardStop : x.supersedingIntent baseline ⟨w.nonces⟩ preparedAt = hardStop
  refine Spec.bind (Spec.raiseIf (fun _ => trivial) fun hvalid => ?_)
  rw [not_not] at hvalid
  have hmay : MayWrite w.draw (.supersede x.session x.intent x.authority x.leaseIdentity
      x.observedAt hardStop) := by
    refine ⟨?_, ?_, fun _ => rfl⟩
    · refine ⟨hvalid, by rw [← hhardStop]; rfl, hvalid.superseded.resolve_left fun hnot => ?_,
        ?_, ?_, fun p hp => ?_⟩
      · rw [← hhardStop] at hnot
        exact absurd hnot.1 (Option.some_ne_none _)
      · rw [← hhardStop]; exact hw.good.nonces
      · rw [← hhardStop]; exact hcurrent.session.symm
      · rw [← hhardStop] at hp
        change p ∈ x.targetPorts at hp
        rw [hports] at hp
        rcases hcurrent.mem_allExpiredPorts hp with ⟨g, hg, hlease, hport⟩ | ⟨hexpired, _⟩
        · unfold TrafficSessionGroupState.leaseExpired at hlease
          rw [Bool.and_eq_true, decide_eq_true_eq] at hlease
          exact ⟨x.session, hcurrent.session, g, hg, hlease.2, hport⟩
        · unfold TrafficMutationIntentState.expiredStart at hexpired
          rw [Bool.and_eq_true, decide_eq_true_eq] at hexpired
          exact absurd hexpired.1 hop
    · rintro j hj
      obtain rfl := Option.some.inj hj
      have hnonce : hardStop.nonce = ⟨w.nonces⟩ := by rw [← hhardStop]; rfl
      rw [hnonce]
      refine ⟨Nat.lt_succ_self _, fun e he => ?_⟩
      cases hn : e.startsFor ⟨w.nonces⟩ with
      | false => rfl
      | true => exact absurd (hw.good.start_used _ e he hn).1 (lt_irrefl _)
  refine Spec.guarded (storeUpdate_spec fun _ => hmay) ?_ (fun _ _ _ _ => Spec.pure trivial)
    fun _ _ _ => trivial
  rintro updated w' _ ⟨rfl, hwrote⟩
  refine Spec.ite (fun _ => Spec.pure trivial) fun hpending => ?_
  rw [not_not] at hpending
  have hauthority : w'.authority = some x.authority := by
    rcases hwrote with hwrote | ⟨rfl, _⟩
    · exact hwrote.authority.trans hcurrent.authority
    · exact hcurrent.authority
  refine finishHardStop_safe hpending (by rw [← hhardStop]; rfl) hauthority ?_
  refine hw.reapable hcurrent.reaping fun p hp => hcurrent.expired ?_
  rw [← hhardStop] at hp
  rw [← hports]
  exact hp

theorem stopExpiredLeasesOverPendingMutation_safe {d : RuntimeStateDocument}
    (hauthority : w.authority = some x.authority) (hreaping : inv.reapedAt = some x.observedAt)
    (hleased : x.leasedGroups = x.session.groups.filter (·.leaseExpired x.observedAt)) :
    Safe env initial inv past w (stopExpiredLeasesOverPendingMutation env d x) := by
  unfold stopExpiredLeasesOverPendingMutation
  refine Spec.ite (fun _ => Spec.pure trivial) fun hmatch => ?_
  simp only [not_or, not_not] at hmatch
  obtain ⟨_, _, hbefore, _, hintent, _⟩ := hmatch
  refine Spec.ite (fun _ => Spec.pure trivial) fun htargets => ?_
  refine guardedQuery_safe fun config => ?_
  refine Spec.guarded (S := fun d w' => w' = w ∧ d = w.document) (F := fun _ => True)
    (Spec.query_of answers_load (fun _ h => ⟨rfl, h⟩) trivial) ?_
    (fun _ _ _ _ => Spec.pure trivial) fun _ _ h => h
  rintro _ w' hw ⟨rfl, rfl⟩
  refine Spec.ite (fun _ => Spec.pure trivial) fun hlatest => ?_
  simp only [not_or, not_not] at hlatest
  have hcurrent : x.Current inv w' := ⟨hlatest.1, hlatest.2, hauthority, hreaping, hleased⟩
  refine Spec.ite (fun hstop => ?_) fun hstop => ?_
  · -- the pending intent is an earlier stop of the supervisor
    refine finishHardStop_safe hlatest.2 hintent hauthority ?_
    refine hw.reapable hreaping fun p hp => hcurrent.expired ?_
    by_contra hforeign
    refine htargets (.inr (List.any_eq_true.mpr ⟨p, ?_, decide_eq_true hforeign⟩))
    unfold ExpiredLeases.targetPorts
    rw [if_pos hstop]
    exact hp
  · rw [Bool.not_eq_true] at hstop
    refine onSuccess_safe fun baseline => Spec.ite (fun hsupersede => ?_) fun _ => ?_
    · exact supersedeAndStop_safe hcurrent hstop hsupersede
    · exact stopDirectly_safe hcurrent hstop hbefore hintent

/-! ## The reaper -/

theorem clearStoppedLeases_spec {d : RuntimeStateDocument} (hd : d = w.document) :
    Spec (Sound env initial inv past) w (clearStoppedLeases env d)
      (fun d' w' => d' = w'.document) (fun _ => True) := by
  unfold clearStoppedLeases
  split
  · rename_i session _ _
    refine Spec.ite (fun _ => ?_) fun _ => Spec.pure hd
    have hmay : MayWrite w (.clearStopped session.id) :=
      ⟨trivial, fun _ h => (nomatch h), fun _ => rfl⟩
    exact (storeUpdate_spec fun _ => hmay).mono (fun _ _ _ h => h.1) fun _ _ _ => trivial
  · exact Spec.pure hd

theorem expiredGroups_of_session {d : RuntimeStateDocument} {session : TrafficSessionState}
    (h : d.trafficSession = some session) (now : Time) :
    d.expiredGroups now = session.groups.filter (·.leaseExpired now) := by
  unfold RuntimeStateDocument.expiredGroups
  rw [h]
  rfl

theorem reapOverPendingMutation_safe {d : RuntimeStateDocument} {now : Time}
    (hreaping : inv.reapedAt = some now) :
    Safe env initial inv past w (reapOverPendingMutation env d i now) := by
  unfold reapOverPendingMutation
  split
  · exact Spec.pure trivial
  · rename_i session hsession
    refine Spec.guarded (S := fun a w' => w' = w.readAuthority a) (F := fun _ => True)
      (currentAuthority_spec trivial fun a => rfl) ?_ (fun _ _ _ _ => Spec.pure trivial)
      fun _ _ h => h
    rintro authority _ _ rfl
    refine Spec.ite (fun _ => Spec.pure trivial) fun _ => ?_
    exact stopExpiredLeasesOverPendingMutation_safe rfl hreaping
      (expiredGroups_of_session hsession now)

theorem stopExpiredGroups_safe {session : TrafficSessionState} {now : Time}
    (hsession : w.document.trafficSession = some session)
    (hreaping : inv.reapedAt = some now) :
    Safe env initial inv past w
      (stopExpiredGroups env session (w.document.expiredGroups now) now) := by
  refine Spec.assume fun hw => ?_
  unfold stopExpiredGroups
  dsimp only
  refine Spec.ite (fun _ => Spec.pure trivial) fun _ => Spec.ite (fun _ => Spec.pure trivial)
    fun _ => ?_
  refine Spec.call (action_safe (.inl ⟨rfl, _, rfl, hw.reapable hreaping fun p hp => ?_⟩)) ?_
    fun _ _ h => h
  · rw [mem_sortedSet, List.mem_flatMap] at hp
    obtain ⟨g, hg, hport⟩ := hp
    rw [expiredGroups_of_session hsession, List.mem_filter] at hg
    exact mem_expiredPorts.mpr (.inl ⟨session, hsession, g, hg.1,
      leaseOver_of_leaseExpired hg.2, (List.mem_filter.mp hport).1⟩)
  · intro r w' _ _
    cases r with
    | failed f => exact Spec.pure trivial
    | ok data => exact Spec.pure trivial

theorem reapReconciled_safe {now : Time} {expiredStart : Bool}
    {authority : RuntimeAuthorityIdentity} (hauthority : w.authority = some authority)
    (hreaping : inv.reapedAt = some now) :
    Safe env initial inv past w (reapReconciled env now expiredStart w.document authority) := by
  unfold reapReconciled
  split
  · exact Spec.pure trivial
  · dsimp only
    split
    · exact Spec.pure trivial
    · rename_i session hsession
      refine Spec.ite (fun _ => Spec.pure trivial) fun _ => Spec.ite (fun _ => Spec.pure trivial)
        fun _ => ?_
      split
      · exact stopExpiredLeasesOverPendingMutation_safe hauthority hreaping
          (expiredGroups_of_session hsession now)
      · exact stopExpiredGroups_safe hsession hreaping

theorem reapExpiredHardStopsAt_safe {now : Time} (hreaping : inv.reapedAt = some now) :
    Safe env initial inv past w (reapExpiredHardStopsAt env now) := by
  unfold reapExpiredHardStopsAt
  refine withConnectionTarget_safe ?_
  refine Spec.guarded (S := fun d w' => w' = w ∧ d = w.document) (F := fun _ => True)
    (Spec.query_of answers_load (fun _ h => ⟨rfl, h⟩) trivial) ?_
    (fun _ _ _ _ => Spec.pure trivial) fun _ _ h => h
  rintro _ _ _ ⟨rfl, rfl⟩
  refine Spec.call (clearStoppedLeases_spec rfl) ?_ fun _ _ h => h
  rintro _ w₁ _ rfl
  dsimp only
  refine Spec.ite (fun _ => Spec.pure trivial) fun hexpired => ?_
  split
  · exact reapOverPendingMutation_safe hreaping
  · rename_i hnone
    -- what is pending, if anything, is an expired start
    have hreads : ReaperReads env inv w₁.document := by
      intro t ht _ i hi
      obtain rfl := Option.some.inj (hreaping.symm.trans ht)
      by_cases hgroups : w₁.document.expiredGroups now = []
      · rw [not_and, hgroups] at hexpired
        by_contra hfresh
        refine hexpired ?_ rfl
        unfold RuntimeStateDocument.expiredStartIntent
        rw [hi]
        exact Bool.not_eq_true _ ▸ hfresh
      · rw [if_pos hgroups, hi] at hnone
        cases hnone
    unfold onSuccess
    refine Spec.call (snapshot_spec hreads) ?_ fun _ _ h => h
    intro r w₂ _ _
    cases r with
    | failed f => exact Spec.pure trivial
    | ok payload =>
        refine Spec.guarded (S := fun da w' => da.1 = w'.document ∧ w'.authority = some da.2)
          (F := fun _ => True) ?_ ?_ (fun _ _ _ _ => Spec.pure trivial) fun _ _ h => h
        · refine load_bind trivial (Spec.bind (currentAuthority_spec trivial fun a => ?_))
          exact Spec.pure ⟨rfl, rfl⟩
        · rintro ⟨d, authority⟩ w₃ _ ⟨rfl, hauthority⟩
          exact reapReconciled_safe hauthority hreaping

theorem retireAfterTrexTermination_safe :
    Safe env initial inv past w (retireAfterTrexTermination env) := by
  unfold retireAfterTrexTermination
  refine guardedQuery_safe fun before => ?_
  dsimp only
  refine Spec.ite (fun _ => setOwned_bind (Spec.pure trivial)) fun _ => ?_
  refine Spec.query_bind trivial fun now => ?_
  have hmay : MayWrite w (.retire (before.trafficSession.map (·.id))
      (before.trafficMutationIntent.map (·.nonce)) now) :=
    ⟨trivial, fun _ h => (nomatch h), fun _ => rfl⟩
  refine Spec.guarded (storeUpdate_spec fun _ => hmay) (fun _ _ _ _ => ?_) ?_ fun _ _ _ => trivial
  · exact setOwned_bind (Spec.pure trivial)
  · exact fun _ _ _ _ => Spec.pure trivial

/-! ## Runs -/

/-- Each call in the ledger of `w'` is in that of `w`, or a call of the reaper that was
called with `now` in `w` issued it. -/
def RecordedByReaper (now : Option Time) (w w' : TrafficWorld) : Prop :=
  ∃ t, (∀ t', now = some t' → t' = t) ∧ ∀ r m, .rpc r m ∈ w'.effects →
    .rpc r m ∈ w.effects ∨ m.invocation = { reapedAt := some t, store := w.store }

theorem reapExpiredHardStops_spec {now : Option Time} (hstore : w.invocation.store = w.store) :
    Spec (Good env initial) w (reapExpiredHardStops env now)
      (fun _ => RecordedByReaper now w) (RecordedByReaper now w) := by
  refine Spec.assume fun hgood => ?_
  have hbefore : RecordedByReaper now w w :=
    ⟨now.getD 0, fun t' ht => by rw [ht]; rfl, fun _ _ he => .inl he⟩
  unfold reapExpiredHardStops
  refine Spec.query_bind_of (P := fun t => ∀ t', now = some t' → t' = t) ?_ hbefore fun t ht => ?_
  · cases now with
    | some t => exact Answers.pure fun t' ht => (Option.some.inj ht).symm
    | none => exact Answers.any.mono fun _ _ _ h => (nomatch h)
  refine Spec.modify_bind (fun h => h.observe hstore t) ?_
  have hinvocation : (w.observe t).invocation = { reapedAt := some t, store := w.store } := by
    rw [← hstore]
    rfl
  refine Spec.invariant
    (J := Sound env initial { reapedAt := some t, store := w.store } w.effects)
    (fun h => ⟨h, hinvocation, fun _ _ he => .inl he⟩) (fun _ h => h.good) ?_
  exact (reapExpiredHardStopsAt_safe rfl).mono (fun _ w' h _ => ⟨t, ht, h.recorded⟩)
    fun w' h _ => ⟨t, ht, h.recorded⟩

theorem command_good (command : Command) (hinv : w.invocation = { store := w.store }) :
    Spec (Good env initial) w (command.program env) (fun _ _ => True) (fun _ => True) := by
  refine Spec.assume fun hgood => ?_
  have hnone : w.invocation.reapedAt = none := by rw [hinv]
  -- an operation that is not the reaper runs inside the invocation of `w`
  have hsafe : ∀ {α : Type} {m : TrafficM α},
      Safe env initial w.invocation w.effects w m →
      Spec (Good env initial) w (do let _ ← m; pure ()) (fun _ _ => True) fun _ => True :=
    fun h => Spec.invariant (fun hw => ⟨hw, rfl, fun _ _ he => .inl he⟩) (fun _ h => h.good)
      (Spec.call h (fun _ _ _ _ => Spec.pure trivial) fun _ _ h => h)
  cases command with
  | startGroup groupId revision sessionId hardStopAt => exact hsafe (startGroup_safe hnone)
  | start sessionId path ports command hardStopAt => exact hsafe (start_safe hnone)
  | update ports multiplier force total sessionId => exact hsafe (update_safe hnone)
  | action operation ports sessionId => exact hsafe (action_safe (.inr hnone))
  | snapshot =>
      refine hsafe (snapshot_spec fun now hnow => ?_)
      rw [hnone] at hnow
      cases hnow
  | reap now =>
      exact Spec.call (reapExpiredHardStops_spec (by rw [hinv]))
        (fun _ _ _ _ => Spec.pure trivial) fun _ _ _ => trivial
  | retire => exact hsafe retireAfterTrexTermination_safe
  | replacePlan revision groups => exact hsafe replacePlan_safe
  | restart => exact Spec.modify (fun h => h.own none) trivial

theorem runCommand_good {s : TrafficWorld × List Consultation} (command : Command)
    (h : Good env initial s.1) : Good env initial (runCommand env s command).1 := by
  have hrun := (command_good (w := s.1.invoke) command rfl).run h.invoke s.2
  unfold runCommand
  rcases hresult : command.program env s.1.invoke s.2 with ⟨⟨r, w⟩, log⟩
  rw [hresult] at hrun
  cases r with
  | ok u => exact hrun.1
  | error e =>
      dsimp only
      split
      · exact hrun.1.own none
      · exact hrun.1

theorem runCommands_good {s : TrafficWorld × List Consultation} (commands : List Command)
    (h : Good env initial s.1) : Good env initial (runCommands env s commands).1 := by
  unfold runCommands
  induction commands generalizing s with
  | nil => exact h
  | cons command rest ih => exact ih (runCommand_good command h)

end

end TrexWebui
