import TrexWebui.TrafficAuthoritySteps

/-!
# Steps of the recovery

What a recovery of a pending intent does: its calls are covered by the
intent, and it leaves the intent where it is, or clears it with a sample
that shows its baseline, or promotes it with a sample that shows what it
wanted (`Outcome`). The same specifications then carry a snapshot.
-/

namespace TrexWebui

open OracleProgram

/-- What a recovery of the intent `i` leaves behind, with the sample `live`. -/
inductive Outcome (i : TrafficMutationIntentState) (configuredPorts : List Port)
    (live : Dict Port PortState) (w' : TrafficWorld) : Prop where
  | retained (h : Pending i w')
  | cleared (w₁ w₂ : TrafficWorld) (pending : Pending i w₁)
      (wrote : Wrote (.clear i.nonce i.sessionBefore) w₁ w₂)
      (same : w'.document = w₂.document)
      (sample : matchesStates live i.baselinePortStates configuredPorts = true)
  | promoted (mode : TrafficCompletionMode) (w₁ w₂ : TrafficWorld) (pending : Pending i w₁)
      (wrote : Promoted i.nonce i.operation i.authority mode w₁ w₂)
      (same : w'.document = w₂.document) (sample : i.reached configuredPorts live = true)

def Recovered (i : TrafficMutationIntentState) (configuredPorts : List Port) (r : Recovery)
    (w' : TrafficWorld) : Prop :=
  r.document = w'.document ∧ Outcome i configuredPorts r.liveStates w'

def Unrecovered (i : TrafficMutationIntentState) (configuredPorts : List Port)
    (w' : TrafficWorld) : Prop :=
  ∃ live, Outcome i configuredPorts live w'

section

variable {env : TrafficEnvironment} {initial : RuntimeStateDocument} {inv : Invocation} {past : List Effect}
  {w w' : TrafficWorld} {i : TrafficMutationIntentState} {configuredPorts : List Port}
  {live : Dict Port PortState}

theorem Pending.unrecovered (h : Pending i w) : Unrecovered i configuredPorts w :=
  ⟨∅, .retained h⟩

/-! ## Results of a recovery -/

theorem unresolved_pending {reason : String} (h : Pending i w) :
    Spec (Sound env initial inv past) w (unresolved env i live reason)
      (fun r w' => r.document = w'.document ∧ Pending i w') (Pending i) := by
  unfold unresolved
  refine setOwned_bind ?_
  refine Spec.call retainFailedMutationIntent_spec ?_ ?_
  · intro _ w' _ hkept
    have hpending := hkept i (h.own none)
    exact load_bind hpending (Spec.pure ⟨rfl, hpending⟩)
  · exact fun w' _ hkept => hkept i (h.own none)

theorem unresolved_spec {reason : String} (h : Pending i w) :
    Spec (Sound env initial inv past) w (unresolved env i live reason)
      (Recovered i configuredPorts) (Unrecovered i configuredPorts) :=
  (unresolved_pending h).mono (fun _ _ _ hr => ⟨hr.1, .retained hr.2⟩)
    fun _ _ hr => hr.unrecovered

theorem clearRecovered_spec {message : String} (h : Pending i w)
    (hsample : matchesStates live i.baselinePortStates configuredPorts = true) :
    Spec (Sound env initial inv past) w (do
        let updated ← clearTrafficMutationIntent env i.nonce i.sessionBefore
        pure (⟨updated, live, message⟩ : Recovery))
      (Recovered i configuredPorts) (Unrecovered i configuredPorts) := by
  refine Spec.call clearTrafficMutationIntent_spec ?_ ?_
  · rintro d w' _ ⟨hd, hwrote⟩
    exact Spec.pure ⟨hd, .cleared w w' h hwrote rfl hsample⟩
  · rintro w' _ (hwrote | hsame)
    · exact ⟨live, .cleared w w' h hwrote rfl hsample⟩
    · exact (h.sameState hsame).unrecovered

theorem unrecovered_of_promotion {mode : TrafficCompletionMode} (h : Pending i w)
    (hsample : i.reached configuredPorts live = true)
    (hw : Promoted i.nonce i.operation i.authority mode w w' ∨ SameState w w') :
    Unrecovered i configuredPorts w' := by
  rcases hw with hwrote | hsame
  · exact ⟨live, .promoted mode w w' h hwrote rfl hsample⟩
  · exact (h.sameState hsame).unrecovered

theorem promoteIntent_spec {op : TrafficOperation} {mode : TrafficCompletionMode}
    (hop : i.operation = op) (hmode : mode ≠ .hardStop) :
    Spec (Sound env initial inv past) w (promoteTrafficMutationIntent env i.nonce op i.authority mode)
      (fun _ w' => Promoted i.nonce i.operation i.authority mode w w')
      (fun w' => Promoted i.nonce i.operation i.authority mode w w' ∨ SameState w w') := by
  subst hop
  exact (promoteTrafficMutationIntent_spec fun hm => absurd hm hmode).mono
    (fun _ _ _ h => h.2) fun _ _ h => h

theorem promoteRecoveredStart_spec {mode : TrafficCompletionMode} (h : Pending i w)
    (hstart : i.operation = .start) (hmode : mode ≠ .hardStop)
    (hsample : i.reached configuredPorts live = true) :
    Spec (Sound env initial inv past) w (promoteRecoveredStart env i live i.authority mode)
      (Recovered i configuredPorts) (Unrecovered i configuredPorts) := by
  unfold promoteRecoveredStart persistStart
  refine Spec.bind (Spec.call (promoteIntent_spec hstart hmode) ?_
    fun w' _ hw => unrecovered_of_promotion h hsample hw)
  intro session w' _ hwrote
  cases session with
  | none => exact Spec.throw (unrecovered_of_promotion h hsample (.inl hwrote))
  | some session =>
      refine Spec.pure (setOwned_bind ?_)
      exact load_bind ⟨live, .promoted mode w w' h hwrote rfl hsample⟩
        (Spec.pure ⟨rfl, .promoted mode w w' h hwrote rfl hsample⟩)

theorem persistAction_spec {op : TrafficOperation} {nonce : Uuid}
    {authority : RuntimeAuthorityIdentity} {mode : TrafficCompletionMode}
    (hmode : mode = .hardStop → op = .stop) :
    Spec (Sound env initial inv past) w (persistAction env op authority nonce mode)
      (fun _ w' => ∃ w₂, Promoted nonce op authority mode w w₂ ∧ w'.document = w₂.document)
      (fun w' => Promoted nonce op authority mode w w' ∨ SameState w w') := by
  unfold persistAction
  refine Spec.call (promoteTrafficMutationIntent_spec hmode) ?_ fun _ _ h => h
  rintro session w' _ ⟨_, hwrote⟩
  refine Spec.ite (fun _ => ?_) fun _ => Spec.pure ⟨w', hwrote, rfl⟩
  exact setOwned_bind (Spec.pure ⟨w', hwrote, rfl⟩)

theorem promoteRecoveredAction_spec {mode : TrafficCompletionMode} (h : Pending i w)
    (hmode : mode ≠ .hardStop) (hsample : i.reached configuredPorts live = true) :
    Spec (Sound env initial inv past) w (promoteRecoveredAction env i live i.authority mode)
      (Recovered i configuredPorts) (Unrecovered i configuredPorts) := by
  unfold promoteRecoveredAction
  refine Spec.call (persistAction_spec fun hm => absurd hm hmode) ?_
    fun w' _ hw => unrecovered_of_promotion h hsample hw
  rintro session w' _ ⟨w₂, hwrote, hdocument⟩
  -- owning the session does not change the document
  have hrest : ∀ w'', w''.document = w₂.document →
      Spec (Sound env initial inv past) w'' (do
        let document ← load env
        pure (⟨document, live, s!"traffic {i.operation.text} {i.nonce} {
          mode.text} and promoted"⟩ : Recovery) : TrafficM Recovery)
        (Recovered i configuredPorts) (Unrecovered i configuredPorts) := fun w'' hw'' =>
    load_bind ⟨live, .promoted mode w w₂ h hwrote hw'' hsample⟩
      (Spec.pure ⟨rfl, .promoted mode w w₂ h hwrote hw'' hsample⟩)
  cases session with
  | none => exact Spec.bind (Spec.pure (hrest w' hdocument))
  | some session =>
      refine Spec.bind (Spec.ite (fun _ => ?_) fun _ => Spec.pure (hrest w' hdocument))
      exact setOwned_spec (hrest _ hdocument)

/-! ## Recovery of a start -/

/-- Either no reaper with a clock that may be trusted is running, or the intent is the
expired start that the reaper came for. -/
def ReaperAwaits (env : TrafficEnvironment) (inv : Invocation)
    (i : TrafficMutationIntentState) : Prop :=
  Unreaped env inv ∨ ∃ now, inv.reapedAt = some now ∧ ClockAfter env now
    ∧ i.expiredStart now = true

theorem ReaperAwaits.unreaped (h : ReaperAwaits env inv i) (hne : i.operation ≠ .start) :
    Unreaped env inv := by
  rcases h with h | ⟨now, _, _, hexpired⟩
  · exact h
  · unfold TrafficMutationIntentState.expiredStart at hexpired
    rw [Bool.and_eq_true, decide_eq_true_eq] at hexpired
    exact absurd hexpired.1 hne

theorem answers_startLeaseExpired (h : ReaperAwaits env inv i) :
    Answers w (startLeaseExpired env i) fun expired => expired = true ∨ Unreaped env inv := by
  rcases h with h | ⟨now, _, hclock, hexpired⟩
  · exact Answers.any.mono fun _ _ => .inr h
  · unfold TrafficMutationIntentState.expiredStart at hexpired
    rw [Bool.and_eq_true, Option.any_eq_true] at hexpired
    obtain ⟨_, deadline, hdeadline, hover⟩ := hexpired
    unfold startLeaseExpired
    rw [hdeadline]
    refine Answers.bind ((answers_clock hclock).mono fun t ht => Answers.pure (.inl ?_))
    exact decide_eq_true ((of_decide_eq_true hover).trans ht)

theorem recoverByRollback_spec {expired : Bool} (hheld : Held i w)
    (hreap : Reapable env inv i.ports) :
    Spec (Sound env initial inv past) w (recoverByRollback env i live configuredPorts expired)
      (Recovered i configuredPorts) (Unrecovered i configuredPorts) := by
  unfold recoverByRollback
  refine Spec.call (rollbackFailedStart_spec hheld hreap) ?_ fun _ _ h => h.unrecovered
  intro r w' _ hheld'
  cases r with
  | failed f => exact unresolved_spec hheld'.toPending
  | ok u =>
      refine Spec.query_bind hheld'.unrecovered fun r => ?_
      cases r with
      | failed f => exact unresolved_spec hheld'.toPending
      | ok sampled =>
          refine Spec.ite (fun _ => unresolved_spec hheld'.toPending) fun hsample => ?_
          exact clearRecovered_spec hheld'.toPending (by simpa using hsample)

theorem recoverByReplay_spec (hheld : Held i w) (hop : i.operation = .start)
    (hstart : Unstarted i.nonce w) (hreap : Unreaped env inv) :
    Spec (Sound env initial inv past) w (recoverByReplay env i live configuredPorts i.authority)
      (Recovered i configuredPorts) (Unrecovered i configuredPorts) := by
  unfold recoverByReplay
  refine Spec.call (replayStartIntent_spec hheld hstart hreap) ?_ fun _ _ h => h.unrecovered
  intro r w' _ hheld'
  cases r with
  | failed f => exact unresolved_spec hheld'.toPending
  | ok data =>
      refine Spec.query_bind hheld'.unrecovered fun r => ?_
      cases r with
      | failed f => exact unresolved_spec hheld'.toPending
      | ok u =>
          refine Spec.query_bind hheld'.unrecovered fun r => ?_
          cases r with
          | failed f => exact unresolved_spec hheld'.toPending
          | ok sampled =>
              refine Spec.ite (fun _ => unresolved_spec hheld'.toPending) fun hsample => ?_
              exact promoteRecoveredStart_spec hheld'.toPending hop nofun
                (by simpa using hsample)

/-- The part of the configuration that the intent does not target is unchanged. -/
theorem reached_of_untargeted (houtside : matchesStates live i.baselinePortStates
      (i.untargeted configuredPorts) = true)
    (htargets : matchesStates live i.desiredPortStates i.ports = true) :
    i.reached configuredPorts live = true := by
  unfold TrafficMutationIntentState.reached
  rw [htargets, houtside]
  rfl

theorem recoverStart_spec (hheld : Held i w) (hop : i.operation = .start)
    (hstart : i.startStageAtLeast .startIntent = false → Unstarted i.nonce w)
    (hreap : Reapable env inv i.ports) (hawaits : ReaperAwaits env inv i)
    (houtside : matchesStates live i.baselinePortStates
      (i.untargeted configuredPorts) = true) :
    Spec (Sound env initial inv past) w (recoverStart env i live configuredPorts i.authority)
      (Recovered i configuredPorts) (Unrecovered i configuredPorts) := by
  have hpending := hheld.toPending
  unfold recoverStart
  refine Spec.query_bind_of (answers_startLeaseExpired hawaits) hheld.unrecovered
    fun expired hexpired => ?_
  refine Spec.ite (fun _ => recoverByRollback_spec hheld hreap) fun hfresh => ?_
  rw [not_or] at hfresh
  have hunreaped : Unreaped env inv := hexpired.resolve_left hfresh.2
  refine Spec.ite (fun htargets => Spec.ite (fun _ => unresolved_spec hpending) fun _ => ?_)
    fun _ => Spec.ite (fun _ => Spec.ite (fun _ => unresolved_spec hpending) fun hstage => ?_)
      fun _ => unresolved_spec hpending
  · refine Spec.query_bind hpending.unrecovered fun r => ?_
    cases r with
    | failed f => exact unresolved_spec hpending
    | ok u =>
        exact promoteRecoveredStart_spec hpending hop nofun
          (reached_of_untargeted houtside htargets)
  · exact recoverByReplay_spec hheld hop (hstart (by simpa using hstage)) hunreaped

/-! ## Recovery of an update -/

theorem proveThenUnresolved_spec {failed reason : String} (h : Pending i w) :
    Spec (Sound env initial inv past) w (proveThenUnresolved env i live failed reason)
      (Recovered i configuredPorts) (Unrecovered i configuredPorts) := by
  unfold proveThenUnresolved
  refine Spec.query_bind h.unrecovered fun r => ?_
  cases r with
  | failed f => exact unresolved_spec h
  | ok u => exact unresolved_spec h

theorem matchesStates_update (hvalid : i.Valid) (hop : i.operation = .update)
    (h : matchesStates live i.baselinePortStates i.ports = true) :
    matchesStates live i.desiredPortStates i.ports = true := by
  have hupdate := hvalid.operation_valid
  unfold TrafficMutationIntentState.OperationValid at hupdate
  rw [hop] at hupdate
  unfold matchesStates at h ⊢
  rw [List.all_eq_true] at h ⊢
  intro p hp
  have := of_decide_eq_true (h p hp)
  refine decide_eq_true (this.trans ?_)
  unfold Dict.getD
  rw [hupdate.unchanged p hp]

theorem recoverUpdate_spec (hheld : Held i w) (hvalid : i.Valid) (hop : i.operation = .update)
    (hreap : Unreaped env inv)
    (houtside : matchesStates live i.baselinePortStates
      (i.untargeted configuredPorts) = true) :
    Spec (Sound env initial inv past) w (recoverUpdate env i live i.authority)
      (Recovered i configuredPorts) (Unrecovered i configuredPorts) := by
  have hpending := hheld.toPending
  unfold recoverUpdate
  refine Spec.ite (fun _ => unresolved_spec hpending) fun hbaseline => ?_
  have hsample : i.reached configuredPorts live = true :=
    reached_of_untargeted houtside (matchesStates_update hvalid hop (by simpa using hbaseline))
  split
  · rename_i multiplier force total hmultiplier _ _
    refine Spec.ite (fun _ => proveThenUnresolved_spec hpending) fun _ => ?_
    refine Spec.ite (fun _ => proveThenUnresolved_spec hpending) fun habsolute => ?_
    refine Spec.call (updateTraffic_spec hheld (fun _ h => h) hreap fun hrelative => ?_) ?_
      fun _ _ h => h.unrecovered
    · rw [hmultiplier] at hrelative
      exact absurd hrelative habsolute
    · intro r w' _ hheld'
      cases r with
      | failed f => exact unresolved_spec hheld'.toPending
      | ok data =>
          refine Spec.query_bind hheld'.unrecovered fun r => ?_
          cases r with
          | failed f => exact unresolved_spec hheld'.toPending
          | ok u =>
              refine Spec.call (promoteIntent_spec hop nofun) ?_ fun w'' _ hw =>
                unrecovered_of_promotion hheld'.toPending hsample hw
              intro session w₂ _ hwrote
              have hrest : ∀ w'', w''.document = w₂.document →
                  Spec (Sound env initial inv past) w'' (do
                    let document ← load env
                    pure (⟨document, live, s!"traffic update {
                      i.nonce} replayed and promoted"⟩ : Recovery) : TrafficM Recovery)
                    (Recovered i configuredPorts) (Unrecovered i configuredPorts) :=
                fun w'' hw'' => load_bind
                  ⟨live, .promoted .replayed w' w₂ hheld'.toPending hwrote hw'' hsample⟩
                  (Spec.pure
                    ⟨rfl, .promoted .replayed w' w₂ hheld'.toPending hwrote hw'' hsample⟩)
              cases session with
              | none => exact Spec.bind (Spec.pure (hrest w₂ rfl))
              | some session => exact Spec.bind (setOwned_spec (hrest _ rfl))
  · exact unresolved_spec hpending

/-! ## Recovery of a stop, a pause or a resume -/

theorem recoverByRetry_spec (hheld : Held i w) (hreap : Unreaped env inv) :
    Spec (Sound env initial inv past) w (recoverByRetry env i live configuredPorts i.authority)
      (Recovered i configuredPorts) (Unrecovered i configuredPorts) := by
  unfold recoverByRetry
  dsimp only
  refine Spec.call (trafficAction_spec hheld (fun p hp => (List.mem_filter.mp hp).1)
    (.inr hreap)) ?_ fun _ _ h => h.unrecovered
  intro r w' _ hheld'
  cases r with
  | failed f => exact unresolved_spec hheld'.toPending
  | ok data =>
      refine Spec.query_bind hheld'.unrecovered fun r => ?_
      cases r with
      | failed f => exact unresolved_spec hheld'.toPending
      | ok sampled =>
          refine Spec.ite (fun _ => unresolved_spec hheld'.toPending) fun hsample => ?_
          refine Spec.query_bind hheld'.unrecovered fun r => ?_
          cases r with
          | failed f => exact unresolved_spec hheld'.toPending
          | ok u =>
              exact promoteRecoveredAction_spec hheld'.toPending nofun
                (by simpa using hsample)

theorem matchesStates_configured
    (houtside : matchesStates live i.baselinePortStates
      (i.untargeted configuredPorts) = true)
    (htargets : matchesStates live i.baselinePortStates i.ports = true) :
    matchesStates live i.baselinePortStates configuredPorts = true := by
  unfold matchesStates at *
  rw [List.all_eq_true] at *
  intro p hp
  by_cases hmem : p ∈ i.ports
  · exact htargets p hmem
  · exact houtside p (List.mem_filter.mpr ⟨hp, decide_eq_true hmem⟩)

theorem recoverAction_spec (hheld : Held i w) (hreap : Unreaped env inv)
    (houtside : matchesStates live i.baselinePortStates
      (i.untargeted configuredPorts) = true) :
    Spec (Sound env initial inv past) w (recoverAction env i live configuredPorts i.authority)
      (Recovered i configuredPorts) (Unrecovered i configuredPorts) := by
  have hpending := hheld.toPending
  unfold recoverAction
  refine Spec.ite (fun htargets => ?_) fun _ => Spec.ite (fun htargets => ?_) fun _ =>
    Spec.ite (fun _ => unresolved_spec hpending) fun _ =>
      Spec.ite (fun _ => proveThenUnresolved_spec hpending) fun _ =>
        recoverByRetry_spec hheld hreap
  · refine Spec.query_bind hpending.unrecovered fun r => ?_
    cases r with
    | failed f => exact unresolved_spec hpending
    | ok u =>
        exact promoteRecoveredAction_spec hpending nofun
          (reached_of_untargeted houtside htargets)
  · refine Spec.query_bind hpending.unrecovered fun r => ?_
    cases r with
    | failed f => exact unresolved_spec hpending
    | ok u => exact clearRecovered_spec hpending (matchesStates_configured houtside htargets)

theorem recoverOperation_spec (hheld : Held i w) (hvalid : i.Valid)
    (hstart : i.startStageAtLeast .startIntent = false → Unstarted i.nonce w)
    (hreap : Reapable env inv i.ports) (hawaits : ReaperAwaits env inv i) :
    Spec (Sound env initial inv past) w (recoverOperation env i live configuredPorts i.authority)
      (Recovered i configuredPorts) (Unrecovered i configuredPorts) := by
  have hpending := hheld.toPending
  unfold recoverOperation
  refine Spec.ite (fun _ => unresolved_spec hpending) fun _ => ?_
  refine Spec.ite (fun _ => unresolved_spec hpending) fun houtside => ?_
  refine Spec.ite (fun _ => unresolved_spec hpending) fun _ => ?_
  rw [Bool.not_eq_false] at houtside
  -- owning the expected session does not touch the intent
  refine Spec.call (S := fun _ w' => Held i w'
    ∧ (i.startStageAtLeast .startIntent = false → Unstarted i.nonce w'))
    (F := Unrecovered i configuredPorts) ?_ ?_ fun _ _ h => h
  · cases i.expectedSessionId with
    | none => exact Spec.pure ⟨hheld, hstart⟩
    | some id => exact setOwned_spec ⟨hheld.own _, hstart⟩
  · rintro _ w' _ ⟨hheld', hstart'⟩
    cases hop : i.operation with
    | start => exact recoverStart_spec hheld' hop hstart' hreap hawaits houtside
    | update =>
        exact recoverUpdate_spec hheld' hvalid hop (hawaits.unreaped (by rw [hop]; nofun))
          houtside
    | stop => exact recoverAction_spec hheld' (hawaits.unreaped (by rw [hop]; nofun)) houtside
    | pause => exact recoverAction_spec hheld' (hawaits.unreaped (by rw [hop]; nofun)) houtside
    | resume => exact recoverAction_spec hheld' (hawaits.unreaped (by rw [hop]; nofun)) houtside

/-! ## Recovery of the pending intent -/

def ReaperReads (env : TrafficEnvironment) (inv : Invocation) (d : RuntimeStateDocument) :
    Prop :=
  ∀ now, inv.reapedAt = some now → ClockAfter env now →
    ∀ i, d.trafficMutationIntent = some i → i.expiredStart now = true

theorem ReaperReads.awaits {d : RuntimeStateDocument} (h : ReaperReads env inv d)
    (hi : d.trafficMutationIntent = some i) : ReaperAwaits env inv i := by
  by_cases hun : Unreaped env inv
  · exact .inl hun
  · unfold Unreaped at hun
    push Not at hun
    obtain ⟨now, hnow, hclock⟩ := hun
    exact .inr ⟨now, hnow, hclock, h now hnow hclock i hi⟩

theorem Sound.reapable_intent (hw : Sound env initial inv past w)
    (h : ReaperReads env inv w.document) (hi : w.document.trafficMutationIntent = some i) :
    Reapable env inv i.ports := by
  intro now hnow hclock p hp
  have hleases := hw.good.leases now
  rw [hw.invocation] at hleases
  exact hleases hnow p (mem_expiredPorts.mpr (.inr ⟨i, hi, h now hnow hclock i hi, hp⟩))

theorem retireMutationIntentAfterGenerationRollover_spec {nonce : Uuid}
    {authority : RuntimeAuthorityIdentity} :
    Spec (Sound env initial inv past) w
      (retireMutationIntentAfterGenerationRollover env nonce authority)
      (fun d w' => d = w'.document) (fun _ => True) := by
  unfold retireMutationIntentAfterGenerationRollover
  refine Spec.query_bind trivial fun now => ?_
  have hmay : MayWrite w (.retireAfterRollover nonce authority now) :=
    ⟨trivial, fun _ h => (nomatch h), fun _ => rfl⟩
  exact (storeUpdate_spec fun _ => hmay).mono (fun _ _ _ h => h.1) fun _ _ _ => trivial

/-- A recovery leaves the intent alone, or clears or promotes it with the sample it
returns; an intent of another authority is retired or left alone. -/
theorem recoverTrafficMutationIntent_spec {authority : RuntimeAuthorityIdentity}
    (hauthority : w.authority = some authority) (hreads : ReaperReads env inv w.document) :
    Spec (Sound env initial inv past) w
      (recoverTrafficMutationIntent env w.document live configuredPorts authority)
      (fun r w' => r.document = w'.document
        ∧ ∀ i, w.document.trafficMutationIntent = some i → i.authority = authority →
          Outcome i configuredPorts r.liveStates w')
      (fun w' => ∀ i, w.document.trafficMutationIntent = some i → i.authority = authority →
        Unrecovered i configuredPorts w') := by
  refine Spec.assume fun hw => ?_
  unfold recoverTrafficMutationIntent
  cases hi : w.document.trafficMutationIntent with
  | none => exact Spec.pure ⟨rfl, fun _ h => (nomatch h)⟩
  | some i =>
      have hvalid := w.store.valid.intent_valid i hi
      have hpending : Pending i w := ⟨⟨i, hi, .refl i⟩, hvalid.2.symm⟩
      -- every result about `i` is the result that is asked for
      have hok : ∀ r w', Recovered i configuredPorts r w' → r.document = w'.document
          ∧ ∀ j, some i = some j → j.authority = authority →
            Outcome j configuredPorts r.liveStates w' :=
        fun r w' h => ⟨h.1, fun j hj _ => Option.some.inj hj ▸ h.2⟩
      have herror : ∀ w', Unrecovered i configuredPorts w' → ∀ j, some i = some j →
          j.authority = authority → Unrecovered j configuredPorts w' :=
        fun w' h j hj _ => Option.some.inj hj ▸ h
      have hunresolved : ∀ reason, Spec (Sound env initial inv past) w
          (unresolved env i live reason) _ _ := fun reason =>
        (unresolved_spec hpending).mono (fun r w' _ h => hok r w' h) fun w' _ h => herror w' h
      refine Spec.ite (fun hother => Spec.ite (fun _ => ?_) fun _ => hunresolved _) fun hsame =>
        Spec.ite (fun _ => hunresolved _) fun _ => ?_
      · have habsurd : ∀ j, some i = some j → j.authority = authority → False :=
          fun j hj ha => hother (Option.some.inj hj ▸ ha)
        refine Spec.call retireMutationIntentAfterGenerationRollover_spec ?_
          fun _ _ _ j hj ha => (habsurd j hj ha).elim
        rintro d w' _ rfl
        exact setOwned_bind (Spec.pure ⟨rfl, fun j hj ha => (habsurd j hj ha).elim⟩)
      · rw [not_not] at hsame
        subst hsame
        refine Spec.query_bind (herror w hpending.unrecovered) fun expired => ?_
        refine Spec.ite (fun _ => Spec.pure (hok _ w ⟨rfl, .retained hpending⟩)) fun _ => ?_
        refine (recoverOperation_spec ⟨hpending, hauthority⟩ hvalid.1
          (hw.good.unstarted hi) (hw.reapable_intent hreads hi) (hreads.awaits hi)).mono
          (fun r w' _ h => hok r w' h) fun w' _ h => herror w' h

/-- What a recovery demands of an intent before it does anything about it. -/
structure Recoverable (i : TrafficMutationIntentState) (configuredPorts : List Port) : Prop where
  covers : i.baselinePortStates.keys = configuredPorts.toFinset
  session : ∀ id, i.expectedSessionId = some id → i.safelyRecoverable i.authority id = true
  ordinary : i.isHardStopSupersedingIntent = false

theorem recoverTrafficMutationIntent_pending {authority : RuntimeAuthorityIdentity}
    (hi : w.document.trafficMutationIntent = some i) (hauthority : i.authority = authority)
    (hnot : ¬Recoverable i configuredPorts) :
    Spec (Sound env initial inv past) w
      (recoverTrafficMutationIntent env w.document live configuredPorts authority)
      (fun r w' => r.document = w'.document ∧ Pending i w') (Pending i) := by
  have hpending : Pending i w := ⟨⟨i, hi, .refl i⟩, (w.store.valid.intent_valid i hi).2.symm⟩
  unfold recoverTrafficMutationIntent
  rw [hi]
  refine Spec.ite (fun hother => absurd hauthority hother) fun _ =>
    Spec.ite (fun _ => unresolved_pending hpending) fun _ => ?_
  refine Spec.query_bind hpending fun expired => ?_
  refine Spec.ite (fun _ => Spec.pure ⟨rfl, hpending⟩) fun hordinary => ?_
  unfold recoverOperation
  refine Spec.ite (fun _ => unresolved_pending hpending) fun hcovers => ?_
  refine Spec.ite (fun _ => unresolved_pending hpending) fun _ => ?_
  refine Spec.ite (fun _ => unresolved_pending hpending) fun hsession => ?_
  refine absurd ⟨not_not.mp hcovers, fun id hid => ?_, ?_⟩ hnot
  · rw [hid, Option.any_some, Bool.not_eq_true, Bool.not_eq_false'] at hsession
    rw [hauthority]
    exact hsession
  · rw [Bool.or_eq_true, not_or, Bool.not_eq_true, Bool.not_eq_true] at hordinary
    exact hordinary.2

/-! ## Reconciliation and snapshots -/

theorem adoptManagedSession_spec {d : RuntimeStateDocument}
    {authority : RuntimeAuthorityIdentity} :
    Spec (Sound env initial inv past) w (adoptManagedSession env d live authority)
      (fun _ w' => w'.document = w.document) (fun _ => True) := by
  unfold adoptManagedSession
  refine Spec.asks_bind ?_
  cases d.trafficSession with
  | none => exact Spec.pure rfl
  | some session =>
      refine Spec.ite (fun _ => Spec.pure rfl) fun _ => Spec.ite (fun _ => ?_) fun _ =>
        Spec.pure rfl
      exact setOwned_bind (Spec.pure rfl)

theorem reconcileSession_spec {reconciliation : String}
    {authority : RuntimeAuthorityIdentity} {d : RuntimeStateDocument}
    (hd : d = w.document) (hnone : d.trafficMutationIntent = none) :
    Spec (Sound env initial inv past) w (reconcileSession env d live reconciliation authority)
      (fun d' w' => d' = w'.document) (fun _ => True) := by
  unfold reconcileSession
  cases hs : d.trafficSession with
  | none => exact Spec.pure hd
  | some session =>
      dsimp only
      refine Spec.call (S := fun _ w' => w'.document = w.document) (F := fun _ => True)
        (Spec.ite (fun _ => Spec.pure rfl) fun _ => setOwned_spec rfl) ?_ fun _ _ _ => trivial
      intro _ w' _ hw'
      refine Spec.asks_bind ?_
      refine Spec.query_bind trivial fun now => ?_
      refine Spec.ite (fun _ => Spec.pure (hd.trans hw'.symm)) fun _ => ?_
      have hsession : w'.document.trafficSession = some session := by rw [hw', ← hd, hs]
      refine Spec.call (storeUpdate_spec fun _ => ⟨?_, fun _ h => (nomatch h), fun _ => rfl⟩) ?_
        fun _ _ _ => trivial
      · exact ⟨by rw [hw', ← hd, hnone], session, _, live, hsession, rfl, rfl⟩
      · rintro d' w'' _ ⟨hd', _⟩
        refine Spec.call (S := fun _ w₃ => w₃.document = w''.document) (F := fun _ => True)
          (Spec.ite (fun _ => setOwned_spec rfl) fun _ => Spec.pure rfl) ?_ fun _ _ _ => trivial
        exact fun _ w₃ _ h => Spec.pure (hd'.trans h.symm)

theorem initializeDefaultPlan_spec {config : TrexConfig} :
    Spec (Sound env initial inv past) w (initializeDefaultPlan env config)
      (fun d w' => d = w'.document
        ∧ w'.document.trafficMutationIntent = w.document.trafficMutationIntent
        ∧ w'.authority = w.authority) (fun _ => True) := by
  unfold initializeDefaultPlan
  refine load_bind trivial (Spec.ite (fun _ => Spec.pure ⟨rfl, rfl, rfl⟩) fun _ => ?_)
  refine Spec.query_bind trivial fun r => ?_
  cases r with
  | error f => exact Spec.throw trivial
  | ok path =>
      refine Spec.bind (Spec.raiseIf (fun _ => trivial) fun hvalid => ?_)
      have hmay : MayWrite w (.initializePlan (defaultGroups config.portLimit path)) := by
        refine ⟨⟨⟨config.portLimit, path, rfl⟩, fun g hg => ?_⟩, fun _ h => (nomatch h),
          fun _ => rfl⟩
        by_contra hg'
        exact hvalid (List.any_eq_true.mpr ⟨g, hg, decide_eq_true hg'⟩)
      refine (storeUpdate_spec fun _ => hmay).mono ?_ fun _ _ _ => trivial
      rintro d w' _ ⟨rfl, hwrote | ⟨rfl, _⟩⟩
      · have hauthority := hwrote.authority
        obtain ⟨candidate, now, happly, _, rfl⟩ := hwrote
        obtain rfl := initializePlan_some happly
        exact ⟨rfl, rfl, hauthority⟩
      · exact ⟨rfl, rfl, rfl⟩

theorem reconcileSnapshot_spec {d : RuntimeStateDocument} {config : TrexConfig}
    {reconciliation : String} {authority : RuntimeAuthorityIdentity} (hd : d = w.document)
    (hnone : d.trafficMutationIntent = none) :
    Spec (Sound env initial inv past) w
      (reconcileSnapshot env d config live reconciliation authority) (fun _ _ => True)
      (fun _ => True) := by
  unfold reconcileSnapshot
  refine Spec.call adoptManagedSession_spec ?_ fun _ _ h => h
  intro adopted w' _ hw'
  refine Spec.guarded (reconcileSession_spec (hd.trans hw'.symm) hnone)
    (fun _ _ _ _ => Spec.query (fun _ => trivial) trivial) (fun _ _ _ _ => Spec.pure trivial)
    fun _ _ h => h

theorem recoverSnapshot_spec {config : TrexConfig} {authority : RuntimeAuthorityIdentity}
    (hauthority : w.authority = some authority) (hreads : ReaperReads env inv w.document) :
    Spec (Sound env initial inv past) w (recoverSnapshot env w.document config live authority)
      (fun _ _ => True) (fun _ => True) := by
  unfold recoverSnapshot
  refine Spec.ite (fun hnone => reconcileSnapshot_spec rfl hnone) fun _ => ?_
  refine Spec.guarded (recoverTrafficMutationIntent_spec hauthority hreads) ?_
    (fun _ _ _ _ => Spec.pure trivial) fun _ _ _ => trivial
  rintro recovery w' _ ⟨hd, _⟩
  refine Spec.ite (fun _ => Spec.query (fun _ => trivial) trivial) fun hnone => ?_
  exact reconcileSnapshot_spec hd (not_not.mp hnone)

theorem sampleSnapshot_spec {config : TrexConfig} {authority : RuntimeAuthorityIdentity}
    (hauthority : w.authority = some authority) (hreads : ReaperReads env inv w.document) :
    Spec (Sound env initial inv past) w (sampleSnapshot env w.document config authority)
      (fun _ _ => True) (fun _ => True) := by
  unfold sampleSnapshot
  dsimp only
  refine Spec.query_bind trivial fun r => ?_
  cases r with
  | failed f => exact Spec.query (fun _ => trivial) trivial
  | ok sampled =>
      refine Spec.ite (fun _ => Spec.query (fun _ => trivial) trivial) fun _ => ?_
      exact recoverSnapshot_spec hauthority hreads

theorem snapshot_spec {priority : Bool} (hreads : ReaperReads env inv w.document) :
    Spec (Sound env initial inv past) w (snapshot env priority) (fun _ _ => True)
      (fun _ => True) := by
  unfold snapshot
  refine Spec.query_bind trivial fun r => ?_
  cases r with
  | some f => exact Spec.pure trivial
  | none =>
      refine Spec.guarded (S := fun a w' => w' = w.readAuthority a) (F := fun _ => True)
        (currentAuthority_spec trivial fun a => rfl) ?_ (fun _ _ _ _ => Spec.pure trivial)
        fun _ _ h => h
      rintro authority _ _ rfl
      refine Spec.guarded (S := fun cd w' => cd.2 = w'.document
        ∧ w'.document.trafficMutationIntent = w.document.trafficMutationIntent
        ∧ w'.authority = some authority) (F := fun _ => True) ?_ ?_
        (fun _ _ _ _ => Spec.pure trivial) fun _ _ h => h
      · refine Spec.query_bind trivial fun config => ?_
        refine Spec.call initializeDefaultPlan_spec ?_ fun _ _ h => h
        rintro d w' _ ⟨hd, hintent, hauthority⟩
        exact Spec.pure ⟨hd, hintent, hauthority⟩
      · rintro ⟨config, d⟩ w' _ ⟨rfl, hintent, hauthority⟩
        refine Spec.query_bind trivial fun budget => ?_
        cases budget with
        | some f => exact Spec.query (fun _ => trivial) trivial
        | none =>
            refine sampleSnapshot_spec hauthority fun now hnow hclock i hi => ?_
            exact hreads now hnow hclock i (hintent ▸ hi)

end

end TrexWebui
