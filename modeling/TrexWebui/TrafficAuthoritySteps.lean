import TrexWebui.TrafficSteps

/-!
# Steps of the live operations

The specifications of `traffic_operations.py` and of the internal methods of
the authority: whatever is issued is covered by the intent that the caller
holds, and whatever happens in between, the intent is still held.
-/

namespace TrexWebui

open OracleProgram

section

variable {env : TrafficEnvironment} {initial : RuntimeStateDocument} {inv : Invocation} {past : List Effect}
  {w w' : TrafficWorld} {α β : Type} {i : TrafficMutationIntentState}

/-! ## Actions and updates -/

theorem actionRpc_ports (op : TrafficOperation) (ports : Option (List Port)) :
    (actionRpc op ports).ports = ports := by cases op <;> rfl

theorem actionRpc_plain (op : TrafficOperation) (ports : Option (List Port)) :
    (actionRpc op ports).isStart = false ∧ (actionRpc op ports).isUpdate = false := by
  cases op <;> exact ⟨rfl, rfl⟩

theorem within_normalized {r : Rpc} {ports allowed : List Port}
    (hr : r.ports = some (normalizedPorts ports)) (hsub : ∀ p ∈ ports, p ∈ allowed) :
    r.Within allowed :=
  ⟨_, hr, fun p hp => hsub p (mem_normalizedPorts.mp hp)⟩

theorem onAcquiredPorts_spec {r : Rpc} {ports : Option (List Port)} {result : SdkValue → List Port → α}
    (hheld : Held i w) (hr : Sound env initial inv past w → MayIssue env w r) :
    Spec (Sound env initial inv past) w
      (withClient env (do
        let operationPorts ← operationPorts env ports
        let acquiredPorts ← acquirePortsForOperation env operationPorts
        ensuring TrafficError.isCrash
          (do
            let command ← issue env r
            pure (result command operationPorts))
          (liftM (releasePortsForOperationStrict env acquiredPorts)) : TrafficM α))
      (fun _ => Held i) (Held i) := by
  refine (withClient_spec (P := fun _ _ => True) hheld ?_).mono (fun _ _ _ h => h.1)
    fun _ _ h => h
  refine Spec.query_bind hheld fun operationPorts => ?_
  refine Spec.query_bind hheld fun acquired => ?_
  refine Spec.ensuring (Spec.bind ?_) fun _ _ _ h => h.1
  exact issue_spec hr hheld (fun _ => Spec.pure ⟨hheld.record _, trivial⟩) (hheld.record _)

theorem trafficAction_spec {op : TrafficOperation} {ports : List Port} (hheld : Held i w)
    (hports : ∀ p ∈ ports, p ∈ i.ports)
    (hreap : op = .stop ∧ Reapable env inv ports ∨ Unreaped env inv) :
    Spec (Sound env initial inv past) w (trafficAction env op (some ports)) (fun _ => Held i)
      (Held i) := by
  unfold trafficAction
  refine Spec.ite (fun _ => Spec.pure hheld) fun _ => ?_
  rcases hnormal : normalizePortList (some ports) with normalized | f <;> dsimp only
  · obtain rfl := normalizePortList_ok hnormal
    have hr := actionRpc_ports op (some (normalizedPorts ports))
    refine onAcquiredPorts_spec hheld fun hw => mayIssue_of_covered (actionRpc_plain _ _).1
      (actionRpc_plain _ _).2 (hheld.covered (within_normalized hr hports)) ?_
    rcases hreap with ⟨rfl, hreap⟩ | hreap
    · exact hw.isolated hreap rfl (within_normalized hr fun p hp => hp)
    · exact hw.isolated_of_unreaped hreap
  · exact Spec.pure hheld

theorem updateTraffic_spec {ports : List Port} {multiplier : String} {force total : Bool}
    (hheld : Held i w) (hports : ∀ p ∈ ports, p ∈ i.ports) (hreap : Unreaped env inv)
    (hfirst : i.updateMultiplier.any isRelativeUpdateMultiplier = true →
      Unupdated i.nonce w) :
    Spec (Sound env initial inv past) w (updateTraffic env (some ports) multiplier force total)
      (fun _ => Held i) (Held i) := by
  unfold updateTraffic
  rcases hnormal : normalizePortList (some ports) with normalized | f <;> dsimp only
  · obtain rfl := normalizePortList_ok hnormal
    refine onAcquiredPorts_spec hheld fun hw => ⟨?_, hw.isolated_of_unreaped hreap,
      fun h => absurd h Bool.false_ne_true, ?_⟩
    · exact hheld.covered (within_normalized rfl hports)
    · intro _ j hj hrelative
      obtain ⟨j', hj', hij⟩ := hheld.intent
      obtain rfl := Option.some.inj (hj.symm.trans hj')
      rw [hij.nonce]
      rw [hij.same] at hrelative
      exact hfirst hrelative
  · exact Spec.pure hheld

/-! ## The stages of a start -/

/-- Whatever each consultation answers with, the collected values are such answers. -/
theorem answers_collect {κ : Type} [DecidableEq κ] {f : κ → TrafficQuery α} {P : α → Prop}
    (hf : ∀ key, Answers w (f key) P) (keys : List κ) :
    Answers w (collect f keys) fun values => ∀ key a, values.lookup key = some a → P a := by
  induction keys with
  | nil =>
      refine Answers.pure fun key a ha => ?_
      rw [Finmap.lookup_empty] at ha
      cases ha
  | cons key rest ih =>
      refine Answers.bind ((hf key).mono fun value hvalue => ?_)
      refine Answers.bind (ih.mono fun others hothers => ?_)
      refine Answers.pure fun key' a ha => ?_
      by_cases hk : key' = key
      · subst hk
        rw [Finmap.lookup_insert] at ha
        exact Option.some.inj ha ▸ hvalue
      · rw [Finmap.lookup_insert_of_ne _ hk] at ha
        exact hothers key' a ha

theorem answers_livePortStreamIds (p : Port) :
    Answers w (livePortStreamIds env p) List.Nodup := by
  unfold livePortStreamIds
  refine Answers.bind (Answers.any.mono fun r _ => ?_)
  cases r with
  | none => exact Answers.throw
  | some result =>
      refine Answers.bind (Answers.any.mono fun _ _ => ?_)
      refine Answers.bind (Answers.any.mono fun _ _ => ?_)
      refine Answers.bind (Answers.any.mono fun listing _ => ?_)
      cases listing with
      | none => exact Answers.throw
      | some listing =>
          refine Answers.bind (Answers.any.mono fun ids _ => ?_)
          cases ids with
          | none => exact Answers.throw
          | some ids =>
              refine Answers.ite (fun _ => Answers.pure (nodup_sortedMembers _)) fun _ => ?_
              exact Answers.throw

theorem answers_acquiredStreamIds (n : Uuid) :
    Answers w (acquiredStreamIds env n) fun ids => ∀ l ∈ ids.values, l.Nodup := by
  unfold acquiredStreamIds
  refine Answers.bind (Answers.any.mono fun d _ => ?_)
  cases hi : d.trafficMutationIntent with
  | none => exact Answers.throw
  | some current =>
      refine Answers.bind (Answers.any.mono fun _ _ => ?_)
      refine Answers.bind (Answers.any.mono fun budget _ => ?_)
      cases budget with
      | some f => exact Answers.throw
      | none =>
          refine (answers_collect answers_livePortStreamIds _).mono fun ids hids l hl => ?_
          obtain ⟨p, hp⟩ := Dict.mem_values.mp hl
          exact hids p l hp

theorem advanceStartIntentStage_spec {nonce : Uuid} {stage : HardwareStage}
    (hheld : Held i w) :
    Spec (Sound env initial inv past) w (advanceStartIntentStage env nonce stage)
      (fun _ w' => Held i w' ∧ (Unstarted i.nonce w → Unstarted i.nonce w')
        ∧ ∀ j, w'.document.trafficMutationIntent = some j →
          stage.order ≤ j.hardwareStage.order)
      (Held i) := by
  have hids : Answers w (if stage = .acquired then do
        let ids ← acquiredStreamIds env nonce
        pure (some ids)
      else pure none : TrafficQuery (Option (Dict Port (List Nat))))
      fun ids => ∀ sampled, ids = some sampled → ∀ l ∈ sampled.values, l.Nodup := by
    refine Answers.ite (fun _ => ?_) fun _ => Answers.pure fun _ h => nomatch h
    refine Answers.bind ((answers_acquiredStreamIds nonce).mono fun ids hids => ?_)
    exact Answers.pure fun sampled h => Option.some.inj h ▸ hids
  unfold advanceStartIntentStage
  refine Spec.query_bind_of hids hheld fun ids hids => ?_
  refine Spec.query_bind hheld fun budget => ?_
  refine Spec.call (storeUpdate_spec fun hw =>
    ⟨hids, fun _ h => (nomatch h), fun _ => rfl⟩) ?_ ?_
  · rintro _ w' _ ⟨_, hwrote | ⟨_, hnone⟩⟩
    · obtain ⟨hpending, hstage⟩ := hheld.toPending.advanced hwrote
      exact Spec.pure ⟨⟨hpending, hwrote.authority.trans hheld.authority⟩,
        fun h => h.write (.inl hwrote), hstage⟩
    · exact absurd hnone advance_ne_none
  · rintro w' _ (hwrote | hrefused)
    · exact ⟨(hheld.toPending.advanced hwrote).1, hwrote.authority.trans hheld.authority⟩
    · exact hheld.sameState hrefused.sameState

/-! ## Starts -/

theorem Unstarted.issued {n : Uuid} {r : Rpc} (h : Unstarted n w) (hr : r.isStart = false) :
    Unstarted n (w.record (.rpc r w.moment)) := by
  intro e he
  rcases List.mem_cons.mp he with rfl | he
  · cases hn : (Effect.rpc r w.moment).startsFor n with
    | false => rfl
    | true =>
        have := (startsFor_rpc hn).1
        rw [hr] at this
        cases this
  · exact h e he

theorem clearStreams_spec {clearExisting : Bool} {ports : List Port} {nonce : Uuid}
    (hheld : Held i w) (hstart : Unstarted i.nonce w) (hports : ∀ p ∈ ports, p ∈ i.ports)
    (hreap : Unreaped env inv) :
    Spec (Sound env initial inv past) w
      (clearStreams env clearExisting (some ports) (advanceStartIntentStage env nonce))
      (fun _ w' => Held i w' ∧ Unstarted i.nonce w') (Held i) := by
  unfold clearStreams
  refine Spec.ite (fun _ => ?_) fun _ => Spec.pure ⟨hheld, hstart⟩
  refine Spec.call (advanceStartIntentStage_spec hheld) ?_ fun _ _ h => h
  rintro _ w₁ _ ⟨hheld₁, hstart₁, _⟩
  refine Spec.bind (issue_spec (fun hw => mayIssue_of_covered rfl rfl
    (hheld₁.covered ⟨ports, rfl, hports⟩) (hw.isolated_of_unreaped hreap)) hheld₁ (fun _ => ?_)
    (hheld₁.record _))
  refine (advanceStartIntentStage_spec (hheld₁.record _)).mono ?_ fun _ _ h => h
  rintro _ w₂ _ ⟨hheld₂, hstart₂, _⟩
  exact ⟨hheld₂, hstart₂ ((hstart₁ hstart).issued rfl)⟩

theorem startSequence_spec {path : String} {ports operationPorts : List Port}
    {command : StartCommand} {preflight : List Port → TrafficQuery Unit} (hheld : Held i w)
    (hstart : Unstarted i.nonce w) (hports : ∀ p ∈ ports, p ∈ i.ports)
    (hreap : Unreaped env inv) :
    Spec (Sound env initial inv past) w
      (startSequence env path (some ports) operationPorts command preflight
        (advanceStartIntentStage env i.nonce)) (fun _ => Held i) (Held i) := by
  unfold startSequence
  refine Spec.call (advanceStartIntentStage_spec hheld) ?_ fun _ _ h => h
  rintro _ w₁ _ ⟨hheld₁, hstart₁, _⟩
  refine Spec.query_bind hheld₁ fun _ => ?_
  refine Spec.call (clearStreams_spec hheld₁ (hstart₁ hstart) hports hreap) ?_ fun _ _ h => h
  rintro _ w₂ _ ⟨hheld₂, hstart₂⟩
  refine Spec.guarded (S := fun _ w' => Held i w' ∧ Unstarted i.nonce w') (F := Held i)
    ?_ ?_ ?_ fun _ _ h => h
  · -- the profile is added while the intent is still unstarted
    refine Spec.call (advanceStartIntentStage_spec hheld₂) ?_ fun _ _ h => h
    rintro _ w₃ _ ⟨hheld₃, hstart₃, _⟩
    refine Spec.bind (issue_spec (fun hw => mayIssue_of_covered rfl rfl
      (hheld₃.covered ⟨ports, rfl, hports⟩) (hw.isolated_of_unreaped hreap)) hheld₃
      (fun _ => ?_) (hheld₃.record _))
    refine Spec.call (advanceStartIntentStage_spec (hheld₃.record _)) ?_ fun _ _ h => h
    rintro _ w₄ _ ⟨hheld₄, hstart₄, _⟩
    exact Spec.pure ⟨hheld₄, hstart₄ ((hstart₃ hstart₂).issued rfl)⟩
  · rintro streamIds w₃ _ ⟨hheld₃, hstart₃⟩
    refine Spec.bind (Spec.raiseIf (fun _ => hheld₃) fun _ => ?_)
    refine Spec.call (advanceStartIntentStage_spec hheld₃) ?_ fun _ _ h => h
    rintro _ w₄ _ ⟨hheld₄, hstart₄, hstage⟩
    -- the durable stage is `start_intent`, and no start was issued before
    refine Spec.bind (issue_spec (fun hw => ⟨hheld₄.covered ⟨ports, rfl, hports⟩,
      hw.isolated_of_unreaped hreap, fun _ j hj => ?_, fun h => absurd h Bool.false_ne_true⟩)
      hheld₄ (fun _ => ?_) (hheld₄.record _))
    · obtain ⟨j', hj', hij⟩ := hheld₄.intent
      obtain rfl := Option.some.inj (hj.symm.trans hj')
      exact ⟨hij.nonce ▸ hstart₄ hstart₃, decide_eq_true (hstage j hj)⟩
    · refine Spec.call (advanceStartIntentStage_spec (hheld₄.record _)) ?_ fun _ _ h => h
      exact fun _ w₅ _ h => Spec.pure h.1
  · exact fun _ _ _ h => Spec.throw h

theorem startProfile_spec {path : String} {ports : List Port} {command : StartCommand}
    {preflight : List Port → TrafficQuery Unit} (hheld : Held i w)
    (hstart : Unstarted i.nonce w) (hports : ∀ p ∈ ports, p ∈ i.ports)
    (hreap : Unreaped env inv) :
    Spec (Sound env initial inv past) w
      (startProfile env path (some ports) command preflight
        (advanceStartIntentStage env i.nonce)) (fun _ => Held i) (Held i) := by
  unfold startProfile
  refine Spec.query_bind hheld fun resolved => ?_
  cases resolved with
  | error f => exact Spec.pure hheld
  | ok resolved =>
      dsimp only
      rcases hnormal : normalizePortList (some ports) with normalized | f <;> dsimp only
      · obtain rfl := normalizePortList_ok hnormal
        refine (withClient_spec (P := fun _ _ => True) hheld ?_).mono (fun _ _ _ h => h.1)
          fun _ _ h => h
        refine Spec.query_bind hheld fun operationPorts => ?_
        refine Spec.call (advanceStartIntentStage_spec hheld) ?_ fun _ _ h => h
        rintro _ w₁ _ ⟨hheld₁, hstart₁, _⟩
        refine Spec.query_bind hheld₁ fun acquired => ?_
        refine Spec.ensuring ?_ fun _ _ _ h => h.1
        refine Spec.call (startSequence_spec hheld₁ (hstart₁ hstart)
          (fun p hp => hports p (mem_normalizedPorts.mp hp)) hreap) ?_ fun _ _ h => h
        exact fun _ w₂ _ h => Spec.pure ⟨h, trivial⟩
      · exact Spec.pure hheld

/-! ## Rollback -/

theorem restoreStartStreamBaseline_spec (hheld : Held i w) (hreap : Reapable env inv i.ports) :
    Spec (Sound env initial inv past) w (restoreStartStreamBaseline env i)
      (fun _ w' => Held i w' ∧ (Unstarted i.nonce w → Unstarted i.nonce w')) (Held i) := by
  unfold restoreStartStreamBaseline
  cases i.baselineStreamIds with
  | none => exact Spec.throw hheld
  | some baseline =>
      refine Spec.query_bind hheld fun current => ?_
      refine Spec.query_bind hheld fun _ => ?_
      refine Spec.call (Spec.forM
        (J := fun w' => Held i w' ∧ (Unstarted i.nonce w → Unstarted i.nonce w'))
        ⟨hheld, id⟩ fun p hp w' _ ⟨hheld', hstart'⟩ => ?_) ?_ fun _ _ h => h.1
      · refine Spec.ite (fun _ => Spec.pure ⟨hheld', hstart'⟩) fun _ => ?_
        have hwithin : (Rpc.removeStreams ((current.getD p []).filter
            (· ∉ baseline.getD p [])) (some [p])).Within i.ports :=
          ⟨[p], rfl, fun q hq => List.mem_singleton.mp hq ▸ hp⟩
        have hissued := fun h => (hstart' h).issued (r := .removeStreams
          ((current.getD p []).filter (· ∉ baseline.getD p [])) (some [p])) rfl
        exact Spec.bind (issue_spec (fun hw => mayIssue_of_covered rfl rfl
          (hheld'.covered hwithin) (hw.isolated hreap rfl hwithin)) ⟨hheld', hstart'⟩
          (fun _ => Spec.pure ⟨hheld'.record _, hissued⟩) ⟨hheld'.record _, hissued⟩)
      · intro _ w' _ hheld'
        refine Spec.query_bind hheld'.1 fun restored => ?_
        exact Spec.raiseIf (fun _ => hheld'.1) fun _ => hheld'

theorem rollbackStreams_spec (hheld : Held i w) (hreap : Reapable env inv i.ports) :
    Spec (Sound env initial inv past) w (rollbackStreams env i) (fun _ => Held i) (Held i) := by
  unfold rollbackStreams
  refine Spec.ite (fun _ => ?_) fun _ => Spec.ite (fun _ => ?_) fun _ => ?_
  · cases i.baselineStreamIds with
    | none => exact Spec.pure hheld
    | some baseline =>
        refine Spec.query_bind hheld fun observed => ?_
        exact Spec.raiseIf (fun _ => hheld) fun _ => hheld
  · cases i.baselineStreamIds with
    | none => exact Spec.throw hheld
    | some baseline =>
        refine Spec.bind (Spec.raiseIf (fun _ => hheld) fun _ => ?_)
        have hwithin : (Rpc.removeAllStreams (some i.ports)).Within i.ports :=
          ⟨i.ports, rfl, fun _ h => h⟩
        refine Spec.bind (issue_spec (fun hw => mayIssue_of_covered rfl rfl
          (hheld.covered hwithin) (hw.isolated hreap rfl hwithin)) hheld (fun _ => ?_)
          (hheld.record _))
        refine Spec.query_bind (hheld.record _) fun remaining => ?_
        exact Spec.raiseIf (fun _ => hheld.record _) fun _ => hheld.record _
  · exact (restoreStartStreamBaseline_spec hheld hreap).mono (fun _ _ _ h => h.1)
      fun _ _ h => h

theorem rollback_spec (hheld : Held i w) (hreap : Reapable env inv i.ports) :
    Spec (Sound env initial inv past) w (rollback env i) (fun _ => Held i) (Held i) := by
  unfold rollback
  refine Spec.query_bind hheld fun live => ?_
  refine Spec.bind (Spec.raiseIf (fun _ => hheld) fun _ => ?_)
  dsimp only
  refine Spec.call (S := fun _ => Held i) (F := Held i) (Spec.ite (fun _ => Spec.pure hheld)
    fun _ => ?_) ?_ fun _ _ h => h
  · have hwithin : (Rpc.stop (some (i.ports.filter fun p =>
        (live.getD p .unknown).active))).Within i.ports :=
      ⟨_, rfl, fun p hp => (List.mem_filter.mp hp).1⟩
    exact Spec.bind (issue_spec (fun hw => mayIssue_of_covered rfl rfl (hheld.covered hwithin)
      (hw.isolated hreap rfl hwithin)) hheld (fun _ => Spec.pure (hheld.record _))
      (hheld.record _))
  · intro _ w' _ hheld'
    refine Spec.query_bind hheld' fun stopped => ?_
    exact Spec.bind (Spec.raiseIf (fun _ => hheld') fun _ => rollbackStreams_spec hheld' hreap)

theorem rollbackFailedStart_spec (hheld : Held i w) (hreap : Reapable env inv i.ports) :
    Spec (Sound env initial inv past) w (rollbackFailedStart env i) (fun _ => Held i) (Held i) :=
  (withMutationPortsControlled_spec (P := fun _ _ => True) hheld
    ((rollback_spec hheld hreap).mono (fun _ _ _ h => ⟨h, trivial⟩) fun _ _ h => h)).mono
    (fun _ _ _ h => h.1) fun _ _ h => h

/-! ## Replay -/

theorem normalizeStartReplay_spec (hheld : Held i w) (hstart : Unstarted i.nonce w)
    (hreap : Unreaped env inv) :
    Spec (Sound env initial inv past) w (normalizeStartReplay env i)
      (fun r w' => Held i w' ∧ (r = .ok () → Unstarted i.nonce w')) (Held i) := by
  unfold normalizeStartReplay
  refine Spec.ite (fun _ => Spec.pure ⟨hheld, fun _ => hstart⟩) fun _ => ?_
  refine Spec.ite (fun _ => Spec.pure ⟨hheld, fun _ => hstart⟩) fun _ => ?_
  refine (withMutationPortsControlled_spec (P := fun _ w' => Unstarted i.nonce w') hheld
    ((restoreStartStreamBaseline_spec hheld (hreap.reapable _)).mono
      (fun _ _ _ h => ⟨h.1, h.2 hstart⟩) fun _ _ h => h)).mono (fun _ _ _ h => ?_) fun _ _ h => h
  exact ⟨h.1, fun hr => h.2 () hr⟩

theorem replayStartIntent_spec (hheld : Held i w) (hstart : Unstarted i.nonce w)
    (hreap : Unreaped env inv) :
    Spec (Sound env initial inv past) w (replayStartIntent env i) (fun _ => Held i) (Held i) := by
  unfold replayStartIntent
  split
  · refine Spec.query_guarded hheld (fun _ => Spec.pure hheld) fun observed => ?_
    refine Spec.ite (fun _ => Spec.pure hheld) fun _ => ?_
    refine Spec.call (normalizeStartReplay_spec hheld hstart hreap) ?_ fun _ _ h => h
    rintro r w' _ ⟨hheld', hstart'⟩
    cases r with
    | failed f => exact Spec.pure hheld'
    | ok u => exact startProfile_spec hheld' (hstart' rfl) (fun _ h => h) hreap
  · exact Spec.pure hheld

/-- The start of an intent that has not reached `start_intent` was never issued. -/
theorem Good.unstarted (h : Good env initial w)
    (hintent : w.document.trafficMutationIntent = some i)
    (hstage : i.startStageAtLeast .startIntent = false) : Unstarted i.nonce w := by
  intro e he
  cases hn : e.startsFor i.nonce with
  | false => rfl
  | true =>
      have := (h.start_used i.nonce e he hn).2 i hintent rfl
      rw [hstage] at this
      cases this

/-! ## Writes about an intent -/

theorem retainFailedMutationIntent_spec {nonce : Uuid} {reason : String} :
    Spec (Sound env initial inv past) w (retainFailedMutationIntent env nonce reason)
      (fun _ w' => ∀ i, Pending i w → Pending i w') (fun w' => ∀ i, Pending i w → Pending i w') := by
  have hkept : ∀ w', Wrote (.retain nonce reason) w w' ∨ Refused (.retain nonce reason) w w' →
      ∀ i, Pending i w → Pending i w' := by
    rintro w' (hwrote | hrefused) i hi
    · exact hi.retained hwrote
    · exact hi.sameState hrefused.sameState
  have hmay : MayWrite w (.retain nonce reason) :=
    ⟨trivial, fun _ h => (nomatch h), fun _ => rfl⟩
  refine Spec.guarded (storeUpdate_spec fun _ => hmay) ?_ ?_ ?_
  · rintro _ w' _ ⟨_, hwrote | ⟨rfl, _⟩⟩
    · exact Spec.pure (hkept w' (.inl hwrote))
    · exact Spec.pure fun _ h => h
  · exact fun _ w' _ h => Spec.pure (hkept w' h)
  · exact fun w' _ h => hkept w' h

theorem clearTrafficMutationIntent_spec {nonce : Uuid}
    {session : Option TrafficSessionState} :
    Spec (Sound env initial inv past) w (clearTrafficMutationIntent env nonce session)
      (fun d w' => d = w'.document ∧ Wrote (.clear nonce session) w w')
      (fun w' => Wrote (.clear nonce session) w w' ∨ SameState w w') := by
  have hmay : MayWrite w (.clear nonce session) :=
    ⟨trivial, fun _ h => (nomatch h), fun _ => rfl⟩
  refine (storeUpdate_spec fun _ => hmay).mono ?_ ?_
  · rintro d w' _ ⟨hd, hwrote | ⟨_, hnone⟩⟩
    · exact ⟨hd, hwrote⟩
    · exact absurd hnone clear_ne_none
  · rintro w' _ (hwrote | hrefused)
    · exact .inl hwrote
    · exact .inr hrefused.sameState

def Promoted (nonce : Uuid) (operation : TrafficOperation)
    (authority : RuntimeAuthorityIdentity) (mode : TrafficCompletionMode)
    (w w' : TrafficWorld) : Prop :=
  ∃ owned now, Wrote (.promote nonce operation authority mode owned now) w w'

theorem promoteTrafficMutationIntent_spec {nonce : Uuid} {operation : TrafficOperation}
    {authority : RuntimeAuthorityIdentity} {mode : TrafficCompletionMode}
    (hmode : mode = .hardStop → operation = .stop) :
    Spec (Sound env initial inv past) w
      (promoteTrafficMutationIntent env nonce operation authority mode)
      (fun session w' => session = w'.document.trafficSession
        ∧ Promoted nonce operation authority mode w w')
      (fun w' => Promoted nonce operation authority mode w w' ∨ SameState w w') := by
  unfold promoteTrafficMutationIntent
  refine Spec.query_bind (.inr (.refl w)) fun now => ?_
  refine Spec.asks_bind ?_
  refine Spec.call (storeUpdate_spec fun _ =>
    ⟨hmode, fun _ h => (nomatch h), fun _ => rfl⟩) ?_ ?_
  · rintro d w' _ ⟨rfl, hwrote | ⟨_, hnone⟩⟩
    · exact Spec.pure ⟨rfl, _, _, hwrote⟩
    · exact absurd hnone promote_ne_none
  · rintro w' _ (hwrote | hrefused)
    · exact .inl ⟨_, _, hwrote⟩
    · exact .inr hrefused.sameState

/-- What the caller of `prepareTrafficMutationIntent` vouches for. -/
structure Preparable (d : RuntimeStateDocument) (i : TrafficMutationIntentState) : Prop where
  not_superseding : i.NotSuperseding
  agrees : i.expectedSessionId ≠ none → ∀ s, i.sessionBefore = some s →
    s.agreesWith i.baselinePortStates = true
  start : i.operation = .start → i.startSource ≠ none
    ∧ ∀ g, i.startGroup = some g → 1 ≤ g.multiplier.length ∧ g.multiplier.length ≤ 64
  owned : i.operation ≠ .start → ∀ s, i.sessionBefore = some s →
    ∀ p ∈ i.ports, p ∈ s.ownedPorts
  evidenced : i.operation ≠ .start → i.operation ≠ .stop →
    ∀ s, i.sessionBefore = some s → s.evidenceVersion = some .one

theorem prepareTrafficMutationIntent_spec
    {draft : Uuid → Time → TrafficMutationIntentState}
    (hdraft : ∀ nonce now, Preparable w.document (preparedIntent draft nonce now))
    (hauthority : ∀ nonce now, w.authority = some (draft nonce now).authority)
    (hlease : inv.reapedAt ≠ none → ∀ nonce now, (draft nonce now).operation ≠ .start) :
    Spec (Sound env initial inv past) w (prepareTrafficMutationIntent env draft)
      (fun i w' => (∃ nonce now, i = preparedIntent draft nonce now) ∧ Held i w'
        ∧ Unstarted i.nonce w' ∧ Unupdated i.nonce w') (fun _ => True) := by
  refine Spec.assume fun hw => ?_
  have hstart : Unstarted ⟨w.nonces⟩ w.draw := fun e he => by
    cases hn : e.startsFor ⟨w.nonces⟩ with
    | false => rfl
    | true => exact absurd (hw.good.start_used _ e he hn).1 (lt_irrefl _)
  have hupdate : Unupdated ⟨w.nonces⟩ w.draw := fun e he => by
    cases hn : e.relativeUpdateFor ⟨w.nonces⟩ with
    | false => rfl
    | true => exact absurd (hw.good.update_used _ e he hn) (lt_irrefl _)
  unfold prepareTrafficMutationIntent
  refine freshUuid_bind ?_
  refine Spec.query_bind trivial fun now => ?_
  dsimp only
  generalize hintent : preparedIntent draft ⟨w.nonces⟩ now = i
  have hnonce : i.nonce = ⟨w.nonces⟩ := by rw [← hintent]; rfl
  have hvouched : Preparable w.document i := hintent ▸ hdraft _ now
  refine Spec.bind (Spec.raiseIf (fun _ => trivial) fun hvalid => ?_)
  refine Spec.asks_bind ?_
  refine Spec.call (storeUpdate_spec fun hw' => ⟨?_, ?_, ?_⟩) ?_ fun _ _ _ => trivial
  · exact {
      valid := not_not.mp hvalid
      phase := by rw [← hintent]; rfl
      stage := by rw [← hintent]; rfl
      not_superseding := hvouched.not_superseding
      fresh := by rw [hnonce]; exact hw.good.nonces
      agrees := hvouched.agrees
      start := hvouched.start
      owned := hvouched.owned
      evidenced := hvouched.evidenced }
  · rintro j hj
    obtain rfl := Option.some.inj hj
    rw [hnonce]
    exact ⟨Nat.lt_succ_self _, hstart⟩
  · intro hreap
    rw [hw'.invocation] at hreap
    refine decide_eq_false ?_
    rw [← hintent]
    exact hlease hreap _ now
  · rintro d w' _ ⟨rfl, hwrote | ⟨_, hnone⟩⟩
    · have hstart' := hstart.write (.inl hwrote)
      have hupdate' := hupdate.write (.inl hwrote)
      have hauthority' := hwrote.authority
      obtain ⟨candidate, t, happly, hv, rfl⟩ := hwrote
      obtain ⟨_, hsession, _, _, rfl⟩ := prepare_some happly
      dsimp only [TrafficWorld.commit, TrafficWorld.document, stamp]
      refine Spec.bind (Spec.raiseIf (fun _ => trivial) fun _ => Spec.pure ?_)
      refine ⟨⟨_, now, hintent.symm⟩, ⟨⟨⟨i, rfl, .refl i⟩, hsession⟩, ?_⟩,
        hnonce ▸ hstart', hnonce ▸ hupdate'⟩
      refine hauthority'.trans ?_
      rw [← hintent]
      exact hauthority _ now
    · exact absurd hnone prepare_ne_none

end

end TrexWebui
