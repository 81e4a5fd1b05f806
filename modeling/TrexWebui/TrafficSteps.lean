import TrexWebui.TrafficLedgerSteps

/-!
# Steps of the programs

The specifications of the primitives of `TrafficWorld` with respect to the
ledger: a program keeps the world good and stays inside its invocation
(`Sound`). Every write is described by `Wrote`, and a write that the store
refused by `Refused`; what the callers conclude from a write follows from
these two, from the inversion lemmas of the mutations, and from `Pending`,
the state in which an operation holds its own intent.
-/

namespace TrexWebui

open OracleProgram

/-- What every program keeps: the world is good, the invocation is the same, and every
call that is not among the `past` effects was issued in it. -/
structure Sound (env : TrafficEnvironment) (initial : RuntimeStateDocument)
    (inv : Invocation) (past : List Effect) (w : TrafficWorld) : Prop where
  good : Good env initial w
  invocation : w.invocation = inv
  recorded : ∀ r moment, .rpc r moment ∈ w.effects →
    .rpc r moment ∈ past ∨ moment.invocation = inv

def Wrote (m : Mutation) (w w' : TrafficWorld) : Prop :=
  ∃ candidate now, m.apply w.document = .ok (some candidate)
    ∧ ∃ hvalid : (stamp w.document candidate now).Valid,
      w' = w.commit m ⟨stamp w.document candidate now, hvalid⟩

def Refused (m : Mutation) (w w' : TrafficWorld) : Prop :=
  w' = w ∨ ∃ refused moment, w' = w.record (.rejected m w.store refused moment)

section

variable {env : TrafficEnvironment} {initial : RuntimeStateDocument} {inv : Invocation} {past : List Effect}
  {w w' : TrafficWorld} {m : Mutation} {α β : Type}

/-! ## Frames -/

/-- `w'` holds what `w` holds; its ledger has further entries at most. -/
structure SameState (w w' : TrafficWorld) : Prop where
  store : w'.store = w.store
  authority : w'.authority = w.authority
  owned : w'.ownedSessionId = w.ownedSessionId
  nonces : w'.nonces = w.nonces

theorem SameState.refl (w : TrafficWorld) : SameState w w := ⟨rfl, rfl, rfl, rfl⟩

theorem SameState.document (h : SameState w w') : w'.document = w.document := by
  unfold TrafficWorld.document
  rw [h.store]

theorem Refused.sameState (h : Refused m w w') : SameState w w' := by
  rcases h with rfl | ⟨_, _, rfl⟩
  · exact .refl _
  · exact ⟨rfl, rfl, rfl, rfl⟩

theorem mem_effects_of_write (h : Wrote m w w' ∨ Refused m w w') {e : Effect}
    (he : e ∈ w'.effects) : e ∈ w.effects ∨ e.isRpc = false := by
  rcases h with ⟨_, _, _, _, rfl⟩ | rfl | ⟨_, _, rfl⟩
  · rcases List.mem_cons.mp he with rfl | he
    · exact .inr rfl
    · exact .inl he
  · exact .inl he
  · rcases List.mem_cons.mp he with rfl | he
    · exact .inr rfl
    · exact .inl he

theorem Unstarted.write {n : Uuid} (hn : Unstarted n w) (h : Wrote m w w' ∨ Refused m w w') :
    Unstarted n w' := by
  intro e he
  rcases mem_effects_of_write h he with he | hrpc
  · exact hn e he
  · exact (startsFor_of_not_rpc hrpc).1

theorem Unupdated.write {n : Uuid} (hn : Unupdated n w) (h : Wrote m w w' ∨ Refused m w w') :
    Unupdated n w' := by
  intro e he
  rcases mem_effects_of_write h he with he | hrpc
  · exact hn e he
  · exact (startsFor_of_not_rpc hrpc).2

theorem Wrote.authority (h : Wrote m w w') : w'.authority = w.authority := by
  obtain ⟨_, _, _, _, rfl⟩ := h
  rfl

/-! ## The specifications of the primitives -/

theorem answers_load : Answers w (load env) (· = w.document) := by
  unfold load
  refine Answers.bind (Answers.any.mono fun r _ => ?_)
  cases r with
  | some message => exact Answers.throw
  | none => exact ⟨fun _ => rfl⟩

theorem load_bind {f : RuntimeStateDocument → TrafficM β} {R : β → TrafficWorld → Prop}
    {E : TrafficWorld → Prop} (herror : E w)
    (hok : Spec (Sound env initial inv past) w (f w.document) R E) :
    Spec (Sound env initial inv past) w (liftM (load env) >>= f) R E :=
  Spec.query_bind_of answers_load herror fun _ h => h ▸ hok

theorem answers_clock {now : Time} (h : ClockAfter env now) :
    Answers w (clock env) (now ≤ ·) := by
  refine ⟨fun k => ?_⟩
  unfold clock ask
  cases env.crashes w k with
  | true => trivial
  | false => exact h w k

theorem Sound.draw (h : Sound env initial inv past w) : Sound env initial inv past w.draw :=
  ⟨h.good.draw, h.invocation, h.recorded⟩

theorem Sound.own (h : Sound env initial inv past w) (id : Option Uuid) :
    Sound env initial inv past (w.own id) :=
  ⟨h.good.own id, h.invocation, h.recorded⟩

theorem freshUuid_bind {f : Uuid → TrafficM β} {R : β → TrafficWorld → Prop}
    {E : TrafficWorld → Prop} (h : Spec (Sound env initial inv past) w.draw (f ⟨w.nonces⟩) R E) :
    Spec (Sound env initial inv past) w (freshUuid >>= f) R E :=
  ⟨fun hw k => h.run hw.draw k⟩

theorem setOwned_bind {id : Option Uuid} {f : Unit → TrafficM β}
    {R : β → TrafficWorld → Prop} {E : TrafficWorld → Prop}
    (h : Spec (Sound env initial inv past) (w.own id) (f ()) R E) :
    Spec (Sound env initial inv past) w (setOwned id >>= f) R E :=
  Spec.modify_bind (fun hw => hw.own id) h

theorem setOwned_spec {id : Option Uuid} {Q : Unit → TrafficWorld → Prop}
    {E : TrafficWorld → Prop} (h : Q () (w.own id)) :
    Spec (Sound env initial inv past) w (setOwned id) Q E :=
  Spec.modify (fun hw => hw.own id) h

theorem liftExcept_spec {e : Except TrafficError α} {Q : α → TrafficWorld → Prop}
    {E : TrafficWorld → Prop} (herror : E w) (hok : ∀ a, e = .ok a → Q a w) :
    Spec (Sound env initial inv past) w (liftExcept e : TrafficM α) Q E := by
  cases e with
  | ok a => exact Spec.pure (hok a rfl)
  | error e => exact Spec.throw herror

theorem currentAuthority_spec {Q : RuntimeAuthorityIdentity → TrafficWorld → Prop}
    {E : TrafficWorld → Prop} (herror : E w) (hok : ∀ a, Q a (w.readAuthority a)) :
    Spec (Sound env initial inv past) w (currentAuthority env) Q E := by
  unfold currentAuthority
  refine Spec.query_bind herror fun r => ?_
  cases r with
  | error message => exact Spec.throw herror
  | ok a =>
      exact Spec.modify_bind (fun hw => ⟨hw.good.readAuthority a, hw.invocation, hw.recorded⟩)
        (Spec.pure (hok a))

theorem issue_spec {r : Rpc} {Q : SdkValue → TrafficWorld → Prop} {E : TrafficWorld → Prop}
    (hr : Sound env initial inv past w → MayIssue env w r) (hcrash : E w)
    (hok : ∀ v, Q v (w.record (.rpc r w.moment)))
    (herror : E (w.record (.rpc r w.moment))) :
    Spec (Sound env initial inv past) w (issue env r) Q E := by
  refine ⟨fun hw k => ?_⟩
  unfold issue
  have hissued : Sound env initial inv past (w.record (.rpc r w.moment)) :=
    ⟨hw.good.issue (hr hw), hw.invocation, fun r' m' he => by
      rcases List.mem_cons.mp he with heq | he
      · obtain ⟨rfl, rfl⟩ := Effect.rpc.inj heq
        exact .inr hw.invocation
      · exact hw.recorded r' m' he⟩
  cases hcrashes : env.crashes w k with
  | true => simp only [if_true]; exact ⟨hw, hcrash⟩
  | false =>
      simp only [Bool.false_eq_true, if_false]
      cases hanswer : env.answer (w.record (.rpc r w.moment)) k (.rpc r) with
      | ok v => exact ⟨hissued, hok v⟩
      | error message => exact ⟨hissued, herror⟩

theorem writeUnlocked_spec {state : PersistedDocument}
    (hsound : Sound env initial inv past w → Sound env initial inv past (w.commit m state)) :
    Spec (Sound env initial inv past) w (writeUnlocked env m state)
      (fun _ w' => w' = w.commit m state) (fun w' => w' = w ∨ w' = w.commit m state) := by
  unfold writeUnlocked
  refine Spec.bind (Spec.raiseIf (fun _ => .inl rfl) fun _ => ?_)
  refine Spec.query_bind (.inl rfl) fun outcome => ?_
  cases outcome with
  | written => exact Spec.modify hsound rfl
  | failed message => exact Spec.throw (.inl rfl)
  | renamedThenFailed message => exact Spec.modify_bind hsound (Spec.throw (.inr rfl))

/-- What a call of `RuntimeStateStore.update` leaves behind: if it returns, the closure
declined or the returned document was written; if it raises, nothing was written, or
the directory could not be synced after the write. -/
theorem storeUpdate_spec (hm : Sound env initial inv past w → MayWrite w m) :
    Spec (Sound env initial inv past) w (storeUpdate env m)
      (fun d w' => d = w'.document
        ∧ (Wrote m w w' ∨ w' = w ∧ m.apply w.document = .ok none))
      (fun w' => Wrote m w w' ∨ Refused m w w') := by
  refine Spec.assume fun hw => ?_
  unfold storeUpdate
  refine load_bind (.inr (.inl rfl)) ?_
  have hsame : Wrote m w w ∨ Refused m w w := .inr (.inl rfl)
  rcases happly : m.apply w.document with e | _ | candidate <;> dsimp only
  · exact Spec.throw hsame
  · exact Spec.pure ⟨rfl, .inr ⟨rfl, rfl⟩⟩
  · refine Spec.query_bind hsame fun now => ?_
    by_cases hvalid : (stamp w.document candidate now).Valid
    · rw [dif_pos hvalid]
      generalize hstate : (⟨stamp w.document candidate now, hvalid⟩ : PersistedDocument) = state
      have hdocument : state.document = stamp w.document candidate now := by rw [← hstate]
      have hwrote : Wrote m w (w.commit m state) :=
        ⟨candidate, now, happly, hvalid, by rw [hstate]⟩
      have hgood : Good env initial (w.commit m state) := by
        rw [← hstate]
        exact hw.good.commit (hm hw) happly hvalid
      have hrecorded : ∀ r moment, .rpc r moment ∈ (w.commit m state).effects →
          .rpc r moment ∈ past ∨ moment.invocation = inv := fun r moment he =>
        hw.recorded r moment ((List.mem_cons.mp he).resolve_left nofun)
      refine Spec.call (writeUnlocked_spec fun hw => ⟨hgood, hw.invocation, hrecorded⟩) ?_ ?_
      · rintro _ w' _ rfl
        exact Spec.pure ⟨hdocument.symm, .inl hwrote⟩
      · rintro w' _ (rfl | rfl)
        · exact .inr (.inl rfl)
        · exact .inl hwrote
    · rw [dif_neg hvalid]
      exact Spec.modify_bind
        (fun hw => ⟨hw.good.reject (hm hw).admissible happly hvalid, hw.invocation,
          fun r moment he => hw.recorded r moment ((List.mem_cons.mp he).resolve_left nofun)⟩)
        (Spec.throw (.inr (.inr ⟨_, _, rfl⟩)))

/-! ## The intent of an operation -/

/-- A later record of the intent `i`: only its progress differs. -/
structure Advanced (i j : TrafficMutationIntentState) : Prop where
  same : j = { i with
    phase := j.phase
    hardwareStage := j.hardwareStage
    baselineStreamIds := j.baselineStreamIds
    reconciliation := j.reconciliation }
  stage : i.hardwareStage.order ≤ j.hardwareStage.order

theorem Advanced.refl (i : TrafficMutationIntentState) : Advanced i i := ⟨rfl, le_rfl⟩

theorem Advanced.nonce {i j : TrafficMutationIntentState} (h : Advanced i j) :
    j.nonce = i.nonce := by rw [h.same]

theorem Advanced.ports {i j : TrafficMutationIntentState} (h : Advanced i j) :
    j.ports = i.ports := by rw [h.same]

theorem Advanced.authority {i j : TrafficMutationIntentState} (h : Advanced i j) :
    j.authority = i.authority := by rw [h.same]

theorem Advanced.trans {i j k : TrafficMutationIntentState} (h : Advanced i j)
    (h' : Advanced j k) : Advanced i k := by
  refine ⟨?_, h.stage.trans h'.stage⟩
  rw [h'.same, h.same]

/-- The intent `i` is pending, over the session that it was prepared for. -/
structure Pending (i : TrafficMutationIntentState) (w : TrafficWorld) : Prop where
  intent : ∃ j, w.document.trafficMutationIntent = some j ∧ Advanced i j
  session : w.document.trafficSession = i.sessionBefore

/-- The intent is pending, and its authority is the one that was read last. -/
structure Held (i : TrafficMutationIntentState) (w : TrafficWorld) : Prop
    extends Pending i w where
  authority : w.authority = some i.authority

section

variable {i : TrafficMutationIntentState}

theorem Pending.sameState (h : Pending i w) (hw : SameState w w') : Pending i w' := by
  obtain ⟨j, hj, hij⟩ := h.intent
  exact ⟨⟨j, hw.document ▸ hj, hij⟩, hw.document ▸ h.session⟩

theorem Held.sameState (h : Held i w) (hw : SameState w w') : Held i w' :=
  ⟨h.toPending.sameState hw, hw.authority.trans h.authority⟩

theorem Pending.own (h : Pending i w) (id : Option Uuid) : Pending i (w.own id) :=
  ⟨h.intent, h.session⟩

theorem Held.own (h : Held i w) (id : Option Uuid) : Held i (w.own id) :=
  ⟨h.toPending.own id, h.authority⟩

theorem Held.record (h : Held i w) (e : Effect) : Held i (w.record e) :=
  ⟨⟨h.intent, h.session⟩, h.authority⟩

theorem Pending.advanced {nonce : Uuid} {stage : HardwareStage}
    {ids : Option (Dict Port (List Nat))} {budget : TrafficMutationIntentState → Option String}
    (h : Pending i w) (hw : Wrote (.advance nonce stage ids budget) w w') :
    Pending i w' ∧ ∀ j, w'.document.trafficMutationIntent = some j →
      stage.order ≤ j.hardwareStage.order := by
  obtain ⟨candidate, now, happly, _, rfl⟩ := hw
  obtain ⟨j, hj, hij⟩ := h.intent
  obtain ⟨j', hj', _, _, ⟨horder, rfl⟩ | ⟨horder, streams, _, rfl⟩⟩ := advance_some happly
  · obtain rfl := Option.some.inj (hj.symm.trans hj')
    refine ⟨⟨⟨j, hj, hij⟩, h.session⟩, fun k hk => ?_⟩
    obtain rfl := Option.some.inj (hj.symm.trans hk)
    exact horder.le
  · obtain rfl := Option.some.inj (hj.symm.trans hj')
    refine ⟨⟨⟨_, rfl, hij.trans ⟨rfl, horder⟩⟩, h.session⟩, fun k hk => ?_⟩
    obtain rfl := Option.some.inj hk
    exact le_rfl

theorem Pending.retained {nonce : Uuid} {reason : String} (h : Pending i w)
    (hw : Wrote (.retain nonce reason) w w') : Pending i w' := by
  obtain ⟨candidate, now, happly, _, rfl⟩ := hw
  obtain ⟨j, hj, hij⟩ := h.intent
  obtain ⟨j', hj', _, rfl⟩ := retain_some happly
  obtain rfl := Option.some.inj (hj.symm.trans hj')
  exact ⟨⟨_, rfl, hij.trans ⟨rfl, le_rfl⟩⟩, h.session⟩

end

/-! ## What the reaper may reach -/

def Reapable (env : TrafficEnvironment) (inv : Invocation) (ports : List Port) : Prop :=
  ∀ now, inv.reapedAt = some now → ClockAfter env now →
    ∀ p ∈ ports, p ∈ inv.store.document.expiredPorts now

def Unreaped (env : TrafficEnvironment) (inv : Invocation) : Prop :=
  ∀ now, inv.reapedAt = some now → ¬ClockAfter env now

theorem Unreaped.of_none (h : inv.reapedAt = none) : Unreaped env inv := by
  intro now hnow
  rw [h] at hnow
  cases hnow

theorem Unreaped.reapable (h : Unreaped env inv) (ports : List Port) :
    Reapable env inv ports := fun now hnow hclock => absurd hclock (h now hnow)

theorem Reapable.mono {ports ports' : List Port} (h : Reapable env inv ports)
    (hsub : ∀ p ∈ ports', p ∈ ports) : Reapable env inv ports' :=
  fun now hnow hclock p hp => h now hnow hclock p (hsub p hp)

section

variable {i : TrafficMutationIntentState} {r : Rpc}

theorem Sound.isolated_of_unreaped (hw : Sound env initial inv past w) (h : Unreaped env inv) :
    Isolated env r w.moment := by
  intro now hnow hclock
  exact absurd hclock (h now (hw.invocation ▸ hnow))

theorem Sound.isolated (hw : Sound env initial inv past w) {ports : List Port}
    (h : Reapable env inv ports) (hkind : r.isStopOrRemoval = true) (hwithin : r.Within ports) :
    Isolated env r w.moment := by
  intro now hnow hclock
  have hinv : w.moment.invocation = inv := hw.invocation
  rw [hinv] at hnow ⊢
  exact ⟨hkind, hwithin.mono (h now hnow hclock)⟩

theorem Held.covered (h : Held i w) (hwithin : r.Within i.ports) : Covered r w.moment := by
  obtain ⟨j, hj, hij⟩ := h.intent
  exact .inl ⟨j, hj, hij.ports ▸ hwithin, by rw [hij.authority]; exact h.authority⟩

theorem mayIssue_of_covered (hstart : r.isStart = false) (hupdate : r.isUpdate = false)
    (hcovered : Covered r w.moment) (hisolated : Isolated env r w.moment) :
    MayIssue env w r :=
  ⟨hcovered, hisolated, fun h => absurd h (by rw [hstart]; exact Bool.false_ne_true),
    fun h => absurd h (by rw [hupdate]; exact Bool.false_ne_true)⟩

end

/-! ## Programs that work on a client -/

/-- The rule for an operation on a client: `J` holds wherever it may end. -/
theorem withClient_spec {operation : TrafficM α} {J : TrafficWorld → Prop}
    {P : α → TrafficWorld → Prop} (hJ : J w)
    (h : Spec (Sound env initial inv past) w operation (fun a w' => J w' ∧ P a w') J) :
    Spec (Sound env initial inv past) w (withClient env operation)
      (fun r w' => J w' ∧ ∀ a, r = .ok a → P a w') J := by
  unfold withClient
  refine Spec.query_bind hJ fun r => ?_
  cases r with
  | some f => exact Spec.pure ⟨hJ, nofun⟩
  | none =>
      refine Spec.guarded h (fun a w' _ hw => ?_) (fun e w' _ hw => ?_) fun _ _ hw => hw
      · exact Spec.pure ⟨hw.1, fun a' ha' => CallResult.ok.inj ha' ▸ hw.2⟩
      · exact Spec.pure ⟨hw, nofun⟩

theorem withMutationPortsControlled_spec {operation : TrafficM α} {J : TrafficWorld → Prop}
    {i : TrafficMutationIntentState} {P : α → TrafficWorld → Prop} (hJ : J w)
    (h : Spec (Sound env initial inv past) w operation (fun a w' => J w' ∧ P a w') J) :
    Spec (Sound env initial inv past) w (withMutationPortsControlled env i operation)
      (fun r w' => J w' ∧ ∀ a, r = .ok a → P a w') J := by
  unfold withMutationPortsControlled
  refine withClient_spec hJ (Spec.query_bind hJ fun _ => ?_)
  exact Spec.ensuring (Spec.query_bind hJ fun _ => h) fun _ _ _ hw => hw.1

end

end TrexWebui
