import TrexWebui.TrafficRecoverySteps

/-!
# Steps of the operations

The specifications of the public methods that start, update and act on
traffic, and of the method that replaces the plan: each of them persists an
intent before it issues a call, and only for ports that the intent covers.
-/

namespace TrexWebui

open OracleProgram

/-- The program keeps the world good; nothing is said about its result. -/
abbrev Safe (env : TrafficEnvironment) (initial : RuntimeStateDocument) (inv : Invocation)
    (past : List Effect) (w : TrafficWorld) {α : Type} (m : TrafficM α) : Prop :=
  Spec (Sound env initial inv past) w m (fun _ _ => True) fun _ => True

section

variable {env : TrafficEnvironment} {initial : RuntimeStateDocument} {inv : Invocation} {past : List Effect}
  {w w' : TrafficWorld} {α β : Type} {i : TrafficMutationIntentState}

theorem safe_query (q : TrafficQuery α) :
    Safe env initial inv past w (liftM q : TrafficM α) :=
  Spec.query (fun _ => trivial) trivial

theorem withinBudget_safe {deadlines : List Time} {operation : String} {rpcCount : Nat}
    {rest : TrafficM (CallResult α)} (h : Safe env initial inv past w rest) :
    Safe env initial inv past w (withinBudget env deadlines operation rpcCount rest) := by
  unfold withinBudget
  refine Spec.query_bind trivial fun r => ?_
  cases r with
  | some f => exact Spec.pure trivial
  | none => exact h

theorem withConnectionTarget_safe {rest : TrafficM (CallResult α)}
    (h : Safe env initial inv past w rest) :
    Safe env initial inv past w (withConnectionTarget env rest) := by
  unfold withConnectionTarget
  refine Spec.query_bind trivial fun r => ?_
  cases r with
  | some f => exact Spec.pure trivial
  | none => exact h

theorem onSuccess_safe {q : TrafficQuery (CallResult α)}
    {rest : α → TrafficM (CallResult β)} (h : ∀ a, Safe env initial inv past w (rest a)) :
    Safe env initial inv past w (onSuccess (liftM q) rest) := by
  unfold onSuccess
  refine Spec.query_bind trivial fun r => ?_
  cases r with
  | failed f => exact Spec.pure trivial
  | ok a => exact h a

theorem guardedQuery_safe {caught : TrafficError → Bool} {q : TrafficQuery α}
    {report : TrafficError → β} {rest : α → TrafficM β}
    (h : ∀ a, Safe env initial inv past w (rest a)) :
    Safe env initial inv past w (guarded caught (liftM q : TrafficM α) (fun e => pure (report e)) rest) :=
  Spec.query_guarded trivial (fun _ => Spec.pure trivial) h

theorem retainFailedMutationIntent_safe {nonce : Uuid} {reason : String} :
    Safe env initial inv past w (retainFailedMutationIntent env nonce reason) :=
  retainFailedMutationIntent_spec.mono (fun _ _ _ _ => trivial) fun _ _ _ => trivial

theorem abandonIntent_safe {operation : String} {sessionBefore : TrafficSessionState}
    {f : Failure} :
    Safe env initial inv past w (abandonIntent (α := α) env operation i sessionBefore f) := by
  unfold abandonIntent
  refine Spec.call retainFailedMutationIntent_safe ?_ fun _ _ h => h
  intro _ w' _ _
  exact Spec.guarded clearTrafficMutationIntent_spec (fun _ _ _ _ => Spec.pure trivial)
    (fun _ _ _ _ => Spec.pure trivial) fun _ _ _ => trivial

theorem promoteOrRetain_safe {operation : String} {authority : RuntimeAuthorityIdentity}
    {persist : TrafficM α} {rest : α → TrafficM (CallResult β)}
    (hpersist : ∀ w', Safe env initial inv past w' persist)
    (hrest : ∀ a w', Safe env initial inv past w' (rest a)) :
    Safe env initial inv past w (promoteOrRetain env operation authority i persist rest) := by
  unfold promoteOrRetain
  refine Spec.guarded (S := fun _ _ => True) (F := fun _ => True) ?_
    (fun a w' _ _ => hrest a w') (fun e w' _ _ => ?_) fun _ _ h => h
  · refine Spec.bind ?_
    unfold assertAuthorityUnchanged
    refine Spec.bind (currentAuthority_spec trivial fun a => ?_)
    exact Spec.raiseIf (fun _ => trivial) fun _ => hpersist _
  · exact Spec.call retainFailedMutationIntent_safe (fun _ _ _ _ => Spec.pure trivial)
      fun _ _ h => h

/-! ## Starts -/

theorem persistStart_safe {authority : RuntimeAuthorityIdentity} {nonce : Uuid} :
    Safe env initial inv past w (persistStart env authority nonce) := by
  unfold persistStart
  refine Spec.call (promoteTrafficMutationIntent_spec nofun) ?_ fun _ _ _ => trivial
  intro session _ _ _
  cases session with
  | none => exact Spec.throw trivial
  | some session => exact Spec.pure trivial

theorem executeStart_safe {request : StartRequest} {path : String}
    {authority : RuntimeAuthorityIdentity} (hheld : Held i w) (hstart : Unstarted i.nonce w)
    (hports : i.ports = request.targetPorts) (hinv : inv.reapedAt = none) :
    Safe env initial inv past w (executeStart env request path authority i) := by
  unfold executeStart
  refine Spec.call (startProfile_spec hheld hstart (fun p hp => hports ▸ hp) (.of_none hinv)) ?_
    fun _ _ _ => trivial
  intro r w' _ _
  cases r with
  | failed f =>
      exact Spec.call retainFailedMutationIntent_safe (fun _ _ _ _ => Spec.pure trivial)
        fun _ _ h => h
  | ok data =>
      refine promoteOrRetain_safe (fun _ => persistStart_safe) fun session w'' => ?_
      exact setOwned_bind (Spec.pure trivial)

def StartRequest.MultiplierValid (request : StartRequest) : Prop :=
  1 ≤ request.group.multiplier.length ∧ request.group.multiplier.length ≤ 64

theorem preparable_startDraft {request : StartRequest} {authority : RuntimeAuthorityIdentity}
    {sessionBefore : Option TrafficSessionState} {startGroup : TrafficSessionGroupState}
    {digest : Sha256} {baseline : MutationBaseline} {d : RuntimeStateDocument}
    (hagrees : request.expectedSessionId ≠ none → ∀ s, sessionBefore = some s →
      s.agreesWith baseline.portStates = true)
    (hmultiplier : 1 ≤ startGroup.multiplier.length ∧ startGroup.multiplier.length ≤ 64)
    (nonce : Uuid) (now : Time) :
    Preparable d (preparedIntent (startDraft request authority sessionBefore startGroup digest
      baseline) nonce now) where
  not_superseding := ⟨rfl, rfl, rfl, rfl⟩
  agrees := hagrees
  start _ := ⟨Option.some_ne_none _, fun _ hg => Option.some.inj hg ▸ hmultiplier⟩
  owned hne := absurd rfl hne
  evidenced hne := absurd rfl hne

theorem agreesWith_of_no_failure {session : TrafficSessionState}
    {baseline : Dict Port PortState} (h : sessionBaselineFailure session baseline = none) :
    session.agreesWith baseline = true := by
  unfold sessionBaselineFailure at h
  by_contra hdisagree
  rw [if_neg hdisagree] at h
  cases h

theorem startFromBaseline_safe {request : StartRequest} {hardStopAt : Option Time}
    {authority : RuntimeAuthorityIdentity} {current : RuntimeStateDocument} {path : String}
    {digest : Sha256} {deadlines : List Time} {configuredPorts : List Port}
    (hauthority : w.authority = some authority) (hrequest : request.MultiplierValid)
    (hinv : inv.reapedAt = none) :
    Safe env initial inv past w (startFromBaseline env request hardStopAt authority current path
      digest deadlines configuredPorts) := by
  unfold startFromBaseline
  refine Spec.query_bind trivial fun r => ?_
  cases r with
  | failed f => exact Spec.pure trivial
  | ok baseline =>
      dsimp only
      split
      · exact Spec.pure trivial
      · rename_i hconflict
        refine withinBudget_safe (Spec.query_bind trivial fun now => ?_)
        refine Spec.bind (Spec.raiseIf (fun _ => trivial) fun _ => ?_)
        have hagrees : request.expectedSessionId ≠ none → ∀ s, current.trafficSession = some s →
            s.agreesWith baseline.portStates = true := by
          intro hid s hs
          rw [if_pos (Option.isSome_iff_ne_none.mpr hid), hs] at hconflict
          exact agreesWith_of_no_failure hconflict
        refine Spec.guarded (prepareTrafficMutationIntent_spec
          (preparable_startDraft hagrees hrequest) (fun _ _ => hauthority)
          fun h => absurd hinv h) ?_ (fun _ _ _ _ => Spec.pure trivial) fun _ _ h => h
        rintro intent w' _ ⟨⟨nonce, t, rfl⟩, hheld, hstart, _⟩
        exact executeStart_safe hheld hstart rfl hinv

theorem startRequested_safe {request : StartRequest} (hrequest : request.MultiplierValid)
    (hinv : inv.reapedAt = none) :
    Safe env initial inv past w (startRequested env request) := by
  unfold startRequested
  refine Spec.query_bind trivial fun r => ?_
  cases r with
  | error message => exact Spec.pure trivial
  | ok hardStopAt =>
      refine withinBudget_safe ?_
      refine Spec.guarded (S := fun a w' => w' = w.readAuthority a) (F := fun _ => True)
        (currentAuthority_spec trivial fun a => rfl) ?_ (fun _ _ _ _ => Spec.pure trivial)
        fun _ _ h => h
      rintro authority _ _ rfl
      refine guardedQuery_safe fun current => Spec.asks_bind ?_
      split
      · split <;> exact Spec.pure trivial
      · dsimp only
        refine withinBudget_safe (Spec.ite (fun _ => Spec.pure trivial) fun _ =>
          Spec.ite (fun _ => Spec.pure trivial) fun _ => Spec.query_bind trivial fun r => ?_)
        cases r with
        | error f => exact Spec.pure trivial
        | ok path =>
            refine guardedQuery_safe fun digest => guardedQuery_safe fun config => ?_
            exact withinBudget_safe (startFromBaseline_safe rfl hrequest hinv)

theorem startGroup_safe {groupId : String} {revision : Nat} {sessionId : Option Uuid}
    {hardStopAt : Option (Except String Time)} (hinv : inv.reapedAt = none) :
    Safe env initial inv past w (startGroup env groupId revision sessionId hardStopAt) := by
  unfold startGroup
  refine withConnectionTarget_safe ?_
  refine Spec.guarded (S := fun d w' => w' = w ∧ d = w.document) (F := fun _ => True)
    (Spec.query_of answers_load (fun _ h => ⟨rfl, h⟩) trivial) ?_
    (fun _ _ _ _ => Spec.pure trivial) fun _ _ h => h
  rintro _ w' _ ⟨rfl, rfl⟩
  refine Spec.ite (fun _ => Spec.pure trivial) fun _ => ?_
  split
  · exact Spec.pure trivial
  · rename_i group hfound
    refine startRequested_safe ?_ hinv
    exact (w'.store.valid.plan_valid group (List.mem_of_find?_eq_some hfound)).multiplier_length

theorem start_safe {sessionId : Option Uuid} {path : String} {ports : Option (List Port)}
    {command : StartCommand} {hardStopAt : Option (Except String Time)}
    (hinv : inv.reapedAt = none) :
    Safe env initial inv past w (start env sessionId path ports command hardStopAt) := by
  unfold start
  refine withConnectionTarget_safe ?_
  split
  · exact Spec.pure trivial
  · rename_i normalizedPorts _
    refine Spec.guarded (S := fun _ _ => True) (F := fun _ => True) ?_ ?_
      (fun _ _ _ _ => Spec.pure trivial) fun _ _ h => h
    · refine Spec.query_bind trivial fun _ => ?_
      cases normalizedPorts with
      | some ports => exact Spec.pure trivial
      | none => exact Spec.query_bind trivial fun config => Spec.pure trivial
    · intro fallback w' _ _
      dsimp only
      refine Spec.ite (fun hvalid => ?_) fun _ => Spec.pure trivial
      exact startRequested_safe hvalid.multiplier_length hinv

/-! ## The session that a mutation needs -/

theorem sessionMutationTarget_ok {d : RuntimeStateDocument}
    {authority : RuntimeAuthorityIdentity} {owned : Option Uuid}
    {requested : Option (List Port)} {id : Option Uuid} {complete : Bool}
    {target : List Port} {session : TrafficSessionState}
    (h : sessionMutationTarget d authority owned requested id complete
      = .ok (target, session)) :
    d.trafficMutationIntent = none ∧ d.trafficSession = some session
      ∧ id = some session.id ∧ owned = some session.id ∧ session.authority = authority
      ∧ session.state.safelyActive = true ∧ (∀ p ∈ target, p ∈ session.ownedPorts)
      ∧ (∀ ports, requested = some ports → target = ports ∧ ports ≠ []) := by
  unfold sessionMutationTarget at h
  split at h
  · cases h
  · rename_i hintent
    rw [not_not] at hintent
    refine ⟨hintent, ?_⟩
    split at h
    · cases h
    · cases h
    · rename_i s u hs
      split at h
      · cases h
      · rename_i hid
        split at h
        · cases h
        · rename_i hauthority
          split at h
          · cases h
          · rename_i hactive
            split at h
            · cases h
            · rename_i howned
              split at h
              · cases h
              · rw [not_not] at hid hauthority howned
                rw [Bool.not_eq_false] at hactive
                subst hid
                split at h
                · cases h
                  exact ⟨hs, rfl, howned.symm, hauthority, hactive, fun _ hp => hp, nofun⟩
                · rename_i ports
                  split at h
                  · cases h
                  · rename_i hne
                    split at h
                    · cases h
                    · rename_i hforeign
                      split at h
                      · cases h
                      · cases h
                        refine ⟨hs, rfl, howned.symm, hauthority, hactive, fun p hp => ?_, ?_⟩
                        · by_contra hp'
                          exact hforeign (List.any_eq_true.mpr ⟨p, hp, decide_eq_true hp'⟩)
                        · rintro _ ⟨⟩
                          exact ⟨rfl, hne⟩

theorem assertSessionMutationAuthority_spec {requested : Option (List Port)}
    {id : Option Uuid} {complete : Bool} :
    Spec (Sound env initial inv past) w
      (assertSessionMutationAuthority env requested id complete)
      (fun r w' => w' = w.readAuthority r.1 ∧ sessionMutationTarget w.document r.1
        w.ownedSessionId requested id complete = .ok r.2) (fun _ => True) := by
  unfold assertSessionMutationAuthority
  refine Spec.bind (currentAuthority_spec trivial fun authority => ?_)
  refine load_bind trivial (Spec.asks_bind ?_)
  exact Spec.bind (liftExcept_spec trivial fun r htarget => Spec.pure ⟨rfl, htarget⟩)

/-! ## Updates -/

theorem preparable_updateDraft {authority : RuntimeAuthorityIdentity} {id : Option Uuid}
    {targetPorts : List Port} {baseline : MutationBaseline} {session : TrafficSessionState}
    {multiplier : String} {force total : Bool} {d : RuntimeStateDocument}
    (hagrees : session.agreesWith baseline.portStates = true)
    (howned : ∀ p ∈ targetPorts, p ∈ session.ownedPorts)
    (hevidence : session.evidenceVersion = some .one) (nonce : Uuid) (now : Time) :
    Preparable d (preparedIntent (updateDraft authority id targetPorts baseline session
      multiplier force total) nonce now) where
  not_superseding := ⟨rfl, rfl, rfl, rfl⟩
  agrees _ _ hs := Option.some.inj hs ▸ hagrees
  start h := absurd h nofun
  owned _ _ hs := Option.some.inj hs ▸ howned
  evidenced _ _ _ hs := Option.some.inj hs ▸ hevidence

theorem persistUpdate_safe {authority : RuntimeAuthorityIdentity} {nonce : Uuid} :
    Safe env initial inv past w (persistUpdate env authority nonce) := by
  unfold persistUpdate
  refine (promoteTrafficMutationIntent_spec ?_).mono (fun _ _ _ _ => trivial)
    fun _ _ _ => trivial
  exact nofun

theorem executeUpdate_safe {authority : RuntimeAuthorityIdentity} {targetPorts : List Port}
    {session : TrafficSessionState} {multiplier : String} {force total : Bool}
    (hheld : Held i w) (hfirst : Unupdated i.nonce w) (hports : i.ports = targetPorts)
    (hinv : inv.reapedAt = none) :
    Safe env initial inv past w
      (executeUpdate env authority targetPorts session multiplier force total i) := by
  unfold executeUpdate
  refine Spec.query_bind trivial fun r => ?_
  cases r with
  | some f => exact abandonIntent_safe
  | none =>
      refine Spec.call (updateTraffic_spec hheld (fun p hp => hports ▸ hp) (.of_none hinv)
        fun _ => hfirst) ?_ fun _ _ _ => trivial
      intro r w' _ _
      cases r with
      | failed f =>
          exact Spec.call retainFailedMutationIntent_safe (fun _ _ _ _ => Spec.pure trivial)
            fun _ _ h => h
      | ok data =>
          exact promoteOrRetain_safe (fun _ => persistUpdate_safe) fun _ _ => Spec.pure trivial

theorem update_safe {ports : Option (List Port)} {multiplier : String} {force total : Bool}
    {id : Option Uuid} (hinv : inv.reapedAt = none) :
    Safe env initial inv past w (update env ports multiplier force total id) := by
  unfold update
  refine withConnectionTarget_safe ?_
  split
  · exact Spec.pure trivial
  · refine Spec.guarded assertSessionMutationAuthority_spec ?_
      (fun _ _ _ _ => Spec.pure trivial) fun _ _ h => h
    rintro ⟨authority, targetPorts, session⟩ _ _ ⟨rfl, htarget⟩
    have howned := (sessionMutationTarget_ok htarget).2.2.2.2.2.2.1
    refine Spec.ite (fun _ => Spec.pure trivial) fun hevidence => ?_
    rw [not_not] at hevidence
    refine withinBudget_safe (guardedQuery_safe fun config => withinBudget_safe
      (onSuccess_safe fun baseline => ?_))
    split
    · exact Spec.pure trivial
    · rename_i hconflict
      refine withinBudget_safe (Spec.guarded (prepareTrafficMutationIntent_spec
        (preparable_updateDraft (agreesWith_of_no_failure hconflict) howned hevidence)
        (fun _ _ => rfl) fun h => absurd hinv h) ?_ (fun _ _ _ _ => Spec.pure trivial)
        fun _ _ h => h)
      rintro intent w' _ ⟨⟨nonce, now, rfl⟩, hheld, _, hfirst⟩
      exact executeUpdate_safe hheld hfirst rfl hinv

/-! ## Stop, pause and resume -/

theorem preparable_actionDraft {op : TrafficOperation} {authority : RuntimeAuthorityIdentity}
    {id : Option Uuid} {targetPorts : List Port} {baseline : MutationBaseline}
    {session : TrafficSessionState} {d : RuntimeStateDocument} (hop : op ≠ .start)
    (hagrees : session.agreesWith baseline.portStates = true)
    (howned : ∀ p ∈ targetPorts, p ∈ session.ownedPorts)
    (hevidence : op ≠ .stop → session.evidenceVersion = some .one) (nonce : Uuid)
    (now : Time) :
    Preparable d (preparedIntent (actionDraft op authority id targetPorts baseline session)
      nonce now) where
  not_superseding := ⟨rfl, rfl, rfl, rfl⟩
  agrees _ _ hs := Option.some.inj hs ▸ hagrees
  start h := absurd h hop
  owned _ _ hs := Option.some.inj hs ▸ howned
  evidenced _ hne _ hs := Option.some.inj hs ▸ hevidence hne

theorem persistAction_safe {op : TrafficOperation} {authority : RuntimeAuthorityIdentity}
    {nonce : Uuid} {mode : TrafficCompletionMode} (hmode : mode = .hardStop → op = .stop) :
    Safe env initial inv past w (persistAction env op authority nonce mode) :=
  (persistAction_spec hmode).mono (fun _ _ _ _ => trivial) fun _ _ _ => trivial

theorem executeAction_safe {op : TrafficOperation} {authority : RuntimeAuthorityIdentity}
    {targetPorts : List Port} {session : TrafficSessionState} (hheld : Held i w)
    (hports : i.ports = targetPorts)
    (hreap : op = .stop ∧ Reapable env inv targetPorts ∨ Unreaped env inv) :
    Safe env initial inv past w (executeAction env op authority targetPorts session i) := by
  unfold executeAction
  refine Spec.query_bind trivial fun r => ?_
  cases r with
  | some f => exact abandonIntent_safe
  | none =>
      refine Spec.call (trafficAction_spec hheld (fun p hp => hports ▸ hp) hreap) ?_
        fun _ _ _ => trivial
      intro r w' _ _
      cases r with
      | failed f =>
          exact Spec.call retainFailedMutationIntent_safe (fun _ _ _ _ => Spec.pure trivial)
            fun _ _ h => h
      | ok data =>
          exact promoteOrRetain_safe (fun _ => persistAction_safe nofun)
            fun _ _ => Spec.pure trivial

theorem action_safe {op : TrafficOperation} {ports : Option (List Port)} {id : Option Uuid}
    (hreap : (op = .stop ∧ ∃ targets, ports = some targets ∧ Reapable env inv targets)
      ∨ inv.reapedAt = none) :
    Safe env initial inv past w (action env op ports id) := by
  unfold action
  refine Spec.ite (fun _ => Spec.pure trivial) fun haction => withConnectionTarget_safe ?_
  have hop : op ≠ .start := by rintro rfl; exact haction rfl
  split
  · exact Spec.pure trivial
  · rename_i normalizedPorts hnormal
    refine Spec.guarded assertSessionMutationAuthority_spec ?_
      (fun _ _ _ _ => Spec.pure trivial) fun _ _ h => h
    rintro ⟨authority, targetPorts, session⟩ _ _ ⟨rfl, htarget⟩
    obtain ⟨_, _, _, _, _, _, howned, hrequested⟩ := sessionMutationTarget_ok htarget
    have hreap' : op = .stop ∧ Reapable env inv targetPorts ∨ Unreaped env inv := by
      rcases hreap with ⟨hstop, targets, rfl, hreap⟩ | hnone
      · refine .inl ⟨hstop, ?_⟩
        obtain rfl := normalizePortList_ok hnormal
        rw [(hrequested _ rfl).1]
        exact hreap.mono fun p hp => mem_normalizedPorts.mp hp
      · exact .inr (.of_none hnone)
    refine Spec.ite (fun _ => Spec.pure trivial) fun hevidence => ?_
    have hevidence' : op ≠ .stop → session.evidenceVersion = some .one := by
      intro hne
      by_contra hversion
      exact hevidence ⟨hversion, hne⟩
    dsimp only
    refine withinBudget_safe (Spec.ite (fun _ => Spec.pure trivial) fun _ =>
      guardedQuery_safe fun config => withinBudget_safe (onSuccess_safe fun baseline => ?_))
    split
    · exact Spec.pure trivial
    · rename_i hconflict
      refine withinBudget_safe (Spec.guarded (prepareTrafficMutationIntent_spec
        (preparable_actionDraft hop (agreesWith_of_no_failure hconflict) howned hevidence')
        (fun _ _ => rfl) fun _ _ _ => hop) ?_ (fun _ _ _ _ => Spec.pure trivial)
        fun _ _ h => h)
      rintro intent w' _ ⟨⟨nonce, now, rfl⟩, hheld, _, _⟩
      exact executeAction_safe hheld rfl hreap'

/-! ## The plan -/

/-- Groups with distinct names and disjoint ports, also from the earlier ones. -/
structure DistinctGroups (earlier groups : List TrafficGroupState) : Prop where
  new_id : ∀ g ∈ groups, g.id ∉ earlier.map (·.id)
  ids : (groups.map (·.id)).Nodup
  new_ports : ∀ g ∈ groups, ∀ e ∈ earlier, ∀ p ∈ g.ports, p ∉ e.ports
  ports : groups.Pairwise fun g h => ∀ p ∈ g.ports, p ∉ h.ports
  valid : ∀ g ∈ groups, ∃ path, ({ g with profilePath := path } : TrafficGroupState).Valid

theorem answers_validatedGroups {config : TrexConfig} (groups : List TrafficGroupState) :
    ∀ earlier, Answers w (validatedGroups env config earlier groups)
      (DistinctGroups earlier) := by
  induction groups with
  | nil => exact fun _ => Answers.pure ⟨by simp, by simp, by simp, by simp, by simp⟩
  | cons group rest ih =>
      intro earlier
      unfold validatedGroups
      refine Answers.bind (Answers.raiseIf fun hvalid => ?_)
      refine Answers.bind (Answers.raiseIf fun hid => ?_)
      refine Answers.bind (Answers.raiseIf fun _ => ?_)
      refine Answers.bind (Answers.raiseIf fun hports => ?_)
      refine Answers.bind (Answers.any.mono fun r _ => ?_)
      cases r with
      | error f => exact Answers.throw
      | ok path =>
          refine Answers.bind ((ih _).mono fun others hothers => Answers.pure ?_)
          have hearlier : ∀ e ∈ earlier, ∀ p ∈ group.ports, p ∉ e.ports := by
            intro e he p hp hpe
            exact hports (List.any_eq_true.mpr ⟨e, he,
              List.any_eq_true.mpr ⟨p, hp, decide_eq_true hpe⟩⟩)
          refine ⟨?_, ?_, ?_, ?_, ?_⟩
          · rintro g (_ | ⟨_, hg⟩)
            · exact hid
            · intro hmem
              refine hothers.new_id g hg ?_
              rw [List.map_append, List.mem_append]
              exact .inl hmem
          · rw [List.map_cons, List.nodup_cons]
            refine ⟨fun hmem => ?_, hothers.ids⟩
            obtain ⟨g, hg, hgid⟩ := List.mem_map.mp hmem
            refine hothers.new_id g hg ?_
            rw [List.map_append, List.mem_append]
            exact .inr (by simp [hgid])
          · rintro g (_ | ⟨_, hg⟩) e he
            · exact hearlier e he
            · exact hothers.new_ports g hg e (List.mem_append_left _ he)
          · refine List.pairwise_cons.mpr ⟨fun g hg p hp hpg => ?_, hothers.ports⟩
            exact hothers.new_ports g hg _ (List.mem_append_right _ List.mem_cons_self) p hpg hp
          · rintro g (_ | ⟨_, hg⟩)
            · exact ⟨group.profilePath, not_not.mp hvalid⟩
            · exact hothers.valid g hg

theorem replacePlan_safe {revision : Nat} {groups : List TrafficGroupState} :
    Safe env initial inv past w (replacePlan env revision groups) := by
  unfold replacePlan
  refine withConnectionTarget_safe ?_
  refine Spec.guarded (S := fun _ _ => True) (F := fun _ => True)
    (currentAuthority_spec trivial fun _ => trivial) ?_ (fun _ _ _ _ => Spec.pure trivial)
    fun _ _ h => h
  intro authority w' _ _
  refine Spec.guarded (S := fun _ _ => True) (F := fun _ => True) ?_
    (fun _ _ _ _ => safe_query _) ?_ fun _ _ h => h
  · refine Spec.query_bind trivial fun config => ?_
    refine Spec.query_bind_of (answers_validatedGroups groups []) trivial fun resolved h => ?_
    have hmay : MayWrite w' (.replace revision resolved) :=
      ⟨⟨h.ids, h.ports, h.valid⟩, fun _ h => (nomatch h), fun _ => rfl⟩
    exact Spec.call (storeUpdate_spec fun _ => hmay) (fun _ _ _ _ => Spec.pure trivial)
      fun _ _ _ => trivial
  · rintro e w'' _ _
    split
    · exact Spec.pure trivial
    · exact Spec.pure trivial
    · exact Spec.pure trivial
    · exact Spec.pure trivial
    · exact Spec.pure trivial
    · exact Spec.throw trivial

end

end TrexWebui
