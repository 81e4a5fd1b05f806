import TrexWebui.ReleaseSuccession

/-!
# The steps of the engine

What each function of the engine does to a state, for both readings of its
failures. `F` is the excuse for an exception: with `F` true a specification
says what the function does in any surroundings, and with `F` false that it
returns, where the surroundings are `Cooperative`. Under the invariant
`Running` the trace is a run of the protocol, so that to specify an effect is
to show that the protocol allows it.
-/

namespace TrexWebui.ReleaseEngine

open PyStr PyJson PosixPath Sha2 Checks OracleProgram GuardedRuns

/-! ## Surroundings -/

def EngineEnvironment.now (env : EngineEnvironment) (w : EngineWorld)
    (log : List EngineConsultation) : Str := env.answer w log .utcNow

/-- Nothing fails: the process goes on, every check passes, every effect is carried out, and the
clock has not gone back behind the journal. -/
structure EngineEnvironment.Cooperative (env : EngineEnvironment) : Prop where
  alive : ∀ (w : EngineWorld) log, env.crashes w log = false
  passes : ∀ (w : EngineWorld) log c, env.answer w log (.check c) = none
  done : ∀ (w : EngineWorld) log e, env.answer w log (.outcome e) = .done
  enabled : ∀ (w : EngineWorld) log unit, env.answer w log (.isEnabled unit) = .ok true
  timestamp : ∀ (w : EngineWorld) log, IsTimestamp (env.now w log)
  inOrder : ∀ (w : EngineWorld) log, ∀ t ∈ w.journal, IsTimestamp t.createdAt →
    ¬env.now w log < t.createdAt

/-- Surroundings where nothing fails, and whose clock stands still while a transaction is open. -/
def EngineEnvironment.undisturbed (host : EngineHost) (active : Bool) : EngineEnvironment where
  host := host
  crashes := fun _ _ => false
  answer := fun w _ c =>
    match c with
    | .check _ => none
    | .utcNow => timeOf w.journal
    | .uuid => text "0f8fad5b-d9cb-469f-a165-70867728950e"
    | .verifySource => .ok (List.replicate 64 97, 4096)
    | .allocatedBytes => .ok 4096
    | .boundaryHelper => .ok []
    | .boundarySnapshot => .ok []
    | .captureConsumer _ => .error "the consumer has no baseline"
    | .isActive _ => .ok active
    | .isReady _ => .ok true
    | .isEnabled _ => .ok true
    | .outcome _ => .done
where
  timeOf : Option Transaction → Str
    | some t => if IsTimestamp t.createdAt then t.createdAt else text "2024-05-01T12:00:00Z"
    | none => text "2024-05-01T12:00:00Z"

theorem undisturbed_cooperative (host : EngineHost) (active : Bool) :
    (EngineEnvironment.undisturbed host active).Cooperative where
  alive _ _ := rfl
  passes _ _ _ := rfl
  done _ _ _ := rfl
  enabled _ _ _ := rfl
  timestamp w log := by
    show IsTimestamp (EngineEnvironment.undisturbed.timeOf w.journal)
    cases w.journal with
    | none => decide +kernel
    | some t =>
        rw [EngineEnvironment.undisturbed.timeOf]
        split_ifs with h
        · exact h
        · decide +kernel
  inOrder w log t hjournal hcreated := by
    have heq : (EngineEnvironment.undisturbed host active).now w log = t.createdAt := by
      show EngineEnvironment.undisturbed.timeOf w.journal = t.createdAt
      rw [Option.mem_def.mp hjournal]
      exact if_pos hcreated
    rw [heq]
    exact lt_irrefl _

def OnTime (F : Prop) (s : EngineState) (now : Str) : Prop :=
  ¬F → IsTimestamp now ∧ ∀ t ∈ s.journal, IsTimestamp t.createdAt → ¬now < t.createdAt

/-- The trace of the world is a run of the protocol from a consistent state. -/
structure Running (host : EngineHost) (s : EngineState) (w : EngineWorld) : Prop where
  consistent : Consistent host s
  run : GuardedRuns.Run (releaseProtocol host) s w.trace w.toEngineState

theorem Running.now {host : EngineHost} {s : EngineState} {w : EngineWorld}
    (h : Running host s w) : Consistent host w.toEngineState :=
  h.run.holds (invariant_consistent host) h.consistent

section

variable {env : EngineEnvironment} {F : Prop} {w : EngineWorld} {α β : Type}

/-! ## Answers -/

section Answers

variable (hF : ¬env.Cooperative → F)

include hF

theorem consult_gives {c : EngineConsultation} :
    Gives w F (consult env c) fun a => ∃ log, a = env.answer w log c := by
  refine ⟨fun log => ?_⟩
  unfold consult
  split_ifs with hcrash
  · refine hF fun hcooperative => ?_
    rw [hcooperative.alive] at hcrash
    cases hcrash
  · exact ⟨log, rfl⟩

theorem check_gives {c : EngineCheck} : Gives w F (check env c) fun _ => True := by
  refine Gives.call (consult_gives hF) fun a ha => ?_
  obtain ⟨log, rfl⟩ := ha
  cases hanswer : env.answer w log (.check c) with
  | none => exact Gives.pure trivial
  | some message =>
      refine ⟨fun _ => hF fun hcooperative => ?_⟩
      rw [hcooperative.passes] at hanswer
      cases hanswer

theorem utcNow_gives : Gives w F (consult env .utcNow) (OnTime F w.toEngineState) := by
  refine (consult_gives hF).mono fun now hnow hn => ?_
  obtain ⟨log, rfl⟩ := hnow
  have hcooperative := not_not.mp fun h => hn (hF h)
  exact ⟨hcooperative.timestamp w log, hcooperative.inOrder w log⟩

omit hF in
theorem failIf_gives {c : Prop} [Decidable c] {message : String} (h : c → F) :
    Gives w F (failIf c message) fun _ => ¬c :=
  Gives.ite (fun hc => ⟨fun _ => h hc⟩) fun hc => Gives.pure hc

omit hF in
theorem raised_gives {x : Except JournalError α} (h : ¬F → ∃ a, x = .ok a) :
    Gives w F (raised x) fun a => x = .ok a := by
  cases x with
  | ok a => exact Gives.pure rfl
  | error e =>
      refine ⟨fun _ => not_not.mp fun hn => ?_⟩
      obtain ⟨a, ha⟩ := h hn
      cases ha

omit hF in
theorem answered_gives {q : EngineQuery (Except String α)} {P : Except String α → Prop}
    (hq : Gives w F q P) (h : ¬F → ∀ x, P x → ∃ a, x = .ok a) :
    Gives w F (answered q) fun a => P (.ok a) := by
  refine Gives.call hq fun x hx => ?_
  cases x with
  | ok a => exact Gives.pure hx
  | error message =>
      refine ⟨fun _ => not_not.mp fun hn => ?_⟩
      obtain ⟨a, ha⟩ := h hn _ hx
      cases ha

/-! ## The journal -/

def Transaction.Loadable (t : Transaction) : Prop :=
  ∃ content, journalContent t = .ok content ∧ content.length ≤ maxTransactionBytes

theorem loadTransaction_gives
    (hrules : ∀ t ∈ w.journal, t.Rules env.host (w.files env.host))
    (hload : ¬F → ∀ t ∈ w.journal, t.Loadable) :
    Gives w F (loadTransaction env) fun o => o = w.journal := by
  refine Gives.call (check_gives hF) fun _ _ => Gives.asks_bind ?_
  cases hjournal : w.journal with
  | none => exact Gives.pure rfl
  | some t =>
      have hvalid : validateTransaction env.host (w.files env.host) t.fields = .ok t :=
        validateTransaction_fields.mpr ⟨rfl, hrules t hjournal⟩
      refine Gives.call (raised_gives fun hn => ?_) fun content hcontent => ?_
      · obtain ⟨content, hcontent, -⟩ := hload hn t hjournal
        exact ⟨content, hcontent⟩
      refine Gives.call (failIf_gives fun hsize => not_not.mp fun hn => ?_) fun _ _ => ?_
      · obtain ⟨content', hcontent', hsmall⟩ := hload hn t hjournal
        obtain rfl := Except.ok.inj (hcontent.symm.trans hcontent')
        have hlow := two_le_length hcontent
        omega
      refine Gives.asks_bind (Gives.call (raised_gives fun _ => ⟨t, hvalid⟩) fun loaded hloaded => ?_)
      obtain rfl := Except.ok.inj (hvalid.symm.trans hloaded)
      exact Gives.pure rfl

end Answers

/-! ## Effects -/

section Effects

variable {s : EngineState} (hF : ¬env.Cooperative → F)

include hF

theorem perform_spec {e : EngineEffect} (hallowed : Allowed env.host w.toEngineState e) :
    Spec (Running env.host s) w (perform env e) (fun _ w' => w' = w.apply e)
      fun w' => F ∧ (w' = w ∨ w' = w.apply e) := by
  refine ⟨fun hI log => ?_⟩
  have hrun : Running env.host s (w.apply e) := ⟨hI.consistent, hI.run.effect hallowed⟩
  have hfail : ∀ message, env.answer w log (.outcome e) = .refused message → F := by
    intro message hanswer
    refine hF fun hcooperative => ?_
    rw [hcooperative.done] at hanswer
    cases hanswer
  have hlate : ∀ message, env.answer w log (.outcome e) = .doneThenFailed message → F := by
    intro message hanswer
    refine hF fun hcooperative => ?_
    rw [hcooperative.done] at hanswer
    cases hanswer
  unfold perform
  split_ifs with hcrash
  · refine ⟨hI, hF fun hcooperative => ?_, Or.inl rfl⟩
    rw [hcooperative.alive] at hcrash
    cases hcrash
  · cases hanswer : env.answer w log (.outcome e) with
    | done => exact ⟨hrun, rfl⟩
    | refused message => exact ⟨hI, hfail message hanswer, Or.inl rfl⟩
    | doneThenFailed message => exact ⟨hrun, hlate message hanswer, Or.inr rfl⟩

theorem writeTransaction_spec {t : Transaction} (hreplaces : Replaces w.toEngineState t)
    (hready : ¬F → t.Rules env.host (w.files env.host) ∧ t.Encodable) :
    Spec (Running env.host s) w (writeTransaction env t)
      (fun _ w' => w'.toEngineState = { w.toEngineState with journal := some t }) fun _ => F := by
  refine Spec.asks_bind ?_
  refine Spec.gives_bind (raised_gives fun hn => ?_) id fun loaded hloaded => ?_
  · exact ⟨t, validateTransaction_fields.mpr ⟨rfl, (hready hn).1⟩⟩
  obtain ⟨rfl, hrules⟩ := validateTransaction_fields.mp hloaded
  refine Spec.gives_bind (raised_gives fun hn => (hready hn).2.content) id fun content _ => ?_
  have hallowed : Allowed env.host w.toEngineState (.writeJournal loaded) := ⟨hreplaces, hrules⟩
  exact (perform_spec hF hallowed).mono
    (fun _ w' _ hw' => by rw [hw']; rfl) fun _ _ h => h.1

theorem setPhase_spec {t : Transaction} {phase : Phase}
    (hreplaces : ∀ now, Replaces w.toEngineState (t.moved phase now))
    (hready : ¬F → (∃ u ∈ w.journal, u.createdAt = t.createdAt ∧ IsTimestamp u.createdAt)
      ∧ t.Encodable ∧ ∀ now, IsTimestamp now → ¬now < t.createdAt →
        (t.moved phase now).Rules env.host (w.files env.host)) :
    Spec (Running env.host s) w (setPhase env t phase)
      (fun t' w' => ∃ now, t' = t.moved phase now ∧ (¬F → t'.Encodable)
        ∧ w'.toEngineState = { w.toEngineState with journal := some t' }) fun _ => F := by
  refine Spec.gives_bind (utcNow_gives hF) id fun now hnow => ?_
  have hencodable : ¬F → (t.moved phase now).Encodable := fun hn =>
    encodable_moved (hready hn).2.1 (hnow hn).1
  refine Spec.next (writeTransaction_spec hF (hreplaces now) fun hn => ?_) fun _ w' _ hw' => ?_
  · obtain ⟨⟨u, hjournal, hcreated, hstamp⟩, -, hrules⟩ := hready hn
    obtain ⟨htimestamp, horder⟩ := hnow hn
    exact ⟨hrules now htimestamp (hcreated ▸ horder u hjournal hstamp), hencodable hn⟩
  · exact Spec.pure ⟨now, rfl, hencodable, hw'⟩

/-! ## The selectors -/

theorem validateSelectedRelease_gives {digest : Str} (hstored : ¬F → digest ∈ w.releases) :
    Gives w F (validateSelectedRelease env digest) fun _ => digest ∈ w.releases := by
  refine Gives.asks_bind (Gives.call (failIf_gives fun h => ?_) fun _ hmem => ?_)
  · exact not_not.mp fun hn => h (hstored hn)
  · exact (check_gives hF).mono fun _ _ => not_not.mp hmem

theorem selectorDigest_gives {selector : Selector} {validate : Bool}
    (hstored : ∀ digest ∈ w.selected selector, digest ∈ w.releases) :
    Gives w F (selectorDigest env selector validate) fun o => o = w.selected selector := by
  refine Gives.call (check_gives hF) fun _ _ => Gives.asks_bind ?_
  cases hselected : w.selected selector with
  | none => exact Gives.pure rfl
  | some digest =>
      refine Gives.ite (fun _ => ?_) fun _ => Gives.pure rfl
      exact Gives.call (validateSelectedRelease_gives hF fun _ => hstored digest hselected)
        fun _ _ => Gives.pure rfl

omit hF in
theorem Consistent.selectedStored {host : EngineHost} {s : EngineState} (h : Consistent host s)
    (selector : Selector) : ∀ digest ∈ s.selected selector, digest ∈ s.releases := by
  cases selector with
  | current => exact h.currentStored
  | previous => exact h.previousStored

theorem selectors_spec {f : Option Str → Option Str → EngineM α} {Q : α → EngineWorld → Prop}
    {E : EngineWorld → Prop} (hE : F → E w)
    (hf : Spec (Running env.host s) w (f w.current w.previous) Q E) :
    Spec (Running env.host s) w (do
      let current ← selectorDigest env .current
      let previous ← selectorDigest env .previous
      f current previous : EngineM α) Q E := by
  refine Spec.assume fun hI => ?_
  refine Spec.gives_bind (selectorDigest_gives hF (hI.now.selectedStored .current)) hE fun o ho => ?_
  obtain rfl : o = w.current := ho
  refine Spec.gives_bind (selectorDigest_gives hF (hI.now.selectedStored .previous)) hE fun o ho => ?_
  obtain rfl : o = w.previous := ho
  exact hf

theorem atomicSetSelector_spec {selector : Selector} {digest : Option Str} {t : Transaction}
    (hjournal : w.journal = some t) (hswitches : Switches t selector digest)
    (hstored : ¬F → ∀ d ∈ digest, d ∈ w.releases) :
    Spec (Running env.host s) w (atomicSetSelector env selector digest)
      (fun _ w' => w'.toEngineState = w.toEngineState.change (.select selector digest))
      fun _ => F := by
  cases digest with
  | none =>
      refine Spec.gives_bind (check_gives hF) id fun _ _ => Spec.asks_bind ?_
      refine Spec.ite (fun hnone => Spec.pure ?_) fun _ => ?_
      · obtain ⟨⟨journal, current, previous, releases, backups, artifacts⟩, trace⟩ := w
        cases selector with
        | current =>
            obtain rfl : current = none := hnone
            rfl
        | previous =>
            obtain rfl : previous = none := hnone
            rfl
      · have hallowed : Allowed env.host w.toEngineState (.select selector none) :=
          ⟨⟨t, hjournal, hswitches⟩, fun _ h => nomatch h⟩
        exact (perform_spec hF hallowed).mono (fun _ w' _ hw' => by rw [hw']; rfl) fun _ _ h => h.1
  | some d =>
      refine Spec.gives_bind (check_gives hF) id fun _ _ => ?_
      refine Spec.gives_bind (validateSelectedRelease_gives hF fun hn => hstored hn d rfl) id
        fun _ hmem => ?_
      have hallowed : Allowed env.host w.toEngineState (.select selector (some d)) := by
        refine ⟨⟨t, hjournal, hswitches⟩, ?_⟩
        rintro x (hx : some d = some x)
        exact Option.some.inj hx ▸ hmem
      exact (perform_spec hF hallowed).mono (fun _ w' _ hw' => by rw [hw']; rfl) fun _ _ h => h.1

/-- Both selectors belong to the transaction, and differ where they must. -/
theorem assertSelectors_gives {t : Transaction} {allowEqual : Bool}
    (hconsistent : Consistent env.host w.toEngineState)
    (hown : ¬F → (∀ d ∈ w.current, d ∈ t.selectedDigests) ∧ (∀ d ∈ w.previous, d ∈ t.selectedDigests)
      ∧ (allowEqual = false → w.current ≠ none → w.current ≠ w.previous)) :
    Gives w F (assertSelectorsBelongToTransaction env t allowEqual)
      fun o => o = (w.current, w.previous) := by
  refine Gives.call (selectorDigest_gives hF (hconsistent.selectedStored .current)) fun o ho => ?_
  obtain rfl : o = w.current := ho
  refine Gives.call (selectorDigest_gives hF (hconsistent.selectedStored .previous)) fun o ho => ?_
  obtain rfl : o = w.previous := ho
  refine Gives.call (failIf_gives ?_) fun _ _ => Gives.call (failIf_gives ?_) fun _ _ =>
    Gives.call (failIf_gives ?_) fun _ _ => Gives.pure rfl
  · rintro ⟨d, hd, hnot⟩
    exact not_not.mp fun hn => hnot ((hown hn).1 d hd)
  · rintro ⟨d, hd, hnot⟩
    exact not_not.mp fun hn => hnot ((hown hn).2.1 d hd)
  · rintro ⟨hsome, heq, hstrict⟩
    exact not_not.mp fun hn => (hown hn).2.2 hstrict hsome heq

end Effects

end

end TrexWebui.ReleaseEngine
