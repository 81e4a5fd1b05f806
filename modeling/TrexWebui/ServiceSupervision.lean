import TrexWebui.OracleProgram
import Mathlib.Data.List.Induction
import Mathlib.Logic.Function.Basic

/-!
# The supervision of the service

The cached service of `dependencies.py` and the reaper of `traffic_hard_stop.py` that watches
it, through any sequence of the calls that replace one or the other. A call is a program over
the module's variables and over all reapers that were ever made; how its free steps go (the
join of the old worker, the construction and the closing of a service, the publication of
the target) is given with the call. A worker that has been told to stop may exit at any time.

A reaper that is told to stop and does not within the time limit stays attached, and nothing
replaces it until a later call finds it gone; `supervised_iff` says which calls do that.
-/

namespace TrexWebui

open OracleProgram

/-! ## State -/

/-- A reaper: the service it watches, whether `close` was called, and whether its worker
is alive. A worker that is alive begins new passes until its reaper is closed. -/
structure SupervisedReaper where
  service : Nat := 0
  closed : Bool := false
  running : Bool := false

/-- `_service` and `_service_key`. -/
structure CachedService (Key : Type) where
  service : Nat
  key : Key
  deriving DecidableEq

/-- `_traffic_hard_stop_reaper` and `_traffic_hard_stop_reaper_service`. -/
structure AttachedReaper where
  reaper : Nat
  service : Nat
  deriving DecidableEq

/-- The variables of the module, and the reapers by their numbers. `overlapped` is set when a
worker starts while another one still begins new passes. -/
structure Supervision (Key : Type) where
  enabled : Bool := false
  cached : Option (CachedService Key) := none
  attached : Option AttachedReaper := none
  services : Nat := 0
  reapers : Nat := 0
  reaper : Nat → SupervisedReaper := fun _ => {}
  overlapped : Bool := false

/-- How the steps of a call go. -/
structure CallOutcome where
  /-- `connect_trex` refuses the request, or its durable state does. -/
  refuses : Bool := false
  disconnects : Bool := true
  joins : Bool := true
  constructs : Bool := true
  closes : Bool := true
  persists : Bool := true

inductive SupervisionError where
  | closeTimedOut
  | stillExiting
  | construction
  | replacement
  | persistence
  | notStarted

variable {Key : Type}

abbrev SupervisionM (Key α : Type) : Type := Program SupervisionError (Supervision Key) Unit α

namespace Supervision

def passes (s : Supervision Key) (n : Nat) : Bool := (s.reaper n).running && !(s.reaper n).closed

def setReaper (n : Nat) (r : SupervisedReaper) (s : Supervision Key) : Supervision Key :=
  { s with reaper := Function.update s.reaper n r }

def view {α : Type} (f : Supervision Key → α) : SupervisionM Key α :=
  liftM (Query.asks f : Query SupervisionError (Supervision Key) Unit α)

def modify (f : Supervision Key → Supervision Key) : SupervisionM Key Unit := Program.modify f

/-! ## The reaper -/

/-- `TrafficHardStopReaper.start`. -/
def startWorker (n : Nat) : SupervisionM Key Unit := do
  let r ← view fun s => s.reaper n
  raiseIf (r.closed = true) SupervisionError.notStarted
  if r.running then pure ()
  else
    modify fun s =>
      { s.setReaper n { r with running := true } with
        overlapped := s.overlapped || (List.range s.reapers).any fun m => m != n && s.passes m }

/-- `TrafficHardStopReaper.close`. -/
def closeReaper (o : CallOutcome) (n : Nat) : SupervisionM Key Unit := do
  modify fun s => s.setReaper n { s.reaper n with closed := true }
  let r ← view fun s => s.reaper n
  if r.running then
    raiseIf (o.joins = false) SupervisionError.closeTimedOut
    modify fun s => s.setReaper n { s.reaper n with running := false }
  else pure ()

/-! ## The service -/

/-- `_detach_reaper_for_service_change`. -/
def detachReaper (o : CallOutcome) : SupervisionM Key Unit := do
  match ← view fun s => s.attached with
  | none => pure ()
  | some a =>
    closeReaper o a.reaper
    modify fun s => { s with attached := none }

def newReaper (service : Nat) : SupervisionM Key (Option Nat) := do
  let n ← view fun s => s.reapers
  modify fun s =>
    { s.setReaper n { service := service } with
      reapers := n + 1, attached := some { reaper := n, service := service } }
  startWorker n
  pure (some n)

/-- `_resume_reaper_for_service`. -/
def resumeReaper (o : CallOutcome) (service : Nat) : SupervisionM Key (Option Nat) := do
  if !(← view fun s => s.enabled) then pure none
  else
    match ← view fun s => s.attached with
    | none => newReaper service
    | some a =>
      let existing ← view fun s => s.reaper a.reaper
      if a.service = service ∧ existing.running = true ∧ existing.closed = false then
        pure (some a.reaper)
      else
        raiseIf (existing.running = true ∧ existing.closed = true) SupervisionError.stillExiting
        if existing.closed = false ∧ a.service = service then
          startWorker a.reaper
          pure (some a.reaper)
        else
          closeReaper o a.reaper
          modify fun s => { s with attached := none }
          newReaper service

variable [DecidableEq Key]

def matching (key : Key) (s : Supervision Key) : Option Nat :=
  (s.cached.filter fun c => c.key = key).map (·.service)

/-- The body of the `try` of `_replace_service`: the service that is cached then. -/
def exchange (o : CallOutcome) (key : Key) : SupervisionM Key Nat := do
  detachReaper o
  raiseIf (o.constructs = false) SupervisionError.construction
  let fresh ← view fun s => s.services
  modify fun s => { s with services := fresh + 1 }
  match ← view (matching key) with
  | some service => pure service
  | none =>
    raiseIf ((← view fun s => s.cached.isSome) = true ∧ o.closes = false) SupervisionError.replacement
    modify fun s => { s with cached := some { service := fresh, key := key } }
    pure fresh

def replaceService (o : CallOutcome) (key : Key) : SupervisionM Key Nat := do
  match ← view (matching key) with
  | some service =>
    let _ ← resumeReaper o service
    pure service
  | none =>
    guarded (fun _ : SupervisionError => true) (exchange o key)
      (fun e => do
        let cached ← view fun s => s.cached
        let attached ← view fun s => s.attached
        match cached, attached with
        | some c, none => do
          let _ ← resumeReaper o c.service
          throw e
        | _, _ => throw e)
      fun replacement => do
        let _ ← resumeReaper o replacement
        pure replacement

/-- `get_stl_service`, in an environment with this key. -/
def getStlService (o : CallOutcome) (key : Key) : SupervisionM Key Nat := do
  match ← view (matching key) with
  | some service =>
    let _ ← resumeReaper o service
    pure service
  | none => replaceService o key

/-- `start_traffic_hard_stop_reaper`. -/
def startReaper (o : CallOutcome) (key : Key) : SupervisionM Key Unit := do
  modify fun s => { s with enabled := true }
  let service ← getStlService o key
  let reaper ← resumeReaper o service
  raiseIf (reaper = none) SupervisionError.notStarted

omit [DecidableEq Key] in
/-- `stop_traffic_hard_stop_reaper`. -/
def stopReaper (o : CallOutcome) : SupervisionM Key Unit := do
  modify fun s => { s with enabled := false }
  detachReaper o

omit [DecidableEq Key] in
/-- `retire_disconnected_stl_service`. -/
def retireService (o : CallOutcome) : SupervisionM Key Unit := do
  detachReaper o
  modify fun s => { s with cached := none }

/-- `connect_trex`. The disconnection does not touch the variables; the environment has the
key from the publication of the target on. -/
def connectTrex (o : CallOutcome) (key : Key) : SupervisionM Key Unit := do
  if o.refuses ∨ o.disconnects = false then pure ()
  else
    retireService o
    raiseIf (o.persists = false) SupervisionError.persistence
    let _ ← getStlService o key

end Supervision

/-! ## Runs -/

/-- The calls, and the exit of a worker that was told to stop. -/
inductive SupervisionEvent (Key : Type) where
  | start (key : Key) (o : CallOutcome)
  | stop (o : CallOutcome)
  | getService (key : Key) (o : CallOutcome)
  | connect (key : Key) (o : CallOutcome)
  | retire (o : CallOutcome)
  | exits (reaper : Nat)

namespace Supervision

variable [DecidableEq Key]

def ending {α : Type} (m : SupervisionM Key α) (s : Supervision Key) : Supervision Key :=
  (m s ()).1.2

def step (s : Supervision Key) : SupervisionEvent Key → Supervision Key
  | .start key o => ending (startReaper o key) s
  | .stop o => ending (stopReaper o) s
  | .getService key o => ending (getStlService o key) s
  | .connect key o => ending (connectTrex o key) s
  | .retire o => ending (retireService o) s
  | .exits n =>
    if (s.reaper n).closed then s.setReaper n { s.reaper n with running := false } else s

def after (events : List (SupervisionEvent Key)) : Supervision Key := events.foldl step {}

end Supervision

/-! ## The invariant -/

namespace Supervision

/-- Only the attached reaper's worker is alive; until it is closed, it watches the cached
service. -/
structure Consistent (s : Supervision Key) : Prop where
  single : ∀ n, (s.reaper n).running = true → ∃ a, s.attached = some a ∧ a.reaper = n
  numbered : ∀ a, s.attached = some a → a.reaper < s.reapers
  watches : ∀ a, s.attached = some a → (s.reaper a.reaper).service = a.service
  running : ∀ a, s.attached = some a → (s.reaper a.reaper).closed = false →
    (s.reaper a.reaper).running = true ∧ ∃ c, s.cached = some c ∧ c.service = a.service
  separate : s.overlapped = false

def Watched (s : Supervision Key) : Prop :=
  ∃ a, s.attached = some a ∧ (s.reaper a.reaper).closed = false

/-- While supervision is enabled, a cached service has an attached reaper. -/
def Guarded (s : Supervision Key) : Prop :=
  s.enabled = true → s.cached.isSome = true → s.Watched

/-- The attached reaper is closed, and its worker is still alive. -/
def exiting (s : Supervision Key) : Bool :=
  s.attached.any fun a => (s.reaper a.reaper).closed && (s.reaper a.reaper).running

/-- The worker of the attached reaper is joined, and does not exit in time. -/
def timesOut (o : CallOutcome) (s : Supervision Key) : Bool :=
  (s.attached.any fun a => (s.reaper a.reaper).running) && !o.joins

theorem not_watched_of_exiting {s : Supervision Key} (h : s.exiting = true) : ¬ s.Watched := by
  rintro ⟨a, ha, hopen⟩
  simp [exiting, ha, hopen] at h

theorem spec_of_run {α : Type} {m : SupervisionM Key α} {s : Supervision Key}
    (s' : Supervision Key) (r : Except SupervisionError α) {Q : α → Supervision Key → Prop} {E : Supervision Key → Prop}
    (hrun : m s () = ((r, s'), ())) (h : Consistent s → Consistent s' ∧ match r with
      | .ok a => Q a s'
      | .error _ => E s') : Spec Consistent s m Q E := by
  refine ⟨fun hs k => ?_⟩
  rw [hrun]
  cases r with
  | ok a => exact h hs
  | error e => exact h hs

/-! ## The reaper -/

theorem closeReaper_returns {o : CallOutcome} {n : Nat} {s : Supervision Key}
    (h : (s.reaper n).running = true → o.joins = true) :
    closeReaper o n s () = ((.ok (), s.setReaper n { s.reaper n with
      closed := true, running := false }), ()) := by
  unfold closeReaper view modify setReaper
  cases hrunning : (s.reaper n).running with
  | false => simp [Bind.bind, Program.modify, Query.asks, liftM, monadLift, MonadLift.monadLift,
      hrunning, Pure.pure]
  | true => simp [Bind.bind, Program.modify, Query.asks, liftM, monadLift, MonadLift.monadLift,
      hrunning, h hrunning, raiseIf, Pure.pure]

theorem closeReaper_raises {o : CallOutcome} {n : Nat} {s : Supervision Key}
    (hrunning : (s.reaper n).running = true) (hjoins : o.joins = false) :
    closeReaper o n s () = ((.error SupervisionError.closeTimedOut,
      s.setReaper n { s.reaper n with closed := true }), ()) := by
  unfold closeReaper view modify setReaper
  simp [Bind.bind, Program.modify, Query.asks, liftM, monadLift, MonadLift.monadLift,
    hrunning, hjoins, raiseIf, throw, throwThe, MonadExceptOf.throw]

def withReaper (service : Nat) (s : Supervision Key) : Supervision Key :=
  { s.setReaper s.reapers { service := service, running := true } with
    reapers := s.reapers + 1
    attached := some { reaper := s.reapers, service := service } }

theorem newReaper_run (service : Nat) {s : Supervision Key} (hs : Consistent s)
    (hattached : s.attached = none) :
    newReaper service s () = ((.ok (some s.reapers), s.withReaper service), ()) := by
  have halone : ∀ m, (s.reaper m).running = false := by
    intro m
    by_contra hrunning
    obtain ⟨a, ha, -⟩ := hs.single m (by simpa using hrunning)
    rw [hattached] at ha
    cases ha
  unfold newReaper startWorker view modify setReaper withReaper
  simp [Bind.bind, Program.modify, Query.asks, liftM, monadLift, MonadLift.monadLift,
    raiseIf, Pure.pure, setReaper, hs.separate, passes]
  intro m _ hm hrunning
  rw [Function.update_of_ne hm, halone m] at hrunning
  cases hrunning

theorem withReaper_consistent {s : Supervision Key} (hs : Consistent s)
    (hattached : s.attached = none) {c : CachedService Key} (hcached : s.cached = some c) :
    Consistent (s.withReaper c.service) where
  single n hn := by
    by_cases hnew : n = s.reapers
    · exact ⟨_, rfl, hnew.symm⟩
    · have hrunning : (s.reaper n).running = true := by
        simpa [withReaper, setReaper, hnew] using hn
      obtain ⟨a, ha, -⟩ := hs.single n hrunning
      rw [hattached] at ha
      cases ha
  numbered a ha := by
    cases ha
    exact Nat.lt_succ_self _
  watches a ha := by
    cases ha
    simp [withReaper, setReaper]
  running a ha _ := by
    cases ha
    exact ⟨by simp [withReaper, setReaper], c, hcached, rfl⟩
  separate := hs.separate

/-- The state whose reaper `n` is closed, its worker gone, and detached. -/
def withoutReaper (n : Nat) (s : Supervision Key) : Supervision Key :=
  { s.setReaper n { s.reaper n with closed := true, running := false } with attached := none }

theorem withoutReaper_consistent {s : Supervision Key} (hs : Consistent s) {a : AttachedReaper}
    (hattached : s.attached = some a) : Consistent (s.withoutReaper a.reaper) where
  single n hn := by
    by_cases hna : n = a.reaper
    · simp [withoutReaper, setReaper, hna] at hn
    · obtain ⟨b, hb, hbn⟩ := hs.single n (by simpa [withoutReaper, setReaper, hna] using hn)
      rw [hattached] at hb
      cases hb
      exact absurd hbn.symm hna
  numbered _ h := nomatch h
  watches _ h := nomatch h
  running _ h := nomatch h
  separate := hs.separate

/-! ## What the calls guarantee -/

/-- The two states agree on what is supervised. -/
structure Same (s s' : Supervision Key) : Prop where
  enabled : s'.enabled = s.enabled
  cached : s'.cached = s.cached

theorem same_refl (s : Supervision Key) : Same s s := ⟨rfl, rfl⟩

/-- The reaper is detached, or it does not exit in time and stays attached, closed. -/
theorem detachReaper_spec (o : CallOutcome) (s : Supervision Key) :
    Spec Consistent s (detachReaper o)
      (fun _ s' => Same s s' ∧ s'.attached = none ∧ s.timesOut o = false)
      (fun s' => Same s s' ∧ s'.attached.isSome = true ∧ ¬ s'.Watched ∧ s.timesOut o = true) := by
  cases hattached : s.attached with
  | none =>
      refine spec_of_run s (.ok ()) ?_ fun hs => ⟨hs, same_refl s, hattached, ?_⟩
      · simp [detachReaper, view, Bind.bind, Query.asks, liftM, monadLift, MonadLift.monadLift,
          hattached, Pure.pure]
      · simp [timesOut, hattached]
  | some a =>
      by_cases hjoins : (s.reaper a.reaper).running = true → o.joins = true
      · have hrun : detachReaper o s () = ((.ok (), s.withoutReaper a.reaper), ()) := by
          have hclose := closeReaper_returns (o := o) (n := a.reaper) hjoins
          simp [detachReaper, view, Bind.bind, Query.asks, liftM, monadLift, MonadLift.monadLift,
            hattached, hclose, modify, Program.modify, withoutReaper]
        refine spec_of_run _ _ hrun fun hs =>
          ⟨withoutReaper_consistent hs hattached, ⟨rfl, rfl⟩, rfl, ?_⟩
        cases hrunning : (s.reaper a.reaper).running <;> simp_all [timesOut]
      · push Not at hjoins
        obtain ⟨hrunning, hfalse⟩ := hjoins
        have hjoin : o.joins = false := by simpa using hfalse
        have hrun : detachReaper o s () = ((.error SupervisionError.closeTimedOut,
            s.setReaper a.reaper { s.reaper a.reaper with closed := true }), ()) := by
          have hclose := closeReaper_raises (o := o) (n := a.reaper) hrunning hjoin
          simp [detachReaper, view, Bind.bind, Query.asks, liftM, monadLift, MonadLift.monadLift,
            hattached, hclose]
        refine spec_of_run _ _ hrun fun hs => ⟨?_, ⟨rfl, rfl⟩, ?_, ?_, ?_⟩
        · refine ⟨fun n hn => ?_, hs.numbered, fun b hb => ?_, fun b hb hopen => ?_, hs.separate⟩
          · by_cases hna : n = a.reaper
            · exact ⟨a, hattached, hna.symm⟩
            · exact hs.single n (by simpa [setReaper, hna] using hn)
          · have hab : b = a := Option.some.inj (hb.symm.trans hattached)
            subst hab
            simpa [setReaper] using hs.watches b hattached
          · have hab : b = a := Option.some.inj (hb.symm.trans hattached)
            subst hab
            simp [setReaper] at hopen
        · change s.attached.isSome = true
          rw [hattached]
          rfl
        · rintro ⟨b, hb, hopen⟩
          have hab : b = a := Option.some.inj (hb.symm.trans hattached)
          subst hab
          simp [setReaper] at hopen
        · simp [timesOut, hattached, hrunning, hjoin]

/-- A reaper for the cached service runs afterwards, unless the old worker is still exiting. -/
theorem resumeReaper_spec (o : CallOutcome) {s : Supervision Key} {c : CachedService Key}
    (hcached : s.cached = some c) :
    Spec Consistent s (resumeReaper o c.service)
      (fun r s' => Same s s' ∧ (s.enabled = true → s'.Watched ∧ r ≠ none ∧ s.exiting = false))
      (fun s' => s' = s ∧ s.enabled = true ∧ s.exiting = true) := by
  refine Spec.assume fun hs => ?_
  cases henabled : s.enabled with
  | false =>
      refine spec_of_run s (.ok none) ?_ fun hs => ⟨hs, same_refl s, nofun⟩
      simp [resumeReaper, view, Bind.bind, Query.asks, liftM, monadLift, MonadLift.monadLift,
        henabled, Pure.pure]
  | true =>
      cases hattached : s.attached with
      | none =>
          refine spec_of_run (s.withReaper c.service) (.ok (some s.reapers)) ?_
            fun hs => ⟨withReaper_consistent hs hattached hcached, ⟨rfl, rfl⟩, fun _ => ?_⟩
          · have hnew := newReaper_run c.service hs hattached
            simp [resumeReaper, view, Bind.bind, Query.asks, liftM, monadLift,
              MonadLift.monadLift, henabled, hattached, hnew]
          · exact ⟨⟨_, rfl, by simp [withReaper, setReaper]⟩, nofun, by simp [exiting, hattached]⟩
      | some a =>
          cases hclosed : (s.reaper a.reaper).closed with
          | false =>
              obtain ⟨hrunning, c', hc', hservice⟩ := hs.running a hattached hclosed
              have hcc : c' = c := Option.some.inj (hc'.symm.trans hcached)
              subst hcc
              refine spec_of_run s (.ok (some a.reaper)) ?_
                fun hs => ⟨hs, same_refl s, fun _ => ?_⟩
              · simp [resumeReaper, view, Bind.bind, Query.asks, liftM, monadLift,
                  MonadLift.monadLift, henabled, hattached, hclosed, hrunning, hservice, Pure.pure]
              · exact ⟨⟨a, hattached, hclosed⟩, nofun, by simp [exiting, hattached, hclosed]⟩
          | true =>
              cases hrunning : (s.reaper a.reaper).running with
              | true =>
                  refine spec_of_run s (.error SupervisionError.stillExiting) ?_
                    fun hs => ⟨hs, rfl, rfl, by simp [exiting, hattached, hclosed, hrunning]⟩
                  simp [resumeReaper, view, Bind.bind, Query.asks, liftM, monadLift,
                    MonadLift.monadLift, henabled, hattached, hclosed, hrunning, raiseIf,
                    throw, throwThe, MonadExceptOf.throw]
              | false =>
                  have hclose := closeReaper_returns (o := o) (n := a.reaper) (s := s)
                    fun h => absurd h (by simp [hrunning])
                  have hs' := withoutReaper_consistent hs hattached
                  have hnew := newReaper_run c.service hs' rfl
                  refine spec_of_run ((s.withoutReaper a.reaper).withReaper c.service)
                    (.ok (some s.reapers)) ?_
                    fun _ => ⟨withReaper_consistent hs' rfl hcached, ⟨rfl, rfl⟩, fun _ => ?_⟩
                  · simp [resumeReaper, view, Bind.bind, Query.asks, liftM, monadLift,
                      MonadLift.monadLift, henabled, hattached, hclosed, hrunning, raiseIf,
                      Pure.pure, hclose, modify, Program.modify]
                    exact hnew
                  · exact ⟨⟨_, rfl, by simp [withReaper, setReaper]⟩, nofun,
                      by simp [exiting, hattached, hrunning]⟩

variable [DecidableEq Key]

theorem matching_eq_some {key : Key} {s : Supervision Key} {service : Nat}
    (h : matching key s = some service) : ∃ c, s.cached = some c ∧ c.service = service := by
  obtain ⟨c, hc, hservice⟩ := Option.map_eq_some_iff.mp h
  exact ⟨c, (Option.filter_eq_some_iff.mp hc).1, hservice⟩

theorem matching_same {key : Key} {s s' : Supervision Key} (h : Same s s') :
    matching key s' = matching key s := by
  rw [matching, matching, h.cached]

/-- The service is exchanged behind a detached reaper. When it is not, the reaper is detached
too, unless its worker did not exit. -/
theorem exchange_spec (o : CallOutcome) (key : Key) {s : Supervision Key}
    (hother : matching key s = none) :
    Spec Consistent s (exchange o key)
      (fun service s' => s'.enabled = s.enabled ∧ s'.attached = none ∧ s.timesOut o = false
        ∧ ∃ c, s'.cached = some c ∧ c.service = service)
      (fun s' => Same s s' ∧ if s.timesOut o then s'.attached.isSome = true ∧ ¬ s'.Watched
        else s'.attached = none) := by
  refine Spec.call (detachReaper_spec o s) (fun _ s₁ hs₁ h => ?_) fun s₁ hs₁ h => ?_
  · obtain ⟨hsame, hdetached, hjoined⟩ := h
    have hfailed : ∀ s₂ : Supervision Key, Same s₁ s₂ → s₂.attached = none →
        Same s s₂ ∧ if s.timesOut o then s₂.attached.isSome = true ∧ ¬ s₂.Watched
          else s₂.attached = none := by
      intro s₂ hsame₂ hdetached₂
      refine ⟨⟨hsame₂.enabled.trans hsame.enabled, hsame₂.cached.trans hsame.cached⟩, ?_⟩
      rw [hjoined]
      exact hdetached₂
    refine Spec.raiseIf_bind (hfailed s₁ (same_refl s₁) hdetached) fun _ => ?_
    refine Spec.asks_bind (Spec.modify_bind (fun hs => ⟨hs.single, hs.numbered, hs.watches,
      hs.running, hs.separate⟩) (Spec.asks_bind ?_))
    have hnone : matching key { s₁ with services := s₁.services + 1 } = none :=
      (matching_same ⟨hsame.enabled, hsame.cached⟩).trans hother
    rw [hnone]
    refine Spec.asks_bind (Spec.raiseIf_bind (hfailed _ ⟨rfl, rfl⟩ hdetached) fun _ => ?_)
    refine Spec.modify_bind (fun hs => ⟨hs.single, hs.numbered, hs.watches, fun a ha => ?_,
      hs.separate⟩) (Spec.pure ⟨hsame.enabled, hdetached, hjoined, _, rfl, rfl⟩)
    exact absurd (ha.symm.trans hdetached) nofun
  · obtain ⟨hsame, hattached, hclosed, htimesOut⟩ := h
    rw [htimesOut]
    exact ⟨hsame, hattached, hclosed⟩

/-- What a call for the service does not achieve: its worker is still exiting, or does not
exit in time. -/
def unguards (o : CallOutcome) (key : Key) (s : Supervision Key) : Bool :=
  s.enabled && s.cached.isSome && if (matching key s).isSome then s.exiting else s.timesOut o

/-- The state behind a call for the service. -/
structure Served (o : CallOutcome) (key : Key) (s : Supervision Key) (service : Nat)
    (s' : Supervision Key) : Prop where
  enabled : s'.enabled = s.enabled
  cached : ∃ c, s'.cached = some c ∧ c.service = service
  watched : s.enabled = true → s'.Watched
  guards : unguards o key s = false

/-- The state in which a call for the service raises. -/
structure Unserved (o : CallOutcome) (key : Key) (s s' : Supervision Key) : Prop where
  enabled : s'.enabled = s.enabled
  guarded : s'.Guarded ↔ unguards o key s = false

theorem resume_matching (o : CallOutcome) {key : Key} {s : Supervision Key} {service : Nat}
    (hmatching : matching key s = some service) :
    Spec Consistent s (resumeReaper o service >>= fun _ => pure service)
      (Served o key s) (Unserved o key s) := by
  obtain ⟨c, hcached, rfl⟩ := matching_eq_some hmatching
  have hsome : s.cached.isSome = true := by rw [hcached]; rfl
  refine Spec.call (resumeReaper_spec o hcached) (fun r s' hs' h => Spec.pure ?_)
    fun s' hs' h => ?_
  · obtain ⟨hsame, hresumed⟩ := h
    refine ⟨hsame.enabled, ⟨c, hsame.cached.trans hcached, rfl⟩, fun h => (hresumed h).1, ?_⟩
    cases henabled : s.enabled with
    | false => simp [unguards, henabled]
    | true => simp [unguards, hmatching, (hresumed henabled).2.2]
  · obtain ⟨rfl, henabled, hexiting⟩ := h
    refine ⟨rfl, iff_of_false (fun h => ?_) ?_⟩
    · exact not_watched_of_exiting hexiting (h henabled hsome)
    · simp [unguards, henabled, hsome, hmatching, hexiting]

/-- Behind a failed exchange, a detached reaper is replaced by one for the service that is
still cached. -/
theorem recover_spec (o : CallOutcome) (key : Key) {s s₁ : Supervision Key} (e : SupervisionError)
    (hother : matching key s = none) (hsame : Same s s₁)
    (hattached : if s.timesOut o then s₁.attached.isSome = true ∧ ¬ s₁.Watched
      else s₁.attached = none) {Q : Nat → Supervision Key → Prop} :
    Spec Consistent s₁ (do
        let cached ← view fun s => s.cached
        let attached ← view fun s => s.attached
        match cached, attached with
        | some c, none => do
          let _ ← resumeReaper o c.service
          throw e
        | _, _ => throw e : SupervisionM Key Nat) Q (Unserved o key s) := by
  have hloses : unguards o key s = (s.enabled && s.cached.isSome && s.timesOut o) := by
    simp [unguards, hother]
  refine Spec.asks_bind (Spec.asks_bind ?_)
  cases hcached : s₁.cached with
  | none =>
      have hnone : s.cached = none := hsame.cached.symm.trans hcached
      refine Spec.throw ⟨hsame.enabled, iff_of_true (fun _ h => ?_) ?_⟩
      · rw [hcached] at h
        cases h
      · rw [hloses, hnone]
        simp
  | some c =>
      have hsome : s.cached = some c := hsame.cached.symm.trans hcached
      cases htimesOut : s.timesOut o with
      | true =>
          rw [htimesOut] at hattached
          obtain ⟨a, ha⟩ := Option.isSome_iff_exists.mp hattached.1
          rw [ha]
          refine Spec.throw ⟨hsame.enabled, ?_⟩
          rw [hloses, hsome, htimesOut]
          cases henabled : s.enabled with
          | false =>
              exact iff_of_true (fun h => absurd (h.symm.trans (hsame.enabled.trans henabled)) nofun)
                rfl
          | true =>
              refine iff_of_false (fun h => hattached.2 (h (hsame.enabled.trans henabled) ?_)) nofun
              rw [hcached]
              rfl
      | false =>
          rw [htimesOut] at hattached
          have hdetached : s₁.attached = none := hattached
          rw [hdetached]
          refine Spec.call (resumeReaper_spec o hcached) (fun r s' _ h => Spec.throw ?_)
            fun s' _ h => ?_
          · obtain ⟨hsame', hresumed⟩ := h
            refine ⟨hsame'.enabled.trans hsame.enabled, iff_of_true (fun h _ => ?_) ?_⟩
            · exact (hresumed (hsame'.enabled.symm.trans h)).1
            · simp [hloses, htimesOut]
          · have hexiting := h.2.2
            simp [exiting, hdetached] at hexiting

theorem replaceService_spec (o : CallOutcome) (key : Key) (s : Supervision Key) :
    Spec Consistent s (replaceService o key) (Served o key s) (Unserved o key s) := by
  refine Spec.asks_bind ?_
  cases hmatching : matching key s with
  | some service => exact resume_matching o hmatching
  | none =>
      have hloses : unguards o key s = (s.enabled && s.cached.isSome && s.timesOut o) := by
        simp [unguards, hmatching]
      refine Spec.guarded_all (exchange_spec o key hmatching) (fun service s₁ _ h => ?_)
        fun e s₁ _ h => recover_spec o key e hmatching h.1 h.2
      · obtain ⟨henabled, hdetached, htimesOut, c, hcached, rfl⟩ := h
        refine Spec.call (resumeReaper_spec o hcached) (fun r s' _ h => Spec.pure ?_)
          fun s' _ h => ?_
        · obtain ⟨hsame, hresumed⟩ := h
          refine ⟨hsame.enabled.trans henabled, ⟨c, hsame.cached.trans hcached, rfl⟩,
            fun h => (hresumed (henabled.trans h)).1, ?_⟩
          simp [hloses, htimesOut]
        · have hexiting := h.2.2
          simp [exiting, hdetached] at hexiting

theorem getStlService_spec (o : CallOutcome) (key : Key) (s : Supervision Key) :
    Spec Consistent s (getStlService o key) (Served o key s) (Unserved o key s) := by
  refine Spec.asks_bind ?_
  cases hmatching : matching key s with
  | some service => exact resume_matching o hmatching
  | none => exact replaceService_spec o key s

/-! ## Steps -/

/-- The calls that leave the cached service without a reaper that watches it. -/
def loses (s : Supervision Key) : SupervisionEvent Key → Bool
  | .start key o => unguards o key { s with enabled := true }
  | .getService key o => unguards o key s
  | .connect _ o =>
    !o.refuses && o.disconnects && s.enabled && s.cached.isSome && s.timesOut o
  | .retire o => s.enabled && s.cached.isSome && s.timesOut o
  | .stop _ | .exits _ => false

omit [DecidableEq Key] in
theorem ending_spec {α : Type} {m : SupervisionM Key α} {s : Supervision Key}
    {P : Supervision Key → Prop} (hs : Consistent s) (h : Spec Consistent s m (fun _ => P) P) :
    Consistent (ending m s) ∧ P (ending m s) := by
  have hrun := h.run hs ()
  unfold ending
  rcases hm : m s () with ⟨⟨r, s'⟩, k⟩
  rw [hm] at hrun
  cases r with
  | ok a => exact hrun
  | error e => exact hrun

omit [DecidableEq Key] in
theorem retireService_spec (o : CallOutcome) (s : Supervision Key) :
    Spec Consistent s (retireService o)
      (fun _ s' => s'.cached = none ∧ s.timesOut o = false)
      (fun s' => s'.Guarded ↔ (s.enabled && s.cached.isSome && s.timesOut o) = false) := by
  refine Spec.call (detachReaper_spec o s) (fun _ s₁ _ h => ?_) fun s₁ _ h => ?_
  · obtain ⟨hsame, hdetached, htimesOut⟩ := h
    refine Spec.modify (fun hs => ⟨hs.single, hs.numbered, hs.watches, fun a ha => ?_,
      hs.separate⟩) ⟨rfl, htimesOut⟩
    exact absurd (ha.symm.trans hdetached) nofun
  · obtain ⟨hsame, _, hunwatched, htimesOut⟩ := h
    rw [htimesOut, Bool.and_true, Guarded, hsame.enabled, hsame.cached]
    cases s.enabled <;> cases s.cached.isSome <;> simp [hunwatched]

theorem served_guarded {o : CallOutcome} {key : Key} {s s' : Supervision Key} {service : Nat}
    (h : Served o key s service s') : s'.Guarded ↔ unguards o key s = false :=
  iff_of_true (fun henabled _ => h.watched (h.enabled.symm.trans henabled)) h.guards

theorem startReaper_spec (o : CallOutcome) (key : Key) (s : Supervision Key) :
    Spec Consistent s (startReaper o key)
      (fun _ s' => s'.Guarded ↔ unguards o key { s with enabled := true } = false)
      (fun s' => s'.Guarded ↔ unguards o key { s with enabled := true } = false) := by
  refine Spec.modify_bind (fun hs => ⟨hs.single, hs.numbered, hs.watches, hs.running,
    hs.separate⟩) ?_
  refine Spec.call (getStlService_spec o key _) (fun service s₁ _ h => ?_) fun s₁ _ h => h.guarded
  obtain ⟨c, hcached, rfl⟩ := h.cached
  have henabled : s₁.enabled = true := h.enabled
  refine Spec.call (resumeReaper_spec o hcached) (fun r s₂ _ h₂ => ?_) fun s₂ _ h₂ => ?_
  · obtain ⟨hsame, hresumed⟩ := h₂
    have hwatched := (hresumed henabled).1
    exact Spec.raiseIf (fun hnone => absurd hnone (hresumed henabled).2.1)
      fun _ => iff_of_true (fun _ _ => hwatched) h.guards
  · exact absurd (h.watched rfl) (not_watched_of_exiting h₂.2.2)

theorem connectTrex_spec (o : CallOutcome) (key : Key) (s : Supervision Key) :
    Spec Consistent s (connectTrex o key)
      (fun _ s' => s.Guarded → (s'.Guarded ↔ loses s (.connect key o) = false))
      (fun s' => s.Guarded → (s'.Guarded ↔ loses s (.connect key o) = false)) := by
  refine Spec.ite (fun hrefused => Spec.pure fun hs => iff_of_true hs ?_) fun haccepted => ?_
  · rcases hrefused with h | h <;> simp [loses, h]
  · rw [not_or, Bool.not_eq_true, Bool.not_eq_false] at haccepted
    have hloses : loses s (.connect key o) = (s.enabled && s.cached.isSome && s.timesOut o) := by
      simp [loses, haccepted.1, haccepted.2]
    rw [hloses]
    refine Spec.call (retireService_spec o s) (fun _ s₁ _ h => ?_) fun _ _ h _ => h
    obtain ⟨hnone, htimesOut⟩ := h
    rw [htimesOut, Bool.and_false]
    have hguards : unguards o key s₁ = false := by simp [unguards, hnone]
    refine Spec.raiseIf_bind (fun _ => iff_of_true (fun _ h => ?_) rfl) fun _ => ?_
    · rw [hnone] at h
      cases h
    · refine Spec.call (getStlService_spec o key s₁) (fun service s₂ _ h => Spec.pure ?_)
        fun s₂ _ h => ?_
      · exact fun _ => iff_of_true ((served_guarded h).mpr hguards) rfl
      · exact fun _ => iff_of_true (h.guarded.mpr hguards) rfl

omit [DecidableEq Key] in
theorem exit_consistent {s : Supervision Key} (hs : Consistent s) {n : Nat}
    (hclosed : (s.reaper n).closed = true) :
    Consistent (s.setReaper n { s.reaper n with running := false }) where
  single m hm := by
    by_cases hmn : m = n
    · simp [setReaper, hmn] at hm
    · exact hs.single m (by simpa [setReaper, hmn] using hm)
  numbered := hs.numbered
  watches a ha := by
    by_cases han : a.reaper = n
    · have hwatches := hs.watches a ha
      rw [han] at hwatches
      simpa [setReaper, han] using hwatches
    · simpa [setReaper, han] using hs.watches a ha
  running a ha hopen := by
    by_cases han : a.reaper = n
    · simp [setReaper, han, hclosed] at hopen
    · have hrunning := hs.running a ha (by simpa [setReaper, han] using hopen)
      simpa [setReaper, han] using hrunning
  separate := hs.separate

omit [DecidableEq Key] in
theorem exit_watched {s : Supervision Key} {n : Nat} :
    (s.setReaper n { s.reaper n with running := false }).Watched ↔ s.Watched := by
  have hclosed : ∀ m, ((s.setReaper n { s.reaper n with running := false }).reaper m).closed
      = (s.reaper m).closed := by
    intro m
    by_cases hmn : m = n <;> simp [setReaper, hmn]
  exact exists_congr fun a => by rw [hclosed]; rfl

theorem step_spec {s : Supervision Key} (hs : Consistent s) (e : SupervisionEvent Key) :
    Consistent (step s e) ∧ (s.Guarded → ((step s e).Guarded ↔ loses s e = false)) := by
  cases e with
  | start key o =>
      refine ending_spec hs ((startReaper_spec o key s).mono (fun _ _ _ h _ => h) fun _ _ h _ => h)
  | stop o =>
      have hstop : Spec Consistent s (stopReaper o) (fun _ s' => s'.enabled = false)
          (fun s' => s'.enabled = false) := by
        refine Spec.modify_bind (fun hs => ⟨hs.single, hs.numbered, hs.watches, hs.running,
          hs.separate⟩) ((detachReaper_spec o _).mono (fun _ _ _ h => h.1.enabled)
            fun _ _ h => h.1.enabled)
      obtain ⟨hconsistent, hdisabled⟩ := ending_spec hs hstop
      refine ⟨hconsistent, fun _ => iff_of_true (fun h => ?_) rfl⟩
      exact absurd (h.symm.trans hdisabled) nofun
  | getService key o =>
      refine ending_spec hs ((getStlService_spec o key s).mono (fun _ _ _ h _ => served_guarded h)
        fun _ _ h _ => h.guarded)
  | connect key o => exact ending_spec hs (connectTrex_spec o key s)
  | retire o =>
      refine ending_spec hs ((retireService_spec o s).mono (fun _ s' _ h _ => ?_) fun _ _ h _ => h)
      obtain ⟨hnone, htimesOut⟩ := h
      refine iff_of_true (fun _ hsome => ?_) (by simp [htimesOut])
      rw [hnone] at hsome
      cases hsome
  | exits n =>
      have hstep : step s (.exits n) = if (s.reaper n).closed then
          s.setReaper n { s.reaper n with running := false } else s := rfl
      rw [hstep]
      by_cases hclosed : (s.reaper n).closed = true
      · rw [if_pos hclosed]
        exact ⟨exit_consistent hs hclosed, fun hguarded =>
          iff_of_true (fun henabled hsome => exit_watched.mpr (hguarded henabled hsome)) rfl⟩
      · rw [if_neg hclosed]
        exact ⟨hs, fun hguarded => iff_of_true hguarded rfl⟩

/-! ## Runs -/

/-- While supervision is enabled, a cached service has a reaper that is attached, not closed
and running, and that watches this service. -/
def Supervised (s : Supervision Key) : Prop :=
  s.enabled = true → ∀ c, s.cached = some c → ∃ a, s.attached = some a
    ∧ (s.reaper a.reaper).closed = false ∧ (s.reaper a.reaper).running = true
    ∧ (s.reaper a.reaper).service = c.service

/-- At most one worker begins new passes, now and whenever a worker started before. -/
def OnePasses (s : Supervision Key) : Prop :=
  s.overlapped = false ∧ ∀ n m, s.passes n = true → s.passes m = true → n = m

omit [DecidableEq Key] in
theorem supervised_iff_guarded {s : Supervision Key} (hs : Consistent s) :
    s.Supervised ↔ s.Guarded := by
  constructor
  · intro h henabled hsome
    obtain ⟨c, hc⟩ := Option.isSome_iff_exists.mp hsome
    obtain ⟨a, ha, hopen, -⟩ := h henabled c hc
    exact ⟨a, ha, hopen⟩
  · intro h henabled c hc
    obtain ⟨a, ha, hopen⟩ := h henabled (by rw [hc]; rfl)
    obtain ⟨hrunning, c', hc', hservice⟩ := hs.running a ha hopen
    have hcc : c' = c := Option.some.inj (hc'.symm.trans hc)
    subst hcc
    exact ⟨a, ha, hopen, hrunning, (hs.watches a ha).trans hservice.symm⟩

omit [DecidableEq Key] in
theorem onePasses_of_consistent {s : Supervision Key} (hs : Consistent s) : s.OnePasses := by
  refine ⟨hs.separate, fun n m hn hm => ?_⟩
  obtain ⟨a, ha, rfl⟩ := hs.single n (Bool.and_eq_true_iff.mp hn).1
  obtain ⟨b, hb, rfl⟩ := hs.single m (Bool.and_eq_true_iff.mp hm).1
  rw [Option.some.inj (ha.symm.trans hb)]

theorem after_append (events : List (SupervisionEvent Key)) (e : SupervisionEvent Key) :
    after (events ++ [e]) = step (after events) e := List.foldl_concat step {} e events

theorem initial_consistent : Consistent (after [] : Supervision Key) where
  single _ h := nomatch h
  numbered _ h := nomatch h
  watches _ h := nomatch h
  running _ h := nomatch h
  separate := rfl

theorem after_consistent (events : List (SupervisionEvent Key)) : Consistent (after events) := by
  induction events using List.reverseRecOn with
  | nil => exact initial_consistent
  | append_singleton events e ih =>
      rw [after_append]
      exact (step_spec ih e).1

theorem after_guarded (events : List (SupervisionEvent Key))
    (h : ∀ done e rest, events = done ++ e :: rest → loses (after done) e = false) :
    (after events).Guarded := by
  induction events using List.reverseRecOn with
  | nil => exact nofun
  | append_singleton events e ih =>
      have hguarded := ih fun done e' rest hsplit =>
        h done e' (rest ++ [e]) (by rw [hsplit, List.append_assoc, List.cons_append])
      rw [after_append]
      exact ((step_spec (after_consistent events) e).2 hguarded).mpr (h events e [] rfl)

end Supervision

open Supervision in
/-- In every state of a run the service is supervised and at most one worker begins passes,
exactly when no call of the run loses the supervision. -/
theorem supervised_iff {Key : Type} [DecidableEq Key] (events : List (SupervisionEvent Key)) :
    (∀ done rest, events = done ++ rest →
        (after done).Supervised ∧ (after done).OnePasses)
      ↔ ∀ done e rest, events = done ++ e :: rest → loses (after done) e = false := by
  constructor
  · intro h done e rest hsplit
    have hguarded := (supervised_iff_guarded (after_consistent done)).mp (h done _ hsplit).1
    refine ((step_spec (after_consistent done) e).2 hguarded).mp ?_
    rw [← after_append]
    refine (supervised_iff_guarded (after_consistent _)).mp (h (done ++ [e]) rest ?_).1
    rw [hsplit, List.append_assoc, List.singleton_append]
  · intro h done rest hsplit
    refine ⟨(supervised_iff_guarded (after_consistent done)).mpr (after_guarded done ?_),
      onePasses_of_consistent (after_consistent done)⟩
    intro done' e rest' hdone
    exact h done' e (rest' ++ rest) (by rw [hsplit, hdone, List.append_assoc, List.cons_append])

open Supervision in
/-- The worker is inside a pass when `connect_trex` joins it: it waits for the fence that the
request holds, and the service stays cached with a closed reaper. -/
theorem connect_loses_supervision : ¬ ∀ (events : List (SupervisionEvent Nat)) done rest,
    events = done ++ rest → (after done).Supervised ∧ (after done).OnePasses := by
  intro h
  let lost : Supervision Nat := after [.start 0 {}, .connect 1 { joins := false }]
  have hsupervised : lost.Supervised := (h _ _ [] (List.append_nil _).symm).1
  have hcached : lost.cached = some { service := 0, key := 0 } := by decide
  have hattached : lost.attached = some { reaper := 0, service := 0 } := by decide
  obtain ⟨a, ha, hopen, -⟩ := hsupervised (by decide) _ hcached
  have hclosed : (lost.reaper 0).closed = true := by decide
  rw [← Option.some.inj (hattached.symm.trans ha), hclosed] at hopen
  cases hopen

end TrexWebui
