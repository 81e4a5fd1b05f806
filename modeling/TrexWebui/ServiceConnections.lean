import Mathlib.Data.List.Induction
import Mathlib.Logic.Function.Basic

/-!
# The clients of the services

Which service objects have a connected client. A request keeps the service that it obtained
when it began, while other requests retire the cached service and put another one in its
place; what tells a retired service from the cached one is the persisted connection target
alone (`assert_persisted_connection_target`).

An event is what a request does inside the mutation fence at one time: it obtains its
service, uses the client of the service it holds, disconnects the cached service, or
connects to a target. What is free to fail is given with the event.
-/

namespace TrexWebui

/-! ## State -/

/-- The environment of a service: the fields that `assert_persisted_connection_target`
compares, and the others that `_environment_key` has. -/
structure ServiceEnvironment (Endpoint Rest : Type) where
  endpoint : Endpoint
  rest : Rest
  deriving DecidableEq

/-- The services by their numbers, the cached one, the persisted connection target, and the
services that the requests hold. `staleUse` is set when an operation runs on the client of a
service that is not cached. -/
structure Connections (Endpoint Rest : Type) where
  services : Nat := 0
  environment : Nat → Option (ServiceEnvironment Endpoint Rest) := fun _ => none
  connected : Nat → Bool := fun _ => false
  cached : Option Nat := none
  target : Option Endpoint := none
  holds : Nat → Option Nat := fun _ => none
  staleUse : Bool := false

/-- How the steps of an event go. -/
structure ConnectionOutcome where
  /-- No hard-stop lease defers the call. -/
  admitted : Bool := true
  /-- The service has a client, or makes one and connects it. -/
  connects : Bool := true
  /-- The managed captures are reconciled with the new client. -/
  reconciles : Bool := true
  /-- The captures are cleaned up, and the client is disconnected. -/
  disconnects : Bool := true
  /-- The worker of the reaper exits within the time limit. -/
  joins : Bool := true
  constructs : Bool := true
  refuses : Bool := false
  persists : Bool := true

namespace Connections

variable {Endpoint Rest : Type} [DecidableEq Endpoint] [DecidableEq Rest]

/-! ## Operations -/

omit [DecidableEq Rest] in
/-- `assert_persisted_connection_target` does not raise for the service. -/
def admits (s : Connections Endpoint Rest) (service : Nat) : Bool :=
  s.target.all fun target => (s.environment service).any fun env => target = env.endpoint

omit [DecidableEq Endpoint] [DecidableEq Rest] in
def setConnected (service : Nat) (value : Bool) (s : Connections Endpoint Rest) :
    Connections Endpoint Rest :=
  { s with connected := Function.update s.connected service value }

omit [DecidableEq Rest] in
def withClient (o : ConnectionOutcome) (service : Nat) (s : Connections Endpoint Rest) :
    Connections Endpoint Rest :=
  if o.admitted && s.admits service && o.connects then
    { s.setConnected service true with
      staleUse := s.staleUse || (o.reconciles && decide (s.cached ≠ some service)) }
  else s

omit [DecidableEq Rest] in
/-- `RealStlClientService.disconnect`: its result, and whether the client is gone. A cleanup
that fails leaves the client, also one that was made for it. -/
def disconnect (o : ConnectionOutcome) (service : Nat) (s : Connections Endpoint Rest) :
    Bool × Connections Endpoint Rest :=
  if o.admitted && s.admits service then
    if o.disconnects then (true, s.setConnected service false)
    else (false, s.setConnected service (s.connected service || o.connects))
  else (false, s)

omit [DecidableEq Rest] in
/-- `_disconnect_stl_service`, and the closing of the cached service by `_replace_service`. -/
def disconnectCached (o : ConnectionOutcome) (s : Connections Endpoint Rest) :
    Bool × Connections Endpoint Rest :=
  match s.cached with
  | none => (true, s)
  | some service => s.disconnect o service

/-- `_replace_service`: the service of the environment takes the place of the cached one. -/
def replaceService (o : ConnectionOutcome) (env : ServiceEnvironment Endpoint Rest)
    (s : Connections Endpoint Rest) : Option Nat × Connections Endpoint Rest :=
  if o.joins && o.constructs then
    match s.disconnectCached o with
    | (false, s) => (none, s)
    | (true, s) => (some s.services, { s with
        services := s.services + 1
        environment := Function.update s.environment s.services (some env)
        cached := some s.services })
  else (none, s)

/-- `get_stl_service`, in the environment; `none` when it raises. -/
def getStlService (o : ConnectionOutcome) (env : ServiceEnvironment Endpoint Rest)
    (s : Connections Endpoint Rest) : Option Nat × Connections Endpoint Rest :=
  match s.cached.filter fun service => s.environment service = some env with
  | some service => (some service, s)
  | none => s.replaceService o env

/-- `connect_trex`: the cached service is disconnected and retired, the target is published,
and the overview uses the service of the new environment. -/
def connectTrex (o : ConnectionOutcome) (env : ServiceEnvironment Endpoint Rest)
    (s : Connections Endpoint Rest) : Connections Endpoint Rest :=
  if o.refuses then s
  else
    match s.disconnectCached o with
    | (false, s) => s
    | (true, s) =>
      if o.joins = false then s
      else if o.persists = false then { s with cached := none }
      else
        match getStlService o env { s with cached := none, target := some env.endpoint } with
        | (none, s) => s
        | (some service, s) => s.withClient o service

end Connections

inductive ConnectionEvent (Endpoint Rest : Type) where
  /-- A request begins, and keeps the service that it obtains. -/
  | begin (request : Nat) (env : ServiceEnvironment Endpoint Rest) (o : ConnectionOutcome)
  /-- A request uses the client of the service it holds. -/
  | operate (request : Nat) (o : ConnectionOutcome)
  | disconnect (o : ConnectionOutcome)
  | connect (env : ServiceEnvironment Endpoint Rest) (o : ConnectionOutcome)

namespace Connections

variable {Endpoint Rest : Type} [DecidableEq Endpoint] [DecidableEq Rest]

def step (s : Connections Endpoint Rest) : ConnectionEvent Endpoint Rest → Connections Endpoint Rest
  | .begin request env o =>
    let (service, s) := s.getStlService o env
    { s with holds := Function.update s.holds request service }
  | .operate request o =>
    match s.holds request with
    | none => s
    | some service => s.withClient o service
  | .disconnect o => (s.disconnectCached o).2
  | .connect env o => s.connectTrex o env

/-- The state behind some events, from one in which there is no service yet. -/
def after (target : Option Endpoint) (events : List (ConnectionEvent Endpoint Rest)) :
    Connections Endpoint Rest :=
  events.foldl step { target := target }

/-! ## One connected client -/

/-- Only the cached service has a connected client, and no operation ran on another one. -/
structure OneConnected (s : Connections Endpoint Rest) : Prop where
  cached : ∀ n, s.connected n = true → s.cached = some n
  unused : s.staleUse = false

/-- The invariant: `OneConnected`, and the cached service exists. -/
structure Sole (s : Connections Endpoint Rest) : Prop extends OneConnected s where
  exists_cached : ∀ n, s.cached = some n → n < s.services

omit [DecidableEq Endpoint] [DecidableEq Rest] in
theorem setConnected_sole {s : Connections Endpoint Rest} (hs : s.Sole) {service : Nat}
    (value : Bool) (hcached : s.cached = some service) : (s.setConnected service value).Sole where
  cached n hn := by
    by_cases hne : n = service
    · rw [hne]
      exact hcached
    · exact hs.cached n (by simpa [setConnected, hne] using hn)
  unused := hs.unused
  exists_cached := hs.exists_cached

omit [DecidableEq Rest] in
theorem withClient_sole {s : Connections Endpoint Rest} (hs : s.Sole) (o : ConnectionOutcome)
    {service : Nat} (hcached : s.cached = some service) : (s.withClient o service).Sole := by
  unfold withClient
  split
  · have hset := setConnected_sole hs true hcached
    exact ⟨⟨hset.cached, by simp [hs.unused, hcached]⟩, hset.exists_cached⟩
  · exact hs

/-- Behind a disconnection that succeeds no service has a client. -/
structure Disconnected (s s' : Connections Endpoint Rest) : Prop where
  none : ∀ n, s'.connected n = false
  unused : s'.staleUse = false
  services : s'.services = s.services

omit [DecidableEq Rest] in
theorem disconnectCached_sole {s : Connections Endpoint Rest} (hs : s.Sole)
    (o : ConnectionOutcome) : (s.disconnectCached o).2.Sole
      ∧ ((s.disconnectCached o).1 = true → Disconnected s (s.disconnectCached o).2) := by
  cases hcached : s.cached with
  | none =>
      simp only [disconnectCached, hcached]
      refine ⟨hs, fun _ => ⟨fun n => ?_, hs.unused, rfl⟩⟩
      by_contra hn
      have h := hs.cached n (by simpa using hn)
      rw [hcached] at h
      cases h
  | some service =>
      simp only [disconnectCached, hcached, disconnect]
      by_cases hadmitted : (o.admitted && s.admits service) = true
      · rw [if_pos hadmitted]
        by_cases hdisconnects : o.disconnects = true
        · rw [if_pos hdisconnects]
          refine ⟨setConnected_sole hs false hcached, fun _ => ⟨fun n => ?_, hs.unused, rfl⟩⟩
          by_cases hne : n = service
          · simp [setConnected, hne]
          · by_contra hn
            have h := hs.cached n (by simpa [setConnected, hne] using hn)
            rw [hcached] at h
            exact hne (Option.some.inj h).symm
        · rw [if_neg hdisconnects]
          exact ⟨setConnected_sole hs _ hcached, nofun⟩
      · rw [if_neg hadmitted]
        exact ⟨hs, nofun⟩

omit [DecidableEq Rest] in
theorem replaceService_sole {s : Connections Endpoint Rest} (hs : s.Sole) (o : ConnectionOutcome)
    (env : ServiceEnvironment Endpoint Rest) : (s.replaceService o env).2.Sole
      ∧ ∀ n, (s.replaceService o env).1 = some n → (s.replaceService o env).2.cached = some n := by
  unfold replaceService
  split
  · obtain ⟨hsole, hdisconnected⟩ := disconnectCached_sole hs o
    rcases hrun : s.disconnectCached o with ⟨_ | _, s'⟩
    · rw [hrun] at hsole
      exact ⟨hsole, nofun⟩
    · rw [hrun] at hdisconnected
      have hnone := hdisconnected rfl
      refine ⟨⟨⟨fun n hn => ?_, hnone.unused⟩, fun n hn => ?_⟩, fun n hn => hn⟩
      · exact absurd (hn.symm.trans (hnone.none n)) nofun
      · rw [← Option.some.inj hn]
        exact Nat.lt_succ_self _
  · exact ⟨hs, nofun⟩

theorem getStlService_sole {s : Connections Endpoint Rest} (hs : s.Sole) (o : ConnectionOutcome)
    (env : ServiceEnvironment Endpoint Rest) : (s.getStlService o env).2.Sole
      ∧ ∀ n, (s.getStlService o env).1 = some n → (s.getStlService o env).2.cached = some n := by
  unfold getStlService
  split
  · rename_i service hmatching
    refine ⟨hs, fun n hn => ?_⟩
    rw [← Option.some.inj hn]
    exact (Option.filter_eq_some_iff.mp hmatching).1
  · exact replaceService_sole hs o env

theorem connectTrex_sole {s : Connections Endpoint Rest} (hs : s.Sole) (o : ConnectionOutcome)
    (env : ServiceEnvironment Endpoint Rest) : (s.connectTrex o env).Sole := by
  unfold connectTrex
  by_cases hrefuses : o.refuses = true
  · rw [if_pos hrefuses]
    exact hs
  · rw [if_neg hrefuses]
    obtain ⟨hsole, hdisconnected⟩ := disconnectCached_sole hs o
    rcases hrun : s.disconnectCached o with ⟨_ | _, s'⟩
    · rw [hrun] at hsole
      exact hsole
    · rw [hrun] at hsole hdisconnected
      have hnone := hdisconnected rfl
      have hretired : ∀ target, Sole { s' with cached := none, target := target } := fun target =>
        ⟨⟨fun n hn => absurd (hn.symm.trans (hnone.none n)) nofun, hnone.unused⟩, nofun⟩
      simp only
      by_cases hjoins : o.joins = false
      · rw [if_pos hjoins]
        exact hsole
      · rw [if_neg hjoins]
        by_cases hpersists : o.persists = false
        · rw [if_pos hpersists]
          exact hretired _
        · rw [if_neg hpersists]
          obtain ⟨hfresh, hservice⟩ := getStlService_sole (hretired (some env.endpoint)) o env
          rcases hget : getStlService o env { s' with cached := none, target := some env.endpoint }
            with ⟨_ | service, s''⟩
          · rw [hget] at hfresh
            exact hfresh
          · rw [hget] at hfresh hservice
            exact withClient_sole hfresh o (hservice service rfl)

/-! ## Requests that keep a retired service -/

/-- The request uses the client of a service that is not cached any more, and the persisted
target does not tell it from the cached one. -/
def revives (s : Connections Endpoint Rest) : ConnectionEvent Endpoint Rest → Bool
  | .operate request o =>
    (s.holds request).any fun service =>
      decide (s.cached ≠ some service) && s.admits service && o.admitted && o.connects
  | _ => false

theorem step_sole {s : Connections Endpoint Rest} (hs : s.Sole)
    (e : ConnectionEvent Endpoint Rest) :
    if s.revives e then ¬ (s.step e).OneConnected else (s.step e).Sole := by
  cases e with
  | begin request env o =>
      have hget := (getStlService_sole hs o env).1
      exact ⟨⟨hget.cached, hget.unused⟩, hget.exists_cached⟩
  | disconnect o => exact (disconnectCached_sole hs o).1
  | connect env o => exact connectTrex_sole hs o env
  | operate request o =>
      rcases hholds : s.holds request with _ | service
      · simpa [revives, step, hholds] using hs
      · simp only [revives, step, hholds]
        by_cases hcached : s.cached = some service
        · simpa [hcached] using withClient_sole hs o hcached
        · unfold withClient
          by_cases hadmits : (o.admitted && s.admits service && o.connects) = true
          · rw [if_pos hadmits]
            simp only [Bool.and_eq_true] at hadmits
            simp only [Option.any_some, hcached, hadmits, ne_eq, not_false_eq_true, decide_true,
              Bool.and_self, if_true]
            intro h
            exact hcached (h.cached service (by simp [setConnected]))
          · rw [if_neg hadmits]
            have hkept : (decide (s.cached ≠ some service) && s.admits service && o.admitted
                && o.connects) = false := by
              by_contra h
              simp only [Bool.not_eq_false, Bool.and_eq_true] at h
              exact hadmits (by simp [h])
            rw [Option.any_some, hkept]
            exact hs

theorem after_concat (target : Option Endpoint) (events : List (ConnectionEvent Endpoint Rest))
    (e : ConnectionEvent Endpoint Rest) :
    after target (events ++ [e]) = (after target events).step e := by
  rw [after, List.foldl_append]
  rfl

theorem after_sole (target : Option Endpoint) (events : List (ConnectionEvent Endpoint Rest))
    (h : ∀ done e rest, events = done ++ e :: rest → (after target done).revives e = false) :
    (after target events).Sole := by
  induction events using List.reverseRecOn with
  | nil => exact ⟨⟨nofun, rfl⟩, nofun⟩
  | append_singleton events e ih =>
      have hsole := ih fun done e' rest hsplit =>
        h done e' (rest ++ [e]) (by rw [hsplit, List.append_assoc, List.cons_append])
      have hstep := step_sole hsole e
      rw [h events e [] rfl] at hstep
      rw [after_concat]
      exact hstep

/-- A run whose states all have one connected client keeps the invariant. -/
theorem sole_of_oneConnected (target : Option Endpoint)
    (events : List (ConnectionEvent Endpoint Rest))
    (h : ∀ done rest, events = done ++ rest → (after target done).OneConnected) :
    (after target events).Sole := by
  induction events using List.reverseRecOn with
  | nil => exact ⟨⟨nofun, rfl⟩, nofun⟩
  | append_singleton events e ih =>
      have hsole := ih fun done rest hsplit =>
        h done (rest ++ [e]) (by rw [hsplit, List.append_assoc])
      have hstep := step_sole hsole e
      have hone := h (events ++ [e]) [] (List.append_nil _).symm
      rw [after_concat] at hone ⊢
      cases hrevives : (after target events).revives e with
      | false =>
          rw [hrevives] at hstep
          exact hstep
      | true =>
          rw [hrevives] at hstep
          exact absurd hone hstep

end Connections

end TrexWebui
