import TrexWebui.LockPrograms

/-!
# The locks of the service

The lock programs of the requests of the API and of the hard-stop worker, one for each
function of `dependencies.py`, `stl_client.py`, `traffic_runtime.py`, `runtime.py` and
`main.py` that takes one of the seven re-entrant locks or calls one that does. A service
object has a client lock of its own, and a traffic authority with a lock; so these two
locks, and the programs that take them, carry the number of the service.

Two of the orders in which locks are taken contradict the others: `connect_trex` enters the
mutation fence before it asks for the replacement lock, and `daemon_trex_start` takes the
daemon lock before the other two while `daemon_trex_stop` takes it behind them. Requests
that are `Compatible` never shut each other out; requests that are not, can
(`lockCycleFree_iff`).
-/

namespace TrexWebui

open LockPrograms LockPrograms.LockProgram

/-! ## Locks and functions -/

inductive ServiceLock where
  /-- `_RUNTIME_MUTATION_FENCE` -/
  | fence
  /-- `_service_replacement_lock` -/
  | replacement
  /-- `_service_lock` -/
  | service
  /-- `_reaper_lifecycle_lock` -/
  | lifecycle
  /-- `_DAEMON_MUTATION_LOCK` -/
  | daemonMutation
  /-- `_client_lock` of a service -/
  | client (service : Nat)
  /-- `_lock` of the traffic authority of a service -/
  | authority (service : Nat)
  deriving DecidableEq

abbrev ServiceProgram : Type := LockProgram ServiceLock

namespace ServiceLock

/-- A `with` block in which no other lock is taken. -/
def short (l : ServiceLock) : ServiceProgram := .locked l .skip

def perhaps (p : ServiceProgram) : ServiceProgram := .choice .skip p

def withClient (service : Nat) : ServiceProgram :=
  perhaps (.locked .fence (perhaps (short (.client service))))

def disconnect (service : Nat) : ServiceProgram :=
  perhaps (.locked .fence (perhaps (short (.client service))))

/-- `_detach_reaper_for_service_change`. The worker is joined between the two blocks. -/
def detachReaper : ServiceProgram := .seq (short .lifecycle) (short .lifecycle)

/-- `_resume_reaper_for_service`. -/
def resumeReaper : ServiceProgram := short .lifecycle

/-- `_replace_service`, where `previous` is cached, if anything is. -/
def replaceService (previous : Nat) : ServiceProgram :=
  .locked .replacement (.choice (.locked .service resumeReaper)
    (.seq (short .service)
      (.seq (.attempt
          (.seq detachReaper
            (.locked .fence (.locked .service (perhaps (disconnect previous)))))
          (.seq (short .service) (.seq (short .lifecycle) (.seq (perhaps resumeReaper) .fail))))
        resumeReaper)))

def getStlService (previous : Nat) : ServiceProgram :=
  .locked .replacement (.seq (short .service) (.choice resumeReaper (replaceService previous)))

/-- `start_traffic_hard_stop_reaper`. -/
def startReaper (previous : Nat) : ServiceProgram :=
  .locked .replacement (.seq (short .lifecycle) (.seq (getStlService previous) resumeReaper))

/-- `stop_traffic_hard_stop_reaper`. -/
def stopReaper : ServiceProgram :=
  .locked .replacement (.seq (short .lifecycle) detachReaper)

/-- `_disconnect_stl_service`, where `cached` is cached, if anything is. -/
def disconnectStlService (cached : Nat) : ServiceProgram :=
  .locked .replacement (.seq (short .service)
    (perhaps (.locked .fence (.locked .service (perhaps (disconnect cached))))))

def retireDisconnectedStlService : ServiceProgram :=
  .locked .replacement (.seq detachReaper (.locked .fence (short .service)))

/-- `connect_trex`: the fence is held from the checks on to the overview. -/
def connectTrex (cached fresh : Nat) : ServiceProgram :=
  .locked .fence (perhaps (.seq (disconnectStlService cached)
    (perhaps (.seq retireDisconnectedStlService
      (.seq (getStlService cached) (withClient fresh))))))

/-- `daemon_trex_start`, whose `lifecycle_disconnect` is `disconnect_stl_service`. -/
def daemonTrexStart (cached : Nat) : ServiceProgram :=
  .locked .daemonMutation (perhaps (disconnectStlService cached))

/-- `retire_traffic_after_trex_termination`. -/
def retireTraffic (cached service : Nat) : ServiceProgram :=
  .seq (getStlService cached)
    (.locked .fence (.locked .fence (short (.authority service))))

/-- `daemon_trex_stop`: both locks of `trex_termination_transaction` are held throughout. -/
def daemonTrexStop (cached service : Nat) : ServiceProgram :=
  .locked .replacement (.locked .fence
    (.seq (.locked .daemonMutation (perhaps (disconnectStlService cached)))
      (perhaps (retireTraffic cached service))))

/-- An operation of the traffic authority, which uses the client any number of times. -/
def trafficOperation (service : Nat) : ServiceProgram :=
  .locked .fence (.locked (.authority service) (.loop (withClient service)))

/-- The worker of the hard-stop reaper: one traffic operation in each pass; an exception
ends a pass only. -/
def reaperWorker (service : Nat) : ServiceProgram :=
  .loop (.attempt (trafficOperation service) .skip)

end ServiceLock

/-! ## Requests -/

/-- What a thread runs, with the services that are cached and used then. -/
inductive ServiceRequest where
  | connect (cached fresh : Nat)
  | disconnect (cached : Nat)
  | daemonStart (cached : Nat)
  | daemonStop (cached service : Nat)
  | getService (cached : Nat)
  | startReaper (cached : Nat)
  | stopReaper
  | clientOperation (service : Nat)
  | trafficOperation (service : Nat)
  | reaperWorker (service : Nat)

namespace ServiceRequest

def program : ServiceRequest → ServiceProgram
  | connect cached fresh => ServiceLock.connectTrex cached fresh
  | disconnect cached => ServiceLock.disconnectStlService cached
  | daemonStart cached => ServiceLock.daemonTrexStart cached
  | daemonStop cached service => ServiceLock.daemonTrexStop cached service
  | getService cached => ServiceLock.getStlService cached
  | startReaper cached => ServiceLock.startReaper cached
  | stopReaper => ServiceLock.stopReaper
  | clientOperation service => ServiceLock.withClient service
  | trafficOperation service => ServiceLock.trafficOperation service
  | reaperWorker service => ServiceLock.reaperWorker service

def fencesInside : ServiceRequest → Bool
  | disconnect _ | daemonStart _ | daemonStop _ _ | getService _ | startReaper _ => true
  | _ => false

def isConnect : ServiceRequest → Bool
  | connect _ _ => true
  | _ => false

def isDaemonStart : ServiceRequest → Bool
  | daemonStart _ => true
  | _ => false

def isDaemonStop : ServiceRequest → Bool
  | daemonStop _ _ => true
  | _ => false

/-- The first request takes two locks in the other order than the second. -/
def clashes (a b : ServiceRequest) : Bool :=
  (a.isConnect && b.fencesInside) || (a.isDaemonStart && b.isDaemonStop)

def Compatible (a b : ServiceRequest) : Prop := a.clashes b = false ∧ b.clashes a = false

end ServiceRequest

/-! ## Orders of the locks -/

namespace ServiceLock

/-- The order of `connect_trex`. -/
def fenceFirst : ServiceLock → Nat
  | fence => 0
  | replacement => 1
  | daemonMutation => 2
  | service => 3
  | lifecycle => 4
  | authority _ => 5
  | client _ => 6

/-- The order of `daemon_trex_start`. -/
def daemonFirst : ServiceLock → Nat
  | daemonMutation => 0
  | replacement => 1
  | fence => 2
  | service => 3
  | lifecycle => 4
  | authority _ => 5
  | client _ => 6

/-- The order of `daemon_trex_stop`. -/
def replacementFirst : ServiceLock → Nat
  | replacement => 0
  | fence => 1
  | daemonMutation => 2
  | service => 3
  | lifecycle => 4
  | authority _ => 5
  | client _ => 6

end ServiceLock

namespace ServiceRequest

open ServiceLock

theorem ordered_fenceFirst {r : ServiceRequest} (h : r.fencesInside = false) :
    LockProgram.Ordered fenceFirst [] r.program := by
  cases r with
  | disconnect _ | daemonStart _ | daemonStop _ _ | getService _ | startReaper _ => cases h
  | _ => simp [program, connectTrex, ServiceLock.disconnectStlService, retireDisconnectedStlService,
      getStlService, replaceService, ServiceLock.stopReaper, withClient, ServiceLock.disconnect,
      detachReaper, resumeReaper, ServiceLock.trafficOperation, ServiceLock.reaperWorker, perhaps,
      short, LockProgram.Ordered, fenceFirst]

theorem ordered_daemonFirst {r : ServiceRequest} (hconnect : r.isConnect = false)
    (hstop : r.isDaemonStop = false) : LockProgram.Ordered daemonFirst [] r.program := by
  cases r with
  | connect _ _ => cases hconnect
  | daemonStop _ _ => cases hstop
  | _ => simp [program, daemonTrexStart, ServiceLock.disconnectStlService, getStlService,
      replaceService, ServiceLock.startReaper, ServiceLock.stopReaper, withClient,
      ServiceLock.disconnect, detachReaper, resumeReaper, ServiceLock.trafficOperation,
      ServiceLock.reaperWorker, perhaps, short, LockProgram.Ordered, daemonFirst]

theorem ordered_replacementFirst {r : ServiceRequest} (hconnect : r.isConnect = false)
    (hstart : r.isDaemonStart = false) : LockProgram.Ordered replacementFirst [] r.program := by
  cases r with
  | connect _ _ => cases hconnect
  | daemonStart _ => cases hstart
  | _ => simp [program, daemonTrexStop, retireTraffic, ServiceLock.disconnectStlService,
      getStlService, replaceService, ServiceLock.startReaper, ServiceLock.stopReaper, withClient,
      ServiceLock.disconnect, detachReaper, resumeReaper, ServiceLock.trafficOperation,
      ServiceLock.reaperWorker, perhaps, short, LockProgram.Ordered, replacementFirst]

theorem exists_order {ι : Type} {requests : ι → ServiceRequest}
    (h : ∀ i j, i ≠ j → (requests i).Compatible (requests j)) :
    ∃ rank, ∀ i, LockProgram.Ordered rank [] (requests i).program := by
  by_cases hconnect : ∃ i, (requests i).isConnect = true
  · obtain ⟨i, hi⟩ := hconnect
    refine ⟨fenceFirst, fun j => ordered_fenceFirst ?_⟩
    by_cases hji : j = i
    · subst hji
      cases hr : requests j with
      | connect _ _ => rfl
      | _ => simp [hr, isConnect] at hi
    · have hclash := (h i j (Ne.symm hji)).1
      rw [clashes, hi, Bool.true_and, Bool.or_eq_false_iff] at hclash
      exact hclash.1
  · have hnone : ∀ i, (requests i).isConnect = false := fun i => by
      simpa using fun hi => hconnect ⟨i, hi⟩
    by_cases hstart : ∃ i, (requests i).isDaemonStart = true
    · obtain ⟨i, hi⟩ := hstart
      refine ⟨daemonFirst, fun j => ordered_daemonFirst (hnone j) ?_⟩
      by_cases hji : j = i
      · subst hji
        cases hr : requests j with
        | daemonStart _ => rfl
        | _ => simp [hr, isDaemonStart] at hi
      · have hclash := (h i j (Ne.symm hji)).1
        rw [clashes, hi, Bool.true_and, Bool.or_eq_false_iff] at hclash
        exact hclash.2
    · refine ⟨replacementFirst, fun j => ordered_replacementFirst (hnone j) ?_⟩
      simpa using fun hj => hstart ⟨j, hj⟩

/-! ## Requests that shut each other out -/

open Action

theorem trace_disconnectStlService (cached : Nat) : Trace (ServiceLock.disconnectStlService cached)
    ([acquire replacement, acquire service, release service] ++ acquire fence ::
      [release fence, release replacement]) false :=
  .locked (.seq (.locked .skip) (.right (.locked (.raised _))))

theorem trace_replaceService (previous : Nat) : Trace (replaceService previous)
    ([acquire replacement, acquire service, release service, acquire lifecycle, release lifecycle,
        acquire lifecycle, release lifecycle] ++ acquire fence ::
      [release fence, acquire service, release service, acquire lifecycle, release lifecycle,
        release replacement]) false :=
  .locked (.right (.seq (.locked .skip) (.seq_raised
    (.handled (.seq (.seq (.locked .skip) (.locked .skip)) (.locked (.raised _)))
      (.seq (.locked .skip) (.seq (.locked .skip) (.seq (.left .skip) (.raised _))))))))

theorem exists_trace_fencesInside {r : ServiceRequest} (h : r.fencesInside = true) :
    ∃ q rest result, Trace r.program (q ++ acquire fence :: rest) result
      ∧ replacement ∈ heldAfter [] q ∧ fence ∉ acquired q := by
  cases r with
  | disconnect cached =>
      exact ⟨_, _, _, trace_disconnectStlService cached, by decide, by decide⟩
  | daemonStart cached =>
      exact ⟨[acquire daemonMutation, acquire replacement, acquire service, release service], _, _,
        .locked (.right (trace_disconnectStlService cached)), by decide, by decide⟩
  | daemonStop cached service =>
      exact ⟨[acquire replacement], _, _, .locked (.locked (.raised _)), by decide, by decide⟩
  | getService cached =>
      exact ⟨[acquire replacement, acquire service, release service, acquire replacement,
          acquire service, release service, acquire lifecycle, release lifecycle,
          acquire lifecycle, release lifecycle], _, _,
        .locked (.seq (.locked .skip) (.right (trace_replaceService cached))),
        by decide, by decide⟩
  | startReaper cached =>
      exact ⟨[acquire replacement, acquire lifecycle, release lifecycle, acquire replacement,
          acquire service, release service, acquire replacement, acquire service, release service,
          acquire lifecycle, release lifecycle, acquire lifecycle, release lifecycle], _, _,
        .locked (.seq (.locked .skip) (.seq_raised
          (.locked (.seq (.locked .skip) (.right (trace_replaceService cached)))))),
        by decide, by decide⟩
  | connect _ _ | stopReaper | clientOperation _ | trafficOperation _ | reaperWorker _ => cases h

theorem exists_traces {ι : Type} [DecidableEq ι] {requests : ι → ServiceRequest} {i j : ι}
    (hij : i ≠ j) {t u : List (Action ServiceLock)} {r r' : Bool}
    (ht : Trace (requests i).program t r) (hu : Trace (requests j).program u r') :
    ∃ (traces : ι → List (Action ServiceLock)) (results : ι → Bool),
      (∀ k, Trace (requests k).program (traces k) (results k)) ∧ traces i = t ∧ traces j = u := by
  refine ⟨Function.update (Function.update (fun _ => []) i t) j u,
    Function.update (Function.update (fun _ => false) i r) j r', fun k => ?_, ?_, ?_⟩
  · by_cases hkj : k = j
    · subst hkj
      rwa [Function.update_self, Function.update_self]
    · rw [Function.update_of_ne hkj, Function.update_of_ne hkj]
      by_cases hki : k = i
      · subst hki
        rwa [Function.update_self, Function.update_self]
      · rw [Function.update_of_ne hki, Function.update_of_ne hki]
        exact .raised _
  · rw [Function.update_of_ne hij, Function.update_self]
  · rw [Function.update_self]

theorem exists_cycle {ι : Type} [DecidableEq ι] {requests : ι → ServiceRequest} {i j : ι}
    (hij : i ≠ j) (h : (requests i).clashes (requests j) = true) :
    ∃ (traces : ι → List (Action ServiceLock)) (results : ι → Bool),
      (∀ k, Trace (requests k).program (traces k) (results k))
        ∧ ∃ s, Reaches (start traces) s ∧ Cycle s {i, j} := by
  rcases Bool.or_eq_true_iff.mp h with h | h
  · obtain ⟨hconnect, hinside⟩ := Bool.and_eq_true_iff.mp h
    obtain ⟨q, rest, r, htrace, hheld, hfree⟩ := exists_trace_fencesInside hinside
    cases hi : requests i with
    | connect cached fresh =>
        have hconnecting : Trace (requests i).program
            ([acquire fence] ++ acquire replacement :: [release replacement, release fence])
            false := by
          rw [hi]
          exact .locked (.right (.seq_raised (.locked (.raised _))))
        obtain ⟨traces, results, hall, hti, htj⟩ := exists_traces hij hconnecting htrace
        refine ⟨traces, results, hall, reaches_cycle hij hti htj hheld (by decide) ?_⟩
        intro l hl hmem
        rw [List.mem_singleton.mp hmem] at hl
        exact hfree hl
    | _ => simp [hi, isConnect] at hconnect
  · obtain ⟨hstart, hstop⟩ := Bool.and_eq_true_iff.mp h
    cases hi : requests i with
    | daemonStart cached =>
        cases hj : requests j with
        | daemonStop cached' service =>
            have hstarting : Trace (requests i).program ([acquire daemonMutation] ++
                acquire replacement :: [release replacement, release daemonMutation]) false := by
              rw [hi]
              exact .locked (.right (.locked (.raised _)))
            have hstopping : Trace (requests j).program ([acquire replacement, acquire fence] ++
                acquire daemonMutation :: [release daemonMutation, release fence,
                  release replacement]) false := by
              rw [hj]
              exact .locked (.locked (.seq_raised (.locked (.raised _))))
            obtain ⟨traces, results, hall, hti, htj⟩ := exists_traces hij hstarting hstopping
            exact ⟨traces, results, hall,
              reaches_cycle hij hti htj (by decide) (by decide) (by decide)⟩
        | _ => simp [hj, isDaemonStop] at hstop
    | _ => simp [hi, isDaemonStart] at hstart

end ServiceRequest

/-! ## Lock cycles -/

/-- In every interleaving of the requests, no reachable state has threads each of which waits
for a lock of another, and from each of them all threads, the hard-stop worker among them,
can finish. -/
def LockCycleFree {ι : Type} [DecidableEq ι] (requests : ι → ServiceRequest) : Prop :=
  ∀ (traces : ι → List (Action ServiceLock)) (results : ι → Bool),
    (∀ i, Trace (requests i).program (traces i) (results i)) →
    ∀ s, Reaches (start traces) s → (∀ threads, ¬ Cycle s threads)
      ∧ ∃ s', Reaches s s' ∧ Finished s'

/-- Concurrent requests never shut each other out exactly when each two of them are
compatible. -/
theorem lockCycleFree_iff {ι : Type} [DecidableEq ι] [Fintype ι] (requests : ι → ServiceRequest) :
    LockCycleFree requests ↔ ∀ i j, i ≠ j → (requests i).Compatible (requests j) := by
  constructor
  · intro hfree i j hij
    have hnone : ∀ {i j}, i ≠ j → (requests i).clashes (requests j) = false := by
      intro i j hij
      by_contra hclash
      rw [Bool.not_eq_false] at hclash
      obtain ⟨traces, results, hall, s, hreach, hcycle⟩ :=
        ServiceRequest.exists_cycle hij hclash
      exact (hfree traces results hall s hreach).1 _ hcycle
    exact ⟨hnone hij, hnone hij.symm⟩
  · intro hcompatible traces results hall s hreach
    obtain ⟨rank, hrank⟩ := ServiceRequest.exists_order hcompatible
    have horder := (LockOrder.start hrank hall).reaches hreach
    exact ⟨horder.not_cycle, horder.finishes⟩

def connectAndDisconnect : Fin 2 → ServiceRequest
  | 0 => .connect 0 1
  | 1 => .disconnect 0

/-- `connect_trex` holds the fence and asks for the replacement lock, the disconnection holds
this lock and asks for the fence. -/
theorem connect_deadlocks : ¬ ∀ (n : Nat) (requests : Fin n → ServiceRequest),
    LockCycleFree requests := by
  intro h
  have hne : (0 : Fin 2) ≠ 1 := by decide
  have hclash : (connectAndDisconnect 0).clashes (connectAndDisconnect 1) = true := rfl
  obtain ⟨traces, results, hall, s, hreach, hcycle⟩ := ServiceRequest.exists_cycle hne hclash
  exact (h 2 connectAndDisconnect traces results hall s hreach).1 _ hcycle

end TrexWebui
