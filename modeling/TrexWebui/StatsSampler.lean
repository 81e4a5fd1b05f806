import Mathlib.Logic.Function.Basic
import Mathlib.Logic.Relation

/-!
# The stats sampler

`TrexStatsSampler` of `stats_sampler.py`: one sampling thread while there are
subscribers, and a stream of samples for each of them. A step is what runs
without being interrupted: a block under the state lock, one operation on an
event, a callback of an event loop, or what lies between two of these. The
steps of all threads interleave in any order.

A sample gets its number under the state lock. It is posted to the event loops
of the subscribers afterwards, by the thread that recorded it: the sampling
thread and the requests that call `sample_once` do so while they hold the
sample lock, a request for the stats (`trex_stats`) without it.

The callbacks of a subscriber are kept with the subscriber, in the order in
which they were posted; callbacks of different subscribers have no object in
common. A thread that is started runs.
-/

namespace TrexWebui

/-! ## Samples and subscribers -/

/-- A payload with the number that `record_result` gives it. -/
structure Sample (α : Type) where
  sequence : Nat
  payload : α

/-- What stands in the queue of a subscriber. -/
inductive StreamEvent (α : Type) where
  | sample (s : Sample α)
  /-- `_SUBSCRIPTION_CLOSED` -/
  | closed

/-- What is posted to the loop of a subscriber. -/
inductive StreamCallback (α : Type) where
  | enqueue (s : Sample α)
  | signalClosed

/-- `_SubscriberState`, with what was posted to its loop and what its iterator has returned. -/
structure Subscriber (α : Type) where
  closed : Bool := false
  events : List (StreamEvent α) := []
  callbacks : List (StreamCallback α) := []
  loopClosed : Bool := false
  received : List (Sample α) := []

def statsSubscriberQueueLimit : Nat := 32

variable {α : Type}

namespace Subscriber

/-- `events.put_nowait(event)`, `none` for `QueueFull`. -/
def putNowait (event : StreamEvent α) (u : Subscriber α) : Option (Subscriber α) :=
  if u.events.length < statsSubscriberQueueLimit then some { u with events := u.events ++ [event] }
  else none

def enqueue (s : Sample α) (u : Subscriber α) : Subscriber α :=
  if u.closed then u
  else
    match u.putNowait (.sample s) with
    | some u' => u'
    | none =>
        let rest := { u with events := u.events.tail }
        (rest.putNowait (.sample s)).getD rest

def signalClosed (u : Subscriber α) : Subscriber α := { u with events := [.closed] }

/-- `loop.call_soon_threadsafe(callback)`, on a loop that is not closed. -/
def post (callback : StreamCallback α) (u : Subscriber α) : Subscriber α :=
  { u with callbacks := u.callbacks ++ [callback] }

def runCallback (callback : StreamCallback α) (u : Subscriber α) : Subscriber α :=
  match callback with
  | .enqueue s => u.enqueue s
  | .signalClosed => u.signalClosed

/-- `__anext__`, for the event that it takes from the queue. -/
def receive (event : StreamEvent α) (u : Subscriber α) : Subscriber α :=
  if u.closed then u
  else
    match event with
    | .sample s => { u with received := u.received ++ [s] }
    | .closed => u

end Subscriber

/-! ## Threads and what they are doing -/

/-- Where the sampling thread is in `_run`. -/
inductive SamplingPhase where
  | unborn
  /-- `while not self._stop_event.is_set()` -/
  | test
  /-- Before the state lock is taken in the loop. -/
  | check
  /-- In `sample_once`. -/
  | sample
  /-- `self._stop_event.wait(self.interval_seconds)` -/
  | wait
  /-- Before the state lock is taken in the `finally` block. -/
  | finish
  /-- Behind the `finally` block. -/
  | returning
  | dead
  deriving DecidableEq

/-- `thread.is_alive()` -/
def SamplingPhase.isAlive : SamplingPhase → Bool
  | .unborn => false
  | .dead => false
  | _ => true

/-- A sample on its way to the subscribers, and whether the sample lock is held for it. -/
structure Publication (α : Type) where
  locked : Bool
  sample : Sample α
  left : List Nat

/-- What a worker has begun. -/
inductive StatsTask (α : Type) where
  | idle
  /-- `sample_once` waits for the sample lock. -/
  | acquire
  /-- `self.service.stats(ports=ports)`, under the sample lock. -/
  | stats
  /-- `record_result` goes on with the next subscriber. -/
  | publish (p : Publication α)
  /-- The loop of the subscriber is closed: `_discard_subscriber`. -/
  | discard (p : Publication α) (id : Nat)
  /-- `subscriber.closed.set()` at the end of it. -/
  | discarded (p : Publication α) (id : Nat)
  /-- `_close_subscriber` for each of the subscribers. -/
  | closing (left : List Nat)
  /-- `subscriber.closed.set()` -/
  | closeSet (id : Nat) (left : List Nat)
  /-- `_signal_closed` is called or posted. -/
  | closeSignal (id : Nat) (left : List Nat)

/-- Who calls the sampler: a request, or a sampling thread. -/
inductive StatsWorker where
  | request (n : Nat)
  | sampler (t : Nat)
  deriving DecidableEq

namespace StatsTask

def publication : StatsTask α → Option (Publication α)
  | .publish p => some p
  | .discard p _ => some p
  | .discarded p _ => some p
  | _ => none

def holdsSampleLock : StatsTask α → Bool
  | .stats => true
  | .publish p => p.locked
  | .discard p _ => p.locked
  | .discarded p _ => p.locked
  | _ => false

end StatsTask

/-! ## The sampler -/

structure SamplerLimits where
  historyLimit : Nat := 1200
  maxSubscribers : Nat := 32

/-- `TrexStatsSampler`, with its threads and what the workers have begun. -/
structure StatsSampler (α : Type) where
  sequence : Nat := 0
  latest : Option (Sample α) := none
  history : List (Sample α) := []
  subscribers : List Nat := []
  nextSubscriberId : Nat := 1
  stopEvent : Bool := false
  thread : Option Nat := none
  closed : Bool := false
  subscriber : Nat → Subscriber α := fun _ => {}
  threads : Nat := 0
  phase : Nat → SamplingPhase := fun _ => .unborn
  task : StatsWorker → StatsTask α := fun _ => .idle

namespace StatsSampler

def setSubscriber (id : Nat) (u : Subscriber α) (σ : StatsSampler α) : StatsSampler α :=
  { σ with subscriber := Function.update σ.subscriber id u }

def setPhase (t : Nat) (phase : SamplingPhase) (σ : StatsSampler α) : StatsSampler α :=
  { σ with phase := Function.update σ.phase t phase }

def setTask (w : StatsWorker) (task : StatsTask α) (σ : StatsSampler α) : StatsSampler α :=
  { σ with task := Function.update σ.task w task }

@[simp] theorem setSubscriber_self (id : Nat) (u : Subscriber α) (σ : StatsSampler α) :
    (σ.setSubscriber id u).subscriber id = u := Function.update_self ..

theorem setSubscriber_of_ne {id id' : Nat} (hne : id' ≠ id) (u : Subscriber α) (σ : StatsSampler α) :
    (σ.setSubscriber id u).subscriber id' = σ.subscriber id' := Function.update_of_ne hne ..

@[simp] theorem setTask_self (w : StatsWorker) (task : StatsTask α) (σ : StatsSampler α) :
    (σ.setTask w task).task w = task := Function.update_self ..

theorem setTask_of_ne {w v : StatsWorker} (hne : v ≠ w) (task : StatsTask α) (σ : StatsSampler α) :
    (σ.setTask w task).task v = σ.task v := Function.update_of_ne hne ..

def startLocked (σ : StatsSampler α) : StatsSampler α :=
  let cleared := { σ with stopEvent := false }
  if σ.thread.any fun t => (σ.phase t).isAlive then cleared
  else { cleared.setPhase σ.threads .test with thread := some σ.threads, threads := σ.threads + 1 }

/-- `subscribe`; where it raises, nothing has changed. -/
def subscribe (L : SamplerLimits) (σ : StatsSampler α) : StatsSampler α :=
  if σ.closed then σ
  else if L.maxSubscribers ≤ σ.subscribers.length then σ
  else
    let id := σ.nextSubscriberId
    let fresh : Subscriber α := {}
    let u := match σ.latest with
      | some s => fresh.enqueue s
      | none => fresh
    startLocked { σ.setSubscriber id u with
      nextSubscriberId := id + 1, subscribers := σ.subscribers ++ [id] }

/-- What `unsubscribe` and `_discard_subscriber` do under the state lock. -/
def removeSubscriber (id : Nat) (σ : StatsSampler α) : StatsSampler α :=
  let rest := σ.subscribers.erase id
  { σ with subscribers := rest, stopEvent := σ.stopEvent || rest.isEmpty }

/-- What `close` does under the state lock, on a sampler that is not closed. -/
def closeLocked (σ : StatsSampler α) : StatsSampler α :=
  { σ with closed := true, stopEvent := true, subscribers := [] }

def resetHistory (σ : StatsSampler α) : StatsSampler α := { σ with history := [], latest := none }

/-- The sample that `record_result` makes of a payload. -/
def nextSample (payload : α) (σ : StatsSampler α) : Sample α := ⟨σ.sequence + 1, payload⟩

/-- What `record_result` does under the state lock. -/
def recordLocked (L : SamplerLimits) (payload : α) (σ : StatsSampler α) : StatsSampler α :=
  let history := σ.history ++ [σ.nextSample payload]
  { σ with
    sequence := σ.sequence + 1
    latest := some (σ.nextSample payload)
    history := history.drop (history.length - L.historyLimit) }

/-- The block at the end of `_run`. -/
def finishLocked (t : Nat) (σ : StatsSampler α) : StatsSampler α :=
  let left := { σ with thread := if σ.thread = some t then none else σ.thread }
  let next := if !left.closed && !left.subscribers.isEmpty then left.startLocked else left
  next.setPhase t .returning

/-! ## Steps -/

/-- The steps of all threads and event loops. A worker posts its sample to the next subscriber when
it `may`. -/
inductive Step (L : SamplerLimits) (may : StatsSampler α → StatsWorker → Prop) :
    StatsSampler α → StatsSampler α → Prop
  | subscribe (σ) : Step L may σ (σ.subscribe L)
  | unsubscribe (σ) (n id : Nat) (hidle : σ.task (.request n) = .idle)
      (hissued : id < σ.nextSubscriberId) :
      Step L may σ ((σ.removeSubscriber id).setTask (.request n) (.closing [id]))
  | close (σ) (n : Nat) (hidle : σ.task (.request n) = .idle) (hopen : σ.closed = false) :
      Step L may σ (σ.closeLocked.setTask (.request n) (.closing σ.subscribers))
  | closeTest (σ) (w : StatsWorker) (id : Nat) (left : List Nat)
      (htask : σ.task w = .closing (id :: left)) :
      Step L may σ (σ.setTask w (if (σ.subscriber id).closed then .closing left else .closeSet id left))
  | closeSet (σ) (w : StatsWorker) (id : Nat) (left : List Nat)
      (htask : σ.task w = .closeSet id left) :
      Step L may σ ((σ.setSubscriber id { σ.subscriber id with closed := true }).setTask w
        (.closeSignal id left))
  | closeSignal (σ) (w : StatsWorker) (id : Nat) (left : List Nat) (inLoop : Bool)
      (htask : σ.task w = .closeSignal id left) :
      Step L may σ ((σ.setSubscriber id
        (if (σ.subscriber id).loopClosed then σ.subscriber id
          else if inLoop then (σ.subscriber id).signalClosed
          else (σ.subscriber id).post .signalClosed)).setTask w (.closing left))
  | closeDone (σ) (w : StatsWorker) (htask : σ.task w = .closing []) :
      Step L may σ (σ.setTask w .idle)
  | resetHistory (σ) : Step L may σ σ.resetHistory
  | start (σ) (hopen : σ.closed = false) : Step L may σ σ.startLocked
  | sampleOnce (σ) (n : Nat) (hidle : σ.task (.request n) = .idle) :
      Step L may σ (σ.setTask (.request n) .acquire)
  | acquire (σ) (w : StatsWorker) (htask : σ.task w = .acquire)
      (hfree : ∀ v, (σ.task v).holdsSampleLock = false) : Step L may σ (σ.setTask w .stats)
  | sampled (σ) (w : StatsWorker) (payload : α) (htask : σ.task w = .stats) :
      Step L may σ ((σ.recordLocked L payload).setTask w
        (.publish ⟨true, σ.nextSample payload, σ.subscribers⟩))
  | failed (σ) (n : Nat) (htask : σ.task (.request n) = .stats) :
      Step L may σ (σ.setTask (.request n) .idle)
  | samplingFailed (σ) (t : Nat) (hphase : σ.phase t = .sample)
      (htask : σ.task (.sampler t) = .stats) :
      Step L may σ ((σ.setPhase t .finish).setTask (.sampler t) .idle)
  | record (σ) (n : Nat) (payload : α) (hidle : σ.task (.request n) = .idle) :
      Step L may σ ((σ.recordLocked L payload).setTask (.request n)
        (.publish ⟨false, σ.nextSample payload, σ.subscribers⟩))
  | publish (σ) (w : StatsWorker) (p : Publication α) (id : Nat) (left : List Nat)
      (htask : σ.task w = .publish p) (hleft : p.left = id :: left)
      (hopen : (σ.subscriber id).loopClosed = false) (hmay : may σ w) :
      Step L may σ ((σ.setSubscriber id ((σ.subscriber id).post (.enqueue p.sample))).setTask w
        (.publish { p with left := left }))
  | publishRaises (σ) (w : StatsWorker) (p : Publication α) (id : Nat) (left : List Nat)
      (htask : σ.task w = .publish p) (hleft : p.left = id :: left)
      (hclosed : (σ.subscriber id).loopClosed = true) :
      Step L may σ (σ.setTask w (.discard { p with left := left } id))
  | discard (σ) (w : StatsWorker) (p : Publication α) (id : Nat) (htask : σ.task w = .discard p id) :
      Step L may σ ((σ.removeSubscriber id).setTask w (.discarded p id))
  | discarded (σ) (w : StatsWorker) (p : Publication α) (id : Nat)
      (htask : σ.task w = .discarded p id) :
      Step L may σ ((σ.setSubscriber id { σ.subscriber id with closed := true }).setTask w
        (.publish p))
  | published (σ) (w : StatsWorker) (p : Publication α) (htask : σ.task w = .publish p)
      (hleft : p.left = []) : Step L may σ (σ.setTask w .idle)
  | runCallback (σ) (id : Nat) (callback : StreamCallback α) (rest : List (StreamCallback α))
      (hopen : (σ.subscriber id).loopClosed = false)
      (hcallbacks : (σ.subscriber id).callbacks = callback :: rest) :
      Step L may σ (σ.setSubscriber id
        ({ σ.subscriber id with callbacks := rest }.runCallback callback))
  | closeLoop (σ) (id : Nat) :
      Step L may σ (σ.setSubscriber id { σ.subscriber id with loopClosed := true, callbacks := [] })
  | receive (σ) (id : Nat) (event : StreamEvent α) (rest : List (StreamEvent α))
      (hevents : (σ.subscriber id).events = event :: rest) :
      Step L may σ (σ.setSubscriber id ({ σ.subscriber id with events := rest }.receive event))
  | test (σ) (t : Nat) (hphase : σ.phase t = .test) :
      Step L may σ (σ.setPhase t (if σ.stopEvent then .finish else .check))
  | leave (σ) (t : Nat) (hphase : σ.phase t = .check)
      (hidle : σ.closed = true ∨ σ.subscribers = []) : Step L may σ (σ.setPhase t .finish)
  | enter (σ) (t : Nat) (hphase : σ.phase t = .check) (hopen : σ.closed = false)
      (hsubscribers : σ.subscribers ≠ []) (htask : σ.task (.sampler t) = .idle) :
      Step L may σ ((σ.setPhase t .sample).setTask (.sampler t) .acquire)
  | rest (σ) (t : Nat) (hphase : σ.phase t = .sample) (htask : σ.task (.sampler t) = .idle) :
      Step L may σ (σ.setPhase t .wait)
  | wake (σ) (t : Nat) (hphase : σ.phase t = .wait) : Step L may σ (σ.setPhase t .test)
  | finish (σ) (t : Nat) (hphase : σ.phase t = .finish) : Step L may σ (σ.finishLocked t)
  | exit (σ) (t : Nat) (hphase : σ.phase t = .returning) : Step L may σ (σ.setPhase t .dead)

def Reachable (L : SamplerLimits) (may : StatsSampler α → StatsWorker → Prop) :
    StatsSampler α → Prop := Relation.ReflTransGen (Step L may) {}

def Always : StatsSampler α → StatsWorker → Prop := fun _ _ => True

/-- No older sample is on its way to the subscriber to which the worker posts next. -/
def InTurn (σ : StatsSampler α) (w : StatsWorker) : Prop :=
  ∀ p id left, σ.task w = .publish p → p.left = id :: left →
    ∀ v q, (σ.task v).publication = some q → id ∈ q.left → p.sample.sequence ≤ q.sample.sequence

end StatsSampler

end TrexWebui
