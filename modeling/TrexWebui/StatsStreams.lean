import TrexWebui.StatsSampler
import Mathlib.Data.List.Nodup

/-!
# Streams of samples

What holds of a sampler in any interleaving. While there are subscribers, one
sampling thread runs and is not told to stop (`Supervised`): a thread that has
left its loop starts its successor in the block that takes its name away.

What a subscriber receives, has in its queue and will find in its loop is one
list, its `stream`. It grows only at the end, when a sample is posted, so it is
increasing exactly as long as the samples are posted in the order of their
numbers (`Ordered`). The sample lock sees to that; `record_result` without it
does not.
-/

namespace TrexWebui

variable {α : Type}

namespace StatsSampler

/-! ## The sampling thread -/

/-- The thread of the sampler is the one that has not come to the end of `_run`, and it is there and
goes on as long as there are subscribers. -/
structure Supervised (σ : StatsSampler α) : Prop where
  current : ∀ t, σ.thread = some t ↔ (σ.phase t).isAlive = true ∧ σ.phase t ≠ .returning
  unborn : ∀ t, σ.threads ≤ t → σ.phase t = .unborn
  goesOn : σ.closed = false → σ.subscribers ≠ [] → σ.stopEvent = false ∧ σ.thread ≠ none

namespace Supervised

variable {σ : StatsSampler α}

theorem initial : Supervised ({} : StatsSampler α) where
  current := by
    intro t
    constructor
    · intro h
      cases h
    · rintro ⟨halive, -⟩
      cases halive
  unborn := fun _ _ => rfl
  goesOn := fun _ h => absurd rfl h

/-- The thread moves on in `_run`. -/
theorem move (h : Supervised σ) {t : Nat} {phase : SamplingPhase}
    (hbefore : (σ.phase t).isAlive = true ∧ σ.phase t ≠ .returning)
    (hafter : phase.isAlive = true ∧ phase ≠ .returning) : Supervised (σ.setPhase t phase) where
  current := by
    intro t'
    by_cases heq : t' = t
    · subst heq
      simp only [setPhase, Function.update_self]
      exact ⟨fun _ => hafter, fun _ => (h.current t').mpr hbefore⟩
    · simp only [setPhase, Function.update_of_ne heq]
      exact h.current t'
  unborn := by
    intro t' hle
    by_cases heq : t' = t
    · subst heq
      rw [h.unborn t' hle] at hbefore
      cases hbefore.1
    · simp only [setPhase, Function.update_of_ne heq]
      exact h.unborn t' hle
  goesOn := h.goesOn

/-- `_start_locked` finds the thread of the sampler alive, or makes one. -/
theorem startLocked_of (hcurrent : ∀ t, σ.thread = some t ↔ (σ.phase t).isAlive = true
      ∧ σ.phase t ≠ .returning) (hunborn : ∀ t, σ.threads ≤ t → σ.phase t = .unborn) :
    Supervised σ.startLocked := by
  unfold startLocked
  dsimp only
  by_cases hany : (σ.thread.any fun t => (σ.phase t).isAlive) = true
  · rw [if_pos hany]
    refine ⟨hcurrent, hunborn, fun _ _ => ⟨rfl, fun hnone => ?_⟩⟩
    change σ.thread = none at hnone
    rw [hnone] at hany
    cases hany
  · have hnone : ∀ t, σ.thread ≠ some t := by
      intro t hthread
      refine hany ?_
      rw [hthread]
      exact ((hcurrent t).mp hthread).1
    rw [if_neg hany]
    refine ⟨fun t => ?_, fun t hle => ?_, fun _ _ => ⟨rfl, Option.some_ne_none _⟩⟩
    · change some σ.threads = some t ↔ _
      by_cases heq : t = σ.threads
      · subst heq
        simp only [setPhase, Function.update_self]
        exact ⟨fun _ => ⟨rfl, SamplingPhase.noConfusion⟩, fun _ => trivial⟩
      · simp only [setPhase, Function.update_of_ne heq]
        exact ⟨fun hsome => absurd (Option.some.inj hsome).symm heq, fun hlive =>
          absurd ((hcurrent t).mpr hlive) (hnone t)⟩
    · change σ.threads + 1 ≤ t at hle
      have heq : t ≠ σ.threads := by omega
      simp only [setPhase, Function.update_of_ne heq]
      exact hunborn t (by omega)

theorem startLocked (h : Supervised σ) : Supervised σ.startLocked := startLocked_of h.current h.unborn

theorem removeSubscriber (h : Supervised σ) (id : Nat) : Supervised (σ.removeSubscriber id) where
  current := h.current
  unborn := h.unborn
  goesOn := by
    intro hopen hsubscribers
    change σ.subscribers.erase id ≠ [] at hsubscribers
    have hbefore : σ.subscribers ≠ [] := by
      intro hnil
      rw [hnil] at hsubscribers
      exact hsubscribers rfl
    obtain ⟨hstop, hthread⟩ := h.goesOn hopen hbefore
    refine ⟨?_, hthread⟩
    change (σ.stopEvent || (σ.subscribers.erase id).isEmpty) = false
    rw [hstop, Bool.false_or, List.isEmpty_eq_false_iff]
    exact hsubscribers

theorem subscribe (h : Supervised σ) (L : SamplerLimits) : Supervised (σ.subscribe L) := by
  unfold StatsSampler.subscribe
  split
  · exact h
  split
  · exact h
  · exact startLocked_of h.current h.unborn

/-- A thread that ends leaves its place to a successor, where there are subscribers. -/
theorem finishLocked (h : Supervised σ) {t : Nat} (hphase : σ.phase t = .finish) :
    Supervised (σ.finishLocked t) := by
  have hthread : σ.thread = some t := by
    rw [h.current t, hphase]
    exact ⟨rfl, SamplingPhase.noConfusion⟩
  have hborn : t ≠ σ.threads := by
    rintro rfl
    have hunborn := h.unborn σ.threads (Nat.le_refl _)
    rw [hphase] at hunborn
    cases hunborn
  have hcurrent : ∀ t', none = some t' ↔ (Function.update σ.phase t .returning t').isAlive = true
      ∧ Function.update σ.phase t .returning t' ≠ .returning := by
    intro t'
    by_cases heq : t' = t
    · subst heq
      rw [Function.update_self]
      exact ⟨fun hsome => absurd hsome.symm (Option.some_ne_none _), fun hlive => absurd rfl hlive.2⟩
    · rw [Function.update_of_ne heq, ← h.current t', hthread]
      exact ⟨fun hsome => absurd hsome.symm (Option.some_ne_none _), fun hsome =>
        absurd (Option.some.inj hsome).symm heq⟩
  have hunborn : ∀ t', σ.threads ≤ t' → Function.update σ.phase t .returning t' = .unborn := by
    intro t' hle
    have hphase' := h.unborn t' hle
    by_cases heq : t' = t
    · subst heq
      rw [hphase] at hphase'
      cases hphase'
    · rw [Function.update_of_ne heq]
      exact hphase'
  unfold StatsSampler.finishLocked
  simp only [hthread, ite_true]
  by_cases hsubscribers : (!σ.closed && !σ.subscribers.isEmpty) = true
  · -- The successor is started before the thread is behind the block; the order does not matter.
    have hstarted := @startLocked_of α { σ.setPhase t .returning with thread := none } hcurrent hunborn
    rw [if_pos hsubscribers]
    unfold StatsSampler.startLocked at hstarted ⊢
    simp only [Option.any_none, Bool.false_eq_true, ite_false] at hstarted ⊢
    unfold setPhase at hstarted ⊢
    dsimp only at hstarted ⊢
    rw [Function.update_comm hborn.symm]
    exact hstarted
  · rw [if_neg hsubscribers]
    refine ⟨hcurrent, hunborn, fun hopen hnonempty => ?_⟩
    change σ.closed = false at hopen
    change σ.subscribers ≠ [] at hnonempty
    rw [hopen, List.isEmpty_eq_false_iff.mpr hnonempty] at hsubscribers
    exact absurd rfl hsubscribers

theorem exit (h : Supervised σ) {t : Nat} (hphase : σ.phase t = .returning) :
    Supervised (σ.setPhase t .dead) where
  current := by
    intro t'
    by_cases heq : t' = t
    · subst heq
      simp only [setPhase, Function.update_self]
      constructor
      · intro hthread
        exact absurd hphase ((h.current t').mp hthread).2
      · rintro ⟨halive, -⟩
        cases halive
    · simp only [setPhase, Function.update_of_ne heq]
      exact h.current t'
  unborn := by
    intro t' hle
    by_cases heq : t' = t
    · subst heq
      rw [h.unborn t' hle] at hphase
      cases hphase
    · simp only [setPhase, Function.update_of_ne heq]
      exact h.unborn t' hle
  goesOn := h.goesOn

theorem step {L : SamplerLimits} {may : StatsSampler α → StatsWorker → Prop} {σ' : StatsSampler α}
    (h : Supervised σ) (hstep : Step L may σ σ') : Supervised σ' := by
  cases hstep with
  | subscribe => exact h.subscribe L
  | unsubscribe n id => exact ⟨h.current, h.unborn, (h.removeSubscriber id).goesOn⟩
  | close n =>
      refine ⟨h.current, h.unborn, fun hopen => ?_⟩
      change true = false at hopen
      cases hopen
  | start => exact h.startLocked
  | discard w p id => exact ⟨h.current, h.unborn, (h.removeSubscriber id).goesOn⟩
  | samplingFailed t hphase =>
      have hmoved : Supervised (σ.setPhase t .finish) :=
        h.move (by rw [hphase]; exact ⟨rfl, SamplingPhase.noConfusion⟩) ⟨rfl, SamplingPhase.noConfusion⟩
      exact ⟨hmoved.current, hmoved.unborn, hmoved.goesOn⟩
  | test t hphase =>
      refine h.move (by rw [hphase]; exact ⟨rfl, SamplingPhase.noConfusion⟩) ?_
      split
      · exact ⟨rfl, SamplingPhase.noConfusion⟩
      · exact ⟨rfl, SamplingPhase.noConfusion⟩
  | leave t hphase =>
      exact h.move (by rw [hphase]; exact ⟨rfl, SamplingPhase.noConfusion⟩)
        ⟨rfl, SamplingPhase.noConfusion⟩
  | enter t hphase =>
      have hmoved : Supervised (σ.setPhase t .sample) :=
        h.move (by rw [hphase]; exact ⟨rfl, SamplingPhase.noConfusion⟩) ⟨rfl, SamplingPhase.noConfusion⟩
      exact ⟨hmoved.current, hmoved.unborn, hmoved.goesOn⟩
  | rest t hphase =>
      exact h.move (by rw [hphase]; exact ⟨rfl, SamplingPhase.noConfusion⟩)
        ⟨rfl, SamplingPhase.noConfusion⟩
  | wake t hphase =>
      exact h.move (by rw [hphase]; exact ⟨rfl, SamplingPhase.noConfusion⟩)
        ⟨rfl, SamplingPhase.noConfusion⟩
  | finish t hphase => exact h.finishLocked hphase
  | exit t hphase => exact h.exit hphase
  | _ => exact ⟨h.current, h.unborn, h.goesOn⟩

theorem reachable {L : SamplerLimits} {may : StatsSampler α → StatsWorker → Prop}
    (h : Reachable L may σ) : Supervised σ := by
  induction h with
  | refl => exact .initial
  | tail _ hstep ih => exact ih.step hstep

end Supervised

/-- No thread is about to end: each of them is before the last block of `_run`, or gone. -/
def Settled (σ : StatsSampler α) : Prop := ∀ t, σ.phase t ≠ .returning

/-- A sampler with subscribers has one thread, which is not told to stop. -/
theorem Supervised.unique {σ : StatsSampler α} (h : Supervised σ) (hsettled : σ.Settled)
    (hopen : σ.closed = false) (hsubscribers : σ.subscribers ≠ []) :
    σ.stopEvent = false ∧ ∃! t, (σ.phase t).isAlive = true := by
  obtain ⟨hstop, hthread⟩ := h.goesOn hopen hsubscribers
  obtain ⟨t, ht⟩ := Option.ne_none_iff_exists'.mp hthread
  refine ⟨hstop, t, ((h.current t).mp ht).1, fun t' halive => ?_⟩
  have hcurrent := (h.current t').mpr ⟨halive, hsettled t'⟩
  rw [ht] at hcurrent
  exact (Option.some.inj hcurrent).symm

end StatsSampler

/-! ## Streams -/

def StreamEvent.number : StreamEvent α → Option Nat
  | .sample s => some s.sequence
  | .closed => none

def StreamCallback.number : StreamCallback α → Option Nat
  | .enqueue s => some s.sequence
  | .signalClosed => none

namespace Subscriber

/-- The numbers of the samples received, in the queue, and posted. -/
def stream (u : Subscriber α) : List Nat :=
  u.received.map Sample.sequence ++ (u.events.filterMap StreamEvent.number
    ++ u.callbacks.filterMap StreamCallback.number)

theorem enqueue_events (s : Sample α) (u : Subscriber α) :
    (u.enqueue s).received = u.received ∧ (u.enqueue s).callbacks = u.callbacks
      ∧ ((u.enqueue s).events.filterMap StreamEvent.number).Sublist
        (u.events.filterMap StreamEvent.number ++ [s.sequence]) := by
  have htail : (u.events.tail.filterMap StreamEvent.number).Sublist
      (u.events.filterMap StreamEvent.number) := (List.tail_sublist _).filterMap _
  unfold enqueue
  by_cases hclosed : u.closed = true
  · rw [if_pos hclosed]
    exact ⟨rfl, rfl, List.sublist_append_left _ _⟩
  rw [if_neg hclosed]
  by_cases hroom : u.events.length < statsSubscriberQueueLimit
  · have hput : u.putNowait (.sample s) = some { u with events := u.events ++ [.sample s] } := if_pos hroom
    rw [hput]
    refine ⟨rfl, rfl, ?_⟩
    dsimp only
    rw [List.filterMap_append]
    exact List.Sublist.refl _
  have hfull : u.putNowait (.sample s) = none := if_neg hroom
  rw [hfull]
  by_cases hrest : u.events.tail.length < statsSubscriberQueueLimit
  · have hput : { u with events := u.events.tail }.putNowait (.sample s)
        = some { u with events := u.events.tail ++ [.sample s] } := if_pos hrest
    dsimp only
    rw [hput]
    refine ⟨rfl, rfl, ?_⟩
    dsimp only [Option.getD_some]
    rw [List.filterMap_append]
    exact htail.append (List.Sublist.refl _)
  · have hput : { u with events := u.events.tail }.putNowait (.sample s) = none := if_neg hrest
    dsimp only
    rw [hput]
    exact ⟨rfl, rfl, htail.trans (List.sublist_append_left _ _)⟩

theorem stream_post (s : Sample α) (u : Subscriber α) :
    (u.post (.enqueue s)).stream = u.stream ++ [s.sequence] := by
  unfold stream post
  simp only [List.filterMap_append, List.append_assoc]
  rfl

theorem stream_post_signalClosed (u : Subscriber α) : (u.post .signalClosed).stream = u.stream := by
  unfold stream post
  simp only [List.filterMap_append]
  rw [show [(StreamCallback.signalClosed : StreamCallback α)].filterMap StreamCallback.number = [] from rfl,
    List.append_nil]

theorem stream_signalClosed (u : Subscriber α) : u.signalClosed.stream.Sublist u.stream := by
  unfold stream signalClosed
  exact (List.Sublist.refl _).append ((List.nil_sublist _).append (List.Sublist.refl _))

theorem stream_runCallback {u : Subscriber α} {callback : StreamCallback α}
    {rest : List (StreamCallback α)} (h : u.callbacks = callback :: rest) :
    ({ u with callbacks := rest }.runCallback callback).stream.Sublist u.stream := by
  cases callback with
  | enqueue s =>
      obtain ⟨hreceived, hcallbacks, hevents⟩ := enqueue_events s { u with callbacks := rest }
      have hmoved : u.callbacks.filterMap StreamCallback.number
          = [s.sequence] ++ rest.filterMap StreamCallback.number := by
        rw [h]
        rfl
      unfold runCallback stream
      dsimp only
      rw [hreceived, hcallbacks, hmoved, ← List.append_assoc (u.events.filterMap _)]
      exact (List.Sublist.refl _).append (hevents.append (List.Sublist.refl _))
  | signalClosed =>
      refine (stream_signalClosed _).trans ?_
      unfold stream
      rw [h]
      exact List.Sublist.refl _

theorem stream_receive {u : Subscriber α} {event : StreamEvent α} {rest : List (StreamEvent α)}
    (h : u.events = event :: rest) :
    ({ u with events := rest }.receive event).stream.Sublist u.stream := by
  have hdropped : ({ u with events := rest } : Subscriber α).stream.Sublist u.stream := by
    unfold stream
    dsimp only
    rw [h]
    refine (List.Sublist.refl _).append (List.Sublist.append ?_ (List.Sublist.refl _))
    exact (List.sublist_cons_self event rest).filterMap _
  unfold receive
  split
  · exact hdropped
  cases event with
  | sample s =>
      dsimp only
      unfold stream
      dsimp only
      rw [h, List.map_append, List.append_assoc]
      exact List.Sublist.refl _
  | closed => exact hdropped

end Subscriber

namespace StatsSampler

/-! ## Samples in order -/

/-- The streams increase, and a sample that is still on its way is newer than what it comes after. -/
structure Ordered (σ : StatsSampler α) : Prop where
  increasing : ∀ id, (σ.subscriber id).stream.Pairwise (· < ·)
  bounded : ∀ id, ∀ n ∈ (σ.subscriber id).stream, n ≤ σ.sequence
  latest : ∀ s, σ.latest = some s → s.sequence ≤ σ.sequence
  issued : ∀ id ∈ σ.subscribers, id < σ.nextSubscriberId
  nodup : σ.subscribers.Nodup
  numbered : ∀ w p, (σ.task w).publication = some p → p.sample.sequence ≤ σ.sequence
  addressed : ∀ w p, (σ.task w).publication = some p → p.left.Nodup
    ∧ ∀ id ∈ p.left, id < σ.nextSubscriberId ∧ ∀ n ∈ (σ.subscriber id).stream, n < p.sample.sequence
  distinct : ∀ v w p q, v ≠ w → (σ.task v).publication = some p → (σ.task w).publication = some q →
    p.sample.sequence ≠ q.sample.sequence

namespace Ordered

variable {σ : StatsSampler α}

theorem initial : Ordered ({} : StatsSampler α) where
  increasing := fun _ => List.Pairwise.nil
  bounded := by
    intro id n hmem
    cases hmem
  latest := by
    intro s h
    cases h
  issued := by
    intro id hmem
    cases hmem
  nodup := List.nodup_nil
  numbered := by
    intro w p h
    cases h
  addressed := by
    intro w p h
    cases h
  distinct := by
    intro v w p q _ h
    cases h

theorem thin (h : Ordered σ) {id : Nat} {u : Subscriber α}
    (hsub : u.stream.Sublist (σ.subscriber id).stream) : Ordered (σ.setSubscriber id u) := by
  have hall : ∀ id', ((σ.setSubscriber id u).subscriber id').stream.Sublist
      (σ.subscriber id').stream := by
    intro id'
    by_cases heq : id' = id
    · subst heq
      rw [setSubscriber_self]
      exact hsub
    · rw [setSubscriber_of_ne heq]
  refine ⟨fun id' => (h.increasing id').sublist (hall id'), fun id' n hmem => ?_, h.latest, h.issued,
    h.nodup, h.numbered, fun w p hp => ?_, h.distinct⟩
  · exact h.bounded id' n ((hall id').subset hmem)
  · obtain ⟨hnodup, hleft⟩ := h.addressed w p hp
    refine ⟨hnodup, fun id' hmem => ⟨(hleft id' hmem).1, fun n hn => ?_⟩⟩
    exact (hleft id' hmem).2 n ((hall id').subset hn)

theorem goOn (h : Ordered σ) {w : StatsWorker} {task : StatsTask α}
    (hsame : ∀ p, task.publication = some p → ∃ q, (σ.task w).publication = some q
      ∧ p.sample = q.sample ∧ p.left.Sublist q.left) : Ordered (σ.setTask w task) := by
  -- Every sample that is on its way was so before, to no fewer subscribers.
  have hall : ∀ v p, ((σ.setTask w task).task v).publication = some p →
      ∃ q, (σ.task v).publication = some q ∧ p.sample = q.sample ∧ p.left.Sublist q.left := by
    intro v p hp
    by_cases heq : v = w
    · subst heq
      rw [setTask_self] at hp
      exact hsame p hp
    · rw [setTask_of_ne heq] at hp
      exact ⟨p, hp, rfl, List.Sublist.refl _⟩
  refine ⟨h.increasing, h.bounded, h.latest, h.issued, h.nodup, fun v p hp => ?_, fun v p hp => ?_,
    fun v v' p p' hne hp hp' => ?_⟩
  · obtain ⟨q, hq, hsample, -⟩ := hall v p hp
    rw [hsample]
    exact h.numbered v q hq
  · obtain ⟨q, hq, hsample, hleft⟩ := hall v p hp
    obtain ⟨hnodup, hahead⟩ := h.addressed v q hq
    rw [hsample]
    exact ⟨hnodup.sublist hleft, fun id hmem => hahead id (hleft.subset hmem)⟩
  · obtain ⟨q, hq, hsample, -⟩ := hall v p hp
    obtain ⟨q', hq', hsample', -⟩ := hall v' p' hp'
    rw [hsample, hsample']
    exact h.distinct v v' q q' hne hq hq'

theorem turnTo (h : Ordered σ) {w : StatsWorker} {task : StatsTask α} (hnone : task.publication = none) :
    Ordered (σ.setTask w task) := by
  refine h.goOn fun p hp => ?_
  rw [hnone] at hp
  cases hp

theorem removeSubscriber (h : Ordered σ) (id : Nat) : Ordered (σ.removeSubscriber id) :=
  ⟨h.increasing, h.bounded, h.latest, fun id' hmem => h.issued id' (List.mem_of_mem_erase hmem),
    h.nodup.erase id, h.numbered, h.addressed, h.distinct⟩

theorem startLocked (h : Ordered σ) : Ordered σ.startLocked := by
  unfold StatsSampler.startLocked
  dsimp only
  split
  · exact ⟨h.increasing, h.bounded, h.latest, h.issued, h.nodup, h.numbered, h.addressed, h.distinct⟩
  · exact ⟨h.increasing, h.bounded, h.latest, h.issued, h.nodup, h.numbered, h.addressed, h.distinct⟩

theorem record (h : Ordered σ) {L : SamplerLimits} {payload : α} {w : StatsWorker} (locked : Bool)
    (hnone : (σ.task w).publication = none) :
    Ordered ((σ.recordLocked L payload).setTask w
      (.publish ⟨locked, σ.nextSample payload, σ.subscribers⟩)) := by
  have hall : ∀ v p, v ≠ w →
      (((σ.recordLocked L payload).setTask w
        (.publish ⟨locked, σ.nextSample payload, σ.subscribers⟩)).task v).publication = some p →
        (σ.task v).publication = some p := by
    intro v p hne hp
    rwa [setTask_of_ne hne] at hp
  have hself : ∀ p, (((σ.recordLocked L payload).setTask w
        (.publish ⟨locked, σ.nextSample payload, σ.subscribers⟩)).task w).publication = some p →
        p = ⟨locked, σ.nextSample payload, σ.subscribers⟩ := by
    intro p hp
    rw [setTask_self] at hp
    exact (Option.some.inj hp).symm
  refine ⟨h.increasing, fun id n hmem => ?_, fun s hs => ?_, h.issued, h.nodup, fun v p hp => ?_,
    fun v p hp => ?_, fun v v' p p' hne hp hp' => ?_⟩
  · exact Nat.le_succ_of_le (h.bounded id n hmem)
  · change some (σ.nextSample payload) = some s at hs
    obtain rfl := Option.some.inj hs
    exact Nat.le_refl _
  · by_cases heq : v = w
    · subst heq
      rw [hself p hp]
      exact Nat.le_refl _
    · exact Nat.le_succ_of_le (h.numbered v p (hall v p heq hp))
  · by_cases heq : v = w
    · subst heq
      rw [hself p hp]
      exact ⟨h.nodup, fun id hmem => ⟨h.issued id hmem, fun n hn => Nat.lt_succ_of_le (h.bounded id n hn)⟩⟩
    · exact h.addressed v p (hall v p heq hp)
  · have holder : ∀ v p, v ≠ w →
        (((σ.recordLocked L payload).setTask w
          (.publish ⟨locked, σ.nextSample payload, σ.subscribers⟩)).task v).publication = some p →
          p.sample.sequence ≤ σ.sequence := fun v p hne hp => h.numbered v p (hall v p hne hp)
    by_cases heq : v = w
    · subst heq
      have hold := holder v' p' (Ne.symm hne) hp'
      rw [hself p hp]
      exact Nat.ne_of_gt (Nat.lt_succ_of_le hold)
    by_cases heq' : v' = w
    · subst heq'
      have hold := holder v p heq hp
      rw [hself p' hp']
      exact Nat.ne_of_lt (Nat.lt_succ_of_le hold)
    · exact h.distinct v v' p p' hne (hall v p heq hp) (hall v' p' heq' hp')

/-- A sample that is posted in its turn comes after everything in the stream, and before every sample
that is still on its way. -/
theorem publish (h : Ordered σ) {w : StatsWorker} {p : Publication α} {id : Nat} {left : List Nat}
    (htask : σ.task w = .publish p) (hleft : p.left = id :: left) (hturn : σ.InTurn w) :
    Ordered ((σ.setSubscriber id ((σ.subscriber id).post (.enqueue p.sample))).setTask w
      (.publish { p with left := left })) := by
  have hp : (σ.task w).publication = some p := by
    rw [htask]
    rfl
  obtain ⟨hnodup, hahead⟩ := h.addressed w p hp
  rw [hleft] at hnodup hahead
  obtain ⟨hid, hrest⟩ := List.nodup_cons.mp hnodup
  have hnewer := (hahead id (List.mem_cons_self ..)).2
  have hstream : ∀ id', id' ≠ id →
      ((σ.setSubscriber id ((σ.subscriber id).post (.enqueue p.sample))).subscriber id')
        = σ.subscriber id' := fun id' hne => setSubscriber_of_ne hne _ σ
  have hposted : ((σ.setSubscriber id ((σ.subscriber id).post (.enqueue p.sample))).subscriber id).stream
      = (σ.subscriber id).stream ++ [p.sample.sequence] := by
    rw [setSubscriber_self, Subscriber.stream_post]
  have hall : ∀ v q, v ≠ w → (((σ.setSubscriber id ((σ.subscriber id).post (.enqueue p.sample))).setTask w
      (.publish { p with left := left })).task v).publication = some q →
        (σ.task v).publication = some q := by
    intro v q hne hq
    rwa [setTask_of_ne hne] at hq
  have hself : ∀ q, (((σ.setSubscriber id ((σ.subscriber id).post (.enqueue p.sample))).setTask w
      (.publish { p with left := left })).task w).publication = some q → q = { p with left := left } := by
    intro q hq
    rw [setTask_self] at hq
    exact (Option.some.inj hq).symm
  refine ⟨fun id' => ?_, fun id' n hmem => ?_, h.latest, h.issued, h.nodup, fun v q hq => ?_,
    fun v q hq => ?_, fun v v' q q' hne hq hq' => ?_⟩
  · change ((σ.setSubscriber id _).subscriber id').stream.Pairwise (· < ·)
    by_cases heq : id' = id
    · subst heq
      rw [hposted, List.pairwise_append]
      refine ⟨h.increasing id', List.pairwise_singleton _ _, fun n hn m hm => ?_⟩
      rw [List.mem_singleton.mp hm]
      exact hnewer n hn
    · rw [hstream id' heq]
      exact h.increasing id'
  · change n ∈ ((σ.setSubscriber id _).subscriber id').stream at hmem
    by_cases heq : id' = id
    · subst heq
      rw [hposted, List.mem_append, List.mem_singleton] at hmem
      rcases hmem with hold | rfl
      · exact h.bounded id' n hold
      · exact h.numbered w p hp
    · rw [hstream id' heq] at hmem
      exact h.bounded id' n hmem
  · by_cases heq : v = w
    · subst heq
      rw [hself q hq]
      exact h.numbered v p hp
    · exact h.numbered v q (hall v q heq hq)
  · by_cases heq : v = w
    · subst heq
      rw [hself q hq]
      refine ⟨hrest, fun id' hmem => ⟨(hahead id' (List.mem_cons_of_mem _ hmem)).1, fun n hn => ?_⟩⟩
      have hne : id' ≠ id := by
        rintro rfl
        exact hid hmem
      change n ∈ ((σ.setSubscriber id _).subscriber id').stream at hn
      rw [hstream id' hne] at hn
      exact (hahead id' (List.mem_cons_of_mem _ hmem)).2 n hn
    · have hq' := hall v q heq hq
      obtain ⟨hqnodup, hqahead⟩ := h.addressed v q hq'
      refine ⟨hqnodup, fun id' hmem => ⟨(hqahead id' hmem).1, fun n hn => ?_⟩⟩
      change n ∈ ((σ.setSubscriber id _).subscriber id').stream at hn
      by_cases hid' : id' = id
      · subst hid'
        rw [hposted, List.mem_append, List.mem_singleton] at hn
        rcases hn with hold | rfl
        · exact (hqahead id' hmem).2 n hold
        · have hle := hturn p id' left htask hleft v q hq' hmem
          have hne := h.distinct w v p q (Ne.symm heq) hp hq'
          omega
      · rw [hstream id' hid'] at hn
        exact (hqahead id' hmem).2 n hn
  · by_cases heq : v = w
    · subst heq
      rw [hself q hq]
      exact h.distinct v v' p q' hne hp (hall v' q' (Ne.symm hne) hq')
    by_cases heq' : v' = w
    · subst heq'
      rw [hself q' hq']
      exact h.distinct v v' q p hne (hall v q heq hq) hp
    · exact h.distinct v v' q q' hne (hall v q heq hq) (hall v' q' heq' hq')

theorem enroll (h : Ordered σ) {u : Subscriber α} (hincreasing : u.stream.Pairwise (· < ·))
    (hbounded : ∀ n ∈ u.stream, n ≤ σ.sequence) :
    Ordered { σ.setSubscriber σ.nextSubscriberId u with
      nextSubscriberId := σ.nextSubscriberId + 1, subscribers := σ.subscribers ++ [σ.nextSubscriberId] } := by
  have hnew : σ.nextSubscriberId ∉ σ.subscribers := fun hmem =>
    Nat.lt_irrefl _ (h.issued _ hmem)
  refine ⟨fun id => ?_, fun id n hmem => ?_, h.latest, fun id hmem => ?_, ?_, h.numbered, fun w p hp => ?_,
    h.distinct⟩
  · change ((σ.setSubscriber _ u).subscriber id).stream.Pairwise (· < ·)
    by_cases heq : id = σ.nextSubscriberId
    · rw [heq, setSubscriber_self]
      exact hincreasing
    · rw [setSubscriber_of_ne heq]
      exact h.increasing id
  · change n ∈ ((σ.setSubscriber _ u).subscriber id).stream at hmem
    by_cases heq : id = σ.nextSubscriberId
    · rw [heq, setSubscriber_self] at hmem
      exact hbounded n hmem
    · rw [setSubscriber_of_ne heq] at hmem
      exact h.bounded id n hmem
  · rcases List.mem_append.mp hmem with hold | hself
    · exact Nat.lt_succ_of_lt (h.issued id hold)
    · rw [List.mem_singleton.mp hself]
      exact Nat.lt_succ_self _
  · refine List.nodup_append.mpr ⟨h.nodup, List.nodup_singleton _, fun id hid id' hid' heq => hnew ?_⟩
    rw [← List.mem_singleton.mp hid', ← heq]
    exact hid
  · obtain ⟨hnodup, hahead⟩ := h.addressed w p hp
    refine ⟨hnodup, fun id hmem => ⟨Nat.lt_succ_of_lt (hahead id hmem).1, fun n hn => ?_⟩⟩
    have hne : id ≠ σ.nextSubscriberId := Nat.ne_of_lt (hahead id hmem).1
    change n ∈ ((σ.setSubscriber _ u).subscriber id).stream at hn
    rw [setSubscriber_of_ne hne] at hn
    exact (hahead id hmem).2 n hn

theorem subscribe (h : Ordered σ) (L : SamplerLimits) : Ordered (σ.subscribe L) := by
  unfold StatsSampler.subscribe
  split
  · exact h
  split
  · exact h
  · refine startLocked (h.enroll ?_ ?_)
    · rcases hlatest : σ.latest with _ | s
      · exact List.Pairwise.nil
      · exact List.pairwise_singleton _ _
    · intro n hmem
      rcases hlatest : σ.latest with _ | s
      · rw [hlatest] at hmem
        cases hmem
      · rw [hlatest] at hmem
        obtain rfl : n = s.sequence := List.mem_singleton.mp hmem
        exact h.latest s hlatest

theorem step {L : SamplerLimits} {σ' : StatsSampler α} (h : Ordered σ) (hstep : Step L InTurn σ σ') :
    Ordered σ' := by
  cases hstep with
  | subscribe => exact h.subscribe L
  | unsubscribe n id => exact (h.removeSubscriber id).turnTo rfl
  | close n =>
      refine turnTo ?_ rfl
      refine ⟨h.increasing, h.bounded, h.latest, fun id hmem => ?_, List.nodup_nil, h.numbered,
        h.addressed, h.distinct⟩
      cases hmem
  | closeTest w id left =>
      refine h.turnTo ?_
      split
      · rfl
      · rfl
  | closeSet w id left =>
      refine turnTo (h.thin ?_) rfl
      exact List.Sublist.refl (σ.subscriber id).stream
  | closeSignal w id left inLoop =>
      refine turnTo (h.thin ?_) rfl
      split
      · exact List.Sublist.refl _
      split
      · exact Subscriber.stream_signalClosed _
      · rw [Subscriber.stream_post_signalClosed]
  | closeDone w => exact h.turnTo rfl
  | resetHistory =>
      refine ⟨h.increasing, h.bounded, fun s hs => ?_, h.issued, h.nodup, h.numbered, h.addressed,
        h.distinct⟩
      cases hs
  | start => exact h.startLocked
  | sampleOnce n => exact h.turnTo rfl
  | acquire w => exact h.turnTo rfl
  | sampled w payload htask =>
      refine h.record true ?_
      rw [htask]
      rfl
  | failed n => exact h.turnTo rfl
  | record n payload hidle =>
      refine h.record false ?_
      rw [hidle]
      rfl
  | publish w p id left htask hleft hopen hturn => exact h.publish htask hleft hturn
  | publishRaises w p id left htask hleft =>
      refine h.goOn fun q hq => ⟨p, by rw [htask]; rfl, ?_⟩
      obtain rfl := Option.some.inj hq
      rw [hleft]
      exact ⟨rfl, List.sublist_cons_self _ _⟩
  | discard w p id htask =>
      refine (h.removeSubscriber id).goOn fun q hq => ⟨p, ?_, ?_⟩
      · change (σ.task w).publication = some p
        rw [htask]
        rfl
      · obtain rfl := Option.some.inj hq
        exact ⟨rfl, List.Sublist.refl _⟩
  | discarded w p id htask =>
      refine goOn (h.thin ?_) fun q hq => ⟨p, ?_, ?_⟩
      · exact List.Sublist.refl (σ.subscriber id).stream
      · change (σ.task w).publication = some p
        rw [htask]
        rfl
      · obtain rfl := Option.some.inj hq
        exact ⟨rfl, List.Sublist.refl _⟩
  | published w => exact h.turnTo rfl
  | runCallback id callback rest hopen hcallbacks =>
      exact h.thin (Subscriber.stream_runCallback hcallbacks)
  | closeLoop id =>
      refine h.thin ?_
      unfold Subscriber.stream
      exact (List.Sublist.refl _).append ((List.Sublist.refl _).append (List.nil_sublist _))
  | receive id event rest hevents => exact h.thin (Subscriber.stream_receive hevents)
  | samplingFailed t =>
      exact @turnTo α (σ.setPhase t .finish) ⟨h.increasing, h.bounded, h.latest, h.issued, h.nodup,
        h.numbered, h.addressed, h.distinct⟩ _ _ rfl
  | enter t =>
      exact @turnTo α (σ.setPhase t .sample) ⟨h.increasing, h.bounded, h.latest, h.issued, h.nodup,
        h.numbered, h.addressed, h.distinct⟩ _ _ rfl
  | finish t =>
      have hleft : Ordered { σ with thread := if σ.thread = some t then none else σ.thread } :=
        ⟨h.increasing, h.bounded, h.latest, h.issued, h.nodup, h.numbered, h.addressed, h.distinct⟩
      unfold finishLocked
      dsimp only
      split
      · have hstarted := hleft.startLocked
        exact ⟨hstarted.increasing, hstarted.bounded, hstarted.latest, hstarted.issued, hstarted.nodup,
          hstarted.numbered, hstarted.addressed, hstarted.distinct⟩
      · exact ⟨h.increasing, h.bounded, h.latest, h.issued, h.nodup, h.numbered, h.addressed, h.distinct⟩
  | _ => exact ⟨h.increasing, h.bounded, h.latest, h.issued, h.nodup, h.numbered, h.addressed, h.distinct⟩

theorem reachable {L : SamplerLimits} (h : Reachable L InTurn σ) : Ordered σ := by
  induction h with
  | refl => exact .initial
  | tail _ hstep ih => exact ih.step hstep

end Ordered

/-! ## Streams and their thread -/

def received (σ : StatsSampler α) (id : Nat) : List Nat :=
  (σ.subscriber id).received.map Sample.sequence

/-- When every sample is posted in its turn, no stream goes back, and the thread that feeds the streams
runs as long as there is one. -/
theorem streams_increase {L : SamplerLimits} {σ : StatsSampler α} (h : Reachable L InTurn σ) :
    (∀ id, (σ.received id).Pairwise (· < ·))
      ∧ (σ.Settled → σ.closed = false → σ.subscribers ≠ [] →
        σ.stopEvent = false ∧ ∃! t, (σ.phase t).isAlive = true) := by
  refine ⟨fun id => ?_, fun hsettled => (Supervised.reachable h).unique hsettled⟩
  exact ((Ordered.reachable h).increasing id).sublist (List.sublist_append_left _ _)

/-! ## Two runs -/

def oneRequest : StatsSampler Unit :=
  let subscribed := ({} : StatsSampler Unit).subscribe {}
  (subscribed.recordLocked {} ()).setTask (.request 0)
    (.publish ⟨false, subscribed.nextSample (), subscribed.subscribers⟩)

theorem reachable_oneRequest (may : StatsSampler Unit → StatsWorker → Prop) :
    Reachable {} may oneRequest := by
  have hsubscribed : Reachable {} may (({} : StatsSampler Unit).subscribe {}) :=
    .tail .refl (.subscribe _)
  exact hsubscribed.tail (.record _ 0 () rfl)

def oneSample : StatsSampler Unit :=
  let posted := (oneRequest.setSubscriber 1 ((oneRequest.subscriber 1).post (.enqueue ⟨1, ()⟩))).setTask
    (.request 0) (.publish ⟨false, ⟨1, ()⟩, []⟩)
  let queued := posted.setSubscriber 1
    (Subscriber.runCallback (.enqueue ⟨1, ()⟩) { posted.subscriber 1 with callbacks := [] })
  queued.setSubscriber 1
    (Subscriber.receive (.sample ⟨1, ()⟩) { queued.subscriber 1 with events := [] })

theorem reachable_oneSample : Reachable {} InTurn oneSample := by
  have hturn : oneRequest.InTurn (.request 0) := by
    intro p id left hp _ v q hq _
    by_cases hv : v = .request 0
    · rw [hv, hp] at hq
      obtain rfl := Option.some.inj hq
      exact Nat.le_refl _
    · have hidle : oneRequest.task v = .idle := setTask_of_ne hv ..
      rw [hidle] at hq
      cases hq
  have hposted := (reachable_oneRequest InTurn).tail
    (.publish _ (.request 0) ⟨false, ⟨1, ()⟩, [1]⟩ 1 [] rfl rfl rfl hturn)
  exact (hposted.tail (.runCallback _ 1 _ _ rfl rfl)).tail (.receive _ 1 _ _ rfl)

theorem streams_increase_oneSample : (∀ id, (oneSample.received id).Pairwise (· < ·))
    ∧ (oneSample.stopEvent = false ∧ ∃! t, (oneSample.phase t).isAlive = true) := by
  obtain ⟨hincrease, hthread⟩ := streams_increase reachable_oneSample
  refine ⟨hincrease, hthread (fun t => ?_) rfl (List.cons_ne_nil _ _)⟩
  by_cases ht : t = 0
  · rw [ht]
    exact SamplingPhase.noConfusion
  · have hphase : oneSample.phase t = .unborn := Function.update_of_ne ht ..
    rw [hphase]
    exact SamplingPhase.noConfusion

/-- Of two requests that have recorded a sample each, the second one posts before the first. -/
theorem streams_go_back : ¬∀ σ : StatsSampler Unit, Reachable {} Always σ →
    (∀ id, (σ.received id).Pairwise (· < ·))
      ∧ (σ.Settled → σ.closed = false → σ.subscribers ≠ [] →
        σ.stopEvent = false ∧ ∃! t, (σ.phase t).isAlive = true) := by
  intro hall
  have hback : ∃ σ : StatsSampler Unit, Reachable {} Always σ ∧ σ.received 1 = [2, 1] := by
    have hrecorded := (reachable_oneRequest Always).tail (.record _ 1 () rfl)
    have hposted := (hrecorded.tail
      (.publish _ (.request 1) ⟨false, ⟨2, ()⟩, [1]⟩ 1 [] rfl rfl rfl trivial)).tail
      (.publish _ (.request 0) ⟨false, ⟨1, ()⟩, [1]⟩ 1 [] rfl rfl rfl trivial)
    have hqueued := (hposted.tail (.runCallback _ 1 (.enqueue ⟨2, ()⟩) [.enqueue ⟨1, ()⟩] rfl rfl)).tail
      (.runCallback _ 1 (.enqueue ⟨1, ()⟩) [] rfl rfl)
    have hreceived := (hqueued.tail (.receive _ 1 (.sample ⟨2, ()⟩) [.sample ⟨1, ()⟩] rfl)).tail
      (.receive _ 1 (.sample ⟨1, ()⟩) [] rfl)
    exact ⟨_, hreceived, rfl⟩
  obtain ⟨σ, hreachable, hreceived⟩ := hback
  have hincreasing := (hall σ hreachable).1 1
  rw [hreceived] at hincreasing
  exact absurd hincreasing (by decide)

end StatsSampler

end TrexWebui
