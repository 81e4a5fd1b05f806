import TrexWebui.TrafficHardStopSteps
import TrexWebui.TrafficServer

/-!
# The write-ahead laws

What the run theorem says about the calls of the authority: a start and a
relative update are issued at most once for one intent, every call is
covered by a durable record, and the reaper stays within the leases that had
expired when it was called.
-/

namespace TrexWebui

open OracleProgram

section

variable (env : TrafficEnvironment) (store : PersistedDocument) (nonces : Nat)
  (log : List Consultation) (commands : List Command)

/-- The world that a run leads to, from a process that starts with a given file. -/
abbrev reachedWorld : TrafficWorld :=
  (runCommands env (.boot store nonces, log) commands).1

theorem reachedWorld_good (h : store.document.NoncesBelow nonces) :
    Good env store.document (reachedWorld env store nonces log commands) := by
  have hboot : Good env store.document (TrafficWorld.boot store nonces) :=
    @Good.of_no_effects env (TrafficWorld.boot store nonces) h rfl rfl
  exact runCommands_good commands hboot

theorem noncesBelow_empty (bound : Nat) : PersistedDocument.empty.document.NoncesBelow bound :=
  ⟨fun _ h => (nomatch h), fun _ h => (nomatch h), fun _ h => (nomatch h)⟩

/-- Every mutating call is issued while a durable record covers it. -/
theorem issued_covered (h : store.document.NoncesBelow nonces) (r : Rpc) (m : Moment)
    (hr : .rpc r m ∈ (reachedWorld env store nonces log commands).effects) : Covered r m :=
  (reachedWorld_good env store nonces log commands h).covered r m hr

end

/-- The calls of a start of the first default group. -/
theorem issued_covered_default : ∃ r m,
    .rpc r m ∈ (reachedWorld (Server.environment {}) .empty 0 []
      [.snapshot, .startGroup "pair-0" 1 none none]).effects ∧ r.isStart = true
      ∧ Covered r m := by
  have hstarted : (reachedWorld (Server.environment {}) .empty 0 []
      [.snapshot, .startGroup "pair-0" 1 none none]).effects.any (·.startsFor ⟨0⟩) = true := by
    decide +kernel
  obtain ⟨e, he, hstart⟩ := List.any_eq_true.mp hstarted
  cases e with
  | rpc r m =>
      change (r.isStart && _) = true at hstart
      rw [Bool.and_eq_true] at hstart
      exact ⟨r, m, he, hstart.1, issued_covered (Server.environment {}) .empty 0 []
        [.snapshot, .startGroup "pair-0" 1 none none] (noncesBelow_empty 0) r m he⟩
  | wrote m before after moment => cases hstart
  | rejected m before candidate moment => cases hstart

/-- One call of the reaper only stops traffic or removes streams, and only on ports whose
lease had expired in the document it was called with. -/
theorem reaper_isolated (env : TrafficEnvironment) (w : TrafficWorld)
    (log : List Consultation) (now : Time) (hclock : ClockAfter env now)
    (hnonces : w.document.NoncesBelow w.nonces) (hnew : w.effects = []) (r : Rpc) (m : Moment)
    (hr : .rpc r m ∈ (runCommand env (w, log) (.reap (some now))).1.effects) :
    r.isStopOrRemoval = true ∧ r.Within (w.document.expiredPorts now) := by
  have hgood : Good env w.invoke.document w.invoke :=
    Good.of_no_effects hnonces hnew rfl
  have hspec : Spec (Good env w.invoke.document) w.invoke
      (Command.program env (.reap (some now))) (fun _ => RecordedByReaper (some now) w.invoke)
      (RecordedByReaper (some now) w.invoke) :=
    Spec.call (reapExpiredHardStops_spec rfl) (fun _ _ _ h => Spec.pure h) fun _ _ h => h
  have hresult := hspec.run hgood log
  -- the world after the call, whether or not the process ended
  obtain ⟨w', heffects, hgood', t, ht, hrecorded⟩ : ∃ w', (runCommand env (w, log)
      (.reap (some now))).1.effects = w'.effects ∧ Good env w.invoke.document w'
        ∧ RecordedByReaper (some now) w.invoke w' := by
    unfold runCommand
    rcases hrun : Command.program env (.reap (some now)) w.invoke log with ⟨⟨result, w'⟩, log'⟩
    rw [hrun] at hresult
    cases result with
    | ok u => exact ⟨w', rfl, hresult⟩
    | error e =>
        dsimp only
        split
        · exact ⟨w', rfl, hresult⟩
        · exact ⟨w', rfl, hresult⟩
  obtain rfl := ht now rfl
  rw [heffects] at hr
  rcases hrecorded r m hr with hold | hinvocation
  · rw [show w.invoke.effects = [] from hnew] at hold
    cases hold
  · have hisolated := hgood'.isolated r m hr now
    rw [hinvocation] at hisolated
    exact hisolated rfl hclock

/-- The world of a process that starts with the file of a run of the first default group
under a lease of two hundred seconds. -/
def leasedWorld : TrafficWorld :=
  let started := reachedWorld (Server.environment {}) .empty 0 []
    [.snapshot, .startGroup "pair-0" 1 none (some (.ok 200000000))]
  .boot started.store started.nonces

theorem leasedWorld_noncesBelow : leasedWorld.document.NoncesBelow leasedWorld.nonces :=
  (reachedWorld_good (Server.environment {}) .empty 0 []
    [.snapshot, .startGroup "pair-0" 1 none (some (.ok 200000000))]
    (noncesBelow_empty 0)).nonces

/-- The reaper stops that run when its lease is over. -/
theorem reaper_isolated_leased : ∃ r m,
    .rpc r m ∈ (runCommand (Server.environment { initially := .running, clock := 200000000 })
      (leasedWorld, []) (.reap (some 200000000))).1.effects
      ∧ r.isStopOrRemoval = true
      ∧ r.Within (leasedWorld.document.expiredPorts 200000000) := by
  have hreaped : (runCommand
      (Server.environment { initially := .running, clock := 200000000 })
      (leasedWorld, []) (.reap (some 200000000))).1.effects.any (·.isRpc) = true := by
    decide +kernel
  obtain ⟨e, he, hrpc⟩ := List.any_eq_true.mp hreaped
  cases e with
  | rpc r m =>
      exact ⟨r, m, he, reaper_isolated
        (Server.environment { initially := .running, clock := 200000000 }) leasedWorld []
        200000000 (Server.clockAfter (le_refl _)) leasedWorld_noncesBelow rfl r m he⟩
  | wrote m before after moment => cases hrpc
  | rejected m before candidate moment => cases hrpc

end TrexWebui
