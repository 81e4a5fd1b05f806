import TrexWebui.CaptureAcceptance
import TrexWebui.CaptureCooperation
import TrexWebui.CaptureRuns

/-!
# Releasing the ports of captures

`release_ports` tells the server to release what no remaining capture uses,
and writes the ledger afterwards: what was acquired for a removed capture
and is still used goes to the first remaining capture that uses it. The
server has then released the ports already, so a ledger that the store
refuses leaves an entry for ports that are gone. `ReleaseCondition` is
exactly when this does not happen and every port that is handed over is
recorded by one more capture than before.
-/

namespace TrexWebui

open OracleProgram

/-! ## What is handed over -/

namespace CaptureRuntime

/-- No capture is handed a port that it records as acquired already. -/
def NewlyHanded (r : CaptureRuntime) (selected : List CaptureId) : Prop :=
  ∀ p owner, r.Handed selected p owner → p ∉ (r.acquiredPorts.lookup owner).getD []

def holders (r : CaptureRuntime) (selected : List CaptureId) (p : Port) : Finset CaptureId :=
  r.acquiredPorts.keys.toFinset.filter fun id =>
    id ∉ selected ∧ p ∈ (r.acquiredPorts.lookup id).getD []

section

variable {r : CaptureRuntime} {selected : List CaptureId} {p : Port} {id : CaptureId}

theorem mem_holders : id ∈ r.holders selected p ↔
    id ∉ selected ∧ p ∈ (r.acquiredPorts.lookup id).getD [] := by
  unfold holders
  rw [Finset.mem_filter, List.mem_toFinset]
  refine and_iff_right_of_imp fun h => ?_
  rw [OrderedDict.mem_keys_iff]
  cases hlookup : r.acquiredPorts.lookup id with
  | none => rw [hlookup] at h; cases h.2
  | some ports => exact ⟨ports, rfl⟩

theorem holders_afterRelease {owner : CaptureId} (h : r.Handed selected p owner) :
    (r.afterRelease selected).holders selected p = insert owner (r.holders selected p) := by
  ext id
  rw [Finset.mem_insert, mem_holders, mem_holders]
  by_cases hid : id ∈ selected
  · have hne : id ≠ owner := by
      rintro rfl
      exact (portOwner_some h.2).1 hid
    simp [hid, hne]
  · have hmem : p ∈ ((r.afterRelease selected).acquiredPorts.lookup id).getD [] ↔
        p ∈ (r.acquiredPorts.lookup id).getD []
          ∨ (p ∈ r.removedAcquisitions selected ∧ r.portOwner selected p = some id) :=
      mem_acquiredAfterRelease hid
    rw [hmem, h.2]
    simp only [hid, not_false_eq_true, true_and, h.1, Option.some.injEq]
    rw [or_comm, eq_comm]

theorem card_holders_afterRelease {owner : CaptureId} (h : r.Handed selected p owner) :
    ((r.afterRelease selected).holders selected p).card = (r.holders selected p).card + 1 ↔
      p ∉ (r.acquiredPorts.lookup owner).getD [] := by
  rw [holders_afterRelease h]
  have howner := (portOwner_some h.2).1
  by_cases hmem : p ∈ (r.acquiredPorts.lookup owner).getD []
  · have hholder : owner ∈ r.holders selected p := mem_holders.mpr ⟨howner, hmem⟩
    rw [Finset.insert_eq_self.mpr hholder]
    simp [hmem]
  · have hholder : owner ∉ r.holders selected p := fun h => hmem (mem_holders.mp h).2
    rw [Finset.card_insert_of_notMem hholder]
    simp [hmem]

theorem exists_portOwner {ports : List Port} (hid : id ∉ selected)
    (hports : r.ports.lookup id = some ports) (hp : p ∈ ports) :
    ∃ owner, r.portOwner selected p = some owner := by
  cases howner : r.portOwner selected p with
  | some owner => exact ⟨owner, rfl⟩
  | none => exact absurd hp (portOwner_none howner hid hports)

end

end CaptureRuntime

/-! ## The run -/

/-- What `release_ports` reads before its first effect: the authorities of the selected
captures, and which of the ports to release are acquired. -/
def releaseReading (env : CaptureEnvironment) (runtime : CaptureRuntime)
    (captureIds : List CaptureId) : CaptureM (List Port) := do
  let selected := runtime.matchingCaptureIds captureIds
  selected.forM fun id => (assertRuntimeAuthority env id : CaptureM Unit)
  currentlyAcquiredPorts env (runtime.releasedPorts selected)

/-- What a release that succeeds keeps: no released port is in use, each port that is handed
over has one more holder, no holder loses a port, and what was written is valid. -/
structure Conserves (r r' : CaptureRuntime) (selected : List CaptureId)
    (new : List CaptureEffect) : Prop where
  unused : ∀ ports, .rpc (.release ports) ∈ new → ∀ p ∈ ports, ∀ id used,
    r'.ports.lookup id = some used → p ∉ used
  handed : ∀ p ∈ r.removedAcquisitions selected,
    (∃ id used, id ∉ selected ∧ r.ports.lookup id = some used ∧ p ∈ used) →
      (r'.holders selected p).card = (r.holders selected p).card + 1
  kept : ∀ id p, id ∉ selected → p ∈ (r.acquiredPorts.lookup id).getD [] →
    p ∈ (r'.acquiredPorts.lookup id).getD []
  valid : ∀ leases, .wrote leases ∈ new → ∀ l ∈ leases, l.Valid

/-- The ledger of ports is conserved: either nothing was released, or all went well. -/
def ReleaseConserves (env : CaptureEnvironment) (captureIds : List CaptureId) (w : CaptureWorld)
    (log : List CaptureConsultation) : Prop :=
  match (releasePorts env captureIds w log).1 with
  | (.error _, w') => ∀ new, w'.effects = new ++ w.effects → ∀ ports, .rpc (.release ports) ∉ new
  | (.ok _, w') => ∃ new, w'.effects = new ++ w.effects
      ∧ Conserves w.runtime w'.runtime (w.runtime.matchingCaptureIds captureIds) new

/-- When the ledger of ports is conserved, in terms of the ledger and of what the server and
the store answer. -/
inductive ReleaseCondition (env : CaptureEnvironment) (captureIds : List CaptureId)
    (w : CaptureWorld) (log : List CaptureConsultation) : Prop where
  /-- An authority differs, or the process ends. -/
  | unread {e : CaptureError} {log' : List CaptureConsultation}
      (hread : releaseReading env w.runtime captureIds w log = ((.error e, w), log'))
  /-- Nothing is to be released. -/
  | nothing {log' : List CaptureConsultation}
      (hread : releaseReading env w.runtime captureIds w log = ((.ok [], w), log'))
      (hnew : w.runtime.ServiceRestored (w.runtime.matchingCaptureIds captureIds) →
        w.runtime.PreparingSpared (w.runtime.matchingCaptureIds captureIds) →
        StoreWrites env w log' →
        w.runtime.NewlyHanded (w.runtime.matchingCaptureIds captureIds))
  /-- The process ends before the release. -/
  | died {released : List Port} {log' : List CaptureConsultation}
      (hread : releaseReading env w.runtime captureIds w log = ((.ok released, w), log'))
      (hreleased : released ≠ []) (hdead : env.crashes w log' = true)
  /-- The server releases the ports, and the store takes the ledger. -/
  | carried {released : List Port} {log' : List CaptureConsultation}
      {value : (CaptureRpc.release released).Reply}
      (hread : releaseReading env w.runtime captureIds w log = ((.ok released, w), log'))
      (hreleased : released ≠ []) (halive : env.crashes w log' = false)
      (hreply : (env.react w log' (.release released)).1 = .ok value)
      (hrestored : w.runtime.ServiceRestored (w.runtime.matchingCaptureIds captureIds))
      (hspared : w.runtime.PreparingSpared (w.runtime.matchingCaptureIds captureIds))
      (hnew : w.runtime.NewlyHanded (w.runtime.matchingCaptureIds captureIds))
      (hstore : StoreWrites env (w.sent (.release released)
        (env.react w log' (.release released)).2) (.rpc (.release released) :: log'))

section

variable {env : CaptureEnvironment} {w : CaptureWorld} {captureIds : List CaptureId}
  {log : List CaptureConsultation}

theorem currentlyAcquired_answers {ports : List Port} :
    Answers w (currentlyAcquiredPorts env ports) fun released => ∀ p ∈ released, p ∈ ports := by
  unfold currentlyAcquiredPorts
  refine Answers.ite (fun _ => Answers.pure fun _ h => h) fun _ => ?_
  refine Answers.guarded (fun e => Answers.pure fun _ h => h) fun acquired => ?_
  cases acquired with
  | invalid => exact Answers.pure fun _ h => h
  | ports acquired => exact Answers.pure fun p hp => (List.mem_filter.mp hp).1

/-- `release_ports` reads, and then releases and writes. -/
theorem releasePorts_run (env : CaptureEnvironment) (captureIds : List CaptureId)
    (w : CaptureWorld) (log : List CaptureConsultation) :
    (∃ e log', releaseReading env w.runtime captureIds w log = ((.error e, w), log')
        ∧ releasePorts env captureIds w log = ((.error e, w), log'))
      ∨ ∃ released log', releaseReading env w.runtime captureIds w log = ((.ok released, w), log')
        ∧ (∀ p ∈ released,
          p ∈ w.runtime.releasedPorts (w.runtime.matchingCaptureIds captureIds))
        ∧ releasePorts env captureIds w log = (do
            releasePortsForOperation env released
            replaceRuntimeState env
              (w.runtime.afterRelease (w.runtime.matchingCaptureIds captureIds)) : CaptureM Unit)
          w log' := by
  have hruntime : theRuntime w log = (.ok w.runtime, log) := rfl
  have hforM : ∃ outcome log', ((w.runtime.matchingCaptureIds captureIds).forM fun id =>
      (assertRuntimeAuthority env id : CaptureM Unit)) w log = ((outcome, w), log') := by
    have hspec : Spec (fun w' => w' = w) w ((w.runtime.matchingCaptureIds captureIds).forM
        fun id => (assertRuntimeAuthority env id : CaptureM Unit)) (fun _ _ => True)
        fun _ => True :=
      keeps_forM (fun id _ => keeps_query) w
    have hrun := hspec.run rfl log
    rcases hresult : ((w.runtime.matchingCaptureIds captureIds).forM fun id =>
      (assertRuntimeAuthority env id : CaptureM Unit)) w log with ⟨⟨outcome, w'⟩, log'⟩
    rw [hresult] at hrun
    have hsame : w' = w := by cases outcome <;> exact hrun.1
    exact ⟨outcome, log', by rw [hsame]⟩
  obtain ⟨outcome, log₁, hforM⟩ := hforM
  have hrelease : releasePorts env captureIds w log = (do
      (w.runtime.matchingCaptureIds captureIds).forM fun id =>
        (assertRuntimeAuthority env id : CaptureM Unit)
      let released ← currentlyAcquiredPorts env
        (w.runtime.releasedPorts (w.runtime.matchingCaptureIds captureIds))
      releasePortsForOperation env released
      replaceRuntimeState env (w.runtime.afterRelease
        (w.runtime.matchingCaptureIds captureIds)) : CaptureM Unit) w log :=
    Program.query_ok hruntime
  rw [hrelease]
  unfold releaseReading
  cases outcome with
  | error e => exact .inl ⟨e, log₁, Program.bind_error hforM, Program.bind_error hforM⟩
  | ok u =>
      rw [Program.bind_ok hforM, Program.bind_ok hforM]
      rcases hread : currentlyAcquiredPorts env
        (w.runtime.releasedPorts (w.runtime.matchingCaptureIds captureIds)) w log₁
        with ⟨released | released, log₂⟩
      · refine .inl ⟨released, log₂, ?_, Program.query_error hread⟩
        rw [Program.liftM_eq, hread]
      · refine .inr ⟨released, log₂, ?_, currentlyAcquired_answers.elim hread,
          Program.query_ok hread⟩
        rw [Program.liftM_eq, hread]

theorem conserves_iff {r : CaptureRuntime} {selected : List CaptureId} {new : List CaptureEffect}
    (hreleased : ∀ ports, .rpc (.release ports) ∈ new → ∀ p ∈ ports, p ∈ r.releasedPorts selected)
    (hvalid : ∀ leases, .wrote leases ∈ new → ∀ l ∈ leases, l.Valid) :
    Conserves r (r.afterRelease selected) selected new ↔ r.NewlyHanded selected := by
  constructor
  · intro h p owner hhanded
    obtain ⟨howner, used, hused, hp⟩ := portOwner_some hhanded.2
    have hcard := h.handed p hhanded.1 ⟨owner, used, howner, hused, hp⟩
    exact (CaptureRuntime.card_holders_afterRelease hhanded).mp hcard
  · intro h
    refine ⟨fun ports hports p hp id used hused => ?_, fun p hp huser => ?_,
      fun id p hid hp => ?_, hvalid⟩
    · have hfree := hreleased ports hports p hp
      unfold CaptureRuntime.releasedPorts dedupePorts at hfree
      rw [List.mem_eraseDups] at hfree
      have hnone := of_decide_eq_true (List.mem_filter.mp hfree).2
      unfold CaptureRuntime.afterRelease at hused
      dsimp only at hused
      rw [OrderedDict.lookup_without] at hused
      by_cases hid : id ∈ selected
      · rw [if_pos hid] at hused
        cases hused
      · rw [if_neg hid] at hused
        exact portOwner_none hnone hid hused
    · obtain ⟨id, used, hid, hused, hmem⟩ := huser
      obtain ⟨owner, howner⟩ := CaptureRuntime.exists_portOwner hid hused hmem
      exact (CaptureRuntime.card_holders_afterRelease ⟨hp, howner⟩).mpr (h p owner ⟨hp, howner⟩)
    · exact (framed_afterRelease hid).kept p hp

theorem replaceAfterRelease_run {r : CaptureRuntime} (hrecorded : r.Recorded)
    (selected : List CaptureId) (env : CaptureEnvironment) (w : CaptureWorld)
    (log : List CaptureConsultation) :
    (r.ServiceRestored selected ∧ r.PreparingSpared selected ∧ StoreWrites env w log
        ∧ ∃ doc, (replaceRuntimeState env (r.afterRelease selected) w log).1
          = (.ok (), (w.commit doc).assign (r.afterRelease selected)))
      ∨ (¬(r.ServiceRestored selected ∧ r.PreparingSpared selected ∧ StoreWrites env w log)
        ∧ ∃ e w', (replaceRuntimeState env (r.afterRelease selected) w log).1 = (.error e, w')
          ∧ (w' = w ∨ ∃ doc, w' = w.commit doc)) := by
  have hiff : (r.afterRelease selected).Recorded ↔ r.ServiceRestored selected
      ∧ r.PreparingSpared selected := CaptureRuntime.afterRelease_recorded_iff hrecorded
  by_cases hall : r.ServiceRestored selected ∧ r.PreparingSpared selected ∧ StoreWrites env w log
  · obtain ⟨hrestored, hspared, hstore⟩ := hall
    obtain ⟨doc, _, hrun⟩ := replaceRuntimeState_writes (hiff.mpr ⟨hrestored, hspared⟩) hstore
    exact .inl ⟨hrestored, hspared, hstore, doc, by rw [hrun]⟩
  · refine .inr ⟨hall, ?_⟩
    have hspec : Spec (fun _ => True) w (replaceRuntimeState env (r.afterRelease selected))
        (fun _ w' => ∃ doc, WritesLedger w (r.afterRelease selected) doc
          ∧ w' = (w.commit doc).assign (r.afterRelease selected))
        (fun w' => w' = w ∨ ∃ doc, WritesLedger w (r.afterRelease selected) doc
          ∧ w' = w.commit doc) :=
      replaceRuntimeState_spec (fun _ _ _ => trivial) fun _ _ _ => trivial
    have hrun := hspec.run trivial log
    rcases hresult : replaceRuntimeState env (r.afterRelease selected) w log
      with ⟨⟨outcome, w'⟩, log'⟩
    rw [hresult] at hrun
    cases outcome with
    | ok u =>
        obtain ⟨haccepted, hstore⟩ := replaceRuntimeState_returns hresult
        obtain ⟨hrestored, hspared⟩ := hiff.mp haccepted
        exact absurd ⟨hrestored, hspared, hstore⟩ hall
    | error e =>
        refine ⟨e, w', rfl, hrun.2.imp_right ?_⟩
        rintro ⟨doc, _, rfl⟩
        exact ⟨doc, rfl⟩

theorem releaseConserves_error {e : CaptureError} {w' : CaptureWorld}
    (h : (releasePorts env captureIds w log).1 = (.error e, w')) :
    ReleaseConserves env captureIds w log ↔
      ∀ new, w'.effects = new ++ w.effects → ∀ ports, .rpc (.release ports) ∉ new := by
  unfold ReleaseConserves
  rw [h]

theorem releaseConserves_ok {w' : CaptureWorld}
    (h : (releasePorts env captureIds w log).1 = (.ok (), w')) :
    ReleaseConserves env captureIds w log ↔ ∃ new, w'.effects = new ++ w.effects
      ∧ Conserves w.runtime w'.runtime (w.runtime.matchingCaptureIds captureIds) new := by
  unfold ReleaseConserves
  rw [h]

theorem conserves_written {w₁ : CaptureWorld} {doc : PersistedDocument}
    {selected : List CaptureId} (new : List CaptureEffect)
    (hreleased : ∀ ports, .rpc (.release ports) ∈ new →
      ∀ p ∈ ports, p ∈ w.runtime.releasedPorts selected)
    (hunwritten : ∀ leases, .wrote leases ∉ new) (heffects : w₁.effects = new ++ w.effects) :
    (∃ new, ((w₁.commit doc).assign (w.runtime.afterRelease selected)).effects = new ++ w.effects
        ∧ Conserves w.runtime ((w₁.commit doc).assign (w.runtime.afterRelease selected)).runtime
          selected new)
      ↔ w.runtime.NewlyHanded selected := by
  have hafter : ((w₁.commit doc).assign (w.runtime.afterRelease selected)).effects
      = (.wrote doc.document.captureLeases :: new) ++ w.effects := by
    simp [CaptureWorld.assign, CaptureWorld.commit, heffects]
  have hiff : Conserves w.runtime (w.runtime.afterRelease selected) selected
      (.wrote doc.document.captureLeases :: new) ↔ w.runtime.NewlyHanded selected := by
    refine conserves_iff (fun ports hports => ?_) fun leases hleases => ?_
    · rcases List.mem_cons.mp hports with heq | hold
      · cases heq
      · exact hreleased ports hold
    · rcases List.mem_cons.mp hleases with heq | hold
      · cases heq
        exact doc.valid.leases_valid
      · exact absurd hold (hunwritten leases)
  constructor
  · rintro ⟨new', hnew', hconserves⟩
    rw [hafter] at hnew'
    rw [← List.append_cancel_right hnew'] at hconserves
    exact hiff.mp hconserves
  · exact fun hhanded => ⟨_, hafter, hiff.mpr hhanded⟩

/-- Releasing the ports of captures conserves the ledger of ports exactly under this
condition, for every ledger that the store has accepted. -/
theorem release_conserves_iff (hrecorded : w.runtime.Recorded) :
    ReleaseConserves env captureIds w log ↔ ReleaseCondition env captureIds w log := by
  rcases releasePorts_run env captureIds w log with ⟨e, log', hread, hrun⟩ |
    ⟨released, log', hread, hreleased, hrun⟩
  · have hconserves : ReleaseConserves env captureIds w log := by
      rw [releaseConserves_error (by rw [hrun])]
      intro new heffects ports
      rw [List.self_eq_append_left.mp heffects]
      exact List.not_mem_nil
    exact iff_of_true hconserves (.unread hread)
  by_cases hnone : released = []
  · -- Nothing is released: the ledger is written, or the run raises without a release.
    subst hnone
    have hwrite : releasePorts env captureIds w log = replaceRuntimeState env
        (w.runtime.afterRelease (w.runtime.matchingCaptureIds captureIds)) w log' := hrun
    rcases replaceAfterRelease_run hrecorded (w.runtime.matchingCaptureIds captureIds) env w log'
      with ⟨hrestored, hspared, hstore, doc, hok⟩ | ⟨hnot, e, w', herror, hw'⟩
    · rw [releaseConserves_ok (by rw [hwrite, hok]),
        conserves_written [] (fun _ h => nomatch h) (fun _ h => nomatch h) rfl]
      constructor
      · exact fun hnew => .nothing hread fun _ _ _ => hnew
      · rintro (⟨hread'⟩ | ⟨hread', hnew⟩ | ⟨hread', hne, _⟩ | ⟨hread', hne, _, _, _, _, _, _⟩)
        · rw [hread] at hread'
          cases hread'
        · rw [hread] at hread'
          cases hread'
          exact hnew hrestored hspared hstore
        · rw [hread] at hread'
          cases hread'
          exact absurd rfl hne
        · rw [hread] at hread'
          cases hread'
          exact absurd rfl hne
    · refine iff_of_true ?_ (.nothing hread fun hrestored hspared hstore =>
        absurd ⟨hrestored, hspared, hstore⟩ hnot)
      rw [releaseConserves_error (by rw [hwrite, herror])]
      intro new heffects ports hmem
      rcases hw' with rfl | ⟨doc, rfl⟩
      · rw [List.self_eq_append_left.mp heffects] at hmem
        cases hmem
      · have hnew : [.wrote doc.document.captureLeases] = new :=
          List.append_cancel_right heffects
        rw [← hnew, List.mem_singleton] at hmem
        cases hmem
  · have hoperation : releasePortsForOperation env released
        = (command env (.release released) : CaptureM Unit) := if_neg hnone
    by_cases hdead : env.crashes w log' = true
    · refine iff_of_true ?_ (.died hread hnone hdead)
      have hcommand : releasePortsForOperation env released w log'
          = ((.error .crashed, w), log') :=
        (congrFun (congrFun hoperation w) log').trans (command_dead hdead)
      rw [releaseConserves_error (by rw [hrun, Program.bind_error hcommand])]
      intro new heffects ports
      rw [List.self_eq_append_left.mp heffects]
      exact List.not_mem_nil
    have halive : env.crashes w log' = false := by simpa using hdead
    cases hreply : (env.react w log' (.release released)).1 with
    | error message =>
        have hcommand : releasePortsForOperation env released w log'
            = ((.error (.runtime message),
              w.sent (.release released) (env.react w log' (.release released)).2),
              .rpc (.release released) :: log') :=
          (congrFun (congrFun hoperation w) log').trans (command_error halive hreply)
        refine iff_of_false ?_ ?_
        · rw [releaseConserves_error (by rw [hrun, Program.bind_error hcommand])]
          intro h
          exact h [.rpc (.release released)] rfl released (by simp)
        · rintro (⟨hread'⟩ | ⟨hread', _⟩ | ⟨hread', _, hdead'⟩ | ⟨hread', _, _, hreply', _⟩)
          · rw [hread] at hread'
            cases hread'
          · rw [hread] at hread'
            cases hread'
            exact hnone rfl
          · rw [hread] at hread'
            cases hread'
            exact hdead hdead'
          · rw [hread] at hread'
            cases hread'
            rw [hreply] at hreply'
            cases hreply'
    | ok value =>
        have hcommand : releasePortsForOperation env released w log'
            = ((.ok value, w.sent (.release released) (env.react w log' (.release released)).2),
              .rpc (.release released) :: log') :=
          (congrFun (congrFun hoperation w) log').trans (command_ok halive hreply)
        rw [Program.bind_ok hcommand] at hrun
        rcases replaceAfterRelease_run hrecorded (w.runtime.matchingCaptureIds captureIds) env
          (w.sent (.release released) (env.react w log' (.release released)).2)
          (.rpc (.release released) :: log')
          with ⟨hrestored, hspared, hstore, doc, hok⟩ | ⟨hnot, e, w', herror, hw'⟩
        · have hreleases : ∀ ports, CaptureEffect.rpc (.release ports)
                ∈ [CaptureEffect.rpc (.release released)] → ∀ p ∈ ports,
                p ∈ w.runtime.releasedPorts (w.runtime.matchingCaptureIds captureIds) := by
            intro ports hports
            cases List.mem_singleton.mp hports
            exact hreleased
          rw [releaseConserves_ok (by rw [hrun, hok]),
            conserves_written [.rpc (.release released)] hreleases (fun _ h => by simp at h) rfl]
          constructor
          · exact fun hnew => .carried hread hnone halive hreply hrestored hspared hnew hstore
          · rintro (⟨hread'⟩ | ⟨hread', _⟩ | ⟨hread', _, hdead'⟩ | ⟨hread', _, _, _, _, _, hnew, _⟩)
            · rw [hread] at hread'
              cases hread'
            · rw [hread] at hread'
              cases hread'
              exact absurd rfl hnone
            · rw [hread] at hread'
              cases hread'
              exact absurd hdead' hdead
            · exact hnew
        · -- The ports are released already, and the ledger is refused.
          refine iff_of_false ?_ ?_
          · rw [releaseConserves_error (by rw [hrun, herror])]
            intro h
            rcases hw' with rfl | ⟨doc, rfl⟩
            · exact h [.rpc (.release released)] rfl released (by simp)
            · exact h [.wrote doc.document.captureLeases, .rpc (.release released)] rfl released
                (by simp)
          · rintro (⟨hread'⟩ | ⟨hread', _⟩ | ⟨hread', _, hdead'⟩ |
              ⟨hread', _, _, _, hrestored, hspared, _, hstore⟩)
            · rw [hread] at hread'
              cases hread'
            · rw [hread] at hread'
              cases hread'
              exact hnone rfl
            · rw [hread] at hread'
              cases hread'
              exact hdead hdead'
            · rw [hread] at hread'
              cases hread'
              exact hnot ⟨hrestored, hspared, hstore⟩

/-! ## A hand-over that is refused -/

def CaptureEffect.isRelease : CaptureEffect → Bool
  | .rpc (.release _) => true
  | _ => false

def releasedAndRaised (env : CaptureEnvironment) (captureIds : List CaptureId) (w : CaptureWorld)
    (log : List CaptureConsultation) : Bool :=
  match (releasePorts env captureIds w log).1 with
  | (.error _, w') => w.effects.countP (·.isRelease) < w'.effects.countP (·.isRelease)
  | (.ok _, _) => false

theorem not_conserves_of_raised (h : releasedAndRaised env captureIds w log = true) :
    ¬ReleaseConserves env captureIds w log := by
  intro hconserves
  have hkeeps : Keeps (RemovesOnly (fun _ => False) w) (releasePorts env captureIds) :=
    releasePorts_keeps (removesOnly_invariant (fun _ => False) w) fun _ _ => trivial
  have hrun := (hkeeps w).run ⟨[], rfl, fun _ h => nomatch h⟩ log
  unfold releasedAndRaised at h
  unfold ReleaseConserves at hconserves
  rcases hresult : releasePorts env captureIds w log with ⟨⟨outcome, w'⟩, log'⟩
  rw [hresult] at h hconserves hrun
  cases outcome with
  | ok u => cases h
  | error e =>
      obtain ⟨new, heffects, _⟩ := hrun.1
      have hcount := of_decide_eq_true h
      rw [heffects, List.countP_append] at hcount
      have hpositive : 0 < new.countP (·.isRelease) := by omega
      obtain ⟨effect, heffect, hrelease⟩ := List.countP_pos_iff.mp hpositive
      cases effect with
      | wrote leases => cases hrelease
      | rpc r =>
          cases r with
          | release ports => exact hconserves new heffects ports heffect
          | acquire _ | setServiceMode _ _ | startCapture _ | stopCapture _ | removeCapture _
          | removeAllCaptures => cases hrelease

end

/-- A server whose ports and captures cannot be read any more once the ledger has been
written. -/
def faltering (authority : RuntimeAuthorityIdentity) : CaptureEnvironment where
  crashes := fun _ _ => false
  answer := fun w log c =>
    let written := log.any fun
      | .persistState => true
      | _ => false
    match c with
    | .syncPort p =>
      if written then .failed "timeout" else obedientAnswer authority w (.syncPort p)
    | .getCaptureStatus =>
      if written then .error "timeout" else obedientAnswer authority w .getCaptureStatus
    | c => obedientAnswer authority w c
  react := fun w _ r => obedientReact w r

def startedWorld : CaptureWorld :=
  ((CaptureOperation.start ⟨[0, 1], [], 10, "fixed", "", 64⟩).run (obedient labAuthority)
    { store := .empty } []).1.2

/-- A second start, on port 0, has been left behind: its port was acquired already. -/
def preparingWorld : CaptureWorld :=
  ((CaptureOperation.start ⟨[0], [], 10, "fixed", "", 64⟩).run (faltering labAuthority)
    startedWorld []).1.2

theorem startedWorld_reachable : CaptureReachable .any startedWorld :=
  ⟨{ store := .empty }, ⟨rfl, rfl⟩, .tail .refl (.operation _ trivial)⟩

theorem preparingWorld_reachable : CaptureReachable .any preparingWorld := by
  obtain ⟨first, hfresh, hrun⟩ := startedWorld_reachable
  exact ⟨first, hfresh, hrun.tail (.operation _ trivial)⟩

theorem release_conserves_iff_started :
    ReleaseConserves (obedient labAuthority) [.recorder 1] startedWorld [] ↔
      ReleaseCondition (obedient labAuthority) [.recorder 1] startedWorld [] :=
  release_conserves_iff startedWorld_reachable.runSound.recorded

/-- The first capture is stopped while the second start is unresolved. Port 1 is released;
port 0 is handed to the preparing entry, and its lease is refused. -/
theorem release_conserves_fails_preparing : CaptureReachable .any preparingWorld ∧
    ¬ReleaseConserves (obedient labAuthority) [.recorder 1]
      (restoreServiceMode (obedient labAuthority) [.recorder 1] preparingWorld []).1.2 [] :=
  ⟨preparingWorld_reachable, not_conserves_of_raised (by decide +kernel)⟩

end TrexWebui
