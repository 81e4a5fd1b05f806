import TrexWebui.PortConfiguration

/-!
# Port operations leave ports as they found them

An operation changes ports in three ways: it acquires them, it puts them into service mode,
and it turns their multicast mode on. The undoing of the last two only protects the work,
while ports are switched one by one before the work begins. So an operation on one port
always takes back what it did, and an operation on several does unless a port cannot be
switched after an earlier one was (`portOperation_restores_iff`).
-/

namespace TrexWebui

open OracleProgram PortClient

/-! ## Preparations -/

/-- A change that is made before the work of an operation begins. -/
inductive Preparation where
  | service (port : Port)
  | multicast (port : Port)
  deriving DecidableEq

namespace Preparation

variable (client : PortClient)

def answer : Preparation → Except String Unit
  | service p => client.enableService p
  | multicast p => client.enableMulticast p

def apply : Preparation → ClientWorld → ClientWorld
  | service p => ClientWorld.setServiceMode p true
  | multicast p => ClientWorld.setMulticast p true

def undo : Preparation → ClientWorld → ClientWorld
  | service p => ClientWorld.setServiceMode p false
  | multicast p => ClientWorld.setMulticast p false

def enable (x : Preparation) : PortM Unit := perform (x.answer client) x.apply

def applyAll (preparations : List Preparation) (w : ClientWorld) : ClientWorld :=
  preparations.foldl (fun w x => x.apply w) w

def undoAll (preparations : List Preparation) (w : ClientWorld) : ClientWorld :=
  preparations.foldl (fun w x => x.undo w) w

/-- The ports that an operation on `targets` puts into service mode. -/
def services (targets : List Port) (w : ClientWorld) : List Preparation :=
  ((normalizedPorts targets).filter fun p => !(w.ports p).service.enabled).map service

def multicasts (targets : List Port) (wanted : Bool) (w : ClientWorld) : List Preparation :=
  if wanted then
    ((normalizedPorts targets).filter fun p => client.multicastState w p = some false).map
      multicast
  else []

def all (targets : List Port) (wanted : Bool) (w : ClientWorld) : List Preparation :=
  services targets w ++ multicasts client targets wanted w

def Holds (w : ClientWorld) : Preparation → Prop
  | service p => (w.ports p).service.enabled = true
  | multicast p => (w.ports p).multicast = true

theorem holds_apply {x y : Preparation} {w : ClientWorld} :
    (y.Holds (x.apply w)) ↔ y = x ∨ y.Holds w := by
  cases x with
  | service q | multicast q =>
      cases y with
      | service p | multicast p =>
          by_cases h : p = q <;> simp [Holds, apply, ClientWorld.setServiceMode,
            ClientWorld.setMulticast, ClientWorld.update, h]

theorem holds_undo {x y : Preparation} {w : ClientWorld} :
    (y.Holds (x.undo w)) ↔ y ≠ x ∧ y.Holds w := by
  cases x with
  | service q | multicast q =>
      cases y with
      | service p | multicast p =>
          by_cases h : p = q <;> simp [Holds, undo, ClientWorld.setServiceMode,
            ClientWorld.setMulticast, ClientWorld.update, h]

theorem acquired_apply (x : Preparation) (w : ClientWorld) (p : Port) :
    ((x.apply w).ports p).acquired = (w.ports p).acquired := by
  cases x with
  | service q | multicast q =>
      by_cases h : p = q <;>
        simp [apply, ClientWorld.setServiceMode, ClientWorld.setMulticast, ClientWorld.update, h]

theorem acquired_undo (x : Preparation) (w : ClientWorld) (p : Port) :
    ((x.undo w).ports p).acquired = (w.ports p).acquired := by
  cases x with
  | service q | multicast q =>
      by_cases h : p = q <;>
        simp [undo, ClientWorld.setServiceMode, ClientWorld.setMulticast, ClientWorld.update, h]

section

variable (preparations : List Preparation) (w : ClientWorld)

theorem holds_applyAll {y : Preparation} :
    y.Holds (applyAll preparations w) ↔ y ∈ preparations ∨ y.Holds w := by
  induction preparations generalizing w with
  | nil => simp [applyAll]
  | cons x rest ih =>
      rw [applyAll, List.foldl_cons, ← applyAll, ih, holds_apply, List.mem_cons]
      tauto

theorem holds_undoAll {y : Preparation} :
    y.Holds (undoAll preparations w) ↔ y ∉ preparations ∧ y.Holds w := by
  induction preparations generalizing w with
  | nil => simp [undoAll]
  | cons x rest ih =>
      rw [undoAll, List.foldl_cons, ← undoAll, ih, holds_undo, List.mem_cons]
      tauto

theorem acquired_applyAll (p : Port) :
    ((applyAll preparations w).ports p).acquired = (w.ports p).acquired := by
  induction preparations generalizing w with
  | nil => rfl
  | cons x rest ih => exact (ih (x.apply w)).trans (acquired_apply x w p)

theorem acquired_undoAll (p : Port) :
    ((undoAll preparations w).ports p).acquired = (w.ports p).acquired := by
  induction preparations generalizing w with
  | nil => rfl
  | cons x rest ih => exact (ih (x.undo w)).trans (acquired_undo x w p)

end

def call : Preparation → Bool → PortCall
  | service p => .setServiceMode p
  | multicast p => .setMulticast p

theorem calls_applyAll {preparations : List Preparation} {w : ClientWorld} {c : PortCall}
    (h : c ∈ (applyAll preparations w).calls) :
    c ∈ w.calls ∨ ∃ x ∈ preparations, c = x.call true := by
  induction preparations generalizing w with
  | nil => exact .inl h
  | cons x rest ih =>
      rcases ih (w := x.apply w) h with hc | ⟨y, hy, hc⟩
      · have hhead : c = x.call true ∨ c ∈ w.calls := by
          cases x with
          | service p | multicast p => exact List.mem_cons.mp hc
        exact hhead.elim (fun hc => .inr ⟨x, List.mem_cons_self, hc⟩) .inl
      · exact .inr ⟨y, List.mem_cons_of_mem x hy, hc⟩

theorem calls_undoAll {preparations : List Preparation} {w : ClientWorld} {c : PortCall}
    (h : c ∈ (undoAll preparations w).calls) :
    c ∈ w.calls ∨ ∃ x ∈ preparations, c = x.call false := by
  induction preparations generalizing w with
  | nil => exact .inl h
  | cons x rest ih =>
      rcases ih (w := x.undo w) h with hc | ⟨y, hy, hc⟩
      · have hhead : c = x.call false ∨ c ∈ w.calls := by
          cases x with
          | service p | multicast p => exact List.mem_cons.mp hc
        exact hhead.elim (fun hc => .inr ⟨x, List.mem_cons_self, hc⟩) .inl
      · exact .inr ⟨y, List.mem_cons_of_mem x hy, hc⟩

theorem not_holds_of_mem {client : PortClient} {targets : List Port} {wanted : Bool}
    {w : ClientWorld} {x : Preparation} (h : x ∈ all client targets wanted w) : ¬ x.Holds w := by
  rcases List.mem_append.mp h with h | h
  · obtain ⟨p, hp, rfl⟩ := List.mem_map.mp h
    have hoff := (List.mem_filter.mp hp).2
    simpa [Holds] using hoff
  · cases wanted with
    | false => cases h
    | true =>
        obtain ⟨p, hp, rfl⟩ := List.mem_map.mp h
        have hoff := (List.mem_filter.mp hp).2
        by_cases hread : client.multicastReadable p = true <;>
          simp_all [Holds, multicastState]

/-! ## The loops -/

theorem forM_map_filter {α : Type} (items : List Port) (value : Port → α) {skip : Port → Bool}
    {step : Port × α → PortM Unit} {make : Port → Preparation} {m : Preparation → PortM Unit}
    (hskip : ∀ p, skip p = true → step (p, value p) = pure ())
    (hstep : ∀ p, skip p = false → step (p, value p) = m (make p)) :
    (items.map fun p => (p, value p)).forM step
      = ((items.filter fun p => !skip p).map make).forM m := by
  induction items with
  | nil => rfl
  | cons p rest ih =>
      change step (p, value p) >>= (fun _ => (rest.map fun p => (p, value p)).forM step) = _
      rw [ih]
      cases h : skip p with
      | true =>
          rw [hskip p h, List.filter_cons_of_neg (by simp [h])]
          rfl
      | false =>
          rw [hstep p h, List.filter_cons_of_pos (by simp [h])]
          rfl

variable {client : PortClient} {w : ClientWorld} {k : Nat}

theorem perform_ok {answer : Except String Unit} {effect : ClientWorld → ClientWorld}
    (h : answer = .ok ()) : perform answer effect w k = ((.ok (), effect w), k) := by
  subst h
  rfl

theorem perform_error {answer : Except String Unit} {effect : ClientWorld → ClientWorld}
    {message : String} (h : answer = .error message) :
    perform answer effect w k = ((.error message, w), k) := by
  subst h
  rfl

theorem enable_all {preparations : List Preparation}
    (h : ∀ x ∈ preparations, x.answer client = .ok ()) :
    preparations.forM (enable client) w k = ((.ok (), applyAll preparations w), k) := by
  induction preparations generalizing w with
  | nil => rfl
  | cons x rest ih =>
      refine (Program.bind_ok (perform_ok (h x List.mem_cons_self))).trans ?_
      exact ih fun y hy => h y (List.mem_cons_of_mem x hy)

theorem enable_until {done rest : List Preparation} {x : Preparation} {message : String}
    (h : ∀ y ∈ done, y.answer client = .ok ()) (hx : x.answer client = .error message) :
    (done ++ x :: rest).forM (enable client) w k = ((.error message, applyAll done w), k) := by
  induction done generalizing w with
  | nil => exact Program.bind_error (perform_error hx)
  | cons y done ih =>
      refine (Program.bind_ok (perform_ok (h y List.mem_cons_self))).trans ?_
      exact ih fun z hz => h z (List.mem_cons_of_mem y hz)

end Preparation

/-- The undoing calls succeed, and the acquired ports can be read. -/
structure PortClient.Undoes (client : PortClient) : Prop where
  getAcquiredPorts : client.getAcquiredPorts = .ok ()
  release : ∀ ports, client.release ports = .ok ()
  disableService : ∀ p, client.disableService p = .ok ()
  disableMulticast : ∀ p, client.disableMulticast p = .ok ()

namespace Preparation

variable {client : PortClient} {w : ClientWorld} {k : Nat}

def restore (client : PortClient) : Preparation → PortM Unit
  | service p => guarded (fun _ : String => true)
      (perform (client.disableService p) (ClientWorld.setServiceMode p false))
      (fun _ => pure ()) pure
  | multicast p => perform (client.disableMulticast p) (ClientWorld.setMulticast p false)

theorem restore_run (hundo : client.Undoes) (x : Preparation) :
    x.restore client w k = ((.ok (), x.undo w), k) := by
  cases x with
  | service p => exact Program.guarded_ok (perform_ok (hundo.disableService p))
  | multicast p => exact perform_ok (hundo.disableMulticast p)

theorem restore_all (hundo : client.Undoes) (preparations : List Preparation) :
    preparations.forM (restore client) w k = ((.ok (), undoAll preparations w), k) := by
  induction preparations generalizing w with
  | nil => rfl
  | cons x rest ih => exact (Program.bind_ok (restore_run hundo x)).trans ih

/-- The loop of `_enable_service_mode` over all targets. -/
theorem enable_services (targets : List Port) (w : ClientWorld) :
    ((normalizedPorts targets).map fun p => (p, (w.ports p).service)).forM
        (fun (p, state) => client.enableServiceMode p state)
      = (services targets w).forM (enable client) :=
  forM_map_filter _ (fun p => (w.ports p).service) (fun _ h => if_pos h) fun _ h =>
    if_neg (by simp [h])

/-- The loop of `_restore_service_mode` over all targets. -/
theorem restore_services (targets : List Port) (w : ClientWorld) :
    ((normalizedPorts targets).map fun p => (p, (w.ports p).service)).forM
        (fun (p, state) => client.restoreServiceMode p state)
      = (services targets w).forM (restore client) :=
  forM_map_filter _ (fun p => (w.ports p).service) (fun _ h => if_pos h) fun _ h =>
    if_neg (by simp [h])

theorem multicast_loop (step : Port × Option Bool → PortM Unit) (m : Preparation → PortM Unit)
    (hskip : ∀ p state, state ≠ some false → step (p, state) = pure ())
    (hstep : ∀ p, step (p, some false) = m (multicast p)) (targets : List Port) (wanted : Bool)
    (w : ClientWorld) :
    (if wanted then (normalizedPorts targets).map fun p => (p, client.multicastState w p)
        else []).forM step
      = (multicasts client targets wanted w).forM m := by
  cases wanted with
  | false => rfl
  | true =>
      have hon : ∀ p, (!decide (client.multicastState w p = some false)) = true →
          step (p, client.multicastState w p) = pure () :=
        fun p h => hskip p _ (by simpa using h)
      have hoff : ∀ p, (!decide (client.multicastState w p = some false)) = false →
          step (p, client.multicastState w p) = m (multicast p) := by
        intro p h
        have hstate : client.multicastState w p = some false := by simpa using h
        rw [hstate]
        exact hstep p
      simpa [multicasts] using
        forM_map_filter (normalizedPorts targets) (client.multicastState w) hon hoff

end Preparation

/-! ## The frame -/

namespace PortClient

open Preparation

variable {client : PortClient} {w : ClientWorld} {k : Nat} {α : Type}

theorem multicast_states_run {f : List (Port × Option Bool) → PortM α} (targets : List Port)
    (wanted : Bool) :
    ((liftM (if wanted then client.multicastStates targets else pure []) :
        PortM (List (Port × Option Bool))) >>= f) w k
      = f (if wanted then (normalizedPorts targets).map fun p => (p, client.multicastState w p)
        else []) w k := by
  cases wanted <;> rfl

theorem onSwitchedPorts_eq (targets : List Port) (wanted : Bool) (work : PortQuery α) :
    client.onSwitchedPorts targets wanted work w k
      = (((all client targets wanted w).forM (enable client) : PortM Unit) >>= fun _ =>
          ensuring (fun _ : String => false) (liftM work)
            ((multicasts client targets wanted w).forM (restore client) >>= fun _ =>
              (services targets w).forM (restore client))) w k := by
  have hforM : ((all client targets wanted w).forM (enable client) : PortM Unit)
      = (services targets w).forM (enable client) >>= fun _ =>
          (multicasts client targets wanted w).forM (enable client) :=
    List.forM_append
  rw [hforM, bind_assoc, ← enable_services, ← restore_services,
    ← multicast_loop (fun x => client.enableMulticastMode x.1 x.2) (enable client)
      (fun p state h => if_neg h) (fun p => if_pos rfl),
    ← multicast_loop (fun x => client.restoreMulticastMode x.1 x.2) (restore client)
      (fun p state h => if_neg h) (fun p => if_pos rfl)]
  exact multicast_states_run targets wanted

/-- The changes are all made, and taken back behind the work, whatever it does. -/
theorem onSwitchedPorts_all (hundo : client.Undoes) (targets : List Port) (wanted : Bool)
    (work : PortQuery α)
    (hall : ∀ x ∈ all client targets wanted w, x.answer client = .ok ()) :
    ∃ r k', client.onSwitchedPorts targets wanted work w k = ((r,
      undoAll (services targets w) (undoAll (multicasts client targets wanted w)
        (applyAll (all client targets wanted w) w))), k') := by
  rw [onSwitchedPorts_eq, Program.bind_ok (enable_all hall)]
  refine ⟨_, _, Program.ensuring_run (fun _ => rfl) Program.liftM_eq
    ((Program.bind_ok (restore_all hundo _)).trans (restore_all hundo _))⟩

theorem onSwitchedPorts_until (targets : List Port) (wanted : Bool) (work : PortQuery α)
    {done rest : List Preparation} {x : Preparation} {message : String}
    (hsplit : all client targets wanted w = done ++ x :: rest)
    (hdone : ∀ y ∈ done, y.answer client = .ok ()) (hx : x.answer client = .error message) :
    client.onSwitchedPorts targets wanted work w k = ((.error message, applyAll done w), k) := by
  rw [onSwitchedPorts_eq, hsplit, Program.bind_error (enable_until hdone hx)]

end PortClient

/-! ## Ports that are left as they were -/

/-- After the calls `after.calls`, the ports are as before; none that was in service mode or
acquired was disabled or released. -/
structure LeavesPorts (before : Port → ClientPort) (after : ClientWorld) : Prop where
  acquired : ∀ p, (after.ports p).acquired = (before p).acquired
  service : ∀ p, (after.ports p).service.enabled = (before p).service.enabled
  multicast : ∀ p, (after.ports p).multicast = (before p).multicast
  not_disabled : ∀ p, (before p).service.enabled = true →
    .setServiceMode p false ∉ after.calls
  not_released : ∀ p ports, (before p).acquired = true → .release ports ∈ after.calls →
    p ∉ ports

theorem leavesPorts_refl (before : Port → ClientPort) : LeavesPorts before { ports := before } where
  acquired _ := rfl
  service _ := rfl
  multicast _ := rfl
  not_disabled _ _ h := nomatch h
  not_released _ _ _ h := nomatch h

namespace ClientWorld

/-- The acquisition of the ports that have to be acquired, if there are any. -/
def acquireWanted (ports : List Port) (w : ClientWorld) : ClientWorld :=
  if ports = [] then w else w.acquire ports

def releaseWanted (ports : List Port) (w : ClientWorld) : ClientWorld :=
  if ports = [] then w else w.release ports

variable (ports : List Port) (w : ClientWorld)

theorem acquireWanted_port (p : Port) : (w.acquireWanted ports).ports p
    = if p ∈ ports then { w.ports p with acquired := true } else w.ports p := by
  unfold acquireWanted
  by_cases h : ports = []
  · rw [if_pos h, if_neg (by simp [h])]
  · rw [if_neg h]
    rfl

theorem releaseWanted_port (p : Port) : (w.releaseWanted ports).ports p
    = if p ∈ ports then { w.ports p with acquired := false } else w.ports p := by
  unfold releaseWanted
  by_cases h : ports = []
  · rw [if_pos h, if_neg (by simp [h])]
  · rw [if_neg h]
    rfl

theorem holds_acquireWanted {x : Preparation} : x.Holds (w.acquireWanted ports) ↔ x.Holds w := by
  cases x with
  | service p | multicast p =>
      simp only [Preparation.Holds, acquireWanted_port]
      by_cases h : p ∈ ports <;> simp [h]

theorem holds_releaseWanted {x : Preparation} : x.Holds (w.releaseWanted ports) ↔ x.Holds w := by
  cases x with
  | service p | multicast p =>
      simp only [Preparation.Holds, releaseWanted_port]
      by_cases h : p ∈ ports <;> simp [h]

theorem calls_acquireWanted {c : PortCall} (h : c ∈ (w.acquireWanted ports).calls) :
    c ∈ w.calls ∨ c = .acquire ports := by
  unfold acquireWanted at h
  by_cases hports : ports = []
  · rw [if_pos hports] at h
    exact .inl h
  · rw [if_neg hports] at h
    exact (List.mem_cons.mp h).symm

theorem calls_releaseWanted {c : PortCall} (h : c ∈ (w.releaseWanted ports).calls) :
    c ∈ w.calls ∨ c = .release ports := by
  unfold releaseWanted at h
  by_cases hports : ports = []
  · rw [if_pos hports] at h
    exact .inl h
  · rw [if_neg hports] at h
    exact (List.mem_cons.mp h).symm

end ClientWorld

theorem leavesPorts_of {before : Port → ClientPort} {ports : List Port} {w : ClientWorld}
    (hports : ∀ p ∈ ports, (before p).acquired = false)
    (hacquired : ∀ p, (w.ports p).acquired = if p ∈ ports then true else (before p).acquired)
    (hholds : ∀ x : Preparation, x.Holds w ↔ x.Holds { ports := before })
    (hdisabled : ∀ p, (before p).service.enabled = true → .setServiceMode p false ∉ w.calls)
    (hreleased : ∀ released, .release released ∉ w.calls) :
    LeavesPorts before (w.releaseWanted ports) where
  acquired p := by
    rw [ClientWorld.releaseWanted_port]
    by_cases h : p ∈ ports
    · simp [h, hports p h]
    · simp [h, hacquired p]
  service p := Bool.eq_iff_iff.mpr
    ((ClientWorld.holds_releaseWanted ports w).trans (hholds (.service p)))
  multicast p := Bool.eq_iff_iff.mpr
    ((ClientWorld.holds_releaseWanted ports w).trans (hholds (.multicast p)))
  not_disabled p hp h := by
    rcases ClientWorld.calls_releaseWanted ports w h with h | h
    · exact hdisabled p hp h
    · cases h
  not_released p released hp h := by
    rcases ClientWorld.calls_releaseWanted ports w h with h | h
    · exact absurd h (hreleased released)
    · cases h
      intro hmem
      rw [hports p hmem] at hp
      cases hp

/-! ## Operations that are interrupted -/

namespace Preparation

variable {client : PortClient}

def strands (client : PortClient) : List Preparation → Bool
  | [] => false
  | first :: rest =>
    (first.answer client).isOk && rest.any fun x => !(x.answer client).isOk

theorem exists_failing (client : PortClient) (preparations : List Preparation) :
    (∀ x ∈ preparations, x.answer client = .ok ())
      ∨ ∃ done x rest message, preparations = done ++ x :: rest
        ∧ (∀ y ∈ done, y.answer client = .ok ()) ∧ x.answer client = .error message := by
  induction preparations with
  | nil => exact .inl fun x hx => nomatch hx
  | cons y tail ih =>
      cases hy : y.answer client with
      | error message => exact .inr ⟨[], y, tail, message, rfl, List.forall_mem_nil _, hy⟩
      | ok u =>
          rcases ih with hall | ⟨done, x, rest, message, rfl, hdone, hx⟩
          · exact .inl (List.forall_mem_cons.mpr ⟨hy, hall⟩)
          · exact .inr ⟨y :: done, x, rest, message, rfl, List.forall_mem_cons.mpr ⟨hy, hdone⟩, hx⟩

theorem strands_of_all {preparations : List Preparation}
    (h : ∀ x ∈ preparations, x.answer client = .ok ()) : strands client preparations = false := by
  cases preparations with
  | nil => rfl
  | cons first rest =>
      have hrest : ∀ x ∈ rest, (x.answer client).isOk = true := by
        intro x hx
        rw [h x (List.mem_cons_of_mem first hx)]
        rfl
      simpa [strands] using fun _ => hrest

theorem strands_of_failing {done rest : List Preparation} {x : Preparation} {message : String}
    (hdone : ∀ y ∈ done, y.answer client = .ok ()) (hx : x.answer client = .error message) :
    strands client (done ++ x :: rest) = !done.isEmpty := by
  cases done with
  | nil => simp [strands, hx, Except.isOk, Except.toBool]
  | cons first done =>
      simp [strands, hx, hdone first List.mem_cons_self, Except.isOk, Except.toBool]

theorem all_acquireWanted (targets ports : List Port) (wanted : Bool) (w : ClientWorld) :
    all client targets wanted (w.acquireWanted ports) = all client targets wanted w := by
  have hservice : ∀ p, ((w.acquireWanted ports).ports p).service = (w.ports p).service := by
    intro p
    rw [ClientWorld.acquireWanted_port]
    by_cases h : p ∈ ports <;> simp [h]
  have hmulticast : ∀ p, ((w.acquireWanted ports).ports p).multicast = (w.ports p).multicast := by
    intro p
    rw [ClientWorld.acquireWanted_port]
    by_cases h : p ∈ ports <;> simp [h]
  have hstate : ∀ p, client.multicastState (w.acquireWanted ports) p = client.multicastState w p := by
    intro p
    rw [multicastState, hmulticast, multicastState]
  rw [all, services, multicasts, funext hstate, all, services, multicasts]
  simp only [hservice]

end Preparation

namespace PortClient

open Preparation

variable {client : PortClient} {before : Port → ClientPort} {k : Nat} {α : Type}

def acquires (client : PortClient) (before : Port → ClientPort) (targets : List Port) : Bool :=
  (client.portsToAcquire targets { ports := before }).isEmpty
    || (client.acquire (client.portsToAcquire targets { ports := before })).isOk

/-- An operation on `targets` gets to its changes, and they are interrupted. -/
def interrupts (client : PortClient) (before : Port → ClientPort) (targets : List Port)
    (wanted : Bool) : Bool :=
  client.acquires before targets && strands client (all client targets wanted { ports := before })

theorem releaseForOperation_run (hundo : client.Undoes) (ports : List Port) (w : ClientWorld) :
    client.releaseForOperation ports w k = ((.ok (), w.releaseWanted ports), k) := by
  unfold releaseForOperation ClientWorld.releaseWanted
  by_cases h : ports = []
  · rw [if_pos h, if_pos h]
    rfl
  · rw [if_neg h, if_neg h]
    exact Program.guarded_ok (perform_ok (hundo.release ports))

theorem acquireForOperation_ok {targets : List Port} {w : ClientWorld}
    (h : client.portsToAcquire targets w ≠ [] →
      client.acquire (client.portsToAcquire targets w) = .ok ()) :
    client.acquireForOperation targets w k
      = ((.ok (client.portsToAcquire targets w),
          w.acquireWanted (client.portsToAcquire targets w)), k) := by
  change (if client.portsToAcquire targets w = [] then pure []
    else perform _ _ >>= fun _ => pure (client.portsToAcquire targets w) : PortM (List Port)) w k = _
  by_cases hports : client.portsToAcquire targets w = []
  · rw [if_pos hports, ClientWorld.acquireWanted, if_pos hports, hports]
    rfl
  · rw [if_neg hports, ClientWorld.acquireWanted, if_neg hports]
    exact Program.bind_ok (perform_ok (h hports))

theorem acquireForOperation_error {targets : List Port} {w : ClientWorld} {message : String}
    (hports : client.portsToAcquire targets w ≠ [])
    (h : client.acquire (client.portsToAcquire targets w) = .error message) :
    client.acquireForOperation targets w k = ((.error message, w), k) := by
  change (if client.portsToAcquire targets w = [] then pure []
    else perform _ _ >>= fun _ => pure (client.portsToAcquire targets w) : PortM (List Port)) w k = _
  rw [if_neg hports]
  exact Program.bind_error (perform_error h)

theorem onPreparedPorts_refused {targets : List Port} {wanted : Bool} {work : PortQuery α}
    {w : ClientWorld} {message : String} (hports : client.portsToAcquire targets w ≠ [])
    (h : client.acquire (client.portsToAcquire targets w) = .error message) :
    client.onPreparedPorts targets wanted work w k = ((.error message, w), k) :=
  Program.bind_error (acquireForOperation_error hports h)

theorem onPreparedPorts_acquired (hundo : client.Undoes) {targets : List Port} {wanted : Bool}
    {work : PortQuery α} {w w' : ClientWorld} {r : Except String α} {k' : Nat}
    (hacquire : client.portsToAcquire targets w ≠ [] →
      client.acquire (client.portsToAcquire targets w) = .ok ())
    (hinner : client.onSwitchedPorts targets wanted work
      (w.acquireWanted (client.portsToAcquire targets w)) k = ((r, w'), k')) :
    client.onPreparedPorts targets wanted work w k
      = ((r, w'.releaseWanted (client.portsToAcquire targets w)), k') :=
  (Program.bind_ok (acquireForOperation_ok hacquire)).trans
    (Program.ensuring_run (fun _ => rfl) hinner (releaseForOperation_run hundo _ _))

section

variable {ports : List Port}

theorem acquired_acquireWanted (p : Port) :
    ((({ ports := before } : ClientWorld).acquireWanted ports).ports p).acquired
      = if p ∈ ports then true else (before p).acquired := by
  rw [ClientWorld.acquireWanted_port]
  by_cases h : p ∈ ports <;> simp [h]

theorem calls_acquireWanted_before {c : PortCall}
    (h : c ∈ (({ ports := before } : ClientWorld).acquireWanted ports).calls) :
    c = .acquire ports :=
  (ClientWorld.calls_acquireWanted ports _ h).resolve_left fun h => nomatch h

theorem leavesPorts_undone (hports : ∀ p ∈ ports, (before p).acquired = false)
    (made taken rest : List Preparation)
    (hmade : ∀ x ∈ made, ¬ x.Holds { ports := before })
    (hsame : ∀ x, x ∈ made ↔ x ∈ taken ∨ x ∈ rest) :
    LeavesPorts before ((undoAll rest (undoAll taken (applyAll made
      (({ ports := before } : ClientWorld).acquireWanted ports)))).releaseWanted ports) := by
  have hcalls : ∀ c, c ∈ (undoAll rest (undoAll taken (applyAll made
      (({ ports := before } : ClientWorld).acquireWanted ports)))).calls →
      c = .acquire ports ∨ (∃ x ∈ made, c = x.call true) ∨ ∃ x ∈ made, c = x.call false := by
    intro c hc
    rcases calls_undoAll hc with hc | ⟨x, hx, rfl⟩
    · rcases calls_undoAll hc with hc | ⟨x, hx, rfl⟩
      · rcases calls_applyAll hc with hc | ⟨x, hx, rfl⟩
        · exact .inl (calls_acquireWanted_before hc)
        · exact .inr (.inl ⟨x, hx, rfl⟩)
      · exact .inr (.inr ⟨x, (hsame x).mpr (.inl hx), rfl⟩)
    · exact .inr (.inr ⟨x, (hsame x).mpr (.inr hx), rfl⟩)
  refine leavesPorts_of hports (fun p => ?_) (fun x => ?_) (fun p hp hc => ?_) fun released hc => ?_
  · rw [acquired_undoAll, acquired_undoAll, acquired_applyAll, acquired_acquireWanted]
  · rw [holds_undoAll, holds_undoAll, holds_applyAll, ClientWorld.holds_acquireWanted]
    constructor
    · rintro ⟨hrest, htaken, hmem | hholds⟩
      · exact absurd ((hsame x).mp hmem) (by tauto)
      · exact hholds
    · intro hholds
      have hout : x ∉ made := fun hmem => hmade x hmem hholds
      rw [hsame x] at hout
      tauto
  · rcases hcalls _ hc with h | ⟨x, hx, h⟩ | ⟨x, hx, h⟩
    · cases h
    · cases x <;> cases h
    · cases x with
      | service q =>
          cases h
          exact hmade _ hx hp
      | multicast q => cases h
  · rcases hcalls _ hc with h | ⟨x, hx, h⟩ | ⟨x, hx, h⟩
    · cases h
    · cases x <;> cases h
    · cases x <;> cases h

theorem not_leavesPorts_made {made : List Preparation} {x : Preparation} (hx : x ∈ made)
    (hmade : ¬ x.Holds { ports := before }) :
    ¬ LeavesPorts before ((applyAll made
      (({ ports := before } : ClientWorld).acquireWanted ports)).releaseWanted ports) := by
  intro h
  have hholds : x.Holds ((applyAll made
      (({ ports := before } : ClientWorld).acquireWanted ports)).releaseWanted ports) := by
    rw [ClientWorld.holds_releaseWanted, holds_applyAll]
    exact .inl hx
  cases x with
  | service p => exact hmade ((h.service p).symm.trans hholds)
  | multicast p => exact hmade ((h.multicast p).symm.trans hholds)

end

/-- The frame leaves the ports as they were, unless its changes are interrupted. -/
theorem onPreparedPorts_leaves_iff (hundo : client.Undoes) (targets : List Port) (wanted : Bool)
    (work : PortQuery α) :
    LeavesPorts before (client.onPreparedPorts targets wanted work { ports := before } k).1.2
      ↔ client.interrupts before targets wanted = false := by
  have hports : ∀ p ∈ client.portsToAcquire targets { ports := before },
      (before p).acquired = false := by
    intro p hp
    rw [portsToAcquire, hundo.getAcquiredPorts] at hp
    simpa using (List.mem_filter.mp hp).2
  unfold interrupts
  by_cases hacquire : client.portsToAcquire targets { ports := before } ≠ [] →
      client.acquire (client.portsToAcquire targets { ports := before }) = .ok ()
  · -- The ports are acquired; what is left depends on the changes.
    have hacquired : client.acquires before targets = true := by
      unfold acquires
      by_cases hempty : client.portsToAcquire targets { ports := before } = []
      · simp [hempty]
      · simp [hacquire hempty, Except.isOk, Except.toBool]
    rw [hacquired, Bool.true_and]
    have hsame := @all_acquireWanted client targets
      (client.portsToAcquire targets { ports := before }) wanted { ports := before }
    rcases exists_failing client (all client targets wanted { ports := before }) with
      hall | ⟨done, x, rest, message, hsplit, hdone, hx⟩
    · obtain ⟨r, k', hrun⟩ := onSwitchedPorts_all (k := k) hundo targets wanted work
        (hsame ▸ hall)
      rw [onPreparedPorts_acquired hundo hacquire hrun, strands_of_all hall, hsame]
      refine iff_of_true (leavesPorts_undone hports _ _ _ (fun x hx => not_holds_of_mem hx) fun x => ?_) rfl
      rw [← hsame, all, List.mem_append, or_comm]
    · have hrun := onSwitchedPorts_until (k := k) targets wanted work (hsame.trans hsplit) hdone hx
      rw [onPreparedPorts_acquired hundo hacquire hrun, hsplit, strands_of_failing hdone hx]
      cases done with
      | nil =>
          exact iff_of_true (leavesPorts_undone hports [] [] [] (List.forall_mem_nil _) fun x => by simp) rfl
      | cons y done =>
          have hmem : y ∈ all client targets wanted { ports := before } := by simp [hsplit]
          exact iff_of_false (not_leavesPorts_made List.mem_cons_self (not_holds_of_mem hmem))
            Bool.noConfusion
  · -- Acquiring fails, and nothing was changed.
    push Not at hacquire
    obtain ⟨hne, hrefused⟩ := hacquire
    cases hanswer : client.acquire (client.portsToAcquire targets { ports := before }) with
    | ok u => exact absurd hanswer hrefused
    | error message =>
        rw [onPreparedPorts_refused hne hanswer]
        refine iff_of_true (leavesPorts_refl before) ?_
        rw [acquires, List.isEmpty_eq_false_iff.mpr hne, hanswer]
        rfl

theorem interrupts_single (port : Port) : client.interrupts before [port] false = false := by
  unfold interrupts all services multicasts
  have hone : normalizedPorts [port] = [port] := rfl
  rw [hone]
  by_cases h : (before port).service.enabled = true <;> simp [h, strands]

theorem withClientDo_refused {f : Failure} (h : client.admission = .failed f)
    (operation : PortM α) (w : ClientWorld) : (client.withClientDo operation w).2 = w := by
  unfold withClientDo
  rw [h]

theorem withClientDo_admitted {u : Unit} (h : client.admission = .ok u) (operation : PortM α)
    (w : ClientWorld) : (client.withClientDo operation w).2 = (operation w 0).1.2 := by
  unfold withClientDo
  rw [h]
  dsimp only
  split <;> simp_all

end PortClient

/-! ## Requests -/

/-- The operations on ports, with their arguments. -/
inductive PortRequest where
  | configurePortLayer (configuration : LayerConfiguration)
  | resolveArp (ports : Option (List Int)) (retries : Int) (vlan : Option (List Int))
  | scanIpv6Neighbors (ports : Option (List Int)) (timeoutSeconds : Rat)
  | ping (arguments : PingArguments)

namespace PortRequest

def run (client : PortClient) : PortRequest → ClientWorld →
    CallResult PortOperationResult × ClientWorld
  | configurePortLayer c => client.configurePortLayer c
  | resolveArp ports retries vlan => client.resolveArp ports retries vlan
  | scanIpv6Neighbors ports timeoutSeconds => client.scanIpv6Neighbors ports timeoutSeconds
  | ping a => client.ping a

def targetsOf (client : PortClient) (ports : Option (List Port)) : Option (List Port) :=
  match ports with
  | some ports => some ports
  | none => (client.getAllPorts 0).toOption

/-- The operation is admitted with these targets, the ports are acquired, the first change
is made, and a later one fails. Only two operations have several changes to make. -/
def interrupted (client : PortClient) (before : Port → ClientPort) : PortRequest → Bool
  | configurePortLayer _ | ping _ => false
  | resolveArp ports retries vlan =>
    match normalizePortIds ports, normalizeVlan vlan, client.admission with
    | .ok ports, .ok _, .ok () =>
      decide (0 ≤ retries ∧ retries ≤ 10)
        && (targetsOf client ports).any fun targets => client.interrupts before targets false
    | _, _, _ => false
  | scanIpv6Neighbors ports timeoutSeconds =>
    match normalizePortIds ports, client.admission with
    | .ok ports, .ok () =>
      decide (1 / 10 ≤ timeoutSeconds ∧ timeoutSeconds ≤ 30)
        && (targetsOf client ports).any fun targets => client.interrupts before targets true
    | _, _ => false

end PortRequest

namespace PortClient

open PortRequest

variable {client : PortClient} {before : Port → ClientPort} {α : Type}

theorem targetPorts_none (w : ClientWorld) (k : Nat) :
    client.targetPorts none w k = (client.getAllPorts k, k + 1) := by
  change (returned (client.getAllPorts k) : PortQuery (List Port)) w (k + 1) = _
  cases client.getAllPorts k <;> rfl

theorem withClientDo_targets (hundo : client.Undoes) (ports : Option (List Port)) (wanted : Bool)
    (work : List Port → PortQuery α) :
    LeavesPorts before (client.withClientDo (do
        let targets ← liftM (client.targetPorts ports)
        client.onPreparedPorts targets wanted (work targets)) { ports := before }).2
      ↔ client.admission.succeeded = true →
        ((targetsOf client ports).any fun targets => client.interrupts before targets wanted)
          = false := by
  cases hadmission : client.admission with
  | failed f =>
      rw [withClientDo_refused hadmission]
      exact iff_of_true (leavesPorts_refl before) fun h => Bool.noConfusion h
  | ok u =>
      rw [withClientDo_admitted hadmission]
      refine Iff.trans ?_ (forall_prop_of_true rfl).symm
      cases ports with
      | some targets => exact onPreparedPorts_leaves_iff hundo targets wanted (work targets)
      | none =>
          have htargets := @targetPorts_none client { ports := before } 0
          cases hports : client.getAllPorts 0 with
          | error message =>
              rw [hports] at htargets
              change LeavesPorts before (_ : (Except String α × ClientWorld) × Nat).1.2 ↔ _
              rw [Program.query_error htargets, targetsOf, hports]
              exact iff_of_true (leavesPorts_refl before) rfl
          | ok targets =>
              rw [hports] at htargets
              change LeavesPorts before (_ : (Except String α × ClientWorld) × Nat).1.2 ↔ _
              rw [Program.query_ok htargets, targetsOf, hports]
              exact onPreparedPorts_leaves_iff hundo targets wanted (work targets)

theorem withClientDo_single (hundo : client.Undoes) (port : Port) (work : PortQuery α) :
    LeavesPorts before (client.withClientDo (do
        liftM (client.ensurePortExists port)
        client.onPreparedPorts [port] false work) { ports := before }).2 := by
  cases hadmission : client.admission with
  | failed f =>
      rw [withClientDo_refused hadmission]
      exact leavesPorts_refl before
  | ok u =>
      rw [withClientDo_admitted hadmission]
      cases hexists : client.ensurePortExists port { ports := before } 0 with
      | mk r k' =>
          cases r with
          | error message =>
              rw [Program.query_error hexists]
              exact leavesPorts_refl before
          | ok u =>
              rw [Program.query_ok hexists]
              exact (onPreparedPorts_leaves_iff hundo [port] false work).mpr (interrupts_single port)

theorem configurePortLayer_leaves (hundo : client.Undoes) (c : LayerConfiguration) :
    LeavesPorts before (client.configurePortLayer c { ports := before }).2 := by
  simp only [configurePortLayer]
  split
  · exact withClientDo_single hundo _ _
  all_goals exact leavesPorts_refl before

theorem ping_leaves (hundo : client.Undoes) (a : PingArguments) :
    LeavesPorts before (client.ping a { ports := before }).2 := by
  unfold ping
  split
  · split
    · exact leavesPorts_refl before
    · split_ifs
      · exact leavesPorts_refl before
      · exact leavesPorts_refl before
      · exact leavesPorts_refl before
      · exact withClientDo_single hundo _ _
  all_goals exact leavesPorts_refl before

theorem resolveArp_leaves_iff (hundo : client.Undoes) (ports : Option (List Int)) (retries : Int)
    (vlan : Option (List Int)) :
    LeavesPorts before (client.resolveArp ports retries vlan { ports := before }).2
      ↔ (PortRequest.resolveArp ports retries vlan).interrupted client before = false := by
  simp only [resolveArp, interrupted]
  cases normalizePortIds ports with
  | failed f => exact iff_of_true (leavesPorts_refl before) rfl
  | ok targets =>
      cases normalizeVlan vlan with
      | failed f => exact iff_of_true (leavesPorts_refl before) rfl
      | ok tags =>
          simp only
          by_cases hretries : retries < 0 ∨ 10 < retries
          · rw [if_pos hretries]
            refine iff_of_true (leavesPorts_refl before) ?_
            have hout : ¬ (0 ≤ retries ∧ retries ≤ 10) := by omega
            cases client.admission <;> simp [hout]
          · rw [if_neg hretries, withClientDo_targets hundo]
            have hin : 0 ≤ retries ∧ retries ≤ 10 := by omega
            cases client.admission <;> simp [hin, CallResult.succeeded]

theorem scanIpv6Neighbors_leaves_iff (hundo : client.Undoes) (ports : Option (List Int))
    (timeoutSeconds : Rat) :
    LeavesPorts before (client.scanIpv6Neighbors ports timeoutSeconds { ports := before }).2
      ↔ (PortRequest.scanIpv6Neighbors ports timeoutSeconds).interrupted client before = false := by
  simp only [scanIpv6Neighbors, interrupted]
  cases normalizePortIds ports with
  | failed f => exact iff_of_true (leavesPorts_refl before) rfl
  | ok targets =>
      simp only
      by_cases htimeout : timeoutSeconds < 1 / 10 ∨ 30 < timeoutSeconds
      · rw [if_pos htimeout]
        refine iff_of_true (leavesPorts_refl before) ?_
        have hout : ¬ (1 / 10 ≤ timeoutSeconds ∧ timeoutSeconds ≤ 30) := by
          rw [not_and_or, not_le, not_le]
          exact htimeout
        cases client.admission with
        | failed f => rfl
        | ok u => exact Bool.and_eq_false_iff.mpr (.inl (decide_eq_false hout))
      · rw [if_neg htimeout, withClientDo_targets hundo]
        rw [not_or, not_lt, not_lt] at htimeout
        cases client.admission with
        | failed f => exact iff_of_true (fun h => Bool.noConfusion h) rfl
        | ok u =>
            simp only
            rw [decide_eq_true htimeout, Bool.true_and]
            exact forall_prop_of_true rfl

end PortClient

/-- When the undoing calls succeed, an operation leaves every port's service mode, multicast
mode and acquisition as they were, unless it is interrupted between two changes. -/
theorem portOperation_restores_iff (client : PortClient) (request : PortRequest)
    (before : Port → ClientPort) (hundo : client.Undoes) :
    LeavesPorts before (request.run client { ports := before }).2
      ↔ request.interrupted client before = false := by
  cases request with
  | configurePortLayer c => exact iff_of_true (configurePortLayer_leaves hundo c) rfl
  | resolveArp ports retries vlan => exact resolveArp_leaves_iff hundo ports retries vlan
  | scanIpv6Neighbors ports timeoutSeconds =>
      exact scanIpv6Neighbors_leaves_iff hundo ports timeoutSeconds
  | ping a => exact iff_of_true (ping_leaves hundo a) rfl

/-- A client that does everything, but cannot put port 1 into service mode. -/
def refusingClient : PortClient where
  admission := .ok ()
  ipAddress _ := none
  showIp _ := ""
  getAllPorts _ := .ok [0, 1]
  getAcquiredPorts := .ok ()
  acquire _ := .ok ()
  release _ := .ok ()
  enableService p := if p = 1 then .error "port 1 is busy" else .ok ()
  disableService _ := .ok ()
  enableMulticast _ := .ok ()
  disableMulticast _ := .ok ()
  multicastReadable _ := true
  getPortInfo _ _ := .ok []
  portObject _ := true
  setVlan := .ok ()
  setL2Mode := .ok ()
  setL3Mode := .ok ()
  portSetL3Mode _ := .ok ("", true)
  confIpv6 := .ok ()
  scan6 := .ok []
  resolve := .ok ()
  pingIp := .ok (0, 0, 0, 0)

theorem refusingClient_undoes : refusingClient.Undoes where
  getAcquiredPorts := rfl
  release _ := rfl
  disableService _ := rfl
  disableMulticast _ := rfl

/-- The scan on port 0 alone leaves it as it was. -/
theorem portOperation_restores_scan : LeavesPorts (fun _ => {})
    ((PortRequest.scanIpv6Neighbors (some [0]) 3).run refusingClient { ports := fun _ => {} }).2 :=
  (portOperation_restores_iff refusingClient _ (fun _ => {}) refusingClient_undoes).mpr
    (by decide +kernel)

/-- Ports 0 and 1 are out of service mode, and port 1 cannot be switched: the address
resolution releases both, and port 0 stays in service mode. -/
theorem resolveArp_strands_port :
    ¬ ∀ (client : PortClient) (request : PortRequest) (before : Port → ClientPort),
      client.Undoes → LeavesPorts before (request.run client { ports := before }).2 := by
  intro h
  have hleaves := h refusingClient (.resolveArp (some [0, 1]) 0 none) (fun _ => {})
    refusingClient_undoes
  exact absurd (hleaves.service 0) (by decide)

end TrexWebui
