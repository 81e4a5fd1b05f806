import TrexWebui.TrafficWorld

/-!
# Port operations and live state

`port_operations.py`, and the functions of `traffic_runtime.py` that read
the state, the links and the streams of ports through the client. All of
them are queries: acquiring and releasing ports changes the ownership of
the ports on the server, but no traffic.
-/

namespace TrexWebui

open OracleProgram

/-! ## Port lists -/

/-- The loop of `_normalize_port_list`: repeated ports are dropped. -/
def normalizedPorts (values : List Port) : List Port :=
  values.foldl (fun normalized p => if p ∈ normalized then normalized else normalized ++ [p]) []

def normalizePortList : Option (List Port) → CallResult (Option (List Port))
  | none => .ok none
  | some values =>
    if 256 < values.length then
      failure "ports_invalid" "ports must be a list of up to 256 port IDs"
    else if values.all (· ≤ 255) then .ok (some (normalizedPorts values))
    else failure "port_invalid" "port must be an integer between 0 and 255"

theorem foldl_normalized (values acc : List Port) (hacc : acc.Nodup) :
    (∀ p, p ∈ values.foldl (fun normalized p =>
        if p ∈ normalized then normalized else normalized ++ [p]) acc ↔ p ∈ acc ∨ p ∈ values)
      ∧ (values.foldl (fun normalized p =>
        if p ∈ normalized then normalized else normalized ++ [p]) acc).Nodup := by
  induction values generalizing acc with
  | nil => simp [hacc]
  | cons v rest ih =>
      rw [List.foldl_cons]
      by_cases hv : v ∈ acc
      · rw [if_pos hv]
        refine ⟨fun p => ?_, (ih acc hacc).2⟩
        rw [(ih acc hacc).1 p, List.mem_cons]
        constructor
        · rintro (h | h)
          · exact .inl h
          · exact .inr (.inr h)
        · rintro (h | rfl | h)
          · exact .inl h
          · exact .inl hv
          · exact .inr h
      · rw [if_neg hv]
        have hnodup : (acc ++ [v]).Nodup := by
          rw [List.nodup_append]
          refine ⟨hacc, List.nodup_singleton v, fun a ha b hb hab => hv ?_⟩
          rw [List.mem_singleton.mp hb] at hab
          exact hab ▸ ha
        refine ⟨fun p => ?_, (ih _ hnodup).2⟩
        rw [(ih _ hnodup).1 p]
        simp only [List.mem_append, List.mem_cons, List.not_mem_nil, or_false, or_assoc]

@[simp] theorem mem_normalizedPorts {values : List Port} {p : Port} :
    p ∈ normalizedPorts values ↔ p ∈ values := by
  rw [normalizedPorts, (foldl_normalized values [] List.nodup_nil).1]
  simp

theorem normalizePortList_ok {values : Option (List Port)} {ports : Option (List Port)}
    (h : normalizePortList values = .ok ports) : ports = values.map normalizedPorts := by
  cases values with
  | none => exact (CallResult.ok.inj h).symm
  | some values =>
      rw [normalizePortList] at h
      by_cases hlength : 256 < values.length
      · rw [if_pos hlength] at h
        cases h
      · rw [if_neg hlength] at h
        by_cases hrange : values.all (· ≤ 255) = true
        · rw [if_pos hrange] at h
          exact (CallResult.ok.inj h).symm
        · rw [if_neg hrange] at h
          cases h

/-! ## Acquisition -/

section

variable (env : TrafficEnvironment)

def orRaise {α : Type} : Except String α → TrafficQuery α
  | .ok a => pure a
  | .error message => throw (.runtime message)

def operationPorts : Option (List Port) → TrafficQuery (List Port)
  | none => do orRaise (← ask env .getAllPorts)
  | some ports => pure ports

def acquirePortsForOperation (ports : List Port) : TrafficQuery (List Port) := do
  if ports = [] then pure []
  else
    let portsToAcquire :=
      match ← ask env .getAcquiredPorts with
      | .ok acquired => ports.filter (· ∉ acquired)
      | .error _ => ports
    if portsToAcquire = [] then pure []
    else
      orRaise (← ask env (.acquire portsToAcquire))
      pure portsToAcquire

def releasePortsForOperationStrict (ports : List Port) : TrafficQuery Unit := do
  if ports = [] then pure () else orRaise (← ask env (.release ports))

/-! ## Live state -/

def requireSdkResult (result : SdkValue) (operation : String) :
    Except TrafficError Unit :=
  if result.text.isNone then .error (.runtime s!"{operation} returned no success evidence")
  else match result.bad with
  | some detail => .error (.runtime s!"{operation} failed: {detail}")
  | none => if result.truthy then .ok () else .error (.runtime s!"{operation} failed")

def liftExcept {m : Type → Type} [Monad m] [MonadExceptOf TrafficError m] {α : Type} :
    Except TrafficError α → m α
  | .ok a => pure a
  | .error e => throw e

def syncPortState (port : Port) : TrafficQuery Unit := do
  match ← ask env (.syncPort port) with
  | none => throw (.runtime s!"TRex port {port} does not support an explicit state sync")
  | some result =>
    liftExcept (requireSdkResult (← orRaise result) s!"TRex port {port} state sync")

def PortObject.state (port : PortObject) : PortState :=
  if port.isPaused = some true then .paused
  else if port.isTransmitting = some true then .running
  else if port.isActive = some true then .unknown
  else if port.stateName.any fun name => name.toUpper = "IDLE" || name.toUpper = "LOADED" then
    .stopped
  else .unknown

def realPortState (port : Port) : TrafficQuery PortState := do
  match ← ask env (.portObject port) with
  | some (.ok object) => pure object.state
  | some (.error _) | none => pure .unknown

/-- `{key: f(key) for key in keys}` where `f` consults the client. -/
def collect {κ α : Type} [DecidableEq κ] (f : κ → TrafficQuery α) :
    List κ → TrafficQuery (Dict κ α)
  | [] => pure ∅
  | key :: rest => do
    let value ← f key
    let others ← collect f rest
    pure (others.insert key value)

/-- `{port: "unknown" for port in ports}`. -/
def unknownStates (ports : List Port) : Dict Port PortState := .ofKeys ports fun _ => .unknown

def livePortStates (ports : List Port) : TrafficQuery (Dict Port PortState) := do
  match ← ask env .getAllPorts with
  | .error _ => pure (unknownStates ports)
  | .ok actualPorts =>
    if ports.any (· ∉ actualPorts) then pure (unknownStates ports)
    else
      ports.forM (syncPortState env)
      collect (realPortState env) ports

inductive PortLinkState where
  | up | down | unknown
  deriving DecidableEq, Repr

def PortLinkState.text : PortLinkState → String
  | .up => "up"
  | .down => "down"
  | .unknown => "unknown"

/-- `_LINK_UP_VALUES` and `_LINK_DOWN_VALUES`. -/
def LINK_UP_VALUES : List String := ["1", "ACTIVE", "ON", "TRUE", "UP", "YES"]

def LINK_DOWN_VALUES : List String := ["0", "DOWN", "FALSE", "INACTIVE", "NO", "OFF"]

def LinkValue.linkState : LinkValue → PortLinkState
  | .flag b => if b then .up else .down
  | .number n => if n = 1 then .up else if n = 0 then .down else .unknown
  | .text s =>
    let normalized := s.trimAscii.toString.toUpper
    if normalized ∈ LINK_UP_VALUES then .up
    else if normalized ∈ LINK_DOWN_VALUES then .down else .unknown
  | .other => .unknown

/-- `_real_port_links`, as the list of the ports with their links. -/
def realPortLinks (ports : List Port) : TrafficQuery (List (Port × PortLinkState)) := do
  match ← ask env (.getPortInfo ports) with
  | .ok (some records) =>
    pure (ports.mapIdx fun i p => (p, ((records[i]?).getD .other).linkState))
  | .ok none | .error _ => pure (ports.map fun p => (p, .unknown))

def trafficStartPreflight (ports : List Port) : TrafficQuery Unit := do
  match ← ask env .getAllPorts with
  | .error message => throw (.runtime
      s!"cannot determine TRex port inventory before traffic start: {message}")
  | .ok availablePorts =>
    let missing := sortedSet (ports.filter (· ∉ availablePorts))
    raiseIf (missing ≠ []) (TrafficError.value s!"traffic ports do not exist: {missing}")
    ports.forM (syncPortState env)
    let states ← collect (realPortState env) ports
    let blocked := states.items.filter fun (_, state) => state ≠ .stopped
    raiseIf (blocked ≠ []) (TrafficError.runtime
      ("traffic start requires known idle ports; "
        ++ ", ".intercalate (blocked.map fun (p, state) => s!"P{p}={state.text}")))
    let links ← realPortLinks env ports
    let blockedLinks := links.filter fun (_, link) => link ≠ .up
    raiseIf (blockedLinks ≠ []) (TrafficError.runtime
      ("traffic start requires link-up ports; "
        ++ ", ".intercalate (blockedLinks.map fun (p, link) => s!"P{p}={link.text}")))

/-! ## Streams -/

def livePortStreamIds (port : Port) : TrafficQuery (List Nat) := do
  match ← ask env (.syncStreams port) with
  | none => throw (.runtime s!"TRex port {port} cannot provide exact stream evidence")
  | some result => do
    liftExcept (requireSdkResult (← orRaise result) s!"TRex port {port} stream sync")
    match ← ask env (.getAllStreams port) with
    | none => throw (.runtime s!"TRex port {port} cannot provide exact stream evidence")
    | some listing =>
      match ← orRaise listing with
      | none => throw (.runtime s!"TRex port {port} returned invalid stream evidence")
      | some ids =>
        if ∀ id ∈ ids, 0 ≤ id then pure (sortedMembers (ids.image Int.toNat))
        else throw (.runtime s!"TRex port {port} returned an invalid stream id")

def liveStreamIds (ports : List Port) : TrafficQuery (Dict Port (List Nat)) :=
  collect (livePortStreamIds env) ports

end

end TrexWebui
