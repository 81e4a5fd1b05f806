import TrexWebui.CaptureLedger
import TrexWebui.TrafficWorld

/-!
# The world of the capture runtime

`CaptureWorld` is what the process holds (the ledger and the ids of earlier
daemon generations), what its store holds, and the ports and recorders of
the TRex server as the commands of the process have left them.
`CaptureEnvironment` is the oracle for the SDK, the clock, the file system
and the daemon generation; it also says what each command does to the
server, so nothing is assumed of the server here.

The oracle may end the process before each effect and each consultation.
A refusal of the store covers the file system and the size limit of the
file; what the validators refuse is decided by the model.
-/

namespace TrexWebui

open OracleProgram

/-! ## The server -/

/-- What `Port.sync_shared` leaves in the fields of a port. -/
structure ServiceState where
  enabled : Bool
  filtered : Bool := false
  mask : Option Int := none
  deriving DecidableEq, Repr

namespace ServiceState

def boolText (b : Bool) : JsonText := if b then "true" else "false"

/-- `{"enabled": …, "filtered": …, "mask": …}`. -/
def toDict (s : ServiceState) : ServiceStateDict :=
  Dict.ofKeys ["enabled", "filtered", "mask"] fun key =>
    if key = "enabled" then boolText s.enabled
    else if key = "filtered" then boolText s.filtered
    else match s.mask with
      | none => "null"
      | some n => toString n

/-- What `set_service_mode(enabled=…, filtered=False, mask=None)` leaves. -/
def plain (enabled : Bool) : ServiceState where
  enabled := enabled

end ServiceState

/-- A request of `start_capture`. -/
structure CaptureRequest where
  txPorts : List Port
  rxPorts : List Port
  limit : Nat
  mode : String
  bpfFilter : String
  snaplen : Nat

/-- The commands that change the server. -/
inductive CaptureRpc where
  | acquire (ports : List Port)
  | release (ports : List Port)
  | setServiceMode (port : Port) (enabled : Bool)
  | startCapture (request : CaptureRequest)
  | stopCapture (id : Nat)
  | removeCapture (id : Nat)
  | removeAllCaptures

/-- The response of `start_capture`: `none` when it is no object. -/
structure CaptureStartResponse where
  id : Option RawCaptureId

/-- What a command returns: a stop the number of captured packets. -/
def CaptureRpc.Reply : CaptureRpc → Type
  | .startCapture _ => Option CaptureStartResponse
  | .stopCapture _ => Nat
  | .acquire _ | .release _ | .setServiceMode _ _ | .removeCapture _ | .removeAllCaptures => Unit

/-- The server as the commands of the process have left it: the service mode of each
port, the ports that the sessions of this service own, those of the current session, and
the recorders. -/
structure CaptureDaemon where
  service : Port → ServiceState := fun _ => .plain false
  owned : Finset Port := ∅
  session : Finset Port := ∅
  recorders : List CaptureRecord := []

namespace CaptureDaemon

/-- What a command does when the server carries it out. A recorder that `start_capture`
adds is not described. -/
def perform (d : CaptureDaemon) : CaptureRpc → CaptureDaemon
  | .acquire ports =>
    { d with owned := d.owned ∪ ports.toFinset, session := d.session ∪ ports.toFinset }
  | .release ports =>
    { d with owned := d.owned \ ports.toFinset, session := d.session \ ports.toFinset }
  | .setServiceMode port enabled =>
    { d with service := Function.update d.service port (.plain enabled) }
  | .removeCapture id => { d with recorders := d.recorders.filter (·.id ≠ id) }
  | .removeAllCaptures => { d with recorders := [] }
  | .startCapture _ | .stopCapture _ => d

end CaptureDaemon

/-! ## The world -/

inductive CaptureEffect where
  | rpc (call : CaptureRpc)
  | wrote (leases : List CaptureLeaseState)

structure CaptureWorld where
  store : PersistedDocument
  runtime : CaptureRuntime := {}
  staleGenerationCaptureIds : List CaptureId := []
  captureReconciled : Bool := false
  daemon : CaptureDaemon := {}
  nonces : Nat := 0
  effects : List CaptureEffect := []

namespace CaptureWorld

def leases (w : CaptureWorld) : List CaptureLeaseState := w.store.document.captureLeases

def sent (r : CaptureRpc) (daemon : CaptureDaemon) (w : CaptureWorld) : CaptureWorld :=
  { w with daemon := daemon, effects := .rpc r :: w.effects }

def commit (after : PersistedDocument) (w : CaptureWorld) : CaptureWorld :=
  { w with store := after, effects := .wrote after.document.captureLeases :: w.effects }

/-- The assignments to the dictionaries at the end of `_replace_runtime_state`. -/
def assign (r : CaptureRuntime) (w : CaptureWorld) : CaptureWorld := { w with runtime := r }

def draw (w : CaptureWorld) : CaptureWorld := { w with nonces := w.nonces + 1 }

def markStale (ids : List CaptureId) (w : CaptureWorld) : CaptureWorld :=
  { w with staleGenerationCaptureIds := w.staleGenerationCaptureIds ++ ids }

def markReconciled (w : CaptureWorld) : CaptureWorld := { w with captureReconciled := true }

end CaptureWorld

/-! ## The oracle -/

/-- What a port object gives after `sync()`: a field of another type is `none`. -/
inductive PortSyncAnswer where
  | unresolved
  | notSynchronizable
  | failed (error : String)
  | fields (enabled filtered : Option Bool) (mask : Option (Option Int))

/-- The answer of `get_acquired_ports()`; `invalid` when it is no list. -/
inductive AcquiredAnswer where
  | ports (ports : List Int)
  | invalid

/-- The outcome of writing the state file. -/
inductive CaptureWriteOutcome where
  | written
  | refused (message : String)
  | renamedThenFailed (message : String)

/-- What the capture runtime asks of its surroundings. -/
inductive CaptureConsultation where
  | loadState
  | persistState
  | utcNow
  | authority
  | connect
  | getCaptureStatus
  | getAcquiredPorts
  | getAllPorts
  | syncPort (port : Port)
  | fetchPackets (id : Nat)
  | savePackets (id : Nat)
  | rpc (call : CaptureRpc)

/-- The type of an answer; an exception is the error of an `Except`. -/
def CaptureConsultation.Answer : CaptureConsultation → Type
  | .loadState => Option String
  | .persistState => CaptureWriteOutcome
  | .utcNow => Time
  | .authority => Except String RuntimeAuthorityIdentity
  | .connect => Option Failure
  | .getCaptureStatus => Except String RawCaptureStatus
  | .getAcquiredPorts => Except String AcquiredAnswer
  | .getAllPorts => Except String (List Port)
  | .syncPort _ => PortSyncAnswer
  | .fetchPackets _ => Except String Unit
  | .savePackets _ => Except String Unit
  | .rpc _ => Unit

structure CaptureEnvironment where
  /-- The client has a method `acquire`. -/
  canAcquire : Bool := true
  /-- The client has a method `get_acquired_ports`. -/
  canListAcquired : Bool := true
  /-- The process ends here. -/
  crashes : CaptureWorld → List CaptureConsultation → Bool
  answer : CaptureWorld → List CaptureConsultation → (c : CaptureConsultation) → c.Answer
  /-- What a command returns, and the server after it. -/
  react : CaptureWorld → List CaptureConsultation → (r : CaptureRpc) →
    Except String r.Reply × CaptureDaemon

/-- Programs of the capture runtime that write nothing and send no command. -/
abbrev CaptureQuery := Query CaptureError CaptureWorld (List CaptureConsultation)

abbrev CaptureM := Program CaptureError CaptureWorld (List CaptureConsultation)

section Primitives

variable (env : CaptureEnvironment)

def consult (c : CaptureConsultation) : CaptureQuery c.Answer := fun w log =>
  if env.crashes w log then (.error .crashed, log)
  else (.ok (env.answer w log c), c :: log)

def command (r : CaptureRpc) : CaptureM r.Reply := fun w log =>
  if env.crashes w log then ((.error .crashed, w), log)
  else
    let (reply, daemon) := env.react w log r
    match reply with
    | .ok value => ((.ok value, w.sent r daemon), .rpc r :: log)
    | .error message => ((.error (.runtime message), w.sent r daemon), .rpc r :: log)

/-- An `Except` of the pure part, raised. -/
def raised {m : Type → Type} [Monad m] [MonadExceptOf CaptureError m] {α : Type} :
    Except CaptureError α → m α
  | .ok a => pure a
  | .error e => throw e

def answered {α : Type} (q : CaptureQuery (Except String α)) : CaptureQuery α := do
  match ← q with
  | .ok a => pure a
  | .error message => throw (.runtime message)

/-- The dictionaries of `self`. -/
def theRuntime : CaptureQuery CaptureRuntime := Query.asks CaptureWorld.runtime

/-- `self._runtime_authority()`. -/
def runtimeAuthority : CaptureQuery RuntimeAuthorityIdentity :=
  answered (consult env .authority)

/-- `client.get_capture_status()`. -/
def getCaptureStatus : CaptureQuery RawCaptureStatus := answered (consult env .getCaptureStatus)

/-- `uuid.uuid4()`: the identifiers of one process history never repeat. -/
def freshCaptureUuid : CaptureM Uuid := fun w log => ((.ok ⟨w.nonces⟩, w.draw), log)

/-! ## The store -/

def theStore : CaptureQuery PersistedDocument := Query.asks CaptureWorld.store

/-- The document with these leases, and what the store stamps on it. -/
def stampLeases (current : RuntimeStateDocument) (leases : List CaptureLeaseState)
    (now : Time) : RuntimeStateDocument :=
  { current with
    captureLeases := leases, revision := current.revision + 1, updatedAt := some now }

/-- `self._state_store.update(replace_capture_leases)`. -/
def updateLeases (leases : List CaptureLeaseState) : CaptureM Unit := do
  match ← consult env .loadState with
  | some message => throw (.runtimeState message)
  | none => do
    let current ← theStore
    let updated := stampLeases current.document leases (← consult env .utcNow)
    if h : updated.Valid then
      match ← consult env .persistState with
      | .refused message => throw (.runtimeState s!"cannot persist runtime state: {message}")
      | .renamedThenFailed message => do
        Program.modify (·.commit ⟨updated, h⟩)
        throw (.runtimeState s!"cannot persist runtime state: {message}")
      | .written => Program.modify (·.commit ⟨updated, h⟩)
    else throw (.validation "runtime state document is invalid")

/-- `_replace_runtime_state`: the store first, then the dictionaries. -/
def replaceRuntimeState (candidate : CaptureRuntime) : CaptureM Unit := do
  let leases ← raised candidate.captureLeases
  updateLeases env leases
  Program.modify (·.assign candidate)

end Primitives

def statusOf (recorders : List CaptureRecord) : RawCaptureStatus :=
  .listing (recorders.map fun record => some ⟨some (.number record.id), record.filter⟩)

end TrexWebui
