import TrexWebui.OracleProgram
import TrexWebui.RuntimeStateSize
import TrexWebui.TrafficMutations

/-!
# The world of the traffic authority

What the authority runs against. `TrafficWorld` is what its process and its
store hold, with the list of the effects it has had so far: the mutating
RPCs it issued and the documents it wrote. `TrafficEnvironment` is
everything else: the settings of the service, and an oracle for the SDK,
the clocks, the file system and the daemon. The oracle sees the whole
world and all earlier consultations, so it may be any TRex server; and
before each effect or consultation it may end the process.

An effect is recorded with the moment at which it happened: the durable
document, the authority read last, and the operation it belongs to. The
programs never read these records.
-/

namespace TrexWebui

open OracleProgram

/-! ## Results -/

/-- The dictionary that the hard-stop paths return; an absent key is `none`. -/
structure HardStopReport where
  checkedAt : Time
  attempted : Option Bool := none
  sessionId : Option Uuid := none
  ports : List Port := []
  rpcPorts : Option (List Port) := none
  stopped : Option Bool := none
  statePersisted : Option Bool := none
  intentNonce : Option Uuid := none
  supersededIntent : Option Uuid := none
  pendingIntentRetained : Option Uuid := none
  recoveryError : Option String := none
  session : Option TrafficSessionState := none

/-- The `data` of a failed call. -/
inductive FailureData where
  | hardStop (report : HardStopReport)
  | budget (operation : String) (rpcCount : Nat) (remaining required : Int)

structure Failure where
  blocker : Option String
  error : Option String
  data : Option FailureData := none

/-- `error or blocker or default`. -/
def Failure.detail (f : Failure) (default : String) : String :=
  match f.error.filter (· ≠ "") with
  | some error => error
  | none => (f.blocker.filter (· ≠ "")).getD default

/-- `TrexCallResult`. -/
inductive CallResult (α : Type) where
  | ok (data : α)
  | failed (f : Failure)

def failure {α : Type} (blocker error : String) (data : Option FailureData := none) :
    CallResult α :=
  .failed { blocker := some blocker, error := some error, data := data }

def CallResult.succeeded {α : Type} : CallResult α → Bool
  | .ok _ => true
  | .failed _ => false

/-! ## The SDK -/

/-- A value returned by an SDK command: its text, or none for `None`. -/
structure SdkValue where
  text : Option String := some "ok"
  bad : Option String := none
  truthy : Bool := true

/-- The local view of a port: an absent method is `none`. -/
structure PortObject where
  isPaused : Option Bool := none
  isTransmitting : Option Bool := none
  isActive : Option Bool := none
  stateName : Option String := none

/-- The link field of a port record. -/
inductive LinkValue where
  | flag (b : Bool)
  | number (n : Int)
  | text (s : String)
  | other

/-- The mutating calls on the client; `none` stands for all ports. -/
inductive Rpc where
  | start (ports : Option (List Port)) (multiplier : String) (duration : Decimal)
      (force total synchronized : Bool)
  | stop (ports : Option (List Port))
  | pause (ports : Option (List Port))
  | resume (ports : Option (List Port))
  | update (ports : Option (List Port)) (multiplier : String) (force total : Bool)
  | addProfile (path : String) (ports : Option (List Port)) (tunables : Dict String JsonText)
  | removeAllStreams (ports : Option (List Port))
  | removeStreams (streamIds : List Nat) (ports : Option (List Port))

namespace Rpc

def ports : Rpc → Option (List Port)
  | .start ports _ _ _ _ _ | .stop ports | .pause ports | .resume ports
  | .update ports _ _ _ | .addProfile _ ports _ | .removeAllStreams ports
  | .removeStreams _ ports => ports

def isStart : Rpc → Bool
  | .start _ _ _ _ _ _ => true
  | _ => false

def isUpdate : Rpc → Bool
  | .update _ _ _ _ => true
  | _ => false

def isStop : Rpc → Bool
  | .stop _ => true
  | _ => false

def isStopOrRemoval : Rpc → Bool
  | .stop _ | .removeAllStreams _ | .removeStreams _ _ => true
  | _ => false

/-- The RPC names its ports, and all of them are among `allowed`. -/
def Within (r : Rpc) (allowed : List Port) : Prop :=
  ∃ ports, r.ports = some ports ∧ ∀ p ∈ ports, p ∈ allowed

theorem Within.mono {r : Rpc} {allowed allowed' : List Port} (h : r.Within allowed)
    (hsub : ∀ p ∈ allowed, p ∈ allowed') : r.Within allowed' := by
  obtain ⟨ports, hports, hmem⟩ := h
  exact ⟨ports, hports, fun p hp => hsub p (hmem p hp)⟩

end Rpc

/-! ## The world -/

/-- The operation that is running: the observation time of a call of the reaper, and
the document that was persisted when the operation was invoked. -/
structure Invocation where
  reapedAt : Option Time := none
  store : PersistedDocument

/-- When an effect happened. -/
structure Moment where
  document : RuntimeStateDocument
  authority : Option RuntimeAuthorityIdentity
  invocation : Invocation

inductive Effect where
  | rpc (call : Rpc) (moment : Moment)
  | wrote (mutation : Mutation) (before after : PersistedDocument) (moment : Moment)
  | rejected (mutation : Mutation) (before : PersistedDocument)
      (candidate : RuntimeStateDocument) (moment : Moment)

structure TrafficWorld where
  store : PersistedDocument
  ownedSessionId : Option Uuid := none
  authority : Option RuntimeAuthorityIdentity := none
  nonces : Nat := 0
  invocation : Invocation
  effects : List Effect := []

namespace TrafficWorld

def document (w : TrafficWorld) : RuntimeStateDocument := w.store.document

def moment (w : TrafficWorld) : Moment := ⟨w.document, w.authority, w.invocation⟩

def record (e : Effect) (w : TrafficWorld) : TrafficWorld :=
  { w with effects := e :: w.effects }

def commit (m : Mutation) (after : PersistedDocument) (w : TrafficWorld) : TrafficWorld :=
  { w with store := after, effects := .wrote m w.store after w.moment :: w.effects }

def own (id : Option Uuid) (w : TrafficWorld) : TrafficWorld := { w with ownedSessionId := id }

def readAuthority (a : RuntimeAuthorityIdentity) (w : TrafficWorld) : TrafficWorld :=
  { w with authority := some a }

def observe (now : Time) (w : TrafficWorld) : TrafficWorld :=
  { w with invocation := { w.invocation with reapedAt := some now } }

def draw (w : TrafficWorld) : TrafficWorld := { w with nonces := w.nonces + 1 }

end TrafficWorld

/-! ## The oracle -/

structure TrexConfig where
  portLimit : Nat
  interfaces : List String := []

inductive WriteOutcome where
  | written
  | failed (message : String)
  | renamedThenFailed (message : String)

/-- What the authority asks of its surroundings. -/
inductive Consultation where
  | loadState
  | persistState
  | utcNow
  | clock
  | authority
  | config
  | resolveProfile (path : String)
  | profileSha256 (path : String)
  | connect
  | getAllPorts
  | syncPort (port : Port)
  | portObject (port : Port)
  | getPortInfo (ports : List Port)
  | getAcquiredPorts
  | acquire (ports : List Port)
  | release (ports : List Port)
  | syncStreams (port : Port)
  | getAllStreams (port : Port)
  | rpc (call : Rpc)

/-- The type of an answer. A method that the port object lacks answers `none`; an
exception of the SDK or the file system is the error of an `Except`. -/
def Consultation.Answer : Consultation → Type
  | .loadState => Option String
  | .persistState => WriteOutcome
  | .utcNow => Time
  | .clock => Time
  | .authority => Except String RuntimeAuthorityIdentity
  | .config => Except String TrexConfig
  | .resolveProfile _ => Except Failure String
  | .profileSha256 _ => Except String Sha256
  | .connect => Option Failure
  | .getAllPorts => Except String (List Port)
  | .syncPort _ => Option (Except String SdkValue)
  | .portObject _ => Option (Except String PortObject)
  | .getPortInfo _ => Except String (Option (List LinkValue))
  | .getAcquiredPorts => Except String (List Port)
  | .acquire _ => Except String Unit
  | .release _ => Except String Unit
  | .syncStreams _ => Option (Except String SdkValue)
  | .getAllStreams _ => Option (Except String (Option (Finset Int)))
  | .rpc _ => Except String SdkValue

/-- The settings of the service and its surroundings. -/
structure TrafficEnvironment where
  host : String
  syncPort : Nat
  asyncPort : Nat
  scapyPort : Nat
  clientName : String
  connectTimeoutSeconds : Nat
  daemonSupervisor : DaemonSupervisor
  configPath : String
  /-- The process ends here. -/
  crashes : TrafficWorld → List Consultation → Bool
  answer : TrafficWorld → List Consultation → (c : Consultation) → c.Answer

/-- Programs of the traffic authority that write nothing and issue no RPC. -/
abbrev TrafficQuery := Query TrafficError TrafficWorld (List Consultation)

abbrev TrafficM := Program TrafficError TrafficWorld (List Consultation)

section Primitives

variable (env : TrafficEnvironment)

def ask (c : Consultation) : TrafficQuery c.Answer := fun w log =>
  if env.crashes w log then (.error .crashed, log)
  else (.ok (env.answer w log c), c :: log)

/-- Issue a mutating RPC: it is recorded whatever the client reports. -/
def issue (r : Rpc) : TrafficM SdkValue := fun w log =>
  if env.crashes w log then ((.error .crashed, w), log)
  else
    let issued := w.record (.rpc r w.moment)
    match env.answer issued log (.rpc r) with
    | .ok value => ((.ok value, issued), .rpc r :: log)
    | .error message => ((.error (.runtime message), issued), .rpc r :: log)

/-- `uuid.uuid4()`: the identifiers of one process history never repeat. -/
def freshUuid : TrafficM Uuid := fun w log => ((.ok ⟨w.nonces⟩, w.draw), log)

/-- Set `self._owned_session_id`. -/
def setOwned (id : Option Uuid) : TrafficM Unit := Program.modify (·.own id)

/-- Read `self._owned_session_id`. -/
def ownedSession : TrafficQuery (Option Uuid) := Query.asks TrafficWorld.ownedSessionId

/-- `self._clock()`. -/
def clock : TrafficQuery Time := ask env .clock

/-- `utc_now_iso()`. -/
def utcNowIso : TrafficQuery Time := ask env .utcNow

/-- `self._runtime_authority.current()`. -/
def currentAuthority : TrafficM RuntimeAuthorityIdentity := do
  match ← ask env .authority with
  | .error message => throw (.plain message)
  | .ok authority => do
    Program.modify (·.readAuthority authority)
    pure authority

/-! ## The store -/

def load : TrafficQuery RuntimeStateDocument := do
  match ← ask env .loadState with
  | some message => throw (.plain message)
  | none =>
    Query.asks TrafficWorld.document

/-- `RuntimeStateStore._write_unlocked`: the new file replaces the old one or does
not, and a failure to sync the directory is reported after the replacement. -/
def writeUnlocked (m : Mutation) (state : PersistedDocument) : TrafficM Unit := do
  raiseIf (¬state.document.Fits)
    (TrafficError.plain "runtime state exceeds the maximum supported size")
  match ← ask env .persistState with
  | .failed message => throw (.plain s!"cannot persist runtime state: {message}")
  | .renamedThenFailed message => do
    Program.modify (·.commit m state)
    throw (.plain s!"cannot persist runtime state: {message}")
  | .written => Program.modify (·.commit m state)

/-- The candidate with the revision and the time that the store stamps on it. -/
def stamp (current candidate : RuntimeStateDocument) (now : Time) : RuntimeStateDocument :=
  { candidate with revision := current.revision + 1, updatedAt := some now }

/-- `RuntimeStateStore.update`. A candidate that its validators refuse is recorded
before the `ValidationError` is raised. -/
def storeUpdate (m : Mutation) : TrafficM RuntimeStateDocument := do
  let current ← load env
  match m.apply current with
  | .error e => throw e
  | .ok none => pure current
  | .ok (some candidate) =>
    let updated := stamp current candidate (← utcNowIso env)
    if h : updated.Valid then do
      writeUnlocked env m ⟨updated, h⟩
      pure updated
    else do
      Program.modify fun w => w.record (.rejected m w.store updated w.moment)
      throw (.validation "runtime state document is invalid")

end Primitives

end TrexWebui
