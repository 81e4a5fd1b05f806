import TrexWebui.OracleProgram
import TrexWebui.ReleaseJournal

/-!
# The world of the release engine

`EngineState` is what a transaction can change: the journal, the two
selectors, the release store, the backups under the state root and the files
of the host that a release owns. Everything that the engine does to it is one
`EngineEffect`, and the world keeps the trace of them, each with the state
before it.

`EngineEnvironment` is the oracle: it answers every check that the engine
makes of the file system and of systemd, it says how each effect ends, and it
may end the process before any of them.
-/

namespace TrexWebui.ReleaseEngine

open PyStr PyJson Checks OracleProgram

/-! ## Effects -/

/-- What stands at the path of a host artifact. -/
inductive HostNode where
  | file (uid gid mode nlink : Nat) (content : Bytes)
  | symlink (uid gid mode nlink : Nat) (target : Str)
  | special (uid gid mode nlink : Nat)
  deriving DecidableEq

namespace HostNode

def uid : HostNode → Nat
  | file uid _ _ _ _ => uid
  | symlink uid _ _ _ _ => uid
  | special uid _ _ _ => uid

def nlink : HostNode → Nat
  | file _ _ _ nlink _ => nlink
  | symlink _ _ _ nlink _ => nlink
  | special _ _ _ nlink => nlink

end HostNode

inductive Selector where
  | current
  | previous
  deriving DecidableEq, Repr

/-- The effects of the engine. A replacement by a rename is one effect, and so is a command
of systemd. -/
inductive EngineEffect where
  | writeJournal (t : Transaction)
  | select (selector : Selector) (digest : Option Str)
  | publish (digest : Str)
  | removeRelease (digest : Str)
  | writeBackup (name : Str) (content : Bytes)
  | removeBackup (name : Str)
  | replaceArtifact (path : Str) (node : Option HostNode)
  | restoreBoundary (record : NativeBoundary)
  | stop (force : Bool) (units : List Str)
  | start (unit : Str)
  | enable (unit : Str)
  | daemonReload

/-! ## The world -/

structure EngineState where
  journal : Option Transaction := none
  current : Option Str := none
  previous : Option Str := none
  /-- The digests that the release store has a directory of. -/
  releases : List Str := []
  backups : List (Str × Bytes) := []
  artifacts : Str → Option HostNode := fun _ => none

namespace EngineState

def selected (s : EngineState) : Selector → Option Str
  | .current => s.current
  | .previous => s.previous

/-- A backup that the engine wrote: its own, and readable by nobody else. -/
def backupNode (host : EngineHost) (content : Bytes) : Node :=
  .file { mode := 0o600, uid := host.expectedUid, nlink := 1, gid := 0, dev := 0,
          size := content.length } content

def files (host : EngineHost) (s : EngineState) : BackupFiles := fun name =>
  (s.backups.lookup name).map (backupNode host)

def change (s : EngineState) : EngineEffect → EngineState
  | .writeJournal t => { s with journal := some t }
  | .select .current digest => { s with current := digest }
  | .select .previous digest => { s with previous := digest }
  | .publish digest => { s with releases := digest :: s.releases }
  | .removeRelease digest => { s with releases := s.releases.filter (· ≠ digest) }
  | .writeBackup name content => { s with backups := (name, content) :: s.backups }
  | .removeBackup name => { s with backups := s.backups.filter fun entry => entry.1 ≠ name }
  | .replaceArtifact path node => { s with artifacts := Function.update s.artifacts path node }
  | .restoreBoundary _ | .stop _ _ | .start _ | .enable _ | .daemonReload => s

end EngineState

/-- A state, and the effects so far with the states before them, the last one first. -/
structure EngineWorld extends EngineState where
  trace : List (EngineState × EngineEffect) := []

def EngineWorld.apply (e : EngineEffect) (w : EngineWorld) : EngineWorld where
  toEngineState := w.toEngineState.change e
  trace := (w.toEngineState, e) :: w.trace

/-! ## The oracle -/

inductive EngineCheck where
  | layout
  | inspectJournal
  | inspectSelector (selector : Selector)
  | verifyRelease (digest : Str)
  | cleanStaging
  | releaseStore
  | removableRelease (digest : Str)
  | removableBackups (transactionId : Str)
  | disjointSource
  | capacity (candidateBytes reserveBytes : Nat)
  | stage (digest : Str)
  | snapshotRoot (transactionId : Str)
  | artifactParent (path : Str)
  | inspectArtifact (path : Str)
  | relabel (path : Str)
  | verifyBoundary (record : NativeBoundary)
  | daemonMutationPreflight (wasActive : Bool)

/-- What the engine asks. -/
inductive EngineConsultation where
  | check (c : EngineCheck)
  | utcNow
  | uuid
  | verifySource
  | allocatedBytes
  | boundaryHelper
  | boundarySnapshot
  | captureConsumer (unit : Str)
  | isActive (unit : Str)
  | isReady (baseline : ConsumerBaseline)
  | isEnabled (unit : Str)
  | outcome (e : EngineEffect)

/-- How an effect ends. -/
inductive Outcome where
  | done
  | refused (message : String)
  | doneThenFailed (message : String)

/-- What a capture of a consumer returns, and the response that it has written. -/
structure Captured where
  record : Fields
  response : Option Bytes

/-- The type of an answer. A check answers with the text of its exception. -/
def EngineConsultation.Answer : EngineConsultation → Type
  | .check _ => Option String
  | .utcNow => Str
  | .uuid => Str
  | .verifySource => Except String (Str × Nat)
  | .allocatedBytes => Except String Nat
  | .boundaryHelper => Except String Bytes
  | .boundarySnapshot => Except String Bytes
  | .captureConsumer _ => Except String Captured
  | .isActive _ => Except String Bool
  | .isReady _ => Except String Bool
  | .isEnabled _ => Except String Bool
  | .outcome _ => Outcome

inductive EngineError where
  /-- The process ended. -/
  | crashed
  | journal (e : JournalError)
  | failed (message : String)
  deriving DecidableEq, Repr

structure EngineEnvironment where
  host : EngineHost
  /-- The process ends here. -/
  crashes : EngineWorld → List EngineConsultation → Bool
  answer : EngineWorld → List EngineConsultation → (c : EngineConsultation) → c.Answer

abbrev EngineQuery := Query EngineError EngineWorld (List EngineConsultation)

abbrev EngineM := Program EngineError EngineWorld (List EngineConsultation)

section Primitives

variable (env : EngineEnvironment)

def consult (c : EngineConsultation) : EngineQuery c.Answer := fun w log =>
  if env.crashes w log then (.error .crashed, log)
  else (.ok (env.answer w log c), c :: log)

def check (c : EngineCheck) : EngineQuery Unit := do
  match ← consult env (.check c) with
  | none => pure ()
  | some message => throw (.failed message)

def answered {α : Type} (q : EngineQuery (Except String α)) : EngineQuery α := do
  match ← q with
  | .ok a => pure a
  | .error message => throw (.failed message)

/-- An `Except` of the validator, raised. -/
def raised {α : Type} : Except JournalError α → EngineQuery α
  | .ok a => pure a
  | .error e => throw (.journal e)

/-- `if c: raise ReleaseTransactionError(message)` -/
def failIf (c : Prop) [Decidable c] (message : String) : EngineQuery Unit :=
  raiseIf c (EngineError.failed message)

/-- The journal, the store and the host as the engine finds them. -/
def theJournal : EngineQuery (Option Transaction) := Query.asks fun w => w.journal

def theSelector (selector : Selector) : EngineQuery (Option Str) :=
  Query.asks fun w => w.selected selector

def theReleases : EngineQuery (List Str) := Query.asks fun w => w.releases

def theBackups : EngineQuery (List (Str × Bytes)) := Query.asks fun w => w.backups

def theFiles : EngineQuery BackupFiles := Query.asks fun w => w.files env.host

def theArtifact (path : Str) : EngineQuery (Option HostNode) :=
  Query.asks fun w => w.artifacts path

def perform (e : EngineEffect) : EngineM Unit := fun w log =>
  if env.crashes w log then ((.error .crashed, w), log)
  else
    match env.answer w log (.outcome e) with
    | .done => ((.ok (), w.apply e), .outcome e :: log)
    | .refused message => ((.error (.failed message), w), .outcome e :: log)
    | .doneThenFailed message => ((.error (.failed message), w.apply e), .outcome e :: log)

/-- `_best_effort_housekeeping`: an exception is reported, the end of the process is not. -/
def bestEffort (body : EngineM Unit) : EngineM Unit :=
  tryCatch body fun e => if e = .crashed then throw e else pure ()

end Primitives

end TrexWebui.ReleaseEngine
