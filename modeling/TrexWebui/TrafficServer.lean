import TrexWebui.TrafficLedger

/-!
# A server that does what it is told

A TRex server whose every call succeeds: a port is in the state that the
last call on it asked for. It gives the assumptions of the runs a model,
and the runs that contradict a law a place to happen. Only the clock, the
first states of the ports and the outcome of a write are free.
-/

namespace TrexWebui

open OracleProgram

structure Server where
  portLimit : Nat := 4
  initially : PortState := .stopped
  clock : Time := 0
  persists : TrafficWorld → WriteOutcome := fun _ => .written
  crashes : TrafficWorld → List Consultation → Bool := fun _ _ => false
  rpcFails : Rpc → Option String := fun _ => none

namespace Server

def identity : RuntimeAuthorityIdentity where
  host := "127.0.0.1"
  syncPort := 4501
  asyncPort := 4500
  scapyPort := 4507
  daemonSupervisor := .systemd
  generation := ⟨7⟩
  host_clean := by decide
  host_length := by decide
  sync_range := by decide
  async_range := by decide
  scapy_range := by decide

def commanded : Rpc → Option PortState
  | .start _ _ _ _ _ _ => some .running
  | .stop _ => some .stopped
  | .pause _ => some .paused
  | .resume _ => some .running
  | .update _ _ _ _ | .addProfile _ _ _ | .removeAllStreams _ | .removeStreams _ _ => none

/-- The state of a port after the effects, the last of them first. -/
def portState (server : Server) (p : Port) : List Effect → PortState
  | [] => server.initially
  | .rpc call _ :: rest =>
    match commanded call with
    | some state =>
        if call.ports.all (p ∈ ·) then state else portState server p rest
    | none => portState server p rest
  | .wrote _ _ _ _ :: rest | .rejected _ _ _ _ :: rest => portState server p rest

def portObject : PortState → PortObject
  | .paused => { isPaused := some true }
  | .running => { isPaused := some false, isTransmitting := some true }
  | .stopped => {
      isPaused := some false, isTransmitting := some false, isActive := some false
      stateName := some "IDLE" }
  | .unknown => {}

def environment (server : Server) : TrafficEnvironment where
  host := "127.0.0.1"
  syncPort := 4501
  asyncPort := 4500
  scapyPort := 4507
  clientName := "webui"
  connectTimeoutSeconds := 2
  daemonSupervisor := .systemd
  configPath := "/etc/trex_cfg.yaml"
  crashes := server.crashes
  answer w _ c := match c with
    | .loadState => (none : Option String)
    | .persistState => server.persists w
    | .utcNow => server.clock
    | .clock => server.clock
    | .authority => .ok identity
    | .config => .ok { portLimit := server.portLimit }
    | .resolveProfile path => .ok path
    | .profileSha256 _ => .ok ⟨0⟩
    | .connect => (none : Option Failure)
    | .getAllPorts => .ok (List.range server.portLimit)
    | .syncPort _ => some (.ok {})
    | .portObject p => some (.ok (portObject (portState server p w.effects)))
    | .getPortInfo ports => .ok (some (ports.map fun _ => .flag true))
    | .getAcquiredPorts => .ok (List.range server.portLimit)
    | .acquire _ => .ok ()
    | .release _ => .ok ()
    | .syncStreams _ => some (.ok {})
    | .getAllStreams _ => some (.ok (some ∅))
    | .rpc call => match server.rpcFails call with
      | some message => .error message
      | none => .ok {}

theorem clockAfter {server : Server} {now : Time} (h : now ≤ server.clock) :
    ClockAfter server.environment now := fun _ _ => h

end Server

end TrexWebui
