import TrexWebui.CaptureRestart

/-!
# A server that cooperates

`obedient` surroundings answer with what is the case, do what they are told
and store what the validators accept. The ids of their recorders count up, and
they can be evaluated.
-/

namespace TrexWebui

open OracleProgram

def recorderOf (id : Nat) (request : CaptureRequest) : CaptureRecord where
  id := id
  filter := some {
    tx := some (.listing (request.txPorts.map fun p => .number p))
    rx := some (.listing (request.rxPorts.map fun p => .number p))
    bpf := .text request.bpfFilter }

def nextRecorderId (recorders : List CaptureRecord) : Nat :=
  (recorders.map (·.id)).foldr max 0 + 1

def obedientAnswer (authority : RuntimeAuthorityIdentity) (w : CaptureWorld) :
    (c : CaptureConsultation) → c.Answer
  | .loadState => (none : Option String)
  | .persistState => CaptureWriteOutcome.written
  | .utcNow => (0 : Time)
  | .authority => .ok authority
  | .connect => (none : Option Failure)
  | .getCaptureStatus => .ok (statusOf w.daemon.recorders)
  | .getAcquiredPorts => .ok (.ports ((sortedMembers w.daemon.session).map Int.ofNat))
  | .getAllPorts => .ok (List.range 8)
  | .syncPort p => .fields (some (w.daemon.service p).enabled)
      (some (w.daemon.service p).filtered) (some (w.daemon.service p).mask)
  | .fetchPackets _ => .ok ()
  | .savePackets _ => .ok ()
  | .rpc _ => ()

def obedientReact (w : CaptureWorld) :
    (r : CaptureRpc) → Except String r.Reply × CaptureDaemon
  | .startCapture request =>
    let id := nextRecorderId w.daemon.recorders
    (.ok (some ⟨some (.number id)⟩),
      { w.daemon with recorders := w.daemon.recorders ++ [recorderOf id request] })
  | .stopCapture id => (.ok (0 : Nat), w.daemon.perform (.stopCapture id))
  | .acquire ports => (.ok (), w.daemon.perform (.acquire ports))
  | .release ports => (.ok (), w.daemon.perform (.release ports))
  | .setServiceMode p enabled => (.ok (), w.daemon.perform (.setServiceMode p enabled))
  | .removeCapture id => (.ok (), w.daemon.perform (.removeCapture id))
  | .removeAllCaptures => (.ok (), w.daemon.perform .removeAllCaptures)

/-- A server of eight ports that does what it is told, and a store that writes. -/
def obedient (authority : RuntimeAuthorityIdentity) : CaptureEnvironment where
  crashes := fun _ _ => false
  answer := fun w _ c => obedientAnswer authority w c
  react := fun w _ r => obedientReact w r

def labAuthority : RuntimeAuthorityIdentity where
  host := "lab-trex"
  syncPort := 4601
  asyncPort := 4600
  scapyPort := 4607
  daemonSupervisor := .external
  generation := ⟨7⟩
  host_clean := by decide
  host_length := by decide
  sync_range := by decide
  async_range := by decide
  scapy_range := by decide

end TrexWebui
