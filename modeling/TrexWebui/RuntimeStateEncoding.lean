import Mathlib.Data.String.Basic
import TrexWebui.RuntimeState

/-!
# The file of the runtime state

The JSON document that `RuntimeStateStore._write_unlocked` writes: the
`model_dump(mode="json")` of the state, with sorted keys. The keys of a
dictionary with port keys are listed in the order of the ports; the order
does not change the size of the file, which is all that the store looks at
before it writes.
-/

namespace TrexWebui

open PyText

def RUNTIME_STATE_MAX_BYTES : Nat := 1024 * 1024

/-! ## Leaves -/

def optionalJson {α : Type} (f : α → Json) : Option α → Json
  | none => .null
  | some a => f a

def natJson (n : Nat) : Json := .raw (toString n)

def timeJson (t : Time) : Json := .str (utcText t)

def uuidJson (u : Uuid) : Json := .str u.text

def sha256Json (d : Sha256) : Json := .str (sha256Text d.value)

def decimalJson (d : Decimal) : Json := .raw (decimalText d.coefficient d.scale)

def natListJson (ports : List Nat) : Json := .arr (ports.map natJson)

def portDictJson {α : Type} (f : α → Json) (d : Dict Port α) : Json :=
  .obj (d.items.map fun (p, a) => (toString p, f a))

def portStatesJson : Dict Port PortState → Json := portDictJson fun s => .str s.text

def tunablesJson (d : Dict String JsonText) : Json :=
  .obj (d.items.map fun (key, text) => (key, .raw text))

/-! ## Records -/

def RuntimeConnectionState.json (c : RuntimeConnectionState) : Json := .obj [
  ("async_port", natJson c.asyncPort),
  ("client_name", .str c.clientName),
  ("connect_timeout_seconds", natJson c.connectTimeoutSeconds),
  ("host", .str c.host),
  ("scapy_port", natJson c.scapyPort),
  ("sync_port", natJson c.syncPort),
  ("updated_at", timeJson c.updatedAt)]

/-- The text of a generation: a process generation is marked as such. -/
def RuntimeAuthorityIdentity.generationText (a : RuntimeAuthorityIdentity) : String :=
  match a.daemonSupervisor with
  | .external => "process:" ++ a.generation.text
  | .systemd => a.generation.text

def RuntimeAuthorityIdentity.json (a : RuntimeAuthorityIdentity) : Json := .obj [
  ("async_port", natJson a.asyncPort),
  ("daemon_supervisor", .str a.daemonSupervisor.text),
  ("generation", .str a.generationText),
  ("host", .str a.host),
  ("scapy_port", natJson a.scapyPort),
  ("sync_port", natJson a.syncPort)]

def CaptureId.json : CaptureId → Json
  | .recorder id => natJson id
  | .pendingStart id => .str ("pending-start:" ++ id.text)

def CaptureRecorderIdentityState.json (r : CaptureRecorderIdentityState) : Json := .obj [
  ("bpf_filter", .str r.bpfFilter),
  ("capture_id", natJson r.captureId),
  ("rx_ports", natListJson r.rxPorts),
  ("tx_ports", natListJson r.txPorts)]

def CaptureLeaseState.json (l : CaptureLeaseState) : Json := .obj [
  ("acquire_planned_ports", natListJson l.acquirePlannedPorts),
  ("acquired_ports", natListJson l.acquiredPorts),
  ("authority", l.authority.json),
  ("baseline_capture_ids", natListJson l.baselineCaptureIds),
  ("baseline_recorders", .arr (l.baselineRecorders.map (·.json))),
  ("bpf_filter", .str l.bpfFilter),
  ("capture_id", l.captureId.json),
  ("ports", natListJson l.ports),
  ("pre_acquired_ports", natListJson l.preAcquiredPorts),
  ("preparation_service_states", portDictJson tunablesJson l.preparationServiceStates),
  ("preparation_stage", optionalJson (fun s => .str s.text) l.preparationStage),
  ("recovery_phase", .str l.recoveryPhase.text),
  ("rx_ports", natListJson l.rxPorts),
  ("service_enable_planned_ports", natListJson l.serviceEnablePlannedPorts),
  ("service_states", portDictJson tunablesJson l.serviceStates),
  ("tx_ports", natListJson l.txPorts)]

def TrafficGroupState.json (g : TrafficGroupState) : Json := .obj [
  ("clear_existing", .bool g.clearExisting),
  ("duration", decimalJson g.duration),
  ("force", .bool g.force),
  ("id", .str g.id),
  ("multiplier", .str g.multiplier),
  ("name", .str g.name),
  ("ports", natListJson g.ports),
  ("profile_path", .str g.profilePath),
  ("synchronized", .bool g.synchronized),
  ("total", .bool g.total),
  ("tunables", tunablesJson g.tunables)]

def TrafficMutationEvidenceState.json (e : TrafficMutationEvidenceState) : Json := .obj [
  ("acquisition_restored", .bool true),
  ("baseline_acquired_ports", natListJson e.baselineAcquiredPorts),
  ("baseline_port_states", portStatesJson e.baselinePortStates),
  ("completed_at", timeJson e.completedAt),
  ("completion_mode", .str e.completionMode.text),
  ("desired_port_states", portStatesJson e.desiredPortStates),
  ("intent_nonce", uuidJson e.intentNonce),
  ("operation", .str e.operation.text),
  ("ports", natListJson e.ports),
  ("prepared_at", timeJson e.preparedAt),
  ("wal_cleared", .bool true)]

def TrafficCleanupEvidenceState.json (e : TrafficCleanupEvidenceState) : Json := .obj [
  ("acquisition_restored", if e.acquisitionRestored then .bool true else .null),
  ("completed_at", timeJson e.completedAt),
  ("completion", .str e.completion.text),
  ("final_port_states",
    .obj ((sortedMembers e.finalPorts).map fun p => (toString p, .str "stopped"))),
  ("intent_nonce", optionalJson uuidJson e.intentNonce),
  ("wal_cleared", .bool e.walCleared)]

def TrafficSessionGroupState.json (g : TrafficSessionGroupState) : Json := .obj [
  ("cleanup_evidence", optionalJson (·.json) g.cleanupEvidence),
  ("duration", decimalJson g.duration),
  ("ended_at", optionalJson timeJson g.endedAt),
  ("group_id", optionalJson .str g.groupId),
  ("hard_stop_at", optionalJson timeJson g.hardStopAt),
  ("multiplier", .str g.multiplier),
  ("plan_revision", optionalJson natJson g.planRevision),
  ("port_states", portStatesJson g.portStates),
  ("ports", natListJson g.ports),
  ("profile_path", .str g.profilePath),
  ("profile_sha256", optionalJson sha256Json g.profileSha256),
  ("run_id", optionalJson uuidJson g.runId),
  ("source", optionalJson (fun s => .str s.text) g.source),
  ("start_clear_existing", optionalJson .bool g.startClearExisting),
  ("start_evidence", optionalJson (·.json) g.startEvidence),
  ("start_force", optionalJson .bool g.startForce),
  ("start_multiplier", optionalJson .str g.startMultiplier),
  ("start_synchronized", optionalJson .bool g.startSynchronized),
  ("start_total", optionalJson .bool g.startTotal),
  ("started_at", optionalJson timeJson g.startedAt),
  ("state", .str g.state.text),
  ("tunables", tunablesJson g.tunables),
  ("updated_at", timeJson g.updatedAt)]

def TrafficSessionState.json (s : TrafficSessionState) : Json := .obj [
  ("authority", s.authority.json),
  ("completed_groups", .arr (s.completedGroups.map (·.json))),
  ("ended_at", optionalJson timeJson s.endedAt),
  ("evidence_version", optionalJson (fun _ => natJson 1) s.evidenceVersion),
  ("groups", .arr (s.groups.map (·.json))),
  ("id", uuidJson s.id),
  ("mutation_evidence", .arr (s.mutationEvidence.map (·.json))),
  ("reconciliation", optionalJson .str s.reconciliation),
  ("revision", natJson s.revision),
  ("started_at", timeJson s.startedAt),
  ("state", .str s.state.text),
  ("updated_at", timeJson s.updatedAt)]

def TrafficMutationIntentState.json (i : TrafficMutationIntentState) : Json := .obj [
  ("authority", i.authority.json),
  ("baseline_acquired_ports", natListJson i.baselineAcquiredPorts),
  ("baseline_port_states", portStatesJson i.baselinePortStates),
  ("baseline_stream_ids", optionalJson (portDictJson natListJson) i.baselineStreamIds),
  ("desired_port_states", portStatesJson i.desiredPortStates),
  ("expected_session_id", optionalJson uuidJson i.expectedSessionId),
  ("hardware_stage", .str i.hardwareStage.text),
  ("nonce", uuidJson i.nonce),
  ("operation", .str i.operation.text),
  ("phase", .str i.phase.text),
  ("ports", natListJson i.ports),
  ("prepared_at", timeJson i.preparedAt),
  ("reconciliation", optionalJson .str i.reconciliation),
  ("session_before", optionalJson (·.json) i.sessionBefore),
  ("start_clear_existing", optionalJson .bool i.startClearExisting),
  ("start_force", optionalJson .bool i.startForce),
  ("start_group", optionalJson (·.json) i.startGroup),
  ("start_plan_revision", optionalJson natJson i.startPlanRevision),
  ("start_profile_sha256", optionalJson sha256Json i.startProfileSha256),
  ("start_source", optionalJson (fun s => .str s.text) i.startSource),
  ("start_synchronized", optionalJson .bool i.startSynchronized),
  ("start_total", optionalJson .bool i.startTotal),
  ("superseded_intent_nonce", optionalJson uuidJson i.supersededIntentNonce),
  ("superseded_intent_operation",
    optionalJson (fun o => .str o.text) i.supersededIntentOperation),
  ("superseded_intent_ports", optionalJson natListJson i.supersededIntentPorts),
  ("superseded_reason", optionalJson .str i.supersededReason),
  ("update_force", optionalJson .bool i.updateForce),
  ("update_multiplier", optionalJson .str i.updateMultiplier),
  ("update_total", optionalJson .bool i.updateTotal)]

def RuntimeStateDocument.json (d : RuntimeStateDocument) : Json := .obj [
  ("capture_leases", .arr (d.captureLeases.map (·.json))),
  ("connection", optionalJson (·.json) d.connection),
  ("revision", natJson d.revision),
  ("traffic_groups", .arr (d.trafficGroups.map (·.json))),
  ("traffic_mutation_intent", optionalJson (·.json) d.trafficMutationIntent),
  ("traffic_plan_revision", natJson d.trafficPlanRevision),
  ("traffic_session", optionalJson (·.json) d.trafficSession),
  ("updated_at", optionalJson timeJson d.updatedAt),
  ("version", natJson 2)]

def RuntimeStateDocument.encoded (d : RuntimeStateDocument) : String := d.json.text ++ "\n"

/-- `len(encoded)`. -/
def RuntimeStateDocument.encodedSize (d : RuntimeStateDocument) : Nat := d.json.size + 1

def RuntimeStateDocument.Fits (d : RuntimeStateDocument) : Prop :=
  d.encodedSize ≤ RUNTIME_STATE_MAX_BYTES

end TrexWebui
