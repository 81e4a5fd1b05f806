import TrexWebui.PortOperations

/-!
# Port configuration

The operations of `port_configuration_operations.py`: the layers of a port, address
resolution, the scan for IPv6 neighbours and the ping. Each of them acquires the ports that
are not acquired yet, puts the ports that are not in service mode into it (the scan also
turns multicast on), does its work, and takes these changes back.

What the client knows about a port, and the calls that change it, are the state. What the
client answers is a parameter: a call that an operation makes once has one answer, and a
call that it can repeat has an answer for every moment. The work itself only queries.
-/

namespace TrexWebui

open OracleProgram

/-! ## The client -/

/-- What `_service_state` reads. -/
structure PortService where
  enabled : Bool := false
  filtered : Bool := false
  mask : Option Nat := none

/-- A port as the client knows it. A port without an object reads as one that is not in
service mode. -/
structure ClientPort where
  acquired : Bool := false
  service : PortService := {}
  multicast : Bool := false

/-- The calls that change what the client knows about a port. -/
inductive PortCall where
  | acquire (ports : List Port)
  | release (ports : List Port)
  | setServiceMode (port : Port) (enabled : Bool)
  | setMulticast (port : Port) (enabled : Bool)
  deriving DecidableEq

/-- The ports, and the calls that succeeded so far, the last one first. -/
structure ClientWorld where
  ports : Port → ClientPort
  calls : List PortCall := []

namespace ClientWorld

def update (port : Port) (f : ClientPort → ClientPort) (call : PortCall) (w : ClientWorld) :
    ClientWorld where
  ports := Function.update w.ports port (f (w.ports port))
  calls := call :: w.calls

def acquire (ports : List Port) (w : ClientWorld) : ClientWorld where
  ports p := if p ∈ ports then { w.ports p with acquired := true } else w.ports p
  calls := .acquire ports :: w.calls

def release (ports : List Port) (w : ClientWorld) : ClientWorld where
  ports p := if p ∈ ports then { w.ports p with acquired := false } else w.ports p
  calls := .release ports :: w.calls

/-- `set_service_mode` of one port, unfiltered and without a mask. -/
def setServiceMode (port : Port) (enabled : Bool) : ClientWorld → ClientWorld :=
  update port (fun p => { p with service := { enabled := enabled } })
    (.setServiceMode port enabled)

/-- `set_port_attr` of one port with `multicast`. -/
def setMulticast (port : Port) (enabled : Bool) : ClientWorld → ClientWorld :=
  update port (fun p => { p with multicast := enabled }) (.setMulticast port enabled)

end ClientWorld

/-- An address as `ipaddress.ip_address` reads it. -/
structure IpAddress where
  version : Nat
  value : Nat
  deriving DecidableEq

/-- The texts of a port record that the operations look at. -/
structure PortInfo where
  srcIpv4 : Option String := none
  layerIpv4Src : Option String := none
  dest : Option String := none
  layerIpv4Dst : Option String := none
  srcMac : Option String := none
  hwMac : Option String := none
  layerEtherSrc : Option String := none

/-- A host found by `scan6`. -/
structure Ipv6Host where
  port : Port
  ipv6 : Option String := none
  ip : Option String := none
  ipAddress : Option String := none
  mac : Option String := none

/-- What the service, its client and `ipaddress` answer to one operation. An answer that
takes a number is that of the moment with this number. -/
structure PortClient where
  /-- `_with_client`: the client is admitted and connected, or why it is not. -/
  admission : CallResult Unit
  ipAddress : String → Option IpAddress
  showIp : IpAddress → String
  getAllPorts : Nat → Except String (List Port)
  getAcquiredPorts : Except String Unit
  acquire : List Port → Except String Unit
  release : List Port → Except String Unit
  enableService : Port → Except String Unit
  disableService : Port → Except String Unit
  enableMulticast : Port → Except String Unit
  disableMulticast : Port → Except String Unit
  /-- The record of the port can be read and tells the multicast mode. -/
  multicastReadable : Port → Bool
  getPortInfo : Nat → List Port → Except String (List PortInfo)
  /-- The client has an object for the port. -/
  portObject : Port → Bool
  setVlan : Except String Unit
  setL2Mode : Except String Unit
  setL3Mode : Except String Unit
  /-- `set_l3_mode` of the port object: the text of its result and its truth. -/
  portSetL3Mode : Nat → Except String (String × Bool)
  confIpv6 : Except String Unit
  scan6 : Except String (List Ipv6Host)
  resolve : Except String Unit
  /-- `ping_ip`: the numbers of records, replies, timeouts and unreachable hosts. -/
  pingIp : Except String (Nat × Nat × Nat × Nat)

abbrev PortQuery (α : Type) : Type := Query String ClientWorld Nat α

abbrev PortM (α : Type) : Type := Program String ClientWorld Nat α

/-! ## Validation -/

def normalizePortId (value : Int) : CallResult Port :=
  if value < 0 ∨ 255 < value then
    failure "port_invalid" "port must be an integer between 0 and 255"
  else .ok value.toNat

/-- `_normalize_port_list` on the numbers of a request. -/
def normalizePortIds : Option (List Int) → CallResult (Option (List Port))
  | none => .ok none
  | some values =>
    if 256 < values.length then
      failure "ports_invalid" "ports must be a list of up to 256 port IDs"
    else if values.any (fun value => value < 0 ∨ 255 < value) then
      failure "port_invalid" "port must be an integer between 0 and 255"
    else .ok (some (normalizedPorts (values.map Int.toNat)))

def normalizeVlan : Option (List Int) → CallResult (Option (List Nat))
  | none => .ok none
  | some values =>
    if 2 < values.length then failure "vlan_invalid" "maximum two nested VLAN tags are allowed"
    else if values.any (fun value => value < 0 ∨ 4095 < value) then
      failure "vlan_invalid" "VLAN IDs must be integers between 0 and 4095"
    else .ok (some (values.map Int.toNat))

def cleanOptionalText (value : Option String) : Option String :=
  (value.map fun text => text.trimAscii.toString).filter fun candidate =>
    candidate ≠ "" ∧ '\x00' ∉ candidate.toList

def looksLikeMac (value : String) : Bool :=
  let parts := (value.splitOn ":").map String.toList
  parts.length = 6 && parts.all fun part =>
    part.length = 2 && part.all fun c => c ∈ "0123456789abcdefABCDEF".toList

/-! ## Calls -/

namespace PortClient

variable (client : PortClient)

def consult {α : Type} (answer : Nat → α) : PortQuery α := fun _ k => (.ok (answer k), k + 1)

def returned {α : Type} : Except String α → PortQuery α
  | .ok a => pure a
  | .error message => throw message

def perform (answer : Except String Unit) (effect : ClientWorld → ClientWorld) : PortM Unit := do
  liftM (returned answer)
  Program.modify effect

def ensurePortExists (port : Port) : PortQuery Unit := do
  let ports ← returned (← consult client.getAllPorts)
  raiseIf (port ∉ ports) s!"port {port} does not exist"

/-- `ports if ports is not None else client.get_all_ports()`. -/
def targetPorts : Option (List Port) → PortQuery (List Port)
  | some ports => pure ports
  | none => do returned (← consult client.getAllPorts)

/-- The ports that `_acquire_ports_for_operation` has to acquire. -/
def portsToAcquire (ports : List Port) (w : ClientWorld) : List Port :=
  match client.getAcquiredPorts with
  | .ok () => ports.filter fun p => !(w.ports p).acquired
  | .error _ => ports

/-- `_acquire_ports_for_operation`. -/
def acquireForOperation (ports : List Port) : PortM (List Port) := do
  let wanted ← liftM (Query.asks (client.portsToAcquire ports) : PortQuery (List Port))
  if wanted = [] then pure []
  else
    perform (client.acquire wanted) (ClientWorld.acquire wanted)
    pure wanted

/-- `_release_ports_for_operation`. -/
def releaseForOperation (ports : List Port) : PortM Unit :=
  if ports = [] then pure ()
  else guarded (fun _ : String => true) (perform (client.release ports) (ClientWorld.release ports))
    (fun _ => pure ()) pure

/-- `{port: _service_state(client, port) for port in target_ports}`. -/
def serviceStates (ports : List Port) : PortQuery (List (Port × PortService)) :=
  Query.asks fun w => (normalizedPorts ports).map fun p => (p, (w.ports p).service)

def multicastState (w : ClientWorld) (port : Port) : Option Bool :=
  if client.multicastReadable port then some (w.ports port).multicast else none

/-- `{port: _multicast_state(client, port) for port in target_ports}`. -/
def multicastStates (ports : List Port) : PortQuery (List (Port × Option Bool)) :=
  Query.asks fun w => (normalizedPorts ports).map fun p => (p, client.multicastState w p)

def enableServiceMode (port : Port) (state : PortService) : PortM Unit :=
  if state.enabled then pure ()
  else perform (client.enableService port) (ClientWorld.setServiceMode port true)

def restoreServiceMode (port : Port) (state : PortService) : PortM Unit :=
  if state.enabled then pure ()
  else guarded (fun _ : String => true)
    (perform (client.disableService port) (ClientWorld.setServiceMode port false))
    (fun _ => pure ()) pure

def enableMulticastMode (port : Port) (wasEnabled : Option Bool) : PortM Unit :=
  if wasEnabled = some false then
    perform (client.enableMulticast port) (ClientWorld.setMulticast port true)
  else pure ()

/-- The multicast mode of a port that had it off is turned off again. -/
def restoreMulticastMode (port : Port) (wasEnabled : Option Bool) : PortM Unit :=
  if wasEnabled = some false then
    perform (client.disableMulticast port) (ClientWorld.setMulticast port false)
  else pure ()

/-- The changes that are made before the work begins, and the inner `try`, whose `finally`
takes them back. -/
def onSwitchedPorts {α : Type} (targets : List Port) (multicast : Bool) (work : PortQuery α) :
    PortM α := do
  let services ← liftM (serviceStates targets)
  let multicasts ← liftM (if multicast then client.multicastStates targets else pure [])
  services.forM fun (p, state) => client.enableServiceMode p state
  multicasts.forM fun (p, wasEnabled) => client.enableMulticastMode p wasEnabled
  ensuring (fun _ : String => false) (liftM work) (do
    multicasts.forM fun (p, wasEnabled) => client.restoreMulticastMode p wasEnabled
    services.forM fun (p, state) => client.restoreServiceMode p state)

/-- The frame of the operations: `work` runs on acquired ports in service mode, and with
multicast where the operation wants it. The outer `finally` only releases. -/
def onPreparedPorts {α : Type} (targets : List Port) (multicast : Bool) (work : PortQuery α) :
    PortM α := do
  let acquired ← client.acquireForOperation targets
  ensuring (fun _ : String => false) (client.onSwitchedPorts targets multicast work)
    (client.releaseForOperation acquired)

/-! ## The work of the operations -/

def singlePortInfo (port : Port) : PortQuery (Option PortInfo) := do
  let infos ← returned (← consult fun k => client.getPortInfo k [port])
  pure infos.head?

/-- `a or b` of two optional texts. -/
def firstText (a b : Option String) : Option String := (a.filter (· ≠ "")).or b

/-- The record has the target as its IPv4 source, and a MAC address. -/
def sourceMacFor (target : IpAddress) (info : PortInfo) : Option String := do
  let sourceIp ← firstText info.srcIpv4 info.layerIpv4Src
  let sourceMac ← firstText (firstText info.srcMac info.hwMac) info.layerEtherSrc
  if client.ipAddress sourceIp = some target ∧ looksLikeMac sourceMac then some sourceMac
  else none

def findLocalIpv4DestinationMac (destination : Option String) : PortQuery (Option String) := do
  match destination.bind client.ipAddress with
  | none => pure none
  | some target =>
    if target.version ≠ 4 then pure none
    else
      let infos : PortQuery (List PortInfo) := do
        let ports ← returned (← consult client.getAllPorts)
        returned (← consult fun k => client.getPortInfo k ports)
      guarded (fun _ : String => true) infos (fun _ => pure none)
        fun infos => pure (infos.findSome? (client.sourceMacFor target))

/-- The loop of `_apply_local_ipv4_arp_fallback`; an early `return []` is `none`. -/
def applyFallback : List Port → PortQuery (Option (List Port))
  | [] => pure (some [])
  | port :: rest => do
    let info := (← client.singlePortInfo port).getD {}
    match firstText info.srcIpv4 info.layerIpv4Src, firstText info.dest info.layerIpv4Dst with
    | some _, some destination =>
      let mac ← client.findLocalIpv4DestinationMac (some destination)
      if mac = none ∨ client.portObject port = false then pure none
      else
        let (_, good) ← returned (← consult client.portSetL3Mode)
        if good then do
          let resolved ← applyFallback rest
          pure (resolved.map (port :: ·))
        else pure none
    | _, _ => pure none

def applyLocalIpv4ArpFallback (ports : List Port) : PortQuery (List Port) := do
  pure ((← client.applyFallback ports).getD [])

def findIpv6Host (hosts : List Ipv6Host) (destination : Option String) : Option Ipv6Host := do
  let target ← destination.bind client.ipAddress
  hosts.find? fun host =>
    ((firstText (firstText host.ipv6 host.ip) host.ipAddress).bind client.ipAddress) = some target

/-! ## The operations -/

/-- What the operations return. -/
inductive PortOperationResult where
  | layer (port : Port) (mode : String) (source destination : Option String)
      (resolution : Option String) (host : Option Ipv6Host) (vlan : Option (List Nat))
      (info : Option PortInfo)
  | arp (ports : List Port) (retries : Int) (resolution : String) (vlan : Option (List Nat))
      (infos : List PortInfo)
  | neighbors (ports : List Port) (timeoutSeconds : Rat) (hosts : List Ipv6Host)
  | ping (port : Port) (destination : String) (packetSize count : Int) (intervalSec : Rat)
      (vlan : Option (List Nat)) (records replies timeouts unreachable : Nat)

/-- The arguments of `configure_port_layer`. -/
structure LayerConfiguration where
  port : Int
  mode : String
  l2Destination : Option String
  l3Source : Option String
  l3Destination : Option String
  vlan : Option (List Int)

/-- The arguments of `ping`. -/
structure PingArguments where
  port : Int
  destination : String
  pktSize : Int
  count : Int
  intervalSec : Rat
  vlan : Option (List Int)

/-- `with_client`: what the callback returns, or the text of its exception. -/
def withClientDo {α : Type} (operation : PortM α) (w : ClientWorld) : CallResult α × ClientWorld :=
  match client.admission with
  | .failed f => (.failed f, w)
  | .ok () =>
    match operation w 0 with
    | ((.ok a, w'), _) => (.ok a, w')
    | ((.error message, w'), _) => (failure "trex_command_failed" message, w')

/-- `client.set_vlan` where a VLAN is given. -/
def setVlanIfGiven (vlan : Option (List Nat)) : PortQuery Unit :=
  if vlan.isSome then returned client.setVlan else pure ()

/-- The IPv4 branch of `configure`: the resolution by the client, or by a local port. -/
def resolveIpv4Layer (port : Port) (destination : Option String) : PortQuery String :=
  guarded (fun _ : String => true) (returned client.setL3Mode)
    (fun e => do
      let mac ← client.findLocalIpv4DestinationMac destination
      if mac.all (· = "") ∨ client.portObject port = false then throw e
      else
        let (text, good) ← returned (← consult client.portSetL3Mode)
        raiseIf (good = false) text
        pure "local_port")
    fun _ => pure "arp"

/-- The IPv6 branch of `configure`: the host with the destination, if the scan finds it. -/
def resolveIpv6Layer (destination : Option String) : PortQuery (Option Ipv6Host) := do
  returned client.confIpv6
  let hosts ← returned client.scan6
  let resolved := client.findIpv6Host hosts destination
  match resolved.bind fun host => host.mac.filter (· ≠ "") with
  | some _ => returned client.setL2Mode
  | none => pure ()
  pure resolved

/-- The work of `configure_port_layer`. -/
def configureWork (port : Port) (mode : String) (l2Destination l3Source l3Destination : Option String)
    (vlan : Option (List Nat)) : PortQuery PortOperationResult := do
  client.setVlanIfGiven vlan
  if mode = "L2" then
    returned client.setL2Mode
    pure (.layer port mode none l2Destination none none vlan (← client.singlePortInfo port))
  else
    match l3Source.bind client.ipAddress, l3Destination.bind client.ipAddress with
    | some source, some _ =>
      if source.version = 4 then
        let resolution ← client.resolveIpv4Layer port l3Destination
        pure (.layer port mode l3Source l3Destination (some resolution) none vlan
          (← client.singlePortInfo port))
      else
        let resolved ← client.resolveIpv6Layer l3Destination
        pure (.layer port mode l3Source l3Destination
          (some (if resolved.isSome then "resolved" else "unresolved")) resolved vlan
          (← client.singlePortInfo port))
    | _, _ => throw "source and destination IP are required"

/-- The checks of `configure_port_layer` on the mode and the addresses. -/
def checkLayer (mode : String) (l2Destination l3Source l3Destination : Option String) :
    CallResult Unit :=
  if mode ≠ "L2" ∧ mode ≠ "L3" then
    failure "port_configuration_invalid" "port configuration request is invalid"
  else if mode = "L2" then
    if l2Destination = none then
      failure "port_configuration_invalid" "destination MAC is required"
    else .ok ()
  else
    match l3Source.bind client.ipAddress, l3Destination.bind client.ipAddress with
    | some source, some destination =>
      if source.version ≠ destination.version then
        failure "port_configuration_invalid" "source and destination IP versions must match"
      else .ok ()
    | _, _ => failure "port_configuration_invalid" "source and destination IP are required"

def configurePortLayer (c : LayerConfiguration) (w : ClientWorld) :
    CallResult PortOperationResult × ClientWorld :=
  let l2 := cleanOptionalText c.l2Destination
  let source := cleanOptionalText c.l3Source
  let destination := cleanOptionalText c.l3Destination
  match normalizePortId c.port, normalizeVlan c.vlan, client.checkLayer c.mode l2 source destination with
  | .ok port, .ok vlan, .ok () =>
    client.withClientDo (do
      liftM (client.ensurePortExists port)
      client.onPreparedPorts [port] false
        (client.configureWork port c.mode l2 source destination vlan)) w
  | .failed f, _, _ | .ok _, .failed f, _ | .ok _, .ok _, .failed f => (.failed f, w)

def resolveArp (ports : Option (List Int)) (retries : Int) (vlan : Option (List Int))
    (w : ClientWorld) : CallResult PortOperationResult × ClientWorld :=
  match normalizePortIds ports, normalizeVlan vlan with
  | .ok ports, .ok vlan =>
    if retries < 0 ∨ 10 < retries then
      (failure "arp_resolve_invalid" "retries must be between 0 and 10", w)
    else
      client.withClientDo (do
        let targets ← liftM (client.targetPorts ports)
        client.onPreparedPorts targets false (do
          let resolution ← guarded (fun _ : String => true) (returned client.resolve)
            (fun e => do
              let resolved ← client.applyLocalIpv4ArpFallback targets
              if resolved = [] then throw e else pure "local_port")
            fun _ => pure "arp"
          let infos ← returned (← consult fun k => client.getPortInfo k targets)
          pure (.arp targets retries resolution vlan infos))) w
  | .failed f, _ | .ok _, .failed f => (.failed f, w)

def scanIpv6Neighbors (ports : Option (List Int)) (timeoutSeconds : Rat) (w : ClientWorld) :
    CallResult PortOperationResult × ClientWorld :=
  match normalizePortIds ports with
  | .ok ports =>
    if timeoutSeconds < 1 / 10 ∨ 30 < timeoutSeconds then
      (failure "ipv6_scan_invalid" "timeout must be between 0.1 and 30 seconds", w)
    else
      client.withClientDo (do
        let targets ← liftM (client.targetPorts ports)
        client.onPreparedPorts targets true (do
          let hosts ← returned client.scan6
          pure (.neighbors targets timeoutSeconds hosts))) w
  | .failed f => (.failed f, w)

def ping (a : PingArguments) (w : ClientWorld) : CallResult PortOperationResult × ClientWorld :=
  match normalizePortId a.port, normalizeVlan a.vlan with
  | .ok port, .ok vlan =>
    match (cleanOptionalText (some a.destination)).bind client.ipAddress with
    | none => (failure "ping_invalid" "destination must be a valid IPv4 or IPv6 address", w)
    | some destination =>
      if a.pktSize < 64 ∨ 9216 < a.pktSize then
        (failure "ping_invalid" "packet size must be between 64 and 9216", w)
      else if a.count < 1 ∨ 10 < a.count then
        (failure "ping_invalid" "count must be between 1 and 10", w)
      else if a.intervalSec < 0 ∨ 10 < a.intervalSec then
        (failure "ping_invalid" "interval must be between 0 and 10 seconds", w)
      else
        client.withClientDo (do
          liftM (client.ensurePortExists port)
          client.onPreparedPorts [port] false (do
            let (records, replies, timeouts, unreachable) ← returned client.pingIp
            pure (.ping port (client.showIp destination) a.pktSize a.count a.intervalSec vlan
              records replies timeouts unreachable))) w
  | .failed f, _ | .ok _, .failed f => (.failed f, w)

end PortClient

end TrexWebui
