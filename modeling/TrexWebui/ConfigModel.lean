import TrexWebui.IpAddressTexts
import TrexWebui.PydanticFields
import TrexWebui.PyMethods

/-!
# The configuration of TRex

`TrexConfig` is checked when it is built: its numbers, its interfaces, the threads of its
platform. The addresses of its ports are not: a MAC is a text or a list of integers there,
and only `mac_to_ints`, which `to_trex_dict` calls, looks at what it says. What pydantic
makes of values of other types than a field has is a parameter.
-/

namespace TrexWebui.ConfigModel

open PyStr PyJson PyMethods Checks Pydantic

/-! ## Addresses -/

abbrev IPv4Address := Fin 4294967296

/-- `IPv4Address(number)` -/
def addressOfNat (n : Nat) : Option IPv4Address :=
  if h : n < 4294967296 then some ⟨n, h⟩ else none

def octetsOf (n : Nat) : List Nat := [n / 16777216, n / 65536 % 256, n / 256 % 256, n % 256]

/-- `str(address)` -/
def addressText (address : IPv4Address) : Str :=
  [IpAddressTexts.point].intercalate ((octetsOf address).map decimal)

/-- A field of type `IPv4Address`. -/
def readAddress (value : Value) : Except String IPv4Address :=
  orRefuse
    (match value with
    | .str s => (IpAddressTexts.ipv4Address s).bind addressOfNat
    | .int n => if n < 0 then none else addressOfNat n.toNat
    | .bool b => addressOfNat b.toNat
    | _ => none)
    "Input is not a valid IPv4 address"

/-- `Union[str, list[int]]` -/
inductive Mac where
  | text (address : Str)
  | bytes (parts : List Int)

def readMac (lax : Conversions) : Value → Except String Mac
  | .arr items => (items.mapM (integer lax)).map .bytes
  | value => (string lax value).map .text

def macToInts : Option Mac → Except String (Option (List Int))
  | none => .ok none
  | some (.bytes value) => do
      refuseIf (value.length ≠ 6 ∨ ∃ part ∈ value, part < 0 ∨ 255 < part)
        "MAC integer list must contain exactly six bytes"
      pure (some value)
  | some (.text value) => do
      let parts := value.splitOn colon
      refuseIf (parts.length ≠ 6) "MAC address must have six colon-separated bytes"
      let ints ← orRefuse (parts.mapM intHex) "MAC address contains a non-hex byte"
      pure (some ints)

def intsValue (ints : List Int) : Value := .arr (ints.map .int)

/-! ## The ports -/

structure PortInfo where
  ip : Option IPv4Address
  defaultGw : Option IPv4Address
  srcMac : Option Mac
  destMac : Option Mac

namespace PortInfo

def keys : List Str := [text "ip", text "default_gw", text "src_mac", text "dest_mac"]

def validate (lax : Conversions) (value : Value) : Except String PortInfo := do
  let fields ← dictionary value
  let ip ← optional fields (text "ip") readAddress
  let defaultGw ← optional fields (text "default_gw") readAddress
  let srcMac ← optional fields (text "src_mac") (readMac lax)
  let destMac ← optional fields (text "dest_mac") (readMac lax)
  refuseExtra fields keys
  pure { ip, defaultGw, srcMac, destMac }

/-- The entries of the dictionary, with the bytes of the addresses. -/
def entries (port : PortInfo) (destMac srcMac : Option (List Int)) : List (Str × Option Value) :=
  [(text "ip", port.ip.map fun ip => .str (addressText ip)),
    (text "default_gw", port.defaultGw.map fun gateway => .str (addressText gateway)),
    (text "dest_mac", destMac.map intsValue),
    (text "src_mac", srcMac.map intsValue)]

def toTrexDict (port : PortInfo) : Except String Value := do
  let destMac ← macToInts port.destMac
  let srcMac ← macToInts port.srcMac
  pure (.obj (given (port.entries destMac srcMac)))

end PortInfo

/-! ## The platform -/

structure DualIf where
  socket : Int
  threads : List Int

namespace DualIf

def keys : List Str := [text "socket", text "threads"]

def threadsAreUnique (value : List Int) : Except String Unit := do
  refuseIf (¬value.Nodup) "dual_if threads must be unique per socket entry"
  refuseIf (∃ thread ∈ value, thread < 0) "dual_if threads must be non-negative"

/-- The field `threads`, with its validator. -/
def readThreads (lax : Conversions) (value : Value) : Except String (List Int) := do
  let threads ← list (integer lax) value
  threadsAreUnique threads
  pure threads

def validate (lax : Conversions) (value : Value) : Except String DualIf := do
  let fields ← dictionary value
  let socket ← required fields (text "socket") (atLeast 0 (integer lax))
  let threads ← withDefault [] fields (text "threads") (readThreads lax)
  refuseExtra fields keys
  pure { socket, threads }

def entries (entry : DualIf) : List (Str × Option Value) :=
  [(text "socket", some (.int entry.socket)), (text "threads", some (intsValue entry.threads))]

def modelDump (entry : DualIf) : Value := .obj (given entry.entries)

end DualIf

structure PlatformConfig where
  masterThreadId : Int
  latencyThreadId : Int
  dualIf : List DualIf

namespace PlatformConfig

def keys : List Str := [text "master_thread_id", text "latency_thread_id", text "dual_if"]

/-- The threads of all entries one after another; `workerThreads` are those already met. -/
def checkWorkers (platform : PlatformConfig) :
    (threads workerThreads : List Int) → Except String Unit
  | [], _ => .ok ()
  | thread :: threads, workerThreads => do
      refuseIf (thread = platform.masterThreadId)
        "master_thread_id must not also be a dual_if worker thread"
      refuseIf (thread = platform.latencyThreadId)
        "latency_thread_id must not also be a dual_if worker thread"
      refuseIf (thread ∈ workerThreads)
        "dual_if worker threads must be unique across platform entries"
      checkWorkers platform threads (thread :: workerThreads)

def threadsMustNotConflict (platform : PlatformConfig) : Except String Unit := do
  refuseIf (platform.masterThreadId = platform.latencyThreadId)
    "master_thread_id and latency_thread_id must differ"
  platform.checkWorkers (platform.dualIf.flatMap DualIf.threads) []

def validate (lax : Conversions) (value : Value) : Except String PlatformConfig := do
  let fields ← dictionary value
  let masterThreadId ← required fields (text "master_thread_id") (atLeast 0 (integer lax))
  let latencyThreadId ← required fields (text "latency_thread_id") (atLeast 0 (integer lax))
  let dualIf ← withDefault [] fields (text "dual_if") (list (DualIf.validate lax))
  refuseExtra fields keys
  let platform := { masterThreadId, latencyThreadId, dualIf }
  platform.threadsMustNotConflict
  pure platform

def entries (platform : PlatformConfig) : List (Str × Option Value) :=
  [(text "master_thread_id", some (.int platform.masterThreadId)),
    (text "latency_thread_id", some (.int platform.latencyThreadId)),
    (text "dual_if", some (.arr (platform.dualIf.map DualIf.modelDump)))]

def toTrexDict (platform : PlatformConfig) : Value := .obj (given platform.entries)

end PlatformConfig

/-! ## The interfaces -/

def IsHex (c : Nat) : Prop := DigitTexts.IsDigitOf 16 c

instance (c : Nat) : Decidable (IsHex c) := inferInstanceAs (Decidable (DigitTexts.IsDigitOf 16 c))

/-- Bus, device and function of `_PCI_INTERFACE_PATTERN`. -/
def IsPciSlot (s : Str) : Prop :=
  s.length = 7 ∧ (∀ i ∈ [0, 1, 3, 4], IsHex (s.getD i 0)) ∧ s.getD 2 0 = 58 ∧ s.getD 5 0 = 46
    ∧ 48 ≤ s.getD 6 0 ∧ s.getD 6 0 ≤ 55

instance (s : Str) : Decidable (IsPciSlot s) := inferInstanceAs (Decidable (_ ∧ _ ∧ _ ∧ _ ∧ _ ∧ _))

/-- The domain of `_PCI_INTERFACE_PATTERN`, with its colon. -/
def IsPciDomain (s : Str) : Prop :=
  s.length = 5 ∧ (∀ i ∈ [0, 1, 2, 3], IsHex (s.getD i 0)) ∧ s.getD 4 0 = 58

instance (s : Str) : Decidable (IsPciDomain s) := inferInstanceAs (Decidable (_ ∧ _ ∧ _))

def interfaceIdentity (interface : Str) : Str :=
  if IsPciDomain (interface.take 5) ∧ IsPciSlot (interface.drop 5) then lower interface
  else if IsPciSlot interface then text "0000:" ++ lower interface
  else interface

/-- `identities` are those of the interfaces already met. -/
def checkInterfaces : (interfaces identities : List Str) → Except String Unit
  | [], _ => .ok ()
  | interface :: interfaces, identities => do
      refuseIf (interface = [] ∨ interface ≠ strip interface)
        "interfaces must contain non-empty identifiers without surrounding whitespace"
      let identity := interfaceIdentity interface
      refuseIf (identity ∈ identities) "interfaces must be unique"
      checkInterfaces interfaces (identity :: identities)

example : interfaceIdentity (text "03:0A.1") = text "0000:03:0a.1"
    ∧ interfaceIdentity (text "0000:03:0A.1") = text "0000:03:0a.1"
    ∧ interfaceIdentity (text "net_AF0") = text "net_AF0" := by
  decide +kernel

def interfacesMustBeUnique (value : List Str) : Except String Unit := checkInterfaces value []

/-- The field `interfaces`, with its validator. -/
def readInterfaces (lax : Conversions) (value : Value) : Except String (List Str) := do
  let interfaces ← list (string lax) value
  interfacesMustBeUnique interfaces
  pure interfaces

/-! ## The configuration -/

structure TrexConfig where
  portLimit : Int
  version : Int
  interfaces : List Str
  portBandwidthGb : Option Int
  portInfo : List PortInfo
  c : Option Int
  enableZmqPub : Option Bool
  zmqPubPort : Option Int
  telnetPort : Option Int
  platform : Option PlatformConfig

namespace TrexConfig

def keys : List Str :=
  [text "port_limit", text "version", text "interfaces", text "port_bandwidth_gb",
    text "port_info", text "c", text "enable_zmq_pub", text "zmq_pub_port", text "telnet_port",
    text "platform"]

def readPort (lax : Conversions) : Value → Except String Int :=
  atMost 65535 (atLeast 1 (integer lax))

def validateShape (config : TrexConfig) : Except String Unit := do
  refuseIf (config.interfaces.length < config.portLimit)
    "interfaces length must be at least port_limit"
  refuseIf (config.portInfo ≠ [] ∧ config.portInfo.length < config.portLimit)
    "port_info length must be empty or at least port_limit"

/-- `TrexConfig.model_validate` -/
def validate (lax : Conversions) (value : Value) : Except String TrexConfig := do
  let fields ← dictionary value
  let portLimit ← required fields (text "port_limit") (atLeast 1 (integer lax))
  let version ← withDefault 2 fields (text "version") (integer lax)
  let interfaces ← required fields (text "interfaces") (readInterfaces lax)
  let portBandwidthGb ← optional fields (text "port_bandwidth_gb") (atLeast 1 (integer lax))
  let portInfo ← withDefault [] fields (text "port_info") (list (PortInfo.validate lax))
  let c ← optional fields (text "c") (atLeast 1 (integer lax))
  let enableZmqPub ← optional fields (text "enable_zmq_pub") (boolean lax)
  let zmqPubPort ← optional fields (text "zmq_pub_port") (readPort lax)
  let telnetPort ← optional fields (text "telnet_port") (readPort lax)
  let platform ← optional fields (text "platform") (PlatformConfig.validate lax)
  refuseExtra fields keys
  let config :=
    { portLimit, version, interfaces, portBandwidthGb, portInfo, c, enableZmqPub, zmqPubPort,
      telnetPort, platform }
  config.validateShape
  pure config

def entries (config : TrexConfig) (ports : List Value) : List (Str × Option Value) :=
  [(text "port_limit", some (.int config.portLimit)),
    (text "version", some (.int config.version)),
    (text "interfaces", some (.arr (config.interfaces.map .str))),
    (text "port_bandwidth_gb", config.portBandwidthGb.map .int),
    (text "c", config.c.map .int),
    (text "enable_zmq_pub", config.enableZmqPub.map .bool),
    (text "zmq_pub_port", config.zmqPubPort.map .int),
    (text "telnet_port", config.telnetPort.map .int),
    (text "platform", config.platform.map PlatformConfig.toTrexDict),
    (text "port_info", if config.portInfo = [] then none else some (.arr ports))]

def toTrexDict (config : TrexConfig) : Except String Value := do
  let ports ← config.portInfo.mapM PortInfo.toTrexDict
  pure (.obj (given (config.entries ports)))

end TrexConfig

end TrexWebui.ConfigModel
