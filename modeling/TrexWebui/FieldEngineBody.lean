import TrexWebui.FieldEngineNumbers

/-!
# The program of the field engine

`_workbench_vm_body` runs over the fields of a packet, collects the
instructions of those that are iterated over, and remembers the last variable
that the stream can be split by.
-/

namespace TrexWebui

open PyStr Octets

/-! ## Programs -/

/-- An instruction of the field engine. -/
inductive VmInstruction where
  | flowVar (flowVar : FlowVar)
  | write (write : FieldWrite)
  | trimPktSize (name : String)
  | writeLength (name : String) (write : LengthWrite)
  | fixChecksumIpv4 (pktOffset : Nat)
  | fixChecksumIcmpv6 (l2Len l3Len : Nat)
  | fixChecksumHw (l2Len l3Len l4Type : Nat)
  deriving DecidableEq

def VmInstruction.declared : VmInstruction → Option FlowVar
  | .flowVar declared => some declared
  | _ => none

/-- The name of the variable that is written, or that the packet is cut to. -/
def VmInstruction.used : VmInstruction → Option String
  | .write written => some written.name
  | .trimPktSize name => some name
  | .writeLength name _ => some name
  | _ => none

def VmInstruction.ofLength : LengthInstruction → VmInstruction
  | .flowVar declared => .flowVar declared
  | .trimPktSize name => .trimPktSize name
  | .writeFlowVar name written => .writeLength name written

/-- What `_workbench_vm_body` returns, without the cache size. -/
structure VmBody where
  instructions : List VmInstruction
  splitByVar : String

namespace VmBody

variable (body : VmBody)

def flowVars : List FlowVar := body.instructions.filterMap VmInstruction.declared

/-- Every variable fits its size and is declared once, every write refers to one, and so does
the choice for splitting, where there is one. -/
structure Sound : Prop where
  representable : ∀ flowVar ∈ body.flowVars, flowVar.Representable
  declared_once : (body.flowVars.map (·.name)).Nodup
  writes_declared : ∀ instruction ∈ body.instructions, ∀ name, instruction.used = some name →
    name ∈ body.flowVars.map (·.name)
  split : body.splitByVar = "" ∨
    ∃ flowVar ∈ body.flowVars, flowVar.name = body.splitByVar ∧ flowVar.op ≠ .random

end VmBody

/-! ## Fields of the program -/

/-- A field of the packet, with an address or a number. -/
inductive EngineField where
  | address (field : AddressField) (count_pos : 0 < field.count)
  | number (field : NumberField)

/-- The `variable_name` of the builder. -/
def EngineField.variableName : EngineField → String
  | .address field _ => field.variableName
  | .number field => field.variableName

/-- Which checksum is to be fixed after a field has changed. -/
inductive ChecksumEffect where
  | unchanged
  | required
  | asLayer3
  | vxlanInner
  | gtpuInner
  | greInner
  deriving DecidableEq

/-- One builder call of `_workbench_vm_body`, with what it does with the instructions: those of
`udp_checksum` and `tcp_checksum` come last, and a MAC variable is taken for splitting without
a look at its operation. -/
structure VmStep where
  field : EngineField
  effect : ChecksumEffect := .unchanged
  terminal : Bool := false
  splits : Bool := false

/-- The variables of `_workbench_vm_body`. -/
structure VmState where
  instructions : List VmInstruction := []
  terminalChecksumInstructions : List VmInstruction := []
  splitByVar : String := ""
  checksumRequired : Bool := false
  vxlanInnerChecksumRequired : Bool := false
  gtpuInnerChecksumRequired : Bool := false
  greInnerChecksumRequired : Bool := false

def VmState.add (state : VmState) (terminal : Bool) (added : List VmInstruction) : VmState :=
  if terminal then
    { state with terminalChecksumInstructions := state.terminalChecksumInstructions ++ added }
  else { state with instructions := state.instructions ++ added }

def VmState.split (state : VmState) (splits : Bool) (name : String) : VmState :=
  if splits then { state with splitByVar := name } else state

def VmState.require (state : VmState) (hasL3 : Bool) : ChecksumEffect → VmState
  | .unchanged => state
  | .required => { state with checksumRequired := true }
  | .asLayer3 => { state with checksumRequired := hasL3 }
  | .vxlanInner => { state with vxlanInnerChecksumRequired := true }
  | .gtpuInner => { state with gtpuInnerChecksumRequired := true }
  | .greInner => { state with greInnerChecksumRequired := true }

def fieldInstructions (flowVar : FlowVar) (write : FieldWrite) : List VmInstruction :=
  [.flowVar flowVar, .write write]

namespace EngineStream

variable (stream : EngineStream)

def vmInstructions : EngineField → Option (FlowVar × FieldWrite)
  | .address field _ =>
      (field.instructions stream.addressLayout).map fun built => (built.1, .plain built.2)
  | .number field => stream.numberVmInstructions field

def vmStep (state : VmState) (step : VmStep) : VmState :=
  match stream.vmInstructions step.field with
  | none => state
  | some (flowVar, write) =>
      (state.add step.terminal (fieldInstructions flowVar write)).split
        (step.splits || flowVar.op ≠ .random) step.field.variableName
        |>.require stream.packetType.hasL3 step.effect

def callsWith (effect : ChecksumEffect) (fields : List EngineField) : List VmStep :=
  fields.map fun field => { field, effect }

def macField (field : FlowEnd) : EngineField :=
  .address (.mac field ((stream.mac field).of
    (if field = .dst then stream.etherDst else stream.etherSrc))) (stream.mac field).count_pos

def ipv4Field (field : FlowEnd) : EngineField :=
  .address (.ipv4 field ((stream.ipv4 field).of
    (if field = .dst then stream.ipv4Dst else stream.ipv4Src))) (stream.ipv4 field).count_pos

def ipv6Field (field : FlowEnd) : EngineField :=
  .address (.ipv6 field ((stream.ipv6 field).of
    (if field = .dst then stream.ipv6Dst else stream.ipv6Src))) (stream.ipv6 field).count_pos

def innerIpv4Field (tunnel : Tunnel) (field : FlowEnd) : EngineField :=
  .address (.innerIpv4 tunnel field ((stream.innerIpv4 tunnel field).of
    (if field = .dst then (stream.inner tunnel).ipv4Dst else (stream.inner tunnel).ipv4Src)))
    (stream.innerIpv4 tunnel field).count_pos

def innerIpv6Field (tunnel : Tunnel) (field : FlowEnd) : EngineField :=
  .address (.innerIpv6 tunnel field ((stream.innerIpv6 tunnel field).of
    (if field = .dst then (stream.inner tunnel).ipv6Dst else (stream.inner tunnel).ipv6Src)))
    (stream.innerIpv6 tunnel field).count_pos

def arpIpField (field : ArpEnd) : EngineField :=
  .address (.arpIp field ((stream.arpIp field).of
    (if field = .target then stream.arpTargetIp else stream.arpSenderIp)))
    (stream.arpIp field).count_pos

def arpMacField (field : ArpEnd) : EngineField :=
  .address (.arpMac field ((stream.arpMac field).of
    (if field = .target then stream.arpTargetMac else stream.arpSenderMac)))
    (stream.arpMac field).count_pos

def dnsAnswerIpv4Field : EngineField :=
  .address (.dnsAnswerIpv4 (stream.dnsAnswerIpv4.of stream.dns.answerIpv4))
    stream.dnsAnswerIpv4.count_pos

def dhcpClientMacField : EngineField :=
  .address (.dhcpClientMac (stream.dhcpClientMac.of stream.dhcp.clientMac))
    stream.dhcpClientMac.count_pos

def dhcpIpv4OptionField (field : FlowEnd) : EngineField :=
  .address (.dhcpIpv4Option field ((stream.dhcpIpv4Option field).of
    (if field = .src then stream.dhcp.requestedIp else stream.dhcp.serverId)))
    (stream.dhcpIpv4Option field).count_pos

def dhcpBootpIpv4Field (field : BootpField) : EngineField :=
  .address (.dhcpBootpIpv4 field ((stream.dhcpBootpIpv4 field).of
    (match field with
      | .clientIp => stream.dhcp.clientIp
      | .yourIp => stream.dhcp.yourIp
      | .serverIp => stream.dhcp.serverIp
      | .relayIp => stream.dhcp.relayIp)))
    (stream.dhcpBootpIpv4 field).count_pos

/-! ## The calls in order -/

def linkSteps : List VmStep :=
  [{ field := stream.macField .dst, splits := true },
    { field := stream.macField .src, splits := true }]
    ++ callsWith .unchanged
      ([.vlanPriority 1, .vlanId 1, .vlanPriority 2, .vlanId 2, .mplsLabel 1, .mplsTc 1, .mplsTtl 1,
        .mplsLabel 2, .mplsTc 2, .mplsTtl 2, .mplsLabel 3, .mplsTc 3, .mplsTtl 3].map .number)

def innerSteps (tunnel : Tunnel) (effect : ChecksumEffect) : List VmStep :=
  (match stream.innerVersion tunnel with
    | .ipv4 => callsWith effect [stream.innerIpv4Field tunnel .dst,
        stream.innerIpv4Field tunnel .src, .number (.innerIpv4Ttl tunnel)]
    | .ipv6 => callsWith effect [stream.innerIpv6Field tunnel .dst,
        stream.innerIpv6Field tunnel .src]
        ++ callsWith .unchanged [.number (.innerIpv6HopLimit tunnel)])
    ++ callsWith effect
      [.number (.innerL4Port tunnel .dst), .number (.innerL4Port tunnel .src)]

def vxlanSteps : List VmStep :=
  callsWith .unchanged [.number .vxlanVni]
    ++ if stream.vxlanEnabled then stream.innerSteps .vxlan .vxlanInner else []

def gtpuSteps : List VmStep :=
  callsWith .unchanged [.number .gtpuTeid]
    ++ if stream.hasGtpu then
      callsWith .unchanged
          ([.gtpuSequence, .gtpuNpdu, .gtpuExtensionUdpPort].map .number)
        ++ stream.innerSteps .gtpu .gtpuInner
    else []

def greSteps : List VmStep :=
  if stream.packetType.isGre then
    callsWith .unchanged [.number (.gre .key), .number (.gre .sequence)]
      ++ stream.innerSteps .gre .greInner
  else []

def arpSteps : List VmStep :=
  if stream.packetType.hasArp then
    callsWith .unchanged [.number .arpOperation, stream.arpIpField .target,
      stream.arpIpField .sender, stream.arpMacField .target, stream.arpMacField .sender]
  else []

def internetSteps : List VmStep :=
  if stream.packetType.hasL3 then
    match stream.packetType.ipVersion with
    | .ipv4 => callsWith .required ([stream.ipv4Field .dst, stream.ipv4Field .src]
        ++ [.ipv4Dscp, .ipv4Ecn, .ipv4Id, .ipv4FragmentOffset, .ipv4Ttl].map .number)
    | .ipv6 => callsWith .required [stream.ipv6Field .dst, stream.ipv6Field .src]
        ++ callsWith .unchanged
          ([.ipv6TrafficClass, .ipv6FlowLabel, .ipv6HopLimit].map .number)
  else []

def portSteps : List VmStep :=
  if stream.packetType.isTcp || stream.packetType.isUdp || stream.packetType.isSctp then
    callsWith (if stream.packetType.isSctp then .unchanged else .asLayer3)
      [.number (.l4Port .dst), .number (.l4Port .src)]
  else []

def udpSteps : List VmStep :=
  if stream.packetType.isUdp then
    callsWith .asLayer3
        ([.dnsTransactionId, .dnsFlags, .dnsQuestion .queryType, .dnsQuestion .queryClass,
            .dnsAnswerTtl].map .number
          ++ [stream.dnsAnswerIpv4Field]
          ++ [.dhcpBootp .operation, .dhcpBootp .hops, .dhcpBootp .seconds, .dhcpXid,
            .dhcpMessageType, .dhcpFlags].map .number
          ++ [stream.dhcpClientMacField]
          ++ [.clientIp, .yourIp, .serverIp, .relayIp].map stream.dhcpBootpIpv4Field
          ++ [stream.dhcpIpv4OptionField .src, stream.dhcpIpv4OptionField .dst]
          ++ [.dhcpTime .leaseTime, .dhcpTime .renewalTime, .dhcpTime .rebindingTime,
            .udpLength].map .number)
      ++ [{ field := .number .udpChecksum, terminal := true }]
  else []

def tcpSteps : List VmStep :=
  if stream.packetType.isTcp then
    callsWith .asLayer3
        ([.tcpNumber .ack, .tcpNumber .sequence, .tcpWindow, .tcpUrgentPointer, .tcpFlags,
          .tcpOptionMss, .tcpOptionSack .left, .tcpOptionSack .right, .tcpOptionTimestamp .value,
          .tcpOptionTimestamp .echo, .tcpOptionWindowScale].map .number)
      ++ [{ field := .number .tcpChecksum, terminal := true }]
  else []

def sctpSteps : List VmStep :=
  if stream.packetType.isSctp then
    callsWith .unchanged
      ([.sctp .verificationTag, .sctp .dataFlags, .sctp .tsn, .sctp .streamId,
        .sctp .streamSequence, .sctp .payloadProtocolId].map .number)
  else []

/-- `workbench_is_icmpv6_echo` -/
def isIcmpv6Echo : Bool :=
  stream.packetType = .ipv6Icmpv6 && (stream.icmp.type = 128 || stream.icmp.type = 129)

def icmpSteps : List VmStep :=
  if stream.isIcmpv6Echo then
    callsWith .required
      ([.icmp .type, .icmp .code, .icmp .identifier, .icmp .sequence].map .number)
  else []

/-- The builder calls of `_workbench_vm_body`. -/
def vmSteps : List VmStep :=
  stream.linkSteps ++ stream.vxlanSteps ++ stream.gtpuSteps ++ stream.greSteps ++ stream.arpSteps
    ++ stream.internetSteps ++ stream.portSteps ++ stream.udpSteps ++ stream.tcpSteps
    ++ stream.sctpSteps ++ stream.icmpSteps

/-! ## Checksums -/

/-- `_workbench_checksum_instruction` -/
def checksumInstruction : Option VmInstruction :=
  let fixIpv4 := match stream.packetType.ipVersion with
    | .ipv4 => some (.fixChecksumIpv4 stream.ipOffset)
    | .ipv6 => none
  match stream.packetType with
  | .ethernet | .arp => none
  | .ipv4 | .ipv6 => fixIpv4
  | .ipv4Gre | .ipv6Gre => fixIpv4
  | .ipv4Icmp => fixIpv4
  | .ipv6Icmpv6 => some (.fixChecksumIcmpv6 stream.l2HeaderLength stream.l3HeaderLength)
  | .ipv4Sctp | .ipv6Sctp => fixIpv4
  | .ipv4Tcp | .ipv6Tcp => some (.fixChecksumHw stream.l2HeaderLength stream.l3HeaderLength 13)
  | .ipv4Udp | .ipv6Udp => some (.fixChecksumHw stream.l2HeaderLength stream.l3HeaderLength 11)

/-- `_workbench_vxlan_inner_checksum_instruction`, `_workbench_gtpu_inner_checksum_instruction`
and `workbench_gre_inner_checksum_instruction` -/
def innerChecksumInstruction (tunnel : Tunnel) : VmInstruction :=
  .fixChecksumHw (tunnel.innerOffset stream.addressLayout)
    (stream.innerVersion tunnel).headerLength 11

/-- The instructions at the end of the program that fix checksums. -/
def checksumInstructions (state : VmState) : List VmInstruction :=
  (if state.checksumRequired then stream.checksumInstruction.toList else [])
    ++ (if state.vxlanInnerChecksumRequired then [stream.innerChecksumInstruction .vxlan] else [])
    ++ (if state.gtpuInnerChecksumRequired then [stream.innerChecksumInstruction .gtpu] else [])
    ++ (if state.greInnerChecksumRequired then [stream.innerChecksumInstruction .gre] else [])

/-! ## The program -/

/-- `_workbench_packet_length_vm_instructions` -/
def lengthInstructions : List VmInstruction :=
  stream.packetLengthVmInstructions.map .ofLength

def vmState : VmState := stream.vmSteps.foldl stream.vmStep {}

def workbenchVmBody : VmBody :=
  let state := stream.vmState
  let state := if stream.lengthInstructions.isEmpty then state
    else { state with checksumRequired := stream.packetType.hasL3 }
  { instructions := state.instructions ++ stream.lengthInstructions
      ++ stream.checksumInstructions state ++ state.terminalChecksumInstructions
    splitByVar := state.splitByVar }

/-! ## Runs over the calls -/

/-- A call that returned instructions. -/
structure Emission where
  step : VmStep
  flowVar : FlowVar
  write : FieldWrite

def emitted (steps : List VmStep) : List Emission :=
  steps.filterMap fun step =>
    (stream.vmInstructions step.field).map fun built => ⟨step, built.1, built.2⟩

def Emission.instructions (emission : Emission) : List VmInstruction :=
  fieldInstructions emission.flowVar emission.write

variable {stream : EngineStream} {state : VmState} {step : VmStep} {steps : List VmStep}
  {flowVar : FlowVar} {write : FieldWrite}

theorem require_lists (state : VmState) (hasL3 : Bool) (effect : ChecksumEffect) :
    (state.require hasL3 effect).instructions = state.instructions
      ∧ (state.require hasL3 effect).terminalChecksumInstructions
        = state.terminalChecksumInstructions
      ∧ (state.require hasL3 effect).splitByVar = state.splitByVar := by
  cases effect <;> exact ⟨rfl, rfl, rfl⟩

theorem split_lists (state : VmState) (splits : Bool) (name : String) :
    (state.split splits name).instructions = state.instructions
      ∧ (state.split splits name).terminalChecksumInstructions = state.terminalChecksumInstructions
      ∧ (state.split splits name).splitByVar = if splits then name else state.splitByVar := by
  cases splits <;> exact ⟨rfl, rfl, rfl⟩

theorem add_lists (state : VmState) (terminal : Bool) (added : List VmInstruction) :
    (state.add terminal added).instructions
        = state.instructions ++ (if terminal then [] else added)
      ∧ (state.add terminal added).terminalChecksumInstructions
        = state.terminalChecksumInstructions ++ (if terminal then added else [])
      ∧ (state.add terminal added).splitByVar = state.splitByVar := by
  cases terminal with
  | false => exact ⟨rfl, (List.append_nil _).symm, rfl⟩
  | true => exact ⟨(List.append_nil _).symm, rfl, rfl⟩

theorem vmStep_none (h : stream.vmInstructions step.field = none) :
    stream.vmStep state step = state := by
  rw [vmStep, h]

theorem vmStep_some (h : stream.vmInstructions step.field = some (flowVar, write)) :
    (stream.vmStep state step).instructions
        = state.instructions ++ (if step.terminal then [] else fieldInstructions flowVar write)
      ∧ (stream.vmStep state step).terminalChecksumInstructions
        = state.terminalChecksumInstructions
          ++ (if step.terminal then fieldInstructions flowVar write else [])
      ∧ (stream.vmStep state step).splitByVar
        = if step.splits || flowVar.op ≠ .random then step.field.variableName
          else state.splitByVar := by
  rw [vmStep, h]
  dsimp only
  rw [(require_lists _ _ _).1, (require_lists _ _ _).2.1, (require_lists _ _ _).2.2,
    (split_lists _ _ _).1, (split_lists _ _ _).2.1, (split_lists _ _ _).2.2,
    (add_lists _ _ _).1, (add_lists _ _ _).2.1, (add_lists _ _ _).2.2]
  exact ⟨rfl, rfl, rfl⟩

theorem emitted_cons_none (h : stream.vmInstructions step.field = none) :
    stream.emitted (step :: steps) = stream.emitted steps := by
  simp [emitted, h]

theorem emitted_cons_some (h : stream.vmInstructions step.field = some (flowVar, write)) :
    stream.emitted (step :: steps) = ⟨step, flowVar, write⟩ :: stream.emitted steps := by
  simp [emitted, h]

theorem foldl_instructions (steps : List VmStep) (state : VmState) :
    (steps.foldl stream.vmStep state).instructions = state.instructions
        ++ ((stream.emitted steps).filter fun emission => !emission.step.terminal).flatMap
          Emission.instructions
      ∧ (steps.foldl stream.vmStep state).terminalChecksumInstructions
        = state.terminalChecksumInstructions
        ++ ((stream.emitted steps).filter fun emission => emission.step.terminal).flatMap
          Emission.instructions := by
  induction steps generalizing state with
  | nil => simp [emitted]
  | cons step steps ih =>
      rw [List.foldl_cons, (ih _).1, (ih _).2]
      cases h : stream.vmInstructions step.field with
      | none => rw [vmStep_none h, emitted_cons_none h]; exact ⟨rfl, rfl⟩
      | some built =>
          obtain ⟨hinstructions, hterminal, -⟩ := vmStep_some h
          rw [hinstructions, hterminal, emitted_cons_some h]
          cases hlast : step.terminal <;>
            simp [hlast, Emission.instructions, List.append_assoc]

theorem foldl_splitByVar (steps : List VmStep) (state : VmState) :
    (steps.foldl stream.vmStep state).splitByVar = state.splitByVar ∨
      ∃ emission ∈ stream.emitted steps,
        (steps.foldl stream.vmStep state).splitByVar = emission.step.field.variableName
          ∧ (emission.step.splits = true ∨ emission.flowVar.op ≠ .random) := by
  induction steps generalizing state with
  | nil => exact .inl rfl
  | cons step steps ih =>
      rw [List.foldl_cons]
      cases h : stream.vmInstructions step.field with
      | none =>
          rw [vmStep_none h, emitted_cons_none h]
          exact ih state
      | some built =>
          rw [emitted_cons_some h]
          rcases ih (stream.vmStep state step) with hkept | ⟨emission, hmem, hchosen⟩
          · rw [hkept, (vmStep_some h).2.2]
            split_ifs with hsplit
            · refine .inr ⟨_, List.mem_cons_self, rfl, ?_⟩
              simpa using hsplit
            · exact .inl rfl
          · exact .inr ⟨emission, List.mem_cons_of_mem _ hmem, hchosen⟩

end EngineStream

end TrexWebui
