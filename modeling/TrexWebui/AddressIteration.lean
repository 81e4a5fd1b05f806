import TrexWebui.FieldEngine
import TrexWebui.StreamLayout

/-!
# Address fields of the field engine

The instructions that `workbench_vm.py` emits for a field with an IPv4, IPv6
or MAC address. Only the last one, two, four or eight octets of the address
are written, so they must hold every carry of the iteration.
-/

namespace TrexWebui

open PyStr Octets

/-! ## Sizes -/

def ipv4FieldEngineSizeAndInit (address : Fixed 4) (count : Nat) : Nat × Nat :=
  if octetAt address.val 3 + count < 256 then (1, octetAt address.val 3)
  else if be16At address.val 2 + count < 65536 then (2, be16At address.val 2)
  else (4, be32At address.val 0)

def ipv6FieldEngineSizeAndInit (address : Fixed 16) (count : Nat) : Nat × Nat :=
  let value := numberOf address.val
  if value % 0x100 + count < 256 then (1, value % 0x100)
  else if value % 0x10000 + count < 65536 then (2, value % 0x10000)
  else if value % 0x100000000 + count < 4294967296 then (4, value % 0x100000000)
  else (8, value % 0x10000000000000000)

def macFieldEngineSizeAndInit (address : Fixed 6) (count : Nat) : Nat × Nat :=
  if octetAt address.val 5 + count < 256 then (1, octetAt address.val 5)
  else if be16At address.val 4 + count < 65536 then (2, be16At address.val 4)
  else (4, be32At address.val 2)

/-! ## Instructions -/

/-- `<field>`, `<field>_mode`, `<field>_count` and `<field>_step` of a stream. -/
structure AddressSetting (width : Nat) where
  address : Fixed width
  operation : FieldEngineOperation
  count : Nat
  step : Nat

/-- The instructions of most address fields: they count up from the address. -/
def addressVmInstructions {width : Nat} (name : String) (base : Nat) (setting : AddressSetting width)
    (sizeAndInit : Nat × Nat) : Option (FlowVar × WriteFlowVar) :=
  if setting.operation = .fixed then none
  else some
    ({ name, initValue := sizeAndInit.2, minValue := sizeAndInit.2,
       maxValue := sizeAndInit.2 + setting.count - 1, op := setting.operation,
       size := sizeAndInit.1, step := setting.step },
     { name, pktOffset := base + width - sizeAndInit.1 })

/-- The two ends of a header. -/
inductive FlowEnd where
  | dst
  | src
  deriving DecidableEq, Repr

inductive ArpEnd where
  | target
  | sender
  deriving DecidableEq, Repr

/-- The address fields of a BOOTP header. -/
inductive BootpField where
  | clientIp
  | yourIp
  | serverIp
  | relayIp
  deriving DecidableEq, Repr

/-- `payload_offsets` -/
def BootpField.payloadOffset : BootpField → Nat
  | .clientIp => 12
  | .yourIp => 16
  | .serverIp => 20
  | .relayIp => 24

def BootpField.name : BootpField → String
  | .clientIp => "dhcp_client_ip"
  | .yourIp => "dhcp_your_ip"
  | .serverIp => "dhcp_server_ip"
  | .relayIp => "dhcp_relay_ip"

/-- What of a stream decides where its address fields stand: the layout, and the places of the
DNS answer and of the two DHCP options with an address, where the stream has them. -/
structure AddressLayout where
  layout : LayoutFields
  dhcpEnabled : Bool
  dnsAnswerOffset : Option Nat
  requestedIpOffset : Option Nat
  serverIdOffset : Option Nat

section
variable (stream : AddressLayout)

/-- `workbench_has_dhcp` -/
def AddressLayout.hasDhcp : Bool :=
  stream.layout.packetType = .ipv4Udp && stream.dhcpEnabled && !stream.layout.vxlanEnabled
    && !stream.layout.gtpuEnabled

/-- `workbench_mac_address_vm_instructions` -/
def macAddressVmInstructions (field : FlowEnd) (setting : AddressSetting 6) :
    Option (FlowVar × WriteFlowVar) :=
  match field with
  | .dst => addressVmInstructions "mac_dest" 0 setting
      (macFieldEngineSizeAndInit setting.address setting.count)
  | .src => addressVmInstructions "mac_src" 6 setting
      (macFieldEngineSizeAndInit setting.address setting.count)

/-- `workbench_ipv4_address_vm_instructions` -/
def ipv4AddressVmInstructions (field : FlowEnd) (setting : AddressSetting 4) :
    Option (FlowVar × WriteFlowVar) :=
  match field with
  | .dst => addressVmInstructions "ip_dest" (stream.layout.ipOffset + 16) setting
      (ipv4FieldEngineSizeAndInit setting.address setting.count)
  | .src => addressVmInstructions "ip_src" (stream.layout.ipOffset + 12) setting
      (ipv4FieldEngineSizeAndInit setting.address setting.count)

/-- `workbench_ipv6_address_vm_instructions` -/
def ipv6AddressVmInstructions (field : FlowEnd) (setting : AddressSetting 16) :
    Option (FlowVar × WriteFlowVar) :=
  match field with
  | .dst => addressVmInstructions "ipv6_dest" (stream.layout.ipOffset + 24) setting
      (ipv6FieldEngineSizeAndInit setting.address setting.count)
  | .src => addressVmInstructions "ipv6_src" (stream.layout.ipOffset + 8) setting
      (ipv6FieldEngineSizeAndInit setting.address setting.count)

/-- The tunnels with addresses inside. -/
inductive Tunnel where
  | vxlan
  | gtpu
  | gre
  deriving DecidableEq, Repr

/-- The tunnel is there, and what is inside has this version; the inner IPv4 fields of GTP-U and
GRE are not guarded by the version. -/
def Tunnel.carries : Tunnel → IpVersion → Bool
  | .vxlan, version => stream.layout.vxlanEnabled && stream.layout.vxlanInnerIpVersion = version
  | .gtpu, .ipv4 => stream.layout.hasGtpu
  | .gtpu, .ipv6 => stream.layout.hasGtpu && stream.layout.gtpuInnerIpVersion = .ipv6
  | .gre, .ipv4 => stream.layout.packetType.isGre
  | .gre, .ipv6 => stream.layout.packetType.isGre && stream.layout.greInnerVersion = .ipv6

def Tunnel.name : Tunnel → String
  | .vxlan => "vxlan"
  | .gtpu => "gtpu"
  | .gre => "gre"

def FlowEnd.name : FlowEnd → String
  | .dst => "dst"
  | .src => "src"

def Tunnel.innerOffset : Tunnel → Nat
  | .vxlan => stream.layout.vxlanInnerOffset
  | .gtpu => stream.layout.gtpuInnerOffset
  | .gre => stream.layout.greInnerOffset

/-- `workbench_vxlan_inner_ipv4_address_vm_instructions`,
`workbench_gtpu_inner_ipv4_address_vm_instructions` and
`workbench_gre_inner_ipv4_address_vm_instructions` -/
def innerIpv4AddressVmInstructions (tunnel : Tunnel) (field : FlowEnd) (setting : AddressSetting 4) :
    Option (FlowVar × WriteFlowVar) :=
  if !tunnel.carries stream .ipv4 then none
  else addressVmInstructions s!"{tunnel.name}_inner_ipv4_{field.name}"
    (tunnel.innerOffset stream + if field = .dst then 16 else 12) setting
    (ipv4FieldEngineSizeAndInit setting.address setting.count)

/-- `workbench_vxlan_inner_ipv6_address_vm_instructions`,
`workbench_gtpu_inner_ipv6_address_vm_instructions` and
`workbench_gre_inner_ipv6_address_vm_instructions` -/
def innerIpv6AddressVmInstructions (tunnel : Tunnel) (field : FlowEnd)
    (setting : AddressSetting 16) : Option (FlowVar × WriteFlowVar) :=
  if !tunnel.carries stream .ipv6 then none
  else addressVmInstructions s!"{tunnel.name}_inner_ipv6_{field.name}"
    (tunnel.innerOffset stream + if field = .dst then 24 else 8) setting
    (ipv6FieldEngineSizeAndInit setting.address setting.count)

/-- `workbench_arp_ip_vm_instructions` -/
def arpIpVmInstructions (field : ArpEnd) (setting : AddressSetting 4) :
    Option (FlowVar × WriteFlowVar) :=
  match field with
  | .target => addressVmInstructions "arp_target_ip" (stream.layout.l2HeaderLength + 24) setting
      (ipv4FieldEngineSizeAndInit setting.address setting.count)
  | .sender => addressVmInstructions "arp_sender_ip" (stream.layout.l2HeaderLength + 14) setting
      (ipv4FieldEngineSizeAndInit setting.address setting.count)

/-- `workbench_arp_mac_vm_instructions` -/
def arpMacVmInstructions (field : ArpEnd) (setting : AddressSetting 6) :
    Option (FlowVar × WriteFlowVar) :=
  match field with
  | .target => addressVmInstructions "arp_target_mac" (stream.layout.l2HeaderLength + 18) setting
      (macFieldEngineSizeAndInit setting.address setting.count)
  | .sender => addressVmInstructions "arp_sender_mac" (stream.layout.l2HeaderLength + 8) setting
      (macFieldEngineSizeAndInit setting.address setting.count)

/-- `workbench_dns_answer_ipv4_vm_instructions` -/
def dnsAnswerIpv4VmInstructions (setting : AddressSetting 4) : Option (FlowVar × WriteFlowVar) :=
  stream.dnsAnswerOffset.bind fun answerOffset =>
    addressVmInstructions "dns_answer_ipv4" (answerOffset + 12) setting
      (ipv4FieldEngineSizeAndInit setting.address setting.count)

/-- `workbench_dhcp_client_mac_vm_instructions` -/
def dhcpClientMacVmInstructions (setting : AddressSetting 6) : Option (FlowVar × WriteFlowVar) :=
  if !stream.hasDhcp then none
  else addressVmInstructions "dhcp_client_mac" (stream.layout.l4Offset + 8 + 28) setting
    (macFieldEngineSizeAndInit setting.address setting.count)

/-- `workbench_dhcp_ipv4_option_vm_instructions`, for the requested address and, of the other
end, the server. -/
def dhcpIpv4OptionVmInstructions (field : FlowEnd) (setting : AddressSetting 4) :
    Option (FlowVar × WriteFlowVar) :=
  if !stream.hasDhcp || setting.address.val = [0, 0, 0, 0] then none
  else match field with
    | .src => stream.requestedIpOffset.bind fun optionOffset =>
        addressVmInstructions "dhcp_requested_ip" optionOffset setting
          (ipv4FieldEngineSizeAndInit setting.address setting.count)
    | .dst => stream.serverIdOffset.bind fun optionOffset =>
        addressVmInstructions "dhcp_server_id" optionOffset setting
          (ipv4FieldEngineSizeAndInit setting.address setting.count)

/-- The range of `workbench_dhcp_bootp_ipv4_vm_instructions`: from the address down, up, or
everywhere. -/
def bootpRange (setting : AddressSetting 4) (size initValue : Nat) : Nat × Nat :=
  match setting.operation with
  | .dec => (initValue - (setting.count - 1) * setting.step, initValue)
  | .inc => (initValue, min (256 ^ size - 1) (initValue + (setting.count - 1) * setting.step))
  | _ => (0, 256 ^ size - 1)

/-- `workbench_dhcp_bootp_ipv4_vm_instructions` -/
def dhcpBootpIpv4VmInstructions (field : BootpField) (setting : AddressSetting 4) :
    Option (FlowVar × WriteFlowVar) :=
  if !stream.hasDhcp || setting.operation = .fixed then none
  else
    let sizeAndInit := ipv4FieldEngineSizeAndInit setting.address setting.count
    let range := bootpRange setting sizeAndInit.1 sizeAndInit.2
    some
      ({ name := field.name, initValue := sizeAndInit.2, minValue := range.1, maxValue := range.2,
         op := setting.operation, size := sizeAndInit.1, step := setting.step },
       { name := field.name
         pktOffset := stream.layout.l4Offset + 8 + field.payloadOffset + 4 - sizeAndInit.1 })

end

/-! ## Fields -/

inductive AddressField where
  | mac (field : FlowEnd) (setting : AddressSetting 6)
  | ipv4 (field : FlowEnd) (setting : AddressSetting 4)
  | ipv6 (field : FlowEnd) (setting : AddressSetting 16)
  | innerIpv4 (tunnel : Tunnel) (field : FlowEnd) (setting : AddressSetting 4)
  | innerIpv6 (tunnel : Tunnel) (field : FlowEnd) (setting : AddressSetting 16)
  | arpIp (field : ArpEnd) (setting : AddressSetting 4)
  | arpMac (field : ArpEnd) (setting : AddressSetting 6)
  | dnsAnswerIpv4 (setting : AddressSetting 4)
  | dhcpClientMac (setting : AddressSetting 6)
  | dhcpIpv4Option (field : FlowEnd) (setting : AddressSetting 4)
  | dhcpBootpIpv4 (field : BootpField) (setting : AddressSetting 4)

namespace AddressField

def width : AddressField → Nat
  | .mac .. | .arpMac .. | .dhcpClientMac .. => 6
  | .ipv6 .. | .innerIpv6 .. => 16
  | _ => 4

def setting : (field : AddressField) → AddressSetting field.width
  | .mac _ setting => setting
  | .ipv4 _ setting => setting
  | .ipv6 _ setting => setting
  | .innerIpv4 _ _ setting => setting
  | .innerIpv6 _ _ setting => setting
  | .arpIp _ setting => setting
  | .arpMac _ setting => setting
  | .dnsAnswerIpv4 setting => setting
  | .dhcpClientMac setting => setting
  | .dhcpIpv4Option _ setting => setting
  | .dhcpBootpIpv4 _ setting => setting

def instructions (stream : AddressLayout) : AddressField → Option (FlowVar × WriteFlowVar)
  | .mac field setting => macAddressVmInstructions field setting
  | .ipv4 field setting => ipv4AddressVmInstructions stream field setting
  | .ipv6 field setting => ipv6AddressVmInstructions stream field setting
  | .innerIpv4 tunnel field setting => innerIpv4AddressVmInstructions stream tunnel field setting
  | .innerIpv6 tunnel field setting => innerIpv6AddressVmInstructions stream tunnel field setting
  | .arpIp field setting => arpIpVmInstructions stream field setting
  | .arpMac field setting => arpMacVmInstructions stream field setting
  | .dnsAnswerIpv4 setting => dnsAnswerIpv4VmInstructions stream setting
  | .dhcpClientMac setting => dhcpClientMacVmInstructions stream setting
  | .dhcpIpv4Option field setting => dhcpIpv4OptionVmInstructions stream field setting
  | .dhcpBootpIpv4 field setting => dhcpBootpIpv4VmInstructions stream field setting

def base (stream : AddressLayout) : AddressField → Nat
  | .mac .dst _ => 0
  | .mac .src _ => 6
  | .ipv4 .dst _ => stream.layout.ipOffset + 16
  | .ipv4 .src _ => stream.layout.ipOffset + 12
  | .ipv6 .dst _ => stream.layout.ipOffset + 24
  | .ipv6 .src _ => stream.layout.ipOffset + 8
  | .innerIpv4 tunnel field _ => tunnel.innerOffset stream + if field = .dst then 16 else 12
  | .innerIpv6 tunnel field _ => tunnel.innerOffset stream + if field = .dst then 24 else 8
  | .arpIp .target _ => stream.layout.l2HeaderLength + 24
  | .arpIp .sender _ => stream.layout.l2HeaderLength + 14
  | .arpMac .target _ => stream.layout.l2HeaderLength + 18
  | .arpMac .sender _ => stream.layout.l2HeaderLength + 8
  | .dnsAnswerIpv4 _ => stream.dnsAnswerOffset.getD 0 + 12
  | .dhcpClientMac _ => stream.layout.l4Offset + 8 + 28
  | .dhcpIpv4Option .src _ => stream.requestedIpOffset.getD 0
  | .dhcpIpv4Option .dst _ => stream.serverIdOffset.getD 0
  | .dhcpBootpIpv4 field _ => stream.layout.l4Offset + 8 + field.payloadOffset

def value (field : AddressField) : Nat := numberOf field.setting.address.val

def count (field : AddressField) : Nat := field.setting.count

def sizeAndInit : AddressField → Nat × Nat
  | .mac _ setting => macFieldEngineSizeAndInit setting.address setting.count
  | .ipv4 _ setting => ipv4FieldEngineSizeAndInit setting.address setting.count
  | .ipv6 _ setting => ipv6FieldEngineSizeAndInit setting.address setting.count
  | .innerIpv4 _ _ setting => ipv4FieldEngineSizeAndInit setting.address setting.count
  | .innerIpv6 _ _ setting => ipv6FieldEngineSizeAndInit setting.address setting.count
  | .arpIp _ setting => ipv4FieldEngineSizeAndInit setting.address setting.count
  | .arpMac _ setting => macFieldEngineSizeAndInit setting.address setting.count
  | .dnsAnswerIpv4 setting => ipv4FieldEngineSizeAndInit setting.address setting.count
  | .dhcpClientMac setting => macFieldEngineSizeAndInit setting.address setting.count
  | .dhcpIpv4Option _ setting => ipv4FieldEngineSizeAndInit setting.address setting.count
  | .dhcpBootpIpv4 _ setting => ipv4FieldEngineSizeAndInit setting.address setting.count

/-- The fields of a BOOTP header count down from the address, all others count down to it. -/
def borrows : AddressField → Bool
  | .dhcpBootpIpv4 _ setting => setting.operation = .dec
  | _ => false

def addresses (field : AddressField) : List Nat :=
  (List.range field.count).map fun i =>
    if field.borrows then field.value - i else field.value + i

def AddressesExist (field : AddressField) : Prop :=
  if field.borrows then field.count ≤ field.value + 1
  else field.value + field.count ≤ 256 ^ field.width

end AddressField

/-! ## The property -/

/-- The packets of one full cycle carry these addresses in the field, each of them once. -/
def Iterated (server : FlowVarServer) (flowVar : FlowVar) (write : WriteFlowVar)
    (base width : Nat) (address : Bytes) (addresses : List Nat) : Prop :=
  ∀ packet : Bytes, base + width ≤ packet.length → slice packet base width = address →
    ((server.cycle flowVar).map fun value =>
      slice (writeFlowVar packet flowVar write value) base width).Perm
        (addresses.map (octetsOf width))

section
variable {server : FlowVarServer} {flowVar : FlowVar} {write : WriteFlowVar} {base width : Nat}
  {address : Bytes} {n : Nat}

theorem slice_writeFlowVar {packet : Bytes} (hlength : address.length = width)
    (hsize : flowVar.size ≤ width) (hplace : write.pktOffset = base + width - flowVar.size)
    (hfits : base + width ≤ packet.length) (hfield : slice packet base width = address)
    (value : Nat) :
    slice (writeFlowVar packet flowVar write value) base width
      = octetsOf width (numberOf address / 256 ^ flowVar.size * 256 ^ flowVar.size
        + value % 256 ^ flowVar.size) := by
  rw [writeFlowVar, hplace]
  apply slice_overwrite_low hfits hsize
  rw [hfield]
  subst hlength
  exact (octetsOf_numberOf address).symm

theorem exists_packet (base : Nat) (hlength : address.length = width) :
    ∃ packet : Bytes, base + width ≤ packet.length ∧ slice packet base width = address := by
  refine ⟨List.replicate base 0 ++ address, ?_, ?_⟩
  · rw [List.length_append, List.length_replicate, hlength]
  · rw [slice, List.drop_left' (by rw [List.length_replicate]), ← hlength, List.take_length]

/-- Counting from the address: all is well exactly when the written octets hold every carry. -/
theorem iterated_up_iff (hlength : address.length = width) (hsize : flowVar.size ≤ width)
    (hplace : write.pktOffset = base + width - flowVar.size)
    (hop : flowVar.op = .inc ∨ flowVar.op = .dec) (hstep : flowVar.step = 1)
    (hmin : flowVar.minValue = numberOf address % 256 ^ flowVar.size)
    (hinit : flowVar.initValue = flowVar.minValue)
    (hmax : flowVar.maxValue = flowVar.minValue + n - 1) (hcount : 0 < n)
    (hexist : numberOf address + n ≤ 256 ^ width) :
    Iterated server flowVar write base width address
        ((List.range n).map (numberOf address + ·))
      ↔ numberOf address % 256 ^ flowVar.size + n ≤ 256 ^ flowVar.size := by
  have hpos : 0 < 256 ^ flowVar.size := Nat.pow_pos (by decide)
  have hlow := Nat.mod_lt (numberOf address) hpos
  have hsplit := Nat.div_add_mod (numberOf address) (256 ^ flowVar.size)
  rw [Nat.mul_comm] at hsplit
  constructor
  · intro iterated
    by_contra hover
    obtain ⟨packet, hfits, hfield⟩ := exists_packet base hlength
    have hperm := iterated packet hfits hfield
    -- the address after the carry has other octets above the written ones
    have hmem : octetsOf width (numberOf address + (256 ^ flowVar.size
        - numberOf address % 256 ^ flowVar.size)) ∈
        ((List.range n).map (numberOf address + ·)).map (octetsOf width) :=
      List.mem_map_of_mem (List.mem_map_of_mem (List.mem_range.mpr (by omega)))
    obtain ⟨value, -, hvalue⟩ := List.mem_map.mp (hperm.mem_iff.mpr hmem)
    have hmod := Nat.mod_lt value hpos
    rw [slice_writeFlowVar hlength hsize hplace hfits hfield,
      octetsOf_inj (by omega) (by omega)] at hvalue
    omega
  · intro hhold packet hfits hfield
    have hrepresentable : flowVar.Representable := ⟨by omega, by omega, by omega⟩
    have hcycle := cycle_perm server hrepresentable hstep (by
      rcases hop with hop | hop
      · exact .inl ⟨hop, hinit⟩
      · exact .inr ⟨hop, .inl hinit⟩)
    have hrange : flowVar.cycleLength = n := by
      rw [FlowVar.cycleLength]
      omega
    rw [hrange] at hcycle
    refine (hcycle.map _).trans (List.Perm.of_eq ?_)
    rw [List.map_map, List.map_map]
    apply List.map_congr_left
    intro i hi
    have hlt := List.mem_range.mp hi
    rw [Function.comp_apply, Function.comp_apply,
      slice_writeFlowVar hlength hsize hplace hfits hfield,
      Nat.mod_eq_of_lt (show flowVar.minValue + i < 256 ^ flowVar.size by omega)]
    congr 1
    omega

/-- Counting down from the address: all is well exactly when no octet has to be borrowed from. -/
theorem iterated_down_iff (hlength : address.length = width) (hsize : flowVar.size ≤ width)
    (hplace : write.pktOffset = base + width - flowVar.size) (hop : flowVar.op = .dec)
    (hstep : flowVar.step = 1)
    (hmax : flowVar.maxValue = numberOf address % 256 ^ flowVar.size)
    (hinit : flowVar.initValue = flowVar.maxValue)
    (hmin : flowVar.minValue = flowVar.maxValue - (n - 1)) (hcount : 0 < n) :
    Iterated server flowVar write base width address
        ((List.range n).map (numberOf address - ·))
      ↔ n ≤ numberOf address % 256 ^ flowVar.size + 1 := by
  have hpos : 0 < 256 ^ flowVar.size := Nat.pow_pos (by decide)
  have hlow := Nat.mod_lt (numberOf address) hpos
  have hsplit := Nat.div_add_mod (numberOf address) (256 ^ flowVar.size)
  rw [Nat.mul_comm] at hsplit
  constructor
  · intro iterated
    obtain ⟨packet, hfits, hfield⟩ := exists_packet base hlength
    have hcycle := (iterated packet hfits hfield).length_eq
    simp only [FlowVarServer.cycle, List.length_map, List.length_range, FlowVar.cycleLength]
      at hcycle
    omega
  · intro hhold packet hfits hfield
    have hrepresentable : flowVar.Representable := ⟨by omega, by omega, by omega⟩
    have hrange : flowVar.cycleLength = n := by
      rw [FlowVar.cycleLength]
      omega
    refine List.Perm.of_eq ?_
    rw [FlowVarServer.cycle, List.map_map, List.map_map, hrange]
    apply List.map_congr_left
    intro i hi
    have hlt := List.mem_range.mp hi
    rw [Function.comp_apply, Function.comp_apply,
      value_dec_top hrepresentable hop hstep hinit (by rw [hrange]; exact hlt),
      slice_writeFlowVar hlength hsize hplace hfits hfield,
      Nat.mod_eq_of_lt (show flowVar.maxValue - i < 256 ^ flowVar.size by omega)]
    congr 1
    omega

end

/-! ## Sizes of the address families -/

theorem ipv4FieldEngineSizeAndInit_eq (address : Fixed 4) (count : Nat) :
    let value := numberOf address.val
    ipv4FieldEngineSizeAndInit address count =
      if value % 0x100 + count < 256 then (1, value % 0x100)
      else if value % 0x10000 + count < 65536 then (2, value % 0x10000)
      else (4, value % 0x100000000) := by
  obtain ⟨octets, hlength⟩ := address
  obtain ⟨a, b, c, d, rfl⟩ := List.length_eq_four.mp hlength
  have ha := a.toNat_lt
  have hb := b.toNat_lt
  have hc := c.toNat_lt
  have hd := d.toNat_lt
  have hone : numberOf [a, b, c, d] % 0x100 = d.toNat := by
    simp only [numberOf, List.foldl_cons, List.foldl_nil]
    omega
  have htwo : numberOf [a, b, c, d] % 0x10000 = be16At [a, b, c, d] 2 := by
    show (((_ * 256 + c.toNat) * 256 + d.toNat) % 0x10000 = c.toNat * 256 + d.toNat)
    omega
  have hfour : numberOf [a, b, c, d] % 0x100000000 = be32At [a, b, c, d] 0 := by
    show (((((0 * 256 + a.toNat) * 256 + b.toNat) * 256 + c.toNat) * 256 + d.toNat) % 0x100000000
      = (a.toNat * 256 + b.toNat) * 65536 + (c.toNat * 256 + d.toNat))
    omega
  dsimp only
  rw [hone, htwo, hfour]
  rfl

theorem ipv4FieldEngineSizeAndInit_spec (address : Fixed 4) (count : Nat) :
    let sizeAndInit := ipv4FieldEngineSizeAndInit address count
    let value := numberOf address.val
    sizeAndInit.1 ≤ 4 ∧ sizeAndInit.2 = value % 256 ^ sizeAndInit.1
      ∧ (value + count ≤ 256 ^ 4 → value % 256 ^ sizeAndInit.1 + count ≤ 256 ^ sizeAndInit.1) := by
  simp only [ipv4FieldEngineSizeAndInit_eq]
  split_ifs <;> simp only [Nat.reducePow, true_and] <;> omega

theorem macFieldEngineSizeAndInit_eq (address : Fixed 6) (count : Nat) :
    let value := numberOf address.val
    macFieldEngineSizeAndInit address count =
      if value % 0x100 + count < 256 then (1, value % 0x100)
      else if value % 0x10000 + count < 65536 then (2, value % 0x10000)
      else (4, value % 0x100000000) := by
  obtain ⟨octets, hlength⟩ := address
  obtain ⟨a, octets, rfl⟩ := List.exists_of_length_succ octets hlength
  obtain ⟨b, octets, rfl⟩ := List.exists_of_length_succ octets (Nat.succ.inj hlength)
  obtain ⟨c, d, e, f, rfl⟩ := List.length_eq_four.mp (Nat.succ.inj (Nat.succ.inj hlength))
  have hc := c.toNat_lt
  have hd := d.toNat_lt
  have he := e.toNat_lt
  have hf := f.toNat_lt
  have hone : numberOf [a, b, c, d, e, f] % 0x100 = f.toNat := by
    show ((_ * 256 + f.toNat) % 0x100 = f.toNat)
    omega
  have htwo : numberOf [a, b, c, d, e, f] % 0x10000 = be16At [a, b, c, d, e, f] 4 := by
    show (((_ * 256 + e.toNat) * 256 + f.toNat) % 0x10000 = e.toNat * 256 + f.toNat)
    omega
  have hfour : numberOf [a, b, c, d, e, f] % 0x100000000 = be32At [a, b, c, d, e, f] 2 := by
    show (((((_ * 256 + c.toNat) * 256 + d.toNat) * 256 + e.toNat) * 256 + f.toNat) % 0x100000000
      = (c.toNat * 256 + d.toNat) * 65536 + (e.toNat * 256 + f.toNat))
    omega
  dsimp only
  rw [hone, htwo, hfour]
  rfl

theorem macFieldEngineSizeAndInit_spec (address : Fixed 6) (count : Nat) :
    let sizeAndInit := macFieldEngineSizeAndInit address count
    let value := numberOf address.val
    sizeAndInit.1 ≤ 6 ∧ sizeAndInit.2 = value % 256 ^ sizeAndInit.1
      ∧ (value % 256 ^ sizeAndInit.1 + count ≤ 256 ^ sizeAndInit.1
        ↔ value % 256 ^ 4 + count ≤ 256 ^ 4) := by
  simp only [macFieldEngineSizeAndInit_eq]
  split_ifs <;> simp only [Nat.reducePow, true_and, and_true] <;> omega

theorem ipv6FieldEngineSizeAndInit_spec (address : Fixed 16) (count : Nat) :
    let sizeAndInit := ipv6FieldEngineSizeAndInit address count
    let value := numberOf address.val
    sizeAndInit.1 ≤ 16 ∧ sizeAndInit.2 = value % 256 ^ sizeAndInit.1
      ∧ (value % 256 ^ sizeAndInit.1 + count ≤ 256 ^ sizeAndInit.1
        ↔ value % 256 ^ 8 + count ≤ 256 ^ 8) := by
  simp only [ipv6FieldEngineSizeAndInit]
  split_ifs <;> simp only [Nat.reducePow, true_and, and_true] <;> omega

/-! ## Address fields -/

namespace AddressField

variable {stream : AddressLayout} {field : AddressField} {flowVar : FlowVar} {write : WriteFlowVar}

/-- What the two instructions of a field say. -/
structure Emitted (stream : AddressLayout) (field : AddressField) (flowVar : FlowVar)
    (write : WriteFlowVar) : Prop where
  op : flowVar.op = field.setting.operation
  step : flowVar.step = field.setting.step
  size : flowVar.size = field.sizeAndInit.1
  init : flowVar.initValue = field.sizeAndInit.2
  place : write.pktOffset = field.base stream + field.width - flowVar.size
  /-- Up, from the address, unless the range of a BOOTP field is cut or goes down. -/
  up : field.borrows = false → flowVar.op = .inc ∨ flowVar.op = .dec → field.setting.step = 1 →
    0 < field.count → field.sizeAndInit.2 + field.count ≤ 256 ^ field.sizeAndInit.1 ∨
      field.width ≠ 4 →
    flowVar.minValue = field.sizeAndInit.2
      ∧ flowVar.maxValue = field.sizeAndInit.2 + field.count - 1
  down : field.borrows = true → field.setting.step = 1 →
    flowVar.maxValue = field.sizeAndInit.2
      ∧ flowVar.minValue = field.sizeAndInit.2 - (field.count - 1)

theorem addressVmInstructions_spec {width base : Nat} {name : String}
    {setting : AddressSetting width} {sizeAndInit : Nat × Nat}
    (h : addressVmInstructions name base setting sizeAndInit = some (flowVar, write)) :
    flowVar = ⟨name, sizeAndInit.2, sizeAndInit.2, sizeAndInit.2 + setting.count - 1,
        setting.operation, sizeAndInit.1, setting.step⟩
      ∧ write.pktOffset = base + width - sizeAndInit.1 := by
  unfold addressVmInstructions at h
  split at h
  · cases h
  · cases h
    exact ⟨rfl, rfl⟩

/-- Most fields go through `addressVmInstructions`. -/
theorem emitted_of_spec (hborrows : field.borrows = false) {name : String}
    (hflowVar : flowVar = ⟨name, field.sizeAndInit.2, field.sizeAndInit.2,
      field.sizeAndInit.2 + field.count - 1, field.setting.operation, field.sizeAndInit.1,
      field.setting.step⟩)
    (hplace : write.pktOffset = field.base stream + field.width - field.sizeAndInit.1) :
    Emitted stream field flowVar write := by
  subst hflowVar
  refine ⟨rfl, rfl, rfl, rfl, hplace, fun _ _ _ _ _ => ⟨rfl, rfl⟩, ?_⟩
  intro h
  rw [hborrows] at h
  cases h

theorem emitted (h : field.instructions stream = some (flowVar, write)) :
    Emitted stream field flowVar write := by
  cases field with
  | mac field setting =>
      cases field <;>
        exact emitted_of_spec rfl (addressVmInstructions_spec h).1 (addressVmInstructions_spec h).2
  | ipv4 field setting =>
      cases field <;>
        exact emitted_of_spec rfl (addressVmInstructions_spec h).1 (addressVmInstructions_spec h).2
  | ipv6 field setting =>
      cases field <;>
        exact emitted_of_spec rfl (addressVmInstructions_spec h).1 (addressVmInstructions_spec h).2
  | innerIpv4 tunnel field setting =>
      rw [instructions, innerIpv4AddressVmInstructions] at h
      split at h
      · cases h
      · exact emitted_of_spec rfl (addressVmInstructions_spec h).1 (addressVmInstructions_spec h).2
  | innerIpv6 tunnel field setting =>
      rw [instructions, innerIpv6AddressVmInstructions] at h
      split at h
      · cases h
      · exact emitted_of_spec rfl (addressVmInstructions_spec h).1 (addressVmInstructions_spec h).2
  | arpIp field setting =>
      cases field <;>
        exact emitted_of_spec rfl (addressVmInstructions_spec h).1 (addressVmInstructions_spec h).2
  | arpMac field setting =>
      cases field <;>
        exact emitted_of_spec rfl (addressVmInstructions_spec h).1 (addressVmInstructions_spec h).2
  | dnsAnswerIpv4 setting =>
      rw [instructions, dnsAnswerIpv4VmInstructions, Option.bind_eq_some_iff] at h
      obtain ⟨answerOffset, hoffset, h⟩ := h
      refine emitted_of_spec rfl (addressVmInstructions_spec h).1 ?_
      rw [base, hoffset]
      exact (addressVmInstructions_spec h).2
  | dhcpClientMac setting =>
      rw [instructions, dhcpClientMacVmInstructions] at h
      split at h
      · cases h
      · exact emitted_of_spec rfl (addressVmInstructions_spec h).1 (addressVmInstructions_spec h).2
  | dhcpIpv4Option field setting =>
      cases field <;> rw [instructions, dhcpIpv4OptionVmInstructions] at h <;> split at h <;>
        try cases h
      all_goals
        obtain ⟨optionOffset, hoffset, h⟩ := Option.bind_eq_some_iff.mp h
        refine emitted_of_spec rfl (addressVmInstructions_spec h).1 ?_
        rw [base, hoffset]
        exact (addressVmInstructions_spec h).2
  | dhcpBootpIpv4 field setting =>
      rw [instructions, dhcpBootpIpv4VmInstructions] at h
      split at h
      · cases h
      · cases h
        refine ⟨rfl, rfl, rfl, rfl, rfl, ?_, ?_⟩
        · intro hborrows hop hstep hcount hfits
          rcases hop with hop | hop
          · have hoperation : setting.operation = .inc := hop
            have hone : setting.step = 1 := hstep
            have hroom := hfits.resolve_right (fun hwidth => hwidth rfl)
            simp only [bootpRange, hoperation, hone, Nat.mul_one, sizeAndInit, count,
              AddressField.setting] at hroom hcount ⊢
            exact ⟨trivial, by omega⟩
          · have hoperation : setting.operation = .dec := hop
            rw [borrows, hoperation] at hborrows
            cases hborrows
        · intro hborrows hstep
          have hoperation : setting.operation = .dec := of_decide_eq_true hborrows
          have hone : setting.step = 1 := hstep
          simp only [bootpRange, hoperation, hone, Nat.mul_one, sizeAndInit, count,
            AddressField.setting]
          exact ⟨trivial, trivial⟩

/-- The written octets hold what the iteration carries into them: the last four of a MAC address,
the last eight of an IPv6 address, and, of a BOOTP address that counts down, as many as were
chosen for counting up. -/
structure CarriesFit (field : AddressField) : Prop where
  mac : field.width = 6 → field.value % 256 ^ 4 + field.count ≤ 256 ^ 4
  ipv6 : field.width = 16 → field.value % 256 ^ 8 + field.count ≤ 256 ^ 8
  bootp : field.borrows = true →
    (field.value % 256 + field.count < 256 → field.count ≤ field.value % 256 + 1)
      ∧ (256 ≤ field.value % 256 + field.count → field.value % 65536 + field.count < 65536 →
        field.count ≤ field.value % 65536 + 1)

theorem sizeAndInit_spec (field : AddressField) :
    field.sizeAndInit.1 ≤ field.width
      ∧ field.sizeAndInit.2 = field.value % 256 ^ field.sizeAndInit.1 := by
  have hipv4 := fun (setting : AddressSetting 4) =>
    ipv4FieldEngineSizeAndInit_spec setting.address setting.count
  have hipv6 := fun (setting : AddressSetting 16) =>
    ipv6FieldEngineSizeAndInit_spec setting.address setting.count
  have hmac := fun (setting : AddressSetting 6) =>
    macFieldEngineSizeAndInit_spec setting.address setting.count
  cases field with
  | mac _ setting => exact ⟨(hmac setting).1, (hmac setting).2.1⟩
  | ipv4 _ setting => exact ⟨(hipv4 setting).1, (hipv4 setting).2.1⟩
  | ipv6 _ setting => exact ⟨(hipv6 setting).1, (hipv6 setting).2.1⟩
  | innerIpv4 _ _ setting => exact ⟨(hipv4 setting).1, (hipv4 setting).2.1⟩
  | innerIpv6 _ _ setting => exact ⟨(hipv6 setting).1, (hipv6 setting).2.1⟩
  | arpIp _ setting => exact ⟨(hipv4 setting).1, (hipv4 setting).2.1⟩
  | arpMac _ setting => exact ⟨(hmac setting).1, (hmac setting).2.1⟩
  | dnsAnswerIpv4 setting => exact ⟨(hipv4 setting).1, (hipv4 setting).2.1⟩
  | dhcpClientMac setting => exact ⟨(hmac setting).1, (hmac setting).2.1⟩
  | dhcpIpv4Option _ setting => exact ⟨(hipv4 setting).1, (hipv4 setting).2.1⟩
  | dhcpBootpIpv4 _ setting => exact ⟨(hipv4 setting).1, (hipv4 setting).2.1⟩

theorem capacity (field : AddressField) :
    (field.width = 4 → field.value + field.count ≤ 256 ^ 4 →
        field.value % 256 ^ field.sizeAndInit.1 + field.count ≤ 256 ^ field.sizeAndInit.1)
      ∧ (field.width = 6 →
        (field.value % 256 ^ field.sizeAndInit.1 + field.count ≤ 256 ^ field.sizeAndInit.1
          ↔ field.value % 256 ^ 4 + field.count ≤ 256 ^ 4))
      ∧ (field.width = 16 →
        (field.value % 256 ^ field.sizeAndInit.1 + field.count ≤ 256 ^ field.sizeAndInit.1
          ↔ field.value % 256 ^ 8 + field.count ≤ 256 ^ 8))
      ∧ (field.width = 4 ∨ field.width = 6 ∨ field.width = 16) := by
  have hipv4 := fun (setting : AddressSetting 4) =>
    (ipv4FieldEngineSizeAndInit_spec setting.address setting.count).2.2
  have hipv6 := fun (setting : AddressSetting 16) =>
    (ipv6FieldEngineSizeAndInit_spec setting.address setting.count).2.2
  have hmac := fun (setting : AddressSetting 6) =>
    (macFieldEngineSizeAndInit_spec setting.address setting.count).2.2
  cases field with
  | mac _ setting => exact ⟨by simp [width], fun _ => hmac setting, by simp [width], by simp [width]⟩
  | ipv4 _ setting => exact ⟨fun _ => hipv4 setting, by simp [width], by simp [width], by simp [width]⟩
  | ipv6 _ setting => exact ⟨by simp [width], by simp [width], fun _ => hipv6 setting, by simp [width]⟩
  | innerIpv4 _ _ setting =>
      exact ⟨fun _ => hipv4 setting, by simp [width], by simp [width], by simp [width]⟩
  | innerIpv6 _ _ setting =>
      exact ⟨by simp [width], by simp [width], fun _ => hipv6 setting, by simp [width]⟩
  | arpIp _ setting => exact ⟨fun _ => hipv4 setting, by simp [width], by simp [width], by simp [width]⟩
  | arpMac _ setting =>
      exact ⟨by simp [width], fun _ => hmac setting, by simp [width], by simp [width]⟩
  | dnsAnswerIpv4 setting =>
      exact ⟨fun _ => hipv4 setting, by simp [width], by simp [width], by simp [width]⟩
  | dhcpClientMac setting =>
      exact ⟨by simp [width], fun _ => hmac setting, by simp [width], by simp [width]⟩
  | dhcpIpv4Option _ setting =>
      exact ⟨fun _ => hipv4 setting, by simp [width], by simp [width], by simp [width]⟩
  | dhcpBootpIpv4 _ setting =>
      exact ⟨fun _ => hipv4 setting, by simp [width], by simp [width], by simp [width]⟩

theorem carriesFit_up (hborrows : field.borrows = false) (hexist : field.AddressesExist) :
    field.value % 256 ^ field.sizeAndInit.1 + field.count ≤ 256 ^ field.sizeAndInit.1
      ↔ field.CarriesFit := by
  obtain ⟨hfour, hsix, hsixteen, hwidths⟩ := field.capacity
  rw [AddressesExist, hborrows, if_neg Bool.false_ne_true] at hexist
  have hdown : field.borrows = true → False := fun h => Bool.false_ne_true (hborrows.symm.trans h)
  rcases hwidths with hwidth | hwidth | hwidth
  · rw [hwidth] at hexist
    exact iff_of_true (hfour hwidth hexist)
      ⟨fun h => by omega, fun h => by omega, fun h => (hdown h).elim⟩
  · rw [hsix hwidth]
    exact ⟨fun hfit => ⟨fun _ => hfit, fun h => by omega, fun h => (hdown h).elim⟩,
      fun hfit => hfit.mac hwidth⟩
  · rw [hsixteen hwidth]
    exact ⟨fun hfit => ⟨fun h => by omega, fun _ => hfit, fun h => (hdown h).elim⟩,
      fun hfit => hfit.ipv6 hwidth⟩

theorem carriesFit_down (hborrows : field.borrows = true) (hexist : field.AddressesExist) :
    field.count ≤ field.value % 256 ^ field.sizeAndInit.1 + 1 ↔ field.CarriesFit := by
  rw [AddressesExist, if_pos hborrows] at hexist
  have hsize : ∃ address : Fixed 4, field.value = numberOf address.val
      ∧ field.sizeAndInit = ipv4FieldEngineSizeAndInit address field.count ∧ field.width = 4 := by
    cases field with
    | dhcpBootpIpv4 _ setting => exact ⟨setting.address, rfl, rfl, rfl⟩
    | _ => cases hborrows
  obtain ⟨address, hvalue, hsize, hwidth⟩ := hsize
  have hwhole := numberOf_lt address.val
  rw [address.length_val, ← hvalue] at hwhole
  rw [hsize, ipv4FieldEngineSizeAndInit_eq, ← hvalue]
  have hcarries : field.CarriesFit ↔
      (field.value % 256 + field.count < 256 → field.count ≤ field.value % 256 + 1)
        ∧ (256 ≤ field.value % 256 + field.count → field.value % 65536 + field.count < 65536 →
          field.count ≤ field.value % 65536 + 1) :=
    ⟨fun hfit => hfit.bootp hborrows,
      fun hfit => ⟨fun h => by omega, fun h => by omega, fun _ => hfit⟩⟩
  rw [hcarries]
  split_ifs <;> simp only [Nat.reducePow] at hwhole ⊢ <;> omega

end AddressField

/-- The packets of one full cycle carry in an address field exactly the addresses of the
iteration, whatever the server does beyond counting, exactly when the written octets hold what
is carried into them. -/
theorem addresses_iterated_iff (server : FlowVarServer) {stream : AddressLayout}
    {field : AddressField} {flowVar : FlowVar} {write : WriteFlowVar}
    (h : field.instructions stream = some (flowVar, write)) (hstep : field.setting.step = 1)
    (hop : field.setting.operation = .inc ∨ field.setting.operation = .dec)
    (hcount : 0 < field.count) (hexist : field.AddressesExist) :
    Iterated server flowVar write (field.base stream) field.width field.setting.address.val
        field.addresses
      ↔ field.CarriesFit := by
  have emitted := AddressField.emitted h
  obtain ⟨hsize, hinit⟩ := field.sizeAndInit_spec
  rw [← emitted.size] at hsize hinit
  have hlength := field.setting.address.length_val
  have hop' : flowVar.op = .inc ∨ flowVar.op = .dec := by
    rw [emitted.op]
    exact hop
  have hstep' : flowVar.step = 1 := emitted.step.trans hstep
  cases hborrows : field.borrows with
  | false =>
      have hrange := emitted.up hborrows hop' hstep hcount (by
        by_cases hwidth : field.width = 4
        · have hexist' := hexist
          rw [AddressField.AddressesExist, hborrows, if_neg Bool.false_ne_true, hwidth] at hexist'
          have hfits := field.capacity.1 hwidth hexist'
          rw [← field.sizeAndInit_spec.2] at hfits
          exact .inl hfits
        · exact .inr hwidth)
      rw [← AddressField.carriesFit_up hborrows hexist, ← emitted.size]
      have haddresses : field.addresses = (List.range field.count).map (field.value + ·) := by
        simp only [AddressField.addresses, hborrows, Bool.false_eq_true, if_false]
      rw [AddressField.AddressesExist, hborrows, if_neg Bool.false_ne_true] at hexist
      rw [haddresses]
      exact iterated_up_iff hlength hsize emitted.place hop' hstep' (hrange.1.trans hinit)
        (emitted.init.trans hrange.1.symm) (by rw [hrange.1, hrange.2]) hcount hexist
  | true =>
      have hrange := emitted.down hborrows hstep
      have hdec : flowVar.op = .dec := by
        rw [emitted.op]
        cases field with
        | dhcpBootpIpv4 _ setting => exact of_decide_eq_true hborrows
        | _ => cases hborrows
      rw [← AddressField.carriesFit_down hborrows hexist, ← emitted.size]
      have haddresses : field.addresses = (List.range field.count).map (field.value - ·) := by
        simp only [AddressField.addresses, hborrows, if_true]
      rw [haddresses]
      exact iterated_down_iff hlength hsize emitted.place hdec hstep' (hrange.1.trans hinit)
        (emitted.init.trans hrange.1.symm) (by rw [hrange.1, hrange.2]) hcount

def dhcpStream : AddressLayout :=
  { layout := { packetType := .ipv4Udp }, dhcpEnabled := true, dnsAnswerOffset := none,
    requestedIpOffset := none, serverIdOffset := none }

def fourSources : AddressField :=
  .ipv4 .src { address := ⟨[10, 0, 0, 254], rfl⟩, operation := .inc, count := 4, step := 1 }

theorem fourSources_iterated : ∃ flowVar write,
    fourSources.instructions dhcpStream = some (flowVar, write)
      ∧ Iterated countingServer flowVar write (fourSources.base dhcpStream) fourSources.width
        fourSources.setting.address.val fourSources.addresses := by
  refine ⟨_, _, rfl, ?_⟩
  have hexist : fourSources.AddressesExist :=
    show numberOf [10, 0, 0, 254] + 4 ≤ 256 ^ 4 by decide
  refine (addresses_iterated_iff countingServer (show fourSources.instructions dhcpStream
    = some (_, _) from rfl) rfl (.inl rfl) (by decide) hexist).mpr ?_
  exact ⟨fun h => absurd h (by decide), fun h => absurd h (by decide), fun h => absurd h (by decide)⟩

/-- The client address 10.0.1.2 and four below it: one octet holds only three of them. -/
def fiveClients : AddressField :=
  .dhcpBootpIpv4 .clientIp
    { address := ⟨[10, 0, 1, 2], rfl⟩, operation := .dec, count := 5, step := 1 }

theorem fiveClients_lost : ∃ flowVar write,
    fiveClients.instructions dhcpStream = some (flowVar, write)
      ∧ ¬ Iterated countingServer flowVar write (fiveClients.base dhcpStream) fiveClients.width
        fiveClients.setting.address.val fiveClients.addresses := by
  refine ⟨_, _, rfl, ?_⟩
  intro iterated
  obtain ⟨packet, hfits, hfield⟩ := exists_packet (fiveClients.base dhcpStream)
    fiveClients.setting.address.length_val
  have hlength := (iterated packet hfits hfield).length_eq
  rw [List.length_map, List.length_map, FlowVarServer.cycle, List.length_map, List.length_range]
    at hlength
  exact absurd hlength (by decide)

end TrexWebui
