import TrexWebui.AddressIteration

/-!
# Ranges of address variables

When the variable of an address field fits its size. The builders take as many
octets of the address as the count asks for, but at most the last four of an
IPv4 or MAC address and the last eight of an IPv6 address, and nothing cuts
the range there. Only the fields of a BOOTP header have a range that is cut.
-/

namespace TrexWebui

open PyStr Octets

namespace AddressField

/-- The name of the variable, which is `variable_name` in each builder. -/
def variableName : AddressField → String
  | .mac .dst _ => "mac_dest"
  | .mac .src _ => "mac_src"
  | .ipv4 .dst _ => "ip_dest"
  | .ipv4 .src _ => "ip_src"
  | .ipv6 .dst _ => "ipv6_dest"
  | .ipv6 .src _ => "ipv6_src"
  | .innerIpv4 tunnel field _ => s!"{tunnel.name}_inner_ipv4_{field.name}"
  | .innerIpv6 tunnel field _ => s!"{tunnel.name}_inner_ipv6_{field.name}"
  | .arpIp .target _ => "arp_target_ip"
  | .arpIp .sender _ => "arp_sender_ip"
  | .arpMac .target _ => "arp_target_mac"
  | .arpMac .sender _ => "arp_sender_mac"
  | .dnsAnswerIpv4 _ => "dns_answer_ipv4"
  | .dhcpClientMac _ => "dhcp_client_mac"
  | .dhcpIpv4Option .src _ => "dhcp_requested_ip"
  | .dhcpIpv4Option .dst _ => "dhcp_server_id"
  | .dhcpBootpIpv4 field _ => field.name

def present (stream : AddressLayout) : AddressField → Bool
  | .innerIpv4 tunnel _ _ => tunnel.carries stream .ipv4
  | .innerIpv6 tunnel _ _ => tunnel.carries stream .ipv6
  | .dnsAnswerIpv4 _ => stream.dnsAnswerOffset.isSome
  | .dhcpClientMac _ | .dhcpBootpIpv4 .. => stream.hasDhcp
  | .dhcpIpv4Option .src setting =>
      stream.hasDhcp && setting.address.val ≠ [0, 0, 0, 0] && stream.requestedIpOffset.isSome
  | .dhcpIpv4Option .dst setting =>
      stream.hasDhcp && setting.address.val ≠ [0, 0, 0, 0] && stream.serverIdOffset.isSome
  | _ => true

def writtenOctets : AddressField → Nat
  | .ipv6 .. | .innerIpv6 .. => 8
  | _ => 4

def isBootp : AddressField → Bool
  | .dhcpBootpIpv4 .. => true
  | _ => false

/-- The octets that are written at most have room for the whole count. -/
def HasRoom (field : AddressField) : Prop :=
  field.isBootp = true ∨
    field.value % 256 ^ field.writtenOctets + field.count ≤ 256 ^ field.writtenOctets

/-! ## When something is emitted -/

variable {stream : AddressLayout} {field : AddressField} {flowVar : FlowVar} {write : WriteFlowVar}

theorem isSome_addressVmInstructions {width base : Nat} {name : String}
    {setting : AddressSetting width} {sizeAndInit : Nat × Nat} :
    (addressVmInstructions name base setting sizeAndInit).isSome = true
      ↔ setting.operation ≠ .fixed := by
  unfold addressVmInstructions
  split_ifs with hfixed
  · exact ⟨fun h => absurd h Bool.false_ne_true, fun h => absurd hfixed h⟩
  · exact ⟨fun _ => hfixed, fun _ => rfl⟩

theorem some_of_guard {α : Type} {guard : Prop} [Decidable guard] {result : Option α} {a : α}
    (h : (if guard then none else result) = some a) : result = some a := by
  split_ifs at h
  exact h

theorem isSome_guard {α : Type} {guard : Bool} {result : Option α} {p : Prop}
    (h : result.isSome = true ↔ p) :
    (if !guard then none else result).isSome = true ↔ guard = true ∧ p := by
  cases guard with
  | false => simp
  | true => simp [h]

theorem isSome_bind {α β : Type} {place : Option α} {result : α → Option β} {p : Prop}
    (h : ∀ a, (result a).isSome = true ↔ p) :
    (place.bind result).isSome = true ↔ place.isSome = true ∧ p := by
  cases place with
  | none => simp
  | some a => simp [h a]

/-- A field has instructions exactly when the packet has it and it is iterated over. -/
theorem isSome_instructions_iff : (field.instructions stream).isSome = true
    ↔ field.present stream = true ∧ field.setting.operation ≠ .fixed := by
  have always : ∀ {p : Prop}, p ↔ true = true ∧ p := fun {_} => ⟨fun h => ⟨rfl, h⟩, fun h => h.2⟩
  cases field with
  | mac field setting => cases field <;> exact isSome_addressVmInstructions.trans always
  | ipv4 field setting => cases field <;> exact isSome_addressVmInstructions.trans always
  | ipv6 field setting => cases field <;> exact isSome_addressVmInstructions.trans always
  | innerIpv4 tunnel field setting => exact isSome_guard isSome_addressVmInstructions
  | innerIpv6 tunnel field setting => exact isSome_guard isSome_addressVmInstructions
  | arpIp field setting => cases field <;> exact isSome_addressVmInstructions.trans always
  | arpMac field setting => cases field <;> exact isSome_addressVmInstructions.trans always
  | dnsAnswerIpv4 setting => exact isSome_bind fun _ => isSome_addressVmInstructions
  | dhcpClientMac setting => exact isSome_guard isSome_addressVmInstructions
  | dhcpIpv4Option field setting =>
      have hguard : ∀ place : Option Nat, ∀ name : String,
          (if !stream.hasDhcp || setting.address.val = [0, 0, 0, 0] then none
            else place.bind fun optionOffset => addressVmInstructions name optionOffset setting
              (ipv4FieldEngineSizeAndInit setting.address setting.count)).isSome = true
            ↔ (stream.hasDhcp && setting.address.val ≠ [0, 0, 0, 0] && place.isSome) = true
              ∧ setting.operation ≠ .fixed := by
        intro place name
        have hplace : (place.bind fun optionOffset => addressVmInstructions name optionOffset
            setting (ipv4FieldEngineSizeAndInit setting.address setting.count)).isSome = true
            ↔ place.isSome = true ∧ setting.operation ≠ .fixed :=
          isSome_bind fun _ => isSome_addressVmInstructions
        rw [Bool.and_eq_true, Bool.and_eq_true, and_assoc, and_assoc, ← hplace]
        cases stream.hasDhcp with
        | false => simp
        | true => by_cases hzero : setting.address.val = [0, 0, 0, 0] <;> simp [hzero]
      cases field with
      | src => exact hguard stream.requestedIpOffset "dhcp_requested_ip"
      | dst => exact hguard stream.serverIdOffset "dhcp_server_id"
  | dhcpBootpIpv4 field setting =>
      show (if !stream.hasDhcp || setting.operation = .fixed then none else some _).isSome = true
        ↔ stream.hasDhcp = true ∧ setting.operation ≠ .fixed
      cases stream.hasDhcp with
      | false => simp
      | true => by_cases hfixed : setting.operation = .fixed <;> simp [hfixed]

/-! ## What is emitted -/

theorem addressVmInstructions_name {width base : Nat} {name : String}
    {setting : AddressSetting width} {sizeAndInit : Nat × Nat}
    (h : addressVmInstructions name base setting sizeAndInit = some (flowVar, write)) :
    write.name = name := by
  unfold addressVmInstructions at h
  split_ifs at h
  cases h
  rfl

/-- What is emitted for a field: a variable of its name, which fits its size exactly when the
written octets have room. -/
structure Built (field : AddressField) (flowVar : FlowVar) (write : WriteFlowVar) : Prop where
  op : flowVar.op = field.setting.operation
  name : flowVar.name = field.variableName
  write_name : write.name = field.variableName
  representable_iff : flowVar.Representable ↔ field.HasRoom

/-- Whatever size is chosen, it has room exactly when the largest size has. -/
theorem ipv4FieldEngineSizeAndInit_room (address : Fixed 4) (count : Nat) :
    let size := (ipv4FieldEngineSizeAndInit address count).1
    numberOf address.val % 256 ^ size + count ≤ 256 ^ size
      ↔ numberOf address.val % 256 ^ 4 + count ≤ 256 ^ 4 := by
  simp only [ipv4FieldEngineSizeAndInit_eq]
  split_ifs <;> simp only [Nat.reducePow] <;> omega

theorem sizeAndInit_room (field : AddressField) :
    field.value % 256 ^ field.sizeAndInit.1 + field.count ≤ 256 ^ field.sizeAndInit.1
      ↔ field.value % 256 ^ field.writtenOctets + field.count ≤ 256 ^ field.writtenOctets := by
  cases field with
  | mac _ setting => exact (macFieldEngineSizeAndInit_spec setting.address setting.count).2.2
  | ipv4 _ setting => exact ipv4FieldEngineSizeAndInit_room setting.address setting.count
  | ipv6 _ setting => exact (ipv6FieldEngineSizeAndInit_spec setting.address setting.count).2.2
  | innerIpv4 _ _ setting => exact ipv4FieldEngineSizeAndInit_room setting.address setting.count
  | innerIpv6 _ _ setting =>
      exact (ipv6FieldEngineSizeAndInit_spec setting.address setting.count).2.2
  | arpIp _ setting => exact ipv4FieldEngineSizeAndInit_room setting.address setting.count
  | arpMac _ setting => exact (macFieldEngineSizeAndInit_spec setting.address setting.count).2.2
  | dnsAnswerIpv4 setting => exact ipv4FieldEngineSizeAndInit_room setting.address setting.count
  | dhcpClientMac setting => exact (macFieldEngineSizeAndInit_spec setting.address setting.count).2.2
  | dhcpIpv4Option _ setting => exact ipv4FieldEngineSizeAndInit_room setting.address setting.count
  | dhcpBootpIpv4 _ setting => exact ipv4FieldEngineSizeAndInit_room setting.address setting.count

/-- Most fields go through `addressVmInstructions`. -/
theorem built_of_spec (hcount : 0 < field.count) (hbootp : field.isBootp = false)
    (hflowVar : flowVar = ⟨field.variableName, field.sizeAndInit.2, field.sizeAndInit.2,
      field.sizeAndInit.2 + field.count - 1, field.setting.operation, field.sizeAndInit.1,
      field.setting.step⟩)
    (hname : write.name = field.variableName) : field.Built flowVar write := by
  subst hflowVar
  refine ⟨rfl, rfl, hname, ?_⟩
  have hroom : field.HasRoom ↔
      field.sizeAndInit.2 + field.count ≤ 256 ^ field.sizeAndInit.1 := by
    rw [field.sizeAndInit_spec.2, field.sizeAndInit_room]
    exact or_iff_right (fun h => Bool.false_ne_true (hbootp.symm.trans h))
  rw [hroom]
  constructor
  · intro hrange
    have hfits := hrange.fits
    dsimp only at hfits
    omega
  · intro hfits
    refine ⟨Nat.le_refl _, ?_, ?_⟩
    · dsimp only
      omega
    · dsimp only
      omega

theorem bootp_representable {setting : AddressSetting 4} {size initValue : Nat} {name : String}
    (hinit : initValue < 256 ^ size) :
    FlowVar.Representable ⟨name, initValue, (bootpRange setting size initValue).1,
      (bootpRange setting size initValue).2, setting.operation, size, setting.step⟩ := by
  have hlast : 256 ^ size - 1 < 256 ^ size := Nat.sub_lt (Nat.pow_pos (by decide)) Nat.one_pos
  have hmost : initValue ≤ 256 ^ size - 1 := Nat.le_pred_of_lt hinit
  unfold bootpRange
  cases setting.operation with
  | dec => exact ⟨Nat.sub_le _ _, Nat.le_refl _, hinit⟩
  | inc =>
      exact ⟨Nat.le_refl _, Nat.le_min.mpr ⟨hmost, Nat.le_add_right _ _⟩,
        Nat.lt_of_le_of_lt (Nat.min_le_left _ _) hlast⟩
  | fixed => exact ⟨Nat.zero_le _, hmost, hlast⟩
  | random => exact ⟨Nat.zero_le _, hmost, hlast⟩

theorem built (hcount : 0 < field.count)
    (h : field.instructions stream = some (flowVar, write)) : field.Built flowVar write := by
  cases field with
  | mac field setting =>
      cases field <;>
        exact built_of_spec hcount rfl (addressVmInstructions_spec h).1 (addressVmInstructions_name h)
  | ipv4 field setting =>
      cases field <;>
        exact built_of_spec hcount rfl (addressVmInstructions_spec h).1 (addressVmInstructions_name h)
  | ipv6 field setting =>
      cases field <;>
        exact built_of_spec hcount rfl (addressVmInstructions_spec h).1 (addressVmInstructions_name h)
  | innerIpv4 tunnel field setting =>
      have h := some_of_guard h
      exact built_of_spec hcount rfl (addressVmInstructions_spec h).1 (addressVmInstructions_name h)
  | innerIpv6 tunnel field setting =>
      have h := some_of_guard h
      exact built_of_spec hcount rfl (addressVmInstructions_spec h).1 (addressVmInstructions_name h)
  | arpIp field setting =>
      cases field <;>
        exact built_of_spec hcount rfl (addressVmInstructions_spec h).1 (addressVmInstructions_name h)
  | arpMac field setting =>
      cases field <;>
        exact built_of_spec hcount rfl (addressVmInstructions_spec h).1 (addressVmInstructions_name h)
  | dnsAnswerIpv4 setting =>
      obtain ⟨_, -, h⟩ := Option.bind_eq_some_iff.mp h
      exact built_of_spec hcount rfl (addressVmInstructions_spec h).1 (addressVmInstructions_name h)
  | dhcpClientMac setting =>
      have h := some_of_guard h
      exact built_of_spec hcount rfl (addressVmInstructions_spec h).1 (addressVmInstructions_name h)
  | dhcpIpv4Option field setting =>
      cases field <;>
        (obtain ⟨_, -, h⟩ := Option.bind_eq_some_iff.mp (some_of_guard h)
         exact built_of_spec hcount rfl (addressVmInstructions_spec h).1
           (addressVmInstructions_name h))
  | dhcpBootpIpv4 field setting =>
      have h := some_of_guard h
      obtain ⟨rfl, rfl⟩ := Prod.mk.inj (Option.some.inj h)
      refine ⟨rfl, rfl, rfl, iff_of_true (bootp_representable ?_) (.inl rfl)⟩
      rw [(ipv4FieldEngineSizeAndInit_spec setting.address setting.count).2.1]
      exact Nat.mod_lt _ (Nat.pow_pos (by decide))

end AddressField

end TrexWebui
