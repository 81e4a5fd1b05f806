import TrexWebui.FieldEngineBody

/-!
# The variables of a program are representable

The program that `_workbench_vm_body` writes declares each of its variables
once, uses no other, and is split by one of them or by none. Each variable fits
its size exactly when the address fields and the ARP operation leave room for
their counts.
-/

namespace TrexWebui

open PyStr Octets

namespace EngineStream

/-! ## Names -/

def innerIpv4Names (tunnel : Tunnel) : List String :=
  [s!"{tunnel.name}_inner_ipv4_{FlowEnd.dst.name}", s!"{tunnel.name}_inner_ipv4_{FlowEnd.src.name}",
    s!"{tunnel.name}_inner_ipv4_ttl"]

def innerIpv6Names (tunnel : Tunnel) : List String :=
  [s!"{tunnel.name}_inner_ipv6_{FlowEnd.dst.name}", s!"{tunnel.name}_inner_ipv6_{FlowEnd.src.name}",
    s!"{tunnel.name}_inner_ipv6_hop_limit"]

def innerNames (tunnel : Tunnel) : List String :=
  (innerIpv4Names tunnel ++ innerIpv6Names tunnel)
    ++ [s!"{tunnel.name}_inner_udp_{FlowEnd.dst.name}", s!"{tunnel.name}_inner_udp_{FlowEnd.src.name}"]

def ipv4Names : List String :=
  ["ip_dest", "ip_src", "ip_dscp", "ip_ecn", "ip_id", "ip_fragment_offset", "ip_ttl"]

def ipv6Names : List String :=
  ["ipv6_dest", "ipv6_src", "ipv6_traffic_class", "ipv6_flow_label", "ipv6_hop_limit"]

/-- The names of all variables, in the order of the builder calls. -/
def variableNames : List String :=
  ["mac_dest", "mac_src", "vlan_priority", "vlan_id", "vlan2_priority", "vlan2_id", "mpls_label",
    "mpls_tc", "mpls_ttl", "mpls_label2", "mpls_label2_tc", "mpls_label2_ttl", "mpls_label3",
    "mpls_label3_tc", "mpls_label3_ttl"]
  ++ (["vxlan_vni"] ++ innerNames .vxlan)
  ++ (["gtpu_teid"] ++ (["gtpu_sequence", "gtpu_npdu", "gtpu_extension_udp_port"]
    ++ innerNames .gtpu))
  ++ (["gre_key", "gre_sequence"] ++ innerNames .gre)
  ++ ["arp_operation", "arp_target_ip", "arp_sender_ip", "arp_target_mac", "arp_sender_mac"]
  ++ (ipv4Names ++ ipv6Names)
  ++ ["l4_dest_port", "l4_src_port"]
  ++ ["dns_transaction_id", "dns_flags", "dns_query_type", "dns_query_class", "dns_answer_ttl",
    "dns_answer_ipv4", "dhcp_operation", "dhcp_hops", "dhcp_seconds", "dhcp_xid",
    "dhcp_message_type", "dhcp_flags", "dhcp_client_mac", "dhcp_client_ip", "dhcp_your_ip",
    "dhcp_server_ip", "dhcp_relay_ip", "dhcp_requested_ip", "dhcp_server_id", "dhcp_lease_time",
    "dhcp_renewal_time", "dhcp_rebinding_time", "udp_length", "udp_checksum"]
  ++ ["tcp_ack", "tcp_sequence", "tcp_window", "tcp_urgent_pointer", "tcp_flags",
    "tcp_option_mss", "tcp_option_sack_left_edge", "tcp_option_sack_right_edge",
    "tcp_option_timestamp_value", "tcp_option_timestamp_echo", "tcp_option_window_scale",
    "tcp_checksum"]
  ++ ["sctp_verification_tag", "sctp_data_flags", "sctp_tsn", "sctp_stream_id",
    "sctp_stream_sequence", "sctp_payload_protocol_id"]
  ++ ["icmp_type", "icmp_code", "icmp_identifier", "icmp_sequence"]

theorem variableNames_nodup : (variableNames ++ ["pkt_len"]).Nodup := by decide +kernel

def stepNames (steps : List VmStep) : List String :=
  steps.map fun step => step.field.variableName

theorem stepNames_append (first second : List VmStep) :
    stepNames (first ++ second) = stepNames first ++ stepNames second :=
  List.map_append

theorem stepNames_ite {condition : Bool} {calls : List VmStep} {names : List String}
    (h : (stepNames calls).Sublist names) :
    (stepNames (if condition then calls else [])).Sublist names := by
  cases condition with
  | false => exact List.nil_sublist _
  | true => exact h

theorem stepNames_innerSteps (stream : EngineStream) (tunnel : Tunnel) (effect : ChecksumEffect) :
    (stepNames (stream.innerSteps tunnel effect)).Sublist (innerNames tunnel) := by
  unfold innerSteps
  rw [stepNames_append]
  cases stream.innerVersion tunnel with
  | ipv4 =>
      exact (List.sublist_append_left (innerIpv4Names tunnel) (innerIpv6Names tunnel)).append
        (List.Sublist.refl _)
  | ipv6 =>
      exact (List.sublist_append_right (innerIpv4Names tunnel) (innerIpv6Names tunnel)).append
        (List.Sublist.refl _)

theorem stepNames_internetSteps (stream : EngineStream) :
    (stepNames stream.internetSteps).Sublist (ipv4Names ++ ipv6Names) := by
  refine stepNames_ite ?_
  cases stream.packetType.ipVersion with
  | ipv4 => exact List.sublist_append_left ipv4Names ipv6Names
  | ipv6 => exact List.sublist_append_right ipv4Names ipv6Names

theorem stepNames_vmSteps (stream : EngineStream) :
    (stepNames stream.vmSteps).Sublist variableNames := by
  unfold vmSteps variableNames
  iterate 10 rw [stepNames_append]
  refine .append (.append (.append (.append (.append (.append (.append (.append (.append
    (.append ?link ?vxlan) ?gtpu) ?gre) ?arp) ?internet) ?ports) ?udp) ?tcp) ?sctp) ?icmp
  case link => exact List.Sublist.refl _
  case vxlan =>
    rw [vxlanSteps, stepNames_append]
    exact (List.Sublist.refl _).append (stepNames_ite (stream.stepNames_innerSteps _ _))
  case gtpu =>
    rw [gtpuSteps, stepNames_append]
    refine (List.Sublist.refl _).append (stepNames_ite ?_)
    rw [stepNames_append]
    exact (List.Sublist.refl _).append (stream.stepNames_innerSteps _ _)
  case gre =>
    refine stepNames_ite ?_
    rw [stepNames_append]
    exact (List.Sublist.refl _).append (stream.stepNames_innerSteps _ _)
  case arp => exact stepNames_ite (List.Sublist.refl _)
  case internet => exact stream.stepNames_internetSteps
  case ports => exact stepNames_ite (List.Sublist.refl _)
  case udp => exact stepNames_ite (List.Sublist.refl _)
  case tcp => exact stepNames_ite (List.Sublist.refl _)
  case sctp => exact stepNames_ite (List.Sublist.refl _)
  case icmp => exact stepNames_ite (List.Sublist.refl _)

/-! ## What is emitted -/

variable {stream : EngineStream} {emission : Emission}

theorem mem_emitted_iff {steps : List VmStep} : emission ∈ stream.emitted steps ↔
    emission.step ∈ steps ∧
      stream.vmInstructions emission.step.field = some (emission.flowVar, emission.write) := by
  constructor
  · intro h
    obtain ⟨step, hstep, hmapped⟩ := List.mem_filterMap.mp h
    obtain ⟨built, hbuilt, rfl⟩ := Option.map_eq_some_iff.mp hmapped
    exact ⟨hstep, hbuilt⟩
  · intro ⟨hstep, hbuilt⟩
    refine List.mem_filterMap.mpr ⟨emission.step, hstep, ?_⟩
    rw [hbuilt]
    rfl

/-- There is room for what the field is iterated over: in the octets that are written of an
address, and up to the largest ARP operation. -/
def HasRoomIn (stream : EngineStream) : EngineField → Prop
  | .address field _ => field.present stream.addressLayout = true →
      field.setting.operation ≠ .fixed → field.HasRoom
  | .number field => field = .arpOperation → (stream.number .arpOperation).operation ≠ .fixed →
      stream.arpOperation.toNat + (stream.number .arpOperation).count ≤ 65536

/-- A variable has the name of its field, is written under this name, and fits its size exactly
when there is room. -/
structure FieldBuilt (stream : EngineStream) (field : EngineField) (flowVar : FlowVar)
    (write : FieldWrite) : Prop where
  name : flowVar.name = field.variableName
  write_name : write.name = field.variableName
  representable_iff : flowVar.Representable ↔ stream.HasRoomIn field

theorem fieldBuilt {field : EngineField} {flowVar : FlowVar} {write : FieldWrite}
    (h : stream.vmInstructions field = some (flowVar, write)) :
    stream.FieldBuilt field flowVar write := by
  cases field with
  | address field count_pos =>
      obtain ⟨built, hinstructions, hbuilt⟩ := Option.map_eq_some_iff.mp h
      obtain ⟨rfl, rfl⟩ := Prod.mk.inj hbuilt
      have hspec := AddressField.built count_pos hinstructions
      have hpresent := AddressField.isSome_instructions_iff.mp
        (Option.isSome_of_mem hinstructions)
      refine ⟨hspec.name, hspec.write_name, hspec.representable_iff.trans ?_⟩
      exact ⟨fun hroom _ _ => hroom, fun hroom => hroom hpresent.1 hpresent.2⟩
  | number field =>
      have hspec := numberVmInstructions_emits h
      refine ⟨hspec.name, hspec.write_name, ?_⟩
      by_cases harp : field = .arpOperation
      · subst harp
        rw [arpOperation_representable_iff h]
        exact ⟨fun hroom _ _ => hroom, fun hroom => hroom rfl hspec.iterated⟩
      · exact iff_of_true (hspec.representable harp) fun h => absurd h harp

theorem hasRoomIn_of_none {field : EngineField} (h : stream.vmInstructions field = none) :
    stream.HasRoomIn field := by
  cases field with
  | address field count_pos =>
      intro hpresent hiterated
      have hsome := AddressField.isSome_instructions_iff.mpr ⟨hpresent, hiterated⟩
      rw [Option.map_eq_none_iff.mp h] at hsome
      exact absurd hsome Bool.false_ne_true
  | number field =>
      rintro rfl hiterated
      simp only [vmInstructions, numberVmInstructions, arpOperationVmInstructions,
        boundedVmInstructions, if_neg hiterated] at h
      cases h

theorem callsWith_splits {effect : ChecksumEffect} {fields : List EngineField} {step : VmStep}
    (h : step ∈ callsWith effect fields) : step.splits = false := by
  obtain ⟨field, -, rfl⟩ := List.mem_map.mp h
  rfl

theorem ite_splits {condition : Bool} {calls : List VmStep}
    (h : ∀ step ∈ calls, step.splits = false) :
    ∀ step ∈ (if condition then calls else []), step.splits = false := by
  cases condition with
  | false => exact fun step hstep => absurd hstep List.not_mem_nil
  | true => exact h

theorem append_splits {first second : List VmStep} (hfirst : ∀ step ∈ first, step.splits = false)
    (hsecond : ∀ step ∈ second, step.splits = false) :
    ∀ step ∈ first ++ second, step.splits = false := by
  intro step hstep
  rcases List.mem_append.mp hstep with hstep | hstep
  · exact hfirst step hstep
  · exact hsecond step hstep

theorem checksum_splits {field : NumberField} :
    ∀ step ∈ [{ field := .number field, terminal := true : VmStep }], step.splits = false := by
  intro step hstep
  rw [List.mem_singleton.mp hstep]

theorem innerSteps_splits (tunnel : Tunnel) (effect : ChecksumEffect) :
    ∀ step ∈ stream.innerSteps tunnel effect, step.splits = false := by
  refine append_splits ?_ fun step => callsWith_splits
  cases stream.innerVersion tunnel with
  | ipv4 => exact fun step => callsWith_splits
  | ipv6 => exact append_splits (fun step => callsWith_splits) fun step => callsWith_splits

theorem splits_of_mem {step : VmStep} (hstep : step ∈ stream.vmSteps) (hsplits : step.splits = true) :
    ∃ field, step.field = stream.macField field := by
  have hrest : ∀ calls : List VmStep, (∀ step ∈ calls, step.splits = false) → step ∉ calls :=
    fun calls hcalls hmem => Bool.false_ne_true ((hcalls step hmem).symm.trans hsplits)
  have hcalls : ∀ effect fields, step ∉ callsWith effect fields :=
    fun effect fields hmem => Bool.false_ne_true ((callsWith_splits hmem).symm.trans hsplits)
  have hinternet : ∀ step ∈ stream.internetSteps, step.splits = false := by
    refine ite_splits ?_
    cases stream.packetType.ipVersion with
    | ipv4 => exact fun step => callsWith_splits
    | ipv6 => exact append_splits (fun step => callsWith_splits) fun step => callsWith_splits
  simp only [vmSteps, List.mem_append] at hstep
  rcases hstep with (((((((((hlink | hvxlan) | hgtpu) | hgre) | harp) | hinternet') | hports) | hudp)
    | htcp) | hsctp) | hicmp
  · rcases List.mem_append.mp hlink with hmac | hlink
    · rcases List.mem_cons.mp hmac with rfl | hmac
      · exact ⟨.dst, rfl⟩
      · rw [List.mem_singleton.mp hmac]
        exact ⟨.src, rfl⟩
    · exact absurd hlink (hcalls _ _)
  · exact absurd hvxlan (hrest _ (append_splits (fun step => callsWith_splits)
      (ite_splits (innerSteps_splits _ _))))
  · exact absurd hgtpu (hrest _ (append_splits (fun step => callsWith_splits)
      (ite_splits (append_splits (fun step => callsWith_splits) (innerSteps_splits _ _)))))
  · exact absurd hgre (hrest _ (ite_splits
      (append_splits (fun step => callsWith_splits) (innerSteps_splits _ _))))
  · exact absurd harp (hrest _ (ite_splits fun step => callsWith_splits))
  · exact absurd hinternet' (hrest _ hinternet)
  · exact absurd hports (hrest _ (ite_splits fun step => callsWith_splits))
  · exact absurd hudp (hrest _ (ite_splits
      (append_splits (fun step => callsWith_splits) checksum_splits)))
  · exact absurd htcp (hrest _ (ite_splits
      (append_splits (fun step => callsWith_splits) checksum_splits)))
  · exact absurd hsctp (hrest _ (ite_splits fun step => callsWith_splits))
  · exact absurd hicmp (hrest _ (ite_splits fun step => callsWith_splits))

theorem op_ne_random (h : emission ∈ stream.emitted stream.vmSteps)
    (hchosen : emission.step.splits = true ∨ emission.flowVar.op ≠ .random) :
    emission.flowVar.op ≠ .random := by
  rcases hchosen with hsplits | hop
  · obtain ⟨hstep, hbuilt⟩ := mem_emitted_iff.mp h
    obtain ⟨field, hfield⟩ := splits_of_mem hstep hsplits
    rw [hfield] at hbuilt
    obtain ⟨built, hinstructions, hbuilt⟩ := Option.map_eq_some_iff.mp hbuilt
    have hcount : 0 < (AddressField.mac field ((stream.mac field).of
        (if field = .dst then stream.etherDst else stream.etherSrc))).count :=
      (stream.mac field).count_pos
    rw [← (Prod.mk.inj hbuilt).1, (AddressField.built hcount hinstructions).op]
    exact stream.mac_not_random field
  · exact hop

/-! ## The whole program -/

def emittedWhere (stream : EngineStream) (terminal : Bool) : List Emission :=
  (stream.emitted stream.vmSteps).filter fun emission => emission.step.terminal = terminal

theorem vmState_instructions (stream : EngineStream) :
    stream.vmState.instructions = (stream.emittedWhere false).flatMap Emission.instructions
      ∧ stream.vmState.terminalChecksumInstructions
        = (stream.emittedWhere true).flatMap Emission.instructions := by
  have hrun : stream.vmState.instructions = _ ∧ stream.vmState.terminalChecksumInstructions = _ :=
    foldl_instructions stream.vmSteps {}
  refine ⟨hrun.1.trans ?_, hrun.2.trans ?_⟩
  · simp [emittedWhere]
  · simp [emittedWhere]

theorem emitted_names : (((stream.emitted stream.vmSteps).map fun emission =>
    emission.flowVar.name)).Sublist variableNames := by
  have hnames : ((stream.emitted stream.vmSteps).map fun emission => emission.flowVar.name)
      = (stream.emitted stream.vmSteps).map fun emission => emission.step.field.variableName := by
    apply List.map_congr_left
    intro emission hemission
    exact (fieldBuilt (mem_emitted_iff.mp hemission).2).name
  have hsteps : ∀ steps : List VmStep, ((stream.emitted steps).map fun emission =>
      emission.step.field.variableName).Sublist (stepNames steps) := by
    intro steps
    induction steps with
    | nil => exact List.Sublist.refl _
    | cons step steps ih =>
        cases h : stream.vmInstructions step.field with
        | none =>
            rw [emitted_cons_none h]
            exact ih.cons _
        | some built =>
            rw [emitted_cons_some h]
            exact ih.cons_cons _
  rw [hnames]
  exact (hsteps stream.vmSteps).trans stream.stepNames_vmSteps

theorem filterMap_declared (emissions : List Emission) :
    (emissions.flatMap Emission.instructions).filterMap VmInstruction.declared
      = emissions.map (·.flowVar) := by
  induction emissions with
  | nil => rfl
  | cons emission emissions ih =>
      rw [List.flatMap_cons, List.filterMap_append, ih]
      rfl

def lengthVariables (stream : EngineStream) : List FlowVar :=
  stream.lengthInstructions.filterMap VmInstruction.declared

theorem lengthVariables_of_varies (h : stream.Varies) :
    stream.lengthVariables = [stream.packetLengthVariable] := by
  rw [lengthVariables, lengthInstructions,
    FramedStream.packetLengthVmInstructions_of_varies h, List.map_cons, List.map_cons,
    List.map_map]
  show stream.packetLengthVariable :: List.filterMap VmInstruction.declared (List.map _ _) = _
  refine congrArg (stream.packetLengthVariable :: ·) (List.filterMap_eq_nil_iff.mpr ?_)
  intro instruction hinstruction
  obtain ⟨write, -, rfl⟩ := List.mem_map.mp hinstruction
  rfl

theorem lengthVariables_of_not_varies (h : ¬ stream.Varies) : stream.lengthVariables = [] := by
  rw [lengthVariables, lengthInstructions,
    FramedStream.packetLengthVmInstructions_of_not_varies h]
  rfl

theorem lengthInstructions_used {instruction : VmInstruction} {name : String}
    (h : instruction ∈ stream.lengthInstructions) (hused : instruction.used = some name) :
    stream.Varies ∧ name = "pkt_len" := by
  obtain ⟨source, hsource, rfl⟩ := List.mem_map.mp h
  by_cases hvaries : stream.Varies
  · refine ⟨hvaries, ?_⟩
    rw [FramedStream.packetLengthVmInstructions_of_varies hvaries] at hsource
    rcases List.mem_cons.mp hsource with rfl | hsource
    · cases hused
    · rcases List.mem_cons.mp hsource with rfl | hsource
      · exact (Option.some.inj hused).symm
      · obtain ⟨write, -, rfl⟩ := List.mem_map.mp hsource
        exact (Option.some.inj hused).symm
  · rw [FramedStream.packetLengthVmInstructions_of_not_varies hvaries] at hsource
    exact absurd hsource List.not_mem_nil

theorem packetLengthVariable_representable (h : stream.Varies) :
    stream.packetLengthVariable.Representable := by
  obtain ⟨hlow, hle, heq⟩ := FramedStream.lengths_of_varies h
  have hmost := stream.frameLength_le
  refine ⟨Nat.le_refl _, ?_, ?_⟩
  · exact Nat.sub_le_sub_right hle 4
  · show stream.frameLengthMax - 4 < 256 ^ 2
    omega

theorem checksumInstructions_silent (state : VmState) :
    ∀ instruction ∈ stream.checksumInstructions state,
      instruction.declared = none ∧ instruction.used = none := by
  have hsingle : ∀ instruction : VmInstruction, ∀ condition : Bool,
      (instruction.declared = none ∧ instruction.used = none) →
      ∀ other ∈ (if condition then [instruction] else []),
        other.declared = none ∧ other.used = none := by
    intro instruction condition hsilent other hother
    cases condition with
    | false => exact absurd hother List.not_mem_nil
    | true =>
        rw [List.mem_singleton.mp hother]
        exact hsilent
  have houter : ∀ instruction ∈ (if state.checksumRequired then stream.checksumInstruction.toList
      else []), instruction.declared = none ∧ instruction.used = none := by
    intro instruction hinstruction
    cases hrequired : state.checksumRequired with
    | false =>
        rw [hrequired] at hinstruction
        exact absurd hinstruction List.not_mem_nil
    | true =>
        rw [hrequired, if_pos rfl, Option.mem_toList, checksumInstruction] at hinstruction
        cases htype : stream.packetType <;> rw [htype] at hinstruction <;> cases hinstruction <;>
          exact ⟨rfl, rfl⟩
  intro instruction hinstruction
  rcases List.mem_append.mp hinstruction with hinstruction | hgre
  · rcases List.mem_append.mp hinstruction with hinstruction | hgtpu
    · rcases List.mem_append.mp hinstruction with houter' | hvxlan
      · exact houter _ houter'
      · exact hsingle _ _ ⟨rfl, rfl⟩ _ hvxlan
    · exact hsingle _ _ ⟨rfl, rfl⟩ _ hgtpu
  · exact hsingle _ _ ⟨rfl, rfl⟩ _ hgre

/-- The variables of the program: those of the fields, and that of the packet length before the
last ones. -/
theorem flowVars_eq : stream.workbenchVmBody.flowVars
    = (stream.emittedWhere false).map (·.flowVar) ++ stream.lengthVariables
      ++ (stream.emittedWhere true).map (·.flowVar) := by
  have hsilent : ∀ state, (stream.checksumInstructions state).filterMap VmInstruction.declared = [] :=
    fun state => List.filterMap_eq_nil_iff.mpr fun instruction hinstruction =>
      (checksumInstructions_silent state instruction hinstruction).1
  obtain ⟨hinstructions, hterminal⟩ := stream.vmState_instructions
  unfold VmBody.flowVars workbenchVmBody
  dsimp only
  split_ifs <;>
    simp only [List.filterMap_append, hsilent, hinstructions, hterminal, filterMap_declared,
      List.append_nil, lengthVariables]

theorem mem_flowVars_iff {flowVar : FlowVar} : flowVar ∈ stream.workbenchVmBody.flowVars ↔
    (∃ emission ∈ stream.emitted stream.vmSteps, emission.flowVar = flowVar)
      ∨ flowVar ∈ stream.lengthVariables := by
  rw [flowVars_eq, List.mem_append, List.mem_append, List.mem_map, List.mem_map]
  simp only [emittedWhere, List.mem_filter, decide_eq_true_eq]
  constructor
  · rintro ((⟨emission, ⟨hemission, -⟩, heq⟩ | hlength) | ⟨emission, ⟨hemission, -⟩, heq⟩)
    · exact .inl ⟨emission, hemission, heq⟩
    · exact .inr hlength
    · exact .inl ⟨emission, hemission, heq⟩
  · rintro (⟨emission, hemission, heq⟩ | hlength)
    · cases hterminal : emission.step.terminal with
      | false => exact .inl (.inl ⟨emission, ⟨hemission, hterminal⟩, heq⟩)
      | true => exact .inr ⟨emission, ⟨hemission, hterminal⟩, heq⟩
    · exact .inl (.inr hlength)

theorem flowVars_declared_once : (stream.workbenchVmBody.flowVars.map (·.name)).Nodup := by
  have hlength : (stream.lengthVariables.map (·.name)).Sublist ["pkt_len"] := by
    by_cases hvaries : stream.Varies
    · rw [lengthVariables_of_varies hvaries]
      exact List.Sublist.refl _
    · rw [lengthVariables_of_not_varies hvaries]
      exact List.nil_sublist _
  have hparts : ((stream.emittedWhere false).map (·.flowVar.name)
      ++ (stream.emittedWhere true).map (·.flowVar.name)).Perm
        ((stream.emitted stream.vmSteps).map (·.flowVar.name)) := by
    rw [← List.map_append]
    refine List.Perm.map _ ?_
    have hsplit := List.filter_append_perm (fun emission : Emission => !emission.step.terminal)
      (stream.emitted stream.vmSteps)
    simpa [emittedWhere] using hsplit
  have hperm : (stream.workbenchVmBody.flowVars.map (·.name)).Perm
      (((stream.emitted stream.vmSteps).map (·.flowVar.name))
        ++ stream.lengthVariables.map (·.name)) := by
    rw [flowVars_eq, List.map_append, List.map_append, List.map_map, List.map_map,
      List.append_assoc]
    refine (List.Perm.append_left _ List.perm_append_comm).trans ?_
    rw [← List.append_assoc]
    exact hparts.append_right _
  exact hperm.nodup_iff.mpr (variableNames_nodup.sublist (emitted_names.append hlength))

theorem writes_declared : ∀ instruction ∈ stream.workbenchVmBody.instructions, ∀ name,
    instruction.used = some name → name ∈ stream.workbenchVmBody.flowVars.map (·.name) := by
  have hemitted : ∀ terminal, ∀ instruction ∈ (stream.emittedWhere terminal).flatMap
      Emission.instructions, ∀ name, instruction.used = some name →
      name ∈ stream.workbenchVmBody.flowVars.map (·.name) := by
    intro terminal instruction hinstruction name hused
    obtain ⟨emission, hemission, hinstruction⟩ := List.mem_flatMap.mp hinstruction
    have hmem := List.mem_of_mem_filter hemission
    have hbuilt := fieldBuilt (mem_emitted_iff.mp hmem).2
    rcases List.mem_cons.mp hinstruction with rfl | hinstruction
    · cases hused
    · rw [List.mem_singleton.mp hinstruction] at hused
      refine List.mem_map.mpr ⟨emission.flowVar, mem_flowVars_iff.mpr (.inl ⟨_, hmem, rfl⟩), ?_⟩
      rw [hbuilt.name, ← hbuilt.write_name]
      exact Option.some.inj hused
  intro instruction hinstruction name hused
  obtain ⟨hinstructions, hterminal⟩ := stream.vmState_instructions
  have hparts : ∃ state, instruction ∈ (stream.emittedWhere false).flatMap Emission.instructions
      ++ stream.lengthInstructions ++ stream.checksumInstructions state
      ++ (stream.emittedWhere true).flatMap Emission.instructions := by
    unfold workbenchVmBody at hinstruction
    dsimp only at hinstruction
    split_ifs at hinstruction <;> rw [hinstructions, hterminal] at hinstruction <;>
      exact ⟨_, hinstruction⟩
  obtain ⟨state, hparts⟩ := hparts
  rcases List.mem_append.mp hparts with hparts | hlast
  · rcases List.mem_append.mp hparts with hparts | hchecksum
    · rcases List.mem_append.mp hparts with hfirst | hlength
      · exact hemitted _ _ hfirst _ hused
      · obtain ⟨hvaries, rfl⟩ := lengthInstructions_used hlength hused
        refine List.mem_map.mpr ⟨stream.packetLengthVariable, mem_flowVars_iff.mpr (.inr ?_), rfl⟩
        rw [lengthVariables_of_varies hvaries]
        exact List.mem_singleton_self _
    · rw [(checksumInstructions_silent state _ hchecksum).2] at hused
      cases hused
  · exact hemitted _ _ hlast _ hused

theorem split_declared : stream.workbenchVmBody.splitByVar = "" ∨
    ∃ flowVar ∈ stream.workbenchVmBody.flowVars,
      flowVar.name = stream.workbenchVmBody.splitByVar ∧ flowVar.op ≠ .random := by
  have hbody : stream.workbenchVmBody.splitByVar = stream.vmState.splitByVar := by
    unfold workbenchVmBody
    dsimp only
    split_ifs <;> rfl
  have hrun : stream.vmState.splitByVar = "" ∨ _ := foldl_splitByVar stream.vmSteps {}
  rw [hbody]
  rcases hrun with hkept | hchosen
  · exact .inl hkept
  · obtain ⟨emission, hemission, hname, hsplits⟩ := hchosen
    refine .inr ⟨emission.flowVar, mem_flowVars_iff.mpr (.inl ⟨_, hemission, rfl⟩), ?_,
      op_ne_random hemission hsplits⟩
    rw [(fieldBuilt (mem_emitted_iff.mp hemission).2).name]
    exact hname.symm

/-- Every field of the packet that is iterated over leaves room for its count. -/
def HasRoom (stream : EngineStream) : Prop :=
  ∀ step ∈ stream.vmSteps, stream.HasRoomIn step.field

end EngineStream

/-- The variables of a stream are representable, declared once and properly referred to exactly
when its address fields and its ARP operation leave room for what they are iterated over. -/
theorem workbenchVmBody_sound_iff (stream : EngineStream) :
    stream.workbenchVmBody.Sound ↔ stream.HasRoom := by
  constructor
  · intro hsound step hstep
    cases h : stream.vmInstructions step.field with
    | none => exact EngineStream.hasRoomIn_of_none h
    | some built =>
        have hemission : ⟨step, built.1, built.2⟩ ∈ stream.emitted stream.vmSteps :=
          EngineStream.mem_emitted_iff.mpr ⟨hstep, h⟩
        exact (EngineStream.fieldBuilt h).representable_iff.mp (hsound.representable _
          (EngineStream.mem_flowVars_iff.mpr (.inl ⟨_, hemission, rfl⟩)))
  · intro hroom
    refine ⟨?_, EngineStream.flowVars_declared_once, EngineStream.writes_declared,
      EngineStream.split_declared⟩
    intro flowVar hflowVar
    rcases EngineStream.mem_flowVars_iff.mp hflowVar with ⟨emission, hemission, rfl⟩ | hlength
    · obtain ⟨hstep, hbuilt⟩ := EngineStream.mem_emitted_iff.mp hemission
      exact (EngineStream.fieldBuilt hbuilt).representable_iff.mpr (hroom _ hstep)
    · by_cases hvaries : stream.Varies
      · rw [EngineStream.lengthVariables_of_varies hvaries] at hlength
        rw [List.mem_singleton.mp hlength]
        exact EngineStream.packetLengthVariable_representable hvaries
      · rw [EngineStream.lengthVariables_of_not_varies hvaries] at hlength
        exact absurd hlength List.not_mem_nil

/-- A stream of UDP over IPv4 that counts up from the last destination addresses. -/
def lastDestinations : EngineStream :=
  { plainStream with
    frameLength_le := plainStream_frameLength
    gtpu_only := plainStream_gtpu
    ipv4Dst := ⟨[255, 255, 255, 250], rfl⟩
    ipv4 := fun field => if field = .dst then { operation := .inc } else {}
    normalized := ⟨false, {}, rfl⟩
    mac_not_random := fun _ h => FieldEngineOperation.noConfusion h
    mplsLabel_count_le := fun _ => by decide
    messageType_pos := by decide
    vxlanVni_le := by decide }

/-- The last six addresses are iterated over with a count of sixteen: the variable does not fit
its four octets. -/
theorem lastDestinations_overflow : ¬ ∀ stream : EngineStream, stream.workbenchVmBody.Sound := by
  intro hsound
  have hmem : ⟨"ip_dest", 4294967290, 4294967290, 4294967305, .inc, 4, 1⟩
      ∈ lastDestinations.workbenchVmBody.flowVars := by decide +kernel
  have hrange := (hsound lastDestinations).representable _ hmem
  exact absurd hrange.fits (by decide)

end TrexWebui
