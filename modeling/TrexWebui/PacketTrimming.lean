import TrexWebui.FrameLengths
import TrexWebui.PacketConsistency

/-!
# Packets of varying length

The packet of a stream whose length varies is built once, for the longest
frame; the traffic server cuts it to the value of a variable and writes the
lengths anew. `lengths_kept_iff` says when the cut packet is still well
formed: exactly when the shortest frame has room for the headers.
-/

namespace TrexWebui

open PyStr Octets

/-! ## Instructions -/

/-- What a `write_flow_var` adds, and where it writes. -/
structure LengthWrite where
  addValue : Int
  pktOffset : Nat
  deriving DecidableEq

/-- An instruction of `workbench_packet_length_vm_instructions`. -/
inductive LengthInstruction where
  | flowVar (flowVar : FlowVar)
  | trimPktSize (name : String)
  | writeFlowVar (name : String) (write : LengthWrite)
  deriving DecidableEq

def LengthInstruction.write? : LengthInstruction → Option LengthWrite
  | .writeFlowVar _ write => some write
  | _ => none

namespace FramedStream

variable (stream : FramedStream)

/-- The variable `pkt_len`. -/
def packetLengthVariable : FlowVar :=
  { name := "pkt_len", initValue := stream.frameLengthMin - 4,
    minValue := stream.frameLengthMin - 4, maxValue := stream.frameLengthMax - 4,
    op := stream.frameLengthType.operation, size := 2, step := 1 }

def ipLengthWrite : LengthWrite :=
  match stream.packetType.ipVersion with
  | .ipv4 => ⟨-(stream.l2HeaderLength : Int), stream.ipOffset + 2⟩
  | .ipv6 => ⟨-(stream.l2HeaderLength + stream.l3HeaderLength : Int), stream.ipOffset + 4⟩

def udpLengthWrite : LengthWrite :=
  ⟨-(stream.l2HeaderLength + stream.l3HeaderLength : Int),
    stream.ipOffset + stream.l3HeaderLength + 4⟩

def lengthWrites : List LengthWrite :=
  if stream.packetType.hasL3 then
    stream.ipLengthWrite :: (if stream.packetType.isUdp then [stream.udpLengthWrite] else [])
  else []

/-- `workbench_packet_length_vm_instructions` -/
def packetLengthVmInstructions : List LengthInstruction :=
  if stream.frameLengthType.operation = .fixed || !stream.supportsVariableFrameLength then []
  else
    .flowVar stream.packetLengthVariable :: .trimPktSize "pkt_len"
      :: stream.lengthWrites.map (.writeFlowVar "pkt_len")

/-! ## What a cut packet needs -/

def headerLength : Nat :=
  if stream.packetType.hasArp then stream.l2HeaderLength + 28
  else stream.l2HeaderLength + stream.l3HeaderLength + stream.l4HeaderLength

/-- A length field of a packet, and where the octets start that it counts. -/
structure LengthField where
  offset : Nat
  countedFrom : Nat

/-- The total length of IPv4 counts its own header, the payload length of IPv6 does not, and the
length of UDP counts from the UDP header on. -/
def lengthFields : List LengthField :=
  if stream.packetType.hasL3 then
    (match stream.packetType.ipVersion with
      | .ipv4 => ⟨stream.ipOffset + 2, stream.ipOffset⟩
      | .ipv6 => ⟨stream.ipOffset + 4, stream.ipOffset + 40⟩)
      :: (if stream.packetType.isUdp then [⟨stream.l4Offset + 4, stream.l4Offset⟩] else [])
  else []

/-- The write is to the field, does not wrap, and gives the octets left in the cut packet. -/
structure Writes (cut : Bytes) (value : Nat) (write : LengthWrite) (field : LengthField) : Prop where
  offset : write.pktOffset = field.offset
  nonnegative : 0 ≤ (value : Int) + write.addValue
  bounded : (value : Int) + write.addValue < 65536
  counted : (value : Int) + write.addValue = (cut.drop field.countedFrom).length

/-- The packet, cut to this length, is well formed: all headers are left, and every length field
gets the octets that are left of what it counts. -/
structure WellTrimmed (packet : Bytes) (value : Nat) : Prop where
  within : value ≤ packet.length
  headers : stream.headerLength ≤ value
  lengths : List.Forall₂ (Writes (packet.take value) value)
    (stream.packetLengthVmInstructions.filterMap (·.write?)) stream.lengthFields

/-! ## The streams in question -/

/-- The length is not fixed, and the stream is one whose length can vary. -/
def Varies : Prop :=
  stream.frameLengthType ≠ .fixed ∧ stream.supportsVariableFrameLength = true

variable {stream}

theorem not_varies_iff : (stream.frameLengthType.operation = .fixed
    || !stream.supportsVariableFrameLength) = true ↔ ¬ stream.Varies := by
  simp only [Varies, Bool.or_eq_true, decide_eq_true_eq, FrameLengthType.operation_eq_fixed,
    Bool.not_eq_true', not_and_or, not_not, Bool.not_eq_true]

theorem packetLengthVmInstructions_of_varies (h : stream.Varies) :
    stream.packetLengthVmInstructions
      = .flowVar stream.packetLengthVariable :: .trimPktSize "pkt_len"
        :: stream.lengthWrites.map (.writeFlowVar "pkt_len") := by
  rw [packetLengthVmInstructions, if_neg]
  exact fun hnot => not_varies_iff.mp hnot h

theorem packetLengthVmInstructions_of_not_varies (h : ¬ stream.Varies) :
    stream.packetLengthVmInstructions = [] := by
  rw [packetLengthVmInstructions, if_pos (not_varies_iff.mpr h)]

/-- `pkt_len` is cut to exactly where the length varies. -/
theorem trimPktSize_mem_iff :
    .trimPktSize "pkt_len" ∈ stream.packetLengthVmInstructions ↔ stream.Varies := by
  constructor
  · intro hmem
    by_contra hnot
    rw [packetLengthVmInstructions_of_not_varies hnot] at hmem
    cases hmem
  · intro h
    rw [packetLengthVmInstructions_of_varies h]
    simp

theorem flowVar_mem {flowVar : FlowVar}
    (h : .flowVar flowVar ∈ stream.packetLengthVmInstructions) :
    flowVar = stream.packetLengthVariable := by
  have hvaries : stream.Varies := by
    by_contra hnot
    rw [packetLengthVmInstructions_of_not_varies hnot] at h
    cases h
  rw [packetLengthVmInstructions_of_varies hvaries] at h
  simpa using h

theorem filterMap_write? (h : stream.Varies) :
    stream.packetLengthVmInstructions.filterMap (·.write?) = stream.lengthWrites := by
  have hwrite : ∀ write, (LengthInstruction.writeFlowVar "pkt_len" write).write? = some write :=
    fun _ => rfl
  rw [packetLengthVmInstructions_of_varies h, List.filterMap_cons_none rfl,
    List.filterMap_cons_none rfl, List.filterMap_map]
  exact List.filterMap_some

theorem flowVar_mem_of_varies (h : stream.Varies) :
    .flowVar stream.packetLengthVariable ∈ stream.packetLengthVmInstructions := by
  rw [packetLengthVmInstructions_of_varies h]
  exact List.mem_cons_self

theorem lengths_of_varies (h : stream.Varies) :
    64 ≤ stream.frameLengthMin ∧ stream.frameLengthMin ≤ stream.frameLengthMax ∧
      stream.frameLength = stream.frameLengthMax := by
  obtain ⟨sctpIterated, request, hnormalized⟩ := stream.normalized
  have hordered := normalizeFrameLengths_ordered stream.toStream sctpIterated request
  rw [hnormalized] at hordered
  exact hordered h.1

theorem no_tunnel_of_varies (h : stream.Varies) :
    stream.vxlanEnabled = false ∧ stream.hasGtpu = false ∧ stream.packetType.isGre = false := by
  have hsupports := h.2
  simp only [Stream.supportsVariableFrameLength, Bool.not_eq_true', Bool.or_eq_false_iff] at hsupports
  exact ⟨hsupports.1.1.1.2, hsupports.1.1.1.1.2, hsupports.1.1.1.1.1⟩

end FramedStream

/-! ## The built packet -/

namespace FramedStream

variable {stream : FramedStream} (draws : Nat → UInt32)

theorem length_buildProfilePacket (h : stream.Varies) :
    (stream.buildProfilePacket draws).length = max stream.targetLength stream.headerLength := by
  obtain ⟨hvxlan, hgtpu, hgre⟩ := no_tunnel_of_varies h
  have hether := stream.length_ethernetHeader
  unfold Stream.buildProfilePacket headerLength
  cases harp : stream.packetType.hasArp with
  | true =>
      simp only [if_true, Stream.buildArpPacket, List.length_append, hether,
        Stream.length_arpHeader, length_payloadBytes]
      omega
  | false =>
      cases hl3 : stream.packetType.hasL3 with
      | false =>
          have hl4 : stream.l4HeaderLength = 0 := by
            unfold Stream.l4HeaderLength
            cases htype : stream.packetType <;> simp_all [PacketType.hasL3]
          simp only [Bool.false_eq_true, if_false, Bool.not_false, if_true,
            Stream.buildEthernetPacket, List.length_append, hether, length_payloadBytes, hl4,
            LayoutFields.l3HeaderLength, hl3]
          omega
      | true =>
          cases hversion : stream.packetType.ipVersion with
          | ipv4 =>
              have hheader : ∀ following, (stream.ipv4Header following).length = 20 := by
                intro following
                simp [Stream.ipv4Header, length_putBe16, packIpv4Header]
              have hpayload : (stream.ipv4Payload draws).length = stream.targetLength
                  - stream.l2HeaderLength - 20 - stream.l4HeaderLength := by
                unfold Stream.ipv4Payload
                simp only [hgtpu, hvxlan, hgre, Bool.false_eq_true, if_false]
                split
                · rw [Stream.length_udpPayloadBytes]
                · rw [length_payloadBytes]
              simp only [Bool.false_eq_true, if_false, Bool.not_true,
                Stream.buildIpv4Packet, List.length_append, hether, hheader,
                stream.length_ipv4L4Header _ hl3 hversion, hpayload, LayoutFields.l3HeaderLength,
                hl3, if_true, hversion, IpVersion.headerLength]
              omega
          | ipv6 =>
              have hheader : ∀ length, (stream.ipv6Header length).length = 40 := by
                intro length
                simp [Stream.ipv6Header, packIpv6Header]
              have hpayload : (stream.ipv6Payload draws).length = stream.targetLength
                  - stream.l2HeaderLength - 40 - stream.l4HeaderLength := by
                unfold Stream.ipv6Payload
                simp only [hgre, Bool.false_eq_true, if_false]
                split
                · rw [Stream.length_udpPayloadBytes]
                · rw [length_payloadBytes]
              simp only [Bool.false_eq_true, if_false, Bool.not_true,
                Stream.buildIpv6Packet, List.length_append, hether, hheader,
                stream.length_ipv6L4Header _ hl3 hversion, hpayload, LayoutFields.l3HeaderLength,
                hl3, if_true, hversion, IpVersion.headerLength]
              omega

/-! ## Cut packets -/

/-- The writes go to the length fields, and each adds what its field does not count. -/
theorem lengthWrites_fields : List.Forall₂ (fun (write : LengthWrite) (field : LengthField) =>
    write.pktOffset = field.offset ∧ write.addValue = -(field.countedFrom : Int) ∧
      field.countedFrom ≤ stream.headerLength) stream.lengthWrites stream.lengthFields := by
  have harp : stream.packetType.hasL3 = true → stream.packetType.hasArp = false := by
    cases htype : stream.packetType <;> simp [PacketType.hasL3, PacketType.hasArp]
  unfold lengthWrites lengthFields
  cases hl3 : stream.packetType.hasL3 with
  | false => exact .nil
  | true =>
      have hheader : stream.headerLength
          = stream.l2HeaderLength + stream.l3HeaderLength + stream.l4HeaderLength := by
        simp [headerLength, harp hl3]
      rw [if_pos rfl, if_pos rfl]
      refine .cons ?_ ?_
      · unfold ipLengthWrite
        cases hversion : stream.packetType.ipVersion with
        | ipv4 =>
            have hip : stream.l2HeaderLength ≤ stream.headerLength := by omega
            exact ⟨rfl, rfl, hip⟩
        | ipv6 =>
            have hl3Length : stream.l3HeaderLength = 40 := by
              simp [LayoutFields.l3HeaderLength, hl3, hversion, IpVersion.headerLength]
            have hip : stream.l2HeaderLength + 40 ≤ stream.headerLength := by omega
            refine ⟨rfl, ?_, hip⟩
            simp only [hl3Length, LayoutFields.ipOffset]
            rfl
      · split
        · have hudp : stream.l2HeaderLength + stream.l3HeaderLength ≤ stream.headerLength := by
            omega
          exact .cons ⟨rfl, by simp [udpLengthWrite, LayoutFields.l4Offset, LayoutFields.ipOffset],
            hudp⟩ .nil
        · exact .nil

theorem wellTrimmed {packet : Bytes} {value : Nat} (h : stream.Varies)
    (hheaders : stream.headerLength ≤ value) (hwithin : value ≤ packet.length)
    (hbounded : value < 65536) : stream.WellTrimmed packet value := by
  refine ⟨hwithin, hheaders, ?_⟩
  rw [filterMap_write? h]
  refine lengthWrites_fields.imp fun write field hfield => ?_
  obtain ⟨hoffset, hadd, hcounted⟩ := hfield
  have hlength : ((packet.take value).drop field.countedFrom).length
      = value - field.countedFrom := by
    rw [List.length_drop, List.length_take, Nat.min_eq_left hwithin]
  exact ⟨hoffset, by omega, by omega, by rw [hlength, hadd]; omega⟩

end FramedStream

/-! ## The condition -/

/-- Every cut packet is well formed exactly where the shortest has room for all headers. -/
theorem lengths_kept_iff (stream : FramedStream) (draws : Nat → UInt32) :
    (.trimPktSize "pkt_len" ∈ stream.packetLengthVmInstructions →
      ∀ flowVar, .flowVar flowVar ∈ stream.packetLengthVmInstructions →
      ∀ value, flowVar.minValue ≤ value → value ≤ flowVar.maxValue →
        stream.WellTrimmed (stream.buildProfilePacket draws) value)
    ↔ (stream.Varies → stream.headerLength ≤ stream.frameLengthMin - 4) := by
  rw [FramedStream.trimPktSize_mem_iff]
  constructor
  · intro hkept hvaries
    have hlengths := FramedStream.lengths_of_varies hvaries
    have hmin := hkept hvaries _ (FramedStream.flowVar_mem_of_varies hvaries)
      (stream.frameLengthMin - 4) (Nat.le_refl _)
      (show stream.frameLengthMin - 4 ≤ stream.frameLengthMax - 4 by omega)
    exact hmin.headers
  · intro hroom hvaries flowVar hmem value hlow hhigh
    obtain ⟨hmin, hle, hframe⟩ := FramedStream.lengths_of_varies hvaries
    have hheaders := hroom hvaries
    have hbuilt := FramedStream.length_buildProfilePacket draws hvaries
    have htarget : stream.frameLength - 4 ≤ stream.targetLength := Nat.le_max_right _ _
    have hframeBound := stream.frameLength_le
    rw [FramedStream.flowVar_mem hmem] at hlow hhigh
    have hlow : stream.frameLengthMin - 4 ≤ value := hlow
    have hhigh : value ≤ stream.frameLengthMax - 4 := hhigh
    apply FramedStream.wellTrimmed hvaries
    · omega
    · rw [hbuilt]
      omega
    · omega

theorem longest_frame : 1518 ≤ 9216 := by decide

theorem plain_udp : false = true ∨ false = true → PacketType.ipv6Udp = .ipv4Udp := by decide

theorem no_gtpu : false = true → false = false := fun _ => rfl

/-- UDP over IPv6 behind two VLAN tags and three labels: 82 octets of headers. -/
def taggedUdp : Stream :=
  { (default : Stream) with
    packetType := .ipv6Udp, vlanEnabled := true, vlan2Enabled := true, mplsEnabled := true,
    mplsLabel2Enabled := true, mplsLabel3Enabled := true, frameLength := 1518,
    frameLength_le := longest_frame, tunnel_udp := plain_udp, gtpu_only := no_gtpu }

theorem taggedUdp_normalized : ∃ sctpIterated request,
    normalizeFrameLengths taggedUdp sctpIterated request = ⟨.increment, 1518, 64, 1518⟩ :=
  ⟨false, { frameLengthType := .increment }, rfl⟩

def taggedStream : FramedStream :=
  { taggedUdp with
    frameLengthType := .increment, frameLengthMin := 64, frameLengthMax := 1518,
    normalized := taggedUdp_normalized }

/-- Its shortest packet has 60 octets and ends inside its headers. -/
theorem taggedStream_cut_short : ¬ ∀ (stream : FramedStream) (draws : Nat → UInt32),
    .trimPktSize "pkt_len" ∈ stream.packetLengthVmInstructions →
      ∀ flowVar, .flowVar flowVar ∈ stream.packetLengthVmInstructions →
      ∀ value, flowVar.minValue ≤ value → value ≤ flowVar.maxValue →
        stream.WellTrimmed (stream.buildProfilePacket draws) value := by
  intro hkept
  have htrim : .trimPktSize "pkt_len" ∈ taggedStream.packetLengthVmInstructions := by decide +kernel
  have hmem : .flowVar taggedStream.packetLengthVariable
      ∈ taggedStream.packetLengthVmInstructions := by decide +kernel
  have hcut := hkept taggedStream (fun _ => 0) htrim _ hmem 60 (by decide +kernel)
    (by decide +kernel)
  have hheaders : ¬ taggedStream.headerLength ≤ 60 := by decide +kernel
  exact hheaders hcut.headers

end TrexWebui
