import TrexWebui.RawPacketRepairSound

/-!
# What the repair of a raw packet touches

The walks end in every list of octets, and each pass writes only into the fields
that it locates in the packet as the pass before left it. Where no UDP header
opens two tunnels these are the fields of the packet itself: the passes leave
every target where it was. A VXLAN frame and a GTP-U message in one datagram
share octets, so there one pass can move what the next one writes.
-/

namespace TrexWebui

open PyStr Octets InternetChecksum FieldRepairs

/-! ## The walks end -/

section Walks

variable {τ : Type} {c : Collector τ} {bytes : Bytes}

/-- The header `inner` is where the walk goes on behind `ip`. -/
def InnerOf (bytes : Bytes) (protocols : List Nat) (inner ip : RawIpHeader) : Prop :=
  ∃ header ∈ processIp bytes protocols ip, inner ∈ innerHeaders bytes header

theorem InnerOf.lt {protocols : List Nat} {inner ip : RawIpHeader}
    (h : InnerOf bytes protocols inner ip) :
    ip.ipOffset < inner.ipOffset ∧ ip.ipOffset < bytes.length := by
  obtain ⟨header, hheader, hinner⟩ := h
  have hspec := mem_processIp hheader
  have hbehind := hspec.behind
  have hlimit := hspec.le_limit
  have hfits := hspec.limit_le
  have hle := mem_innerHeaders_le hinner
  omega

theorem innerOf_wellFounded (bytes : Bytes) (protocols : List Nat) :
    WellFounded (InnerOf bytes protocols) := by
  refine Subrelation.wf ?_ (measure fun ip : RawIpHeader => bytes.length - ip.ipOffset).wf
  intro inner ip h
  obtain ⟨hlt, hinside⟩ := h.lt
  show bytes.length - inner.ipOffset < bytes.length - ip.ipOffset
  omega

theorem Collector.process_eq_of_fuel {fuel other : Nat} {ip : RawIpHeader}
    (hfuel : bytes.length < fuel + ip.ipOffset) (hother : bytes.length < other + ip.ipOffset)
    (hpos : 0 < fuel) (hpos' : 0 < other) : c.process bytes fuel ip = c.process bytes other ip := by
  induction fuel generalizing other ip with
  | zero => cases hpos
  | succ fuel ih =>
      cases other with
      | zero => cases hpos'
      | succ other =>
          rw [Collector.process, Collector.process]
          congr 1
          refine List.flatMap_congr ?_
          intro header hheader
          congr 1
          split
          · refine List.flatMap_congr ?_
            intro inner hinner
            have hspec := mem_processIp hheader
            have hbehind := hspec.behind
            have hlimit := hspec.le_limit
            have hfits := hspec.limit_le
            have hle := mem_innerHeaders_le hinner
            exact ih (by omega) (by omega) (by omega) (by omega)
          · rfl

theorem process_fuel {fuel : Nat} (h : bytes.length < fuel) (ip : RawIpHeader) :
    c.process bytes fuel ip = c.process bytes (bytes.length + 1) ip :=
  Collector.process_eq_of_fuel (by omega) (by omega) (by omega) (Nat.succ_pos _)

end Walks

/-! ## What a pass writes -/

section Passes

variable {bytes : Bytes}

def locatedChecksums (bytes : Bytes) : List RawChecksum :=
  (collectRawPacketIpv4HeaderOffsets bytes).map (ipv4Checksum bytes)
    ++ (collectRawPacketIcmpChecksumTargets bytes).map .icmp
    ++ (collectRawPacketSctpChecksumTargets bytes).map .sctp
    ++ (collectRawPacketTransportChecksumTargets bytes).map .transport
    ++ (collectRawPacketGreChecksumTargets bytes).map .gre

def locatedFields (bytes : Bytes) : Set Nat := {k | ∃ c ∈ locatedChecksums bytes, k ∈ c.writes}

/-- The result differs from `bytes` in `places` only. -/
structure Touches (bytes : Bytes) (places : Set Nat) (other : Bytes) : Prop where
  length : other.length = bytes.length
  octets : ∀ k ∉ places, octetAt other k = octetAt bytes k

theorem Touches.refl (bytes : Bytes) (places : Set Nat) : Touches bytes places bytes :=
  ⟨rfl, fun _ _ => rfl⟩

theorem Touches.trans {places more : Set Nat} {other result : Bytes}
    (h : Touches bytes places other) (h' : Touches other more result) :
    Touches bytes (places ∪ more) result where
  length := h'.length.trans h.length
  octets := by
    intro k hk
    rw [Set.mem_union, not_or] at hk
    exact (h'.octets k hk.2).trans (h.octets k hk.1)

theorem Touches.mono {places more : Set Nat} {other : Bytes} (h : Touches bytes places other)
    (hsub : places ⊆ more) : Touches bytes more other :=
  ⟨h.length, fun k hk => h.octets k fun hmem => hk (hsub hmem)⟩

theorem writeChecksum_touches (bytes : Bytes) (c : RawChecksum) {chunk : Bytes}
    (hchunk : chunk.length = c.checksumLength) :
    Touches bytes c.writes (writeChecksum bytes c.checksumOffset chunk) := by
  rw [writeChecksum]
  split
  · rename_i hfits
    refine ⟨length_overwrite hfits.2, ?_⟩
    intro k hk
    refine octetAt_overwrite hfits.2 ?_
    by_contra hne
    rw [hchunk] at hne
    exact hk ⟨by omega, by omega⟩
  · exact Touches.refl bytes _

theorem repair_touches (c : RawChecksum) (bytes : Bytes) : Touches bytes c.writes (c.repair bytes) := by
  cases c with
  | ipv4 offset headerLength =>
      show Touches bytes _ (repairIpv4 bytes offset)
      rw [repairIpv4]
      split
      · exact Touches.refl bytes _
      · exact writeChecksum_touches bytes (.ipv4 offset headerLength) rfl
  | icmp target => exact writeChecksum_touches bytes (.icmp target) rfl
  | sctp target => exact writeChecksum_touches bytes (.sctp target) rfl
  | transport target => exact writeChecksum_touches bytes (.transport target) rfl
  | gre target => exact writeChecksum_touches bytes (.gre target) rfl

theorem run_touches (ops : List RawChecksum) (bytes : Bytes) :
    Touches bytes {k | ∃ c ∈ ops, k ∈ c.writes} (rawRepairs.run ops bytes) := by
  induction ops generalizing bytes with
  | nil => exact Touches.refl bytes _
  | cons c ops ih =>
      refine ((repair_touches c bytes).trans (ih (c.repair bytes))).mono ?_
      rintro k (hk | ⟨d, hd, hk⟩)
      · exact ⟨c, List.mem_cons_self, hk⟩
      · exact ⟨d, List.mem_cons_of_mem c hd, hk⟩

theorem pass_touches {ops : List RawChecksum} (hops : ops ⊆ locatedChecksums bytes) :
    Touches bytes (locatedFields bytes) (rawRepairs.run ops bytes) :=
  (run_touches ops bytes).mono fun _ ⟨c, hc, hk⟩ => ⟨c, hops hc, hk⟩

theorem repairIpv4_touches (bytes : Bytes) :
    Touches bytes (locatedFields bytes) (repairRawPacketIpv4Checksums bytes) := by
  rw [repairIpv4_run bytes bytes]
  refine pass_touches ?_
  intro c hc
  simp only [locatedChecksums, List.append_assoc]
  exact List.mem_append_left _ hc

theorem repairIcmp_touches (bytes : Bytes) :
    Touches bytes (locatedFields bytes) (repairRawPacketIcmpChecksums bytes) := by
  rw [repairIcmp_run]
  refine pass_touches ?_
  intro c hc
  simp only [locatedChecksums, List.append_assoc]
  exact List.mem_append_right _ (List.mem_append_left _ hc)

theorem repairSctp_touches (bytes : Bytes) :
    Touches bytes (locatedFields bytes) (repairRawPacketSctpChecksums bytes) := by
  rw [repairSctp_run]
  refine pass_touches ?_
  intro c hc
  simp only [locatedChecksums, List.append_assoc]
  exact List.mem_append_right _ (List.mem_append_right _ (List.mem_append_left _ hc))

theorem repairTransport_touches (bytes : Bytes) :
    Touches bytes (locatedFields bytes) (repairRawPacketTransportChecksums bytes) := by
  rw [repairTransport_run]
  refine pass_touches ?_
  intro c hc
  rw [locatedChecksums]
  exact List.mem_append_left _ (List.mem_append_right _ hc)

theorem repairGre_touches (bytes : Bytes) :
    Touches bytes (locatedFields bytes) (repairRawPacketGreChecksums bytes) := by
  rw [repairGre_run]
  refine pass_touches ?_
  intro c hc
  rw [locatedChecksums]
  exact List.mem_append_right _ hc

def repairStages (bytes : Bytes) : List Bytes :=
  let withIpv4 := repairRawPacketIpv4Checksums bytes
  let withIcmp := repairRawPacketIcmpChecksums withIpv4
  let withSctp := repairRawPacketSctpChecksums withIcmp
  let withTransport := repairRawPacketTransportChecksums withSctp
  [bytes, withIpv4, withIcmp, withSctp, withTransport, repairRawPacketGreChecksums withTransport]

/-- The repair writes into fields that a pass locates in the packet from which it starts. -/
theorem repair_touches_stages (bytes : Bytes) :
    Touches bytes {k | ∃ stage ∈ repairStages bytes, k ∈ locatedFields stage}
      (repairRawPacketChecksums bytes) := by
  have hipv4 := repairIpv4_touches bytes
  have hicmp := hipv4.trans (repairIcmp_touches _)
  have hsctp := hicmp.trans (repairSctp_touches _)
  have htransport := hsctp.trans (repairTransport_touches _)
  have hgre := htransport.trans (repairGre_touches _)
  refine (hgre.trans (repairTransport_touches _)).mono ?_
  rintro k (((((hk | hk) | hk) | hk) | hk) | hk)
  · exact ⟨_, List.mem_cons_self, hk⟩
  · exact ⟨_, List.mem_cons_of_mem _ List.mem_cons_self, hk⟩
  · exact ⟨_, List.mem_cons_of_mem _ (List.mem_cons_of_mem _ List.mem_cons_self), hk⟩
  · exact ⟨_, List.mem_cons_of_mem _ (List.mem_cons_of_mem _ (List.mem_cons_of_mem _
      List.mem_cons_self)), hk⟩
  · exact ⟨_, List.mem_cons_of_mem _ (List.mem_cons_of_mem _ (List.mem_cons_of_mem _
      (List.mem_cons_of_mem _ List.mem_cons_self))), hk⟩
  · exact ⟨_, List.mem_cons_of_mem _ (List.mem_cons_of_mem _ (List.mem_cons_of_mem _
      (List.mem_cons_of_mem _ (List.mem_cons_of_mem _ List.mem_cons_self)))), hk⟩

end Passes

/-! ## With one tunnel behind each header -/

section Single

variable {bytes : Bytes} {ip : RawIpHeader} (h : Tunnelled bytes ip)

include h

theorem IsPass.rewritten {kind : RawChecksum → Prop} {pass : Bytes → Bytes}
    (hpass : IsPass bytes kind pass) {other : Bytes}
    (hother : Rewritten bytes (repairedChecksums bytes) other) :
    Rewritten bytes (repairedChecksums bytes) (pass other) := by
  obtain ⟨ops, hrun, hops⟩ := hpass other hother
  rw [hrun]
  exact h.lawful.inv_run (fun c hc => ((hops c).mp hc).1) hother

theorem Tunnelled.repair_rewritten :
    Rewritten bytes (repairedChecksums bytes) (repairRawPacketChecksums bytes) := by
  have hipv4 := h.ipv4_pass.rewritten h h.footing.rewritten
  have hicmp := h.icmp_pass.rewritten h hipv4
  have hsctp := h.sctp_pass.rewritten h hicmp
  have htransport := h.transport_pass.rewritten h hsctp
  have hgre := h.gre_pass.rewritten h htransport
  exact h.transport_pass.rewritten h hgre

theorem Tunnelled.located {c : RawChecksum} (hc : c ∈ repairedChecksums bytes) :
    c ∈ locatedChecksums bytes := by
  have hself := h.footing.rewritten
  simp only [locatedChecksums, List.mem_append, List.mem_map]
  cases c with
  | ipv4 offset headerLength =>
      have hlength : rawIpv4HeaderLengthAt bytes offset = some headerLength :=
        h.footing.shape bytes hself _ hc
      have hsame : ipv4Checksum bytes offset = .ipv4 offset headerLength := by
        rw [ipv4Checksum, hlength]
        rfl
      refine Or.inl (Or.inl (Or.inl (Or.inl ⟨offset, (mem_ipv4Offsets h hself).mpr ?_, hsame⟩)))
      rw [hsame]
      exact hc
  | icmp target =>
      exact Or.inl (Or.inl (Or.inl (Or.inr ⟨target, (mem_icmpTargets h hself).mpr hc, rfl⟩)))
  | sctp target =>
      exact Or.inl (Or.inl (Or.inr ⟨target, (mem_sctpTargets h hself).mpr hc, rfl⟩))
  | transport target =>
      exact Or.inl (Or.inr ⟨target, (mem_transportTargets h hself).mpr hc, rfl⟩)
  | gre target => exact Or.inr ⟨target, (mem_greTargets h hself).mpr hc, rfl⟩

theorem Tunnelled.touches :
    Touches bytes (locatedFields bytes) (repairRawPacketChecksums bytes) where
  length := h.repair_rewritten.length
  octets := by
    intro k hk
    refine h.repair_rewritten.octets k ?_
    intro c hc hwrite
    exact hk ⟨c, h.located hc, hwrite⟩

end Single

/-- The five collectors find in `other` what they find in `bytes`. -/
structure SameTargets (bytes other : Bytes) : Prop where
  ipv4 : ∀ offset, offset ∈ collectRawPacketIpv4HeaderOffsets other ↔
    offset ∈ collectRawPacketIpv4HeaderOffsets bytes
  icmp : collectRawPacketIcmpChecksumTargets other = collectRawPacketIcmpChecksumTargets bytes
  sctp : collectRawPacketSctpChecksumTargets other = collectRawPacketSctpChecksumTargets bytes
  transport :
    collectRawPacketTransportChecksumTargets other = collectRawPacketTransportChecksumTargets bytes
  gre : collectRawPacketGreChecksumTargets other = collectRawPacketGreChecksumTargets bytes

theorem Tunnelled.sameTargets {bytes other : Bytes} {ip : RawIpHeader} (h : Tunnelled bytes ip)
    (hother : Rewritten bytes (repairedChecksums bytes) other) : SameTargets bytes other where
  ipv4 := fun _ => (mem_ipv4Offsets h hother).trans (mem_ipv4Offsets h h.footing.rewritten).symm
  icmp := congrArg (mapValues _) (process_rewritten h.outer h.single hother icmpCollector_local
    icmpCollector_protocols)
  sctp := congrArg (mapValues _) (process_rewritten h.outer h.single hother sctpCollector_local
    sctpCollector_protocols)
  transport := congrArg (mapValues _) (process_rewritten h.outer h.single hother transportCollector_local
    transportCollector_protocols)
  gre := congrArg (mapValues _) (process_rewritten h.outer h.single hother greCollector_local
    greCollector_protocols)

/-- The walks end. The repair keeps the length and writes checksum fields only: those of the packets
that the passes start from, which are those of the packet where no UDP header opens two tunnels. -/
theorem repair_frame (bytes : Bytes) :
    (∀ protocols, WellFounded (InnerOf bytes protocols))
      ∧ (∀ {τ : Type} (c : Collector τ) (fuel : Nat) (ip : RawIpHeader), bytes.length < fuel →
        c.process bytes fuel ip = c.process bytes (bytes.length + 1) ip)
      ∧ Touches bytes {k | ∃ stage ∈ repairStages bytes, k ∈ locatedFields stage}
        (repairRawPacketChecksums bytes)
      ∧ (OneTunnelPerHeader bytes →
        Touches bytes (locatedFields bytes) (repairRawPacketChecksums bytes)
          ∧ SameTargets bytes (repairRawPacketChecksums bytes)) := by
  refine ⟨innerOf_wellFounded bytes, fun c fuel ip hfuel => process_fuel hfuel ip,
    repair_touches_stages bytes, ?_⟩
  intro hone
  rcases hone.cases with hnone | ⟨ip, h⟩
  · rw [repair_of_none hnone]
    exact ⟨Touches.refl bytes _, fun _ => Iff.rfl, rfl, rfl, rfl, rfl⟩
  · exact ⟨h.touches, h.sameTargets h.repair_rewritten⟩

theorem repair_frame_vxlan :
    Touches vxlanPacket (locatedFields vxlanPacket) (repairRawPacketChecksums vxlanPacket)
      ∧ SameTargets vxlanPacket (repairRawPacketChecksums vxlanPacket) :=
  (repair_frame vxlanPacket).2.2.2 (by decide +kernel)

/-! ### A packet with two tunnels behind one header -/

/-- What follows a UDP header with the ports of both tunnels. The checksum of the IPv4 header in
the VXLAN frame is the length of the UDP header in the GTP-U message. -/
def dualPayload : Bytes :=
  [0x30, 255, 0, 0, 0, 0, 0, 1, 0x45, 0, 0, 48, 0, 1, 0, 0, 64, 17, 0, 0, 8, 0]
    ++ [0x45, 0, 0, 24, 106, 92, 0, 0, 64, 99, 0, 1, 1, 2, 3, 4, 5, 6, 7, 8]
    ++ [0, 0, 0, 0, 0, 0, 0, 0, 0, 0, 0, 0, 0, 0]

def dualPacket : Bytes :=
  rawEthernet ++ rawIpv4 17 84 ++ be16 4789 ++ be16 2152 ++ be16 64 ++ [0, 0] ++ dualPayload

/-- The first pass makes a UDP datagram out of what was none, and the fourth writes its checksum. -/
theorem repair_outside : octetAt (repairRawPacketChecksums dualPacket) 76 ≠ octetAt dualPacket 76
    ∧ ∀ c ∈ locatedChecksums dualPacket,
      ¬(c.checksumOffset ≤ 76 ∧ 76 < c.checksumOffset + c.checksumLength) := by
  decide +kernel

end TrexWebui
