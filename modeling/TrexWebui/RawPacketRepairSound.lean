import TrexWebui.RawPacketPasses

/-!
# What the repair of a raw packet does

The repair writes into the checksum fields that the walks find in the packet,
and the walks find the same in the result. All checksums verify in the result
if none is left out, none depends on the octet behind an odd segment, and the
fields that are still wrong are nested no deeper than the passes reach. Then a
second repair changes nothing.
-/

namespace TrexWebui

open PyStr Octets InternetChecksum FieldRepairs

/-! ## The passes as runs -/

section Runs

variable (bytes : Bytes)

theorem repairIcmp_run : repairRawPacketIcmpChecksums bytes
    = rawRepairs.run ((collectRawPacketIcmpChecksumTargets bytes).map .icmp) bytes := by
  rw [Repairs.run, List.foldl_map]
  rfl

theorem repairSctp_run : repairRawPacketSctpChecksums bytes
    = rawRepairs.run ((collectRawPacketSctpChecksumTargets bytes).map .sctp) bytes := by
  rw [Repairs.run, List.foldl_map]
  rfl

theorem repairTransport_run : repairRawPacketTransportChecksums bytes
    = rawRepairs.run ((collectRawPacketTransportChecksumTargets bytes).map .transport) bytes := by
  rw [Repairs.run, List.foldl_map]
  rfl

theorem repairGre_run : repairRawPacketGreChecksums bytes
    = rawRepairs.run ((collectRawPacketGreChecksumTargets bytes).map .gre) bytes := by
  rw [Repairs.run, List.foldl_map]
  rfl

/-- The IPv4 checksum at an offset, its header length as in `bytes`. -/
def ipv4Checksum (bytes : Bytes) (offset : Nat) : RawChecksum :=
  .ipv4 offset ((rawIpv4HeaderLengthAt bytes offset).getD 0)

theorem repairIpv4_run (other : Bytes) : repairRawPacketIpv4Checksums other
    = rawRepairs.run ((collectRawPacketIpv4HeaderOffsets other).map (ipv4Checksum bytes)) other := by
  rw [Repairs.run, List.foldl_map]
  rfl

end Runs

/-- A pass repairs the checksums of one kind, whatever the passes before it wrote. -/
def IsPass (bytes : Bytes) (kind : RawChecksum → Prop) (pass : Bytes → Bytes) : Prop :=
  ∀ other, Rewritten bytes (repairedChecksums bytes) other →
    ∃ ops, pass other = rawRepairs.run ops other
      ∧ ∀ c, c ∈ ops ↔ c ∈ repairedChecksums bytes ∧ kind c

theorem mem_map_kind {τ : Type} {targets : List τ} {kind : τ → RawChecksum}
    {repaired : Set RawChecksum} (h : ∀ target, target ∈ targets ↔ kind target ∈ repaired)
    (c : RawChecksum) : c ∈ targets.map kind ↔ c ∈ repaired ∧ ∃ target, c = kind target := by
  rw [List.mem_map]
  constructor
  · rintro ⟨target, htarget, rfl⟩
    exact ⟨(h target).mp htarget, target, rfl⟩
  · rintro ⟨hc, target, rfl⟩
    exact ⟨target, (h target).mpr hc, rfl⟩

/-! ## What each pass finds -/

section Found

variable {bytes : Bytes} {ip : RawIpHeader}

/-- A packet with an outer header, and no header that opens two tunnels. -/
structure Tunnelled (bytes : Bytes) (ip : RawIpHeader) : Prop where
  outer : ip ∈ ethernetHeader bytes 0
  single : SinglePorts bytes (bytes.length + 1) ip
  first : ∀ header ∈ outerL4 bytes ip, SinglePort bytes header

variable (h : Tunnelled bytes ip)

include h

theorem Tunnelled.footing : Footing bytes (repairedChecksums bytes) :=
  repaired_footing h.outer h.single h.first

theorem Tunnelled.lawful :
    rawRepairs.Lawful (repairedChecksums bytes) (Rewritten bytes (repairedChecksums bytes)) :=
  h.footing.lawful

theorem Tunnelled.same {c d : RawChecksum} (hc : c ∈ repairedChecksums bytes)
    (hd : d ∈ repairedChecksums bytes) (hfield : c.checksumOffset = d.checksumOffset) : c = d := by
  have hself : ∀ e : RawChecksum, e.checksumOffset ∈ e.writes := by
    intro e
    refine ⟨le_refl _, ?_⟩
    cases e <;> exact Nat.lt_add_of_pos_right (Nat.succ_pos _)
  by_contra hne
  refine h.footing.disjoint c hc d hd hne _ (hself c) ?_
  rw [hfield]
  exact hself d

variable {other : Bytes} (hother : Rewritten bytes (repairedChecksums bytes) other)

include hother

theorem Tunnelled.mem_map {τ κ : Type} [DecidableEq κ] {key : τ → κ} {c : Collector τ}
    {kind : τ → RawChecksum} (hlocal : c.Local) (hprotocols : c.protocols ⊆ walkProtocols)
    (hkind : ∀ x y, kind x = kind y → x = y)
    (hmem : ∀ x, x ∈ c.collect bytes ↔ kind x ∈ repairedChecksums bytes)
    (hkey : ∀ x y, (kind x).Shape bytes → (kind y).Shape bytes → key x = key y →
      (kind x).checksumOffset = (kind y).checksumOffset) {target : τ} :
    target ∈ mapValues key (c.collect other) ↔ kind target ∈ repairedChecksums bytes := by
  rw [process_rewritten h.outer h.single hother hlocal hprotocols, mem_mapValues, hmem]
  intro x hx y hy hsame
  have hx' := (hmem x).mp hx
  have hy' := (hmem y).mp hy
  have hshape := h.footing.shape bytes h.footing.rewritten
  exact hkind x y (h.same hx' hy' (hkey x y (hshape _ hx') (hshape _ hy') hsame))

theorem mem_icmpTargets {target : RawPacketIcmpChecksumTarget} :
    target ∈ collectRawPacketIcmpChecksumTargets other ↔
      .icmp target ∈ repairedChecksums bytes := by
  refine h.mem_map hother icmpCollector_local icmpCollector_protocols ?_ ?_ ?_
  · intro x y hsame
    cases hsame
    rfl
  · intro x
    exact (mem_collect h.outer).trans (mem_icmpCollector.trans (mem_reachedChecksums h.outer).symm)
  · rintro x y ⟨hx, -⟩ ⟨hy, -⟩ hkey
    have hoffset : x.icmpOffset = y.icmpOffset := congrArg Prod.snd hkey
    show x.checksumOffset = y.checksumOffset
    omega

theorem mem_sctpTargets {target : RawPacketSctpChecksumTarget} :
    target ∈ collectRawPacketSctpChecksumTargets other ↔
      .sctp target ∈ repairedChecksums bytes := by
  refine h.mem_map hother sctpCollector_local sctpCollector_protocols ?_ ?_ ?_
  · intro x y hsame
    cases hsame
    rfl
  · intro x
    exact (mem_collect h.outer).trans (mem_sctpCollector.trans (mem_reachedChecksums h.outer).symm)
  · rintro x y ⟨hx, -⟩ ⟨hy, -⟩ hkey
    show x.checksumOffset = y.checksumOffset
    omega

theorem mem_transportTargets {target : RawPacketTransportChecksumTarget} :
    target ∈ collectRawPacketTransportChecksumTargets other ↔
      .transport target ∈ repairedChecksums bytes := by
  refine h.mem_map hother transportCollector_local transportCollector_protocols ?_ ?_ ?_
  · intro x y hsame
    cases hsame
    rfl
  · intro x
    exact (mem_collect h.outer).trans
      (mem_transportCollector.trans (mem_reachedChecksums h.outer).symm)
  · rintro x y ⟨hx, -⟩ ⟨hy, -⟩ hkey
    have hprotocol : x.protocol = y.protocol := congrArg Prod.fst hkey
    have hoffset : x.l4Offset = y.l4Offset := congrArg Prod.snd hkey
    show x.checksumOffset = y.checksumOffset
    omega

theorem mem_greTargets {target : RawPacketGreChecksumTarget} :
    target ∈ collectRawPacketGreChecksumTargets other ↔
      .gre target ∈ repairedChecksums bytes := by
  refine h.mem_map hother greCollector_local greCollector_protocols ?_ (fun _ => Iff.rfl) ?_
  · intro x y hsame
    cases hsame
    rfl
  · rintro x y ⟨hx, -⟩ ⟨hy, -⟩ hkey
    show x.checksumOffset = y.checksumOffset
    omega

theorem mem_ipv4Offsets {offset : Nat} :
    offset ∈ collectRawPacketIpv4HeaderOffsets other ↔
      ipv4Checksum bytes offset ∈ repairedChecksums bytes := by
  have hlengths : ∀ {headerLength}, .ipv4 offset headerLength ∈ outerIpv4Checksums bytes ip →
      RawChecksum.ipv4 offset headerLength = ipv4Checksum bytes offset := by
    intro headerLength hmem
    have hlength : rawIpv4HeaderLengthAt bytes offset = some headerLength := ipv4_shape hmem
    rw [ipv4Checksum, hlength]
    rfl
  rw [mem_collectIpv4, ethernetHeader_rewritten h.outer hother]
  constructor
  · rintro ⟨ip', hip', headerLength, hmem⟩
    rw [(mem_ethernetHeader h.outer).2 ip' hip',
      outerIpv4_rewritten h.outer h.single h.first hother] at hmem
    rw [← hlengths hmem]
    exact (mem_repaired_ipv4 h.outer).mpr hmem
  · intro hmem
    refine ⟨ip, h.outer, (rawIpv4HeaderLengthAt bytes offset).getD 0, ?_⟩
    rw [outerIpv4_rewritten h.outer h.single h.first hother]
    exact (mem_repaired_ipv4 h.outer).mp hmem

/-! ## One pass -/

omit hother in
theorem Tunnelled.ipv4_pass : IsPass bytes (∃ offset headerLength, · = .ipv4 offset headerLength)
    repairRawPacketIpv4Checksums := by
  intro other hother
  refine ⟨_, repairIpv4_run bytes other, ?_⟩
  intro c
  rw [List.mem_map]
  constructor
  · rintro ⟨offset, hoffset, rfl⟩
    exact ⟨(mem_ipv4Offsets h hother).mp hoffset, _, _, rfl⟩
  · rintro ⟨hc, offset, headerLength, rfl⟩
    have hlength : rawIpv4HeaderLengthAt bytes offset = some headerLength :=
      h.footing.shape bytes h.footing.rewritten _ hc
    have hsame : ipv4Checksum bytes offset = .ipv4 offset headerLength := by
      rw [ipv4Checksum, hlength]
      rfl
    refine ⟨offset, (mem_ipv4Offsets h hother).mpr ?_, hsame⟩
    rw [hsame]
    exact hc

omit hother in
theorem Tunnelled.icmp_pass : IsPass bytes (∃ target, · = .icmp target)
    repairRawPacketIcmpChecksums := by
  intro other hother
  exact ⟨_, repairIcmp_run other, mem_map_kind fun _ => mem_icmpTargets h hother⟩

omit hother in
theorem Tunnelled.sctp_pass : IsPass bytes (∃ target, · = .sctp target)
    repairRawPacketSctpChecksums := by
  intro other hother
  exact ⟨_, repairSctp_run other, mem_map_kind fun _ => mem_sctpTargets h hother⟩

omit hother in
theorem Tunnelled.transport_pass : IsPass bytes (∃ target, · = .transport target)
    repairRawPacketTransportChecksums := by
  intro other hother
  exact ⟨_, repairTransport_run other, mem_map_kind fun _ => mem_transportTargets h hother⟩

omit hother in
theorem Tunnelled.gre_pass : IsPass bytes (∃ target, · = .gre target)
    repairRawPacketGreChecksums := by
  intro other hother
  exact ⟨_, repairGre_run other, mem_map_kind fun _ => mem_greTargets h hother⟩

end Found

/-! ## All passes -/

/-- The field of a checksum may change: it is wrong, or it covers such a field. -/
def Stale (bytes : Bytes) (c : RawChecksum) : Prop :=
  rawRepairs.Stale (repairedChecksums bytes) bytes c

/-- How far the repair has come: the checksums in `done` are final. -/
structure Progress (bytes : Bytes) (done : Set RawChecksum) (other : Bytes) : Prop where
  rewritten : Rewritten bytes (repairedChecksums bytes) other
  finished : rawRepairs.Finished (repairedChecksums bytes) done other
  fresh : ∀ c ∈ repairedChecksums bytes, ¬Stale bytes c → c ∈ done
  octets : ∀ k, (∀ c ∈ repairedChecksums bytes, k ∈ c.writes → ¬Stale bytes c) →
    octetAt other k = octetAt bytes k

section Progress

variable {bytes : Bytes} {ip : RawIpHeader} (h : Tunnelled bytes ip)

include h

theorem Tunnelled.start : Progress bytes {c | c ∈ repairedChecksums bytes ∧ ¬Stale bytes c} bytes where
  rewritten := h.footing.rewritten
  finished := Repairs.finished_fresh rawRepairs (repairedChecksums bytes) bytes
  fresh := fun _ hc hfresh => ⟨hc, hfresh⟩
  octets := fun _ _ => rfl

theorem Tunnelled.advance {kind : RawChecksum → Prop} {pass : Bytes → Bytes}
    (hpass : IsPass bytes kind pass) {done : Set RawChecksum} {other : Bytes}
    (hother : Progress bytes done other) :
    ∃ more, Progress bytes more (pass other) ∧ done ⊆ more ∧
      ∀ c ∈ repairedChecksums bytes, kind c →
        rawRepairs.Ready (repairedChecksums bytes) done c → c ∈ more := by
  obtain ⟨ops, hrun, hops⟩ := hpass other hother.rewritten
  have htargets : ∀ c ∈ ops, c ∈ repairedChecksums bytes := fun c hc => ((hops c).mp hc).1
  have hsub : done ⊆ done ∪ {c | c ∈ ops ∧ rawRepairs.Ready (repairedChecksums bytes) done c} :=
    Set.subset_union_left
  rw [hrun]
  refine ⟨_, ⟨?_, hother.finished.run h.lawful htargets hother.rewritten, ?_, ?_⟩, hsub, ?_⟩
  · exact h.lawful.inv_run htargets hother.rewritten
  · exact fun c hc hfresh => hsub (hother.fresh c hc hfresh)
  · intro k hk
    have hframe := hother.finished.frame h.lawful htargets hother.rewritten
      fun c hc hwrite => hother.fresh c hc (hk c hc hwrite)
    exact (octetAt_of_getElem hframe).trans (hother.octets k hk)
  · intro c hc hkind hready
    exact Or.inr ⟨(hops c).mpr ⟨hc, hkind⟩, hready⟩

end Progress

/-! ## The whole repair -/

/-- No checksum is left out that is wrong or may become so, no checksum depends on an octet
behind its segment, and what may change is nested no deeper than the passes reach. -/
structure Repairable (bytes : Bytes) : Prop where
  /-- What is not repaired verifies, and nothing in it may change. -/
  left : ∀ c ∈ reachedChecksums bytes, c ∈ repairedChecksums bytes ∨
    c.Verifies bytes ∧ ∀ d ∈ repairedChecksums bytes, Stale bytes d → ∀ k ∈ d.writes, k ∉ c.covered
  /-- The octet behind an odd segment is zero, and stays so. -/
  padding : ∀ c ∈ reachedChecksums bytes, ∀ k ∈ c.padding, octetAt bytes k = 0
    ∧ ∀ d ∈ repairedChecksums bytes, Stale bytes d → k ∉ d.writes
  /-- A TCP or UDP checksum that others cover covers no TCP, UDP or GRE checksum that may change. -/
  nested : ∀ c ∈ repairedChecksums bytes, ∀ target, .transport target ∈ repairedChecksums bytes →
    rawRepairs.Covers c (.transport target) → ∀ e ∈ repairedChecksums bytes,
      rawRepairs.Covers (.transport target) e → ¬e.IsLeaf → ¬Stale bytes e
  /-- A GRE checksum covers no GRE checksum that may change. -/
  greNested : ∀ target inner, .gre target ∈ repairedChecksums bytes →
    .gre inner ∈ repairedChecksums bytes →
    rawRepairs.Covers (.gre target) (.gre inner) → ¬Stale bytes (.gre inner)

def AllVerify (bytes : Bytes) : Prop := ∀ c ∈ reachedChecksums bytes, c.Verifies bytes

theorem reached_shape {bytes : Bytes} {c : RawChecksum} (h : c ∈ reachedChecksums bytes) :
    c.Shape bytes := by
  obtain ⟨ip, -, hc⟩ := List.mem_flatMap.mp h
  exact checksum_shape hc

section Repair

variable {bytes : Bytes} {ip : RawIpHeader} (h : Tunnelled bytes ip) (hrep : Repairable bytes)

include h hrep

theorem Tunnelled.repair_progress :
    ∃ done, Progress bytes done (repairRawPacketChecksums bytes)
      ∧ ∀ c ∈ repairedChecksums bytes, c ∈ done := by
  obtain ⟨done1, hprogress1, -, hmem1⟩ := h.advance h.ipv4_pass h.start
  obtain ⟨done2, hprogress2, hsub2, hmem2⟩ := h.advance h.icmp_pass hprogress1
  obtain ⟨done3, hprogress3, hsub3, hmem3⟩ := h.advance h.sctp_pass hprogress2
  obtain ⟨done4, hprogress4, hsub4, hmem4⟩ := h.advance h.transport_pass hprogress3
  obtain ⟨done5, hprogress5, hsub5, hmem5⟩ := h.advance h.gre_pass hprogress4
  obtain ⟨done6, hprogress6, hsub6, hmem6⟩ := h.advance h.transport_pass hprogress5
  refine ⟨done6, hprogress6, ?_⟩
  have hleaf : ∀ c ∈ repairedChecksums bytes, c.IsLeaf → c ∈ done3 := by
    intro c hc hleaf
    cases c with
    | ipv4 offset headerLength =>
        exact hsub3 (hsub2 (hmem1 _ hc ⟨_, _, rfl⟩ (h.footing.ready_leaf _ hc hleaf)))
    | icmp target => exact hsub3 (hmem2 _ hc ⟨_, rfl⟩ (h.footing.ready_leaf _ hc hleaf))
    | sctp target => exact hmem3 _ hc ⟨_, rfl⟩ (h.footing.ready_leaf _ hc hleaf)
    | transport target => cases hleaf
    | gre target => cases hleaf
  -- what another checksum covers is final after the first pass over TCP and UDP
  have htransport : ∀ c ∈ repairedChecksums bytes, ∀ target,
      .transport target ∈ repairedChecksums bytes → rawRepairs.Covers c (.transport target) →
      .transport target ∈ done4 := by
    intro c hc target htarget hcovers
    refine hmem4 _ htarget ⟨_, rfl⟩ ?_
    intro e he hdeep
    by_cases hkind : e.IsLeaf
    · exact hleaf e he hkind
    · exact hprogress3.fresh e he (hrep.nested c hc target htarget hcovers e he hdeep hkind)
  have hgre : ∀ target, .gre target ∈ repairedChecksums bytes → .gre target ∈ done5 := by
    intro target htarget
    refine hmem5 _ htarget ⟨_, rfl⟩ ?_
    intro e he hcovers
    cases e with
    | ipv4 offset headerLength => exact hsub4 (hleaf _ he trivial)
    | icmp inner => exact hsub4 (hleaf _ he trivial)
    | sctp inner => exact hsub4 (hleaf _ he trivial)
    | transport inner => exact htransport _ htarget inner he hcovers
    | gre inner => exact hprogress4.fresh _ he (hrep.greNested target inner htarget he hcovers)
  intro c hc
  cases c with
  | ipv4 offset headerLength => exact hsub6 (hsub5 (hsub4 (hleaf _ hc trivial)))
  | icmp target => exact hsub6 (hsub5 (hsub4 (hleaf _ hc trivial)))
  | sctp target => exact hsub6 (hsub5 (hsub4 (hleaf _ hc trivial)))
  | gre target => exact hsub6 (hgre target hc)
  | transport target =>
      refine hmem6 _ hc ⟨_, rfl⟩ ?_
      intro e he hcovers
      cases e with
      | ipv4 offset headerLength => exact hsub5 (hsub4 (hleaf _ he trivial))
      | icmp inner => exact hsub5 (hsub4 (hleaf _ he trivial))
      | sctp inner => exact hsub5 (hsub4 (hleaf _ he trivial))
      | transport inner => exact hsub5 (htransport _ hc inner he hcovers)
      | gre inner => exact hgre inner he

/-- A second repair finds the same checksums, none of which it changes. -/
theorem Tunnelled.repair_twice :
    repairRawPacketChecksums (repairRawPacketChecksums bytes) = repairRawPacketChecksums bytes := by
  obtain ⟨done, hprogress, hdone⟩ := h.repair_progress hrep
  have hpass : ∀ {kind : RawChecksum → Prop} {pass : Bytes → Bytes}, IsPass bytes kind pass →
      pass (repairRawPacketChecksums bytes) = repairRawPacketChecksums bytes := by
    intro kind pass hpass
    obtain ⟨ops, hrun, hops⟩ := hpass _ hprogress.rewritten
    rw [hrun]
    refine Repairs.run_eq_of_settled ?_
    intro c hc
    exact hprogress.finished.settled c (hdone c ((hops c).mp hc).1)
  have htransport := hpass h.transport_pass
  generalize repairRawPacketChecksums bytes = other at *
  rw [repairRawPacketChecksums, hpass h.ipv4_pass, hpass h.icmp_pass, hpass h.sctp_pass, htransport,
    hpass h.gre_pass, htransport]

theorem Tunnelled.repair_verifies : AllVerify (repairRawPacketChecksums bytes) := by
  obtain ⟨done, hprogress, hdone⟩ := h.repair_progress hrep
  intro c hc
  have hreached : c ∈ reachedChecksums bytes := by
    rwa [reachedChecksums, process_rewritten h.outer h.single hprogress.rewritten
      checksumCollector_local (List.Subset.refl _)] at hc
  by_cases hrepaired : c ∈ repairedChecksums bytes
  · refine verifies_of_settled (h.footing.shape _ hprogress.rewritten c hrepaired) ?_
      (hprogress.finished.settled c (hdone c hrepaired))
    intro k hk
    obtain ⟨hzero, hkeeps⟩ := hrep.padding c hreached k hk
    rw [hprogress.octets k fun d hd hwrite hstale => hkeeps d hd hstale hwrite]
    exact hzero
  · rcases hrep.left c hreached with hmem | ⟨hverifies, hkeeps⟩
    · exact absurd hmem hrepaired
    · refine verifies_congr hprogress.rewritten.length (reached_shape hreached) ?_ hverifies
      intro k hk
      exact hprogress.octets k fun d hd hwrite hstale => hkeeps d hd hstale k hwrite hk

end Repair

/-! ## Every packet -/

theorem collect_of_none {bytes : Bytes} (h : ethernetHeader bytes 0 = []) {τ : Type}
    (c : Collector τ) : c.collect bytes = [] := by
  rw [Collector.collect, h, List.flatMap_nil]

theorem repair_of_none {bytes : Bytes} (h : ethernetHeader bytes 0 = []) :
    repairRawPacketChecksums bytes = bytes := by
  have hipv4 : repairRawPacketIpv4Checksums bytes = bytes := by
    have hnone : collectRawPacketIpv4HeaderOffsets bytes = [] := by
      apply List.eq_nil_iff_forall_not_mem.mpr
      intro offset hoffset
      obtain ⟨ip, hip, -⟩ := mem_collectIpv4.mp hoffset
      rw [h] at hip
      cases hip
    rw [repairRawPacketIpv4Checksums, hnone, List.foldl_nil]
  have hicmp : repairRawPacketIcmpChecksums bytes = bytes := by
    rw [repairRawPacketIcmpChecksums, collectRawPacketIcmpChecksumTargets, collect_of_none h]
    rfl
  have hsctp : repairRawPacketSctpChecksums bytes = bytes := by
    rw [repairRawPacketSctpChecksums, collectRawPacketSctpChecksumTargets, collect_of_none h]
    rfl
  have htransport : repairRawPacketTransportChecksums bytes = bytes := by
    rw [repairRawPacketTransportChecksums, collectRawPacketTransportChecksumTargets,
      collect_of_none h]
    rfl
  have hgre : repairRawPacketGreChecksums bytes = bytes := by
    rw [repairRawPacketGreChecksums, collectRawPacketGreChecksumTargets, collect_of_none h]
    rfl
  rw [repairRawPacketChecksums, hipv4, hicmp, hsctp, htransport, hgre, htransport]

theorem OneTunnelPerHeader.cases {bytes : Bytes} (h : OneTunnelPerHeader bytes) :
    ethernetHeader bytes 0 = [] ∨ ∃ ip, Tunnelled bytes ip := by
  cases hsome : ethernetHeader bytes 0 with
  | nil => exact Or.inl rfl
  | cons ip rest =>
      have hip : ip ∈ ethernetHeader bytes 0 := by
        rw [hsome]
        exact List.mem_cons_self
      obtain ⟨hsingle, hfirst⟩ := h ip hip
      exact Or.inr ⟨ip, hip, hsingle, hfirst⟩

section Packets

/-- The addresses and the type of an Ethernet frame that carries IPv4. -/
def rawEthernet : Bytes := [0, 0, 0, 0, 0, 1, 0, 0, 0, 0, 0, 2, 8, 0]

def rawIpv4 (protocol : UInt8) (totalLength : Nat) : Bytes :=
  [0x45, 0] ++ be16 totalLength ++ [0, 1, 0, 0, 64, protocol, 0, 0, 10, 0, 0, 1, 10, 0, 0, 2]

def vxlanPacket : Bytes :=
  rawEthernet ++ rawIpv4 17 74 ++ be16 1000 ++ be16 4789 ++ be16 54 ++ [1, 1]
    ++ [8, 0, 0, 0, 0, 0, 42, 0] ++ rawEthernet ++ rawIpv4 1 24 ++ [8, 0, 0, 0]

def paddedPacket : Bytes := rawEthernet ++ rawIpv4 1 25 ++ [8, 0, 0, 0, 7] ++ [1]

instance (bytes : Bytes) (header : RawL4Header) : Decidable (SinglePort bytes header) :=
  inferInstanceAs (Decidable (_ → ∀ udp ∈ rawPacketUdpTarget bytes header.l4Offset header.limit,
    ¬(udp.isVxlan ∧ udp.isGtpu)))

instance (bytes : Bytes) (fuel : Nat) (ip : RawIpHeader) : Decidable (SinglePorts bytes fuel ip) :=
  inferInstanceAs (Decidable (∀ header ∈ headerCollector.process bytes fuel ip, SinglePort bytes header))

instance (bytes : Bytes) : Decidable (OneTunnelPerHeader bytes) :=
  inferInstanceAs (Decidable (∀ ip ∈ ethernetHeader bytes 0, _ ∧ _))

theorem vxlan_reached : reachedChecksums vxlanPacket
    = [.ipv4 14 20, .transport ⟨40, 14, .ipv4, 34, 54, 17⟩, .ipv4 64 20,
      .icmp ⟨86, 84, 64, .ipv4, 4⟩] := by
  decide +kernel

theorem vxlan_ipv4 : ∀ ip ∈ ethernetHeader vxlanPacket 0,
    outerIpv4Checksums vxlanPacket ip = [.ipv4 14 20, .ipv4 64 20] := by
  decide +kernel

theorem vxlan_repairable : Repairable vxlanPacket := by
  have hheader : (⟨.ipv4, 14⟩ : RawIpHeader) ∈ ethernetHeader vxlanPacket 0 := by decide +kernel
  have hipv4 := vxlan_ipv4 _ hheader
  -- no two checksums of it are TCP, UDP or GRE checksums
  have hone : ∀ c ∈ repairedChecksums vxlanPacket, ¬c.IsLeaf →
      c = .transport ⟨40, 14, .ipv4, 34, 54, 17⟩ := by
    intro c hc hleaf
    have hreached : ∀ {d}, d ∈ reachedChecksums vxlanPacket → ¬d.IsLeaf →
        d = .transport ⟨40, 14, .ipv4, 34, 54, 17⟩ := by
      intro d hd hdleaf
      rw [vxlan_reached] at hd
      simp only [List.mem_cons, List.not_mem_nil, or_false] at hd
      rcases hd with rfl | rfl | rfl | rfl
      · exact absurd trivial hdleaf
      · rfl
      · exact absurd trivial hdleaf
      · exact absurd trivial hdleaf
    cases c with
    | ipv4 offset headerLength => exact absurd trivial hleaf
    | icmp target => exact absurd trivial hleaf
    | sctp target => exact absurd trivial hleaf
    | transport target => exact hreached hc hleaf
    | gre target =>
        exact hreached ((mem_reachedChecksums hheader).mpr
          (mem_greCollector ((mem_collect hheader).mp hc))) hleaf
  have hcovers : ∀ c, ¬rawRepairs.Covers c c := by
    rintro c ⟨_, hread, hwrite⟩
    exact hread.2 hwrite
  refine ⟨?_, ?_, ?_, ?_⟩
  · intro c hc
    left
    have hmem := hc
    rw [vxlan_reached] at hc
    simp only [List.mem_cons, List.not_mem_nil, or_false] at hc
    rcases hc with rfl | rfl | rfl | rfl
    · exact ⟨_, hheader, by rw [hipv4]; exact List.mem_cons_self⟩
    · exact hmem
    · exact ⟨_, hheader, by rw [hipv4]; exact List.mem_cons_of_mem _ List.mem_cons_self⟩
    · exact hmem
  · intro c hc k hk
    have hpadding : ∀ d ∈ reachedChecksums vxlanPacket, d.padding = [] := by
      rw [vxlan_reached]
      decide
    rw [hpadding c hc] at hk
    cases hk
  · intro c hc target htarget hcovers' e he hdeep hleaf
    have htransport := hone _ htarget (fun hleaf => hleaf)
    rw [hone e he hleaf, htransport] at hdeep
    exact absurd hdeep (hcovers _)
  · intro target inner htarget
    have hkind := hone _ htarget (fun hleaf => hleaf)
    cases hkind

end Packets

end TrexWebui
