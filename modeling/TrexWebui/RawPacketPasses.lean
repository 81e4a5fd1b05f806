import TrexWebui.RawPacketSoundness

/-!
# The passes over a raw packet

The checksums that the passes repair lie apart, and rewriting them leaves every
walk as it is. So each pass repairs what the packet had at the start, and the
second repair finds nothing to change.
-/

namespace TrexWebui

open PyStr Octets InternetChecksum FieldRepairs

/-! ## The checksums of a packet -/

/-- The checksums of the headers that are reached through VXLAN, GTP-U and GRE. -/
def reachedChecksums (bytes : Bytes) : List RawChecksum := checksumCollector.collect bytes

/-- No UDP header has both a VXLAN and a GTP-U port: none that a walk reaches, and not the one
behind an outer header that is a fragment. -/
def OneTunnelPerHeader (bytes : Bytes) : Prop :=
  ∀ ip ∈ ethernetHeader bytes 0, SinglePorts bytes (bytes.length + 1) ip
    ∧ ∀ header ∈ outerL4 bytes ip, SinglePort bytes header

def repairedChecksums (bytes : Bytes) : Set RawChecksum :=
  {checksum | match checksum with
    | .ipv4 offset headerLength =>
        ∃ ip ∈ ethernetHeader bytes 0, .ipv4 offset headerLength ∈ outerIpv4Checksums bytes ip
    | .gre target => target ∈ greCollector.collect bytes
    | checksum => checksum ∈ reachedChecksums bytes}

section Packet

variable {bytes : Bytes} {ip : RawIpHeader}

theorem mem_collect {τ : Type} {c : Collector τ} (hip : ip ∈ ethernetHeader bytes 0) {x : τ} :
    x ∈ c.collect bytes ↔ x ∈ c.process bytes (bytes.length + 1) ip := by
  rw [Collector.collect, List.mem_flatMap]
  constructor
  · rintro ⟨other, hother, h⟩
    rw [(mem_ethernetHeader hip).2 other hother] at h
    exact h
  · intro h
    exact ⟨ip, hip, h⟩

theorem mem_reachedChecksums (hip : ip ∈ ethernetHeader bytes 0) {checksum : RawChecksum} :
    checksum ∈ reachedChecksums bytes ↔ checksum ∈ checksumsFrom bytes (bytes.length + 1) ip :=
  mem_collect hip

theorem mem_repaired_ipv4 (hip : ip ∈ ethernetHeader bytes 0) {offset headerLength : Nat} :
    .ipv4 offset headerLength ∈ repairedChecksums bytes ↔
      .ipv4 offset headerLength ∈ outerIpv4Checksums bytes ip := by
  constructor
  · rintro ⟨other, hother, h⟩
    rw [(mem_ethernetHeader hip).2 other hother] at h
    exact h
  · intro h
    exact ⟨ip, hip, h⟩

theorem outerL4_of_mem {first header : RawL4Header} (hfirst : first ∈ processIp bytes walkProtocols ip)
    (h : header ∈ outerL4 bytes ip) : header ∈ processIp bytes walkProtocols ip := by
  obtain ⟨version, offset⟩ := ip
  cases version with
  | ipv4 =>
      change first ∈ processIpv4 bytes offset at hfirst
      show header ∈ processIpv4 bytes offset
      rw [outerL4] at h
      rw [processIpv4] at hfirst ⊢
      cases hlength : rawIpv4HeaderLengthAt bytes offset with
      | none =>
          rw [hlength] at hfirst
          cases hfirst
      | some headerLength =>
          rw [hlength] at hfirst
          simp only [hlength, List.mem_singleton] at h hfirst ⊢
          split at hfirst
          · cases hfirst
          · rename_i hfragment
            rw [if_neg hfragment]
            split at hfirst
            · cases hfirst
            · rename_i htotal
              rw [if_neg htotal]
              rw [not_or, not_not, not_lt] at htotal
              rw [h, rawIpv4PacketEnd]
              simp only [if_pos htotal]
              exact List.mem_singleton.mpr rfl
  | ipv6 =>
      have hprotocols : [47, 17] ⊆ walkProtocols := by
        show [47, 17] ⊆ [58, 132, 6, 17, 47]
        decide
      have hmem : header ∈ processIp bytes [47, 17] ⟨.ipv6, offset⟩ := h
      exact ((mem_processIp_iff hprotocols).mp hmem).1

/-- Where a header follows the outer one behind it, the walk starts with two steps. -/
theorem exists_fuel {header : RawL4Header} (hheader : header ∈ processIp bytes walkProtocols ip) :
    ∃ fuel, bytes.length = fuel + 1 := by
  have hspec := mem_processIp hheader
  have hbehind := hspec.behind
  have hle := hspec.le_limit
  have hfits := hspec.limit_le
  exact ⟨bytes.length - 1, by omega⟩

theorem outerIpv4_reached {header : RawL4Header} (hheader : header ∈ processIp bytes walkProtocols ip)
    {checksum : RawChecksum} (h : checksum ∈ outerIpv4Checksums bytes ip) :
    checksum ∈ checksumsFrom bytes (bytes.length + 1) ip := by
  rcases mem_outerIpv4Checksums.mp h with h | ⟨first, hfirst, inner, hinner, h⟩
  · exact mem_checksumsFrom.mpr (Or.inl h)
  · have hsame := outerL4_of_mem hheader hfirst
    obtain ⟨fuel, hfuel⟩ := exists_fuel hheader
    refine mem_checksumsFrom.mpr (Or.inr ⟨first, hsame, Or.inr ⟨inner, hinner, ?_⟩⟩)
    rw [hfuel]
    exact mem_checksumsFrom.mpr (Or.inl h)

/-- What is repaired is reached, where the outer header is no fragment. -/
theorem repaired_reached (hip : ip ∈ ethernetHeader bytes 0) {header : RawL4Header}
    (hheader : header ∈ processIp bytes walkProtocols ip) {checksum : RawChecksum}
    (h : checksum ∈ repairedChecksums bytes) :
    checksum ∈ checksumsFrom bytes (bytes.length + 1) ip := by
  cases checksum with
  | ipv4 offset headerLength => exact outerIpv4_reached hheader ((mem_repaired_ipv4 hip).mp h)
  | icmp target => exact (mem_reachedChecksums hip).mp h
  | sctp target => exact (mem_reachedChecksums hip).mp h
  | transport target => exact (mem_reachedChecksums hip).mp h
  | gre target => exact mem_greCollector ((mem_collect hip).mp h)

theorem repaired_of_cut (hip : ip ∈ ethernetHeader bytes 0)
    (hcut : processIp bytes walkProtocols ip = []) {checksum : RawChecksum}
    (h : checksum ∈ repairedChecksums bytes) : checksum ∈ outerIpv4Checksums bytes ip := by
  have hreached : ∀ {c}, c ∈ checksumsFrom bytes (bytes.length + 1) ip → c ∈ ipChecksums bytes ip := by
    intro c hc
    rcases mem_checksumsFrom.mp hc with hc | ⟨header, hheader, -⟩
    · exact hc
    · rw [hcut] at hheader
      cases hheader
  have hipv4 : ∀ {c}, c ∈ ipChecksums bytes ip → c ∈ outerIpv4Checksums bytes ip := fun hc =>
    mem_outerIpv4Checksums.mpr (Or.inl hc)
  cases checksum with
  | ipv4 offset headerLength => exact (mem_repaired_ipv4 hip).mp h
  | icmp target => exact hipv4 (hreached ((mem_reachedChecksums hip).mp h))
  | sctp target => exact hipv4 (hreached ((mem_reachedChecksums hip).mp h))
  | transport target => exact hipv4 (hreached ((mem_reachedChecksums hip).mp h))
  | gre target => exact hipv4 (hreached (mem_greCollector ((mem_collect hip).mp h)))

/-! ## The fields are apart -/

theorem outerL4_ipv6 {offset : Nat} {header : RawL4Header}
    (h : header ∈ outerL4 bytes ⟨.ipv6, offset⟩) :
    header ∈ processIp bytes walkProtocols ⟨.ipv6, offset⟩ := by
  have hprotocols : [47, 17] ⊆ walkProtocols := by
    show [47, 17] ⊆ [58, 132, 6, 17, 47]
    decide
  have hmem : header ∈ processIp bytes [47, 17] ⟨.ipv6, offset⟩ := h
  exact ((mem_processIp_iff hprotocols).mp hmem).1

/-- The header behind an outer IPv4 header starts where this header ends. -/
theorem outerL4_ipv4 {offset : Nat} {header : RawL4Header}
    (h : header ∈ outerL4 bytes ⟨.ipv4, offset⟩) :
    ∃ headerLength, rawIpv4HeaderLengthAt bytes offset = some headerLength
      ∧ header = ⟨.ipv4, offset, octetAt bytes (offset + 9), offset + headerLength,
        rawIpv4PacketEnd bytes offset headerLength⟩ := by
  rw [outerL4] at h
  cases hlength : rawIpv4HeaderLengthAt bytes offset with
  | none =>
      simp only [hlength] at h
      cases h
  | some headerLength =>
      simp only [hlength] at h
      exact ⟨headerLength, rfl, List.mem_singleton.mp h⟩

theorem outerL4_unique {first header : RawL4Header} (hfirst : first ∈ outerL4 bytes ip)
    (h : header ∈ outerL4 bytes ip) : header = first := by
  obtain ⟨version, offset⟩ := ip
  cases version with
  | ipv4 =>
      obtain ⟨headerLength, hlength, rfl⟩ := outerL4_ipv4 hfirst
      obtain ⟨headerLength', hlength', rfl⟩ := outerL4_ipv4 h
      rw [hlength] at hlength'
      cases hlength'
      rfl
  | ipv6 =>
      exact processIp_unique (List.Subset.refl _) (List.Subset.refl _) (outerL4_ipv6 h)
        (outerL4_ipv6 hfirst)

theorem outerL4_behind {header : RawL4Header} (h : header ∈ outerL4 bytes ip) :
    ip.ipOffset + 20 ≤ header.l4Offset
      ∧ ∀ c ∈ ipChecksums bytes ip, ∀ k ∈ c.covered, k < header.l4Offset := by
  obtain ⟨version, offset⟩ := ip
  cases version with
  | ipv4 =>
      obtain ⟨headerLength, hlength, rfl⟩ := outerL4_ipv4 h
      obtain ⟨hmin, heven, -⟩ := headerLength_spec hlength
      refine ⟨by simp only; omega, ?_⟩
      intro c hc k hk
      obtain ⟨-, headerLength', hlength', rfl⟩ := mem_ipChecksums hc
      change rawIpv4HeaderLengthAt bytes offset = some headerLength' at hlength'
      rw [hlength] at hlength'
      cases hlength'
      have hhigh : k < offset + 2 * ((headerLength + 1) / 2) := hk.2
      simp only
      omega
  | ipv6 =>
      refine ⟨(mem_processIp (outerL4_ipv6 h)).behind, ?_⟩
      intro c hc
      cases hc

theorem ipChecksums_unique {c d : RawChecksum} (hc : c ∈ ipChecksums bytes ip)
    (hd : d ∈ ipChecksums bytes ip) : c = d := by
  obtain ⟨-, headerLength, hlength, rfl⟩ := mem_ipChecksums hc
  obtain ⟨-, headerLength', hlength', rfl⟩ := mem_ipChecksums hd
  rw [hlength] at hlength'
  cases hlength'
  rfl

theorem repaired_ge (hip : ip ∈ ethernetHeader bytes 0) {checksum : RawChecksum}
    (h : checksum ∈ repairedChecksums bytes) {k : Nat} (hk : k ∈ checksum.writes) :
    ip.ipOffset + 2 ≤ k := by
  cases hsome : processIp bytes walkProtocols ip with
  | nil =>
      rcases mem_outerIpv4Checksums.mp (repaired_of_cut hip hsome h) with h | ⟨header, hheader, inner, hinner, h⟩
      · have hlow := (ipChecksum_writes h hk).1
        omega
      · have hlow := (ipChecksum_writes h hk).1
        have hbehind := (outerL4_behind hheader).1
        have hle := mem_innerHeaders_le hinner
        omega
  | cons header rest =>
      have hheader : header ∈ processIp bytes walkProtocols ip := by
        rw [hsome]
        exact List.mem_cons_self
      exact (checksumsFrom_ge (repaired_reached hip hheader h)).1 k hk

theorem transport_nonzero {fuel : Nat} {target : RawPacketTransportChecksumTarget}
    (h : .transport target ∈ checksumsFrom bytes fuel ip) (hudp : target.protocol = 17)
    (hversion : target.ipVersion = .ipv4) : rawPacketWord bytes target.checksumOffset ≠ 0 := by
  induction fuel generalizing ip with
  | zero => cases h
  | succ fuel ih =>
      rcases mem_checksumsFrom.mp h with h | ⟨header, -, h | ⟨inner, -, h⟩⟩
      · obtain ⟨-, headerLength, -, hkind⟩ := mem_ipChecksums h
        cases hkind
      · rcases mem_headerChecksums.mp h with ⟨t, ht, hkind⟩ | ⟨t, ht, hkind⟩ | ⟨t, ht, hkind⟩ | ⟨t, ht, hkind⟩
        · cases hkind
        · cases hkind
        · cases hkind
          rcases mem_addTransportTarget ht with ⟨-, ⟨udp, -, rfl⟩, hnonzero⟩ | ⟨hp, -, rfl⟩
          · exact hnonzero hversion
          · have hp' : header.protocol = 17 := hudp
            omega
        · cases hkind
      · exact ih h

theorem kept_of_rewritten (hip : ip ∈ ethernetHeader bytes 0) {header : RawL4Header}
    (hheader : header ∈ processIp bytes walkProtocols ip) {other : Bytes}
    (h : Rewritten bytes (repairedChecksums bytes) other) :
    Kept bytes other (bytes.length + 1) ip where
  length := h.length
  octets := by
    intro k _ hfields
    refine h.octets k ?_
    intro c hc
    exact hfields c (repaired_reached hip hheader hc)
  nonzero := by
    intro target htarget
    exact h.nonzero target ((mem_reachedChecksums hip).mpr htarget)

theorem octets_of_cut (hip : ip ∈ ethernetHeader bytes 0)
    (hcut : processIp bytes walkProtocols ip = []) {header : RawL4Header}
    (hheader : header ∈ outerL4 bytes ip) {k : Nat} (hlow : header.l4Offset ≤ k)
    (hinner : ∀ inner ∈ innerHeaders bytes header, k ≤ inner.ipOffset + 1) {c : RawChecksum}
    (hc : c ∈ repairedChecksums bytes) : k ∉ c.writes := by
  intro hk
  have hbehind := (outerL4_behind hheader).1
  rcases mem_outerIpv4Checksums.mp (repaired_of_cut hip hcut hc) with h | ⟨header', hheader', inner, hmem, h⟩
  · have hhigh := (ipChecksum_writes h hk).2
    omega
  · rw [outerL4_unique hheader hheader'] at hmem
    have hhigh := hinner inner hmem
    have hplace := (ipChecksum_writes h hk).1
    omega

theorem repaired_apart (hip : ip ∈ ethernetHeader bytes 0)
    (hsingle : SinglePorts bytes (bytes.length + 1) ip)
    (houter : ∀ header ∈ outerL4 bytes ip, SinglePort bytes header) {c d : RawChecksum}
    (hc : c ∈ repairedChecksums bytes) (hd : d ∈ repairedChecksums bytes) (hne : c ≠ d) :
    (∀ k ∈ c.writes, k ∉ d.writes) ∧ (c.IsLeaf → ∀ k ∈ c.covered, k ∉ d.writes) := by
  cases hsome : processIp bytes walkProtocols ip with
  | cons header rest =>
      have hheader : header ∈ processIp bytes walkProtocols ip := by
        rw [hsome]
        exact List.mem_cons_self
      have hc' := repaired_reached hip hheader hc
      have hd' := repaired_reached hip hheader hd
      exact ⟨checksumsFrom_disjoint hsingle hc' hd' hne,
        fun hleaf => checksumsFrom_leaf hsingle hc' hleaf hd' hne⟩
  | nil =>
      have hplaces : ∀ {inner : RawIpHeader} {e : RawChecksum}, e ∈ ipChecksums bytes inner →
          ∀ k, k ∈ e.writes ∨ k ∈ e.covered → inner.ipOffset ≤ k := by
        intro inner e he k hk
        rcases hk with hk | hk
        · have hlow := (ipChecksum_writes he hk).1
          omega
        · exact (ipChecksum_places he hk).1
      have happart : ∀ k, k ∈ c.writes ∨ k ∈ c.covered → k ∉ d.writes := by
        intro k hkc hkd
        rcases mem_outerIpv4Checksums.mp (repaired_of_cut hip hsome hc) with
          hcip | ⟨header, hheader, inner, hinner, hcdeep⟩ <;>
        rcases mem_outerIpv4Checksums.mp (repaired_of_cut hip hsome hd) with
          hdip | ⟨header', hheader', inner', hinner', hddeep⟩
        · exact hne (ipChecksums_unique hcip hdip)
        · obtain ⟨hbehind, hcovered⟩ := outerL4_behind hheader'
          have hle := mem_innerHeaders_le hinner'
          have hhigh := (ipChecksum_writes hddeep hkd).1
          rcases hkc with hkc | hkc
          · have hlow := (ipChecksum_writes hcip hkc).2
            omega
          · have hlow := hcovered c hcip k hkc
            omega
        · have hbehind := (outerL4_behind hheader).1
          have hle := mem_innerHeaders_le hinner
          have hhigh := hplaces hcdeep k hkc
          have hlow := (ipChecksum_writes hdip hkd).2
          omega
        · rw [outerL4_unique hheader hheader'] at hinner'
          rw [innerHeaders_unique (houter header hheader) hinner hinner'] at hddeep
          exact hne (ipChecksums_unique hcdeep hddeep)
      exact ⟨fun k hk => happart k (Or.inl hk), fun _ k hk => happart k (Or.inr hk)⟩

/-! ## Rewriting the fields leaves the walks as they are -/

section Rewriting

variable {other : Bytes}

theorem ethernetHeader_rewritten (hip : ip ∈ ethernetHeader bytes 0)
    (h : Rewritten bytes (repairedChecksums bytes) other) :
    ethernetHeader other 0 = ethernetHeader bytes 0 := by
  refine ethernetHeader_congr h.length ?_
  intro k _ hbefore
  refine h.octets k ?_
  intro c hc hk
  have hge := repaired_ge hip hc hk
  have hle := hbefore ip hip
  omega

theorem ip_octets (hip : ip ∈ ethernetHeader bytes 0)
    (h : Rewritten bytes (repairedChecksums bytes) other) {k : Nat} (hlow : ip.ipOffset ≤ k)
    (hhigh : k < ip.ipOffset + 10) :
    octetAt other k = octetAt bytes k := by
  refine h.octets k ?_
  intro c hc hk
  cases hsome : processIp bytes walkProtocols ip with
  | nil =>
      rcases mem_outerIpv4Checksums.mp (repaired_of_cut hip hsome hc) with
        hc | ⟨header, hheader, inner, hinner, hc⟩
      · have hplace := (ipChecksum_writes hc hk).1
        omega
      · have hbehind := (outerL4_behind hheader).1
        have hle := mem_innerHeaders_le hinner
        have hplace := (ipChecksum_writes hc hk).1
        omega
  | cons header rest =>
      have hheader : header ∈ processIp bytes walkProtocols ip := by
        rw [hsome]
        exact List.mem_cons_self
      rcases mem_checksumsFrom.mp (repaired_reached hip hheader hc) with
        hc | ⟨header', hheader', hc | ⟨inner, hinner, hc⟩⟩
      · have hplace := (ipChecksum_writes hc hk).1
        omega
      · have hbehind := (mem_processIp hheader').behind
        have hplace := (headerChecksum_writes hc hk).1
        omega
      · have hbehind := (mem_processIp hheader').behind
        have hle := mem_innerHeaders_le hinner
        have hplace := (checksumsFrom_ge hc).1 k hk
        omega

theorem processIp_rewritten (hip : ip ∈ ethernetHeader bytes 0)
    (h : Rewritten bytes (repairedChecksums bytes) other) (protocols : List Nat) :
    processIp other protocols ip = processIp bytes protocols ip := by
  cases hsome : processIp bytes walkProtocols ip with
  | cons header rest =>
      have hheader : header ∈ processIp bytes walkProtocols ip := by
        rw [hsome]
        exact List.mem_cons_self
      exact (kept_of_rewritten hip hheader h).processIp_eq protocols
  | nil =>
      refine processIp_congr h.length protocols ?_
      intro k hlow hfour _
      cases hversion : ip.ipVersion with
      | ipv4 => exact ip_octets hip h hlow (hfour hversion)
      | ipv6 =>
          refine h.octets k ?_
          intro c hc _
          obtain ⟨version, offset⟩ := ip
          cases hversion
          rcases mem_outerIpv4Checksums.mp (repaired_of_cut hip hsome hc) with
            hc | ⟨header, hheader, -⟩
          · cases hc
          · have hnone := outerL4_ipv6 hheader
            rw [hsome] at hnone
            cases hnone

theorem process_rewritten (hip : ip ∈ ethernetHeader bytes 0)
    (hsingle : SinglePorts bytes (bytes.length + 1) ip)
    (h : Rewritten bytes (repairedChecksums bytes) other) {τ : Type} {c : Collector τ}
    (hlocal : c.Local) (hprotocols : c.protocols ⊆ walkProtocols) :
    c.collect other = c.collect bytes := by
  have hprocess : c.process other (bytes.length + 1) ip = c.process bytes (bytes.length + 1) ip := by
    cases hsome : processIp bytes walkProtocols ip with
    | cons header rest =>
        have hheader : header ∈ processIp bytes walkProtocols ip := by
          rw [hsome]
          exact List.mem_cons_self
        exact (kept_of_rewritten hip hheader h).process_eq hlocal hsingle hprotocols
    | nil =>
        have hfirst : octetAt other ip.ipOffset = octetAt bytes ip.ipOffset := by
          refine h.octets ip.ipOffset ?_
          intro d hd hk
          have hge := repaired_ge hip hd hk
          omega
        have hnone : processIp bytes c.protocols ip = [] := by
          apply List.eq_nil_iff_forall_not_mem.mpr
          intro header hheader
          have hmem := ((mem_processIp_iff hprotocols).mp hheader).1
          rw [hsome] at hmem
          cases hmem
        rw [Collector.process, Collector.process, processIp_rewritten hip h, hnone,
          hlocal.addIp bytes other ip h.length hfirst, List.flatMap_nil, List.flatMap_nil]
  rw [Collector.collect, Collector.collect, ethernetHeader_rewritten hip h, h.length]
  refine List.flatMap_congr ?_
  intro ip' hip'
  rw [(mem_ethernetHeader hip).2 ip' hip']
  exact hprocess

theorem outerL4_rewritten (hip : ip ∈ ethernetHeader bytes 0)
    (h : Rewritten bytes (repairedChecksums bytes) other) : outerL4 other ip = outerL4 bytes ip := by
  have hread : ∀ k, ip.ipOffset ≤ k → k < ip.ipOffset + 10 → octetAt other k = octetAt bytes k :=
    fun k hlow hhigh => ip_octets hip h hlow hhigh
  obtain ⟨version, offset⟩ := ip
  cases version with
  | ipv4 =>
      change ∀ k, offset ≤ k → k < offset + 10 → octetAt other k = octetAt bytes k at hread
      have htotal : rawPacketWord other (offset + 2) = rawPacketWord bytes (offset + 2) :=
        word_congr (hread _ (by omega) (by omega)) (hread _ (by omega) (by omega))
      have hend : ∀ headerLength, rawIpv4PacketEnd other offset headerLength
          = rawIpv4PacketEnd bytes offset headerLength := by
        intro headerLength
        simp only [rawIpv4PacketEnd, htotal, hasBytes_congr h.length, h.length]
      simp only [outerL4, headerLengthAt_congr h.length (hread offset (le_refl _) (by omega)), hend,
        hread (offset + 9) (by omega) (by omega)]
  | ipv6 => exact processIp_rewritten hip h [47, 17]

theorem innerHeaders_rewritten (hip : ip ∈ ethernetHeader bytes 0)
    (hsingle : SinglePorts bytes (bytes.length + 1) ip)
    (houter : ∀ header ∈ outerL4 bytes ip, SinglePort bytes header)
    (h : Rewritten bytes (repairedChecksums bytes) other) {header : RawL4Header}
    (hheader : header ∈ outerL4 bytes ip) :
    innerHeaders other header = innerHeaders bytes header := by
  cases hsome : processIp bytes walkProtocols ip with
  | cons first rest =>
      have hfirst : first ∈ processIp bytes walkProtocols ip := by
        rw [hsome]
        exact List.mem_cons_self
      exact (kept_of_rewritten hip hfirst h).innerHeaders_eq hsingle (outerL4_of_mem hfirst hheader)
  | nil =>
      refine innerHeaders_congr h.length (houter header hheader) ?_
      intro k hlow _ _ hbefore
      refine h.octets k ?_
      intro c hc
      exact octets_of_cut hip hsome hheader hlow
        (fun inner hinner => le_trans (hbefore inner hinner) (Nat.le_add_right _ 1)) hc

/-- The octet with which an IPv4 header inside the first tunnel begins. -/
theorem inner_first_octet (hip : ip ∈ ethernetHeader bytes 0)
    (hsingle : SinglePorts bytes (bytes.length + 1) ip)
    (houter : ∀ header ∈ outerL4 bytes ip, SinglePort bytes header)
    (h : Rewritten bytes (repairedChecksums bytes) other) {header : RawL4Header}
    (hheader : header ∈ outerL4 bytes ip) {inner : RawIpHeader}
    (hinner : inner ∈ innerHeaders bytes header) :
    octetAt other inner.ipOffset = octetAt bytes inner.ipOffset := by
  have hle := mem_innerHeaders_le hinner
  cases hsome : processIp bytes walkProtocols ip with
  | cons first rest =>
      have hfirst : first ∈ processIp bytes walkProtocols ip := by
        rw [hsome]
        exact List.mem_cons_self
      exact ((kept_of_rewritten hip hfirst h).inner hsingle (outerL4_of_mem hfirst hheader)
        hinner).first_octet
  | nil =>
      refine h.octets inner.ipOffset ?_
      intro c hc
      refine octets_of_cut hip hsome hheader (by omega) ?_ hc
      intro deeper hdeeper
      rw [innerHeaders_unique (houter header hheader) hinner hdeeper]
      exact Nat.le_add_right _ 1

theorem outerIpv4_rewritten (hip : ip ∈ ethernetHeader bytes 0)
    (hsingle : SinglePorts bytes (bytes.length + 1) ip)
    (houter : ∀ header ∈ outerL4 bytes ip, SinglePort bytes header)
    (h : Rewritten bytes (repairedChecksums bytes) other) :
    outerIpv4Checksums other ip = outerIpv4Checksums bytes ip := by
  have hfirst : octetAt other ip.ipOffset = octetAt bytes ip.ipOffset :=
    ip_octets hip h (le_refl _) (by omega)
  rw [outerIpv4Checksums, outerIpv4Checksums, outerL4_rewritten hip h]
  congr 1
  · exact checksumCollector_local.addIp bytes other ip h.length hfirst
  · refine List.flatMap_congr ?_
    intro header hheader
    rw [innerHeaders_rewritten hip hsingle houter h hheader]
    refine List.flatMap_congr ?_
    intro inner hinner
    exact checksumCollector_local.addIp bytes other inner h.length
      (inner_first_octet hip hsingle houter h hheader hinner)

theorem ipv4_shape {checksum : RawChecksum} (h : checksum ∈ outerIpv4Checksums bytes ip) :
    checksum.Shape bytes := by
  rcases mem_outerIpv4Checksums.mp h with h | ⟨header, -, inner, -, h⟩
  · obtain ⟨-, headerLength, hlength, rfl⟩ := mem_ipChecksums h
    exact hlength
  · obtain ⟨-, headerLength, hlength, rfl⟩ := mem_ipChecksums h
    exact hlength

end Rewriting

theorem repaired_footing (hip : ip ∈ ethernetHeader bytes 0)
    (hsingle : SinglePorts bytes (bytes.length + 1) ip)
    (houter : ∀ header ∈ outerL4 bytes ip, SinglePort bytes header) :
    Footing bytes (repairedChecksums bytes) where
  nonzero := fun target htarget => transport_nonzero ((mem_reachedChecksums hip).mp htarget)
  disjoint := fun c hc d hd hne => (repaired_apart hip hsingle houter hc hd hne).1
  leaf := fun c hc hleaf d hd hne => (repaired_apart hip hsingle houter hc hd hne).2 hleaf
  shape := by
    intro other h c hc
    have hreached : ∀ {d}, d ∈ reachedChecksums bytes → d.Shape other := by
      intro d hd
      rw [reachedChecksums, ← process_rewritten hip hsingle h checksumCollector_local
        (List.Subset.refl _), Collector.collect, List.mem_flatMap] at hd
      obtain ⟨ip', -, hd⟩ := hd
      exact checksum_shape hd
    cases c with
    | ipv4 offset headerLength =>
        have hmem := (mem_repaired_ipv4 hip).mp hc
        rw [← outerIpv4_rewritten hip hsingle houter h] at hmem
        exact ipv4_shape hmem
    | icmp target => exact hreached hc
    | sctp target => exact hreached hc
    | transport target => exact hreached hc
    | gre target =>
        exact hreached ((mem_reachedChecksums hip).mpr (mem_greCollector ((mem_collect hip).mp hc)))

end Packet

end TrexWebui
