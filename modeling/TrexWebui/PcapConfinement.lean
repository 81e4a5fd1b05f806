import TrexWebui.PcapRewriting

/-!
# What the rewriting of a capture changes

A rewritten packet differs from the captured one in its addresses and
checksums only, and the checksums verify: for every packet but those of three
kinds. A fragment has no transport header of its own to repair, but the
repair does not look at the fragment fields; a UDP length may be smaller than
what the datagram holds; and a datagram may be too long for a pseudo header.
-/

namespace TrexWebui

open PyStr Octets InternetChecksum

/-! ## The property -/

def Fragmented (packet : Bytes) (ip : IpHeader) : Prop :=
  be16At packet (ip.offset + 6) % 0x4000 ≠ 0

instance (packet : Bytes) (ip : IpHeader) : Decidable (Fragmented packet ip) :=
  inferInstanceAs (Decidable (_ ≠ _))

def MayChange (packet : Bytes) (ip : IpHeader) (i : Nat) : Prop :=
  (ip.offset + 10 ≤ i ∧ i < ip.offset + 20) ∨ (¬ Fragmented packet ip
    ∧ ((ip.protocol = 6 ∧ ip.offset + ip.length + 16 ≤ i ∧ i < ip.offset + ip.length + 18)
      ∨ (ip.protocol = 17 ∧ ip.offset + ip.length + 6 ≤ i ∧ i < ip.offset + ip.length + 8)))

def udpLength (packet : Bytes) (ip : IpHeader) : Nat := be16At packet (ip.offset + ip.length + 4)

def segmentLength (packet : Bytes) (ip : IpHeader) : Nat :=
  if ip.protocol = 17 then udpLength packet ip else be16At packet (ip.offset + 2) - ip.length

/-- The length fields fit the packet and hold a transport header. -/
structure LengthsFit (packet : Bytes) (ip : IpHeader) : Prop where
  protocol : ip.protocol = 6 ∨ ip.protocol = 17
  total : ip.offset + be16At packet (ip.offset + 2) ≤ packet.length
  segment : ip.length + segmentLength packet ip ≤ be16At packet (ip.offset + 2)
  tcp : ip.protocol = 6 → 20 ≤ segmentLength packet ip
  udp : ip.protocol = 17 → 8 ≤ segmentLength packet ip

/-- The rewriting is confined, and its checksums verify. -/
structure RewriteSound (packet : Bytes) (ip : IpHeader) (rewritten : Bytes) : Prop where
  length : rewritten.length = packet.length
  confined : ∀ i, octetAt rewritten i ≠ octetAt packet i → MayChange packet ip i
  header : internetChecksum (slice rewritten ip.offset ip.length) = 0
  transport : ¬ Fragmented packet ip → LengthsFit packet ip →
    internetChecksum (checksummed rewritten ip (segmentLength packet ip)) = 0

/-! ## Headers -/

/-- What `ipv4_offsets` accepts. -/
structure AcceptedHeader (packet : Bytes) (ip : IpHeader) : Prop where
  header : 20 ≤ ip.length
  even : ip.length % 2 = 0
  fits : ip.offset + ip.length ≤ packet.length

theorem ipv4Offsets_accepted {packet : Bytes} {ip : IpHeader} (h : ipv4Offsets packet = some ip) :
    AcceptedHeader packet ip := by
  unfold ipv4Offsets at h
  split at h
  · cases h
  · rename_i l2 hl2
    split at h
    · cases h
    · dsimp only at h
      split at h
      · cases h
      · rename_i haccept
        cases h
        rw [not_or, not_or] at haccept
        constructor <;> dsimp only <;> omega

section
variable {packet : Bytes} {ip : IpHeader}

/-! ## The addresses -/

variable (stream : ImportedStream) (options : PcapImportOptions) (state : PcapRewriteState)

theorem length_replaceAddress (accepted : AcceptedHeader packet ip)
    (field : Option Ipv4AddressField) (address : Fixed 4) :
    (replaceAddress packet ip field address).length = packet.length := by
  have hheader := accepted.header
  have hfits := accepted.fits
  cases field with
  | none => rfl
  | some field =>
      apply length_overwrite
      rw [address.length_val]
      cases field <;> simp only [Ipv4AddressField.offset] <;> omega

theorem octetAt_replaceAddress (accepted : AcceptedHeader packet ip)
    (field : Option Ipv4AddressField) (address : Fixed 4) {i : Nat}
    (hi : i < ip.offset + 12 ∨ ip.offset + 20 ≤ i) :
    octetAt (replaceAddress packet ip field address) i = octetAt packet i := by
  have hheader := accepted.header
  have hfits := accepted.fits
  cases field with
  | none => rfl
  | some field =>
      apply octetAt_overwrite <;> rw [address.length_val] <;> cases field <;>
        simp only [Ipv4AddressField.offset] <;> omega

/-- The replaced addresses keep what `ipv4_offsets` looked at. -/
theorem AcceptedHeader.replaceAddress (accepted : AcceptedHeader packet ip)
    (field : Option Ipv4AddressField) (address : Fixed 4) :
    AcceptedHeader (replaceAddress packet ip field address) ip := by
  refine ⟨accepted.header, accepted.even, ?_⟩
  rw [length_replaceAddress accepted]
  exact accepted.fits

theorem length_replaceAddresses (accepted : AcceptedHeader packet ip) :
    (replaceAddresses packet ip stream options state).length = packet.length := by
  rw [replaceAddresses, length_replaceAddress (accepted.replaceAddress _ _),
    length_replaceAddress accepted]

theorem octetAt_replaceAddresses (accepted : AcceptedHeader packet ip) {i : Nat}
    (hi : i < ip.offset + 12 ∨ ip.offset + 20 ≤ i) :
    octetAt (replaceAddresses packet ip stream options state) i = octetAt packet i := by
  rw [replaceAddresses, octetAt_replaceAddress (accepted.replaceAddress _ _) _ _ hi,
    octetAt_replaceAddress accepted _ _ hi]

/-! ## The header checksum -/

theorem zeros_eq : ([0, 0] : Bytes) = be16 0 := by decide

theorem refreshHeaderChecksum_eq (accepted : AcceptedHeader packet ip) :
    refreshHeaderChecksum packet ip = overwrite packet (ip.offset + 10)
      (be16 (internetChecksum (slice (overwrite packet (ip.offset + 10) (be16 0)) ip.offset
        ip.length))) := by
  have hheader := accepted.header
  have hfits := accepted.fits
  have hwrite : ip.offset + 10 + (be16 0).length ≤ packet.length := by
    rw [length_be16]
    omega
  rw [refreshHeaderChecksum, zeros_eq]
  exact overwrite_overwrite hwrite rfl

theorem length_refreshHeaderChecksum (accepted : AcceptedHeader packet ip) :
    (refreshHeaderChecksum packet ip).length = packet.length := by
  have hheader := accepted.header
  have hfits := accepted.fits
  rw [refreshHeaderChecksum_eq accepted]
  apply length_overwrite
  rw [length_be16]
  omega

theorem octetAt_refreshHeaderChecksum (accepted : AcceptedHeader packet ip) {i : Nat}
    (hi : i < ip.offset + 10 ∨ ip.offset + 12 ≤ i) :
    octetAt (refreshHeaderChecksum packet ip) i = octetAt packet i := by
  have hheader := accepted.header
  have hfits := accepted.fits
  rw [refreshHeaderChecksum_eq accepted]
  apply octetAt_overwrite <;> rw [length_be16] <;> omega

theorem headerChecksum_verifies (accepted : AcceptedHeader packet ip) :
    internetChecksum (slice (refreshHeaderChecksum packet ip) ip.offset ip.length) = 0 := by
  have hheader := accepted.header
  have hcarries : Carries fun n =>
      slice (overwrite packet (ip.offset + 10) (be16 n)) ip.offset ip.length :=
    carries_slice accepted.fits (by omega) (by omega) (by omega)
  rw [refreshHeaderChecksum_eq accepted]
  exact hcarries.verifies

/-! ## The transport checksum -/

theorem transportLength_congr {other : Bytes} (hlength : packet.length = other.length)
    (htotal : be16At packet (ip.offset + 2) = be16At other (ip.offset + 2)) :
    transportLength packet ip = transportLength other ip := by
  rw [transportLength, transportLength, hlength, htotal]

theorem transportChecksumOffset_congr {other : Bytes} (hlength : packet.length = other.length)
    (htotal : be16At packet (ip.offset + 2) = be16At other (ip.offset + 2)) :
    transportChecksumOffset packet ip = transportChecksumOffset other ip := by
  rw [transportChecksumOffset, transportChecksumOffset, transportLength_congr hlength htotal,
    hlength]

/-- The field that a transport checksum is written to. -/
structure ChecksumField (packet : Bytes) (ip : IpHeader) (field : Nat) : Prop where
  place : (ip.protocol = 6 ∧ field = ip.offset + ip.length + 16)
    ∨ (ip.protocol = 17 ∧ field = ip.offset + ip.length + 6)
  inside : field + 2 ≤ ip.offset + ip.length + transportLength packet ip
  fits : ip.offset + ip.length + transportLength packet ip ≤ packet.length

theorem checksumField_of_offset {field : Nat} (h : transportChecksumOffset packet ip = some field) :
    ChecksumField packet ip field := by
  unfold transportChecksumOffset at h
  dsimp only at h
  split at h
  · rename_i htcp
    cases h
    exact ⟨.inl ⟨htcp.1, rfl⟩, by omega, htcp.2.2⟩
  · split at h
    · rename_i hudp
      cases h
      exact ⟨.inr ⟨hudp.1, rfl⟩, by omega, hudp.2.2⟩
    · cases h

theorem ChecksumField.low {field : Nat} (h : ChecksumField packet ip field) :
    ip.offset + ip.length + 6 ≤ field ∧ (field - (ip.offset + ip.length)) % 2 = 0 := by
  rcases h.place with ⟨-, hfield⟩ | ⟨-, hfield⟩ <;> omega

theorem checksummed_overwrite {field : Nat} (accepted : AcceptedHeader packet ip)
    (hfield : ip.offset + ip.length ≤ field) (hfits : field + 2 ≤ packet.length) (n length : Nat) :
    checksummed (overwrite packet field (be16 n)) ip length
      = pseudoHeaderOf packet ip length
        ++ slice (overwrite packet field (be16 n)) (ip.offset + ip.length) length := by
  have hheader := accepted.header
  have hwrite : field + (be16 n).length ≤ packet.length := by
    rw [length_be16]
    omega
  rw [checksummed, pseudoHeaderOf, pseudoHeaderOf, slice_overwrite hwrite (by omega),
    slice_overwrite hwrite (by omega)]

theorem length_pseudoHeaderOf (accepted : AcceptedHeader packet ip) (length : Nat) :
    (pseudoHeaderOf packet ip length).length = 12 := by
  have hheader := accepted.header
  have hfits := accepted.fits
  simp only [pseudoHeaderOf, List.length_append, length_slice (show ip.offset + 12 + 4 ≤ packet.length by omega),
    length_slice (show ip.offset + 16 + 4 ≤ packet.length by omega), length_be16,
    List.length_cons, List.length_nil]

theorem carries_checksummed {field length : Nat} (accepted : AcceptedHeader packet ip)
    (hlow : ip.offset + ip.length ≤ field) (heven : (field - (ip.offset + ip.length)) % 2 = 0)
    (hinside : field + 2 ≤ ip.offset + ip.length + length)
    (hfits : ip.offset + ip.length + length ≤ packet.length) :
    Carries fun n => checksummed (overwrite packet field (be16 n)) ip length := by
  have hcarries := (carries_slice hfits hlow hinside heven).prepend
    (pseudoHeaderOf packet ip length) (by rw [length_pseudoHeaderOf accepted])
  obtain ⟨front, back, hfront, heq⟩ := hcarries
  refine ⟨front, back, hfront, ?_⟩
  intro n
  exact (checksummed_overwrite accepted hlow (by omega) n length).trans (heq n)

theorem words_checksummed (accepted : AcceptedHeader packet ip) {length : Nat}
    (hlength : length < 65536) :
    words (checksummed packet ip length)
      = words (pseudoHeaderOf packet ip 0) + length
        + words (slice packet (ip.offset + ip.length) length) := by
  have hheader := accepted.header
  have hfits := accepted.fits
  have haddresses : (slice packet (ip.offset + 12) 4 ++ slice packet (ip.offset + 16) 4
      ++ [0, UInt8.ofNat ip.protocol]).length % 2 = 0 := by
    simp only [List.length_append, length_slice (show ip.offset + 12 + 4 ≤ packet.length by omega),
      length_slice (show ip.offset + 16 + 4 ≤ packet.length by omega), List.length_cons,
      List.length_nil]
  have hzero := words_field haddresses (show 0 < 65536 by decide) []
  rw [List.append_nil] at hzero
  rw [checksummed, pseudoHeaderOf, words_field haddresses hlength, pseudoHeaderOf, hzero]
  simp only [words, Nat.add_zero]

def sentChecksum (packet : Bytes) (ip : IpHeader) (field : Nat) : Nat :=
  let checksum := internetChecksum
    (checksummed (overwrite packet field (be16 0)) ip (transportLength packet ip))
  if checksum = 0 then 0xFFFF else checksum

theorem sentChecksum_lt (packet : Bytes) (ip : IpHeader) (field : Nat) :
    sentChecksum packet ip field < 65536 := by
  have hlt := internetChecksum_lt
    (checksummed (overwrite packet field (be16 0)) ip (transportLength packet ip))
  unfold sentChecksum
  dsimp only
  split <;> omega

theorem refreshTransportChecksum_eq {field : Nat} (h : ChecksumField packet ip field) :
    refreshTransportChecksum packet ip field
      = overwrite packet field (be16 (sentChecksum packet ip field)) := by
  have hinside := h.inside
  have hfits := h.fits
  have hlow := h.low
  have hwrite : field + (be16 0).length ≤ packet.length := by
    rw [length_be16]
    omega
  rw [refreshTransportChecksum, zeros_eq, sentChecksum]
  exact overwrite_overwrite hwrite rfl

/-! ## The rewritten packet -/

/-- The packet with its addresses replaced and its header checksum refreshed. -/
def refreshedHeader (packet : Bytes) (ip : IpHeader) (stream : ImportedStream)
    (options : PcapImportOptions) (state : PcapRewriteState) : Bytes :=
  refreshHeaderChecksum (replaceAddresses packet ip stream options state) ip

theorem AcceptedHeader.replaceAddresses (accepted : AcceptedHeader packet ip) :
    AcceptedHeader (replaceAddresses packet ip stream options state) ip :=
  (accepted.replaceAddress _ _).replaceAddress _ _

theorem length_refreshedHeader (accepted : AcceptedHeader packet ip) :
    (refreshedHeader packet ip stream options state).length = packet.length := by
  rw [refreshedHeader, length_refreshHeaderChecksum (accepted.replaceAddresses stream options state),
    length_replaceAddresses stream options state accepted]

theorem AcceptedHeader.refreshedHeader (accepted : AcceptedHeader packet ip) :
    AcceptedHeader (refreshedHeader packet ip stream options state) ip := by
  refine ⟨accepted.header, accepted.even, ?_⟩
  rw [length_refreshedHeader stream options state accepted]
  exact accepted.fits

theorem octetAt_refreshedHeader (accepted : AcceptedHeader packet ip) {i : Nat}
    (hi : i < ip.offset + 10 ∨ ip.offset + 20 ≤ i) :
    octetAt (refreshedHeader packet ip stream options state) i = octetAt packet i := by
  rw [refreshedHeader,
    octetAt_refreshHeaderChecksum (accepted.replaceAddresses stream options state) (by omega),
    octetAt_replaceAddresses stream options state accepted (by omega)]

theorem be16At_refreshedHeader (accepted : AcceptedHeader packet ip) {i : Nat}
    (hi : i + 1 < ip.offset + 10 ∨ ip.offset + 20 ≤ i) :
    be16At (refreshedHeader packet ip stream options state) i = be16At packet i := by
  rw [be16At, be16At, octetAt_refreshedHeader stream options state accepted (by omega),
    octetAt_refreshedHeader stream options state accepted (by omega)]

theorem slice_refreshedHeader (accepted : AcceptedHeader packet ip) {i n : Nat}
    (hi : ip.offset + 20 ≤ i) :
    slice (refreshedHeader packet ip stream options state) i n = slice packet i n := by
  apply slice_congr (length_refreshedHeader stream options state accepted)
  intro k hk
  exact octetAt_refreshedHeader stream options state accepted (by omega)

/-- The header checksum is not among what the transport checksum covers. -/
theorem checksummed_refreshedHeader (accepted : AcceptedHeader packet ip) (length : Nat) :
    checksummed (refreshedHeader packet ip stream options state) ip length
      = checksummed (replaceAddresses packet ip stream options state) ip length := by
  have hheader := accepted.header
  have hreplaced := accepted.replaceAddresses stream options state
  have hslice : ∀ {i n : Nat}, ip.offset + 12 ≤ i →
      slice (refreshedHeader packet ip stream options state) i n
        = slice (replaceAddresses packet ip stream options state) i n := by
    intro i n hi
    apply slice_congr (length_refreshHeaderChecksum hreplaced)
    intro k hk
    exact octetAt_refreshHeaderChecksum hreplaced (by omega)
  rw [checksummed, checksummed, pseudoHeaderOf, pseudoHeaderOf, hslice (by omega),
    hslice (by omega), hslice (by omega)]

theorem transportLength_refreshedHeader (accepted : AcceptedHeader packet ip) :
    transportLength (refreshedHeader packet ip stream options state) ip = transportLength packet ip :=
  transportLength_congr (length_refreshedHeader stream options state accepted)
    (be16At_refreshedHeader stream options state accepted (by omega))

theorem transportChecksumOffset_refreshedHeader (accepted : AcceptedHeader packet ip) :
    transportChecksumOffset (refreshedHeader packet ip stream options state) ip
      = transportChecksumOffset packet ip :=
  transportChecksumOffset_congr (length_refreshedHeader stream options state accepted)
    (be16At_refreshedHeader stream options state accepted (by omega))

def repaired (packet : Bytes) (ip : IpHeader) (stream : ImportedStream)
    (options : PcapImportOptions) (state : PcapRewriteState) (field : Nat) : Bytes :=
  overwrite (refreshedHeader packet ip stream options state) field
    (be16 (sentChecksum (refreshedHeader packet ip stream options state) ip field))

theorem rewrite_plain (h : ipv4Offsets packet = some ip)
    (hfield : transportChecksumOffset packet ip = none) :
    pcapImportRewriteIpv4Packet packet stream options state
      = some (refreshedHeader packet ip stream options state) := by
  have accepted := ipv4Offsets_accepted h
  have hlength := length_replaceAddresses stream options state accepted
  have hfits := accepted.fits
  have hsame := transportChecksumOffset_refreshedHeader stream options state accepted
  rw [hfield, refreshedHeader] at hsame
  simp only [pcapImportRewriteIpv4Packet, h, refreshIpv4PacketChecksums, hsame]
  exact if_neg (by omega)

theorem rewrite_repaired (h : ipv4Offsets packet = some ip) {field : Nat}
    (hfield : transportChecksumOffset packet ip = some field) :
    pcapImportRewriteIpv4Packet packet stream options state
      = if 65535 < transportLength packet ip then none
        else some (repaired packet ip stream options state field) := by
  have accepted := ipv4Offsets_accepted h
  have hlength := length_replaceAddresses stream options state accepted
  have hfits := accepted.fits
  have hsame := transportChecksumOffset_refreshedHeader stream options state accepted
  have hsegment := transportLength_refreshedHeader stream options state accepted
  have hrefreshed := accepted.refreshedHeader stream options state
  have hchecked : ChecksumField (refreshedHeader packet ip stream options state) ip field :=
    checksumField_of_offset (hsame.trans hfield)
  have hrepair := refreshTransportChecksum_eq hchecked
  rw [hfield, refreshedHeader] at hsame
  rw [refreshedHeader] at hsegment
  simp only [pcapImportRewriteIpv4Packet, h, refreshIpv4PacketChecksums, hsame, hsegment]
  rw [if_neg (by omega)]
  exact congrArg (fun packet => if 65535 < _ then none else some packet) hrepair

/-! ## Without a transport checksum -/

theorem LengthsFit.repairs (fit : LengthsFit packet ip) :
    (∃ field, transportChecksumOffset packet ip = some field)
      ∧ transportLength packet ip = be16At packet (ip.offset + 2) - ip.length
      ∧ segmentLength packet ip ≤ transportLength packet ip := by
  have htotal := fit.total
  have hsegment := fit.segment
  have hpositive : 8 ≤ segmentLength packet ip := by
    rcases fit.protocol with htcp | hudp
    · have := fit.tcp htcp
      omega
    · exact fit.udp hudp
  have hlength : transportLength packet ip = be16At packet (ip.offset + 2) - ip.length := by
    rw [transportLength]
    rw [if_pos (by omega)]
    omega
  refine ⟨?_, hlength, by omega⟩
  unfold transportChecksumOffset
  dsimp only
  rcases fit.protocol with htcp | hudp
  · have := fit.tcp htcp
    exact ⟨_, if_pos ⟨htcp, by omega, by omega⟩⟩
  · rw [if_neg (by omega)]
    exact ⟨_, if_pos ⟨hudp, by omega, by omega⟩⟩

theorem sound_of_plain (accepted : AcceptedHeader packet ip)
    (hfield : transportChecksumOffset packet ip = none) :
    RewriteSound packet ip (refreshedHeader packet ip stream options state) := by
  refine ⟨length_refreshedHeader stream options state accepted, ?_,
    headerChecksum_verifies (accepted.replaceAddresses stream options state), ?_⟩
  · intro i hi
    by_contra hplace
    apply hi
    apply octetAt_refreshedHeader stream options state accepted
    by_contra hinside
    exact hplace (.inl (by omega))
  · intro _ fit
    obtain ⟨⟨field, hsome⟩, -⟩ := fit.repairs
    rw [hfield] at hsome
    cases hsome

/-! ## With a transport checksum -/

section
variable {field : Nat}

/-- The field keeps what was captured exactly when that was not zero and verifies with the
replaced addresses. -/
theorem sentChecksum_eq_captured (accepted : AcceptedHeader packet ip)
    (h : ChecksumField packet ip field) :
    sentChecksum (refreshedHeader packet ip stream options state) ip field = be16At packet field
      ↔ be16At packet field ≠ 0 ∧ internetChecksum
          (checksummed (replaceAddresses packet ip stream options state) ip
            (transportLength packet ip)) = 0 := by
  have hlow := h.low
  have hinside := h.inside
  have hfits := h.fits
  have hheader := accepted.header
  have hlength := length_refreshedHeader stream options state accepted
  have hsegment := transportLength_refreshedHeader stream options state accepted
  have hcaptured : be16At (refreshedHeader packet ip stream options state) field
      = be16At packet field :=
    be16At_refreshedHeader stream options state accepted (by omega)
  have hcarries : Carries fun n => checksummed
      (overwrite (refreshedHeader packet ip stream options state) field (be16 n)) ip
      (transportLength packet ip) :=
    carries_checksummed (accepted.refreshedHeader stream options state) (by omega) hlow.2
      hinside (by omega)
  have hsame : overwrite (refreshedHeader packet ip stream options state) field
      (be16 (be16At packet field)) = refreshedHeader packet ip stream options state := by
    rw [← hcaptured]
    exact overwrite_be16At (by omega)
  by_cases hzero : be16At packet field = 0
  · constructor
    · intro hsent
      rw [hzero, sentChecksum] at hsent
      split at hsent
      · cases hsent
      · rename_i hpositive
        exact absurd hsent hpositive
    · rintro ⟨hpositive, -⟩
      exact absurd hzero hpositive
  · have hverifies := hcarries.verifies_iff (be16At_lt packet field) hzero
    rw [hsame, checksummed_refreshedHeader stream options state accepted] at hverifies
    rw [hverifies, sentChecksum, hsegment]
    exact ⟨fun hsent => ⟨hzero, hsent.symm⟩, fun hsent => hsent.2.symm⟩

theorem length_repaired (accepted : AcceptedHeader packet ip) (h : ChecksumField packet ip field) :
    (repaired packet ip stream options state field).length = packet.length := by
  have hinside := h.inside
  have hfits := h.fits
  have hlength := length_refreshedHeader stream options state accepted
  rw [repaired, length_overwrite, hlength]
  rw [length_be16, hlength]
  omega

/-- Only a fragment can be changed where it must not, and only if its field does not keep what
was captured. -/
theorem confined_repaired (accepted : AcceptedHeader packet ip) (h : ChecksumField packet ip field) :
    (∀ i, octetAt (repaired packet ip stream options state field) i ≠ octetAt packet i →
        MayChange packet ip i)
      ↔ (Fragmented packet ip →
          sentChecksum (refreshedHeader packet ip stream options state) ip field
            = be16At packet field) := by
  have hheader := accepted.header
  have hlow := h.low
  have hinside := h.inside
  have hfits := h.fits
  have hlength := length_refreshedHeader stream options state accepted
  have hlt := sentChecksum_lt (refreshedHeader packet ip stream options state) ip field
  have hwrite : field + (be16 (sentChecksum (refreshedHeader packet ip stream options state) ip
      field)).length ≤ (refreshedHeader packet ip stream options state).length := by
    rw [length_be16, hlength]
    omega
  have hsent : be16At (repaired packet ip stream options state field) field
      = sentChecksum (refreshedHeader packet ip stream options state) ip field := by
    have hback := be16At_be16 hlt []
    rw [List.append_nil, be16At] at hback
    have hfirst := octetAt_overwrite_inside hwrite (show 0 < 2 by decide)
    have hsecond := octetAt_overwrite_inside hwrite (show 1 < 2 by decide)
    rw [Nat.add_zero] at hfirst
    rw [be16At, repaired, hfirst, hsecond]
    exact hback
  constructor
  · intro hconfined hfragment
    have hkept : ∀ i, ip.offset + 20 ≤ i →
        octetAt (repaired packet ip stream options state field) i = octetAt packet i := by
      intro i hi
      by_contra hchanged
      rcases hconfined i hchanged with hinner | ⟨hwhole, -⟩
      · omega
      · exact hwhole hfragment
    rw [← hsent, be16At, be16At, hkept field (by omega), hkept (field + 1) (by omega)]
  · intro hkeeps i hchanged
    by_cases hoctet : field ≤ i ∧ i < field + 2
    · refine .inr ⟨?_, ?_⟩
      · intro hfragment
        apply hchanged
        have hcaptured : be16At (refreshedHeader packet ip stream options state) field
            = be16At packet field :=
          be16At_refreshedHeader stream options state accepted (by omega)
        rw [repaired, hkeeps hfragment, ← hcaptured, overwrite_be16At (by omega)]
        exact octetAt_refreshedHeader stream options state accepted (by omega)
      · rcases h.place with ⟨htcp, hplace⟩ | ⟨hudp, hplace⟩
        · exact .inl ⟨htcp, by omega, by omega⟩
        · exact .inr ⟨hudp, by omega, by omega⟩
    · by_contra hplace
      apply hchanged
      rw [repaired, octetAt_overwrite hwrite (by rw [length_be16]; omega)]
      apply octetAt_refreshedHeader stream options state accepted
      by_contra hinner
      exact hplace (.inl (by omega))

/-- A segment verifies when what stands behind it adds nothing to the sum. -/
theorem segment_verifies (accepted : AcceptedHeader packet ip) (h : ChecksumField packet ip field)
    (hshort : transportLength packet ip ≤ 65535) {length : Nat}
    (hlength : length ≤ transportLength packet ip)
    (hhead : field + 2 ≤ ip.offset + ip.length + length) :
    internetChecksum (checksummed (repaired packet ip stream options state field) ip length) = 0
      ↔ (length + words (slice packet (ip.offset + ip.length) length)) % 65535
        = (transportLength packet ip
            + words (slice packet (ip.offset + ip.length) (transportLength packet ip))) % 65535 := by
  have hheader := accepted.header
  have hlow := h.low
  have hinside := h.inside
  have hfits := h.fits
  have hrefreshed := accepted.refreshedHeader stream options state
  have hsize := length_refreshedHeader stream options state accepted
  have hlt := sentChecksum_lt (refreshedHeader packet ip stream options state) ip field
  have hwhole : AcceptedHeader (repaired packet ip stream options state field) ip := by
    refine ⟨accepted.header, accepted.even, ?_⟩
    rw [length_repaired stream options state accepted h]
    exact accepted.fits
  have hcarries : Carries fun n => checksummed
      (overwrite (refreshedHeader packet ip stream options state) field (be16 n)) ip
      (transportLength packet ip) :=
    carries_checksummed hrefreshed (by omega) hlow.2 hinside (by omega)
  have hverifies : internetChecksum (checksummed (repaired packet ip stream options state field) ip
      (transportLength packet ip)) = 0 := by
    rw [repaired, sentChecksum, transportLength_refreshedHeader stream options state accepted]
    exact hcarries.verifies_nonzero
  have hsum : ∀ n, field + 2 ≤ ip.offset + ip.length + n → n ≤ transportLength packet ip →
      words (slice (repaired packet ip stream options state field) (ip.offset + ip.length) n)
          + be16At packet field
        = words (slice packet (ip.offset + ip.length) n)
          + sentChecksum (refreshedHeader packet ip stream options state) ip field := by
    intro n hn hle
    have hwords : words (slice (repaired packet ip stream options state field)
          (ip.offset + ip.length) n)
          + be16At (refreshedHeader packet ip stream options state) field
        = words (slice (refreshedHeader packet ip stream options state) (ip.offset + ip.length) n)
          + sentChecksum (refreshedHeader packet ip stream options state) ip field :=
      words_overwrite (by omega) (by omega) hn hlow.2 hlt
    rwa [be16At_refreshedHeader stream options state accepted (by omega),
      slice_refreshedHeader stream options state accepted (by omega)] at hwords
  have hshorter := hsum length hhead hlength
  have hlonger := hsum (transportLength packet ip) hinside (Nat.le_refl _)
  rw [internetChecksum_eq_zero, words_checksummed hwhole (by omega)] at hverifies ⊢
  omega

end

/-- What a rewriting needs to be sound. -/
structure RewriteHarmless (packet : Bytes) (ip : IpHeader) (stream : ImportedStream)
    (options : PcapImportOptions) (state : PcapRewriteState) : Prop where
  /-- The length fits the pseudo header. -/
  length : ∀ field, transportChecksumOffset packet ip = some field →
    transportLength packet ip ≤ 65535
  /-- A fragment carries by chance, where a transport checksum would stand, a value that
  verifies with the replaced addresses. -/
  fragment : Fragmented packet ip → ∀ field, transportChecksumOffset packet ip = some field →
    be16At packet field ≠ 0 ∧ internetChecksum
      (checksummed (replaceAddresses packet ip stream options state) ip
        (transportLength packet ip)) = 0
  /-- What a UDP datagram holds behind its segment adds nothing to the sum. -/
  surplus : ¬ Fragmented packet ip → LengthsFit packet ip → ip.protocol = 17 →
    (udpLength packet ip
        + words (slice packet (ip.offset + ip.length) (udpLength packet ip))) % 65535
      = (transportLength packet ip
        + words (slice packet (ip.offset + ip.length) (transportLength packet ip))) % 65535

theorem soundness_of_repaired {field : Nat} (accepted : AcceptedHeader packet ip)
    (hfield : transportChecksumOffset packet ip = some field)
    (hshort : transportLength packet ip ≤ 65535) :
    RewriteSound packet ip (repaired packet ip stream options state field)
      ↔ RewriteHarmless packet ip stream options state := by
  have h := checksumField_of_offset hfield
  have hheader := accepted.header
  have hlow := h.low
  have hfits := h.fits
  have hinside := h.inside
  have hconfined := confined_repaired stream options state accepted h
  have hcaptured := sentChecksum_eq_captured stream options state accepted h
  constructor
  · intro sound
    refine ⟨fun _ _ => hshort, ?_, ?_⟩
    · intro hfragment other hother
      rw [hfield] at hother
      cases hother
      exact hcaptured.mp (hconfined.mp sound.confined hfragment)
    · intro hwhole fit hudp
      have hsegment : segmentLength packet ip = udpLength packet ip := if_pos hudp
      have hlength := fit.repairs.2.2
      have hhead := fit.udp hudp
      have hverifies := sound.transport hwhole fit
      have hplace : field = ip.offset + ip.length + 6 := by
        rcases h.place with ⟨htcp, -⟩ | ⟨-, hplace⟩ <;> omega
      rw [hsegment] at hlength hhead hverifies
      exact (segment_verifies stream options state accepted h hshort hlength (by omega)).mp
        hverifies
  · intro harmless
    refine ⟨length_repaired stream options state accepted h, ?_, ?_, ?_⟩
    · apply hconfined.mpr
      intro hfragment
      exact hcaptured.mpr (harmless.fragment hfragment field hfield)
    · have hsize := length_refreshedHeader stream options state accepted
      rw [repaired, slice_overwrite (by rw [length_be16, hsize]; omega) (by omega)]
      exact headerChecksum_verifies (accepted.replaceAddresses stream options state)
    · intro hwhole fit
      obtain ⟨-, htotal, hlength⟩ := fit.repairs
      by_cases hudp : ip.protocol = 17
      · have hsegment : segmentLength packet ip = udpLength packet ip := if_pos hudp
        have hhead := fit.udp hudp
        have hplace : field = ip.offset + ip.length + 6 := by
          rcases h.place with ⟨htcp, -⟩ | ⟨-, hplace⟩ <;> omega
        rw [hsegment] at hlength hhead ⊢
        exact (segment_verifies stream options state accepted h hshort hlength (by omega)).mpr
          (harmless.surplus hwhole fit hudp)
      · have hsegment : segmentLength packet ip = transportLength packet ip :=
          (if_neg hudp).trans htotal.symm
        rw [hsegment]
        exact (segment_verifies stream options state accepted h hshort (Nat.le_refl _) hinside).mpr
          rfl

end

/-- `pcap_import_rewrite_ipv4_packet` keeps the length, changes nothing but the addresses and
the checksums of its own datagram, and leaves checksums that verify, exactly when the length
fits, a fragment is left as it is, and a UDP datagram holds nothing of weight behind its
segment. -/
theorem pcapImportRewriteIpv4Packet_sound_iff {packet : Bytes} {ip : IpHeader}
    (h : ipv4Offsets packet = some ip) (stream : ImportedStream) (options : PcapImportOptions)
    (state : PcapRewriteState) :
    (∃ rewritten, pcapImportRewriteIpv4Packet packet stream options state = some rewritten
        ∧ RewriteSound packet ip rewritten)
      ↔ RewriteHarmless packet ip stream options state := by
  have accepted := ipv4Offsets_accepted h
  cases hfield : transportChecksumOffset packet ip with
  | none =>
      constructor
      · intro _
        refine ⟨?_, ?_, ?_⟩
        · intro field hsome
          rw [hfield] at hsome
          cases hsome
        · intro _ field hsome
          rw [hfield] at hsome
          cases hsome
        · intro _ fit _
          obtain ⟨⟨field, hsome⟩, -⟩ := fit.repairs
          rw [hfield] at hsome
          cases hsome
      · intro _
        exact ⟨_, rewrite_plain stream options state h hfield,
          sound_of_plain stream options state accepted hfield⟩
  | some field =>
      have hrewrite := rewrite_repaired stream options state h hfield
      by_cases hshort : transportLength packet ip ≤ 65535
      · rw [if_neg (Nat.not_lt.mpr hshort)] at hrewrite
        have hsound := soundness_of_repaired stream options state accepted hfield hshort
        rw [← hsound, hrewrite]
        constructor
        · rintro ⟨rewritten, hsome, sound⟩
          cases hsome
          exact sound
        · intro sound
          exact ⟨_, rfl, sound⟩
      · rw [if_pos (Nat.lt_of_not_le hshort)] at hrewrite
        rw [hrewrite]
        constructor
        · rintro ⟨rewritten, hnone, -⟩
          cases hnone
        · intro harmless
          exact absurd (harmless.length field hfield) hshort

/-- A packet of an IPv4 header with this fragment word and twenty octets of protocol 6. -/
def segmentPacket (fragmentWord : Nat) : Bytes :=
  [2, 0, 0, 0, 0, 1, 2, 0, 0, 0, 0, 2, 8, 0]
    ++ [0x45, 0, 0, 40, 0, 1] ++ be16 fragmentWord ++ [64, 6, 0, 0, 10, 0, 0, 1, 10, 0, 0, 2]
    ++ List.replicate 20 7

theorem ipv4Offsets_segmentPacket (fragmentWord : Nat) :
    ipv4Offsets (segmentPacket fragmentWord) = some ⟨.ipv4, 14, 20, 6⟩ := by
  have hl2 : packetL2PayloadInfo (segmentPacket fragmentWord) = some ⟨0x0800, 14, [], []⟩ := by
    simp [packetL2PayloadInfo, taggedEtherType, packetVlanStackInfo, vlanTags, segmentPacket,
      be16At, octetAt, be16]
  rw [ipv4Offsets, hl2]
  simp [segmentPacket, octetAt, be16]

/-- `a.b.c.d` -/
def dottedAddress (a b c d : UInt8) : Fixed 4 := ⟨[a, b, c, d], rfl⟩

def rewriteSource : PcapImportOptions :=
  { rewriteSrcEnabled := true, srcAddress := dottedAddress 16 0 0 9, srcMode := .fixed,
    srcCount := 16, rewriteDstEnabled := false, dstAddress := dottedAddress 48 0 0 1,
    dstMode := .fixed, dstCount := 16 }

theorem segment_rewritten : ∃ stream rewritten, importedStream (segmentPacket 0) = some stream
    ∧ pcapImportRewriteIpv4Packet (segmentPacket 0) stream rewriteSource
        ⟨stream.ipv4.src, stream.ipv4.dst⟩ = some rewritten
    ∧ RewriteSound (segmentPacket 0) ⟨.ipv4, 14, 20, 6⟩ rewritten := by
  obtain ⟨stream, hstream⟩ := Option.isSome_iff_exists.mp
    (show (importedStream (segmentPacket 0)).isSome = true by decide +kernel)
  have hwhole : ¬ Fragmented (segmentPacket 0) ⟨.ipv4, 14, 20, 6⟩ := by decide
  obtain ⟨rewritten, hrewrite, sound⟩ := (pcapImportRewriteIpv4Packet_sound_iff
    (ipv4Offsets_segmentPacket 0) stream rewriteSource ⟨stream.ipv4.src, stream.ipv4.dst⟩).mpr
    ⟨fun _ _ => by decide, fun hfragment => absurd hfragment hwhole, fun _ _ hudp => by cases hudp⟩
  exact ⟨stream, rewritten, hstream, hrewrite, sound⟩

/-- A later fragment of a TCP segment: octets of its payload are taken for a checksum. -/
theorem rewrite_changes_fragment : ∃ stream state, importedStream (segmentPacket 185) = some stream
    ∧ pcapImportRewriteState [stream] rewriteSource = some state
    ∧ ipv4Offsets (segmentPacket 185) = some ⟨.ipv4, 14, 20, 6⟩
    ∧ ¬ ∃ rewritten,
        pcapImportRewriteIpv4Packet (segmentPacket 185) stream rewriteSource state = some rewritten
          ∧ RewriteSound (segmentPacket 185) ⟨.ipv4, 14, 20, 6⟩ rewritten := by
  obtain ⟨stream, hstream⟩ := Option.isSome_iff_exists.mp
    (show (importedStream (segmentPacket 185)).isSome = true by decide +kernel)
  have hipv4 : (importedStream (segmentPacket 185)).map (·.isIpv4) = some true := by decide +kernel
  rw [hstream, Option.map_some, Option.some_inj] at hipv4
  refine ⟨stream, ⟨stream.ipv4.src, stream.ipv4.dst⟩, hstream, ?_,
    ipv4Offsets_segmentPacket 185, ?_⟩
  · simp [pcapImportRewriteState, rewriteSource, hipv4]
  · rintro ⟨rewritten, hrewrite, sound⟩
    have hreplaced : pcapImportRewriteIpv4Packet (segmentPacket 185) stream rewriteSource
        ⟨stream.ipv4.src, stream.ipv4.dst⟩ = refreshIpv4PacketChecksums
          (replaceAddress (segmentPacket 185) ⟨.ipv4, 14, 20, 6⟩ (some .src)
            rewriteSource.srcAddress) ⟨.ipv4, 14, 20, 6⟩ := by
      rw [pcapImportRewriteIpv4Packet, ipv4Offsets_segmentPacket]
      simp [replaceAddresses, srcRewriteField, dstRewriteField, rewriteSource, replaceAddress]
    have hoctet : (refreshIpv4PacketChecksums (replaceAddress (segmentPacket 185)
        ⟨.ipv4, 14, 20, 6⟩ (some .src) rewriteSource.srcAddress) ⟨.ipv4, 14, 20, 6⟩).map
          (octetAt · 50) = some 166 := by decide +kernel
    rw [← hreplaced, hrewrite, Option.map_some, Option.some_inj] at hoctet
    have hplace : ¬ MayChange (segmentPacket 185) ⟨.ipv4, 14, 20, 6⟩ 50 := by
      rintro (hinner | ⟨hwhole, -⟩)
      · exact absurd hinner.2 (by decide)
      · exact hwhole (by decide)
    apply hplace
    apply sound.confined
    rw [hoctet]
    decide

end TrexWebui
