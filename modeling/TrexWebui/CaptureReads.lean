import TrexWebui.CaptureTunnels

/-!
# What the capture decoder reads

The functions that decode the contents of a datagram, run on two packets that
begin alike. Where both packets end with the octets on which they agree, every
function runs without a fault and gives the same; a function that takes the end
of the datagram does so whatever follows. The others ask for the length of the
packet: for each of them a predicate says that what it reads lies in the first
`n` octets.
-/

namespace TrexWebui

open PyStr Octets PacketReader

variable {n : Nat} {p q : Bytes}

/-! ## Transport headers -/

/-- The TCP header ends within `n` octets, and so do the options that it announces, or whatever stands
in the place of the missing octets there is no option to show. -/
def TcpContained (packet : Bytes) (n offset : Nat) : Prop :=
  let dataOffset := octetAt packet (offset + 12) / 16 * 4
  offset + 20 ≤ n ∧ (offset + dataOffset ≤ n
    ∨ ∀ fill : Bytes, fill.length = offset + dataOffset - n →
      notedTcpOptions (slice packet (offset + 20) (n - (offset + 20)) ++ fill) = {})

/-- Options that do not end within the first `n` octets are not shown where no octets make any. -/
theorem decodedTcpOptions_eq_none {r : Bytes} {offset : Nat} (hlength : n ≤ r.length)
    (hlong : offset + 20 ≤ n) (hend : n < offset + octetAt r (offset + 12) / 16 * 4)
    (hfill : ∀ fill : Bytes, fill.length = offset + octetAt r (offset + 12) / 16 * 4 - n →
      notedTcpOptions (slice r (offset + 20) (n - (offset + 20)) ++ fill) = {}) :
    decodedTcpOptions offset r = .ok ⟨{}, [], 0⟩ := by
  have hheader : ¬r.length < offset + 20 := by omega
  have hfirst : offset + 12 + 1 ≤ r.length := by omega
  unfold decodedTcpOptions octet octets
  rw [size_bind, if_neg hheader, within_bind _ hfirst]
  by_cases hread : octetAt r (offset + 12) / 16 * 4 ≤ 20 ∨ 60 < octetAt r (offset + 12) / 16 * 4
      ∨ r.length < offset + octetAt r (offset + 12) / 16 * 4
  · rw [if_pos hread]
    rfl
  have hoptions : offset + 20 + (octetAt r (offset + 12) / 16 * 4 - 20) ≤ r.length := by omega
  rw [if_neg hread, within_bind _ hoptions]
  have hsplit : slice r (offset + 20) (octetAt r (offset + 12) / 16 * 4 - 20)
      = slice r (offset + 20) (n - (offset + 20))
        ++ slice r n (offset + octetAt r (offset + 12) / 16 * 4 - n) := by
    have hcount : octetAt r (offset + 12) / 16 * 4 - 20
        = (n - (offset + 20)) + (offset + octetAt r (offset + 12) / 16 * 4 - n) := by omega
    have hstart : offset + 20 + (n - (offset + 20)) = n := by omega
    rw [slice, slice, slice, hcount, List.take_add, List.drop_drop, hstart]
  rw [hsplit, hfill]
  · rfl
  · rw [slice, List.length_take, List.length_drop]
    omega

theorem decodedTcpOptions_plain (h : Agree n p q) {offset : Nat}
    (hfit : Ended n p q ∨ TcpContained p n offset) :
    Plain p q (decodedTcpOptions offset) (decodedTcpOptions offset) := by
  have hleft := h.left
  have hright := h.right
  by_cases hread : Ended n p q ∨ offset + max 20 (octetAt p (offset + 12) / 16 * 4) ≤ n
  · unfold Ended at hread
    unfold decodedTcpOptions
    refine .size (.ite (by omega) (fun _ => .pure _) fun hlong => ?_)
    refine Runs.bindPlain (.octet h (by omega)) ?_
    refine .ite (by omega) (fun _ => .pure _) fun hoptions => ?_
    exact Runs.bindPlain (.octets h (by omega)) (.pure _)
  · obtain ⟨hlong, hfill⟩ := hfit.resolve_left fun hended => hread (.inl hended)
    have hend : n < offset + octetAt p (offset + 12) / 16 * 4 := by omega
    have hfill := hfill.resolve_left (by omega)
    have hsame := h.octetAt (by omega : offset + 12 < n)
    have hslice := h.slice (by omega : offset + 20 + (n - (offset + 20)) ≤ n)
    refine ⟨{}, [], decodedTcpOptions_eq_none hleft hlong hend hfill, ?_⟩
    rw [hsame] at hend hfill
    rw [hslice] at hfill
    exact decodedTcpOptions_eq_none hright hlong hend hfill

theorem appendTcpLayer_plain (h : Agree n p q) {offset : Nat} (packetEnd : Nat)
    (hfit : Ended n p q ∨ TcpContained p n offset) :
    Plain p q (appendTcpLayer offset packetEnd) (appendTcpLayer offset packetEnd) := by
  have hleft := h.left
  have hright := h.right
  have hoptions := decodedTcpOptions_plain h hfit
  have hfit : (p.length = n ∧ q.length = n) ∨ offset + 20 ≤ n := hfit.imp id And.left
  unfold appendTcpLayer
  refine .size (.ite (by omega) (fun _ => .append _) fun hlong => ?_)
  refine Runs.bindPlain (.word h (by omega)) ?_
  refine Runs.bindPlain (.word h (by omega)) ?_
  refine Runs.bindPlain (.octet h (by omega)) ?_
  refine hoptions.bind fun options => ?_
  refine Runs.bindPlain (.word32 h (by omega)) ?_
  refine Runs.bindPlain (.word32 h (by omega)) ?_
  refine Runs.bindPlain (.octet h (by omega)) ?_
  refine Runs.bindPlain (.word h (by omega)) ?_
  refine Runs.bindPlain (.word h (by omega)) ?_
  refine Runs.bindPlain (.word h (by omega)) ?_
  exact .append _

/-- The SCTP header and the header of a data chunk end within `n` octets. -/
def SctpContained (n offset : Nat) : Prop := offset + 28 ≤ n

theorem sctpChunkFields_plain (h : Agree n p q) {offset : Nat} (packetEnd : Nat)
    (hfit : Ended n p q ∨ SctpContained n offset) :
    Plain p q (sctpChunkFields (offset + 12) packetEnd) (sctpChunkFields (offset + 12) packetEnd) := by
  have hleft := h.left
  have hright := h.right
  unfold Ended SctpContained at hfit
  unfold sctpChunkFields
  refine .size (.ite (by omega) (fun hlong => ?_) fun _ => .pure _)
  refine Runs.bindPlain (.octet h (by omega)) ?_
  refine Runs.bindPlain (.octet h (by omega)) ?_
  refine Runs.bindPlain (.word h (by omega)) ?_
  refine .ite Iff.rfl (fun _ => ?_) fun _ => .pure _
  refine Runs.bindPlain (.word32 h (by omega)) ?_
  refine Runs.bindPlain (.word h (by omega)) ?_
  refine Runs.bindPlain (.word h (by omega)) ?_
  exact Runs.bindPlain (.word32 h (by omega)) (.pure _)

theorem appendSctpLayer_plain (h : Agree n p q) {offset : Nat} (packetEnd : Nat)
    (hfit : Ended n p q ∨ SctpContained n offset) :
    Plain p q (appendSctpLayer offset packetEnd) (appendSctpLayer offset packetEnd) := by
  have hleft := h.left
  have hright := h.right
  have hchunk := sctpChunkFields_plain h packetEnd hfit
  unfold Ended SctpContained at hfit
  unfold appendSctpLayer
  refine .size (.ite (by omega) (fun _ => .append _) fun hlong => ?_)
  refine Runs.bindPlain (.word h (by omega)) ?_
  refine Runs.bindPlain (.word h (by omega)) ?_
  refine Runs.bindPlain (.word32 h (by omega)) ?_
  refine (Plain.little32 h (by omega)).bind fun checksum => ?_
  exact hchunk.bind fun chunk => .append _

/-! ## Control messages -/

/-- The ICMPv6 options from the cursor on come to a stop within `n` octets: by an option of length
zero, or because sixteen of them are there. -/
def icmpv6OptionsStop (packet : Bytes) (n : Nat) : (left cursor : Nat) → Bool
  | 0, _ => true
  | left + 1, cursor =>
      let units := octetAt packet (cursor + 1)
      decide (cursor + 2 ≤ n) && (decide (units = 0)
        || (decide (cursor + units * 8 ≤ n) && icmpv6OptionsStop packet n left (cursor + units * 8)))

theorem icmpv6OptionDetail_plain (h : Agree n p q) {optionType optionLength cursor : Nat}
    (hend : cursor + optionLength ≤ n) :
    Plain p q (icmpv6OptionDetail optionType optionLength cursor)
      (icmpv6OptionDetail optionType optionLength cursor) := by
  unfold icmpv6OptionDetail
  refine .ite Iff.rfl (fun haddress => ?_) fun _ => .ite Iff.rfl (fun hprefix => ?_) fun _ => .pure _
  · exact Runs.bindPlain (.octets h (by omega)) (.pure _)
  · refine Runs.bindPlain (.octet h (by omega)) ?_
    refine Runs.bindPlain (.octet h (by omega)) ?_
    refine Runs.bindPlain (.word32 h (by omega)) ?_
    refine Runs.bindPlain (.word32 h (by omega)) ?_
    exact Runs.bindPlain (.octets h (by omega)) (.pure _)

theorem icmpv6OptionsLoop_plain (h : Agree n p q) : ∀ {left cursor : Nat},
    (Ended n p q ∨ icmpv6OptionsStop p n left cursor = true) →
      Plain p q (icmpv6OptionsLoop left cursor) (icmpv6OptionsLoop left cursor) := by
  have hleft := h.left
  have hright := h.right
  intro left
  induction left with
  | zero => exact fun _ => .pure _
  | succ left ih =>
      intro cursor hfit
      simp only [icmpv6OptionsStop, Bool.and_eq_true, Bool.or_eq_true, decide_eq_true_eq] at hfit
      rw [icmpv6OptionsLoop]
      have hstart : p.length ≤ cursor ↔ q.length ≤ cursor := by
        unfold Ended at hfit
        omega
      have hshort : p.length < cursor + 2 ↔ q.length < cursor + 2 := by
        unfold Ended at hfit
        omega
      refine .size (.ite hstart (fun _ => .pure _) fun _ => ?_)
      refine .ite hshort (fun _ => .pure _) fun hlong => ?_
      have htwo : cursor + 2 ≤ n := by
        unfold Ended at hfit
        omega
      refine Runs.bindPlain (.octet h (by omega)) ?_
      refine Runs.bindPlain (.octet h (by omega)) ?_
      refine .ite Iff.rfl (fun _ => .pure _) fun hunits => ?_
      have hnext : Ended n p q ∨ (cursor + octetAt p (cursor + 1) * 8 ≤ n
          ∧ icmpv6OptionsStop p n left (cursor + octetAt p (cursor + 1) * 8) = true) := by
        rcases hfit with hend | ⟨-, hzero | hnext⟩
        · exact .inl hend
        · exact absurd hzero hunits
        · exact .inr hnext
      refine .ite ?_ (fun _ => .pure _) fun hwhole => ?_
      · unfold Ended at hnext
        omega
      have hoption : cursor + octetAt p (cursor + 1) * 8 ≤ n := by
        unfold Ended at hnext
        omega
      refine (icmpv6OptionDetail_plain h hoption).bind fun detail => ?_
      exact (ih (hnext.imp id And.right)).bind fun rest => .pure _

/-- What an ICMP message of its type is read for ends within `n` octets. -/
def IcmpContained (packet : Bytes) (n offset : Nat) (version6 : Bool) : Prop :=
  offset + 4 ≤ n
    ∧ (octetAt packet offset ∈ [0, 8, 128, 129] → offset + 8 ≤ n)
    ∧ (version6 = true → octetAt packet offset ∈ [135, 136] →
      offset + 24 ≤ n ∧ icmpv6OptionsStop packet n 16 (offset + 24) = true)
    ∧ (version6 = true → octetAt packet offset = 133 →
      offset + 8 ≤ n ∧ icmpv6OptionsStop packet n 16 (offset + 8) = true)
    ∧ (version6 = true → octetAt packet offset = 134 →
      offset + 16 ≤ n ∧ icmpv6OptionsStop packet n 16 (offset + 16) = true)

theorem icmpMessageFields_plain (h : Agree n p q) {offset : Nat} {version6 : Bool}
    (hfit : Ended n p q ∨ IcmpContained p n offset version6) :
    Plain p q (icmpMessageFields offset (octetAt p offset) version6)
      (icmpMessageFields offset (octetAt p offset) version6) := by
  have hleft := h.left
  have hright := h.right
  -- A part of `count` octets is in both packets, within `n` octets, or in neither.
  have hpart : ∀ {c : Prop} {count : Nat}, (Ended n p q ∨ (c → offset + count ≤ n)) →
      ((c ∧ offset + count ≤ p.length) ↔ (c ∧ offset + count ≤ q.length))
        ∧ (c ∧ offset + count ≤ p.length → offset + count ≤ n) := by
    intro c count hcount
    unfold Ended at hcount
    refine ⟨and_congr_right fun hc => ?_, ?_⟩
    · rcases hcount with hend | hin
      · omega
      · have := hin hc
        omega
    · rintro ⟨hc, hlong⟩
      rcases hcount with hend | hin
      · omega
      · exact hin hc
  have hecho := hpart (hfit.imp id fun hin => hin.2.1)
  have hneighbor := hpart (hfit.imp id fun hin (hc : version6 = true ∧ _) =>
    (hin.2.2.1 hc.1 hc.2).1)
  have hsolicit := hpart (hfit.imp id fun hin (hc : version6 = true ∧ _) =>
    (hin.2.2.2.1 hc.1 hc.2).1)
  have hadvertise := hpart (hfit.imp id fun hin (hc : version6 = true ∧ _) =>
    (hin.2.2.2.2 hc.1 hc.2).1)
  simp only [and_assoc] at hneighbor hsolicit hadvertise
  unfold icmpMessageFields
  refine .size (.ite hecho.1 (fun hc => ?_) fun _ => .ite hneighbor.1 (fun hc => ?_) fun _ =>
    .ite hsolicit.1 (fun hc => ?_) fun _ => .ite hadvertise.1 (fun hc => ?_) fun _ => .pure _)
  · have hin := hecho.2 hc
    refine Runs.bindPlain (.word h (by omega)) ?_
    exact Runs.bindPlain (.word h (by omega)) (.pure _)
  · have hin := hneighbor.2 hc
    refine Runs.bindPlain (.word32 h (by omega)) ?_
    refine Runs.bindPlain (.octets h (by omega)) ?_
    refine Plain.bind ?_ fun options => .pure _
    exact icmpv6OptionsLoop_plain h (hfit.imp id fun hin => (hin.2.2.1 hc.1 hc.2.1).2)
  · have hin := hsolicit.2 hc
    refine Runs.bindPlain (.word32 h (by omega)) ?_
    refine Plain.bind ?_ fun options => .pure _
    exact icmpv6OptionsLoop_plain h (hfit.imp id fun hin => (hin.2.2.2.1 hc.1 hc.2.1).2)
  · have hin := hadvertise.2 hc
    refine Runs.bindPlain (.octet h (by omega)) ?_
    refine Runs.bindPlain (.octet h (by omega)) ?_
    refine Runs.bindPlain (.word h (by omega)) ?_
    refine Runs.bindPlain (.word32 h (by omega)) ?_
    refine Runs.bindPlain (.word32 h (by omega)) ?_
    refine Plain.bind ?_ fun options => .pure _
    exact icmpv6OptionsLoop_plain h (hfit.imp id fun hin => (hin.2.2.2.2 hc.1 hc.2.1).2)

theorem appendIcmpLayer_plain (h : Agree n p q) {offset protocol : Nat} {ipv6 : Bool}
    (hfit : Ended n p q ∨ IcmpContained p n offset (ipv6 || protocol = 58)) :
    Plain p q (appendIcmpLayer offset protocol ipv6) (appendIcmpLayer offset protocol ipv6) := by
  have hleft := h.left
  have hright := h.right
  have hmessage := icmpMessageFields_plain h hfit
  have hfour : Ended n p q ∨ offset + 4 ≤ n := hfit.imp id And.left
  unfold Ended at hfour
  unfold appendIcmpLayer
  refine .size (.ite (by omega) (fun _ => .append _) fun hlong => ?_)
  refine Runs.bindPlain (.octet h (by omega)) ?_
  refine Runs.bindPlain (.octet h (by omega)) ?_
  refine Runs.bindPlain (.word h (by omega)) ?_
  exact hmessage.bind fun message => .append _

/-! ## Address resolution -/

/-- An ARP packet for Ethernet and IPv4 ends within `n` octets. -/
def ArpContained (n offset : Nat) : Prop := offset + 28 ≤ n

theorem arpAddressFields_plain (h : Agree n p q) {offset : Nat}
    (hfit : Ended n p q ∨ ArpContained n offset) (hlen plen : Nat) :
    Plain p q (arpAddressFields offset hlen plen) (arpAddressFields offset hlen plen) := by
  have hleft := h.left
  have hright := h.right
  unfold Ended ArpContained at hfit
  unfold arpAddressFields
  refine .size (.ite (by omega) (fun hsizes => ?_) fun _ => .pure _)
  refine Runs.bindPlain (.octets h (by omega)) ?_
  refine Runs.bindPlain (.octets h (by omega)) ?_
  refine Runs.bindPlain (.octets h (by omega)) ?_
  exact Runs.bindPlain (.octets h (by omega)) (.pure _)

theorem appendArpLayers_runs (h : Agree n p q) {offset : Nat}
    (hfit : Ended n p q ∨ ArpContained n offset) :
    Runs p q (appendArpLayers offset) (appendArpLayers offset) () 1 := by
  have hleft := h.left
  have hright := h.right
  have haddresses := arpAddressFields_plain h hfit
  unfold Ended ArpContained at hfit
  unfold appendArpLayers
  refine Runs.call (Plain.runs ?_)
  refine .size (.ite (by omega) (fun _ => .append _) fun hlong => ?_)
  refine Runs.bindPlain (.octet h (by omega)) ?_
  refine Runs.bindPlain (.octet h (by omega)) ?_
  refine Runs.bindPlain (.word h (by omega)) ?_
  refine Runs.bindPlain (.word h (by omega)) ?_
  refine Runs.bindPlain (.word h (by omega)) ?_
  exact (haddresses _ _).bind fun addresses => .append _

/-! ## Name service -/

section

variable {packetEnd : Nat}

theorem dnsNameLoop_plain (h : Agree n p q) (hend : packetEnd ≤ n) (messageOffset : Nat) :
    ∀ {fuel : Nat} {labels : List Bytes} {cursor jumps : Nat} {jumpReturn : Option Nat},
      jumps ≤ 4 → (4 - jumps) * (packetEnd + 1) + (packetEnd - cursor) < fuel →
        Plain p q (dnsNameLoop packetEnd messageOffset fuel labels cursor jumps jumpReturn)
          (dnsNameLoop packetEnd messageOffset fuel labels cursor jumps jumpReturn) := by
  intro fuel
  induction fuel with
  | zero => intro _ _ _ _ _ hfuel; omega
  | succ fuel ih =>
      intro labels cursor jumps jumpReturn hjumps hfuel
      rw [dnsNameLoop]
      refine .ite Iff.rfl (fun _ => .pure _) fun hcursor => ?_
      refine Runs.bindPlain (.octet h (by omega)) ?_
      refine .ite Iff.rfl (fun _ => .pure _) fun hlabel => ?_
      refine .ite Iff.rfl (fun _ => ?_) fun _ => ?_
      · refine .ite Iff.rfl (fun _ => .pure _) fun hpointer => ?_
        refine Runs.bindPlain (.octet h (by omega)) ?_
        refine .ite Iff.rfl (fun _ => .pure _) fun hvalid => ih (by omega) ?_
        have hless : 4 - jumps = (4 - (jumps + 1)) + 1 := by omega
        rw [hless, Nat.succ_mul] at hfuel
        omega
      · refine .ite Iff.rfl (fun _ => .pure _) fun _ => ?_
        refine .ite Iff.rfl (fun _ => .pure _) fun hname => ?_
        refine Runs.bindPlain (.octets h (by omega)) (ih hjumps ?_)
        omega

theorem dnsQuerySummary_plain (h : Agree n p q) (hend : packetEnd ≤ n) (offset messageOffset : Nat) :
    Plain p q (dnsQuerySummary offset packetEnd messageOffset)
      (dnsQuerySummary offset packetEnd messageOffset) := by
  unfold dnsQuerySummary
  refine Plain.bind (dnsNameLoop_plain h hend messageOffset (by omega) (by omega)) fun name => ?_
  rcases name with text | ⟨labels, queryEnd⟩
  · exact .pure _
  · refine .ite Iff.rfl (fun _ => .pure _) fun hroom => ?_
    refine Runs.bindPlain (.word h (by omega)) ?_
    exact Runs.bindPlain (.word h (by omega)) (.pure _)

theorem dnsNameEndLoop_plain (h : Agree n p q) (hend : packetEnd ≤ n) (base : Nat) :
    ∀ {fuel offset : Nat}, packetEnd - offset < fuel →
      Plain p q (dnsNameEndLoop base packetEnd fuel offset)
        (dnsNameEndLoop base packetEnd fuel offset) := by
  intro fuel
  induction fuel with
  | zero => intro _ hfuel; omega
  | succ fuel ih =>
      intro offset hfuel
      rw [dnsNameEndLoop]
      refine .ite Iff.rfl (fun _ => .pure _) fun hoffset => ?_
      refine Runs.bindPlain (.octet h (by omega)) ?_
      refine .ite Iff.rfl (fun _ => .pure _) fun _ => ?_
      refine .ite Iff.rfl (fun _ => .pure _) fun _ => ?_
      exact .ite Iff.rfl (fun _ => .pure _) fun hname => ih (by omega)

theorem dnsNameEndOffset_plain (h : Agree n p q) (hend : packetEnd ≤ n) (base offset : Nat) :
    Plain p q (dnsNameEndOffset base packetEnd offset) (dnsNameEndOffset base packetEnd offset) :=
  dnsNameEndLoop_plain h hend base (by omega)

theorem dnsAnswerFields_plain (h : Agree n p q) (hend : packetEnd ≤ n) (offset answerOffset : Nat) :
    Plain p q (dnsAnswerFields offset packetEnd answerOffset)
      (dnsAnswerFields offset packetEnd answerOffset) := by
  unfold dnsAnswerFields
  refine Plain.bind (dnsNameEndOffset_plain h hend offset answerOffset) fun nameEnd => ?_
  rcases nameEnd with _ | nameEnd
  · exact .pure _
  · refine .ite Iff.rfl (fun hroom => ?_) fun _ => .pure _
    refine Runs.bindPlain (.word h (by omega)) ?_
    refine Runs.bindPlain (.word h (by omega)) ?_
    refine Runs.bindPlain (.word32 h (by omega)) ?_
    refine Runs.bindPlain (.word h (by omega)) ?_
    refine .ite Iff.rfl (fun haddress => ?_) fun _ => .pure _
    exact Runs.bindPlain (.octets h (by omega)) (.pure _)

theorem appendDnsLayer_plain (h : Agree n p q) (hend : packetEnd ≤ n) (offset : Nat) :
    Plain p q (appendDnsLayer offset packetEnd) (appendDnsLayer offset packetEnd) := by
  unfold appendDnsLayer
  refine .ite Iff.rfl (fun _ => .append _) fun hlong => ?_
  refine Runs.bindPlain (.word h (by omega)) ?_
  refine Runs.bindPlain (.word h (by omega)) ?_
  refine Runs.bindPlain (.word h (by omega)) ?_
  refine Runs.bindPlain (.word h (by omega)) ?_
  refine Runs.bindPlain (.word h (by omega)) ?_
  refine Runs.bindPlain (.word h (by omega)) ?_
  refine (dnsQuerySummary_plain h hend _ _).bind fun query => ?_
  refine (dnsNameEndOffset_plain h hend _ _).bind fun questionNameEnd => ?_
  refine Plain.bind ?_ fun answer => .append _
  rcases questionNameEnd with _ | nameEnd
  · exact .pure _
  · exact .ite Iff.rfl (fun _ => dnsAnswerFields_plain h hend _ _) fun _ => .pure _

/-! ## Host configuration -/

theorem dhcpOptionLoop_plain (h : Agree n p q) (hend : packetEnd ≤ n) :
    ∀ {fuel cursor : Nat}, packetEnd - cursor < fuel →
      Plain p q (dhcpOptionLoop packetEnd fuel cursor) (dhcpOptionLoop packetEnd fuel cursor) := by
  intro fuel
  induction fuel with
  | zero => intro _ hfuel; omega
  | succ fuel ih =>
      intro cursor hfuel
      rw [dhcpOptionLoop]
      refine .ite Iff.rfl (fun _ => .pure _) fun hcursor => ?_
      refine Runs.bindPlain (.octet h (by omega)) ?_
      refine .ite Iff.rfl (fun _ => .pure _) fun _ => ?_
      refine .ite Iff.rfl (fun _ => ih (by omega)) fun _ => ?_
      refine .ite Iff.rfl (fun _ => .pure _) fun hlength => ?_
      refine Runs.bindPlain (.octet h (by omega)) ?_
      refine .ite Iff.rfl (fun _ => .pure _) fun hvalue => ?_
      refine Runs.bindPlain (.octets h (by omega)) ?_
      exact (ih (by omega)).bind fun rest => .pure _

theorem appendDhcpLayer_plain (h : Agree n p q) (hend : packetEnd ≤ n) (offset : Nat) :
    Plain p q (appendDhcpLayer offset packetEnd) (appendDhcpLayer offset packetEnd) := by
  unfold appendDhcpLayer
  refine .ite Iff.rfl (fun _ => .append _) fun hlong => ?_
  refine Runs.bindPlain (.octets h (by omega)) ?_
  refine Runs.bindPlain (.octet h (by omega)) ?_
  refine Runs.bindPlain (.octet h (by omega)) ?_
  refine Runs.bindPlain (.octet h (by omega)) ?_
  refine Runs.bindPlain (.octet h (by omega)) ?_
  refine Runs.bindPlain (.word32 h (by omega)) ?_
  refine Runs.bindPlain (.word h (by omega)) ?_
  refine Runs.bindPlain (.word h (by omega)) ?_
  refine Runs.bindPlain (.octets h (by omega)) ?_
  refine Runs.bindPlain (.octets h (by omega)) ?_
  refine Runs.bindPlain (.octets h (by omega)) ?_
  refine Runs.bindPlain (.octets h (by omega)) ?_
  refine Runs.bindPlain (.octets h (by omega)) ?_
  refine Plain.bind ?_ fun options => .append _
  exact .ite Iff.rfl (fun _ => dhcpOptionLoop_plain h hend (by omega)) fun _ => .pure _

end

end TrexWebui
