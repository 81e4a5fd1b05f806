import TrexWebui.CaptureNestRuns

/-!
# What a trailer changes

A transport decoder whose header does not end within the packet appends other
layers when octets follow. `Overrun p q` says that `q` goes on behind `p` far
enough for every length that an octet of a header can announce; the octets that
follow are ones, so that an option of an ICMPv6 message is never empty.
-/

namespace TrexWebui

open PyStr Octets PacketReader

structure Overrun (p q : Bytes) : Prop where
  agree : Agree p.length p q
  far : p.length + 2100 ≤ q.length
  ones : ∀ i, p.length ≤ i → i < q.length → octetAt q i = 1

theorem overrun_replicate (p : Bytes) : Overrun p (p ++ List.replicate 2100 1) := by
  refine ⟨.append p _, ?_, ?_⟩
  · rw [List.length_append, List.length_replicate]
  · intro i hle hlt
    rw [List.length_append, List.length_replicate] at hlt
    rw [octetAt, List.getD_eq_getElem?_getD, List.getElem?_append_right hle,
      List.getElem?_replicate, if_pos (by omega)]
    rfl

variable {p q : Bytes} {recur recur' : LayerCall → Decoder Unit}

/-- Layers differ where their fields do, behind the ones that they share. -/
theorem layer_ne {name : String} {shared fields fields' : List CaptureField} (h : fields ≠ fields') :
    (⟨name, shared ++ fields⟩ : CaptureLayer) ≠ ⟨name, shared ++ fields'⟩ := by
  intro heq
  injection heq with _ hfields
  exact h (List.append_cancel_left hfields)

theorem layer_ne_of_head {name key key' : String} {value value' : FieldValue}
    {rest rest' : List CaptureField} (h : key ≠ key') :
    (⟨name, (key, value) :: rest⟩ : CaptureLayer) ≠ ⟨name, (key', value') :: rest'⟩ := by
  intro heq
  injection heq with _ hfields
  injection hfields with hhead
  injection hhead with hkey
  exact h hkey

/-! ## Transport headers -/

theorem appendUdpLayer_parts {offset : Nat} (packetEnd : Nat) (hshort : p.length < offset + 8)
    (hlong : offset + 8 ≤ q.length) :
    Parts p q (appendUdpLayer recur offset packetEnd) (appendUdpLayer recur' offset packetEnd) := by
  unfold appendUdpLayer
  refine .size ?_
  rw [if_pos hshort, if_neg (by omega)]
  refine .bindRight .within fun srcPort => .bindRight .within fun dstPort => ?_
  refine .bindRight .within fun udpLength => .bindRight .within fun checksum => ?_
  exact .goesOn (.append (layer_ne_of_head (by decide)))

theorem decodedTcpOptions_silent (offset : Nat) : Silent q (decodedTcpOptions offset) := by
  unfold decodedTcpOptions
  refine .size (.ite (.pure _) (.bind .within fun first => ?_))
  exact .ite (.pure _) (.bind .within fun options => .pure _)

theorem appendTcpLayer_short {offset : Nat} (packetEnd : Nat) (hshort : p.length < offset + 20)
    (hlong : offset + 20 ≤ q.length) :
    Parts p q (appendTcpLayer offset packetEnd) (appendTcpLayer offset packetEnd) := by
  unfold appendTcpLayer
  refine .size ?_
  rw [if_pos hshort, if_neg (by omega)]
  refine .bindRight .within fun srcPort => .bindRight .within fun dstPort => ?_
  refine .bindRight .within fun first => .bindRight (decodedTcpOptions_silent _) fun options => ?_
  refine .bindRight .within fun sequence => .bindRight .within fun acknowledge => ?_
  refine .bindRight .within fun flags => .bindRight .within fun window => ?_
  refine .bindRight .within fun checksum => .bindRight .within fun urgent => ?_
  exact .append (layer_ne_of_head (by decide))

theorem tcpOptionFields_eq_nil {options : ParsedTcpOptions} (h : tcpOptionFields options = []) :
    options = {} := by
  obtain ⟨mss, windowScale, sackPermitted, sack, timestamp⟩ := options
  unfold tcpOptionFields at h
  simp only [List.append_eq_nil_iff] at h
  obtain ⟨⟨⟨⟨hmss, hpermitted⟩, hsack⟩, htimestamp⟩, hscale⟩ := h
  rcases mss with _ | mss
  · rcases sack with _ | sack
    · rcases timestamp with _ | timestamp
      · rcases windowScale with _ | windowScale
        · rcases sackPermitted with _ | _
          · rfl
          · cases hpermitted
        · cases hscale
      · cases htimestamp
    · cases hsack
  · cases hmss

theorem decodedTcpOptions_values {fill : Bytes} {offset : Nat} (hlong : offset + 20 ≤ p.length)
    (hend : p.length < offset + octetAt p (offset + 12) / 16 * 4)
    (hlength : fill.length = offset + octetAt p (offset + 12) / 16 * 4 - p.length)
    (hfill : notedTcpOptions (slice p (offset + 20) (p.length - (offset + 20)) ++ fill) ≠ {}) :
    Values p (p ++ fill) (decodedTcpOptions offset) (decodedTcpOptions offset)
      fun options options' => options = {} ∧ options' ≠ {} := by
  have hagree := Agree.append p fill
  have hoctet := octetAt_lt p (offset + 12)
  have htotal : (p ++ fill).length = offset + octetAt p (offset + 12) / 16 * 4 := by
    rw [List.length_append]
    omega
  have hoptions : slice (p ++ fill) (offset + 20) (octetAt p (offset + 12) / 16 * 4 - 20)
      = slice p (offset + 20) (p.length - (offset + 20)) ++ fill := by
    have hwhole : octetAt p (offset + 12) / 16 * 4 - 20 = (p.drop (offset + 20) ++ fill).length := by
      rw [List.length_append, List.length_drop]
      omega
    have hrest : (p.drop (offset + 20)).length ≤ p.length - (offset + 20) := by
      rw [List.length_drop]
    rw [slice, slice, List.drop_append_of_le_length hlong, hwhole, List.take_length,
      List.take_of_length_le hrest]
  unfold decodedTcpOptions
  refine .size ?_
  rw [if_neg (by omega), if_neg (by omega)]
  refine .bind (.octet hagree (by omega)) ?_
  dsimp only
  rw [if_pos (by omega), if_neg (by omega)]
  intro output output' hleft hright
  cases hleft
  have hin : offset + 20 + (octetAt p (offset + 12) / 16 * 4 - 20) ≤ (p ++ fill).length := by omega
  unfold octets at hright
  rw [within_bind _ hin, hoptions] at hright
  cases hright
  exact ⟨rfl, rfl, hfill⟩

theorem appendTcpLayer_fill {fill : Bytes} {offset : Nat} (packetEnd : Nat)
    (hlong : offset + 20 ≤ p.length)
    (hend : p.length < offset + octetAt p (offset + 12) / 16 * 4)
    (hlength : fill.length = offset + octetAt p (offset + 12) / 16 * 4 - p.length)
    (hfill : notedTcpOptions (slice p (offset + 20) (p.length - (offset + 20)) ++ fill) ≠ {}) :
    Parts p (p ++ fill) (appendTcpLayer offset packetEnd) (appendTcpLayer offset packetEnd) := by
  have hagree := Agree.append p fill
  have hright := hagree.right
  unfold appendTcpLayer
  refine .size ?_
  rw [if_neg (by omega), if_neg (by omega)]
  refine .bind (.word hagree (by omega)) (.bind (.word hagree (by omega)) ?_)
  refine .bind (.octet hagree (by omega)) ?_
  refine .bindValues (decodedTcpOptions_values hlong hend hlength hfill) fun options options' hne => ?_
  obtain ⟨rfl, hne⟩ := hne
  refine .bind (.word32 hagree (by omega)) (.bind (.word32 hagree (by omega)) ?_)
  refine .bind (.octet hagree (by omega)) (.bind (.word hagree (by omega)) ?_)
  refine .bind (.word hagree (by omega)) (.bind (.word hagree (by omega)) ?_)
  exact .append (layer_ne fun heq => hne (tcpOptionFields_eq_nil heq.symm))

theorem sctpChunkFields_values {chunkOffset : Nat} (packetEnd : Nat)
    (hshort : p.length < chunkOffset + 16) (hlong : chunkOffset + 16 ≤ q.length) :
    Values p q (sctpChunkFields chunkOffset packetEnd) (sctpChunkFields chunkOffset packetEnd)
      fun chunk chunk' => chunk = [] ∧ chunk' ≠ [] := by
  unfold sctpChunkFields
  refine .size ?_
  rw [if_neg (by omega), if_pos hlong]
  refine .bindRight .within fun chunkType => .bindRight .within fun chunkFlags => ?_
  refine .bindRight .within fun chunkLength => ?_
  dsimp only
  by_cases hdata : chunkType = 0
  · rw [if_pos hdata]
    refine .bindRight .within fun tsn => .bindRight .within fun streamId => ?_
    refine .bindRight .within fun streamSequence => .bindRight .within fun payloadProtocol => ?_
    exact .pure ⟨rfl, List.cons_ne_nil _ _⟩
  · rw [if_neg hdata]
    exact .pure ⟨rfl, List.cons_ne_nil _ _⟩

theorem sctpChunkFields_silent (chunkOffset packetEnd : Nat) :
    Silent q (sctpChunkFields chunkOffset packetEnd) := by
  unfold sctpChunkFields
  refine .size (.ite (.bind .within fun chunkType => .bind .within fun chunkFlags => ?_) (.pure _))
  refine .bind .within fun chunkLength => .ite ?_ (.pure _)
  refine .bind .within fun tsn => .bind .within fun streamId => ?_
  exact .bind .within fun streamSequence => .bind .within fun payloadProtocol => .pure _

theorem appendSctpLayer_parts (h : Agree p.length p q) {offset : Nat} (packetEnd : Nat)
    (hshort : p.length < offset + 28) (hlong : offset + 28 ≤ q.length) :
    Parts p q (appendSctpLayer offset packetEnd) (appendSctpLayer offset packetEnd) := by
  unfold appendSctpLayer
  refine .size ?_
  rw [if_neg (by omega : ¬q.length < offset + 12)]
  by_cases hheader : p.length < offset + 12
  · rw [if_pos hheader]
    refine .bindRight .within fun srcPort => .bindRight .within fun dstPort => ?_
    refine .bindRight .within fun verificationTag => .bindRight .within fun checksum => ?_
    refine .bindRight (sctpChunkFields_silent _ _) fun chunk => ?_
    exact .append (layer_ne_of_head (by decide))
  · rw [if_neg hheader]
    refine .bind (.word h (by omega)) (.bind (.word h (by omega)) ?_)
    obtain ⟨checksum, hchecksum⟩ := @Plain.little32 CaptureLayer _ p q h (offset + 8) (by omega)
    refine .bind (.word32 h (by omega)) (.bind hchecksum ?_)
    refine .bindValues (sctpChunkFields_values packetEnd (by omega) (by omega))
      fun chunk chunk' hne => ?_
    obtain ⟨rfl, hne⟩ := hne
    exact .append (layer_ne fun heq => hne heq.symm)

/-! ## Control messages -/

theorem icmpv6OptionDetail_silent (optionType optionLength cursor : Nat) :
    Silent q (icmpv6OptionDetail optionType optionLength cursor) := by
  unfold icmpv6OptionDetail
  refine .ite (.bind .within fun address => .pure _) (.ite ?_ (.pure _))
  refine .bind .within fun prefixLength => .bind .within fun prefixFlags => ?_
  refine .bind .within fun validLifetime => .bind .within fun preferredLifetime => ?_
  exact .bind .within fun address => .pure _

theorem icmpv6OptionsLoop_silent : ∀ {left cursor : Nat}, Silent q (icmpv6OptionsLoop left cursor) := by
  intro left
  induction left with
  | zero => exact fun {_} => .pure _
  | succ left ih =>
      intro cursor
      rw [icmpv6OptionsLoop]
      refine .size (.ite (.pure _) (.ite (.pure _) ?_))
      refine .bind .within fun optionType => .bind .within fun units => ?_
      refine .ite (.pure _) (.ite (.pure _) ?_)
      exact .bind (icmpv6OptionDetail_silent _ _ _) fun detail => .bind ih fun rest => .pure _

theorem icmpv6Option_values {shown : List CaptureField}
    (hshown : shown = [] ∨ ∃ value, shown = [("Option", value)]) (left cursor optionType units : Nat) :
    Values p q (pure shown) (do
        let detail ← icmpv6OptionDetail optionType (units * 8) cursor
        let rest ← icmpv6OptionsLoop left (cursor + units * 8)
        pure ([("Option Type", icmpv6OptionName optionType), ("Option Length", .number (units * 8))]
          ++ detail ++ rest))
      (· ≠ ·) := by
  refine .bindRight (icmpv6OptionDetail_silent _ _ _) fun detail => ?_
  refine .bindRight icmpv6OptionsLoop_silent fun rest => .pure ?_
  rcases hshown with rfl | ⟨value, rfl⟩
  · exact (List.cons_ne_nil _ _).symm
  · intro heq
    injection heq with hhead
    injection hhead with hkey
    exact absurd hkey (by decide)

/-- Options that do not come to a stop within the packet go on behind it. -/
theorem icmpv6OptionsLoop_values (h : Overrun p q) : ∀ {left cursor : Nat}, cursor ≤ p.length →
    icmpv6OptionsStop p p.length left cursor = false →
      Values p q (icmpv6OptionsLoop left cursor) (icmpv6OptionsLoop left cursor) (· ≠ ·) := by
  have hfar := h.far
  intro left
  induction left with
  | zero =>
      intro cursor _ hstop
      cases hstop
  | succ left ih =>
      intro cursor hin hstop
      rw [icmpv6OptionsLoop]
      refine .size ?_
      rw [if_neg (by omega : ¬q.length ≤ cursor), if_neg (by omega : ¬q.length < cursor + 2)]
      by_cases hshort : p.length < cursor + 2
      · -- The type or the length of an option is an octet that follows the packet.
        have hunits : octetAt q (cursor + 1) = 1 := h.ones _ (by omega) (by omega)
        have hright : ∀ {shown : List CaptureField},
            (shown = [] ∨ ∃ value, shown = [("Option", value)]) →
              Values p q (pure shown) (do
                  let optionType ← octet cursor
                  let units ← octet (cursor + 1)
                  if units = 0 then pure [("Option", .text s!"type {optionType} length 0")]
                  else if q.length < cursor + units * 8 then
                    pure [("Option", .text s!"type {optionType} truncated")]
                  else do
                    let detail ← icmpv6OptionDetail optionType (units * 8) cursor
                    let rest ← icmpv6OptionsLoop left (cursor + units * 8)
                    pure ([("Option Type", icmpv6OptionName optionType),
                      ("Option Length", .number (units * 8))] ++ detail ++ rest))
                (· ≠ ·) := by
          intro shown hshown
          refine .bindRight .within fun optionType => ?_
          refine .readRight (by omega : cursor + 1 + 1 ≤ q.length) ?_
          rw [hunits, if_neg (by decide), if_neg (by omega)]
          exact icmpv6Option_values hshown left cursor optionType 1
        by_cases hempty : p.length ≤ cursor
        · rw [if_pos hempty]
          exact hright (.inl rfl)
        · rw [if_neg hempty, if_pos hshort]
          exact hright (.inr ⟨_, rfl⟩)
      · rw [if_neg (by omega : ¬p.length ≤ cursor), if_neg hshort]
        have hoctet := octetAt_lt p (cursor + 1)
        refine .bind (.octet h.agree (by omega)) (.bind (.octet h.agree (by omega)) ?_)
        simp only [icmpv6OptionsStop, Bool.and_eq_false_iff, Bool.or_eq_false_iff, decide_eq_false_iff_not]
          at hstop
        obtain ⟨hunits, hrest⟩ := hstop.resolve_left (not_not_intro (by omega))
        rw [if_neg hunits, if_neg hunits, if_neg (by omega : ¬q.length < _)]
        by_cases hwhole : p.length < cursor + octetAt p (cursor + 1) * 8
        · rw [if_pos hwhole]
          exact icmpv6Option_values (.inr ⟨_, rfl⟩) left cursor _ _
        · rw [if_neg hwhole]
          obtain ⟨detail, hdetail⟩ := @icmpv6OptionDetail_plain _ p q h.agree (octetAt p cursor)
            (octetAt p (cursor + 1) * 8) cursor (by omega)
          refine .bind hdetail ?_
          refine .bindValues (ih (by omega) (hrest.resolve_left (not_not_intro (by omega))))
            fun rest rest' hne => .pure ?_
          exact fun heq => hne (List.append_cancel_left heq)

theorem icmpMessageFields_values (h : Overrun p q) {offset : Nat} {version6 : Bool}
    (hfour : offset + 4 ≤ p.length) (hfit : ¬IcmpContained p p.length offset version6) :
    Values p q (icmpMessageFields offset (octetAt p offset) version6)
      (icmpMessageFields offset (octetAt p offset) version6) (· ≠ ·) := by
  have hfar := h.far
  have hagree := h.agree
  unfold icmpMessageFields
  refine .size ?_
  by_cases hecho : octetAt p offset ∈ [0, 8, 128, 129]
  · have hneighbor : octetAt p offset ∉ [135, 136] := by
      simp only [List.mem_cons, List.not_mem_nil, or_false] at hecho ⊢
      omega
    have hsolicit : octetAt p offset ≠ 133 := by
      simp only [List.mem_cons, List.not_mem_nil, or_false] at hecho
      omega
    have hadvertise : octetAt p offset ≠ 134 := by
      simp only [List.mem_cons, List.not_mem_nil, or_false] at hecho
      omega
    have hshort : ¬offset + 8 ≤ p.length := by
      intro hlong
      exact hfit ⟨hfour, fun _ => hlong, fun _ hmem => absurd hmem hneighbor,
        fun _ heq => absurd heq hsolicit, fun _ heq => absurd heq hadvertise⟩
    have hlong : offset + 8 ≤ q.length := by omega
    simp only [hecho, hshort, hlong, hneighbor, hsolicit, hadvertise, and_true, and_false, false_and,
      ite_true, ite_false]
    refine .bindRight .within fun identifier => .bindRight .within fun sequence => .pure ?_
    exact (List.cons_ne_nil _ _).symm
  have hversion : version6 = true := by
    by_contra hfour6
    exact hfit ⟨hfour, fun hmem => absurd hmem hecho, fun hsix => absurd hsix hfour6,
      fun hsix => absurd hsix hfour6, fun hsix => absurd hsix hfour6⟩
  simp only [hecho, hversion, false_and, true_and, ite_false]
  by_cases hneighbor : octetAt p offset ∈ [135, 136]
  · have hsolicit : octetAt p offset ≠ 133 := by
      simp only [List.mem_cons, List.not_mem_nil, or_false] at hneighbor
      omega
    have hadvertise : octetAt p offset ≠ 134 := by
      simp only [List.mem_cons, List.not_mem_nil, or_false] at hneighbor
      omega
    have hlong : offset + 24 ≤ q.length := by omega
    simp only [hneighbor, hsolicit, hadvertise, hlong, true_and, false_and, ite_true, ite_false]
    by_cases hwhole : offset + 24 ≤ p.length
    · have hstop : icmpv6OptionsStop p p.length 16 (offset + 24) = false := by
        rw [← Bool.not_eq_true]
        exact fun hstop => hfit ⟨hfour, fun hmem => absurd hmem hecho, fun _ _ => ⟨hwhole, hstop⟩,
          fun _ heq => absurd heq hsolicit, fun _ heq => absurd heq hadvertise⟩
      rw [if_pos hwhole]
      refine .bind (.word32 hagree (by omega)) (.bind (.octets hagree (by omega)) ?_)
      refine .bindValues (icmpv6OptionsLoop_values h hwhole hstop) fun options options' hne => .pure ?_
      exact fun heq => hne (List.append_cancel_left heq)
    · rw [if_neg hwhole]
      refine .bindRight .within fun flags => .bindRight .within fun target => ?_
      refine .bindRight icmpv6OptionsLoop_silent fun options => .pure ?_
      exact (List.cons_ne_nil _ _).symm
  simp only [hneighbor, false_and, ite_false]
  by_cases hsolicit : octetAt p offset = 133
  · have hadvertise : octetAt p offset ≠ 134 := by omega
    have hlong : offset + 8 ≤ q.length := by omega
    simp only [hsolicit, hlong, and_self, true_and, ite_true]
    by_cases hwhole : offset + 8 ≤ p.length
    · have hstop : icmpv6OptionsStop p p.length 16 (offset + 8) = false := by
        rw [← Bool.not_eq_true]
        exact fun hstop => hfit ⟨hfour, fun hmem => absurd hmem hecho, fun _ hmem => absurd hmem hneighbor,
          fun _ _ => ⟨hwhole, hstop⟩, fun _ heq => absurd heq hadvertise⟩
      rw [if_pos hwhole]
      refine .bind (.word32 hagree (by omega)) ?_
      refine .bindValues (icmpv6OptionsLoop_values h hwhole hstop) fun options options' hne => .pure ?_
      exact fun heq => hne (List.append_cancel_left heq)
    · rw [if_neg hwhole, if_neg (by omega)]
      refine .bindRight .within fun reserved => ?_
      refine .bindRight icmpv6OptionsLoop_silent fun options => .pure ?_
      exact (List.cons_ne_nil _ _).symm
  simp only [hsolicit, false_and, ite_false]
  by_cases hadvertise : octetAt p offset = 134
  · have hlong : offset + 16 ≤ q.length := by omega
    simp only [hadvertise, hlong, true_and, and_self, ite_true]
    by_cases hwhole : offset + 16 ≤ p.length
    · have hstop : icmpv6OptionsStop p p.length 16 (offset + 16) = false := by
        rw [← Bool.not_eq_true]
        exact fun hstop => hfit ⟨hfour, fun hmem => absurd hmem hecho, fun _ hmem => absurd hmem hneighbor,
          fun _ heq => absurd heq hsolicit, fun _ _ => ⟨hwhole, hstop⟩⟩
      rw [if_pos hwhole]
      refine .bind (.octet hagree (by omega)) (.bind (.octet hagree (by omega)) ?_)
      refine .bind (.word hagree (by omega)) (.bind (.word32 hagree (by omega)) ?_)
      refine .bind (.word32 hagree (by omega)) ?_
      refine .bindValues (icmpv6OptionsLoop_values h hwhole hstop) fun options options' hne => .pure ?_
      exact fun heq => hne (List.append_cancel_left heq)
    · rw [if_neg hwhole]
      refine .bindRight .within fun hopLimit => .bindRight .within fun flags => ?_
      refine .bindRight .within fun lifetime => .bindRight .within fun reachable => ?_
      refine .bindRight .within fun retrans => ?_
      refine .bindRight icmpv6OptionsLoop_silent fun options => .pure ?_
      exact (List.cons_ne_nil _ _).symm
  · exact absurd ⟨hfour, fun hmem => absurd hmem hecho, fun _ hmem => absurd hmem hneighbor,
      fun _ heq => absurd heq hsolicit, fun _ heq => absurd heq hadvertise⟩ hfit

theorem icmpMessageFields_silent (offset icmpType : Nat) (version6 : Bool) :
    Silent q (icmpMessageFields offset icmpType version6) := by
  unfold icmpMessageFields
  refine .size (.ite ?_ (.ite ?_ (.ite ?_ (.ite ?_ (.pure _)))))
  · exact .bind .within fun identifier => .bind .within fun sequence => .pure _
  · refine .bind .within fun flags => .bind .within fun target => ?_
    exact .bind icmpv6OptionsLoop_silent fun options => .pure _
  · exact .bind .within fun reserved => .bind icmpv6OptionsLoop_silent fun options => .pure _
  · refine .bind .within fun hopLimit => .bind .within fun flags => .bind .within fun lifetime => ?_
    refine .bind .within fun reachable => .bind .within fun retrans => ?_
    exact .bind icmpv6OptionsLoop_silent fun options => .pure _

theorem appendIcmpLayer_parts (h : Overrun p q) {offset protocol : Nat} {ipv6 : Bool}
    (hin : offset ≤ p.length) (hfit : ¬IcmpContained p p.length offset (ipv6 || protocol = 58)) :
    Parts p q (appendIcmpLayer offset protocol ipv6) (appendIcmpLayer offset protocol ipv6) := by
  have hfar := h.far
  unfold appendIcmpLayer
  refine .size ?_
  rw [if_neg (by omega : ¬q.length < offset + 4)]
  by_cases hshort : p.length < offset + 4
  · rw [if_pos hshort]
    refine .bindRight .within fun icmpType => .bindRight .within fun icmpCode => ?_
    refine .bindRight .within fun checksum => .bindRight (icmpMessageFields_silent _ _ _) fun message => ?_
    exact .append (layer_ne_of_head (by decide))
  · rw [if_neg hshort]
    refine .bind (.octet h.agree (by omega)) (.bind (.octet h.agree (by omega)) ?_)
    refine .bind (.word h.agree (by omega)) ?_
    refine .bindValues (icmpMessageFields_values h (by omega) hfit) fun message message' hne => ?_
    exact .append (layer_ne hne)

/-! ## Address resolution -/

theorem arpAddressFields_silent (offset hlen plen : Nat) :
    Silent q (arpAddressFields offset hlen plen) := by
  unfold arpAddressFields
  refine .size (.ite ?_ (.pure _))
  refine .bind .within fun senderMac => .bind .within fun senderIp => ?_
  exact .bind .within fun targetMac => .bind .within fun targetIp => .pure _

theorem appendArpLayers_parts {offset : Nat} (hshort : p.length < offset + 28)
    (hlong : offset + 28 ≤ q.length) : Parts p q (appendArpLayers offset) (appendArpLayers offset) := by
  unfold appendArpLayers
  refine .call (.size ?_)
  rw [if_pos hshort, if_neg (by omega)]
  refine .bindRight .within fun hlen => .bindRight .within fun plen => ?_
  refine .bindRight .within fun operation => .bindRight .within fun hardwareType => ?_
  refine .bindRight .within fun protocolType => .bindRight (arpAddressFields_silent _ _ _) fun addresses => ?_
  exact .append (layer_ne_of_head (by decide))

/-! ## Encapsulation -/

theorem greChecksumFields_silent (cursor : Nat) : Silent q (greChecksumFields cursor) :=
  .bind .within fun _ => .bind .within fun _ => .pure _

theorem greKeyFields_silent (cursor : Nat) : Silent q (greKeyFields cursor) :=
  .bind .within fun _ => .pure _

theorem greSequenceFields_silent (cursor : Nat) : Silent q (greSequenceFields cursor) :=
  .bind .within fun _ => .pure _

/-- A part of the header is in the longer packet. In the other it ends at the same offset, within the
packet, or it is truncated. -/
def GrePart (n cursor : Nat) (part part' : Option (Nat × List CaptureField)) : Prop :=
  ∃ fields', part' = some (cursor, fields')
    ∧ (part = none ∨ ∃ fields, part = some (cursor, fields) ∧ cursor ≤ n)

theorem greOptionalFields_silent {present : Bool} {cursor : Nat} {fields : Decoder (List CaptureField)}
    (hfields : Silent q fields) : Silent q (greOptionalFields present cursor fields) := by
  unfold greOptionalFields
  exact .ite (.size (.ite (.pure _) (.bind hfields fun part => .pure _))) (.pure _)

theorem greOptionalFields_values {present : Bool} {cursor : Nat} {fields : Decoder (List CaptureField)}
    (hin : cursor ≤ p.length) (hlong : cursor + 4 ≤ q.length) (hp : Silent p fields)
    (hq : Silent q fields) :
    Values p q (greOptionalFields present cursor fields) (greOptionalFields present cursor fields)
      (GrePart p.length (cursor + if present = true then 4 else 0)) := by
  cases present with
  | false => exact .pure ⟨_, rfl, .inr ⟨_, rfl, hin⟩⟩
  | true =>
      unfold greOptionalFields
      simp only [ite_true]
      refine .size ?_
      rw [if_neg (by omega : ¬q.length < cursor + 4)]
      by_cases hshort : p.length < cursor + 4
      · rw [if_pos hshort]
        exact .bindRight hq fun part => .pure ⟨part, rfl, .inl rfl⟩
      · rw [if_neg hshort]
        have hread : Values p q fields fields fun _ _ => True := by
          intro output output' hleft hright
          exact ⟨(hp _ hleft).trans (hq _ hright).symm, trivial⟩
        refine .bindValues hread fun part part' _ => .pure ?_
        exact ⟨part', rfl, .inr ⟨part, rfl, by omega⟩⟩

theorem layer_ne_of_last {name : String} {fields fields' : List CaptureField} {last last' : CaptureField}
    (h : last ≠ last') :
    (⟨name, fields ++ [last]⟩ : CaptureLayer) ≠ ⟨name, fields' ++ [last']⟩ := by
  intro heq
  injection heq with _ hfields
  have hlast := congrArg List.getLast? hfields
  rw [List.getLast?_append, List.getLast?_append] at hlast
  exact h (Option.some.inj hlast)

theorem appendGreLayers_parts (h : Overrun p q) {offset : Nat} (hin : offset ≤ p.length) :
    Parts p q (appendGreLayers recur offset) (appendGreLayers recur' offset) := by
  have hfar := h.far
  have hstatus : ∀ {text : FieldValue} {length : Nat},
      (("Status", text) : CaptureField) ≠ ("Payload Length", .number length) := by
    intro text length heq
    injection heq with hkey
    exact absurd hkey (by decide)
  unfold appendGreLayers
  refine .call (.size ?_)
  rw [if_neg (by omega : ¬q.length < offset + 4)]
  by_cases hshort : p.length < offset + 4
  · rw [if_pos hshort]
    refine .bindRight .within fun flags => .bindRight .within fun protocolType => ?_
    have hhead : ∀ {rest : List CaptureField}, (⟨"GRE", [("Status", .text "Truncated GRE")]⟩ : CaptureLayer)
        ≠ ⟨"GRE", [("Flags", .hex 4 flags), ("Protocol Type", .hex 4 protocolType)] ++ rest⟩ :=
      layer_ne_of_head (by decide)
    refine .bindRight (greOptionalFields_silent (greChecksumFields_silent _)) fun checksum => ?_
    rcases checksum with _ | ⟨keyOffset, checksumFields⟩
    · exact .append hhead
    refine .bindRight (greOptionalFields_silent (greKeyFields_silent _)) fun key => ?_
    rcases key with _ | ⟨sequenceOffset, keyFields⟩
    · dsimp only
      rw [List.append_assoc]
      exact .append hhead
    refine .bindRight (greOptionalFields_silent (greSequenceFields_silent _)) fun sequence => ?_
    rcases sequence with _ | ⟨cursor, sequenceFields⟩
    · dsimp only
      rw [List.append_assoc, List.append_assoc]
      exact .append hhead
    · dsimp only
      rw [List.append_assoc, List.append_assoc, List.append_assoc]
      exact .goesOn (.append hhead)
  rw [if_neg hshort]
  refine .bind (.word h.agree (by omega)) (.bind (.word h.agree (by omega)) ?_)
  refine .bindValues (greOptionalFields_values (by omega) (by omega) (greChecksumFields_silent _)
    (greChecksumFields_silent _)) fun checksum checksum' hchecksum => ?_
  obtain ⟨checksumFields', rfl, hchecksum⟩ := hchecksum
  rcases hchecksum with rfl | ⟨checksumFields, rfl, hkeyOffset⟩
  · refine .bindRight (greOptionalFields_silent (greKeyFields_silent _)) fun key => ?_
    rcases key with _ | ⟨sequenceOffset, keyFields⟩
    · exact .append (layer_ne_of_last (by decide))
    refine .bindRight (greOptionalFields_silent (greSequenceFields_silent _)) fun sequence => ?_
    rcases sequence with _ | ⟨cursor, sequenceFields⟩
    · exact .append (layer_ne_of_last (by decide))
    · exact .goesOn (.append (layer_ne_of_last hstatus))
  refine .bindValues (greOptionalFields_values hkeyOffset (by split <;> omega) (greKeyFields_silent _)
    (greKeyFields_silent _)) fun key key' hkey => ?_
  obtain ⟨keyFields', rfl, hkey⟩ := hkey
  rcases hkey with rfl | ⟨keyFields, rfl, hsequenceOffset⟩
  · refine .bindRight (greOptionalFields_silent (greSequenceFields_silent _)) fun sequence => ?_
    rcases sequence with _ | ⟨cursor, sequenceFields⟩
    · exact .append (layer_ne_of_last (by decide))
    · exact .goesOn (.append (layer_ne_of_last hstatus))
  refine .bindValues (greOptionalFields_values hsequenceOffset (by split <;> split <;> omega)
    (greSequenceFields_silent _) (greSequenceFields_silent _)) fun sequence sequence' hsequence => ?_
  obtain ⟨sequenceFields', rfl, hsequence⟩ := hsequence
  rcases hsequence with rfl | ⟨sequenceFields, rfl, hcursor⟩
  · exact .goesOn (.append (layer_ne_of_last hstatus))
  · refine .bindLast (.append (layer_ne_of_last fun heq => ?_))
    injection heq with _ hvalue
    injection hvalue with hlengths
    omega

/-! ## The decoders together -/

theorem appendTransportLayers_parts {offset packetEnd protocol : Nat} {ipv6 : Bool} (p : Bytes)
    (hin : offset ≤ p.length) (hfit : ¬TransportContained p p.length offset protocol ipv6) :
    ∃ trailer, ∀ recur recur' : LayerCall → Decoder Unit, Parts p (p ++ trailer)
      (appendTransportLayers recur offset packetEnd protocol ipv6)
      (appendTransportLayers recur' offset packetEnd protocol ipv6) := by
  have hover := overrun_replicate p
  have hfar := hover.far
  unfold appendTransportLayers
  by_cases hudp : protocol = 17
  · have hshort : ¬offset + 8 ≤ p.length := by
      intro hlong
      refine hfit ⟨fun _ => hlong, ?_, ?_, ?_, ?_⟩ <;> intro _ <;> omega
    refine ⟨List.replicate 2100 1, fun recur recur' => .call ?_⟩
    rw [if_pos hudp, if_pos hudp]
    exact appendUdpLayer_parts packetEnd (by omega) (by omega)
  by_cases htcp : protocol = 6
  · have hoptions : ¬TcpContained p p.length offset := by
      intro hlong
      refine hfit ⟨fun _ => ?_, fun _ => hlong, fun _ => ?_, fun _ => ?_, fun _ => ?_⟩ <;> omega
    by_cases hshort : p.length < offset + 20
    · refine ⟨List.replicate 2100 1, fun recur recur' => .call ?_⟩
      rw [if_neg hudp, if_neg hudp, if_pos htcp, if_pos htcp]
      exact appendTcpLayer_short packetEnd hshort (by omega)
    · simp only [TcpContained, not_and, not_or, not_forall] at hoptions
      obtain ⟨hend, fill, hlength, hfill⟩ := hoptions (by omega)
      refine ⟨fill, fun recur recur' => .call ?_⟩
      rw [if_neg hudp, if_neg hudp, if_pos htcp, if_pos htcp]
      exact appendTcpLayer_fill packetEnd (by omega) (by omega) hlength hfill
  refine ⟨List.replicate 2100 1, fun recur recur' => .call ?_⟩
  rw [if_neg hudp, if_neg hudp, if_neg htcp, if_neg htcp]
  by_cases hsctp : protocol = 132
  · have hshort : ¬SctpContained p.length offset := by
      intro hlong
      refine hfit ⟨fun _ => ?_, fun _ => ?_, fun _ => hlong, fun _ => ?_, fun _ => ?_⟩ <;> omega
    unfold SctpContained at hshort
    rw [if_pos hsctp, if_pos hsctp]
    exact appendSctpLayer_parts hover.agree packetEnd (by omega) (by omega)
  by_cases hicmp : protocol = 1 ∨ protocol = 58
  · have hmessage : ¬IcmpContained p p.length offset (ipv6 || protocol = 58) := by
      intro hlong
      refine hfit ⟨fun _ => ?_, fun _ => ?_, fun _ => ?_, fun _ => hlong, fun _ => ?_⟩ <;> omega
    rw [if_neg hsctp, if_neg hsctp, if_pos hicmp, if_pos hicmp]
    exact appendIcmpLayer_parts hover hin hmessage
  by_cases hgre : protocol = 47
  · rw [if_neg hsctp, if_neg hsctp, if_neg hicmp, if_neg hicmp, if_pos hgre, if_pos hgre]
    exact appendGreLayers_parts hover hin
  · refine absurd ⟨?_, ?_, ?_, ?_, hgre⟩ hfit
    · exact fun h => absurd h hudp
    · exact fun h => absurd h htcp
    · exact fun h => absurd h hsctp
    · exact fun h => absurd h hicmp

end TrexWebui
