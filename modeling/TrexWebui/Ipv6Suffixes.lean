import TrexWebui.AddressIteration
import TrexWebui.IpAddressTexts

/-!
# The suffix of an IPv6 address

The field engine counts in the last octets of an IPv6 address. The browser and the
server work out, each for itself, how many octets these are and where they start. The
browser reads the address with a parser of its own, which takes more for an address
than Python does; of what Python accepts it makes the same number.
-/

namespace TrexWebui

open PyStr DigitTexts IpAddressTexts Octets

/-! ## The browser's parser -/

/-- An integer between zero and a limit; `none` is `NaN`. -/
def InRange (limit : Int) (part : Option Int) : Prop := ∃ n, part = some n ∧ 0 ≤ n ∧ n ≤ limit

instance (limit : Int) (part : Option Int) : Decidable (InRange limit part) :=
  match part with
  | none => isFalse (by rintro ⟨n, hn, -⟩; cases hn)
  | some n => decidable_of_iff (0 ≤ n ∧ n ≤ limit) ⟨fun h => ⟨n, rfl, h⟩, by
      rintro ⟨m, hm, h⟩
      cases hm
      exact h⟩

def partNumber (part : Option Int) : Nat := (part.getD 0).toNat

def ipv4Parts (address : Str) : List Nat :=
  let parts := (address.splitOn point).map (jsParseInt 10)
  if parts.length = 4 ∧ ∀ part ∈ parts, InRange 255 part then parts.map partNumber else [0, 0, 0, 0]

/-- The text with an IPv4 address at its end replaced by two groups. -/
def ipv6Candidate (normalized : Str) : Option Str :=
  if point ∈ normalized then
    let parts := normalized.splitOn colon
    let ipv4Part := parts.getLastD []
    let ipv4Bytes := ipv4Parts ipv4Part
    if (∀ part ∈ ipv4Bytes, part = 0) ∧ ipv4Part ≠ [48, 46, 48, 46, 48, 46, 48] then none
    else
      let high := hexText (ipv4Bytes.getD 0 0 <<< 8 ||| ipv4Bytes.getD 1 0)
      let low := hexText (ipv4Bytes.getD 2 0 <<< 8 ||| ipv4Bytes.getD 3 0)
      some ([colon].intercalate parts.dropLast ++ colon :: (high ++ colon :: low))
  else some normalized

def parseHextets (s : Str) : List (Option Int) :=
  if s.length = 0 then [] else (s.splitOn colon).map (jsParseInt 16)

def candidateNumber (candidate : Str) : Option Nat :=
  let compressionParts := splitPair colon candidate
  if 2 < compressionParts.length then none
  else
    let head := parseHextets (compressionParts.headD [])
    let tail := parseHextets (compressionParts.getD 1 [])
    if ¬∀ part ∈ head ++ tail, InRange 0xFFFF part then none
    else if compressionParts.length = 1 ∧ head.length ≠ 8 then none
    else if compressionParts.length = 2 ∧ 7 < head.length + tail.length then none
    else
      let hextets := if compressionParts.length = 2 then
          head ++ (List.replicate (8 - head.length - tail.length) (some 0) ++ tail)
        else head
      if hextets.length ≠ 8 then none
      else some (hextets.foldl (fun result part => result <<< 16 ||| partNumber part) 0)

def zoneFree (s : Str) : Str := s.takeWhile (· ≠ percent)

def ipv6AddressToBigInt (value : Str) : Option Nat :=
  let normalized := zoneFree (jsTrim value)
  if normalized = [] then none else (ipv6Candidate normalized).bind candidateNumber

/-! ## The suffix -/

structure Ipv6FieldEngineSuffix where
  initValue : Nat
  maxValue : Nat
  size : Nat
deriving DecidableEq, Repr

structure SuffixCandidate where
  limit : Nat
  mask : Nat
  size : Nat

def suffixCandidates : List SuffixCandidate :=
  [⟨256, 0xFF, 1⟩, ⟨65536, 0xFFFF, 2⟩, ⟨4294967296, 0xFFFFFFFF, 4⟩,
    ⟨18446744073709551616, 0xFFFFFFFFFFFFFFFF, 8⟩]

def maxSafeInteger : Nat := 9007199254740991

/-- The loop of `ipv6FieldEngineSuffix` over the candidates. -/
def suffixLoop (value count : Nat) : List SuffixCandidate → Option Ipv6FieldEngineSuffix
  | [] => none
  | candidate :: candidates =>
      let initValue := value &&& candidate.mask
      if candidate.size ≠ 8 ∧ candidate.limit ≤ initValue + count then
        suffixLoop value count candidates
      else
        let maxValue := initValue + count - 1
        if maxSafeInteger < initValue ∨ maxSafeInteger < maxValue then none
        else some ⟨initValue, maxValue, candidate.size⟩

def ipv6FieldEngineSuffix (address : Str) (count : Nat) : Option Ipv6FieldEngineSuffix :=
  let boundedCount := max 2 (min 100000000 count)
  (ipv6AddressToBigInt address).bind fun value => suffixLoop value boundedCount suffixCandidates

/-- `ipv6_field_engine_size_and_init`, from the number of the address on. -/
def ipv6NumberSizeAndInit (value count : Nat) : Nat × Nat :=
  if (value &&& 0xFF) + count < 256 then (1, value &&& 0xFF)
  else if (value &&& 0xFFFF) + count < 65536 then (2, value &&& 0xFFFF)
  else if (value &&& 0xFFFFFFFF) + count < 4294967296 then (4, value &&& 0xFFFFFFFF)
  else (8, value &&& 0xFFFFFFFFFFFFFFFF)

/-- What `workbench_ipv6_address_vm_instructions` takes for the variable. -/
def serverSuffix (value count : Nat) : Ipv6FieldEngineSuffix :=
  let (size, initValue) := ipv6NumberSizeAndInit value count
  ⟨initValue, initValue + count - 1, size⟩

/-! ## Pieces -/

theorem mem_intercalate {c x : Nat} {pieces : List Str} (h : x ∈ [c].intercalate pieces) :
    x = c ∨ ∃ piece ∈ pieces, x ∈ piece := by
  induction pieces with
  | nil => cases h
  | cons piece pieces ih =>
      cases pieces with
      | nil =>
          rw [List.intercalate_singleton] at h
          exact Or.inr ⟨piece, List.mem_cons_self, h⟩
      | cons next pieces =>
          rw [List.intercalate_cons_cons] at h
          rcases List.mem_append.mp h with h | h
          · rcases List.mem_append.mp h with h | h
            · exact Or.inr ⟨piece, List.mem_cons_self, h⟩
            · exact Or.inl (List.mem_singleton.mp h)
          · rcases ih h with h | ⟨other, hother, h⟩
            · exact Or.inl h
            · exact Or.inr ⟨other, List.mem_cons_of_mem piece hother, h⟩

theorem exists_piece {s : Str} {x : Nat} (hx : x ∈ s) (hcolon : x ≠ colon) :
    ∃ piece ∈ s.splitOn colon, x ∈ piece := by
  have hjoin : [colon].intercalate (s.splitOn colon) = s := List.intercalate_splitOn colon
  rw [← hjoin] at hx
  exact (mem_intercalate hx).resolve_left hcolon

theorem mem_of_piece {s piece : Str} {x : Nat} (hpiece : piece ∈ s.splitOn colon) (hx : x ∈ piece) :
    x ∈ s := by
  have h : ∀ pieces : List Str, piece ∈ pieces → x ∈ [colon].intercalate pieces := by
    intro pieces
    induction pieces with
    | nil => exact fun h => absurd h List.not_mem_nil
    | cons first pieces ih =>
        intro hmem
        cases pieces with
        | nil =>
            rw [List.intercalate_singleton, ← List.mem_singleton.mp hmem]
            exact hx
        | cons next pieces =>
            rw [List.intercalate_cons_cons]
            rcases List.mem_cons.mp hmem with rfl | hmem
            · exact List.mem_append_left _ (List.mem_append_left _ hx)
            · exact List.mem_append_right _ (ih hmem)
  have hs := h _ hpiece
  rwa [List.intercalate_splitOn] at hs

theorem isHextet_hexText {n : Nat} (h : n < 65536) : IsHextet (hexText n) := by
  obtain ⟨hdigits, hlength⟩ := hexTextLoop_spec (n + 1) n 3 (by omega)
  exact ⟨hexText_ne_nil n, hlength, hdigits⟩

theorem jsParseInt_hextet {s : Str} (h : IsHextet s) :
    jsParseInt 16 s = some (valueOf 16 s : Int) ∧ InRange 0xFFFF (jsParseInt 16 s)
      ∧ partNumber (jsParseInt 16 s) = valueOf 16 s := by
  obtain ⟨hne, hlength, hdigits⟩ := h
  have hread := jsParseInt_digits hne hdigits
  have hlt := valueOf_lt s hdigits
  have hpow : 16 ^ s.length ≤ 16 ^ 4 := Nat.pow_le_pow_right (by decide) hlength
  refine ⟨hread, ⟨_, hread, by omega, by omega⟩, ?_⟩
  rw [hread]
  rfl

/-- Pieces that are read are groups, if they have no characters that Python does not take. -/
theorem hextets_of_read {parts : List Str} (hparts : ∀ part ∈ parts, part = [] ∨ IsHextet part)
    (hread : ∀ number ∈ parts.map (jsParseInt 16), InRange 0xFFFF number) :
    ∀ part ∈ parts, IsHextet part := by
  intro part hpart
  rcases hparts part hpart with rfl | h
  · obtain ⟨n, hn, -⟩ := hread _ (List.mem_map_of_mem hpart)
    cases hn
  · exact h

def groups (s : Str) : List Str := if s.length = 0 then [] else s.splitOn colon

theorem parseHextets_eq (s : Str) : parseHextets s = (groups s).map (jsParseInt 16) := by
  rw [parseHextets, groups]
  split <;> rfl

theorem orEmpty_groups (s : Str) : orEmpty (groups s) = s.splitOn colon := by
  rw [groups]
  split
  · rename_i h
    rw [List.length_eq_zero_iff.mp h]
    rfl
  · exact orEmpty_cons (List.splitOn_ne_nil colon s)

theorem groups_subset (s : Str) : groups s ⊆ s.splitOn colon := by
  rw [groups]
  split
  · exact List.nil_subset _
  · exact List.Subset.refl _

theorem foldl_partNumber (parts : List Str) (hparts : ∀ part ∈ parts, IsHextet part) (start : Nat) :
    (parts.map (jsParseInt 16)).foldl (fun result part => result <<< 16 ||| partNumber part) start
      = foldHextets start (parts.map (valueOf 16)) := by
  rw [foldHextets, List.foldl_map, List.foldl_map]
  induction parts generalizing start with
  | nil => rfl
  | cons part parts ih =>
      rw [List.foldl_cons, List.foldl_cons, (jsParseInt_hextet (hparts part List.mem_cons_self)).2.2]
      exact ih (fun p hp => hparts p (List.mem_cons_of_mem part hp)) _

theorem foldl_zeros (n start : Nat) :
    (List.replicate n (some (0 : Int))).foldl (fun result part => result <<< 16 ||| partNumber part) start
      = foldHextets start (List.replicate n 0) := by
  induction n generalizing start with
  | zero => rfl
  | succ n ih =>
      rw [List.replicate_succ, List.foldl_cons, ih, List.replicate_succ]
      rfl

theorem ipInt_of_candidate {candidate : Str} {v : Nat}
    (hparts : ∀ part ∈ candidate.splitOn colon, part = [] ∨ IsHextet part)
    (h : candidateNumber candidate = some v) :
    ipIntFromParts (candidate.splitOn colon) = some v
      ∧ ((candidate.splitOn colon).length = 8 ∧ (∀ part ∈ candidate.splitOn colon, IsHextet part)
        ∨ ∃ head tail, candidate.splitOn colon = orEmpty head ++ [] :: orEmpty tail) := by
  obtain ⟨hne, hjoin⟩ := intercalate_splitPair colon candidate
  rw [candidateNumber] at h
  simp only at h
  split at h
  · cases h
  rename_i hshort
  split at h
  · cases h
  rename_i hread
  rw [not_not] at hread
  obtain ⟨first, rest, hpieces⟩ := List.exists_cons_of_ne_nil hne
  rw [hpieces] at hjoin hread h hshort
  cases rest with
  | nil =>
      -- no pair of colons: eight groups
      rw [List.intercalate_singleton] at hjoin
      subst hjoin
      simp only [List.headD_cons, List.length_singleton, List.getD_cons_succ, List.getD_nil] at h hread
      rw [parseHextets_eq] at h hread
      have hgroups : ∀ part ∈ groups first, IsHextet part :=
        hextets_of_read (fun part hpart => hparts part (groups_subset first hpart))
          fun number hnumber => hread number (List.mem_append_left _ hnumber)
      split_ifs at h with height hseven hall
      · omega
      · rw [not_and, not_not] at height
        have hlength := height trivial
        rw [List.length_map] at hlength
        have hnonempty : groups first ≠ [] := by
          intro hnil
          rw [hnil] at hlength
          cases hlength
        have hsame : groups first = first.splitOn colon := by
          rw [← orEmpty_groups, orEmpty_cons hnonempty]
        cases h
        rw [hsame] at hlength hgroups ⊢
        refine ⟨?_, Or.inl ⟨hlength, hgroups⟩⟩
        rw [ipInt_of_eight hlength hgroups, foldl_partNumber _ hgroups]
  | cons second more =>
      cases more with
      | cons third more =>
          rw [List.length_cons, List.length_cons, List.length_cons] at hshort
          omega
      | nil =>
          have hsplit : candidate.splitOn colon
              = orEmpty (groups first) ++ [] :: orEmpty (groups second) := by
            rw [orEmpty_groups, orEmpty_groups, ← hjoin, List.intercalate_cons_cons,
              List.intercalate_singleton, List.append_assoc]
            show (first ++ colon :: (colon :: second)).splitOn colon = _
            rw [List.splitOn_append_cons_self]
            show _ ++ ([] ++ colon :: second).splitOn colon = _
            rw [List.splitOn_append_cons_self, List.splitOn_nil]
            rfl
          simp only [List.headD_cons, List.length_cons, List.length_nil, List.getD_cons_succ,
            List.getD_cons_zero] at h hread
          rw [parseHextets_eq, parseHextets_eq] at h hread
          have hmember : ∀ part ∈ groups first ++ groups second, IsHextet part := by
            refine hextets_of_read ?_ ?_
            · intro part hpart
              refine hparts part ?_
              rw [hsplit, orEmpty_groups, orEmpty_groups]
              rcases List.mem_append.mp hpart with hpart | hpart
              · exact List.mem_append_left _ (groups_subset first hpart)
              · exact List.mem_append_right _ (List.mem_cons_of_mem _ (groups_subset second hpart))
            · intro number hnumber
              rw [List.map_append] at hnumber
              exact hread number hnumber
          have hhead : ∀ part ∈ groups first, IsHextet part := fun part hpart =>
            hmember part (List.mem_append_left _ hpart)
          have htail : ∀ part ∈ groups second, IsHextet part := fun part hpart =>
            hmember part (List.mem_append_right _ hpart)
          have hone : ¬(0 + 1 + 1 = 1 ∧ ((groups first).map (jsParseInt 16)).length ≠ 8) := by
            rintro ⟨htwo, -⟩
            cases htwo
          rw [if_neg hone] at h
          split_ifs at h with hseven height
          · rw [not_and, Nat.not_lt] at hseven
            have hle := hseven trivial
            rw [List.length_map, List.length_map] at hle
            cases h
            rw [hsplit]
            refine ⟨?_, Or.inr ⟨groups first, groups second, rfl⟩⟩
            rw [ipInt_of_skip hhead htail hle, List.foldl_append, List.foldl_append,
              foldl_partNumber _ hhead, foldl_partNumber _ htail, foldl_zeros, List.length_map,
              List.length_map, foldHextets_append, foldHextets_append]

/-! ## Dotted quads -/

theorem point_mem_of_quad {s : Str} (h : IsDottedQuad s) : point ∈ s := by
  by_contra hpoint
  have hfour := h.1
  rw [List.splitOn_eq_singleton hpoint] at hfour
  cases hfour

theorem ipv4Parts_of_quad {s : Str} (h : IsDottedQuad s) :
    ipv4Parts s = (s.splitOn point).map (valueOf 10) := by
  obtain ⟨hfour, hoctets⟩ := h
  have hread : ∀ octet ∈ s.splitOn point, jsParseInt 10 octet = some (valueOf 10 octet : Int) := by
    intro octet hoctet
    obtain ⟨hne, hdigits, -⟩ := hoctets octet hoctet
    exact jsParseInt_digits hne hdigits
  have hrange : ∀ part ∈ (s.splitOn point).map (jsParseInt 10), InRange 255 part := by
    intro part hpart
    obtain ⟨octet, hoctet, rfl⟩ := List.mem_map.mp hpart
    have hle := (hoctets octet hoctet).2.2.2.2
    exact ⟨_, hread octet hoctet, by omega, by omega⟩
  rw [ipv4Parts]
  simp only [List.length_map, hfour, true_and]
  rw [if_pos hrange, List.map_map]
  refine List.map_congr_left ?_
  intro octet hoctet
  rw [Function.comp_apply, hread octet hoctet]
  rfl

theorem quadParts_eq {a b c d : Nat} (ha : a ≤ 255) (hb : b ≤ 255) (hc : c ≤ 255) (hd : d ≤ 255) :
    quadParts (fromOctets [a, b, c, d]) = [hexText (a <<< 8 ||| b), hexText (c <<< 8 ||| d)] := by
  have hpair : ∀ x y, y ≤ 255 → x <<< 8 ||| y = x * 256 + y := by
    intro x y hy
    have hlt : y < 2 ^ 8 := by omega
    rw [← Nat.shiftLeft_add_eq_or_of_lt hlt, Nat.shiftLeft_eq]
  have hmask : ∀ x, x &&& 0xFFFF = x % 65536 := fun x => Nat.and_two_pow_sub_one_eq_mod x 16
  have hnumber : fromOctets [a, b, c, d] = (a * 256 + b) * 65536 + (c * 256 + d) := by
    simp only [fromOctets, List.foldl_cons, List.foldl_nil]
    omega
  rw [quadParts, hmask, hmask, Nat.shiftRight_eq_div_pow, hpair a b hb, hpair c d hd, hnumber]
  have hhigh : ((a * 256 + b) * 65536 + (c * 256 + d)) / 2 ^ 16 % 65536 = a * 256 + b := by omega
  have hlow : ((a * 256 + b) * 65536 + (c * 256 + d)) % 65536 = c * 256 + d := by omega
  rw [hhigh, hlow]

theorem quadParts_hextets (ipv4 : Nat) : ∀ part ∈ quadParts ipv4, IsHextet part := by
  have hmask : ∀ x, x &&& 0xFFFF = x % 65536 := fun x => Nat.and_two_pow_sub_one_eq_mod x 16
  intro part hpart
  simp only [quadParts, List.mem_cons, List.not_mem_nil, or_false, hmask] at hpart
  rcases hpart with rfl | rfl
  · exact isHextet_hexText (Nat.mod_lt _ (by decide))
  · exact isHextet_hexText (Nat.mod_lt _ (by decide))

theorem candidate_of_quad {normalized candidate : Str}
    (hquad : IsDottedQuad ((normalized.splitOn colon).getLastD [])) (hpoint : point ∈ normalized)
    (hparts : ∀ part ∈ (normalized.splitOn colon).dropLast, colon ∉ part)
    (h : ipv6Candidate normalized = some candidate) :
    ∃ ipv4, addressParts (normalized.splitOn colon)
        = some ((normalized.splitOn colon).dropLast ++ quadParts ipv4)
      ∧ candidate.splitOn colon = orEmpty (normalized.splitOn colon).dropLast ++ quadParts ipv4 := by
  have hoctets := hquad
  obtain ⟨hfour, hall⟩ := hoctets
  obtain ⟨a, b, c, d, hsplit⟩ : ∃ a b c d,
      ((normalized.splitOn colon).getLastD []).splitOn point = [a, b, c, d] := by
    match hmatch : ((normalized.splitOn colon).getLastD []).splitOn point, hfour with
    | [a, b, c, d], _ => exact ⟨a, b, c, d, rfl⟩
  rw [hsplit] at hall
  have hle : ∀ octet ∈ [a, b, c, d], valueOf 10 octet ≤ 255 := fun octet hoctet =>
    (hall octet hoctet).2.2.2.2
  have hgroups := quadParts_eq (hle a (by simp)) (hle b (by simp)) (hle c (by simp)) (hle d (by simp))
  refine ⟨fromOctets [valueOf 10 a, valueOf 10 b, valueOf 10 c, valueOf 10 d], ?_, ?_⟩
  · rw [addressParts, if_pos (point_mem_of_quad hquad), ipv4Address_of_quad hquad, hsplit]
    rfl
  · rw [ipv6Candidate, if_pos hpoint] at h
    simp only [ipv4Parts_of_quad hquad, hsplit, List.map_cons, List.map_nil] at h
    split at h
    · cases h
    · rw [Option.some.injEq] at h
      have hhextets := quadParts_hextets
        (fromOctets [valueOf 10 a, valueOf 10 b, valueOf 10 c, valueOf 10 d])
      rw [hgroups] at hhextets ⊢
      have hhigh : colon ∉ hexText (valueOf 10 a <<< 8 ||| valueOf 10 b) :=
        (hhextets _ List.mem_cons_self).not_mem (Or.inr rfl)
      have hlow : colon ∉ hexText (valueOf 10 c <<< 8 ||| valueOf 10 d) :=
        (hhextets _ (List.mem_cons_of_mem _ List.mem_cons_self)).not_mem (Or.inr rfl)
      simp only [List.getD_cons_zero, List.getD_cons_succ] at h
      rw [← h, List.splitOn_append_cons_self, List.splitOn_append_cons_self,
        List.splitOn_eq_singleton hhigh, List.splitOn_eq_singleton hlow]
      congr 1
      by_cases hdrop : (normalized.splitOn colon).dropLast = []
      · rw [hdrop]
        rfl
      · rw [orEmpty_cons hdrop]
        exact List.splitOn_intercalate colon hparts hdrop

/-! ## The two parsers -/

theorem ipInt_of_browser {normalized : Str} {v : Nat} (hwell : WellFormed (normalized.splitOn colon))
    (hne : normalized ≠ []) (h : (ipv6Candidate normalized).bind candidateNumber = some v) :
    ipIntFromString normalized = some v := by
  obtain ⟨hfront, hlast⟩ := hwell
  obtain ⟨candidate, hcandidate, hnumber⟩ := Option.bind_eq_some_iff.mp h
  have hpieces := dropLast_append_getLastD (List.splitOn_ne_nil colon normalized)
  have hfree : ∀ part, part = [] ∨ IsHextet part → ∀ x, x < 48 ∨ x = 58 → x ∉ part := by
    rintro part (rfl | hpart) x hx
    · exact List.not_mem_nil
    · exact hpart.not_mem hx
  have hsmall : point < 48 ∨ point = 58 := Or.inl (by decide)
  by_cases hpoint : point ∈ normalized
  · -- the point stands in the last piece, so that is a quad
    have hinside : point ∈ (normalized.splitOn colon).getLastD [] := by
      obtain ⟨piece, hpiece, hmem⟩ := exists_piece hpoint (by decide)
      rw [← hpieces] at hpiece
      rcases List.mem_append.mp hpiece with hpiece | hpiece
      · exact absurd hmem (hfree piece (hfront piece hpiece) point hsmall)
      · rwa [← List.mem_singleton.mp hpiece]
    have hquad : IsDottedQuad ((normalized.splitOn colon).getLastD []) := by
      rcases hlast with hempty | hhextet | hquad
      · exact absurd hinside (hfree _ (Or.inl hempty) point hsmall)
      · exact absurd hinside (hfree _ (Or.inr hhextet) point hsmall)
      · exact hquad
    obtain ⟨ipv4, haddress, hsplit⟩ := candidate_of_quad hquad hpoint
      (fun part hpart => hfree part (hfront part hpart) colon (Or.inr rfl)) hcandidate
    have hhextets := quadParts_hextets ipv4
    have hmembers : ∀ part ∈ candidate.splitOn colon, part = [] ∨ IsHextet part := by
      intro part hpart
      rw [hsplit] at hpart
      rcases List.mem_append.mp hpart with hpart | hpart
      · rw [orEmpty] at hpart
        split at hpart
        · exact Or.inl (List.mem_singleton.mp hpart)
        · exact hfront part hpart
      · exact Or.inr (hhextets part hpart)
    obtain ⟨hint, hshape⟩ := ipInt_of_candidate hmembers hnumber
    have htwo : 2 ≤ (orEmpty (normalized.splitOn colon).dropLast).length := by
      have hlength : (candidate.splitOn colon).length
          = (orEmpty (normalized.splitOn colon).dropLast).length + 2 := by
        rw [hsplit, List.length_append]
        rfl
      rcases hshape with ⟨height, -⟩ | ⟨head, tail, hskip⟩
      · omega
      · by_contra hshort
        have hpos := List.length_pos_iff.mpr (orEmpty_ne_nil (normalized.splitOn colon).dropLast)
        have hpos' := List.length_pos_iff.mpr (orEmpty_ne_nil head)
        have hpos'' := List.length_pos_iff.mpr (orEmpty_ne_nil tail)
        have hlength' : (candidate.splitOn colon).length
            = (orEmpty head).length + ((orEmpty tail).length + 1) := by
          rw [hskip, List.length_append, List.length_cons]
        have hone : (orEmpty head).length = 1 := by omega
        have hone' : (orEmpty (normalized.splitOn colon).dropLast).length = 1 := by omega
        have hempty : (candidate.splitOn colon).getD 1 [48] = [] := by
          rw [hskip, List.getD_append_right _ _ _ _ (by omega), hone, Nat.sub_self, List.getD_cons_zero]
        rw [hsplit, List.getD_append_right _ _ _ _ (by omega), hone', Nat.sub_self] at hempty
        exact hexText_ne_nil _ hempty
    have hdrop : (normalized.splitOn colon).dropLast ≠ [] := by
      intro hnil
      rw [hnil] at htwo
      exact absurd htwo (by decide)
    rw [orEmpty_cons hdrop] at hsplit htwo
    rw [List.length_dropLast] at htwo
    rw [ipIntFromString, if_neg hne]
    simp only
    rw [if_neg (by omega), haddress, Option.bind_some, ← hsplit]
    exact hint
  · have hsame : candidate = normalized := by
      rw [ipv6Candidate, if_neg hpoint] at hcandidate
      exact (Option.some.inj hcandidate).symm
    subst hsame
    have hinside : point ∉ (candidate.splitOn colon).getLastD [] := by
      intro hmem
      refine hpoint (mem_of_piece ?_ hmem)
      have hmember : (candidate.splitOn colon).getLastD [] ∈ (candidate.splitOn colon).dropLast
          ++ [(candidate.splitOn colon).getLastD []] :=
        List.mem_append_right _ (List.mem_singleton.mpr rfl)
      rwa [hpieces] at hmember
    have hmembers : ∀ part ∈ candidate.splitOn colon, part = [] ∨ IsHextet part := by
      intro part hpart
      rw [← hpieces] at hpart
      rcases List.mem_append.mp hpart with hpart | hpart
      · exact hfront part hpart
      · rw [List.mem_singleton.mp hpart]
        rcases hlast with hempty | hhextet | hquad
        · exact Or.inl hempty
        · exact Or.inr hhextet
        · exact absurd (point_mem_of_quad hquad) hinside
    obtain ⟨hint, hshape⟩ := ipInt_of_candidate hmembers hnumber
    have hthree : ¬(candidate.splitOn colon).length < 3 := by
      rcases hshape with ⟨height, -⟩ | ⟨head, tail, hskip⟩
      · omega
      · have hpos := List.length_pos_iff.mpr (orEmpty_ne_nil head)
        have hpos' := List.length_pos_iff.mpr (orEmpty_ne_nil tail)
        rw [hskip, List.length_append, List.length_cons]
        omega
    rw [ipIntFromString, if_neg hne]
    simp only
    rw [if_neg hthree, addressParts, if_neg hinside, Option.bind_some]
    exact hint

/-! ## Zones and spaces -/

theorem range_of_wellFormed {s : Str} (h : WellFormed (s.splitOn colon)) :
    ∀ c ∈ s, c = 46 ∨ 48 ≤ c ∧ c ≤ 102 := by
  obtain ⟨hfront, hlast⟩ := h
  have hhextet : ∀ part, part = [] ∨ IsHextet part → ∀ c ∈ part, 48 ≤ c ∧ c ≤ 102 := by
    rintro part (rfl | hpart) c hc
    · exact absurd hc List.not_mem_nil
    · have hrange := (hpart.2.2 c hc).range
      omega
  intro c hc
  by_cases hcolon : c = colon
  · right
    rw [hcolon, colon]
    omega
  obtain ⟨piece, hpiece, hmem⟩ := exists_piece hc hcolon
  rw [← dropLast_append_getLastD (List.splitOn_ne_nil colon s)] at hpiece
  rcases List.mem_append.mp hpiece with hpiece | hpiece
  · exact Or.inr (hhextet piece (hfront piece hpiece) c hmem)
  · rw [List.mem_singleton.mp hpiece] at hmem
    rcases hlast with hempty | hgroup | hquad
    · exact Or.inr (hhextet _ (Or.inl hempty) c hmem)
    · exact Or.inr (hhextet _ (Or.inr hgroup) c hmem)
    · by_cases hpoint : c = point
      · exact Or.inl hpoint
      · have hjoin : [point].intercalate (((s.splitOn colon).getLastD []).splitOn point)
            = (s.splitOn colon).getLastD [] := List.intercalate_splitOn point
        rw [← hjoin] at hmem
        obtain ⟨octet, hoctet, hdigit⟩ := (mem_intercalate hmem).resolve_left hpoint
        have hrange := ((hquad.2 octet hoctet).2.1 c hdigit).range
        omega

theorem zoneFree_jsTrim {s : Str} (h : ∀ c ∈ zoneFree s, ¬IsJsSpace c) :
    zoneFree (jsTrim s) = zoneFree s := by
  have hfirst : s.dropWhile (fun c => IsJsSpace c) = s := by
    cases s with
    | nil => rfl
    | cons c rest =>
        refine List.dropWhile_cons_of_neg ?_
        rw [decide_eq_true_eq]
        by_cases hpercent : c = percent
        · rw [hpercent]
          decide
        · refine h c ?_
          rw [zoneFree, List.takeWhile_cons_of_pos (by simpa using hpercent)]
          exact List.mem_cons_self
  have hsplit : s = jsTrim s ++ (s.reverse.takeWhile fun c => IsJsSpace c).reverse := by
    rw [jsTrim, hfirst, List.rdropWhile, ← List.reverse_append, List.takeWhile_append_dropWhile,
      List.reverse_reverse]
  generalize hback : (s.reverse.takeWhile fun c => IsJsSpace c).reverse = back at hsplit
  have hspaces : ∀ c ∈ back, IsJsSpace c := by
    intro c hc
    rw [← hback, List.mem_reverse] at hc
    have himp := List.mem_takeWhile_imp hc
    rwa [decide_eq_true_eq] at himp
  generalize jsTrim s = front at hsplit
  rw [zoneFree, zoneFree, hsplit, List.takeWhile_append]
  split
  · rename_i hall
    -- there is no zone, so nothing was trimmed
    have hfront : front.takeWhile (fun c => c ≠ percent) = front :=
      (List.takeWhile_prefix _).eq_of_length hall
    have hempty : back = [] := by
      apply List.eq_nil_iff_forall_not_mem.mpr
      intro c hc
      have hpercent : ∀ d ∈ back, d ≠ percent := by
        rintro d hd rfl
        exact absurd (hspaces _ hd) (by decide)
      refine h c ?_ (hspaces c hc)
      have hback' : back.takeWhile (fun c => c ≠ percent) = back :=
        List.takeWhile_eq_self_iff.mpr fun d hd => by simpa using hpercent d hd
      rw [zoneFree, hsplit, List.takeWhile_append, if_pos hall, hback']
      exact List.mem_append_right _ hc
    rw [hempty, List.takeWhile_nil, List.append_nil]
    exact hfront
  · rfl

theorem ipv6Address_zoneFree {s : Str} {v : Nat} :
    ipv6Address (zoneFree s) = some v ↔ ipIntFromString (zoneFree s) = some v := by
  have hpercent : ∀ c ∈ zoneFree s, c ≠ percent := fun c hc => by
    have himp := List.mem_takeWhile_imp hc
    simpa using himp
  have hself : (zoneFree s).takeWhile (fun c => c ≠ percent) = zoneFree s :=
    List.takeWhile_eq_self_iff.mpr fun c hc => by simpa using hpercent c hc
  have hscope : splitScopeId (zoneFree s) = some (zoneFree s) := by
    rw [splitScopeId, hself]
    simp only [List.drop_length]
  rw [ipv6Address, hscope, Option.bind_some]
  constructor
  · intro h
    split at h
    · cases h
    · exact h
  · intro h
    have hslash : 47 ∉ zoneFree s := by
      intro hmem
      have hrange := range_of_wellFormed (wellFormed_of_some h) 47 hmem
      omega
    rw [if_neg hslash]
    exact h

/-! ## Agreement -/

def SafeSuffix (value count : Nat) : Prop :=
  (value &&& 0xFFFFFFFF) + count < 4294967296
    ∨ (value &&& 0xFFFFFFFFFFFFFFFF) + count - 1 ≤ maxSafeInteger

instance (value count : Nat) : Decidable (SafeSuffix value count) :=
  inferInstanceAs (Decidable (_ ∨ _))

theorem suffixLoop_eq {value count : Nat} (hcount : 2 ≤ count) :
    suffixLoop value count suffixCandidates
      = if SafeSuffix value count then some (serverSuffix value count) else none := by
  have h8 : value &&& 0xFF = value % 256 := Nat.and_two_pow_sub_one_eq_mod value 8
  have h16 : value &&& 0xFFFF = value % 65536 := Nat.and_two_pow_sub_one_eq_mod value 16
  have h32 : value &&& 0xFFFFFFFF = value % 4294967296 := Nat.and_two_pow_sub_one_eq_mod value 32
  have h64 : value &&& 0xFFFFFFFFFFFFFFFF = value % 18446744073709551616 :=
    Nat.and_two_pow_sub_one_eq_mod value 64
  simp only [suffixCandidates, suffixLoop, serverSuffix, ipv6NumberSizeAndInit, SafeSuffix,
    maxSafeInteger, h8, h16, h32, h64]
  by_cases hone : value % 256 + count < 256
  · rw [if_neg (by omega), if_neg (by omega), if_pos (by omega), if_pos hone]
  rw [if_pos (by omega)]
  by_cases htwo : value % 65536 + count < 65536
  · rw [if_neg (by omega), if_neg (by omega), if_pos (by omega), if_neg hone, if_pos htwo]
  rw [if_pos (by omega)]
  by_cases hfour : value % 4294967296 + count < 4294967296
  · rw [if_neg (by omega), if_neg (by omega), if_pos (by omega), if_neg hone, if_neg htwo,
      if_pos hfour]
  rw [if_pos (by omega), if_neg (by omega)]
  by_cases hsafe : value % 18446744073709551616 + count - 1 ≤ 9007199254740991
  · rw [if_neg (by omega), if_pos (Or.inr hsafe), if_neg hone, if_neg htwo, if_neg hfour]
  · rw [if_pos (by omega), if_neg (by omega)]

/-- A suffix that the browser finds is the server's, for an address of Python's. -/
def SuffixAgrees (address : Str) (count : Nat) : Prop :=
  ∀ suffix, ipv6FieldEngineSuffix address count = some suffix →
    ∃ value, ipv6Address (zoneFree address) = some value ∧ suffix = serverSuffix value count

/-- Browser and server agree on the texts that are well formed, of those that the browser reads. -/
theorem suffix_agrees_iff (address : Str) (count : Nat) (hlow : 2 ≤ count) (hhigh : count ≤ 100000000) :
    SuffixAgrees address count ↔
      ∀ value, ipv6AddressToBigInt address = some value → SafeSuffix value count →
        WellFormed ((zoneFree address).splitOn colon) := by
  have hbounded : max 2 (min 100000000 count) = count := by omega
  have hsuffix : ∀ suffix, ipv6FieldEngineSuffix address count = some suffix ↔
      ∃ value, ipv6AddressToBigInt address = some value ∧ SafeSuffix value count
        ∧ suffix = serverSuffix value count := by
    intro suffix
    simp only [ipv6FieldEngineSuffix, hbounded, Option.bind_eq_some_iff, suffixLoop_eq hlow]
    constructor
    · rintro ⟨value, hvalue, h⟩
      split at h
      · rename_i hsafe
        cases h
        exact ⟨value, hvalue, hsafe, rfl⟩
      · cases h
    · rintro ⟨value, hvalue, hsafe, rfl⟩
      exact ⟨value, hvalue, if_pos hsafe⟩
  constructor
  · intro h value hvalue hsafe
    obtain ⟨other, hother, -⟩ := h _ ((hsuffix _).mpr ⟨value, hvalue, hsafe, rfl⟩)
    exact wellFormed_of_some (ipv6Address_zoneFree.mp hother)
  · intro h suffix hfound
    obtain ⟨value, hvalue, hsafe, rfl⟩ := (hsuffix suffix).mp hfound
    have hwell := h value hvalue hsafe
    have hspaces : ∀ c ∈ zoneFree address, ¬IsJsSpace c := by
      intro c hc hspace
      have hrange := range_of_wellFormed hwell c hc
      rcases hspace with hmem | hmem
      · simp only [List.mem_cons, List.not_mem_nil, or_false] at hmem
        omega
      · omega
    rw [ipv6AddressToBigInt, zoneFree_jsTrim hspaces] at hvalue
    split at hvalue
    · cases hvalue
    · rename_i hne
      exact ⟨value, ipv6Address_zoneFree.mpr (ipInt_of_browser hwell hne hvalue), rfl⟩

theorem suffix_agrees_documentation : SuffixAgrees (text "2001:db8::10") 4 :=
  (suffix_agrees_iff (text "2001:db8::10") 4 (by decide) (by decide)).mpr fun _ _ _ => by decide +kernel

/-- What follows the digits of a group is left out by the browser. -/
theorem suffix_disagrees : ¬SuffixAgrees (text "2001:db8::1zz") 2 := by
  intro h
  obtain ⟨value, hvalue, -⟩ := h ⟨1, 2, 1⟩ (by decide +kernel)
  have hnone : ipv6Address (zoneFree (text "2001:db8::1zz")) = none := by decide +kernel
  rw [hnone] at hvalue
  cases hvalue

end TrexWebui
