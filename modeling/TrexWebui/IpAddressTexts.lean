import Mathlib.Data.List.GetD
import Mathlib.Data.List.Nodup
import TrexWebui.DigitTexts

/-!
# Addresses as Python's `ipaddress` reads them

`IPv6Address` splits its text at the colons. Each piece is a group of one to four
hexadecimal digits; the last may be a dotted quad without leading zeros; one empty
piece, not at an end, stands for the groups that are left out, and a text that
begins or ends with it has an empty piece at that end too.
-/

namespace IpAddressTexts

open PyStr DigitTexts

def colon : Nat := 58

def percent : Nat := 37

def point : Nat := 46

/-! ## Pieces -/

def IsHextet (s : Str) : Prop := s ≠ [] ∧ s.length ≤ 4 ∧ ∀ c ∈ s, IsDigitOf 16 c

instance (s : Str) : Decidable (IsHextet s) := inferInstanceAs (Decidable (_ ∧ _ ∧ _))

theorem IsHextet.not_mem {s : Str} (h : IsHextet s) {x : Nat} (hx : x < 48 ∨ x = 58) : x ∉ s := by
  intro hmem
  have hrange := (h.2.2 x hmem).range
  omega

def parseHextet (s : Str) : Option Nat := if IsHextet s then some (valueOf 16 s) else none

/-- One to three decimal digits without a leading zero, for at most 255. -/
def IsOctet (s : Str) : Prop :=
  s ≠ [] ∧ (∀ c ∈ s, IsDigitOf 10 c) ∧ s.length ≤ 3 ∧ ¬(s ≠ [48] ∧ s.headD 0 = 48)
    ∧ valueOf 10 s ≤ 255

instance (s : Str) : Decidable (IsOctet s) := inferInstanceAs (Decidable (_ ∧ _ ∧ _ ∧ _ ∧ _))

def parseOctet (s : Str) : Option Nat := if IsOctet s then some (valueOf 10 s) else none

def IsDottedQuad (s : Str) : Prop :=
  (s.splitOn point).length = 4 ∧ ∀ octet ∈ s.splitOn point, IsOctet octet

instance (s : Str) : Decidable (IsDottedQuad s) := inferInstanceAs (Decidable (_ ∧ _))

/-- `int.from_bytes(octets, "big")` -/
def fromOctets (octets : List Nat) : Nat := octets.foldl (fun value octet => value * 256 + octet) 0

/-- `int(IPv4Address(text))` -/
def ipv4Address (s : Str) : Option Nat :=
  if s = [] then none
  else
    let octets := s.splitOn point
    if octets.length ≠ 4 then none else (octets.mapM parseOctet).map fromOctets

/-! ## IPv6 -/

/-- `ip_int <<= 16; ip_int |= hextet`, group after group. -/
def foldHextets (start : Nat) (hextets : List Nat) : Nat :=
  hextets.foldl (fun value hextet => value <<< 16 ||| hextet) start

def skipIndices (parts : List Str) : List Nat :=
  (List.range parts.length).filter fun i => 1 ≤ i ∧ i + 1 < parts.length ∧ parts.getD i [] = []

/-- `parts_hi`: how many pieces in front of the empty one are read; an empty first piece must stand
right in front of it. -/
def partsHi (parts : List Str) (skipIndex : Nat) : Option Nat :=
  if parts.headD [] = [] then if skipIndex = 1 then some 0 else none else some skipIndex

/-- `parts_lo`: how many pieces behind the empty one are read. -/
def partsLo (parts : List Str) (skipIndex : Nat) : Option Nat :=
  let behind := parts.length - skipIndex - 1
  if parts.getLastD [] = [] then if behind = 1 then some 0 else none else some behind

/-- `_ip_int_from_string` from the pieces on, a dotted quad replaced. -/
def ipIntFromParts (parts : List Str) : Option Nat :=
  if 9 < parts.length then none
  else
    match skipIndices parts with
    | [] =>
        if parts.length ≠ 8 then none
        else if parts.headD [] = [] ∨ parts.getLastD [] = [] then none
        else (parts.mapM parseHextet).map (foldHextets 0)
    | [skipIndex] => do
        let front ← partsHi parts skipIndex
        let back ← partsLo parts skipIndex
        if 8 < front + back + 1 then none
        else
          let hi ← (parts.take front).mapM parseHextet
          let lo ← (parts.drop (parts.length - back)).mapM parseHextet
          some (foldHextets (foldHextets 0 hi <<< (16 * (8 - (front + back)))) lo)
    | _ => none

/-- `'%x'` of the two halves of an IPv4 address. -/
def quadParts (ipv4 : Nat) : List Str :=
  [hexText ((ipv4 >>> 16) &&& 0xFFFF), hexText (ipv4 &&& 0xFFFF)]

/-- The pieces of a text, a dotted quad at the end replaced by two groups. -/
def addressParts (parts : List Str) : Option (List Str) :=
  if point ∈ parts.getLastD [] then
    (ipv4Address (parts.getLastD [])).map fun ipv4 => parts.dropLast ++ quadParts ipv4
  else some parts

def ipIntFromString (s : Str) : Option Nat :=
  if s = [] then none
  else
    let parts := s.splitOn colon
    if parts.length < 3 then none else (addressParts parts).bind ipIntFromParts

/-- `_split_scope_id`: the text before the first percent sign, behind which is a scope. -/
def splitScopeId (s : Str) : Option Str :=
  let address := s.takeWhile (· ≠ percent)
  match s.drop address.length with
  | [] => some address
  | _ :: scopeId => if scopeId = [] ∨ percent ∈ scopeId then none else some address

/-- `int(IPv6Address(text))`; `none` is an `AddressValueError`. -/
def ipv6Address (s : Str) : Option Nat :=
  if 47 ∈ s then none else (splitScopeId s).bind ipIntFromString

/-! ## What is accepted is well formed -/

/-- A piece that an address can have: the groups are hexadecimal, and a dotted quad is the last. -/
def WellFormed (parts : List Str) : Prop :=
  (∀ part ∈ parts.dropLast, part = [] ∨ IsHextet part)
    ∧ (parts.getLastD [] = [] ∨ IsHextet (parts.getLastD []) ∨ IsDottedQuad (parts.getLastD []))

instance (parts : List Str) : Decidable (WellFormed parts) := inferInstanceAs (Decidable (_ ∧ _))

theorem parseHextet_some {s : Str} {v : Nat} (h : parseHextet s = some v) :
    IsHextet s ∧ v = valueOf 16 s := by
  rw [parseHextet] at h
  split at h
  · rename_i hs
    cases h
    exact ⟨hs, rfl⟩
  · cases h

theorem mapM_parse {f : Str → Option Nat} {P : Str → Prop} {g : Str → Nat}
    (hf : ∀ {s v}, f s = some v → P s ∧ v = g s) {parts : List Str} {values : List Nat}
    (h : parts.mapM f = some values) : (∀ part ∈ parts, P part) ∧ values = parts.map g := by
  induction parts generalizing values with
  | nil =>
      cases h
      exact ⟨fun part hpart => absurd hpart List.not_mem_nil, rfl⟩
  | cons part parts ih =>
      rw [List.mapM_cons] at h
      simp only [Option.bind_eq_bind, Option.bind_eq_some_iff, Option.pure_def, Option.some.injEq] at h
      obtain ⟨value, hvalue, rest, hrest, rfl⟩ := h
      obtain ⟨hpart, hsame⟩ := hf hvalue
      obtain ⟨hall, hvalues⟩ := ih hrest
      refine ⟨?_, by rw [List.map_cons, hsame, hvalues]⟩
      intro other hother
      rcases List.mem_cons.mp hother with rfl | hother
      · exact hpart
      · exact hall other hother

theorem mapM_of_forall {f : Str → Option Nat} {g : Str → Nat} {parts : List Str}
    (h : ∀ part ∈ parts, f part = some (g part)) : parts.mapM f = some (parts.map g) := by
  induction parts with
  | nil => rfl
  | cons part parts ih =>
      rw [List.mapM_cons, h part List.mem_cons_self, ih fun p hp => h p (List.mem_cons_of_mem part hp)]
      rfl

theorem parseOctet_some {s : Str} {v : Nat} (h : parseOctet s = some v) :
    IsOctet s ∧ v = valueOf 10 s := by
  rw [parseOctet] at h
  split at h
  · rename_i hs
    cases h
    exact ⟨hs, rfl⟩
  · cases h

theorem ipv4Address_some {s : Str} {v : Nat} (h : ipv4Address s = some v) :
    IsDottedQuad s ∧ v = fromOctets ((s.splitOn point).map (valueOf 10)) := by
  rw [ipv4Address] at h
  split at h
  · cases h
  · simp only at h
    split at h
    · cases h
    · rename_i hfour
      obtain ⟨octets, hoctets, rfl⟩ := Option.map_eq_some_iff.mp h
      obtain ⟨hall, rfl⟩ := mapM_parse parseOctet_some hoctets
      exact ⟨⟨not_not.mp hfour, hall⟩, rfl⟩

theorem ipv4Address_of_quad {s : Str} (h : IsDottedQuad s) :
    ipv4Address s = some (fromOctets ((s.splitOn point).map (valueOf 10))) := by
  obtain ⟨hfour, hoctets⟩ := h
  have hne : s ≠ [] := by
    rintro rfl
    rw [List.splitOn_nil] at hfour
    cases hfour
  have hmap : (s.splitOn point).mapM parseOctet = some ((s.splitOn point).map (valueOf 10)) :=
    mapM_of_forall fun octet hoctet => if_pos (hoctets octet hoctet)
  rw [ipv4Address, if_neg hne]
  simp only [hfour, ne_eq, not_true_eq_false, if_false, hmap, Option.map_some]

/-! ### The empty pieces -/

theorem mem_skipIndices {parts : List Str} {i : Nat} :
    i ∈ skipIndices parts ↔ 1 ≤ i ∧ i + 1 < parts.length ∧ parts.getD i [] = [] := by
  rw [skipIndices, List.mem_filter, List.mem_range, decide_eq_true_eq]
  constructor
  · exact fun h => h.2
  · exact fun h => ⟨by omega, h⟩

theorem filter_range_single {n i : Nat} {p : Nat → Prop} [DecidablePred p] (hi : i < n)
    (h : ∀ j < n, p j ↔ j = i) : (List.range n).filter (fun j => p j) = [i] := by
  have hsame : (List.range n).filter (fun j => p j) = (List.range n).filter (fun j => j = i) :=
    List.filter_congr fun j hj => by simp only [h j (List.mem_range.mp hj)]
  rw [hsame, List.filter_eq, List.count_eq_one_of_mem List.nodup_range (List.mem_range.mpr hi)]
  rfl

theorem hextets_of_some {parts : List Str} {v : Nat} (h : ipIntFromParts parts = some v) :
    ∀ part ∈ parts, part = [] ∨ IsHextet part := by
  rw [ipIntFromParts] at h
  split at h
  · cases h
  split at h
  · split_ifs at h
    obtain ⟨values, hvalues, -⟩ := Option.map_eq_some_iff.mp h
    exact fun part hpart => Or.inr ((mapM_parse parseHextet_some hvalues).1 part hpart)
  · rename_i skipIndex hskip
    have hmem : skipIndex ∈ skipIndices parts := by
      rw [hskip]
      exact List.mem_singleton.mpr rfl
    obtain ⟨hpos, hinside, hempty⟩ := mem_skipIndices.mp hmem
    simp only [Option.bind_eq_bind, Option.bind_eq_some_iff] at h
    obtain ⟨front, hhi, back, hlo, hrest⟩ := h
    split at hrest
    · cases hrest
    simp only [Option.bind_eq_some_iff] at hrest
    obtain ⟨hi, hhis, lo, hlos, -⟩ := hrest
    have hfront := (mapM_parse parseHextet_some hhis).1
    have hback := (mapM_parse parseHextet_some hlos).1
    -- what is not read is the piece at `skipIndex` or an empty end
    have hhi' : front = skipIndex ∨ front = 0 ∧ skipIndex = 1 ∧ parts.headD [] = [] := by
      rw [partsHi] at hhi
      split_ifs at hhi with hfirst hone
      · cases hhi
        exact Or.inr ⟨rfl, hone, hfirst⟩
      · cases hhi
        exact Or.inl rfl
    have hlo' : back = parts.length - skipIndex - 1
        ∨ back = 0 ∧ parts.length - skipIndex - 1 = 1 ∧ parts.getLastD [] = [] := by
      rw [partsLo] at hlo
      split_ifs at hlo with hlast hone
      · cases hlo
        exact Or.inr ⟨rfl, hone, hlast⟩
      · cases hlo
        exact Or.inl rfl
    intro part hpart
    obtain ⟨j, hj, rfl⟩ := List.mem_iff_getElem.mp hpart
    by_cases hbefore : j < front
    · exact Or.inr (hfront _ (List.mem_take_iff_getElem.mpr ⟨j, by omega, rfl⟩))
    by_cases hbehind : parts.length - back ≤ j
    · refine Or.inr (hback _ (List.mem_drop_iff_getElem.mpr ⟨j - (parts.length - back), by omega, ?_⟩))
      congr 1
      omega
    left
    by_cases hskipped : j = skipIndex
    · subst hskipped
      rwa [List.getD_eq_getElem _ _ hj] at hempty
    · rcases hhi' with hsame | ⟨hzero, hone, hfirst⟩
      · rcases hlo' with hsame' | ⟨hzero', hone', hlast⟩
        · omega
        · have hend : j = parts.length - 1 := by omega
          subst hend
          rw [List.getLastD_eq_getLast?, List.getLast?_eq_getElem?, List.getElem?_eq_getElem hj] at hlast
          exact hlast
      · by_cases hstart : j = 0
        · subst hstart
          rw [List.headD_eq_head?_getD, List.head?_eq_getElem?, List.getElem?_eq_getElem hj] at hfirst
          exact hfirst
        · rcases hlo' with hsame' | ⟨hzero', hone', hlast⟩
          · omega
          · have hend : j = parts.length - 1 := by omega
            subst hend
            rw [List.getLastD_eq_getLast?, List.getLast?_eq_getElem?,
              List.getElem?_eq_getElem hj] at hlast
            exact hlast
  · cases h

theorem dropLast_append_getLastD {parts : List Str} (h : parts ≠ []) :
    parts.dropLast ++ [parts.getLastD []] = parts := by
  rw [List.getLastD_eq_getLast?, List.getLast?_eq_getLast_of_ne_nil h]
  exact List.dropLast_append_getLast h

theorem wellFormed_of_some {s : Str} {v : Nat} (h : ipIntFromString s = some v) :
    WellFormed (s.splitOn colon) := by
  have hne := List.splitOn_ne_nil colon s
  rw [ipIntFromString] at h
  split at h
  · cases h
  simp only at h
  split at h
  · cases h
  obtain ⟨parts, hparts, hsome⟩ := Option.bind_eq_some_iff.mp h
  have hall := hextets_of_some hsome
  rw [addressParts] at hparts
  split at hparts
  · obtain ⟨ipv4, hipv4, rfl⟩ := Option.map_eq_some_iff.mp hparts
    refine ⟨fun part hpart => hall part (List.mem_append_left _ hpart), ?_⟩
    exact Or.inr (Or.inr (ipv4Address_some hipv4).1)
  · cases hparts
    refine ⟨fun part hpart => hall part (List.dropLast_subset _ hpart), ?_⟩
    have hlast : (s.splitOn colon).getLastD [] ∈ s.splitOn colon := by
      have hmem : (s.splitOn colon).getLastD [] ∈ (s.splitOn colon).dropLast
          ++ [(s.splitOn colon).getLastD []] := List.mem_append_right _ (List.mem_singleton.mpr rfl)
      rwa [dropLast_append_getLastD hne] at hmem
    rcases hall _ hlast with hempty | hhextet
    · exact Or.inl hempty
    · exact Or.inr (Or.inl hhextet)

/-! ## What is well formed is accepted -/

theorem parseHextet_of {parts : List Str} (h : ∀ part ∈ parts, IsHextet part) :
    parts.mapM parseHextet = some (parts.map (valueOf 16)) :=
  mapM_of_forall fun part hpart => if_pos (h part hpart)

theorem ipInt_of_eight {parts : List Str} (hlength : parts.length = 8)
    (h : ∀ part ∈ parts, IsHextet part) :
    ipIntFromParts parts = some (foldHextets 0 (parts.map (valueOf 16))) := by
  have hskip : skipIndices parts = [] := by
    apply List.eq_nil_iff_forall_not_mem.mpr
    intro i hi
    obtain ⟨-, hinside, hempty⟩ := mem_skipIndices.mp hi
    rw [List.getD_eq_getElem _ _ (by omega)] at hempty
    exact (h _ (List.getElem_mem _)).1 hempty
  have hends : ¬(parts.headD [] = [] ∨ parts.getLastD [] = []) := by
    rw [List.headD_eq_head?_getD, List.head?_eq_getElem?, List.getElem?_eq_getElem (by omega),
      List.getLastD_eq_getLast?, List.getLast?_eq_getElem?, List.getElem?_eq_getElem (by omega)]
    rintro (hempty | hempty)
    · exact (h _ (List.getElem_mem _)).1 hempty
    · exact (h _ (List.getElem_mem _)).1 hempty
  rw [ipIntFromParts, if_neg (by omega), hskip]
  simp only [hlength, ne_eq, not_true_eq_false, if_false, if_neg hends, parseHextet_of h,
    Option.map_some]

def orEmpty (parts : List Str) : List Str := if parts = [] then [[]] else parts

theorem foldHextets_zeros (start n : Nat) :
    foldHextets start (List.replicate n 0) = start <<< (16 * n) := by
  induction n generalizing start with
  | zero => rfl
  | succ n ih =>
      rw [List.replicate_succ, foldHextets, List.foldl_cons]
      have hstep := ih (start <<< 16 ||| 0)
      rw [foldHextets] at hstep
      rw [hstep, Nat.or_zero, ← Nat.shiftLeft_add, Nat.mul_succ, Nat.add_comm]

theorem foldHextets_append (start : Nat) (xs ys : List Nat) :
    foldHextets start (xs ++ ys) = foldHextets (foldHextets start xs) ys := List.foldl_append

theorem orEmpty_cons {parts : List Str} (h : parts ≠ []) : orEmpty parts = parts := if_neg h

theorem orEmpty_ne_nil (parts : List Str) : orEmpty parts ≠ [] := by
  rw [orEmpty]
  split
  · exact List.cons_ne_nil _ _
  · rename_i h
    exact h

theorem length_orEmpty (parts : List Str) :
    (orEmpty parts).length = parts.length ∨ parts = [] ∧ (orEmpty parts).length = 1 := by
  by_cases h : parts = []
  · subst h
    exact Or.inr ⟨rfl, rfl⟩
  · rw [orEmpty_cons h]
    exact Or.inl rfl

section Skip

variable {head tail : List Str}

/-- The empty piece between the groups is the only one that is not at an end. -/
theorem skipIndices_of_skip (hhead : ∀ part ∈ head, IsHextet part)
    (htail : ∀ part ∈ tail, IsHextet part) :
    skipIndices (orEmpty head ++ [] :: orEmpty tail) = [(orEmpty head).length] := by
  have hlength : (orEmpty head ++ [] :: orEmpty tail).length
      = (orEmpty head).length + (orEmpty tail).length + 1 := by
    rw [List.length_append, List.length_cons, Nat.add_assoc]
  have hpos := List.length_pos_iff.mpr (orEmpty_ne_nil head)
  have hpos' := List.length_pos_iff.mpr (orEmpty_ne_nil tail)
  refine filter_range_single (by omega) ?_
  intro j hj
  rw [hlength] at hj ⊢
  constructor
  · rintro ⟨hone, hinside, hempty⟩
    rcases Nat.lt_trichotomy j (orEmpty head).length with hlt | heq | hgt
    · rw [List.getD_append _ _ _ _ hlt, List.getD_eq_getElem _ _ hlt] at hempty
      have hne : head ≠ [] := by
        rintro rfl
        have hsingle : (orEmpty ([] : List Str)).length = 1 := rfl
        omega
      have hmem := List.getElem_mem hlt
      rw [hempty, orEmpty_cons hne] at hmem
      exact absurd rfl (hhead _ hmem).1
    · exact heq
    · rw [List.getD_append_right _ _ _ _ (le_of_lt hgt)] at hempty
      obtain ⟨k, hk⟩ : ∃ k, j - (orEmpty head).length = k + 1 := ⟨j - (orEmpty head).length - 1, by omega⟩
      rw [hk, List.getD_cons_succ, List.getD_eq_getElem _ _ (by omega)] at hempty
      have hne : tail ≠ [] := by
        rintro rfl
        have hsingle : (orEmpty ([] : List Str)).length = 1 := rfl
        omega
      have hmem := List.getElem_mem (show k < (orEmpty tail).length by omega)
      rw [hempty, orEmpty_cons hne] at hmem
      exact absurd rfl (htail _ hmem).1
  · rintro rfl
    refine ⟨hpos, by omega, ?_⟩
    rw [List.getD_append_right _ _ _ _ (le_refl _), Nat.sub_self, List.getD_cons_zero]

theorem partsHi_of_skip (hhead : ∀ part ∈ head, IsHextet part) :
    partsHi (orEmpty head ++ [] :: orEmpty tail) (orEmpty head).length = some head.length := by
  by_cases h : head = []
  · subst h
    rfl
  · obtain ⟨first, rest, rfl⟩ := List.exists_cons_of_ne_nil h
    rw [partsHi, orEmpty_cons h, List.cons_append, List.headD_cons,
      if_neg (hhead first List.mem_cons_self).1]

theorem partsLo_of_skip (htail : ∀ part ∈ tail, IsHextet part) :
    partsLo (orEmpty head ++ [] :: orEmpty tail) (orEmpty head).length = some tail.length := by
  have hbehind : (orEmpty head ++ [] :: orEmpty tail).length - (orEmpty head).length - 1
      = (orEmpty tail).length := by
    rw [List.length_append, List.length_cons]
    omega
  have hlast : (orEmpty head ++ [] :: orEmpty tail).getLastD [] = (orEmpty tail).getLastD [] := by
    rw [List.getLastD_eq_getLast?, List.getLastD_eq_getLast?, List.getLast?_append,
      List.getLast?_cons, List.getLast?_eq_getLast_of_ne_nil (orEmpty_ne_nil tail)]
    rfl
  rw [partsLo, hbehind, hlast]
  by_cases h : tail = []
  · subst h
    rfl
  · have hne : tail.getLastD [] ≠ [] := by
      rw [List.getLastD_eq_getLast?, List.getLast?_eq_getLast_of_ne_nil h]
      exact (htail _ (List.getLast_mem h)).1
    rw [orEmpty_cons h, if_neg hne]

theorem ipInt_of_skip (hhead : ∀ part ∈ head, IsHextet part) (htail : ∀ part ∈ tail, IsHextet part)
    (hle : head.length + tail.length ≤ 7) :
    ipIntFromParts (orEmpty head ++ [] :: orEmpty tail)
      = some (foldHextets 0 (head.map (valueOf 16)
        ++ (List.replicate (8 - head.length - tail.length) 0 ++ tail.map (valueOf 16)))) := by
  have hlength : (orEmpty head ++ [] :: orEmpty tail).length
      = (orEmpty head).length + (orEmpty tail).length + 1 := by
    rw [List.length_append, List.length_cons, Nat.add_assoc]
  have hshort : ¬9 < (orEmpty head ++ [] :: orEmpty tail).length := by
    have hnil : ([] : List Str).length = 0 := rfl
    rcases length_orEmpty head with h | ⟨rfl, h⟩ <;> rcases length_orEmpty tail with h' | ⟨rfl, h'⟩ <;>
      omega
  have htake : (orEmpty head ++ [] :: orEmpty tail).take head.length = head := by
    by_cases h : head = []
    · subst h
      rfl
    · rw [orEmpty_cons h, List.take_left]
  have hdrop : (orEmpty head ++ [] :: orEmpty tail).drop
      ((orEmpty head ++ [] :: orEmpty tail).length - tail.length) = tail := by
    by_cases h : tail = []
    · subst h
      exact List.drop_of_length_le (by rw [List.length_nil]; omega)
    · have hsplit : orEmpty head ++ [] :: orEmpty tail = (orEmpty head ++ [[]]) ++ tail := by
        rw [orEmpty_cons h, List.append_assoc]
        rfl
      rw [hsplit, List.length_append, Nat.add_sub_cancel, List.drop_left]
  rw [ipIntFromParts, if_neg hshort, skipIndices_of_skip hhead htail]
  simp only [partsHi_of_skip hhead, partsLo_of_skip htail, Option.bind_eq_bind, Option.bind_some,
    htake, hdrop, parseHextet_of hhead, parseHextet_of htail]
  rw [if_neg (by omega), foldHextets_append, foldHextets_append, foldHextets_zeros, Nat.sub_sub]

end Skip

end IpAddressTexts
