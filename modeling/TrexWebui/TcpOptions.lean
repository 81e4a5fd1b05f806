import TrexWebui.StreamLayout

/-!
# TCP options

The loop over the options of a TCP header is written twice, in
`_tcp_options_from_packet` and in `tcp_option_value_offset`. Here it is one walk, and
`optionsOf_tcpOptionsBytes` says what it finds in the options that a stream's
fields describe: each option in its canonical place.
-/

namespace TrexWebui

open PyStr Octets

/-! ## The walk -/

/-- An option with a length octet, and where it starts among the options. -/
structure TcpOption where
  index : Nat
  kind : UInt8
  body : Bytes
  deriving DecidableEq, Repr

def TcpOption.length (option : TcpOption) : Nat := option.body.length + 2

/-- The loop over the options of a header: it stops at an end-of-list octet and at an option that
does not fit, and passes over padding. Every round consumes an octet. -/
def walkTcpOptions : (fuel index : Nat) → Bytes → List TcpOption
  | 0, _, _ => []
  | _ + 1, _, [] => []
  | fuel + 1, index, kind :: rest =>
      if kind = 0 then []
      else if kind = 1 then walkTcpOptions fuel (index + 1) rest
      else match rest with
        | [] => []
        | length :: body =>
            if length.toNat < 2 ∨ body.length + 2 < length.toNat then []
            else
              { index := index, kind := kind, body := body.take (length.toNat - 2) }
                :: walkTcpOptions fuel (index + length.toNat) (body.drop (length.toNat - 2))

def tcpOptionsOf (index : Nat) (options : Bytes) : List TcpOption :=
  walkTcpOptions options.length index options

theorem walkTcpOptions_nil (fuel index : Nat) : walkTcpOptions fuel index [] = [] := by
  cases fuel <;> rfl

theorem walkTcpOptions_succ (fuel index : Nat) {options : Bytes} (h : options.length ≤ fuel) :
    walkTcpOptions (fuel + 1) index options = walkTcpOptions fuel index options := by
  induction fuel generalizing index options with
  | zero =>
      rw [List.length_eq_zero_iff.mp (Nat.le_zero.mp h)]
      rfl
  | succ fuel ih =>
      match options with
      | [] => rfl
      | [kind] => simp [walkTcpOptions, walkTcpOptions_nil]
      | kind :: length :: body =>
          simp only [List.length_cons] at h
          have hnop : (length :: body).length ≤ fuel := by
            rw [List.length_cons]
            omega
          have hdrop : (body.drop (length.toNat - 2)).length ≤ fuel := by
            rw [List.length_drop]
            omega
          rw [walkTcpOptions, walkTcpOptions, ih _ hnop, ih _ hdrop]

theorem walkTcpOptions_eq (fuel index : Nat) {options : Bytes} (h : options.length ≤ fuel) :
    walkTcpOptions fuel index options = tcpOptionsOf index options := by
  induction fuel with
  | zero =>
      rw [List.length_eq_zero_iff.mp (Nat.le_zero.mp h)]
      rfl
  | succ fuel ih =>
      obtain h | h := Nat.lt_or_eq_of_le h
      · rw [walkTcpOptions_succ fuel index (by omega), ih (by omega)]
      · rw [tcpOptionsOf, h]

theorem tcpOptionsOf_nop (index : Nat) (rest : Bytes) :
    tcpOptionsOf index (1 :: rest) = tcpOptionsOf (index + 1) rest := rfl

theorem tcpOptionsOf_option (index : Nat) {kind : UInt8} (hkind : 2 ≤ kind.toNat) {body : Bytes}
    (hbody : body.length < 250) (rest : Bytes) :
    tcpOptionsOf index (kind :: .ofNat (body.length + 2) :: (body ++ rest)) =
      { index := index, kind := kind, body := body }
        :: tcpOptionsOf (index + (body.length + 2)) rest := by
  have hend : kind ≠ 0 := by
    rintro rfl
    simp at hkind
  have hnop : kind ≠ 1 := by
    rintro rfl
    simp at hkind
  have hlength : (UInt8.ofNat (body.length + 2)).toNat = body.length + 2 := by
    rw [toNat_ofNat]
    omega
  have hfits : ¬(body.length + 2 < 2 ∨ (body ++ rest).length + 2 < body.length + 2) := by
    rw [List.length_append]
    omega
  rw [tcpOptionsOf, List.length_cons, walkTcpOptions, if_neg hend, if_neg hnop]
  rw [hlength, if_neg hfits, Nat.add_sub_cancel, List.take_left, List.drop_left]
  congr 1
  apply walkTcpOptions_eq
  rw [List.length_cons, List.length_append]
  omega

theorem tcpOptionsOf_padding (index n : Nat) : tcpOptionsOf index (List.replicate n 0) = [] := by
  cases n <;> rfl

/-! ## Written options -/

/-- An option to be written, behind some octets of padding. -/
structure OptionItem where
  skip : Nat := 0
  kind : UInt8
  body : Bytes
  kind_ge : 2 ≤ kind.toNat := by decide
  length_lt : body.length < 250 := by simp

def OptionItem.bytes (item : OptionItem) : Bytes :=
  List.replicate item.skip 1 ++ item.kind :: .ofNat (item.body.length + 2) :: item.body

def placed : (index : Nat) → List OptionItem → List TcpOption
  | _, [] => []
  | index, item :: rest =>
      { index := index + item.skip, kind := item.kind, body := item.body }
        :: placed (index + item.skip + (item.body.length + 2)) rest

theorem tcpOptionsOf_skip (skip index : Nat) (options : Bytes) :
    tcpOptionsOf index (List.replicate skip 1 ++ options) = tcpOptionsOf (index + skip) options := by
  induction skip generalizing index with
  | zero => rfl
  | succ skip ih =>
      rw [List.replicate_succ, List.cons_append, tcpOptionsOf_nop, ih]
      congr 1
      omega

theorem tcpOptionsOf_items (index n : Nat) (items : List OptionItem) :
    tcpOptionsOf index (items.flatMap OptionItem.bytes ++ List.replicate n 0)
      = placed index items := by
  induction items generalizing index with
  | nil => exact tcpOptionsOf_padding index n
  | cons item rest ih =>
      rw [List.flatMap_cons, OptionItem.bytes, List.append_assoc, List.append_assoc,
        tcpOptionsOf_skip, List.cons_append, List.cons_append,
        tcpOptionsOf_option _ item.kind_ge item.length_lt, ih, placed]

/-! ## The options of a stream -/

namespace LayoutFields

variable (stream : LayoutFields)

/-- `tcp_option_value_offset`, counted from the start of the TCP header. -/
def tcpOptionValueOffset (kind : UInt8) (optionLength valueOffset : Nat) : Option Nat :=
  ((tcpOptionsOf 0 stream.tcpOptionsBytes).find? fun option =>
    option.kind = kind && option.length = optionLength).map fun option =>
      20 + option.index + valueOffset

def tcpOptionMssValueOffset : Option Nat :=
  if stream.tcpOptionMssEnabled then stream.tcpOptionValueOffset 2 4 2 else none

/-- `tcp_option_timestamp_value_offset`, at `valueOffset` 2 for the value and 6 for the echo. -/
def tcpOptionTimestampValueOffset (valueOffset : Nat) : Option Nat :=
  if stream.tcpOptionTimestampEnabled then stream.tcpOptionValueOffset 8 10 valueOffset else none

/-- `tcp_option_sack_value_offset`, at `valueOffset` 2 for the left edge and 6 for the right. -/
def tcpOptionSackValueOffset (valueOffset : Nat) : Option Nat :=
  if stream.tcpOptionSackBlocksEnabled then stream.tcpOptionValueOffset 5 10 valueOffset else none

def tcpOptionWindowScaleValueOffset : Option Nat :=
  if stream.tcpOptionWindowScaleEnabled then stream.tcpOptionValueOffset 3 3 2 else none

/-! ## Canonical places -/

def optionItems : List OptionItem :=
  (if stream.tcpOptionMssEnabled then
    [{ kind := 2, body := be16 stream.tcpOptionMss.toNat }] else [])
    ++ (if stream.tcpOptionSackPermittedEnabled then
      [{ kind := 4, body := [], length_lt := Nat.zero_lt_succ 249 }] else [])
    ++ (if stream.tcpOptionSackBlocksEnabled then
      [{ kind := 5, body :=
          be32 stream.tcpOptionSackLeftEdge.toNat ++ be32 stream.tcpOptionSackRightEdge.toNat }]
      else [])
    ++ (if stream.tcpOptionTimestampEnabled then
      [{ skip := 2, kind := 8, body :=
          be32 stream.tcpOptionTimestampValue.toNat ++ be32 stream.tcpOptionTimestampEcho.toNat }]
      else [])
    ++ (if stream.tcpOptionWindowScaleEnabled then
      [{ skip := 1, kind := 3, body := [stream.tcpOptionWindowScale] }] else [])

theorem tcpOptions_eq : stream.tcpOptions = stream.optionItems.flatMap OptionItem.bytes := by
  simp only [tcpOptions, optionItems, List.flatMap_append]
  congr 1
  · congr 1
    · congr 1
      · congr 1
        · cases stream.tcpOptionMssEnabled <;> rfl
        · cases stream.tcpOptionSackPermittedEnabled <;> rfl
      · cases stream.tcpOptionSackBlocksEnabled <;> rfl
    · cases stream.tcpOptionTimestampEnabled <;> rfl
  · cases stream.tcpOptionWindowScaleEnabled <;> rfl

theorem tcpOptionsOf_tcpOptionsBytes :
    tcpOptionsOf 0 stream.tcpOptionsBytes = placed 0 stream.optionItems := by
  rw [tcpOptionsBytes, padded, tcpOptions_eq, tcpOptionsOf_items]

def sackIndex : Nat :=
  (if stream.tcpOptionMssEnabled then 4 else 0)
    + (if stream.tcpOptionSackPermittedEnabled then 2 else 0)

def timestampIndex : Nat := stream.sackIndex + (if stream.tcpOptionSackBlocksEnabled then 10 else 0) + 2

def windowScaleIndex : Nat :=
  stream.sackIndex + (if stream.tcpOptionSackBlocksEnabled then 10 else 0)
    + (if stream.tcpOptionTimestampEnabled then 12 else 0) + 1

theorem tcpOptionValueOffset_eq (kind : UInt8) (optionLength valueOffset : Nat) :
    stream.tcpOptionValueOffset kind optionLength valueOffset =
      ((placed 0 stream.optionItems).find? fun option =>
        option.kind = kind && option.length = optionLength).map fun option =>
          20 + option.index + valueOffset := by
  rw [tcpOptionValueOffset, tcpOptionsOf_tcpOptionsBytes]

theorem mssValueOffset (h : stream.tcpOptionMssEnabled = true) :
    stream.tcpOptionMssValueOffset = some 22 := by
  rw [tcpOptionMssValueOffset, if_pos h, tcpOptionValueOffset_eq]
  simp [optionItems, h, placed, TcpOption.length]

theorem sackValueOffset (h : stream.tcpOptionSackBlocksEnabled = true) (valueOffset : Nat) :
    stream.tcpOptionSackValueOffset valueOffset = some (20 + stream.sackIndex + valueOffset) := by
  rw [tcpOptionSackValueOffset, if_pos h, tcpOptionValueOffset_eq, sackIndex]
  cases hmss : stream.tcpOptionMssEnabled <;> cases hpermitted : stream.tcpOptionSackPermittedEnabled
    <;> simp [optionItems, h, hmss, hpermitted, placed, TcpOption.length]

theorem timestampValueOffset (h : stream.tcpOptionTimestampEnabled = true) (valueOffset : Nat) :
    stream.tcpOptionTimestampValueOffset valueOffset
      = some (20 + stream.timestampIndex + valueOffset) := by
  rw [tcpOptionTimestampValueOffset, if_pos h, tcpOptionValueOffset_eq, timestampIndex, sackIndex]
  cases hmss : stream.tcpOptionMssEnabled <;> cases hpermitted : stream.tcpOptionSackPermittedEnabled
    <;> cases hsack : stream.tcpOptionSackBlocksEnabled
    <;> simp [optionItems, h, hmss, hpermitted, hsack, placed, TcpOption.length]

theorem windowScaleValueOffset (h : stream.tcpOptionWindowScaleEnabled = true) :
    stream.tcpOptionWindowScaleValueOffset = some (20 + stream.windowScaleIndex + 2) := by
  rw [tcpOptionWindowScaleValueOffset, if_pos h, tcpOptionValueOffset_eq, windowScaleIndex,
    sackIndex]
  cases hmss : stream.tcpOptionMssEnabled <;> cases hpermitted : stream.tcpOptionSackPermittedEnabled
    <;> cases hsack : stream.tcpOptionSackBlocksEnabled
    <;> cases htimestamp : stream.tcpOptionTimestampEnabled
    <;> simp [optionItems, h, hmss, hpermitted, hsack, htimestamp, placed, TcpOption.length]

end LayoutFields

end TrexWebui
