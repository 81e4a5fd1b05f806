import TrexWebui.RuntimeState

/-!
# The recorders that the TRex server reports

`capture_state.py`, and the functions of `capture_runtime.py` that read a
capture status. `RawCaptureStatus` is what the SDK may answer; a
`CaptureRecord` is a recorder whose id has been validated. The identity of
a recorder is its ports and its filter: `recordIdentity` has none for a
record whose filter does not say both.

Texts of the SDK are read as ASCII: `isdigit`, `strip` and the separators
of a port list are those of ASCII.
-/

namespace TrexWebui

/-! ## Raw values -/

/-- A recorder id as the SDK may report it. -/
inductive RawCaptureId where
  | flag (b : Bool)
  | number (n : Int)
  | text (s : String)
  | other

inductive RawPortItem where
  | number (n : Int)
  | text (s : String)
  | other

/-- The ports of one direction: a bit mask, a list or a text. -/
inductive RawPorts where
  | mask (n : Int)
  | listing (items : List RawPortItem)
  | text (s : String)
  | other

/-- The `bpf` of a filter; `unset` when it is absent or `None`. -/
inductive RawBpf where
  | unset
  | text (s : String)
  | other

/-- The `filter` of a record: an absent direction is `none`. -/
structure RawCaptureFilter where
  tx : Option RawPorts := none
  rx : Option RawPorts := none
  bpf : RawBpf := .unset

/-- A recorder object; a `filter` that is absent or no object is `none`. -/
structure RawCapture where
  id : Option RawCaptureId := none
  filter : Option RawCaptureFilter := none

/-- The answer of `get_capture_status()`: an entry that is no object is `none`. -/
inductive RawCaptureStatus where
  | object (entries : List (RawCaptureId × Option RawCapture))
  | listing (entries : List (Option RawCapture))
  | other

/-! ## Ports -/

/-- `dedupe_ports` of a list of ports. -/
def dedupePorts (ports : List Port) : List Port := ports.eraseDups

/-- `dedupe_ports` of a list whose items need not be ports. -/
def portsAmong (values : List (Option Int)) : List Port :=
  dedupePorts (values.filterMap fun value =>
    value.bind fun n => if 0 ≤ n then some n.toNat else none)

/-- `text.isdigit()`. -/
def isDigits (s : String) : Bool := s.toList ≠ [] && s.toList.all Char.isDigit

/-- `int(text)` of a text of digits. -/
def digitsValue (s : String) : Nat :=
  s.toList.foldl (fun n c => 10 * n + (c.toNat - 48)) 0

/-- `text.strip()`. -/
def stripped (s : String) : String :=
  String.ofList ((s.toList.dropWhile Char.isWhitespace).reverse.dropWhile
    Char.isWhitespace).reverse

def intOrNone : RawPortItem → Option Int
  | .number n => some n
  | .text s => if isDigits s then some (digitsValue s) else none
  | .other => none

def maskPorts (n : Nat) : List Port := (List.range 64).filter fun index => n.testBit index

/-- `re.split(r"[,\s]+", text)`; the empty pieces are no ports. -/
def portPieces (s : String) : List String :=
  (s.toList.splitOnP fun c => c = ',' || c.isWhitespace).map String.ofList

def capturePortList : RawPorts → List Port
  | .mask n => if 0 ≤ n then maskPorts n.toNat else []
  | .listing items => portsAmong (items.map intOrNone)
  | .text s =>
    let text := stripped s
    if text.isEmpty then []
    else if isDigits text then maskPorts (digitsValue text)
    else portsAmong ((portPieces text).map fun piece => intOrNone (.text piece))
  | .other => []

/-! ## Identities -/

/-- `CaptureIdentity`: sorted sets of ports and a filter. -/
structure CaptureIdentity where
  txPorts : List Port
  rxPorts : List Port
  bpfFilter : String
  deriving DecidableEq, Repr

def CaptureIdentity.create (txPorts rxPorts : List Port) (bpfFilter : String) :
    CaptureIdentity :=
  ⟨sortedSet txPorts, sortedSet rxPorts, bpfFilter⟩

/-- A recorder of the server, with a validated id. -/
structure CaptureRecord where
  id : Nat
  filter : Option RawCaptureFilter := none

/-- `_record_identity`. -/
def CaptureRecord.identity (record : CaptureRecord) : Option CaptureIdentity :=
  match record.filter with
  | none => none
  | some filter =>
    match filter.tx, filter.rx, filter.bpf with
    | some tx, some rx, .unset =>
      some (.create (capturePortList tx) (capturePortList rx) "")
    | some tx, some rx, .text s =>
      some (.create (capturePortList tx) (capturePortList rx) (stripped s))
    | _, _, _ => none

/-! ## Validation -/

/-- `CaptureIdentityError`, `RuntimeStateError`, the `ValidationError` of a record, any
other exception, and the end of the process. -/
inductive CaptureError where
  | identity (message : String)
  | runtimeState (message : String)
  | validation (message : String)
  | runtime (message : String)
  | crashed

/-- `str(exc)`. -/
def CaptureError.message : CaptureError → String
  | .identity message | .runtimeState message | .validation message | .runtime message => message
  | .crashed => ""

/-- Whether `except Exception` catches it. -/
def CaptureError.caught : CaptureError → Bool
  | .crashed => false
  | _ => true

def validatedLiveCaptureId : Option RawCaptureId → Except CaptureError Nat
  | some (.number n) =>
    if 0 ≤ n then .ok n.toNat
    else .error (.identity "TRex capture status contains an invalid recorder id")
  | some (.text s) =>
    if isDigits s ∧ toString (digitsValue s) = s then .ok (digitsValue s)
    else .error (.identity "TRex capture status contains an invalid recorder id")
  | _ => .error (.identity "TRex capture status contains an invalid recorder id")

def keyedRecord (entry : RawCaptureId × Option RawCapture) : Except CaptureError CaptureRecord :=
  match entry.2 with
  | none => .error (.identity "TRex capture status contains a non-object recorder")
  | some capture => do
    let captureId ← validatedLiveCaptureId (some (capture.id.getD entry.1))
    let keyedCaptureId ← validatedLiveCaptureId (some entry.1)
    if captureId ≠ keyedCaptureId then
      throw (.identity "TRex capture status key does not match its recorder id")
    pure ⟨captureId, capture.filter⟩

def listedRecord : Option RawCapture → Except CaptureError CaptureRecord
  | some ⟨some id, filter⟩ => do
    let captureId ← validatedLiveCaptureId (some id)
    pure ⟨captureId, filter⟩
  | _ => .error (.identity "TRex capture status list contains a recorder without an id")

/-- The check of `_records_by_id`. -/
def requireUniqueIds (records : List CaptureRecord) : Except CaptureError Unit :=
  if (records.map (·.id)).Nodup then .ok ()
  else .error (.identity "TRex returned duplicate capture id")

def validatedCaptureStatusRecords (captures : RawCaptureStatus) :
    Except CaptureError (List CaptureRecord) := do
  let records ← match captures with
    | .object entries => entries.mapM keyedRecord
    | .listing entries => entries.mapM listedRecord
    | .other => throw (.identity "TRex capture status response must be an object or list")
  requireUniqueIds records
  pure (records.insertionSort fun a b => a.id ≤ b.id)

/-- One entry of `capture_status_records`, with the id that `_records_by_id` accepts: a
text of digits need not be canonical there, and an absent id is the key. -/
def lenientRecord (key : RawCaptureId) (capture : RawCapture) :
    Except CaptureError CaptureRecord :=
  match capture.id.getD key with
  | .text s =>
    if isDigits s then .ok ⟨digitsValue s, capture.filter⟩
    else .error (.identity "TRex capture status contains an invalid recorder id")
  | id => do pure ⟨← validatedLiveCaptureId (some id), capture.filter⟩

/-- `_records_by_id(capture_status_records(captures))`: entries that are no objects are
skipped, and a status that is neither an object nor a list is empty. -/
def captureStatusRecords (captures : RawCaptureStatus) :
    Except CaptureError (List CaptureRecord) := do
  let records ← match captures with
    | .object entries =>
      (entries.filterMap fun e => e.2.map fun c => (e.1, c)).mapM fun e => lenientRecord e.1 e.2
    | .listing entries =>
      (entries.zipIdx.filterMap fun e => e.1.map fun c => (RawCaptureId.number e.2, c)).mapM
        fun e => lenientRecord e.1 e.2
    | .other => pure []
  requireUniqueIds records
  pure (records.insertionSort fun a b => a.id ≤ b.id)

/-- `records_by_id.get(str(capture_id))`: the text of a pending id is no recorder id. -/
def recordOf (records : List CaptureRecord) : CaptureId → Option CaptureRecord
  | .recorder id => records.find? fun record => record.id = id
  | .pendingStart _ => none

theorem recordOf_some {records : List CaptureRecord} {captureId : CaptureId}
    {record : CaptureRecord} (h : recordOf records captureId = some record) :
    record ∈ records ∧ captureId = .recorder record.id := by
  cases captureId with
  | recorder id =>
      have hid := List.find?_some h
      exact ⟨List.mem_of_find?_eq_some h, by rw [of_decide_eq_true hid]⟩
  | pendingStart id => cases h

end TrexWebui
