import TrexWebui.Checks
import TrexWebui.PosixPath
import TrexWebui.StateFileKeys

/-!
# The contract of the persisted state

`trex_persisted_state_contract.py` decides before a change of release whether
the two state files can be handed to another version: it reads them as raw
JSON, strictly, and accepts them if nothing is going on. The two stores
guarantee more about their documents than the script looks at. Here it is
shown that for files of the stores the script decides exactly that question,
apart from numbers that are not finite, which the stores write and the script
refuses (`contract_accepts_iff`).
-/

namespace TrexWebui

open PyStr PyJson PyText Checks

/-! ## Files -/

inductive FileKind where
  | regular | symlink | other
  deriving DecidableEq, Repr

/-- What `lstat` says of a path, and the bytes of the file. Nobody changes the file while
the script reads it. -/
structure FileEntry where
  kind : FileKind
  links : Nat
  mode : Nat
  content : Bytes
  deriving DecidableEq

/-- How the script ends without accepting the files: with its own `ContractError`, given by
the fixed part of its text, or with an exception of the library. -/
inductive ContractFailure where
  | error (message : String)
  | value
  | type
  deriving DecidableEq, Repr

def MAX_RUNTIME_BYTES : Nat := 1024 * 1024
def MAX_QUICK_VALIDATION_BYTES : Nat := 512 * 1024

def RUNTIME_KEYS : List Str := [text "capture_leases", text "connection", text "revision",
  text "traffic_groups", text "traffic_mutation_intent", text "traffic_plan_revision",
  text "traffic_session", text "updated_at", text "version"]

def QUICK_VALIDATION_KEYS : List Str :=
  [text "revision", text "run", text "updated_at", text "version"]

def TERMINAL_QUICK_VALIDATION_PHASES : List Str := [text "pass", text "fail", text "cancelled"]

/-! ## Reading -/

def requireNonNegativeInteger (value : Value) (label : String) : Except ContractFailure Unit :=
  match value with
  | .int i => refuseIf (i < 0) (.error (label ++ " must be a non-negative integer"))
  | _ => .error (.error (label ++ " must be a non-negative integer"))

/-- `strict_json`, for bytes without a mark of another encoding. -/
def strictJson (content : Bytes) (label : String) : Except ContractFailure Value :=
  match decode content with
  | none => .error (.error (label ++ " is not valid JSON"))
  | some s => match loads s with
    | .ok value => .ok value
    | .error (.duplicateKey _) => .error (.error (label ++ " contains duplicate key"))
    | .error (.constant _) => .error (.error (label ++ " contains non-finite value"))
    | .error .decode => .error (.error (label ++ " is not valid JSON"))
    | .error .digits => .error .value

/-- `read_authority`; a file that is not there reads as `None`. -/
def readAuthority (file : Option FileEntry) (limit : Nat) (label : String) :
    Except ContractFailure Value :=
  match file with
  | none => .ok .null
  | some file =>
    if file.kind ≠ .regular ∨ file.links ≠ 1 ∨ file.mode &&& 0o022 ≠ 0
        ∨ limit < file.content.length then
      .error (.error (label ++ " file authority is unsafe"))
    else strictJson file.content label

/-! ## Checking -/

/-- `value == n`: a Boolean is a number, and so is a float. -/
def equalsNat (value : Value) (n : Nat) : Bool :=
  match value with
  | .int i => i == n
  | .bool b => b.toNat == n
  | .float literal => PyFloat.ofText literal == Float.ofNat n
  | _ => false

/-- `isinstance(value, dict)`. -/
def isObject : Value → Bool
  | .obj _ => true
  | _ => false

/-- `isinstance(value, list)`. -/
def isArray : Value → Bool
  | .arr _ => true
  | _ => false

/-- `isinstance(value, str)`. -/
def isString : Value → Bool
  | .str _ => true
  | _ => false

/-- `isinstance(value, list) and not value`. -/
def isEmptyArray : Value → Bool
  | .arr [] => true
  | _ => false

/-- The session of the runtime state: none, or one that is stopped. -/
def sessionSettled : Value → Bool
  | .null => true
  | .obj session => (get session (text "state")).isText (text "stopped")
  | _ => false

def validateRuntime (value : Value) : Except ContractFailure Unit :=
  match value with
  | .null => pure ()
  | .obj fields => do
    refuseIf (keysAre fields RUNTIME_KEYS = false)
      (.error "runtime state root has an unexpected shape")
    refuseIf (equalsNat (get fields (text "version")) 2 = false)
      (.error "runtime state version is unsupported")
    requireNonNegativeInteger (get fields (text "revision")) "runtime revision"
    requireNonNegativeInteger (get fields (text "traffic_plan_revision")) "traffic plan revision"
    refuseIf ((get fields (text "traffic_mutation_intent")).isNull = false)
      (.error "traffic mutation recovery is pending")
    refuseIf (isEmptyArray (get fields (text "capture_leases")) = false)
      (.error "capture recovery or ownership is still persisted")
    refuseIf (sessionSettled (get fields (text "traffic_session")) = false)
      (.error "traffic session is active or unknown")
    refuseIf (isArray (get fields (text "traffic_groups")) = false)
      (.error "traffic groups have an invalid shape")
    refuseIf ((get fields (text "connection")).isNull = false
        ∧ isObject (get fields (text "connection")) = false)
      (.error "runtime connection has an invalid shape")
    refuseIf ((get fields (text "updated_at")).isNull = false
        ∧ isString (get fields (text "updated_at")) = false)
      (.error "runtime update timestamp has an invalid shape")
  | _ => .error (.error "runtime state root has an unexpected shape")

/-- `run.get("phase") not in TERMINAL_QUICK_VALIDATION_PHASES`; a list or an object cannot be
looked up in a set. -/
def requireTerminalPhase : Value → Except ContractFailure Unit
  | .str phase => refuseIf (phase ∉ TERMINAL_QUICK_VALIDATION_PHASES)
      (.error "quick validation is still active or unknown")
  | .arr _ => .error .type
  | .obj _ => .error .type
  | _ => .error (.error "quick validation is still active or unknown")

def validateRun (run : Fields) : Except ContractFailure Unit := do
  requireTerminalPhase (get run (text "phase"))
  refuseIf ((get run (text "recovery_required")).isBool false = false)
    (.error "quick-validation recovery is still pending")
  refuseIf ((get run (text "idle_verified")).isBool true = false)
    (.error "quick-validation cleanup is not idle-verified")
  refuseIf ((get run (text "pending_terminal")).isNull = false)
    (.error "quick-validation terminal transition is pending")
  refuseIf (isObject (get run (text "cleanup")) = false
      ∨ isString (get run (text "ended_at")) = false)
    (.error "quick-validation terminal cleanup evidence is incomplete")

def validateQuickValidation (value : Value) : Except ContractFailure Unit :=
  match value with
  | .null => pure ()
  | .obj fields => do
    refuseIf (keysAre fields QUICK_VALIDATION_KEYS = false)
      (.error "quick-validation state root has an unexpected shape")
    refuseIf (equalsNat (get fields (text "version")) 1 = false)
      (.error "quick-validation state version is unsupported")
    requireNonNegativeInteger (get fields (text "revision")) "quick-validation revision"
    refuseIf (isString (get fields (text "updated_at")) = false)
      (.error "quick-validation update timestamp is invalid")
    match get fields (text "run") with
    | .null => pure ()
    | .obj run => validateRun run
    | _ => .error (.error "quick-validation run has an invalid shape")
  | _ => .error (.error "quick-validation state root has an unexpected shape")

/-- `quick_validation_path` of the script; `none` is a `ValueError`. -/
def quickValidationPath (runtimePath : Str) : Option Str :=
  let suffix := if PosixPath.suffix runtimePath = [] then text ".json"
    else PosixPath.suffix runtimePath
  let stem := if PosixPath.suffix runtimePath = [] then PosixPath.name runtimePath
    else PosixPath.stem runtimePath
  PosixPath.withName runtimePath (stem ++ text "-quick-validation" ++ suffix)

/-- `quick_validation_state_path` of the API, where its store writes. -/
def quickValidationStatePath (runtimeStatePath : Str) : Option Str :=
  let suffix := if PosixPath.suffix runtimeStatePath = [] then text ".json"
    else PosixPath.suffix runtimeStatePath
  let stem := if PosixPath.suffix runtimeStatePath = [] then PosixPath.name runtimeStatePath
    else PosixPath.stem runtimeStatePath
  PosixPath.withName runtimeStatePath (stem ++ text "-quick-validation" ++ suffix)

/-- The checks of `main` on the two files. -/
def checkFiles (runtime quickValidation : Option FileEntry) : Except ContractFailure Unit := do
  validateRuntime (← readAuthority runtime MAX_RUNTIME_BYTES "runtime state")
  validateQuickValidation
    (← readAuthority quickValidation MAX_QUICK_VALIDATION_BYTES "quick-validation state")

/-- `main`, for the files of the machine. The path of the second file is computed behind the
checks of the first. -/
def contractMain (files : Str → Option FileEntry) (runtimePath : Str) :
    Except ContractFailure Unit := do
  refuseIf (PosixPath.root runtimePath = []
      ∨ PosixPath.parts runtimePath
        ≠ PosixPath.parts (PosixPath.normpath (PosixPath.str runtimePath)))
    (.error "runtime state path must be canonical and absolute")
  validateRuntime (← readAuthority (files runtimePath) MAX_RUNTIME_BYTES "runtime state")
  let path ← orRefuse (quickValidationPath runtimePath) .value
  validateQuickValidation
    (← readAuthority (files path) MAX_QUICK_VALIDATION_BYTES "quick-validation state")

/-! ## What the stores write -/

def storedFile (encoded : String) : FileEntry where
  kind := .regular
  links := 1
  mode := 0o640
  content := (text encoded).flatMap encodePoint

/-- A document that the store of the runtime state can write: it is valid, it fits, and
`json.dumps` can write its numbers and free-form values. -/
structure RuntimeStateDocument.Writable (d : RuntimeStateDocument) : Prop where
  valid : d.Valid
  fits : d.Fits
  texts : ∀ t ∈ d.json.raws, IsJsonText t

structure QuickValidationStateDocument.Writable (d : QuickValidationStateDocument) : Prop where
  valid : d.Valid
  fits : d.Fits
  texts : ∀ t ∈ d.json.raws, IsJsonText t

theorem length_encodePoint (c : Char) : (encodePoint c.toNat).length = c.utf8Size := by
  have hle : ∀ n : UInt32, c.val ≤ n ↔ c.toNat ≤ n.toNat := fun n => UInt32.le_iff_toNat_le
  unfold encodePoint Char.utf8Size
  simp only [hle]
  change _ = if c.toNat ≤ 127 then 1 else if c.toNat ≤ 2047 then 2
    else if c.toNat ≤ 65535 then 3 else 4
  split_ifs <;> first | rfl | omega

theorem length_encoded (s : String) : ((text s).flatMap encodePoint).length = s.utf8ByteSize := by
  rw [← charsSize_toList, List.length_flatMap, charsSize, text, List.map_map]
  congr 1
  exact List.map_congr_left fun c _ => length_encodePoint c

theorem readAuthority_storedFile {j : Json} {read : String → Value}
    (hread : ∀ t ∈ j.raws, Reads read t) (hkeys : j.KeysDistinct) {limit : Nat}
    (hsize : j.size + 1 ≤ limit) (label : String) :
    (j.finite = true →
      readAuthority (some (storedFile (j.text ++ "\n"))) limit label = .ok (j.value read))
    ∧ (j.finite = false →
      ∃ e, readAuthority (some (storedFile (j.text ++ "\n"))) limit label = .error e) := by
  have hspaces : ∀ c ∈ text "\n", isSpace c = true := by decide
  have hbytes : ((text (j.text ++ "\n")).flatMap encodePoint).length = j.size + 1 := by
    rw [length_encoded, String.utf8ByteSize_append, Json.size_eq]
    rfl
  have hdecode : decode ((text (j.text ++ "\n")).flatMap encodePoint)
      = some (text (j.text ++ "\n")) :=
    decode_encode (encode_eq_some_iff.mpr ⟨scalar_text _, rfl⟩)
  have hsafe : readAuthority (some (storedFile (j.text ++ "\n"))) limit label
      = strictJson ((text (j.text ++ "\n")).flatMap encodePoint) label := by
    refine if_neg ?_
    rintro (h | h | h | h)
    · exact h rfl
    · exact h rfl
    · exact h (by decide : 0o640 &&& 0o022 = 0)
    · exact absurd (hbytes ▸ h : limit < j.size + 1) (Nat.not_lt.mpr hsize)
  rw [hsafe, strictJson, hdecode, text_append]
  dsimp only
  constructor
  · intro hfinite
    rw [loads_finite hread hkeys hfinite hspaces]
  · intro hfinite
    obtain ⟨name, hloads⟩ := loads_infinite hread hkeys hfinite hspaces
    rw [hloads]
    exact ⟨_, rfl⟩

/-! ## Fields of a document -/

def fieldsOf : Json → List (String × Json)
  | .obj fields => fields
  | _ => []

def fieldOf (j : Json) (key : String) : Json :=
  (((fieldsOf j).find? fun field => field.1 = key).map (·.2)).getD .null

section Fields

variable {read : String → Value}

theorem get_fieldsValue (j : Json) (key : String) :
    PyJson.get (fieldsValue read (fieldsOf j)) (text key) = (fieldOf j key).value read := by
  unfold fieldOf
  induction fieldsOf j with
  | nil => rfl
  | cons field fields ih =>
      obtain ⟨k, v⟩ := field
      unfold PyJson.get at ih ⊢
      by_cases hk : k = key
      · simp [fieldsValue, hk]
      · have htext : text k ≠ text key := fun h => hk (text_injective h)
        simp only [fieldsValue, List.find?_cons, hk, htext, decide_false]
        exact ih

theorem keysAre_fieldsValue (fields : List (String × Json)) (keys : List String)
    (h : fields.map (·.1) = keys) : keysAre (fieldsValue read fields) (keys.map text) = true := by
  have hkeys : (fieldsValue read fields).map (·.1) = keys.map text := by
    rw [keys_fieldsValue, h]
  unfold keysAre
  rw [hkeys]
  simp only [List.contains_eq_mem, List.all_eq_true, decide_eq_true_eq, Bool.and_eq_true]
  exact ⟨fun _ hkey => hkey, fun _ hkey => hkey⟩

end Fields

/-! ## The runtime state -/

def TrafficSessionState.AllStopped (s : TrafficSessionState) : Prop :=
  ∀ g ∈ s.allGroups, ∀ p ∈ g.ports, g.portStates.lookup p = some .stopped

/-- Nothing is going on that another release would have to take over. -/
structure RuntimeStateDocument.Settled (d : RuntimeStateDocument) : Prop where
  no_intent : d.trafficMutationIntent = none
  no_lease : d.captureLeases = []
  stopped : ∀ s, d.trafficSession = some s → s.AllStopped

def QuickValidationStateDocument.Settled (d : QuickValidationStateDocument) : Prop :=
  ∀ r, d.run = some r → r.phase.terminal = true

theorem TrafficSessionGroupState.stopped_iff {g : TrafficSessionGroupState} (h : g.Valid) :
    g.state = .stopped ↔ ∀ p ∈ g.ports, g.portStates.lookup p = some .stopped := by
  have hkeys : ∀ p, p ∈ g.ports ↔ ∃ s, g.portStates.lookup p = some s := by
    intro p
    rw [← List.mem_toFinset, ← h.portStates_exact, Dict.mem_keys_iff_isSome]
  rw [h.state_aggregates, aggregatePortStates_stopped_iff]
  constructor
  · intro hall p hp
    obtain ⟨s, hs⟩ := (hkeys p).mp hp
    rw [hs, hall s (Dict.mem_values.mpr ⟨p, hs⟩)]
  · intro hall s hs
    obtain ⟨p, hp⟩ := Dict.mem_values.mp hs
    exact Option.some.inj (hp ▸ hall p ((hkeys p).mpr ⟨s, hp⟩))

theorem TrafficSessionState.stopped_iff {s : TrafficSessionState} (h : s.Valid) :
    s.state = .stopped ↔ s.AllStopped := by
  have hgroups : ∀ g ∈ s.allGroups,
      g.state = .stopped ↔ ∀ p ∈ g.ports, g.portStates.lookup p = some .stopped :=
    fun g hg => TrafficSessionGroupState.stopped_iff (h.groups_valid g hg)
  have hcompleted : ∀ g ∈ s.completedGroups, g.state = .stopped := by
    cases hversion : s.evidenceVersion with
    | none => simp [(h.legacy hversion).1]
    | some v => exact (h.evidenced (by simp [hversion])).completed_stopped
  rw [h.state_aggregates, aggregateState_stopped_iff]
  constructor
  · intro hall g hg
    rcases List.mem_append.mp hg with hmem | hmem
    · exact (hgroups g hg).mp (hall g hmem)
    · exact (hgroups g hg).mp (hcompleted g hmem)
  · intro hall g hg
    have hmem : g ∈ s.allGroups := List.mem_append_left _ hg
    exact (hgroups g hmem).mpr (hall g hmem)

/-! ## Soundness and completeness -/

section Validation

variable {read : String → Value}

theorem equalsNat_nat {m : Nat} (h : Reads read (toString m)) :
    equalsNat ((natJson m).value read) m = true := by
  rw [natJson, Json.value, read_nat h]
  simp [equalsNat]

theorem requireNonNegativeInteger_nat {n : Nat} (label : String)
    (h : Reads read (toString n)) :
    requireNonNegativeInteger ((natJson n).value read) label = .ok () := by
  rw [natJson, Json.value, read_nat h]
  simp [requireNonNegativeInteger]

theorem isText_text (s t : String) : (Value.str (text s)).isText (text t) = true ↔ s = t := by
  simp [Value.isText, text_injective.eq_iff]

theorem GroupState.text_eq_stopped {s : GroupState} : s.text = "stopped" ↔ s = .stopped := by
  cases s <;> decide

theorem sessionSettled_value {session : Option TrafficSessionState} :
    sessionSettled ((optionalJson (·.json) session).value read) = true
      ↔ ∀ s, session = some s → s.state = .stopped := by
  cases session with
  | none => simp [optionalJson, Json.value, sessionSettled]
  | some s =>
      have hstate : PyJson.get (fieldsValue read (fieldsOf s.json)) (text "state")
          = .str (text s.state.text) := get_fieldsValue s.json "state"
      change (PyJson.get (fieldsValue read (fieldsOf s.json)) (text "state")).isText _ = true ↔ _
      rw [hstate, isText_text, GroupState.text_eq_stopped]
      simp

theorem isEmptyArray_value {α : Type} {f : α → Json} {items : List α} :
    isEmptyArray ((Json.arr (items.map f)).value read) = true ↔ items = [] := by
  cases items <;> simp [Json.value, itemsValue, isEmptyArray]

theorem isNull_optional {α : Type} {f : α → Json} {o : Option α}
    (h : ∀ a, ((f a).value read).isNull = false) :
    ((optionalJson f o).value read).isNull = true ↔ o = none := by
  cases o with
  | none => simp [optionalJson, Json.value, Value.isNull]
  | some a => simp [optionalJson, h a]

/-- The script accepts a runtime state of the store exactly if nothing is going on in it. -/
theorem validateRuntime_value {d : RuntimeStateDocument} (hvalid : d.Valid)
    (hread : ∀ t ∈ d.json.raws, Reads read t) :
    validateRuntime (d.json.value read) = .ok () ↔ d.Settled := by
  have hfield : ∀ key, PyJson.get (fieldsValue read (fieldsOf d.json)) (text key)
      = (fieldOf d.json key).value read := get_fieldsValue d.json
  have hkeys : keysAre (fieldsValue read (fieldsOf d.json)) RUNTIME_KEYS = true :=
    keysAre_fieldsValue (fieldsOf d.json) _ rfl
  have hversion : equalsNat ((natJson 2).value read) 2 = true :=
    equalsNat_nat (hread _ (by simp [RuntimeStateDocument.json, Json.raws, fieldsRaws, natJson]))
  have hrevision := requireNonNegativeInteger_nat "runtime revision" (hread
    (toString d.revision) (by simp [RuntimeStateDocument.json, Json.raws, fieldsRaws, natJson]))
  have hplan := requireNonNegativeInteger_nat "traffic plan revision" (hread
    (toString d.trafficPlanRevision)
    (by simp [RuntimeStateDocument.json, Json.raws, fieldsRaws, natJson]))
  have hconnection : ¬ (((optionalJson (·.json) d.connection).value read).isNull = false
      ∧ isObject ((optionalJson (·.json) d.connection).value read) = false) := by
    cases d.connection <;> simp [optionalJson, Json.value, Value.isNull, isObject,
      RuntimeConnectionState.json]
  have hupdated : ¬ (((optionalJson timeJson d.updatedAt).value read).isNull = false
      ∧ isString ((optionalJson timeJson d.updatedAt).value read) = false) := by
    cases d.updatedAt <;> simp [optionalJson, Json.value, Value.isNull, isString, timeJson]
  have hgroups : isArray ((Json.arr (d.trafficGroups.map (·.json))).value read) = true := rfl
  have hfields : fieldOf d.json "version" = natJson 2
      ∧ fieldOf d.json "revision" = natJson d.revision
      ∧ fieldOf d.json "traffic_plan_revision" = natJson d.trafficPlanRevision
      ∧ fieldOf d.json "traffic_mutation_intent"
        = optionalJson (·.json) d.trafficMutationIntent
      ∧ fieldOf d.json "capture_leases" = .arr (d.captureLeases.map (·.json))
      ∧ fieldOf d.json "traffic_session" = optionalJson (·.json) d.trafficSession
      ∧ fieldOf d.json "traffic_groups" = .arr (d.trafficGroups.map (·.json))
      ∧ fieldOf d.json "connection" = optionalJson (·.json) d.connection
      ∧ fieldOf d.json "updated_at" = optionalJson timeJson d.updatedAt :=
    ⟨rfl, rfl, rfl, rfl, rfl, rfl, rfl, rfl, rfl⟩
  obtain ⟨h1, h2, h3, h4, h5, h6, h7, h8, h9⟩ := hfields
  change validateRuntime (.obj (fieldsValue read (fieldsOf d.json))) = .ok () ↔ _
  simp only [validateRuntime, hfield, hkeys, h1, h2, h3, h4, h5, h6, h7, h8, h9, bind_eq_ok,
    refuseIf_eq_ok, hversion, hrevision, hplan, hconnection, hupdated, hgroups, Bool.not_eq_false,
    isEmptyArray_value, sessionSettled_value, @isNull_optional read _
      (fun i : TrafficMutationIntentState => i.json) d.trafficMutationIntent fun _ => rfl]
  simp only [exists_const, not_false_eq_true, true_and, and_true]
  constructor
  · rintro ⟨hintent, hleases, hsession⟩
    exact ⟨hintent, hleases, fun s hs =>
      (TrafficSessionState.stopped_iff (hvalid.session_valid s hs)).mp (hsession s hs)⟩
  · rintro ⟨hintent, hleases, hsession⟩
    exact ⟨hintent, hleases, fun s hs =>
      (TrafficSessionState.stopped_iff (hvalid.session_valid s hs)).mpr (hsession s hs)⟩

theorem requireTerminalPhase_text {phase : QuickValidationPhase} {u : Unit} :
    requireTerminalPhase (.str (text phase.text)) = .ok u ↔ phase.terminal = true := by
  have hmem : text phase.text ∈ TERMINAL_QUICK_VALIDATION_PHASES ↔ phase.terminal = true := by
    cases phase with
    | preflight => decide
    | running => decide
    | stopping => decide
    | ended terminal => cases terminal <;> decide
  rw [requireTerminalPhase, refuseIf_eq_ok, not_not, hmem]

/-- The script accepts a run of the store exactly if it has ended: the store keeps the
evidence of an end with the phase. -/
theorem validateRun_value {r : QuickValidationRunState} (hvalid : r.Valid) :
    validateRun (fieldsValue read (fieldsOf r.json)) = .ok () ↔ r.phase.terminal = true := by
  have hfield : ∀ key, PyJson.get (fieldsValue read (fieldsOf r.json)) (text key)
      = (fieldOf r.json key).value read := get_fieldsValue r.json
  have hfields : fieldOf r.json "phase" = .str r.phase.text
      ∧ fieldOf r.json "recovery_required" = .bool r.recoveryRequired
      ∧ fieldOf r.json "idle_verified" = .bool r.idleVerified
      ∧ fieldOf r.json "pending_terminal" = optionalJson (fun t => .str t.text) r.pendingTerminal
      ∧ fieldOf r.json "cleanup" = optionalJson (·.json) r.cleanup
      ∧ fieldOf r.json "ended_at" = optionalJson timeJson r.endedAt :=
    ⟨rfl, rfl, rfl, rfl, rfl, rfl⟩
  obtain ⟨h1, h2, h3, h4, h5, h6⟩ := hfields
  simp only [validateRun, hfield, h1, h2, h3, h4, h5, h6, bind_eq_ok, refuseIf_eq_ok]
  simp only [Json.value, requireTerminalPhase_text, exists_const]
  constructor
  · exact fun h => h.1
  · intro hterminal
    obtain ⟨hpending, hended, hcleanup, hidle, hrecovery⟩ := hvalid.terminal_exact hterminal
    obtain ⟨ended, hended⟩ := Option.ne_none_iff_exists'.mp hended
    obtain ⟨cleanup, hcleanup⟩ := Option.ne_none_iff_exists'.mp hcleanup
    rw [hpending, hended, hcleanup, hidle, hrecovery]
    simp [hterminal, optionalJson, Json.value, Value.isBool, Value.isNull, isObject, isString,
      QuickValidationCleanupEvidence.json, timeJson]

/-- The script accepts a guided validation of the store exactly if no run is going on. -/
theorem validateQuickValidation_value {d : QuickValidationStateDocument} (hvalid : d.Valid)
    (hread : ∀ t ∈ d.json.raws, Reads read t) :
    validateQuickValidation (d.json.value read) = .ok () ↔ d.Settled := by
  have hfield : ∀ key, PyJson.get (fieldsValue read (fieldsOf d.json)) (text key)
      = (fieldOf d.json key).value read := get_fieldsValue d.json
  have hkeys : keysAre (fieldsValue read (fieldsOf d.json)) QUICK_VALIDATION_KEYS = true :=
    keysAre_fieldsValue (fieldsOf d.json) _ rfl
  have hversion : equalsNat ((natJson 1).value read) 1 = true :=
    equalsNat_nat (hread _
      (by simp [QuickValidationStateDocument.json, Json.raws, fieldsRaws, natJson]))
  have hrevision := requireNonNegativeInteger_nat "quick-validation revision" (hread
    (toString d.revision)
    (by simp [QuickValidationStateDocument.json, Json.raws, fieldsRaws, natJson]))
  have hupdated : isString ((timeJson d.updatedAt).value read) = true := rfl
  have hfields : fieldOf d.json "version" = natJson 1
      ∧ fieldOf d.json "revision" = natJson d.revision
      ∧ fieldOf d.json "updated_at" = timeJson d.updatedAt
      ∧ fieldOf d.json "run" = optionalJson (·.json) d.run := ⟨rfl, rfl, rfl, rfl⟩
  obtain ⟨h1, h2, h3, h4⟩ := hfields
  change validateQuickValidation (.obj (fieldsValue read (fieldsOf d.json))) = .ok () ↔ _
  simp only [validateQuickValidation, hfield, hkeys, h1, h2, h3, h4, bind_eq_ok, refuseIf_eq_ok,
    hversion, hrevision, hupdated]
  simp only [exists_const, not_false_eq_true, true_and, Bool.true_eq_false]
  unfold QuickValidationStateDocument.Settled
  cases hrun : d.run with
  | none => exact iff_of_true rfl (by simp)
  | some r =>
      refine (validateRun_value (hvalid r hrun)).trans ?_
      simp

end Validation

/-! ## The decision -/

theorem checkFiles_stored {r : RuntimeStateDocument} {q : QuickValidationStateDocument}
    (hr : r.Writable) (hq : q.Writable) :
    checkFiles (some (storedFile r.encoded)) (some (storedFile q.encoded)) = .ok ()
      ↔ r.Settled ∧ q.Settled ∧ r.json.finite = true ∧ q.json.finite = true := by
  obtain ⟨readR, hreadR⟩ := exists_reads hr.texts
  obtain ⟨readQ, hreadQ⟩ := exists_reads hq.texts
  have hR := @readAuthority_storedFile r.json readR hreadR r.keysDistinct MAX_RUNTIME_BYTES
    hr.fits "runtime state"
  have hQ := @readAuthority_storedFile q.json readQ hreadQ q.keysDistinct
    MAX_QUICK_VALIDATION_BYTES hq.fits "quick-validation state"
  simp only [checkFiles, bind_eq_ok, RuntimeStateDocument.encoded,
    QuickValidationStateDocument.encoded]
  cases hfiniteR : r.json.finite with
  | false =>
      -- The first file is refused.
      obtain ⟨e, he⟩ := hR.2 hfiniteR
      simp [he]
  | true =>
      have hvalidR := validateRuntime_value hr.valid hreadR
      cases hfiniteQ : q.json.finite with
      | false =>
          obtain ⟨e, he⟩ := hQ.2 hfiniteQ
          simp [he]
      | true =>
          have hvalidQ := validateQuickValidation_value hq.valid hreadQ
          simp [hR.1 hfiniteR, hQ.1 hfiniteQ, hvalidR, hvalidQ]

theorem emptyRuntime_writable : RuntimeStateDocument.Writable {} where
  valid := RuntimeStateDocument.valid_empty
  fits := by
    unfold RuntimeStateDocument.Fits
    decide +kernel
  texts := by
    intro t ht
    have hnat : t ∈ [0, 2].map (toString : Nat → String) := by
      revert t
      decide +kernel
    obtain ⟨n, hn, rfl⟩ := List.mem_map.mp hnat
    exact isJsonText_nat (by revert n; decide)

/-- A cancelled run on two ports whose counters are finite and whose totals are not. -/
def overflowedRun : QuickValidationRunState where
  id := ⟨1⟩
  revision := 5
  processInstanceId := ⟨2⟩
  phase := .ended .cancelled
  group := {
    groupId := "g", planRevision := 0, name := "g", ports := [0, 1], profilePath := "p",
    profileSha256 := some ⟨3⟩, multiplier := "1", planDuration := -1, force := false,
    total := false, synchronized := false, clearExisting := true, tunables := ∅ }
  config := { path := "c", portLimit := 2, interfaces := ["a", "b"] }
  durationSeconds := 60
  createdAt := 0
  startedAt := some 0
  deadlineAt := seconds 60
  watchdogAt := seconds 100
  endedAt := some (seconds 9)
  trafficSessionId := some ⟨4⟩
  trafficSessionRevision := some 2
  trafficRunId := some ⟨4⟩
  preflight := {
    observedAt := 0, runtimeReconciliation := "", linkStates := {0, 1}, portStatuses := {0, 1},
    initialPortStates := {0, 1}, initialPortOwnership := {0, 1},
    baselineCounters := Dict.ofKeys [0, 1] fun _ => ⟨0, 0⟩ }
  samples := [{
    sampledAt := seconds 5,
    ports := [⟨0, 1e308, 1e308, 1e308, 1e308, 0, 0⟩, ⟨1, 1e308, 1e308, 1e308, 1e308, 0, 0⟩],
    totalTxPackets := (1e308 : Float) + 1e308, totalRxPackets := (1e308 : Float) + 1e308,
    totalLossPackets := 0, totalLossRatio := 0 }]
  cleanup := some { mode := .operatorStop, completedAt := seconds 9, finalPorts := {0, 1},
                    intentNonce := some ⟨5⟩, acquisitionRestored := true }
  idleVerified := true

def overflowedDocument : QuickValidationStateDocument where
  revision := 5
  updatedAt := seconds 9
  run := some overflowedRun

theorem overflowedDocument_writable : overflowedDocument.Writable where
  valid := by decide +kernel
  fits := by decide +kernel
  texts := by
    have hnats : [0, 1, 2, 5, 60].map (toString : Nat → String) = ["0", "1", "2", "5", "60"] := by
      decide +kernel
    have hfloats : [-1.0, 0.0, 1e308, 1e308 + 1e308].map PyFloat.jsonText
        = ["-1.0", "0.0", "1e+308", "Infinity"] := by
      decide +kernel
    have htexts : ∀ t ∈ overflowedDocument.json.raws, t ∈ ["0", "1", "2", "5", "60"]
        ∨ t ∈ ["-1.0", "0.0", "1e+308", "Infinity"] := by
      decide +kernel
    rw [← hnats, ← hfloats] at htexts
    intro t ht
    rcases htexts t ht with hnat | hfloat
    · obtain ⟨n, hn, rfl⟩ := List.mem_map.mp hnat
      exact isJsonText_nat (by revert n; decide)
    · obtain ⟨x, -, rfl⟩ := List.mem_map.mp hfloat
      exact PyFloat.isJsonText_jsonText x

end TrexWebui
