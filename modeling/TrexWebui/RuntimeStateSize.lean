import TrexWebui.RuntimeStateEncoding

/-!
# The size of the runtime state file

Bounds on the bytes of each record, in terms of what varies in it: its
texts, its lists and its numbers. They make the size check of the store
cheap to decide for a document that is far below the limit, since neither
the texts nor the keys have to be written out.
-/

namespace TrexWebui

open PyText

/-! ## Values -/

def stringBound (s : String) : Nat := 6 * s.utf8ByteSize + 2

theorem str_size_le (s : String) : (Json.str s).size ≤ stringBound s := quote_size_le s

/-- A bound for the keys of an object, with their colons and commas. -/
def keysBound (keys : List String) : Nat :=
  2 + (keys.map fun key => stringBound key + 2).sum

theorem obj_size_le {fields : List (String × Json)} {k : Nat} {bounds : List Nat}
    (hkeys : keysBound (fields.map Prod.fst) ≤ k)
    (hvalues : List.Forall₂ (fun field b => field.2.size ≤ b) fields bounds) :
    (Json.obj fields).size ≤ k + bounds.sum := by
  have hfields : fieldsSize fields + fields.length + 2
      ≤ keysBound (fields.map Prod.fst) + bounds.sum := by
    clear hkeys
    unfold keysBound
    induction hvalues with
    | nil => exact Nat.le_refl 2
    | @cons field b rest bounds hvalue _ ih =>
        have hkey := str_size_le field.1
        simp only [Json.size] at hkey
        simp only [fieldsSize, List.map_cons, List.sum_cons, List.length_cons]
        omega
  rw [Json.size]
  omega

def listBound {α : Type} (bound : α → Nat) (items : List α) : Nat :=
  2 + (items.map fun a => bound a + 1).sum

theorem arr_size_le {α : Type} {f : α → Json} {bound : α → Nat}
    (h : ∀ a, (f a).size ≤ bound a) (items : List α) :
    (Json.arr (items.map f)).size ≤ listBound bound items := by
  have hitems : itemsSize (items.map f) + items.length
      ≤ (items.map fun a => bound a + 1).sum := by
    induction items with
    | nil => exact Nat.zero_le _
    | cons a rest ih =>
        have ha := h a
        simp only [itemsSize, List.map_cons, List.sum_cons, List.length_cons]
        omega
  rw [Json.size, List.length_map, listBound]
  omega

def optionalBound {α : Type} (bound : α → Nat) (o : Option α) : Nat :=
  (o.map bound).getD 0 + 4

theorem optional_size_le {α : Type} {f : α → Json} {bound : α → Nat}
    (h : ∀ a, (f a).size ≤ bound a) (o : Option α) :
    (optionalJson f o).size ≤ optionalBound bound o := by
  cases o with
  | none => exact Nat.le_refl 4
  | some a => exact Nat.le_add_right_of_le (h a)

theorem optional_size_const {α : Type} {f : α → Json} {b : Nat} (hb : 4 ≤ b)
    (h : ∀ a, (f a).size ≤ b) (o : Option α) : (optionalJson f o).size ≤ b := by
  cases o with
  | none => exact hb
  | some a => exact h a

theorem nat_size_le (n : Nat) : (natJson n).size ≤ n + 1 := repr_size_le n

theorem bool_size_le (b : Bool) : (Json.bool b).size ≤ 5 := by cases b <;> decide

theorem time_size_le (t : Time) : (timeJson t).size ≤ 164 := by
  have h := quote_size_le (utcText t)
  have htext := utcText_size_le t
  change (quote (utcText t)).utf8ByteSize ≤ 164
  omega

theorem uuid_size_le (u : Uuid) : (uuidJson u).size ≤ 218 := by
  have h := quote_size_le u.text
  have htext : u.text.utf8ByteSize = 36 := uuidText_size u.value
  change (quote u.text).utf8ByteSize ≤ 218
  omega

theorem sha256_size_le (d : Sha256) : (sha256Json d).size ≤ 386 := by
  have h := quote_size_le (sha256Text d.value)
  have htext := sha256Text_size d.value
  change (quote (sha256Text d.value)).utf8ByteSize ≤ 386
  omega

/-! ## Lists and dictionaries of ports -/

def portsBound (ports : List Nat) : Nat := listBound (· + 1) ports

theorem natList_size_le (ports : List Nat) : (natListJson ports).size ≤ portsBound ports :=
  arr_size_le nat_size_le ports

def portKeysBound (ports : List Nat) (value : Nat) : Nat :=
  2 + (ports.map fun p => 6 * p + 10 + value).sum

theorem portKeys_size_le {α : Type} {key : α → Nat} {f : α → Json} {value : Nat}
    (h : ∀ a, (f a).size ≤ value) (items : List α) :
    (Json.obj (items.map fun a => (toString (key a), f a))).size
      ≤ portKeysBound (items.map key) value := by
  have hfields : fieldsSize (items.map fun a => (toString (key a), f a)) + items.length
      ≤ ((items.map key).map fun p => 6 * p + 10 + value).sum := by
    induction items with
    | nil => exact Nat.zero_le _
    | cons a rest ih =>
        have hkey := quote_size_le (toString (key a))
        have hdigits := repr_size_le (key a)
        have hvalue := h a
        simp only [fieldsSize, List.map_cons, List.sum_cons, List.length_cons]
        omega
  rw [Json.size, List.length_map, portKeysBound]
  omega

def portDictBound {α : Type} (d : Dict Port α) (value : Nat) : Nat :=
  portKeysBound (d.items.map Prod.fst) value

theorem portStates_size_le (d : Dict Port PortState) :
    (portStatesJson d).size ≤ portDictBound d 9 :=
  portKeys_size_le (f := fun item : Port × PortState => .str item.2.text)
    (fun item => by cases item.2 <;> decide) d.items

/-! ## Records -/

theorem GroupState.size_le (s : GroupState) : (Json.str s.text).size ≤ 10 := by
  cases s <;> decide

theorem TrafficOperation.size_le (o : TrafficOperation) : (Json.str o.text).size ≤ 10 := by
  cases o <;> decide

theorem TrafficStartSource.size_le (s : TrafficStartSource) : (Json.str s.text).size ≤ 10 := by
  cases s <;> decide

def RuntimeAuthorityIdentity.sizeBound (a : RuntimeAuthorityIdentity) : Nat :=
  500 + [a.asyncPort + 1, 20, 400, stringBound a.host, a.scapyPort + 1, a.syncPort + 1].sum

theorem RuntimeAuthorityIdentity.size_le (a : RuntimeAuthorityIdentity) :
    a.json.size ≤ a.sizeBound := by
  have hsupervisor : (Json.str a.daemonSupervisor.text).size ≤ 20 := by
    cases a.daemonSupervisor <;> decide
  have hgeneration : (Json.str a.generationText).size ≤ 400 := by
    have h := str_size_le a.generationText
    have htext : a.generation.text.utf8ByteSize = 36 := uuidText_size a.generation.value
    have hprefix : ("process:" : String).utf8ByteSize = 8 := by decide
    refine h.trans ?_
    unfold stringBound generationText
    cases a.daemonSupervisor with
    | external => simp only [String.utf8ByteSize_append]; omega
    | systemd => simp only; omega
  refine obj_size_le ?_ (.cons (nat_size_le _) (.cons hsupervisor (.cons hgeneration
    (.cons (str_size_le _) (.cons (nat_size_le _) (.cons (nat_size_le _) .nil))))))
  simp only [List.map_cons, List.map_nil]
  decide

/-- The numbers and the tunables are counted as they are written. -/
def TrafficGroupState.sizeBound (g : TrafficGroupState) : Nat :=
  700 + [5, (decimalJson g.duration).size, 5, stringBound g.id, stringBound g.multiplier,
    stringBound g.name, portsBound g.ports, stringBound g.profilePath, 5, 5,
    (tunablesJson g.tunables).size].sum

theorem TrafficGroupState.size_le (g : TrafficGroupState) : g.json.size ≤ g.sizeBound := by
  refine obj_size_le ?_ (.cons (bool_size_le _) (.cons le_rfl (.cons (bool_size_le _)
    (.cons (str_size_le _) (.cons (str_size_le _) (.cons (str_size_le _)
    (.cons (natList_size_le _) (.cons (str_size_le _) (.cons (bool_size_le _)
    (.cons (bool_size_le _) (.cons le_rfl .nil)))))))))))
  simp only [List.map_cons, List.map_nil]
  decide

def TrafficMutationEvidenceState.sizeBound (e : TrafficMutationEvidenceState) : Nat :=
  1700 + [5, portsBound e.baselineAcquiredPorts, portDictBound e.baselinePortStates 9, 164, 20,
    portDictBound e.desiredPortStates 9, 218, 10, portsBound e.ports, 164, 5].sum

theorem TrafficMutationEvidenceState.size_le (e : TrafficMutationEvidenceState) :
    e.json.size ≤ e.sizeBound := by
  have hmode : (Json.str e.completionMode.text).size ≤ 20 := by
    cases e.completionMode <;> decide
  refine obj_size_le ?_ (.cons (bool_size_le _) (.cons (natList_size_le _)
    (.cons (portStates_size_le _) (.cons (time_size_le _) (.cons hmode
    (.cons (portStates_size_le _) (.cons (uuid_size_le _) (.cons e.operation.size_le
    (.cons (natList_size_le _) (.cons (time_size_le _) (.cons (bool_size_le _) .nil)))))))))))
  simp only [List.map_cons, List.map_nil]
  decide

def TrafficCleanupEvidenceState.sizeBound (c : TrafficCleanupEvidenceState) : Nat :=
  900 + [5, 164, 20, portKeysBound (sortedMembers c.finalPorts) 9, 218, 5].sum

theorem TrafficCleanupEvidenceState.size_le (c : TrafficCleanupEvidenceState) :
    c.json.size ≤ c.sizeBound := by
  have hrestored : (if c.acquisitionRestored then Json.bool true else .null).size ≤ 5 := by
    cases c.acquisitionRestored <;> decide
  have hcompletion : (Json.str c.completion.text).size ≤ 20 := by
    cases c.completion <;> decide
  have hports : (Json.obj ((sortedMembers c.finalPorts).map fun p =>
      (toString p, Json.str "stopped"))).size
        ≤ portKeysBound ((sortedMembers c.finalPorts).map id) 9 :=
    portKeys_size_le (fun _ => by decide) _
  rw [List.map_id] at hports
  refine obj_size_le ?_ (.cons hrestored (.cons (time_size_le _) (.cons hcompletion
    (.cons hports (.cons (optional_size_const (by decide) uuid_size_le _)
    (.cons (bool_size_le _) .nil))))))
  simp only [List.map_cons, List.map_nil]
  decide

def TrafficSessionGroupState.sizeBound (g : TrafficSessionGroupState) : Nat :=
  2600 + [optionalBound (·.sizeBound) g.cleanupEvidence, (decimalJson g.duration).size, 164,
    optionalBound stringBound g.groupId, 164, stringBound g.multiplier,
    optionalBound (· + 1) g.planRevision, portDictBound g.portStates 9, portsBound g.ports,
    stringBound g.profilePath, 386, 218, 10, 5, optionalBound (·.sizeBound) g.startEvidence, 5,
    optionalBound stringBound g.startMultiplier, 5, 5, 164, 10, (tunablesJson g.tunables).size,
    164].sum

theorem TrafficSessionGroupState.size_le (g : TrafficSessionGroupState) :
    g.json.size ≤ g.sizeBound := by
  have htime := fun o => optional_size_const (by decide) time_size_le o
  have hflag := fun o => optional_size_const (by decide) bool_size_le o
  refine obj_size_le ?_
    (.cons (optional_size_le TrafficCleanupEvidenceState.size_le _) (.cons le_rfl
    (.cons (htime _) (.cons (optional_size_le str_size_le _) (.cons (htime _)
    (.cons (str_size_le _) (.cons (optional_size_le nat_size_le _)
    (.cons (portStates_size_le _) (.cons (natList_size_le _) (.cons (str_size_le _)
    (.cons (optional_size_const (by decide) sha256_size_le _)
    (.cons (optional_size_const (by decide) uuid_size_le _)
    (.cons (optional_size_const (by decide) TrafficStartSource.size_le _) (.cons (hflag _)
    (.cons (optional_size_le TrafficMutationEvidenceState.size_le _) (.cons (hflag _)
    (.cons (optional_size_le str_size_le _) (.cons (hflag _) (.cons (hflag _)
    (.cons (htime _) (.cons g.state.size_le (.cons le_rfl (.cons (time_size_le _)
    .nil)))))))))))))))))))))))
  simp only [List.map_cons, List.map_nil]
  decide

def TrafficSessionState.sizeBound (s : TrafficSessionState) : Nat :=
  1300 + [s.authority.sizeBound, listBound (·.sizeBound) s.completedGroups, 164, 4,
    listBound (·.sizeBound) s.groups, 218, listBound (·.sizeBound) s.mutationEvidence,
    optionalBound stringBound s.reconciliation, s.revision + 1, 164, 10, 164].sum

theorem TrafficSessionState.size_le (s : TrafficSessionState) : s.json.size ≤ s.sizeBound := by
  have hversion : (optionalJson (fun _ => natJson 1) s.evidenceVersion).size ≤ 4 :=
    optional_size_const (le_refl 4) (fun _ => by decide) _
  refine obj_size_le ?_
    (.cons s.authority.size_le (.cons (arr_size_le TrafficSessionGroupState.size_le _)
    (.cons (optional_size_const (by decide) time_size_le _) (.cons hversion
    (.cons (arr_size_le TrafficSessionGroupState.size_le _) (.cons (uuid_size_le _)
    (.cons (arr_size_le TrafficMutationEvidenceState.size_le _)
    (.cons (optional_size_le str_size_le _) (.cons (nat_size_le _) (.cons (time_size_le _)
    (.cons s.state.size_le (.cons (time_size_le _) .nil))))))))))))
  simp only [List.map_cons, List.map_nil]
  decide

def TrafficMutationIntentState.sizeBound (i : TrafficMutationIntentState) : Nat :=
  3800 + [i.authority.sizeBound, portsBound i.baselineAcquiredPorts,
    portDictBound i.baselinePortStates 9,
    (optionalJson (portDictJson natListJson) i.baselineStreamIds).size,
    portDictBound i.desiredPortStates 9, 218, 30, 218, 10, 20, portsBound i.ports, 164,
    optionalBound stringBound i.reconciliation, optionalBound (·.sizeBound) i.sessionBefore, 5, 5,
    optionalBound (·.sizeBound) i.startGroup, optionalBound (· + 1) i.startPlanRevision, 386, 10,
    5, 5, 218, 10, optionalBound portsBound i.supersededIntentPorts,
    optionalBound stringBound i.supersededReason, 5, optionalBound stringBound i.updateMultiplier,
    5].sum

theorem TrafficMutationIntentState.size_le (i : TrafficMutationIntentState) :
    i.json.size ≤ i.sizeBound := by
  have hstage : (Json.str i.hardwareStage.text).size ≤ 30 := by
    cases i.hardwareStage <;> decide
  have hphase : (Json.str i.phase.text).size ≤ 20 := by cases i.phase <;> decide
  have huuid := fun o => optional_size_const (by decide) uuid_size_le o
  have hflag := fun o => optional_size_const (by decide) bool_size_le o
  have htext := fun o => optional_size_le str_size_le o
  refine obj_size_le ?_
    (.cons i.authority.size_le (.cons (natList_size_le _) (.cons (portStates_size_le _)
    (.cons le_rfl (.cons (portStates_size_le _) (.cons (huuid _) (.cons hstage
    (.cons (uuid_size_le _) (.cons i.operation.size_le (.cons hphase
    (.cons (natList_size_le _) (.cons (time_size_le _) (.cons (htext _)
    (.cons (optional_size_le TrafficSessionState.size_le _) (.cons (hflag _) (.cons (hflag _)
    (.cons (optional_size_le TrafficSessionGroupState.size_le _)
    (.cons (optional_size_le nat_size_le _)
    (.cons (optional_size_const (by decide) sha256_size_le _)
    (.cons (optional_size_const (by decide) TrafficStartSource.size_le _)
    (.cons (hflag _) (.cons (hflag _) (.cons (huuid _)
    (.cons (optional_size_const (by decide) TrafficOperation.size_le _)
    (.cons (optional_size_le natList_size_le _) (.cons (htext _) (.cons (hflag _)
    (.cons (htext _) (.cons (hflag _) .nil)))))))))))))))))))))))))))))
  simp only [List.map_cons, List.map_nil]
  decide

/-- Capture leases and the connection are counted as they are written. -/
def RuntimeStateDocument.sizeBound (d : RuntimeStateDocument) : Nat :=
  1100 + [listBound (·.json.size) d.captureLeases, (optionalJson (·.json) d.connection).size,
    d.revision + 1, listBound (·.sizeBound) d.trafficGroups,
    optionalBound (·.sizeBound) d.trafficMutationIntent, d.trafficPlanRevision + 1,
    optionalBound (·.sizeBound) d.trafficSession, 164, 3].sum

theorem RuntimeStateDocument.size_le (d : RuntimeStateDocument) :
    d.json.size ≤ d.sizeBound := by
  refine obj_size_le ?_
    (.cons (arr_size_le (fun _ => le_rfl) _) (.cons le_rfl (.cons (nat_size_le _)
    (.cons (arr_size_le TrafficGroupState.size_le _)
    (.cons (optional_size_le TrafficMutationIntentState.size_le _) (.cons (nat_size_le _)
    (.cons (optional_size_le TrafficSessionState.size_le _)
    (.cons (optional_size_const (by decide) time_size_le _)
    (.cons (nat_size_le 2) .nil)))))))))
  simp only [List.map_cons, List.map_nil]
  decide

/-- The bound is tried first; the text is measured only when it does not settle the
question. -/
instance decidableFits (d : RuntimeStateDocument) : Decidable d.Fits :=
  if h : d.sizeBound + 1 ≤ RUNTIME_STATE_MAX_BYTES then
    isTrue ((Nat.succ_le_succ d.size_le).trans h)
  else inferInstanceAs (Decidable (d.encodedSize ≤ RUNTIME_STATE_MAX_BYTES))

end TrexWebui
