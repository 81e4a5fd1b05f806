import TrexWebui.QuickValidationState

/-!
# The keys of the state files

No object in the files of the two stores holds a key twice: the records have
their fields, and the dictionaries have their keys. A strict reader that
refuses repeated keys therefore accepts what the stores write.
-/

namespace TrexWebui

open PyText

/-! ## Values -/

theorem keysDistinct_obj {fields : List (String × Json)} :
    (Json.obj fields).KeysDistinct
      ↔ (fields.map (·.1)).Nodup ∧ ∀ field ∈ fields, field.2.KeysDistinct := by
  rw [Json.KeysDistinct, fieldsDistinct_iff]

@[simp] theorem keysDistinct_arr {α : Type} {f : α → Json} {items : List α} :
    (Json.arr (items.map f)).KeysDistinct ↔ ∀ a ∈ items, (f a).KeysDistinct := by
  rw [Json.KeysDistinct, itemsDistinct_iff, List.forall_mem_map]

@[simp] theorem keysDistinct_optional {α : Type} {f : α → Json} {o : Option α} :
    (optionalJson f o).KeysDistinct ↔ ∀ a ∈ o, (f a).KeysDistinct := by
  cases o with
  | none => simp [optionalJson, Json.KeysDistinct]
  | some a => simp [optionalJson]

@[simp] theorem keysDistinct_null : Json.null.KeysDistinct := trivial
@[simp] theorem keysDistinct_bool (b : Bool) : (Json.bool b).KeysDistinct := trivial
@[simp] theorem keysDistinct_str (s : String) : (Json.str s).KeysDistinct := trivial
@[simp] theorem keysDistinct_nat (n : Nat) : (natJson n).KeysDistinct := trivial
@[simp] theorem keysDistinct_time (t : Time) : (timeJson t).KeysDistinct := trivial
@[simp] theorem keysDistinct_uuid (u : Uuid) : (uuidJson u).KeysDistinct := trivial
@[simp] theorem keysDistinct_sha256 (d : Sha256) : (sha256Json d).KeysDistinct := trivial
@[simp] theorem keysDistinct_decimal (d : Decimal) : (decimalJson d).KeysDistinct := trivial
@[simp] theorem keysDistinct_float (x : Float) : (floatJson x).KeysDistinct := trivial

@[simp] theorem keysDistinct_natList (l : List Nat) : (natListJson l).KeysDistinct := by
  simp [natListJson]

/-! ## Dictionaries -/

theorem toString_nat_injective : Function.Injective fun n : Nat => toString n := by
  intro m n h
  have hdecimal : PyJson.decimal m = PyJson.decimal n := by
    rw [← text_nat, ← text_nat]
    exact congrArg PyStr.text h
  rw [← PyJson.ofDecimal_decimal m, hdecimal, PyJson.ofDecimal_decimal]

theorem nodup_keys_items {κ α : Type} [LinearOrder κ] (d : Dict κ α) :
    (d.items.map (·.1)).Nodup := by
  have hsub : ∀ keys : List κ, ((keys.filterMap fun k => (d.lookup k).map fun v => (k, v)).map
      (·.1)).Sublist keys := by
    intro keys
    induction keys with
    | nil => exact List.Sublist.refl []
    | cons k keys ih =>
        cases hk : d.lookup k with
        | none =>
            rw [List.filterMap_cons_none (by rw [hk]; rfl)]
            exact ih.cons k
        | some v =>
            rw [List.filterMap_cons_some (by rw [hk]; rfl)]
            exact ih.cons_cons k
  exact (hsub _).nodup (nodup_sortedMembers d.keys)

@[simp] theorem keysDistinct_portDict {α : Type} {f : α → Json} {d : Dict Port α} :
    (portDictJson f d).KeysDistinct ↔ ∀ p a, d.lookup p = some a → (f a).KeysDistinct := by
  have hkeys : ((d.items.map fun item => (toString item.1, f item.2)).map (·.1)).Nodup := by
    have hnodup := (nodup_keys_items d).map toString_nat_injective
    rw [List.map_map] at hnodup ⊢
    exact hnodup
  rw [portDictJson, keysDistinct_obj, and_iff_right hkeys, List.forall_mem_map]
  constructor
  · intro h p a hp
    exact h (p, a) (Dict.mem_items.mpr hp)
  · intro h item hitem
    exact h item.1 item.2 (Dict.mem_items.mp hitem)

@[simp] theorem keysDistinct_portStates (d : Dict Port PortState) :
    (portStatesJson d).KeysDistinct := by
  simp [portStatesJson]

@[simp] theorem keysDistinct_tunables (d : Dict String JsonText) :
    (tunablesJson d).KeysDistinct := by
  have hkeys : ((d.items.map fun item => (item.1, Json.raw item.2)).map (·.1)).Nodup := by
    rw [List.map_map]
    exact nodup_keys_items d
  rw [tunablesJson, keysDistinct_obj, and_iff_right hkeys, List.forall_mem_map]
  exact fun item _ => trivial

@[simp] theorem keysDistinct_constantStates (state : String) (ports : Finset Port) :
    (constantStatesJson state ports).KeysDistinct := by
  have hkeys : (((sortedMembers ports).map fun p => (toString p, Json.str state)).map
      (·.1)).Nodup := by
    rw [List.map_map]
    exact (nodup_sortedMembers ports).map toString_nat_injective
  rw [constantStatesJson, keysDistinct_obj, and_iff_right hkeys, List.forall_mem_map]
  exact fun p _ => trivial

/-! ## The runtime state -/

theorem RuntimeConnectionState.keysDistinct (c : RuntimeConnectionState) :
    c.json.KeysDistinct := by
  simp [json, keysDistinct_obj]

theorem RuntimeAuthorityIdentity.keysDistinct (a : RuntimeAuthorityIdentity) :
    a.json.KeysDistinct := by
  simp [json, keysDistinct_obj]

theorem CaptureId.keysDistinct (i : CaptureId) : i.json.KeysDistinct := by
  cases i <;> trivial

theorem CaptureRecorderIdentityState.keysDistinct (r : CaptureRecorderIdentityState) :
    r.json.KeysDistinct := by
  simp [json, keysDistinct_obj]

theorem CaptureLeaseState.keysDistinct (l : CaptureLeaseState) : l.json.KeysDistinct := by
  simp [json, keysDistinct_obj, RuntimeAuthorityIdentity.keysDistinct, CaptureId.keysDistinct,
    CaptureRecorderIdentityState.keysDistinct]

theorem TrafficGroupState.keysDistinct (g : TrafficGroupState) : g.json.KeysDistinct := by
  simp [json, keysDistinct_obj]

theorem TrafficMutationEvidenceState.keysDistinct (e : TrafficMutationEvidenceState) :
    e.json.KeysDistinct := by
  simp [json, keysDistinct_obj]

theorem TrafficCleanupEvidenceState.keysDistinct (e : TrafficCleanupEvidenceState) :
    e.json.KeysDistinct := by
  rw [json, keysDistinct_obj]
  refine ⟨by simp, ?_⟩
  simp only [List.forall_mem_cons]
  exact ⟨by cases e.acquisitionRestored <;> trivial, trivial, trivial,
    keysDistinct_constantStates "stopped" e.finalPorts, by simp, trivial, by simp⟩

theorem TrafficSessionGroupState.keysDistinct (g : TrafficSessionGroupState) :
    g.json.KeysDistinct := by
  simp [json, keysDistinct_obj, TrafficMutationEvidenceState.keysDistinct,
    TrafficCleanupEvidenceState.keysDistinct]

theorem TrafficSessionState.keysDistinct (s : TrafficSessionState) : s.json.KeysDistinct := by
  simp [json, keysDistinct_obj, RuntimeAuthorityIdentity.keysDistinct,
    TrafficMutationEvidenceState.keysDistinct, TrafficSessionGroupState.keysDistinct]

theorem TrafficMutationIntentState.keysDistinct (i : TrafficMutationIntentState) :
    i.json.KeysDistinct := by
  simp [json, keysDistinct_obj, RuntimeAuthorityIdentity.keysDistinct,
    TrafficSessionState.keysDistinct, TrafficSessionGroupState.keysDistinct]

theorem RuntimeStateDocument.keysDistinct (d : RuntimeStateDocument) : d.json.KeysDistinct := by
  simp [json, keysDistinct_obj, CaptureLeaseState.keysDistinct,
    RuntimeConnectionState.keysDistinct, TrafficGroupState.keysDistinct,
    TrafficMutationIntentState.keysDistinct, TrafficSessionState.keysDistinct]

/-! ## The guided validation -/

theorem QuickValidationPortCounters.keysDistinct (c : QuickValidationPortCounters) :
    c.json.KeysDistinct := by
  simp [json, keysDistinct_obj]

theorem QuickValidationPortSample.keysDistinct (s : QuickValidationPortSample) :
    s.json.KeysDistinct := by
  simp [json, keysDistinct_obj]

theorem QuickValidationSample.keysDistinct (s : QuickValidationSample) : s.json.KeysDistinct := by
  simp [json, keysDistinct_obj, QuickValidationPortSample.keysDistinct]

theorem QuickValidationConfigSnapshot.keysDistinct (c : QuickValidationConfigSnapshot) :
    c.json.KeysDistinct := by
  simp [json, keysDistinct_obj]

theorem QuickValidationPlanGroupSnapshot.keysDistinct (g : QuickValidationPlanGroupSnapshot) :
    g.json.KeysDistinct := by
  simp [json, keysDistinct_obj]

theorem QuickValidationPreflightEvidence.keysDistinct (p : QuickValidationPreflightEvidence) :
    p.json.KeysDistinct := by
  simp [json, keysDistinct_obj, QuickValidationPortCounters.keysDistinct]

theorem QuickValidationCleanupEvidence.keysDistinct (c : QuickValidationCleanupEvidence) :
    c.json.KeysDistinct := by
  cases hrestored : c.acquisitionRestored <;> simp [json, keysDistinct_obj, hrestored]

theorem QuickValidationRunState.keysDistinct (r : QuickValidationRunState) :
    r.json.KeysDistinct := by
  simp [json, keysDistinct_obj, QuickValidationConfigSnapshot.keysDistinct,
    QuickValidationPlanGroupSnapshot.keysDistinct, QuickValidationPreflightEvidence.keysDistinct,
    QuickValidationCleanupEvidence.keysDistinct, QuickValidationSample.keysDistinct]

theorem QuickValidationStateDocument.keysDistinct (d : QuickValidationStateDocument) :
    d.json.KeysDistinct := by
  simp [json, keysDistinct_obj, QuickValidationRunState.keysDistinct]

end TrexWebui
