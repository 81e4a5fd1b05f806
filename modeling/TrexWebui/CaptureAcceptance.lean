import TrexWebui.CaptureFrames
import TrexWebui.CaptureRestart

/-!
# Which edits the store accepts

A ledger that is recorded stays so when entries are forgotten, when service
states are dropped, and when ports are released for captures whose service
states are gone, unless a preparing capture is handed a port.
-/

namespace TrexWebui

open OracleProgram

namespace CaptureRuntime

/-! ## What is handed over -/

/-- The port was acquired for a selected capture, and `owner` is the first remaining
capture that uses it. -/
def Handed (r : CaptureRuntime) (selected : List CaptureId) (p : Port) (owner : CaptureId) : Prop :=
  p ∈ r.removedAcquisitions selected ∧ r.portOwner selected p = some owner

/-- The service states of the selected captures have been restored. -/
def ServiceRestored (r : CaptureRuntime) (selected : List CaptureId) : Prop :=
  ∀ id ∈ selected, id ∉ r.serviceStates

/-- No preparing capture is handed a port that its stage does not record as acquired. -/
def PreparingSpared (r : CaptureRuntime) (selected : List CaptureId) : Prop :=
  ∀ p owner, r.Handed selected p owner → owner ∈ r.preparations →
    p ∈ (r.acquiredPorts.lookup owner).getD []

section

variable {r : CaptureRuntime} {selected : List CaptureId} {p : Port} {id : CaptureId}

/-! ## When the store accepts a release -/

theorem recoveryPhase_framed {c : CaptureRuntime} (h : Framed r c id) :
    c.recoveryPhase id = r.recoveryPhase id := by
  have hprep : id ∈ c.preparations ↔ id ∈ r.preparations := by
    rw [← AList.lookup_isSome, ← AList.lookup_isSome, h.preparations]
  have hpend : id ∈ c.pendingBaselines ↔ id ∈ r.pendingBaselines := by
    rw [← AList.lookup_isSome, ← AList.lookup_isSome, h.pendingBaselines]
  unfold recoveryPhase
  simp only [hprep, hpend, h.cleanupRequired]

theorem leaseWith_framed {c : CaptureRuntime} (h : Framed r c id) (identity : CaptureIdentity)
    (authority : RuntimeAuthorityIdentity) :
    c.leaseWith id identity authority = { r.leaseWith id identity authority with
      acquiredPorts := (c.acquiredPorts.lookup id).getD [] } := by
  unfold leaseWith
  rw [recoveryPhase_framed h, h.serviceStates, h.ports, h.pendingBaselines, h.baselineRecorders,
    h.preparations]

theorem valid_acquired {l : CaptureLeaseState} (h : l.Valid) {ports : List Port}
    (hnodup : ports.Nodup) (hwithin : ports.toFinset ⊆ l.ports.toFinset)
    (hpreparing : l.recoveryPhase = .preparing → ports.toFinset = l.acquiredPorts.toFinset) :
    ({ l with acquiredPorts := ports } : CaptureLeaseState).Valid := by
  obtain ⟨hbaseline, hpre, hplanned, hservice, htx, hrx, hports, _⟩ := h.lists_unique
  exact { h with
    lists_unique := ⟨hbaseline, hpre, hplanned, hservice, htx, hrx, hports, hnodup⟩
    acquired_within := hwithin
    preparing := fun hphase => by
      obtain ⟨hstage, hstates, hdisjoint, hall, hplan, hacquired⟩ := h.preparing hphase
      exact ⟨hstage, hstates, hdisjoint, hall, hplan, (hpreparing hphase).trans hacquired⟩ }

theorem managed_of_afterRelease (hid : id ∈ (r.afterRelease selected).managedCaptureIds) :
    id ∈ r.managedCaptureIds ∧ (id ∈ selected → id ∈ r.serviceStates) := by
  have howner : id ∈ r.acquiredAfterRelease selected → id ∈ r.managedCaptureIds := by
    intro hacquired
    rcases mem_keys_acquiredAfterRelease.mp hacquired with ⟨_, hmem⟩ | htransferred
    · exact mem_managedCaptureIds.mpr (by simp [hmem])
    · obtain ⟨p, _, howner⟩ := mem_keys_transferredPorts htransferred
      obtain ⟨_, ports, hports, _⟩ := portOwner_some howner
      have hmem : id ∈ r.ports := OrderedDict.mem_iff_lookup.mpr ⟨ports, hports⟩
      exact mem_managedCaptureIds.mpr (by simp [hmem])
  by_cases hstates : id ∈ r.serviceStates
  · exact ⟨mem_managedCaptureIds.mpr (.inl hstates), fun _ => hstates⟩
  -- Without service states a selected entry is gone from every dictionary.
  have hgone : id ∈ selected → id ∈ selected.filter fun id => id ∉ r.serviceStates
      ∧ id ∉ OrderedDict.without r.ports selected ∧ id ∉ r.acquiredAfterRelease selected := by
    intro hselected
    refine List.mem_filter.mpr ⟨hselected, decide_eq_true ⟨hstates, ?_, ?_⟩⟩
    · exact fun h => (OrderedDict.mem_without.mp h).1 hselected
    · exact notMem_acquiredAfterRelease hselected
  have hkept : ∀ {α : Type} {d : PerCapture α},
      id ∈ OrderedDict.without d (selected.filter fun id => id ∉ r.serviceStates
        ∧ id ∉ OrderedDict.without r.ports selected ∧ id ∉ r.acquiredAfterRelease selected) →
      id ∈ d ∧ id ∉ selected := by
    intro α d h
    obtain ⟨hnot, hmem⟩ := OrderedDict.mem_without.mp h
    exact ⟨hmem, fun hselected => hnot (hgone hselected)⟩
  have hresult : id ∈ r.managedCaptureIds ∧ id ∉ selected := by
    rcases mem_managedCaptureIds.mp hid with h | h | h | h | h | h | h | h | h
    · exact absurd h hstates
    · obtain ⟨hnot, hmem⟩ := OrderedDict.mem_without.mp h
      exact ⟨mem_managedCaptureIds.mpr (by simp [hmem]), hnot⟩
    · exact ⟨howner h, fun hselected => notMem_acquiredAfterRelease hselected h⟩
    · exact ⟨mem_managedCaptureIds.mpr (by simp [(hkept h).1]), (hkept h).2⟩
    · exact ⟨mem_managedCaptureIds.mpr (by simp [(hkept h).1]), (hkept h).2⟩
    · exact ⟨mem_managedCaptureIds.mpr (by simp [(hkept h).1]), (hkept h).2⟩
    · exact ⟨mem_managedCaptureIds.mpr (by simp [(hkept h).1]), (hkept h).2⟩
    · exact ⟨mem_managedCaptureIds.mpr (by simp [(hkept h).1]), (hkept h).2⟩
    · obtain ⟨hmem, hnot⟩ := List.mem_filter.mp h
      exact ⟨mem_managedCaptureIds.mpr (by simp [hmem]),
        fun hselected => of_decide_eq_true hnot (hgone hselected)⟩
  exact ⟨hresult.1, fun hselected => absurd hselected hresult.2⟩

theorem toFinset_acquiredAfterRelease (hid : id ∉ selected)
    (hspared : ∀ p, r.Handed selected p id → p ∈ (r.acquiredPorts.lookup id).getD []) :
    (((r.afterRelease selected).acquiredPorts.lookup id).getD []).toFinset
      = ((r.acquiredPorts.lookup id).getD []).toFinset := by
  ext p
  rw [List.mem_toFinset, List.mem_toFinset]
  refine (mem_acquiredAfterRelease hid).trans (or_iff_left_of_imp fun hhanded => ?_)
  exact hspared p hhanded

theorem Recorded.serviceRestored (h : (r.afterRelease selected).Recorded) :
    r.ServiceRestored selected := by
  intro id hid hstates
  have hmanaged : id ∈ (r.afterRelease selected).managedCaptureIds :=
    mem_managedCaptureIds.mpr (.inl hstates)
  obtain ⟨lease, hlease⟩ := h.lease id hmanaged
  obtain ⟨identity, authority, _, _, rfl, hvalid⟩ := captureLease_eq_ok.mp hlease
  have hports : (r.afterRelease selected).ports.lookup id = none := by
    simp [afterRelease, OrderedDict.lookup_without, hid]
  have hdirectional := hvalid.directional
  simp only [leaseWith, hports, Option.getD_none, List.toFinset_nil,
    List.toFinset_eq_empty_iff] at hdirectional
  exact hvalid.has_port hdirectional

theorem Recorded.preparingSpared (hr : r.Recorded) (h : (r.afterRelease selected).Recorded) :
    r.PreparingSpared selected := by
  intro p owner hhanded hprep
  obtain ⟨hselected, _⟩ := portOwner_some hhanded.2
  have hframed := framed_afterRelease (r := r) hselected
  have hmanaged : owner ∈ r.managedCaptureIds := mem_managedCaptureIds.mpr (by simp [hprep])
  obtain ⟨lease, hlease⟩ := hr.lease owner hmanaged
  obtain ⟨identity, authority, hidentity, hauthority, rfl, hvalid⟩ := captureLease_eq_ok.mp hlease
  obtain ⟨lease', hlease'⟩ := h.lease owner (hframed.managed hmanaged)
  obtain ⟨identity', authority', hidentity', hauthority', rfl, hvalid'⟩ :=
    captureLease_eq_ok.mp hlease'
  rw [hframed.identities, hidentity] at hidentity'
  rw [hframed.authorities, hauthority] at hauthority'
  cases hidentity'
  cases hauthority'
  rw [leaseWith_framed hframed] at hvalid'
  have hphase : (r.leaseWith owner identity authority).recoveryPhase = .preparing := by
    simp [leaseWith, recoveryPhase, hprep]
  obtain ⟨_, _, _, _, _, hbefore⟩ := hvalid.preparing hphase
  obtain ⟨_, _, _, _, _, hafter⟩ := hvalid'.preparing hphase
  have hsame : (((r.afterRelease selected).acquiredPorts.lookup owner).getD []).toFinset
      = (r.leaseWith owner identity authority).acquiredPorts.toFinset := hafter.trans hbefore.symm
  have hmem : p ∈ (((r.afterRelease selected).acquiredPorts.lookup owner).getD []).toFinset :=
    List.mem_toFinset.mpr ((mem_acquiredAfterRelease hselected).mpr (.inr hhanded))
  rw [hsame, List.mem_toFinset] at hmem
  exact hmem

/-- A recorded ledger stays recorded when the service states of the selected captures are
gone and no preparing capture is handed a port. -/
theorem afterRelease_recorded_iff (hr : r.Recorded) : (r.afterRelease selected).Recorded ↔
    r.ServiceRestored selected ∧ r.PreparingSpared selected := by
  constructor
  · exact fun h => ⟨h.serviceRestored, hr.preparingSpared h⟩
  rintro ⟨hrestored, hspared⟩
  refine ⟨fun id hid => ?_, fun id id' hid hid' => hr.one_unresolved id id' ?_ ?_⟩
  · obtain ⟨hmanaged, hstates⟩ := managed_of_afterRelease hid
    have hselected : id ∉ selected := fun h => hrestored id h (hstates h)
    have hframed := framed_afterRelease (r := r) hselected
    obtain ⟨lease, hlease⟩ := hr.lease id hmanaged
    obtain ⟨identity, authority, hidentity, hauthority, rfl, hvalid⟩ :=
      captureLease_eq_ok.mp hlease
    refine ⟨_, captureLease_eq_ok.mpr ⟨identity, authority, hframed.identities.trans hidentity,
      hframed.authorities.trans hauthority, rfl, ?_⟩⟩
    rw [leaseWith_framed hframed]
    obtain ⟨_, _, _, _, _, _, _, hnodup⟩ := hvalid.lists_unique
    refine valid_acquired hvalid ?_ ?_ fun hphase => ?_
    · refine nodup_foldl_receivePorts ?_
      rw [OrderedDict.lookup_without, if_neg hselected]
      exact hnodup
    · intro p hp
      rw [List.mem_toFinset] at hp ⊢
      rcases hframed.handed p hp with hold | hports
      · exact List.mem_toFinset.mp (hvalid.acquired_within (List.mem_toFinset.mpr hold))
      · exact hports
    · refine toFinset_acquiredAfterRelease hselected fun p hhanded => hspared p id hhanded ?_
      by_contra hprep
      unfold leaseWith recoveryPhase at hphase
      dsimp only at hphase
      rw [if_neg hprep] at hphase
      split at hphase
      · cases hphase
      · split at hphase <;> cases hphase
  · exact hid.imp (fun h => (OrderedDict.mem_without.mp h).2)
      fun h => (OrderedDict.mem_without.mp h).2
  · exact hid'.imp (fun h => (OrderedDict.mem_without.mp h).2)
      fun h => (OrderedDict.mem_without.mp h).2

end

end CaptureRuntime

end TrexWebui
