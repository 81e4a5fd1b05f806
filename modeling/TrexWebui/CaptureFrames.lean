import TrexWebui.CaptureSteps

/-!
# What an edit leaves alone

An edit of the ledger that concerns some captures leaves every other entry
as it is, except that a release may hand it ports that it uses. `Framed`
says so of one entry, and is an invariant of every run that does not
concern the entry.
-/

namespace TrexWebui

open OracleProgram

/-- The entry is as it was, but for ports of its own that it was handed. -/
structure Framed (r c : CaptureRuntime) (id : CaptureId) : Prop where
  serviceStates : c.serviceStates.lookup id = r.serviceStates.lookup id
  ports : c.ports.lookup id = r.ports.lookup id
  identities : c.identities.lookup id = r.identities.lookup id
  authorities : c.authorities.lookup id = r.authorities.lookup id
  pendingBaselines : c.pendingBaselines.lookup id = r.pendingBaselines.lookup id
  baselineRecorders : c.baselineRecorders.lookup id = r.baselineRecorders.lookup id
  preparations : c.preparations.lookup id = r.preparations.lookup id
  cleanupRequired : id ∈ c.cleanupRequiredIds ↔ id ∈ r.cleanupRequiredIds
  acquired : id ∈ r.acquiredPorts → id ∈ c.acquiredPorts
  kept : ∀ p ∈ (r.acquiredPorts.lookup id).getD [], p ∈ (c.acquiredPorts.lookup id).getD []
  handed : ∀ p ∈ (c.acquiredPorts.lookup id).getD [],
    p ∈ (r.acquiredPorts.lookup id).getD [] ∨ p ∈ (r.ports.lookup id).getD []

section

variable {r c : CaptureRuntime} {id : CaptureId} {selected : List CaptureId} {p : Port}
  {allowed : CaptureId → Prop}

/-! ## Framed entries -/

theorem Framed.refl : Framed r r id where
  serviceStates := rfl
  ports := rfl
  identities := rfl
  authorities := rfl
  pendingBaselines := rfl
  baselineRecorders := rfl
  preparations := rfl
  cleanupRequired := Iff.rfl
  acquired := fun h => h
  kept := fun _ h => h
  handed := fun _ h => .inl h

/-- The dictionaries of the entry other than its acquired ports decide whether it is
managed; a framed entry stays managed. -/
theorem Framed.managed (h : Framed r c id) (hid : id ∈ r.managedCaptureIds) :
    id ∈ c.managedCaptureIds := by
  have hsame : ∀ {α : Type} {d d' : PerCapture α}, d'.lookup id = d.lookup id →
      id ∈ d → id ∈ d' := by
    intro α d d' hlookup hmem
    rw [← AList.lookup_isSome] at hmem ⊢
    rwa [hlookup]
  rw [mem_managedCaptureIds] at hid ⊢
  rcases hid with hid | hid | hid | hid | hid | hid | hid | hid | hid
  · exact .inl (hsame h.serviceStates hid)
  · exact .inr (.inl (hsame h.ports hid))
  · exact .inr (.inr (.inl (h.acquired hid)))
  · exact .inr (.inr (.inr (.inl (hsame h.identities hid))))
  · exact .inr (.inr (.inr (.inr (.inl (hsame h.authorities hid)))))
  · exact .inr (.inr (.inr (.inr (.inr (.inl (hsame h.pendingBaselines hid))))))
  · exact .inr (.inr (.inr (.inr (.inr (.inr (.inl (hsame h.baselineRecorders hid)))))))
  · exact .inr (.inr (.inr (.inr (.inr (.inr (.inr (.inl (hsame h.preparations hid))))))))
  · exact .inr (.inr (.inr (.inr (.inr (.inr (.inr (.inr (h.cleanupRequired.mpr hid))))))))

/-! ## The ports that change hands -/

@[simp] theorem mem_appendMissing {ports extra : List Port} :
    p ∈ CaptureRuntime.appendMissing ports extra ↔ p ∈ ports ∨ p ∈ extra := by
  unfold CaptureRuntime.appendMissing
  induction extra generalizing ports with
  | nil => simp
  | cons q rest ih =>
      rw [List.foldl_cons, ih]
      by_cases hq : q ∈ ports
      · rw [if_pos hq]
        constructor
        · rintro (h | h)
          · exact .inl h
          · exact .inr (List.mem_cons_of_mem q h)
        · rintro (h | h)
          · exact .inl h
          · rcases List.mem_cons.mp h with rfl | h
            · exact .inl hq
            · exact .inr h
      · rw [if_neg hq, List.mem_append, List.mem_singleton, List.mem_cons, or_assoc]

theorem nodup_appendMissing {ports extra : List Port} (h : ports.Nodup) :
    (CaptureRuntime.appendMissing ports extra).Nodup := by
  unfold CaptureRuntime.appendMissing
  induction extra generalizing ports with
  | nil => exact h
  | cons q rest ih =>
      rw [List.foldl_cons]
      by_cases hq : q ∈ ports
      · rw [if_pos hq]
        exact ih h
      · rw [if_neg hq]
        refine ih (List.nodup_append.mpr ⟨h, List.nodup_singleton q, fun a ha b hb hab => hq ?_⟩)
        rw [List.mem_singleton.mp hb] at hab
        exact hab ▸ ha

theorem portOwner_some {owner : CaptureId} (h : r.portOwner selected p = some owner) :
    owner ∉ selected ∧ ∃ ports, r.ports.lookup owner = some ports ∧ p ∈ ports := by
  unfold CaptureRuntime.portOwner at h
  obtain ⟨item, hfind, rfl⟩ := Option.map_eq_some_iff.mp h
  have hcond := List.find?_some hfind
  have hitem := OrderedDict.mem_items.mp (List.mem_of_find?_eq_some hfind)
  obtain ⟨hselected, hp⟩ := of_decide_eq_true hcond
  exact ⟨hselected, item.2, hitem, hp⟩

theorem portOwner_none (h : r.portOwner selected p = none) {owner : CaptureId}
    {ports : List Port} (howner : owner ∉ selected) (hports : r.ports.lookup owner = some ports) :
    p ∉ ports := by
  intro hp
  unfold CaptureRuntime.portOwner at h
  rw [Option.map_eq_none_iff, List.find?_eq_none] at h
  have hitem := h (owner, ports) (OrderedDict.mem_items.mpr hports)
  exact hitem (decide_eq_true ⟨howner, hp⟩)

theorem mem_handOver {transferred : PerCapture (List Port)} {q : Port} :
    p ∈ ((r.handOver selected transferred q).lookup id).getD [] ↔
      p ∈ (transferred.lookup id).getD [] ∨ (p = q ∧ r.portOwner selected q = some id) := by
  unfold CaptureRuntime.handOver
  cases howner : r.portOwner selected q with
  | none => simp
  | some owner =>
      dsimp only
      rw [OrderedDict.lookup_set]
      by_cases hid : id = owner
      · subst hid
        simp
      · rw [if_neg hid]
        simp only [Option.some.injEq, eq_comm (a := owner), hid, and_false, or_false]

theorem mem_keys_handOver {transferred : PerCapture (List Port)} {q : Port} :
    id ∈ r.handOver selected transferred q ↔
      id ∈ transferred ∨ r.portOwner selected q = some id := by
  unfold CaptureRuntime.handOver
  cases howner : r.portOwner selected q with
  | none => simp
  | some owner =>
      dsimp only
      rw [OrderedDict.mem_set, Option.some.injEq, or_comm, eq_comm]

theorem mem_foldl_handOver {acquisitions : List Port} {transferred : PerCapture (List Port)} :
    p ∈ ((acquisitions.foldl (r.handOver selected) transferred).lookup id).getD [] ↔
      p ∈ (transferred.lookup id).getD []
        ∨ (p ∈ acquisitions ∧ r.portOwner selected p = some id) := by
  induction acquisitions generalizing transferred with
  | nil => simp
  | cons q rest ih =>
      rw [List.foldl_cons, ih, mem_handOver, List.mem_cons]
      constructor
      · rintro ((h | ⟨rfl, h⟩) | ⟨h, howner⟩)
        · exact .inl h
        · exact .inr ⟨.inl rfl, h⟩
        · exact .inr ⟨.inr h, howner⟩
      · rintro (h | ⟨rfl | h, howner⟩)
        · exact .inl (.inl h)
        · exact .inl (.inr ⟨rfl, howner⟩)
        · exact .inr ⟨h, howner⟩

theorem mem_transferredPorts :
    p ∈ ((r.transferredPorts selected).lookup id).getD [] ↔
      p ∈ r.removedAcquisitions selected ∧ r.portOwner selected p = some id := by
  unfold CaptureRuntime.transferredPorts
  rw [mem_foldl_handOver]
  simp

theorem mem_keys_transferredPorts (h : id ∈ r.transferredPorts selected) :
    ∃ p ∈ r.removedAcquisitions selected, r.portOwner selected p = some id := by
  unfold CaptureRuntime.transferredPorts at h
  suffices hfold : ∀ (acquisitions : List Port) (transferred : PerCapture (List Port)),
      id ∈ acquisitions.foldl (r.handOver selected) transferred →
      id ∈ transferred ∨ ∃ p ∈ acquisitions, r.portOwner selected p = some id by
    rcases hfold _ _ h with hempty | hfound
    · exact absurd hempty (AList.notMem_empty id)
    · exact hfound
  intro acquisitions
  induction acquisitions with
  | nil => exact fun transferred h => .inl h
  | cons q rest ih =>
      intro transferred hmem
      rcases ih _ hmem with hmem | ⟨p, hp, howner⟩
      · rcases mem_keys_handOver.mp hmem with hmem | howner
        · exact .inl hmem
        · exact .inr ⟨q, List.mem_cons_self, howner⟩
      · exact .inr ⟨p, List.mem_cons_of_mem q hp, howner⟩

theorem lookup_receivePorts {acquired : PerCapture (List Port)}
    {item : CaptureId × List Port} :
    (CaptureRuntime.receivePorts acquired item).lookup id = if id = item.1
      then some (CaptureRuntime.appendMissing ((acquired.lookup item.1).getD []) item.2)
      else acquired.lookup id :=
  OrderedDict.lookup_set

theorem mem_foldl_receivePorts {items : List (CaptureId × List Port)}
    {acquired : PerCapture (List Port)} :
    p ∈ ((items.foldl CaptureRuntime.receivePorts acquired).lookup id).getD [] ↔
      p ∈ (acquired.lookup id).getD [] ∨ ∃ ports, (id, ports) ∈ items ∧ p ∈ ports := by
  induction items generalizing acquired with
  | nil => simp
  | cons item rest ih =>
      obtain ⟨owner, handed⟩ := item
      rw [List.foldl_cons, ih, lookup_receivePorts]
      by_cases hid : id = owner
      · subst hid
        rw [if_pos rfl, Option.getD_some, mem_appendMissing]
        constructor
        · rintro ((h | h) | ⟨ports, hmem, h⟩)
          · exact .inl h
          · exact .inr ⟨handed, List.mem_cons_self, h⟩
          · exact .inr ⟨ports, List.mem_cons_of_mem _ hmem, h⟩
        · rintro (h | ⟨ports, hmem, h⟩)
          · exact .inl (.inl h)
          · rcases List.mem_cons.mp hmem with heq | hmem
            · cases heq
              exact .inl (.inr h)
            · exact .inr ⟨ports, hmem, h⟩
      · rw [if_neg hid]
        simp [hid]

theorem mem_keys_foldl_receivePorts {items : List (CaptureId × List Port)}
    {acquired : PerCapture (List Port)} :
    id ∈ items.foldl CaptureRuntime.receivePorts acquired ↔
      id ∈ acquired ∨ ∃ ports, (id, ports) ∈ items := by
  induction items generalizing acquired with
  | nil => simp
  | cons item rest ih =>
      obtain ⟨owner, handed⟩ := item
      rw [List.foldl_cons, ih]
      unfold CaptureRuntime.receivePorts
      rw [OrderedDict.mem_set]
      simp only [List.mem_cons, Prod.mk.injEq, exists_or, exists_and_left, exists_eq, and_true]
      constructor
      · rintro ((h | h) | h)
        · exact .inr (.inl h)
        · exact .inl h
        · exact .inr (.inr h)
      · rintro (h | h | h)
        · exact .inl (.inr h)
        · exact .inl (.inl h)
        · exact .inr h

theorem nodup_foldl_receivePorts {items : List (CaptureId × List Port)}
    {acquired : PerCapture (List Port)} (h : ((acquired.lookup id).getD []).Nodup) :
    (((items.foldl CaptureRuntime.receivePorts acquired).lookup id).getD []).Nodup := by
  induction items generalizing acquired with
  | nil => exact h
  | cons item rest ih =>
      rw [List.foldl_cons]
      refine ih ?_
      rw [lookup_receivePorts]
      by_cases hid : id = item.1
      · rw [if_pos hid, Option.getD_some, ← hid]
        exact nodup_appendMissing h
      · rw [if_neg hid]
        exact h

theorem mem_acquiredAfterRelease (hid : id ∉ selected) :
    p ∈ ((r.acquiredAfterRelease selected).lookup id).getD [] ↔
      p ∈ (r.acquiredPorts.lookup id).getD []
        ∨ (p ∈ r.removedAcquisitions selected ∧ r.portOwner selected p = some id) := by
  unfold CaptureRuntime.acquiredAfterRelease
  rw [mem_foldl_receivePorts, OrderedDict.lookup_without, if_neg hid, ← mem_transferredPorts]
  refine or_congr Iff.rfl ?_
  constructor
  · rintro ⟨ports, hmem, hp⟩
    rw [OrderedDict.mem_items.mp hmem]
    exact hp
  · intro hp
    cases hlookup : (r.transferredPorts selected).lookup id with
    | none => rw [hlookup] at hp; exact absurd hp List.not_mem_nil
    | some ports =>
        rw [hlookup] at hp
        exact ⟨ports, OrderedDict.mem_items.mpr hlookup, hp⟩

theorem mem_keys_acquiredAfterRelease :
    id ∈ r.acquiredAfterRelease selected ↔
      (id ∉ selected ∧ id ∈ r.acquiredPorts) ∨ id ∈ r.transferredPorts selected := by
  unfold CaptureRuntime.acquiredAfterRelease
  rw [mem_keys_foldl_receivePorts, OrderedDict.mem_without]
  refine or_congr Iff.rfl ?_
  rw [OrderedDict.mem_iff_lookup]
  exact exists_congr fun ports => OrderedDict.mem_items

theorem notMem_acquiredAfterRelease (hid : id ∈ selected) :
    id ∉ r.acquiredAfterRelease selected := by
  rw [mem_keys_acquiredAfterRelease]
  rintro (⟨hnot, _⟩ | htransferred)
  · exact hnot hid
  · obtain ⟨p, _, howner⟩ := mem_keys_transferredPorts htransferred
    exact (portOwner_some howner).1 hid

/-! ## Edits frame the other entries -/

theorem matchingCaptureIds_subset {ids : List CaptureId} (hids : ∀ id ∈ ids, allowed id) :
    ∀ id ∈ r.matchingCaptureIds ids, allowed id := by
  intro id hid
  exact hids id (of_decide_eq_true (List.mem_filter.mp hid).2)

theorem moveCaptureKey_eq_ok {α : Type} {source moved : PerCapture α}
    {previousId captureId : CaptureId}
    (h : CaptureRuntime.moveCaptureKey source previousId captureId = .ok moved) :
    ∃ value, source.lookup previousId = some value
      ∧ moved = OrderedDict.set (source.erase previousId) captureId value := by
  unfold CaptureRuntime.moveCaptureKey at h
  cases hvalue : source.lookup previousId with
  | none => rw [hvalue] at h; cases h
  | some value => rw [hvalue] at h; cases h; exact ⟨value, rfl, rfl⟩

/-- All that `_transition_pending_start` does to the dictionaries. -/
theorem withStarted_eq_ok {pendingId captureId : CaptureId} {cleanup : Bool}
    (h : r.withStarted pendingId captureId cleanup = .ok c) :
    ∃ states ports acquired identity authority,
      r.serviceStates.lookup pendingId = some states
      ∧ r.ports.lookup pendingId = some ports
      ∧ r.acquiredPorts.lookup pendingId = some acquired
      ∧ r.identities.lookup pendingId = some identity
      ∧ r.authorities.lookup pendingId = some authority
      ∧ c = {
        serviceStates := OrderedDict.set (r.serviceStates.erase pendingId) captureId states
        ports := OrderedDict.set (r.ports.erase pendingId) captureId ports
        acquiredPorts := OrderedDict.set (r.acquiredPorts.erase pendingId) captureId acquired
        identities := OrderedDict.set (r.identities.erase pendingId) captureId identity
        authorities := OrderedDict.set (r.authorities.erase pendingId) captureId authority
        pendingBaselines := r.pendingBaselines.erase pendingId
        baselineRecorders := r.baselineRecorders.erase pendingId
        preparations := r.preparations.erase pendingId
        cleanupRequiredIds := if cleanup ∧ captureId ∉ r.cleanupRequiredIds
          then r.cleanupRequiredIds ++ [captureId] else r.cleanupRequiredIds } := by
  unfold CaptureRuntime.withStarted at h
  cases h₁ : CaptureRuntime.moveCaptureKey r.serviceStates pendingId captureId with
  | error e => rw [h₁] at h; cases h
  | ok serviceStates =>
  cases h₂ : CaptureRuntime.moveCaptureKey r.ports pendingId captureId with
  | error e => rw [h₁, h₂] at h; cases h
  | ok ports =>
  cases h₃ : CaptureRuntime.moveCaptureKey r.acquiredPorts pendingId captureId with
  | error e => rw [h₁, h₂, h₃] at h; cases h
  | ok acquiredPorts =>
  cases h₄ : CaptureRuntime.moveCaptureKey r.identities pendingId captureId with
  | error e => rw [h₁, h₂, h₃, h₄] at h; cases h
  | ok identities =>
  cases h₅ : CaptureRuntime.moveCaptureKey r.authorities pendingId captureId with
  | error e => rw [h₁, h₂, h₃, h₄, h₅] at h; cases h
  | ok authorities =>
  rw [h₁, h₂, h₃, h₄, h₅] at h
  obtain ⟨states, hstates, rfl⟩ := moveCaptureKey_eq_ok h₁
  obtain ⟨ports', hports, rfl⟩ := moveCaptureKey_eq_ok h₂
  obtain ⟨acquired, hacquired, rfl⟩ := moveCaptureKey_eq_ok h₃
  obtain ⟨identity, hidentity, rfl⟩ := moveCaptureKey_eq_ok h₄
  obtain ⟨authority, hauthority, rfl⟩ := moveCaptureKey_eq_ok h₅
  cases h
  exact ⟨states, ports', acquired, identity, authority, hstates, hports, hacquired, hidentity,
    hauthority, rfl⟩

theorem framed_forgetting {ids : List CaptureId} (hid : id ∉ ids) :
    Framed r (r.forgetting ids) id where
  serviceStates := by simp [CaptureRuntime.forgetting, OrderedDict.lookup_without, hid]
  ports := by simp [CaptureRuntime.forgetting, OrderedDict.lookup_without, hid]
  identities := by simp [CaptureRuntime.forgetting, OrderedDict.lookup_without, hid]
  authorities := by simp [CaptureRuntime.forgetting, OrderedDict.lookup_without, hid]
  pendingBaselines := by simp [CaptureRuntime.forgetting, OrderedDict.lookup_without, hid]
  baselineRecorders := by simp [CaptureRuntime.forgetting, OrderedDict.lookup_without, hid]
  preparations := by simp [CaptureRuntime.forgetting, OrderedDict.lookup_without, hid]
  cleanupRequired := by simp [CaptureRuntime.forgetting, hid]
  acquired := fun h => OrderedDict.mem_without.mpr ⟨hid, h⟩
  kept := by simp [CaptureRuntime.forgetting, OrderedDict.lookup_without, hid]
  handed := by
    simp only [CaptureRuntime.forgetting, OrderedDict.lookup_without, hid, ↓reduceIte]
    exact fun _ h => .inl h

theorem framed_withStage {other : CaptureId} {preparation : CapturePreparation}
    {stage : CapturePreparationStage} (hid : id ≠ other) :
    Framed r (r.withStage other preparation stage) id := by
  have hacquired : (r.withStage other preparation stage).acquiredPorts.lookup id
      = r.acquiredPorts.lookup id := by
    unfold CaptureRuntime.withStage
    by_cases hstage : stage = .acquired
    · simp [hstage, OrderedDict.lookup_set, hid]
    · simp [hstage]
  constructor
  · rfl
  · rfl
  · rfl
  · rfl
  · rfl
  · rfl
  · simp [CaptureRuntime.withStage, OrderedDict.lookup_set, hid]
  · exact Iff.rfl
  · rw [← AList.lookup_isSome, ← AList.lookup_isSome, hacquired]
    exact fun h => h
  · rw [hacquired]
    exact fun _ h => h
  · rw [hacquired]
    exact fun _ h => .inl h

theorem framed_withStarted {pendingId captureId : CaptureId} {cleanup : Bool}
    (h : r.withStarted pendingId captureId cleanup = .ok c) (hpending : id ≠ pendingId)
    (hcapture : id ≠ captureId) : Framed r c id := by
  obtain ⟨states, ports, acquired, identity, authority, -, -, -, -, -, rfl⟩ :=
    withStarted_eq_ok h
  constructor
  · simp [OrderedDict.lookup_set, hpending, hcapture]
  · simp [OrderedDict.lookup_set, hpending, hcapture]
  · simp [OrderedDict.lookup_set, hpending, hcapture]
  · simp [OrderedDict.lookup_set, hpending, hcapture]
  · simp [hpending]
  · simp [hpending]
  · simp [hpending]
  · dsimp only
    split
    · simp [hcapture]
    · exact Iff.rfl
  · intro hmem
    simp [hpending, hmem]
  · simp [OrderedDict.lookup_set, hpending, hcapture]
  · intro p hp
    simp only [OrderedDict.lookup_set, ne_eq, hpending, not_false_eq_true,
      AList.lookup_erase_ne, hcapture, ↓reduceIte] at hp
    exact .inl hp

theorem framed_withoutServiceStates (hid : id ∉ selected) :
    Framed r (r.withoutServiceStates selected) id where
  serviceStates := by
    simp [CaptureRuntime.withoutServiceStates, OrderedDict.lookup_without, hid]
  ports := rfl
  identities := rfl
  authorities := rfl
  pendingBaselines := rfl
  baselineRecorders := rfl
  preparations := rfl
  cleanupRequired := Iff.rfl
  acquired := fun h => h
  kept := fun _ h => h
  handed := fun _ h => .inl h

theorem framed_afterRelease (hid : id ∉ selected) : Framed r (r.afterRelease selected) id := by
  have hgone : id ∉ selected.filter fun id => id ∉ r.serviceStates
      ∧ id ∉ OrderedDict.without r.ports selected ∧ id ∉ r.acquiredAfterRelease selected :=
    fun hmem => hid (List.mem_filter.mp hmem).1
  constructor
  · rfl
  · simp [CaptureRuntime.afterRelease, OrderedDict.lookup_without, hid]
  · simp only [CaptureRuntime.afterRelease, OrderedDict.lookup_without, if_neg hgone]
  · simp only [CaptureRuntime.afterRelease, OrderedDict.lookup_without, if_neg hgone]
  · simp only [CaptureRuntime.afterRelease, OrderedDict.lookup_without, if_neg hgone]
  · simp only [CaptureRuntime.afterRelease, OrderedDict.lookup_without, if_neg hgone]
  · simp only [CaptureRuntime.afterRelease, OrderedDict.lookup_without, if_neg hgone]
  · unfold CaptureRuntime.afterRelease
    dsimp only
    rw [List.mem_filter]
    exact ⟨fun h => h.1, fun h => ⟨h, decide_eq_true hgone⟩⟩
  · intro hmem
    exact mem_keys_acquiredAfterRelease.mpr (.inl ⟨hid, hmem⟩)
  · intro p hp
    exact (mem_acquiredAfterRelease hid).mpr (.inl hp)
  · intro p hp
    rcases (mem_acquiredAfterRelease hid).mp hp with h | ⟨_, howner⟩
    · exact .inl h
    · obtain ⟨_, ports, hports, hmem⟩ := portOwner_some howner
      exact .inr (by rw [hports]; exact hmem)

/-- An edit leaves alone every managed entry that it does not concern. -/
theorem LedgerEdit.framed {fresh : CaptureId → Prop} (h : LedgerEdit allowed fresh r c) (hid : ¬allowed id)
    (hmanaged : id ∈ r.managedCaptureIds) : Framed r c id := by
  cases h with
  | forget hids => exact framed_forgetting fun hmem => hid (hids id hmem)
  | stage hother hlookup hnext => exact framed_withStage fun heq => hid (heq ▸ hother)
  | @rpcAttempted other preparation hother hlookup hstage =>
      have hne : id ≠ other := fun heq => hid (heq ▸ hother)
      exact { Framed.refl with preparations := AList.lookup_erase_ne hne }
  | started hother hnew hpending hfree hstarted =>
      refine framed_withStarted hstarted (fun heq => hid (heq ▸ hother)) fun heq => ?_
      exact hfree (heq ▸ hmanaged)
  | restore hids =>
      exact framed_withoutServiceStates fun hmem => hid (matchingCaptureIds_subset hids id hmem)
  | release hids =>
      exact framed_afterRelease fun hmem => hid (matchingCaptureIds_subset hids id hmem)

end

end TrexWebui
