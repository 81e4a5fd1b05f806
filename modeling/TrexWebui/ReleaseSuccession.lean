import TrexWebui.ReleaseConsistency
import TrexWebui.ReleaseJournalFiles

/-!
# The journals of a recovery

The journals that a recovery writes obey the rules if the one before them did
(`Rules.of_same`, `rules_compacted`), and they can be written if it could
(`Encodable`). Only the clock has a say in it: the time of a journal is no
earlier than that of its transaction.
-/

namespace TrexWebui.ReleaseEngine

open PyStr PyJson JsonLines PosixPath Sha2 Checks

/-! ## Journals that can be written -/

/-- The journal can be written. -/
structure Transaction.Encodable (t : Transaction) : Prop where
  integers : ∀ n ∈ t.integers, (decimal n).length ≤ 4300
  readable : ReadableFields t.fields

theorem Transaction.Encodable.content {t : Transaction} (h : t.Encodable) :
    ∃ content, journalContent t = .ok content := by
  have hreadable : Readable t.value := ⟨show transactionKeys.Nodup by decide +kernel, h.readable⟩
  obtain ⟨bytes, hbytes, -, -⟩ := loads_dumps hreadable
  refine ⟨bytes ++ [10], ?_⟩
  simp only [journalContent, bind_eq_ok, refuseIf_eq_ok, exists_const, mapError_eq_ok,
    canonicalJsonBytes, orRefuse_eq_ok, pure_eq_ok, not_exists, not_and, not_lt]
  exact ⟨h.integers, bytes, hbytes, rfl⟩

theorem encodable_of_content {t : Transaction} {content : Bytes}
    (h : journalContent t = .ok content) : t.Encodable := by
  obtain ⟨hplain, hencode⟩ := journalContent_eq_ok h
  have hscalar : ∀ c ∈ dumps t.value, Scalar c := fun c hc =>
    (encode_eq_some_iff.mp hencode).1 c (List.mem_append_left _ hc)
  have hreadable := readable_of_sortKeys _
    (readable_of_scalar (sortKeys t.value) (plain_sortKeys t.value hplain) hscalar)
  simp only [journalContent, bind_eq_ok, refuseIf_eq_ok, exists_const, not_exists, not_and,
    not_lt] at h
  exact ⟨h.1, hreadable.2⟩

theorem scalar_phase (phase : Phase) : ∀ c ∈ phase.name, Scalar c := by
  cases phase <;> decide +kernel

theorem IsTimestamp.scalar {s : Str} (h : IsTimestamp s) : ∀ c ∈ s, Scalar c := by
  obtain ⟨hlength, hdigits, h4, h7, h10, h13, h16, h19, -⟩ := h
  intro c hc
  obtain ⟨i, hi, rfl⟩ := List.getElem_of_mem hc
  rw [List.getElem_eq_getD 0]
  by_cases hmark : i ∈ [4, 7, 10, 13, 16, 19]
  · simp only [List.mem_cons, List.not_mem_nil, or_false] at hmark
    rcases hmark with rfl | rfl | rfl | rfl | rfl | rfl
    · rw [h4]; decide
    · rw [h7]; decide
    · rw [h10]; decide
    · rw [h13]; decide
    · rw [h16]; decide
    · rw [h19]; decide
  · exact scalar_digit (hdigits i (by omega) hmark)

theorem encodable_moved {t : Transaction} {phase : Phase} {now : Str} (h : t.Encodable)
    (hnow : IsTimestamp now) : (t.moved phase now).Encodable where
  integers := h.integers
  readable := by
    have hfields : (t.moved phase now).fields
        = setKey (setKey t.fields (text "phase") (.str phase.name)) (text "updated_at") (.str now) :=
      rfl
    rw [hfields]
    exact readableFields_setKey (readableFields_setKey h.readable (by decide) (scalar_phase phase))
      (by decide) hnow.scalar

theorem encodable_restored {t : Transaction} (restored : Bool) (h : t.Encodable) :
    Transaction.Encodable { t with rollbackRestored := restored } where
  integers := h.integers
  readable := by
    have hfields : ({ t with rollbackRestored := restored } : Transaction).fields
        = setKey t.fields (text "rollback_restored") (.bool restored) := rfl
    rw [hfields]
    exact readableFields_setKey h.readable (by decide) trivial

theorem encodable_armed {t : Transaction} (armed : Bool) (h : t.Encodable) :
    Transaction.Encodable { t with consumerMutationArmed := armed } where
  integers := h.integers
  readable := by
    have hfields : ({ t with consumerMutationArmed := armed } : Transaction).fields
        = setKey t.fields (text "consumer_mutation_armed") (.bool armed) := rfl
    rw [hfields]
    exact readableFields_setKey h.readable (by decide) trivial

theorem encodable_unmutated {t : Transaction} (h : t.Encodable) :
    Transaction.Encodable { t with daemonMutationStarted := false } where
  integers := h.integers
  readable := by
    have hfields : ({ t with daemonMutationStarted := false } : Transaction).fields
        = setKey t.fields (text "daemon_mutation_started") (.bool false) := rfl
    rw [hfields]
    exact readableFields_setKey h.readable (by decide) trivial

theorem encodable_disarmed {t : Transaction} (h : t.Encodable) : t.disarmed.Encodable where
  integers := by
    intro n hn
    refine h.integers n ?_
    simp only [Transaction.integers, Transaction.disarmed, List.flatMap_nil, List.append_nil,
      List.mem_cons, List.mem_append] at hn ⊢
    rcases hn with hn | hn | hn
    · exact Or.inl hn
    · exact Or.inr (Or.inl hn)
    · exact Or.inr (Or.inr (Or.inl hn))
  readable := by
    have hfields : t.disarmed.fields
        = setKey (setKey (setKey t.fields (text "consumer_active_before") (.arr []))
          (text "consumer_baseline") (.arr [])) (text "consumer_mutation_armed") (.bool false) := rfl
    rw [hfields]
    exact readableFields_setKey (readableFields_setKey (readableFields_setKey h.readable
      (by decide) trivial) (by decide) trivial) (by decide) trivial

theorem encodable_finalized {t : Transaction} (h : t.Encodable) : t.finalized.Encodable where
  integers := (encodable_disarmed h).integers
  readable := by
    have hfields : t.finalized.fields
        = setKey (setKey (setKey t.disarmed.fields (text "consumer_enable") (.arr []))
          (text "consumer_start") (.arr [])) (text "daemon_mutation_started") (.bool false) := rfl
    rw [hfields]
    exact readableFields_setKey (readableFields_setKey (readableFields_setKey
      (encodable_disarmed h).readable (by decide) trivial) (by decide) trivial) (by decide) trivial

theorem encodable_unowned {t : Transaction} (h : t.Encodable) :
    Transaction.Encodable { t with hostArtifacts := [], nativeBoundary := none } where
  integers := by
    intro n hn
    refine h.integers n ?_
    simp only [Transaction.integers, List.flatMap_nil, List.nil_append, Option.toList_none,
      List.mem_cons, List.mem_append] at hn ⊢
    rcases hn with hn | hn | hn
    · exact Or.inl hn
    · exact Or.inr (Or.inl hn)
    · exact Or.inr (Or.inr (Or.inr hn))
  readable := by
    have hfields : ({ t with hostArtifacts := [], nativeBoundary := none } : Transaction).fields
        = setKey (setKey t.fields (text "host_artifacts") (.arr [])) (text "native_boundary") .null :=
      rfl
    rw [hfields]
    exact readableFields_setKey (readableFields_setKey h.readable (by decide) trivial)
      (by decide) trivial

theorem encodable_compacted {t : Transaction} {now : Str} (h : t.Encodable)
    (hnow : IsTimestamp now) : (t.compacted now).Encodable where
  integers := (encodable_unowned (encodable_finalized h)).integers
  readable := by
    have hunowned := encodable_unowned (encodable_finalized h)
    have hfields : (t.compacted now).fields
        = setKey (setKey (setKey
            ({ t.finalized with hostArtifacts := [], nativeBoundary := none } : Transaction).fields
            (text "rollback_restored") (.bool false))
          (text "rollback_authority_retired") (.bool true)) (text "updated_at") (.str now) := rfl
    rw [hfields]
    exact readableFields_setKey (readableFields_setKey (readableFields_setKey hunowned.readable
      (by decide) trivial) (by decide) trivial) (by decide) hnow.scalar

/-! ## The rules of a journal that follows -/

section Rules

variable {host : EngineHost} {files : BackupFiles}

theorem kept_of_open {t : Transaction} (h : t.Rules host files) (hphase : t.phase ∉ Phase.terminal) :
    t.rollbackAuthorityRetired = false := by
  cases hretired : t.rollbackAuthorityRetired with
  | false => rfl
  | true => exact absurd (h.retired hretired) hphase

/-- What a later journal has to say anew of its consumers. -/
structure LaterJournal (t u : Transaction) : Prop where
  kept : u.rollbackAuthorityRetired = t.rollbackAuthorityRetired
  enable : (u.consumerEnable = t.consumerEnable ∧ u.consumerStart = t.consumerStart)
    ∨ (u.consumerEnable = [] ∧ u.consumerStart = [])
  baseline : (u.consumerActiveBefore = t.consumerActiveBefore
      ∧ u.consumerBaseline = t.consumerBaseline
      ∧ u.consumerMutationArmed = t.consumerMutationArmed)
    ∨ (u.consumerActiveBefore = [] ∧ u.consumerBaseline = [])
  mutation : u.daemonMutationStarted = true → t.daemonMutationStarted = true
    ∧ u.phase ∈ Phase.daemonMutation ∧ (u.consumerMutationArmed = false → u.phase = .rolledBack)
  restored : u.rollbackRestored = true → u.phase ∈ [.startingBaselineConsumers, .rolledBack]

theorem orderedUnits_nil : OrderedUnits [] := ⟨List.nodup_nil, by simp⟩

theorem rules_later {t u : Transaction} (h : t.Rules host files) (hopen : t.phase ∉ Phase.terminal)
    (hsame : SameTransaction t u) (hlater : LaterJournal t u) (hupdated : IsTimestamp u.updatedAt)
    (horder : ¬u.updatedAt < u.createdAt) : u.Rules host files := by
  have hkept := kept_of_open h hopen
  have hlaterKept := hlater.kept.trans hkept
  obtain ⟨hartifacts, hboundary⟩ := hsame.authority hlaterKept
  have hpaths := h.artifacts
  have hrule := h.boundary
  have howned := h.daemonOwned
  rw [hkept] at hpaths
  rw [Transaction.BoundaryRule, hkept] at hrule
  exact {
    transactionId := hsame.transactionId ▸ h.transactionId
    candidate := hsame.candidate ▸ h.candidate
    currentBefore := hsame.currentBefore ▸ h.currentBefore
    previousBefore := hsame.previousBefore ▸ h.previousBefore
    differ := by rw [hsame.currentBefore, hsame.previousBefore]; exact h.differ
    fresh := by rw [hsame.currentBefore, hsame.candidate]; exact h.fresh
    createdAt := hsame.createdAt ▸ h.createdAt
    updatedAt := hupdated
    inOrder := horder
    archive := by rw [hsame.transactionKind, hsame.candidate, hsame.previousBefore]; exact h.archive
    retired := fun hretired => absurd hretired (by rw [hlaterKept]; decide)
    artifacts := by
      rw [hlaterKept, hsame.hostProfile, hsame.transactionId, hartifacts]
      exact hpaths
    backups := hartifacts ▸ h.backups
    boundary := by
      rw [Transaction.BoundaryRule, hlaterKept, hsame.hostProfile, hsame.transactionId, hboundary]
      exact hrule
    enable := by
      rcases hlater.enable with ⟨henable, -⟩ | ⟨henable, -⟩
      · exact henable ▸ h.enable
      · exact henable ▸ orderedUnits_nil
    plan := hsame.consumerRollbackPlan ▸ h.plan
    planned := by
      have hplanned := h.planned
      refine ⟨?_, ?_, ?_, ?_⟩
      · rw [hsame.transactionKind, hsame.consumerRollbackPlan]; exact hplanned.archive
      · rw [hsame.transactionKind, hsame.consumerRollbackPlan]; exact hplanned.nMinusOne
      · rw [hsame.transactionKind, hsame.consumerRollbackPlan]; exact hplanned.others
      · rw [hsame.transactionKind, hsame.hostProfile]; exact hplanned.selectorOnly
    unarmed := by
      rcases hlater.baseline with ⟨hactive, hbaseline, harmed⟩ | hnone
      · rw [hactive, hbaseline, harmed]; exact h.unarmed
      · exact fun _ => hnone
    active := by
      rcases hlater.baseline with ⟨hactive, -, -⟩ | ⟨hactive, -⟩
      · exact hactive ▸ h.active
      · exact hactive ▸ orderedUnits_nil
    activePlanned := by
      rcases hlater.baseline with ⟨hactive, -, -⟩ | ⟨hactive, -⟩
      · rw [hactive, hsame.consumerRollbackPlan]; exact h.activePlanned
      · rw [hactive]; exact fun _ hmem => absurd hmem List.not_mem_nil
    baseline := by
      rcases hlater.baseline with ⟨hactive, hbaseline, -⟩ | ⟨hactive, hbaseline⟩
      · rw [hactive, hbaseline, hsame.transactionId]; exact h.baseline
      · rw [hactive, hbaseline]; trivial
    start := by
      rcases hlater.enable with ⟨-, hstart⟩ | ⟨-, hstart⟩
      · exact hstart ▸ h.start
      · exact hstart ▸ orderedUnits_nil
    startEnabled := by
      rcases hlater.enable with ⟨henable, hstart⟩ | ⟨-, hstart⟩
      · rw [henable, hstart]; exact h.startEnabled
      · rw [hstart]; exact fun _ hmem => absurd hmem List.not_mem_nil
    daemonOwned := by
      rw [hsame.hostProfile, hsame.consumerRollbackPlan]
      intro hprofile
      obtain ⟨henable, hstart, hplan, hactive⟩ := howned hprofile
      refine ⟨?_, ?_, hplan, ?_⟩
      · rcases hlater.enable with ⟨heq, -⟩ | ⟨heq, -⟩ <;> rw [heq]
        · exact henable
        · exact List.not_mem_nil
      · rcases hlater.enable with ⟨-, heq⟩ | ⟨-, heq⟩ <;> rw [heq]
        · exact hstart
        · exact List.not_mem_nil
      · rcases hlater.baseline with ⟨heq, -, -⟩ | ⟨heq, -⟩ <;> rw [heq]
        · exact hactive
        · exact List.not_mem_nil
    mutation := fun hmutation => by
      obtain ⟨hstarted, hphase, harmed⟩ := hlater.mutation hmutation
      have hold := h.mutation hstarted
      exact {
        kind := hsame.transactionKind.trans hold.kind
        profile := hsame.hostProfile.trans hold.profile
        planned := hsame.consumerRollbackPlan ▸ hold.planned
        kept := hlaterKept
        phase := hphase
        armed := harmed }
    restored := hlater.restored
    compact := fun hretired => absurd hretired (by rw [hlaterKept]; decide) }

/-- A terminal journal obeys the rules after its authority was given up. -/
theorem rules_compacted {t : Transaction} {now : Str} (h : t.Rules host files)
    (hphase : t.phase ∈ Phase.terminal) (hnow : IsTimestamp now) (horder : ¬now < t.createdAt) :
    (t.compacted now).Rules host files :=
  { h with
    updatedAt := hnow
    inOrder := horder
    retired := fun _ => hphase
    artifacts := ⟨[], rfl, trivial⟩
    backups := rfl
    boundary := by
      rw [Transaction.BoundaryRule, if_neg]
      · rfl
      · rintro ⟨-, hretired⟩
        cases hretired
    planned := ⟨h.planned.archive, h.planned.nMinusOne, h.planned.others, h.planned.selectorOnly⟩
    enable := orderedUnits_nil
    unarmed := fun _ => ⟨rfl, rfl⟩
    active := orderedUnits_nil
    activePlanned := fun _ hmem => absurd hmem List.not_mem_nil
    baseline := trivial
    start := orderedUnits_nil
    startEnabled := fun _ hmem => absurd hmem List.not_mem_nil
    daemonOwned := fun hprofile =>
      ⟨List.not_mem_nil, List.not_mem_nil, (h.daemonOwned hprofile).2.2.1, List.not_mem_nil⟩
    mutation := fun hmutation => by cases hmutation
    restored := fun hrestored => by cases hrestored
    compact := fun _ => ⟨rfl, rfl, rfl, rfl, rfl, rfl, rfl, rfl, rfl⟩ }

end Rules

end TrexWebui.ReleaseEngine
