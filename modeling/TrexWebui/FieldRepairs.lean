import Mathlib.Data.Set.Insert

/-!
# Repairs of fields

A repair computes a field of a list from other places of the list and writes
it there. Where the fields of one repair are read by another, the order of the
repairs matters: `Finished` is a set of repairs that no later repair can
disturb, and a run adds to it whatever reads fields of finished repairs only.
-/

namespace FieldRepairs

variable {τ α : Type}

/-- What each repair does, and which places it reads and writes. -/
structure Repairs (τ α : Type) where
  step : τ → List α → List α
  reads : τ → Set Nat
  writes : τ → Set Nat

namespace Repairs

variable (r : Repairs τ α)

/-- The repair `t` reads what `u` writes. -/
def Covers (t u : τ) : Prop := ∃ k ∈ r.reads t, k ∈ r.writes u

/-- The field of `t` holds what the repair would write. -/
def Settled (t : τ) (l : List α) : Prop := r.step t l = l

def run (ops : List τ) (l : List α) : List α := ops.foldl (fun l t => r.step t l) l

/-- The repairs `targets` keep to their places on the lists that satisfy `inv`. -/
structure Lawful (targets : Set τ) (inv : List α → Prop) : Prop where
  inv_step : ∀ t ∈ targets, ∀ l, inv l → inv (r.step t l)
  frame : ∀ t ∈ targets, ∀ l, inv l → ∀ k ∉ r.writes t, (r.step t l)[k]? = l[k]?
  congr : ∀ t ∈ targets, ∀ l m, inv l → inv m → (∀ k ∈ r.reads t, l[k]? = m[k]?) →
    ∀ k ∈ r.writes t, (r.step t l)[k]? = (r.step t m)[k]?
  apart : ∀ t ∈ targets, ¬r.Covers t t
  disjoint : ∀ t ∈ targets, ∀ u ∈ targets, t ≠ u → ∀ k ∈ r.writes t, k ∉ r.writes u

variable {r} {targets : Set τ} {inv : List α → Prop} {l : List α}

/-! ## One repair -/

namespace Lawful

variable (h : r.Lawful targets inv)

include h

theorem settled_step {t : τ} (ht : t ∈ targets) (hl : inv l) : r.Settled t (r.step t l) := by
  have hstep := h.inv_step t ht l hl
  apply List.ext_getElem?
  intro k
  by_cases hk : k ∈ r.writes t
  · refine h.congr t ht _ _ hstep hl ?_ k hk
    intro i hi
    refine h.frame t ht l hl i ?_
    intro hwrite
    exact h.apart t ht ⟨i, hi, hwrite⟩
  · exact h.frame t ht _ hstep k hk

theorem settled_of_not_covers {t u : τ} (ht : t ∈ targets) (hu : u ∈ targets) (hne : t ≠ u)
    (hcovers : ¬r.Covers t u) (hl : inv l) (hsettled : r.Settled t l) :
    r.Settled t (r.step u l) := by
  have hstep := h.inv_step u hu l hl
  apply List.ext_getElem?
  intro k
  by_cases hk : k ∈ r.writes t
  · have hread : ∀ i ∈ r.reads t, (r.step u l)[i]? = l[i]? := by
      intro i hi
      refine h.frame u hu l hl i ?_
      intro hwrite
      exact hcovers ⟨i, hi, hwrite⟩
    rw [h.congr t ht _ _ hstep hl hread k hk, hsettled,
      h.frame u hu l hl k (h.disjoint t ht u hu hne k hk)]
  · exact h.frame t ht _ hstep k hk

theorem inv_run {ops : List τ} (hops : ∀ t ∈ ops, t ∈ targets) (hl : inv l) :
    inv (r.run ops l) := by
  induction ops generalizing l with
  | nil => exact hl
  | cons t ops ih =>
      have ht := hops t List.mem_cons_self
      exact ih (fun u hu => hops u (List.mem_cons_of_mem t hu)) (h.inv_step t ht l hl)

end Lawful

/-! ## Runs -/

/-- The repairs in `done` are settled, and all that they read is settled. -/
structure Finished (r : Repairs τ α) (targets done : Set τ) (l : List α) : Prop where
  subset : done ⊆ targets
  settled : ∀ t ∈ done, r.Settled t l
  closed : ∀ t ∈ done, ∀ u ∈ targets, r.Covers t u → u ∈ done

/-- All that `t` reads is in `done`. -/
def Ready (r : Repairs τ α) (targets done : Set τ) (t : τ) : Prop :=
  ∀ u ∈ targets, r.Covers t u → u ∈ done

namespace Finished

variable {done : Set τ}

theorem step (h : r.Lawful targets inv) (hl : inv l) (hdone : r.Finished targets done l) {u : τ}
    (hu : u ∈ targets) : r.Finished targets done (r.step u l) := by
  refine ⟨hdone.subset, ?_, hdone.closed⟩
  intro t ht
  by_cases hmem : u ∈ done
  · rw [show r.step u l = l from hdone.settled u hmem]
    exact hdone.settled t ht
  · refine h.settled_of_not_covers (hdone.subset ht) hu ?_ ?_ hl (hdone.settled t ht)
    · rintro rfl
      exact hmem ht
    · intro hcovers
      exact hmem (hdone.closed t ht u hu hcovers)

theorem insert (h : r.Lawful targets inv) (hl : inv l) (hdone : r.Finished targets done l) {t : τ}
    (ht : t ∈ targets) (hready : r.Ready targets done t) :
    r.Finished targets (Insert.insert t done) (r.step t l) := by
  have hkeep := hdone.step h hl ht
  refine ⟨Set.insert_subset ht hdone.subset, ?_, ?_⟩
  · rintro u (rfl | hu)
    · exact h.settled_step ht hl
    · exact hkeep.settled u hu
  · rintro u (rfl | hu) v hv hcovers
    · exact Or.inr (hready v hv hcovers)
    · exact Or.inr (hdone.closed u hu v hv hcovers)

theorem run_keeps (h : r.Lawful targets inv) {ops : List τ} (hops : ∀ t ∈ ops, t ∈ targets)
    (hl : inv l) (hdone : r.Finished targets done l) : r.Finished targets done (r.run ops l) := by
  induction ops generalizing l with
  | nil => exact hdone
  | cons t ops ih =>
      have ht := hops t List.mem_cons_self
      exact ih (fun u hu => hops u (List.mem_cons_of_mem t hu)) (h.inv_step t ht l hl)
        (hdone.step h hl ht)

theorem run (h : r.Lawful targets inv) {ops : List τ} (hops : ∀ t ∈ ops, t ∈ targets)
    (hl : inv l) (hdone : r.Finished targets done l) :
    r.Finished targets (done ∪ {t | t ∈ ops ∧ r.Ready targets done t}) (r.run ops l) := by
  have hkeep := hdone.run_keeps h hops hl
  refine ⟨?_, ?_, ?_⟩
  · rintro t (ht | ht)
    · exact hdone.subset ht
    · exact hops t ht.1
  · rintro t (ht | ⟨hmem, hready⟩)
    · exact hkeep.settled t ht
    · obtain ⟨before, after, rfl⟩ := List.append_of_mem hmem
      have hbefore : ∀ u ∈ before, u ∈ targets := fun u hu => hops u (List.mem_append_left _ hu)
      have hafter : ∀ u ∈ after, u ∈ targets := fun u hu =>
        hops u (List.mem_append_right _ (List.mem_cons_of_mem t hu))
      have ht := hops t hmem
      have hinv := h.inv_run hbefore hl
      have hmade := (hdone.run_keeps h hbefore hl).insert h hinv ht hready
      have hlast := hmade.run_keeps h hafter (h.inv_step t ht _ hinv)
      rw [Repairs.run, List.foldl_append]
      exact hlast.settled t (Set.mem_insert t done)
  · rintro t (ht | ⟨_, hready⟩) u hu hcovers
    · exact Or.inl (hdone.closed t ht u hu hcovers)
    · exact Or.inl (hready u hu hcovers)

theorem frame (h : r.Lawful targets inv) {ops : List τ} (hops : ∀ t ∈ ops, t ∈ targets)
    (hl : inv l) (hdone : r.Finished targets done l) {k : Nat}
    (hk : ∀ t ∈ targets, k ∈ r.writes t → t ∈ done) : (r.run ops l)[k]? = l[k]? := by
  induction ops generalizing l with
  | nil => rfl
  | cons t ops ih =>
      have ht := hops t List.mem_cons_self
      have hstep : (r.step t l)[k]? = l[k]? := by
        by_cases hwrite : k ∈ r.writes t
        · rw [show r.step t l = l from hdone.settled t (hk t ht hwrite)]
        · exact h.frame t ht l hl k hwrite
      exact (ih (fun u hu => hops u (List.mem_cons_of_mem t hu)) (h.inv_step t ht l hl)
        (hdone.step h hl ht)).trans hstep

end Finished

theorem run_eq_of_settled {ops : List τ} (h : ∀ t ∈ ops, r.Settled t l) : r.run ops l = l := by
  induction ops with
  | nil => rfl
  | cons t ops ih =>
      have ht : r.step t l = l := h t List.mem_cons_self
      show r.run ops (r.step t l) = l
      rw [ht]
      exact ih fun u hu => h u (List.mem_cons_of_mem t hu)

/-! ## What may change -/

/-- A repair whose field may change: it is not settled, or it reads such a field. -/
inductive Stale (r : Repairs τ α) (targets : Set τ) (l : List α) : τ → Prop
  | wrong {t : τ} : t ∈ targets → ¬r.Settled t l → Stale r targets l t
  | covers {t u : τ} : t ∈ targets → r.Covers t u → Stale r targets l u → Stale r targets l t

theorem finished_fresh (r : Repairs τ α) (targets : Set τ) (l : List α) :
    r.Finished targets {t | t ∈ targets ∧ ¬r.Stale targets l t} l := by
  refine ⟨fun t ht => ht.1, ?_, ?_⟩
  · rintro t ⟨ht, hfresh⟩
    by_contra hne
    exact hfresh (Stale.wrong ht hne)
  · rintro t ⟨ht, hfresh⟩ u hu hcovers
    exact ⟨hu, fun hstale => hfresh (Stale.covers ht hcovers hstale)⟩

end Repairs

end FieldRepairs
