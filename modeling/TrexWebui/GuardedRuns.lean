import Mathlib.Logic.Basic

/-!
# Guarded runs

A system changes its state by effects. Each effect has a guard, which says in
which states the system may carry it out, and between two effects somebody
else may interfere. A run keeps the trace of its effects, the last one first,
each with the state before it.

What every guarded effect and every interference preserves holds at the end
of a run (`Run.holds`) and in every state of its trace (`Run.of_mem`). A
preorder that every step moves along relates any two states of a run
(`Run.related`).
-/

namespace GuardedRuns

variable {σ ε : Type}

structure System (σ ε : Type) where
  change : σ → ε → σ
  Allowed : σ → ε → Prop
  Interferes : σ → σ → Prop

/-- The runs from one state. -/
inductive Run (S : System σ ε) (s : σ) : List (σ × ε) → σ → Prop where
  | start : Run S s [] s
  | effect {trace : List (σ × ε)} {s' : σ} {e : ε} :
      Run S s trace s' → S.Allowed s' e → Run S s ((s', e) :: trace) (S.change s' e)
  | interference {trace : List (σ × ε)} {s' s'' : σ} :
      Run S s trace s' → S.Interferes s' s'' → Run S s trace s''

/-- Every step preserves it. -/
structure Invariant (S : System σ ε) (I : σ → Prop) : Prop where
  effect : ∀ {s e}, I s → S.Allowed s e → I (S.change s e)
  interference : ∀ {s s'}, I s → S.Interferes s s' → I s'

variable {S : System σ ε} {I : σ → Prop} {s s' s'' : σ} {trace trace' : List (σ × ε)}

theorem Run.holds (h : Run S s trace s') (hI : Invariant S I) (hs : I s) : I s' := by
  induction h with
  | start => exact hs
  | effect _ hallowed ih => exact hI.effect ih hallowed
  | interference _ hinterferes ih => exact hI.interference ih hinterferes

/-- Every effect of a run was allowed, in a state of the invariant. -/
theorem Run.of_mem (h : Run S s trace s') (hI : Invariant S I) (hs : I s) :
    ∀ p ∈ trace, I p.1 ∧ S.Allowed p.1 p.2 := by
  induction h with
  | start => exact fun p hp => nomatch hp
  | effect hrun hallowed ih =>
      intro p hp
      rcases List.mem_cons.mp hp with rfl | hp
      · exact ⟨hrun.holds hI hs, hallowed⟩
      · exact ih p hp
  | interference _ _ ih => exact ih

/-- A relation that every step of a kind moves along relates the ends of a run of such steps. -/
theorem Run.related {R : σ → σ → Prop} {P : σ → ε → Prop} (h : Run S s trace s')
    (hI : Invariant S I) (hs : I s) (hP : ∀ p ∈ trace, P p.1 p.2) (hrefl : ∀ s, I s → R s s)
    (htrans : ∀ {a b c}, R a b → R b c → R a c)
    (heffect : ∀ {s e}, I s → S.Allowed s e → P s e → R s (S.change s e))
    (hinterference : ∀ {s s'}, I s → S.Interferes s s' → R s s') : R s s' := by
  induction h with
  | start => exact hrefl _ hs
  | effect hrun hallowed ih =>
      have hstep := heffect (hrun.holds hI hs) hallowed (hP _ List.mem_cons_self)
      exact htrans (ih fun p hp => hP p (List.mem_cons_of_mem _ hp)) hstep
  | interference hrun hinterferes ih =>
      exact htrans (ih hP) (hinterference (hrun.holds hI hs) hinterferes)

end GuardedRuns
