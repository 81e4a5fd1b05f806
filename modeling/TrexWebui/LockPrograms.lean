import Mathlib.Data.Fintype.Basic
import Mathlib.Data.Finset.Max
import Mathlib.Algebra.BigOperators.Group.Finset.Basic
import Mathlib.Algebra.Order.BigOperators.Group.Finset
import Mathlib.Logic.Function.Basic
import Mathlib.Logic.Relation

/-!
# Programs that take locks

Threads that acquire and release re-entrant locks, with everything else they do left out. A
`LockProgram` is the shape of a function: its `with` blocks, its branches, its loops, and
the places where an exception is caught. `Trace` gives the sequences of acquisitions and
releases that it can perform, and an exception may end any part of it.

A system is one thread for each index, and a step is one action of one thread. A set of
threads is a cycle when each of them waits for a lock that another one of the set holds. The
main result is the classical one (`LockOrder.not_cycle`): when every thread takes its locks
in the order of one rank, no reachable state has a cycle, and all threads can finish.
-/

namespace LockPrograms

variable {L : Type}

/-! ## Programs and their traces -/

inductive LockProgram (L : Type) where
  | skip
  /-- An exception is raised. -/
  | fail
  | locked (l : L) (body : LockProgram L)
  | seq (a b : LockProgram L)
  | choice (a b : LockProgram L)
  | attempt (body handler : LockProgram L)
  | loop (body : LockProgram L)

inductive Action (L : Type) where
  | acquire (l : L)
  | release (l : L)
  deriving DecidableEq

open Action LockProgram

/-- What a program can do, and whether it returns or raises. -/
inductive Trace : LockProgram L → List (Action L) → Bool → Prop
  | skip : Trace .skip [] true
  | raised (p : LockProgram L) : Trace p [] false
  | locked {l : L} {body : LockProgram L} {t : List (Action L)} {r : Bool} :
      Trace body t r → Trace (.locked l body) (acquire l :: (t ++ [release l])) r
  | seq {a b : LockProgram L} {t u : List (Action L)} {r : Bool} :
      Trace a t true → Trace b u r → Trace (.seq a b) (t ++ u) r
  | seq_raised {a b : LockProgram L} {t : List (Action L)} :
      Trace a t false → Trace (.seq a b) t false
  | left {a b : LockProgram L} {t : List (Action L)} {r : Bool} :
      Trace a t r → Trace (.choice a b) t r
  | right {a b : LockProgram L} {t : List (Action L)} {r : Bool} :
      Trace b t r → Trace (.choice a b) t r
  | attempt {body handler : LockProgram L} {t : List (Action L)} :
      Trace body t true → Trace (.attempt body handler) t true
  | handled {body handler : LockProgram L} {t u : List (Action L)} {r : Bool} :
      Trace body t false → Trace handler u r → Trace (.attempt body handler) (t ++ u) r
  | loop_done {body : LockProgram L} : Trace (.loop body) [] true
  | loop_raised {body : LockProgram L} {t : List (Action L)} :
      Trace body t false → Trace (.loop body) t false
  | loop_step {body : LockProgram L} {t u : List (Action L)} {r : Bool} :
      Trace body t true → Trace (.loop body) u r → Trace (.loop body) (t ++ u) r

/-! ## Systems -/

/-- A thread: the locks it holds, once for each acquisition, and what it has still to do. -/
structure Thread (L : Type) where
  held : List L
  todo : List (Action L)

variable {ι : Type}

abbrev State (ι L : Type) : Type := ι → Thread L

def WaitsFor (s : State ι L) (i j : ι) : Prop :=
  ∃ l rest, (s i).todo = acquire l :: rest ∧ j ≠ i ∧ l ∈ (s j).held

def Cycle (s : State ι L) (threads : Set ι) : Prop :=
  threads.Nonempty ∧ ∀ i ∈ threads, ∃ j ∈ threads, WaitsFor s i j

def Finished (s : State ι L) : Prop := ∀ i, (s i).todo = []

variable [DecidableEq ι] [DecidableEq L]

/-- One action of one thread. A lock that the thread holds already, it may take again. -/
inductive Step : State ι L → State ι L → Prop
  | acquire {s : State ι L} (i : ι) {l : L} {rest : List (Action L)}
      (htodo : (s i).todo = acquire l :: rest) (hfree : ∀ j, j ≠ i → l ∉ (s j).held) :
      Step s (Function.update s i ⟨l :: (s i).held, rest⟩)
  | release {s : State ι L} (i : ι) {l : L} {rest : List (Action L)}
      (htodo : (s i).todo = release l :: rest) :
      Step s (Function.update s i ⟨(s i).held.erase l, rest⟩)

abbrev Reaches : State ι L → State ι L → Prop := Relation.ReflTransGen Step

def start (traces : ι → List (Action L)) : State ι L := fun i => ⟨[], traces i⟩

/-! ## Ordered threads -/

section Order

variable (rank : L → Nat)

/-- From the locks `held`, the actions acquire each lock above all that are held then, or
again, and hold none at the end. -/
def Ordered : (held : List L) → List (Action L) → Prop
  | held, [] => held = []
  | held, acquire l :: rest =>
    (l ∈ held ∨ ∀ h ∈ held, rank h < rank l) ∧ Ordered (l :: held) rest
  | held, release l :: rest => Ordered (held.erase l) rest

def LockProgram.Ordered : (held : List L) → LockProgram L → Prop
  | _, .skip | _, .fail => True
  | held, .locked l body =>
    (l ∈ held ∨ ∀ h ∈ held, rank h < rank l) ∧ LockProgram.Ordered (l :: held) body
  | held, .seq a b => LockProgram.Ordered held a ∧ LockProgram.Ordered held b
  | held, .choice a b => LockProgram.Ordered held a ∧ LockProgram.Ordered held b
  | held, .attempt body handler =>
    LockProgram.Ordered held body ∧ LockProgram.Ordered held handler
  | held, .loop body => LockProgram.Ordered held body

instance decidableOrdered : (held : List L) → (p : LockProgram L) →
    Decidable (LockProgram.Ordered rank held p)
  | _, .skip | _, .fail => isTrue trivial
  | held, .locked l body =>
    have := decidableOrdered (l :: held) body
    inferInstanceAs (Decidable (_ ∧ _))
  | held, .seq a b =>
    have := decidableOrdered held a
    have := decidableOrdered held b
    inferInstanceAs (Decidable (_ ∧ _))
  | held, .choice a b =>
    have := decidableOrdered held a
    have := decidableOrdered held b
    inferInstanceAs (Decidable (_ ∧ _))
  | held, .attempt body handler =>
    have := decidableOrdered held body
    have := decidableOrdered held handler
    inferInstanceAs (Decidable (_ ∧ _))
  | held, .loop body => decidableOrdered held body

variable {rank}

theorem Trace.ordered {p : LockProgram L} {t : List (Action L)} {r : Bool} (h : Trace p t r)
    {held : List L} (hp : LockProgram.Ordered rank held p) {rest : List (Action L)}
    (hrest : Ordered rank held rest) : Ordered rank held (t ++ rest) := by
  induction h generalizing held rest with
  | skip => exact hrest
  | raised p => exact hrest
  | @locked l body t r _ ih =>
      refine ⟨hp.1, ?_⟩
      change Ordered rank (l :: held) ((t ++ [release l]) ++ rest)
      rw [List.append_assoc]
      refine ih hp.2 ?_
      change Ordered rank ((l :: held).erase l) rest
      rwa [List.erase_cons_head]
  | seq _ _ iha ihb =>
      rw [List.append_assoc]
      exact iha hp.1 (ihb hp.2 hrest)
  | seq_raised _ ih => exact ih hp.1 hrest
  | left _ ih => exact ih hp.1 hrest
  | right _ ih => exact ih hp.2 hrest
  | attempt _ ih => exact ih hp.1 hrest
  | handled _ _ ihbody ihhandler =>
      rw [List.append_assoc]
      exact ihbody hp.1 (ihhandler hp.2 hrest)
  | loop_done => exact hrest
  | loop_raised _ ih => exact ih hp hrest
  | loop_step _ _ ihbody ihloop =>
      rw [List.append_assoc]
      exact ihbody hp (ihloop hp hrest)

/-- The invariant of a system whose threads keep to one rank. -/
structure LockOrder (rank : L → Nat) (s : State ι L) : Prop where
  ordered : ∀ i, Ordered rank (s i).held (s i).todo
  exclusive : ∀ i j l, l ∈ (s i).held → l ∈ (s j).held → i = j

namespace LockOrder

variable {s s' : State ι L}

omit [DecidableEq ι] in
theorem start {program : ι → LockProgram L} {traces : ι → List (Action L)} {r : ι → Bool}
    (hprogram : ∀ i, LockProgram.Ordered rank [] (program i))
    (htraces : ∀ i, Trace (program i) (traces i) (r i)) : LockOrder rank (start traces) where
  ordered i := by
    have hend : Ordered rank [] ([] : List (Action L)) := rfl
    have h := (htraces i).ordered (hprogram i) hend
    rwa [List.append_nil] at h
  exclusive i j l h := nomatch h

theorem step (h : LockOrder rank s) (hstep : Step s s') : LockOrder rank s' := by
  cases hstep with
  | acquire i htodo hfree =>
      rename_i l rest
      have hi := h.ordered i
      rw [htodo] at hi
      refine ⟨fun j => ?_, fun j k m hj hk => ?_⟩
      · by_cases hji : j = i
        · subst hji
          rw [Function.update_self]
          exact hi.2
        · rw [Function.update_of_ne hji]
          exact h.ordered j
      · by_cases hji : j = i <;> by_cases hki : k = i
        · rw [hji, hki]
        · subst hji
          rw [Function.update_self] at hj
          rw [Function.update_of_ne hki] at hk
          rcases List.mem_cons.mp hj with rfl | hj
          · exact absurd hk (hfree k hki)
          · exact h.exclusive j k m hj hk
        · subst hki
          rw [Function.update_self] at hk
          rw [Function.update_of_ne hji] at hj
          rcases List.mem_cons.mp hk with rfl | hk
          · exact absurd hj (hfree j hji)
          · exact h.exclusive j k m hj hk
        · rw [Function.update_of_ne hji] at hj
          rw [Function.update_of_ne hki] at hk
          exact h.exclusive j k m hj hk
  | release i htodo =>
      rename_i l rest
      have hi := h.ordered i
      rw [htodo] at hi
      have hheld : ∀ j m, m ∈ (Function.update s i ⟨(s i).held.erase l, rest⟩ j).held →
          m ∈ (s j).held := by
        intro j m hm
        by_cases hji : j = i
        · subst hji
          rw [Function.update_self] at hm
          exact List.mem_of_mem_erase hm
        · rwa [Function.update_of_ne hji] at hm
      refine ⟨fun j => ?_, fun j k m hj hk => h.exclusive j k m (hheld j m hj) (hheld k m hk)⟩
      by_cases hji : j = i
      · subst hji
        rw [Function.update_self]
        exact hi
      · rw [Function.update_of_ne hji]
        exact h.ordered j

theorem reaches (h : LockOrder rank s) (hreach : Reaches s s') : LockOrder rank s' := by
  induction hreach with
  | refl => exact h
  | tail _ hstep ih => exact ih.step hstep

omit [DecidableEq ι] in
theorem rank_lt (h : LockOrder rank s) {j k : ι} {l m : L} {rest : List (Action L)}
    (htodo : (s j).todo = acquire m :: rest) (hk : k ≠ j) (hm : m ∈ (s k).held)
    (hl : l ∈ (s j).held) : rank l < rank m := by
  have hj := h.ordered j
  rw [htodo] at hj
  rcases hj.1 with hheld | hbelow
  · exact absurd (h.exclusive k j m hm hheld) hk
  · exact hbelow l hl

variable [Fintype ι]

omit [DecidableEq ι] in
/-- Threads that keep to one rank never wait for each other in a cycle: among those of a
cycle, one waits for a lock of the highest rank, but its holder waits for a higher one. -/
theorem not_cycle (h : LockOrder rank s) (threads : Set ι) : ¬ Cycle s threads := by
  rintro ⟨hnonempty, hwait⟩
  classical
  let next : ι → Nat := fun i =>
    match (s i).todo with
    | acquire l :: _ => rank l
    | _ => 0
  obtain ⟨i, hi, hmax⟩ := Finset.exists_max_image threads.toFinset next
    (Set.toFinset_nonempty.mpr hnonempty)
  obtain ⟨j, hj, l, rest, htodo, hne, hheld⟩ := hwait i (Set.mem_toFinset.mp hi)
  obtain ⟨k, hk, m, rest', htodo', hne', hheld'⟩ := hwait j hj
  have hlt := h.rank_lt htodo' hne' hheld' hheld
  have hle := hmax j (Set.mem_toFinset.mpr hj)
  simp only [next, htodo, htodo'] at hle
  omega

theorem progress (h : LockOrder rank s) (hbusy : ¬ Finished s) : ∃ s', Step s s' := by
  by_contra hstuck
  refine h.not_cycle {i | (s i).todo ≠ []} ⟨not_forall.mp hbusy, fun i hi => ?_⟩
  rcases htodo : (s i).todo with _ | ⟨_ | _, rest⟩
  · exact absurd htodo hi
  · rename_i l
    have hheld : ∃ j, j ≠ i ∧ l ∈ (s j).held := by
      by_contra hfree
      push Not at hfree
      exact hstuck ⟨_, .acquire i htodo hfree⟩
    obtain ⟨j, hne, hl⟩ := hheld
    refine ⟨j, fun hdone => ?_, l, rest, htodo, hne, hl⟩
    have hj := h.ordered j
    rw [hdone] at hj
    change (s j).held = [] at hj
    rw [hj] at hl
    cases hl
  · exact absurd ⟨_, .release i htodo⟩ hstuck

end LockOrder

def left [Fintype ι] (s : State ι L) : Nat := ∑ i, (s i).todo.length

omit [DecidableEq L] in
theorem left_update [Fintype ι] (s : State ι L) (i : ι) {a : Action L} {held : List L}
    {rest : List (Action L)} (htodo : (s i).todo = a :: rest) :
    left (Function.update s i ⟨held, rest⟩) < left s := by
  refine Finset.sum_lt_sum (fun j _ => ?_) ⟨i, Finset.mem_univ i, ?_⟩
  · by_cases hji : j = i
    · subst hji
      rw [Function.update_self, htodo, List.length_cons]
      exact Nat.le_succ _
    · rw [Function.update_of_ne hji]
  · rw [Function.update_self, htodo, List.length_cons]
    exact Nat.lt_succ_self _

theorem left_step [Fintype ι] {s s' : State ι L} (h : Step s s') : left s' < left s := by
  cases h with
  | acquire i htodo _ => exact left_update s i htodo
  | release i htodo => exact left_update s i htodo

theorem LockOrder.finishes [Fintype ι] {s : State ι L} (h : LockOrder rank s) :
    ∃ s', Reaches s s' ∧ Finished s' := by
  by_cases hdone : Finished s
  · exact ⟨s, .refl, hdone⟩
  · obtain ⟨s', hstep⟩ := h.progress hdone
    have hless := left_step hstep
    obtain ⟨s'', hreach, hfinished⟩ := (h.step hstep).finishes
    exact ⟨s'', .head hstep hreach, hfinished⟩
termination_by left s

end Order

/-! ## Two threads that shut each other out -/

section Pair

def heldAfter : (held : List L) → List (Action L) → List L
  | held, [] => held
  | held, acquire l :: rest => heldAfter (l :: held) rest
  | held, release l :: rest => heldAfter (held.erase l) rest

def acquired : List (Action L) → List L
  | [] => []
  | acquire l :: rest => l :: acquired rest
  | release _ :: rest => acquired rest

theorem advance {s : State ι L} {i : ι} (actions rest : List (Action L))
    (htodo : (s i).todo = actions ++ rest)
    (hfree : ∀ l ∈ acquired actions, ∀ j, j ≠ i → l ∉ (s j).held) :
    Reaches s (Function.update s i ⟨heldAfter (s i).held actions, rest⟩) := by
  induction actions generalizing s with
  | nil =>
      have hsame : Function.update s i ⟨heldAfter (s i).held [], rest⟩ = s := by
        rw [Function.update_eq_self_iff]
        change (⟨(s i).held, rest⟩ : Thread L) = s i
        rw [← (show (s i).todo = rest from htodo)]
      rw [hsame]
  | cons a actions ih =>
      cases a with
      | acquire l =>
          have hl := hfree l List.mem_cons_self
          have hstep := Step.acquire i htodo hl
          have hrest := ih (s := Function.update s i ⟨l :: (s i).held, actions ++ rest⟩)
            (by rw [Function.update_self]) fun m hm j hj => by
              rw [Function.update_of_ne hj]
              exact hfree m (List.mem_cons_of_mem l hm) j hj
          rw [Function.update_self, Function.update_idem] at hrest
          exact .head hstep hrest
      | release l =>
          have hstep := Step.release i htodo
          have hrest := ih (s := Function.update s i ⟨(s i).held.erase l, actions ++ rest⟩)
            (by rw [Function.update_self]) fun m hm j hj => by
              rw [Function.update_of_ne hj]
              exact hfree m hm j hj
          rw [Function.update_self, Function.update_idem] at hrest
          exact .head hstep hrest

/-- Two threads come to wait for each other, when each begins with actions that get it the
lock that the other one acquires next, and they do not need the same locks before. -/
theorem reaches_cycle {traces : ι → List (Action L)} {i j : ι} (hij : i ≠ j) {a b : L}
    {p q p' q' : List (Action L)} (hi : traces i = p ++ acquire a :: p')
    (hj : traces j = q ++ acquire b :: q') (ha : a ∈ heldAfter [] q) (hb : b ∈ heldAfter [] p)
    (hfree : ∀ l ∈ acquired q, l ∉ heldAfter [] p) :
    ∃ s, Reaches (start traces) s ∧ Cycle s {i, j} := by
  have hfirst := advance (s := start traces) (i := i) p _ hi fun l _ k _ h => nomatch h
  have hsecond := advance (i := j) q (acquire b :: q')
    (s := Function.update (start traces) i ⟨heldAfter [] p, acquire a :: p'⟩)
    (by rw [Function.update_of_ne hij.symm]; exact hj)
    fun l hl k hk => by
      by_cases hki : k = i
      · subst hki
        rw [Function.update_self]
        exact hfree l hl
      · rw [Function.update_of_ne hki]
        exact fun h => nomatch h
  rw [Function.update_of_ne hij.symm] at hsecond
  refine ⟨_, hfirst.trans hsecond, ⟨i, .inl rfl⟩, fun k hk => ?_⟩
  rcases hk with rfl | rfl
  · refine ⟨j, .inr rfl, a, p', ?_, hij.symm, ?_⟩
    · rw [Function.update_of_ne hij, Function.update_self]
    · rw [Function.update_self]
      exact ha
  · refine ⟨i, .inl rfl, b, q', ?_, hij, ?_⟩
    · rw [Function.update_self]
    · rw [Function.update_of_ne hij, Function.update_self]
      exact hb

end Pair

end LockPrograms
