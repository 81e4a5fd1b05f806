import Mathlib.Data.List.Forall2

/-!
# Programs that consult an oracle

A program runs against a state `σ` that it owns and an oracle whose answers
it cannot foresee. `κ` is the history of the oracle: every consultation may
extend it, and the oracle answers as a function of it, so that a program
and an oracle together are deterministic while nothing is assumed about the
answers. `ε` is the type of the exceptions.

A `Query` reads the state and consults the oracle but cannot write the
state; a `Program` can. That a query leaves the state alone is therefore
not a lemma about each query but a fact about the type, and the rule for a
lifted query (`Spec.query_bind`) says so once.

`Spec I w m Q E` is the specification of a program from one state: if the
invariant `I` holds of `w`, then for every history of the oracle, the
program ends in a state with `I` again, and with `Q` of its result if it
returns or with `E` if it raises.
-/

namespace OracleProgram

variable {ε σ κ α β : Type}

/-! ## Queries and programs -/

def Query (ε σ κ α : Type) : Type := σ → κ → Except ε α × κ

def Program (ε σ κ α : Type) : Type := σ → κ → (Except ε α × σ) × κ

instance : Monad (Query ε σ κ) where
  pure a := fun _ k => (.ok a, k)
  bind q f := fun w k =>
    match q w k with
    | (.ok a, k') => f a w k'
    | (.error e, k') => (.error e, k')

instance : LawfulMonad (Query ε σ κ) := LawfulMonad.mk' _
  (fun q => by
    funext w k
    change (match q w k with
      | (.ok a, k') => (.ok a, k')
      | (.error e, k') => (.error e, k')) = q w k
    rcases q w k with ⟨r, k'⟩
    cases r <;> rfl)
  (fun _ _ => rfl)
  (fun q f g => by
    funext w k
    change (match (match q w k with
        | (.ok a, k') => f a w k'
        | (.error e, k') => (.error e, k')) with
      | (.ok b, k') => g b w k'
      | (.error e, k') => (.error e, k')) = (match q w k with
        | (.ok a, k') => (f a >>= g) w k'
        | (.error e, k') => (.error e, k'))
    rcases q w k with ⟨r, k'⟩
    cases r <;> rfl)

instance : MonadExceptOf ε (Query ε σ κ) where
  throw e := fun _ k => (.error e, k)
  tryCatch q handler := fun w k =>
    match q w k with
    | (.ok a, k') => (.ok a, k')
    | (.error e, k') => handler e w k'

instance : Monad (Program ε σ κ) where
  pure a := fun w k => ((.ok a, w), k)
  bind m f := fun w k =>
    match m w k with
    | ((.ok a, w'), k') => f a w' k'
    | ((.error e, w'), k') => ((.error e, w'), k')

instance : LawfulMonad (Program ε σ κ) := LawfulMonad.mk' _
  (fun m => by
    funext w k
    change (match m w k with
      | ((.ok a, w'), k') => ((.ok a, w'), k')
      | ((.error e, w'), k') => ((.error e, w'), k')) = m w k
    rcases m w k with ⟨⟨r, w'⟩, k'⟩
    cases r <;> rfl)
  (fun _ _ => rfl)
  (fun m f g => by
    funext w k
    change (match (match m w k with
        | ((.ok a, w'), k') => f a w' k'
        | ((.error e, w'), k') => ((.error e, w'), k')) with
      | ((.ok b, w'), k') => g b w' k'
      | ((.error e, w'), k') => ((.error e, w'), k')) = (match m w k with
        | ((.ok a, w'), k') => (f a >>= g) w' k'
        | ((.error e, w'), k') => ((.error e, w'), k'))
    rcases m w k with ⟨⟨r, w'⟩, k'⟩
    cases r <;> rfl)

instance : MonadExceptOf ε (Program ε σ κ) where
  throw e := fun w k => ((.error e, w), k)
  tryCatch m handler := fun w k =>
    match m w k with
    | ((.ok a, w'), k') => ((.ok a, w'), k')
    | ((.error e, w'), k') => handler e w' k'

/-- A query is a program that returns the state it was given. -/
instance : MonadLift (Query ε σ κ) (Program ε σ κ) where
  monadLift q := fun w k => let (r, k') := q w k; ((r, w), k')

def Query.asks (view : σ → α) : Query ε σ κ α := fun w k => (.ok (view w), k)

def Program.modify (f : σ → σ) : Program ε σ κ Unit := fun w k => ((.ok (), f w), k)

section Control

variable {m : Type → Type} [Monad m] [MonadExceptOf ε m]

/-- `if c: raise e`. -/
def raiseIf (c : Prop) [Decidable c] (e : ε) : m Unit := if c then throw e else pure ()

/-- `try: a = body` with `except E as e: return handler(e)`, and then `rest(a)`
outside the `try`. `caught` says which exceptions the clause catches. -/
def guarded (caught : ε → Bool) (body : m α) (handler : ε → m β) (rest : α → m β) : m β := do
  let outcome ← tryCatch (do let a ← body; pure (Except.ok a)) fun e => pure (Except.error e)
  match outcome with
  | .ok a => rest a
  | .error e => if caught e then handler e else throw e

/-- `try: body finally: cleanup`. An exception of the cleanup replaces that of the
body; after a `fatal` exception nothing runs any more. -/
def ensuring (fatal : ε → Bool) (body : m α) (cleanup : m Unit) : m α := do
  let outcome ← tryCatch (do let a ← body; pure (Except.ok a)) fun e => pure (Except.error e)
  match outcome with
  | .ok a => do cleanup; pure a
  | .error e => if fatal e then throw e else do cleanup; throw e

end Control

/-! ## Runs

How a sequence runs when its first step is known to return or to raise. -/

theorem Query.bind_ok {q : Query ε σ κ α} {f : α → Query ε σ κ β} {w : σ} {k k' : κ} {a : α}
    (h : q w k = (.ok a, k')) : (q >>= f) w k = f a w k' := by
  simp only [Bind.bind, h]

theorem Query.bind_error {q : Query ε σ κ α} {f : α → Query ε σ κ β} {w : σ} {k k' : κ} {e : ε}
    (h : q w k = (.error e, k')) : (q >>= f) w k = (.error e, k') := by
  simp only [Bind.bind, h]

theorem Program.bind_ok {m : Program ε σ κ α} {f : α → Program ε σ κ β} {w w' : σ} {k k' : κ}
    {a : α} (h : m w k = ((.ok a, w'), k')) : (m >>= f) w k = f a w' k' := by
  simp only [Bind.bind, h]

theorem Program.bind_error {m : Program ε σ κ α} {f : α → Program ε σ κ β} {w w' : σ}
    {k k' : κ} {e : ε} (h : m w k = ((.error e, w'), k')) :
    (m >>= f) w k = ((.error e, w'), k') := by
  simp only [Bind.bind, h]

theorem Program.liftM_eq {q : Query ε σ κ α} {w : σ} {k : κ} :
    (liftM q : Program ε σ κ α) w k = (((q w k).1, w), (q w k).2) := rfl

theorem Program.query_ok {q : Query ε σ κ α} {f : α → Program ε σ κ β} {w : σ} {k k' : κ}
    {a : α} (h : q w k = (.ok a, k')) :
    ((liftM q : Program ε σ κ α) >>= f) w k = f a w k' :=
  Program.bind_ok (by rw [Program.liftM_eq, h])

theorem Program.query_error {q : Query ε σ κ α} {f : α → Program ε σ κ β} {w : σ} {k k' : κ}
    {e : ε} (h : q w k = (.error e, k')) :
    ((liftM q : Program ε σ κ α) >>= f) w k = ((.error e, w), k') :=
  Program.bind_error (by rw [Program.liftM_eq, h])

/-- `try … except` around a body that returns. -/
theorem Program.guarded_ok {caught : ε → Bool} {m : Program ε σ κ α}
    {handler : ε → Program ε σ κ β} {rest : α → Program ε σ κ β} {w w' : σ} {k k' : κ} {a : α}
    (h : m w k = ((.ok a, w'), k')) : guarded caught m handler rest w k = rest a w' k' := by
  simp only [guarded, tryCatch, tryCatchThe, MonadExceptOf.tryCatch, Bind.bind, Pure.pure, h]

/-- `try … finally` with a cleanup that returns. -/
theorem Program.ensuring_run {fatal : ε → Bool} {m : Program ε σ κ α}
    {cleanup : Program ε σ κ Unit} {w w' w'' : σ} {k k' k'' : κ} {r : Except ε α}
    (hfatal : ∀ e, fatal e = false) (hm : m w k = ((r, w'), k'))
    (hcleanup : cleanup w' k' = ((.ok (), w''), k'')) :
    ensuring fatal m cleanup w k = ((r, w''), k'') := by
  cases r <;> simp [ensuring, tryCatch, tryCatchThe, MonadExceptOf.tryCatch, Bind.bind,
    Pure.pure, hm, hcleanup, hfatal, MonadExceptOf.throw, throw, throwThe]

/-! ## Specifications -/

/-- What a program guarantees from the state `w`, against every oracle. -/
structure Spec (I : σ → Prop) (w : σ) (m : Program ε σ κ α) (Q : α → σ → Prop)
    (E : σ → Prop) : Prop where
  run : I w → ∀ k, match (m w k).1 with
    | (.ok a, w') => I w' ∧ Q a w'
    | (.error _, w') => I w' ∧ E w'

/-- What a query answers with in the state `w`, against every oracle. -/
structure Answers (w : σ) (q : Query ε σ κ α) (P : α → Prop) : Prop where
  run : ∀ k, match (q w k).1 with
    | .ok a => P a
    | .error _ => True

/-- As `Answers`, but the query raises only with the excuse `F`. -/
structure Gives (w : σ) (F : Prop) (q : Query ε σ κ α) (P : α → Prop) : Prop where
  run : ∀ k, match (q w k).1 with
    | .ok a => P a
    | .error _ => F

namespace Spec

variable {I : σ → Prop} {w : σ} {Q Q' : α → σ → Prop} {R : β → σ → Prop} {E E' : σ → Prop}
  {m : Program ε σ κ α} {f : α → Program ε σ κ β}

theorem pure {a : α} (h : Q a w) : Spec I w (Pure.pure a : Program ε σ κ α) Q E :=
  ⟨fun hI _ => ⟨hI, h⟩⟩

theorem throw {e : ε} (h : E w) : Spec I w (throw e : Program ε σ κ α) Q E :=
  ⟨fun hI _ => ⟨hI, h⟩⟩

theorem assume (h : I w → Spec I w m Q E) : Spec I w m Q E := ⟨fun hI => (h hI).run hI⟩

theorem bind (hm : Spec I w m (fun a w' => Spec I w' (f a) R E) E) :
    Spec I w (m >>= f) R E := by
  refine ⟨fun hI k => ?_⟩
  have h := hm.run hI k
  change match (match m w k with
    | ((.ok a, w'), k') => f a w' k'
    | ((.error e, w'), k') => ((.error e, w'), k')).1 with
    | (.ok a, w') => I w' ∧ R a w'
    | (.error _, w') => I w' ∧ E w'
  rcases hrun : m w k with ⟨⟨r, w'⟩, k'⟩
  rw [hrun] at h
  cases r with
  | ok a => exact h.2.run h.1 k'
  | error e => exact h

theorem mono (hm : Spec I w m Q E) (hQ : ∀ a w', I w' → Q a w' → Q' a w')
    (hE : ∀ w', I w' → E w' → E' w') : Spec I w m Q' E' := by
  refine ⟨fun hI k => ?_⟩
  have h := hm.run hI k
  rcases hrun : m w k with ⟨⟨r, w'⟩, k'⟩
  rw [hrun] at h
  cases r with
  | ok a => exact ⟨h.1, hQ a w' h.1 h.2⟩
  | error e => exact ⟨h.1, hE w' h.1 h.2⟩

/-- The errors stay as they are. -/
theorem weaken (hm : Spec I w m Q E) (hQ : ∀ a w', I w' → Q a w' → Q' a w') : Spec I w m Q' E :=
  hm.mono hQ fun _ _ h => h

theorem all {ι : Type} {S : ι → α → σ → Prop} (herror : Spec I w m (fun _ _ => True) E)
    (h : ∀ i, Spec I w m (S i) fun _ => True) :
    Spec I w m (fun a w' => ∀ i, S i a w') E := by
  refine ⟨fun hI k => ?_⟩
  have hrun := herror.run hI k
  have hall := fun i => (h i).run hI k
  rcases hm : m w k with ⟨⟨r, w'⟩, k'⟩
  rw [hm] at hrun
  simp only [hm] at hall
  cases r with
  | ok a => exact ⟨hrun.1, fun i => (hall i).2⟩
  | error e => exact hrun

/-- A program may be specified with an invariant that holds of this run only. -/
theorem invariant {J : σ → Prop} (hin : I w → J w) (hout : ∀ w', J w' → I w')
    (hm : Spec J w m Q E) : Spec I w m Q E := by
  refine ⟨fun hI k => ?_⟩
  have h := hm.run (hin hI) k
  rcases hrun : m w k with ⟨⟨r, w'⟩, k'⟩
  rw [hrun] at h
  cases r with
  | ok a => exact ⟨hout w' h.1, h.2⟩
  | error e => exact ⟨hout w' h.1, h.2⟩

theorem keeps (hm : Spec I w m Q E) (hI : I w) (k : κ) : I (m w k).1.2 := by
  have h := hm.run hI k
  rcases hrun : m w k with ⟨⟨r, w'⟩, k'⟩
  rw [hrun] at h
  cases r with
  | ok a => exact h.1
  | error e => exact h.1

theorem returned (hm : Spec I w m Q E) (hI : I w) {w' : σ} {k k' : κ} {a : α}
    (h : m w k = ((.ok a, w'), k')) : I w' ∧ Q a w' := by
  have hrun := hm.run hI k
  rw [h] at hrun
  exact hrun

/-- A program that has no excuse returns. -/
theorem returns (hm : Spec I w m Q fun _ => False) (hI : I w) (k : κ) :
    ∃ a w' k', m w k = ((.ok a, w'), k') ∧ I w' ∧ Q a w' := by
  have h := hm.run hI k
  rcases hrun : m w k with ⟨⟨r, w'⟩, k'⟩
  rw [hrun] at h
  cases r with
  | ok a => exact ⟨a, w', k', rfl, h⟩
  | error e => exact h.2.elim

/-- The rule for a call: the callee's specification, then the rest from each of its
results. -/
theorem call {S : α → σ → Prop} {F : σ → Prop} (hm : Spec I w m S F)
    (hok : ∀ a w', I w' → S a w' → Spec I w' (f a) R E)
    (herror : ∀ w', I w' → F w' → E w') : Spec I w (m >>= f) R E :=
  bind (hm.mono hok herror)

/-- As `call`, with the errors of the callee. -/
theorem next (hm : Spec I w m Q E) (hok : ∀ a w', I w' → Q a w' → Spec I w' (f a) R E) :
    Spec I w (m >>= f) R E :=
  bind (hm.weaken hok)

theorem modify {g : σ → σ} {Q : Unit → σ → Prop} (hI : I w → I (g w)) (h : Q () (g w)) :
    Spec I w (Program.modify g : Program ε σ κ Unit) Q E :=
  ⟨fun hw _ => ⟨hI hw, h⟩⟩

theorem modify_bind {g : σ → σ} {f : Unit → Program ε σ κ β} (hI : I w → I (g w))
    (h : Spec I (g w) (f ()) R E) : Spec I w (Program.modify g >>= f) R E :=
  bind (modify hI h)

theorem query_of {q : Query ε σ κ α} {P : α → Prop} (hq : Answers w q P)
    (hok : ∀ a, P a → Q a w) (herror : E w) :
    Spec I w (liftM q : Program ε σ κ α) Q E := by
  refine ⟨fun hI k => ?_⟩
  have h := hq.run k
  change match ((q w k).1, w) with
    | (.ok a, w') => I w' ∧ Q a w'
    | (.error _, w') => I w' ∧ E w'
  rcases hrun : q w k with ⟨r, k'⟩
  rw [hrun] at h
  cases r with
  | ok a => exact ⟨hI, hok a h⟩
  | error e => exact ⟨hI, herror⟩

/-- A query does not change the state, whatever it answers. -/
theorem query {q : Query ε σ κ α} (hok : ∀ a, Q a w) (herror : E w) :
    Spec I w (liftM q : Program ε σ κ α) Q E := by
  refine query_of (P := fun _ => True) ⟨fun k => ?_⟩ (fun a _ => hok a) herror
  cases (q w k).1 with
  | ok a => trivial
  | error e => trivial

theorem query_bind {q : Query ε σ κ α} (herror : E w)
    (hok : ∀ a, Spec I w (f a) R E) :
    Spec I w ((liftM q : Program ε σ κ α) >>= f) R E :=
  bind (query hok herror)

theorem query_bind_of {q : Query ε σ κ α} {P : α → Prop} (hq : Answers w q P)
    (herror : E w) (hok : ∀ a, P a → Spec I w (f a) R E) :
    Spec I w ((liftM q : Program ε σ κ α) >>= f) R E :=
  bind (query_of hq hok herror)

theorem asks_bind {view : σ → α} (h : Spec I w (f (view w)) R E) :
    Spec I w ((liftM (Query.asks view : Query ε σ κ α) : Program ε σ κ α) >>= f) R E :=
  ⟨fun hI k => h.run hI k⟩

theorem raiseIf {c : Prop} {_ : Decidable c} {e : ε} {Q : Unit → σ → Prop}
    (herror : c → E w) (hok : ¬c → Q () w) :
    Spec I w (raiseIf c e : Program ε σ κ Unit) Q E := by
  unfold OracleProgram.raiseIf
  by_cases h : c
  · rw [if_pos h]
    exact throw (herror h)
  · rw [if_neg h]
    exact pure (hok h)

theorem raiseIf_bind {c : Prop} {_ : Decidable c} {e : ε} {f : Unit → Program ε σ κ β}
    (herror : E w) (hok : ¬c → Spec I w (f ()) R E) :
    Spec I w ((OracleProgram.raiseIf c e : Program ε σ κ Unit) >>= f) R E :=
  bind (raiseIf (fun _ => herror) hok)

theorem ite {c : Prop} {_ : Decidable c} {m m' : Program ε σ κ α}
    (hpos : c → Spec I w m Q E) (hneg : ¬c → Spec I w m' Q E) :
    Spec I w (if c then m else m') Q E := by
  by_cases h : c
  · rw [if_pos h]; exact hpos h
  · rw [if_neg h]; exact hneg h

/-- What `tryCatch` turns into a value of type `Except`. -/
theorem observe (hm : Spec I w m Q E) :
    Spec I w (tryCatch (do let a ← m; Pure.pure (Except.ok a))
      fun e => Pure.pure (Except.error e) : Program ε σ κ (Except ε α))
      (fun r w' => match r with | .ok a => Q a w' | .error _ => E w') (fun _ => False) := by
  refine ⟨fun hI k => ?_⟩
  have h := hm.run hI k
  rcases hrun : m w k with ⟨⟨r, w'⟩, k'⟩
  rw [hrun] at h
  have hobserved : (tryCatch (do let a ← m; Pure.pure (Except.ok a))
      fun e => Pure.pure (Except.error e) : Program ε σ κ (Except ε α)) w k
      = ((.ok r, w'), k') := by
    cases r <;> simp [tryCatch, tryCatchThe, MonadExceptOf.tryCatch, Bind.bind, Pure.pure, hrun]
  rw [hobserved]
  cases r with
  | ok a => exact h
  | error e => exact h

/-- The rule for `try … except`: the handler must cope with the state in which the
body raised, and so must the caller, for an exception that is not caught. -/
theorem guarded {caught : ε → Bool} {handler : ε → Program ε σ κ β}
    {S : α → σ → Prop} {F : σ → Prop} (hm : Spec I w m S F)
    (hok : ∀ a w', I w' → S a w' → Spec I w' (f a) R E)
    (hcaught : ∀ e w', I w' → F w' → Spec I w' (handler e) R E)
    (hraised : ∀ w', I w' → F w' → E w') :
    Spec I w (guarded caught m handler f) R E := by
  unfold OracleProgram.guarded
  refine bind ((observe hm).mono (fun r w' hI h => ?_) fun _ _ h => h.elim)
  cases r with
  | ok a => exact hok a w' hI h
  | error e => exact ite (fun _ => hcaught e w' hI h) fun _ => throw (hraised w' hI h)

/-- The rule for a `try` whose clause catches every exception. -/
theorem guarded_all {handler : ε → Program ε σ κ β} {S : α → σ → Prop} {F : σ → Prop}
    (hm : Spec I w m S F) (hok : ∀ a w', I w' → S a w' → Spec I w' (f a) R E)
    (hcaught : ∀ e w', I w' → F w' → Spec I w' (handler e) R E) :
    Spec I w (OracleProgram.guarded (fun _ => true) m handler f) R E := by
  unfold OracleProgram.guarded
  refine bind ((observe hm).mono (fun r w' hI h => ?_) fun _ _ h => h.elim)
  cases r with
  | ok a => exact hok a w' hI h
  | error e => exact hcaught e w' hI h

/-- A guarded query changes nothing, so its handler starts from the same state. -/
theorem query_guarded {caught : ε → Bool} {q : Query ε σ κ α}
    {handler : ε → Program ε σ κ β} (hraised : E w)
    (hcaught : ∀ e, Spec I w (handler e) R E) (hok : ∀ a, Spec I w (f a) R E) :
    Spec I w (OracleProgram.guarded caught (liftM q : Program ε σ κ α) handler f) R E := by
  refine guarded (S := fun _ w' => w' = w) (F := fun w' => w' = w)
    (query (fun _ => rfl) rfl) ?_ ?_ ?_
  · rintro a w' _ rfl; exact hok a
  · rintro e w' _ rfl; exact hcaught e
  · rintro w' _ rfl; exact hraised

/-- The rule for `try … finally` with a cleanup that does not change the state. -/
theorem ensuring {fatal : ε → Bool} {cleanup : Query ε σ κ Unit} (hm : Spec I w m Q E)
    (hQE : ∀ a w', I w' → Q a w' → E w') :
    Spec I w (ensuring fatal m (liftM cleanup : Program ε σ κ Unit)) Q E := by
  unfold OracleProgram.ensuring
  refine bind ((observe hm).mono (fun r w' hI h => ?_) fun _ _ h => h.elim)
  cases r with
  | ok a => exact query_bind (hQE a w' hI h) fun _ => pure h
  | error e => exact ite (fun _ => throw h) fun _ => query_bind h fun _ => throw h

/-- The rule for a loop over a list: an invariant of its own, and what its body raises. -/
theorem loop {γ : Type} {l : List γ} {body : γ → Program ε σ κ PUnit} {J : σ → Prop}
    (hJ : J w) (hbody : ∀ x ∈ l, ∀ w', I w' → J w' → Spec I w' (body x) (fun _ => J) E) :
    Spec I w (l.forM body) (fun _ => J) E := by
  induction l generalizing w with
  | nil => exact pure hJ
  | cons x rest ih =>
      refine assume fun hI => ?_
      have hx := hbody x List.mem_cons_self w hI hJ
      exact call hx
        (fun _ w' hI' hJ' => ih hJ' fun y hy => hbody y (List.mem_cons_of_mem x hy))
        fun _ _ h => h

theorem forM {γ : Type} {l : List γ} {body : γ → Program ε σ κ PUnit} {J : σ → Prop}
    (hJ : J w) (hbody : ∀ x ∈ l, ∀ w', I w' → J w' → Spec I w' (body x) (fun _ => J) J) :
    Spec I w (l.forM body) (fun _ => J) J :=
  loop hJ hbody

end Spec

namespace Answers

variable {w : σ} {P : α → Prop} {R : β → Prop} {q : Query ε σ κ α} {f : α → Query ε σ κ β}

theorem pure {a : α} (h : P a) : Answers w (Pure.pure a : Query ε σ κ α) P := ⟨fun _ => h⟩

theorem throw {e : ε} : Answers w (throw e : Query ε σ κ α) P := ⟨fun _ => trivial⟩

theorem bind (hq : Answers w q fun a => Answers w (f a) R) : Answers w (q >>= f) R := by
  refine ⟨fun k => ?_⟩
  have h := hq.run k
  change match (match q w k with
    | (.ok a, k') => f a w k'
    | (.error e, k') => (.error e, k')).1 with
    | .ok a => R a
    | .error _ => True
  rcases hrun : q w k with ⟨r, k'⟩
  rw [hrun] at h
  cases r with
  | ok a => exact h.run k'
  | error e => trivial

theorem mono (hq : Answers w q P) {P' : α → Prop} (h : ∀ a, P a → P' a) :
    Answers w q P' := by
  refine ⟨fun k => ?_⟩
  have hk := hq.run k
  cases hrun : (q w k).1 with
  | ok a => rw [hrun] at hk; exact h a hk
  | error e => trivial

theorem asks_bind {view : σ → α} (h : Answers w (f (view w)) R) :
    Answers w ((Query.asks view : Query ε σ κ α) >>= f) R :=
  ⟨fun k => h.run k⟩

theorem elim (hq : Answers w q P) {k k' : κ} {a : α} (h : q w k = (.ok a, k')) : P a := by
  have hrun := hq.run k
  rw [h] at hrun
  exact hrun

/-- The rule for `mapM`: the answers correspond to the items. -/
theorem mapM {γ : Type} {body : γ → Query ε σ κ α} {S : γ → α → Prop} {l : List γ}
    (h : ∀ x ∈ l, Answers w (body x) (S x)) :
    Answers w (l.mapM body) (List.Forall₂ S l) := by
  induction l with
  | nil => exact pure .nil
  | cons x rest ih =>
      rw [List.mapM_cons]
      refine bind ((h x List.mem_cons_self).mono fun a ha => ?_)
      exact bind ((ih fun y hy => h y (List.mem_cons_of_mem x hy)).mono
        fun as has => pure (.cons ha has))

theorem any : Answers w q fun _ => True := by
  refine ⟨fun k => ?_⟩
  cases (q w k).1 with
  | ok a => trivial
  | error e => trivial

theorem ite {c : Prop} {_ : Decidable c} {q q' : Query ε σ κ α}
    (hpos : c → Answers w q P) (hneg : ¬c → Answers w q' P) :
    Answers w (if c then q else q') P := by
  by_cases h : c
  · rw [if_pos h]; exact hpos h
  · rw [if_neg h]; exact hneg h

/-- The rule for a query with a `try`: the handler answers, or the rest does. -/
theorem guarded {caught : ε → Bool} {handler : ε → Query ε σ κ β}
    (hcaught : ∀ e, Answers w (handler e) R) (hok : ∀ a, Answers w (f a) R) :
    Answers w (OracleProgram.guarded caught q handler f) R := by
  unfold OracleProgram.guarded
  refine bind (any.mono fun outcome _ => ?_)
  cases outcome with
  | ok a => exact hok a
  | error e => exact ite (fun _ => hcaught e) fun _ => throw

theorem raiseIf {c : Prop} {_ : Decidable c} {e : ε} {P : Unit → Prop} (h : ¬c → P ()) :
    Answers w (raiseIf c e : Query ε σ κ Unit) P :=
  ite (fun _ => throw) fun hc => pure (h hc)

end Answers

/-! ## Queries that answer

With the excuse `False` a query always answers. -/

namespace Gives

variable {w : σ} {F : Prop} {P : α → Prop} {R : β → Prop} {q : Query ε σ κ α}
  {f : α → Query ε σ κ β}

theorem pure {a : α} (h : P a) : Gives w F (Pure.pure a : Query ε σ κ α) P := ⟨fun _ => h⟩

theorem bind (hq : Gives w F q fun a => Gives w F (f a) R) : Gives w F (q >>= f) R := by
  refine ⟨fun k => ?_⟩
  have h := hq.run k
  change match (match q w k with
    | (.ok a, k') => f a w k'
    | (.error e, k') => (.error e, k')).1 with
    | .ok a => R a
    | .error _ => F
  rcases hrun : q w k with ⟨r, k'⟩
  rw [hrun] at h
  cases r with
  | ok a => exact h.run k'
  | error e => exact h

theorem mono (hq : Gives w F q P) {P' : α → Prop} (h : ∀ a, P a → P' a) : Gives w F q P' := by
  refine ⟨fun k => ?_⟩
  have hk := hq.run k
  rcases hrun : q w k with ⟨r, k'⟩
  rw [hrun] at hk
  cases r with
  | ok a => exact h a hk
  | error e => exact hk

theorem call (hq : Gives w F q P) (hok : ∀ a, P a → Gives w F (f a) R) :
    Gives w F (q >>= f) R :=
  bind (hq.mono hok)

theorem asks_bind {view : σ → α} (h : Gives w F (f (view w)) R) :
    Gives w F ((Query.asks view : Query ε σ κ α) >>= f) R :=
  ⟨fun k => h.run k⟩

theorem ite {c : Prop} {_ : Decidable c} {q q' : Query ε σ κ α}
    (hpos : c → Gives w F q P) (hneg : ¬c → Gives w F q' P) :
    Gives w F (if c then q else q') P := by
  by_cases h : c
  · rw [if_pos h]; exact hpos h
  · rw [if_neg h]; exact hneg h

end Gives

theorem Spec.gives_bind {I : σ → Prop} {w : σ} {F : Prop} {q : Query ε σ κ α} {P : α → Prop}
    {f : α → Program ε σ κ β} {R : β → σ → Prop} {E : σ → Prop} (hq : Gives w F q P)
    (herror : F → E w) (hok : ∀ a, P a → Spec I w (f a) R E) :
    Spec I w ((liftM q : Program ε σ κ α) >>= f) R E := by
  refine Spec.bind ⟨fun hI k => ?_⟩
  have h := hq.run k
  rw [Program.liftM_eq]
  rcases hrun : q w k with ⟨r, k'⟩
  rw [hrun] at h
  cases r with
  | ok a => exact ⟨hI, hok a h⟩
  | error e => exact ⟨hI, herror h⟩

end OracleProgram
