import Mathlib.Logic.Relation
import TrexWebui.TrafficHardStop
import TrexWebui.TrafficMutationSpecs

/-!
# The ledger of effects

The abstract model of the authority: which effect is allowed at which
moment, without the programs that produce it. An RPC is allowed if a
durable record covers it (`Covered`) and, while the reaper runs, if it stays
within the expired leases (`Isolated`). A write is allowed if it applies one
of the mutations with values that fit the document (`Admissible`). A world
is `Good` if all its effects were allowed when they happened; what holds of
every run is then proved from the ledger alone.
-/

namespace TrexWebui

open OracleProgram

/-! ## Expired ports -/

def TrafficSessionGroupState.leaseOver (now : Time) (g : TrafficSessionGroupState) : Bool :=
  g.hardStopAt.any (hardStopIsExpired · now)

/-- The ports of the groups with an expired lease, and of a pending start whose lease
has expired. -/
def RuntimeStateDocument.expiredPorts (d : RuntimeStateDocument) (now : Time) : List Port :=
  (((d.trafficSession.map (·.groups)).getD []).filter (·.leaseOver now)).flatMap (·.ports)
    ++ ((d.trafficMutationIntent.filter (·.expiredStart now)).map (·.ports)).getD []

theorem mem_expiredPorts {d : RuntimeStateDocument} {now : Time} {p : Port} :
    p ∈ d.expiredPorts now ↔
      (∃ s, d.trafficSession = some s ∧ ∃ g ∈ s.groups, g.leaseOver now = true ∧ p ∈ g.ports)
      ∨ (∃ i, d.trafficMutationIntent = some i ∧ i.expiredStart now = true
          ∧ p ∈ i.ports) := by
  unfold RuntimeStateDocument.expiredPorts
  rw [List.mem_append, List.mem_flatMap]
  refine or_congr ?_ ?_
  · cases d.trafficSession with
    | none => simp
    | some s => simp [and_assoc]
  · cases d.trafficMutationIntent with
    | none => simp
    | some i =>
        cases h : i.expiredStart now <;> simp [Option.filter, h]

theorem leaseOver_of_leaseExpired {now : Time} {g : TrafficSessionGroupState}
    (h : g.leaseExpired now = true) : g.leaseOver now = true := by
  unfold TrafficSessionGroupState.leaseExpired at h
  rw [Bool.and_eq_true] at h
  exact h.1

/-! ## RPCs -/

/-- A durable record covers the call: a pending intent for its ports, prepared under
the authority read last, or expired leases, if the reaper issues a stop. -/
def Covered (r : Rpc) (m : Moment) : Prop :=
  (∃ i, m.document.trafficMutationIntent = some i ∧ r.Within i.ports
      ∧ m.authority = some i.authority)
    ∨ (r.isStop = true ∧ ∃ now, m.invocation.reapedAt = some now
      ∧ r.Within (m.document.expiredPorts now))

/-- The clock of the authority never reads earlier than `now`. -/
def ClockAfter (env : TrafficEnvironment) (now : Time) : Prop :=
  ∀ w log, now ≤ (env.answer w log .clock : Time)

/-- A call that the reaper issues stays within the leases that had expired when the
reaper was invoked, and only stops traffic or removes streams. -/
def Isolated (env : TrafficEnvironment) (r : Rpc) (m : Moment) : Prop :=
  ∀ now, m.invocation.reapedAt = some now → ClockAfter env now →
    r.isStopOrRemoval = true ∧ r.Within (m.invocation.store.document.expiredPorts now)

namespace Effect

def isRpc : Effect → Bool
  | .rpc _ _ => true
  | .wrote _ _ _ _ | .rejected _ _ _ _ => false

def startsFor (n : Uuid) : Effect → Bool
  | .rpc call m => call.isStart && m.document.trafficMutationIntent.any fun i =>
      decide (i.nonce = n)
  | _ => false

/-- An update issued while a relative update with this nonce was pending. -/
def relativeUpdateFor (n : Uuid) : Effect → Bool
  | .rpc call m => call.isUpdate && m.document.trafficMutationIntent.any fun i =>
      decide (i.nonce = n) && i.updateMultiplier.any isRelativeUpdateMultiplier
  | _ => false

end Effect

/-! ## Writes -/

/-- Every identifier in the document is an earlier one. -/
structure RuntimeStateDocument.NoncesBelow (d : RuntimeStateDocument) (bound : Nat) :
    Prop where
  session_id : ∀ s, d.trafficSession = some s → s.id.value < bound
  evidence : ∀ s, d.trafficSession = some s →
    ∀ e ∈ s.mutationEvidence, e.intentNonce.value < bound
  intent : ∀ i, d.trafficMutationIntent = some i → i.nonce.value < bound

theorem RuntimeStateDocument.NoncesBelow.mono {d : RuntimeStateDocument} {a b : Nat}
    (h : d.NoncesBelow a) (hab : a ≤ b) : d.NoncesBelow b where
  session_id s hs := lt_of_lt_of_le (h.session_id s hs) hab
  evidence s hs e he := lt_of_lt_of_le (h.evidence s hs e he) hab
  intent i hi := lt_of_lt_of_le (h.intent i hi) hab

/-- What holds of an intent when it is first persisted. -/
structure Prepared (d : RuntimeStateDocument) (i : TrafficMutationIntentState) : Prop where
  valid : i.Valid
  phase : i.phase = .prepared
  stage : i.hardwareStage = .prepared
  not_superseding : i.NotSuperseding
  fresh : d.NoncesBelow i.nonce.value
  agrees : i.expectedSessionId ≠ none → ∀ s, i.sessionBefore = some s →
    s.agreesWith i.baselinePortStates = true
  start : i.operation = .start → i.startSource ≠ none
    ∧ ∀ g, i.startGroup = some g → 1 ≤ g.multiplier.length ∧ g.multiplier.length ≤ 64
  owned : i.operation ≠ .start → ∀ s, i.sessionBefore = some s →
    ∀ p ∈ i.ports, p ∈ s.ownedPorts
  evidenced : i.operation ≠ .start → i.operation ≠ .stop →
    ∀ s, i.sessionBefore = some s → s.evidenceVersion = some .one

/-- What holds of a stop that supersedes a pending intent when it is persisted. -/
structure SupersedingStop (d : RuntimeStateDocument) (i : TrafficMutationIntentState) :
    Prop where
  valid : i.Valid
  operation : i.operation = .stop
  superseding : i.Superseding
  fresh : d.NoncesBelow i.nonce.value
  session : i.sessionBefore = d.trafficSession
  targets : ∀ p ∈ i.ports, ∃ s, d.trafficSession = some s
    ∧ ∃ g ∈ s.groups, g.state ≠ .stopped ∧ p ∈ g.ports

/-- The values that a closure closes over fit the document it is applied to. -/
def Admissible (d : RuntimeStateDocument) : Mutation → Prop
  | .clearStopped _ | .retire _ _ _ | .retain _ _ | .clear _ _ | .retireAfterRollover _ _ _ =>
      True
  | .retainAfterStop session intent leaseIdentity ports _ =>
      intent.isHardStopSupersedingIntent = false ∧ ∃ observedAt,
        leaseIdentity = (session.groups.filter (·.leaseExpired observedAt)).map
          (·.leaseIdentity)
        ∧ ports = sortedSet ((session.groups.filter (·.leaseExpired observedAt)).flatMap
          (·.ports))
  | .supersede _ _ _ _ _ hardStop => SupersedingStop d hardStop
  | .replace _ groups =>
      (groups.map (·.id)).Nodup
        ∧ groups.Pairwise (fun g h => ∀ p ∈ g.ports, p ∉ h.ports)
        ∧ ∀ g ∈ groups, ∃ path, ({ g with profilePath := path } : TrafficGroupState).Valid
  | .initializePlan groups =>
      (∃ limit path, groups = defaultGroups limit path) ∧ ∀ g ∈ groups, g.Valid
  | .prepare intent _ => Prepared d intent
  | .advance _ _ ids _ => ∀ sampled, ids = some sampled → ∀ l ∈ sampled.values, l.Nodup
  | .promote _ operation _ mode _ _ => mode = .hardStop → operation = .stop
  | .persistReconciled id groups now _ => d.trafficMutationIntent = none
      ∧ ∃ session owned live, d.trafficSession = some session ∧ id = session.id
      ∧ groups = session.groups.map
          (reconcileGroup (decide (session.evidenceVersion = some .one)) owned live now)

/-- `m` takes the document `before` to the candidate `after`. -/
structure Proposes (m : Mutation) (before after : RuntimeStateDocument) : Prop where
  admissible : Admissible before m
  applies : ∃ candidate now, m.apply before = .ok (some candidate)
    ∧ after = stamp before candidate now

/-- `m` takes the document `before` to `after`, which the validators of the store accept. -/
structure Writes (m : Mutation) (before after : RuntimeStateDocument) : Prop
    extends Proposes m before after where
  valid : after.Valid

def WriteStep (before after : RuntimeStateDocument) : Prop := ∃ m, Writes m before after

def Reachable (initial : RuntimeStateDocument) : RuntimeStateDocument → Prop :=
  Relation.ReflTransGen WriteStep initial

theorem Reachable.invariant {initial d : RuntimeStateDocument}
    {P : RuntimeStateDocument → Prop} (hd : Reachable initial d) (h0 : P initial)
    (hstep : ∀ before after, Reachable initial before → P before → WriteStep before after →
      P after) : P d := by
  unfold Reachable at hd
  induction hd with
  | refl => exact h0
  | tail hpath hlast ih => exact hstep _ _ hpath ih hlast

def Mutation.mayAddLease : Mutation → Bool
  | .prepare intent _ => decide (intent.operation = .start)
  | _ => false

/-- The ledger, its last effect first, leads from the initial document to `d`: each write
starts from the document that the effects before it left. -/
def Chained (initial : RuntimeStateDocument) : List Effect → RuntimeStateDocument → Prop
  | [], d => d = initial
  | .rpc _ _ :: rest, d => Chained initial rest d
  | .wrote m before after _ :: rest, d =>
      d = after.document ∧ Writes m before.document d ∧ Chained initial rest before.document
  | .rejected m before candidate _ :: rest, d =>
      d = before.document ∧ Proposes m d candidate ∧ ¬candidate.Valid
        ∧ Chained initial rest d

def documentAfter (initial : RuntimeStateDocument) : List Effect → RuntimeStateDocument
  | [] => initial
  | .wrote _ _ after _ :: _ => after.document
  | .rpc _ _ :: rest | .rejected _ _ _ _ :: rest => documentAfter initial rest

namespace Chained

variable {initial d : RuntimeStateDocument} {effects : List Effect}

theorem document (h : Chained initial effects d) : d = documentAfter initial effects := by
  induction effects generalizing d with
  | nil => exact h
  | cons e rest ih =>
      cases e with
      | rpc call moment => exact ih h
      | wrote m before after moment => exact h.1
      | rejected m before candidate moment => exact ih h.2.2.2

theorem earlier {newer older : List Effect} (h : Chained initial (newer ++ older) d) :
    Chained initial older (documentAfter initial older) := by
  induction newer generalizing d with
  | nil => exact h.document ▸ h
  | cons e rest ih =>
      cases e with
      | rpc call moment => exact ih h
      | wrote m before after moment => exact ih h.2.2
      | rejected m before candidate moment => exact ih h.2.2.2

theorem reachable (h : Chained initial effects d) : Reachable initial d := by
  induction effects generalizing d with
  | nil => rw [show d = initial from h]; exact .refl
  | cons e rest ih =>
      cases e with
      | rpc call moment => exact ih h
      | wrote m before after moment => exact (ih h.2.2).tail ⟨m, h.2.1⟩
      | rejected m before candidate moment => exact ih h.2.2.2

theorem wrote (h : Chained initial effects d) {m : Mutation} {before after : PersistedDocument}
    {moment : Moment} (he : .wrote m before after moment ∈ effects) :
    Reachable initial before.document ∧ Writes m before.document after.document := by
  induction effects generalizing d with
  | nil => cases he
  | cons e rest ih =>
      rcases List.mem_cons.mp he with rfl | hmem
      · exact ⟨h.2.2.reachable, h.1 ▸ h.2.1⟩
      · cases e with
        | rpc call moment => exact ih h hmem
        | wrote m before after moment => exact ih h.2.2 hmem
        | rejected m before candidate moment => exact ih h.2.2.2 hmem

theorem rejected (h : Chained initial effects d) {m : Mutation} {before : PersistedDocument}
    {candidate : RuntimeStateDocument} {moment : Moment}
    (he : .rejected m before candidate moment ∈ effects) :
    Reachable initial before.document ∧ Proposes m before.document candidate
      ∧ ¬candidate.Valid := by
  induction effects generalizing d with
  | nil => cases he
  | cons e rest ih =>
      rcases List.mem_cons.mp he with rfl | hmem
      · obtain ⟨rfl, hproposes, hinvalid, hrest⟩ := h
        exact ⟨hrest.reachable, hproposes, hinvalid⟩
      · cases e with
        | rpc call moment => exact ih h hmem
        | wrote m before after moment => exact ih h.2.2 hmem
        | rejected m before candidate moment => exact ih h.2.2.2 hmem

end Chained

/-! ## Good worlds -/

/-- Everything in the ledger was allowed when it happened. -/
structure Good (env : TrafficEnvironment) (initial : RuntimeStateDocument)
    (w : TrafficWorld) : Prop where
  nonces : w.document.NoncesBelow w.nonces
  start_once : ∀ n, w.effects.countP (·.startsFor n) ≤ 1
  start_used : ∀ n, ∀ e ∈ w.effects, e.startsFor n = true → n.value < w.nonces
    ∧ ∀ i, w.document.trafficMutationIntent = some i → i.nonce = n →
      i.startStageAtLeast .startIntent = true
  update_once : ∀ n, w.effects.countP (·.relativeUpdateFor n) ≤ 1
  update_used : ∀ n, ∀ e ∈ w.effects, e.relativeUpdateFor n = true → n.value < w.nonces
  covered : ∀ r m, .rpc r m ∈ w.effects → Covered r m
  isolated : ∀ r m, .rpc r m ∈ w.effects → Isolated env r m
  chained : Chained initial w.effects w.document
  leases : ∀ now, w.invocation.reapedAt = some now →
    ∀ p ∈ w.document.expiredPorts now, p ∈ w.invocation.store.document.expiredPorts now

end TrexWebui
