import Mathlib.Data.List.Perm.Basic
import TrexWebui.NetworkNumbers

/-!
# Flow variables

The variables of the field engine: the instructions that `workbench_vm.py`
emits for one, and what the traffic server makes of them. The server is a
parameter; of it only the documented meaning is used, that a variable with
step one counts through its range, up or down, and starts over at the other
end. A variable that does not fit its size has no documented meaning.
-/

namespace TrexWebui

open PyStr Octets

/-! ## Instructions -/

/-- `field_engine_operation`, where `Fixed` emits nothing. -/
inductive FieldEngineOperation where
  | fixed
  | inc
  | dec
  | random
  deriving DecidableEq, Repr

/-- An instruction of the type `flow_var`. -/
structure FlowVar where
  name : String
  initValue : Nat
  minValue : Nat
  maxValue : Nat
  op : FieldEngineOperation
  size : Nat
  step : Nat
  deriving DecidableEq, Repr

/-- An instruction of the type `write_flow_var`, in network order and with nothing added. -/
structure WriteFlowVar where
  name : String
  pktOffset : Nat
  deriving DecidableEq, Repr

def writeFlowVar (packet : Bytes) (flowVar : FlowVar) (write : WriteFlowVar) (value : Nat) : Bytes :=
  overwrite packet write.pktOffset (octetsOf flowVar.size value)

/-! ## Variables -/

/-- The variable is in its range, and the range fits its size. -/
structure FlowVar.Representable (flowVar : FlowVar) : Prop where
  low : flowVar.minValue ≤ flowVar.initValue
  high : flowVar.initValue ≤ flowVar.maxValue
  fits : flowVar.maxValue < 256 ^ flowVar.size

/-- How the server goes from one value to the next. -/
structure FlowVarServer where
  next : FlowVar → Nat → Nat
  inc_step : ∀ flowVar value, flowVar.Representable → flowVar.op = .inc → flowVar.step = 1 →
    flowVar.minValue ≤ value → value < flowVar.maxValue → next flowVar value = value + 1
  inc_wrap : ∀ flowVar, flowVar.Representable → flowVar.op = .inc → flowVar.step = 1 →
    next flowVar flowVar.maxValue = flowVar.minValue
  dec_step : ∀ flowVar value, flowVar.Representable → flowVar.op = .dec → flowVar.step = 1 →
    flowVar.minValue < value → value ≤ flowVar.maxValue → next flowVar value = value - 1
  dec_wrap : ∀ flowVar, flowVar.Representable → flowVar.op = .dec → flowVar.step = 1 →
    next flowVar flowVar.minValue = flowVar.maxValue

def FlowVarServer.value (server : FlowVarServer) (flowVar : FlowVar) : Nat → Nat
  | 0 => flowVar.initValue
  | index + 1 => server.next flowVar (server.value flowVar index)

def FlowVar.cycleLength (flowVar : FlowVar) : Nat := flowVar.maxValue - flowVar.minValue + 1

def FlowVarServer.cycle (server : FlowVarServer) (flowVar : FlowVar) : List Nat :=
  (List.range flowVar.cycleLength).map (server.value flowVar)

section
variable {server : FlowVarServer} {flowVar : FlowVar}

theorem value_inc (h : flowVar.Representable) (hop : flowVar.op = .inc) (hstep : flowVar.step = 1)
    (hinit : flowVar.initValue = flowVar.minValue) {index : Nat}
    (hindex : index < flowVar.cycleLength) :
    server.value flowVar index = flowVar.minValue + index := by
  induction index with
  | zero => exact hinit
  | succ index ih =>
      rw [FlowVar.cycleLength] at hindex
      rw [FlowVarServer.value, ih (by rw [FlowVar.cycleLength]; omega),
        server.inc_step flowVar _ h hop hstep (Nat.le_add_right _ _) (by omega), Nat.add_assoc]

theorem value_dec_top (h : flowVar.Representable) (hop : flowVar.op = .dec)
    (hstep : flowVar.step = 1) (hinit : flowVar.initValue = flowVar.maxValue) {index : Nat}
    (hindex : index < flowVar.cycleLength) :
    server.value flowVar index = flowVar.maxValue - index := by
  induction index with
  | zero => exact hinit
  | succ index ih =>
      have hlow := h.low
      have hhigh := h.high
      rw [FlowVar.cycleLength] at hindex
      rw [FlowVarServer.value, ih (by rw [FlowVar.cycleLength]; omega),
        server.dec_step flowVar _ h hop hstep (by omega) (Nat.sub_le _ _), Nat.sub_sub]

theorem value_dec_bottom (h : flowVar.Representable) (hop : flowVar.op = .dec)
    (hstep : flowVar.step = 1) (hinit : flowVar.initValue = flowVar.minValue) {index : Nat}
    (hindex : index + 1 < flowVar.cycleLength) :
    server.value flowVar (index + 1) = flowVar.maxValue - index := by
  have hlow := h.low
  have hhigh := h.high
  induction index with
  | zero =>
      rw [FlowVarServer.value, FlowVarServer.value, hinit, server.dec_wrap flowVar h hop hstep,
        Nat.sub_zero]
  | succ index ih =>
      rw [FlowVar.cycleLength] at hindex
      rw [FlowVarServer.value, ih (by rw [FlowVar.cycleLength]; omega),
        server.dec_step flowVar _ h hop hstep (by omega) (Nat.sub_le _ _), Nat.sub_sub]

theorem perm_range_sub (low n : Nat) :
    ((List.range (n + 1)).map fun i => low + n - i).Perm ((List.range (n + 1)).map (low + ·)) := by
  have hreverse : (List.range (n + 1)).map (fun i => low + n - i)
      = ((List.range (n + 1)).map (low + ·)).reverse := by
    apply List.ext_getElem
    · simp
    · intro i hi hi'
      simp only [List.length_map, List.length_range, List.length_reverse] at hi hi'
      simp only [List.getElem_map, List.getElem_range, List.getElem_reverse, List.length_map,
        List.length_range]
      omega
  rw [hreverse]
  exact List.reverse_perm _

theorem cycle_perm (server : FlowVarServer) (h : flowVar.Representable)
    (hstep : flowVar.step = 1)
    (hop : flowVar.op = .inc ∧ flowVar.initValue = flowVar.minValue ∨ flowVar.op = .dec ∧
      (flowVar.initValue = flowVar.minValue ∨ flowVar.initValue = flowVar.maxValue)) :
    (server.cycle flowVar).Perm
      ((List.range flowVar.cycleLength).map (flowVar.minValue + ·)) := by
  have hlow := h.low
  have hhigh := h.high
  have hmax : flowVar.maxValue = flowVar.minValue + (flowVar.maxValue - flowVar.minValue) := by omega
  have hdown := perm_range_sub flowVar.minValue (flowVar.maxValue - flowVar.minValue)
  rw [← hmax] at hdown
  rcases hop with ⟨hinc, hinit⟩ | ⟨hdec, hbottom | htop⟩
  · have hcycle : server.cycle flowVar
        = (List.range flowVar.cycleLength).map (flowVar.minValue + ·) := by
      apply List.map_congr_left
      intro index hindex
      exact value_inc h hinc hstep hinit (List.mem_range.mp hindex)
    rw [hcycle]
  · -- the first value is the bottom; the rest comes down from the top
    have hcycle : server.cycle flowVar = flowVar.minValue
        :: (List.range (flowVar.maxValue - flowVar.minValue)).map (flowVar.maxValue - ·) := by
      rw [FlowVarServer.cycle, FlowVar.cycleLength, List.range_succ_eq_map, List.map_cons,
        List.map_map, FlowVarServer.value, hbottom]
      congr 1
      apply List.map_congr_left
      intro index hindex
      have hlt := List.mem_range.mp hindex
      exact value_dec_bottom h hdec hstep hbottom (by rw [FlowVar.cycleLength]; omega)
    rw [hcycle]
    refine List.Perm.trans ?_ hdown
    rw [List.range_succ, List.map_append, List.map_singleton,
      show flowVar.maxValue - (flowVar.maxValue - flowVar.minValue) = flowVar.minValue by omega]
    exact (List.perm_append_singleton _ _).symm
  · have hcycle : server.cycle flowVar
        = (List.range flowVar.cycleLength).map (flowVar.maxValue - ·) := by
      apply List.map_congr_left
      intro index hindex
      exact value_dec_top h hdec hstep htop (List.mem_range.mp hindex)
    rw [hcycle]
    exact hdown

end

/-! ## A server -/

/-- Counting in steps, and from the other end again where the range ends. -/
def countingNext (flowVar : FlowVar) (value : Nat) : Nat :=
  if flowVar.op = .dec then
    if flowVar.minValue < value then value - flowVar.step else flowVar.maxValue
  else if value < flowVar.maxValue then value + flowVar.step
  else flowVar.minValue

theorem countingNext_up {flowVar : FlowVar} {value : Nat} (hop : flowVar.op = .inc)
    (hstep : flowVar.step = 1) : countingNext flowVar value =
      if value < flowVar.maxValue then value + 1 else flowVar.minValue := by
  rw [countingNext, hop, hstep, if_neg (by decide)]

theorem countingNext_down {flowVar : FlowVar} {value : Nat} (hop : flowVar.op = .dec)
    (hstep : flowVar.step = 1) : countingNext flowVar value =
      if flowVar.minValue < value then value - 1 else flowVar.maxValue := by
  rw [countingNext, if_pos hop, hstep]

def countingServer : FlowVarServer :=
  { next := countingNext
    inc_step := fun _ _ _ hop hstep _ hlt => (countingNext_up hop hstep).trans (if_pos hlt)
    inc_wrap := fun _ _ hop hstep =>
      (countingNext_up hop hstep).trans (if_neg (Nat.lt_irrefl _))
    dec_step := fun _ _ _ hop hstep hlt _ => (countingNext_down hop hstep).trans (if_pos hlt)
    dec_wrap := fun _ _ hop hstep =>
      (countingNext_down hop hstep).trans (if_neg (Nat.lt_irrefl _)) }

end TrexWebui
