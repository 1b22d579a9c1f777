/-
  OvenRuntime.Common.State
  ────────────────────────
  The state enumerations of both hosts and their transition tables.
-/
import OvenRuntime.Common.Errors

namespace OvenRuntime

/-! ## §1. The enumerations. -/

inductive RuntimeState where
  | STARTING
  | LOADING
  | READY
  | DRAINING
  | SWITCHING
  | FAILED
  | STOPPING
  deriving DecidableEq, Repr

inductive SessionState where
  | ACTIVE
  | CLOSED
  | EXPIRED
  | ABORTED
  deriving DecidableEq, Repr

inductive PipelineState where
  | CREATED
  | PREFLIGHT
  | RESETTING
  | PREPARING_POLICY
  | READY_TO_ROLLOUT
  | ROLLOUT
  | JOINT_GATE
  | CHECKING
  | HANDOFF
  | COMPLETED
  | SAFE_STOP
  | FAILED
  deriving DecidableEq, Repr

/-- `state.value`. -/
def RuntimeState.value : RuntimeState → String
  | STARTING => "STARTING"
  | LOADING => "LOADING"
  | READY => "READY"
  | DRAINING => "DRAINING"
  | SWITCHING => "SWITCHING"
  | FAILED => "FAILED"
  | STOPPING => "STOPPING"

/-- `state.value`. -/
def PipelineState.value : PipelineState → String
  | CREATED => "CREATED"
  | PREFLIGHT => "PREFLIGHT"
  | RESETTING => "RESETTING"
  | PREPARING_POLICY => "PREPARING_POLICY"
  | READY_TO_ROLLOUT => "READY_TO_ROLLOUT"
  | ROLLOUT => "ROLLOUT"
  | JOINT_GATE => "JOINT_GATE"
  | CHECKING => "CHECKING"
  | HANDOFF => "HANDOFF"
  | COMPLETED => "COMPLETED"
  | SAFE_STOP => "SAFE_STOP"
  | FAILED => "FAILED"

/-- The state, as a detail of an error. -/
def RuntimeState.detail (s : RuntimeState) : Value := .str (py s.value)

/-! ## §2. The transition tables. -/

/-- `RUNTIME_TRANSITIONS[current]`. -/
def RUNTIME_TRANSITIONS : RuntimeState → List RuntimeState
  | .STARTING => [.LOADING, .STOPPING, .FAILED]
  | .LOADING => [.READY, .FAILED, .STOPPING]
  | .READY => [.DRAINING, .FAILED, .STOPPING]
  | .DRAINING => [.SWITCHING, .FAILED, .STOPPING]
  | .SWITCHING => [.LOADING, .FAILED, .STOPPING]
  | .FAILED => [.STOPPING]
  | .STOPPING => []

/-- `PIPELINE_TRANSITIONS[current]`. -/
def PIPELINE_TRANSITIONS : PipelineState → List PipelineState
  | .CREATED => [.PREFLIGHT, .SAFE_STOP]
  | .PREFLIGHT => [.RESETTING, .SAFE_STOP]
  | .RESETTING => [.PREPARING_POLICY, .SAFE_STOP]
  | .PREPARING_POLICY => [.READY_TO_ROLLOUT, .SAFE_STOP]
  | .READY_TO_ROLLOUT => [.ROLLOUT, .SAFE_STOP]
  | .ROLLOUT => [.JOINT_GATE, .SAFE_STOP]
  | .JOINT_GATE => [.CHECKING, .SAFE_STOP]
  | .CHECKING => [.HANDOFF, .SAFE_STOP]
  | .HANDOFF => [.RESETTING, .COMPLETED, .SAFE_STOP]
  | .SAFE_STOP => [.FAILED]
  | .COMPLETED => []
  | .FAILED => []

/-- `ensure_runtime_transition`. -/
def ensure_runtime_transition (current target : RuntimeState) : Except Exn Unit :=
  if target ∈ RUNTIME_TRANSITIONS current then .ok ()
  else .error (fault .STATE_REJECTED "illegal runtime state transition"
    [("current", current.detail), ("target", target.detail)])

/-- `ensure_pipeline_transition`. -/
def ensure_pipeline_transition (current target : PipelineState) : Except Exn Unit :=
  if target ∈ PIPELINE_TRANSITIONS current then .ok ()
  else .error (fault .STATE_REJECTED "illegal pipeline state transition"
    [("current", .str (py current.value)), ("target", .str (py target.value))])

/-! ## §3. The terminal states. -/

/-- The runtime has failed or is shutting down. -/
def RuntimeState.down (s : RuntimeState) : Prop := s = .FAILED ∨ s = .STOPPING

instance (s : RuntimeState) : Decidable s.down :=
  inferInstanceAs (Decidable (_ ∨ _))

@[simp] theorem RuntimeState.down_FAILED : RuntimeState.down .FAILED := .inl rfl

@[simp] theorem RuntimeState.down_STOPPING : RuntimeState.down .STOPPING := .inr rfl

theorem RuntimeState.READY_not_down : ¬ RuntimeState.down .READY := by decide

/-- Failing is legal from every state that has not failed or stopped yet. -/
theorem FAILED_mem_transitions {s : RuntimeState} (h : ¬ s.down) :
    RuntimeState.FAILED ∈ RUNTIME_TRANSITIONS s := by
  cases s <;> simp_all [RUNTIME_TRANSITIONS, RuntimeState.down]

/-- Stopping is legal from every other state. -/
theorem STOPPING_mem_transitions {s : RuntimeState} (h : s ≠ .STOPPING) :
    RuntimeState.STOPPING ∈ RUNTIME_TRANSITIONS s := by
  cases s <;> simp_all [RUNTIME_TRANSITIONS]

/-- A safe stop may start from every pipeline state that has not ended. -/
theorem SAFE_STOP_mem_transitions {s : PipelineState}
    (h : s ∉ [PipelineState.SAFE_STOP, .FAILED, .COMPLETED]) :
    PipelineState.SAFE_STOP ∈ PIPELINE_TRANSITIONS s := by
  cases s <;> simp_all [PIPELINE_TRANSITIONS]

end OvenRuntime
