/-
  OvenRuntime.Edge.Contracts
  ──────────────────────────
  The values the edge components exchange, and the calls the orchestrator
  makes on them.
-/
import OvenRuntime.Common.State

namespace OvenRuntime

/-- The verdict of a joint gate. -/
structure GateResult where
  passed : Bool
  samples : Nat
  max_error : PyFloat
  max_spread : PyFloat
  reason : PyStr
  deriving DecidableEq

/-- What publishing one action chunk came to. -/
structure PublishResult where
  stop_requested : Bool := false
  reason : Option PyStr := none
  published_rows : Int := 0
  gate_result : Option GateResult := none
  deriving DecidableEq

/-- The verdict of a visual checker. -/
structure CheckerResult where
  passed : Bool
  score : PyFloat
  threshold : PyFloat
  asset_id : PyStr
  reason : PyStr
  deriving DecidableEq

/-- An observation and the moment it was captured at. -/
structure Observation where
  payload : Value
  captured_at_monotonic_ns : Int

/-! ## Evidence. -/

inductive EvidenceStatus where
  | NOT_RUN
  | NOT_REQUIRED
  | PASSED
  | FAILED
  | INCOMPLETE
  deriving DecidableEq, Repr

/-- What a stage has to show. -/
structure StageEvidence where
  rollout_exit_code : Option Int
  rollout_end_reason : Option PyStr
  rollout_end_reason_approved : Bool
  joint_gate : EvidenceStatus
  checker : EvidenceStatus
  server_audit : EvidenceStatus
  edge_audit : EvidenceStatus
  deriving DecidableEq

/-! ## Components. -/

/-- What a component call may raise: an `Exception`, or `KeyboardInterrupt`
and `SystemExit`, which are none. -/
inductive Raised where
  | exn (e : Exn)
  | interrupt

/-- The commands of the control client. -/
inductive ControlCommand where
  | status
  | prepare_skill
  | begin_trial
  | open_session
  | close_session
  | end_trial
  | abort
  deriving DecidableEq, Repr

/-- The calls the orchestrator makes on its components. -/
inductive Component where
  -- approval
  | approve_run (run_id : PyStr) (skills : List PyStr)
  -- edge audit
  | audit_begin (run_id : PyStr) (skills : List PyStr)
  | set_pipeline_state (state : PipelineState)
  | start_stage (index : Nat) (skill trial_id : PyStr)
  | record_rollout (row : Dict)
  | complete_stage (evidence : StageEvidence) (gate : GateResult) (checker : CheckerResult)
      (server_summary : Dict)
  | audit_complete
  | audit_fail (state : PipelineState) (error_code : ErrorCode) (message : String)
  -- observation source and clocks
  | observation_preflight
  | sample (skill : Value)
  | monotonic_ns
  -- reset controller
  | reset_preflight
  | reset (skill : PyStr)
  | sleep (sec : ℚ)
  -- action executor
  | executor_preflight
  | begin_stage (skill : PyStr)
  | publish (actions : List (List ℚ))
  | stop (reason : PyStr)
  -- server
  | control (command : ControlCommand) (arguments : List Value)
  | infer (payload : Dict)
  -- checker
  | checker_evaluate (skill : PyStr)

/-- What each call returns. -/
@[reducible] def Component.Answer : Component → Type
  | .approve_run _ _ => Bool
  | .sample _ => Observation
  | .monotonic_ns => Int
  | .publish _ => PublishResult
  | .control _ _ => Dict
  | .infer _ => Dict
  | .checker_evaluate _ => CheckerResult
  | .audit_complete => Dict
  | _ => Unit

end OvenRuntime
