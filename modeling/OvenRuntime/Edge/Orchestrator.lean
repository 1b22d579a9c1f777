/-
  OvenRuntime.Edge.Orchestrator
  ─────────────────────────────
  The pipeline orchestrator as a program over its components.

  Every call on a component is an effect that may return anything of its type
  or raise.  The action validator is handed in: it may be any function of the
  decoded actions.
-/
import OvenRuntime.Common.Protocol
import OvenRuntime.Edge.Contracts
import OvenRuntime.Lib.EffectProgram
import Mathlib.Algebra.Order.Floor.Defs
import Mathlib.Data.Rat.Floor

namespace OvenRuntime

open EffectProgram

/-! ## §1. Plans. -/

def FIXED_SKILL_ORDER : List PyStr :=
  [py "open_door", py "transport_food", py "close_door", py "rotate_button"]

structure StagePlan where
  skill : PyStr
  root_seed : Int
  max_chunks : Int
  action_steps : Int
  settle_sec : ℚ := 3
  reset_before : Bool := true
  checker_required : Bool := true

/-- `StagePlan.validate`. -/
def StagePlan.validate (stage : StagePlan) : Except PyError Unit :=
  if stage.skill.isEmpty then .error .ValueError
  else if stage.root_seed < 0 ∨ stage.max_chunks ≤ 0 ∨ stage.action_steps ≤ 0 ∨
      stage.settle_sec < 0 then
    .error .ValueError
  else .ok ()

/-- `f"{run_id}_{index}_{skill}"`. -/
def derivedTrialId (run_id : PyStr) (index : Nat) (skill : PyStr) : PyStr :=
  run_id ++ py "_" ++ pyNat index ++ py "_" ++ skill

structure PipelinePlan where
  run_id : PyStr
  stages : List StagePlan

/-- The stage loop of `PipelinePlan.validate`. -/
def validateStages (run_id : PyStr) : Nat → List StagePlan → Except PyError Unit
  | _, [] => .ok ()
  | index, stage :: rest =>
      match stage.validate with
      | .error e => .error e
      | .ok () =>
          if !TRIAL_ID_PATTERN (derivedTrialId run_id index stage.skill) then .error .ValueError
          else validateStages run_id (index + 1) rest

/-- `tuple(stage.skill for stage in self.stages)`. -/
def PipelinePlan.skills (plan : PipelinePlan) : List PyStr := plan.stages.map StagePlan.skill

/-- `PipelinePlan.validate`. -/
def PipelinePlan.validate (plan : PipelinePlan) : Except PyError Unit :=
  if plan.skills ≠ FIXED_SKILL_ORDER ∧
      ¬ (plan.skills.length = 1 ∧ plan.skills.all fun s => FIXED_SKILL_ORDER.contains s) then
    .error .ValueError
  else if !TRIAL_ID_PATTERN plan.run_id then .error .ValueError
  else validateStages plan.run_id 0 plan.stages

/-! ## §2. The orchestrator. -/

/-- `ObservationValidator`. -/
structure ObservationValidator where
  max_age_ms : ℚ

/-- What does not change in a `PipelineOrchestrator`: the accepted plan and
the two validators. -/
structure PipelineOrchestrator where
  plan : PipelinePlan
  accepted : plan.validate = .ok ()
  observation_validator : ObservationValidator
  action_validator : Value → Except Exn (List (List ℚ))

/-- Its attributes.  `attempted` is not one of the source: it records every
transition that is tried, as from and to. -/
structure OrchestratorState where
  state : PipelineState := .CREATED
  _active_session_id : Value := .none
  _trial_started : Bool := false
  attempted : List (PipelineState × PipelineState) := []

/-- A statement of the orchestrator. -/
abbrev Orch (α : Type) : Type :=
  Program Component Component.Answer Raised OrchestratorState α

/-- What a component call came to. -/
abbrev OrchEvent : Type := Event Component Component.Answer Raised

/-- A call on a component. -/
def ask (c : Component) : Orch c.Answer := Program.perform c

/-- A pure step that may raise an `Exception`. -/
def raising {α : Type} (r : Except Exn α) : Orch α := Program.lift (r.mapError .exn)

/-- `raise`, unless the condition holds. -/
def check (b : Bool) (e : Exn) : Orch Unit := Program.require b (.exn e)

/-- `value is not None`. -/
def Value.isNotNone : Value → Bool
  | .none => false
  | _ => true

/-- `d.get(name) is True`. -/
def Dict.isTrue (d : Dict) (name : String) : Bool :=
  match d.get? name with
  | some (.bool b) => b
  | _ => false

/-! ## §3. Transitions and control calls. -/

/-- `ensure_pipeline_transition(self.state, target)`, then the assignment. -/
def _enter (target : PipelineState) : Orch Unit := do
  let self ← Program.read
  Program.update fun s => { s with attempted := s.attempted ++ [(self.state, target)] }
  raising (ensure_pipeline_transition self.state target)
  Program.update fun s => { s with state := target }

/-- `_transition`. -/
def _transition (target : PipelineState) : Orch Unit := do
  _enter target
  ask (.set_pipeline_state target)

/-- The result of a control response, if it is a valid success. -/
def controlResult (response : Dict) : Except Exn Dict :=
  match response.get? "result" with
  | some (.map result) =>
      if response.isTrue "ok" then .ok result
      else .error (fault .SERVER_FAILED "control client returned an invalid success response")
  | _ => .error (fault .SERVER_FAILED "control client returned an invalid success response")

/-- `_control`. -/
def _control (command : ControlCommand) (arguments : List Value) : Orch Dict := do
  let response : Dict ← ask (.control command arguments)
  raising (controlResult response)

/-! ## §4. Requests and the rollout. -/

/-- `ObservationValidator.validate`. -/
def ObservationValidator.validate (v : ObservationValidator) (observation : Observation) :
    Orch Value := do
  check (decide (0 < v.max_age_ms)) (.error .ValueError)
  check (match observation.payload with | .map (_ :: _) => true | _ => false)
    (fault .INVALID_FIELD_VALUE "observation payload must be a non-empty dictionary")
  let now : Int ← ask .monotonic_ns
  let age_ns : Int := now - observation.captured_at_monotonic_ns
  check (decide (0 ≤ age_ns) && decide (age_ns ≤ ⌊v.max_age_ms * 1000000⌋))
    (fault .OBSERVATION_STALE "observation is outside the permitted freshness window")
  pure observation.payload

/-- The envelope around an observation. -/
def requestPayload (session_id session_token trial_id skill generation : Value)
    (request_kind : PyStr) (sequence : Nat) (sent_at : Int) (observation : Value) : Dict :=
  [(.str (py "protocol_version"), .int PROTOCOL_VERSION),
   (.str (py "message_type"), .str (py "inference_request")),
   (.str (py "session_id"), session_id),
   (.str (py "session_token"), session_token),
   (.str (py "trial_id"), trial_id),
   (.str (py "request_kind"), .str request_kind),
   (.str (py "expected_skill"), skill),
   (.str (py "expected_generation"), generation),
   (.str (py "sequence"), .int sequence),
   (.str (py "sent_at_monotonic_ns"), .int sent_at),
   (.str (py "observation"), observation)]

namespace PipelineOrchestrator

/-- `_request`. -/
def _request (o : PipelineOrchestrator) (session : Dict) (request_kind : PyStr)
    (sequence : Nat) : Orch Dict := do
  let sampled_skill ← raising (session.getItem "skill")
  let sampled : Observation ← ask (.sample sampled_skill)
  let observation ← o.observation_validator.validate sampled
  let session_id ← raising (session.getItem "session_id")
  let session_token ← raising (session.getItem "session_token")
  let trial_id ← raising (session.getItem "trial_id")
  let skill ← raising (session.getItem "skill")
  let generation ← raising (session.getItem "generation")
  let sent_at : Int ← ask .monotonic_ns
  pure (requestPayload session_id session_token trial_id skill generation request_kind sequence
    sent_at observation)

/-- The row of `record_rollout`. -/
def rolloutRow (skill : PyStr) (session response : Dict) (sequence : Nat)
    (published_rows published_steps : Int) : Except Exn Dict := do
  let session_id ← session.getItem "session_id"
  let generation ← session.getItem "generation"
  let request_hash ← response.getItem "request_hash"
  let action_hash ← response.getItem "action_hash"
  return [(.str (py "schema_version"), .int 1),
    (.str (py "skill"), .str skill),
    (.str (py "session_id"), session_id),
    (.str (py "generation"), generation),
    (.str (py "sequence"), .int sequence),
    (.str (py "published_rows"), .int published_rows),
    (.str (py "published_steps_total"), .int published_steps),
    (.str (py "request_hash"), request_hash),
    (.str (py "action_hash"), action_hash)]

/-- `gate_result is not None and gate_result.passed`. -/
def gatePassed (gate_result : Option GateResult) : Bool :=
  match gate_result with
  | some gate => gate.passed
  | none => false

/-- One round of the rollout loop. -/
def rolloutRound (o : PipelineOrchestrator) (stage : StagePlan) (session : Dict)
    (sequence : Nat) (published_steps : Int) : Orch PublishResult := do
  let payload ← o._request session (py "infer") sequence
  let response : Dict ← ask (.infer payload)
  check (response.isTrue "publishable")
    (fault .ACTION_INVALID "formal inference response is not publishable")
  let actions ← raising (response.getItem "actions")
  let rows ← raising (o.action_validator actions)
  check (decide (published_steps + rows.length ≤ stage.action_steps))
    (fault .ACTION_INVALID "action chunk exceeds the stage action-step budget")
  let publish_result : PublishResult ← ask (.publish rows)
  check (decide (0 < publish_result.published_rows) &&
      decide (publish_result.published_rows ≤ rows.length))
    (fault .ACTION_INVALID "action executor reported an invalid published-row count")
  let row ← raising (rolloutRow stage.skill session response sequence
    publish_result.published_rows (published_steps + publish_result.published_rows))
  ask (.record_rollout row)
  pure publish_result

/-- `_rollout` from a sequence number on, with so many chunks left. -/
def rolloutFrom (o : PipelineOrchestrator) (stage : StagePlan) (session : Dict) :
    Nat → Nat → Int → Orch PublishResult
  | 0, _, published_steps =>
      Program.raise (.exn (fault .JOINT_GATE_FAILED
        "stage exhausted its action-step budget without joint-rest detection"
        [("published_steps", .int published_steps)]))
  | remaining + 1, sequence, published_steps => do
      let publish_result ← o.rolloutRound stage session sequence published_steps
      if publish_result.stop_requested then
        check (gatePassed publish_result.gate_result)
          (fault .JOINT_GATE_FAILED "executor stopped without passed joint-rest evidence")
        pure publish_result
      else
        o.rolloutFrom stage session remaining (sequence + 1)
          (published_steps + publish_result.published_rows)

/-- `_rollout`. -/
def _rollout (o : PipelineOrchestrator) (stage : StagePlan) (session : Dict) :
    Orch PublishResult :=
  o.rolloutFrom stage session stage.max_chunks.toNat 0 0

/-! ## §5. One stage. -/

/-- `_run_stage`, up to the reset. -/
def resetPhase (o : PipelineOrchestrator) (index : Nat) (stage : StagePlan) : Orch Unit := do
  ask
    (.start_stage index stage.skill (derivedTrialId o.plan.run_id index stage.skill))
  _transition .RESETTING
  if stage.reset_before then
    ask (.reset stage.skill)
    ask (.sleep stage.settle_sec)
  else pure ()

/-- The trial counts as started as soon as it is asked for. -/
def beginTrial (o : PipelineOrchestrator) (index : Nat) (stage : StagePlan) : Orch Dict := do
  Program.update fun s => { s with _trial_started := true }
  _control .begin_trial
    [.str (derivedTrialId o.plan.run_id index stage.skill), .int stage.root_seed]

/-- Open a session and remember its identifier. -/
def openSession : Orch Dict := do
  let session ← _control .open_session []
  let session_id ← raising (session.getItem "session_id")
  Program.update fun s => { s with _active_session_id := session_id }
  pure session

/-- `_run_stage`, from the policy preparation to the open session. -/
def preparePhase (o : PipelineOrchestrator) (index : Nat) (stage : StagePlan) : Orch Dict := do
  _transition .PREPARING_POLICY
  let _ ← _control .prepare_skill [.str stage.skill]
  let _ ← o.beginTrial index stage
  openSession

/-- `_run_stage`, the rollout. -/
def rolloutPhase (o : PipelineOrchestrator) (stage : StagePlan) (session : Dict) :
    Orch PublishResult := do
  _transition .READY_TO_ROLLOUT
  ask (.begin_stage stage.skill)
  _transition .ROLLOUT
  o._rollout stage session

/-- Close the session of the stage. -/
def closeSession : Orch Unit := do
  let self ← Program.read
  let _ ← _control .close_session [self._active_session_id]
  Program.update fun s => { s with _active_session_id := .none }

/-- `server_summary.get("status") == "COMMITTED"`. -/
def committed (server_summary : Dict) : Bool :=
  match server_summary.get? "status" with
  | some (.str status) => decide (status = py "COMMITTED")
  | _ => false

/-- End the trial of the stage. -/
def endTrial : Orch Dict := do
  let server_summary ← _control .end_trial []
  check (committed server_summary)
    (fault .AUDIT_COMMIT_FAILED "server did not commit its trial evidence")
  Program.update fun s => { s with _trial_started := false }
  pure server_summary

/-- `_run_stage`, from the end of the rollout to the committed trial. -/
def closePhase : Orch Dict := do
  ask (.stop (py "rollout_complete"))
  closeSession
  endTrial

/-- The checker's verdict, or the placeholder for a stage without one. -/
def checkPhase (stage : StagePlan) : Orch (CheckerResult × EvidenceStatus) :=
  if stage.checker_required then do
    let checker_result : CheckerResult ← ask (.checker_evaluate stage.skill)
    check checker_result.passed
      (fault .CHECKER_FAILED "visual checker rejected the stage"
        [("reason", .str checker_result.reason)])
    pure (checker_result, .PASSED)
  else
    pure ({ passed := true, score := .fin 1, threshold := .fin 0,
            asset_id := py "not_required", reason := py "checker_not_required" }, .NOT_REQUIRED)

/-- The evidence of a completed stage. -/
def stageEvidence (reason : Option PyStr) (checker : EvidenceStatus) : StageEvidence :=
  { rollout_exit_code := some 0
    rollout_end_reason :=
      some (match reason with
        | some r => if r.isEmpty then py "joint_rest_detected" else r
        | none => py "joint_rest_detected")
    rollout_end_reason_approved := true
    joint_gate := .PASSED
    checker := checker
    server_audit := .PASSED
    edge_audit := .PASSED }

/-- `_run_stage`, the gates and the handoff. -/
def gatePhase (stage : StagePlan) (rollout_result : PublishResult) (server_summary : Dict) :
    Orch Unit := do
  _transition .JOINT_GATE
  match rollout_result.gate_result with
  | none =>
      Program.raise (.exn (fault .JOINT_GATE_FAILED "rollout ended without joint-rest evidence"))
  | some gate_result =>
      check gate_result.passed
        (fault .JOINT_GATE_FAILED "rollout ended without joint-rest evidence")
      _transition .CHECKING
      let checked ← checkPhase stage
      ask (.complete_stage (stageEvidence rollout_result.reason checked.2) gate_result
        checked.1 server_summary)
      _transition .HANDOFF

/-- `_run_stage`. -/
def _run_stage (o : PipelineOrchestrator) (index : Nat) (stage : StagePlan) : Orch Unit := do
  o.resetPhase index stage
  let session ← o.preparePhase index stage
  let rollout_result ← o.rolloutPhase stage session
  let server_summary ← closePhase
  gatePhase stage rollout_result server_summary

/-- The stage loop of `run`. -/
def runStages (o : PipelineOrchestrator) : Nat → List StagePlan → Orch Unit
  | _, [] => pure ()
  | index, stage :: rest => do
      o._run_stage index stage
      o.runStages (index + 1) rest

/-! ## §6. The run. -/

/-- `except Exception`: note the exception and go on; an interrupt passes. -/
def cleanup (name : String) (m : Orch Unit) : Orch (List String) :=
  Program.attempt (do m; pure []) fun
    | .exn e => pure [name ++ ":" ++ e.typeName]
    | .interrupt => Program.raise .interrupt

/-- `_safe_stop`, up to the executor stop. -/
def enterSafeStop : Orch Unit := do
  let self ← Program.read
  if self.state ∈ [PipelineState.SAFE_STOP, .FAILED, .COMPLETED] then pure ()
  else _enter .SAFE_STOP

/-- `_safe_stop`, the open session. -/
def closeOpenSession : Orch (List String) := do
  let self ← Program.read
  if self._active_session_id.isNotNone then
    let failures ← cleanup "close_session" (do
      let _ ← _control .close_session [self._active_session_id]
      pure ())
    Program.update fun s => { s with _active_session_id := .none }
    pure failures
  else pure []

/-- `_safe_stop`, the started trial. -/
def abortTrial (code : ErrorCode) : Orch (List String) := do
  let self ← Program.read
  if self._trial_started then
    let failures ← cleanup "abort_trial" (do
      let _ ← _control .abort [.str (py ("edge safe stop: " ++ code.value))]
      pure ())
    Program.update fun s => { s with _trial_started := false }
    pure failures
  else pure []

/-- `_safe_stop`, the last transition and the failure record. -/
def recordFailure (code : ErrorCode) (message : String) (cleanup_failures : List String) :
    Orch Unit := do
  let self ← Program.read
  if self.state = .SAFE_STOP then _enter .FAILED else pure ()
  let self ← Program.read
  let message :=
    if cleanup_failures.isEmpty then message
    else message ++ "; cleanup_failures=" ++ ",".intercalate cleanup_failures
  Program.attempt (ask (.audit_fail self.state code message)) fun
    | .exn _ => pure ()
    | .interrupt => Program.raise .interrupt

/-- `_safe_stop`. -/
def _safe_stop (code : ErrorCode) (message : String) : Orch Unit := do
  enterSafeStop
  let stop_failures ← cleanup "action_stop"
    (ask (.stop (py ("safe_stop:" ++ code.value))))
  let close_failures ← closeOpenSession
  let abort_failures ← abortTrial code
  recordFailure code message (stop_failures ++ close_failures ++ abort_failures)

/-- The `try` block of `run`. -/
def mainPath (o : PipelineOrchestrator) : Orch Dict := do
  _transition .PREFLIGHT
  ask .observation_preflight
  ask .reset_preflight
  ask .executor_preflight
  o.runStages 0 o.plan.stages
  _transition .COMPLETED
  ask .audit_complete

/-- The code and message an exception is reported under. -/
def reported : Raised → ErrorCode × String
  | .interrupt => (.PIPELINE_FAILED, "operator interrupted pipeline")
  | .exn (.fault f) => (f.code, f.message)
  | .exn (.error _) => (.PIPELINE_FAILED, "pipeline component failed")

/-- What `run` raises for an exception: an `Exception` that is no
`RuntimeFault` is wrapped. -/
def reraised : Raised → Raised
  | .exn (.error _) => .exn (fault .PIPELINE_FAILED "pipeline component failed")
  | x => x

/-- The `except` clauses of `run`. -/
def onFailure (x : Raised) : Orch Dict := do
  _safe_stop (reported x).1 (reported x).2
  Program.raise (reraised x)

/-- `run`. -/
def run (o : PipelineOrchestrator) : Orch Dict := do
  let approved : Bool ← ask (.approve_run o.plan.run_id o.plan.skills)
  check approved (fault .APPROVAL_REQUIRED "run-level operator approval was not granted")
  ask (.audit_begin o.plan.run_id o.plan.skills)
  Program.attempt o.mainPath onFailure

end PipelineOrchestrator

end OvenRuntime
