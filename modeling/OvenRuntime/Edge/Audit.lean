/-
  OvenRuntime.Edge.Audit
  ──────────────────────
  `EdgeAuditStore`: the evidence of a pipeline run on the edge.

  One active run at a time, one directory per run, created once; below it one
  directory per stage, each created once.  The names of the skills have no
  path separators, so the directory of a stage is one entry of `stages/`.
  Whether `json.dump` accepts a dictionary handed in by the caller is part of
  the outcome of the write.
-/
import OvenRuntime.Common.Files
import OvenRuntime.Common.Protocol
import OvenRuntime.Edge.Contracts

namespace OvenRuntime

/-! ## §1. The stored data. -/

inductive RunStatus where
  | ACTIVE
  | FAILED
  | COMPLETED
  deriving DecidableEq, Repr

/-- `run_manifest.json`; the two keys of a failure are `none` elsewhere. -/
structure RunManifest where
  schema_version : Nat := 1
  run_id : PyStr
  status : RunStatus
  pipeline_state : PyStr
  planned_skills : List PyStr
  completed_stages : Nat
  error_code : Option PyStr := none
  message : Option PyStr := none
  deriving DecidableEq

/-- The string of a status. -/
def RunStatus.value : RunStatus → String
  | ACTIVE => "ACTIVE"
  | FAILED => "FAILED"
  | COMPLETED => "COMPLETED"

/-- The dictionary `_write_manifest` writes and returns. -/
def RunManifest.toDict (m : RunManifest) : Dict :=
  [(.str (py "schema_version"), .int m.schema_version),
   (.str (py "run_id"), .str m.run_id),
   (.str (py "status"), .str (py m.status.value)),
   (.str (py "pipeline_state"), .str m.pipeline_state),
   (.str (py "planned_skills"), .list (m.planned_skills.map .str)),
   (.str (py "completed_stages"), .int m.completed_stages)] ++
  (m.error_code.map fun e => (.str (py "error_code"), .str e)).toList ++
  (m.message.map fun e => (.str (py "message"), .str e)).toList

/-- The strings of a manifest that `json.dump` has to encode. -/
def RunManifest.encodable (m : RunManifest) : Bool :=
  m.run_id.encodable && m.pipeline_state.encodable && m.planned_skills.all PyStr.encodable &&
    (m.error_code.map PyStr.encodable).getD true && (m.message.map PyStr.encodable).getD true

/-- `StageEvidence.completed`. -/
def StageEvidence.completed (e : StageEvidence) : Bool :=
  decide (e.rollout_exit_code = some 0) && e.rollout_end_reason.isSome &&
    e.rollout_end_reason_approved && decide (e.joint_gate = .PASSED) &&
    (decide (e.checker = .PASSED) || decide (e.checker = .NOT_REQUIRED)) &&
    decide (e.server_audit = .PASSED) && decide (e.edge_audit = .PASSED)

/-- What `complete_stage` is handed. -/
structure StageCompletion where
  evidence : StageEvidence
  gate : GateResult
  checker : CheckerResult
  server_summary : Dict

/-- `stage_evidence.json`, by its status. -/
inductive StageRecord where
  /-- `"status": "ACTIVE"` -/
  | active (stage_index : Nat) (skill trial_id : PyStr)
  /-- `"status": "COMPLETED"` -/
  | completed (c : StageCompletion)

/-- The strings of a record that `json.dump` has to encode. -/
def StageRecord.encodable : StageRecord → Bool
  | .active _ skill trial_id => skill.encodable && trial_id.encodable
  | .completed c =>
      (c.evidence.rollout_end_reason.map PyStr.encodable).getD true && c.gate.reason.encodable &&
        c.checker.asset_id.encodable && c.checker.reason.encodable

/-- `stage_failure.json`. -/
structure StageFailure where
  error_code : PyStr
  message : PyStr
  deriving DecidableEq

/-- The files of one stage directory. -/
structure StageDir where
  stage_evidence : Option StageRecord := none
  rollout : List Dict := []
  stage_failure : Option StageFailure := none

/-- The files of one run directory, and the directories below `stages/`. -/
structure RunDir where
  run_manifest : Option RunManifest := none
  stages : PyStr → Option StageDir := fun _ => none

structure ActiveEdgeRun where
  run_id : PyStr
  planned_skills : List PyStr
  completed_stages : Nat := 0
  /-- The entry of `stages/`. -/
  active_stage_directory : Option PyStr := none
  deriving DecidableEq

/-- The store: the active run and the directories below the audit root, each
named by its run. -/
structure EdgeAuditStore where
  _active : Option ActiveEdgeRun := none
  dirs : PyStr → Option RunDir

/-- `f"{index:02d}_{skill}"`. -/
def stageDirectory (index : Nat) (skill : PyStr) : PyStr :=
  (if index < 10 then py "0" else []) ++ pyNat index ++ py "_" ++ skill

namespace EdgeAuditStore

/-! ## §2. Writing. -/

/-- Update the files of one run directory if the write took effect. -/
def writeIf (st : EdgeAuditStore) (run_id : PyStr) (applied : Bool) (f : RunDir → RunDir) :
    EdgeAuditStore :=
  if applied then
    { st with dirs := fun d => if d = run_id then (st.dirs d).map f else st.dirs d }
  else st

/-- Create a run directory. -/
def mkdir (st : EdgeAuditStore) (run_id : PyStr) : EdgeAuditStore :=
  { st with dirs := fun d => if d = run_id then some {} else st.dirs d }

/-- Replace the manifest of a run directory. -/
def setManifest (manifest : RunManifest) (d : RunDir) : RunDir :=
  { d with run_manifest := some manifest }

/-- Create an entry of `stages/`. -/
def addStage (name : PyStr) (d : RunDir) : RunDir :=
  { d with stages := fun n => if n = name then some {} else d.stages n }

/-- Update the files of one entry of `stages/`. -/
def updateStage (name : PyStr) (f : StageDir → StageDir) (d : RunDir) : RunDir :=
  { d with stages := fun n => if n = name then (d.stages n).map f else d.stages n }

/-- `_require_active`. -/
def _require_active (st : EdgeAuditStore) : Except Exn ActiveEdgeRun :=
  match st._active with
  | none => .error (fault .STATE_REJECTED "no active edge run")
  | some active => .ok active

/-- `_require_stage`. -/
def _require_stage (st : EdgeAuditStore) : Except Exn (ActiveEdgeRun × PyStr) :=
  match st._require_active with
  | .error e => .error e
  | .ok active =>
      match active.active_stage_directory with
      | none => .error (fault .STATE_REJECTED "no active edge stage")
      | some directory => .ok (active, directory)

/-- The manifest `_write_manifest` writes. -/
def runManifest (active : ActiveEdgeRun) (status : RunStatus) (state : PyStr)
    (error_code message : Option PyStr) : RunManifest :=
  { run_id := active.run_id, status := status, pipeline_state := state,
    planned_skills := active.planned_skills, completed_stages := active.completed_stages,
    error_code := error_code, message := message }

/-- `_write_manifest`. -/
def _write_manifest (st : EdgeAuditStore) (status : RunStatus) (state : PyStr)
    (error_code message : Option PyStr) (w : WriteOutcome) :
    Except Exn RunManifest × EdgeAuditStore :=
  match st._require_active with
  | .error e => (.error e, st)
  | .ok active =>
      let manifest := runManifest active status state error_code message
      let (raised, replaced) := _atomic_json w manifest.encodable
      let st := st.writeIf active.run_id replaced (setManifest manifest)
      match raised with
      | some e => (.error (.error e), st)
      | none => (.ok manifest, st)

/-! ## §3. The operations. -/

/-- The rest of `begin`, once the directory exists. -/
def beginRun (st : EdgeAuditStore) (run_id : PyStr) (planned_skills : List PyStr)
    (w : WriteOutcome) : Except Exn PyStr × EdgeAuditStore :=
  let st := { st with _active := some { run_id := run_id, planned_skills := planned_skills } }
  match st._write_manifest .ACTIVE (py "CREATED") none none w with
  | (.error e, st) => (.error e, st)
  | (.ok _, st) => (.ok run_id, st)

/-- What the `mkdir` of `begin` raises leaves `begin` as this. -/
def mkdirFault (e : PyError) : Exn :=
  if e = .FileExistsError then
    fault .AUDIT_COMMIT_FAILED "edge run directory already exists"
  else .error e

/-- `begin`; it returns the directory. -/
def begin (st : EdgeAuditStore) (run_id : PyStr) (planned_skills : List PyStr) (io : Io) :
    Except Exn PyStr × EdgeAuditStore :=
  if !TRIAL_ID_PATTERN run_id then
    (.error (fault .INVALID_FIELD_VALUE "run_id format is invalid"), st)
  else
    match st._active with
    | some _ => (.error (fault .STATE_REJECTED "an edge run is already active"), st)
    | none =>
        if (st.dirs run_id).isSome then (.error (mkdirFault .FileExistsError), st)
        else
          match io 0 with
          | .raised e applied => (.error (mkdirFault e), if applied then st.mkdir run_id else st)
          | .done => (st.mkdir run_id).beginRun run_id planned_skills (io 1)

/-- `set_pipeline_state`. -/
def set_pipeline_state (st : EdgeAuditStore) (state : PyStr) (io : Io) :
    Except Exn Unit × EdgeAuditStore :=
  match st._require_active with
  | .error e => (.error e, st)
  | .ok _ =>
      match st._write_manifest .ACTIVE state none none (io 0) with
      | (.error e, st) => (.error e, st)
      | (.ok _, st) => (.ok (), st)

/-- The rest of `start_stage`, once its directory exists. -/
def openStage (st : EdgeAuditStore) (active : ActiveEdgeRun) (skill trial_id : PyStr)
    (w : WriteOutcome) : Except Exn PyStr × EdgeAuditStore :=
  let directory := stageDirectory active.completed_stages skill
  let record : StageRecord := .active active.completed_stages skill trial_id
  let (raised, replaced) := _atomic_json w record.encodable
  let st := { st with
    _active := some { active with active_stage_directory := some directory } }
  let st := st.writeIf active.run_id replaced
    (updateStage directory fun d => { d with stage_evidence := some record })
  match raised with
  | some e => (.error (.error e), st)
  | none => (.ok directory, st)

/-- `start_stage`; it returns the directory. -/
def start_stage (st : EdgeAuditStore) (index : Int) (skill trial_id : PyStr) (io : Io) :
    Except Exn PyStr × EdgeAuditStore :=
  match st._require_active with
  | .error e => (.error e, st)
  | .ok active =>
      if active.active_stage_directory ≠ none then
        (.error (fault .STATE_REJECTED "an edge stage is already active"), st)
      else if index ≠ active.completed_stages then
        (.error (fault .STATE_REJECTED "stage index is not the next planned stage"), st)
      else if active.planned_skills[active.completed_stages]? ≠ some skill then
        (.error (fault .STATE_REJECTED "stage skill does not match the fixed run plan"), st)
      else
        let directory := stageDirectory active.completed_stages skill
        if ((st.dirs active.run_id).bind (·.stages directory)).isSome then
          (.error (.error .FileExistsError), st)
        else
          match io 0 with
          | .raised e applied =>
              (.error (.error e), st.writeIf active.run_id applied (addStage directory))
          | .done =>
              (st.writeIf active.run_id true (addStage directory)).openStage active skill
                trial_id (io 1)

/-- What `record_rollout` raises for an error of its append. -/
def rolloutFault (e : PyError) : Exn :=
  if e.isOSError then fault .AUDIT_COMMIT_FAILED "cannot append edge rollout evidence"
  else .error e

/-- `record_rollout`. -/
def record_rollout (st : EdgeAuditStore) (row : Dict) (io : Io) :
    Except Exn Unit × EdgeAuditStore :=
  match st._require_stage with
  | .error e => (.error e, st)
  | .ok (active, directory) =>
      let (raised, appended) := _atomic_json (io 0) true
      let st := st.writeIf active.run_id appended
        (updateStage directory fun d => { d with rollout := d.rollout ++ [row] })
      match raised with
      | some e => (.error (rolloutFault e), st)
      | none => (.ok (), st)

/-- The rest of `complete_stage`, once the evidence is written. -/
def commitStage (st : EdgeAuditStore) (active : ActiveEdgeRun) (c : StageCompletion)
    (w : WriteOutcome) : Except Exn StageRecord × EdgeAuditStore :=
  let st := { st with
    _active := some { active with
      completed_stages := active.completed_stages + 1
      active_stage_directory := none } }
  match st._write_manifest .ACTIVE (py "HANDOFF") none none w with
  | (.error e, st) => (.error e, st)
  | (.ok _, st) => (.ok (.completed c), st)

/-- `complete_stage`. -/
def complete_stage (st : EdgeAuditStore) (c : StageCompletion) (io : Io) :
    Except Exn StageRecord × EdgeAuditStore :=
  if !c.evidence.completed then
    (.error (fault .AUDIT_COMMIT_FAILED "cannot commit an incomplete stage as completed"), st)
  else
    match st._require_stage with
    | .error e => (.error e, st)
    | .ok (active, directory) =>
        let record : StageRecord := .completed c
        let (raised, replaced) := _atomic_json (io 0) record.encodable
        let st := st.writeIf active.run_id replaced
          (updateStage directory fun d => { d with stage_evidence := some record })
        match raised with
        | some e => (.error (.error e), st)
        | none => st.commitStage active c (io 1)

/-- The rest of `fail`, once the active stage is closed. -/
def failRun (st : EdgeAuditStore) (state error_code message : PyStr) (w : WriteOutcome) :
    Except Exn RunManifest × EdgeAuditStore :=
  match st._write_manifest .FAILED state (some error_code) (some message) w with
  | (.error e, st) => (.error e, st)
  | (.ok result, st) => (.ok result, { st with _active := none })

/-- `fail`. -/
def fail (st : EdgeAuditStore) (state error_code message : PyStr) (io : Io) :
    Except Exn RunManifest × EdgeAuditStore :=
  match st._require_active with
  | .error e => (.error e, st)
  | .ok active =>
      match active.active_stage_directory with
      | none => st.failRun state error_code message (io 0)
      | some directory =>
          let (raised, replaced) := _atomic_json (io 0)
            (error_code.encodable && message.encodable)
          let st := st.writeIf active.run_id replaced (updateStage directory fun d =>
            { d with stage_failure := some { error_code := error_code, message := message } })
          match raised with
          | some e => (.error (.error e), st)
          | none =>
              ({ st with _active := some { active with active_stage_directory := none } }).failRun
                state error_code message (io 1)

/-- `complete`. -/
def complete (st : EdgeAuditStore) (io : Io) : Except Exn RunManifest × EdgeAuditStore :=
  match st._require_active with
  | .error e => (.error e, st)
  | .ok active =>
      if active.active_stage_directory ≠ none ∨
          active.completed_stages ≠ active.planned_skills.length then
        (.error (fault .AUDIT_COMMIT_FAILED
          "run cannot complete before every stage is committed"), st)
      else
        match st._write_manifest .COMPLETED (py "COMPLETED") none none (io 0) with
        | (.error e, st) => (.error e, st)
        | (.ok result, st) => (.ok result, { st with _active := none })

/-! ## §4. Calls. -/

/-- A call of the store with its arguments. -/
inductive Call where
  | begin (run_id : PyStr) (planned_skills : List PyStr)
  | set_pipeline_state (state : PyStr)
  | start_stage (index : Int) (skill trial_id : PyStr)
  | record_rollout (row : Dict)
  | complete_stage (c : StageCompletion)
  | fail (state error_code message : PyStr)
  | complete

/-- What a call returns. -/
inductive Returned where
  | directory (name : PyStr)
  | nothing
  | stage (record : StageRecord)
  | manifest (m : RunManifest)

/-- Wrap what an operation returns. -/
def outcome {α : Type} (f : α → Returned) (r : Except Exn α × EdgeAuditStore) :
    Except Exn Returned × EdgeAuditStore :=
  (r.1.map f, r.2)

/-- One call, with the outcomes of its file operations. -/
def step (st : EdgeAuditStore) (c : Call × Io) : Except Exn Returned × EdgeAuditStore :=
  match c.1 with
  | .begin run_id planned_skills => outcome .directory (st.begin run_id planned_skills c.2)
  | .set_pipeline_state state => outcome (fun _ => .nothing) (st.set_pipeline_state state c.2)
  | .start_stage index skill trial_id =>
      outcome .directory (st.start_stage index skill trial_id c.2)
  | .record_rollout row => outcome (fun _ => .nothing) (st.record_rollout row c.2)
  | .complete_stage completion => outcome .stage (st.complete_stage completion c.2)
  | .fail state error_code message =>
      outcome .manifest (st.fail state error_code message c.2)
  | .complete => outcome .manifest (st.complete c.2)

end EdgeAuditStore

end OvenRuntime
