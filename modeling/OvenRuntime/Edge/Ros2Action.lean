/-
  OvenRuntime.Edge.Ros2Action
  ───────────────────────────
  The action executor: the only component that commands the robot.

  Each call takes from outside what it reads while it runs: the arm snapshots
  of the observation node and the answers of the online gate.  Everything the
  two command publishers have sent is kept in `published`, oldest first.
-/
import OvenRuntime.Edge.ProfileTypes
import Mathlib.Data.Rat.Floor

namespace OvenRuntime

/-- One pair of messages on the two command topics. -/
structure Command where
  left : Joints
  right : Joints

/-- `RosActionExecutor`, over a configuration that passed its checks. -/
structure RosActionExecutor where
  config : RosBridgeConfig
  valid : config.validate = .ok ()
  _active_skill : Option PyStr := none
  _published_rows : Nat := 0
  _last_command : Option Joints := none
  _has_published : Bool := false
  _preflight_complete : Bool := false
  published : List Command := []

/-- The answers of `online_gate.reached_result(skill, published_rows)`. -/
abbrev GateAnswers := PyStr → Nat → Option GateResult

/-- `observation.arm_snapshot(arm)`: the controlled arm and the other one. -/
abbrev ArmSnapshot := PyStr → Except Exn (Joints × Joints)

/-- The part of a command that goes to an arm. -/
def Command.toArm (arm : PyStr) (command : Command) : Joints :=
  if arm = py "left" then command.left else command.right

namespace RosActionExecutor

/-- `_publish_pair`. -/
def _publish_pair (ex : RosActionExecutor) (left right : Joints) : RosActionExecutor :=
  { ex with published := ex.published ++ [⟨left, right⟩], _has_published := true }

/-- `_publish_controlled`. -/
def _publish_controlled (ex : RosActionExecutor) (arm : PyStr) (command other_hold : Joints) :
    Except Exn Unit × RosActionExecutor :=
  if arm = py "left" then (.ok (), ex._publish_pair command other_hold)
  else if arm = py "right" then (.ok (), ex._publish_pair other_hold command)
  else (.error (.error .ValueError), ex)

/-- `preflight`; `checks` is how the observation, lock and publisher checks end. -/
def preflight (ex : RosActionExecutor) (checks : Except Exn Unit) :
    Except Exn Unit × RosActionExecutor :=
  if ex._preflight_complete then (.ok (), ex)
  else
    match checks with
    | .error e => (.error e, ex)
    | .ok () => (.ok (), { ex with _preflight_complete := true })

/-- `begin_stage`; `gate` is how `online_gate.begin(skill)` ends. -/
def begin_stage (ex : RosActionExecutor) (skill : PyStr) (checks gate : Except Exn Unit)
    (arm_snapshot : ArmSnapshot) : Except Exn Unit × RosActionExecutor :=
  match ex.preflight checks with
  | (.error e, ex) => (.error e, ex)
  | (.ok (), ex) =>
      match gate, ex.config.skill_arms.lookup skill with
      | .error e, _ => (.error e, ex)
      | .ok (), none => (.error (.error .KeyError), ex)
      | .ok (), some arm =>
          match arm_snapshot arm with
          | .error e => (.error e, ex)
          | .ok (controlled, _) =>
              (.ok (), { ex with
                _active_skill := some skill
                _published_rows := 0
                _last_command := some controlled })

/-- The positions of the chunk transition: `np.linspace` without its first
point, from the last command to the first row. -/
def transition (steps : Nat) (last first : Joints) : List Joints :=
  (List.range steps).map fun i => fun j =>
    last j + ((i + 1 : Nat) : ℚ) / (steps : ℚ) * (first j - last j)

/-- Publish a list of positions one after the other. -/
def publishAll (ex : RosActionExecutor) (arm : PyStr) (other_hold : Joints) :
    List Joints → Except Exn Unit × RosActionExecutor
  | [] => (.ok (), ex)
  | command :: rest =>
      match ex._publish_controlled arm command other_hold with
      | (.error e, ex) => (.error e, ex)
      | (.ok (), ex) => ex.publishAll arm other_hold rest

/-- `max(2, int(math.ceil(reset_duration_sec * publish_hz)))`. -/
def total_steps (config : RosBridgeConfig) : Nat :=
  max 2 ⌈config.reset_duration_sec * config.publish_hz⌉.toNat

/-- The ease-in/ease-out polynomial of `reset`. -/
def smooth (fraction : ℚ) : ℚ := fraction * fraction * (3 - 2 * fraction)

/-- The positions `reset` commands. -/
def resetPositions (total_steps : Nat) (start target : Joints) : List Joints :=
  (List.range total_steps).map fun i => fun j =>
    start j + smooth (((i + 1 : Nat) : ℚ) / (total_steps : ℚ)) * (target j - start j)

/-- `float(np.max(np.abs(measured - target)))`. -/
def resetError (measured target : Joints) : ℚ :=
  npMax ((List.finRange 7).map fun j => |measured j - target j|)

/-- The verification loop of `reset`, over the snapshots taken before its
deadline. -/
def verifyReset (tolerance : ℚ) (arm : PyStr) (target : Joints) :
    List (Except Exn (Joints × Joints)) → Except Exn Unit
  | [] =>
      .error (fault .ACTION_INVALID
        (if arm = py "left" then "left arm did not reach its configured reset target"
          else "right arm did not reach its configured reset target"))
  | .error e :: _ => .error e
  | .ok (measured, _) :: rest =>
      if resetError measured target ≤ tolerance then .ok ()
      else verifyReset tolerance arm target rest

/-- `reset`; `measured` are the snapshots of its verification. -/
def reset (ex : RosActionExecutor) (skill : PyStr) (checks : Except Exn Unit)
    (arm_snapshot : ArmSnapshot) (measured : List (Except Exn (Joints × Joints))) :
    Except Exn Unit × RosActionExecutor :=
  match ex.preflight checks with
  | (.error e, ex) => (.error e, ex)
  | (.ok (), ex) =>
      match ex.config.reset_targets.lookup skill, ex.config.skill_arms.lookup skill with
      | some target, some arm =>
          match arm_snapshot arm with
          | .error e => (.error e, ex)
          | .ok (start, other_hold) =>
              match ex.publishAll arm other_hold
                  (resetPositions (total_steps ex.config) start (joints target)) with
              | (.error e, ex) => (.error e, ex)
              | (.ok (), ex) =>
                  (verifyReset ex.config.reset_tolerance arm (joints target) measured, ex)
      | _, _ => (.error (.error .KeyError), ex)

/-- The result of a `publish` that the gate ended. -/
def restDetected (published_rows : Nat) (gate_result : GateResult) : PublishResult :=
  { stop_requested := true, reason := some (py "joint_rest_detected"),
    published_rows := published_rows, gate_result := some gate_result }

/-- A step from the last command to a row exceeds some joint's limit. -/
def exceeds (config : RosBridgeConfig) (last row : Joints) : Bool :=
  (List.finRange 7).any fun j => decide (joints config.max_row_delta j < |row j - last j|)

/-- The row loop of `publish`; `row_index` rows are out already, the last one
at `last`. -/
def publishRows (ex : RosActionExecutor) (skill arm : PyStr) (other_hold : Joints)
    (gate : GateAnswers) (row_index : Nat) (last : Joints) :
    List Joints → Except Exn PublishResult × RosActionExecutor
  | [] => (.ok { published_rows := row_index }, ex)
  | row :: rest =>
      if exceeds ex.config last row then
        (.error (fault .ACTION_INVALID
          "adjacent policy action rows exceed ROS command delta limits"), ex)
      else
        match ex._publish_controlled arm row other_hold with
        | (.error e, ex) => (.error e, ex)
        | (.ok (), ex) =>
            let ex := { ex with
              _last_command := some row, _published_rows := ex._published_rows + 1 }
            match gate skill ex._published_rows with
            | some gate_result => (.ok (restDetected (row_index + 1) gate_result), ex)
            | none => ex.publishRows skill arm other_hold gate (row_index + 1) row rest

/-- `publish` of a chunk of rows with seven columns. -/
def publish (ex : RosActionExecutor) (rows : List Joints) (arm_snapshot : ArmSnapshot)
    (gate : GateAnswers) : Except Exn PublishResult × RosActionExecutor :=
  match ex._preflight_complete, ex._active_skill, ex._last_command with
  | true, some skill, some last =>
      match ex.config.skill_arms.lookup skill with
      | none => (.error (.error .KeyError), ex)
      | some arm =>
          match arm_snapshot arm with
          | .error e => (.error e, ex)
          | .ok (_, other_hold) =>
              match rows with
              | [] => (.error (.error .IndexError), ex)
              | first :: rest =>
                  match ex.publishAll arm other_hold
                      (transition ex.config.chunk_transition_steps.toNat last first) with
                  | (.error e, ex) => (.error e, ex)
                  | (.ok (), ex) =>
                      let ex := { ex with
                        _published_rows := ex._published_rows + 1, _last_command := some first }
                      match gate skill ex._published_rows with
                      | some gate_result => (.ok (restDetected 1 gate_result), ex)
                      | none => ex.publishRows skill arm other_hold gate 1 first rest
  | _, _, _ =>
      (.error (fault .STATE_REJECTED "ROS action executor has no active stage"), ex)

end RosActionExecutor

end OvenRuntime
