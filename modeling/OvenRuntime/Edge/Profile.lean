/-
  OvenRuntime.Edge.Profile
  ────────────────────────
  `load_agilex_profile`: the tables of a TOML document become a checked profile.

  What lies outside the document — the home directories, the resolved runtime
  root and the checks of a URL that need the Unicode database — is given.
-/
import OvenRuntime.Common.PosixPath
import OvenRuntime.Common.Url
import OvenRuntime.Edge.ActionValidation
import OvenRuntime.Edge.Orchestrator
import OvenRuntime.Edge.ProfileTypes

namespace OvenRuntime

/-! ## §1. Documents. -/

/-- A value of a parsed TOML document. -/
inductive Toml where
  | str (s : PyStr)
  | int (i : Int)
  | float (x : PyFloat)
  | bool (b : Bool)
  /-- A date, a time or both. -/
  | datetime
  | array (items : List Toml)
  | table (entries : List (PyStr × Toml))

abbrev TomlTable := List (PyStr × Toml)

/-- `value == i` for an integer `i`. -/
def Toml.equalsInt (i : Int) : Toml → Bool
  | .int j => j = i
  | .bool b => (if b then 1 else 0) = i
  | .float (.fin q) => q = i
  | .float .negZero => i = 0
  | _ => false

/-- `float(i)`: the nearest double, ties to even. -/
def doubleOfInt (i : Int) : Except PyError ℚ :=
  let n := i.natAbs
  let e := n.log2 - 52
  let kept := n >>> e
  let dropped := n % 2 ^ e
  let rounded :=
    if 2 ^ e < 2 * dropped ∨ (2 ^ e = 2 * dropped ∧ kept % 2 = 1) then kept + 1 else kept
  let value := rounded * 2 ^ e
  if 2 ^ 1024 ≤ value then .error .OverflowError
  else .ok (i.sign * value)

/-- `isinstance(item, (int, float)) and not isinstance(item, bool)`. -/
def Toml.isNumber : Toml → Bool
  | .int _ | .float _ => true
  | _ => false

/-- `float(item)` of a number. -/
def Toml.toFloat : Toml → Except PyError PyFloat
  | .int i => (doubleOfInt i).map .fin
  | .float x => .ok x
  | _ => .error .TypeError

/-- An integer that is not a boolean. -/
def Toml.exactInt? : Toml → Option Int
  | .int i => some i
  | _ => none

/-! ## §2. Fields. -/

namespace Profile

def _mapping (value : TomlTable) (key : PyStr) : Except PyError TomlTable :=
  match value.lookup key with
  | some (.table result) => .ok result
  | _ => .error .ValueError

def _string (value : TomlTable) (key : String) : Except PyError PyStr :=
  match value.lookup (py key) with
  | some (.str result) => if result.isEmpty then .error .ValueError else .ok result
  | _ => .error .ValueError

def _boolean (value : TomlTable) (key : String) : Except PyError Bool :=
  match value.lookup (py key) with
  | some (.bool result) => .ok result
  | _ => .error .ValueError

def _integer (value : TomlTable) (key : String) : Except PyError Int :=
  match (value.lookup (py key)).bind Toml.exactInt? with
  | some result => .ok result
  | none => .error .ValueError

def _number (value : TomlTable) (key : String) : Except PyError ℚ :=
  match value.lookup (py key) with
  | none => .error .ValueError
  | some result => do
      if !result.isNumber then throw .ValueError
      let number ← result.toFloat
      if !number.isfinite then throw .ValueError
      return number.number

/-- The integers of an array that holds no others. -/
def integers : List Toml → Except PyError (List Int)
  | items =>
      if items.any fun item => item.exactInt?.isNone then .error .ValueError
      else .ok (items.filterMap Toml.exactInt?)

def _integer_list (value : TomlTable) (key : String) : Except PyError (List Int) :=
  match value.lookup (py key) with
  | some (.array result) => if result.isEmpty then .error .ValueError else integers result
  | _ => .error .ValueError

def _optional_integer_list (value : TomlTable) (key : String) : Except PyError (List Int) :=
  match value.lookup (py key) with
  | none => .ok []
  | some (.array result) => integers result
  | some _ => .error .ValueError

def _float_tuple_value (length : Option Nat) : Option Toml → Except PyError (List ℚ)
  | some (.array value) => do
      if length.any (· != value.length) then throw .ValueError
      if value.any fun item => !item.isNumber then throw .ValueError
      let result ← value.mapM Toml.toFloat
      if result.any fun item => !item.isfinite then throw .ValueError
      return result.map PyFloat.number
  | _ => .error .ValueError

def _float_tuple (length : Option Nat) (value : TomlTable) (key : String) :
    Except PyError (List ℚ) :=
  _float_tuple_value length (value.lookup (py key))

def _optional_float_tuple (value : TomlTable) (key : String) : Except PyError (List ℚ) :=
  match value.lookup (py key) with
  | none => .ok []
  | some item => _float_tuple_value none (some item)

end Profile

/-! ## §3. Profiles. -/

structure CheckerSpec where
  model_relative_path : PyStr
  model_sha256 : PyStr
  success_class : PyStr
  threshold : ℚ
  preprocessing : PyStr

/-- `CheckerSpec.validate`. -/
def CheckerSpec.validate (spec : CheckerSpec) : Except PyError Unit :=
  if spec.model_sha256.length ≠ 64 ∨
      spec.model_sha256.any fun c => !(py "0123456789abcdef").contains c then
    .error .ValueError
  else if spec.success_class.isEmpty ∨ ¬ (0 < spec.threshold ∧ spec.threshold ≤ 1) then
    .error .ValueError
  else if spec.preprocessing ∉ [py "resize", py "resize_center_crop"] then .error .ValueError
  else .ok ()

/-- The whole configuration of the robot bridge. -/
structure RosBridgeProfile extends RosBridgeConfig where
  lock_directory : PurePosixPath
  left_joint_topic : PyStr
  right_joint_topic : PyStr
  left_command_topic : PyStr
  right_command_topic : PyStr
  left_camera_topic : PyStr
  right_camera_topic : PyStr
  front_camera_topic : PyStr

structure AgilexProfile where
  plan : PipelinePlan
  ros : RosBridgeProfile
  gates : List (PyStr × JointGateProfile)
  checkers : List (PyStr × CheckerSpec)
  action_dimension : Int
  action_chunk_rows : Int
  action_max_absolute_value : ℚ
  observation_max_age_ms : ℚ
  server_host_alias : PyStr
  inference_uri : PyStr
  remote_inference_port : Int
  inference_timeout_sec : ℚ
  remote_control_program : PyStr
  remote_runtime_root : PurePosixPath

/-- What the environment tells the loader. -/
structure ProfileEnvironment where
  /-- `os.path.expanduser` of a name that starts with a tilde. -/
  home : PyStr → PyStr
  /-- `runtime_root.expanduser().resolve() / "locks"`. -/
  lock_directory : Except PyError PurePosixPath
  /-- The checks of a network location that are left out of `urlsplit`. -/
  netlocOk : PyStr → Bool

/-! ## §4. Skills. -/

/-- What the table of one skill gives. -/
structure SkillEntry where
  skill : PyStr
  prompt : PyStr
  reset_target : List ℚ
  arm : PyStr
  /-- The stage of the plan, if the skill is in it. -/
  stage : Option StagePlan
  gate : JointGateProfile
  checker : Option CheckerSpec

/-- The stage of a planned skill. -/
def loadStage (selected_skill : Option PyStr) (chunk_rows : Int) (settle_sec : ℚ)
    (checker_required : Bool) (value : TomlTable) (skill : PyStr) : Except PyError StagePlan := do
  let root_seed ← Profile._integer value "root_seed"
  let max_chunks ← Profile._integer value "max_chunks"
  -- a skill that runs alone starts from its own reset target
  let reset_before ←
    (if selected_skill.isSome then .ok true else Profile._boolean value "reset_before")
  return {
    skill := skill, root_seed := root_seed, max_chunks := max_chunks,
    action_steps := max_chunks * chunk_rows, settle_sec := settle_sec,
    reset_before := reset_before, checker_required := checker_required }

/-- The gate of a skill. -/
def loadGate (value : TomlTable) (arm : PyStr) : Except PyError JointGateProfile := do
  let gate ← Profile._mapping value (py "gate")
  match gate.lookup (py "targets") with
  | some (.array items) => do
      if items.isEmpty then throw .ValueError
      let targets ← items.mapM fun item => Profile._float_tuple_value (some 7) (some item)
      return {
        arm := arm, targets := targets
        check_indices := ← Profile._integer_list gate "check_indices"
        tolerance := ← Profile._float_tuple none gate "tolerance"
        departure_threshold := ← Profile._number gate "departure_threshold"
        min_publish_step := ← Profile._integer gate "min_publish_step"
        window_samples := ← Profile._integer gate "window_samples"
        max_spread := ← Profile._number gate "max_spread"
        arming_indices := ← Profile._optional_integer_list gate "arming_indices"
        arming_min_abs_position := ← Profile._optional_float_tuple gate "arming_min_abs_position" }
  | _ => throw .ValueError

/-- The checker of a skill that requires one. -/
def loadChecker (value : TomlTable) : Except PyError CheckerSpec := do
  let checker ← Profile._mapping value (py "checker")
  return {
    model_relative_path := ← Profile._string checker "model_relative_path"
    model_sha256 := ← Profile._string checker "model_sha256"
    success_class := ← Profile._string checker "success_class"
    threshold := ← Profile._number checker "threshold"
    preprocessing := ← Profile._string checker "preprocessing" }

/-- One turn of the loop over `FIXED_SKILL_ORDER`. -/
def loadSkill (selected_skill : Option PyStr) (chunk_rows : Int) (settle_sec : ℚ)
    (skills : TomlTable) (skill : PyStr) : Except PyError SkillEntry := do
  let value ← Profile._mapping skills skill
  let prompt ← Profile._string value "prompt"
  let reset_target ← Profile._float_tuple (some 7) value "reset_target"
  let arm ← Profile._string value "arm"
  let checker_required ← Profile._boolean value "checker_required"
  let stage ←
    (if selected_skill.all (· == skill) then
      (loadStage selected_skill chunk_rows settle_sec checker_required value skill).map some
    else .ok none)
  let gate ← loadGate value arm
  let checker ← (if checker_required then (loadChecker value).map some else .ok none)
  return {
    skill := skill, prompt := prompt, reset_target := reset_target, arm := arm
    stage := stage, gate := gate, checker := checker }

/-! ## §5. The loader. -/

/-- `[A-Za-z0-9][A-Za-z0-9_.-]*`. -/
def HOST_ALIAS_PATTERN : PyStr → Bool
  | [] => false
  | c :: cs => c.isAlnum && cs.all CodePoint.isIdChar

/-- A loopback address that the loader takes. -/
def LOOPBACK_HOSTS : List PyStr := [py "127.0.0.1", py "::1"]

/-- The checks of the inference URI. -/
def validateUri (netlocOk : PyStr → Bool) (inference_uri : PyStr) : Except PyError Unit := do
  let uri ← urlsplit netlocOk inference_uri
  let port ← uri.port
  if uri.scheme ≠ py "ws" ∨ uri.hostname ∉ LOOPBACK_HOSTS.map some ∨ port = none ∨
      uri.username ≠ none ∨ uri.password ≠ none ∨ uri.path ∉ [[], py "/"] ∨
      uri.query ≠ [] ∨ uri.fragment ≠ [] then
    throw .ValueError

/-- `_validate_profile`. -/
def _validate_profile (env : ProfileEnvironment) (profile : AgilexProfile) :
    Except PyError Unit := do
  if profile.action_dimension ≤ 0 ∨ profile.action_chunk_rows ≤ 0 then throw .ValueError
  if profile.action_max_absolute_value ≤ 0 then throw .ValueError
  if profile.observation_max_age_ms ≤ 0 then throw .ValueError
  if ¬ (1 ≤ profile.remote_inference_port ∧ profile.remote_inference_port ≤ 65535) then
    throw .ValueError
  if profile.inference_timeout_sec ≤ 0 then throw .ValueError
  if !HOST_ALIAS_PATTERN profile.server_host_alias then throw .ValueError
  if !(py "/").isPrefixOf profile.remote_control_program ∨
      py ".." ∈ (PurePosixPath.parse profile.remote_control_program).parts then
    throw .ValueError
  if !profile.remote_runtime_root.is_absolute ∨ py ".." ∈ profile.remote_runtime_root.parts then
    throw .ValueError
  validateUri env.netlocOk profile.inference_uri

/-- The robot bridge's part of the document. -/
def loadRos (env : ProfileEnvironment) (ros action : TomlTable) (entries : List SkillEntry) :
    Except PyError RosBridgeProfile := do
  return {
    prompts := entries.map fun entry => (entry.skill, entry.prompt)
    reset_targets := entries.map fun entry => (entry.skill, entry.reset_target)
    skill_arms := entries.map fun entry => (entry.skill, entry.arm)
    lock_directory := ← env.lock_directory
    left_joint_topic := ← Profile._string ros "left_joint_topic"
    right_joint_topic := ← Profile._string ros "right_joint_topic"
    left_command_topic := ← Profile._string ros "left_command_topic"
    right_command_topic := ← Profile._string ros "right_command_topic"
    left_camera_topic := ← Profile._string ros "left_camera_topic"
    right_camera_topic := ← Profile._string ros "right_camera_topic"
    front_camera_topic := ← Profile._string ros "front_camera_topic"
    image_size := ← Profile._integer ros "image_size"
    max_message_age_sec := ← Profile._number ros "max_message_age_sec"
    preflight_timeout_sec := ← Profile._number ros "preflight_timeout_sec"
    publish_hz := ← Profile._number ros "publish_hz"
    chunk_transition_steps := ← Profile._integer action "chunk_transition_steps"
    chunk_transition_hz := ← Profile._number action "chunk_transition_hz"
    max_row_delta := ← Profile._float_tuple (some 7) action "max_row_delta"
    reset_duration_sec := ← Profile._number ros "reset_duration_sec"
    reset_tolerance := ← Profile._number ros "reset_tolerance"
    reset_verify_timeout_sec := ← Profile._number ros "reset_verify_timeout_sec"
    stop_hold_repetitions := ← Profile._integer ros "stop_hold_repetitions" }

/-- `load_agilex_profile` up to the checks of the finished profile. -/
def readProfile (env : ProfileEnvironment) (raw : TomlTable) (run_id : PyStr)
    (selected_skill : Option PyStr) : Except PyError AgilexProfile := do
  if !(raw.lookup (py "schema_version")).any (Toml.equalsInt 1) then throw .ValueError
  let server ← Profile._mapping raw (py "server")
  let ros ← Profile._mapping raw (py "ros")
  let action ← Profile._mapping raw (py "action")
  let skills ← Profile._mapping raw (py "skills")
  let chunk_rows ← Profile._integer action "chunk_rows"
  let settle_sec ← Profile._number ros "settle_sec"
  if selected_skill.any fun skill => !FIXED_SKILL_ORDER.contains skill then throw .ValueError
  let entries ← FIXED_SKILL_ORDER.mapM (loadSkill selected_skill chunk_rows settle_sec skills)
  return {
    plan := { run_id := run_id, stages := entries.filterMap SkillEntry.stage }
    ros := ← loadRos env ros action entries
    gates := entries.map fun entry => (entry.skill, entry.gate)
    checkers := entries.filterMap fun entry => entry.checker.map fun spec => (entry.skill, spec)
    action_dimension := ← Profile._integer action "dimension"
    action_chunk_rows := chunk_rows
    action_max_absolute_value := ← Profile._number action "max_absolute_value"
    observation_max_age_ms := ← Profile._number ros "observation_max_age_ms"
    server_host_alias := ← Profile._string server "ssh_host_alias"
    inference_uri := ← Profile._string server "local_inference_uri"
    remote_inference_port := ← Profile._integer server "remote_inference_port"
    inference_timeout_sec := ← Profile._number server "inference_timeout_sec"
    remote_control_program := ← Profile._string server "remote_control_program"
    remote_runtime_root :=
      ← (PurePosixPath.parse (← Profile._string server "remote_runtime_root")).expanduser env.home }

/-- `load_agilex_profile`, from the parsed document on. -/
def load_agilex_profile (env : ProfileEnvironment) (raw : TomlTable) (run_id : PyStr)
    (selected_skill : Option PyStr) : Except PyError AgilexProfile := do
  let profile ← readProfile env raw run_id selected_skill
  profile.plan.validate
  profile.ros.validate
  let _ ← profile.gates.mapM fun gate => gate.2.arrays
  let _ ← profile.checkers.mapM fun checker => checker.2.validate
  _validate_profile env profile
  return profile

end OvenRuntime
