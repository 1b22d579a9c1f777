/-
  OvenRuntime.Server.ControlProtocol
  ──────────────────────────────────
  `ControlDispatcher`: a control request is parsed, checked and handed to the
  runtime, and what the runtime returns or raises becomes a response.
-/
import OvenRuntime.Common.JsonDocument
import OvenRuntime.Lib.Dictionary
import OvenRuntime.Server.Runtime

namespace OvenRuntime

/-! ## §1. Results and faults as dictionaries. -/

/-- A string, or `None`. -/
def optionStr : Option PyStr → Value
  | some s => .str s
  | none => .none

/-- `status()`. -/
def Status.to_dict (s : Status) : Dict :=
  [(.str (py "state"), .str (py s.state.value)),
   (.str (py "active_skill"), optionStr s.active_skill),
   (.str (py "generation"), .int s.generation),
   (.str (py "backend"), optionStr s.backend),
   (.str (py "model_id"), optionStr s.model_id),
   (.str (py "active_session_id"), optionStr s.active_session_id),
   (.str (py "active_trial_id"), optionStr s.active_trial_id),
   (.str (py "in_flight"), .int s.in_flight),
   (.str (py "last_error"), optionStr (s.last_error.map fun code => py code.value))]

/-- `open_session()`. -/
def SessionGrant.to_dict (g : SessionGrant) : Dict :=
  [(.str (py "session_id"), .str g.session_id),
   (.str (py "session_token"), .str g.session_token),
   (.str (py "skill"), .str g.skill),
   (.str (py "generation"), .int g.generation),
   (.str (py "trial_id"), .str g.trial_id),
   (.str (py "expires_in_sec"), .float (.fin g.expires_in_sec))]

/-- The status of a trial in its summary. -/
def TrialStatus.value : TrialStatus → String
  | ACTIVE => "ACTIVE"
  | COMMITTED => "COMMITTED"
  | ABORTED => "ABORTED"
  | AMBIGUOUS_INFERENCE => "AMBIGUOUS_INFERENCE"

/-- The summary of a trial; the hashes stand in a committed one only. -/
def TrialRecord.to_dict (r : TrialRecord) : Dict :=
  [(.str (py "schema_version"), .int r.schema_version),
   (.str (py "trial_id"), .str r.trial_id),
   (.str (py "skill"), .str r.skill),
   (.str (py "generation"), .int r.generation),
   (.str (py "root_seed"), .int r.root_seed),
   (.str (py "status"), .str (py r.status.value))] ++
  (match r.reason with
   | some reason => [(.str (py "reason"), .str reason)]
   | none => []) ++
  (match r.request_count with
   | some n => [(.str (py "request_count"), .int n)]
   | none => []) ++
  (if r.status = .COMMITTED then
    [(.str (py "first_action_hash"), optionStr (r.first_action_hash.map Digest.hex)),
     (.str (py "last_action_hash"), optionStr (r.last_action_hash.map Digest.hex))]
   else []) ++
  (match r.ambiguous_sequence with
   | some i => [(.str (py "ambiguous_sequence"), .int i)]
   | none => [])

/-- `abort(...)`. -/
def terminatedDict (r : RuntimeState × Option TrialRecord) : Dict :=
  [(.str (py "state"), .str (py r.1.value)),
   (.str (py "trial"), match r.2 with
     | some summary => .map summary.to_dict
     | none => .none)]

/-- `error.to_dict()`. -/
def RuntimeFault.to_dict (f : RuntimeFault) : Dict :=
  [(.str (py "ok"), .bool false),
   (.str (py "error_code"), .str (py f.code.value)),
   (.str (py "message"), .str (py f.message))] ++
  if f.details = [] then []
  else [(.str (py "details"),
    .map (Dict.ofEntries (f.details.map fun e => (.str (py e.1), e.2))))]

/-! ## §2. Requests. -/

/-- `CONTROL_COMMANDS`. -/
def CONTROL_COMMANDS : List PyStr :=
  [py "status", py "prepare-skill", py "begin-trial", py "open-session", py "close-session",
   py "end-trial", py "abort"]

/-- The check that a mapping has the expected fields and no others. -/
def expectFields (missing_message unexpected_message : String) (expected : List PyStr)
    (d : Dict) : Except Exn Unit :=
  let missing := sortStrs (expected.filter fun f => .str f ∉ d.keys)
  if missing ≠ [] then
    .error (fault .MISSING_REQUIRED_FIELD missing_message (fieldsDetail missing))
  else
    match sortKeys (d.keys.filter fun k =>
        match k with
        | .str s => s ∉ expected
        | .bytes _ => true) with
    | none => .error (.error .TypeError)
    | some unexpected =>
        if unexpected ≠ [] then
          .error (fault .UNEXPECTED_FIELD unexpected_message
            [("fields", .list (unexpected.map fun | .str s => .str s | .bytes b => .bytes b))])
        else .ok ()

structure ControlRequest where
  command : PyStr
  arguments : Dict

/-- `ControlRequest.parse`. -/
def ControlRequest.parse : Value → Except Exn ControlRequest
  | .map payload => do
      expectFields "control request is missing required fields"
        "control request contains unexpected fields"
        [py "protocol_version", py "command", py "arguments"] payload
      let version ← Dict.getItem payload "protocol_version"
      match version.exactInt? with
      | none => throw (fault .INVALID_FIELD_TYPE "protocol_version must be an integer")
      | some version =>
          if version ≠ PROTOCOL_VERSION then
            throw (fault .PROTOCOL_VERSION_UNSUPPORTED "unsupported protocol version")
          let command ← Dict.getItem payload "command"
          let arguments ← Dict.getItem payload "arguments"
          match command with
          | .str command =>
              if command ∉ CONTROL_COMMANDS then
                throw (fault .INVALID_FIELD_VALUE "control command is not supported")
              match arguments with
              | .map arguments => return { command := command, arguments := arguments }
              | _ => throw (fault .INVALID_FIELD_TYPE "arguments must be a dictionary")
          | _ => throw (fault .INVALID_FIELD_TYPE "command must be a string")
  | _ => .error (fault .INVALID_FIELD_TYPE "control request must be a mapping")

/-- `_expect_arguments`. -/
def _expect_arguments (arguments : Dict) (required : List PyStr) : Except Exn Unit :=
  expectFields "control arguments are missing required fields"
    "control arguments contain unexpected fields" required arguments

/-- `_string`. -/
def _string (arguments : Dict) (name : String) : Except Exn PyStr := do
  match ← Dict.getItem arguments name with
  | .str value =>
      if value.isEmpty then
        throw (fault .INVALID_FIELD_VALUE "control argument must not be empty"
          [("field", .str (py name))])
      return value
  | _ =>
      throw (fault .INVALID_FIELD_TYPE "control argument must be a string"
        [("field", .str (py name))])

/-- `_integer`. -/
def _integer (arguments : Dict) (name : String) : Except Exn Int := do
  match (← Dict.getItem arguments name).exactInt? with
  | some value => return value
  | none =>
      throw (fault .INVALID_FIELD_TYPE "control argument must be an integer"
        [("field", .str (py name))])

/-! ## §3. The dispatcher. -/

/-- What each method of the runtime returns or raises when it is called. -/
structure ControlRuntime where
  status : Except Exn Status
  open_session : Except Exn SessionGrant
  end_trial : Except Exn TrialRecord
  prepare_skill : PyStr → Except Exn Status
  begin_trial : PyStr → Int → Except Exn Status
  close_session : PyStr → Except Exn Status
  abort : PyStr → Except Exn (RuntimeState × Option TrialRecord)

/-- `ControlDispatcher`; the server draws its identifier with `uuid4()`. -/
structure ControlDispatcher where
  _server_instance_id : PyStr
  is_uuid : UUID _server_instance_id = true

namespace ControlDispatcher

/-- `_dispatch`. -/
def _dispatch (runtime : ControlRuntime) (request : ControlRequest) : Except Exn Dict := do
  if request.command = py "status" then
    _expect_arguments request.arguments []
    return (← runtime.status).to_dict
  else if request.command = py "open-session" then
    _expect_arguments request.arguments []
    return (← runtime.open_session).to_dict
  else if request.command = py "end-trial" then
    _expect_arguments request.arguments []
    return (← runtime.end_trial).to_dict
  else if request.command = py "prepare-skill" then
    _expect_arguments request.arguments [py "skill"]
    return (← runtime.prepare_skill (← _string request.arguments "skill")).to_dict
  else if request.command = py "begin-trial" then
    _expect_arguments request.arguments [py "trial_id", py "root_seed"]
    let trial_id ← _string request.arguments "trial_id"
    let root_seed ← _integer request.arguments "root_seed"
    return (← runtime.begin_trial trial_id root_seed).to_dict
  else if request.command = py "close-session" then
    _expect_arguments request.arguments [py "session_id"]
    return (← runtime.close_session (← _string request.arguments "session_id")).to_dict
  else if request.command = py "abort" then
    _expect_arguments request.arguments [py "reason"]
    return terminatedDict (← runtime.abort (← _string request.arguments "reason"))
  else throw (fault .INVALID_FIELD_VALUE "control command is not implemented")

/-- The fault an exception becomes in the handlers of a control server. -/
def asFault (message : String) : Exn → RuntimeFault
  | .fault f => f
  | .error _ => { code := .SERVER_FAILED, message := message }

/-- How a request ends: the command the response names, and the result or the
fault. -/
def outcome (runtime : ControlRuntime) (payload : Value) : PyStr × Except RuntimeFault Dict :=
  match ControlRequest.parse payload with
  | .error e => (py "unknown", .error (asFault "control command failed inside the server" e))
  | .ok request =>
      (request.command,
        (_dispatch runtime request).mapError (asFault "control command failed inside the server"))

/-- `_response`. -/
def _response (d : ControlDispatcher) (command : PyStr) (r : Except RuntimeFault Dict) : Dict :=
  let response (ok : Bool) : Dict :=
    [(.str (py "protocol_version"), .int PROTOCOL_VERSION),
     (.str (py "ok"), .bool ok),
     (.str (py "command"), .str command),
     (.str (py "server_instance_id"), .str d._server_instance_id)]
  match r with
  | .ok result => Dictionary.update (response true) [(.str (py "result"), .map result)]
  | .error error => Dictionary.update (response false) error.to_dict

/-- `execute`. -/
def execute (d : ControlDispatcher) (runtime : ControlRuntime) (payload : Value) : Dict :=
  d._response (outcome runtime payload).1 (outcome runtime payload).2

/-- `error_response`. -/
def error_response (d : ControlDispatcher) (error : RuntimeFault) : Dict :=
  d._response (py "unknown") (.error error)

end ControlDispatcher

end OvenRuntime
