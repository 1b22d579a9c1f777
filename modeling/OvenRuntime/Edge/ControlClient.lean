/-
  OvenRuntime.Edge.ControlClient
  ──────────────────────────────
  `SshControlClient`: a control command becomes the standard input of a program
  run by `ssh`, and its output is checked before the edge trusts it.
-/
import OvenRuntime.Common.JsonDocument
import OvenRuntime.Common.Protocol

namespace OvenRuntime

/-! ## §1. Arguments. -/

/-- A positional argument of `call`. -/
inductive ControlArgument where
  | str (s : PyStr)
  | int (i : Int)
  | bool (b : Bool)

def ControlArgument.value : ControlArgument → Value
  | .str s => .str s
  | .int i => .int i
  | .bool b => .bool b

/-- The names of the arguments of each command. -/
def COMMAND_ARGUMENTS : List (PyStr × List String) :=
  [(py "status", []),
   (py "prepare-skill", ["skill"]),
   (py "begin-trial", ["trial_id", "root_seed"]),
   (py "open-session", []),
   (py "close-session", ["session_id"]),
   (py "end-trial", []),
   (py "abort", ["reason"])]

/-- `_command_arguments`. -/
def _command_arguments (command : PyStr) (values : List ControlArgument) : Except Exn Dict :=
  match COMMAND_ARGUMENTS.lookup command with
  | none => .error (.error .ValueError)
  | some expected =>
      if expected.length ≠ values.length then .error (.error .ValueError)
      else
        let result : Dict :=
          (expected.zip values).map fun e => (.str (py e.1), e.2.value)
        if ["root_seed", "seed"].all fun name =>
            match Dict.get? result name with
            | some value => value.exactInt?.isSome
            | none => true
        then .ok result
        else .error (.error .ValueError)

/-! ## §2. Responses. -/

/-- `value == i` for an integer `i`. -/
def Value.equalsInt (i : Int) : Value → Bool
  | .int j => j = i
  | .bool b => (if b then 1 else 0) = i
  | .float (.fin q) => q = i
  | .float .negZero => i = 0
  | _ => false

/-- `value == s` for a string `s`. -/
def Value.equalsStr (s : PyStr) : Value → Bool
  | .str t => t = s
  | _ => false

/-- `UUID(value)`, as the validation of a response handles it. -/
def responseUuid : Value → Except Exn PyStr
  | .str s =>
      if UUID s then .ok s
      else .error (fault .INVALID_FIELD_VALUE "control response server_instance_id must be a UUID")
  | .none => .error (fault .INVALID_FIELD_VALUE "control response server_instance_id must be a UUID")
  -- a value without `replace` raises an `AttributeError`
  | _ => .error (.error .Other)

/-- `ErrorCode(value)`, or `SERVER_FAILED`. -/
def responseCode : Option Value → ErrorCode
  | some (.str s) => (ErrorCode.members.find? fun code => py code.value = s).getD .SERVER_FAILED
  | _ => .SERVER_FAILED

/-- The message of a failed response; an unreadable one is replaced. -/
def responseMessage : Option Value → PyStr
  | some (.str s) => s
  | _ => py "remote control command failed"

/-- The check that a response has no fields but the allowed ones. -/
def allowFields (message : String) (allowed : List PyStr) (payload : Dict) : Except Exn Unit :=
  match sortKeys (payload.keys.filter fun k =>
      match k with
      | .str s => s ∉ allowed
      | .bytes _ => true) with
  | none => .error (.error .TypeError)
  | some unexpected =>
      if unexpected ≠ [] then
        .error (fault .UNEXPECTED_FIELD message
          [("fields", .list (unexpected.map fun | .str s => .str s | .bytes b => .bytes b))])
      else .ok ()

/-- The fields every response has. -/
def RESPONSE_FIELDS : List String := ["protocol_version", "ok", "command", "server_instance_id"]

/-- What a validated response says: the result, or the code and the message of
the fault that is raised. -/
inductive ControlResponse where
  | result (payload : Dict)
  | failed (code : ErrorCode) (message : PyStr)

/-- `validate_control_response` up to the identifier of the server: the flag
`ok` and that identifier. -/
def responseHead (command : PyStr) (payload : Dict) : Except Exn (Bool × PyStr) :=
  match RESPONSE_FIELDS.find? fun field => (Dict.get? payload field).isNone with
  | some field =>
      .error (fault .MISSING_REQUIRED_FIELD "control response is missing required fields"
        [("field", .str (py field))])
  | none => do
      let version ← Dict.getItem payload "protocol_version"
      let name ← Dict.getItem payload "command"
      if !(version.equalsInt PROTOCOL_VERSION && name.equalsStr command) then
        throw (fault .RESPONSE_MISMATCH "control response identity does not match its request")
      match ← Dict.getItem payload "ok" with
      | .bool ok => do
          let instance_id ← responseUuid (← Dict.getItem payload "server_instance_id")
          return (ok, instance_id)
      | _ => throw (fault .INVALID_FIELD_TYPE "control response ok field must be boolean")

/-- `validate_control_response` from there on. -/
def responseBody (payload : Dict) : Bool → Except Exn ControlResponse
  | true => do
      allowFields "control response contains unexpected fields"
        ((RESPONSE_FIELDS ++ ["result"]).map py) payload
      match Dict.get? payload "result" with
      | some (.map _) => return .result payload
      | _ => throw (fault .MISSING_REQUIRED_FIELD "successful control response has no result")
  | false => do
      allowFields "control error response contains unexpected fields"
        ((RESPONSE_FIELDS ++ ["error_code", "message", "details"]).map py) payload
      return .failed (responseCode (Dict.get? payload "error_code"))
        (responseMessage (Dict.get? payload "message"))

/-- `validate_control_response`, with the identifier of the server. -/
def validate_control_response (command : PyStr) : Value → Except Exn (PyStr × ControlResponse)
  | .map payload => do
      let head ← responseHead command payload
      let body ← responseBody payload head.1
      return (head.2, body)
  | _ => .error (fault .FRAME_DECODE_FAILED "control response must be a dictionary")

/-! ## §3. Calls. -/

/-- What `subprocess.run` does. -/
inductive Completed where
  | completed (returncode : Int) (stdout : PyStr)
  /-- It raises an `OSError` or a `TimeoutExpired`. -/
  | raised

/-- How a call ends: it returns a dictionary, raises a fault whose message came
with the response, or raises any other exception. -/
inductive CallResult where
  | returned (payload : Dict)
  | remote (code : ErrorCode) (message : PyStr)
  | raised (e : Exn)

/-- The call raises a `RuntimeFault` of the code. -/
def CallResult.RaisesCode (code : ErrorCode) : CallResult → Prop
  | .remote c _ => c = code
  | .raised (.fault f) => f.code = code
  | _ => False

/-- The fields of a client that its calls use. -/
structure SshControlClient where
  _server_instance_id : Option PyStr := none

/-- The request of a call. -/
def controlPayload (command : PyStr) (control_arguments : Dict) : Dict :=
  [(.str (py "protocol_version"), .int PROTOCOL_VERSION),
   (.str (py "command"), .str command),
   (.str (py "arguments"), .map control_arguments)]

/-- The text a call sends. -/
def controlText (num : FloatText) (command : PyStr) (values : List ControlArgument) :
    Except Exn PyStr := do
  let control_arguments ← _command_arguments command values
  match dumps num true (.map (controlPayload command control_arguments)) with
  | .error e => throw (.error e)
  | .ok text => return text

namespace SshControlClient

/-- `call` from the validated response on: all responses of a client come from
one server. -/
def conclude (client : SshControlClient) :
    Except Exn (PyStr × ControlResponse) → CallResult × SshControlClient
  | .error e => (.raised e, client)
  | .ok (_, .failed code message) => (.remote code message, client)
  | .ok (instance_id, .result payload) =>
      match client._server_instance_id with
      | none => (.returned payload, { client with _server_instance_id := some instance_id })
      | some known =>
          if known ≠ instance_id then
            (.raised (fault .RESPONSE_MISMATCH
              "control server instance changed during this client run"), client)
          else (.returned payload, client)

/-- `call` from the completed program on. -/
def handle (num : FloatText) (client : SshControlClient) (command : PyStr) :
    Completed → CallResult × SshControlClient
  | .raised =>
      (.raised (fault .CONTROL_SERVER_UNAVAILABLE "SSH control command did not complete"), client)
  | .completed returncode stdout =>
      if returncode ≠ 0 ∧ returncode ≠ 1 then
        (.raised (fault .CONTROL_SERVER_UNAVAILABLE "SSH control process failed"), client)
      else
        match loads num stdout with
        | .error .ValueError => (.raised (.error .ValueError), client)
        | .error _ =>
            (.raised (fault .FRAME_DECODE_FAILED "SSH control response is not valid JSON"), client)
        | .ok response => client.conclude (validate_control_response command response)

/-- `call`; `runner` is the program run on the request. -/
def call (num : FloatText) (client : SshControlClient) (command : PyStr)
    (values : List ControlArgument) (runner : PyStr → Completed) : CallResult × SshControlClient :=
  match controlText num command values with
  | .error e => (.raised e, client)
  | .ok request => client.handle num command (runner request)

end SshControlClient

end OvenRuntime
