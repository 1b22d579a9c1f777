/-
  OvenRuntime.Server.ControlServer
  ────────────────────────────────
  `UnixControlServer`: one request and one response on each connection, and the
  local client of the socket, `control_exchange`, with the command line program
  around it.

  A connection carries bytes in order.  How it ends early — the socket cannot be
  opened or written, it breaks or times out after some bytes, the server does
  not get the request in time — is decided outside.
-/
import OvenRuntime.Server.ControlProtocol

namespace OvenRuntime

def MAX_CONTROL_FRAME_BYTES : Nat := 64 * 1024

/-- `b"\n"`. -/
def NEWLINE : UInt8 := 10

/-! ## §1. The server. -/

namespace UnixControlServer

/-- What `reader.readuntil(b"\n")` does. -/
inductive ReadUntil where
  | frame (frame : List UInt8)
  | LimitOverrunError
  | IncompleteReadError (rest : List UInt8)

/-- `reader.readuntil(b"\n")` on the bytes up to the end of the stream. -/
def readuntil (limit : Nat) (received : List UInt8) : ReadUntil :=
  match received.findIdx? (· = NEWLINE) with
  | some i =>
      if limit < i then .LimitOverrunError else .frame (received.take (i + 1))
  | none =>
      if limit < received.length then .LimitOverrunError else .IncompleteReadError received

/-- `_read_frame`; `in_time` tells whether the request arrives in time. -/
def _read_frame (in_time : Bool) (received : List UInt8) : Except Exn (List UInt8) :=
  if !in_time then .error (.error .Other)
  else
    match readuntil (MAX_CONTROL_FRAME_BYTES + 1) received with
    | .frame frame => .ok frame
    | .LimitOverrunError =>
        .error (fault .FRAME_TOO_LARGE "control request exceeds its framing limit")
    | .IncompleteReadError rest =>
        if MAX_CONTROL_FRAME_BYTES < rest.length then
          .error (fault .FRAME_TOO_LARGE "control request exceeds its framing limit")
        else
          .error (fault .FRAME_DECODE_FAILED "control request ended before its newline delimiter")

/-- The payload of a request. -/
def readPayload (num : FloatText) (in_time : Bool) (received : List UInt8) :
    Except Exn Value := do
  let frame ← _read_frame in_time received
  if frame = [] then throw (fault .FRAME_DECODE_FAILED "empty control request")
  if MAX_CONTROL_FRAME_BYTES < frame.length ∨ frame.getLast? ≠ some NEWLINE then
    throw (fault .FRAME_TOO_LARGE "control request exceeds its framing limit")
  match loadsBytes num frame with
  | .ok payload => return payload
  | .error .ValueError => throw (.error .ValueError)
  | .error _ => throw (fault .FRAME_DECODE_FAILED "control request is not valid UTF-8 JSON")

/-- How a connection ends: the command its response names, and the result or the
fault. -/
def outcome (num : FloatText) (runtime : ControlRuntime) (in_time : Bool)
    (received : List UInt8) : PyStr × Except RuntimeFault Dict :=
  match readPayload num in_time received with
  | .error e =>
      (py "unknown",
        .error (ControlDispatcher.asFault "control server failed to process request" e))
  | .ok payload => ControlDispatcher.outcome runtime payload

/-- `_handle_connection`: the bytes it writes, none if the response cannot be
encoded. -/
def _handle_connection (num : FloatText) (d : ControlDispatcher) (runtime : ControlRuntime)
    (in_time : Bool) (received : List UInt8) : List UInt8 :=
  let r := outcome num runtime in_time received
  match dumps num false (.map (d._response r.1 r.2)) with
  | .error _ => []
  | .ok text =>
      match encode_utf8 (text ++ py "\n") with
      | .error _ => []
      | .ok encoded => encoded

/-- A payload that was read goes to `execute`. -/
theorem response_of_payload {num : FloatText} {d : ControlDispatcher} {runtime : ControlRuntime}
    {in_time : Bool} {received : List UInt8} {payload : Value}
    (h : readPayload num in_time received = .ok payload) :
    d._response (outcome num runtime in_time received).1 (outcome num runtime in_time received).2 =
      d.execute runtime payload := by
  unfold outcome
  rw [h]
  rfl

/-- What reading it has raised goes to `error_response`. -/
theorem response_of_error {num : FloatText} {d : ControlDispatcher} {runtime : ControlRuntime}
    {in_time : Bool} {received : List UInt8} {e : Exn}
    (h : readPayload num in_time received = .error e) :
    d._response (outcome num runtime in_time received).1 (outcome num runtime in_time received).2 =
      d.error_response (ControlDispatcher.asFault "control server failed to process request" e) := by
  unfold outcome
  rw [h]
  rfl

end UnixControlServer

/-! ## §2. The client of the socket. -/

/-- How the socket calls of one exchange end: `block` bounds what each `recv`
gives, and after `broken` bytes, if it is given, `recv` raises. -/
structure SocketIo where
  connects : Bool
  sends : Bool
  block : Nat → Nat
  broken : Option Nat

/-- How many bytes the next `recv` gives at most. -/
def recvSize (limit received : Nat) : Nat :=
  min (limit + 1) (min 4096 (MAX_CONTROL_FRAME_BYTES + 1 - received))

/-- The loop over `recv`: `chunks` is what arrived, `stream` what is to come
before the end, or before the failure if `broken`. -/
def receive (block : Nat → Nat) (broken : Bool) (i : Nat) (chunks stream : List UInt8) :
    Except Exn (List UInt8) :=
  if chunks.getLast? = some NEWLINE then .ok chunks
  else
    let size := recvSize (block i) chunks.length
    if stream.take size = [] then
      if broken then
        .error (fault .CONTROL_SERVER_UNAVAILABLE "cannot communicate with local control server")
      else
        .error (fault .CONTROL_SERVER_UNAVAILABLE "control server closed without a response")
    else if MAX_CONTROL_FRAME_BYTES < chunks.length + (stream.take size).length then
      .error (fault .FRAME_TOO_LARGE "control response exceeds its framing limit")
    else receive block broken (i + 1) (chunks ++ stream.take size) (stream.drop size)
termination_by MAX_CONTROL_FRAME_BYTES + 1 - chunks.length
decreasing_by
  rename_i harrived hfits
  have hpos := List.length_pos_iff.mpr harrived
  rw [List.length_append]
  show MAX_CONTROL_FRAME_BYTES + 1 - (chunks.length + (stream.take size).length) < _
  omega

/-- `control_exchange` up to the request on its way. -/
def sendRequest (num : FloatText) (io : SocketIo) (payload : Value) :
    Except Exn (List UInt8) :=
  match dumps num true payload with
  | .error e => .error (.error e)
  | .ok text =>
      -- the text is ASCII
      let encoded := utf8Bytes (text ++ py "\n")
      if MAX_CONTROL_FRAME_BYTES < encoded.length then
        .error (fault .FRAME_TOO_LARGE "control request exceeds its framing limit")
      else if !(io.connects && io.sends) then
        .error (fault .CONTROL_SERVER_UNAVAILABLE "cannot communicate with local control server")
      else .ok encoded

/-- The bytes that are received of a response. -/
def receiveResponse (io : SocketIo) (response : List UInt8) : Except Exn (List UInt8) :=
  match io.broken with
  | none => receive io.block false 0 [] response
  | some n => receive io.block (n < response.length) 0 [] (response.take n)

/-- `control_exchange` from the response of the server on. -/
def readResponse (num : FloatText) (io : SocketIo) (response : List UInt8) : Except Exn Dict := do
  let chunks ← receiveResponse io response
  match loadsBytes num chunks with
  | .error .ValueError => throw (.error .ValueError)
  | .error _ => throw (fault .FRAME_DECODE_FAILED "control response is not valid UTF-8 JSON")
  | .ok (.map response) => return response
  | .ok _ => throw (fault .FRAME_DECODE_FAILED "control response must be a dictionary")

/-- `control_exchange`; `server` gives the bytes written for those received. -/
def control_exchange (num : FloatText) (io : SocketIo) (server : List UInt8 → List UInt8)
    (payload : Value) : Except Exn Dict := do
  let encoded ← sendRequest num io payload
  readResponse num io (server encoded)

/-! ## §3. `oven-serverctl --stdin-json`. -/

namespace ControlCli

/-- The request on the standard input. -/
def readStdin (num : FloatText) (stdin : List UInt8) : Except Exn Value :=
  let raw := stdin.take (MAX_CONTROL_FRAME_BYTES + 1)
  if MAX_CONTROL_FRAME_BYTES < raw.length then
    .error (fault .FRAME_TOO_LARGE "stdin control request exceeds its framing limit")
  else
    match loadsBytes num raw with
    | .ok payload => .ok payload
    | .error .ValueError => .error (.error .ValueError)
    | .error _ =>
        .error (fault .FRAME_DECODE_FAILED "stdin control request is not valid UTF-8 JSON")

/-- The guarded part of `main`. -/
def respond (num : FloatText) (exchange : Value → Except Exn Dict) (stdin : List UInt8) :
    Except Exn Dict := do
  let payload ← readStdin num stdin
  exchange payload

/-- `print(json.dumps(response, ...))` and the exit code; an exception is a
traceback on another stream, with exit code one. -/
def report (num : FloatText) (response : Dict) : Int × PyStr :=
  match dumps num false (.map response) with
  | .error _ => (1, [])
  | .ok text =>
      match Dict.get? response "ok" with
      | some (.bool true) => (0, text ++ py "\n")
      | _ => (1, text ++ py "\n")

/-- `main`: the exit code and the standard output. -/
def main (num : FloatText) (exchange : Value → Except Exn Dict) (stdin : List UInt8) :
    Int × PyStr :=
  match respond num exchange stdin with
  | .ok response => report num response
  | .error (.fault f) => report num f.to_dict
  | .error (.error _) => (1, [])

end ControlCli

end OvenRuntime
