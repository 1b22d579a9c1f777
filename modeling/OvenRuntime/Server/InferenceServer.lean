/-
  OvenRuntime.Server.InferenceServer
  ──────────────────────────────────
  The process of `run_server`: one runtime, the connections of the
  `LoopbackInferenceServer`, and the thread of the event loop.

  Only `infer` runs in threads of its own (`asyncio.to_thread`).  The control
  server, `mark_transport_ambiguous` and `close` call the runtime on the thread
  of the loop, where nothing else runs until the call has returned.
-/
import OvenRuntime.Common.Wire
import OvenRuntime.Server.Calls
import OvenRuntime.Server.ControlProtocol

namespace OvenRuntime

open TransitionSystem

/-! ## §1. Frames and responses. -/

/-- The fields of a `LoopbackInferenceServer` that its connections use, with the
check that the constructor makes. -/
structure LoopbackInferenceServer where
  max_frame_bytes : Int := MAX_FRAME_BYTES
  max_frame_bytes_accepted : 0 < max_frame_bytes ∧ max_frame_bytes ≤ MAX_FRAME_BYTES

namespace LoopbackInferenceServer

/-- The response to a frame that comes to a fault. -/
def errorResponse (error : RuntimeFault) : Dict :=
  Dictionary.update
    [(.str (py "protocol_version"), .int PROTOCOL_VERSION),
     (.str (py "message_type"), .str (py "inference_error"))] error.to_dict

/-- The handlers of `_process_frame`. -/
def _process_error (e : Exn) : Dict :=
  errorResponse (ControlDispatcher.asFault "inference server failed to process request" e)

variable (lib : Library) (mp : MessagePack)

/-- `_process_frame` up to the call of `infer`: the payload `infer` is called
with, or the response. -/
def _process_frame (server : LoopbackInferenceServer) (frame : PyObj) : Except Dict Value :=
  (unpack_message lib mp frame server.max_frame_bytes).mapError _process_error

/-- `_process_frame` from there on, for what `infer` returns or raises. -/
def _process_result : Except Exn InferenceResponse → Dict
  | .ok response => response.to_dict
  | .error e => _process_error e

/-- The frame of a response. -/
def encoded (server : LoopbackInferenceServer) (response : Dict) : Except Exn (List UInt8) :=
  pack_message lib mp ((Value.map response).toObj lib) server.max_frame_bytes

/-- The arguments of the `mark_transport_ambiguous` of a response that could not
be returned. -/
def lost (response : Dict) : Option (PyStr × Int) :=
  match response.get? "message_type", response.get? "session_id", response.get? "sequence" with
  | some (.str message_type), some (.str session_id), some (.int sequence) =>
      if message_type = py "inference_response" then some (session_id, sequence) else none
  | _, _, _ => none

theorem lost_response (response : InferenceResponse) :
    lost response.to_dict = some (response.session_id, response.sequence) := rfl

/-- Nothing is lost with a fault. -/
theorem lost_error (e : Exn) : lost (_process_error e) = none := by
  -- the fields of a fault do not include the message type
  have htype : (_process_error e).get? "message_type" = some (.str (py "inference_error")) := by
    show (errorResponse (ControlDispatcher.asFault _ e)).get? "message_type" = _
    generalize ControlDispatcher.asFault "inference server failed to process request" e = f
    obtain ⟨code, message, details⟩ := f
    cases details with
    | nil => rfl
    | cons detail details => rfl
  unfold lost
  rw [htype]
  split
  · next heq _ _ =>
      cases heq
      rfl
  · rfl

end LoopbackInferenceServer

/-! ## §2. The process. -/

/-- The methods that the control server calls. -/
def Op.commanded : Op → Prop
  | .status | .prepare_skill _ _ | .begin_trial _ _ | .open_session => True
  | .close_session _ | .end_trial | .abort _ => True
  | .infer _ | .mark_transport_ambiguous _ _ | .close => False

/-- Where the handler of a connection is (`_handle_connection`). -/
inductive Handler where
  /-- In `async for frame in connection`. -/
  | receiving
  /-- In `await asyncio.to_thread(self._runtime.infer, payload)`. -/
  | inferring (id : Nat)
  /-- Returning a response; `id` is the call of `infer` that it comes from, if
  there was one. -/
  | sending (id : Option Nat) (response : Dict)
  /-- In `mark_transport_ambiguous`. -/
  | reporting
  | ended

/-- A call on the thread of the loop, and the connection whose handler makes it,
if one does. -/
structure LoopCall where
  id : Nat
  reporter : Option Nat

/-- The runtime with its calls, the connections, the call the thread of the loop
is in, and how far `run_server` has got. -/
structure ServerProcess where
  sys : Sys
  handlers : Nat → Option Handler
  loop : Option LoopCall
  /-- `stop_event` is set. -/
  stopping : Bool
  /-- `close` has been called. -/
  closed : Bool

/-- Set the handler of one connection. -/
def ServerProcess.setHandler (s : ServerProcess) (k : Nat) (h : Handler) : ServerProcess :=
  { s with handlers := Function.update s.handlers k (some h) }

/-- A call on the thread of the loop begins. -/
def ServerProcess.enter (s : ServerProcess) (sys : Sys) (id : Nat) (reporter : Option Nat) :
    ServerProcess :=
  { s with sys := sys, loop := some ⟨id, reporter⟩ }

/-- What a step of the process did. -/
inductive ServerEvent where
  /-- A running call takes a step. -/
  | step (id : Nat) (pc : Pc) (ch : Choice) (next : CallState)
  /-- The control server calls a method. -/
  | control (id : Nat) (op : Op)
  /-- The loop's call has returned or raised. -/
  | resume
  | accept (k : Nat)
  /-- A frame arrives, and `infer` is called. -/
  | receive (k : Nat) (frame : PyObj) (payload : Value) (id : Nat)
  /-- A frame arrives that `unpack_message` does not accept. -/
  | reject (k : Nat) (frame : PyObj)
  /-- `infer` has returned or raised. -/
  | result (k id : Nat)
  /-- The response has been sent. -/
  | send (k : Nat) (id : Option Nat) (response : Dict)
  /-- A response that needs no report could not be returned. -/
  | drop (k : Nat) (id : Option Nat)
  /-- The response of the call `id` could not be returned: the call `mark`
  reports it. -/
  | report (k : Nat) (id : Option Nat) (mark : Nat) (session_id : PyStr) (sequence : Int)
  | reported (k : Nat)
  /-- There are no more frames. -/
  | hangUp (k : Nat)
  /-- The handler is cancelled. -/
  | cancel (k : Nat)
  | stop
  /-- `run_server` calls `close`. -/
  | shutdown (id : Nat)

/-- What a step of the process is for the runtime. -/
def ServerEvent.label : ServerEvent → Option Label
  | .step id pc ch next => some (.step id pc ch next)
  | .control id op => some (.call id op)
  | .receive _ _ payload id => some (.call id (.infer payload))
  | .report _ _ mark session_id sequence =>
      some (.call mark (.mark_transport_ambiguous session_id sequence))
  | .shutdown id => some (.call id .close)
  | _ => none

/-- Handlers that can be cancelled: those that wait. -/
def Handler.waiting : Handler → Prop
  | .receiving | .inferring _ | .sending _ _ => True
  | .reporting | .ended => False

section Process

variable (cfg : RuntimeConfig) (nx : Numerics) (lib : Library) (mp : MessagePack)
  (server : LoopbackInferenceServer)

/-- One step of the process. -/
inductive ServerStep : ServerProcess → ServerEvent → ServerProcess → Prop
  | step {s : ServerProcess} {id : Nat} {pc : Pc} {ch : Choice} {next : CallState} {sys : Sys} :
      Step cfg nx s.sys (.step id pc ch next) sys →
      ServerStep s (.step id pc ch next) { s with sys := sys }
  -- also after `close`: before Python 3.12 `Server.wait_closed` does not wait for the
  -- connections that are open, and a command read from one of them is still carried out
  | control {s : ServerProcess} {id : Nat} {op : Op} {sys : Sys} :
      s.loop = none → op.commanded → Step cfg nx s.sys (.call id op) sys →
      ServerStep s (.control id op) (s.enter sys id none)
  | resume {s : ServerProcess} {id : Nat} {out : Except Exn Result} :
      s.loop = some ⟨id, none⟩ → s.sys.calls id = some (.returned out) →
      ServerStep s .resume { s with loop := none }
  | accept {s : ServerProcess} {k : Nat} :
      s.loop = none → s.stopping = false → s.handlers k = none →
      ServerStep s (.accept k) (s.setHandler k .receiving)
  | receive {s : ServerProcess} {k id : Nat} {frame : PyObj} {payload : Value} {sys : Sys} :
      s.loop = none → s.handlers k = some .receiving →
      server._process_frame lib mp frame = .ok payload →
      Step cfg nx s.sys (.call id (.infer payload)) sys →
      ServerStep s (.receive k frame payload id)
        (ServerProcess.setHandler { s with sys := sys } k (.inferring id))
  | reject {s : ServerProcess} {k : Nat} {frame : PyObj} {response : Dict} :
      s.loop = none → s.handlers k = some .receiving →
      server._process_frame lib mp frame = .error response →
      ServerStep s (.reject k frame) (s.setHandler k (.sending none response))
  | result {s : ServerProcess} {k id : Nat} {out : Except Exn InferenceResponse} :
      s.loop = none → s.handlers k = some (.inferring id) →
      s.sys.calls id = some (.returned (out.map .response)) →
      ServerStep s (.result k id)
        (s.setHandler k (.sending (some id) (LoopbackInferenceServer._process_result out)))
  | send {s : ServerProcess} {k : Nat} {id : Option Nat} {response : Dict} {b : List UInt8} :
      s.loop = none → s.handlers k = some (.sending id response) →
      server.encoded lib mp response = .ok b →
      ServerStep s (.send k id response) (s.setHandler k .receiving)
  -- `pack_message` or `connection.send` has raised
  | drop {s : ServerProcess} {k : Nat} {id : Option Nat} {response : Dict} :
      s.loop = none → s.handlers k = some (.sending id response) →
      LoopbackInferenceServer.lost response = none →
      ServerStep s (.drop k id) (s.setHandler k .ended)
  | report {s : ServerProcess} {k mark : Nat} {id : Option Nat} {response : Dict}
      {session_id : PyStr} {sequence : Int} {sys : Sys} :
      s.loop = none → s.handlers k = some (.sending id response) →
      LoopbackInferenceServer.lost response = some (session_id, sequence) →
      Step cfg nx s.sys (.call mark (.mark_transport_ambiguous session_id sequence)) sys →
      ServerStep s (.report k id mark session_id sequence)
        ((s.enter sys mark (some k)).setHandler k .reporting)
  | reported {s : ServerProcess} {k mark : Nat} {out : Except Exn Result} :
      s.loop = some ⟨mark, some k⟩ → s.sys.calls mark = some (.returned out) →
      ServerStep s (.reported k) (ServerProcess.setHandler { s with loop := none } k .ended)
  | hangUp {s : ServerProcess} {k : Nat} :
      s.loop = none → s.handlers k = some .receiving →
      ServerStep s (.hangUp k) (s.setHandler k .ended)
  | cancel {s : ServerProcess} {k : Nat} {h : Handler} :
      s.loop = none → s.handlers k = some h → h.waiting →
      ServerStep s (.cancel k) (s.setHandler k .ended)
  | stop {s : ServerProcess} :
      s.loop = none → ServerStep s .stop { s with stopping := true }
  -- the connections of the inference server have ended
  | shutdown {s : ServerProcess} {id : Nat} {sys : Sys} :
      s.loop = none → s.stopping = true → s.closed = false →
      (∀ k h, s.handlers k = some h → h = .ended) → Step cfg nx s.sys (.call id .close) sys →
      ServerStep s (.shutdown id) { s.enter sys id none with closed := true }

/-- The process that `run_server` is, from the start of both servers on. -/
def serverProcess : System ServerProcess ServerEvent where
  init s := ∃ dirs, s =
    { sys := { rt := PolicyRuntime.init dirs, calls := fun _ => none }
      handlers := fun _ => none
      loop := none
      stopping := false
      closed := false }
  step := ServerStep cfg nx lib mp server

end Process

end OvenRuntime
