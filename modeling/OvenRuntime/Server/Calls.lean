/-
  OvenRuntime.Server.Calls
  ────────────────────────
  Concurrent calls on one `PolicyRuntime`.

  A call is a program counter that walks through the atomic steps of its
  operation:

    • a section run under `self._condition`, with the backend and audit calls
      inside it (one function of `Server.Runtime`),
    • a backend or audit call made outside such a section,
    • taking or releasing the execution lock; taking it may time out,
    • falling asleep in the drain loop, which gives the condition back.

  Any number of calls interleave.  A thread that makes several calls one
  after the other is a special case, so a call carries no thread.  What the
  environment decides at a step — a clock reading, what a backend call
  returns or raises, how file operations end, which identifiers are drawn,
  whether a lock wait times out — is the step's `Choice`.
-/
import OvenRuntime.Server.Runtime
import OvenRuntime.Lib.TransitionSystem
import Mathlib.Logic.Function.Basic

namespace OvenRuntime

/-! ## §1. Operations, program counters, choices. -/

/-- A call of one public method, with its arguments. -/
inductive Op where
  | status
  | prepare_skill (skill : PyStr) (drain_timeout_sec : ℚ)
  | begin_trial (trial_id root_seed : Value)
  | open_session
  | infer (payload : Value)
  | close_session (session_id : PyStr)
  | end_trial
  | abort (reason : PyStr)
  | mark_transport_ambiguous (session_id : PyStr) (sequence : Int)
  | close

/-- What a call returns. -/
inductive Result where
  | status (s : Status)
  | session (g : SessionGrant)
  | response (r : InferenceResponse)
  | trial (summary : TrialRecord)
  | terminated (state : RuntimeState) (summary : Option TrialRecord)
  | closed

/-- Where a running call is: the next atomic step it takes. -/
inductive Pc where
  | status
  | prepareEnter (skill : PyStr) (drain_timeout_sec : ℚ)
  /-- Asleep in `self._condition.wait`. -/
  | prepareDrain (skill : PyStr) (deadline : ℚ)
  | prepareAcquire (skill : PyStr)
  | prepareBusy
  | prepareLoad (skill : PyStr)
  | prepareFailed (e : Exn)
  | prepareRelease (skill : PyStr) (loaded : Except Exn BackendIdentity)
  | prepareCommit (skill : PyStr) (identity : BackendIdentity)
  | beginAcquire (trial_id : PyStr) (root_seed : Int)
  | beginSection (trial_id : PyStr) (root_seed : Int)
  | beginFailed
  | beginRelease (out : Except Exn Status)
  | openSession
  | inferAcquire (request : InferenceRequest)
  | inferEnter (request : InferenceRequest)
  | inferPolicy (request : InferenceRequest) (lease_ref : Nat)
  | inferRecord (inf : PolicyRuntime.Inference)
  | inferFailed (request : InferenceRequest) (lease_ref : Nat) (e : Exn)
  | inferFinish (inf : PolicyRuntime.Inference)
  | inferLeave (request : InferenceRequest) (lease_ref : Nat) (out : Except Exn InferenceResponse)
  | inferRelease (out : Except Exn InferenceResponse)
  | closeSession (session_id : PyStr)
  | endTrial
  | abortAcquire (reason : PyStr)
  | abortTimedOut
  | abortSection (reason : PyStr)
  | abortRelease (out : Except Exn (RuntimeState × Option TrialRecord))
  | markAmbiguous (session_id : PyStr) (sequence : Int)
  | closeSection
  | closeBackend (audit_error : Option Exn)

/-- What the environment decides at one step. -/
inductive Choice where
  | go
  | clock (now : ℚ)
  | clocks (now now' : ℚ)
  | acquired
  | timedOut
  | loaded (r : Except Exn BackendIdentity)
  | inferred (r : Except Exn BackendResult)
  | begun (reset : Except Exn Unit) (io : Io)
  | io (io : Io)
  | drawn (session_id token : PyStr) (now : ℚ)
  | backendClosed (r : Except Exn Unit)

/-- A call is running or has returned or raised. -/
inductive CallState where
  | running (pc : Pc)
  | returned (out : Except Exn Result)

/-! ## §2. The steps of a call. -/

/-- The state in which a call starts: the checks made before the first
section, and the parse of an inference payload. -/
def Op.start (nx : Numerics) : Op → CallState
  | .status => .running .status
  | .prepare_skill skill drain_timeout_sec =>
      if skill.isEmpty then
        .returned (.error (fault .INVALID_FIELD_VALUE "skill must not be empty"))
      else if drain_timeout_sec ≤ 0 then .returned (.error (.error .ValueError))
      else .running (.prepareEnter skill drain_timeout_sec)
  | .begin_trial (.str trial_id) root_seed =>
      if !TRIAL_ID_PATTERN trial_id then
        .returned (.error (fault .INVALID_FIELD_VALUE "trial_id format is invalid"))
      else
        match root_seed.exactInt? with
        | none =>
            .returned (.error (fault .INVALID_FIELD_TYPE "root_seed must be an integer"))
        | some root_seed => .running (.beginAcquire trial_id root_seed)
  | .begin_trial _ _ =>
      .returned (.error (fault .INVALID_FIELD_VALUE "trial_id format is invalid"))
  | .open_session => .running .openSession
  | .infer payload =>
      match InferenceRequest.parse nx.repr_fits payload with
      | .error e => .returned (.error e)
      | .ok request => .running (.inferAcquire request)
  | .close_session session_id => .running (.closeSession session_id)
  | .end_trial => .running .endTrial
  | .abort reason => .running (.abortAcquire reason)
  | .mark_transport_ambiguous session_id sequence =>
      .running (.markAmbiguous session_id sequence)
  | .close => .running .closeSection

/-- Continue after a section by what it returned or raised. -/
def branch {α : Type} (r : Except Exn α × PolicyRuntime)
    (next : Except Exn α → CallState) : PolicyRuntime × CallState :=
  (r.2, next r.1)

/-- The call returns what its last section returned, or raises what it raised. -/
def returning {α : Type} (f : α → Result) (out : Except Exn α) : CallState :=
  .returned (out.map f)

/-- Take the execution lock, if it is free. -/
def acquire (id : Nat) (rt : PolicyRuntime) (next : Pc) : Option (PolicyRuntime × CallState) :=
  if rt.execution_lock = none then
    some ({ rt with execution_lock := some id }, .running next)
  else none

/-- Give the execution lock back. -/
def release (rt : PolicyRuntime) (next : CallState) : Option (PolicyRuntime × CallState) :=
  some ({ rt with execution_lock := none }, next)

/-- What `prepare_skill` raises for an exception of the backend. -/
def prepareFault : Exn → Exn
  | .fault f => .fault f
  | .error _ =>
      fault .POLICY_FAILED "policy backend failed to prepare the requested skill"

/-- The rest of a call after the first section of `prepare_skill`. -/
def afterDrain (skill : PyStr) : Except Exn PolicyRuntime.Drained → CallState
  | .ok .proceed => .running (.prepareAcquire skill)
  | .ok (.waiting deadline) => .running (.prepareDrain skill deadline)
  | .error e => .returned (.error e)

/-- The rest of a call after the section of `begin_trial`: a fault is
re-raised, any other exception is handled first. -/
def afterBegin : Except Exn Status → CallState
  | .error (.error _) => .running .beginFailed
  | out => .running (.beginRelease out)

/-- One atomic step of the call `id` at program counter `pc`; `none` when the
step is not possible with this choice. -/
def callStep (cfg : RuntimeConfig) (nx : Numerics) (id : Nat) (pc : Pc) (ch : Choice)
    (rt : PolicyRuntime) : Option (PolicyRuntime × CallState) :=
  match pc, ch with
  | .status, .go => some (rt, .returned (.ok (.status rt.status)))
  -- prepare_skill
  | .prepareEnter skill drain_timeout_sec, .clocks now now' =>
      some (branch (rt.prepareEnter drain_timeout_sec now now') (afterDrain skill))
  | .prepareDrain skill deadline, .clock now =>
      some (branch (rt.drain deadline now) (afterDrain skill))
  | .prepareAcquire skill, .acquired => acquire id rt (.prepareLoad skill)
  | .prepareAcquire _, .timedOut => some (rt, .running .prepareBusy)
  | .prepareBusy, .go =>
      some (branch (rt.failThenRaise .INFERENCE_BUSY (fault .INFERENCE_BUSY
        "cannot acquire policy execution lock for model preparation")) .returned)
  | .prepareLoad skill, .loaded r =>
      match r with
      | .ok identity =>
          if identity.skill ≠ skill then
            some (rt, .running (.prepareFailed (.error .RuntimeError)))
          else some (rt, .running (.prepareRelease skill (.ok identity)))
      | .error e => some (rt, .running (.prepareFailed e))
  | .prepareFailed e, .go =>
      some (branch (rt.failThenRaise .POLICY_FAILED (prepareFault e))
        fun out => .running (.prepareRelease [] out))
  | .prepareRelease skill loaded, .go =>
      release rt (match loaded with
        | .ok identity => .running (.prepareCommit skill identity)
        | .error e => .returned (.error e))
  | .prepareCommit skill identity, .go =>
      some (branch (rt.prepareCommit skill identity) (returning .status))
  -- begin_trial
  | .beginAcquire trial_id root_seed, .acquired => acquire id rt (.beginSection trial_id root_seed)
  | .beginAcquire _ _, .timedOut =>
      some (rt, .returned (.error (fault .INFERENCE_BUSY
        "cannot acquire policy execution lock for trial initialization")))
  | .beginSection trial_id root_seed, .begun reset io =>
      some (branch (rt.beginSection trial_id root_seed reset io) afterBegin)
  | .beginFailed, .go =>
      some (branch (rt.failThenRaise .POLICY_FAILED (fault .POLICY_FAILED
        "policy backend failed to initialize trial PRNG")) fun out => .running (.beginRelease out))
  | .beginRelease out, .go => release rt (returning .status out)
  -- open_session, close_session, end_trial, mark_transport_ambiguous
  | .openSession, .drawn session_id token now =>
      some (branch (rt.openSession cfg session_id token now) (returning .session))
  | .closeSession session_id, .go =>
      some (branch (rt.closeSession session_id) (returning .status))
  | .endTrial, .io io => some (branch (rt.endTrial io) (returning .trial))
  | .markAmbiguous session_id sequence, .io io =>
      some (branch (rt.markAmbiguous session_id sequence io)
        (returning fun r => .terminated r.1 r.2))
  -- infer
  | .inferAcquire request, .acquired => acquire id rt (.inferEnter request)
  | .inferAcquire _, .timedOut =>
      some (rt, .returned (.error (fault .INFERENCE_BUSY "policy execution lock is busy")))
  | .inferEnter request, .clock now =>
      some (branch (rt.inferEnter request now) fun
        | .ok lease_ref => .running (.inferPolicy request lease_ref)
        | .error e => .running (.inferRelease (.error e)))
  | .inferPolicy request lease_ref, .inferred r =>
      match r with
      | .error e => some (rt, .running (.inferFailed request lease_ref e))
      | .ok result =>
          match PolicyRuntime.hashInference nx request lease_ref result with
          | .error e => some (rt, .running (.inferFailed request lease_ref (.error e)))
          | .ok inf => some (rt, .running (.inferRecord inf))
  | .inferRecord inf, .io io =>
      some (branch (rt.inferRecord nx inf io) fun
        | .ok () => .running (.inferFinish inf)
        | .error e => .running (.inferFailed inf.request inf.lease_ref e))
  | .inferFailed request lease_ref e, .go =>
      some (branch (rt.inferFail e) fun out => .running (.inferLeave request lease_ref out))
  | .inferFinish inf, .go =>
      some (branch (rt.inferFinish inf)
        fun out => .running (.inferLeave inf.request inf.lease_ref out))
  | .inferLeave _ _ out, .go =>
      some ({ rt with in_flight := rt.in_flight - 1 }, .running (.inferRelease out))
  | .inferRelease out, .go => release rt (returning .response out)
  -- abort
  | .abortAcquire reason, .acquired => acquire id rt (.abortSection reason)
  | .abortAcquire _, .timedOut => some (rt, .running .abortTimedOut)
  | .abortTimedOut, .go =>
      some (branch (rt.failThenRaise .INFERENCE_TIMEOUT (fault .INFERENCE_TIMEOUT
        "timed out waiting for active inference before abort")) .returned)
  | .abortSection reason, .io io =>
      some (branch (rt.abortSection reason io) fun out => .running (.abortRelease out))
  | .abortRelease out, .go => release rt (returning (fun r => .terminated r.1 r.2) out)
  -- close
  | .closeSection, .io io =>
      some (branch (rt.closeSection io) fun
        | .ok audit_error => .running (.closeBackend audit_error)
        | .error e => .returned (.error e))
  | .closeBackend audit_error, .backendClosed r =>
      -- the `finally` clause raises the audit error over one of the backend
      some (rt, match audit_error with
        | some e => .returned (.error e)
        | none => returning (fun _ => .closed) r)
  | _, _ => none

/-! ## §3. The system. -/

/-- The shared state and all calls made so far, by number. -/
structure Sys where
  rt : PolicyRuntime
  calls : Nat → Option CallState

/-- What a step of the system did. -/
inductive Label where
  /-- The call `id` of `op` begins. -/
  | call (id : Nat) (op : Op)
  /-- The call `id` took its step at `pc`, which left it in `next`. -/
  | step (id : Nat) (pc : Pc) (ch : Choice) (next : CallState)

/-- Set the state of one call. -/
def Sys.setCall (s : Sys) (rt : PolicyRuntime) (id : Nat) (c : CallState) : Sys :=
  { rt := rt, calls := Function.update s.calls id (some c) }

/-- One step of the system: a call begins, or a running call advances. -/
inductive Step (cfg : RuntimeConfig) (nx : Numerics) : Sys → Label → Sys → Prop
  | call {s : Sys} {id : Nat} {op : Op} :
      s.calls id = none → Step cfg nx s (.call id op) (s.setCall s.rt id (op.start nx))
  | step {s : Sys} {id : Nat} {pc : Pc} {ch : Choice} {rt : PolicyRuntime} {next : CallState} :
      s.calls id = some (.running pc) → callStep cfg nx id pc ch s.rt = some (rt, next) →
      Step cfg nx s (.step id pc ch next) (s.setCall rt id next)

/-- A runtime just constructed over an audit root with the directories
`dirs` in it. -/
def PolicyRuntime.init (dirs : PyStr → Option TrialDir) : PolicyRuntime :=
  { audit := { dirs := dirs } }

/-- The system of all calls on one runtime. -/
def runtimeSystem (cfg : RuntimeConfig) (nx : Numerics) :
    TransitionSystem.System Sys Label where
  init s := ∃ dirs, s = { rt := PolicyRuntime.init dirs, calls := fun _ => none }
  step := Step cfg nx

/-- A history of the runtime from construction, and the state it leads to. -/
abbrev RuntimeRun (cfg : RuntimeConfig) (nx : Numerics) : List Label → Sys → Prop :=
  TransitionSystem.Run (runtimeSystem cfg nx)

@[simp] theorem Sys.setCall_rt (s : Sys) (rt : PolicyRuntime) (id : Nat) (c : CallState) :
    (s.setCall rt id c).rt = rt := rfl

@[simp] theorem Sys.setCall_self (s : Sys) (rt : PolicyRuntime) (id : Nat) (c : CallState) :
    (s.setCall rt id c).calls id = some c := by
  simp [Sys.setCall]

theorem Sys.setCall_other (s : Sys) (rt : PolicyRuntime) {id j : Nat} (c : CallState)
    (h : j ≠ id) : (s.setCall rt id c).calls j = s.calls j := by
  simp [Sys.setCall, Function.update_of_ne h]

end OvenRuntime
