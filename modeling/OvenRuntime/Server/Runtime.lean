/-
  OvenRuntime.Server.Runtime
  ──────────────────────────
  `PolicyRuntime`: the owner of one active policy, trial, session and
  inference lock.

  This file holds the shared state and every section the source runs under
  `self._condition`, each as one function from the state (and the outcomes
  the environment supplies: clock readings, backend results, file operations)
  to what the section returns or raises and the state it leaves.  The state
  is returned next to a raised exception, as Python keeps it.  How the
  sections are chained into calls and how calls interleave is
  `Server.Calls`.
-/
import OvenRuntime.Server.Audit

namespace OvenRuntime

/-! ## §1. Data. -/

/-- What the backend reports about a loaded skill. -/
structure BackendIdentity where
  backend : PyStr
  skill : PyStr
  model_id : PyStr
  deriving DecidableEq

/-- One policy inference. -/
structure BackendResult where
  actions : Value
  noise_hash : PyStr

/-- A session lease.  `ref` is the identity of the Python object, which the
`is` test of `infer` compares. -/
structure SessionLease where
  ref : Nat
  session_id : PyStr
  token : PyStr
  skill : PyStr
  generation : Nat
  trial_id : PyStr
  expires_at_monotonic : ℚ
  next_sequence : Int := 0
  state : SessionState := .ACTIVE
  deriving DecidableEq

/-- The constructor's arguments, with the check it makes on them. -/
structure RuntimeConfig where
  session_ttl_sec : ℚ
  inference_lock_timeout_sec : ℚ
  timeouts_positive : 0 < session_ttl_sec ∧ 0 < inference_lock_timeout_sec

/-- The fields of a `PolicyRuntime` and of the store it owns.
`execution_lock` names the call that holds the lock; `refs` counts the lease
objects created so far. -/
structure PolicyRuntime where
  state : RuntimeState := .STARTING
  active_skill : Option PyStr := none
  generation : Nat := 0
  identity : Option BackendIdentity := none
  session : Option SessionLease := none
  trial_id : Option PyStr := none
  trial_root_seed : Option Int := none
  in_flight : Int := 0
  last_error : Option ErrorCode := none
  execution_lock : Option Nat := none
  audit : TrialAuditStore := {}
  refs : Nat := 0

/-- The result of `status()`. -/
structure Status where
  state : RuntimeState
  active_skill : Option PyStr
  generation : Nat
  backend : Option PyStr
  model_id : Option PyStr
  active_session_id : Option PyStr
  active_trial_id : Option PyStr
  in_flight : Int
  last_error : Option ErrorCode
  deriving DecidableEq

/-- The result of `open_session()`. -/
structure SessionGrant where
  session_id : PyStr
  session_token : PyStr
  skill : PyStr
  generation : Nat
  trial_id : PyStr
  expires_in_sec : ℚ
  deriving DecidableEq

namespace PolicyRuntime

/-! ## §2. The locked helpers. -/

/-- The stored lease, if it is `ACTIVE`. -/
def activeLease (rt : PolicyRuntime) : Option SessionLease :=
  match rt.session with
  | some lease => if lease.state = .ACTIVE then some lease else none
  | none => none

/-- `status`. -/
def status (rt : PolicyRuntime) : Status :=
  { state := rt.state
    active_skill := rt.active_skill
    generation := rt.generation
    backend := rt.identity.map (·.backend)
    model_id := rt.identity.map (·.model_id)
    active_session_id := rt.activeLease.map (·.session_id)
    active_trial_id := rt.trial_id
    in_flight := rt.in_flight
    last_error := rt.last_error }

/-- `_transition_locked`. -/
def _transition_locked (rt : PolicyRuntime) (target : RuntimeState) :
    Except Exn Unit × PolicyRuntime :=
  match ensure_runtime_transition rt.state target with
  | .error e => (.error e, rt)
  | .ok () => (.ok (), { rt with state := target })

/-- `_invalidate_session_locked`.  The state written into the dropped lease is
never read again: `infer` tests the object identity first. -/
def _invalidate_session_locked (rt : PolicyRuntime) (_state : SessionState) : PolicyRuntime :=
  { rt with session := none }

/-- `_fail_locked`. -/
def _fail_locked (rt : PolicyRuntime) (code : ErrorCode) : Except Exn Unit × PolicyRuntime :=
  let rt := ({ rt with last_error := some code })._invalidate_session_locked .ABORTED
  if rt.state = .FAILED ∨ rt.state = .STOPPING then (.ok (), rt)
  else rt._transition_locked .FAILED

/-- `self._fail_locked(code)` followed by `raise e`. -/
def failThenRaise {α : Type} (rt : PolicyRuntime) (code : ErrorCode) (e : Exn) :
    Except Exn α × PolicyRuntime :=
  match rt._fail_locked code with
  | (.error e', rt) => (.error e', rt)
  | (.ok (), rt) => (.error e, rt)

/-- `_validate_request_locked`, at the clock reading `now`. -/
def _validate_request_locked (rt : PolicyRuntime) (request : InferenceRequest) (now : ℚ) :
    Except Exn SessionLease × PolicyRuntime :=
  match rt.activeLease with
  | none => (.error (fault .SESSION_REQUIRED "an active session is required"), rt)
  | some lease =>
      if lease.expires_at_monotonic ≤ now then
        (.error (fault .SESSION_EXPIRED "the active session has expired"),
          rt._invalidate_session_locked .EXPIRED)
      else if request.session_id ≠ lease.session_id then
        (.error (fault .SESSION_INVALID "session credentials are invalid"), rt)
      -- secrets.compare_digest refuses strings that are not ASCII
      else if !(request.session_token.isAscii && lease.token.isAscii) then
        (.error (.error .TypeError), rt)
      else if request.session_token ≠ lease.token then
        (.error (fault .SESSION_INVALID "session credentials are invalid"), rt)
      else if request.trial_id ≠ lease.trial_id ∨ rt.trial_id ≠ some request.trial_id then
        (.error (fault .TRIAL_MISMATCH "request trial does not match the active trial"), rt)
      else if request.expected_skill ≠ lease.skill
          ∨ rt.active_skill ≠ some request.expected_skill then
        (.error (fault .SKILL_MISMATCH "request skill does not match the active policy"), rt)
      else if request.expected_generation ≠ lease.generation
          ∨ request.expected_generation ≠ rt.generation then
        (.error (fault .GENERATION_MISMATCH
          "request generation does not match the active policy"), rt)
      else if request.sequence ≠ lease.next_sequence then
        (.error (fault .SEQUENCE_MISMATCH "request sequence is not the next expected value"
          [("expected", .int lease.next_sequence), ("received", .int request.sequence)]), rt)
      else if request.request_kind ≠ .INFER then
        (.error (fault .INVALID_FIELD_VALUE "warm-up requests are not supported"), rt)
      else if rt.state ≠ .READY then
        (.error (fault .STATE_REJECTED "request kind is not allowed in the current state"
          [("state", rt.state.detail), ("request_kind", .str request.request_kind.value)]), rt)
      else (.ok lease, rt)

/-! ## §3. Sections of `prepare_skill`. -/

/-- Where the first section of `prepare_skill` leaves the call. -/
inductive Drained where
  /-- Loading may start. -/
  | proceed
  /-- The call waits on the condition until `deadline`. -/
  | waiting (deadline : ℚ)

/-- The drain loop from its test on: at `now` an inference still in flight
either times the drain out or sends the call to sleep. -/
def drain (rt : PolicyRuntime) (deadline now : ℚ) : Except Exn Drained × PolicyRuntime :=
  if rt.in_flight ≠ 0 then
    if deadline - now ≤ 0 then
      rt.failThenRaise .INFERENCE_TIMEOUT
        (fault .INFERENCE_TIMEOUT "timed out draining active inference")
    else (.ok (.waiting deadline), rt)
  else
    match rt._transition_locked .SWITCHING with
    | (.error e, rt) => (.error e, rt)
    | (.ok (), rt) =>
        match rt._transition_locked .LOADING with
        | (.error e, rt) => (.error e, rt)
        | (.ok (), rt) => (.ok .proceed, rt)

/-- The first section of `prepare_skill`; `now` and `now'` are its two clock
readings. -/
def prepareEnter (rt : PolicyRuntime) (drain_timeout_sec now now' : ℚ) :
    Except Exn Drained × PolicyRuntime :=
  if rt.trial_id ≠ none then
    (.error (fault .STATE_REJECTED "end or abort the active trial before preparing a skill"), rt)
  else if rt.state = .FAILED ∨ rt.state = .STOPPING ∨ rt.state = .LOADING
      ∨ rt.state = .SWITCHING then
    (.error (fault .STATE_REJECTED "runtime cannot prepare a skill in its current state"
      [("state", rt.state.detail)]), rt)
  else
    let rt := rt._invalidate_session_locked .ABORTED
    if rt.state = .STARTING then
      match rt._transition_locked .LOADING with
      | (.error e, rt) => (.error e, rt)
      | (.ok (), rt) => (.ok .proceed, rt)
    else
      match rt._transition_locked .DRAINING with
      | (.error e, rt) => (.error e, rt)
      | (.ok (), rt) => rt.drain (now + drain_timeout_sec) now'

/-- The last section of `prepare_skill`. -/
def prepareCommit (rt : PolicyRuntime) (skill : PyStr) (identity : BackendIdentity) :
    Except Exn Status × PolicyRuntime :=
  let rt := { rt with
    active_skill := some skill
    identity := some identity
    generation := rt.generation + 1 }
  match rt._transition_locked .READY with
  | (.error e, rt) => (.error e, rt)
  | (.ok (), rt) => (.ok rt.status, rt)

/-! ## §4. Trials. -/

/-- The section of `begin_trial`, with the PRNG reset and the audit call in
it.  The exceptions are those that leave the section. -/
def beginSection (rt : PolicyRuntime) (trial_id : PyStr) (root_seed : Int)
    (reset : Except Exn Unit) (io : Io) : Except Exn Status × PolicyRuntime :=
  if rt.state ≠ .READY then
    (.error (fault .STATE_REJECTED "trial can begin only when runtime is ready"
      [("state", rt.state.detail)]), rt)
  else if rt.trial_id ≠ none then
    (.error (fault .STATE_REJECTED "another trial is already active"), rt)
  else
    match rt.active_skill with
    | none => (.error (fault .SERVER_FAILED "runtime has no active skill"), rt)
    | some skill =>
        match reset with
        | .error e => (.error e, rt)
        | .ok () =>
            match rt.audit.begin trial_id skill rt.generation root_seed io with
            | (.error e, audit) => (.error e, { rt with audit := audit })
            | (.ok active, audit) =>
                let rt := { rt with
                  audit := audit
                  trial_id := some active.trial_id
                  trial_root_seed := some root_seed }
                (.ok rt.status, rt)

/-- The section of `end_trial`. -/
def endTrial (rt : PolicyRuntime) (io : Io) : Except Exn TrialRecord × PolicyRuntime :=
  if rt.activeLease ≠ none then
    (.error (fault .SESSION_ALREADY_ACTIVE
      "close the active session before ending the trial"), rt)
  else if rt.trial_id = none then
    (.error (fault .TRIAL_REQUIRED "no active trial"), rt)
  else
    match rt.audit.end io with
    | (.error (.fault f), audit) =>
        ({ rt with audit := audit }).failThenRaise .AUDIT_COMMIT_FAILED (.fault f)
    | (.error e, audit) => (.error e, { rt with audit := audit })
    | (.ok summary, audit) =>
        (.ok summary, { rt with audit := audit, trial_id := none, trial_root_seed := none })

/-- The section of `abort`, once the execution lock is held. -/
def abortSection (rt : PolicyRuntime) (reason : PyStr) (io : Io) :
    Except Exn (RuntimeState × Option TrialRecord) × PolicyRuntime :=
  let rt := rt._invalidate_session_locked .ABORTED
  match rt.audit.abort reason io with
  | (.error (.fault f), audit) =>
      ({ rt with audit := audit }).failThenRaise .AUDIT_COMMIT_FAILED (.fault f)
  | (.error e, audit) => (.error e, { rt with audit := audit })
  | (.ok summary, audit) =>
      let rt := { rt with audit := audit, trial_id := none, trial_root_seed := none }
      (.ok (rt.state, summary), rt)

/-- The reason `mark_transport_ambiguous` records. -/
def ambiguityReason : PyStr := py "inference response transport failed"

/-- The section of `mark_transport_ambiguous`. -/
def markAmbiguous (rt : PolicyRuntime) (session_id : PyStr) (sequence : Int) (io : Io) :
    Except Exn (RuntimeState × Option TrialRecord) × PolicyRuntime :=
  match rt.session with
  | none => (.ok (rt.state, none), rt)
  | some lease =>
      if lease.session_id ≠ session_id then (.ok (rt.state, none), rt)
      else
        let rt := rt._invalidate_session_locked .ABORTED
        match rt.audit.mark_ambiguous ambiguityReason sequence io with
        | (.error (.fault f), audit) =>
            ({ rt with audit := audit }).failThenRaise .AUDIT_COMMIT_FAILED (.fault f)
        | (.error e, audit) => (.error e, { rt with audit := audit })
        | (.ok summary, audit) =>
            let rt := { rt with audit := audit, trial_id := none, trial_root_seed := none }
            match rt._fail_locked .SERVER_FAILED with
            | (.error e, rt) => (.error e, rt)
            | (.ok (), rt) => (.ok (rt.state, summary), rt)

/-! ## §5. Sessions and shutdown. -/

/-- The section of `open_session`; the identifier, the token and the clock
reading come from outside. -/
def openSession (cfg : RuntimeConfig) (rt : PolicyRuntime) (session_id token : PyStr) (now : ℚ) :
    Except Exn SessionGrant × PolicyRuntime :=
  if rt.state ≠ .READY then
    (.error (fault .STATE_REJECTED "session cannot open in the current state"
      [("state", rt.state.detail)]), rt)
  else
    match rt.trial_id, rt.active_skill with
    | some trial_id, some skill =>
        if rt.activeLease ≠ none then
          (.error (fault .SESSION_ALREADY_ACTIVE "an action session is already active"), rt)
        else
          let lease : SessionLease :=
            { ref := rt.refs
              session_id := session_id
              token := token
              skill := skill
              generation := rt.generation
              trial_id := trial_id
              expires_at_monotonic := now + cfg.session_ttl_sec }
          (.ok { session_id := lease.session_id
                 session_token := lease.token
                 skill := lease.skill
                 generation := lease.generation
                 trial_id := lease.trial_id
                 expires_in_sec := cfg.session_ttl_sec },
            { rt with session := some lease, refs := rt.refs + 1 })
    | _, _ => (.error (fault .TRIAL_REQUIRED "begin a trial before opening a session"), rt)

/-- The section of `close_session`. -/
def closeSession (rt : PolicyRuntime) (session_id : PyStr) :
    Except Exn Status × PolicyRuntime :=
  match rt.activeLease with
  | none => (.error (fault .SESSION_REQUIRED "no active session"), rt)
  | some lease =>
      if lease.session_id ≠ session_id then
        (.error (fault .SESSION_INVALID "session ID does not match the active lease"), rt)
      else if rt.in_flight ≠ 0 then
        (.error (fault .INFERENCE_BUSY "cannot close a session with inference in flight"), rt)
      else
        let rt := rt._invalidate_session_locked .CLOSED
        (.ok rt.status, rt)

/-- The section of `close`: what it returns is the audit error to re-raise
once the backend is closed. -/
def closeSection (rt : PolicyRuntime) (io : Io) : Except Exn (Option Exn) × PolicyRuntime :=
  let stopped : Except Exn Unit × PolicyRuntime :=
    if rt.state ≠ .STOPPING then rt._transition_locked .STOPPING else (.ok (), rt)
  match stopped with
  | (.error e, rt) => (.error e, rt)
  | (.ok (), rt) =>
      let rt := rt._invalidate_session_locked .ABORTED
      if rt.trial_id = none then (.ok none, rt)
      else
        match rt.audit.abort (py "server shutdown") io with
        | (.error (.fault f), audit) => (.ok (some (.fault f)), { rt with audit := audit })
        | (.error e, audit) => (.error e, { rt with audit := audit })
        | (.ok _, audit) =>
            (.ok none, { rt with audit := audit, trial_id := none, trial_root_seed := none })

/-! ## §6. Sections of `infer`. -/

/-- What `infer` holds between its sections: the request, the admitted lease
and, after the policy call, the result with its three hashes. -/
structure Inference where
  request : InferenceRequest
  lease_ref : Nat
  result : BackendResult
  request_hash : Digest
  observation_hash : Digest
  action_hash : Digest

/-- The mapping whose tree hash identifies a request. -/
def requestHashFields (request : InferenceRequest) (observation_hash : Digest) : Dict :=
  [(.str (py "protocol_version"), .int request.protocol_version),
   (.str (py "session_id"), .str request.session_id),
   (.str (py "trial_id"), .str request.trial_id),
   (.str (py "request_kind"), .str request.request_kind.value),
   (.str (py "expected_skill"), .str request.expected_skill),
   (.str (py "expected_generation"), .int request.expected_generation),
   (.str (py "sequence"), .int request.sequence),
   (.str (py "observation_hash"), .str observation_hash.hex)]

/-- The hashing between the policy call and the audit call. -/
def hashInference (nx : Numerics) (request : InferenceRequest) (lease_ref : Nat)
    (result : BackendResult) : Except PyError Inference := do
  let observation_hash ← nx.stable_tree_hash (.map request.observation)
  let request_hash ← nx.stable_tree_hash (.map (requestHashFields request observation_hash))
  let action_hash ← nx.stable_tree_hash result.actions
  return { request := request, lease_ref := lease_ref, result := result,
           request_hash := request_hash, observation_hash := observation_hash,
           action_hash := action_hash }

/-- The audit row of an inference. -/
def Inference.row (inf : Inference) : RequestRow :=
  { session_id := inf.request.session_id
    trial_id := inf.request.trial_id
    skill := inf.request.expected_skill
    generation := inf.request.expected_generation
    sequence := inf.request.sequence
    request_kind := inf.request.request_kind.value
    request_hash := inf.request_hash
    observation_hash := inf.observation_hash
    noise_hash := inf.result.noise_hash
    action_hash := inf.action_hash }

/-- The response of an inference. -/
def Inference.response (inf : Inference) : InferenceResponse :=
  { session_id := inf.request.session_id
    trial_id := inf.request.trial_id
    skill := inf.request.expected_skill
    generation := inf.request.expected_generation
    sequence := inf.request.sequence
    publishable := true
    request_hash := inf.request_hash
    observation_hash := inf.observation_hash
    noise_hash := inf.result.noise_hash
    action_hash := inf.action_hash
    actions := inf.result.actions }

/-- The admission section of `infer`; it returns the identity of the lease. -/
def inferEnter (rt : PolicyRuntime) (request : InferenceRequest) (now : ℚ) :
    Except Exn Nat × PolicyRuntime :=
  match rt._validate_request_locked request now with
  | (.error e, rt) => (.error e, rt)
  | (.ok lease, rt) => (.ok lease.ref, { rt with in_flight := rt.in_flight + 1 })

/-- The audit call of `infer`. -/
def inferRecord (nx : Numerics) (rt : PolicyRuntime) (inf : Inference) (io : Io) :
    Except Exn Unit × PolicyRuntime :=
  match rt.audit.record_request nx inf.row inf.result.actions inf.request.observation io with
  | (r, audit) => (r, { rt with audit := audit })

/-- The two handlers of `infer`: a fault keeps its code, any other exception
becomes `POLICY_FAILED`. -/
def inferFail (rt : PolicyRuntime) (e : Exn) : Except Exn InferenceResponse × PolicyRuntime :=
  match e with
  | .fault f => rt.failThenRaise f.code (.fault f)
  | .error _ =>
      rt.failThenRaise .POLICY_FAILED (fault .POLICY_FAILED "policy inference failed")

/-- The section of `infer` after the audit call. -/
def inferFinish (rt : PolicyRuntime) (inf : Inference) :
    Except Exn InferenceResponse × PolicyRuntime :=
  match rt.session with
  | some lease =>
      if lease.ref = inf.lease_ref ∧ lease.state = .ACTIVE then
        (.ok inf.response,
          { rt with session := some { lease with next_sequence := lease.next_sequence + 1 } })
      else
        rt.failThenRaise .SESSION_INVALID
          (fault .SESSION_INVALID "session changed during inference")
  | none =>
      rt.failThenRaise .SESSION_INVALID
        (fault .SESSION_INVALID "session changed during inference")

end PolicyRuntime

end OvenRuntime
