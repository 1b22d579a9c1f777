/-
  OvenRuntime.Server.Effects
  ──────────────────────────
  A coarse classification of the steps: all but a few are frames, which drop
  at most the session and the trial and never touch the lock, the counter of
  inferences in flight, or a directory.  The exceptions are listed one by
  one in `Effect`.

  From the classification follow the two facts about the execution lock that
  the histories of the next modules rest on: the lock is held by the one call
  that is at a lock-holding program counter, and `in_flight` counts the call
  that serves an admitted request.
-/
import OvenRuntime.Server.Invariants

namespace OvenRuntime

/-! ## §1. Frames. -/

/-- What most sections leave alone. -/
structure Frame (rt rt' : PolicyRuntime) : Prop where
  lock : rt'.execution_lock = rt.execution_lock
  in_flight : rt'.in_flight = rt.in_flight
  refs : rt'.refs = rt.refs
  dirs : rt.audit.Grows rt'.audit
  down : rt.state.down → rt'.state.down
  session : rt'.session = rt.session ∨ rt'.session = none
  trial : rt'.trial_id = rt.trial_id ∨ rt'.trial_id = none

namespace Frame

/-- A section that changes nothing. -/
theorem refl (rt : PolicyRuntime) : Frame rt rt :=
  ⟨rfl, rfl, rfl, TrialAuditStore.Grows.refl _, id, .inl rfl, .inl rfl⟩

/-- Two sections in a row. -/
theorem trans {rt rt' rt'' : PolicyRuntime} (h : Frame rt rt') (h' : Frame rt' rt'') :
    Frame rt rt'' where
  lock := h'.lock.trans h.lock
  in_flight := h'.in_flight.trans h.in_flight
  refs := h'.refs.trans h.refs
  dirs := h.dirs.trans h'.dirs
  down hd := h'.down (h.down hd)
  session := by
    rcases h'.session with hs | hs
    · rw [hs]
      exact h.session
    · exact .inr hs
  trial := by
    rcases h'.trial with ht | ht
    · rw [ht]
      exact h.trial
    · exact .inr ht

/-- Failing the runtime drops the session and keeps the trial. -/
theorem failed (rt : PolicyRuntime) (code : ErrorCode) : Frame rt (rt.failed code) :=
  ⟨rfl, rfl, rfl, TrialAuditStore.Grows.refl _, fun _ => rt.failed_down code, .inr rfl, .inl rfl⟩

/-- The session alone is dropped. -/
theorem dropSession (rt : PolicyRuntime) : Frame rt { rt with session := none } :=
  ⟨rfl, rfl, rfl, TrialAuditStore.Grows.refl _, id, .inr rfl, .inl rfl⟩

/-- The store changes, with its directories kept. -/
theorem audit (rt : PolicyRuntime) {audit : TrialAuditStore} (h : rt.audit.Grows audit) :
    Frame rt { rt with audit := audit } :=
  ⟨rfl, rfl, rfl, h, id, .inl rfl, .inl rfl⟩

/-- The trial is over, for the runtime and for the store. -/
theorem trialOver (rt : PolicyRuntime) {audit : TrialAuditStore} (h : rt.audit.Grows audit) :
    Frame rt (rt.trialOver audit) :=
  ⟨rfl, rfl, rfl, h, id, .inl rfl, .inr rfl⟩

/-- STOPPING, without a session. -/
theorem stopped (rt : PolicyRuntime) : Frame rt rt.stopped :=
  ⟨rfl, rfl, rfl, TrialAuditStore.Grows.refl _, fun _ => .inr rfl, .inr rfl, .inl rfl⟩

/-- An audit call that ends a trial has raised. -/
theorem auditRaised {rt rt' : PolicyRuntime} {e : Exn} (h : PolicyRuntime.AuditRaised rt e rt') :
    Frame rt rt' := by
  cases h with
  | fault f audit _ hg => exact (Frame.audit rt hg).trans (.failed _ _)
  | error e audit _ hg => exact Frame.audit rt hg

/-- A change of state out of a live one, with the session dropped. -/
theorem restate {rt : PolicyRuntime} (st : RuntimeState) (h : ¬ rt.state.down) :
    Frame rt { rt with session := none, state := st } :=
  ⟨rfl, rfl, rfl, TrialAuditStore.Grows.refl _, fun hd => absurd hd h, .inr rfl, .inl rfl⟩

/-- The drain loop leaves a runtime that is down as it is, since it enters SWITCHING from
DRAINING alone. -/
theorem drain {rt rt' : PolicyRuntime} {deadline now : ℚ}
    {r : Except Exn PolicyRuntime.Drained} (he : rt.drain deadline now = (r, rt')) :
    Frame rt rt' := by
  rcases rt.drain_cases deadline now with ⟨e, -, hd⟩ | ⟨-, hd⟩ | ⟨-, hst, hd⟩ | ⟨e, -, -, hd⟩
  · cases he.symm.trans hd
    exact .failed _ _
  · cases he.symm.trans hd
    exact .refl _
  · cases he.symm.trans hd
    refine ⟨rfl, rfl, rfl, TrialAuditStore.Grows.refl _, ?_, .inl rfl, .inl rfl⟩
    intro hdown
    rw [hst] at hdown
    exact absurd hdown (by decide)
  · cases he.symm.trans hd
    exact .refl _

/-- The first section of `prepare_skill` is refused in a runtime that is down. -/
theorem prepareEnter {rt rt' : PolicyRuntime} {timeout now now' : ℚ}
    {r : Except Exn PolicyRuntime.Drained} (he : rt.prepareEnter timeout now now' = (r, rt')) :
    Frame rt rt' := by
  rcases rt.prepareEnter_cases timeout now now' with ⟨e, hc⟩ | ⟨-, -, e, hc⟩ | ⟨-, hst, hc⟩
    | ⟨-, hst, hc⟩
  · cases he.symm.trans hc
    exact .refl _
  · cases he.symm.trans hc
    exact .dropSession _
  · cases he.symm.trans hc
    exact .restate _ (by rw [hst]; decide)
  · rw [hc] at he
    exact (Frame.restate .DRAINING (by rw [hst]; decide)).trans (.drain he)

/-- The last section of `prepare_skill` becomes READY out of LOADING alone. -/
theorem prepareCommit {rt rt' : PolicyRuntime} {skill : PyStr} {identity : BackendIdentity}
    {r : Except Exn Status} (he : rt.prepareCommit skill identity = (r, rt')) : Frame rt rt' := by
  rcases rt.prepareCommit_cases skill identity with ⟨st, hl, hc⟩ | ⟨e, -, hc⟩
  · cases he.symm.trans hc
    refine ⟨rfl, rfl, rfl, TrialAuditStore.Grows.refl _, ?_, .inl rfl, .inl rfl⟩
    intro hdown
    rw [hl] at hdown
    exact absurd hdown (by decide)
  · cases he.symm.trans hc
    exact ⟨rfl, rfl, rfl, TrialAuditStore.Grows.refl _, id, .inl rfl, .inl rfl⟩

/-- `close_session` drops the session or is refused. -/
theorem closeSession {rt rt' : PolicyRuntime} {session_id : PyStr} {r : Except Exn Status}
    (he : rt.closeSession session_id = (r, rt')) : Frame rt rt' := by
  rcases rt.closeSession_cases session_id with ⟨e, hc⟩ | ⟨lease, st, -, -, -, hc⟩
  · cases he.symm.trans hc
    exact .refl _
  · cases he.symm.trans hc
    exact .dropSession _

/-- `end_trial` ends the trial, fails, or is refused. -/
theorem endTrial {rt rt' : PolicyRuntime} {io : Io} {r : Except Exn TrialRecord}
    (he : rt.endTrial io = (r, rt')) : Frame rt rt' := by
  rcases rt.endTrial_cases io with ⟨e, -, hc⟩ | ⟨e, rt₁, -, -, -, hr, hc⟩
    | ⟨a, audit, -, -, -, -, -, hg, hc⟩
  · cases he.symm.trans hc
    exact .refl _
  · cases he.symm.trans hc
    exact .auditRaised hr
  · cases he.symm.trans hc
    exact .trialOver _ hg

/-- `abort` drops the session, and the trial unless the audit call raises. -/
theorem abortSection {rt rt' : PolicyRuntime} {reason : PyStr} {io : Io}
    {r : Except Exn (RuntimeState × Option TrialRecord)}
    (he : rt.abortSection reason io = (r, rt')) : Frame rt rt' := by
  rcases rt.abortSection_cases reason io with ⟨e, rt₁, -, hr, hc⟩
    | ⟨summary, out, audit, -, -, hg, hc⟩
  · cases he.symm.trans hc
    exact (Frame.dropSession rt).trans (.auditRaised hr)
  · cases he.symm.trans hc
    exact (Frame.dropSession rt).trans (.trialOver _ hg)

/-- `mark_transport_ambiguous` does the same for the session it names, and fails the
runtime. -/
theorem markAmbiguous {rt rt' : PolicyRuntime} {session_id : PyStr} {sequence : Int} {io : Io}
    {r : Except Exn (RuntimeState × Option TrialRecord)}
    (he : rt.markAmbiguous session_id sequence io = (r, rt')) : Frame rt rt' := by
  rcases rt.markAmbiguous_cases session_id sequence io with ⟨-, hc⟩
    | ⟨lease, -, -, ⟨e, rt₁, -, hr, hc⟩ | ⟨summary, out, audit, -, -, hg, hc⟩⟩
  · cases he.symm.trans hc
    exact .refl _
  · cases he.symm.trans hc
    exact (Frame.dropSession rt).trans (.auditRaised hr)
  · cases he.symm.trans hc
    exact (Frame.trialOver rt hg).trans (.failed _ _)

/-- `close` stops the runtime, whatever the audit call does. -/
theorem closeSection {rt rt' : PolicyRuntime} {io : Io} {r : Except Exn (Option Exn)}
    (he : rt.closeSection io = (r, rt')) : Frame rt rt' := by
  rcases rt.closeSection_cases io with ⟨r', audit, -, hg, hc⟩ | ⟨r', audit, -, hg, hc⟩
  · cases he.symm.trans hc
    exact (Frame.stopped rt).trans (.audit _ hg)
  · cases he.symm.trans hc
    exact (Frame.stopped rt).trans (.trialOver _ hg)

/-- The audit call of `infer` adds to the store. -/
theorem inferRecord {nx : Numerics} {rt rt' : PolicyRuntime} {inf : PolicyRuntime.Inference}
    {io : Io} {r : Except Exn Unit} (he : rt.inferRecord nx inf io = (r, rt')) :
    Frame rt rt' := by
  obtain ⟨r', audit, hg, -, hc⟩ := rt.inferRecord_cases nx inf io
  cases he.symm.trans hc
  exact .audit _ hg

end Frame

/-! ## §2. The classification. -/

/-- The program counters at which a call holds the execution lock. -/
def Pc.holdsLock : Pc → Bool
  | .prepareLoad _ | .prepareFailed _ | .prepareRelease _ _ => true
  | .beginSection _ _ | .beginFailed | .beginRelease _ => true
  | .inferEnter _ | .inferPolicy _ _ | .inferRecord _ | .inferFailed _ _ _ => true
  | .inferFinish _ | .inferLeave _ _ _ | .inferRelease _ => true
  | .abortSection _ | .abortRelease _ => true
  | _ => false

/-- The admitted request a call in flight serves, and the lease it was
admitted under. -/
def Pc.serving : Pc → Option (InferenceRequest × Nat)
  | .inferPolicy request lease_ref => some (request, lease_ref)
  | .inferRecord inf => some (inf.request, inf.lease_ref)
  | .inferFailed request lease_ref _ => some (request, lease_ref)
  | .inferFinish inf => some (inf.request, inf.lease_ref)
  | .inferLeave request lease_ref _ => some (request, lease_ref)
  | _ => none

/-- The request with which a call has entered the policy, before the response
is counted or the call is refused. -/
def Pc.entered : Pc → Option (InferenceRequest × Nat)
  | .inferRecord inf => some (inf.request, inf.lease_ref)
  | .inferFailed request lease_ref _ => some (request, lease_ref)
  | .inferFinish inf => some (inf.request, inf.lease_ref)
  | _ => none

/-- The response a call has been promised: its `return` has been evaluated. -/
def Pc.answered : Pc → Option InferenceResponse
  | .inferLeave _ _ (.ok response) => some response
  | .inferRelease (.ok response) => some response
  | _ => none

/-- The request with which the step at a program counter enters the policy. -/
def Pc.entry : Pc → Option InferenceRequest
  | .inferPolicy request _ => some request
  | _ => none

/-- The session that a step opens. -/
def opening : Pc → CallState → Option PyStr
  | .openSession, .returned (.ok (.session grant)) => some grant.session_id
  | _, _ => none

/-! A call that has returned holds and serves nothing; what it answered stays. -/

/-- The call has the execution lock. -/
def CallState.holdsLock : CallState → Bool
  | .running pc => pc.holdsLock
  | .returned _ => false

/-- The request the call is counted in `in_flight` for, with the lease it was admitted
under. -/
def CallState.serving : CallState → Option (InferenceRequest × Nat)
  | .running pc => pc.serving
  | .returned _ => none

/-- The request with which the next step of the call enters the policy. -/
def CallState.entry : CallState → Option InferenceRequest
  | .running pc => pc.entry
  | .returned _ => none

/-- The request with which the call has entered the policy, until it is answered or
refused. -/
def CallState.entered : CallState → Option (InferenceRequest × Nat)
  | .running pc => pc.entered
  | .returned _ => none

/-- The response the call is about to return, or has returned. -/
def CallState.answered : CallState → Option InferenceResponse
  | .running pc => pc.answered
  | .returned (.ok (.response response)) => some response
  | .returned _ => none

@[simp] theorem CallState.holdsLock_running (pc : Pc) :
    (CallState.running pc).holdsLock = pc.holdsLock := rfl

@[simp] theorem CallState.holdsLock_returned (out : Except Exn Result) :
    (CallState.returned out).holdsLock = false := rfl

@[simp] theorem CallState.serving_running (pc : Pc) :
    (CallState.running pc).serving = pc.serving := rfl

@[simp] theorem CallState.serving_returned (out : Except Exn Result) :
    (CallState.returned out).serving = none := rfl

/-- A call that has entered the policy serves the request it entered with. -/
theorem CallState.serving_of_entered {c : CallState} {p : InferenceRequest × Nat}
    (h : c.entered = some p) : c.serving = some p := by
  cases c with
  | returned out => cases h
  | running pc => cases pc <;> first | exact h | cases h

/-- A call that serves no request has entered the policy for none. -/
theorem CallState.entered_none_of_serving {c : CallState} (h : c.serving = none) :
    c.entered = none := by
  cases he : c.entered with
  | none => rfl
  | some p =>
      rw [CallState.serving_of_entered he] at h
      cases h

/-- A call is not answered before it leaves the policy. -/
theorem CallState.answered_none_of_entered {c : CallState} {p : InferenceRequest × Nat}
    (h : c.entered = some p) : c.answered = none := by
  cases c with
  | returned out => cases h
  | running pc => cases pc <;> first | rfl | cases h

/-- A call about to enter the policy serves, and has not entered yet. -/
theorem Pc.entry_none_of_serving {pc : Pc} (h : pc.serving = none) : pc.entry = none := by
  cases pc <;> first | rfl | cases h

/-- A call that has entered the policy is not about to enter it. -/
theorem Pc.entry_none_of_entered {pc : Pc} {p : InferenceRequest × Nat}
    (h : pc.entered = some p) : pc.entry = none := by
  cases pc <;> first | rfl | cases h

/-- A call that serves no request is not about to enter the policy. -/
theorem CallState.entry_none_of_serving {c : CallState} (h : c.serving = none) :
    c.entry = none := by
  cases c with
  | returned out => rfl
  | running pc => exact Pc.entry_none_of_serving h

/-- Sessions are opened by calls that do not hold the lock. -/
theorem opening_of_holdsLock {pc : Pc} (next : CallState) (h : pc.holdsLock = true) :
    opening pc next = none := by
  cases pc <;> first | rfl | cases h

/-- Whoever serves a request holds the lock. -/
theorem CallState.holdsLock_of_serving {c : CallState} (h : c.serving.isSome = true) :
    c.holdsLock = true := by
  cases c with
  | returned out => cases h
  | running pc => cases pc <;> first | rfl | cases h

/-- The kinds of steps. -/
inductive Effect (id : Nat) (rt : PolicyRuntime) : Pc → PolicyRuntime → CallState → Prop
  /-- Everything else. -/
  | frame {pc rt' next} : Frame rt rt' → next.holdsLock = pc.holdsLock →
      next.serving = pc.serving → next.entered = pc.entered → pc.answered = none →
      next.answered = none → pc.entry = none → next.entry = none → opening pc next = none →
      Effect id rt pc rt' next
  | acquire {pc pc'} : rt.execution_lock = none → pc.holdsLock = false → pc.serving = none →
      pc.answered = none → pc'.holdsLock = true → pc'.serving = none → pc'.answered = none →
      Effect id rt pc { rt with execution_lock := some id } (.running pc')
  | release {pc next} : pc.holdsLock = true → pc.serving = none → next.holdsLock = false →
      next.serving = none → next.answered = pc.answered →
      Effect id rt pc { rt with execution_lock := none } next
  /-- A trial begins, in a directory that was not there. -/
  | began {trial_id root_seed st audit} : ¬ rt.state.down → rt.trial_id = none →
      (rt.audit.dirs trial_id).isSome = false → rt.audit.Grows audit →
      Effect id rt (.beginSection trial_id root_seed)
        { rt with audit := audit, trial_id := some trial_id, trial_root_seed := some root_seed }
        (.running (.beginRelease (.ok st)))
  /-- A session opens, over a trial. -/
  | opened {grant lease trial_id} : ¬ rt.state.down → rt.trial_id = some trial_id →
      lease.trial_id = trial_id → lease.ref = rt.refs → lease.next_sequence = 0 →
      lease.session_id = grant.session_id →
      Effect id rt .openSession { rt with session := some lease, refs := rt.refs + 1 }
        (.returned (.ok (.session grant)))
  /-- A request is admitted. -/
  | admitted {request lease} : PolicyRuntime.Admitted rt request lease →
      Effect id rt (.inferEnter request) { rt with in_flight := rt.in_flight + 1 }
        (.running (.inferPolicy request lease.ref))
  /-- The policy has run for a request, or raised. -/
  | entered {request lease_ref next} : next.holdsLock = true →
      next.entered = some (request, lease_ref) →
      Effect id rt (.inferPolicy request lease_ref) rt next
  /-- A call that entered the policy fails the runtime. -/
  | refused {pc request lease_ref code f} : pc.holdsLock = true →
      pc.entered = some (request, lease_ref) →
      Effect id rt pc (rt.failed code) (.running (.inferLeave request lease_ref (.error (.fault f))))
  /-- A response is counted on the lease its request was admitted under. -/
  | finished {inf lease} : rt.session = some lease → lease.ref = inf.lease_ref →
      Effect id rt (.inferFinish inf) { rt with session := some lease.next }
        (.running (.inferLeave inf.request inf.lease_ref (.ok inf.response)))
  | left {request lease_ref out} :
      Effect id rt (.inferLeave request lease_ref out) { rt with in_flight := rt.in_flight - 1 }
        (.running (.inferRelease out))

/-- After the drain loop the call goes on, sleeps or raises, and holds nothing in any case.
-/
theorem afterDrain_effect {id : Nat} {rt rt' : PolicyRuntime} {pc : Pc} (skill : PyStr)
    (r : Except Exn PolicyRuntime.Drained) (hf : Frame rt rt') (hl : pc.holdsLock = false)
    (hs : pc.serving = none) (he : pc.entered = none) (ha : pc.answered = none)
    (hent : pc.entry = none) (hop : ∀ next, opening pc next = none) :
    Effect id rt pc rt' (afterDrain skill r) := by
  cases r with
  | error e => exact .frame hf hl.symm hs.symm he.symm ha rfl hent rfl (hop _)
  | ok d => cases d <;> exact .frame hf hl.symm hs.symm he.symm ha rfl hent rfl (hop _)

/-- **Every step of a call is of one of these kinds.** -/
theorem Advance.effect {cfg : RuntimeConfig} {nx : Numerics} {id : Nat} {rt rt' : PolicyRuntime}
    {pc : Pc} {ch : Choice} {next : CallState} (h : Advance cfg nx id rt pc ch rt' next) :
    Effect id rt pc rt' next := by
  cases h with
  | @closeBackend audit_error r =>
      cases audit_error <;> cases r <;> exact .frame (.refl _) rfl rfl rfl rfl rfl rfl rfl rfl
  | status | prepareTimeout | prepareLoad _ | prepareRaise | beginTimeout | inferTimeout
  | abortTimeout => exact .frame (.refl _) rfl rfl rfl rfl rfl rfl rfl rfl
  | prepareEnter he => exact afterDrain_effect _ _ (.prepareEnter he) rfl rfl rfl rfl rfl fun _ => rfl
  | prepareDrain he => exact afterDrain_effect _ _ (.drain he) rfl rfl rfl rfl rfl fun _ => rfl
  | @prepareCommit _ _ r _ he =>
      cases r <;> exact .frame (.prepareCommit he) rfl rfl rfl rfl rfl rfl rfl rfl
  | prepareBusy | prepareFailed | beginFailed | abortTimedOut =>
      exact .frame (.failed _ _) rfl rfl rfl rfl rfl rfl rfl rfl
  | prepareAcquire hl | beginAcquire hl | inferAcquire hl | abortAcquire hl =>
      exact .acquire hl rfl rfl rfl rfl rfl rfl
  | @prepareRelease skill loaded => cases loaded <;> exact .release rfl rfl rfl rfl rfl
  | @beginRelease out | @inferRelease out | @abortRelease out =>
      cases out <;> exact .release rfl rfl rfl rfl rfl
  | @beginSection trial_id root_seed reset io r rt₁ he =>
      rcases rt.beginSection_cases trial_id root_seed reset io with ⟨e, audit, -, hg, hc⟩
        | ⟨st, skill, audit, hst, ht, -, -, hd, hg, -, -, -, -, hc⟩
      · cases he.symm.trans hc
        cases e with
        | fault f => exact .frame (.audit _ hg) rfl rfl rfl rfl rfl rfl rfl rfl
        | error e => exact .frame (.audit _ hg) rfl rfl rfl rfl rfl rfl rfl rfl
      · cases he.symm.trans hc
        exact .began (by rw [hst]; decide) ht hd hg
  | @openSession session_id token now r rt₁ he =>
      rcases rt.openSession_cases cfg session_id token now with ⟨e, hc⟩ | ⟨t, k, hst, ht, -, -, hc⟩
      · cases he.symm.trans hc
        exact .frame (.refl _) rfl rfl rfl rfl rfl rfl rfl rfl
      · cases he.symm.trans hc
        exact .opened (by rw [hst]; decide) ht rfl rfl rfl rfl
  | @closeSession _ r _ he =>
      cases r <;> exact .frame (.closeSession he) rfl rfl rfl rfl rfl rfl rfl rfl
  | @endTrial _ r _ he =>
      cases r <;> exact .frame (.endTrial he) rfl rfl rfl rfl rfl rfl rfl rfl
  | @markAmbiguous _ _ _ r _ he =>
      cases r <;> exact .frame (.markAmbiguous he) rfl rfl rfl rfl rfl rfl rfl rfl
  | @inferEnter request now r rt₁ he =>
      rcases rt.inferEnter_cases request now with ⟨e, hc⟩ | ⟨e, lease, -, -, hc⟩ | ⟨lease, ha, -, hc⟩
      · cases he.symm.trans hc
        exact .frame (.refl _) rfl rfl rfl rfl rfl rfl rfl rfl
      · cases he.symm.trans hc
        exact .frame (.dropSession _) rfl rfl rfl rfl rfl rfl rfl rfl
      · cases he.symm.trans hc
        exact .admitted ha
  | inferRaise => exact .entered rfl rfl
  | inferPolicy hinf =>
      obtain ⟨h1, h2, -⟩ := PolicyRuntime.hashInference_ok hinf
      refine .entered rfl ?_
      simp [CallState.entered, Pc.entered, h1, h2]
  | @inferRecord inf io r rt₁ he =>
      cases r <;> exact .frame (.inferRecord he) rfl rfl rfl rfl rfl rfl rfl rfl
  | @inferFailed request lease_ref e out rt₁ he =>
      obtain ⟨f, code, hc⟩ := rt.inferFail_eq e
      cases he.symm.trans hc
      exact .refused rfl rfl
  | @inferFinish inf out rt₁ he =>
      rcases rt.inferFinish_cases inf with ⟨lease, hs, hr, -, hc⟩ | ⟨f, -, hc⟩
      · cases he.symm.trans hc
        exact .finished hs hr
      · cases he.symm.trans hc
        exact .refused rfl rfl
  | inferLeave => exact .left
  | abortSection he => exact .frame (.abortSection he) rfl rfl rfl rfl rfl rfl rfl rfl
  | @closeSection io r rt₁ he =>
      cases r <;> exact .frame (.closeSection he) rfl rfl rfl rfl rfl rfl rfl rfl

/-! ## §3. Consequences for every step. -/

/-- Down is for good. -/
theorem Effect.down {id : Nat} {rt rt' : PolicyRuntime} {pc : Pc} {next : CallState}
    (h : Effect id rt pc rt' next) (hd : rt.state.down) : rt'.state.down := by
  cases h with
  | frame hf => exact hf.down hd
  | began hlive | opened hlive => exact absurd hd hlive
  | refused => exact rt.failed_down _
  | acquire | release | admitted | entered | finished | left => exact hd

/-- Directories stay. -/
theorem Effect.dirs {id : Nat} {rt rt' : PolicyRuntime} {pc : Pc} {next : CallState}
    (h : Effect id rt pc rt' next) : rt.audit.Grows rt'.audit := by
  cases h with
  | frame hf => exact hf.dirs
  | began _ _ _ hg => exact hg
  | opened | acquire | release | admitted | entered | refused | finished | left => exact .refl _

/-- Lease objects are never reused. -/
theorem Effect.refs {id : Nat} {rt rt' : PolicyRuntime} {pc : Pc} {next : CallState}
    (h : Effect id rt pc rt' next) : rt.refs ≤ rt'.refs := by
  cases h with
  | frame hf =>
      rw [hf.refs]
  | opened =>
      show rt.refs ≤ rt.refs + 1
      omega
  | began | acquire | release | admitted | entered | refused | finished | left =>
      exact Nat.le_refl _

/-- No step of any call brings a runtime back that is down. -/
theorem Step.down {cfg : RuntimeConfig} {nx : Numerics} {s s' : Sys} {l : Label}
    (h : Step cfg nx s l s') (hd : s.rt.state.down) : s'.rt.state.down := by
  rcases step_cases h with ⟨id, op, -, -, rfl⟩ | ⟨id, pc, ch, rt', next, -, -, ha, rfl⟩
  · exact hd
  · exact ha.effect.down hd

/-- **A runtime that is down stays down.** -/
theorem Path.down {cfg : RuntimeConfig} {nx : Numerics} {s s' : Sys} {ls : List Label}
    (h : TransitionSystem.Path (runtimeSystem cfg nx) s ls s') (hd : s.rt.state.down) :
    s'.rt.state.down :=
  h.preserves (fun s => s.rt.state.down) (fun _ _ _ hd hs => Step.down hs hd) hd

/-- No step removes a directory of the store. -/
theorem Step.dirs {cfg : RuntimeConfig} {nx : Numerics} {s s' : Sys} {l : Label}
    (h : Step cfg nx s l s') : s.rt.audit.Grows s'.rt.audit := by
  rcases step_cases h with ⟨id, op, -, -, rfl⟩ | ⟨id, pc, ch, rt', next, -, -, ha, rfl⟩
  · exact .refl _
  · exact ha.effect.dirs

/-- A stored lease is the one before, up to its sequence number, or the one
this step has issued. -/
theorem Step.lease_cases {cfg : RuntimeConfig} {nx : Numerics} {s s' : Sys} {l : Label}
    (h : Step cfg nx s l s') {lease' : SessionLease} (hs' : s'.rt.session = some lease') :
    (∃ lease, s.rt.session = some lease ∧ (lease' = lease ∨ lease' = lease.next) ∧
      ∀ id ch grant, l ≠ .step id .openSession ch (.returned (.ok (.session grant)))) ∨
    ∃ id trial_id skill session_id token now grant,
      l = .step id .openSession (.drawn session_id token now) (.returned (.ok (.session grant))) ∧
      lease' = PolicyRuntime.newLease cfg s.rt trial_id skill session_id token now := by
  rcases step_cases h with ⟨id, op, rfl, -, rfl⟩ | ⟨id, pc, ch, rt', next, rfl, -, ha, rfl⟩
  · exact .inl ⟨lease', hs', .inl rfl, by simp⟩
  · rw [Sys.setCall_rt] at hs'
    by_cases hpc : pc = .openSession
    · subst hpc
      cases ha with
      | @openSession session_id token now r _ he =>
          rcases s.rt.openSession_cases cfg session_id token now with ⟨e, hc⟩
            | ⟨trial, skill, -, -, -, -, hc⟩
          · cases he.symm.trans hc
            exact .inl ⟨lease', hs', .inl rfl, by simp [returning, Except.map]⟩
          · cases he.symm.trans hc
            cases hs'
            exact .inr ⟨_, _, _, _, _, _, _, rfl, rfl⟩
    · left
      have hother : ∀ id' ch' grant, Label.step id pc ch next
          ≠ .step id' .openSession ch' (.returned (.ok (.session grant))) := by
        intro id' ch' grant heq
        cases heq
        exact hpc rfl
      cases ha.effect with
      | frame hf =>
          rcases hf.session with hsame | hnone
          · exact ⟨lease', hsame.symm.trans hs', .inl rfl, hother⟩
          · rw [hnone] at hs'
            cases hs'
      | opened => exact absurd rfl hpc
      | finished hs =>
          cases hs'
          exact ⟨_, hs, .inr rfl, hother⟩
      | refused => cases hs'
      | acquire | release | began | admitted | entered | left =>
          exact ⟨lease', hs', .inl rfl, hother⟩

/-! ## §4. The execution lock and the inference in flight. -/

/-- **Who holds the lock, and what is in flight.** -/
structure LockInv (s : Sys) : Prop where
  lock : ∀ id, s.rt.execution_lock = some id ↔
    ∃ c, s.calls id = some c ∧ c.holdsLock = true
  busy : ∀ id c, s.calls id = some c → c.serving.isSome = true → s.rt.in_flight = 1
  idle : (∀ id c, s.calls id = some c → c.serving = none) → s.rt.in_flight = 0

/-- Two lock-holding calls are the same call. -/
theorem LockInv.sole {s : Sys} (h : LockInv s) {i j : Nat} {c c' : CallState}
    (hi : s.calls i = some c) (hci : c.holdsLock = true)
    (hj : s.calls j = some c') (hcj : c'.holdsLock = true) : j = i := by
  have h1 := (h.lock i).mpr ⟨c, hi, hci⟩
  have h2 := (h.lock j).mpr ⟨c', hj, hcj⟩
  have h3 := h1.symm.trans h2
  cases h3
  rfl

/-- While a call holds the lock without serving, nobody serves. -/
theorem LockInv.none_serving {s : Sys} (h : LockInv s) {i : Nat} {c : CallState}
    (hi : s.calls i = some c) (hc : c.holdsLock = true) (hs : c.serving = none) :
    ∀ j c', s.calls j = some c' → c'.serving = none := by
  intro j c' hj
  cases hsv : c'.serving with
  | none => rfl
  | some p =>
      have hlock := CallState.holdsLock_of_serving (c := c') (by simp [hsv])
      have := h.sole hi hc hj hlock
      subst this
      rw [hi] at hj
      cases hj
      rw [hs] at hsv
      cases hsv

/-- With the lock free nobody serves. -/
theorem LockInv.none_serving_of_free {s : Sys} (h : LockInv s)
    (hfree : s.rt.execution_lock = none) :
    ∀ j c', s.calls j = some c' → c'.serving = none := by
  intro j c' hj
  cases hsv : c'.serving with
  | none => rfl
  | some p =>
      have hlock := CallState.holdsLock_of_serving (c := c') (by simp [hsv])
      have := (h.lock j).mpr ⟨c', hj, hlock⟩
      rw [hfree] at this
      cases this

/-- A call keeping its relation to lock and requests keeps the invariant. -/
theorem LockInv.frame {s : Sys} {id : Nat} {c : CallState} {rt' : PolicyRuntime}
    {next : CallState} (h : LockInv s) (hc : s.calls id = some c)
    (hlock : rt'.execution_lock = s.rt.execution_lock) (hin : rt'.in_flight = s.rt.in_flight)
    (hnl : next.holdsLock = c.holdsLock) (hns : next.serving = c.serving) :
    LockInv (s.setCall rt' id next) := by
  refine ⟨?_, ?_, ?_⟩
  · intro j
    show rt'.execution_lock = some j ↔ _
    rw [hlock, h.lock j]
    by_cases hj : j = id
    · subst hj
      simp [hc, hnl]
    · rw [Sys.setCall_other s rt' next hj]
  · intro j c' hj hs
    show rt'.in_flight = 1
    rw [hin]
    rcases Sys.setCall_calls_eq hj with ⟨rfl, rfl⟩ | ⟨-, hold⟩
    · exact h.busy j c hc (by rw [← hns]; exact hs)
    · exact h.busy j c' hold hs
  · intro hnone
    show rt'.in_flight = 0
    rw [hin]
    apply h.idle
    intro j c' hj
    by_cases hje : j = id
    · subst hje
      rw [hc] at hj
      cases hj
      rw [← hns]
      exact hnone j next (Sys.setCall_self _ _ _ _)
    · exact hnone j c' (by rw [Sys.setCall_other s rt' next hje]; exact hj)

/-- **A step of a call keeps the lock invariant.** -/
theorem LockInv.effect {s : Sys} {id : Nat} {pc : Pc} {rt' : PolicyRuntime} {next : CallState}
    (h : LockInv s) (hpc : s.calls id = some (.running pc)) (he : Effect id s.rt pc rt' next) :
    LockInv (s.setCall rt' id next) := by
  cases he with
  | frame hf hl hs => exact h.frame hpc hf.lock hf.in_flight hl hs
  | began | opened | finished => exact h.frame hpc rfl rfl rfl rfl
  | entered hl he => exact h.frame hpc rfl rfl hl (CallState.serving_of_entered he)
  | @refused pc request lease_ref code f hl he =>
      have hs : (CallState.running pc).serving = some (request, lease_ref) :=
        CallState.serving_of_entered he
      exact h.frame hpc rfl rfl hl.symm hs.symm
  | @acquire pc pc' hfree hl hs _ hl' hs' _ =>
      refine ⟨?_, ?_, ?_⟩
      · intro j
        show some id = some j ↔ _
        by_cases hj : j = id
        · subst hj
          simp [hl']
        · rw [Sys.setCall_other _ _ _ hj, ← h.lock j, hfree]
          simp [Ne.symm hj]
      · -- nobody served before, and the new holder does not serve either
        intro j c' hj hsv
        rcases Sys.setCall_calls_eq hj with ⟨-, rfl⟩ | ⟨-, hold⟩
        · rw [CallState.serving_running, hs'] at hsv
          cases hsv
        · rw [h.none_serving_of_free hfree j c' hold] at hsv
          cases hsv
      · intro _
        exact h.idle (h.none_serving_of_free hfree)
  | release hl hs hl' hs' _ =>
      have hnone := h.none_serving hpc hl hs
      refine ⟨?_, ?_, ?_⟩
      · intro j
        show none = some j ↔ _
        constructor
        · intro hj
          cases hj
        · rintro ⟨c, hj, hc⟩
          rcases Sys.setCall_calls_eq hj with ⟨-, rfl⟩ | ⟨hne, hold⟩
          · rw [hl'] at hc
            cases hc
          · exact absurd (h.sole hpc hl hold hc) hne
      · intro j c' hj hsv
        rcases Sys.setCall_calls_eq hj with ⟨-, rfl⟩ | ⟨-, hold⟩
        · rw [hs'] at hsv
          cases hsv
        · rw [hnone j c' hold] at hsv
          cases hsv
      · intro _
        exact h.idle hnone
  | @admitted request lease hadm =>
      -- the holder starts to serve: from none to one
      have hzero : s.rt.in_flight = 0 := h.idle (h.none_serving hpc rfl rfl)
      refine ⟨?_, ?_, ?_⟩
      · intro j
        show s.rt.execution_lock = some j ↔ _
        rw [h.lock j]
        by_cases hj : j = id
        · subst hj
          simp [hpc, Pc.holdsLock]
        · rw [Sys.setCall_other _ _ _ hj]
      · intro _ _ _ _
        show s.rt.in_flight + 1 = 1
        omega
      · intro hnone
        have := hnone id _ (Sys.setCall_self _ _ _ _)
        cases this
  | @left request lease_ref out =>
      -- the holder was the one that served
      have hone : s.rt.in_flight = 1 := h.busy id _ hpc rfl
      refine ⟨?_, ?_, ?_⟩
      · intro j
        show s.rt.execution_lock = some j ↔ _
        rw [h.lock j]
        by_cases hj : j = id
        · subst hj
          simp [hpc, Pc.holdsLock]
        · rw [Sys.setCall_other _ _ _ hj]
      · intro j c' hj hsv
        rcases Sys.setCall_calls_eq hj with ⟨-, rfl⟩ | ⟨hne, hold⟩
        · cases hsv
        · have := h.sole hpc rfl hold (CallState.holdsLock_of_serving hsv)
          exact absurd this hne
      · intro _
        show s.rt.in_flight - 1 = 0
        omega

/-- A call that begins neither holds the lock nor serves. -/
theorem Op.start_holdsLock (nx : Numerics) (op : Op) :
    (op.start nx).holdsLock = false ∧ (op.start nx).serving = none := by
  unfold Op.start
  split
  all_goals (try split) <;> (try split) <;> exact ⟨rfl, rfl⟩

/-- No method has a response at its start. -/
theorem Op.start_answered {nx : Numerics} (op : Op) : (op.start nx).answered = none := by
  unfold Op.start
  split
  all_goals (try split) <;> (try split) <;> rfl

/-- **Every step keeps the account** of the lock and of the inference in flight. -/
theorem LockInv.step {cfg : RuntimeConfig} {nx : Numerics} {s s' : Sys} {l : Label}
    (h : LockInv s) (hs : Step cfg nx s l s') : LockInv s' := by
  rcases step_cases hs with ⟨id, op, -, hnone, rfl⟩ | ⟨id, pc, ch, rt', next, -, hpc, ha, rfl⟩
  · obtain ⟨hl, hsv⟩ := op.start_holdsLock nx
    refine ⟨?_, ?_, ?_⟩
    · intro j
      show s.rt.execution_lock = some j ↔ _
      rw [h.lock j]
      by_cases hj : j = id
      · subst hj
        simp [hnone, hl]
      · rw [Sys.setCall_other _ _ _ hj]
    · intro j c hj hc
      rcases Sys.setCall_calls_eq hj with ⟨-, rfl⟩ | ⟨-, hold⟩
      · rw [hsv] at hc
        cases hc
      · exact h.busy j c hold hc
    · intro hno
      apply h.idle
      intro j c hj
      apply hno j c
      have hne : j ≠ id := by
        rintro rfl
        rw [hnone] at hj
        cases hj
      rw [Sys.setCall_other _ _ _ hne]
      exact hj
  · exact h.effect hpc ha.effect

/-- **The lock invariant holds in every reachable state.** -/
theorem RuntimeRun.lockInv {cfg : RuntimeConfig} {nx : Numerics} {ls : List Label} {s : Sys}
    (h : RuntimeRun cfg nx ls s) : LockInv s := by
  refine TransitionSystem.Run.invariant_state LockInv ?_ ?_ h
  · rintro s ⟨dirs, rfl⟩
    exact ⟨by simp [PolicyRuntime.init], by simp, by simp [PolicyRuntime.init]⟩
  · intro s l s' hs hst
    exact hs.step hst

end OvenRuntime
