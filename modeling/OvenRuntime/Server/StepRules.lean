/-
  OvenRuntime.Server.StepRules
  ────────────────────────────
  The steps of a call as a relation, one rule per program counter, and the
  inversion of a system step through it.  An invariant of the system is
  proved by cases over `Advance`, each case by the rule of its section.
-/
import OvenRuntime.Server.RuntimeRules
import OvenRuntime.Server.Calls

namespace OvenRuntime

/-! ## §1. The steps of one call. -/

/-- What a step of the call `id` may do to the runtime `rt`. -/
inductive Advance (cfg : RuntimeConfig) (nx : Numerics) (id : Nat) (rt : PolicyRuntime) :
    Pc → Choice → PolicyRuntime → CallState → Prop
  | status : Advance cfg nx id rt .status .go rt (.returned (.ok (.status rt.status)))
  | prepareEnter {skill timeout now now' r rt'} :
      rt.prepareEnter timeout now now' = (r, rt') →
      Advance cfg nx id rt (.prepareEnter skill timeout) (.clocks now now') rt'
        (afterDrain skill r)
  | prepareDrain {skill deadline now r rt'} :
      rt.drain deadline now = (r, rt') →
      Advance cfg nx id rt (.prepareDrain skill deadline) (.clock now) rt' (afterDrain skill r)
  | prepareAcquire {skill} : rt.execution_lock = none →
      Advance cfg nx id rt (.prepareAcquire skill) .acquired
        { rt with execution_lock := some id } (.running (.prepareLoad skill))
  | prepareTimeout {skill} :
      Advance cfg nx id rt (.prepareAcquire skill) .timedOut rt (.running .prepareBusy)
  | prepareBusy {e} :
      Advance cfg nx id rt .prepareBusy .go (rt.failed .INFERENCE_BUSY) (.returned (.error e))
  | prepareLoad {skill identity} : identity.skill = skill →
      Advance cfg nx id rt (.prepareLoad skill) (.loaded (.ok identity)) rt
        (.running (.prepareRelease skill (.ok identity)))
  | prepareRaise {skill r e} :
      Advance cfg nx id rt (.prepareLoad skill) (.loaded r) rt (.running (.prepareFailed e))
  | prepareFailed {e} :
      Advance cfg nx id rt (.prepareFailed e) .go (rt.failed .POLICY_FAILED)
        (.running (.prepareRelease [] (.error (prepareFault e))))
  | prepareRelease {skill loaded} :
      Advance cfg nx id rt (.prepareRelease skill loaded) .go { rt with execution_lock := none }
        (match loaded with
          | .ok identity => .running (.prepareCommit skill identity)
          | .error e => .returned (.error e))
  | prepareCommit {skill identity r rt'} :
      rt.prepareCommit skill identity = (r, rt') →
      Advance cfg nx id rt (.prepareCommit skill identity) .go rt' (returning .status r)
  | beginAcquire {trial_id root_seed} : rt.execution_lock = none →
      Advance cfg nx id rt (.beginAcquire trial_id root_seed) .acquired
        { rt with execution_lock := some id } (.running (.beginSection trial_id root_seed))
  | beginTimeout {trial_id root_seed e} :
      Advance cfg nx id rt (.beginAcquire trial_id root_seed) .timedOut rt (.returned (.error e))
  | beginSection {trial_id root_seed reset io r rt'} :
      rt.beginSection trial_id root_seed reset io = (r, rt') →
      Advance cfg nx id rt (.beginSection trial_id root_seed) (.begun reset io) rt' (afterBegin r)
  | beginFailed {f} :
      Advance cfg nx id rt .beginFailed .go (rt.failed .POLICY_FAILED)
        (.running (.beginRelease (.error (.fault f))))
  | beginRelease {out} :
      Advance cfg nx id rt (.beginRelease out) .go { rt with execution_lock := none }
        (returning .status out)
  | openSession {session_id token now r rt'} :
      rt.openSession cfg session_id token now = (r, rt') →
      Advance cfg nx id rt .openSession (.drawn session_id token now) rt' (returning .session r)
  | closeSession {session_id r rt'} :
      rt.closeSession session_id = (r, rt') →
      Advance cfg nx id rt (.closeSession session_id) .go rt' (returning .status r)
  | endTrial {io r rt'} :
      rt.endTrial io = (r, rt') →
      Advance cfg nx id rt .endTrial (.io io) rt' (returning .trial r)
  | markAmbiguous {session_id sequence io r rt'} :
      rt.markAmbiguous session_id sequence io = (r, rt') →
      Advance cfg nx id rt (.markAmbiguous session_id sequence) (.io io) rt'
        (returning (fun r => .terminated r.1 r.2) r)
  | inferAcquire {request} : rt.execution_lock = none →
      Advance cfg nx id rt (.inferAcquire request) .acquired
        { rt with execution_lock := some id } (.running (.inferEnter request))
  | inferTimeout {request e} :
      Advance cfg nx id rt (.inferAcquire request) .timedOut rt (.returned (.error e))
  | inferEnter {request now r rt'} :
      rt.inferEnter request now = (r, rt') →
      Advance cfg nx id rt (.inferEnter request) (.clock now) rt'
        (match r with
          | .ok lease_ref => .running (.inferPolicy request lease_ref)
          | .error e => .running (.inferRelease (.error e)))
  | inferRaise {request lease_ref r e} :
      Advance cfg nx id rt (.inferPolicy request lease_ref) (.inferred r) rt
        (.running (.inferFailed request lease_ref e))
  | inferPolicy {request lease_ref result inf} :
      PolicyRuntime.hashInference nx request lease_ref result = .ok inf →
      Advance cfg nx id rt (.inferPolicy request lease_ref) (.inferred (.ok result)) rt
        (.running (.inferRecord inf))
  | inferRecord {inf io r rt'} :
      rt.inferRecord nx inf io = (r, rt') →
      Advance cfg nx id rt (.inferRecord inf) (.io io) rt'
        (match r with
          | .ok () => .running (.inferFinish inf)
          | .error e => .running (.inferFailed inf.request inf.lease_ref e))
  | inferFailed {request lease_ref e out rt'} :
      rt.inferFail e = (out, rt') →
      Advance cfg nx id rt (.inferFailed request lease_ref e) .go rt'
        (.running (.inferLeave request lease_ref out))
  | inferFinish {inf out rt'} :
      rt.inferFinish inf = (out, rt') →
      Advance cfg nx id rt (.inferFinish inf) .go rt'
        (.running (.inferLeave inf.request inf.lease_ref out))
  | inferLeave {request lease_ref out} :
      Advance cfg nx id rt (.inferLeave request lease_ref out) .go
        { rt with in_flight := rt.in_flight - 1 } (.running (.inferRelease out))
  | inferRelease {out} :
      Advance cfg nx id rt (.inferRelease out) .go { rt with execution_lock := none }
        (returning .response out)
  | abortAcquire {reason} : rt.execution_lock = none →
      Advance cfg nx id rt (.abortAcquire reason) .acquired
        { rt with execution_lock := some id } (.running (.abortSection reason))
  | abortTimeout {reason} :
      Advance cfg nx id rt (.abortAcquire reason) .timedOut rt (.running .abortTimedOut)
  | abortTimedOut {e} :
      Advance cfg nx id rt .abortTimedOut .go (rt.failed .INFERENCE_TIMEOUT) (.returned (.error e))
  | abortSection {reason io out rt'} :
      rt.abortSection reason io = (out, rt') →
      Advance cfg nx id rt (.abortSection reason) (.io io) rt' (.running (.abortRelease out))
  | abortRelease {out} :
      Advance cfg nx id rt (.abortRelease out) .go { rt with execution_lock := none }
        (returning (fun r => .terminated r.1 r.2) out)
  | closeSection {io r rt'} :
      rt.closeSection io = (r, rt') →
      Advance cfg nx id rt .closeSection (.io io) rt'
        (match r with
          | .ok audit_error => .running (.closeBackend audit_error)
          | .error e => .returned (.error e))
  | closeBackend {audit_error r} :
      Advance cfg nx id rt (.closeBackend audit_error) (.backendClosed r) rt
        (match audit_error with
          | some e => .returned (.error e)
          | none => returning (fun _ => .closed) r)

/-- **Inversion**: every step of a call is one of these. -/
theorem advance_of_callStep {cfg : RuntimeConfig} {nx : Numerics} {id : Nat} {pc : Pc}
    {ch : Choice} {rt rt' : PolicyRuntime} {next : CallState}
    (h : callStep cfg nx id pc ch rt = some (rt', next)) : Advance cfg nx id rt pc ch rt' next := by
  unfold callStep at h
  split at h
  case h_7 skill r =>
    cases r with
    | ok identity =>
        simp only at h
        by_cases hid : identity.skill = skill
        · rw [if_neg (by simpa using hid)] at h
          cases h
          exact .prepareLoad hid
        · rw [if_pos hid] at h
          cases h
          exact .prepareRaise
    | error e =>
        cases h
        exact .prepareRaise
  case h_23 request lease_ref r =>
    cases r with
    | error e =>
        cases h
        exact .inferRaise
    | ok result =>
        simp only at h
        split at h
        · cases h
          exact .inferRaise
        · rename_i inf hinf
          cases h
          exact .inferPolicy hinf
  case h_35 audit_error r =>
    cases h
    exact .closeBackend
  case h_36 => cases h
  -- taking the lock is guarded by the lock being free
  case h_4 | h_11 | h_20 | h_29 =>
    unfold acquire at h
    split at h
    · cases h
      constructor
      assumption
    · cases h
  -- every other step runs one section or changes no shared state
  all_goals
    simp only [release, branch, PolicyRuntime.failThenRaise_eq, Option.some.injEq,
      Prod.mk.injEq] at h
    obtain ⟨rfl, rfl⟩ := h
    constructor
  all_goals rfl

/-! ## §2. The steps of the system. -/

/-- Inversion of a system step: a call begins, or a running call advances;
the other calls do not move. -/
theorem step_cases {cfg : RuntimeConfig} {nx : Numerics} {s s' : Sys} {l : Label}
    (h : Step cfg nx s l s') :
    (∃ id op, l = .call id op ∧ s.calls id = none ∧ s' = s.setCall s.rt id (op.start nx)) ∨
    (∃ id pc ch rt' next, l = .step id pc ch next ∧ s.calls id = some (.running pc) ∧
      Advance cfg nx id s.rt pc ch rt' next ∧ s' = s.setCall rt' id next) := by
  cases h with
  | call hid => exact .inl ⟨_, _, rfl, hid, rfl⟩
  | step hpc hst => exact .inr ⟨_, _, _, _, _, rfl, hpc, advance_of_callStep hst, rfl⟩

/-- The state of a call after a step: the new one of the call that moved, the
old one of any other. -/
theorem Sys.setCall_calls_eq {s : Sys} {rt : PolicyRuntime} {id j : Nat} {c c' : CallState}
    (h : (s.setCall rt id c).calls j = some c') :
    (j = id ∧ c' = c) ∨ (j ≠ id ∧ s.calls j = some c') := by
  by_cases hj : j = id
  · subst hj
    rw [Sys.setCall_self] at h
    cases h
    exact .inl ⟨rfl, rfl⟩
  · rw [Sys.setCall_other s rt c hj] at h
    exact .inr ⟨hj, h⟩

/-- A call that has returned stays as it is. -/
theorem Path.returned {cfg : RuntimeConfig} {nx : Numerics} {s s' : Sys} {ls : List Label}
    {id : Nat} {out : Except Exn Result}
    (h : TransitionSystem.Path (runtimeSystem cfg nx) s ls s') (hc : s.calls id = some (.returned out)) :
    s'.calls id = some (.returned out) := by
  refine h.preserves (fun s => s.calls id = some (.returned out)) ?_ hc
  intro s l s' hc hst
  rcases step_cases hst with ⟨i, op, -, hnone, rfl⟩ | ⟨i, pc, ch, rt', next, -, hpc, -, rfl⟩
  · have hne : id ≠ i := by
      rintro rfl
      rw [hc] at hnone
      cases hnone
    rw [Sys.setCall_other _ _ _ hne]
    exact hc
  · have hne : id ≠ i := by
      rintro rfl
      rw [hc] at hpc
      cases hpc
    rw [Sys.setCall_other _ _ _ hne]
    exact hc

/-- The hashes of an inference are those of its parts. -/
structure PolicyRuntime.Hashed (nx : Numerics) (inf : PolicyRuntime.Inference) : Prop where
  observation : nx.stable_tree_hash (.map inf.request.observation) = .ok inf.observation_hash
  request : nx.stable_tree_hash (.map (requestHashFields inf.request inf.observation_hash))
    = .ok inf.request_hash
  action : nx.stable_tree_hash inf.result.actions = .ok inf.action_hash

/-- The inference that leaves the hashing is the one of its request. -/
theorem PolicyRuntime.hashInference_ok {nx : Numerics} {request : InferenceRequest}
    {lease_ref : Nat} {result : BackendResult} {inf : PolicyRuntime.Inference}
    (h : PolicyRuntime.hashInference nx request lease_ref result = .ok inf) :
    inf.request = request ∧ inf.lease_ref = lease_ref ∧ inf.result = result ∧
      PolicyRuntime.Hashed nx inf := by
  unfold PolicyRuntime.hashInference at h
  cases h1 : nx.stable_tree_hash (.map request.observation) with
  | error e => simp [h1, bind, Except.bind] at h
  | ok oh =>
      cases h2 : nx.stable_tree_hash (.map (requestHashFields request oh)) with
      | error e => simp [h1, h2, bind, Except.bind] at h
      | ok rh =>
          cases h3 : nx.stable_tree_hash result.actions with
          | error e => simp [h1, h2, h3, bind, Except.bind] at h
          | ok ah =>
              simp only [h1, h2, h3, bind, Except.bind, pure, Except.pure, Except.ok.injEq] at h
              subst h
              exact ⟨rfl, rfl, rfl, h1, h2, h3⟩

end OvenRuntime
