/-
  OvenRuntime.Server.RuntimeRules
  ───────────────────────────────
  What each section of `PolicyRuntime` can do to the shared state, one rule
  per section.  Every exit of the source appears once here, with the exact
  state it leaves; the invariants of the following modules are case analyses
  over these rules and never unfold a section again.
-/
import OvenRuntime.Server.AuditRules
import OvenRuntime.Server.Runtime

namespace OvenRuntime

/-- The lease after one more response. -/
def SessionLease.next (lease : SessionLease) : SessionLease :=
  { lease with next_sequence := lease.next_sequence + 1 }

namespace PolicyRuntime

/-! ## §1. Failing. -/

/-- The state `_fail_locked` leaves. -/
def failed (rt : PolicyRuntime) (code : ErrorCode) : PolicyRuntime :=
  { rt with
    last_error := some code
    session := none
    state := if rt.state.down then rt.state else .FAILED }

/-- `_fail_locked` cannot fail: FAILED is reachable from every live state. -/
@[simp] theorem _fail_locked_eq (rt : PolicyRuntime) (code : ErrorCode) :
    rt._fail_locked code = (.ok (), rt.failed code) := by
  unfold _fail_locked failed _invalidate_session_locked
  by_cases h : rt.state.down
  · have h' : rt.state = .FAILED ∨ rt.state = .STOPPING := h
    simp [h, h']
  · have h' : ¬ (rt.state = .FAILED ∨ rt.state = .STOPPING) := h
    simp [h, h', _transition_locked, ensure_runtime_transition, FAILED_mem_transitions h]

@[simp] theorem failThenRaise_eq {α : Type} (rt : PolicyRuntime) (code : ErrorCode) (e : Exn) :
    (rt.failThenRaise code e : Except Exn α × PolicyRuntime) = (.error e, rt.failed code) := by
  simp [failThenRaise]

@[simp] theorem failed_session (rt : PolicyRuntime) (code : ErrorCode) :
    (rt.failed code).session = none := rfl

@[simp] theorem failed_trial_id (rt : PolicyRuntime) (code : ErrorCode) :
    (rt.failed code).trial_id = rt.trial_id := rfl

@[simp] theorem failed_audit (rt : PolicyRuntime) (code : ErrorCode) :
    (rt.failed code).audit = rt.audit := rfl

@[simp] theorem failed_in_flight (rt : PolicyRuntime) (code : ErrorCode) :
    (rt.failed code).in_flight = rt.in_flight := rfl

@[simp] theorem failed_execution_lock (rt : PolicyRuntime) (code : ErrorCode) :
    (rt.failed code).execution_lock = rt.execution_lock := rfl

@[simp] theorem failed_refs (rt : PolicyRuntime) (code : ErrorCode) :
    (rt.failed code).refs = rt.refs := rfl

/-- After `_fail_locked` the runtime is down. -/
theorem failed_down (rt : PolicyRuntime) (code : ErrorCode) : (rt.failed code).state.down := by
  show (if rt.state.down then rt.state else .FAILED).down
  split
  · assumption
  · exact .inl rfl

theorem failed_of_down {rt : PolicyRuntime} (code : ErrorCode) (h : rt.state.down) :
    (rt.failed code).state = rt.state := by
  show (if rt.state.down then rt.state else .FAILED) = rt.state
  rw [if_pos h]

/-- The stored lease is the active one, whenever a stored lease is ACTIVE. -/
theorem activeLease_eq {rt : PolicyRuntime}
    (h : ∀ lease, rt.session = some lease → lease.state = .ACTIVE) :
    rt.activeLease = rt.session := by
  unfold activeLease
  cases hs : rt.session with
  | none => rfl
  | some lease => simp [h lease hs]

theorem session_of_activeLease {rt : PolicyRuntime} {lease : SessionLease}
    (h : rt.activeLease = some lease) : rt.session = some lease ∧ lease.state = .ACTIVE := by
  unfold activeLease at h
  cases hs : rt.session with
  | none => simp [hs] at h
  | some l =>
      rw [hs] at h
      by_cases ha : l.state = .ACTIVE
      · simp only [ha, if_true, Option.some.injEq] at h
        subst h
        exact ⟨rfl, ha⟩
      · simp [ha] at h

/-! ## §2. `prepare_skill`. -/

/-- The state in which loading starts. -/
def loading (rt : PolicyRuntime) : PolicyRuntime := { rt with state := .LOADING }

/-- The drain loop: it times out, sleeps, starts loading, or finds that the
runtime is no longer draining. -/
theorem drain_cases (rt : PolicyRuntime) (deadline now : ℚ) :
    (∃ e, rt.in_flight ≠ 0 ∧ rt.drain deadline now = (.error e, rt.failed .INFERENCE_TIMEOUT)) ∨
    (rt.in_flight ≠ 0 ∧ rt.drain deadline now = (.ok (.waiting deadline), rt)) ∨
    (rt.in_flight = 0 ∧ rt.state = .DRAINING ∧
      rt.drain deadline now = (.ok .proceed, rt.loading)) ∨
    (∃ e, rt.in_flight = 0 ∧ rt.state ≠ .DRAINING ∧ rt.drain deadline now = (.error e, rt)) := by
  generalize hr : rt.drain deadline now = r
  unfold drain at hr
  by_cases hin : rt.in_flight = 0
  · rw [if_neg (by simpa using hin)] at hr
    by_cases hst : rt.state = .DRAINING
    · right; right; left
      refine ⟨hin, hst, ?_⟩
      rw [← hr]
      simp [_transition_locked, ensure_runtime_transition, hst, RUNTIME_TRANSITIONS, loading]
    · right; right; right
      have hno : RuntimeState.SWITCHING ∉ RUNTIME_TRANSITIONS rt.state := by
        cases h : rt.state <;> simp_all [RUNTIME_TRANSITIONS]
      simp only [_transition_locked, ensure_runtime_transition, hno, if_false] at hr
      exact ⟨_, hin, hst, hr.symm⟩
  · rw [if_pos hin] at hr
    by_cases hrem : deadline - now ≤ 0
    · rw [if_pos hrem, failThenRaise_eq] at hr
      exact .inl ⟨_, hin, hr.symm⟩
    · rw [if_neg hrem] at hr
      exact .inr (.inl ⟨hin, hr.symm⟩)

/-- **The first section of `prepare_skill`.**  It is refused, or no trial is
active: then loading starts, or the drain loop is entered. -/
theorem prepareEnter_cases (rt : PolicyRuntime) (timeout now now' : ℚ) :
    (∃ e, rt.prepareEnter timeout now now' = (.error e, rt)) ∨
    (rt.trial_id = none ∧ rt.state = .DRAINING ∧
      ∃ e, rt.prepareEnter timeout now now' = (.error e, { rt with session := none })) ∨
    (rt.trial_id = none ∧ rt.state = .STARTING ∧
      rt.prepareEnter timeout now now'
        = (.ok .proceed, { rt with session := none, state := .LOADING })) ∨
    (rt.trial_id = none ∧ rt.state = .READY ∧
      rt.prepareEnter timeout now now'
        = ({ rt with session := none, state := .DRAINING }).drain (now + timeout) now') := by
  unfold prepareEnter
  by_cases ht : rt.trial_id = none
  · by_cases hst : rt.state = .FAILED ∨ rt.state = .STOPPING ∨ rt.state = .LOADING
        ∨ rt.state = .SWITCHING
    · left
      simp [ht, hst]
    · right
      simp only [ht, ne_eq, not_true_eq_false, if_false, hst]
      cases h : rt.state with
      | STARTING =>
          right; left
          simp [_transition_locked, ensure_runtime_transition, RUNTIME_TRANSITIONS,
            _invalidate_session_locked, h, ht]
      | READY =>
          right; right
          simp [_transition_locked, ensure_runtime_transition, RUNTIME_TRANSITIONS,
            _invalidate_session_locked, h, ht]
      | DRAINING =>
          left
          simp [_transition_locked, ensure_runtime_transition, RUNTIME_TRANSITIONS,
            _invalidate_session_locked, h, ht]
      | LOADING => simp [h] at hst
      | SWITCHING => simp [h] at hst
      | FAILED => simp [h] at hst
      | STOPPING => simp [h] at hst
  · left
    simp [ht]

/-- The state with a newly loaded skill. -/
def prepared (rt : PolicyRuntime) (skill : PyStr) (identity : BackendIdentity) : PolicyRuntime :=
  { rt with
    active_skill := some skill
    identity := some identity
    generation := rt.generation + 1 }

/-- **The last section of `prepare_skill`** becomes READY only out of LOADING;
the skill and the generation change in any case. -/
theorem prepareCommit_cases (rt : PolicyRuntime) (skill : PyStr) (identity : BackendIdentity) :
    (∃ st, rt.state = .LOADING ∧ rt.prepareCommit skill identity
      = (.ok st, { rt.prepared skill identity with state := .READY })) ∨
    (∃ e, rt.state ≠ .LOADING ∧
      rt.prepareCommit skill identity = (.error e, rt.prepared skill identity)) := by
  generalize hr : rt.prepareCommit skill identity = r
  unfold prepareCommit at hr
  by_cases h : rt.state = .LOADING
  · simp only [_transition_locked, ensure_runtime_transition, h, RUNTIME_TRANSITIONS,
      List.mem_cons, true_or, if_true] at hr
    exact .inl ⟨_, h, hr.symm⟩
  · have hno : RuntimeState.READY ∉ RUNTIME_TRANSITIONS rt.state := by
      cases hs : rt.state <;> simp_all [RUNTIME_TRANSITIONS]
    simp only [_transition_locked, ensure_runtime_transition, hno, if_false] at hr
    exact .inr ⟨_, h, hr.symm⟩

/-! ## §3. Trials. -/

/-- **`begin_trial`** starts a trial that nobody recorded before, or it
raises; an audit error leaves at most a directory behind. -/
theorem beginSection_cases (rt : PolicyRuntime) (trial_id : PyStr) (root_seed : Int)
    (reset : Except Exn Unit) (io : Io) :
    (∃ e audit, audit.active = rt.audit.active ∧ rt.audit.Grows audit ∧
      rt.beginSection trial_id root_seed reset io = (.error e, { rt with audit := audit })) ∨
    (∃ st skill audit, rt.state = .READY ∧ rt.trial_id = none ∧ rt.active_skill = some skill ∧
      rt.audit.active = none ∧ (rt.audit.dirs trial_id).isSome = false ∧
      rt.audit.Grows audit ∧ (audit.dirs trial_id).isSome = true ∧
      trial_id.encodable = true ∧ skill.encodable = true ∧
      audit.active = some { trial_id, skill, generation := rt.generation, root_seed } ∧
      rt.beginSection trial_id root_seed reset io
        = (.ok st, { rt with audit := audit, trial_id := some trial_id,
                             trial_root_seed := some root_seed })) := by
  have hraise : ∀ e : Exn, ∃ e' audit, audit.active = rt.audit.active ∧ rt.audit.Grows audit ∧
      ((.error e, rt) : Except Exn Status × PolicyRuntime) = (.error e', { rt with audit := audit }) :=
    fun e => ⟨e, rt.audit, rfl, TrialAuditStore.Grows.refl _, rfl⟩
  generalize hr : rt.beginSection trial_id root_seed reset io = r
  unfold beginSection at hr
  by_cases hst : rt.state = .READY
  · by_cases ht : rt.trial_id = none
    · rw [if_neg (by simpa using hst), if_neg (by simpa using ht)] at hr
      split at hr
      · exact .inl (hr ▸ hraise _)
      · rename_i skill hsk
        split at hr
        · exact .inl (hr ▸ hraise _)
        · obtain ⟨hg, hc⟩ := rt.audit.begin_cases trial_id skill rt.generation root_seed io
          split at hr
          · rename_i e audit hb
            rw [hb] at hg hc
            rcases hc with ⟨e', he, ha⟩ | ⟨a, -, hok, -⟩
            · exact .inl ⟨e, audit, ha, hg, hr.symm⟩
            · cases hok
          · rename_i active audit hb
            rw [hb] at hg hc
            rcases hc with ⟨e', he, -⟩ | ⟨a, ha, hok, hs, hnone, hd, hd', henc⟩
            · cases he
            · cases hok
              subst ha
              exact .inr ⟨_, skill, audit, hst, ht, hsk, hnone, hd, hg, hd', henc.1, henc.2,
                hs, hr.symm⟩
    · rw [if_neg (by simpa using hst), if_pos ht] at hr
      exact .inl (hr ▸ hraise _)
  · rw [if_pos hst] at hr
    exact .inl (hr ▸ hraise _)

/-- The state without a trial. -/
def trialOver (rt : PolicyRuntime) (audit : TrialAuditStore) : PolicyRuntime :=
  { rt with audit := audit, trial_id := none, trial_root_seed := none }

/-- The three ways an audit call that ends the trial leaves the runtime, as
`end_trial`, `abort` and `mark_transport_ambiguous` handle it: a fault fails
the runtime, another exception does not. -/
inductive AuditRaised (rt : PolicyRuntime) : Exn → PolicyRuntime → Prop
  | fault (f : RuntimeFault) (audit : TrialAuditStore) :
      audit.active = rt.audit.active → rt.audit.Grows audit →
      AuditRaised rt (.fault f) (({ rt with audit := audit }).failed .AUDIT_COMMIT_FAILED)
  | error (e : PyError) (audit : TrialAuditStore) :
      audit.active = rt.audit.active → rt.audit.Grows audit →
      AuditRaised rt (.error e) { rt with audit := audit }

/-- **`end_trial`** is refused, raises, or commits the active trial. -/
theorem endTrial_cases (rt : PolicyRuntime) (io : Io) :
    (∃ e, (rt.activeLease ≠ none ∨ rt.trial_id = none) ∧ rt.endTrial io = (.error e, rt)) ∨
    (∃ e rt', rt.activeLease = none ∧ rt.trial_id ≠ none ∧ (rt.audit.end io).1 = .error e ∧
      AuditRaised rt e rt' ∧ rt.endTrial io = (.error e, rt')) ∨
    (∃ a audit, rt.activeLease = none ∧ rt.trial_id ≠ none ∧ (rt.audit.end io).1 = .ok a.summary ∧
      rt.audit.active = some a ∧ audit.active = none ∧ rt.audit.Grows audit ∧
      rt.endTrial io = (.ok a.summary, rt.trialOver audit)) := by
  generalize hr : rt.endTrial io = r
  unfold endTrial at hr
  by_cases hl : rt.activeLease = none
  · by_cases ht : rt.trial_id = none
    · rw [if_neg (by simpa using hl), if_pos ht] at hr
      exact .inl ⟨_, .inr ht, hr.symm⟩
    · rw [if_neg (by simpa using hl), if_neg ht] at hr
      right
      obtain ⟨hg, hc⟩ := rt.audit.end_cases io
      split at hr
      · rename_i f audit hb
        rw [hb] at hg hc
        rcases hc with ⟨e, -, ha⟩ | ⟨a, -, hok, -⟩
        · rw [failThenRaise_eq] at hr
          exact .inl ⟨_, _, hl, ht, by rw [hb], .fault f audit ha hg, hr.symm⟩
        · cases hok
      · rename_i e audit hf hb
        rw [hb] at hg hc
        rcases hc with ⟨e', he, ha⟩ | ⟨a, -, hok, -⟩
        · cases e with
          | fault f => exact absurd rfl (hf f)
          | error e => exact .inl ⟨_, _, hl, ht, by rw [hb], .error e audit ha hg, hr.symm⟩
        · cases hok
      · rename_i summary audit hb
        rw [hb] at hg hc
        rcases hc with ⟨e', he, -⟩ | ⟨a, hact, hok, hs⟩
        · cases he
        · cases hok
          exact .inr ⟨a, audit, hl, ht, by rw [hb], hact, hs, hg, hr.symm⟩
  · rw [if_pos hl] at hr
    exact .inl ⟨_, .inl hl, hr.symm⟩

/-- What `abort` and `mark_ambiguous` of the store do to the active trial. -/
theorem _terminate_outcome (rt : PolicyRuntime) {status : TrialStatus} {reason : PyStr}
    {sequence : Option Int} {io : Io} {r : Except Exn (Option TrialRecord)}
    {audit : TrialAuditStore}
    (h : rt.audit._terminate status reason sequence io = (r, audit)) :
    rt.audit.Grows audit ∧
    ((∃ e, r = .error e ∧ audit.active = rt.audit.active) ∨
     (∃ out, r = .ok out ∧ audit.active = none)) := by
  obtain ⟨hg, hc⟩ := rt.audit._terminate_cases status reason sequence io
  rw [h] at hg hc
  refine ⟨hg, ?_⟩
  rcases hc with ⟨hn, he⟩ | ⟨a, ha, ⟨e, he, hs⟩ | ⟨he, hs⟩⟩
  · obtain ⟨rfl, rfl⟩ := Prod.mk.inj he
    exact .inr ⟨_, rfl, hn⟩
  · exact .inl ⟨e, he, by rw [ha]; exact hs⟩
  · exact .inr ⟨_, he, hs⟩

/-- **`abort`** drops the session in any case; the trial is over unless the
audit call raises. -/
theorem abortSection_cases (rt : PolicyRuntime) (reason : PyStr) (io : Io) :
    (∃ e rt', (rt.audit.abort reason io).1 = .error e ∧
      AuditRaised { rt with session := none } e rt' ∧
      rt.abortSection reason io = (.error e, rt')) ∨
    (∃ summary out audit, (rt.audit.abort reason io).1 = .ok summary ∧
      audit.active = none ∧ rt.audit.Grows audit ∧
      rt.abortSection reason io = (.ok out, ({ rt with session := none }).trialOver audit)) := by
  generalize hr : rt.abortSection reason io = r
  unfold abortSection at hr
  simp only [_invalidate_session_locked] at hr
  split at hr
  · rename_i f audit hb
    obtain ⟨hg, ⟨e, he, ha⟩ | ⟨out, he, -⟩⟩ := rt._terminate_outcome hb
    · rw [failThenRaise_eq] at hr
      exact .inl ⟨_, _, by rw [hb], .fault f audit ha hg, hr.symm⟩
    · cases he
  · rename_i e audit hf hb
    obtain ⟨hg, ⟨e', he, ha⟩ | ⟨out, he, -⟩⟩ := rt._terminate_outcome hb
    · cases e with
      | fault f => exact absurd rfl (hf f)
      | error e => exact .inl ⟨_, _, by rw [hb], .error e audit ha hg, hr.symm⟩
    · cases he
  · rename_i summary audit hb
    obtain ⟨hg, ⟨e, he, -⟩ | ⟨out, -, ha⟩⟩ := rt._terminate_outcome hb
    · cases he
    · exact .inr ⟨summary, _, audit, by rw [hb], ha, hg, hr.symm⟩

theorem ambiguityReason_encodable : ambiguityReason.encodable = true := by decide

/-- **`mark_transport_ambiguous`** does nothing unless the stored lease has
this id; then it drops the lease, and fails unless a non-fault is raised. -/
theorem markAmbiguous_cases (rt : PolicyRuntime) (session_id : PyStr) (sequence : Int) (io : Io) :
    ((∀ lease, rt.session = some lease → lease.session_id ≠ session_id) ∧
      rt.markAmbiguous session_id sequence io = (.ok (rt.state, none), rt)) ∨
    (∃ lease, rt.session = some lease ∧ lease.session_id = session_id ∧
      ((∃ e rt', (rt.audit.mark_ambiguous ambiguityReason sequence io).1 = .error e ∧
          AuditRaised { rt with session := none } e rt' ∧
          rt.markAmbiguous session_id sequence io = (.error e, rt')) ∨
       (∃ summary out audit,
          (rt.audit.mark_ambiguous ambiguityReason sequence io).1 = .ok summary ∧
          audit.active = none ∧ rt.audit.Grows audit ∧
          rt.markAmbiguous session_id sequence io
            = (.ok out, (rt.trialOver audit).failed .SERVER_FAILED)))) := by
  generalize hr : rt.markAmbiguous session_id sequence io = r
  unfold markAmbiguous at hr
  split at hr
  · rename_i hs
    exact .inl ⟨by simp [hs], hr.symm⟩
  · rename_i lease hs
    by_cases hid : lease.session_id = session_id
    · right
      refine ⟨lease, hs, hid, ?_⟩
      rw [if_neg (by simpa using hid)] at hr
      simp only [_invalidate_session_locked] at hr
      split at hr
      · rename_i f audit hb
        obtain ⟨hg, ⟨e, he, ha⟩ | ⟨out, he, -⟩⟩ := rt._terminate_outcome hb
        · rw [failThenRaise_eq] at hr
          exact .inl ⟨_, _, by rw [hb], .fault f audit ha hg, hr.symm⟩
        · cases he
      · rename_i e audit hf hb
        obtain ⟨hg, ⟨e', he, ha⟩ | ⟨out, he, -⟩⟩ := rt._terminate_outcome hb
        · cases e with
          | fault f => exact absurd rfl (hf f)
          | error e => exact .inl ⟨_, _, by rw [hb], .error e audit ha hg, hr.symm⟩
        · cases he
      · rename_i summary audit hb
        obtain ⟨hg, ⟨e, he, -⟩ | ⟨out, -, ha⟩⟩ := rt._terminate_outcome hb
        · cases he
        · rw [_fail_locked_eq] at hr
          exact .inr ⟨summary, _, audit, by rw [hb], ha, hg, hr.symm⟩
    · rw [if_pos hid] at hr
      refine .inl ⟨?_, hr.symm⟩
      intro l hl
      rw [hs] at hl
      cases hl
      exact hid

/-! ## §4. Sessions and shutdown. -/

/-- The lease `open_session` stores. -/
def newLease (cfg : RuntimeConfig) (rt : PolicyRuntime) (trial_id skill session_id token : PyStr)
    (now : ℚ) : SessionLease :=
  { ref := rt.refs
    session_id := session_id
    token := token
    skill := skill
    generation := rt.generation
    trial_id := trial_id
    expires_at_monotonic := now + cfg.session_ttl_sec }

/-- **`open_session`** stores a new lease over an active trial, or is refused. -/
theorem openSession_cases (cfg : RuntimeConfig) (rt : PolicyRuntime) (session_id token : PyStr)
    (now : ℚ) :
    (∃ e, rt.openSession cfg session_id token now = (.error e, rt)) ∨
    (∃ trial_id skill, rt.state = .READY ∧ rt.trial_id = some trial_id ∧
      rt.active_skill = some skill ∧ rt.activeLease = none ∧
      rt.openSession cfg session_id token now =
        (.ok { session_id, session_token := token, skill, generation := rt.generation,
               trial_id, expires_in_sec := cfg.session_ttl_sec },
         { rt with session := some (newLease cfg rt trial_id skill session_id token now),
                   refs := rt.refs + 1 })) := by
  generalize hr : rt.openSession cfg session_id token now = r
  unfold openSession at hr
  by_cases hst : rt.state = .READY
  · rw [if_neg (by simpa using hst)] at hr
    split at hr
    · rename_i trial_id skill ht hsk
      by_cases hl : rt.activeLease = none
      · rw [if_neg (by simpa using hl)] at hr
        exact .inr ⟨trial_id, skill, hst, ht, hsk, hl, hr.symm⟩
      · rw [if_pos hl] at hr
        exact .inl ⟨_, hr.symm⟩
    · exact .inl ⟨_, hr.symm⟩
  · rw [if_pos hst] at hr
    exact .inl ⟨_, hr.symm⟩

/-- **`close_session`** drops the lease it names while nothing is in flight. -/
theorem closeSession_cases (rt : PolicyRuntime) (session_id : PyStr) :
    (∃ e, rt.closeSession session_id = (.error e, rt)) ∨
    (∃ lease st, rt.session = some lease ∧ lease.session_id = session_id ∧ rt.in_flight = 0 ∧
      rt.closeSession session_id = (.ok st, { rt with session := none })) := by
  generalize hr : rt.closeSession session_id = r
  unfold closeSession at hr
  split at hr
  · exact .inl ⟨_, hr.symm⟩
  · rename_i lease hl
    obtain ⟨hs, -⟩ := session_of_activeLease hl
    by_cases hid : lease.session_id = session_id
    · rw [if_neg (by simpa using hid)] at hr
      by_cases hin : rt.in_flight = 0
      · rw [if_neg (by simpa using hin)] at hr
        exact .inr ⟨lease, _, hs, hid, hin, hr.symm⟩
      · rw [if_pos hin] at hr
        exact .inl ⟨_, hr.symm⟩
    · rw [if_pos hid] at hr
      exact .inl ⟨_, hr.symm⟩

/-- The state of a runtime that shuts down. -/
def stopped (rt : PolicyRuntime) : PolicyRuntime :=
  { rt with state := .STOPPING, session := none }

/-- Stopping cannot fail: STOPPING is reachable from every other state. -/
theorem stopping_eq (rt : PolicyRuntime) :
    (if rt.state ≠ .STOPPING then rt._transition_locked .STOPPING else (.ok (), rt))
      = (.ok (), { rt with state := .STOPPING }) := by
  by_cases h : rt.state = .STOPPING
  · rw [if_neg (by simpa using h)]
    cases rt
    simp_all
  · rw [if_pos h]
    simp [_transition_locked, ensure_runtime_transition, STOPPING_mem_transitions h]

/-- **`close`** always stops the runtime; the trial is aborted unless the
audit call raises. -/
theorem closeSection_cases (rt : PolicyRuntime) (io : Io) :
    (∃ r audit, audit.active = rt.audit.active ∧ rt.audit.Grows audit ∧
      rt.closeSection io = (r, { rt.stopped with audit := audit })) ∨
    (∃ r audit, audit.active = none ∧ rt.audit.Grows audit ∧
      rt.closeSection io = (r, rt.stopped.trialOver audit)) := by
  generalize hr : rt.closeSection io = r
  unfold closeSection at hr
  rw [stopping_eq] at hr
  dsimp only [_invalidate_session_locked] at hr
  split at hr
  · exact .inl ⟨_, rt.audit, rfl, TrialAuditStore.Grows.refl _, hr.symm⟩
  · split at hr
    · rename_i f audit hb
      obtain ⟨hg, ⟨e, he, ha⟩ | ⟨out, he, -⟩⟩ := rt._terminate_outcome hb
      · exact .inl ⟨_, audit, ha, hg, hr.symm⟩
      · cases he
    · rename_i e audit hf hb
      obtain ⟨hg, ⟨e', he, ha⟩ | ⟨out, he, -⟩⟩ := rt._terminate_outcome hb
      · exact .inl ⟨_, audit, ha, hg, hr.symm⟩
      · cases he
    · rename_i audit hb
      obtain ⟨hg, ⟨e, he, -⟩ | ⟨out, -, ha⟩⟩ := rt._terminate_outcome hb
      · cases he
      · exact .inr ⟨_, audit, ha, hg, hr.symm⟩

/-! ## §5. `infer`. -/

/-- A request the runtime admits, with the lease it is admitted under. -/
structure Admitted (rt : PolicyRuntime) (request : InferenceRequest) (lease : SessionLease) :
    Prop where
  stored : rt.session = some lease
  active : lease.state = .ACTIVE
  session_id : request.session_id = lease.session_id
  session_token : request.session_token = lease.token
  lease_trial : request.trial_id = lease.trial_id
  trial_id : rt.trial_id = some request.trial_id
  lease_skill : request.expected_skill = lease.skill
  skill : rt.active_skill = some request.expected_skill
  lease_generation : request.expected_generation = lease.generation
  generation : request.expected_generation = rt.generation
  sequence : request.sequence = lease.next_sequence
  ready : rt.state = .READY

/-- The test of `_validate_request_locked` on a live lease, check by check. -/
theorem inferEnter_live {rt : PolicyRuntime} {lease : SessionLease}
    (hl : rt.activeLease = some lease) (request : InferenceRequest) {now : ℚ}
    (hlive : ¬ lease.expires_at_monotonic ≤ now) :
    (request.session_id = lease.session_id ∧
      (request.session_token.isAscii && lease.token.isAscii) = false ∧
      rt.inferEnter request now = (.error (.error .TypeError), rt)) ∨
    ((request.session_id = lease.session_id →
        (request.session_token.isAscii && lease.token.isAscii) = true) ∧
      ¬ Admitted rt request lease ∧ ∃ f, rt.inferEnter request now = (.error (.fault f), rt)) ∨
    ((request.session_token.isAscii && lease.token.isAscii) = true ∧ Admitted rt request lease ∧
      rt.inferEnter request now = (.ok lease.ref, { rt with in_flight := rt.in_flight + 1 })) := by
  obtain ⟨hs, ha⟩ := session_of_activeLease hl
  unfold inferEnter _validate_request_locked
  simp only [hl]
  rw [if_neg hlive]
  by_cases hsid : request.session_id = lease.session_id
  · rw [if_neg (by simpa using hsid)]
    by_cases hasc : (request.session_token.isAscii && lease.token.isAscii) = true
    · rw [if_neg (by simp [hasc])]
      right
      by_cases htok : request.session_token = lease.token
      · rw [if_neg (by simpa using htok)]
        by_cases htr : request.trial_id ≠ lease.trial_id ∨ rt.trial_id ≠ some request.trial_id
        · rw [if_pos htr]
          exact .inl ⟨fun _ => hasc, fun h => htr.elim (· h.lease_trial) (· h.trial_id), _, rfl⟩
        · rw [if_neg htr]
          by_cases hsk : request.expected_skill ≠ lease.skill
              ∨ rt.active_skill ≠ some request.expected_skill
          · rw [if_pos hsk]
            exact .inl ⟨fun _ => hasc, fun h => hsk.elim (· h.lease_skill) (· h.skill), _, rfl⟩
          · rw [if_neg hsk]
            by_cases hgen : request.expected_generation ≠ lease.generation
                ∨ request.expected_generation ≠ rt.generation
            · rw [if_pos hgen]
              exact .inl ⟨fun _ => hasc,
                fun h => hgen.elim (· h.lease_generation) (· h.generation), _, rfl⟩
            · rw [if_neg hgen]
              by_cases hseq : request.sequence = lease.next_sequence
              · rw [if_neg (by simpa using hseq)]
                have hk : request.request_kind = .INFER := rfl
                rw [if_neg (by simp [hk])]
                by_cases hst : rt.state = .READY
                · rw [if_neg (by simpa using hst)]
                  push Not at htr hsk hgen
                  exact .inr ⟨hasc, ⟨hs, ha, hsid, htok, htr.1, htr.2, hsk.1, hsk.2,
                    hgen.1, hgen.2, hseq, hst⟩, rfl⟩
                · rw [if_pos hst]
                  exact .inl ⟨fun _ => hasc, fun h => hst h.ready, _, rfl⟩
              · rw [if_pos hseq]
                exact .inl ⟨fun _ => hasc, fun h => hseq h.sequence, _, rfl⟩
      · rw [if_pos htok]
        exact .inl ⟨fun _ => hasc, fun h => htok h.session_token, _, rfl⟩
    · have hfalse := (Bool.not_eq_true _).mp hasc
      rw [if_pos (by rw [hfalse]; rfl)]
      exact .inl ⟨hsid, hfalse, rfl⟩
  · rw [if_pos hsid]
    exact .inr (.inl ⟨fun h => absurd h hsid, fun h => hsid h.session_id, _, rfl⟩)

theorem inferEnter_none {rt : PolicyRuntime} (hl : rt.activeLease = none)
    (request : InferenceRequest) (now : ℚ) :
    ∃ f, rt.inferEnter request now = (.error (.fault f), rt) := by
  unfold inferEnter _validate_request_locked
  simp only [hl]
  exact ⟨_, rfl⟩

theorem inferEnter_expired {rt : PolicyRuntime} {lease : SessionLease}
    (hl : rt.activeLease = some lease) (request : InferenceRequest) {now : ℚ}
    (hexp : lease.expires_at_monotonic ≤ now) :
    ∃ f, rt.inferEnter request now = (.error (.fault f), { rt with session := none }) := by
  unfold inferEnter _validate_request_locked
  simp only [hl]
  rw [if_pos hexp]
  exact ⟨_, rfl⟩

/-- **Admission**: the request names the stored lease in every field, or it
is refused; an expired lease is dropped on the way. -/
theorem inferEnter_cases (rt : PolicyRuntime) (request : InferenceRequest) (now : ℚ) :
    (∃ e, rt.inferEnter request now = (.error e, rt)) ∨
    (∃ e lease, rt.session = some lease ∧ lease.expires_at_monotonic ≤ now ∧
      rt.inferEnter request now = (.error e, { rt with session := none })) ∨
    (∃ lease, Admitted rt request lease ∧ ¬ lease.expires_at_monotonic ≤ now ∧
      rt.inferEnter request now = (.ok lease.ref, { rt with in_flight := rt.in_flight + 1 })) := by
  cases hl : rt.activeLease with
  | none =>
      obtain ⟨f, hf⟩ := inferEnter_none hl request now
      exact .inl ⟨_, hf⟩
  | some lease =>
      by_cases hexp : lease.expires_at_monotonic ≤ now
      · obtain ⟨f, hf⟩ := inferEnter_expired hl request hexp
        exact .inr (.inl ⟨_, lease, (session_of_activeLease hl).1, hexp, hf⟩)
      · rcases inferEnter_live hl request hexp with ⟨-, -, he⟩ | ⟨-, -, f, hf⟩ | ⟨-, ha, hok⟩
        · exact .inl ⟨_, he⟩
        · exact .inl ⟨_, hf⟩
        · exact .inr (.inr ⟨lease, ha, hexp, hok⟩)

/-- The audit call of `infer` touches the store alone. -/
theorem inferRecord_cases (nx : Numerics) (rt : PolicyRuntime) (inf : Inference) (io : Io) :
    ∃ r audit, rt.audit.Grows audit ∧
      (audit.active = rt.audit.active ∨
        ∃ a, rt.audit.active = some a ∧ audit.active = some (a.counted inf.row)) ∧
      rt.inferRecord nx inf io = (r, { rt with audit := audit }) := by
  obtain ⟨ha, hg⟩ := rt.audit.record_request_active nx inf.row inf.result.actions
    inf.request.observation io
  exact ⟨_, _, hg, ha, rfl⟩

/-- Both handlers of `infer` fail the runtime and raise a fault. -/
theorem inferFail_eq (rt : PolicyRuntime) (e : Exn) :
    ∃ f code, rt.inferFail e = (.error (.fault f), rt.failed code) := by
  cases e with
  | fault f => exact ⟨f, f.code, by simp [inferFail]⟩
  | error e => exact ⟨_, .POLICY_FAILED, by simp only [inferFail, failThenRaise_eq]; rfl⟩

/-- **The end of `infer`**: the admitted lease is still stored and advances,
or the runtime fails. -/
theorem inferFinish_cases (rt : PolicyRuntime) (inf : Inference) :
    (∃ lease, rt.session = some lease ∧ lease.ref = inf.lease_ref ∧ lease.state = .ACTIVE ∧
      rt.inferFinish inf = (.ok inf.response, { rt with session := some lease.next })) ∨
    (∃ f, (∀ lease, rt.session = some lease → ¬ (lease.ref = inf.lease_ref ∧
        lease.state = .ACTIVE)) ∧
      rt.inferFinish inf = (.error (.fault f), rt.failed .SESSION_INVALID)) := by
  generalize hr : rt.inferFinish inf = r
  unfold inferFinish at hr
  split at hr
  · rename_i lease hs
    by_cases h : lease.ref = inf.lease_ref ∧ lease.state = .ACTIVE
    · rw [if_pos h] at hr
      exact .inl ⟨lease, hs, h.1, h.2, hr.symm⟩
    · rw [if_neg h, failThenRaise_eq] at hr
      refine .inr ⟨_, ?_, hr.symm⟩
      intro l hl
      rw [hs] at hl
      cases hl
      exact h
  · rename_i hs
    rw [failThenRaise_eq] at hr
    exact .inr ⟨_, by simp [hs], hr.symm⟩

end PolicyRuntime

end OvenRuntime
