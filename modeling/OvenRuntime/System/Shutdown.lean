/-
  OvenRuntime.System.Shutdown
  ───────────────────────────
  How `run_server` ends.

  `close` begins when the connections of the inference server have ended.  Unless a
  handler was cancelled, nothing runs then, and every response was sent or reported
  (`ServerRun.at_rest`).  What is left from there on is `close` itself and the
  commands of control connections that are still open.  STOPPING is for good, so
  none of these commands undoes what `close` has done (`ClosingDown`).

  `shutdown_graceful` puts the two together.
-/
import OvenRuntime.Server.Directories
import OvenRuntime.Server.Switching
import OvenRuntime.Server.TrialEvidence
import OvenRuntime.System.Responses

namespace OvenRuntime

open TransitionSystem

/-! ## §1. STOPPING is for good. -/

section Stopping

variable {cfg : RuntimeConfig} {nx : Numerics} {id : Nat} {rt rt' : PolicyRuntime} {pc : Pc}
  {ch : Choice} {next : CallState}

/-- An audit call that raised does not bring a runtime back that is down. -/
theorem PolicyRuntime.AuditRaised.state_of_down {e : Exn} (h : PolicyRuntime.AuditRaised rt e rt')
    (hd : rt.state.down) : rt'.state = rt.state := by
  cases h with
  | fault f audit => exact PolicyRuntime.failed_of_down _ hd
  | error e audit => rfl

/-- **No section of any call leaves STOPPING.** -/
theorem Advance.stopping (h : Advance cfg nx id rt pc ch rt' next) (hs : rt.state = .STOPPING) :
    rt'.state = .STOPPING := by
  have hd : rt.state.down := .inr hs
  have hne : ∀ {st : RuntimeState} {P : Prop}, rt.state = st → st ≠ .STOPPING → P :=
    fun heq hne => absurd (heq.symm.trans hs) hne
  cases h with
  | status | prepareAcquire | prepareTimeout | prepareLoad | prepareRaise | prepareRelease
  | beginAcquire | beginTimeout | beginRelease | inferAcquire | inferTimeout | inferRaise
  | inferPolicy | inferLeave | inferRelease | abortAcquire | abortTimeout | abortRelease
  | closeBackend => exact hs
  | prepareBusy | prepareFailed | beginFailed | abortTimedOut =>
      exact (PolicyRuntime.failed_of_down _ hd).trans hs
  | prepareEnter he =>
      rcases rt.prepareEnter_cases _ _ _ with ⟨e, hc⟩ | ⟨-, hst, -⟩ | ⟨-, hst, -⟩ | ⟨-, hst, -⟩
      · cases he.symm.trans hc
        exact hs
      all_goals exact hne hst (by decide)
  | prepareDrain he =>
      rcases rt.drain_cases _ _ with ⟨e, -, hc⟩ | ⟨-, hc⟩ | ⟨-, hst, -⟩ | ⟨e, -, -, hc⟩
      · cases he.symm.trans hc
        exact (PolicyRuntime.failed_of_down _ hd).trans hs
      · cases he.symm.trans hc
        exact hs
      · exact hne hst (by decide)
      · cases he.symm.trans hc
        exact hs
  | prepareCommit he =>
      rcases rt.prepareCommit_cases _ _ with ⟨st, hst, -⟩ | ⟨e, -, hc⟩
      · exact hne hst (by decide)
      · cases he.symm.trans hc
        exact hs
  | beginSection he =>
      rcases rt.beginSection_cases _ _ _ _ with ⟨e, audit, -, -, hc⟩ | ⟨st, skill, audit, hst, -⟩
      · cases he.symm.trans hc
        exact hs
      · exact hne hst (by decide)
  | openSession he =>
      rcases rt.openSession_cases cfg _ _ _ with ⟨e, hc⟩ | ⟨t, k, hst, -⟩
      · cases he.symm.trans hc
        exact hs
      · exact hne hst (by decide)
  | closeSession he =>
      rcases rt.closeSession_cases _ with ⟨e, hc⟩ | ⟨lease, st, -, -, -, hc⟩
      all_goals
        cases he.symm.trans hc
        exact hs
  | endTrial he =>
      rcases rt.endTrial_cases _ with ⟨e, -, hc⟩ | ⟨e, rt₁, -, -, -, hr, hc⟩
        | ⟨a, audit, -, -, -, -, -, -, hc⟩
      · cases he.symm.trans hc
        exact hs
      · cases he.symm.trans hc
        exact (hr.state_of_down hd).trans hs
      · cases he.symm.trans hc
        exact hs
  | abortSection he =>
      rcases rt.abortSection_cases _ _ with ⟨e, rt₁, -, hr, hc⟩ | ⟨summary, out, audit, -, -, -, hc⟩
      · cases he.symm.trans hc
        exact (hr.state_of_down hd).trans hs
      · cases he.symm.trans hc
        exact hs
  | markAmbiguous he =>
      rcases rt.markAmbiguous_cases _ _ _ with ⟨-, hc⟩
        | ⟨lease, -, -, ⟨e, rt₁, -, hr, hc⟩ | ⟨summary, out, audit, -, -, -, hc⟩⟩
      · cases he.symm.trans hc
        exact hs
      · cases he.symm.trans hc
        exact (hr.state_of_down hd).trans hs
      · -- the trial is over before the runtime fails
        cases he.symm.trans hc
        have hover : (rt.trialOver audit).state.down := hd
        exact (PolicyRuntime.failed_of_down _ hover).trans hs
  | inferEnter he =>
      rcases rt.inferEnter_cases _ _ with ⟨e, hc⟩ | ⟨e, lease, -, -, hc⟩ | ⟨lease, -, -, hc⟩
      all_goals
        cases he.symm.trans hc
        exact hs
  | inferRecord he =>
      obtain ⟨r', audit, -, -, hc⟩ := rt.inferRecord_cases nx _ _
      cases he.symm.trans hc
      exact hs
  | inferFailed he =>
      obtain ⟨f, code, hc⟩ := rt.inferFail_eq _
      cases he.symm.trans hc
      exact (PolicyRuntime.failed_of_down _ hd).trans hs
  | inferFinish he =>
      rcases rt.inferFinish_cases _ with ⟨lease, -, -, -, hc⟩ | ⟨f, -, hc⟩
      · cases he.symm.trans hc
        exact hs
      · cases he.symm.trans hc
        exact (PolicyRuntime.failed_of_down _ hd).trans hs
  | closeSection he =>
      rcases rt.closeSection_cases _ with ⟨r', audit, -, -, hc⟩ | ⟨r', audit, -, -, hc⟩
      all_goals
        cases he.symm.trans hc
        rfl

/-- Program counters of calls that serve no inference and switch no skill. -/
structure Pc.Late (pc : Pc) : Prop where
  infers : pc.infers = false
  preparing : pc.preparing = none

/-- No skill switch gets under way in STOPPING. -/
theorem Advance.late {pc' : Pc} (h : Advance cfg nx id rt pc ch rt' (.running pc'))
    (hs : ∀ skill timeout, pc = .prepareEnter skill timeout → rt.state = .STOPPING)
    (hlate : pc.Late) : pc'.Late := by
  constructor
  · refine Bool.eq_false_iff.mpr fun hinf => ?_
    cases (h.infers hinf).symm.trans hlate.infers
  have hprep := hlate.preparing
  generalize hnext : CallState.running pc' = next at h
  cases h with
  | @prepareEnter skill timeout now now' r _ he =>
      -- refused, so the call has raised
      rcases rt.prepareEnter_cases timeout now now' with ⟨e, hc⟩ | ⟨-, hst, -⟩ | ⟨-, hst, -⟩
        | ⟨-, hst, -⟩
      · cases he.symm.trans hc
        cases hnext
      all_goals cases hst.symm.trans (hs skill timeout rfl)
  | prepareDrain | prepareAcquire | prepareTimeout | prepareBusy | prepareLoad | prepareRaise
  | prepareFailed | prepareRelease | prepareCommit => cases hprep
  | @beginSection _ _ _ _ r =>
      rcases r with ⟨f | e⟩ | st <;> cases hnext <;> rfl
  | @inferEnter _ _ r | @inferRecord _ _ r | @closeSection _ r =>
      cases r <;> cases hnext <;> rfl
  | @beginRelease out | @inferRelease out | @abortRelease out => cases out <;> cases hnext
  | @openSession _ _ _ r | @closeSession _ r | @endTrial _ r | @markAmbiguous _ _ _ r =>
      cases r <;> cases hnext
  | @closeBackend audit_error r => cases audit_error <;> cases r <;> cases hnext
  | status | beginTimeout | inferTimeout | abortTimedOut => cases hnext
  | beginAcquire | beginFailed | inferAcquire | inferRaise | inferPolicy | inferFailed | inferFinish
  | inferLeave | abortAcquire | abortTimeout | abortSection =>
      cases hnext
      rfl

/-- Without a session, and with no inference served, a runtime that is down takes up
neither a session nor a trial. -/
theorem Effect.of_down (h : Effect id rt pc rt' next) (hd : rt.state.down)
    (hsession : rt.session = none) (hinf : pc.infers = false) :
    rt'.session = none ∧ rt'.in_flight = rt.in_flight ∧
      (rt.trial_id = none → rt'.trial_id = none) := by
  cases h with
  | frame hf =>
      refine ⟨?_, hf.in_flight, fun ht => ?_⟩
      · rcases hf.session with hsame | hnone
        · exact hsame.trans hsession
        · exact hnone
      · rcases hf.trial with hsame | hnone
        · exact hsame.trans ht
        · exact hnone
  | acquire | release => exact ⟨hsession, rfl, fun ht => ht⟩
  | began hlive | opened hlive => exact absurd hd hlive
  | refused => exact ⟨rfl, rfl, fun ht => ht⟩
  | admitted | entered | finished | left => cases hinf

end Stopping

/-! ## §2. What `close` leaves. -/

/-- The runtime after the section of `close` that began at `rt₁`. -/
structure Stopped (rt₁ rt : PolicyRuntime) : Prop where
  state : rt.state = .STOPPING
  session : rt.session = none
  in_flight : rt.in_flight = rt₁.in_flight
  skill : rt.active_skill = rt₁.active_skill
  generation : rt.generation = rt₁.generation
  dirs : ∀ d, (rt₁.audit.dirs d).isSome = true → (rt.audit.dirs d).isSome = true

/-- The trial is over: nothing is recorded any more, and the manifest of the trial
that was says so. -/
structure TrialAborted (rt₁ rt : PolicyRuntime) : Prop where
  trial_id : rt.trial_id = none
  active : rt.audit.active = none
  manifest : ∀ a, rt₁.audit.active = some a → ∃ dir, rt.audit.dirs a.trial_id = some dir ∧
    dir.server_manifest = some (a.terminated .ABORTED (py "server shutdown") none)

/-- The audit write of a terminated trial that goes through is visible. -/
theorem TrialAuditStore._terminate_manifest {st : TrialAuditStore} {a : ActiveTrial}
    (hact : st.active = some a) (hdir : (st.dirs a.trial_id).isSome = true) {status : TrialStatus}
    {reason : PyStr} {sequence : Option Int} {io : Io} {out : Option TrialRecord}
    (hok : (st._terminate status reason sequence io).1 = .ok out) :
    ∃ dir, (st._terminate status reason sequence io).2.dirs a.trial_id = some dir ∧
      dir.server_manifest = some (a.terminated status reason sequence) := by
  obtain ⟨dir, hdir⟩ := Option.isSome_iff_exists.mp hdir
  rw [st._terminate_dirs hact]
  -- the write returned, so it took effect
  have hvisible : visible (io 0) (a.terminated status reason sequence) = true := by
    unfold TrialAuditStore._terminate at hok
    rw [hact] at hok
    simp only at hok
    unfold visible
    cases hio : io 0 with
    | raised e applied =>
        rw [hio] at hok
        cases hok
    | done =>
        cases henc : (a.terminated status reason sequence).encodable with
        | true => rfl
        | false =>
            rw [hio, henc] at hok
            cases hok
  rw [TrialAuditStore.writeIf, if_pos hvisible]
  simp only [if_true, hdir, Option.map_some]
  exact ⟨_, rfl, rfl⟩

/-- **The section of `close`**, from a well-formed runtime. -/
theorem PolicyRuntime.WF.closeSection {rt rt' : PolicyRuntime} (hwf : rt.WF) {io : Io}
    {r : Except Exn (Option Exn)} (he : rt.closeSection io = (r, rt')) :
    Stopped rt rt' ∧ (r = .ok none → TrialAborted rt rt') := by
  constructor
  · rcases rt.closeSection_cases io with ⟨r', audit, -, hg, hc⟩ | ⟨r', audit, -, hg, hc⟩
    · cases he.symm.trans hc
      exact ⟨rfl, rfl, rfl, rfl, rfl, hg⟩
    · cases he.symm.trans hc
      exact ⟨rfl, rfl, rfl, rfl, rfl, hg⟩
  · rintro rfl
    unfold PolicyRuntime.closeSection at he
    rw [PolicyRuntime.stopping_eq] at he
    dsimp only [PolicyRuntime._invalidate_session_locked] at he
    split at he
    · next htrial =>
        -- there was no trial
        cases he
        have hnone := hwf.trial_id_none_iff.mp htrial
        refine ⟨htrial, hnone, fun a ha => ?_⟩
        cases hnone.symm.trans ha
    · split at he
      · cases he
      · cases he
      · -- the audit store has ended the trial
        next out audit hb =>
          cases he
          refine ⟨rfl, ?_, fun a ha => ?_⟩
          · obtain ⟨-, ⟨e, herr, -⟩ | ⟨out', -, hactive⟩⟩ := rt._terminate_outcome hb
            · cases herr
            · exact hactive
          · have hok : (rt.audit._terminate .ABORTED (py "server shutdown") none io).1 = .ok out := by
              show (rt.audit.abort (py "server shutdown") io).1 = .ok out
              rw [hb]
            obtain ⟨dir, hdir, hmanifest⟩ :=
              TrialAuditStore._terminate_manifest ha (hwf.trial a ha).directory hok
            have haudit : (rt.audit._terminate .ABORTED (py "server shutdown") none io).2 = audit := by
              show (rt.audit.abort (py "server shutdown") io).2 = audit
              rw [hb]
            rw [haudit] at hdir
            exact ⟨dir, hdir, hmanifest⟩

/-! ## §3. Nothing runs when it begins. -/

section Shutdown

variable {cfg : RuntimeConfig} {nx : Numerics} {lib : Library} {mp : MessagePack}
  {server : LoopbackInferenceServer} {s s' : ServerProcess} {e : ServerEvent}
  {es : List ServerEvent}

/-- Every response was sent, or reported as lost. -/
def Delivered (es : List ServerEvent) (s : ServerProcess) : Prop :=
  ∀ id response, s.sys.calls id = some (.returned (.ok (.response response))) →
    ∃ k frame payload, .receive k frame payload id ∈ es ∧
      (.send k (some id) response.to_dict ∈ es ∨
        ∃ mark, .report k (some id) mark response.session_id response.sequence ∈ es)

/-- The process is at rest: every call has returned. -/
structure ProcessAtRest (es : List ServerEvent) (s : ServerProcess) : Prop where
  returned : ∀ id c, s.sys.calls id = some c → ∃ out, c = .returned out
  execution_lock : s.sys.rt.execution_lock = none
  in_flight : s.sys.rt.in_flight = 0
  delivered : Delivered es s

/-- **With the connections ended and no handler cancelled, nothing runs.** -/
theorem ServerRun.at_rest (h : ServerRun cfg nx lib mp server es s) (hfree : s.loop = none)
    (hended : ∀ k h, s.handlers k = some h → h = .ended) (hcancel : ∀ k, .cancel k ∉ es) :
    ProcessAtRest es s := by
  have hreturned : ∀ id c, s.sys.calls id = some c → ∃ out, c = .returned out := by
    intro id c hc
    cases c with
    | returned out => exact ⟨out, rfl⟩
    | running pc =>
        by_cases hinf : pc.infers = true
        · -- its handler would wait for it
          obtain ⟨k, -, -, -, hwaits⟩ := (ServerRun.accountInv h).running id pc hc hinf
          rcases hwaits with hk | hcancelled
          · cases hended k _ hk
          · exact absurd hcancelled (hcancel k)
        · obtain ⟨c', hc', -⟩ := (ServerRun.loopInv h).others id pc hc ((Bool.not_eq_true _).mp hinf)
          cases hfree.symm.trans hc'
  have hlock := RuntimeRun.lockInv (ServerRun.runtime h)
  refine ⟨hreturned, ?_, ?_, ?_⟩
  · cases heq : s.sys.rt.execution_lock with
    | none => rfl
    | some id =>
        obtain ⟨c, hc, hholds⟩ := (hlock.lock id).mp heq
        obtain ⟨out, rfl⟩ := hreturned id c hc
        cases hholds
  · refine hlock.idle fun id c hc => ?_
    obtain ⟨out, rfl⟩ := hreturned id c hc
    rfl
  · intro id response hret
    obtain ⟨k, frame, payload, hreceived, haccounted⟩ :=
      (ServerRun.accountInv h).responses id response hret
    refine ⟨k, frame, payload, hreceived, ?_⟩
    cases haccounted with
    | returned hk => cases hended k _ hk
    | sending hk => cases hended k _ hk
    | sent hmem => exact .inl hmem
    | @reported mark hmem => exact .inr ⟨mark, hmem⟩
    | cancelled hmem => exact absurd hmem (hcancel k)

/-! ## §4. What runs after it changes nothing. -/

/-- A section of a late call leaves the runtime stopped. -/
theorem Stopped.advance {rt₁ rt rt' : PolicyRuntime} {i : Nat} {pc : Pc} {ch : Choice}
    {next : CallState} (h : Stopped rt₁ rt) (hlate : pc.Late)
    (ha : Advance cfg nx i rt pc ch rt' next) : Stopped rt₁ rt' := by
  obtain ⟨hsession, hin_flight, -⟩ := ha.effect.of_down (.inr h.state) h.session hlate.infers
  have hloaded : rt'.loaded = rt.loaded := by
    refine (ha.keepsLoaded fun skill identity heq => ?_).1
    have hprep := hlate.preparing
    rw [heq] at hprep
    cases hprep
  exact {
    state := ha.stopping h.state
    session := hsession
    in_flight := hin_flight.trans h.in_flight
    skill := (congrArg Prod.fst hloaded).trans h.skill
    generation := (congrArg (fun loaded => loaded.2.2) hloaded).trans h.generation
    dirs := fun d hd => ha.effect.dirs d (h.dirs d hd) }

/-- It does not take up the trial again either, nor write to its directory. -/
theorem TrialAborted.advance {rt₁ rt rt' : PolicyRuntime} {i : Nat} {pc : Pc} {ch : Choice}
    {next : CallState} (h : TrialAborted rt₁ rt) (hstopped : Stopped rt₁ rt) (hlate : pc.Late)
    (hwf' : rt'.WF) (ha : Advance cfg nx i rt pc ch rt' next) : TrialAborted rt₁ rt' := by
  have htrial : rt'.trial_id = none :=
    (ha.effect.of_down (.inr hstopped.state) hstopped.session hlate.infers).2.2 h.trial_id
  refine ⟨htrial, hwf'.trial_id_none_iff.mp htrial, fun a hact => ?_⟩
  obtain ⟨dir, hdir, hmanifest⟩ := h.manifest a hact
  -- no trial is recorded, so the directory is sealed
  have hsealed : rt.audit.Sealed a.trial_id dir := by
    refine ⟨hdir, fun a' ha' => ?_⟩
    cases h.active.symm.trans ha'
  exact ⟨dir, (ha.store.sealed hsealed).stored, hmanifest⟩

/-- How far the call of `close` has got. -/
inductive CloseCall (rt₁ : PolicyRuntime) : PolicyRuntime → CallState → Prop
  | entered : CloseCall rt₁ rt₁ (.running .closeSection)
  | stopped {rt : PolicyRuntime} {audit_error : Option Exn} :
      Stopped rt₁ rt → (audit_error = none → TrialAborted rt₁ rt) →
      CloseCall rt₁ rt (.running (.closeBackend audit_error))
  | returned {rt : PolicyRuntime} {out : Except Exn Result} :
      Stopped rt₁ rt → (∀ r, out = .ok r → TrialAborted rt₁ rt) →
      CloseCall rt₁ rt (.returned out)

/-- A step of `close`. -/
theorem CloseCall.advance {rt₁ rt rt' : PolicyRuntime} {id : Nat} {pc : Pc} {ch : Choice}
    {next : CallState} (h : CloseCall rt₁ rt (.running pc)) (hwf : rt.WF)
    (ha : Advance cfg nx id rt pc ch rt' next) : CloseCall rt₁ rt' next := by
  cases h with
  | entered =>
      -- the section
      cases ha with
      | @closeSection io r _ he =>
          obtain ⟨hstopped, haborted⟩ := hwf.closeSection he
          cases r with
          | error err =>
              refine .returned hstopped fun r hr => ?_
              cases hr
          | ok audit_error =>
              refine .stopped hstopped fun hnone => haborted ?_
              rw [hnone]
  | @stopped _ audit_error hstopped haborted =>
      -- `backend.close()`; an audit error is raised after it
      cases ha with
      | @closeBackend _ r =>
          cases audit_error with
          | none => exact .returned hstopped fun _ _ => haborted rfl
          | some err =>
              refine .returned hstopped fun r hr => ?_
              cases hr

/-- A step of another call, once `close` is through its section. -/
theorem CloseCall.beside {rt₁ rt rt' : PolicyRuntime} {i : Nat} {pc : Pc} {ch : Choice}
    {c next : CallState} (h : CloseCall rt₁ rt c) (hc : c ≠ .running .closeSection)
    (hlate : pc.Late) (hwf' : rt'.WF) (ha : Advance cfg nx i rt pc ch rt' next) :
    CloseCall rt₁ rt' c := by
  cases h with
  | entered => exact absurd rfl hc
  | stopped hstopped haborted =>
      exact .stopped (hstopped.advance hlate ha) fun hnone =>
        (haborted hnone).advance hstopped hlate hwf' ha
  | returned hstopped haborted =>
      exact .returned (hstopped.advance hlate ha) fun r hr =>
        (haborted r hr).advance hstopped hlate hwf' ha

/-- The process from the call of `close` on. -/
structure ClosingDown (rt₁ : PolicyRuntime) (id : Nat) (s : ServerProcess) : Prop where
  stopping : s.stopping = true
  closed : s.closed = true
  ended : ∀ k h, s.handlers k = some h → h = .ended
  late : ∀ i pc, s.sys.calls i = some (.running pc) → pc.Late
  close : ∃ c, s.sys.calls id = some c ∧ CloseCall rt₁ s.sys.rt c

/-- The steps that are left: those of `close` and of commands, no matter when these were
read, their returns, and further signals. -/
def ServerEvent.late : ServerEvent → Prop
  | .step _ pc _ _ => pc.Late
  | .control _ _ | .resume | .stop => True
  | _ => False

/-- A running call is the one of the loop, since none is one of `infer`. -/
theorem ClosingDown.loop {rt₁ : PolicyRuntime} {id i : Nat} {pc : Pc} (h : ClosingDown rt₁ id s)
    (hloop : LoopInv s) (hpc : s.sys.calls i = some (.running pc)) :
    ∃ c, s.loop = some c ∧ c.id = i :=
  hloop.others i pc hpc (h.late i pc hpc).infers

/-- A section of the call `i`. -/
theorem ClosingDown.stepped {rt₁ rt' : PolicyRuntime} {id i : Nat} {pc : Pc} {ch : Choice}
    {next : CallState} (h : ClosingDown rt₁ id s) (hloop : LoopInv s) (hwf : s.sys.rt.WF)
    (hwf' : rt'.WF) (hpc : s.sys.calls i = some (.running pc))
    (ha : Advance cfg nx i s.sys.rt pc ch rt' next) :
    ClosingDown rt₁ id { s with sys := s.sys.setCall rt' i next } := by
  have hlate := h.late i pc hpc
  obtain ⟨c, hc, hclose⟩ := h.close
  -- while `close` is in its section, no other call runs
  have hsection : c = .running .closeSection → i = id := by
    rintro rfl
    obtain ⟨c₁, hc₁, rfl⟩ := h.loop hloop hpc
    obtain ⟨c₂, hc₂, rfl⟩ := h.loop hloop hc
    exact congrArg LoopCall.id (Option.some_inj.mp (hc₁.symm.trans hc₂))
  refine ⟨h.stopping, h.closed, h.ended, ?_, ?_⟩
  · intro j pc' hj
    rcases Sys.setCall_calls_eq hj with ⟨-, rfl⟩ | ⟨-, hold⟩
    · refine ha.late (fun skill timeout heq => ?_) hlate
      subst heq
      cases hclose with
      | entered =>
          cases hsection rfl
          cases hc.symm.trans hpc
      | stopped hstopped | returned hstopped => exact hstopped.state
    · exact h.late j pc' hold
  · by_cases hi : i = id
    · subst hi
      cases hpc.symm.trans hc
      exact ⟨next, Sys.setCall_self _ _ _ _, hclose.advance hwf ha⟩
    · refine ⟨c, (Sys.setCall_other _ _ _ (Ne.symm hi)).trans hc, ?_⟩
      exact hclose.beside (fun heq => hi (hsection heq)) hlate hwf' ha

/-- A late command begins. -/
theorem ClosingDown.commanded {rt₁ : PolicyRuntime} {id i : Nat} {op : Op}
    (h : ClosingDown rt₁ id s) (hop : op.commanded) (hnew : s.sys.calls i = none) :
    ClosingDown rt₁ id (s.enter (s.sys.setCall s.sys.rt i (op.start nx)) i none) := by
  refine ⟨h.stopping, h.closed, h.ended, ?_, ?_⟩
  · intro j pc hj
    rcases Sys.setCall_calls_eq hj with ⟨-, hstart⟩ | ⟨-, hold⟩
    · refine ⟨Bool.eq_false_iff.mpr fun hinf => ?_, (Op.start_preparing hstart.symm).1⟩
      have hstarted : (op.start nx).infers = true := by
        rw [← hstart]
        exact hinf
      obtain ⟨payload, rfl⟩ := Op.start_infers hstarted
      exact hop
    · exact h.late j pc hold
  · obtain ⟨c, hc, hclose⟩ := h.close
    have hne : id ≠ i := by
      rintro rfl
      cases hc.symm.trans hnew
    exact ⟨c, (Sys.setCall_other _ _ _ hne).trans hc, hclose⟩

/-- **A step after `close` has begun is a late one.** -/
theorem ClosingDown.step {rt₁ : PolicyRuntime} {id : Nat} (h : ClosingDown rt₁ id s)
    (hloop : LoopInv s) (hwf : s.sys.rt.WF) (hwf' : s'.sys.rt.WF)
    (hst : ServerStep cfg nx lib mp server s e s') : e.late ∧ ClosingDown rt₁ id s' := by
  -- every handler has ended
  have hno : ∀ {k : Nat} {c : Handler} {P : Prop}, c ≠ .ended → s.handlers k = some c → P := by
    intro k c P hne hk
    exact absurd (h.ended k c hk) hne
  cases hst with
  | @step i pc ch next sys hstep =>
      rcases step_cases hstep with ⟨_, _, hl, -⟩ | ⟨i', pc', ch', rt', next', hl, hpc, ha, rfl⟩
      · cases hl
      cases hl
      exact ⟨h.late i pc hpc, h.stepped hloop hwf hwf' hpc ha⟩
  | @control i op sys hfree hop hstep =>
      rcases step_cases hstep with ⟨i', op', hl, hnew, rfl⟩ | ⟨_, _, _, _, _, hl, -⟩
      · cases hl
        exact ⟨trivial, h.commanded hop hnew⟩
      · cases hl
  | resume => exact ⟨trivial, h.stopping, h.closed, h.ended, h.late, h.close⟩
  | accept _ hstopping => cases h.stopping.symm.trans hstopping
  | receive _ hk => exact hno (by simp) hk
  | reject _ hk => exact hno (by simp) hk
  | result _ hk => exact hno (by simp) hk
  | send _ hk => exact hno (by simp) hk
  | drop _ hk => exact hno (by simp) hk
  | report _ hk => exact hno (by simp) hk
  | @reported k mark out hmark =>
      -- its handler would be reporting
      exact hno (by simp) ((hloop.reporting k).mpr ⟨mark, hmark⟩)
  | hangUp _ hk => exact hno (by simp) hk
  | cancel _ hk hwaiting =>
      rw [h.ended _ _ hk] at hwaiting
      exact hwaiting.elim
  | stop => exact ⟨trivial, rfl, h.closed, h.ended, h.late, h.close⟩
  | shutdown _ _ hclosed => cases h.closed.symm.trans hclosed

theorem ServerRun.wf (h : ServerRun cfg nx lib mp server es s) : s.sys.rt.WF :=
  (RuntimeRun.inv (ServerRun.runtime h)).wf

theorem ClosingDown.path {rt₁ : PolicyRuntime} {id : Nat} {es' : List ServerEvent}
    (h : ClosingDown rt₁ id s) (hrun : ServerRun cfg nx lib mp server es s)
    (hpath : Path (serverProcess cfg nx lib mp server) s es' s') :
    (∀ e ∈ es', e.late) ∧ ClosingDown rt₁ id s' := by
  induction hpath with
  | nil => exact ⟨fun e he => absurd he List.not_mem_nil, h⟩
  | @snoc s₁ s₂ es₁ e hbefore hst ih =>
      obtain ⟨hall, hclosing⟩ := ih
      have hrun₁ := hrun.extend hbefore
      obtain ⟨he, hnext⟩ := hclosing.step (ServerRun.loopInv hrun₁) (ServerRun.wf hrun₁)
        (ServerRun.wf (hrun₁.snoc hst)) hst
      refine ⟨fun e' hmem => ?_, hnext⟩
      rcases List.mem_append.mp hmem with hmem | hmem
      · exact hall e' hmem
      · rw [List.mem_singleton.mp hmem]
        exact he

/-- With the thread of the loop free, no call holds the execution lock. -/
theorem ClosingDown.lock_free {rt₁ : PolicyRuntime} {id : Nat} (h : ClosingDown rt₁ id s)
    (hrun : ServerRun cfg nx lib mp server es s) (hfree : s.loop = none) :
    s.sys.rt.execution_lock = none := by
  cases heq : s.sys.rt.execution_lock with
  | none => rfl
  | some i =>
      obtain ⟨c, hc, hholds⟩ := ((RuntimeRun.lockInv (ServerRun.runtime hrun)).lock i).mp heq
      cases c with
      | returned out => cases hholds
      | running pc =>
          obtain ⟨c', hc', -⟩ := h.loop (ServerRun.loopInv hrun) hc
          cases hfree.symm.trans hc'

/-- **Shutting down is graceful.**  In every run in which `run_server` has called
`close` and no handler was cancelled before: nothing was running at that point,
and every response of `infer` had been sent or reported as lost.  Since then no
frame was taken, no inference ran and nothing was sent; what ran is `close`, and
commands that control connections still brought.  Nothing is in flight, and the
execution lock is free whenever the loop is.  Once `close` is through its section
the runtime is STOPPING without a session, with the skill and the generation it had,
and if `close` has returned, the trial there was is over and its manifest says that
it was aborted, whatever commands came after. -/
theorem shutdown_graceful {es₁ es₂ : List ServerEvent} {id : Nat}
    (h : ServerRun cfg nx lib mp server (es₁ ++ .shutdown id :: es₂) s)
    (hcancel : ∀ k, .cancel k ∉ es₁) :
    ∃ s₁, ServerRun cfg nx lib mp server es₁ s₁ ∧ ProcessAtRest es₁ s₁ ∧ (∀ e ∈ es₂, e.late) ∧
      s.sys.rt.in_flight = 0 ∧ (s.loop = none → s.sys.rt.execution_lock = none) ∧
      (s.sys.calls id ≠ some (.running .closeSection) → Stopped s₁.sys.rt s.sys.rt) ∧
      (∀ r, s.sys.calls id = some (.returned (.ok r)) → TrialAborted s₁.sys.rt s.sys.rt) := by
  obtain ⟨s₁, hrun, hpath⟩ := h.split
  obtain ⟨s₂, hst, hrest⟩ := hpath.cons_inv
  have hrun₂ := hrun.snoc hst
  cases hst with
  | @shutdown _ sys hfree hstopping _ hended hstep =>
      have hatrest := ServerRun.at_rest hrun hfree hended hcancel
      have hclosing : ClosingDown s₁.sys.rt id { s₁.enter sys id none with closed := true } := by
        rcases step_cases hstep with ⟨i, op, hl, hnone, rfl⟩ | ⟨_, _, _, _, _, hl, -⟩
        · cases hl
          refine ⟨hstopping, rfl, hended, ?_, ?_⟩
          · intro i pc hc
            rcases Sys.setCall_calls_eq hc with ⟨-, hstart⟩ | ⟨-, hold⟩
            · cases hstart
              exact ⟨rfl, rfl⟩
            · obtain ⟨out, hout⟩ := hatrest.returned i _ hold
              cases hout
          · exact ⟨_, Sys.setCall_self _ _ _ _, .entered⟩
        · cases hl
      obtain ⟨hall, hclosed⟩ := hclosing.path hrun₂ hrest
      have hlock := hclosed.lock_free h
      obtain ⟨c, hc, hclose⟩ := hclosed.close
      refine ⟨s₁, hrun, hatrest, hall, ?_, hlock, ?_⟩
      · generalize s.sys.rt = rt at hclose ⊢
        cases hclose with
        | entered => exact hatrest.in_flight
        | stopped hstopped | returned hstopped =>
            exact hstopped.in_flight.trans hatrest.in_flight
      generalize s.sys.rt = rt at hclose ⊢
      rw [hc]
      cases hclose with
      | entered =>
          refine ⟨fun hne => absurd rfl hne, fun r hr => ?_⟩
          cases hr
      | stopped hstopped =>
          refine ⟨fun _ => hstopped, fun r hr => ?_⟩
          cases hr
      | returned hstopped haborted =>
          refine ⟨fun _ => hstopped, fun r hr => ?_⟩
          cases hr
          exact haborted r rfl

end Shutdown

/-- Where a history shuts down, if no handler was cancelled in it. -/
def shutdownOf (es : List ServerEvent) : Option Nat :=
  if es.any (fun e => match e with | .cancel _ => true | _ => false) then none
  else es.findSome? fun e => match e with | .shutdown id => some id | _ => none

theorem shutdownOf_eq {es : List ServerEvent} {id : Nat} (h : shutdownOf es = some id) :
    (∀ k, .cancel k ∉ es) ∧ .shutdown id ∈ es := by
  unfold shutdownOf at h
  split at h
  · cases h
  · next hcancel =>
      constructor
      · intro k hmem
        exact hcancel (List.any_eq_true.mpr ⟨_, hmem, rfl⟩)
      · obtain ⟨e, hmem, he⟩ := List.exists_of_findSome?_eq_some h
        split at he
        · cases he
          exact hmem
        · cases he

/-- What a call has returned. -/
def Sys.result (s : Sys) (id : Nat) : Option Result :=
  match s.calls id with
  | some (.returned (.ok r)) => some r
  | _ => none

theorem Sys.calls_of_result {s : Sys} {id : Nat} {r : Result} (h : s.result id = some r) :
    s.calls id = some (.returned (.ok r)) := by
  unfold Sys.result at h
  split at h
  · next hc =>
      cases h
      exact hc
  · cases h

/-- One request of a trial is served, a signal comes, and `close` ends the trial; a
command to abort it comes late. -/
def stoppedMoves : List ServerMove :=
  setUpMoves ++ requestMoves 0 3 ++ [.send 0, .hangUp 0] ++ shutdownMoves 4 ++ [.stop] ++
    commandMoves [.call 5 (.abort (py "late")), .step 5 .acquired, .step 5 (.io Io.clean),
      .step 5 .go]

theorem shutdown_graceful_sample : ∃ es₁ es₂ s₁ s,
    ServerRun defaultConfig sampleNumerics tableLibrary stridedMessagePack sampleServer
      (es₁ ++ .shutdown 4 :: es₂) s ∧ ProcessAtRest es₁ s₁ ∧ (∀ e ∈ es₂, e.late) ∧
      (s.sys.result 5).isSome = true ∧ s.sys.rt.execution_lock = none ∧
      Stopped s₁.sys.rt s.sys.rt ∧ TrialAborted s₁.sys.rt s.sys.rt ∧
      sentKeys (es₁ ++ .shutdown 4 :: es₂) = [(sampleId, 0)] := by
  obtain ⟨es, s, hrun, htest⟩ := ServerProcess.exists_run defaultConfig sampleNumerics
    tableLibrary stridedMessagePack sampleServer (fun _ => none) stoppedMoves
    (fun es s => decide (shutdownOf es = some 4) && decide (sentKeys es = [(sampleId, 0)]) &&
      (s.sys.result 4).isSome && (s.sys.result 5).isSome && s.loop.isNone)
    (by decide +kernel)
  simp only [Bool.and_eq_true, decide_eq_true_eq, Option.isNone_iff_eq_none] at htest
  obtain ⟨⟨⟨⟨hshutdown, hsent⟩, hreturned⟩, hlate⟩, hfree⟩ := htest
  obtain ⟨hcancel, hmem⟩ := shutdownOf_eq hshutdown
  obtain ⟨es₁, es₂, rfl⟩ := List.append_of_mem hmem
  obtain ⟨s₁, -, hatrest, hall, -, hlock, hstopped, haborted⟩ :=
    shutdown_graceful hrun fun k hk => hcancel k (List.mem_append_left _ hk)
  obtain ⟨r, hr⟩ := Option.isSome_iff_exists.mp hreturned
  have hcall := Sys.calls_of_result hr
  refine ⟨es₁, es₂, s₁, s, hrun, hatrest, hall, hlate, hlock hfree, hstopped ?_, haborted r hcall,
    hsent⟩
  rw [hcall]
  simp

end OvenRuntime
