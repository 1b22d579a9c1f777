/-
  OvenRuntime.System.Recovery
  ───────────────────────────
  Whole runs of the orchestrator against the runtime.

  The main path leaves the runtime at rest, or something to recover from
  (`mainPath_stands`).  The safe stop closes what is open and aborts what is
  started, whatever its calls come to (§1), so that a run that raises leaves
  the runtime at rest again (§2).
-/
import OvenRuntime.System.Conformance
import OvenRuntime.System.Rehearsal

namespace OvenRuntime

open EffectProgram PolicyRuntime PipelineOrchestrator

/-! ## §1. The safe stop. -/

/-- An interrupt in a safe stop, before the trial is aborted: in the executor
stop, or in `close-session`. -/
def CutOff (past : List OrchEvent) : Prop :=
  ∃ before ev after, past = before ++ ev :: after ∧ ev.outcome = .error .interrupt ∧
    (isSafeStop ev = true ∨
      before.any isSafeStop = true ∧ ∃ arguments, ev.call = .control .close_session arguments)

/-- What a run that raises leaves. -/
def Aftermath (lossy : Bool) :
    Raised → Assertion Component Component.Answer Raised OrchestratorState World := fun _ past s w =>
  s.Legal ∧ Unrefused lossy w ∧ (¬ CutOff past → AtRest w.server.rt)

/-- Where both stand in a safe stop; the pipeline state does not matter. -/
def Tidying (R : Stand) :
    Assertion Component Component.Answer Raised OrchestratorState World := fun _ s w =>
  s.Legal ∧ R s._active_session_id s._trial_started w

/-- The executor is stopped: what is left is to be cleaned up. -/
structure Halted (lossy : Bool) (trial_started : Bool) (w : World) : Prop where
  stopping : w.stopping = true
  unrefused : Unrefused lossy w
  idle : w.server.rt.Idle
  state : w.server.rt.state = .STARTING ∨ w.server.rt.state = .READY
  trial : trial_started = false → w.server.rt.trial_id = none

/-- A triple about a part of the safe stop. -/
abbrev StopTriple (cfg : RuntimeConfig) (nx : Numerics) (d : ControlDispatcher) (lossy : Bool)
    {α : Type} (P : Assertion Component Component.Answer Raised OrchestratorState World)
    (m : Orch α) (Q : α → Assertion Component Component.Answer Raised OrchestratorState World) :
    Prop :=
  Triple (pipeline cfg nx d lossy) (fun _ w => Unrefused lossy w) (Aftermath lossy) P m Q

section SafeStop

variable {cfg : RuntimeConfig} {nx : Numerics} {d : ControlDispatcher} {lossy : Bool}

theorem isSafeStop_stop (code : ErrorCode) (out : Except Raised Unit) :
    isSafeStop ⟨.stop (py ("safe_stop:" ++ code.value)), out⟩ = true := by
  show (py "safe_stop:").isPrefixOf (py ("safe_stop:" ++ code.value)) = true
  rw [py_append, List.isPrefixOf_iff_prefix]
  exact List.prefix_append _ _

/-- The transition into a safe stop is in the table. -/
theorem enterSafeStop_settles :
    StopTriple cfg nx d lossy (Tidying (Recoverable lossy)) enterSafeStop
      fun _ => Tidying (Recoverable lossy) := by
  refine Triple.read fun s₀ => ?_
  by_cases hdone : s₀.state ∈ [PipelineState.SAFE_STOP, .FAILED, .COMPLETED]
  · rw [if_pos hdone]
    exact Triple.pure (fun _ _ _ h => h.2.2.unrefused) fun _ _ _ h => h.2
  · rw [if_neg hdone]
    refine enter_triple ?_
    rintro past s w ⟨rfl, hlegal, hrec⟩
    have hmem := SAFE_STOP_mem_transitions hdone
    exact ⟨hrec.unrefused, hmem, hlegal.enter hmem, hrec⟩

/-- The executor stop: an interrupt ends the safe stop, anything else does not. -/
theorem actionStop_settles (code : ErrorCode) :
    StopTriple cfg nx d lossy (Tidying (Recoverable lossy))
      (cleanup "action_stop" (ask (.stop (py ("safe_stop:" ++ code.value)))))
      fun _ past s w => past.any isSafeStop = true ∧
        Tidying (fun v b w => Halted lossy b w ∧ Recoverable lossy v b w) past s w := by
  refine Triple.attempt (Y := fun x past s w => (x = .interrupt → CutOff past) ∧
    past.any isSafeStop = true ∧
    Tidying (fun v b w => Halted lossy b w ∧ Recoverable lossy v b w) past s w)
    (Triple.bind (M := fun _ past s w => past.any isSafeStop = true ∧
      Tidying (fun v b w => Halted lossy b w ∧ Recoverable lossy v b w) past s w) ?_ fun _ =>
      Triple.pure (fun _ _ _ h => h.2.2.1.unrefused) fun _ _ _ h => h) fun x => ?_
  · refine Triple.perform (fun _ _ _ h => h.2.unrefused) ?_
    rintro past s w out w' ⟨hlegal, hrec⟩ henv
    have hsafe := isSafeStop_stop code out
    have hw' : w' = { w with stopping := true } := by
      have henv : w' = { w with
          stopping := w.stopping || isSafeStop ⟨.stop (py ("safe_stop:" ++ code.value)), out⟩ } :=
        henv
      rw [henv, hsafe, Bool.or_true]
    subst hw'
    have hrec' : Recoverable lossy s._active_session_id s._trial_started
      { w with stopping := true } := { hrec with }
    have hhalted : Halted lossy s._trial_started { w with stopping := true } :=
      { hrec with stopping := rfl }
    have hpast : List.any (past ++ [⟨.stop (py ("safe_stop:" ++ code.value)), out⟩]) isSafeStop =
        true := by
      rw [List.any_append, List.any_cons, hsafe, Bool.true_or, Bool.or_true]
    refine ⟨hrec.unrefused, ?_⟩
    cases out with
    | ok a => exact ⟨hpast, hlegal, hhalted, hrec'⟩
    | error x =>
        refine ⟨?_, hpast, hlegal, hhalted, hrec'⟩
        rintro rfl
        exact ⟨past, _, [], rfl, rfl, .inl hsafe⟩
  · cases x with
    | exn e => exact Triple.pure (fun _ _ _ h => h.2.2.2.1.unrefused) fun _ _ _ h => h.2
    | interrupt =>
        refine Triple.raise (fun _ _ _ h => h.2.2.2.1.unrefused) ?_
        rintro past s w ⟨hinterrupted, -, hlegal, hhalted, -⟩
        exact ⟨hlegal, hhalted.unrefused, fun h => absurd (hinterrupted rfl) h⟩

/-- **A cleanup call gets to the server**, and is over with that: what it comes
to at the edge is noted down at most, but for an interrupt. -/
theorem cleanup_settles {P Q : Assertion Component Component.Answer Raised OrchestratorState World}
    {name : String} {command : ControlCommand} {arguments : List Value}
    (hP : ∀ past s w, P past s w → w.stopping = true ∧ Unrefused lossy w)
    (hserve : ∀ past s w r w' out, P past s w →
      CarriesOut cfg nx (.control command arguments) w r w' →
      Unrefused lossy w' ∧ Q (past ++ [⟨.control command arguments, out⟩]) s w' ∧
        (out = .error .interrupt →
          Aftermath lossy .interrupt (past ++ [⟨.control command arguments, out⟩]) s w')) :
    StopTriple cfg nx d lossy P
      (cleanup name (do
        let _ ← _control command arguments
        pure ())) fun _ past s w => Unrefused lossy w ∧ Q past s w := by
  -- what is known where the call raises
  let Y (x : Raised) : Assertion Component Component.Answer Raised OrchestratorState World :=
    fun past s w => Unrefused lossy w ∧ Q past s w ∧
      (x = .interrupt → Aftermath lossy .interrupt past s w)
  have hcall : Triple (pipeline cfg nx d lossy) (fun _ w => Unrefused lossy w) Y P
      (ask (.control command arguments)) fun _ past s w => Unrefused lossy w ∧ Q past s w := by
    refine Triple.perform (fun _ _ _ h => (hP _ _ _ h).2) ?_
    intro past s w out w' h henv
    rcases henv with ⟨r, hcarried, -⟩ | ⟨-, hmain, -⟩
    · obtain ⟨hunrefused, hQ, hinterrupt⟩ := hserve past s w r w' out h hcarried
      refine ⟨hunrefused, ?_⟩
      cases out with
      | ok response => exact ⟨hunrefused, hQ⟩
      | error x =>
          refine ⟨hunrefused, hQ, ?_⟩
          rintro rfl
          exact hinterrupt rfl
    · -- a safe stop loses no call
      rw [(hP _ _ _ h).1] at hmain
      cases hmain
  have hcontrol : Triple (pipeline cfg nx d lossy) (fun _ w => Unrefused lossy w) Y P
      (_control command arguments) fun _ past s w => Unrefused lossy w ∧ Q past s w := by
    refine Triple.bind hcall fun response => ?_
    refine Triple.lift (fun _ _ _ h => h.1) (fun _ _ _ _ _ h => h) ?_
    intro x hx past s w h
    refine ⟨h.1, h.2, ?_⟩
    rintro rfl
    cases hresult : controlResult response with
    | ok result =>
        rw [hresult] at hx
        cases hx
    | error e =>
        rw [hresult] at hx
        cases hx
  refine Triple.attempt (Triple.bind (M := fun _ past s w => Unrefused lossy w ∧ Q past s w)
    (Triple.bind hcontrol fun _ => ?_) fun _ => ?_) fun x => ?_
  · exact Triple.pure (fun _ _ _ h => h.1) fun _ _ _ h => h
  · exact Triple.pure (fun _ _ _ h => h.1) fun _ _ _ h => h
  · cases x with
    | exn e => exact Triple.pure (fun _ _ _ h => h.1) fun _ _ _ h => ⟨h.1, h.2.1⟩
    | interrupt => exact Triple.raise (fun _ _ _ h => h.1) fun _ _ _ h => h.2.2 rfl

/-- The server closes the session it is asked to close, or holds another one. -/
theorem carries_cleanup_close {sid : PyStr} {b : Bool} {w w' : World} {r : Except Exn Result}
    (hhalted : Halted lossy b w)
    (hheld : lossy = false →
      ∃ lease, w.server.rt.session = some lease ∧ lease.session_id = sid)
    (hcarried : CarriesOut cfg nx (.control .close_session [.str sid]) w r w') :
    Halted lossy b w' := by
  obtain ⟨id, halone⟩ := hcarried.1
  have hstop : w'.stopping = true := by
    rw [hcarried.2]
    exact hhalted.stopping
  rcases halone.close_session hhalted.idle with ⟨-, ⟨st, rfl⟩, hx'⟩ | ⟨hno, hx'⟩
  · refine ⟨hstop, hcarried.unrefused hhalted.unrefused, ?_, ?_, ?_⟩ <;> rw [hx']
    · exact ⟨hhalted.idle.wf.dropSession, hhalted.idle.lock, hhalted.idle.in_flight⟩
    · exact hhalted.state
    · exact hhalted.trial
  · refine ⟨hstop, ?_, ?_, ?_, ?_⟩
    · intro hlossy
      obtain ⟨lease, hstored, hid⟩ := hheld hlossy
      exact absurd hid (hno lease hstored)
    · rw [hx']
      exact hhalted.idle
    · rw [hx']
      exact hhalted.state
    · rw [hx']
      exact hhalted.trial

/-- The session the edge knows of is closed. -/
theorem closeOpenSession_settles :
    StopTriple cfg nx d lossy
      (fun past s w => past.any isSafeStop = true ∧
        Tidying (fun v b w => Halted lossy b w ∧ Recoverable lossy v b w) past s w)
      closeOpenSession fun _ => Tidying fun _ b w => Halted lossy b w := by
  refine Triple.read fun s₀ => ?_
  by_cases hopen : s₀._active_session_id.isNotNone = true
  · rw [if_pos hopen]
    refine Triple.bind (M := fun _ past s w => Unrefused lossy w ∧
      Tidying (fun _ b w => Halted lossy b w) past s w) ?_ fun failures => ?_
    · refine cleanup_settles (fun _ _ _ h => ⟨h.2.2.2.1.stopping, h.2.2.2.1.unrefused⟩) ?_
      rintro past s w r w' out ⟨rfl, hpast, hlegal, hhalted, hrec⟩ hcarried
      rcases hrec.session with hnone | ⟨sid, hsid, hheld⟩
      · rw [hnone] at hopen
        cases hopen
      rw [hsid] at hcarried
      have hhalted' := carries_cleanup_close hhalted hheld hcarried
      refine ⟨hhalted'.unrefused, ⟨hlegal, hhalted'⟩, ?_⟩
      rintro rfl
      refine ⟨hlegal, hhalted'.unrefused, fun h => absurd ?_ h⟩
      exact ⟨past, _, [], rfl, rfl, .inr ⟨hpast, _, rfl⟩⟩
    · refine Triple.bind (M := fun _ => Tidying fun _ b w => Halted lossy b w)
        (Triple.update (fun _ _ _ h => h.1) fun _ _ _ h => h.2) fun _ => ?_
      exact Triple.pure (fun _ _ _ h => h.2.unrefused) fun _ _ _ h => h
  · rw [if_neg hopen]
    exact Triple.pure (fun _ _ _ h => h.2.2.2.1.unrefused)
      fun _ _ _ h => ⟨h.2.2.1, h.2.2.2.1⟩

theorem abortReason_encodable (code : ErrorCode) :
    (py ("edge safe stop: " ++ code.value)).encodable = true := by
  cases code <;> rfl

/-- The trial that was asked for is aborted. -/
theorem abortTrial_settles (code : ErrorCode) :
    StopTriple cfg nx d lossy (Tidying fun _ b w => Halted lossy b w) (abortTrial code)
      fun _ => Tidying fun _ _ w => Unrefused lossy w ∧ AtRest w.server.rt := by
  refine Triple.read fun s₀ => ?_
  by_cases hstarted : s₀._trial_started = true
  · rw [if_pos hstarted]
    refine Triple.bind (M := fun _ past s w => Unrefused lossy w ∧
      Tidying (fun _ _ w => Unrefused lossy w ∧ AtRest w.server.rt) past s w) ?_ fun failures => ?_
    · refine cleanup_settles (fun _ _ _ h => ⟨h.2.2.stopping, h.2.2.unrefused⟩) ?_
      rintro past s w r w' out ⟨-, hlegal, h⟩ hcarried
      obtain ⟨id, halone⟩ := hcarried.1
      obtain ⟨⟨state, summary, rfl⟩, hrest⟩ :=
        halone.abort (abortReason_encodable code) h.idle h.state
      have hunrefused := hcarried.unrefused h.unrefused
      exact ⟨hunrefused, ⟨hlegal, hunrefused, hrest⟩, fun _ => ⟨hlegal, hunrefused, fun _ => hrest⟩⟩
    · refine Triple.bind (M := fun _ => Tidying fun _ _ w =>
        Unrefused lossy w ∧ AtRest w.server.rt)
        (Triple.update (fun _ _ _ h => h.1) fun _ _ _ h => h.2) fun _ => ?_
      exact Triple.pure (fun _ _ _ h => h.2.1) fun _ _ _ h => h
  · rw [if_neg hstarted]
    refine Triple.pure (fun _ _ _ h => h.2.2.unrefused) ?_
    rintro past s w ⟨rfl, hlegal, h⟩
    exact ⟨hlegal, h.unrefused, ⟨h.idle, h.trial (Bool.not_eq_true _ ▸ hstarted), h.state⟩⟩

/-- The record of the failure does not concern the server. -/
theorem auditFail_settles {state : PipelineState} {code : ErrorCode} {message : String}
    {handler : Raised → Orch Unit} (hexn : ∀ e, handler (.exn e) = pure ())
    (hinterrupt : handler .interrupt = Program.raise .interrupt) :
    StopTriple cfg nx d lossy (Tidying fun _ _ w => Unrefused lossy w ∧ AtRest w.server.rt)
      (Program.attempt (ask (.audit_fail state code message)) handler)
      fun _ => Tidying fun _ _ w => Unrefused lossy w ∧ AtRest w.server.rt := by
  refine Triple.attempt (Y := fun _ => Tidying fun _ _ w =>
    Unrefused lossy w ∧ AtRest w.server.rt) (Triple.perform (fun _ _ _ h => h.2.1) ?_) fun x => ?_
  · rintro past s w out w' ⟨hlegal, h⟩ henv
    have hw' : w' = w := henv
    subst hw'
    refine ⟨h.1, ?_⟩
    cases out with
    | ok a => exact ⟨hlegal, h⟩
    | error x => exact ⟨hlegal, h⟩
  · cases x with
    | exn e =>
        rw [hexn]
        exact Triple.pure (fun _ _ _ h => h.2.1) fun _ _ _ h => h
    | interrupt =>
        rw [hinterrupt]
        exact Triple.raise (fun _ _ _ h => h.2.1) fun _ _ _ h => ⟨h.1, h.2.1, fun _ => h.2.2⟩

/-- The last transition is in the table too. -/
theorem recordFailure_settles (code : ErrorCode) (message : String) (failures : List String) :
    StopTriple cfg nx d lossy
      (Tidying fun _ _ w => Unrefused lossy w ∧ AtRest w.server.rt)
      (recordFailure code message failures)
      fun _ => Tidying fun _ _ w => Unrefused lossy w ∧ AtRest w.server.rt := by
  refine Triple.read fun s₀ => ?_
  by_cases hstop : s₀.state = .SAFE_STOP
  · rw [if_pos hstop]
    refine Triple.bind (M := fun _ => Tidying fun _ _ w =>
      Unrefused lossy w ∧ AtRest w.server.rt) (enter_triple ?_) fun _ => Triple.read fun s₁ => ?_
    · rintro past s w ⟨rfl, hlegal, h⟩
      have hmem : PipelineState.FAILED ∈ PIPELINE_TRANSITIONS s.state := by
        rw [hstop]
        decide
      exact ⟨h.1, hmem, hlegal.enter hmem, h⟩
    · refine Triple.pre ?_ fun _ _ _ h => h.2
      exact auditFail_settles (fun _ => rfl) rfl
  · rw [if_neg hstop]
    refine Triple.read fun s₁ => Triple.pre ?_ fun _ _ _ h => h.2.2
    exact auditFail_settles (fun _ => rfl) rfl

/-- **A safe stop brings the runtime to rest.** -/
theorem _safe_stop_settles (code : ErrorCode) (message : String) :
    StopTriple cfg nx d lossy (Tidying (Recoverable lossy)) (_safe_stop code message)
      fun _ => Tidying fun _ _ w => Unrefused lossy w ∧ AtRest w.server.rt := by
  refine Triple.bind enterSafeStop_settles fun _ => ?_
  refine Triple.bind (actionStop_settles code) fun stop_failures => ?_
  refine Triple.bind closeOpenSession_settles fun close_failures => ?_
  refine Triple.bind (abortTrial_settles code) fun abort_failures => ?_
  exact recordFailure_settles code message _

/-! ## §2. The run. -/

variable {o : PipelineOrchestrator}

/-- A steady call before the main path. -/
theorem ask_settles {c : Component} (hc : c.steady) :
    StopTriple cfg nx d lossy (Stands .CREATED (Resting lossy o.plan 0)) (ask c)
      fun _ => Stands .CREATED (Resting lossy o.plan 0) := by
  refine Triple.perform (fun _ _ _ h => h.2.2.unrefused) ?_
  intro past s w out w' h henv
  cases pipeline_steady hc henv
  refine ⟨h.2.2.unrefused, ?_⟩
  cases out with
  | ok a => exact h
  | error x => exact ⟨h.2.1, h.2.2.unrefused, fun _ => h.2.2.rest⟩

/-- **A run** that returns has completed, and one that raises leaves the runtime
at rest. -/
theorem run_settles (hnx : HashesRequests nx) :
    StopTriple cfg nx d lossy (Stands .CREATED (Resting lossy o.plan 0)) o.run
      fun _ => Stands .COMPLETED (Resting lossy o.plan o.plan.stages.length) := by
  refine Triple.bind (ask_settles trivial) fun approved => ?_
  refine Triple.bind (Triple.require (fun _ _ _ h => h.2.2.unrefused) fun _ _ _ _ h =>
    ⟨h.2.1, h.2.2.unrefused, fun _ => h.2.2.rest⟩) fun _ => Triple.given fun _ => ?_
  refine Triple.bind (ask_settles trivial) fun _ => ?_
  refine Triple.attempt (mainPath_stands hnx) fun x => ?_
  refine Triple.bind (_safe_stop_settles _ _) fun _ => ?_
  exact Triple.raise (fun _ _ _ h => h.2.1) fun _ _ _ h => ⟨h.1, h.2.1, fun _ => h.2.2⟩

end SafeStop

/-! ## §3. Starting with a runtime in service. -/

/-- The runtime a run of the orchestrator starts with: a runtime that has come
as far as this, with no trial, whose audit root has none of the plan. -/
structure Available (cfg : RuntimeConfig) (nx : Numerics) (plan : PipelinePlan)
    (rt : PolicyRuntime) : Prop where
  reached : ∃ ls sys, RuntimeRun cfg nx ls sys ∧ sys.rt = rt
  state : rt.state = .STARTING ∨ rt.state = .READY
  trial_id : rt.trial_id = none
  lock : rt.execution_lock = none
  unused : ∀ i stage, plan.stages[i]? = some stage →
    rt.audit.dirs (derivedTrialId plan.run_id i stage.skill) = none

/-- The world it starts in. -/
def World.around (rt : PolicyRuntime) (opened_at : ℚ) : World := { server := { rt, opened_at } }

/-- The runtime serves the next trial. -/
structure Reusable (cfg : RuntimeConfig) (nx : Numerics) (x : TimedRuntime) : Prop where
  session : x.rt.session = none
  trial_id : x.rt.trial_id = none
  in_flight : x.rt.in_flight = 0
  state : x.rt.state = .STARTING ∨ x.rt.state = .READY
  /-- Nothing stands in the way of `prepare_skill`, … -/
  proceeds : ∀ timeout now now', x.rt.prepareEnter timeout now now' = (.ok .proceed, x.rt.loading)
  /-- … and it succeeds. -/
  prepares : ∀ id skill timeout out x', skill.isEmpty = false → 0 < timeout →
    Alone cfg nx id x ((Op.prepare_skill skill timeout).start nx) out x' → ∃ st, out = .ok (.status st)

section Service

variable {cfg : RuntimeConfig} {nx : Numerics} {lossy : Bool}

/-- Nothing is going on in such a runtime. -/
theorem Available.atRest {plan : PipelinePlan} {rt : PolicyRuntime}
    (h : Available cfg nx plan rt) : AtRest rt := by
  obtain ⟨ls, sys, hrun, rfl⟩ := h.reached
  have hlock := RuntimeRun.lockInv hrun
  exact ⟨⟨(RuntimeRun.inv hrun).wf, h.lock, hlock.idle (hlock.none_serving_of_free h.lock)⟩,
    h.trial_id, h.state⟩

theorem Available.stands {plan : PipelinePlan} {rt : PolicyRuntime}
    (h : Available cfg nx plan rt) (opened_at : ℚ) :
    Stands .CREATED (Resting lossy plan 0) [] {} (World.around rt opened_at) := by
  refine ⟨rfl, ?_, ⟨⟨rfl, ?_⟩, rfl, rfl, h.atRest, fun i stage _ => h.unused i stage⟩⟩
  · intro e he
    cases he
  · intro _ sv hsv
    cases hsv

theorem PolicyRuntime.AtRest.reusable {x : TimedRuntime} (h : AtRest x.rt) : Reusable cfg nx x where
  session := h.session
  trial_id := h.trial_id
  in_flight := h.in_flight
  state := h.state
  proceeds := prepareEnter_atRest h
  prepares _ _ _ _ _ hskill htimeout halone := (halone.prepare hskill htimeout h).1

end Service

section Results

variable (cfg : RuntimeConfig) (lib : Library) (np : ArrayMath) (sha256 : List UInt8 → Digest)
  (limit : Nat) (repr_fits : Value → Bool) (d : ControlDispatcher) (o : PipelineOrchestrator)

/-- **The edge conforms to the server.**  On a lossless connection no call of
the orchestrator is refused, on the main path or in a safe stop, and no
transition it tries is illegal. -/
theorem edge_conforms (hsha : ∀ b, (sha256 b).length = 32) (hlimit : 2 ≤ limit)
    (rt : PolicyRuntime) (opened_at : ℚ)
    (h : Available cfg (serverNumerics lib np sha256 limit repr_fits) o.plan rt) :
    (∀ t w', EffectProgram.Reaches
      (pipeline cfg (serverNumerics lib np sha256 limit repr_fits) d false) (o.run {})
      (World.around rt opened_at) t w' → ∀ sv ∈ w'.served, sv.Accepted) ∧
    (∀ t r s' w',
      Runs (pipeline cfg (serverNumerics lib np sha256 limit repr_fits) d false) o.run {}
      (World.around rt opened_at) t r s' w' →
      ∀ e ∈ s'.attempted, e.2 ∈ PIPELINE_TRANSITIONS e.1) := by
  have hrun := @run_settles cfg (serverNumerics lib np sha256 limit repr_fits) d false o
    fun grant hgrant sequence sent_at observation digest hsend hd =>
      grantedRequest_hash hsha hlimit hgrant hsend hd
  have hstart : Stands .CREATED (Resting false o.plan 0) [] {} (World.around rt opened_at) :=
    h.stands opened_at
  refine ⟨?_, ?_⟩
  · intro t w' hreach
    exact hrun.along [] {} _ t w' hstart hreach rfl
  · intro t r s' w' hruns
    cases r with
    | ok summary => exact (hrun.returns [] {} _ t summary s' w' hstart hruns).2.1
    | error x => exact (hrun.raises [] {} _ t x s' w' hstart hruns).1

/-- A runtime over an empty audit root is available. -/
theorem sample_available (plan : PipelinePlan) : Available defaultConfig frameNumerics plan
    (PolicyRuntime.init fun _ => none) where
  reached := ⟨[], Sys.initial fun _ => none, ⟨_, ⟨_, rfl⟩, .nil _⟩, rfl⟩
  state := .inl rfl
  trial_id := rfl
  lock := rfl
  unused _ _ _ := rfl

/-- A run of the whole plan, with two inferences in every stage: the seven calls
of each stage are served. -/
theorem edge_conforms_whole : ∃ t r s' w',
    Runs (pipeline defaultConfig frameNumerics sampleControl false) wholeOrchestrator.run {}
      (World.around (PolicyRuntime.init fun _ => none) 0) t (.ok r) s' w' ∧
    w'.served.length = 28 ∧ (∀ sv ∈ w'.served, sv.Accepted) ∧
    ∀ e ∈ s'.attempted, e.2 ∈ PIPELINE_TRANSITIONS e.1 := by
  obtain ⟨t, r, s', w', hruns, hP⟩ := @Props.runs_of_rehearse alternateProps defaultConfig
    frameNumerics (World.around (PolicyRuntime.init fun _ => none) 0) sampleControl false
    (fun _ => none) wholeOrchestrator (fun _ r _ w' => r.isOk && w'.served.length == 28)
    (by decide +kernel)
  obtain ⟨hok, hlength⟩ := Bool.and_eq_true_iff.mp hP
  obtain ⟨summary, rfl⟩ := exists_of_isOk hok
  obtain ⟨haccepted, hlegal⟩ := edge_conforms defaultConfig tableLibrary sampleArrayMath
    sampleSha256 990 frameFits sampleControl wholeOrchestrator sampleSha256_length (by decide) _ 0
    (sample_available _)
  exact ⟨t, summary, s', w', hruns, beq_iff_eq.mp hlength, haccepted t w' hruns.reaches,
    hlegal t _ s' w' hruns⟩

/-- **A failure at the edge leaves the server reusable**, whatever is lost on the
main path, unless an interrupt cuts the safe stop off. -/
theorem edge_failure_recovers (hsha : ∀ b, (sha256 b).length = 32) (hlimit : 2 ≤ limit)
    (rt : PolicyRuntime) (opened_at : ℚ)
    (h : Available cfg (serverNumerics lib np sha256 limit repr_fits) o.plan rt) (t : List OrchEvent)
    (x : Raised) (s' : OrchestratorState) (w' : World)
    (hruns : Runs (pipeline cfg (serverNumerics lib np sha256 limit repr_fits) d true) o.run {}
      (World.around rt opened_at) t (.error x) s' w') (hcut : ¬ CutOff t) :
    Reusable cfg (serverNumerics lib np sha256 limit repr_fits) w'.server := by
  have hrun := @run_settles cfg (serverNumerics lib np sha256 limit repr_fits) d true o
    fun grant hgrant sequence sent_at observation digest hsend hd =>
      grantedRequest_hash hsha hlimit hgrant hsend hd
  have hsettled := hrun.raises [] {} _ t x s' w' (h.stands opened_at) hruns
  exact (hsettled.2.2 hcut).reusable

/-- A call raises where nothing else does. -/
def raisesAt (p : Component → Bool) (x : Raised) (c : Component) : Option Raised :=
  if p c then some x else none

def Component.isOpenSession : Component → Bool
  | .control .open_session _ => true
  | _ => false

/-- The runtime is in a trial. -/
def World.hasTrial (w : World) : Bool := w.server.rt.trial_id.isSome

theorem not_cutOff {t : List OrchEvent} (h : (t.any fun ev => interrupted ev.outcome) = false) :
    ¬ CutOff t := by
  rintro ⟨before, ev, after, rfl, hout, -⟩
  rw [List.any_append, List.any_cons, hout] at h
  simp [interrupted] at h

/-- The reply to `open-session` is lost: the safe stop ends the trial that the
edge never had a session for. -/
theorem edge_failure_recovers_lost_session : ∃ t x s' w',
    Runs (pipeline defaultConfig frameNumerics sampleControl true) sampleOrchestrator.run {}
      (World.around (PolicyRuntime.init fun _ => none) 0) t (.error x) s' w' ∧
    w'.served.length = 4 ∧ Reusable defaultConfig frameNumerics w'.server := by
  obtain ⟨t, r, s', w', hruns, hP⟩ := @Props.runs_of_rehearse sampleProps defaultConfig
    frameNumerics (World.around (PolicyRuntime.init fun _ => none) 0) sampleControl true
    (raisesAt Component.isOpenSession (.exn (.error .OSError))) sampleOrchestrator
    (fun t r _ w' => !r.isOk && (w'.served.length == 4 &&
      !t.any fun ev => interrupted ev.outcome)) (by decide +kernel)
  obtain ⟨hraised, hP⟩ := Bool.and_eq_true_iff.mp hP
  obtain ⟨hlength, hnone⟩ := Bool.and_eq_true_iff.mp hP
  cases r with
  | ok summary => cases hraised
  | error x =>
      exact ⟨t, x, s', w', hruns, beq_iff_eq.mp hlength,
        edge_failure_recovers defaultConfig tableLibrary sampleArrayMath sampleSha256 990 frameFits
          sampleControl sampleOrchestrator sampleSha256_length (by decide) _ 0
          (sample_available _) t x s' w' hruns (not_cutOff ((Bool.not_eq_true' _).mp hnone))⟩

/-- `begin_stage` raises, and an interrupt meets the executor stop. -/
def interruptedStop : Component → Option Raised
  | .begin_stage _ => some (.exn (.error .OSError))
  | .stop _ => some .interrupt
  | _ => none

/-- The trial is still there when an interrupt cuts the safe stop off. -/
theorem edge_failure_interrupted :
    ¬ ∀ (cfg : RuntimeConfig) (lib : Library) (np : ArrayMath) (sha256 : List UInt8 → Digest)
      (limit : Nat) (repr_fits : Value → Bool) (d : ControlDispatcher) (o : PipelineOrchestrator),
      (∀ b, (sha256 b).length = 32) → 2 ≤ limit → ∀ (rt : PolicyRuntime) (opened_at : ℚ),
      Available cfg (serverNumerics lib np sha256 limit repr_fits) o.plan rt →
      ∀ t x s' w', Runs (pipeline cfg (serverNumerics lib np sha256 limit repr_fits) d true) o.run {}
        (World.around rt opened_at) t (.error x) s' w' → t.any isAuditBegin = true →
      Reusable cfg (serverNumerics lib np sha256 limit repr_fits) w'.server := by
  intro h
  obtain ⟨t, r, s', w', hruns, hP⟩ := @Props.runs_of_rehearse sampleProps defaultConfig
    frameNumerics (World.around (PolicyRuntime.init fun _ => none) 0) sampleControl true
    interruptedStop sampleOrchestrator
    (fun t r _ w' => !r.isOk && (w'.hasTrial && t.any isAuditBegin)) (by decide +kernel)
  obtain ⟨hraised, hP⟩ := Bool.and_eq_true_iff.mp hP
  obtain ⟨htrial, hbegun⟩ := Bool.and_eq_true_iff.mp hP
  cases r with
  | ok summary => cases hraised
  | error x =>
      have hreusable := h defaultConfig tableLibrary sampleArrayMath sampleSha256 990 frameFits
        sampleControl sampleOrchestrator sampleSha256_length (by decide) _ 0 (sample_available _)
        t x s' w' hruns hbegun
      unfold World.hasTrial at htrial
      rw [hreusable.trial_id] at htrial
      cases htrial

end Results

end OvenRuntime
