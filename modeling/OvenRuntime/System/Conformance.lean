/-
  OvenRuntime.System.Conformance
  ──────────────────────────────
  The orchestrator against the runtime.

  Where the orchestrator stands between two calls says where the runtime
  stands (§1).  Each call moves both (§3, §4), and what a failure leaves behind
  is always `Recoverable`: a safe stop brings the runtime to rest from there
  (§5).
-/
import OvenRuntime.Lib.Triple
import OvenRuntime.Server.Solo
import OvenRuntime.System.Composition
import OvenRuntime.System.TrialIds

namespace OvenRuntime

open EffectProgram PolicyRuntime

/-! ## §1. Where both stand. -/

/-- Every transition that was tried is in the table. -/
def OrchestratorState.Legal (s : OrchestratorState) : Prop :=
  ∀ e ∈ s.attempted, e.2 ∈ PIPELINE_TRANSITIONS e.1

/-- A property of the session the edge holds, the trial it has started, and the
world. -/
abbrev Stand : Type := Value → Bool → World → Prop

/-- Nothing was refused, if nothing can be lost. -/
def Unrefused (lossy : Bool) (w : World) : Prop :=
  lossy = false → ∀ sv ∈ w.served, sv.Accepted

/-- On the main path. -/
structure Calm (lossy : Bool) (w : World) : Prop where
  main : w.stopping = false
  unrefused : Unrefused lossy w

/-- What a safe stop has to start from. -/
structure Recoverable (lossy : Bool) (session_id : Value) (trial_started : Bool) (w : World) :
    Prop where
  unrefused : Unrefused lossy w
  idle : w.server.rt.Idle
  state : w.server.rt.state = .STARTING ∨ w.server.rt.state = .READY
  trial : trial_started = false → w.server.rt.trial_id = none
  session : session_id = .none ∨ ∃ sid, session_id = .str sid ∧
    (lossy = false → ∃ lease, w.server.rt.session = some lease ∧ lease.session_id = sid)

/-- The trials from a stage on have no directory yet. -/
def Unused (plan : PipelinePlan) (index : Nat) (rt : PolicyRuntime) : Prop :=
  ∀ i stage, index ≤ i → plan.stages[i]? = some stage →
    rt.audit.dirs (derivedTrialId plan.run_id i stage.skill) = none

/-- Between two stages. -/
structure Resting (lossy : Bool) (plan : PipelinePlan) (index : Nat) (session_id : Value)
    (trial_started : Bool) (w : World) : Prop extends Calm lossy w where
  session : session_id = .none
  trial : trial_started = false
  rest : AtRest w.server.rt
  unused : Unused plan index w.server.rt

/-- The skill of a stage is loaded; its trial is about to begin. -/
structure Readied (lossy : Bool) (plan : PipelinePlan) (index : Nat) (skill : PyStr)
    (session_id : Value) (w : World) : Prop extends Calm lossy w where
  session : session_id = .none
  prepared : Prepared skill w.server.rt
  unused : Unused plan index w.server.rt

/-- The trial of a stage runs, without a session. -/
structure Trying (lossy : Bool) (plan : PipelinePlan) (index : Nat) (skill : PyStr)
    (session_id : Value) (trial_started : Bool) (w : World) : Prop extends Calm lossy w where
  session : session_id = .none
  trial : trial_started = true
  running : InTrial (derivedTrialId plan.run_id index skill) skill w.server.rt
  closed : w.server.rt.session = none
  unused : Unused plan (index + 1) w.server.rt

/-- The runtime holds the session it granted, at a sequence number. -/
structure Leasing (cfg : RuntimeConfig) (grant : SessionGrant) (sequence : Nat)
    (x : TimedRuntime) : Prop where
  proper : grant.Proper
  running : InTrial grant.trial_id grant.skill x.rt
  generation : x.rt.generation = grant.generation
  lease : ∃ lease, x.rt.session = some lease ∧ lease.session_id = grant.session_id ∧
    lease.token = grant.session_token ∧ lease.next_sequence = sequence ∧
    lease.expires_at_monotonic = x.opened_at + cfg.session_ttl_sec

/-- The session of a stage is open. -/
structure Rolling (cfg : RuntimeConfig) (lossy : Bool) (plan : PipelinePlan) (index : Nat)
    (grant : SessionGrant) (sequence : Nat) (session_id : Value) (trial_started : Bool)
    (w : World) : Prop extends Calm lossy w where
  session : session_id = .str grant.session_id
  trial : trial_started = true
  leasing : Leasing cfg grant sequence w.server
  trial_id : grant.trial_id = derivedTrialId plan.run_id index grant.skill
  unused : Unused plan (index + 1) w.server.rt

section Recoverable

variable {lossy : Bool} {plan : PipelinePlan} {index : Nat} {v : Value} {b : Bool} {w : World}

theorem Resting.recoverable (h : Resting lossy plan index v b w) : Recoverable lossy v b w where
  unrefused := h.unrefused
  idle := h.rest.toIdle
  state := h.rest.state
  trial _ := h.rest.trial_id
  session := .inl h.session

theorem Readied.recoverable {skill : PyStr} (h : Readied lossy plan index skill v w) :
    Recoverable lossy v b w where
  unrefused := h.unrefused
  idle := h.prepared.toIdle
  state := .inr h.prepared.state
  trial _ := h.prepared.trial_id
  session := .inl h.session

theorem Trying.recoverable {skill : PyStr} (h : Trying lossy plan index skill v b w) :
    Recoverable lossy v b w where
  unrefused := h.unrefused
  idle := h.running.toIdle
  state := .inr h.running.state
  trial hb := by
    rw [h.trial] at hb
    cases hb
  session := .inl h.session

theorem Rolling.recoverable {cfg : RuntimeConfig} {grant : SessionGrant} {sequence : Nat}
    (h : Rolling cfg lossy plan index grant sequence v b w) : Recoverable lossy v b w where
  unrefused := h.unrefused
  idle := h.leasing.running.toIdle
  state := .inr h.leasing.running.state
  trial hb := by
    rw [h.trial] at hb
    cases hb
  session := by
    obtain ⟨lease, hstored, hid, -⟩ := h.leasing.lease
    exact .inr ⟨_, h.session, fun _ => ⟨lease, hstored, hid⟩⟩

end Recoverable

/-! ## §2. Statements of the main path. -/

/-- The orchestrator is in a state, and both stand where they should. -/
def Stands (state : PipelineState) (R : Stand) :
    Assertion Component Component.Answer Raised OrchestratorState World := fun _ s w =>
  s.state = state ∧ s.Legal ∧ R s._active_session_id s._trial_started w

/-- What a failure of the main path leaves. -/
def Fails (lossy : Bool) :
    Raised → Assertion Component Component.Answer Raised OrchestratorState World := fun _ _ s w =>
  s.Legal ∧ Recoverable lossy s._active_session_id s._trial_started w

/-- A triple about a part of the main path. -/
abbrev MainTriple (cfg : RuntimeConfig) (nx : Numerics) (d : ControlDispatcher) (lossy : Bool)
    {α : Type} (P : Assertion Component Component.Answer Raised OrchestratorState World)
    (m : Orch α) (Q : α → Assertion Component Component.Answer Raised OrchestratorState World) :
    Prop :=
  Triple (pipeline cfg nx d lossy) (fun _ w => Unrefused lossy w) (Fails lossy) P m Q

/-- A call that the server does not get, but for the stop of a safe stop. -/
def Component.steady : Component → Prop
  | .control _ _ | .infer _ => False
  | .stop reason => (py "safe_stop:").isPrefixOf reason = false
  | _ => True

section Rules

variable {cfg : RuntimeConfig} {nx : Numerics} {d : ControlDispatcher} {lossy : Bool}

/-- Such a call leaves the world as it is. -/
theorem pipeline_steady {c : Component} (hc : c.steady) {w w' : World}
    {out : Except Raised c.Answer} (h : pipeline cfg nx d lossy c w out w') : w' = w := by
  cases c with
  | control | infer => exact hc.elim
  | monotonic_ns => exact h.1
  | stop reason =>
      have h : w' = { w with stopping := w.stopping || (py "safe_stop:").isPrefixOf reason } := h
      rw [show (py "safe_stop:").isPrefixOf reason = false from hc, Bool.or_false] at h
      exact h
  | approve_run | audit_begin | set_pipeline_state | start_stage | record_rollout | complete_stage
  | audit_complete | audit_fail | observation_preflight | sample | reset_preflight | reset | sleep
  | executor_preflight | begin_stage | publish | checker_evaluate => exact h

variable {state : PipelineState} {R : Stand}

theorem Stands.unrefused (hR : ∀ v b w, R v b w → Recoverable lossy v b w)
    {past : List OrchEvent} {s : OrchestratorState} {w : World} (h : Stands state R past s w) :
    Unrefused lossy w := (hR _ _ _ h.2.2).unrefused

theorem Stands.fails (hR : ∀ v b w, R v b w → Recoverable lossy v b w) (x : Raised)
    {past : List OrchEvent} {s : OrchestratorState} {w : World} (h : Stands state R past s w) :
    Fails lossy x past s w := ⟨h.2.1, hR _ _ _ h.2.2⟩

/-- A steady call. -/
theorem ask_steady (hR : ∀ v b w, R v b w → Recoverable lossy v b w) {c : Component}
    (hc : c.steady) :
    MainTriple cfg nx d lossy (Stands state R) (ask c) fun _ => Stands state R := by
  refine Triple.perform (fun _ _ _ h => h.unrefused hR) ?_
  intro past s w out w' h henv
  cases pipeline_steady hc henv
  refine ⟨h.unrefused hR, ?_⟩
  cases out with
  | ok a => exact h
  | error x => exact h.fails hR x

/-- A computation. -/
theorem raising_stands (hR : ∀ v b w, R v b w → Recoverable lossy v b w) {α : Type}
    (r : Except Exn α) :
    MainTriple cfg nx d lossy (Stands state R) (raising r) fun _ => Stands state R :=
  Triple.lift (fun _ _ _ h => h.unrefused hR) (fun _ _ _ _ _ h => h)
    fun x _ _ _ _ h => h.fails hR x

/-- A check. -/
theorem check_stands (hR : ∀ v b w, R v b w → Recoverable lossy v b w) (b : Bool) (e : Exn) :
    MainTriple cfg nx d lossy (Stands state R) (check b e) fun _ past s w =>
      b = true ∧ Stands state R past s w :=
  Triple.require (fun _ _ _ h => h.unrefused hR) fun _ _ _ _ h => h.fails hR _

theorem raise_stands (hR : ∀ v b w, R v b w → Recoverable lossy v b w) {α : Type} (x : Raised)
    (Q : α → Assertion Component Component.Answer Raised OrchestratorState World) :
    MainTriple cfg nx d lossy (Stands state R) (Program.raise x) Q :=
  Triple.raise (fun _ _ _ h => h.unrefused hR) fun _ _ _ h => h.fails hR x

theorem pure_stands (hR : ∀ v b w, R v b w → Recoverable lossy v b w) {α : Type} (a : α) :
    MainTriple cfg nx d lossy (Stands state R) (pure a) fun _ => Stands state R :=
  Triple.pure (fun _ _ _ h => h.unrefused hR) fun _ _ _ h => h

/-- A transition of the table makes no call. -/
theorem enter_triple {X : Raised → Assertion Component Component.Answer Raised OrchestratorState World}
    {P P' : Assertion Component Component.Answer Raised OrchestratorState World}
    {target : PipelineState} (hP : ∀ past s w, P past s w → Unrefused lossy w ∧
      target ∈ PIPELINE_TRANSITIONS s.state ∧ P' past { s with
        state := target, attempted := s.attempted ++ [(s.state, target)] } w) :
    Triple (pipeline cfg nx d lossy) (fun _ w => Unrefused lossy w) X P (_enter target)
      fun _ => P' := by
  have hret : ∀ s : OrchestratorState, target ∈ PIPELINE_TRANSITIONS s.state →
      _enter target s = .ret (.ok (), { s with
        state := target, attempted := s.attempted ++ [(s.state, target)] }) := by
    intro s hlegal
    have hens : ensure_pipeline_transition s.state target = .ok () := if_pos hlegal
    show (raising (ensure_pipeline_transition s.state target) >>= fun _ =>
      Program.update fun s : OrchestratorState => { s with state := target })
        { s with attempted := s.attempted ++ [(s.state, target)] } = _
    rw [hens]
    rfl
  refine ⟨?_, ?_, ?_⟩
  · intro past s w t w' h hreach
    obtain ⟨hunrefused, hlegal, -⟩ := hP past s w h
    rw [hret s hlegal] at hreach
    obtain ⟨rfl, rfl⟩ := reaches_ret hreach
    exact hunrefused
  · intro past s w t a s' w' h hrun
    obtain ⟨-, hlegal, hP'⟩ := hP past s w h
    unfold Runs at hrun
    rw [hret s hlegal, exec_ret] at hrun
    obtain ⟨rfl, hout, rfl⟩ := hrun
    cases hout
    rw [List.append_nil]
    exact hP'
  · intro past s w t x s' w' h hrun
    obtain ⟨-, hlegal, -⟩ := hP past s w h
    unfold Runs at hrun
    rw [hret s hlegal, exec_ret] at hrun
    cases hrun.2.1

theorem OrchestratorState.Legal.enter {s : OrchestratorState} (h : s.Legal) {target : PipelineState}
    (htarget : target ∈ PIPELINE_TRANSITIONS s.state) :
    OrchestratorState.Legal { s with
      state := target, attempted := s.attempted ++ [(s.state, target)] } := by
  intro e he
  rcases List.mem_append.mp he with he | he
  · exact h e he
  · rw [List.mem_singleton.mp he]
    exact htarget

/-- A transition of the main path. -/
theorem transition_stands (hR : ∀ v b w, R v b w → Recoverable lossy v b w)
    {target : PipelineState} (htarget : target ∈ PIPELINE_TRANSITIONS state) :
    MainTriple cfg nx d lossy (Stands state R) (_transition target) fun _ => Stands target R := by
  refine Triple.bind (M := fun _ => Stands target R) (enter_triple ?_) fun _ => ask_steady hR trivial
  intro past s w h
  have hlegal : target ∈ PIPELINE_TRANSITIONS s.state := h.1.symm ▸ htarget
  exact ⟨h.unrefused hR, hlegal, rfl, h.2.1.enter hlegal, h.2.2⟩

/-- The result of a successful control call. -/
theorem controlResult_reply (command : PyStr) (result : Dict) :
    controlResult (d._response command (.ok result)) = .ok result := rfl

theorem CarriesOut.unrefused {c : Component} {w w' : World} {result : Result}
    (h : CarriesOut cfg nx c w (.ok result) w') (hw : Unrefused lossy w) : Unrefused lossy w' := by
  intro hlossy sv hsv
  rw [h.2] at hsv
  rcases List.mem_append.mp hsv with hsv | hsv
  · exact hw hlossy sv hsv
  · rw [List.mem_singleton.mp hsv]
    exact ⟨result, rfl⟩

theorem CarriesOut.calm {c : Component} {w w' : World} {result : Result}
    (h : CarriesOut cfg nx c w (.ok result) w') (hw : Calm lossy w) : Calm lossy w' where
  main := by
    rw [h.2]
    exact hw.main
  unrefused := h.unrefused hw.unrefused

/-- **A control call of the main path**: the server accepts it and both move on,
or it is lost on the way there or back. -/
theorem control_stands (hR : ∀ v b w, R v b w → Recoverable lossy v b w)
    {command : ControlCommand} {arguments : List Value} {Q : Dict → Stand}
    (hserve : ∀ v b w r w', R v b w →
      CarriesOut cfg nx (.control command arguments) w r w' → ∃ result, r = .ok result ∧
        Q result.to_dict v b w' ∧ (lossy = true → Recoverable lossy v b w')) :
    MainTriple cfg nx d lossy (Stands state R) (_control command arguments) fun result =>
      Stands state (Q result) := by
  refine Triple.bind (M := fun response past s w => Unrefused lossy w ∧ ∃ result,
    controlResult response = .ok result ∧ Stands state (Q result) past s w) ?_ fun response => ?_
  · refine Triple.perform (fun _ _ _ h => h.unrefused hR) ?_
    intro past s w out w' h henv
    rcases henv with ⟨r, hcarried, hout⟩ | ⟨-, -, rfl, x, rfl⟩
    · obtain ⟨result, rfl, hQ, hlost⟩ := hserve _ _ _ _ _ h.2.2 hcarried
      have hunrefused := hcarried.unrefused (h.unrefused hR)
      refine ⟨hunrefused, ?_⟩
      rcases hout with rfl | ⟨hlossy, x, rfl⟩
      · exact ⟨hunrefused, _, controlResult_reply _ _, h.1, h.2.1, hQ⟩
      · exact ⟨h.2.1, hlost hlossy⟩
    · exact ⟨h.unrefused hR, h.fails hR x⟩
  · refine Triple.lift (fun _ _ _ h => h.1) ?_ ?_
    · rintro a ha past s w ⟨-, result, hresult, h⟩
      rw [hresult] at ha
      cases ha
      exact h
    · rintro x hx past s w ⟨-, result, hresult, -⟩
      rw [hresult] at hx
      cases hx

/-! ## §3. A stage, up to the open session. -/

variable {o : PipelineOrchestrator} {index : Nat} {stage : StagePlan}

theorem Unused.mono {plan : PipelinePlan} {rt : PolicyRuntime} (h : Unused plan index rt) :
    Unused plan (index + 1) rt :=
  fun i stage hi hstage => h i stage (by omega) hstage

/-- The directory of one trial does not matter to the later ones. -/
theorem Unused.frame {plan : PipelinePlan} (haccepted : plan.validate = .ok ())
    {rt rt' : PolicyRuntime} (h : Unused plan (index + 1) rt)
    (hstage : plan.stages[index]? = some stage)
    (hdirs : ∀ d, d ≠ derivedTrialId plan.run_id index stage.skill → rt.audit.dirs d = none →
      rt'.audit.dirs d = none) : Unused plan (index + 1) rt' := by
  intro i stage' hi hstage'
  obtain ⟨hlt, hskill, -⟩ := stage_of_accepted haccepted hstage
  obtain ⟨hlt', hskill', -⟩ := stage_of_accepted haccepted hstage'
  refine hdirs _ ?_ (h i stage' hi hstage')
  intro heq
  have := (derivedTrialId_inj hlt' hlt hskill' hskill heq).2.1
  omega

theorem Unused.keep {plan : PipelinePlan} {rt rt' : PolicyRuntime} (h : Unused plan index rt)
    (hdirs : ∀ d, rt.audit.dirs d = none → rt'.audit.dirs d = none) : Unused plan index rt' :=
  fun i stage hi hstage => hdirs _ (h i stage hi hstage)

/-- The reset does not concern the server. -/
theorem resetPhase_stands (hstate : PipelineState.RESETTING ∈ PIPELINE_TRANSITIONS state) :
    MainTriple cfg nx d lossy (Stands state (Resting lossy o.plan index)) (o.resetPhase index stage)
      fun _ => Stands .RESETTING (Resting lossy o.plan index) := by
  have hR : ∀ v b w, Resting lossy o.plan index v b w → Recoverable lossy v b w :=
    fun _ _ _ h => h.recoverable
  refine Triple.bind (ask_steady hR trivial) fun _ => ?_
  refine Triple.bind (transition_stands hR hstate) fun _ => ?_
  by_cases hreset : stage.reset_before = true
  · rw [if_pos hreset]
    exact Triple.bind (ask_steady hR trivial) fun _ => ask_steady hR trivial
  · rw [if_neg hreset]
    exact pure_stands hR ()

/-- What the server does with `prepare-skill` between two stages. -/
theorem carries_prepare {skill : PyStr} (hskill : skill.isEmpty = false) {v : Value} {b : Bool}
    {w w' : World} {r : Except Exn Result} (h : Resting lossy o.plan index v b w)
    (hcarried : CarriesOut cfg nx (.control .prepare_skill [.str skill]) w r w') :
    ∃ result, r = .ok result ∧ Readied lossy o.plan index skill v w' := by
  obtain ⟨id, halone⟩ := hcarried.1
  obtain ⟨⟨st, rfl⟩, hprepared, haudit⟩ := halone.prepare hskill (by decide) h.rest
  refine ⟨_, rfl, hcarried.calm h.toCalm, h.session, hprepared, ?_⟩
  exact h.unused.keep fun d hd => by rw [haudit]; exact hd

/-- What it does with `begin-trial` after that. -/
theorem carries_begin (hstage : o.plan.stages[index]? = some stage) {v : Value} {b : Bool}
    {w w' : World} {r : Except Exn Result} (hb : b = true)
    (h : Readied lossy o.plan index stage.skill v w)
    (hcarried : CarriesOut cfg nx (.control .begin_trial
      [.str (derivedTrialId o.plan.run_id index stage.skill), .int stage.root_seed]) w r w') :
    ∃ result, r = .ok result ∧ Trying lossy o.plan index stage.skill v b w' := by
  obtain ⟨-, hskill, hpattern⟩ := stage_of_accepted o.accepted hstage
  obtain ⟨id, halone⟩ := hcarried.1
  obtain ⟨⟨st, rfl⟩, htrial, hclosed, hdirs⟩ := halone.begin hpattern
    (PyStr.encodable_of_isAscii (FIXED_SKILL_ORDER_isAscii _ hskill).1) h.prepared
    (h.unused index stage (Nat.le_refl _) hstage)
  exact ⟨_, rfl, hcarried.calm h.toCalm, h.session, hb, htrial, hclosed,
    h.unused.mono.frame o.accepted hstage hdirs⟩

/-- What it does with `open-session` in the trial. -/
theorem carries_open (hstage : o.plan.stages[index]? = some stage) {v : Value} {b : Bool}
    {w w' : World} {r : Except Exn Result} (h : Trying lossy o.plan index stage.skill v b w)
    (hcarried : CarriesOut cfg nx (.control .open_session []) w r w') :
    ∃ grant, r = .ok (.session grant) ∧ grant.skill = stage.skill ∧
      Rolling cfg lossy o.plan index grant 0 (.str grant.session_id) b w' := by
  obtain ⟨-, hskill, hpattern⟩ := stage_of_accepted o.accepted hstage
  obtain ⟨id, halone⟩ := hcarried.1
  obtain ⟨session_id, token, now, hid, htoken, rfl, hx'⟩ :=
    halone.open_session h.running h.closed
  have hgeneration : 1 ≤ w.server.rt.generation := by
    obtain ⟨identity, hloaded⟩ := h.running.wf.ready h.running.state
    exact hloaded.generation
  refine ⟨_, rfl, rfl, hcarried.calm h.toCalm, rfl, h.trial, ?_, rfl, ?_⟩
  · rw [hx']
    refine ⟨⟨hid, htoken, hpattern, hskill, hgeneration⟩, ⟨⟨?_, h.running.lock, h.running.in_flight⟩,
      h.running.trial_id, h.running.state, h.running.skill⟩, rfl, _, rfl, rfl, rfl, rfl, rfl⟩
    exact h.running.wf.opened cfg h.running.state h.running.trial_id h.running.skill
  · rw [hx']
    exact h.unused

/-- The grant a session dictionary comes from. -/
def Opened (cfg : RuntimeConfig) (lossy : Bool) (plan : PipelinePlan) (index : Nat) (skill : PyStr)
    (session : Dict) : Stand := fun v b w =>
  ∃ grant, session = grant.to_dict ∧ grant.skill = skill ∧
    Rolling cfg lossy plan index grant 0 v b w

/-- **Preparing a stage**: the session is open at the server, and the edge knows
its grant. -/
theorem preparePhase_stands (hstage : o.plan.stages[index]? = some stage)
    (hstate : PipelineState.PREPARING_POLICY ∈ PIPELINE_TRANSITIONS state) :
    MainTriple cfg nx d lossy (Stands state (Resting lossy o.plan index))
      (o.preparePhase index stage) fun session =>
        Stands .PREPARING_POLICY (Opened cfg lossy o.plan index stage.skill session) := by
  obtain ⟨-, hskill, -⟩ := stage_of_accepted o.accepted hstage
  have hnonempty := FIXED_SKILL_ORDER_nonempty _ hskill
  refine Triple.bind (transition_stands (fun _ _ _ h => h.recoverable) hstate) fun _ => ?_
  -- the skill
  refine Triple.bind (M := fun _ => Stands .PREPARING_POLICY fun v _ w =>
    Readied lossy o.plan index stage.skill v w) ?_ fun _ => ?_
  · refine control_stands (fun _ _ _ h => h.recoverable) ?_
    intro v b w r w' h hcarried
    obtain ⟨result, hr, hreadied⟩ := carries_prepare hnonempty h hcarried
    exact ⟨result, hr, hreadied, fun _ => hreadied.recoverable⟩
  -- the trial
  refine Triple.bind (M := fun _ => Stands .PREPARING_POLICY
    (Trying lossy o.plan index stage.skill)) ?_ fun _ => ?_
  · refine Triple.bind (M := fun _ => Stands .PREPARING_POLICY fun v b w =>
      b = true ∧ Readied lossy o.plan index stage.skill v w) ?_ fun _ => ?_
    · exact Triple.update (fun _ _ _ h => h.2.2.unrefused) fun _ _ _ h => ⟨h.1, h.2.1, rfl, h.2.2⟩
    · refine control_stands (fun _ _ _ h => h.2.recoverable) ?_
      rintro v b w r w' ⟨hb, h⟩ hcarried
      obtain ⟨result, hr, htrying⟩ := carries_begin hstage hb h hcarried
      exact ⟨result, hr, htrying, fun _ => htrying.recoverable⟩
  -- the session
  have hR : ∀ session v b w, v = Value.none ∧
      (∃ grant, session = grant.to_dict ∧ grant.skill = stage.skill ∧
        Rolling cfg lossy o.plan index grant 0 (.str grant.session_id) b w) →
      Recoverable lossy v b w := by
    rintro session v b w ⟨hv, grant, -, -, h⟩
    exact { h.recoverable with session := .inl hv }
  refine Triple.bind (M := fun session => Stands .PREPARING_POLICY fun v b w => v = Value.none ∧
    ∃ grant, session = grant.to_dict ∧ grant.skill = stage.skill ∧
      Rolling cfg lossy o.plan index grant 0 (.str grant.session_id) b w) ?_ fun session => ?_
  · refine control_stands (fun _ _ _ h => h.recoverable) ?_
    intro v b w r w' h hcarried
    obtain ⟨grant, rfl, hskill, hrolling⟩ := carries_open hstage h hcarried
    have hgrant : v = Value.none ∧ ∃ g, Result.to_dict (.session grant) = g.to_dict ∧
        g.skill = stage.skill ∧
        Rolling cfg lossy o.plan index g 0 (.str g.session_id) b w' :=
      ⟨h.session, grant, rfl, hskill, hrolling⟩
    exact ⟨_, rfl, hgrant, fun _ => hR _ _ _ _ hgrant⟩
  refine Triple.bind (M := fun session_id => Stands .PREPARING_POLICY fun _ b w =>
    ∃ grant, session = grant.to_dict ∧ grant.skill = stage.skill ∧
      session_id = .str grant.session_id ∧ Rolling cfg lossy o.plan index grant 0 session_id b w)
    ?_ fun session_id => ?_
  · refine Triple.lift (fun _ _ _ h => h.unrefused (hR session)) ?_
      fun x _ _ _ _ h => h.fails (hR session) x
    rintro session_id hitem past s w ⟨hs, hlegal, -, grant, hsession, hskill, hrolling⟩
    rw [hsession] at hitem
    cases hitem
    exact ⟨hs, hlegal, grant, hsession, hskill, rfl, hrolling⟩
  · refine Triple.bind (M := fun _ => Stands .PREPARING_POLICY
      (Opened cfg lossy o.plan index stage.skill session)) ?_ fun _ => ?_
    · refine Triple.update (fun past s w h => ?_) fun past s w h => ?_
      · obtain ⟨-, -, grant, -, -, -, hrolling⟩ := h
        exact hrolling.unrefused
      · obtain ⟨hs, hlegal, grant, hsession, hskill, -, hrolling⟩ := h
        exact ⟨hs, hlegal, grant, hsession, hskill, hrolling⟩
    · refine Triple.pure (fun past s w h => ?_) fun _ _ _ h => h
      obtain ⟨-, -, grant, -, -, hrolling⟩ := h
      exact hrolling.unrefused

/-! ## §4. The rollout. -/

/-- The mappings that identify the requests of the edge have hashes. -/
def HashesRequests (nx : Numerics) : Prop :=
  ∀ grant : SessionGrant, grant.Proper → ∀ (sequence : Nat) (sent_at : Int) (observation : Dict)
    (d : Digest), sendable (grantedPayload grant sequence sent_at observation) = true →
    nx.stable_tree_hash (.map observation) = .ok d →
    ∃ h, nx.stable_tree_hash (.map
      (requestHashFields (grantedRequest grant sequence sent_at observation) d)) = .ok h

/-- What the server does with the next inference of a session. -/
theorem carries_infer (hnx : HashesRequests nx) {grant : SessionGrant} {sequence : Nat}
    {sent_at : Int} {observation : Dict} (hsent : 0 ≤ sent_at)
    (hsend : sendable (grantedPayload grant sequence sent_at observation) = true) {v : Value}
    {b : Bool} {w w' : World} {r : Except Exn Result}
    (h : Rolling cfg lossy o.plan index grant sequence v b w)
    (hcarried : CarriesOut cfg nx (.infer (grantedPayload grant sequence sent_at observation)) w r
      w') :
    ∃ response, r = .ok (.response response) ∧
      Rolling cfg lossy o.plan index grant (sequence + 1) v b w' := by
  obtain ⟨lease, hstored, hid, htoken, hsequence, hopened⟩ := h.leasing.lease
  have hwf := h.leasing.running.wf
  have hleased := hwf.lease lease hstored
  have htrial : grant.trial_id = lease.trial_id :=
    Option.some.inj (h.leasing.running.trial_id.symm.trans hleased.trial_id)
  have hskill : grant.skill = lease.skill :=
    Option.some.inj (h.leasing.running.skill.symm.trans hleased.skill)
  have hgeneration : (grant.generation : Int) = lease.generation := by
    rw [hleased.generation, h.leasing.generation]
  have hadmitted : Admitted w.server.rt (grantedRequest grant sequence sent_at observation) lease :=
    admitted_of_names hwf hstored hid.symm htoken.symm htrial hskill hgeneration hsequence.symm
  have hascii : lease.token.isAscii = true := by
    rw [htoken]
    exact h.leasing.proper.session_token.1
  obtain ⟨id, halone⟩ := hcarried.1
  obtain ⟨⟨response, rfl⟩, audit, hx', hidle, hdirs⟩ := halone.infer
    (parse_grantedPayload h.leasing.proper sequence hsent observation) h.leasing.running.toIdle
    hadmitted hascii hopened
    (hnx grant h.leasing.proper sequence sent_at observation · hsend)
  rw [hx'] at hidle
  refine ⟨response, rfl, hcarried.calm h.toCalm, h.session, h.trial, ?_, h.trial_id, ?_⟩
  · rw [hx']
    exact ⟨h.leasing.proper, ⟨hidle, h.leasing.running.trial_id, h.leasing.running.state,
      h.leasing.running.skill⟩, h.leasing.generation, lease.next, rfl, hid, htoken,
      congrArg (· + 1) hsequence, hopened⟩
  · rw [hx']
    exact h.unused.keep hdirs

/-- **An inference request** of the edge is served. -/
theorem infer_stands (hnx : HashesRequests nx) {grant : SessionGrant} {sequence : Nat}
    {sent_at : Int} {observation : Dict} (hsent : 0 ≤ sent_at) :
    MainTriple cfg nx d lossy
      (Stands state (Rolling cfg lossy o.plan index grant sequence))
      (ask (.infer (grantedPayload grant sequence sent_at observation)))
      fun _ => Stands state (Rolling cfg lossy o.plan index grant (sequence + 1)) := by
  refine Triple.perform (fun _ _ _ h => h.2.2.unrefused) ?_
  intro past s w out w' h henv
  rcases henv with ⟨hsend, r, hcarried, hout⟩ | ⟨-, rfl, x, rfl⟩
  · obtain ⟨response, rfl, hrolling⟩ := carries_infer hnx hsent hsend h.2.2 hcarried
    refine ⟨hrolling.unrefused, ?_⟩
    rcases hout with ⟨x, rfl⟩ | ⟨response, -, rfl⟩
    · exact ⟨h.2.1, hrolling.recoverable⟩
    · exact ⟨h.1, h.2.1, hrolling⟩
  · exact ⟨h.2.2.unrefused, h.2.1, h.2.2.recoverable⟩

/-- What the edge asks the server, for an open session. -/
theorem _request_stands {grant : SessionGrant} {sequence : Nat}
    (hR : ∀ v b w, R v b w → Recoverable lossy v b w) :
    MainTriple cfg nx d lossy (Stands state R) (o._request grant.to_dict (py "infer") sequence)
      fun payload past s w => (∃ sent_at observation, 0 ≤ sent_at ∧
        payload = grantedPayload grant sequence sent_at observation) ∧ Stands state R past s w := by
  have hclock : MainTriple cfg nx d lossy (Stands state R) (ask .monotonic_ns) fun now past s w =>
      (0 : Int) ≤ now ∧ Stands state R past s w := by
    refine (ask_steady (c := .monotonic_ns) hR trivial).result ?_
    intro s w t now s' w' hrun
    exact (ask_ok hrun).2.2.2 now rfl
  have hvalidate : ∀ sampled : Observation, MainTriple cfg nx d lossy (Stands state R)
      (o.observation_validator.validate sampled) fun observation past s w =>
        (∃ entries, observation = .map entries) ∧ Stands state R past s w := by
    intro sampled
    refine Triple.bind (check_stands hR _ _) fun _ => Triple.given fun _ => ?_
    refine Triple.bind (check_stands hR _ _) fun _ => Triple.given fun hmap => ?_
    have hentries : ∃ entries, sampled.payload = .map entries := by
      cases hpayload : sampled.payload with
      | map entries => exact ⟨entries, rfl⟩
      | none | bool | int | float | str | bytes | list | ndarray =>
          rw [hpayload] at hmap
          cases hmap
    refine Triple.bind hclock fun now => Triple.given fun _ => ?_
    refine Triple.bind (check_stands hR _ _) fun _ => Triple.given fun _ => ?_
    exact Triple.pure (fun _ _ _ h => h.unrefused hR) fun _ _ _ h => ⟨hentries, h⟩
  show MainTriple cfg nx d lossy (Stands state R) (do
    let sampled : Observation ← ask (.sample (.str grant.skill))
    let observation ← o.observation_validator.validate sampled
    let sent_at : Int ← ask .monotonic_ns
    pure (requestPayload (.str grant.session_id) (.str grant.session_token) (.str grant.trial_id)
      (.str grant.skill) (.int grant.generation) (py "infer") sequence sent_at observation)) _
  refine Triple.bind (ask_steady hR trivial) fun sampled => ?_
  refine Triple.bind (hvalidate sampled) fun observation => Triple.given fun hentries => ?_
  obtain ⟨entries, rfl⟩ := hentries
  refine Triple.bind hclock fun sent_at => Triple.given fun hsent => ?_
  exact Triple.pure (fun _ _ _ h => h.unrefused hR) fun _ _ _ h => ⟨⟨sent_at, entries, hsent, rfl⟩, h⟩

/-- One round of the rollout uses one sequence number. -/
theorem rolloutRound_stands (hnx : HashesRequests nx) {grant : SessionGrant} {sequence : Nat}
    (published_steps : Int) :
    MainTriple cfg nx d lossy (Stands state (Rolling cfg lossy o.plan index grant sequence))
      (o.rolloutRound stage grant.to_dict sequence published_steps)
      fun _ => Stands state (Rolling cfg lossy o.plan index grant (sequence + 1)) := by
  have hR : ∀ v b w, Rolling cfg lossy o.plan index grant (sequence + 1) v b w →
      Recoverable lossy v b w := fun _ _ _ h => h.recoverable
  refine Triple.bind (_request_stands fun _ _ _ h => h.recoverable) fun payload => ?_
  refine Triple.given fun hpayload => ?_
  obtain ⟨sent_at, observation, hsent, rfl⟩ := hpayload
  refine Triple.bind (infer_stands hnx hsent) fun response => ?_
  refine Triple.bind (check_stands hR _ _) fun _ => Triple.given fun _ => ?_
  refine Triple.bind (raising_stands hR _) fun actions => ?_
  refine Triple.bind (raising_stands hR _) fun rows => ?_
  refine Triple.bind (check_stands hR _ _) fun _ => Triple.given fun _ => ?_
  refine Triple.bind (ask_steady hR trivial) fun publish_result => ?_
  refine Triple.bind (check_stands hR _ _) fun _ => Triple.given fun _ => ?_
  refine Triple.bind (raising_stands hR _) fun row => ?_
  exact Triple.bind (ask_steady hR trivial) fun _ => pure_stands hR _

/-- **The rollout**, by induction on the chunks left. -/
theorem rolloutFrom_stands (hnx : HashesRequests nx) {grant : SessionGrant} :
    ∀ (remaining sequence : Nat) (published_steps : Int),
      MainTriple cfg nx d lossy (Stands state (Rolling cfg lossy o.plan index grant sequence))
        (o.rolloutFrom stage grant.to_dict remaining sequence published_steps)
        fun _ => Stands state fun v b w =>
          ∃ n, Rolling cfg lossy o.plan index grant n v b w := by
  intro remaining
  induction remaining with
  | zero => exact fun _ _ => raise_stands (fun _ _ _ h => h.recoverable) _ _
  | succ remaining ih =>
      intro sequence published_steps
      refine Triple.bind (rolloutRound_stands hnx published_steps) fun publish_result => ?_
      by_cases hstop : publish_result.stop_requested = true
      · rw [if_pos hstop]
        refine Triple.bind (check_stands (fun _ _ _ h => h.recoverable) _ _) fun _ =>
          Triple.given fun _ => ?_
        exact (pure_stands (fun _ _ _ h => h.recoverable) _).post
          fun _ _ _ _ h => ⟨h.1, h.2.1, _, h.2.2⟩
      · rw [if_neg hstop]
        exact ih _ _

/-- The rollout of a stage. -/
theorem rolloutPhase_stands (hnx : HashesRequests nx) {grant : SessionGrant} :
    MainTriple cfg nx d lossy
      (Stands .PREPARING_POLICY (Rolling cfg lossy o.plan index grant 0))
      (o.rolloutPhase stage grant.to_dict) fun _ => Stands .ROLLOUT fun v b w =>
        ∃ n, Rolling cfg lossy o.plan index grant n v b w := by
  refine Triple.bind (transition_stands (fun _ _ _ h => h.recoverable) (by decide)) fun _ => ?_
  refine Triple.bind (ask_steady (fun _ _ _ h => h.recoverable) trivial) fun _ => ?_
  refine Triple.bind (transition_stands (fun _ _ _ h => h.recoverable) (by decide)) fun _ => ?_
  exact rolloutFrom_stands hnx _ _ _

/-! ## §5. The end of a stage. -/

/-- What the server does with `close-session`. -/
theorem carries_close {grant : SessionGrant} {n : Nat} {v : Value} {b : Bool} {w w' : World}
    {r : Except Exn Result} (h : Rolling cfg lossy o.plan index grant n v b w)
    (hcarried : CarriesOut cfg nx (.control .close_session [.str grant.session_id]) w r w') :
    ∃ result, r = .ok result ∧ Trying lossy o.plan index grant.skill .none b w' := by
  obtain ⟨lease, hstored, hid, -⟩ := h.leasing.lease
  have hrunning := h.leasing.running
  obtain ⟨id, halone⟩ := hcarried.1
  rcases halone.close_session hrunning.toIdle with ⟨-, ⟨st, rfl⟩, hx'⟩ | ⟨hno, -⟩
  · refine ⟨_, rfl, hcarried.calm h.toCalm, rfl, h.trial, ?_, ?_, ?_⟩
    · rw [hx', ← h.trial_id]
      exact ⟨⟨hrunning.wf.dropSession, hrunning.lock, hrunning.in_flight⟩, hrunning.trial_id,
        hrunning.state, hrunning.skill⟩
    · rw [hx']
    · rw [hx']
      exact h.unused
  · exact absurd hid (hno lease hstored)

/-- What it does with `end-trial`. -/
theorem carries_end (hstage : o.plan.stages[index]? = some stage) {v : Value} {b : Bool}
    {w w' : World} {r : Except Exn Result} (h : Trying lossy o.plan index stage.skill v b w)
    (hcarried : CarriesOut cfg nx (.control .end_trial []) w r w') :
    ∃ summary, r = .ok (.trial summary) ∧ summary.status = .COMMITTED ∧
      Resting lossy o.plan (index + 1) v false w' := by
  obtain ⟨id, halone⟩ := hcarried.1
  obtain ⟨⟨summary, rfl, hstatus⟩, hrest, hdirs⟩ := halone.end_trial h.running h.closed
  exact ⟨summary, rfl, hstatus, hcarried.calm h.toCalm, h.session, rfl, hrest,
    h.unused.frame o.accepted hstage hdirs⟩

theorem committed_to_dict {summary : TrialRecord} (h : summary.status = .COMMITTED) :
    PipelineOrchestrator.committed summary.to_dict = true := by
  have hget : Dict.get? summary.to_dict "status" = some (.str (py summary.status.value)) := rfl
  unfold PipelineOrchestrator.committed
  rw [hget, h]
  decide

/-- **Closing a stage**: the session is closed and the trial committed. -/
theorem closePhase_stands (hstage : o.plan.stages[index]? = some stage) {grant : SessionGrant}
    (hskill : grant.skill = stage.skill) {n : Nat} :
    MainTriple cfg nx d lossy (Stands .ROLLOUT (Rolling cfg lossy o.plan index grant n))
      PipelineOrchestrator.closePhase
      fun _ => Stands .ROLLOUT (Resting lossy o.plan (index + 1)) := by
  refine Triple.bind (ask_steady (fun _ _ _ h => h.recoverable)
    (show (py "safe_stop:").isPrefixOf (py "rollout_complete") = false by decide)) fun _ => ?_
  refine Triple.bind (M := fun _ => Stands .ROLLOUT (Trying lossy o.plan index stage.skill))
    ?_ fun _ => ?_
  · -- the session that is closed is the one noted down
    refine Triple.read fun s₀ => ?_
    refine (Triple.given (φ := s₀._active_session_id = .str grant.session_id)
      (P := Stands .ROLLOUT (Rolling cfg lossy o.plan index grant n)) fun hsession => ?_).pre
        fun past s w h => ⟨h.1 ▸ h.2.2.2.session, h.2⟩
    rw [hsession]
    refine Triple.bind (M := fun _ => Stands .ROLLOUT fun _ b w =>
      Trying lossy o.plan index stage.skill .none b w) ?_ fun _ => ?_
    · refine control_stands (fun _ _ _ h => h.recoverable) ?_
      intro v b w r w' h hcarried
      obtain ⟨result, hr, htrying⟩ := carries_close h hcarried
      rw [hskill] at htrying
      refine ⟨result, hr, htrying, fun hlossy => ?_⟩
      exact { htrying.recoverable with
        session := .inr ⟨_, h.session, fun hno => by rw [hlossy] at hno; cases hno⟩ }
    · exact Triple.update (fun _ _ _ h => h.2.2.unrefused) fun _ _ _ h => h
  · have hR : ∀ summary v b w, PipelineOrchestrator.committed summary = true ∧
        Resting lossy o.plan (index + 1) v false w → Recoverable lossy v b w :=
      fun _ _ _ _ h => { h.2.recoverable with trial := fun _ => h.2.rest.trial_id }
    refine Triple.bind (M := fun summary => Stands .ROLLOUT fun v _ w =>
      PipelineOrchestrator.committed summary = true ∧ Resting lossy o.plan (index + 1) v false w)
      ?_ fun summary => ?_
    · refine control_stands (fun _ _ _ h => h.recoverable) ?_
      intro v b w r w' h hcarried
      obtain ⟨summary, rfl, hstatus, hresting⟩ := carries_end hstage h hcarried
      have hdone := committed_to_dict hstatus
      exact ⟨_, rfl, ⟨hdone, hresting⟩, fun _ => hR summary.to_dict _ _ _ ⟨hdone, hresting⟩⟩
    · refine Triple.bind (check_stands (hR summary) _ _) fun _ => Triple.given fun _ => ?_
      refine Triple.bind (M := fun _ => Stands .ROLLOUT (Resting lossy o.plan (index + 1))) ?_
        fun _ => pure_stands (fun _ _ _ h => h.recoverable) _
      exact Triple.update (fun _ _ _ h => h.2.2.2.unrefused) fun _ _ _ h => ⟨h.1, h.2.1, h.2.2.2⟩

/-- The gates do not concern the server. -/
theorem gatePhase_stands {rollout_result : PublishResult} {server_summary : Dict} :
    MainTriple cfg nx d lossy (Stands .ROLLOUT (Resting lossy o.plan index))
      (PipelineOrchestrator.gatePhase stage rollout_result server_summary)
      fun _ => Stands .HANDOFF (Resting lossy o.plan index) := by
  have hR : ∀ v b w, Resting lossy o.plan index v b w → Recoverable lossy v b w :=
    fun _ _ _ h => h.recoverable
  refine Triple.bind (transition_stands hR (by decide)) fun _ => ?_
  cases rollout_result.gate_result with
  | none => exact raise_stands hR _ _
  | some gate_result =>
      refine Triple.bind (check_stands hR _ _) fun _ => Triple.given fun _ => ?_
      refine Triple.bind (transition_stands hR (by decide)) fun _ => ?_
      refine Triple.bind (M := fun _ => Stands .CHECKING (Resting lossy o.plan index)) ?_
        fun checked => Triple.bind (ask_steady hR trivial) fun _ => transition_stands hR (by decide)
      unfold PipelineOrchestrator.checkPhase
      by_cases hrequired : stage.checker_required = true
      · rw [if_pos hrequired]
        refine Triple.bind (ask_steady hR trivial) fun verdict => ?_
        exact Triple.bind (check_stands hR _ _) fun _ => Triple.given fun _ => pure_stands hR _
      · rw [if_neg hrequired]
        exact pure_stands hR _

/-! ## §6. The main path. -/

/-- **One stage** leads from rest to rest. -/
theorem _run_stage_stands (hnx : HashesRequests nx) (hstage : o.plan.stages[index]? = some stage)
    (hstate : PipelineState.RESETTING ∈ PIPELINE_TRANSITIONS state) :
    MainTriple cfg nx d lossy (Stands state (Resting lossy o.plan index)) (o._run_stage index stage)
      fun _ => Stands .HANDOFF (Resting lossy o.plan (index + 1)) := by
  refine Triple.bind (resetPhase_stands hstate) fun _ => ?_
  refine Triple.bind (preparePhase_stands hstage (by decide)) fun session => ?_
  -- the session dictionary is that of a grant
  refine (Triple.exists (P := fun (grant : SessionGrant) past s w =>
    (session = grant.to_dict ∧ grant.skill = stage.skill) ∧
      Stands .PREPARING_POLICY (Rolling cfg lossy o.plan index grant 0) past s w)
    fun grant => Triple.given fun hgrant => ?_).pre fun past s w h => ?_
  · obtain ⟨rfl, hskill⟩ := hgrant
    refine Triple.bind (rolloutPhase_stands hnx) fun rollout_result => ?_
    refine (Triple.exists (P := fun (n : Nat) =>
      Stands .ROLLOUT (Rolling cfg lossy o.plan index grant n)) fun n => ?_).pre fun past s w h => ?_
    · exact Triple.bind (closePhase_stands hstage hskill) fun summary => gatePhase_stands
    · obtain ⟨hs, hlegal, n, hrolling⟩ := h
      exact ⟨n, hs, hlegal, hrolling⟩
  · obtain ⟨hs, hlegal, grant, hsession, hskill, hrolling⟩ := h
    exact ⟨grant, ⟨hsession, hskill⟩, hs, hlegal, hrolling⟩

/-- An accepted plan has a stage. -/
theorem stages_of_accepted {plan : PipelinePlan} (h : plan.validate = .ok ()) :
    plan.stages ≠ [] := by
  intro hnone
  have hskills : plan.skills = [] := congrArg (List.map StagePlan.skill) hnone
  have hrejected : plan.skills ≠ FIXED_SKILL_ORDER ∧
      ¬ (plan.skills.length = 1 ∧
        (plan.skills.all fun s => FIXED_SKILL_ORDER.contains s) = true) := by
    rw [hskills]
    decide
  unfold PipelinePlan.validate at h
  rw [if_pos hrejected] at h
  cases h

/-- The state the stages leave. -/
def afterStages (state : PipelineState) (stages : List StagePlan) : PipelineState :=
  if stages.isEmpty then state else .HANDOFF

/-- **The stages**, by induction on those left. -/
theorem runStages_stands (hnx : HashesRequests nx) :
    ∀ (stages : List StagePlan) (index : Nat) (state : PipelineState),
      (∀ i stage, stages[i]? = some stage → o.plan.stages[index + i]? = some stage) →
      PipelineState.RESETTING ∈ PIPELINE_TRANSITIONS state →
      MainTriple cfg nx d lossy (Stands state (Resting lossy o.plan index))
        (o.runStages index stages)
        fun _ => Stands (afterStages state stages)
          (Resting lossy o.plan (index + stages.length)) := by
  intro stages
  induction stages with
  | nil => exact fun index state _ _ => pure_stands (fun _ _ _ h => h.recoverable) ()
  | cons stage rest ih =>
      intro index state hstages hstate
      refine Triple.bind (_run_stage_stands hnx (hstages 0 stage rfl) hstate) fun _ => ?_
      have hrest := ih (index + 1) .HANDOFF (fun i stage' hi => by
        rw [show index + 1 + i = index + (i + 1) by omega]
        exact hstages (i + 1) stage' hi) (by decide)
      have hstate' : afterStages .HANDOFF rest = afterStages state (stage :: rest) := by
        unfold afterStages
        cases rest <;> rfl
      rw [hstate', show index + 1 + rest.length = index + (stage :: rest).length by
        rw [List.length_cons]; omega] at hrest
      exact hrest

/-- **The main path** leaves the runtime at rest, or something to recover from. -/
theorem mainPath_stands (hnx : HashesRequests nx) :
    MainTriple cfg nx d lossy (Stands .CREATED (Resting lossy o.plan 0)) o.mainPath
      fun _ => Stands .COMPLETED (Resting lossy o.plan o.plan.stages.length) := by
  have hR : ∀ k v b w, Resting lossy o.plan k v b w → Recoverable lossy v b w :=
    fun _ _ _ _ h => h.recoverable
  have hsome : afterStages .PREFLIGHT o.plan.stages = .HANDOFF := by
    unfold afterStages
    cases hstages : o.plan.stages with
    | nil => exact absurd hstages (stages_of_accepted o.accepted)
    | cons => rfl
  refine Triple.bind (transition_stands (hR 0) (by decide)) fun _ => ?_
  refine Triple.bind (ask_steady (hR 0) trivial) fun _ => ?_
  refine Triple.bind (ask_steady (hR 0) trivial) fun _ => ?_
  refine Triple.bind (ask_steady (hR 0) trivial) fun _ => ?_
  have hstages : MainTriple cfg nx d lossy (Stands .PREFLIGHT (Resting lossy o.plan 0))
      (o.runStages 0 o.plan.stages) fun _ => Stands (afterStages .PREFLIGHT o.plan.stages)
        (Resting lossy o.plan (0 + o.plan.stages.length)) :=
    runStages_stands hnx o.plan.stages 0 .PREFLIGHT
      (fun i stage hi => by rw [Nat.zero_add]; exact hi) (by decide)
  rw [hsome, Nat.zero_add] at hstages
  refine Triple.bind hstages fun _ => ?_
  exact Triple.bind (transition_stands (hR _) (by decide)) fun _ => ask_steady (hR _) trivial

end Rules

end OvenRuntime
