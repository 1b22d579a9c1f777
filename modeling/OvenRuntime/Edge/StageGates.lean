/-
  OvenRuntime.Edge.StageGates
  ───────────────────────────
  No stage is skipped and none of its gates: whenever `run` returns, its trace
  is a sequence of stages, each of which shows the stop on passed joint-rest
  evidence, the executor stop, the closed session, the committed trial and the
  passed checker, in this order, before it is completed — and nothing moves
  outside the stages or after the completion of one.
-/
import OvenRuntime.Edge.OrchestratorRules
import OvenRuntime.Lib.History

namespace OvenRuntime

open EffectProgram History

/-! ## §1. What a trace shows. -/

/-- A publish that asked for the stop on passed joint-rest evidence. -/
def isStopPublish (ev : OrchEvent) : Prop :=
  ∃ actions, ∃ result : PublishResult, ∃ gate, ev = ⟨.publish actions, .ok result⟩ ∧
    result.stop_requested = true ∧ result.gate_result = some gate ∧ gate.passed = true

/-- The executor stopped. -/
def isExecutorStop (ev : OrchEvent) : Prop := ∃ reason, ev = ⟨.stop reason, .ok ()⟩

/-- A control command was answered by a valid success with this result. -/
def isControl (command : ControlCommand) (result : Dict) (ev : OrchEvent) : Prop :=
  ∃ arguments, ∃ response : Dict, ev = ⟨.control command arguments, .ok response⟩ ∧
    controlResult response = .ok result

/-- The session was closed. -/
def isCloseSession (ev : OrchEvent) : Prop := ∃ result, isControl .close_session result ev

/-- The trial ended, and its summary says that it is committed. -/
def isCommit (ev : OrchEvent) : Prop :=
  ∃ summary, isControl .end_trial summary ev ∧ PipelineOrchestrator.committed summary = true

/-- The checker accepted the stage. -/
def isCheckerPass (skill : PyStr) (ev : OrchEvent) : Prop :=
  ∃ result : CheckerResult, ev = ⟨.checker_evaluate skill, .ok result⟩ ∧ result.passed = true

/-- The edge audit completed a stage. -/
def isCompleteStage (ev : OrchEvent) : Prop :=
  ∃ evidence gate checker summary,
    ev = ⟨.complete_stage evidence gate checker summary, .ok ()⟩

/-- A reset, a skill preparation, an inference or a publish was asked for. -/
def isMotion (ev : OrchEvent) : Prop :=
  match ev.call with
  | .reset _ | .control .prepare_skill _ | .infer _ | .publish _ => True
  | _ => False

/-- The call may be one of the stage, between its start and its completion:
what names a skill names that of the stage. -/
def OfStage (stage : StagePlan) (ev : OrchEvent) : Prop :=
  match ev.call with
  | .reset skill | .begin_stage skill | .checker_evaluate skill => skill = stage.skill
  | .control .prepare_skill arguments => arguments = [.str stage.skill]
  | .start_stage _ _ _ | .complete_stage _ _ _ _ => False
  | _ => True

/-- The gates of a stage, in order. -/
def StagePlan.gates (stage : StagePlan) : List (OrchEvent → Prop) :=
  [isStopPublish, isExecutorStop, isCloseSession, isCommit] ++
    if stage.checker_required then [isCheckerPass stage.skill] else []

/-- The trace of one stage: it starts, passes its gates, is completed, and
does not move again. -/
def StageGated (run_id : PyStr) (staged : StagePlan × Nat) (segment : List OrchEvent) : Prop :=
  ∃ before done after,
    segment = ⟨.start_stage staged.2 staged.1.skill
        (derivedTrialId run_id staged.2 staged.1.skill), .ok ()⟩ :: before ++ done :: after ∧
      InOrder staged.1.gates before ∧ isCompleteStage done ∧
      (∀ ev ∈ before ++ after, OfStage staged.1 ev) ∧ ∀ ev ∈ after, ¬ isMotion ev

/-- The trace of a run that passed every gate: one gated segment for each
stage of the plan, in plan order, and no motion around them. -/
def Gated (plan : PipelinePlan) (t : List OrchEvent) : Prop :=
  ∃ prologue segments epilogue, t = prologue ++ segments.flatten ++ epilogue ∧
    List.Forall₂ (StageGated plan.run_id) plan.stages.zipIdx segments ∧
    (∀ ev ∈ prologue ++ epilogue, ¬ isMotion ev)

/-! ## §2. The phases of a stage. -/

namespace PipelineOrchestrator

section Phases

variable {W : Type} {env : Environment Component Component.Answer Raised W}
  {s s' : OrchestratorState} {w w' : W} {t : List OrchEvent}

/-- Every call of the program has the property. -/
def Emits (env : Environment Component Component.Answer Raised W) (P : OrchEvent → Prop)
    {α : Type} (m : Orch α) : Prop :=
  Preserves env (fun past _ _ => ∀ ev ∈ past, P ev) m

variable (env) in
theorem Emits.compositional (P : OrchEvent → Prop) :
    Compositional fun {α : Type} (m : Orch α) => Emits env P m := Preserves.compositional

theorem Emits.ask {P : OrchEvent → Prop} {c : Component} (h : ∀ out, P ⟨c, out⟩) :
    Emits env P (ask c) := by
  apply Preserves.perform
  intro past s w out w' hpast _ ev hev
  rcases List.mem_append.mp hev with hev | hev
  · exact hpast ev hev
  · rw [List.mem_singleton.mp hev]
    exact h out

theorem Emits.update {P : OrchEvent → Prop} (f : OrchestratorState → OrchestratorState) :
    Emits env P (Program.update f) := Preserves.update fun _ _ _ h => h

theorem Emits.transition {P : OrchEvent → Prop} {target : PipelineState}
    (h : ∀ out, P ⟨.set_pipeline_state target, out⟩) : Emits env P (_transition target) :=
  (Emits.compositional env P).bind (_enter_part (Emits.compositional env P) Emits.update target)
    fun _ => Emits.ask h

/-- What a program emits is in the trace of its run. -/
theorem Emits.trace {P : OrchEvent → Prop} {α : Type} {m : Orch α} {r : Except Raised α}
    (h : Emits env P m) (hrun : Runs env m s w t r s' w') : ∀ ev ∈ t, P ev :=
  h [] s w t r s' w' (by simp) hrun

/-- The start of a stage, and the reset if it has one. -/
theorem resetPhase_ok {o : PipelineOrchestrator} {index : Nat} {stage : StagePlan} {u : Unit}
    (h : Runs env (o.resetPhase index stage) s w t (.ok u) s' w') :
    ∃ rest, t = ⟨.start_stage index stage.skill
        (derivedTrialId o.plan.run_id index stage.skill), .ok ()⟩ :: rest ∧
      ∀ ev ∈ rest, OfStage stage ev := by
  obtain ⟨_, _, _, _, rest, ht, hstart, hrest⟩ := runs_bind_ok h
  obtain ⟨rfl, -⟩ := ask_ok hstart
  refine ⟨rest, ht, Emits.trace ?_ hrest⟩
  have hQ := Emits.compositional env (OfStage stage)
  refine hQ.bind (Emits.transition fun _ => trivial) fun _ => ?_
  by_cases hreset : stage.reset_before = true
  · rw [if_pos hreset]
    exact hQ.bind (Emits.ask fun _ => rfl) fun _ => Emits.ask fun _ => trivial
  · rw [if_neg hreset]
    exact hQ.pure ()

theorem preparePhase_emits (o : PipelineOrchestrator) (index : Nat) (stage : StagePlan) :
    Emits env (OfStage stage) (o.preparePhase index stage) := by
  have hQ := Emits.compositional env (OfStage stage)
  refine hQ.bind (Emits.transition fun _ => trivial) fun _ => ?_
  refine hQ.bind (_control_part hQ (Emits.ask fun _ => rfl)) fun _ => ?_
  refine hQ.bind (hQ.bind (Emits.update _) fun _ =>
    _control_part hQ (Emits.ask fun _ => trivial)) fun _ => ?_
  refine hQ.bind (_control_part hQ (Emits.ask fun _ => trivial)) fun session => ?_
  exact hQ.bind (hQ.lift _) fun _ => hQ.bind (Emits.update _) fun _ => hQ.pure _

theorem rolloutPhase_emits (o : PipelineOrchestrator) (stage : StagePlan) (session : Dict) :
    Emits env (OfStage stage) (o.rolloutPhase stage session) := by
  have hQ := Emits.compositional env (OfStage stage)
  refine hQ.bind (Emits.transition fun _ => trivial) fun _ => ?_
  refine hQ.bind (Emits.ask fun _ => rfl) fun _ => ?_
  refine hQ.bind (Emits.transition fun _ => trivial) fun _ => ?_
  refine _rollout_part hQ ?_ o stage session
  intro c hc
  apply Emits.ask
  intro out
  show OfStage stage ⟨c, out⟩
  unfold OfStage
  cases c <;> trivial

/-- A round that returns ends with its publish and the row it recorded. -/
theorem rolloutRound_ok {o : PipelineOrchestrator} {stage : StagePlan} {session : Dict}
    {sequence : Nat} {published_steps : Int} {result : PublishResult}
    (h : Runs env (o.rolloutRound stage session sequence published_steps) s w t (.ok result)
      s' w') :
    ∃ before rows row, t = before ++ [⟨.publish rows, .ok result⟩, ⟨.record_rollout row, .ok ()⟩] := by
  obtain ⟨_, _, _, t₁, _, ht, -, h₁⟩ := runs_bind_ok h
  obtain ⟨response, _, _, t₂, _, rfl, -, h₂⟩ := runs_bind_ok h₁
  obtain ⟨_, _, _, t₃, _, rfl, -, h₃⟩ := runs_bind_ok h₂
  obtain ⟨actions, _, _, t₄, _, rfl, -, h₄⟩ := runs_bind_ok h₃
  obtain ⟨rows, _, _, t₅, _, rfl, -, h₅⟩ := runs_bind_ok h₄
  obtain ⟨_, _, _, t₆, _, rfl, -, h₆⟩ := runs_bind_ok h₅
  obtain ⟨published, _, _, _, _, rfl, hpublish, h₇⟩ := runs_bind_ok h₆
  obtain ⟨rfl, -⟩ := ask_ok hpublish
  obtain ⟨_, _, _, _, _, rfl, hcount, h₈⟩ := runs_bind_ok h₇
  obtain ⟨-, rfl, -⟩ := check_ok hcount
  obtain ⟨row, _, _, _, _, rfl, hrow, h₉⟩ := runs_bind_ok h₈
  obtain ⟨-, rfl, -⟩ := raising_ok hrow
  obtain ⟨_, _, _, _, _, rfl, hrecord, hend⟩ := runs_bind_ok h₉
  obtain ⟨rfl, -⟩ := ask_ok hrecord
  obtain ⟨rfl, hresult, -⟩ := runs_pure.mp hend
  cases hresult
  exact ⟨t₁ ++ (t₂ ++ (t₃ ++ (t₄ ++ (t₅ ++ t₆)))), rows, row, by simp [ht]⟩

/-- **The rollout only returns on a stop with passed joint-rest evidence.**
By induction on the chunks left: the round before the return is the one. -/
theorem rolloutFrom_ok {o : PipelineOrchestrator} {stage : StagePlan} {session : Dict}
    {remaining sequence : Nat} {published_steps : Int} {result : PublishResult}
    (h : Runs env (o.rolloutFrom stage session remaining sequence published_steps) s w t
      (.ok result) s' w') : InOrder [isStopPublish] t := by
  induction remaining generalizing s w t sequence published_steps with
  | zero => cases (runs_raise.mp h).2.1
  | succ remaining ih =>
      obtain ⟨published, s₁, w₁, t₁, t₂, ht, hround, hrest⟩ := runs_bind_ok h
      by_cases hstop : published.stop_requested = true
      · rw [if_pos hstop] at hrest
        obtain ⟨_, _, _, _, _, rfl, hgate, -⟩ := runs_bind_ok hrest
        obtain ⟨hpassed, -⟩ := check_ok hgate
        obtain ⟨before, rows, row, rfl⟩ := rolloutRound_ok hround
        rw [ht]
        refine InOrder.append_right (InOrder.append_left ?_ before) _
        refine ⟨[], _, _, rfl, ?_, trivial⟩
        unfold gatePassed at hpassed
        cases hg : published.gate_result with
        | none =>
            rw [hg] at hpassed
            cases hpassed
        | some gate =>
            rw [hg] at hpassed
            exact ⟨rows, published, gate, rfl, hstop, hg, hpassed⟩
      · rw [if_neg hstop] at hrest
        rw [ht]
        exact (ih hrest).append_left t₁

theorem rolloutPhase_ok {o : PipelineOrchestrator} {stage : StagePlan} {session : Dict}
    {result : PublishResult}
    (h : Runs env (o.rolloutPhase stage session) s w t (.ok result) s' w') :
    InOrder [isStopPublish] t := by
  obtain ⟨_, _, _, t₁, _, ht, -, h₁⟩ := runs_bind_ok h
  obtain ⟨_, _, _, t₂, _, rfl, -, h₂⟩ := runs_bind_ok h₁
  obtain ⟨_, _, _, t₃, _, rfl, -, h₃⟩ := runs_bind_ok h₂
  rw [ht]
  exact (((rolloutFrom_ok h₃).append_left t₃).append_left t₂).append_left t₁

/-- Three calls close a stage: stop, close the session, end the trial. -/
theorem closePhase_ok {summary : Dict} (h : Runs env closePhase s w t (.ok summary) s' w') :
    InOrder [isExecutorStop, isCloseSession, isCommit] t ∧
      (∀ stage, ∀ ev ∈ t, OfStage stage ev) := by
  obtain ⟨_, _, _, _, _, ht, hstop, h₁⟩ := runs_bind_ok h
  obtain ⟨rfl, -⟩ := ask_ok hstop
  obtain ⟨_, _, _, _, _, rfl, hclose, hend⟩ := runs_bind_ok h₁
  -- closing the session is one call between a read and an update
  obtain ⟨self, _, _, _, _, rfl, hread, hc₁⟩ := runs_bind_ok hclose
  obtain ⟨rfl, -⟩ := runs_read.mp hread
  obtain ⟨closed, _, _, _, _, rfl, hcontrol, hc₂⟩ := runs_bind_ok hc₁
  obtain ⟨response, rfl, hresponse, -⟩ := _control_ok hcontrol
  obtain ⟨rfl, -⟩ := runs_update.mp hc₂
  -- so is ending the trial, with the check on its summary
  obtain ⟨ended, _, _, _, _, rfl, hcontrol', he₁⟩ := runs_bind_ok hend
  obtain ⟨response', rfl, hresponse', -⟩ := _control_ok hcontrol'
  obtain ⟨_, _, _, _, _, rfl, hcheck, he₂⟩ := runs_bind_ok he₁
  obtain ⟨hcommitted, rfl, -⟩ := check_ok hcheck
  obtain ⟨_, _, _, _, _, rfl, hupdate, he₃⟩ := runs_bind_ok he₂
  obtain ⟨rfl, -⟩ := runs_update.mp hupdate
  obtain ⟨rfl, -⟩ := runs_pure.mp he₃
  subst ht
  constructor
  · refine ⟨[], _, _, rfl, ⟨_, rfl⟩, [], _, _, rfl, ⟨closed, _, response, rfl, hresponse⟩, ?_⟩
    exact InOrder.single ⟨ended, ⟨_, response', rfl, hresponse'⟩, hcommitted⟩
  · intro stage ev hev
    simp only [List.nil_append, List.append_nil, List.cons_append, List.mem_cons,
      List.not_mem_nil, or_false] at hev
    rcases hev with rfl | rfl | rfl <;> trivial

/-- The checker has passed when the stage asks for it. -/
theorem checkPhase_ok {stage : StagePlan} {checked : CheckerResult × EvidenceStatus}
    (h : Runs env (checkPhase stage) s w t (.ok checked) s' w') :
    InOrder (if stage.checker_required then [isCheckerPass stage.skill] else []) t ∧
      ∀ ev ∈ t, OfStage stage ev := by
  unfold checkPhase at h
  by_cases hreq : stage.checker_required = true
  · rw [if_pos hreq] at h
    rw [if_pos hreq]
    obtain ⟨verdict, _, _, _, _, ht, heval, h₁⟩ := runs_bind_ok h
    obtain ⟨rfl, -⟩ := ask_ok heval
    obtain ⟨_, _, _, _, _, rfl, hcheck, h₂⟩ := runs_bind_ok h₁
    obtain ⟨hpassed, rfl, -⟩ := check_ok hcheck
    obtain ⟨rfl, -⟩ := runs_pure.mp h₂
    subst ht
    refine ⟨InOrder.single ⟨verdict, rfl, hpassed⟩, ?_⟩
    intro ev hev
    rw [List.mem_singleton.mp hev]
    exact rfl
  · rw [if_neg hreq] at h
    rw [if_neg hreq]
    obtain ⟨rfl, -⟩ := runs_pure.mp h
    exact ⟨trivial, by simp⟩

/-- The last phase: the checker, the completion, and the handoff. -/
theorem gatePhase_ok {stage : StagePlan} {result : PublishResult} {summary : Dict} {u : Unit}
    (h : Runs env (gatePhase stage result summary) s w t (.ok u) s' w') :
    ∃ before done after, t = before ++ done :: after ∧
      InOrder (if stage.checker_required then [isCheckerPass stage.skill] else []) before ∧
      isCompleteStage done ∧ (∀ ev ∈ before ++ after, OfStage stage ev) ∧
      ∀ ev ∈ after, ¬ isMotion ev := by
  obtain ⟨_, _, _, _, _, ht, hgate, h₁⟩ := runs_bind_ok h
  obtain rfl := _transition_ok hgate
  cases hg : result.gate_result with
  | none =>
      rw [hg] at h₁
      cases (runs_raise.mp h₁).2.1
  | some gate =>
      rw [hg] at h₁
      obtain ⟨_, _, _, _, _, rfl, hpassed, h₂⟩ := runs_bind_ok h₁
      obtain ⟨-, rfl, -⟩ := check_ok hpassed
      obtain ⟨_, _, _, _, _, rfl, hchecking, h₃⟩ := runs_bind_ok h₂
      obtain rfl := _transition_ok hchecking
      obtain ⟨checked, _, _, tc, _, rfl, hcheck, h₄⟩ := runs_bind_ok h₃
      obtain ⟨horder, hstage⟩ := checkPhase_ok hcheck
      obtain ⟨_, _, _, _, _, rfl, hdone, h₅⟩ := runs_bind_ok h₄
      obtain ⟨rfl, -⟩ := ask_ok hdone
      obtain rfl := _transition_ok h₅
      refine ⟨[⟨.set_pipeline_state .JOINT_GATE, .ok ()⟩,
        ⟨.set_pipeline_state .CHECKING, .ok ()⟩] ++ tc,
        ⟨.complete_stage (stageEvidence result.reason checked.2) gate checked.1 summary, .ok ()⟩,
        [⟨.set_pipeline_state .HANDOFF, .ok ()⟩], ?_, horder.append_left _,
        ⟨_, _, _, _, rfl⟩, ?_, ?_⟩
      · rw [ht]
        simp
      · intro ev hev
        simp only [List.mem_append, List.mem_cons, List.not_mem_nil, or_false] at hev
        rcases hev with ((rfl | rfl) | hev) | rfl
        · trivial
        · trivial
        · exact hstage ev hev
        · trivial
      · intro ev hev
        rw [List.mem_singleton.mp hev]
        exact fun h => h

/-! ## §3. Stages and runs. -/

/-- A stage that returns has shown all its gates. -/
theorem _run_stage_ok {o : PipelineOrchestrator} {index : Nat} {stage : StagePlan} {u : Unit}
    (h : Runs env (o._run_stage index stage) s w t (.ok u) s' w') :
    StageGated o.plan.run_id (stage, index) t := by
  obtain ⟨_, _, _, _, _, ht, hreset, h₁⟩ := runs_bind_ok h
  obtain ⟨session, _, _, tp, _, rfl, hprepare, h₂⟩ := runs_bind_ok h₁
  obtain ⟨result, _, _, tr, _, rfl, hrollout, h₃⟩ := runs_bind_ok h₂
  obtain ⟨summary, _, _, tc, _, rfl, hclose, hgate⟩ := runs_bind_ok h₃
  obtain ⟨rest, rfl, hrest⟩ := resetPhase_ok hreset
  obtain ⟨horder, hclosed⟩ := closePhase_ok hclose
  obtain ⟨before, done, after, rfl, hcheck, hdone, hstage, hstill⟩ := gatePhase_ok hgate
  refine ⟨rest ++ tp ++ tr ++ tc ++ before, done, after, by simp [ht], ?_, hdone, ?_, hstill⟩
  · have hstop := (rolloutPhase_ok hrollout).append_left (rest ++ tp)
    have hgates := (hstop.append horder).append hcheck
    simpa only [StagePlan.gates, List.cons_append, List.nil_append] using hgates
  · intro ev hev
    simp only [List.mem_append] at hev
    rcases hev with ((((hev | hev) | hev) | hev) | hev) | hev
    · exact hrest ev hev
    · exact (preparePhase_emits o index stage).trace hprepare ev hev
    · exact (rolloutPhase_emits o stage session).trace hrollout ev hev
    · exact hclosed stage ev hev
    · exact hstage ev (List.mem_append_left _ hev)
    · exact hstage ev (List.mem_append_right _ hev)

/-- The stages of a plan, by induction: one segment each, in order. -/
theorem runStages_ok {o : PipelineOrchestrator} {index : Nat} {stages : List StagePlan} {u : Unit}
    (h : Runs env (o.runStages index stages) s w t (.ok u) s' w') :
    ∃ segments : List (List OrchEvent), t = segments.flatten ∧
      List.Forall₂ (StageGated o.plan.run_id) (stages.zipIdx index) segments := by
  induction stages generalizing s w t index with
  | nil =>
      obtain ⟨rfl, -⟩ := runs_pure.mp h
      exact ⟨[], rfl, .nil⟩
  | cons stage rest ih =>
      obtain ⟨_, _, _, segment, _, ht, hstage, hrest⟩ := runs_bind_ok h
      obtain ⟨segments, rfl, hall⟩ := ih hrest
      exact ⟨segment :: segments, ht, .cons (_run_stage_ok hstage) hall⟩

/-- The handlers of `run` always raise. -/
theorem onFailure_raises {x : Raised} {r : Dict}
    (h : Runs env (onFailure x) s w t (.ok r) s' w') : False := by
  obtain ⟨_, _, _, _, _, -, -, hraise⟩ := runs_bind_ok h
  cases (runs_raise.mp hraise).2.1

end Phases

end PipelineOrchestrator

open PipelineOrchestrator in
/-- **A run that returns has passed every gate of every stage**, whatever the
components do. -/
theorem run_gated (o : PipelineOrchestrator) {W : Type}
    (env : Environment Component Component.Answer Raised W) (w w' : W) (t : List OrchEvent)
    (r : Dict) (s' : OrchestratorState) (h : Runs env o.run {} w t (.ok r) s' w') :
    Gated o.plan t := by
  obtain ⟨approved, _, _, _, _, ht, happrove, h₁⟩ := runs_bind_ok h
  obtain ⟨rfl, -⟩ := ask_ok happrove
  obtain ⟨_, _, _, _, _, rfl, hcheck, h₂⟩ := runs_bind_ok h₁
  obtain ⟨-, rfl, -⟩ := check_ok hcheck
  obtain ⟨_, _, _, _, _, rfl, hbegin, h₃⟩ := runs_bind_ok h₂
  obtain ⟨rfl, -⟩ := ask_ok hbegin
  -- only the `try` block returns
  rcases runs_attempt.mp h₃ with ⟨b, hmain, -⟩ | ⟨x, _, _, _, _, -, -, hfail⟩
  · obtain ⟨_, _, _, _, _, rfl, hpreflight, h₄⟩ := runs_bind_ok hmain
    obtain rfl := _transition_ok hpreflight
    obtain ⟨_, _, _, _, _, rfl, hsource, h₅⟩ := runs_bind_ok h₄
    obtain ⟨rfl, -⟩ := ask_ok hsource
    obtain ⟨_, _, _, _, _, rfl, hreset, h₆⟩ := runs_bind_ok h₅
    obtain ⟨rfl, -⟩ := ask_ok hreset
    obtain ⟨_, _, _, _, _, rfl, hexecutor, h₇⟩ := runs_bind_ok h₆
    obtain ⟨rfl, -⟩ := ask_ok hexecutor
    obtain ⟨_, _, _, _, _, rfl, hstages, h₈⟩ := runs_bind_ok h₇
    obtain ⟨segments, rfl, hall⟩ := runStages_ok hstages
    obtain ⟨_, _, _, _, _, rfl, hcompleted, hdone⟩ := runs_bind_ok h₈
    obtain rfl := _transition_ok hcompleted
    obtain ⟨rfl, -⟩ := ask_ok hdone
    refine ⟨[⟨.approve_run o.plan.run_id o.plan.skills, .ok approved⟩,
      ⟨.audit_begin o.plan.run_id o.plan.skills, .ok ()⟩,
      ⟨.set_pipeline_state .PREFLIGHT, .ok ()⟩, ⟨.observation_preflight, .ok ()⟩,
      ⟨.reset_preflight, .ok ()⟩, ⟨.executor_preflight, .ok ()⟩], segments,
      [⟨.set_pipeline_state .COMPLETED, .ok ()⟩, ⟨.audit_complete, .ok b⟩], ?_, hall, ?_⟩
    · rw [ht]
      simp
    · intro ev hev
      simp only [List.cons_append, List.nil_append, List.mem_cons, List.not_mem_nil,
        or_false] at hev
      rcases hev with rfl | rfl | rfl | rfl | rfl | rfl | rfl | rfl <;> exact fun h => h
  · exact (onFailure_raises hfail).elim

/-- Components that answer as they should; the gate ends every second chunk. -/
def alternateAnswer (c : Component) (chunks : Nat) : Except Raised c.Answer × Nat :=
  match c with
  | .publish actions =>
      (if chunks % 2 = 0 then .ok publishedWhole
        else (sampleAnswer (fun _ => none) (.publish actions) ()).1, chunks + 1)
  | c => ((sampleAnswer (fun _ => none) c ()).1, chunks)

def OrchEvent.publishes (ev : OrchEvent) : Bool :=
  match ev.call with
  | .publish _ => true
  | _ => false

/-- The whole plan, with two chunks in every stage. -/
theorem run_gated_whole :
    ((wholeOrchestrator.run.trace alternateAnswer {} 0).filter OrchEvent.publishes).length = 8 ∧
      Gated wholeOrchestrator.plan (wholeOrchestrator.run.trace alternateAnswer {} 0) := by
  obtain ⟨r, s', w', hrun⟩ := Program.runs_returns
    (show wholeOrchestrator.run.returns alternateAnswer {} 0 = true by decide +kernel)
  exact ⟨by decide +kernel, run_gated wholeOrchestrator _ 0 w' _ r s' hrun⟩

end OvenRuntime
