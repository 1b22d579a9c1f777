/-
  OvenRuntime.Edge.OrchestratorRules
  ──────────────────────────────────
  What the statements of the orchestrator leave behind when they return, and
  what a compositional property of the main path comes down to: the calls
  that leave the attributes alone, the transitions, and the five control
  commands of a stage.
-/
import OvenRuntime.Edge.Orchestrator

namespace OvenRuntime

open EffectProgram

/-! ## §1. Statements that return. -/

section Rules

variable {W : Type} {env : Environment Component Component.Answer Raised W}
  {s s' : OrchestratorState} {w w' : W} {t : List OrchEvent}

theorem ask_ok {c : Component} {a : c.Answer} (h : Runs env (ask c) s w t (.ok a) s' w') :
    t = [⟨c, .ok a⟩] ∧ s' = s ∧ env c w (.ok a) w' := runs_perform.mp h

theorem raising_ok {α : Type} {r : Except Exn α} {a : α}
    (h : Runs env (raising r) s w t (.ok a) s' w') : r = .ok a ∧ t = [] ∧ s' = s ∧ w' = w := by
  obtain ⟨rfl, hr, rfl, rfl⟩ := runs_lift.mp h
  cases r with
  | error e => cases hr
  | ok b =>
      cases hr
      exact ⟨rfl, rfl, rfl, rfl⟩

theorem check_ok {b : Bool} {e : Exn} {u : Unit}
    (h : Runs env (check b e) s w t (.ok u) s' w') : b = true ∧ t = [] ∧ s' = s ∧ w' = w := by
  obtain ⟨rfl, hr, rfl, rfl⟩ := runs_require.mp h
  cases b with
  | false => cases hr
  | true => exact ⟨rfl, rfl, rfl, rfl⟩

/-- A legal transition changes the state and makes no call. -/
theorem _enter_ok {target : PipelineState} {u : Unit}
    (h : Runs env (_enter target) s w t (.ok u) s' w') :
    target ∈ PIPELINE_TRANSITIONS s.state ∧ t = [] ∧ w' = w ∧
      s' = { s with state := target, attempted := s.attempted ++ [(s.state, target)] } := by
  obtain ⟨self, _, _, _, _, ht, hread, h₁⟩ := runs_bind_ok h
  obtain ⟨rfl, hself, rfl, rfl⟩ := runs_read.mp hread
  cases hself
  obtain ⟨_, _, _, _, _, rfl, hupd, h₂⟩ := runs_bind_ok h₁
  obtain ⟨rfl, -, rfl, rfl⟩ := runs_update.mp hupd
  obtain ⟨_, _, _, _, _, rfl, hens, h₃⟩ := runs_bind_ok h₂
  obtain ⟨hens, rfl, rfl, rfl⟩ := raising_ok hens
  obtain ⟨rfl, -, rfl, rfl⟩ := runs_update.mp h₃
  subst ht
  refine ⟨?_, rfl, rfl, rfl⟩
  unfold ensure_pipeline_transition at hens
  by_contra hno
  rw [if_neg hno] at hens
  cases hens

/-- A legal transition makes no call and succeeds. -/
theorem _enter_legal {target : PipelineState} {r : Except Raised Unit}
    (hlegal : target ∈ PIPELINE_TRANSITIONS s.state)
    (h : Runs env (_enter target) s w t r s' w') :
    t = [] ∧ r = .ok () ∧ w' = w ∧
      s' = { s with state := target, attempted := s.attempted ++ [(s.state, target)] } := by
  have hens : ensure_pipeline_transition s.state target = .ok () := if_pos hlegal
  have h : Runs env (raising (ensure_pipeline_transition s.state target) >>= fun _ =>
      Program.update fun s : OrchestratorState => { s with state := target })
      { s with attempted := s.attempted ++ [(s.state, target)] } w t r s' w' := h
  rw [hens] at h
  obtain ⟨rfl, rfl, rfl, rfl⟩ := runs_update.mp (runs_lift_bind.mp h)
  exact ⟨rfl, rfl, rfl, rfl⟩

/-- A transition tells the edge audit. -/
theorem _transition_ok {target : PipelineState} {u : Unit}
    (h : Runs env (_transition target) s w t (.ok u) s' w') :
    t = [⟨.set_pipeline_state target, .ok ()⟩] := by
  obtain ⟨_, _, _, _, _, ht, henter, hask⟩ := runs_bind_ok h
  obtain ⟨-, rfl, -⟩ := _enter_ok henter
  obtain ⟨rfl, -⟩ := ask_ok hask
  exact ht

/-- What a control call comes to, by what the client returned or raised. -/
def controlled (out : Except Raised Dict) : Except Raised Dict :=
  out.bind fun response => (controlResult response).mapError .exn

/-- A control call is one call. -/
theorem runs_control {command : ControlCommand} {arguments : List Value}
    {r : Except Raised Dict} :
    Runs env (_control command arguments) s w t r s' w' ↔
      ∃ out : Except Raised Dict, t = [⟨.control command arguments, out⟩] ∧ s' = s ∧
        env (.control command arguments) w out w' ∧ r = controlled out := by
  show Runs env (ask (.control command arguments) >>= _) s w t r s' w' ↔ _
  rw [runs_bind]
  constructor
  · rintro (⟨x, hask, rfl⟩ | ⟨response, s₁, w₁, t₁, t₂, rfl, hask, hrest⟩)
    · obtain ⟨rfl, rfl, henv⟩ := runs_perform.mp hask
      exact ⟨.error x, rfl, rfl, henv, rfl⟩
    · obtain ⟨rfl, rfl, henv⟩ := runs_perform.mp hask
      obtain ⟨rfl, rfl, rfl, rfl⟩ := runs_lift.mp hrest
      exact ⟨.ok response, rfl, rfl, henv, rfl⟩
  · rintro ⟨out, rfl, rfl, henv, rfl⟩
    cases out with
    | error x => exact .inl ⟨x, runs_perform.mpr ⟨rfl, rfl, henv⟩, rfl⟩
    | ok response =>
        exact .inr ⟨response, s', w', _, [], rfl, runs_perform.mpr ⟨rfl, rfl, henv⟩,
          runs_lift.mpr ⟨rfl, rfl, rfl, rfl⟩⟩

/-- A control call that is a success. -/
theorem _control_ok {command : ControlCommand} {arguments : List Value} {result : Dict}
    (h : Runs env (_control command arguments) s w t (.ok result) s' w') :
    ∃ response : Dict, t = [⟨.control command arguments, .ok response⟩] ∧
      controlResult response = .ok result ∧ s' = s ∧
      env (.control command arguments) w (.ok response) w' := by
  obtain ⟨out, ht, hs, henv, hr⟩ := runs_control.mp h
  cases out with
  | error x => cases hr
  | ok response =>
      refine ⟨response, ht, ?_, hs, henv⟩
      have hr : (controlResult response).mapError Raised.exn = .ok result := hr.symm
      cases hc : controlResult response with
      | error e =>
          rw [hc] at hr
          cases hr
      | ok result' =>
          rw [hc] at hr
          cases hr
          rfl

end Rules

/-! ## §2. The parts of the main path. -/

/-- The calls of the rollout loop. -/
def Component.ofRollout : Component → Prop
  | .sample _ | .monotonic_ns | .infer _ | .publish _ | .record_rollout _ => True
  | _ => False

/-- The calls of the main path around which no attribute changes. -/
def Component.plain : Component → Prop
  | .approve_run _ _ | .audit_begin _ _ | .set_pipeline_state _ | .audit_fail _ _ _
  | .control _ _ => False
  | _ => True

theorem Component.plain_of_ofRollout {c : Component} (h : c.ofRollout) : c.plain := by
  cases c <;> trivial

section Parts

variable {Q : {α : Type} → Orch α → Prop}

theorem _control_part (hQ : Compositional Q) {command : ControlCommand} {arguments : List Value}
    (h : Q (ask (.control command arguments))) : Q (_control command arguments) :=
  hQ.bind h fun _ => hQ.lift _

theorem _enter_part (hQ : Compositional Q) (hupdate : ∀ f, Q (Program.update f))
    (target : PipelineState) : Q (_enter target) :=
  hQ.bind hQ.read fun _ => hQ.bind (hupdate _) fun _ => hQ.bind (hQ.lift _) fun _ => hupdate _

theorem validate_part (hQ : Compositional Q) (hclock : Q (ask .monotonic_ns))
    (v : ObservationValidator) (observation : Observation) : Q (v.validate observation) := by
  refine hQ.bind (hQ.require _ _) fun _ => ?_
  refine hQ.bind (hQ.require _ _) fun _ => ?_
  refine hQ.bind hclock fun now => ?_
  exact hQ.bind (hQ.require _ _) fun _ => hQ.pure _

namespace PipelineOrchestrator

theorem _request_part (hQ : Compositional Q) (hsample : ∀ skill, Q (ask (.sample skill)))
    (hclock : Q (ask .monotonic_ns)) (o : PipelineOrchestrator) (session : Dict)
    (request_kind : PyStr) (sequence : Nat) : Q (o._request session request_kind sequence) := by
  refine hQ.bind (hQ.lift _) fun sampled_skill => ?_
  refine hQ.bind (hsample _) fun sampled => ?_
  refine hQ.bind (validate_part hQ hclock _ _) fun observation => ?_
  -- five fields of the session, then the time of sending
  refine hQ.bind (hQ.lift _) fun session_id => ?_
  refine hQ.bind (hQ.lift _) fun session_token => ?_
  refine hQ.bind (hQ.lift _) fun trial_id => ?_
  refine hQ.bind (hQ.lift _) fun skill => ?_
  refine hQ.bind (hQ.lift _) fun generation => ?_
  exact hQ.bind hclock fun sent_at => hQ.pure _

theorem rolloutRound_part (hQ : Compositional Q) (h : ∀ c : Component, c.ofRollout → Q (ask c))
    (o : PipelineOrchestrator) (stage : StagePlan) (session : Dict) (sequence : Nat)
    (published_steps : Int) : Q (o.rolloutRound stage session sequence published_steps) := by
  refine hQ.bind (_request_part hQ (fun _ => h _ trivial) (h _ trivial) o _ _ _) fun payload => ?_
  refine hQ.bind (h _ trivial) fun response => ?_
  refine hQ.bind (hQ.require _ _) fun _ => ?_
  refine hQ.bind (hQ.lift _) fun actions => ?_
  refine hQ.bind (hQ.lift _) fun rows => ?_
  refine hQ.bind (hQ.require _ _) fun _ => ?_
  refine hQ.bind (h _ trivial) fun publish_result => ?_
  refine hQ.bind (hQ.require _ _) fun _ => ?_
  refine hQ.bind (hQ.lift _) fun row => ?_
  exact hQ.bind (h _ trivial) fun _ => hQ.pure _

/-- The rollout, by induction on the chunks left. -/
theorem _rollout_part (hQ : Compositional Q) (h : ∀ c : Component, c.ofRollout → Q (ask c))
    (o : PipelineOrchestrator) (stage : StagePlan) (session : Dict) :
    Q (o._rollout stage session) := by
  have hfrom : ∀ remaining sequence published_steps,
      Q (o.rolloutFrom stage session remaining sequence published_steps) := by
    intro remaining
    induction remaining with
    | zero => exact fun _ _ => hQ.raise _
    | succ remaining ih =>
        intro sequence published_steps
        refine hQ.bind (rolloutRound_part hQ h o stage session _ _) fun publish_result => ?_
        by_cases hstop : publish_result.stop_requested = true
        · rw [if_pos hstop]
          exact hQ.bind (hQ.require _ _) fun _ => hQ.pure _
        · rw [if_neg hstop]
          exact ih _ _
  exact hfrom _ _ _

/-- What a property of the main path comes down to. -/
structure Parts (Q : {α : Type} → Orch α → Prop) : Prop extends Compositional Q where
  plain : ∀ c : Component, c.plain → Q (ask c)
  transition : ∀ target : PipelineState, target ∉ [PipelineState.SAFE_STOP, .FAILED] →
    Q (_transition target)
  prepare : ∀ arguments, Q (_control .prepare_skill arguments)
  beginTrial : ∀ (o : PipelineOrchestrator) index stage, Q (o.beginTrial index stage)
  openSession : Q openSession
  closeSession : Q closeSession
  endTrial : Q endTrial

/-- What a property of the stages comes down to. -/
structure StageParts (Q : {α : Type} → Orch α → Prop) : Prop extends Compositional Q where
  plain : ∀ c : Component, c.plain → c ≠ .audit_complete → Q (ask c)
  transition : ∀ target : PipelineState, target ∉ [PipelineState.SAFE_STOP, .FAILED, .COMPLETED] →
    Q (_transition target)
  prepare : ∀ arguments, Q (_control .prepare_skill arguments)
  beginTrial : ∀ (o : PipelineOrchestrator) index stage, Q (o.beginTrial index stage)
  openSession : Q openSession
  closeSession : Q closeSession
  endTrial : Q endTrial

theorem Parts.stages (h : Parts Q) : StageParts Q where
  toCompositional := h.toCompositional
  plain c hc _ := h.plain c hc
  transition target ht := by
    refine h.transition target fun hmem => ht ?_
    simp only [List.mem_cons, List.not_mem_nil, or_false] at hmem ⊢
    tauto
  prepare := h.prepare
  beginTrial := h.beginTrial
  openSession := h.openSession
  closeSession := h.closeSession
  endTrial := h.endTrial

/-- The calls of the stages. -/
def midRun : Component → Bool
  | .approve_run .. | .audit_begin .. | .audit_complete | .audit_fail .. => false
  | _ => true

/-- A property that every update and every call of the stages has. -/
theorem StageParts.of (hQ : Compositional Q) (hupdate : ∀ f, Q (Program.update f))
    (hask : ∀ c, midRun c = true → Q (ask c)) : StageParts Q where
  toCompositional := hQ
  plain c hc hne := hask c (by cases c <;> first | rfl | exact hc.elim | exact (hne rfl).elim)
  transition target _ := hQ.bind (_enter_part hQ hupdate target) fun _ => hask _ rfl
  prepare _ := _control_part hQ (hask _ rfl)
  beginTrial _ _ _ := hQ.bind (hupdate _) fun _ => _control_part hQ (hask _ rfl)
  openSession := hQ.bind (_control_part hQ (hask _ rfl)) fun session => hQ.bind (hQ.lift _)
    fun _ => hQ.bind (hupdate _) fun _ => hQ.pure session
  closeSession := hQ.bind hQ.read fun _ => hQ.bind (_control_part hQ (hask _ rfl))
    fun _ => hupdate _
  endTrial := hQ.bind (_control_part hQ (hask _ rfl)) fun summary =>
    hQ.bind (hQ.require _ _) fun _ => hQ.bind (hupdate _) fun _ => hQ.pure summary

theorem gatePhase_part (h : StageParts Q) (stage : StagePlan) (rollout_result : PublishResult)
    (server_summary : Dict) : Q (gatePhase stage rollout_result server_summary) := by
  refine h.bind (h.transition _ (by decide)) fun _ => ?_
  cases rollout_result.gate_result with
  | none => exact h.raise _
  | some gate =>
      refine h.bind (h.require _ _) fun _ => ?_
      refine h.bind (h.transition _ (by decide)) fun _ => ?_
      refine h.bind ?_ fun checked => ?_
      · unfold checkPhase
        by_cases hreq : stage.checker_required = true
        · rw [if_pos hreq]
          refine h.bind (h.plain _ trivial nofun) fun verdict => ?_
          exact h.bind (h.require _ _) fun _ => h.pure _
        · rw [if_neg hreq]
          exact h.pure _
      · exact h.bind (h.plain _ trivial nofun) fun _ => h.transition _ (by decide)

theorem _run_stage_part (h : StageParts Q) (o : PipelineOrchestrator) (index : Nat)
    (stage : StagePlan) : Q (o._run_stage index stage) := by
  refine h.bind ?_ fun _ => ?_
  · refine h.bind (h.plain _ trivial nofun) fun _ => ?_
    refine h.bind (h.transition _ (by decide)) fun _ => ?_
    by_cases hreset : stage.reset_before = true
    · rw [if_pos hreset]
      exact h.bind (h.plain _ trivial nofun) fun _ => h.plain _ trivial nofun
    · rw [if_neg hreset]
      exact h.pure ()
  refine h.bind ?_ fun session => ?_
  · refine h.bind (h.transition _ (by decide)) fun _ => h.bind (h.prepare _) fun _ => ?_
    exact h.bind (h.beginTrial o _ _) fun _ => h.openSession
  refine h.bind ?_ fun result => ?_
  · refine h.bind (h.transition _ (by decide)) fun _ => ?_
    refine h.bind (h.plain _ trivial nofun) fun _ => ?_
    refine h.bind (h.transition _ (by decide)) fun _ => ?_
    refine _rollout_part h.toCompositional (fun c hc => ?_) o stage session
    exact h.plain c (Component.plain_of_ofRollout hc) (by rintro rfl; exact hc)
  refine h.bind ?_ fun summary => gatePhase_part h stage result summary
  exact h.bind (h.plain _ trivial nofun) fun _ => h.bind h.closeSession fun _ => h.endTrial

/-- The stages, by induction on those left. -/
theorem runStages_part (h : StageParts Q) (o : PipelineOrchestrator) (index : Nat)
    (stages : List StagePlan) : Q (o.runStages index stages) := by
  induction stages generalizing index with
  | nil => exact h.pure ()
  | cons stage rest ih =>
      exact h.bind (_run_stage_part h o index stage) fun _ => ih (index + 1)

/-- The main path up to its last transition. -/
def approach (o : PipelineOrchestrator) : Orch Unit := do
  _transition .PREFLIGHT
  ask .observation_preflight
  ask .reset_preflight
  ask .executor_preflight
  o.runStages 0 o.plan.stages

/-- The rest of the main path. -/
def finish : Orch Dict := do
  _transition .COMPLETED
  ask .audit_complete

theorem mainPath_eq (o : PipelineOrchestrator) : o.mainPath = o.approach >>= fun _ => finish := by
  unfold mainPath approach
  rw [Program.bind_assoc, Program.bind_assoc, Program.bind_assoc, Program.bind_assoc]
  rfl

theorem approach_part (h : StageParts Q) (o : PipelineOrchestrator) : Q o.approach := by
  refine h.bind (h.transition _ (by decide)) fun _ => ?_
  refine h.bind (h.plain _ trivial nofun) fun _ => ?_
  refine h.bind (h.plain _ trivial nofun) fun _ => ?_
  exact h.bind (h.plain _ trivial nofun) fun _ => runStages_part h o _ _

/-- **The main path has every property its parts have.** -/
theorem mainPath_part (h : Parts Q) (o : PipelineOrchestrator) : Q o.mainPath := by
  rw [mainPath_eq]
  refine h.bind (approach_part h.stages o) fun _ => ?_
  exact h.bind (h.transition _ (by decide)) fun _ => h.plain _ trivial

end PipelineOrchestrator

end Parts

/-! ## §3. One stage against scripted components. -/

/-- Components that answer as they should, but for the calls that raise. -/
def sampleAnswer (raises : Component → Option Raised) (c : Component) (w : Unit) :
    Except Raised c.Answer × Unit :=
  match raises c with
  | some x => (.error x, w)
  | none =>
    (.ok (match c with
      | .approve_run _ _ => true
      | .sample _ => ⟨.map [(.str (py "joints"), .int 0)], 0⟩
      | .monotonic_ns => 0
      | .publish _ =>
          { stop_requested := true
            published_rows := 1
            gate_result := some ⟨true, 4, .fin 0, .fin 0, py "joint_rest"⟩ }
      | .control _ _ =>
          [(.str (py "ok"), .bool true),
           (.str (py "result"), .map
            [(.str (py "session_id"), .str (py "s")), (.str (py "session_token"), .str (py "t")),
             (.str (py "trial_id"), .str (py "run_0_open_door")),
             (.str (py "skill"), .str (py "open_door")), (.str (py "generation"), .int 1),
             (.str (py "status"), .str (py "COMMITTED"))])]
      | .infer _ =>
          [(.str (py "publishable"), .bool true), (.str (py "actions"), .none),
           (.str (py "request_hash"), .none), (.str (py "action_hash"), .none)]
      | .checker_evaluate _ => ⟨true, .fin 1, .fin 0, py "asset", py "closed"⟩
      | .audit_complete => []
      | .audit_begin _ _ | .set_pipeline_state _ | .start_stage _ _ _ | .record_rollout _
      | .complete_stage _ _ _ _ | .audit_fail _ _ _ | .observation_preflight
      | .reset_preflight | .reset _ | .sleep _ | .executor_preflight | .begin_stage _
      | .stop _ => ()), w)

/-- An orchestrator for one stage. -/
def sampleOrchestrator : PipelineOrchestrator where
  plan :=
    { run_id := py "run"
      stages := [{ skill := py "open_door", root_seed := 7, max_chunks := 2, action_steps := 8 }] }
  accepted := by decide +kernel
  observation_validator := ⟨500⟩
  action_validator _ := .ok [[0]]

/-- An orchestrator for all four stages. -/
def wholeOrchestrator : PipelineOrchestrator where
  plan :=
    { run_id := py "run"
      stages := FIXED_SKILL_ORDER.map fun skill =>
        { skill := skill, root_seed := 7, max_chunks := 3, action_steps := 8 } }
  accepted := by decide +kernel
  observation_validator := ⟨500⟩
  action_validator _ := .ok [[0], [1]]

/-- What publishing a chunk of two rows comes to when the gate does not end it. -/
def publishedWhole : PublishResult := { published_rows := 2 }

end OvenRuntime
