/-
  OvenRuntime.System.Rehearsal
  ────────────────────────────
  The system of edge and server, as a function.

  The server of a rehearsal makes the choices of an environment that grants
  everything (`calmChoice`), with a clock that stands still; what depends on the
  runtime is checked on the way (`calm`).  What a rehearsal comes to is then a
  run of the system (`rehearse_runs`).
-/
import OvenRuntime.Server.Replay
import OvenRuntime.System.Composition

namespace OvenRuntime

open EffectProgram

/-! ## §1. The server. -/

/-- The call is one of the inference client. -/
def Served.infers (sv : Served) : Bool :=
  match sv.call with
  | .infer _ => true
  | _ => false

/-- What the server of a rehearsal draws and the policy answers. -/
structure Props where
  session_id : PyStr
  token : PyStr
  result : BackendResult
  uuid : IsSessionId session_id
  secret : IsToken token
  /-- Whether the online gate ends the chunk that is published. -/
  stops : World → Bool := fun _ => true

/-- What the environment chooses. -/
def Props.calmChoice (props : Props) : Pc → Choice
  | .prepareEnter _ _ => .clocks 0 0
  | .prepareDrain _ _ | .inferEnter _ => .clock 0
  | .prepareAcquire _ | .beginAcquire _ _ | .inferAcquire _ | .abortAcquire _ => .acquired
  | .prepareLoad skill =>
      .loaded (.ok { backend := py "fake", skill := skill, model_id := py "fake" })
  | .beginSection _ _ => .begun (.ok ()) Io.clean
  | .openSession => .drawn props.session_id props.token 0
  | .inferPolicy _ _ => .inferred (.ok props.result)
  | .inferRecord _ | .endTrial | .abortSection _ | .markAmbiguous _ _ | .closeSection =>
      .io Io.clean
  | .closeBackend _ => .backendClosed (.ok ())
  | .status | .prepareBusy | .prepareFailed _ | .prepareRelease _ _ | .prepareCommit _ _
  | .beginFailed | .beginRelease _ | .closeSession _ | .inferFailed _ _ _ | .inferFinish _
  | .inferLeave _ _ _ | .inferRelease _ | .abortTimedOut | .abortRelease _ => .go

/-- The row of an inference is written. -/
def rowWritten (nx : Numerics) (rt : PolicyRuntime) (inf : PolicyRuntime.Inference) : Bool :=
  match rt.audit.active with
  | some active =>
      (rt.audit.writeRow nx active inf.row inf.result.actions inf.request.observation
        Io.clean).1.isNone
  | none => true

/-- What is left to check. -/
def Props.calm (props : Props) (cfg : RuntimeConfig) (nx : Numerics) (x : TimedRuntime) :
    Pc → Bool
  | .inferEnter _ => decide (0 - x.opened_at < cfg.session_ttl_sec)
  | .inferPolicy request _ =>
      (nx.stable_tree_hash (.map request.observation)).isOk &&
        (nx.stable_tree_hash props.result.actions).isOk
  | .inferRecord inf => rowWritten nx x.rt inf
  | _ => true

section Server

variable {props : Props} {cfg : RuntimeConfig} {nx : Numerics} {x x' : TimedRuntime}

/-- **The choices are those of an environment that grants everything.** -/
theorem Props.granted {pc : Pc} (h : props.calm cfg nx x pc = true) :
    Granted cfg nx x pc (props.calmChoice pc) where
  lock hch := by cases pc <;> cases hch
  loaded skill r hpc hch := by
    subst hpc
    cases hch
    exact ⟨_, rfl, rfl⟩
  begun reset io hch := by
    cases pc <;> cases hch
    exact ⟨rfl, rfl⟩
  inferred request lease_ref r hpc hch := by
    subst hpc
    cases hch
    obtain ⟨hobservation, hactions⟩ := Bool.and_eq_true_iff.mp h
    obtain ⟨d, hd⟩ := exists_of_isOk hobservation
    obtain ⟨a, ha⟩ := exists_of_isOk hactions
    exact ⟨_, d, a, rfl, hd, ha⟩
  drawn session_id token now hch := by
    cases pc <;> cases hch
    exact ⟨props.uuid, props.secret⟩
  clock request now hpc hch := by
    subst hpc
    cases hch
    exact of_decide_eq_true h
  recorded inf io hpc hch active hactive := by
    subst hpc
    cases hch
    have h : rowWritten nx x.rt inf = true := h
    unfold rowWritten at h
    rw [hactive] at h
    exact Option.isNone_iff_eq_none.mp h
  files io hch _ := by
    cases pc <;> cases hch <;> rfl

/-- Carry a call out; `none` if the fuel does not suffice, or something is not
granted. -/
def Props.serve (props : Props) (cfg : RuntimeConfig) (nx : Numerics) :
    Nat → TimedRuntime → CallState → Option (Except Exn Result × TimedRuntime)
  | _, x, .returned out => some (out, x)
  | 0, _, .running _ => none
  | fuel + 1, x, .running pc =>
      if props.calm cfg nx x pc then
        match callStep cfg nx 0 pc (props.calmChoice pc) x.rt with
        | none => none
        | some r => props.serve cfg nx fuel ⟨r.1, (props.calmChoice pc).clockAfter x.opened_at⟩ r.2
      else none

/-- **A call that is carried out is undisturbed.** -/
theorem Props.serve_alone {fuel : Nat} {c : CallState} {out : Except Exn Result}
    (h : props.serve cfg nx fuel x c = some (out, x')) : Alone cfg nx 0 x c out x' := by
  induction fuel generalizing x c with
  | zero =>
      cases c with
      | returned r =>
          cases h
          exact .returned _ _
      | running pc => cases h
  | succ fuel ih =>
      cases c with
      | returned r =>
          cases h
          exact .returned _ _
      | running pc =>
          unfold Props.serve at h
          by_cases hcalm : props.calm cfg nx x pc = true
          · rw [if_pos hcalm] at h
            cases hstep : callStep cfg nx 0 pc (props.calmChoice pc) x.rt with
            | none =>
                simp only [hstep] at h
                cases h
            | some r =>
                simp only [hstep] at h
                exact .step (Props.granted hcalm) hstep (ih h)
          · rw [if_neg hcalm] at h
            cases h

end Server

/-! ## §2. The edge. -/

/-- A call on the server, and what it comes to there. -/
def Props.carry (props : Props) (cfg : RuntimeConfig) (nx : Numerics) (c : Component) (w : World) :
    Option (Except Exn Result × World) :=
  match c.op with
  | none => none
  | some op =>
      (props.serve cfg nx 16 w.server (op.start nx)).map fun r =>
        (r.1, { w with server := r.2, served := w.served ++ [⟨c, r.1⟩] })

/-- The components of a rehearsal: the server carries every call out, and the
edge raises where it is told to.  On a lossy connection this loses the
response. -/
def Props.answer (props : Props) (cfg : RuntimeConfig) (nx : Numerics) (d : ControlDispatcher)
    (lossy : Bool) (raises : Component → Option Raised) (c : Component) (w : World) :
    Option (Except Raised c.Answer × World) :=
  match c with
  | .control command arguments =>
      match raises (.control command arguments) with
      | none =>
          (props.carry cfg nx (.control command arguments) w).map fun r =>
            (controlReply d command r.1, r.2)
      | some x =>
          if lossy then
            (props.carry cfg nx (.control command arguments) w).map fun r => (.error x, r.2)
          else none
  | .infer payload =>
      if sendable payload then
        match props.carry cfg nx (.infer payload) w with
        | some (.ok (.response response), w') => some (.ok response.to_dict, w')
        | _ => none
      else none
  | .stop reason =>
      some ((sampleAnswer raises (.stop reason) ()).1,
        { w with stopping := w.stopping || (py "safe_stop:").isPrefixOf reason })
  | .publish actions =>
      some (if props.stops w then (sampleAnswer raises (.publish actions) ()).1
        else .ok publishedWhole, w)
  | c => some ((sampleAnswer raises c ()).1, w)

section Edge

variable {props : Props} {cfg : RuntimeConfig} {nx : Numerics} {w w' : World}

theorem Props.carry_carriesOut {c : Component} {out : Except Exn Result}
    (h : props.carry cfg nx c w = some (out, w')) : CarriesOut cfg nx c w out w' := by
  unfold Props.carry at h
  cases hop : c.op with
  | none =>
      simp only [hop] at h
      cases h
  | some op =>
      simp only [hop] at h
      obtain ⟨r, hserve, heq⟩ := Option.map_eq_some_iff.mp h
      cases heq
      refine ⟨?_, rfl⟩
      rw [hop]
      exact ⟨0, Props.serve_alone hserve⟩

/-- **A rehearsal is part of the system.** -/
theorem Props.answer_pipeline {d : ControlDispatcher} {lossy : Bool}
    {raises : Component → Option Raised} {c : Component} {out : Except Raised c.Answer}
    (h : props.answer cfg nx d lossy raises c w = some (out, w')) :
    pipeline cfg nx d lossy c w out w' := by
  cases c with
  | control command arguments =>
      unfold Props.answer at h
      cases hraises : raises (.control command arguments) with
      | none =>
          simp only [hraises] at h
          obtain ⟨r, hcarry, heq⟩ := Option.map_eq_some_iff.mp h
          cases heq
          exact .inl ⟨r.1, Props.carry_carriesOut hcarry, .inl rfl⟩
      | some x =>
          simp only [hraises] at h
          by_cases hlossy : lossy = true
          · rw [if_pos hlossy] at h
            obtain ⟨r, hcarry, heq⟩ := Option.map_eq_some_iff.mp h
            cases heq
            exact .inl ⟨r.1, Props.carry_carriesOut hcarry, .inr ⟨hlossy, x, rfl⟩⟩
          · rw [if_neg hlossy] at h
            cases h
  | infer payload =>
      unfold Props.answer at h
      by_cases hsend : sendable payload = true
      · simp only [if_pos hsend] at h
        split at h
        · rename_i response w₁ hcarry
          cases h
          exact .inl ⟨hsend, _, Props.carry_carriesOut hcarry, .inr ⟨response, rfl, rfl⟩⟩
        · cases h
      · simp only [if_neg hsend] at h
        cases h
  | stop reason =>
      cases h
      rfl
  | monotonic_ns =>
      cases h
      refine ⟨rfl, ?_⟩
      intro n hn
      unfold sampleAnswer at hn
      cases hraises : raises .monotonic_ns with
      | none =>
          simp only [hraises] at hn
          cases hn
          exact Int.le_refl _
      | some x =>
          simp only [hraises] at hn
          cases hn
  | approve_run | audit_begin | set_pipeline_state | start_stage | record_rollout | complete_stage
  | audit_complete | audit_fail | observation_preflight | sample | reset_preflight | reset | sleep
  | executor_preflight | begin_stage | publish | checker_evaluate =>
      cases h
      rfl

/-- What a rehearsal of the orchestrator comes to. -/
def Props.rehearse (props : Props) (cfg : RuntimeConfig) (nx : Numerics) (d : ControlDispatcher)
    (lossy : Bool) (raises : Component → Option Raised) (o : PipelineOrchestrator) (w : World) :
    Option (List OrchEvent × (Except Raised Dict × OrchestratorState) × World) :=
  (o.run {}).rehearse (props.answer cfg nx d lossy raises) w

/-- **It is a run of the system.** -/
theorem Props.rehearse_runs {d : ControlDispatcher} {lossy : Bool}
    {raises : Component → Option Raised} {o : PipelineOrchestrator} {t : List OrchEvent}
    {r : Except Raised Dict} {s' : OrchestratorState}
    (h : props.rehearse cfg nx d lossy raises o w = some (t, (r, s'), w')) :
    Runs (pipeline cfg nx d lossy) o.run {} w t r s' w' := by
  unfold Props.rehearse at h
  refine Prog.rehearse_exec ?_ h
  intro c w out w' hanswer
  exact Props.answer_pipeline hanswer

/-- A run that ends as the rehearsal does. -/
theorem Props.runs_of_rehearse {d : ControlDispatcher} {lossy : Bool}
    {raises : Component → Option Raised} {o : PipelineOrchestrator}
    {P : List OrchEvent → Except Raised Dict → OrchestratorState → World → Bool}
    (h : (props.rehearse cfg nx d lossy raises o w).any
      (fun r => P r.1 r.2.1.1 r.2.1.2 r.2.2) = true) :
    ∃ t r s' w', Runs (pipeline cfg nx d lossy) o.run {} w t r s' w' ∧ P t r s' w' = true := by
  obtain ⟨⟨t, ⟨r, s'⟩, w'⟩, hrehearse, hP⟩ := (Option.any_eq_true _ _).mp h
  exact ⟨t, r, s', w', Props.rehearse_runs hrehearse, hP⟩

end Edge

/-! ## §3. A sample. -/

/-- The policy answers with an array. -/
def sampleProps : Props where
  session_id := sampleId
  token := sampleToken
  result :=
    { actions := .ndarray (stridedPair.view tableLibrary)
      noise_hash := Digest.hex (List.replicate 32 0) }
  uuid := ⟨by decide, by decide, by decide⟩
  secret := sampleToken_isToken

/-- The gate ends every second chunk. -/
def alternateProps : Props :=
  { sampleProps with stops := fun w => (w.served.filter Served.infers).length % 2 == 0 }

/-- A control server with the identifier of the sample. -/
def sampleControl : ControlDispatcher where
  _server_instance_id := sampleId
  is_uuid := by decide +kernel

end OvenRuntime
