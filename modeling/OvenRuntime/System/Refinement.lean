/-
  OvenRuntime.System.Refinement
  ─────────────────────────────
  The composed system refines the runtime.

  The composition of edge and server takes a call on the server in one step, the
  step of a call that nothing disturbs.  The runtime takes it in many, and lets
  calls interleave.  Every point of a composed run is a point of the runtime's
  own history: the one in which the calls of the edge came one after the other,
  and the server did for each what the edge was told (`composed_run_refines`).
-/
import OvenRuntime.Server.LockHolder
import OvenRuntime.System.Recovery

namespace OvenRuntime

open EffectProgram TransitionSystem

/-! ## §1. Serial histories. -/

section Serial

variable (cfg : RuntimeConfig) (nx : Numerics)

/-- The history in which these calls come one after the other, each to its end
before the next begins. -/
inductive Serial (s : Sys) : List Served → List Label → Sys → Prop
  | nil : Serial s [] [] s
  | call {s' s'' : Sys} {served : List Served} {sv : Served} {ls ls' : List Label} {n : Nat}
      {op : Op} :
      Serial s served ls s' → sv.call.op = some op → s'.calls n = none →
      Path (runtimeSystem cfg nx) s' (.call n op :: ls') s'' → Solo n ls' →
      s''.calls n = some (.returned sv.outcome) →
      Serial s (served ++ [sv]) (ls ++ .call n op :: ls') s''
  /-- A call that names no method does not get to the runtime. -/
  | unknown {s' : Sys} {served : List Served} {sv : Served} {ls : List Label} :
      Serial s served ls s' → sv.call.op = none → sv.outcome = .error (.error .TypeError) →
      Serial s (served ++ [sv]) ls s'

variable {cfg nx} {s s' : Sys} {served : List Served} {ls : List Label}

/-- It is a history. -/
theorem Serial.path (h : Serial cfg nx s served ls s') : Path (runtimeSystem cfg nx) s ls s' := by
  induction h with
  | nil => exact .nil s
  | call _ _ _ hpath _ _ ih => exact ih.append hpath
  | unknown _ _ _ ih => exact ih

end Serial

/-! ## §2. The refinement. -/

section Refinement

variable {cfg : RuntimeConfig} {nx : Numerics} {d : ControlDispatcher} {lossy : Bool}

/-- The runtime of the world is the one a serial history of the calls leads to. -/
structure Refines (cfg : RuntimeConfig) (nx : Numerics) (s : Sys) (w : World) (ls : List Label)
    (s' : Sys) : Prop where
  serial : Serial cfg nx s w.served ls s'
  rt : w.server.rt = s'.rt
  free : s'.rt.execution_lock = none

/-- A call on the server goes on with the history. -/
theorem Refines.carries {ls₀ ls : List Label} {s s' : Sys} {c : Component} {w w' : World}
    {out : Except Exn Result} (hrun : RuntimeRun cfg nx ls₀ s) (h : Refines cfg nx s w ls s')
    (hcarried : CarriesOut cfg nx c w out w') : ∃ ls' s'', Refines cfg nx s w' ls' s'' := by
  obtain ⟨hperformed, hw'⟩ := hcarried
  have hserved : w'.served = w.served ++ [⟨c, out⟩] := by rw [hw']
  cases hop : c.op with
  | none =>
      rw [hop] at hperformed
      obtain ⟨rfl, hserver⟩ := hperformed
      refine ⟨ls, s', ?_, ?_, h.free⟩
      · rw [hserved]
        exact .unknown h.serial hop rfl
      · rw [hserver]
        exact h.rt
  | some op =>
      rw [hop] at hperformed
      obtain ⟨id, halone⟩ := hperformed
      have hx : w.server = ⟨s'.rt, w.server.opened_at⟩ := by rw [← h.rt]
      rw [hx] at halone
      obtain ⟨n, ls', s'', hn, hpath, hsolo, hret, hrt, hfree⟩ :=
        halone.extends (hrun.extend h.serial.path) h.free
      refine ⟨ls ++ .call n op :: ls', s'', ?_, hrt.symm, hfree⟩
      rw [hserved]
      exact .call h.serial hop hn hpath hsolo hret

/-- Every answer of the components keeps the refinement. -/
theorem Refines.answer {ls₀ ls : List Label} {s s' : Sys} {c : Component} {w w' : World}
    {out : Except Raised c.Answer} (hrun : RuntimeRun cfg nx ls₀ s)
    (h : Refines cfg nx s w ls s') (henv : pipeline cfg nx d lossy c w out w') :
    ∃ ls' s'', Refines cfg nx s w' ls' s'' := by
  cases c with
  | control command arguments =>
      rcases henv with ⟨r, hcarried, -⟩ | ⟨-, -, rfl, -⟩
      · exact h.carries hrun hcarried
      · exact ⟨ls, s', h⟩
  | infer payload =>
      rcases henv with ⟨-, r, hcarried, -⟩ | ⟨-, rfl, -⟩
      · exact h.carries hrun hcarried
      · exact ⟨ls, s', h⟩
  | stop reason =>
      have hw' : w' = { w with
        stopping := w.stopping || (py "safe_stop:").isPrefixOf reason } := henv
      rw [hw']
      exact ⟨ls, s', h.serial, h.rt, h.free⟩
  | monotonic_ns =>
      rw [henv.1]
      exact ⟨ls, s', h⟩
  | approve_run | audit_begin | set_pipeline_state | start_stage | record_rollout | complete_stage
  | audit_complete | audit_fail | observation_preflight | sample | reset_preflight | reset | sleep
  | executor_preflight | begin_stage | publish | checker_evaluate =>
      have hw' : w' = w := henv
      rw [hw']
      exact ⟨ls, s', h⟩

/-- Every point of any program against the server refines the runtime. -/
theorem Refines.reaches {α : Type} {p : Prog Component Component.Answer Raised α}
    {ls₀ ls : List Label} {s s' : Sys} {w w' : World} {t : List OrchEvent}
    (hrun : RuntimeRun cfg nx ls₀ s) (h : Refines cfg nx s w ls s')
    (hreach : EffectProgram.Reaches (pipeline cfg nx d lossy) p w t w') :
    ∃ ls' s'', Refines cfg nx s w' ls' s'' :=
  hreach.invariant (fun w => ∃ ls s', Refines cfg nx s w ls s')
    (fun _ _ _ _ hw henv => by
      obtain ⟨ls, s', h⟩ := hw
      exact h.answer hrun henv) ⟨ls, s', h⟩

/-- A runtime whose lock is free refines itself. -/
theorem Refines.start {s : Sys} (hfree : s.rt.execution_lock = none) (opened_at : ℚ) :
    Refines cfg nx s (World.around s.rt opened_at) [] s := ⟨.nil, rfl, hfree⟩

end Refinement

section Results

variable (cfg : RuntimeConfig) (nx : Numerics) (d : ControlDispatcher) (lossy : Bool)
  (o : PipelineOrchestrator)

/-- **The composed system refines the runtime.**  Where nothing disturbs the calls
of the server, and control replies are lost or are not, a point of a run of the
orchestrator is a point of the runtime's own history: the calls the server got,
one after the other, each with the outcome the server had for it. -/
theorem composed_run_refines (ls₀ : List Label) (s : Sys) (hrun : RuntimeRun cfg nx ls₀ s)
    (hfree : s.rt.execution_lock = none) (opened_at : ℚ) (t : List OrchEvent) (w' : World)
    (hreach : EffectProgram.Reaches (pipeline cfg nx d lossy) (o.run {})
      (World.around s.rt opened_at) t w') :
    ∃ ls s', RuntimeRun cfg nx (ls₀ ++ ls) s' ∧ Serial cfg nx s w'.served ls s' ∧
      w'.server.rt = s'.rt ∧ s'.rt.execution_lock = none := by
  obtain ⟨ls, s', h⟩ := (Refines.start hfree opened_at).reaches hrun hreach
  exact ⟨ls, s', hrun.extend h.serial.path, h.serial, h.rt, h.free⟩

/-- A whole run of the orchestrator from a new server: six calls in a row. -/
theorem composed_run_refines_sample : ∃ t w' ls s',
    EffectProgram.Reaches (pipeline defaultConfig frameNumerics sampleControl false)
      (sampleOrchestrator.run {}) (World.around (PolicyRuntime.init fun _ => none) 0) t w' ∧
    w'.served.length = 6 ∧ RuntimeRun defaultConfig frameNumerics ([] ++ ls) s' ∧
    Serial defaultConfig frameNumerics (Sys.initial fun _ => none) w'.served ls s' ∧
    w'.server.rt = s'.rt ∧ s'.rt.execution_lock = none := by
  obtain ⟨t, r, s', w', hruns, hP⟩ := @Props.runs_of_rehearse sampleProps defaultConfig
    frameNumerics (World.around (PolicyRuntime.init fun _ => none) 0) sampleControl false
    (fun _ => none) sampleOrchestrator (fun _ _ _ w' => w'.served.length == 6)
    (by decide +kernel)
  obtain ⟨ls, s', h⟩ := composed_run_refines defaultConfig frameNumerics sampleControl false
    sampleOrchestrator [] (Sys.initial fun _ => none) ⟨_, ⟨_, rfl⟩, .nil _⟩ rfl 0 t w'
    hruns.reaches
  exact ⟨t, w', ls, s', hruns.reaches, beq_iff_eq.mp hP, h⟩

end Results

end OvenRuntime
