/-
  OvenRuntime.System.Campaign
  ───────────────────────────
  Many runs against one server.

  A run touches the trials of its own plan and no others (§1, §2).  So runs
  with different identifiers do not get in each other's way: each finds the
  server ready, whether the runs before it returned or raised, and what a run
  has left in the audit is still there after all of them (`campaign_serves`).
-/
import OvenRuntime.System.AuditAgreement
import OvenRuntime.System.Refinement

namespace OvenRuntime

open EffectProgram PolicyRuntime PipelineOrchestrator

/-! ## §1. The trials a run begins. -/

/-- A trial that is begun is one of the plan. -/
def BeginsOf (plan : PipelinePlan) (ev : OrchEvent) : Prop :=
  match ev.call with
  | .control .begin_trial arguments => ∃ index stage, plan.stages[index]? = some stage ∧
      arguments = [.str (derivedTrialId plan.run_id index stage.skill), .int stage.root_seed]
  | _ => True

section Begins

variable {cfg : RuntimeConfig} {nx : Numerics} {d : ControlDispatcher} {lossy : Bool}
  {o : PipelineOrchestrator} {index : Nat} {stage : StagePlan}

theorem PipelineOrchestrator.Emits.mono {W : Type} {env : Environment Component Component.Answer Raised W}
    {P P' : OrchEvent → Prop} {α : Type} {m : Orch α} (h : Emits env P m)
    (himp : ∀ ev, P ev → P' ev) : Emits env P' m := by
  intro past s w t r s' w' hpast hrun ev hev
  rcases List.mem_append.mp hev with hev | hev
  · exact hpast ev hev
  · exact himp ev (h.trace hrun ev hev)

theorem beginsOf_of_mute {plan : PipelinePlan} (ev : OrchEvent) (h : Mute ev) :
    BeginsOf plan ev := by
  obtain ⟨hsteady, -⟩ := h
  unfold BeginsOf
  split
  · next heq =>
      rw [heq] at hsteady
      exact hsteady.elim
  · trivial

theorem preparePhase_begins (hstage : o.plan.stages[index]? = some stage) :
    Emits (pipeline cfg nx d lossy) (BeginsOf o.plan) (o.preparePhase index stage) := by
  have hQ := Emits.compositional (pipeline cfg nx d lossy) (BeginsOf o.plan)
  refine hQ.bind (Emits.transition fun _ => trivial) fun _ => ?_
  refine hQ.bind (_control_part hQ (Emits.ask fun _ => trivial)) fun _ => ?_
  refine hQ.bind (hQ.bind (Emits.update _) fun _ => _control_part hQ (Emits.ask fun _ => ?_))
    fun _ => ?_
  · exact ⟨index, stage, hstage, rfl⟩
  · refine hQ.bind (_control_part hQ (Emits.ask fun _ => trivial)) fun session => ?_
    exact hQ.bind (hQ.lift _) fun _ => hQ.bind (Emits.update _) fun _ => hQ.pure _

theorem rolloutPhase_begins {session : Dict} :
    Emits (pipeline cfg nx d lossy) (BeginsOf o.plan) (o.rolloutPhase stage session) := by
  have hQ := Emits.compositional (pipeline cfg nx d lossy) (BeginsOf o.plan)
  refine hQ.bind (Emits.transition fun _ => trivial) fun _ => ?_
  refine hQ.bind (Emits.ask fun _ => trivial) fun _ => ?_
  refine hQ.bind (Emits.transition fun _ => trivial) fun _ => ?_
  refine _rollout_part hQ (fun c hc => Emits.ask fun _ => ?_) o stage session
  unfold BeginsOf
  cases c with
  | control => exact hc.elim
  | _ => trivial

theorem closePhase_begins :
    Emits (pipeline cfg nx d lossy) (BeginsOf o.plan) closePhase := by
  have hQ := Emits.compositional (pipeline cfg nx d lossy) (BeginsOf o.plan)
  refine hQ.bind (Emits.ask fun _ => trivial) fun _ => ?_
  refine hQ.bind (hQ.bind hQ.read fun _ => hQ.bind (_control_part hQ (Emits.ask fun _ => trivial))
    fun _ => Emits.update _) fun _ => ?_
  refine hQ.bind (_control_part hQ (Emits.ask fun _ => trivial)) fun summary => ?_
  exact hQ.bind (hQ.require _ _) fun _ => hQ.bind (Emits.update _) fun _ => hQ.pure _

theorem _run_stage_begins (hstage : o.plan.stages[index]? = some stage) :
    Emits (pipeline cfg nx d lossy) (BeginsOf o.plan) (o._run_stage index stage) := by
  have hQ := Emits.compositional (pipeline cfg nx d lossy) (BeginsOf o.plan)
  refine hQ.bind (resetPhase_mute.mono beginsOf_of_mute) fun _ => ?_
  refine hQ.bind (preparePhase_begins hstage) fun session => ?_
  refine hQ.bind rolloutPhase_begins fun result => ?_
  refine hQ.bind closePhase_begins fun summary => ?_
  exact gatePhase_mute.mono fun ev h => beginsOf_of_mute ev h.1

theorem runStages_begins : ∀ (stages : List StagePlan) (index : Nat),
    (∀ i stage, stages[i]? = some stage → o.plan.stages[index + i]? = some stage) →
    Emits (pipeline cfg nx d lossy) (BeginsOf o.plan) (o.runStages index stages) := by
  have hQ := Emits.compositional (pipeline cfg nx d lossy) (BeginsOf o.plan)
  intro stages
  induction stages with
  | nil => exact fun _ _ => hQ.pure ()
  | cons stage rest ih =>
      intro index hstages
      refine hQ.bind (_run_stage_begins (hstages 0 stage rfl)) fun _ => ih (index + 1) ?_
      intro i stage' hi
      rw [show index + 1 + i = index + (i + 1) by omega]
      exact hstages (i + 1) stage' hi

theorem cleanup_begins {name : String} {m : Orch Unit}
    (h : Emits (pipeline cfg nx d lossy) (BeginsOf o.plan) m) :
    Emits (pipeline cfg nx d lossy) (BeginsOf o.plan) (cleanup name m) := by
  have hQ := Emits.compositional (pipeline cfg nx d lossy) (BeginsOf o.plan)
  refine Preserves.attempt (hQ.bind h fun _ => hQ.pure []) fun x => ?_
  cases x with
  | exn e => exact hQ.pure _
  | interrupt => exact hQ.raise _

theorem _safe_stop_begins {code : ErrorCode} {message : String} :
    Emits (pipeline cfg nx d lossy) (BeginsOf o.plan) (_safe_stop code message) := by
  have hQ := Emits.compositional (pipeline cfg nx d lossy) (BeginsOf o.plan)
  have henter : ∀ target, Emits (pipeline cfg nx d lossy) (BeginsOf o.plan) (_enter target) :=
    fun target => _enter_part hQ Emits.update target
  refine hQ.bind (hQ.bind hQ.read fun self => ?_) fun _ => ?_
  · split_ifs
    · exact hQ.pure ()
    · exact henter _
  refine hQ.bind (cleanup_begins (Emits.ask fun _ => trivial)) fun stop_failures => ?_
  refine hQ.bind (hQ.bind hQ.read fun self => ?_) fun close_failures => ?_
  · split_ifs
    · refine hQ.bind (cleanup_begins ?_) fun _ => hQ.bind (Emits.update _) fun _ => hQ.pure _
      exact hQ.bind (_control_part hQ (Emits.ask fun _ => trivial)) fun _ => hQ.pure ()
    · exact hQ.pure []
  refine hQ.bind (hQ.bind hQ.read fun self => ?_) fun abort_failures => ?_
  · split_ifs
    · refine hQ.bind (cleanup_begins ?_) fun _ => hQ.bind (Emits.update _) fun _ => hQ.pure _
      exact hQ.bind (_control_part hQ (Emits.ask fun _ => trivial)) fun _ => hQ.pure ()
    · exact hQ.pure []
  have hfail : ∀ (state : PipelineState) (message : String) (handler : Raised → Orch Unit),
      (∀ e, handler (.exn e) = pure ()) → handler .interrupt = Program.raise .interrupt →
      Emits (pipeline cfg nx d lossy) (BeginsOf o.plan)
        (Program.attempt (ask (.audit_fail state code message)) handler) := by
    intro state message handler hexn hinterrupt
    refine Preserves.attempt (Emits.ask fun _ => trivial) fun x => ?_
    cases x with
    | exn e =>
        rw [hexn]
        exact hQ.pure ()
    | interrupt =>
        rw [hinterrupt]
        exact hQ.raise _
  refine hQ.bind hQ.read fun self => ?_
  by_cases hstop : self.state = .SAFE_STOP
  · rw [if_pos hstop]
    exact hQ.bind (henter _) fun _ => hQ.bind hQ.read fun self => hfail _ _ _ (fun _ => rfl) rfl
  · rw [if_neg hstop]
    exact hQ.bind hQ.read fun self => hfail _ _ _ (fun _ => rfl) rfl

/-- **A run begins trials of its plan only.** -/
theorem run_begins : Emits (pipeline cfg nx d lossy) (BeginsOf o.plan) o.run := by
  have hQ := Emits.compositional (pipeline cfg nx d lossy) (BeginsOf o.plan)
  refine hQ.bind (Emits.ask fun _ => trivial) fun approved => ?_
  refine hQ.bind (hQ.require _ _) fun _ => hQ.bind (Emits.ask fun _ => trivial) fun _ => ?_
  refine Preserves.attempt ?_ fun x => hQ.bind _safe_stop_begins fun _ => hQ.raise _
  refine hQ.bind (Emits.transition fun _ => trivial) fun _ => ?_
  refine hQ.bind (Emits.ask fun _ => trivial) fun _ => ?_
  refine hQ.bind (Emits.ask fun _ => trivial) fun _ => ?_
  refine hQ.bind (Emits.ask fun _ => trivial) fun _ => ?_
  refine hQ.bind (runStages_begins o.plan.stages 0 fun i stage hi => ?_) fun _ => ?_
  · rw [Nat.zero_add]
    exact hi
  · exact hQ.bind (Emits.transition fun _ => trivial) fun _ => Emits.ask fun _ => trivial

end Begins

/-! ## §2. The trials of other runs. -/

/-- The name of a trial of the plan. -/
def PipelinePlan.Names (plan : PipelinePlan) (name : PyStr) : Prop :=
  ∃ index stage, plan.stages[index]? = some stage ∧
    name = derivedTrialId plan.run_id index stage.skill

section Others

variable {cfg : RuntimeConfig} {nx : Numerics} {d : ControlDispatcher} {lossy : Bool}
  {plan : PipelinePlan} {w w' : World} {t : List OrchEvent}

/-- The call that begins a trial names it. -/
theorem Component.begin_of_op {c : Component} {op : Op} {name : PyStr} {out : Except Raised c.Answer}
    (hop : c.op = some op) (hbegins : (op.start nx).begins = some name)
    (hplan : BeginsOf plan ⟨c, out⟩) : plan.Names name := by
  obtain ⟨root_seed, rfl⟩ := Op.start_begins hbegins
  unfold Component.op at hop
  split at hop
  case h_3 trial_id seed =>
    cases hop
    obtain ⟨index, stage, hstage, harguments⟩ := hplan
    cases harguments
    exact ⟨index, stage, hstage, rfl⟩
  all_goals cases hop

/-- **A run makes no directory for a trial of another plan.** -/
theorem exec_absent {α : Type} {p : Prog Component Component.Answer Raised α} {a : α} {name : PyStr}
    (h : Exec (pipeline cfg nx d lossy) p w t a w') (ht : ∀ ev ∈ t, BeginsOf plan ev)
    (hname : ¬ plan.Names name) (hhoused : w.server.rt.audit.Housed)
    (hnone : w.server.rt.audit.dirs name = none) :
    w'.server.rt.audit.Housed ∧ w'.server.rt.audit.dirs name = none := by
  induction h with
  | ret => exact ⟨hhoused, hnone⟩
  | @call c next w w₁ w' out t a henv _ ih =>
      have hnext : w₁.server.rt.audit.Housed ∧ w₁.server.rt.audit.dirs name = none := by
        refine pipeline_server (P := fun rt => rt.audit.Housed ∧ rt.audit.dirs name = none) henv ?_
          ⟨hhoused, hnone⟩
        rintro r w' ⟨hperforms, -⟩
        cases hop : c.op with
        | none =>
            rw [hop] at hperforms
            rw [hperforms.2]
            exact ⟨hhoused, hnone⟩
        | some op =>
            rw [hop] at hperforms
            obtain ⟨id, halone⟩ := hperforms
            refine ⟨halone.store TrialAuditStore.Housed (fun _ _ _ h => h.housed) hhoused,
              halone.absent (fun hbegins => hname ?_) hhoused hnone⟩
            exact Component.begin_of_op hop hbegins (ht _ List.mem_cons_self)
      exact ih (fun ev hev => ht ev (List.mem_cons_of_mem _ hev)) hnext.1 hnext.2

/-- Plans of different runs have no trial in common. -/
theorem Names.disjoint {plan' : PipelinePlan} (h : plan.validate = .ok ())
    (h' : plan'.validate = .ok ()) (hrun : plan.run_id ≠ plan'.run_id) {name : PyStr}
    (hname : plan.Names name) : ¬ plan'.Names name := by
  obtain ⟨i, stage, hstage, rfl⟩ := hname
  rintro ⟨j, stage', hstage', heq⟩
  obtain ⟨hlt, hskill, -⟩ := stage_of_accepted h hstage
  obtain ⟨hlt', hskill', -⟩ := stage_of_accepted h' hstage'
  exact hrun (derivedTrialId_inj hlt hlt' hskill hskill' heq).1

end Others

/-! ## §3. One run after the other. -/

/-- A run, and what came of it. -/
structure RunRecord where
  o : PipelineOrchestrator
  trace : List OrchEvent
  result : Except Raised Dict
  served : List Served

/-- Runs one after the other; no interrupt cuts a safe stop off. -/
inductive Campaign (cfg : RuntimeConfig) (nx : Numerics) (d : ControlDispatcher) (lossy : Bool)
    (x₀ : TimedRuntime) : List RunRecord → TimedRuntime → Prop
  | nil : Campaign cfg nx d lossy x₀ [] x₀
  | run {x : TimedRuntime} {runs : List RunRecord} {o : PipelineOrchestrator}
      {t : List OrchEvent} {r : Except Raised Dict} {s' : OrchestratorState} {w' : World} :
      Campaign cfg nx d lossy x₀ runs x →
      Runs (pipeline cfg nx d lossy) o.run {} (World.around x.rt x.opened_at) t r s' w' →
      ¬ CutOff t → Campaign cfg nx d lossy x₀ (runs ++ [⟨o, t, r, w'.served⟩]) w'.server

section Run

variable {cfg : RuntimeConfig} {nx : Numerics} {d : ControlDispatcher} {lossy : Bool}
  {o : PipelineOrchestrator} {x : TimedRuntime} {t : List OrchEvent} {r : Except Raised Dict}
  {s' : OrchestratorState} {w' : World}

theorem AuditsAgree.mono {plan : PipelinePlan} {audit audit' : TrialAuditStore}
    (h : AuditsAgree plan audit t)
    (hsealed : ∀ name dir, audit.dirs name = some dir → audit'.dirs name = some dir) :
    AuditsAgree plan audit' t := by
  obtain ⟨prologue, segments, epilogue, ht, hall, hnone⟩ := h
  exact ⟨prologue, segments, epilogue, ht, hall.imp fun _ _ h => h.mono hsealed, hnone⟩

/-- A run leaves the runtime at rest, however it ends. -/
theorem run_atRest (hnx : HashesRequests nx) (h : Available cfg nx o.plan x.rt)
    (hrun : Runs (pipeline cfg nx d lossy) o.run {} (World.around x.rt x.opened_at) t r s' w')
    (hcut : ¬ CutOff t) : AtRest w'.server.rt := by
  have hstands : Stands .CREATED (Resting lossy o.plan 0) [] {} (World.around x.rt x.opened_at) :=
    h.stands x.opened_at
  cases r with
  | ok summary =>
      exact ((run_settles hnx).returns [] {} _ t summary s' w' hstands hrun).2.2.rest
  | error e =>
      exact ((run_settles hnx).raises [] {} _ t e s' w' hstands hrun).2.2 hcut

/-- **A run leaves the server available** for the plans it was available for,
but for those with its identifier. -/
theorem run_leaves_available (hnx : HashesRequests nx) (h : Available cfg nx o.plan x.rt)
    (hrun : Runs (pipeline cfg nx d lossy) o.run {} (World.around x.rt x.opened_at) t r s' w')
    (hcut : ¬ CutOff t) {plan : PipelinePlan} (haccepted : plan.validate = .ok ())
    (hplan : Available cfg nx plan x.rt) (hne : plan.run_id ≠ o.plan.run_id) :
    Available cfg nx plan w'.server.rt := by
  have hrest := run_atRest hnx h hrun hcut
  obtain ⟨ls, sys, hreached, hsys⟩ := h.reached
  refine ⟨?_, hrest.state, hrest.trial_id, hrest.lock, ?_⟩
  · -- the runtime is one that a history of its own leads to
    have hfree : sys.rt.execution_lock = none := by
      rw [hsys]
      exact h.lock
    have hreach := hrun.reaches
    rw [← hsys] at hreach
    obtain ⟨ls', sys', hrefines⟩ := (Refines.start hfree x.opened_at).reaches hreached hreach
    exact ⟨ls ++ ls', sys', hreached.extend hrefines.serial.path, hrefines.rt.symm⟩
  · intro i stage hstage
    have hhoused : x.rt.audit.Housed := by
      rw [← hsys]
      exact RuntimeRun.housed hreached
    exact (exec_absent hrun (run_begins.trace hrun)
      (Names.disjoint haccepted o.accepted hne ⟨i, stage, hstage, rfl⟩) hhoused
      (hplan.unused i stage hstage)).2

/-- What runs one after the other keep. -/
structure CampaignKeeps (cfg : RuntimeConfig) (nx : Numerics) (lossy : Bool) (x₀ : TimedRuntime)
    (runs : List RunRecord) (x : TimedRuntime) : Prop where
  /-- No run stands in the way of a call of another. -/
  accepted : lossy = false → ∀ run ∈ runs, ∀ sv ∈ run.served, sv.Accepted
  /-- What the runs recorded is still there. -/
  audited : ∀ run ∈ runs, ∀ summary, run.result = .ok summary →
    AuditsAgree run.o.plan x.rt.audit run.trace
  /-- The server is there for whoever has not run. -/
  available : ∀ plan : PipelinePlan, plan.validate = .ok () → Available cfg nx plan x₀.rt →
    plan.run_id ∉ runs.map (fun run => run.o.plan.run_id) → Available cfg nx plan x.rt

/-- By induction on the runs: the next run starts with what those before it have
kept. -/
theorem Campaign.keeps {x₀ : TimedRuntime} {runs : List RunRecord} (hnx : HashesRequests nx)
    (h : Campaign cfg nx d lossy x₀ runs x)
    (hplans : ∀ run ∈ runs, Available cfg nx run.o.plan x₀.rt)
    (hids : (runs.map fun run => run.o.plan.run_id).Nodup) :
    CampaignKeeps cfg nx lossy x₀ runs x := by
  induction h with
  | nil =>
      refine ⟨?_, ?_, fun _ _ havailable _ => havailable⟩
      · intro _ run hrun
        cases hrun
      · intro run hrun
        cases hrun
  | @run x runs o t r s' w' hcampaign hrun hcut ih =>
      rw [List.map_append, List.nodup_append] at hids
      obtain ⟨hnodup, -, hnew⟩ := hids
      have hkeeps := ih (fun run hmem => hplans run (List.mem_append_left _ hmem)) hnodup
      have hfresh : o.plan.run_id ∉ runs.map fun run => run.o.plan.run_id := fun hmem =>
        hnew _ hmem _ List.mem_cons_self rfl
      have havailable : Available cfg nx o.plan x.rt :=
        hkeeps.available o.plan o.accepted (hplans _ (List.mem_append_right _ List.mem_cons_self))
          hfresh
      have hstands : Stands .CREATED (Resting lossy o.plan 0) [] {}
          (World.around x.rt x.opened_at) := havailable.stands x.opened_at
      refine ⟨?_, ?_, ?_⟩
      · intro hlossy run hmem
        rcases List.mem_append.mp hmem with hmem | hmem
        · exact hkeeps.accepted hlossy run hmem
        · rw [List.mem_singleton.mp hmem]
          exact (run_settles hnx).along [] {} _ t w' hstands hrun.reaches hlossy
      · intro run hmem summary hreturned
        rcases List.mem_append.mp hmem with hmem | hmem
        · refine (hkeeps.audited run hmem summary hreturned).mono fun name dir hdir => ?_
          exact exec_keeps_dirs hrun havailable.atRest hdir
        · rw [List.mem_singleton.mp hmem] at hreturned ⊢
          have hok : r = .ok summary := hreturned
          subst hok
          exact run_agrees hnx hstands hrun
      · intro plan haccepted hplan hunused
        rw [List.map_append] at hunused
        have hne : plan.run_id ≠ o.plan.run_id := by
          intro heq
          exact hunused (List.mem_append_right _ (List.mem_singleton.mpr heq))
        exact run_leaves_available hnx havailable hrun hcut haccepted
          (hkeeps.available plan haccepted hplan fun hmem =>
            hunused (List.mem_append_left _ hmem)) hne

end Run

/-! ## §4. Rehearsing runs. -/

/-- Runs one after the other, each with what raises in it. -/
def Props.rehearseAll (props : Props) (cfg : RuntimeConfig) (nx : Numerics) (d : ControlDispatcher)
    (lossy : Bool) : List (PipelineOrchestrator × (Component → Option Raised)) → TimedRuntime →
    Option (List RunRecord × TimedRuntime)
  | [], x => some ([], x)
  | (o, raises) :: rest, x =>
      (props.rehearse cfg nx d lossy raises o (World.around x.rt x.opened_at)).bind fun r =>
        if r.1.any fun ev => interrupted ev.outcome then none
        else
          (props.rehearseAll cfg nx d lossy rest r.2.2.server).map fun all =>
            (⟨o, r.1, r.2.1.1, r.2.2.served⟩ :: all.1, all.2)

section Rehearsal

variable {props : Props} {cfg : RuntimeConfig} {nx : Numerics} {d : ControlDispatcher}
  {lossy : Bool} {x₀ x : TimedRuntime} {before runs : List RunRecord}

/-- A rehearsal goes on with the runs before it. -/
theorem Props.rehearseAll_campaign
    {rest : List (PipelineOrchestrator × (Component → Option Raised))} {x' : TimedRuntime}
    (hbefore : Campaign cfg nx d lossy x₀ before x)
    (h : props.rehearseAll cfg nx d lossy rest x = some (runs, x')) :
    Campaign cfg nx d lossy x₀ (before ++ runs) x' := by
  induction rest generalizing before runs x with
  | nil =>
      cases h
      rw [List.append_nil]
      exact hbefore
  | cons first rest ih =>
      obtain ⟨o, raises⟩ := first
      unfold Props.rehearseAll at h
      obtain ⟨⟨t, ⟨r, s'⟩, w'⟩, hrehearse, h⟩ := Option.bind_eq_some_iff.mp h
      by_cases hinterrupted : (t.any fun ev => interrupted ev.outcome) = true
      · rw [if_pos hinterrupted] at h
        cases h
      · rw [if_neg hinterrupted] at h
        obtain ⟨⟨runs', x''⟩, hall, heq⟩ := Option.map_eq_some_iff.mp h
        cases heq
        have hnext := ih (hbefore.run (Props.rehearse_runs hrehearse)
          (not_cutOff ((Bool.not_eq_true _).mp hinterrupted))) hall
        rw [List.append_assoc] at hnext
        exact hnext

/-- The runs are those that were asked for. -/
theorem Props.rehearseAll_orchestrators
    {rest : List (PipelineOrchestrator × (Component → Option Raised))} {x' : TimedRuntime}
    (h : props.rehearseAll cfg nx d lossy rest x = some (runs, x')) :
    runs.map (fun run => run.o) = rest.map Prod.fst := by
  induction rest generalizing runs x with
  | nil =>
      cases h
      rfl
  | cons first rest ih =>
      obtain ⟨o, raises⟩ := first
      unfold Props.rehearseAll at h
      obtain ⟨⟨t, ⟨r, s'⟩, w'⟩, -, h⟩ := Option.bind_eq_some_iff.mp h
      by_cases hinterrupted : (t.any fun ev => interrupted ev.outcome) = true
      · rw [if_pos hinterrupted] at h
        cases h
      · rw [if_neg hinterrupted] at h
        obtain ⟨⟨runs', x''⟩, hall, heq⟩ := Option.map_eq_some_iff.mp h
        cases heq
        rw [List.map_cons, List.map_cons, ih hall]

end Rehearsal

section Results

variable (cfg : RuntimeConfig) (lib : Library) (np : ArrayMath) (sha256 : List UInt8 → Digest)
  (limit : Nat) (repr_fits : Value → Bool) (d : ControlDispatcher) (lossy : Bool)

/-- **Runs do not get in each other's way.**  Runs with different identifiers,
one after the other on one server whose calls nothing disturbs, returning or
raising: on a lossless connection no call of any of them is refused; the audits of
those that returned agree when all are over; and the server is as available as
before for any other run. -/
theorem campaign_serves (hsha : ∀ b, (sha256 b).length = 32) (hlimit : 2 ≤ limit)
    (x₀ x : TimedRuntime) (runs : List RunRecord)
    (h : Campaign cfg (serverNumerics lib np sha256 limit repr_fits) d lossy x₀ runs x)
    (hplans : ∀ run ∈ runs,
      Available cfg (serverNumerics lib np sha256 limit repr_fits) run.o.plan x₀.rt)
    (hids : (runs.map fun run => run.o.plan.run_id).Nodup) :
    CampaignKeeps cfg (serverNumerics lib np sha256 limit repr_fits) lossy x₀ runs x := by
  refine h.keeps ?_ hplans hids
  exact fun grant hgrant sequence sent_at observation digest hsend hd =>
    grantedRequest_hash hsha hlimit hgrant hsend hd

/-- Another run of the same skill. -/
def nextOrchestrator : PipelineOrchestrator where
  plan := { sampleOrchestrator.plan with run_id := py "next" }
  accepted := by decide +kernel
  observation_validator := sampleOrchestrator.observation_validator
  action_validator := sampleOrchestrator.action_validator

/-- The first run loses the reply to `open-session` and raises; the second one
returns. -/
theorem campaign_serves_sample : ∃ first second x summary,
    Campaign defaultConfig frameNumerics sampleControl true
      ⟨PolicyRuntime.init fun _ => none, 0⟩ [first, second] x ∧
    first.result.isOk = false ∧ second.result = .ok summary ∧
    CampaignKeeps defaultConfig frameNumerics true ⟨PolicyRuntime.init fun _ => none, 0⟩
      [first, second] x := by
  have h : (sampleProps.rehearseAll defaultConfig frameNumerics sampleControl true
      [(sampleOrchestrator, raisesAt Component.isOpenSession (.exn (.error .OSError))),
        (nextOrchestrator, fun _ => none)] ⟨PolicyRuntime.init fun _ => none, 0⟩).any
      (fun all => all.1.map (fun run => run.result.isOk) == [false, true]) = true := by
    decide +kernel
  obtain ⟨⟨runs, x⟩, hall, hresults⟩ := (Option.any_eq_true _ _).mp h
  have hos := Props.rehearseAll_orchestrators hall
  have hcampaign := Props.rehearseAll_campaign .nil hall
  rw [List.nil_append] at hcampaign
  obtain ⟨first, runs, rfl, hfirst, hos⟩ := List.map_eq_cons_iff.mp hos
  obtain ⟨second, runs, rfl, hsecond, hos⟩ := List.map_eq_cons_iff.mp hos
  cases List.map_eq_nil_iff.mp hos
  have hresults := List.cons_eq_cons.mp (beq_iff_eq.mp hresults)
  obtain ⟨summary, hreturned⟩ := exists_of_isOk (List.cons_eq_cons.mp hresults.2).1
  refine ⟨first, second, x, summary, hcampaign, hresults.1, hreturned, ?_⟩
  refine campaign_serves defaultConfig tableLibrary sampleArrayMath sampleSha256 990 frameFits
    sampleControl true sampleSha256_length (by decide) _ x _ hcampaign ?_ ?_
  · intro run hmem
    exact sample_available run.o.plan
  · rw [List.map_cons, List.map_singleton, hfirst, hsecond]
    decide

end Results

end OvenRuntime
