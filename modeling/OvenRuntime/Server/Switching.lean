/-
  OvenRuntime.Server.Switching
  ────────────────────────────
  Switching skills under any interleaving.

  The last section of `prepare_skill` sets skill, identity and generation
  before it asks whether the runtime may become READY.  A switch is all or
  nothing exactly when that section finds the runtime LOADING
  (`skill_switch_atomic_iff`).
-/
import OvenRuntime.Server.Effects

namespace OvenRuntime

open TransitionSystem

/-! ## §1. Who changes the loaded skill. -/

/-- Skill, identity and generation. -/
def PolicyRuntime.loaded (rt : PolicyRuntime) : Option PyStr × Option BackendIdentity × Nat :=
  (rt.active_skill, rt.identity, rt.generation)

/-- The step is the last section of a `prepare_skill`. -/
def Label.switches : Label → Prop
  | .step _ (.prepareCommit _ _) _ _ => True
  | _ => False

instance (l : Label) : Decidable l.switches := by
  unfold Label.switches
  split <;> infer_instance

/-- The step is one of the call `id`. -/
def Label.of (id : Nat) : Label → Prop
  | .call _ _ => False
  | .step i _ _ _ => i = id

/-- The step is the one in which a `prepare_skill` returns. -/
def Label.prepared : Label → Bool
  | .step _ (.prepareCommit _ _) _ (.returned (.ok _)) => true
  | _ => false

/-- The skill stays loaded, and the runtime does not become READY. -/
def KeepsLoaded (rt rt' : PolicyRuntime) : Prop :=
  rt'.loaded = rt.loaded ∧ (rt'.state = .READY → rt.state = .READY)

theorem KeepsLoaded.same {rt rt' : PolicyRuntime} (hl : rt'.loaded = rt.loaded)
    (hs : rt'.state = rt.state) : KeepsLoaded rt rt' :=
  ⟨hl, fun h => hs.symm.trans h⟩

theorem KeepsLoaded.of_down {rt rt' : PolicyRuntime} (hl : rt'.loaded = rt.loaded)
    (hd : rt'.state.down) : KeepsLoaded rt rt' := by
  refine ⟨hl, ?_⟩
  intro h
  rw [h] at hd
  exact absurd hd RuntimeState.READY_not_down

namespace PolicyRuntime

theorem failed_keepsLoaded (rt : PolicyRuntime) (code : ErrorCode) :
    KeepsLoaded rt (rt.failed code) :=
  .of_down rfl (rt.failed_down code)

theorem AuditRaised.keepsLoaded {rt rt' : PolicyRuntime} {e : Exn} (h : AuditRaised rt e rt') :
    KeepsLoaded rt rt' := by
  cases h with
  | fault f audit => exact .of_down rfl (failed_down _ _)
  | error e audit => exact .same rfl rfl

theorem drain_keepsLoaded {rt rt' : PolicyRuntime} {deadline now : ℚ}
    {r : Except Exn Drained} (h : rt.drain deadline now = (r, rt')) : KeepsLoaded rt rt' := by
  rcases rt.drain_cases deadline now with ⟨e, -, hc⟩ | ⟨-, hc⟩ | ⟨-, -, hc⟩ | ⟨e, -, -, hc⟩
  · cases h.symm.trans hc
    exact rt.failed_keepsLoaded _
  · cases h.symm.trans hc
    exact .same rfl rfl
  · cases h.symm.trans hc
    exact ⟨rfl, fun hr => by cases hr⟩
  · cases h.symm.trans hc
    exact .same rfl rfl

end PolicyRuntime

/-- **Only the last section of `prepare_skill` changes the loaded skill and
makes the runtime READY.** -/
theorem Advance.keepsLoaded {cfg : RuntimeConfig} {nx : Numerics} {id : Nat}
    {rt rt' : PolicyRuntime} {pc : Pc} {ch : Choice} {next : CallState}
    (h : Advance cfg nx id rt pc ch rt' next)
    (hpc : ∀ skill identity, pc ≠ .prepareCommit skill identity) : KeepsLoaded rt rt' := by
  cases h with
  | status | prepareTimeout | prepareLoad | prepareRaise | beginTimeout | inferTimeout
  | inferRaise | inferPolicy | abortTimeout | closeBackend => exact .same rfl rfl
  | prepareAcquire | beginAcquire | inferAcquire | abortAcquire => exact .same rfl rfl
  | prepareRelease | beginRelease | inferLeave | inferRelease | abortRelease =>
      exact .same rfl rfl
  | prepareBusy | prepareFailed | beginFailed | abortTimedOut => exact rt.failed_keepsLoaded _
  | @prepareCommit skill identity => exact absurd rfl (hpc skill identity)
  | @prepareEnter _ timeout now now' _ _ he =>
      rcases rt.prepareEnter_cases timeout now now' with ⟨e, hc⟩ | ⟨-, -, e, hc⟩ | ⟨-, -, hc⟩
        | ⟨-, hst, hc⟩
      · cases he.symm.trans hc
        exact .same rfl rfl
      · cases he.symm.trans hc
        exact .same rfl rfl
      · cases he.symm.trans hc
        exact ⟨rfl, fun hr => by cases hr⟩
      · have hd := PolicyRuntime.drain_keepsLoaded (hc.symm.trans he)
        exact ⟨hd.1, fun _ => hst⟩
  | prepareDrain he => exact PolicyRuntime.drain_keepsLoaded he
  | @beginSection trial_id root_seed reset io _ _ he =>
      rcases rt.beginSection_cases trial_id root_seed reset io with ⟨e, audit, -, -, hc⟩
        | ⟨st, skill, audit, -, -, -, -, -, -, -, -, -, -, hc⟩ <;>
        cases he.symm.trans hc <;> exact .same rfl rfl
  | @openSession session_id token now _ _ he =>
      rcases rt.openSession_cases cfg session_id token now with ⟨e, hc⟩ | ⟨t, k, -, -, -, -, hc⟩ <;>
        cases he.symm.trans hc <;> exact .same rfl rfl
  | @closeSession session_id _ _ he =>
      rcases rt.closeSession_cases session_id with ⟨e, hc⟩ | ⟨_, _, _, _, _, hc⟩ <;>
        cases he.symm.trans hc <;> exact .same rfl rfl
  | @endTrial io _ _ he =>
      rcases rt.endTrial_cases io with ⟨e, -, hc⟩ | ⟨e, rt₁, -, -, -, hr, hc⟩
        | ⟨a, audit, -, -, -, -, -, -, hc⟩ <;> cases he.symm.trans hc
      · exact .same rfl rfl
      · exact hr.keepsLoaded
      · exact .same rfl rfl
  | @markAmbiguous session_id sequence io _ _ he =>
      rcases rt.markAmbiguous_cases session_id sequence io with ⟨-, hc⟩
        | ⟨lease, -, -, ⟨e, rt₁, -, hr, hc⟩ | ⟨_, out, audit, -, -, -, hc⟩⟩ <;>
        cases he.symm.trans hc
      · exact .same rfl rfl
      · exact ⟨hr.keepsLoaded.1, hr.keepsLoaded.2⟩
      · exact .of_down rfl (PolicyRuntime.failed_down _ _)
  | @inferEnter request now _ _ he =>
      rcases rt.inferEnter_cases request now with ⟨e, hc⟩ | ⟨e, lease, -, -, hc⟩ | ⟨lease, -, -, hc⟩ <;>
        cases he.symm.trans hc <;> exact .same rfl rfl
  | @inferRecord inf io _ _ he =>
      cases he
      exact .same rfl rfl
  | @inferFailed _ _ e _ _ he =>
      obtain ⟨f, code, hc⟩ := rt.inferFail_eq e
      cases he.symm.trans hc
      exact rt.failed_keepsLoaded _
  | @inferFinish inf _ _ he =>
      rcases rt.inferFinish_cases inf with ⟨lease, -, -, -, hc⟩ | ⟨f, -, hc⟩ <;>
        cases he.symm.trans hc
      · exact .same rfl rfl
      · exact rt.failed_keepsLoaded _
  | @abortSection reason io _ _ he =>
      rcases rt.abortSection_cases reason io with ⟨e, rt₁, -, hr, hc⟩ | ⟨_, out, audit, -, -, -, hc⟩ <;>
        cases he.symm.trans hc
      · exact ⟨hr.keepsLoaded.1, hr.keepsLoaded.2⟩
      · exact .same rfl rfl
  | @closeSection io _ _ he =>
      rcases rt.closeSection_cases io with ⟨r, audit, -, -, hc⟩ | ⟨r, audit, -, -, hc⟩ <;>
        cases he.symm.trans hc <;> exact .of_down rfl (.inr rfl)

/-! ## §2. All or nothing. -/

/-- The last section of `prepare_skill`, as a step of the system. -/
theorem Step.switches {cfg : RuntimeConfig} {nx : Numerics} {s s' : Sys} {l : Label}
    (h : Step cfg nx s l s') (hl : l.switches) :
    (s.rt.state = .LOADING ∧ s'.rt.state = .READY ∧ l.prepared = true ∧
      s'.rt.generation = s.rt.generation + 1 ∧
      ∃ st, ∀ id, Label.of id l → s'.calls id = some (.returned (.ok (.status st)))) ∨
    (s.rt.state ≠ .LOADING ∧ s'.rt.state = s.rt.state ∧ l.prepared = false ∧
      s'.rt.generation = s.rt.generation + 1 ∧
      ∃ e, ∀ id, Label.of id l → s'.calls id = some (.returned (.error e))) := by
  rcases step_cases h with ⟨i, op, rfl, -, rfl⟩ | ⟨i, pc, ch, rt', next, rfl, -, ha, rfl⟩
  · exact absurd hl id
  · cases ha <;> try exact absurd hl id
    rename_i skill identity r he
    rcases s.rt.prepareCommit_cases skill identity with ⟨st, hst, hc⟩ | ⟨e, hst, hc⟩
    · cases he.symm.trans hc
      refine .inl ⟨hst, rfl, rfl, rfl, st, ?_⟩
      rintro j rfl
      exact Sys.setCall_self _ _ _ _
    · cases he.symm.trans hc
      refine .inr ⟨hst, rfl, rfl, rfl, e, ?_⟩
      rintro j rfl
      exact Sys.setCall_self _ _ _ _

/-- Every other step leaves the loaded skill alone. -/
theorem Step.keepsLoaded {cfg : RuntimeConfig} {nx : Numerics} {s s' : Sys} {l : Label}
    (h : Step cfg nx s l s') (hl : ¬ l.switches) :
    KeepsLoaded s.rt s'.rt ∧ l.prepared = false := by
  rcases step_cases h with ⟨i, op, rfl, -, rfl⟩ | ⟨i, pc, ch, rt', next, rfl, -, ha, rfl⟩
  · exact ⟨.same rfl rfl, rfl⟩
  · have hpc : ∀ skill identity, pc ≠ .prepareCommit skill identity := by
      rintro skill identity rfl
      exact hl trivial
    refine ⟨ha.keepsLoaded hpc, ?_⟩
    unfold Label.prepared
    split
    · rename_i heq
      cases heq
      exact absurd rfl (hpc _ _)
    · rfl

/-- A step that switches finds the runtime LOADING. -/
def SwitchesLoading (cfg : RuntimeConfig) (nx : Numerics) : List Label → Sys → Prop :=
  EveryStep (runtimeSystem cfg nx) fun _ s₁ l _ => l.switches → s₁.rt.state = .LOADING

/-- The generation counts the switches that succeeded, if all do. -/
theorem SwitchesLoading.generation {cfg : RuntimeConfig} {nx : Numerics} {ls : List Label}
    {s : Sys} (h : RuntimeRun cfg nx ls s) (hall : SwitchesLoading cfg nx ls s) :
    s.rt.generation = (ls.filter Label.prepared).length := by
  refine Run.invariant (M := runtimeSystem cfg nx)
    (fun ls s => SwitchesLoading cfg nx ls s →
      s.rt.generation = (ls.filter Label.prepared).length) ?_ ?_ h hall
  · rintro s ⟨dirs, rfl⟩ -
    rfl
  · intro ls s l s' hrun ih hst hall
    have hgen := ih (hall.init hst)
    have hlast := hall.last hrun hst
    rw [List.filter_append, List.length_append]
    by_cases hl : l.switches
    · rcases Step.switches hst hl with ⟨-, -, hp, hg, -⟩ | ⟨hne, -⟩
      · rw [hg, hgen, List.filter_singleton, hp]
        rfl
      · exact absurd (hlast hl) hne
    · obtain ⟨⟨hsame, -⟩, hp⟩ := Step.keepsLoaded hst hl
      have hg : s'.rt.generation = s.rt.generation := congrArg (fun t => t.2.2) hsame
      rw [hg, hgen, List.filter_singleton, hp]
      rfl

/-- In a run that has not taken the runtime down every switch found it LOADING. -/
theorem SwitchesLoading.of_live {cfg : RuntimeConfig} {nx : Numerics} {ls : List Label} {s : Sys}
    (hd : ¬ s.rt.state.down) : SwitchesLoading cfg nx ls s := by
  intro ls₁ l ls₂ s₁ s₂ _ hrun hst hpath hl
  rcases step_cases hst with ⟨i, op, rfl, -, -⟩ | ⟨i, pc, ch, rt', next, rfl, hpc, -, -⟩
  · exact absurd hl id
  · have hprep : pc.preparing = some .LOADING := by
      cases pc <;> first | rfl | exact absurd hl id
    rcases ((RuntimeRun.inv hrun).preparing i pc _ hpc hprep).2 with hload | hdown
    · exact hload
    · exact absurd (Path.down hpath (Step.down hst hdown)) hd

/-- **When switching is all or nothing.**  In every run: the loaded skill
changes only in steps that make the runtime READY, a `prepare_skill` that
raised changed nothing, and the generation counts the `prepare_skill` calls
that returned, exactly when the last section of every `prepare_skill` found
the runtime still LOADING. -/
theorem skill_switch_atomic_iff {cfg : RuntimeConfig} {nx : Numerics} {ls : List Label} {s : Sys}
    (h : RuntimeRun cfg nx ls s) :
    (EveryStep (runtimeSystem cfg nx) (fun _ s₁ _ s₂ => s₂.rt.loaded ≠ s₁.rt.loaded →
        s₁.rt.state ≠ .READY ∧ s₂.rt.state = .READY) ls s ∧
      (∀ id skill timeout e, .call id (.prepare_skill skill timeout) ∈ ls →
        s.calls id = some (.returned (.error e)) →
        EveryStep (runtimeSystem cfg nx) (fun _ s₁ l s₂ => Label.of id l →
          s₂.rt.loaded = s₁.rt.loaded) ls s) ∧
      s.rt.generation = (ls.filter Label.prepared).length) ↔
    SwitchesLoading cfg nx ls s := by
  constructor
  · rintro ⟨hready, -, -⟩ ls₁ l ls₂ s₁ s₂ hls hrun hst hpath hl
    rcases Step.switches hst hl with ⟨hload, -⟩ | ⟨-, hsame, -, hg, -⟩
    · exact hload
    · -- the generation has changed and the state has not
      have hne : s₂.rt.loaded ≠ s₁.rt.loaded := by
        intro heq
        have : s₂.rt.generation = s₁.rt.generation := congrArg (fun t => t.2.2) heq
        omega
      obtain ⟨h1, h2⟩ := hready ls₁ l ls₂ s₁ s₂ hls hrun hst hpath hne
      exact absurd (hsame.symm.trans h2) h1
  · intro hall
    refine ⟨?_, ?_, hall.generation h⟩
    · intro ls₁ l ls₂ s₁ s₂ hls hrun hst hpath hne
      by_cases hl : l.switches
      · rcases Step.switches hst hl with ⟨hload, hready, -⟩ | ⟨hno, -⟩
        · exact ⟨by rw [hload]; decide, hready⟩
        · exact absurd (hall ls₁ l ls₂ s₁ s₂ hls hrun hst hpath hl) hno
      · exact absurd (Step.keepsLoaded hst hl).1.1 hne
    · intro id skill timeout e _ hraised ls₁ l ls₂ s₁ s₂ hls hrun hst hpath hof
      by_cases hl : l.switches
      · -- a call whose switch succeeded has returned, and has not raised
        rcases Step.switches hst hl with ⟨-, -, -, -, st, hret⟩ | ⟨hno, -⟩
        · have := Path.returned hpath (hret id hof)
          rw [hraised] at this
          cases this
        · exact absurd (hall ls₁ l ls₂ s₁ s₂ hls hrun hst hpath hl) hno
      · exact (Step.keepsLoaded hst hl).1.1

/-- An ordinary `prepare_skill`: one switch, in the step that makes READY. -/
theorem skill_switch_atomic_iff_prepared : ∃ ls s,
    RuntimeRun defaultConfig constNumerics ls s ∧ s.rt.active_skill = some (py "fold") ∧
      EveryStep (runtimeSystem defaultConfig constNumerics)
        (fun _ s₁ _ s₂ => s₂.rt.loaded ≠ s₁.rt.loaded →
          s₁.rt.state ≠ .READY ∧ s₂.rt.state = .READY) ls s ∧
      s.rt.generation = 1 ∧ (ls.filter Label.prepared).length = 1 := by
  obtain ⟨ls, s, hrun, hp⟩ := Sys.exists_run defaultConfig constNumerics (fun _ => none)
    (prepareMoves 0 (py "fold"))
    (fun _ s => decide (s.rt.active_skill = some (py "fold") ∧ s.rt.state = .READY ∧
      s.rt.generation = 1)) (by decide +kernel)
  obtain ⟨hskill, hready, hgen⟩ := of_decide_eq_true hp
  have hlive : ¬ s.rt.state.down := by
    rw [hready]
    decide
  obtain ⟨hsteps, -, hcount⟩ := (skill_switch_atomic_iff hrun).mpr (.of_live hlive)
  exact ⟨ls, s, hrun, hskill, hsteps, hgen, hcount.symm.trans hgen⟩

/-- A load during which an `abort` gives up on the execution lock. -/
def overtakenMoves : List Move :=
  [.call 0 (.prepare_skill (py "fold") 30), .step 0 (.clocks 0 0), .step 0 .acquired,
   .call 1 (.abort (py "operator")), .step 1 .timedOut, .step 1 .go,
   .step 0 (.loaded (.ok { backend := py "fake", skill := py "fold", model_id := py "fake" })),
   .step 0 .go]

/-- **A switch that is neither.**  The abort fails the runtime; the last
section of `prepare_skill` then changes skill, identity and generation, finds
that it cannot become READY, and raises. -/
theorem skill_switched_by_failure : ∃ ls s l s',
    RuntimeRun defaultConfig constNumerics ls s ∧ Step defaultConfig constNumerics s l s' ∧
      l.switches ∧ s.rt.state = .FAILED ∧ s'.rt.state = .FAILED ∧ s'.raised 0 = true ∧
      s.rt.active_skill = none ∧ s'.rt.active_skill = some (py "fold") ∧
      s.rt.identity = none ∧ s'.rt.identity.isSome = true ∧
      s.rt.generation = 0 ∧ s'.rt.generation = 1 ∧
      ((ls ++ [l]).filter Label.prepared).length = 0 := by
  obtain ⟨ls, s, l, s', hrun, hst, hp⟩ := Sys.exists_step defaultConfig constNumerics
    (fun _ => none) overtakenMoves (.step 0 .go)
    (fun ls s l s' => decide (l.switches ∧ s.rt.state = .FAILED ∧ s'.rt.state = .FAILED ∧
      s'.raised 0 = true ∧ s.rt.active_skill = none ∧ s'.rt.active_skill = some (py "fold") ∧
      s.rt.identity = none ∧ s'.rt.identity.isSome = true ∧ s.rt.generation = 0 ∧
      s'.rt.generation = 1 ∧ ((ls ++ [l]).filter Label.prepared).length = 0))
    (by decide +kernel)
  exact ⟨ls, s, l, s', hrun, hst, of_decide_eq_true hp⟩

end OvenRuntime
