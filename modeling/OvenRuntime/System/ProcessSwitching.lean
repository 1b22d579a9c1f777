/-
  OvenRuntime.System.ProcessSwitching
  ───────────────────────────────────
  Switching skills in the server process.

  Among arbitrary callers an `abort` that gives up on the execution lock fails
  the runtime under a running `prepare_skill`, whose last section then changes
  the skill and raises.  In the process the thread of the loop runs `prepare_skill`
  alone, and what `infer` does meanwhile cannot leave LOADING:

    • LOADING is entered with no inference in flight, and admits none
      (`LoadsQuietly`);
    • so the last section of `prepare_skill` finds it (`SwitchInv`).

  `process_switches_atomically` is what follows for a whole run.
-/
import OvenRuntime.Server.Switching
import OvenRuntime.System.ProcessReplay

namespace OvenRuntime

open TransitionSystem

/-! ## §1. The state of the runtime. -/

section Runtime

variable {cfg : RuntimeConfig} {nx : Numerics} {id : Nat} {rt rt' : PolicyRuntime} {pc : Pc}
  {ch : Choice} {next : CallState}

theorem PolicyRuntime.AuditRaised.state_or_down {e : Exn}
    (h : PolicyRuntime.AuditRaised rt e rt') : rt'.state = rt.state ∨ rt'.state.down := by
  cases h with
  | fault f audit => exact .inr (PolicyRuntime.failed_down _ _)
  | error e audit => exact .inl rfl

/-- **Outside `prepare_skill` the state stays or goes down.** -/
theorem Advance.state_or_down (h : Advance cfg nx id rt pc ch rt' next)
    (henter : ∀ skill timeout, pc ≠ .prepareEnter skill timeout)
    (hdrain : ∀ skill deadline, pc ≠ .prepareDrain skill deadline)
    (hcommit : ∀ skill identity, pc ≠ .prepareCommit skill identity) :
    rt'.state = rt.state ∨ rt'.state.down := by
  cases h with
  | prepareEnter => exact absurd rfl (henter _ _)
  | prepareDrain => exact absurd rfl (hdrain _ _)
  | prepareCommit => exact absurd rfl (hcommit _ _)
  | status | prepareAcquire | prepareTimeout | prepareLoad | prepareRaise | prepareRelease
  | beginAcquire | beginTimeout | beginRelease | inferAcquire | inferTimeout | inferRaise
  | inferPolicy | inferLeave | inferRelease | abortAcquire | abortTimeout | abortRelease
  | closeBackend => exact .inl rfl
  | prepareBusy | prepareFailed | beginFailed | abortTimedOut =>
      exact .inr (PolicyRuntime.failed_down _ _)
  | beginSection he =>
      rcases rt.beginSection_cases _ _ _ _ with ⟨e, audit, -, -, hc⟩
        | ⟨st, skill, audit, -, -, -, -, -, -, -, -, -, -, hc⟩
      all_goals
        cases he.symm.trans hc
        exact .inl rfl
  | openSession he =>
      rcases rt.openSession_cases cfg _ _ _ with ⟨e, hc⟩ | ⟨t, k, -, -, -, -, hc⟩
      all_goals
        cases he.symm.trans hc
        exact .inl rfl
  | closeSession he =>
      rcases rt.closeSession_cases _ with ⟨e, hc⟩ | ⟨lease, st, -, -, -, hc⟩
      all_goals
        cases he.symm.trans hc
        exact .inl rfl
  | endTrial he =>
      rcases rt.endTrial_cases _ with ⟨e, -, hc⟩ | ⟨e, rt₁, -, -, -, hr, hc⟩
        | ⟨a, audit, -, -, -, -, -, -, hc⟩
      · cases he.symm.trans hc
        exact .inl rfl
      · cases he.symm.trans hc
        exact hr.state_or_down
      · cases he.symm.trans hc
        exact .inl rfl
  | abortSection he =>
      rcases rt.abortSection_cases _ _ with ⟨e, rt₁, -, hr, hc⟩ | ⟨summary, out, audit, -, -, -, hc⟩
      · cases he.symm.trans hc
        exact hr.state_or_down
      · cases he.symm.trans hc
        exact .inl rfl
  | markAmbiguous he =>
      rcases rt.markAmbiguous_cases _ _ _ with ⟨-, hc⟩
        | ⟨lease, -, -, ⟨e, rt₁, -, hr, hc⟩ | ⟨summary, out, audit, -, -, -, hc⟩⟩
      · cases he.symm.trans hc
        exact .inl rfl
      · cases he.symm.trans hc
        exact hr.state_or_down
      · cases he.symm.trans hc
        exact .inr (PolicyRuntime.failed_down _ _)
  | inferEnter he =>
      rcases rt.inferEnter_cases _ _ with ⟨e, hc⟩ | ⟨e, lease, -, -, hc⟩ | ⟨lease, -, -, hc⟩
      all_goals
        cases he.symm.trans hc
        exact .inl rfl
  | inferRecord he =>
      obtain ⟨r', audit, -, -, hc⟩ := rt.inferRecord_cases nx _ _
      cases he.symm.trans hc
      exact .inl rfl
  | @inferFailed request lease_ref e out rt₁ he =>
      obtain ⟨f, code, hc⟩ := rt.inferFail_eq e
      cases he.symm.trans hc
      exact .inr (PolicyRuntime.failed_down _ _)
  | inferFinish he =>
      rcases rt.inferFinish_cases _ with ⟨lease, -, -, -, hc⟩ | ⟨f, -, hc⟩
      · cases he.symm.trans hc
        exact .inl rfl
      · cases he.symm.trans hc
        exact .inr (PolicyRuntime.failed_down _ _)
  | closeSection he =>
      rcases rt.closeSection_cases _ with ⟨r', audit, -, -, hc⟩ | ⟨r', audit, -, -, hc⟩
      all_goals
        cases he.symm.trans hc
        exact .inr (.inr rfl)

/-- A call of `infer` that is not admitted leaves the state alone. -/
theorem Advance.infer_state (h : Advance cfg nx id rt pc ch rt' next) (hinf : pc.infers = true)
    (hserving : pc.serving = none) : rt'.state = rt.state := by
  cases h with
  | inferAcquire | inferTimeout | inferRelease => rfl
  | inferEnter he =>
      rcases rt.inferEnter_cases _ _ with ⟨e, hc⟩ | ⟨e, lease, -, -, hc⟩ | ⟨lease, -, -, hc⟩
      all_goals
        cases he.symm.trans hc
        rfl
  | inferRaise | inferPolicy | inferRecord | inferFailed | inferFinish | inferLeave => cases hserving
  | _ => cases hinf

/-- Before a skill is loaded, and while one is, no inference is in flight. -/
def LoadsQuietly (rt : PolicyRuntime) : Prop :=
  rt.state = .STARTING ∨ rt.state = .LOADING → rt.in_flight = 0

theorem LoadsQuietly.of_state {st : RuntimeState} (hst : rt.state = st) (hs : st ≠ .STARTING)
    (hl : st ≠ .LOADING) : LoadsQuietly rt := by
  intro h
  rw [hst] at h
  rcases h with h | h
  · exact absurd h hs
  · exact absurd h hl

theorem LoadsQuietly.of_down (hd : rt.state.down) : LoadsQuietly rt := by
  rcases hd with hst | hst
  · exact .of_state hst (by decide) (by decide)
  · exact .of_state hst (by decide) (by decide)

/-- A drain starts loading when nothing is in flight. -/
theorem LoadsQuietly.drain {deadline now : ℚ} {r : Except Exn PolicyRuntime.Drained}
    (h : LoadsQuietly rt) (he : rt.drain deadline now = (r, rt')) : LoadsQuietly rt' := by
  rcases rt.drain_cases deadline now with ⟨e, -, hc⟩ | ⟨-, hc⟩ | ⟨hin, -, hc⟩ | ⟨e, -, -, hc⟩
  · cases he.symm.trans hc
    exact .of_down (PolicyRuntime.failed_down _ _)
  · cases he.symm.trans hc
    exact h
  · cases he.symm.trans hc
    exact fun _ => hin
  · cases he.symm.trans hc
    exact h

/-- **LOADING is entered with nothing in flight**, and nothing is admitted in it. -/
theorem Advance.loadsQuietly (ha : Advance cfg nx id rt pc ch rt' next) (h : LoadsQuietly rt)
    (hbusy : pc.serving.isSome = true → rt.in_flight = 1) : LoadsQuietly rt' := by
  have hother : ∀ (henter : ∀ skill timeout, pc ≠ .prepareEnter skill timeout)
      (hdrain : ∀ skill deadline, pc ≠ .prepareDrain skill deadline)
      (hcommit : ∀ skill identity, pc ≠ .prepareCommit skill identity), LoadsQuietly rt' := by
    intro henter hdrain hcommit
    rcases ha.state_or_down henter hdrain hcommit with hsame | hd
    · intro hst
      rw [hsame] at hst
      have hzero := h hst
      cases ha.effect with
      | frame hf => exact hf.in_flight.trans hzero
      | admitted hadmitted =>
          -- a request is admitted in READY only
          rw [hadmitted.ready] at hst
          rcases hst with hst | hst
          · cases hst
          · cases hst
      | left =>
          have hone := hbusy rfl
          omega
      | acquire | release | began | opened | entered | refused | finished => exact hzero
    · exact .of_down hd
  cases ha with
  | @prepareEnter skill timeout now now' r _ he =>
      rcases rt.prepareEnter_cases timeout now now' with ⟨e, hc⟩ | ⟨-, -, e, hc⟩
        | ⟨-, hst, hc⟩ | ⟨-, -, hc⟩
      · cases he.symm.trans hc
        exact h
      · cases he.symm.trans hc
        exact h
      · cases he.symm.trans hc
        exact fun _ => h (.inl hst)
      · have hquiet : LoadsQuietly { rt with session := none, state := .DRAINING } :=
          .of_state (show _ = RuntimeState.DRAINING from rfl) (by decide) (by decide)
        exact hquiet.drain (hc.symm.trans he)
  | prepareDrain he => exact h.drain he
  | @prepareCommit skill identity r _ he =>
      rcases rt.prepareCommit_cases skill identity with ⟨st, -, hc⟩ | ⟨e, -, hc⟩
      · cases he.symm.trans hc
        exact .of_state (show _ = RuntimeState.READY from rfl) (by decide) (by decide)
      · cases he.symm.trans hc
        exact h
  | _ => exact hother (by simp) (by simp) (by simp)

/-- The program counters from which `prepare_skill` still goes on to its last
section. -/
def Pc.committing : Pc → Bool
  | .prepareAcquire _ | .prepareLoad _ | .prepareCommit _ _ => true
  | .prepareRelease _ (.ok _) => true
  | _ => false

theorem Pc.preparing_of_committing (h : pc.committing = true) : pc.preparing = some .LOADING := by
  cases pc <;> first | rfl | cases h

/-- A drain after which `prepare_skill` goes on has started loading. -/
theorem drain_committing {skill : PyStr} {deadline now : ℚ}
    {r : Except Exn PolicyRuntime.Drained} {pc' : Pc} (he : rt.drain deadline now = (r, rt'))
    (hnext : .running pc' = afterDrain skill r) (hpc' : pc'.committing = true) :
    rt'.state = .LOADING := by
  rcases rt.drain_cases deadline now with ⟨e, -, hc⟩ | ⟨-, hc⟩ | ⟨-, -, hc⟩ | ⟨e, -, -, hc⟩
  · cases he.symm.trans hc
    cases hnext
  · cases he.symm.trans hc
    cases hnext
    cases hpc'
  · cases he.symm.trans hc
    rfl
  · cases he.symm.trans hc
    cases hnext

/-- They are reached in LOADING, which their steps do not leave. -/
theorem Advance.committing {pc' : Pc} (h : Advance cfg nx id rt pc ch rt' (.running pc'))
    (hpc' : pc'.committing = true) :
    rt'.state = .LOADING ∨ (pc.committing = true ∧ rt'.state = rt.state) := by
  generalize hnext : CallState.running pc' = next at h
  cases h with
  | @prepareEnter skill timeout now now' r _ he =>
      rcases rt.prepareEnter_cases timeout now now' with ⟨e, hc⟩ | ⟨-, -, e, hc⟩
        | ⟨-, -, hc⟩ | ⟨-, -, hc⟩
      · cases he.symm.trans hc
        cases hnext
      · cases he.symm.trans hc
        cases hnext
      · cases he.symm.trans hc
        exact .inl rfl
      · exact .inl (drain_committing (hc.symm.trans he) hnext hpc')
  | prepareDrain he => exact .inl (drain_committing he hnext hpc')
  | prepareAcquire => exact .inr ⟨rfl, rfl⟩
  | prepareLoad => exact .inr ⟨rfl, rfl⟩
  | @prepareRelease skill loaded =>
      cases loaded with
      | ok identity => exact .inr ⟨rfl, rfl⟩
      | error e => cases hnext
  | @beginSection trial_id root_seed reset io r =>
      rcases r with ⟨f | e⟩ | st <;> cases hnext <;> cases hpc'
  | @inferEnter request now r => cases r <;> cases hnext <;> cases hpc'
  | @inferRecord inf io r => cases r <;> cases hnext <;> cases hpc'
  | @beginRelease out | @inferRelease out | @abortRelease out => cases out <;> cases hnext
  | @openSession session_id token now r => cases r <;> cases hnext
  | @closeSession session_id r => cases r <;> cases hnext
  | @prepareCommit skill identity r => cases r <;> cases hnext
  | @endTrial io r | @markAmbiguous session_id sequence io r => cases r <;> cases hnext
  | @closeSection io r =>
      cases r with
      | ok audit_error =>
          cases hnext
          cases hpc'
      | error e => cases hnext
  | @closeBackend audit_error r => cases audit_error <;> cases r <;> cases hnext
  | status | prepareBusy | beginTimeout | inferTimeout | abortTimedOut => cases hnext
  | prepareTimeout | prepareRaise | prepareFailed | beginAcquire | beginFailed | inferAcquire
  | inferRaise | inferPolicy | inferFailed | inferFinish | inferLeave | abortAcquire | abortTimeout
  | abortSection =>
      cases hnext
      cases hpc'

end Runtime

/-! ## §2. The process. -/

section Process

variable {cfg : RuntimeConfig} {nx : Numerics} {lib : Library} {mp : MessagePack}
  {server : LoopbackInferenceServer} {s s' : ServerProcess} {e : ServerEvent}
  {es : List ServerEvent}

/-- **A `prepare_skill` that goes on finds LOADING.** -/
structure SwitchInv (s : ServerProcess) : Prop where
  quiet : LoadsQuietly s.sys.rt
  committing : ∀ id pc, s.sys.calls id = some (.running pc) → pc.committing = true →
    s.sys.rt.state = .LOADING

/-- Nobody is in service in LOADING. -/
theorem SwitchInv.none_serving (h : SwitchInv s) (hlock : LockInv s.sys)
    (hst : s.sys.rt.state = .LOADING) {id : Nat} {c : CallState}
    (hc : s.sys.calls id = some c) : c.serving = none := by
  cases hserving : c.serving with
  | none => rfl
  | some p =>
      have hone : s.sys.rt.in_flight = 1 := hlock.busy id c hc (by rw [hserving]; rfl)
      have hzero := h.quiet (.inr hst)
      omega

/-- A step of the runtime, while the loop keeps its discipline. -/
theorem SwitchInv.runtime {l : Label} {sys : Sys} (h : SwitchInv s) (hinv : LoopInv s)
    (hlock : LockInv s.sys) (hst : Step cfg nx s.sys l sys) (hsys : s'.sys = sys) :
    SwitchInv s' := by
  rcases step_cases hst with ⟨i, op, -, -, rfl⟩ | ⟨i, pc, ch, rt', next, -, hpc, ha, rfl⟩
  · constructor
    · rw [hsys]
      exact h.quiet
    · intro id pc hid hcommitting
      rw [hsys] at hid ⊢
      rcases Sys.setCall_calls_eq hid with ⟨-, hstart⟩ | ⟨-, hold⟩
      · -- no call begins there
        have hnone := (Op.start_preparing hstart.symm).1
        rw [Pc.preparing_of_committing hcommitting] at hnone
        cases hnone
      · exact h.committing id pc hold hcommitting
  · constructor
    · rw [hsys]
      exact ha.loadsQuietly h.quiet fun hserving => hlock.busy i _ hpc hserving
    · intro id pc' hid hcommitting
      rw [hsys] at hid ⊢
      rcases Sys.setCall_calls_eq hid with ⟨rfl, rfl⟩ | ⟨hne, hold⟩
      · rcases ha.committing hcommitting with hload | ⟨hbefore, hsame⟩
        · exact hload
        · exact hsame.trans (h.committing id pc hpc hbefore)
      · -- the loop is in the other call, so this step is one of `infer`
        have hload := h.committing id pc' hold hcommitting
        have hother : pc'.infers = false := by
          cases pc' <;> first | rfl | cases hcommitting
        obtain ⟨c, hc, rfl⟩ := hinv.others id pc' hold hother
        have hinfers : pc.infers = true := by
          by_contra hno
          obtain ⟨c', hc', rfl⟩ := hinv.others i pc hpc ((Bool.not_eq_true _).mp hno)
          cases hc.symm.trans hc'
          exact hne rfl
        have hserving : pc.serving = none := h.none_serving hlock hload hpc
        exact (ha.infer_state hinfers hserving).trans hload

theorem SwitchInv.step (h : SwitchInv s) (hinv : LoopInv s) (hlock : LockInv s.sys)
    (hst : ServerStep cfg nx lib mp server s e s') : SwitchInv s' := by
  rcases hst.runtime with ⟨-, hsame⟩ | ⟨l, -, hstep⟩
  · constructor
    · rw [hsame]
      exact h.quiet
    · rw [hsame]
      exact h.committing
  · exact h.runtime hinv hlock hstep rfl

theorem ServerRun.switchInv (h : ServerRun cfg nx lib mp server es s) : SwitchInv s := by
  refine Run.invariant (M := serverProcess cfg nx lib mp server) (fun _ s => SwitchInv s) ?_ ?_ h
  · rintro s ⟨dirs, rfl⟩
    constructor
    · intro _
      rfl
    · intro id pc hid
      cases hid
  · intro es s e s' hrun hinv hst
    exact hinv.step (ServerRun.loopInv hrun) (RuntimeRun.lockInv (ServerRun.runtime hrun)) hst

/-- The last section of `prepare_skill` finds LOADING. -/
theorem ServerRun.switches_loading (h : ServerRun cfg nx lib mp server es s) {l : Label} {sys : Sys}
    (hst : Step cfg nx s.sys l sys) (hl : l.switches) : s.sys.rt.state = .LOADING := by
  rcases step_cases hst with ⟨i, op, rfl, -, -⟩ | ⟨i, pc, ch, rt', next, rfl, hpc, -, -⟩
  · exact absurd hl id
  · refine (ServerRun.switchInv h).committing i pc hpc ?_
    cases pc <;> first | rfl | exact absurd hl id

/-- The step is one of the call `id`. -/
def ServerEvent.of (id : Nat) (e : ServerEvent) : Prop := ∃ l, e.label = some l ∧ Label.of id l

/-- **Switching in the process is all or nothing.**  In every run of `run_server`:
the loaded skill changes only in steps that take the runtime from LOADING to
READY, with no inference in service; a `prepare_skill` that raised changed
nothing; and the generation counts the `prepare_skill` calls that returned. -/
theorem process_switches_atomically (h : ServerRun cfg nx lib mp server es s) :
    EveryStep (serverProcess cfg nx lib mp server) (fun _ s₁ _ s₂ =>
        s₂.sys.rt.loaded ≠ s₁.sys.rt.loaded → s₁.sys.rt.state = .LOADING ∧
          s₂.sys.rt.state = .READY ∧ s₂.sys.rt.generation = s₁.sys.rt.generation + 1 ∧
          ∀ id c, s₁.sys.calls id = some c → c.serving = none) es s ∧
      (∀ id skill timeout err, .control id (.prepare_skill skill timeout) ∈ es →
        s.sys.calls id = some (.returned (.error err)) →
        EveryStep (serverProcess cfg nx lib mp server) (fun _ s₁ e s₂ => e.of id →
          s₂.sys.rt.loaded = s₁.sys.rt.loaded) es s) ∧
      s.sys.rt.generation = ((runtimeLabels es).filter Label.prepared).length := by
  refine ⟨?_, ?_, ?_⟩
  · intro es₁ e es₂ s₁ s₂ _ hrun hst _ hne
    rcases ServerStep.runtime hst with ⟨-, hsame⟩ | ⟨l, -, hstep⟩
    · rw [hsame] at hne
      exact absurd rfl hne
    · by_cases hl : l.switches
      · have hload := ServerRun.switches_loading hrun hstep hl
        rcases Step.switches hstep hl with ⟨-, hready, -, hgeneration, -⟩ | ⟨hno, -⟩
        · refine ⟨hload, hready, hgeneration, fun id c hc => ?_⟩
          exact (ServerRun.switchInv hrun).none_serving
            (RuntimeRun.lockInv (ServerRun.runtime hrun)) hload hc
        · exact absurd hload hno
      · exact absurd (Step.keepsLoaded hstep hl).1.1 hne
  · intro id skill timeout err _ hraised es₁ e es₂ s₁ s₂ _ hrun hst hpath hof
    obtain ⟨l, hl, hlof⟩ := hof
    rcases ServerStep.runtime hst with ⟨-, hsame⟩ | ⟨l', hl', hstep⟩
    · rw [hsame]
    · cases hl.symm.trans hl'
      by_cases hsw : l.switches
      · -- a call whose switch succeeded has returned, and has not raised
        rcases Step.switches hstep hsw with ⟨-, -, -, -, st, hret⟩ | ⟨hno, -⟩
        · have hreturned := Path.returned (ServerPath.runtime hpath) (hret id hlof)
          rw [hraised] at hreturned
          cases hreturned
        · exact absurd (ServerRun.switches_loading hrun hstep hsw) hno
      · exact (Step.keepsLoaded hstep hsw).1.1
  · refine Run.invariant (M := serverProcess cfg nx lib mp server) (fun es s =>
      s.sys.rt.generation = ((runtimeLabels es).filter Label.prepared).length) ?_ ?_ h
    · rintro s ⟨dirs, rfl⟩
      rfl
    · intro es s e s' hrun ih hst
      rw [runtimeLabels_append, List.filter_append, List.length_append, ← ih]
      rcases ServerStep.runtime hst with ⟨hnone, hsame⟩ | ⟨l, hl, hstep⟩
      · have hnil : runtimeLabels [e] = [] := by simp [runtimeLabels, hnone]
        rw [hsame, hnil]
        rfl
      · have hone : runtimeLabels [e] = [l] := by simp [runtimeLabels, hl]
        rw [hone]
        by_cases hsw : l.switches
        · rcases Step.switches hstep hsw with ⟨-, -, hprepared, hgeneration, -⟩ | ⟨hno, -⟩
          · simp [hprepared, hgeneration]
          · exact absurd (ServerRun.switches_loading hrun hstep hsw) hno
        · obtain ⟨⟨hloaded, -⟩, hprepared⟩ := Step.keepsLoaded hstep hsw
          have hgeneration : s'.sys.rt.generation = s.sys.rt.generation :=
            congrArg (fun t => t.2.2) hloaded
          simp [hprepared, hgeneration]

end Process

/-- A skill is loaded while a connection's request waits for the execution lock. -/
def loadingMoves : List ServerMove :=
  [.accept 0, .control 0 (.prepare_skill (py "fold") 30), .step 0 (.clocks 0 0), .step 0 .acquired,
   .step 0 (.loaded (.ok { backend := py "fake", skill := py "fold", model_id := py "fake" })),
   .step 0 .go, .step 0 .go, .resume, .frame 0 sampleFrame 1, .step 1 .acquired,
   .control 2 (.prepare_skill (py "sort") 30), .step 2 (.clocks 0 0), .step 1 (.clock 1),
   .step 1 .go, .step 2 .acquired, .step 2 (.loaded (.error (.error .RuntimeError))), .step 2 .go,
   .step 2 .go, .resume]

theorem process_switches_atomically_loading : ∃ es s,
    ServerRun defaultConfig sampleNumerics tableLibrary stridedMessagePack sampleServer es s ∧
      s.sys.raised 2 = true ∧ s.sys.rt.active_skill = some (py "fold") ∧
      ((runtimeLabels es).filter Label.prepared).length = 1 ∧ s.sys.rt.generation = 1 := by
  obtain ⟨es, s, hrun, htest⟩ := ServerProcess.exists_run defaultConfig sampleNumerics
    tableLibrary stridedMessagePack sampleServer (fun _ => none) loadingMoves
    (fun es s => s.sys.raised 2 && decide (s.sys.rt.active_skill = some (py "fold")) &&
      decide (((runtimeLabels es).filter Label.prepared).length = 1)) (by decide +kernel)
  rw [Bool.and_eq_true, Bool.and_eq_true, decide_eq_true_eq, decide_eq_true_eq] at htest
  obtain ⟨-, -, hgeneration⟩ := process_switches_atomically hrun
  exact ⟨es, s, hrun, htest.1.1, htest.1.2, htest.2, by rw [hgeneration, htest.2]⟩

end OvenRuntime
