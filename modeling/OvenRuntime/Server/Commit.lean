/-
  OvenRuntime.Server.Commit
  ─────────────────────────
  What a committed trial is worth.

  `end_trial` looks at the session and the trial only.  This file proves what
  that buys and what it does not:

    * `commit_sound_iff`    — a commit certifies its trial exactly when it
                              happens in READY with nothing in flight;
    * `ambiguous_fatal_iff` — exactly when a lost response is fatal to the
                              runtime and to its trial.

  Both rest on the record of answers (`AnswerInv`): a call that has entered
  the policy is still on its way, or has its response, or the runtime is down.
-/
import OvenRuntime.Server.ExactlyOnce

namespace OvenRuntime

/-! ## §1. Answers. -/

/-- A response answers the request it was computed for. -/
structure Answers (request : InferenceRequest) (response : InferenceResponse) : Prop where
  session_id : response.session_id = request.session_id
  trial_id : response.trial_id = request.trial_id
  sequence : response.sequence = request.sequence

/-- **The record of answers.** -/
structure AnswerInv (ls : List Label) (s : Sys) : Prop where
  /-- Whoever entered the policy is on the way, has a response, or the
  runtime is down. -/
  settled : ∀ e ∈ entries ls, s.rt.state.down ∨
    (∃ c ref, s.calls e.1 = some c ∧ c.entered = some (e.2, ref)) ∨
    (∃ c response, s.calls e.1 = some c ∧ c.answered = some response ∧ Answers e.2 response)
  /-- The trial of a request in service has its directory. -/
  serving : ∀ id c request ref, s.calls id = some c → c.serving = some (request, ref) →
    (s.rt.audit.dirs request.trial_id).isSome = true
  /-- So has the trial of a response. -/
  answered : ∀ id c response, s.calls id = some c → c.answered = some response →
    (s.rt.audit.dirs response.trial_id).isSome = true

/-- What the step of a call does to its own answer. -/
theorem Effect.answer {id : Nat} {rt rt' : PolicyRuntime} {pc : Pc} {next : CallState}
    (h : Effect id rt pc rt' next) (request : InferenceRequest) :
    (∀ ref, pc.entered = some (request, ref) → rt'.state.down ∨
      (∃ ref', next.entered = some (request, ref')) ∨
      ∃ response, next.answered = some response ∧ Answers request response) ∧
    (∀ response, pc.answered = some response → next.answered = some response) := by
  constructor
  · intro ref he
    cases h with
    | frame _ _ _ hsame => exact .inr (.inl ⟨ref, hsame.trans he⟩)
    | acquire _ _ hs | release _ hs =>
        rw [show pc.entered = none from CallState.entered_none_of_serving (c := .running pc) hs]
          at he
        cases he
    | refused => exact .inl (rt.failed_down _)
    | finished =>
        cases he
        exact .inr (.inr ⟨_, rfl, rfl, rfl, rfl⟩)
    | began | opened | admitted | entered | left => cases he
  · intro response ha
    cases h with
    | frame _ _ _ _ hnone =>
        rw [hnone] at ha
        cases ha
    | acquire _ _ _ hnone =>
        rw [hnone] at ha
        cases ha
    | release _ _ _ _ hsame => exact hsame.trans ha
    | refused _ he =>
        rw [show pc.answered = none from CallState.answered_none_of_entered (c := .running pc) he]
          at ha
        cases ha
    | @left request ref out =>
        cases out with
        | error e => cases ha
        | ok r => exact ha
    | began | opened | admitted | entered | finished => cases ha

/-- What a call serves after its step, it served before or was admitted with,
under a lease that stays stored. -/
theorem Effect.serving_origin {id : Nat} {rt rt' : PolicyRuntime} {pc : Pc} {next : CallState}
    (h : Effect id rt pc rt' next) {request : InferenceRequest} {ref : Nat}
    (hs : next.serving = some (request, ref)) :
    pc.serving = some (request, ref) ∨
      ∃ lease, PolicyRuntime.Admitted rt request lease ∧ lease.ref = ref ∧
        rt'.session = rt.session := by
  cases h with
  | frame _ _ hsame => exact .inl (hsame.symm.trans hs)
  | acquire _ _ _ _ _ hnone =>
      rw [CallState.serving_running, hnone] at hs
      cases hs
  | release _ _ _ hnone =>
      rw [hnone] at hs
      cases hs
  | admitted hadm =>
      cases hs
      exact .inr ⟨_, hadm, rfl, rfl⟩
  | entered _ he =>
      rw [CallState.serving_of_entered he] at hs
      exact .inl hs
  | refused _ he =>
      cases hs
      exact .inl (CallState.serving_of_entered (c := .running pc) he)
  | finished => exact .inl hs
  | began | opened | left => cases hs

/-- A response a call has after its step, it had before, or it answers the
request the call served. -/
theorem Effect.answered_origin {id : Nat} {rt rt' : PolicyRuntime} {pc : Pc} {next : CallState}
    (h : Effect id rt pc rt' next) {response : InferenceResponse}
    (ha : next.answered = some response) :
    pc.answered = some response ∨
      ∃ request ref, pc.serving = some (request, ref) ∧ Answers request response := by
  cases h with
  | frame _ _ _ _ _ hnone =>
      rw [hnone] at ha
      cases ha
  | acquire _ _ _ _ _ _ hnone =>
      rw [show (CallState.running _).answered = none from hnone] at ha
      cases ha
  | release _ _ _ _ hsame => exact .inl (hsame.symm.trans ha)
  | entered _ he =>
      rw [CallState.answered_none_of_entered he] at ha
      cases ha
  | @finished inf lease =>
      cases ha
      exact .inr ⟨_, _, rfl, rfl, rfl, rfl⟩
  | @left request ref out =>
      cases out with
      | error e => cases ha
      | ok r => exact .inl ha
  | began | opened | admitted | refused => cases ha

/-- The trial of an admitted request has its directory. -/
theorem PolicyRuntime.Admitted.directory {rt : PolicyRuntime} {request : InferenceRequest}
    {lease : SessionLease} (h : PolicyRuntime.Admitted rt request lease) (hwf : rt.WF) :
    (rt.audit.dirs request.trial_id).isSome = true := by
  obtain ⟨active, -, hid, hr⟩ := hwf.recorded h.trial_id
  rw [← hid]
  exact hr.directory

/-- **Every step keeps the record of answers.** -/
theorem AnswerInv.step {cfg : RuntimeConfig} {nx : Numerics} {ls : List Label} {s s' : Sys}
    {l : Label} (h : AnswerInv ls s) (hwf : s.rt.WF) (hs : Step cfg nx s l s') :
    AnswerInv (ls ++ [l]) s' := by
  have hdirs := Step.dirs hs
  have hdown := Step.down hs
  rcases step_cases hs with ⟨id, op, rfl, hnone, rfl⟩ | ⟨id, pc, ch, rt', next, rfl, hpc, ha, rfl⟩
  · have hold : ∀ j c, s.calls j = some c → (s.setCall s.rt id (op.start nx)).calls j = some c := by
      intro j c hj
      have hne : j ≠ id := by
        rintro rfl
        rw [hnone] at hj
        cases hj
      rw [Sys.setCall_other _ _ _ hne]
      exact hj
    refine ⟨?_, ?_, ?_⟩
    · intro e he
      rw [entries_snoc_none rfl] at he
      rcases h.settled e he with hd | ⟨c, ref, hc, hent⟩ | ⟨c, r, hc, hans⟩
      · exact .inl hd
      · exact .inr (.inl ⟨c, ref, hold _ _ hc, hent⟩)
      · exact .inr (.inr ⟨c, r, hold _ _ hc, hans⟩)
    · intro j c request ref hj hsv
      rcases Sys.setCall_calls_eq hj with ⟨-, rfl⟩ | ⟨-, ho⟩
      · rw [(op.start_holdsLock nx).2] at hsv
        cases hsv
      · exact h.serving j c request ref ho hsv
    · intro j c response hj hans
      rcases Sys.setCall_calls_eq hj with ⟨-, rfl⟩ | ⟨-, ho⟩
      · rw [op.start_answered] at hans
        cases hans
      · exact h.answered j c response ho hans
  · have heff := ha.effect
    refine ⟨?_, ?_, ?_⟩
    · intro e he
      -- an entry is an old one, or the one this step makes
      have hcase : e ∈ entries ls ∨ e.1 = id ∧ ∃ ref, next.entered = some (e.2, ref) := by
        cases hent : (Label.step id pc ch next).entry with
        | none =>
            rw [entries_snoc_none hent] at he
            exact .inl he
        | some e' =>
            rw [entries_snoc_some hent, List.mem_append, List.mem_singleton] at he
            rcases he with he | rfl
            · exact .inl he
            · right
              cases pc <;> cases hent
              cases heff with
              | frame _ _ _ _ _ _ hno => cases hno
              | acquire _ hl => cases hl
              | release _ hno => cases hno
              | entered _ hen => exact ⟨rfl, _, hen⟩
              | refused _ hno => cases hno
      rcases hcase with hin | ⟨hid, ref, hent⟩
      · rcases h.settled e hin with hd | ⟨c, ref, hc, hent⟩ | ⟨c, r, hc, hans, hr⟩
        · exact .inl (hdown hd)
        · by_cases hid : e.1 = id
          · rw [hid, hpc] at hc
            cases hc
            rcases (heff.answer e.2).1 ref hent with hd | ⟨ref', hn⟩ | ⟨r, hn, hr⟩
            · exact .inl hd
            · exact .inr (.inl ⟨next, ref', by rw [hid, Sys.setCall_self], hn⟩)
            · exact .inr (.inr ⟨next, r, by rw [hid, Sys.setCall_self], hn, hr⟩)
          · exact .inr (.inl ⟨c, ref, by rw [Sys.setCall_other _ _ _ hid]; exact hc, hent⟩)
        · by_cases hid : e.1 = id
          · rw [hid, hpc] at hc
            cases hc
            exact .inr (.inr ⟨next, r, by rw [hid, Sys.setCall_self],
              (heff.answer e.2).2 r hans, hr⟩)
          · exact .inr (.inr ⟨c, r, by rw [Sys.setCall_other _ _ _ hid]; exact hc, hans, hr⟩)
      · exact .inr (.inl ⟨next, ref, by rw [hid, Sys.setCall_self], hent⟩)
    · intro j c request ref hj hsv
      rcases Sys.setCall_calls_eq hj with ⟨rfl, rfl⟩ | ⟨-, ho⟩
      · rcases heff.serving_origin hsv with hold | ⟨lease, hadm, -, -⟩
        · exact hdirs _ (h.serving j _ request ref hpc hold)
        · exact hdirs _ (hadm.directory hwf)
      · exact hdirs _ (h.serving j c request ref ho hsv)
    · intro j c response hj hans
      rcases Sys.setCall_calls_eq hj with ⟨rfl, rfl⟩ | ⟨-, ho⟩
      · rcases heff.answered_origin hans with hold | ⟨request, ref, hsv, hr⟩
        · exact hdirs _ (h.answered j _ response hpc hold)
        · rw [hr.trial_id]
          exact hdirs _ (h.serving j _ request ref hpc hsv)
      · exact hdirs _ (h.answered j c response ho hans)

theorem RuntimeRun.answerInv {cfg : RuntimeConfig} {nx : Numerics} {ls : List Label} {s : Sys}
    (h : RuntimeRun cfg nx ls s) : AnswerInv ls s := by
  refine TransitionSystem.Run.invariant AnswerInv ?_ ?_ h
  · rintro s ⟨dirs, rfl⟩
    exact ⟨by simp [entries], by simp, by simp⟩
  · intro ls s l s' hrun hinv hstep
    exact hinv.step (RuntimeRun.inv hrun).wf hstep

/-! ## §2. Commits. -/

/-- The summary with which a step ends a trial as COMMITTED. -/
def Label.commits : Label → Option TrialRecord
  | .step _ .endTrial _ (.returned (.ok (.trial summary))) =>
      if summary.status = .COMMITTED then some summary else none
  | _ => none

/-- A step that commits is a step of `end_trial` that found no active lease
and committed the recorded trial. -/
theorem Step.commits {cfg : RuntimeConfig} {nx : Numerics} {s s' : Sys} {l : Label}
    {summary : TrialRecord} (h : Step cfg nx s l s') (hc : l.commits = some summary) :
    ∃ a audit, s.rt.activeLease = none ∧ s.rt.audit.active = some a ∧ summary = a.summary ∧
      s'.rt = s.rt.trialOver audit ∧ ∀ j c, s.calls j = some c → c.serving.isSome ∨
        c.answered.isSome → s'.calls j = some c := by
  rcases step_cases h with ⟨id, op, rfl, -, -⟩ | ⟨id, pc, ch, rt', next, rfl, hpc, ha, rfl⟩
  · cases hc
  · unfold Label.commits at hc
    split at hc
    · rename_i i ch₀ summary' hl
      cases hl
      generalize hn : CallState.returned (.ok (.trial summary')) = next' at ha
      cases ha
      rename_i io r he
      rcases s.rt.endTrial_cases io with ⟨e, -, hcase⟩ | ⟨e, rt₁, -, -, -, -, hcase⟩
        | ⟨a, audit, hl, -, -, hact, -, -, hcase⟩
      · cases he.symm.trans hcase
        cases hn
      · cases he.symm.trans hcase
        cases hn
      · cases he.symm.trans hcase
        cases hn
        refine ⟨a, audit, hl, hact, ?_, rfl, ?_⟩
        · simpa [ActiveTrial.summary] using hc.symm
        · -- the committing call itself neither serves nor has an answer
          intro j c hj hsome
          have hne : j ≠ id := by
            rintro rfl
            rw [hpc] at hj
            cases hj
            rcases hsome with hsome | hsome <;> cases hsome
          rw [Sys.setCall_other _ _ _ hne]
          exact hj
    · cases hc

/-- A call has returned its response; at most the release of the execution
lock, the last clause of its `finally`, is still to come. -/
def Sys.Responded (s : Sys) (e : Nat × InferenceRequest) : Prop :=
  ∃ response, Answers e.2 response ∧
    (s.calls e.1 = some (.returned (.ok (.response response))) ∨
     s.calls e.1 = some (.running (.inferRelease (.ok response))))

/-- An answered call that serves nobody any more has returned its response. -/
theorem CallState.answered_settled {c : CallState} {response : InferenceResponse}
    (ha : c.answered = some response) (hs : c.serving = none) :
    c = .returned (.ok (.response response)) ∨ c = .running (.inferRelease (.ok response)) := by
  cases c with
  | returned out =>
      left
      cases out with
      | error e => cases ha
      | ok r =>
          cases r <;> cases ha
          rfl
  | running pc =>
      right
      cases pc with
      | inferRelease out =>
          cases out <;> cases ha
          rfl
      | inferLeave => cases hs
      | _ => cases ha

/-- With nothing in flight an answered call has returned its response. -/
theorem LockInv.responded {s : Sys} (h : LockInv s) (hin : s.rt.in_flight = 0)
    {e : Nat × InferenceRequest} {c : CallState} {response : InferenceResponse}
    (hc : s.calls e.1 = some c) (ha : c.answered = some response) (hr : Answers e.2 response) :
    s.Responded e := by
  have hserve : c.serving = none := by
    cases hs : c.serving with
    | none => rfl
    | some p =>
        have := h.busy e.1 c hc (by simp [hs])
        omega
  refine ⟨response, hr, ?_⟩
  rw [hc]
  simpa using CallState.answered_settled ha hserve

/-- **What a commit certifies.**  When `end_trial` commits a trial, the
runtime is READY, nothing is in flight, and every call that entered the
policy under the trial has returned its response, exactly when the runtime
was READY with nothing in flight as `end_trial` ran: the two conditions that
`end_trial` does not check. -/
theorem commit_sound_iff {cfg : RuntimeConfig} {nx : Numerics} {ls : List Label} {s s' : Sys}
    {l : Label} {summary : TrialRecord} (h : RuntimeRun cfg nx ls s) (hs : Step cfg nx s l s')
    (hc : l.commits = some summary) :
    (s'.rt.state = .READY ∧ s'.rt.in_flight = 0 ∧
      ∀ e ∈ entries ls, e.2.trial_id = summary.trial_id → s'.Responded e) ↔
    (s.rt.state = .READY ∧ s.rt.in_flight = 0) := by
  obtain ⟨a, audit, -, -, -, hrt, hkeep⟩ := hs.commits hc
  have hstate : s'.rt.state = s.rt.state := by rw [hrt]; rfl
  have hin : s'.rt.in_flight = s.rt.in_flight := by rw [hrt]; rfl
  rw [hstate, hin]
  constructor
  · intro hp
    exact ⟨hp.1, hp.2.1⟩
  · rintro ⟨hready, hzero⟩
    refine ⟨hready, hzero, ?_⟩
    intro e he _
    have hlock := RuntimeRun.lockInv h
    -- the call is not in the policy any more, and the runtime did not fail
    have hresp : s.Responded e := by
      rcases (RuntimeRun.answerInv h).settled e he with hd | ⟨c, ref, hcall, hent⟩
        | ⟨c, response, hcall, hans, hr⟩
      · rw [hready] at hd
        exact absurd hd RuntimeState.READY_not_down
      · have := hlock.busy e.1 c hcall (by simp [CallState.serving_of_entered hent])
        omega
      · exact hlock.responded hzero hcall hans hr
    obtain ⟨response, hr, hcall⟩ := hresp
    refine ⟨response, hr, ?_⟩
    rcases hcall with hcall | hcall
    · exact .inl (hkeep _ _ hcall (.inr rfl))
    · exact .inr (hkeep _ _ hcall (.inr rfl))

/-- The ordinary end of a trial: one inference, the session closed, committed
in READY. -/
theorem commit_sound_iff_ordinary : ∃ ls s l s' summary,
    RuntimeRun defaultConfig constNumerics ls s ∧ Step defaultConfig constNumerics s l s' ∧
      l.commits = some summary ∧ (entries ls).length = 1 ∧ s'.rt.state = .READY ∧
      ∀ e ∈ entries ls, e.2.trial_id = summary.trial_id → s'.Responded e := by
  obtain ⟨ls, s, l, s', hrun, hstep, hp⟩ := Sys.exists_step defaultConfig constNumerics
    (fun _ => none)
    (warmUp sampleId sampleToken ++ inferMoves 3 0 ++
      [.call 4 (.close_session sampleId), .step 4 .go, .call 5 .end_trial])
    (.step 5 (.io Io.clean))
    (fun ls s l _ => l.commits.isSome && decide (s.rt.state = .READY ∧ s.rt.in_flight = 0 ∧
      (entries ls).length = 1)) (by decide +kernel)
  rw [Bool.and_eq_true, decide_eq_true_eq, Option.isSome_iff_exists] at hp
  obtain ⟨⟨summary, hc⟩, hst, hin, hlen⟩ := hp
  obtain ⟨hready, -, hall⟩ := (commit_sound_iff hrun hstep hc).mpr ⟨hst, hin⟩
  exact ⟨ls, s, l, s', summary, hrun, hstep, hc, hlen, hready, hall⟩

/-- **A failed trial is committed**: the policy raises, the runtime is FAILED,
and `end_trial` commits the trial all the same. -/
theorem commit_after_policy_failure : ∃ ls s l s' summary,
    RuntimeRun defaultConfig constNumerics ls s ∧ Step defaultConfig constNumerics s l s' ∧
      l.commits = some summary ∧ s'.rt.state = .FAILED ∧
      ∃ e ∈ entries ls, e.2.trial_id = summary.trial_id ∧ ¬ s'.Responded e := by
  obtain ⟨ls, s, l, s', hrun, hstep, hp⟩ := Sys.exists_step defaultConfig constNumerics
    (fun _ => none)
    (warmUp sampleId sampleToken ++ failingMoves 3 0 ++ [.call 4 .end_trial])
    (.step 4 (.io Io.clean))
    (fun ls _ l s' => decide (s'.rt.state = .FAILED) && s'.raised 3 &&
      decide (l.commits.map (·.trial_id) = some (py "run_0_fold")) &&
      decide ((entries ls).map (fun e => (e.1, e.2.trial_id)) = [(3, py "run_0_fold")]))
    (by decide +kernel)
  simp only [Bool.and_eq_true, decide_eq_true_eq] at hp
  obtain ⟨⟨⟨hfailed, hraised⟩, hcommit⟩, hentries⟩ := hp
  obtain ⟨summary, hc, htrial⟩ := Option.map_eq_some_iff.mp hcommit
  obtain ⟨e, hlist, he⟩ := List.map_eq_singleton_iff.mp hentries
  obtain ⟨hid, het⟩ := Prod.mk.inj he
  refine ⟨ls, s, l, s', summary, hrun, hstep, hc, hfailed, e, by simp [hlist], ?_, ?_⟩
  · rw [het, htrial]
  · rintro ⟨response, -, hcall⟩
    rw [hid] at hcall
    rcases hcall with hcall | hcall <;> simp [Sys.raised, hcall] at hraised

/-! ## §3. Trials that are over. -/

/-- A trial that is not active, in a directory that exists, is over: it can
not begin again. -/
structure Over (s : Sys) (trial_id : PyStr) : Prop where
  inactive : s.rt.trial_id ≠ some trial_id
  directory : (s.rt.audit.dirs trial_id).isSome = true

/-- One step leaves it over and does not commit it. -/
theorem Over.step {cfg : RuntimeConfig} {nx : Numerics} {s s' : Sys} {l : Label}
    {trial_id : PyStr} (h : Over s trial_id) (hwf : s.rt.WF) (hs : Step cfg nx s l s') :
    Over s' trial_id ∧ ∀ summary, l.commits = some summary → summary.trial_id ≠ trial_id := by
  refine ⟨⟨?_, Step.dirs hs _ h.directory⟩, ?_⟩
  · rcases step_cases hs with ⟨id, op, -, -, rfl⟩ | ⟨id, pc, ch, rt', next, -, -, ha, rfl⟩
    · exact h.inactive
    · have heff := ha.effect
      show rt'.trial_id ≠ some trial_id
      cases heff with
      | frame hf =>
          rcases hf.trial with ht | ht
          · rw [ht]
            exact h.inactive
          · simp [ht]
      | @began t seed st audit hlive hnone hdir =>
          -- a trial begins only in a new directory
          intro ht
          have ht : t = trial_id := by simpa using ht
          subst ht
          rw [h.directory] at hdir
          cases hdir
      | opened | acquire | release | admitted | entered | refused | finished | left =>
          exact h.inactive
  · intro summary hc heq
    obtain ⟨a, audit, -, hact, rfl, -⟩ := hs.commits hc
    apply h.inactive
    rw [(hwf.trial a hact).trial_id, ← heq]
    rfl

/-- **A trial that is over is never committed.** -/
theorem Over.never_commits {cfg : RuntimeConfig} {nx : Numerics} {ls ls' : List Label}
    {s s' : Sys} {trial_id : PyStr} (h : Over s trial_id) (hrun : RuntimeRun cfg nx ls s)
    (hp : TransitionSystem.Path (runtimeSystem cfg nx) s ls' s') :
    Over s' trial_id ∧ ∀ l ∈ ls', ∀ summary, l.commits = some summary →
      summary.trial_id ≠ trial_id := by
  induction hp with
  | nil => exact ⟨h, by simp⟩
  | @snoc s₁ s₂ ls₁ l hpath hst ih =>
      obtain ⟨hover, hall⟩ := ih
      have hreach : RuntimeRun cfg nx (ls ++ ls₁) s₁ := TransitionSystem.Run.extend hrun hpath
      obtain ⟨hover', hl⟩ := hover.step (RuntimeRun.inv hreach).wf hst
      refine ⟨hover', ?_⟩
      intro l' hl' summary hc
      rw [List.mem_append, List.mem_singleton] at hl'
      rcases hl' with hl' | rfl
      · exact hall l' hl' summary hc
      · exact hl summary hc

/-- Finitely many calls have been made. -/
theorem RuntimeRun.fresh {cfg : RuntimeConfig} {nx : Numerics} {ls : List Label} {s : Sys}
    (h : RuntimeRun cfg nx ls s) : ∃ n, ∀ id, n ≤ id → s.calls id = none := by
  refine TransitionSystem.Run.invariant_state (fun s => ∃ n, ∀ id, n ≤ id → s.calls id = none)
    ?_ ?_ h
  · rintro s ⟨dirs, rfl⟩
    exact ⟨0, fun _ _ => rfl⟩
  · rintro s l s' ⟨n, hn⟩ hs
    have hset : ∀ rt id c, ∃ n, ∀ j, n ≤ j → (s.setCall rt id c).calls j = none := by
      intro rt id c
      refine ⟨max n (id + 1), ?_⟩
      intro j hj
      rw [Sys.setCall_other _ _ _ (by omega)]
      exact hn j (by omega)
    rcases step_cases hs with ⟨id, op, -, -, rfl⟩ | ⟨id, pc, ch, rt', next, -, -, -, rfl⟩
    · exact hset _ _ _
    · exact hset _ _ _

/-- An active trial without a lease can still be committed: `end_trial` with
working files does it, whatever the state of the runtime. -/
theorem RuntimeRun.can_commit {cfg : RuntimeConfig} {nx : Numerics} {ls : List Label} {s : Sys}
    (h : RuntimeRun cfg nx ls s) {trial_id : PyStr} (ht : s.rt.trial_id = some trial_id)
    (hl : s.rt.session = none) :
    ∃ ls' s' l summary, TransitionSystem.Path (runtimeSystem cfg nx) s ls' s' ∧ l ∈ ls' ∧
      l.commits = some summary ∧ summary.trial_id = trial_id := by
  have hwf := (RuntimeRun.inv h).wf
  obtain ⟨n, hn⟩ := RuntimeRun.fresh h
  obtain ⟨a, hact, hid, hrec⟩ := hwf.recorded ht
  have hend : (s.rt.endTrial Io.clean).1 = .ok a.summary := by
    have hok := TrialAuditStore.end_clean hact hrec.encodable.1 hrec.encodable.2
    unfold PolicyRuntime.endTrial
    rw [if_neg (by simp [hwf.activeLease, hl]), if_neg (by simp [ht])]
    cases hb : s.rt.audit.end Io.clean with
    | mk r audit =>
        rw [hb] at hok
        have hok : r = .ok a.summary := hok
        subst hok
        rfl
  -- call `end_trial`, then take its one step
  have hcall : Step cfg nx s (.call n .end_trial) (s.setCall s.rt n (.running .endTrial)) :=
    Step.call (hn n (Nat.le_refl n))
  have hstep : Step cfg nx (s.setCall s.rt n (.running .endTrial))
      (.step n .endTrial (.io Io.clean) (.returned (.ok (.trial a.summary))))
      ((s.setCall s.rt n (.running .endTrial)).setCall (s.rt.endTrial Io.clean).2 n
        (.returned (.ok (.trial a.summary)))) := by
    refine Step.step (Sys.setCall_self _ _ _ _) ?_
    show some (branch (s.rt.endTrial Io.clean) (returning .trial)) = _
    simp [branch, hend, returning, Except.map]
  refine ⟨_, _, .step n .endTrial (.io Io.clean) (.returned (.ok (.trial a.summary))), a.summary,
    TransitionSystem.Path.cons hcall (TransitionSystem.Path.single hstep), by simp, ?_, ?_⟩
  · rfl
  · exact hid

/-! ## §4. Lost responses. -/

/-- When `mark_transport_ambiguous` deals with the loss of a response of a
session and trial: the lease is still stored and the manifest is written, or
the trial is not active any more and the runtime fails or has failed. -/
def AmbiguityHandled (rt : PolicyRuntime) (session_id trial_id : PyStr) (io : Io) : Prop :=
  (∃ lease, rt.session = some lease ∧ lease.session_id = session_id ∧
    (io 0 = .done ∨ ∃ e applied, io 0 = .raised e applied ∧ e.isOSError = true ∧
      rt.trial_id ≠ some trial_id)) ∨
  ((∀ lease, rt.session = some lease → lease.session_id ≠ session_id) ∧ rt.state.down ∧
    rt.trial_id ≠ some trial_id)

/-- What the section does when the lease is stored and the manifest is written. -/
theorem PolicyRuntime.WF.markAmbiguous_done {rt rt' : PolicyRuntime} (h : rt.WF)
    {lease : SessionLease} {sequence : Int} {io : Io}
    {r : Except Exn (RuntimeState × Option TrialRecord)} (hs : rt.session = some lease)
    (hio : io 0 = .done) (he : rt.markAmbiguous lease.session_id sequence io = (r, rt')) :
    rt'.state.down ∧ rt'.trial_id = none := by
  have hok := rt.audit._terminate_done .AMBIGUOUS_INFERENCE (some sequence) hio
    PolicyRuntime.ambiguityReason_encodable fun a ha => (h.trial a ha).encodable
  rcases rt.markAmbiguous_cases lease.session_id sequence io with ⟨hno, -⟩
    | ⟨l, -, -, ⟨e, rt₁, haudit, -, -⟩ | ⟨summary, out, audit, -, -, -, hc⟩⟩
  · exact absurd rfl (hno lease hs)
  · have := haudit.symm.trans hok
    cases this
  · cases he.symm.trans hc
    exact ⟨PolicyRuntime.failed_down _ _, rfl⟩

/-- What it does when the write raises: the trial goes on without a lease,
and only an `OSError` fails the runtime. -/
theorem PolicyRuntime.WF.markAmbiguous_raised {rt rt' : PolicyRuntime} (h : rt.WF)
    {lease : SessionLease} {sequence : Int} {io : Io} {e : PyError} {applied : Bool}
    {r : Except Exn (RuntimeState × Option TrialRecord)} (hs : rt.session = some lease)
    (hio : io 0 = .raised e applied)
    (he : rt.markAmbiguous lease.session_id sequence io = (r, rt')) :
    rt'.trial_id = rt.trial_id ∧ rt'.session = none ∧ (rt'.state.down ↔ e.isOSError = true) := by
  obtain ⟨a, hact, -, -⟩ := h.recorded (h.lease lease hs).trial_id
  have hready := (h.lease lease hs).ready
  have hraise := TrialAuditStore._terminate_raised .AMBIGUOUS_INFERENCE
    PolicyRuntime.ambiguityReason (some sequence) hact hio
  rcases rt.markAmbiguous_cases lease.session_id sequence io with ⟨hno, -⟩
    | ⟨l, -, -, ⟨e', rt₁, haudit, hr, hc⟩ | ⟨summary, out, audit, haudit, -, -, -⟩⟩
  · exact absurd rfl (hno lease hs)
  · cases he.symm.trans hc
    have hexn := haudit.symm.trans hraise
    unfold auditFault at hexn
    cases hr with
    | fault f audit =>
        refine ⟨rfl, rfl, fun _ => ?_, fun _ => PolicyRuntime.failed_down _ _⟩
        by_cases hos : e.isOSError = true
        · exact hos
        · rw [if_neg hos] at hexn
          cases hexn
    | error e₀ audit =>
        refine ⟨rfl, rfl, ?_, ?_⟩
        · intro hd
          have hd : rt.state.down := hd
          rw [hready] at hd
          exact absurd hd RuntimeState.READY_not_down
        · intro hos
          rw [if_pos hos] at hexn
          cases hexn
  · have := haudit.symm.trans hraise
    cases this

/-- **When a lost response is fatal.**  A call was answered for a session and
a trial, and its loss is reported.  After the report the runtime is down and
no later step commits the trial, exactly when the loss was handled. -/
theorem ambiguous_fatal_iff {cfg : RuntimeConfig} {nx : Numerics} {ls : List Label} {s s' : Sys}
    {i j : Nat} {response : InferenceResponse} {sequence : Int} {io : Io} {next : CallState}
    (h : RuntimeRun cfg nx ls s)
    (hresponse : s.calls i = some (.returned (.ok (.response response))))
    (hs : Step cfg nx s (.step j (.markAmbiguous response.session_id sequence) (.io io) next) s') :
    (s'.rt.state.down ∧ ∀ ls' s'', TransitionSystem.Path (runtimeSystem cfg nx) s' ls' s'' →
      ∀ l ∈ ls', ∀ summary, l.commits = some summary → summary.trial_id ≠ response.trial_id) ↔
    AmbiguityHandled s.rt response.session_id response.trial_id io := by
  have hwf := (RuntimeRun.inv h).wf
  have hrun' := TransitionSystem.Run.snoc h hs
  have hwf' := (RuntimeRun.inv hrun').wf
  have hdir : (s'.rt.audit.dirs response.trial_id).isSome = true :=
    Step.dirs hs _ ((RuntimeRun.answerInv h).answered i _ response hresponse rfl)
  -- commits are out of the question exactly when the trial is not active any more
  have hnever : s'.rt.trial_id ≠ some response.trial_id →
      ∀ ls' s'', TransitionSystem.Path (runtimeSystem cfg nx) s' ls' s'' →
      ∀ l ∈ ls', ∀ summary, l.commits = some summary → summary.trial_id ≠ response.trial_id := by
    intro hne ls' s'' hp
    exact (Over.never_commits ⟨hne, hdir⟩ hrun' hp).2
  have hcan : s'.rt.state.down → s'.rt.trial_id = some response.trial_id →
      ¬ ∀ ls' s'', TransitionSystem.Path (runtimeSystem cfg nx) s' ls' s'' →
      ∀ l ∈ ls', ∀ summary, l.commits = some summary → summary.trial_id ≠ response.trial_id := by
    intro hd ht hall
    obtain ⟨ls', s'', l, summary, hp, hl, hc, heq⟩ :=
      RuntimeRun.can_commit hrun' ht (hwf'.no_session_of_down hd)
    exact hall ls' s'' hp l hl summary hc heq
  -- the state after the report is the one its section leaves
  have hrt : ∃ r, s.rt.markAmbiguous response.session_id sequence io = (r, s'.rt) := by
    rcases step_cases hs with ⟨_, _, hl, -, -⟩ | ⟨_, _, _, rt', next', hl, -, ha, rfl⟩
    · cases hl
    · cases hl
      cases ha with
      | markAmbiguous he => exact ⟨_, he⟩
  obtain ⟨r, hrt⟩ := hrt
  by_cases hstored : ∃ lease, s.rt.session = some lease ∧ lease.session_id = response.session_id
  · obtain ⟨lease, hls, hid⟩ := hstored
    rw [← hid] at hrt
    cases hio : io 0 with
    | done =>
        obtain ⟨hd, ht⟩ := hwf.markAmbiguous_done hls hio hrt
        constructor
        · intro _
          exact .inl ⟨lease, hls, hid, .inl hio⟩
        · intro _
          exact ⟨hd, hnever (by simp [ht])⟩
    | raised e applied =>
        obtain ⟨ht, -, hd⟩ := hwf.markAmbiguous_raised hls hio hrt
        constructor
        · rintro ⟨hdown, hall⟩
          refine .inl ⟨lease, hls, hid, .inr ⟨e, applied, hio, hd.mp hdown, ?_⟩⟩
          intro heq
          exact hcan hdown (ht.trans heq) hall
        · rintro (⟨l, -, -, hdone | ⟨e', b, hr, hos, hne⟩⟩ | ⟨hno, -, -⟩)
          · rw [hio] at hdone
            cases hdone
          · rw [hio] at hr
            cases hr
            exact ⟨hd.mpr hos, hnever (by rw [ht]; exact hne)⟩
          · exact absurd hid (hno lease hls)
  · -- no lease of this session is stored: the report does nothing
    have hno : ∀ lease, s.rt.session = some lease → lease.session_id ≠ response.session_id :=
      fun lease hl hid => hstored ⟨lease, hl, hid⟩
    have hsame : s'.rt = s.rt := by
      rcases s.rt.markAmbiguous_cases response.session_id sequence io with ⟨-, hc⟩
        | ⟨lease, hls, hid, -⟩
      · exact (Prod.mk.inj (hrt.symm.trans hc)).2
      · exact absurd hid (hno lease hls)
    constructor
    · rintro ⟨hdown, hall⟩
      refine .inr ⟨hno, by rw [← hsame]; exact hdown, ?_⟩
      intro heq
      exact hcan hdown (by rw [hsame]; exact heq) hall
    · rintro (⟨lease, hls, hid, -⟩ | ⟨-, hd, hne⟩)
      · exact absurd hid (hno lease hls)
      · exact ⟨by rw [hsame]; exact hd, hnever (by rw [hsame]; exact hne)⟩

/-- The step with which a call reports a lost response. -/
theorem Step.report (cfg : RuntimeConfig) (nx : Numerics) {s : Sys} {j : Nat}
    {session_id : PyStr} {sequence : Int}
    (h : s.calls j = some (.running (.markAmbiguous session_id sequence))) (io : Io) :
    ∃ next s', Step cfg nx s (.step j (.markAmbiguous session_id sequence) (.io io) next) s' ∧
      s'.rt = (s.rt.markAmbiguous session_id sequence io).2 :=
  ⟨_, _, Step.step h rfl, rfl⟩

/-- The direct order: the report comes first, and is fatal. -/
theorem ambiguous_fatal_iff_direct : ∃ ls s s' i j response io next,
    RuntimeRun defaultConfig constNumerics ls s ∧
      s.calls i = some (.returned (.ok (.response response))) ∧
      Step defaultConfig constNumerics s
        (.step j (.markAmbiguous response.session_id response.sequence) (.io io) next) s' ∧
      s'.rt.state.down ∧
      ∀ ls' s'', TransitionSystem.Path (runtimeSystem defaultConfig constNumerics) s' ls' s'' →
        ∀ l ∈ ls', ∀ summary, l.commits = some summary →
          summary.trial_id ≠ response.trial_id := by
  obtain ⟨ls, s, hrun, hp⟩ := Sys.exists_run defaultConfig constNumerics (fun _ => none)
    (warmUp sampleId sampleToken ++ inferMoves 3 0 ++
      [.call 4 (.mark_transport_ambiguous sampleId 0)])
    (fun _ s => decide (s.report 4 = some (sampleId, 0)) &&
      decide ((s.response 3).map (fun r => (r.session_id, r.sequence)) = some (sampleId, 0)) &&
      decide (s.rt.session.map (·.session_id) = some sampleId)) (by decide +kernel)
  simp only [Bool.and_eq_true, decide_eq_true_eq] at hp
  obtain ⟨⟨hreport, hresponse⟩, hsession⟩ := hp
  obtain ⟨response, hr, heq⟩ := Option.map_eq_some_iff.mp hresponse
  obtain ⟨hid, hseq⟩ := Prod.mk.inj heq
  obtain ⟨lease, hlease, hlid⟩ := Option.map_eq_some_iff.mp hsession
  have hcall := Sys.calls_of_response hr
  have hpc := Sys.calls_of_report hreport
  rw [← hid, ← hseq] at hpc
  obtain ⟨next, s', hstep, -⟩ := Step.report defaultConfig constNumerics hpc Io.clean
  have hhandled : AmbiguityHandled s.rt response.session_id response.trial_id Io.clean :=
    .inl ⟨lease, hlease, hlid.trans hid.symm, .inl rfl⟩
  obtain ⟨hdown, hnever⟩ := (ambiguous_fatal_iff hrun hcall hstep).mpr hhandled
  exact ⟨ls, s, s', 3, 4, response, Io.clean, next, hrun, hcall, hstep, hdown, hnever⟩

/-- **A lost response that is not fatal**: the session is closed before the
loss is reported; the report does nothing, the runtime stays READY, and the
trial can still be committed. -/
theorem lost_response_committed : ∃ ls s s' i j response io next,
    RuntimeRun defaultConfig constNumerics ls s ∧
      s.calls i = some (.returned (.ok (.response response))) ∧
      Step defaultConfig constNumerics s
        (.step j (.markAmbiguous response.session_id response.sequence) (.io io) next) s' ∧
      ¬ s'.rt.state.down ∧
      ∃ ls' s'' l summary,
        TransitionSystem.Path (runtimeSystem defaultConfig constNumerics) s' ls' s'' ∧
        l ∈ ls' ∧ l.commits = some summary ∧ summary.trial_id = response.trial_id := by
  obtain ⟨ls, s, hrun, hp⟩ := Sys.exists_run defaultConfig constNumerics (fun _ => none)
    (warmUp sampleId sampleToken ++ inferMoves 3 0 ++
      [.call 4 (.close_session sampleId), .step 4 .go,
       .call 5 (.mark_transport_ambiguous sampleId 0)])
    (fun _ s => decide (s.report 5 = some (sampleId, 0)) &&
      decide ((s.response 3).map (fun r => (r.session_id, r.sequence)) = some (sampleId, 0)) &&
      decide ((s.response 3).map (·.trial_id) = s.rt.trial_id) &&
      decide (s.rt.session = none ∧ s.rt.state = .READY)) (by decide +kernel)
  simp only [Bool.and_eq_true, decide_eq_true_eq] at hp
  obtain ⟨⟨⟨hreport, hresponse⟩, htrial⟩, hsession, hready⟩ := hp
  obtain ⟨response, hr, heq⟩ := Option.map_eq_some_iff.mp hresponse
  obtain ⟨hid, hseq⟩ := Prod.mk.inj heq
  have hcall := Sys.calls_of_response hr
  have hpc := Sys.calls_of_report hreport
  rw [← hid, ← hseq] at hpc
  obtain ⟨next, s', hstep, hrt⟩ := Step.report defaultConfig constNumerics hpc Io.clean
  -- no lease is stored, so the section changes nothing
  have hsame : s'.rt = s.rt := by
    rw [hrt]
    unfold PolicyRuntime.markAmbiguous
    rw [hsession]
  have ht : s'.rt.trial_id = some response.trial_id := by
    rw [hsame, ← htrial, hr]
    rfl
  obtain ⟨ls', s'', l, summary, hp, hl, hc, hst⟩ :=
    RuntimeRun.can_commit (TransitionSystem.Run.snoc hrun hstep) ht (by rw [hsame]; exact hsession)
  refine ⟨ls, s, s', 3, 5, response, Io.clean, next, hrun, hcall, hstep, ?_, ls', s'', l, summary,
    hp, hl, hc, hst⟩
  rw [hsame, hready]
  exact RuntimeState.READY_not_down

end OvenRuntime
