/-
  OvenRuntime.Edge.Verdict
  ────────────────────────
  The orchestrator over the edge audit store: what a run says about itself.

  The calls on the edge audit are answered by the store, whose file operations
  may raise at any point; every other component does what it likes.  A run
  ends in COMPLETED or FAILED as it should unless it fails when it has nearly
  succeeded: the last transition assigns COMPLETED before the two audit calls
  that may still raise (`verdict_honest_iff`).
-/
import OvenRuntime.Edge.RunEvidence
import OvenRuntime.Edge.SafeStop

namespace OvenRuntime

open EffectProgram PipelineOrchestrator EdgeAuditStore

/-! ## §1. Components with an audit store. -/

/-- The call on the store behind a component call. -/
def Component.auditCall : Component → Option EdgeAuditStore.Call
  | .audit_begin run_id skills => some (.begin run_id skills)
  | .set_pipeline_state state => some (.set_pipeline_state (py state.value))
  | .start_stage index skill trial_id => some (.start_stage index skill trial_id)
  | .record_rollout row => some (.record_rollout row)
  | .complete_stage evidence gate checker server_summary =>
      some (.complete_stage ⟨evidence, gate, checker, server_summary⟩)
  | .audit_complete => some .complete
  | .audit_fail state error_code message =>
      some (.fail (py state.value) (py error_code.value) (py message))
  | _ => none

/-- What the caller uses of a returned value: the manifest of `complete`. -/
def Component.receives : (c : Component) → Returned → c.Answer → Prop
  | .audit_complete, .manifest m, answer => answer = m.toDict
  | _, _, _ => True

/-- The caller sees what the store returned or raised. -/
def Component.sees (c : Component) (r : Except Exn Returned) (out : Except Raised c.Answer) :
    Prop :=
  match r with
  | .error e => out = .error (.exn e)
  | .ok returned => ∃ answer, out = .ok answer ∧ c.receives returned answer

/-- Components of which the edge audit is a store.  An interrupt may end a
call of the store anywhere. -/
def audited : Environment Component Component.Answer Raised EdgeAuditStore :=
  fun c st out st' =>
    match c.auditCall with
    | none => st' = st
    | some call => out = .error .interrupt ∨
        ∃ io, st' = (st.step (call, io)).2 ∧ c.sees (st.step (call, io)).1 out

theorem audited_other {c : Component} {st st' : EdgeAuditStore} {out : Except Raised c.Answer}
    (hc : c.auditCall = none) (h : audited c st out st') : st' = st := by
  unfold audited at h
  rw [hc] at h
  exact h

theorem audited_call {c : Component} {st st' : EdgeAuditStore} {out : Except Raised c.Answer}
    {call : EdgeAuditStore.Call} (hc : c.auditCall = some call) (h : audited c st out st') :
    out = .error .interrupt ∨
      ∃ io, st' = (st.step (call, io)).2 ∧ c.sees (st.step (call, io)).1 out := by
  unfold audited at h
  rw [hc] at h
  exact h

theorem Component.sees_ok {c : Component} {r : Except Exn Returned} {answer : c.Answer}
    (h : c.sees r (.ok answer)) : ∃ returned, r = .ok returned ∧ c.receives returned answer := by
  cases r with
  | error e => cases h
  | ok returned =>
      obtain ⟨answer', heq, hrec⟩ := h
      cases heq
      exact ⟨returned, rfl, hrec⟩

/-! ## §2. The run is recorded. -/

/-- The store records the run. -/
def Recording (run_id : PyStr) (st : EdgeAuditStore) : Prop :=
  ∃ a, st._active = some a ∧ a.run_id = run_id ∧ (st.dirs run_id).isSome = true

/-- A call that does not end the run leaves it recorded. -/
theorem Recording.step {run_id : PyStr} {st : EdgeAuditStore} (h : Recording run_id st)
    {call : EdgeAuditStore.Call} (hends : call.ends = false) (io : Io) :
    Recording run_id (st.step (call, io)).2 := by
  obtain ⟨a, ha, rfl, hdir⟩ := h
  obtain ⟨dir, hdir⟩ := Option.isSome_iff_exists.mp hdir
  obtain ⟨dir', hw, hstep⟩ := step_advances ha hdir (call, io)
  have hstep : RunStep a dir call (st.step (call, io)).2._active dir' := hstep
  have hrun : ∃ a', (st.step (call, io)).2._active = some a' ∧ a'.run_id = a.run_id := by
    generalize (st.step (call, io)).2._active = after at hstep
    cases hstep with
    | failed | completed => cases hends
    | kept | left | opened | committed | closed => exact ⟨_, rfl, rfl⟩
  obtain ⟨a', ha', hrun⟩ := hrun
  refine ⟨a', ha', hrun, ?_⟩
  rw [hw.1]
  rfl

/-- A successful `begin` records the run. -/
theorem recording_begin {st : EdgeAuditStore} {run_id : PyStr} {skills : List PyStr} {io : Io}
    {directory : PyStr} (h : (st.begin run_id skills io).1 = .ok directory) :
    Recording run_id (st.begin run_id skills io).2 := by
  unfold EdgeAuditStore.begin at h ⊢
  split at h
  · cases h
  · rename_i hid
    rw [if_neg hid]
    cases ha : st._active with
    | some a =>
        rw [ha] at h
        cases h
    | none =>
        rw [ha] at h
        simp only at h ⊢
        split at h
        · cases h
        · rename_i hnew
          rw [if_neg hnew]
          cases hio : io 0 with
          | raised e applied =>
              rw [hio] at h
              cases h
          | done =>
              obtain ⟨dir', hw, hact⟩ := beginRun_spec (mkdir_self st run_id) skills (io 1)
              refine ⟨_, hact, rfl, ?_⟩
              show (((st.mkdir run_id).beginRun run_id skills (io 1)).2.dirs run_id).isSome = true
              rw [hw.1]
              rfl

/-- An interrupt is among the calls made. -/
def Interrupted (t : List OrchEvent) : Prop := ∃ ev ∈ t, ev.outcome = .error .interrupt

/-- The run is recorded, unless an interrupt has broken it off. -/
def Recorded (run_id : PyStr) (past : List OrchEvent) (_ : OrchestratorState)
    (st : EdgeAuditStore) : Prop :=
  Interrupted past ∨ Recording run_id st

theorem recorded_ask (run_id : PyStr) {c : Component}
    (hends : ∀ call, c.auditCall = some call → call.ends = false) :
    Preserves audited (Recorded run_id) (ask c) := by
  apply Preserves.perform
  intro past s st out st' hrec henv
  have hpast : Interrupted past → Interrupted (past ++ [⟨c, out⟩]) := by
    rintro ⟨ev, hev, hint⟩
    exact ⟨ev, List.mem_append_left _ hev, hint⟩
  rcases hrec with hint | hrec
  · exact .inl (hpast hint)
  · cases hc : c.auditCall with
    | none =>
        rw [audited_other hc henv]
        exact .inr hrec
    | some call =>
        rcases audited_call hc henv with rfl | ⟨io, rfl, -⟩
        · exact .inl ⟨_, List.mem_append_right _ (List.mem_singleton_self _), rfl⟩
        · exact .inr (hrec.step (hends call hc) io)

theorem recorded_parts (run_id : PyStr) :
    StageParts fun {α : Type} (m : Orch α) => Preserves audited (Recorded run_id) m := by
  refine .of Preserves.compositional (fun f => Preserves.update fun _ _ _ h => h) fun c hc => ?_
  refine recorded_ask run_id fun call hcall => ?_
  cases c <;> first | (cases hcall <;> rfl) | cases hc

/-! ## §3. The state of the pipeline. -/

/-- The run has not come to an end, good or bad. -/
def PipelineState.unfinished (state : PipelineState) : Prop :=
  state ∉ [PipelineState.SAFE_STOP, .FAILED, .COMPLETED]

/-- A call of the last part of the run: the last transition and the closing
of the audit. -/
def Late (c : Component) : Prop := c = .set_pipeline_state .COMPLETED ∨ c = .audit_complete

section States

variable {W : Type} {env : Environment Component Component.Answer Raised W}
  {s s' : OrchestratorState} {w w' : W} {t : List OrchEvent}

/-- A property of the state survives every call. -/
theorem states_ask (P : PipelineState → Prop) (c : Component) :
    Preserves env (fun _ s _ => P s.state) (ask c) :=
  Preserves.perform fun _ _ _ _ _ h _ => h

theorem states_control (P : PipelineState → Prop) (command : ControlCommand)
    (arguments : List Value) :
    Preserves env (fun _ s _ => P s.state) (_control command arguments) :=
  _control_part Preserves.compositional (states_ask P _)

/-- A transition goes to its target, or is refused. -/
theorem states_enter {P : PipelineState → Prop} {target : PipelineState} (h : P target) :
    Preserves env (fun _ s _ => P s.state) (_enter target) := by
  refine Preserves.bind Preserves.read fun _ => ?_
  refine Preserves.bind (Preserves.update fun _ _ _ h => h) fun _ => ?_
  exact Preserves.bind (Preserves.lift _) fun _ => Preserves.update fun _ _ _ _ => h

/-- The stages leave the run unfinished. -/
theorem unfinished_parts :
    StageParts fun {α : Type} (m : Orch α) =>
      Preserves env (fun _ s _ => s.state.unfinished) m where
  toCompositional := Preserves.compositional
  plain c _ _ := states_ask _ c
  transition _ ht := Preserves.bind (states_enter ht) fun _ => states_ask _ _
  prepare _ := states_control _ _ _
  beginTrial _ _ _ := Preserves.bind (Preserves.update fun _ _ _ h => h) fun _ =>
    states_control _ _ _
  openSession := Preserves.bind (states_control _ _ _) fun session =>
    Preserves.bind (Preserves.lift _) fun _ =>
      Preserves.bind (Preserves.update fun _ _ _ h => h) fun _ => Preserves.compositional.pure session
  closeSession := Preserves.bind Preserves.read fun _ =>
    Preserves.bind (states_control _ _ _) fun _ => Preserves.update fun _ _ _ h => h
  endTrial := Preserves.bind (states_control _ _ _) fun summary =>
    Preserves.bind (Preserves.compositional.require _ _) fun _ =>
      Preserves.bind (Preserves.update fun _ _ _ h => h) fun _ =>
        Preserves.compositional.pure summary

/-- None of the calls is one of the last part. -/
def Early (past : List OrchEvent) (_ : OrchestratorState) (_ : W) : Prop :=
  ∀ ev ∈ past, ¬ Late ev.call

theorem early_ask {c : Component} (hc : ¬ Late c) : Preserves env Early (ask c) := by
  apply Preserves.perform
  intro past s w out w' h _ ev hev
  rcases List.mem_append.mp hev with hev | hev
  · exact h ev hev
  · rw [List.mem_singleton.mp hev]
    exact hc

theorem early_parts : StageParts fun {α : Type} (m : Orch α) => Preserves env Early m where
  toCompositional := Preserves.compositional
  plain c hc hne := early_ask (by rintro (rfl | rfl); exacts [hc, hne rfl])
  transition target ht := by
    refine Preserves.bind (_enter_part Preserves.compositional
      (fun f => Preserves.update fun _ _ _ h => h) target) fun _ => early_ask ?_
    rintro (h | h)
    · cases h
      exact ht (by decide)
    · cases h
  prepare _ := _control_part Preserves.compositional (early_ask (by rintro (h | h) <;> cases h))
  beginTrial _ _ _ := Preserves.bind (Preserves.update fun _ _ _ h => h) fun _ =>
    _control_part Preserves.compositional (early_ask (by rintro (h | h) <;> cases h))
  openSession := Preserves.bind
    (_control_part Preserves.compositional (early_ask (by rintro (h | h) <;> cases h)))
    fun session => Preserves.bind (Preserves.lift _) fun _ =>
      Preserves.bind (Preserves.update fun _ _ _ h => h) fun _ => Preserves.compositional.pure session
  closeSession := Preserves.bind Preserves.read fun _ => Preserves.bind
    (_control_part Preserves.compositional (early_ask (by rintro (h | h) <;> cases h)))
    fun _ => Preserves.update fun _ _ _ h => h
  endTrial := Preserves.bind
    (_control_part Preserves.compositional (early_ask (by rintro (h | h) <;> cases h)))
    fun summary => Preserves.bind (Preserves.compositional.require _ _) fun _ =>
      Preserves.bind (Preserves.update fun _ _ _ h => h) fun _ =>
        Preserves.compositional.pure summary

end States

/-! ## §4. The safe stop. -/

section SafeStop

variable {run_id : PyStr} {s s' : OrchestratorState} {st st' : EdgeAuditStore}
  {t : List OrchEvent}

/-- The state is `q`, and the run is recorded. -/
def Cleaning (run_id : PyStr) (q : PipelineState) (_ : List OrchEvent) (s : OrchestratorState)
    (st : EdgeAuditStore) : Prop := s.state = q ∧ Recording run_id st

theorem cleaning_ask (q : PipelineState) {c : Component} (hc : c.auditCall = none) :
    Preserves audited (Cleaning run_id q) (ask c) := by
  apply Preserves.perform
  intro past s st out st' h henv
  rw [audited_other hc henv]
  exact h

theorem cleaning_cleanup {q : PipelineState} (name : String) {m : Orch Unit}
    (hm : Preserves audited (Cleaning run_id q) m) :
    Preserves audited (Cleaning run_id q) (cleanup name m) := by
  refine Preserves.attempt (Preserves.bind hm fun _ => Preserves.compositional.pure _) fun x => ?_
  cases x with
  | exn e => exact Preserves.compositional.pure _
  | interrupt => exact Preserves.compositional.raise _

theorem cleaning_control (q : PipelineState) (command : ControlCommand) (arguments : List Value) :
    Preserves audited (Cleaning run_id q) (do let _ ← _control command arguments; pure ()) :=
  Preserves.bind (_control_part Preserves.compositional (cleaning_ask q rfl)) fun _ =>
    Preserves.compositional.pure _

theorem cleaning_closeOpenSession (q : PipelineState) :
    Preserves audited (Cleaning run_id q) closeOpenSession := by
  refine Preserves.bind Preserves.read fun self => ?_
  by_cases hopen : self._active_session_id.isNotNone = true
  · rw [if_pos hopen]
    refine Preserves.bind (cleaning_cleanup _ (cleaning_control q _ _)) fun failures => ?_
    exact Preserves.bind (Preserves.update fun _ _ _ h => h) fun _ => Preserves.compositional.pure _
  · rw [if_neg hopen]
    exact Preserves.compositional.pure _

theorem cleaning_abortTrial (q : PipelineState) (code : ErrorCode) :
    Preserves audited (Cleaning run_id q) (abortTrial code) := by
  refine Preserves.bind Preserves.read fun self => ?_
  by_cases hstarted : self._trial_started = true
  · rw [if_pos hstarted]
    refine Preserves.bind (cleaning_cleanup _ (cleaning_control q _ _)) fun failures => ?_
    exact Preserves.bind (Preserves.update fun _ _ _ h => h) fun _ => Preserves.compositional.pure _
  · rw [if_neg hstarted]
    exact Preserves.compositional.pure _

/-- The closing call: `audit.fail`, from a store that records the run. -/
def Closes (run_id : PyStr) (state : PipelineState) (t : List OrchEvent) (st' : EdgeAuditStore) :
    Prop :=
  ∃ before code message out st, t = before ++ [⟨.audit_fail state code message, out⟩] ∧
    Recording run_id st ∧ audited (.audit_fail state code message) st out st'

theorem Closes.append {state : PipelineState} (h : Closes run_id state t st')
    (t₀ : List OrchEvent) : Closes run_id state (t₀ ++ t) st' := by
  obtain ⟨before, code, message, out, st, rfl, hrest⟩ := h
  exact ⟨t₀ ++ before, code, message, out, st, by simp, hrest⟩

/-- The failure record closes the run, whether its write raises or not. -/
theorem audit_fail_ok {state : PipelineState} {code : ErrorCode} {message : String} {u : Unit}
    (h : Runs audited (Program.attempt (ask (.audit_fail state code message)) fun
      | .exn _ => pure ()
      | .interrupt => Program.raise .interrupt) s st t (.ok u) s' st')
    (hrec : Recording run_id st) : s' = s ∧ Closes run_id state t st' := by
  rcases runs_attempt.mp h with ⟨a, hask, -⟩ | ⟨x, s₁, st₁, t₁, t₂, rfl, hask, hhandler⟩
  · obtain ⟨rfl, rfl, henv⟩ := ask_ok hask
    exact ⟨rfl, [], _, _, _, _, rfl, hrec, henv⟩
  · obtain ⟨rfl, rfl, henv⟩ := runs_perform.mp hask
    cases x with
    | interrupt => cases (runs_raise.mp hhandler).2.1
    | exn e =>
        obtain ⟨rfl, -, rfl, rfl⟩ := runs_pure.mp hhandler
        exact ⟨rfl, [], _, _, _, _, rfl, hrec, henv⟩

/-- The record of the failure closes the run in the state it ends in. -/
theorem recordFailure_ok {code : ErrorCode} {message : String} {failures : List String} {u : Unit}
    (h : Runs audited (recordFailure code message failures) s st t (.ok u) s' st')
    (hrec : Recording run_id st) :
    s'.state = (if s.state = .SAFE_STOP then .FAILED else s.state) ∧
      Closes run_id s'.state t st' := by
  unfold recordFailure at h
  have h := runs_read_bind.mp h
  by_cases hstop : s.state = .SAFE_STOP
  · rw [if_pos hstop] at h ⊢
    obtain ⟨_, s₁, st₁, t₁, t₂, rfl, henter, hrest⟩ := runs_bind_ok h
    obtain ⟨-, rfl, rfl, rfl⟩ := _enter_ok henter
    obtain ⟨rfl, hcloses⟩ := audit_fail_ok (runs_read_bind.mp hrest) hrec
    exact ⟨rfl, hcloses⟩
  · rw [if_neg hstop] at h ⊢
    obtain ⟨rfl, hcloses⟩ := audit_fail_ok (runs_read_bind.mp h) hrec
    exact ⟨rfl, hcloses⟩

/-- **A safe stop** ends in FAILED, unless the run counts as completed. -/
theorem _safe_stop_ok {code : ErrorCode} {message : String} {u : Unit}
    (h : Runs audited (_safe_stop code message) s st t (.ok u) s' st')
    (hrec : Recording run_id st) (hs : s.state.unfinished ∨ s.state = .COMPLETED) :
    s'.state = (if s.state = .COMPLETED then .COMPLETED else .FAILED) ∧
      Closes run_id s'.state t st' := by
  obtain ⟨_, s₁, st₁, t₁, t₂, rfl, henter, h₁⟩ := runs_bind_ok h
  obtain ⟨_, s₂, st₂, t₃, t₄, rfl, hstop, h₂⟩ := runs_bind_ok h₁
  obtain ⟨_, s₃, st₃, t₅, t₆, rfl, hclose, h₃⟩ := runs_bind_ok h₂
  obtain ⟨_, s₄, st₄, t₇, t₈, rfl, habort, hrecord⟩ := runs_bind_ok h₃
  have hentered : s₁.state = (if s.state = .COMPLETED then .COMPLETED else .SAFE_STOP) ∧
      st₁ = st := by
    have henter := runs_read_bind.mp henter
    rcases hs with hs | hs
    · rw [if_neg hs] at henter
      obtain ⟨-, -, rfl, rfl⟩ := _enter_ok henter
      rw [if_neg (fun hc => hs (by rw [hc]; decide))]
      exact ⟨rfl, rfl⟩
    · rw [if_pos (by rw [hs]; decide)] at henter
      obtain ⟨-, -, rfl, rfl⟩ := runs_pure.mp henter
      rw [if_pos hs]
      exact ⟨hs, rfl⟩
  obtain ⟨hq, rfl⟩ := hentered
  -- the calls in between leave the state and the store alone
  have hc₂ : Cleaning run_id s₁.state t₃ s₂ st₂ := cleaning_cleanup "action_stop"
    (cleaning_ask s₁.state rfl) [] _ _ _ _ _ _ ⟨rfl, hrec⟩ hstop
  have hc₃ : Cleaning run_id s₁.state t₅ s₃ st₃ :=
    cleaning_closeOpenSession s₁.state [] _ _ _ _ _ _ hc₂ hclose
  have hc₄ : Cleaning run_id s₁.state t₇ s₄ st₄ :=
    cleaning_abortTrial s₁.state code [] _ _ _ _ _ _ hc₃ habort
  obtain ⟨hstate, hcloses⟩ := recordFailure_ok hrecord hc₄.2
  refine ⟨?_, (((hcloses.append _).append _).append _).append _⟩
  rw [hstate, hc₄.1, hq]
  by_cases hcompleted : s.state = .COMPLETED
  · rw [if_pos hcompleted, if_pos hcompleted]
    rfl
  · rw [if_neg hcompleted, if_neg hcompleted]
    rfl

end SafeStop

/-! ## §5. The end of the main path. -/

section Finish

variable {run_id : PyStr} {s s' : OrchestratorState} {st st' : EdgeAuditStore}
  {t : List OrchEvent}

/-- The manifest of the run on disk. -/
def manifestOf (run_id : PyStr) (st : EdgeAuditStore) : Option RunManifest :=
  (st.dirs run_id).bind RunDir.run_manifest

/-- The dictionary is the COMPLETED manifest, and it is on disk. -/
def CompletedManifest (run_id : PyStr) (d : Dict) (st : EdgeAuditStore) : Prop :=
  ∃ m : RunManifest, d = m.toDict ∧ manifestOf run_id st = some m ∧ m.status = .COMPLETED ∧
    m.pipeline_state = py "COMPLETED"

/-- The closing of the audit returns the COMPLETED manifest, or leaves the run
recorded. -/
theorem audit_complete_runs {out : Except Raised Dict} (hrec : Recording run_id st)
    (h : audited .audit_complete st out st') :
    out = .error .interrupt ∨ ((∃ e, out = .error (.exn e)) ∧ Recording run_id st') ∨
      ∃ d, out = .ok d ∧ CompletedManifest run_id d st' := by
  rcases audited_call rfl h with hint | ⟨io, rfl, hsees⟩
  · exact .inl hint
  right
  obtain ⟨a, ha, rfl, hdir⟩ := hrec
  obtain ⟨dir, hdir⟩ := Option.isSome_iff_exists.mp hdir
  obtain ⟨r, st₁, dir', hr, hw, -, herr, hok⟩ := complete_spec ha hdir io
  have hstep : st.step (.complete, io) = (r.map Returned.manifest, st₁) := by
    show outcome _ (st.complete io) = _
    rw [hr]
    rfl
  rw [hstep] at hsees ⊢
  cases r with
  | error e =>
      refine .inl ⟨⟨e, hsees⟩, a, herr e rfl, rfl, ?_⟩
      show (st₁.dirs a.run_id).isSome = true
      rw [hw.1]
      rfl
  | ok m =>
      obtain ⟨d, hout, hd⟩ := hsees
      obtain ⟨-, hmanifest, hstatus, hstate, -⟩ := hok m rfl
      refine .inr ⟨d, hout, m, hd, ?_, hstatus, hstate⟩
      show (st₁.dirs a.run_id).bind RunDir.run_manifest = some m
      rw [hw.1]
      exact hmanifest

/-- How the last part of the main path ends: before the last transition, in
one of the two late calls, or with the manifest. -/
theorem finish_runs {r : Except Raised Dict} (hs : s.state.unfinished)
    (hrec : Recording run_id st) (h : Runs audited finish s st t r s' st') :
    (∃ x, r = .error x ∧ t = [] ∧ s'.state.unfinished ∧ st' = st) ∨
    (∃ x before ev, r = .error x ∧ s'.state = .COMPLETED ∧ t = before ++ [ev] ∧ Late ev.call ∧
      ev.outcome = .error x ∧ (∀ ev ∈ before, ∃ a, ev.outcome = .ok a) ∧
      (x ≠ .interrupt → Recording run_id st')) ∨
    (∃ d, r = .ok d ∧ s'.state = .COMPLETED ∧ (∀ ev ∈ t, ∃ a, ev.outcome = .ok a) ∧
      CompletedManifest run_id d st') := by
  rcases runs_bind.mp h with ⟨x, htrans, rfl⟩ | ⟨u, s₁, st₁, t₁, t₂, rfl, htrans, hask⟩
  · rcases runs_bind.mp htrans with ⟨y, henter, hxy⟩ | ⟨_, s₁, st₁, t₁, t₂, rfl, henter, hset⟩
    · -- the transition is refused
      cases hxy
      by_cases hlegal : PipelineState.COMPLETED ∈ PIPELINE_TRANSITIONS s.state
      · cases (_enter_legal hlegal henter).2.1
      · left
        have hrun : Runs audited (raising (ensure_pipeline_transition s.state .COMPLETED) >>=
            fun _ => Program.update fun s : OrchestratorState => { s with state := .COMPLETED })
            { s with attempted := s.attempted ++ [(s.state, .COMPLETED)] } st t (.error x) s' st' :=
          henter
        rcases runs_bind.mp hrun with ⟨z, hens, -⟩ | ⟨_, s₂, st₂, t₃, t₄, rfl, -, hupdate⟩
        · obtain ⟨rfl, -, rfl, rfl⟩ := runs_lift.mp hens
          exact ⟨x, rfl, rfl, hs, rfl⟩
        · cases (runs_update.mp hupdate).2.1
    · obtain ⟨-, rfl, rfl, rfl⟩ := _enter_ok henter
      obtain ⟨rfl, rfl, henv⟩ := runs_perform.mp hset
      refine .inr (.inl ⟨x, [], _, rfl, rfl, rfl, .inl rfl, rfl, by simp, fun hx => ?_⟩)
      rcases audited_call rfl henv with hint | ⟨io, rfl, -⟩
      · cases hint
        exact absurd rfl hx
      · exact hrec.step rfl io
  · obtain ⟨_, s₂, st₂, t₃, t₄, rfl, henter, hset⟩ := runs_bind_ok htrans
    obtain ⟨-, rfl, rfl, rfl⟩ := _enter_ok henter
    obtain ⟨rfl, rfl, henv⟩ := ask_ok hset
    have hrec₁ : Recording run_id st₁ := by
      rcases audited_call rfl henv with hint | ⟨io, rfl, -⟩
      · cases hint
      · exact hrec.step rfl io
    obtain ⟨rfl, rfl, henv'⟩ := runs_perform.mp hask
    have hset_ok : ∀ ev ∈ ([⟨.set_pipeline_state .COMPLETED, .ok u⟩] : List OrchEvent),
        ∃ a, ev.outcome = .ok a := by
      intro ev hev
      rw [List.mem_singleton.mp hev]
      exact ⟨u, rfl⟩
    rcases audit_complete_runs hrec₁ henv' with rfl | ⟨⟨e, rfl⟩, hrec'⟩ | ⟨d, rfl, hd⟩
    · exact .inr (.inl ⟨_, _, _, rfl, rfl, rfl, .inr rfl, rfl, hset_ok, fun hx => absurd rfl hx⟩)
    · exact .inr (.inl ⟨_, _, _, rfl, rfl, rfl, .inr rfl, rfl, hset_ok, fun _ => hrec'⟩)
    · refine .inr (.inr ⟨d, rfl, rfl, ?_, hd⟩)
      intro ev hev
      rcases List.mem_append.mp hev with hev | hev
      · exact hset_ok ev hev
      · rw [List.mem_singleton.mp hev]
        exact ⟨d, rfl⟩

end Finish

/-! ## §6. The verdict. -/

section Verdict

variable {run_id : PyStr} {s s' : OrchestratorState} {st st' : EdgeAuditStore}
  {t : List OrchEvent}

/-- The part of the main path before the last transition. -/
theorem approach_runs {o : PipelineOrchestrator} {r : Except Raised Unit}
    (hs : s.state.unfinished) (hrec : Recording run_id st)
    (h : Runs audited o.approach s st t r s' st') :
    s'.state.unfinished ∧ (∀ ev ∈ t, ¬ Late ev.call) ∧ (Interrupted t ∨ Recording run_id st') ∧
      ∀ ev ∈ t, ∀ x, ev.outcome = .error x → r = .error x := by
  refine ⟨approach_part unfinished_parts o [] _ _ _ _ _ _ hs h,
    approach_part early_parts o [] _ _ _ _ _ _ (by simp [Early]) h,
    approach_part (recorded_parts run_id) o [] _ _ _ _ _ _ (.inr hrec) h, ?_⟩
  intro ev hev x hx
  obtain ⟨before, after, hsplit⟩ := List.append_of_mem hev
  exact (approach_part (straight_parts audited).stages o _ _ _ _ _ _ h before ev after x hsplit
    hx).2

/-- The calls of a clean-up are not late ones. -/
theorem cleanupPlan_early {code : ErrorCode} {session : Value} {started : Bool}
    {p : Component → Prop} (hp : p ∈ cleanupPlan code session started) {c : Component} (hc : p c) :
    ¬ Late c := by
  have hcall : (∃ reason, c = .stop reason) ∨ (∃ command arguments, c = .control command arguments) ∨
      ∃ state message, c = .audit_fail state code message := by
    unfold cleanupPlan at hp
    simp only [List.mem_append, List.mem_singleton] at hp
    rcases hp with ((rfl | hp) | hp) | rfl
    · exact .inl ⟨_, hc⟩
    · split at hp
      · rw [List.mem_singleton.mp hp] at hc
        exact .inr (.inl ⟨_, _, hc⟩)
      · cases hp
    · split at hp
      · rw [List.mem_singleton.mp hp] at hc
        exact .inr (.inl ⟨_, _, hc⟩)
      · cases hp
    · exact .inr (.inr hc)
  rintro (rfl | rfl)
  · rcases hcall with ⟨_, h⟩ | ⟨_, _, h⟩ | ⟨_, _, h⟩ <;> cases h
  · rcases hcall with ⟨_, h⟩ | ⟨_, _, h⟩ | ⟨_, _, h⟩ <;> cases h

theorem onFailure_early {x : Raised} {r : Except Raised Dict}
    (h : Runs audited (onFailure x) s st t r s' st') : ∀ ev ∈ t, ¬ Late ev.call := by
  intro ev hev
  have hplanned : ∃ p ∈ cleanupPlan (reported x).1 s._active_session_id s._trial_started,
      p ev.call := by
    rcases onFailure_runs h with ⟨hswept, -⟩ | ⟨hcut, -⟩
    · exact hswept.planned hev
    · exact hcut.planned hev
  obtain ⟨p, hp, hc⟩ := hplanned
  exact cleanupPlan_early hp hc

/-- The handlers after an `Exception`: they close the run, or are interrupted. -/
theorem onFailure_closes {e : Exn} {r : Except Raised Dict}
    (h : Runs audited (onFailure (.exn e)) s st t r s' st') (hrec : Recording run_id st)
    (hs : s.state.unfinished ∨ s.state = .COMPLETED) :
    (r = .error .interrupt ∧ Interrupted t) ∨
    ((∃ e', r = .error (.exn e')) ∧ ¬ Interrupted t ∧
      s'.state = (if s.state = .COMPLETED then .COMPLETED else .FAILED) ∧
      Closes run_id s'.state t st') := by
  rcases runs_bind.mp h with ⟨y, hstop, rfl⟩ | ⟨u, s₁, st₁, t₁, t₂, rfl, hstop, hraise⟩
  · rcases _safe_stop_sweeps _ _ _ _ _ _ _ hstop with ⟨-, ⟨u, hu⟩, -⟩ | ⟨z, hcut, hz⟩
    · cases hu
    · cases hz
      obtain ⟨_, _, _, before, last, -, rfl, -, -, hlast, rfl⟩ := hcut
      exact .inl ⟨rfl, last, by simp, hlast⟩
  · obtain ⟨rfl, rfl, rfl, rfl⟩ := runs_raise.mp hraise
    rw [List.append_nil]
    rcases _safe_stop_sweeps _ _ _ _ _ _ _ hstop with ⟨hswept, -⟩ | ⟨z, -, hz⟩
    · refine .inr ⟨?_, ?_, _safe_stop_ok hstop hrec hs⟩
      · cases e <;> exact ⟨_, rfl⟩
      · rintro ⟨ev, hev, hx⟩
        exact hswept.2 ev hev _ hx rfl
    · cases hz

/-- The manifest is a FAILED one and says so. -/
def FailedManifest (m : RunManifest) : Prop :=
  m.status = .FAILED ∧ m.pipeline_state = py "FAILED"

/-- The closing call of the run is `audit.fail`, and the manifest it writes,
if its write takes effect, is a FAILED one. -/
def ClosedFailed (run_id : PyStr) (t : List OrchEvent) (st' : EdgeAuditStore) : Prop :=
  ∃ before code message out st, t = before ++ [⟨.audit_fail .FAILED code message, out⟩] ∧
    audited (.audit_fail .FAILED code message) st out st' ∧
    ((manifestOf run_id st' = manifestOf run_id st ∧ ∃ e, out = .error (.exn e)) ∨
      ∃ m, manifestOf run_id st' = some m ∧ FailedManifest m)

theorem ClosedFailed.append (h : ClosedFailed run_id t st') (t₀ : List OrchEvent) :
    ClosedFailed run_id (t₀ ++ t) st' := by
  obtain ⟨before, code, message, out, st, rfl, hrest⟩ := h
  exact ⟨t₀ ++ before, code, message, out, st, by simp, hrest⟩

/-- **The pipeline's own verdict is honest.** -/
structure HonestVerdict (run_id : PyStr) (t : List OrchEvent) (r : Except Raised Dict)
    (s' : OrchestratorState) (st' : EdgeAuditStore) : Prop where
  returned : ∀ d, r = .ok d → s'.state = .COMPLETED ∧ CompletedManifest run_id d st'
  raised : ∀ e, r = .error (.exn e) → s'.state = .FAILED ∧ ClosedFailed run_id t st'

/-- A clean-up that ends in FAILED writes a FAILED manifest. -/
theorem Closes.failed (h : Closes run_id .FAILED t st') (hint : ¬ Interrupted t) :
    ClosedFailed run_id t st' := by
  obtain ⟨before, code, message, out, st, rfl, ⟨a, ha, rfl, hdir⟩, henv⟩ := h
  refine ⟨before, code, message, out, st, rfl, henv, ?_⟩
  rcases audited_call rfl henv with rfl | ⟨io, rfl, hsees⟩
  · exact absurd ⟨_, List.mem_append_right _ (List.mem_singleton_self _), rfl⟩ hint
  obtain ⟨dir, hdir⟩ := Option.isSome_iff_exists.mp hdir
  obtain ⟨r, st₁, dir', hr, hw, -, hwrote, hok⟩ :=
    fail_spec ha hdir (py PipelineState.FAILED.value) (py code.value) (py message) io
  have hstep : st.step (.fail (py PipelineState.FAILED.value) (py code.value) (py message), io)
      = (r.map Returned.manifest, st₁) := by
    show outcome _ (st.fail _ _ _ io) = _
    rw [hr]
    rfl
  rw [hstep] at hsees ⊢
  have hnew : manifestOf a.run_id st₁ = dir'.run_manifest := by
    unfold manifestOf
    rw [hw.1]
    rfl
  have hold : manifestOf a.run_id st = dir.run_manifest := by
    unfold manifestOf
    rw [hdir]
    rfl
  cases r with
  | error e =>
      rw [hnew, hold]
      rcases hwrote with hsame | ⟨m, hm, hstatus, hstate⟩
      · exact .inl ⟨hsame, e, hsees⟩
      · exact .inr ⟨m, hm, hstatus, hstate⟩
  | ok m =>
      obtain ⟨-, hm, hstatus, hstate⟩ := hok m rfl
      exact .inr ⟨m, hnew.trans hm, hstatus, hstate⟩

/-- A late call raised an `Exception`. -/
def FailsLate (t : List OrchEvent) : Prop :=
  ∃ ev ∈ t, Late ev.call ∧ ∃ e, ev.outcome = .error (.exn e)

theorem not_failsLate_of_early (h : ∀ ev ∈ t, ¬ Late ev.call) : ¬ FailsLate t := by
  rintro ⟨ev, hev, hlate, -⟩
  exact h ev hev hlate

/-- A run that raises an interrupt says nothing about itself. -/
theorem HonestVerdict.of_interrupt {r : Except Raised Dict} (h : r = .error .interrupt) :
    HonestVerdict run_id t r s' st' := by
  subst h
  exact ⟨fun d hd => (by cases hd), fun e he => (by cases he)⟩

theorem interrupted_append {t₁ t₂ : List OrchEvent} :
    Interrupted (t₁ ++ t₂) ↔ Interrupted t₁ ∨ Interrupted t₂ := by
  constructor
  · rintro ⟨ev, hev, hint⟩
    rcases List.mem_append.mp hev with hev | hev
    · exact .inl ⟨ev, hev, hint⟩
    · exact .inr ⟨ev, hev, hint⟩
  · rintro (⟨ev, hev, hint⟩ | ⟨ev, hev, hint⟩)
    · exact ⟨ev, List.mem_append_left _ hev, hint⟩
    · exact ⟨ev, List.mem_append_right _ hev, hint⟩

theorem failsLate_append {t₁ t₂ : List OrchEvent} :
    FailsLate (t₁ ++ t₂) ↔ FailsLate t₁ ∨ FailsLate t₂ := by
  constructor
  · rintro ⟨ev, hev, hfails⟩
    rcases List.mem_append.mp hev with hev | hev
    · exact .inl ⟨ev, hev, hfails⟩
    · exact .inr ⟨ev, hev, hfails⟩
  · rintro (⟨ev, hev, hfails⟩ | ⟨ev, hev, hfails⟩)
    · exact ⟨ev, List.mem_append_left _ hev, hfails⟩
    · exact ⟨ev, List.mem_append_right _ hev, hfails⟩

/-- No call of these raised. -/
theorem not_interrupted_of_ok (h : ∀ ev ∈ t, ∃ a, ev.outcome = .ok a) : ¬ Interrupted t := by
  rintro ⟨ev, hev, hint⟩
  obtain ⟨a, ha⟩ := h ev hev
  cases ha.symm.trans hint

theorem not_failsLate_of_ok (h : ∀ ev ∈ t, ∃ a, ev.outcome = .ok a) : ¬ FailsLate t := by
  rintro ⟨ev, hev, -, e, he⟩
  obtain ⟨a, ha⟩ := h ev hev
  cases ha.symm.trans he

/-- A main path that raises does so before the last transition, or in one of
the two late calls, in COMPLETED. -/
theorem mainPath_raises {o : PipelineOrchestrator} {x : Raised} (hs : s.state.unfinished)
    (hrec : Recording run_id st) (h : Runs audited o.mainPath s st t (.error x) s' st') :
    (s'.state.unfinished ∧ ¬ FailsLate t ∧
      (x ≠ .interrupt → Recording run_id st' ∧ ¬ Interrupted t)) ∨
    (s'.state = .COMPLETED ∧ (x = .interrupt → Interrupted t) ∧
      (x ≠ .interrupt → Recording run_id st' ∧ FailsLate t ∧ ¬ Interrupted t)) := by
  rw [mainPath_eq] at h
  rcases runs_bind.mp h with ⟨y, happroach, hy⟩ | ⟨_, s₁, st₁, t₁, t₂, rfl, happroach, hfinish⟩
  · cases hy
    obtain ⟨hs₁, hearly, hrec₁, hstraight⟩ := approach_runs hs hrec happroach
    refine .inl ⟨hs₁, not_failsLate_of_early hearly, fun hx => ?_⟩
    have hno : ¬ Interrupted t := by
      rintro ⟨ev, hev, hint⟩
      cases hstraight ev hev _ hint
      exact hx rfl
    exact ⟨hrec₁.resolve_left hno, hno⟩
  · obtain ⟨hs₁, hearly, hrec₁, hstraight⟩ := approach_runs hs hrec happroach
    have hno : ¬ Interrupted t₁ := by
      rintro ⟨ev, hev, hint⟩
      cases hstraight ev hev _ hint
    have hrec₁ := hrec₁.resolve_left hno
    rcases finish_runs hs₁ hrec₁ hfinish with ⟨y, hy, rfl, hs₂, rfl⟩
      | ⟨y, before, ev, hy, hs₂, rfl, hlate, hev, hcalls, hrec₂⟩ | ⟨d, hd, -⟩
    · rw [List.append_nil]
      exact .inl ⟨hs₂, not_failsLate_of_early hearly, fun _ => ⟨hrec₁, hno⟩⟩
    · cases hy
      refine .inr ⟨hs₂, ?_, fun hx => ⟨hrec₂ hx, ?_, ?_⟩⟩
      · rintro rfl
        exact ⟨ev, by simp, hev⟩
      · cases x with
        | interrupt => exact absurd rfl hx
        | exn e => exact ⟨ev, by simp, hlate, e, hev⟩
      · rw [interrupted_append, interrupted_append]
        rintro (hint | hint | ⟨ev', hev', hint⟩)
        · exact hno hint
        · exact not_interrupted_of_ok hcalls hint
        · rw [List.mem_singleton.mp hev', hev] at hint
          cases hint
          exact hx rfl
    · cases hd

/-- A main path that returns has ended in COMPLETED, and no call raised. -/
theorem mainPath_returns {o : PipelineOrchestrator} {d : Dict} (hs : s.state.unfinished)
    (hrec : Recording run_id st) (h : Runs audited o.mainPath s st t (.ok d) s' st') :
    s'.state = .COMPLETED ∧ CompletedManifest run_id d st' ∧ ¬ FailsLate t := by
  rw [mainPath_eq] at h
  obtain ⟨_, s₁, st₁, t₁, t₂, rfl, happroach, hfinish⟩ := runs_bind_ok h
  obtain ⟨hs₁, hearly, hrec₁, hstraight⟩ := approach_runs hs hrec happroach
  have hno : ¬ Interrupted t₁ := by
    rintro ⟨ev, hev, hint⟩
    cases hstraight ev hev _ hint
  rcases finish_runs hs₁ (hrec₁.resolve_left hno) hfinish with ⟨x, hr, -⟩ | ⟨x, _, _, hr, -⟩
    | ⟨d', hr, hstate, hcalls, hmanifest⟩
  · cases hr
  · cases hr
  · cases hr
    refine ⟨hstate, hmanifest, ?_⟩
    rw [failsLate_append]
    rintro (hfails | hfails)
    · exact not_failsLate_of_early hearly hfails
    · exact not_failsLate_of_ok hcalls hfails

/-- The verdict of the part of a run that is tried, after the calls `t₀`. -/
theorem attempt_honest_iff {o : PipelineOrchestrator} {r : Except Raised Dict}
    (t₀ : List OrchEvent) (hs : s.state.unfinished) (hrec : Recording run_id st)
    (h : Runs audited (Program.attempt o.mainPath onFailure) s st t r s' st') :
    HonestVerdict run_id (t₀ ++ t) r s' st' ↔ (FailsLate t → Interrupted t) := by
  rcases runs_attempt.mp h with ⟨d, hmain, rfl⟩ | ⟨x, s₁, st₁, t₁, t₂, rfl, hmain, hhandler⟩
  · obtain ⟨hstate, hmanifest, hno⟩ := mainPath_returns hs hrec hmain
    refine ⟨fun _ hfails => absurd hfails hno, fun _ => ?_⟩
    refine ⟨fun d' hd => ?_, fun e he => (by cases he)⟩
    cases hd
    exact ⟨hstate, hmanifest⟩
  have hearly : ¬ FailsLate t₂ := not_failsLate_of_early (onFailure_early hhandler)
  rw [failsLate_append, interrupted_append]
  cases x with
  | interrupt =>
      have hr : r = .error .interrupt := by
        rcases onFailure_runs hhandler with ⟨-, hr⟩ | ⟨-, hr⟩ <;> exact hr
      refine ⟨fun _ hfails => ?_, fun _ => .of_interrupt hr⟩
      rcases mainPath_raises hs hrec hmain with ⟨-, hno, -⟩ | ⟨-, hint, -⟩
      · rcases hfails with hfails | hfails
        · exact absurd hfails hno
        · exact absurd hfails hearly
      · exact .inl (hint rfl)
  | exn e =>
      rcases mainPath_raises hs hrec hmain with ⟨hs₁, hno, hrec₁⟩ | ⟨hs₁, -, hrec₁⟩
      · -- before the last transition: the handlers close the run as FAILED
        refine ⟨fun _ hfails => ?_, fun _ => ?_⟩
        · rcases hfails with hfails | hfails
          · exact absurd hfails hno
          · exact absurd hfails hearly
        · rcases onFailure_closes hhandler (hrec₁ nofun).1 (.inl hs₁) with ⟨hr, -⟩
            | ⟨⟨e₁, hr⟩, hint, hstate, hcloses⟩
          · exact .of_interrupt hr
          · rw [if_neg (fun hc => hs₁ (by rw [hc]; decide))] at hstate
            rw [hstate] at hcloses
            refine ⟨fun d hd => (by cases hr.symm.trans hd), fun e' _ => ⟨hstate, ?_⟩⟩
            exact ((hcloses.failed hint).append t₁).append t₀
      · obtain ⟨hrec₁, hfails, hno⟩ := hrec₁ nofun
        rcases onFailure_closes hhandler hrec₁ (.inr hs₁) with ⟨hr, hint⟩
          | ⟨⟨e', hr⟩, hint, hstate, -⟩
        · exact ⟨fun _ _ => .inr hint, fun _ => .of_interrupt hr⟩
        · -- the state stays COMPLETED
          rw [if_pos hs₁] at hstate
          constructor
          · intro hhonest
            cases hstate.symm.trans (hhonest.raised e' hr).1
          · intro himp
            rcases himp (.inl hfails) with hint' | hint'
            · exact absurd hint' hno
            · exact absurd hint' hint

end Verdict

/-- The run has passed `audit.begin`. -/
def PastBegin (t : List OrchEvent) : Prop :=
  t.any (fun ev => isAuditBegin ev && ev.outcome.isOk) = true

/-- A run that has begun its audit: what comes before, and the part that is
tried. -/
theorem begun_runs {o : PipelineOrchestrator} {st st' : EdgeAuditStore} {t : List OrchEvent}
    {r : Except Raised Dict} {s' : OrchestratorState}
    (h : Runs audited o.run {} st t r s' st') (hbegun : PastBegin t) :
    ∃ approved st₁ tried,
      t = [⟨.approve_run o.plan.run_id o.plan.skills, .ok approved⟩,
        ⟨.audit_begin o.plan.run_id o.plan.skills, .ok ()⟩] ++ tried ∧
      Recording o.plan.run_id st₁ ∧
      Runs audited (Program.attempt o.mainPath onFailure) {} st₁ tried r s' st' := by
  rcases runs_bind.mp h with ⟨x, happrove, -⟩ | ⟨approved, _, _, _, _, rfl, happrove, h₁⟩
  · obtain ⟨rfl, -⟩ := runs_perform.mp happrove
    cases hbegun
  obtain ⟨rfl, rfl, -⟩ := ask_ok happrove
  rcases runs_bind.mp h₁ with ⟨x, hcheck, -⟩ | ⟨_, _, st₀, _, _, rfl, hcheck, h₂⟩
  · obtain ⟨rfl, -⟩ := runs_require.mp hcheck
    cases hbegun
  obtain ⟨-, rfl, rfl, -⟩ := check_ok hcheck
  rcases runs_bind.mp h₂ with ⟨x, hbegin, -⟩ | ⟨u, _, st₁, _, tried, rfl, hbegin, h₃⟩
  · obtain ⟨rfl, -⟩ := runs_perform.mp hbegin
    cases hbegun
  obtain ⟨rfl, rfl, henv⟩ := ask_ok hbegin
  refine ⟨approved, st₁, tried, rfl, ?_, h₃⟩
  rcases audited_call rfl henv with hint | ⟨io, rfl, hsees⟩
  · cases hint
  obtain ⟨returned, hr, -⟩ := Component.sees_ok hsees
  obtain ⟨directory, hdirectory, -⟩ := map_ok.mp
    (show (st₀.begin o.plan.run_id o.plan.skills io).1.map Returned.directory = .ok returned
      from hr)
  exact recording_begin hdirectory

/-- **The verdict of a run is honest** unless one of the two late calls raises
an `Exception`, and no interrupt breaks off the clean-up. -/
theorem verdict_honest_iff (o : PipelineOrchestrator) (st st' : EdgeAuditStore)
    (t : List OrchEvent) (r : Except Raised Dict) (s' : OrchestratorState)
    (h : Runs audited o.run {} st t r s' st') (hbegun : PastBegin t) :
    HonestVerdict o.plan.run_id t r s' st' ↔ (FailsLate t → Interrupted t) := by
  obtain ⟨approved, st₁, tried, rfl, hrec, htried⟩ := begun_runs h hbegun
  have hs : ({} : OrchestratorState).state.unfinished :=
    show PipelineState.CREATED ∉ [PipelineState.SAFE_STOP, .FAILED, .COMPLETED] by decide
  rw [attempt_honest_iff _ hs hrec htried, failsLate_append, interrupted_append]
  have hnolate : ¬ FailsLate
      [(⟨.approve_run o.plan.run_id o.plan.skills, .ok approved⟩ : OrchEvent),
        ⟨.audit_begin o.plan.run_id o.plan.skills, .ok ()⟩] :=
    not_failsLate_of_early (by simp [Late])
  have hnoint : ¬ Interrupted
      [(⟨.approve_run o.plan.run_id o.plan.skills, .ok approved⟩ : OrchEvent),
        ⟨.audit_begin o.plan.run_id o.plan.skills, .ok ()⟩] := by simp [Interrupted]
  rw [or_iff_right hnolate, or_iff_right hnoint]

/-! ## §7. Scripted runs over the store. -/

/-- What the caller receives: the manifest of `complete`, or any answer. -/
def Component.received (c : Component) (returned : Returned) (answer : c.Answer) : c.Answer :=
  match c, returned, answer with
  | .audit_complete, .manifest m, _ => m.toDict
  | _, _, answer => answer

/-- Components that answer as they should, over a store whose file operations
have the outcomes `io`. -/
def storeAnswer (io : Component → Io) (c : Component) (st : EdgeAuditStore) :
    Except Raised c.Answer × EdgeAuditStore :=
  match c.auditCall with
  | none => ((sampleAnswer (fun _ => none) c ()).1, st)
  | some call =>
      (match (st.step (call, io c)).1 with
        | .error e => .error (.exn e)
        | .ok returned => (sampleAnswer (fun _ => none) c ()).1.map (c.received returned),
        (st.step (call, io c)).2)

theorem storeAnswer_audited (io : Component → Io) (c : Component) (st : EdgeAuditStore)
    (out : Except Raised c.Answer) (st' : EdgeAuditStore)
    (h : scripted (storeAnswer io) c st out st') : audited c st out st' := by
  have h : storeAnswer io c st = (out, st') := h
  unfold storeAnswer at h
  unfold audited
  cases hc : c.auditCall with
  | none =>
      rw [hc] at h
      cases h
      rfl
  | some call =>
      rw [hc] at h
      refine .inr ⟨io c, (congrArg Prod.snd h).symm, ?_⟩
      have hout := congrArg Prod.fst h
      obtain ⟨answer, hanswer⟩ : ∃ a, (sampleAnswer (fun _ => none) c ()).1 = .ok a := ⟨_, rfl⟩
      simp only at hout
      rw [hanswer] at hout
      cases hr : (st.step (call, io c)).1 with
      | error e =>
          rw [hr] at hout
          exact hout.symm
      | ok returned =>
          rw [hr] at hout
          refine ⟨_, hout.symm, ?_⟩
          unfold Component.received Component.receives
          split <;> trivial

/-- A store with no runs. -/
def emptyStore : EdgeAuditStore := { dirs := fun _ => none }

theorem verdict_honest_iff_clean :
    ∃ s' st', HonestVerdict sampleOrchestrator.plan.run_id
      (sampleOrchestrator.run.trace (storeAnswer fun _ => .clean) {} emptyStore)
      (sampleOrchestrator.run.outcome (storeAnswer fun _ => .clean) {} emptyStore) s' st' := by
  obtain ⟨s', st', hrun⟩ := Program.runs_outcome (storeAnswer fun _ => .clean)
    sampleOrchestrator.run {} emptyStore
  have hok : (sampleOrchestrator.run.trace (storeAnswer fun _ => .clean) {} emptyStore).all
      (fun ev => ev.outcome.isOk) = true := by decide +kernel
  refine ⟨s', st', (verdict_honest_iff sampleOrchestrator _ st' _ _ s'
    (hrun.mono (storeAnswer_audited _)) (show List.any _ _ = true by decide +kernel)).mpr ?_⟩
  intro hfails
  refine absurd hfails (not_failsLate_of_ok fun ev hev => ?_)
  exact exists_of_isOk (List.all_eq_true.mp hok ev hev)

/-- The last write of the run, of its COMPLETED manifest, raises `OSError`. -/
def lostCompletion : Component → Io
  | .audit_complete => fun _ => .raised .OSError false
  | _ => .clean

/-- The outcome is an `Exception`. -/
def raisedExn {α : Type} : Except Raised α → Bool
  | .error (.exn _) => true
  | _ => false

/-- The call closes the audit as FAILED. -/
def closesFailed (ev : OrchEvent) : Bool :=
  match ev.call with
  | .audit_fail .FAILED _ _ => true
  | _ => false

/-- The verdict is not honest in every run: when the write of `complete`
raises, the run raises too, and its closing call records COMPLETED. -/
theorem verdict_completion_lost :
    ¬ ∀ (o : PipelineOrchestrator) (st st' : EdgeAuditStore) (t : List OrchEvent)
      (r : Except Raised Dict) (s' : OrchestratorState), Runs audited o.run {} st t r s' st' →
      PastBegin t → HonestVerdict o.plan.run_id t r s' st' := by
  intro h
  obtain ⟨s', st', hrun⟩ := Program.runs_outcome (storeAnswer lostCompletion)
    sampleOrchestrator.run {} emptyStore
  have hhonest := h _ _ _ _ _ _ (hrun.mono (storeAnswer_audited _))
    (show List.any _ _ = true by decide +kernel)
  have hraised : raisedExn (sampleOrchestrator.run.outcome (storeAnswer lostCompletion) {}
      emptyStore) = true := by decide +kernel
  have hlast : ((sampleOrchestrator.run.trace (storeAnswer lostCompletion) {}
      emptyStore).getLast?.map closesFailed) = some false := by decide +kernel
  generalize sampleOrchestrator.run.outcome _ _ _ = r at hhonest hraised
  cases r with
  | ok d => cases hraised
  | error x =>
      cases x with
      | interrupt => cases hraised
      | exn e =>
          obtain ⟨before, code, message, out, st, ht, -⟩ := (hhonest.raised e rfl).2
          rw [ht, List.getLast?_append] at hlast
          cases hlast

end OvenRuntime
