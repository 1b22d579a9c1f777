/-
  OvenRuntime.Edge.SafeStop
  ─────────────────────────
  Stop first, then clean up.

  What a failure of the main path leaves to be done is a function of the
  calls made so far: the session that is still held, the trial that was
  started.  Two facts carry the result: the attributes of the orchestrator
  agree with the calls (`Agrees`, kept by every part of the main path), and a
  call that raises is the last one of the main path (`Straight`).  What comes
  after it is `_safe_stop`, which is a sweep over the cleanup plan.
-/
import OvenRuntime.Edge.StageGates

namespace OvenRuntime

open EffectProgram

/-! ## §1. What there is to clean up. -/

/-- The session held after one more call. -/
def sessionAfter (held : Value) (ev : OrchEvent) : Value :=
  match ev with
  | ⟨.control .open_session _, out⟩ =>
      match controlled out with
      | .ok session => (session.get? "session_id").getD held
      | .error _ => held
  | ⟨.control .close_session _, out⟩ =>
      match controlled out with
      | .ok _ => .none
      | .error _ => held
  | _ => held

/-- The session held after these calls. -/
def heldSession (t : List OrchEvent) : Value := t.foldl sessionAfter .none

/-- Whether a trial is started after one more call.  Asking for it is enough. -/
def trialAfter (started : Bool) (ev : OrchEvent) : Bool :=
  match ev with
  | ⟨.control .begin_trial _, _⟩ => true
  | ⟨.control .end_trial _, out⟩ =>
      match controlled out with
      | .ok summary => if PipelineOrchestrator.committed summary then false else started
      | .error _ => started
  | _ => started

/-- Whether a trial is started after these calls. -/
def trialStarted (t : List OrchEvent) : Bool := t.foldl trialAfter false

/-- The calls that a safe stop makes, in order. -/
def cleanupPlan (code : ErrorCode) (session : Value) (started : Bool) :
    List (Component → Prop) :=
  [(· = .stop (py ("safe_stop:" ++ code.value)))] ++
  (if session.isNotNone then [(· = .control .close_session [session])] else []) ++
  (if started then [(· = .control .abort [.str (py ("edge safe stop: " ++ code.value))])]
    else []) ++
  [fun c => ∃ state message, c = .audit_fail state code message]

/-- The executor stop of a safe stop. -/
def isSafeStop (ev : OrchEvent) : Bool :=
  match ev.call with
  | .stop reason => (py "safe_stop:").isPrefixOf reason
  | _ => false

/-- The edge audit began. -/
def isAuditBegin (ev : OrchEvent) : Bool :=
  match ev.call with
  | .audit_begin _ _ => true
  | _ => false

/-- The call `ev`, made after the audit began and before any safe stop,
raised the exception `e`. -/
structure FailsAt (t before : List OrchEvent) (ev : OrchEvent) (after : List OrchEvent)
    (e : Exn) : Prop where
  trace : t = before ++ ev :: after
  begun : before.any isAuditBegin = true
  main : ∀ x ∈ before ++ [ev], isSafeStop x = false
  raised : ev.outcome = .error (.exn e)

/-- After the calls `seen`, the last of which raised `e`: the plan is carried
out, whatever its calls raise, and `run` raises the failure. -/
def CleanedUp (seen after : List OrchEvent) (e : Exn) (r : Except Raised Dict) : Prop :=
  List.Forall₂ (fun p ev => p ev.call)
    (cleanupPlan (PipelineOrchestrator.reported (.exn e)).1 (heldSession seen)
      (trialStarted seen)) after ∧
    r = .error (PipelineOrchestrator.reraised (.exn e))

/-- The same, but for an interrupt in one of the cleanup calls, which ends
the cleanup and is raised instead. -/
def CleanedUpOrInterrupted (seen after : List OrchEvent) (e : Exn) (r : Except Raised Dict) :
    Prop :=
  CleanedUp seen after e r ∨
    CutShort (· = Raised.interrupt)
      (cleanupPlan (PipelineOrchestrator.reported (.exn e)).1 (heldSession seen)
        (trialStarted seen)) after .interrupt ∧ r = .error .interrupt

/-! ## §2. The safe stop. -/

namespace PipelineOrchestrator

section SafeStop

variable {W : Type} {env : Environment Component Component.Answer Raised W}
  {s s' : OrchestratorState} {w w' : W} {t : List OrchEvent}

/-- One call whose `Exception` is noted down. -/
theorem cleanup_sweeps {name : String} {c : Component} {m : Orch Unit}
    (hm : ∀ w t r s' w', Runs env m s w t r s' w' → ∃ out, t = [⟨c, out⟩] ∧ s' = s ∧
      (r = .error .interrupt ↔ out = .error .interrupt)) :
    Sweeps env (· = Raised.interrupt) [(· = c)] (cleanup name m) s (· = s) := by
  intro w t r s' w' hrun
  rcases runs_attempt.mp hrun with ⟨a, hok, rfl⟩ | ⟨x, s₁, w₁, t₁, t₂, rfl, hraise, hhandler⟩
  · -- the body returned
    obtain ⟨u, s₁, w₁, t₁, t₂, rfl, hbody, hpure⟩ := runs_bind_ok hok
    obtain ⟨rfl, -, rfl, rfl⟩ := runs_pure.mp hpure
    obtain ⟨out, rfl, hs, hiff⟩ := hm _ _ _ _ _ hbody
    refine .inl ⟨Swept.single rfl ?_, ⟨a, rfl⟩, hs⟩
    rintro x hx rfl
    cases hiff.mpr hx
  · have hbody : Runs env m s w t₁ (.error x) s₁ w₁ := by
      rcases runs_bind.mp hraise with ⟨y, hbody, hr⟩ | ⟨u, _, _, _, _, -, -, hpure⟩
      · cases hr
        exact hbody
      · cases (runs_pure.mp hpure).2.1
    obtain ⟨out, rfl, rfl, hiff⟩ := hm _ _ _ _ _ hbody
    cases x with
    | exn e =>
        obtain ⟨rfl, rfl, rfl, rfl⟩ := runs_pure.mp hhandler
        refine .inl ⟨Swept.single rfl ?_, ⟨_, rfl⟩, rfl⟩
        rintro x hx rfl
        cases hiff.mpr hx
    | interrupt =>
        obtain ⟨rfl, rfl, rfl, rfl⟩ := runs_raise.mp hhandler
        exact .inr ⟨.interrupt, CutShort.single rfl (hiff.mp rfl) rfl, rfl⟩

/-- Only an interrupt of the control client is an interrupt. -/
theorem controlled_interrupt (out : Except Raised Dict) :
    controlled out = .error .interrupt ↔ out = .error .interrupt := by
  cases out with
  | error x => exact Iff.rfl
  | ok response =>
      show (controlResult response).mapError Raised.exn = .error .interrupt ↔ _
      cases controlResult response with
      | error e => simp [Except.mapError]
      | ok result => simp [Except.mapError]

/-- A control call whose result does not matter. -/
theorem control_once (command : ControlCommand) (arguments : List Value) :
    ∀ w t r s' w', Runs env (do let _ ← _control command arguments; pure ()) s w t r s' w' →
      ∃ out, t = [⟨.control command arguments, out⟩] ∧ s' = s ∧
        (r = .error .interrupt ↔ out = .error .interrupt) := by
  intro w t r s' w' hrun
  rcases runs_bind.mp hrun with ⟨x, hcontrol, rfl⟩ | ⟨_, _, _, _, _, rfl, hcontrol, hpure⟩
  · obtain ⟨out, rfl, rfl, -, hr⟩ := runs_control.mp hcontrol
    refine ⟨out, rfl, rfl, ?_⟩
    rw [← controlled_interrupt out, ← hr, Except.error.injEq, Except.error.injEq]
  · obtain ⟨out, rfl, rfl, -, hr⟩ := runs_control.mp hcontrol
    obtain ⟨rfl, rfl, rfl, rfl⟩ := runs_pure.mp hpure
    refine ⟨out, rfl, rfl, ?_⟩
    rw [← controlled_interrupt out, ← hr]
    simp

/-- **The transition into a safe stop never raises.** -/
theorem enterSafeStop_sweeps :
    Sweeps env (· = Raised.interrupt) [] enterSafeStop s fun s' =>
      s'._active_session_id = s._active_session_id ∧ s'._trial_started = s._trial_started := by
  apply Sweeps.read
  apply Sweeps.quiet
  intro w t r s' w' hrun
  by_cases hdone : s.state ∈ [PipelineState.SAFE_STOP, .FAILED, .COMPLETED]
  · rw [if_pos hdone] at hrun
    obtain ⟨rfl, rfl, rfl, rfl⟩ := runs_pure.mp hrun
    exact ⟨rfl, ⟨(), rfl⟩, rfl, rfl⟩
  · rw [if_neg hdone] at hrun
    obtain ⟨rfl, rfl, rfl, rfl⟩ := _enter_legal (SAFE_STOP_mem_transitions hdone) hrun
    exact ⟨rfl, ⟨(), rfl⟩, rfl, rfl⟩

theorem closeOpenSession_sweeps :
    Sweeps env (· = Raised.interrupt)
      (if s._active_session_id.isNotNone then
        [(· = .control .close_session [s._active_session_id])] else []) closeOpenSession s
      fun s' => s'._trial_started = s._trial_started := by
  apply Sweeps.read
  by_cases hopen : s._active_session_id.isNotNone = true
  · rw [if_pos hopen, if_pos hopen]
    refine (cleanup_sweeps (control_once _ _)).bind_quiet ?_
    rintro failures s' rfl
    apply Sweeps.quiet
    intro w t r s' w' hrun
    have hpure := runs_update_bind.mp hrun
    obtain ⟨rfl, rfl, rfl, rfl⟩ := runs_pure.mp hpure
    exact ⟨rfl, ⟨_, rfl⟩, rfl⟩
  · rw [if_neg hopen, if_neg hopen]
    apply Sweeps.quiet
    intro w t r s' w' hrun
    obtain ⟨rfl, rfl, rfl, rfl⟩ := runs_pure.mp hrun
    exact ⟨rfl, ⟨_, rfl⟩, rfl⟩

theorem abortTrial_sweeps (code : ErrorCode) :
    Sweeps env (· = Raised.interrupt)
      (if s._trial_started then
        [(· = .control .abort [.str (py ("edge safe stop: " ++ code.value))])] else [])
      (abortTrial code) s fun _ => True := by
  apply Sweeps.read
  by_cases hstarted : s._trial_started = true
  · rw [if_pos hstarted, if_pos hstarted]
    refine (cleanup_sweeps (control_once _ _)).bind_quiet ?_
    rintro failures s' rfl
    apply Sweeps.quiet
    intro w t r s' w' hrun
    have hpure := runs_update_bind.mp hrun
    obtain ⟨rfl, rfl, rfl, rfl⟩ := runs_pure.mp hpure
    exact ⟨rfl, ⟨_, rfl⟩, trivial⟩
  · rw [if_neg hstarted, if_neg hstarted]
    apply Sweeps.quiet
    intro w t r s' w' hrun
    obtain ⟨rfl, rfl, rfl, rfl⟩ := runs_pure.mp hrun
    exact ⟨rfl, ⟨_, rfl⟩, trivial⟩

/-- The record of the failure, whose `Exception` is dropped. -/
theorem audit_fail_sweeps (state : PipelineState) (code : ErrorCode) (message : String) :
    Sweeps env (· = Raised.interrupt) [fun c => ∃ state message, c = .audit_fail state code message]
      (Program.attempt (ask (.audit_fail state code message)) fun
        | .exn _ => pure ()
        | .interrupt => Program.raise .interrupt) s fun _ => True := by
  intro w t r s' w' hrun
  rcases runs_attempt.mp hrun with ⟨u, hask, rfl⟩ | ⟨x, s₁, w₁, t₁, t₂, rfl, hask, hhandler⟩
  · obtain ⟨rfl, -⟩ := runs_perform.mp hask
    refine .inl ⟨Swept.single ⟨_, _, rfl⟩ ?_, ⟨u, rfl⟩, trivial⟩
    intro x hx
    cases hx
  · obtain ⟨rfl, -⟩ := runs_perform.mp hask
    cases x with
    | exn e =>
        obtain ⟨rfl, rfl, -⟩ := runs_pure.mp hhandler
        refine .inl ⟨Swept.single ⟨_, _, rfl⟩ ?_, ⟨(), rfl⟩, trivial⟩
        rintro x hx rfl
        cases hx
    | interrupt =>
        obtain ⟨rfl, rfl, -⟩ := runs_raise.mp hhandler
        exact .inr ⟨.interrupt, CutShort.single ⟨_, _, rfl⟩ rfl rfl, rfl⟩

/-- The last transition never raises either. -/
theorem recordFailure_sweeps (code : ErrorCode) (message : String) (failures : List String) :
    Sweeps env (· = Raised.interrupt) [fun c => ∃ state message, c = .audit_fail state code message]
      (recordFailure code message failures) s fun _ => True := by
  apply Sweeps.read
  by_cases hstop : s.state = .SAFE_STOP
  · have hlegal : PipelineState.FAILED ∈ PIPELINE_TRANSITIONS s.state := by
      rw [hstop]
      decide
    have henter : Sweeps env (· = Raised.interrupt) [] (_enter .FAILED) s fun _ => True := by
      apply Sweeps.quiet
      intro w t r s' w' hrun
      obtain ⟨rfl, rfl, -, -⟩ := _enter_legal hlegal hrun
      exact ⟨rfl, ⟨(), rfl⟩, trivial⟩
    rw [if_pos hstop]
    exact henter.bind fun _ s' _ => Sweeps.read (audit_fail_sweeps _ code _)
  · rw [if_neg hstop]
    exact Sweeps.read (audit_fail_sweeps _ code _)

/-- **A safe stop carries out the cleanup plan**, in whatever state it starts. -/
theorem _safe_stop_sweeps (code : ErrorCode) (message : String) :
    Sweeps env (· = Raised.interrupt) (cleanupPlan code s._active_session_id s._trial_started)
      (_safe_stop code message) s fun _ => True := by
  show Sweeps _ _ ([] ++ cleanupPlan _ _ _) _ _ _
  refine enterSafeStop_sweeps.bind ?_
  rintro - s₁ ⟨hsession, hstarted⟩
  unfold cleanupPlan
  rw [← hsession, ← hstarted, List.append_assoc, List.append_assoc]
  have hstop : Sweeps env (· = Raised.interrupt) [(· = .stop (py ("safe_stop:" ++ code.value)))]
      (cleanup "action_stop" (ask (.stop (py ("safe_stop:" ++ code.value))))) s₁ (· = s₁) := by
    apply cleanup_sweeps
    intro w t r s' w' hrun
    obtain ⟨rfl, rfl, -⟩ := runs_perform.mp hrun
    exact ⟨r, rfl, rfl, Iff.rfl⟩
  refine hstop.bind ?_
  rintro stop_failures s₂ rfl
  refine closeOpenSession_sweeps.bind ?_
  intro close_failures s₃ hstarted'
  rw [← hstarted']
  refine (abortTrial_sweeps code).bind ?_
  intro abort_failures s₄ _
  exact recordFailure_sweeps code message _

/-! ## §3. The attributes follow the calls. -/

/-- The attributes are what the calls made so far say. -/
def Agrees (past : List OrchEvent) (s : OrchestratorState) (_ : W) : Prop :=
  s._active_session_id = heldSession past ∧ s._trial_started = trialStarted past

theorem heldSession_snoc (past : List OrchEvent) (ev : OrchEvent) :
    heldSession (past ++ [ev]) = sessionAfter (heldSession past) ev := by
  unfold heldSession
  rw [List.foldl_append]
  rfl

theorem trialStarted_snoc (past : List OrchEvent) (ev : OrchEvent) :
    trialStarted (past ++ [ev]) = trialAfter (trialStarted past) ev := by
  unfold trialStarted
  rw [List.foldl_append]
  rfl

/-- One call, and the attributes after it. -/
theorem Agrees.snoc {past : List OrchEvent} (h : Agrees past s w) {ev : OrchEvent}
    (hsession : s'._active_session_id = sessionAfter s._active_session_id ev)
    (hstarted : s'._trial_started = trialAfter s._trial_started ev) :
    Agrees (past ++ [ev]) s' w' := by
  refine ⟨?_, ?_⟩
  · rw [heldSession_snoc, ← h.1, hsession]
  · rw [trialStarted_snoc, ← h.2, hstarted]

/-- A call that has nothing to do with sessions and trials. -/
theorem agrees_ask {c : Component}
    (h : ∀ held started out, sessionAfter held ⟨c, out⟩ = held ∧
      trialAfter started ⟨c, out⟩ = started) : Preserves env Agrees (ask c) := by
  apply Preserves.perform
  intro past s w out w' hagrees _
  obtain ⟨hsession, hstarted⟩ := h s._active_session_id s._trial_started out
  exact hagrees.snoc hsession.symm hstarted.symm

theorem agrees_plain (c : Component) (hc : c.plain) : Preserves env Agrees (ask c) := by
  apply agrees_ask
  intro held started out
  cases c <;> first | exact ⟨rfl, rfl⟩ | exact hc.elim

theorem agrees_beginTrial (o : PipelineOrchestrator) (index : Nat) (stage : StagePlan) :
    Preserves env Agrees (o.beginTrial index stage) := by
  intro past s w t r s' w' hagrees hrun
  obtain ⟨out, rfl, rfl, -⟩ := runs_control.mp (runs_update_bind.mp hrun)
  exact hagrees.snoc rfl rfl

theorem agrees_openSession : Preserves env Agrees openSession := by
  intro past s w t r s' w' hagrees hrun
  rcases runs_bind.mp hrun with ⟨x, hcontrol, rfl⟩ | ⟨session, s₁, w₁, t₁, t₂, rfl, hcontrol, h₁⟩
  · obtain ⟨out, rfl, rfl, -, hout⟩ := runs_control.mp hcontrol
    refine hagrees.snoc ?_ rfl
    show _ = match controlled out with
      | .ok session => (session.get? "session_id").getD s'._active_session_id
      | .error _ => s'._active_session_id
    rw [← hout]
  · obtain ⟨out, rfl, rfl, -, hout⟩ := runs_control.mp hcontrol
    have hafter : sessionAfter s₁._active_session_id ⟨.control .open_session [], out⟩ =
        (session.get? "session_id").getD s₁._active_session_id := by
      show (match controlled out with
        | .ok session => (session.get? "session_id").getD s₁._active_session_id
        | .error _ => s₁._active_session_id) = _
      rw [← hout]
    -- the attribute is set if the answer has the field
    rcases runs_bind.mp h₁ with ⟨x, hitem, rfl⟩ | ⟨session_id, s₂, w₂, t₃, t₄, rfl, hitem, h₂⟩
    · obtain ⟨rfl, hitem, rfl, -⟩ := runs_lift.mp hitem
      rw [List.append_nil]
      refine hagrees.snoc ?_ rfl
      rw [hafter]
      unfold Dict.getItem at hitem
      cases hget : session.get? "session_id" with
      | none => rfl
      | some v =>
          rw [hget] at hitem
          cases hitem
    · obtain ⟨hitem, rfl, rfl, rfl⟩ := raising_ok hitem
      have hpure := runs_update_bind.mp h₂
      obtain ⟨rfl, -, rfl, -⟩ := runs_pure.mp hpure
      refine hagrees.snoc ?_ rfl
      rw [hafter]
      unfold Dict.getItem at hitem
      cases hget : session.get? "session_id" with
      | none =>
          rw [hget] at hitem
          cases hitem
      | some v =>
          rw [hget] at hitem
          cases hitem
          rfl

theorem agrees_closeSession : Preserves env Agrees closeSession := by
  intro past s w t r s' w' hagrees hrun
  rcases runs_bind.mp (runs_read_bind.mp hrun) with
    ⟨x, hcontrol, rfl⟩ | ⟨closed, s₁, w₁, t₁, t₂, rfl, hcontrol, h₁⟩
  · obtain ⟨out, rfl, rfl, -, hout⟩ := runs_control.mp hcontrol
    refine hagrees.snoc ?_ rfl
    show _ = match controlled out with
      | .ok _ => Value.none
      | .error _ => s'._active_session_id
    rw [← hout]
  · obtain ⟨out, rfl, rfl, -, hout⟩ := runs_control.mp hcontrol
    obtain ⟨rfl, -, rfl, -⟩ := runs_update.mp h₁
    refine hagrees.snoc ?_ rfl
    show _ = match controlled out with
      | .ok _ => Value.none
      | .error _ => s₁._active_session_id
    rw [← hout]

theorem agrees_endTrial : Preserves env Agrees endTrial := by
  intro past s w t r s' w' hagrees hrun
  rcases runs_bind.mp hrun with ⟨x, hcontrol, rfl⟩ | ⟨summary, s₁, w₁, t₁, t₂, rfl, hcontrol, h₁⟩
  · obtain ⟨out, rfl, rfl, -, hout⟩ := runs_control.mp hcontrol
    refine hagrees.snoc rfl ?_
    show _ = match controlled out with
      | .ok summary => if committed summary then false else s'._trial_started
      | .error _ => s'._trial_started
    rw [← hout]
  · obtain ⟨out, rfl, rfl, -, hout⟩ := runs_control.mp hcontrol
    have hafter : trialAfter s₁._trial_started ⟨.control .end_trial [], out⟩ =
        if committed summary then false else s₁._trial_started := by
      show (match controlled out with
        | .ok summary => if committed summary then false else s₁._trial_started
        | .error _ => s₁._trial_started) = _
      rw [← hout]
    rcases runs_bind.mp h₁ with ⟨x, hcheck, rfl⟩ | ⟨u, s₂, w₂, t₃, t₄, rfl, hcheck, h₂⟩
    · obtain ⟨rfl, hfails, rfl, -⟩ := runs_require.mp hcheck
      rw [List.append_nil]
      refine hagrees.snoc rfl ?_
      rw [hafter]
      by_cases hc : committed summary = true
      · rw [if_pos hc] at hfails
        cases hfails
      · rw [if_neg hc]
    · obtain ⟨hc, rfl, rfl, rfl⟩ := check_ok hcheck
      have hpure := runs_update_bind.mp h₂
      obtain ⟨rfl, -, rfl, -⟩ := runs_pure.mp hpure
      refine hagrees.snoc rfl ?_
      rw [hafter, if_pos hc]

variable (env) in
theorem agrees_parts : Parts fun {α : Type} (m : Orch α) => Preserves env Agrees m where
  toCompositional := Preserves.compositional
  plain := agrees_plain
  transition target _ := by
    refine Preserves.bind (Preserves.bind Preserves.read fun self => ?_)
      fun _ => agrees_ask fun _ _ _ => ⟨rfl, rfl⟩
    refine Preserves.bind (Preserves.update fun _ _ _ h => h) fun _ => ?_
    exact Preserves.bind (Preserves.lift _) fun _ => Preserves.update fun _ _ _ h => h
  prepare _ := _control_part Preserves.compositional (agrees_ask fun _ _ _ => ⟨rfl, rfl⟩)
  beginTrial := agrees_beginTrial
  openSession := agrees_openSession
  closeSession := agrees_closeSession
  endTrial := agrees_endTrial

variable (env) in
theorem straight_parts : Parts fun {α : Type} (m : Orch α) => Straight env m where
  toCompositional := Straight.compositional
  plain c _ := Straight.perform c
  transition target _ :=
    Straight.bind (_enter_part Straight.compositional Straight.update target)
      fun _ => Straight.perform _
  prepare _ := _control_part Straight.compositional (Straight.perform _)
  beginTrial _ _ _ :=
    Straight.bind (Straight.update _) fun _ =>
      _control_part Straight.compositional (Straight.perform _)
  openSession :=
    Straight.bind (_control_part Straight.compositional (Straight.perform _)) fun session =>
      Straight.bind (Straight.lift _) fun _ => Straight.bind (Straight.update _)
        fun _ => Straight.compositional.pure session
  closeSession :=
    Straight.bind Straight.read fun _ =>
      Straight.bind (_control_part Straight.compositional (Straight.perform _))
        fun _ => Straight.update _
  endTrial :=
    Straight.bind (_control_part Straight.compositional (Straight.perform _)) fun summary =>
      Straight.bind (Straight.compositional.require _ _) fun _ =>
        Straight.bind (Straight.update _) fun _ => Straight.compositional.pure summary

/-! ## §4. Runs that fail. -/

/-- The handlers of `run`: the plan, then the failure. -/
theorem onFailure_runs {x : Raised} {r : Except Raised Dict}
    (h : Runs env (onFailure x) s w t r s' w') :
    (Swept (· = Raised.interrupt)
        (cleanupPlan (reported x).1 s._active_session_id s._trial_started) t ∧
      r = .error (reraised x)) ∨
    (CutShort (· = Raised.interrupt)
        (cleanupPlan (reported x).1 s._active_session_id s._trial_started) t .interrupt ∧
      r = .error .interrupt) := by
  rcases runs_bind.mp h with ⟨y, hstop, rfl⟩ | ⟨u, s₁, w₁, t₁, t₂, rfl, hstop, hraise⟩
  · rcases _safe_stop_sweeps _ _ _ _ _ _ _ hstop with ⟨-, ⟨u, hu⟩, -⟩ | ⟨z, hcut, hz⟩
    · cases hu
    · cases hz
      have hx : y = .interrupt := by
        obtain ⟨_, _, _, _, _, _, _, _, _, _, hx⟩ := hcut
        exact hx
      subst hx
      exact .inr ⟨hcut, rfl⟩
  · obtain ⟨rfl, rfl, rfl, rfl⟩ := runs_raise.mp hraise
    rw [List.append_nil]
    rcases _safe_stop_sweeps _ _ _ _ _ _ _ hstop with ⟨hswept, -⟩ | ⟨z, -, hz⟩
    · exact .inl ⟨hswept, rfl⟩
    · cases hz

theorem py_append (a b : String) : py (a ++ b) = py a ++ py b := by
  unfold py
  rw [String.toList_append, List.map_append]

/-- The first call of the handlers is the executor stop. -/
theorem onFailure_head {x : Raised} {r : Except Raised Dict}
    (h : Runs env (onFailure x) s w t r s' w') :
    ∃ ev rest, t = ev :: rest ∧ isSafeStop ev = true := by
  have hhead : ∃ ev rest, t = ev :: rest ∧
      ev.call = .stop (py ("safe_stop:" ++ (reported x).1.value)) := by
    rcases onFailure_runs h with ⟨hswept, -⟩ | ⟨hcut, -⟩
    · exact hswept.head
    · exact hcut.head
  obtain ⟨ev, rest, rfl, hev⟩ := hhead
  refine ⟨ev, rest, rfl, ?_⟩
  unfold isSafeStop
  rw [hev]
  show (py "safe_stop:").isPrefixOf (py ("safe_stop:" ++ (reported x).1.value)) = true
  rw [py_append, List.isPrefixOf_iff_prefix]
  exact List.prefix_append _ _

end SafeStop

end PipelineOrchestrator

/-- A call before the audit begins is not the one that fails. -/
theorem FailsAt.cons {x : OrchEvent} {t before after : List OrchEvent} {ev : OrchEvent} {e : Exn}
    (h : FailsAt (x :: t) before ev after e) :
    ∃ before', before = x :: before' ∧ t = before' ++ ev :: after := by
  cases before with
  | nil => cases h.begun
  | cons y before' =>
      obtain ⟨rfl, ht⟩ := List.cons.inj h.trace
      exact ⟨before', rfl, ht⟩

open PipelineOrchestrator in
/-- **Stop first, then clean up.**  When a call of the main path raises, the
next call stops the executor, and the rest of the plan follows. -/
theorem run_cleans_up (o : PipelineOrchestrator) {W : Type}
    (env : Environment Component Component.Answer Raised W) (w w' : W) (t : List OrchEvent)
    (r : Except Raised Dict) (s' : OrchestratorState) (h : Runs env o.run {} w t r s' w')
    (before after : List OrchEvent) (ev : OrchEvent) (e : Exn)
    (hfail : FailsAt t before ev after e) :
    CleanedUpOrInterrupted (before ++ [ev]) after e r := by
  rcases runs_bind.mp h with ⟨x, happrove, -⟩ | ⟨approved, _, _, _, _, rfl, happrove, h₁⟩
  · obtain ⟨rfl, -⟩ := runs_perform.mp happrove
    obtain ⟨before', -, ht⟩ := hfail.cons
    simp at ht
  obtain ⟨rfl, rfl, -⟩ := ask_ok happrove
  obtain ⟨before, rfl, ht⟩ := hfail.cons
  rcases runs_bind.mp h₁ with ⟨x, hcheck, -⟩ | ⟨_, _, _, _, _, rfl, hcheck, h₂⟩
  · obtain ⟨rfl, -⟩ := runs_require.mp hcheck
    simp at ht
  obtain ⟨-, rfl, rfl, -⟩ := check_ok hcheck
  rcases runs_bind.mp h₂ with ⟨x, hbegin, -⟩ | ⟨_, _, _, _, tried, rfl, hbegin, h₃⟩
  · -- the audit did not begin: nothing comes before the call that fails
    obtain ⟨rfl, -⟩ := runs_perform.mp hbegin
    cases before with
    | nil => cases hfail.begun
    | cons y before => simp at ht
  obtain ⟨rfl, rfl, -⟩ := ask_ok hbegin
  have hmain : ∃ main, before = ⟨.audit_begin o.plan.run_id o.plan.skills, .ok ()⟩ :: main ∧
      tried = main ++ ev :: after := by
    cases before with
    | nil => cases hfail.begun
    | cons y main =>
        obtain ⟨rfl, htried⟩ := List.cons.inj ht
        exact ⟨main, rfl, htried⟩
  obtain ⟨main, rfl, hcut⟩ := hmain
  rcases runs_attempt.mp h₃ with ⟨a, hok, rfl⟩ | ⟨x, s₁, w₁, t₁, t₂, rfl, hraise, hhandler⟩
  · -- a main path that returns has no call that raises
    have := (mainPath_part (straight_parts env) o _ _ _ _ _ _ hok main ev after _ hcut hfail.raised).2
    cases this
  obtain ⟨first, rest, rfl, hfirst⟩ := onFailure_head hhandler
  -- the failing call is no safe stop and comes before the first one
  have hbefore : ∃ c, t₁ = main ++ ev :: c ∧ after = c ++ first :: rest := by
    rcases List.append_eq_append_iff.mp hcut with ⟨c, rfl, hc⟩ | ⟨c, rfl, hc⟩
    · cases c with
      | nil =>
          obtain ⟨rfl, -⟩ := List.cons.inj hc
          have := hfail.main first (by simp)
          rw [hfirst] at this
          cases this
      | cons y c =>
          obtain ⟨rfl, -⟩ := List.cons.inj hc
          have := hfail.main first (by simp)
          rw [hfirst] at this
          cases this
    · cases c with
      | nil =>
          obtain ⟨rfl, -⟩ := List.cons.inj hc
          have := hfail.main ev (by simp)
          rw [hfirst] at this
          cases this
      | cons y c =>
          obtain ⟨rfl, hafter⟩ := List.cons.inj hc
          exact ⟨c, rfl, hafter⟩
  obtain ⟨c, rfl, rfl⟩ := hbefore
  obtain ⟨rfl, hx⟩ := mainPath_part (straight_parts env) o _ _ _ _ _ _ hraise main ev c _ rfl
    hfail.raised
  cases hx
  have hagrees : Agrees _ s₁ w₁ := mainPath_part (agrees_parts env) o
    [⟨.approve_run o.plan.run_id o.plan.skills, .ok approved⟩,
      ⟨.audit_begin o.plan.run_id o.plan.skills, .ok ()⟩] _ _ _ _ _ _ ⟨rfl, rfl⟩ hraise
  rcases onFailure_runs hhandler with ⟨hswept, rfl⟩ | ⟨hcut, rfl⟩
  · refine .inl ⟨?_, rfl⟩
    rw [hagrees.1, hagrees.2] at hswept
    exact hswept.1
  · refine .inr ⟨?_, rfl⟩
    rw [hagrees.1, hagrees.2] at hcut
    exact hcut

/-- The call at position `n` fails; computed. -/
def failsAt (t : List OrchEvent) (n : Nat) : Bool :=
  match t.drop n with
  | [] => false
  | ev :: _ =>
      (t.take n).any isAuditBegin && (t.take n ++ [ev]).all (fun x => !isSafeStop x) &&
        match ev.outcome with
        | .error (.exn _) => true
        | _ => false

theorem failsAt_spec {t : List OrchEvent} {n : Nat} (h : failsAt t n = true) :
    ∃ ev after e, FailsAt t (t.take n) ev after e := by
  unfold failsAt at h
  cases hdrop : t.drop n with
  | nil =>
      rw [hdrop] at h
      cases h
  | cons ev after =>
      rw [hdrop] at h
      simp only [Bool.and_eq_true] at h
      obtain ⟨⟨hbegun, hmain⟩, hraised⟩ := h
      split at hraised
      · rename_i e he
        refine ⟨ev, after, e, ?_, hbegun, ?_, he⟩
        · rw [← hdrop, List.take_append_drop]
        · intro x hx
          have := List.all_eq_true.mp hmain x hx
          simpa using this
      · cases hraised

/-- A publish that raises `OSError`, and an executor stop that raises too. -/
def lostPublish (stop : Raised) : Component → Option Raised
  | .publish _ => some (.exn (.error .OSError))
  | .stop _ => some stop
  | _ => none

theorem run_cleans_up_lost_publish :
    ∃ ev after e, CleanedUpOrInterrupted
      ((sampleOrchestrator.run.trace (sampleAnswer (lostPublish (.exn (.error .OSError)))) {}
        ()).take 21 ++ [ev]) after e
      (sampleOrchestrator.run.outcome (sampleAnswer (lostPublish (.exn (.error .OSError)))) {}
        ()) := by
  obtain ⟨s', w', hrun⟩ := Program.runs_outcome
    (sampleAnswer (lostPublish (.exn (.error .OSError)))) sampleOrchestrator.run {} ()
  obtain ⟨ev, after, e, hfail⟩ := failsAt_spec (show failsAt (sampleOrchestrator.run.trace
    (sampleAnswer (lostPublish (.exn (.error .OSError)))) {} ()) 21 = true by decide +kernel)
  exact ⟨ev, after, e, run_cleans_up sampleOrchestrator _ () w' _ _ s' hrun _ after ev e hfail⟩

/-- The outcome is an interrupt. -/
def interrupted {α : Type} : Except Raised α → Bool
  | .error .interrupt => true
  | _ => false

/-- A cleanup is not complete in every case: an interrupt in the executor
stop, after a failed publish, leaves the session open and the trial started. -/
theorem cleanup_interrupted :
    ¬ ∀ (o : PipelineOrchestrator) (W : Type)
      (env : Environment Component Component.Answer Raised W) (w w' : W) (t : List OrchEvent)
      (r : Except Raised Dict) (s' : OrchestratorState), Runs env o.run {} w t r s' w' →
      ∀ before after ev e, FailsAt t before ev after e → CleanedUp (before ++ [ev]) after e r := by
  intro h
  obtain ⟨s', w', hrun⟩ := Program.runs_outcome (sampleAnswer (lostPublish .interrupt))
    sampleOrchestrator.run {} ()
  obtain ⟨ev, after, e, hfail⟩ := failsAt_spec (show failsAt (sampleOrchestrator.run.trace
    (sampleAnswer (lostPublish .interrupt)) {} ()) 21 = true by decide +kernel)
  have hclean := (h _ _ _ _ _ _ _ _ hrun _ _ _ _ hfail).2
  have hint : interrupted (sampleOrchestrator.run.outcome
      (sampleAnswer (lostPublish .interrupt)) {} ()) = true := by decide +kernel
  rw [hclean] at hint
  cases e <;> cases hint

end OvenRuntime
