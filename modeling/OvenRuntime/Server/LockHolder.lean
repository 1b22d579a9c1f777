/-
  OvenRuntime.Server.LockHolder
  ─────────────────────────────
  Which call holds the execution lock does not matter.

  No section looks at the lock (§1), so a step of a call depends on its number
  in one place alone: the lock names the call that has taken it (§2).  An
  undisturbed call can therefore be given any number (§3), in particular one
  that a history has not used yet.
-/
import OvenRuntime.Server.Commit
import OvenRuntime.Server.Solo
import OvenRuntime.Server.Undisturbed

namespace OvenRuntime

/-! ## §1. Sections do not look at the lock. -/

namespace PolicyRuntime

/-- The runtime with the execution lock in other hands, and everything else as it is. -/
def withLock (rt : PolicyRuntime) (lock : Option Nat) : PolicyRuntime :=
  { rt with execution_lock := lock }

/-- The section does the same, whoever holds the lock, and passes it on. -/
def LockBlind {α : Type} (F : PolicyRuntime → α × PolicyRuntime) : Prop :=
  ∀ rt lock, F (rt.withLock lock) = ((F rt).1, (F rt).2.withLock lock)

/-- A test that does not look at the lock. -/
theorem ite_withLock {α : Type} {p : Prop} [Decidable p] {a a' b b' : α × PolicyRuntime}
    (lock : Option Nat) (ha : a' = (a.1, a.2.withLock lock)) (hb : b' = (b.1, b.2.withLock lock)) :
    (if p then a' else b') = ((if p then a else b).1, (if p then a else b).2.withLock lock) := by
  by_cases hp : p
  · rw [if_pos hp, if_pos hp]
    exact ha
  · rw [if_neg hp, if_neg hp]
    exact hb

/-- A transition looks at the state and changes it, and nothing else. -/
theorem withLock_transition (rt : PolicyRuntime) (lock : Option Nat) (target : RuntimeState) :
    (rt.withLock lock)._transition_locked target =
      ((rt._transition_locked target).1, (rt._transition_locked target).2.withLock lock) := by
  have hstate : (rt.withLock lock).state = rt.state := rfl
  unfold _transition_locked
  rw [hstate]
  cases ensure_runtime_transition rt.state target <;> rfl

/-- The checks of a request read the lease, the trial, the skill and the clock, in this
order, and drop the lease if it has expired. -/
theorem withLock_validate (rt : PolicyRuntime) (lock : Option Nat) (request : InferenceRequest)
    (now : ℚ) :
    (rt.withLock lock)._validate_request_locked request now =
      ((rt._validate_request_locked request now).1,
        (rt._validate_request_locked request now).2.withLock lock) := by
  have hlease : (rt.withLock lock).activeLease = rt.activeLease := rfl
  unfold _validate_request_locked
  rw [hlease]
  cases rt.activeLease with
  | none => rfl
  | some lease =>
      refine ite_withLock lock rfl (ite_withLock lock rfl (ite_withLock lock rfl ?_))
      refine ite_withLock lock rfl (ite_withLock lock rfl (ite_withLock lock rfl ?_))
      refine ite_withLock lock rfl (ite_withLock lock rfl (ite_withLock lock rfl ?_))
      exact ite_withLock lock rfl rfl

/-- Failing the runtime, whichever handler does it. -/
theorem failThenRaise_lockBlind {α : Type} (code : ErrorCode) (e : Exn) :
    LockBlind fun rt => (rt.failThenRaise code e : Except Exn α × PolicyRuntime) := by
  intro rt lock
  beta_reduce
  simp only [failThenRaise_eq]
  rfl

/-- The drain loop waits for `in_flight`, not for the lock. -/
theorem drain_lockBlind (deadline now : ℚ) : LockBlind fun rt => rt.drain deadline now := by
  intro rt lock
  beta_reduce
  unfold drain
  refine ite_withLock lock (ite_withLock lock (failThenRaise_lockBlind _ _ rt lock) rfl) ?_
  rw [withLock_transition]
  cases rt._transition_locked .SWITCHING with
  | mk r rt₁ =>
      cases r with
      | error e => rfl
      | ok u =>
          simp only
          rw [withLock_transition]
          cases rt₁._transition_locked .LOADING with
          | mk r rt₂ => cases r <;> rfl

/-- The first section of `prepare_skill` runs before the lock is asked for. -/
theorem prepareEnter_lockBlind (timeout now now' : ℚ) :
    LockBlind fun rt => rt.prepareEnter timeout now now' := by
  intro rt lock
  beta_reduce
  have hinv : (rt.withLock lock)._invalidate_session_locked .ABORTED =
      (rt._invalidate_session_locked .ABORTED).withLock lock := rfl
  unfold prepareEnter
  rw [hinv]
  refine ite_withLock lock rfl (ite_withLock lock rfl (ite_withLock lock ?_ ?_))
  · rw [withLock_transition]
    cases (rt._invalidate_session_locked .ABORTED)._transition_locked .LOADING with
    | mk r rt₁ => cases r <;> rfl
  · rw [withLock_transition]
    cases (rt._invalidate_session_locked .ABORTED)._transition_locked .DRAINING with
    | mk r rt₁ =>
        cases r with
        | error e => rfl
        | ok u => exact drain_lockBlind _ _ rt₁ lock

/-- The last section of `prepare_skill` runs after the lock was given back. -/
theorem prepareCommit_lockBlind (skill : PyStr) (identity : BackendIdentity) :
    LockBlind fun rt => rt.prepareCommit skill identity := by
  intro rt lock
  beta_reduce
  have hloaded : ({ rt.withLock lock with
      active_skill := some skill, identity := some identity,
      generation := (rt.withLock lock).generation + 1 } : PolicyRuntime) =
      ({ rt with active_skill := some skill, identity := some identity,
                 generation := rt.generation + 1 } : PolicyRuntime).withLock lock := rfl
  unfold prepareCommit
  simp only [hloaded]
  rw [withLock_transition]
  cases ({ rt with active_skill := some skill, identity := some identity,
                   generation := rt.generation + 1 } : PolicyRuntime)._transition_locked .READY with
  | mk r rt₁ => cases r <;> rfl

/-- The section of `begin_trial` runs under the lock and does not look at it. -/
theorem beginSection_lockBlind (trial_id : PyStr) (root_seed : Int) (reset : Except Exn Unit)
    (io : Io) : LockBlind fun rt => rt.beginSection trial_id root_seed reset io := by
  intro rt lock
  beta_reduce
  cases rt
  unfold beginSection withLock
  simp only
  repeat' split
  all_goals rfl

/-- `open_session` takes the condition alone, so it may run while an inference has the lock.
-/
theorem openSession_lockBlind (cfg : RuntimeConfig) (session_id token : PyStr) (now : ℚ) :
    LockBlind fun rt => rt.openSession cfg session_id token now := by
  intro rt lock
  beta_reduce
  cases rt
  unfold openSession withLock activeLease
  simp only
  repeat' split
  all_goals rfl

/-- `close_session` asks for `in_flight`, not for the lock. -/
theorem closeSession_lockBlind (session_id : PyStr) :
    LockBlind fun rt => rt.closeSession session_id := by
  intro rt lock
  beta_reduce
  cases rt
  unfold closeSession withLock activeLease
  simp only
  repeat' split
  all_goals rfl

/-- `end_trial` takes the condition alone. -/
theorem endTrial_lockBlind (io : Io) : LockBlind fun rt => rt.endTrial io := by
  intro rt lock
  beta_reduce
  cases rt
  unfold endTrial withLock activeLease
  simp only [failThenRaise_eq]
  repeat' split
  all_goals rfl

/-- The section of `abort` runs under the lock and does not look at it. -/
theorem abortSection_lockBlind (reason : PyStr) (io : Io) :
    LockBlind fun rt => rt.abortSection reason io := by
  intro rt lock
  beta_reduce
  cases rt
  unfold abortSection withLock _invalidate_session_locked
  simp only [failThenRaise_eq]
  repeat' split
  all_goals rfl

/-- `mark_transport_ambiguous` takes the condition alone. -/
theorem markAmbiguous_lockBlind (session_id : PyStr) (sequence : Int) (io : Io) :
    LockBlind fun rt => rt.markAmbiguous session_id sequence io := by
  intro rt lock
  beta_reduce
  cases rt
  unfold markAmbiguous withLock _invalidate_session_locked
  simp only [failThenRaise_eq, _fail_locked_eq]
  repeat' split
  all_goals rfl

/-- `close` does not take the lock: it stops the runtime under a running inference. -/
theorem closeSection_lockBlind (io : Io) : LockBlind fun rt => rt.closeSection io := by
  intro rt lock
  beta_reduce
  unfold closeSection
  rw [stopping_eq, stopping_eq]
  cases rt
  unfold withLock _invalidate_session_locked
  simp only
  repeat' split
  all_goals rfl

/-- The admission of a request counts it in `in_flight`. -/
theorem inferEnter_lockBlind (request : InferenceRequest) (now : ℚ) :
    LockBlind fun rt => rt.inferEnter request now := by
  intro rt lock
  beta_reduce
  unfold inferEnter
  rw [withLock_validate]
  cases rt._validate_request_locked request now with
  | mk r rt₁ => cases r <;> rfl

/-- The audit call touches the store alone. -/
theorem inferRecord_lockBlind (nx : Numerics) (inf : Inference) (io : Io) :
    LockBlind fun rt => rt.inferRecord nx inf io := fun _ _ => rfl

/-- The handlers of `infer` fail the runtime. -/
theorem inferFail_lockBlind (e : Exn) : LockBlind fun rt => rt.inferFail e := by
  intro rt lock
  beta_reduce
  cases e with
  | fault f => exact failThenRaise_lockBlind _ _ rt lock
  | error e => exact failThenRaise_lockBlind _ _ rt lock

/-- The last section of `infer` looks whether the lease is still the one it was admitted
under. -/
theorem inferFinish_lockBlind (inf : Inference) : LockBlind fun rt => rt.inferFinish inf := by
  intro rt lock
  beta_reduce
  cases rt
  unfold inferFinish withLock
  simp only [failThenRaise_eq]
  repeat' split
  all_goals rfl

/-- The runtime with the lock, if somebody holds it, in the hands of this call. -/
def heldBy (rt : PolicyRuntime) (id : Nat) : PolicyRuntime :=
  rt.withLock (rt.execution_lock.map fun _ => id)

/-- A free lock is in nobody's hands. -/
theorem heldBy_free {rt : PolicyRuntime} (h : rt.execution_lock = none) (id : Nat) :
    rt.heldBy id = rt := by
  unfold heldBy withLock
  rw [h, Option.map_none, ← h]

/-- A section that does not look at the lock leaves it alone, too. -/
theorem LockBlind.kept {α : Type} {F : PolicyRuntime → α × PolicyRuntime} (hF : LockBlind F)
    (rt : PolicyRuntime) : (F rt).2.execution_lock = rt.execution_lock := by
  have hself : F rt = ((F rt).1, (F rt).2.withLock rt.execution_lock) := hF rt rt.execution_lock
  rw [hself]
  rfl

/-- A section does the same when the lock is in the hands of another call, and leaves it
there. -/
theorem LockBlind.heldBy {α : Type} {F : PolicyRuntime → α × PolicyRuntime} (hF : LockBlind F)
    (rt : PolicyRuntime) (id : Nat) : F (rt.heldBy id) = ((F rt).1, (F rt).2.heldBy id) := by
  unfold PolicyRuntime.heldBy
  rw [hF, hF.kept]

end PolicyRuntime

/-! ## §2. Steps. -/

section Steps

open PolicyRuntime

variable (cfg : RuntimeConfig) (nx : Numerics) (id id' : Nat) (rt : PolicyRuntime)

/-- So does the step that runs the section and goes on by what it returned. -/
theorem branch_heldBy {α : Type} {F : PolicyRuntime → Except Exn α × PolicyRuntime}
    (hF : LockBlind F) (next : Except Exn α → CallState) :
    some (branch (F (rt.heldBy id')) next) =
      (some (branch (F rt) next)).map fun r => (r.1.heldBy id', r.2) := by
  rw [hF.heldBy rt id']
  rfl

/-- The lock is taken under either number if it is free; this is where the number is seen.
-/
theorem acquire_heldBy (next : Pc) :
    acquire id' (rt.heldBy id') next =
      (acquire id rt next).map fun r => (r.1.heldBy id', r.2) := by
  cases rt with
  | mk _ _ _ _ _ _ _ _ _ lock => cases lock <;> rfl

/-- **A step does not depend on the number of the call**, but for the name it
gives the lock. -/
theorem callStep_heldBy (pc : Pc) (ch : Choice) :
    callStep cfg nx id' pc ch (rt.heldBy id') =
      (callStep cfg nx id pc ch rt).map fun r => (r.1.heldBy id', r.2) := by
  unfold callStep
  split
  -- the sections
  case h_2 => exact branch_heldBy id' rt (prepareEnter_lockBlind _ _ _) _
  case h_3 => exact branch_heldBy id' rt (drain_lockBlind _ _) _
  case h_6 | h_8 | h_14 | h_31 => exact branch_heldBy id' rt (failThenRaise_lockBlind _ _) _
  case h_10 => exact branch_heldBy id' rt (prepareCommit_lockBlind _ _) _
  case h_13 => exact branch_heldBy id' rt (beginSection_lockBlind _ _ _ _) _
  case h_16 => exact branch_heldBy id' rt (openSession_lockBlind _ _ _ _) _
  case h_17 => exact branch_heldBy id' rt (closeSession_lockBlind _) _
  case h_18 => exact branch_heldBy id' rt (endTrial_lockBlind _) _
  case h_19 => exact branch_heldBy id' rt (markAmbiguous_lockBlind _ _ _) _
  case h_22 => exact branch_heldBy id' rt (inferEnter_lockBlind _ _) _
  case h_24 => exact branch_heldBy id' rt (inferRecord_lockBlind _ _ _) _
  case h_25 => exact branch_heldBy id' rt (inferFail_lockBlind _) _
  case h_26 => exact branch_heldBy id' rt (inferFinish_lockBlind _) _
  case h_32 => exact branch_heldBy id' rt (abortSection_lockBlind _ _) _
  case h_34 => exact branch_heldBy id' rt (closeSection_lockBlind _) _
  -- taking the lock
  case h_4 | h_11 | h_20 | h_29 => exact acquire_heldBy id id' rt _
  -- what a call of the backend came to
  case h_7 =>
    split
    · split_ifs <;> rfl
    · rfl
  case h_23 =>
    split
    · rfl
    · split <;> rfl
  all_goals rfl

end Steps

/-! ## §3. Undisturbed calls. -/

section Calls

open TransitionSystem

variable {cfg : RuntimeConfig} {nx : Numerics} {id : Nat} {x x' : TimedRuntime}
  {out : Except Exn Result}

/-- What the environment grants a call it grants it under any number. -/
theorem Granted.heldBy {pc : Pc} {ch : Choice} (h : Granted cfg nx x pc ch) (id' : Nat) :
    Granted cfg nx ⟨x.rt.heldBy id', x.opened_at⟩ pc ch :=
  { h with
    lock := fun hch hfree => h.lock hch (Option.map_eq_none_iff.mp hfree) }

/-- **An undisturbed call can be given any number.** -/
theorem Alone.heldBy {c : CallState} (h : Alone cfg nx id x c out x') (id' : Nat) :
    Alone cfg nx id' ⟨x.rt.heldBy id', x.opened_at⟩ c out ⟨x'.rt.heldBy id', x'.opened_at⟩ := by
  induction h with
  | returned x out => exact .returned _ out
  | @step x x' pc ch rt next out hg hs _ ih =>
      refine .step (hg.heldBy id') ?_ ih
      show callStep cfg nx id' pc ch (x.rt.heldBy id') = _
      rw [callStep_heldBy cfg nx id id' x.rt pc ch, hs]
      rfl

/-- The path of an undisturbed call: it makes every step, and no other call moves. -/
theorem Alone.solo_path {c : CallState} (h : Alone cfg nx id x c out x') {s : Sys}
    (hrt : s.rt = x.rt) (hc : s.calls id = some c) :
    ∃ ls s', Path (runtimeSystem cfg nx) s ls s' ∧ Solo id ls ∧ s'.rt = x'.rt ∧
      s'.calls id = some (.returned out) ∧ ∀ j, j ≠ id → s'.calls j = s.calls j := by
  induction h generalizing s with
  | returned x out =>
      refine ⟨[], s, .nil s, ?_, hrt, hc, fun _ _ => rfl⟩
      intro l hl
      cases hl
  | @step x x' pc ch rt next out hg hs _ ih =>
      obtain ⟨ls, s', hpath, hsolo, hrt', hc', hothers⟩ :=
        ih (s := s.setCall rt id next) rfl (Sys.setCall_self _ _ _ _)
      refine ⟨_, s', .cons (Step.step hc (hrt ▸ hs)) hpath, ?_, hrt', hc', fun j hj => ?_⟩
      · intro l hl
        rcases List.mem_cons.mp hl with rfl | hl
        · exact ⟨pc, ch, next, rfl⟩
        · exact hsolo l hl
      · rw [hothers j hj, Sys.setCall_other _ _ _ hj]

/-- **A history goes on with an undisturbed call**, under a number it has not
used, and the lock is free again. -/
theorem Alone.extends {ls : List Label} {s : Sys} (hrun : RuntimeRun cfg nx ls s)
    (hfree : s.rt.execution_lock = none) {op : Op} {opened_at : ℚ}
    (h : Alone cfg nx id ⟨s.rt, opened_at⟩ (op.start nx) out x') :
    ∃ n ls' s', s.calls n = none ∧
      Path (runtimeSystem cfg nx) s (.call n op :: ls') s' ∧ Solo n ls' ∧
      s'.calls n = some (.returned out) ∧ s'.rt = x'.rt ∧ s'.rt.execution_lock = none := by
  obtain ⟨n, hnew⟩ := RuntimeRun.fresh hrun
  have hn := hnew n (Nat.le_refl n)
  have hcall : Step cfg nx s (.call n op) (s.setCall s.rt n (op.start nx)) := Step.call hn
  have hrenamed := h.heldBy n
  rw [PolicyRuntime.heldBy_free hfree n] at hrenamed
  obtain ⟨ls', s', hpath, hsolo, hrt, hc, hothers⟩ :=
    hrenamed.solo_path (s := s.setCall s.rt n (op.start nx)) rfl (Sys.setCall_self _ _ _ _)
  have hwhole : Path (runtimeSystem cfg nx) s (.call n op :: ls') s' := .cons hcall hpath
  -- a call that held the lock would be one that has not moved, and the lock was free
  have hlock := RuntimeRun.lockInv (hrun.extend hwhole)
  have hfree' : s'.rt.execution_lock = none := by
    by_contra hheld
    obtain ⟨j, hj⟩ := Option.ne_none_iff_exists'.mp hheld
    obtain ⟨c, hcj, hholds⟩ := (hlock.lock j).mp hj
    by_cases hjn : j = n
    · subst hjn
      rw [hc] at hcj
      cases hcj
      cases hholds
    · rw [hothers j hjn, Sys.setCall_other _ _ _ hjn] at hcj
      have := ((RuntimeRun.lockInv hrun).lock j).mpr ⟨c, hcj, hholds⟩
      rw [hfree] at this
      cases this
  have hback : x'.rt.execution_lock = none := by
    rw [hrt] at hfree'
    exact Option.map_eq_none_iff.mp hfree'
  rw [PolicyRuntime.heldBy_free hback] at hrt
  exact ⟨n, ls', s', hn, hwhole, hsolo, hc, hrt, hfree'⟩

end Calls

end OvenRuntime
