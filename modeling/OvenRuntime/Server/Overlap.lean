/-
  OvenRuntime.Server.Overlap
  ──────────────────────────
  Inference and switching.

  `prepare_skill` is prepared to wait for an inference in flight.  With audit
  writes that fail by `OSError` only, it never has to: an inference in flight
  holds the lease it was admitted under, a lease holds its trial, and a trial
  keeps `prepare_skill` out; every way to lose the lease under a running
  inference takes the runtime down (`inference_never_overlaps`).
-/
import OvenRuntime.Server.Commit

namespace OvenRuntime

open TransitionSystem

/-! ## §1. Audit writes that fail by `OSError`. -/

/-- A file operation that raises raises an `OSError`. -/
def Io.OnlyOS (io : Io) : Prop :=
  ∀ k e applied, io k = .raised e applied → e.isOSError = true

/-- The file operations of the step raise nothing but `OSError`. -/
def Choice.OnlyOS : Choice → Prop
  | .io files => files.OnlyOS
  | .begun _ files => files.OnlyOS
  | _ => True

def Label.OnlyOS : Label → Prop
  | .call _ _ => True
  | .step _ _ ch _ => ch.OnlyOS

/-- The report of a lost response that drops the lease of an inference in
flight and, its audit write having raised no `OSError`, leaves the runtime
READY. -/
def Undermines (rt : PolicyRuntime) : Label → Prop
  | .step _ (.markAmbiguous session_id _) (.io io) _ =>
      rt.in_flight ≠ 0 ∧ rt.session.map (·.session_id) = some session_id ∧
        ∃ e applied, io 0 = .raised e applied ∧ e.isOSError = false
  | _ => False

theorem Label.OnlyOS.not_undermines {l : Label} (h : l.OnlyOS) (rt : PolicyRuntime) :
    ¬ Undermines rt l := by
  unfold Undermines
  split
  · rintro ⟨-, -, e, applied, hio, hos⟩
    have := h 0 e applied hio
    rw [hos] at this
    cases this
  · exact id

/-- A failed audit call takes the runtime down or changes neither state nor lease. -/
theorem PolicyRuntime.AuditRaised.orderly {rt rt' : PolicyRuntime} {e : Exn}
    (h : PolicyRuntime.AuditRaised rt e rt') :
    rt'.state.down ∨ rt'.state = rt.state ∧ rt'.session = rt.session := by
  cases h with
  | fault f audit => exact .inl (PolicyRuntime.failed_down _ _)
  | error e audit => exact .inr ⟨rfl, rfl⟩

/-- Otherwise reporting a lost response under a stored lease takes the runtime
down, or nothing is in flight. -/
theorem PolicyRuntime.WF.markAmbiguous_down {rt rt' : PolicyRuntime} (h : rt.WF)
    {lease : SessionLease} {id : Nat} {sequence : Int} {io : Io} {next : CallState}
    {r : Except Exn (RuntimeState × Option TrialRecord)} (hs : rt.session = some lease)
    (hl : ¬ Undermines rt (.step id (.markAmbiguous lease.session_id sequence) (.io io) next))
    (he : rt.markAmbiguous lease.session_id sequence io = (r, rt')) :
    rt'.state.down ∨ rt.in_flight = 0 ∧ rt'.state = rt.state := by
  cases hk : io 0 with
  | done => exact .inl (h.markAmbiguous_done hs hk he).1
  | raised e applied =>
      have hdown := (h.markAmbiguous_raised hs hk he).2.2
      by_cases hos : e.isOSError = true
      · exact .inl (hdown.mpr hos)
      · right
        have hos : e.isOSError = false := by simpa using hos
        refine ⟨?_, ?_⟩
        · by_contra hin
          exact hl ⟨hin, by rw [hs]; rfl, e, applied, hk, hos⟩
        · -- a non-fault changes the record and the lease only
          rcases rt.markAmbiguous_cases lease.session_id sequence io with ⟨hno, -⟩
            | ⟨l, -, -, ⟨e', rt₁, -, hr, hc⟩ | ⟨summary, out, audit, -, -, -, hc⟩⟩
          · exact absurd rfl (hno lease hs)
          · cases he.symm.trans hc
            rcases hr.orderly with hd | ⟨hst, -⟩
            · rw [hdown.mp hd] at hos
              cases hos
            · exact hst
          · cases he.symm.trans hc
            have := hdown.mp (PolicyRuntime.failed_down _ _)
            rw [this] at hos
            cases hos

/-! ## §2. What a step may do to lease and state. -/

/-- The step keeps the stored lease, up to its counter. -/
def KeepsLease (rt rt' : PolicyRuntime) : Prop :=
  ∀ lease, rt.session = some lease → ∃ lease', rt'.session = some lease' ∧ lease'.ref = lease.ref

theorem KeepsLease.same {rt rt' : PolicyRuntime} (h : rt'.session = rt.session) :
    KeepsLease rt rt' := by
  intro lease hl
  exact ⟨lease, h.trans hl, rfl⟩

/-- Nothing is kept where nothing is stored. -/
theorem KeepsLease.none {rt : PolicyRuntime} (rt' : PolicyRuntime) (h : rt.session = none) :
    KeepsLease rt rt' := by
  intro lease hl
  rw [h] at hl
  cases hl

/-- When a step may drop the lease: the runtime is down, nothing is in
flight, or the step's call holds the lock and serves nobody. -/
def MayDrop (rt rt' : PolicyRuntime) (pc : Pc) : Prop :=
  rt'.state.down ∨ rt.in_flight = 0 ∨ (pc.holdsLock = true ∧ pc.serving = none)

/-- No step but those of the drain loop enters DRAINING or SWITCHING or goes
to sleep, and every step keeps the lease or may drop it. -/
structure Orderly (rt : PolicyRuntime) (pc : Pc) (rt' : PolicyRuntime) (next : CallState) :
    Prop where
  state : rt'.state = rt.state ∨ rt'.state.down ∨ rt'.state = .READY ∨ rt'.state = .LOADING
  awake : ∀ skill deadline, next ≠ .running (.prepareDrain skill deadline)
  lease : KeepsLease rt rt' ∨ MayDrop rt rt' pc

theorem Orderly.same {rt rt' : PolicyRuntime} {pc : Pc} {next : CallState}
    (hst : rt'.state = rt.state) (hs : rt'.session = rt.session)
    (hn : ∀ skill deadline, next ≠ .running (.prepareDrain skill deadline)) :
    Orderly rt pc rt' next :=
  ⟨.inl hst, hn, .inl (.same hs)⟩

theorem Orderly.of_down {rt rt' : PolicyRuntime} {pc : Pc} {next : CallState}
    (hd : rt'.state.down) (hn : ∀ skill deadline, next ≠ .running (.prepareDrain skill deadline)) :
    Orderly rt pc rt' next :=
  ⟨.inr (.inl hd), hn, .inr (.inl hd)⟩

/-- **Every step outside the first section of `prepare_skill` and its drain
loop is orderly.** -/
theorem Advance.orderly {cfg : RuntimeConfig} {nx : Numerics} {id : Nat} {rt rt' : PolicyRuntime}
    {pc : Pc} {ch : Choice} {next : CallState} (h : Advance cfg nx id rt pc ch rt' next)
    (hwf : rt.WF) (hsound : ¬ Undermines rt (.step id pc ch next)) (henter : ∀ skill timeout, pc ≠ .prepareEnter skill timeout)
    (hdrain : ∀ skill deadline, pc ≠ .prepareDrain skill deadline) :
    Orderly rt pc rt' next := by
  cases h with
  | @prepareEnter skill timeout => exact absurd rfl (henter skill timeout)
  | @prepareDrain skill deadline => exact absurd rfl (hdrain skill deadline)
  -- steps that leave state and lease alone
  | status | prepareAcquire | prepareTimeout | prepareLoad | prepareRaise | beginAcquire
  | beginTimeout | inferAcquire | inferTimeout | inferRaise | inferPolicy | inferLeave
  | abortAcquire | abortTimeout => exact .same rfl rfl (by simp)
  | @prepareRelease skill loaded => cases loaded <;> exact .same rfl rfl (by simp)
  | beginRelease | inferRelease | abortRelease => exact .same rfl rfl (by simp [returning])
  | @closeBackend audit_error => cases audit_error <;> exact .same rfl rfl (by simp [returning])
  -- steps that fail the runtime
  | prepareBusy | prepareFailed | beginFailed | abortTimedOut =>
      exact .of_down (rt.failed_down _) (by simp)
  | @prepareCommit skill identity r _ he =>
      rcases rt.prepareCommit_cases skill identity with ⟨st, hl, hc⟩ | ⟨e, -, hc⟩
      · cases he.symm.trans hc
        exact ⟨.inr (.inr (.inl rfl)), by simp [returning], .inl (.same rfl)⟩
      · cases he.symm.trans hc
        exact .same rfl rfl (by simp [returning])
  | @beginSection trial_id root_seed reset io r _ he =>
      rcases rt.beginSection_cases trial_id root_seed reset io with ⟨e, audit, -, -, hc⟩
        | ⟨st, skill, audit, -, -, -, -, -, -, -, -, -, -, hc⟩
      · cases he.symm.trans hc
        cases e <;> exact .same rfl rfl (by simp [afterBegin])
      · cases he.symm.trans hc
        exact .same rfl rfl (by simp [afterBegin])
  -- sessions
  | @openSession session_id token now r _ he =>
      rcases rt.openSession_cases cfg session_id token now with ⟨e, hc⟩ | ⟨t, k, -, -, -, hl, hc⟩
      · cases he.symm.trans hc
        exact .same rfl rfl (by simp [returning])
      · -- a session is opened where none is stored
        cases he.symm.trans hc
        exact ⟨.inl rfl, by simp [returning], .inl (.none _ (hwf.activeLease.symm.trans hl))⟩
  | @closeSession session_id r _ he =>
      rcases rt.closeSession_cases session_id with ⟨e, hc⟩ | ⟨lease, st, -, -, hin, hc⟩
      · cases he.symm.trans hc
        exact .same rfl rfl (by simp [returning])
      · cases he.symm.trans hc
        exact ⟨.inl rfl, by simp [returning], .inr (.inr (.inl hin))⟩
  -- the ends of a trial
  | @endTrial io r _ he =>
      rcases rt.endTrial_cases io with ⟨e, -, hc⟩ | ⟨e, rt₁, hl, -, -, hr, hc⟩
        | ⟨a, audit, -, -, -, -, -, -, hc⟩
      · cases he.symm.trans hc
        exact .same rfl rfl (by simp [returning])
      · cases he.symm.trans hc
        rcases hr.orderly with hd | ⟨hst, hs⟩
        · exact .of_down hd (by simp [returning])
        · exact .same hst hs (by simp [returning])
      · cases he.symm.trans hc
        exact .same rfl rfl (by simp [returning])
  | @markAmbiguous session_id sequence io r _ he =>
      by_cases hs : ∃ lease, rt.session = some lease ∧ lease.session_id = session_id
      · obtain ⟨lease, hs, rfl⟩ := hs
        rcases hwf.markAmbiguous_down hs hsound he with hd | ⟨hin, hst⟩
        · exact .of_down hd (by simp [returning])
        · exact ⟨.inl hst, by simp [returning], .inr (.inr (.inl hin))⟩
      · rcases rt.markAmbiguous_cases session_id sequence io with ⟨-, hc⟩ | ⟨lease, hl, hid, -⟩
        · cases he.symm.trans hc
          exact .same rfl rfl (by simp [returning])
        · exact absurd ⟨lease, hl, hid⟩ hs
  | @abortSection reason io out _ he =>
      rcases rt.abortSection_cases reason io with ⟨e, rt₁, -, hr, hc⟩
        | ⟨summary, out, audit, -, -, -, hc⟩
      · cases he.symm.trans hc
        rcases hr.orderly with hd | ⟨hst, -⟩
        · exact .of_down hd (by simp)
        · exact ⟨.inl hst, by simp, .inr (.inr (.inr ⟨rfl, rfl⟩))⟩
      · cases he.symm.trans hc
        exact ⟨.inl rfl, by simp, .inr (.inr (.inr ⟨rfl, rfl⟩))⟩
  -- inference
  | @inferEnter request now r _ he =>
      rcases rt.inferEnter_cases request now with ⟨e, hc⟩ | ⟨e, lease, -, -, hc⟩ | ⟨lease, -, -, hc⟩
      · cases he.symm.trans hc
        exact .same rfl rfl (by simp)
      · cases he.symm.trans hc
        exact ⟨.inl rfl, by simp, .inr (.inr (.inr ⟨rfl, rfl⟩))⟩
      · cases he.symm.trans hc
        exact .same rfl rfl (by simp)
  | @inferRecord inf io r _ he =>
      obtain ⟨r', audit, -, -, hc⟩ := rt.inferRecord_cases nx inf io
      cases he.symm.trans hc
      cases r <;> exact .same rfl rfl (by simp)
  | @inferFailed request ref e out _ he =>
      obtain ⟨f, code, hc⟩ := rt.inferFail_eq e
      cases he.symm.trans hc
      exact .of_down (rt.failed_down _) (by simp)
  | @inferFinish inf out _ he =>
      rcases rt.inferFinish_cases inf with ⟨lease, hs, -, -, hc⟩ | ⟨f, -, hc⟩
      · cases he.symm.trans hc
        refine ⟨.inl rfl, by simp, .inl ?_⟩
        intro l hl
        rw [hs] at hl
        cases hl
        exact ⟨lease.next, rfl, rfl⟩
      · cases he.symm.trans hc
        exact .of_down (rt.failed_down _) (by simp)
  -- shutdown
  | @closeSection io r _ he =>
      have hdown : rt'.state.down := by
        rcases rt.closeSection_cases io with ⟨r', audit, -, -, hc⟩ | ⟨r', audit, -, -, hc⟩ <;>
          cases he.symm.trans hc <;> exact .inr rfl
      cases r <;> exact .of_down hdown (by simp)

/-! ## §3. The invariant. -/

/-- **Inference and switching stay apart.** -/
structure OverlapInv (s : Sys) : Prop where
  /-- A request in service is served under the lease that is stored. -/
  current : ∀ id c request ref, s.calls id = some c → c.serving = some (request, ref) →
    s.rt.state.down ∨ ∃ lease, s.rt.session = some lease ∧ lease.ref = ref
  settled : s.rt.state ≠ .DRAINING ∧ s.rt.state ≠ .SWITCHING
  awake : ∀ id skill deadline, s.calls id ≠ some (.running (.prepareDrain skill deadline))

/-- An orderly step of a call keeps the lease of every request in service. -/
theorem OverlapInv.orderly {s : Sys} {id : Nat} {pc : Pc} {rt' : PolicyRuntime} {next : CallState}
    (h : OverlapInv s) (hlock : LockInv s) (hpc : s.calls id = some (.running pc))
    (heff : Effect id s.rt pc rt' next) (ho : Orderly s.rt pc rt' next) :
    OverlapInv (s.setCall rt' id next) := by
  -- a request that was in service stays under its lease, or the runtime goes down
  have hkeep : ∀ j c request ref, s.calls j = some c → c.serving = some (request, ref) →
      rt'.state.down ∨ ∃ lease, rt'.session = some lease ∧ lease.ref = ref := by
    intro j c request ref hj hs
    rcases h.current j c request ref hj hs with hd | ⟨lease, hl, href⟩
    · exact .inl (heff.down hd)
    · rcases ho.lease with hkeeps | hd | hzero | ⟨hholds, hno⟩
      · obtain ⟨lease', hl', href'⟩ := hkeeps lease hl
        exact .inr ⟨lease', hl', href'.trans href⟩
      · exact .inl hd
      · have hone := hlock.busy j c hj (by simp [hs])
        omega
      · have hnone := hlock.none_serving hpc hholds hno j c hj
        rw [hs] at hnone
        cases hnone
  refine ⟨?_, ?_, ?_⟩
  · intro j c request ref hj hs
    rcases Sys.setCall_calls_eq hj with ⟨rfl, rfl⟩ | ⟨-, hold⟩
    · rcases heff.serving_origin hs with hold | ⟨lease, hadm, href, hsame⟩
      · exact hkeep j _ request ref hpc hold
      · exact .inr ⟨lease, hsame.trans hadm.stored, href⟩
    · exact hkeep j c request ref hold hs
  · show rt'.state ≠ .DRAINING ∧ rt'.state ≠ .SWITCHING
    rcases ho.state with hst | hd | hst | hst
    · rw [hst]
      exact h.settled
    · rcases hd with hd | hd <;> rw [hd] <;> decide
    · rw [hst]
      decide
    · rw [hst]
      decide
  · intro j skill deadline hj
    rcases Sys.setCall_calls_eq hj with ⟨-, hn⟩ | ⟨-, hold⟩
    · exact ho.awake skill deadline hn.symm
    · exact h.awake j skill deadline hold

/-- Without a lease nobody is served, or the runtime is down. -/
theorem OverlapInv.idle {s : Sys} (h : OverlapInv s) (hs : s.rt.session = none)
    (hlive : ¬ s.rt.state.down) : ∀ id c, s.calls id = some c → c.serving = none := by
  intro j c hj
  cases hsv : c.serving with
  | none => rfl
  | some p =>
      rcases h.current j c p.1 p.2 hj hsv with hd | ⟨lease, hl, -⟩
      · exact absurd hd hlive
      · rw [hs] at hl
        cases hl

/-- Without a trial there is no lease. -/
theorem PolicyRuntime.WF.no_session_of_no_trial {rt : PolicyRuntime} (h : rt.WF)
    (ht : rt.trial_id = none) : rt.session = none := by
  cases hl : rt.session with
  | none => rfl
  | some lease =>
      have := (h.lease lease hl).trial_id
      rw [ht] at this
      cases this

/-- **Past its guards, with nothing in flight, `prepare_skill` starts loading
at once**: the drain loop is not entered. -/
theorem PolicyRuntime.prepareEnter_idle {rt : PolicyRuntime} (timeout now now' : ℚ)
    (ht : rt.trial_id = none)
    (hguard : ¬ (rt.state = .FAILED ∨ rt.state = .STOPPING ∨ rt.state = .LOADING
      ∨ rt.state = .SWITCHING))
    (hst : rt.state ≠ .DRAINING) (hin : rt.in_flight = 0) :
    rt.prepareEnter timeout now now'
      = (.ok .proceed, { rt with session := none, state := .LOADING }) := by
  have hstate : rt.state = .STARTING ∨ rt.state = .READY := by
    cases hs : rt.state <;> simp_all
  unfold prepareEnter drain
  rw [if_neg (by simpa using ht), if_neg hguard]
  rcases hstate with hs | hs <;>
    simp [_invalidate_session_locked, _transition_locked, ensure_runtime_transition,
      RUNTIME_TRANSITIONS, hs, hin]

/-- **Every step keeps inference and switching apart.** -/
theorem OverlapInv.step {cfg : RuntimeConfig} {nx : Numerics} {s s' : Sys} {l : Label}
    (h : OverlapInv s) (hlock : LockInv s) (hwf : s.rt.WF) (hsound : ¬ Undermines s.rt l)
    (hst : Step cfg nx s l s') : OverlapInv s' := by
  rcases step_cases hst with ⟨id, op, rfl, hnone, rfl⟩ | ⟨id, pc, ch, rt', next, rfl, hpc, ha, rfl⟩
  · refine ⟨?_, h.settled, ?_⟩
    · intro j c request ref hj hs
      rcases Sys.setCall_calls_eq hj with ⟨-, rfl⟩ | ⟨-, hold⟩
      · rw [(op.start_holdsLock nx).2] at hs
        cases hs
      · exact h.current j c request ref hold hs
    · intro j skill deadline hj
      rcases Sys.setCall_calls_eq hj with ⟨-, hn⟩ | ⟨-, hold⟩
      · obtain ⟨hp, -⟩ := Op.start_preparing hn.symm
        cases hp
      · exact h.awake j skill deadline hold
  · have heff := ha.effect
    by_cases henter : ∃ skill timeout, pc = .prepareEnter skill timeout
    · obtain ⟨skill, timeout, rfl⟩ := henter
      cases ha with
      | @prepareEnter _ _ now now' r _ he =>
          refine h.orderly hlock hpc heff ?_
          by_cases hrefused : ∃ e, r = .error e ∧ rt' = s.rt
          · obtain ⟨e, rfl, rfl⟩ := hrefused
            exact .same rfl rfl (by simp [afterDrain])
          · -- not refused: no trial, no lease, and straight to LOADING
            have hproceed : s.rt.session = none ∧ r = .ok .proceed ∧ rt'.state = .LOADING := by
              rcases s.rt.prepareEnter_cases timeout now now' with ⟨e, hc⟩ | ⟨-, hd, -⟩
                | ⟨ht, hs, hc⟩ | ⟨ht, hs, -⟩
              · cases he.symm.trans hc
                exact absurd ⟨e, rfl, rfl⟩ hrefused
              · exact absurd hd h.settled.1
              · cases he.symm.trans hc
                exact ⟨hwf.no_session_of_no_trial ht, rfl, rfl⟩
              · have hsess := hwf.no_session_of_no_trial ht
                have hzero := hlock.idle (h.idle hsess (by rw [hs]; decide))
                have hc := PolicyRuntime.prepareEnter_idle timeout now now' ht (by simp [hs])
                  h.settled.1 hzero
                cases he.symm.trans hc
                exact ⟨hsess, rfl, rfl⟩
            obtain ⟨hsess, rfl, hload⟩ := hproceed
            exact ⟨.inr (.inr (.inr hload)), by simp [afterDrain], .inl (.none _ hsess)⟩
    · refine h.orderly hlock hpc heff (ha.orderly hwf hsound ?_ ?_)
      · rintro skill timeout rfl
        exact henter ⟨skill, timeout, rfl⟩
      · rintro skill deadline rfl
        exact h.awake id skill deadline hpc

/-- No report of a lost response undermines an inference in flight. -/
def Sound (cfg : RuntimeConfig) (nx : Numerics) : List Label → Sys → Prop :=
  EveryStep (runtimeSystem cfg nx) fun _ s₁ l _ => ¬ Undermines s₁.rt l

theorem Sound.of_onlyOS {cfg : RuntimeConfig} {nx : Numerics} {ls : List Label} {s : Sys}
    (h : ∀ l ∈ ls, l.OnlyOS) : Sound cfg nx ls s := by
  intro ls₁ l ls₂ s₁ s₂ hls _ _ _
  exact (h l (by rw [hls]; simp)).not_undermines s₁.rt

theorem RuntimeRun.overlapInv {cfg : RuntimeConfig} {nx : Numerics} {ls : List Label} {s : Sys}
    (h : RuntimeRun cfg nx ls s) (hsound : Sound cfg nx ls s) : OverlapInv s := by
  refine Run.invariant (M := runtimeSystem cfg nx)
    (fun ls s => Sound cfg nx ls s → OverlapInv s) ?_ ?_ h hsound
  · rintro s ⟨dirs, rfl⟩ _
    exact ⟨by simp, by simp [PolicyRuntime.init], by simp⟩
  · intro ls s l s' hrun ih hst hsound
    exact (ih (hsound.init hst)).step (RuntimeRun.lockInv hrun) (RuntimeRun.inv hrun).wf
      (hsound.last hrun hst) hst

/-! ## §4. Every reachable state. -/

/-- **Inference never overlaps a switch.**  With audit writes that fail by
`OSError` only, in every reachable state: at most one inference is in flight;
the call it belongs to holds the execution lock, and the runtime is READY with
the lease of its admission stored, or down; the runtime is neither DRAINING
nor SWITCHING and nobody sleeps in the drain loop; and a `prepare_skill` that
passes its guards finds nothing in flight and starts loading at once. -/
theorem inference_never_overlaps {cfg : RuntimeConfig} {nx : Numerics} {ls : List Label} {s : Sys}
    (h : RuntimeRun cfg nx ls s) (hos : ∀ l ∈ ls, l.OnlyOS) :
    ((s.rt.in_flight = 0 ∨ s.rt.in_flight = 1) ∧
      (s.rt.in_flight = 1 → ∃ id pc request lease_ref,
        s.calls id = some (.running pc) ∧ pc.serving = some (request, lease_ref) ∧
        s.rt.execution_lock = some id ∧
        ((s.rt.state = .READY ∧ ∃ lease, s.rt.session = some lease ∧ lease.ref = lease_ref ∧
            lease.state = .ACTIVE) ∨
          s.rt.state = .FAILED ∨ s.rt.state = .STOPPING))) ∧
    (s.rt.state ≠ .DRAINING ∧ s.rt.state ≠ .SWITCHING ∧
      (∀ id skill deadline, s.calls id ≠ some (.running (.prepareDrain skill deadline))) ∧
      ∀ timeout now now', s.rt.trial_id = none →
        ¬ (s.rt.state = .FAILED ∨ s.rt.state = .STOPPING ∨ s.rt.state = .LOADING
          ∨ s.rt.state = .SWITCHING) →
        s.rt.in_flight = 0 ∧ s.rt.prepareEnter timeout now now'
          = (.ok .proceed, { s.rt with session := none, state := .LOADING })) := by
  have hinv := RuntimeRun.overlapInv h (.of_onlyOS hos)
  have hlock := RuntimeRun.lockInv h
  have hwf := (RuntimeRun.inv h).wf
  refine ⟨⟨?_, ?_⟩, hinv.settled.1, hinv.settled.2, hinv.awake, ?_⟩
  · by_cases hserve : ∃ id c, s.calls id = some c ∧ c.serving.isSome = true
    · obtain ⟨id, c, hc, hs⟩ := hserve
      exact .inr (hlock.busy id c hc hs)
    · left
      apply hlock.idle
      intro id c hc
      cases hs : c.serving with
      | none => rfl
      | some p => exact absurd ⟨id, c, hc, by simp [hs]⟩ hserve
  · intro hone
    -- something is in flight, so some call serves
    have hserve : ∃ id c, s.calls id = some c ∧ c.serving.isSome = true := by
      by_contra hno
      have hzero := hlock.idle fun id c hc => by
        cases hs : c.serving with
        | none => rfl
        | some p => exact absurd ⟨id, c, hc, by simp [hs]⟩ hno
      omega
    obtain ⟨id, c, hc, hs⟩ := hserve
    cases c with
    | returned out => cases hs
    | running pc =>
        obtain ⟨⟨request, ref⟩, hp⟩ := Option.isSome_iff_exists.mp hs
        have hholds := (hlock.lock id).mpr ⟨_, hc, CallState.holdsLock_of_serving hs⟩
        refine ⟨id, pc, request, ref, hc, hp, hholds, ?_⟩
        rcases hinv.current id _ request ref hc hp with hd | ⟨lease, hl, href⟩
        · exact .inr hd
        · have hleased := hwf.lease lease hl
          exact .inl ⟨hleased.ready, lease, hl, href, hleased.active⟩
  · intro timeout now now' ht hguard
    have hlive : ¬ s.rt.state.down := by
      rintro (hd | hd)
      · exact hguard (.inl hd)
      · exact hguard (.inr (.inl hd))
    have hzero := hlock.idle (hinv.idle (hwf.no_session_of_no_trial ht) hlive)
    exact ⟨hzero, PolicyRuntime.prepareEnter_idle timeout now now' ht hguard hinv.settled.1 hzero⟩

/-! A run replayed with file operations that only fail by `OSError`. -/

def Move.OnlyOS : Move → Prop
  | .call _ _ => True
  | .step _ ch => ch.OnlyOS

theorem Io.clean_onlyOS : Io.clean.OnlyOS := by
  intro k e applied h
  cases h

theorem Sys.move_onlyOS {cfg : RuntimeConfig} {nx : Numerics} {s s' : Sys} {m : Move} {l : Label}
    (h : s.move cfg nx m = some (l, s')) (hm : m.OnlyOS) : l.OnlyOS := by
  cases m with
  | call id op =>
      simp only [Sys.move] at h
      split at h
      · cases h
        trivial
      · cases h
  | step id ch =>
      simp only [Sys.move] at h
      split at h
      · obtain ⟨⟨rt, next⟩, -, hr⟩ := Option.map_eq_some_iff.mp h
        cases hr
        exact hm
      · cases h

theorem Sys.replay_onlyOS {cfg : RuntimeConfig} {nx : Numerics} {s s' : Sys} {ms : List Move}
    {ls : List Label} (h : s.replay cfg nx ms = some (ls, s')) (hms : ∀ m ∈ ms, m.OnlyOS) :
    ∀ l ∈ ls, l.OnlyOS := by
  induction ms generalizing s ls with
  | nil =>
      cases h
      simp
  | cons m ms ih =>
      simp only [Sys.replay] at h
      split at h
      · cases h
      · rename_i l s₁ hm
        obtain ⟨⟨ls', s''⟩, hr, he⟩ := Option.map_eq_some_iff.mp h
        cases he
        intro k hk
        rcases List.mem_cons.mp hk with rfl | hk
        · exact Sys.move_onlyOS hm (hms m (by simp))
        · exact ih hr (fun m' hm' => hms m' (List.mem_cons_of_mem _ hm')) k hk

/-- An inference in the policy: it is in flight, under the stored lease. -/
theorem inference_never_overlaps_in_policy : ∃ ls s,
    RuntimeRun defaultConfig constNumerics ls s ∧ (∀ l ∈ ls, l.OnlyOS) ∧ s.rt.in_flight = 1 ∧
      s.rt.state = .READY ∧ ∃ id pc request lease_ref lease,
        s.calls id = some (.running pc) ∧ pc.serving = some (request, lease_ref) ∧
        s.rt.session = some lease ∧ lease.ref = lease_ref := by
  have hreplay : ((Sys.initial fun _ => none).replay defaultConfig constNumerics
      (warmUp sampleId sampleToken ++ [.call 3 (.infer (samplePayload 0)), .step 3 .acquired,
        .step 3 (.clock 1)])).map
      (fun r => decide (r.2.rt.in_flight = 1 ∧ r.2.rt.state = .READY)) = some true := by
    decide +kernel
  obtain ⟨⟨ls, s⟩, hr, hp⟩ := Option.map_eq_some_iff.mp hreplay
  obtain ⟨hone, hready⟩ := of_decide_eq_true hp
  have hrun := Sys.replay_run hr
  have hos : ∀ l ∈ ls, l.OnlyOS := by
    apply Sys.replay_onlyOS hr
    simp [warmUp, prepareMoves, beginMoves, openMoves, Move.OnlyOS, Choice.OnlyOS,
      Io.clean_onlyOS]
  obtain ⟨⟨-, hbusy⟩, -⟩ := inference_never_overlaps hrun hos
  obtain ⟨id, pc, request, ref, hc, hs, -, hst⟩ := hbusy hone
  refine ⟨ls, s, hrun, hos, hone, hready, id, pc, request, ref, ?_⟩
  rcases hst with ⟨-, lease, hl, href, -⟩ | hd | hd
  · exact ⟨lease, hc, hs, hl, href⟩
  · rw [hready] at hd
    cases hd
  · rw [hready] at hd
    cases hd

end OvenRuntime
