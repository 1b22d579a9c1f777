/-
  OvenRuntime.Server.Expiry
  ─────────────────────────
  When a lease is over.

  The deadline of a lease is a function of time, but only the lease check of
  `infer` looks at it; the other operations ask whether a lease is stored.  At
  or past the deadline of the lease issued last they act as if no session were
  active exactly if that lease is no longer stored (`expiry_agreed_iff`).
-/
import OvenRuntime.Server.Admission
import OvenRuntime.Server.Replay

namespace OvenRuntime

open TransitionSystem

variable {cfg : RuntimeConfig} {nx : Numerics}

/-! ## §1. The lease issued last. -/

/-- The deadline of the lease a step has issued. -/
def Label.issued (cfg : RuntimeConfig) : Label → Option ℚ
  | .step _ .openSession (.drawn _ _ now) (.returned (.ok (.session _))) =>
      some (now + cfg.session_ttl_sec)
  | _ => none

/-- The deadline of the lease issued last. -/
def lastDeadline (cfg : RuntimeConfig) (ls : List Label) : Option ℚ :=
  (ls.filterMap (Label.issued cfg)).getLast?

theorem lastDeadline_snoc_none {ls : List Label} {l : Label} (h : l.issued cfg = none) :
    lastDeadline cfg (ls ++ [l]) = lastDeadline cfg ls := by
  simp [lastDeadline, h]

theorem lastDeadline_snoc_some {ls : List Label} {l : Label} {deadline : ℚ}
    (h : l.issued cfg = some deadline) : lastDeadline cfg (ls ++ [l]) = some deadline := by
  simp [lastDeadline, h]

theorem Label.issued_none {l : Label}
    (h : ∀ id ch grant, l ≠ .step id .openSession ch (.returned (.ok (.session grant)))) :
    l.issued cfg = none := by
  unfold Label.issued
  split
  · exact absurd rfl (h _ _ _)
  · rfl

/-- **A stored lease is the one issued last.** -/
theorem RuntimeRun.deadline {ls : List Label} {s : Sys} (h : RuntimeRun cfg nx ls s)
    {lease : SessionLease} (hs : s.rt.session = some lease) :
    lastDeadline cfg ls = some lease.expires_at_monotonic := by
  have hinv : ∀ lease, s.rt.session = some lease →
      lastDeadline cfg ls = some lease.expires_at_monotonic := by
    refine Run.invariant (fun ls s => ∀ lease, s.rt.session = some lease →
      lastDeadline cfg ls = some lease.expires_at_monotonic) ?_ ?_ h
    · rintro s ⟨dirs, rfl⟩ lease hl
      cases hl
    · intro ls s l s' _ ih hst lease' hl'
      rcases Step.lease_cases hst hl' with ⟨lease, hl, hsame, hother⟩
        | ⟨id, trial_id, skill, session_id, token, now, grant, rfl, rfl⟩
      · have hexp : lease'.expires_at_monotonic = lease.expires_at_monotonic := by
          rcases hsame with rfl | rfl <;> rfl
        rw [lastDeadline_snoc_none (Label.issued_none hother), hexp]
        exact ih lease hl
      · exact lastDeadline_snoc_some rfl
  exact hinv lease hs

/-! ## §2. Acting as if no session were active. -/

/-- The readings of the clock in the choice are `now` or later. -/
def Choice.since (now : ℚ) : Choice → Prop
  | .clock t => now ≤ t
  | .clocks t t' => now ≤ t ∧ now ≤ t'
  | .drawn _ _ t => now ≤ t
  | _ => True

/-- From `now` on the runtime acts as if no session were active. -/
structure ActsUnleased (cfg : RuntimeConfig) (nx : Numerics) (rt : PolicyRuntime) (now : ℚ) :
    Prop where
  /-- In READY with a trial, `open_session` issues a new lease. -/
  open_session : rt.state = .READY → rt.trial_id ≠ none →
    ∀ session_id token t, now ≤ t → ∃ trial_id skill,
      rt.trial_id = some trial_id ∧ rt.active_skill = some skill ∧
      rt.openSession cfg session_id token t =
        (.ok { session_id, session_token := token, skill, generation := rt.generation,
               trial_id, expires_in_sec := cfg.session_ttl_sec },
         { rt with
           session := some (PolicyRuntime.newLease cfg rt trial_id skill session_id token t),
           refs := rt.refs + 1 })
  /-- `end_trial` is not refused for an active session. -/
  end_trial : ∀ io message details,
    (rt.endTrial io).1 ≠ .error (fault .SESSION_ALREADY_ACTIVE message details)
  /-- `close_session` finds no session. -/
  close_session : ∀ session_id,
    rt.closeSession session_id = (.error (fault .SESSION_REQUIRED "no active session"), rt)
  /-- `status` reports none. -/
  status : rt.status.active_session_id = none
  /-- Every step of every call ends as it would with no lease stored. -/
  step : ∀ id pc ch, ch.since now →
    (callStep cfg nx id pc ch rt).map (·.2)
      = (callStep cfg nx id pc ch { rt with session := none }).map (·.2)

/-- The faults of `TrialAuditStore.end`. -/
theorem TrialAuditStore.end_fault {st : TrialAuditStore} {io : Io} {f : RuntimeFault}
    (h : (st.end io).1 = .error (.fault f)) :
    f.code = .TRIAL_REQUIRED ∨ f.code = .AUDIT_COMMIT_FAILED := by
  have haudit : ∀ e, auditFault "cannot commit server audit trial" [] e = .fault f →
      f.code = .AUDIT_COMMIT_FAILED := by
    intro e he
    unfold auditFault at he
    split at he
    · cases he
      rfl
    · cases he
  unfold TrialAuditStore.end at h
  cases hact : st.active with
  | none =>
      rw [hact] at h
      cases h
      exact .inl rfl
  | some a =>
      rw [hact] at h
      simp only at h
      split at h
      · exact .inr (haudit _ (Except.error.inj h))
      · split at h
        · exact .inr (haudit _ (Except.error.inj h))
        · cases h

/-- With no lease stored, `end_trial` is not refused for one. -/
theorem PolicyRuntime.endTrial_unleased {rt : PolicyRuntime} (hl : rt.activeLease = none) (io : Io)
    (message : String) (details : List (String × Value)) :
    (rt.endTrial io).1 ≠ .error (fault .SESSION_ALREADY_ACTIVE message details) := by
  intro he
  rcases rt.endTrial_cases io with ⟨e, hguard, hc⟩ | ⟨e, rt', -, -, hraise, -, hc⟩
    | ⟨a, audit, -, -, -, -, -, -, hc⟩
  · -- refused: there is no trial
    have ht : rt.trial_id = none := by
      rcases hguard with hguard | ht
      · exact absurd hl hguard
      · exact ht
    unfold PolicyRuntime.endTrial at he
    rw [if_neg (by simpa using hl), if_pos ht] at he
    cases he
  · rw [hc] at he
    cases he
    rcases TrialAuditStore.end_fault hraise with hcode | hcode
    · cases hcode
    · cases hcode
  · rw [hc] at he
    cases he

/-- With no lease stored, the runtime acts so. -/
theorem ActsUnleased.of_none {rt : PolicyRuntime} (hwf : rt.WF) (hs : rt.session = none) (now : ℚ) :
    ActsUnleased cfg nx rt now where
  open_session hst ht session_id token t _ := by
    obtain ⟨identity, hload⟩ := hwf.ready hst
    obtain ⟨trial_id, htrial⟩ := Option.ne_none_iff_exists'.mp ht
    refine ⟨trial_id, identity.skill, htrial, hload.skill, ?_⟩
    have hl := hwf.activeLease.trans hs
    unfold PolicyRuntime.openSession
    rw [if_neg (by simpa using hst), htrial, hload.skill]
    simp only [hl, ne_eq, not_true_eq_false, if_false]
    rfl
  end_trial := PolicyRuntime.endTrial_unleased (hwf.activeLease.trans hs)
  close_session session_id := by
    unfold PolicyRuntime.closeSession
    rw [hwf.activeLease.trans hs]
  status := by
    show rt.activeLease.map (·.session_id) = none
    rw [hwf.activeLease, hs]
    rfl
  step id pc ch _ := by rw [← hs]

/-- A stored lease, over or not, shows in every operation. -/
structure ActsLeased (cfg : RuntimeConfig) (rt : PolicyRuntime) (lease : SessionLease) : Prop where
  open_session : ∀ session_id token t, rt.openSession cfg session_id token t =
    (.error (fault .SESSION_ALREADY_ACTIVE "an action session is already active"), rt)
  end_trial : ∀ io, rt.endTrial io = (.error (fault .SESSION_ALREADY_ACTIVE
    "close the active session before ending the trial"), rt)
  close_session : ∀ session_id, (rt.closeSession session_id).1
    ≠ .error (fault .SESSION_REQUIRED "no active session")
  status : rt.status.active_session_id = some lease.session_id

theorem ActsLeased.of_some {rt : PolicyRuntime} (hwf : rt.WF) {lease : SessionLease}
    (hs : rt.session = some lease) : ActsLeased cfg rt lease := by
  have hl := hwf.activeLease.trans hs
  have hlease := hwf.lease lease hs
  constructor
  · intro session_id token t
    unfold PolicyRuntime.openSession
    rw [if_neg (by simpa using hlease.ready), hlease.trial_id, hlease.skill]
    simp [hl]
  · intro io
    unfold PolicyRuntime.endTrial
    rw [if_pos (by simp [hl])]
  · intro session_id hc
    unfold PolicyRuntime.closeSession at hc
    rw [hl] at hc
    simp only at hc
    split at hc
    · cases hc
    · split at hc
      · cases hc
      · cases hc
  · show rt.activeLease.map (·.session_id) = some lease.session_id
    rw [hl]
    rfl

/-! ## §3. The operations agree. -/

/-- **Every operation agrees on when a lease is dead, once it is dropped.**
From the deadline of the lease issued last on, the runtime acts as if no
session were active exactly if the lease is no longer stored. -/
theorem expiry_agreed_iff {ls : List Label} {s : Sys} (h : RuntimeRun cfg nx ls s)
    {deadline now : ℚ} (hd : lastDeadline cfg ls = some deadline) (hnow : deadline ≤ now) :
    ActsUnleased cfg nx s.rt now ↔
      ¬ ∃ lease, s.rt.session = some lease ∧ lease.expires_at_monotonic ≤ now := by
  have hwf := (RuntimeRun.inv h).wf
  constructor
  · rintro hacts ⟨lease, hs, -⟩
    have hleased : ActsLeased cfg s.rt lease := .of_some hwf hs
    have hshown := hleased.status
    rw [hacts.status] at hshown
    cases hshown
  · intro hno
    have hnone : s.rt.session = none := by
      cases hs : s.rt.session with
      | none => rfl
      | some lease =>
          refine absurd ⟨lease, hs, ?_⟩ hno
          cases (RuntimeRun.deadline h hs).symm.trans hd
          exact hnow
    exact .of_none hwf hnone now

/-- An inference past the deadline has dropped the lease. -/
theorem expiry_agreed_iff_noticed : ∃ ls s, RuntimeRun defaultConfig constNumerics ls s ∧
    lastDeadline defaultConfig ls = some 600 ∧ s.rt.trial_id = some (py "run_0_fold") ∧
    ActsUnleased defaultConfig constNumerics s.rt 600 := by
  obtain ⟨ls, s, hrun, htest⟩ := Sys.exists_run defaultConfig constNumerics (fun _ => none)
    (warmUp sampleId sampleToken ++ [.call 3 (.infer (samplePayload 0)), .step 3 .acquired,
      .step 3 (.clock 600), .step 3 .go])
    (fun ls s => lastDeadline defaultConfig ls == some 600 && s.rt.session.isNone &&
      s.rt.trial_id == some (py "run_0_fold")) (by decide +kernel)
  simp only [Bool.and_eq_true, beq_iff_eq, Option.isNone_iff_eq_none] at htest
  obtain ⟨⟨hd, hs⟩, ht⟩ := htest
  refine ⟨ls, s, hrun, hd, ht, (expiry_agreed_iff hrun hd (Rat.le_refl ..)).mpr ?_⟩
  rintro ⟨lease, hl, -⟩
  cases hs.symm.trans hl

/-- **A lease past its deadline stays** as long as no inference comes: it is
reported, keeps a session from opening and the trial from ending. -/
theorem expired_lease_stays : ∃ ls s lease, RuntimeRun defaultConfig constNumerics ls s ∧
    s.rt.state = .READY ∧ s.rt.trial_id = some (py "run_0_fold") ∧ s.rt.session = some lease ∧
    lastDeadline defaultConfig ls = some 600 ∧ lease.expires_at_monotonic = 600 ∧
    ActsLeased defaultConfig s.rt lease ∧ ¬ ActsUnleased defaultConfig constNumerics s.rt 600 := by
  obtain ⟨ls, s, hrun, htest⟩ := Sys.exists_run defaultConfig constNumerics (fun _ => none)
    (warmUp sampleId sampleToken)
    (fun ls s => s.rt.session.isSome && s.rt.trial_id == some (py "run_0_fold") &&
      lastDeadline defaultConfig ls == some 600) (by decide +kernel)
  simp only [Bool.and_eq_true, beq_iff_eq, Option.isSome_iff_exists] at htest
  obtain ⟨⟨⟨lease, hs⟩, ht⟩, hd⟩ := htest
  have hwf := (RuntimeRun.inv hrun).wf
  have hexp : lease.expires_at_monotonic = 600 :=
    Option.some.inj ((RuntimeRun.deadline hrun hs).symm.trans hd)
  have hacts : ActsLeased defaultConfig s.rt lease := .of_some hwf hs
  refine ⟨ls, s, lease, hrun, (hwf.lease lease hs).ready, ht, hs, hd, hexp, hacts, ?_⟩
  intro hno
  have hshown := hacts.status
  rw [hno.status] at hshown
  cases hshown

end OvenRuntime
