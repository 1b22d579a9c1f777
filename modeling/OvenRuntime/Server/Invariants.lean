/-
  OvenRuntime.Server.Invariants
  ─────────────────────────────
  The invariant of the runtime under any interleaving of calls.

  The shared state is consistent (`WF`) in every reachable state.  What makes
  it so is the discipline of `prepare_skill`, the one operation that changes
  the skill outside a single section: while a call prepares, no trial exists
  and the runtime stays in the state the call left it in, unless it goes
  down; and two calls never prepare at once, unless it has gone down.
-/
import OvenRuntime.Server.WellFormed
import OvenRuntime.Server.StepRules
import OvenRuntime.Server.Replay

namespace OvenRuntime

/-! ## §1. The invariant. -/

/-- The state a call in the middle of `prepare_skill` left the runtime in. -/
def Pc.preparing : Pc → Option RuntimeState
  | .prepareDrain _ _ => some .DRAINING
  | .prepareAcquire _ | .prepareBusy | .prepareLoad _ | .prepareFailed _ => some .LOADING
  | .prepareRelease _ _ | .prepareCommit _ _ => some .LOADING
  | _ => none

/-- A skill about to be committed is the one the backend identified. -/
def Pc.Identified : Pc → Prop
  | .prepareRelease skill (.ok identity) => identity.skill = skill
  | .prepareCommit skill identity => identity.skill = skill
  | _ => True

/-- **The invariant of the system.** -/
structure SysInv (s : Sys) : Prop where
  wf : s.rt.WF
  preparing : ∀ id pc st, s.calls id = some (.running pc) → pc.preparing = some st →
    s.rt.trial_id = none ∧ (s.rt.state = st ∨ s.rt.state.down)
  unique : ∀ i j pc pc', i ≠ j → s.calls i = some (.running pc) →
    s.calls j = some (.running pc') → pc.preparing.isSome → pc'.preparing.isSome →
    s.rt.state.down
  identified : ∀ id pc, s.calls id = some (.running pc) → pc.Identified

/-- What a step does to the runtime that no preparing call notices. -/
structure Quiet (rt rt' : PolicyRuntime) : Prop where
  state : rt'.state = rt.state ∨ rt'.state.down
  trial_id : rt.trial_id = none → rt'.trial_id = none

/-- Neither the state nor the trial changes. -/
theorem Quiet.same {rt rt' : PolicyRuntime} (hst : rt'.state = rt.state)
    (ht : rt'.trial_id = rt.trial_id) : Quiet rt rt' :=
  ⟨.inl hst, fun h => ht.trans h⟩

theorem Quiet.refl (rt : PolicyRuntime) : Quiet rt rt := .same rfl rfl

/-- The runtime goes down or is down, with the same trial or none. -/
theorem Quiet.of_down {rt rt' : PolicyRuntime} (hd : rt'.state.down)
    (ht : rt.trial_id = none → rt'.trial_id = none) : Quiet rt rt' :=
  ⟨.inr hd, ht⟩

theorem Quiet.down {rt rt' : PolicyRuntime} (h : Quiet rt rt') (hd : rt.state.down) :
    rt'.state.down := by
  rcases h.state with hs | hs
  · rw [hs]
    exact hd
  · exact hs

/-! ## §2. How steps keep it. -/

/-- The running call of `next`, if it still prepares, prepared before. -/
def StillPreparing (pc : Pc) (next : CallState) : Prop :=
  ∀ pc', next = .running pc' → pc'.Identified ∧ (pc'.preparing = none ∨ pc'.preparing = pc.preparing)

theorem StillPreparing.returned (pc : Pc) (out : Except Exn Result) :
    StillPreparing pc (.returned out) := by
  intro pc' h
  cases h

theorem StillPreparing.running {pc pc' : Pc} (hid : pc'.Identified)
    (h : pc'.preparing = none ∨ pc'.preparing = pc.preparing) :
    StillPreparing pc (.running pc') := by
  intro pc'' hpc
  cases hpc
  exact ⟨hid, h⟩

/-- **Quiet steps** keep the invariant. -/
theorem SysInv.quiet {s : Sys} {id : Nat} {pc : Pc} {rt' : PolicyRuntime} {next : CallState}
    (h : SysInv s) (hpc : s.calls id = some (.running pc)) (hwf : rt'.WF) (hq : Quiet s.rt rt')
    (hnext : StillPreparing pc next) : SysInv (s.setCall rt' id next) := by
  -- a call that prepares after the step prepared before it
  have hback : ∀ j pc' st, (s.setCall rt' id next).calls j = some (.running pc') →
      pc'.preparing = some st → ∃ pc₀, s.calls j = some (.running pc₀) ∧ pc₀.preparing = some st := by
    intro j pc' st hj hst
    rcases Sys.setCall_calls_eq hj with ⟨rfl, hnx⟩ | ⟨-, hold⟩
    · obtain ⟨-, hp⟩ := hnext pc' hnx.symm
      rcases hp with hp | hp
      · rw [hp] at hst
        cases hst
      · exact ⟨pc, hpc, by rw [← hp]; exact hst⟩
    · exact ⟨pc', hold, hst⟩
  refine ⟨hwf, ?_, ?_, ?_⟩
  · intro j pc' st hj hst
    obtain ⟨pc₀, h₀, hst₀⟩ := hback j pc' st hj hst
    obtain ⟨ht, hs⟩ := h.preparing j pc₀ st h₀ hst₀
    refine ⟨hq.trial_id ht, ?_⟩
    rcases hs with hs | hd
    · rcases hq.state with hq | hq
      · exact .inl (hq.trans hs)
      · exact .inr hq
    · exact .inr (hq.down hd)
  · intro i j pc₁ pc₂ hij hi hj h1 h2
    obtain ⟨st₁, h1⟩ := Option.isSome_iff_exists.mp h1
    obtain ⟨st₂, h2⟩ := Option.isSome_iff_exists.mp h2
    obtain ⟨p₁, hi₀, hp₁⟩ := hback i pc₁ st₁ hi h1
    obtain ⟨p₂, hj₀, hp₂⟩ := hback j pc₂ st₂ hj h2
    exact hq.down (h.unique i j p₁ p₂ hij hi₀ hj₀ (by simp [hp₁]) (by simp [hp₂]))
  · intro j pc' hj
    rcases Sys.setCall_calls_eq hj with ⟨-, hnx⟩ | ⟨-, hold⟩
    · exact (hnext pc' hnx.symm).1
    · exact h.identified j pc' hold

/-- **Steps with no other call preparing** keep the invariant, whatever they
do to the state. -/
theorem SysInv.alone {s : Sys} {id : Nat} {rt' : PolicyRuntime} {next : CallState}
    (h : SysInv s) (hwf : rt'.WF)
    (hothers : ∀ j pc, j ≠ id → s.calls j = some (.running pc) → pc.preparing = none)
    (hnext : ∀ pc', next = .running pc' → pc'.Identified ∧ ∀ st, pc'.preparing = some st →
      rt'.trial_id = none ∧ (rt'.state = st ∨ rt'.state.down)) :
    SysInv (s.setCall rt' id next) := by
  refine ⟨hwf, ?_, ?_, ?_⟩
  · intro j pc' st hj hst
    rcases Sys.setCall_calls_eq hj with ⟨-, hnx⟩ | ⟨hne, hold⟩
    · exact (hnext pc' hnx.symm).2 st hst
    · rw [hothers j pc' hne hold] at hst
      cases hst
  · -- of two distinct calls one is another call, and does not prepare
    intro i j pc₁ pc₂ hij hi hj h1 h2
    rcases Sys.setCall_calls_eq hi with ⟨rfl, -⟩ | ⟨hne, hold⟩
    · rcases Sys.setCall_calls_eq hj with ⟨rfl, -⟩ | ⟨hne, hold⟩
      · exact absurd rfl hij
      · rw [hothers j pc₂ hne hold] at h2
        cases h2
    · rw [hothers i pc₁ hne hold] at h1
      cases h1
  · intro j pc' hj
    rcases Sys.setCall_calls_eq hj with ⟨-, hnx⟩ | ⟨-, hold⟩
    · exact (hnext pc' hnx.symm).1
    · exact h.identified j pc' hold

/-- In a live state in which no call prepares, none does. -/
theorem SysInv.none_preparing {s : Sys} (h : SysInv s) (hd : ¬ s.rt.state.down)
    (h1 : s.rt.state ≠ .LOADING) (h2 : s.rt.state ≠ .DRAINING) {j : Nat} {pc : Pc}
    (hj : s.calls j = some (.running pc)) : pc.preparing = none := by
  cases hp : pc.preparing with
  | none => rfl
  | some st =>
      rcases (h.preparing j pc st hj hp).2 with hs | hs
      · cases pc <;> simp only [Pc.preparing, Option.some.injEq, reduceCtorEq] at hp <;> subst hp
        all_goals first | exact absurd hs h1 | exact absurd hs h2
      · exact absurd hs hd

/-- While the runtime lives, no call prepares next to another. -/
theorem SysInv.sole {s : Sys} (h : SysInv s) (hd : ¬ s.rt.state.down) {id : Nat} {pc : Pc}
    (hid : s.calls id = some (.running pc)) (hp : pc.preparing.isSome = true) :
    ∀ j pc', j ≠ id → s.calls j = some (.running pc') → pc'.preparing = none := by
  intro j pc' hne hj
  cases hp' : pc'.preparing with
  | none => rfl
  | some st => exact absurd (h.unique j id pc' pc hne hj hid (by simp [hp']) hp) hd

/-! ## §3. One step. -/

/-- Failing, dropping leases and ending trials is quiet. -/
theorem Quiet.failed (rt : PolicyRuntime) (code : ErrorCode) : Quiet rt (rt.failed code) :=
  .of_down (rt.failed_down code) id

theorem PolicyRuntime.AuditRaised.quiet {rt rt' : PolicyRuntime} {e : Exn}
    (h : PolicyRuntime.AuditRaised rt e rt') : Quiet rt rt' := by
  cases h with
  | fault f audit => exact .of_down (PolicyRuntime.failed_down _ _) id
  | error e audit => exact .same rfl rfl

/-- The first section of `prepare_skill` keeps the invariant. -/
theorem SysInv.prepareEnter {s : Sys} {id : Nat} {skill : PyStr} {timeout now now' : ℚ}
    {r : Except Exn PolicyRuntime.Drained} {rt' : PolicyRuntime} (h : SysInv s)
    (hpc : s.calls id = some (.running (.prepareEnter skill timeout)))
    (he : s.rt.prepareEnter timeout now now' = (r, rt')) :
    SysInv (s.setCall rt' id (afterDrain skill r)) := by
  rcases s.rt.prepareEnter_cases timeout now now' with ⟨e, hc⟩ | ⟨ht, hst, e, hc⟩ | ⟨ht, hst, hc⟩
    | ⟨ht, hst, hc⟩
  · cases he.symm.trans hc
    exact h.quiet hpc h.wf (.refl _) (.returned _ _)
  · cases he.symm.trans hc
    exact h.quiet hpc h.wf.dropSession (.same rfl rfl) (.returned _ _)
  · -- STARTING: nobody else prepares, and loading starts
    cases he.symm.trans hc
    refine h.alone (h.wf.idleState ht (by decide)) ?_ ?_
    · intro j pc _ hj
      exact h.none_preparing (by rw [hst]; decide) (by simp [hst]) (by simp [hst]) hj
    · intro pc' hnx
      cases hnx
      refine ⟨trivial, ?_⟩
      intro st hst
      cases hst
      exact ⟨ht, .inl rfl⟩
  · -- READY: nobody else prepares; the drain loop is entered
    have hothers : ∀ j pc, j ≠ id → s.calls j = some (.running pc) → pc.preparing = none := by
      intro j pc _ hj
      exact h.none_preparing (by rw [hst]; decide) (by simp [hst]) (by simp [hst]) hj
    have hwf : ({ s.rt with session := none, state := .DRAINING }).WF :=
      h.wf.idleState ht (by decide)
    rw [hc] at he
    rcases PolicyRuntime.drain_cases { s.rt with session := none, state := .DRAINING }
        (now + timeout) now' with ⟨e, -, hd⟩ | ⟨-, hd⟩ | ⟨-, -, hd⟩ | ⟨e, -, hne, -⟩
    · cases he.symm.trans hd
      refine h.alone (hwf.failed _) hothers ?_
      intro pc' hnx
      cases hnx
    · cases he.symm.trans hd
      refine h.alone hwf hothers ?_
      intro pc' hnx
      cases hnx
      refine ⟨trivial, ?_⟩
      intro st hst
      cases hst
      exact ⟨ht, .inl rfl⟩
    · cases he.symm.trans hd
      refine h.alone (h.wf.idleState ht (by decide)) hothers ?_
      intro pc' hnx
      cases hnx
      refine ⟨trivial, ?_⟩
      intro st hst
      cases hst
      exact ⟨ht, .inl rfl⟩
    · exact absurd rfl hne

/-- Waking up in the drain loop keeps the invariant. -/
theorem SysInv.prepareDrain {s : Sys} {id : Nat} {skill : PyStr} {deadline now : ℚ}
    {r : Except Exn PolicyRuntime.Drained} {rt' : PolicyRuntime} (h : SysInv s)
    (hpc : s.calls id = some (.running (.prepareDrain skill deadline)))
    (he : s.rt.drain deadline now = (r, rt')) :
    SysInv (s.setCall rt' id (afterDrain skill r)) := by
  obtain ⟨ht, -⟩ := h.preparing id _ _ hpc rfl
  rcases s.rt.drain_cases deadline now with ⟨e, -, hd⟩ | ⟨-, hd⟩ | ⟨-, hst, hd⟩ | ⟨e, -, -, hd⟩
  · cases he.symm.trans hd
    exact h.quiet hpc (h.wf.failed _) (.failed _ _) (.returned _ _)
  · cases he.symm.trans hd
    exact h.quiet hpc h.wf (.refl _) (.running trivial (.inr rfl))
  · -- still draining, so this is the only preparing call
    cases he.symm.trans hd
    have hlive : ¬ s.rt.state.down := by rw [hst]; decide
    have hs : s.rt.session = none := h.wf.no_session (by rw [hst]; decide)
    have hload : s.rt.loading = { s.rt with session := none, state := .LOADING } := by
      unfold PolicyRuntime.loading
      rw [← hs]
    refine h.alone ?_ (h.sole hlive hpc rfl) ?_
    · rw [hload]
      exact h.wf.idleState ht (by decide)
    · intro pc' hnx
      cases hnx
      refine ⟨trivial, ?_⟩
      intro st hst
      cases hst
      exact ⟨ht, .inl rfl⟩
  · cases he.symm.trans hd
    exact h.quiet hpc h.wf (.refl _) (.returned _ _)

/-- Committing a loaded skill keeps the invariant, also when the runtime has
failed in the meantime. -/
theorem SysInv.prepareCommit {s : Sys} {id : Nat} {skill : PyStr} {identity : BackendIdentity}
    {r : Except Exn Status} {rt' : PolicyRuntime} (h : SysInv s)
    (hpc : s.calls id = some (.running (.prepareCommit skill identity)))
    (he : s.rt.prepareCommit skill identity = (r, rt')) :
    SysInv (s.setCall rt' id (returning .status r)) := by
  obtain ⟨ht, hst⟩ := h.preparing id _ _ hpc rfl
  have hs : s.rt.session = none := by
    apply h.wf.no_session
    rcases hst with hst | hst
    · rw [hst]
      decide
    · intro hr
      rw [hr] at hst
      exact RuntimeState.READY_not_down hst
  have hid : identity.skill = skill := h.identified id _ hpc
  rcases s.rt.prepareCommit_cases skill identity with ⟨st, hl, hc⟩ | ⟨e, hl, hc⟩
  · cases he.symm.trans hc
    refine h.alone (h.wf.prepared ht hs hid .READY) ?_ ?_
    · exact h.sole (by rw [hl]; decide) hpc rfl
    · intro pc' hnx
      cases hnx
  · cases he.symm.trans hc
    refine h.quiet hpc ?_ (.same rfl rfl) (.returned _ _)
    exact h.wf.prepared ht hs hid s.rt.state

/-- Beginning a trial keeps the invariant: it happens in READY, where no call
prepares. -/
theorem SysInv.beginSection {s : Sys} {id : Nat} {trial_id : PyStr} {root_seed : Int}
    {reset : Except Exn Unit} {io : Io} {r : Except Exn Status} {rt' : PolicyRuntime}
    (h : SysInv s) (hpc : s.calls id = some (.running (.beginSection trial_id root_seed)))
    (he : s.rt.beginSection trial_id root_seed reset io = (r, rt')) :
    SysInv (s.setCall rt' id (afterBegin r)) := by
  rcases s.rt.beginSection_cases trial_id root_seed reset io with ⟨e, audit, ha, hg, hc⟩
    | ⟨st, skill, audit, hst, ht, hsk, -, -, hg, hd, he1, he2, ha, hc⟩
  · cases he.symm.trans hc
    refine h.quiet hpc (h.wf.audit ⟨hg, .inl ha⟩) (.same rfl rfl) ?_
    cases e with
    | fault f => exact .running trivial (.inl rfl)
    | error e => exact .running trivial (.inl rfl)
  · cases he.symm.trans hc
    refine h.alone (h.wf.began hst ht hsk ⟨he1, he2⟩ hd ha) ?_ ?_
    · intro j pc _ hj
      exact h.none_preparing (by rw [hst]; decide) (by simp [hst]) (by simp [hst]) hj
    · intro pc' hnx
      cases hnx
      exact ⟨trivial, by simp [Pc.preparing]⟩

/-- Ending a trial by whatever audit call keeps the state consistent. -/
theorem PolicyRuntime.WF.ended {rt : PolicyRuntime} (h : rt.WF) {audit : TrialAuditStore}
    (ha : audit.active = none) : (({ rt with session := none }).trialOver audit).WF :=
  h.dropSession.trialOver rfl ha

/-- **Every step of a running call keeps the invariant.** -/
theorem SysInv.advance {cfg : RuntimeConfig} {nx : Numerics} {s : Sys} {id : Nat} {pc : Pc}
    {ch : Choice} {rt' : PolicyRuntime} {next : CallState} (h : SysInv s)
    (hpc : s.calls id = some (.running pc)) (ha : Advance cfg nx id s.rt pc ch rt' next) :
    SysInv (s.setCall rt' id next) := by
  cases ha with
  | status => exact h.quiet hpc h.wf (.refl _) (.returned _ _)
  | prepareEnter he => exact h.prepareEnter hpc he
  | prepareDrain he => exact h.prepareDrain hpc he
  | prepareCommit he => exact h.prepareCommit hpc he
  | beginSection he => exact h.beginSection hpc he
  -- taking and releasing the execution lock
  | prepareAcquire =>
      exact h.quiet hpc (h.wf.counters _ _) (.same rfl rfl) (.running trivial (.inr rfl))
  | beginAcquire | inferAcquire | abortAcquire =>
      exact h.quiet hpc (h.wf.counters _ _) (.same rfl rfl) (.running trivial (.inl rfl))
  | beginRelease | inferRelease | abortRelease =>
      exact h.quiet hpc (h.wf.counters _ _) (.same rfl rfl) (.returned _ _)
  | @prepareRelease skill loaded =>
      refine h.quiet hpc (h.wf.counters _ _) (.same rfl rfl) ?_
      cases loaded with
      | ok identity =>
          have hid : identity.skill = skill := h.identified id _ hpc
          exact .running hid (.inr rfl)
      | error e => exact .returned _ _
  -- steps that leave the shared state alone
  | prepareTimeout => exact h.quiet hpc h.wf (.refl _) (.running trivial (.inr rfl))
  | prepareLoad hid => exact h.quiet hpc h.wf (.refl _) (.running hid (.inr rfl))
  | prepareRaise => exact h.quiet hpc h.wf (.refl _) (.running trivial (.inr rfl))
  | beginTimeout | inferTimeout => exact h.quiet hpc h.wf (.refl _) (.returned _ _)
  | inferRaise | inferPolicy _ | abortTimeout =>
      exact h.quiet hpc h.wf (.refl _) (.running trivial (.inl rfl))
  | @closeBackend audit_error r =>
      cases audit_error <;> exact h.quiet hpc h.wf (.refl _) (.returned _ _)
  -- steps that fail the runtime
  | prepareBusy | abortTimedOut =>
      exact h.quiet hpc (h.wf.failed _) (.failed _ _) (.returned _ _)
  | prepareFailed =>
      exact h.quiet hpc (h.wf.failed _) (.failed _ _) (.running trivial (.inr rfl))
  | beginFailed => exact h.quiet hpc (h.wf.failed _) (.failed _ _) (.running trivial (.inl rfl))
  -- sessions
  | openSession he =>
      rcases s.rt.openSession_cases cfg _ _ _ with ⟨e, hc⟩ | ⟨t, k, hst, ht, hsk, -, hc⟩
      · cases he.symm.trans hc
        exact h.quiet hpc h.wf (.refl _) (.returned _ _)
      · cases he.symm.trans hc
        exact h.quiet hpc (h.wf.opened cfg hst ht hsk) (.same rfl rfl) (.returned _ _)
  | closeSession he =>
      rcases s.rt.closeSession_cases _ with ⟨e, hc⟩ | ⟨lease, st, -, -, -, hc⟩
      · cases he.symm.trans hc
        exact h.quiet hpc h.wf (.refl _) (.returned _ _)
      · cases he.symm.trans hc
        exact h.quiet hpc h.wf.dropSession (.same rfl rfl) (.returned _ _)
  -- the ends of a trial
  | endTrial he =>
      rcases s.rt.endTrial_cases _ with ⟨e, -, hc⟩ | ⟨e, rt₁, -, -, -, hr, hc⟩
        | ⟨a, audit, hl, -, -, -, ha, hg, hc⟩
      · cases he.symm.trans hc
        exact h.quiet hpc h.wf (.refl _) (.returned _ _)
      · cases he.symm.trans hc
        exact h.quiet hpc (hr.wf h.wf) hr.quiet (.returned _ _)
      · cases he.symm.trans hc
        refine h.quiet hpc (h.wf.trialOver ?_ ha) ⟨.inl rfl, fun _ => rfl⟩ (.returned _ _)
        rw [← h.wf.activeLease]
        exact hl
  | abortSection he =>
      rcases s.rt.abortSection_cases _ _ with ⟨e, rt₁, -, hr, hc⟩
        | ⟨summary, out, audit, -, ha, hg, hc⟩
      · cases he.symm.trans hc
        refine h.quiet hpc (hr.wf h.wf.dropSession) ?_ (.running trivial (.inl rfl))
        exact ⟨hr.quiet.state, hr.quiet.trial_id⟩
      · cases he.symm.trans hc
        exact h.quiet hpc (h.wf.ended ha) ⟨.inl rfl, fun _ => rfl⟩ (.running trivial (.inl rfl))
  | markAmbiguous he =>
      rcases s.rt.markAmbiguous_cases _ _ _ with ⟨-, hc⟩
        | ⟨lease, -, -, ⟨e, rt₁, -, hr, hc⟩ | ⟨summary, out, audit, -, ha, hg, hc⟩⟩
      · cases he.symm.trans hc
        exact h.quiet hpc h.wf (.refl _) (.returned _ _)
      · cases he.symm.trans hc
        refine h.quiet hpc (hr.wf h.wf.dropSession) ?_ (.returned _ _)
        exact ⟨hr.quiet.state, hr.quiet.trial_id⟩
      · cases he.symm.trans hc
        refine h.quiet hpc ((h.wf.ended ha).failed .SERVER_FAILED) ?_ (.returned _ _)
        exact (.of_down (PolicyRuntime.failed_down _ _) fun _ => rfl)
  -- inference
  | @inferEnter request now r rt₁ he =>
      rcases s.rt.inferEnter_cases request now with ⟨e, hc⟩ | ⟨e, lease, -, -, hc⟩ | ⟨lease, -, -, hc⟩
      · cases he.symm.trans hc
        exact h.quiet hpc h.wf (.refl _) (.running trivial (.inl rfl))
      · cases he.symm.trans hc
        exact h.quiet hpc h.wf.dropSession (.same rfl rfl) (.running trivial (.inl rfl))
      · cases he.symm.trans hc
        exact h.quiet hpc (h.wf.counters _ _) (.same rfl rfl) (.running trivial (.inl rfl))
  | @inferRecord inf io r rt₁ he =>
      obtain ⟨r', audit, hg, ha, hc⟩ := s.rt.inferRecord_cases nx inf io
      cases he.symm.trans hc
      have hsame : PolicyRuntime.SameRecord s.rt.audit audit := by
        refine ⟨hg, ?_⟩
        rcases ha with ha | ⟨a, h1, h2⟩
        · exact .inl ha
        · exact .inr ⟨a, _, h1, h2⟩
      refine h.quiet hpc (h.wf.audit hsame) (.same rfl rfl) ?_
      cases r with
      | ok u => exact .running trivial (.inl rfl)
      | error e => exact .running trivial (.inl rfl)
  | @inferFailed request lease_ref e out rt₁ he =>
      obtain ⟨f, code, hc⟩ := s.rt.inferFail_eq e
      cases he.symm.trans hc
      exact h.quiet hpc (h.wf.failed _) (.failed _ _) (.running trivial (.inl rfl))
  | @inferFinish inf out rt₁ he =>
      rcases s.rt.inferFinish_cases inf with ⟨lease, hs, -, -, hc⟩ | ⟨f, -, hc⟩
      · cases he.symm.trans hc
        exact h.quiet hpc (h.wf.next hs) (.same rfl rfl) (.running trivial (.inl rfl))
      · cases he.symm.trans hc
        exact h.quiet hpc (h.wf.failed _) (.failed _ _) (.running trivial (.inl rfl))
  | inferLeave =>
      exact h.quiet hpc (h.wf.counters _ _) (.same rfl rfl) (.running trivial (.inl rfl))
  -- shutdown
  | @closeSection io r rt₁ he =>
      rcases s.rt.closeSection_cases io with ⟨r', audit, ha, hg, hc⟩ | ⟨r', audit, ha, hg, hc⟩
      · cases he.symm.trans hc
        refine h.quiet hpc (h.wf.stopped.audit ⟨hg, .inl ha⟩) (.of_down (.inr rfl) fun h => h) ?_
        cases r with
        | ok audit_error => exact .running trivial (.inl rfl)
        | error e => exact .returned _ _
      · cases he.symm.trans hc
        refine h.quiet hpc (h.wf.stopped.trialOver rfl ha) (.of_down (.inr rfl) fun _ => rfl) ?_
        cases r with
        | ok audit_error => exact .running trivial (.inl rfl)
        | error e => exact .returned _ _

/-- A call that begins is in no critical phase. -/
theorem Op.start_preparing {nx : Numerics} {op : Op} {pc : Pc} (h : op.start nx = .running pc) :
    pc.preparing = none ∧ pc.Identified := by
  unfold Op.start at h
  split at h
  all_goals (try split at h) <;> (try split at h) <;> first
    | (cases h; exact ⟨rfl, trivial⟩)
    | cases h

/-- **A step of the system keeps the invariant.** -/
theorem SysInv.step {cfg : RuntimeConfig} {nx : Numerics} {s s' : Sys} {l : Label}
    (h : SysInv s) (hs : Step cfg nx s l s') : SysInv s' := by
  rcases step_cases hs with ⟨id, op, -, hnone, rfl⟩ | ⟨id, pc, ch, rt', next, -, hpc, ha, rfl⟩
  · have hnew : ∀ j pc, (s.setCall s.rt id (op.start nx)).calls j = some (.running pc) →
        (pc.preparing = none ∧ pc.Identified) ∨ s.calls j = some (.running pc) := by
      intro j pc hj
      rcases Sys.setCall_calls_eq hj with ⟨-, hst⟩ | ⟨-, hold⟩
      · exact .inl (Op.start_preparing hst.symm)
      · exact .inr hold
    refine ⟨h.wf, ?_, ?_, ?_⟩
    · intro j pc st hj hst
      rcases hnew j pc hj with ⟨hp, -⟩ | hold
      · rw [hp] at hst
        cases hst
      · exact h.preparing j pc st hold hst
    · intro i j pc pc' hij hi hj h1 h2
      rcases hnew i pc hi with ⟨hp, -⟩ | hi'
      · rw [hp] at h1
        cases h1
      · rcases hnew j pc' hj with ⟨hp, -⟩ | hj'
        · rw [hp] at h2
          cases h2
        · exact h.unique i j pc pc' hij hi' hj' h1 h2
    · intro j pc hj
      rcases hnew j pc hj with ⟨-, hid⟩ | hold
      · exact hid
      · exact h.identified j pc hold
  · exact h.advance hpc ha

/-! ## §4. Every reachable state. -/

/-- **The invariant holds in every reachable state.** -/
theorem RuntimeRun.inv {cfg : RuntimeConfig} {nx : Numerics} {ls : List Label} {s : Sys}
    (h : RuntimeRun cfg nx ls s) : SysInv s := by
  refine TransitionSystem.Run.invariant_state SysInv ?_ ?_ h
  · rintro s ⟨dirs, rfl⟩
    exact ⟨PolicyRuntime.WF.init dirs, by simp, by simp, by simp⟩
  · intro s l s' hs hst
    exact hs.step hst

/-- In every reachable state a stored lease is active and agrees with the
runtime, which is READY; the runtime has a trial exactly when the store
records one, and then the two agree; and READY means that a skill is loaded
which the backend identified. -/
theorem reachable_consistent {cfg : RuntimeConfig} {nx : Numerics} {ls : List Label} {s : Sys}
    (h : RuntimeRun cfg nx ls s) :
    (∀ lease, s.rt.session = some lease →
      s.rt.state = .READY ∧ lease.state = .ACTIVE ∧ s.rt.trial_id = some lease.trial_id ∧
      s.rt.active_skill = some lease.skill ∧ lease.generation = s.rt.generation) ∧
    ((s.rt.trial_id.isSome ↔ s.rt.audit.active.isSome) ∧
      ∀ trial_id active, s.rt.trial_id = some trial_id → s.rt.audit.active = some active →
        active.trial_id = trial_id ∧ s.rt.active_skill = some active.skill ∧
        active.generation = s.rt.generation ∧ s.rt.trial_root_seed = some active.root_seed) ∧
    (s.rt.state = .READY → ∃ skill identity,
      s.rt.active_skill = some skill ∧ s.rt.identity = some identity ∧ identity.skill = skill ∧
      1 ≤ s.rt.generation) := by
  have hwf := h.inv.wf
  refine ⟨?_, ⟨?_, ?_⟩, ?_⟩
  · intro lease hs
    have hl := hwf.lease lease hs
    exact ⟨hl.ready, hl.active, hl.trial_id, hl.skill, hl.generation⟩
  · rw [← not_iff_not, Bool.not_eq_true, Bool.not_eq_true, Option.isSome_eq_false_iff,
      Option.isSome_eq_false_iff, Option.isNone_iff_eq_none, Option.isNone_iff_eq_none]
    exact hwf.trial_id_none_iff
  · intro trial_id active ht ha
    have hr := hwf.trial active ha
    refine ⟨?_, hr.skill, hr.generation, hr.root_seed⟩
    have := hr.trial_id.symm.trans ht
    cases this
    rfl
  · intro hst
    obtain ⟨identity, hi⟩ := hwf.ready hst
    exact ⟨identity.skill, identity, hi.skill, hi.identity, rfl, hi.generation⟩

/-- The run that opens a session: the lease it stores agrees with the runtime. -/
theorem reachable_consistent_warmUp : ∃ ls s lease,
    RuntimeRun defaultConfig constNumerics ls s ∧ s.rt.session = some lease ∧
      s.rt.state = .READY ∧ s.rt.trial_id = some lease.trial_id ∧
      s.rt.audit.active.isSome ∧ ∃ skill, s.rt.active_skill = some skill := by
  obtain ⟨ls, s, hrun, hp⟩ := Sys.exists_run defaultConfig constNumerics (fun _ => none)
    (warmUp (py "session") (py "token")) (fun _ s => s.rt.session.isSome) (by decide +kernel)
  obtain ⟨lease, hs⟩ := Option.isSome_iff_exists.mp hp
  obtain ⟨hlease, ⟨htrial, -⟩, hready⟩ := reachable_consistent hrun
  obtain ⟨hst, -, ht, -⟩ := hlease lease hs
  obtain ⟨skill, -, hsk, -⟩ := hready hst
  exact ⟨ls, s, lease, hrun, hs, hst, ht, htrial.mp (by simp [ht]), skill, hsk⟩

end OvenRuntime
