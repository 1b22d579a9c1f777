/-
  OvenRuntime.Server.WellFormed
  ─────────────────────────────
  The consistency of the shared state: session, trial, audit store, skill,
  generation and runtime state agree with one another (`WF`).  Each way a
  section changes the state has one lemma here that keeps it.
-/
import OvenRuntime.Server.RuntimeRules

namespace OvenRuntime

namespace PolicyRuntime

/-! ## §1. The invariant. -/

/-- A stored lease is active and belongs to the running trial and skill. -/
structure Leased (rt : PolicyRuntime) (lease : SessionLease) : Prop where
  ready : rt.state = .READY
  active : lease.state = .ACTIVE
  trial_id : rt.trial_id = some lease.trial_id
  skill : rt.active_skill = some lease.skill
  generation : lease.generation = rt.generation
  ref : lease.ref < rt.refs

/-- The recorded trial is the trial of the runtime. -/
structure Recorded (rt : PolicyRuntime) (active : ActiveTrial) : Prop where
  trial_id : rt.trial_id = some active.trial_id
  skill : rt.active_skill = some active.skill
  generation : active.generation = rt.generation
  root_seed : rt.trial_root_seed = some active.root_seed
  encodable : active.trial_id.encodable = true ∧ active.skill.encodable = true
  directory : (rt.audit.dirs active.trial_id).isSome = true

/-- A skill is loaded, and the backend identified it. -/
structure Loaded (rt : PolicyRuntime) (loaded : BackendIdentity) : Prop where
  identity : rt.identity = some loaded
  skill : rt.active_skill = some loaded.skill
  generation : 1 ≤ rt.generation

/-- **The consistency of the shared state.** -/
structure WF (rt : PolicyRuntime) : Prop where
  lease : ∀ lease, rt.session = some lease → rt.Leased lease
  idle : rt.audit.active = none → rt.trial_id = none ∧ rt.trial_root_seed = none
  trial : ∀ active, rt.audit.active = some active → rt.Recorded active
  ready : rt.state = .READY → ∃ identity, rt.Loaded identity
  held : rt.trial_id ≠ none → rt.state = .READY ∨ rt.state.down

/-! ## §2. Consequences. -/

theorem WF.activeLease {rt : PolicyRuntime} (h : rt.WF) : rt.activeLease = rt.session :=
  activeLease_eq fun lease hl => (h.lease lease hl).active

/-- The runtime has a trial exactly when the store records one. -/
theorem WF.trial_id_none_iff {rt : PolicyRuntime} (h : rt.WF) :
    rt.trial_id = none ↔ rt.audit.active = none := by
  constructor
  · intro ht
    cases ha : rt.audit.active with
    | none => rfl
    | some active =>
        rw [(h.trial active ha).trial_id] at ht
        cases ht
  · exact fun ha => (h.idle ha).1

/-- A trial the runtime has is the recorded one. -/
theorem WF.recorded {rt : PolicyRuntime} (h : rt.WF) {trial_id : PyStr}
    (ht : rt.trial_id = some trial_id) :
    ∃ active, rt.audit.active = some active ∧ active.trial_id = trial_id ∧ rt.Recorded active := by
  cases ha : rt.audit.active with
  | none =>
      rw [(h.idle ha).1] at ht
      cases ht
  | some active =>
      have hr := h.trial active ha
      rw [hr.trial_id] at ht
      cases ht
      exact ⟨active, rfl, rfl, hr⟩

/-- Outside READY no lease is stored. -/
theorem WF.no_session {rt : PolicyRuntime} (h : rt.WF) (hst : rt.state ≠ .READY) :
    rt.session = none := by
  cases hs : rt.session with
  | none => rfl
  | some lease => exact absurd (h.lease lease hs).ready hst

/-- While the runtime is down no lease is stored. -/
theorem WF.no_session_of_down {rt : PolicyRuntime} (h : rt.WF) (hd : rt.state.down) :
    rt.session = none := by
  apply h.no_session
  intro hst
  rw [hst] at hd
  exact RuntimeState.READY_not_down hd

/-! ## §3. What keeps it. -/

/-- Construction: nothing is loaded, stored or recorded. -/
theorem WF.init (dirs : PyStr → Option TrialDir) :
    ({ audit := { dirs := dirs } } : PolicyRuntime).WF where
  lease := by simp
  idle := by simp
  trial := by simp
  ready := by simp
  held := by simp

/-- The skill and the trial are the same. -/
structure SameTrial (rt rt' : PolicyRuntime) : Prop where
  skill : rt'.active_skill = rt.active_skill
  identity : rt'.identity = rt.identity
  generation : rt'.generation = rt.generation
  trial_id : rt'.trial_id = rt.trial_id
  root_seed : rt'.trial_root_seed = rt.trial_root_seed

theorem SameTrial.refl (rt : PolicyRuntime) : SameTrial rt rt := ⟨rfl, rfl, rfl, rfl, rfl⟩

/-- The store only grew, and records the same trial up to its counters. -/
def SameRecord (st st' : TrialAuditStore) : Prop :=
  st.Grows st' ∧ (st'.active = st.active ∨
    ∃ a row, st.active = some a ∧ st'.active = some (a.counted row))

theorem SameRecord.refl (st : TrialAuditStore) : SameRecord st st :=
  ⟨TrialAuditStore.Grows.refl st, .inl rfl⟩

theorem Leased.frame {rt rt' : PolicyRuntime} {lease : SessionLease} (h : rt.Leased lease)
    (hsame : SameTrial rt rt') (hst : rt'.state = rt.state) (href : rt.refs ≤ rt'.refs) :
    rt'.Leased lease where
  ready := hst.trans h.ready
  active := h.active
  trial_id := hsame.trial_id.trans h.trial_id
  skill := hsame.skill.trans h.skill
  generation := h.generation.trans hsame.generation.symm
  ref := Nat.lt_of_lt_of_le h.ref href

theorem Recorded.frame {rt rt' : PolicyRuntime} {active active' : ActiveTrial}
    (h : rt.Recorded active) (hsame : SameTrial rt rt') (hg : rt.audit.Grows rt'.audit)
    (ha : active' = active ∨ ∃ row, active' = active.counted row) : rt'.Recorded active' := by
  have hr : rt'.Recorded active :=
    { trial_id := hsame.trial_id.trans h.trial_id
      skill := hsame.skill.trans h.skill
      generation := h.generation.trans hsame.generation.symm
      root_seed := hsame.root_seed.trans h.root_seed
      encodable := h.encodable
      directory := hg _ h.directory }
  rcases ha with rfl | ⟨row, rfl⟩
  · exact hr
  · exact ⟨hr.trial_id, hr.skill, hr.generation, hr.root_seed, hr.encodable, hr.directory⟩

theorem Loaded.frame {rt rt' : PolicyRuntime} {loaded : BackendIdentity} (h : rt.Loaded loaded)
    (hsame : SameTrial rt rt') : rt'.Loaded loaded where
  identity := hsame.identity.trans h.identity
  skill := hsame.skill.trans h.skill
  generation := by
    rw [hsame.generation]
    exact h.generation

/-- **The frame rule.**  A change that keeps skill, trial and record, and the
state unless the runtime goes down, only has to account for its lease. -/
theorem WF.frame {rt rt' : PolicyRuntime} (h : rt.WF) (hsame : SameTrial rt rt')
    (ha : SameRecord rt.audit rt'.audit) (hst : rt'.state = rt.state ∨ rt'.state.down)
    (hlease : ∀ lease, rt'.session = some lease → rt'.Leased lease) : rt'.WF where
  lease := hlease
  idle hn := by
    have hold : rt.audit.active = none := by
      rcases ha.2 with ha | ⟨a, row, -, ha⟩
      · exact ha.symm.trans hn
      · rw [ha] at hn
        cases hn
    exact ⟨hsame.trial_id.trans (h.idle hold).1, hsame.root_seed.trans (h.idle hold).2⟩
  trial a ha' := by
    rcases ha.2 with he | ⟨a₀, row, hold, he⟩
    · exact (h.trial a (he.symm.trans ha')).frame hsame ha.1 (.inl rfl)
    · rw [he] at ha'
      cases ha'
      exact (h.trial a₀ hold).frame hsame ha.1 (.inr ⟨row, rfl⟩)
  ready hr := by
    rcases hst with hst | hd
    · obtain ⟨i, hi⟩ := h.ready (hst.symm.trans hr)
      exact ⟨i, hi.frame hsame⟩
    · rw [hr] at hd
      exact absurd hd RuntimeState.READY_not_down
  held hh := by
    rcases hst with hst | hd
    · rw [hst]
      apply h.held
      rw [← hsame.trial_id]
      exact hh
    · exact .inr hd

/-- The lock and the counter of inferences in flight do not matter. -/
theorem WF.counters {rt : PolicyRuntime} (h : rt.WF) (lock : Option Nat) (n : Int) :
    ({ rt with execution_lock := lock, in_flight := n }).WF :=
  h.frame ⟨rfl, rfl, rfl, rfl, rfl⟩ (SameRecord.refl _) (.inl rfl) fun lease hl =>
    (h.lease lease hl).frame ⟨rfl, rfl, rfl, rfl, rfl⟩ rfl (Nat.le_refl _)

/-- Writing into the store. -/
theorem WF.audit {rt : PolicyRuntime} (h : rt.WF) {audit : TrialAuditStore}
    (ha : SameRecord rt.audit audit) : ({ rt with audit := audit }).WF :=
  h.frame ⟨rfl, rfl, rfl, rfl, rfl⟩ ha (.inl rfl) fun lease hl =>
    (h.lease lease hl).frame ⟨rfl, rfl, rfl, rfl, rfl⟩ rfl (Nat.le_refl _)

/-- Dropping the lease. -/
theorem WF.dropSession {rt : PolicyRuntime} (h : rt.WF) : ({ rt with session := none }).WF :=
  h.frame ⟨rfl, rfl, rfl, rfl, rfl⟩ (SameRecord.refl _) (.inl rfl) fun _ hl => by cases hl

/-- Failing. -/
theorem WF.failed {rt : PolicyRuntime} (h : rt.WF) (code : ErrorCode) : (rt.failed code).WF :=
  h.frame ⟨rfl, rfl, rfl, rfl, rfl⟩ (SameRecord.refl _) (.inr (rt.failed_down code))
    fun _ hl => by cases hl

/-- Stopping. -/
theorem WF.stopped {rt : PolicyRuntime} (h : rt.WF) : rt.stopped.WF :=
  h.frame ⟨rfl, rfl, rfl, rfl, rfl⟩ (SameRecord.refl _) (.inr (.inr rfl)) fun _ hl => by cases hl

/-- Opening a session. -/
theorem WF.opened {rt : PolicyRuntime} (h : rt.WF) (cfg : RuntimeConfig)
    {trial_id skill session_id token : PyStr} {now : ℚ} (hst : rt.state = .READY)
    (ht : rt.trial_id = some trial_id) (hsk : rt.active_skill = some skill) :
    ({ rt with session := some (newLease cfg rt trial_id skill session_id token now),
               refs := rt.refs + 1 }).WF :=
  h.frame ⟨rfl, rfl, rfl, rfl, rfl⟩ (SameRecord.refl _) (.inl rfl) fun lease hl => by
    cases hl
    exact ⟨hst, rfl, ht, hsk, rfl, Nat.lt_succ_self _⟩

/-- Advancing the stored lease. -/
theorem WF.next {rt : PolicyRuntime} (h : rt.WF) {lease : SessionLease}
    (hs : rt.session = some lease) : ({ rt with session := some lease.next }).WF :=
  h.frame ⟨rfl, rfl, rfl, rfl, rfl⟩ (SameRecord.refl _) (.inl rfl) fun l hl => by
    cases hl
    have hl := h.lease lease hs
    exact ⟨hl.ready, hl.active, hl.trial_id, hl.skill, hl.generation, hl.ref⟩

/-- Another state but READY, without a lease and without a trial. -/
theorem WF.idleState {rt : PolicyRuntime} (h : rt.WF) (ht : rt.trial_id = none)
    {st : RuntimeState} (hst : st ≠ .READY) :
    ({ rt with session := none, state := st }).WF where
  lease l hl := by cases hl
  idle := h.idle
  trial a ha := (h.trial a ha).frame ⟨rfl, rfl, rfl, rfl, rfl⟩
    (TrialAuditStore.Grows.refl _) (.inl rfl)
  ready hr := absurd hr hst
  held hh := absurd ht hh

/-- Loading a skill, without a lease and without a trial, in whatever state. -/
theorem WF.prepared {rt : PolicyRuntime} (h : rt.WF) (ht : rt.trial_id = none)
    (hs : rt.session = none) {skill : PyStr} {identity : BackendIdentity}
    (hid : identity.skill = skill) (st : RuntimeState) :
    ({ rt.prepared skill identity with state := st }).WF where
  lease l hl := by
    have hl : rt.session = some l := hl
    rw [hs] at hl
    cases hl
  idle := h.idle
  trial a ha := by
    have ha : rt.audit.active = some a := ha
    rw [h.trial_id_none_iff.mp ht] at ha
    cases ha
  ready _ := ⟨identity, rfl, by rw [hid]; rfl, Nat.succ_le_succ (Nat.zero_le _)⟩
  held hh := absurd ht hh

/-- Beginning a trial. -/
theorem WF.began {rt : PolicyRuntime} (h : rt.WF) (hst : rt.state = .READY)
    (ht : rt.trial_id = none) {trial_id skill : PyStr} {root_seed : Int} {audit : TrialAuditStore}
    (hsk : rt.active_skill = some skill)
    (henc : trial_id.encodable = true ∧ skill.encodable = true)
    (hd : (audit.dirs trial_id).isSome = true)
    (ha : audit.active = some { trial_id, skill, generation := rt.generation, root_seed }) :
    ({ rt with audit := audit, trial_id := some trial_id,
               trial_root_seed := some root_seed }).WF where
  lease l hl := by
    -- without a trial there was no lease
    have hl := (h.lease l hl).trial_id
    rw [ht] at hl
    cases hl
  idle hn := by
    have hn : audit.active = none := hn
    rw [ha] at hn
    cases hn
  trial a ha' := by
    have ha' : audit.active = some a := ha'
    rw [ha] at ha'
    cases ha'
    exact ⟨rfl, hsk, rfl, rfl, henc, hd⟩
  ready hr :=
    have ⟨i, hi⟩ := h.ready hr
    ⟨i, hi.identity, hi.skill, hi.generation⟩
  held _ := .inl hst

/-- Ending a trial, committed or not, without a lease. -/
theorem WF.trialOver {rt : PolicyRuntime} (h : rt.WF) (hs : rt.session = none)
    {audit : TrialAuditStore} (ha : audit.active = none) : (rt.trialOver audit).WF where
  lease l hl := by
    have hl : rt.session = some l := hl
    rw [hs] at hl
    cases hl
  idle _ := ⟨rfl, rfl⟩
  trial a ha' := by
    have ha' : audit.active = some a := ha'
    rw [ha] at ha'
    cases ha'
  ready hst :=
    have ⟨i, hi⟩ := h.ready hst
    ⟨i, hi.identity, hi.skill, hi.generation⟩
  held hh := absurd rfl hh

/-- An audit call that raised. -/
theorem AuditRaised.wf {rt rt' : PolicyRuntime} {e : Exn} (h : rt.WF) (hr : AuditRaised rt e rt') :
    rt'.WF := by
  cases hr with
  | fault f audit ha hg => exact (h.audit ⟨hg, .inl ha⟩).failed _
  | error e audit ha hg => exact h.audit ⟨hg, .inl ha⟩

end PolicyRuntime

end OvenRuntime
