/-
  OvenRuntime.Server.Solo
  ───────────────────────
  A call that no other call steps into.

  From a free execution lock such a call of `infer` gets to the policy exactly
  if its request names the stored lease and the lease is not over; otherwise it
  raises and leaves the runtime as it found it (`admission_exact`).
-/
import OvenRuntime.Server.Admission
import OvenRuntime.Server.Replay

namespace OvenRuntime

open TransitionSystem

variable {cfg : RuntimeConfig} {nx : Numerics}

/-! ## §1. One call after another. -/

/-- Every step is one of the call. -/
def Solo (id : Nat) (ls : List Label) : Prop := ∀ l ∈ ls, ∃ pc ch next, l = .step id pc ch next

/-- A call that has returned takes no step. -/
theorem Solo.returned {id : Nat} {ls : List Label} {s s' : Sys} {out : Except Exn Result}
    (h : Solo id ls) (hpath : Path (runtimeSystem cfg nx) s ls s')
    (hc : s.calls id = some (.returned out)) : ls = [] ∧ s' = s := by
  cases ls with
  | nil => exact ⟨rfl, hpath.nil_inv⟩
  | cons l ls =>
      obtain ⟨pc, ch, next, rfl⟩ := h l (List.mem_cons_self ..)
      obtain ⟨s₁, hst, -⟩ := hpath.cons_inv
      cases hst with
      | step hpc => cases hc.symm.trans hpc

/-- A running call that returns takes its next step first. -/
theorem Solo.running {id : Nat} {ls : List Label} {s s' : Sys} {pc : Pc} {out : Except Exn Result}
    (h : Solo id ls) (hpath : Path (runtimeSystem cfg nx) s ls s')
    (hc : s.calls id = some (.running pc)) (hout : s'.calls id = some (.returned out)) :
    ∃ ch rt' next ls', ls = .step id pc ch next :: ls' ∧
      callStep cfg nx id pc ch s.rt = some (rt', next) ∧
      Path (runtimeSystem cfg nx) (s.setCall rt' id next) ls' s' ∧ Solo id ls' := by
  cases ls with
  | nil =>
      rw [hpath.nil_inv, hc] at hout
      cases hout
  | cons l ls =>
      obtain ⟨pc', ch, next, rfl⟩ := h l (List.mem_cons_self ..)
      obtain ⟨s₁, hst, hrest⟩ := hpath.cons_inv
      cases hst with
      | step hpc hcs =>
          cases hc.symm.trans hpc
          exact ⟨ch, _, next, ls, rfl, hcs, hrest, fun l hl => h l (List.mem_cons_of_mem _ hl)⟩

/-! ## §2. Admission. -/

/-- The payload parses, and its request names a stored lease that is active
and not over at `now`. -/
def Admissible (nx : Numerics) (rt : PolicyRuntime) (payload : Value) (now : ℚ) : Prop :=
  ∃ request lease, InferenceRequest.parse nx.repr_fits payload = .ok request ∧
    rt.session = some lease ∧ lease.state = .ACTIVE ∧ now < lease.expires_at_monotonic ∧
    request.session_id = lease.session_id ∧ request.session_token = lease.token ∧
    request.trial_id = lease.trial_id ∧ request.expected_skill = lease.skill ∧
    request.expected_generation = lease.generation ∧ request.sequence = lease.next_sequence

/-- The payload gets to the lease check, and the lease is over. -/
def PolicyRuntime.overdue (nx : Numerics) (rt : PolicyRuntime) (payload : Value) (now : ℚ) : Bool :=
  (InferenceRequest.parse nx.repr_fits payload).isOk &&
    match rt.session with
    | some lease => decide (lease.expires_at_monotonic ≤ now)
    | none => false

/-- The runtime after a rejection: a lease found to be over is gone. -/
def PolicyRuntime.rejected (nx : Numerics) (rt : PolicyRuntime) (payload : Value) (now : ℚ) :
    PolicyRuntime :=
  if rt.overdue nx payload now then { rt with session := none } else rt

/-- The call gets to `self._backend.infer`. -/
def CallsPolicy (id : Nat) (ls : List Label) : Prop :=
  ∃ request lease_ref r next, Label.step id (.inferPolicy request lease_ref) (.inferred r) next ∈ ls

/-- What the lease check of a call reads from the clock. -/
def ReadsClock (id : Nat) (now : ℚ) (ls : List Label) : Prop :=
  ∀ request now' next, Label.step id (.inferEnter request) (.clock now') next ∈ ls → now' = now

/-- No wait for the execution lock times out. -/
def Patient (id : Nat) (ls : List Label) : Prop := ∀ pc next, Label.step id pc .timedOut next ∉ ls

/-- A request that names the lease agrees with the runtime as well. -/
theorem admitted_of_names {rt : PolicyRuntime} (hwf : rt.WF) {request : InferenceRequest}
    {lease : SessionLease} (hs : rt.session = some lease)
    (hid : request.session_id = lease.session_id) (htoken : request.session_token = lease.token)
    (htrial : request.trial_id = lease.trial_id) (hskill : request.expected_skill = lease.skill)
    (hgeneration : request.expected_generation = lease.generation)
    (hsequence : request.sequence = lease.next_sequence) :
    PolicyRuntime.Admitted rt request lease := by
  have hlease := hwf.lease lease hs
  refine ⟨hs, hlease.active, hid, htoken, htrial, ?_, hskill, ?_, hgeneration, ?_, hsequence,
    hlease.ready⟩
  · rw [hlease.trial_id, htrial]
  · rw [hlease.skill, hskill]
  · rw [hgeneration, hlease.generation]

/-- **The lease check** admits exactly the requests that name a live lease. -/
theorem inferEnter_exact {rt : PolicyRuntime} (hwf : rt.WF)
    (hascii : ∀ lease, rt.session = some lease → lease.token.isAscii = true) {payload : Value}
    {request : InferenceRequest}
    (hparse : InferenceRequest.parse nx.repr_fits payload = .ok request) (now : ℚ) :
    (Admissible nx rt payload now ∧ ∃ ref rt', rt.inferEnter request now = (.ok ref, rt')) ∨
    (¬ Admissible nx rt payload now ∧
      ∃ e, rt.inferEnter request now = (.error e, rt.rejected nx payload now)) := by
  cases hs : rt.session with
  | none =>
      have hkeep : rt.rejected nx payload now = rt := by
        simp [PolicyRuntime.rejected, PolicyRuntime.overdue, hs]
      rw [hkeep]
      obtain ⟨f, hf⟩ := PolicyRuntime.inferEnter_none (hwf.activeLease.trans hs) request now
      refine .inr ⟨?_, _, hf⟩
      rintro ⟨_, lease, -, hl, -⟩
      cases hs.symm.trans hl
  | some lease =>
      have hl := hwf.activeLease.trans hs
      by_cases hexp : lease.expires_at_monotonic ≤ now
      · have hdrop : rt.rejected nx payload now = { rt with session := none } := by
          simp [PolicyRuntime.rejected, PolicyRuntime.overdue, hs, hparse, hexp, Except.isOk,
            Except.toBool]
        rw [hdrop]
        obtain ⟨f, hf⟩ := PolicyRuntime.inferEnter_expired hl request hexp
        refine .inr ⟨?_, _, hf⟩
        rintro ⟨_, lease', -, hl', -, hlive, -⟩
        cases hs.symm.trans hl'
        exact Rat.not_le.mpr hlive hexp
      · have hkeep : rt.rejected nx payload now = rt := by
          simp [PolicyRuntime.rejected, PolicyRuntime.overdue, hs, hexp]
        rw [hkeep]
        -- a live lease: the fields decide
        have hnames : Admissible nx rt payload now → PolicyRuntime.Admitted rt request lease := by
          rintro ⟨request', lease', hparse', hl', -, -, h1, h2, h3, h4, h5, h6⟩
          cases hparse.symm.trans hparse'
          cases hs.symm.trans hl'
          exact admitted_of_names hwf hs h1 h2 h3 h4 h5 h6
        rcases PolicyRuntime.inferEnter_live hl request hexp with ⟨-, hasc, he⟩
          | ⟨-, hnot, f, hf⟩ | ⟨-, ha, hok⟩
        · refine .inr ⟨?_, _, he⟩
          intro hadm
          rw [(hnames hadm).session_token, hascii lease hs] at hasc
          cases hasc
        · exact .inr ⟨fun hadm => hnot (hnames hadm), _, hf⟩
        · refine .inl ⟨⟨request, lease, hparse, hs, ha.active, Rat.not_le.mp hexp, ha.session_id,
            ha.session_token, ha.lease_trial, ha.lease_skill, ha.lease_generation, ha.sequence⟩,
            _, _, hok⟩

/-- The lock that a rejected call took is free again. -/
theorem PolicyRuntime.rejected_unlock {rt : PolicyRuntime} (hlock : rt.execution_lock = none)
    (payload : Value) (now : ℚ) (id : Nat) :
    { ({ rt with execution_lock := some id } : PolicyRuntime).rejected nx payload now with
      execution_lock := none } = rt.rejected nx payload now := by
  have hsame : ({ rt with execution_lock := some id } : PolicyRuntime).overdue nx payload now
      = rt.overdue nx payload now := rfl
  unfold PolicyRuntime.rejected
  rw [hsame]
  cases rt.overdue nx payload now with
  | true => rw [if_pos rfl, if_pos rfl, ← hlock]
  | false => rw [if_neg Bool.false_ne_true, if_neg Bool.false_ne_true, ← hlock]

/-- The steps of a call whose request has parsed, up to the lease check. -/
theorem solo_enter {s s' : Sys} {id : Nat} {request : InferenceRequest} {ls : List Label}
    {out : Except Exn Result} {now : ℚ} (hpath : Path (runtimeSystem cfg nx) s ls s')
    (hsolo : Solo id ls) (hpatient : Patient id ls)
    (hclock : ReadsClock id now ls) (hc : s.calls id = some (.running (.inferAcquire request)))
    (hout : s'.calls id = some (.returned out)) :
    ∃ rt' next ls', ls = .step id (.inferAcquire request) .acquired
        (.running (.inferEnter request)) ::
          .step id (.inferEnter request) (.clock now) next :: ls' ∧
      callStep cfg nx id (.inferEnter request) (.clock now)
        { s.rt with execution_lock := some id } = some (rt', next) ∧
      Path (runtimeSystem cfg nx)
        ((s.setCall { s.rt with execution_lock := some id } id
          (.running (.inferEnter request))).setCall rt' id next) ls' s' ∧ Solo id ls' := by
  obtain ⟨ch, rt₁, next₁, ls₁, rfl, hcs, hpath₁, hsolo₁⟩ := hsolo.running hpath hc hout
  cases advance_of_callStep hcs with
  | inferTimeout => exact absurd (List.mem_cons_self ..) (hpatient _ _)
  | inferAcquire =>
      obtain ⟨ch₂, rt₂, next₂, ls₂, rfl, hcs₂, hpath₂, hsolo₂⟩ :=
        hsolo₁.running hpath₁ (Sys.setCall_self _ _ _ _) hout
      cases advance_of_callStep hcs₂ with
      | @inferEnter _ now' r _ he =>
          have hnow : now' = now :=
            hclock _ _ _ (List.mem_cons_of_mem _ (List.mem_cons_self ..))
          subst hnow
          exact ⟨_, _, ls₂, rfl, hcs₂, hpath₂, hsolo₂⟩

/-- **Admission is exact and rejection is free of effects.**  A call of
`infer`, alone from a free execution lock, gets to the policy exactly if its
request names the stored lease and the lease is not over.  Otherwise it raises,
and all it may have changed is to drop a lease that is over. -/
theorem admission_exact {ls : List Label} {s : Sys} (hrun : RuntimeRun cfg nx ls s)
    (hdraws : AsciiDraws ls) (hlock : s.rt.execution_lock = none) {id : Nat} {payload : Value}
    {now : ℚ} {ls' : List Label} {s' : Sys}
    (hpath : Path (runtimeSystem cfg nx) s (.call id (.infer payload) :: ls') s')
    (hsolo : Solo id ls') (hpatient : Patient id ls') (hclock : ReadsClock id now ls')
    {out : Except Exn Result} (hout : s'.calls id = some (.returned out)) :
    (CallsPolicy id ls' ↔ Admissible nx s.rt payload now) ∧
    (¬ CallsPolicy id ls' → (∃ e, out = .error e) ∧ s'.rt = s.rt.rejected nx payload now) := by
  obtain ⟨s₁, hst, hpath₁⟩ := hpath.cons_inv
  have hwf := (RuntimeRun.inv hrun).wf
  cases hst with
  | call hnew =>
      cases hparse : InferenceRequest.parse nx.repr_fits payload with
      | error e =>
          have hc : (s.setCall s.rt id (Op.start nx (.infer payload))).calls id
              = some (.returned (.error e)) := by
            rw [Sys.setCall_self, Op.start_infer, hparse]
          obtain ⟨rfl, rfl⟩ := hsolo.returned hpath₁ hc
          cases hc.symm.trans hout
          refine ⟨⟨?_, ?_⟩, fun _ => ⟨⟨e, rfl⟩, ?_⟩⟩
          · rintro ⟨_, _, _, _, hmem⟩
            cases hmem
          · rintro ⟨_, _, hparse', -⟩
            cases hparse.symm.trans hparse'
          · unfold PolicyRuntime.rejected PolicyRuntime.overdue
            rw [hparse]
            rfl
      | ok request =>
          have hc : (s.setCall s.rt id (Op.start nx (.infer payload))).calls id
              = some (.running (.inferAcquire request)) := by
            rw [Sys.setCall_self, Op.start_infer, hparse]
          obtain ⟨rt', next, ls₂, rfl, hcs, hpath₂, hsolo₂⟩ :=
            solo_enter hpath₁ hsolo hpatient hclock hc hout
          rcases inferEnter_exact (hwf.counters (some id) s.rt.in_flight)
              (fun lease hl => (hrun.ascii_lease hdraws hl).2) hparse now with
            ⟨hadm, ref, rt₂, he⟩ | ⟨hnot, e, he⟩
          · -- admitted: the next step is the one of the policy
            cases advance_of_callStep hcs with
            | inferEnter he' =>
                cases he'.symm.trans he
                obtain ⟨ch, rt₃, next₃, ls₃, rfl, hcs₃, -, -⟩ :=
                  hsolo₂.running hpath₂ (Sys.setCall_self _ _ _ _) hout
                have hcalls : CallsPolicy id (.step id (.inferAcquire request) .acquired
                    (.running (.inferEnter request)) :: .step id (.inferEnter request) (.clock now)
                      (.running (.inferPolicy request ref)) ::
                        .step id (.inferPolicy request ref) ch next₃ :: ls₃) := by
                  cases advance_of_callStep hcs₃ with
                  | inferRaise =>
                      exact ⟨_, _, _, _, List.mem_cons_of_mem _
                        (List.mem_cons_of_mem _ (List.mem_cons_self ..))⟩
                  | inferPolicy =>
                      exact ⟨_, _, _, _, List.mem_cons_of_mem _
                        (List.mem_cons_of_mem _ (List.mem_cons_self ..))⟩
                exact ⟨⟨fun _ => hadm, fun _ => hcalls⟩, fun hno => absurd hcalls hno⟩
          · cases advance_of_callStep hcs with
            | inferEnter he' =>
                cases he'.symm.trans he
                obtain ⟨ch, rt₃, next₃, ls₃, rfl, hcs₃, hpath₃, hsolo₃⟩ :=
                  hsolo₂.running hpath₂ (Sys.setCall_self _ _ _ _) hout
                cases advance_of_callStep hcs₃ with
                | inferRelease =>
                    obtain ⟨rfl, rfl⟩ := hsolo₃.returned hpath₃ (Sys.setCall_self _ _ _ _)
                    cases (Sys.setCall_self _ _ _ _).symm.trans hout
                    refine ⟨⟨?_, fun hadm => absurd hadm hnot⟩,
                      fun _ => ⟨⟨e, rfl⟩, PolicyRuntime.rejected_unlock hlock payload now id⟩⟩
                    rintro ⟨_, _, _, _, hmem⟩
                    simp at hmem

/-- The test of a script for a call that runs alone. -/
def Label.alone (id : Nat) (now : ℚ) : Label → Bool
  | .step id' _ ch _ => id' == id &&
      match ch with
      | .timedOut => false
      | .clock now' => now' == now
      | _ => true
  | .call .. => false

/-- The step is the policy's answer. -/
def Label.answersPolicy (id : Nat) : Label → Bool
  | .step id' (.inferPolicy ..) (.inferred _) _ => id' == id
  | _ => false

theorem alone_of_all {id : Nat} {now : ℚ} {ls : List Label}
    (h : ls.all (Label.alone id now) = true) : Solo id ls ∧ Patient id ls ∧ ReadsClock id now ls := by
  have halone : ∀ l ∈ ls, l.alone id now = true := List.all_eq_true.mp h
  refine ⟨?_, ?_, ?_⟩
  · intro l hl
    have hl' := halone l hl
    cases l with
    | call => cases hl'
    | step id' pc ch next =>
        have hid : id' = id := by simpa using (Bool.and_eq_true_iff.mp hl').1
        exact ⟨pc, ch, next, by rw [hid]⟩
  · intro pc next hmem
    have := (Bool.and_eq_true_iff.mp (halone _ hmem)).2
    cases this
  · intro request now' next hmem
    have := (Bool.and_eq_true_iff.mp (halone _ hmem)).2
    simpa using this

theorem callsPolicy_of_any {id : Nat} {ls : List Label}
    (h : ls.any (Label.answersPolicy id) = true) : CallsPolicy id ls := by
  obtain ⟨l, hl, htest⟩ := List.any_eq_true.mp h
  unfold Label.answersPolicy at htest
  split at htest
  · rename_i id' request ref r next
    have hid : id' = id := by simpa using htest
    subst hid
    exact ⟨request, ref, r, next, hl⟩
  · cases htest

/-- The first inference of a session gets to the policy. -/
theorem admission_exact_first : ∃ ls s ls' s' out,
    RuntimeRun defaultConfig constNumerics ls s ∧
    Path (runtimeSystem defaultConfig constNumerics) s (.call 3 (.infer (samplePayload 0)) :: ls')
      s' ∧
    s'.calls 3 = some (.returned out) ∧ CallsPolicy 3 ls' ∧
    Admissible constNumerics s.rt (samplePayload 0) 1 := by
  have h : (((Sys.initial fun _ => none).replay defaultConfig constNumerics
      (warmUp sampleId sampleToken)).bind fun r =>
        ((r.2.setCall r.2.rt 3 ((Op.infer (samplePayload 0)).start constNumerics)).replay defaultConfig
          constNumerics (inferMoves 3 0).tail).map fun q =>
            r.1.all Label.drawsAscii && (r.2.calls 3).isNone && r.2.rt.execution_lock.isNone &&
              (q.1.all (Label.alone 3 1) && q.1.any (Label.answersPolicy 3) &&
                (q.2.response 3).isSome)) = some true := by decide +kernel
  obtain ⟨⟨ls, s⟩, hr, hq⟩ := Option.bind_eq_some_iff.mp h
  obtain ⟨⟨ls', s'⟩, hr', htest⟩ := Option.map_eq_some_iff.mp hq
  simp only [Bool.and_eq_true, Option.isNone_iff_eq_none, Option.isSome_iff_exists] at htest
  obtain ⟨⟨⟨hdraws, hnew⟩, hlock⟩, ⟨halone, hpolicy⟩, response, hresponse⟩ := htest
  have hrun := Sys.replay_run hr
  have hpath : Path (runtimeSystem defaultConfig constNumerics) s
      (.call 3 (.infer (samplePayload 0)) :: ls') s' :=
    .cons (Step.call hnew) (Sys.replay_path hr')
  have hout := Sys.calls_of_response hresponse
  obtain ⟨hsolo, hpatient, hclock⟩ := alone_of_all halone
  have hcalls := callsPolicy_of_any hpolicy
  exact ⟨ls, s, ls', s', _, hrun, hpath, hout, hcalls,
    (admission_exact hrun (asciiDraws_of_all hdraws) hlock hpath hsolo hpatient hclock hout).1.mp
      hcalls⟩

end OvenRuntime
