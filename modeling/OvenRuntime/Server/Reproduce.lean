/-
  OvenRuntime.Server.Reproduce
  ────────────────────────────
  Reproducible trials.

  The backend is a deterministic machine: a policy, and a generator that every
  inference advances.  The runtime drives it, and nothing the runtime lets
  through between `begin_trial` and the last response of a trial touches the
  generator but the admitted requests of that trial (`GeneratorInv`).  The
  responses of a trial are therefore the outputs of the machine on the
  observations admitted under it, from the state that skill and root seed
  fix, whatever happened before (`TrialHistory`).
-/
import OvenRuntime.Server.Evidence
import OvenRuntime.Server.Switching
import OvenRuntime.Lib.Mealy

namespace OvenRuntime

open TransitionSystem

/-! ## §1. The backend as a machine. -/

/-- A deterministic policy backend. -/
structure BackendMachine (Policy Generator : Type) where
  prepare : PyStr → Policy × Generator
  reset_prng : Int → Generator
  infer : Policy → Generator → Dict → BackendResult × Generator

variable {Policy Generator : Type}

/-- The section of `begin_trial` gets as far as the reset of the generator. -/
def PolicyRuntime.resets (rt : PolicyRuntime) : Prop :=
  rt.state = .READY ∧ rt.trial_id = none ∧ rt.active_skill ≠ none

instance (rt : PolicyRuntime) : Decidable rt.resets :=
  inferInstanceAs (Decidable (rt.state = .READY ∧ rt.trial_id = none ∧ rt.active_skill ≠ none))

/-- What a step of the runtime does to the policy and the generator of its
backend.  A backend call that raises leaves what it was about to set in any
state; a closed backend may be in any state. -/
def BackendMachine.Drives (b : BackendMachine Policy Generator) (rt : PolicyRuntime) :
    Label → Policy × Generator → Policy × Generator → Prop
  | .step _ (.prepareLoad skill) (.loaded (.ok _)) _, _, m' => m' = b.prepare skill
  | .step _ (.prepareLoad _) (.loaded (.error _)) _, _, _ => True
  | .step _ (.beginSection _ root_seed) (.begun reset _) _, m, m' =>
      if rt.resets then
        m'.1 = m.1 ∧ (reset.toBool = true → m'.2 = b.reset_prng root_seed)
      else m' = m
  | .step _ (.inferPolicy request _) (.inferred (.ok result)) _, m, m' =>
      m'.1 = m.1 ∧ (result, m'.2) = b.infer m.1 m.2 request.observation
  | .step _ (.inferPolicy _ _) (.inferred (.error _)) _, m, m' => m'.1 = m.1
  | .step _ (.closeBackend _) _ _, _, _ => True
  | _, m, m' => m' = m

/-- The runtime together with the machine it drives. -/
def drivenSystem (cfg : RuntimeConfig) (nx : Numerics) (b : BackendMachine Policy Generator) :
    System (Sys × Policy × Generator) Label where
  init x := (runtimeSystem cfg nx).init x.1
  step x l x' := Step cfg nx x.1 l x'.1 ∧ b.Drives x.1.rt l x.2 x'.2

/-- A history of the runtime over the machine. -/
abbrev DrivenRun (cfg : RuntimeConfig) (nx : Numerics) (b : BackendMachine Policy Generator) :
    List Label → Sys × Policy × Generator → Prop :=
  Run (drivenSystem cfg nx b)

/-- It is a history of the runtime. -/
theorem DrivenRun.runtime {cfg : RuntimeConfig} {nx : Numerics}
    {b : BackendMachine Policy Generator} {ls : List Label} {x : Sys × Policy × Generator}
    (h : DrivenRun cfg nx b ls x) : RuntimeRun cfg nx ls x.1 :=
  Run.map (M := runtimeSystem cfg nx) (N := drivenSystem cfg nx b) Prod.fst
    (fun _ hi => hi) (fun _ _ _ hs => hs.1) h

/-- The results of a trial, by skill, root seed and observations. -/
def BackendMachine.results (b : BackendMachine Policy Generator) (skill : PyStr) (root_seed : Int)
    (observations : List Dict) : List BackendResult :=
  Mealy.outputs (b.infer (b.prepare skill).1) (b.reset_prng root_seed) observations

/-- The generator in a trial, by skill, root seed and observations so far. -/
def BackendMachine.generator (b : BackendMachine Policy Generator) (skill : PyStr)
    (root_seed : Int) (observations : List Dict) : Generator :=
  Mealy.after (b.infer (b.prepare skill).1) (b.reset_prng root_seed) observations

/-! ## §2. The policy. -/

/-- The skill whose policy a call has loaded and not committed yet. -/
def Pc.prepared : Pc → Option PyStr
  | .prepareRelease skill (.ok _) => some skill
  | .prepareCommit skill _ => some skill
  | _ => none

theorem Pc.preparing_of_prepared {pc : Pc} {skill : PyStr} (h : pc.prepared = some skill) :
    pc.preparing = some .LOADING := by
  cases pc <;> first | rfl | cases h

/-- Only loading a skill starts to prepare it. -/
theorem Advance.prepared {cfg : RuntimeConfig} {nx : Numerics} {id : Nat}
    {rt rt' : PolicyRuntime} {pc pc' : Pc} {ch : Choice} {next : CallState} {skill : PyStr}
    (h : Advance cfg nx id rt pc ch rt' next) (hn : next = .running pc')
    (hp : pc'.prepared = some skill) :
    pc.prepared = some skill ∨ ∃ identity, pc = .prepareLoad skill ∧ ch = .loaded (.ok identity) := by
  cases h with
  | @prepareLoad skill' identity _ =>
      cases hn
      cases hp
      exact .inr ⟨identity, rfl, rfl⟩
  | @prepareRelease skill' loaded =>
      cases loaded with
      | error e => cases hn
      | ok identity =>
          cases hn
          exact .inl hp
  | @prepareEnter _ _ _ _ r _ _ | @prepareDrain _ _ _ r =>
      cases r with
      | error e => cases hn
      | ok d => cases d <;> cases hn <;> cases hp
  | @beginSection _ _ _ _ r =>
      cases r with
      | ok st => cases hn; cases hp
      | error e => cases e <;> cases hn <;> cases hp
  | @inferEnter _ _ r => cases r <;> cases hn <;> cases hp
  | @inferRecord _ _ r => cases r <;> cases hn <;> cases hp
  | @closeSection _ r => cases r <;> cases hn; cases hp
  | @closeBackend audit_error => cases audit_error <;> cases hn
  | _ => first | (cases hn; cases hp) | cases hn

/-- The backend is closed once the runtime is. -/
theorem Advance.closed {cfg : RuntimeConfig} {nx : Numerics} {id : Nat}
    {rt rt' : PolicyRuntime} {pc : Pc} {ch : Choice} {next : CallState} {e : Option Exn}
    (h : Advance cfg nx id rt pc ch rt' next) (hn : next = .running (.closeBackend e)) :
    rt'.state.down := by
  cases h with
  | @closeSection io r _ he =>
      rcases rt.closeSection_cases io with ⟨r', audit, -, -, hc⟩ | ⟨r', audit, -, -, hc⟩ <;>
        cases he.symm.trans hc <;> exact .inr rfl
  | @prepareRelease _ loaded => cases loaded <;> cases hn
  | @prepareEnter _ _ _ _ r _ _ | @prepareDrain _ _ _ r =>
      cases r with
      | error e => cases hn
      | ok d => cases d <;> cases hn
  | @beginSection _ _ _ _ r =>
      cases r with
      | ok st => cases hn
      | error e => cases e <;> cases hn
  | @inferEnter _ _ r => cases r <;> cases hn
  | @inferRecord _ _ r => cases r <;> cases hn
  | @closeBackend audit_error => cases audit_error <;> cases hn
  | _ => cases hn

theorem Op.start_closed {nx : Numerics} {op : Op} {e : Option Exn} :
    op.start nx ≠ .running (.closeBackend e) := by
  intro h
  unfold Op.start at h
  split at h
  all_goals (try split at h) <;> (try split at h) <;> cases h

/-- Only loading a skill and closing touch the policy. -/
theorem BackendMachine.Drives.policy {b : BackendMachine Policy Generator} {rt : PolicyRuntime}
    {id : Nat} {pc : Pc} {ch : Choice} {next : CallState} {m m' : Policy × Generator}
    (h : b.Drives rt (.step id pc ch next) m m') (hload : ∀ skill, pc ≠ .prepareLoad skill)
    (hclose : ∀ e, pc ≠ .closeBackend e) : m'.1 = m.1 := by
  unfold BackendMachine.Drives at h
  split at h
  · rename_i heq
    cases heq
    exact absurd rfl (hload _)
  · rename_i heq
    cases heq
    exact absurd rfl (hload _)
  · split at h
    · exact h.1
    · rw [h]
  · exact h.1
  · exact h
  · rename_i heq
    cases heq
    exact absurd rfl (hclose _)
  · rw [h]

/-- **The backend holds the policy of the loaded skill**, and a call about to
commit a skill has loaded its policy. -/
structure PolicyInv (b : BackendMachine Policy Generator) (s : Sys) (m : Policy × Generator) :
    Prop where
  loaded : s.rt.state = .READY → ∀ skill, s.rt.active_skill = some skill →
    m.1 = (b.prepare skill).1
  prepared : ∀ id pc skill, s.calls id = some (.running pc) → pc.prepared = some skill →
    s.rt.state.down ∨ m.1 = (b.prepare skill).1
  closed : ∀ id e, s.calls id = some (.running (.closeBackend e)) → s.rt.state.down

/-- **Every step keeps the policy.** -/
theorem PolicyInv.step {cfg : RuntimeConfig} {nx : Numerics} {b : BackendMachine Policy Generator}
    {s s' : Sys} {l : Label} {m m' : Policy × Generator} (h : PolicyInv b s m) (hinv : SysInv s)
    (hst : Step cfg nx s l s') (hd : b.Drives s.rt l m m') : PolicyInv b s' m' := by
  rcases step_cases hst with ⟨id, op, rfl, -, rfl⟩ | ⟨id, pc, ch, rt', next, rfl, hpc, ha, rfl⟩
  · -- a call that begins has loaded nothing
    have hm : m' = m := hd
    subst hm
    refine ⟨h.loaded, ?_, ?_⟩
    · intro j pc skill hj hp
      rcases Sys.setCall_calls_eq hj with ⟨-, hn⟩ | ⟨-, hold⟩
      · have hnone := (Op.start_preparing hn.symm).1
        rw [Pc.preparing_of_prepared hp] at hnone
        cases hnone
      · exact h.prepared j pc skill hold hp
    · intro j e hj
      rcases Sys.setCall_calls_eq hj with ⟨-, hn⟩ | ⟨-, hold⟩
      · exact absurd hn.symm Op.start_closed
      · exact h.closed j e hold
  · have hdown : s.rt.state.down → rt'.state.down := ha.effect.down
    have hclosed : ∀ j e, (s.setCall rt' id next).calls j = some (.running (.closeBackend e)) →
        rt'.state.down := by
      intro j e hj
      rcases Sys.setCall_calls_eq hj with ⟨-, hn⟩ | ⟨-, hold⟩
      · exact ha.closed hn.symm
      · exact hdown (h.closed j e hold)
    by_cases hclose : ∃ e, pc = .closeBackend e
    · -- the backend is gone, and so is the runtime
      obtain ⟨e, rfl⟩ := hclose
      have hd' := hdown (h.closed id e hpc)
      refine ⟨?_, fun _ _ _ _ _ => .inl hd', hclosed⟩
      intro hready
      rw [show rt'.state = .READY from hready] at hd'
      exact absurd hd' RuntimeState.READY_not_down
    by_cases hload : ∃ skill, pc = .prepareLoad skill
    · -- loading: nobody else prepares, and the runtime is not READY
      obtain ⟨skill, rfl⟩ := hload
      obtain ⟨-, hloading⟩ := hinv.preparing id _ .LOADING hpc rfl
      have hrt : rt' = s.rt := by
        cases ha <;> rfl
      subst hrt
      refine ⟨?_, ?_, hclosed⟩
      · intro hready
        rcases hloading with hs | hs
        · exact absurd (hs.symm.trans hready) (by decide)
        · rw [show s.rt.state = .READY from hready] at hs
          exact absurd hs RuntimeState.READY_not_down
      · intro j pc' skill' hj hp
        rcases Sys.setCall_calls_eq hj with ⟨-, hn⟩ | ⟨hne, hold⟩
        · rcases ha.prepared hn.symm hp with hp | ⟨identity, heq, rfl⟩
          · cases hp
          · cases heq
            right
            have hm : m' = b.prepare skill := hd
            rw [hm]
        · by_cases hdn : s.rt.state.down
          · exact .inl hdn
          · have := hinv.sole hdn hpc rfl j pc' hne hold
            rw [Pc.preparing_of_prepared hp] at this
            cases this
    -- every other step keeps the policy
    have hpol : m'.1 = m.1 := hd.policy (fun skill heq => hload ⟨skill, heq⟩)
      (fun e heq => hclose ⟨e, heq⟩)
    have hprep : ∀ j pc' skill, (s.setCall rt' id next).calls j = some (.running pc') →
        pc'.prepared = some skill → rt'.state.down ∨ m'.1 = (b.prepare skill).1 := by
      intro j pc' skill hj hp
      rw [hpol]
      have hold : ∃ i pc₀, s.calls i = some (.running pc₀) ∧ pc₀.prepared = some skill := by
        rcases Sys.setCall_calls_eq hj with ⟨-, hn⟩ | ⟨-, hold⟩
        · rcases ha.prepared hn.symm hp with hp | ⟨_, heq, -⟩
          · exact ⟨id, pc, hpc, hp⟩
          · exact absurd ⟨skill, heq⟩ hload
        · exact ⟨j, pc', hold, hp⟩
      obtain ⟨i, pc₀, hi, hp₀⟩ := hold
      exact (h.prepared i pc₀ skill hi hp₀).imp hdown fun h => h
    refine ⟨?_, hprep, hclosed⟩
    intro hready skill hskill
    rw [hpol]
    by_cases hcommit : ∃ skill identity, pc = .prepareCommit skill identity
    · obtain ⟨skill', identity, rfl⟩ := hcommit
      cases ha with
      | @prepareCommit _ _ r _ he =>
          have hready : rt'.state = .READY := hready
          have hskill : rt'.active_skill = some skill := hskill
          rcases s.rt.prepareCommit_cases skill' identity with ⟨st, hload', hc⟩ | ⟨e, hload', hc⟩
          · cases he.symm.trans hc
            cases hskill
            rcases h.prepared id _ skill hpc rfl with hdn | hp
            · rw [hload'] at hdn
              exact absurd hdn (by decide)
            · exact hp
          · cases he.symm.trans hc
            rcases (hinv.preparing id _ .LOADING hpc rfl).2 with hs | hs
            · exact absurd hs hload'
            · rw [show s.rt.state = .READY from hready] at hs
              exact absurd hs RuntimeState.READY_not_down
    · obtain ⟨hsame, hback⟩ := ha.keepsLoaded fun skill identity heq => hcommit ⟨_, _, heq⟩
      have hactive : rt'.active_skill = s.rt.active_skill := congrArg (fun t => t.1) hsame
      exact h.loaded (hback hready) skill (hactive.symm.trans hskill)

theorem DrivenRun.policyInv {cfg : RuntimeConfig} {nx : Numerics}
    {b : BackendMachine Policy Generator} {ls : List Label} {x : Sys × Policy × Generator}
    (h : DrivenRun cfg nx b ls x) : PolicyInv b x.1 x.2 := by
  refine Run.invariant (fun _ x => PolicyInv b x.1 x.2) ?_ ?_ h
  · rintro ⟨s, m⟩ ⟨dirs, rfl⟩
    exact ⟨by simp [PolicyRuntime.init], by simp, by simp⟩
  · intro ls x l x' hrun hinv hst
    exact hinv.step (RuntimeRun.inv (DrivenRun.runtime hrun)) hst.1 hst.2

/-! ## §3. Admitted requests. -/

/-- The request a step admits. -/
def Label.admits : Label → Option InferenceRequest
  | .step _ (.inferEnter request) _ (.running (.inferPolicy _ _)) => some request
  | _ => none

/-- The requests admitted under a trial, in order. -/
def admittedUnder (ls : List Label) (trial_id : PyStr) : List InferenceRequest :=
  Keyed.valuesAt InferenceRequest.trial_id (fun r => r) (ls.filterMap Label.admits) trial_id

/-- The observations admitted under a trial. -/
def admittedObservations (ls : List Label) (trial_id : PyStr) : List Dict :=
  (admittedUnder ls trial_id).map (·.observation)

/-- The observations answered under a trial. -/
def answeredObservations (ls : List Label) (trial_id : PyStr) : List Dict :=
  (answersUnder ls trial_id).map (·.request.observation)

theorem admittedObservations_snoc_none {ls : List Label} {l : Label} (h : l.admits = none) :
    admittedObservations (ls ++ [l]) = admittedObservations ls := by
  unfold admittedObservations admittedUnder
  simp [List.filterMap_append, h]

theorem admittedObservations_snoc_self {ls : List Label} {l : Label} {request : InferenceRequest}
    (h : l.admits = some request) : admittedObservations (ls ++ [l]) request.trial_id
      = admittedObservations ls request.trial_id ++ [request.observation] := by
  unfold admittedObservations admittedUnder
  rw [List.filterMap_append, List.filterMap_cons_some h]
  have hsnoc : Keyed.valuesAt InferenceRequest.trial_id (fun r => r)
      (ls.filterMap Label.admits ++ [request]) request.trial_id
      = admittedUnder ls request.trial_id ++ [request] := Keyed.valuesAt_snoc_self _ _
  rw [List.filterMap_nil, hsnoc, List.map_append]
  rfl

theorem admittedObservations_snoc_other {ls : List Label} {l : Label} {request : InferenceRequest}
    {trial_id : PyStr} (h : l.admits = some request) (hne : request.trial_id ≠ trial_id) :
    admittedObservations (ls ++ [l]) trial_id = admittedObservations ls trial_id := by
  unfold admittedObservations admittedUnder
  rw [List.filterMap_append, List.filterMap_cons_some h]
  exact congrArg _ (Keyed.valuesAt_snoc_other hne)

/-- Requests are only ever admitted. -/
theorem admittedObservations_mono (ls : List Label) (l : Label) (trial_id : PyStr) :
    admittedObservations ls trial_id <+: admittedObservations (ls ++ [l]) trial_id := by
  cases hl : l.admits with
  | none =>
      exact ⟨[], by rw [List.append_nil, admittedObservations_snoc_none hl]⟩
  | some request =>
      by_cases ht : request.trial_id = trial_id
      · rw [← ht, admittedObservations_snoc_self hl]
        exact List.prefix_append _ _
      · exact ⟨[], by rw [List.append_nil, admittedObservations_snoc_other hl ht]⟩

theorem answeredObservations_snoc_none {ls : List Label} {l : Label} (h : l.answer = none) :
    answeredObservations (ls ++ [l]) = answeredObservations ls := by
  unfold answeredObservations
  rw [answersUnder_snoc_none h]

theorem answeredObservations_snoc_self {ls : List Label} {l : Label} {id : Nat}
    {inf : PolicyRuntime.Inference} (h : l.answer = some (id, inf)) :
    answeredObservations (ls ++ [l]) inf.request.trial_id
      = answeredObservations ls inf.request.trial_id ++ [inf.request.observation] := by
  unfold answeredObservations
  rw [answersUnder_snoc_self h, List.map_append]
  rfl

theorem answeredObservations_snoc_other {ls : List Label} {l : Label} {id : Nat}
    {inf : PolicyRuntime.Inference} {trial_id : PyStr} (h : l.answer = some (id, inf))
    (hne : inf.request.trial_id ≠ trial_id) :
    answeredObservations (ls ++ [l]) trial_id = answeredObservations ls trial_id := by
  unfold answeredObservations
  rw [answersUnder_snoc_other h hne]

/-! ## §4. Requests without an answer. -/

/-- The admitted request a call has no answer for. -/
def CallState.unanswered : CallState → Option (InferenceRequest × Nat)
  | .running pc => pc.unanswered
  | .returned _ => none

/-- The inference of a call whose policy has run, before it is answered. -/
def Pc.ran : Pc → Option PolicyRuntime.Inference
  | .inferRecord inf => some inf
  | .inferFinish inf => some inf
  | _ => none

theorem CallState.serving_of_unanswered {c : CallState} {p : InferenceRequest × Nat}
    (h : c.unanswered = some p) : c.serving = some p := by
  cases c with
  | running pc => exact Pc.serving_of_unanswered h
  | returned out => cases h

theorem CallState.unanswered_none_of_serving {c : CallState} (h : c.serving = none) :
    c.unanswered = none := by
  cases hu : c.unanswered with
  | none => rfl
  | some p =>
      rw [CallState.serving_of_unanswered hu] at h
      cases h

theorem Pc.unanswered_of_ran {pc : Pc} {inf : PolicyRuntime.Inference} (h : pc.ran = some inf) :
    pc.unanswered = some (inf.request, inf.lease_ref) := by
  cases pc <;> cases h <;> rfl

/-- What a request in service is, by where its call is. -/
theorem Pc.unanswered_eq (pc : Pc) :
    pc.unanswered = pc.entered ∨ ∃ request ref, pc = .inferPolicy request ref := by
  cases pc <;> first | exact .inr ⟨_, _, rfl⟩ | exact .inl rfl

theorem Pc.unanswered_of_entry {pc : Pc} (h : pc.entry = none) : pc.unanswered = pc.entered := by
  rcases pc.unanswered_eq with h' | ⟨request, ref, rfl⟩
  · exact h'
  · cases h

theorem CallState.unanswered_of_entry {c : CallState} (h : c.entry = none) :
    c.unanswered = c.entered := by
  cases c with
  | running pc => exact Pc.unanswered_of_entry h
  | returned out => rfl

/-- A call waits for the policy only once its request is admitted. -/
theorem Effect.waiting {id : Nat} {rt rt' : PolicyRuntime} {pc : Pc} {next : CallState}
    {request : InferenceRequest} {ref : Nat} (h : Effect id rt pc rt' next)
    (hn : next = .running (.inferPolicy request ref)) :
    pc = .inferEnter request ∧ ∃ lease, PolicyRuntime.Admitted rt request lease := by
  cases h with
  | frame _ _ _ _ _ _ _ hentry =>
      rw [hn] at hentry
      cases hentry
  | acquire _ _ _ _ _ hs =>
      cases hn
      cases hs
  | release _ _ _ hs =>
      rw [hn] at hs
      cases hs
  | entered _ he =>
      rw [hn] at he
      cases he
  | admitted hadm =>
      cases hn
      exact ⟨rfl, _, hadm⟩
  | began | opened | refused | finished | left => cases hn

/-- **In a live runtime** a step leaves its call with the request it had, or
admits one, or answers it. -/
theorem Effect.unanswered {id : Nat} {rt rt' : PolicyRuntime} {pc : Pc} {next : CallState}
    (h : Effect id rt pc rt' next) (hlive : ¬ rt'.state.down) :
    (next.unanswered = pc.unanswered ∧ ∀ request ref, next ≠ .running (.inferPolicy request ref)) ∨
    (∃ request lease, pc = .inferEnter request ∧ PolicyRuntime.Admitted rt request lease ∧
      rt' = { rt with in_flight := rt.in_flight + 1 } ∧
      next = .running (.inferPolicy request lease.ref)) ∨
    (∃ inf lease, pc = .inferFinish inf ∧ rt.session = some lease ∧ lease.ref = inf.lease_ref ∧
      rt' = { rt with session := some lease.next } ∧
      next = .running (.inferLeave inf.request inf.lease_ref (.ok inf.response))) := by
  cases h with
  | admitted hadm => exact .inr (.inl ⟨_, _, rfl, hadm, rfl, rfl⟩)
  | finished hs href => exact .inr (.inr ⟨_, _, rfl, hs, href, rfl, rfl⟩)
  | refused => exact absurd (rt.failed_down _) hlive
  | @frame _ _ _ _ _ _ he _ _ hentry hentry' =>
      refine .inl ⟨?_, ?_⟩
      · rw [CallState.unanswered_of_entry hentry', he, Pc.unanswered_of_entry hentry]
      · rintro request ref rfl
        cases hentry'
  | acquire _ _ hs _ _ hs' =>
      refine .inl ⟨?_, ?_⟩
      · have h1 := CallState.unanswered_none_of_serving (c := .running _) hs
        exact (CallState.unanswered_none_of_serving (c := .running _) hs').trans h1.symm
      · intro request ref hn
        cases hn
        cases hs'
  | release _ hs _ hs' =>
      refine .inl ⟨?_, ?_⟩
      · have h1 := CallState.unanswered_none_of_serving (c := .running pc) hs
        exact (CallState.unanswered_none_of_serving hs').trans h1.symm
      · rintro request ref rfl
        cases hs'
  | entered _ he =>
      have hentry : next.entry = none := by
        cases next with
        | returned out => rfl
        | running pc => exact Pc.entry_none_of_entered he
      refine .inl ⟨?_, ?_⟩
      · rw [CallState.unanswered_of_entry hentry, he]
        rfl
      · rintro request ref rfl
        cases he
  | began | opened | left => exact .inl ⟨rfl, fun _ _ hn => by cases hn⟩

/-- An inference that has run was hashed and recorded on the way. -/
theorem Advance.ran {cfg : RuntimeConfig} {nx : Numerics} {id : Nat}
    {rt rt' : PolicyRuntime} {pc pc' : Pc} {ch : Choice} {next : CallState}
    {inf : PolicyRuntime.Inference} (h : Advance cfg nx id rt pc ch rt' next)
    (hn : next = .running pc') (hr : pc'.ran = some inf) :
    pc.ran = some inf ∨ ∃ ref, pc = .inferPolicy inf.request ref ∧
      ch = .inferred (.ok inf.result) ∧ PolicyRuntime.Hashed nx inf := by
  cases h with
  | inferPolicy hinf =>
      cases hn
      cases hr
      obtain ⟨rfl, -, rfl, hashed⟩ := PolicyRuntime.hashInference_ok hinf
      exact .inr ⟨_, rfl, rfl, hashed⟩
  | @inferRecord inf' _ r =>
      cases r with
      | ok u =>
          cases hn
          exact .inl hr
      | error e => cases hn; cases hr
  | @prepareRelease _ loaded => cases loaded <;> cases hn; cases hr
  | @prepareEnter _ _ _ _ r _ _ | @prepareDrain _ _ _ r =>
      cases r with
      | error e => cases hn
      | ok d => cases d <;> cases hn <;> cases hr
  | @beginSection _ _ _ _ r =>
      cases r with
      | ok st => cases hn; cases hr
      | error e => cases e <;> cases hn <;> cases hr
  | @inferEnter _ _ r => cases r <;> cases hn <;> cases hr
  | @closeSection _ r => cases r <;> cases hn; cases hr
  | @closeBackend audit_error => cases audit_error <;> cases hn
  | _ => first | (cases hn; cases hr) | cases hn

/-! ## §5. The generator. -/

/-- The runtime lives, with this trial. -/
structure Live (s : Sys) (a : ActiveTrial) : Prop where
  active : s.rt.audit.active = some a
  up : ¬ s.rt.state.down

/-- **The generator in a live trial.**  What the trial has admitted is what it
has answered, and the request in service, if there is one; the generator is
where the observations that the policy has run on have taken it. -/
structure GeneratorInv (b : BackendMachine Policy Generator) (ls : List Label) (s : Sys)
    (m : Policy × Generator) : Prop where
  idle : ∀ a, Live s a → (∀ id c, s.calls id = some c → c.unanswered = none) →
    admittedObservations ls a.trial_id = answeredObservations ls a.trial_id ∧
    m.2 = b.generator a.skill a.root_seed (answeredObservations ls a.trial_id)
  pending : ∀ a id pc request ref, Live s a → s.calls id = some (.running pc) →
    pc.unanswered = some (request, ref) → admittedObservations ls a.trial_id
      = answeredObservations ls a.trial_id ++ [request.observation]
  waiting : ∀ a id request ref, Live s a → s.calls id = some (.running (.inferPolicy request ref)) →
    m.2 = b.generator a.skill a.root_seed (answeredObservations ls a.trial_id)
  ran : ∀ a id pc inf, Live s a → s.calls id = some (.running pc) → pc.ran = some inf →
    (inf.result, m.2) = b.infer (b.prepare a.skill).1
      (b.generator a.skill a.root_seed (answeredObservations ls a.trial_id)) inf.request.observation

/-- Nobody is in service. -/
theorem GeneratorInv.of_idle {b : BackendMachine Policy Generator} {ls : List Label} {s : Sys}
    {m : Policy × Generator}
    (hnone : ∀ id c, s.calls id = some c → c.unanswered = none)
    (h : ∀ a, Live s a →
      admittedObservations ls a.trial_id = answeredObservations ls a.trial_id ∧
      m.2 = b.generator a.skill a.root_seed (answeredObservations ls a.trial_id)) :
    GeneratorInv b ls s m where
  idle a ha _ := h a ha
  pending a id pc request ref _ hpc hp := by
    have := hnone id _ hpc
    rw [show (CallState.running pc).unanswered = some (request, ref) from hp] at this
    cases this
  waiting a id request ref _ hpc := by
    have := hnone id _ hpc
    cases this
  ran a id pc inf _ hpc hr := by
    have := hnone id _ hpc
    rw [show (CallState.running pc).unanswered = _ from Pc.unanswered_of_ran hr] at this
    cases this

/-- There is no live trial. -/
theorem GeneratorInv.over {b : BackendMachine Policy Generator} {ls : List Label} {s : Sys}
    {m : Policy × Generator} (h : ∀ a, ¬ Live s a) : GeneratorInv b ls s m :=
  ⟨fun a ha => absurd ha (h a), fun a _ _ _ _ ha => absurd ha (h a),
    fun a _ _ _ ha => absurd ha (h a), fun a _ _ _ ha => absurd ha (h a)⟩

/-- The live trial is the one that was live before, or begins now. -/
theorem Step.live {cfg : RuntimeConfig} {nx : Numerics} {s s' : Sys} {l : Label}
    (h : Step cfg nx s l s') :
    (∃ a, BeginsTrial s s' l a) ∨
    (l.begun = none ∧ ∀ a', Live s' a' → ∃ a, Live s a ∧ a'.trial_id = a.trial_id ∧
      a'.skill = a.skill ∧ a'.root_seed = a.root_seed) := by
  rcases Step.begins h with hb | ⟨hb, hact⟩
  · exact .inl hb
  · refine .inr ⟨hb, ?_⟩
    intro a' ha'
    have hup : ¬ s.rt.state.down := fun hd => ha'.up (Step.down h hd)
    rcases hact with hact | hact | ⟨id, inf, ch, next, a, -, ha, hact⟩
    · exact ⟨a', ⟨hact.symm.trans ha'.active, hup⟩, rfl, rfl, rfl⟩
    · cases hact.symm.trans ha'.active
    · cases hact.symm.trans ha'.active
      exact ⟨a, ⟨ha, hup⟩, TrialAuditStore.counted_trial_id a _, TrialAuditStore.counted_skill a _,
        TrialAuditStore.counted_root_seed a _⟩

/-- A `begin_trial` that succeeds has reset the generator. -/
theorem PolicyRuntime.beginSection_resets {rt rt' : PolicyRuntime} {trial_id : PyStr}
    {root_seed : Int} {reset : Except Exn Unit} {io : Io} {st : Status}
    (h : rt.beginSection trial_id root_seed reset io = (.ok st, rt')) :
    rt.resets ∧ reset.toBool = true := by
  unfold beginSection at h
  split_ifs at h with hst ht
  · cases h
  · cases h
  split at h
  · cases h
  · rename_i skill hskill
    refine ⟨⟨by simpa using hst, by simpa using ht, by simp [hskill]⟩, ?_⟩
    split at h
    · cases h
    · rfl

theorem Label.begun_eq {id : Nat} {pc : Pc} {ch : Choice} {next : CallState} {bg : Begun}
    (h : (Label.step id pc ch next).begun = some bg) :
    pc = .beginSection bg.trial_id bg.root_seed ∧ ∃ st, next = .running (.beginRelease (.ok st)) := by
  unfold Label.begun at h
  split at h
  · rename_i heq
    cases heq
    cases h
    exact ⟨rfl, _, rfl⟩
  · cases h

/-- Under a trial, only a policy call moves the machine. -/
theorem BackendMachine.Drives.same {b : BackendMachine Policy Generator} {rt : PolicyRuntime}
    {id : Nat} {pc : Pc} {ch : Choice} {next : CallState} {m m' : Policy × Generator}
    (h : b.Drives rt (.step id pc ch next) m m') (htrial : rt.trial_id ≠ none)
    (hload : ∀ skill, pc ≠ .prepareLoad skill) (hclose : ∀ e, pc ≠ .closeBackend e)
    (hpolicy : ∀ request ref, pc ≠ .inferPolicy request ref) : m' = m := by
  unfold BackendMachine.Drives at h
  split at h
  · rename_i heq
    cases heq
    exact absurd rfl (hload _)
  · rename_i heq
    cases heq
    exact absurd rfl (hload _)
  · rw [if_neg (fun hr => htrial hr.2.1)] at h
    exact h
  · rename_i heq
    cases heq
    exact absurd rfl (hpolicy _ _)
  · rename_i heq
    cases heq
    exact absurd rfl (hpolicy _ _)
  · rename_i heq
    cases heq
    exact absurd rfl (hclose _)
  · exact h

/-- A step that neither admits nor answers, and leaves the machine alone. -/
theorem GeneratorInv.keep {b : BackendMachine Policy Generator} {ls : List Label} {l : Label}
    {s s' : Sys} {m : Policy × Generator} (h : GeneratorInv b ls s m) (hadm : l.admits = none)
    (hans : l.answer = none)
    (hlive : ∀ a', Live s' a' → ∃ a, Live s a ∧ a'.trial_id = a.trial_id ∧
      a'.skill = a.skill ∧ a'.root_seed = a.root_seed)
    (hidle : (∀ j c, s'.calls j = some c → c.unanswered = none) →
      ∀ j c, s.calls j = some c → c.unanswered = none)
    (hcalls : ∀ j pc p, s'.calls j = some (.running pc) → pc.unanswered = some p →
      ∃ pc₀, s.calls j = some (.running pc₀) ∧ pc₀.unanswered = some p ∧
        ((∃ request ref, pc = .inferPolicy request ref) → pc₀ = pc) ∧
        ∀ inf, pc.ran = some inf → pc₀.ran = some inf) :
    GeneratorInv b (ls ++ [l]) s' m := by
  have hlists : admittedObservations (ls ++ [l]) = admittedObservations ls ∧
      answeredObservations (ls ++ [l]) = answeredObservations ls :=
    ⟨admittedObservations_snoc_none hadm, answeredObservations_snoc_none hans⟩
  refine ⟨?_, ?_, ?_, ?_⟩
  · intro a' ha' hnone
    obtain ⟨a, ha, h1, h2, h3⟩ := hlive a' ha'
    rw [hlists.1, hlists.2, h1, h2, h3]
    exact h.idle a ha (hidle hnone)
  · intro a' j pc request ref ha' hj hp
    obtain ⟨a, ha, h1, -, -⟩ := hlive a' ha'
    obtain ⟨pc₀, h₀, hp₀, -, -⟩ := hcalls j pc _ hj hp
    rw [hlists.1, hlists.2, h1]
    exact h.pending a j pc₀ request ref ha h₀ hp₀
  · intro a' j request ref ha' hj
    obtain ⟨a, ha, h1, h2, h3⟩ := hlive a' ha'
    obtain ⟨pc₀, h₀, -, hw, -⟩ := hcalls j _ _ hj rfl
    rw [hw ⟨request, ref, rfl⟩] at h₀
    rw [hlists.2, h1, h2, h3]
    exact h.waiting a j request ref ha h₀
  · intro a' j pc inf ha' hj hr
    obtain ⟨a, ha, h1, h2, h3⟩ := hlive a' ha'
    obtain ⟨pc₀, h₀, -, -, hran⟩ := hcalls j pc _ hj (Pc.unanswered_of_ran hr)
    rw [hlists.2, h1, h2, h3]
    exact h.ran a j pc₀ inf ha h₀ (hran inf hr)

/-- **The policy runs** for the request in service. -/
theorem GeneratorInv.entered {cfg : RuntimeConfig} {nx : Numerics}
    {b : BackendMachine Policy Generator} {ls : List Label} {s : Sys} {m m' : Policy × Generator}
    {id : Nat} {request : InferenceRequest} {ref : Nat} {ch : Choice} {next : CallState}
    (h : GeneratorInv b ls s m) (hlock : LockInv s) (hwf : s.rt.WF) (hpol : PolicyInv b s m)
    (hpc : s.calls id = some (.running (.inferPolicy request ref)))
    (ha : Advance cfg nx id s.rt (.inferPolicy request ref) ch s.rt next)
    (hun : next.unanswered = some (request, ref))
    (hnext : ∀ request ref, next ≠ .running (.inferPolicy request ref))
    (hd : b.Drives s.rt (.step id (.inferPolicy request ref) ch next) m m') :
    GeneratorInv b (ls ++ [.step id (.inferPolicy request ref) ch next])
      (s.setCall s.rt id next) m' := by
  have hadm : admittedObservations (ls ++ [.step id (.inferPolicy request ref) ch next])
      = admittedObservations ls := admittedObservations_snoc_none rfl
  have hans : answeredObservations (ls ++ [.step id (.inferPolicy request ref) ch next])
      = answeredObservations ls := answeredObservations_snoc_none rfl
  -- no other call is in service
  have hsole : ∀ j pc p, j ≠ id → s.calls j = some (.running pc) → pc.unanswered ≠ some p := by
    intro j pc p hne hj hp
    have hs := Pc.serving_of_unanswered hp
    exact hne (hlock.sole hpc rfl hj (CallState.holdsLock_of_serving (by rw [hs]; rfl)))
  refine ⟨?_, ?_, ?_, ?_⟩
  · intro a _ hnone
    have := hnone id next (Sys.setCall_self _ _ _ _)
    rw [hun] at this
    cases this
  · intro a j pc request' ref' ha' hj hp
    have hlive : Live s a := ⟨ha'.active, ha'.up⟩
    rw [hadm, hans]
    rcases Sys.setCall_calls_eq hj with ⟨-, rfl⟩ | ⟨hne, hold⟩
    · cases hun.symm.trans hp
      exact h.pending a id _ request ref hlive hpc rfl
    · exact absurd hp (hsole j pc _ hne hold)
  · intro a j request' ref' hlive hj
    rcases Sys.setCall_calls_eq hj with ⟨-, hn⟩ | ⟨hne, hold⟩
    · exact absurd hn.symm (hnext _ _)
    · exact absurd rfl (hsole j _ (request', ref') hne hold)
  · intro a j pc inf ha' hj hr
    have hlive : Live s a := ⟨ha'.active, ha'.up⟩
    rw [hans]
    rcases Sys.setCall_calls_eq hj with ⟨-, hn⟩ | ⟨hne, hold⟩
    · rcases ha.ran hn.symm hr with hr' | ⟨_, heq, rfl, -⟩
      · cases hr'
      · cases heq
        -- the machine of the trial is in the state the trial has brought it to
        have hgen := h.waiting a id _ ref hlive hpc
        have htrial := hwf.trial a hlive.active
        have hready : s.rt.state = .READY := by
          rcases hwf.held (by rw [htrial.trial_id]; simp) with hr | hdn
          · exact hr
          · exact absurd hdn hlive.up
        have hpolicy := hpol.loaded hready a.skill htrial.skill
        obtain ⟨-, hout⟩ : m'.1 = m.1 ∧
          (inf.result, m'.2) = b.infer m.1 m.2 inf.request.observation := hd
        rw [hout, hpolicy, hgen]
    · exact absurd (Pc.unanswered_of_ran hr) (hsole j pc _ hne hold)

/-- **A request is admitted** while nobody is in service. -/
theorem GeneratorInv.admit {b : BackendMachine Policy Generator} {ls : List Label} {l : Label}
    {s : Sys} {m : Policy × Generator} {id : Nat} {request : InferenceRequest}
    {lease : SessionLease} (h : GeneratorInv b ls s m) (hlock : LockInv s) (hwf : s.rt.WF)
    (hpc : s.calls id = some (.running (.inferEnter request)))
    (hadm : PolicyRuntime.Admitted s.rt request lease) (hl : l.admits = some request)
    (hans : l.answer = none) :
    GeneratorInv b (ls ++ [l]) (s.setCall { s.rt with in_flight := s.rt.in_flight + 1 } id
      (.running (.inferPolicy request lease.ref))) m := by
  have hnone := hlock.none_serving hpc rfl rfl
  have hothers : ∀ j c, j ≠ id → s.calls j = some c → c.unanswered = none :=
    fun j c _ hj => CallState.unanswered_none_of_serving (hnone j c hj)
  have hidle := fun a (ha : Live s a) => h.idle a ha
    (fun j c hj => CallState.unanswered_none_of_serving (hnone j c hj))
  -- the request is one of the live trial
  have htrial : ∀ a, Live s a → a.trial_id = request.trial_id := by
    intro a ha
    have := (hwf.trial a ha.active).trial_id.symm.trans hadm.trial_id
    exact Option.some.inj this
  refine ⟨?_, ?_, ?_, ?_⟩
  · intro a _ hno
    have := hno id _ (Sys.setCall_self _ _ _ _)
    cases this
  · intro a j pc request' ref ha' hj hp
    have ha : Live s a := ⟨ha'.active, ha'.up⟩
    rcases Sys.setCall_calls_eq hj with ⟨-, hn⟩ | ⟨hne, hold⟩
    · cases hn
      cases hp
      rw [answeredObservations_snoc_none hans, htrial a ha, admittedObservations_snoc_self hl,
        ← htrial a ha, (hidle a ha).1]
    · have := hothers j _ hne hold
      rw [show (CallState.running pc).unanswered = some (request', ref) from hp] at this
      cases this
  · intro a j request' ref ha' hj
    have ha : Live s a := ⟨ha'.active, ha'.up⟩
    rw [answeredObservations_snoc_none hans]
    exact (hidle a ha).2
  · intro a j pc inf ha' hj hr
    rcases Sys.setCall_calls_eq hj with ⟨-, hn⟩ | ⟨hne, hold⟩
    · cases hn
      cases hr
    · have := hothers j _ hne hold
      rw [show (CallState.running pc).unanswered = _ from Pc.unanswered_of_ran hr] at this
      cases this

/-- **A response is counted**: the generator has moved on by its observation. -/
theorem GeneratorInv.answered {b : BackendMachine Policy Generator} {ls : List Label} {l : Label}
    {s : Sys} {m : Policy × Generator} {id : Nat} {inf : PolicyRuntime.Inference}
    {lease : SessionLease} (h : GeneratorInv b ls s m) (hlock : LockInv s)
    (hpc : s.calls id = some (.running (.inferFinish inf))) (hadm : l.admits = none)
    (hans : l.answer = some (id, inf))
    (htrial : ∀ a, Live s a → a.trial_id = inf.request.trial_id) {out : Except Exn InferenceResponse} :
    GeneratorInv b (ls ++ [l]) (s.setCall { s.rt with session := some lease } id
      (.running (.inferLeave inf.request inf.lease_ref out))) m := by
  refine .of_idle ?_ ?_
  · intro j c hj
    rcases Sys.setCall_calls_eq hj with ⟨-, rfl⟩ | ⟨hne, hold⟩
    · rfl
    · cases hu : c.unanswered with
      | none => rfl
      | some p =>
          have hs := CallState.serving_of_unanswered hu
          exact absurd (hlock.sole hpc rfl hold
            (CallState.holdsLock_of_serving (by rw [hs]; rfl))) hne
  · intro a ha'
    have ha : Live s a := ⟨ha'.active, ha'.up⟩
    have hpending := h.pending a id _ inf.request inf.lease_ref ha hpc rfl
    have hran := h.ran a id _ inf ha hpc rfl
    rw [admittedObservations_snoc_none hadm, hpending, htrial a ha,
      answeredObservations_snoc_self hans]
    refine ⟨rfl, ?_⟩
    rw [htrial a ha] at hran
    unfold BackendMachine.generator at hran ⊢
    rw [Mealy.after_snoc, ← hran]

/-- **A trial begins**: nothing admitted, and the generator reset. -/
theorem GeneratorInv.begin {cfg : RuntimeConfig} {nx : Numerics}
    {b : BackendMachine Policy Generator} {ls : List Label} {s s' : Sys} {l : Label}
    {m m' : Policy × Generator} {a : ActiveTrial} (hlock : LockInv s)
    (hst : Step cfg nx s l s') (hd : b.Drives s.rt l m m') (hb : BeginsTrial s s' l a)
    (hadm : admittedObservations (ls ++ [l]) a.trial_id = [])
    (hans : answeredObservations (ls ++ [l]) a.trial_id = []) :
    GeneratorInv b (ls ++ [l]) s' m' := by
  rcases step_cases hst with ⟨id, op, rfl, -, -⟩ | ⟨id, pc, ch, rt', next, rfl, hpc, ha, rfl⟩
  · cases hb.begun
  obtain ⟨rfl, st, rfl⟩ := Label.begun_eq hb.begun
  -- the lock is held by the call that begins the trial
  have hnone := hlock.none_serving hpc rfl rfl
  refine .of_idle ?_ ?_
  · intro j c hj
    rcases Sys.setCall_calls_eq hj with ⟨-, rfl⟩ | ⟨-, hold⟩
    · rfl
    · exact CallState.unanswered_none_of_serving (hnone j c hold)
  · intro a' ha'
    cases hb.active.symm.trans ha'.active
    rw [hadm, hans]
    refine ⟨rfl, ?_⟩
    generalize hn : CallState.running (.beginRelease (.ok st)) = next at ha
    cases ha with
    | @beginSection _ _ reset io r _ he =>
        cases r with
        | error e => cases e <;> cases hn
        | ok st' =>
            obtain ⟨hresets, hreset⟩ := PolicyRuntime.beginSection_resets he
            have hd : if s.rt.resets then
                m'.1 = m.1 ∧ (reset.toBool = true → m'.2 = b.reset_prng a.root_seed)
              else m' = m := hd
            rw [if_pos hresets] at hd
            exact hd.2 hreset

/-- **Every step keeps the generator in place.** -/
theorem GeneratorInv.step {cfg : RuntimeConfig} {nx : Numerics}
    {b : BackendMachine Policy Generator} {ls : List Label} {s s' : Sys} {l : Label}
    {m m' : Policy × Generator} (h : GeneratorInv b ls s m) (hrun : RuntimeRun cfg nx ls s)
    (hpol : PolicyInv b s m) (hst : Step cfg nx s l s') (hd : b.Drives s.rt l m m')
    (hfresh : ∀ a, BeginsTrial s s' l a → admittedObservations (ls ++ [l]) a.trial_id = [] ∧
      answeredObservations (ls ++ [l]) a.trial_id = []) :
    GeneratorInv b (ls ++ [l]) s' m' := by
  have hlock := RuntimeRun.lockInv hrun
  have hinv := RuntimeRun.inv hrun
  rcases Step.live hst with ⟨a, hb⟩ | ⟨-, hlive⟩
  · exact .begin hlock hst hd hb (hfresh a hb).1 (hfresh a hb).2
  by_cases hover : ∀ a, ¬ Live s' a
  · exact .over hover
  -- the trial was live before the step
  obtain ⟨a', ha'⟩ := not_forall_not.mp hover
  obtain ⟨a, hact, -⟩ := hlive a' ha'
  have htrial : s.rt.trial_id ≠ none := by
    rw [(hinv.wf.trial a hact.active).trial_id]
    simp
  rcases step_cases hst with ⟨id, op, rfl, hnone, rfl⟩ | ⟨id, pc, ch, rt', next, rfl, hpc, ha, rfl⟩
  · have hm : m' = m := hd
    subst hm
    have hstart := CallState.unanswered_none_of_serving (op.start_holdsLock nx).2
    refine h.keep rfl rfl hlive ?_ ?_
    · intro hno j c hj
      have hne : j ≠ id := by
        rintro rfl
        rw [hnone] at hj
        cases hj
      exact hno j c (by rw [Sys.setCall_other _ _ _ hne]; exact hj)
    · intro j pc p hj hp
      rcases Sys.setCall_calls_eq hj with ⟨-, hn⟩ | ⟨-, hold⟩
      · rw [← hn] at hstart
        cases hp.symm.trans hstart
      · exact ⟨pc, hold, hp, fun _ => rfl, fun _ hr => hr⟩
  · rcases ha.effect.unanswered ha'.up with ⟨hun, hnext⟩ | ⟨request, lease, rfl, hadm, rfl, rfl⟩
      | ⟨inf, lease, rfl, hs, href, rfl, rfl⟩
    · by_cases hpolicy : ∃ request ref, pc = .inferPolicy request ref
      · obtain ⟨request, ref, rfl⟩ := hpolicy
        have hrt : rt' = s.rt := by
          cases ha <;> rfl
        subst hrt
        exact h.entered hlock hinv.wf hpol hpc ha hun hnext hd
      · have hm : m' = m := by
          refine hd.same htrial ?_ ?_ fun request ref heq => hpolicy ⟨request, ref, heq⟩
          · rintro skill rfl
            exact htrial (hinv.preparing id _ .LOADING hpc rfl).1
          · rintro e rfl
            exact hact.up (hpol.closed id e hpc)
        subst hm
        have hadm : (Label.step id pc ch next).admits = none := by
          unfold Label.admits
          split
          · rename_i heq
            cases heq
            exact absurd rfl (hnext _ _)
          · rfl
        have hans : (Label.step id pc ch next).answer = none := by
          unfold Label.answer
          split
          · rename_i heq
            cases heq
            cases hun
          · rfl
        refine h.keep hadm hans hlive ?_ ?_
        · intro hno j c hj
          by_cases hje : j = id
          · subst hje
            cases hpc.symm.trans hj
            exact hun.symm.trans (hno j next (Sys.setCall_self _ _ _ _))
          · exact hno j c (by rw [Sys.setCall_other _ _ _ hje]; exact hj)
        · intro j pc' p hj hp
          rcases Sys.setCall_calls_eq hj with ⟨rfl, hn⟩ | ⟨-, hold⟩
          · refine ⟨pc, hpc, ?_, ?_, ?_⟩
            · rw [← hn] at hun
              exact hun.symm.trans hp
            · rintro ⟨request, ref, rfl⟩
              exact absurd hn.symm (hnext _ _)
            · intro inf hr
              rcases ha.ran hn.symm hr with hr | ⟨ref, heq, -⟩
              · exact hr
              · exact absurd ⟨_, ref, heq⟩ hpolicy
          · exact ⟨pc', hold, hp, fun _ => rfl, fun _ hr => hr⟩
    · have hm : m' = m := hd
      subst hm
      exact h.admit hlock hinv.wf hpc hadm rfl rfl
    · have hm : m' = m := hd
      subst hm
      refine h.answered hlock hpc rfl rfl ?_
      intro a ha
      -- the lease is stored, so the request is one of its trial
      have hul := (RuntimeRun.servedInv hrun).lease id _ inf.request inf.lease_ref lease hpc rfl hs href
      have ht := (hinv.wf.lease lease hs).trial_id.symm.trans (hinv.wf.trial a ha.active).trial_id
      rw [hul.trial_id]
      exact (Option.some.inj ht).symm

/-! ## §6. Trials of the history. -/

/-- **The history of every trial**: its responses answer a beginning of its
admitted requests, with the results of the machine, hashed. -/
structure TrialHistory (b : BackendMachine Policy Generator) (nx : Numerics) (ls : List Label)
    (s : Sys) : Prop where
  fresh : ∀ trial_id, s.rt.audit.dirs trial_id = none → admittedObservations ls trial_id = []
  answered : ∀ trial_id, answeredObservations ls trial_id <+: admittedObservations ls trial_id
  results : ∀ trial_id, ∀ bg ∈ begunUnder ls trial_id, ∃ skill, bg.skill = some skill ∧
    (answersUnder ls trial_id).map (·.result)
      = b.results skill bg.root_seed (answeredObservations ls trial_id)
  hashed : ∀ trial_id, ∀ inf ∈ answersUnder ls trial_id, PolicyRuntime.Hashed nx inf
  hashing : ∀ id pc inf, s.calls id = some (.running pc) → pc.ran = some inf →
    PolicyRuntime.Hashed nx inf

/-- A trial without a directory has neither requests nor responses. -/
theorem TrialHistory.blank {b : BackendMachine Policy Generator} {nx : Numerics} {ls : List Label}
    {s : Sys} (h : TrialHistory b nx ls s) {trial_id : PyStr}
    (hnone : s.rt.audit.dirs trial_id = none) :
    admittedObservations ls trial_id = [] ∧ answeredObservations ls trial_id = [] := by
  have hadm := h.fresh trial_id hnone
  have hans := h.answered trial_id
  rw [hadm] at hans
  exact ⟨hadm, List.prefix_nil.mp hans⟩

/-- The request a step admits has a directory for its trial. -/
theorem Step.admits {cfg : RuntimeConfig} {nx : Numerics} {s s' : Sys} {l : Label}
    {request : InferenceRequest} (h : Step cfg nx s l s') (hwf : s.rt.WF)
    (hl : l.admits = some request) :
    l.answer = none ∧ l.begun = none ∧ (s.rt.audit.dirs request.trial_id).isSome = true := by
  rcases step_cases h with ⟨id, op, rfl, -, -⟩ | ⟨id, pc, ch, rt', next, rfl, -, ha, rfl⟩
  · cases hl
  unfold Label.admits at hl
  split at hl
  · rename_i heq
    cases heq
    cases hl
    obtain ⟨hpc, lease, hadm⟩ := ha.effect.waiting rfl
    cases hpc
    exact ⟨rfl, rfl, hadm.directory hwf⟩
  · cases hl

/-- A step that answers does nothing else. -/
theorem Label.answer_only {l : Label} {p : Nat × PolicyRuntime.Inference}
    (h : l.answer = some p) : l.admits = none ∧ l.begun = none := by
  unfold Label.answer at h
  split at h
  · exact ⟨rfl, rfl⟩
  · cases h

/-- **Every step keeps the history of the trials.** -/
theorem TrialHistory.step {cfg : RuntimeConfig} {nx : Numerics}
    {b : BackendMachine Policy Generator} {ls : List Label} {s s' : Sys} {l : Label}
    {m : Policy × Generator} (h : TrialHistory b nx ls s) (hrun : RuntimeRun cfg nx ls s)
    (hgen : GeneratorInv b ls s m) (hst : Step cfg nx s l s') :
    TrialHistory b nx (ls ++ [l]) s' := by
  have hwf := (RuntimeRun.inv hrun).wf
  have hold : ∀ trial_id, s'.rt.audit.dirs trial_id = none → s.rt.audit.dirs trial_id = none := by
    intro trial_id hnone
    by_contra hd
    have := Step.dirs hst trial_id (Option.isSome_iff_ne_none.mpr hd)
    rw [hnone] at this
    cases this
  have hhashing : ∀ j pc inf, s'.calls j = some (.running pc) → pc.ran = some inf →
      PolicyRuntime.Hashed nx inf := by
    intro j pc inf hj hr
    rcases step_cases hst with ⟨id, op, -, -, rfl⟩ | ⟨id, pc', ch, rt', next, -, hpc, ha, rfl⟩
    · rcases Sys.setCall_calls_eq hj with ⟨-, hn⟩ | ⟨-, hold⟩
      · have := CallState.unanswered_none_of_serving (op.start_holdsLock nx).2
        rw [← hn, show (CallState.running pc).unanswered = _ from Pc.unanswered_of_ran hr] at this
        cases this
      · exact h.hashing j pc inf hold hr
    · rcases Sys.setCall_calls_eq hj with ⟨rfl, hn⟩ | ⟨-, hold⟩
      · rcases ha.ran hn.symm hr with hr' | ⟨-, -, -, hashed⟩
        · exact h.hashing j pc' inf hpc hr'
        · exact hashed
      · exact h.hashing j pc inf hold hr
  rcases Step.answers hst with ⟨hans, -⟩ | ⟨id, inf, lease, hans, hc⟩
  · -- no response: requests may be admitted, and a trial may begin
    have hsame : answersUnder (ls ++ [l]) = answersUnder ls := answersUnder_snoc_none hans
    refine ⟨?_, ?_, ?_, ?_, hhashing⟩
    · intro trial_id hnone
      cases hadm : l.admits with
      | none =>
          rw [admittedObservations_snoc_none hadm]
          exact h.fresh trial_id (hold trial_id hnone)
      | some request =>
          have hne : request.trial_id ≠ trial_id := by
            rintro rfl
            have hdir := (Step.admits hst hwf hadm).2.2
            rw [hold _ hnone] at hdir
            cases hdir
          rw [admittedObservations_snoc_other hadm hne]
          exact h.fresh trial_id (hold trial_id hnone)
    · intro trial_id
      rw [answeredObservations_snoc_none hans]
      exact (h.answered trial_id).trans (admittedObservations_mono ls l trial_id)
    · intro trial_id bg hbg
      rw [hsame, answeredObservations_snoc_none hans]
      rcases Step.begins hst with ⟨a, hb⟩ | ⟨hb, -⟩
      · by_cases ht : a.begun.trial_id = trial_id
        · -- a trial just begun has no responses
          subst ht
          have hnil := (h.blank hb.new).2
          have hno : answersUnder ls a.begun.trial_id = [] := List.map_eq_nil_iff.mp hnil
          rw [begunUnder_snoc_self hb.begun,
            (RuntimeRun.begunInv hrun).fresh a.begun.trial_id hb.new, List.nil_append,
            List.mem_singleton] at hbg
          subst hbg
          refine ⟨a.skill, rfl, ?_⟩
          rw [show answeredObservations ls a.begun.trial_id = [] from hnil, hno]
          rfl
        · rw [begunUnder_snoc_other hb.begun ht] at hbg
          exact h.results trial_id bg hbg
      · rw [begunUnder_snoc_none hb] at hbg
        exact h.results trial_id bg hbg
    · rw [hsame]
      exact h.hashed
  · -- a response of the live trial
    obtain ⟨hadm, hbegun⟩ := Label.answer_only hans
    have hready := (hwf.lease lease hc.stored).ready
    have hup : ¬ s.rt.state.down := by
      rw [hready]
      exact RuntimeState.READY_not_down
    have hul := (RuntimeRun.servedInv hrun).lease id _ inf.request inf.lease_ref lease
      hc.finishing rfl hc.stored hc.ref
    obtain ⟨a, hact, hid, -⟩ := hwf.recorded (hwf.lease lease hc.stored).trial_id
    have ht : a.trial_id = inf.request.trial_id := by
      rw [hul.trial_id]
      exact hid
    have hlive : Live s a := ⟨hact, hup⟩
    have hpending := hgen.pending a id _ inf.request inf.lease_ref hlive hc.finishing rfl
    have hran := hgen.ran a id _ inf hlive hc.finishing rfl
    have hbg := (RuntimeRun.begunInv hrun).active a hact
    rw [ht] at hpending hran hbg
    refine ⟨?_, ?_, ?_, ?_, hhashing⟩
    · intro trial_id hnone
      rw [admittedObservations_snoc_none hadm]
      exact h.fresh trial_id (hold trial_id hnone)
    · intro trial_id
      rw [admittedObservations_snoc_none hadm]
      by_cases hk : inf.request.trial_id = trial_id
      · exact ⟨[], by rw [List.append_nil, ← hk, answeredObservations_snoc_self hans, hpending]⟩
      · rw [answeredObservations_snoc_other hans hk]
        exact h.answered trial_id
    · intro trial_id bg hmem
      rw [begunUnder_snoc_none hbegun] at hmem
      by_cases hk : inf.request.trial_id = trial_id
      · subst hk
        obtain ⟨skill, hskill, hprev⟩ := h.results _ bg hmem
        rw [hbg, List.mem_singleton] at hmem
        subst hmem
        cases hskill
        refine ⟨a.skill, rfl, ?_⟩
        rw [answersUnder_snoc_self hans, answeredObservations_snoc_self hans, List.map_append, hprev]
        unfold BackendMachine.results
        rw [Mealy.outputs_snoc]
        unfold BackendMachine.generator at hran
        rw [show a.begun.root_seed = a.root_seed from rfl, ← hran]
        rfl
      · rw [answersUnder_snoc_other hans hk, answeredObservations_snoc_other hans hk]
        exact h.results trial_id bg hmem
    · intro trial_id inf' hmem
      by_cases hk : inf.request.trial_id = trial_id
      · subst hk
        rw [answersUnder_snoc_self hans] at hmem
        rcases List.mem_append.mp hmem with hmem | hmem
        · exact h.hashed _ inf' hmem
        · rw [List.mem_singleton.mp hmem]
          exact h.hashing id _ inf hc.finishing rfl
      · rw [answersUnder_snoc_other hans hk] at hmem
        exact h.hashed trial_id inf' hmem

theorem DrivenRun.history {cfg : RuntimeConfig} {nx : Numerics}
    {b : BackendMachine Policy Generator} {ls : List Label} {x : Sys × Policy × Generator}
    (h : DrivenRun cfg nx b ls x) : GeneratorInv b ls x.1 x.2 ∧ TrialHistory b nx ls x.1 := by
  refine Run.invariant (fun ls x => GeneratorInv b ls x.1 x.2 ∧ TrialHistory b nx ls x.1) ?_ ?_ h
  · rintro ⟨s, m⟩ ⟨dirs, rfl⟩
    refine ⟨.over fun a ha => ?_, ?_⟩
    · cases ha.active
    · exact ⟨fun _ _ => rfl, fun _ => List.prefix_refl _, by simp [begunUnder],
        by simp [answersUnder, answers], by simp⟩
  · intro ls x l x' hrun hinv hst
    obtain ⟨hgen, hhist⟩ := hinv
    have hrt := DrivenRun.runtime hrun
    have hhist' := hhist.step hrt hgen hst.1
    refine ⟨hgen.step hrt (DrivenRun.policyInv hrun) hst.1 hst.2 ?_, hhist'⟩
    intro a hb
    have hblank := hhist.blank hb.new
    have hadm : l.admits = none := by
      cases hl : l.admits with
      | none => rfl
      | some request =>
          have := (Step.admits hst.1 (RuntimeRun.inv hrt).wf hl).2.1
          rw [hb.begun] at this
          cases this
    rw [admittedObservations_snoc_none hadm, answeredObservations_snoc_none hb.answer]
    exact hblank

/-! ## §7. Two runs. -/

/-- The responses of a trial, in order; by `AnsweredInv` they are what the calls
with a request of the trial have returned or are about to return. -/
def responsesUnder (ls : List Label) (trial_id : PyStr) : List InferenceResponse :=
  (answersUnder ls trial_id).map PolicyRuntime.Inference.response

/-- What the k-th response of a trial was computed from. -/
theorem TrialHistory.response {b : BackendMachine Policy Generator} {nx : Numerics}
    {ls : List Label} {s : Sys} (h : TrialHistory b nx ls s) {trial_id : PyStr} {k : Nat}
    {r : InferenceResponse} (hr : (responsesUnder ls trial_id)[k]? = some r) :
    ∃ inf, inf.response = r ∧ PolicyRuntime.Hashed nx inf ∧
      ((answersUnder ls trial_id).map (·.result))[k]? = some inf.result ∧
      (admittedObservations ls trial_id)[k]? = some inf.request.observation := by
  unfold responsesUnder at hr
  rw [List.getElem?_map, Option.map_eq_some_iff] at hr
  obtain ⟨inf, hinf, rfl⟩ := hr
  have hobs : (answeredObservations ls trial_id)[k]? = some inf.request.observation := by
    unfold answeredObservations
    rw [List.getElem?_map, hinf]
    rfl
  obtain ⟨hlt, heq⟩ := List.getElem?_eq_some_iff.mp hobs
  refine ⟨inf, rfl, h.hashed trial_id inf (List.mem_of_getElem? hinf), ?_, ?_⟩
  · rw [List.getElem?_map, hinf]
    rfl
  · rw [List.prefix_iff_getElem?.mp (h.answered trial_id) k hlt, heq]

/-- The machine after a step, if the step is the machine's own. -/
def BackendMachine.follow (b : BackendMachine Policy Generator) (rt : PolicyRuntime) :
    Label → Policy × Generator → Policy × Generator
  | .step _ (.prepareLoad skill) (.loaded (.ok _)) _, _ => b.prepare skill
  | .step _ (.beginSection _ root_seed) (.begun _ _) _, m =>
      if rt.resets then (m.1, b.reset_prng root_seed) else m
  | .step _ (.inferPolicy request _) (.inferred (.ok _)) _, m =>
      (m.1, (b.infer m.1 m.2 request.observation).2)
  | _, m => m

/-- The line of a script with the result of the machine in it. -/
def BackendMachine.answer (b : BackendMachine Policy Generator) (x : Sys × Policy × Generator) :
    Move → Move
  | .step id (.inferred (.ok result)) =>
      match x.1.calls id with
      | some (.running (.inferPolicy request _)) =>
          .step id (.inferred (.ok (b.infer x.2.1 x.2.2 request.observation).1))
      | _ => .step id (.inferred (.ok result))
  | move => move

/-- Carry out a script against the machine. -/
def BackendMachine.replay (b : BackendMachine Policy Generator) (cfg : RuntimeConfig)
    (nx : Numerics) : Sys × Policy × Generator → List Move →
      Option (List Label × Sys × Policy × Generator)
  | x, [] => some ([], x)
  | x, move :: moves =>
      match x.1.move cfg nx (b.answer x move) with
      | none => none
      | some (l, s') =>
          (b.replay cfg nx (s', b.follow x.1.rt l x.2) moves).map fun r => (l :: r.1, r.2)

theorem Sys.move_label {cfg : RuntimeConfig} {nx : Numerics} {s s' : Sys} {id : Nat} {ch : Choice}
    {l : Label} (h : s.move cfg nx (.step id ch) = some (l, s')) :
    ∃ pc next, s.calls id = some (.running pc) ∧ l = .step id pc ch next := by
  simp only [Sys.move] at h
  split at h
  · rename_i pc hpc
    obtain ⟨⟨rt, next⟩, -, hr⟩ := Option.map_eq_some_iff.mp h
    cases hr
    exact ⟨pc, next, hpc, rfl⟩
  · cases h

/-- What the machine answers is what it is driven to. -/
theorem BackendMachine.follow_drives {cfg : RuntimeConfig} {nx : Numerics}
    (b : BackendMachine Policy Generator) {x : Sys × Policy × Generator} {move : Move}
    {l : Label} {s' : Sys} (h : x.1.move cfg nx (b.answer x move) = some (l, s')) :
    b.Drives x.1.rt l x.2 (b.follow x.1.rt l x.2) := by
  unfold BackendMachine.Drives
  split
  · rfl
  · trivial
  · unfold BackendMachine.follow
    simp only
    split
    · exact ⟨rfl, fun _ => rfl⟩
    · rfl
  · rename_i id request ref result next
    refine ⟨rfl, ?_⟩
    -- the line of the script has been given the result of the machine
    have hresult : result = (b.infer x.2.1 x.2.2 request.observation).1 := by
      unfold BackendMachine.answer at h
      split at h
      · split at h
        · rename_i request' ref' hcall
          obtain ⟨pc, next', hpc, hl⟩ := Sys.move_label h
          cases hl
          cases hcall.symm.trans hpc
          rfl
        · rename_i hno
          obtain ⟨pc, next', hpc, hl⟩ := Sys.move_label h
          cases hl
          exact absurd hpc (hno _ _)
      · rename_i hno
        cases move with
        | call i op =>
            simp only [Sys.move] at h
            split at h <;> cases h
        | step i ch =>
            obtain ⟨pc, next', hpc, hl⟩ := Sys.move_label h
            cases hl
            exact absurd rfl (hno _ _)
    rw [hresult]
    rfl
  · rfl
  · trivial
  · rename_i h1 h2 h3 h4 h5 h6
    unfold BackendMachine.follow
    split
    · exact absurd rfl (h1 _ _ _ _)
    · exact absurd rfl (h3 _ _ _ _ _ _)
    · exact absurd rfl (h4 _ _ _ _ _)
    · rfl

/-- **A replay against the machine** is a path of the runtime over it. -/
theorem BackendMachine.replay_path {cfg : RuntimeConfig} {nx : Numerics}
    (b : BackendMachine Policy Generator) {x x' : Sys × Policy × Generator} {moves : List Move}
    {ls : List Label} (h : b.replay cfg nx x moves = some (ls, x')) :
    Path (drivenSystem cfg nx b) x ls x' := by
  induction moves generalizing x ls with
  | nil =>
      cases h
      exact .nil _
  | cons move moves ih =>
      simp only [BackendMachine.replay] at h
      split at h
      · cases h
      · rename_i l s₁ hm
        obtain ⟨⟨ls', x''⟩, hr, he⟩ := Option.map_eq_some_iff.mp h
        cases he
        exact .cons ⟨Sys.move_step hm, b.follow_drives hm⟩ (ih hr)

end OvenRuntime
