/-
  OvenRuntime.Server.ProcessRules
  ───────────────────────────────
  What holds in every run of the server process.

  The runtime in it is a runtime as any other (`ServerRun.runtime`).  But the
  thread of the loop is one: of the calls other than `infer`, it runs one at a
  time (`LoopInv`).
-/
import OvenRuntime.Server.Commit
import OvenRuntime.Server.InferenceServer

namespace OvenRuntime

open TransitionSystem

/-- A history of the process, and the state it leads to. -/
abbrev ServerRun (cfg : RuntimeConfig) (nx : Numerics) (lib : Library) (mp : MessagePack)
    (server : LoopbackInferenceServer) : List ServerEvent → ServerProcess → Prop :=
  Run (serverProcess cfg nx lib mp server)

/-! ## §1. The runtime of the process. -/

/-- What a history of the process is for the runtime. -/
def runtimeLabels (es : List ServerEvent) : List Label := es.filterMap ServerEvent.label

@[simp] theorem runtimeLabels_append (es es' : List ServerEvent) :
    runtimeLabels (es ++ es') = runtimeLabels es ++ runtimeLabels es' := List.filterMap_append

section Runtime

variable {cfg : RuntimeConfig} {nx : Numerics} {lib : Library} {mp : MessagePack}
  {server : LoopbackInferenceServer} {s s' : ServerProcess} {e : ServerEvent}
  {es : List ServerEvent}

/-- A step of the process is a step of the runtime, or none. -/
theorem ServerStep.runtime (h : ServerStep cfg nx lib mp server s e s') :
    (e.label = none ∧ s'.sys = s.sys) ∨ ∃ l, e.label = some l ∧ Step cfg nx s.sys l s'.sys := by
  cases h with
  | step hst => exact .inr ⟨_, rfl, hst⟩
  | control _ _ hst => exact .inr ⟨_, rfl, hst⟩
  | receive _ _ _ hst => exact .inr ⟨_, rfl, hst⟩
  | report _ _ _ hst => exact .inr ⟨_, rfl, hst⟩
  | shutdown _ _ _ _ hst => exact .inr ⟨_, rfl, hst⟩
  | resume | accept | reject | result | send | drop | reported | hangUp | cancel | stop =>
      exact .inl ⟨rfl, rfl⟩

theorem ServerStep.path (h : ServerStep cfg nx lib mp server s e s') :
    Path (runtimeSystem cfg nx) s.sys (runtimeLabels [e]) s'.sys := by
  rcases h.runtime with ⟨hl, hsame⟩ | ⟨l, hl, hst⟩
  · have hnone : runtimeLabels [e] = [] := by simp [runtimeLabels, hl]
    rw [hnone, hsame]
    exact .nil _
  · have hone : runtimeLabels [e] = [l] := by simp [runtimeLabels, hl]
    rw [hone]
    exact .single hst

/-- **The runtime of the process is a runtime.** -/
theorem ServerRun.runtime (h : ServerRun cfg nx lib mp server es s) :
    RuntimeRun cfg nx (runtimeLabels es) s.sys := by
  refine Run.invariant (M := serverProcess cfg nx lib mp server)
    (fun es s => RuntimeRun cfg nx (runtimeLabels es) s.sys) ?_ ?_ h
  · rintro s ⟨dirs, rfl⟩
    exact ⟨_, ⟨dirs, rfl⟩, .nil _⟩
  · intro es s e s' _ hinv hst
    rw [runtimeLabels_append]
    exact hinv.extend (ServerStep.path hst)

/-- The same for what happens after a state. -/
theorem ServerPath.runtime {s₀ : ServerProcess}
    (h : Path (serverProcess cfg nx lib mp server) s₀ es s) :
    Path (runtimeSystem cfg nx) s₀.sys (runtimeLabels es) s.sys := by
  induction h with
  | nil => exact .nil _
  | snoc _ hst ih =>
      rw [runtimeLabels_append]
      exact ih.append (ServerStep.path hst)

/-- What a call has returned, it has returned for good. -/
theorem ServerStep.returned {id : Nat} {out : Except Exn Result}
    (h : ServerStep cfg nx lib mp server s e s')
    (hc : s.sys.calls id = some (.returned out)) : s'.sys.calls id = some (.returned out) :=
  Path.returned h.path hc

/-- A call that has begun stays. -/
theorem Step.calls_isSome {s s' : Sys} {l : Label} {id : Nat} (h : Step cfg nx s l s')
    (hc : (s.calls id).isSome = true) : (s'.calls id).isSome = true := by
  rcases step_cases h with ⟨i, op, -, -, rfl⟩ | ⟨i, pc, ch, rt', next, -, -, -, rfl⟩
  all_goals
    by_cases hid : id = i
    · rw [hid, Sys.setCall_self]
      rfl
    · rw [Sys.setCall_other _ _ _ hid]
      exact hc

/-- So does one that begins. -/
theorem Step.calls_isSome_self {s s' : Sys} {id : Nat} {op : Op}
    (h : Step cfg nx s (.call id op) s') : (s'.calls id).isSome = true := by
  cases h with
  | call =>
      rw [Sys.setCall_self]
      rfl

theorem ServerStep.calls_isSome {id : Nat} (h : ServerStep cfg nx lib mp server s e s')
    (hc : (s.sys.calls id).isSome = true) : (s'.sys.calls id).isSome = true := by
  rcases h.runtime with ⟨-, hsame⟩ | ⟨l, -, hst⟩
  · rw [hsame]
    exact hc
  · exact hst.calls_isSome hc

end Runtime

/-! ## §2. Calls of `infer`. -/

/-- The program counters of `infer`. -/
def Pc.infers : Pc → Bool
  | .inferAcquire _ | .inferEnter _ | .inferPolicy _ _ | .inferRecord _ => true
  | .inferFailed _ _ _ | .inferFinish _ | .inferLeave _ _ _ | .inferRelease _ => true
  | _ => false

/-- The call is in `infer`, or has returned a response. -/
def CallState.infers : CallState → Bool
  | .running pc => pc.infers
  | .returned (.ok (.response _)) => true
  | .returned _ => false

section Infer

variable {cfg : RuntimeConfig} {nx : Numerics} {id : Nat} {rt rt' : PolicyRuntime} {pc : Pc}
  {ch : Choice} {next : CallState}

theorem afterDrain_infers (skill : PyStr) (r : Except Exn PolicyRuntime.Drained) :
    (afterDrain skill r).infers = false := by
  cases r with
  | error e => rfl
  | ok d => cases d <;> rfl

/-- Only `infer` comes to a response. -/
theorem Advance.infers (h : Advance cfg nx id rt pc ch rt' next) (hnext : next.infers = true) :
    pc.infers = true := by
  cases h with
  | prepareEnter | prepareDrain =>
      rw [afterDrain_infers] at hnext
      cases hnext
  | @prepareRelease skill loaded => cases loaded <;> cases hnext
  | @prepareCommit skill identity r => cases r <;> cases hnext
  | @beginSection trial_id root_seed reset io r =>
      rcases r with ⟨f | e⟩ | st <;> cases hnext
  | @beginRelease out => cases out <;> cases hnext
  | @openSession session_id token now r => cases r <;> cases hnext
  | @closeSession session_id r => cases r <;> cases hnext
  | @endTrial io r => cases r <;> cases hnext
  | @markAmbiguous session_id sequence io r => cases r <;> cases hnext
  | @abortRelease out => cases out <;> cases hnext
  | @closeSection io r => cases r <;> cases hnext
  | @closeBackend audit_error r => cases audit_error <;> cases r <;> cases hnext
  | inferAcquire | inferTimeout | inferEnter | inferRaise | inferPolicy | inferRecord | inferFailed
  | inferFinish | inferLeave | inferRelease => rfl
  | status | prepareAcquire | prepareTimeout | prepareBusy | prepareLoad | prepareRaise
  | prepareFailed | beginAcquire | beginTimeout | beginFailed | abortAcquire | abortTimeout
  | abortTimedOut | abortSection => cases hnext

/-- A call of `infer` stays one. -/
theorem Advance.infers_running {pc' : Pc} (h : Advance cfg nx id rt pc ch rt' (.running pc'))
    (hpc : pc.infers = true) : pc'.infers = true := by
  generalize hnext : CallState.running pc' = next at h
  cases h with
  | @inferEnter request now r => cases r <;> cases hnext <;> rfl
  | @inferRecord inf io r => cases r <;> cases hnext <;> rfl
  | @inferRelease out => cases out <;> cases hnext
  | inferAcquire | inferRaise | inferPolicy | inferFailed | inferFinish | inferLeave =>
      cases hnext
      rfl
  | inferTimeout => cases hnext
  | _ => cases hpc

/-- A call of another method does not come to one. -/
theorem Op.start_infers {nx : Numerics} {op : Op} (h : (op.start nx).infers = true) :
    ∃ payload, op = .infer payload := by
  unfold Op.start at h
  split at h
  case h_6 payload => exact ⟨payload, rfl⟩
  all_goals (try split at h) <;> (try split at h) <;> cases h

theorem Op.infer_infers {nx : Numerics} {payload : Value} {pc : Pc}
    (h : (Op.infer payload).start nx = .running pc) : pc.infers = true := by
  unfold Op.start at h
  simp only at h
  split at h
  · cases h
  · cases h
    rfl

end Infer

/-! ## §3. The thread of the loop. -/

/-- **One call at a time.**  A running call is one of `infer`, or the one that
the thread of the loop is in. -/
structure LoopInv (s : ServerProcess) : Prop where
  others : ∀ id pc, s.sys.calls id = some (.running pc) → pc.infers = false →
    ∃ c, s.loop = some c ∧ c.id = id
  /-- The thread of the loop does not run `infer`. -/
  loop : ∀ c pc, s.loop = some c → s.sys.calls c.id = some (.running pc) → pc.infers = false
  begun : ∀ c, s.loop = some c → (s.sys.calls c.id).isSome = true
  /-- It is in a report exactly when a handler is. -/
  reporting : ∀ k, s.handlers k = some .reporting ↔ ∃ id, s.loop = some ⟨id, some k⟩

section Loop

variable {cfg : RuntimeConfig} {nx : Numerics} {lib : Library} {mp : MessagePack}
  {server : LoopbackInferenceServer} {s s' : ServerProcess} {e : ServerEvent}
  {es : List ServerEvent}

@[simp] theorem ServerProcess.setHandler_sys (s : ServerProcess) (k : Nat) (h : Handler) :
    (s.setHandler k h).sys = s.sys := rfl

@[simp] theorem ServerProcess.setHandler_loop (s : ServerProcess) (k : Nat) (h : Handler) :
    (s.setHandler k h).loop = s.loop := rfl

@[simp] theorem ServerProcess.setHandler_self (s : ServerProcess) (k : Nat) (h : Handler) :
    (s.setHandler k h).handlers k = some h := by
  simp [ServerProcess.setHandler]

theorem ServerProcess.setHandler_other (s : ServerProcess) {k j : Nat} (h : Handler) (hj : j ≠ k) :
    (s.setHandler k h).handlers j = s.handlers j := by
  simp [ServerProcess.setHandler, Function.update_of_ne hj]

/-- A step of a call, whoever makes it. -/
theorem LoopInv.stepped {id : Nat} {pc : Pc} {ch : Choice} {next : CallState} {sys : Sys}
    (h : LoopInv s) (hst : Step cfg nx s.sys (.step id pc ch next) sys) :
    LoopInv { s with sys := sys } := by
  rcases step_cases hst with ⟨_, _, hl, -⟩ | ⟨i, pc', ch', rt', next', hl, hpc, ha, rfl⟩
  · cases hl
  cases hl
  refine ⟨?_, ?_, ?_, h.reporting⟩
  · intro j pc'' hj hinf
    rcases Sys.setCall_calls_eq hj with ⟨rfl, rfl⟩ | ⟨-, hold⟩
    · refine h.others j pc hpc ?_
      by_contra hpcinf
      rw [ha.infers_running ((Bool.not_eq_false _).mp hpcinf)] at hinf
      cases hinf
    · exact h.others j pc'' hold hinf
  · intro c pc'' hc hj
    rcases Sys.setCall_calls_eq hj with ⟨heq, rfl⟩ | ⟨-, hold⟩
    · refine Bool.eq_false_iff.mpr fun hinf => ?_
      have hbefore := h.loop c pc hc (by rw [heq]; exact hpc)
      rw [ha.infers hinf] at hbefore
      cases hbefore
    · exact h.loop c pc'' hc hold
  · intro c hc
    exact hst.calls_isSome (h.begun c hc)

/-- A call begins on the thread of the loop. -/
theorem LoopInv.entered {id : Nat} {op : Op} {sys : Sys} {reporter : Option Nat}
    {handlers : Nat → Option Handler} {stopping closed : Bool} (h : LoopInv s)
    (hfree : s.loop = none) (hop : ∀ payload, op ≠ .infer payload)
    (hst : Step cfg nx s.sys (.call id op) sys)
    (hreporting : ∀ k, handlers k = some .reporting ↔ reporter = some k) :
    LoopInv ⟨sys, handlers, some ⟨id, reporter⟩, stopping, closed⟩ := by
  rcases step_cases hst with ⟨i, op', hl, -, rfl⟩ | ⟨_, _, _, _, _, hl, -⟩
  · cases hl
    refine ⟨?_, ?_, ?_, ?_⟩
    · intro j pc hj hinf
      rcases Sys.setCall_calls_eq hj with ⟨rfl, -⟩ | ⟨-, hold⟩
      · exact ⟨_, rfl, rfl⟩
      · obtain ⟨c, hc, -⟩ := h.others j pc hold hinf
        rw [hfree] at hc
        cases hc
    · intro c pc hc hpc
      cases hc
      have hstart : op.start nx = .running pc :=
        Option.some_inj.mp ((Sys.setCall_self _ _ _ _).symm.trans hpc)
      refine Bool.eq_false_iff.mpr fun hinf => ?_
      have hinfers : (op.start nx).infers = true := by
        rw [hstart]
        exact hinf
      obtain ⟨payload, hpayload⟩ := Op.start_infers hinfers
      exact hop payload hpayload
    · intro c hc
      cases hc
      exact hst.calls_isSome_self
    · intro k
      rw [hreporting k]
      constructor
      · rintro rfl
        exact ⟨_, rfl⟩
      · rintro ⟨id, heq⟩
        cases heq
        rfl
  · cases hl

/-- The call of the loop has returned. -/
theorem LoopInv.left {c : LoopCall} {out : Except Exn Result} {handlers : Nat → Option Handler}
    (h : LoopInv s) (hloop : s.loop = some c) (hret : s.sys.calls c.id = some (.returned out))
    (hreporting : ∀ k, handlers k ≠ some .reporting) :
    LoopInv { s with handlers := handlers, loop := none } := by
  refine ⟨?_, ?_, ?_, ?_⟩
  · intro j pc hj hinf
    obtain ⟨c', hc', rfl⟩ := h.others j pc hj hinf
    cases hloop.symm.trans hc'
    cases hret.symm.trans hj
  · intro c' pc hc'
    cases hc'
  · intro c' hc'
    cases hc'
  · intro k
    exact ⟨fun heq => absurd heq (hreporting k), fun hloop' => by obtain ⟨_, heq⟩ := hloop'; cases heq⟩

/-- No handler reports while the loop is free. -/
theorem LoopInv.none_reporting (h : LoopInv s) (hfree : s.loop = none) (k : Nat) :
    s.handlers k ≠ some .reporting := by
  intro heq
  obtain ⟨id, hloop⟩ := (h.reporting k).mp heq
  cases hfree.symm.trans hloop

/-- A connection goes on, and the loop stays where it is. -/
theorem LoopInv.handled {k : Nat} {handler : Handler} (h : LoopInv s) (hfree : s.loop = none)
    (hhandler : handler ≠ .reporting) : LoopInv (s.setHandler k handler) := by
  refine ⟨h.others, h.loop, h.begun, ?_⟩
  intro j
  rw [ServerProcess.setHandler_loop, hfree]
  by_cases hj : j = k
  · rw [hj, ServerProcess.setHandler_self]
    constructor
    · intro heq
      exact absurd (Option.some_inj.mp heq) hhandler
    · rintro ⟨_, heq⟩
      cases heq
  · rw [ServerProcess.setHandler_other s handler hj, h.reporting j, hfree]

/-- A call of `infer` begins. -/
theorem LoopInv.inferring {id k : Nat} {payload : Value} {sys : Sys} (h : LoopInv s)
    (hfree : s.loop = none) (hst : Step cfg nx s.sys (.call id (.infer payload)) sys) :
    LoopInv (ServerProcess.setHandler { s with sys := sys } k (.inferring id)) := by
  refine LoopInv.handled (s := { s with sys := sys }) ⟨?_, ?_, ?_, h.reporting⟩ hfree (by simp)
  · intro j pc hj hinf
    rcases step_cases hst with ⟨i, op', hl, -, rfl⟩ | ⟨_, _, _, _, _, hl, -⟩
    · cases hl
      rcases Sys.setCall_calls_eq hj with ⟨-, hpc⟩ | ⟨-, hold⟩
      · rw [Op.infer_infers hpc.symm] at hinf
        cases hinf
      · exact h.others j pc hold hinf
    · cases hl
  · intro c pc hc
    cases hfree.symm.trans hc
  · intro c hc
    cases hfree.symm.trans hc

/-- **Every step keeps the loop's discipline.** -/
theorem LoopInv.step (h : LoopInv s) (hst : ServerStep cfg nx lib mp server s e s') :
    LoopInv s' := by
  cases hst with
  | step hst => exact h.stepped hst
  | control hfree hop hst =>
      refine h.entered hfree ?_ hst fun k => ?_
      · rintro payload rfl
        exact hop
      · exact ⟨fun heq => absurd heq (h.none_reporting hfree k), fun heq => by cases heq⟩
  | resume hloop hret =>
      refine h.left hloop hret fun k heq => ?_
      obtain ⟨id, hreport⟩ := (h.reporting k).mp heq
      cases hloop.symm.trans hreport
  | receive hfree _ _ hst => exact h.inferring hfree hst
  | @report k mark _ _ _ _ _ hfree hk _ hst =>
      refine h.entered hfree (fun payload hop => by cases hop) hst fun j => ?_
      show Function.update s.handlers k (some Handler.reporting) j = some .reporting ↔ _
      by_cases hj : j = k
      · rw [hj]
        simp
      · rw [Function.update_of_ne hj]
        constructor
        · intro heq
          exact absurd heq (h.none_reporting hfree j)
        · intro heq
          exact absurd (Option.some_inj.mp heq).symm hj
  | @reported k mark out hloop hret =>
      refine h.left hloop hret fun j => ?_
      by_cases hj : j = k
      · rw [hj]
        simp
      · rw [Function.update_of_ne hj]
        intro heq
        obtain ⟨id, hreport⟩ := (h.reporting j).mp heq
        cases hloop.symm.trans hreport
        exact hj rfl
  | accept hfree | reject hfree | result hfree | send hfree | drop hfree | hangUp hfree
  | cancel hfree => exact h.handled hfree (by simp)
  | stop => exact ⟨h.others, h.loop, h.begun, h.reporting⟩
  | shutdown hfree _ _ _ hst =>
      refine h.entered hfree (fun payload hop => by cases hop) hst fun k => ?_
      exact ⟨fun heq => absurd heq (h.none_reporting hfree k), fun heq => by cases heq⟩

theorem ServerRun.loopInv (h : ServerRun cfg nx lib mp server es s) : LoopInv s := by
  refine Run.invariant_state (M := serverProcess cfg nx lib mp server) LoopInv ?_ ?_ h
  · rintro s ⟨dirs, rfl⟩
    refine ⟨?_, ?_, ?_, ?_⟩
    · intro id pc hc
      cases hc
    · intro c pc hc
      cases hc
    · intro c hc
      cases hc
    · intro k
      constructor
      · intro hk
        cases hk
      · rintro ⟨id, hc⟩
        cases hc
  · intro s e s' hinv hst
    exact hinv.step hst

end Loop

end OvenRuntime
