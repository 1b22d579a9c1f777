/-
  OvenRuntime.Server.FailClosed
  ─────────────────────────────
  What becomes of a call whose audit call raises.

  Five operations call the store, behind five different exception filters.
  `audit_failure_closed_iff` says for each of them which failing file
  operations fail the runtime and leave the call as a `RuntimeFault`:

    infer                        any failure
    begin_trial                  any exception but an `OSError`, which the
                                 store turns into the fault it lets through
    end_trial, abort,
    mark_transport_ambiguous     an `OSError`, which the store turns into the
                                 only exception they catch
-/
import OvenRuntime.Server.Effects
import OvenRuntime.Server.Replay

namespace OvenRuntime

/-! ## §1. The audit call of a step. -/

/-- What a store operation raises. -/
def raisedBy {α : Type} (r : Except Exn α × TrialAuditStore) : Option Exn :=
  match r.1 with
  | .error e => some e
  | .ok _ => none

/-- The exception of the audit call that a step makes, if it makes one and it
raises. -/
def auditRaises (nx : Numerics) (rt : PolicyRuntime) : Pc → Choice → Option Exn
  | .beginSection trial_id root_seed, .begun (.ok ()) io =>
      if rt.state = .READY ∧ rt.trial_id = none then
        rt.active_skill.bind fun skill =>
          raisedBy (rt.audit.begin trial_id skill rt.generation root_seed io)
      else none
  | .inferRecord inf, .io io =>
      raisedBy (rt.audit.record_request nx inf.row inf.result.actions inf.request.observation io)
  | .endTrial, .io io =>
      if rt.activeLease = none ∧ rt.trial_id ≠ none then raisedBy (rt.audit.end io) else none
  | .abortSection reason, .io io => raisedBy (rt.audit.abort reason io)
  | .markAmbiguous session_id sequence, .io io =>
      if rt.session.map (·.session_id) = some session_id then
        raisedBy (rt.audit.mark_ambiguous PolicyRuntime.ambiguityReason sequence io)
      else none
  | _, _ => none

/-- The first exception of a sequence of file operations, each given with
whether what it writes is encodable. -/
def firstRaised : List (WriteOutcome × Bool) → Option PyError
  | [] => none
  | (w, encodable) :: writes =>
      match (_atomic_json w encodable).1 with
      | some e => some e
      | none => firstRaised writes

/-- The file operations of the audit call of a step, `infer` apart. -/
def auditWrites (rt : PolicyRuntime) : Pc → Choice → List (WriteOutcome × Bool)
  | .beginSection trial_id _, .begun _ io =>
      [(if (rt.audit.dirs trial_id).isSome then .raised .FileExistsError false else io 0, true),
       (io 1, trial_id.encodable && (rt.active_skill.map PyStr.encodable).getD true)]
  | .endTrial, .io io => [(io 0, true), (io 1, true)]
  | .abortSection reason, .io io => [(io 0, reason.encodable)]
  | .markAmbiguous _ _, .io io => [(io 0, true)]
  | _, _ => []

/-- The failures each operation deals with by failing the runtime. -/
def AuditFailureHandled (rt : PolicyRuntime) (pc : Pc) (ch : Choice) : Prop :=
  match pc with
  | .inferRecord _ => True
  | .beginSection _ _ => ((firstRaised (auditWrites rt pc ch)).any PyError.isOSError) = false
  | _ => ((firstRaised (auditWrites rt pc ch)).any PyError.isOSError) = true

/-! ## §2. Failing closed. -/

/-- The call can finish on its own, and whenever it has finished it has
raised a `RuntimeFault` and the runtime is FAILED or STOPPING. -/
def FailsClosed (cfg : RuntimeConfig) (nx : Numerics) (s : Sys) (id : Nat) : Prop :=
  (∃ ls s' out, TransitionSystem.Path (runtimeSystem cfg nx) s ls s' ∧
    (∀ l ∈ ls, ∃ pc ch next, l = .step id pc ch next) ∧
    s'.calls id = some (.returned out)) ∧
  ∀ ls s' out, TransitionSystem.Path (runtimeSystem cfg nx) s ls s' →
    s'.calls id = some (.returned out) → (∃ f, out = .error (.fault f)) ∧ s'.rt.state.down

/-- The fault a call is about to raise, or has raised. -/
def CallState.raising : CallState → Option RuntimeFault
  | .running (.inferLeave _ _ (.error (.fault f))) => some f
  | .running (.inferRelease (.error (.fault f))) => some f
  | .running (.beginRelease (.error (.fault f))) => some f
  | .running (.abortRelease (.error (.fault f))) => some f
  | .returned (.error (.fault f)) => some f
  | _ => none

/-- The call is in an exception handler that fails the runtime. -/
def CallState.handling : CallState → Bool
  | .running (.inferFailed _ _ _) => true
  | .running .beginFailed => true
  | _ => false

/-- The call is on its way to fail closed. -/
def Closing (s : Sys) (id : Nat) : Prop :=
  ∃ c, s.calls id = some c ∧
    (c.handling = true ∨ s.rt.state.down ∧ ∃ f, c.raising = some f)

/-- The own steps of a closing call. -/
theorem Advance.closing {cfg : RuntimeConfig} {nx : Numerics} {id : Nat} {rt rt' : PolicyRuntime}
    {pc : Pc} {ch : Choice} {next : CallState} (h : Advance cfg nx id rt pc ch rt' next)
    (hc : (CallState.running pc).handling = true ∨
      rt.state.down ∧ ∃ f, (CallState.running pc).raising = some f) :
    rt'.state.down ∧ ∃ f, next.raising = some f := by
  cases h with
  | @inferFailed request ref e out rt₁ he =>
      obtain ⟨f, code, hf⟩ := rt.inferFail_eq e
      cases he.symm.trans hf
      exact ⟨rt.failed_down _, f, rfl⟩
  | @beginFailed f => exact ⟨rt.failed_down _, f, rfl⟩
  | @inferLeave request ref out | @inferRelease out | @beginRelease out | @abortRelease out =>
      rcases hc with hc | ⟨hd, f, hf⟩
      · cases hc
      · cases out with
        | ok r => cases hf
        | error e =>
            cases e with
            | error e => cases hf
            | fault f' => exact ⟨hd, f', rfl⟩
  | _ =>
      rcases hc with hc | ⟨-, f, hf⟩
      · cases hc
      · cases hf

/-- A closing call stays so, whatever else happens. -/
theorem Closing.step {cfg : RuntimeConfig} {nx : Numerics} {s s' : Sys} {l : Label} {id : Nat}
    (h : Closing s id) (hs : Step cfg nx s l s') : Closing s' id := by
  obtain ⟨c, hc, hcl⟩ := h
  have hdown := Step.down hs
  rcases step_cases hs with ⟨j, op, -, hnone, rfl⟩ | ⟨j, pc, ch, rt', next, -, hpc, ha, rfl⟩
  · have hne : id ≠ j := by
      rintro rfl
      rw [hnone] at hc
      cases hc
    exact ⟨c, by rw [Sys.setCall_other _ _ _ hne]; exact hc, hcl⟩
  · by_cases hj : id = j
    · subst hj
      rw [hpc] at hc
      cases hc
      exact ⟨next, Sys.setCall_self _ _ _ _, .inr (ha.closing hcl)⟩
    · refine ⟨c, by rw [Sys.setCall_other _ _ _ hj]; exact hc, ?_⟩
      rcases hcl with hcl | ⟨hd, hf⟩
      · exact .inl hcl
      · exact .inr ⟨hdown hd, hf⟩

theorem Closing.path {cfg : RuntimeConfig} {nx : Numerics} {s s' : Sys} {ls : List Label}
    {id : Nat} (h : Closing s id)
    (hp : TransitionSystem.Path (runtimeSystem cfg nx) s ls s') : Closing s' id :=
  hp.preserves (fun s => Closing s id) (fun _ _ _ hc hs => Closing.step hc hs) h

/-- A step leaves its call where its label says. -/
theorem Step.call_after {cfg : RuntimeConfig} {nx : Numerics} {s s' : Sys} {id : Nat} {pc : Pc}
    {ch : Choice} {next : CallState} (h : Step cfg nx s (.step id pc ch next) s') :
    s'.calls id = some next := by
  cases h
  exact Sys.setCall_self _ _ _ _

/-! ## §3. A closing call finishes. -/

/-- How many steps a closing call has left. -/
def CallState.stepsLeft : CallState → Nat
  | .running (.inferFailed _ _ _) => 3
  | .running (.inferLeave _ _ _) => 2
  | .running .beginFailed => 2
  | .running _ => 1
  | .returned _ => 0

/-- A closing call has returned, or it has a step that depends on nothing. -/
theorem CallState.go_step (cfg : RuntimeConfig) (nx : Numerics) (id : Nat) (rt : PolicyRuntime)
    {c : CallState} (h : c.handling = true ∨ ∃ f, c.raising = some f) :
    (∃ out, c = .returned out) ∨
    ∃ pc rt' next, c = .running pc ∧ callStep cfg nx id pc .go rt = some (rt', next) ∧
      next.stepsLeft < c.stepsLeft := by
  cases c with
  | returned out => exact .inl ⟨out, rfl⟩
  | running pc =>
      right
      cases pc with
      | inferFailed | inferLeave | inferRelease | beginFailed | beginRelease | abortRelease =>
          refine ⟨_, _, _, rfl, rfl, ?_⟩
          simp [stepsLeft, returning]
      | _ =>
          exfalso
          rcases h with h | ⟨f, hf⟩
          · cases h
          · cases hf

/-- By induction on the steps it has left. -/
theorem Closing.finishes (cfg : RuntimeConfig) (nx : Numerics) {id : Nat} (n : Nat) :
    ∀ {s : Sys} {c : CallState}, Closing s id → s.calls id = some c → c.stepsLeft ≤ n →
      ∃ ls s' out, TransitionSystem.Path (runtimeSystem cfg nx) s ls s' ∧
        (∀ l ∈ ls, ∃ pc ch next, l = .step id pc ch next) ∧
        s'.calls id = some (.returned out) := by
  induction n with
  | zero =>
      intro s c h hc hn
      obtain ⟨c', hc', hcl⟩ := h
      cases hc.symm.trans hc'
      rcases CallState.go_step cfg nx id s.rt (hcl.imp_right And.right) with
        ⟨out, rfl⟩ | ⟨pc, rt', next, -, -, hlt⟩
      · exact ⟨[], s, out, .nil s, by simp, hc⟩
      · omega
  | succ n ih =>
      intro s c h hc hn
      have ⟨c', hc', hcl⟩ := h
      cases hc.symm.trans hc'
      rcases CallState.go_step cfg nx id s.rt (hcl.imp_right And.right) with
        ⟨out, rfl⟩ | ⟨pc, rt', next, rfl, hstep, hlt⟩
      · exact ⟨[], s, out, .nil s, by simp, hc⟩
      · have hs : Step cfg nx s (.step id pc .go next) (s.setCall rt' id next) := .step hc hstep
        obtain ⟨ls, s', out, hp, hown, hret⟩ :=
          ih (h.step hs) (Sys.setCall_self _ _ _ _) (by omega)
        refine ⟨_ :: ls, s', out, .cons hs hp, ?_, hret⟩
        intro l hl
        rcases List.mem_cons.mp hl with rfl | hl
        · exact ⟨_, _, _, rfl⟩
        · exact hown l hl

/-- A closing call fails closed. -/
theorem Closing.failsClosed (cfg : RuntimeConfig) (nx : Numerics) {s : Sys} {id : Nat}
    (h : Closing s id) : FailsClosed cfg nx s id := by
  have ⟨c, hc, _⟩ := h
  refine ⟨h.finishes cfg nx c.stepsLeft hc le_rfl, ?_⟩
  intro ls s' out hp hout
  obtain ⟨c', hc', hcl⟩ := h.path hp
  cases hout.symm.trans hc'
  rcases hcl with hcl | ⟨hdown, f, hf⟩
  · cases hcl
  · refine ⟨?_, hdown⟩
    cases out with
    | ok r => cases hf
    | error e =>
        cases e with
        | error e => cases hf
        | fault f' => exact ⟨f', rfl⟩

/-! ## §4. What the store raises. -/

@[simp] theorem firstRaised_nil : firstRaised [] = none := rfl

theorem firstRaised_cons (w : WriteOutcome) (encodable : Bool)
    (writes : List (WriteOutcome × Bool)) :
    firstRaised ((w, encodable) :: writes) =
      match (_atomic_json w encodable).1 with
      | some e => some e
      | none => firstRaised writes := rfl

@[simp] theorem auditFault_isFault (message : String) (details : List (String × Value))
    (e : PyError) : (auditFault message details e).isFault = e.isOSError := by
  unfold auditFault
  cases h : e.isOSError <;> rfl

@[simp] theorem beginFault_isFault (trial_id : PyStr) (e : PyError) :
    (beginFault trial_id e).isFault = e.isOSError := by
  unfold beginFault
  by_cases h : e = .FileExistsError
  · subst h
    rfl
  · rw [if_neg h, auditFault_isFault]

namespace TrialAuditStore

theorem beginWrite_raised {st : TrialAuditStore} {trial_id skill : PyStr} {generation : Nat}
    {root_seed : Int} {w : WriteOutcome} {e : Exn}
    (h : (st.beginWrite trial_id skill generation root_seed w).1 = .error e) :
    ∃ raw, firstRaised [(w, trial_id.encodable && skill.encodable)] = some raw ∧
      e = beginFault trial_id raw := by
  have henc : (beginManifest trial_id skill generation root_seed).encodable
      = (trial_id.encodable && skill.encodable) := by
    simp [beginManifest, TrialRecord.encodable]
  unfold beginWrite at h
  simp only [henc] at h
  cases hw : (_atomic_json w (trial_id.encodable && skill.encodable)).1 with
  | none =>
      rw [hw] at h
      cases h
  | some raw =>
      rw [hw] at h
      cases h
      exact ⟨raw, by rw [firstRaised_cons, hw], rfl⟩

/-- `begin` raises for its first failing file operation. -/
theorem begin_raised {st : TrialAuditStore} {trial_id skill : PyStr} {generation : Nat}
    {root_seed : Int} {io : Io} {e : Exn} (hact : st.active = none)
    (h : (st.begin trial_id skill generation root_seed io).1 = .error e) :
    ∃ raw, firstRaised
        [(if (st.dirs trial_id).isSome then .raised .FileExistsError false else io 0, true),
         (io 1, trial_id.encodable && skill.encodable)] = some raw ∧
      e = beginFault trial_id raw := by
  unfold TrialAuditStore.begin at h
  rw [hact] at h
  simp only at h
  by_cases hdir : (st.dirs trial_id).isSome = true
  · rw [if_pos hdir] at h ⊢
    cases h
    exact ⟨_, rfl, rfl⟩
  · rw [if_neg hdir] at h ⊢
    cases hio : io 0 with
    | raised raw applied =>
        rw [hio] at h
        cases h
        exact ⟨raw, rfl, rfl⟩
    | done =>
        rw [hio] at h
        exact beginWrite_raised h

/-- `end` raises for the first of its two writes that fails. -/
theorem end_raised {st : TrialAuditStore} {a : ActiveTrial} {io : Io} {e : Exn}
    (hact : st.active = some a) (ht : a.trial_id.encodable = true)
    (hs : a.skill.encodable = true) (h : (st.end io).1 = .error e) :
    ∃ raw, firstRaised [(io 0, true), (io 1, true)] = some raw ∧ e.isFault = raw.isOSError := by
  have henc : a.summary.encodable = true := by
    simp [ActiveTrial.summary, TrialRecord.encodable, ht, hs]
  unfold TrialAuditStore.end at h
  rw [hact] at h
  simp only [henc] at h
  cases h0 : (_atomic_json (io 0) true).1 with
  | some raw =>
      rw [h0] at h
      cases h
      exact ⟨raw, by rw [firstRaised_cons, h0], auditFault_isFault _ _ _⟩
  | none =>
      rw [h0] at h
      simp only at h
      cases h1 : (_atomic_json (io 1) true).1 with
      | some raw =>
          rw [h1] at h
          cases h
          exact ⟨raw, by rw [firstRaised_cons, h0, firstRaised_cons, h1],
            auditFault_isFault _ _ _⟩
      | none =>
          rw [h1] at h
          cases h

/-- `abort` and `mark_ambiguous` raise for their one write. -/
theorem _terminate_raises {st : TrialAuditStore} {status : TrialStatus} {reason : PyStr}
    {sequence : Option Int} {io : Io} {e : Exn}
    (henc : ∀ a, st.active = some a → a.trial_id.encodable = true ∧ a.skill.encodable = true)
    (h : (st._terminate status reason sequence io).1 = .error e) :
    ∃ raw, firstRaised [(io 0, reason.encodable)] = some raw ∧ e.isFault = raw.isOSError := by
  unfold _terminate at h
  cases hact : st.active with
  | none =>
      rw [hact] at h
      cases h
  | some a =>
      have hrec : (a.terminated status reason sequence).encodable = reason.encodable := by
        simp [ActiveTrial.terminated, TrialRecord.encodable, henc a hact]
      rw [hact] at h
      simp only [hrec] at h
      cases h0 : (_atomic_json (io 0) reason.encodable).1 with
      | some raw =>
          rw [h0] at h
          cases h
          exact ⟨raw, by rw [firstRaised_cons, h0], auditFault_isFault _ _ _⟩
      | none =>
          rw [h0] at h
          cases h

end TrialAuditStore

theorem raisedBy_eq {α : Type} {r : Except Exn α × TrialAuditStore} {e : Exn}
    (h : raisedBy r = some e) : r.1 = .error e := by
  unfold raisedBy at h
  split at h
  · cases h
    assumption
  · cases h

/-! ## §5. What the operations make of it. -/

/-- The section of `begin_trial` raises what the store raises. -/
theorem PolicyRuntime.beginSection_raised (rt : PolicyRuntime) {trial_id skill : PyStr}
    {root_seed : Int} {u : Unit} {io : Io} {e : Exn} (hst : rt.state = .READY)
    (ht : rt.trial_id = none) (hskill : rt.active_skill = some skill)
    (hb : (rt.audit.begin trial_id skill rt.generation root_seed io).1 = .error e) :
    rt.beginSection trial_id root_seed (.ok u) io =
      (.error e, { rt with
        audit := (rt.audit.begin trial_id skill rt.generation root_seed io).2 }) := by
  unfold beginSection
  rw [if_neg (by simpa using hst), if_neg (by simpa using ht), hskill]
  simp only
  generalize rt.audit.begin trial_id skill rt.generation root_seed io = r at hb ⊢
  obtain ⟨r, audit⟩ := r
  cases hb
  rfl

/-- The call leaves with another exception than a `RuntimeFault`, or with the
runtime up. -/
def LeftOpen (rt : PolicyRuntime) (next : CallState) : Prop :=
  (∃ e, next = .returned (.error (.error e))) ∨
  (∃ e, next = .running (.abortRelease (.error (.error e)))) ∨
  ((∃ f, next = .running (.beginRelease (.error (.fault f)))) ∧ ¬ rt.state.down)

/-- A call that is left open does not fail closed. -/
theorem LeftOpen.not_failsClosed {cfg : RuntimeConfig} {nx : Numerics} {s : Sys} {id : Nat}
    {next : CallState} (h : LeftOpen s.rt next) (hc : s.calls id = some next) :
    ¬ FailsClosed cfg nx s id := by
  rintro ⟨-, hall⟩
  rcases h with ⟨e, rfl⟩ | ⟨e, rfl⟩ | ⟨⟨f, rfl⟩, hup⟩
  · obtain ⟨⟨f, hf⟩, -⟩ := hall [] s _ (.nil s) hc
    cases hf
  · have hs : Step cfg nx s (.step id _ .go _) _ := .step hc rfl
    obtain ⟨⟨f, hf⟩, -⟩ := hall _ _ _ (.single hs) (Sys.setCall_self _ _ _ _)
    cases hf
  · have hs : Step cfg nx s (.step id _ .go _) _ := .step hc rfl
    obtain ⟨-, hdown⟩ := hall _ _ _ (.single hs) (Sys.setCall_self _ _ _ _)
    exact hup hdown

/-- What becomes of a call whose audit call raises. -/
def Outcome (rt rt' : PolicyRuntime) (pc : Pc) (ch : Choice) (next : CallState) : Prop :=
  (AuditFailureHandled rt pc ch ∧
    (next.handling = true ∨ rt'.state.down ∧ ∃ f, next.raising = some f)) ∨
  (¬ AuditFailureHandled rt pc ch ∧ LeftOpen rt' next)

/-- The filter of `end_trial`, `abort` and `mark_transport_ambiguous`: only a
fault fails the runtime. -/
theorem PolicyRuntime.AuditRaised.outcome {rt rt₀ rt' : PolicyRuntime} {e : Exn} {pc : Pc}
    {ch : Choice} {next : CallState} (h : rt₀.AuditRaised e rt')
    (hhandled : AuditFailureHandled rt pc ch ↔ e.isFault = true)
    (hclosing : ∀ f, e = .fault f → next.raising = some f)
    (hopen : ∀ e', e = .error e' → LeftOpen rt' next) : Outcome rt rt' pc ch next := by
  cases h with
  | fault f audit =>
      exact .inl ⟨hhandled.mpr rfl, .inr ⟨PolicyRuntime.failed_down _ _, f, hclosing f rfl⟩⟩
  | error e' audit =>
      refine .inr ⟨?_, hopen e' rfl⟩
      intro hh
      cases hhandled.mp hh

/-- `begin_trial`: a fault of the store is passed on and the runtime stays
READY, anything else fails it. -/
theorem PolicyRuntime.WF.beginSection_outcome {nx : Numerics} {rt rt' : PolicyRuntime}
    (hwf : rt.WF) {trial_id : PyStr} {root_seed : Int} {reset : Except Exn Unit} {io : Io}
    {r : Except Exn Status} {e : Exn}
    (he : rt.beginSection trial_id root_seed reset io = (r, rt'))
    (hraise : auditRaises nx rt (.beginSection trial_id root_seed) (.begun reset io) = some e) :
    Outcome rt rt' (.beginSection trial_id root_seed) (.begun reset io) (afterBegin r) := by
  cases reset with
  | error e' => cases hraise
  | ok u =>
      simp only [auditRaises] at hraise
      by_cases hst : rt.state = .READY ∧ rt.trial_id = none
      · rw [if_pos hst] at hraise
        obtain ⟨skill, hskill, hraise⟩ := Option.bind_eq_some_iff.mp hraise
        have hb := raisedBy_eq hraise
        obtain ⟨raw, hraw, hfault⟩ :=
          TrialAuditStore.begin_raised (hwf.trial_id_none_iff.mp hst.2) hb
        have hwrites : firstRaised (auditWrites rt (.beginSection trial_id root_seed)
            (.begun (.ok u) io)) = some raw := by
          unfold auditWrites
          rw [hskill]
          exact hraw
        have hkind : e.isFault = raw.isOSError := by rw [hfault, beginFault_isFault]
        obtain ⟨rfl, rfl⟩ := Prod.mk.inj
          ((rt.beginSection_raised hst.1 hst.2 hskill hb).symm.trans he)
        have hhandled : AuditFailureHandled rt (.beginSection trial_id root_seed)
            (.begun (.ok u) io) ↔ e.isFault = false := by
          unfold AuditFailureHandled
          simp only [hwrites, Option.any_some, hkind]
        cases e with
        | error e' => exact .inl ⟨hhandled.mpr rfl, .inl rfl⟩
        | fault f =>
            refine .inr ⟨fun hh => (nomatch hhandled.mp hh), .inr (.inr ⟨⟨f, rfl⟩, ?_⟩)⟩
            show ¬ rt.state.down
            rw [hst.1]
            exact RuntimeState.READY_not_down
      · rw [if_neg hst] at hraise
        cases hraise

/-- `end_trial` catches faults only. -/
theorem PolicyRuntime.WF.endTrial_outcome {nx : Numerics} {rt rt' : PolicyRuntime}
    (hwf : rt.WF) {io : Io} {r : Except Exn TrialRecord} {e : Exn}
    (he : rt.endTrial io = (r, rt')) (hraise : auditRaises nx rt .endTrial (.io io) = some e) :
    Outcome rt rt' .endTrial (.io io) (returning .trial r) := by
  simp only [auditRaises] at hraise
  by_cases hc : rt.activeLease = none ∧ rt.trial_id ≠ none
  · rw [if_pos hc] at hraise
    have hb := raisedBy_eq hraise
    obtain ⟨trial_id, ht⟩ := Option.ne_none_iff_exists'.mp hc.2
    obtain ⟨a, ha, -, hrec⟩ := hwf.recorded ht
    obtain ⟨raw, hraw, hkind⟩ :=
      TrialAuditStore.end_raised ha hrec.encodable.1 hrec.encodable.2 hb
    rcases rt.endTrial_cases io with ⟨e', hno, -⟩ | ⟨e', rt₂, -, -, hb', har, hrun⟩
      | ⟨a', audit, -, -, hok, -⟩
    · rcases hno with hno | hno
      · exact absurd hc.1 hno
      · exact absurd hno hc.2
    · cases hb.symm.trans hb'
      cases he.symm.trans hrun
      apply har.outcome
      · simp only [AuditFailureHandled, auditWrites, hraw, Option.any_some, hkind]
      · rintro f rfl
        rfl
      · rintro e' rfl
        exact .inl ⟨e', rfl⟩
    · cases hb.symm.trans hok
  · rw [if_neg hc] at hraise
    cases hraise

/-- `abort` likewise. -/
theorem PolicyRuntime.WF.abortSection_outcome {nx : Numerics} {rt rt' : PolicyRuntime}
    (hwf : rt.WF) {reason : PyStr} {io : Io}
    {r : Except Exn (RuntimeState × Option TrialRecord)} {e : Exn}
    (he : rt.abortSection reason io = (r, rt'))
    (hraise : auditRaises nx rt (.abortSection reason) (.io io) = some e) :
    Outcome rt rt' (.abortSection reason) (.io io) (.running (.abortRelease r)) := by
  have hb := raisedBy_eq hraise
  obtain ⟨raw, hraw, hkind⟩ :=
    TrialAuditStore._terminate_raises (fun a ha => (hwf.trial a ha).encodable) hb
  rcases rt.abortSection_cases reason io with ⟨e', rt₂, hb', har, hrun⟩
    | ⟨summary, out, audit, hok, -⟩
  · cases hb.symm.trans hb'
    cases he.symm.trans hrun
    apply har.outcome
    · simp only [AuditFailureHandled, auditWrites, hraw, Option.any_some, hkind]
    · rintro f rfl
      rfl
    · rintro e' rfl
      exact .inr (.inl ⟨e', rfl⟩)
  · cases hb.symm.trans hok

/-- `mark_transport_ambiguous` likewise, with a lease to report on. -/
theorem PolicyRuntime.WF.markAmbiguous_outcome {nx : Numerics} {rt rt' : PolicyRuntime}
    (hwf : rt.WF) {session_id : PyStr} {sequence : Int} {io : Io}
    {r : Except Exn (RuntimeState × Option TrialRecord)} {e : Exn}
    (he : rt.markAmbiguous session_id sequence io = (r, rt'))
    (hraise : auditRaises nx rt (.markAmbiguous session_id sequence) (.io io) = some e) :
    Outcome rt rt' (.markAmbiguous session_id sequence) (.io io)
      (returning (fun r => .terminated r.1 r.2) r) := by
  simp only [auditRaises] at hraise
  by_cases hs : rt.session.map (·.session_id) = some session_id
  · rw [if_pos hs] at hraise
    have hb := raisedBy_eq hraise
    obtain ⟨raw, hraw, hkind⟩ :=
      TrialAuditStore._terminate_raises (fun a ha => (hwf.trial a ha).encodable) hb
    rw [ambiguityReason_encodable] at hraw
    rcases rt.markAmbiguous_cases session_id sequence io with ⟨hno, -⟩
      | ⟨lease, -, -, ⟨e', rt₂, hb', har, hrun⟩ | ⟨summary, out, audit, hok, -⟩⟩
    · obtain ⟨lease, hl, hid⟩ := Option.map_eq_some_iff.mp hs
      exact absurd hid (hno lease hl)
    · cases hb.symm.trans hb'
      cases he.symm.trans hrun
      apply har.outcome
      · simp only [AuditFailureHandled, auditWrites, hraw, Option.any_some, hkind]
      · rintro f rfl
        rfl
      · rintro e' rfl
        exact .inl ⟨e', rfl⟩
    · cases hb.symm.trans hok
  · rw [if_neg hs] at hraise
    cases hraise

/-- The five operations together. -/
theorem Advance.outcome {cfg : RuntimeConfig} {nx : Numerics} {id : Nat}
    {rt rt' : PolicyRuntime} {pc : Pc} {ch : Choice} {next : CallState} {e : Exn} (hwf : rt.WF)
    (h : Advance cfg nx id rt pc ch rt' next) (hraise : auditRaises nx rt pc ch = some e) :
    Outcome rt rt' pc ch next := by
  cases h with
  | inferRecord he =>
      -- `infer` catches every exception
      cases (congrArg Prod.fst he).symm.trans (raisedBy_eq hraise)
      exact .inl ⟨trivial, .inl rfl⟩
  | beginSection he => exact hwf.beginSection_outcome he hraise
  | endTrial he => exact hwf.endTrial_outcome he hraise
  | abortSection he => exact hwf.abortSection_outcome he hraise
  | markAmbiguous he => exact hwf.markAmbiguous_outcome he hraise
  | _ => cases hraise

/-- **Audit failures**: the operation raises a `RuntimeFault` and leaves the
runtime FAILED or STOPPING exactly when its filter deals with the failure. -/
theorem audit_failure_closed_iff {cfg : RuntimeConfig} {nx : Numerics} {ls : List Label}
    {s s' : Sys} {id : Nat} {pc : Pc} {ch : Choice} {next : CallState} {e : Exn}
    (h : RuntimeRun cfg nx ls s) (hs : Step cfg nx s (.step id pc ch next) s')
    (hraise : auditRaises nx s.rt pc ch = some e) :
    FailsClosed cfg nx s' id ↔ AuditFailureHandled s.rt pc ch := by
  have hwf := (RuntimeRun.inv h).wf
  have hself := Step.call_after hs
  have ha : Advance cfg nx id s.rt pc ch s'.rt next := by
    rcases step_cases hs with ⟨_, _, hl, -, -⟩ | ⟨_, _, _, rt', _, hl, -, ha, rfl⟩
    · cases hl
    · cases hl
      exact ha
  rcases ha.outcome hwf hraise with ⟨hhandled, hclosing⟩ | ⟨hnot, hopen⟩
  · have hc : Closing s' id := ⟨next, hself, hclosing⟩
    exact ⟨fun _ => hhandled, fun _ => hc.failsClosed cfg nx⟩
  · exact ⟨fun hf => absurd hf (hopen.not_failsClosed hself), fun hh => absurd hh hnot⟩

/-- A step of `end_trial` in which an audit write raises an `OSError`. -/
def raisesInEndTrial (s : Sys) : Label → Bool
  | .step _ .endTrial (.io io) _ =>
      (auditRaises constNumerics s.rt .endTrial (.io io)).isSome &&
        (firstRaised (auditWrites s.rt .endTrial (.io io))).any PyError.isOSError
  | _ => false

/-- The second write of `end_trial` fails with an `OSError`. -/
theorem audit_failure_closed_iff_end_trial : ∃ ls s s' id pc ch next e,
    RuntimeRun defaultConfig constNumerics ls s ∧
      Step defaultConfig constNumerics s (.step id pc ch next) s' ∧
      auditRaises constNumerics s.rt pc ch = some e ∧
      FailsClosed defaultConfig constNumerics s' id := by
  obtain ⟨ls, s, l, s', hrun, hstep, hp⟩ := Sys.exists_step defaultConfig constNumerics
    (fun _ => none)
    (warmUp sampleId sampleToken ++ inferMoves 3 0 ++
      [.call 4 (.close_session sampleId), .step 4 .go, .call 5 .end_trial])
    (.step 5 (.io fun n => if n = 1 then .raised .OSError false else .done))
    (fun _ s l _ => raisesInEndTrial s l) (by decide +kernel)
  unfold raisesInEndTrial at hp
  split at hp
  · rename_i id io next
    rw [Bool.and_eq_true, Option.isSome_iff_exists] at hp
    obtain ⟨⟨e, he⟩, hos⟩ := hp
    exact ⟨ls, s, s', id, .endTrial, .io io, next, e, hrun, hstep, he,
      (audit_failure_closed_iff hrun hstep he).mpr hos⟩
  · cases hp

/-- A step of `begin_trial` in which an audit write raises. -/
def raisesInBegin (s : Sys) : Label → Bool
  | .step _ (.beginSection trial_id root_seed) (.begun (.ok ()) io)
      (.running (.beginRelease (.error (.fault _)))) =>
      (auditRaises constNumerics s.rt (.beginSection trial_id root_seed) (.begun (.ok ()) io)).isSome
  | _ => false

/-- A step of `abort` that ends in an error of the audit store. -/
def raisesInAbort (s : Sys) : Label → Bool
  | .step _ (.abortSection reason) (.io io) (.running (.abortRelease (.error (.error _)))) =>
      (auditRaises constNumerics s.rt (.abortSection reason) (.io io)).isSome
  | _ => false

/-- **Audit failures that leave the runtime READY**: `begin_trial` in a
directory that is there already, and an abort reason that is a lone
surrogate. -/
theorem audit_failure_left_open :
    (∃ ls s s' id trial_id root_seed io next e,
      RuntimeRun defaultConfig constNumerics ls s ∧
        Step defaultConfig constNumerics s
          (.step id (.beginSection trial_id root_seed) (.begun (.ok ()) io) next) s' ∧
        auditRaises constNumerics s.rt (.beginSection trial_id root_seed) (.begun (.ok ()) io)
          = some e ∧
        s'.rt.state = .READY ∧ ¬ FailsClosed defaultConfig constNumerics s' id) ∧
    (∃ ls s s' id reason io next e,
      RuntimeRun defaultConfig constNumerics ls s ∧
        Step defaultConfig constNumerics s (.step id (.abortSection reason) (.io io) next) s' ∧
        auditRaises constNumerics s.rt (.abortSection reason) (.io io) = some e ∧
        s'.rt.state = .READY ∧ ¬ FailsClosed defaultConfig constNumerics s' id) := by
  constructor
  · obtain ⟨ls, s, l, s', hrun, hstep, hp⟩ := Sys.exists_step defaultConfig constNumerics
      (fun d => if d = py "run_0_fold" then some {} else none)
      (prepareMoves 0 (py "fold") ++
        [.call 1 (.begin_trial (.str (py "run_0_fold")) (.int 7)), .step 1 .acquired])
      (.step 1 (.begun (.ok ()) Io.clean))
      (fun _ s l s' => raisesInBegin s l && decide (s'.rt.state = .READY)) (by decide +kernel)
    unfold raisesInBegin at hp
    split at hp
    · rename_i id trial_id root_seed io f
      rw [Bool.and_eq_true, Option.isSome_iff_exists, decide_eq_true_eq] at hp
      obtain ⟨⟨e, he⟩, hready⟩ := hp
      refine ⟨ls, s, s', id, trial_id, root_seed, io, _, e, hrun, hstep, he, hready, ?_⟩
      have hup : ¬ s'.rt.state.down := by
        rw [hready]
        exact RuntimeState.READY_not_down
      exact LeftOpen.not_failsClosed (.inr (.inr ⟨⟨f, rfl⟩, hup⟩)) hstep.call_after
    · cases hp
  · obtain ⟨ls, s, l, s', hrun, hstep, hp⟩ := Sys.exists_step defaultConfig constNumerics
      (fun _ => none)
      (warmUp sampleId sampleToken ++ [.call 3 (.abort [0xD800]), .step 3 .acquired])
      (.step 3 (.io Io.clean))
      (fun _ s l s' => raisesInAbort s l && decide (s'.rt.state = .READY)) (by decide +kernel)
    unfold raisesInAbort at hp
    split at hp
    · rename_i id reason io e'
      rw [Bool.and_eq_true, Option.isSome_iff_exists, decide_eq_true_eq] at hp
      obtain ⟨⟨e, he⟩, hready⟩ := hp
      refine ⟨ls, s, s', id, reason, io, _, e, hrun, hstep, he, hready, ?_⟩
      exact LeftOpen.not_failsClosed (.inr (.inl ⟨e', rfl⟩)) hstep.call_after
    · cases hp

end OvenRuntime
