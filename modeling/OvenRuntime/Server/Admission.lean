/-
  OvenRuntime.Server.Admission
  ────────────────────────────
  How `infer` rejects a request.

  A call that does not get to the policy raises, and nearly always a fault.
  What escapes: the parser sorts names it cannot sort, takes the truth of an
  array and has the `repr` of a request kind made, which may recur too far; and
  the lease check compares tokens that are not ASCII.  A call ends in some other
  exception exactly if it meets one of these (`infer_faults_iff`).
-/
import OvenRuntime.Common.ProtocolRules
import OvenRuntime.Server.ExactlyOnce
import OvenRuntime.Server.Replay

namespace OvenRuntime

open TransitionSystem

/-! ## §1. Drawn strings. -/

/-- `str(uuid4())` and `secrets.token_urlsafe` are ASCII. -/
def AsciiDraws (ls : List Label) : Prop :=
  ∀ id session_id token now next,
    Label.step id .openSession (.drawn session_id token now) next ∈ ls →
      session_id.isAscii = true ∧ token.isAscii = true

/-- What a step draws is ASCII. -/
def Label.drawsAscii : Label → Bool
  | .step _ .openSession (.drawn session_id token _) _ => session_id.isAscii && token.isAscii
  | _ => true

theorem asciiDraws_of_all {ls : List Label} (h : ls.all Label.drawsAscii = true) :
    AsciiDraws ls := by
  intro id session_id token now next hmem
  have := List.all_eq_true.mp h _ hmem
  exact Bool.and_eq_true_iff.mp this

/-- A stored lease has the strings of the one before, or drawn ones. -/
theorem Step.lease_strings {cfg : RuntimeConfig} {nx : Numerics} {s s' : Sys} {l : Label}
    (h : Step cfg nx s l s') {lease' : SessionLease} (hs' : s'.rt.session = some lease') :
    (∃ lease, s.rt.session = some lease ∧ lease'.session_id = lease.session_id ∧
      lease'.token = lease.token) ∨
    ∃ id session_id token now next, l = .step id .openSession (.drawn session_id token now) next ∧
      lease'.session_id = session_id ∧ lease'.token = token := by
  rcases Step.lease_cases h hs' with ⟨lease, hs, rfl | rfl, -⟩
    | ⟨id, trial_id, skill, session_id, token, now, grant, rfl, rfl⟩
  · exact .inl ⟨lease', hs, rfl, rfl⟩
  · exact .inl ⟨lease, hs, rfl, rfl⟩
  · exact .inr ⟨_, _, _, _, _, rfl, rfl, rfl⟩

/-- The strings of a stored lease are ASCII. -/
theorem RuntimeRun.ascii_lease {cfg : RuntimeConfig} {nx : Numerics} {ls : List Label} {s : Sys}
    (h : RuntimeRun cfg nx ls s) (hdraws : AsciiDraws ls) {lease : SessionLease}
    (hs : s.rt.session = some lease) :
    lease.session_id.isAscii = true ∧ lease.token.isAscii = true := by
  have hinv : AsciiDraws ls → ∀ lease, s.rt.session = some lease →
      lease.session_id.isAscii = true ∧ lease.token.isAscii = true := by
    refine Run.invariant (fun ls s => AsciiDraws ls → ∀ lease, s.rt.session = some lease →
      lease.session_id.isAscii = true ∧ lease.token.isAscii = true) ?_ ?_ h
    · rintro s ⟨dirs, rfl⟩ - lease hl
      cases hl
    · intro ls s l s' _ ih hst hdraws lease' hl'
      rcases Step.lease_strings hst hl' with ⟨lease, hl, hid, htoken⟩
        | ⟨id, session_id, token, now, next, rfl, hid, htoken⟩
      · rw [hid, htoken]
        exact ih (fun _ _ _ _ _ hmem => hdraws _ _ _ _ _ (List.mem_append_left _ hmem)) lease hl
      · rw [hid, htoken]
        exact hdraws _ _ _ _ _ (List.mem_append_right _ (List.mem_singleton_self _))
  exact hinv hdraws lease hs

/-! ## §2. What a call raises. -/

/-- The tokens of the request and of the live lease are compared. -/
def Compared (rt : PolicyRuntime) (request : InferenceRequest) (now : ℚ) : Prop :=
  ∃ lease, rt.session = some lease ∧ now < lease.expires_at_monotonic ∧
    request.session_id = lease.session_id

/-- The lease check compares a token that is not ASCII. -/
def BadComparison (rt : PolicyRuntime) (request : InferenceRequest) (now : ℚ) : Prop :=
  Compared rt request now ∧ request.session_token.isAscii = false

/-- The exceptions of the lease check are faults, but for a bad comparison. -/
theorem inferEnter_error_iff {rt rt' : PolicyRuntime} (hwf : rt.WF)
    (hascii : ∀ lease, rt.session = some lease → lease.token.isAscii = true)
    {request : InferenceRequest} {now : ℚ} {e : Exn}
    (h : rt.inferEnter request now = (.error e, rt')) :
    e.isFault = true ↔ ¬ BadComparison rt request now := by
  have hactive := hwf.activeLease
  unfold BadComparison Compared
  cases hs : rt.session with
  | none =>
      obtain ⟨f, hf⟩ := PolicyRuntime.inferEnter_none (hactive.trans hs) request now
      cases h.symm.trans hf
      simp [Exn.isFault]
  | some lease =>
      have hl := hactive.trans hs
      by_cases hexp : lease.expires_at_monotonic ≤ now
      · obtain ⟨f, hf⟩ := PolicyRuntime.inferEnter_expired hl request hexp
        cases h.symm.trans hf
        refine ⟨fun _ hbad => ?_, fun _ => rfl⟩
        obtain ⟨⟨lease', hlease, hlive, -⟩, -⟩ := hbad
        cases hlease
        exact Rat.not_le.mpr hlive hexp
      · rcases PolicyRuntime.inferEnter_live hl request hexp with ⟨hid, hasc, he⟩
          | ⟨himp, -, f, hf⟩ | ⟨-, -, hok⟩
        · cases h.symm.trans he
          rw [hascii lease hs, Bool.and_true] at hasc
          exact ⟨fun h => absurd h Bool.false_ne_true,
            fun h => absurd ⟨⟨lease, rfl, Rat.not_le.mp hexp, hid⟩, hasc⟩ h⟩
        · cases h.symm.trans hf
          refine ⟨fun _ => ?_, fun _ => rfl⟩
          rintro ⟨⟨lease', hlease, -, hid⟩, hbad⟩
          cases hlease
          have := himp hid
          rw [hbad] at this
          cases this
        · cases h.symm.trans hok

/-- A bad comparison raises what `compare_digest` raises. -/
theorem inferEnter_bad {rt : PolicyRuntime} (hwf : rt.WF) {request : InferenceRequest} {now : ℚ}
    (h : BadComparison rt request now) :
    rt.inferEnter request now = (.error (.error .TypeError), rt) := by
  obtain ⟨⟨lease, hs, hlive, hid⟩, htoken⟩ := h
  have hl := hwf.activeLease.trans hs
  rcases PolicyRuntime.inferEnter_live hl request (Rat.not_le.mpr hlive) with ⟨-, -, he⟩
    | ⟨himp, -⟩ | ⟨hasc, -⟩
  · exact he
  · have hasc := himp hid
    rw [htoken] at hasc
    cases hasc
  · rw [htoken] at hasc
    cases hasc

/-- A response, or a stable fault. -/
def StableOutcome (out : Except Exn Result) : Prop :=
  (∃ r, out = .ok (.response r)) ∨ ∃ f, out = .error (.fault f)

/-- The program counters of `infer`; what it is about to raise is a fault. -/
def Pc.Stable : Pc → Prop
  | .inferAcquire _ | .inferEnter _ | .inferPolicy _ _ | .inferRecord _ => True
  | .inferFailed _ _ _ | .inferFinish _ => True
  | .inferLeave _ _ out | .inferRelease out => RaisesFaults out
  | _ => False

def CallState.Stable : CallState → Prop
  | .running pc => pc.Stable
  | .returned out => StableOutcome out

/-- A call of `infer` that has raised, or is about to, no fault. -/
def CallState.Unstable (c : CallState) : Prop :=
  ∃ e, e.isFault = false ∧ (c = .running (.inferRelease (.error e)) ∨ c = .returned (.error e))

/-- Every step of `infer` keeps to faults, if the lease check does. -/
theorem callStep_stable {cfg : RuntimeConfig} {nx : Numerics} {id : Nat} {rt rt' : PolicyRuntime}
    {pc : Pc} {ch : Choice} {next : CallState} (hpc : pc.Stable)
    (h : callStep cfg nx id pc ch rt = some (rt', next))
    (hcheck : ∀ request now e, pc = .inferEnter request → ch = .clock now →
      (rt.inferEnter request now).1 = .error e → e.isFault = true) : next.Stable := by
  cases pc with
  | inferAcquire request =>
      cases ch with
      | acquired =>
          simp only [callStep, acquire] at h
          split at h
          · cases h
            trivial
          · cases h
      | timedOut =>
          cases h
          exact .inr ⟨_, rfl⟩
      | _ => cases h
  | inferEnter request =>
      cases ch with
      | clock now =>
          cases h
          have hfault := hcheck request now
          cases hr : (rt.inferEnter request now).1 with
          | ok ref => trivial
          | error e =>
              intro e' he'
              cases he'
              exact hfault e rfl rfl hr
      | _ => cases h
  | inferPolicy request lease_ref =>
      have ha := advance_of_callStep h
      cases ha with
      | inferRaise => trivial
      | inferPolicy => trivial
  | inferRecord inf =>
      have ha := advance_of_callStep h
      cases ha with
      | @inferRecord _ _ r => cases r <;> trivial
  | inferFailed request lease_ref e =>
      have ha := advance_of_callStep h
      cases ha with
      | inferFailed he =>
          obtain ⟨f, code, hc⟩ := rt.inferFail_eq e
          cases he.symm.trans hc
          exact RaisesFaults.ofFault f
  | inferFinish inf =>
      have ha := advance_of_callStep h
      cases ha with
      | inferFinish he =>
          rcases rt.inferFinish_cases inf with ⟨lease, -, -, -, hc⟩ | ⟨f, -, hc⟩
          · cases he.symm.trans hc
            exact RaisesFaults.ok _
          · cases he.symm.trans hc
            exact RaisesFaults.ofFault f
  | inferLeave request lease_ref out =>
      have ha := advance_of_callStep h
      cases ha with
      | inferLeave => exact hpc
  | inferRelease out =>
      have ha := advance_of_callStep h
      cases ha with
      | inferRelease =>
          cases out with
          | ok r => exact .inl ⟨r, rfl⟩
          | error e =>
              cases e with
              | fault f => exact .inr ⟨f, rfl⟩
              | error e => exact absurd (hpc _ rfl) (by simp [Exn.isFault])
  | _ => exact hpc.elim

theorem Op.start_infer (nx : Numerics) (payload : Value) : Op.start nx (.infer payload) =
    match InferenceRequest.parse nx.repr_fits payload with
    | .error e => .returned (.error e)
    | .ok request => .running (.inferAcquire request) := rfl

/-- A payload that is recorded as sent has been for a while, or is sent now. -/
theorem Step.sent {cfg : RuntimeConfig} {nx : Numerics} {ls : List Label} {s s' : Sys} {l : Label}
    (h : Step cfg nx s l s') {id : Nat} {payload : Value}
    (hp : sentPayload (ls ++ [l]) id = some payload) :
    sentPayload ls id = some payload ∨
    (l = .call id (.infer payload) ∧ s'.calls id = some (Op.start nx (.infer payload))) := by
  rw [sentPayload_snoc] at hp
  cases hold : sentPayload ls id with
  | some old =>
      rw [hold] at hp
      exact .inl hp
  | none =>
      rw [hold, Option.none_or] at hp
      cases h with
      | @call j op hnone =>
          unfold sentPayload at hp
          cases op with
          | infer p =>
              by_cases hj : j = id
              · subst hj
                simp only [List.findSome?_cons, if_true] at hp
                cases hp
                exact .inr ⟨rfl, Sys.setCall_self _ _ _ _⟩
              · simp [hj] at hp
          | _ => cases hp
      | step => cases hp

/-! ## §3. Faults only. -/

/-- The lease check of the call `id` compares no bad token in this step. -/
def ComparesWell (id : Nat) (s₁ : Sys) (l : Label) : Prop :=
  ∀ request now next, l = .step id (.inferEnter request) (.clock now) next →
    ¬ BadComparison s₁.rt request now

/-- With an orderly payload and no bad comparison a call keeps to faults. -/
theorem RuntimeRun.stable {cfg : RuntimeConfig} {nx : Numerics} {ls : List Label} {s : Sys}
    (h : RuntimeRun cfg nx ls s) (hdraws : AsciiDraws ls) {id : Nat} {payload : Value}
    (hsent : sentPayload ls id = some payload) (horderly : ¬ Disorderly nx.repr_fits payload)
    (hall : EveryStep (runtimeSystem cfg nx) (fun _ s₁ l _ => ComparesWell id s₁ l) ls s) :
    ∃ c, s.calls id = some c ∧ c.Stable := by
  refine Run.invariant (M := runtimeSystem cfg nx)
    (fun ls s => AsciiDraws ls → sentPayload ls id = some payload →
      EveryStep (runtimeSystem cfg nx) (fun _ s₁ l _ => ComparesWell id s₁ l) ls s →
      ∃ c, s.calls id = some c ∧ c.Stable) ?_ ?_ h hdraws hsent hall
  · rintro s ⟨dirs, rfl⟩ - hsent
    cases hsent
  · intro ls s l s' hrun ih hst hdraws hsent hall
    have hdraws' : AsciiDraws ls :=
      fun _ _ _ _ _ hmem => hdraws _ _ _ _ _ (List.mem_append_left _ hmem)
    rcases Step.sent hst hsent with hold | ⟨rfl, hcall⟩
    · obtain ⟨c, hc, hstable⟩ := ih hdraws' hold (hall.init hst)
      have hlast := hall.last hrun hst
      cases hst with
      | @call j op hnone =>
          have hne : id ≠ j := by
            rintro rfl
            rw [hc] at hnone
            cases hnone
          exact ⟨c, (Sys.setCall_other _ _ _ hne).trans hc, hstable⟩
      | @step j pc ch rt next hpc hcs =>
          by_cases hj : id = j
          · subst hj
            rw [hpc] at hc
            rw [← Option.some.inj hc] at hstable
            refine ⟨next, Sys.setCall_self _ _ _ _, callStep_stable hstable hcs ?_⟩
            rintro request now e rfl rfl he
            rw [inferEnter_error_iff (RuntimeRun.inv hrun).wf
              (fun lease hl => (RuntimeRun.ascii_lease hrun hdraws' hl).2) (Prod.ext he rfl)]
            exact hlast request now next rfl
          · exact ⟨c, (Sys.setCall_other _ _ _ hj).trans hc, hstable⟩
    · -- the call begins: the parser has decided
      refine ⟨_, hcall, ?_⟩
      rw [Op.start_infer]
      cases hparse : InferenceRequest.parse nx.repr_fits payload with
      | ok request => trivial
      | error e =>
          have hfault := (parse_error_iff hparse).mpr horderly
          cases e with
          | fault f => exact .inr ⟨f, rfl⟩
          | error e => cases hfault

/-- A call whose exception is no fault ends with it. -/
theorem Path.unstable {cfg : RuntimeConfig} {nx : Numerics} {s s' : Sys} {ls : List Label}
    (h : Path (runtimeSystem cfg nx) s ls s') {id : Nat} {c : CallState}
    (hc : s.calls id = some c) (hunstable : c.Unstable) :
    ∃ c', s'.calls id = some c' ∧ c'.Unstable := by
  refine h.preserves (fun s => ∃ c, s.calls id = some c ∧ c.Unstable) ?_ ⟨c, hc, hunstable⟩
  intro s l s' ⟨c, hc, e, he, hcase⟩ hst
  rcases step_cases hst with ⟨j, op, -, hnone, rfl⟩ | ⟨j, pc, ch, rt', next, -, hpc, ha, rfl⟩
  · have hne : id ≠ j := by
      rintro rfl
      rw [hc] at hnone
      cases hnone
    exact ⟨c, (Sys.setCall_other _ _ _ hne).trans hc, e, he, hcase⟩
  · by_cases hj : id = j
    · subst hj
      rcases hcase with rfl | rfl
      · rw [hpc] at hc
        cases hc
        cases ha
        exact ⟨_, Sys.setCall_self _ _ _ _, e, he, .inr rfl⟩
      · rw [hpc] at hc
        cases hc
    · exact ⟨c, (Sys.setCall_other _ _ _ hj).trans hc, e, he, hcase⟩

/-- A call that was sent a disorderly payload ends in no fault. -/
theorem RuntimeRun.disorderly {cfg : RuntimeConfig} {nx : Numerics} {ls : List Label} {s : Sys}
    (h : RuntimeRun cfg nx ls s) {id : Nat} {payload : Value}
    (hsent : sentPayload ls id = some payload) (hdisorderly : Disorderly nx.repr_fits payload) :
    ∃ c, s.calls id = some c ∧ c.Unstable := by
  refine Run.invariant (M := runtimeSystem cfg nx)
    (fun ls s => sentPayload ls id = some payload → ∃ c, s.calls id = some c ∧ c.Unstable)
    ?_ ?_ h hsent
  · rintro s ⟨dirs, rfl⟩ hsent
    cases hsent
  · intro ls s l s' _ ih hst hsent
    rcases Step.sent hst hsent with hold | ⟨-, hcall⟩
    · obtain ⟨c, hc, hunstable⟩ := ih hold
      exact Path.unstable (Path.single hst) hc hunstable
    · obtain ⟨e, hparse, he⟩ := parse_disorderly hdisorderly
      rw [Op.start_infer, hparse] at hcall
      exact ⟨_, hcall, e, he, .inr rfl⟩

/-! ## §4. A call ends. -/

/-- The steps a call of `infer` has left, at most. -/
def Pc.stepsLeft : Pc → Nat
  | .inferAcquire _ => 7
  | .inferEnter _ => 6
  | .inferPolicy _ _ => 5
  | .inferRecord _ => 4
  | .inferFailed _ _ _ | .inferFinish _ => 3
  | .inferLeave _ _ _ => 2
  | .inferRelease _ => 1
  | _ => 0

/-- Every step of the call leaves fewer. -/
theorem Advance.stepsLeft {cfg : RuntimeConfig} {nx : Numerics} {id : Nat}
    {rt rt' : PolicyRuntime} {pc pc' : Pc} {ch : Choice}
    (h : Advance cfg nx id rt pc ch rt' (.running pc')) (hpc : 0 < pc.stepsLeft) :
    0 < pc'.stepsLeft ∧ pc'.stepsLeft < pc.stepsLeft := by
  generalize hn : CallState.running pc' = next at h
  cases h <;> try exact absurd hpc (Nat.lt_irrefl 0)
  case inferEnter r _ =>
    cases r <;> (cases hn; exact ⟨by simp [Pc.stepsLeft], by simp [Pc.stepsLeft]⟩)
  case inferRecord r _ =>
    cases r <;> (cases hn; exact ⟨by simp [Pc.stepsLeft], by simp [Pc.stepsLeft]⟩)
  all_goals first
    | (cases hn; exact ⟨by simp [Pc.stepsLeft], by simp [Pc.stepsLeft]⟩)
    | cases hn

/-- While it has steps left it can take one. -/
theorem exists_callStep (cfg : RuntimeConfig) (nx : Numerics) (id : Nat) (rt : PolicyRuntime)
    {pc : Pc} (hpc : 0 < pc.stepsLeft) :
    ∃ ch rt' next, callStep cfg nx id pc ch rt = some (rt', next) := by
  cases pc with
  | inferAcquire => exact ⟨.timedOut, _, _, rfl⟩
  | inferEnter => exact ⟨.clock 0, _, _, rfl⟩
  | inferPolicy => exact ⟨.inferred (.error (.error .Other)), _, _, rfl⟩
  | inferRecord => exact ⟨.io Io.clean, _, _, rfl⟩
  | inferFailed => exact ⟨.go, _, _, rfl⟩
  | inferFinish => exact ⟨.go, _, _, rfl⟩
  | inferLeave => exact ⟨.go, _, _, rfl⟩
  | inferRelease => exact ⟨.go, _, _, rfl⟩
  | _ => exact absurd hpc (by simp [Pc.stepsLeft])

/-- A call that was sent a payload has ended, or has steps left. -/
theorem RuntimeRun.inferring {cfg : RuntimeConfig} {nx : Numerics} {ls : List Label} {s : Sys}
    (h : RuntimeRun cfg nx ls s) {id : Nat} {payload : Value}
    (hsent : sentPayload ls id = some payload) :
    ∃ c, s.calls id = some c ∧ ∀ pc, c = .running pc → 0 < pc.stepsLeft := by
  refine Run.invariant (M := runtimeSystem cfg nx)
    (fun ls s => sentPayload ls id = some payload →
      ∃ c, s.calls id = some c ∧ ∀ pc, c = .running pc → 0 < pc.stepsLeft) ?_ ?_ h hsent
  · rintro s ⟨dirs, rfl⟩ hsent
    cases hsent
  · intro ls s l s' _ ih hst hsent
    rcases Step.sent hst hsent with hold | ⟨-, hcall⟩
    · obtain ⟨c, hc, hleft⟩ := ih hold
      rcases step_cases hst with ⟨j, op, -, hnone, rfl⟩ | ⟨j, pc, ch, rt', next, -, hpc, ha, rfl⟩
      · have hne : id ≠ j := by
          rintro rfl
          rw [hc] at hnone
          cases hnone
        exact ⟨c, (Sys.setCall_other _ _ _ hne).trans hc, hleft⟩
      · by_cases hj : id = j
        · subst hj
          rw [hpc] at hc
          refine ⟨next, Sys.setCall_self _ _ _ _, ?_⟩
          rintro pc' rfl
          exact (ha.stepsLeft (hleft pc (Option.some.inj hc).symm)).1
        · exact ⟨c, (Sys.setCall_other _ _ _ hj).trans hc, hleft⟩
    · refine ⟨_, hcall, ?_⟩
      intro pc hpc
      rw [Op.start_infer] at hpc
      split at hpc <;> cases hpc
      exact Nat.zero_lt_succ _

/-- A call with steps left can end, by its own steps alone. -/
theorem exists_end (cfg : RuntimeConfig) (nx : Numerics) {s : Sys} {id : Nat} {pc : Pc}
    (hc : s.calls id = some (.running pc)) (hpc : 0 < pc.stepsLeft) :
    ∃ ls' s' out, Path (runtimeSystem cfg nx) s ls' s' ∧ ls'.length ≤ pc.stepsLeft ∧
      s'.calls id = some (.returned out) := by
  induction hn : pc.stepsLeft using Nat.strong_induction_on generalizing s pc with
  | _ n ih =>
      obtain ⟨ch, rt', next, hcs⟩ := exists_callStep cfg nx id s.rt hpc
      have hst : (runtimeSystem cfg nx).step s (.step id pc ch next) (s.setCall rt' id next) :=
        Step.step hc hcs
      cases next with
      | returned out =>
          exact ⟨[_], _, out, Path.single hst, by simp; omega, Sys.setCall_self _ _ _ _⟩
      | running pc' =>
          obtain ⟨hpos, hlt⟩ := (advance_of_callStep hcs).stepsLeft hpc
          obtain ⟨ls', s', out, hpath, hlen, hout⟩ :=
            ih pc'.stepsLeft (by omega) (Sys.setCall_self _ _ _ _) hpos rfl
          exact ⟨_ :: ls', s', out, Path.cons hst hpath, by simp; omega, hout⟩

/-- A call of `infer` that has ended has returned a response or raised a fault
exactly if its payload was orderly and the lease check compared no bad token. -/
theorem RuntimeRun.stable_iff {cfg : RuntimeConfig} {nx : Numerics} {ls : List Label} {s : Sys}
    (h : RuntimeRun cfg nx ls s) (hdraws : AsciiDraws ls) {id : Nat} {payload : Value}
    (hsent : sentPayload ls id = some payload) {out : Except Exn Result}
    (hout : s.calls id = some (.returned out)) :
    StableOutcome out ↔ ¬ Disorderly nx.repr_fits payload ∧
      EveryStep (runtimeSystem cfg nx) (fun _ s₁ l _ => ComparesWell id s₁ l) ls s := by
  have hnot : ∀ c, s.calls id = some c → c.Unstable → ¬ StableOutcome out := by
    intro c hc hunstable hstable
    rw [hout] at hc
    cases hc
    obtain ⟨e, he, hcase⟩ := hunstable
    rcases hcase with hcase | hcase
    · cases hcase
    · rcases hstable with ⟨r, rfl⟩ | ⟨f, rfl⟩
      · cases hcase
      · cases hcase
        cases he
  constructor
  · intro hstable
    constructor
    · intro hdisorderly
      obtain ⟨c, hc, hunstable⟩ := h.disorderly hsent hdisorderly
      exact hnot c hc hunstable hstable
    · -- a bad comparison dooms the call
      intro ls₁ l ls₂ s₁ s₂ hls hrun hst hpath request now next hl hbad
      subst hl
      rcases step_cases hst with ⟨_, _, hl, -⟩ | ⟨i, pc, ch, rt', next', hl, hpc, ha, rfl⟩
      · cases hl
      · cases hl
        cases ha with
        | inferEnter he =>
            cases he.symm.trans (inferEnter_bad (RuntimeRun.inv hrun).wf hbad)
            obtain ⟨c, hc, hunstable⟩ := Path.unstable hpath (Sys.setCall_self _ _ _ _)
              ⟨_, rfl, .inl rfl⟩
            exact hnot c hc hunstable hstable
  · intro ⟨horderly, hall⟩
    obtain ⟨c, hc, hstable⟩ := h.stable hdraws hsent horderly hall
    rw [hout] at hc
    cases hc
    exact hstable

/-- **Rejections are faults, but for disorderly payloads and bad tokens.**  A call of
`infer` never gets stuck, and when it has ended it has returned a response or raised a
fault exactly if its payload was orderly and the lease check compared no bad token. -/
theorem infer_faults_iff {cfg : RuntimeConfig} {nx : Numerics} {ls : List Label} {s : Sys}
    (h : RuntimeRun cfg nx ls s) (hdraws : AsciiDraws ls) {id : Nat} {payload : Value}
    (hsent : sentPayload ls id = some payload) :
    (∃ ls' s' out, Path (runtimeSystem cfg nx) s ls' s' ∧ ls'.length ≤ 7 ∧
      s'.calls id = some (.returned out)) ∧
    ∀ out, s.calls id = some (.returned out) →
      (StableOutcome out ↔ ¬ Disorderly nx.repr_fits payload ∧
        EveryStep (runtimeSystem cfg nx) (fun _ s₁ l _ => ComparesWell id s₁ l) ls s) := by
  refine ⟨?_, fun out hout => h.stable_iff hdraws hsent hout⟩
  obtain ⟨c, hc, hleft⟩ := h.inferring hsent
  cases c with
  | returned out => exact ⟨[], s, out, .nil s, Nat.zero_le _, hc⟩
  | running pc =>
      obtain ⟨ls', s', out, hpath, hlen, hout⟩ := exists_end cfg nx hc (hleft pc rfl)
      refine ⟨ls', s', out, hpath, hlen.trans ?_, hout⟩
      cases pc <;> simp [Pc.stepsLeft]

/-- The entries of a payload. -/
def Value.entries : Value → Dict
  | .map d => d
  | _ => []

/-- The sample request with two more names, one of each type. -/
def mixedPayload : Value :=
  .map ((samplePayload 0).entries ++ [(.str (py "x"), .none), (.bytes [120], .none)])

/-- The sample request with a token of 32 characters that are not ASCII. -/
def foreignTokenPayload : Value :=
  .map ((samplePayload 0).entries.map fun e =>
    if e.1 = .str (py "session_token") then (e.1, .str (List.replicate 32 233)) else e)

/-- Lists around `None`, one in the other. -/
def nestedLists : Nat → Value
  | 0 => .none
  | n + 1 => .list [nestedLists n]

/-- The sample request with a thousand lists for its kind. -/
def deepPayload : Value :=
  .map ((samplePayload 0).entries.map fun e =>
    if e.1 = .str (py "request_kind") then (e.1, nestedLists 1000) else e)

/-- The value is nested at most so many levels deep. -/
def Value.within : Nat → Value → Bool
  | 0, .list _ | 0, .map _ => false
  | n + 1, .list items => items.all (Value.within n)
  | n + 1, .map entries => entries.all fun e => e.2.within n
  | _, _ => true

/-- An interpreter with 990 levels left. -/
def limitedNumerics : Numerics := { constNumerics with repr_fits := Value.within 990 }

/-- The call has raised what is no fault. -/
def Sys.unstable (s : Sys) (id : Nat) : Bool :=
  match s.calls id with
  | some (.returned (.error (.error _))) => true
  | _ => false

theorem Sys.calls_of_unstable {s : Sys} {id : Nat} (h : s.unstable id = true) :
    ∃ out, s.calls id = some (.returned out) ∧ ¬ StableOutcome out := by
  unfold Sys.unstable at h
  split at h
  · next e hc =>
      refine ⟨_, hc, ?_⟩
      rintro (⟨r, hr⟩ | ⟨f, hf⟩)
      · cases hr
      · cases hf
  · cases h

/-- A session, and a request with the given payload in it. -/
def answeredMoves (payload : Value) : List Move :=
  warmUp sampleId sampleToken ++
    [.call 3 (.infer payload), .step 3 .acquired, .step 3 (.clock 1), .step 3 .go]

/-- The payload with which a call begins an inference. -/
def inferredBy (id : Nat) : Move → Option Value
  | .call i (.infer payload) => if i = id then some payload else none
  | _ => none

/-- A call that has ended in a fault. -/
def endsInFault : Option CallState → Bool
  | some (.returned (.error (.fault _))) => true
  | _ => false

/-- Names that do not sort, a kind without a `repr`, and a token that does not compare. -/
theorem rejections_escape :
    (∃ ls s out, RuntimeRun defaultConfig constNumerics ls s ∧ AsciiDraws ls ∧
      sentPayload ls 0 = some mixedPayload ∧ s.calls 0 = some (.returned out) ∧
      ¬ StableOutcome out) ∧
    (∃ ls s out, RuntimeRun defaultConfig limitedNumerics ls s ∧ AsciiDraws ls ∧
      sentPayload ls 0 = some deepPayload ∧ s.calls 0 = some (.returned out) ∧
      ¬ StableOutcome out) ∧
    ∃ ls s out, RuntimeRun defaultConfig constNumerics ls s ∧ AsciiDraws ls ∧
      sentPayload ls 3 = some foreignTokenPayload ∧ s.calls 3 = some (.returned out) ∧
      ¬ StableOutcome out := by
  have hreplay : ∀ (nx : Numerics) (ms : List Move) (id : Nat) (payload : Value),
      (ms.findSome? (inferredBy id)) = some payload →
      ((Sys.initial fun _ => none).replay defaultConfig nx ms).map
        (fun r => r.1.all Label.drawsAscii && r.2.unstable id) = some true →
      ∃ ls s out, RuntimeRun defaultConfig nx ls s ∧ AsciiDraws ls ∧
        sentPayload ls id = some payload ∧ s.calls id = some (.returned out) ∧
        ¬ StableOutcome out := by
    intro nx ms id payload hp h
    obtain ⟨⟨ls, s⟩, hr, htest⟩ := Option.map_eq_some_iff.mp h
    obtain ⟨hdraws, hunstable⟩ := Bool.and_eq_true_iff.mp htest
    obtain ⟨out, hout, hbad⟩ := Sys.calls_of_unstable hunstable
    exact ⟨ls, s, out, Sys.replay_run hr, asciiDraws_of_all hdraws,
      (Sys.replay_sent hr id).trans hp, hout, hbad⟩
  exact ⟨hreplay constNumerics [.call 0 (.infer mixedPayload)] 0 mixedPayload rfl
      (by decide +kernel),
    hreplay limitedNumerics [.call 0 (.infer deepPayload)] 0 deepPayload rfl (by decide +kernel),
    hreplay constNumerics (answeredMoves foreignTokenPayload) 3 foreignTokenPayload rfl
      (by decide +kernel)⟩

/-- A request with a wrong sequence number is refused as it should be. -/
theorem infer_faults_iff_refused : ∃ ls s out,
    RuntimeRun defaultConfig constNumerics ls s ∧ sentPayload ls 3 = some (samplePayload 5) ∧
    s.calls 3 = some (.returned out) ∧ StableOutcome out ∧
    ¬ Disorderly constNumerics.repr_fits (samplePayload 5) ∧
    EveryStep (runtimeSystem defaultConfig constNumerics) (fun _ s₁ l _ => ComparesWell 3 s₁ l)
      ls s := by
  have h : ((Sys.initial fun _ => none).replay defaultConfig constNumerics
      (answeredMoves (samplePayload 5))).map
        (fun r => r.1.all Label.drawsAscii && endsInFault (r.2.calls 3)) = some true := by
    decide +kernel
  obtain ⟨⟨ls, s⟩, hr, htest⟩ := Option.map_eq_some_iff.mp h
  obtain ⟨hdraws, hout⟩ := Bool.and_eq_true_iff.mp htest
  unfold endsInFault at hout
  split at hout
  · next f hc =>
      have hsent : sentPayload ls 3 = some (samplePayload 5) := (Sys.replay_sent hr 3).trans rfl
      have hstable : StableOutcome (.error (.fault f)) := .inr ⟨f, rfl⟩
      exact ⟨ls, s, _, Sys.replay_run hr, hsent, hc, hstable,
        ((infer_faults_iff (Sys.replay_run hr) (asciiDraws_of_all hdraws) hsent).2 _ hc).mp
          hstable⟩
  · cases hout

end OvenRuntime
