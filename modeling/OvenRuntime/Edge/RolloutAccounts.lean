/-
  OvenRuntime.Edge.RolloutAccounts
  ────────────────────────────────
  The orchestrator over the executor and the edge audit: its count of published
  steps, the executor's count and the rows of `rollout.jsonl` agree after every
  recorded chunk, within the budget of the stage (`rollout_accounting`).
-/
import OvenRuntime.Edge.Rollout

namespace OvenRuntime

open EffectProgram PipelineOrchestrator EdgeAuditStore

/-! ## §1. Components with an executor. -/

/-- The executor, the `publish_step`s of its last call, and the audit store. -/
structure EdgeWorld where
  executor : RosActionExecutor
  asked : List Nat
  audit : EdgeAuditStore

/-- What a call does to the executor.  A call of `publish` that returns is one
of the model; how a chunk without seven columns is broadcast is left open. -/
def drives (c : Component) (w : EdgeWorld) (out : Except Raised c.Answer) (w' : EdgeWorld) : Prop :=
  match c, out with
  | .begin_stage skill, .ok _ => ∃ checks gate arm_snapshot,
      w.executor.begin_stage skill checks gate arm_snapshot = (.ok (), w'.executor)
  | .publish actions, .ok r => ∃ call : PublishCall, call.rows.length = actions.length ∧
      ((∀ row ∈ actions, row.length = 7) → call.rows = actions.map joints) ∧
      w.executor.result call = .ok r ∧ w'.executor = w.executor.after call ∧
      w'.asked = w.executor.gateSteps call
  | .begin_stage _, .error _ | .publish _, .error _ | .executor_preflight, _
  | .reset_preflight, _ | .reset _, _ | .stop _, _ => True
  | _, _ => w'.executor = w.executor ∧ w'.asked = w.asked

/-- Components of which the executor and the audit are those of the edge, and
which do as they like otherwise. -/
def onRobot : Environment Component Component.Answer Raised EdgeWorld :=
  fun c w out w' => audited c w.audit out w'.audit ∧ drives c w out w'

/-! ## §2. The accounts. -/

/-- The requests of a trace. -/
def inferPayloads (t : List OrchEvent) : List Dict :=
  t.filterMap fun ev =>
    match ev.call with
    | .infer payload => some payload
    | _ => none

/-- `row["published_rows"]`. -/
def publishedRows (row : Dict) : Int :=
  match row.get? "published_rows" with
  | some (.int n) => n
  | _ => 0

/-- What can be seen of a rollout at every point: its requests are numbered and
not too many; what is published are the validated rows of the response just
before; and after a recorded chunk the three counts agree, at the step the gate
was last asked at, within the budget. -/
structure Accounts (o : PipelineOrchestrator) (stage : StagePlan) (t : List OrchEvent)
    (w : EdgeWorld) : Prop where
  numbered : ∀ (i : Nat) payload, (inferPayloads t)[i]? = some payload →
    payload.get? "sequence" = some (.int i)
  bounded : ((inferPayloads t).length : Int) ≤ stage.max_chunks
  validated : ∀ before ev after rows, t = before ++ ev :: after → ev.call = .publish rows →
    ∃ earlier payload, ∃ response : Dict, ∃ actions,
      before = earlier ++ [⟨.infer payload, .ok response⟩] ∧
      response.getItem "actions" = .ok actions ∧ o.action_validator actions = .ok rows
  agree : ∀ before row, t = before ++ [⟨.record_rollout row, .ok ()⟩] →
    ∃ (n : Nat) (rows : List Dict), row.get? "published_steps_total" = some (.int n) ∧
      w.executor._published_rows = n ∧ w.asked.getLast? = some n ∧
      w.audit.RolloutFile rows ∧ (rows.map publishedRows).sum = n ∧ (n : Int) ≤ stage.action_steps

/-- The action validator is an `ActionValidator` for chunks of so many rows. -/
def ValidatesRows (o : PipelineOrchestrator) (chunk_rows : Int) : Prop :=
  ∃ (validator : ActionValidator) (asarray : Value → Except Exn NumArray),
    validator.chunk_rows = chunk_rows ∧
      ∀ v, o.action_validator v = asarray v >>= validator.validate

/-- The stage has the budget that the profile gives it. -/
def ProfileBudget (o : PipelineOrchestrator) (stage : StagePlan) : Prop :=
  ∃ chunk_rows, ValidatesRows o chunk_rows ∧ stage.action_steps = stage.max_chunks * chunk_rows

/-- The run has not been given up at a response that is publishable and valid. -/
def NotOverBudget (o : PipelineOrchestrator) (t : List OrchEvent) : Prop :=
  ∀ before payload, ∀ response : Dict, t = before ++ [⟨.infer payload, .ok response⟩] →
    response.isTrue "publishable" = false ∨
      ∀ actions rows, response.getItem "actions" = .ok actions →
        o.action_validator actions ≠ .ok rows

theorem ValidatesRows.length {o : PipelineOrchestrator} {chunk_rows : Int}
    (h : ValidatesRows o chunk_rows) {v : Value} {rows : List (List ℚ)}
    (hv : o.action_validator v = .ok rows) : (rows.length : Int) = chunk_rows := by
  obtain ⟨validator, asarray, rfl, hvalidator⟩ := h
  rw [hvalidator] at hv
  obtain ⟨array, -, harray⟩ := bind_ok.mp hv
  exact (ActionValidator.validate_shape harray).1

/-- The calls that the accounts are about. -/
def Component.accounted : Component → Bool
  | .infer _ | .publish _ | .record_rollout _ => true
  | _ => false

section Accounts

variable {o : PipelineOrchestrator} {stage : StagePlan} {past : List OrchEvent} {w w' : EdgeWorld}

theorem inferPayloads_snoc (t : List OrchEvent) (ev : OrchEvent) :
    inferPayloads (t ++ [ev]) = inferPayloads t ++ inferPayloads [ev] := List.filterMap_append ..

/-- **One more call.** -/
theorem Accounts.snoc {ev : OrchEvent} (h : Accounts o stage past w)
    (hinfer : ∀ payload, ev.call = .infer payload →
      payload.get? "sequence" = some (.int (inferPayloads past).length) ∧
        ((inferPayloads past).length : Int) < stage.max_chunks)
    (hpublish : ∀ rows, ev.call = .publish rows → ∃ earlier payload, ∃ response : Dict, ∃ actions,
      past = earlier ++ [⟨.infer payload, .ok response⟩] ∧
      response.getItem "actions" = .ok actions ∧ o.action_validator actions = .ok rows)
    (hrecord : ∀ row, ev = ⟨.record_rollout row, .ok ()⟩ → ∃ (n : Nat) (rows : List Dict),
      row.get? "published_steps_total" = some (.int n) ∧ w'.executor._published_rows = n ∧
      w'.asked.getLast? = some n ∧ w'.audit.RolloutFile rows ∧
      (rows.map publishedRows).sum = n ∧ (n : Int) ≤ stage.action_steps) :
    Accounts o stage (past ++ [ev]) w' := by
  have hone : inferPayloads [ev] = [] ∨ ∃ payload, ev.call = .infer payload ∧
      inferPayloads [ev] = [payload] := by
    obtain ⟨c, out⟩ := ev
    cases c with
    | infer payload => exact .inr ⟨payload, rfl, rfl⟩
    | _ => exact .inl rfl
  refine ⟨?_, ?_, ?_, ?_⟩
  · intro i payload hi
    rw [inferPayloads_snoc] at hi
    rcases hone with hnone | ⟨new, hcall, hnew⟩
    · rw [hnone, List.append_nil] at hi
      exact h.numbered i payload hi
    · rw [hnew] at hi
      by_cases hlt : i < (inferPayloads past).length
      · rw [List.getElem?_append_left hlt] at hi
        exact h.numbered i payload hi
      · rw [List.getElem?_append_right (by omega)] at hi
        have hlast : i - (inferPayloads past).length = 0 := by
          by_contra hne
          rw [List.getElem?_eq_none (by rw [List.length_singleton]; omega)] at hi
          cases hi
        rw [hlast] at hi
        cases hi
        rw [show i = (inferPayloads past).length by omega]
        exact (hinfer _ hcall).1
  · rw [inferPayloads_snoc, List.length_append]
    rcases hone with hnone | ⟨new, hcall, hnew⟩
    · rw [hnone]
      exact h.bounded
    · rw [hnew]
      have := (hinfer _ hcall).2
      show (((inferPayloads past).length + 1 : Nat) : Int) ≤ _
      omega
  · intro before ev' after rows ht hrows
    rcases List.append_eq_append_iff.mp ht with ⟨mid, hbefore, hmid⟩ | ⟨mid, hpast, hmid⟩
    · -- the call is the new one
      cases mid with
      | nil =>
          obtain ⟨rfl, -⟩ := List.cons.inj hmid
          rw [hbefore, List.append_nil]
          exact hpublish rows hrows
      | cons _ mid =>
          have := congrArg List.length hmid
          simp only [List.length_cons, List.length_append, List.length_nil] at this
          omega
    · cases mid with
      | nil =>
          obtain ⟨rfl, -⟩ := List.cons.inj hmid
          rw [List.append_nil] at hpast
          rw [← hpast]
          exact hpublish rows hrows
      | cons _ mid =>
          obtain ⟨rfl, -⟩ := List.cons.inj hmid
          exact h.validated before _ mid rows hpast hrows
  · intro before row ht
    obtain ⟨-, hev⟩ := List.append_inj' ht rfl
    exact hrecord row (List.singleton_inj.mp hev)

/-- A call that the accounts are not about. -/
theorem Accounts.other {ev : OrchEvent} (h : Accounts o stage past w)
    (hev : ev.call.accounted = false) : Accounts o stage (past ++ [ev]) w' := by
  refine h.snoc ?_ ?_ ?_
  · intro payload hcall
    rw [hcall] at hev
    cases hev
  · intro rows hcall
    rw [hcall] at hev
    cases hev
  · rintro row rfl
    cases hev

theorem Accounts.nil (hmax : 0 ≤ stage.max_chunks) : Accounts o stage [] w := by
  refine ⟨nofun, hmax, ?_, ?_⟩
  · intro before ev after rows ht
    have := congrArg List.length ht
    simp at this
  · intro before row ht
    have := congrArg List.length ht
    simp at this

/-- The last call is not an inference. -/
def PastInference (t : List OrchEvent) : Prop :=
  ∀ before payload out, t ≠ before ++ [⟨.infer payload, out⟩]

theorem PastInference.snoc {ev : OrchEvent} (h : ∀ payload, ev.call ≠ .infer payload) :
    PastInference (past ++ [ev]) := by
  intro before payload out ht
  obtain ⟨-, hev⟩ := List.append_inj' ht rfl
  have hev : ev = ⟨.infer payload, out⟩ := List.singleton_inj.mp hev
  exact h payload (by rw [hev])

theorem PastInference.nil : PastInference [] := by
  intro before payload out ht
  have := congrArg List.length ht
  simp at this

theorem PastInference.notOverBudget (h : PastInference past) : NotOverBudget o past := by
  intro before payload response ht
  exact absurd ht (h before payload _)

theorem not_infer {ev : OrchEvent} (hev : ev.call.accounted = false) (payload : Dict) :
    ev.call ≠ .infer payload := by
  intro hcall
  rw [hcall] at hev
  cases hev

end Accounts

/-! ## §3. One round. -/

/-- The books of a rollout: `count` requests made, `chunks` of them published,
and `published_steps` counted alike everywhere. -/
structure Ledger (o : PipelineOrchestrator) (stage : StagePlan) (count chunks : Nat)
    (published_steps : Int) (past : List OrchEvent) (w : EdgeWorld) : Prop where
  accounts : Accounts o stage past w
  count : (inferPayloads past).length = count
  executor : (w.executor._published_rows : Int) = published_steps
  file : ∃ rows, w.audit.RolloutFile rows ∧ (rows.map publishedRows).sum = published_steps
  budget : published_steps ≤ stage.action_steps
  profile : ∀ chunk_rows, ValidatesRows o chunk_rows → published_steps ≤ chunks * chunk_rows

section Round

variable {o : PipelineOrchestrator} {stage : StagePlan} {session : Dict}
  {sequence : Nat} {published_steps : Int}

/-- The triples of a rollout. -/
abbrev RolloutTriple (o : PipelineOrchestrator) (stage : StagePlan) {α : Type}
    (P : List OrchEvent → EdgeWorld → Prop) (m : Orch α)
    (Q : α → List OrchEvent → EdgeWorld → Prop) : Prop :=
  Triple onRobot (Accounts o stage)
    (fun _ past _ _ => ProfileBudget o stage → NotOverBudget o past)
    (fun past _ w => P past w) m fun a past _ w => Q a past w

/-- A computation of the orchestrator that may raise. -/
theorem raising_triple {W α : Type} {env : Environment Component Component.Answer Raised W}
    {J : List OrchEvent → W → Prop}
    {X : Raised → Assertion Component Component.Answer Raised OrchestratorState W}
    {P : Assertion Component Component.Answer Raised OrchestratorState W} {r : Except Exn α}
    (hJ : ∀ past s w, P past s w → J past w)
    (herror : ∀ e, r = .error e → ∀ past s w, P past s w → X (.exn e) past s w) :
    Triple env J X P (raising r) fun a past s w => r = .ok a ∧ P past s w := by
  refine Triple.lift hJ ?_ ?_
  · intro a ha past s w hP
    cases r with
    | error e => cases ha
    | ok b =>
        cases ha
        exact ⟨rfl, hP⟩
  · intro x hx past s w hP
    cases r with
    | error e =>
        cases hx
        exact herror e rfl past s w hP
    | ok b => cases hx

/-- A call that changes neither the executor nor the audit. -/
theorem onRobot_other {c : Component} {w w' : EdgeWorld} {out : Except Raised c.Answer}
    (haudit : c.auditCall = none) (hdrives : drives c w out w' →
      w'.executor = w.executor ∧ w'.asked = w.asked) (h : onRobot c w out w') :
    w'.executor = w.executor ∧ w'.asked = w.asked ∧ w'.audit = w.audit :=
  ⟨(hdrives h.2).1, (hdrives h.2).2, audited_other haudit h.1⟩

/-- The books do not change with such a call. -/
theorem Ledger.other {count chunks : Nat} {past : List OrchEvent} {w w' : EdgeWorld}
    {ev : OrchEvent} (h : Ledger o stage count chunks published_steps past w)
    (hev : ev.call.accounted = false) (hexecutor : w'.executor = w.executor)
    (haudit : w'.audit = w.audit) :
    Ledger o stage count chunks published_steps (past ++ [ev]) w' where
  accounts := h.accounts.other hev
  count := by
    have hnone : inferPayloads [ev] = [] := by
      obtain ⟨c, out⟩ := ev
      cases c <;> first | rfl | cases hev
    rw [inferPayloads_snoc, hnone, List.append_nil]
    exact h.count
  executor := by
    rw [hexecutor]
    exact h.executor
  file := by
    rw [haudit]
    exact h.file
  budget := h.budget
  profile := h.profile

/-- A call that the books do not record, and that raises no blame. -/
theorem ask_other {count chunks : Nat} {c : Component} (hc : c.accounted = false)
    (haudit : c.auditCall = none) (hdrives : ∀ w out w', drives c w out w' →
      w'.executor = w.executor ∧ w'.asked = w.asked) :
    RolloutTriple o stage
      (fun past w => Ledger o stage count chunks published_steps past w ∧ PastInference past)
      (ask c)
      (fun _ past w => Ledger o stage count chunks published_steps past w ∧ PastInference past) := by
  refine Triple.perform (fun past s w h => h.1.accounts) ?_
  intro past s w out w' h henv
  obtain ⟨hexecutor, -, hsame⟩ := onRobot_other haudit (hdrives w out w') henv
  have hledger : Ledger o stage count chunks published_steps (past ++ [⟨c, out⟩]) w' :=
    h.1.other hc hexecutor hsame
  have hpast : PastInference (past ++ [⟨c, out⟩]) := .snoc (not_infer hc)
  refine ⟨hledger.accounts, ?_⟩
  cases out with
  | ok a => exact ⟨hledger, hpast⟩
  | error x => exact fun _ => hpast.notOverBudget

/-- A request carries its sequence number. -/
theorem _request_ok {W : Type} {env : Environment Component Component.Answer Raised W}
    {s s' : OrchestratorState} {w w' : W} {t : List OrchEvent} {payload : Dict}
    (h : Runs env (o._request session (py "infer") sequence) s w t (.ok payload) s' w') :
    payload.get? "sequence" = some (.int sequence) := by
  obtain ⟨_, _, _, _, _, -, -, h⟩ := runs_bind_ok h
  obtain ⟨sampled, _, _, _, _, -, -, h⟩ := runs_bind_ok h
  obtain ⟨_, _, _, _, _, -, -, h⟩ := runs_bind_ok h
  -- five fields of the session, then the time of sending
  obtain ⟨session_id, _, _, _, _, -, -, h⟩ := runs_bind_ok h
  obtain ⟨session_token, _, _, _, _, -, -, h⟩ := runs_bind_ok h
  obtain ⟨trial_id, _, _, _, _, -, -, h⟩ := runs_bind_ok h
  obtain ⟨skill, _, _, _, _, -, -, h⟩ := runs_bind_ok h
  obtain ⟨generation, _, _, _, _, -, -, h⟩ := runs_bind_ok h
  obtain ⟨sent_at, _, _, _, _, -, -, h⟩ := runs_bind_ok h
  obtain ⟨-, hpayload, -⟩ := runs_pure.mp h
  rw [Except.ok.inj hpayload]
  rfl

/-- **A request** leaves the books alone. -/
theorem _request_triple :
    RolloutTriple o stage
      (fun past w => Ledger o stage sequence sequence published_steps past w ∧ PastInference past)
      (o._request session (py "infer") sequence)
      (fun payload past w => payload.get? "sequence" = some (.int sequence) ∧
        Ledger o stage sequence sequence published_steps past w ∧ PastInference past) := by
  refine Triple.result (_request_part (Triple.compositional ?_ ?_) ?_ ?_ o session _ _)
    fun s w t payload s' w' h => _request_ok h
  · exact fun past w h => h.1.accounts
  · exact fun x past s w h _ => h.2.notOverBudget
  · exact fun skill => ask_other rfl rfl fun _ _ _ h => h
  · exact ask_other rfl rfl fun _ _ _ h => h

/-- The books after a response that has just come in. -/
structure Responded (o : PipelineOrchestrator) (stage : StagePlan) (sequence : Nat)
    (published_steps : Int) (response : Dict) (past : List OrchEvent) (w : EdgeWorld) : Prop where
  ledger : Ledger o stage (sequence + 1) sequence published_steps past w
  last : ∃ before payload, past = before ++ [⟨.infer payload, .ok response⟩]

/-- **A response** is one more request in the books. -/
theorem infer_triple {payload : Dict} (hseq : (sequence : Int) < stage.max_chunks) :
    RolloutTriple o stage
      (fun past w => payload.get? "sequence" = some (.int sequence) ∧
        Ledger o stage sequence sequence published_steps past w ∧ PastInference past)
      (ask (.infer payload))
      (fun response past w => Responded o stage sequence published_steps response past w) := by
  refine Triple.perform (fun past s w h => h.2.1.accounts) ?_
  rintro past s w out w' ⟨hpayload, hledger, -⟩ henv
  obtain ⟨hexecutor, -, haudit⟩ := onRobot_other (c := .infer payload) rfl (fun h => h) henv
  have haccounts : Accounts o stage (past ++ [⟨.infer payload, out⟩]) w' := by
    refine hledger.accounts.snoc ?_ nofun nofun
    rintro p hp
    cases hp
    rw [hledger.count]
    exact ⟨hpayload, hseq⟩
  refine ⟨haccounts, ?_⟩
  cases out with
  | error x =>
      -- no response, so no response to blame
      intro _ before p response ht
      obtain ⟨-, hev⟩ := List.append_inj' ht rfl
      cases List.singleton_inj.mp hev
  | ok response =>
      refine ⟨⟨haccounts, ?_, ?_, ?_, hledger.budget, hledger.profile⟩, past, payload, rfl⟩
      · rw [inferPayloads_snoc, List.length_append, hledger.count]
        rfl
      · rw [hexecutor]
        exact hledger.executor
      · rw [haudit]
        exact hledger.file

/-- A check of the response that fails blames the response. -/
theorem Responded.notOverBudget {response : Dict} {past : List OrchEvent} {w : EdgeWorld}
    (h : Responded o stage sequence published_steps response past w)
    (hblame : response.isTrue "publishable" = false ∨
      ∀ actions rows, response.getItem "actions" = .ok actions →
        o.action_validator actions ≠ .ok rows) : NotOverBudget o past := by
  obtain ⟨before, payload, rfl⟩ := h.last
  intro before' payload' response' ht
  obtain ⟨-, hev⟩ := List.append_inj' ht rfl
  cases List.singleton_inj.mp hev
  exact hblame

/-- **The budget of the profile is never exceeded**: every chunk has the rows
that it allows for. -/
theorem Responded.within_budget {response : Dict} {past : List OrchEvent} {w : EdgeWorld}
    {actions : Value} {rows : List (List ℚ)}
    (h : Responded o stage sequence published_steps response past w)
    (hseq : (sequence : Int) < stage.max_chunks) (hprofile : ProfileBudget o stage)
    (hrows : o.action_validator actions = .ok rows) :
    published_steps + rows.length ≤ stage.action_steps := by
  obtain ⟨chunk_rows, hvalidates, hsteps⟩ := hprofile
  have hlength := hvalidates.length hrows
  have hpublished := h.ledger.profile chunk_rows hvalidates
  have hnonneg : 0 ≤ chunk_rows := by omega
  calc published_steps + rows.length
      ≤ sequence * chunk_rows + chunk_rows := by omega
    _ = (sequence + 1) * chunk_rows := by ring
    _ ≤ stage.max_chunks * chunk_rows := by
        exact mul_le_mul_of_nonneg_right (by omega) hnonneg
    _ = stage.action_steps := hsteps.symm

/-- The books after a chunk that is published but not recorded yet. -/
structure Published (o : PipelineOrchestrator) (stage : StagePlan) (sequence : Nat)
    (published_steps : Int) (rows : List (List ℚ)) (r : PublishResult)
    (past : List OrchEvent) (w : EdgeWorld) : Prop where
  accounts : Accounts o stage past w
  count : (inferPayloads past).length = sequence + 1
  file : ∃ recorded, w.audit.RolloutFile recorded ∧
    (recorded.map publishedRows).sum = published_steps
  executor : (w.executor._published_rows : Int) = published_steps + r.published_rows
  asked : w.asked.getLast? = some w.executor._published_rows
  reported : 0 < r.published_rows ∧ r.published_rows ≤ rows.length
  budget : published_steps + rows.length ≤ stage.action_steps
  profile : ∀ chunk_rows, ValidatesRows o chunk_rows →
    published_steps + rows.length ≤ (sequence + 1) * chunk_rows
  last : PastInference past

/-- **A chunk** adds what the executor reports. -/
theorem publish_triple {response : Dict} {actions : Value} {rows : List (List ℚ)}
    (hactions : response.getItem "actions" = .ok actions)
    (hrows : o.action_validator actions = .ok rows)
    (hbudget : published_steps + rows.length ≤ stage.action_steps) :
    RolloutTriple o stage
      (fun past w => Responded o stage sequence published_steps response past w)
      (ask (.publish rows))
      (fun r past w => Published o stage sequence published_steps rows r past w) := by
  refine Triple.perform (fun past s w h => h.ledger.accounts) ?_
  rintro past s w out w' h ⟨haudit, hdrives⟩
  have haudit : w'.audit = w.audit := audited_other rfl haudit
  obtain ⟨before, payload, hlast⟩ := h.last
  have haccounts : Accounts o stage (past ++ [⟨.publish rows, out⟩]) w' := by
    refine h.ledger.accounts.snoc nofun ?_ nofun
    intro rows' hcall
    cases hcall
    exact ⟨before, payload, response, actions, hlast, hactions, hrows⟩
  have hpast : PastInference (past ++ [⟨.publish rows, out⟩]) := .snoc nofun
  refine ⟨haccounts, ?_⟩
  cases out with
  | error x => exact fun _ => hpast.notOverBudget
  | ok r =>
      obtain ⟨call, hlength, -, hresult, hafter, hasked⟩ := hdrives
      obtain ⟨hpos, hle, hcount, hsteps⟩ := RosActionExecutor.publish_counted hresult
      refine ⟨haccounts, ?_, ?_, ?_, ?_, ⟨hpos, ?_⟩, hbudget, ?_, hpast⟩
      · rw [inferPayloads_snoc, List.length_append, h.ledger.count]
        rfl
      · rw [haudit]
        exact h.ledger.file
      · rw [hafter, hcount, h.ledger.executor]
      · rw [hasked, hafter]
        exact hsteps
      · rw [← hlength]
        exact hle
      · intro chunk_rows hvalidates
        have hpublished := h.ledger.profile chunk_rows hvalidates
        have hrows := hvalidates.length hrows
        have hexpand : ((sequence : Int) + 1) * chunk_rows = sequence * chunk_rows + chunk_rows := by
          ring
        omega

/-- A row that can be built says how many rows were published. -/
theorem rolloutRow_ok {skill : PyStr} {response row : Dict} {published_rows total : Int}
    (h : rolloutRow skill session response sequence published_rows total = .ok row) :
    publishedRows row = published_rows ∧ row.get? "published_steps_total" = some (.int total) := by
  unfold rolloutRow at h
  simp only [bind_ok] at h
  obtain ⟨session_id, -, generation, -, request_hash, -, action_hash, -, h⟩ := h
  rw [← Except.ok.inj h]
  exact ⟨rfl, rfl⟩

/-- **A recorded chunk** balances the books. -/
theorem record_triple {rows : List (List ℚ)} {r : PublishResult} {response row : Dict}
    (hrow : rolloutRow stage.skill session response sequence r.published_rows
      (published_steps + r.published_rows) = .ok row) :
    RolloutTriple o stage
      (fun past w => Published o stage sequence published_steps rows r past w)
      (ask (.record_rollout row))
      (fun _ past w => Ledger o stage (sequence + 1) (sequence + 1)
        (published_steps + r.published_rows) past w ∧ PastInference past) := by
  obtain ⟨hpublished, htotal⟩ := rolloutRow_ok hrow
  refine Triple.perform (fun past s w h => h.accounts) ?_
  rintro past s w out w' h ⟨haudit, hexecutor, hasked⟩
  obtain ⟨hpos, hle⟩ := h.reported
  have hbudget := h.budget
  have hpast : PastInference (past ++ [⟨.record_rollout row, out⟩]) := .snoc nofun
  -- what was published is a number of rows
  obtain ⟨n, hn⟩ : ∃ n : Nat, w.executor._published_rows = n := ⟨_, rfl⟩
  have htotal_n : published_steps + r.published_rows = (n : Int) := by
    rw [← h.executor, hn]
  have hagree : ∀ u : Unit, out = .ok u → ∃ recorded, w'.audit.RolloutFile recorded ∧
      (recorded.map publishedRows).sum = (n : Int) := by
    rintro u rfl
    obtain ⟨recorded, hfile, hsum⟩ := h.file
    rcases audited_call rfl haudit with hinterrupt | ⟨io, hstore, hsees⟩
    · cases hinterrupt
    · obtain ⟨returned, hreturned, -⟩ := Component.sees_ok hsees
      obtain ⟨u', hok, -⟩ := map_ok.mp hreturned
      refine ⟨recorded ++ [row], ?_, ?_⟩
      · rw [hstore]
        exact hfile.record_rollout (Prod.ext hok rfl)
      · rw [List.map_append, List.sum_append, hsum, List.map_singleton, List.sum_singleton,
          hpublished]
        exact htotal_n
  have haccounts : Accounts o stage (past ++ [⟨.record_rollout row, out⟩]) w' := by
    refine h.accounts.snoc nofun nofun ?_
    intro row' hev
    cases hev
    obtain ⟨recorded, hfile, hsum⟩ := hagree () rfl
    refine ⟨n, recorded, ?_, ?_, ?_, hfile, hsum, ?_⟩
    · rw [htotal, htotal_n]
    · rw [hexecutor, hn]
    · rw [hasked, h.asked, hn]
    · omega
  refine ⟨haccounts, ?_⟩
  cases out with
  | error x => exact fun _ => hpast.notOverBudget
  | ok u =>
      obtain ⟨recorded, hfile, hsum⟩ := hagree u rfl
      refine ⟨⟨haccounts, ?_, ?_, ⟨recorded, hfile, hsum.trans htotal_n.symm⟩, ?_, ?_⟩, hpast⟩
      · rw [inferPayloads_snoc, List.length_append, h.count]
        rfl
      · rw [hexecutor]
        exact h.executor
      · omega
      · intro chunk_rows hvalidates
        have := h.profile chunk_rows hvalidates
        push_cast
        omega

/-- **One round** of the rollout. -/
theorem rolloutRound_triple (hseq : (sequence : Int) < stage.max_chunks) :
    RolloutTriple o stage
      (fun past w => Ledger o stage sequence sequence published_steps past w ∧ PastInference past)
      (o.rolloutRound stage session sequence published_steps)
      (fun r past w => Ledger o stage (sequence + 1) (sequence + 1)
        (published_steps + r.published_rows) past w ∧ PastInference past) := by
  refine Triple.bind _request_triple fun payload => ?_
  refine Triple.bind (infer_triple hseq) fun response => ?_
  have hJ : ∀ (past : List OrchEvent) (s : OrchestratorState) w,
      Responded o stage sequence published_steps response past w → Accounts o stage past w :=
    fun past s w h => h.ledger.accounts
  refine Triple.bind (Triple.require hJ ?_) fun _ => Triple.given fun _ => ?_
  · exact fun hpublishable past s w h _ => h.notOverBudget (.inl hpublishable)
  refine Triple.bind (raising_triple hJ ?_) fun actions => Triple.given fun hactions => ?_
  · intro e he past s w h _
    refine h.notOverBudget (.inr fun actions rows hactions => ?_)
    cases he.symm.trans hactions
  refine Triple.bind (raising_triple hJ ?_) fun rows => Triple.given fun hrows => ?_
  · intro e he past s w h _
    refine h.notOverBudget (.inr fun actions' rows hactions' hrows => ?_)
    cases hactions.symm.trans hactions'
    cases he.symm.trans hrows
  refine Triple.bind (Triple.require hJ ?_) fun _ => Triple.given fun hbudget => ?_
  · -- the check that the budget of the profile never fails
    intro hbudget past s w h hprofile
    exact absurd (h.within_budget hseq hprofile hrows) (of_decide_eq_false hbudget)
  refine Triple.bind (publish_triple hactions hrows (of_decide_eq_true hbudget)) fun r => ?_
  have hJ : ∀ (past : List OrchEvent) (s : OrchestratorState) w,
      Published o stage sequence published_steps rows r past w → Accounts o stage past w :=
    fun past s w h => h.accounts
  refine Triple.bind (Triple.require hJ ?_) fun _ => Triple.given fun _ => ?_
  · exact fun _ past s w h _ => h.last.notOverBudget
  refine Triple.bind (raising_triple hJ ?_) fun row => Triple.given fun hrow => ?_
  · exact fun e _ past s w h _ => h.last.notOverBudget
  refine Triple.bind (record_triple hrow) fun _ => ?_
  exact Triple.pure (fun past s w h => h.1.accounts) fun past s w h => h

/-- **The rollout**, by induction on the chunks left. -/
theorem rolloutFrom_triple (o : PipelineOrchestrator) (stage : StagePlan) (session : Dict)
    (remaining : Nat) : ∀ (sequence : Nat) (published_steps : Int),
      (sequence + remaining : Int) = stage.max_chunks →
      RolloutTriple o stage
        (fun past w => Ledger o stage sequence sequence published_steps past w ∧ PastInference past)
        (o.rolloutFrom stage session remaining sequence published_steps)
        (fun _ past w => Accounts o stage past w ∧ PastInference past) := by
  induction remaining with
  | zero =>
      intro sequence published_steps _
      exact Triple.raise (fun past s w h => h.1.accounts) fun past s w h _ => h.2.notOverBudget
  | succ remaining ih =>
      intro sequence published_steps hleft
      push_cast at hleft
      refine Triple.bind (rolloutRound_triple (by omega)) fun r => ?_
      by_cases hstop : r.stop_requested = true
      · rw [if_pos hstop]
        have hJ : ∀ (past : List OrchEvent) (s : OrchestratorState) w,
            Ledger o stage (sequence + 1) (sequence + 1) (published_steps + r.published_rows) past w ∧
              PastInference past → Accounts o stage past w := fun past s w h => h.1.accounts
        refine Triple.bind (Triple.require hJ ?_) fun _ => Triple.given fun _ => ?_
        · exact fun _ past s w h _ => h.2.notOverBudget
        · exact Triple.pure hJ fun past s w h => ⟨h.1.accounts, h.2⟩
      · rw [if_neg hstop]
        exact ih (sequence + 1) _ (by push_cast; omega)

end Round

/-! ## §4. The stage around it. -/

section Quiet

variable {Q : {α : Type} → Orch α → Prop}

/-- The calls that prepare a stage. -/
def Component.setsUp : Component → Prop
  | .set_pipeline_state _ | .reset _ | .sleep _ | .control _ _ => True
  | _ => False

theorem transition_setUp (hQ : Compositional Q) (hupdate : ∀ f, Q (Program.update f))
    (hask : ∀ c : Component, c.setsUp → Q (ask c)) (target : PipelineState) :
    Q (_transition target) :=
  hQ.bind (_enter_part hQ hupdate target) fun _ => hask _ trivial

theorem preparePhase_setUp (hQ : Compositional Q) (hupdate : ∀ f, Q (Program.update f))
    (hask : ∀ c : Component, c.setsUp → Q (ask c)) (o : PipelineOrchestrator) (index : Nat)
    (stage : StagePlan) : Q (o.preparePhase index stage) := by
  refine hQ.bind (transition_setUp hQ hupdate hask _) fun _ => ?_
  refine hQ.bind (_control_part hQ (hask _ trivial)) fun _ => ?_
  refine hQ.bind (hQ.bind (hupdate _) fun _ => _control_part hQ (hask _ trivial)) fun _ => ?_
  refine hQ.bind (_control_part hQ (hask _ trivial)) fun session => ?_
  exact hQ.bind (hQ.lift _) fun _ => hQ.bind (hupdate _) fun _ => hQ.pure _

theorem closePhase_quiet (hQ : Compositional Q) (hupdate : ∀ f, Q (Program.update f))
    (hask : ∀ c : Component, c.accounted = false → Q (ask c)) : Q closePhase := by
  refine hQ.bind (hask _ rfl) fun _ => ?_
  refine hQ.bind (hQ.bind hQ.read fun _ => hQ.bind (_control_part hQ (hask _ rfl))
    fun _ => hupdate _) fun _ => ?_
  refine hQ.bind (_control_part hQ (hask _ rfl)) fun summary => ?_
  exact hQ.bind (hQ.require _ _) fun _ => hQ.bind (hupdate _) fun _ => hQ.pure summary

theorem gatePhase_quiet (hQ : Compositional Q) (hupdate : ∀ f, Q (Program.update f))
    (hask : ∀ c : Component, c.accounted = false → Q (ask c)) (stage : StagePlan)
    (rollout_result : PublishResult) (server_summary : Dict) :
    Q (gatePhase stage rollout_result server_summary) := by
  have htransition := transition_setUp hQ hupdate fun c hc => hask c (by cases c <;> first | rfl | exact hc.elim)
  refine hQ.bind (htransition _) fun _ => ?_
  cases rollout_result.gate_result with
  | none => exact hQ.raise _
  | some gate =>
      refine hQ.bind (hQ.require _ _) fun _ => ?_
      refine hQ.bind (htransition _) fun _ => ?_
      refine hQ.bind ?_ fun checked => ?_
      · unfold checkPhase
        by_cases hreq : stage.checker_required = true
        · rw [if_pos hreq]
          exact hQ.bind (hask _ rfl) fun verdict => hQ.bind (hQ.require _ _) fun _ => hQ.pure _
        · rw [if_neg hreq]
          exact hQ.pure _
      · exact hQ.bind (hask _ rfl) fun _ => htransition _

end Quiet

section Stage

variable {o : PipelineOrchestrator} {stage : StagePlan}

/-- Nothing is requested, published or recorded yet; the rollout of the stage is
empty, and if the executor has begun it, so is its count. -/
structure Fresh (begun : Prop) (past : List OrchEvent) (w : EdgeWorld) : Prop where
  quiet : ∀ ev ∈ past, ev.call.accounted = false
  file : w.audit.RolloutFile []
  executor : begun → w.executor._published_rows = 0

theorem quiet_inferPayloads {past : List OrchEvent}
    (h : ∀ ev ∈ past, ev.call.accounted = false) : inferPayloads past = [] := by
  unfold inferPayloads
  rw [List.filterMap_eq_nil_iff]
  rintro ⟨c, out⟩ hmem
  have hc : c.accounted = false := h _ hmem
  cases c <;> first | rfl | cases hc

/-- A quiet trace has nothing to account for. -/
theorem quiet_accounts {past : List OrchEvent} (hmax : 0 ≤ stage.max_chunks)
    (h : ∀ ev ∈ past, ev.call.accounted = false) (w : EdgeWorld) : Accounts o stage past w := by
  have hnone := quiet_inferPayloads h
  refine ⟨?_, ?_, ?_, ?_⟩
  · rw [hnone]
    nofun
  · rw [hnone]
    exact hmax
  · rintro before ev after rows rfl hcall
    have hev := h ev (List.mem_append_right _ (List.mem_cons_self ..))
    rw [hcall] at hev
    cases hev
  · rintro before row rfl
    cases h _ (List.mem_append_right _ (List.mem_singleton_self _))

theorem quiet_pastInference {past : List OrchEvent}
    (h : ∀ ev ∈ past, ev.call.accounted = false) : PastInference past := by
  rintro before payload out rfl
  cases h _ (List.mem_append_right _ (List.mem_singleton_self _))

theorem quiet_snoc {past : List OrchEvent} {ev : OrchEvent}
    (h : ∀ ev ∈ past, ev.call.accounted = false) (hev : ev.call.accounted = false) :
    ∀ ev' ∈ past ++ [ev], ev'.call.accounted = false := by
  intro ev' hmem
  rcases List.mem_append.mp hmem with hmem | hmem
  · exact h ev' hmem
  · rw [List.mem_singleton.mp hmem]
    exact hev

/-- A call of a quiet stage, by what it does when it returns. -/
theorem quiet_triple {c : Component} (hmax : 0 ≤ stage.max_chunks) (hc : c.accounted = false)
    {P : List OrchEvent → EdgeWorld → Prop} {Q : c.Answer → List OrchEvent → EdgeWorld → Prop}
    (hquiet : ∀ past w, P past w → ∀ ev ∈ past, ev.call.accounted = false)
    (hcall : ∀ past w a w', P past w → onRobot c w (.ok a) w' →
      (∀ ev ∈ past ++ [⟨c, .ok a⟩], ev.call.accounted = false) → Q a (past ++ [⟨c, .ok a⟩]) w') :
    RolloutTriple o stage P (ask c) Q := by
  refine Triple.perform (fun past s w h => quiet_accounts hmax (hquiet past w h) w) ?_
  intro past s w out w' h henv
  have hsnoc : ∀ ev ∈ past ++ [(⟨c, out⟩ : OrchEvent)], ev.call.accounted = false :=
    quiet_snoc (hquiet past w h) hc
  refine ⟨quiet_accounts hmax hsnoc w', ?_⟩
  cases out with
  | ok a => exact hcall past w a w' h henv hsnoc
  | error x => exact fun _ => (quiet_pastInference hsnoc).notOverBudget

/-- The calls that prepare a stage keep it fresh; a change of the pipeline state
does so even when the executor has begun. -/
theorem setUp_fresh {begun : Prop} (hmax : 0 ≤ stage.max_chunks) {c : Component} (hc : c.setsUp)
    (hbegun : begun → ∃ target, c = .set_pipeline_state target) :
    RolloutTriple o stage (Fresh begun) (ask c) (fun _ past w => Fresh begun past w) := by
  refine quiet_triple hmax (by cases c <;> first | rfl | exact hc.elim) (fun past w h => h.quiet) ?_
  rintro past w a w' h ⟨haudit, hdrives⟩ hquiet
  refine ⟨hquiet, ?_, ?_⟩
  · cases c with
    | set_pipeline_state target =>
        rcases audited_call rfl haudit with hinterrupt | ⟨io, hstore, -⟩
        · cases hinterrupt
        · rw [hstore]
          exact h.file.set_pipeline_state _ io
    | reset skill =>
        rw [audited_other rfl haudit]
        exact h.file
    | sleep sec =>
        rw [audited_other rfl haudit]
        exact h.file
    | control command arguments =>
        rw [audited_other rfl haudit]
        exact h.file
    | _ => exact hc.elim
  · intro hb
    obtain ⟨target, rfl⟩ := hbegun hb
    rw [hdrives.1]
    exact h.executor hb

theorem fresh_compositional {begun : Prop} (hmax : 0 ≤ stage.max_chunks) :
    Compositional fun {α : Type} (m : Orch α) =>
      RolloutTriple o stage (Fresh begun) m fun _ past w => Fresh begun past w :=
  Triple.compositional (fun _ w h => quiet_accounts hmax h.quiet w)
    fun _ _ _ _ h _ => (quiet_pastInference h.quiet).notOverBudget

/-- **Up to the open session** nothing is accounted for. -/
theorem resetPhase_triple (hmax : 0 ≤ stage.max_chunks) (o : PipelineOrchestrator) (index : Nat) :
    RolloutTriple o stage
      (fun past w => past = [] ∧ ∀ a, w.audit._active = some a → (w.audit.dirs a.run_id).isSome = true)
      (o.resetPhase index stage) (fun _ past w => Fresh False past w) := by
  have hQ := @fresh_compositional o stage False hmax
  have hask : ∀ c : Component, c.setsUp →
      RolloutTriple o stage (Fresh False) (ask c) fun _ past w => Fresh False past w :=
    fun c hc => setUp_fresh hmax hc False.elim
  refine Triple.bind (M := fun _ past _ w => Fresh False past w) ?_ fun _ => ?_
  · refine quiet_triple hmax rfl ?_ ?_
    · rintro past w ⟨rfl, -⟩ ev hev
      cases hev
    · rintro past w a w' ⟨-, hrooted⟩ ⟨haudit, -⟩ hquiet
      refine ⟨hquiet, ?_, False.elim⟩
      rcases audited_call rfl haudit with hinterrupt | ⟨io, hstore, hsees⟩
      · cases hinterrupt
      · obtain ⟨returned, hreturned, -⟩ := Component.sees_ok hsees
        obtain ⟨name, hok, -⟩ := map_ok.mp hreturned
        rw [hstore]
        exact start_stage_rollout hrooted (Prod.ext hok rfl)
  · refine hQ.bind (transition_setUp hQ (Triple.update_keep ?_) hask _) fun _ => ?_
    · exact fun past w h => quiet_accounts hmax h.quiet w
    by_cases hreset : stage.reset_before = true
    · rw [if_pos hreset]
      exact hQ.bind (hask _ trivial) fun _ => hask _ trivial
    · rw [if_neg hreset]
      exact hQ.pure ()

/-- **The rollout phase** starts with empty books. -/
theorem rolloutPhase_triple (hmax : 0 ≤ stage.max_chunks) (hsteps : 0 ≤ stage.action_steps)
    (o : PipelineOrchestrator) (session : Dict) :
    RolloutTriple o stage (Fresh False) (o.rolloutPhase stage session)
      (fun _ past w => Accounts o stage past w ∧ PastInference past) := by
  have htransition : ∀ (begun : Prop) target, RolloutTriple o stage (Fresh begun)
      (_transition target) fun _ past w => Fresh begun past w := by
    intro begun target
    have hQ := @fresh_compositional o stage begun hmax
    refine hQ.bind (_enter_part hQ (Triple.update_keep ?_) target) fun _ => ?_
    · exact fun past w h => quiet_accounts hmax h.quiet w
    · exact setUp_fresh hmax trivial fun _ => ⟨target, rfl⟩
  refine Triple.bind (htransition False _) fun _ => ?_
  refine Triple.bind (M := fun _ past _ w => Fresh True past w) ?_ fun _ => ?_
  · refine quiet_triple hmax rfl (fun past w h => h.quiet) ?_
    rintro past w a w' h ⟨haudit, hdrives⟩ hquiet
    refine ⟨hquiet, ?_, fun _ => ?_⟩
    · rw [audited_other rfl haudit]
      exact h.file
    · obtain ⟨checks, gate, arm_snapshot, hbegin⟩ := hdrives
      exact RosActionExecutor.begin_stage_rows hbegin
  refine Triple.bind (htransition True _) fun _ => ?_
  refine (rolloutFrom_triple o stage session stage.max_chunks.toNat 0 0 ?_).pre ?_
  · omega
  · intro past s w h
    refine ⟨⟨quiet_accounts hmax h.quiet w, ?_, ?_, ⟨[], h.file, rfl⟩, hsteps, ?_⟩,
      quiet_pastInference h.quiet⟩
    · rw [quiet_inferPayloads h.quiet]
      rfl
    · rw [h.executor trivial]
      rfl
    · intro chunk_rows _
      omega

/-- **The accounts of a stage.** -/
theorem _run_stage_triple (hmax : 0 ≤ stage.max_chunks) (hsteps : 0 ≤ stage.action_steps)
    (o : PipelineOrchestrator) (index : Nat) :
    RolloutTriple o stage
      (fun past w => past = [] ∧ ∀ a, w.audit._active = some a → (w.audit.dirs a.run_id).isSome = true)
      (o._run_stage index stage) (fun _ past w => Accounts o stage past w ∧ PastInference past) := by
  refine Triple.bind (resetPhase_triple hmax o index) fun _ => ?_
  have hfresh := @fresh_compositional o stage False hmax
  refine Triple.bind (preparePhase_setUp hfresh (Triple.update_keep ?_) ?_ o index stage)
    fun session => ?_
  · exact fun past w h => quiet_accounts hmax h.quiet w
  · exact fun c hc => setUp_fresh hmax hc False.elim
  refine Triple.bind (rolloutPhase_triple hmax hsteps o session) fun result => ?_
  -- the calls after the rollout are none of those accounted for
  have hQ : Compositional fun {α : Type} (m : Orch α) => RolloutTriple o stage
      (fun past w => Accounts o stage past w ∧ PastInference past) m
      fun _ past w => Accounts o stage past w ∧ PastInference past :=
    Triple.compositional (fun past w h => h.1) fun _ _ _ _ h _ => h.2.notOverBudget
  have hask : ∀ c : Component, c.accounted = false → RolloutTriple o stage
      (fun past w => Accounts o stage past w ∧ PastInference past) (ask c)
      fun _ past w => Accounts o stage past w ∧ PastInference past := by
    intro c hc
    refine Triple.perform (fun past s w h => h.1) ?_
    intro past s w out w' h _
    have hother : Accounts o stage (past ++ [⟨c, out⟩]) w' := h.1.other hc
    have hpast : PastInference (past ++ [⟨c, out⟩]) := .snoc (not_infer hc)
    refine ⟨hother, ?_⟩
    cases out with
    | ok a => exact ⟨hother, hpast⟩
    | error x => exact fun _ => hpast.notOverBudget
  refine Triple.bind (closePhase_quiet hQ (Triple.update_keep fun past w h => h.1) hask)
    fun summary => ?_
  exact gatePhase_quiet hQ (Triple.update_keep fun past w h => h.1) hask stage result summary

end Stage

/-! ## §5. The accounts of a stage. -/

/-- An accepted stage has chunks and steps. -/
theorem StagePlan.bounds_of_accepted {plan : PipelinePlan} (h : plan.validate = .ok ())
    {index : Nat} {stage : StagePlan} (hstage : plan.stages[index]? = some stage) :
    0 < stage.max_chunks ∧ 0 < stage.action_steps := by
  have hstages : ∀ (stages : List StagePlan) (k : Nat), validateStages plan.run_id k stages = .ok () →
      ∀ stage ∈ stages, stage.validate = .ok () := by
    intro stages
    induction stages with
    | nil => exact fun _ _ _ hmem => absurd hmem List.not_mem_nil
    | cons first rest ih =>
        intro k hvalid stage hmem
        unfold validateStages at hvalid
        split at hvalid
        · cases hvalid
        · rename_i hfirst
          split at hvalid
          · cases hvalid
          · rcases List.mem_cons.mp hmem with rfl | hmem
            · exact hfirst
            · exact ih _ hvalid stage hmem
  have hvalid : validateStages plan.run_id 0 plan.stages = .ok () := by
    unfold PipelinePlan.validate at h
    split at h
    · cases h
    split at h
    · cases h
    · exact h
  have hstage := hstages _ 0 hvalid stage (List.mem_of_getElem? hstage)
  unfold StagePlan.validate at hstage
  split at hstage
  · cases hstage
  split at hstage
  · cases hstage
  · rename_i hbounds
    push Not at hbounds
    exact ⟨hbounds.2.1, hbounds.2.2.1⟩

/-- **Rollout accounting.**  At every point of a stage of the accepted plan its
requests are numbered from zero and no more than `max_chunks`, what is
published are the validated rows of the response just before, and after a
recorded chunk the orchestrator, the executor and the rollout file agree on a
number within the budget.  With the budget of the profile the stage is never
given up for the budget. -/
theorem rollout_accounting {o : PipelineOrchestrator} {index : Nat} {stage : StagePlan}
    (hstage : o.plan.stages[index]? = some stage) {dirs : PyStr → Option RunDir}
    {calls : List (EdgeAuditStore.Call × Io)} {s : OrchestratorState} {w : EdgeWorld}
    (haudit : w.audit = (watched dirs calls).store) :
    (∀ t w', EffectProgram.Reaches onRobot (o._run_stage index stage s) w t w' → Accounts o stage t w') ∧
      (ProfileBudget o stage → ∀ t x s' w',
        Runs onRobot (o._run_stage index stage) s w t (.error x) s' w' → NotOverBudget o t) := by
  obtain ⟨hmax, hsteps⟩ := StagePlan.bounds_of_accepted o.accepted hstage
  have hrooted : ∀ a, w.audit._active = some a → (w.audit.dirs a.run_id).isSome = true := by
    intro a ha
    rw [haudit] at ha ⊢
    obtain ⟨dir, records, hdir, -⟩ := tracks_watched dirs calls a ha
    rw [hdir]
    rfl
  have htriple := _run_stage_triple (Int.le_of_lt hmax) (Int.le_of_lt hsteps) o index
  refine ⟨?_, ?_⟩
  · intro t w' hreach
    exact htriple.along [] s w t w' ⟨rfl, hrooted⟩ hreach
  · intro hprofile t x s' w' hrun
    exact htriple.raises [] s w t x s' w' ⟨rfl, hrooted⟩ hrun hprofile

/-- Two rows of zeros. -/
def restChunk : NumArray where
  dtype := .i .w8
  shape := [2, 7]
  items := List.replicate 14 (0 : BitVec 8)
  sized := rfl

/-- An orchestrator that validates chunks of two rows, with the budget of the
profile. -/
def chunkOrchestrator : PipelineOrchestrator where
  plan :=
    { run_id := py "run"
      stages := [{ skill := py "open_door", root_seed := 7, max_chunks := 2, action_steps := 4 }] }
  accepted := by decide +kernel
  observation_validator := ⟨500⟩
  action_validator _ := (Except.ok restChunk : Except Exn NumArray) >>=
    (ActionValidator.jointValidator 6).validate

/-- Components that answer as they should, at rest. -/
def restAnswer (c : Component) (w : EdgeWorld) : Except Raised c.Answer × EdgeWorld :=
  match c with
  | .begin_stage skill =>
      let r := w.executor.begin_stage skill (.ok ()) (.ok ()) restSnapshot
      (r.1.mapError .exn, { w with executor := r.2 })
  | .publish actions =>
      let call : PublishCall := ⟨actions.map joints, restSnapshot, fun _ _ => none⟩
      ((w.executor.result call).mapError .exn,
        { w with executor := w.executor.after call, asked := w.executor.gateSteps call })
  | c =>
      let r := storeAnswer (fun _ => .clean) c w.audit
      (r.1, { w with audit := r.2 })

theorem restAnswer_onRobot (c : Component) (w : EdgeWorld) (out : Except Raised c.Answer)
    (w' : EdgeWorld) (h : scripted restAnswer c w out w') : onRobot c w out w' := by
  have h : restAnswer c w = (out, w') := h
  cases c with
  | begin_stage skill =>
      cases h
      refine ⟨rfl, ?_⟩
      unfold drives
      rcases hr : w.executor.begin_stage skill (.ok ()) (.ok ()) restSnapshot with ⟨e | u, ex⟩
      · trivial
      · exact ⟨_, _, _, hr⟩
  | publish actions =>
      cases h
      refine ⟨rfl, ?_⟩
      unfold drives
      generalize hcall : (⟨actions.map joints, restSnapshot, fun _ _ => none⟩ : PublishCall) = call
      have hrows : call.rows = actions.map joints := by rw [← hcall]
      cases hr : w.executor.result call with
      | error e => trivial
      | ok r =>
          refine ⟨call, ?_, fun _ => hrows, hr, rfl, rfl⟩
          rw [hrows, List.length_map]
  | _ =>
      cases h
      refine ⟨storeAnswer_audited (fun _ => .clean) _ _ _ _ rfl, ?_⟩
      trivial

/-- The calls that begin the run. -/
def beginCalls : List (EdgeAuditStore.Call × Io) := [(.begin (py "run") [py "open_door"], .clean)]

/-- A new executor, and a store with the run begun. -/
def restWorld : EdgeWorld :=
  { executor := sampleExecutor, asked := [], audit := (watched (fun _ => none) beginCalls).store }

/-- The row of a recorded chunk, if that is what the call was. -/
def recordedRow (ev : OrchEvent) : Option Dict :=
  match ev with
  | ⟨.record_rollout row, .ok _⟩ => some row
  | _ => none

theorem eq_of_recordedRow {ev : OrchEvent} {row : Dict} (h : recordedRow ev = some row) :
    ev = ⟨.record_rollout row, .ok ()⟩ := by
  unfold recordedRow at h
  split at h
  · cases h
    rfl
  · cases h

/-- A stage whose gate never stops it, at its last recorded chunk. -/
theorem rollout_accounting_exhausted :
    ∃ (stage : StagePlan) (before : List OrchEvent) (row : Dict) (w' : EdgeWorld) (n : Nat)
      (rows : List Dict),
      EffectProgram.Reaches onRobot (chunkOrchestrator._run_stage 0 stage { state := .PREFLIGHT }) restWorld
        (before ++ [⟨.record_rollout row, .ok ()⟩]) w' ∧
      row.get? "published_steps_total" = some (.int n) ∧ w'.executor._published_rows = n ∧
      w'.asked.getLast? = some n ∧ w'.audit.RolloutFile rows ∧
      (rows.map publishedRows).sum = n ∧ (n : Int) ≤ stage.action_steps := by
  obtain ⟨stage, hstage⟩ : ∃ stage, chunkOrchestrator.plan.stages[0]? = some stage := ⟨_, rfl⟩
  obtain ⟨s', w', hrun⟩ :=
    Program.runs_outcome restAnswer (chunkOrchestrator._run_stage 0 stage)
      { state := .PREFLIGHT } restWorld
  have hreach := (Exec.mono restAnswer_onRobot hrun).reaches
  have hlast : (((chunkOrchestrator._run_stage 0 stage).trace restAnswer { state := .PREFLIGHT }
      restWorld).getLast?.bind recordedRow).isSome = true := by
    cases hstage
    decide +kernel
  obtain ⟨row, hrow⟩ := Option.isSome_iff_exists.mp hlast
  obtain ⟨ev, hev, hrow⟩ := Option.bind_eq_some_iff.mp hrow
  cases eq_of_recordedRow hrow
  obtain ⟨before, hbefore⟩ := List.getLast?_eq_some_iff.mp hev
  rw [hbefore] at hreach
  obtain ⟨n, rows, hagree⟩ := ((rollout_accounting hstage rfl).1 _ _ hreach).agree before row rfl
  exact ⟨stage, before, row, w', n, rows, hreach, hagree⟩

end OvenRuntime
