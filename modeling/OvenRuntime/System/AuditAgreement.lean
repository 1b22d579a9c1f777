/-
  OvenRuntime.System.AuditAgreement
  ─────────────────────────────────
  The two audits of a run.

  The edge records a row for every chunk it has published, the server one for
  every inference it has answered, each in its own files.  When a run returns,
  they tell the same story, stage by stage (`run_audits_agree`).
-/
import OvenRuntime.Edge.RolloutAccounts
import OvenRuntime.Server.TrialRecording
import OvenRuntime.System.Recovery

namespace OvenRuntime

open EffectProgram PolicyRuntime PipelineOrchestrator

/-! ## §1. What the audits say. -/

/-- The rows of the rollouts, as the edge recorded them. -/
def recordedRows (t : List OrchEvent) : List Dict := t.filterMap recordedRow

@[simp] theorem recordedRows_append (t t' : List OrchEvent) :
    recordedRows (t ++ t') = recordedRows t ++ recordedRows t' := List.filterMap_append

/-- A row of the edge and a row of the server are about the same inference. -/
structure SameInference (edge : Dict) (server : RequestRow) : Prop where
  session_id : edge.get? "session_id" = some (.str server.session_id)
  skill : edge.get? "skill" = some (.str server.skill)
  generation : edge.get? "generation" = some (.int server.generation)
  sequence : edge.get? "sequence" = some (.int server.sequence)
  request_hash : edge.get? "request_hash" = some (.str server.request_hash.hex)
  action_hash : edge.get? "action_hash" = some (.str server.action_hash.hex)

/-- The trial directory of a stage, and the calls the edge made in the stage. -/
structure TrialAudited (run_id : PyStr) (stage : StagePlan) (index : Nat)
    (segment : List OrchEvent) (record : TrialRecord) (dir : TrialDir) : Prop where
  manifest : dir.server_manifest = some record
  summary : dir.trial_summary = some record
  status : record.status = .COMMITTED
  trial_id : record.trial_id = derivedTrialId run_id index stage.skill
  skill : record.skill = stage.skill
  root_seed : record.root_seed = stage.root_seed
  request_count : record.request_count = some dir.requests.length
  /-- The rows agree, one by one. -/
  rows : List.Forall₂ SameInference (recordedRows segment) dir.requests
  sequences : dir.requests.map (·.sequence) = (List.range dir.requests.length).map Int.ofNat
  nonempty : dir.requests ≠ []
  chunks : (dir.requests.length : Int) ≤ stage.max_chunks
  /-- The edge has completed the stage with the summary of the server. -/
  completed : ∃ evidence gate checker,
    ⟨.complete_stage evidence gate checker record.to_dict, .ok ()⟩ ∈ segment

/-- The audits of a stage agree, with the trial directories at the end of the run. -/
def StageAudited (run_id : PyStr) (audit : TrialAuditStore) (staged : StagePlan × Nat)
    (segment : List OrchEvent) : Prop :=
  ∃ record dir, audit.dirs (derivedTrialId run_id staged.2 staged.1.skill) = some dir ∧
    TrialAudited run_id staged.1 staged.2 segment record dir

/-! ## §2. Calls that the server does not get. -/

/-- The server does not get the call, and the edge records no row. -/
def Mute (ev : OrchEvent) : Prop := ev.call.steady ∧ recordedRow ev = none

section Runs

variable {cfg : RuntimeConfig} {nx : Numerics} {d : ControlDispatcher} {lossy : Bool}
  {w w' : World} {t : List OrchEvent}

theorem exec_mute {α : Type} {p : Prog Component Component.Answer Raised α} {a : α}
    (h : Exec (pipeline cfg nx d lossy) p w t a w') (ht : ∀ ev ∈ t, Mute ev) :
    w' = w ∧ recordedRows t = [] := by
  induction h with
  | ret => exact ⟨rfl, rfl⟩
  | @call e next w w' w'' out t a henv _ ih =>
      obtain ⟨hsteady, hnone⟩ := ht _ List.mem_cons_self
      obtain ⟨rfl, hrows⟩ := ih fun ev hev => ht ev (List.mem_cons_of_mem _ hev)
      refine ⟨pipeline_steady hsteady henv, ?_⟩
      unfold recordedRows
      rw [List.filterMap_cons_none hnone]
      exact hrows

theorem runs_mute {α : Type} {m : Orch α} {s s' : OrchestratorState} {r : Except Raised α}
    (h : Emits (pipeline cfg nx d lossy) Mute m)
    (hrun : Runs (pipeline cfg nx d lossy) m s w t r s' w') : w' = w ∧ recordedRows t = [] :=
  exec_mute hrun (h.trace hrun)

/-- Only the calls that the server gets change the runtime. -/
theorem pipeline_server {c : Component} {out : Except Raised c.Answer} {P : PolicyRuntime → Prop}
    (h : pipeline cfg nx d lossy c w out w')
    (hcarried : ∀ r w', CarriesOut cfg nx c w r w' → P w'.server.rt) (hw : P w.server.rt) :
    P w'.server.rt := by
  cases c with
  | control command arguments =>
      rcases h with ⟨r, h, -⟩ | ⟨-, -, rfl, -⟩
      · exact hcarried r w' h
      · exact hw
  | infer payload =>
      rcases h with ⟨-, r, h, -⟩ | ⟨-, rfl, -⟩
      · exact hcarried r w' h
      · exact hw
  | stop reason =>
      have h : w' = { w with stopping := w.stopping || (py "safe_stop:").isPrefixOf reason } := h
      rw [h]
      exact hw
  | monotonic_ns =>
      rw [h.1]
      exact hw
  | approve_run | audit_begin | set_pipeline_state | start_stage | record_rollout | complete_stage
  | audit_complete | audit_fail | observation_preflight | sample | reset_preflight | reset | sleep
  | executor_preflight | begin_stage | publish | checker_evaluate =>
      have h : w' = w := h
      rw [h]
      exact hw

/-- A trial directory that is sealed stays so in any run. -/
theorem exec_sealed {α : Type} {p : Prog Component Component.Answer Raised α} {a : α}
    {name : PyStr} {dir : TrialDir} (h : Exec (pipeline cfg nx d lossy) p w t a w')
    (hw : w.server.rt.audit.Sealed name dir) : w'.server.rt.audit.Sealed name dir := by
  induction h with
  | ret => exact hw
  | @call c next w w₁ w' out t a henv _ ih =>
      apply ih
      refine pipeline_server (P := fun rt => rt.audit.Sealed name dir) henv ?_ hw
      rintro r w' ⟨hperforms, -⟩
      cases hop : c.op with
      | none =>
          rw [hop] at hperforms
          rw [hperforms.2]
          exact hw
      | some op =>
          rw [hop] at hperforms
          obtain ⟨id, halone⟩ := hperforms
          exact halone.sealed hw

end Runs

/-! ## §3. The rollout. -/

section Rollout

variable {cfg : RuntimeConfig} {nx : Numerics} {d : ControlDispatcher} {lossy : Bool}
  {o : PipelineOrchestrator} {index : Nat} {stage : StagePlan} {state : PipelineState}
  {past t : List OrchEvent} {s s' : OrchestratorState} {w w' : World} {grant : SessionGrant}
  {begun : Begun} {infs : List Inference}

/-- The row of the server for an answered inference of the edge. -/
theorem carries_infer_recording (hnx : HashesRequests nx) {sequence : Nat} {sent_at : Int}
    {observation : Dict} (hsent : 0 ≤ sent_at)
    (hsend : sendable (grantedPayload grant sequence sent_at observation) = true) {v : Value}
    {b : Bool} {r : Except Exn Result}
    (h : Rolling cfg lossy o.plan index grant sequence v b w)
    (hcarried : CarriesOut cfg nx (.infer (grantedPayload grant sequence sent_at observation)) w r
      w') (hrec : TrialRecording nx begun infs w.server.rt.audit) :
    ∃ inf, inf.request = grantedRequest grant sequence sent_at observation ∧
      r = .ok (.response inf.response) ∧
      TrialRecording nx begun (infs ++ [inf]) w'.server.rt.audit := by
  obtain ⟨lease, hstored, hid, htoken, hsequence, hopened⟩ := h.leasing.lease
  have hwf := h.leasing.running.wf
  have hleased := hwf.lease lease hstored
  have hadmitted : Admitted w.server.rt (grantedRequest grant sequence sent_at observation) lease :=
    admitted_of_names hwf hstored hid.symm htoken.symm
      (Option.some.inj (h.leasing.running.trial_id.symm.trans hleased.trial_id))
      (Option.some.inj (h.leasing.running.skill.symm.trans hleased.skill))
      (show (grant.generation : Int) = lease.generation by
        rw [hleased.generation, h.leasing.generation]) hsequence.symm
  have hascii : lease.token.isAscii = true := by
    rw [htoken]
    exact h.leasing.proper.session_token.1
  obtain ⟨id, halone⟩ := hcarried.1
  exact halone.infer_recording (parse_grantedPayload h.leasing.proper sequence hsent observation) rfl
    h.leasing.running.toIdle hadmitted hascii hopened
    (hnx grant h.leasing.proper sequence sent_at observation · hsend) hrec

/-- The row of the edge and the row of the server, for one inference. -/
theorem sameInference_rolloutRow {row : Dict} {sequence : Nat} {sent_at : Int} {observation : Dict}
    {inf : Inference} {published_rows published_steps : Int} (hskill : grant.skill = stage.skill)
    (hrequest : inf.request = grantedRequest grant sequence sent_at observation)
    (hrow : rolloutRow stage.skill grant.to_dict inf.response.to_dict sequence published_rows
      published_steps = .ok row) : SameInference row inf.row := by
  cases hrow
  have hsession : inf.row.session_id = grant.session_id := congrArg (·.session_id) hrequest
  have hskill' : inf.row.skill = stage.skill :=
    (congrArg (·.expected_skill) hrequest).trans hskill
  have hgeneration : inf.row.generation = grant.generation :=
    congrArg (·.expected_generation) hrequest
  have hsequence : inf.row.sequence = sequence := congrArg (·.sequence) hrequest
  refine ⟨?_, ?_, ?_, ?_, rfl, rfl⟩
  · rw [hsession]
    rfl
  · rw [hskill']
    rfl
  · rw [hgeneration]
    rfl
  · rw [hsequence]
    rfl

theorem _request_mute {sequence : Nat} :
    Emits (pipeline cfg nx d lossy) Mute (o._request grant.to_dict (py "infer") sequence) :=
  _request_part (Emits.compositional _ Mute) (fun _ => Emits.ask fun _ => ⟨trivial, rfl⟩)
    (Emits.ask fun _ => ⟨trivial, rfl⟩) _ _ _ _

/-- **One round** adds a row to each audit, about the same inference. -/
theorem rolloutRound_agrees (hnx : HashesRequests nx) {sequence : Nat} {published_steps : Int}
    {result : PublishResult} (hskill : grant.skill = stage.skill)
    (h : Stands state (Rolling cfg lossy o.plan index grant sequence) past s w)
    (hrec : TrialRecording nx begun infs w.server.rt.audit)
    (hrun : Runs (pipeline cfg nx d lossy)
      (o.rolloutRound stage grant.to_dict sequence published_steps) s w t (.ok result) s' w') :
    ∃ row inf, recordedRows t = [row] ∧ SameInference row inf.row ∧
      inf.request.sequence = (sequence : Int) ∧
      TrialRecording nx begun (infs ++ [inf]) w'.server.rt.audit := by
  obtain ⟨payload, s₁, w₁, t₁, _, rfl, hrequest, h₁⟩ := runs_bind_ok hrun
  obtain ⟨⟨sent_at, observation, hsent, rfl⟩, hstands⟩ :=
    (_request_stands fun _ _ _ h => h.recoverable).returns past s w t₁ payload s₁ w₁ h hrequest
  obtain ⟨rfl, hnone⟩ := runs_mute _request_mute hrequest
  obtain ⟨response, _, w₂, _, _, rfl, hinfer, h₂⟩ := runs_bind_ok h₁
  obtain ⟨rfl, -, henv⟩ := ask_ok hinfer
  rcases henv with ⟨hsend, r, hcarried, hout⟩ | ⟨-, -, x, hx⟩
  · rcases hout with ⟨x, hx⟩ | ⟨answered, rfl, hout⟩
    · cases hx
    cases hout
    obtain ⟨inf, hinf, hanswered, hrec'⟩ :=
      carries_infer_recording hnx hsent hsend hstands.2.2 hcarried hrec
    cases hanswered
    -- what follows concerns the robot, and the row of the edge
    obtain ⟨_, _, _, _, _, rfl, hpublishable, h₃⟩ := runs_bind_ok h₂
    obtain ⟨-, rfl, -, rfl⟩ := check_ok hpublishable
    obtain ⟨actions, _, _, _, _, rfl, hactions, h₄⟩ := runs_bind_ok h₃
    obtain ⟨-, rfl, -, rfl⟩ := raising_ok hactions
    obtain ⟨rows, _, _, _, _, rfl, hrows, h₅⟩ := runs_bind_ok h₄
    obtain ⟨-, rfl, -, rfl⟩ := raising_ok hrows
    obtain ⟨_, _, _, _, _, rfl, hbudget, h₆⟩ := runs_bind_ok h₅
    obtain ⟨-, rfl, -, rfl⟩ := check_ok hbudget
    obtain ⟨published, _, _, _, _, rfl, hpublish, h₇⟩ := runs_bind_ok h₆
    obtain ⟨rfl, -, hstill⟩ := ask_ok hpublish
    obtain ⟨_, _, _, _, _, rfl, hcount, h₈⟩ := runs_bind_ok h₇
    obtain ⟨-, rfl, -, rfl⟩ := check_ok hcount
    obtain ⟨row, _, _, _, _, rfl, hbuilt, h₉⟩ := runs_bind_ok h₈
    obtain ⟨hrow, rfl, -, rfl⟩ := raising_ok hbuilt
    obtain ⟨_, _, _, _, _, rfl, hrecord, hend⟩ := runs_bind_ok h₉
    obtain ⟨rfl, -, hstill'⟩ := ask_ok hrecord
    obtain ⟨rfl, -, -, rfl⟩ := runs_pure.mp hend
    cases (show _ = _ from hstill)
    cases (show _ = _ from hstill')
    refine ⟨row, inf, ?_, sameInference_rolloutRow hskill hinf hrow,
      congrArg (·.sequence) hinf, hrec'⟩
    rw [recordedRows_append, hnone]
    rfl
  · cases hx

/-- The rows of the edge for these inferences. -/
def RowsFor (rows : List Dict) (infs : List Inference) : Prop :=
  List.Forall₂ (fun row inf => SameInference row inf.row) rows infs

/-- **The rollout**, by induction on the chunks left: what it records are the
inferences from this sequence number on. -/
theorem rolloutFrom_agrees (hnx : HashesRequests nx) (hskill : grant.skill = stage.skill)
    {result : PublishResult} :
    ∀ (remaining sequence : Nat) (published_steps : Int) (infs : List Inference)
      (past t : List OrchEvent) (s s' : OrchestratorState) (w w' : World),
      Stands state (Rolling cfg lossy o.plan index grant sequence) past s w →
      TrialRecording nx begun infs w.server.rt.audit →
      Runs (pipeline cfg nx d lossy)
        (o.rolloutFrom stage grant.to_dict remaining sequence published_steps) s w t (.ok result)
        s' w' →
      ∃ new, new ≠ [] ∧ new.length ≤ remaining ∧ RowsFor (recordedRows t) new ∧
        new.map (·.request.sequence) = (List.range' sequence new.length).map Int.ofNat ∧
        TrialRecording nx begun (infs ++ new) w'.server.rt.audit := by
  intro remaining
  induction remaining with
  | zero =>
      intro sequence published_steps infs past t s s' w w' _ _ hrun
      cases (runs_raise.mp hrun).2.1
  | succ remaining ih =>
      intro sequence published_steps infs past t s s' w w' h hrec hrun
      obtain ⟨published, s₁, w₁, t₁, t₂, rfl, hround, hrest⟩ := runs_bind_ok hrun
      obtain ⟨row, inf, hrow, hsame, hsequence, hrec₁⟩ :=
        rolloutRound_agrees hnx hskill h hrec hround
      have hstands := (rolloutRound_stands hnx published_steps).returns
        past s w t₁ published s₁ w₁ h hround
      by_cases hstop : published.stop_requested = true
      · rw [if_pos hstop] at hrest
        obtain ⟨_, _, _, _, _, rfl, hgate, hend⟩ := runs_bind_ok hrest
        obtain ⟨-, rfl, -, rfl⟩ := check_ok hgate
        obtain ⟨rfl, -, -, rfl⟩ := runs_pure.mp hend
        refine ⟨[inf], by simp, by simp, ?_, ?_, hrec₁⟩
        · rw [List.append_nil, List.append_nil, hrow]
          exact .cons hsame .nil
        · rw [List.map_singleton, hsequence]
          rfl
      · rw [if_neg hstop] at hrest
        obtain ⟨new, -, hlength, hrows, hsequences, hrec₂⟩ :=
          ih (sequence + 1) _ (infs ++ [inf]) (past ++ t₁) t₂ s₁ s' w₁ w' hstands hrec₁ hrest
        refine ⟨inf :: new, by simp, by simpa using hlength, ?_, ?_, ?_⟩
        · rw [recordedRows_append, hrow]
          exact .cons hsame hrows
        · rw [List.map_cons, hsequence, hsequences]
          rfl
        · rw [List.append_assoc] at hrec₂
          exact hrec₂

theorem transition_mute (target : PipelineState) :
    Emits (pipeline cfg nx d lossy) Mute (_transition target) :=
  Emits.transition fun _ => ⟨trivial, rfl⟩

/-- The rollout of a stage. -/
theorem rolloutPhase_agrees (hnx : HashesRequests nx) (hskill : grant.skill = stage.skill)
    {result : PublishResult}
    (h : Stands .PREPARING_POLICY (Rolling cfg lossy o.plan index grant 0) past s w)
    (hrec : TrialRecording nx begun [] w.server.rt.audit)
    (hrun : Runs (pipeline cfg nx d lossy) (o.rolloutPhase stage grant.to_dict) s w t (.ok result)
      s' w') :
    ∃ infs, infs ≠ [] ∧ infs.length ≤ stage.max_chunks.toNat ∧ RowsFor (recordedRows t) infs ∧
      infs.map (·.request.sequence) = (List.range infs.length).map Int.ofNat ∧
      TrialRecording nx begun infs w'.server.rt.audit := by
  have hR : ∀ v b w, Rolling cfg lossy o.plan index grant 0 v b w → Recoverable lossy v b w :=
    fun _ _ _ h => h.recoverable
  obtain ⟨_, s₁, w₁, t₁, _, rfl, hready, h₁⟩ := runs_bind_ok hrun
  have hstands₁ := (transition_stands hR
    (show PipelineState.READY_TO_ROLLOUT ∈ PIPELINE_TRANSITIONS .PREPARING_POLICY by decide)).returns
      past s w t₁ _ s₁ w₁ h hready
  obtain ⟨rfl, hnone₁⟩ := runs_mute (transition_mute _) hready
  obtain ⟨_, s₂, w₂, t₂, _, rfl, hbegin, h₂⟩ := runs_bind_ok h₁
  have hstands₂ := (ask_steady (c := .begin_stage stage.skill) hR trivial).returns
    _ s₁ w₁ t₂ _ s₂ w₂ hstands₁ hbegin
  obtain ⟨rfl, hnone₂⟩ := runs_mute
    (Emits.ask (c := .begin_stage stage.skill) fun _ => ⟨trivial, rfl⟩) hbegin
  obtain ⟨_, s₃, w₃, t₃, _, rfl, hrollout, h₃⟩ := runs_bind_ok h₂
  have hstands₃ := (transition_stands hR
    (show PipelineState.ROLLOUT ∈ PIPELINE_TRANSITIONS .READY_TO_ROLLOUT by decide)).returns
      _ s₂ w₂ t₃ _ s₃ w₃ hstands₂ hrollout
  obtain ⟨rfl, hnone₃⟩ := runs_mute (transition_mute _) hrollout
  obtain ⟨infs, hnonempty, hlength, hrows, hsequences, hrec'⟩ :=
    rolloutFrom_agrees hnx hskill _ 0 0 [] _ _ s₃ s' w₃ w' hstands₃ hrec h₃
  refine ⟨infs, hnonempty, hlength, ?_, ?_, hrec'⟩
  · rw [recordedRows_append, recordedRows_append, recordedRows_append, hnone₁, hnone₂, hnone₃]
    exact hrows
  · rw [hsequences, List.range_eq_range']

end Rollout

/-! ## §4. One stage. -/

section Stage

variable {cfg : RuntimeConfig} {nx : Numerics} {d : ControlDispatcher} {lossy : Bool}
  {o : PipelineOrchestrator} {index : Nat} {stage : StagePlan} {state : PipelineState}
  {past t : List OrchEvent} {s s' : OrchestratorState} {w w' : World} {grant : SessionGrant}
  {begun : Begun} {infs : List Inference}

/-- A control call that returns has been carried out. -/
theorem control_carried {command : ControlCommand} {arguments : List Value} {result : Dict}
    (h : Runs (pipeline cfg nx d lossy) (_control command arguments) s w t (.ok result) s' w') :
    s' = s ∧ recordedRows t = [] ∧ ∃ r, CarriesOut cfg nx (.control command arguments) w r w' ∧
      ∀ value, r = .ok value → result = value.to_dict := by
  obtain ⟨response, rfl, hresult, rfl, henv⟩ := _control_ok h
  rcases henv with ⟨r, hcarried, hout | ⟨-, x, hx⟩⟩ | ⟨-, -, -, x, hx⟩
  · refine ⟨rfl, rfl, r, hcarried, ?_⟩
    rintro value rfl
    cases hout
    rw [controlResult_reply] at hresult
    exact (Except.ok.inj hresult).symm
  · cases hx
  · cases hx

/-- The trial of the stage is being recorded once the session is open. -/
theorem preparePhase_recording (hstage : o.plan.stages[index]? = some stage)
    (hstate : PipelineState.PREPARING_POLICY ∈ PIPELINE_TRANSITIONS state) {session : Dict}
    (h : Stands state (Resting lossy o.plan index) past s w)
    (hrun : Runs (pipeline cfg nx d lossy) (o.preparePhase index stage) s w t (.ok session) s' w') :
    recordedRows t = [] ∧ ∃ generation, TrialRecording nx
      { trial_id := derivedTrialId o.plan.run_id index stage.skill, skill := some stage.skill,
        generation, root_seed := stage.root_seed } [] w'.server.rt.audit := by
  obtain ⟨-, hskill, hpattern⟩ := stage_of_accepted o.accepted hstage
  obtain ⟨_, s₁, w₁, t₁, _, rfl, henter, h₁⟩ := runs_bind_ok hrun
  obtain ⟨-, -, hresting⟩ := (transition_stands
    (fun _ _ _ h => h.recoverable) hstate).returns past s w t₁ _ s₁ w₁ h henter
  obtain ⟨rfl, hnone₁⟩ := runs_mute (transition_mute _) henter
  -- the skill
  obtain ⟨_, s₂, w₂, t₂, _, rfl, hprepare, h₂⟩ := runs_bind_ok h₁
  obtain ⟨rfl, hnone₂, r₂, hcarried₂, -⟩ := control_carried hprepare
  obtain ⟨_, -, hreadied⟩ :=
    carries_prepare (FIXED_SKILL_ORDER_nonempty _ hskill) hresting hcarried₂
  -- the trial
  obtain ⟨_, s₃, w₃, t₃, _, rfl, hbegin, h₃⟩ := runs_bind_ok h₂
  obtain ⟨_, _, _, _, _, rfl, hupdate, hcontrol⟩ := runs_bind_ok hbegin
  obtain ⟨rfl, -, rfl, rfl⟩ := runs_update.mp hupdate
  obtain ⟨rfl, hnone₃, r₃, hcarried₃, -⟩ := control_carried hcontrol
  obtain ⟨_, -, htrying⟩ := carries_begin hstage rfl hreadied hcarried₃
  obtain ⟨id₃, halone₃⟩ := hcarried₃.1
  have hrec := halone₃.begin_recording hpattern
    (PyStr.encodable_of_isAscii (FIXED_SKILL_ORDER_isAscii _ hskill).1) hreadied.prepared
    (hreadied.unused index stage (Nat.le_refl _) hstage)
  -- the session
  obtain ⟨_, s₄, w₄, t₄, _, rfl, hopen, h₄⟩ := runs_bind_ok h₃
  obtain ⟨rfl, hnone₄, r₄, hcarried₄, -⟩ := control_carried hopen
  obtain ⟨id₄, halone₄⟩ := hcarried₄.1
  obtain ⟨_, _, _, -, -, -, hx⟩ := halone₄.open_session htrying.running htrying.closed
  obtain ⟨_, _, _, _, _, rfl, hitem, h₅⟩ := runs_bind_ok h₄
  obtain ⟨-, rfl, -, rfl⟩ := raising_ok hitem
  obtain ⟨_, _, _, _, _, rfl, hnote, hend⟩ := runs_bind_ok h₅
  obtain ⟨rfl, -, -, rfl⟩ := runs_update.mp hnote
  obtain ⟨rfl, -, -, rfl⟩ := runs_pure.mp hend
  rw [hx]
  refine ⟨?_, _, hrec⟩
  simp only [recordedRows_append, hnone₁, hnone₂, hnone₃, hnone₄]
  rfl

/-- The trial of the stage is committed once the stage is closed. -/
theorem closePhase_recording {n : Nat} {summary : Dict}
    (h : Rolling cfg lossy o.plan index grant n s._active_session_id s._trial_started w)
    (hrec : TrialRecording nx begun infs w.server.rt.audit)
    (hrun : Runs (pipeline cfg nx d lossy) closePhase s w t (.ok summary) s' w') :
    recordedRows t = [] ∧ ∃ record dir, summary = record.to_dict ∧
      w'.server.rt.audit.dirs begun.trial_id = some dir ∧ CommittedDir begun infs record dir := by
  obtain ⟨_, s₁, w₁, t₁, _, rfl, hstop, h₁⟩ := runs_bind_ok hrun
  obtain ⟨rfl, rfl, henv⟩ := ask_ok hstop
  have hsame : w₁ = w := pipeline_steady (c := .stop (py "rollout_complete"))
    (show (py "safe_stop:").isPrefixOf (py "rollout_complete") = false by decide) henv
  subst hsame
  obtain ⟨_, s₂, w₂, t₂, _, rfl, hclose, h₂⟩ := runs_bind_ok h₁
  obtain ⟨self, _, _, _, _, rfl, hread, h₃⟩ := runs_bind_ok hclose
  obtain ⟨rfl, hself, rfl, rfl⟩ := runs_read.mp hread
  cases hself
  obtain ⟨_, s₃, w₃, t₃, _, rfl, hcontrol, h₄⟩ := runs_bind_ok h₃
  rw [h.session] at hcontrol
  obtain ⟨rfl, hnone₃, r₃, hcarried₃, -⟩ := control_carried hcontrol
  obtain ⟨_, -, htrying⟩ := carries_close h hcarried₃
  obtain ⟨id₃, halone₃⟩ := hcarried₃.1
  have hrec₃ : TrialRecording nx begun infs w₃.server.rt.audit := by
    rcases halone₃.close_session h.leasing.running.toIdle with ⟨-, -, hx⟩ | ⟨-, hx⟩
    · rw [hx]
      exact hrec
    · rw [hx]
      exact hrec
  obtain ⟨rfl, -, -, rfl⟩ := runs_update.mp h₄
  obtain ⟨_, _, w₄, t₄, _, rfl, hend, h₅⟩ := runs_bind_ok h₂
  obtain ⟨-, hnone₄, r₄, hcarried₄, hsummary⟩ := control_carried hend
  obtain ⟨id₄, halone₄⟩ := hcarried₄.1
  obtain ⟨record, dir, rfl, hdir, hcommitted⟩ :=
    halone₄.end_recording htrying.running htrying.closed hrec₃
  obtain ⟨_, _, _, _, _, rfl, hcheck, h₆⟩ := runs_bind_ok h₅
  obtain ⟨-, rfl, -, rfl⟩ := check_ok hcheck
  obtain ⟨_, _, _, _, _, rfl, hnote, hret⟩ := runs_bind_ok h₆
  obtain ⟨rfl, -, -, rfl⟩ := runs_update.mp hnote
  obtain ⟨rfl, hret, -, rfl⟩ := runs_pure.mp hret
  cases hret
  refine ⟨?_, record, dir, hsummary _ rfl, hdir, hcommitted⟩
  simp only [recordedRows_append, hnone₃, hnone₄]
  rfl

/-- A stage that is completed is completed with this summary. -/
def CompletesWith (summary : Dict) (ev : OrchEvent) : Prop :=
  match ev.call with
  | .complete_stage _ _ _ server_summary => server_summary = summary
  | _ => True

/-- The gates ask the server nothing. -/
theorem gatePhase_mute {result : PublishResult} {summary : Dict} :
    Emits (pipeline cfg nx d lossy) (fun ev => Mute ev ∧ CompletesWith summary ev)
      (gatePhase stage result summary) := by
  have hQ := Emits.compositional (pipeline cfg nx d lossy) fun ev =>
    Mute ev ∧ CompletesWith summary ev
  refine hQ.bind (Emits.transition fun _ => ⟨⟨trivial, rfl⟩, trivial⟩) fun _ => ?_
  cases result.gate_result with
  | none => exact hQ.raise _
  | some gate =>
      refine hQ.bind (hQ.require _ _) fun _ => ?_
      refine hQ.bind (Emits.transition fun _ => ⟨⟨trivial, rfl⟩, trivial⟩) fun _ => ?_
      refine hQ.bind ?_ fun checked => ?_
      · unfold checkPhase
        by_cases hreq : stage.checker_required = true
        · rw [if_pos hreq]
          refine hQ.bind (Emits.ask fun _ => ⟨⟨trivial, rfl⟩, trivial⟩) fun _ => ?_
          exact hQ.bind (hQ.require _ _) fun _ => hQ.pure _
        · rw [if_neg hreq]
          exact hQ.pure _
      · exact hQ.bind (Emits.ask fun _ => ⟨⟨trivial, rfl⟩, rfl⟩) fun _ =>
          Emits.transition fun _ => ⟨⟨trivial, rfl⟩, trivial⟩

/-- The edge completes the stage with the summary it has got. -/
theorem gatePhase_completes {result : PublishResult} {summary : Dict} {u : Unit}
    (hrun : Runs (pipeline cfg nx d lossy) (gatePhase stage result summary) s w t (.ok u) s' w') :
    w' = w ∧ recordedRows t = [] ∧
      ∃ evidence gate checker, ⟨.complete_stage evidence gate checker summary, .ok ()⟩ ∈ t := by
  have hemits := gatePhase_mute.trace hrun
  obtain ⟨hw, hnone⟩ := exec_mute hrun fun ev hev => (hemits ev hev).1
  obtain ⟨before, done, after, ht, -, ⟨evidence, gate, checker, summary', rfl⟩, -⟩ := gatePhase_ok hrun
  have hmem : (⟨.complete_stage evidence gate checker summary', .ok ()⟩ : OrchEvent) ∈ t := by
    rw [ht]
    simp
  have hsummary : summary' = summary := (hemits _ hmem).2
  rw [hsummary] at hmem
  exact ⟨hw, hnone, evidence, gate, checker, hmem⟩

theorem resetPhase_mute :
    Emits (pipeline cfg nx d lossy) Mute (o.resetPhase index stage) := by
  have hQ := Emits.compositional (pipeline cfg nx d lossy) Mute
  refine hQ.bind (Emits.ask fun _ => ⟨trivial, rfl⟩) fun _ => ?_
  refine hQ.bind (transition_mute _) fun _ => ?_
  by_cases hreset : stage.reset_before = true
  · rw [if_pos hreset]
    exact hQ.bind (Emits.ask fun _ => ⟨trivial, rfl⟩) fun _ => Emits.ask fun _ => ⟨trivial, rfl⟩
  · rw [if_neg hreset]
    exact hQ.pure ()

/-- What the rows of the edge say about the inferences, they say about the rows
of the server. -/
theorem RowsFor.agree {rows : List Dict} {requests : List RequestRow} (h : RowsFor rows infs)
    (hrequests : List.Forall₂ RowOf requests infs) : List.Forall₂ SameInference rows requests := by
  induction h generalizing requests with
  | nil =>
      cases hrequests
      exact .nil
  | @cons row inf rows infs hrow _ ih =>
      cases hrequests with
      | @cons server _ requests _ hserver hrest =>
          obtain ⟨diagnostics, rfl⟩ := hserver
          exact .cons ⟨hrow.session_id, hrow.skill, hrow.generation, hrow.sequence,
            hrow.request_hash, hrow.action_hash⟩ (ih hrest)

theorem rows_sequences {requests : List RequestRow} (h : List.Forall₂ RowOf requests infs) :
    requests.map (·.sequence) = infs.map (·.request.sequence) := by
  induction h with
  | nil => rfl
  | cons hrow _ ih =>
      obtain ⟨diagnostics, rfl⟩ := hrow
      exact congrArg (_ :: ·) ih

/-- **The audits of a stage that returns agree.** -/
theorem _run_stage_agrees (hnx : HashesRequests nx) (hstage : o.plan.stages[index]? = some stage)
    (hstate : PipelineState.RESETTING ∈ PIPELINE_TRANSITIONS state) {u : Unit}
    (h : Stands state (Resting lossy o.plan index) past s w)
    (hrun : Runs (pipeline cfg nx d lossy) (o._run_stage index stage) s w t (.ok u) s' w') :
    StageAudited o.plan.run_id w'.server.rt.audit (stage, index) t := by
  obtain ⟨_, s₁, w₁, t₁, _, rfl, hreset, h₁⟩ := runs_bind_ok hrun
  obtain ⟨session, s₂, w₂, t₂, _, rfl, hprepare, h₂⟩ := runs_bind_ok h₁
  obtain ⟨result, s₃, w₃, t₃, _, rfl, hrollout, h₃⟩ := runs_bind_ok h₂
  obtain ⟨summary, s₄, w₄, t₄, t₅, rfl, hclose, hgate⟩ := runs_bind_ok h₃
  have hstands₁ := (resetPhase_stands hstate).returns past s w t₁ _ s₁ w₁ h hreset
  obtain ⟨-, hnone₁⟩ := runs_mute resetPhase_mute hreset
  have hstands₂ := (preparePhase_stands hstage (by decide)).returns _ s₁ w₁ t₂ session s₂ w₂
    hstands₁ hprepare
  obtain ⟨hnone₂, generation, hrec₂⟩ :=
    preparePhase_recording hstage (by decide) hstands₁ hprepare
  obtain ⟨hstate₂, hlegal₂, grant, rfl, hskill, hrolling⟩ := hstands₂
  have hstands₂ : Stands .PREPARING_POLICY (Rolling cfg lossy o.plan index grant 0)
      (past ++ t₁ ++ t₂) s₂ w₂ := ⟨hstate₂, hlegal₂, hrolling⟩
  obtain ⟨infs, hnonempty, hlength, hrows, hsequences, hrec₃⟩ :=
    rolloutPhase_agrees hnx hskill hstands₂ hrec₂ hrollout
  obtain ⟨-, -, n, hrolling₃⟩ :=
    (rolloutPhase_stands hnx).returns _ s₂ w₂ t₃ result s₃ w₃ hstands₂ hrollout
  obtain ⟨hnone₄, record, dir, rfl, hdir, hcommitted⟩ :=
    closePhase_recording hrolling₃ hrec₃ hclose
  obtain ⟨rfl, hnone₅, hcompleted⟩ := gatePhase_completes hgate
  -- only the rollout has recorded rows
  have hall : recordedRows (t₁ ++ (t₂ ++ (t₃ ++ (t₄ ++ t₅)))) = recordedRows t₃ := by
    simp only [recordedRows_append, hnone₁, hnone₂, hnone₄, hnone₅, List.nil_append,
      List.append_nil]
  have hcount : dir.requests.length = infs.length := hcommitted.rows.length_eq
  obtain ⟨htrial, hskill', -, hseed⟩ := Begun.mk.inj hcommitted.begun
  have hmax := (StagePlan.bounds_of_accepted o.accepted hstage).1
  refine ⟨record, dir, hdir, ?_⟩
  exact
    { manifest := hcommitted.manifest
      summary := hcommitted.summary
      status := hcommitted.status
      trial_id := htrial.symm
      skill := (Option.some.inj hskill').symm
      root_seed := hseed.symm
      request_count := by rw [hcommitted.request_count, hcount]
      rows := by
        rw [hall]
        exact hrows.agree hcommitted.rows
      sequences := by rw [rows_sequences hcommitted.rows, hsequences, hcount]
      nonempty := by
        intro hnil
        rw [hnil] at hcount
        exact hnonempty (List.length_eq_zero_iff.mp hcount.symm)
      chunks := by
        show (dir.requests.length : Int) ≤ stage.max_chunks
        omega
      completed := by
        obtain ⟨evidence, gate, checker, hmem⟩ := hcompleted
        refine ⟨evidence, gate, checker, ?_⟩
        simp only [List.mem_append]
        exact .inr (.inr (.inr (.inr hmem))) }

end Stage

/-! ## §5. Runs. -/

section Run

variable {cfg : RuntimeConfig} {nx : Numerics} {d : ControlDispatcher} {lossy : Bool}
  {o : PipelineOrchestrator} {past t : List OrchEvent} {s s' : OrchestratorState} {w w' : World}

/-- The audits of a stage agree for good once its trial directory is sealed. -/
theorem StageAudited.mono {run_id : PyStr} {audit audit' : TrialAuditStore}
    {staged : StagePlan × Nat} {segment : List OrchEvent}
    (h : StageAudited run_id audit staged segment)
    (hsealed : ∀ name dir, audit.dirs name = some dir → audit'.dirs name = some dir) :
    StageAudited run_id audit' staged segment := by
  obtain ⟨record, dir, hdir, haudited⟩ := h
  exact ⟨record, dir, hsealed _ dir hdir, haudited⟩

/-- What is there when the runtime rests stays there. -/
theorem exec_keeps_dirs {α : Type} {p : Prog Component Component.Answer Raised α} {a : α}
    (h : Exec (pipeline cfg nx d lossy) p w t a w') (hrest : AtRest w.server.rt) {name : PyStr}
    {dir : TrialDir} (hdir : w.server.rt.audit.dirs name = some dir) :
    w'.server.rt.audit.dirs name = some dir := by
  have hidle := hrest.wf.trial_id_none_iff.mp hrest.trial_id
  refine (exec_sealed h ⟨hdir, ?_⟩).stored
  intro a ha
  rw [hidle] at ha
  cases ha

/-- **The audits of the stages agree**, by induction on the stages left. -/
theorem runStages_agrees (hnx : HashesRequests nx) :
    ∀ (stages : List StagePlan) (index : Nat) (state : PipelineState) (past t : List OrchEvent)
      (s s' : OrchestratorState) (w w' : World) (u : Unit),
      (∀ i stage, stages[i]? = some stage → o.plan.stages[index + i]? = some stage) →
      PipelineState.RESETTING ∈ PIPELINE_TRANSITIONS state →
      Stands state (Resting lossy o.plan index) past s w →
      Runs (pipeline cfg nx d lossy) (o.runStages index stages) s w t (.ok u) s' w' →
      ∃ segments : List (List OrchEvent), t = segments.flatten ∧
        List.Forall₂ (StageAudited o.plan.run_id w'.server.rt.audit) (stages.zipIdx index)
          segments := by
  intro stages
  induction stages with
  | nil =>
      intro index state past t s s' w w' u _ _ _ hrun
      obtain ⟨rfl, -⟩ := runs_pure.mp hrun
      exact ⟨[], rfl, .nil⟩
  | cons stage rest ih =>
      intro index state past t s s' w w' u hstages hstate h hrun
      obtain ⟨_, s₁, w₁, t₁, t₂, rfl, hfirst, hrest⟩ := runs_bind_ok hrun
      have hagrees := _run_stage_agrees hnx (hstages 0 stage rfl) hstate h hfirst
      have hstands := (_run_stage_stands hnx (hstages 0 stage rfl) hstate).returns past s w t₁ _
        s₁ w₁ h hfirst
      obtain ⟨segments, rfl, hall⟩ := ih (index + 1) .HANDOFF (past ++ t₁) t₂ s₁ s' w₁ w' u
        (fun i stage' hi => by
          rw [show index + 1 + i = index + (i + 1) by omega]
          exact hstages (i + 1) stage' hi) (by decide) hstands hrest
      refine ⟨t₁ :: segments, rfl, .cons (hagrees.mono fun name dir hdir => ?_) hall⟩
      exact exec_keeps_dirs hrest hstands.2.2.rest hdir

/-- The two audits of a whole run: stage by stage, in plan order, and no row
outside of the stages. -/
def AuditsAgree (plan : PipelinePlan) (audit : TrialAuditStore) (t : List OrchEvent) : Prop :=
  ∃ prologue segments epilogue, t = prologue ++ segments.flatten ++ epilogue ∧
    List.Forall₂ (StageAudited plan.run_id audit) plan.stages.zipIdx segments ∧
    recordedRows (prologue ++ epilogue) = []

/-- A call before the stages. -/
theorem prologue_ask {c : Component} {a : c.Answer} {state : PipelineState} (hc : c.steady)
    (hrow : ∀ out, recordedRow ⟨c, out⟩ = none)
    (h : Stands state (Resting lossy o.plan 0) past s w)
    (hrun : Runs (pipeline cfg nx d lossy) (ask c) s w t (.ok a) s' w') :
    Stands state (Resting lossy o.plan 0) (past ++ t) s' w' ∧ recordedRows t = [] :=
  ⟨(ask_steady (fun _ _ _ h => h.recoverable) hc).returns past s w t a s' w' h hrun,
    (runs_mute (Emits.ask fun out => ⟨hc, hrow out⟩) hrun).2⟩

theorem mainPath_agrees (hnx : HashesRequests nx) {r : Dict}
    (h : Stands .CREATED (Resting lossy o.plan 0) past s w)
    (hrun : Runs (pipeline cfg nx d lossy) o.mainPath s w t (.ok r) s' w') :
    AuditsAgree o.plan w'.server.rt.audit t := by
  obtain ⟨_, s₁, w₁, t₁, _, rfl, hpreflight, h₁⟩ := runs_bind_ok hrun
  have hstands₁ := (transition_stands (fun _ _ _ h => h.recoverable)
    (show PipelineState.PREFLIGHT ∈ PIPELINE_TRANSITIONS .CREATED by decide)).returns
      past s w t₁ _ s₁ w₁ h hpreflight
  obtain ⟨-, hnone₁⟩ := runs_mute (transition_mute _) hpreflight
  obtain ⟨_, s₂, w₂, t₂, _, rfl, hsource, h₂⟩ := runs_bind_ok h₁
  obtain ⟨hstands₂, hnone₂⟩ := prologue_ask (c := .observation_preflight) trivial (fun _ => rfl)
    hstands₁ hsource
  obtain ⟨_, s₃, w₃, t₃, _, rfl, hreset, h₃⟩ := runs_bind_ok h₂
  obtain ⟨hstands₃, hnone₃⟩ := prologue_ask (c := .reset_preflight) trivial (fun _ => rfl)
    hstands₂ hreset
  obtain ⟨_, s₄, w₄, t₄, _, rfl, hexecutor, h₄⟩ := runs_bind_ok h₃
  obtain ⟨hstands₄, hnone₄⟩ := prologue_ask (c := .executor_preflight) trivial (fun _ => rfl)
    hstands₃ hexecutor
  obtain ⟨_, s₅, w₅, t₅, t₆, rfl, hstages, hend⟩ := runs_bind_ok h₄
  obtain ⟨segments, rfl, hall⟩ := runStages_agrees hnx o.plan.stages 0 .PREFLIGHT _ t₅ s₄ s₅ w₄ w₅ _
    (fun i stage hi => by rw [Nat.zero_add]; exact hi) (by decide) hstands₄ hstages
  -- the last transition, and the end of the edge audit
  have hmute : Emits (pipeline cfg nx d lossy) Mute (do
      _transition .COMPLETED
      ask .audit_complete) :=
    (Emits.compositional _ Mute).bind (transition_mute _) fun _ => Emits.ask fun _ => ⟨trivial, rfl⟩
  obtain ⟨rfl, hnone₆⟩ := runs_mute hmute hend
  refine ⟨t₁ ++ t₂ ++ t₃ ++ t₄, segments, t₆, by simp, hall, ?_⟩
  simp only [recordedRows_append, hnone₁, hnone₂, hnone₃, hnone₄, hnone₆, List.append_nil]

/-- **The audits of a run that returns agree.** -/
theorem run_agrees (hnx : HashesRequests nx) {r : Dict}
    (h : Stands .CREATED (Resting lossy o.plan 0) past s w)
    (hrun : Runs (pipeline cfg nx d lossy) o.run s w t (.ok r) s' w') :
    AuditsAgree o.plan w'.server.rt.audit t := by
  obtain ⟨approved, s₁, w₁, t₁, _, rfl, happrove, h₁⟩ := runs_bind_ok hrun
  obtain ⟨hstands₁, hnone₁⟩ := prologue_ask (c := .approve_run o.plan.run_id o.plan.skills) trivial
    (fun _ => rfl) h happrove
  obtain ⟨_, _, _, _, _, rfl, hcheck, h₂⟩ := runs_bind_ok h₁
  obtain ⟨-, rfl, rfl, rfl⟩ := check_ok hcheck
  obtain ⟨_, s₂, w₂, t₂, _, rfl, hbegin, h₃⟩ := runs_bind_ok h₂
  obtain ⟨hstands₂, hnone₂⟩ := prologue_ask (c := .audit_begin o.plan.run_id o.plan.skills) trivial
    (fun _ => rfl) hstands₁ hbegin
  rcases runs_attempt.mp h₃ with ⟨b, hmain, hb⟩ | ⟨x, _, _, _, _, -, -, hfail⟩
  · obtain ⟨prologue, segments, epilogue, rfl, hall, hnone⟩ := mainPath_agrees hnx hstands₂ hmain
    refine ⟨t₁ ++ t₂ ++ prologue, segments, epilogue, by simp, hall, ?_⟩
    rw [recordedRows_append] at hnone
    simp only [recordedRows_append, hnone₁, hnone₂, List.nil_append, hnone]
  · exact (onFailure_raises hfail).elim

end Run

section Results

variable (cfg : RuntimeConfig) (lib : Library) (np : ArrayMath) (sha256 : List UInt8 → Digest)
  (limit : Nat) (repr_fits : Value → Bool) (d : ControlDispatcher) (lossy : Bool)
  (o : PipelineOrchestrator)

/-- **The edge audit and the server audit tell the same story.**  When a run
returns, whatever was lost on the way, the trial directory of each stage is
committed, with the summary the edge completed the stage with.  The rows in it
are numbered from zero, and row by row they are about the inferences of the
rows that the edge recorded in this stage. -/
theorem run_audits_agree (hsha : ∀ b, (sha256 b).length = 32) (hlimit : 2 ≤ limit)
    (rt : PolicyRuntime) (opened_at : ℚ)
    (h : Available cfg (serverNumerics lib np sha256 limit repr_fits) o.plan rt) (t : List OrchEvent)
    (r : Dict) (s' : OrchestratorState) (w' : World)
    (hrun : Runs (pipeline cfg (serverNumerics lib np sha256 limit repr_fits) d lossy) o.run {}
      (World.around rt opened_at) t (.ok r) s' w') :
    AuditsAgree o.plan w'.server.rt.audit t := by
  refine run_agrees ?_ (h.stands opened_at) hrun
  exact fun grant hgrant sequence sent_at observation digest hsend hd =>
    grantedRequest_hash hsha hlimit hgrant hsend hd

/-- A run of the whole plan, with two chunks in every stage: eight rows in each audit. -/
theorem run_audits_agree_whole : ∃ t r s' w',
    Runs (pipeline defaultConfig frameNumerics sampleControl false) wholeOrchestrator.run {}
      (World.around (PolicyRuntime.init fun _ => none) 0) t (.ok r) s' w' ∧
    (recordedRows t).length = 8 ∧ AuditsAgree wholeOrchestrator.plan w'.server.rt.audit t := by
  obtain ⟨t, r, s', w', hruns, hP⟩ := @Props.runs_of_rehearse alternateProps defaultConfig
    frameNumerics (World.around (PolicyRuntime.init fun _ => none) 0) sampleControl false
    (fun _ => none) wholeOrchestrator (fun t r _ _ => r.isOk && (recordedRows t).length == 8)
    (by decide +kernel)
  obtain ⟨hok, hlength⟩ := Bool.and_eq_true_iff.mp hP
  obtain ⟨summary, rfl⟩ := exists_of_isOk hok
  exact ⟨t, summary, s', w', hruns, beq_iff_eq.mp hlength,
    run_audits_agree defaultConfig tableLibrary sampleArrayMath sampleSha256 990 frameFits
      sampleControl false wholeOrchestrator sampleSha256_length (by decide) _ 0
      (sample_available _) t summary s' w' hruns⟩

end Results

end OvenRuntime
