/-
  OvenRuntime.Edge.Rollout
  ────────────────────────
  The accounts of a rollout.

  The orchestrator counts published steps, the executor counts published rows
  for the joint gate, and `rollout.jsonl` lists the rows of every chunk: three
  counters, advanced by different code.  They agree after every chunk
  (`rollout_accounting`).
-/
import OvenRuntime.Edge.ActionValidation
import OvenRuntime.Edge.MotionLimit
import OvenRuntime.Edge.Verdict
import OvenRuntime.Lib.Triple

namespace OvenRuntime

open EffectProgram PipelineOrchestrator EdgeAuditStore

/-! ## §1. What a chunk adds to the executor's count. -/

namespace RosActionExecutor

/-- The `publish_step`s at which the row loop asks the gate. -/
def rowSteps (config : RosBridgeConfig) (gate : GateAnswers) (skill : PyStr) :
    Nat → Joints → List Joints → List Nat
  | _, _, [] => []
  | published_rows, last, row :: rest =>
      if exceeds config last row then []
      else (published_rows + 1) ::
        match gate skill (published_rows + 1) with
        | some _ => []
        | none => rowSteps config gate skill (published_rows + 1) row rest

/-- The `publish_step`s at which a call that gets past its transition asks the
gate, in order. -/
def gateSteps (ex : RosActionExecutor) (call : PublishCall) : List Nat :=
  match ex._active_skill, call.rows with
  | some skill, first :: rest =>
      (ex._published_rows + 1) ::
        match call.gate skill (ex._published_rows + 1) with
        | some _ => []
        | none => rowSteps ex.config call.gate skill (ex._published_rows + 1) first rest
  | _, _ => []

theorem _publish_controlled_rows (ex : RosActionExecutor) (arm : PyStr) (p other_hold : Joints) :
    (ex._publish_controlled arm p other_hold).2._published_rows = ex._published_rows ∧
      (ex._publish_controlled arm p other_hold).2.config = ex.config := by
  unfold _publish_controlled
  split
  · exact ⟨rfl, rfl⟩
  split
  · exact ⟨rfl, rfl⟩
  · exact ⟨rfl, rfl⟩

/-- The transition is not counted. -/
theorem publishAll_rows (arm : PyStr) (other_hold : Joints) (positions : List Joints) :
    ∀ ex : RosActionExecutor,
      (ex.publishAll arm other_hold positions).2._published_rows = ex._published_rows ∧
        (ex.publishAll arm other_hold positions).2.config = ex.config := by
  induction positions with
  | nil => exact fun ex => ⟨rfl, rfl⟩
  | cons p positions ih =>
      intro ex
      obtain ⟨hrows, hconfig⟩ := ex._publish_controlled_rows arm p other_hold
      unfold publishAll
      split
      · rename_i hp
        rw [hp] at hrows hconfig
        exact ⟨hrows, hconfig⟩
      · rename_i hp
        rw [hp] at hrows hconfig
        exact ⟨(ih _).1.trans hrows, (ih _).2.trans hconfig⟩

/-- `begin_stage` resets the count. -/
theorem begin_stage_rows {ex ex' : RosActionExecutor} {skill : PyStr}
    {checks gate : Except Exn Unit} {arm_snapshot : ArmSnapshot}
    (h : ex.begin_stage skill checks gate arm_snapshot = (.ok (), ex')) :
    ex'._published_rows = 0 := by
  unfold begin_stage at h
  split at h
  · cases h
  split at h
  · cases h
  · cases h
  split at h
  · cases h
  · cases h
    rfl

/-- What a successful call reports is what it adds to the count, and the last
`publish_step` is the new count. -/
structure Counted (before after row_index : Nat) (steps : List Nat) (rows : Nat)
    (r : PublishResult) : Prop where
  reported : r.published_rows = ((row_index + (after - before) : Nat) : Int)
  grows : before ≤ after
  bound : after - before ≤ rows
  last : steps.getLast? = if after = before then none else some after

/-- **The row loop** counts the rows it publishes. -/
theorem publishRows_counted (skill arm : PyStr) (other_hold : Joints) (gate : GateAnswers)
    (rows : List Joints) : ∀ (ex ex' : RosActionExecutor) (row_index : Nat) (last : Joints)
    (r : PublishResult),
      ex.publishRows skill arm other_hold gate row_index last rows = (.ok r, ex') →
      Counted ex._published_rows ex'._published_rows row_index
        (rowSteps ex.config gate skill ex._published_rows last rows) rows.length r := by
  induction rows with
  | nil =>
      intro ex ex' row_index last r h
      cases h
      refine ⟨?_, Nat.le_refl _, ?_, ?_⟩
      · show (row_index : Int) = _
        omega
      · rw [Nat.sub_self]
        exact Nat.zero_le _
      · rw [if_pos rfl]
        rfl
  | cons row rest ih =>
      intro ex ex' row_index last r h
      unfold publishRows at h
      unfold rowSteps
      split at h
      · cases h
      · rename_i hwithin
        rw [if_neg hwithin]
        obtain ⟨hrows, hconfig⟩ := ex._publish_controlled_rows arm row other_hold
        split at h
        · cases h
        · rename_i ex₁ hp
          rw [hp] at hrows hconfig
          have hrows : ex₁._published_rows = ex._published_rows := hrows
          have hconfig : ex₁.config = ex.config := hconfig
          simp only [hrows] at h
          cases hgate : gate skill (ex._published_rows + 1) with
          | some gate_result =>
              rw [hgate] at h
              cases h
              refine ⟨?_, ?_, ?_, ?_⟩
              · show ((row_index + 1 : Nat) : Int) = _
                show _ = ((row_index + (ex._published_rows + 1 - ex._published_rows) : Nat) : Int)
                omega
              · show ex._published_rows ≤ ex._published_rows + 1
                omega
              · show ex._published_rows + 1 - ex._published_rows ≤ rest.length + 1
                omega
              · show _ = if ex._published_rows + 1 = ex._published_rows then _ else _
                rw [if_neg (by omega)]
                rfl
          | none =>
              rw [hgate] at h
              have hrest := ih _ _ _ _ _ h
              have hgrows : ex._published_rows + 1 ≤ ex'._published_rows := hrest.grows
              have hbound : ex'._published_rows - (ex._published_rows + 1) ≤ rest.length :=
                hrest.bound
              have hreported : r.published_rows = ((row_index + 1 +
                  (ex'._published_rows - (ex._published_rows + 1)) : Nat) : Int) := hrest.reported
              have hlast : (rowSteps ex₁.config gate skill (ex._published_rows + 1) row rest).getLast?
                  = if ex'._published_rows = ex._published_rows + 1 then none
                    else some ex'._published_rows := hrest.last
              rw [hconfig] at hlast
              refine ⟨?_, by omega, ?_, ?_⟩
              · rw [hreported]
                omega
              · rw [List.length_cons]
                omega
              · simp only
                rw [if_neg (by omega)]
                rw [List.getLast?_cons, hlast]
                split
                · rename_i heq
                  rw [heq]
                  rfl
                · rfl

/-- **A chunk** that is published adds the rows it reports to the count; the
gate was last asked at the new count. -/
theorem publish_counted {ex : RosActionExecutor} {call : PublishCall} {r : PublishResult}
    (h : ex.result call = .ok r) :
    0 < r.published_rows ∧ r.published_rows ≤ call.rows.length ∧
      ((ex.after call)._published_rows : Int) = ex._published_rows + r.published_rows ∧
      (ex.gateSteps call).getLast? = some (ex.after call)._published_rows := by
  unfold RosActionExecutor.result at h
  unfold RosActionExecutor.after
  generalize hq : ex.publish call.rows call.arm_snapshot call.gate = q at h ⊢
  obtain ⟨q, ex'⟩ := q
  have h : q = .ok r := h
  subst h
  unfold publish at hq
  unfold gateSteps
  split at hq
  · rename_i skill last _ hskill _
    rw [hskill]
    split at hq
    · cases hq
    split at hq
    · cases hq
    rename_i arm _ _ _ other_hold _
    split at hq
    · cases hq
    rename_i first rest hrows
    rw [hrows]
    obtain ⟨hkept, hconfig⟩ := publishAll_rows arm other_hold
      (transition ex.config.chunk_transition_steps.toNat last first) ex
    split at hq
    · cases hq
    rename_i ex₁ hall
    rw [hall] at hkept hconfig
    have hkept : ex₁._published_rows = ex._published_rows := hkept
    have hconfig : ex₁.config = ex.config := hconfig
    simp only [hkept] at hq
    show 0 < r.published_rows ∧ r.published_rows ≤ ((rest.length + 1 : Nat) : Int) ∧
      (ex'._published_rows : Int) = ex._published_rows + r.published_rows ∧ _
    cases hgate : call.gate skill (ex._published_rows + 1) with
    | some gate_result =>
        rw [hgate] at hq
        cases hq
        refine ⟨?_, ?_, ?_, ?_⟩
        · show (0 : Int) < ((1 : Nat) : Int)
          omega
        · show ((1 : Nat) : Int) ≤ _
          omega
        · show ((ex._published_rows + 1 : Nat) : Int) = ex._published_rows + ((1 : Nat) : Int)
          omega
        · simp only [hgate]
          rfl
    | none =>
        rw [hgate] at hq
        have hcounted := publishRows_counted _ _ _ _ _ _ _ _ _ _ hq
        have hgrows : ex._published_rows + 1 ≤ ex'._published_rows := hcounted.grows
        have hbound : ex'._published_rows - (ex._published_rows + 1) ≤ rest.length := hcounted.bound
        have hreported : r.published_rows
            = ((1 + (ex'._published_rows - (ex._published_rows + 1)) : Nat) : Int) :=
          hcounted.reported
        have hlast : (rowSteps ex₁.config call.gate skill (ex._published_rows + 1) first rest).getLast?
            = if ex'._published_rows = ex._published_rows + 1 then none
              else some ex'._published_rows := hcounted.last
        rw [hconfig] at hlast
        refine ⟨by omega, by omega, by omega, ?_⟩
        simp only [hgate]
        rw [List.getLast?_cons, hlast]
        split
        · rename_i heq
          rw [heq]
          rfl
        · rfl
  · cases hq

/-- A gate that answers alike at these steps makes no difference to the row
loop. -/
theorem publishRows_congr (skill arm : PyStr) (other_hold : Joints) (gate gate' : GateAnswers)
    (rows : List Joints) : ∀ (ex : RosActionExecutor) (row_index : Nat) (last : Joints),
      (∀ n ∈ rowSteps ex.config gate skill ex._published_rows last rows,
        gate' skill n = gate skill n) →
      ex.publishRows skill arm other_hold gate' row_index last rows =
        ex.publishRows skill arm other_hold gate row_index last rows := by
  induction rows with
  | nil => exact fun _ _ _ _ => rfl
  | cons row rest ih =>
      intro ex row_index last h
      unfold rowSteps at h
      unfold publishRows
      by_cases hexc : exceeds ex.config last row = true
      · rw [if_pos hexc, if_pos hexc]
      · rw [if_neg hexc] at h ⊢
        rw [if_neg hexc]
        obtain ⟨hrows, hconfig⟩ := ex._publish_controlled_rows arm row other_hold
        rcases hp : ex._publish_controlled arm row other_hold with ⟨e | u, ex₁⟩
        · rfl
        · rw [hp] at hrows hconfig
          have hrows : ex₁._published_rows = ex._published_rows := hrows
          have hconfig : ex₁.config = ex.config := hconfig
          have hfirst := h _ (List.mem_cons_self ..)
          simp only [hrows]
          rw [hfirst]
          cases hgate : gate skill (ex._published_rows + 1) with
          | some gate_result => rfl
          | none =>
              rw [hgate] at h
              refine ih _ _ _ ?_
              show ∀ n ∈ rowSteps ex₁.config gate skill (ex._published_rows + 1) row rest, _
              rw [hconfig]
              exact fun n hn => h n (List.mem_cons_of_mem _ hn)

/-- **A call asks the gate at `gateSteps` and nowhere else.** -/
theorem publish_congr {ex : RosActionExecutor} {call : PublishCall} {gate' : GateAnswers}
    (h : ∀ skill, ex._active_skill = some skill → ∀ n ∈ ex.gateSteps call,
      gate' skill n = call.gate skill n) :
    ex.publish call.rows call.arm_snapshot gate' =
      ex.publish call.rows call.arm_snapshot call.gate := by
  unfold publish
  split
  · rename_i skill last _ hskill _
    have h := h skill hskill
    unfold gateSteps at h
    rw [hskill] at h
    split
    · rfl
    split
    · rfl
    rename_i arm _ _ _ other_hold _
    split
    · rfl
    rename_i first rest hrows
    rw [hrows] at h
    obtain ⟨hkept, hconfig⟩ := publishAll_rows arm other_hold
      (transition ex.config.chunk_transition_steps.toNat last first) ex
    split
    · rfl
    rename_i ex₁ hall
    rw [hall] at hkept hconfig
    have hkept : ex₁._published_rows = ex._published_rows := hkept
    have hconfig : ex₁.config = ex.config := hconfig
    simp only [hkept]
    rw [h _ (List.mem_cons_self ..)]
    cases hgate : call.gate skill (ex._published_rows + 1) with
    | some gate_result => rfl
    | none =>
        simp only [hgate] at h
        refine publishRows_congr _ _ _ _ _ _ _ _ _ ?_
        show ∀ n ∈ rowSteps ex₁.config call.gate skill (ex._published_rows + 1) first rest, _
        rw [hconfig]
        exact fun n hn => h n (List.mem_cons_of_mem _ hn)
  · rfl

end RosActionExecutor

/-! ## §2. The rollout file. -/

namespace EdgeAuditStore

/-- The `rollout.jsonl` of the active stage holds these rows. -/
def RolloutFile (st : EdgeAuditStore) (rows : List Dict) : Prop :=
  ∃ a name dir d, st._active = some a ∧ a.active_stage_directory = some name ∧
    st.dirs a.run_id = some dir ∧ dir.stages name = some d ∧ d.rollout = rows

/-- A stage starts with an empty rollout. -/
theorem start_stage_rollout {st st' : EdgeAuditStore} {index : Int} {skill trial_id name : PyStr}
    {io : Io} (hdir : ∀ a, st._active = some a → (st.dirs a.run_id).isSome = true)
    (h : st.start_stage index skill trial_id io = (.ok name, st')) : RolloutFile st' [] := by
  unfold start_stage _require_active at h
  cases ha : st._active with
  | none =>
      rw [ha] at h
      cases h
  | some a =>
      rw [ha] at h
      simp only at h
      obtain ⟨dir, hdir⟩ := Option.isSome_iff_exists.mp (hdir a ha)
      iterate 3 (split at h; · cases h)
      split at h
      · cases h
      split at h
      · cases h
      have hmade := writes_writeIf hdir true (addStage (stageDirectory a.completed_stages skill))
      generalize hname : stageDirectory a.completed_stages skill = directory at h hmade
      generalize hst₁ : st.writeIf a.run_id true (addStage directory) = st₁ at h hmade
      unfold openStage at h
      simp only [hname] at h
      have hopened : ({ st₁ with
          _active := some { a with active_stage_directory := some directory } } :
            EdgeAuditStore).dirs a.run_id = some (addStage directory dir) := hmade.1
      obtain ⟨dir', hw, -, -, hstage⟩ := writes_updateStage hopened directory true
        fun d => { d with stage_evidence := some (.active a.completed_stages skill trial_id) }
      rcases hj : _atomic_json (io 1) (StageRecord.active a.completed_stages skill trial_id).encodable
        with ⟨raised, replaced⟩
      rw [hj] at h
      cases raised with
      | some e => cases h
      | none =>
          obtain ⟨-, -, rfl⟩ := _atomic_json_ok hj
          cases h
          exact ⟨_, _, dir', _, writeIf_active _ _ _ _, rfl, hw.1,
            hstage rfl _ (addStage_self _ dir), rfl⟩

/-- A change of the pipeline state leaves the rollout alone. -/
theorem RolloutFile.set_pipeline_state {st : EdgeAuditStore} {rows : List Dict}
    (h : RolloutFile st rows) (state : PyStr) (io : Io) :
    RolloutFile (st.set_pipeline_state state io).2 rows := by
  obtain ⟨a, name, dir, d, ha, hname, hdir, hstage, hrows⟩ := h
  obtain ⟨r, st', dir', hr, hw, hact, ht, -, -⟩ :=
    _write_manifest_spec ha hdir .ACTIVE state none none (io 0)
  have hst' : (st.set_pipeline_state state io).2 = st' := by
    unfold EdgeAuditStore.set_pipeline_state _require_active
    rw [ha]
    simp only [hr]
    cases r <;> rfl
  rw [hst']
  exact ⟨a, name, dir', d, hact, hname, hw.1,
    ((ht none).other name nofun).trans hstage, hrows⟩

/-- A recorded row is appended. -/
theorem RolloutFile.record_rollout {st st' : EdgeAuditStore} {rows : List Dict} {row : Dict}
    {io : Io} (h : RolloutFile st rows) (hok : st.record_rollout row io = (.ok (), st')) :
    RolloutFile st' (rows ++ [row]) := by
  obtain ⟨a, name, dir, d, ha, hname, hdir, hstage, rfl⟩ := h
  unfold EdgeAuditStore.record_rollout _require_stage _require_active at hok
  rw [ha] at hok
  simp only [hname] at hok
  obtain ⟨dir', hw, -, -, hstage'⟩ := writes_updateStage hdir name true
    fun d => { d with rollout := d.rollout ++ [row] }
  rcases hj : _atomic_json (io 0) true with ⟨raised, appended⟩
  rw [hj] at hok
  cases raised with
  | some e => cases hok
  | none =>
      obtain ⟨-, -, rfl⟩ := _atomic_json_ok hj
      cases hok
      exact ⟨a, name, dir', _, (writeIf_active _ _ _ _).trans ha, hname, hw.1,
        hstage' rfl d hstage, rfl⟩

end EdgeAuditStore

end OvenRuntime
