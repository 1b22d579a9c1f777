/-
  OvenRuntime.Edge.AuditAtomicity
  ───────────────────────────────
  What a failing call of the edge audit leaves in memory.

  Four of the operations make two writes and change the active run between
  them, so a second write that raises leaves the change behind.  A call that
  raises anywhere else changes nothing in memory (`audit_unchanged_iff`).
-/
import OvenRuntime.Edge.RunEvidence
import OvenRuntime.Lib.History

namespace OvenRuntime

open History

namespace EdgeAuditStore

/-! ## §1. Calls that raise between two changes. -/

/-- `_atomic_json` raises. -/
def writeRaises (w : WriteOutcome) (encodable : Bool) : Bool := (_atomic_json w encodable).1.isSome

/-- A call that raises leaves the active run as it was. -/
def Unchanged {α : Type} (st : EdgeAuditStore) (r : Except Exn α × EdgeAuditStore) : Prop :=
  ∀ e, r.1 = .error e → r.2._active = st._active

/-- The manifest `begin` writes. -/
def createdManifest (run_id : PyStr) (planned_skills : List PyStr) : RunManifest :=
  runManifest { run_id := run_id, planned_skills := planned_skills } .ACTIVE (py "CREATED")
    none none

/-- `begin` makes the directory, and the write of the manifest raises. -/
def BeginHalfway (st : EdgeAuditStore) (run_id : PyStr) (planned_skills : List PyStr) (io : Io) :
    Prop :=
  TRIAL_ID_PATTERN run_id = true ∧ st._active = none ∧ st.dirs run_id = none ∧ io 0 = .done ∧
    writeRaises (io 1) (createdManifest run_id planned_skills).encodable = true

/-- `start_stage` makes the directory, and the write of the evidence raises. -/
def StartHalfway (st : EdgeAuditStore) (index : Int) (skill trial_id : PyStr) (io : Io) : Prop :=
  ∃ active, st._active = some active ∧ active.active_stage_directory = none ∧
    index = active.completed_stages ∧
    active.planned_skills[active.completed_stages]? = some skill ∧
    (st.dirs active.run_id).bind (·.stages (stageDirectory active.completed_stages skill)) = none ∧
    io 0 = .done ∧
    writeRaises (io 1) (StageRecord.active active.completed_stages skill trial_id).encodable = true

/-- `complete_stage` writes the evidence, and the write of the manifest raises. -/
def CompleteHalfway (st : EdgeAuditStore) (c : StageCompletion) (io : Io) : Prop :=
  c.evidence.completed = true ∧ ∃ active directory, st._active = some active ∧
    active.active_stage_directory = some directory ∧
    writeRaises (io 0) (StageRecord.completed c).encodable = false ∧
    writeRaises (io 1) (runManifest { active with
      completed_stages := active.completed_stages + 1
      active_stage_directory := none } .ACTIVE (py "HANDOFF") none none).encodable = true

/-- `fail` closes the active stage, and the write of the manifest raises. -/
def FailHalfway (st : EdgeAuditStore) (state error_code message : PyStr) (io : Io) : Prop :=
  ∃ active directory, st._active = some active ∧
    active.active_stage_directory = some directory ∧
    writeRaises (io 0) (error_code.encodable && message.encodable) = false ∧
    writeRaises (io 1) (runManifest { active with active_stage_directory := none } .FAILED state
      (some error_code) (some message)).encodable = true

/-- The call gets to its second write, and that one raises. -/
def Halfway (st : EdgeAuditStore) (c : Call × Io) : Prop :=
  match c.1 with
  | .begin run_id planned_skills => st.BeginHalfway run_id planned_skills c.2
  | .start_stage index skill trial_id => st.StartHalfway index skill trial_id c.2
  | .complete_stage completion => st.CompleteHalfway completion c.2
  | .fail state error_code message => st.FailHalfway state error_code message c.2
  | _ => False

/-! ## §2. One operation. -/

theorem Unchanged.of_active {α : Type} {st : EdgeAuditStore} {r : Except Exn α × EdgeAuditStore}
    (h : r.2._active = st._active) : Unchanged st r := fun _ _ => h

theorem unchanged_outcome {α : Type} {st : EdgeAuditStore} {f : α → Returned}
    {r : Except Exn α × EdgeAuditStore} : Unchanged st (outcome f r) ↔ Unchanged st r := by
  obtain ⟨r, st'⟩ := r
  cases r with
  | error e => exact ⟨fun h _ _ => h e rfl, fun h _ _ => h e rfl⟩
  | ok a =>
      constructor <;> · intro _ e h
                        cases h

theorem writeRaises_none {w : WriteOutcome} {encodable replaced : Bool}
    (h : _atomic_json w encodable = (none, replaced)) : writeRaises w encodable = false := by
  rw [writeRaises, h]
  rfl

theorem writeRaises_some {w : WriteOutcome} {encodable replaced : Bool} {e : PyError}
    (h : _atomic_json w encodable = (some e, replaced)) : writeRaises w encodable = true := by
  rw [writeRaises, h]
  rfl

/-- `_write_manifest` raises what its write raises and leaves the active run
alone. -/
theorem _write_manifest_outcome {st : EdgeAuditStore} {a : ActiveEdgeRun}
    (ha : st._active = some a) (status : RunStatus) (state : PyStr)
    (error_code message : Option PyStr) (w : WriteOutcome) :
    ∃ r st', st._write_manifest status state error_code message w = (r, st') ∧
      st'._active = some a ∧
      ((∃ e, r = .error e) ↔
        writeRaises w (runManifest a status state error_code message).encodable = true) := by
  unfold _write_manifest _require_active
  rw [ha]
  simp only
  rcases hj : _atomic_json w (runManifest a status state error_code message).encodable
    with ⟨raised, replaced⟩
  cases raised with
  | some e =>
      exact ⟨_, _, rfl, by simp [ha], ⟨fun _ => writeRaises_some hj, fun _ => ⟨_, rfl⟩⟩⟩
  | none =>
      refine ⟨_, _, rfl, by simp [ha], ?_⟩
      rw [writeRaises_none hj]
      constructor
      · rintro ⟨e, he⟩
        cases he
      · exact fun h => absurd h Bool.false_ne_true

theorem begin_unchanged_iff (st : EdgeAuditStore) (run_id : PyStr) (planned_skills : List PyStr)
    (io : Io) :
    Unchanged st (st.begin run_id planned_skills io) ↔
      ¬ st.BeginHalfway run_id planned_skills io := by
  unfold begin
  by_cases hid : TRIAL_ID_PATTERN run_id = true
  · rw [if_neg (by simp [hid])]
    cases hact : st._active with
    | some a =>
        refine iff_of_true (.of_active rfl) ?_
        rintro ⟨-, h, -⟩
        rw [hact] at h
        cases h
    | none =>
        simp only
        cases hdir : st.dirs run_id with
        | some dir =>
            refine iff_of_true (.of_active rfl) ?_
            rintro ⟨-, -, h, -⟩
            rw [hdir] at h
            cases h
        | none =>
            rw [if_neg (by simp)]
            cases hio : io 0 with
            | raised e applied =>
                refine iff_of_true (.of_active ?_) ?_
                · cases applied <;> rfl
                · rintro ⟨-, -, -, h, -⟩
                  rw [hio] at h
                  cases h
            | done =>
                simp only [beginRun]
                generalize st.mkdir run_id = st₁
                have hset : ({ st₁ with _active := some ⟨run_id, planned_skills, 0, none⟩ } :
                    EdgeAuditStore)._active = some ⟨run_id, planned_skills, 0, none⟩ := rfl
                obtain ⟨r, st', hw, hact', hraises⟩ := _write_manifest_outcome hset .ACTIVE
                  (py "CREATED") none none (io 1)
                rw [hw]
                cases r with
                | error e =>
                    -- the run is active, though `begin` raises
                    refine iff_of_false ?_ (not_not.mpr ⟨hid, hact, hdir, hio, hraises.mp ⟨e, rfl⟩⟩)
                    intro h
                    have := h e rfl
                    rw [hact, hact'] at this
                    cases this
                | ok m =>
                    refine iff_of_true (fun e h => nomatch h) ?_
                    rintro ⟨-, -, -, -, h⟩
                    obtain ⟨e, he⟩ := hraises.mpr h
                    cases he
  · rw [if_pos (by simpa using hid)]
    exact iff_of_true (.of_active rfl) fun h => hid h.1

theorem start_stage_unchanged_iff (st : EdgeAuditStore) (index : Int) (skill trial_id : PyStr)
    (io : Io) :
    Unchanged st (st.start_stage index skill trial_id io) ↔
      ¬ st.StartHalfway index skill trial_id io := by
  unfold start_stage _require_active
  cases hact : st._active with
  | none =>
      refine iff_of_true (.of_active rfl) ?_
      rintro ⟨a, ha, -⟩
      rw [hact] at ha
      cases ha
  | some active =>
      simp only
      -- the checks, in their order
      by_cases hstage : active.active_stage_directory ≠ none
      · rw [if_pos hstage]
        refine iff_of_true (.of_active rfl) ?_
        rintro ⟨a, ha, h, -⟩
        cases hact.symm.trans ha
        exact hstage h
      by_cases hindex : index ≠ active.completed_stages
      · rw [if_neg hstage, if_pos hindex]
        refine iff_of_true (.of_active rfl) ?_
        rintro ⟨a, ha, -, h, -⟩
        cases hact.symm.trans ha
        exact hindex h
      by_cases hskill : active.planned_skills[active.completed_stages]? ≠ some skill
      · rw [if_neg hstage, if_neg hindex, if_pos hskill]
        refine iff_of_true (.of_active rfl) ?_
        rintro ⟨a, ha, -, -, h, -⟩
        cases hact.symm.trans ha
        exact hskill h
      rw [if_neg hstage, if_neg hindex, if_neg hskill]
      cases hdir : (st.dirs active.run_id).bind
          (·.stages (stageDirectory active.completed_stages skill)) with
      | some dir =>
          refine iff_of_true (.of_active rfl) ?_
          rintro ⟨a, ha, -, -, -, h, -⟩
          cases hact.symm.trans ha
          rw [hdir] at h
          cases h
      | none =>
          rw [if_neg (by simp)]
          cases hio : io 0 with
          | raised e applied =>
              refine iff_of_true (.of_active (writeIf_active ..)) ?_
              rintro ⟨a, -, -, -, -, -, h, -⟩
              rw [hio] at h
              cases h
          | done =>
              push Not at hstage hindex hskill
              simp only [openStage]
              rcases hj : _atomic_json (io 1)
                (StageRecord.active active.completed_stages skill trial_id).encodable
                with ⟨raised, replaced⟩
              cases raised with
              | some e =>
                  -- the pointer to the stage is set
                  refine iff_of_false ?_ (not_not.mpr
                    ⟨active, hact, hstage, hindex, hskill, hdir, hio, writeRaises_some hj⟩)
                  intro h
                  have hset := h (.error e) rfl
                  rw [hact, writeIf_active, Option.some.injEq] at hset
                  have := congrArg ActiveEdgeRun.active_stage_directory hset
                  rw [hstage] at this
                  cases this
              | none =>
                  refine iff_of_true (fun e h => nomatch h) ?_
                  rintro ⟨a, ha, -, -, -, -, -, h⟩
                  cases hact.symm.trans ha
                  rw [writeRaises_none hj] at h
                  cases h

theorem complete_stage_unchanged_iff (st : EdgeAuditStore) (c : StageCompletion) (io : Io) :
    Unchanged st (st.complete_stage c io) ↔ ¬ st.CompleteHalfway c io := by
  unfold complete_stage
  by_cases hcompleted : c.evidence.completed = true
  · rw [if_neg (by simp [hcompleted])]
    unfold _require_stage _require_active
    cases hact : st._active with
    | none =>
        refine iff_of_true (.of_active rfl) ?_
        rintro ⟨-, a, d, ha, -⟩
        rw [hact] at ha
        cases ha
    | some active =>
        simp only
        cases hstage : active.active_stage_directory with
        | none =>
            refine iff_of_true (.of_active rfl) ?_
            rintro ⟨-, a, d, ha, hd, -⟩
            cases hact.symm.trans ha
            rw [hstage] at hd
            cases hd
        | some directory =>
            simp only
            rcases hj : _atomic_json (io 0) (StageRecord.completed c).encodable
              with ⟨raised, replaced⟩
            cases raised with
            | some e =>
                refine iff_of_true (.of_active (writeIf_active ..)) ?_
                rintro ⟨-, a, d, -, -, h, -⟩
                rw [writeRaises_some hj] at h
                cases h
            | none =>
                simp only [commitStage]
                generalize st.writeIf active.run_id replaced (updateStage directory fun d =>
                  { d with stage_evidence := some (.completed c) }) = st₁
                let counted : ActiveEdgeRun :=
                  { active with
                    completed_stages := active.completed_stages + 1
                    active_stage_directory := none }
                have hcounted : ({ st₁ with _active := some counted } : EdgeAuditStore)._active
                    = some counted := rfl
                obtain ⟨r, st', hw, hact', hraises⟩ := _write_manifest_outcome hcounted .ACTIVE
                  (py "HANDOFF") none none (io 1)
                rw [hw]
                cases r with
                | error e =>
                    -- the stage is counted
                    refine iff_of_false ?_ (not_not.mpr ⟨hcompleted, active, directory, hact,
                      hstage, writeRaises_none hj, hraises.mp ⟨e, rfl⟩⟩)
                    intro h
                    have hset := h e rfl
                    rw [hact, hact', Option.some.injEq] at hset
                    have hcount : active.completed_stages + 1 = active.completed_stages :=
                      congrArg ActiveEdgeRun.completed_stages hset
                    omega
                | ok m =>
                    refine iff_of_true (fun e h => nomatch h) ?_
                    rintro ⟨-, a, d, ha, -, -, h⟩
                    cases hact.symm.trans ha
                    obtain ⟨e, he⟩ := hraises.mpr h
                    cases he
  · rw [if_pos (by simpa using hcompleted)]
    exact iff_of_true (.of_active rfl) fun h => hcompleted h.1

/-- The last write of `fail`, with the active run as the caller left it. -/
theorem failRun_unchanged_iff {st : EdgeAuditStore} {a : ActiveEdgeRun} (ha : st._active = some a)
    (before : EdgeAuditStore) (state error_code message : PyStr) (w : WriteOutcome) :
    Unchanged before (st.failRun state error_code message w) ↔
      (writeRaises w (runManifest a .FAILED state (some error_code) (some message)).encodable = true
        → before._active = some a) := by
  obtain ⟨r, st', hw, hact', hraises⟩ := _write_manifest_outcome ha .FAILED state
    (some error_code) (some message) w
  unfold failRun
  rw [hw]
  cases r with
  | error e =>
      constructor
      · intro h _
        exact (h e rfl).symm.trans hact'
      · intro h e' _
        exact hact'.trans (h (hraises.mp ⟨e, rfl⟩)).symm
  | ok m =>
      refine iff_of_true (fun e h => nomatch h) ?_
      intro h
      obtain ⟨e, he⟩ := hraises.mpr h
      cases he

theorem fail_unchanged_iff (st : EdgeAuditStore) (state error_code message : PyStr) (io : Io) :
    Unchanged st (st.fail state error_code message io) ↔
      ¬ st.FailHalfway state error_code message io := by
  unfold fail _require_active
  cases hact : st._active with
  | none =>
      refine iff_of_true (.of_active rfl) ?_
      rintro ⟨a, d, ha, -⟩
      rw [hact] at ha
      cases ha
  | some active =>
      simp only
      cases hstage : active.active_stage_directory with
      | none =>
          refine iff_of_true ((failRun_unchanged_iff hact ..).mpr fun _ => hact) ?_
          rintro ⟨a, d, ha, hd, -⟩
          cases hact.symm.trans ha
          rw [hstage] at hd
          cases hd
      | some directory =>
          simp only
          rcases hj : _atomic_json (io 0) (error_code.encodable && message.encodable)
            with ⟨raised, replaced⟩
          cases raised with
          | some e =>
              refine iff_of_true (.of_active (writeIf_active ..)) ?_
              rintro ⟨a, d, -, -, h, -⟩
              rw [writeRaises_some hj] at h
              cases h
          | none =>
              simp only
              rw [failRun_unchanged_iff rfl, hact, Option.some.injEq]
              constructor
              · rintro h ⟨a, d, ha, -, -, hraises⟩
                cases hact.symm.trans ha
                have := congrArg ActiveEdgeRun.active_stage_directory (h hraises)
                rw [hstage] at this
                cases this
              · intro h hraises
                exact absurd ⟨active, directory, hact, hstage, writeRaises_none hj, hraises⟩ h

/-! ## §3. A run of calls. -/

/-- **One call** leaves the memory alone when it raises, unless it raises
halfway. -/
theorem step_unchanged_iff (st : EdgeAuditStore) (c : Call × Io) :
    Unchanged st (st.step c) ↔ ¬ st.Halfway c := by
  obtain ⟨c, io⟩ := c
  cases c with
  | begin run_id planned_skills =>
      exact unchanged_outcome.trans (st.begin_unchanged_iff run_id planned_skills io)
  | set_pipeline_state state =>
      refine iff_of_true (unchanged_outcome.mpr ?_) id
      unfold set_pipeline_state
      cases hact : st._active with
      | none =>
          simp only [_require_active, hact]
          exact .of_active rfl
      | some a =>
          obtain ⟨r, st', hw, hact', -⟩ :=
            _write_manifest_outcome hact .ACTIVE state none none (io 0)
          simp only [_require_active, hact, hw]
          cases r <;> exact .of_active (hact'.trans hact.symm)
  | start_stage index skill trial_id =>
      exact unchanged_outcome.trans (st.start_stage_unchanged_iff index skill trial_id io)
  | record_rollout row =>
      refine iff_of_true (unchanged_outcome.mpr ?_) id
      unfold record_rollout
      split
      · exact .of_active rfl
      · rename_i active directory _
        rcases _atomic_json (io 0) true with ⟨raised, appended⟩
        cases raised <;> exact .of_active (writeIf_active ..)
  | complete_stage completion =>
      exact unchanged_outcome.trans (st.complete_stage_unchanged_iff completion io)
  | fail state error_code message =>
      exact unchanged_outcome.trans (st.fail_unchanged_iff state error_code message io)
  | complete =>
      refine iff_of_true (unchanged_outcome.mpr ?_) id
      unfold complete
      cases hact : st._active with
      | none =>
          simp only [_require_active, hact]
          exact .of_active rfl
      | some a =>
          simp only [_require_active, hact]
          split
          · exact .of_active rfl
          · obtain ⟨r, st', hw, hact', -⟩ :=
              _write_manifest_outcome hact .COMPLETED (py "COMPLETED") none none (io 0)
            rw [hw]
            cases r with
            | error e => exact .of_active (hact'.trans hact.symm)
            | ok m =>
                intro e h
                cases h

/-- A store just constructed over `dirs`, after the calls. -/
def afterCalls (dirs : PyStr → Option RunDir) (calls : List (Call × Io)) : EdgeAuditStore :=
  calls.foldl (fun st c => (st.step c).2) (init dirs)

/-- **Failing audit calls**: in a history of calls, every call that raises
leaves the active run as it was, exactly when no call raises halfway. -/
theorem audit_unchanged_iff (dirs : PyStr → Option RunDir) (calls : List (Call × Io)) :
    Always (fun before c => Unchanged (afterCalls dirs before) ((afterCalls dirs before).step c))
        calls ↔
      Always (fun before c => ¬ (afterCalls dirs before).Halfway c) calls := by
  induction calls using List.reverseRecOn with
  | nil => exact iff_of_true (always_nil _) (always_nil _)
  | append_singleton calls c ih =>
      rw [always_snoc, always_snoc, ih, step_unchanged_iff]

/-- The manifest cannot be written. -/
def manifestFails : Io := fun n => if n = 1 then .raised .OSError false else .done

/-- **A begin that raises** keeps its run active: the next one is refused. -/
theorem begin_leaves_run :
    ∃ e f, ((init fun _ => none).step (.begin (py "run") [py "fold"], manifestFails)).1 = .error e ∧
      ¬ Unchanged (init fun _ => none)
        ((init fun _ => none).step (.begin (py "run") [py "fold"], manifestFails)) ∧
      ((afterCalls (fun _ => none) [(.begin (py "run") [py "fold"], manifestFails)]).step
        (.begin (py "next") [py "fold"], Io.clean)).1 = .error (.fault f) ∧
      f.code = .STATE_REJECTED ∧ f.message = "an edge run is already active" := by
  refine ⟨.error .OSError, ⟨.STATE_REJECTED, "an edge run is already active", []⟩, rfl, ?_, rfl,
    rfl, rfl⟩
  intro h
  have := h (.error .OSError) rfl
  cases this

end EdgeAuditStore

end OvenRuntime
