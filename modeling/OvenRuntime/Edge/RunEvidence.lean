/-
  OvenRuntime.Edge.RunEvidence
  ────────────────────────────
  What the evidence of a run proves.

  The counter, the pointer to the active stage and the files move at different
  points of each operation, and any write in between may raise.  The invariant
  (`Progress`) links the counter to the evidence files, and the pointer to the
  history of the stages.
-/
import OvenRuntime.Edge.Audit
import OvenRuntime.Lib.Mealy

namespace OvenRuntime

namespace EdgeAuditStore

/-! ## §1. The history of the stages. -/

/-- What a call did to the stages of the active run. -/
inductive StageEvent where
  /-- The pointer is set to a directory. -/
  | opened (directory : PyStr)
  /-- `complete_stage` has counted the stage. -/
  | committed (index : Nat) (c : StageCompletion)

/-- The event of a call, by the active run before and after it. -/
def stageEvent (c : Call) (before after : ActiveEdgeRun) : List StageEvent :=
  match before.active_stage_directory, after.active_stage_directory with
  | none, some directory => [.opened directory]
  | _, _ =>
      match c with
      | .complete_stage completion =>
          if after.completed_stages = before.completed_stages + 1 then
            [.committed before.completed_stages completion]
          else []
      | _ => []

/-- The history of the active run, which starts when the run does. -/
def historyAfter (history : List StageEvent) (c : Call) (before after : Option ActiveEdgeRun) :
    List StageEvent :=
  match before, after with
  | some b, some a => history ++ stageEvent c b a
  | none, some _ => []
  | _, none => history

/-- A store and the history of its active run. -/
structure Watched where
  store : EdgeAuditStore
  history : List StageEvent

/-- One call, watched. -/
def watch (w : Watched) (c : Call × Io) : Except Exn Returned × Watched :=
  let r := w.store.step c
  (r.1, { store := r.2, history := historyAfter w.history c.1 w.store._active r.2._active })

/-- A store just constructed over an audit root with the directories `dirs`
in it. -/
def init (dirs : PyStr → Option RunDir) : EdgeAuditStore := { dirs := dirs }

/-- A new store over `dirs` and its history, after the calls. -/
def watched (dirs : PyStr → Option RunDir) (calls : List (Call × Io)) : Watched :=
  Mealy.after watch { store := init dirs, history := [] } calls

/-- The history of stages completed one after the other: each is opened, then
committed. -/
def oneByOne : Nat → List PyStr → List StageCompletion → List StageEvent
  | index, skill :: skills, c :: cs =>
      .opened (stageDirectory index skill) :: .committed index c :: oneByOne (index + 1) skills cs
  | _, _, _ => []

/-- One more stage opens its directory and is committed after the others. -/
theorem oneByOne_snoc {skills : List PyStr} {cs : List StageCompletion} {skill : PyStr}
    (c : StageCompletion) (h : skills[cs.length]? = some skill) (index : Nat) :
    oneByOne index skills (cs ++ [c]) = oneByOne index skills cs ++
      [.opened (stageDirectory (index + cs.length) skill), .committed (index + cs.length) c] := by
  induction cs generalizing skills index with
  | nil =>
      cases skills with
      | nil => cases h
      | cons s skills =>
          cases h
          cases skills <;> rfl
  | cons c' cs ih =>
      cases skills with
      | nil => cases h
      | cons s skills =>
          have hlen : index + (c' :: cs).length = index + 1 + cs.length := by
            rw [List.length_cons]
            omega
          rw [hlen, List.cons_append, oneByOne, oneByOne, ih (by simpa using h)]
          rfl

/-! ## §2. What a call can do. -/

/-- The evidence of the stage in this directory is the completion. -/
def Shows (dir : RunDir) (name : PyStr) (c : StageCompletion) : Prop :=
  c.evidence.completed = true ∧
    ∃ d, dir.stages name = some d ∧ d.stage_evidence = some (.completed c)

/-- Only the files of one stage, and the manifest, have changed. -/
structure Touches (name : Option PyStr) (dir dir' : RunDir) : Prop where
  other : ∀ n, name ≠ some n → dir'.stages n = dir.stages n
  exist : ∀ n, (dir'.stages n).isSome = (dir.stages n).isSome

/-- A write that touches nothing. -/
theorem Touches.refl (name : Option PyStr) (dir : RunDir) : Touches name dir dir :=
  ⟨fun _ _ => rfl, fun _ => rfl⟩

/-- Two writes to the same stage. -/
theorem Touches.trans {name : Option PyStr} {dir dir' dir'' : RunDir} (h : Touches name dir dir')
    (h' : Touches name dir' dir'') : Touches name dir dir'' :=
  ⟨fun n hn => (h'.other n hn).trans (h.other n hn), fun n => (h'.exist n).trans (h.exist n)⟩

/-- A write that takes effect or does not. -/
theorem Touches.ite {name : Option PyStr} {dir dir' : RunDir} (b : Bool)
    (h : Touches name dir dir') : Touches name dir (if b then dir' else dir) := by
  cases b with
  | true => exact h
  | false => exact .refl name dir

/-- The manifest of the run is no file of a stage. -/
theorem touches_setManifest (name : Option PyStr) (manifest : RunManifest) (dir : RunDir) :
    Touches name dir (setManifest manifest dir) := ⟨fun _ _ => rfl, fun _ => rfl⟩

/-- A write to the files of one stage leaves the others. -/
theorem touches_updateStage (name : PyStr) (f : StageDir → StageDir) (dir : RunDir) :
    Touches (some name) dir (updateStage name f dir) := by
  constructor
  · intro n hn
    have hne : n ≠ name := fun h => hn (by rw [h])
    show (if n = name then _ else _) = _
    rw [if_neg hne]
  · intro n
    show (if n = name then _ else _ : Option StageDir).isSome = _
    by_cases hn : n = name
    · rw [if_pos hn, Option.isSome_map]
    · rw [if_neg hn]

/-- What a call can make of the active run `a` and its directory. -/
inductive RunStep (a : ActiveEdgeRun) (dir : RunDir) :
    Call → Option ActiveEdgeRun → RunDir → Prop
  | kept {c dir'} : Touches a.active_stage_directory dir dir' → RunStep a dir c (some a) dir'
  /-- The directory of the next stage exists, but the stage is not opened. -/
  | left {c skill} : a.active_stage_directory = none →
      a.planned_skills[a.completed_stages]? = some skill →
      dir.stages (stageDirectory a.completed_stages skill) = none →
      RunStep a dir c (some a) (addStage (stageDirectory a.completed_stages skill) dir)
  | opened {index skill trial_id dir'} : a.active_stage_directory = none →
      a.planned_skills[a.completed_stages]? = some skill →
      dir.stages (stageDirectory a.completed_stages skill) = none →
      Touches (some (stageDirectory a.completed_stages skill))
        (addStage (stageDirectory a.completed_stages skill) dir) dir' →
      RunStep a dir (.start_stage index skill trial_id)
        (some { a with
          active_stage_directory := some (stageDirectory a.completed_stages skill) }) dir'
  | committed {completion directory dir'} : a.active_stage_directory = some directory →
      completion.evidence.completed = true → Touches (some directory) dir dir' →
      ((dir.stages directory).isSome = true → Shows dir' directory completion) →
      RunStep a dir (.complete_stage completion)
        (some { a with
          completed_stages := a.completed_stages + 1, active_stage_directory := none }) dir'
  /-- `fail` has closed the stage but not ended the run. -/
  | closed {state error_code message directory dir'} :
      a.active_stage_directory = some directory → Touches (some directory) dir dir' →
      RunStep a dir (.fail state error_code message)
        (some { a with active_stage_directory := none }) dir'
  | failed {state error_code message dir'} :
      RunStep a dir (.fail state error_code message) none dir'
  | completed {dir'} : a.active_stage_directory = none →
      a.completed_stages = a.planned_skills.length → Touches none dir dir' →
      RunStep a dir .complete none dir'

/-- The directory of a run is this, and no other directory has changed. -/
def Writes (st : EdgeAuditStore) (run_id : PyStr) (dir : RunDir) (st' : EdgeAuditStore) : Prop :=
  st'.dirs run_id = some dir ∧ ∀ d, d ≠ run_id → st'.dirs d = st.dirs d

/-- Nothing was written. -/
theorem Writes.refl {st : EdgeAuditStore} {run_id : PyStr} {dir : RunDir}
    (h : st.dirs run_id = some dir) : Writes st run_id dir st := ⟨h, fun _ _ => rfl⟩

/-- Two writes in a row, to the directory of one run. -/
theorem Writes.trans {st st' st'' : EdgeAuditStore} {run_id : PyStr} {dir dir' : RunDir}
    (h : Writes st run_id dir st') (h' : Writes st' run_id dir' st'') :
    Writes st run_id dir' st'' :=
  ⟨h'.1, fun d hd => (h'.2 d hd).trans (h.2 d hd)⟩

/-- A write that takes effect or does not is one to the directory of the run. -/
theorem writes_writeIf {st : EdgeAuditStore} {run_id : PyStr} {dir : RunDir}
    (h : st.dirs run_id = some dir) (b : Bool) (f : RunDir → RunDir) :
    Writes st run_id (if b then f dir else dir) (st.writeIf run_id b f) := by
  unfold writeIf
  cases b with
  | false => exact .refl h
  | true =>
      refine ⟨?_, ?_⟩
      · show (if run_id = run_id then (st.dirs run_id).map f else _) = some (f dir)
        rw [if_pos rfl, h]
        rfl
      · intro d hd
        show (if d = run_id then _ else _) = _
        rw [if_neg hd]

/-- What is on disk is not what the store has in memory. -/
@[simp] theorem writeIf_active (st : EdgeAuditStore) (run_id : PyStr) (b : Bool)
    (f : RunDir → RunDir) : (st.writeIf run_id b f)._active = st._active := by
  unfold writeIf
  split <;> rfl

/-- **`_write_manifest`** touches nothing but the manifest. -/
theorem _write_manifest_spec {st : EdgeAuditStore} {a : ActiveEdgeRun} {dir : RunDir}
    (ha : st._active = some a) (hdir : st.dirs a.run_id = some dir) (status : RunStatus)
    (state : PyStr) (error_code message : Option PyStr) (w : WriteOutcome) :
    ∃ r st' dir', st._write_manifest status state error_code message w = (r, st') ∧
      Writes st a.run_id dir' st' ∧ st'._active = some a ∧ (∀ name, Touches name dir dir') ∧
      (dir'.run_manifest = dir.run_manifest ∨
        dir'.run_manifest = some (runManifest a status state error_code message)) ∧
      ∀ m, r = .ok m → m = runManifest a status state error_code message ∧
        dir'.run_manifest = some m := by
  generalize hm : runManifest a status state error_code message = m
  have hw := writes_writeIf hdir (_atomic_json w m.encodable).2 (setManifest m)
  have ht : ∀ name, Touches name dir (if (_atomic_json w m.encodable).2 then setManifest m dir
      else dir) := fun name => Touches.ite _ (touches_setManifest name m dir)
  have hact := (writeIf_active st a.run_id (_atomic_json w m.encodable).2 (setManifest m)).trans ha
  have hkeep : ∀ b : Bool, (if b then setManifest m dir else dir).run_manifest = dir.run_manifest ∨
      (if b then setManifest m dir else dir).run_manifest = some m := by
    intro b
    cases b with
    | true => exact .inr rfl
    | false => exact .inl rfl
  unfold _write_manifest _require_active
  rw [ha]
  simp only [hm]
  rcases hj : _atomic_json w m.encodable with ⟨raised, replaced⟩
  rw [hj] at hw ht hact
  cases raised with
  | some e => exact ⟨_, _, _, rfl, hw, hact, ht, hkeep _, fun m' hm' => by cases hm'⟩
  | none =>
      refine ⟨_, _, _, rfl, hw, hact, ht, hkeep _, fun m' hm' => ?_⟩
      cases hm'
      obtain ⟨-, -, hrep⟩ := _atomic_json_ok hj
      refine ⟨rfl, ?_⟩
      show (if replaced = true then setManifest m dir else dir).run_manifest = some m
      rw [if_pos hrep]
      rfl

/-- The call takes the active run `a` and its directory one step further, and
leaves every other directory alone. -/
def Advances (st : EdgeAuditStore) (a : ActiveEdgeRun) (dir : RunDir) (c : Call)
    (st' : EdgeAuditStore) : Prop :=
  ∃ dir', Writes st a.run_id dir' st' ∧ RunStep a dir c st'._active dir'

/-- A call that leaves the store alone. -/
theorem Advances.same {st : EdgeAuditStore} {a : ActiveEdgeRun} {dir : RunDir} (c : Call)
    (ha : st._active = some a) (hdir : st.dirs a.run_id = some dir) : Advances st a dir c st := by
  refine ⟨dir, .refl hdir, ?_⟩
  rw [ha]
  exact .kept (.refl _ _)

section Operations

variable {st : EdgeAuditStore} {a : ActiveEdgeRun} {dir : RunDir}

/-- `begin` is refused while a run is active. -/
theorem begin_advances (ha : st._active = some a) (hdir : st.dirs a.run_id = some dir)
    (run_id : PyStr) (planned_skills : List PyStr) (io : Io) :
    Advances st a dir (.begin run_id planned_skills) (st.begin run_id planned_skills io).2 := by
  have hsame : (st.begin run_id planned_skills io).2 = st := by
    unfold EdgeAuditStore.begin
    rw [ha]
    split <;> rfl
  rw [hsame]
  exact .same _ ha hdir

/-- `set_pipeline_state` writes the manifest of the run and no stage. -/
theorem set_pipeline_state_advances (ha : st._active = some a) (hdir : st.dirs a.run_id = some dir)
    (state : PyStr) (io : Io) :
    Advances st a dir (.set_pipeline_state state) (st.set_pipeline_state state io).2 := by
  obtain ⟨r, st', dir', hr, hw, hact, ht, -, -⟩ :=
    _write_manifest_spec ha hdir .ACTIVE state none none (io 0)
  have hst' : (st.set_pipeline_state state io).2 = st' := by
    unfold EdgeAuditStore.set_pipeline_state _require_active
    rw [ha]
    simp only [hr]
    cases r <;> rfl
  rw [hst']
  refine ⟨dir', hw, ?_⟩
  rw [hact]
  exact .kept (ht _)

/-- A new stage directory is empty. -/
theorem addStage_self (name : PyStr) (dir : RunDir) :
    (addStage name dir).stages name = some {} := by
  show (if name = name then some ({} : StageDir) else _) = _
  rw [if_pos rfl]

/-- The other stages stay as they are. -/
theorem addStage_other {name n : PyStr} (h : n ≠ name) (dir : RunDir) :
    (addStage name dir).stages n = dir.stages n := by
  show (if n = name then _ else _) = _
  rw [if_neg h]

/-- A write into the directory of a stage. -/
theorem writes_updateStage {run_id : PyStr} (hdir : st.dirs run_id = some dir) (name : PyStr)
    (b : Bool) (f : StageDir → StageDir) :
    ∃ dir', Writes st run_id dir' (st.writeIf run_id b (updateStage name f)) ∧
      Touches (some name) dir dir' ∧
      dir'.run_manifest = dir.run_manifest ∧
      (b = true → ∀ d, dir.stages name = some d → dir'.stages name = some (f d)) := by
  refine ⟨_, writes_writeIf hdir b _, .ite b (touches_updateStage name f dir), ?_, ?_⟩
  · cases b <;> rfl
  rintro rfl d hd
  show (if name = name then (dir.stages name).map f else _) = some (f d)
  rw [if_pos rfl, hd]
  rfl

/-- The write of `start_stage`, once the directory is made: from then on the stage is the
open one, also if the write raises. -/
theorem openStage_spec (hdir : st.dirs a.run_id = some dir) (skill trial_id : PyStr)
    (w : WriteOutcome) :
    ∃ dir', Writes st a.run_id dir' (st.openStage a skill trial_id w).2 ∧
      Touches (some (stageDirectory a.completed_stages skill)) dir dir' ∧
      (st.openStage a skill trial_id w).2._active = some { a with
        active_stage_directory := some (stageDirectory a.completed_stages skill) } := by
  generalize hname : stageDirectory a.completed_stages skill = name
  generalize hrecord : StageRecord.active a.completed_stages skill trial_id = record
  generalize hopened : ({ st with
    _active := some { a with active_stage_directory := some name } } : EdgeAuditStore) = opened
  have hdir₁ : opened.dirs a.run_id = some dir := by
    rw [← hopened]
    exact hdir
  rcases hj : _atomic_json w record.encodable with ⟨raised, replaced⟩
  obtain ⟨dir', hw, ht, -, -⟩ := writes_updateStage hdir₁ name replaced fun d =>
    { d with stage_evidence := some record }
  have hst : (st.openStage a skill trial_id w).2 = opened.writeIf a.run_id replaced
      (updateStage name fun d => { d with stage_evidence := some record }) := by
    unfold openStage
    simp only [hname, hrecord, hopened, hj]
    cases raised <;> rfl
  rw [hst, writeIf_active, ← hopened]
  rw [← hopened] at hw
  exact ⟨dir', hw, ht, rfl⟩

/-- `start_stage` is refused, leaves a new directory, or opens the next stage in it. -/
theorem start_stage_advances (ha : st._active = some a) (hdir : st.dirs a.run_id = some dir)
    (index : Int) (skill trial_id : PyStr) (io : Io) :
    Advances st a dir (.start_stage index skill trial_id)
      (st.start_stage index skill trial_id io).2 := by
  unfold start_stage _require_active
  rw [ha]
  simp only [hdir]
  by_cases hopen : a.active_stage_directory = none
  · rw [if_neg (by simpa using hopen)]
    by_cases hindex : index = a.completed_stages
    · rw [if_neg (by simpa using hindex)]
      by_cases hskill : a.planned_skills[a.completed_stages]? = some skill
      · rw [if_neg (by simpa using hskill)]
        by_cases hnew : dir.stages (stageDirectory a.completed_stages skill) = none
        · rw [if_neg (by simp [hnew])]
          cases hio : io 0 with
          | raised e applied =>
              refine ⟨_, writes_writeIf hdir applied (addStage _), ?_⟩
              rw [writeIf_active, ha]
              cases applied with
              | false => exact .kept (.refl _ _)
              | true => exact .left hopen hskill hnew
          | done =>
              -- the stage is open from here on, whether its record is written or not
              have hmade := writes_writeIf hdir true
                (addStage (stageDirectory a.completed_stages skill))
              obtain ⟨dir', hw, ht, hact⟩ := openStage_spec hmade.1 skill trial_id (io 1)
              refine ⟨dir', hmade.trans hw, ?_⟩
              rw [hact]
              exact .opened hopen hskill hnew ht
        · rw [if_pos (by simpa [Option.isSome_iff_ne_none] using hnew)]
          exact .same _ ha hdir
      · rw [if_pos hskill]
        exact .same _ ha hdir
    · rw [if_pos hindex]
      exact .same _ ha hdir
  · rw [if_pos hopen]
    exact .same _ ha hdir

/-- `record_rollout` appends to the open stage. -/
theorem record_rollout_advances (ha : st._active = some a) (hdir : st.dirs a.run_id = some dir)
    (row : Dict) (io : Io) :
    Advances st a dir (.record_rollout row) (st.record_rollout row io).2 := by
  unfold record_rollout _require_stage _require_active
  rw [ha]
  simp only
  cases hopen : a.active_stage_directory with
  | none => exact .same _ ha hdir
  | some directory =>
      simp only
      rcases _atomic_json (io 0) true with ⟨raised, appended⟩
      obtain ⟨dir', hw, ht, -, -⟩ := writes_updateStage hdir directory appended fun d =>
        { d with rollout := d.rollout ++ [row] }
      refine ⟨dir', ?_, ?_⟩
      · cases raised <;> exact hw
      · have hact := (writeIf_active st a.run_id appended (updateStage directory fun d =>
          { d with rollout := d.rollout ++ [row] })).trans ha
        have hkept : RunStep a dir (.record_rollout row) (some a) dir' :=
          .kept (by rw [hopen]; exact ht)
        cases raised <;> exact hact ▸ hkept

/-- The last write of `complete_stage`: the stage is counted before it, so also if the write
raises. -/
theorem commitStage_spec (hdir : st.dirs a.run_id = some dir) (c : StageCompletion)
    (w : WriteOutcome) :
    ∃ dir', Writes st a.run_id dir' (st.commitStage a c w).2 ∧ (∀ name, Touches name dir dir') ∧
      (st.commitStage a c w).2._active = some { a with
        completed_stages := a.completed_stages + 1, active_stage_directory := none } := by
  generalize hcounted : ({ a with
    completed_stages := a.completed_stages + 1, active_stage_directory := none } : ActiveEdgeRun)
      = a'
  generalize hst₁ : ({ st with _active := some a' } : EdgeAuditStore) = st₁
  have hrun : a'.run_id = a.run_id := by rw [← hcounted]
  have ha₁ : st₁._active = some a' := by rw [← hst₁]
  have hdir₁ : st₁.dirs a'.run_id = some dir := by
    rw [← hst₁, hrun]
    exact hdir
  obtain ⟨r, st', dir', hr, hw, hact, ht, -, -⟩ :=
    _write_manifest_spec ha₁ hdir₁ .ACTIVE (py "HANDOFF") none none w
  have hst : (st.commitStage a c w).2 = st' := by
    unfold commitStage
    simp only [hcounted, hst₁, hr]
    cases r <;> rfl
  rw [hst]
  rw [hrun, ← hst₁] at hw
  exact ⟨dir', hw, ht, hact⟩

/-- `complete_stage` is refused, writes to the open stage, or commits it. -/
theorem complete_stage_advances (ha : st._active = some a) (hdir : st.dirs a.run_id = some dir)
    (c : StageCompletion) (io : Io) :
    Advances st a dir (.complete_stage c) (st.complete_stage c io).2 := by
  unfold complete_stage
  cases hcompleted : c.evidence.completed with
  | false => exact .same _ ha hdir
  | true =>
      simp only [Bool.not_true, Bool.false_eq_true, if_false]
      unfold _require_stage _require_active
      rw [ha]
      simp only
      cases hopen : a.active_stage_directory with
      | none => exact .same _ ha hdir
      | some directory =>
          simp only
          rcases hj : _atomic_json (io 0) (StageRecord.completed c).encodable with
            ⟨raised, replaced⟩
          obtain ⟨dir', hw, ht, -, hshows⟩ := writes_updateStage hdir directory replaced fun d =>
            { d with stage_evidence := some (.completed c) }
          cases raised with
          | some e =>
              refine ⟨dir', hw, ?_⟩
              show RunStep a dir _ (st.writeIf _ _ _)._active dir'
              rw [writeIf_active, ha]
              exact .kept (by rw [hopen]; exact ht)
          | none =>
              obtain ⟨-, -, rfl⟩ := _atomic_json_ok hj
              obtain ⟨dir'', hw', ht', hact⟩ := commitStage_spec hw.1 c (io 1)
              refine ⟨dir'', hw.trans hw', ?_⟩
              show RunStep a dir _ (commitStage _ a c (io 1)).2._active dir''
              rw [hact]
              refine .committed hopen hcompleted (ht.trans (ht' _)) fun hsome => ?_
              obtain ⟨d, hd⟩ := Option.isSome_iff_exists.mp hsome
              refine ⟨hcompleted, { d with stage_evidence := some (.completed c) }, ?_, rfl⟩
              rw [(ht' none).other directory (by simp)]
              exact hshows rfl d hd

/-- The end of `fail`: a manifest that is written ends the run. -/
theorem failRun_spec (ha : st._active = some a) (hdir : st.dirs a.run_id = some dir)
    (state error_code message : PyStr) (w : WriteOutcome) :
    ∃ r st' dir', st.failRun state error_code message w = (r, st') ∧ Writes st a.run_id dir' st' ∧
      (∀ name, Touches name dir dir') ∧
      (dir'.run_manifest = dir.run_manifest ∨ dir'.run_manifest
        = some (runManifest a .FAILED state (some error_code) (some message))) ∧
      (((∃ e, r = .error e) ∧ st'._active = some a) ∨
        ∃ m, r = .ok m ∧ st'._active = none ∧ dir'.run_manifest = some m ∧
          m = runManifest a .FAILED state (some error_code) (some message)) := by
  obtain ⟨r, st', dir', hr, hw, hact, ht, hwrote, hm⟩ :=
    _write_manifest_spec ha hdir .FAILED state (some error_code) (some message) w
  unfold failRun
  rw [hr]
  cases r with
  | error e => exact ⟨_, _, dir', rfl, hw, ht, hwrote, .inl ⟨⟨e, rfl⟩, hact⟩⟩
  | ok m =>
      obtain ⟨hm, hmanifest⟩ := hm m rfl
      exact ⟨_, _, dir', rfl, hw, ht, hwrote, .inr ⟨m, rfl, rfl, hmanifest, hm⟩⟩

/-- **`fail`** ends the run with a FAILED manifest, or raises and at most
closes the stage. -/
theorem fail_spec (ha : st._active = some a) (hdir : st.dirs a.run_id = some dir)
    (state error_code message : PyStr) (io : Io) :
    ∃ r st' dir', st.fail state error_code message io = (r, st') ∧ Writes st a.run_id dir' st' ∧
      RunStep a dir (.fail state error_code message) st'._active dir' ∧
      (dir'.run_manifest = dir.run_manifest ∨ ∃ m, dir'.run_manifest = some m ∧
        m.status = .FAILED ∧ m.pipeline_state = state) ∧
      ∀ m, r = .ok m → st'._active = none ∧ dir'.run_manifest = some m ∧
        m.status = .FAILED ∧ m.pipeline_state = state := by
  unfold EdgeAuditStore.fail _require_active
  rw [ha]
  simp only
  cases hopen : a.active_stage_directory with
  | none =>
      obtain ⟨r, st', dir', hr, hw, ht, hwrote, hend⟩ :=
        failRun_spec ha hdir state error_code message (io 0)
      refine ⟨r, st', dir', hr, hw, ?_, hwrote.imp_right fun h => ⟨_, h, rfl, rfl⟩, ?_⟩
      · rcases hend with ⟨-, hact⟩ | ⟨m, -, hact, -, -⟩
        · rw [hact]
          exact .kept (ht _)
        · rw [hact]
          exact .failed
      · rintro m rfl
        rcases hend with ⟨⟨e, he⟩, -⟩ | ⟨m', hm', hact, hmanifest, rfl⟩
        · cases he
        · cases hm'
          exact ⟨hact, hmanifest, rfl, rfl⟩
  | some directory =>
      simp only
      rcases hj : _atomic_json (io 0) (error_code.encodable && message.encodable) with
        ⟨raised, replaced⟩
      obtain ⟨dir₁, hw₁, ht₁, hmanifest₁, -⟩ := writes_updateStage hdir directory replaced fun d =>
        { d with stage_failure := some { error_code := error_code, message := message } }
      cases raised with
      | some e =>
          refine ⟨_, _, dir₁, rfl, hw₁, ?_, .inl hmanifest₁, fun m hm => by cases hm⟩
          rw [writeIf_active, ha]
          exact .kept (by rw [hopen]; exact ht₁)
      | none =>
          simp only
          generalize hst₂ : ({ (st.writeIf a.run_id replaced (updateStage directory fun d =>
            { d with stage_failure := some { error_code := error_code, message := message } }))
              with _active := some { a with active_stage_directory := none } } : EdgeAuditStore)
            = st₂
          have ha₂ : st₂._active = some { a with active_stage_directory := none } := by
            rw [← hst₂]
          have hw₂ : Writes st a.run_id dir₁ st₂ := by
            rw [← hst₂]
            exact hw₁
          obtain ⟨r, st', dir', hr, hw, ht, hwrote, hend⟩ :=
            failRun_spec ha₂ hw₂.1 state error_code message (io 1)
          rw [hmanifest₁] at hwrote
          refine ⟨r, st', dir', hr, hw₂.trans hw, ?_,
            hwrote.imp_right fun h => ⟨_, h, rfl, rfl⟩, ?_⟩
          · rcases hend with ⟨-, hact⟩ | ⟨m, -, hact, -, -⟩
            · rw [hact]
              exact .closed hopen (ht₁.trans (ht _))
            · rw [hact]
              exact .failed
          · rintro m rfl
            rcases hend with ⟨⟨e, he⟩, -⟩ | ⟨m', hm', hact, hmanifest, rfl⟩
            · cases he
            · cases hm'
              exact ⟨hact, hmanifest, rfl, rfl⟩

/-- **`complete`** ends the run with a COMPLETED manifest, or raises. -/
theorem complete_spec (ha : st._active = some a) (hdir : st.dirs a.run_id = some dir) (io : Io) :
    ∃ r st' dir', st.complete io = (r, st') ∧ Writes st a.run_id dir' st' ∧
      RunStep a dir .complete st'._active dir' ∧ (∀ e, r = .error e → st'._active = some a) ∧
      ∀ m, r = .ok m → st'._active = none ∧ dir'.run_manifest = some m ∧
        m.status = .COMPLETED ∧ m.pipeline_state = py "COMPLETED" ∧
        a.active_stage_directory = none ∧ a.completed_stages = a.planned_skills.length ∧
        Touches none dir dir' := by
  unfold EdgeAuditStore.complete _require_active
  rw [ha]
  simp only
  by_cases hguard : a.active_stage_directory ≠ none ∨
      a.completed_stages ≠ a.planned_skills.length
  · rw [if_pos hguard]
    refine ⟨_, _, dir, rfl, .refl hdir, ?_, fun _ _ => ha, fun m hm => by cases hm⟩
    rw [ha]
    exact .kept (.refl _ _)
  · rw [if_neg hguard]
    have hopen : a.active_stage_directory = none := by
      by_contra hno
      exact hguard (.inl hno)
    have hcount : a.completed_stages = a.planned_skills.length := by
      by_contra hno
      exact hguard (.inr hno)
    obtain ⟨r, st', dir', hr, hw, hact, ht, -, hm⟩ :=
      _write_manifest_spec ha hdir .COMPLETED (py "COMPLETED") none none (io 0)
    rw [hr]
    cases r with
    | error e =>
        refine ⟨_, _, dir', rfl, hw, ?_, fun _ _ => hact, fun m hm => by cases hm⟩
        rw [hact]
        exact .kept (ht _)
    | ok m =>
        obtain ⟨rfl, hmanifest⟩ := hm m rfl
        refine ⟨_, _, dir', rfl, hw, .completed hopen hcount (ht _), (fun e he => by cases he), ?_⟩
        intro m' hm'
        cases hm'
        exact ⟨rfl, hmanifest, rfl, rfl, hopen, hcount, ht _⟩

/-- **One call during a run.** -/
theorem step_advances (ha : st._active = some a) (hdir : st.dirs a.run_id = some dir)
    (c : Call × Io) : Advances st a dir c.1 (st.step c).2 := by
  obtain ⟨c, io⟩ := c
  cases c with
  | begin run_id planned_skills => exact begin_advances ha hdir run_id planned_skills io
  | set_pipeline_state state => exact set_pipeline_state_advances ha hdir state io
  | start_stage index skill trial_id => exact start_stage_advances ha hdir index skill trial_id io
  | record_rollout row => exact record_rollout_advances ha hdir row io
  | complete_stage completion => exact complete_stage_advances ha hdir completion io
  | fail state error_code message =>
      obtain ⟨r, st', dir', hr, hw, hstep, -, -⟩ := fail_spec ha hdir state error_code message io
      show Advances st a dir _ (st.fail state error_code message io).2
      rw [hr]
      exact ⟨dir', hw, hstep⟩
  | complete =>
      obtain ⟨r, st', dir', hr, hw, hstep, -, -⟩ := complete_spec ha hdir io
      show Advances st a dir _ (st.complete io).2
      rw [hr]
      exact ⟨dir', hw, hstep⟩

end Operations

/-! ## §3. Between runs. -/

/-- What a call can make of a store without an active run: directories that
exist stay as they are, and a run begins in one that did not. -/
inductive IdleStep (st : EdgeAuditStore) : EdgeAuditStore → Prop
  | idle {st'} : st'._active = none → (∀ d, (st.dirs d).isSome = true → st'.dirs d = st.dirs d) →
      IdleStep st st'
  | begun {run_id planned_skills dir st'} : st.dirs run_id = none → Writes st run_id dir st' →
      st'._active = some { run_id := run_id, planned_skills := planned_skills } →
      IdleStep st st'

/-- A call that leaves a store without a run alone. -/
theorem IdleStep.same {st : EdgeAuditStore} (h : st._active = none) : IdleStep st st :=
  .idle h fun _ _ => rfl

/-- Making the directory of one run leaves the others. -/
theorem mkdir_other (st : EdgeAuditStore) {run_id d : PyStr} (h : d ≠ run_id) :
    (st.mkdir run_id).dirs d = st.dirs d := by
  show (if d = run_id then _ else _) = _
  rw [if_neg h]

/-- The directory of a new run is empty. -/
theorem mkdir_self (st : EdgeAuditStore) (run_id : PyStr) :
    (st.mkdir run_id).dirs run_id = some {} := by
  show (if run_id = run_id then some ({} : RunDir) else _) = _
  rw [if_pos rfl]

/-- The write of `begin`: the run is active from then on, also if the write raises. -/
theorem beginRun_spec {st : EdgeAuditStore} {run_id : PyStr} {dir : RunDir}
    (hdir : st.dirs run_id = some dir) (planned_skills : List PyStr) (w : WriteOutcome) :
    ∃ dir', Writes st run_id dir' (st.beginRun run_id planned_skills w).2 ∧
      (st.beginRun run_id planned_skills w).2._active
        = some { run_id := run_id, planned_skills := planned_skills } := by
  generalize ha : ({ run_id := run_id, planned_skills := planned_skills } : ActiveEdgeRun) = a
  generalize hst₁ : ({ st with _active := some a } : EdgeAuditStore) = st₁
  have hrun : a.run_id = run_id := by rw [← ha]
  have ha₁ : st₁._active = some a := by rw [← hst₁]
  have hdir₁ : st₁.dirs a.run_id = some dir := by
    rw [← hst₁, hrun]
    exact hdir
  obtain ⟨r, st', dir', hr, hw, hact, -, -, -⟩ :=
    _write_manifest_spec ha₁ hdir₁ .ACTIVE (py "CREATED") none none w
  have hst : (st.beginRun run_id planned_skills w).2 = st' := by
    unfold beginRun
    simp only [ha, hst₁, hr]
    cases r <;> rfl
  rw [hst]
  rw [hrun, ← hst₁] at hw
  exact ⟨dir', hw, hact⟩

/-- `begin` in a store without a run: refused, or a run begins in a directory that was not
there. -/
theorem begin_idle {st : EdgeAuditStore} (h : st._active = none) (run_id : PyStr)
    (planned_skills : List PyStr) (io : Io) :
    IdleStep st (st.begin run_id planned_skills io).2 := by
  unfold EdgeAuditStore.begin
  split
  · exact .same h
  · rw [h]
    simp only
    cases hdir : st.dirs run_id with
    | some dir => exact .same h
    | none =>
        simp only [Option.isSome_none, Bool.false_eq_true, if_false]
        have hother : ∀ d, (st.dirs d).isSome = true → d ≠ run_id := by
          rintro d hd rfl
          rw [hdir] at hd
          cases hd
        cases io 0 with
        | raised e applied =>
            cases applied with
            | false => exact .same h
            | true => exact .idle h fun d hd => mkdir_other st (hother d hd)
        | done =>
            obtain ⟨dir', hw, hact⟩ :=
              beginRun_spec (mkdir_self st run_id) planned_skills (io 1)
            exact .begun hdir ⟨hw.1, fun d hd => (hw.2 d hd).trans (mkdir_other st hd)⟩ hact

/-- Without an active run every operation but `begin` is refused. -/
theorem step_refused {st : EdgeAuditStore} (h : st._active = none) {c : Call} (io : Io)
    (hc : ∀ run_id planned_skills, c ≠ .begin run_id planned_skills) :
    (st.step (c, io)).2 = st := by
  have hactive : st._require_active = .error (fault .STATE_REJECTED "no active edge run") := by
    unfold _require_active
    rw [h]
  have hstage : st._require_stage = .error (fault .STATE_REJECTED "no active edge run") := by
    unfold _require_stage
    rw [hactive]
  cases c with
  | begin run_id planned_skills => exact absurd rfl (hc run_id planned_skills)
  | set_pipeline_state => simp [step, outcome, EdgeAuditStore.set_pipeline_state, hactive]
  | start_stage => simp [step, outcome, EdgeAuditStore.start_stage, hactive]
  | record_rollout => simp [step, outcome, EdgeAuditStore.record_rollout, hstage]
  | complete_stage =>
      simp only [step, outcome, EdgeAuditStore.complete_stage, hstage]
      split <;> rfl
  | fail => simp [step, outcome, EdgeAuditStore.fail, hactive]
  | complete => simp [step, outcome, EdgeAuditStore.complete, hactive]

/-- **One call between runs.** -/
theorem step_idle {st : EdgeAuditStore} (h : st._active = none) (c : Call × Io) :
    IdleStep st (st.step c).2 := by
  obtain ⟨c, io⟩ := c
  by_cases hc : ∃ run_id planned_skills, c = .begin run_id planned_skills
  · obtain ⟨run_id, planned_skills, rfl⟩ := hc
    exact begin_idle h run_id planned_skills io
  · rw [step_refused h io fun run_id planned_skills heq => hc ⟨_, _, heq⟩]
    exact .same h

/-! ## §4. The invariant. -/

/-- Where the active run stands: `records` are the completions so far. -/
structure Progress (a : ActiveEdgeRun) (dir : RunDir) (history : List StageEvent)
    (records : List StageCompletion) : Prop where
  count : records.length = a.completed_stages
  bound : a.completed_stages ≤ a.planned_skills.length
  evidence : ∀ i skill c, a.planned_skills[i]? = some skill → records[i]? = some c →
    Shows dir (stageDirectory i skill) c
  /-- Between stages the history is complete, unless the directory of the next
  stage is already taken: then that stage can never be opened. -/
  between : a.active_stage_directory = none → history = oneByOne 0 a.planned_skills records ∨
    ∃ skill, a.planned_skills[a.completed_stages]? = some skill ∧
      (dir.stages (stageDirectory a.completed_stages skill)).isSome = true
  within : ∀ directory, a.active_stage_directory = some directory → ∃ skill,
    a.planned_skills[a.completed_stages]? = some skill ∧
    directory = stageDirectory a.completed_stages skill ∧
    (dir.stages directory).isSome = true ∧
    history = oneByOne 0 a.planned_skills records ++ [.opened directory] ∧
    ∀ i s, i < a.completed_stages → a.planned_skills[i]? = some s →
      stageDirectory i s ≠ directory

/-- A run that begins. -/
theorem Progress.begun (run_id : PyStr) (planned_skills : List PyStr) (dir : RunDir) :
    Progress { run_id := run_id, planned_skills := planned_skills } dir [] [] where
  count := rfl
  bound := Nat.zero_le _
  evidence _ _ _ _ h := by cases h
  between _ := .inl (by cases planned_skills <;> rfl)
  within _ h := by cases h

section Progress

variable {a : ActiveEdgeRun} {dir dir' : RunDir} {history : List StageEvent}
  {records : List StageCompletion}

/-- The evidence of the completed stages is not touched. -/
theorem Progress.shows (h : Progress a dir history records)
    (ht : Touches a.active_stage_directory dir dir') {i : Nat} {skill : PyStr}
    {c : StageCompletion} (hskill : a.planned_skills[i]? = some skill)
    (hc : records[i]? = some c) : Shows dir' (stageDirectory i skill) c := by
  obtain ⟨hcompleted, d, hd, hev⟩ := h.evidence i skill c hskill hc
  have hi : i < a.completed_stages := by
    rw [← h.count]
    exact (List.getElem?_eq_some_iff.mp hc).1
  refine ⟨hcompleted, d, ?_, hev⟩
  rw [ht.other, hd]
  intro hactive
  obtain ⟨-, -, -, -, -, hne⟩ := h.within _ hactive
  exact hne i skill hi hskill rfl

/-- A write to the open stage leaves what the committed ones show. -/
theorem Progress.kept (h : Progress a dir history records)
    (ht : Touches a.active_stage_directory dir dir') : Progress a dir' history records where
  count := h.count
  bound := h.bound
  evidence _ _ _ hskill hc := h.shows ht hskill hc
  between hnone := by
    rcases h.between hnone with hh | ⟨skill, hskill, hex⟩
    · exact .inl hh
    · refine .inr ⟨skill, hskill, ?_⟩
      rw [ht.exist]
      exact hex
  within directory hopen := by
    obtain ⟨skill, hskill, hname, hex, hh, hne⟩ := h.within directory hopen
    refine ⟨skill, hskill, hname, ?_, hh, hne⟩
    rw [ht.exist]
    exact hex

/-- A directory made for the next stage is not one of the stages completed. -/
theorem Progress.fresh (h : Progress a dir history records) {skill : PyStr}
    (hnew : dir.stages (stageDirectory a.completed_stages skill) = none) {i : Nat} {s : PyStr}
    (hi : i < a.completed_stages) (hs : a.planned_skills[i]? = some s) :
    stageDirectory i s ≠ stageDirectory a.completed_stages skill := by
  intro heq
  have hi' : i < records.length := by
    rw [h.count]
    exact hi
  obtain ⟨-, d, hd, -⟩ := h.evidence i s _ hs (List.getElem?_eq_getElem hi')
  rw [heq, hnew] at hd
  cases hd

/-- … so making it leaves their evidence alone. -/
theorem Progress.shows_addStage (h : Progress a dir history records) {skill : PyStr}
    (hnew : dir.stages (stageDirectory a.completed_stages skill) = none) {i : Nat} {s : PyStr}
    {c : StageCompletion} (hs : a.planned_skills[i]? = some s) (hc : records[i]? = some c) :
    Shows (addStage (stageDirectory a.completed_stages skill) dir) (stageDirectory i s) c := by
  obtain ⟨hcompleted, d, hd, hev⟩ := h.evidence i s c hs hc
  have hi : i < a.completed_stages := by
    rw [← h.count]
    exact (List.getElem?_eq_some_iff.mp hc).1
  refine ⟨hcompleted, d, ?_, hev⟩
  rw [addStage_other (h.fresh hnew hi hs), hd]

/-- A directory that was made for the next stage, and not opened, leaves the committed ones
as they are. -/
theorem Progress.left (h : Progress a dir history records) {skill : PyStr}
    (hopen : a.active_stage_directory = none)
    (hskill : a.planned_skills[a.completed_stages]? = some skill)
    (hnew : dir.stages (stageDirectory a.completed_stages skill) = none) :
    Progress a (addStage (stageDirectory a.completed_stages skill) dir) history records where
  count := h.count
  bound := h.bound
  evidence _ _ _ hs hc := h.shows_addStage hnew hs hc
  between _ := .inr ⟨skill, hskill, by rw [addStage_self]; rfl⟩
  within directory hd := by
    rw [hopen] at hd
    cases hd

/-- The next stage is open. -/
theorem Progress.opened (h : Progress a dir history records) {skill : PyStr}
    (hopen : a.active_stage_directory = none)
    (hskill : a.planned_skills[a.completed_stages]? = some skill)
    (hnew : dir.stages (stageDirectory a.completed_stages skill) = none)
    (ht : Touches (some (stageDirectory a.completed_stages skill))
      (addStage (stageDirectory a.completed_stages skill) dir) dir') :
    Progress { a with active_stage_directory := some (stageDirectory a.completed_stages skill) }
      dir' (history ++ [.opened (stageDirectory a.completed_stages skill)]) records where
  count := h.count
  bound := h.bound
  evidence i s c hs hc := by
    obtain ⟨hcompleted, d, hd, hev⟩ := h.shows_addStage hnew hs hc
    have hi : i < a.completed_stages := by
      rw [← h.count]
      exact (List.getElem?_eq_some_iff.mp hc).1
    refine ⟨hcompleted, d, ?_, hev⟩
    rw [ht.other, hd]
    intro heq
    exact h.fresh hnew hi hs (Option.some.inj heq).symm
  between hd := by cases hd
  within directory hd := by
    cases hd
    have hhistory : history = oneByOne 0 a.planned_skills records := by
      rcases h.between hopen with hh | ⟨skill', hskill', hex⟩
      · exact hh
      · cases hskill.symm.trans hskill'
        rw [hnew] at hex
        cases hex
    refine ⟨skill, hskill, rfl, ?_, by rw [hhistory], fun i s hi hs => h.fresh hnew hi hs⟩
    rw [ht.exist, addStage_self]
    rfl

/-- The open stage is committed, with the result it shows. -/
theorem Progress.committed (h : Progress a dir history records) {directory : PyStr}
    {c : StageCompletion} (hopen : a.active_stage_directory = some directory)
    (ht : Touches (some directory) dir dir')
    (hshows : (dir.stages directory).isSome = true → Shows dir' directory c) :
    Progress { a with completed_stages := a.completed_stages + 1, active_stage_directory := none }
      dir' (history ++ [.committed a.completed_stages c]) (records ++ [c]) := by
  obtain ⟨skill, hskill, rfl, hex, hhistory, -⟩ := h.within directory hopen
  have hlt : a.completed_stages < a.planned_skills.length :=
    (List.getElem?_eq_some_iff.mp hskill).1
  refine ⟨?_, hlt, ?_, fun _ => .inl ?_, fun d hd => by cases hd⟩
  · rw [List.length_append, h.count]
    rfl
  · intro i s c' hs hc'
    by_cases hi : i < records.length
    · rw [List.getElem?_append_left hi] at hc'
      exact h.shows (by rw [hopen]; exact ht) hs hc'
    · -- the stage just completed
      have hlen : i < records.length + 1 := by
        have := (List.getElem?_eq_some_iff.mp hc').1
        simpa using this
      have hik : i = a.completed_stages := by
        rw [← h.count]
        omega
      rw [List.getElem?_append_right (by omega), hik, h.count, Nat.sub_self] at hc'
      cases hc'
      rw [hik] at hs
      cases hskill.symm.trans hs
      rw [hik]
      exact hshows hex
  · rw [oneByOne_snoc c (by rw [h.count]; exact hskill), hhistory, h.count]
    simp

/-- The open stage is given up. -/
theorem Progress.closed (h : Progress a dir history records) {directory : PyStr}
    (hopen : a.active_stage_directory = some directory) (ht : Touches (some directory) dir dir') :
    Progress { a with active_stage_directory := none } dir' history records where
  count := h.count
  bound := h.bound
  evidence i s c hs hc := h.shows (by rw [hopen]; exact ht) hs hc
  between _ := by
    obtain ⟨skill, hskill, rfl, hex, -⟩ := h.within directory hopen
    refine .inr ⟨skill, hskill, ?_⟩
    rw [ht.exist]
    exact hex
  within d hd := by cases hd

end Progress

/-- The store and the history agree about the active run. -/
def Tracks (w : Watched) : Prop :=
  ∀ a, w.store._active = some a → ∃ dir records, w.store.dirs a.run_id = some dir ∧
    Progress a dir w.history records

/-- A call that leaves the counters of the run is no event of a stage. -/
theorem stageEvent_same (c : Call) (a : ActiveEdgeRun) : stageEvent c a a = [] := by
  unfold stageEvent
  cases a.active_stage_directory <;> cases c <;> simp

/-- **Every call keeps the invariant.** -/
theorem Tracks.watch {w : Watched} (h : Tracks w) (c : Call × Io) : Tracks (watch w c).2 := by
  intro a' ha'
  show ∃ dir records, (w.store.step c).2.dirs a'.run_id = some dir ∧
    Progress a' dir (historyAfter w.history c.1 w.store._active (w.store.step c).2._active) records
  have ha' : (w.store.step c).2._active = some a' := ha'
  rw [ha']
  cases ha : w.store._active with
  | none =>
      cases step_idle ha c with
      | idle hnone =>
          rw [hnone] at ha'
          cases ha'
      | begun hnew hw hact =>
          rw [hact] at ha'
          cases ha'
          exact ⟨_, [], hw.1, .begun _ _ _⟩
  | some a =>
      obtain ⟨dir, records, hdir, hprogress⟩ := h a ha
      obtain ⟨dir', hw, hstep⟩ := step_advances ha hdir c
      rw [ha'] at hstep
      show ∃ dir records, _ ∧ Progress a' dir (w.history ++ stageEvent c.1 a a') records
      generalize hc : c.1 = call at hstep
      cases hstep with
      | kept ht =>
          rw [stageEvent_same, List.append_nil]
          exact ⟨dir', records, hw.1, hprogress.kept ht⟩
      | left hopen hskill hnew =>
          rw [stageEvent_same, List.append_nil]
          exact ⟨_, records, hw.1, hprogress.left hopen hskill hnew⟩
      | opened hopen hskill hnew ht =>
          refine ⟨dir', records, hw.1, ?_⟩
          unfold stageEvent
          rw [hopen]
          exact hprogress.opened hopen hskill hnew ht
      | @committed completion _ _ hopen hcompleted ht hshows =>
          refine ⟨dir', records ++ [completion], hw.1, ?_⟩
          unfold stageEvent
          rw [hopen]
          simp only [if_true]
          exact hprogress.committed hopen ht hshows
      | closed hopen ht =>
          refine ⟨dir', records, hw.1, ?_⟩
          unfold stageEvent
          rw [hopen]
          simp only [List.append_nil]
          exact hprogress.closed hopen ht

/-- The invariant after any calls on a new store. -/
theorem tracks_watched (dirs : PyStr → Option RunDir) (calls : List (Call × Io)) :
    Tracks (watched dirs calls) := by
  refine Mealy.after_invariant watch (fun w c h => h.watch c) ?_ calls
  intro a ha
  cases ha

/-! ## §5. Runs that are over. -/

/-- The run in this directory is over, and the active run, if any, has a
directory of its own. -/
structure Over (run_id : PyStr) (dir : RunDir) (st : EdgeAuditStore) : Prop where
  stays : st.dirs run_id = some dir
  exist : ∀ a, st._active = some a → (st.dirs a.run_id).isSome = true
  other : ∀ a, st._active = some a → a.run_id ≠ run_id

/-- A store without a run has none in the directory of a run that is over. -/
theorem Over.of_none {run_id : PyStr} {dir : RunDir} {st : EdgeAuditStore}
    (hdir : st.dirs run_id = some dir) (h : st._active = none) : Over run_id dir st where
  stays := hdir
  exist a ha := by
    rw [h] at ha
    cases ha
  other a ha := by
    rw [h] at ha
    cases ha

/-- No call changes the directory of a run that is over. -/
theorem Over.step {run_id : PyStr} {dir : RunDir} {st : EdgeAuditStore} (h : Over run_id dir st)
    (c : Call × Io) : Over run_id dir (st.step c).2 := by
  cases ha : st._active with
  | none =>
      cases step_idle ha c with
      | idle hnone hkeep =>
          exact .of_none ((hkeep run_id (by rw [h.stays]; rfl)).trans h.stays) hnone
      | @begun begun _ _ _ hnew hw hact =>
          have hne : run_id ≠ begun := by
            rintro rfl
            cases hnew.symm.trans h.stays
          refine ⟨(hw.2 run_id hne).trans h.stays, ?_, ?_⟩
          · intro a ha'
            cases hact.symm.trans ha'
            rw [hw.1]
            rfl
          · intro a ha'
            cases hact.symm.trans ha'
            exact hne.symm
  | some a =>
      obtain ⟨dir₀, hdir₀⟩ := Option.isSome_iff_exists.mp (h.exist a ha)
      obtain ⟨dir', hw, hstep⟩ := step_advances ha hdir₀ c
      have hsame : ∀ a', (st.step c).2._active = some a' → a'.run_id = a.run_id := by
        intro a' ha'
        rw [ha'] at hstep
        generalize c.1 = call at hstep
        cases hstep <;> rfl
      refine ⟨(hw.2 run_id (h.other a ha).symm).trans h.stays, ?_, ?_⟩
      · intro a' ha'
        rw [hsame a' ha', hw.1]
        rfl
      · intro a' ha'
        rw [hsame a' ha']
        exact h.other a ha

/-- Every planned stage shows the evidence of a completion, and the history is
that of the stages completed in this order, one at a time. -/
def CompletedInOrder (planned_skills : List PyStr) (dir : RunDir) (history : List StageEvent) :
    Prop :=
  ∃ records : List StageCompletion, records.length = planned_skills.length ∧
    history = oneByOne 0 planned_skills records ∧
    ∀ i skill, planned_skills[i]? = some skill →
      ∃ c, records[i]? = some c ∧ Shows dir (stageDirectory i skill) c

/-- The operations that end a run. -/
def Call.ends : Call → Bool
  | .fail .. | .complete => true
  | _ => false

/-- A call that ends a run returns only if there is one, and leaves none. -/
theorem ends_ok {st : EdgeAuditStore} {c : Call} {io : Io} {r : Returned} (hends : c.ends = true)
    (h : (st.step (c, io)).1 = .ok r)
    (hexist : ∀ a, st._active = some a → (st.dirs a.run_id).isSome = true) :
    ∃ a dir, st._active = some a ∧ Over a.run_id dir (st.step (c, io)).2 := by
  cases ha : st._active with
  | none =>
      cases c with
      | fail state error_code message =>
          simp [step, outcome, EdgeAuditStore.fail, _require_active, ha, Except.map] at h
      | complete => simp [step, outcome, EdgeAuditStore.complete, _require_active, ha, Except.map] at h
      | _ => cases hends
  | some a =>
      obtain ⟨dir, hdir⟩ := Option.isSome_iff_exists.mp (hexist a ha)
      cases c with
      | fail state error_code message =>
          obtain ⟨out, st', dir', hr, hw, -, -, hok⟩ := fail_spec ha hdir state error_code message io
          have h : (st.fail state error_code message io).1.map Returned.manifest = .ok r := h
          rw [hr] at h
          cases out with
          | error e => cases h
          | ok m =>
              refine ⟨a, dir', rfl, ?_⟩
              show Over a.run_id dir' (st.fail state error_code message io).2
              rw [hr]
              exact .of_none hw.1 (hok m rfl).1
      | complete =>
          obtain ⟨out, st', dir', hr, hw, -, -, hok⟩ := complete_spec ha hdir io
          have h : (st.complete io).1.map Returned.manifest = .ok r := h
          rw [hr] at h
          cases out with
          | error e => cases h
          | ok m =>
              refine ⟨a, dir', rfl, ?_⟩
              show Over a.run_id dir' (st.complete io).2
              rw [hr]
              exact .of_none hw.1 (hok m rfl).1
      | _ => cases hends

/-- **What the evidence of a run proves.**  After any calls on a store: if
`complete` returns, every planned stage has the evidence of a completion, and
the stages were completed in the planned order, one at a time; and once
`complete` or `fail` has returned, no later call changes a file of the run. -/
theorem run_evidence (dirs : PyStr → Option RunDir) (calls : List (Call × Io)) (io : Io) :
    (∀ m, ((watched dirs calls).store.step (.complete, io)).1 = .ok m →
      ∃ a dir, (watched dirs calls).store._active = some a ∧
        ((watched dirs calls).store.step (.complete, io)).2.dirs a.run_id = some dir ∧
        CompletedInOrder a.planned_skills dir (watched dirs calls).history) ∧
    ∀ c r, c.ends = true → ((watched dirs calls).store.step (c, io)).1 = .ok r →
      ∃ a, (watched dirs calls).store._active = some a ∧ ∀ later,
        (Mealy.after step ((watched dirs calls).store.step (c, io)).2 later).dirs a.run_id
          = ((watched dirs calls).store.step (c, io)).2.dirs a.run_id := by
  have htracks := tracks_watched dirs calls
  generalize watched dirs calls = w at htracks ⊢
  have hexist : ∀ a, w.store._active = some a → (w.store.dirs a.run_id).isSome = true := by
    intro a ha
    obtain ⟨dir, -, hdir, -⟩ := htracks a ha
    rw [hdir]
    rfl
  constructor
  · intro m h
    obtain ⟨a, -, ha, -⟩ := ends_ok rfl h hexist
    obtain ⟨dir, records, hdir, hprogress⟩ := htracks a ha
    obtain ⟨out, st', dir', hr, hwrites, -, -, hok⟩ := complete_spec ha hdir io
    have h : (w.store.complete io).1.map Returned.manifest = .ok m := h
    have hst : (w.store.step (.complete, io)).2 = st' := by
      show (w.store.complete io).2 = st'
      rw [hr]
    rw [hr] at h
    rw [hst]
    cases out with
    | error e => cases h
    | ok manifest =>
        obtain ⟨-, -, -, -, hopen, hcount, ht⟩ := hok manifest rfl
        refine ⟨a, dir', ha, hwrites.1, records, hprogress.count.trans hcount, ?_, ?_⟩
        · rcases hprogress.between hopen with hh | ⟨skill, hskill, -⟩
          · exact hh
          · -- every planned stage is counted, so there is no next one
            rw [hcount, List.getElem?_eq_none (Nat.le_refl _)] at hskill
            cases hskill
        · intro i skill hskill
          have hi : i < records.length := by
            rw [hprogress.count, hcount]
            exact (List.getElem?_eq_some_iff.mp hskill).1
          have hc := List.getElem?_eq_getElem hi
          exact ⟨_, hc, hprogress.shows (by rw [hopen]; exact ht) hskill hc⟩
  · intro c r hends h
    obtain ⟨a, dir, ha, hover⟩ := ends_ok hends h hexist
    refine ⟨a, ha, fun later => ?_⟩
    have hlater := Mealy.after_invariant step
      (fun st c (h : Over a.run_id dir st) => h.step c) hover later
    rw [hlater.stays, hover.stays]

/-- The completion of a stage whose evidence is complete. -/
def sampleCompletion : StageCompletion where
  evidence :=
    { rollout_exit_code := some 0, rollout_end_reason := some (py "joint_rest_detected"),
      rollout_end_reason_approved := true, joint_gate := .PASSED, checker := .NOT_REQUIRED,
      server_audit := .PASSED, edge_audit := .PASSED }
  gate := ⟨true, 4, .fin 0, .fin 0, py "joint_rest"⟩
  checker := ⟨true, .fin 1, .fin 0, py "not_required", py "checker_not_required"⟩
  server_summary := []

/-- Two stages; the first evidence of the second one is on disk although its
write raises, and is written again. -/
def twoStageCalls : List (Call × Io) :=
  [(.begin (py "run") [py "open_door", py "close_door"], Io.clean),
   (.start_stage 0 (py "open_door") (py "run_0_open_door"), Io.clean),
   (.record_rollout [], Io.clean), (.complete_stage sampleCompletion, Io.clean),
   (.start_stage 1 (py "close_door") (py "run_1_close_door"), Io.clean),
   (.complete_stage sampleCompletion, fun _ => .raised .OSError true),
   (.complete_stage sampleCompletion, Io.clean)]

theorem run_evidence_two_stages : ∃ a dir,
    (watched (fun _ => none) twoStageCalls).store._active = some a ∧
    ((watched (fun _ => none) twoStageCalls).store.step (.complete, Io.clean)).2.dirs a.run_id
      = some dir ∧
    CompletedInOrder a.planned_skills dir (watched (fun _ => none) twoStageCalls).history := by
  have h : ((watched (fun _ => none) twoStageCalls).store.step (.complete, Io.clean)).1.isOk
      = true := by decide +kernel
  obtain ⟨m, hm⟩ := exists_of_isOk h
  exact (run_evidence (fun _ => none) twoStageCalls Io.clean).1 m hm

end EdgeAuditStore

end OvenRuntime
