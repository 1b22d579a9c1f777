/-
  OvenRuntime.Server.AuditRules
  ─────────────────────────────
  What each operation of the trial store can do, one rule per operation:

    * `begin_cases`          — nothing is active and the directory is new, or it raises;
    * `record_request_active`— the counters of the active trial, nothing else;
    * `end_cases`            — the trial is committed and over, or it raises and goes on;
    * `_terminate_cases`     — likewise for `abort` and `mark_ambiguous`.

  Directories are never removed (`Grows`), which is what makes a trial id
  unusable after its first `begin`.
-/
import OvenRuntime.Server.Audit

namespace OvenRuntime

namespace TrialAuditStore

/-! ## §1. Directories are never removed. -/

/-- Every directory of `st` is still there in `st'`. -/
def Grows (st st' : TrialAuditStore) : Prop :=
  ∀ d, (st.dirs d).isSome = true → (st'.dirs d).isSome = true

/-- No directory is lost by doing nothing. -/
theorem Grows.refl (st : TrialAuditStore) : Grows st st := fun _ h => h

/-- Nor by two operations one after the other. -/
theorem Grows.trans {st st' st'' : TrialAuditStore} (h : Grows st st') (h' : Grows st' st'') :
    Grows st st'' := fun d hd => h' d (h d hd)

/-- Only the directories count. -/
theorem Grows.of_dirs {st st' : TrialAuditStore} (h : st'.dirs = st.dirs) : Grows st st' := by
  intro d hd
  rw [h]
  exact hd

/-- A write to a file of a directory leaves the directory there. -/
theorem Grows.writeIf (st : TrialAuditStore) (name : PyStr) (b : Bool)
    (f : TrialDir → TrialDir) : Grows st (st.writeIf name b f) := by
  intro d hd
  rw [writeIf_isSome]
  exact hd

/-- A directory that is made adds to those that are there. -/
theorem Grows.mkdir (st : TrialAuditStore) (trial_id : PyStr) :
    Grows st (st.mkdir trial_id) := by
  intro d hd
  unfold TrialAuditStore.mkdir
  by_cases h : d = trial_id
  · simp [h]
  · simpa [h] using hd

/-! ## §2. `begin`. -/

/-- The write of `begin`: it raises and no trial becomes active, or the new trial does. -/
theorem beginWrite_cases (st : TrialAuditStore) (trial_id skill : PyStr) (generation : Nat)
    (root_seed : Int) (w : WriteOutcome) :
    Grows st (st.beginWrite trial_id skill generation root_seed w).2 ∧
    ((∃ e, (st.beginWrite trial_id skill generation root_seed w).1 = .error e ∧
        (st.beginWrite trial_id skill generation root_seed w).2.active = st.active) ∨
     (∃ a : ActiveTrial, a = { trial_id, skill, generation, root_seed } ∧
        (st.beginWrite trial_id skill generation root_seed w).1 = .ok a ∧
        (st.beginWrite trial_id skill generation root_seed w).2.active = some a ∧
        trial_id.encodable = true ∧ skill.encodable = true)) := by
  unfold beginWrite
  simp only
  cases hj : _atomic_json w (beginManifest trial_id skill generation root_seed).encodable with
  | mk raised replaced =>
      cases raised with
      | some e => exact ⟨Grows.writeIf _ _ _ _, .inl ⟨_, rfl, by simp⟩⟩
      | none =>
          obtain ⟨-, henc, -⟩ := _atomic_json_ok hj
          refine ⟨(Grows.writeIf st trial_id replaced _).trans (Grows.of_dirs rfl),
            .inr ⟨_, rfl, rfl, rfl, ?_⟩⟩
          simpa [beginManifest, TrialRecord.encodable] using henc

/-- **`begin`** either raises and leaves the active trial alone, or it found
no active trial and no directory, and both are there now. -/
theorem begin_cases (st : TrialAuditStore) (trial_id skill : PyStr) (generation : Nat)
    (root_seed : Int) (io : Io) :
    Grows st (st.begin trial_id skill generation root_seed io).2 ∧
    ((∃ e, (st.begin trial_id skill generation root_seed io).1 = .error e ∧
        (st.begin trial_id skill generation root_seed io).2.active = st.active) ∨
     (∃ a : ActiveTrial, a = { trial_id, skill, generation, root_seed } ∧
        (st.begin trial_id skill generation root_seed io).1 = .ok a ∧
        (st.begin trial_id skill generation root_seed io).2.active = some a ∧
        st.active = none ∧ (st.dirs trial_id).isSome = false ∧
        ((st.begin trial_id skill generation root_seed io).2.dirs trial_id).isSome = true ∧
        trial_id.encodable = true ∧ skill.encodable = true)) := by
  unfold TrialAuditStore.begin
  cases hact : st.active with
  | some a => exact ⟨Grows.refl st, .inl ⟨_, rfl, hact⟩⟩
  | none =>
      by_cases hdir : (st.dirs trial_id).isSome = true
      · simp only [hdir, if_true]
        exact ⟨Grows.refl st, .inl ⟨_, rfl, hact⟩⟩
      · simp only [hdir, if_false, Bool.false_eq_true]
        -- the directory is made here, whatever becomes of the manifest
        cases hio : io 0 with
        | raised e applied =>
            cases applied with
            | true => exact ⟨Grows.mkdir st trial_id, .inl ⟨_, rfl, hact⟩⟩
            | false => exact ⟨Grows.refl st, .inl ⟨_, rfl, hact⟩⟩
        | done =>
            simp only
            obtain ⟨hg, hc⟩ :=
              beginWrite_cases (st.mkdir trial_id) trial_id skill generation root_seed (io 1)
            refine ⟨(Grows.mkdir st trial_id).trans hg, ?_⟩
            rcases hc with ⟨e, he, ha⟩ | ⟨a, ha, hr, hs, henc⟩
            · exact .inl ⟨e, he, by rw [ha]; exact hact⟩
            · refine .inr ⟨a, ha, hr, hs, trivial, by simp, ?_, henc⟩
              exact hg trial_id (by simp)

/-! ## §3. `record_request`. -/

/-- Writing the first chunk does not touch the trial in memory. -/
@[simp] theorem writeFirstChunk_active (nx : Numerics) (st : TrialAuditStore)
    (active : ActiveTrial) (row : RequestRow) (actions : Value) (io : Io) :
    (st.writeFirstChunk nx active row actions io).2.active = st.active := by
  unfold writeFirstChunk
  split
  · rfl
  · simp only
    split <;> simp

/-- Nor does it remove a directory. -/
theorem writeFirstChunk_grows (nx : Numerics) (st : TrialAuditStore)
    (active : ActiveTrial) (row : RequestRow) (actions : Value) (io : Io) :
    Grows st (st.writeFirstChunk nx active row actions io).2 := by
  unfold writeFirstChunk
  split
  · exact Grows.refl st
  · simp only
    split
    · exact Grows.writeIf _ _ _ _
    · exact (Grows.writeIf _ _ _ _).trans (Grows.writeIf _ _ _ _)

/-- Writing the row of a request does neither, wherever it raises. -/
theorem writeRow_frame (nx : Numerics) (st : TrialAuditStore) (active : ActiveTrial)
    (row : RequestRow) (actions : Value) (observation : Dict) (io : Io) :
    (st.writeRow nx active row actions observation io).2.active = st.active ∧
    Grows st (st.writeRow nx active row actions observation io).2 := by
  unfold writeRow
  split
  · exact ⟨rfl, Grows.refl st⟩
  · simp only
    by_cases hfirst : row.request_kind = py "infer" ∧ active.first_action_hash = none
    · simp only [hfirst, and_self, if_true]
      have hg := writeFirstChunk_grows nx st active
      split
      · exact ⟨by simp, hg _ _ _⟩
      · exact ⟨by simp, (hg _ _ _).trans (Grows.writeIf _ _ _ _)⟩
    · simp only [hfirst, if_false]
      exact ⟨by simp, Grows.writeIf _ _ _ _⟩

/-- **`record_request`** changes the counters of the active trial at most. -/
theorem record_request_active (nx : Numerics) (st : TrialAuditStore) (row : RequestRow)
    (actions : Value) (observation : Dict) (io : Io) :
    ((st.record_request nx row actions observation io).2.active = st.active ∨
     ∃ a, st.active = some a ∧
       (st.record_request nx row actions observation io).2.active = some (a.counted row)) ∧
    Grows st (st.record_request nx row actions observation io).2 := by
  unfold record_request
  cases hact : st.active with
  | none => exact ⟨.inl hact, Grows.refl st⟩
  | some a =>
      simp only
      obtain ⟨ha, hg⟩ := writeRow_frame nx st a row actions observation io
      split
      · exact ⟨.inl (by rw [ha]; exact hact), hg⟩
      · exact ⟨.inr ⟨a, rfl, rfl⟩, hg.trans (Grows.of_dirs rfl)⟩

/-- Counting a row changes the counter and the hashes of the active trial, not what the
trial is. -/
@[simp] theorem counted_trial_id (a : ActiveTrial) (row : RequestRow) :
    (a.counted row).trial_id = a.trial_id := rfl

@[simp] theorem counted_skill (a : ActiveTrial) (row : RequestRow) :
    (a.counted row).skill = a.skill := rfl

@[simp] theorem counted_generation (a : ActiveTrial) (row : RequestRow) :
    (a.counted row).generation = a.generation := rfl

@[simp] theorem counted_root_seed (a : ActiveTrial) (row : RequestRow) :
    (a.counted row).root_seed = a.root_seed := rfl

/-! ## §4. `end`. -/

/-- **`end`** either raises and leaves the active trial alone, or commits it. -/
theorem end_cases (st : TrialAuditStore) (io : Io) :
    Grows st (st.end io).2 ∧
    ((∃ e, (st.end io).1 = .error e ∧ (st.end io).2.active = st.active) ∨
     (∃ a, st.active = some a ∧ (st.end io).1 = .ok a.summary ∧ (st.end io).2.active = none)) := by
  unfold TrialAuditStore.end
  cases hact : st.active with
  | none => exact ⟨Grows.refl st, .inl ⟨_, rfl, hact⟩⟩
  | some a =>
      simp only
      split
      · exact ⟨Grows.writeIf _ _ _ _, .inl ⟨_, rfl, by simpa using hact⟩⟩
      · have hg : ∀ b b' f f', Grows st ((st.writeIf a.trial_id b f).writeIf a.trial_id b' f') :=
          fun _ _ _ _ => (Grows.writeIf _ _ _ _).trans (Grows.writeIf _ _ _ _)
        split
        · exact ⟨hg _ _ _ _, .inl ⟨_, rfl, by simpa using hact⟩⟩
        · exact ⟨(hg _ _ _ _).trans (Grows.of_dirs rfl), .inr ⟨a, rfl, rfl, rfl⟩⟩

/-- With working files an encodable trial is committed. -/
theorem end_clean {st : TrialAuditStore} {a : ActiveTrial} (hact : st.active = some a)
    (ht : a.trial_id.encodable = true) (hs : a.skill.encodable = true) :
    (st.end Io.clean).1 = .ok a.summary := by
  have henc : a.summary.encodable = true := by
    simp [ActiveTrial.summary, TrialRecord.encodable, ht, hs]
  unfold TrialAuditStore.end
  simp [hact, Io.clean, henc]

/-! ## §5. `abort` and `mark_ambiguous`. -/

/-- **`_terminate`** does nothing without an active trial; with one it either
raises and leaves it alone, or it is over. -/
theorem _terminate_cases (st : TrialAuditStore) (status : TrialStatus) (reason : PyStr)
    (sequence : Option Int) (io : Io) :
    Grows st (st._terminate status reason sequence io).2 ∧
    ((st.active = none ∧ st._terminate status reason sequence io = (.ok none, st)) ∨
     (∃ a, st.active = some a ∧
       ((∃ e, (st._terminate status reason sequence io).1 = .error e ∧
          (st._terminate status reason sequence io).2.active = some a) ∨
        ((st._terminate status reason sequence io).1
            = .ok (some (a.terminated status reason sequence)) ∧
          (st._terminate status reason sequence io).2.active = none)))) := by
  unfold _terminate
  cases hact : st.active with
  | none => exact ⟨Grows.refl st, .inl ⟨rfl, rfl⟩⟩
  | some a =>
      simp only
      split
      · refine ⟨Grows.writeIf _ _ _ _, .inr ⟨a, rfl, .inl ⟨_, rfl, ?_⟩⟩⟩
        simpa using hact
      · exact ⟨(Grows.writeIf _ _ _ _).trans (Grows.of_dirs rfl),
          .inr ⟨a, rfl, .inr ⟨rfl, rfl⟩⟩⟩

/-- A write that takes effect terminates an encodable trial for an encodable
reason. -/
theorem _terminate_done (st : TrialAuditStore) (status : TrialStatus) {reason : PyStr}
    (sequence : Option Int) {io : Io} (hio : io 0 = .done) (hreason : reason.encodable = true)
    (henc : ∀ a, st.active = some a → a.trial_id.encodable = true ∧ a.skill.encodable = true) :
    (st._terminate status reason sequence io).1 =
      .ok (st.active.map fun a => a.terminated status reason sequence) := by
  unfold _terminate
  cases hact : st.active with
  | none => rfl
  | some a =>
      have hrec : (a.terminated status reason sequence).encodable = true := by
        simp [ActiveTrial.terminated, TrialRecord.encodable, henc a hact, hreason]
      simp [hio, hrec]

/-- A raising write raises through `_terminate`, as a fault when it is an
`OSError`. -/
theorem _terminate_raised {st : TrialAuditStore} {a : ActiveTrial} (status : TrialStatus)
    (reason : PyStr) (sequence : Option Int) {io : Io} {e : PyError} {applied : Bool}
    (hact : st.active = some a) (hio : io 0 = .raised e applied) :
    (st._terminate status reason sequence io).1 =
      .error (auditFault "cannot terminate server audit trial" [] e) := by
  unfold _terminate
  simp [hact, hio, _atomic_json]

end TrialAuditStore

end OvenRuntime
