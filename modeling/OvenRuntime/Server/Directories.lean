/-
  OvenRuntime.Server.Directories
  ──────────────────────────────
  Which directories the runtime writes, over whole histories.

  A directory appears when its trial begins, and is written as long as its
  trial is the recorded one.  After that nothing touches it again, and the rows
  in it are never taken back (`directories_over_time`).
-/
import OvenRuntime.Server.Evidence
import OvenRuntime.Server.Undisturbed

namespace OvenRuntime

open TransitionSystem

/-! ## §1. The operations of the store. -/

namespace TrialAuditStore

/-- The directory is there, and its trial is not the recorded one. -/
structure Sealed (st : TrialAuditStore) (name : PyStr) (dir : TrialDir) : Prop where
  stored : st.dirs name = some dir
  inactive : ∀ a, st.active = some a → a.trial_id ≠ name

/-- The recorded trial has a directory. -/
def Housed (st : TrialAuditStore) : Prop :=
  ∀ a, st.active = some a → (st.dirs a.trial_id).isSome = true

/-- The rows of every directory are still there, and others may follow them. -/
def RowsGrow (st st' : TrialAuditStore) : Prop :=
  ∀ name dir, st.dirs name = some dir →
    ∃ dir', st'.dirs name = some dir' ∧ dir.requests <+: dir'.requests

/-- No row is lost by doing nothing. -/
theorem RowsGrow.refl (st : TrialAuditStore) : st.RowsGrow st :=
  fun _ dir h => ⟨dir, h, List.prefix_rfl⟩

/-- Nor by two operations in a row. -/
theorem RowsGrow.trans {st st' st'' : TrialAuditStore} (h : st.RowsGrow st')
    (h' : st'.RowsGrow st'') : st.RowsGrow st'' := by
  intro name dir hd
  obtain ⟨dir', hd', hrows⟩ := h name dir hd
  obtain ⟨dir'', hd'', hrows'⟩ := h' name dir' hd'
  exact ⟨dir'', hd'', hrows.trans hrows'⟩

/-- An operation that keeps all evidence keeps the rows. -/
theorem KeepsEvidence.rowsGrow {st st' : TrialAuditStore} (h : st.KeepsEvidence st') :
    st.RowsGrow st' := by
  intro name dir hd
  obtain ⟨dir', hd', hsame⟩ := h name dir hd
  exact ⟨dir', hd', [], by rw [hsame.requests, List.append_nil]⟩

/-- Writing rows at the end. -/
theorem RowsGrow.writeIf (st : TrialAuditStore) (name : PyStr) (b : Bool)
    {f : TrialDir → TrialDir} (hf : ∀ dir, dir.requests <+: (f dir).requests) :
    st.RowsGrow (st.writeIf name b f) := by
  intro d dir hd
  rw [dirs_writeIf, hd]
  split
  · exact ⟨_, rfl, hf dir⟩
  · exact ⟨dir, rfl, List.prefix_rfl⟩

/-- The first chunk is another file. -/
theorem writeFirstChunk_rowsGrow (nx : Numerics) (st : TrialAuditStore) (a : ActiveTrial)
    (row : RequestRow) (actions : Value) (io : Io) :
    st.RowsGrow (st.writeFirstChunk nx a row actions io).2 := by
  unfold writeFirstChunk
  split
  · exact .refl st
  · simp only
    split
    · exact .writeIf _ _ _ fun _ => List.prefix_rfl
    · refine RowsGrow.trans (RowsGrow.writeIf st a.trial_id _ ?_)
        (RowsGrow.writeIf _ a.trial_id _ ?_)
      · exact fun _ => List.prefix_rfl
      · exact fun _ => List.prefix_rfl

/-- The row of a request is appended behind the others, or is not. -/
theorem writeRow_rowsGrow (nx : Numerics) (st : TrialAuditStore) (a : ActiveTrial)
    (row : RequestRow) (actions : Value) (observation : Dict) (io : Io) :
    st.RowsGrow (st.writeRow nx a row actions observation io).2 := by
  have happend : ∀ (st : TrialAuditStore) (b : Bool) (row : RequestRow),
      st.RowsGrow (st.writeIf a.trial_id b fun d => { d with requests := d.requests ++ [row] }) :=
    fun st b row => .writeIf st a.trial_id b fun _ => List.prefix_append _ _
  unfold writeRow
  split
  · exact .refl st
  · simp only
    by_cases hfirst : row.request_kind = py "infer" ∧ a.first_action_hash = none
    · rw [if_pos hfirst]
      split
      · exact writeFirstChunk_rowsGrow _ _ _ _ _ _
      · exact (writeFirstChunk_rowsGrow _ _ _ _ _ _).trans (happend _ _ _)
    · rw [if_neg hfirst]
      exact happend _ _ _

/-- So `record_request` adds one row at most. -/
theorem record_request_rowsGrow (nx : Numerics) (st : TrialAuditStore) (row : RequestRow)
    (actions : Value) (observation : Dict) (io : Io) :
    st.RowsGrow (st.record_request nx row actions observation io).2 := by
  unfold record_request
  cases st.active with
  | none => exact .refl st
  | some a =>
      simp only
      split
      · exact writeRow_rowsGrow _ _ _ _ _ _ _
      · exact writeRow_rowsGrow _ _ _ _ _ _ _

/-- The directory of another trial. -/
theorem dirs_writeIf_of_ne (st : TrialAuditStore) {name id : PyStr} (h : id ≠ name) (b : Bool)
    (f : TrialDir → TrialDir) : (st.writeIf name b f).dirs id = st.dirs id := by
  rw [dirs_writeIf, if_neg fun hb => h hb.2]

/-- `record_request` writes into the directory of its trial. -/
theorem record_request_dirs_of_ne (nx : Numerics) (st : TrialAuditStore) (row : RequestRow)
    (actions : Value) (observation : Dict) (io : Io) {id : PyStr}
    (h : ∀ a, st.active = some a → id ≠ a.trial_id) :
    (st.record_request nx row actions observation io).2.dirs id = st.dirs id := by
  have hchunk : ∀ (a : ActiveTrial) (row : RequestRow), id ≠ a.trial_id →
      (st.writeFirstChunk nx a row actions io).2.dirs id = st.dirs id := by
    intro a row hne
    unfold writeFirstChunk
    split
    · rfl
    · simp only
      split
      · exact dirs_writeIf_of_ne _ hne _ _
      · exact (dirs_writeIf_of_ne _ hne _ _).trans (dirs_writeIf_of_ne _ hne _ _)
  have hrow : ∀ a : ActiveTrial, id ≠ a.trial_id →
      (st.writeRow nx a row actions observation io).2.dirs id = st.dirs id := by
    intro a hne
    unfold writeRow
    split
    · rfl
    · simp only
      by_cases hfirst : row.request_kind = py "infer" ∧ a.first_action_hash = none
      · rw [if_pos hfirst]
        split
        · exact hchunk a _ hne
        · exact (dirs_writeIf_of_ne _ hne _ _).trans (hchunk a _ hne)
      · rw [if_neg hfirst]
        exact dirs_writeIf_of_ne _ hne _ _
  unfold record_request
  cases hact : st.active with
  | none => rfl
  | some a =>
      simp only
      split
      · exact hrow a (h a hact)
      · exact hrow a (h a hact)

/-- `end` writes into the directory of its trial. -/
theorem end_dirs_of_inactive (st : TrialAuditStore) (io : Io) {id : PyStr}
    (h : ∀ a, st.active = some a → id ≠ a.trial_id) : (st.end io).2.dirs id = st.dirs id := by
  cases hact : st.active with
  | none =>
      unfold TrialAuditStore.end
      rw [hact]
  | some a => exact st.end_dirs_of_ne hact io (h a hact)

/-- Ending a trial writes to the directory of that trial alone. -/
theorem _terminate_dirs_of_inactive (st : TrialAuditStore) (status : TrialStatus) (reason : PyStr)
    (sequence : Option Int) (io : Io) {id : PyStr}
    (h : ∀ a, st.active = some a → id ≠ a.trial_id) :
    (st._terminate status reason sequence io).2.dirs id = st.dirs id := by
  cases hact : st.active with
  | none =>
      unfold _terminate
      rw [hact]
  | some a => rw [_terminate_dirs st hact, dirs_writeIf_of_ne st (h a hact)]

/-- `begin` makes no directory but its own. -/
theorem begin_dirs_of_ne (st : TrialAuditStore) (trial_id skill : PyStr) (generation : Nat)
    (root_seed : Int) (io : Io) {id : PyStr} (h : id ≠ trial_id) :
    (st.begin trial_id skill generation root_seed io).2.dirs id = st.dirs id := by
  have hmade : (st.mkdir trial_id).dirs id = st.dirs id := if_neg h
  unfold TrialAuditStore.begin
  split
  · rfl
  · split
    · rfl
    · split
      · split
        · exact hmade
        · rfl
      · rw [beginWrite_dirs, dirs_writeIf_of_ne _ h]
        exact hmade

end TrialAuditStore

/-! ## §2. Steps. -/

/-- The trial a call is about to begin. -/
def CallState.begins : CallState → Option PyStr
  | .running (.beginAcquire trial_id _) | .running (.beginSection trial_id _) => some trial_id
  | _ => none

/-- A call that is about to begin a trial was made for it. -/
theorem Op.start_begins {nx : Numerics} {op : Op} {name : PyStr}
    (h : (op.start nx).begins = some name) :
    ∃ root_seed, op = .begin_trial (.str name) root_seed := by
  cases op with
  | begin_trial trial_id root_seed =>
      cases trial_id with
      | str trial_id =>
          unfold Op.start at h
          simp only at h
          split_ifs at h
          · cases h
          · split at h
            · cases h
            · cases h
              exact ⟨_, rfl⟩
      | none | bool | int | float | bytes | list | map | ndarray => cases h
  | prepare_skill skill drain_timeout_sec =>
      unfold Op.start at h
      simp only at h
      split_ifs at h <;> cases h
  | infer payload =>
      unfold Op.start at h
      simp only at h
      split at h <;> cases h
  | status | open_session | close_session | end_trial | abort | mark_transport_ambiguous | close =>
      cases h

section Steps

variable {cfg : RuntimeConfig} {nx : Numerics}

/-- **No operation of the store removes or rewrites a row.** -/
theorem StoreStep.rowsGrow {pc : Pc} {st st' : TrialAuditStore} (h : StoreStep nx pc st st') :
    st.RowsGrow st' := by
  cases h with
  | same => exact .refl st
  | begin => exact (st.begin_keeps _ _ _ _ _).1.rowsGrow
  | record => exact st.record_request_rowsGrow _ _ _ _ _
  | «end» => exact (st.end_keeps _).rowsGrow
  | terminate => exact (st._terminate_keeps _ _ _ _).rowsGrow

/-- **A sealed directory stays as it is.** -/
theorem StoreStep.sealed {pc : Pc} {st st' : TrialAuditStore} {name : PyStr} {dir : TrialDir}
    (h : StoreStep nx pc st st') (hsealed : st.Sealed name dir) : st'.Sealed name dir := by
  have hne : ∀ a, st.active = some a → name ≠ a.trial_id :=
    fun a ha => (hsealed.inactive a ha).symm
  cases h with
  | same => exact hsealed
  | @begin trial_id skill generation root_seed io =>
      obtain ⟨-, hcases⟩ := st.begin_cases trial_id skill generation root_seed io
      have hdirs : (st.begin trial_id skill generation root_seed io).2.dirs name = some dir := by
        rcases st.begin_dirs trial_id skill generation root_seed io name with hsame | ⟨hnone, -⟩
        · exact hsame.trans hsealed.stored
        · cases hnone.symm.trans hsealed.stored
      refine ⟨hdirs, ?_⟩
      rcases hcases with ⟨e, -, hact⟩ | ⟨a, rfl, -, hact, -, hnew, -⟩
      · rw [hact]
        exact hsealed.inactive
      · -- the trial that begins has a new directory
        intro a ha
        rw [hact] at ha
        cases ha
        rintro rfl
        rw [hsealed.stored] at hnew
        cases hnew
  | @record inf io =>
      refine ⟨(st.record_request_dirs_of_ne _ _ _ _ _ hne).trans hsealed.stored, ?_⟩
      rcases (st.record_request_active nx inf.row inf.result.actions
        inf.request.observation io).1 with hact | ⟨a, ha, hact⟩
      · rw [hact]
        exact hsealed.inactive
      · intro a' ha'
        rw [hact] at ha'
        cases ha'
        exact hsealed.inactive a ha
  | @«end» io =>
      refine ⟨(st.end_dirs_of_inactive io hne).trans hsealed.stored, ?_⟩
      rcases (st.end_cases io).2 with ⟨e, -, hact⟩ | ⟨a, -, -, hact⟩
      · rw [hact]
        exact hsealed.inactive
      · rw [hact]
        intro a ha
        cases ha
  | @terminate _ _ status reason sequence io =>
      refine ⟨(st._terminate_dirs_of_inactive _ _ _ io hne).trans hsealed.stored, ?_⟩
      obtain ⟨-, hcases⟩ := st._terminate_cases status reason sequence io
      rcases hcases with ⟨-, heq⟩ | ⟨a, ha, ⟨e, -, hact⟩ | ⟨-, hact⟩⟩
      · rw [heq]
        exact hsealed.inactive
      · rw [hact]
        intro a' ha'
        cases ha'
        exact hsealed.inactive a ha
      · rw [hact]
        intro a ha
        cases ha

/-- The recorded trial keeps its directory, and a new one has just got its own. -/
theorem StoreStep.housed {pc : Pc} {st st' : TrialAuditStore} (h : StoreStep nx pc st st')
    (hst : st.Housed) : st'.Housed := by
  have hgrow := h.rowsGrow
  have hkept : st'.active = st.active → st'.Housed := by
    intro hact a ha
    obtain ⟨dir, hd⟩ := Option.isSome_iff_exists.mp (hst a (hact ▸ ha))
    obtain ⟨dir', hd', -⟩ := hgrow _ dir hd
    rw [hd']
    rfl
  cases h with
  | same => exact hst
  | @begin trial_id skill generation root_seed io =>
      obtain ⟨-, hcases⟩ := st.begin_cases trial_id skill generation root_seed io
      rcases hcases with ⟨e, -, hact⟩ | ⟨a, rfl, -, hact, -, -, hmade, -⟩
      · exact hkept hact
      · intro a ha
        rw [hact] at ha
        cases ha
        exact hmade
  | @record inf io =>
      rcases (st.record_request_active nx inf.row inf.result.actions
        inf.request.observation io).1 with hact | ⟨a, ha, hact⟩
      · exact hkept hact
      · intro a' ha'
        rw [hact] at ha'
        cases ha'
        obtain ⟨dir, hd⟩ := Option.isSome_iff_exists.mp (hst a ha)
        obtain ⟨dir', hd', -⟩ := hgrow _ dir hd
        rw [show (a.counted inf.row).trial_id = a.trial_id from rfl, hd']
        rfl
  | @«end» io =>
      rcases (st.end_cases io).2 with ⟨e, -, hact⟩ | ⟨a, -, -, hact⟩
      · exact hkept hact
      · intro a ha
        rw [hact] at ha
        cases ha
  | @terminate _ _ status reason sequence io =>
      obtain ⟨-, hcases⟩ := st._terminate_cases status reason sequence io
      rcases hcases with ⟨-, heq⟩ | ⟨a, ha, ⟨e, -, hact⟩ | ⟨-, hact⟩⟩
      · rw [heq]
        exact hst
      · exact hkept (hact.trans ha.symm)
      · intro a ha
        rw [hact] at ha
        cases ha

/-- A directory appears when its trial begins. -/
theorem StoreStep.absent {pc : Pc} {st st' : TrialAuditStore} {name : PyStr}
    (h : StoreStep nx pc st st') (hpc : ∀ root_seed, pc ≠ .beginSection name root_seed)
    (hst : st.Housed) (hnone : st.dirs name = none) : st'.dirs name = none := by
  -- the recorded trial has a directory, so it is another one
  have hne : ∀ a, st.active = some a → name ≠ a.trial_id := by
    rintro a ha rfl
    have hsome := hst a ha
    rw [hnone] at hsome
    cases hsome
  cases h with
  | same => exact hnone
  | @begin trial_id skill generation root_seed io =>
      have hother : name ≠ trial_id := by
        rintro rfl
        exact hpc _ rfl
      exact (st.begin_dirs_of_ne _ _ _ _ _ hother).trans hnone
  | record => exact (st.record_request_dirs_of_ne _ _ _ _ _ hne).trans hnone
  | «end» => exact (st.end_dirs_of_inactive _ hne).trans hnone
  | terminate => exact (st._terminate_dirs_of_inactive _ _ _ _ hne).trans hnone

/-- A call begins the trial it was made for. -/
theorem Advance.begins {id : Nat} {rt rt' : PolicyRuntime} {pc : Pc} {ch : Choice}
    {next : CallState} {name : PyStr} (h : Advance cfg nx id rt pc ch rt' next)
    (hnext : next.begins = some name) : (CallState.running pc).begins = some name := by
  cases h with
  | beginAcquire => exact hnext
  | @prepareEnter _ _ _ _ r | @prepareDrain _ _ _ r =>
      cases r with
      | ok drained => cases drained <;> cases hnext
      | error e => cases hnext
  | @beginSection _ _ _ _ r =>
      cases r with
      | ok st => cases hnext
      | error e => cases e <;> cases hnext
  | @prepareRelease _ r | @inferEnter _ _ r | @inferRecord _ _ r | @closeSection _ r =>
      cases r <;> cases hnext
  | @closeBackend audit_error r => cases audit_error <;> cases hnext
  | _ => cases hnext

/-- A step of the system makes the store call of the call that moves. -/
theorem Step.store {s s' : Sys} {l : Label} (h : Step cfg nx s l s') :
    s'.rt.audit = s.rt.audit ∨
      ∃ id pc ch next, l = .step id pc ch next ∧ StoreStep nx pc s.rt.audit s'.rt.audit := by
  rcases step_cases h with ⟨id, op, -, -, rfl⟩ | ⟨id, pc, ch, rt', next, rfl, -, ha, rfl⟩
  · exact .inl rfl
  · exact .inr ⟨id, pc, ch, next, rfl, ha.store⟩

end Steps

/-! ## §3. Histories. -/

section Histories

variable {cfg : RuntimeConfig} {nx : Numerics} {s s' : Sys} {ls : List Label}

/-- What every store call preserves, every history preserves. -/
theorem path_store (P : TrialAuditStore → Prop)
    (hstep : ∀ pc st st', StoreStep nx pc st st' → P st → P st')
    (h : Path (runtimeSystem cfg nx) s ls s') (hs : P s.rt.audit) : P s'.rt.audit := by
  refine h.preserves (fun s => P s.rt.audit) ?_ hs
  intro s l s' hs hst
  rcases Step.store hst with hsame | ⟨_, _, _, _, -, hstore⟩
  · rw [hsame]
    exact hs
  · exact hstep _ _ _ hstore hs

/-- A sealed directory stays as it is, in every continuation of a history. -/
theorem path_sealed {name : PyStr} {dir : TrialDir} (h : Path (runtimeSystem cfg nx) s ls s')
    (hs : s.rt.audit.Sealed name dir) : s'.rt.audit.Sealed name dir :=
  path_store (fun st => st.Sealed name dir) (fun _ _ _ hstore => hstore.sealed) h hs

/-- Rows only ever follow rows. -/
theorem path_rowsGrow (h : Path (runtimeSystem cfg nx) s ls s') :
    s.rt.audit.RowsGrow s'.rt.audit :=
  path_store (fun st => s.rt.audit.RowsGrow st) (fun _ _ _ hstore hs => hs.trans hstore.rowsGrow) h
    (.refl _)

/-- In every history the recorded trial has a directory. -/
theorem RuntimeRun.housed (h : RuntimeRun cfg nx ls s) : s.rt.audit.Housed :=
  fun a ha => ((RuntimeRun.inv h).wf.trial a ha).directory

/-- A directory that appears is that of a trial that began. -/
theorem path_absent {name : PyStr} (h : Path (runtimeSystem cfg nx) s ls s')
    (hhoused : s.rt.audit.Housed) (hnone : s.rt.audit.dirs name = none)
    (hbegins : ∀ id root_seed ch next, .step id (.beginSection name root_seed) ch next ∉ ls) :
    s'.rt.audit.dirs name = none := by
  induction h with
  | nil => exact hnone
  | @snoc s' s'' ls l hpath hst ih =>
      have hbefore := ih fun id root_seed ch next hmem =>
        hbegins id root_seed ch next (List.mem_append_left _ hmem)
      have hhoused' : s'.rt.audit.Housed :=
        path_store TrialAuditStore.Housed (fun _ _ _ hstore => hstore.housed) hpath hhoused
      rcases step_cases hst with ⟨id, op, rfl, -, rfl⟩ | ⟨id, pc, ch, rt', next, rfl, -, ha, rfl⟩
      · exact hbefore
      · refine ha.store.absent (fun root_seed heq => ?_) hhoused' hbefore
        rw [heq] at hbegins
        exact hbegins id root_seed ch next (List.mem_append_right _ (List.mem_singleton.mpr rfl))

/-- **The directories of a history.**  From any point of a history on, the rows
of a directory are never taken back.  A directory whose trial is not the
recorded one never changes again, and its trial is not recorded again.  A
directory that was not there was made by a `begin_trial` of its name. -/
theorem directories_over_time (hrun : RuntimeRun cfg nx ls s) {ls' : List Label}
    (hpath : Path (runtimeSystem cfg nx) s ls' s') (name : PyStr) :
    (∀ dir, s.rt.audit.dirs name = some dir →
      (∃ dir', s'.rt.audit.dirs name = some dir' ∧ dir.requests <+: dir'.requests) ∧
      ((∀ a, s.rt.audit.active = some a → a.trial_id ≠ name) →
        s'.rt.audit.dirs name = some dir ∧ ∀ a, s'.rt.audit.active = some a → a.trial_id ≠ name)) ∧
    (s.rt.audit.dirs name = none → s'.rt.audit.dirs name ≠ none →
      ∃ id root_seed ch next, .step id (.beginSection name root_seed) ch next ∈ ls') := by
  refine ⟨fun dir hdir => ⟨path_rowsGrow hpath name dir hdir, fun hinactive => ?_⟩, ?_⟩
  · obtain ⟨hstored, hstays⟩ := path_sealed hpath ⟨hdir, hinactive⟩
    exact ⟨hstored, hstays⟩
  · intro hnone hsome
    by_contra hno
    apply hsome
    refine path_absent hpath (RuntimeRun.housed hrun) hnone fun id root_seed ch next hmem => ?_
    exact hno ⟨id, root_seed, ch, next, hmem⟩

/-- A committed trial of two sessions, while the next trial begins. -/
theorem directories_over_time_next_trial : ∃ ls s ls' s' dir,
    RuntimeRun defaultConfig constNumerics ls s ∧
    Path (runtimeSystem defaultConfig constNumerics) s ls' s' ∧
    dir.requests.length = 4 ∧ s'.rt.audit.dirs (py "run_0_fold") = some dir ∧
    ∃ id root_seed ch next, .step id (.beginSection (py "run_1_fold") root_seed) ch next ∈ ls' := by
  have hreplay : (((Sys.initial fun _ => none).replay defaultConfig constNumerics
      (committedMoves ++ [.step 10 (.io Io.clean)])).bind fun r =>
        (r.2.replay defaultConfig constNumerics (beginMoves 11 (py "run_1_fold"))).map fun q =>
          decide ((r.2.rt.audit.dirs (py "run_0_fold")).map (·.requests.length) = some 4 ∧
            r.2.rt.audit.active = none ∧ (r.2.rt.audit.dirs (py "run_1_fold")).isNone ∧
            (q.2.rt.audit.dirs (py "run_1_fold")).isSome)) = some true := by
    decide +kernel
  obtain ⟨⟨ls, s⟩, hr, hq⟩ := Option.bind_eq_some_iff.mp hreplay
  obtain ⟨⟨ls', s'⟩, hq, hp⟩ := Option.map_eq_some_iff.mp hq
  obtain ⟨hrows, hidle, hnew, hmade⟩ := of_decide_eq_true hp
  obtain ⟨dir, hdir, hlength⟩ := Option.map_eq_some_iff.mp hrows
  have hrun := Sys.replay_run hr
  have hpath := Sys.replay_path hq
  obtain ⟨-, hsealed⟩ := (directories_over_time hrun hpath (py "run_0_fold")).1 dir hdir
  refine ⟨ls, s, ls', s', dir, hrun, hpath, hlength, (hsealed ?_).1, ?_⟩
  · intro a ha
    rw [hidle] at ha
    cases ha
  · refine (directories_over_time hrun hpath (py "run_1_fold")).2 (Option.isNone_iff_eq_none.mp hnew) ?_
    exact Option.isSome_iff_ne_none.mp hmade

end Histories

/-! ## §4. Undisturbed calls. -/

section Alone

variable {cfg : RuntimeConfig} {nx : Numerics} {id : Nat} {x x' : TimedRuntime}
  {out : Except Exn Result} {c : CallState}

/-- What every store call preserves, an undisturbed call preserves. -/
theorem Alone.store (P : TrialAuditStore → Prop)
    (hstep : ∀ pc st st', StoreStep nx pc st st' → P st → P st')
    (h : Alone cfg nx id x c out x') (hx : P x.rt.audit) : P x'.rt.audit := by
  induction h with
  | returned => exact hx
  | step _ hs _ ih => exact ih (hstep _ _ _ (advance_of_callStep hs).store hx)

/-- A call that runs alone leaves the sealed directories. -/
theorem Alone.sealed {name : PyStr} {dir : TrialDir} (h : Alone cfg nx id x c out x')
    (hx : x.rt.audit.Sealed name dir) : x'.rt.audit.Sealed name dir :=
  h.store (fun st => st.Sealed name dir) (fun _ _ _ hstore => hstore.sealed) hx

/-- A call makes no directory but the one of the trial it begins. -/
theorem Alone.absent {name : PyStr} (h : Alone cfg nx id x c out x')
    (hc : c.begins ≠ some name) (hhoused : x.rt.audit.Housed)
    (hnone : x.rt.audit.dirs name = none) : x'.rt.audit.dirs name = none := by
  induction h with
  | returned => exact hnone
  | @step x x' pc ch rt next out _ hs _ ih =>
      have hadvance := advance_of_callStep hs
      refine ih (fun hnext => hc (hadvance.begins hnext)) (hadvance.store.housed hhoused) ?_
      refine hadvance.store.absent (fun root_seed heq => ?_) hhoused hnone
      subst heq
      exact hc rfl

end Alone

end OvenRuntime
