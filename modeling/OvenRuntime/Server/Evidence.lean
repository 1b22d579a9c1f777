/-
  OvenRuntime.Server.Evidence
  ───────────────────────────
  The evidence of a committed trial.

  `record_request` saves the first action chunk, appends the row and only then
  counts; `infer` answers after that.  In between a failure may strike, and
  `end_trial` compares none of them.  `committed_evidence` says what a commit
  in READY is worth all the same: rows, counters, chunk and responses agree.
  It needs that no report of a lost response undermines an inference in
  flight (`Sound`); `committed_with_unanswered_row` is what happens otherwise.
-/
import OvenRuntime.Server.Answered
import OvenRuntime.Server.Overlap

namespace OvenRuntime

open TransitionSystem

/-! ## §1. The evidence files. -/

/-- The rows and the first chunk are the same. -/
structure SameEvidence (dir dir' : TrialDir) : Prop where
  requests : dir'.requests = dir.requests
  npy : dir'.first_action_chunk_npy = dir.first_action_chunk_npy
  json : dir'.first_action_chunk_json = dir.first_action_chunk_json

theorem SameEvidence.refl (dir : TrialDir) : SameEvidence dir dir := ⟨rfl, rfl, rfl⟩

namespace TrialAuditStore

/-- The evidence in every directory is the same. -/
def KeepsEvidence (st st' : TrialAuditStore) : Prop :=
  ∀ name dir, st.dirs name = some dir → ∃ dir', st'.dirs name = some dir' ∧ SameEvidence dir dir'

theorem KeepsEvidence.refl (st : TrialAuditStore) : st.KeepsEvidence st :=
  fun _ dir h => ⟨dir, h, .refl dir⟩

theorem KeepsEvidence.trans {st st' st'' : TrialAuditStore} (h : st.KeepsEvidence st')
    (h' : st'.KeepsEvidence st'') : st.KeepsEvidence st'' := by
  intro name dir hd
  obtain ⟨dir', hd', hs⟩ := h name dir hd
  obtain ⟨dir'', hd'', hs'⟩ := h' name dir' hd'
  exact ⟨dir'', hd'', hs'.requests.trans hs.requests, hs'.npy.trans hs.npy, hs'.json.trans hs.json⟩

theorem KeepsEvidence.of_dirs {st st' : TrialAuditStore} (h : st'.dirs = st.dirs) :
    st.KeepsEvidence st' := by
  intro name dir hd
  exact ⟨dir, by rw [h]; exact hd, .refl dir⟩

/-- A directory after a write. -/
theorem writeIf_dirs {st : TrialAuditStore} {name : PyStr} {dir : TrialDir}
    (h : st.dirs name = some dir) (b : Bool) (f : TrialDir → TrialDir) :
    (st.writeIf name b f).dirs name = some (if b then f dir else dir) := by
  unfold writeIf
  cases b <;> simp [h]

/-- Writing another file. -/
theorem KeepsEvidence.writeIf (st : TrialAuditStore) (name : PyStr) (b : Bool)
    {f : TrialDir → TrialDir} (hf : ∀ dir, SameEvidence dir (f dir)) :
    st.KeepsEvidence (st.writeIf name b f) := by
  intro d dir hd
  by_cases hn : d = name
  · subst hn
    refine ⟨_, writeIf_dirs hd b f, ?_⟩
    cases b
    · exact .refl dir
    · exact hf dir
  · refine ⟨dir, ?_, .refl dir⟩
    unfold TrialAuditStore.writeIf
    cases b <;> simp [hn, hd]

/-- `end` writes the summary and the manifest only. -/
theorem end_keeps (st : TrialAuditStore) (io : Io) : st.KeepsEvidence (st.end io).2 := by
  unfold TrialAuditStore.end
  cases st.active with
  | none => exact .refl st
  | some a =>
      have hsummary := fun b => KeepsEvidence.writeIf st a.trial_id b
        (f := fun d => { d with trial_summary := some a.summary }) fun _ => ⟨rfl, rfl, rfl⟩
      have hmanifest := fun st b => KeepsEvidence.writeIf st a.trial_id b
        (f := fun d => { d with server_manifest := some a.summary }) fun _ => ⟨rfl, rfl, rfl⟩
      simp only
      split
      · exact hsummary _
      · split
        · exact (hsummary _).trans (hmanifest _ _)
        · exact ((hsummary _).trans (hmanifest _ _)).trans (.of_dirs rfl)

/-- `abort` and `mark_ambiguous` write the manifest only. -/
theorem _terminate_keeps (st : TrialAuditStore) (status : TrialStatus) (reason : PyStr)
    (sequence : Option Int) (io : Io) :
    st.KeepsEvidence (st._terminate status reason sequence io).2 := by
  unfold _terminate
  cases st.active with
  | none => exact .refl st
  | some a =>
      have hmanifest := fun b => KeepsEvidence.writeIf st a.trial_id b
        (f := fun d => { d with server_manifest := some (a.terminated status reason sequence) })
        fun _ => ⟨rfl, rfl, rfl⟩
      simp only
      split
      · exact hmanifest _
      · exact (hmanifest _).trans (.of_dirs rfl)

/-- No evidence yet. -/
def Blank (dir : TrialDir) : Prop :=
  dir.requests = [] ∧ dir.first_action_chunk_npy = none ∧ dir.first_action_chunk_json = none

theorem beginWrite_keeps (st : TrialAuditStore) (trial_id skill : PyStr) (generation : Nat)
    (root_seed : Int) (w : WriteOutcome) :
    st.KeepsEvidence (st.beginWrite trial_id skill generation root_seed w).2 ∧
    ∀ dir, st.dirs trial_id = some dir → Blank dir → ∀ a,
      (st.beginWrite trial_id skill generation root_seed w).1 = .ok a →
      ∃ dir', (st.beginWrite trial_id skill generation root_seed w).2.dirs trial_id = some dir' ∧
        Blank dir' := by
  generalize hm : beginManifest trial_id skill generation root_seed = manifest
  have hmanifest := fun b => KeepsEvidence.writeIf st trial_id b
    (f := fun d => { d with server_manifest := some manifest }) fun _ => ⟨rfl, rfl, rfl⟩
  unfold beginWrite
  simp only [hm]
  split
  · exact ⟨hmanifest _, by simp⟩
  · refine ⟨(hmanifest _).trans (.of_dirs rfl), ?_⟩
    intro dir hd hblank a _
    obtain ⟨dir', hd', hs⟩ := hmanifest (_atomic_json w manifest.encodable).2 trial_id dir hd
    exact ⟨dir', hd', hs.requests.trans hblank.1, hs.npy.trans hblank.2.1,
      hs.json.trans hblank.2.2⟩

/-- `begin` leaves existing directories alone and starts without evidence. -/
theorem begin_keeps (st : TrialAuditStore) (trial_id skill : PyStr) (generation : Nat)
    (root_seed : Int) (io : Io) :
    st.KeepsEvidence (st.begin trial_id skill generation root_seed io).2 ∧
    ∀ a, (st.begin trial_id skill generation root_seed io).1 = .ok a →
      ∃ dir, (st.begin trial_id skill generation root_seed io).2.dirs trial_id = some dir ∧
        Blank dir := by
  unfold TrialAuditStore.begin
  cases st.active with
  | some a => exact ⟨.refl st, by simp⟩
  | none =>
      by_cases hdir : (st.dirs trial_id).isSome = true
      · simp only [hdir, if_true]
        exact ⟨.refl st, by simp⟩
      · have hmkdir : st.KeepsEvidence (st.mkdir trial_id) := by
          intro name dir hd
          have hne : name ≠ trial_id := by
            rintro rfl
            exact hdir (by simp [hd])
          exact ⟨dir, by simp [TrialAuditStore.mkdir, hne, hd], .refl dir⟩
        simp only [hdir, if_false, Bool.false_eq_true]
        cases io 0 with
        | raised e applied =>
            cases applied with
            | true => exact ⟨hmkdir, by simp⟩
            | false => exact ⟨.refl st, by simp⟩
        | done =>
            show st.KeepsEvidence ((st.mkdir trial_id).beginWrite _ _ _ _ (io 1)).2 ∧ _
            obtain ⟨hk, hblank⟩ := beginWrite_keeps (st.mkdir trial_id) trial_id skill generation
              root_seed (io 1)
            exact ⟨hmkdir.trans hk, hblank {} (st.mkdir_self trial_id) ⟨rfl, rfl, rfl⟩⟩

/-- The first chunk of a trial, as `record_request` saves it. -/
def FirstChunk (nx : Numerics) (trial_id : PyStr) (sequence : Int) (actions : Value)
    (action_hash : Digest) (dir : TrialDir) : Prop :=
  ∃ array, nx.asarray actions = .ok array ∧ dir.first_action_chunk_npy = some array ∧
    dir.first_action_chunk_json = some { trial_id, sequence, shape := array.shape,
                                         dtype := array.dtype, action_hash }

theorem writeFirstChunk_ok {nx : Numerics} {st st' : TrialAuditStore} {a : ActiveTrial}
    {row : RequestRow} {actions : Value} {io : Io} {dir : TrialDir}
    (h : st.writeFirstChunk nx a row actions io = (none, st'))
    (hd : st.dirs a.trial_id = some dir) :
    ∃ dir', st'.dirs a.trial_id = some dir' ∧ dir'.requests = dir.requests ∧
      FirstChunk nx a.trial_id row.sequence actions row.action_hash dir' := by
  unfold writeFirstChunk at h
  cases harr : nx.asarray actions with
  | error e => simp [harr] at h
  | ok array =>
      simp only [harr] at h
      -- both writes went through, so both files are there
      cases hw : _atomic_json (io 0) true with
      | mk raised replaced =>
          rw [hw] at h
          cases raised with
          | some e => simp at h
          | none =>
              obtain ⟨-, -, rfl⟩ := _atomic_json_ok hw
              cases hj : _atomic_json (io 1) (a.trial_id.encodable && array.dtype.encodable) with
              | mk raised' replaced' =>
                  rw [hj] at h
                  obtain ⟨rfl, rfl⟩ := Prod.mk.inj h
                  obtain ⟨-, -, rfl⟩ := _atomic_json_ok hj
                  have hnpy := writeIf_dirs hd true
                    (fun d => { d with first_action_chunk_npy := some array })
                  exact ⟨_, writeIf_dirs hnpy true _, rfl, array, harr, rfl, rfl⟩

/-- What a row adds to the evidence: the row, and the first chunk if there was
none. -/
def AddsRow (nx : Numerics) (a : ActiveTrial) (row : RequestRow) (actions : Value)
    (dir dir' : TrialDir) : Prop :=
  (∃ diagnostics, dir'.requests = dir.requests ++ [{ row with diagnostics := some diagnostics }]) ∧
  if row.request_kind = py "infer" ∧ a.first_action_hash = none then
    FirstChunk nx a.trial_id row.sequence actions row.action_hash dir'
  else dir'.first_action_chunk_npy = dir.first_action_chunk_npy ∧
    dir'.first_action_chunk_json = dir.first_action_chunk_json

theorem writeRow_ok {nx : Numerics} {st st' : TrialAuditStore} {a : ActiveTrial}
    {row : RequestRow} {actions : Value} {observation : Dict} {io : Io} {dir : TrialDir}
    (h : st.writeRow nx a row actions observation io = (none, st'))
    (hd : st.dirs a.trial_id = some dir) :
    ∃ dir', st'.dirs a.trial_id = some dir' ∧ AddsRow nx a row actions dir dir' := by
  unfold writeRow at h
  cases hdiag : nx.inference_diagnostics actions observation with
  | error e => simp [hdiag] at h
  | ok diagnostics =>
      simp only [hdiag] at h
      unfold AddsRow
      by_cases hfirst : row.request_kind = py "infer" ∧ a.first_action_hash = none
      · rw [if_pos hfirst] at h
        simp only [if_pos hfirst]
        cases hchunk : st.writeFirstChunk nx a { row with diagnostics := some diagnostics } actions
            io with
        | mk raised st₁ =>
            rw [hchunk] at h
            cases raised with
            | some e => simp at h
            | none =>
                obtain ⟨dir₁, hd₁, hreq, array, harr, hnpy, hjson⟩ := writeFirstChunk_ok hchunk hd
                cases hj : _atomic_json (io 2) ({ row with diagnostics := some diagnostics } :
                    RequestRow).encodable with
                | mk raised' appended =>
                    rw [hj] at h
                    obtain ⟨rfl, rfl⟩ := Prod.mk.inj h
                    obtain ⟨-, -, rfl⟩ := _atomic_json_ok hj
                    refine ⟨_, writeIf_dirs hd₁ true _, ⟨diagnostics, ?_⟩, array, harr, hnpy, hjson⟩
                    simp [hreq]
      · rw [if_neg hfirst] at h
        simp only [if_neg hfirst]
        cases hj : _atomic_json (io 2) ({ row with diagnostics := some diagnostics } :
            RequestRow).encodable with
        | mk raised' appended =>
            rw [hj] at h
            obtain ⟨rfl, rfl⟩ := Prod.mk.inj h
            obtain ⟨-, -, rfl⟩ := _atomic_json_ok hj
            exact ⟨_, writeIf_dirs hd true _, ⟨diagnostics, rfl⟩, rfl, rfl⟩

/-- **`record_request`**, when it returns: one row more, and counted. -/
theorem record_request_ok {nx : Numerics} {st st' : TrialAuditStore} {row : RequestRow}
    {actions : Value} {observation : Dict} {io : Io}
    (h : st.record_request nx row actions observation io = (.ok (), st')) :
    ∃ a, st.active = some a ∧ st'.active = some (a.counted row) ∧
      ∀ dir, st.dirs a.trial_id = some dir →
        ∃ dir', st'.dirs a.trial_id = some dir' ∧ AddsRow nx a row actions dir dir' := by
  unfold record_request at h
  cases hact : st.active with
  | none => simp [hact] at h
  | some a =>
      simp only [hact] at h
      cases hrow : st.writeRow nx a row actions observation io with
      | mk raised st₁ =>
          rw [hrow] at h
          cases raised with
          | some e => simp at h
          | none =>
              obtain ⟨-, rfl⟩ := Prod.mk.inj h
              refine ⟨a, rfl, rfl, ?_⟩
              intro dir hd
              obtain ⟨dir', hd', hadds⟩ := writeRow_ok hrow hd
              exact ⟨dir', hd', hadds⟩

end TrialAuditStore

/-! ## §2. Store calls of a step. -/

theorem PolicyRuntime.drain_audit {rt rt' : PolicyRuntime} {deadline now : ℚ}
    {r : Except Exn Drained} (h : rt.drain deadline now = (r, rt')) : rt'.audit = rt.audit := by
  rcases rt.drain_cases deadline now with ⟨e, -, hc⟩ | ⟨-, hc⟩ | ⟨-, -, hc⟩ | ⟨e, -, -, hc⟩ <;>
    cases h.symm.trans hc <;> rfl

/-- The store after the section of a call: the same, or after the one store
operation the section makes. -/
inductive StoreStep (nx : Numerics) : Pc → TrialAuditStore → TrialAuditStore → Prop
  | same {pc st} : StoreStep nx pc st st
  | begin {trial_id skill : PyStr} {generation : Nat} {root_seed : Int} {io : Io} {st} :
      StoreStep nx (.beginSection trial_id root_seed) st
        (st.begin trial_id skill generation root_seed io).2
  | record {inf io st} : StoreStep nx (.inferRecord inf) st
      (st.record_request nx inf.row inf.result.actions inf.request.observation io).2
  | end {io : Io} {st} : StoreStep nx .endTrial st (st.end io).2
  | terminate {pc st status reason sequence} {io : Io} :
      StoreStep nx pc st (st._terminate status reason sequence io).2

namespace PolicyRuntime

theorem beginSection_store (nx : Numerics) (rt : PolicyRuntime) (trial_id : PyStr)
    (root_seed : Int) (reset : Except Exn Unit) (io : Io) :
    StoreStep nx (.beginSection trial_id root_seed) rt.audit
      (rt.beginSection trial_id root_seed reset io).2.audit := by
  unfold beginSection
  split_ifs
  · exact .same
  · exact .same
  · split
    · exact .same
    · rename_i skill _
      split
      · exact .same
      · have hstep : StoreStep nx (.beginSection trial_id root_seed) rt.audit
            (rt.audit.begin trial_id skill rt.generation root_seed io).2 := .begin
        split <;> rename_i hb <;> rw [hb] at hstep <;> exact hstep

theorem endTrial_store (nx : Numerics) (rt : PolicyRuntime) (io : Io) :
    StoreStep nx .endTrial rt.audit (rt.endTrial io).2.audit := by
  unfold endTrial
  split_ifs
  · exact .same
  · exact .same
  · have hstep : StoreStep nx .endTrial rt.audit (rt.audit.end io).2 := .end
    split <;> rename_i hb <;> rw [hb] at hstep
    · rw [failThenRaise_eq]
      exact hstep
    · exact hstep
    · exact hstep

theorem abortSection_store (nx : Numerics) (rt : PolicyRuntime) (reason : PyStr) (io : Io) :
    StoreStep nx (.abortSection reason) rt.audit (rt.abortSection reason io).2.audit := by
  have hstep : StoreStep nx (.abortSection reason) rt.audit (rt.audit.abort reason io).2 :=
    .terminate
  unfold abortSection
  simp only [_invalidate_session_locked]
  split <;> rename_i hb <;> rw [hb] at hstep
  · rw [failThenRaise_eq]
    exact hstep
  · exact hstep
  · exact hstep

theorem markAmbiguous_store (nx : Numerics) (rt : PolicyRuntime) (session_id : PyStr)
    (sequence : Int) (io : Io) :
    StoreStep nx (.markAmbiguous session_id sequence) rt.audit
      (rt.markAmbiguous session_id sequence io).2.audit := by
  have hstep : StoreStep nx (.markAmbiguous session_id sequence) rt.audit
      (rt.audit.mark_ambiguous ambiguityReason sequence io).2 := .terminate
  unfold markAmbiguous
  split
  · exact .same
  · split_ifs
    · exact .same
    · simp only [_invalidate_session_locked]
      split <;> rename_i hb <;> rw [hb] at hstep
      · rw [failThenRaise_eq]
        exact hstep
      · exact hstep
      · rw [_fail_locked_eq]
        exact hstep

theorem closeSection_store (nx : Numerics) (rt : PolicyRuntime) (io : Io) :
    StoreStep nx .closeSection rt.audit (rt.closeSection io).2.audit := by
  have hstep : StoreStep nx .closeSection rt.audit
      (rt.audit.abort (py "server shutdown") io).2 := .terminate
  unfold closeSection
  rw [stopping_eq]
  dsimp only [_invalidate_session_locked]
  split
  · exact .same
  · split <;> rename_i hb <;> rw [hb] at hstep <;> exact hstep

end PolicyRuntime

/-- **A step makes at most one store call.** -/
theorem Advance.store {cfg : RuntimeConfig} {nx : Numerics} {id : Nat} {rt rt' : PolicyRuntime}
    {pc : Pc} {ch : Choice} {next : CallState} (h : Advance cfg nx id rt pc ch rt' next) :
    StoreStep nx pc rt.audit rt'.audit := by
  cases h with
  | @beginSection trial_id root_seed reset io r _ he =>
      have hstep := rt.beginSection_store nx trial_id root_seed reset io
      rw [he] at hstep
      exact hstep
  | @endTrial io r _ he =>
      have hstep := rt.endTrial_store nx io
      rw [he] at hstep
      exact hstep
  | @abortSection reason io r _ he =>
      have hstep := rt.abortSection_store nx reason io
      rw [he] at hstep
      exact hstep
  | @markAmbiguous session_id sequence io r _ he =>
      have hstep := rt.markAmbiguous_store nx session_id sequence io
      rw [he] at hstep
      exact hstep
  | @closeSection io r _ he =>
      have hstep := rt.closeSection_store nx io
      rw [he] at hstep
      exact hstep
  | @inferRecord inf io r _ he =>
      cases he
      exact .record
  | @prepareEnter skill timeout now now' r _ he =>
      rcases rt.prepareEnter_cases timeout now now' with ⟨e, hc⟩ | ⟨-, -, e, hc⟩ | ⟨-, -, hc⟩
        | ⟨-, -, hc⟩
      · cases he.symm.trans hc
        exact .same
      · cases he.symm.trans hc
        exact .same
      · cases he.symm.trans hc
        exact .same
      · have hd := PolicyRuntime.drain_audit (hc.symm.trans he)
        rw [show rt'.audit = rt.audit from hd]
        exact .same
  | prepareDrain he =>
      rw [PolicyRuntime.drain_audit he]
      exact .same
  | @prepareCommit skill identity r _ he =>
      rcases rt.prepareCommit_cases skill identity with ⟨st, -, hc⟩ | ⟨e, -, hc⟩ <;>
        cases he.symm.trans hc <;> exact .same
  | @openSession session_id token now r _ he =>
      rcases rt.openSession_cases cfg session_id token now with ⟨e, hc⟩ | ⟨t, k, -, -, -, -, hc⟩ <;>
        cases he.symm.trans hc <;> exact .same
  | @closeSession session_id r _ he =>
      rcases rt.closeSession_cases session_id with ⟨e, hc⟩ | ⟨lease, st, -, -, -, hc⟩ <;>
        cases he.symm.trans hc <;> exact .same
  | @inferEnter request now r _ he =>
      rcases rt.inferEnter_cases request now with ⟨e, hc⟩ | ⟨e, lease, -, -, hc⟩ | ⟨lease, -, -, hc⟩ <;>
        cases he.symm.trans hc <;> exact .same
  | @inferFailed request ref e r _ he =>
      obtain ⟨f, code, hc⟩ := rt.inferFail_eq e
      cases he.symm.trans hc
      exact .same
  | @inferFinish inf r _ he =>
      rcases rt.inferFinish_cases inf with ⟨lease, -, -, -, hc⟩ | ⟨f, -, hc⟩ <;>
        cases he.symm.trans hc <;> exact .same
  | _ => exact .same

/-! ## §3. What a trial was begun with. -/

/-- What `begin_trial` was given, and the skill and generation it found. -/
structure Begun where
  trial_id : PyStr
  skill : Option PyStr
  generation : Nat
  root_seed : Int

/-- The trial a step begins. -/
def Label.begun : Label → Option Begun
  | .step _ (.beginSection trial_id root_seed) _ (.running (.beginRelease (.ok st))) =>
      some { trial_id, skill := st.active_skill, generation := st.generation, root_seed }
  | _ => none

/-- The successful `begin_trial`s of a trial. -/
def begunUnder (ls : List Label) (trial_id : PyStr) : List Begun :=
  Keyed.valuesAt Begun.trial_id (fun b => b) (ls.filterMap Label.begun) trial_id

theorem begunUnder_snoc_none {ls : List Label} {l : Label} (h : l.begun = none) :
    begunUnder (ls ++ [l]) = begunUnder ls := by
  unfold begunUnder
  simp [List.filterMap_append, h]

theorem begunUnder_snoc_self {ls : List Label} {l : Label} {b : Begun} (h : l.begun = some b) :
    begunUnder (ls ++ [l]) b.trial_id = begunUnder ls b.trial_id ++ [b] := by
  unfold begunUnder
  rw [List.filterMap_append, List.filterMap_cons_some h]
  exact Keyed.valuesAt_snoc_self (ls.filterMap Label.begun) b

theorem begunUnder_snoc_other {ls : List Label} {l : Label} {b : Begun} {trial_id : PyStr}
    (h : l.begun = some b) (hne : b.trial_id ≠ trial_id) :
    begunUnder (ls ++ [l]) trial_id = begunUnder ls trial_id := by
  unfold begunUnder
  rw [List.filterMap_append, List.filterMap_cons_some h]
  exact Keyed.valuesAt_snoc_other hne

/-- How the recorded trial was begun. -/
def ActiveTrial.begun (a : ActiveTrial) : Begun :=
  { trial_id := a.trial_id, skill := some a.skill, generation := a.generation,
    root_seed := a.root_seed }

/-- What a successful `begin_trial` finds and leaves. -/
theorem PolicyRuntime.beginSection_ok {rt rt' : PolicyRuntime} {trial_id : PyStr}
    {root_seed : Int} {reset : Except Exn Unit} {io : Io} {st : Status}
    (h : rt.beginSection trial_id root_seed reset io = (.ok st, rt')) :
    ∃ skill, rt.audit.active = none ∧ rt.audit.dirs trial_id = none ∧
      rt'.audit.active = some { trial_id, skill, generation := rt.generation, root_seed } ∧
      st.active_skill = some skill ∧ st.generation = rt.generation ∧
      ∃ dir, rt'.audit.dirs trial_id = some dir ∧ TrialAuditStore.Blank dir := by
  unfold beginSection at h
  split_ifs at h
  · cases h
  · cases h
  split at h
  · cases h
  · rename_i skill hskill
    split at h
    · cases h
    · obtain ⟨-, hcases⟩ := rt.audit.begin_cases trial_id skill rt.generation root_seed io
      obtain ⟨-, hblank⟩ := rt.audit.begin_keeps trial_id skill rt.generation root_seed io
      cases hb : rt.audit.begin trial_id skill rt.generation root_seed io with
      | mk r audit =>
          rw [hb] at h hcases hblank
          cases r with
          | error e => cases h
          | ok active =>
              obtain ⟨rfl, rfl⟩ := Prod.mk.inj h |>.imp Except.ok.inj id
              rcases hcases with ⟨e, he, -⟩ | ⟨a, rfl, -, hs, hnone, hdir, -⟩
              · cases he
              · have hdir : rt.audit.dirs trial_id = none := by simpa using hdir
                exact ⟨skill, hnone, hdir, hs, hskill, rfl, hblank _ rfl⟩

/-- The recorded trial after a step that begins none. -/
theorem StoreStep.active {nx : Numerics} {pc : Pc} {st st' : TrialAuditStore}
    (h : StoreStep nx pc st st') (hpc : ∀ trial_id root_seed, pc ≠ .beginSection trial_id root_seed) :
    st'.active = st.active ∨ st'.active = none ∨
      ∃ inf a, pc = .inferRecord inf ∧ st.active = some a ∧
        st'.active = some (a.counted inf.row) := by
  cases h with
  | same => exact .inl rfl
  | begin => exact absurd rfl (hpc _ _)
  | @record inf io =>
      rcases (st.record_request_active nx inf.row inf.result.actions
        inf.request.observation io).1 with hs | ⟨a, ha, ha'⟩
      · exact .inl hs
      · exact .inr (.inr ⟨inf, a, rfl, ha, ha'⟩)
  | @«end» io =>
      rcases (st.end_cases io).2 with ⟨e, -, hs⟩ | ⟨a, -, -, hs⟩
      · exact .inl hs
      · exact .inr (.inl hs)
  | @terminate _ _ status reason sequence io =>
      obtain ⟨-, hcases⟩ := st._terminate_cases status reason sequence io
      rcases hcases with ⟨hnone, heq⟩ | ⟨a, hsome, ⟨e, -, hs⟩ | ⟨-, hs⟩⟩
      · rw [heq]
        exact .inl rfl
      · exact .inl (hs.trans hsome.symm)
      · exact .inr (.inl hs)

/-- A step that records no row keeps the evidence. -/
theorem StoreStep.keeps {nx : Numerics} {pc : Pc} {st st' : TrialAuditStore}
    (h : StoreStep nx pc st st') (hpc : ∀ inf, pc ≠ .inferRecord inf) : st.KeepsEvidence st' := by
  cases h with
  | same => exact .refl st
  | begin => exact (st.begin_keeps _ _ _ _ _).1
  | record => exact absurd rfl (hpc _)
  | «end» => exact st.end_keeps _
  | terminate => exact st._terminate_keeps _ _ _ _

/-- What a step that begins a trial finds and leaves. -/
structure BeginsTrial (s s' : Sys) (l : Label) (a : ActiveTrial) : Prop where
  begun : l.begun = some a.begun
  answer : l.answer = none
  idle : s.rt.audit.active = none
  new : s.rt.audit.dirs a.trial_id = none
  active : s'.rt.audit.active = some a
  counters : a.request_count = 0 ∧ a.first_action_hash = none ∧ a.last_action_hash = none
  blank : ∃ dir, s'.rt.audit.dirs a.trial_id = some dir ∧ TrialAuditStore.Blank dir

/-- **A step begins a new trial, or leaves the recorded one as it is, counts a
row, or ends it.** -/
theorem Step.begins {cfg : RuntimeConfig} {nx : Numerics} {s s' : Sys} {l : Label}
    (h : Step cfg nx s l s') :
    (∃ a, BeginsTrial s s' l a) ∨
    (l.begun = none ∧ (s'.rt.audit.active = s.rt.audit.active ∨ s'.rt.audit.active = none ∨
      ∃ id inf ch next a, l = .step id (.inferRecord inf) ch next ∧
        s.rt.audit.active = some a ∧ s'.rt.audit.active = some (a.counted inf.row))) := by
  rcases step_cases h with ⟨id, op, rfl, -, rfl⟩ | ⟨id, pc, ch, rt', next, rfl, -, ha, rfl⟩
  · exact .inr ⟨rfl, .inl rfl⟩
  · by_cases hpc : ∃ trial_id root_seed, pc = .beginSection trial_id root_seed
    · obtain ⟨trial_id, root_seed, rfl⟩ := hpc
      cases ha with
      | @beginSection _ _ reset io r _ he =>
          cases r with
          | ok st =>
              obtain ⟨skill, hnone, hdir, hact, hsk, hgen, hblank⟩ :=
                PolicyRuntime.beginSection_ok he
              refine .inl ⟨_, ?_, rfl, hnone, hdir, hact, ⟨rfl, rfl, rfl⟩, hblank⟩
              simp [Label.begun, afterBegin, ActiveTrial.begun, hsk, hgen]
          | error e =>
              right
              rcases s.rt.beginSection_cases trial_id root_seed reset io with
                ⟨e', audit, hact, -, hc⟩ | ⟨_, _, _, -, -, -, -, -, -, -, -, -, -, hc⟩
              · cases he.symm.trans hc
                refine ⟨?_, .inl hact⟩
                cases e <;> rfl
              · cases he.symm.trans hc
    · right
      refine ⟨?_, ?_⟩
      · unfold Label.begun
        split
        · rename_i heq
          cases heq
          exact absurd ⟨_, _, rfl⟩ hpc
        · rfl
      · rcases ha.store.active (fun t r heq => hpc ⟨t, r, heq⟩) with hs | hs | ⟨inf, a, rfl, hs, hs'⟩
        · exact .inl hs
        · exact .inr (.inl hs)
        · exact .inr (.inr ⟨id, inf, ch, next, a, rfl, hs, hs'⟩)

/-- **The recorded trial was begun once**, and how. -/
structure BegunInv (ls : List Label) (s : Sys) : Prop where
  fresh : ∀ trial_id, s.rt.audit.dirs trial_id = none → begunUnder ls trial_id = []
  active : ∀ a, s.rt.audit.active = some a → begunUnder ls a.trial_id = [a.begun]

theorem BegunInv.step {cfg : RuntimeConfig} {nx : Numerics} {ls : List Label} {s s' : Sys}
    {l : Label} (h : BegunInv ls s) (hst : Step cfg nx s l s') : BegunInv (ls ++ [l]) s' := by
  have hold : ∀ trial_id, s'.rt.audit.dirs trial_id = none → s.rt.audit.dirs trial_id = none := by
    intro trial_id hnone
    cases hd : s.rt.audit.dirs trial_id with
    | none => rfl
    | some dir =>
        have := Step.dirs hst trial_id (by simp [hd])
        rw [hnone] at this
        cases this
  rcases Step.begins hst with ⟨a, hb⟩ | ⟨hb, hact⟩
  · obtain ⟨dir, hdir', -⟩ := hb.blank
    refine ⟨?_, ?_⟩
    · intro trial_id hnone
      have hne : a.begun.trial_id ≠ trial_id := by
        rintro rfl
        have := hdir'.symm.trans hnone
        cases this
      rw [begunUnder_snoc_other hb.begun hne]
      exact h.fresh trial_id (hold trial_id hnone)
    · intro a' ha'
      cases hb.active.symm.trans ha'
      have hself : begunUnder (ls ++ [l]) a.begun.trial_id
          = begunUnder ls a.begun.trial_id ++ [a.begun] := begunUnder_snoc_self hb.begun
      rw [h.fresh a.begun.trial_id hb.new] at hself
      exact hself
  · refine ⟨?_, ?_⟩
    · intro trial_id hnone
      rw [begunUnder_snoc_none hb]
      exact h.fresh trial_id (hold trial_id hnone)
    · intro a' ha'
      rw [begunUnder_snoc_none hb]
      rcases hact with hact | hact | ⟨id, inf, ch, next, a, -, ha, hact⟩
      · exact h.active a' (hact.symm.trans ha')
      · cases hact.symm.trans ha'
      · cases hact.symm.trans ha'
        exact h.active a ha

theorem RuntimeRun.begunInv {cfg : RuntimeConfig} {nx : Numerics} {ls : List Label} {s : Sys}
    (h : RuntimeRun cfg nx ls s) : BegunInv ls s := by
  refine Run.invariant (M := runtimeSystem cfg nx) BegunInv ?_ ?_ h
  · rintro s ⟨dirs, rfl⟩
    exact ⟨fun _ _ => rfl, by simp [PolicyRuntime.init]⟩
  · intro ls s l s' _ hinv hst
    exact hinv.step hst

/-! ## §4. Rows, counters, chunk and responses. -/

/-- The row of an inference, with its diagnostics. -/
def RowOf (row : RequestRow) (inf : PolicyRuntime.Inference) : Prop :=
  ∃ diagnostics, row = { inf.row with diagnostics := some diagnostics }

/-- The evidence of a trial is that of these inferences. -/
structure Evidence (nx : Numerics) (a : ActiveTrial) (dir : TrialDir)
    (infs : List PolicyRuntime.Inference) : Prop where
  rows : List.Forall₂ RowOf dir.requests infs
  count : a.request_count = infs.length
  first : a.first_action_hash = infs.head?.map (·.action_hash)
  last : a.last_action_hash = infs.getLast?.map (·.action_hash)
  chunk : ∀ inf, infs.head? = some inf → TrialAuditStore.FirstChunk nx a.trial_id
    inf.request.sequence inf.result.actions inf.action_hash dir
  no_chunk : infs = [] →
    dir.first_action_chunk_npy = none ∧ dir.first_action_chunk_json = none

/-- A trial just begun. -/
theorem Evidence.blank (nx : Numerics) {a : ActiveTrial} {dir : TrialDir}
    (hc : a.request_count = 0) (hf : a.first_action_hash = none) (hl : a.last_action_hash = none)
    (hd : TrialAuditStore.Blank dir) : Evidence nx a dir [] where
  rows := by
    rw [hd.1]
    exact .nil
  count := hc
  first := hf
  last := hl
  chunk := by simp
  no_chunk _ := hd.2

/-- Other files do not matter. -/
theorem Evidence.same {nx : Numerics} {a : ActiveTrial} {dir dir' : TrialDir}
    {infs : List PolicyRuntime.Inference} (h : Evidence nx a dir infs)
    (hs : SameEvidence dir dir') : Evidence nx a dir' infs where
  rows := by
    rw [hs.requests]
    exact h.rows
  count := h.count
  first := h.first
  last := h.last
  chunk inf hinf := by
    obtain ⟨array, harr, hnpy, hjson⟩ := h.chunk inf hinf
    exact ⟨array, harr, hs.npy.trans hnpy, hs.json.trans hjson⟩
  no_chunk hnil := by
    rw [hs.npy, hs.json]
    exact h.no_chunk hnil

theorem ActiveTrial.counted_first (a : ActiveTrial) {row : RequestRow}
    (hkind : row.request_kind = py "infer") (hnone : a.first_action_hash = none) :
    (a.counted row).first_action_hash = some row.action_hash := by
  simp [ActiveTrial.counted, hkind, hnone]

theorem ActiveTrial.counted_keeps_first (a : ActiveTrial) (row : RequestRow) {hash : Digest}
    (hsome : a.first_action_hash = some hash) :
    (a.counted row).first_action_hash = a.first_action_hash := by
  simp [ActiveTrial.counted, hsome]

theorem ActiveTrial.counted_last (a : ActiveTrial) {row : RequestRow}
    (hkind : row.request_kind = py "infer") :
    (a.counted row).last_action_hash = some row.action_hash := by
  simp [ActiveTrial.counted, hkind]

/-- **A recorded row** adds its inference. -/
theorem Evidence.add {nx : Numerics} {a : ActiveTrial} {dir dir' : TrialDir}
    {infs : List PolicyRuntime.Inference} {inf : PolicyRuntime.Inference}
    (h : Evidence nx a dir infs)
    (hadds : TrialAuditStore.AddsRow nx a inf.row inf.result.actions dir dir')
    (hkind : inf.row.request_kind = py "infer") :
    Evidence nx (a.counted inf.row) dir' (infs ++ [inf]) := by
  obtain ⟨⟨diagnostics, hreq⟩, hchunk⟩ := hadds
  have hrows : List.Forall₂ RowOf dir'.requests (infs ++ [inf]) := by
    rw [hreq]
    exact List.rel_append h.rows (.cons ⟨diagnostics, rfl⟩ .nil)
  have hlast : (a.counted inf.row).last_action_hash = some inf.action_hash :=
    a.counted_last hkind
  cases infs with
  | nil =>
      -- the first row: its chunk is saved
      have hnone : a.first_action_hash = none := h.first
      rw [if_pos ⟨hkind, hnone⟩] at hchunk
      refine ⟨hrows, ?_, a.counted_first hkind hnone, hlast, ?_, by simp⟩
      · show a.request_count + 1 = 1
        rw [h.count]
        rfl
      · intro inf' hinf'
        cases hinf'
        exact hchunk
  | cons i infs =>
      have hsome : a.first_action_hash = some i.action_hash := h.first
      have hnot : ¬ (inf.row.request_kind = py "infer" ∧ a.first_action_hash = none) := by
        rw [hsome]
        simp
      rw [if_neg hnot] at hchunk
      refine ⟨hrows, ?_, (a.counted_keeps_first _ hsome).trans hsome, ?_, ?_, by simp⟩
      · show a.request_count + 1 = _
        rw [h.count]
        simp
      · rw [hlast, List.getLast?_concat]
        rfl
      · intro inf' hinf'
        obtain ⟨array, harr, hnpy, hjson⟩ := h.chunk inf' hinf'
        exact ⟨array, harr, hchunk.1.trans hnpy, hchunk.2.trans hjson⟩

/-- The call has begun to record, and the history does not know yet. -/
def Pc.recording : Pc → Bool
  | .inferFinish _ | .inferFailed _ _ _ => true
  | _ => false

theorem Pc.serving_of_recording {pc : Pc} (h : pc.recording = true) :
    (CallState.running pc).serving.isSome = true := by
  cases pc <;> first | rfl | cases h

/-- **While the runtime lives, the evidence of the recorded trial is that of
the responses under it**, with the one of the call between its row and its
response, if there is one. -/
structure EvidenceInv (nx : Numerics) (ls : List Label) (s : Sys) : Prop where
  settled : ∀ a, s.rt.audit.active = some a → ¬ s.rt.state.down →
    (∀ id pc, s.calls id = some (.running pc) → pc.recording = false) →
    ∃ dir, s.rt.audit.dirs a.trial_id = some dir ∧ Evidence nx a dir (answersUnder ls a.trial_id)
  recorded : ∀ a id inf, s.rt.audit.active = some a → ¬ s.rt.state.down →
    s.calls id = some (.running (.inferFinish inf)) →
    inf.request.trial_id = a.trial_id ∧ ∃ dir, s.rt.audit.dirs a.trial_id = some dir ∧
      Evidence nx a dir (answersUnder ls a.trial_id ++ [inf])

/-- A call is about to finish only after its audit call. -/
theorem Advance.finishing {cfg : RuntimeConfig} {nx : Numerics} {id : Nat}
    {rt rt' : PolicyRuntime} {pc : Pc} {ch : Choice} {next : CallState}
    {inf : PolicyRuntime.Inference} (h : Advance cfg nx id rt pc ch rt' next)
    (hn : next = .running (.inferFinish inf)) : pc = .inferRecord inf := by
  cases h with
  | @inferRecord inf' io r _ he => cases r <;> cases hn; rfl
  | @prepareEnter _ _ _ _ r _ _ | @prepareDrain _ _ _ r =>
      cases r with
      | error e => cases hn
      | ok d => cases d <;> cases hn
  | @prepareRelease _ loaded => cases loaded <;> cases hn
  | @beginSection _ _ _ _ r =>
      cases r with
      | ok st => cases hn
      | error e => cases e <;> cases hn
  | @inferEnter _ _ r => cases r <;> cases hn
  | @closeSection _ r => cases r <;> cases hn
  | @closeBackend audit_error => cases audit_error <;> cases hn
  | _ => cases hn

/-- The request in service is one of the recorded trial. -/
theorem OverlapInv.trial {s : Sys} (h : OverlapInv s) (hserved : ServedInv s) (hwf : s.rt.WF)
    (hlive : ¬ s.rt.state.down) {id : Nat} {pc : Pc} {request : InferenceRequest} {ref : Nat}
    {a : ActiveTrial} (hpc : s.calls id = some (.running pc))
    (hp : pc.unanswered = some (request, ref)) (ha : s.rt.audit.active = some a) :
    request.trial_id = a.trial_id := by
  rcases h.current id _ request ref hpc (Pc.serving_of_unanswered hp) with hd | ⟨lease, hl, href⟩
  · exact absurd hd hlive
  · have hul := hserved.lease id pc request ref lease hpc hp hl href
    have ht := (hwf.lease lease hl).trial_id.symm.trans (hwf.trial a ha).trial_id
    rw [hul.trial_id]
    exact Option.some.inj ht

/-- A step that leaves the recorded trial alone and records nothing. -/
theorem EvidenceInv.keep {nx : Numerics} {ls : List Label} {l : Label} {s s' : Sys}
    (h : EvidenceInv nx ls s) (hans : l.answer = none)
    (hact : s'.rt.audit.active = s.rt.audit.active)
    (hkeeps : s.rt.audit.KeepsEvidence s'.rt.audit)
    (hdown : s.rt.state.down → s'.rt.state.down)
    (hcalls : ∀ id pc, s.calls id = some (.running pc) → pc.recording = true →
      s'.calls id = some (.running pc))
    (hnew : ∀ id inf, s'.calls id = some (.running (.inferFinish inf)) →
      s.calls id = some (.running (.inferFinish inf))) : EvidenceInv nx (ls ++ [l]) s' := by
  refine ⟨?_, ?_⟩
  · intro a ha hd hno
    rw [answersUnder_snoc_none hans]
    obtain ⟨dir, hdir, he⟩ := h.settled a (hact.symm.trans ha) (fun hd' => hd (hdown hd')) (by
      intro id pc hpc
      cases hr : pc.recording with
      | false => rfl
      | true =>
          have := hno id pc (hcalls id pc hpc hr)
          rw [hr] at this
          cases this)
    obtain ⟨dir', hdir', hs⟩ := hkeeps _ _ hdir
    exact ⟨dir', hdir', he.same hs⟩
  · intro a id inf ha hd hid
    rw [answersUnder_snoc_none hans]
    obtain ⟨ht, dir, hdir, he⟩ := h.recorded a id inf (hact.symm.trans ha)
      (fun hd' => hd (hdown hd')) (hnew id inf hid)
    obtain ⟨dir', hdir', hs⟩ := hkeeps _ _ hdir
    exact ⟨ht, dir', hdir', he.same hs⟩

/-- Without a recorded trial, or down, there is nothing to show. -/
theorem EvidenceInv.over {nx : Numerics} {ls : List Label} {s : Sys}
    (h : s.rt.audit.active = none ∨ s.rt.state.down) : EvidenceInv nx ls s := by
  refine ⟨?_, ?_⟩
  · intro a ha hd _
    rcases h with h | h
    · cases h.symm.trans ha
    · exact absurd h hd
  · intro a id inf ha hd _
    rcases h with h | h
    · cases h.symm.trans ha
    · exact absurd h hd

/-- While the lock holder does not record, nobody does. -/
theorem LockInv.none_recording {s : Sys} (h : LockInv s) {i : Nat} {pc : Pc}
    (hi : s.calls i = some (.running pc)) (hl : pc.holdsLock = true) (hr : pc.recording = false) :
    ∀ j pc', s.calls j = some (.running pc') → pc'.recording = false := by
  intro j pc' hj
  cases hr' : pc'.recording with
  | false => rfl
  | true =>
      have hlock := CallState.holdsLock_of_serving (Pc.serving_of_recording hr')
      have := h.sole hi hl hj hlock
      subst this
      rw [hi] at hj
      cases hj
      rw [hr] at hr'
      cases hr'

theorem PolicyRuntime.inferRecord_eq {nx : Numerics} {rt rt' : PolicyRuntime}
    {inf : PolicyRuntime.Inference} {io : Io} {r : Except Exn Unit}
    (h : rt.inferRecord nx inf io = (r, rt')) :
    rt.audit.record_request nx inf.row inf.result.actions inf.request.observation io
      = (r, rt'.audit) ∧ rt' = { rt with audit := rt'.audit } := by
  unfold inferRecord at h
  cases hr : rt.audit.record_request nx inf.row inf.result.actions inf.request.observation io with
  | mk r₁ audit =>
      rw [hr] at h
      obtain ⟨rfl, rfl⟩ := Prod.mk.inj h
      exact ⟨rfl, rfl⟩

/-- **Recording** a row: the row is there, and the call may answer now. -/
theorem EvidenceInv.record {nx : Numerics} {ls : List Label} {s : Sys} {l : Label} {id : Nat}
    {inf : PolicyRuntime.Inference} {io : Io} {r : Except Exn Unit} {rt' : PolicyRuntime}
    (h : EvidenceInv nx ls s) (hlock : LockInv s) (hserved : ServedInv s)
    (hoverlap : OverlapInv s) (hwf : s.rt.WF) (hans : l.answer = none)
    (hpc : s.calls id = some (.running (.inferRecord inf))) (next : CallState)
    (hnext : next = match r with
      | .ok () => .running (.inferFinish inf)
      | .error e => .running (.inferFailed inf.request inf.lease_ref e))
    (he : s.rt.inferRecord nx inf io = (r, rt')) :
    EvidenceInv nx (ls ++ [l]) (s.setCall rt' id next) := by
  have hrec : ∃ pc, next = .running pc ∧ pc.recording = true := by
    cases r with
    | ok u => exact ⟨_, hnext, rfl⟩
    | error e => exact ⟨_, hnext, rfl⟩
  obtain ⟨pc', hpc', hrec⟩ := hrec
  refine ⟨?_, ?_⟩
  · intro a _ _ hno
    have := hno id pc' (by rw [Sys.setCall_self, hpc'])
    rw [hrec] at this
    cases this
  · intro a' j inf' ha' hd hj
    rcases Sys.setCall_calls_eq hj with ⟨rfl, hn⟩ | ⟨hne, hold⟩
    · -- the call itself, so its audit call returned
      cases r with
      | error e =>
          rw [hnext] at hn
          cases hn
      | ok u =>
          rw [hnext] at hn
          cases hn
          obtain ⟨hrecord, hrt⟩ := PolicyRuntime.inferRecord_eq he
          have hlive : ¬ s.rt.state.down := by
            rw [hrt] at hd
            exact hd
          obtain ⟨a, ha, hact, hdir⟩ := TrialAuditStore.record_request_ok hrecord
          cases hact.symm.trans ha'
          obtain ⟨dir, hd₀, hev⟩ :=
            h.settled a ha hlive (hlock.none_recording hpc rfl rfl)
          obtain ⟨dir', hd', hadds⟩ := hdir dir hd₀
          have ht := hoverlap.trial hserved hwf hlive hpc rfl ha
          have hkind : inf.row.request_kind = py "infer" := by
            show inf.request.request_kind.value = _
            rw [(hserved.kind j _ inf.request inf.lease_ref hpc rfl).1]
            rfl
          refine ⟨ht, dir', hd', ?_⟩
          rw [answersUnder_snoc_none hans]
          exact hev.add hadds hkind
    · -- no other call is in service
      have := hlock.sole hpc rfl hold rfl
      exact absurd this hne

/-- A call about to finish was so before, or has just recorded. -/
theorem Step.finishing {cfg : RuntimeConfig} {nx : Numerics} {s s' : Sys} {l : Label} {j : Nat}
    {inf : PolicyRuntime.Inference} (h : Step cfg nx s l s')
    (hj : s'.calls j = some (.running (.inferFinish inf))) :
    s.calls j = some (.running (.inferFinish inf)) ∨
      ∃ ch next, l = .step j (.inferRecord inf) ch next := by
  rcases step_cases h with ⟨id, op, rfl, -, rfl⟩ | ⟨id, pc, ch, rt', next, rfl, -, ha, rfl⟩
  · rcases Sys.setCall_calls_eq hj with ⟨-, hn⟩ | ⟨-, hold⟩
    · have := (op.start_holdsLock nx).2
      rw [← hn] at this
      cases this
    · exact .inl hold
  · rcases Sys.setCall_calls_eq hj with ⟨rfl, hn⟩ | ⟨-, hold⟩
    · obtain rfl := ha.finishing hn.symm
      exact .inr ⟨ch, next, rfl⟩
    · exact .inl hold

/-- A recording call takes one more step: it answers, or fails the runtime. -/
theorem Advance.recording {cfg : RuntimeConfig} {nx : Numerics} {id : Nat}
    {rt rt' : PolicyRuntime} {pc : Pc} {ch : Choice} {next : CallState}
    (h : Advance cfg nx id rt pc ch rt' next) (hr : pc.recording = true) :
    rt'.state.down ∨ ∀ ch, (Label.step id pc ch next).answer ≠ none := by
  cases h with
  | @inferFailed request ref e out _ he =>
      obtain ⟨f, code, hc⟩ := rt.inferFail_eq e
      cases he.symm.trans hc
      exact .inl (rt.failed_down _)
  | @inferFinish inf out _ he =>
      rcases rt.inferFinish_cases inf with ⟨lease, -, -, -, hc⟩ | ⟨f, -, hc⟩
      · cases he.symm.trans hc
        exact .inr fun _ => by simp [Label.answer]
      · cases he.symm.trans hc
        exact .inl (rt.failed_down _)
  | _ => cases hr

/-- **Beginning** a trial: no rows, no responses. -/
theorem EvidenceInv.begin {cfg : RuntimeConfig} {nx : Numerics} {ls : List Label} {l : Label}
    {s s' : Sys} {a : ActiveTrial} (hrun : RuntimeRun cfg nx ls s)
    (hoverlap : OverlapInv s) (hb : BeginsTrial s s' l a)
    (hfinishing : ∀ j inf, s'.calls j = some (.running (.inferFinish inf)) →
      s.calls j = some (.running (.inferFinish inf))) (hlive : ¬ s.rt.state.down) :
    EvidenceInv nx (ls ++ [l]) s' := by
  have hwf := (RuntimeRun.inv hrun).wf
  -- the responses of a trial stand in its directory's stead
  have hnone : answersUnder (ls ++ [l]) a.trial_id = [] := by
    rw [answersUnder_snoc_none hb.answer]
    apply Keyed.valuesAt_eq_nil
    rintro ⟨id, inf⟩ hmem ht
    have hans := (RuntimeRun.answeredInv hrun id inf.response).mpr ⟨inf, hmem, rfl⟩
    obtain ⟨c, hc, hr⟩ := Option.bind_eq_some_iff.mp hans
    have hdir := (RuntimeRun.answerInv hrun).answered id c inf.response hc hr
    rw [show inf.response.trial_id = a.trial_id from ht, hb.new] at hdir
    cases hdir
  refine ⟨?_, ?_⟩
  · intro a' ha' _ _
    cases hb.active.symm.trans ha'
    obtain ⟨dir, hdir, hblank⟩ := hb.blank
    rw [hnone]
    exact ⟨dir, hdir, .blank nx hb.counters.1 hb.counters.2.1 hb.counters.2.2 hblank⟩
  · -- nobody is in service without a trial
    intro a' j inf _ _ hj
    rcases hoverlap.current j _ inf.request inf.lease_ref (hfinishing j inf hj) rfl with
      hd | ⟨lease, hl, -⟩
    · exact absurd hd hlive
    · have ht := (hwf.lease lease hl).trial_id
      rw [hwf.trial_id_none_iff.mpr hb.idle] at ht
      cases ht

/-- **Every step keeps rows and responses together.** -/
theorem EvidenceInv.step {cfg : RuntimeConfig} {nx : Numerics} {ls : List Label} {s s' : Sys}
    {l : Label} (h : EvidenceInv nx ls s) (hrun : RuntimeRun cfg nx ls s)
    (hsound : Sound cfg nx ls s) (hst : Step cfg nx s l s') : EvidenceInv nx (ls ++ [l]) s' := by
  have hlock := RuntimeRun.lockInv hrun
  have hserved := RuntimeRun.servedInv hrun
  have hoverlap := RuntimeRun.overlapInv hrun hsound
  have hwf := (RuntimeRun.inv hrun).wf
  by_cases hover : s'.rt.audit.active = none ∨ s'.rt.state.down
  · exact .over hover
  rcases Step.answers hst with ⟨hans, -⟩ | ⟨id, inf, lease, hans, hc⟩
  · by_cases hrec : ∃ id inf ch next, l = .step id (.inferRecord inf) ch next
    · obtain ⟨id, inf, ch, next, rfl⟩ := hrec
      rcases step_cases hst with ⟨_, _, hl, -, -⟩ | ⟨_, _, _, rt', next', hl, hpc, ha, rfl⟩
      · cases hl
      · cases hl
        cases ha with
        | inferRecord he => exact h.record hlock hserved hoverlap hwf hans hpc _ rfl he
    · have hfinishing : ∀ j inf, s'.calls j = some (.running (.inferFinish inf)) →
          s.calls j = some (.running (.inferFinish inf)) := by
        intro j inf hj
        rcases Step.finishing hst hj with hold | ⟨ch, next, hl⟩
        · exact hold
        · exact absurd ⟨_, _, _, _, hl⟩ hrec
      rcases Step.begins hst with ⟨a, hb⟩ | ⟨-, hact⟩
      · exact .begin hrun hoverlap hb hfinishing (fun hd => hover (.inr (Step.down hst hd)))
      · have hsame : s'.rt.audit.active = s.rt.audit.active := by
          rcases hact with hact | hact | ⟨id, inf, ch, next, a, hl, -, -⟩
          · exact hact
          · exact absurd (.inl hact) hover
          · exact absurd ⟨_, _, _, _, hl⟩ hrec
        refine h.keep hans hsame ?_ (Step.down hst) ?_ hfinishing
        · rcases step_cases hst with ⟨id, op, -, -, rfl⟩ | ⟨id, pc, ch, rt', next, rfl, -, ha, rfl⟩
          · exact .refl _
          · apply ha.store.keeps
            rintro inf rfl
            exact hrec ⟨_, _, _, _, rfl⟩
        · -- a recording call that moves answers or fails the runtime
          intro j pc hj hr
          rcases step_cases hst with ⟨id, op, -, hnone, rfl⟩
            | ⟨id, pc', ch, rt', next, rfl, hpc, ha, rfl⟩
          · have hne : j ≠ id := by
              rintro rfl
              rw [hnone] at hj
              cases hj
            rw [Sys.setCall_other _ _ _ hne]
            exact hj
          · by_cases hje : j = id
            · subst hje
              cases hpc.symm.trans hj
              rcases ha.recording hr with hd | hsome
              · exact absurd (.inr hd) hover
              · exact absurd hans (hsome ch)
            · rw [Sys.setCall_other _ _ _ hje]
              exact hj
  · -- a response: it joins the history, whose row is there
    rw [hc.state]
    refine ⟨?_, ?_⟩
    · intro a ha hd _
      obtain ⟨ht, dir, hdir, hev⟩ := h.recorded a id inf ha hd hc.finishing
      rw [← ht, answersUnder_snoc_self hans, ht]
      exact ⟨dir, hdir, hev⟩
    · intro a j inf' ha hd hj
      rcases Sys.setCall_calls_eq hj with ⟨-, hn⟩ | ⟨hne, hold⟩
      · cases hn
      · exact absurd (hlock.sole hc.finishing rfl hold rfl) hne

theorem RuntimeRun.evidenceInv {cfg : RuntimeConfig} {nx : Numerics} {ls : List Label} {s : Sys}
    (h : RuntimeRun cfg nx ls s) (hsound : Sound cfg nx ls s) : EvidenceInv nx ls s := by
  refine Run.invariant (M := runtimeSystem cfg nx)
    (fun ls s => Sound cfg nx ls s → EvidenceInv nx ls s) ?_ ?_ h hsound
  · rintro s ⟨dirs, rfl⟩ _
    exact .over (.inl rfl)
  · intro ls s l s' hrun ih hst hsound
    exact (ih (hsound.init hst)).step hrun (hsound.init hst) hst

/-! ## §5. Commits. -/

/-- The row records the response. -/
structure Records (row : RequestRow) (response : InferenceResponse) : Prop where
  session_id : row.session_id = response.session_id
  trial_id : row.trial_id = response.trial_id
  skill : row.skill = response.skill
  generation : row.generation = response.generation
  sequence : row.sequence = response.sequence
  request_hash : row.request_hash = response.request_hash
  observation_hash : row.observation_hash = response.observation_hash
  noise_hash : row.noise_hash = response.noise_hash
  action_hash : row.action_hash = response.action_hash

theorem RowOf.records {row : RequestRow} {inf : PolicyRuntime.Inference} (h : RowOf row inf) :
    Records row inf.response := by
  obtain ⟨diagnostics, rfl⟩ := h
  exact ⟨rfl, rfl, rfl, rfl, rfl, rfl, rfl, rfl, rfl⟩

/-- What is read off the rows is read off the inferences. -/
theorem Evidence.map_rows {nx : Numerics} {a : ActiveTrial} {dir : TrialDir}
    {infs : List PolicyRuntime.Inference} (h : Evidence nx a dir infs) {β : Type}
    {f : RequestRow → β} {g : PolicyRuntime.Inference → β}
    (hfg : ∀ row inf, RowOf row inf → f row = g inf) : dir.requests.map f = infs.map g := by
  have hrows := h.rows
  clear h
  generalize dir.requests = rows at hrows
  induction hrows with
  | nil => rfl
  | cons hrow _ ih => rw [List.map_cons, List.map_cons, hfg _ _ hrow, ih]

/-- **The evidence of a committed trial.**  In a run in which no report of a
lost response undermines an inference in flight, a trial that is committed
while the runtime is READY has one row per response, in the same order; a call
has returned a response of the trial, or has only the lock left to release,
exactly when it is one of these; rows and responses come in one block per
session, numbered from 0; the counter, the first and the last action hash and
the saved first chunk are those of the rows; and skill, generation and root
seed are those of the one `begin_trial` of the trial. -/
theorem committed_evidence {cfg : RuntimeConfig} {nx : Numerics} {ls : List Label} {s s' : Sys}
    {l : Label} {summary : TrialRecord} (h : RuntimeRun cfg nx ls s) (hsound : Sound cfg nx ls s)
    (hready : s.rt.state = .READY) (hst : Step cfg nx s l s') (hc : l.commits = some summary) :
    ∃ dir, s'.rt.audit.dirs summary.trial_id = some dir ∧
      List.Forall₂ Records dir.requests
        ((answersUnder ls summary.trial_id).map PolicyRuntime.Inference.response) ∧
      (∀ id response, response.trial_id = summary.trial_id →
        ((s'.calls id = some (.returned (.ok (.response response))) ∨
          s'.calls id = some (.running (.inferRelease (.ok response)))) ↔
          ∃ inf, (id, inf) ∈ answers ls ∧ inf.response = response)) ∧
      InBlocks (openedUnder ls summary.trial_id)
        (dir.requests.map fun row => (row.session_id, row.sequence)) ∧
      summary.request_count = some dir.requests.length ∧
      summary.first_action_hash = dir.requests.head?.map (·.action_hash) ∧
      summary.last_action_hash = dir.requests.getLast?.map (·.action_hash) ∧
      (∀ inf, (answersUnder ls summary.trial_id).head? = some inf →
        TrialAuditStore.FirstChunk nx summary.trial_id inf.response.sequence inf.response.actions
          inf.response.action_hash dir) ∧
      begunUnder ls summary.trial_id =
        [{ trial_id := summary.trial_id, skill := some summary.skill,
           generation := summary.generation, root_seed := summary.root_seed }] := by
  obtain ⟨a, audit, hlease, hact, rfl, hrt, hkeep⟩ := hst.commits hc
  have hwf := (RuntimeRun.inv h).wf
  have hlive : ¬ s.rt.state.down := by
    rw [hready]
    exact RuntimeState.READY_not_down
  -- the session is closed, so nobody is in service
  have hserve := (RuntimeRun.overlapInv h hsound).idle (hwf.activeLease.symm.trans hlease) hlive
  obtain ⟨dir, hdir, hev⟩ := (RuntimeRun.evidenceInv h hsound).settled a hact hlive (by
    intro id pc hpc
    cases hr : pc.recording with
    | false => rfl
    | true =>
        have := Pc.serving_of_recording hr
        rw [hserve id _ hpc] at this
        cases this)
  -- the commit itself writes neither rows nor chunk, and answers nobody
  have hcommit : l.answer = none ∧ s.rt.audit.KeepsEvidence s'.rt.audit := by
    rcases step_cases hst with ⟨id, op, rfl, -, -⟩ | ⟨id, pc, ch, rt', next, rfl, -, ha, rfl⟩
    · cases hc
    · have hpc : pc = .endTrial := by
        cases pc <;> first | rfl | cases hc
      subst hpc
      exact ⟨rfl, ha.store.keeps fun inf heq => by cases heq⟩
  obtain ⟨hans, hkeeps⟩ := hcommit
  obtain ⟨dir', hdir', hsame⟩ := hkeeps _ _ hdir
  have hev := hev.same hsame
  refine ⟨dir', hdir', ?_, ?_, ?_, ?_, ?_, ?_, hev.chunk, (RuntimeRun.begunInv h).active a hact⟩
  · rw [List.forall₂_map_right_iff]
    exact hev.rows.imp fun _ _ => RowOf.records
  · intro id response _
    constructor
    · intro hcall
      have hs' : s'.answered id = some response := by
        unfold Sys.answered
        rcases hcall with hcall | hcall <;> rw [hcall] <;> rfl
      have := (RuntimeRun.answeredInv (Run.snoc h hst) id response).mp hs'
      rw [answers_snoc_none hans] at this
      exact this
    · intro hmem
      have hs := (RuntimeRun.answeredInv h id response).mpr hmem
      obtain ⟨c, hcall, hr⟩ := Option.bind_eq_some_iff.mp hs
      have hcall' := hkeep id c hcall (.inr (by simp [hr]))
      rcases CallState.answered_settled hr (hserve id c hcall) with rfl | rfl
      · exact .inl hcall'
      · exact .inr hcall'
  · have hblocks := (RuntimeRun.blockInv h).blocks a.trial_id
    unfold answerKeys at hblocks
    rw [hev.map_rows (g := fun inf => (inf.request.session_id, inf.request.sequence))]
    · exact hblocks
    · rintro row inf ⟨diagnostics, rfl⟩
      rfl
  · show some a.request_count = _
    rw [hev.count, hev.rows.length_eq]
  · show a.first_action_hash = _
    have hmap := hev.map_rows (f := (·.action_hash)) (g := (·.action_hash))
      (by rintro row inf ⟨diagnostics, rfl⟩; rfl)
    rw [hev.first, ← List.head?_map, ← List.head?_map, hmap]
  · show a.last_action_hash = _
    have hmap := hev.map_rows (f := (·.action_hash)) (g := (·.action_hash))
      (by rintro row inf ⟨diagnostics, rfl⟩; rfl)
    rw [hev.last, ← List.getLast?_map, ← List.getLast?_map, hmap]

/-- The payload in another session. -/
def Value.withSession (session_id : PyStr) : Value → Value
  | .map d => .map (d.map fun e =>
      if e.1 = .str (py "session_id") then (e.1, .str session_id) else e)
  | v => v

/-- A whole inference that is answered with these actions. -/
def answeredWith (id : Nat) (session_id : PyStr) (sequence : Int) (actions : Value) : List Move :=
  [.call id (.infer ((samplePayload sequence).withSession session_id)), .step id .acquired,
   .step id (.clock 1), .step id (.inferred (.ok { actions := actions, noise_hash := [] })),
   .step id (.io Io.clean), .step id .go, .step id .go, .step id .go]

def secondId : PyStr := py "00000000-0000-4000-8000-000000000001"

/-- A trial of two sessions with two responses each, closed and committed. -/
def committedMoves : List Move :=
  warmUp sampleId sampleToken ++ answeredWith 3 sampleId 0 (.int 1) ++
    answeredWith 4 sampleId 1 (.int 2) ++ [.call 5 (.close_session sampleId), .step 5 .go] ++
    openMoves 6 secondId sampleToken ++ answeredWith 7 secondId 0 (.int 3) ++
    answeredWith 8 secondId 1 (.int 4) ++
    [.call 9 (.close_session secondId), .step 9 .go, .call 10 .end_trial]

/-- Numeric functions under which these actions have different hashes. -/
def countingNumerics : Numerics :=
  { constNumerics with
    stable_tree_hash := fun
      | .int i => .ok (List.replicate 32 (UInt8.ofNat i.toNat))
      | _ => .ok (List.replicate 32 0) }

/-- What the trial of `committedMoves` comes to. -/
def sumsUp (ls : List Label) (summary : TrialRecord) : Bool :=
  decide (summary.request_count = some 4) &&
    decide (openedUnder ls summary.trial_id = [sampleId, secondId]) &&
    decide ((answersUnder ls summary.trial_id).length = 4) &&
    decide (summary.first_action_hash ≠ summary.last_action_hash)

/-- The ordinary trial: its rows are those of its responses, in two blocks. -/
theorem committed_evidence_ordinary : ∃ ls s l s' summary dir,
    RuntimeRun defaultConfig countingNumerics ls s ∧ Step defaultConfig countingNumerics s l s' ∧
      l.commits = some summary ∧ s'.rt.audit.dirs summary.trial_id = some dir ∧
      sumsUp ls summary = true ∧
      List.Forall₂ Records dir.requests
        ((answersUnder ls summary.trial_id).map PolicyRuntime.Inference.response) ∧
      InBlocks (openedUnder ls summary.trial_id)
        (dir.requests.map fun row => (row.session_id, row.sequence)) ∧
      summary.first_action_hash = dir.requests.head?.map (·.action_hash) ∧
      summary.last_action_hash = dir.requests.getLast?.map (·.action_hash) := by
  have hreplay : (((Sys.initial fun _ => none).replay defaultConfig countingNumerics
      committedMoves).bind fun r =>
        (r.2.move defaultConfig countingNumerics (.step 10 (.io Io.clean))).map fun q =>
          decide (r.2.rt.state = .READY) && q.1.commits.any (sumsUp r.1)) = some true := by
    decide +kernel
  obtain ⟨⟨ls, s⟩, hr, hm⟩ := Option.bind_eq_some_iff.mp hreplay
  obtain ⟨⟨l, s'⟩, hmove, hp⟩ := Option.map_eq_some_iff.mp hm
  obtain ⟨hready, hcommit⟩ := Bool.and_eq_true_iff.mp hp
  obtain ⟨summary, hc, hsum⟩ := (Option.any_eq_true _ _).mp hcommit
  have hos : ∀ l ∈ ls, l.OnlyOS := by
    apply Sys.replay_onlyOS hr
    simp [committedMoves, warmUp, prepareMoves, beginMoves, openMoves, answeredWith, Move.OnlyOS,
      Choice.OnlyOS, Io.clean_onlyOS]
  obtain ⟨dir, hdir, hrows, -, hblocks, -, hfirst, hlast, -⟩ := committed_evidence
    (Sys.replay_run hr) (.of_onlyOS hos) (of_decide_eq_true hready) (Sys.move_step hmove) hc
  exact ⟨ls, s, l, s', summary, dir, Sys.replay_run hr, Sys.move_step hmove, hc, hdir, hsum,
    hrows, hblocks, hfirst, hlast⟩

/-- **A committed row that nobody was answered for.**  The report of a lost
response, whose manifest write raises no `OSError`, drops the lease between
the row and the response of an inference; `end_trial` commits the row, and the
inference then raises. -/
theorem committed_with_unanswered_row : ∃ ls s l s' summary dir,
    RuntimeRun defaultConfig constNumerics ls s ∧ s.rt.state = .READY ∧
      Step defaultConfig constNumerics s l s' ∧ l.commits = some summary ∧
      summary.request_count = some 1 ∧ s'.rt.audit.dirs summary.trial_id = some dir ∧
      dir.requests.length = 1 ∧ answers (ls ++ [l]) = [] := by
  obtain ⟨ls, s, l, s', hrun, hst, hp⟩ := Sys.exists_step defaultConfig constNumerics
    (fun _ => none)
    (warmUp sampleId sampleToken ++ policyMoves 3 0 ++
      [.step 3 (.io Io.clean), .call 4 (.mark_transport_ambiguous sampleId 0),
       .step 4 (.io fun _ => .raised .Other false), .call 5 .end_trial])
    (.step 5 (.io Io.clean))
    (fun ls s l s' => decide (s.rt.state = .READY ∧
      (l.commits.map fun c => (c.request_count,
        (s'.rt.audit.dirs c.trial_id).map (·.requests.length))) = some (some 1, some 1) ∧
      (answers (ls ++ [l])).length = 0))
    (by decide +kernel)
  obtain ⟨hready, hcommit, hnone⟩ := of_decide_eq_true hp
  obtain ⟨summary, hc, heq⟩ := Option.map_eq_some_iff.mp hcommit
  obtain ⟨hcount, hrows⟩ := Prod.mk.inj heq
  obtain ⟨dir, hdir, hlength⟩ := Option.map_eq_some_iff.mp hrows
  exact ⟨ls, s, l, s', summary, dir, hrun, hready, hst, hc, hcount, hdir, hlength,
    List.length_eq_zero_iff.mp hnone⟩

end OvenRuntime
