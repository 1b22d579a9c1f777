/-
  OvenRuntime.Server.TrialEvidence
  ────────────────────────────────
  What a trial directory says about how its trial ended.

  `end` commits through two files and leaves the trial active when a write
  raises, even one that has taken effect.  The calls that follow then write
  over evidence that is already there; as long as none does, the files agree
  (`evidence_consistent_iff`).
-/
import OvenRuntime.Server.AuditRules
import OvenRuntime.Lib.Mealy

namespace OvenRuntime

/-! ## §1. Calls of the store. -/

/-- A call of the store with its arguments. -/
inductive StoreCall where
  | begin (trial_id skill : PyStr) (generation : Nat) (root_seed : Int)
  | record_request (row : RequestRow) (actions : Value) (observation : Dict)
  | end
  | abort (reason : PyStr)
  | mark_ambiguous (reason : PyStr) (sequence : Int)

/-- What a call raises, and the store after it. -/
def storeOutcome {α : Type} (result : Except Exn α × TrialAuditStore) : Option Exn × TrialAuditStore :=
  match result.1 with
  | .ok _ => (none, result.2)
  | .error e => (some e, result.2)

@[simp] theorem storeOutcome_snd {α : Type} (result : Except Exn α × TrialAuditStore) :
    (storeOutcome result).2 = result.2 := by
  unfold storeOutcome
  split <;> rfl

/-- One call, with the outcome of each of its writes. -/
def TrialAuditStore.step (nx : Numerics) (st : TrialAuditStore) (c : StoreCall × Io) :
    Option Exn × TrialAuditStore :=
  match c.1 with
  | .begin trial_id skill generation root_seed =>
      storeOutcome (st.begin trial_id skill generation root_seed c.2)
  | .record_request row actions observation =>
      storeOutcome (st.record_request nx row actions observation c.2)
  | .end => storeOutcome (st.end c.2)
  | .abort reason => storeOutcome (st.abort reason c.2)
  | .mark_ambiguous reason sequence => storeOutcome (st.mark_ambiguous reason sequence c.2)

/-! ## §2. Consistent evidence. -/

/-- The trial is over. -/
def TrialRecord.Terminal (record : TrialRecord) : Prop := record.status ≠ .ACTIVE

/-- A terminal manifest has a summary beside it exactly if it says COMMITTED,
and then the two are the same. -/
def TrialDir.Consistent (d : TrialDir) : Prop :=
  ∀ manifest, d.server_manifest = some manifest → manifest.Terminal →
    (d.trial_summary.isSome = true ↔ manifest.status = .COMMITTED) ∧
    (manifest.status = .COMMITTED → d.trial_summary = some manifest)

namespace TrialAuditStore

/-- Every trial directory is consistent. -/
def Consistent (st : TrialAuditStore) : Prop :=
  ∀ id d, st.dirs id = some d → d.Consistent

/-- Terminal manifests of the one store are manifests of the other. -/
def Frozen (st st' : TrialAuditStore) : Prop :=
  ∀ id d manifest, st.dirs id = some d → d.server_manifest = some manifest →
    manifest.Terminal → ∃ d', st'.dirs id = some d' ∧ d'.server_manifest = some manifest

/-- A call leaves consistent evidence and every terminal manifest as it is. -/
def Honest (nx : Numerics) (st : TrialAuditStore) (c : StoreCall × Io) : Prop :=
  (st.step nx c).2.Consistent ∧ st.Frozen (st.step nx c).2

/-- The file an atomic write is about has been replaced. -/
def visible (w : WriteOutcome) (record : TrialRecord) : Bool :=
  (_atomic_json w record.encodable).2

/-- A manifest of the active trial that is already terminal is this one. -/
def Repeats (st : TrialAuditStore) (active : ActiveTrial) (record : TrialRecord) : Prop :=
  ∀ d manifest, st.dirs active.trial_id = some d → d.server_manifest = some manifest →
    manifest.Terminal → manifest = record

/-- A trial that is terminated with this record has not been committed. -/
def Terminates (st : TrialAuditStore) (active : ActiveTrial) (w : WriteOutcome)
    (record : TrialRecord) : Prop :=
  visible w record = true →
    st.Repeats active record ∧ ∀ d, st.dirs active.trial_id = some d → d.trial_summary = none

/-- A call whose write takes effect finds no evidence of another ending of
the trial. -/
def FirstEnding (st : TrialAuditStore) (c : StoreCall × Io) : Prop :=
  ∀ active, st.active = some active →
    match c.1 with
    | .begin .. | .record_request .. => True
    | .end => visible (c.2 0) active.summary = true → st.Repeats active active.summary
    | .abort reason =>
        st.Terminates active (c.2 0) (active.terminated .ABORTED reason none)
    | .mark_ambiguous reason sequence =>
        st.Terminates active (c.2 0)
          (active.terminated .AMBIGUOUS_INFERENCE reason (some sequence))

/-! ## §3. What each call writes. -/

/-- A write into a directory shows there and nowhere else. -/
theorem dirs_writeIf (st : TrialAuditStore) (name id : PyStr) (b : Bool)
    (f : TrialDir → TrialDir) :
    (st.writeIf name b f).dirs id =
      if b = true ∧ id = name then (st.dirs id).map f else st.dirs id := by
  unfold writeIf
  cases b with
  | false => simp
  | true => by_cases h : id = name <;> simp [h]

/-- The two files that say how a trial ended. -/
def ending (st : TrialAuditStore) (id : PyStr) :
    Option (Option TrialRecord × Option TrialRecord) :=
  (st.dirs id).map fun d => (d.server_manifest, d.trial_summary)

/-- Consistency depends on these two files only. -/
theorem consistent_of_ending {st st' : TrialAuditStore} {id : PyStr} {d' : TrialDir}
    (h : st'.ending id = st.ending id) (hst : st.Consistent) (hd' : st'.dirs id = some d') :
    d'.Consistent := by
  unfold ending at h
  rw [hd'] at h
  obtain ⟨d, hd, heq⟩ := Option.map_eq_some_iff.mp h.symm
  have hmanifest : d.server_manifest = d'.server_manifest := congrArg Prod.fst heq
  have hsummary : d.trial_summary = d'.trial_summary := congrArg Prod.snd heq
  intro manifest hm hterminal
  rw [← hsummary]
  exact hst id d hd manifest (hmanifest.trans hm) hterminal

theorem frozen_of_ending {st st' : TrialAuditStore} {id : PyStr} {d : TrialDir}
    {manifest : TrialRecord} (h : st'.ending id = st.ending id) (hd : st.dirs id = some d)
    (hm : d.server_manifest = some manifest) :
    ∃ d', st'.dirs id = some d' ∧ d'.server_manifest = some manifest := by
  unfold ending at h
  rw [hd] at h
  obtain ⟨d', hd', heq⟩ := Option.map_eq_some_iff.mp h
  exact ⟨d', hd', (congrArg Prod.fst heq).trans hm⟩

/-- A write to another file leaves them alone. -/
theorem ending_writeIf (st : TrialAuditStore) (name id : PyStr) (b : Bool)
    {f : TrialDir → TrialDir}
    (hf : ∀ d, (f d).server_manifest = d.server_manifest ∧ (f d).trial_summary = d.trial_summary) :
    (st.writeIf name b f).ending id = st.ending id := by
  unfold ending
  rw [dirs_writeIf]
  split
  · cases st.dirs id with
    | none => rfl
    | some d => exact congrArg some (Prod.ext (hf d).1 (hf d).2)
  · rfl

theorem beginWrite_dirs (st : TrialAuditStore) (trial_id skill : PyStr) (generation : Nat)
    (root_seed : Int) (w : WriteOutcome) (id : PyStr) :
    (st.beginWrite trial_id skill generation root_seed w).2.dirs id =
      (st.writeIf trial_id (visible w (beginManifest trial_id skill generation root_seed)) fun d =>
        { d with server_manifest := some <|
            beginManifest trial_id skill generation root_seed }).dirs id := by
  unfold beginWrite visible
  simp only
  split <;> rfl

/-- `begin` makes at most a new directory without an ending. -/
theorem begin_dirs (st : TrialAuditStore) (trial_id skill : PyStr) (generation : Nat)
    (root_seed : Int) (io : Io) (id : PyStr) :
    (st.begin trial_id skill generation root_seed io).2.dirs id = st.dirs id ∨
    (st.dirs id = none ∧ ∃ d,
      (st.begin trial_id skill generation root_seed io).2.dirs id = some d ∧
      ∀ manifest, d.server_manifest = some manifest → ¬ manifest.Terminal) := by
  unfold TrialAuditStore.begin
  cases hact : st.active with
  | some a => exact .inl rfl
  | none =>
      by_cases hdir : (st.dirs trial_id).isSome = true
      · simp only [hdir, if_true]
        exact .inl trivial
      · simp only [hdir, if_false, Bool.false_eq_true]
        have hnone : st.dirs trial_id = none := by simpa using hdir
        have hmade : (st.mkdir trial_id).dirs id
            = if id = trial_id then some {} else st.dirs id := rfl
        cases hio : io 0 with
        | raised e applied =>
            cases applied with
            | false => exact .inl rfl
            | true =>
                by_cases h : id = trial_id
                · exact .inr ⟨h ▸ hnone, {}, hmade.trans (if_pos h), by simp⟩
                · exact .inl (hmade.trans (if_neg h))
        | done =>
            simp only
            rw [beginWrite_dirs, dirs_writeIf, hmade]
            by_cases h : id = trial_id
            · -- the directory is new, and its manifest says ACTIVE
              refine .inr ⟨h ▸ hnone, ?_⟩
              rw [if_pos h]
              split
              · refine ⟨_, rfl, ?_⟩
                intro manifest hm
                rw [← Option.some_inj.mp hm]
                exact fun hterminal => hterminal rfl
              · exact ⟨{}, rfl, by simp⟩
            · rw [if_neg h, if_neg (fun hb => h hb.2)]
              exact .inl rfl

/-- `record_request` writes neither of the two files. -/
theorem record_request_ending (nx : Numerics) (st : TrialAuditStore) (row : RequestRow)
    (actions : Value) (observation : Dict) (io : Io) (id : PyStr) :
    (st.record_request nx row actions observation io).2.ending id = st.ending id := by
  have hnpy : ∀ (name : PyStr) (b : Bool) (array : NdArray),
      (st.writeIf name b fun d => { d with first_action_chunk_npy := some array }).ending id
        = st.ending id := fun _ _ _ => ending_writeIf _ _ _ _ fun _ => ⟨rfl, rfl⟩
  have hjson : ∀ (st : TrialAuditStore) (name : PyStr) (b : Bool) (chunk : ChunkRecord),
      (st.writeIf name b fun d => { d with first_action_chunk_json := some chunk }).ending id
        = st.ending id := fun _ _ _ _ => ending_writeIf _ _ _ _ fun _ => ⟨rfl, rfl⟩
  have happend : ∀ (st : TrialAuditStore) (name : PyStr) (b : Bool) (row : RequestRow),
      (st.writeIf name b fun d => { d with requests := d.requests ++ [row] }).ending id
        = st.ending id := fun _ _ _ _ => ending_writeIf _ _ _ _ fun _ => ⟨rfl, rfl⟩
  have hchunk : ∀ (active : ActiveTrial) (row : RequestRow),
      (st.writeFirstChunk nx active row actions io).2.ending id = st.ending id := by
    intro active row
    unfold writeFirstChunk
    split
    · rfl
    · simp only
      split
      · exact hnpy _ _ _
      · exact (hjson _ _ _ _).trans (hnpy _ _ _)
  have hrow : ∀ active : ActiveTrial,
      (st.writeRow nx active row actions observation io).2.ending id = st.ending id := by
    intro active
    unfold writeRow
    split
    · rfl
    · simp only
      by_cases hfirst : row.request_kind = py "infer" ∧ active.first_action_hash = none
      · rw [if_pos hfirst]
        split
        · exact hchunk active _
        · exact (happend _ _ _ _).trans (hchunk active _)
      · rw [if_neg hfirst]
        exact happend _ _ _ _
  unfold record_request
  cases st.active with
  | none => rfl
  | some active =>
      simp only
      split
      · exact hrow active
      · exact hrow active

/-- `abort` and `mark_ambiguous` write the manifest. -/
theorem _terminate_dirs (st : TrialAuditStore) {active : ActiveTrial}
    (hact : st.active = some active) (status : TrialStatus) (reason : PyStr)
    (sequence : Option Int) (io : Io) (id : PyStr) :
    (st._terminate status reason sequence io).2.dirs id =
      (st.writeIf active.trial_id
        (visible (io 0) (active.terminated status reason sequence)) fun d =>
          { d with server_manifest := some (active.terminated status reason sequence) }).dirs id := by
  unfold _terminate visible
  simp only [hact]
  split <;> rfl

/-- `end` writes the summary, and the manifest once that write has returned. -/
theorem end_dirs (st : TrialAuditStore) {active : ActiveTrial} (hact : st.active = some active)
    (io : Io) (id : PyStr) :
    (st.end io).2.dirs id =
      ((st.writeIf active.trial_id (visible (io 0) active.summary) fun d =>
          { d with trial_summary := some active.summary }).writeIf active.trial_id
        (decide (io 0 = .done) && visible (io 1) active.summary) fun d =>
          { d with server_manifest := some active.summary }).dirs id := by
  unfold TrialAuditStore.end visible
  simp only [hact]
  cases hw : io 0 with
  | raised e applied =>
      simp only [_atomic_json, reduceCtorEq, decide_false, Bool.false_and]
      rw [dirs_writeIf (st.writeIf ..)]
      simp
  | done =>
      cases henc : active.summary.encodable with
      | true =>
          simp only [_atomic_json_clean, decide_true, Bool.true_and]
          split <;> rfl
      | false =>
          have hnone : (_atomic_json (io 1) false).2 = false := by
            cases io 1 with
            | done => rfl
            | raised e applied => exact Bool.and_false applied
          rw [hnone]
          rfl

/-- The trial directory after `end`. -/
theorem end_dir (st : TrialAuditStore) {active : ActiveTrial} (hact : st.active = some active)
    (io : Io) (hvisible : visible (io 0) active.summary = true) {d : TrialDir}
    (hd : st.dirs active.trial_id = some d) :
    ∃ d', (st.end io).2.dirs active.trial_id = some d' ∧
      d'.trial_summary = some active.summary ∧
      (d'.server_manifest = some active.summary ∨ d'.server_manifest = d.server_manifest) := by
  have hfirst : (st.writeIf active.trial_id (visible (io 0) active.summary) fun d =>
      { d with trial_summary := some active.summary }).dirs active.trial_id
        = some { d with trial_summary := some active.summary } := by
    rw [dirs_writeIf, if_pos ⟨hvisible, rfl⟩, hd]
    rfl
  rw [st.end_dirs hact io, dirs_writeIf, hfirst]
  split
  · exact ⟨_, rfl, rfl, .inl rfl⟩
  · exact ⟨_, rfl, rfl, .inr rfl⟩

theorem end_dirs_of_ne (st : TrialAuditStore) {active : ActiveTrial}
    (hact : st.active = some active) (io : Io) {id : PyStr} (hid : id ≠ active.trial_id) :
    (st.end io).2.dirs id = st.dirs id := by
  rw [st.end_dirs hact io, dirs_writeIf, dirs_writeIf, if_neg fun h => hid h.2,
    if_neg fun h => hid h.2]

/-- A summary that is not written has no manifest written after it. -/
theorem end_dirs_of_hidden (st : TrialAuditStore) {active : ActiveTrial}
    (hact : st.active = some active) (io : Io)
    (hhidden : ¬ visible (io 0) active.summary = true) (id : PyStr) :
    (st.end io).2.dirs id = st.dirs id := by
  have hsecond : (decide (io 0 = .done) && visible (io 1) active.summary) = false := by
    cases hw : io 0 with
    | raised e applied => rfl
    | done =>
        have henc : active.summary.encodable = false := by
          cases henc : active.summary.encodable with
          | false => rfl
          | true => exact absurd (by simp [visible, hw, henc]) hhidden
        cases hw' : io 1 <;> simp [visible, _atomic_json, henc]
  rw [st.end_dirs hact io, dirs_writeIf, hsecond, if_neg fun h => Bool.false_ne_true h.1,
    dirs_writeIf, if_neg fun h => hhidden h.1]

/-! ## §4. One call. -/

/-- `begin` is honest. -/
theorem begin_honest {st : TrialAuditStore} (hst : st.Consistent) (trial_id skill : PyStr)
    (generation : Nat) (root_seed : Int) (io : Io) :
    (st.begin trial_id skill generation root_seed io).2.Consistent ∧
      st.Frozen (st.begin trial_id skill generation root_seed io).2 := by
  refine ⟨?_, ?_⟩
  · intro id d hd
    rcases st.begin_dirs trial_id skill generation root_seed io id with hsame | ⟨-, d', hd', hopen⟩
    · rw [hsame] at hd
      exact hst id d hd
    · rw [hd'] at hd
      rw [← Option.some_inj.mp hd]
      exact fun manifest hm hterminal => absurd hterminal (hopen manifest hm)
  · intro id d manifest hd hm _
    rcases st.begin_dirs trial_id skill generation root_seed io id with hsame | ⟨hnone, -⟩
    · exact ⟨d, hsame.trans hd, hm⟩
    · rw [hnone] at hd
      cases hd

/-- A terminated trial has consistent evidence exactly if it was not ended
before in another way. -/
theorem _terminate_honest_iff {st : TrialAuditStore} (hst : st.Consistent) {active : ActiveTrial}
    (hact : st.active = some active) {status : TrialStatus} (hactive : status ≠ .ACTIVE)
    (hcommitted : status ≠ .COMMITTED) (reason : PyStr) (sequence : Option Int) (io : Io) :
    ((st._terminate status reason sequence io).2.Consistent ∧
        st.Frozen (st._terminate status reason sequence io).2) ↔
      st.Terminates active (io 0) (active.terminated status reason sequence) := by
  set record := active.terminated status reason sequence with hrecord
  have hdirs := fun id => st._terminate_dirs hact status reason sequence io id
  rw [← hrecord] at hdirs
  set st' := (st._terminate status reason sequence io).2
  have hterminal : record.Terminal := hactive
  constructor
  · intro ⟨hconsistent, hfrozen⟩ hvisible
    have hmanifest : ∀ d, st.dirs active.trial_id = some d →
        st'.dirs active.trial_id = some { d with server_manifest := some record } := by
      intro d hd
      rw [hdirs, dirs_writeIf, if_pos ⟨hvisible, rfl⟩, hd]
      rfl
    refine ⟨?_, ?_⟩
    · intro d manifest hd hm hover
      obtain ⟨d', hd', hm'⟩ := hfrozen _ d manifest hd hm hover
      rw [hmanifest d hd] at hd'
      rw [← Option.some_inj.mp hd'] at hm'
      exact (Option.some_inj.mp hm').symm
    · intro d hd
      have hiff := (hconsistent _ _ (hmanifest d hd) record rfl hterminal).1
      cases hsummary : d.trial_summary with
      | none => rfl
      | some summary =>
          exact absurd (hiff.mp (by simp [hsummary])) hcommitted
  · intro hcond
    refine ⟨?_, ?_⟩
    · intro id d' hd'
      rw [hdirs, dirs_writeIf] at hd'
      split at hd'
      · next h =>
          obtain ⟨d, hd, rfl⟩ := Option.map_eq_some_iff.mp hd'
          have hsummary := (hcond h.1).2 d (h.2 ▸ hd)
          intro manifest hm _
          rw [← Option.some_inj.mp hm]
          show (d.trial_summary.isSome = true ↔ status = .COMMITTED) ∧ (status = .COMMITTED → _)
          rw [hsummary]
          exact ⟨by simp [hcommitted], fun h => absurd h hcommitted⟩
      · exact hst id d' hd'
    · intro id d manifest hd hm hover
      rw [hdirs, dirs_writeIf]
      split
      · next h =>
          refine ⟨_, by rw [hd]; rfl, ?_⟩
          rw [(hcond h.1).1 d manifest (h.2 ▸ hd) hm hover]
      · exact ⟨d, hd, hm⟩

theorem frozen_refl (st : TrialAuditStore) : st.Frozen st :=
  fun _ d _ hd hm _ => ⟨d, hd, hm⟩

/-- `abort` and `mark_ambiguous`, with or without an active trial. -/
theorem terminate_honest_iff {st : TrialAuditStore} (hst : st.Consistent) {status : TrialStatus}
    (hactive : status ≠ .ACTIVE) (hcommitted : status ≠ .COMMITTED) (reason : PyStr)
    (sequence : Option Int) (io : Io) :
    ((st._terminate status reason sequence io).2.Consistent ∧
        st.Frozen (st._terminate status reason sequence io).2) ↔
      ∀ active, st.active = some active →
        st.Terminates active (io 0) (active.terminated status reason sequence) := by
  cases hact : st.active with
  | none =>
      unfold _terminate
      simp only [hact]
      exact ⟨fun _ _ h => absurd h (by simp), fun _ => ⟨hst, frozen_refl st⟩⟩
  | some active =>
      rw [_terminate_honest_iff hst hact hactive hcommitted reason sequence io]
      simp only [Option.some.injEq, forall_eq']

/-- A committed trial has consistent evidence exactly if it was not ended
before in another way. -/
theorem end_honest_iff {st : TrialAuditStore} (hst : st.Consistent) {active : ActiveTrial}
    (hact : st.active = some active) (io : Io) :
    ((st.end io).2.Consistent ∧ st.Frozen (st.end io).2) ↔
      (visible (io 0) active.summary = true → st.Repeats active active.summary) := by
  have hcommitted : active.summary.status = .COMMITTED := rfl
  constructor
  · intro ⟨hconsistent, hfrozen⟩ hvisible d manifest hd hm hover
    obtain ⟨d', hd', hsummary, -⟩ := st.end_dir hact io hvisible hd
    obtain ⟨d'', hd'', hm'⟩ := hfrozen _ d manifest hd hm hover
    rw [hd'] at hd''
    rw [← Option.some_inj.mp hd''] at hm'
    -- the summary is there, so the manifest has to say the same
    obtain ⟨hiff, hsame⟩ := hconsistent _ d' hd' manifest hm' hover
    have := hsame (hiff.mp (by rw [hsummary]; rfl))
    rw [hsummary] at this
    exact (Option.some_inj.mp this).symm
  · intro hcond
    by_cases hvisible : visible (io 0) active.summary = true
    · have hrepeats := hcond hvisible
      refine ⟨?_, ?_⟩
      · intro id d' hd'
        by_cases hid : id = active.trial_id
        · subst hid
          cases hd : st.dirs active.trial_id with
          | none =>
              rw [st.end_dirs hact io, dirs_writeIf, dirs_writeIf, hd] at hd'
              simp at hd'
          | some d =>
              obtain ⟨d'', hd'', hsummary, hmanifest⟩ := st.end_dir hact io hvisible hd
              rw [hd'] at hd''
              rw [← Option.some_inj.mp hd''] at hsummary hmanifest
              intro manifest hm hover
              have heq : manifest = active.summary := by
                rcases hmanifest with h | h
                · exact Option.some_inj.mp (hm.symm.trans h)
                · exact hrepeats d manifest hd (h.symm.trans hm) hover
              rw [heq, hsummary]
              exact ⟨⟨fun _ => rfl, fun _ => rfl⟩, fun _ => rfl⟩
        · rw [st.end_dirs_of_ne hact io hid] at hd'
          exact hst id d' hd'
      · intro id d manifest hd hm hover
        by_cases hid : id = active.trial_id
        · subst hid
          obtain ⟨d', hd', -, hmanifest⟩ := st.end_dir hact io hvisible hd
          refine ⟨d', hd', ?_⟩
          rcases hmanifest with h | h
          · rw [h, hrepeats d manifest hd hm hover]
          · exact h.trans hm
        · exact ⟨d, (st.end_dirs_of_ne hact io hid).trans hd, hm⟩
    · have hsame := st.end_dirs_of_hidden hact io hvisible
      refine ⟨?_, ?_⟩
      · intro id d hd
        exact hst id d ((hsame id).symm.trans hd)
      · intro id d manifest hd hm _
        exact ⟨d, (hsame id).trans hd, hm⟩

/-- **One call** is honest exactly if its write is the first to end the trial,
or says again what the trial's files say already. -/
theorem honest_iff (nx : Numerics) {st : TrialAuditStore} (hst : st.Consistent)
    (c : StoreCall × Io) : st.Honest nx c ↔ st.FirstEnding c := by
  obtain ⟨call, io⟩ := c
  unfold Honest FirstEnding TrialAuditStore.step
  cases call with
  | begin trial_id skill generation root_seed =>
      simp only [storeOutcome_snd]
      exact ⟨fun _ _ _ => trivial, fun _ => begin_honest hst _ _ _ _ _⟩
  | record_request row actions observation =>
      have h := record_request_ending nx st row actions observation io
      simp only [storeOutcome_snd]
      exact ⟨fun _ _ _ => trivial, fun _ =>
        ⟨fun id _ hd => consistent_of_ending (h id) hst hd,
          fun id _ _ hd hm _ => frozen_of_ending (h id) hd hm⟩⟩
  | «end» =>
      simp only [storeOutcome_snd]
      cases hact : st.active with
      | none =>
          unfold TrialAuditStore.end
          simp only [hact]
          exact ⟨fun _ _ h => absurd h (by simp), fun _ => ⟨hst, frozen_refl st⟩⟩
      | some active =>
          rw [end_honest_iff hst hact io]
          simp only [Option.some.injEq, forall_eq']
  | abort reason =>
      simp only [storeOutcome_snd]
      exact terminate_honest_iff hst (by decide) (by decide) reason Option.none io
  | mark_ambiguous reason sequence =>
      simp only [storeOutcome_snd]
      exact terminate_honest_iff hst (by decide) (by decide) reason (some sequence) io

/-! ## §5. Every run of the store. -/

/-- **The files of a trial agree** after every call of a run, and no terminal
manifest changes, exactly if no call ends a trial over evidence of another
ending.  The run may start over the evidence of earlier ones. -/
theorem evidence_consistent_iff (nx : Numerics) {st : TrialAuditStore} (hst : st.Consistent)
    (calls : List (StoreCall × Io)) :
    Mealy.EveryStep (TrialAuditStore.step nx) (Honest nx) st calls ↔
      Mealy.EveryStep (TrialAuditStore.step nx) FirstEnding st calls :=
  Mealy.everyStep_iff (P := Honest nx) (Q := FirstEnding) (I := Consistent)
    (fun _ c h => honest_iff nx h c) (fun _ _ _ h => h.1) hst calls

/-- The store of a new audit root. -/
theorem consistent_new : Consistent {} := fun _ _ hd => absurd hd (by simp)

/-- A numerical library that can do nothing; the files below need none. -/
def noNumerics : Numerics :=
  ⟨fun _ => .error .TypeError, fun _ _ => .error .TypeError, fun _ => .error .TypeError,
    fun _ => true⟩

/-- A trial whose commit writes the summary and not the manifest; the operator
then aborts. -/
def abortAfterCommit : List (StoreCall × Io) :=
  [(.begin (py "run_0_fold") (py "fold") 1 7, Io.clean),
   (.end, fun k => if k = 1 then .raised .OSError false else .done),
   (.abort (py "operator"), Io.clean)]

/-- The manifest says ABORTED and the summary COMMITTED. -/
theorem aborted_beside_summary :
    (∃ d manifest summary,
      (Mealy.after (TrialAuditStore.step noNumerics) {} abortAfterCommit).dirs (py "run_0_fold")
        = some d ∧
      d.server_manifest = some manifest ∧ manifest.status = .ABORTED ∧
      d.trial_summary = some summary ∧ summary.status = .COMMITTED) ∧
    ¬ Mealy.EveryStep (TrialAuditStore.step noNumerics) (Honest noNumerics) {}
      abortAfterCommit := by
  have hfiles : ∃ d manifest summary,
      (Mealy.after (TrialAuditStore.step noNumerics) {} abortAfterCommit).dirs (py "run_0_fold")
        = some d ∧
      d.server_manifest = some manifest ∧ manifest.status = .ABORTED ∧
      d.trial_summary = some summary ∧ summary.status = .COMMITTED :=
    ⟨_, _, _, rfl, rfl, rfl, rfl, rfl⟩
  refine ⟨hfiles, fun hrun => ?_⟩
  obtain ⟨d, manifest, summary, hd, hm, hstatus, hs, -⟩ := hfiles
  have hconsistent : (Mealy.after (TrialAuditStore.step noNumerics) {}
      abortAfterCommit).Consistent :=
    hrun.invariant (fun _ _ _ h => h.1) consistent_new
  have hiff := (hconsistent _ d hd manifest hm (by rw [TrialRecord.Terminal, hstatus]; decide)).1
  have hcommitted := hiff.mp (by rw [hs]; rfl)
  rw [hstatus] at hcommitted
  cases hcommitted

/-- A commit that fails and is called again leaves consistent evidence. -/
theorem consistent_after_retry :
    Mealy.EveryStep (TrialAuditStore.step noNumerics) (Honest noNumerics) {}
      [(.begin (py "run_0_fold") (py "fold") 1 7, Io.clean),
       (.end, fun k => if k = 1 then .raised .OSError false else .done),
       (.end, Io.clean)] := by
  refine (evidence_consistent_iff noNumerics consistent_new _).mpr ⟨?_, ?_, ?_, trivial⟩
  · intro active hact
    trivial
  · intro active hact _ d manifest hd hm hover
    -- the manifest still says ACTIVE
    cases hact
    cases hd
    cases hm
    exact absurd rfl hover
  · intro active hact _ d manifest hd hm hover
    cases hact
    cases hd
    cases hm
    exact absurd rfl hover

end TrialAuditStore

end OvenRuntime
