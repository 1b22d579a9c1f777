/-
  OvenRuntime.Server.TrialRecording
  ─────────────────────────────────
  What an undisturbed trial leaves in its directory.

  `begin_trial` starts without evidence, every inference adds its own, and
  `end_trial` commits what there is.
-/
import OvenRuntime.Server.Directories

namespace OvenRuntime

open PolicyRuntime

/-! ## §1. The recorded trial. -/

/-- The recorded trial was begun so, and its evidence is that of these
inferences. -/
def TrialRecording (nx : Numerics) (begun : Begun) (infs : List Inference) (st : TrialAuditStore) : Prop :=
  ∃ a dir, st.active = some a ∧ a.begun = begun ∧ st.dirs a.trial_id = some dir ∧
    Evidence nx a dir infs

/-- The trial is committed, with the evidence of these inferences. -/
structure CommittedDir (begun : Begun) (infs : List Inference) (record : TrialRecord)
    (dir : TrialDir) : Prop where
  manifest : dir.server_manifest = some record
  summary : dir.trial_summary = some record
  status : record.status = .COMMITTED
  begun : begun = { trial_id := record.trial_id, skill := some record.skill,
                    generation := record.generation, root_seed := record.root_seed }
  request_count : record.request_count = some infs.length
  rows : List.Forall₂ RowOf dir.requests infs

section Calls

variable {cfg : RuntimeConfig} {nx : Numerics} {id : Nat} {x x' : TimedRuntime}
  {out : Except Exn Result}

/-! ## §2. Beginning, inferring, ending. -/

/-- **`begin_trial`** starts a record without evidence. -/
theorem Alone.begin_recording {trial_id skill : PyStr} {root_seed : Int}
    (h : Alone cfg nx id x ((Op.begin_trial (.str trial_id) (.int root_seed)).start nx) out x')
    (hpattern : TRIAL_ID_PATTERN trial_id = true) (hskill : skill.encodable = true)
    (hprepared : Prepared skill x.rt) (hfree : x.rt.audit.dirs trial_id = none) :
    TrialRecording nx { trial_id, skill := some skill, generation := x.rt.generation, root_seed } []
      x'.rt.audit := by
  have hencodable := PyStr.encodable_of_isAscii (TRIAL_ID_PATTERN.isAscii hpattern)
  have hstart : ((Op.begin_trial (.str trial_id) (.int root_seed)).start nx) =
      .running (.beginAcquire trial_id root_seed) := by
    unfold Op.start
    simp only [hpattern, Bool.not_true, Bool.false_eq_true, if_false]
    rfl
  rw [hstart] at h
  obtain ⟨ch, rt₁, c₁, hg₁, hs₁, h₁⟩ := h.of_running
  cases advance_of_callStep hs₁ with
  | beginTimeout => exact absurd hprepared.lock (hg₁.lock rfl)
  | beginAcquire =>
  obtain ⟨ch, rt₂, c₂, hg₂, hs₂, h₂⟩ := h₁.of_running
  cases advance_of_callStep hs₂ with
  | beginSection hsection =>
  obtain ⟨rfl, rfl⟩ := hg₂.begun _ _ rfl
  obtain ⟨st, audit, hok, hactive, -, -⟩ := beginSection_clean root_seed
    (hprepared.wf.counters (some id) x.rt.in_flight) hprepared.state hprepared.trial_id
    hprepared.skill hfree ⟨hencodable, hskill⟩
  rw [hok] at hsection
  obtain ⟨rfl, rfl⟩ := Prod.mk.inj hsection
  obtain ⟨_, -, -, -, -, -, dir, hdir, hblank⟩ := beginSection_ok hok
  obtain ⟨ch, rt₃, c₃, -, hs₃, h₃⟩ := h₂.of_running
  cases advance_of_callStep hs₃ with
  | beginRelease =>
  obtain ⟨rfl, rfl⟩ := h₃.of_returned
  exact ⟨_, dir, hactive, rfl, hdir, .blank nx rfl rfl rfl hblank⟩

/-- An inference that is recorded adds its row, and is answered. -/
theorem Alone.inferRecord_recording {inf : Inference} {lease : SessionLease} {begun : Begun}
    {infs : List Inference} (h : Alone cfg nx id x (.running (.inferRecord inf)) out x')
    (hstored : x.rt.session = some lease) (hlease : lease.ref = inf.lease_ref ∧ lease.state = .ACTIVE)
    (hkind : inf.row.request_kind = py "infer") (hrec : TrialRecording nx begun infs x.rt.audit) :
    out = .ok (.response inf.response) ∧ TrialRecording nx begun (infs ++ [inf]) x'.rt.audit := by
  obtain ⟨a, dir, hactive, hbegun, hdir, hevidence⟩ := hrec
  obtain ⟨ch, rt₁, c₁, hg₁, hs₁, h₁⟩ := h.of_running
  cases advance_of_callStep hs₁ with
  | @inferRecord _ io r _ hrecord =>
  have hwritten := hg₁.recorded inf io rfl rfl a hactive
  obtain ⟨audit, hok⟩ : ∃ audit, x.rt.audit.record_request nx inf.row inf.result.actions
      inf.request.observation io = (.ok (), audit) := by
    refine ⟨_, Prod.ext ?_ rfl⟩
    unfold TrialAuditStore.record_request
    simp only [hactive, hwritten]
  obtain ⟨a', ha', hcounted, hadds⟩ := TrialAuditStore.record_request_ok hok
  cases ha'.symm.trans hactive
  obtain ⟨dir', hdir', hrow⟩ := hadds dir hdir
  have hsection : x.rt.inferRecord nx inf io = (.ok (), { x.rt with audit := audit }) := by
    unfold PolicyRuntime.inferRecord
    rw [hok]
  rw [hsection] at hrecord
  obtain ⟨rfl, rfl⟩ := Prod.mk.inj hrecord
  -- the rest of the call leaves the record alone
  obtain ⟨ch, rt₂, c₂, -, hs₂, h₂⟩ := h₁.of_running
  cases advance_of_callStep hs₂ with
  | inferFinish hfinish =>
  rcases inferFinish_cases { x.rt with audit := audit } inf with ⟨lease', hlease', -, -, hdone⟩ | ⟨f, hno, -⟩
  · cases hlease'.symm.trans hstored
    rw [hdone] at hfinish
    obtain ⟨rfl, rfl⟩ := Prod.mk.inj hfinish
    obtain ⟨ch, rt₃, c₃, -, hs₃, h₃⟩ := h₂.of_running
    cases advance_of_callStep hs₃ with
    | inferLeave =>
    obtain ⟨ch, rt₄, c₄, -, hs₄, h₄⟩ := h₃.of_running
    cases advance_of_callStep hs₄ with
    | inferRelease =>
    obtain ⟨rfl, rfl⟩ := h₄.of_returned
    exact ⟨rfl, _, dir', hcounted, hbegun, hdir', hevidence.add hrow hkind⟩
  · exact absurd hlease (hno lease hstored)

/-- **`infer`** on an admitted request adds its inference, and is answered. -/
theorem Alone.infer_recording {payload : Value} {request : InferenceRequest} {lease : SessionLease}
    {begun : Begun} {infs : List Inference}
    (h : Alone cfg nx id x ((Op.infer payload).start nx) out x')
    (hparse : InferenceRequest.parse nx.repr_fits payload = .ok request)
    (hkind : request.request_kind = .INFER) (hidle : Idle x.rt) (hadmitted : Admitted x.rt request lease)
    (hascii : lease.token.isAscii = true)
    (hopened : lease.expires_at_monotonic = x.opened_at + cfg.session_ttl_sec)
    (hhash : ∀ d, nx.stable_tree_hash (.map request.observation) = .ok d →
      ∃ h, nx.stable_tree_hash (.map (requestHashFields request d)) = .ok h)
    (hrec : TrialRecording nx begun infs x.rt.audit) :
    ∃ inf, inf.request = request ∧ out = .ok (.response inf.response) ∧
      TrialRecording nx begun (infs ++ [inf]) x'.rt.audit := by
  rw [Op.start_infer, hparse] at h
  obtain ⟨ch, rt₁, c₁, hg₁, hs₁, h₁⟩ := h.of_running
  cases advance_of_callStep hs₁ with
  | inferTimeout => exact absurd hidle.lock (hg₁.lock rfl)
  | inferAcquire =>
  obtain ⟨ch, rt₂, c₂, hg₂, hs₂, h₂⟩ := h₁.of_running
  cases advance_of_callStep hs₂ with
  | @inferEnter _ now r _ henter =>
  have hnow : now - x.opened_at < cfg.session_ttl_sec := hg₂.clock request now rfl rfl
  have hlive : ¬ lease.expires_at_monotonic ≤ now := by
    rw [hopened]
    grind
  have hlocked : Admitted { x.rt with execution_lock := some id } request lease := { hadmitted with }
  rcases inferEnter_live ((hidle.wf.counters (some id) x.rt.in_flight).activeLease.trans
    hlocked.stored) request hlive with ⟨-, hnot, -⟩ | ⟨-, hnot, -⟩ | ⟨-, -, hok⟩
  · rw [hadmitted.session_token, hascii] at hnot
    cases hnot
  · exact absurd hlocked hnot
  · rw [hok] at henter
    obtain ⟨rfl, rfl⟩ := Prod.mk.inj henter
    obtain ⟨ch, rt₃, c₃, hg₃, hs₃, h₃⟩ := h₂.of_running
    have hinferred : ∃ r, ch = .inferred r := by
      cases advance_of_callStep hs₃ <;> exact ⟨_, rfl⟩
    obtain ⟨r, rfl⟩ := hinferred
    obtain ⟨result, d, ha, rfl, hd, hha⟩ := hg₃.inferred request _ r rfl rfl
    obtain ⟨inf, hrequest, href, -, hpolicy⟩ := @callStep_inferred cfg nx id request lease.ref
      result d ha hd hha (hhash d hd) _
    rw [hpolicy] at hs₃
    cases hs₃
    have hrow : inf.row.request_kind = py "infer" := by
      show inf.request.request_kind.value = _
      rw [hrequest, hkind]
      rfl
    exact ⟨inf, hrequest,
      h₃.inferRecord_recording hadmitted.stored ⟨href.symm, hadmitted.active⟩ hrow hrec⟩

/-- **`end_trial`** commits the evidence there is. -/
theorem Alone.end_recording {trial_id skill : PyStr} {begun : Begun} {infs : List Inference}
    (h : Alone cfg nx id x (Op.end_trial.start nx) out x') (htrial : InTrial trial_id skill x.rt)
    (hsession : x.rt.session = none) (hrec : TrialRecording nx begun infs x.rt.audit) :
    ∃ summary dir, out = .ok (.trial summary) ∧ x'.rt.audit.dirs begun.trial_id = some dir ∧
      CommittedDir begun infs summary dir := by
  obtain ⟨active, dir, hactive, rfl, hdir, hevidence⟩ := hrec
  have hrecorded := htrial.wf.trial active hactive
  obtain ⟨ch, rt₁, c₁, hg₁, hs₁, h₁⟩ := h.of_running
  cases advance_of_callStep hs₁ with
  | @endTrial io _ _ hend =>
  have hio : io = Io.clean := hg₁.files io rfl fun _ hpc => by cases hpc
  subst hio
  obtain ⟨audit, hcommit⟩ : ∃ audit, x.rt.audit.end Io.clean = (.ok active.summary, audit) :=
    ⟨_, Prod.ext (TrialAuditStore.end_clean hactive hrecorded.encodable.1 hrecorded.encodable.2) rfl⟩
  have hok : x.rt.endTrial Io.clean = (.ok active.summary, x.rt.trialOver audit) := by
    unfold PolicyRuntime.endTrial
    rw [if_neg (not_not.mpr (htrial.wf.activeLease.trans hsession)),
      if_neg (by rw [htrial.trial_id]; simp), hcommit]
    rfl
  rw [hok] at hend
  obtain ⟨rfl, rfl⟩ := Prod.mk.inj hend
  obtain ⟨rfl, rfl⟩ := h₁.of_returned
  -- both files say the same, and the rows are as they were
  have hencodable : active.summary.encodable = true := by
    simp [ActiveTrial.summary, TrialRecord.encodable, hrecorded.encodable]
  have hvisible : TrialAuditStore.visible .done active.summary = true := by
    unfold TrialAuditStore.visible
    rw [hencodable]
    rfl
  have hdir' : audit.dirs active.trial_id = some { dir with
      trial_summary := some active.summary, server_manifest := some active.summary } := by
    have hdirs := x.rt.audit.end_dirs hactive Io.clean active.trial_id
    rw [hcommit] at hdirs
    rw [show audit.dirs active.trial_id = _ from hdirs,
      TrialAuditStore.writeIf_dirs (TrialAuditStore.writeIf_dirs hdir _ _),
      show TrialAuditStore.visible (Io.clean 0) active.summary = true from hvisible,
      show TrialAuditStore.visible (Io.clean 1) active.summary = true from hvisible]
    rfl
  exact ⟨_, _, rfl, hdir', rfl, rfl, rfl, rfl, congrArg some hevidence.count, hevidence.rows⟩

end Calls

end OvenRuntime
