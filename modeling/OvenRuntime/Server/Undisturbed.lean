/-
  OvenRuntime.Server.Undisturbed
  ──────────────────────────────
  Calls that nothing disturbs.

  Nobody else calls the runtime, the backend and the files do what they are
  asked to, and a session is used before it is over.  What such a call comes to
  depends on the runtime it starts from alone: §3 and §4 say for each operation
  of a stage from where it succeeds, and where it leads.
-/
import OvenRuntime.Server.Admission
import OvenRuntime.Server.StepRules
import OvenRuntime.Server.TokenSecrecy
import OvenRuntime.Server.TrialEvidence
import OvenRuntime.Server.WellFormed

namespace OvenRuntime

/-! ## §1. Undisturbed calls. -/

/-- A runtime, and the clock when its last session was opened. -/
structure TimedRuntime where
  rt : PolicyRuntime
  opened_at : ℚ := 0

/-- The clock at the last session after a step. -/
def Choice.clockAfter (opened_at : ℚ) : Choice → ℚ
  | .drawn _ _ now => now
  | _ => opened_at

/-- What `str(uuid4())` draws. -/
structure IsSessionId (session_id : PyStr) : Prop where
  uuid : UUID session_id = true
  ascii : session_id.isAscii = true
  length : session_id.length = 36

/-- What the environment grants an undisturbed call. -/
structure Granted (cfg : RuntimeConfig) (nx : Numerics) (x : TimedRuntime) (pc : Pc) (ch : Choice) :
    Prop where
  /-- A free lock can be taken. -/
  lock : ch = .timedOut → x.rt.execution_lock ≠ none
  /-- The backend loads what it is asked to, … -/
  loaded : ∀ skill r, pc = .prepareLoad skill → ch = .loaded r →
    ∃ identity, r = .ok identity ∧ identity.skill = skill
  /-- … resets its PRNG, … -/
  begun : ∀ reset io, ch = .begun reset io → reset = .ok () ∧ io = Io.clean
  /-- … and answers a request.  Observation and actions have a hash. -/
  inferred : ∀ request lease_ref r, pc = .inferPolicy request lease_ref → ch = .inferred r →
    ∃ result d h, r = .ok result ∧ nx.stable_tree_hash (.map request.observation) = .ok d ∧
      nx.stable_tree_hash result.actions = .ok h
  drawn : ∀ session_id token now, ch = .drawn session_id token now →
    IsSessionId session_id ∧ IsToken token
  /-- The session is not over. -/
  clock : ∀ request now, pc = .inferEnter request → ch = .clock now →
    now - x.opened_at < cfg.session_ttl_sec
  /-- No audit write fails. -/
  recorded : ∀ inf io, pc = .inferRecord inf → ch = .io io → ∀ active,
    x.rt.audit.active = some active →
    (x.rt.audit.writeRow nx active inf.row inf.result.actions inf.request.observation io).1 = none
  files : ∀ io, ch = .io io → (∀ inf, pc ≠ .inferRecord inf) → io = Io.clean

/-- The call `id` runs to its end, and nothing disturbs it. -/
inductive Alone (cfg : RuntimeConfig) (nx : Numerics) (id : Nat) :
    TimedRuntime → CallState → Except Exn Result → TimedRuntime → Prop
  | returned (x : TimedRuntime) (out : Except Exn Result) : Alone cfg nx id x (.returned out) out x
  | step {x x' : TimedRuntime} {pc : Pc} {ch : Choice} {rt : PolicyRuntime} {next : CallState}
      {out : Except Exn Result} :
      Granted cfg nx x pc ch → callStep cfg nx id pc ch x.rt = some (rt, next) →
      Alone cfg nx id ⟨rt, ch.clockAfter x.opened_at⟩ next out x' →
      Alone cfg nx id x (.running pc) out x'

section Inversion

variable {cfg : RuntimeConfig} {nx : Numerics} {id : Nat} {x x' : TimedRuntime}
  {out : Except Exn Result}

theorem Alone.of_returned {r : Except Exn Result} (h : Alone cfg nx id x (.returned r) out x') :
    out = r ∧ x' = x := by
  cases h
  exact ⟨rfl, rfl⟩

theorem Alone.of_running {pc : Pc} (h : Alone cfg nx id x (.running pc) out x') :
    ∃ ch rt next, Granted cfg nx x pc ch ∧ callStep cfg nx id pc ch x.rt = some (rt, next) ∧
      Alone cfg nx id ⟨rt, ch.clockAfter x.opened_at⟩ next out x' := by
  cases h with
  | step hg hs hrest => exact ⟨_, _, _, hg, hs, hrest⟩

end Inversion

/-! ## §2. Runtimes in which nothing is going on. -/

namespace PolicyRuntime

/-- No call is under way. -/
structure Idle (rt : PolicyRuntime) : Prop where
  wf : rt.WF
  lock : rt.execution_lock = none
  in_flight : rt.in_flight = 0

/-- Between two trials. -/
structure AtRest (rt : PolicyRuntime) : Prop extends Idle rt where
  trial_id : rt.trial_id = none
  state : rt.state = .STARTING ∨ rt.state = .READY

/-- The skill is loaded. -/
structure Prepared (skill : PyStr) (rt : PolicyRuntime) : Prop extends Idle rt where
  trial_id : rt.trial_id = none
  state : rt.state = .READY
  skill : rt.active_skill = some skill

/-- The trial runs. -/
structure InTrial (trial_id skill : PyStr) (rt : PolicyRuntime) : Prop extends Idle rt where
  trial_id : rt.trial_id = some trial_id
  state : rt.state = .READY
  skill : rt.active_skill = some skill

/-- No directory appears but this one. -/
def OnlyCreates (rt rt' : PolicyRuntime) (trial_id : PyStr) : Prop :=
  ∀ d, d ≠ trial_id → rt.audit.dirs d = none → rt'.audit.dirs d = none

section AtRest

variable {rt : PolicyRuntime}

theorem AtRest.session (h : AtRest rt) : rt.session = none := by
  cases hs : rt.session with
  | none => rfl
  | some lease =>
      have htrial := (h.wf.lease lease hs).trial_id
      rw [h.trial_id] at htrial
      cases htrial

theorem Prepared.atRest {skill : PyStr} (h : Prepared skill rt) : AtRest rt :=
  { h with state := .inr h.state }

/-- Loading may start at once. -/
theorem prepareEnter_atRest (h : AtRest rt) (timeout now now' : ℚ) :
    rt.prepareEnter timeout now now' = (.ok .proceed, rt.loading) := by
  have hsession := h.session
  rcases h.state with hstate | hstate
  · unfold prepareEnter
    simp only [h.trial_id, hstate, ne_eq, not_true_eq_false, if_false, reduceCtorEq, or_self,
      if_true, _invalidate_session_locked, _transition_locked, ensure_runtime_transition,
      RUNTIME_TRANSITIONS, List.mem_cons, true_or, loading, hsession]
  · unfold prepareEnter
    simp only [h.trial_id, hstate, ne_eq, not_true_eq_false, if_false, reduceCtorEq, or_self,
      _invalidate_session_locked, _transition_locked, ensure_runtime_transition,
      RUNTIME_TRANSITIONS, List.mem_cons, true_or, if_true, drain, h.in_flight, loading]
    rw [← hsession]

/-- With working files a new trial begins. -/
theorem beginSection_clean {skill trial_id : PyStr} (root_seed : Int) (hwf : rt.WF)
    (hstate : rt.state = .READY) (htrial : rt.trial_id = none) (hskill : rt.active_skill = some skill)
    (hfree : rt.audit.dirs trial_id = none)
    (hencodable : trial_id.encodable = true ∧ skill.encodable = true) :
    ∃ st audit, rt.beginSection trial_id root_seed (.ok ()) Io.clean =
        (.ok st, { rt with audit := audit, trial_id := some trial_id,
                           trial_root_seed := some root_seed }) ∧
      audit.active = some { trial_id, skill, generation := rt.generation, root_seed } ∧
      (audit.dirs trial_id).isSome = true ∧ ∀ d, d ≠ trial_id → audit.dirs d = rt.audit.dirs d := by
  have hactive : rt.audit.active = none := hwf.trial_id_none_iff.mp htrial
  have hmanifest : (beginManifest trial_id skill rt.generation root_seed).encodable = true := by
    simp [beginManifest, TrialRecord.encodable, hencodable]
  have hnone : (rt.audit.dirs trial_id).isSome = false := by
    rw [hfree]
    rfl
  unfold beginSection TrialAuditStore.begin TrialAuditStore.beginWrite
  simp only [hstate, htrial, hskill, hactive, hnone, Io.clean, hmanifest, ne_eq,
    not_true_eq_false, if_false, Bool.false_eq_true, _atomic_json_clean]
  refine ⟨_, _, rfl, rfl, ?_, ?_⟩
  · show (((rt.audit.mkdir trial_id).writeIf trial_id true _).dirs trial_id).isSome = true
    rw [TrialAuditStore.writeIf_isSome, TrialAuditStore.mkdir_self]
    rfl
  · intro d hd
    show ((rt.audit.mkdir trial_id).writeIf trial_id true _).dirs d = _
    rw [TrialAuditStore.dirs_writeIf, if_neg fun hb => hd hb.2]
    exact if_neg hd

end AtRest

end PolicyRuntime

/-! ## §3. Preparing, beginning, opening. -/

section Calls

open PolicyRuntime

variable {cfg : RuntimeConfig} {nx : Numerics} {id : Nat} {x x' : TimedRuntime}
  {out : Except Exn Result}

/-- The backend returns the skill it was asked for. -/
theorem callStep_loaded {skill : PyStr} {identity : BackendIdentity} (h : identity.skill = skill)
    (rt : PolicyRuntime) :
    callStep cfg nx id (.prepareLoad skill) (.loaded (.ok identity)) rt =
      some (rt, .running (.prepareRelease skill (.ok identity))) :=
  if_neg (not_not.mpr h)

/-- **`prepare_skill`** succeeds between two trials. -/
theorem Alone.prepare {skill : PyStr} {drain_timeout_sec : ℚ}
    (h : Alone cfg nx id x ((Op.prepare_skill skill drain_timeout_sec).start nx) out x')
    (hskill : skill.isEmpty = false) (htimeout : 0 < drain_timeout_sec) (hrest : AtRest x.rt) :
    (∃ st, out = .ok (.status st)) ∧ Prepared skill x'.rt ∧ x'.rt.audit = x.rt.audit := by
  have hstart : ((Op.prepare_skill skill drain_timeout_sec).start nx) =
      .running (.prepareEnter skill drain_timeout_sec) := by
    unfold Op.start
    simp only [hskill, Bool.false_eq_true, if_false]
    rw [if_neg (Rat.not_le.mpr htimeout)]
  rw [hstart] at h
  obtain ⟨ch, rt₁, c₁, -, hs₁, h₁⟩ := h.of_running
  cases advance_of_callStep hs₁ with
  | prepareEnter henter =>
  rw [prepareEnter_atRest hrest] at henter
  obtain ⟨rfl, rfl⟩ := Prod.mk.inj henter
  obtain ⟨ch, rt₂, c₂, hg₂, hs₂, h₂⟩ := h₁.of_running
  cases advance_of_callStep hs₂ with
  | prepareTimeout => exact absurd hrest.lock (hg₂.lock rfl)
  | prepareAcquire =>
  obtain ⟨ch, rt₃, c₃, hg₃, hs₃, h₃⟩ := h₂.of_running
  have hloaded : ∃ r, ch = .loaded r := by
    cases advance_of_callStep hs₃ <;> exact ⟨_, rfl⟩
  obtain ⟨r, rfl⟩ := hloaded
  obtain ⟨identity, rfl, hid⟩ := hg₃.loaded skill r rfl rfl
  rw [callStep_loaded hid] at hs₃
  cases hs₃
  obtain ⟨ch, rt₄, c₄, -, hs₄, h₄⟩ := h₃.of_running
  cases advance_of_callStep hs₄ with
  | prepareRelease =>
  obtain ⟨ch, rt₅, c₅, -, hs₅, h₅⟩ := h₄.of_running
  cases advance_of_callStep hs₅ with
  | prepareCommit hcommit =>
  rcases prepareCommit_cases _ skill identity with ⟨st, -, hok⟩ | ⟨e, hstate, -⟩
  · rw [hok] at hcommit
    obtain ⟨rfl, rfl⟩ := Prod.mk.inj hcommit
    obtain ⟨rfl, rfl⟩ := h₅.of_returned
    refine ⟨⟨st, rfl⟩, ⟨⟨?_, rfl, hrest.in_flight⟩, hrest.trial_id, rfl, rfl⟩, rfl⟩
    have hloading : x.rt.loading.WF := by
      have hwf : ({ x.rt with session := none, state := .LOADING } : PolicyRuntime).WF :=
        hrest.wf.idleState hrest.trial_id (by decide)
      rw [← hrest.session] at hwf
      exact hwf
    exact (hloading.counters none x.rt.in_flight).prepared hrest.trial_id hrest.session hid .READY
  · exact absurd rfl hstate

/-- **`begin_trial`** succeeds on a prepared skill, for an identifier not yet used. -/
theorem Alone.begin {trial_id skill : PyStr} {root_seed : Int}
    (h : Alone cfg nx id x ((Op.begin_trial (.str trial_id) (.int root_seed)).start nx) out x')
    (hpattern : TRIAL_ID_PATTERN trial_id = true) (hskill : skill.encodable = true)
    (hprepared : Prepared skill x.rt) (hfree : x.rt.audit.dirs trial_id = none) :
    (∃ st, out = .ok (.status st)) ∧ InTrial trial_id skill x'.rt ∧ x'.rt.session = none ∧
      x.rt.OnlyCreates x'.rt trial_id := by
  have hencodable := PyStr.encodable_of_isAscii (TRIAL_ID_PATTERN.isAscii hpattern)
  have hstart : ((Op.begin_trial (.str trial_id) (.int root_seed)).start nx) =
      .running (.beginAcquire trial_id root_seed) := by
    unfold Op.start
    simp only [hpattern, Bool.not_true, Bool.false_eq_true, if_false]
    rfl
  rw [hstart] at h
  obtain ⟨ch, rt₁, c₁, hg₁, hs₁, h₁⟩ := h.of_running
  cases advance_of_callStep hs₁ with
  | beginTimeout => exact absurd hprepared.lock (hg₁.lock rfl)
  | beginAcquire =>
  obtain ⟨ch, rt₂, c₂, hg₂, hs₂, h₂⟩ := h₁.of_running
  cases advance_of_callStep hs₂ with
  | beginSection hsection =>
  obtain ⟨rfl, rfl⟩ := hg₂.begun _ _ rfl
  have hwf := hprepared.wf.counters (some id) x.rt.in_flight
  obtain ⟨st, audit, hok, hactive, hmade, hothers⟩ := beginSection_clean root_seed hwf
    hprepared.state hprepared.trial_id hprepared.skill hfree ⟨hencodable, hskill⟩
  have hwf' := hwf.began hprepared.state hprepared.trial_id hprepared.skill ⟨hencodable, hskill⟩
    hmade hactive
  rw [hok] at hsection
  obtain ⟨rfl, rfl⟩ := Prod.mk.inj hsection
  obtain ⟨ch, rt₃, c₃, -, hs₃, h₃⟩ := h₂.of_running
  cases advance_of_callStep hs₃ with
  | beginRelease =>
  obtain ⟨rfl, rfl⟩ := h₃.of_returned
  refine ⟨⟨st, rfl⟩, ⟨⟨?_, rfl, hprepared.in_flight⟩, rfl, hprepared.state, hprepared.skill⟩,
    hprepared.atRest.session, ?_⟩
  · exact hwf'.counters none x.rt.in_flight
  · intro d hd hnone
    exact (hothers d hd).trans hnone

/-- **`open_session`** succeeds in a trial without a session. -/
theorem Alone.open_session {trial_id skill : PyStr}
    (h : Alone cfg nx id x (Op.open_session.start nx) out x') (htrial : InTrial trial_id skill x.rt)
    (hsession : x.rt.session = none) :
    ∃ session_id token now, IsSessionId session_id ∧ IsToken token ∧
      out = .ok (.session
        { session_id, session_token := token, skill, generation := x.rt.generation, trial_id,
          expires_in_sec := cfg.session_ttl_sec }) ∧
      x' = ⟨{ x.rt with
        session := some (newLease cfg x.rt trial_id skill session_id token now),
        refs := x.rt.refs + 1 }, now⟩ := by
  obtain ⟨ch, rt₁, c₁, hg₁, hs₁, h₁⟩ := h.of_running
  cases advance_of_callStep hs₁ with
  | @openSession session_id token now _ _ hopen =>
  obtain ⟨hid, htoken⟩ := hg₁.drawn session_id token now rfl
  have hlease : x.rt.activeLease = none := htrial.wf.activeLease.trans hsession
  have hok : x.rt.openSession cfg session_id token now =
      (.ok { session_id, session_token := token, skill, generation := x.rt.generation, trial_id,
             expires_in_sec := cfg.session_ttl_sec },
        { x.rt with session := some (newLease cfg x.rt trial_id skill session_id token now),
                    refs := x.rt.refs + 1 }) := by
    unfold PolicyRuntime.openSession
    simp only [htrial.state, htrial.trial_id, htrial.skill, hlease, ne_eq, not_true_eq_false,
      if_false]
    rfl
  rw [hok] at hopen
  obtain ⟨rfl, rfl⟩ := Prod.mk.inj hopen
  obtain ⟨rfl, rfl⟩ := h₁.of_returned
  exact ⟨session_id, token, now, hid, htoken, rfl, rfl⟩

/-! ## §4. Inference. -/

/-- An audit row whose writes return is recorded. -/
theorem inferRecord_written {rt : PolicyRuntime} {inf : Inference} {io : Io} {active : ActiveTrial}
    (hactive : rt.audit.active = some active)
    (hwrite : (rt.audit.writeRow nx active inf.row inf.result.actions inf.request.observation
      io).1 = none) :
    ∃ audit, rt.inferRecord nx inf io = (.ok (), { rt with audit := audit }) ∧
      SameRecord rt.audit audit ∧ ∀ d, rt.audit.dirs d = none → audit.dirs d = none := by
  obtain ⟨r, audit, hgrows, hsame, heq⟩ := inferRecord_cases nx rt inf io
  have hfst : (rt.inferRecord nx inf io).1 = .ok () := by
    unfold PolicyRuntime.inferRecord TrialAuditStore.record_request
    simp only [hactive, hwrite]
  have haudit : (rt.inferRecord nx inf io).2.audit =
      (rt.audit.record_request nx inf.row inf.result.actions inf.request.observation io).2 := rfl
  rw [heq] at hfst haudit
  refine ⟨audit, ?_, ⟨hgrows, ?_⟩, ?_⟩
  · rw [heq, ← hfst]
  · rcases hsame with hsame | ⟨a, ha, hcounted⟩
    · exact .inl hsame
    · exact .inr ⟨a, inf.row, ha, hcounted⟩
  · intro d hd
    -- the two files of an ending are untouched, so the directory is as absent as before
    have hending := rt.audit.record_request_ending nx inf.row inf.result.actions
      inf.request.observation io d
    rw [← haudit] at hending
    unfold TrialAuditStore.ending at hending
    rw [hd] at hending
    exact Option.map_eq_none_iff.mp hending

/-- The hashing gets through. -/
theorem callStep_inferred {request : InferenceRequest} {lease_ref : Nat} {result : BackendResult}
    {d h : Digest} (hd : nx.stable_tree_hash (.map request.observation) = .ok d)
    (hh : nx.stable_tree_hash result.actions = .ok h)
    (hhash : ∃ h, nx.stable_tree_hash (.map (requestHashFields request d)) = .ok h)
    (rt : PolicyRuntime) :
    ∃ inf, inf.request = request ∧ inf.lease_ref = lease_ref ∧ inf.result = result ∧
      callStep cfg nx id (.inferPolicy request lease_ref) (.inferred (.ok result)) rt =
        some (rt, .running (.inferRecord inf)) := by
  obtain ⟨rh, hrh⟩ := hhash
  have hok : hashInference nx request lease_ref result =
      .ok ⟨request, lease_ref, result, rh, d, h⟩ := by
    unfold hashInference
    rw [hd]
    exact bind_ok.mpr ⟨_, rfl, bind_ok.mpr ⟨_, hrh, bind_ok.mpr ⟨_, hh, rfl⟩⟩⟩
  refine ⟨⟨request, lease_ref, result, rh, d, h⟩, rfl, rfl, rfl, ?_⟩
  unfold callStep
  simp only [hok]

/-- `infer` from the audit row on. -/
theorem Alone.finish {inf : Inference} {lease : SessionLease} {active : ActiveTrial}
    (h : Alone cfg nx id x (.running (.inferRecord inf)) out x')
    (hstored : x.rt.session = some lease) (hlease : lease.ref = inf.lease_ref ∧ lease.state = .ACTIVE)
    (hactive : x.rt.audit.active = some active) :
    ∃ audit, out = .ok (.response inf.response) ∧
      x' = ⟨{ x.rt with audit := audit, session := some lease.next,
                        in_flight := x.rt.in_flight - 1, execution_lock := none }, x.opened_at⟩ ∧
      SameRecord x.rt.audit audit ∧ ∀ d, x.rt.audit.dirs d = none → audit.dirs d = none := by
  obtain ⟨ch, rt₁, c₁, hg₁, hs₁, h₁⟩ := h.of_running
  cases advance_of_callStep hs₁ with
  | inferRecord hrecord =>
  obtain ⟨audit, hwritten, hsame, hdirs⟩ :=
    inferRecord_written hactive (hg₁.recorded inf _ rfl rfl active hactive)
  rw [hwritten] at hrecord
  obtain ⟨rfl, rfl⟩ := Prod.mk.inj hrecord
  obtain ⟨ch, rt₂, c₂, -, hs₂, h₂⟩ := h₁.of_running
  cases advance_of_callStep hs₂ with
  | inferFinish hfinish =>
  rcases inferFinish_cases { x.rt with audit := audit } inf with
    ⟨lease', hlease', -, -, hok⟩ | ⟨f, hno, -⟩
  · cases hlease'.symm.trans hstored
    rw [hok] at hfinish
    obtain ⟨rfl, rfl⟩ := Prod.mk.inj hfinish
    obtain ⟨ch, rt₃, c₃, -, hs₃, h₃⟩ := h₂.of_running
    cases advance_of_callStep hs₃ with
    | inferLeave =>
    obtain ⟨ch, rt₄, c₄, -, hs₄, h₄⟩ := h₃.of_running
    cases advance_of_callStep hs₄ with
    | inferRelease =>
    obtain ⟨rfl, rfl⟩ := h₄.of_returned
    exact ⟨audit, rfl, rfl, hsame, hdirs⟩
  · exact absurd hlease (hno lease hstored)

/-- `infer` from the lease check to the audit row. -/
theorem Alone.admitted {request : InferenceRequest} {lease : SessionLease}
    (h : Alone cfg nx id x (.running (.inferEnter request)) out x') (hwf : x.rt.WF)
    (hadmitted : Admitted x.rt request lease) (hascii : lease.token.isAscii = true)
    (hopened : lease.expires_at_monotonic = x.opened_at + cfg.session_ttl_sec)
    (hhash : ∀ d, nx.stable_tree_hash (.map request.observation) = .ok d →
      ∃ h, nx.stable_tree_hash (.map (requestHashFields request d)) = .ok h) :
    ∃ inf, inf.lease_ref = lease.ref ∧
      Alone cfg nx id ⟨{ x.rt with in_flight := x.rt.in_flight + 1 }, x.opened_at⟩
        (.running (.inferRecord inf)) out x' := by
  obtain ⟨ch, rt₁, c₁, hg₁, hs₁, h₁⟩ := h.of_running
  cases advance_of_callStep hs₁ with
  | @inferEnter _ now r _ henter =>
  have hnow : now - x.opened_at < cfg.session_ttl_sec := hg₁.clock request now rfl rfl
  have hlive : ¬ lease.expires_at_monotonic ≤ now := by
    rw [hopened]
    grind
  rcases inferEnter_live (hwf.activeLease.trans hadmitted.stored) request hlive with
    ⟨-, hnot, -⟩ | ⟨-, hnot, -⟩ | ⟨-, -, hok⟩
  · rw [hadmitted.session_token, hascii] at hnot
    cases hnot
  · exact absurd hadmitted hnot
  · rw [hok] at henter
    obtain ⟨rfl, rfl⟩ := Prod.mk.inj henter
    obtain ⟨ch, rt₂, c₂, hg₂, hs₂, h₂⟩ := h₁.of_running
    have hinferred : ∃ r, ch = .inferred r := by
      cases advance_of_callStep hs₂ <;> exact ⟨_, rfl⟩
    obtain ⟨r, rfl⟩ := hinferred
    obtain ⟨result, d, ha, rfl, hd, hha⟩ := hg₂.inferred request _ r rfl rfl
    obtain ⟨inf, -, href, -, hpolicy⟩ := @callStep_inferred cfg nx id request lease.ref result d ha
      hd hha (hhash d hd) _
    rw [hpolicy] at hs₂
    cases hs₂
    exact ⟨inf, href, h₂⟩

/-- **`infer`** succeeds on an admitted request: the lease goes on to the next
sequence number. -/
theorem Alone.infer {payload : Value} {request : InferenceRequest} {lease : SessionLease}
    (h : Alone cfg nx id x ((Op.infer payload).start nx) out x')
    (hparse : InferenceRequest.parse nx.repr_fits payload = .ok request) (hidle : Idle x.rt)
    (hadmitted : Admitted x.rt request lease) (hascii : lease.token.isAscii = true)
    (hopened : lease.expires_at_monotonic = x.opened_at + cfg.session_ttl_sec)
    (hhash : ∀ d, nx.stable_tree_hash (.map request.observation) = .ok d →
      ∃ h, nx.stable_tree_hash (.map (requestHashFields request d)) = .ok h) :
    (∃ response, out = .ok (.response response)) ∧
    ∃ audit, x' = ⟨{ x.rt with audit := audit, session := some lease.next }, x.opened_at⟩ ∧
      Idle x'.rt ∧ ∀ d, x.rt.audit.dirs d = none → audit.dirs d = none := by
  rw [Op.start_infer, hparse] at h
  obtain ⟨ch, rt₁, c₁, hg₁, hs₁, h₁⟩ := h.of_running
  cases advance_of_callStep hs₁ with
  | inferTimeout => exact absurd hidle.lock (hg₁.lock rfl)
  | inferAcquire =>
  have hwf := hidle.wf.counters (some id) x.rt.in_flight
  obtain ⟨inf, href, h₂⟩ := h₁.admitted hwf { hadmitted with } hascii hopened hhash
  obtain ⟨active, hactive, -⟩ := hidle.wf.recorded hadmitted.trial_id
  obtain ⟨audit, rfl, rfl, hsame, hdirs⟩ :=
    h₂.finish hadmitted.stored ⟨href.symm, hadmitted.active⟩ hactive
  -- the lock is free again, and nothing is in flight
  have hback : ({ x.rt with
      audit := audit, session := some lease.next, execution_lock := none,
      in_flight := x.rt.in_flight + 1 - 1 } : PolicyRuntime) =
      { x.rt with audit := audit, session := some lease.next } := by
    rw [← hidle.lock, Int.add_sub_cancel]
  have hfinal : ({ x.rt with audit := audit, session := some lease.next } : PolicyRuntime).Idle :=
    ⟨(hidle.wf.audit hsame).next hadmitted.stored, hidle.lock, hidle.in_flight⟩
  refine ⟨⟨_, rfl⟩, audit, ?_, ?_, hdirs⟩
  · exact congrArg (TimedRuntime.mk · x.opened_at) hback
  · show PolicyRuntime.Idle _
    rw [hback]
    exact hfinal

/-! ## §5. Closing, ending, aborting. -/

/-- **`close_session`** closes the session it names, and leaves any other. -/
theorem Alone.close_session {session_id : PyStr}
    (h : Alone cfg nx id x ((Op.close_session session_id).start nx) out x') (hidle : Idle x.rt) :
    ((∃ lease, x.rt.session = some lease ∧ lease.session_id = session_id) ∧
      (∃ st, out = .ok (.status st)) ∧ x' = ⟨{ x.rt with session := none }, x.opened_at⟩) ∨
    ((∀ lease, x.rt.session = some lease → lease.session_id ≠ session_id) ∧ x' = x) := by
  obtain ⟨ch, rt₁, c₁, -, hs₁, h₁⟩ := h.of_running
  cases advance_of_callStep hs₁ with
  | closeSession hclose =>
  unfold PolicyRuntime.closeSession at hclose
  rw [hidle.wf.activeLease] at hclose
  cases hs : x.rt.session with
  | none =>
      simp only [hs] at hclose
      obtain ⟨rfl, rfl⟩ := Prod.mk.inj hclose
      obtain ⟨rfl, rfl⟩ := h₁.of_returned
      refine .inr ⟨?_, rfl⟩
      intro lease hl
      cases hl
  | some lease =>
      simp only [hs] at hclose
      by_cases hid : lease.session_id = session_id
      · rw [if_neg (not_not.mpr hid), if_neg (not_not.mpr hidle.in_flight)] at hclose
        obtain ⟨rfl, rfl⟩ := Prod.mk.inj hclose
        obtain ⟨rfl, rfl⟩ := h₁.of_returned
        exact .inl ⟨⟨lease, rfl, hid⟩, ⟨_, rfl⟩, rfl⟩
      · rw [if_pos hid] at hclose
        obtain ⟨rfl, rfl⟩ := Prod.mk.inj hclose
        obtain ⟨rfl, rfl⟩ := h₁.of_returned
        refine .inr ⟨?_, rfl⟩
        intro lease' hl
        cases hl
        exact hid

/-- **`end_trial`** commits the trial once its session is closed. -/
theorem Alone.end_trial {trial_id skill : PyStr}
    (h : Alone cfg nx id x (Op.end_trial.start nx) out x') (htrial : InTrial trial_id skill x.rt)
    (hsession : x.rt.session = none) :
    (∃ summary, out = .ok (.trial summary) ∧ summary.status = .COMMITTED) ∧ AtRest x'.rt ∧
      ∀ d, d ≠ trial_id → x.rt.audit.dirs d = none → x'.rt.audit.dirs d = none := by
  obtain ⟨active, hactive, htid, hrecorded⟩ := htrial.wf.recorded htrial.trial_id
  obtain ⟨ch, rt₁, c₁, hg₁, hs₁, h₁⟩ := h.of_running
  cases advance_of_callStep hs₁ with
  | @endTrial io _ _ hend =>
  have hio : io = Io.clean := hg₁.files io rfl fun _ hpc => by cases hpc
  subst hio
  obtain ⟨audit, hcommit⟩ : ∃ audit, x.rt.audit.end Io.clean = (.ok active.summary, audit) :=
    ⟨_, Prod.ext (TrialAuditStore.end_clean hactive hrecorded.encodable.1 hrecorded.encodable.2) rfl⟩
  have hnone : audit.active = none := by
    have hcases := (x.rt.audit.end_cases Io.clean).2
    rw [hcommit] at hcases
    rcases hcases with ⟨e, herr, -⟩ | ⟨a, -, -, hnone⟩
    · cases herr
    · exact hnone
  have hok : x.rt.endTrial Io.clean = (.ok active.summary, x.rt.trialOver audit) := by
    unfold PolicyRuntime.endTrial
    rw [if_neg (not_not.mpr (htrial.wf.activeLease.trans hsession)),
      if_neg (by rw [htrial.trial_id]; simp), hcommit]
    rfl
  rw [hok] at hend
  obtain ⟨rfl, rfl⟩ := Prod.mk.inj hend
  obtain ⟨rfl, rfl⟩ := h₁.of_returned
  refine ⟨⟨_, rfl, rfl⟩, ⟨⟨htrial.wf.trialOver hsession hnone, htrial.lock, htrial.in_flight⟩,
    rfl, .inr htrial.state⟩, ?_⟩
  intro d hd hdnone
  have hdirs := x.rt.audit.end_dirs_of_ne hactive Io.clean (htid ▸ hd)
  rw [hcommit] at hdirs
  exact hdirs.trans hdnone

/-- **`abort`** ends whatever there is to end. -/
theorem Alone.abort {reason : PyStr} (h : Alone cfg nx id x ((Op.abort reason).start nx) out x')
    (hreason : reason.encodable = true) (hidle : Idle x.rt)
    (hstate : x.rt.state = .STARTING ∨ x.rt.state = .READY) :
    (∃ state summary, out = .ok (.terminated state summary)) ∧ AtRest x'.rt := by
  obtain ⟨ch, rt₁, c₁, hg₁, hs₁, h₁⟩ := h.of_running
  cases advance_of_callStep hs₁ with
  | abortTimeout => exact absurd hidle.lock (hg₁.lock rfl)
  | abortAcquire =>
  obtain ⟨ch, rt₂, c₂, hg₂, hs₂, h₂⟩ := h₁.of_running
  cases advance_of_callStep hs₂ with
  | @abortSection _ io _ _ habort =>
  have hio : io = Io.clean := hg₂.files io rfl fun _ hpc => by cases hpc
  subst hio
  have hdone : (x.rt.audit.abort reason Io.clean).1 =
      .ok (x.rt.audit.active.map fun a => a.terminated .ABORTED reason none) :=
    x.rt.audit._terminate_done .ABORTED none rfl hreason
      fun a ha => (hidle.wf.trial a ha).encodable
  rcases abortSection_cases { x.rt with execution_lock := some id } reason Io.clean with
    ⟨e, rt', herr, -⟩ | ⟨summary, r, audit, -, hnone, -, hok⟩
  · cases hdone.symm.trans herr
  · rw [hok] at habort
    obtain ⟨rfl, rfl⟩ := Prod.mk.inj habort
    obtain ⟨ch, rt₃, c₃, -, hs₃, h₃⟩ := h₂.of_running
    cases advance_of_callStep hs₃ with
    | abortRelease =>
    obtain ⟨rfl, rfl⟩ := h₃.of_returned
    have hover : (PolicyRuntime.trialOver { x.rt with session := none } audit).WF :=
      hidle.wf.dropSession.trialOver rfl hnone
    exact ⟨⟨_, _, rfl⟩, ⟨hover.counters none x.rt.in_flight, rfl, hidle.in_flight⟩, rfl, hstate⟩

end Calls

end OvenRuntime
