/-
  OvenRuntime.Server.TokenSecrecy
  ───────────────────────────────
  Where a session token goes.  `open_session` hands it out; from then on it
  sits in the lease and in the requests that present it, and one comparison
  reads it.

  The state with all tokens blotted out (`blind`) determines every section
  but that comparison, so two runs that differ in the tokens alone, and whose
  comparisons come out the same, agree on everything else
  (`session_token_secret`).
-/
import OvenRuntime.Lib.Lockstep
import OvenRuntime.Server.RuntimeRules
import OvenRuntime.Server.Replay

namespace OvenRuntime

/-! ## §1. Blotting out the tokens. -/

/-- A token without its text.  `secrets.compare_digest` raises on strings that
are not ASCII, so those stay. -/
def blindToken (token : PyStr) : PyStr := if token.isAscii then [] else token

/-- Blotting out keeps whether a token is ASCII. -/
@[simp] theorem blindToken_isAscii (token : PyStr) :
    (blindToken token).isAscii = token.isAscii := by
  unfold blindToken
  split
  · rename_i h
    rw [h]
    rfl
  · rfl

/-- Two ASCII tokens cannot be told apart any more. -/
theorem blindToken_eq {token token' : PyStr} (h : token.isAscii = true)
    (h' : token'.isAscii = true) : blindToken token = blindToken token' := by
  rw [blindToken, blindToken, if_pos h, if_pos h']

/-- A lease with its token blotted out. -/
def SessionLease.blind (lease : SessionLease) : SessionLease :=
  { lease with token := blindToken lease.token }

/-- The answer to `open_session` with the token in it blotted out. -/
def SessionGrant.blind (g : SessionGrant) : SessionGrant :=
  { g with session_token := blindToken g.session_token }

/-- A request with the token it presents blotted out. -/
def InferenceRequest.blind (request : InferenceRequest) : InferenceRequest :=
  { request with session_token := blindToken request.session_token }

namespace PolicyRuntime

/-- An inference in the middle of its call; the hashes it carries are those of fields
without the token. -/
def Inference.blind (inf : Inference) : Inference := { inf with request := inf.request.blind }

/-- The runtime with the token of its lease blotted out. -/
def blind (rt : PolicyRuntime) : PolicyRuntime :=
  { rt with session := rt.session.map SessionLease.blind }

end PolicyRuntime

/-- A result with the token in it blotted out, if there is one. -/
def Result.blind : Result → Result
  | .session g => .session g.blind
  | result => result

/-- A call in the middle, with the token of the request it serves blotted out. -/
def Pc.blind : Pc → Pc
  | .inferAcquire request => .inferAcquire request.blind
  | .inferEnter request => .inferEnter request.blind
  | .inferPolicy request lease_ref => .inferPolicy request.blind lease_ref
  | .inferRecord inf => .inferRecord inf.blind
  | .inferFailed request lease_ref e => .inferFailed request.blind lease_ref e
  | .inferFinish inf => .inferFinish inf.blind
  | .inferLeave request lease_ref out => .inferLeave request.blind lease_ref out
  | pc => pc

/-- A call that runs or has returned. -/
def CallState.blind : CallState → CallState
  | .running pc => .running pc.blind
  | .returned out => .returned (out.map Result.blind)

/-- The one choice of the environment that holds a token is the draw of `open_session`. -/
def Choice.blind : Choice → Choice
  | .drawn session_id token now => .drawn session_id (blindToken token) now
  | ch => ch

/-- The runtime and all its calls. -/
def Sys.blind (s : Sys) : Sys :=
  { rt := s.rt.blind, calls := fun id => (s.calls id).map CallState.blind }

/-- Blotting out first and setting a call afterwards comes to the same. -/
theorem Sys.setCall_blind (s : Sys) (rt : PolicyRuntime) (id : Nat) (c : CallState) :
    (s.setCall rt id c).blind = s.blind.setCall rt.blind id c.blind := by
  unfold Sys.setCall Sys.blind
  congr 1
  funext j
  by_cases h : j = id
  · subst h
    simp
  · simp [Function.update_of_ne h]

/-! ## §2. Sections that do not read the token. -/

namespace PolicyRuntime

@[simp] theorem blind_state (rt : PolicyRuntime) : rt.blind.state = rt.state := rfl
@[simp] theorem blind_active_skill (rt : PolicyRuntime) :
    rt.blind.active_skill = rt.active_skill := rfl
@[simp] theorem blind_generation (rt : PolicyRuntime) : rt.blind.generation = rt.generation := rfl
@[simp] theorem blind_trial_id (rt : PolicyRuntime) : rt.blind.trial_id = rt.trial_id := rfl
@[simp] theorem blind_in_flight (rt : PolicyRuntime) : rt.blind.in_flight = rt.in_flight := rfl
@[simp] theorem blind_execution_lock (rt : PolicyRuntime) :
    rt.blind.execution_lock = rt.execution_lock := rfl
@[simp] theorem blind_audit (rt : PolicyRuntime) : rt.blind.audit = rt.audit := rfl
@[simp] theorem blind_refs (rt : PolicyRuntime) : rt.blind.refs = rt.refs := rfl
@[simp] theorem blind_session (rt : PolicyRuntime) :
    rt.blind.session = rt.session.map SessionLease.blind := rfl

/-- The active lease is the same one, without its token. -/
@[simp] theorem blind_activeLease (rt : PolicyRuntime) :
    rt.blind.activeLease = rt.activeLease.map SessionLease.blind := by
  unfold activeLease
  rw [blind_session]
  cases rt.session with
  | none => rfl
  | some lease =>
      simp only [Option.map_some, SessionLease.blind]
      split <;> rfl

/-- `status` shows the session id and not the token. -/
@[simp] theorem blind_status (rt : PolicyRuntime) : rt.blind.status = rt.status := by
  unfold status
  rw [blind_activeLease]
  simp only [Option.map_map]
  rfl

/-- The same outcome, and the state blotted out. -/
def blindly {α : Type} (r : Except Exn α × PolicyRuntime) : Except Exn α × PolicyRuntime :=
  (r.1, r.2.blind)

/-- A test that does not read the token. -/
theorem blindly_ite {α : Type} {c c' : Prop} [Decidable c] [Decidable c']
    {x x' y y' : Except Exn α × PolicyRuntime} (hc : c' ↔ c) (hx : c → x' = blindly x)
    (hy : ¬ c → y' = blindly y) : (if c' then x' else y') = blindly (if c then x else y) := by
  by_cases h : c
  · rw [if_pos h, if_pos (hc.mpr h), hx h]
  · rw [if_neg h, if_neg (mt hc.mp h), hy h]

/-- Failing drops the lease, whatever its token is. -/
theorem failThenRaise_blind {α : Type} (rt : PolicyRuntime) (code : ErrorCode) (e : Exn) :
    (rt.blind.failThenRaise code e : Except Exn α × PolicyRuntime) =
      blindly (rt.failThenRaise code e) := by
  rw [failThenRaise_eq, failThenRaise_eq]
  rfl

/-- A transition does not read the lease. -/
theorem _transition_locked_blind (rt : PolicyRuntime) (target : RuntimeState) :
    rt.blind._transition_locked target = blindly (rt._transition_locked target) := by
  unfold _transition_locked
  rw [blind_state]
  split <;> rfl

/-- Nor does the drain loop. -/
theorem drain_blind (rt : PolicyRuntime) (deadline now : ℚ) :
    rt.blind.drain deadline now = blindly (rt.drain deadline now) := by
  unfold drain
  refine blindly_ite Iff.rfl (fun _ => ?_) fun _ => ?_
  · exact blindly_ite Iff.rfl (fun _ => failThenRaise_blind rt _ _) fun _ => rfl
  rw [_transition_locked_blind]
  rcases rt._transition_locked .SWITCHING with ⟨e | ⟨⟩, rt⟩
  · rfl
  · simp only [blindly]
    rw [_transition_locked_blind]
    rcases rt._transition_locked .LOADING with ⟨e | ⟨⟩, rt⟩ <;> rfl

/-- Nor does the first section of `prepare_skill`, which drops it. -/
theorem prepareEnter_blind (rt : PolicyRuntime) (drain_timeout_sec now now' : ℚ) :
    rt.blind.prepareEnter drain_timeout_sec now now' =
      blindly (rt.prepareEnter drain_timeout_sec now now') := by
  have hdropped : rt.blind._invalidate_session_locked .ABORTED =
      (rt._invalidate_session_locked .ABORTED).blind := rfl
  unfold prepareEnter
  refine blindly_ite Iff.rfl (fun _ => rfl) fun _ => ?_
  refine blindly_ite Iff.rfl (fun _ => rfl) fun _ => ?_
  rw [hdropped]
  refine blindly_ite Iff.rfl (fun _ => ?_) fun _ => ?_
  · rw [_transition_locked_blind]
    rcases (rt._invalidate_session_locked .ABORTED)._transition_locked .LOADING
      with ⟨e | ⟨⟩, rt⟩ <;> rfl
  · rw [_transition_locked_blind]
    rcases (rt._invalidate_session_locked .ABORTED)._transition_locked .DRAINING
      with ⟨e | ⟨⟩, rt⟩
    · rfl
    · exact drain_blind rt _ _

/-- Nor does the last one, which sets the skill and the generation. -/
theorem prepareCommit_blind (rt : PolicyRuntime) (skill : PyStr) (identity : BackendIdentity) :
    rt.blind.prepareCommit skill identity = blindly (rt.prepareCommit skill identity) := by
  let rt₁ : PolicyRuntime :=
    { rt with
      active_skill := some skill
      identity := some identity
      generation := rt.generation + 1 }
  have hcommit : rt₁.blind._transition_locked .READY = blindly (rt₁._transition_locked .READY) :=
    _transition_locked_blind rt₁ _
  have hsame : ({ rt.blind with
      active_skill := some skill
      identity := some identity
      generation := rt.blind.generation + 1 } : PolicyRuntime) = rt₁.blind := rfl
  unfold prepareCommit
  simp only
  rw [hsame, hcommit]
  show _ = blindly _
  rcases rt₁._transition_locked .READY with ⟨e | ⟨⟩, rt⟩
  · rfl
  · simp only [blindly, blind_status]

/-- `begin_trial` resets the generator and calls the store, neither with a token. -/
theorem beginSection_blind (rt : PolicyRuntime) (trial_id : PyStr) (root_seed : Int)
    (reset : Except Exn Unit) (io : Io) :
    rt.blind.beginSection trial_id root_seed reset io =
      blindly (rt.beginSection trial_id root_seed reset io) := by
  unfold beginSection
  refine blindly_ite Iff.rfl (fun _ => rfl) fun _ => ?_
  refine blindly_ite Iff.rfl (fun _ => rfl) fun _ => ?_
  rw [blind_active_skill, blind_audit, blind_generation]
  cases rt.active_skill with
  | none => rfl
  | some skill =>
      cases reset with
      | error e => rfl
      | ok u =>
          simp only
          rcases rt.audit.begin trial_id skill rt.generation root_seed io with ⟨e | active, audit⟩
          · rfl
          · let rt₁ : PolicyRuntime :=
              { rt with
                active_skill := some skill
                audit := audit
                trial_id := some active.trial_id
                trial_root_seed := some root_seed }
            exact congrArg (fun status => (Except.ok status, rt₁.blind)) (blind_status rt₁)

/-- `end_trial` asks whether there is an active lease, and for nothing in it. -/
theorem endTrial_blind (rt : PolicyRuntime) (io : Io) :
    rt.blind.endTrial io = blindly (rt.endTrial io) := by
  unfold endTrial
  refine blindly_ite (by simp) (fun _ => rfl) fun _ => ?_
  refine blindly_ite Iff.rfl (fun _ => rfl) fun _ => ?_
  rw [blind_audit]
  rcases rt.audit.end io with ⟨(f | e) | summary, audit⟩
  · exact failThenRaise_blind { rt with audit := audit } _ _
  · rfl
  · rfl

/-- `abort` drops the lease. -/
theorem abortSection_blind (rt : PolicyRuntime) (reason : PyStr) (io : Io) :
    rt.blind.abortSection reason io = blindly (rt.abortSection reason io) := by
  unfold abortSection _invalidate_session_locked
  simp only [blind_audit]
  rcases rt.audit.abort reason io with ⟨(f | e) | summary, audit⟩
  · exact failThenRaise_blind { rt with audit := audit, session := none } _ _
  · rfl
  · rfl

/-- `mark_transport_ambiguous` compares the session id. -/
theorem markAmbiguous_blind (rt : PolicyRuntime) (session_id : PyStr) (sequence : Int) (io : Io) :
    rt.blind.markAmbiguous session_id sequence io =
      blindly (rt.markAmbiguous session_id sequence io) := by
  unfold markAmbiguous
  rw [blind_session]
  cases rt.session with
  | none => rfl
  | some lease =>
      refine blindly_ite Iff.rfl (fun _ => rfl) fun _ => ?_
      simp only [_invalidate_session_locked, blind_audit]
      rcases rt.audit.mark_ambiguous ambiguityReason sequence io with ⟨(f | e) | summary, audit⟩
      · exact failThenRaise_blind { rt with audit := audit, session := none } _ _
      · rfl
      · simp only [_fail_locked_eq]
        rfl

/-- So does `close_session`. -/
theorem closeSession_blind (rt : PolicyRuntime) (session_id : PyStr) :
    rt.blind.closeSession session_id = blindly (rt.closeSession session_id) := by
  unfold closeSession
  rw [blind_activeLease]
  cases rt.activeLease with
  | none => rfl
  | some lease =>
      refine blindly_ite Iff.rfl (fun _ => rfl) fun _ => ?_
      exact blindly_ite Iff.rfl (fun _ => rfl) fun _ => rfl

/-- `close` drops the lease. -/
theorem closeSection_blind (rt : PolicyRuntime) (io : Io) :
    rt.blind.closeSection io = blindly (rt.closeSection io) := by
  have hstopped : (if rt.blind.state ≠ .STOPPING then rt.blind._transition_locked .STOPPING
      else (.ok (), rt.blind)) =
      blindly (if rt.state ≠ .STOPPING then rt._transition_locked .STOPPING else (.ok (), rt)) :=
    blindly_ite Iff.rfl (fun _ => _transition_locked_blind rt _) fun _ => rfl
  unfold closeSection
  simp only
  rw [hstopped]
  rcases (if rt.state ≠ .STOPPING then rt._transition_locked .STOPPING else (.ok (), rt))
    with ⟨e | ⟨⟩, rt⟩
  · rfl
  · refine blindly_ite Iff.rfl (fun _ => rfl) fun _ => ?_
    simp only [blindly, _invalidate_session_locked, blind_audit]
    rcases rt.audit.abort (py "server shutdown") io with ⟨(f | e) | summary, audit⟩ <;> rfl

/-- A new token goes into the lease and into the result. -/
theorem openSession_blind (cfg : RuntimeConfig) (rt : PolicyRuntime) (session_id token : PyStr)
    (now : ℚ) :
    rt.blind.openSession cfg session_id (blindToken token) now =
      (((rt.openSession cfg session_id token now).1).map SessionGrant.blind,
        (rt.openSession cfg session_id token now).2.blind) := by
  unfold openSession
  by_cases hready : rt.state ≠ .READY
  · rw [if_pos hready, if_pos (show rt.blind.state ≠ .READY from hready)]
    rfl
  rw [if_neg hready, if_neg (show ¬ rt.blind.state ≠ .READY from hready), blind_trial_id,
    blind_active_skill]
  cases rt.trial_id with
  | none => rfl
  | some trial_id =>
      cases rt.active_skill with
      | none => rfl
      | some skill =>
          have hlease : rt.blind.activeLease ≠ none ↔ rt.activeLease ≠ none := by simp
          by_cases hactive : rt.activeLease ≠ none
          · simp only [if_pos hactive, if_pos (hlease.mpr hactive)]
            rfl
          · simp only [if_neg hactive, if_neg (mt hlease.mp hactive)]
            rfl

/-! ## §3. The sections of `infer` past the admission. -/

/-- The hashed fields of a request do not include the token. -/
theorem hashInference_blind (nx : Numerics) (request : InferenceRequest) (lease_ref : Nat)
    (result : BackendResult) :
    hashInference nx request.blind lease_ref result =
      (hashInference nx request lease_ref result).map Inference.blind := by
  unfold hashInference
  show (nx.stable_tree_hash (.map request.observation) >>= fun observation_hash =>
    nx.stable_tree_hash (.map (requestHashFields request observation_hash)) >>= fun request_hash =>
      nx.stable_tree_hash result.actions >>= fun action_hash => _) = _
  cases nx.stable_tree_hash (.map request.observation) with
  | error e => rfl
  | ok observation_hash =>
      simp only [bind, Except.bind]
      cases nx.stable_tree_hash (.map (requestHashFields request observation_hash)) with
      | error e => rfl
      | ok request_hash =>
          simp only
          cases nx.stable_tree_hash result.actions with
          | error e => rfl
          | ok action_hash => rfl

/-- Nor does the audit row. -/
theorem inferRecord_blind (nx : Numerics) (rt : PolicyRuntime) (inf : Inference) (io : Io) :
    rt.blind.inferRecord nx inf.blind io = blindly (rt.inferRecord nx inf io) := rfl

/-- The handlers of `infer` drop the lease. -/
theorem inferFail_blind (rt : PolicyRuntime) (e : Exn) :
    rt.blind.inferFail e = blindly (rt.inferFail e) := by
  cases e with
  | fault f => exact failThenRaise_blind rt _ _
  | error e => exact failThenRaise_blind rt _ _

/-- The lease is told by its identity, not by its token. -/
theorem inferFinish_blind (rt : PolicyRuntime) (inf : Inference) :
    rt.blind.inferFinish inf.blind = blindly (rt.inferFinish inf) := by
  unfold inferFinish
  rw [blind_session]
  cases rt.session with
  | none => exact failThenRaise_blind rt _ _
  | some lease =>
      exact blindly_ite Iff.rfl (fun _ => rfl) fun _ => failThenRaise_blind rt _ _

/-! ## §4. The comparison. -/

/-- Both requests present the token of the lease they meet, or neither does. -/
def PresentAlike (rt₁ : PolicyRuntime) (request₁ : InferenceRequest) (rt₂ : PolicyRuntime)
    (request₂ : InferenceRequest) : Prop :=
  match rt₁.activeLease, rt₂.activeLease with
  | some lease₁, some lease₂ =>
      (request₁.session_token = lease₁.token ↔ request₂.session_token = lease₂.token)
  | _, _ => True

instance PresentAlike.decidable (rt₁ : PolicyRuntime) (request₁ : InferenceRequest)
    (rt₂ : PolicyRuntime) (request₂ : InferenceRequest) :
    Decidable (PresentAlike rt₁ request₁ rt₂ request₂) := by
  unfold PresentAlike
  split <;> infer_instance

/-- What the admission hands on, without the tokens. -/
def seen (r : Except Exn SessionLease × PolicyRuntime) : Except Exn SessionLease × PolicyRuntime :=
  (r.1.map SessionLease.blind, r.2.blind)

/-- Two chains of checks are seen alike if their tests agree and their outcomes are. -/
theorem seen_ite {c c' : Prop} [Decidable c] [Decidable c']
    {x x' y y' : Except Exn SessionLease × PolicyRuntime} (hc : c' ↔ c) (hx : seen x = seen x')
    (hy : seen y = seen y') : seen (if c then x else y) = seen (if c' then x' else y') := by
  by_cases h : c
  · rw [if_pos h, if_pos (hc.mpr h), hx]
  · rw [if_neg h, if_neg (mt hc.mp h), hy]

/-- Leases that differ in the token alone. -/
theorem lease_of_blind {lease₁ lease₂ : SessionLease} (h : lease₂.blind = lease₁.blind) :
    ∃ token, lease₂ = { lease₁ with token := token } ∧ token.isAscii = lease₁.token.isAscii := by
  refine ⟨lease₂.token, ?_, ?_⟩
  · have hrest := congrArg (fun lease => { lease with token := lease₂.token }) h
    exact hrest
  · rw [← blindToken_isAscii lease₂.token, ← blindToken_isAscii lease₁.token]
    exact congrArg (fun lease => lease.token.isAscii) h

/-- Requests that are equal without their tokens differ in the token alone. -/
theorem request_of_blind {request₁ request₂ : InferenceRequest}
    (h : request₂.blind = request₁.blind) :
    ∃ token, request₂ = { request₁ with session_token := token } ∧
      token.isAscii = request₁.session_token.isAscii := by
  refine ⟨request₂.session_token, ?_, ?_⟩
  · have hrest := congrArg (fun request => { request with session_token := request₂.session_token }) h
    exact hrest
  · rw [← blindToken_isAscii request₂.session_token, ← blindToken_isAscii request₁.session_token]
    exact congrArg (fun request => request.session_token.isAscii) h

/-- Runtimes that are equal without their tokens differ in the lease alone. -/
theorem runtime_of_blind {rt₁ rt₂ : PolicyRuntime} (h : rt₂.blind = rt₁.blind) :
    ∃ session, rt₂ = { rt₁ with session := session } :=
  ⟨rt₂.session, congrArg (fun rt => { rt with session := rt₂.session }) h⟩

/-- **The admission tells two tokens apart only by the comparison.** -/
theorem _validate_request_locked_alike {rt₁ rt₂ : PolicyRuntime}
    {request₁ request₂ : InferenceRequest} (hrt : rt₂.blind = rt₁.blind)
    (hrequest : request₂.blind = request₁.blind)
    (halike : PresentAlike rt₁ request₁ rt₂ request₂) (now : ℚ) :
    seen (rt₂._validate_request_locked request₂ now) =
      seen (rt₁._validate_request_locked request₁ now) := by
  have hleases : rt₂.activeLease.map SessionLease.blind =
      rt₁.activeLease.map SessionLease.blind := by
    rw [← blind_activeLease, ← blind_activeLease, hrt]
  have hrefused : ∀ e : Exn, seen (.error e, rt₂) = seen (.error e, rt₁) := by
    intro e
    exact congrArg (Prod.mk (Except.error e)) hrt
  unfold PresentAlike at halike
  unfold _validate_request_locked
  cases hlease₁ : rt₁.activeLease with
  | none =>
      rw [hlease₁] at hleases
      rw [Option.map_eq_none_iff.mp hleases]
      exact hrefused _
  | some lease₁ =>
      rw [hlease₁] at hleases
      obtain ⟨lease₂, hlease₂, hblind⟩ := Option.map_eq_some_iff.mp hleases
      rw [hlease₁, hlease₂] at halike
      rw [hlease₂]
      -- token apart, both sides read the same fields
      obtain ⟨token, rfl, hascii⟩ := lease_of_blind hblind
      obtain ⟨presented, rfl, hpresented⟩ := request_of_blind hrequest
      obtain ⟨session, rfl⟩ := runtime_of_blind hrt
      simp only at halike ⊢
      rw [hascii, hpresented]
      refine seen_ite Iff.rfl rfl ?_
      refine seen_ite Iff.rfl (hrefused _) ?_
      refine seen_ite Iff.rfl (hrefused _) ?_
      refine seen_ite (not_congr halike) (hrefused _) ?_
      refine seen_ite Iff.rfl (hrefused _) ?_
      refine seen_ite Iff.rfl (hrefused _) ?_
      refine seen_ite Iff.rfl (hrefused _) ?_
      refine seen_ite Iff.rfl (hrefused _) ?_
      refine seen_ite Iff.rfl (hrefused _) ?_
      refine seen_ite Iff.rfl (hrefused _) ?_
      exact Prod.ext (congrArg Except.ok hblind) hrt

/-- **The one section that reads the token**: with the comparison coming out the same,
admission does the same. -/
theorem inferEnter_alike {rt₁ rt₂ : PolicyRuntime} {request₁ request₂ : InferenceRequest}
    (hrt : rt₂.blind = rt₁.blind) (hrequest : request₂.blind = request₁.blind)
    (halike : PresentAlike rt₁ request₁ rt₂ request₂) (now : ℚ) :
    blindly (rt₂.inferEnter request₂ now) = blindly (rt₁.inferEnter request₁ now) := by
  have hseen := _validate_request_locked_alike hrt hrequest halike now
  unfold inferEnter
  generalize rt₁._validate_request_locked request₁ now = r₁ at hseen ⊢
  generalize rt₂._validate_request_locked request₂ now = r₂ at hseen ⊢
  rcases r₁ with ⟨e | lease, rt⟩ <;> rcases r₂ with ⟨e' | lease', rt'⟩
  · obtain ⟨he, hrt'⟩ := Prod.mk.inj hseen
    exact Prod.ext (congrArg Except.error (Except.error.inj he)) hrt'
  · cases (Prod.mk.inj hseen).1
  · cases (Prod.mk.inj hseen).1
  · obtain ⟨hlease, hrt'⟩ := Prod.mk.inj hseen
    refine Prod.ext ?_ ?_
    · have hblind : lease'.blind = lease.blind := Except.ok.inj hlease
      have href := congrArg SessionLease.ref hblind
      exact congrArg Except.ok href
    · exact congrArg (fun rt : PolicyRuntime => { rt with in_flight := rt.in_flight + 1 }) hrt'

end PolicyRuntime

/-! ## §5. The steps of a call. -/

/-- A step's outcome, blotted out. -/
def blindStep (r : PolicyRuntime × CallState) : PolicyRuntime × CallState := (r.1.blind, r.2.blind)

/-- A step that runs such a section goes on in the same way. -/
theorem branch_blind {α : Type} {r r' : Except Exn α × PolicyRuntime}
    {next next' : Except Exn α → CallState} (hr : r' = PolicyRuntime.blindly r)
    (hnext : ∀ out, next' out = (next out).blind) :
    some (branch r' next') = (some (branch r next)).map blindStep := by
  rw [hr]
  exact congrArg (fun c => some (r.2.blind, c)) (hnext r.1)

/-- A section that only fails the runtime. -/
theorem fail_blind {α : Type} (rt : PolicyRuntime) (code : ErrorCode) (e : Exn)
    {next next' : Except Exn α → CallState} (hnext : next' (.error e) = (next (.error e)).blind) :
    some (branch (rt.blind.failThenRaise code e) next') =
      (some (branch (rt.failThenRaise code e) next)).map blindStep := by
  rw [PolicyRuntime.failThenRaise_eq, PolicyRuntime.failThenRaise_eq]
  exact congrArg (fun c => some ((rt.failed code).blind, c)) hnext

/-- Taking the lock does not look at the lease. -/
theorem acquire_blind (id : Nat) (rt : PolicyRuntime) (next : Pc) :
    acquire id rt.blind next.blind = (acquire id rt next).map blindStep := by
  unfold acquire
  by_cases hfree : rt.execution_lock = none
  · rw [if_pos hfree, if_pos (show rt.blind.execution_lock = none from hfree)]
    rfl
  · rw [if_neg hfree, if_neg (show ¬ rt.blind.execution_lock = none from hfree)]
    rfl

/-- What a call returns without a session grant in it has no token. -/
theorem returning_blind {α : Type} {f : α → Result} (hf : ∀ a, (f a).blind = f a)
    (out : Except Exn α) : returning f out = (returning f out).blind := by
  cases out with
  | error e => rfl
  | ok a => exact congrArg (fun result => CallState.returned (.ok result)) (hf a).symm

/-- A call that returns a grant returns it without the token. -/
theorem returning_session_blind (out : Except Exn SessionGrant) :
    returning .session (out.map SessionGrant.blind) = (returning .session out).blind := by
  cases out <;> rfl

/-- There is no token in the middle of `prepare_skill`. -/
theorem afterDrain_blind (skill : PyStr) (out : Except Exn PolicyRuntime.Drained) :
    afterDrain skill out = (afterDrain skill out).blind := by
  rcases out with e | (_ | deadline) <;> rfl

/-- Nor in the middle of `begin_trial`. -/
theorem afterBegin_blind (out : Except Exn Status) : afterBegin out = (afterBegin out).blind := by
  rcases out with (f | e) | status <;> rfl

/-- **Every step but the admission** is a step of the state with the tokens
blotted out. -/
theorem callStep_blind (cfg : RuntimeConfig) (nx : Numerics) (id : Nat) (pc : Pc) (ch : Choice)
    (rt : PolicyRuntime) (hpc : ∀ request, pc ≠ .inferEnter request) :
    callStep cfg nx id pc.blind ch.blind rt.blind =
      (callStep cfg nx id pc ch rt).map blindStep := by
  cases pc with
  | status =>
      cases ch with
      | go =>
          exact congrArg (fun status => some (rt.blind, CallState.returned (.ok (.status status))))
            rt.blind_status
      | _ => rfl
  | prepareEnter skill drain_timeout_sec =>
      cases ch with
      | clocks now now' =>
          exact branch_blind (rt.prepareEnter_blind _ _ _) (afterDrain_blind skill)
      | _ => rfl
  | prepareDrain skill deadline =>
      cases ch with
      | clock now => exact branch_blind (rt.drain_blind _ _) (afterDrain_blind skill)
      | _ => rfl
  | prepareAcquire skill =>
      cases ch with
      | acquired => exact acquire_blind id rt (.prepareLoad skill)
      | _ => rfl
  | prepareBusy =>
      cases ch with
      | go => exact fail_blind rt _ _ rfl
      | _ => rfl
  | prepareLoad skill =>
      cases ch with
      | loaded r =>
          cases r with
          | error e => rfl
          | ok identity =>
              simp only [Pc.blind, Choice.blind, callStep]
              split <;> rfl
      | _ => rfl
  | prepareFailed e =>
      cases ch with
      | go => exact fail_blind rt _ _ rfl
      | _ => rfl
  | prepareRelease skill loaded =>
      cases ch with
      | go => cases loaded <;> rfl
      | _ => rfl
  | prepareCommit skill identity =>
      cases ch with
      | go =>
          exact branch_blind (rt.prepareCommit_blind _ _) (returning_blind fun _ => rfl)
      | _ => rfl
  | beginAcquire trial_id root_seed =>
      cases ch with
      | acquired => exact acquire_blind id rt (.beginSection trial_id root_seed)
      | _ => rfl
  | beginSection trial_id root_seed =>
      cases ch with
      | begun reset io => exact branch_blind (rt.beginSection_blind _ _ _ _) afterBegin_blind
      | _ => rfl
  | beginFailed =>
      cases ch with
      | go => exact fail_blind rt _ _ rfl
      | _ => rfl
  | beginRelease out =>
      cases ch with
      | go => cases out <;> rfl
      | _ => rfl
  | openSession =>
      cases ch with
      | drawn session_id token now =>
          show some (branch (rt.blind.openSession cfg session_id (blindToken token) now)
            (returning .session)) = _
          rw [rt.openSession_blind]
          exact congrArg (fun c => some ((rt.openSession cfg session_id token now).2.blind, c))
            (returning_session_blind _)
      | _ => rfl
  | inferAcquire request =>
      cases ch with
      | acquired => exact acquire_blind id rt (.inferEnter request)
      | _ => rfl
  | inferEnter request => exact absurd rfl (hpc request)
  | inferPolicy request lease_ref =>
      cases ch with
      | inferred r =>
          cases r with
          | error e => rfl
          | ok result =>
              simp only [Pc.blind, Choice.blind, callStep, PolicyRuntime.hashInference_blind]
              cases PolicyRuntime.hashInference nx request lease_ref result <;> rfl
      | _ => rfl
  | inferRecord inf =>
      cases ch with
      | io io =>
          refine branch_blind (rt.inferRecord_blind nx inf io) fun out => ?_
          cases out <;> rfl
      | _ => rfl
  | inferFailed request lease_ref e =>
      cases ch with
      | go => exact branch_blind (rt.inferFail_blind e) fun _ => rfl
      | _ => rfl
  | inferFinish inf =>
      cases ch with
      | go => exact branch_blind (rt.inferFinish_blind inf) fun _ => rfl
      | _ => rfl
  | inferLeave request lease_ref out => cases ch <;> rfl
  | inferRelease out =>
      cases ch with
      | go => cases out <;> rfl
      | _ => rfl
  | closeSession session_id =>
      cases ch with
      | go => exact branch_blind (rt.closeSession_blind _) (returning_blind fun _ => rfl)
      | _ => rfl
  | endTrial =>
      cases ch with
      | io io => exact branch_blind (rt.endTrial_blind io) (returning_blind fun _ => rfl)
      | _ => rfl
  | abortAcquire reason =>
      cases ch with
      | acquired => exact acquire_blind id rt (.abortSection reason)
      | _ => rfl
  | abortTimedOut =>
      cases ch with
      | go => exact fail_blind rt _ _ rfl
      | _ => rfl
  | abortSection reason =>
      cases ch with
      | io io => exact branch_blind (rt.abortSection_blind reason io) fun _ => rfl
      | _ => rfl
  | abortRelease out =>
      cases ch with
      | go => cases out <;> rfl
      | _ => rfl
  | markAmbiguous session_id sequence =>
      cases ch with
      | io io => exact branch_blind (rt.markAmbiguous_blind _ _ io) (returning_blind fun _ => rfl)
      | _ => rfl
  | closeSection =>
      cases ch with
      | io io =>
          refine branch_blind (rt.closeSection_blind io) fun out => ?_
          cases out <;> rfl
      | _ => rfl
  | closeBackend audit_error =>
      cases ch with
      | backendClosed r =>
          cases audit_error with
          | some e => rfl
          | none => cases r <;> rfl
      | _ => rfl

/-! ## §6. Requests that differ in the token. -/

/-- What `secrets.token_urlsafe` may draw, as far as the request parser cares. -/
def IsToken (token : PyStr) : Prop :=
  token.isAscii = true ∧ 32 ≤ token.length ∧ token.length ≤ 128

/-- The key of a request payload that holds the token. -/
def tokenKey : Key := .str (py "session_token")

/-- The mapping with another token in it, if it has one. -/
def Dict.withToken (d : Dict) (token : PyStr) : Dict :=
  List.map (fun e => if e.1 = tokenKey then (e.1, .str token) else e) d

/-- The payload with another token in it. -/
def Value.presenting (payload : Value) (token : PyStr) : Value :=
  match payload with
  | .map d => .map (Dict.withToken d token)
  | payload => payload

/-- Another token leaves the keys as they are, so the check of the field set comes out the
same. -/
theorem Dict.withToken_keys (d : Dict) (token : PyStr) : (d.withToken token).keys = d.keys := by
  unfold Dict.withToken Dict.keys
  rw [List.map_map]
  refine List.map_congr_left fun e _ => ?_
  simp only [Function.comp_apply]
  split <;> rfl

/-- It leaves all other fields alone. -/
theorem Dict.withToken_lookup (d : Dict) (token : PyStr) {k : Key} (hk : k ≠ tokenKey) :
    (d.withToken token).lookup k = d.lookup k := by
  induction d with
  | nil => rfl
  | cons e d ih =>
      show List.lookup k ((if e.1 = tokenKey then (e.1, .str token) else e) :: Dict.withToken d token)
        = _
      by_cases he : e.1 = tokenKey
      · have hne : (k == e.1) = false := beq_false_of_ne (he ▸ hk)
        rw [if_pos he, List.lookup_cons, List.lookup_cons, hne]
        exact ih
      · rw [if_neg he, List.lookup_cons, List.lookup_cons, ih]

/-- So does it for a field that is read by its name. -/
theorem Dict.withToken_getItem (d : Dict) (token : PyStr) {name : String}
    (hname : Key.str (py name) ≠ tokenKey) : (d.withToken token).getItem name = d.getItem name := by
  unfold Dict.getItem Dict.get?
  rw [Dict.withToken_lookup d token hname]

/-- The entry under the token's name is the token, or missing. -/
theorem Dict.withToken_token (d : Dict) (token : PyStr) :
    (d.withToken token).getItem "session_token" =
      (d.getItem "session_token").map fun _ => .str token := by
  have hlookup : (Dict.withToken d token).lookup tokenKey =
      (List.lookup tokenKey d).map fun _ => .str token := by
    induction d with
    | nil => rfl
    | cons e d ih =>
        show List.lookup tokenKey
          ((if e.1 = tokenKey then (e.1, .str token) else e) :: Dict.withToken d token) = _
        by_cases he : e.1 = tokenKey
        · rw [if_pos he, List.lookup_cons, List.lookup_cons, he, beq_self_eq_true]
          rfl
        · have hne : (tokenKey == e.1) = false := beq_false_of_ne (Ne.symm he)
          rw [if_neg he, List.lookup_cons, List.lookup_cons, hne]
          exact ih
  unfold Dict.getItem Dict.get?
  rw [show Key.str (py "session_token") = tokenKey from rfl, hlookup]
  cases d.lookup tokenKey <;> rfl

/-- Two parses that end alike, tokens apart. -/
def ParseAlike (x y : Except Exn InferenceRequest) : Prop :=
  x.map InferenceRequest.blind = y.map InferenceRequest.blind

/-- Parsers that begin alike and go on alike are alike. -/
theorem ParseAlike.bind {α : Type} {x y : Except Exn α} {f g : α → Except Exn InferenceRequest}
    (hxy : x = y) (h : ∀ a, ParseAlike (f a) (g a)) : ParseAlike (x >>= f) (y >>= g) := by
  subst hxy
  cases x with
  | error e => rfl
  | ok a => exact h a

/-- So are parsers that check the same condition. -/
theorem ParseAlike.guard {c c' : Prop} [Decidable c] [Decidable c'] {e : Exn}
    {x y : Except Exn InferenceRequest} (hc : c' ↔ c) (h : ParseAlike x y) :
    ParseAlike (if c then (throw e : Except Exn PUnit) >>= fun _ => x else x)
      (if c' then (throw e : Except Exn PUnit) >>= fun _ => y else y) := by
  by_cases hcond : c
  · rw [if_pos hcond, if_pos (hc.mpr hcond)]
    rfl
  · rw [if_neg hcond, if_neg (mt hc.mp hcond)]
    exact h

/-- Reading the token itself. -/
theorem ParseAlike.token {x y : Except Exn PyStr} {z : Except Exn Value} {token token' : PyStr}
    {f g : PyStr → Except Exn InferenceRequest} (hx : x = z.map fun _ => token)
    (hy : y = z.map fun _ => token') (h : ParseAlike (f token) (g token')) :
    ParseAlike (x >>= f) (y >>= g) := by
  subst hx hy
  cases z with
  | error e => rfl
  | ok v => exact h

/-- A token passes the checks on it. -/
theorem _required_string_token (d : Dict) {token : PyStr} (h : IsToken token) :
    _required_string (d.withToken token) "session_token" =
      (d.getItem "session_token").map fun _ => token := by
  unfold _required_string
  rw [Dict.withToken_token]
  cases d.getItem "session_token" with
  | error e => rfl
  | ok v =>
      cases token with
      | nil => exact absurd h.2.1 (by decide)
      | cons c cs => rfl

/-- The length check of the token field passes. -/
theorem IsToken.length {token : PyStr} (h : IsToken token) :
    (!(decide (32 ≤ token.length) && decide (token.length ≤ 128))) = false := by
  simp [h.2.1, h.2.2]

/-- The parser does the same with either token, check by check, and the requests differ in
the token alone. -/
theorem parseRequestFields_alike (repr_fits : Value → Bool) (d : Dict) (version : Int)
    {token token' : PyStr} (h : IsToken token) (h' : IsToken token') :
    ParseAlike (parseRequestFields repr_fits version (d.withToken token))
      (parseRequestFields repr_fits version (d.withToken token')) := by
  have hitem : ∀ name, Key.str (py name) ≠ tokenKey →
      (d.withToken token).getItem name = (d.withToken token').getItem name := by
    intro name hname
    rw [Dict.withToken_getItem d token hname, Dict.withToken_getItem d token' hname]
  have hstring : ∀ name, Key.str (py name) ≠ tokenKey →
      _required_string (d.withToken token) name = _required_string (d.withToken token') name := by
    intro name hname
    unfold _required_string
    rw [hitem name hname]
  have hinteger : ∀ name minimum, Key.str (py name) ≠ tokenKey →
      _required_integer (d.withToken token) name minimum =
        _required_integer (d.withToken token') name minimum := by
    intro name minimum hname
    unfold _required_integer
    rw [hitem name hname]
  unfold parseRequestFields
  refine .bind (hstring _ (by decide)) fun session_id => .guard Iff.rfl ?_
  refine .token (_required_string_token d h) (_required_string_token d h') ?_
  refine .guard (by rw [h.length, h'.length]) ?_
  refine .bind (hstring _ (by decide)) fun trial_id => .guard Iff.rfl ?_
  refine .bind (hitem _ (by decide)) fun kind => ?_
  refine .bind rfl fun request_kind => ?_
  refine .bind (hstring _ (by decide)) fun expected_skill => ?_
  refine .bind (hinteger _ _ (by decide)) fun generation => ?_
  refine .bind (hinteger _ _ (by decide)) fun sequence => ?_
  refine .bind (hinteger _ _ (by decide)) fun sent_at => ?_
  refine .bind (hitem _ (by decide)) fun observation => ?_
  cases observation with
  | map observation =>
      refine congrArg Except.ok ?_
      unfold InferenceRequest.blind
      simp only [blindToken_eq h.1 h'.1]
  | _ => rfl

/-- **The parser treats all tokens alike.** -/
theorem parse_alike (repr_fits : Value → Bool) (payload : Value) {token token' : PyStr}
    (h : IsToken token) (h' : IsToken token') :
    ParseAlike (InferenceRequest.parse repr_fits (payload.presenting token))
      (InferenceRequest.parse repr_fits (payload.presenting token')) := by
  cases payload with
  | map d =>
      have hfields : checkRequestFields (Dict.withToken d token) =
          checkRequestFields (Dict.withToken d token') := by
        unfold checkRequestFields
        rw [Dict.withToken_keys, Dict.withToken_keys]
      have hheader : checkRequestHeader (Dict.withToken d token) =
          checkRequestHeader (Dict.withToken d token') := by
        unfold checkRequestHeader
        rw [Dict.withToken_getItem d token (by decide), Dict.withToken_getItem d token (by decide),
          Dict.withToken_getItem d token' (by decide), Dict.withToken_getItem d token' (by decide)]
      exact .bind hfields fun _ => .bind hheader fun version =>
        parseRequestFields_alike repr_fits d version h h'
  | _ => rfl

/-! ## §7. Two runs. -/

/-- The same call, but for the token an inference presents. -/
inductive Op.Alike : Op → Op → Prop
  | same (op : Op) : Op.Alike op op
  | infer (payload : Value) {token₁ token₂ : PyStr} : IsToken token₁ → IsToken token₂ →
      Op.Alike (.infer (payload.presenting token₁)) (.infer (payload.presenting token₂))

/-- The same decisions of the environment, but for the token drawn. -/
inductive Choice.Alike : Choice → Choice → Prop
  | same (ch : Choice) : Choice.Alike ch ch
  | drawn (session_id : PyStr) {token₁ token₂ : PyStr} (now : ℚ) : IsToken token₁ →
      IsToken token₂ → Choice.Alike (.drawn session_id token₁ now) (.drawn session_id token₂ now)

/-- An admission in both runs is of requests that both present the right
token or both a wrong one. -/
def Pc.PresentAlike (rt₁ : PolicyRuntime) (pc₁ : Pc) (rt₂ : PolicyRuntime) (pc₂ : Pc) : Prop :=
  match pc₁, pc₂ with
  | .inferEnter request₁, .inferEnter request₂ =>
      PolicyRuntime.PresentAlike rt₁ request₁ rt₂ request₂
  | _, _ => True

instance Pc.PresentAlike.decidable (rt₁ : PolicyRuntime) (pc₁ : Pc) (rt₂ : PolicyRuntime)
    (pc₂ : Pc) : Decidable (Pc.PresentAlike rt₁ pc₁ rt₂ pc₂) := by
  unfold Pc.PresentAlike
  split <;> infer_instance

/-- Steps of two runs that differ in the tokens alone. -/
inductive TwinStep : Sys → Label → Sys → Label → Prop
  | call {s₁ s₂ : Sys} {id : Nat} {op₁ op₂ : Op} : op₁.Alike op₂ →
      TwinStep s₁ (.call id op₁) s₂ (.call id op₂)
  | step {s₁ s₂ : Sys} {id : Nat} {pc₁ pc₂ : Pc} {ch₁ ch₂ : Choice} {next₁ next₂ : CallState} :
      ch₁.Alike ch₂ → Pc.PresentAlike s₁.rt pc₁ s₂.rt pc₂ →
      TwinStep s₁ (.step id pc₁ ch₁ next₁) s₂ (.step id pc₂ ch₂ next₂)

/-- Two runs over the same audit root that differ in the tokens alone. -/
abbrev TwinRuns (cfg : RuntimeConfig) (nx : Numerics) :
    List (Label × Label) → Sys × Sys → Prop :=
  TransitionSystem.Run (TransitionSystem.lockstep (runtimeSystem cfg nx) Eq TwinStep)

/-- The result without the `session_token` field. -/
def Result.exceptToken : Result → Result
  | .session g => .session { g with session_token := [] }
  | result => result

/-- What a call has returned, without the `session_token` field, or raised. -/
def CallState.outcome : CallState → Option (Except Exn Result)
  | .returned out => some (out.map Result.exceptToken)
  | .running _ => none

/-- What a call has returned or raised, if it has. -/
def Sys.outcome (s : Sys) (id : Nat) : Option (Except Exn Result) :=
  (s.calls id).bind CallState.outcome

/-- Choices that differ in the token drawn are equal without it. -/
theorem Choice.Alike.blind {ch₁ ch₂ : Choice} (h : ch₁.Alike ch₂) : ch₂.blind = ch₁.blind := by
  cases h with
  | same => rfl
  | drawn session_id now h₁ h₂ =>
      exact congrArg (fun token => Choice.drawn session_id token now) (blindToken_eq h₂.1 h₁.1)

/-- Two calls begin alike. -/
theorem Op.Alike.start {nx : Numerics} {op₁ op₂ : Op} (h : op₁.Alike op₂) :
    (op₂.start nx).blind = (op₁.start nx).blind := by
  cases h with
  | same => rfl
  | @infer payload token₁ token₂ h₁ h₂ =>
      have hparse := parse_alike nx.repr_fits payload h₂ h₁
      unfold ParseAlike at hparse
      simp only [Op.start]
      generalize InferenceRequest.parse nx.repr_fits (payload.presenting token₁) = r₁ at hparse ⊢
      generalize InferenceRequest.parse nx.repr_fits (payload.presenting token₂) = r₂ at hparse ⊢
      cases r₁ with
      | error e₁ =>
          cases r₂ with
          | error e₂ =>
              have he : e₂ = e₁ := Except.error.inj hparse
              rw [he]
          | ok request₂ => cases hparse
      | ok request₁ =>
          cases r₂ with
          | error e₂ => cases hparse
          | ok request₂ =>
              have hrequest : request₂.blind = request₁.blind := Except.ok.inj hparse
              exact congrArg (fun request => CallState.running (.inferAcquire request)) hrequest

/-- The program counter under the blot. -/
theorem Sys.pc_of_blind {s₁ s₂ : Sys} (h : s₂.blind = s₁.blind) {id : Nat} {pc₁ pc₂ : Pc}
    (h₁ : s₁.calls id = some (.running pc₁)) (h₂ : s₂.calls id = some (.running pc₂)) :
    pc₂.blind = pc₁.blind := by
  have hcalls : (s₂.calls id).map CallState.blind = (s₁.calls id).map CallState.blind :=
    congrFun (congrArg Sys.calls h) id
  rw [h₁, h₂] at hcalls
  exact CallState.running.inj (Option.some.inj hcalls)

/-- Only an admission looks like one. -/
theorem Pc.inferEnter_of_blind {pc : Pc} {request : InferenceRequest}
    (h : pc.blind = .inferEnter request) :
    ∃ request', pc = .inferEnter request' ∧ request'.blind = request := by
  cases pc with
  | inferEnter request' => exact ⟨request', rfl, Pc.inferEnter.inj h⟩
  | _ => cases h

/-- **One step.**  Two calls at the same place, given the same choice, end in
the same place and leave the same state, tokens apart. -/
theorem callStep_alike (cfg : RuntimeConfig) (nx : Numerics) (id : Nat) {pc₁ pc₂ : Pc}
    {ch₁ ch₂ : Choice} {rt₁ rt₂ : PolicyRuntime} (hpc : pc₂.blind = pc₁.blind)
    (hch : ch₁.Alike ch₂) (hrt : rt₂.blind = rt₁.blind)
    (halike : Pc.PresentAlike rt₁ pc₁ rt₂ pc₂) :
    (callStep cfg nx id pc₂ ch₂ rt₂).map blindStep =
      (callStep cfg nx id pc₁ ch₁ rt₁).map blindStep := by
  by_cases hadmission : ∃ request, pc₁ = .inferEnter request
  · obtain ⟨request₁, rfl⟩ := hadmission
    obtain ⟨request₂, rfl, hrequest⟩ := Pc.inferEnter_of_blind hpc
    cases hch with
    | drawn session_id now h₁ h₂ => rfl
    | same =>
        cases ch₁ with
        | clock now =>
            have henter := PolicyRuntime.inferEnter_alike hrt hrequest halike now
            simp only [callStep, branch, Option.map_some]
            generalize rt₁.inferEnter request₁ now = r₁ at henter ⊢
            generalize rt₂.inferEnter request₂ now = r₂ at henter ⊢
            obtain ⟨hout, hstate⟩ := Prod.mk.inj henter
            rw [hout]
            refine congrArg some (Prod.ext hstate ?_)
            cases r₁.1 with
            | error e => rfl
            | ok lease_ref =>
                exact congrArg (fun request => CallState.running (.inferPolicy request lease_ref))
                  hrequest
        | _ => rfl
  · have hne₁ : ∀ request, pc₁ ≠ .inferEnter request := fun request h => hadmission ⟨request, h⟩
    have hne₂ : ∀ request, pc₂ ≠ .inferEnter request := by
      intro request h
      rw [h] at hpc
      obtain ⟨request', h', -⟩ := Pc.inferEnter_of_blind hpc.symm
      exact hne₁ request' h'
    rw [← callStep_blind cfg nx id pc₁ ch₁ rt₁ hne₁, ← callStep_blind cfg nx id pc₂ ch₂ rt₂ hne₂,
      hpc, hch.blind, hrt]

/-- Two systems that look the same look the same after twin steps. -/
theorem TwinStep.blind {cfg : RuntimeConfig} {nx : Numerics} {s₁ s₁' s₂ s₂' : Sys} {l₁ l₂ : Label}
    (h : TwinStep s₁ l₁ s₂ l₂) (hblind : s₂.blind = s₁.blind) (h₁ : Step cfg nx s₁ l₁ s₁')
    (h₂ : Step cfg nx s₂ l₂ s₂') : s₂'.blind = s₁'.blind := by
  have hrt : s₂.rt.blind = s₁.rt.blind := congrArg Sys.rt hblind
  cases h with
  | call hop =>
      cases h₁ with
      | call =>
          cases h₂ with
          | call => rw [Sys.setCall_blind, Sys.setCall_blind, hblind, hrt, hop.start]
  | @step _ id _ _ _ _ _ _ hch halike =>
      cases h₁ with
      | step hpc₁ hst₁ =>
          cases h₂ with
          | step hpc₂ hst₂ =>
              have hpc := Sys.pc_of_blind hblind hpc₁ hpc₂
              have hstep := callStep_alike cfg nx id hpc hch hrt halike
              rw [hst₁, hst₂] at hstep
              obtain ⟨hrt', hnext⟩ := Prod.mk.inj (Option.some.inj hstep)
              simp only at hrt' hnext
              rw [Sys.setCall_blind, Sys.setCall_blind, hblind, hrt', hnext]

/-- Calls that look the same end the same. -/
theorem CallState.outcome_blind (c : CallState) : c.blind.outcome = c.outcome := by
  rcases c with pc | (e | result)
  · rfl
  · rfl
  · cases result <;> rfl

/-- So blotting out the tokens of the whole system changes no outcome. -/
theorem Sys.outcome_blind (s : Sys) (id : Nat) : s.blind.outcome id = s.outcome id := by
  unfold Sys.outcome
  show ((s.calls id).map CallState.blind).bind CallState.outcome = _
  cases s.calls id with
  | none => rfl
  | some c => exact c.outcome_blind

/-- **The session token shows nowhere but in the result of `open_session`**:
runs that differ in the tokens alone agree on every outcome, on the files of
the audit and on the status. -/
theorem session_token_secret {cfg : RuntimeConfig} {nx : Numerics} {ls : List (Label × Label)}
    {s : Sys × Sys} (h : TwinRuns cfg nx ls s) :
    (∀ id, s.2.outcome id = s.1.outcome id) ∧ s.2.rt.audit = s.1.rt.audit ∧
      s.2.rt.status = s.1.rt.status := by
  have hblind : s.2.blind = s.1.blind := by
    refine TransitionSystem.lockstep_related (R := fun s₁ s₂ => s₂.blind = s₁.blind) ?_ ?_ h
    · intro s₁ s₂ _ _ heq
      rw [heq]
    · intro _ _ s₁ s₂ l₁ l₂ s₁' s₂' _ _ hblind htwin h₁ h₂
      exact htwin.blind hblind h₁ h₂
  have hrt : s.2.rt.blind = s.1.rt.blind := congrArg Sys.rt hblind
  refine ⟨?_, ?_, ?_⟩
  · intro id
    rw [← Sys.outcome_blind s.2, hblind, Sys.outcome_blind]
  · rw [← PolicyRuntime.blind_audit s.2.rt, hrt, PolicyRuntime.blind_audit]
  · rw [← PolicyRuntime.blind_status s.2.rt, hrt, PolicyRuntime.blind_status]

/-! ## §8. Two runs from two scripts. -/

/-- Lines of two scripts that differ in the tokens alone. -/
inductive Move.Alike : Move → Move → Prop
  | call {id : Nat} {op₁ op₂ : Op} : op₁.Alike op₂ → Move.Alike (.call id op₁) (.call id op₂)
  | step {id : Nat} {ch₁ ch₂ : Choice} : ch₁.Alike ch₂ → Move.Alike (.step id ch₁) (.step id ch₂)

/-- Where a label says the call was, and whether both calls present alike there. -/
def Label.presentAlike (rt₁ : PolicyRuntime) (l₁ : Label) (rt₂ : PolicyRuntime) (l₂ : Label) :
    Bool :=
  match l₁, l₂ with
  | .step _ pc₁ _ _, .step _ pc₂ _ _ => decide (Pc.PresentAlike rt₁ pc₁ rt₂ pc₂)
  | _, _ => true

/-- Carry out two scripts line by line. -/
def Sys.replayBoth (cfg : RuntimeConfig) (nx : Numerics) :
    Sys × Sys → List (Move × Move) → Option (List (Label × Label) × (Sys × Sys))
  | s, [] => some ([], s)
  | s, m :: ms =>
      match s.1.move cfg nx m.1, s.2.move cfg nx m.2 with
      | some (l₁, s₁), some (l₂, s₂) =>
          if Label.presentAlike s.1.rt l₁ s.2.rt l₂ then
            (Sys.replayBoth cfg nx (s₁, s₂) ms).map fun r => ((l₁, l₂) :: r.1, r.2)
          else none
      | _, _ => none

/-- Two lines of a script that differ in the tokens make a pair of steps. -/
theorem Sys.move_twin {cfg : RuntimeConfig} {nx : Numerics} {s₁ s₁' s₂ s₂' : Sys} {m₁ m₂ : Move}
    {l₁ l₂ : Label} (hm : m₁.Alike m₂) (h₁ : s₁.move cfg nx m₁ = some (l₁, s₁'))
    (h₂ : s₂.move cfg nx m₂ = some (l₂, s₂'))
    (halike : Label.presentAlike s₁.rt l₁ s₂.rt l₂ = true) : TwinStep s₁ l₁ s₂ l₂ := by
  have hl₁ := Sys.move_labels h₁
  have hl₂ := Sys.move_labels h₂
  cases hm with
  | call hop =>
      cases hl₁
      cases hl₂
      exact .call hop
  | step hch =>
      obtain ⟨pc₁, next₁, rfl⟩ := hl₁
      obtain ⟨pc₂, next₂, rfl⟩ := hl₂
      exact .step hch (of_decide_eq_true halike)

/-- Scripts that get through are twin runs. -/
theorem Sys.replayBoth_path {cfg : RuntimeConfig} {nx : Numerics} {s s' : Sys × Sys}
    {ms : List (Move × Move)} {ls : List (Label × Label)} (hms : ∀ m ∈ ms, m.1.Alike m.2)
    (h : Sys.replayBoth cfg nx s ms = some (ls, s')) :
    TransitionSystem.Path (TransitionSystem.lockstep (runtimeSystem cfg nx) Eq TwinStep) s ls s' := by
  induction ms generalizing s ls with
  | nil =>
      cases h
      exact .nil _
  | cons m ms ih =>
      simp only [Sys.replayBoth] at h
      split at h
      · rename_i l₁ s₁ l₂ s₂ h₁ h₂
        split at h
        · rename_i halike
          obtain ⟨⟨ls', s''⟩, hr, he⟩ := Option.map_eq_some_iff.mp h
          cases he
          have htwin := Sys.move_twin (hms m (List.mem_cons_self ..)) h₁ h₂ halike
          exact .cons ⟨Sys.move_step h₁, Sys.move_step h₂, htwin⟩
            (ih (fun m hm => hms m (List.mem_cons_of_mem _ hm)) hr)
        · cases h
      · cases h

/-- A second token of the right form. -/
def otherToken : PyStr := py "ABCDE-_9876543210zyxwvutsrqponmlkjihgfedcba"

/-- A token that was never drawn. -/
def wrongToken : PyStr := py "wrongwrongwrongwrongwrongwrongwrong"

/-- Skill, trial, session, an inference with a wrong token and one with the
right one. -/
def twinScript (token : PyStr) : List Move :=
  warmUp sampleId token ++
    [.call 3 (.infer ((samplePayload 0).presenting wrongToken)), .step 3 .acquired,
     .step 3 (.clock 1), .step 3 .go,
     .call 4 (.infer ((samplePayload 0).presenting token)), .step 4 .acquired,
     .step 4 (.clock 1), .step 4 (.inferred (.ok { actions := .list [], noise_hash := [] })),
     .step 4 (.io Io.clean), .step 4 .go, .step 4 .go, .step 4 .go]

/-- The token a call has handed out. -/
def Sys.grantedToken (s : Sys) (id : Nat) : Option PyStr :=
  match s.calls id with
  | some (.returned (.ok (.session g))) => some g.session_token
  | _ => none

theorem sampleToken_isToken : IsToken sampleToken := ⟨by decide, by decide, by decide⟩

theorem otherToken_isToken : IsToken otherToken := ⟨by decide, by decide, by decide⟩

/-- The two scripts differ in the token alone. -/
theorem twinScript_alike :
    ∀ m ∈ (twinScript sampleToken).zip (twinScript otherToken), m.1.Alike m.2 := by
  have hsame : ∀ (id : Nat) (op : Op), Move.Alike (.call id op) (.call id op) :=
    fun _ op => .call (.same op)
  have hgo : ∀ (id : Nat) (ch : Choice), Move.Alike (.step id ch) (.step id ch) :=
    fun _ ch => .step (.same ch)
  have hdrawn : ∀ (id : Nat) (session_id : PyStr) (now : ℚ),
      Move.Alike (.step id (.drawn session_id sampleToken now))
        (.step id (.drawn session_id otherToken now)) :=
    fun _ session_id now => .step (.drawn session_id now sampleToken_isToken otherToken_isToken)
  have hinfer : ∀ (id : Nat) (payload : Value),
      Move.Alike (.call id (.infer (payload.presenting sampleToken)))
        (.call id (.infer (payload.presenting otherToken))) :=
    fun _ payload => .call (.infer payload sampleToken_isToken otherToken_isToken)
  unfold twinScript warmUp prepareMoves beginMoves openMoves
  simp only [List.cons_append, List.nil_append, List.zip_cons_cons, List.zip_nil_right,
    List.forall_mem_cons, hsame, hgo, hdrawn, hinfer, true_and]
  exact fun m hm => absurd hm List.not_mem_nil

/-- The token the second run draws is another one. -/
theorem session_token_secret_sample : ∃ ls s, TwinRuns defaultConfig constNumerics ls s ∧
    s.1.grantedToken 2 ≠ s.2.grantedToken 2 ∧ s.1.raised 3 = true ∧
    (s.1.response 4).isSome = true ∧
    (∀ id, s.2.outcome id = s.1.outcome id) ∧ s.2.rt.audit = s.1.rt.audit ∧
      s.2.rt.status = s.1.rt.status := by
  have h : (Sys.replayBoth defaultConfig constNumerics
      (Sys.initial fun _ => none, Sys.initial fun _ => none)
      ((twinScript sampleToken).zip (twinScript otherToken))).map (fun r =>
        decide (r.2.1.grantedToken 2 ≠ r.2.2.grantedToken 2) && r.2.1.raised 3 &&
          (r.2.1.response 4).isSome) = some true := by decide +kernel
  obtain ⟨⟨ls, s⟩, hr, htest⟩ := Option.map_eq_some_iff.mp h
  simp only [Bool.and_eq_true, decide_eq_true_eq] at htest
  obtain ⟨⟨htokens, hwrong⟩, hright⟩ := htest
  have hruns : TwinRuns defaultConfig constNumerics ls s :=
    ⟨_, ⟨⟨_, rfl⟩, ⟨_, rfl⟩, rfl⟩, Sys.replayBoth_path twinScript_alike hr⟩
  exact ⟨ls, s, hruns, htokens, hwrong, hright, session_token_secret hruns⟩

end OvenRuntime
