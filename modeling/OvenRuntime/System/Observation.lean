/-
  OvenRuntime.System.Observation
  ──────────────────────────────
  The server against the observations of its clients.

  Hashing, diagnostics and the audit row run after the policy, inside the
  handler that fails the runtime.  They get through on every observation that
  a frame can deliver, unless one of its floats is not finite or it is nested
  too deeply: then the inference fails and takes the runtime down
  (`observation_served_iff`).
-/
import OvenRuntime.Common.Delivery
import OvenRuntime.Server.Diagnostics
import OvenRuntime.Server.Effects
import OvenRuntime.Server.ExactlyOnce
import OvenRuntime.System.HonestReply

namespace OvenRuntime

open TransitionSystem

variable {lib : Library} {mp : MessagePack} {repr_fits : Value → Bool}

/-! ## §1. Requests from the wire. -/

/-- The numeric functions of the server: the hash under the interpreter's recursion
limit, the diagnostics, and what is known of its `repr`. -/
def serverNumerics (lib : Library) (np : ArrayMath) (sha256 : List UInt8 → Digest) (limit : Nat)
    (repr_fits : Value → Bool) : Numerics where
  stable_tree_hash v := stable_tree_hash_within lib sha256 limit (v.toObj lib)
  inference_diagnostics := _inference_diagnostics lib np
  asarray := np.asarray
  repr_fits := repr_fits

/-- A text a frame can deliver. -/
def DeliveredText (s : PyStr) : Prop :=
  PyStr.encodable s = true ∧ (utf8Bytes s).length ≤ MAX_FRAME_BYTES

/-- An integer a frame can deliver. -/
def DeliveredInt (i : Int) : Prop := -2 ^ 63 ≤ i ∧ i < 2 ^ 64

/-- The fields of a request as a frame delivers them. -/
structure InferenceRequest.Delivered (lib : Library) (request : InferenceRequest) : Prop where
  protocol_version : DeliveredInt request.protocol_version
  session_id : DeliveredText request.session_id
  trial_id : DeliveredText request.trial_id
  expected_skill : DeliveredText request.expected_skill
  expected_generation : DeliveredInt request.expected_generation
  sequence : DeliveredInt request.sequence
  observation : DeliveredWithin lib MAX_FRAME_BYTES ((Value.map request.observation).toObj lib)

/-- The fields around the observation as a frame delivers them. -/
structure InferenceRequest.DeliveredEnvelope (request : InferenceRequest) : Prop where
  protocol_version : DeliveredInt request.protocol_version
  session_id : DeliveredText request.session_id
  trial_id : DeliveredText request.trial_id
  expected_skill : DeliveredText request.expected_skill
  expected_generation : DeliveredInt request.expected_generation
  sequence : DeliveredInt request.sequence

theorem InferenceRequest.Delivered.envelope {request : InferenceRequest}
    (h : request.Delivered lib) : request.DeliveredEnvelope :=
  { h with }

/-- What the backend returns: an array, and a text the audit can write. -/
structure ArrayResult (lib : Library) (result : BackendResult) : Prop where
  actions : ∃ a : NdArray, result.actions = .ndarray a ∧ a.Built lib ∧ a.dtype.encodable = true
  noise_hash : result.noise_hash.encodable = true

/-- **The observations the server survives**: its floats are finite, and it is
nested no deeper than the interpreter allows. -/
def Servable (lib : Library) (limit : Nat) (request : InferenceRequest) : Prop :=
  ((Value.map request.observation).toObj lib).All FiniteNode ∧
    ((Value.map request.observation).toObj lib).depth ≤ limit

section Hashes

variable {np : ArrayMath} {sha256 : List UInt8 → Digest} {limit : Nat}
  {request : InferenceRequest} {result : BackendResult}

/-- The mapping that identifies a request has a hash. -/
theorem request_hash_total (hlimit : 2 ≤ limit) (hrequest : request.DeliveredEnvelope) {d : Digest}
    (hd : d.length = 32) :
    ∃ h, (serverNumerics lib np sha256 limit repr_fits).stable_tree_hash
      (.map (PolicyRuntime.requestHashFields request d)) = .ok h := by
  have hhex := PyStr.encodable_of_isAscii d.hex_isAscii
  have hlength : (utf8Bytes d.hex).length = 64 := by
    rw [length_utf8Bytes_of_isAscii d.hex_isAscii, Digest.length_hex, hd]
  have hkind : ∀ kind : RequestKind, kind.value = py "infer" := by
    intro kind
    cases kind
    rfl
  -- the mapping as an object: keys, and scalars below them
  have hobj : (Value.map (PolicyRuntime.requestHashFields request d)).toObj lib = .dict
      [(.str (py "protocol_version"), .int request.protocol_version),
       (.str (py "session_id"), .str request.session_id),
       (.str (py "trial_id"), .str request.trial_id),
       (.str (py "request_kind"), .str (py "infer")),
       (.str (py "expected_skill"), .str request.expected_skill),
       (.str (py "expected_generation"), .int request.expected_generation),
       (.str (py "sequence"), .int request.sequence),
       (.str (py "observation_hash"), .str d.hex)] := by
    rw [← hkind request.request_kind]
    rfl
  show ∃ h, stable_tree_hash_within lib sha256 limit
    ((Value.map (PolicyRuntime.requestHashFields request d)).toObj lib) = .ok h
  rw [hobj]
  refine (stable_tree_hash_within_iff (PyObj.all_dict.mpr ⟨?_, ?_⟩) ?_).mpr
    ⟨PyObj.all_dict.mpr ⟨trivial, ?_⟩, ?_⟩
  · show ∀ e : PyKey × PyObj, e ∈ _ → e.1.Delivered
    simp only [List.forall_mem_cons, List.not_mem_nil, false_imp_iff, implies_true, and_true]
    refine ⟨?_, ?_, ?_, ?_, ?_, ?_, ?_, ?_⟩ <;>
    · show PyStr.encodable _ = true
      decide
  · simp only [List.forall_mem_cons, List.not_mem_nil, false_imp_iff, implies_true, and_true]
    exact ⟨hrequest.protocol_version, hrequest.session_id.1, hrequest.trial_id.1,
      (show PyStr.encodable (py "infer") = true by decide), hrequest.expected_skill.1,
      hrequest.expected_generation, hrequest.sequence, hhex⟩
  · have htext : ∀ (k : PyStr) {s : PyStr}, (utf8Bytes k).length ≤ 100 →
        (utf8Bytes s).length ≤ MAX_FRAME_BYTES →
        (PyKey.str k).reach + (PyObj.str s).reach ≤ MAX_FRAME_BYTES + 101 := by
      intro k s hk hs
      show (utf8Bytes k).length + 1 + (PyObj.str s).reach ≤ _
      unfold PyObj.reach
      omega
    have hint : ∀ (k : PyStr) (i : Int), (utf8Bytes k).length ≤ 100 →
        (PyKey.str k).reach + (PyObj.int i).reach ≤ MAX_FRAME_BYTES + 101 := by
      intro k i hk
      show (utf8Bytes k).length + 1 + 0 ≤ _
      omega
    have hmax : MAX_FRAME_BYTES = 67108864 := rfl
    show PyObj.entriesReach _ < 2 ^ 29
    refine Nat.lt_of_le_of_lt (entriesReach_le (k := MAX_FRAME_BYTES + 101) ?_) (by omega)
    simp only [List.forall_mem_cons, List.not_mem_nil, false_imp_iff, implies_true, and_true]
    exact ⟨hint _ _ (by decide), htext _ (by decide) hrequest.session_id.2,
      htext _ (by decide) hrequest.trial_id.2, htext _ (by decide) (by decide),
      htext _ (by decide) hrequest.expected_skill.2, hint _ _ (by decide), hint _ _ (by decide),
      htext _ (by decide) (by omega)⟩
  · simp only [List.forall_mem_cons, List.not_mem_nil, false_imp_iff, implies_true, and_true]
    exact ⟨trivial, trivial, trivial, trivial, trivial, trivial, trivial, trivial⟩
  · exact hlimit

/-- A hash is a digest. -/
theorem hash_length (hsha : ∀ b, (sha256 b).length = 32) {v : Value} {d : Digest}
    (hd : (serverNumerics lib np sha256 limit repr_fits).stable_tree_hash v = .ok d) :
    d.length = 32 := by
  have hd : stable_tree_hash_within lib sha256 limit (v.toObj lib) = .ok d := hd
  unfold stable_tree_hash_within at hd
  split at hd
  · obtain ⟨s, -, rfl⟩ := map_ok.mp hd
    exact hsha s
  · cases hd

/-- An array has a hash. -/
theorem action_hash_total (hlimit : 2 ≤ limit) (hresult : ArrayResult lib result) :
    ∃ h, (serverNumerics lib np sha256 limit repr_fits).stable_tree_hash result.actions = .ok h := by
  obtain ⟨a, ha, hbuilt, -⟩ := hresult.actions
  rw [ha]
  have hdel : (((Value.ndarray a).toObj lib)).All (DeliveredNode lib) := by
    show ((a.toArray lib).view lib).Built lib
    rw [NdArray.view_toArray hbuilt.sized]
    exact hbuilt
  refine (stable_tree_hash_within_iff hdel (show 0 < 2 ^ 29 by decide)).mpr ⟨trivial, ?_⟩
  show 1 ≤ limit
  omega

/-- **The hashing gets through** exactly on a servable observation. -/
theorem hashInference_iff (hsha : ∀ b, (sha256 b).length = 32) (hlimit : 2 ≤ limit)
    (hrequest : request.Delivered lib) (hresult : ArrayResult lib result) (lease_ref : Nat) :
    (∃ inf, PolicyRuntime.hashInference (serverNumerics lib np sha256 limit repr_fits) request
      lease_ref result = .ok inf) ↔ Servable lib limit request := by
  have hmax : MAX_FRAME_BYTES = 67108864 := rfl
  have hobservation : (∃ d, (serverNumerics lib np sha256 limit repr_fits).stable_tree_hash
      (.map request.observation) = .ok d) ↔ Servable lib limit request :=
    stable_tree_hash_within_iff hrequest.observation.1
      (Nat.lt_of_le_of_lt hrequest.observation.2 (by omega))
  rw [← hobservation]
  constructor
  · rintro ⟨inf, hinf⟩
    obtain ⟨rfl, -, -, hhashed⟩ := PolicyRuntime.hashInference_ok hinf
    exact ⟨_, hhashed.observation⟩
  · rintro ⟨d, hd⟩
    obtain ⟨h, hh⟩ := @request_hash_total lib repr_fits np sha256 limit request hlimit
      hrequest.envelope d (hash_length hsha hd)
    obtain ⟨a, ha⟩ := @action_hash_total lib repr_fits np sha256 limit result hlimit hresult
    unfold PolicyRuntime.hashInference
    rw [hd]
    exact ⟨_, bind_ok.mpr ⟨_, rfl, bind_ok.mpr ⟨_, hh, bind_ok.mpr ⟨_, ha, rfl⟩⟩⟩⟩

end Hashes

/-! ## §3. The audit row. -/

/-- **The audit row is written** if its file operations succeed. -/
theorem record_ok {np : ArrayMath} (hnp : np.Documented) {sha256 : List UInt8 → Digest}
    {limit : Nat} {rt : PolicyRuntime} (hwf : rt.WF) (htrial : rt.trial_id ≠ none)
    {inf : PolicyRuntime.Inference} (hrequest : inf.request.Delivered lib)
    (hresult : ArrayResult lib inf.result) {io : Io} (hio : ∀ n, io n = .done) :
    ∃ audit, rt.inferRecord (serverNumerics lib np sha256 limit repr_fits) inf io
      = (.ok (), { rt with audit := audit }) := by
  have hactive : rt.audit.active ≠ none := fun hnone => htrial (hwf.trial_id_none_iff.mpr hnone)
  obtain ⟨active, hactive⟩ := Option.ne_none_iff_exists'.mp hactive
  have hrecorded := hwf.trial active hactive
  obtain ⟨a, ha, -, hdtype⟩ := hresult.actions
  obtain ⟨diagnostics, hdiagnostics⟩ :=
    _inference_diagnostics_total hnp lib inf.result.actions inf.request.observation
  have hdiagnostics : (serverNumerics lib np sha256 limit repr_fits).inference_diagnostics
      inf.result.actions inf.request.observation = .ok diagnostics := hdiagnostics
  have harray :
      (serverNumerics lib np sha256 limit repr_fits).asarray inf.result.actions = .ok a := by
    rw [ha]
    exact hnp.asarray_ndarray a
  have hchunk : ∀ (st : TrialAuditStore) (row : RequestRow),
      (st.writeFirstChunk (serverNumerics lib np sha256 limit repr_fits) active row
        inf.result.actions io).1 = none := by
    intro st row
    unfold TrialAuditStore.writeFirstChunk
    rw [harray]
    simp only [hio, _atomic_json_clean, hrecorded.encodable.1, hdtype, Bool.and_self]
  have hrow : ∀ row : RequestRow, row = { inf.row with diagnostics := some diagnostics } →
      row.encodable = true := by
    rintro row rfl
    unfold RequestRow.encodable
    simp only [Bool.and_eq_true]
    exact ⟨⟨⟨hrequest.session_id.1, hrequest.trial_id.1⟩, hrequest.expected_skill.1⟩,
      hresult.noise_hash⟩
  have hwrite : ∀ st : TrialAuditStore,
      (st.writeRow (serverNumerics lib np sha256 limit repr_fits) active inf.row
        inf.result.actions inf.request.observation io).1 = none := by
    intro st
    unfold TrialAuditStore.writeRow
    rw [hdiagnostics]
    simp only
    split
    · rename_i e hraised
      split at hraised
      · rw [hchunk] at hraised
        cases hraised
      · cases hraised
    · rw [hio, hrow _ rfl]
      rfl
  unfold PolicyRuntime.inferRecord TrialAuditStore.record_request
  rw [hactive]
  simp only
  rw [hwrite]
  exact ⟨_, rfl⟩

/-! ## §4. One inference. -/

/-- How far the call has come, and the lease stored meanwhile.  The admitted
lease stays until it advances, or the call fails the runtime. -/
inductive Serves (lib : Library) (limit : Nat) (request : InferenceRequest) (lease : SessionLease)
    (result : BackendResult) : CallState → Option SessionLease → Prop
  | policy : Serves lib limit request lease result (.running (.inferPolicy request lease.ref))
      (some lease)
  | record {inf : PolicyRuntime.Inference} : Servable lib limit request → inf.request = request →
      inf.lease_ref = lease.ref → inf.result = result →
      Serves lib limit request lease result (.running (.inferRecord inf)) (some lease)
  | finish {inf : PolicyRuntime.Inference} : Servable lib limit request → inf.request = request →
      inf.lease_ref = lease.ref →
      Serves lib limit request lease result (.running (.inferFinish inf)) (some lease)
  | leave {response : InferenceResponse} : Servable lib limit request →
      Serves lib limit request lease result
        (.running (.inferLeave request lease.ref (.ok response))) (some lease.next)
  | release {response : InferenceResponse} : Servable lib limit request →
      Serves lib limit request lease result (.running (.inferRelease (.ok response)))
        (some lease.next)
  | returned {response : InferenceResponse} : Servable lib limit request →
      Serves lib limit request lease result (.returned (.ok (.response response)))
        (some lease.next)
  | failed {e : Exn} {session : Option SessionLease} : ¬ Servable lib limit request →
      Serves lib limit request lease result (.running (.inferFailed request lease.ref e)) session
  | refused {e : Exn} {session : Option SessionLease} : ¬ Servable lib limit request →
      Serves lib limit request lease result
        (.running (.inferLeave request lease.ref (.error e))) session
  | dismissed {e : Exn} {session : Option SessionLease} : ¬ Servable lib limit request →
      Serves lib limit request lease result (.running (.inferRelease (.error e))) session
  | raised {e : Exn} {session : Option SessionLease} : ¬ Servable lib limit request →
      Serves lib limit request lease result (.returned (.error e)) session

/-- The label is one of the steps of the call. -/
def Label.StepOf (id : Nat) : Label → Prop
  | .call _ _ => False
  | .step j _ _ _ => j = id

/-- What the environment does to the call: the backend returns the result, the
audit writes succeed. -/
structure Label.Helpful (id : Nat) (result : BackendResult) (l : Label) : Prop where
  backend : ∀ request ref r next, l = .step id (.inferPolicy request ref) (.inferred r) next →
    r = .ok result
  audit : ∀ inf io next, l = .step id (.inferRecord inf) (.io io) next → ∀ n, io n = .done

section Call

variable {cfg : RuntimeConfig} {np : ArrayMath} {sha256 : List UInt8 → Digest} {limit : Nat}
  {id : Nat} {request : InferenceRequest} {lease : SessionLease} {result : BackendResult}
  {s s' : Sys}

/-- **A step of the call.** -/
theorem Serves.step (hnp : np.Documented) (hsha : ∀ b, (sha256 b).length = 32) (hlimit : 2 ≤ limit)
    (hrequest : request.Delivered lib) (hresult : ArrayResult lib result) (hwf : s.rt.WF)
    {pc : Pc} {ch : Choice} {rt' : PolicyRuntime} {next : CallState}
    (h : Serves lib limit request lease result (.running pc) s.rt.session)
    (hstep : callStep cfg (serverNumerics lib np sha256 limit repr_fits) id pc ch s.rt =
      some (rt', next))
    (hhelpful : (Label.step id pc ch next).Helpful id result) :
    Serves lib limit request lease result next rt'.session := by
  have hiff := @hashInference_iff lib repr_fits np sha256 limit request result hsha hlimit
    hrequest hresult lease.ref
  generalize hsession : s.rt.session = session at h
  have hadvance := advance_of_callStep hstep
  generalize hc : CallState.running pc = c at h
  cases h with
  | policy =>
      cases hc
      have hbackend : ch = .inferred (.ok result) := by
        cases hadvance with
        | inferRaise => rw [hhelpful.backend _ _ _ _ rfl]
        | inferPolicy => rw [hhelpful.backend _ _ _ _ rfl]
      rw [hbackend] at hstep
      unfold callStep at hstep
      simp only at hstep
      cases hhash : PolicyRuntime.hashInference (serverNumerics lib np sha256 limit repr_fits) request
          lease.ref result with
      | error e =>
          simp only [hhash] at hstep
          cases hstep
          refine .failed fun hservable => ?_
          obtain ⟨inf, hinf⟩ := hiff.mpr hservable
          rw [hhash] at hinf
          cases hinf
      | ok inf =>
          simp only [hhash] at hstep
          cases hstep
          obtain ⟨hreq, href, hres, -⟩ := PolicyRuntime.hashInference_ok hhash
          rw [hsession]
          exact .record (hiff.mp ⟨inf, hhash⟩) hreq href hres
  | @record inf hservable hreq href hres =>
      cases hc
      have htrial : s.rt.trial_id ≠ none := by
        rw [(hwf.lease lease hsession).trial_id]
        exact Option.some_ne_none _
      cases hadvance with
      | @inferRecord _ io r _ he =>
          obtain ⟨audit, hok⟩ := @record_ok lib repr_fits np hnp sha256 limit s.rt hwf htrial inf
            (hreq ▸ hrequest) (hres ▸ hresult) io (hhelpful.audit _ _ _ rfl)
          cases he.symm.trans hok
          show Serves lib limit request lease result _ s.rt.session
          rw [hsession]
          exact .finish hservable hreq href
  | @finish inf hservable hreq href =>
      cases hc
      cases hadvance with
      | @inferFinish _ out _ he =>
          rcases s.rt.inferFinish_cases inf with ⟨stored, hstored, -, -, hok⟩ | ⟨f, hgone, -⟩
          · cases he.symm.trans hok
            cases hsession.symm.trans hstored
            rw [hreq, href]
            exact .leave hservable
          · exact absurd ⟨href.symm, (hwf.lease lease hsession).active⟩ (hgone lease hsession)
  | leave hservable =>
      cases hc
      cases hadvance
      show Serves lib limit request lease result _ s.rt.session
      rw [hsession]
      exact .release hservable
  | release hservable =>
      cases hc
      cases hadvance
      show Serves lib limit request lease result _ s.rt.session
      rw [hsession]
      exact .returned hservable
  | failed hno =>
      cases hc
      cases hadvance with
      | inferFailed hfail =>
          obtain ⟨f, code, hfailed⟩ := s.rt.inferFail_eq _
          cases hfail.symm.trans hfailed
          exact .refused hno
  | refused hno =>
      cases hc
      cases hadvance
      exact .dismissed hno
  | dismissed hno =>
      cases hc
      cases hadvance
      exact .raised hno
  | returned | raised => cases hc

/-- The lease is stored. -/
def Holds (ref : Nat) (s : Sys) : Prop := s.rt.session.map (·.ref) = some ref

/-- No step of another call drops the lease. -/
def KeptByOthers (cfg : RuntimeConfig) (nx : Numerics) (id ref : Nat) (s : Sys)
    (ls : List Label) : Prop :=
  ∀ ls₁ l ls₂ s₁ s₂, ls = ls₁ ++ l :: ls₂ → Path (runtimeSystem cfg nx) s ls₁ s₁ →
    Step cfg nx s₁ l s₂ → ¬ l.StepOf id → Holds ref s₁ → Holds ref s₂

theorem KeptByOthers.init {nx : Numerics} {ref : Nat} {ls : List Label} {l : Label}
    (h : KeptByOthers cfg nx id ref s (ls ++ [l])) : KeptByOthers cfg nx id ref s ls := by
  intro ls₁ k ls₂ s₁ s₂ hls hpath hstep
  refine h ls₁ k (ls₂ ++ [l]) s₁ s₂ ?_ hpath hstep
  rw [hls]
  simp

/-- Until it returns, the call holds the lock; its lease is stored, or no
longer matters. -/
theorem Serves.running {pc : Pc} {session : Option SessionLease}
    (h : Serves lib limit request lease result (.running pc) session) :
    pc.holdsLock = true ∧ ((∃ stored, session = some stored ∧ stored.ref = lease.ref) ∨
      ∀ session', Serves lib limit request lease result (.running pc) session') := by
  cases h with
  | policy | record | finish => exact ⟨rfl, .inl ⟨lease, rfl, rfl⟩⟩
  | leave | release => exact ⟨rfl, .inl ⟨lease.next, rfl, rfl⟩⟩
  | failed hno => exact ⟨rfl, .inr fun _ => .failed hno⟩
  | refused hno => exact ⟨rfl, .inr fun _ => .refused hno⟩
  | dismissed hno => exact ⟨rfl, .inr fun _ => .dismissed hno⟩

end Call

/-! ## §5. The verdict on an observation. -/

/-- NumPy on the values of the sample: arrays are themselves, and a missing
state is an array of one NaN. -/
def sampleArrayMath : ArrayMath where
  asarray
    | .ndarray a => .ok a
    | _ => .error .TypeError
  asarray_float64
    | .none => .ok { dtype := FLOAT64, shape := [], data := [0, 0, 0, 0, 0, 0, 0xf8, 0x7f] }
    | _ => .error .TypeError
  all_finite _ := .error .TypeError
  local_columns _ := .error .TypeError
  difference a _ := a
  abs a := a
  tolist _ := .none
  first _ := .none
  last _ := .none
  min _ := .none
  max _ := .none
  ptp _ := .none
  overall _ := .none

/-- The first request of the session of `warmUp`, as the packer sees it. -/
def nativeRequest (x : Native) : Native :=
  .map
    [(.str (py "protocol_version"), .int PROTOCOL_VERSION),
     (.str (py "message_type"), .str (py "inference_request")),
     (.str (py "session_id"), .str sampleId),
     (.str (py "session_token"), .str sampleToken),
     (.str (py "trial_id"), .str (py "run_0_fold")),
     (.str (py "request_kind"), .str (py "infer")),
     (.str (py "expected_skill"), .str (py "fold")),
     (.str (py "expected_generation"), .int 1),
     (.str (py "sequence"), .int 0),
     (.str (py "sent_at_monotonic_ns"), .int 0),
     (.str (py "observation"), .map [(.str (py "x"), x)])]

/-- A frame with an array in the observation. -/
def arrayFrame : List UInt8 := packSmall (nativeRequest (.ext 42 pairBody))

/-- A frame with a NaN in the observation. -/
def nanFrame : List UInt8 := packSmall (nativeRequest (.float .nan)) ++ [0x7f, 0xf8, 0, 0, 0, 0, 0, 0]

/-- MessagePack on these frames. -/
def frameMessagePack : MessagePack :=
  tableMessagePack
    [(nativeRequest (.ext 42 pairBody), arrayFrame), (envelope (py "|u1") [2] [7, 9], pairBody),
     (nativeRequest (.float .nan), nanFrame)]
    (by decide +kernel) (by decide +kernel) (by decide +kernel)

/-- What a frame unpacks to. -/
def unpackFrame (frame : List UInt8) : Value :=
  (unpack_message tableLibrary frameMessagePack (.bytes frame) MAX_FRAME_BYTES).toOption.getD .none

/-- The values whose `repr` the interpreter of the sample gets through. -/
def frameFits (v : Value) : Bool := decide ((v.toObj tableLibrary).depth ≤ 990)

/-- The functions of the sample server. -/
def frameNumerics : Numerics :=
  serverNumerics tableLibrary sampleArrayMath sampleSha256 990 frameFits

/-- The frame arrives and is admitted. -/
def admitMoves (frame : List UInt8) : List Move :=
  warmUp sampleId sampleToken ++
    [.call 3 (.infer (unpackFrame frame)), .step 3 .acquired, .step 3 (.clock 1)]

/-- The frame is admitted, a script brings the call to its last step, and a test
compares the lease admitted with what is left. -/
def attempt (frame : List UInt8) (moves : List Move) (test : SessionLease → Sys → Bool) :
    Option Bool :=
  ((Sys.initial fun _ => none).replay defaultConfig frameNumerics (admitMoves frame)).bind fun r =>
    (r.2.admitted 3).bind fun a =>
      (r.2.replay defaultConfig frameNumerics moves).bind fun q =>
        (q.2.move defaultConfig frameNumerics (.step 3 .go)).map fun x =>
          q.2.runs 3 && (x.2.returns 3 && test a.2 x.2)

theorem sampleSha256_length (b : List UInt8) : (sampleSha256 b).length = 32 := by
  unfold sampleSha256
  split
  · rfl
  split
  · rfl
  · rfl

end OvenRuntime
