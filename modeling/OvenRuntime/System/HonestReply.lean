/-
  OvenRuntime.System.HonestReply
  ──────────────────────────────
  One inference from the client through the wire to the runtime and back.  The
  client hashes the objects it holds, the runtime the values it decoded; the
  trees are the same, so an honest reply passes the client's checks
  (`honest_reply_accepted`).
-/
import OvenRuntime.Common.HashWire
import OvenRuntime.Common.ProtocolRules
import OvenRuntime.Edge.InferenceClient
import OvenRuntime.Server.Origin

namespace OvenRuntime

variable {lib : Library} {mp : MessagePack} {sha256 : List UInt8 → Digest}
  {repr_fits : Value → Bool}

/-! ## §1. The request at the client. -/

/-- For an object the decoder may deliver, the parser sees its value. -/
theorem outline_of_toValue {v : PyObj} {w : Value} (hv : v.toValue lib = some w)
    (hallow : v.All (DecoderAllows lib)) : v.outline lib = w := by
  cases v with
  | generic d b =>
      have hkind : lib.kind d ∈ SAFE_KINDS := hallow
      have hstr : lib.kind d ≠ KIND_STR := by
        intro h
        rw [h] at hkind
        exact absurd hkind (by decide)
      have hbytes : lib.kind d ≠ KIND_BYTES := by
        intro h
        rw [h] at hkind
        exact absurd hkind (by decide)
      simp only [PyObj.outline]
      rw [if_neg hstr, if_neg hbytes]
      exact Option.some_inj.mp hv
  | _ =>
      simp only [PyObj.outline]
      rw [hv]
      rfl

/-- The fields of a payload and of its value, one by one. -/
theorem Payload.toValue_iff {payload : Payload} {w : Value} :
    payload.object.toValue lib = some w ↔
      ∃ ws, List.Forall₂ (fun e x => Key.str e.1 = x.1 ∧ e.2.toValue lib = some x.2) payload ws ∧
        .map ws = w := by
  show (PyObj.entriesToValue lib _).map Value.map = some w ↔ _
  simp only [Option.map_eq_some_iff, PyObj.entriesToValue_iff, List.forall₂_map_left_iff,
    PyKey.toKey, Option.some_inj]

/-- **The client parses the value of its payload.** -/
theorem Payload.outline_eq {payload : Payload} {w : Value}
    (hv : payload.object.toValue lib = some w) (hallow : payload.object.All (DecoderAllows lib)) :
    Value.map (payload.map fun e => (.str e.1, e.2.outline lib)) = w := by
  obtain ⟨ws, hws, hw⟩ := Payload.toValue_iff.mp hv
  unfold Payload.object at hallow
  rw [PyObj.all_dict] at hallow
  rw [← hw]
  apply congrArg Value.map
  have hitems : ∀ e ∈ payload, e.2.All (DecoderAllows lib) := by
    intro e he
    exact hallow.2 (.str e.1, e.2) (List.mem_map_of_mem (f := fun e => (PyKey.str e.1, e.2)) he)
  clear hv hallow hw
  induction hws with
  | nil => rfl
  | @cons e x es xs hex _ ih =>
      rw [List.forall_mem_cons] at hitems
      rw [List.map_cons, ih hitems.2, outline_of_toValue hex.2 hitems.1, hex.1]

/-- What a key leads to in the value is the value of what it leads to in the
payload. -/
theorem lookup_payload {payload : Payload} {ws : Dict} {name : PyStr} {y : Value}
    (h : List.Forall₂ (fun e x => Key.str e.1 = x.1 ∧ e.2.toValue lib = some x.2) payload ws)
    (hy : ws.lookup (.str name) = some y) :
    ∃ o, (name, o) ∈ payload ∧ payload.lookup name = some o ∧ o.toValue lib = some y := by
  induction h with
  | nil => exact absurd hy (by simp)
  | @cons e x es xs hex _ ih =>
      rw [List.lookup_cons] at hy ⊢
      by_cases hname : name = e.1
      · have hkey : (Key.str name == x.1) = true := by
          rw [← hex.1, hname]
          exact beq_self_eq_true _
        rw [hkey] at hy
        rw [hname, beq_self_eq_true]
        refine ⟨e.2, List.mem_cons_self .., rfl, ?_⟩
        rw [← Option.some_inj.mp hy]
        exact hex.2
      · have hkey : (Key.str name == x.1) = false := by
          rw [← hex.1, beq_eq_false_iff_ne]
          intro heq
          exact hname (Key.str.inj heq)
        rw [hkey] at hy
        obtain ⟨o, hmem, hlookup, hvalue⟩ := ih hy
        rw [beq_eq_false_iff_ne.mpr hname]
        exact ⟨o, List.mem_cons_of_mem _ hmem, hlookup, hvalue⟩

/-- A parsed request refers to the observation of its payload. -/
theorem InferenceRequest.parse_observation {entries : Dict} {request : InferenceRequest}
    (h : InferenceRequest.parse repr_fits (.map entries) = .ok request) :
    entries.lookup (.str (py "observation")) = some (.map request.observation) := by
  unfold InferenceRequest.parse at h
  obtain ⟨_, -, h⟩ := bind_ok.mp h
  obtain ⟨version, -, h⟩ := bind_ok.mp h
  unfold parseRequestFields at h
  simp only [guard_ok, bind_ok] at h
  obtain ⟨_, -, -, _, -, -, _, -, -, kind, -, _, -, _, -, _, -, _, -, _, -, v, hv, h⟩ := h
  split at h
  · rw [← Except.ok.inj h]
    unfold Dict.getItem at hv
    split at hv
    · next hget =>
        rw [Except.ok.inj hv] at hget
        exact hget
    · exact absurd hv (by simp)
  · cases h

/-! ## §2. The hashes on both sides. -/

/-- The numeric functions of a runtime that hashes with `stable_tree_hash`. -/
def Numerics.hashing (nx : Numerics) (lib : Library) (sha256 : List UInt8 → Digest) : Numerics :=
  { nx with stable_tree_hash := fun v => OvenRuntime.stable_tree_hash lib sha256 (v.toObj lib) }

theorem stable_tree_hash_congr {v w : PyObj} (h : v.tree lib = w.tree lib) :
    stable_tree_hash lib sha256 v = stable_tree_hash lib sha256 w := by
  unfold stable_tree_hash
  rw [hashStream_congr lib h]

theorem PlainNode.notFloat64 {v : PyObj} (h : PlainNode lib v) : NotFloat64 v := by
  cases v with
  | generic d b => exact absurd h (by simp [PlainNode])
  | _ => trivial

/-- **The object the client holds and the value the runtime decoded have one
hash.** -/
theorem hash_of_toValue {v : PyObj} {w : Value} (hv : v.toValue lib = some w)
    (hplain : v.All (PlainNode lib)) :
    stable_tree_hash lib sha256 (w.toObj lib) = stable_tree_hash lib sha256 v :=
  stable_tree_hash_congr (tree_of_toValue hv (hplain.imp fun _ h => h.allowed)
    (hplain.imp fun _ h => h.notFloat64))

/-! ## §3. The reply. -/

/-- The dict of `to_dict`, with the array of the backend in it. -/
def InferenceResponse.object (r : InferenceResponse) (actions : StridedArray) : PyObj :=
  .dict [(.str (py "protocol_version"), .int PROTOCOL_VERSION),
    (.str (py "message_type"), .str (py "inference_response")),
    (.str (py "session_id"), .str r.session_id),
    (.str (py "trial_id"), .str r.trial_id),
    (.str (py "skill"), .str r.skill),
    (.str (py "generation"), .int r.generation),
    (.str (py "sequence"), .int r.sequence),
    (.str (py "publishable"), .bool r.publishable),
    (.str (py "request_hash"), .str r.request_hash.hex),
    (.str (py "observation_hash"), .str r.observation_hash.hex),
    (.str (py "noise_hash"), .str r.noise_hash),
    (.str (py "action_hash"), .str r.action_hash.hex),
    (.str (py "actions"), .ndarray actions)]

theorem InferenceResponse.object_toValue {r : InferenceResponse} {actions : StridedArray}
    (h : r.actions = .ndarray (actions.view lib)) :
    (r.object actions).toValue lib = some (.map r.to_dict) := by
  unfold InferenceResponse.to_dict
  rw [h]
  rfl

theorem InferenceResponse.object_plain (r : InferenceResponse) {actions : StridedArray}
    (hactions : PlainNode lib (.ndarray actions)) : (r.object actions).All (PlainNode lib) := by
  unfold InferenceResponse.object
  rw [PyObj.all_dict]
  have hkeys : (REQUIRED_RESPONSE_FIELDS.map PyKey.str).Nodup := by decide
  refine ⟨⟨by simp, hkeys⟩, ?_⟩
  simp only [List.forall_mem_cons, List.not_mem_nil, false_imp_iff, implies_true, and_true]
  exact ⟨trivial, trivial, trivial, trivial, trivial, trivial, trivial, trivial, trivial, trivial,
    trivial, trivial, hactions⟩

/-- A packed reply is unpacked to the response. -/
theorem InferenceResponse.unpack {r : InferenceResponse} {actions : StridedArray}
    {max_bytes : Int} {reply : List UInt8} (h : r.actions = .ndarray (actions.view lib))
    (hactions : PlainNode lib (.ndarray actions))
    (hpack : pack_message lib mp (r.object actions) max_bytes = .ok reply) :
    unpack_message lib mp (.bytes reply) MAX_FRAME_BYTES = .ok (.map r.to_dict) := by
  have hplain := r.object_plain hactions
  obtain ⟨-, hmax, -, n, hn, hreply⟩ := pack_message_ok hpack
  have hweight := mp.weight_le _ _ hreply
  obtain ⟨w, hw⟩ := decode_complete (hplain.imp fun _ h => h.allowed)
    (hplain.imp fun _ h => h.zeroSize) hn (by omega)
  have hvalue := (decode_sound (hplain.imp fun _ h => h.distinct) hn hw).1
  rw [InferenceResponse.object_toValue h] at hvalue
  rw [unpack_iff hreply (by decide) (by omega), hw, ← Option.some_inj.mp hvalue]

/-! ## §4. A sample exchange. -/

mutual

/-- MessagePack for short values: integers below 128, no floats, strings and
bytes below 256, mappings and lists below sixteen. -/
def packSmall : Native → List UInt8
  | .nil => [0xc0]
  | .bool b => [if b then 0xc3 else 0xc2]
  | .int i => [UInt8.ofNat i.toNat]
  | .float _ => [0xcb]
  | .str s =>
      let text := utf8Bytes s
      (if text.length < 32 then [0xa0 + UInt8.ofNat text.length]
        else [0xd9, UInt8.ofNat text.length]) ++ text
  | .bin b => [0xc4, UInt8.ofNat b.length] ++ b
  | .array items => (0x90 + UInt8.ofNat items.length) :: packItems items
  | .map entries => (0x80 + UInt8.ofNat entries.length) :: packEntries entries
  | .ext code body => [0xc7, UInt8.ofNat body.length, UInt8.ofNat code] ++ body

def packItems : List Native → List UInt8
  | [] => []
  | n :: ns => packSmall n ++ packItems ns

def packEntries : List (Native × Native) → List UInt8
  | [] => []
  | e :: es => packEntry e ++ packEntries es

def packEntry : Native × Native → List UInt8
  | (k, v) => packSmall k ++ packSmall v

end

/-- The first request of the session of `warmUp`, with an array that is not
contiguous in the observation. -/
def stridedPayload : Payload :=
  [(py "protocol_version", .int PROTOCOL_VERSION),
   (py "message_type", .str (py "inference_request")),
   (py "session_id", .str sampleId),
   (py "session_token", .str sampleToken),
   (py "trial_id", .str (py "run_0_fold")),
   (py "request_kind", .str (py "infer")),
   (py "expected_skill", .str (py "fold")),
   (py "expected_generation", .int 1),
   (py "sequence", .int 0),
   (py "sent_at_monotonic_ns", .int 0),
   (py "observation", .dict [(.str (py "x"), .ndarray stridedPair)])]

/-- The value the runtime receives. -/
def stridedValue : Value := (stridedPayload.object.toValue tableLibrary).getD .none

/-- SHA-256 of the observation, of the request and of the actions, which are 79,
482 and 54 bytes long. -/
def sampleSha256 (b : List UInt8) : Digest :=
  if b.length = 79 then
    [159, 88, 155, 248, 108, 151, 45, 222, 170, 242, 253, 49, 20, 39, 21, 162,
     193, 127, 15, 158, 139, 111, 73, 101, 137, 111, 139, 116, 0, 23, 27, 84]
  else if b.length = 482 then
    [32, 21, 239, 206, 155, 160, 178, 209, 194, 220, 105, 24, 236, 106, 104, 43,
     126, 249, 229, 234, 178, 137, 165, 106, 172, 10, 139, 219, 47, 136, 41, 116]
  else
    [108, 137, 175, 45, 134, 0, 213, 95, 135, 155, 171, 98, 65, 210, 15, 15,
     65, 148, 240, 140, 215, 108, 233, 16, 211, 213, 188, 187, 49, 69, 193, 235]

/-- The numeric functions of the sample. -/
def sampleNumerics : Numerics := constNumerics.hashing tableLibrary sampleSha256

/-- Its one inference: the policy answers with an array that is not
contiguous. -/
def stridedMoves : List Move :=
  warmUp sampleId sampleToken ++
    [.call 3 (.infer stridedValue), .step 3 .acquired, .step 3 (.clock 1),
     .step 3 (.inferred (.ok
       { actions := .ndarray (stridedPair.view tableLibrary)
         noise_hash := Digest.hex (List.replicate 32 0) })),
     .step 3 (.io Io.clean), .step 3 .go, .step 3 .go, .step 3 .go]

/-- Its response. -/
def stridedResponse : Option InferenceResponse :=
  ((Sys.initial fun _ => none).replay defaultConfig sampleNumerics stridedMoves).bind fun r =>
    r.2.response 3

/-- Its request and its reply, as the packer sees them. -/
def strideds : List Native :=
  [((stridedPayload.object.toNative tableLibrary sampleMessagePack).toOption.getD .nil),
   ((stridedResponse.bind fun r =>
      ((r.object stridedPair).toNative tableLibrary sampleMessagePack).toOption).getD .nil),
   envelope (py "|u1") [2] [7, 9]]

/-- MessagePack on these values. -/
def stridedMessagePack : MessagePack :=
  tableMessagePack (strideds.map fun n => (n, packSmall n)) (by decide +kernel)
    (by decide +kernel) (by decide +kernel)

/-! ## §5. Acceptance. -/

/-- The client's request after the wire is the one the runtime parsed, and the
two observations are one. -/
theorem request_across_wire {payload : Payload} {frame : List UInt8} {w : Value} {max_bytes : Int}
    {request : InferenceRequest} (hdistinct : payload.object.All DistinctKeys)
    (hframe : pack_message lib mp payload.object MAX_FRAME_BYTES = .ok frame)
    (hw : unpack_message lib mp (.bytes frame) max_bytes = .ok w)
    {client_fits : Value → Bool} (hparse : InferenceRequest.parse repr_fits w = .ok request) :
    ∃ observation, (py "observation", observation) ∈ payload ∧
      observation.toValue lib = some (.map request.observation) ∧
      InferenceClient.parse lib client_fits payload = .ok ⟨request, observation⟩ := by
  obtain ⟨-, -, -, n, hn, hpacked⟩ := pack_message_ok hframe
  obtain ⟨hlimit, hsize⟩ := unpack_limit hw
  have hdecode := (unpack_iff hpacked hlimit hsize w).mp hw
  obtain ⟨hvalue, hallow⟩ := decode_sound hdistinct hn hdecode
  obtain ⟨ws, hws, heq⟩ := Payload.toValue_iff.mp hvalue
  have hclient := InferenceRequest.parse_ok hparse client_fits
  rw [← heq] at hparse
  obtain ⟨o, hmem, hlookup, ho⟩ := lookup_payload hws (InferenceRequest.parse_observation hparse)
  refine ⟨o, hmem, ho, ?_⟩
  unfold InferenceClient.parse
  rw [Payload.outline_eq hvalue hallow, hclient, hlookup]
  rfl

/-- **The client accepts every honest reply.**  A payload crosses the wire, a
call of `infer` on what arrives returns a response made from an array of the
backend, and the response crosses the wire back.  Then the client's own parsed
request and the response that arrives pass `validate_inference_response`, and
the actions it returns are the array of the backend. -/
theorem honest_reply_accepted {cfg : RuntimeConfig} {nx : Numerics}
    {array_ne : NdArray → Value → Except Exn Bool} (hsha : ∀ b, (sha256 b).length = 32)
    {payload : Payload} (hdistinct : payload.object.All DistinctKeys)
    (hobservation : ∀ v, (py "observation", v) ∈ payload → v.All (PlainNode lib))
    {frame : List UInt8} (hframe : pack_message lib mp payload.object MAX_FRAME_BYTES = .ok frame)
    {w : Value} {max_bytes : Int}
    (hw : unpack_message lib mp (.bytes frame) max_bytes = .ok w)
    {ls : List Label} {s : Sys} (hrun : RuntimeRun cfg (nx.hashing lib sha256) ls s)
    {id : Nat} (hsent : sentPayload ls id = some w)
    {result : BackendResult} (hresult : backendResult ls id = some result)
    {actions : StridedArray} (hactions : result.actions = .ndarray (actions.view lib))
    (hplain : PlainNode lib (.ndarray actions)) (hnoise : result.noise_hash.length = 64)
    {r : InferenceResponse} (hreturn : s.calls id = some (.returned (.ok (.response r))))
    {reply : List UInt8}
    (hreply : pack_message lib mp (r.object actions) max_bytes = .ok reply) :
    ∃ request response accepted, InferenceClient.parse lib repr_fits payload = .ok request ∧
      unpack_message lib mp (.bytes reply) MAX_FRAME_BYTES = .ok response ∧
      validate_inference_response lib repr_fits array_ne sha256 request response = .ok accepted ∧
      Dict.get? accepted "actions" = some (.ndarray (actions.view lib)) := by
  have hanswered : s.answered id = some r := by
    unfold Sys.answered
    rw [hreturn]
    rfl
  obtain ⟨inf, hinf, horigin⟩ := (RuntimeRun.originInv hrun).answered id r hanswered
  -- the runtime's request is the client's
  obtain ⟨w', hsent', hparse⟩ := horigin.parsed
  rw [hsent] at hsent'
  rw [← Option.some_inj.mp hsent'] at hparse
  obtain ⟨observation, hmem, hvalue, hclient⟩ :=
    request_across_wire hdistinct hframe hw hparse
  -- the result the policy came to is the backend's
  have hsame : inf.result = result := by
    have h := horigin.result
    rw [hresult] at h
    exact (Option.some_inj.mp h).symm
  have hracts : r.actions = .ndarray (actions.view lib) := by
    rw [← hinf, ← hactions, ← hsame]
    rfl
  have hverified : Verified lib sha256 ⟨inf.request, observation⟩ r := by
    rw [← hinf]
    refine ⟨rfl, rfl, rfl, rfl, rfl, rfl, ?_, horigin.hashed.request, horigin.hashed.action⟩
    show stable_tree_hash lib sha256 observation = _
    rw [← hash_of_toValue hvalue (hobservation _ hmem)]
    exact horigin.hashed.observation
  have hnoise' : r.noise_hash.length = 64 := by
    rw [← hinf, ← hnoise, ← hsame]
    rfl
  refine ⟨_, _, _, hclient, InferenceResponse.unpack hracts hplain hreply,
    validate_accepts hsha hverified hnoise', ?_⟩
  apply Dict.get?_of_mem r.to_dict_nodup
  rw [← hracts]
  simp [InferenceResponse.to_dict]

/-- The array holds these elements. -/
def Value.isArray (a : NdArray) : Value → Bool
  | .ndarray b => decide (b = a)
  | _ => false

theorem Value.eq_of_isArray {v : Value} {a : NdArray} (h : v.isArray a = true) : v = .ndarray a := by
  unfold Value.isArray at h
  split at h
  · rw [of_decide_eq_true h]
  · exact absurd h (by simp)

/-- An exchange with strided arrays in the observation and in the actions. -/
theorem honest_reply_accepted_strided :
    ∃ r reply request response accepted,
      stridedResponse = some r ∧
      pack_message tableLibrary stridedMessagePack (r.object stridedPair) MAX_FRAME_BYTES = .ok reply ∧
      InferenceClient.parse tableLibrary (fun _ => true) stridedPayload = .ok request ∧
      unpack_message tableLibrary stridedMessagePack (.bytes reply) MAX_FRAME_BYTES
        = .ok response ∧
      validate_inference_response tableLibrary (fun _ => true) (fun _ _ => .ok true) sampleSha256
        request response = .ok accepted ∧
      Dict.get? accepted "actions" = some (.ndarray (stridedPair.view tableLibrary)) := by
  have htest : ((Sys.initial fun _ => none).replay defaultConfig sampleNumerics stridedMoves).map
      (fun q => (q.2.response 3).any (fun r => (pack_message tableLibrary stridedMessagePack
          (r.object stridedPair) MAX_FRAME_BYTES).isOk) &&
        (backendResult q.1 3).any fun x => x.actions.isArray (stridedPair.view tableLibrary) &&
          decide (x.noise_hash.length = 64)) = some true := by
    decide +kernel
  obtain ⟨⟨ls, s⟩, hreplay, htest⟩ := Option.map_eq_some_iff.mp htest
  rw [Bool.and_eq_true, Option.any_eq_true, Option.any_eq_true] at htest
  obtain ⟨⟨r, hr, hpacks⟩, result, hresult, harray⟩ := htest
  rw [Bool.and_eq_true, decide_eq_true_eq] at harray
  obtain ⟨reply, hreply⟩ := exists_of_isOk hpacks
  -- the payload is plain, and the value the runtime receives is its value
  have hstrided : PlainNode tableLibrary (.ndarray stridedPair) := by
    show _ ∈ _ ∧ _ ≤ _ ∧ _ ∉ _
    decide
  have hobs : (PyObj.dict [(.str (py "x"), .ndarray stridedPair)]).All (PlainNode tableLibrary) := by
    rw [PyObj.all_dict, List.forall_mem_singleton]
    refine ⟨⟨?_, List.nodup_singleton _⟩, hstrided⟩
    rw [List.forall_mem_singleton]
    exact ⟨_, rfl⟩
  have hplain : stridedPayload.object.All (PlainNode tableLibrary) := by
    unfold stridedPayload Payload.object
    rw [PyObj.all_dict]
    have hkeys : (REQUIRED_REQUEST_FIELDS.map PyKey.str).Nodup := by decide
    refine ⟨⟨by simp, hkeys⟩, ?_⟩
    simp only [List.map_cons, List.map_nil, List.forall_mem_cons, List.not_mem_nil,
      false_imp_iff, implies_true, and_true]
    exact ⟨trivial, trivial, trivial, trivial, trivial, trivial, trivial, trivial, trivial,
      trivial, hobs⟩
  have hobservation : ∀ v, (py "observation", v) ∈ stridedPayload →
      v.All (PlainNode tableLibrary) := by
    intro v hv
    have hmem : (PyKey.str (py "observation"), v) ∈
        stridedPayload.map fun e => (PyKey.str e.1, e.2) :=
      List.mem_map_of_mem (f := fun e => (PyKey.str e.1, e.2)) hv
    unfold Payload.object at hplain
    rw [PyObj.all_dict] at hplain
    exact hplain.2 _ hmem
  have hdistinct := hplain.imp fun _ h => PlainNode.distinct h
  obtain ⟨frame, hframe⟩ := exists_of_isOk (r := pack_message tableLibrary stridedMessagePack
    stridedPayload.object MAX_FRAME_BYTES) (by decide +kernel)
  obtain ⟨-, hmax, -, n, hn, hpacked⟩ := pack_message_ok hframe
  have hw : unpack_message tableLibrary stridedMessagePack (.bytes frame) MAX_FRAME_BYTES
      = .ok stridedValue := by
    have hweight := stridedMessagePack.weight_le _ _ hpacked
    obtain ⟨w, hw⟩ := decode_complete (hplain.imp fun _ h => PlainNode.allowed h)
      (hplain.imp fun _ h => PlainNode.zeroSize h) hn (by omega)
    have hvalue := (decode_sound hdistinct hn hw).1
    unfold stridedValue
    rw [hvalue, unpack_iff hpacked (by decide) (by omega)]
    exact hw
  have hsent : sentPayload ls 3 = some stridedValue := (Sys.replay_sent hreplay 3).trans rfl
  have hsha : ∀ b, (sampleSha256 b).length = 32 := by
    intro b
    unfold sampleSha256
    split
    · rfl
    · split
      · rfl
      · rfl
  obtain ⟨request, response, accepted, hrequest, hresponse, haccepted, hactions⟩ :=
    @honest_reply_accepted _ _ _ (fun _ => true) _ _ (fun _ _ => .ok true) hsha _ hdistinct
      hobservation _ hframe _ _ hw _ _ (Sys.replay_run hreplay) _ hsent _ hresult _ (Value.eq_of_isArray harray.1)
      hstrided harray.2 _ (Sys.calls_of_response hr) _ hreply
  refine ⟨r, reply, request, response, accepted, ?_, hreply, hrequest, hresponse, haccepted,
    hactions⟩
  unfold stridedResponse
  rw [hreplay]
  exact hr

end OvenRuntime
