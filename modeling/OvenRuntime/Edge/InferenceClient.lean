/-
  OvenRuntime.Edge.InferenceClient
  ────────────────────────────────
  The one-shot inference client: what it sends, and the checks a reply has to
  pass.

  Main results:
    • `validate_accepts` — a reply that answers the request with the hashes of the
      client's own objects passes all checks;
    • `InferenceClient.infer_checked` — what `infer` returns, whoever sent it, carries
      the hashes of the request that was sent and of the actions that came.
-/
import OvenRuntime.Common.Protocol
import OvenRuntime.Common.Hashing
import OvenRuntime.Common.Wire

namespace OvenRuntime

/-! ## §1. Requests. -/

/-- A payload, `dict[str, Any]`. -/
abbrev Payload := List (PyStr × PyObj)

/-- The payload as an object. -/
def Payload.object (payload : Payload) : PyObj := .dict (payload.map fun e => (.str e.1, e.2))

variable (lib : Library) (mp : MessagePack)

/-- What the parser sees of a field: its type, and the value where it looks at
one.  NumPy strings are strings; a container that no decoded value stands for
keeps its type only. -/
def PyObj.outline : PyObj → Value
  | .generic d b =>
      if lib.kind d = KIND_STR then .str (lib.str_value d b)
      else if lib.kind d = KIND_BYTES then .bytes (lib.bytes_value d b)
      else .ndarray ((asarray lib d b).view lib)
  | .dict entries => ((PyObj.dict entries).toValue lib).getD (.map [])
  | v => (v.toValue lib).getD (.list [])

/-- A request the client has parsed.  `observation` is the object in the
payload, which the request refers to. -/
structure ClientRequest where
  fields : InferenceRequest
  observation : PyObj

variable (repr_fits : Value → Bool)

/-- `InferenceRequest.parse(payload)` at the client, whose interpreter has a recursion
limit of its own. -/
def InferenceClient.parse (payload : Payload) : Except Exn ClientRequest := do
  let fields ← InferenceRequest.parse repr_fits
    (.map (payload.map fun e => (.str e.1, e.2.outline lib)))
  match payload.lookup (py "observation") with
  | some observation => return { fields := fields, observation := observation }
  | none => throw (.error .KeyError)

/-! ## §2. Replies. -/

/-- `REQUIRED_RESPONSE_FIELDS`. -/
def REQUIRED_RESPONSE_FIELDS : List PyStr :=
  [py "protocol_version", py "message_type", py "session_id", py "trial_id", py "skill",
   py "generation", py "sequence", py "publishable", py "request_hash", py "observation_hash",
   py "noise_hash", py "action_hash", py "actions"]

/-- `ErrorCode(value)`. -/
def ErrorCode.ofValue : Value → Except PyError ErrorCode
  | .str s =>
      match ErrorCode.members.find? fun code => py code.value = s with
      | some code => .ok code
      | none => .error .ValueError
  | value => .error (notMember repr_fits value)

/-- A `str` without surrogates as a `String`. -/
def PyStr.text (s : PyStr) : String := String.ofList (s.map fun c => Char.ofNat c.val)

/-- `payload.get("message_type") == "inference_error"`. -/
def isErrorReply (payload : Dict) : Except Exn Bool :=
  match payload.get? "message_type" with
  | some (.str s) => .ok (s = py "inference_error")
  | some (.ndarray a) => if a.size = 1 then .ok false else .error (.error .ValueError)
  | _ => .ok false

/-- What an error reply raises: the fault it stands for.  The client catches
`TypeError` and `ValueError` about the code, as the parser does about the kind. -/
def remoteFault (payload : Dict) : Exn :=
  let message := match payload.get? "message" with
    | some (.str s) => PyStr.text s
    | _ => "remote inference failed"
  match ErrorCode.ofValue repr_fits ((payload.get? "error_code").getD .none) with
  | .ok code => fault code message
  | .error e => if e = .TypeError ∨ e = .ValueError then fault .SERVER_FAILED message else .error e

/-- The field-set check; both sets are sorted before either is looked at. -/
def checkResponseFields (payload : Dict) : Except Exn Unit :=
  let missing := sortStrs (REQUIRED_RESPONSE_FIELDS.filter fun f => .str f ∉ payload.keys)
  match sortKeys (payload.keys.filter fun k =>
      match k with
      | .str s => s ∉ REQUIRED_RESPONSE_FIELDS
      | .bytes _ => true) with
  | none => .error (.error .TypeError)
  | some unexpected =>
      if missing ≠ [] then
        .error (fault .MISSING_REQUIRED_FIELD "inference response is missing required fields"
          (fieldsDetail missing))
      else if unexpected ≠ [] then
        .error (fault .UNEXPECTED_FIELD "inference response contains unexpected fields"
          [("fields", .list (unexpected.map fun | .str s => .str s | .bytes b => .bytes b))])
      else .ok ()

/-- The number a `bool`, an `int` or a `float` is compared as. -/
def Value.number : Value → Option ℚ
  | .bool b => some (if b then 1 else 0)
  | .int i => some i
  | .float (.fin q) => some q
  | .float .negZero => some 0
  | _ => Option.none

variable (array_ne : NdArray → Value → Except Exn Bool)

/-- `value != expected` for an expected `str`, `int` or `bool`; `array_ne` is
the truth value of a comparison with an array. -/
def Value.differs (value expected : Value) : Except Exn Bool :=
  match value, expected with
  | .ndarray a, expected => array_ne a expected
  | .str s, .str t => .ok (s ≠ t)
  | value, expected =>
      match value.number, expected.number with
      | some x, some y => .ok (x ≠ y)
      | _, _ => .ok true

/-- `[name for name, expected in ... if payload[name] != expected]`. -/
def mismatched (payload : Dict) : List (String × Value) → Except Exn (List PyStr)
  | [] => .ok []
  | (name, expected) :: rest => do
      let value ← payload.getItem name
      let differs ← value.differs array_ne expected
      let names ← mismatched payload rest
      return if differs then py name :: names else names

/-- `expected_values`. -/
def expectedValues (request : InferenceRequest) : List (String × Value) :=
  [("protocol_version", .int PROTOCOL_VERSION),
   ("message_type", .str (py "inference_response")),
   ("session_id", .str request.session_id),
   ("trial_id", .str request.trial_id),
   ("skill", .str request.expected_skill),
   ("generation", .int request.expected_generation),
   ("sequence", .int request.sequence),
   ("publishable", .bool (request.request_kind = .INFER))]

/-- The mapping whose hash the client expects as `request_hash`. -/
def verifiedFields (request : InferenceRequest) (observation_hash : Digest) : PyObj :=
  .dict [(.str (py "protocol_version"), .int request.protocol_version),
    (.str (py "session_id"), .str request.session_id),
    (.str (py "trial_id"), .str request.trial_id),
    (.str (py "request_kind"), .str request.request_kind.value),
    (.str (py "expected_skill"), .str request.expected_skill),
    (.str (py "expected_generation"), .int request.expected_generation),
    (.str (py "sequence"), .int request.sequence),
    (.str (py "observation_hash"), .str observation_hash.hex)]

/-- `isinstance(payload[name], str) and len(payload[name]) == 64`, or a fault. -/
def checkHashText (payload : Dict) (name : String) : Except Exn Unit :=
  match payload.getItem name with
  | .error e => .error e
  | .ok (.str s) =>
      if s.length = 64 then .ok ()
      else .error (fault .INVALID_FIELD_VALUE "inference response hash is invalid"
        [("field", .str (py name))])
  | .ok _ =>
      .error (fault .INVALID_FIELD_VALUE "inference response hash is invalid"
        [("field", .str (py name))])

variable (sha256 : List UInt8 → Digest)

/-- `stable_tree_hash`, its exceptions among all others. -/
def treeHash (v : PyObj) : Except Exn Digest := (stable_tree_hash lib sha256 v).mapError Exn.error

/-- `validate_inference_response`. -/
def validate_inference_response (request : ClientRequest) (payload : Value) : Except Exn Dict :=
  match payload with
  | .map entries => do
      if ← isErrorReply entries then throw (remoteFault repr_fits entries)
      checkResponseFields entries
      let wrong ← mismatched array_ne entries (expectedValues request.fields)
      if wrong ≠ [] then
        throw (fault .RESPONSE_MISMATCH "inference response identity does not match its request"
          (fieldsDetail (sortStrs wrong)))
      let observation_hash ← treeHash lib sha256 request.observation
      let request_hash ← treeHash lib sha256 (verifiedFields request.fields observation_hash)
      let actions ← Dict.getItem entries "actions"
      let action_hash ← treeHash lib sha256 (actions.toObj lib)
      let wrong ← mismatched array_ne entries
        [("observation_hash", .str observation_hash.hex),
         ("request_hash", .str request_hash.hex),
         ("action_hash", .str action_hash.hex)]
      if wrong ≠ [] then
        throw (fault .RESPONSE_MISMATCH "inference response hash verification failed"
          (fieldsDetail (sortStrs wrong)))
      checkHashText entries "noise_hash"
      checkHashText entries "request_hash"
      checkHashText entries "observation_hash"
      checkHashText entries "action_hash"
      return entries
  | _ => .error (fault .FRAME_DECODE_FAILED "inference response must be a mapping")

/-- `InferenceClient.infer`; `transport` sends a frame and receives one. -/
def InferenceClient.infer (transport : List UInt8 → Except Exn PyObj) (payload : Payload) :
    Except Exn Dict := do
  let request ← InferenceClient.parse lib repr_fits payload
  let frame ← pack_message lib mp payload.object MAX_FRAME_BYTES
  match transport frame with
  | .error _ =>
      throw (fault .INFERENCE_TIMEOUT "inference transport failed; request outcome is ambiguous and must not be retried automatically")
  | .ok received =>
      let response ← unpack_message lib mp received MAX_FRAME_BYTES
      validate_inference_response lib repr_fits array_ne sha256 request response

/-! ## §3. Lookups. -/

/-- A key of a dict with distinct keys leads to its value. -/
theorem Dict.get?_of_mem {d : Dict} (hnodup : d.keys.Nodup) {name : String} {v : Value}
    (h : (.str (py name), v) ∈ d) : d.get? name = some v := by
  unfold Dict.get?
  induction d with
  | nil => exact absurd h (List.not_mem_nil)
  | cons e es ih =>
      unfold Dict.keys at hnodup
      rw [List.map_cons, List.nodup_cons] at hnodup
      rw [List.lookup_cons]
      by_cases hkey : (Key.str (py name) == e.1) = true
      · rw [hkey]
        have hname : Key.str (py name) = e.1 := eq_of_beq hkey
        apply (List.mem_cons.mp h).elim
        · intro heq
          rw [← heq]
        · intro hmem
          have hold : Key.str (py name) ∈ es.map Prod.fst := List.mem_map_of_mem hmem
          rw [hname] at hold
          exact absurd hold hnodup.1
      · rw [Bool.not_eq_true] at hkey
        rw [hkey]
        apply ih hnodup.2
        apply (List.mem_cons.mp h).elim
        · intro heq
          rw [← heq, beq_self_eq_true] at hkey
          exact absurd hkey (by decide)
        · exact id

theorem Dict.getItem_of_get? {d : Dict} {name : String} {v : Value} (h : d.get? name = some v) :
    d.getItem name = .ok v := by
  unfold Dict.getItem
  rw [h]

/-! ## §4. Replies that pass. -/

variable {lib repr_fits array_ne sha256}

/-- Every field with the expected value, no mismatch. -/
theorem mismatched_nil {payload : Dict} {expected : List (String × Value)}
    (h : ∀ e ∈ expected, ∃ v, payload.get? e.1 = some v ∧ v.differs array_ne e.2 = .ok false) :
    mismatched array_ne payload expected = .ok [] := by
  induction expected with
  | nil => rfl
  | cons e rest ih =>
      rw [List.forall_mem_cons] at h
      obtain ⟨v, hget, hsame⟩ := h.1
      unfold mismatched
      rw [Dict.getItem_of_get? hget, ih h.2]
      show (v.differs array_ne e.2 >>= _) = _
      rw [hsame]
      rfl

theorem differs_str (s : PyStr) : (Value.str s).differs array_ne (.str s) = .ok false := by
  show Except.ok (decide (s ≠ s)) = _
  simp

theorem differs_int (i : Int) : (Value.int i).differs array_ne (.int i) = .ok false := by
  show Except.ok (decide ((i : ℚ) ≠ i)) = _
  simp

theorem differs_bool (b : Bool) : (Value.bool b).differs array_ne (.bool b) = .ok false := by
  show Except.ok (decide ((if b then (1 : ℚ) else 0) ≠ if b then 1 else 0)) = _
  simp

/-- The response answers the request, with the hashes the client computes. -/
structure Verified (lib : Library) (sha256 : List UInt8 → Digest) (request : ClientRequest)
    (r : InferenceResponse) : Prop where
  session_id : r.session_id = request.fields.session_id
  trial_id : r.trial_id = request.fields.trial_id
  skill : r.skill = request.fields.expected_skill
  generation : r.generation = request.fields.expected_generation
  sequence : r.sequence = request.fields.sequence
  publishable : r.publishable = true
  observation_hash : stable_tree_hash lib sha256 request.observation = .ok r.observation_hash
  request_hash : stable_tree_hash lib sha256
    (verifiedFields request.fields r.observation_hash) = .ok r.request_hash
  action_hash : stable_tree_hash lib sha256 (r.actions.toObj lib) = .ok r.action_hash

/-- The keys of a response. -/
theorem InferenceResponse.to_dict_keys (r : InferenceResponse) :
    r.to_dict.keys = REQUIRED_RESPONSE_FIELDS.map Key.str := rfl

theorem InferenceResponse.to_dict_nodup (r : InferenceResponse) : r.to_dict.keys.Nodup := by
  rw [r.to_dict_keys]
  decide

/-- A response has the required fields and no others. -/
theorem checkResponseFields_to_dict (r : InferenceResponse) :
    checkResponseFields r.to_dict = .ok () := by
  unfold checkResponseFields
  rw [r.to_dict_keys]
  exact eq_ok_of_toOption (by decide +kernel)

/-- A digest of 32 bytes has 64 digits. -/
theorem checkHashText_ok {payload : Dict} {name : String} {s : PyStr}
    (h : payload.get? name = some (.str s)) (hlen : s.length = 64) :
    checkHashText payload name = .ok () := by
  unfold checkHashText
  rw [Dict.getItem_of_get? h]
  exact if_pos hlen

theorem treeHash_ok {v : PyObj} {d : Digest} (h : stable_tree_hash lib sha256 v = .ok d) :
    treeHash lib sha256 v = .ok d := by
  unfold treeHash
  rw [h]
  rfl

/-- A digest that was returned is one of `sha256`. -/
theorem stable_tree_hash_length (hsha : ∀ b, (sha256 b).length = 32) {v : PyObj} {d : Digest}
    (h : stable_tree_hash lib sha256 v = .ok d) : d.hex.length = 64 := by
  unfold stable_tree_hash at h
  obtain ⟨b, -, hb⟩ := map_ok.mp h
  rw [Digest.length_hex, ← hb, hsha]

/-- **A response that answers the request with the client's own hashes is
accepted.** -/
theorem validate_accepts (hsha : ∀ b, (sha256 b).length = 32) {request : ClientRequest}
    {r : InferenceResponse} (h : Verified lib sha256 request r) (hnoise : r.noise_hash.length = 64) :
    validate_inference_response lib repr_fits array_ne sha256 request (.map r.to_dict) =
      .ok r.to_dict := by
  have hget : ∀ (name : String) (v : Value), (Key.str (py name), v) ∈ r.to_dict →
      Dict.get? r.to_dict name = some v := fun name v => Dict.get?_of_mem r.to_dict_nodup
  have herror : isErrorReply r.to_dict = .ok false := by
    unfold isErrorReply
    rw [hget "message_type" (.str (py "inference_response")) (by simp [InferenceResponse.to_dict])]
    exact congrArg Except.ok (by decide)
  have hidentity : mismatched array_ne r.to_dict (expectedValues request.fields) = .ok [] := by
    apply mismatched_nil
    unfold expectedValues
    simp only [List.forall_mem_cons, List.not_mem_nil, false_imp_iff, implies_true, and_true]
    refine ⟨⟨_, hget _ (.int PROTOCOL_VERSION) ?_, differs_int _⟩,
      ⟨_, hget _ (.str (py "inference_response")) ?_, differs_str _⟩,
      ⟨_, hget _ (.str request.fields.session_id) ?_, differs_str _⟩,
      ⟨_, hget _ (.str request.fields.trial_id) ?_, differs_str _⟩,
      ⟨_, hget _ (.str request.fields.expected_skill) ?_, differs_str _⟩,
      ⟨_, hget _ (.int request.fields.expected_generation) ?_, differs_int _⟩,
      ⟨_, hget _ (.int request.fields.sequence) ?_, differs_int _⟩,
      ⟨_, hget _ (.bool (request.fields.request_kind = .INFER)) ?_, differs_bool _⟩⟩
    all_goals
      simp [InferenceResponse.to_dict, h.session_id, h.trial_id, h.skill, h.generation, h.sequence,
        h.publishable]
  have hhashes : mismatched array_ne r.to_dict
      [("observation_hash", .str r.observation_hash.hex), ("request_hash", .str r.request_hash.hex),
        ("action_hash", .str r.action_hash.hex)] = .ok [] := by
    apply mismatched_nil
    simp only [List.forall_mem_cons, List.not_mem_nil, false_imp_iff, implies_true, and_true]
    refine ⟨⟨_, hget _ (.str r.observation_hash.hex) ?_, differs_str _⟩,
      ⟨_, hget _ (.str r.request_hash.hex) ?_, differs_str _⟩,
      ⟨_, hget _ (.str r.action_hash.hex) ?_, differs_str _⟩⟩
    all_goals simp [InferenceResponse.to_dict]
  have hactions : Dict.getItem r.to_dict "actions" = .ok r.actions :=
    Dict.getItem_of_get? (hget _ _ (by simp [InferenceResponse.to_dict]))
  have hnoise' : checkHashText r.to_dict "noise_hash" = .ok () :=
    checkHashText_ok (hget _ (.str r.noise_hash) (by simp [InferenceResponse.to_dict])) hnoise
  have hrequest' : checkHashText r.to_dict "request_hash" = .ok () :=
    checkHashText_ok (hget _ (.str r.request_hash.hex) (by simp [InferenceResponse.to_dict]))
      (stable_tree_hash_length hsha h.request_hash)
  have hobservation' : checkHashText r.to_dict "observation_hash" = .ok () :=
    checkHashText_ok (hget _ (.str r.observation_hash.hex) (by simp [InferenceResponse.to_dict]))
      (stable_tree_hash_length hsha h.observation_hash)
  have haction' : checkHashText r.to_dict "action_hash" = .ok () :=
    checkHashText_ok (hget _ (.str r.action_hash.hex) (by simp [InferenceResponse.to_dict]))
      (stable_tree_hash_length hsha h.action_hash)
  unfold validate_inference_response
  simp only [herror, checkResponseFields_to_dict, hidentity, treeHash_ok h.observation_hash,
    treeHash_ok h.request_hash, hactions, treeHash_ok h.action_hash, hhashes, hnoise', hrequest',
    hobservation', haction', bind, Except.bind, pure, Except.pure]
  rfl

/-! ## §5. What passes. -/

/-- Without a mismatch, every field compares equal to the expected value. -/
theorem of_mismatched_nil {payload : Dict} {expected : List (String × Value)}
    (h : mismatched array_ne payload expected = .ok []) :
    ∀ e ∈ expected, ∃ v, payload.getItem e.1 = .ok v ∧ v.differs array_ne e.2 = .ok false := by
  induction expected with
  | nil => exact fun e he => absurd he List.not_mem_nil
  | cons e rest ih =>
      unfold mismatched at h
      obtain ⟨v, hget, h⟩ := bind_ok.mp h
      obtain ⟨differs, hdiffers, h⟩ := bind_ok.mp h
      obtain ⟨names, hnames, h⟩ := bind_ok.mp h
      cases differs with
      | true => cases h
      | false =>
          cases h
          exact List.forall_mem_cons.mpr ⟨⟨v, hget, hdiffers⟩, ih hnames⟩

/-- A field that passed the test on texts and compared equal to a text is that text:
an array, which may compare equal to anything, is none. -/
theorem hashText_eq {payload : Dict} {name : String} {s : PyStr}
    (htext : checkHashText payload name = .ok ())
    (hsame : ∃ v, payload.getItem name = .ok v ∧ v.differs array_ne (.str s) = .ok false) :
    payload.getItem name = .ok (.str s) := by
  obtain ⟨v, hget, hdiffers⟩ := hsame
  unfold checkHashText at htext
  rw [hget] at htext
  cases v with
  | str t =>
      have hne : ¬ t ≠ s := of_decide_eq_false (Except.ok.inj hdiffers)
      rw [hget, not_not.mp hne]
  | none | bool | int | float | bytes | list | map | ndarray => cases htext

/-- What the client has checked of a reply: the hashes in it are those of the request
that was sent and of the actions that came. -/
structure ReplyChecked (lib : Library) (array_ne : NdArray → Value → Except Exn Bool)
    (sha256 : List UInt8 → Digest) (request : ClientRequest) (reply : Dict) : Prop where
  identity : ∀ e ∈ expectedValues request.fields,
    ∃ v, reply.getItem e.1 = .ok v ∧ v.differs array_ne e.2 = .ok false
  hashes : ∃ actions observation_hash request_hash action_hash,
    reply.getItem "actions" = .ok actions ∧
    stable_tree_hash lib sha256 request.observation = .ok observation_hash ∧
    stable_tree_hash lib sha256 (verifiedFields request.fields observation_hash) =
      .ok request_hash ∧
    stable_tree_hash lib sha256 (actions.toObj lib) = .ok action_hash ∧
    reply.getItem "observation_hash" = .ok (.str observation_hash.hex) ∧
    reply.getItem "request_hash" = .ok (.str request_hash.hex) ∧
    reply.getItem "action_hash" = .ok (.str action_hash.hex)

theorem treeHash_eq_ok {v : PyObj} {d : Digest} (h : treeHash lib sha256 v = .ok d) :
    stable_tree_hash lib sha256 v = .ok d := by
  unfold treeHash at h
  cases hd : stable_tree_hash lib sha256 v with
  | error e =>
      rw [hd] at h
      cases h
  | ok d' =>
      rw [hd] at h
      cases h
      rfl

/-- **A reply that passes has the hashes of what was sent and received.** -/
theorem validate_checks {request : ClientRequest} {payload : Value} {reply : Dict}
    (h : validate_inference_response lib repr_fits array_ne sha256 request payload = .ok reply) :
    payload = .map reply ∧ ReplyChecked lib array_ne sha256 request reply := by
  unfold validate_inference_response at h
  cases payload with
  | map entries =>
      -- the checks of the client, in their order
      simp only [bind_ok, guard_ok] at h
      obtain ⟨error, -, -, _, -, wrong, hidentity, hnone, observation_hash, hobservation,
        request_hash, hrequest, actions, hactions, action_hash, haction, wrong', hhashes, hnone',
        _, -, _, hrequest', _, hobservation', _, haction', heq⟩ := h
      cases heq
      -- no field differs, and the hashes are texts
      rw [not_not.mp hnone] at hidentity
      rw [not_not.mp hnone'] at hhashes
      have hfields := of_mismatched_nil hhashes
      simp only [List.forall_mem_cons] at hfields
      obtain ⟨hobs, hreq, hact, -⟩ := hfields
      refine ⟨rfl, of_mismatched_nil hidentity, actions, observation_hash, request_hash,
        action_hash, hactions, treeHash_eq_ok hobservation, treeHash_eq_ok hrequest, treeHash_eq_ok haction, ?_⟩
      exact ⟨hashText_eq hobservation' hobs, hashText_eq hrequest' hreq, hashText_eq haction' hact⟩
  | none | bool | int | float | str | bytes | list | ndarray => cases h

/-- **What `infer` returns is a checked reply**, whatever the transport does and whoever
sent the reply: it came in a frame that answered the frame of the payload, and its hashes
are those of the payload's own fields and of the actions in it. -/
theorem InferenceClient.infer_checked {mp : MessagePack}
    {transport : List UInt8 → Except Exn PyObj} {payload : Payload} {reply : Dict}
    (h : InferenceClient.infer lib mp repr_fits array_ne sha256 transport payload = .ok reply) :
    ∃ request frame received, InferenceClient.parse lib repr_fits payload = .ok request ∧
      pack_message lib mp payload.object MAX_FRAME_BYTES = .ok frame ∧
      transport frame = .ok received ∧
      unpack_message lib mp received MAX_FRAME_BYTES = .ok (.map reply) ∧
      ReplyChecked lib array_ne sha256 request reply := by
  unfold InferenceClient.infer at h
  obtain ⟨request, hparse, h⟩ := bind_ok.mp h
  obtain ⟨frame, hframe, h⟩ := bind_ok.mp h
  cases hreceived : transport frame with
  | error err =>
      rw [hreceived] at h
      cases h
  | ok received =>
      rw [hreceived] at h
      obtain ⟨response, hresponse, hvalid⟩ := bind_ok.mp h
      obtain ⟨rfl, hchecked⟩ := validate_checks hvalid
      exact ⟨request, frame, received, hparse, hframe, hreceived, hresponse, hchecked⟩

end OvenRuntime
