/-
  OvenRuntime.Common.Protocol
  ───────────────────────────
  The inference envelope: the identifier format, the request parser with its
  error paths, and the response.
-/
import OvenRuntime.Common.State
import OvenRuntime.Common.Text

namespace OvenRuntime

def PROTOCOL_VERSION : Int := 1

/-! ## §1. Trial identifiers. -/

/-- `[A-Za-z0-9]`. -/
def CodePoint.isAlnum (c : CodePoint) : Bool :=
  (48 ≤ c.val && c.val ≤ 57) || (65 ≤ c.val && c.val ≤ 90) || (97 ≤ c.val && c.val ≤ 122)

/-- `[A-Za-z0-9_.-]`. -/
def CodePoint.isIdChar (c : CodePoint) : Bool :=
  c.isAlnum || c.val == 0x5f || c.val == 0x2e || c.val == 0x2d

/-- `TRIAL_ID_PATTERN.fullmatch(text) is not None`. -/
def TRIAL_ID_PATTERN : PyStr → Bool
  | [] => false
  | c :: cs => c.isAlnum && cs.all CodePoint.isIdChar && cs.length ≤ 127

theorem CodePoint.isIdChar_of_isAlnum {c : CodePoint} (h : c.isAlnum = true) :
    c.isIdChar = true := by
  simp [CodePoint.isIdChar, h]

theorem CodePoint.lt_of_isIdChar {c : CodePoint} (h : c.isIdChar = true) : c.val < 128 := by
  simp only [CodePoint.isIdChar, CodePoint.isAlnum, Bool.or_eq_true, Bool.and_eq_true,
    decide_eq_true_eq, beq_iff_eq] at h
  omega

/-- An accepted identifier is ASCII, hence encodable. -/
theorem TRIAL_ID_PATTERN.isAscii {text : PyStr} (h : TRIAL_ID_PATTERN text = true) :
    text.isAscii = true := by
  cases text with
  | nil => rfl
  | cons c cs =>
      simp only [TRIAL_ID_PATTERN, Bool.and_eq_true, List.all_eq_true] at h
      simp only [PyStr.isAscii, List.all_cons, Bool.and_eq_true, decide_eq_true_eq,
        List.all_eq_true]
      exact ⟨CodePoint.lt_of_isIdChar (CodePoint.isIdChar_of_isAlnum h.1.1),
        fun d hd => CodePoint.lt_of_isIdChar (h.1.2 d hd)⟩

/-! ## §2. Requests. -/

/-- The one request kind left; warm-up is gone. -/
inductive RequestKind where
  | INFER
  deriving DecidableEq, Repr

/-- `kind.value`. -/
def RequestKind.value : RequestKind → PyStr
  | .INFER => py "infer"

/-- `REQUIRED_REQUEST_FIELDS`. -/
def REQUIRED_REQUEST_FIELDS : List PyStr :=
  [py "protocol_version", py "message_type", py "session_id", py "session_token",
   py "trial_id", py "request_kind", py "expected_skill", py "expected_generation",
   py "sequence", py "sent_at_monotonic_ns", py "observation"]

/-- A parsed request. -/
structure InferenceRequest where
  protocol_version : Int
  session_id : PyStr
  session_token : PyStr
  trial_id : PyStr
  request_kind : RequestKind
  expected_skill : PyStr
  expected_generation : Int
  sequence : Int
  sent_at_monotonic_ns : Int
  observation : Dict

/-- A sorted list of names, as the `fields` detail of an error. -/
def fieldsDetail (names : List PyStr) : List (String × Value) :=
  [("fields", .list (names.map .str))]

/-- `payload[name]`. -/
def Dict.getItem (d : Dict) (name : String) : Except Exn Value :=
  match d.get? name with
  | some v => .ok v
  | none => .error (.error .KeyError)

/-- `_required_string`. -/
def _required_string (payload : Dict) (name : String) : Except Exn PyStr :=
  match payload.getItem name with
  | .error e => .error e
  | .ok (.str value) =>
      if value.isEmpty then
        .error (fault .INVALID_FIELD_VALUE "request field must not be empty"
          [("field", .str (py name))])
      else .ok value
  | .ok _ =>
      .error (fault .INVALID_FIELD_TYPE "request field must be a string"
        [("field", .str (py name))])

/-- One round of the loop over the three integer fields. -/
def _required_integer (payload : Dict) (name : String) (minimum : Int) : Except Exn Int :=
  match payload.getItem name with
  | .error e => .error e
  | .ok value =>
      match value.exactInt? with
      | none =>
          .error (fault .INVALID_FIELD_TYPE "request field must be an integer"
            [("field", .str (py name))])
      | some i =>
          if i < minimum then
            .error (fault .INVALID_FIELD_VALUE "request integer is below minimum"
              [("field", .str (py name)), ("minimum", .int minimum)])
          else .ok i

/-- `payload["message_type"] != "inference_request"`.  Comparing an array
gives an array, whose truth value exists only for a single element. -/
def messageTypeDiffers : Value → Except Exn Bool
  | .str s => .ok (s ≠ py "inference_request")
  | .ndarray a => if a.size = 1 then .ok true else .error (.error .ValueError)
  | _ => .ok true

/-- What an enumeration raises for a value that is no member.  The message holds the
`repr` of the value, which recurs through lists and mappings; `repr_fits` says for which
values it stays within the recursion limit of the interpreter, and a `RecursionError` is
a `RuntimeError`.  An array is compared with the members first, and either that raises
or its `repr` is short. -/
def notMember (repr_fits : Value → Bool) : Value → PyError
  | .list items => if repr_fits (.list items) then .ValueError else .RuntimeError
  | .map entries => if repr_fits (.map entries) then .ValueError else .RuntimeError
  | _ => .ValueError

/-- `RequestKind(value)`. -/
def RequestKind.ofValue (repr_fits : Value → Bool) : Value → Except PyError RequestKind
  | .str s => if s = py "infer" then .ok .INFER else .error .ValueError
  | value => .error (notMember repr_fits value)

/-- `RequestKind(value)` as the parser calls it: it catches `TypeError` and `ValueError`,
and a `RecursionError` is neither. -/
def requestKind (repr_fits : Value → Bool) (value : Value) : Except Exn RequestKind :=
  match RequestKind.ofValue repr_fits value with
  | .ok kind => .ok kind
  | .error e =>
      if e = .TypeError ∨ e = .ValueError then
        .error (fault .INVALID_FIELD_VALUE "request_kind is invalid")
      else .error (.error e)

/-- The field-set check at the head of the parser. -/
def checkRequestFields (payload : Dict) : Except Exn Unit :=
  let missing := sortStrs (REQUIRED_REQUEST_FIELDS.filter fun f => .str f ∉ payload.keys)
  if missing ≠ [] then
    .error (fault .MISSING_REQUIRED_FIELD "inference request is missing required fields"
      (fieldsDetail missing))
  else
    match sortKeys (payload.keys.filter fun k =>
        match k with
        | .str s => s ∉ REQUIRED_REQUEST_FIELDS
        | .bytes _ => true) with
    | none => .error (.error .TypeError)
    | some [] => .ok ()
    | some unexpected =>
        .error (fault .UNEXPECTED_FIELD "inference request contains unexpected fields"
          [("fields", .list (unexpected.map fun | .str s => .str s | .bytes b => .bytes b))])

/-- The version and message-type checks. -/
def checkRequestHeader (payload : Dict) : Except Exn Int := do
  let version ← payload.getItem "protocol_version"
  match version.exactInt? with
  | none => throw (fault .INVALID_FIELD_TYPE "protocol_version must be an integer")
  | some v =>
      if v ≠ PROTOCOL_VERSION then
        throw (fault .PROTOCOL_VERSION_UNSUPPORTED "unsupported protocol version"
          [("received", .int v), ("supported", .int PROTOCOL_VERSION)])
      let message_type ← payload.getItem "message_type"
      if ← messageTypeDiffers message_type then
        throw (fault .INVALID_MESSAGE_TYPE "message_type must be inference_request")
      return v

/-- The field checks after the header, in the order of the source. -/
def parseRequestFields (repr_fits : Value → Bool) (version : Int) (payload : Dict) :
    Except Exn InferenceRequest := do
  let session_id ← _required_string payload "session_id"
  if !UUID session_id then
    throw (fault .INVALID_FIELD_VALUE "session_id must be a UUID")
  let session_token ← _required_string payload "session_token"
  if !(32 ≤ session_token.length && session_token.length ≤ 128) then
    throw (fault .INVALID_FIELD_VALUE "session_token length is invalid")
  let trial_id ← _required_string payload "trial_id"
  if !TRIAL_ID_PATTERN trial_id then
    throw (fault .INVALID_FIELD_VALUE "trial_id format is invalid")
  let request_kind ← requestKind repr_fits (← payload.getItem "request_kind")
  let expected_skill ← _required_string payload "expected_skill"
  let generation ← _required_integer payload "expected_generation" 1
  let sequence ← _required_integer payload "sequence" 0
  let sent_at ← _required_integer payload "sent_at_monotonic_ns" 0
  let .map observation ← payload.getItem "observation"
    | throw (fault .INVALID_FIELD_TYPE "observation must be a dictionary")
  return {
    protocol_version := version
    session_id := session_id
    session_token := session_token
    trial_id := trial_id
    request_kind := request_kind
    expected_skill := expected_skill
    expected_generation := generation
    sequence := sequence
    sent_at_monotonic_ns := sent_at
    observation := observation }

/-- `InferenceRequest.parse`. -/
def InferenceRequest.parse (repr_fits : Value → Bool) (payload : Value) :
    Except Exn InferenceRequest :=
  match payload with
  | .map entries => do
      checkRequestFields entries
      let version ← checkRequestHeader entries
      parseRequestFields repr_fits version entries
  | _ => .error (fault .INVALID_FIELD_TYPE "inference request must be a mapping")

/-! ## §3. Responses. -/

/-- A SHA-256 digest; its `hexdigest()` text is a function of these bytes. -/
abbrev Digest := List UInt8

/-- `digest.hexdigest()`. -/
def Digest.hex (d : Digest) : PyStr :=
  let digit : Nat → CodePoint := fun n => Fin.ofNat _ (if n < 10 then 48 + n else 87 + n)
  d.flatMap fun b => [digit (b.toNat / 16), digit (b.toNat % 16)]

theorem Digest.length_hex (d : Digest) : d.hex.length = 2 * d.length := by
  unfold Digest.hex
  induction d with
  | nil => rfl
  | cons b bs ih =>
      simp only [List.flatMap_cons, List.length_append, List.length_cons, List.length_nil] at ih ⊢
      omega

theorem Digest.hex_isAscii (d : Digest) : PyStr.isAscii d.hex = true := by
  have hdigit : ∀ n, n < 16 → ((if n < 10 then 48 + n else 87 + n) % 0x110000) < 128 := by
    intro n hn
    split <;> omega
  unfold Digest.hex PyStr.isAscii
  rw [List.all_flatMap, List.all_eq_true]
  intro b _
  have hb : b.toNat < 256 := b.toNat_lt
  simp only [List.all_cons, List.all_nil, Bool.and_true, Bool.and_eq_true, decide_eq_true_eq]
  exact ⟨hdigit _ (by omega), hdigit _ (by omega)⟩

/-- A successful inference. -/
structure InferenceResponse where
  session_id : PyStr
  trial_id : PyStr
  skill : PyStr
  generation : Int
  sequence : Int
  publishable : Bool
  request_hash : Digest
  observation_hash : Digest
  noise_hash : PyStr
  action_hash : Digest
  actions : Value

/-- `response.to_dict()`. -/
def InferenceResponse.to_dict (r : InferenceResponse) : Dict :=
  [(.str (py "protocol_version"), .int PROTOCOL_VERSION),
   (.str (py "message_type"), .str (py "inference_response")),
   (.str (py "session_id"), .str r.session_id),
   (.str (py "trial_id"), .str r.trial_id),
   (.str (py "skill"), .str r.skill),
   (.str (py "generation"), .int r.generation),
   (.str (py "sequence"), .int r.sequence),
   (.str (py "publishable"), .bool r.publishable),
   (.str (py "request_hash"), .str r.request_hash.hex),
   (.str (py "observation_hash"), .str r.observation_hash.hex),
   (.str (py "noise_hash"), .str r.noise_hash),
   (.str (py "action_hash"), .str r.action_hash.hex),
   (.str (py "actions"), r.actions)]

end OvenRuntime
