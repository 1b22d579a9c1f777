/-
  OvenRuntime.System.Composition
  ──────────────────────────────
  The edge and the server as one system.

  The components of the edge answer what they like, and may raise at any point.
  The calls on the server are carried out by the runtime, one after the other
  and undisturbed.  On a lossy connection a control call of the main path may
  not get there, and its response may be lost; the calls of a safe stop get
  there.
-/
import OvenRuntime.Edge.SafeStop
import OvenRuntime.Server.ControlProtocol
import OvenRuntime.Server.Undisturbed
import OvenRuntime.System.ControlPath
import OvenRuntime.System.Observation

namespace OvenRuntime

open EffectProgram

/-! ## §1. The calls of the edge at the server. -/

/-- The name of a command. -/
def ControlCommand.value : ControlCommand → PyStr
  | .status => py "status"
  | .prepare_skill => py "prepare-skill"
  | .begin_trial => py "begin-trial"
  | .open_session => py "open-session"
  | .close_session => py "close-session"
  | .end_trial => py "end-trial"
  | .abort => py "abort"

/-- The method of the runtime that a call asks for; the drain timeout is the
default one. -/
def Component.op : Component → Option Op
  | .control .status [] => some .status
  | .control .prepare_skill [.str skill] => some (.prepare_skill skill 30)
  | .control .begin_trial [trial_id, root_seed] => some (.begin_trial trial_id root_seed)
  | .control .open_session [] => some .open_session
  | .control .close_session [.str session_id] => some (.close_session session_id)
  | .control .end_trial [] => some .end_trial
  | .control .abort [.str reason] => some (.abort reason)
  | .infer payload => some (.infer (.map payload))
  | _ => none

/-- What a method returns, as a dictionary. -/
def Result.to_dict : Result → Dict
  | .status s => s.to_dict
  | .session g => g.to_dict
  | .response r => r.to_dict
  | .trial summary => summary.to_dict
  | .terminated state summary => terminatedDict (state, summary)
  | .closed => []

/-- What the control client returns or raises for how a request ended. -/
def clientReply (d : ControlDispatcher) (command : PyStr) :
    Except RuntimeFault Dict → Except Raised Dict
  | .ok result => .ok (d._response command (.ok result))
  | .error error => .error (.exn (.fault { code := error.code, message := error.message }))

/-- The same for what the method did. -/
def controlReply (d : ControlDispatcher) (command : ControlCommand) (out : Except Exn Result) :
    Except Raised Dict :=
  clientReply d command.value ((out.map Result.to_dict).mapError
    (ControlDispatcher.asFault "control command failed inside the server"))

/-- The wire format can write the integers of the envelope. -/
def sendable (payload : Dict) : Bool :=
  payload.all fun e =>
    match e.2 with
    | .int i => decide (-2 ^ 63 ≤ i) && decide (i < 2 ^ 64)
    | _ => true

/-! ## §2. The system. -/

/-- A call the server got, and what came of it. -/
structure Served where
  call : Component
  outcome : Except Exn Result

/-- The server did not refuse the call. -/
def Served.Accepted (sv : Served) : Prop := ∃ r, sv.outcome = .ok r

/-- The server, whether the edge is in a safe stop, and the calls so far. -/
structure World where
  server : TimedRuntime
  stopping : Bool := false
  served : List Served := []

/-- What comes of a call that names a method, or of one that names none. -/
def Performs (cfg : RuntimeConfig) (nx : Numerics) (x : TimedRuntime) :
    Option Op → Except Exn Result → TimedRuntime → Prop
  | some op, out, x' => ∃ id, Alone cfg nx id x (op.start nx) out x'
  | none, out, x' => out = .error (.error .TypeError) ∧ x' = x

/-- The server carries a call out. -/
def CarriesOut (cfg : RuntimeConfig) (nx : Numerics) (c : Component) (w : World)
    (out : Except Exn Result) (w' : World) : Prop :=
  Performs cfg nx w.server c.op out w'.server ∧
    w' = { w with server := w'.server, served := w.served ++ [⟨c, out⟩] }

/-- How the components answer, around a runtime. -/
def pipeline (cfg : RuntimeConfig) (nx : Numerics) (d : ControlDispatcher) (lossy : Bool) :
    Environment Component Component.Answer Raised World := fun c w out w' =>
  match c, out with
  | .control command arguments, out =>
      (∃ r, CarriesOut cfg nx (.control command arguments) w r w' ∧
        -- the response may be lost
        (out = controlReply d command r ∨ lossy = true ∧ ∃ x, out = .error x)) ∨
      -- the call is lost
      (lossy = true ∧ w.stopping = false ∧ w' = w ∧ ∃ x, out = .error x)
  | .infer payload, out =>
      (sendable payload = true ∧ ∃ r, CarriesOut cfg nx (.infer payload) w r w' ∧
        -- the client may still raise, as it checks the response
        ((∃ x, out = .error x) ∨
          ∃ response, r = .ok (.response response) ∧ out = .ok response.to_dict)) ∨
      (sendable payload = false ∧ w' = w ∧ ∃ x, out = .error x)
  | .stop reason, _ =>
      w' = { w with stopping := w.stopping || (py "safe_stop:").isPrefixOf reason }
  | .monotonic_ns, out => w' = w ∧ ∀ n, out = .ok n → 0 ≤ n
  | _, _ => w' = w

/-! ## §3. The dispatcher. -/

/-- The control calls an orchestrator makes, and the method each one names. -/
inductive Issued : ControlCommand → List ControlArgument → Op → Prop
  | status : Issued .status [] .status
  | prepare_skill {skill : PyStr} : skill.isEmpty = false →
      Issued .prepare_skill [.str skill] (.prepare_skill skill 30)
  | begin_trial {trial_id : PyStr} {root_seed : Int} : trial_id.isEmpty = false →
      Issued .begin_trial [.str trial_id, .int root_seed]
        (.begin_trial (.str trial_id) (.int root_seed))
  | open_session : Issued .open_session [] .open_session
  | close_session {session_id : PyStr} : session_id.isEmpty = false →
      Issued .close_session [.str session_id] (.close_session session_id)
  | end_trial : Issued .end_trial [] .end_trial
  | abort {reason : PyStr} : reason.isEmpty = false → Issued .abort [.str reason] (.abort reason)

/-- What the method of a call gives the dispatcher. -/
def ControlRuntime.perform (runtime : ControlRuntime) : Op → Except Exn Dict
  | .status => runtime.status.map Status.to_dict
  | .prepare_skill skill _ => (runtime.prepare_skill skill).map Status.to_dict
  | .begin_trial (.str trial_id) (.int root_seed) =>
      (runtime.begin_trial trial_id root_seed).map Status.to_dict
  | .open_session => runtime.open_session.map SessionGrant.to_dict
  | .close_session session_id => (runtime.close_session session_id).map Status.to_dict
  | .end_trial => runtime.end_trial.map TrialRecord.to_dict
  | .abort reason => (runtime.abort reason).map terminatedDict
  | _ => .error (.error .TypeError)

theorem ControlCommand.value_mem (command : ControlCommand) : command.value ∈ CONTROL_COMMANDS := by
  cases command <;> decide

theorem _command_arguments_ok {command : PyStr} {names : List String}
    {values : List ControlArgument} {args : Dict}
    (hlookup : COMMAND_ARGUMENTS.lookup command = some names)
    (hlength : names.length = values.length)
    (hargs : (names.zip values).map (fun e => (.str (py e.1), e.2.value)) = args)
    (hseed : ∀ name ∈ ["root_seed", "seed"], ∀ value, args.get? name = some value →
      value.exactInt?.isSome = true) :
    _command_arguments command values = .ok args := by
  unfold _command_arguments
  rw [hlookup]
  simp only [hargs]
  rw [if_neg (not_not.mpr hlength)]
  refine if_pos (List.all_eq_true.mpr ?_)
  intro name hname
  split
  · exact hseed name hname _ ‹_›
  · rfl

/-- A command with one text. -/
theorem _command_arguments_text {command s : PyStr} {name : String}
    (hlookup : COMMAND_ARGUMENTS.lookup command = some [name])
    (hname : py name ≠ py "root_seed" ∧ py name ≠ py "seed") :
    _command_arguments command [.str s] = .ok [(.str (py name), .str s)] := by
  refine _command_arguments_ok hlookup rfl rfl ?_
  intro seed hseed value hvalue
  have hne : Key.str (py seed) ≠ Key.str (py name) := by
    rcases List.mem_pair.mp hseed with rfl | rfl
    · exact fun h => hname.1 (Key.str.inj h).symm
    · exact fun h => hname.2 (Key.str.inj h).symm
  have hnone : Dict.get? [(.str (py name), .str s)] seed = none :=
    Dictionary.lookup_cons_of_ne _ [] hne
  cases hvalue.symm.trans hnone

theorem _string_of {d : Dict} {name : String} {s : PyStr} (hs : s.isEmpty = false)
    (hitem : d.getItem name = .ok (.str s)) : _string d name = .ok s := by
  unfold _string
  rw [hitem]
  refine bind_ok.mpr ⟨_, rfl, ?_⟩
  simp only [hs]
  rfl

section Dispatch

variable {α : Type} {g : α → Dict}

/-- A method without arguments. -/
theorem dispatch_plain (r : Except Exn α) :
    (_expect_arguments [] [] >>= fun _ => r >>= fun a => pure (g a)) = r.map g := by
  show (r >>= fun a => pure (g a)) = _
  cases r <;> rfl

/-- A method of one text. -/
theorem dispatch_string {f : PyStr → Except Exn α} {name : String} {s : PyStr}
    (hs : s.isEmpty = false)
    (hexpect : _expect_arguments [(.str (py name), .str s)] [py name] = .ok ())
    (hitem : Dict.getItem [(.str (py name), .str s)] name = .ok (.str s)) :
    (_expect_arguments [(.str (py name), .str s)] [py name] >>= fun _ =>
      _string [(.str (py name), .str s)] name >>= fun s => f s >>= fun a => pure (g a)) =
      (f s).map g := by
  rw [hexpect, _string_of hs hitem]
  show (f s >>= fun a => pure (g a)) = _
  cases f s <;> rfl

end Dispatch

/-- `begin-trial` takes a text and an integer. -/
theorem dispatch_begin_trial {trial_id : PyStr} {root_seed : Int} (h : trial_id.isEmpty = false)
    (runtime : ControlRuntime) :
    ControlDispatcher._dispatch runtime
      ⟨py "begin-trial",
        [(.str (py "trial_id"), .str trial_id), (.str (py "root_seed"), .int root_seed)]⟩ =
      (runtime.begin_trial trial_id root_seed).map Status.to_dict := by
  have hexpect : _expect_arguments
      [(.str (py "trial_id"), .str trial_id), (.str (py "root_seed"), .int root_seed)]
      [py "trial_id", py "root_seed"] = .ok () := rfl
  have hinteger : _integer
      [(.str (py "trial_id"), .str trial_id), (.str (py "root_seed"), .int root_seed)]
      "root_seed" = .ok root_seed := rfl
  show (_expect_arguments _ _ >>= fun _ => _string _ "trial_id" >>= fun trial_id =>
    _integer _ "root_seed" >>= fun root_seed =>
      runtime.begin_trial trial_id root_seed >>= fun s => pure s.to_dict) = _
  rw [hexpect, _string_of h rfl, hinteger]
  show (runtime.begin_trial trial_id root_seed >>= fun s => pure s.to_dict) = _
  cases runtime.begin_trial trial_id root_seed <;> rfl

section Issued

variable {command : ControlCommand} {values : List ControlArgument} {op : Op}

theorem Issued.names (h : Issued command values op) :
    (Component.control command (values.map ControlArgument.value)).op = some op := by
  cases h <;> rfl

/-- **The dispatcher carries a call of the orchestrator out**: it takes the
arguments, and calls the method the call names. -/
theorem Issued.dispatch (h : Issued command values op) (runtime : ControlRuntime) :
    ∃ args, _command_arguments command.value values = .ok args ∧
      ControlDispatcher._dispatch runtime ⟨command.value, args⟩ = runtime.perform op := by
  cases h with
  | status => exact ⟨[], rfl, dispatch_plain runtime.status⟩
  | open_session => exact ⟨[], rfl, dispatch_plain runtime.open_session⟩
  | end_trial => exact ⟨[], rfl, dispatch_plain runtime.end_trial⟩
  | prepare_skill hs => exact ⟨_, _command_arguments_text rfl (by decide), dispatch_string hs rfl rfl⟩
  | close_session hs => exact ⟨_, _command_arguments_text rfl (by decide), dispatch_string hs rfl rfl⟩
  | abort hs => exact ⟨_, _command_arguments_text rfl (by decide), dispatch_string hs rfl rfl⟩
  | @begin_trial trial_id root_seed hs =>
      let args : Dict :=
        [(.str (py "trial_id"), .str trial_id), (.str (py "root_seed"), .int root_seed)]
      have hroot : args.get? "root_seed" = some (.int root_seed) := rfl
      have hseed : args.get? "seed" = none := rfl
      refine ⟨args, _command_arguments_ok rfl rfl rfl ?_, dispatch_begin_trial hs runtime⟩
      intro name hname value hvalue
      rcases List.mem_pair.mp hname with rfl | rfl
      · cases hvalue.symm.trans hroot
        rfl
      · cases hvalue.symm.trans hseed

/-- **The reply is what the dispatcher answers**, if the methods of the runtime do
what the call comes to. -/
theorem Issued.reply (h : Issued command values op) (d : ControlDispatcher)
    {runtime : ControlRuntime} {out : Except Exn Result}
    (hout : runtime.perform op = out.map Result.to_dict) :
    ∃ args, _command_arguments command.value values = .ok args ∧
      controlReply d command out = clientReply d command.value
        (ControlDispatcher.outcome runtime (.map (controlPayload command.value args))).2 := by
  obtain ⟨args, hargs, hdispatch⟩ := h.dispatch runtime
  refine ⟨args, hargs, ?_⟩
  unfold ControlDispatcher.outcome controlReply
  rw [Exchange.parse_controlPayload command.value_mem]
  simp only [hdispatch, hout]

end Issued

/-! ## §4. The request of the edge. -/

theorem _required_string_of {d : Dict} {name : String} {s : PyStr} (hs : s.isEmpty = false)
    (hitem : d.getItem name = .ok (.str s)) : _required_string d name = .ok s := by
  unfold _required_string
  rw [hitem]
  exact if_neg (by rw [hs]; exact Bool.false_ne_true)

theorem _required_integer_of {d : Dict} {name : String} {i minimum : Int} (hi : minimum ≤ i)
    (hitem : d.getItem name = .ok (.int i)) : _required_integer d name minimum = .ok i := by
  unfold _required_integer
  rw [hitem]
  exact if_neg (Int.not_lt.mpr hi)

theorem TRIAL_ID_PATTERN.nonempty {text : PyStr} (h : TRIAL_ID_PATTERN text = true) :
    text.isEmpty = false := by
  cases text with
  | nil => cases h
  | cons => rfl

theorem IsToken.nonempty {token : PyStr} (h : IsToken token) : token.isEmpty = false := by
  cases token with
  | nil => exact absurd h.2.1 (by decide)
  | cons => rfl

theorem IsSessionId.nonempty {session_id : PyStr} (h : IsSessionId session_id) :
    session_id.isEmpty = false := by
  cases session_id with
  | nil => exact absurd h.length (by decide)
  | cons => rfl

/-- The envelope the edge makes of a session, as the runtime has it. -/
def grantedPayload (grant : SessionGrant) (sequence : Nat) (sent_at : Int) (observation : Dict) :
    Dict :=
  requestPayload (.str grant.session_id) (.str grant.session_token) (.str grant.trial_id)
    (.str grant.skill) (.int grant.generation) (py "infer") sequence sent_at (.map observation)

/-- The request in it. -/
def grantedRequest (grant : SessionGrant) (sequence : Nat) (sent_at : Int) (observation : Dict) :
    InferenceRequest :=
  { protocol_version := PROTOCOL_VERSION
    session_id := grant.session_id
    session_token := grant.session_token
    trial_id := grant.trial_id
    request_kind := .INFER
    expected_skill := grant.skill
    expected_generation := grant.generation
    sequence := sequence
    sent_at_monotonic_ns := sent_at
    observation := observation }

/-- A grant as the runtime makes it in a trial. -/
structure SessionGrant.Proper (grant : SessionGrant) : Prop where
  session_id : IsSessionId grant.session_id
  session_token : IsToken grant.session_token
  trial_id : TRIAL_ID_PATTERN grant.trial_id = true
  skill : grant.skill ∈ FIXED_SKILL_ORDER
  generation : 1 ≤ grant.generation

theorem FIXED_SKILL_ORDER_nonempty : ∀ s ∈ FIXED_SKILL_ORDER, s.isEmpty = false := by decide

theorem FIXED_SKILL_ORDER_isAscii : ∀ s ∈ FIXED_SKILL_ORDER, s.isAscii = true ∧ s.length ≤ 128 := by
  decide

/-- **The server parses what the edge sends.** -/
theorem parse_grantedPayload {repr_fits : Value → Bool} {grant : SessionGrant} (h : grant.Proper)
    (sequence : Nat) {sent_at : Int} (hsent : 0 ≤ sent_at) (observation : Dict) :
    InferenceRequest.parse repr_fits (.map (grantedPayload grant sequence sent_at observation)) =
      .ok (grantedRequest grant sequence sent_at observation) := by
  have hfields : checkRequestFields (grantedPayload grant sequence sent_at observation) =
      .ok () := by
    have hkeys : (grantedPayload grant sequence sent_at observation).keys =
        REQUIRED_REQUEST_FIELDS.map .str := rfl
    unfold checkRequestFields
    rw [hkeys]
    rfl
  have hheader : checkRequestHeader (grantedPayload grant sequence sent_at observation) =
      .ok PROTOCOL_VERSION := rfl
  have hgeneration : (1 : Int) ≤ grant.generation := Int.ofNat_le.mpr h.generation
  unfold InferenceRequest.parse
  simp only
  rw [hfields]
  refine bind_ok.mpr ⟨(), rfl, ?_⟩
  rw [hheader]
  refine bind_ok.mpr ⟨_, rfl, ?_⟩
  unfold parseRequestFields
  rw [_required_string_of h.session_id.nonempty rfl, _required_string_of h.session_token.nonempty rfl,
    _required_string_of (TRIAL_ID_PATTERN.nonempty h.trial_id) rfl,
    _required_string_of (FIXED_SKILL_ORDER_nonempty _ h.skill) rfl,
    _required_integer_of hgeneration rfl, _required_integer_of (Int.natCast_nonneg sequence) rfl,
    _required_integer_of hsent rfl]
  simp only [bind, Except.bind, h.session_id.uuid, h.session_token.length, h.trial_id]
  rfl

/-- An integer of a sendable envelope can be delivered. -/
theorem sendable_int {payload : Dict} (h : sendable payload = true) {k : Key} {i : Int}
    (hmem : (k, Value.int i) ∈ payload) : DeliveredInt i := by
  have hint := List.all_eq_true.mp h _ hmem
  simp only [Bool.and_eq_true, decide_eq_true_eq] at hint
  exact hint

theorem deliveredText_of_isAscii {s : PyStr} (h : s.isAscii = true) (hlength : s.length ≤ 128) :
    DeliveredText s := by
  refine ⟨PyStr.encodable_of_isAscii h, ?_⟩
  rw [length_utf8Bytes_of_isAscii h]
  have hmax : MAX_FRAME_BYTES = 67108864 := rfl
  omega

theorem TRIAL_ID_PATTERN.length {text : PyStr} (h : TRIAL_ID_PATTERN text = true) :
    text.length ≤ 128 := by
  cases text with
  | nil => cases h
  | cons c cs =>
      simp only [TRIAL_ID_PATTERN, Bool.and_eq_true, decide_eq_true_eq] at h
      rw [List.length_cons]
      omega

/-- The mapping that identifies a request of the edge has a hash. -/
theorem grantedRequest_hash {lib : Library} {np : ArrayMath} {sha256 : List UInt8 → Digest}
    {limit : Nat} {repr_fits : Value → Bool} (hsha : ∀ b, (sha256 b).length = 32)
    (hlimit : 2 ≤ limit) {grant : SessionGrant} (h : grant.Proper) {sequence : Nat} {sent_at : Int} {observation : Dict}
    (hsend : sendable (grantedPayload grant sequence sent_at observation) = true) {d : Digest}
    (hd : (serverNumerics lib np sha256 limit repr_fits).stable_tree_hash (.map observation) =
      .ok d) :
    ∃ h, (serverNumerics lib np sha256 limit repr_fits).stable_tree_hash (.map
      (PolicyRuntime.requestHashFields (grantedRequest grant sequence sent_at observation) d)) =
        .ok h := by
  have hskill := FIXED_SKILL_ORDER_isAscii _ h.skill
  have hid : grant.session_id.length ≤ 128 := by
    rw [h.session_id.length]
    decide
  have hgeneration : DeliveredInt grant.generation :=
    sendable_int (k := .str (py "expected_generation")) hsend
      (by simp [grantedPayload, requestPayload])
  have hsequence : DeliveredInt sequence :=
    sendable_int (k := .str (py "sequence")) hsend (by simp [grantedPayload, requestPayload])
  refine request_hash_total hlimit ?_ (hash_length hsha hd)
  exact
    { protocol_version := (show DeliveredInt 1 from ⟨by decide, by decide⟩)
      session_id := deliveredText_of_isAscii h.session_id.ascii hid
      trial_id := deliveredText_of_isAscii (TRIAL_ID_PATTERN.isAscii h.trial_id)
        (TRIAL_ID_PATTERN.length h.trial_id)
      expected_skill := deliveredText_of_isAscii hskill.1 hskill.2
      expected_generation := hgeneration
      sequence := hsequence }

end OvenRuntime
