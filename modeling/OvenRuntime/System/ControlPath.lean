/-
  OvenRuntime.System.ControlPath
  ──────────────────────────────
  A control command from `SshControlClient.call` through the command line
  program and the socket to the dispatcher, and back.

  A response of the dispatcher names the command and the server, and the edge
  takes its result or its error code over.  A fault the command line program
  raises itself is printed without either, and one raised before the dispatcher
  runs is sent under the command "unknown"; the edge reports both as faults of
  its own (`error_codes_survive_iff`).
-/
import OvenRuntime.Server.ControlRules
import OvenRuntime.Edge.ControlClient
import Mathlib.Data.Rat.Encodable

namespace OvenRuntime

/-! ## §1. One command. -/

/-- A call of the client, and what happens below it while it runs. -/
structure Exchange where
  command : PyStr
  values : List ControlArgument
  /-- What the runtime does when it is called. -/
  runtime : ControlRuntime
  /-- The server gets the request in time. -/
  in_time : Bool
  io : SocketIo

namespace Exchange

variable (num : FloatText) (d : ControlDispatcher)

/-- The bytes the server writes for those it receives. -/
def server (x : Exchange) : List UInt8 → List UInt8 :=
  UnixControlServer._handle_connection num d x.runtime x.in_time

/-- The guarded part of the command line program on the text of a request. -/
def cli (x : Exchange) (request : PyStr) : Except Exn Dict :=
  ControlCli.respond num (control_exchange num x.io (x.server num d)) (utf8Bytes request)

/-- `ssh` runs the program on the text and hands its output over. -/
def ssh (x : Exchange) (request : PyStr) : Completed :=
  let r := ControlCli.main num (control_exchange num x.io (x.server num d)) (utf8Bytes request)
  .completed r.1 r.2

/-- `call`. -/
def call (x : Exchange) (client : SshControlClient) : CallResult × SshControlClient :=
  client.call num x.command x.values (x.ssh num d)

/-- The bytes that reach the server. -/
def sent (x : Exchange) (request : PyStr) : Except Exn (List UInt8) := do
  let payload ← ControlCli.readStdin num (utf8Bytes request)
  sendRequest num x.io payload

/-- A fault ends the command: the command line program raises it, or it gets a
response that was made of it. -/
def EndsWith (x : Exchange) (f : RuntimeFault) : Prop :=
  ∃ request, controlText num x.command x.values = .ok request ∧
    (x.cli num d request = .error (.fault f) ∨
      (x.cli num d request).isOk = true ∧ ∃ received, x.sent num request = .ok received ∧
        (UnixControlServer.outcome num x.runtime x.in_time received).2 = .error f)

/-- The dispatcher returns a result. -/
def Returns (x : Exchange) (result : Dict) : Prop :=
  ∃ request received, controlText num x.command x.values = .ok request ∧
    x.sent num request = .ok received ∧
    (UnixControlServer.outcome num x.runtime x.in_time received).2 = .ok result

/-- **What the path has to keep**: the code of a fault that ends the command,
and the result of the dispatcher. -/
def Survives (x : Exchange) (client : SshControlClient) : Prop :=
  (∀ f, x.EndsWith num d f → (x.call num d client).1.RaisesCode f.code) ∧
  ∀ result, x.Returns num result → ∃ payload, (x.call num d client).1 = .returned payload ∧
    Dict.get? payload "result" = some (.map result)

/-- A response can be printed and encoded, and it arrives. -/
def ResponseArrives (io : SocketIo) (response : Dict) : Prop :=
  ∃ text, dumps num false (.map response) = .ok text ∧ text.encodable = true ∧ Arrives io text

/-- Nothing fails between the edge and the dispatcher: the request fits its
frame, the socket works, the server gets the request in time, and the response
arrives. -/
def Clear (x : Exchange) : Prop :=
  ∀ request, controlText num x.command x.values = .ok request →
    request.length + 1 ≤ MAX_CONTROL_FRAME_BYTES ∧
    x.io.connects = true ∧ x.io.sends = true ∧ x.in_time = true ∧
    let r := UnixControlServer.outcome num x.runtime true (utf8Bytes (request ++ py "\n"))
    ResponseArrives num x.io (d._response r.1 r.2)

/-! ## §2. The request. -/

/-- The table of arguments agrees with the commands of the dispatcher. -/
theorem command_table : ∀ e ∈ COMMAND_ARGUMENTS, e.1 ∈ CONTROL_COMMANDS ∧
    e.1.all CodePoint.isPlain = true ∧ (e.2.map fun name => Key.str (py name)).Nodup ∧
    ∀ name ∈ e.2, (py name).all CodePoint.isPlain = true := by
  decide +kernel

theorem mem_of_lookup {α β : Type} [BEq α] [LawfulBEq α] {k : α} {v : β} {es : List (α × β)}
    (h : es.lookup k = some v) : (k, v) ∈ es := by
  induction es with
  | nil => cases h
  | cons e es ih =>
      by_cases hk : k = e.1
      · rw [Dictionary.lookup_cons_self e es hk] at h
        rw [hk, ← Option.some_inj.mp h]
        exact List.mem_cons_self ..
      · rw [Dictionary.lookup_cons_of_ne e es hk] at h
        exact List.mem_cons_of_mem _ (ih h)

variable {num : FloatText} {d : ControlDispatcher}

theorem reprints_argument (a : ControlArgument) : a.value.Reprints num := by
  cases a with
  | str s => exact reprints_str s
  | int i =>
      refine ⟨rfl, ?_⟩
      show (pyInt i).isAscii = true
      cases i with
      | ofNat n => exact isAscii_of_digits fun c => isDigit_of_mem_pyNat
      | negSucc n =>
          show PyStr.isAscii (py "-" ++ pyNat (n + 1)) = true
          rw [PyStr.isAscii_append, isAscii_of_digits fun c => isDigit_of_mem_pyNat]
          rfl
  | bool b =>
      cases b with
      | false => exact ⟨rfl, rfl⟩
      | true => exact ⟨rfl, rfl⟩

/-- What is known of an accepted command. -/
structure Accepted (num : FloatText) (command : PyStr) (args : Dict) (request : PyStr) : Prop where
  command_mem : command ∈ CONTROL_COMMANDS
  plain : command.all CodePoint.isPlain = true
  printable : (Value.map (controlPayload command args)).jsonError = none
  text : (Value.map (controlPayload command args)).jsonText num true = request
  reprints : (Value.map (controlPayload command args)).Reprints num

theorem payload_keys (command : PyStr) (args : Dict) :
    ((controlPayload command args).map Prod.fst).Nodup ∧ PlainKeys (controlPayload command args) := by
  unfold controlPayload
  constructor
  · show ([.str (py "protocol_version"), .str (py "command"), .str (py "arguments")]
      : List Key).Nodup
    decide
  · unfold PlainKeys
    rw [List.forall_mem_cons, List.forall_mem_cons, List.forall_mem_cons]
    exact ⟨⟨_, rfl, by decide⟩, ⟨_, rfl, by decide⟩, ⟨_, rfl, by decide⟩,
      fun e he => absurd he (List.not_mem_nil)⟩

theorem accepted_of_text {command : PyStr} {values : List ControlArgument} {request : PyStr}
    (h : controlText num command values = .ok request) :
    ∃ args, Accepted num command args request := by
  unfold controlText at h
  obtain ⟨args, hargs, h⟩ := bind_ok.mp h
  have hdumps : dumps num true (.map (controlPayload command args)) = .ok request := by
    split at h
    · cases h
    · rename_i text htext
      rw [htext]
      cases h
      rfl
  rw [dumps_ok] at hdumps
  unfold _command_arguments at hargs
  split at hargs
  · cases hargs
  rename_i expected hexpected
  obtain ⟨hcommand, hplain, hnodup, hnames⟩ := command_table _ (mem_of_lookup hexpected)
  split at hargs
  · cases hargs
  rename_i hlength
  rw [not_not] at hlength
  simp only at hargs
  split at hargs
  swap
  · cases hargs
  have hentries : args = (expected.zip values).map fun e => (.str (py e.1), e.2.value) :=
    (Except.ok.inj hargs).symm
  have hargkeys : args.map Prod.fst = expected.map fun name => Key.str (py name) := by
    rw [hentries, List.map_map]
    show (expected.zip values).map ((fun name => Key.str (py name)) ∘ Prod.fst) = _
    rw [← List.map_map, List.map_fst_zip (by omega)]
  have hargplain : PlainKeys args := by
    intro e he
    rw [hentries] at he
    obtain ⟨p, hp, rfl⟩ := List.mem_map.mp he
    exact ⟨py p.1, rfl, hnames _ (List.of_mem_zip hp).1⟩
  have hargs : (Value.map args).Reprints num := by
    refine reprints_map (hargkeys ▸ hnodup) hargplain ?_
    intro e he
    rw [hentries] at he
    obtain ⟨p, -, rfl⟩ := List.mem_map.mp he
    exact reprints_argument p.2
  refine ⟨args, hcommand, hplain, hdumps.1, hdumps.2, ?_⟩
  obtain ⟨hkeys, hkeysplain⟩ := payload_keys command args
  refine reprints_map hkeys hkeysplain ?_
  unfold controlPayload
  rw [List.forall_mem_cons, List.forall_mem_cons, List.forall_mem_cons]
  exact ⟨⟨rfl, rfl⟩, reprints_str command, hargs, fun e he => absurd he (List.not_mem_nil)⟩

/-- The payload of a request is read as a payload of the same command. -/
theorem reload_controlPayload {command : PyStr} (hplain : command.all CodePoint.isPlain = true)
    (args : Dict) : (Value.map (controlPayload command args)).reload true
      = .map (controlPayload command (Dict.ofEntries (reloadEntries true args))) := by
  obtain ⟨hkeys, hkeysplain⟩ := payload_keys command args
  rw [reload_map_plain hkeys hkeysplain]
  show Value.map [(.str (py "protocol_version"), .int PROTOCOL_VERSION),
    (.str (py "command"), .str (reloadStr true command)),
    (.str (py "arguments"), .map (Dict.ofEntries (reloadEntries true args)))] = _
  rw [reloadStr_of_plain hplain]
  rfl

/-- The dispatcher parses it. -/
theorem parse_controlPayload {command : PyStr} (h : command ∈ CONTROL_COMMANDS) (args : Dict) :
    ControlRequest.parse (.map (controlPayload command args))
      = .ok { command := command, arguments := args } := by
  have hfields : expectFields "control request is missing required fields"
      "control request contains unexpected fields"
      [py "protocol_version", py "command", py "arguments"] (controlPayload command args)
      = .ok () := by
    unfold expectFields
    have hkeys : (controlPayload command args).keys
        = [.str (py "protocol_version"), .str (py "command"), .str (py "arguments")] := rfl
    rw [hkeys]
    exact eq_ok_of_toOption (by decide +kernel)
  rw [ControlRequest.parse, hfields]
  show (if command ∉ CONTROL_COMMANDS then _ else _) = _
  rw [if_neg (not_not.mpr h)]
  rfl

/-- The program reads the request, and what it sends on is the same text. -/
theorem sent_eq (x : Exchange) {args : Dict} {request : PyStr}
    (h : Accepted num x.command args request)
    (hlength : request.length ≤ MAX_CONTROL_FRAME_BYTES) :
    x.sent num request =
      if MAX_CONTROL_FRAME_BYTES < request.length + 1 then
        .error (fault .FRAME_TOO_LARGE "control request exceeds its framing limit")
      else if !(x.io.connects && x.io.sends) then
        .error (fault .CONTROL_SERVER_UNAVAILABLE "cannot communicate with local control server")
      else .ok (utf8Bytes (request ++ py "\n")) := by
  have hascii : request.isAscii = true := h.text ▸ h.reprints.2
  have hbytes := length_utf8Bytes_of_isAscii hascii
  have hencodable := PyStr.encodable_of_isAscii hascii
  have hread : ControlCli.readStdin num (utf8Bytes request)
      = .ok ((Value.map (controlPayload x.command args)).reload true) := by
    have hloads : loads num request
        = .ok ((Value.map (controlPayload x.command args)).reload true) := by
      rw [← h.text, ← List.append_nil (Value.jsonText num true _)]
      exact loads_text h.printable (Or.inl rfl)
    unfold ControlCli.readStdin
    rw [List.take_of_length_le (by omega)]
    simp only
    rw [if_neg (by omega), loadsBytes_utf8Bytes hencodable, hloads]
  have hdumps : dumps num true ((Value.map (controlPayload x.command args)).reload true)
      = .ok request := by
    rw [dumps_ok]
    exact ⟨jsonError_reload true _ h.printable, h.reprints.1.trans h.text⟩
  have hline : (utf8Bytes (request ++ py "\n")).length = request.length + 1 := by
    rw [utf8Bytes_line, List.length_append, hbytes]
    rfl
  unfold sent
  rw [hread]
  show sendRequest num x.io ((Value.map (controlPayload x.command args)).reload true) = _
  unfold sendRequest
  rw [hdumps]
  simp only [hline]

theorem sent_ok (x : Exchange) {args : Dict} {request : PyStr}
    (h : Accepted num x.command args request)
    (hfits : request.length + 1 ≤ MAX_CONTROL_FRAME_BYTES) (hconnects : x.io.connects = true)
    (hsends : x.io.sends = true) : x.sent num request = .ok (utf8Bytes (request ++ py "\n")) := by
  rw [sent_eq x h (by omega), if_neg (by omega), hconnects, hsends]
  rfl

/-- The program sends the request and reads the response. -/
theorem cli_eq (x : Exchange) (request : PyStr) :
    x.cli num d request
      = x.sent num request >>= fun encoded => readResponse num x.io (x.server num d encoded) := by
  unfold cli ControlCli.respond sent control_exchange
  rw [bind_assoc]

/-- The server reads the request in time and hands it to the dispatcher. -/
theorem outcome_line {command : PyStr} {args : Dict} {request : PyStr}
    (h : Accepted num command args request)
    (hfits : request.length + 1 ≤ MAX_CONTROL_FRAME_BYTES) (runtime : ControlRuntime) :
    UnixControlServer.outcome num runtime true (utf8Bytes (request ++ py "\n"))
      = (command, (ControlDispatcher._dispatch runtime
          { command := command, arguments := Dict.ofEntries (reloadEntries true args) }).mapError
            (ControlDispatcher.asFault "control command failed inside the server")) := by
  have hascii : request.isAscii = true := h.text ▸ h.reprints.2
  have hbytes := length_utf8Bytes_of_isAscii hascii
  have hline : OneLine request := h.text ▸ oneLine_text num true _
  have hloads : loads num (request ++ py "\n")
      = .ok (.map (controlPayload command (Dict.ofEntries (reloadEntries true args)))) := by
    rw [← reload_controlPayload h.plain, ← h.text]
    exact loads_text h.printable (Or.inr rfl)
  have hread := readPayload_line (PyStr.encodable_of_isAscii hascii) hline (by omega) hloads
  unfold UnixControlServer.outcome
  rw [hread]
  show ControlDispatcher.outcome runtime _ = _
  unfold ControlDispatcher.outcome
  rw [parse_controlPayload h.command_mem]

/-! ## §3. The response. -/

/-- The entries of a response to a result. -/
theorem response_ok (command : PyStr) (result : Dict) :
    d._response command (.ok result) =
      [(.str (py "protocol_version"), .int PROTOCOL_VERSION), (.str (py "ok"), .bool true),
       (.str (py "command"), .str command),
       (.str (py "server_instance_id"), .str d._server_instance_id),
       (.str (py "result"), .map result)] := rfl

/-- The details of a fault, as an entry. -/
def detailsEntry (f : RuntimeFault) : Dict :=
  if f.details = [] then []
  else [(.str (py "details"),
    .map (Dict.ofEntries (f.details.map fun e => (.str (py e.1), e.2))))]

/-- The entries of a response to a fault. -/
theorem response_error (command : PyStr) (f : RuntimeFault) :
    d._response command (.error f) =
      [(.str (py "protocol_version"), .int PROTOCOL_VERSION), (.str (py "ok"), .bool false),
       (.str (py "command"), .str command),
       (.str (py "server_instance_id"), .str d._server_instance_id),
       (.str (py "error_code"), .str (py f.code.value)),
       (.str (py "message"), .str (py f.message))] ++ detailsEntry f := by
  by_cases hdetails : f.details = []
  · have hentry : detailsEntry f = [] := if_pos hdetails
    have hdict : f.to_dict = [(.str (py "ok"), .bool false),
        (.str (py "error_code"), .str (py f.code.value)),
        (.str (py "message"), .str (py f.message))] := by
      unfold RuntimeFault.to_dict
      rw [if_pos hdetails]
      rfl
    unfold ControlDispatcher._response
    simp only [hdict, hentry, List.append_nil]
    rfl
  · have hentry : detailsEntry f = [(.str (py "details"),
        .map (Dict.ofEntries (f.details.map fun e => (.str (py e.1), e.2))))] := if_neg hdetails
    have hdict : f.to_dict = [(.str (py "ok"), .bool false),
        (.str (py "error_code"), .str (py f.code.value)),
        (.str (py "message"), .str (py f.message)), (.str (py "details"),
          .map (Dict.ofEntries (f.details.map fun e => (.str (py e.1), e.2))))] := by
      unfold RuntimeFault.to_dict
      rw [if_neg hdetails]
      rfl
    unfold ControlDispatcher._response
    simp only [hdict, hentry]
    rfl

/-- The keys of a response are distinct. -/
theorem response_nodup (command : PyStr) (r : Except RuntimeFault Dict) :
    ((d._response command r).map Prod.fst).Nodup := by
  cases r with
  | ok result =>
      rw [response_ok]
      show ([.str (py "protocol_version"), .str (py "ok"), .str (py "command"),
        .str (py "server_instance_id"), .str (py "result")] : List Key).Nodup
      decide
  | error f =>
      rw [response_error]
      unfold detailsEntry
      split
      · show ([.str (py "protocol_version"), .str (py "ok"), .str (py "command"),
          .str (py "server_instance_id"), .str (py "error_code"), .str (py "message")]
          : List Key).Nodup
        decide
      · show ([.str (py "protocol_version"), .str (py "ok"), .str (py "command"),
          .str (py "server_instance_id"), .str (py "error_code"), .str (py "message"),
          .str (py "details")] : List Key).Nodup
        decide

/-- The values of an object after one reading. -/
def reread (entries : Dict) : Dict := entries.map fun e => (e.1, e.2.reload false)

theorem reread_stable {entries : Dict} (h : ∀ e ∈ entries, e.2.Stable) :
    reread entries = entries := by
  have hentries : reread entries = entries.map id :=
    List.map_congr_left fun e he => by rw [h e he]; rfl
  rw [hentries, List.map_id]

/-- **What the program makes of a response**: it reads it, or raises a fault of
its own. -/
theorem cli_cases (x : Exchange) {args : Dict} {request : PyStr}
    (h : Accepted num x.command args request)
    (hfits : request.length + 1 ≤ MAX_CONTROL_FRAME_BYTES) (hconnects : x.io.connects = true)
    (hsends : x.io.sends = true) :
    let r := UnixControlServer.outcome num x.runtime x.in_time (utf8Bytes (request ++ py "\n"))
    (ResponseArrives num x.io (d._response r.1 r.2) ∧
      x.cli num d request = .ok (reread (d._response r.1 r.2))) ∨
    (¬ ResponseArrives num x.io (d._response r.1 r.2) ∧
      ∃ f, x.cli num d request = .error (.fault f) ∧ LocalFault f) := by
  have hsent := sent_ok x h hfits hconnects hsends
  have hcli : x.cli num d request
      = readResponse num x.io (x.server num d (utf8Bytes (request ++ py "\n"))) := by
    rw [cli_eq, hsent]
    rfl
  intro r
  rw [hcli]
  unfold server
  cases hdumps : dumps num false (.map (d._response r.1 r.2)) with
  | error e =>
      right
      rw [handle_connection_unprinted hdumps]
      refine ⟨?_, readResponse_fault (Or.inl rfl)⟩
      rintro ⟨text, htext, -⟩
      rw [hdumps] at htext
      cases htext
  | ok text =>
      have hprinted := dumps_ok.mp hdumps
      have hline : OneLine text := hprinted.2 ▸ oneLine_text num false _
      by_cases hencodable : text.encodable = true
      · have hencoded : encode_utf8 (text ++ py "\n") = .ok (utf8Bytes (text ++ py "\n")) :=
          encode_utf8_ok.mpr ⟨encodable_line hencodable, rfl⟩
        rw [handle_connection_encoded hdumps hencoded]
        by_cases harrives : Arrives x.io text
        · left
          refine ⟨⟨text, hdumps, hencodable, harrives⟩, ?_⟩
          refine readResponse_line hencodable hline harrives ?_
          rw [← hprinted.2]
          exact loads_map hprinted.1 (response_nodup r.1 r.2)
        · right
          refine ⟨?_, readResponse_fault (Or.inr ⟨utf8Bytes text,
            newline_notMem_utf8Bytes hline, utf8Bytes_line text, ?_⟩)⟩
          · rintro ⟨text', htext', -, harrives'⟩
            rw [hdumps] at htext'
            cases htext'
            exact harrives harrives'
          · unfold Arrives at harrives
            rw [not_and_or, not_le] at harrives
            apply harrives.elim
            · exact Or.inl
            · intro hbroken
              obtain ⟨n, hn⟩ := not_forall.mp hbroken
              rw [Classical.not_imp, not_le] at hn
              exact Or.inr ⟨n, hn⟩
      · have hencoded : ∃ e, encode_utf8 (text ++ py "\n") = .error e := by
          unfold encode_utf8
          rw [if_neg]
          · exact ⟨_, rfl⟩
          · intro henc
            rw [PyStr.encodable_append, Bool.and_eq_true] at henc
            exact hencodable henc.1
        obtain ⟨e, he⟩ := hencoded
        rw [handle_connection_unencoded hdumps he]
        right
        refine ⟨?_, readResponse_fault (Or.inl rfl)⟩
        rintro ⟨text', htext', henc, -⟩
        rw [hdumps] at htext'
        cases htext'
        exact hencodable henc

/-! ## §4. What the edge makes of it. -/

theorem reread_nodup {entries : Dict} (h : (entries.map Prod.fst).Nodup) :
    ((reread entries).map Prod.fst).Nodup := by
  unfold reread
  rw [List.map_map]
  exact h

/-- The edge validates what the program reports. -/
theorem handle_report (client : SshControlClient) (command : PyStr) {response : Dict}
    (hprintable : (Value.map response).jsonError = none)
    (hnodup : (response.map Prod.fst).Nodup) :
    client.handle num command
        (.completed (ControlCli.report num response).1 (ControlCli.report num response).2)
      = client.conclude (validate_control_response command (.map (reread response))) := by
  have hdumps : dumps num false (.map response)
      = .ok ((Value.map response).jsonText num false) := dumps_ok.mpr ⟨hprintable, rfl⟩
  obtain ⟨code, hcode, hreport⟩ : ∃ code : Int, (code = 0 ∨ code = 1) ∧
      ControlCli.report num response = (code, (Value.map response).jsonText num false ++ py "\n") := by
    unfold ControlCli.report
    rw [hdumps]
    simp only
    split
    · exact ⟨0, Or.inl rfl, rfl⟩
    · exact ⟨1, Or.inr rfl, rfl⟩
  rw [hreport]
  show (if code ≠ 0 ∧ code ≠ 1 then _ else _) = _
  rw [if_neg (by omega), loads_map hprintable hnodup]
  rfl

/-- A fault of the program itself is not taken over: its report names no
protocol version. -/
theorem handle_local (client : SshControlClient) (command : PyStr) {f : RuntimeFault}
    (h : LocalFault f) :
    client.handle num command
        (.completed (ControlCli.report num f.to_dict).1 (ControlCli.report num f.to_dict).2)
      = (.raised (fault .MISSING_REQUIRED_FIELD "control response is missing required fields"
          [("field", .str (py "protocol_version"))]), client) := by
  have hdict : f.to_dict = [(.str (py "ok"), .bool false),
      (.str (py "error_code"), .str (py f.code.value)),
      (.str (py "message"), .str (py f.message))] := by
    unfold RuntimeFault.to_dict
    rw [if_pos h.details]
    rfl
  have hnodup : (f.to_dict.map Prod.fst).Nodup := by
    rw [hdict]
    show ([.str (py "ok"), .str (py "error_code"), .str (py "message")] : List Key).Nodup
    decide
  have hprintable : (Value.map f.to_dict).jsonError = none := by
    rw [hdict]
    rfl
  rw [handle_report client command hprintable hnodup, hdict]
  rfl

/-- The answer to a fault of the server, after two readings. -/
theorem reread_error (command : PyStr) (f : RuntimeFault) :
    ∃ rest, (rest = [] ∨ ∃ v, rest = [(.str (py "details"), v)]) ∧
      reread (reread (d._response command (.error f))) =
        [(.str (py "protocol_version"), .int PROTOCOL_VERSION), (.str (py "ok"), .bool false),
         (.str (py "command"), .str command),
         (.str (py "server_instance_id"), .str d._server_instance_id),
         (.str (py "error_code"), .str (py f.code.value)),
         (.str (py "message"), .str (py f.message))] ++ rest := by
  refine ⟨reread (reread (detailsEntry f)), ?_, ?_⟩
  · unfold detailsEntry
    split
    · exact Or.inl rfl
    · exact Or.inr ⟨_, rfl⟩
  · rw [response_error]
    unfold reread
    rw [List.map_append, List.map_append]
    congr 1
    simp only [List.map_cons, List.map_nil, Value.reload, reloadStr_false]

/-- In a list whose images are distinct, an element is found by its image. -/
theorem find?_of_nodup {α β : Type} [DecidableEq β] (f : α → β) {l : List α} {a : α}
    (h : (l.map f).Nodup) (ha : a ∈ l) : l.find? (fun x => f x = f a) = some a := by
  induction l with
  | nil => cases ha
  | cons x l ih =>
      rw [List.map_cons, List.nodup_cons] at h
      rw [List.find?_cons]
      by_cases hx : f x = f a
      · have hxa : x = a := by
          apply (List.mem_cons.mp ha).elim
          · exact Eq.symm
          · exact fun hmem => absurd (hx ▸ List.mem_map_of_mem hmem) h.1
        rw [hxa, decide_eq_true rfl]
      · have hmem : a ∈ l := by
          apply (List.mem_cons.mp ha).elim
          · exact fun heq => absurd (congrArg f heq.symm) hx
          · exact id
        rw [decide_eq_false hx]
        exact ih h.2 hmem

theorem responseCode_value (code : ErrorCode) :
    responseCode (some (.str (py code.value))) = code := by
  have hnodup : (ErrorCode.members.map fun c => py c.value).Nodup := by decide +kernel
  unfold responseCode
  simp only
  rw [find?_of_nodup (fun c : ErrorCode => py c.value) hnodup code.mem_members]
  rfl

/-- What a response says of itself. -/
structure Names (payload : Dict) (name : PyStr) (ok : Bool) (instance_id : PyStr) : Prop where
  version : Dict.get? payload "protocol_version" = some (.int PROTOCOL_VERSION)
  ok : Dict.get? payload "ok" = some (.bool ok)
  command : Dict.get? payload "command" = some (.str name)
  server : Dict.get? payload "server_instance_id" = some (.str instance_id)

theorem Names.complete {payload : Dict} {name instance_id : PyStr} {ok : Bool}
    (h : Names payload name ok instance_id) :
    (RESPONSE_FIELDS.find? fun field => (Dict.get? payload field).isNone) = none := by
  unfold RESPONSE_FIELDS
  rw [List.find?_eq_none]
  simp only [List.forall_mem_cons]
  simp [h.version, h.ok, h.command, h.server]

theorem responseHead_names {payload : Dict} {command instance_id : PyStr} {ok : Bool}
    (h : Names payload command ok instance_id) (huuid : UUID instance_id = true) :
    responseHead command payload = .ok (ok, instance_id) := by
  have hcommand : (Value.str command).equalsStr command = true := decide_eq_true rfl
  unfold responseHead
  rw [h.complete]
  simp only [Dict.getItem, h.version, h.ok, h.command, h.server]
  show (if !(true && (Value.str command).equalsStr command) then _ else _) = _
  rw [hcommand]
  show (responseUuid (.str instance_id) >>= _) = _
  rw [show responseUuid (.str instance_id) = .ok instance_id from if_pos huuid]
  rfl

/-- **A response under another name is refused.** -/
theorem validate_mismatch {payload : Dict} {command name instance_id : PyStr} {ok : Bool}
    (h : Names payload name ok instance_id) (hname : name ≠ command) :
    validate_control_response command (.map payload) =
      .error (fault .RESPONSE_MISMATCH
        "control response identity does not match its request") := by
  have hcommand : (Value.str name).equalsStr command = false := decide_eq_false hname
  have hhead : responseHead command payload = .error (fault .RESPONSE_MISMATCH
      "control response identity does not match its request") := by
    unfold responseHead
    rw [h.complete]
    simp only [Dict.getItem, h.version, h.ok, h.command, h.server]
    show (if !(true && (Value.str name).equalsStr command) then _ else _) = _
    rw [hcommand]
    rfl
  rw [validate_control_response, hhead]
  rfl

theorem names_error (name : PyStr) (f : RuntimeFault) :
    Names (reread (reread (d._response name (.error f)))) name false d._server_instance_id := by
  obtain ⟨rest, -, hresponse⟩ := reread_error (d := d) name f
  rw [hresponse]
  exact ⟨rfl, rfl, rfl, rfl⟩

/-- **The code of a fault is taken over.** -/
theorem validate_error (command : PyStr) (f : RuntimeFault) :
    validate_control_response command (.map (reread (reread (d._response command (.error f)))))
      = .ok (d._server_instance_id, .failed f.code (py f.message)) := by
  have hbody : responseBody (reread (reread (d._response command (.error f)))) false
      = .ok (.failed f.code (py f.message)) := by
    obtain ⟨rest, hrest, hresponse⟩ := reread_error (d := d) command f
    rw [hresponse]
    have hallow : ∀ payload : Dict,
        payload.keys = [.str (py "protocol_version"), .str (py "ok"), .str (py "command"),
          .str (py "server_instance_id"), .str (py "error_code"), .str (py "message")] ++
          (if rest = [] then [] else [.str (py "details")]) →
        allowFields "control error response contains unexpected fields"
          ((RESPONSE_FIELDS ++ ["error_code", "message", "details"]).map py) payload = .ok () := by
      intro payload hkeys
      unfold allowFields
      rw [hkeys]
      by_cases hnone : rest = []
      · rw [if_pos hnone]
        exact eq_ok_of_toOption (by decide +kernel)
      · rw [if_neg hnone]
        exact eq_ok_of_toOption (by decide +kernel)
    rw [responseBody, hallow]
    · show Except.ok (ControlResponse.failed (responseCode (some (.str (py f.code.value)))) _) = _
      rw [responseCode_value]
      rfl
    · rcases hrest with rfl | ⟨v, rfl⟩
      · rfl
      · rfl
  have hhead := responseHead_names (names_error command f) d.is_uuid
  simp only [validate_control_response, hhead, bind, Except.bind, hbody]
  rfl

/-- **A result is taken over.** -/
theorem validate_result (command : PyStr) (result : Dict) :
    validate_control_response command (.map (d._response command (.ok result)))
      = .ok (d._server_instance_id, .result (d._response command (.ok result))) := by
  have hnames : Names (d._response command (.ok result)) command true d._server_instance_id :=
    ⟨rfl, rfl, rfl, rfl⟩
  have hallow : allowFields "control response contains unexpected fields"
      ((RESPONSE_FIELDS ++ ["result"]).map py) (d._response command (.ok result)) = .ok () := by
    have hkeys : (d._response command (.ok result)).keys = [.str (py "protocol_version"),
        .str (py "ok"), .str (py "command"), .str (py "server_instance_id"),
        .str (py "result")] := rfl
    unfold allowFields
    rw [hkeys]
    exact eq_ok_of_toOption (by decide +kernel)
  have hhead := responseHead_names hnames d.is_uuid
  have hbody : responseBody (d._response command (.ok result)) true
      = .ok (.result (d._response command (.ok result))) := by
    rw [responseBody, hallow]
    rfl
  simp only [validate_control_response, hhead, bind, Except.bind, hbody]
  rfl

/-! ## §5. A whole call. -/

/-- The client has not heard from another server. -/
def Known (d : ControlDispatcher) (client : SshControlClient) : Prop :=
  client._server_instance_id = none ∨ client._server_instance_id = some d._server_instance_id

/-- How the dispatcher, or the server before it, ends the command. -/
def answer (num : FloatText) (x : Exchange) (request : PyStr) : PyStr × Except RuntimeFault Dict :=
  UnixControlServer.outcome num x.runtime x.in_time (utf8Bytes (request ++ py "\n"))

/-- The request leaves, and the response arrives. -/
def Carried (num : FloatText) (d : ControlDispatcher) (x : Exchange) (request : PyStr) : Prop :=
  request.length + 1 ≤ MAX_CONTROL_FRAME_BYTES ∧ x.io.connects = true ∧ x.io.sends = true ∧
    ResponseArrives num x.io (d._response (x.answer num request).1 (x.answer num request).2)

/-- A request that is too long, or finds no server, is a fault of the program. -/
theorem cli_unsent (x : Exchange) {args : Dict} {request : PyStr}
    (h : Accepted num x.command args request)
    (hunsent : ¬ (request.length + 1 ≤ MAX_CONTROL_FRAME_BYTES ∧
      x.io.connects = true ∧ x.io.sends = true)) :
    ∃ f, x.cli num d request = .error (.fault f) ∧ LocalFault f := by
  have hsent : ∃ f, x.sent num request = .error (.fault f) ∧ LocalFault f := by
    by_cases hlong : MAX_CONTROL_FRAME_BYTES < request.length
    · -- the standard input exceeds its limit already
      have hbytes := length_utf8Bytes_of_isAscii (h.text ▸ h.reprints.2 : request.isAscii = true)
      refine ⟨_, ?_, localFault_tooLarge "stdin control request exceeds its framing limit"⟩
      unfold sent ControlCli.readStdin
      simp only
      rw [if_pos (by rw [List.length_take]; omega)]
      rfl
    · rw [sent_eq x h (by omega)]
      by_cases hfits : MAX_CONTROL_FRAME_BYTES < request.length + 1
      · rw [if_pos hfits]
        exact ⟨_, rfl, localFault_tooLarge _⟩
      · have hsocket : (!(x.io.connects && x.io.sends)) = true := by
          rw [Bool.not_eq_true', ← Bool.not_eq_true, Bool.and_eq_true]
          exact fun hio => hunsent ⟨by omega, hio⟩
        rw [if_neg hfits, if_pos hsocket]
        exact ⟨_, rfl, localFault_unavailable _⟩
  obtain ⟨f, hf, hlocal⟩ := hsent
  refine ⟨f, ?_, hlocal⟩
  rw [cli_eq, hf]
  rfl

/-- **A call is carried to the server and back, or the program raises a fault
of its own and the edge does not take it over.** -/
theorem call_cases (x : Exchange) (client : SshControlClient) {request : PyStr}
    (h : controlText num x.command x.values = .ok request) :
    (x.Carried num d request ∧
      (x.cli num d request).isOk = true ∧
      x.call num d client = client.conclude (validate_control_response x.command
        (.map (reread (reread (d._response (x.answer num request).1 (x.answer num request).2)))))) ∨
    (¬ x.Carried num d request ∧
      ∃ f, x.cli num d request = .error (.fault f) ∧ LocalFault f ∧
        x.call num d client = (.raised (fault .MISSING_REQUIRED_FIELD
          "control response is missing required fields"
          [("field", .str (py "protocol_version"))]), client)) := by
  obtain ⟨args, haccepted⟩ := accepted_of_text h
  have hcall : x.call num d client = client.handle num x.command (x.ssh num d request) := by
    unfold call SshControlClient.call
    rw [h]
  have hlocal : ∀ f, x.cli num d request = .error (.fault f) → LocalFault f →
      x.call num d client = (.raised (fault .MISSING_REQUIRED_FIELD
        "control response is missing required fields"
        [("field", .str (py "protocol_version"))]), client) := by
    intro f hf hfault
    rw [hcall, ← handle_local client x.command hfault]
    unfold ssh ControlCli.main
    rw [show ControlCli.respond num (control_exchange num x.io (x.server num d))
      (utf8Bytes request) = .error (.fault f) from hf]
  by_cases hsent : request.length + 1 ≤ MAX_CONTROL_FRAME_BYTES ∧
      x.io.connects = true ∧ x.io.sends = true
  · obtain ⟨hfits, hconnects, hsends⟩ := hsent
    apply (cli_cases (d := d) x haccepted hfits hconnects hsends).elim
    · rintro ⟨harrives, hcli⟩
      left
      refine ⟨⟨hfits, hconnects, hsends, harrives⟩, by rw [hcli]; rfl, ?_⟩
      obtain ⟨text, htext, -⟩ := harrives
      have hprintable : (Value.map (reread (d._response (x.answer num request).1
          (x.answer num request).2))).jsonError = none := by
        unfold reread
        rw [← reload_map (response_nodup _ _)]
        exact jsonError_reload false _ (dumps_ok.mp htext).1
      rw [hcall, ← handle_report client x.command hprintable (reread_nodup (response_nodup _ _))]
      unfold ssh ControlCli.main
      rw [show ControlCli.respond num (control_exchange num x.io (x.server num d))
        (utf8Bytes request) = .ok _ from hcli]
      rfl
    · rintro ⟨hmissing, f, hf, hfault⟩
      right
      exact ⟨fun hcarried => hmissing hcarried.2.2.2, f, hf, hfault, hlocal f hf hfault⟩
  · right
    obtain ⟨f, hf, hfault⟩ := cli_unsent (d := d) x haccepted hsent
    exact ⟨fun hcarried => hsent ⟨hcarried.1, hcarried.2.1, hcarried.2.2.1⟩, f, hf, hfault,
      hlocal f hf hfault⟩

/-- What the edge raises when the call is not carried. -/
theorem call_lost {x : Exchange} {client : SshControlClient} {request : PyStr}
    (h : controlText num x.command x.values = .ok request) (hlost : ¬ x.Carried num d request) :
    (x.call num d client).1 = .raised (fault .MISSING_REQUIRED_FIELD
      "control response is missing required fields" [("field", .str (py "protocol_version"))]) := by
  apply (call_cases (d := d) x client h).elim
  · exact fun hcarried => absurd hcarried.1 hlost
  · rintro ⟨-, f, -, -, hcall⟩
    rw [hcall]

/-! ## §6. What survives. -/

/-- The answer of the dispatcher is under the name of the command. -/
theorem answer_in_time {x : Exchange} {request : PyStr} (h : x.in_time = true)
    (htext : controlText num x.command x.values = .ok request)
    (hfits : request.length + 1 ≤ MAX_CONTROL_FRAME_BYTES) :
    (x.answer num request).1 = x.command ∧
      ∀ result, (x.answer num request).2 = .ok result → (Value.map result).Stable := by
  obtain ⟨args, haccepted⟩ := accepted_of_text htext
  unfold answer
  rw [h, outcome_line haccepted hfits]
  refine ⟨rfl, ?_⟩
  intro result hresult
  cases hdispatch : ControlDispatcher._dispatch x.runtime
      { command := x.command, arguments := Dict.ofEntries (reloadEntries true args) } with
  | error e =>
      rw [hdispatch] at hresult
      cases hresult
  | ok r =>
      rw [hdispatch] at hresult
      cases hresult
      exact stable_dispatch hdispatch

/-- A request that comes too late is answered under another name. -/
theorem answer_late {x : Exchange} (request : PyStr) (h : x.in_time = false) :
    x.answer num request = (py "unknown", .error
      { code := .SERVER_FAILED, message := "control server failed to process request" }) := by
  unfold answer UnixControlServer.outcome
  rw [h, readPayload_late]
  rfl

/-- The code of an answer that is a fault is raised. -/
theorem conclude_error (client : SshControlClient) (command : PyStr) (f : RuntimeFault) :
    client.conclude (validate_control_response command
        (.map (reread (reread (d._response command (.error f))))))
      = (.remote f.code (py f.message), client) := by
  rw [validate_error]
  rfl

/-- A result is returned, and the client has heard from this server. -/
theorem conclude_result {client : SshControlClient} (hknown : Known d client) (command : PyStr)
    {result : Dict} (hstable : (Value.map result).Stable) :
    client.conclude (validate_control_response command
        (.map (reread (reread (d._response command (.ok result))))))
      = (.returned (d._response command (.ok result)),
          { client with _server_instance_id := some d._server_instance_id }) := by
  have hreread : reread (d._response command (.ok result)) = d._response command (.ok result) := by
    apply reread_stable
    rw [response_ok]
    simp only [List.forall_mem_cons]
    exact ⟨rfl, rfl, stable_str _, stable_str _, hstable,
      fun e he => absurd he List.not_mem_nil⟩
  rw [hreread, hreread, validate_result]
  unfold SshControlClient.conclude
  apply hknown.elim
  · intro hnone
    rw [hnone]
  · intro hsome
    rw [hsome]
    simp only [ne_eq, not_true_eq_false, if_false]
    rw [← hsome]

/-- An answer under another name is refused. -/
theorem conclude_late (client : SshControlClient) {command : PyStr}
    (hcommand : command ∈ CONTROL_COMMANDS) (f : RuntimeFault) :
    client.conclude (validate_control_response command
        (.map (reread (reread (d._response (py "unknown") (.error f))))))
      = (.raised (fault .RESPONSE_MISMATCH
          "control response identity does not match its request"), client) := by
  have hname : py "unknown" ≠ command := by
    rintro rfl
    exact absurd hcommand (by decide +kernel)
  rw [validate_mismatch (names_error (py "unknown") f) hname]
  rfl

/-- **A client keeps to its server**: one call, whatever happens to it. -/
theorem known_call (x : Exchange) {client : SshControlClient} (hknown : Known d client) :
    Known d (x.call num d client).2 := by
  cases htext : controlText num x.command x.values with
  | error e =>
      have hcall : x.call num d client = (.raised e, client) := by
        unfold call SshControlClient.call
        rw [htext]
      rw [hcall]
      exact hknown
  | ok request =>
      apply (call_cases (d := d) x client htext).elim
      · rintro ⟨⟨hfits, -⟩, -, hcall⟩
        rw [hcall]
        cases htime : x.in_time with
        | false =>
            obtain ⟨args, haccepted⟩ := accepted_of_text htext
            rw [answer_late request htime, conclude_late client haccepted.command_mem]
            exact hknown
        | true =>
            obtain ⟨hname, hstable⟩ := answer_in_time htime htext hfits
            rw [hname]
            cases hanswer : (x.answer num request).2 with
            | error f =>
                rw [conclude_error]
                exact hknown
            | ok result =>
                rw [conclude_result hknown x.command (hstable result hanswer)]
                exact Or.inr rfl
      · rintro ⟨-, f, -, -, hcall⟩
        rw [hcall]
        exact hknown

/-- The client after its calls, all to one server. -/
def after (num : FloatText) (d : ControlDispatcher) (calls : List Exchange) : SshControlClient :=
  calls.foldl (fun client x => (x.call num d client).2) {}

/-- **A client keeps to its server** over any run of calls. -/
theorem known_after (calls : List Exchange) : Known d (after num d calls) := by
  induction calls using List.reverseRecOn with
  | nil => exact Or.inl rfl
  | append_singleton calls x ih =>
      unfold after at ih ⊢
      rw [List.foldl_append]
      exact known_call x ih

/-- A call over a clear path keeps the code or the result. -/
theorem survives_of_clear {x : Exchange} {client : SshControlClient} (hknown : Known d client)
    (hclear : x.Clear num d) : x.Survives num d client := by
  -- what a clear path makes of an accepted command
  have hpath : ∀ request, controlText num x.command x.values = .ok request →
      x.sent num request = .ok (utf8Bytes (request ++ py "\n")) ∧
      (x.cli num d request).isOk = true ∧ (x.answer num request).1 = x.command ∧
      (∀ result, (x.answer num request).2 = .ok result → (Value.map result).Stable) ∧
      x.call num d client = client.conclude (validate_control_response x.command
        (.map (reread (reread (d._response x.command (x.answer num request).2))))) := by
    intro request htext
    obtain ⟨args, haccepted⟩ := accepted_of_text htext
    obtain ⟨hfits, hconnects, hsends, htime, harrives⟩ := hclear request htext
    obtain ⟨hname, hstable⟩ := answer_in_time htime htext hfits
    have hcarried : x.Carried num d request := by
      refine ⟨hfits, hconnects, hsends, ?_⟩
      unfold answer
      rw [htime]
      exact harrives
    refine ⟨sent_ok x haccepted hfits hconnects hsends, ?_⟩
    apply (call_cases (d := d) x client htext).elim
    · rintro ⟨-, hcli, hcall⟩
      rw [hname] at hcall
      exact ⟨hcli, hname, hstable, hcall⟩
    · exact fun hlost => absurd hcarried hlost.1
  constructor
  · rintro f ⟨request, htext, hends⟩
    obtain ⟨hsent, hcli, -, -, hcall⟩ := hpath request htext
    have hanswer : (x.answer num request).2 = .error f := by
      apply hends.elim
      · intro herror
        rw [herror] at hcli
        cases hcli
      · rintro ⟨-, received, hreceived, houtcome⟩
        rw [hsent, Except.ok.injEq] at hreceived
        rw [← hreceived] at houtcome
        exact houtcome
    rw [hcall, hanswer, conclude_error]
    rfl
  · rintro result ⟨request, received, htext, hreceived, houtcome⟩
    obtain ⟨hsent, -, -, hstable, hcall⟩ := hpath request htext
    rw [hsent, Except.ok.injEq] at hreceived
    rw [← hreceived] at houtcome
    have hanswer : (x.answer num request).2 = .ok result := houtcome
    rw [hcall, hanswer, conclude_result hknown x.command (hstable result hanswer)]
    exact ⟨_, rfl, rfl⟩

/-- A call whose path is not clear loses a code. -/
theorem clear_of_survives {x : Exchange} {client : SshControlClient}
    (h : x.Survives num d client) : x.Clear num d := by
  intro request htext
  apply (call_cases (d := d) x client htext).elim
  · rintro ⟨⟨hfits, hconnects, hsends, harrives⟩, hcli, hcall⟩
    have htime : x.in_time = true := by
      by_contra hlate
      rw [Bool.not_eq_true] at hlate
      obtain ⟨args, haccepted⟩ := accepted_of_text htext
      have hanswer : x.answer num request = _ := answer_late request hlate
      have hends : x.EndsWith num d
          { code := .SERVER_FAILED, message := "control server failed to process request" } :=
        ⟨request, htext, Or.inr ⟨hcli, _, sent_ok x haccepted hfits hconnects hsends,
          congrArg Prod.snd hanswer⟩⟩
      have hraises := h.1 _ hends
      rw [hcall, hanswer, conclude_late client haccepted.command_mem] at hraises
      cases hraises
    unfold answer at harrives
    rw [htime] at harrives
    exact ⟨hfits, hconnects, hsends, htime, harrives⟩
  · rintro ⟨-, f, hcli, hlocal, hcall⟩
    have hraises := h.1 f ⟨request, htext, Or.inl hcli⟩
    rw [hcall] at hraises
    have hcode : ErrorCode.MISSING_REQUIRED_FIELD = f.code := hraises
    apply hlocal.code.elim
    · intro hframe
      rw [hframe] at hcode
      cases hcode
    · intro hserver
      rw [hserver] at hcode
      cases hcode

/-- **Error codes and results survive the control path exactly on a clear
path**: for every call of a client, after any calls to the same server. -/
theorem error_codes_survive_iff (num : FloatText) (d : ControlDispatcher)
    (earlier : List Exchange) (x : Exchange) :
    x.Survives num d (after num d earlier) ↔ x.Clear num d :=
  ⟨clear_of_survives, survives_of_clear (known_after earlier)⟩

/-! ## §7. A server that cannot be reached. -/

/-- A number for each finite double. -/
def doubleCode : PyFloat → Nat
  | .fin q => Encodable.encode q + 1
  | _ => 0

/-- One way to write doubles: the number of the double, as a whole double. -/
def codedDoubles : FloatText where
  repr x := pyNat (doubleCode x) ++ py ".0"
  parse s :=
    match digitsValue (s.takeWhile CodePoint.isDigit) with
    | 0 => .negZero
    | n + 1 => match (Encodable.decode n : Option ℚ) with
        | some q => .fin q
        | none => .nan
  repr_number x _ := by
    refine ⟨pyNat (doubleCode x), py ".0", by decide, rfl, ?_⟩
    have hdigit : ∀ c ∈ (py ".0").head?, CodePoint.isDigit c = false := by
      intro c hc
      cases hc
      rfl
    unfold matchNumber
    rw [matchMinus_append (pyNat_ne_nil _), matchMinus_pyNat]
    simp only
    rw [matchInteger_append hdigit (matchInteger_pyNat _)]
    rfl
  parse_repr x hx := by
    have hdigit : ∀ c ∈ (py ".0").head?, CodePoint.isDigit c = false := by
      intro c hc
      cases hc
      rfl
    have hall : (pyNat (doubleCode x)).takeWhile CodePoint.isDigit = pyNat (doubleCode x) :=
      List.takeWhile_eq_self_iff.mpr fun c => isDigit_of_mem_pyNat
    rw [(span_append hdigit _).1, hall, digitsValue_pyNat]
    cases x with
    | fin q =>
        simp only [doubleCode, Encodable.encodek]
    | negZero => rfl
    | _ => cases hx

/-- The control server of the example. -/
def sampleDispatcher : ControlDispatcher where
  _server_instance_id := py "6f1ed002-ab59-4d2c-9a1f-0123456789ab"
  is_uuid := by decide +kernel

/-- `call("status")` while nothing listens on the control socket. -/
def unreachableServer : Exchange where
  command := py "status"
  values := []
  runtime :=
    { status := .error (fault .SERVER_FAILED "no runtime")
      open_session := .error (fault .SERVER_FAILED "no runtime")
      end_trial := .error (fault .SERVER_FAILED "no runtime")
      prepare_skill := fun _ => .error (fault .SERVER_FAILED "no runtime")
      begin_trial := fun _ _ => .error (fault .SERVER_FAILED "no runtime")
      close_session := fun _ => .error (fault .SERVER_FAILED "no runtime")
      abort := fun _ => .error (fault .SERVER_FAILED "no runtime") }
  in_time := true
  io := { connects := false, sends := false, block := fun _ => 4096, broken := none }

/-- The request of `call("status")`. -/
def statusText : PyStr :=
  py "\x7b\"protocol_version\":1,\"command\":\"status\",\"arguments\":\x7b\x7d\x7d"

/-- **The code of an unreachable server is lost**: the program raises
`CONTROL_SERVER_UNAVAILABLE` and the edge raises `MISSING_REQUIRED_FIELD`. -/
theorem unavailable_lost :
    unreachableServer.EndsWith codedDoubles sampleDispatcher
      { code := .CONTROL_SERVER_UNAVAILABLE,
        message := "cannot communicate with local control server" } ∧
    (unreachableServer.call codedDoubles sampleDispatcher
        (after codedDoubles sampleDispatcher [])).1
      = .raised (fault .MISSING_REQUIRED_FIELD "control response is missing required fields"
          [("field", .str (py "protocol_version"))]) ∧
    ¬ unreachableServer.Survives codedDoubles sampleDispatcher
        (after codedDoubles sampleDispatcher []) := by
  have htext : controlText codedDoubles unreachableServer.command unreachableServer.values
      = .ok statusText :=
    eq_ok_of_toOption (by decide +kernel)
  obtain ⟨args, haccepted⟩ := accepted_of_text htext
  have hsent := sent_eq unreachableServer haccepted (by decide +kernel)
  rw [if_neg (by decide +kernel), if_pos (by rfl)] at hsent
  have hcli : unreachableServer.cli codedDoubles sampleDispatcher statusText
      = .error (fault .CONTROL_SERVER_UNAVAILABLE
          "cannot communicate with local control server") := by
    rw [cli_eq, hsent]
    rfl
  have hlost : ¬ unreachableServer.Carried codedDoubles sampleDispatcher statusText :=
    fun hcarried => absurd hcarried.2.1 (by decide)
  refine ⟨⟨statusText, htext, Or.inl hcli⟩, call_lost htext hlost, ?_⟩
  intro h
  have hclear := clear_of_survives h statusText htext
  exact absurd hclear.2.1 (by decide)

end Exchange

end OvenRuntime
