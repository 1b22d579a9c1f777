/-
  OvenRuntime.Server.ControlRules
  ───────────────────────────────
  What the processes of the control path do with each other's frames: a line is
  received as it was sent, or the local client raises one of its own faults.
-/
import OvenRuntime.Common.JsonBytes
import OvenRuntime.Server.ControlServer

namespace OvenRuntime

/-! ## §1. Lines on a stream. -/

/-- A fault of the local client: too large a frame, or no answer. -/
structure LocalFault (f : RuntimeFault) : Prop where
  code : f.code = .FRAME_TOO_LARGE ∨ f.code = .CONTROL_SERVER_UNAVAILABLE
  details : f.details = []

/-- A frame that is too large is a fault of the client itself. -/
theorem localFault_tooLarge (message : String) :
    LocalFault { code := .FRAME_TOO_LARGE, message := message } :=
  ⟨Or.inl rfl, rfl⟩

/-- So is a server that cannot be reached or hangs up. -/
theorem localFault_unavailable (message : String) :
    LocalFault { code := .CONTROL_SERVER_UNAVAILABLE, message := message } :=
  ⟨Or.inr rfl, rfl⟩

/-- The loop asks for a byte at least, as long as the frame is within its limit. -/
theorem recvSize_pos (limit : Nat) {received : Nat} (h : received ≤ MAX_CONTROL_FRAME_BYTES) :
    0 < recvSize limit received := by
  unfold recvSize
  omega

/-- The loop goes on while no newline has come. -/
theorem getLast?_ne_newline {chunks : List UInt8} (h : NEWLINE ∉ chunks) :
    chunks.getLast? ≠ some NEWLINE := by
  intro hlast
  exact h (List.mem_of_getLast? hlast)

/-- **A line that fits arrives whole**, whatever the blocks. -/
theorem receive_line (block : Nat → Nat) (broken : Bool) (i : Nat)
    {chunks body : List UInt8} (hchunks : NEWLINE ∉ chunks) (hbody : NEWLINE ∉ body)
    (hfits : chunks.length + body.length + 1 ≤ MAX_CONTROL_FRAME_BYTES) :
    receive block broken i chunks (body ++ [NEWLINE]) = .ok (chunks ++ body ++ [NEWLINE]) := by
  generalize hn : body.length = n
  induction n using Nat.strong_induction_on generalizing i chunks body with
  | _ n ih =>
      have hroom : chunks.length ≤ MAX_CONTROL_FRAME_BYTES := by omega
      have hsize := recvSize_pos (block i) hroom
      rw [receive, if_neg (getLast?_ne_newline hchunks)]
      generalize recvSize (block i) chunks.length = size at hsize
      simp only
      have hne : (body ++ [NEWLINE]).take size ≠ [] := by
        intro hnil
        rw [List.take_eq_nil_iff] at hnil
        apply hnil.elim
        · omega
        · exact fun h => absurd h (by simp)
      have hlength : ((body ++ [NEWLINE]).take size).length ≤ body.length + 1 := by
        rw [List.length_take, List.length_append]
        exact Nat.min_le_right ..
      rw [if_neg hne, if_neg (by omega)]
      by_cases hend : body.length < size
      · -- the newline is in the block
        rw [List.take_of_length_le (by simp; omega), List.drop_of_length_le (by simp; omega),
          receive, if_pos (by simp), List.append_assoc]
      · rw [List.take_append_of_le_length (by omega), List.drop_append_of_le_length (by omega)]
        have htake : (body.take size).length = size := List.length_take_of_le (by omega)
        have hdrop : (body.drop size).length = body.length - size := List.length_drop
        have hfront : NEWLINE ∉ chunks ++ body.take size := by
          intro hmem
          apply (List.mem_append.mp hmem).elim
          · exact hchunks
          · exact fun h => hbody (List.mem_of_mem_take h)
        have hback : NEWLINE ∉ body.drop size := fun h => hbody (List.mem_of_mem_drop h)
        have hroom' : (chunks ++ body.take size).length + (body.drop size).length + 1
            ≤ MAX_CONTROL_FRAME_BYTES := by
          rw [List.length_append]
          omega
        rw [ih (body.length - size) (by omega) (i + 1) hfront hback hroom' hdrop,
          List.append_assoc chunks, List.take_append_drop]

/-- **Anything else is a fault of the local client**: a stream that ends before
its newline, or a line that does not fit. -/
theorem receive_fault (block : Nat → Nat) (broken : Bool) (i : Nat)
    {chunks stream : List UInt8} (hchunks : NEWLINE ∉ chunks)
    (hroom : chunks.length ≤ MAX_CONTROL_FRAME_BYTES)
    (hstream : NEWLINE ∉ stream.take (MAX_CONTROL_FRAME_BYTES - chunks.length)) :
    ∃ f, receive block broken i chunks stream = .error (.fault f) ∧ LocalFault f := by
  generalize hn : stream.length = n
  induction n using Nat.strong_induction_on generalizing i chunks stream with
  | _ n ih =>
      have hsize := recvSize_pos (block i) hroom
      rw [receive, if_neg (getLast?_ne_newline hchunks)]
      generalize recvSize (block i) chunks.length = size at hsize
      simp only
      split
      · split
        · exact ⟨_, rfl, localFault_unavailable _⟩
        · exact ⟨_, rfl, localFault_unavailable _⟩
      · rename_i hne
        split
        · exact ⟨_, rfl, localFault_tooLarge _⟩
        · rename_i hlong
          have hpos := List.length_pos_iff.mpr hne
          have hblock := List.length_take (i := size) (l := stream)
          have hblocks : NEWLINE ∉ stream.take size := by
            intro hmem
            apply hstream
            rw [← List.take_of_length_le (i := MAX_CONTROL_FRAME_BYTES - chunks.length)
              (l := stream.take size) (by omega), List.take_take] at hmem
            exact List.mem_of_mem_take (i := size) (by rwa [List.take_take, Nat.min_comm])
          apply ih (stream.drop size).length (by rw [List.length_drop]; omega) (i + 1)
          · intro hmem
            exact (List.mem_append.mp hmem).elim hchunks hblocks
          · rw [List.length_append]
            omega
          · intro hmem
            apply hstream
            rw [List.length_append] at hmem
            rw [← List.take_append_drop size stream, List.take_append,
              List.mem_append]
            right
            refine List.mem_of_mem_take (i := MAX_CONTROL_FRAME_BYTES
              - (chunks.length + (stream.take size).length)) ?_
            rw [List.take_take]
            rwa [Nat.min_eq_left (by omega)]
          · rfl

/-! ## §2. Frames. -/

/-- The newline that ends a frame is one byte. -/
theorem utf8Bytes_line (text : PyStr) : utf8Bytes (text ++ py "\n") = utf8Bytes text ++ [NEWLINE] := by
  rw [utf8Bytes_append]
  rfl

/-- A text that can be encoded still can with the newline behind it. -/
theorem encodable_line {text : PyStr} (h : text.encodable = true) :
    PyStr.encodable (text ++ py "\n") = true := by
  rw [PyStr.encodable_append, h]
  rfl

variable {num : FloatText} {text : PyStr}

/-- The bytes of a text are decoded and read as the text. -/
theorem loadsBytes_utf8Bytes (h : text.encodable = true) :
    loadsBytes num (utf8Bytes text) = loads num text := by
  unfold loadsBytes
  rw [decode_utf8_utf8Bytes h]

/-- **A request in time is read.** -/
theorem readPayload_line {payload : Value} (hencodable : text.encodable = true)
    (hline : OneLine text) (hfits : (utf8Bytes text).length + 1 ≤ MAX_CONTROL_FRAME_BYTES)
    (hloads : loads num (text ++ py "\n") = .ok payload) :
    UnixControlServer.readPayload num true (utf8Bytes (text ++ py "\n")) = .ok payload := by
  have hbody := newline_notMem_utf8Bytes hline
  have hframe : UnixControlServer._read_frame true (utf8Bytes (text ++ py "\n"))
      = .ok (utf8Bytes (text ++ py "\n")) := by
    have hindex : (utf8Bytes text ++ [NEWLINE]).findIdx? (· = NEWLINE)
        = some (utf8Bytes text).length := by
      have hnone : (utf8Bytes text).findIdx? (fun x => decide (x = NEWLINE)) = none := by
        rw [List.findIdx?_eq_none_iff]
        intro b hb
        refine decide_eq_false fun heq => hbody ?_
        rw [heq] at hb
        exact hb
      have hend : [NEWLINE].findIdx? (fun x => decide (x = NEWLINE)) = some 0 := by decide
      rw [List.findIdx?_append, hnone, hend, Option.map_some, Nat.zero_add]
      rfl
    have hall : (utf8Bytes text ++ [NEWLINE]).take ((utf8Bytes text).length + 1)
        = utf8Bytes text ++ [NEWLINE] := List.take_of_length_le (by simp)
    unfold UnixControlServer._read_frame UnixControlServer.readuntil
    rw [utf8Bytes_line, hindex]
    have hlimit : ¬ MAX_CONTROL_FRAME_BYTES + 1 < (utf8Bytes text).length := by omega
    simp only
    rw [hall, if_neg hlimit]
    rfl
  have hlast : (utf8Bytes (text ++ py "\n")).getLast? = some NEWLINE := by
    rw [utf8Bytes_line]
    exact List.getLast?_concat ..
  have hlength : (utf8Bytes (text ++ py "\n")).length = (utf8Bytes text).length + 1 := by
    rw [utf8Bytes_line, List.length_append]
    rfl
  have hne : utf8Bytes (text ++ py "\n") ≠ [] := by
    intro hnil
    rw [hnil] at hlength
    exact absurd hlength (by simp)
  unfold UnixControlServer.readPayload
  have hframed : ¬ (MAX_CONTROL_FRAME_BYTES < (utf8Bytes (text ++ py "\n")).length
      ∨ (utf8Bytes (text ++ py "\n")).getLast? ≠ some NEWLINE) := by
    rw [not_or, not_not]
    exact ⟨by omega, hlast⟩
  simp only [hframe, if_neg hne, if_neg hframed, loadsBytes_utf8Bytes (encodable_line hencodable),
    hloads, bind, Except.bind, pure, Except.pure]

/-- A request that comes too late. -/
theorem readPayload_late (received : List UInt8) :
    UnixControlServer.readPayload num false received = .error (.error .Other) := rfl

/-! The server writes what it can print and encode. -/

section Responses

variable {d : ControlDispatcher} {runtime : ControlRuntime} {in_time : Bool}
  {received : List UInt8}

/-- Nothing is written if the response cannot be printed: `json.dumps` raises before the
write. -/
theorem handle_connection_unprinted {e : PyError}
    (h : dumps num false (.map (d._response
      (UnixControlServer.outcome num runtime in_time received).1
      (UnixControlServer.outcome num runtime in_time received).2)) = .error e) :
    UnixControlServer._handle_connection num d runtime in_time received = [] := by
  unfold UnixControlServer._handle_connection
  simp only [h]

/-- Nothing is written either if its text cannot be encoded. -/
theorem handle_connection_unencoded {e : PyError}
    (htext : dumps num false (.map (d._response
      (UnixControlServer.outcome num runtime in_time received).1
      (UnixControlServer.outcome num runtime in_time received).2)) = .ok text)
    (h : encode_utf8 (text ++ py "\n") = .error e) :
    UnixControlServer._handle_connection num d runtime in_time received = [] := by
  unfold UnixControlServer._handle_connection
  simp only [htext, h]

/-- Otherwise the line is written, and nothing else. -/
theorem handle_connection_encoded {encoded : List UInt8}
    (htext : dumps num false (.map (d._response
      (UnixControlServer.outcome num runtime in_time received).1
      (UnixControlServer.outcome num runtime in_time received).2)) = .ok text)
    (h : encode_utf8 (text ++ py "\n") = .ok encoded) :
    UnixControlServer._handle_connection num d runtime in_time received = encoded := by
  unfold UnixControlServer._handle_connection
  simp only [htext, h]

end Responses

/-- The response line fits its frame and arrives before the socket breaks. -/
def Arrives (io : SocketIo) (text : PyStr) : Prop :=
  (utf8Bytes text).length + 1 ≤ MAX_CONTROL_FRAME_BYTES ∧
    ∀ n, io.broken = some n → (utf8Bytes text).length + 1 ≤ n

/-- **A response line that arrives is read.** -/
theorem readResponse_line {io : SocketIo} {response : Dict} (hencodable : text.encodable = true)
    (hline : OneLine text) (harrives : Arrives io text)
    (hloads : loads num (text ++ py "\n") = .ok (.map response)) :
    readResponse num io (utf8Bytes (text ++ py "\n")) = .ok response := by
  have hlength : (utf8Bytes (text ++ py "\n")).length = (utf8Bytes text).length + 1 := by
    rw [utf8Bytes_line, List.length_append]
    rfl
  have hreceive : ∀ broken, receive io.block broken 0 [] (utf8Bytes (text ++ py "\n"))
      = .ok (utf8Bytes (text ++ py "\n")) := by
    intro broken
    have hfits : ([] : List UInt8).length + (utf8Bytes text).length + 1
        ≤ MAX_CONTROL_FRAME_BYTES := by
      rw [List.length_nil, Nat.zero_add]
      exact harrives.1
    rw [utf8Bytes_line]
    exact receive_line io.block broken 0 (List.not_mem_nil) (newline_notMem_utf8Bytes hline) hfits
  have hchunks : receiveResponse io (utf8Bytes (text ++ py "\n"))
      = .ok (utf8Bytes (text ++ py "\n")) := by
    unfold receiveResponse
    cases hbroken : io.broken with
    | none => exact hreceive false
    | some n =>
        have hn := harrives.2 n hbroken
        simp only
        rw [List.take_of_length_le (by omega)]
        exact hreceive _
  unfold readResponse
  simp only [hchunks, loadsBytes_utf8Bytes (encodable_line hencodable), hloads, bind, Except.bind,
    pure, Except.pure]

/-- A stream on which no line arrives makes the local client raise. -/
theorem readResponse_fault {io : SocketIo} {stream : List UInt8}
    (h : stream = [] ∨ ∃ body, NEWLINE ∉ body ∧ stream = body ++ [NEWLINE] ∧
      (MAX_CONTROL_FRAME_BYTES < body.length + 1 ∨ ∃ n, io.broken = some n ∧ n < body.length + 1)) :
    ∃ f, readResponse num io stream = .error (.fault f) ∧ LocalFault f := by
  have hprefix : ∀ k (body : List UInt8), NEWLINE ∉ body → k ≤ body.length →
      NEWLINE ∉ (body ++ [NEWLINE]).take k := by
    intro k body hbody hk hmem
    rw [List.take_append_of_le_length hk] at hmem
    exact hbody (List.mem_of_mem_take hmem)
  have hreceive : ∃ f, receiveResponse io stream = .error (.fault f) ∧ LocalFault f := by
    unfold receiveResponse
    cases hbroken : io.broken with
    | none =>
        refine receive_fault io.block false 0 (List.not_mem_nil) (Nat.zero_le _) ?_
        rcases h with hnil | ⟨body, hbody, hstream, hlong | ⟨n, hn, -⟩⟩
        · rw [hnil, List.take_nil]
          exact List.not_mem_nil
        · rw [hstream]
          exact hprefix _ body hbody (by rw [List.length_nil]; omega)
        · rw [hbroken] at hn
          cases hn
    | some n =>
        refine receive_fault io.block _ 0 (List.not_mem_nil) (Nat.zero_le _) ?_
        rw [List.take_take]
        rcases h with hnil | ⟨body, hbody, hstream, hlong | ⟨m, hm, hshort⟩⟩
        · rw [hnil, List.take_nil]
          exact List.not_mem_nil
        · rw [hstream]
          refine hprefix _ body hbody ?_
          rw [List.length_nil]
          exact Nat.le_trans (Nat.min_le_left ..) (by omega)
        · rw [hbroken, Option.some_inj] at hm
          rw [hstream]
          exact hprefix _ body hbody (Nat.le_trans (Nat.min_le_right ..) (by omega))
  obtain ⟨f, hf, hlocal⟩ := hreceive
  refine ⟨f, ?_, hlocal⟩
  unfold readResponse
  rw [hf]
  rfl

/-! ## §3. Responses that arrive at the edge. -/

/-- What a printed object is when it is read. -/
theorem loads_map {entries : List (Key × Value)} (h : (Value.map entries).jsonError = none)
    (hnodup : (entries.map Prod.fst).Nodup) :
    loads num ((Value.map entries).jsonText num false ++ py "\n")
      = .ok (.map (entries.map fun e => (e.1, e.2.reload false))) := by
  rw [loads_text h (Or.inr rfl), reload_map hnodup]

/-! ## §4. Results of the dispatcher. -/

/-- A text or `None` is read back as it is. -/
theorem stable_optionStr (s : Option PyStr) : (optionStr s).Stable := by
  cases s with
  | none => rfl
  | some s => exact stable_str s

/-- The answer to `status` is read back as it is: its keys differ, and its values are texts,
numbers and `None`. -/
theorem Status.stable (s : Status) : (Value.map s.to_dict).Stable := by
  apply stable_map
  · show ([.str (py "state"), .str (py "active_skill"), .str (py "generation"),
      .str (py "backend"), .str (py "model_id"), .str (py "active_session_id"),
      .str (py "active_trial_id"), .str (py "in_flight"), .str (py "last_error")]
      : List Key).Nodup
    decide
  · unfold Status.to_dict
    simp only [List.forall_mem_cons]
    exact ⟨stable_str _, stable_optionStr _, rfl, stable_optionStr _, stable_optionStr _,
      stable_optionStr _, stable_optionStr _, rfl, stable_optionStr _,
      fun e he => absurd he List.not_mem_nil⟩

/-- So is the answer to `open-session`. -/
theorem SessionGrant.stable (g : SessionGrant) : (Value.map g.to_dict).Stable := by
  apply stable_map
  · show ([.str (py "session_id"), .str (py "session_token"), .str (py "skill"),
      .str (py "generation"), .str (py "trial_id"), .str (py "expires_in_sec")]
      : List Key).Nodup
    decide
  · unfold SessionGrant.to_dict
    simp only [List.forall_mem_cons]
    exact ⟨stable_str _, stable_str _, stable_str _, rfl, stable_str _, rfl,
      fun e he => absurd he List.not_mem_nil⟩

/-- An entry that a summary has or leaves out. -/
def optionalEntry (name : String) : Option Value → Dict
  | some v => [(.str (py name), v)]
  | none => []

/-- The entry has its own name, if it is there. -/
theorem optionalEntry_keys (name : String) (v : Option Value) :
    ((optionalEntry name v).map Prod.fst).Sublist [.str (py name)] := by
  cases v with
  | none => exact List.nil_sublist _
  | some v => exact List.Sublist.refl _

/-- Its value is read back as it is. -/
theorem optionalEntry_stable {α : Type} (name : String) {f : α → Value} (h : ∀ a, (f a).Stable)
    (a : Option α) : ∀ e ∈ optionalEntry name (a.map f), e.2.Stable := by
  intro e he
  cases a with
  | none => cases he
  | some a =>
      rw [List.mem_singleton.mp he]
      exact h a

/-- A summary is six entries and those it has of five more. -/
theorem TrialRecord.to_dict_eq (r : TrialRecord) :
    r.to_dict =
      [(.str (py "schema_version"), .int r.schema_version),
       (.str (py "trial_id"), .str r.trial_id), (.str (py "skill"), .str r.skill),
       (.str (py "generation"), .int r.generation), (.str (py "root_seed"), .int r.root_seed),
       (.str (py "status"), .str (py r.status.value))] ++
      optionalEntry "reason" (r.reason.map .str) ++
      optionalEntry "request_count" (r.request_count.map fun n : Nat => .int n) ++
      (optionalEntry "first_action_hash"
          ((if r.status = .COMMITTED then some r.first_action_hash else none).map
            fun digest => optionStr (digest.map Digest.hex)) ++
        optionalEntry "last_action_hash"
          ((if r.status = .COMMITTED then some r.last_action_hash else none).map
            fun digest => optionStr (digest.map Digest.hex))) ++
      optionalEntry "ambiguous_sequence" (r.ambiguous_sequence.map .int) := by
  unfold TrialRecord.to_dict
  congr 1
  · congr 1
    · congr 1
      · cases r.reason <;> rfl
      · cases r.request_count <;> rfl
    · split <;> rfl
  · cases r.ambiguous_sequence <;> rfl

/-- A trial summary is read back as it is, whichever of its fields are there. -/
theorem TrialRecord.stable (r : TrialRecord) : (Value.map r.to_dict).Stable := by
  rw [TrialRecord.to_dict_eq]
  apply stable_map
  · simp only [List.map_append]
    have hall : ([.str (py "schema_version"), .str (py "trial_id"),
        .str (py "skill"), .str (py "generation"), .str (py "root_seed"), .str (py "status")] ++
        [.str (py "reason")] ++ [.str (py "request_count")] ++
        ([.str (py "first_action_hash")] ++ [.str (py "last_action_hash")]) ++
        [.str (py "ambiguous_sequence")] : List Key).Nodup := by decide
    refine List.Nodup.sublist ?_ hall
    exact ((((List.Sublist.refl _).append (optionalEntry_keys ..)).append
      (optionalEntry_keys ..)).append
      ((optionalEntry_keys ..).append (optionalEntry_keys ..))).append (optionalEntry_keys ..)
  · simp only [List.forall_mem_append, List.forall_mem_cons]
    have hhash : ∀ digest : Option Digest, (optionStr (digest.map Digest.hex)).Stable :=
      fun digest => stable_optionStr _
    exact ⟨⟨⟨⟨⟨rfl, stable_str _, stable_str _, rfl, rfl, stable_str _,
      fun e he => absurd he List.not_mem_nil⟩, optionalEntry_stable _ stable_str _⟩,
      optionalEntry_stable _ (f := fun n : Nat => .int n) (fun _ => rfl) _⟩,
      optionalEntry_stable _ hhash _, optionalEntry_stable _ hhash _⟩,
      optionalEntry_stable _ (f := Value.int) (fun _ => rfl) _⟩

/-- So is the answer to `abort`. -/
theorem stable_terminated (r : RuntimeState × Option TrialRecord) :
    (Value.map (terminatedDict r)).Stable := by
  apply stable_map
  · show ([.str (py "state"), .str (py "trial")] : List Key).Nodup
    decide
  · unfold terminatedDict
    simp only [List.forall_mem_cons]
    refine ⟨stable_str _, ?_, fun e he => absurd he List.not_mem_nil⟩
    cases r.2 with
    | none => rfl
    | some summary => exact summary.stable

/-- **A result is read as it was printed**, whichever command it answers. -/
theorem stable_dispatch {runtime : ControlRuntime} {request : ControlRequest} {result : Dict}
    (h : ControlDispatcher._dispatch runtime request = .ok result) :
    (Value.map result).Stable := by
  unfold ControlDispatcher._dispatch at h
  split at h
  · obtain ⟨-, -, h⟩ := bind_ok.mp h
    obtain ⟨s, -, h⟩ := bind_ok.mp h
    exact Except.ok.inj h ▸ s.stable
  split at h
  · obtain ⟨-, -, h⟩ := bind_ok.mp h
    obtain ⟨g, -, h⟩ := bind_ok.mp h
    exact Except.ok.inj h ▸ g.stable
  split at h
  · obtain ⟨-, -, h⟩ := bind_ok.mp h
    obtain ⟨r, -, h⟩ := bind_ok.mp h
    exact Except.ok.inj h ▸ r.stable
  split at h
  · obtain ⟨-, -, h⟩ := bind_ok.mp h
    obtain ⟨skill, -, h⟩ := bind_ok.mp h
    obtain ⟨s, -, h⟩ := bind_ok.mp h
    exact Except.ok.inj h ▸ s.stable
  split at h
  · obtain ⟨-, -, h⟩ := bind_ok.mp h
    obtain ⟨trial_id, -, h⟩ := bind_ok.mp h
    obtain ⟨root_seed, -, h⟩ := bind_ok.mp h
    obtain ⟨s, -, h⟩ := bind_ok.mp h
    exact Except.ok.inj h ▸ s.stable
  split at h
  · obtain ⟨-, -, h⟩ := bind_ok.mp h
    obtain ⟨session_id, -, h⟩ := bind_ok.mp h
    obtain ⟨s, -, h⟩ := bind_ok.mp h
    exact Except.ok.inj h ▸ s.stable
  split at h
  · obtain ⟨-, -, h⟩ := bind_ok.mp h
    obtain ⟨reason, -, h⟩ := bind_ok.mp h
    obtain ⟨r, -, h⟩ := bind_ok.mp h
    exact Except.ok.inj h ▸ stable_terminated r
  · cases h

end OvenRuntime
