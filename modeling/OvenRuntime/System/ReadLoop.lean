/-
  OvenRuntime.System.ReadLoop
  ───────────────────────────
  The loop with which the local client reads a response, one `recv` at a time.
  The socket may cut the line anywhere.  The loop looks at the last byte only
  and asks for less and less as it comes near the limit; still every run of it
  ends, and all runs on one stream end alike (`response_read`).
-/
import OvenRuntime.Lib.TransitionSystem
import OvenRuntime.System.ControlPath

namespace OvenRuntime

open TransitionSystem Exchange

/-! ## §1. The loop. -/

/-- What the loop has read and what is to come, or what it raised. -/
inductive ReadState where
  | reading (chunks rest : List UInt8)
  | raised (e : Exn)

/-- One call of `recv`: the size it asks for and the block it gives. -/
structure RecvCall where
  size : Nat
  block : List UInt8

def responseTooLarge : Exn :=
  fault .FRAME_TOO_LARGE "control response exceeds its framing limit"

/-- What the end of the stream makes the client raise; `broken` if `recv` raises
there. -/
def streamEnded (broken : Bool) : Exn :=
  if broken then
    fault .CONTROL_SERVER_UNAVAILABLE "cannot communicate with local control server"
  else fault .CONTROL_SERVER_UNAVAILABLE "control server closed without a response"

/-- The body of the loop behind the call of `recv`. -/
def afterRecv (broken : Bool) (chunks block rest : List UInt8) : ReadState :=
  if block = [] then .raised (streamEnded broken)
  else if MAX_CONTROL_FRAME_BYTES < (chunks ++ block).length then .raised responseTooLarge
  else .reading (chunks ++ block) rest

/-- How the loop ends, if it has: `chunks.endswith(b"\n")`, or an exception. -/
def ReadState.outcome : ReadState → Option (Except Exn (List UInt8))
  | .reading chunks _ => if chunks.getLast? = some NEWLINE then some (.ok chunks) else none
  | .raised e => some (.error e)

/-- The loop on a stream.  The socket gives any part of what is to come, no longer
than asked for; it gives nothing at the end, or if nothing is asked for. -/
def readLoop (broken : Bool) (stream : List UInt8) : System ReadState RecvCall where
  init s := s = .reading [] stream
  step s c s' := ∃ chunks rest, s = .reading chunks (c.block ++ rest) ∧ s.outcome = none ∧
    c.size = min 4096 (MAX_CONTROL_FRAME_BYTES + 1 - chunks.length) ∧
    c.block.length ≤ c.size ∧ (c.block = [] → rest = [] ∨ c.size = 0) ∧
    s' = afterRecv broken chunks c.block rest

variable {broken : Bool} {stream : List UInt8}

/-! ## §2. Every run. -/

/-- What holds after any number of calls. -/
structure ReadInv (broken : Bool) (stream : List UInt8) (calls : List RecvCall) (s : ReadState) :
    Prop where
  sizes : ∀ c ∈ calls, 0 < c.size ∧ c.size ≤ 4096
  reading : ∀ chunks rest, s = .reading chunks rest → chunks ++ rest = stream ∧
    chunks.length ≤ MAX_CONTROL_FRAME_BYTES ∧ calls.length ≤ chunks.length
  raised : ∀ e, s = .raised e → calls.length ≤ MAX_CONTROL_FRAME_BYTES + 1 ∧
    (e = responseTooLarge ∧ MAX_CONTROL_FRAME_BYTES < stream.length ∨
      e = streamEnded broken ∧ stream.length ≤ MAX_CONTROL_FRAME_BYTES ∧
        stream.getLast? ≠ some NEWLINE)

theorem readInv_start : ReadInv broken stream [] (.reading [] stream) where
  sizes c hc := absurd hc List.not_mem_nil
  reading chunks rest h := by
    obtain ⟨hchunks, hrest⟩ := ReadState.reading.inj h
    rw [← hchunks, ← hrest]
    exact ⟨rfl, Nat.zero_le _, Nat.le_refl _⟩
  raised e h := by cases h

/-- Below the limit the loop asks for something. -/
theorem size_pos {chunks : List UInt8} (h : chunks.length ≤ MAX_CONTROL_FRAME_BYTES) :
    0 < min 4096 (MAX_CONTROL_FRAME_BYTES + 1 - chunks.length) := by
  omega

theorem not_newline_of_outcome {chunks rest : List UInt8}
    (h : (ReadState.reading chunks rest).outcome = none) : chunks.getLast? ≠ some NEWLINE := by
  intro hlast
  unfold ReadState.outcome at h
  simp only [hlast, if_true] at h
  cases h

/-- **One call keeps the invariant.** -/
theorem readInv_step {calls : List RecvCall} {c : RecvCall} {s s' : ReadState}
    (hinv : ReadInv broken stream calls s) (hstep : (readLoop broken stream).step s c s') :
    ReadInv broken stream (calls ++ [c]) s' := by
  obtain ⟨chunks, rest, hs, hopen, hsize, hlength, hempty, hs'⟩ := hstep
  obtain ⟨hstream, hroom, hcalls⟩ := hinv.reading chunks (c.block ++ rest) hs
  have hpos := size_pos hroom
  have hlast : chunks.getLast? ≠ some NEWLINE := by
    rw [hs] at hopen
    exact not_newline_of_outcome hopen
  have hcount : (calls ++ [c]).length = calls.length + 1 := List.length_append
  have htotal : stream.length = chunks.length + (c.block.length + rest.length) := by
    rw [← hstream, List.length_append, List.length_append]
  have hsizes : ∀ d ∈ calls ++ [c], 0 < d.size ∧ d.size ≤ 4096 := by
    intro d hd
    apply (List.mem_append.mp hd).elim
    · exact hinv.sizes d
    · intro hd
      rw [List.mem_singleton.mp hd]
      omega
  unfold afterRecv at hs'
  by_cases hblock : c.block = []
  · -- the stream is at its end, below the limit
    rw [if_pos hblock] at hs'
    have hrest : rest = [] := by
      apply (hempty hblock).elim
      · exact id
      · intro hzero
        omega
    have hwhole : chunks = stream := by
      rw [← hstream, hblock, hrest]
      simp
    refine ⟨hsizes, ?_, ?_⟩
    · intro chunks' rest' h
      rw [hs'] at h
      cases h
    · intro e h
      rw [hs'] at h
      rw [← ReadState.raised.inj h, ← hwhole]
      exact ⟨by omega, Or.inr ⟨rfl, hroom, hlast⟩⟩
  · rw [if_neg hblock] at hs'
    have hnonempty := List.length_pos_iff.mpr hblock
    have happend : (chunks ++ c.block).length = chunks.length + c.block.length :=
      List.length_append
    by_cases hlong : MAX_CONTROL_FRAME_BYTES < (chunks ++ c.block).length
    · rw [if_pos hlong] at hs'
      refine ⟨hsizes, ?_, ?_⟩
      · intro chunks' rest' h
        rw [hs'] at h
        cases h
      · intro e h
        rw [hs'] at h
        rw [← ReadState.raised.inj h]
        exact ⟨by omega, Or.inl ⟨rfl, by omega⟩⟩
    · rw [if_neg hlong] at hs'
      refine ⟨hsizes, ?_, ?_⟩
      · intro chunks' rest' h
        rw [hs'] at h
        obtain ⟨hchunks, hrest⟩ := ReadState.reading.inj h
        rw [← hchunks, ← hrest, List.append_assoc]
        exact ⟨hstream, by omega, by omega⟩
      · intro e h
        rw [hs'] at h
        cases h

/-- **The invariant of every run.** -/
theorem readInv_run {calls : List RecvCall} {s : ReadState}
    (h : Run (readLoop broken stream) calls s) : ReadInv broken stream calls s := by
  apply Run.invariant (ReadInv broken stream) ?_ ?_ h
  · intro s hs
    rw [hs]
    exact readInv_start
  · intro calls s c s' _ hinv hstep
    exact readInv_step hinv hstep

/-- **As long as the loop has not ended, it goes on.** -/
theorem readLoop_progress {s : ReadState} (h : s.outcome = none) :
    ∃ c s', (readLoop broken stream).step s c s' := by
  cases s with
  | raised e => cases h
  | reading chunks rest =>
      let size := min 4096 (MAX_CONTROL_FRAME_BYTES + 1 - chunks.length)
      refine ⟨⟨size, rest.take size⟩, afterRecv broken chunks (rest.take size) (rest.drop size),
        chunks, rest.drop size, ?_, h, rfl, ?_, ?_, rfl⟩
      · rw [List.take_append_drop]
      · exact List.length_take_le ..
      · intro hnil
        apply (List.take_eq_nil_iff.mp hnil).elim
        · exact fun hzero => Or.inr hzero
        · intro hrest
          rw [hrest]
          exact Or.inl List.drop_nil

/-! ## §3. How the runs end. -/

/-- The only newline of a line is its last byte. -/
theorem eq_line_of_newline {body chunks : List UInt8} (hbody : NEWLINE ∉ body)
    (h : chunks <+: body ++ [NEWLINE]) (hlast : chunks.getLast? = some NEWLINE) :
    chunks = body ++ [NEWLINE] := by
  apply (List.prefix_concat_iff.mp h).elim
  · exact id
  · intro hpart
    exact absurd (hpart.subset (List.mem_of_getLast? hlast)) hbody

/-- **The outcome depends on the stream alone**, not on how it was cut. -/
theorem outcome_of_inv {calls : List RecvCall} {s : ReadState} {body : List UInt8}
    {r : Except Exn (List UInt8)} (hinv : ReadInv broken stream calls s)
    (hbody : NEWLINE ∉ body) (hstream : stream <+: body ++ [NEWLINE]) (h : s.outcome = some r) :
    r = if MAX_CONTROL_FRAME_BYTES < stream.length then .error responseTooLarge
      else if stream = body ++ [NEWLINE] then .ok stream
      else .error (streamEnded broken) := by
  cases s with
  | reading chunks rest =>
      obtain ⟨hsplit, hroom, -⟩ := hinv.reading chunks rest rfl
      have hlast : chunks.getLast? = some NEWLINE := by
        by_contra hne
        unfold ReadState.outcome at h
        simp only [if_neg hne] at h
        cases h
      have hr : Except.ok chunks = r := by
        unfold ReadState.outcome at h
        simp only [if_pos hlast] at h
        exact Option.some_inj.mp h
      have hpart : chunks <+: stream := ⟨rest, hsplit⟩
      have hline := eq_line_of_newline hbody (hpart.trans hstream) hlast
      have hwhole : chunks = stream := by
        apply hpart.eq_of_length_le
        rw [hline]
        exact hstream.length_le
      rw [← hwhole, if_neg (by omega), if_pos hline, hr]
  | raised e =>
      have hr : Except.error e = r := Option.some_inj.mp h
      rw [← hr]
      apply (hinv.raised e rfl).2.elim
      · intro hlong
        rw [if_pos hlong.2, hlong.1]
      · intro hended
        have hcut : stream ≠ body ++ [NEWLINE] := by
          intro heq
          apply hended.2.2
          rw [heq]
          exact List.getLast?_concat ..
        rw [if_neg (by omega), if_neg hcut, hended.1]

/-- The call of `recv` that gives a block of the bounded size. -/
theorem recv_step (broken : Bool) (stream : List UInt8) (block : Nat → Nat) (i : Nat)
    {chunks : List UInt8} (rest : List UInt8) (hlast : chunks.getLast? ≠ some NEWLINE) :
    ∃ c, (readLoop broken stream).step (.reading chunks rest) c
      (afterRecv broken chunks (rest.take (recvSize (block i) chunks.length))
        (rest.drop (recvSize (block i) chunks.length))) := by
  let size := min 4096 (MAX_CONTROL_FRAME_BYTES + 1 - chunks.length)
  have hsize : recvSize (block i) chunks.length ≤ size := Nat.min_le_right ..
  refine ⟨⟨size, rest.take (recvSize (block i) chunks.length)⟩, chunks, _, ?_, if_neg hlast, rfl,
    Nat.le_trans (List.length_take_le ..) hsize, ?_, rfl⟩
  · rw [List.take_append_drop]
  · intro hnil
    apply (List.take_eq_nil_iff.mp hnil).elim
    · intro hzero
      right
      show min 4096 (MAX_CONTROL_FRAME_BYTES + 1 - chunks.length) = 0
      unfold recvSize at hzero
      omega
    · intro hrest
      rw [hrest]
      exact Or.inl List.drop_nil

/-- `receive` is one way through the loop. -/
theorem receive_run (broken : Bool) (stream : List UInt8) (block : Nat → Nat) (i : Nat)
    (chunks rest : List UInt8) :
    ∃ calls s, Path (readLoop broken stream) (.reading chunks rest) calls s ∧
      s.outcome = some (receive block broken i chunks rest) := by
  induction i, chunks, rest using receive.induct block broken with
  | case1 i chunks rest hlast =>
      refine ⟨[], _, Path.nil _, ?_⟩
      rw [receive, if_pos hlast]
      exact if_pos hlast
  | case2 i chunks rest hlast size hblock hbroken =>
      obtain ⟨c, hc⟩ := recv_step broken stream block i rest hlast
      refine ⟨[c], _, Path.single hc, ?_⟩
      rw [receive, if_neg hlast]
      simp only
      rw [if_pos hblock, if_pos hbroken]
      unfold afterRecv streamEnded
      rw [if_pos hblock, if_pos hbroken]
      rfl
  | case3 i chunks rest hlast size hblock hbroken =>
      obtain ⟨c, hc⟩ := recv_step broken stream block i rest hlast
      refine ⟨[c], _, Path.single hc, ?_⟩
      rw [receive, if_neg hlast]
      simp only
      rw [if_pos hblock, if_neg hbroken]
      unfold afterRecv streamEnded
      rw [if_pos hblock, if_neg hbroken]
      rfl
  | case4 i chunks rest hlast size hblock hlong =>
      obtain ⟨c, hc⟩ := recv_step broken stream block i rest hlast
      refine ⟨[c], _, Path.single hc, ?_⟩
      rw [receive, if_neg hlast]
      simp only
      rw [if_neg hblock, if_pos hlong]
      unfold afterRecv
      rw [if_neg hblock, if_pos (by rw [List.length_append]; exact hlong)]
      rfl
  | case5 i chunks rest hlast size hblock hlong ih =>
      obtain ⟨c, hc⟩ := recv_step broken stream block i rest hlast
      obtain ⟨calls, s, hpath, hs⟩ := ih
      unfold afterRecv at hc
      rw [if_neg hblock, if_neg (by rw [List.length_append]; exact hlong)] at hc
      have hnext : receive block broken i chunks rest
          = receive block broken (i + 1) (chunks ++ rest.take size) (rest.drop size) := by
        rw [receive, if_neg hlast]
        simp only
        rw [if_neg hblock, if_neg hlong]
      exact ⟨c :: calls, s, hpath.cons hc, by rw [hs, hnext]⟩

/-! ## §4. Responses. -/

/-- The line `_handle_connection` writes for a response. -/
def ResponseLine (num : FloatText) (response : Dict) (line : List UInt8) : Prop :=
  ∃ text, dumps num false (.map response) = .ok text ∧ encode_utf8 (text ++ py "\n") = .ok line

/-- The server writes the line of a response, or nothing. -/
theorem handle_connection_line {num : FloatText} {d : ControlDispatcher} {runtime : ControlRuntime}
    {in_time : Bool} {received : List UInt8} :
    UnixControlServer._handle_connection num d runtime in_time received = [] ∨
    ∃ response, ResponseLine num response
      (UnixControlServer._handle_connection num d runtime in_time received) := by
  unfold UnixControlServer._handle_connection
  simp only
  split
  · exact Or.inl rfl
  · next text htext =>
      split
      · exact Or.inl rfl
      · next encoded hencoded => exact Or.inr ⟨_, text, htext, hencoded⟩

/-- `control_exchange` behind the loop. -/
def decodeResponse (num : FloatText) (chunks : List UInt8) : Except Exn Dict :=
  match loadsBytes num chunks with
  | .error .ValueError => throw (.error .ValueError)
  | .error _ => throw (fault .FRAME_DECODE_FAILED "control response is not valid UTF-8 JSON")
  | .ok (.map response) => return response
  | .ok _ => throw (fault .FRAME_DECODE_FAILED "control response must be a dictionary")

/-- What is read of the line of a response when `stream` of it arrives. -/
def responseRead (broken : Bool) (line stream : List UInt8) (response : Dict) : Except Exn Dict :=
  if MAX_CONTROL_FRAME_BYTES < stream.length then .error responseTooLarge
  else if stream = line then .ok response
  else .error (streamEnded broken)

/-- The part of a stream that arrives. -/
def SocketIo.arriving (io : SocketIo) (stream : List UInt8) : List UInt8 :=
  match io.broken with
  | none => stream
  | some n => stream.take n

/-- `recv` raises before the end of the stream. -/
def SocketIo.breaks (io : SocketIo) (stream : List UInt8) : Bool :=
  match io.broken with
  | none => false
  | some n => decide (n < stream.length)

theorem readResponse_eq (num : FloatText) (io : SocketIo) (stream : List UInt8) :
    readResponse num io stream
      = receive io.block (io.breaks stream) 0 [] (io.arriving stream) >>= decodeResponse num := by
  have hreceive : receiveResponse io stream
      = receive io.block (io.breaks stream) 0 [] (io.arriving stream) := by
    unfold receiveResponse SocketIo.breaks SocketIo.arriving
    cases io.broken <;> rfl
  rw [← hreceive]
  rfl

theorem prefix_arriving (io : SocketIo) (stream : List UInt8) : io.arriving stream <+: stream := by
  unfold SocketIo.arriving
  cases io.broken with
  | none => exact ⟨[], List.append_nil _⟩
  | some n => exact List.take_prefix n stream

variable {num : FloatText} {response : Dict} {line : List UInt8}

/-- A response line is one line. -/
theorem ResponseLine.body (h : ResponseLine num response line) :
    ∃ body, NEWLINE ∉ body ∧ line = body ++ [NEWLINE] := by
  obtain ⟨text, htext, hline⟩ := h
  rw [dumps_ok] at htext
  rw [encode_utf8_ok, utf8Bytes_line] at hline
  refine ⟨utf8Bytes text, newline_notMem_utf8Bytes ?_, hline.2.symm⟩
  rw [← htext.2]
  exact oneLine_text num false _

/-- **The line reads back as the response.** -/
theorem ResponseLine.decodes (h : ResponseLine num response line)
    (hkeyed : (Value.map response).Keyed) : decodeResponse num line = .ok response := by
  obtain ⟨text, htext, hline⟩ := h
  rw [dumps_ok] at htext
  rw [encode_utf8_ok] at hline
  have hstable : (Value.map response).reload false = .map response :=
    Value.Keyed.stable _ hkeyed
  have hloads : loads num (text ++ py "\n") = .ok (.map response) := by
    rw [← htext.2, loads_text htext.1 (Or.inr rfl), hstable]
  unfold decodeResponse
  rw [← hline.2, loadsBytes_utf8Bytes hline.1, hloads]
  rfl

/-- **Every run of the loop on what arrives of a response line** is short, asks for
something in each call, can go on until it ends, and ends as `responseRead` says. -/
theorem response_read (hline : ResponseLine num response line)
    (hkeyed : (Value.map response).Keyed) (hstream : stream <+: line) :
    (∀ calls s, Run (readLoop broken stream) calls s →
      calls.length ≤ MAX_CONTROL_FRAME_BYTES + 1 ∧
      (∀ c ∈ calls, 0 < c.size ∧ c.size ≤ 4096) ∧
      (s.outcome = none → ∃ c s', (readLoop broken stream).step s c s') ∧
      ∀ r, s.outcome = some r →
        (r >>= decodeResponse num) = responseRead broken line stream response) ∧
    ∀ io, readResponse num io stream
      = responseRead (io.breaks stream) line (io.arriving stream) response := by
  obtain ⟨body, hbody, hsplit⟩ := hline.body
  have hruns : ∀ {broken stream}, stream <+: line → ∀ calls s,
      Run (readLoop broken stream) calls s → ∀ r, s.outcome = some r →
        (r >>= decodeResponse num) = responseRead broken line stream response := by
    intro broken stream hstream calls s hrun r hr
    rw [hsplit] at hstream
    rw [outcome_of_inv (readInv_run hrun) hbody hstream hr, ← hsplit]
    unfold responseRead
    split
    · rfl
    · split
      · next heq =>
          rw [heq]
          exact hline.decodes hkeyed
      · rfl
  constructor
  · intro calls s hrun
    have hinv := readInv_run hrun
    refine ⟨?_, hinv.sizes, readLoop_progress, hruns hstream calls s hrun⟩
    cases s with
    | reading chunks rest =>
        have hreading := hinv.reading chunks rest rfl
        omega
    | raised e => exact (hinv.raised e rfl).1
  · intro io
    obtain ⟨calls, s, hpath, hs⟩ := receive_run (io.breaks stream) (io.arriving stream)
      io.block 0 [] (io.arriving stream)
    rw [readResponse_eq]
    exact hruns ((prefix_arriving io stream).trans hstream) calls s ⟨_, rfl, hpath⟩ _ hs

/-- A short response. -/
def okResponse : Dict := [(.str (py "ok"), .bool true)]

def okLine : List UInt8 := utf8Bytes (py "\x7b\"ok\":true\x7d\n")

theorem okResponse_line : ResponseLine codedDoubles okResponse okLine :=
  ⟨py "\x7b\"ok\":true\x7d", eq_ok_of_toOption (by decide +kernel),
    encode_utf8_ok.mpr ⟨by decide, rfl⟩⟩

/-- The line in two blocks. -/
theorem response_read_sample :
    ∃ calls s, Run (readLoop false okLine) calls s ∧ calls.length = 2 ∧
      ∃ r, s.outcome = some r ∧ (r >>= decodeResponse codedDoubles) = .ok okResponse := by
  have hkeyed : (Value.map okResponse).Keyed := ⟨List.nodup_singleton _, trivial, trivial⟩
  have hfirst : (readLoop false okLine).step (.reading [] okLine) ⟨4096, okLine.take 7⟩
      (.reading (okLine.take 7) (okLine.drop 7)) :=
    ⟨[], okLine.drop 7, rfl, rfl, rfl, by decide, fun h => absurd h (by decide), rfl⟩
  have hsecond : (readLoop false okLine).step (.reading (okLine.take 7) (okLine.drop 7))
      ⟨4096, okLine.drop 7⟩ (.reading okLine []) :=
    ⟨okLine.take 7, [], rfl, rfl, rfl, by decide, fun h => absurd h (by decide), rfl⟩
  have hrun : Run (readLoop false okLine) ([⟨4096, okLine.take 7⟩] ++ [⟨4096, okLine.drop 7⟩])
      (.reading okLine []) :=
    ⟨_, rfl, (Path.single hfirst).snoc hsecond⟩
  have hread := (response_read okResponse_line hkeyed (List.prefix_refl _)).1 _ _ hrun
  refine ⟨_, _, hrun, rfl, .ok okLine, rfl, ?_⟩
  rw [hread.2.2.2 (.ok okLine) rfl]
  unfold responseRead
  rw [if_neg (by decide), if_pos rfl]

/-- A response with a text of some length. -/
def textResponse (n : Nat) : Dict := [(.str (py "m"), .str (List.replicate n 97))]

def textLine (n : Nat) : List UInt8 :=
  utf8Bytes ((Value.map (textResponse n)).jsonText codedDoubles false ++ py "\n")

theorem textResponse_line (n : Nat) : ResponseLine codedDoubles (textResponse n) (textLine n) ∧
    (Value.map (textResponse n)).Keyed ∧ n < (textLine n).length := by
  have hplain : (List.replicate n (97 : CodePoint)).all CodePoint.isPlain = true := by
    rw [List.all_eq_true]
    intro c hc
    rw [List.eq_of_mem_replicate hc]
    decide
  have hascii : PyStr.isAscii (List.replicate n (97 : CodePoint)) = true := by
    unfold PyStr.isAscii
    rw [List.all_eq_true]
    intro c hc
    rw [List.eq_of_mem_replicate hc]
    decide
  let opening : PyStr := py "\x7b" ++ (jsonString false (py "m") ++ py ":") ++ py "\""
  let closing : PyStr := py "\"" ++ py "\x7d"
  have htext : (Value.map (textResponse n)).jsonText codedDoubles false
      = opening ++ List.replicate n 97 ++ closing := by
    show py "\x7b" ++ ([] ++ (jsonString false (py "m") ++ py ":"
      ++ jsonString false (List.replicate n 97)) ++ []) ++ py "\x7d" = _
    rw [jsonString_of_plain hplain]
    simp only [opening, closing, List.nil_append, List.append_nil, List.append_assoc]
  refine ⟨⟨_, dumps_ok.mpr ⟨rfl, rfl⟩, encode_utf8_ok.mpr ⟨?_, rfl⟩⟩,
    ⟨List.nodup_singleton _, trivial, trivial⟩, ?_⟩
  · rw [htext, PyStr.encodable_append, PyStr.encodable_append, PyStr.encodable_append,
      PyStr.encodable_of_isAscii hascii]
    decide
  · have hlength := length_utf8Bytes_of_isAscii hascii
    unfold textLine
    rw [htext, utf8Bytes_append, utf8Bytes_append, utf8Bytes_append, List.length_append,
      List.length_append, List.length_append, hlength, List.length_replicate]
    have hnewline : (utf8Bytes (py "\n")).length = 1 := rfl
    omega

/-- The line of a long response, cut behind one byte more than the limit. -/
def cutLine : List UInt8 := (textLine 70000).take (MAX_CONTROL_FRAME_BYTES + 1)

/-- A stream that ends early, but beyond the limit, is not taken for an answer that
is missing: the loop raises `FRAME_TOO_LARGE`. -/
theorem early_end_too_large :
    ResponseLine codedDoubles (textResponse 70000) (textLine 70000) ∧
    (Value.map (textResponse 70000)).Keyed ∧
    cutLine <+: textLine 70000 ∧ cutLine ≠ textLine 70000 ∧
    (∃ calls s, Run (readLoop false cutLine) calls s ∧
      s.outcome = some (.error responseTooLarge)) ∧
    ∀ broken, responseTooLarge ≠ streamEnded broken := by
  obtain ⟨hline, hkeyed, hlength⟩ := textResponse_line 70000
  have hcut : cutLine.length = MAX_CONTROL_FRAME_BYTES + 1 := by
    unfold cutLine MAX_CONTROL_FRAME_BYTES at *
    rw [List.length_take]
    omega
  have hpart : cutLine <+: textLine 70000 := List.take_prefix ..
  obtain ⟨body, hbody, hsplit⟩ := hline.body
  obtain ⟨calls, s, hpath, hs⟩ := receive_run false cutLine (fun _ => 4096) 0 [] cutLine
  have hrun : Run (readLoop false cutLine) calls s := ⟨_, rfl, hpath⟩
  have hresult := outcome_of_inv (readInv_run hrun) hbody (hsplit ▸ hpart) hs
  rw [if_pos (by omega)] at hresult
  refine ⟨hline, hkeyed, hpart, ?_, ⟨calls, s, hrun, by rw [hs, hresult]⟩, ?_⟩
  · intro heq
    rw [← heq, hcut] at hlength
    exact absurd hlength (by decide)
  · intro broken heq
    cases broken <;> cases heq

end OvenRuntime
