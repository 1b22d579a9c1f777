/-
  OvenRuntime.System.ProcessReplay
  ────────────────────────────────
  Running the server process from a script, as Server/Replay does the runtime.
  A replay that gets through is a run of the process (`ServerProcess.exists_run`).
-/
import OvenRuntime.Server.ProcessRules
import OvenRuntime.System.HonestReply

namespace OvenRuntime

open TransitionSystem

instance (op : Op) : Decidable op.commanded := by
  cases op
  case infer => exact instDecidableFalse
  case mark_transport_ambiguous => exact instDecidableFalse
  case close => exact instDecidableFalse
  all_goals exact instDecidableTrue

/-- One line of a script. -/
inductive ServerMove where
  | step (id : Nat) (ch : Choice)
  | control (id : Nat) (op : Op)
  | resume
  | accept (k : Nat)
  /-- A frame arrives; `id` is for the call of `infer`. -/
  | frame (k : Nat) (frame : PyObj) (id : Nat)
  | result (k : Nat)
  | send (k : Nat)
  /-- The response cannot be returned; `mark` is for the call that reports it. -/
  | fail (k mark : Nat)
  | reported (k : Nat)
  | hangUp (k : Nat)
  | stop
  | shutdown (id : Nat)

/-- What a call of `infer` has come to. -/
def Sys.inferred (s : Sys) (id : Nat) : Option (Except Exn InferenceResponse) :=
  match s.calls id with
  | some (.returned (.ok (.response response))) => some (.ok response)
  | some (.returned (.error e)) => some (.error e)
  | _ => none

theorem Sys.calls_of_inferred {s : Sys} {id : Nat} {out : Except Exn InferenceResponse}
    (h : s.inferred id = some out) : s.calls id = some (.returned (out.map .response)) := by
  unfold Sys.inferred at h
  split at h
  · next hc =>
      cases h
      exact hc
  · next hc =>
      cases h
      exact hc
  · cases h

/-- The connection's handler has ended, or there is no such connection. -/
def ServerProcess.gone (s : ServerProcess) (k : Nat) : Bool :=
  match s.handlers k with
  | none | some .ended => true
  | some _ => false

section Replay

variable (cfg : RuntimeConfig) (nx : Numerics) (lib : Library) (mp : MessagePack)
  (server : LoopbackInferenceServer)

/-- Carry out one line, if the process can; `ks` are the connections it has
accepted. -/
def ServerProcess.move (ks : List Nat) (s : ServerProcess) :
    ServerMove → Option (ServerEvent × ServerProcess)
  | .step id ch =>
      (s.sys.move cfg nx (.step id ch)).bind fun r =>
        match r.1 with
        | .step id pc ch next => some (.step id pc ch next, { s with sys := r.2 })
        | .call _ _ => none
  | .control id op =>
      if s.loop.isNone ∧ op.commanded ∧ (s.sys.calls id).isNone then
        some (.control id op, s.enter (s.sys.setCall s.sys.rt id (op.start nx)) id none)
      else none
  | .resume =>
      match s.loop with
      | some ⟨id, none⟩ => if s.sys.returns id then some (.resume, { s with loop := none }) else none
      | _ => none
  | .accept k =>
      if s.loop.isNone ∧ s.stopping = false ∧ (s.handlers k).isNone then
        some (.accept k, s.setHandler k .receiving)
      else none
  | .frame k frame id =>
      match s.loop, s.handlers k with
      | none, some .receiving =>
          match server._process_frame lib mp frame with
          | .error response => some (.reject k frame, s.setHandler k (.sending none response))
          | .ok payload =>
              if (s.sys.calls id).isNone then
                some (.receive k frame payload id, ServerProcess.setHandler
                  { s with sys := s.sys.setCall s.sys.rt id ((Op.infer payload).start nx) } k
                  (.inferring id))
              else none
      | _, _ => none
  | .result k =>
      match s.loop, s.handlers k with
      | none, some (.inferring id) =>
          (s.sys.inferred id).map fun out => (.result k id,
            s.setHandler k (.sending (some id) (LoopbackInferenceServer._process_result out)))
      | _, _ => none
  | .send k =>
      match s.loop, s.handlers k with
      | none, some (.sending id response) =>
          if (server.encoded lib mp response).isOk then
            some (.send k id response, s.setHandler k .receiving)
          else none
      | _, _ => none
  | .fail k mark =>
      match s.loop, s.handlers k with
      | none, some (.sending id response) =>
          match LoopbackInferenceServer.lost response with
          | none => some (.drop k id, s.setHandler k .ended)
          | some (session_id, sequence) =>
              if (s.sys.calls mark).isNone then
                some (.report k id mark session_id sequence,
                  (s.enter (s.sys.setCall s.sys.rt mark
                    ((Op.mark_transport_ambiguous session_id sequence).start nx)) mark
                      (some k)).setHandler k .reporting)
              else none
      | _, _ => none
  | .reported k =>
      match s.loop with
      | some ⟨mark, some j⟩ =>
          if j = k ∧ s.sys.returns mark then
            some (.reported k, ServerProcess.setHandler { s with loop := none } k .ended)
          else none
      | _ => none
  | .hangUp k =>
      match s.loop, s.handlers k with
      | none, some .receiving => some (.hangUp k, s.setHandler k .ended)
      | _, _ => none
  | .stop => if s.loop.isNone then some (.stop, { s with stopping := true }) else none
  | .shutdown id =>
      if s.loop.isNone ∧ s.stopping = true ∧ s.closed = false ∧ ks.all s.gone ∧
          (s.sys.calls id).isNone then
        some (.shutdown id,
          { s.enter (s.sys.setCall s.sys.rt id (Op.close.start nx)) id none with closed := true })
      else none

/-- The connection a step accepts. -/
def ServerEvent.accepts : ServerEvent → Option Nat
  | .accept k => some k
  | _ => none

/-- Carry out a whole script. -/
def ServerProcess.replay :
    List Nat → ServerProcess → List ServerMove → Option (List ServerEvent × ServerProcess)
  | _, s, [] => some ([], s)
  | ks, s, m :: ms =>
      (s.move cfg nx lib mp server ks m).bind fun r =>
        (ServerProcess.replay (ks ++ r.1.accepts.toList) r.2 ms).map fun q => (r.1 :: q.1, q.2)

variable {cfg nx lib mp server} {s s' : ServerProcess} {e : ServerEvent} {ks : List Nat}

theorem ServerProcess.ended_of_gone (hks : ∀ k, s.handlers k ≠ none → k ∈ ks)
    (hgone : ks.all s.gone = true) (k : Nat) (h : Handler) (hk : s.handlers k = some h) :
    h = .ended := by
  have hmem : k ∈ ks := hks k (by rw [hk]; exact Option.some_ne_none h)
  have hend : s.gone k = true := List.all_eq_true.mp hgone k hmem
  unfold ServerProcess.gone at hend
  rw [hk] at hend
  split at hend
  · next heq => cases heq
  · next heq => exact Option.some_inj.mp heq
  · cases hend

/-- **A line that can be carried out is a step of the process.** -/
theorem ServerProcess.move_step {m : ServerMove} (hks : ∀ k, s.handlers k ≠ none → k ∈ ks)
    (h : s.move cfg nx lib mp server ks m = some (e, s')) :
    ServerStep cfg nx lib mp server s e s' := by
  cases m with
  | step id ch =>
      simp only [ServerProcess.move] at h
      obtain ⟨⟨l, sys⟩, hmove, hr⟩ := Option.bind_eq_some_iff.mp h
      simp only at hr
      split at hr
      · cases hr
        exact .step (Sys.move_step hmove)
      · cases hr
  | control id op =>
      simp only [ServerProcess.move] at h
      split at h
      · next hcond =>
          cases h
          obtain ⟨hfree, hop, hnew⟩ := hcond
          exact .control (Option.isNone_iff_eq_none.mp hfree) hop
            (.call (Option.isNone_iff_eq_none.mp hnew))
      · cases h
  | resume =>
      simp only [ServerProcess.move] at h
      split at h
      · next hloop =>
          split at h
          · next hret =>
              cases h
              obtain ⟨out, hout⟩ := Sys.calls_of_returns hret
              exact .resume hloop hout
          · cases h
      · cases h
  | accept k =>
      simp only [ServerProcess.move] at h
      split at h
      · next hcond =>
          cases h
          exact .accept (Option.isNone_iff_eq_none.mp hcond.1) hcond.2.1
            (Option.isNone_iff_eq_none.mp hcond.2.2)
      · cases h
  | frame k frame id =>
      simp only [ServerProcess.move] at h
      split at h
      · next hfree hk =>
          split at h
          · next hframe =>
              cases h
              exact .reject hfree hk hframe
          · next hframe =>
              split at h
              · next hnew =>
                  cases h
                  exact .receive hfree hk hframe (.call (Option.isNone_iff_eq_none.mp hnew))
              · cases h
      · cases h
  | result k =>
      simp only [ServerProcess.move] at h
      split at h
      · next hfree hk =>
          obtain ⟨out, hout, hr⟩ := Option.map_eq_some_iff.mp h
          cases hr
          exact .result hfree hk (Sys.calls_of_inferred hout)
      · cases h
  | send k =>
      simp only [ServerProcess.move] at h
      split at h
      · next hfree hk =>
          split at h
          · next hencoded =>
              cases h
              obtain ⟨b, hb⟩ := exists_of_isOk hencoded
              exact .send hfree hk hb
          · cases h
      · cases h
  | fail k mark =>
      simp only [ServerProcess.move] at h
      split at h
      · next hfree hk =>
          split at h
          · next hlost =>
              cases h
              exact .drop hfree hk hlost
          · next hlost =>
              split at h
              · next hnew =>
                  cases h
                  exact .report hfree hk hlost (.call (Option.isNone_iff_eq_none.mp hnew))
              · cases h
      · cases h
  | reported k =>
      simp only [ServerProcess.move] at h
      split at h
      · next hloop =>
          split at h
          · next hcond =>
              cases h
              obtain ⟨rfl, hret⟩ := hcond
              obtain ⟨out, hout⟩ := Sys.calls_of_returns hret
              exact .reported hloop hout
          · cases h
      · cases h
  | hangUp k =>
      simp only [ServerProcess.move] at h
      split at h
      · next hfree hk =>
          cases h
          exact .hangUp hfree hk
      · cases h
  | stop =>
      simp only [ServerProcess.move] at h
      split at h
      · next hfree =>
          cases h
          exact .stop (Option.isNone_iff_eq_none.mp hfree)
      · cases h
  | shutdown id =>
      simp only [ServerProcess.move] at h
      split at h
      · next hcond =>
          cases h
          obtain ⟨hfree, hstopping, hclosed, hgone, hnew⟩ := hcond
          exact .shutdown (Option.isNone_iff_eq_none.mp hfree) hstopping hclosed
            (ServerProcess.ended_of_gone hks hgone) (.call (Option.isNone_iff_eq_none.mp hnew))
      · cases h

/-- A connection has been accepted. -/
theorem ServerStep.accepted {k : Nat} (hst : ServerStep cfg nx lib mp server s e s')
    (hinv : LoopInv s) (hk : s'.handlers k ≠ none) :
    s.handlers k ≠ none ∨ e.accepts = some k := by
  have hother : ∀ {s₁ : ServerProcess} {j : Nat} {c c' : Handler}, s₁.handlers = s.handlers →
      s.handlers j = some c' → (s₁.setHandler j c).handlers k ≠ none → s.handlers k ≠ none := by
    intro s₁ j c c' hsame hj hk
    by_cases heq : k = j
    · rw [heq, hj]
      exact Option.some_ne_none c'
    · rw [ServerProcess.setHandler_other s₁ c heq, hsame] at hk
      exact hk
  cases hst with
  | step | control | resume | stop | shutdown => exact .inl hk
  | @accept j =>
      by_cases heq : k = j
      · exact .inr (congrArg some heq.symm)
      · rw [ServerProcess.setHandler_other s _ heq] at hk
        exact .inl hk
  | receive _ hj | reject _ hj | result _ hj | send _ hj | drop _ hj | report _ hj | hangUp _ hj
  | cancel _ hj => exact .inl (hother rfl hj hk)
  | reported hloop => exact .inl (hother rfl ((hinv.reporting _).mpr ⟨_, hloop⟩) hk)

/-- **A replay is a path of the process.** -/
theorem ServerProcess.replay_path {ms : List ServerMove} {es : List ServerEvent}
    (hks : ∀ k, s.handlers k ≠ none → k ∈ ks) (hinv : LoopInv s)
    (h : s.replay cfg nx lib mp server ks ms = some (es, s')) :
    Path (serverProcess cfg nx lib mp server) s es s' := by
  induction ms generalizing s es ks with
  | nil =>
      cases h
      exact .nil _
  | cons m ms ih =>
      obtain ⟨⟨e, s₁⟩, hmove, hrest⟩ := Option.bind_eq_some_iff.mp h
      obtain ⟨⟨es', s₂⟩, hreplay, heq⟩ := Option.map_eq_some_iff.mp hrest
      cases heq
      have hst := ServerProcess.move_step hks hmove
      refine .cons hst (ih ?_ (hinv.step hst) hreplay)
      intro k hk
      rcases hst.accepted hinv hk with hold | hnew
      · exact List.mem_append_left _ (hks k hold)
      · exact List.mem_append_right _ (Option.mem_toList.mpr hnew)

/-- The process as `run_server` starts it. -/
def ServerProcess.initial (dirs : PyStr → Option TrialDir) : ServerProcess :=
  { sys := { rt := PolicyRuntime.init dirs, calls := fun _ => none }
    handlers := fun _ => none
    loop := none
    stopping := false
    closed := false }

variable (cfg nx lib mp server) in
/-- A replay that passes a test gives a run that passes it. -/
theorem ServerProcess.exists_run (dirs : PyStr → Option TrialDir) (ms : List ServerMove)
    (p : List ServerEvent → ServerProcess → Bool)
    (h : ((ServerProcess.initial dirs).replay cfg nx lib mp server [] ms).map
      (fun r => p r.1 r.2) = some true) :
    ∃ es s, ServerRun cfg nx lib mp server es s ∧ p es s = true := by
  obtain ⟨⟨es, s⟩, hreplay, hp⟩ := Option.map_eq_some_iff.mp h
  have hstart : ServerRun cfg nx lib mp server [] (ServerProcess.initial dirs) :=
    ⟨_, ⟨dirs, rfl⟩, .nil _⟩
  exact ⟨es, s, hstart.extend (ServerProcess.replay_path (fun k hk => absurd rfl hk)
    (ServerRun.loopInv hstart) hreplay), hp⟩

end Replay

/-! ## Scripts. -/

/-- A script of the runtime, for one call of the control server. -/
def commandMoves (ms : List Move) : List ServerMove :=
  ms.map (fun m => match m with
    | .call id op => .control id op
    | .step id ch => .step id ch) ++ [.resume]

/-- Skill, trial and session, by the control server. -/
def setUpMoves : List ServerMove :=
  commandMoves (prepareMoves 0 (py "fold")) ++ commandMoves (beginMoves 1 (py "run_0_fold")) ++
    commandMoves (openMoves 2 sampleId sampleToken)

/-- The frame of the request in `stridedPayload`. -/
def sampleFrame : PyObj := .bytes ((strideds.map packSmall).headD [])

def sampleServer : LoopbackInferenceServer := { max_frame_bytes_accepted := by decide }

/-- A connection that brings this request and gets the response. -/
def requestMoves (k id : Nat) : List ServerMove :=
  [.accept k, .frame k sampleFrame id, .step id .acquired, .step id (.clock 1),
   .step id (.inferred (.ok
     { actions := .ndarray (stridedPair.view tableLibrary)
       noise_hash := Digest.hex (List.replicate 32 0) })),
   .step id (.io Io.clean), .step id .go, .step id .go, .step id .go, .result k]

/-- `run_server` stops, and `close` goes through. -/
def shutdownMoves (id : Nat) : List ServerMove :=
  [.stop, .shutdown id, .step id (.io Io.clean), .step id (.backendClosed (.ok ())), .resume]

end OvenRuntime
