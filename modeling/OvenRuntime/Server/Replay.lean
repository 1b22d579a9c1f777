/-
  OvenRuntime.Server.Replay
  ─────────────────────────
  Running the system from a script: which calls begin and which choices the
  environment makes, in order.  A replay that gets through is a run
  (`replay_run`), so a concrete history is checked by evaluation.
-/
import OvenRuntime.Server.Calls

namespace OvenRuntime

/-- One line of a script. -/
inductive Move where
  | call (id : Nat) (op : Op)
  | step (id : Nat) (ch : Choice)

/-- Carry out one line, if the system can. -/
def Sys.move (cfg : RuntimeConfig) (nx : Numerics) (s : Sys) : Move → Option (Label × Sys)
  | .call id op =>
      match s.calls id with
      | none => some (.call id op, s.setCall s.rt id (op.start nx))
      | some _ => none
  | .step id ch =>
      match s.calls id with
      | some (.running pc) =>
          (callStep cfg nx id pc ch s.rt).map fun r =>
            (.step id pc ch r.2, s.setCall r.1 id r.2)
      | _ => none

/-- Carry out a whole script, collecting the labels. -/
def Sys.replay (cfg : RuntimeConfig) (nx : Numerics) : Sys → List Move → Option (List Label × Sys)
  | s, [] => some ([], s)
  | s, m :: ms =>
      match s.move cfg nx m with
      | none => none
      | some (l, s') => (s'.replay cfg nx ms).map fun r => (l :: r.1, r.2)

theorem Sys.move_step {cfg : RuntimeConfig} {nx : Numerics} {s s' : Sys} {m : Move} {l : Label}
    (h : s.move cfg nx m = some (l, s')) : Step cfg nx s l s' := by
  cases m with
  | call id op =>
      simp only [Sys.move] at h
      split at h
      · rename_i hnone
        cases h
        exact Step.call hnone
      · cases h
  | step id ch =>
      simp only [Sys.move] at h
      split at h
      · rename_i pc hpc
        obtain ⟨⟨rt, next⟩, hst, hr⟩ := Option.map_eq_some_iff.mp h
        cases hr
        exact Step.step hpc hst
      · cases h

/-- **A replay is a path of the system.** -/
theorem Sys.replay_path {cfg : RuntimeConfig} {nx : Numerics} {s s' : Sys} {ms : List Move}
    {ls : List Label} (h : s.replay cfg nx ms = some (ls, s')) :
    TransitionSystem.Path (runtimeSystem cfg nx) s ls s' := by
  induction ms generalizing s ls with
  | nil =>
      cases h
      exact .nil _
  | cons m ms ih =>
      simp only [Sys.replay] at h
      split at h
      · cases h
      · rename_i l s₁ hm
        obtain ⟨⟨ls', s''⟩, hr, he⟩ := Option.map_eq_some_iff.mp h
        cases he
        exact .cons (Sys.move_step hm) (ih hr)

/-- The labels a line of a script can have. -/
def Move.Labels : Move → Label → Prop
  | .call id op, l => l = .call id op
  | .step id ch, l => ∃ pc next, l = .step id pc ch next

theorem Sys.move_labels {cfg : RuntimeConfig} {nx : Numerics} {s s' : Sys} {m : Move} {l : Label}
    (h : s.move cfg nx m = some (l, s')) : m.Labels l := by
  cases m with
  | call id op =>
      simp only [Sys.move] at h
      split at h
      · cases h
        rfl
      · cases h
  | step id ch =>
      simp only [Sys.move] at h
      split at h
      · obtain ⟨r, -, hl⟩ := Option.map_eq_some_iff.mp h
        cases hl
        exact ⟨_, _, rfl⟩
      · cases h

/-- The system over a runtime just constructed. -/
def Sys.initial (dirs : PyStr → Option TrialDir) : Sys :=
  { rt := PolicyRuntime.init dirs, calls := fun _ => none }

/-- A replay from construction is a run. -/
theorem Sys.replay_run {cfg : RuntimeConfig} {nx : Numerics} {dirs : PyStr → Option TrialDir}
    {s : Sys} {ms : List Move} {ls : List Label}
    (h : (Sys.initial dirs).replay cfg nx ms = some (ls, s)) : RuntimeRun cfg nx ls s :=
  ⟨_, ⟨dirs, rfl⟩, Sys.replay_path h⟩

/-- A replay that passes a test gives a run that passes it. -/
theorem Sys.exists_run (cfg : RuntimeConfig) (nx : Numerics) (dirs : PyStr → Option TrialDir)
    (ms : List Move) (p : List Label → Sys → Bool)
    (h : ((Sys.initial dirs).replay cfg nx ms).map (fun r => p r.1 r.2) = some true) :
    ∃ ls s, RuntimeRun cfg nx ls s ∧ p ls s = true := by
  obtain ⟨⟨ls, s⟩, hr, hp⟩ := Option.map_eq_some_iff.mp h
  exact ⟨ls, s, Sys.replay_run hr, hp⟩

/-- The call has ended with an exception. -/
def Sys.raised (s : Sys) (id : Nat) : Bool :=
  match s.calls id with
  | some (.returned (.error _)) => true
  | _ => false

/-- The response a call has returned. -/
def Sys.response (s : Sys) (id : Nat) : Option InferenceResponse :=
  match s.calls id with
  | some (.returned (.ok (.response response))) => some response
  | _ => none

theorem Sys.calls_of_response {s : Sys} {id : Nat} {response : InferenceResponse}
    (h : s.response id = some response) :
    s.calls id = some (.returned (.ok (.response response))) := by
  unfold Sys.response at h
  split at h
  · rename_i hc
    cases h
    exact hc
  · cases h

/-- The call is running. -/
def Sys.runs (s : Sys) (id : Nat) : Bool :=
  match s.calls id with
  | some (.running _) => true
  | _ => false

/-- The call has returned. -/
def Sys.returns (s : Sys) (id : Nat) : Bool :=
  match s.calls id with
  | some (.returned _) => true
  | _ => false

theorem Sys.calls_of_returns {s : Sys} {id : Nat} (h : s.returns id = true) :
    ∃ out, s.calls id = some (.returned out) := by
  unfold Sys.returns at h
  split at h
  · exact ⟨_, ‹_›⟩
  · cases h

/-- The request a call has brought to the policy, and the lease it is for. -/
def Sys.admitted (s : Sys) (id : Nat) : Option (InferenceRequest × SessionLease) :=
  match s.calls id, s.rt.session with
  | some (.running (.inferPolicy request ref)), some lease =>
      if ref = lease.ref then some (request, lease) else none
  | _, _ => none

/-- The report of a lost response a call is about to make. -/
def Sys.report (s : Sys) (id : Nat) : Option (PyStr × Int) :=
  match s.calls id with
  | some (.running (.markAmbiguous session_id sequence)) => some (session_id, sequence)
  | _ => none

theorem Sys.calls_of_report {s : Sys} {id : Nat} {session_id : PyStr} {sequence : Int}
    (h : s.report id = some (session_id, sequence)) :
    s.calls id = some (.running (.markAmbiguous session_id sequence)) := by
  unfold Sys.report at h
  split at h
  · rename_i hc
    cases h
    exact hc
  · cases h

/-- A replay and one more line that pass a test give a run and a step that do. -/
theorem Sys.exists_step (cfg : RuntimeConfig) (nx : Numerics) (dirs : PyStr → Option TrialDir)
    (ms : List Move) (m : Move) (p : List Label → Sys → Label → Sys → Bool)
    (h : (((Sys.initial dirs).replay cfg nx ms).bind fun r =>
      (r.2.move cfg nx m).map fun q => p r.1 r.2 q.1 q.2) = some true) :
    ∃ ls s l s', RuntimeRun cfg nx ls s ∧ Step cfg nx s l s' ∧ p ls s l s' = true := by
  obtain ⟨⟨ls, s⟩, hr, hm⟩ := Option.bind_eq_some_iff.mp h
  obtain ⟨⟨l, s'⟩, hstep, hp⟩ := Option.map_eq_some_iff.mp hm
  exact ⟨ls, s, l, s', Sys.replay_run hr, Sys.move_step hstep, hp⟩

/-! ## Scripts of the usual protocol. -/

/-- A configuration with the source's default timeouts. -/
def defaultConfig : RuntimeConfig :=
  { session_ttl_sec := 600, inference_lock_timeout_sec := 5, timeouts_positive := by decide }

/-- Hashes and diagnostics that never fail; their values do not matter here. -/
def constNumerics : Numerics :=
  { stable_tree_hash := fun _ => .ok (List.replicate 32 0)
    inference_diagnostics := fun _ _ => .ok (.map [(.str (py "available"), .bool false)])
    asarray := fun _ => .ok { dtype := py "float64", shape := [0], data := [] }
    repr_fits := fun _ => true }

/-- `prepare_skill` of a skill the backend loads at once. -/
def prepareMoves (id : Nat) (skill : PyStr) : List Move :=
  [.call id (.prepare_skill skill 30), .step id (.clocks 0 0), .step id .acquired,
   .step id (.loaded (.ok { backend := py "fake", skill := skill, model_id := py "fake" })),
   .step id .go, .step id .go]

/-- `begin_trial` with working files. -/
def beginMoves (id : Nat) (trial_id : PyStr) : List Move :=
  [.call id (.begin_trial (.str trial_id) (.int 7)), .step id .acquired,
   .step id (.begun (.ok ()) Io.clean), .step id .go]

/-- `open_session`. -/
def openMoves (id : Nat) (session_id token : PyStr) : List Move :=
  [.call id .open_session, .step id (.drawn session_id token 0)]

/-- Skill, trial and session, as the pipeline sets them up. -/
def warmUp (session_id token : PyStr) : List Move :=
  prepareMoves 0 (py "fold") ++ beginMoves 1 (py "run_0_fold") ++ openMoves 2 session_id token

def sampleId : PyStr := py "00000000-0000-4000-8000-000000000000"

def sampleToken : PyStr := py "abcdefghijklmnopqrstuvwxyz0123456789_-ABCDE"

/-- The request with a sequence number, in the session of `warmUp`. -/
def samplePayload (sequence : Int) : Value :=
  .map
    [(.str (py "protocol_version"), .int PROTOCOL_VERSION),
     (.str (py "message_type"), .str (py "inference_request")),
     (.str (py "session_id"), .str sampleId),
     (.str (py "session_token"), .str sampleToken),
     (.str (py "trial_id"), .str (py "run_0_fold")),
     (.str (py "request_kind"), .str (py "infer")),
     (.str (py "expected_skill"), .str (py "fold")),
     (.str (py "expected_generation"), .int 1),
     (.str (py "sequence"), .int sequence),
     (.str (py "sent_at_monotonic_ns"), .int 0),
     (.str (py "observation"), .map [])]

/-- An inference up to the point where the policy has answered. -/
def policyMoves (id : Nat) (sequence : Int) : List Move :=
  [.call id (.infer (samplePayload sequence)), .step id .acquired, .step id (.clock 1),
   .step id (.inferred (.ok { actions := .list [], noise_hash := [] }))]

/-- A whole inference. -/
def inferMoves (id : Nat) (sequence : Int) : List Move :=
  policyMoves id sequence ++
    [.step id (.io Io.clean), .step id .go, .step id .go, .step id .go]

/-- An inference in which the policy raises. -/
def failingMoves (id : Nat) (sequence : Int) : List Move :=
  [.call id (.infer (samplePayload sequence)), .step id .acquired, .step id (.clock 1),
   .step id (.inferred (.error (.error .RuntimeError))), .step id .go, .step id .go, .step id .go]

/-- An inference that is not admitted. -/
def refusedMoves (id : Nat) (sequence : Int) : List Move :=
  [.call id (.infer (samplePayload sequence)), .step id .acquired, .step id (.clock 1),
   .step id .go]

end OvenRuntime
