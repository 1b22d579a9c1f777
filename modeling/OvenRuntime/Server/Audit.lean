/-
  OvenRuntime.Server.Audit
  ────────────────────────
  The server's trial evidence: one active trial at a time, one directory per
  trial that is created once and never overwritten by another trial.

  Every file operation may raise, before or after its effect is visible; the
  environment hands each call an `Io` with the outcomes of its operations.
-/
import OvenRuntime.Common.Files
import OvenRuntime.Common.Protocol

namespace OvenRuntime

/-! ## §1. The stored data. -/

inductive TrialStatus where
  | ACTIVE
  | COMMITTED
  | ABORTED
  | AMBIGUOUS_INFERENCE
  deriving DecidableEq, Repr

/-- The JSON object of a manifest or summary; a key the source leaves out for
some status is `none` there. -/
structure TrialRecord where
  schema_version : Nat := 1
  trial_id : PyStr
  skill : PyStr
  generation : Nat
  root_seed : Int
  status : TrialStatus
  reason : Option PyStr := none
  request_count : Option Nat := none
  first_action_hash : Option Digest := none
  last_action_hash : Option Digest := none
  ambiguous_sequence : Option Int := none
  deriving DecidableEq

/-- The strings of a record that `json.dump` has to encode. -/
def TrialRecord.encodable (r : TrialRecord) : Bool :=
  r.trial_id.encodable && r.skill.encodable && (r.reason.map PyStr.encodable).getD true

/-- One line of `requests.jsonl`. -/
structure RequestRow where
  schema_version : Nat := 1
  session_id : PyStr
  trial_id : PyStr
  skill : PyStr
  generation : Int
  sequence : Int
  request_kind : PyStr
  request_hash : Digest
  observation_hash : Digest
  noise_hash : PyStr
  action_hash : Digest
  diagnostics : Option Value := none

/-- The strings of a row that the appended line has to encode. -/
def RequestRow.encodable (r : RequestRow) : Bool :=
  r.session_id.encodable && r.trial_id.encodable && r.skill.encodable && r.noise_hash.encodable

/-- `first_action_chunk.json`. -/
structure ChunkRecord where
  schema_version : Nat := 1
  trial_id : PyStr
  sequence : Int
  shape : List Nat
  dtype : PyStr
  action_hash : Digest

/-- The files of one trial directory. -/
structure TrialDir where
  server_manifest : Option TrialRecord := none
  trial_summary : Option TrialRecord := none
  requests : List RequestRow := []
  first_action_chunk_npy : Option NdArray := none
  first_action_chunk_json : Option ChunkRecord := none

/-- The trial being recorded. -/
structure ActiveTrial where
  trial_id : PyStr
  skill : PyStr
  generation : Nat
  root_seed : Int
  request_count : Nat := 0
  first_action_hash : Option Digest := none
  last_action_hash : Option Digest := none
  deriving DecidableEq

/-- The store: the active trial and the directories below the audit root,
each named by its trial id. -/
structure TrialAuditStore where
  active : Option ActiveTrial := none
  dirs : PyStr → Option TrialDir := fun _ => none

/-- The numerical library behind hashing and diagnostics, and the interpreter behind both. -/
structure Numerics where
  /-- `stable_tree_hash`, or what it raises on an unhashable tree. -/
  stable_tree_hash : Value → Except PyError Digest
  /-- `_inference_diagnostics`. -/
  inference_diagnostics : Value → Dict → Except PyError Value
  /-- `np.asarray`. -/
  asarray : Value → Except PyError NdArray
  /-- `repr(value)` stays within the recursion limit of the interpreter. -/
  repr_fits : Value → Bool

/-! ## §2. Writing into a directory. -/

/-- Update the files of one directory if the write took effect. -/
def TrialAuditStore.writeIf (st : TrialAuditStore) (name : PyStr) (applied : Bool)
    (f : TrialDir → TrialDir) : TrialAuditStore :=
  if applied then
    { st with dirs := fun d => if d = name then (st.dirs d).map f else st.dirs d }
  else st

@[simp] theorem TrialAuditStore.writeIf_active (st : TrialAuditStore) (name : PyStr)
    (b : Bool) (f : TrialDir → TrialDir) : (st.writeIf name b f).active = st.active := by
  unfold TrialAuditStore.writeIf
  split <;> rfl

/-- Writing into a directory neither creates nor removes any. -/
@[simp] theorem TrialAuditStore.writeIf_isSome (st : TrialAuditStore) (name d : PyStr)
    (b : Bool) (f : TrialDir → TrialDir) :
    ((st.writeIf name b f).dirs d).isSome = (st.dirs d).isSome := by
  unfold TrialAuditStore.writeIf
  split
  · by_cases h : d = name <;> simp [h]
  · rfl

/-- An `OSError` becomes an audit fault; anything else passes through. -/
def auditFault (message : String) (details : List (String × Value)) (e : PyError) : Exn :=
  if e.isOSError then fault .AUDIT_COMMIT_FAILED message details else .error e

/-! ## §3. The operations. -/

/-- The manifest `begin` writes. -/
def beginManifest (trial_id skill : PyStr) (generation : Nat) (root_seed : Int) : TrialRecord :=
  { trial_id := trial_id, skill := skill, generation := generation, root_seed := root_seed,
    status := .ACTIVE }

/-- The errors of `begin`'s two file operations. -/
def beginFault (trial_id : PyStr) (e : PyError) : Exn :=
  if e = .FileExistsError then
    fault .AUDIT_COMMIT_FAILED "trial directory already exists" [("trial_id", .str trial_id)]
  else auditFault "cannot create server audit trial" [("trial_id", .str trial_id)] e

/-- `begin`, once the directory exists: write the manifest, activate. -/
def TrialAuditStore.beginWrite (st : TrialAuditStore) (trial_id skill : PyStr)
    (generation : Nat) (root_seed : Int) (w : WriteOutcome) :
    Except Exn ActiveTrial × TrialAuditStore :=
  let manifest := beginManifest trial_id skill generation root_seed
  let (raised, replaced) := _atomic_json w manifest.encodable
  let st := st.writeIf trial_id replaced fun d => { d with server_manifest := some manifest }
  match raised with
  | some e => (.error (beginFault trial_id e), st)
  | none =>
      let active : ActiveTrial :=
        { trial_id := trial_id, skill := skill, generation := generation, root_seed := root_seed }
      (.ok active, { st with active := some active })

/-- `directory.mkdir(parents=True, exist_ok=False)`, once it takes effect. -/
def TrialAuditStore.mkdir (st : TrialAuditStore) (trial_id : PyStr) : TrialAuditStore :=
  { st with dirs := fun d => if d = trial_id then some {} else st.dirs d }

@[simp] theorem TrialAuditStore.mkdir_active (st : TrialAuditStore) (trial_id : PyStr) :
    (st.mkdir trial_id).active = st.active := rfl

@[simp] theorem TrialAuditStore.mkdir_self (st : TrialAuditStore) (trial_id : PyStr) :
    (st.mkdir trial_id).dirs trial_id = some {} := by
  simp [TrialAuditStore.mkdir]

/-- `TrialAuditStore.begin`. -/
def TrialAuditStore.begin (st : TrialAuditStore) (trial_id skill : PyStr)
    (generation : Nat) (root_seed : Int) (io : Io) :
    Except Exn ActiveTrial × TrialAuditStore :=
  match st.active with
  | some _ => (.error (fault .TRIAL_ALREADY_ACTIVE "a server audit trial is already active"), st)
  | none =>
      if (st.dirs trial_id).isSome then (.error (beginFault trial_id .FileExistsError), st)
      else
        match io 0 with
        | .raised e applied =>
            (.error (beginFault trial_id e), if applied then st.mkdir trial_id else st)
        | .done => (st.mkdir trial_id).beginWrite trial_id skill generation root_seed (io 1)

/-- The first chunk of a trial: the array, then its description. -/
def TrialAuditStore.writeFirstChunk (nx : Numerics) (st : TrialAuditStore)
    (active : ActiveTrial) (row : RequestRow) (actions : Value) (io : Io) :
    Option PyError × TrialAuditStore :=
  match nx.asarray actions with
  | .error e => (some e, st)
  | .ok array =>
      let (raised, replaced) := _atomic_json (io 0) true
      let st := st.writeIf active.trial_id replaced fun d =>
        { d with first_action_chunk_npy := some array }
      match raised with
      | some e => (some e, st)
      | none =>
          let chunk : ChunkRecord :=
            { trial_id := active.trial_id, sequence := row.sequence, shape := array.shape,
              dtype := array.dtype, action_hash := row.action_hash }
          let (raised, replaced) := _atomic_json (io 1)
            (active.trial_id.encodable && array.dtype.encodable)
          (raised, st.writeIf active.trial_id replaced fun d =>
            { d with first_action_chunk_json := some chunk })

/-- The guarded body of `record_request`: everything an `OSError` may end. -/
def TrialAuditStore.writeRow (nx : Numerics) (st : TrialAuditStore) (active : ActiveTrial)
    (row : RequestRow) (actions : Value) (observation : Dict) (io : Io) :
    Option PyError × TrialAuditStore :=
  match nx.inference_diagnostics actions observation with
  | .error e => (some e, st)
  | .ok diagnostics =>
      let row := { row with diagnostics := some diagnostics }
      let (raised, st) :=
        if row.request_kind = py "infer" ∧ active.first_action_hash = none then
          st.writeFirstChunk nx active row actions io
        else (none, st)
      match raised with
      | some e => (some e, st)
      | none =>
          let (raised, appended) := _atomic_json (io 2) row.encodable
          (raised, st.writeIf active.trial_id appended fun d =>
            { d with requests := d.requests ++ [row] })

/-- The counters after a recorded request. -/
def ActiveTrial.counted (active : ActiveTrial) (row : RequestRow) : ActiveTrial :=
  { active with
    request_count := active.request_count + 1
    first_action_hash :=
      if row.request_kind = py "infer" ∧ active.first_action_hash = none then
        some row.action_hash
      else active.first_action_hash
    last_action_hash :=
      if row.request_kind = py "infer" then some row.action_hash else active.last_action_hash }

/-- `TrialAuditStore.record_request`. -/
def TrialAuditStore.record_request (nx : Numerics) (st : TrialAuditStore) (row : RequestRow)
    (actions : Value) (observation : Dict) (io : Io) : Except Exn Unit × TrialAuditStore :=
  match st.active with
  | none => (.error (fault .TRIAL_REQUIRED "no active server audit trial"), st)
  | some active =>
      let (raised, st) := st.writeRow nx active row actions observation io
      match raised with
      | some e => (.error (auditFault "cannot append server request evidence" [] e), st)
      | none => (.ok (), { st with active := some (active.counted row) })

/-- The summary `end` writes twice. -/
def ActiveTrial.summary (active : ActiveTrial) : TrialRecord :=
  { trial_id := active.trial_id, skill := active.skill, generation := active.generation,
    root_seed := active.root_seed, status := .COMMITTED,
    request_count := some active.request_count,
    first_action_hash := active.first_action_hash,
    last_action_hash := active.last_action_hash }

/-- `TrialAuditStore.end`: two atomic writes, then the trial is over. -/
def TrialAuditStore.end (st : TrialAuditStore) (io : Io) :
    Except Exn TrialRecord × TrialAuditStore :=
  match st.active with
  | none => (.error (fault .TRIAL_REQUIRED "no active server audit trial"), st)
  | some active =>
      let summary := active.summary
      let (raised, replaced) := _atomic_json (io 0) summary.encodable
      let st := st.writeIf active.trial_id replaced fun d =>
        { d with trial_summary := some summary }
      match raised with
      | some e => (.error (auditFault "cannot commit server audit trial" [] e), st)
      | none =>
          let (raised, replaced) := _atomic_json (io 1) summary.encodable
          let st := st.writeIf active.trial_id replaced fun d =>
            { d with server_manifest := some summary }
          match raised with
          | some e => (.error (auditFault "cannot commit server audit trial" [] e), st)
          | none => (.ok summary, { st with active := none })

/-- The manifest a terminated trial is left with. -/
def ActiveTrial.terminated (active : ActiveTrial) (status : TrialStatus) (reason : PyStr)
    (sequence : Option Int) : TrialRecord :=
  { trial_id := active.trial_id, skill := active.skill, generation := active.generation,
    root_seed := active.root_seed, status := status, reason := some reason,
    request_count := some active.request_count, ambiguous_sequence := sequence }

/-- `TrialAuditStore._terminate`. -/
def TrialAuditStore._terminate (st : TrialAuditStore) (status : TrialStatus) (reason : PyStr)
    (sequence : Option Int) (io : Io) : Except Exn (Option TrialRecord) × TrialAuditStore :=
  match st.active with
  | none => (.ok none, st)
  | some active =>
      let summary := active.terminated status reason sequence
      let (raised, replaced) := _atomic_json (io 0) summary.encodable
      let st := st.writeIf active.trial_id replaced fun d =>
        { d with server_manifest := some summary }
      match raised with
      | some e => (.error (auditFault "cannot terminate server audit trial" [] e), st)
      | none => (.ok (some summary), { st with active := none })

/-- `TrialAuditStore.abort`. -/
def TrialAuditStore.abort (st : TrialAuditStore) (reason : PyStr) (io : Io) :
    Except Exn (Option TrialRecord) × TrialAuditStore :=
  st._terminate .ABORTED reason none io

/-- `TrialAuditStore.mark_ambiguous`. -/
def TrialAuditStore.mark_ambiguous (st : TrialAuditStore) (reason : PyStr) (sequence : Int)
    (io : Io) : Except Exn (Option TrialRecord) × TrialAuditStore :=
  st._terminate .AMBIGUOUS_INFERENCE reason (some sequence) io

end OvenRuntime
