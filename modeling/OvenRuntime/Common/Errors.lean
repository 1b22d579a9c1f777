/-
  OvenRuntime.Common.Errors
  ─────────────────────────
  The stable error codes, the structured `RuntimeFault`, and everything else a
  Python statement of the runtime may raise.
-/
import OvenRuntime.Common.Value

namespace OvenRuntime

/-- The codes both hosts agree on. -/
inductive ErrorCode where
  | PROTOCOL_VERSION_UNSUPPORTED
  | INVALID_MESSAGE_TYPE
  | MISSING_REQUIRED_FIELD
  | UNEXPECTED_FIELD
  | INVALID_FIELD_TYPE
  | INVALID_FIELD_VALUE
  | FRAME_TOO_LARGE
  | FRAME_TYPE_REJECTED
  | FRAME_DECODE_FAILED
  | RESPONSE_MISMATCH
  | CONTROL_SERVER_UNAVAILABLE
  | SESSION_REQUIRED
  | SESSION_INVALID
  | SESSION_EXPIRED
  | SESSION_ALREADY_ACTIVE
  | TRIAL_ALREADY_ACTIVE
  | TRIAL_REQUIRED
  | TRIAL_MISMATCH
  | SKILL_MISMATCH
  | GENERATION_MISMATCH
  | SEQUENCE_MISMATCH
  | STATE_REJECTED
  | INFERENCE_BUSY
  | INFERENCE_TIMEOUT
  | POLICY_FAILED
  | ACTION_INVALID
  | OBSERVATION_STALE
  | JOINT_GATE_FAILED
  | CHECKER_FAILED
  | APPROVAL_REQUIRED
  | PIPELINE_FAILED
  | AUDIT_COMMIT_FAILED
  | CONFIG_INVALID
  | PATH_OUTSIDE_ROOT
  | SERVER_FAILED
  deriving DecidableEq, Repr

/-- `code.value`. -/
def ErrorCode.value : ErrorCode → String
  | PROTOCOL_VERSION_UNSUPPORTED => "PROTOCOL_VERSION_UNSUPPORTED"
  | INVALID_MESSAGE_TYPE => "INVALID_MESSAGE_TYPE"
  | MISSING_REQUIRED_FIELD => "MISSING_REQUIRED_FIELD"
  | UNEXPECTED_FIELD => "UNEXPECTED_FIELD"
  | INVALID_FIELD_TYPE => "INVALID_FIELD_TYPE"
  | INVALID_FIELD_VALUE => "INVALID_FIELD_VALUE"
  | FRAME_TOO_LARGE => "FRAME_TOO_LARGE"
  | FRAME_TYPE_REJECTED => "FRAME_TYPE_REJECTED"
  | FRAME_DECODE_FAILED => "FRAME_DECODE_FAILED"
  | RESPONSE_MISMATCH => "RESPONSE_MISMATCH"
  | CONTROL_SERVER_UNAVAILABLE => "CONTROL_SERVER_UNAVAILABLE"
  | SESSION_REQUIRED => "SESSION_REQUIRED"
  | SESSION_INVALID => "SESSION_INVALID"
  | SESSION_EXPIRED => "SESSION_EXPIRED"
  | SESSION_ALREADY_ACTIVE => "SESSION_ALREADY_ACTIVE"
  | TRIAL_ALREADY_ACTIVE => "TRIAL_ALREADY_ACTIVE"
  | TRIAL_REQUIRED => "TRIAL_REQUIRED"
  | TRIAL_MISMATCH => "TRIAL_MISMATCH"
  | SKILL_MISMATCH => "SKILL_MISMATCH"
  | GENERATION_MISMATCH => "GENERATION_MISMATCH"
  | SEQUENCE_MISMATCH => "SEQUENCE_MISMATCH"
  | STATE_REJECTED => "STATE_REJECTED"
  | INFERENCE_BUSY => "INFERENCE_BUSY"
  | INFERENCE_TIMEOUT => "INFERENCE_TIMEOUT"
  | POLICY_FAILED => "POLICY_FAILED"
  | ACTION_INVALID => "ACTION_INVALID"
  | OBSERVATION_STALE => "OBSERVATION_STALE"
  | JOINT_GATE_FAILED => "JOINT_GATE_FAILED"
  | CHECKER_FAILED => "CHECKER_FAILED"
  | APPROVAL_REQUIRED => "APPROVAL_REQUIRED"
  | PIPELINE_FAILED => "PIPELINE_FAILED"
  | AUDIT_COMMIT_FAILED => "AUDIT_COMMIT_FAILED"
  | CONFIG_INVALID => "CONFIG_INVALID"
  | PATH_OUTSIDE_ROOT => "PATH_OUTSIDE_ROOT"
  | SERVER_FAILED => "SERVER_FAILED"

/-- `list(ErrorCode)`. -/
def ErrorCode.members : List ErrorCode :=
  [PROTOCOL_VERSION_UNSUPPORTED, INVALID_MESSAGE_TYPE, MISSING_REQUIRED_FIELD, UNEXPECTED_FIELD,
   INVALID_FIELD_TYPE, INVALID_FIELD_VALUE, FRAME_TOO_LARGE, FRAME_TYPE_REJECTED,
   FRAME_DECODE_FAILED, RESPONSE_MISMATCH, CONTROL_SERVER_UNAVAILABLE, SESSION_REQUIRED,
   SESSION_INVALID, SESSION_EXPIRED, SESSION_ALREADY_ACTIVE, TRIAL_ALREADY_ACTIVE, TRIAL_REQUIRED,
   TRIAL_MISMATCH, SKILL_MISMATCH, GENERATION_MISMATCH, SEQUENCE_MISMATCH, STATE_REJECTED,
   INFERENCE_BUSY, INFERENCE_TIMEOUT, POLICY_FAILED, ACTION_INVALID, OBSERVATION_STALE,
   JOINT_GATE_FAILED, CHECKER_FAILED, APPROVAL_REQUIRED, PIPELINE_FAILED, AUDIT_COMMIT_FAILED,
   CONFIG_INVALID, PATH_OUTSIDE_ROOT, SERVER_FAILED]

theorem ErrorCode.mem_members (code : ErrorCode) : code ∈ ErrorCode.members := by
  cases code <;> decide

/-- A stable, safe-to-return error. -/
structure RuntimeFault where
  code : ErrorCode
  message : String
  details : List (String × Value) := []

/-- Builtin exceptions that are not `RuntimeFault`s. -/
inductive PyError where
  | OSError
  | FileExistsError
  | ValueError
  | TypeError
  | KeyError
  | IndexError
  | RuntimeError
  | UnicodeEncodeError
  | OverflowError
  /-- Any other subclass of `Exception`. -/
  | Other
  deriving DecidableEq, Repr

/-- `isinstance(exc, OSError)`. -/
def PyError.isOSError : PyError → Bool
  | OSError | FileExistsError => true
  | _ => false

/-- An instance of `Exception`. -/
inductive Exn where
  | fault (f : RuntimeFault)
  | error (e : PyError)

/-- `isinstance(exc, RuntimeFault)`. -/
def Exn.isFault : Exn → Bool
  | .fault _ => true
  | .error _ => false

/-- `type(exc).__name__`. -/
def Exn.typeName : Exn → String
  | .fault _ => "RuntimeFault"
  | .error .OSError => "OSError"
  | .error .FileExistsError => "FileExistsError"
  | .error .ValueError => "ValueError"
  | .error .TypeError => "TypeError"
  | .error .KeyError => "KeyError"
  | .error .IndexError => "IndexError"
  | .error .RuntimeError => "RuntimeError"
  | .error .UnicodeEncodeError => "UnicodeEncodeError"
  | .error .OverflowError => "OverflowError"
  | .error .Other => "Exception"

/-- `fault(code, message, **details)` as a raised exception. -/
def fault (code : ErrorCode) (message : String) (details : List (String × Value) := []) : Exn :=
  .fault ⟨code, message, details⟩

/-! ## Computations that may raise. -/

/-- A composition returns exactly if both parts do. -/
theorem bind_ok {ε α β : Type} {x : Except ε α} {f : α → Except ε β} {b : β} :
    x >>= f = .ok b ↔ ∃ a, x = .ok a ∧ f a = .ok b := by
  cases x with
  | error e => simp [bind, Except.bind]
  | ok a => simp [bind, Except.bind]

/-- A guard that passes. -/
theorem guard_ok {ε α : Type} {c : Prop} [Decidable c] {e : ε} {k : Except ε α} {a : α} :
    (if c then (throw e : Except ε PUnit) >>= fun _ => k else k) = .ok a ↔ ¬ c ∧ k = .ok a := by
  by_cases hc : c
  · rw [if_pos hc]
    constructor
    · intro h
      cases h
    · exact fun h => absurd hc h.1
  · rw [if_neg hc]
    exact ⟨fun h => ⟨hc, h⟩, fun h => h.2⟩

theorem eq_ok_of_toOption {ε α : Type} {x : Except ε α} {a : α} (h : x.toOption = some a) :
    x = .ok a := by
  cases x with
  | error e => exact absurd h (by simp [Except.toOption])
  | ok b => rw [Option.some_inj.mp h]

theorem exists_of_isOk {ε α : Type} {r : Except ε α} (h : r.isOk = true) : ∃ a, r = .ok a := by
  cases r with
  | ok a => exact ⟨a, rfl⟩
  | error e => exact absurd h (by simp [Except.isOk, Except.toBool])

theorem map_ok {ε α β : Type} {x : Except ε α} {f : α → β} {b : β} :
    x.map f = .ok b ↔ ∃ a, x = .ok a ∧ f a = b := by
  cases x with
  | error e => simp [Except.map]
  | ok a => simp [Except.map]

end OvenRuntime
