/-
  OvenRuntime.Common.Files
  ────────────────────────
  File operations of the two audit stores.

  Every file operation may succeed or raise.  An operation that raises may do
  so before or after its effect is visible (an `fsync` after the `rename`), so
  the environment hands each call an `Io`: the outcome of its first, second,
  third file operation.
-/
import OvenRuntime.Common.Errors

namespace OvenRuntime

/-- How one file operation ends. -/
inductive WriteOutcome where
  | done
  /-- The operation raises; `applied` tells whether its effect is visible. -/
  | raised (e : PyError) (applied : Bool)
  deriving DecidableEq

/-- The outcome of each file operation of one call, in order. -/
abbrev Io := Nat → WriteOutcome

/-- Every file operation succeeds. -/
def Io.clean : Io := fun _ => .done

/-- `_atomic_json` on a value that is or is not encodable as UTF-8: what it
raises, and whether the target file was replaced. -/
def _atomic_json (w : WriteOutcome) (encodable : Bool) : Option PyError × Bool :=
  match w with
  | .done => if encodable then (none, true) else (some .UnicodeEncodeError, false)
  | .raised e applied => (some e, applied && encodable)

@[simp] theorem _atomic_json_clean : _atomic_json .done true = (none, true) := rfl

/-- A write that did not raise replaced the file, with encodable content. -/
theorem _atomic_json_ok {w : WriteOutcome} {enc replaced : Bool}
    (h : _atomic_json w enc = (none, replaced)) : w = .done ∧ enc = true ∧ replaced = true := by
  cases w with
  | done => cases enc <;> simp_all [_atomic_json]
  | raised e applied => simp [_atomic_json] at h

end OvenRuntime
