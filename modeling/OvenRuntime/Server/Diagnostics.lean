/-
  OvenRuntime.Server.Diagnostics
  ──────────────────────────────
  `_inference_diagnostics`: the numeric summary of an audit row, and why it
  never raises.
-/
import OvenRuntime.Server.Audit
import OvenRuntime.Common.Wire

namespace OvenRuntime

/-! ## §1. The summary. -/

/-- The array functions the summary is made of. -/
structure ArrayMath where
  /-- `np.asarray(value)`. -/
  asarray : Value → Except PyError NdArray
  /-- `np.asarray(value, dtype=np.float64)`. -/
  asarray_float64 : Value → Except PyError NdArray
  /-- `np.isfinite(a).all()`. -/
  all_finite : NdArray → Except PyError Bool
  /-- `np.asarray(a[:, :7], dtype=np.float64)`. -/
  local_columns : NdArray → Except PyError NdArray
  /-- `a - b[np.newaxis, :]`. -/
  difference : NdArray → NdArray → NdArray
  /-- `np.abs(a)`. -/
  abs : NdArray → NdArray
  /-- `a.tolist()`. -/
  tolist : NdArray → Value
  /-- `a[0].tolist()`. -/
  first : NdArray → Value
  /-- `a[-1].tolist()`. -/
  last : NdArray → Value
  /-- `np.min(a, axis=0).tolist()`. -/
  min : NdArray → Value
  /-- `np.max(a, axis=0).tolist()`. -/
  max : NdArray → Value
  /-- `np.ptp(a, axis=0).tolist()`. -/
  ptp : NdArray → Value
  /-- `float(np.max(a))`. -/
  overall : NdArray → Value

/-- `list(a.shape)`. -/
def NdArray.shapeList (a : NdArray) : Value := .list (a.shape.map fun (n : Nat) => .int n)

/-- `action_array.dtype.kind not in "fiu"`, negated. -/
def isNumericKind (lib : Library) (a : NdArray) : Bool := (py "fiu").contains (lib.kind a.dtype)

/-- The condition under which there is nothing to summarize. -/
def unavailable (lib : Library) (np : ArrayMath) (action_array state_array : NdArray) :
    Except PyError Bool :=
  if action_array.shape.length ≠ 2 then .ok true
  else if action_array.shape.head? = some 0 then .ok true
  else if (action_array.shape.getLast?.getD 0) < 7 then .ok true
  else if !isNumericKind lib action_array then .ok true
  else do
    if !(← np.all_finite action_array) then return true
    if state_array.shape ≠ [7] then return true
    return !(← np.all_finite state_array)

/-- The body of the `try`. -/
def summarize (lib : Library) (np : ArrayMath) (actions : Value) (observation : Dict) :
    Except PyError Value := do
  let action_array ← np.asarray actions
  let state_array ← np.asarray_float64 ((observation.get? "state").getD .none)
  if ← unavailable lib np action_array state_array then
    return .map
      [(.str (py "available"), .bool false),
       (.str (py "action_shape"), action_array.shapeList),
       (.str (py "state_shape"), state_array.shapeList)]
  let local_action ← np.local_columns action_array
  let delta := np.difference local_action state_array
  return .map
    [(.str (py "available"), .bool true),
     (.str (py "observation_state"), np.tolist state_array),
     (.str (py "action_shape"), action_array.shapeList),
     (.str (py "local_action_first"), np.first local_action),
     (.str (py "local_action_last"), np.last local_action),
     (.str (py "local_action_min"), np.min local_action),
     (.str (py "local_action_max"), np.max local_action),
     (.str (py "local_action_span"), np.ptp local_action),
     (.str (py "max_abs_delta_from_state"), np.max (np.abs delta)),
     (.str (py "max_abs_delta_from_state_overall"), np.overall (np.abs delta))]

/-- `_inference_diagnostics`.  The handler catches the three errors that the
packer's does. -/
def _inference_diagnostics (lib : Library) (np : ArrayMath) (actions : Value)
    (observation : Dict) : Except PyError Value :=
  match summarize lib np actions observation with
  | .ok diagnostics => .ok diagnostics
  | .error e =>
      if e.isPackError then
        .ok (.map
          [(.str (py "available"), .bool false),
           (.str (py "reason"), .str (py "diagnostic_conversion_failed"))])
      else .error e

/-! ## §2. It never raises. -/

/-- Conversions raise nothing but the errors documented for them, and an array
stays as it is. -/
structure ArrayMath.Documented (np : ArrayMath) : Prop where
  asarray : ∀ v e, np.asarray v = .error e → e.isPackError = true
  asarray_float64 : ∀ v e, np.asarray_float64 v = .error e → e.isPackError = true
  all_finite : ∀ a e, np.all_finite a = .error e → e.isPackError = true
  local_columns : ∀ a e, np.local_columns a = .error e → e.isPackError = true
  asarray_ndarray : ∀ a, np.asarray (.ndarray a) = .ok a

/-- A computation that raises only what the handler catches. -/
def Caught {α : Type} (r : Except PyError α) : Prop := ∀ e, r = .error e → e.isPackError = true

theorem Caught.ok {α : Type} (a : α) : Caught (.ok a : Except PyError α) := by
  intro e h
  cases h

theorem Caught.bind {α β : Type} {r : Except PyError α} {f : α → Except PyError β}
    (hr : Caught r) (hf : ∀ a, Caught (f a)) : Caught (r >>= f) := by
  intro e h
  cases r with
  | error e' =>
      cases h
      exact hr _ rfl
  | ok a => exact hf a e h

theorem unavailable_caught {np : ArrayMath} (hnp : np.Documented) (lib : Library)
    (action_array state_array : NdArray) : Caught (unavailable lib np action_array state_array) := by
  unfold unavailable
  split
  · exact .ok _
  split
  · exact .ok _
  split
  · exact .ok _
  split
  · exact .ok _
  refine .bind (hnp.all_finite _) fun finite => ?_
  cases finite with
  | false => exact .ok _
  | true =>
      show Caught (if state_array.shape ≠ [7] then .ok true
        else np.all_finite state_array >>= fun finite => .ok !finite)
      split
      · exact .ok _
      · exact .bind (hnp.all_finite _) fun _ => .ok _

theorem summarize_caught {np : ArrayMath} (hnp : np.Documented) (lib : Library)
    (actions : Value) (observation : Dict) : Caught (summarize lib np actions observation) := by
  refine .bind (hnp.asarray _) fun action_array => ?_
  refine .bind (hnp.asarray_float64 _) fun state_array => ?_
  refine .bind (unavailable_caught hnp lib _ _) fun nothing => ?_
  cases nothing with
  | true => exact .ok _
  | false => exact .bind (hnp.local_columns _) fun _ => .ok _

/-- **The diagnostics of any observation exist.** -/
theorem _inference_diagnostics_total {np : ArrayMath} (hnp : np.Documented) (lib : Library)
    (actions : Value) (observation : Dict) :
    ∃ diagnostics, _inference_diagnostics lib np actions observation = .ok diagnostics := by
  unfold _inference_diagnostics
  cases hsummary : summarize lib np actions observation with
  | ok diagnostics => exact ⟨diagnostics, rfl⟩
  | error e =>
      simp only
      rw [if_pos (summarize_caught hnp lib actions observation e hsummary)]
      exact ⟨_, rfl⟩

end OvenRuntime
