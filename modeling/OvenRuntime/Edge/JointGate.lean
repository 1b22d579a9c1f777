/-
  OvenRuntime.Edge.JointGate
  ──────────────────────────
  The online joint gate: it watches the joint positions of one arm while
  action rows are published and asks for a stop once the arm has left every
  target posture and has come back to one and settled there.

  Positions, thresholds and tolerances are exact rationals.  A profile whose
  numbers are not finite is rejected by the source, so profiles are rational
  to begin with; a sampled position may hold entries that are not finite.
-/
import OvenRuntime.Edge.Contracts
import OvenRuntime.Lib.History
import Mathlib.Data.Rat.Lemmas
import Mathlib.Algebra.Order.Ring.Rat
import Mathlib.Data.List.Sort

namespace OvenRuntime

/-! ## §1. Numbers. -/

/-- The positions of the seven joints of one arm. -/
abbrev Joints := Fin 7 → ℚ

/-- A sequence of seven numbers as joint positions. -/
def joints (row : List ℚ) : Joints := fun j => row.getD j.val 0

/-- A checked joint number. -/
def jointIndex (i : Int) : Fin 7 := ⟨i.toNat % 7, Nat.mod_lt _ (by decide)⟩

/-- `np.max` of a non-empty array. -/
def npMax : List ℚ → ℚ
  | [] => 0
  | x :: xs => xs.foldl max x

/-- `np.min` of a non-empty array. -/
def npMin : List ℚ → ℚ
  | [] => 0
  | x :: xs => xs.foldl min x

/-- `np.ptp`: the spread between the largest and the smallest value. -/
def ptp (xs : List ℚ) : ℚ := npMax xs - npMin xs

/-- `np.median`: the middle value, or the mean of the two middle values. -/
def median (xs : List ℚ) : ℚ :=
  let sorted := xs.insertionSort (· ≤ ·)
  (sorted.getD ((xs.length - 1) / 2) 0 + sorted.getD (xs.length / 2) 0) / 2

/-! ## §2. Profiles. -/

structure JointGateProfile where
  arm : PyStr
  targets : List (List ℚ)
  check_indices : List Int
  tolerance : List ℚ
  departure_threshold : ℚ
  min_publish_step : Int
  window_samples : Int
  max_spread : ℚ
  arming_indices : List Int := []
  arming_min_abs_position : List ℚ := []

/-- The three arrays of a checked profile. -/
structure GateArrays where
  targets : List Joints
  indices : List (Fin 7)
  tolerance : List ℚ

/-- Joint numbers are in range and differ. -/
def validIndices (indices : List Int) : Bool :=
  indices.all (fun i => decide (0 ≤ i) && decide (i < 7)) && decide indices.Nodup

/-- `JointGateProfile.arrays`: every check, or the arrays. -/
def JointGateProfile.arrays (profile : JointGateProfile) : Except PyError GateArrays :=
  if profile.targets = [] ∨ profile.targets.any (fun t => t.length != 7) then
    .error .ValueError
  else if profile.tolerance.length ≠ profile.check_indices.length ∨
      profile.check_indices = [] then
    .error .ValueError
  else if profile.arm ≠ py "left" ∧ profile.arm ≠ py "right" then
    .error .ValueError
  else if profile.arming_indices.length ≠ profile.arming_min_abs_position.length then
    .error .ValueError
  else if profile.arming_indices ≠ [] ∧
      (!validIndices profile.arming_indices ∨
        profile.arming_min_abs_position.any fun t => decide (t ≤ 0)) then
    .error .ValueError
  else if !validIndices profile.check_indices ∨
      profile.tolerance.any fun t => decide (t ≤ 0) then
    .error .ValueError
  else if profile.departure_threshold ≤ 0 ∨ profile.min_publish_step < 0 ∨
      profile.window_samples ≤ 0 ∨ profile.max_spread ≤ 0 then
    .error .ValueError
  else
    .ok
      { targets := profile.targets.map joints
        indices := profile.check_indices.map jointIndex
        tolerance := profile.tolerance }

/-- A sample moves the arming joints past all their thresholds at once. -/
def JointGateProfile.arms (profile : JointGateProfile) (sample : Joints) : Bool :=
  (profile.arming_indices.zip profile.arming_min_abs_position).all
    fun q => decide (q.2 ≤ |sample (jointIndex q.1)|)

/-- The latest sample is near a target: every checked joint is off by less
than its departure tolerance. -/
def GateArrays.near (arrays : GateArrays) (departure_threshold : ℚ) (latest target : Joints) :
    Bool :=
  (arrays.indices.zip arrays.tolerance).all
    fun q => decide (|latest q.1 - target q.1| < max q.2 departure_threshold)

/-! ## §3. The window. -/

/-- The columns of the checked joints. -/
def GateArrays.checked (arrays : GateArrays) (samples : List Joints) : List (List ℚ) :=
  arrays.indices.map fun j => samples.map fun s => s j

/-- The distances of the medians from a target, one per checked joint. -/
def GateArrays.errors (arrays : GateArrays) (samples : List Joints) (target : Joints) : List ℚ :=
  arrays.indices.map fun j => |median (samples.map fun s => s j) - target j|

/-- All distances are within tolerance. -/
def GateArrays.matching (arrays : GateArrays) (samples : List Joints) (target : Joints) : Bool :=
  ((arrays.errors samples target).zip arrays.tolerance).all fun q => decide (q.1 ≤ q.2)

/-- `OnlineJointGate._window_result`. -/
def _window_result (profile : JointGateProfile) (arrays : GateArrays) (samples : List Joints) :
    GateResult :=
  let maximum_spread := npMax ((arrays.checked samples).map ptp)
  let failed : GateResult :=
    { passed := false
      samples := samples.length
      max_error := .fin (npMin (arrays.targets.map fun t => npMax (arrays.errors samples t)))
      max_spread := .fin maximum_spread
      reason := py "joint_window_not_stable" }
  match arrays.targets.find? (arrays.matching samples) with
  | none => failed
  | some target =>
      if maximum_spread ≤ profile.max_spread then
        { passed := true
          samples := samples.length
          max_error := .fin (npMax (arrays.errors samples target))
          max_spread := .fin maximum_spread
          reason := py "stable_target_window" }
      else failed

/-! ## §4. The gate. -/

/-- An array of sampled numbers; an entry that is not finite is `none`. -/
structure Position where
  shape : List Nat
  data : List (Option ℚ)

/-- The sample in a position, if it has seven finite entries. -/
def Position.sample? (position : Position) : Option Joints :=
  if position.shape = [7] ∧ position.data.all Option.isSome then
    some (joints (position.data.filterMap id))
  else none

/-- The gate: its profiles, all of which passed their checks, and the state
its lock guards.  `maxlen` is the capacity of the sample buffer. -/
structure OnlineJointGate where
  _profiles : List (PyStr × JointGateProfile)
  maxlen : Nat
  _samples : List Joints := []
  _skill : Option PyStr := none
  _departed : Bool := false
  _armed : Bool := false
  valid : ∀ q ∈ _profiles, q.2.arrays.isOk = true
  window_le : ∀ q ∈ _profiles, q.2.window_samples ≤ maxlen

/-- `max(profile.window_samples for profile in profiles.values())`. -/
def maximum_window (profiles : List (PyStr × JointGateProfile)) : Nat :=
  profiles.foldl (fun n q => max n q.2.window_samples.toNat) 0

theorem window_le_maximum_window {profiles : List (PyStr × JointGateProfile)}
    {q : PyStr × JointGateProfile} (h : q ∈ profiles) :
    q.2.window_samples ≤ maximum_window profiles := by
  have hfold : ∀ (l : List (PyStr × JointGateProfile)) (n : Nat),
      n ≤ l.foldl (fun n q => max n q.2.window_samples.toNat) n ∧
      ∀ q ∈ l, q.2.window_samples.toNat ≤
        l.foldl (fun n q => max n q.2.window_samples.toNat) n := by
    intro l
    induction l with
    | nil => simp
    | cons p l ih =>
        intro n
        obtain ⟨hle, hmem⟩ := ih (max n p.2.window_samples.toNat)
        refine ⟨by rw [List.foldl_cons]; omega, ?_⟩
        intro q hq
        rw [List.foldl_cons]
        rcases List.mem_cons.mp hq with rfl | hq
        · omega
        · exact hmem q hq
  have hw := (hfold profiles 0).2 q h
  unfold maximum_window
  omega

namespace OnlineJointGate

/-- `OnlineJointGate.__init__`. -/
def init (profiles : List (PyStr × JointGateProfile)) : Except PyError OnlineJointGate :=
  if profiles = [] then .error .ValueError
  else if h : ∀ q ∈ profiles, q.2.arrays.isOk = true then
    .ok
      { _profiles := profiles
        maxlen := maximum_window profiles
        valid := h
        window_le := fun _ hq => window_le_maximum_window hq }
  else .error .ValueError

/-- `OnlineJointGate.begin`. -/
def begin (g : OnlineJointGate) (skill : PyStr) : Except PyError Unit × OnlineJointGate :=
  match g._profiles.lookup skill with
  | none => (.error .ValueError, g)
  | some _ =>
      (.ok (), { g with _skill := some skill, _departed := false, _armed := false, _samples := [] })

/-- `OnlineJointGate.update`. -/
def update (g : OnlineJointGate) (arm : PyStr) (position : Position) : OnlineJointGate :=
  match position.sample?, g._skill.bind (fun skill => g._profiles.lookup skill) with
  | some sample, some profile =>
      if profile.arm = arm then
        { g with
          _samples := History.push g.maxlen g._samples sample
          _armed := g._armed || profile.arms sample }
      else g
  | _, _ => g

/-- `OnlineJointGate._snapshot`. -/
def _snapshot (g : OnlineJointGate) (skill : PyStr) :
    Except PyError (JointGateProfile × GateArrays × List Joints) :=
  match g._profiles.lookup skill with
  | none => .error .KeyError
  | some profile =>
      match profile.arrays with
      | .error e => .error e
      | .ok arrays =>
          .ok (profile, arrays,
            if g._skill ≠ some skill then []
            else History.window profile.window_samples.toNat g._samples)

/-- `OnlineJointGate.reached_result`. -/
def reached_result (g : OnlineJointGate) (skill : PyStr) (publish_step : Int) :
    Except PyError (Option GateResult) × OnlineJointGate :=
  match g._snapshot skill with
  | .error e => (.error e, g)
  | .ok (profile, arrays, samples) =>
      match samples.getLast? with
      | none => (.ok none, g)
      | some latest =>
          if !g._armed then (.ok none, g)
          else if !g._departed then
            if arrays.targets.any (arrays.near profile.departure_threshold latest) then
              (.ok none, g)
            else
              -- the sample at the departure is the first of the new window
              (.ok none, { g with _departed := true, _samples := g._samples.getLast?.toList })
          else if publish_step < profile.min_publish_step ∨
              samples.length < profile.window_samples then
            (.ok none, g)
          else
            let result := _window_result profile arrays samples
            (.ok (if result.passed then some result else none), g)

/-- `OnlineJointGate.reached`. -/
def reached (g : OnlineJointGate) (skill : PyStr) (publish_step : Int) :
    Except PyError Bool × OnlineJointGate :=
  match g.reached_result skill publish_step with
  | (.error e, g) => (.error e, g)
  | (.ok result, g) => (.ok result.isSome, g)

/-- `OnlineJointGate.evaluate`. -/
def evaluate (g : OnlineJointGate) (skill : PyStr) : Except PyError GateResult :=
  match g._snapshot skill with
  | .error e => .error e
  | .ok (profile, arrays, samples) =>
      let refused (reason : PyStr) : GateResult :=
        { passed := false, samples := samples.length, max_error := .posInf,
          max_spread := .posInf, reason := reason }
      if ¬ (g._skill = some skill ∧ g._armed) then .ok (refused (py "arming_not_observed"))
      else if ¬ (g._skill = some skill ∧ g._departed) then
        .ok (refused (py "departure_not_observed"))
      else if samples.length < profile.window_samples then
        .ok (refused (py "insufficient_joint_samples"))
      else .ok (_window_result profile arrays samples)

end OnlineJointGate

end OvenRuntime
