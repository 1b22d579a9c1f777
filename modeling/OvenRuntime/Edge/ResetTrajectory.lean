/-
  OvenRuntime.Edge.ResetTrajectory
  ────────────────────────────────
  The path on which `reset` takes an arm to its configured posture.

  The ease polynomial runs from 0 to 1, never backwards, and is nowhere
  steeper than 3/2; the commands of a reset inherit all three
  (`reset_trajectory`).
-/
import OvenRuntime.Edge.MotionLimit

namespace OvenRuntime

open StepLimit

namespace RosActionExecutor

/-! ## §1. The ease polynomial. -/

@[simp] theorem smooth_zero : smooth 0 = 0 := by simp [smooth]

@[simp] theorem smooth_one : smooth 1 = 1 := by norm_num [smooth]

/-- Between two points of the unit interval it climbs, with a slope of at most
3/2. -/
theorem smooth_step {x y : ℚ} (hx : 0 ≤ x) (hxy : x ≤ y) (hy : y ≤ 1) :
    0 ≤ smooth y - smooth x ∧ smooth y - smooth x ≤ 3 / 2 * (y - x) := by
  have hfactor : smooth y - smooth x = (y - x) * (3 * (x + y) - 2 * (x * x + x * y + y * y)) := by
    unfold smooth
    ring
  have hwidth : 0 ≤ y - x := by linarith
  have hlow : 0 ≤ 3 * (x + y) - 2 * (x * x + x * y + y * y) := by
    -- squares and products of numbers up to one are no larger than these
    nlinarith [mul_nonneg hx (show (0 : ℚ) ≤ 1 - x by linarith),
      mul_nonneg (show (0 : ℚ) ≤ y by linarith) (show (0 : ℚ) ≤ 1 - y by linarith),
      mul_nonneg hx (show (0 : ℚ) ≤ 1 - y by linarith),
      mul_nonneg (show (0 : ℚ) ≤ y by linarith) (show (0 : ℚ) ≤ 1 - x by linarith)]
  have hhigh : 3 * (x + y) - 2 * (x * x + x * y + y * y) ≤ 3 / 2 := by
    nlinarith [sq_nonneg (x - y), sq_nonneg (x + y - 1)]
  rw [hfactor]
  constructor
  · exact mul_nonneg hwidth hlow
  · calc (y - x) * (3 * (x + y) - 2 * (x * x + x * y + y * y))
        ≤ (y - x) * (3 / 2) := mul_le_mul_of_nonneg_left hhigh hwidth
      _ = 3 / 2 * (y - x) := by ring

/-- The smooth step does not overshoot. -/
theorem smooth_le_one {x : ℚ} (hx : 0 ≤ x) (hx' : x ≤ 1) : smooth x ≤ 1 := by
  have h := (smooth_step hx hx' le_rfl).1
  rw [smooth_one] at h
  linarith

/-! ## §2. The positions. -/

/-- The position after `i` of `n` commands. -/
def resetPoint (n : Nat) (start target : Joints) (i : Nat) : Joints := fun j =>
  start j + smooth ((i : ℚ) / (n : ℚ)) * (target j - start j)

/-- The positions are the points after the start, one for each step. -/
theorem resetPositions_eq (n : Nat) (start target : Joints) :
    resetPositions n start target =
      (List.range n).map fun i => resetPoint n start target (i + 1) := rfl

/-- The trajectory begins at the start. -/
theorem resetPoint_zero (n : Nat) (start target : Joints) :
    resetPoint n start target 0 = start := by
  funext j
  simp [resetPoint]

/-- It ends at the target, exactly and not up to rounding. -/
theorem resetPoint_end {n : Nat} (start target : Joints) (hn : 0 < n) :
    resetPoint n start target n = target := by
  funext j
  have hn' : (n : ℚ) ≠ 0 := by exact_mod_cast hn.ne'
  unfold resetPoint
  rw [div_self hn', smooth_one]
  ring

/-- From `p` to `q` every joint moves towards the target, not past it, and by
at most `step`. -/
def Approaches (start target : Joints) (n : Nat) (p q : Joints) : Prop :=
  ∀ j, (start j ≤ target j → p j ≤ q j ∧ q j ≤ target j) ∧
    (target j ≤ start j → target j ≤ q j ∧ q j ≤ p j) ∧
    |q j - p j| ≤ 3 / 2 * |target j - start j| / n

/-- One command of a reset. -/
theorem approaches_resetPoint {n i : Nat} (start target : Joints) (hi : i < n) :
    Approaches start target n (resetPoint n start target i) (resetPoint n start target (i + 1)) := by
  intro j
  have hn : (0 : ℚ) < n := by exact_mod_cast (show 0 < n by omega)
  have hx : 0 ≤ (i : ℚ) / n := div_nonneg (Nat.cast_nonneg i) hn.le
  have hxy : (i : ℚ) / n ≤ ((i + 1 : Nat) : ℚ) / n := by
    apply div_le_div_of_nonneg_right _ hn.le
    exact_mod_cast Nat.le_succ i
  have hy : ((i + 1 : Nat) : ℚ) / n ≤ 1 := by
    rw [div_le_one hn]
    exact_mod_cast hi
  have hwidth : ((i + 1 : Nat) : ℚ) / n - (i : ℚ) / n = 1 / n := by
    push_cast
    ring
  obtain ⟨hclimb, hslope⟩ := smooth_step hx hxy hy
  have hend := smooth_le_one (hx.trans hxy) hy
  rw [hwidth] at hslope
  have hmove : resetPoint n start target (i + 1) j - resetPoint n start target i j =
      (smooth (((i + 1 : Nat) : ℚ) / n) - smooth ((i : ℚ) / n)) * (target j - start j) := by
    unfold resetPoint
    ring
  have hleft : target j - resetPoint n start target (i + 1) j =
      (1 - smooth (((i + 1 : Nat) : ℚ) / n)) * (target j - start j) := by
    unfold resetPoint
    ring
  refine ⟨?_, ?_, ?_⟩
  · intro hup
    have hd : 0 ≤ target j - start j := by linarith
    have h₁ := mul_nonneg hclimb hd
    have h₂ := mul_nonneg (show (0 : ℚ) ≤ 1 - smooth (((i + 1 : Nat) : ℚ) / n) by linarith) hd
    constructor <;> linarith
  · intro hdown
    have hd : target j - start j ≤ 0 := by linarith
    have h₁ := mul_nonpos_of_nonneg_of_nonpos hclimb hd
    have h₂ := mul_nonpos_of_nonneg_of_nonpos
      (show (0 : ℚ) ≤ 1 - smooth (((i + 1 : Nat) : ℚ) / n) by linarith) hd
    constructor <;> linarith
  · rw [hmove, abs_mul, abs_of_nonneg hclimb]
    calc (smooth (((i + 1 : Nat) : ℚ) / n) - smooth ((i : ℚ) / n)) * |target j - start j|
        ≤ 3 / 2 * (1 / n) * |target j - start j| :=
          mul_le_mul_of_nonneg_right hslope (abs_nonneg _)
      _ = 3 / 2 * |target j - start j| / n := by ring

/-- Every step of the trajectory approaches the target, in each joint. -/
theorem within_resetPositions (n : Nat) (start target : Joints) :
    Within (Approaches start target n) start (resetPositions n start target) := by
  have hrange := within_map_range (Approaches start target n) (resetPoint n start target) n
  rw [resetPoint_zero] at hrange
  rw [resetPositions_eq, hrange]
  exact fun i hi => approaches_resetPoint start target hi

/-- The last position is the target. -/
theorem stop_resetPositions {n : Nat} (start target : Joints) (hn : 0 < n) :
    stop start (resetPositions n start target) = target := by
  obtain ⟨m, rfl⟩ : ∃ m, n = m + 1 := ⟨n - 1, by omega⟩
  rw [resetPositions_eq, List.range_succ, List.map_append, stop_append, List.map_singleton,
    stop_cons, stop_nil]
  exact resetPoint_end start target (by omega)

/-! ## §3. The commands of a reset. -/

/-- The part of a command that goes to the arm that is not controlled. -/
def otherArm (arm : PyStr) (command : Command) : Joints :=
  if arm = py "left" then command.right else command.left

/-- The command of one arm holds the other arm where it is. -/
theorem otherArm_of (arm : PyStr) (position other_hold : Joints) :
    otherArm arm (Command.of arm position other_hold) = other_hold := by
  unfold otherArm Command.of
  by_cases h : arm = py "left"
  · simp [h]
  · simp [h]

/-- **The reset trajectory**: from the measured start the controlled arm gets
`total_steps` commands, the last one at the target; every one of them takes
every joint nearer to the target by at most 3/2 of an even share.  The other
arm is held where it is.  How the verification ends does not matter. -/
theorem reset_trajectory {ex ex₁ : RosActionExecutor} {skill arm : PyStr} {target : List ℚ}
    {checks : Except Exn Unit} {arm_snapshot : ArmSnapshot} {start other_hold : Joints}
    (hpreflight : ex.preflight checks = (.ok (), ex₁))
    (htarget : ex.config.reset_targets.lookup skill = some target)
    (harm : ex.config.skill_arms.lookup skill = some arm)
    (hsnapshot : arm_snapshot arm = .ok (start, other_hold))
    (measured : List (Except Exn (Joints × Joints))) :
    ∃ commands, (ex.reset skill checks arm_snapshot measured).2.published
        = ex.published ++ commands ∧
      commands.length = total_steps ex.config ∧
      stop start (commands.map (Command.toArm arm)) = joints target ∧
      Within (Approaches start (joints target) (total_steps ex.config)) start
        (commands.map (Command.toArm arm)) ∧
      ∀ command ∈ commands, otherArm arm command = other_hold := by
  obtain ⟨hconfig, hpub⟩ : ex₁.config = ex.config ∧ ex₁.published = ex.published := by
    unfold preflight at hpreflight
    split at hpreflight
    · cases hpreflight
      exact ⟨rfl, rfl⟩
    · split at hpreflight
      · cases hpreflight
      · cases hpreflight
        exact ⟨rfl, rfl⟩
  have hpos : 0 < total_steps ex.config :=
    lt_of_lt_of_le (by omega) (le_max_left 2 _)
  obtain ⟨ex₂, hall, hcommands, -⟩ := ex₁.publishAll_ok (arm_of_valid ex.valid harm) other_hold
    (resetPositions (total_steps ex.config) start (joints target))
  have hreset : (ex.reset skill checks arm_snapshot measured).2 = ex₂ := by
    unfold reset
    rw [hpreflight]
    simp only [hconfig, htarget, harm, hsnapshot]
    rw [hall]
  have hpositions : ((resetPositions (total_steps ex.config) start (joints target)).map
      fun p => Command.of arm p other_hold).map (Command.toArm arm) =
      resetPositions (total_steps ex.config) start (joints target) := by
    rw [List.map_map]
    simp [Function.comp_def]
  refine ⟨_, by rw [hreset, hcommands.published, hpub], ?_, ?_, ?_, ?_⟩
  · rw [List.length_map, resetPositions_eq, List.length_map, List.length_range]
  · rw [hpositions]
    exact stop_resetPositions start (joints target) hpos
  · rw [hpositions]
    exact within_resetPositions _ start (joints target)
  · intro command hmem
    obtain ⟨p, -, rfl⟩ := List.mem_map.mp hmem
    exact otherArm_of arm p other_hold

/-- The shipped reset target of the first skill, in ten-thousandths. -/
def resetBridge : RosBridgeConfig :=
  { sampleBridge with
    reset_targets := [(py "open_door",
      [883/10000, 1/100, -40/10000, 520/10000, 3678/10000, 225/10000, 3/10000])] }

def resetExecutor : RosActionExecutor :=
  { config := resetBridge, valid := by decide +kernel }

/-- Where the left arm is reset to. -/
def resetTarget : Joints :=
  joints [883/10000, 1/100, -40/10000, 520/10000, 3678/10000, 225/10000, 3/10000]

/-- A reset of the left arm with the shipped timing, every joint of which moves. -/
theorem reset_trajectory_moved :
    ∃ commands, (resetExecutor.reset (py "open_door") (.ok ()) movedSnapshot []).2.published
        = commands ∧ commands.length = 120 ∧
      (∀ j, movedArm j ≠ resetTarget j) ∧
      stop movedArm (commands.map (Command.toArm (py "left"))) = resetTarget ∧
      Within (Approaches movedArm resetTarget 120) movedArm
        (commands.map (Command.toArm (py "left"))) ∧
      ∀ command ∈ commands, otherArm (py "left") command = heldArm := by
  have hpreflight : resetExecutor.preflight (.ok ())
      = (.ok (), { resetExecutor with _preflight_complete := true }) := rfl
  have hsteps : total_steps resetExecutor.config = 120 := by decide +kernel
  have hmoves : ∀ j, movedArm j ≠ resetTarget j := by decide +kernel
  obtain ⟨commands, hpub, hlength, hend, happroach, hother⟩ := reset_trajectory hpreflight
    (show resetExecutor.config.reset_targets.lookup (py "open_door") = some
      [883/10000, 1/100, -40/10000, 520/10000, 3678/10000, 225/10000, 3/10000] from rfl)
    (show resetExecutor.config.skill_arms.lookup (py "open_door") = some (py "left") from rfl)
    (show movedSnapshot (py "left") = .ok (movedArm, heldArm) from rfl) []
  rw [hsteps] at hlength happroach
  exact ⟨commands, hpub, hlength, hmoves, hend, happroach, hother⟩

end RosActionExecutor

end OvenRuntime
