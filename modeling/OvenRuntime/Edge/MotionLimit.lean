/-
  OvenRuntime.Edge.MotionLimit
  ────────────────────────────
  The single-step motion limit of the action executor.

  A chunk is published in two parts: the interpolated transition to its first
  row, and its remaining rows.  The row loop checks every step before it takes
  it; the transition is never checked, so the limit holds exactly as long as
  each chunk starts near enough to the last command (`motion_limit_iff`).
-/
import OvenRuntime.Edge.Ros2Action
import OvenRuntime.Lib.StepLimit
import Mathlib.Algebra.Order.Field.Basic
import Mathlib.Tactic.FieldSimp
import Mathlib.Tactic.Ring
import Mathlib.Tactic.Linarith

namespace OvenRuntime

open History StepLimit

/-! ## §1. The limit and the calls of a stage. -/

/-- Two consecutive positions differ by at most `max_row_delta` in every joint. -/
def WithinDelta (config : RosBridgeConfig) (p q : Joints) : Prop :=
  ∀ j, |q j - p j| ≤ joints config.max_row_delta j

instance (config : RosBridgeConfig) : DecidableRel (WithinDelta config) :=
  fun p q => inferInstanceAs (Decidable (∀ j, |q j - p j| ≤ joints config.max_row_delta j))

/-- A call of `publish`, with what it reads while it runs. -/
structure PublishCall where
  rows : List Joints
  arm_snapshot : ArmSnapshot
  gate : GateAnswers

namespace RosActionExecutor

/-- How a call of `publish` ends. -/
def result (ex : RosActionExecutor) (call : PublishCall) : Except Exn PublishResult :=
  (ex.publish call.rows call.arm_snapshot call.gate).1

/-- The executor after a call of `publish`. -/
def after (ex : RosActionExecutor) (call : PublishCall) : RosActionExecutor :=
  (ex.publish call.rows call.arm_snapshot call.gate).2

/-- The executor after a sequence of such calls. -/
def run (ex : RosActionExecutor) (calls : List PublishCall) : RosActionExecutor :=
  calls.foldl after ex

/-- The arm of the active stage. -/
def arm (ex : RosActionExecutor) : Option PyStr :=
  ex._active_skill.bind fun skill => ex.config.skill_arms.lookup skill

/-- The positions commanded to the controlled arm between two states. -/
def commanded (ex ex' : RosActionExecutor) : List Joints :=
  match ex.arm with
  | none => []
  | some arm => (ex'.published.drop ex.published.length).map (Command.toArm arm)

end RosActionExecutor

/-- The rows of a chunk up to the one after which the gate asks for a stop. -/
def rowsUntilStop (gate : GateAnswers) (skill : PyStr) (published_rows : Nat) :
    List Joints → List Joints
  | [] => []
  | row :: rest =>
      row :: if (gate skill (published_rows + 1)).isSome then []
        else rowsUntilStop gate skill (published_rows + 1) rest

/-- All positions a call means to command, with no limit in the way. -/
def intended (ex : RosActionExecutor) (call : PublishCall) : List Joints :=
  match ex._preflight_complete, ex._active_skill, ex._last_command, ex.arm with
  | true, some skill, some last, some arm =>
      match call.arm_snapshot arm, call.rows with
      | .ok _, first :: rest =>
          RosActionExecutor.transition ex.config.chunk_transition_steps.toNat last first ++
            if (call.gate skill (ex._published_rows + 1)).isSome then []
            else rowsUntilStop call.gate skill (ex._published_rows + 1) rest
      | _, _ => []
  | _, _, _, _ => []

/-- A chunk that would break the limit is rejected with `ACTION_INVALID`
before the offending position is commanded; any other is commanded whole. -/
def Obeys (ex : RosActionExecutor) (call : PublishCall) : Prop :=
  ∀ last, ex._last_command = some last →
    ex.commanded (ex.after call) = limited (WithinDelta ex.config) last (intended ex call) ∧
    (ex.commanded (ex.after call) ≠ intended ex call →
      ∃ f, ex.result call = .error (.fault f) ∧ f.code = .ACTION_INVALID)

/-- A chunk that gets to its transition starts near enough to the last
command: the transition can reach it in steps within the limit. -/
def SmallTransition (ex : RosActionExecutor) (call : PublishCall) : Prop :=
  ∀ last arm snapshot first, ex._last_command = some last → ex.arm = some arm →
    call.arm_snapshot arm = .ok snapshot → call.rows.head? = some first →
    ∀ j, |first j - last j|
      ≤ ex.config.chunk_transition_steps * joints ex.config.max_row_delta j

/-! ## §2. The transition. -/

/-- The point of the transition after `i` of `n` steps. -/
def rampPoint (n : Nat) (last first : Joints) (i : Nat) : Joints := fun j =>
  last j + ((i : Nat) : ℚ) / (n : ℚ) * (first j - last j)

theorem transition_eq (n : Nat) (last first : Joints) :
    RosActionExecutor.transition n last first =
      (List.range n).map fun i => rampPoint n last first (i + 1) := rfl

theorem rampPoint_zero (n : Nat) (last first : Joints) : rampPoint n last first 0 = last := by
  funext j
  simp [rampPoint]

theorem rampPoint_end {n : Nat} (last first : Joints) (h : 0 < n) :
    rampPoint n last first n = first := by
  funext j
  have hn : (n : ℚ) ≠ 0 := by exact_mod_cast h.ne'
  unfold rampPoint
  rw [div_self hn]
  ring

/-- The transition ends at the first row. -/
theorem stop_transition {n : Nat} (last first : Joints) (h : 0 < n) :
    stop last (RosActionExecutor.transition n last first) = first := by
  obtain ⟨m, rfl⟩ : ∃ m, n = m + 1 := ⟨n - 1, by omega⟩
  rw [transition_eq, List.range_succ, List.map_append, stop_append, List.map_singleton, stop_cons,
    stop_nil]
  exact rampPoint_end last first h

/-- All steps of the transition are alike: one `n`-th of the way. -/
theorem within_transition_iff (config : RosBridgeConfig) {n : Nat} (last first : Joints)
    (h : 0 < n) :
    Within (WithinDelta config) last (RosActionExecutor.transition n last first) ↔
      ∀ j, |first j - last j| ≤ n * joints config.max_row_delta j := by
  have hn : (0 : ℚ) < n := by exact_mod_cast h
  have hstep : ∀ i j, rampPoint n last first (i + 1) j - rampPoint n last first i j
      = (first j - last j) / n := by
    intro i j
    unfold rampPoint
    push_cast
    field_simp
    ring
  have hjoint : ∀ i, WithinDelta config (rampPoint n last first i)
      (rampPoint n last first (i + 1)) ↔
      ∀ j, |first j - last j| ≤ n * joints config.max_row_delta j := by
    intro i
    unfold WithinDelta
    apply forall_congr'
    intro j
    rw [hstep, abs_div, abs_of_pos hn, div_le_iff₀ hn, mul_comm]
  rw [transition_eq]
  have hrange := within_map_range (WithinDelta config) (rampPoint n last first) n
  rw [rampPoint_zero] at hrange
  rw [hrange]
  constructor
  · intro hall
    exact (hjoint 0).mp (hall 0 h)
  · intro hj i _
    exact (hjoint i).mpr hj

/-! ## §3. What a call commands. -/

/-- A stage is active: `begin_stage` has succeeded, `stop` has not run. -/
structure Staged (ex : RosActionExecutor) (skill arm : PyStr) (last : Joints) : Prop where
  ready : ex._preflight_complete = true
  active : ex._active_skill = some skill
  controls : ex.config.skill_arms.lookup skill = some arm
  left_at : ex._last_command = some last

theorem Staged.arm_eq {ex : RosActionExecutor} {skill arm : PyStr} {last : Joints}
    (h : Staged ex skill arm last) : ex.arm = some arm := by
  unfold RosActionExecutor.arm
  rw [h.active]
  exact h.controls

/-- A valid configuration knows the arms `left` and `right` only. -/
theorem arm_of_valid {config : RosBridgeConfig} (h : config.validate = .ok ()) {skill arm : PyStr}
    (ha : config.skill_arms.lookup skill = some arm) : arm = py "left" ∨ arm = py "right" := by
  obtain ⟨l₁, l₂, hl, -⟩ := List.lookup_eq_some_iff.mp ha
  have hmem : (skill, arm) ∈ config.skill_arms := by
    rw [hl]
    simp
  unfold RosBridgeConfig.validate at h
  split at h
  · cases h
  · split at h
    · cases h
    · rename_i hno
      by_contra hc
      push Not at hc
      apply hno
      rw [List.any_eq_true]
      exact ⟨_, hmem, by simp [hc.1, hc.2]⟩

theorem steps_pos_of_valid {config : RosBridgeConfig} (h : config.validate = .ok ()) :
    0 < config.chunk_transition_steps := by
  unfold RosBridgeConfig.validate at h
  iterate 4 (split at h; · cases h)
  split at h
  · cases h
  · rename_i hno
    push Not at hno
    omega

/-- The message pair that sends a position to an arm and holds the other. -/
def Command.of (arm : PyStr) (position other_hold : Joints) : Command :=
  if arm = py "left" then ⟨position, other_hold⟩ else ⟨other_hold, position⟩

@[simp] theorem Command.toArm_of (arm : PyStr) (position other_hold : Joints) :
    (Command.of arm position other_hold).toArm arm = position := by
  unfold Command.of Command.toArm
  by_cases h : arm = py "left"
  · simp [h]
  · simp [h]

/-- `ex'` is `ex` after commanding these positions. -/
structure Commands (ex ex' : RosActionExecutor) (arm : PyStr) (other_hold : Joints)
    (positions : List Joints) : Prop where
  config : ex'.config = ex.config
  skill : ex'._active_skill = ex._active_skill
  preflight : ex'._preflight_complete = ex._preflight_complete
  published : ex'.published = ex.published ++ positions.map fun p => Command.of arm p other_hold

theorem Commands.trans {ex ex' ex'' : RosActionExecutor} {arm : PyStr} {other_hold : Joints}
    {positions positions' : List Joints} (h : Commands ex ex' arm other_hold positions)
    (h' : Commands ex' ex'' arm other_hold positions') :
    Commands ex ex'' arm other_hold (positions ++ positions') where
  config := h'.config.trans h.config
  skill := h'.skill.trans h.skill
  preflight := h'.preflight.trans h.preflight
  published := by
    rw [h'.published, h.published, List.map_append, List.append_assoc]

theorem Commands.nil (ex : RosActionExecutor) (arm : PyStr) (other_hold : Joints) :
    Commands ex ex arm other_hold [] := ⟨rfl, rfl, rfl, by simp⟩

namespace RosActionExecutor

/-- Publishing one position succeeds. -/
theorem _publish_controlled_ok (ex : RosActionExecutor) {arm : PyStr}
    (harm : arm = py "left" ∨ arm = py "right") (p other_hold : Joints) :
    ∃ ex', ex._publish_controlled arm p other_hold = (.ok (), ex') ∧
      Commands ex ex' arm other_hold [p] ∧ ex'._last_command = ex._last_command ∧
      ex'._published_rows = ex._published_rows := by
  unfold _publish_controlled
  by_cases hl : arm = py "left"
  · rw [if_pos hl]
    refine ⟨_, rfl, ⟨rfl, rfl, rfl, ?_⟩, rfl, rfl⟩
    simp [_publish_pair, Command.of, hl]
  · rw [if_neg hl, if_pos (harm.resolve_left hl)]
    refine ⟨_, rfl, ⟨rfl, rfl, rfl, ?_⟩, rfl, rfl⟩
    simp [_publish_pair, Command.of, hl]

theorem publishAll_ok {arm : PyStr} (harm : arm = py "left" ∨ arm = py "right")
    (other_hold : Joints) (positions : List Joints) : ∀ ex : RosActionExecutor,
    ∃ ex', ex.publishAll arm other_hold positions = (.ok (), ex') ∧
      Commands ex ex' arm other_hold positions ∧ ex'._last_command = ex._last_command ∧
      ex'._published_rows = ex._published_rows := by
  induction positions with
  | nil =>
      intro ex
      exact ⟨ex, rfl, .nil ex arm other_hold, rfl, rfl⟩
  | cons p positions ih =>
      intro ex
      obtain ⟨ex₁, h₁, hc₁, hlast₁, hrows₁⟩ := ex._publish_controlled_ok harm p other_hold
      obtain ⟨ex₂, h₂, hc₂, hlast₂, hrows₂⟩ := ih ex₁
      refine ⟨ex₂, ?_, hc₁.trans hc₂, hlast₂.trans hlast₁, hrows₂.trans hrows₁⟩
      unfold publishAll
      rw [h₁]
      exact h₂

/-- The test of the row loop is the limit. -/
theorem exceeds_iff (config : RosBridgeConfig) (last row : Joints) :
    exceeds config last row = true ↔ ¬ WithinDelta config last row := by
  unfold exceeds WithinDelta
  simp [List.any_eq_true]

/-- **The row loop** commands the rows up to the gate's stop as far as they
are within the limit, and raises `ACTION_INVALID` at the first one that is
not. -/
theorem publishRows_spec (skill : PyStr) {arm : PyStr} (harm : arm = py "left" ∨ arm = py "right")
    (other_hold : Joints) (gate : GateAnswers) (rows : List Joints) :
    ∀ (ex : RosActionExecutor) (row_index : Nat) (last : Joints), ex._last_command = some last →
    ∃ r ex', ex.publishRows skill arm other_hold gate row_index last rows = (r, ex') ∧
      Commands ex ex' arm other_hold
        (limited (WithinDelta ex.config) last (rowsUntilStop gate skill ex._published_rows rows)) ∧
      ex'._last_command = some (stop last
        (limited (WithinDelta ex.config) last
          (rowsUntilStop gate skill ex._published_rows rows))) ∧
      (limited (WithinDelta ex.config) last (rowsUntilStop gate skill ex._published_rows rows)
          ≠ rowsUntilStop gate skill ex._published_rows rows →
        ∃ f, r = .error (.fault f) ∧ f.code = .ACTION_INVALID) := by
  induction rows with
  | nil =>
      intro ex row_index last hlast
      exact ⟨_, ex, rfl, .nil ex arm other_hold, hlast, fun h => absurd rfl h⟩
  | cons row rest ih =>
      intro ex row_index last hlast
      unfold publishRows rowsUntilStop
      rw [limited_cons]
      by_cases hexc : exceeds ex.config last row = true
      · -- the row is not commanded
        rw [if_pos hexc, if_neg ((exceeds_iff _ _ _).mp hexc)]
        exact ⟨_, ex, rfl, .nil ex arm other_hold, hlast, fun _ => ⟨_, rfl, rfl⟩⟩
      · have hwithin : WithinDelta ex.config last row := by
          by_contra hno
          exact hexc ((exceeds_iff _ _ _).mpr hno)
        rw [if_neg hexc, if_pos hwithin]
        obtain ⟨ex₁, h₁, hc₁, -, hrows₁⟩ := ex._publish_controlled_ok harm row other_hold
        rw [h₁]
        simp only
        have hc : Commands ex { ex₁ with
            _last_command := some row, _published_rows := ex₁._published_rows + 1 }
            arm other_hold [row] := ⟨hc₁.config, hc₁.skill, hc₁.preflight, hc₁.published⟩
        rw [hrows₁]
        rw [hrows₁] at hc
        cases hgate : gate skill (ex._published_rows + 1) with
        | some gate_result =>
            refine ⟨_, _, rfl, ?_, ?_, ?_⟩
            · simpa [limited] using hc
            · simp [limited]
            · simp [limited]
        | none =>
            obtain ⟨r, ex₂, h₂, hc₂, hlast₂, hinv₂⟩ := ih
              { ex₁ with _last_command := some row, _published_rows := ex._published_rows + 1 }
              (row_index + 1) row rfl
            rw [← hc₁.config]
            simp only [Option.isSome_none, Bool.false_eq_true, if_false]
            refine ⟨r, ex₂, h₂, hc.trans hc₂, ?_, ?_⟩
            · rw [stop_cons]
              exact hlast₂
            · intro hne
              apply hinv₂
              intro heq
              exact hne (by simp [heq])

end RosActionExecutor

/-! ## §4. One call. -/

/-- What a call of an active stage does: it raises without commanding
anything, or it commands the transition and then the rows within the limit. -/
theorem Staged.publish_cases {ex : RosActionExecutor} {skill arm : PyStr} {last : Joints}
    (h : Staged ex skill arm last) (call : PublishCall) :
    ((∀ snapshot first, call.arm_snapshot arm = .ok snapshot → call.rows.head? ≠ some first) ∧
      intended ex call = [] ∧ ex.after call = ex) ∨
    (∃ snapshot first rows, call.arm_snapshot arm = .ok snapshot ∧
      call.rows.head? = some first ∧
      intended ex call = RosActionExecutor.transition ex.config.chunk_transition_steps.toNat
        last first ++ rows ∧
      Commands ex (ex.after call) arm snapshot.2
        (RosActionExecutor.transition ex.config.chunk_transition_steps.toNat last first ++
          limited (WithinDelta ex.config) first rows) ∧
      (ex.after call)._last_command
        = some (stop first (limited (WithinDelta ex.config) first rows)) ∧
      (limited (WithinDelta ex.config) first rows ≠ rows →
        ∃ f, ex.result call = .error (.fault f) ∧ f.code = .ACTION_INVALID)) := by
  obtain ⟨rows, arm_snapshot, gate⟩ := call
  have harm := arm_of_valid ex.valid h.controls
  have hex := h.arm_eq
  unfold intended RosActionExecutor.after RosActionExecutor.result RosActionExecutor.publish
  simp only [h.ready, h.active, h.left_at, hex, h.controls]
  cases hsnap : arm_snapshot arm with
  | error e => exact .inl ⟨by simp, rfl, rfl⟩
  | ok snapshot =>
      cases rows with
      | nil => exact .inl ⟨by simp, rfl, rfl⟩
      | cons first rest =>
          right
          obtain ⟨ex₁, h₁, hc₁, -, hrows₁⟩ := ex.publishAll_ok harm snapshot.2
            (RosActionExecutor.transition ex.config.chunk_transition_steps.toNat last first)
          simp only [h₁, hrows₁]
          have hc : Commands ex { ex₁ with
              _published_rows := ex._published_rows + 1, _last_command := some first }
              arm snapshot.2 (RosActionExecutor.transition
                ex.config.chunk_transition_steps.toNat last first) :=
            ⟨hc₁.config, hc₁.skill, hc₁.preflight, hc₁.published⟩
          cases hgate : gate skill (ex._published_rows + 1) with
          | some gate_result =>
              -- the gate stops the chunk at its first row
              refine ⟨snapshot, first, [], rfl, rfl, by simp, ?_, rfl, fun hne => absurd rfl hne⟩
              simpa [limited] using hc
          | none =>
              obtain ⟨r, ex₂, h₂, hc₂, hlast₂, hinv₂⟩ :=
                RosActionExecutor.publishRows_spec skill harm snapshot.2 gate rest
                  { ex₁ with
                    _published_rows := ex._published_rows + 1, _last_command := some first }
                  1 first rfl
              refine ⟨snapshot, first, rowsUntilStop gate skill (ex._published_rows + 1) rest,
                rfl, rfl, by simp, ?_⟩
              simp only [h₂]
              rw [← hc₁.config] at hc ⊢
              exact ⟨hc.trans hc₂, hlast₂, hinv₂⟩

/-- Reading the commanded positions back. -/
theorem Commands.commanded {ex ex' : RosActionExecutor} {skill arm : PyStr} {last other_hold : Joints}
    {positions : List Joints} (h : Commands ex ex' arm other_hold positions)
    (hst : Staged ex skill arm last) : ex.commanded ex' = positions := by
  unfold RosActionExecutor.commanded
  rw [hst.arm_eq]
  show (ex'.published.drop ex.published.length).map (Command.toArm arm) = positions
  rw [h.published, List.drop_left, List.map_map]
  simp [Function.comp_def]

/-- A call keeps the stage active, and ends where its last command is. -/
theorem Staged.after {ex : RosActionExecutor} {skill arm : PyStr} {last : Joints}
    (h : Staged ex skill arm last) (call : PublishCall) :
    Staged (ex.after call) skill arm (stop last (ex.commanded (ex.after call))) ∧
    (ex.after call).config = ex.config ∧
    ∃ other_hold, Commands ex (ex.after call) arm other_hold (ex.commanded (ex.after call)) := by
  have hpos : 0 < ex.config.chunk_transition_steps.toNat := by
    have := steps_pos_of_valid ex.valid
    omega
  rcases h.publish_cases call with ⟨-, -, hsame⟩ | ⟨snapshot, first, rows, -, -, -, hc, hlast, -⟩
  · rw [hsame]
    have hc := Commands.nil ex arm last
    rw [hc.commanded h]
    exact ⟨h, rfl, last, hc⟩
  · rw [hc.commanded h, stop_append, stop_transition last first hpos]
    refine ⟨⟨hc.preflight.trans h.ready, hc.skill.trans h.active, ?_, hlast⟩, hc.config, _, hc⟩
    rw [hc.config]
    exact h.controls

/-- **One call** stays within the limit and obeys it exactly when its
transition is small. -/
theorem Staged.obeys_iff {ex : RosActionExecutor} {skill arm : PyStr} {last : Joints}
    (h : Staged ex skill arm last) (call : PublishCall) :
    (Obeys ex call ∧ Within (WithinDelta ex.config) last (ex.commanded (ex.after call))) ↔
      SmallTransition ex call := by
  have hpos : 0 < ex.config.chunk_transition_steps := steps_pos_of_valid ex.valid
  have harm := h.arm_eq
  have hsteps : ((ex.config.chunk_transition_steps.toNat : Nat) : ℚ)
      = ex.config.chunk_transition_steps := by
    exact_mod_cast Int.toNat_of_nonneg hpos.le
  rcases h.publish_cases call with ⟨hno, hint, hsame⟩
    | ⟨snapshot, first, rows, hsnap, hhead, hint, hc, -, hrejects⟩
  · -- nothing is commanded and nothing was to be
    rw [hsame, (Commands.nil ex arm last).commanded h]
    constructor
    · rintro - last' arm' snapshot first - ha hs hh
      cases harm.symm.trans ha
      exact absurd hh (hno snapshot first hs)
    · intro _
      refine ⟨?_, .nil last⟩
      intro last' _
      rw [hsame, (Commands.nil ex arm last).commanded h, hint]
      exact ⟨rfl, fun hne => absurd rfl hne⟩
  · rw [hc.commanded h]
    have hiff := within_transition_iff ex.config last first
      (show 0 < ex.config.chunk_transition_steps.toNat by omega)
    rw [hsteps] at hiff
    have hstop := stop_transition last first
      (show 0 < ex.config.chunk_transition_steps.toNat by omega)
    constructor
    · rintro ⟨-, hwithin⟩ last' arm' snapshot' first' hl ha hs hh
      cases h.left_at.symm.trans hl
      cases hhead.symm.trans hh
      exact hiff.mp (within_append.mp hwithin).1
    · intro hsmall
      have hramp := hiff.mpr (hsmall last arm snapshot first h.left_at harm hsnap hhead)
      refine ⟨?_, within_append.mpr ⟨hramp, ?_⟩⟩
      · intro last' hl
        cases h.left_at.symm.trans hl
        rw [hc.commanded h, hint, limited_append rows hramp, hstop]
        refine ⟨rfl, ?_⟩
        intro hne
        apply hrejects
        intro heq
        exact hne (by rw [heq])
      · rw [hstop]
        exact limited_within first rows

/-! ## §5. A stage. -/

/-- A successful `begin_stage` records the measured position of the arm. -/
theorem begin_stage_staged {ex₀ ex : RosActionExecutor} {skill : PyStr}
    {checks gate : Except Exn Unit} {arm_snapshot : ArmSnapshot}
    (h : ex₀.begin_stage skill checks gate arm_snapshot = (.ok (), ex)) :
    ∃ arm controlled other, arm_snapshot arm = .ok (controlled, other) ∧
      Staged ex skill arm controlled := by
  unfold RosActionExecutor.begin_stage at h
  split at h
  · cases h
  · rename_i ex₁ hpre
    have hready : ex₁._preflight_complete = true := by
      unfold RosActionExecutor.preflight at hpre
      split at hpre
      · rename_i hdone
        cases hpre
        exact hdone
      · split at hpre
        · cases hpre
        · cases hpre
          rfl
    split at h
    · cases h
    · cases h
    · rename_i arm hlookup
      split at h
      · cases h
      · rename_i controlled other hsnap
        cases h
        exact ⟨arm, controlled, other, hsnap, hready, rfl, hlookup, rfl⟩

/-- The commands of a stage are those before its last call and those of that
call. -/
theorem commanded_run_snoc {ex : RosActionExecutor} {skill skill' arm : PyStr}
    {last last' other_hold : Joints} {calls : List PublishCall} {call : PublishCall}
    {commands : List Command} {positions : List Joints} (h : Staged ex skill arm last)
    (hst : Staged (ex.run calls) skill' arm last')
    (hpub : (ex.run calls).published = ex.published ++ commands)
    (hc : Commands (ex.run calls) ((ex.run calls).after call) arm other_hold positions) :
    ex.commanded (ex.run (calls ++ [call])) =
      ex.commanded (ex.run calls) ++ (ex.run calls).commanded ((ex.run calls).after call) := by
  obtain ⟨new, hnew⟩ : ∃ new, ((ex.run calls).after call).published
      = (ex.run calls).published ++ new := ⟨_, hc.published⟩
  rw [show ex.run (calls ++ [call]) = (ex.run calls).after call by
    simp [RosActionExecutor.run, List.foldl_append]]
  unfold RosActionExecutor.commanded
  rw [h.arm_eq, hst.arm_eq]
  show (((ex.run calls).after call).published.drop ex.published.length).map _ = _
  rw [hnew, hpub]
  simp

/-- What a stage has commanded so far, along its calls. -/
theorem Staged.run {ex : RosActionExecutor} {skill arm : PyStr} {last : Joints}
    (h : Staged ex skill arm last) (calls : List PublishCall) :
    Staged (ex.run calls) skill arm (stop last (ex.commanded (ex.run calls))) ∧
    (ex.run calls).config = ex.config ∧
    (∃ commands, (ex.run calls).published = ex.published ++ commands) ∧
    ((Always (fun before call => Obeys (ex.run before) call) calls ∧
        Within (WithinDelta ex.config) last (ex.commanded (ex.run calls))) ↔
      Always (fun before call => SmallTransition (ex.run before) call) calls) := by
  induction calls using List.reverseRecOn with
  | nil =>
      have hc := (Commands.nil ex arm last).commanded h
      refine ⟨?_, rfl, ⟨[], (List.append_nil _).symm⟩, ?_⟩
      · show Staged ex skill arm (stop last (ex.commanded ex))
        rw [hc]
        exact h
      · show _ ∧ Within _ last (ex.commanded ex) ↔ _
        rw [hc]
        simp [always_nil]
  | append_singleton calls call ih =>
      obtain ⟨hst, hcfg, ⟨commands, hpub⟩, hiff⟩ := ih
      have hrun : ex.run (calls ++ [call]) = (ex.run calls).after call := by
        simp [RosActionExecutor.run, List.foldl_append]
      obtain ⟨hst', hcfg', other_hold, hc⟩ := hst.after call
      have hsplit := commanded_run_snoc h hst hpub hc
      refine ⟨?_, ?_, ?_, ?_⟩
      · rw [hsplit, stop_append, hrun]
        exact hst'
      · rw [hrun]
        exact hcfg'.trans hcfg
      · rw [hrun, hc.published, hpub, List.append_assoc]
        exact ⟨_, rfl⟩
      · rw [always_snoc, always_snoc, hsplit, within_append, ← hiff, ← hst.obeys_iff call, hcfg]
        tauto

/-- **The motion limit of a stage**: from the position recorded by
`begin_stage` on, all steps commanded to the controlled arm are within the
limit, and every chunk that would break it is rejected in time, exactly when
every transition is small. -/
theorem motion_limit_iff {ex₀ ex : RosActionExecutor} {skill arm : PyStr} {measured other : Joints}
    {checks gate : Except Exn Unit} {arm_snapshot : ArmSnapshot}
    (h : ex₀.begin_stage skill checks gate arm_snapshot = (.ok (), ex))
    (harm : ex.arm = some arm) (hmeasured : arm_snapshot arm = .ok (measured, other))
    (calls : List PublishCall) :
    (Within (WithinDelta ex.config) measured (ex.commanded (ex.run calls)) ∧
        Always (fun before call => Obeys (ex.run before) call) calls) ↔
      Always (fun before call => SmallTransition (ex.run before) call) calls := by
  obtain ⟨arm', controlled, other', hsnap, hst⟩ := begin_stage_staged h
  cases harm.symm.trans hst.arm_eq
  cases hmeasured.symm.trans hsnap
  obtain ⟨-, -, -, hiff⟩ := hst.run calls
  rw [and_comm]
  exact hiff

/-- The motion settings of the shipped configuration, with one skill. -/
def sampleBridge : RosBridgeConfig :=
  { prompts := [(py "open_door", py "open the door")]
    reset_targets := [(py "open_door", [0, 0, 0, 0, 0, 0, 0])]
    skill_arms := [(py "open_door", py "left")]
    max_row_delta := [18 / 100, 18 / 100, 18 / 100, 18 / 100, 1 / 5, 18 / 100, 1 / 10] }

/-- An executor that has published nothing yet. -/
def sampleExecutor : RosActionExecutor :=
  { config := sampleBridge, valid := by decide +kernel }

/-- Both arms are at rest. -/
def restSnapshot : ArmSnapshot := fun _ => .ok (fun _ => 0, fun _ => 0)

/-- A chunk of one row that moves the last joint only. -/
def lastJointCall (q : ℚ) : PublishCall :=
  { rows := [joints [0, 0, 0, 0, 0, 0, q]]
    arm_snapshot := restSnapshot
    gate := fun _ _ => none }

/-- The executor at the start of a stage. -/
def sampleStage : RosActionExecutor :=
  (sampleExecutor.begin_stage (py "open_door") (.ok ()) (.ok ()) restSnapshot).2

/-- An arm that is away from rest, and the other one. -/
def movedArm : Joints := joints [3, -1/2, 1/4, 0, 1/2, -1/4, 1/10]
def heldArm : Joints := joints [0, 1/4, -1/4, 1/8, 0, 0, 1/20]

def movedSnapshot : ArmSnapshot := fun _ => .ok (movedArm, heldArm)

/-- The executor at the start of a stage with the arm away from rest. -/
def movedStage : RosActionExecutor :=
  (sampleExecutor.begin_stage (py "open_door") (.ok ()) (.ok ()) movedSnapshot).2

/-- A chunk that goes out as a whole. -/
def wholeCall : PublishCall where
  rows := [[1, -1/2, 1/4, 1, 1/2, 0, 2], [11/10, -2/5, 1/4, 9/10, 3/5, 1/10, 41/20],
    [6/5, -3/10, 1/4, 4/5, 7/10, 1/5, 21/10]].map joints
  arm_snapshot := movedSnapshot
  gate := fun _ _ => none

/-- A chunk whose third row is too far from the second. -/
def jumpingCall : PublishCall where
  rows := [[0, 0, 0, 0, 0, 0, 0], [1/10, 0, -1/10, 0, 0, 0, 1/20], [2, 0, 0, 0, 0, 0, 0]].map joints
  arm_snapshot := movedSnapshot
  gate := fun _ _ => none

/-- A chunk that the gate stops at its second row, the seventh of the stage. -/
def stoppedCall : PublishCall where
  rows := [[-1, 1, -1, 1, -1, 1, -1], [-9/10, 1, -9/10, 1, -1, 9/10, -1],
    [-4/5, 1, -4/5, 1, -1, 4/5, -1]].map joints
  arm_snapshot := movedSnapshot
  gate := fun _ published_rows =>
    if published_rows = 7 then some ⟨true, 200, .fin 0, .fin 0, py "rest"⟩ else none

/-- Three calls of a stage. -/
def stageCalls : List PublishCall := [wholeCall, jumpingCall, stoppedCall]

/-- `SmallTransition`, as a test. -/
def isSmall (ex : RosActionExecutor) (call : PublishCall) : Bool :=
  ex._last_command.all fun last => call.rows.head?.all fun first =>
    decide (∀ j, |first j - last j|
      ≤ ex.config.chunk_transition_steps * joints ex.config.max_row_delta j)

theorem smallTransition_of_isSmall {ex : RosActionExecutor} {call : PublishCall}
    (h : isSmall ex call = true) : SmallTransition ex call := by
  intro last arm snapshot first hlast _ _ hfirst
  unfold isSmall at h
  rw [hlast, hfirst] at h
  exact of_decide_eq_true h

/-- **A stage within the limit**: a whole chunk, one that is rejected at its
third row, and one that the gate stops. -/
theorem motion_limit_iff_stage :
    (movedStage.commanded (movedStage.run stageCalls)).length = 154 ∧
    Within (WithinDelta movedStage.config) movedArm
        (movedStage.commanded (movedStage.run stageCalls)) ∧
      Always (fun before call => Obeys (movedStage.run before) call) stageCalls := by
  have hbegin : sampleExecutor.begin_stage (py "open_door") (.ok ()) (.ok ()) movedSnapshot
      = (.ok (), movedStage) := rfl
  refine ⟨by decide +kernel, (motion_limit_iff hbegin rfl rfl stageCalls).mpr ?_⟩
  have hwhole : Always (fun before call => SmallTransition (movedStage.run before) call)
      [wholeCall] :=
    always_snoc.mpr ⟨always_nil _, smallTransition_of_isSmall (by decide +kernel)⟩
  have hjumping : Always (fun before call => SmallTransition (movedStage.run before) call)
      [wholeCall, jumpingCall] :=
    always_snoc.mpr ⟨hwhole, smallTransition_of_isSmall (by decide +kernel)⟩
  exact always_snoc.mpr ⟨hjumping, smallTransition_of_isSmall (by decide +kernel)⟩

/-- **A chunk that breaks the limit** with the shipped settings: an accepted
row moves the last joint by 6.5, and each of the fifty transition steps by
0.13 where 0.1 is allowed. -/
theorem transition_exceeds_limit :
    sampleExecutor.begin_stage (py "open_door") (.ok ()) (.ok ()) restSnapshot
        = (.ok (), sampleStage) ∧
      ¬ Within (WithinDelta sampleStage.config) (fun _ => 0)
        (sampleStage.commanded (sampleStage.run [lastJointCall (13 / 2)])) ∧
      ∃ r, sampleStage.result (lastJointCall (13 / 2)) = .ok r :=
  ⟨rfl, by decide +kernel, _, rfl⟩

end OvenRuntime
