/-
  OvenRuntime.Edge.CommandBox
  ───────────────────────────
  Where the commanded positions of a stage lie.

  Every chunk starts from the last command, wherever an earlier call left it.
  A transition is a path of convex combinations of that command and the
  chunk's first row, so a box that holds the measured start and all rows holds
  every position in between (`commands_in_box`).
-/
import OvenRuntime.Edge.MotionLimit

namespace OvenRuntime

open History StepLimit

/-! ## §1. One transition. -/

/-- Every component is within its bound. -/
def InBox (bound position : Joints) : Prop := ∀ j, |position j| ≤ bound j

/-- A point between two points of a box is in the box. -/
theorem InBox.ramp {bound last first : Joints} (hlast : InBox bound last)
    (hfirst : InBox bound first) {i n : Nat} (hi : i ≤ n) (hn : 0 < n) :
    InBox bound (rampPoint n last first i) := by
  intro j
  have hn' : (0 : ℚ) < n := by exact_mod_cast hn
  have hi' : (i : ℚ) ≤ n := by exact_mod_cast hi
  have ht₀ : 0 ≤ (i : ℚ) / n := div_nonneg (Nat.cast_nonneg i) hn'.le
  have ht₁ : 0 ≤ 1 - (i : ℚ) / n := by
    have := (div_le_one hn').mpr hi'
    linarith
  calc |rampPoint n last first i j|
      = |(1 - (i : ℚ) / n) * last j + (i : ℚ) / n * first j| := by
        unfold rampPoint
        congr 1
        ring
    _ ≤ |(1 - (i : ℚ) / n) * last j| + |(i : ℚ) / n * first j| := abs_add_le _ _
    _ = (1 - (i : ℚ) / n) * |last j| + (i : ℚ) / n * |first j| := by
        rw [abs_mul, abs_mul, abs_of_nonneg ht₁, abs_of_nonneg ht₀]
    _ ≤ (1 - (i : ℚ) / n) * bound j + (i : ℚ) / n * bound j :=
        add_le_add (mul_le_mul_of_nonneg_left (hlast j) ht₁)
          (mul_le_mul_of_nonneg_left (hfirst j) ht₀)
    _ = bound j := by ring

/-- The points of a transition lie between its ends, so they are in every box that has both.
-/
theorem InBox.transition {bound last first : Joints} (hlast : InBox bound last)
    (hfirst : InBox bound first) {n : Nat} (hn : 0 < n) :
    ∀ p ∈ RosActionExecutor.transition n last first, InBox bound p := by
  intro p hp
  rw [transition_eq] at hp
  obtain ⟨i, hi, rfl⟩ := List.mem_map.mp hp
  exact hlast.ramp hfirst (by have := List.mem_range.mp hi; omega) hn

/-- The last position of a transition is the chunk's first row. -/
theorem transition_getLast {n : Nat} (last first : Joints) (hn : 0 < n) :
    (RosActionExecutor.transition n last first).getLast? = some first := by
  obtain ⟨m, rfl⟩ : ∃ m, n = m + 1 := ⟨n - 1, by omega⟩
  rw [transition_eq, List.range_succ, List.map_append, List.map_singleton,
    List.getLast?_append, List.getLast?_singleton, Option.some_or]
  rw [rampPoint_end last first (by omega)]

/-! ## §2. One call. -/

/-- The rows that are published before the gate stops them are the first ones. -/
theorem rowsUntilStop_begins (gate : GateAnswers) (skill : PyStr) (rows : List Joints) :
    ∀ published_rows, rowsUntilStop gate skill published_rows rows <+: rows := by
  induction rows with
  | nil => exact fun _ => List.prefix_rfl
  | cons row rest ih =>
      intro published_rows
      unfold rowsUntilStop
      split
      · exact ⟨rest, rfl⟩
      · exact List.prefix_cons_inj row |>.mpr (ih _)

/-- So are those before a step that is too large. -/
theorem limited_begins {α : Type} (R : α → α → Prop) [DecidableRel R] (l : List α) :
    ∀ a, limited R a l <+: l := by
  induction l with
  | nil => exact fun _ => List.prefix_rfl
  | cons b l ih =>
      intro a
      rw [limited_cons]
      split
      · exact List.prefix_cons_inj b |>.mpr (ih b)
      · exact List.nil_prefix

/-- What a call commands: nothing, if the snapshot raises; otherwise the
transition to the first row and then rows of the chunk in order, the last one
of which is remembered. -/
def EndsAtLastRow (ex : RosActionExecutor) (call : PublishCall) : Prop :=
  ((∃ arm e, ex.arm = some arm ∧ call.arm_snapshot arm = .error e) ∧ ex.after call = ex) ∨
  ∃ last first rest rows, ex._last_command = some last ∧ call.rows = first :: rest ∧
    rows <+: rest ∧
    ex.commanded (ex.after call) =
      RosActionExecutor.transition ex.config.chunk_transition_steps.toNat last first ++ rows ∧
    (RosActionExecutor.transition ex.config.chunk_transition_steps.toNat last first).getLast?
      = some first ∧
    (ex.after call)._last_command = (first :: rows).getLast?

/-- A call with rows commands the transition to the first one and then rows in order, unless
the snapshot raises. -/
theorem Staged.ends_at_last_row {ex : RosActionExecutor} {skill arm : PyStr} {last : Joints}
    (h : Staged ex skill arm last) (call : PublishCall) (hne : call.rows ≠ []) :
    EndsAtLastRow ex call := by
  have hpos : 0 < ex.config.chunk_transition_steps.toNat := by
    have := steps_pos_of_valid ex.valid
    omega
  rcases h.publish_cases call with ⟨hno, -, hsame⟩
    | ⟨snapshot, first, rows, hsnap, hhead, hint, hc, hlast, -⟩
  · refine .inl ⟨?_, hsame⟩
    cases hsnap : call.arm_snapshot arm with
    | error e => exact ⟨arm, e, h.arm_eq, hsnap⟩
    | ok snapshot =>
        obtain ⟨first, rest, hrows⟩ := List.exists_cons_of_ne_nil hne
        exact absurd (by rw [hrows]; rfl) (hno snapshot first hsnap)
  · right
    obtain ⟨rest, hrows⟩ : ∃ rest, call.rows = first :: rest := by
      obtain ⟨first', rest, hrows⟩ := List.exists_cons_of_ne_nil hne
      rw [hrows] at hhead
      cases hhead
      exact ⟨rest, hrows⟩
    -- the rows meant to be commanded are a beginning of the chunk
    have hbegins : rows <+: rest := by
      unfold intended at hint
      simp only [h.ready, h.active, h.left_at, h.arm_eq, hsnap, hrows] at hint
      rw [← List.append_cancel_left hint]
      split
      · exact List.nil_prefix
      · exact rowsUntilStop_begins _ _ _ _
    refine ⟨last, first, rest, _, h.left_at, hrows, (limited_begins _ rows first).trans hbegins,
      hc.commanded h, transition_getLast last first hpos, ?_⟩
    rw [hlast, stop, List.getLastD_eq_getLast?, List.getLast?_cons]

/-- A call keeps the box. -/
theorem Staged.after_in_box {ex : RosActionExecutor} {skill arm : PyStr} {last bound : Joints}
    (h : Staged ex skill arm last) (call : PublishCall) (hne : call.rows ≠ [])
    (hlast : InBox bound last) (hrows : ∀ row ∈ call.rows, InBox bound row) :
    (∀ p ∈ ex.commanded (ex.after call), InBox bound p) ∧
      InBox bound (stop last (ex.commanded (ex.after call))) := by
  have hpos : 0 < ex.config.chunk_transition_steps.toNat := by
    have := steps_pos_of_valid ex.valid
    omega
  have hall : ∀ p ∈ ex.commanded (ex.after call), InBox bound p := by
    rcases h.ends_at_last_row call hne with ⟨-, hsame⟩
      | ⟨last', first, rest, rows, hl, hchunk, hbegins, hcommanded, -⟩
    · rw [hsame, (Commands.nil ex arm last).commanded h]
      exact fun p hp => absurd hp List.not_mem_nil
    · cases h.left_at.symm.trans hl
      rw [hchunk] at hrows
      rw [hcommanded]
      intro p hp
      rcases List.mem_append.mp hp with hp | hp
      · exact hlast.transition (hrows first (List.mem_cons_self ..)) hpos p hp
      · exact hrows p (List.mem_cons_of_mem _ (hbegins.subset hp))
  refine ⟨hall, ?_⟩
  unfold stop
  rw [List.getLastD_eq_getLast?]
  cases hlast? : (ex.commanded (ex.after call)).getLast? with
  | none => exact hlast
  | some p => exact hall p (List.mem_of_getLast? hlast?)

/-! ## §3. A stage. -/

/-- **The whole run stays in the box**, by induction on the calls: each begins where the one
before it ended. -/
theorem Staged.run_in_box {ex : RosActionExecutor} {skill arm : PyStr} {last bound : Joints}
    (h : Staged ex skill arm last) (hlast : InBox bound last) (calls : List PublishCall)
    (hcalls : ∀ call ∈ calls, call.rows ≠ [] ∧ ∀ row ∈ call.rows, InBox bound row) :
    (∀ p ∈ ex.commanded (ex.run calls), InBox bound p) ∧
      InBox bound (stop last (ex.commanded (ex.run calls))) := by
  induction calls using List.reverseRecOn with
  | nil =>
      show (∀ p ∈ ex.commanded ex, InBox bound p) ∧ InBox bound (stop last (ex.commanded ex))
      rw [(Commands.nil ex arm last).commanded h]
      exact ⟨fun p hp => absurd hp List.not_mem_nil, hlast⟩
  | append_singleton calls call ih =>
      obtain ⟨hbefore, hstop⟩ := ih fun c hc => hcalls c (List.mem_append_left _ hc)
      obtain ⟨hst, -, ⟨commands, hpub⟩, -⟩ := h.run calls
      obtain ⟨-, -, other_hold, hc⟩ := hst.after call
      obtain ⟨hne, hrows⟩ := hcalls call (List.mem_append_right _ (List.mem_singleton_self call))
      obtain ⟨hnew, hstop'⟩ := hst.after_in_box call hne hstop hrows
      rw [commanded_run_snoc h hst hpub hc, stop_append]
      refine ⟨?_, hstop'⟩
      intro p hp
      rcases List.mem_append.mp hp with hp | hp
      · exact hbefore p hp
      · exact hnew p hp

/-- **Commanded positions stay in the box** spanned by the measured start and
the accepted entries; every transition ends at its chunk's first row, and what
is remembered is the last row that went out. -/
theorem commands_in_box {ex₀ ex : RosActionExecutor} {skill arm : PyStr} {measured other : Joints}
    {checks gate : Except Exn Unit} {arm_snapshot : ArmSnapshot}
    (h : ex₀.begin_stage skill checks gate arm_snapshot = (.ok (), ex))
    (harm : ex.arm = some arm) (hmeasured : arm_snapshot arm = .ok (measured, other)) {L : ℚ}
    (calls : List PublishCall)
    (hcalls : ∀ call ∈ calls, call.rows ≠ [] ∧ ∀ row ∈ call.rows, ∀ j, |row j| ≤ L) :
    (∀ p ∈ ex.commanded (ex.run calls), ∀ j, |p j| ≤ max L |measured j|) ∧
      Always (fun before call => EndsAtLastRow (ex.run before) call) calls := by
  obtain ⟨arm', controlled, other', hsnap, hst⟩ := begin_stage_staged h
  cases harm.symm.trans hst.arm_eq
  cases hmeasured.symm.trans hsnap
  constructor
  · have hstart : InBox (fun j => max L |measured j|) measured := fun j => le_max_right _ _
    exact (hst.run_in_box hstart calls fun call hc => ⟨(hcalls call hc).1,
      fun row hr j => ((hcalls call hc).2 row hr j).trans (le_max_left _ _)⟩).1
  · induction calls using List.reverseRecOn with
    | nil => exact always_nil _
    | append_singleton calls call ih =>
        refine always_snoc.mpr ⟨ih fun c hc => hcalls c (List.mem_append_left _ hc), ?_⟩
        exact (hst.run calls).1.ends_at_last_row call
          (hcalls call (List.mem_append_right _ (List.mem_singleton_self call))).1

/-- A stage whose rows stay within 21/10; the arm comes from farther off. -/
theorem commands_in_box_stage :
    sampleExecutor.begin_stage (py "open_door") (.ok ()) (.ok ()) movedSnapshot
      = (.ok (), movedStage) ∧
    (movedStage.commanded (movedStage.run stageCalls)).length = 154 ∧
    (∀ p ∈ movedStage.commanded (movedStage.run stageCalls), ∀ j,
      |p j| ≤ max (21 / 10) |movedArm j|) ∧
    Always (fun before call => EndsAtLastRow (movedStage.run before) call) stageCalls := by
  have hbegin : sampleExecutor.begin_stage (py "open_door") (.ok ()) (.ok ()) movedSnapshot
      = (.ok (), movedStage) := rfl
  have hrows : ∀ call ∈ stageCalls, ∀ row ∈ call.rows, ∀ j, |row j| ≤ 21 / 10 := by
    decide +kernel
  have hne : ∀ call ∈ stageCalls, call.rows ≠ [] := by
    unfold stageCalls
    simp [wholeCall, jumpingCall, stoppedCall]
  obtain ⟨hbox, hends⟩ := commands_in_box hbegin rfl rfl stageCalls fun call hcall =>
    ⟨hne call hcall, hrows call hcall⟩
  exact ⟨hbegin, by decide +kernel, hbox, hends⟩

end OvenRuntime
