/-
  OvenRuntime.Edge.FinalGate
  ──────────────────────────
  The online gate and the final gate of a stage.

  `reached_result` asks for the stop while rows are published, `evaluate`
  decides the stage afterwards.  They test the same flags and the same window
  in different orders; what one of them lets pass, the other does
  (`online_final_agree`).
-/
import OvenRuntime.Edge.JointGateTrace

namespace OvenRuntime

open History

/-! ## §1. All calls of a gate. -/

/-- A call of the gate; `evaluate` is one that only reads. -/
inductive GateUse where
  | call (c : GateCall)
  | evaluate (skill : PyStr)

namespace OnlineJointGate

/-- The gate after one more call. -/
def use (g : OnlineJointGate) : GateUse → OnlineJointGate
  | .call c => g.after c
  | .evaluate _ => g

/-- The gate after a sequence of calls. -/
def uses (g : OnlineJointGate) (us : List GateUse) : OnlineJointGate := us.foldl use g

/-- The profiles of a gate are those it was made from, whatever is called. -/
theorem after_profiles (g : OnlineJointGate) (c : GateCall) :
    (g.after c)._profiles = g._profiles := by
  cases c with
  | begin skill =>
      rcases g.begin_cases skill with ⟨-, hg⟩ | ⟨profile, -, hg⟩ <;>
        rw [show g.after (.begin skill) = (g.begin skill).2 from rfl, hg]
  | update arm position =>
      rcases g.update_cases arm position with ⟨-, hg⟩ | ⟨s, profile, sample, -, -, -, -, hg⟩ <;>
        rw [show g.after (.update arm position) = g.update arm position from rfl, hg]
  | reached_result skill publish_step =>
      show (g.reached_result skill publish_step).2._profiles = _
      by_cases hskill : g._skill = some skill
      · cases hlookup : g._profiles.lookup skill with
        | none => simp [reached_result, _snapshot, hlookup]
        | some profile =>
            obtain ⟨arrays, harr⟩ := g.exists_arrays hlookup
            rcases g.reached_result_after publish_step hskill hlookup harr with
              ⟨latest, -, -, -, -, hafter⟩ | ⟨-, hafter⟩ <;> rw [hafter]
      · rw [(g.reached_result_other publish_step hskill).1]

theorem uses_profiles (g : OnlineJointGate) (us : List GateUse) :
    (g.uses us)._profiles = g._profiles := by
  induction us using List.reverseRecOn with
  | nil => rfl
  | append_singleton us u ih =>
      rw [uses, List.foldl_append, List.foldl_cons, List.foldl_nil]
      cases u with
      | call c => exact (after_profiles _ c).trans ih
      | evaluate skill => exact ih

/-! ## §2. The two decisions. -/

/-- The two methods pass on the same condition: the skill is current, armed
and departed, the window is full and settled. -/
structure Ready (g : OnlineJointGate) (skill : PyStr) (profile : JointGateProfile)
    (arrays : GateArrays) (r : GateResult) : Prop where
  current : g._skill = some skill
  armed : g._armed = true
  departed : g._departed = true
  full : ¬ ((window profile.window_samples.toNat g._samples).length : Int) < profile.window_samples
  result : r = _window_result profile arrays (window profile.window_samples.toNat g._samples)
  passed : r.passed = true

/-- What `evaluate` says of the skill in progress. -/
theorem evaluate_passed_iff {g : OnlineJointGate} {skill : PyStr} {profile : JointGateProfile}
    {arrays : GateArrays} (hlookup : g._profiles.lookup skill = some profile)
    (harr : profile.arrays = .ok arrays) (r : GateResult) :
    (g.evaluate skill = .ok r ∧ r.passed = true) ↔ g.Ready skill profile arrays r := by
  unfold evaluate _snapshot
  simp only [hlookup, harr]
  constructor
  · rintro ⟨h, hpassed⟩
    by_cases harmed : g._skill = some skill ∧ g._armed = true
    · rw [if_neg (not_not.mpr harmed)] at h
      by_cases hdeparted : g._skill = some skill ∧ g._departed = true
      · rw [if_neg (not_not.mpr hdeparted), if_neg (not_not.mpr harmed.1)] at h
        split at h
        · cases h
          exact absurd hpassed Bool.false_ne_true
        · rename_i hfull
          exact ⟨harmed.1, harmed.2, hdeparted.2, hfull, (Except.ok.inj h).symm, hpassed⟩
      · rw [if_pos hdeparted] at h
        cases h
        exact absurd hpassed Bool.false_ne_true
    · rw [if_pos harmed] at h
      cases h
      exact absurd hpassed Bool.false_ne_true
  · intro h
    rw [if_neg (not_not.mpr ⟨h.current, h.armed⟩), if_neg (not_not.mpr ⟨h.current, h.departed⟩),
      if_neg (not_not.mpr h.current), if_neg h.full, ← h.result]
    exact ⟨rfl, h.passed⟩

/-- What `reached_result` returns once `min_publish_step` rows are out. -/
theorem reached_result_some_iff {g : OnlineJointGate} {skill : PyStr}
    {profile : JointGateProfile} {arrays : GateArrays} (publish_step : Int)
    (hlookup : g._profiles.lookup skill = some profile) (harr : profile.arrays = .ok arrays)
    (r : GateResult) :
    (g.reached_result skill publish_step).1 = .ok (some r) ↔
      g.Ready skill profile arrays r ∧ profile.min_publish_step ≤ publish_step := by
  by_cases hskill : g._skill = some skill
  · rw [g.reached_result_eq publish_step hskill hlookup harr]
    constructor
    · intro h
      split at h
      · cases h
      cases harmed : g._armed with
      | false =>
          rw [harmed] at h
          cases h
      | true =>
          cases hdep : g._departed with
          | false =>
              rw [harmed, hdep] at h
              simp only [Bool.not_true, Bool.not_false, Bool.false_eq_true, if_false,
                if_true] at h
              split at h <;> cases h
          | true =>
              rw [harmed, hdep] at h
              simp only [Bool.not_true, Bool.false_eq_true, if_false] at h
              split at h
              · cases h
              · rename_i hwindow
                split at h
                · rename_i hpassed
                  cases h
                  push Not at hwindow
                  exact ⟨⟨hskill, harmed, hdep, by omega, rfl, hpassed⟩, hwindow.1⟩
                · cases h
    · rintro ⟨h, hstep⟩
      -- a full window is not empty, so there is a latest sample
      have hne : g._samples ≠ [] := by
        intro hnil
        have hfull := h.full
        rw [hnil, show window profile.window_samples.toNat ([] : List Joints) = [] from
          List.rtake_nil _] at hfull
        have := (JointGateProfile.arrays_ok harr).2.2
        exact hfull (by simpa using this)
      rw [List.getLast?_eq_some_getLast hne]
      have hwindow : ¬ (publish_step < profile.min_publish_step ∨
          ((window profile.window_samples.toNat g._samples).length : Int)
            < profile.window_samples) := by
        have := h.full
        omega
      have hpassed := h.passed
      rw [h.result] at hpassed
      simp only [h.armed, h.departed, Bool.not_true, Bool.false_eq_true, if_false,
        if_neg hwindow, if_pos hpassed]
      rw [h.result]
  · constructor
    · intro h
      exact absurd h ((g.reached_result_other publish_step hskill).2 r)
    · intro h
      exact absurd h.1.current hskill

/-- **`reached` says yes exactly where the final gate would pass** and enough rows are
out. -/
theorem reached_iff {g : OnlineJointGate} {skill : PyStr} {profile : JointGateProfile}
    {arrays : GateArrays} (publish_step : Int)
    (hlookup : g._profiles.lookup skill = some profile) (harr : profile.arrays = .ok arrays) :
    (g.reached skill publish_step).1 = .ok true ↔
      (∃ r, g.evaluate skill = .ok r ∧ r.passed = true) ∧
        profile.min_publish_step ≤ publish_step := by
  have hsome := fun r => g.reached_result_some_iff publish_step hlookup harr r
  have hreached : (g.reached skill publish_step).1 = .ok true ↔
      ∃ r, (g.reached_result skill publish_step).1 = .ok (some r) := by
    unfold reached
    rcases g.reached_result skill publish_step with ⟨⟨e⟩ | ⟨_ | r⟩, g'⟩ <;> simp
  rw [hreached]
  constructor
  · rintro ⟨r, hr⟩
    obtain ⟨hready, hstep⟩ := (hsome r).mp hr
    exact ⟨⟨r, (evaluate_passed_iff hlookup harr r).mpr hready⟩, hstep⟩
  · rintro ⟨⟨r, hpassed⟩, hstep⟩
    exact ⟨r, (hsome r).mpr ⟨(evaluate_passed_iff hlookup harr r).mp hpassed, hstep⟩⟩

end OnlineJointGate

/-- **The online and the final gate agree** after any calls of a gate: what
the online gate stops for, the final gate passes with the same result; what
the final gate passes, the online gate stops for once enough rows are out. -/
theorem online_final_agree {profiles : List (PyStr × JointGateProfile)} {g₀ : OnlineJointGate}
    (hinit : OnlineJointGate.init profiles = .ok g₀) (us : List GateUse) {skill : PyStr}
    {profile : JointGateProfile} (hskill : profiles.lookup skill = some profile)
    (publish_step : Int) :
    (∀ r, ((g₀.uses us).reached_result skill publish_step).1 = .ok (some r) →
      ((g₀.uses us).after (.reached_result skill publish_step)).evaluate skill = .ok r) ∧
    (∀ r, (g₀.uses us).evaluate skill = .ok r → r.passed = true →
      profile.min_publish_step ≤ publish_step →
      (((g₀.uses us).use (.evaluate skill)).reached_result skill publish_step).1
        = .ok (some r)) ∧
    (g₀.uses us).use (.evaluate skill) = g₀.uses us := by
  have hprofiles : g₀._profiles = profiles := by
    unfold OnlineJointGate.init at hinit
    split at hinit
    · cases hinit
    · split at hinit
      · cases hinit
        rfl
      · cases hinit
  have hlookup : (g₀.uses us)._profiles.lookup skill = some profile := by
    rw [OnlineJointGate.uses_profiles, hprofiles]
    exact hskill
  obtain ⟨arrays, harr⟩ := OnlineJointGate.exists_arrays hlookup
  refine ⟨?_, ?_, rfl⟩
  · intro r h
    obtain ⟨hready, -⟩ :=
      (OnlineJointGate.reached_result_some_iff publish_step hlookup harr r).mp h
    -- a departed gate is left as it is
    have hsame : (g₀.uses us).after (.reached_result skill publish_step) = g₀.uses us := by
      rcases OnlineJointGate.reached_result_after publish_step hready.current hlookup harr with
        ⟨-, -, -, hdep, -⟩ | ⟨-, hafter⟩
      · rw [hready.departed] at hdep
        cases hdep
      · exact hafter
    rw [hsame]
    exact ((OnlineJointGate.evaluate_passed_iff hlookup harr r).mpr hready).1
  · intro r h hpassed hstep
    exact (OnlineJointGate.reached_result_some_iff publish_step hlookup harr r).mpr
      ⟨(OnlineJointGate.evaluate_passed_iff hlookup harr r).mp ⟨h, hpassed⟩, hstep⟩

/-- The arm that has come back stops the rollout and passes the final gate. -/
theorem online_final_agree_return :
    ∃ g₀ r, OnlineJointGate.init [(py "rotate_button", sampleGate)] = .ok g₀ ∧
      ((g₀.uses (returningCalls.map .call)).reached_result (py "rotate_button") 3).1
        = .ok (some r) ∧
      ((g₀.uses (returningCalls.map .call)).after
        (.reached_result (py "rotate_button") 3)).evaluate (py "rotate_button") = .ok r := by
  have hrun : givesResult [(py "rotate_button", sampleGate)] (fun g =>
      ((g.uses (returningCalls.map .call)).reached_result (py "rotate_button") 3).1) = true := by
    decide +kernel
  obtain ⟨g, r, hg, hr⟩ := exists_result hrun
  have hagree := online_final_agree hg (returningCalls.map .call)
    (show [(py "rotate_button", sampleGate)].lookup (py "rotate_button") = some sampleGate
      from rfl) 3
  exact ⟨g, r, hg, hr, hagree.1 r hr⟩

end OvenRuntime
