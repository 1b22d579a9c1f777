/-
  OvenRuntime.Edge.GateWindow
  ───────────────────────────
  What a passed window says about its samples.

  The gate compares medians with a target and peak-to-peak spreads with one
  limit.  A median lies between the smallest and the largest sample, so no
  sample is further from it than the spread: a passed window holds every one
  of its samples near the target (`passed_window_bounds`).
-/
import OvenRuntime.Edge.JointGateTrace
import Mathlib.Algebra.Order.Group.MinMax
import Mathlib.Tactic.Ring

namespace OvenRuntime

/-! ## §1. Largest and smallest values. -/

theorem le_npMax {xs : List ℚ} {x : ℚ} (h : x ∈ xs) : x ≤ npMax xs :=
  (npMax_le (List.ne_nil_of_mem h)).mp le_rfl x h

theorem npMax_mem {xs : List ℚ} (hne : xs ≠ []) : npMax xs ∈ xs := by
  have hfold : ∀ (ys : List ℚ) (y : ℚ), ys.foldl max y ∈ y :: ys := by
    intro ys
    induction ys with
    | nil =>
        intro y
        exact List.mem_cons_self ..
    | cons z ys ih =>
        intro y
        rw [List.foldl_cons]
        rcases List.mem_cons.mp (ih (max y z)) with h | h
        · rw [h]
          rcases max_choice y z with hc | hc <;> simp [hc]
        · exact List.mem_cons_of_mem _ (List.mem_cons_of_mem _ h)
  cases xs with
  | nil => exact absurd rfl hne
  | cons x xs => exact hfold xs x

/-- The smallest value is the largest of the negated ones. -/
theorem npMin_eq (xs : List ℚ) : npMin xs = -npMax (xs.map (- ·)) := by
  have hfold : ∀ (ys : List ℚ) (y : ℚ), ys.foldl min y = -(ys.map (- ·)).foldl max (-y) := by
    intro ys
    induction ys with
    | nil =>
        intro y
        simp
    | cons z ys ih =>
        intro y
        rw [List.map_cons, List.foldl_cons, List.foldl_cons, ih, max_neg_neg]
  cases xs with
  | nil => simp [npMin, npMax]
  | cons x xs => exact hfold xs x

theorem npMin_le {xs : List ℚ} {x : ℚ} (h : x ∈ xs) : npMin xs ≤ x := by
  have hmax := le_npMax (List.mem_map_of_mem (f := (- ·)) h)
  rw [npMin_eq]
  linarith

/-- The order of the values does not matter. -/
theorem npMax_perm {xs ys : List ℚ} (h : xs.Perm ys) : npMax xs = npMax ys := by
  by_cases hne : xs = []
  · subst hne
    rw [List.nil_perm.mp h]
  · have hne' : ys ≠ [] := fun hnil => hne (List.perm_nil.mp (hnil ▸ h))
    apply le_antisymm
    · exact le_npMax (h.subset (npMax_mem hne))
    · exact le_npMax (h.symm.subset (npMax_mem hne'))

theorem npMin_perm {xs ys : List ℚ} (h : xs.Perm ys) : npMin xs = npMin ys := by
  rw [npMin_eq, npMin_eq, npMax_perm (h.map _)]

theorem ptp_perm {xs ys : List ℚ} (h : xs.Perm ys) : ptp xs = ptp ys := by
  unfold ptp
  rw [npMax_perm h, npMin_perm h]

/-! ## §2. The median. -/

theorem median_perm {xs ys : List ℚ} (h : xs.Perm ys) : median xs = median ys := by
  have hsorted : xs.insertionSort (· ≤ ·) = ys.insertionSort (· ≤ ·) := by
    have hperm := ((List.perm_insertionSort (· ≤ ·) xs).trans h).trans
      (List.perm_insertionSort (· ≤ ·) ys).symm
    exact hperm.eq_of_pairwise' (List.pairwise_insertionSort (· ≤ ·) xs)
      (List.pairwise_insertionSort (· ≤ ·) ys)
  unfold median
  rw [hsorted, h.length_eq]

/-- The median is the mean of two of the values. -/
theorem median_eq {xs : List ℚ} (hne : xs ≠ []) :
    ∃ a ∈ xs, ∃ b ∈ xs, median xs = (a + b) / 2 := by
  have hpos : 0 < xs.length := List.length_pos_iff.mpr hne
  have hget : ∀ i, i < xs.length → (xs.insertionSort (· ≤ ·)).getD i 0 ∈ xs := by
    intro i hi
    have hlen : i < (xs.insertionSort (· ≤ ·)).length := by
      rw [List.length_insertionSort]
      exact hi
    rw [List.getD_eq_getElem?_getD, List.getElem?_eq_getElem hlen, Option.getD_some]
    exact (List.mem_insertionSort (· ≤ ·)).mp (List.getElem_mem hlen)
  exact ⟨_, hget _ (by omega), _, hget _ (by omega), rfl⟩

/-- No value is further from the median than the spread. -/
theorem abs_sub_median_le {xs : List ℚ} {x : ℚ} (hx : x ∈ xs) : |x - median xs| ≤ ptp xs := by
  obtain ⟨a, ha, b, hb, hmedian⟩ := median_eq (List.ne_nil_of_mem hx)
  have hxs := And.intro (npMin_le hx) (le_npMax hx)
  have has := And.intro (npMin_le ha) (le_npMax ha)
  have hbs := And.intro (npMin_le hb) (le_npMax hb)
  unfold ptp
  rw [hmedian, abs_le]
  constructor
  · linarith [hxs.1, has.2, hbs.2]
  · linarith [hxs.2, has.1, hbs.1]

/-! ## §3. The window. -/

/-- The result depends on the samples as a multiset. -/
theorem window_result_perm (profile : JointGateProfile) (arrays : GateArrays)
    {samples samples' : List Joints} (h : samples.Perm samples') :
    _window_result profile arrays samples = _window_result profile arrays samples' := by
  have hspread : (arrays.checked samples).map ptp = (arrays.checked samples').map ptp := by
    unfold GateArrays.checked
    rw [List.map_map, List.map_map]
    exact List.map_congr_left fun j _ => ptp_perm (h.map _)
  have herrors : arrays.errors samples = arrays.errors samples' := by
    funext target
    unfold GateArrays.errors
    refine List.map_congr_left fun j _ => ?_
    rw [median_perm (h.map fun s => s j)]
  have hmatching : arrays.matching samples = arrays.matching samples' := by
    funext target
    unfold GateArrays.matching
    rw [herrors]
  unfold _window_result
  rw [hspread, herrors, hmatching, h.length_eq]

/-- A joint the profile checks, with its tolerance. -/
def JointGateProfile.checks (profile : JointGateProfile) : List (Fin 7 × ℚ) :=
  (profile.check_indices.map jointIndex).zip profile.tolerance

/-- The arrays of a profile are its own fields. -/
theorem JointGateProfile.arrays_eq {profile : JointGateProfile} {arrays : GateArrays}
    (h : profile.arrays = .ok arrays) :
    arrays.targets = profile.targets.map joints ∧
      arrays.indices.zip arrays.tolerance = profile.checks ∧
      arrays.indices.length = arrays.tolerance.length ∧ arrays.tolerance = profile.tolerance := by
  unfold JointGateProfile.arrays at h
  split at h
  · cases h
  split at h
  · cases h
  rename_i hlengths
  iterate 5 (split at h; · cases h)
  cases h
  push Not at hlengths
  refine ⟨rfl, rfl, ?_, rfl⟩
  rw [List.length_map]
  exact hlengths.1.symm

/-- **A passed gate bounds every sample.**  One template is near all samples
in all checked joints, and the two reported numbers are within the limits of
the profile.  The order of the samples does not matter, whatever the result. -/
theorem passed_window_bounds {profile : JointGateProfile} {arrays : GateArrays}
    (harr : profile.arrays = .ok arrays) (samples : List Joints) :
    ((_window_result profile arrays samples).passed = true →
      (∃ target ∈ profile.targets.map joints, ∀ sample ∈ samples, ∀ q ∈ profile.checks,
        |sample q.1 - target q.1| ≤ q.2 + profile.max_spread) ∧
      (∃ s, (_window_result profile arrays samples).max_spread = .fin s ∧
        s ≤ profile.max_spread) ∧
      ∃ e, (_window_result profile arrays samples).max_error = .fin e ∧
        e ≤ npMax profile.tolerance) ∧
    ∀ samples', samples'.Perm samples →
      _window_result profile arrays samples' = _window_result profile arrays samples := by
  refine ⟨?_, fun samples' h => window_result_perm profile arrays h⟩
  intro hpassed
  obtain ⟨htargets, hchecks, hlength, htolerance⟩ := JointGateProfile.arrays_eq harr
  have hindices := (JointGateProfile.arrays_ok harr).1
  have hspread := ((window_result_passed_iff hindices samples).mp hpassed).2
  unfold _window_result at hpassed ⊢
  simp only at hpassed ⊢
  cases hfind : arrays.targets.find? (arrays.matching samples) with
  | none =>
      rw [hfind] at hpassed
      exact absurd hpassed Bool.false_ne_true
  | some target =>
      simp only [hfind] at hpassed ⊢
      have hmem := List.mem_of_find?_eq_some hfind
      have hmatch := matching_iff.mp (List.find?_some hfind)
      rw [hchecks] at hmatch
      split at hpassed
      · rename_i hmax
        rw [if_pos hmax]
        refine ⟨⟨target, htargets ▸ hmem, ?_⟩, ⟨_, rfl, hmax⟩, ⟨_, rfl, ?_⟩⟩
        · -- the sample is near its median, the median near the target
          intro sample hsample q hq
          have hj : q.1 ∈ arrays.indices := (List.of_mem_zip (hchecks ▸ hq)).1
          have hmedian := abs_sub_median_le
            (List.mem_map_of_mem (f := fun s : Joints => s q.1) hsample)
          calc |sample q.1 - target q.1|
              ≤ |sample q.1 - median (samples.map fun s => s q.1)|
                + |median (samples.map fun s => s q.1) - target q.1| := abs_sub_le _ _ _
            _ ≤ profile.max_spread + q.2 :=
                add_le_add (hmedian.trans (hspread q.1 hj)) (hmatch q hq)
            _ = q.2 + profile.max_spread := by ring
        · -- each error is within its own tolerance
          have herrors : arrays.errors samples target ≠ [] := by
            simpa [GateArrays.errors] using hindices
          refine (npMax_le herrors).mpr ?_
          intro e he
          obtain ⟨j, hj, rfl⟩ := List.mem_map.mp he
          obtain ⟨i, hi, rfl⟩ := List.mem_iff_getElem.mp hj
          have hi' : i < arrays.tolerance.length := hlength ▸ hi
          have hq : (arrays.indices[i], arrays.tolerance[i]) ∈ profile.checks := by
            rw [← hchecks]
            exact List.mem_iff_getElem.mpr ⟨i, by simp [hi, hi'], by simp⟩
          have htol : arrays.tolerance[i] ≤ npMax profile.tolerance := by
            rw [← htolerance]
            exact le_npMax (List.getElem_mem hi')
          exact (hmatch _ hq).trans htol
      · exact absurd hpassed Bool.false_ne_true

/-- The profile has arrays, and the window passes. -/
def passesWindow (profile : JointGateProfile) (samples : List Joints) : Bool :=
  match profile.arrays with
  | .error _ => false
  | .ok arrays => (_window_result profile arrays samples).passed

/-- Two samples near the target. -/
theorem passed_window_bounds_pair :
    ∃ arrays, sampleGate.arrays = .ok arrays ∧
      ∀ sample ∈ [joints [1 / 50, 0, 0, 0, 0, 0, 0], joints [0, 0, 0, 0, 0, 0, 0]],
        ∃ target ∈ sampleGate.targets.map joints, ∀ q ∈ sampleGate.checks,
          |sample q.1 - target q.1| ≤ q.2 + sampleGate.max_spread := by
  have hrun : passesWindow sampleGate
      [joints [1 / 50, 0, 0, 0, 0, 0, 0], joints [0, 0, 0, 0, 0, 0, 0]] = true := by
    decide +kernel
  unfold passesWindow at hrun
  split at hrun
  · cases hrun
  · next arrays harr =>
      obtain ⟨⟨target, ht, hall⟩, -⟩ := (passed_window_bounds harr _).1 hrun
      exact ⟨arrays, harr, fun sample hs => ⟨target, ht, hall sample hs⟩⟩

end OvenRuntime
