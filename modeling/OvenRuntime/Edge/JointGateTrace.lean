/-
  OvenRuntime.Edge.JointGateTrace
  ───────────────────────────────
  What the online joint gate decides, over the whole history of its calls.

  The specification (`Reaches`) knows no buffer and no flags: it speaks of
  the calls since the last `begin`, of all samples accepted in them, and of
  the first `reached_result` at which the arm had armed and was near no
  target.  `reached_result_iff` says that the gate with its bounded buffer,
  its two flags and its cleared window decides exactly that.
-/
import OvenRuntime.Edge.JointGate
import Mathlib.Tactic.Linarith

namespace OvenRuntime

open History

/-! ## §1. Histories of calls. -/

/-- A call of the gate; each is atomic. -/
inductive GateCall where
  | begin (skill : PyStr)
  | update (arm : PyStr) (position : Position)
  | reached_result (skill : PyStr) (publish_step : Int)

/-- The gate after one more call; a call that raises leaves it as it was. -/
def OnlineJointGate.after (g : OnlineJointGate) : GateCall → OnlineJointGate
  | .begin skill => (g.begin skill).2
  | .update arm position => g.update arm position
  | .reached_result skill publish_step => (g.reached_result skill publish_step).2

/-- The gate after a history of calls. -/
def OnlineJointGate.run (g : OnlineJointGate) (calls : List GateCall) : OnlineJointGate :=
  calls.foldl OnlineJointGate.after g

/-- A `begin` of a skill that has a profile. -/
def Begins (profiles : List (PyStr × JointGateProfile)) (call : GateCall) : Prop :=
  ∃ skill, call = .begin skill ∧ (profiles.lookup skill).isSome = true

/-- The sample a call delivers for an arm: seven finite entries. -/
def GateCall.sample? (arm : PyStr) : GateCall → Option Joints
  | .update arm' position => if arm = arm' then position.sample? else none
  | _ => none

/-- All samples accepted for an arm, in order. -/
def accepted (arm : PyStr) (calls : List GateCall) : List Joints :=
  calls.filterMap (GateCall.sample? arm)

/-! ## §2. The specification. -/

/-- Some accepted sample moved all arming joints past their thresholds at
once, or no arming joint is configured. -/
def Armed (profile : JointGateProfile) (samples : List Joints) : Prop :=
  profile.arming_indices = [] ∨
  ∃ sample ∈ samples, ∀ q ∈ profile.arming_indices.zip profile.arming_min_abs_position,
    q.2 ≤ |sample (jointIndex q.1)|

/-- For every target some checked joint is off by at least the departure
tolerance. -/
def Away (profile : JointGateProfile) (arrays : GateArrays) (sample : Joints) : Prop :=
  ∀ target ∈ arrays.targets, ∃ q ∈ arrays.indices.zip arrays.tolerance,
    max q.2 profile.departure_threshold ≤ |sample q.1 - target q.1|

/-- A call, after the calls in `before`, at which the gate notices that the
arm has departed. -/
def Departs (skill : PyStr) (profile : JointGateProfile) (arrays : GateArrays)
    (before : List GateCall) (call : GateCall) : Prop :=
  (∃ publish_step, call = .reached_result skill publish_step) ∧
  Armed profile (accepted profile.arm before) ∧
  ∃ latest, (accepted profile.arm before).getLast? = some latest ∧ Away profile arrays latest

/-- The medians are within tolerance of one common target, and no checked
joint spreads too far. -/
def Settled (profile : JointGateProfile) (arrays : GateArrays) (samples : List Joints) : Prop :=
  (∃ target ∈ arrays.targets, ∀ q ∈ arrays.indices.zip arrays.tolerance,
    |median (samples.map fun s => s q.1) - target q.1| ≤ q.2) ∧
  ∀ j ∈ arrays.indices, ptp (samples.map fun s => s j) ≤ profile.max_spread

/-- After these calls a `reached_result` for the skill and step gives a
result. -/
def Reaches (profiles : List (PyStr × JointGateProfile)) (calls : List GateCall)
    (skill : PyStr) (publish_step : Int) : Prop :=
  ∃ profile arrays, profiles.lookup skill = some profile ∧ profile.arrays = .ok arrays ∧
    ∃ pre since, LastSplit (Begins profiles) calls pre (.begin skill) since ∧
      ∃ before call later, FirstSplit (Departs skill profile arrays) since before call later ∧
        profile.window_samples + (accepted profile.arm before).length
          ≤ (accepted profile.arm since).length + 1 ∧
        profile.min_publish_step ≤ publish_step ∧
        Settled profile arrays
          (window profile.window_samples.toNat (accepted profile.arm since))

/-! ## §3. Reading the code's tests. -/

theorem npMax_le {xs : List ℚ} (hne : xs ≠ []) {b : ℚ} :
    npMax xs ≤ b ↔ ∀ x ∈ xs, x ≤ b := by
  have hfold : ∀ (ys : List ℚ) (y : ℚ), ys.foldl max y ≤ b ↔ y ≤ b ∧ ∀ x ∈ ys, x ≤ b := by
    intro ys
    induction ys with
    | nil => simp
    | cons z ys ih =>
        intro y
        rw [List.foldl_cons, ih, max_le_iff]
        simp [and_assoc]
  cases xs with
  | nil => exact absurd rfl hne
  | cons x xs =>
      show xs.foldl max x ≤ b ↔ _
      rw [hfold]
      simp

/-- What the checks of a profile guarantee. -/
theorem JointGateProfile.arrays_ok {profile : JointGateProfile} {arrays : GateArrays}
    (h : profile.arrays = .ok arrays) :
    arrays.indices ≠ [] ∧ arrays.targets ≠ [] ∧ 0 < profile.window_samples := by
  unfold JointGateProfile.arrays at h
  split at h
  · cases h
  · rename_i htargets
    split at h
    · cases h
    · rename_i hindices
      iterate 4 (split at h; · cases h)
      split at h
      · cases h
      · rename_i hlimits
        cases h
        push Not at htargets hindices hlimits
        refine ⟨?_, ?_, hlimits.2.2.1⟩
        · simpa using hindices.2
        · simpa using htargets.1

theorem JointGateProfile.arms_iff {profile : JointGateProfile} {samples : List Joints}
    (hne : samples ≠ []) : samples.any profile.arms = true ↔ Armed profile samples := by
  unfold Armed
  constructor
  · intro h
    obtain ⟨sample, hs, ha⟩ := List.any_eq_true.mp h
    refine .inr ⟨sample, hs, ?_⟩
    simpa [JointGateProfile.arms] using ha
  · intro h
    rw [List.any_eq_true]
    rcases h with h | ⟨sample, hs, ha⟩
    · obtain ⟨sample, hs⟩ := List.exists_mem_of_ne_nil samples hne
      exact ⟨sample, hs, by simp [JointGateProfile.arms, h]⟩
    · exact ⟨sample, hs, by simpa [JointGateProfile.arms] using ha⟩

/-- No target is near exactly when the sample is away. -/
theorem not_near_iff {profile : JointGateProfile} {arrays : GateArrays} {latest : Joints} :
    ¬ arrays.targets.any (arrays.near profile.departure_threshold latest) = true ↔
      Away profile arrays latest := by
  simp only [List.any_eq_true, not_exists, not_and, Away, GateArrays.near, List.all_eq_true,
    decide_eq_true_eq, not_forall, not_lt, exists_prop]

theorem matching_iff {arrays : GateArrays} {samples : List Joints} {target : Joints} :
    arrays.matching samples target = true ↔
      ∀ q ∈ arrays.indices.zip arrays.tolerance,
        |median (samples.map fun s => s q.1) - target q.1| ≤ q.2 := by
  unfold GateArrays.matching GateArrays.errors
  rw [List.zip_map_left, List.all_map, List.all_eq_true]
  simp only [Function.comp, Prod.map, id, decide_eq_true_eq]

theorem window_result_passed_iff {profile : JointGateProfile} {arrays : GateArrays}
    (hne : arrays.indices ≠ []) (samples : List Joints) :
    (_window_result profile arrays samples).passed = true ↔ Settled profile arrays samples := by
  have hspread : npMax ((arrays.checked samples).map ptp) ≤ profile.max_spread ↔
      ∀ j ∈ arrays.indices, ptp (samples.map fun s => s j) ≤ profile.max_spread := by
    rw [npMax_le (by simpa [GateArrays.checked] using hne)]
    simp [GateArrays.checked]
  unfold _window_result Settled
  simp only
  rw [← hspread]
  cases hf : arrays.targets.find? (arrays.matching samples) with
  | none =>
      simp only [Bool.false_eq_true, false_iff, not_and]
      rintro ⟨target, ht, hq⟩
      exact absurd (matching_iff.mpr hq) (List.find?_eq_none.mp hf target ht)
  | some target =>
      have ht := List.mem_of_find?_eq_some hf
      have hm := matching_iff.mp (List.find?_some hf)
      by_cases hs : npMax ((arrays.checked samples).map ptp) ≤ profile.max_spread
      · simp only [if_pos hs, true_iff]
        exact ⟨⟨target, ht, hm⟩, hs⟩
      · simp [hs]

/-! ## §4. One call. -/

/-- The profile of a skill is one of the gate's. -/
theorem OnlineJointGate.window_le_of_lookup {g : OnlineJointGate} {skill : PyStr}
    {profile : JointGateProfile} (h : g._profiles.lookup skill = some profile) :
    profile.window_samples ≤ g.maxlen := by
  obtain ⟨l₁, l₂, hl, -⟩ := List.lookup_eq_some_iff.mp h
  exact g.window_le (skill, profile) (by rw [hl]; simp)

theorem OnlineJointGate.exists_arrays {g : OnlineJointGate} {skill : PyStr}
    {profile : JointGateProfile} (h : g._profiles.lookup skill = some profile) :
    ∃ arrays, profile.arrays = .ok arrays := by
  obtain ⟨l₁, l₂, hl, -⟩ := List.lookup_eq_some_iff.mp h
  have hok := g.valid (skill, profile) (by rw [hl]; simp)
  cases harr : profile.arrays with
  | error e =>
      rw [harr] at hok
      cases hok
  | ok arrays => exact ⟨arrays, rfl⟩

/-- A `reached_result` for a skill that is not the current one changes
nothing and has no result. -/
theorem OnlineJointGate.reached_result_other {g : OnlineJointGate} {skill : PyStr}
    (publish_step : Int) (h : g._skill ≠ some skill) :
    (g.reached_result skill publish_step).2 = g ∧
    ∀ r, (g.reached_result skill publish_step).1 ≠ .ok (some r) := by
  unfold reached_result _snapshot
  cases hlookup : g._profiles.lookup skill with
  | none => exact ⟨rfl, fun r hr => nomatch hr⟩
  | some profile =>
      obtain ⟨arrays, harr⟩ := g.exists_arrays hlookup
      simp only [harr, if_pos h, List.getLast?_nil]
      exact ⟨trivial, fun r hr => nomatch hr⟩

/-- A `reached_result` for the current skill. -/
theorem OnlineJointGate.reached_result_eq {g : OnlineJointGate} {skill : PyStr}
    {profile : JointGateProfile} {arrays : GateArrays} (publish_step : Int)
    (hskill : g._skill = some skill) (hlookup : g._profiles.lookup skill = some profile)
    (harr : profile.arrays = .ok arrays) :
    g.reached_result skill publish_step =
      match g._samples.getLast? with
      | none => (.ok none, g)
      | some latest =>
          if !g._armed then (.ok none, g)
          else if !g._departed then
            if arrays.targets.any (arrays.near profile.departure_threshold latest) then
              (.ok none, g)
            else (.ok none, { g with _departed := true, _samples := [latest] })
          else if publish_step < profile.min_publish_step ∨
              (window profile.window_samples.toNat g._samples).length
                < profile.window_samples then
            (.ok none, g)
          else if (_window_result profile arrays
              (window profile.window_samples.toNat g._samples)).passed then
            (.ok (some (_window_result profile arrays
              (window profile.window_samples.toNat g._samples))), g)
          else (.ok none, g) := by
  have hw : 0 < profile.window_samples.toNat := by
    have := (JointGateProfile.arrays_ok harr).2.2
    omega
  unfold reached_result _snapshot
  simp only [hlookup, harr, hskill, ne_eq, not_true_eq_false, if_false, getLast?_window _ hw]
  cases hlast : g._samples.getLast? with
  | none => rfl
  | some latest =>
      simp only [Option.toList_some]
      by_cases hp : (_window_result profile arrays
          (window profile.window_samples.toNat g._samples)).passed = true
      · simp only [if_pos hp]
      · simp only [if_neg hp]

/-! ## §5. The invariant. -/

/-- What the gate holds while a skill is current: `since` are the calls since
its `begin`. -/
structure Tracks (g : OnlineJointGate) (skill : PyStr) (profile : JointGateProfile)
    (arrays : GateArrays) (since : List GateCall) : Prop where
  armed : g._armed = (accepted profile.arm since).any profile.arms
  phase :
    (g._departed = false ∧ Never (Departs skill profile arrays) since ∧
      g._samples = window g.maxlen (accepted profile.arm since)) ∨
    (g._departed = true ∧ ∃ before call later,
      FirstSplit (Departs skill profile arrays) since before call later ∧
      g._samples = window g.maxlen
        ((accepted profile.arm since).drop ((accepted profile.arm before).length - 1)))

/-- The gate against the history of its calls. -/
def GateInv (profiles : List (PyStr × JointGateProfile)) (g : OnlineJointGate)
    (calls : List GateCall) : Prop :=
  g._profiles = profiles ∧
  ((g._skill = none ∧ ∀ call ∈ calls, ¬ Begins profiles call) ∨
   ∃ skill profile arrays pre since, g._skill = some skill ∧
     profiles.lookup skill = some profile ∧ profile.arrays = .ok arrays ∧
     LastSplit (Begins profiles) calls pre (.begin skill) since ∧
     Tracks g skill profile arrays since)

@[simp] theorem accepted_snoc (arm : PyStr) (calls : List GateCall) (call : GateCall) :
    accepted arm (calls ++ [call]) = accepted arm calls ++ (call.sample? arm).toList := by
  unfold accepted
  rw [List.filterMap_append]
  cases h : GateCall.sample? arm call <;> simp [h]

/-- The samples before a call are the first of all samples. -/
theorem accepted_before (arm : PyStr) {since before later : List GateCall} {call : GateCall}
    (h : since = before ++ call :: later) :
    ∃ more, accepted arm since = accepted arm before ++ more := by
  subst h
  unfold accepted
  rw [List.filterMap_append]
  exact ⟨_, rfl⟩

theorem length_accepted_le {P : List GateCall → GateCall → Prop}
    {since before later : List GateCall} {call : GateCall}
    (h : FirstSplit P since before call later) (arm : PyStr) :
    (accepted arm before).length ≤ (accepted arm since).length := by
  obtain ⟨more, hmore⟩ := accepted_before arm h.1
  rw [hmore, List.length_append]
  omega

/-- At a departure a sample had been accepted. -/
theorem Departs.accepted_ne_nil {skill : PyStr} {profile : JointGateProfile}
    {arrays : GateArrays} {before : List GateCall} {call : GateCall}
    (h : Departs skill profile arrays before call) : accepted profile.arm before ≠ [] := by
  obtain ⟨-, -, latest, hlatest, -⟩ := h
  intro hnil
  rw [hnil] at hlatest
  cases hlatest

/-- A call without a sample that is no departure leaves the invariant alone. -/
theorem Tracks.idle {g : OnlineJointGate} {skill : PyStr} {profile : JointGateProfile}
    {arrays : GateArrays} {since : List GateCall} (h : Tracks g skill profile arrays since)
    {call : GateCall} (hsample : call.sample? profile.arm = none)
    (hcall : g._departed = false → ¬ Departs skill profile arrays since call) :
    Tracks g skill profile arrays (since ++ [call]) where
  armed := by
    rw [accepted_snoc, hsample]
    simpa using h.armed
  phase := by
    rw [accepted_snoc, hsample, Option.toList_none, List.append_nil]
    rcases h.phase with ⟨hd, hnever, hs⟩ | ⟨hd, before, call', later, hfirst, hs⟩
    · exact .inl ⟨hd, hnever.snoc (hcall hd), hs⟩
    · exact .inr ⟨hd, before, call', _, hfirst.snoc call, hs⟩

/-- One more sample. -/
theorem Tracks.push {g : OnlineJointGate} {skill : PyStr} {profile : JointGateProfile}
    {arrays : GateArrays} {since : List GateCall} (h : Tracks g skill profile arrays since)
    {arm : PyStr} {position : Position} {sample : Joints} (harm : profile.arm = arm)
    (hsample : position.sample? = some sample) :
    Tracks { g with
      _samples := History.push g.maxlen g._samples sample
      _armed := g._armed || profile.arms sample } skill profile arrays
      (since ++ [.update arm position]) := by
  have hcall : (GateCall.update arm position).sample? profile.arm = some sample := by
    simp only [GateCall.sample?, if_pos harm, hsample]
  have hno : ¬ Departs skill profile arrays since (.update arm position) := by
    rintro ⟨⟨publish_step, hc⟩, -⟩
    cases hc
  constructor
  · show (g._armed || profile.arms sample) = _
    rw [accepted_snoc, hcall, h.armed]
    simp
  · rw [accepted_snoc, hcall, Option.toList_some]
    rcases h.phase with ⟨hd, hnever, hs⟩ | ⟨hd, before, call', later, hfirst, hs⟩
    · refine .inl ⟨hd, hnever.snoc hno, ?_⟩
      show History.push g.maxlen g._samples sample = _
      rw [hs, push_window]
    · refine .inr ⟨hd, before, call', _, hfirst.snoc _, ?_⟩
      show History.push g.maxlen g._samples sample = _
      have hle := length_accepted_le hfirst profile.arm
      rw [hs, push_window, List.drop_append_of_le_length (by omega)]

/-- The buffer is empty exactly when nothing was accepted, and ends with the
latest sample. -/
theorem Tracks.getLast? {g : OnlineJointGate} {skill : PyStr} {profile : JointGateProfile}
    {arrays : GateArrays} {since : List GateCall} (h : Tracks g skill profile arrays since)
    (hcap : 0 < g.maxlen) : g._samples.getLast? = (accepted profile.arm since).getLast? := by
  rcases h.phase with ⟨-, -, hs⟩ | ⟨-, before, call, later, hfirst, hs⟩
  · rw [hs, getLast?_window _ hcap]
  · have hle := length_accepted_le hfirst profile.arm
    have hne := List.length_pos_iff.mpr hfirst.2.1.accepted_ne_nil
    rw [hs, getLast?_window _ hcap, List.getLast?_drop, if_neg (by omega)]

/-- The invariant tells whether the gate departs at a `reached_result`. -/
theorem Tracks.departs_iff {g : OnlineJointGate} {skill : PyStr} {profile : JointGateProfile}
    {arrays : GateArrays} {since : List GateCall} (h : Tracks g skill profile arrays since)
    (hcap : 0 < g.maxlen) (publish_step : Int) :
    Departs skill profile arrays since (.reached_result skill publish_step) ↔
      ∃ latest, g._samples.getLast? = some latest ∧ g._armed = true ∧
        ¬ arrays.targets.any (arrays.near profile.departure_threshold latest) = true := by
  have hne : ∀ latest, (accepted profile.arm since).getLast? = some latest →
      accepted profile.arm since ≠ [] := by
    intro latest hl hnil
    rw [hnil] at hl
    cases hl
  rw [h.getLast? hcap, h.armed]
  constructor
  · rintro ⟨-, harmed, latest, hl, haway⟩
    exact ⟨latest, hl, (JointGateProfile.arms_iff (hne latest hl)).mpr harmed,
      not_near_iff.mpr haway⟩
  · rintro ⟨latest, hl, harmed, hfar⟩
    exact ⟨⟨publish_step, rfl⟩, (JointGateProfile.arms_iff (hne latest hl)).mp harmed, latest,
      hl, not_near_iff.mp hfar⟩

/-- The gate after a `reached_result` for the current skill: it departs, or
nothing changes. -/
theorem OnlineJointGate.reached_result_after {g : OnlineJointGate} {skill : PyStr}
    {profile : JointGateProfile} {arrays : GateArrays} (publish_step : Int)
    (hskill : g._skill = some skill) (hlookup : g._profiles.lookup skill = some profile)
    (harr : profile.arrays = .ok arrays) :
    (∃ latest, g._samples.getLast? = some latest ∧ g._armed = true ∧ g._departed = false ∧
      ¬ arrays.targets.any (arrays.near profile.departure_threshold latest) = true ∧
      (g.reached_result skill publish_step).2
        = { g with _departed := true, _samples := [latest] }) ∨
    ((g._departed = false → ¬ ∃ latest, g._samples.getLast? = some latest ∧ g._armed = true ∧
        ¬ arrays.targets.any (arrays.near profile.departure_threshold latest) = true) ∧
      (g.reached_result skill publish_step).2 = g) := by
  rw [g.reached_result_eq publish_step hskill hlookup harr]
  cases hlast : g._samples.getLast? with
  | none => exact .inr ⟨by simp, rfl⟩
  | some latest =>
      cases harmed : g._armed with
      | false => exact .inr ⟨by simp, rfl⟩
      | true =>
          cases hdep : g._departed with
          | true =>
              refine .inr ⟨by simp, ?_⟩
              simp only [Bool.not_true, Bool.false_eq_true, if_false]
              split
              · rfl
              · split <;> rfl
          | false =>
              simp only [Bool.not_true, Bool.not_false, Bool.false_eq_true, if_false, if_true]
              by_cases hnear :
                  arrays.targets.any (arrays.near profile.departure_threshold latest) = true
              · refine .inr ⟨?_, by rw [if_pos hnear]⟩
                rintro - ⟨latest', hl, -, hfar⟩
                cases hl
                exact hfar hnear
              · exact .inl ⟨latest, rfl, trivial, trivial, hnear, by rw [if_neg hnear]⟩

/-- A `reached_result` for the current skill. -/
theorem Tracks.reached {g : OnlineJointGate} {skill : PyStr} {profile : JointGateProfile}
    {arrays : GateArrays} {since : List GateCall} (h : Tracks g skill profile arrays since)
    (publish_step : Int) (hskill : g._skill = some skill)
    (hlookup : g._profiles.lookup skill = some profile) (harr : profile.arrays = .ok arrays) :
    Tracks (g.reached_result skill publish_step).2 skill profile arrays
      (since ++ [.reached_result skill publish_step]) := by
  have hcap : 0 < g.maxlen := by
    have := (JointGateProfile.arrays_ok harr).2.2
    have := g.window_le_of_lookup hlookup
    omega
  rcases g.reached_result_after publish_step hskill hlookup harr with
    ⟨latest, hlast, harmed, hdep, hfar, hafter⟩ | ⟨hno, hafter⟩
  · rw [hafter]
    rcases h.phase with ⟨-, hnever, hs⟩ | ⟨hd, -⟩
    · have hdeparts := (h.departs_iff hcap publish_step).mpr ⟨latest, hlast, harmed, hfar⟩
      constructor
      · show g._armed = _
        rw [h.armed, accepted_snoc]
        simp [GateCall.sample?]
      · refine .inr ⟨rfl, since, _, _, .here hnever hdeparts, ?_⟩
        show [latest] = _
        rw [h.getLast? hcap] at hlast
        -- everything up to the latest sample is dropped
        obtain ⟨front, hfront⟩ := List.getLast?_eq_some_iff.mp hlast
        rw [accepted_snoc, hfront]
        simp only [GateCall.sample?, Option.toList_none, List.append_nil, List.length_append,
          List.length_singleton, Nat.add_sub_cancel, List.drop_left]
        rw [window_of_length_le (show [latest].length ≤ g.maxlen from hcap)]
    · rw [hd] at hdep
      cases hdep
  · rw [hafter]
    apply h.idle rfl
    intro hdep hdeparts
    exact hno hdep ((h.departs_iff hcap publish_step).mp hdeparts)

theorem OnlineJointGate.begin_cases (g : OnlineJointGate) (skill : PyStr) :
    (g._profiles.lookup skill = none ∧ (g.begin skill).2 = g) ∨
    (∃ profile, g._profiles.lookup skill = some profile ∧
      (g.begin skill).2
        = { g with _skill := some skill, _departed := false, _armed := false, _samples := [] }) := by
  unfold OnlineJointGate.begin
  split
  · rename_i hnone
    exact .inl ⟨hnone, rfl⟩
  · rename_i profile hsome
    exact .inr ⟨profile, hsome, rfl⟩

/-- An update delivers a sample for the arm of the current skill, or nothing. -/
theorem OnlineJointGate.update_cases (g : OnlineJointGate) (arm : PyStr) (position : Position) :
    ((∀ skill profile, g._skill = some skill → g._profiles.lookup skill = some profile →
        (GateCall.update arm position).sample? profile.arm = none) ∧
      g.update arm position = g) ∨
    (∃ skill profile sample, g._skill = some skill ∧ g._profiles.lookup skill = some profile ∧
      profile.arm = arm ∧ position.sample? = some sample ∧
      g.update arm position = { g with
        _samples := History.push g.maxlen g._samples sample
        _armed := g._armed || profile.arms sample }) := by
  generalize hu : g.update arm position = u
  unfold OnlineJointGate.update at hu
  split at hu
  · rename_i sample profile hsample hprofile
    obtain ⟨skill, hskill, hlookup⟩ := Option.bind_eq_some_iff.mp hprofile
    by_cases harm : profile.arm = arm
    · rw [if_pos harm] at hu
      exact .inr ⟨skill, profile, sample, hskill, hlookup, harm, hsample, hu.symm⟩
    · rw [if_neg harm] at hu
      refine .inl ⟨?_, hu.symm⟩
      intro skill' profile' hs hl
      cases hskill.symm.trans hs
      cases hlookup.symm.trans hl
      simp only [GateCall.sample?, if_neg harm]
  · rename_i hnot
    refine .inl ⟨?_, hu.symm⟩
    intro skill profile hs hl
    cases hsample : position.sample? with
    | none => simp [GateCall.sample?, hsample]
    | some sample =>
        refine absurd ?_ (hnot sample profile hsample)
        rw [hs]
        exact hl

/-- A call that changes nothing. -/
theorem GateInv.idle {profiles : List (PyStr × JointGateProfile)} {g : OnlineJointGate}
    {calls : List GateCall} (h : GateInv profiles g calls) {call : GateCall}
    (hbegin : ¬ Begins profiles call)
    (hsample : ∀ skill profile, g._skill = some skill → profiles.lookup skill = some profile →
      call.sample? profile.arm = none)
    (hdep : ∀ skill publish_step, call = .reached_result skill publish_step →
      g._skill ≠ some skill) : GateInv profiles g (calls ++ [call]) := by
  obtain ⟨hp, ⟨hskill, hall⟩ | ⟨s, profile, arrays, pre, since, hs, hl, ha, hsplit, ht⟩⟩ := h
  · refine ⟨hp, .inl ⟨hskill, ?_⟩⟩
    intro c hc
    rcases List.mem_append.mp hc with hc | hc
    · exact hall c hc
    · rw [List.mem_singleton.mp hc]
      exact hbegin
  · refine ⟨hp, .inr ⟨s, profile, arrays, pre, _, hs, hl, ha, hsplit.snoc hbegin, ?_⟩⟩
    apply ht.idle (hsample s profile hs hl)
    rintro - ⟨⟨publish_step, hc⟩, -⟩
    exact hdep s publish_step hc hs

/-- **Each call keeps the invariant.** -/
theorem GateInv.after {profiles : List (PyStr × JointGateProfile)} {g : OnlineJointGate}
    {calls : List GateCall} (h : GateInv profiles g calls) (call : GateCall) :
    GateInv profiles (g.after call) (calls ++ [call]) := by
  obtain ⟨rfl, hinv⟩ := id h
  cases call with
  | begin skill =>
      show GateInv _ (g.begin skill).2 _
      rcases g.begin_cases skill with ⟨hnone, hg⟩ | ⟨profile, hlookup, hg⟩
      · -- the call raises
        rw [hg]
        refine h.idle ?_ (fun _ _ _ _ => rfl) (fun _ _ hc => nomatch hc)
        rintro ⟨skill', hs, hsome⟩
        cases hs
        rw [hnone] at hsome
        cases hsome
      · rw [hg]
        obtain ⟨arrays, ha⟩ := g.exists_arrays hlookup
        refine ⟨rfl, .inr ⟨skill, profile, arrays, calls, [], rfl, hlookup, ha,
          .here ⟨skill, rfl, by rw [hlookup]; rfl⟩, rfl, .inl ⟨rfl, .nil _, ?_⟩⟩⟩
        exact (List.rtake_nil _).symm
  | update arm position =>
      have hno : ¬ Begins g._profiles (.update arm position) := by
        rintro ⟨skill, hs, -⟩
        cases hs
      show GateInv _ (g.update arm position) _
      rcases g.update_cases arm position with
        ⟨hnone, hg⟩ | ⟨s, profile, sample, hs, hl, harm, hsample, hg⟩
      · rw [hg]
        exact h.idle hno hnone fun _ _ hc => nomatch hc
      · rw [hg]
        rcases hinv with ⟨hskill, -⟩ | ⟨s', profile', arrays, pre, since, hs', hl', ha, hsplit, ht⟩
        · rw [hskill] at hs
          cases hs
        · cases hs.symm.trans hs'
          cases hl.symm.trans hl'
          exact ⟨rfl, .inr ⟨s, profile, arrays, pre, _, hs, hl, ha, hsplit.snoc hno,
            ht.push harm hsample⟩⟩
  | reached_result skill publish_step =>
      have hno : ¬ Begins g._profiles (.reached_result skill publish_step) := by
        rintro ⟨skill, hs, -⟩
        cases hs
      show GateInv _ (g.reached_result skill publish_step).2 _
      by_cases hcur : g._skill = some skill
      · rcases hinv with ⟨hskill, -⟩ | ⟨s, profile, arrays, pre, since, hs, hl, ha, hsplit, ht⟩
        · rw [hskill] at hcur
          cases hcur
        · cases hs.symm.trans hcur
          have htracks := ht.reached publish_step hcur hl ha
          have hkeep : (g.reached_result skill publish_step).2._profiles = g._profiles ∧
              (g.reached_result skill publish_step).2._skill = g._skill := by
            rcases g.reached_result_after publish_step hcur hl ha with
              ⟨_, -, -, -, -, hafter⟩ | ⟨-, hafter⟩
            · rw [hafter]
              exact ⟨rfl, rfl⟩
            · rw [hafter]
              exact ⟨rfl, rfl⟩
          exact ⟨hkeep.1, .inr ⟨skill, profile, arrays, pre, _, hkeep.2.trans hcur, hl, ha,
            hsplit.snoc hno, htracks⟩⟩
      · rw [(g.reached_result_other publish_step hcur).1]
        refine h.idle hno (fun _ _ _ _ => rfl) ?_
        rintro skill' publish_step' hc
        cases hc
        exact hcur

/-- The invariant holds after every history. -/
theorem OnlineJointGate.run_inv {profiles : List (PyStr × JointGateProfile)}
    {g : OnlineJointGate} (h : OnlineJointGate.init profiles = .ok g) (calls : List GateCall) :
    GateInv profiles (g.run calls) calls := by
  induction calls using List.reverseRecOn with
  | nil =>
      unfold OnlineJointGate.init at h
      split at h
      · cases h
      · split at h
        · cases h
          exact ⟨rfl, .inl ⟨rfl, by simp⟩⟩
        · cases h
  | append_singleton calls call ih =>
      show GateInv profiles ((calls ++ [call]).foldl OnlineJointGate.after g) _
      rw [List.foldl_append]
      exact GateInv.after ih call

/-! ## §6. The decision. -/

/-- With a tracked departure the gate decides on the last samples. -/
theorem Tracks.result_iff {g : OnlineJointGate} {skill : PyStr} {profile : JointGateProfile}
    {arrays : GateArrays} {since : List GateCall} (h : Tracks g skill profile arrays since)
    (publish_step : Int) (hskill : g._skill = some skill)
    (hlookup : g._profiles.lookup skill = some profile) (harr : profile.arrays = .ok arrays) :
    (∃ r, (g.reached_result skill publish_step).1 = .ok (some r)) ↔
      ∃ before call later, FirstSplit (Departs skill profile arrays) since before call later ∧
        profile.window_samples + (accepted profile.arm before).length
          ≤ (accepted profile.arm since).length + 1 ∧
        profile.min_publish_step ≤ publish_step ∧
        Settled profile arrays
          (window profile.window_samples.toNat (accepted profile.arm since)) := by
  obtain ⟨hindices, -, hpos⟩ := JointGateProfile.arrays_ok harr
  have hwin := g.window_le_of_lookup hlookup
  have hcap : 0 < g.maxlen := by omega
  rw [g.reached_result_eq publish_step hskill hlookup harr]
  rcases h.phase with ⟨hd, hnever, -⟩ | ⟨hd, before, call, later, hfirst, hs⟩
  · -- no departure so far, so no result
    constructor
    · rintro ⟨r, hr⟩
      simp only [hd] at hr
      split at hr
      · cases hr
      · simp only [Bool.not_false, if_true] at hr
        split at hr
        · cases hr
        · split at hr <;> cases hr
    · rintro ⟨before, call, later, hfirst, -⟩
      exact absurd hnever hfirst.not_never
  · have hle := length_accepted_le hfirst profile.arm
    have hn := List.length_pos_iff.mpr hfirst.2.1.accepted_ne_nil
    -- the sample that armed the gate is still among the accepted ones
    have harmed : g._armed = true := by
      obtain ⟨more, hmore⟩ := accepted_before profile.arm hfirst.1
      rw [h.armed, hmore, List.any_append,
        (JointGateProfile.arms_iff hfirst.2.1.accepted_ne_nil).mpr hfirst.2.1.2.1]
      rfl
    obtain ⟨latest, hlast⟩ : ∃ latest, g._samples.getLast? = some latest := by
      rw [h.getLast? hcap]
      apply Option.isSome_iff_exists.mp
      rw [List.getLast?_isSome]
      exact List.length_pos_iff.mp (by omega)
    have hlen : (window profile.window_samples.toNat g._samples).length
        = min profile.window_samples.toNat (min g.maxlen
          ((accepted profile.arm since).length - ((accepted profile.arm before).length - 1))) := by
      rw [length_window, hs, length_window, List.length_drop]
    have hview : profile.window_samples + (accepted profile.arm before).length
          ≤ (accepted profile.arm since).length + 1 →
        window profile.window_samples.toNat g._samples
          = window profile.window_samples.toNat (accepted profile.arm since) := by
      intro hroom
      rw [hs, window_window _ (by omega), window_drop (by omega)]
    simp only [hlast, harmed, hd, Bool.not_true, Bool.false_eq_true, if_false]
    constructor
    · rintro ⟨r, hr⟩
      split at hr
      · cases hr
      · rename_i hlimits
        push Not at hlimits
        have hroom : profile.window_samples + (accepted profile.arm before).length
            ≤ (accepted profile.arm since).length + 1 := by
          have := hlimits.2
          omega
        split at hr
        · rename_i hpassed
          rw [window_result_passed_iff hindices, hview hroom] at hpassed
          exact ⟨before, call, later, hfirst, hroom, hlimits.1, hpassed⟩
        · cases hr
    · rintro ⟨before', call', later', hfirst', hroom, hstep, hsettled⟩
      obtain ⟨rfl, -, -⟩ := hfirst.unique hfirst'
      have hlimits : ¬ (publish_step < profile.min_publish_step ∨
          (window profile.window_samples.toNat g._samples).length < profile.window_samples) := by
        push Not
        refine ⟨hstep, ?_⟩
        omega
      rw [if_neg hlimits]
      rw [← hview hroom, ← window_result_passed_iff hindices] at hsettled
      rw [if_pos hsettled]
      exact ⟨_, rfl⟩

/-- **What the gate decides**: after any history of calls, `reached_result`
gives a result exactly when the specification says so. -/
theorem reached_result_iff {profiles : List (PyStr × JointGateProfile)} {g : OnlineJointGate}
    (h : OnlineJointGate.init profiles = .ok g) (calls : List GateCall) (skill : PyStr)
    (publish_step : Int) :
    (∃ r, ((g.run calls).reached_result skill publish_step).1 = .ok (some r)) ↔
      Reaches profiles calls skill publish_step := by
  obtain ⟨hp, hinv⟩ := OnlineJointGate.run_inv h calls
  by_cases hcur : (g.run calls)._skill = some skill
  · rcases hinv with ⟨hskill, -⟩ | ⟨s, profile, arrays, pre, since, hs, hl, ha, hsplit, ht⟩
    · rw [hskill] at hcur
      cases hcur
    · cases hs.symm.trans hcur
      rw [ht.result_iff publish_step hcur (by rw [hp]; exact hl) ha]
      constructor
      · intro hr
        exact ⟨profile, arrays, hl, ha, pre, since, hsplit, hr⟩
      · rintro ⟨profile', arrays', hl', ha', pre', since', hsplit', hr⟩
        cases hl.symm.trans hl'
        cases ha.symm.trans ha'
        obtain ⟨-, -, rfl⟩ := hsplit.unique hsplit'
        exact hr
  · constructor
    · rintro ⟨r, hr⟩
      exact absurd hr (((g.run calls).reached_result_other publish_step hcur).2 r)
    · -- the last `begin` was not for this skill
      rintro ⟨profile, arrays, -, -, pre, since, hsplit, -⟩
      rcases hinv with ⟨-, hall⟩ | ⟨s, _, _, _, _, hs, -, -, hsplit', -⟩
      · refine absurd hsplit.2.1 (hall _ ?_)
        rw [hsplit.1]
        simp
      · obtain ⟨-, hbegin, -⟩ := hsplit.unique hsplit'
        cases hbegin
        exact absurd hs hcur

/-- One target, two checked joints, a window of two samples; joint 1 arms. -/
def sampleGate : JointGateProfile :=
  { arm := py "right"
    targets := [[0, 0, 0, 0, 0, 0, 0]]
    check_indices := [0, 2]
    tolerance := [1 / 10, 1 / 10]
    departure_threshold := 1 / 2
    min_publish_step := 3
    window_samples := 2
    max_spread := 1 / 20
    arming_indices := [1]
    arming_min_abs_position := [1] }

/-- Seven finite entries, the first and the second given. -/
def samplePosition (x y : ℚ) : Position :=
  { shape := [7], data := [some x, some y, some 0, some 0, some 0, some 0, some 0] }

/-- The right arm arms, leaves the target, and comes back to stay; the left
arm does not matter. -/
def returningCalls : List GateCall :=
  [.begin (py "rotate_button"), .update (py "right") (samplePosition 1 1),
   .reached_result (py "rotate_button") 0, .update (py "right") (samplePosition (1 / 50) 0),
   .update (py "left") (samplePosition 1 1), .update (py "right") (samplePosition 0 0)]

/-- The gates are built, and a call on them gives a result. -/
def givesResult (profiles : List (PyStr × JointGateProfile))
    (call : OnlineJointGate → Except PyError (Option GateResult)) : Bool :=
  match OnlineJointGate.init profiles with
  | .error _ => false
  | .ok g =>
      match call g with
      | .ok (some _) => true
      | _ => false

theorem exists_result {profiles : List (PyStr × JointGateProfile)}
    {call : OnlineJointGate → Except PyError (Option GateResult)}
    (h : givesResult profiles call = true) :
    ∃ g r, OnlineJointGate.init profiles = .ok g ∧ call g = .ok (some r) := by
  unfold givesResult at h
  split at h
  · cases h
  · next g hg =>
      split at h
      · next r hr => exact ⟨g, r, hg, hr⟩
      · cases h

theorem reached_result_iff_return :
    Reaches [(py "rotate_button", sampleGate)] returningCalls (py "rotate_button") 3 := by
  have hrun : givesResult [(py "rotate_button", sampleGate)] (fun g =>
      ((g.run returningCalls).reached_result (py "rotate_button") 3).1) = true := by
    decide +kernel
  obtain ⟨g, r, hg, hr⟩ := exists_result hrun
  exact (reached_result_iff hg returningCalls (py "rotate_button") 3).mp ⟨r, hr⟩

end OvenRuntime
