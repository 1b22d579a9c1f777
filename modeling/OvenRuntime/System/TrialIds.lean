/-
  OvenRuntime.System.TrialIds
  ───────────────────────────
  The trial identifiers of the pipeline, as the server uses them.

  A run identifier may itself hold underscores, digits and names of skills.
  The derived identifier is still read from its end without doubt: no skill
  ends in another one, and a stage index is one digit (`trial_ids_distinct`).
-/
import OvenRuntime.Edge.Orchestrator
import OvenRuntime.Server.Calls

namespace OvenRuntime

/-! ## §1. Reading an identifier from its end. -/

/-- No declared skill is the end of another one. -/
theorem skill_of_suffix : ∀ s ∈ FIXED_SKILL_ORDER, ∀ t ∈ FIXED_SKILL_ORDER, s <:+ t → s = t := by
  decide

theorem skill_inj {a b s t : PyStr} (hs : s ∈ FIXED_SKILL_ORDER) (ht : t ∈ FIXED_SKILL_ORDER)
    (h : a ++ s = b ++ t) : a = b ∧ s = t := by
  have hst : s = t := by
    have hs' : s <:+ b ++ t := ⟨a, h⟩
    have ht' : t <:+ b ++ t := ⟨b, rfl⟩
    rcases List.suffix_or_suffix_of_suffix hs' ht' with hsuf | hsuf
    · exact skill_of_suffix s hs t ht hsuf
    · exact (skill_of_suffix t ht s hs hsuf).symm
  subst hst
  exact ⟨List.append_cancel_right h, rfl⟩

/-- A stage index is one digit. -/
theorem pyNat_digit : ∀ i < 4, pyNat i = [Fin.ofNat _ (48 + i)] := by decide

theorem digit_inj : ∀ i < 4, ∀ j < 4, pyNat i = pyNat j → i = j := by decide

/-- **The derived identifier determines its parts.** -/
theorem derivedTrialId_inj {run_id run_id' skill skill' : PyStr} {i j : Nat} (hi : i < 4)
    (hj : j < 4) (hskill : skill ∈ FIXED_SKILL_ORDER) (hskill' : skill' ∈ FIXED_SKILL_ORDER)
    (h : derivedTrialId run_id i skill = derivedTrialId run_id' j skill') :
    run_id = run_id' ∧ i = j ∧ skill = skill' := by
  unfold derivedTrialId at h
  obtain ⟨hfront, hs⟩ := skill_inj hskill hskill' h
  have hfront' := List.append_cancel_right hfront
  have hlen : (pyNat i).length = (pyNat j).length := by
    rw [pyNat_digit i hi, pyNat_digit j hj]
    rfl
  obtain ⟨hrun, hdigit⟩ := List.append_inj' hfront' hlen
  exact ⟨List.append_cancel_right hrun, digit_inj i hi j hj hdigit, hs⟩

/-! ## §2. Accepted plans. -/

/-- A path component that names a direct child of a directory: it is not
empty, has no separator and no NUL, and is neither `.` nor `..`. -/
def DirectChild (name : PyStr) : Prop :=
  name ≠ [] ∧ (∀ c ∈ name, c.val ≠ 0x2f ∧ c.val ≠ 0) ∧ name ≠ py "." ∧ name ≠ py ".."

/-- An accepted identifier is such a component. -/
theorem directChild_of_pattern {name : PyStr} (h : TRIAL_ID_PATTERN name = true) :
    DirectChild name := by
  cases name with
  | nil => cases h
  | cons c cs =>
      simp only [TRIAL_ID_PATTERN, Bool.and_eq_true, List.all_eq_true] at h
      obtain ⟨⟨hfirst, hrest⟩, -⟩ := h
      have hchar : ∀ d : CodePoint, d.isIdChar = true → d.val ≠ 0x2f ∧ d.val ≠ 0 := by
        intro d hd
        simp only [CodePoint.isIdChar, CodePoint.isAlnum, Bool.or_eq_true, Bool.and_eq_true,
          decide_eq_true_eq, beq_iff_eq] at hd
        omega
      have hdot : c.val ≠ 0x2e := by
        simp only [CodePoint.isAlnum, Bool.or_eq_true, Bool.and_eq_true,
          decide_eq_true_eq] at hfirst
        omega
      refine ⟨List.cons_ne_nil c cs, ?_, ?_, ?_⟩
      · intro d hd
        rcases List.mem_cons.mp hd with rfl | hd
        · exact hchar _ (CodePoint.isIdChar_of_isAlnum hfirst)
        · exact hchar d (hrest d hd)
      -- both names start with a dot
      · intro hname
        exact hdot (congrArg Fin.val (List.cons.inj hname).1)
      · intro hname
        exact hdot (congrArg Fin.val (List.cons.inj hname).1)

/-- The stage loop accepts the identifier of every stage. -/
theorem pattern_of_validateStages {run_id : PyStr} {stages : List StagePlan} :
    ∀ {k : Nat}, validateStages run_id k stages = .ok () → ∀ {i : Nat} {stage : StagePlan},
      stages[i]? = some stage →
      TRIAL_ID_PATTERN (derivedTrialId run_id (k + i) stage.skill) = true := by
  induction stages with
  | nil =>
      intro k _ i stage hi
      cases hi
  | cons first rest ih =>
      intro k h i stage hi
      unfold validateStages at h
      split at h
      · cases h
      · split at h
        · cases h
        · rename_i hpattern
          cases i with
          | zero =>
              rw [List.getElem?_cons_zero] at hi
              cases hi
              simpa using hpattern
          | succ i =>
              rw [List.getElem?_cons_succ] at hi
              rw [show k + (i + 1) = k + 1 + i by omega]
              exact ih h hi

/-- What the plan check says of one stage. -/
theorem stage_of_accepted {plan : PipelinePlan} (h : plan.validate = .ok ()) {i : Nat}
    {stage : StagePlan} (hi : plan.stages[i]? = some stage) :
    i < 4 ∧ stage.skill ∈ FIXED_SKILL_ORDER ∧
      TRIAL_ID_PATTERN (derivedTrialId plan.run_id i stage.skill) = true := by
  unfold PipelinePlan.validate at h
  split at h
  · cases h
  rename_i hskills
  split at h
  · cases h
  have hpattern := pattern_of_validateStages h hi
  rw [Nat.zero_add] at hpattern
  have hlt : i < plan.skills.length := by
    rw [PipelinePlan.skills, List.length_map]
    exact (List.getElem?_eq_some_iff.mp hi).1
  have hmem : stage.skill ∈ plan.skills := List.mem_map_of_mem (List.mem_of_getElem? hi)
  by_cases hfixed : plan.skills = FIXED_SKILL_ORDER
  · rw [hfixed] at hlt hmem
    exact ⟨hlt, hmem, hpattern⟩
  · have hone : plan.skills.length = 1 ∧
        (plan.skills.all fun s => FIXED_SKILL_ORDER.contains s) = true := by
      by_contra hno
      exact hskills ⟨hfixed, hno⟩
    refine ⟨by omega, ?_, hpattern⟩
    exact List.contains_iff_mem.mp (List.all_eq_true.mp hone.2 stage.skill hmem)

/-- **Trial identities never collide.**  Of two stages of accepted plans, the
first one's identifier passes the server's check and names a direct child of
the audit root; it is the other one's only if run, index and skill agree. -/
theorem trial_ids_distinct {plan plan' : PipelinePlan} (h : plan.validate = .ok ())
    (h' : plan'.validate = .ok ()) {i j : Nat} {stage stage' : StagePlan}
    (hi : plan.stages[i]? = some stage) (hj : plan'.stages[j]? = some stage') :
    (∀ (nx : Numerics) (root_seed : Int),
      (Op.begin_trial (.str (derivedTrialId plan.run_id i stage.skill)) (.int root_seed)).start nx =
        .running (.beginAcquire (derivedTrialId plan.run_id i stage.skill) root_seed)) ∧
    DirectChild (derivedTrialId plan.run_id i stage.skill) ∧
    (derivedTrialId plan.run_id i stage.skill = derivedTrialId plan'.run_id j stage'.skill →
      plan.run_id = plan'.run_id ∧ i = j ∧ stage.skill = stage'.skill) := by
  obtain ⟨hlt, hskill, hpattern⟩ := stage_of_accepted h hi
  obtain ⟨hlt', hskill', -⟩ := stage_of_accepted h' hj
  refine ⟨?_, directChild_of_pattern hpattern, derivedTrialId_inj hlt hlt' hskill hskill'⟩
  intro nx root_seed
  unfold Op.start
  simp only
  rw [if_neg (by simp [hpattern])]
  rfl

/-- A plan of one stage. -/
def openDoorPlan (run_id : PyStr) : PipelinePlan :=
  { run_id := run_id
    stages := [{ skill := py "open_door", root_seed := 7, max_chunks := 1, action_steps := 1 }] }

/-- A run that is named like the first trial of another one. -/
theorem trial_ids_distinct_nested :
    derivedTrialId (py "run_0_open_door") 0 (py "open_door") ≠
      derivedTrialId (py "run") 0 (py "open_door") := by
  have hplan : (openDoorPlan (py "run_0_open_door")).validate = .ok () := by rfl
  have hplan' : (openDoorPlan (py "run")).validate = .ok () := by rfl
  intro heq
  have hstage : ∀ run_id, (openDoorPlan run_id).stages[0]? = some
      { skill := py "open_door", root_seed := 7, max_chunks := 1, action_steps := 1 } :=
    fun _ => rfl
  exact absurd ((trial_ids_distinct hplan hplan' (hstage _) (hstage _)).2.2 heq).1 (by decide)

end OvenRuntime
