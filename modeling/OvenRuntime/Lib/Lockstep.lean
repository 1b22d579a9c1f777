/-
  Lib.Lockstep
  ────────────
  Two runs of one system, side by side.

  A property of two runs is a safety property of their product: the system
  steps in both components at once, and a side condition says which pairs of
  steps belong together.  What is related at the start and stays related in
  every pair of steps is related at the end of both runs (`lockstep_related`);
  with a relation `erase s₁ = erase s₂` this is the unwinding rule of
  noninterference.
-/
import OvenRuntime.Lib.TransitionSystem

namespace TransitionSystem

variable {σ ℓ : Type*} {M : System σ ℓ} {I : σ → σ → Prop} {A : σ → ℓ → σ → ℓ → Prop}

/-- Two copies of a system that take the steps `A` allows them to take together. -/
def lockstep (M : System σ ℓ) (I : σ → σ → Prop) (A : σ → ℓ → σ → ℓ → Prop) :
    System (σ × σ) (ℓ × ℓ) where
  init s := M.init s.1 ∧ M.init s.2 ∧ I s.1 s.2
  step s l s' := M.step s.1 l.1 s'.1 ∧ M.step s.2 l.2 s'.2 ∧ A s.1 l.1 s.2 l.2

/-- The left components make a path of their own. -/
theorem Path.fst {s s' : σ × σ} {ls : List (ℓ × ℓ)} (h : Path (lockstep M I A) s ls s') :
    Path M s.1 (ls.map Prod.fst) s'.1 := by
  induction h with
  | nil => exact .nil _
  | snoc _ hstep ih =>
      rw [List.map_append]
      exact .snoc ih hstep.1

/-- So do the right ones. -/
theorem Path.snd {s s' : σ × σ} {ls : List (ℓ × ℓ)} (h : Path (lockstep M I A) s ls s') :
    Path M s.2 (ls.map Prod.snd) s'.2 := by
  induction h with
  | nil => exact .nil _
  | snoc _ hstep ih =>
      rw [List.map_append]
      exact .snoc ih hstep.2.1

/-- The two runs. -/
theorem Run.fst {s : σ × σ} {ls : List (ℓ × ℓ)} (h : Run (lockstep M I A) ls s) :
    Run M (ls.map Prod.fst) s.1 := by
  obtain ⟨s₀, hinit, hpath⟩ := h
  exact ⟨s₀.1, hinit.1, hpath.fst⟩

/-- The right components make a run of their own, as the left ones do. -/
theorem Run.snd {s : σ × σ} {ls : List (ℓ × ℓ)} (h : Run (lockstep M I A) ls s) :
    Run M (ls.map Prod.snd) s.2 := by
  obtain ⟨s₀, hinit, hpath⟩ := h
  exact ⟨s₀.2, hinit.2.1, hpath.snd⟩

/-- **Unwinding.**  The steps may use what holds in single runs of the system. -/
theorem lockstep_related {R : σ → σ → Prop}
    (hinit : ∀ s₁ s₂, M.init s₁ → M.init s₂ → I s₁ s₂ → R s₁ s₂)
    (hstep : ∀ ls₁ ls₂ s₁ s₂ l₁ l₂ s₁' s₂', Run M ls₁ s₁ → Run M ls₂ s₂ → R s₁ s₂ →
      A s₁ l₁ s₂ l₂ → M.step s₁ l₁ s₁' → M.step s₂ l₂ s₂' → R s₁' s₂')
    {s : σ × σ} {ls : List (ℓ × ℓ)} (h : Run (lockstep M I A) ls s) : R s.1 s.2 := by
  refine Run.invariant (fun _ s => R s.1 s.2) ?_ ?_ h
  · exact fun s hs => hinit s.1 s.2 hs.1 hs.2.1 hs.2.2
  · intro ls s l s' hrun hR hs
    exact hstep _ _ _ _ _ _ _ _ hrun.fst hrun.snd hR hs.2.2 hs.1 hs.2.1

end TransitionSystem
