/-
  Lib.StepLimit
  ─────────────
  Sequences whose consecutive entries are related, read from a starting point,
  and the longest such beginning of a sequence (`limited`).  A controller that
  checks each step before it takes it produces `limited` of what it was asked
  to do.
-/
import Mathlib.Data.List.Chain

namespace StepLimit

variable {α : Type*} {R : α → α → Prop}

/-- Every step of the walk `a, l₀, l₁, …` is within the limit. -/
abbrev Within (R : α → α → Prop) (a : α) (l : List α) : Prop := List.IsChain R (a :: l)

/-- Nothing follows, so no step is too large. -/
theorem Within.nil (a : α) : Within R a [] := List.IsChain.singleton a

/-- The first step is from the start, the others from where it led. -/
theorem within_cons {a b : α} {l : List α} : Within R a (b :: l) ↔ R a b ∧ Within R b l :=
  List.isChain_cons_cons

/-- Where a walk ends. -/
def stop (a : α) (l : List α) : α := l.getLastD a

@[simp] theorem stop_nil (a : α) : stop a [] = a := rfl

/-- Where the list ends does not depend on where it began, unless it is empty. -/
@[simp] theorem stop_cons (a b : α) (l : List α) : stop a (b :: l) = stop b l := by
  cases l <;> rfl

/-- The second part goes on from where the first one stopped. -/
@[simp] theorem stop_append (a : α) (l l' : List α) : stop a (l ++ l') = stop (stop a l) l' := by
  induction l generalizing a with
  | nil => rfl
  | cons b l ih =>
      rw [List.cons_append, stop_cons, stop_cons]
      exact ih b

/-- Two lists in a row are within the limit if each is, the second one from where the first
one stopped. -/
theorem within_append {a : α} {l l' : List α} :
    Within R a (l ++ l') ↔ Within R a l ∧ Within R (stop a l) l' := by
  induction l generalizing a with
  | nil => simp [Within]
  | cons b l ih =>
      rw [List.cons_append, within_cons, within_cons, stop_cons, ih, and_assoc]

/-- A walk through the points of a function: each of its steps counts. -/
theorem within_map_range (R : α → α → Prop) (f : Nat → α) (n : Nat) :
    Within R (f 0) ((List.range n).map fun i => f (i + 1)) ↔ ∀ i < n, R (f i) (f (i + 1)) := by
  have hstop : ∀ n, stop (f 0) ((List.range n).map fun i => f (i + 1)) = f n := by
    intro n
    cases n with
    | zero => rfl
    | succ n => simp [List.range_succ]
  induction n with
  | zero => simp [Within]
  | succ n ih =>
      rw [List.range_succ, List.map_append, within_append, hstop, List.map_singleton,
        within_cons]
      constructor
      · rintro ⟨hall, hlast, -⟩ i hi
        rcases Nat.lt_succ_iff_lt_or_eq.mp hi with hi | rfl
        · exact ih.mp hall i hi
        · exact hlast
      · intro hall
        exact ⟨ih.mpr fun i hi => hall i (by omega), hall n (by omega), Within.nil _⟩

/-! ## The longest beginning within the limit. -/

variable [DecidableRel R]

/-- The longest beginning of `l` that stays within the limit from `a` on. -/
def limited (R : α → α → Prop) [DecidableRel R] (a : α) : List α → List α
  | [] => []
  | b :: l => if R a b then b :: limited R b l else []

/-- The cut is made before the first step that is too large. -/
theorem limited_cons (a b : α) (l : List α) :
    limited R a (b :: l) = if R a b then b :: limited R b l else [] := rfl

/-- What is left after the cut is within the limit. -/
theorem limited_within (a : α) (l : List α) : Within R a (limited R a l) := by
  induction l generalizing a with
  | nil => exact Within.nil a
  | cons b l ih =>
      rw [limited_cons]
      by_cases h : R a b
      · rw [if_pos h]
        exact within_cons.mpr ⟨h, ih b⟩
      · rw [if_neg h]
        exact Within.nil a

/-- A part within the limit is kept, and the cut is looked for behind it. -/
theorem limited_append {a : α} {l : List α} (l' : List α) (h : Within R a l) :
    limited R a (l ++ l') = l ++ limited R (stop a l) l' := by
  induction l generalizing a with
  | nil => rfl
  | cons b l ih =>
      obtain ⟨hb, hl⟩ := within_cons.mp h
      rw [List.cons_append, limited_cons, if_pos hb, ih hl, stop_cons]
      rfl

end StepLimit
