/-
  OvenRuntime.Common.HashOrder
  ────────────────────────────
  The hash and the order of insertion.  A mapping is read in the order of the
  texts of its keys, which are distinct where the keys are strings, so the
  entries of any mapping, at any depth, may be rearranged.  Python compares
  mappings without their order too: equal ones have one hash if the leaves that
  correspond are alike (`hash_ignores_order`).  That these have one type is not
  enough, for the two zeros are equal and print differently.
-/
import OvenRuntime.Common.Hashing

namespace OvenRuntime

open PathTree

/-! ## §1. Sorting by distinct texts. -/

/-- Texts in the order of `str`. -/
def strLe (s t : PyStr) : Prop := lexLe (fun x y => decide (x < y)) s t = true

theorem strLe_nil (t : PyStr) : strLe [] t := rfl

theorem not_strLe_nil (c : CodePoint) (s : PyStr) : ¬ strLe (c :: s) [] := by
  intro h
  cases h

theorem strLe_cons {c d : CodePoint} {s t : PyStr} :
    strLe (c :: s) (d :: t) ↔ c < d ∨ c = d ∧ strLe s t := by
  unfold strLe
  rw [lexLe]
  by_cases hlt : c < d
  · simp [hlt]
  · by_cases hgt : d < c
    · have hne : c ≠ d := fun heq => hlt (heq ▸ hgt)
      simp [hlt, hgt, hne]
    · have heq : c = d := le_antisymm (not_lt.mp hgt) (not_lt.mp hlt)
      simp [heq]

theorem strLe_total (s t : PyStr) : strLe s t ∨ strLe t s := by
  induction s generalizing t with
  | nil => exact Or.inl (strLe_nil t)
  | cons c s ih =>
      cases t with
      | nil => exact Or.inr (strLe_nil _)
      | cons d t =>
          rw [strLe_cons, strLe_cons]
          by_cases heq : c = d
          · apply (ih t).elim
            · exact fun h => Or.inl (Or.inr ⟨heq, h⟩)
            · exact fun h => Or.inr (Or.inr ⟨heq.symm, h⟩)
          · apply (lt_or_gt_of_ne heq).elim
            · exact fun h => Or.inl (Or.inl h)
            · exact fun h => Or.inr (Or.inl h)

theorem strLe_trans {s t u : PyStr} (hst : strLe s t) (htu : strLe t u) : strLe s u := by
  induction s generalizing t u with
  | nil => exact strLe_nil u
  | cons c s ih =>
      cases t with
      | nil => exact absurd hst (not_strLe_nil c s)
      | cons d t =>
          cases u with
          | nil => exact absurd htu (not_strLe_nil d t)
          | cons e u =>
              rw [strLe_cons] at hst htu ⊢
              apply hst.elim
              · intro hcd
                apply htu.elim
                · exact fun hde => Or.inl (lt_trans hcd hde)
                · exact fun heq => Or.inl (heq.1 ▸ hcd)
              · intro heq
                rw [heq.1]
                apply htu.elim
                · exact fun hde => Or.inl hde
                · exact fun heq' => Or.inr ⟨heq'.1, ih heq.2 heq'.2⟩

instance {α : Type} : Std.Total (textLe (α := α)) where
  total a b := strLe_total a.1 b.1

instance {α : Type} : IsTrans (PyStr × α) textLe where
  trans _ _ _ := strLe_trans

variable {lib : Library}

mutual

/-- `v == w` in Python, where `leafEq` compares the leaves: sequences of one type
item by item, mappings key by key. -/
def PyObj.EqualBy (leafEq : PyObj → PyObj → Prop) : PyObj → PyObj → Prop
  | .list items, w => ∃ items', w = .list items' ∧ PyObj.EqualItems leafEq items items'
  | .tuple items, w => ∃ items', w = .tuple items' ∧ PyObj.EqualItems leafEq items items'
  | .dict entries, w => ∃ entries', w = .dict entries' ∧ entries.length = entries'.length ∧
      PyObj.EqualEntries leafEq entries entries'
  | v, w => leafEq v w
termination_by structural v => v

def PyObj.EqualItems (leafEq : PyObj → PyObj → Prop) : List PyObj → List PyObj → Prop
  | [], items' => items' = []
  | v :: vs, items' => ∃ w ws, items' = w :: ws ∧ PyObj.EqualBy leafEq v w ∧
      PyObj.EqualItems leafEq vs ws
termination_by structural vs => vs

def PyObj.EqualEntries (leafEq : PyObj → PyObj → Prop) :
    List (PyKey × PyObj) → List (PyKey × PyObj) → Prop
  | [], _ => True
  | e :: es, entries' => PyObj.EqualEntry leafEq e entries' ∧ PyObj.EqualEntries leafEq es entries'
termination_by structural es => es

/-- The other mapping has an equal value under the key. -/
def PyObj.EqualEntry (leafEq : PyObj → PyObj → Prop) :
    PyKey × PyObj → List (PyKey × PyObj) → Prop
  | (k, v), entries' => ∃ w, entries'.lookup k = some w ∧ PyObj.EqualBy leafEq v w
termination_by structural e => e

end

/-- The types of two leaves. -/
def PyObj.SameType : PyObj → PyObj → Prop
  | .none, .none | .bool _, .bool _ | .int _, .int _ | .float _, .float _ | .str _, .str _
  | .bytes _, .bytes _ | .ndarray _, .ndarray _ => True
  | .generic d _, .generic e _ => d = e
  | _, _ => False

/-- Two leaves of one type.  Zeros have one sign, and NumPy objects have one
dtype, shape and contents. -/
def PyObj.Alike (lib : Library) : PyObj → PyObj → Prop
  | .float x, .float y => x = .negZero ↔ y = .negZero
  | .ndarray a, .ndarray b => a.view lib = b.view lib
  | .generic d b, .generic e c => d = e ∧ b = c
  | v, w => v.SameType w

variable {numpyEq leafEq : PyObj → PyObj → Prop}

end OvenRuntime
