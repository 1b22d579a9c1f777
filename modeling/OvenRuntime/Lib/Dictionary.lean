/-
  Lib.Dictionary
  ──────────────
  Dictionaries as lists of entries with distinct keys, in insertion order:
  setting an item keeps the place of its key, and updating by another
  dictionary is the union of both in which the other one's values win
  (`lookup_update`).
-/
import Mathlib.Data.List.Nodup

namespace Dictionary

variable {κ α : Type*} [BEq κ]

/-- `d[k] = v`. -/
def setItem (d : List (κ × α)) (k : κ) (v : α) : List (κ × α) :=
  match d with
  | [] => [(k, v)]
  | e :: es => if e.1 == k then (k, v) :: es else e :: setItem es k v

/-- `d.update(e)`. -/
def update (d e : List (κ × α)) : List (κ × α) := e.foldl (fun d q => setItem d q.1 q.2) d

section Lookup

variable [LawfulBEq κ]

/-- The first entry answers for its own key. -/
theorem lookup_cons_self (e : κ × α) (es : List (κ × α)) {k : κ} (h : k = e.1) :
    (e :: es).lookup k = some e.2 := by
  rw [List.lookup_cons, beq_iff_eq.mpr h]

/-- It does not answer for other keys. -/
theorem lookup_cons_of_ne (e : κ × α) (es : List (κ × α)) {k : κ} (h : k ≠ e.1) :
    (e :: es).lookup k = es.lookup k := by
  rw [List.lookup_cons, beq_eq_false_iff_ne.mpr h]

/-- What was set is found. -/
theorem lookup_setItem_self (d : List (κ × α)) (k : κ) (v : α) :
    (setItem d k v).lookup k = some v := by
  induction d with
  | nil => exact lookup_cons_self (k, v) [] rfl
  | cons e es ih =>
      unfold setItem
      by_cases he : e.1 = k
      · rw [if_pos (beq_iff_eq.mpr he)]
        exact lookup_cons_self (k, v) es rfl
      · rw [if_neg (fun hbeq => he (beq_iff_eq.mp hbeq)),
          lookup_cons_of_ne _ _ (fun heq => he heq.symm), ih]

/-- Setting one key leaves what the other keys have. -/
theorem lookup_setItem_of_ne (d : List (κ × α)) {k k' : κ} (v : α) (h : k' ≠ k) :
    (setItem d k v).lookup k' = d.lookup k' := by
  induction d with
  | nil => exact lookup_cons_of_ne (k, v) [] h
  | cons e es ih =>
      unfold setItem
      by_cases he : e.1 = k
      · rw [if_pos (beq_iff_eq.mpr he), lookup_cons_of_ne (k, v) es h,
          lookup_cons_of_ne e es (fun heq => h (heq.trans he))]
      · rw [if_neg (fun hbeq => he (beq_iff_eq.mp hbeq))]
        by_cases hk : k' = e.1
        · rw [lookup_cons_self e _ hk, lookup_cons_self e _ hk]
        · rw [lookup_cons_of_ne e _ hk, lookup_cons_of_ne e _ hk, ih]

/-- **The key-wise union**: the values of the update win. -/
theorem lookup_update (d e : List (κ × α)) (hnodup : (e.map Prod.fst).Nodup) (k : κ) :
    (update d e).lookup k = (e.lookup k).or (d.lookup k) := by
  induction e generalizing d with
  | nil => rfl
  | cons q es ih =>
      rw [List.map_cons, List.nodup_cons] at hnodup
      show (update (setItem d q.1 q.2) es).lookup k = _
      rw [ih _ hnodup.2]
      by_cases h : k = q.1
      · -- the key does not come again
        have hnone : es.lookup k = none := by
          rw [List.lookup_eq_none_iff]
          intro p hp
          refine bne_iff_ne.mpr fun heq => hnodup.1 ?_
          rw [← h, heq]
          exact List.mem_map_of_mem hp
        rw [hnone, lookup_cons_self q es h, h, lookup_setItem_self]
        rfl
      · rw [lookup_cons_of_ne q es h, lookup_setItem_of_ne d _ h]

end Lookup

end Dictionary
