/-
  Lib.Keyed
  ─────────
  Logs whose records carry a key and a value.  `valuesAt` reads the values recorded
  under one key, in order.  A log that is duplicate-free under every key is
  duplicate-free as a log of pairs, however its keys interleave.
-/
import Mathlib.Data.List.Nodup

namespace Keyed

variable {α κ β : Type*} [DecidableEq κ]

/-- The values that a log records under a key, in order. -/
def valuesAt (key : α → κ) (value : α → β) (log : List α) (k : κ) : List β :=
  (log.filter fun a => key a = k).map value

variable {key : α → κ} {value : α → β}

@[simp] theorem valuesAt_nil (k : κ) : Keyed.valuesAt key value [] k = [] := rfl

/-- One more record shows under its own key. -/
theorem valuesAt_snoc_self (log : List α) (a : α) :
    Keyed.valuesAt key value (log ++ [a]) (key a) = Keyed.valuesAt key value log (key a) ++ [value a] := by
  unfold Keyed.valuesAt
  rw [List.filter_append, List.map_append]
  simp

/-- One more record does not show under any other key. -/
theorem valuesAt_snoc_other {log : List α} {a : α} {k : κ} (h : key a ≠ k) :
    Keyed.valuesAt key value (log ++ [a]) k = Keyed.valuesAt key value log k := by
  unfold Keyed.valuesAt
  rw [List.filter_append, List.map_append]
  simp [h]

/-- A key no record carries has no values. -/
theorem valuesAt_eq_nil {log : List α} {k : κ} (h : ∀ a ∈ log, key a ≠ k) :
    Keyed.valuesAt key value log k = [] := by
  unfold Keyed.valuesAt
  rw [List.map_eq_nil_iff, List.filter_eq_nil_iff]
  intro a ha
  simpa using h a ha

theorem mem_valuesAt {log : List α} {a : α} (h : a ∈ log) :
    value a ∈ Keyed.valuesAt key value log (key a) := by
  unfold Keyed.valuesAt
  rw [List.mem_map]
  exact ⟨a, by simp [h], rfl⟩

/-- **No duplicates under any key, no duplicates at all.** -/
theorem nodup_pairs {log : List α} (h : ∀ k, (Keyed.valuesAt key value log k).Nodup) :
    (log.map fun a => (key a, value a)).Nodup := by
  induction log with
  | nil => simp
  | cons a log ih =>
      rw [List.map_cons, List.nodup_cons]
      -- under its own key the head comes before the values of the tail
      have hhead : Keyed.valuesAt key value (a :: log) (key a)
          = value a :: Keyed.valuesAt key value log (key a) := by
        unfold Keyed.valuesAt
        simp
      refine ⟨?_, ih ?_⟩
      · intro hmem
        rw [List.mem_map] at hmem
        obtain ⟨b, hb, hpair⟩ := hmem
        obtain ⟨hk, hv⟩ := Prod.mk.inj hpair
        have hnodup := h (key a)
        rw [hhead, List.nodup_cons] at hnodup
        apply hnodup.1
        rw [← hv, ← hk]
        exact mem_valuesAt hb
      · intro k
        have hk := h k
        by_cases he : key a = k
        · subst he
          rw [hhead, List.nodup_cons] at hk
          exact hk.2
        · have : Keyed.valuesAt key value (a :: log) k = Keyed.valuesAt key value log k := by
            unfold Keyed.valuesAt
            simp [he]
          rwa [this] at hk

end Keyed
