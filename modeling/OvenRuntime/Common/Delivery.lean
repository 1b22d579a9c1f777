/-
  OvenRuntime.Common.Delivery
  ───────────────────────────
  Whatever the bytes of a frame are, a value that `unpack_message` returns is
  a delivered one: its hash depends on its floats and its nesting alone.
-/
import OvenRuntime.Common.HashTotal

namespace OvenRuntime

variable {lib : Library} {mp : MessagePack}

/-- A delivered value, with paths and texts of at most `k` bytes. -/
def DeliveredWithin (lib : Library) (k : Nat) (v : PyObj) : Prop :=
  v.All (DeliveredNode lib) ∧ v.reach ≤ k

/-! ## §1. Mappings and weights. -/

/-- An unpacked mapping has no entries but those in the frame. -/
theorem mem_ofEntries {entries : List (Key × Value)} {e : Key × Value}
    (h : e ∈ Dict.ofEntries entries) : e ∈ entries := by
  have hfold : ∀ (es : List (Key × Value)) (d : Dict),
      e ∈ es.foldl (fun d e => d.setItem e.1 e.2) d → e ∈ d ∨ e ∈ es := by
    intro es
    induction es with
    | nil => exact fun d hd => .inl hd
    | cons x es ih =>
        intro d hd
        rcases ih _ hd with hd | hes
        · have hd : e ∈ d.setItem x.1 x.2 := hd
          unfold Dict.setItem at hd
          split at hd
          · obtain ⟨y, hy, hxy⟩ := List.mem_map.mp hd
            split at hxy
            · exact .inr (List.mem_cons.mpr (.inl hxy.symm))
            · exact .inl (hxy ▸ hy)
          · rcases List.mem_append.mp hd with hd | hd
            · exact .inl hd
            · exact .inr (List.mem_cons.mpr (.inl (List.mem_singleton.mp hd)))
        · exact .inr (List.mem_cons_of_mem _ hes)
  rcases hfold entries [] h with hnil | hmem
  · exact absurd hnil (List.not_mem_nil)
  · exact hmem

theorem entriesReach_le {entries : List (PyKey × PyObj)} {k : Nat}
    (h : ∀ e ∈ entries, e.1.reach + e.2.reach ≤ k) : PyObj.entriesReach entries ≤ k := by
  induction entries with
  | nil => exact Nat.zero_le k
  | cons e es ih =>
      rw [List.forall_mem_cons] at h
      unfold PyObj.entriesReach PyObj.entryReach
      exact max_le h.1 (ih h.2)

/-- Induction over a native value, with the hypothesis for every member. -/
@[elab_as_elim]
theorem Native.induct {motive : Native → Prop} (nil : motive .nil)
    (bool : ∀ b, motive (.bool b)) (int : ∀ i, motive (.int i)) (float : ∀ x, motive (.float x))
    (str : ∀ s, motive (.str s)) (bin : ∀ b, motive (.bin b))
    (array : ∀ items, (∀ n ∈ items, motive n) → motive (.array items))
    (map : ∀ entries : List (Native × Native),
      (∀ e ∈ entries, motive e.1 ∧ motive e.2) → motive (.map entries))
    (ext : ∀ code body, motive (.ext code body)) : ∀ n, motive n := by
  intro n
  apply @Native.rec motive (fun items => ∀ n ∈ items, motive n)
    (fun entries => ∀ e ∈ entries, motive e.1 ∧ motive e.2) (fun e => motive e.1 ∧ motive e.2)
    nil bool int float str bin array map ext
  · intro n hn
    exact absurd hn (List.not_mem_nil)
  · intro n ns hn hns
    exact List.forall_mem_cons.mpr ⟨hn, hns⟩
  · intro e he
    exact absurd he (List.not_mem_nil)
  · intro e es he hes
    exact List.forall_mem_cons.mpr ⟨he, hes⟩
  · intro k n hk hn
    exact ⟨hk, hn⟩

end OvenRuntime
