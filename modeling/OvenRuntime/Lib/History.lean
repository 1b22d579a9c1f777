/-
  Lib.History
  ───────────
  Histories, read from the end.

  A stateful object that is observed through its calls is specified over the
  list of all calls so far: by the last one with a property (`LastSplit`), by a
  condition on everything before an entry that always holds (`Always`) or
  holds for the first time (`FirstSplit`), and by the last few entries
  (`window`).  An implementation
  keeps flags and a bounded buffer instead.  The rules say how each notion
  moves when one more entry is appended, which is all an invariant between
  the two needs.
-/
import Mathlib.Data.List.DropRight
import Mathlib.Data.List.Basic

namespace History

variable {α : Type*}

/-! ## §1. The last entry with a property. -/

/-- `x` is the last entry of `l` with `p`; `post` is what came since. -/
def LastSplit (p : α → Prop) (l pre : List α) (x : α) (post : List α) : Prop :=
  l = pre ++ x :: post ∧ p x ∧ ∀ y ∈ post, ¬ p y

/-- The last entry is the one that was looked for. -/
theorem LastSplit.here {p : α → Prop} {l : List α} {x : α} (h : p x) :
    LastSplit p (l ++ [x]) l x [] := by
  refine ⟨rfl, h, ?_⟩
  intro y hy
  cases hy

/-- An entry without the property comes on top. -/
theorem LastSplit.snoc {p : α → Prop} {l pre post : List α} {x y : α}
    (h : LastSplit p l pre x post) (hy : ¬ p y) : LastSplit p (l ++ [y]) pre x (post ++ [y]) := by
  obtain ⟨rfl, hx, hpost⟩ := h
  refine ⟨by simp, hx, ?_⟩
  intro z hz
  rcases List.mem_append.mp hz with hz | hz
  · exact hpost z hz
  · rw [List.mem_singleton.mp hz]
    exact hy

/-- There is only one last entry. -/
theorem LastSplit.unique {p : α → Prop} {l pre pre' post post' : List α} {x x' : α}
    (h : LastSplit p l pre x post) (h' : LastSplit p l pre' x' post') :
    pre = pre' ∧ x = x' ∧ post = post' := by
  obtain ⟨rfl, hx, hpost⟩ := h
  obtain ⟨heq, hx', hpost'⟩ := h'
  rcases List.append_eq_append_iff.mp heq with ⟨c, rfl, hc⟩ | ⟨c, rfl, hc⟩
  · cases c with
    | nil =>
        have := List.cons.inj hc
        exact ⟨by simp, this⟩
    | cons z c =>
        obtain ⟨rfl, rfl⟩ := List.cons.inj hc
        exact absurd hx' (hpost x' (by simp))
  · cases c with
    | nil =>
        have := List.cons.inj hc
        exact ⟨by simp, this.1.symm, this.2.symm⟩
    | cons z c =>
        obtain ⟨rfl, rfl⟩ := List.cons.inj hc
        exact absurd hx (hpost' x (by simp))

/-! ## §2. The first entry at which a condition on the past holds. -/

/-- Every entry meets the condition. -/
def Always (P : List α → α → Prop) (l : List α) : Prop :=
  ∀ b y a, l = b ++ y :: a → P b y

/-- Nothing has happened yet. -/
theorem always_nil (P : List α → α → Prop) : Always P [] := by
  intro b y a h
  simp at h

/-- It held all along exactly if it held before and holds of the last entry. -/
theorem always_snoc {P : List α → α → Prop} {l : List α} {x : α} :
    Always P (l ++ [x]) ↔ Always P l ∧ P l x := by
  constructor
  · intro h
    refine ⟨?_, h l x [] rfl⟩
    intro b y a heq
    exact h b y (a ++ [x]) (by simp [heq])
  · rintro ⟨hl, hx⟩ b y a heq
    rcases List.eq_nil_or_concat a with rfl | ⟨a', z, rfl⟩
    · obtain ⟨rfl, hy⟩ := List.append_inj' heq rfl
      cases hy
      exact hx
    · have hcut : l ++ [x] = (b ++ y :: a') ++ [z] := by simpa using heq
      obtain ⟨hl', -⟩ := List.append_inj' hcut rfl
      exact hl b y a' hl'

/-- No entry meets the condition. -/
abbrev Never (P : List α → α → Prop) (l : List α) : Prop := Always (fun b y => ¬ P b y) l

/-- `x` is the first entry that meets the condition, after `before`. -/
def FirstSplit (P : List α → α → Prop) (l before : List α) (x : α) (after : List α) : Prop :=
  l = before ++ x :: after ∧ P before x ∧ Never P before

/-- Nothing has happened yet. -/
theorem Never.nil (P : List α → α → Prop) : Never P [] := always_nil _

/-- The last entry is none of them either. -/
theorem Never.snoc {P : List α → α → Prop} {l : List α} {x : α} (h : Never P l)
    (hx : ¬ P l x) : Never P (l ++ [x]) := always_snoc.mpr ⟨h, hx⟩

/-- The last entry is the first of its kind. -/
theorem FirstSplit.here {P : List α → α → Prop} {l : List α} {x : α} (h : Never P l)
    (hx : P l x) : FirstSplit P (l ++ [x]) l x [] := ⟨rfl, hx, h⟩

/-- The first one of its kind stays the first one. -/
theorem FirstSplit.snoc {P : List α → α → Prop} {l before after : List α} {x : α}
    (h : FirstSplit P l before x after) (y : α) :
    FirstSplit P (l ++ [y]) before x (after ++ [y]) := by
  obtain ⟨rfl, hx, hb⟩ := h
  exact ⟨by simp, hx, hb⟩

/-- If there is a first one, there is one. -/
theorem FirstSplit.not_never {P : List α → α → Prop} {l before after : List α} {x : α}
    (h : FirstSplit P l before x after) : ¬ Never P l :=
  fun hn => hn before x after h.1 h.2.1

/-- There is only one first entry. -/
theorem FirstSplit.unique {P : List α → α → Prop} {l before before' after after' : List α}
    {x x' : α} (h : FirstSplit P l before x after) (h' : FirstSplit P l before' x' after') :
    before = before' ∧ x = x' ∧ after = after' := by
  obtain ⟨rfl, hx, hb⟩ := h
  obtain ⟨heq, hx', hb'⟩ := h'
  rcases List.append_eq_append_iff.mp heq with ⟨c, rfl, hc⟩ | ⟨c, rfl, hc⟩
  · cases c with
    | nil => exact ⟨by simp, List.cons.inj hc⟩
    | cons z c =>
        obtain ⟨rfl, -⟩ := List.cons.inj hc
        exact absurd hx (hb' before x c rfl)
  · cases c with
    | nil =>
        have := List.cons.inj hc
        exact ⟨by simp, this.1.symm, this.2.symm⟩
    | cons z c =>
        obtain ⟨rfl, -⟩ := List.cons.inj hc
        exact absurd hx' (hb before' x' c rfl)

/-! ## §3. Entries in a given order. -/

/-- Entries with these properties occur in this order, with anything between. -/
def InOrder : List (α → Prop) → List α → Prop
  | [], _ => True
  | p :: ps, l => ∃ a x b, l = a ++ x :: b ∧ p x ∧ InOrder ps b

/-- Nothing is asked for. -/
theorem InOrder.nil (l : List α) : InOrder [] l := trivial

/-- One entry, alone. -/
theorem InOrder.single {p : α → Prop} {x : α} (h : p x) : InOrder [p] [x] :=
  ⟨[], x, [], rfl, h, trivial⟩

/-- More entries at the end do no harm. -/
theorem InOrder.append_right {ps : List (α → Prop)} {l : List α} (h : InOrder ps l)
    (l' : List α) : InOrder ps (l ++ l') := by
  induction ps generalizing l with
  | nil => trivial
  | cons p ps ih =>
      obtain ⟨a, x, b, rfl, hx, hb⟩ := h
      exact ⟨a, x, b ++ l', by simp, hx, ih hb⟩

/-- Nor do more entries at the front. -/
theorem InOrder.append_left {ps : List (α → Prop)} {l : List α} (h : InOrder ps l)
    (l' : List α) : InOrder ps (l' ++ l) := by
  cases ps with
  | nil => trivial
  | cons p ps =>
      obtain ⟨a, x, b, rfl, hx, hb⟩ := h
      exact ⟨l' ++ a, x, b, by simp, hx, hb⟩

/-- What occurs in order in two parts occurs in order in both together. -/
theorem InOrder.append {ps qs : List (α → Prop)} {l l' : List α} (h : InOrder ps l)
    (h' : InOrder qs l') : InOrder (ps ++ qs) (l ++ l') := by
  induction ps generalizing l with
  | nil => exact h'.append_left l
  | cons p ps ih =>
      obtain ⟨a, x, b, rfl, hx, hb⟩ := h
      exact ⟨a, x, b ++ l', by simp, hx, ih hb⟩

/-! ## §4. The last few entries. -/

/-- The last `n` entries, or all of them when there are fewer. -/
abbrev window (n : Nat) (l : List α) : List α := l.rtake n

/-- Append to a buffer that drops its oldest entries beyond `cap`. -/
def push (cap : Nat) (buffer : List α) (x : α) : List α := window cap (buffer ++ [x])

/-- A window is full once there are enough entries. -/
theorem length_window (n : Nat) (l : List α) : (window n l).length = min n l.length := by
  unfold window List.rtake
  rw [List.length_drop]
  omega

/-- Before that it holds all of them. -/
theorem window_of_length_le {n : Nat} {l : List α} (h : l.length ≤ n) : window n l = l := by
  unfold window List.rtake
  rw [Nat.sub_eq_zero_of_le h, List.drop_zero]

/-- A smaller window only sees the end of a larger one. -/
theorem window_window {n cap : Nat} (l : List α) (h : n ≤ cap) :
    window n (window cap l) = window n l := by
  unfold window List.rtake
  rw [List.drop_drop, List.length_drop]
  congr 1
  omega

/-- A window that fits behind a cut does not see the cut. -/
theorem window_drop {n k : Nat} {l : List α} (h : n + k ≤ l.length) :
    window n (l.drop k) = window n l := by
  unfold window List.rtake
  rw [List.drop_drop, List.length_drop]
  congr 1
  omega

/-- A bounded buffer holds a window of everything that was pushed. -/
theorem push_window (cap : Nat) (l : List α) (x : α) :
    push cap (window cap l) x = window cap (l ++ [x]) := by
  unfold push
  cases cap with
  | zero => simp
  | succ cap =>
      show List.rtake (window (cap + 1) l ++ [x]) (cap + 1) = List.rtake (l ++ [x]) (cap + 1)
      rw [List.rtake_concat_succ, List.rtake_concat_succ]
      exact congrArg (· ++ [x]) (window_window l (Nat.le_succ cap))

/-- The last entry is in every window. -/
theorem getLast?_window {n : Nat} (l : List α) (h : 0 < n) :
    (window n l).getLast? = l.getLast? := by
  cases n with
  | zero => omega
  | succ n =>
      rcases List.eq_nil_or_concat l with rfl | ⟨l', x, rfl⟩
      · simp
      · rw [List.concat_eq_append]
        show (List.rtake (l' ++ [x]) (n + 1)).getLast? = _
        rw [List.rtake_concat_succ]
        simp

end History
