/-
  OvenRuntime.Edge.ActionValidation
  ─────────────────────────────────
  The last check of an action chunk before it reaches the robot.

  NumPy takes absolute values in the dtype of the array it is given, and the
  most negative number of a signed dtype has none there: it passes for a value
  below every limit (`sound_iff_no_wrap`).
-/
import OvenRuntime.Common.Errors
import Mathlib.Data.Rat.Lemmas
import Mathlib.Algebra.Order.Ring.Rat
import Mathlib.Algebra.Order.Group.Unbundled.Abs
import Mathlib.Algebra.Order.Ring.Cast
import Mathlib.Algebra.Order.Ring.Abs
import Mathlib.Order.WithBot
import Mathlib.Tactic.NormNum
import Mathlib.Tactic.Positivity

namespace OvenRuntime

/-! ## §1. Floats. -/

namespace PyFloat

/-- The place of a float on the extended line. -/
def extended : PyFloat → Option (WithBot (WithTop ℚ))
  | fin q => some (some (some q))
  | negZero => some (some (some 0))
  | posInf => some (some none)
  | negInf => some none
  | nan => none

/-- `x < y`. -/
def lt (x y : PyFloat) : Bool :=
  match x.extended, y.extended with
  | some a, some b => decide (a < b)
  | _, _ => false

/-- `math.isfinite(x)`. -/
def isfinite : PyFloat → Bool
  | fin _ | negZero => true
  | posInf | negInf | nan => false

/-- `abs(x)`. -/
def abs : PyFloat → PyFloat
  | fin q => fin |q|
  | negZero => fin 0
  | posInf | negInf => posInf
  | nan => nan

/-- The number a finite float is. -/
def number : PyFloat → ℚ
  | fin q => q
  | negZero | posInf | negInf | nan => 0

theorem lt_iff {x y : PyFloat} (hx : x.isfinite = true) (hy : y.isfinite = true) :
    x.lt y = true ↔ x.number < y.number := by
  have hplace : ∀ z : PyFloat, z.isfinite = true → z.extended = some (some (some z.number)) := by
    intro z hz
    cases z <;> first | rfl | exact absurd hz (by decide)
  unfold lt
  rw [hplace x hx, hplace y hy]
  show decide (((x.number : WithTop ℚ) : WithBot (WithTop ℚ)) < (y.number : WithTop ℚ)) = true ↔ _
  rw [decide_eq_true_eq, WithBot.coe_lt_coe, WithTop.coe_lt_coe]

end PyFloat

/-! ## §2. Numeric arrays. -/

/-- The sizes of NumPy's integers. -/
inductive IntWidth where
  | w8
  | w16
  | w32
  | w64
  deriving DecidableEq

def IntWidth.bits : IntWidth → Nat
  | w8 => 8
  | w16 => 16
  | w32 => 32
  | w64 => 64

theorem IntWidth.bits_pos (width : IntWidth) : 0 < width.bits := by
  cases width <;> decide

/-- A dtype by its kind. -/
inductive DType where
  | f
  | i (width : IntWidth)
  | u (width : IntWidth)
  /-- Any kind outside `"fiu"`. -/
  | other
  deriving DecidableEq

namespace DType

/-- The items of an array; floats of every size are exact. -/
def Item : DType → Type
  | f => PyFloat
  | i width | u width => BitVec width.bits
  | other => Unit

/-- `dtype.kind in "fiu"`. -/
def numeric : DType → Bool
  | f | i _ | u _ => true
  | other => false

/-- `np.isfinite(item)`. -/
def isfinite : (t : DType) → t.Item → Bool
  | f, x => PyFloat.isfinite x
  | i _, _ | u _, _ | other, _ => true

/-- `np.abs(item)`, an item of the same dtype. -/
def abs : (t : DType) → t.Item → t.Item
  | f, x => PyFloat.abs x
  | i _, x => BitVec.abs x
  | u _, x | other, x => x

/-- `float(item)`.  An integer is taken for a float exactly: the source converts it to a
double, which rounds beyond 2^53, so that there the comparison with the limit is between
the limit and a neighbouring double. -/
def float : (t : DType) → t.Item → PyFloat
  | f, x => x
  | i _, x => .fin (BitVec.toInt x)
  | u _, x => .fin (BitVec.toNat x)
  | other, _ => .nan

/-- The most negative item of a signed dtype. -/
def mostNegative : (t : DType) → t.Item → Bool
  | i width, x => decide (BitVec.toInt x = -2 ^ (width.bits - 1))
  | f, _ | u _, _ | other, _ => false

/-- The distance of that item from zero. -/
def halfRange : DType → ℚ
  | i width => 2 ^ (width.bits - 1)
  | f | u _ | other => 0

/-- `np.max(items)`. -/
def max (t : DType) : List t.Item → Except Exn t.Item
  | [] => .error (.error .ValueError)
  | x :: xs => .ok (xs.foldl (fun m y =>
      if (t.float m).lt (t.float y) || t.float y == .nan then y else m) x)

end DType

/-- The entry at a row and a column. -/
def entryAt {α : Type} (rows : List (List α)) (i j : Nat) : Option α :=
  (rows[i]?).bind fun row => row[j]?

/-- An `ndarray` by its items, in C order. -/
structure NumArray where
  dtype : DType
  shape : List Nat
  items : List dtype.Item
  sized : items.length = shape.prod

namespace NumArray

/-- `array.shape[k]`. -/
def dim (array : NumArray) (k : Nat) : Nat := array.shape.getD k 0

/-- The row `i` of a matrix. -/
def row (array : NumArray) (i : Nat) : List array.dtype.Item :=
  (array.items.drop (i * array.dim 1)).take (array.dim 1)

/-- `array[:, :columns]`. -/
def firstColumns (array : NumArray) (columns : Nat) : List (List array.dtype.Item) :=
  (List.range (array.dim 0)).map fun i => (array.row i).take columns

/-- The number at a row and a column of a matrix. -/
def entry (array : NumArray) (i j : Nat) : Option ℚ :=
  (array.items[i * array.dim 1 + j]?).map fun x => (array.dtype.float x).number

end NumArray

/-! ## §3. The validator. -/

structure ActionValidator where
  action_dimension : Int
  chunk_rows : Int
  max_absolute_value : PyFloat

namespace ActionValidator

/-- `self.validate(actions)`, on `np.asarray(actions)`; the conversion to
`float32` is exact. -/
def validate (self : ActionValidator) (array : NumArray) : Except Exn (List (List ℚ)) := do
  if self.action_dimension ≤ 0 ∨ self.chunk_rows ≤ 0 ∨
      self.max_absolute_value.isfinite = false ∨
      ¬ (PyFloat.fin 0).lt self.max_absolute_value then
    throw (.error .ValueError)
  let accepted_dimensions := [self.action_dimension, self.action_dimension * 2]
  if array.shape.length ≠ 2 ∨ (array.dim 0 : Int) ≠ self.chunk_rows ∨
      (array.dim 1 : Int) ∉ accepted_dimensions then
    throw (fault .ACTION_INVALID "action chunk shape is invalid"
      [("expected_rows", .int self.chunk_rows),
       ("accepted_dimensions", .list (accepted_dimensions.map .int)),
       ("received_shape", .list (array.shape.map fun (n : Nat) => .int n))])
  if array.dtype.numeric = false ∨ array.items.all array.dtype.isfinite = false then
    throw (fault .ACTION_INVALID "action chunk must contain finite numeric values")
  let projected := array.firstColumns self.action_dimension.toNat
  let greatest ← array.dtype.max (projected.flatten.map array.dtype.abs)
  if self.max_absolute_value.lt (array.dtype.float greatest) then
    throw (fault .ACTION_INVALID "action chunk exceeds the configured absolute limit")
  return projected.map fun row => row.map fun x => (array.dtype.float x).number

/-- An item that the limit should keep out and that `np.abs` makes negative is
among the columns the robot gets. -/
def Wraps (self : ActionValidator) (array : NumArray) : Prop :=
  self.max_absolute_value.number < array.dtype.halfRange ∧
    ∃ x ∈ (array.firstColumns self.action_dimension.toNat).flatten,
      array.dtype.mostNegative x = true

end ActionValidator

/-- A chunk within the limit whose entries are those of the first columns of
the array. -/
structure SoundChunk (v : ActionValidator) (array : NumArray) (chunk : List (List ℚ)) : Prop where
  bounded : ∀ i j q, entryAt chunk i j = some q → |q| ≤ v.max_absolute_value.number
  copied : ∀ i j q, entryAt chunk i j = some q →
    (j : Int) < v.action_dimension ∧ array.entry i j = some q

/-! ## §4. Absolute values and maxima. -/

namespace DType

/-- Only the most negative item of a signed dtype has no absolute value. -/
theorem number_abs {t : DType} {x : t.Item} (hfinite : t.isfinite x = true)
    (hx : t.mostNegative x = false) : (t.float (t.abs x)).number = |(t.float x).number| := by
  cases t with
  | f =>
      cases (x : PyFloat) with
      | fin q => rfl
      | negZero => exact abs_zero.symm
      | posInf => exact absurd hfinite (by decide)
      | negInf => exact absurd hfinite (by decide)
      | nan => exact absurd hfinite (by decide)
  | i width =>
      have hne : (x : BitVec width.bits) ≠ BitVec.intMin width.bits := by
        intro heq
        refine of_decide_eq_false hx ?_
        rw [heq]
        exact BitVec.toInt_intMin_of_pos width.bits_pos
      show (((BitVec.abs x).toInt : Int) : ℚ) = |((BitVec.toInt x : Int) : ℚ)|
      rw [BitVec.toInt_abs_eq_natAbs_of_ne_intMin hne, Int.natCast_natAbs, Int.cast_abs]
  | u width =>
      show ((BitVec.toNat x : Int) : ℚ) = |((BitVec.toNat x : Int) : ℚ)|
      rw [abs_of_nonneg]
      exact Int.cast_nonneg (Int.natCast_nonneg _)
  | other => exact abs_zero.symm

/-- That item is its own absolute value, the negative of half the range. -/
theorem number_mostNegative {t : DType} {x : t.Item} (hx : t.mostNegative x = true) :
    (t.float (t.abs x)).number = -t.halfRange ∧ |(t.float x).number| = t.halfRange := by
  cases t with
  | f => exact absurd hx Bool.false_ne_true
  | i width =>
      have heq : (x : BitVec width.bits) = BitVec.intMin width.bits := by
        apply BitVec.eq_of_toInt_eq
        rw [BitVec.toInt_intMin_of_pos width.bits_pos]
        exact of_decide_eq_true hx
      have hint : ∀ w : IntWidth, ((BitVec.intMin w.bits).toInt : ℚ) = -2 ^ (w.bits - 1) ∧
          (BitVec.intMin w.bits).abs = BitVec.intMin w.bits := by
        intro w
        cases w <;> decide +kernel
      show (((BitVec.abs x).toInt : Int) : ℚ) = -2 ^ (width.bits - 1) ∧
        |((BitVec.toInt x : Int) : ℚ)| = 2 ^ (width.bits - 1)
      rw [heq, (hint width).2, (hint width).1, abs_neg]
      exact ⟨rfl, abs_of_nonneg (by positivity)⟩
  | u width => exact absurd hx Bool.false_ne_true
  | other => exact absurd hx Bool.false_ne_true

/-- The absolute value of a finite item is finite. -/
theorem isfinite_abs {t : DType} {x : t.Item} (hnumeric : t.numeric = true)
    (hfinite : t.isfinite x = true) : (t.float (t.abs x)).isfinite = true := by
  cases t with
  | f =>
      cases (x : PyFloat) with
      | fin q => rfl
      | negZero => rfl
      | posInf => exact absurd hfinite (by decide)
      | negInf => exact absurd hfinite (by decide)
      | nan => exact absurd hfinite (by decide)
  | i width => rfl
  | u width => rfl
  | other => exact absurd hnumeric (by decide)

/-- A maximum of finite items is below a bound if all of them are. -/
theorem max_le_iff {t : DType} {xs : List t.Item} {m : t.Item} (h : t.max xs = .ok m)
    (hfinite : ∀ x ∈ xs, (t.float x).isfinite = true) :
    (t.float m).isfinite = true ∧
      ∀ b : ℚ, (t.float m).number ≤ b ↔ ∀ x ∈ xs, (t.float x).number ≤ b := by
  cases xs with
  | nil => cases h
  | cons first rest =>
      rw [← Except.ok.inj h]
      clear h
      have hfirst := hfinite first (List.mem_cons_self ..)
      -- the greatest so far stands for the items already seen
      induction rest generalizing first with
      | nil => exact ⟨hfirst, fun b => by simp⟩
      | cons y rest ih =>
          have hy := hfinite y (List.mem_cons_of_mem _ (List.mem_cons_self ..))
          have hnan : (t.float y == .nan) = false := by
            cases hv : t.float y <;> first | rfl | (rw [hv] at hy; exact absurd hy (by decide))
          rw [List.foldl_cons, hnan, Bool.or_false]
          by_cases hlt : (t.float first).lt (t.float y) = true
          · rw [if_pos hlt]
            have hrest : ∀ x ∈ y :: rest, (t.float x).isfinite = true :=
              fun x hx => hfinite x (List.mem_cons_of_mem _ hx)
            refine ⟨(ih y hrest hy).1, fun b => ?_⟩
            rw [(ih y hrest hy).2 b, PyFloat.lt_iff hfirst hy] at *
            simp only [List.forall_mem_cons]
            exact ⟨fun hb => ⟨le_trans (le_of_lt hlt) hb.1, hb⟩, fun hb => hb.2⟩
          · rw [if_neg hlt]
            have hrest : ∀ x ∈ first :: rest, (t.float x).isfinite = true := by
              intro x hx
              rcases List.mem_cons.mp hx with rfl | hx
              · exact hfirst
              · exact hfinite x (List.mem_cons_of_mem _ (List.mem_cons_of_mem _ hx))
            refine ⟨(ih first hrest hfirst).1, fun b => ?_⟩
            rw [(ih first hrest hfirst).2 b]
            rw [PyFloat.lt_iff hfirst hy, not_lt] at hlt
            simp only [List.forall_mem_cons]
            exact ⟨fun hb => ⟨hb.1, le_trans hlt hb.1, hb.2⟩, fun hb => ⟨hb.1, hb.2.2⟩⟩

end DType

/-! ## §5. What the validator accepts. -/

namespace NumArray

/-- The entries of the first columns are those of the array, at the same row
and column. -/
theorem firstColumns_entry (array : NumArray) (columns i j : Nat) :
    entryAt (array.firstColumns columns) i j =
      if i < array.dim 0 ∧ j < columns ∧ j < array.dim 1 then
        array.items[i * array.dim 1 + j]?
      else none := by
  unfold firstColumns entryAt
  rw [List.getElem?_map]
  by_cases hi : i < array.dim 0
  · rw [List.getElem?_range hi]
    show ((array.row i).take columns)[j]? = _
    unfold row
    rw [List.getElem?_take, List.getElem?_take, List.getElem?_drop]
    by_cases hj : j < columns
    · by_cases hj' : j < array.dim 1
      · rw [if_pos hj, if_pos hj', if_pos ⟨hi, hj, hj'⟩]
      · rw [if_pos hj, if_neg hj', if_neg (fun h => hj' h.2.2)]
    · rw [if_neg hj, if_neg (fun h => hj h.2.1)]
  · rw [List.getElem?_eq_none (by simpa using hi), if_neg (fun h => hi h.1)]
    rfl

theorem length_items (array : NumArray) (h : array.shape.length = 2) :
    array.items.length = array.dim 0 * array.dim 1 := by
  obtain ⟨rows, columns, hshape⟩ := List.length_eq_two.mp h
  rw [array.sized]
  unfold dim
  rw [hshape]
  simp

theorem mem_firstColumns {array : NumArray} {columns : Nat} {x : array.dtype.Item}
    (hx : x ∈ (array.firstColumns columns).flatten) : x ∈ array.items := by
  obtain ⟨row, hrow, hx⟩ := List.mem_flatten.mp hx
  obtain ⟨i, -, rfl⟩ := List.mem_map.mp hrow
  exact List.mem_of_mem_drop (List.mem_of_mem_take (List.mem_of_mem_take hx))

end NumArray

/-- The members of the rows are their entries. -/
theorem mem_flatten_iff {α : Type} {rows : List (List α)} {x : α} :
    x ∈ rows.flatten ↔ ∃ i j, entryAt rows i j = some x := by
  constructor
  · intro hx
    obtain ⟨row, hrow, hx⟩ := List.mem_flatten.mp hx
    obtain ⟨i, hi⟩ := List.mem_iff_getElem?.mp hrow
    obtain ⟨j, hj⟩ := List.mem_iff_getElem?.mp hx
    refine ⟨i, j, ?_⟩
    unfold entryAt
    rw [hi]
    exact hj
  · intro ⟨i, j, h⟩
    obtain ⟨row, hi, hj⟩ := Option.bind_eq_some_iff.mp h
    exact List.mem_flatten.mpr ⟨row, List.mem_of_getElem? hi, List.mem_of_getElem? hj⟩

theorem entryAt_map {α β : Type} (f : α → β) (rows : List (List α)) (i j : Nat) :
    entryAt (rows.map fun row => row.map f) i j = (entryAt rows i j).map f := by
  unfold entryAt
  rw [List.getElem?_map]
  cases rows[i]? with
  | none => rfl
  | some row => exact List.getElem?_map ..

namespace ActionValidator

/-- What `validate` has checked when it returns, and what it returns. -/
theorem validate_ok {v : ActionValidator} {array : NumArray} {chunk : List (List ℚ)}
    (h : v.validate array = .ok chunk) :
    0 < v.action_dimension ∧ v.max_absolute_value.isfinite = true ∧
    array.shape.length = 2 ∧ array.dim 0 = v.chunk_rows ∧
    (array.dim 1 = v.action_dimension ∨ array.dim 1 = v.action_dimension * 2) ∧
    array.dtype.numeric = true ∧ (∀ x ∈ array.items, array.dtype.isfinite x = true) ∧
    (∀ x ∈ (array.firstColumns v.action_dimension.toNat).flatten,
      (array.dtype.float (array.dtype.abs x)).number ≤ v.max_absolute_value.number) ∧
    chunk = (array.firstColumns v.action_dimension.toNat).map fun row =>
      row.map fun x => (array.dtype.float x).number := by
  unfold validate at h
  simp only [guard_ok, bind_ok] at h
  obtain ⟨hlimits, hshape, hkind, greatest, hmax, hbelow, hchunk⟩ := h
  push Not at hlimits hshape
  obtain ⟨hndim, hrows, hcolumns⟩ := hshape
  simp only [not_or, Bool.not_eq_false] at hkind
  have hlimit : v.max_absolute_value.isfinite = true := by
    simpa using hlimits.2.2.1
  have hfinite : ∀ x ∈ array.items, array.dtype.isfinite x = true :=
    List.all_eq_true.mp hkind.2
  have hgreatest := DType.max_le_iff hmax (by
    intro y hy
    obtain ⟨x, hx, rfl⟩ := List.mem_map.mp hy
    exact DType.isfinite_abs hkind.1 (hfinite x (NumArray.mem_firstColumns hx)))
  refine ⟨hlimits.1, hlimit, hndim, hrows, by simpa using hcolumns, hkind.1, hfinite, ?_,
    (Except.ok.inj hchunk).symm⟩
  rw [PyFloat.lt_iff hlimit hgreatest.1, not_lt] at hbelow
  intro x hx
  exact (hgreatest.2 _).mp hbelow _ (List.mem_map_of_mem hx)

/-- A chunk has the configured number of rows, each of one number a joint. -/
theorem validate_shape {v : ActionValidator} {array : NumArray} {chunk : List (List ℚ)}
    (h : v.validate array = .ok chunk) :
    chunk.length = v.chunk_rows ∧ ∀ row ∈ chunk, row.length = v.action_dimension := by
  obtain ⟨hpos, -, hndim, hrows, hcolumns, -, -, -, rfl⟩ := validate_ok h
  constructor
  · unfold NumArray.firstColumns
    rw [List.length_map, List.length_map, List.length_range, hrows]
  · intro row hrow
    obtain ⟨items, hitems, rfl⟩ := List.mem_map.mp hrow
    obtain ⟨i, hi, rfl⟩ := List.mem_map.mp hitems
    have hsize : array.items.length = array.dim 0 * array.dim 1 := array.length_items hndim
    have hlast : (i + 1) * array.dim 1 ≤ array.dim 0 * array.dim 1 :=
      Nat.mul_le_mul_right _ (List.mem_range.mp hi)
    rw [Nat.succ_mul] at hlast
    unfold NumArray.row
    rw [List.length_map, List.length_take, List.length_take, List.length_drop]
    omega

/-- **The limit holds up to the wrap-around.**  The entries of an accepted
chunk are those of the array.  They are within the limit exactly if the array
does not hold, in the columns the robot gets, the most negative number of a
signed dtype whose range the limit cuts. -/
theorem sound_iff_no_wrap {v : ActionValidator} {array : NumArray} {chunk : List (List ℚ)}
    (h : v.validate array = .ok chunk) : SoundChunk v array chunk ↔ ¬ v.Wraps array := by
  obtain ⟨hpos, -, -, hrows, hcolumns, hnumeric, hfinite, hbelow, rfl⟩ := validate_ok h
  constructor
  · -- the entry that wraps is as far from zero as the range goes
    intro hsound ⟨hcut, x, hx, hnegative⟩
    obtain ⟨i, j, hij⟩ := mem_flatten_iff.mp hx
    have hentry := hsound.bounded i j (array.dtype.float x).number (by
      rw [entryAt_map, hij]
      rfl)
    rw [(DType.number_mostNegative hnegative).2] at hentry
    exact absurd hcut (not_lt.mpr hentry)
  · intro hwrap
    refine ⟨?_, ?_⟩
    · intro i j q hq
      rw [entryAt_map] at hq
      obtain ⟨x, hij, rfl⟩ := Option.map_eq_some_iff.mp hq
      have hx : x ∈ (array.firstColumns v.action_dimension.toNat).flatten :=
        mem_flatten_iff.mpr ⟨i, j, hij⟩
      by_cases hnegative : array.dtype.mostNegative x = true
      · rw [(DType.number_mostNegative hnegative).2]
        exact not_lt.mp fun hcut => hwrap ⟨hcut, x, hx, hnegative⟩
      · rw [← DType.number_abs (hfinite x (NumArray.mem_firstColumns hx))
          (Bool.not_eq_true _ ▸ hnegative)]
        exact hbelow x hx
    · intro i j q hq
      rw [entryAt_map, NumArray.firstColumns_entry] at hq
      obtain ⟨x, hx, rfl⟩ := Option.map_eq_some_iff.mp hq
      split at hx
      · next hij =>
          refine ⟨by omega, ?_⟩
          unfold NumArray.entry
          rw [hx]
          rfl
      · cases hx

/-- Two rows of seven signed bytes, all zero but the first. -/
def int8Chunk : NumArray where
  dtype := .i .w8
  shape := [2, 7]
  items := (-128 : BitVec 8) :: List.replicate 13 (0 : BitVec 8)
  sized := rfl

/-- A validator for seven joints. -/
def jointValidator (limit : ℚ) : ActionValidator := ⟨7, 2, .fin limit⟩

/-- The limit is 6 and the first joint is sent to -128. -/
theorem int8_slips_through : ∃ chunk, (jointValidator 6).validate int8Chunk = .ok chunk ∧
    entryAt chunk 0 0 = some (-128) ∧ ¬ SoundChunk (jointValidator 6) int8Chunk chunk := by
  have hentry : entryAt (((jointValidator 6).validate int8Chunk).toOption.getD []) 0 0
      = some (-128) := by decide +kernel
  obtain ⟨chunk, hchunk⟩ := exists_of_isOk (r := (jointValidator 6).validate int8Chunk)
    (by decide +kernel)
  rw [hchunk] at hentry
  refine ⟨chunk, hchunk, hentry, fun hsound => ?_⟩
  have hbound := hsound.bounded 0 0 _ hentry
  exact absurd hbound (by decide +kernel)

/-- The same bytes pass rightly where the limit is 128. -/
theorem int8_within_limit : ∃ chunk,
    (jointValidator 128).validate int8Chunk = .ok chunk ∧
      SoundChunk (jointValidator 128) int8Chunk chunk := by
  obtain ⟨chunk, hchunk⟩ := exists_of_isOk
    (r := (jointValidator 128).validate int8Chunk) (by decide +kernel)
  refine ⟨chunk, hchunk, (sound_iff_no_wrap hchunk).mpr fun hwrap => ?_⟩
  exact absurd hwrap.1 (by decide +kernel)

end ActionValidator

end OvenRuntime
