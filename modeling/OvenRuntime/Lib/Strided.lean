/-
  Lib.Strided
  ───────────
  Multi-dimensional arrays over a byte memory: every axis has an extent and a
  stride.  The elements are read in row-major order; a packed copy reads back
  what was stored in it (`gather_packed`).
-/
import Mathlib.Data.List.Basic
import Mathlib.Data.List.GetD
import Mathlib.Algebra.BigOperators.Group.List.Basic
import Mathlib.Data.Nat.Cast.Basic
import Mathlib.Tactic.Ring

namespace Strided

/-! ## §1. Reading. -/

/-- The element addresses in row-major order, from the origin `o`. -/
def addresses : List (Nat × Int) → Int → List Int
  | [], o => [o]
  | (n, s) :: axes, o => (List.range n).flatMap fun (i : Nat) => addresses axes (o + i * s)

/-- The `width` bytes of the element at `a`. -/
def elementBytes (width : Nat) (memory : Int → UInt8) (a : Int) : List UInt8 :=
  (List.range width).map fun (j : Nat) => memory (a + j)

/-- The bytes of all elements in row-major order. -/
def gather (width : Nat) (memory : Int → UInt8) (axes : List (Nat × Int)) (o : Int) :
    List UInt8 :=
  (addresses axes o).flatMap (elementBytes width memory)

/-- Blocks of one length. -/
theorem length_flatMap_const {α β : Type} {l : List α} {f : α → List β} {n : Nat}
    (h : ∀ a ∈ l, (f a).length = n) : (l.flatMap f).length = l.length * n := by
  rw [List.length_flatMap, List.map_congr_left h, List.map_const', List.sum_replicate,
    nsmul_eq_mul, Nat.cast_id]

theorem length_addresses (axes : List (Nat × Int)) (o : Int) :
    (addresses axes o).length = (axes.map Prod.fst).prod := by
  induction axes generalizing o with
  | nil => rfl
  | cons axis axes ih =>
      show ((List.range axis.1).flatMap fun (i : Nat) => addresses axes (o + i * axis.2)).length = _
      rw [length_flatMap_const (fun i _ => ih _), List.length_range, List.map_cons,
        List.prod_cons]

/-- A gather has as many bytes as the extents and the width say. -/
theorem length_gather (width : Nat) (memory : Int → UInt8) (axes : List (Nat × Int)) (o : Int) :
    (gather width memory axes o).length = (axes.map Prod.fst).prod * width := by
  unfold gather
  rw [length_flatMap_const (n := width), length_addresses]
  intro a _
  unfold elementBytes
  rw [List.length_map, List.length_range]

/-! ## §2. Packed copies. -/

/-- The axes of a packed array: the last one varies fastest, without gaps. -/
def packed (width : Nat) : List Nat → List (Nat × Int)
  | [] => []
  | n :: ns => (n, ((ns.prod * width : Nat) : Int)) :: packed width ns

/-- A memory that holds `data` from address zero on. -/
def store (data : List UInt8) : Int → UInt8 := fun a => data.getD a.toNat 0

theorem map_fst_packed (width : Nat) (ns : List Nat) :
    (packed width ns).map Prod.fst = ns := by
  induction ns with
  | nil => rfl
  | cons n ns ih =>
      unfold packed
      rw [List.map_cons, ih]

/-- Counting to a product is counting within each of its blocks. -/
theorem flatMap_range_mul {β : Type} (n m : Nat) (f : Nat → β) :
    ((List.range n).flatMap fun i => (List.range m).map fun j => f (i * m + j))
      = (List.range (n * m)).map f := by
  induction n with
  | zero => simp
  | succ n ih =>
      rw [List.range_succ, List.flatMap_append, ih, Nat.succ_mul, List.range_add,
        List.map_append, List.map_map, List.flatMap_cons, List.flatMap_nil, List.append_nil]
      rfl

/-- The elements of a packed array lie one behind the other. -/
theorem addresses_packed (width : Nat) (ns : List Nat) (o : Int) :
    addresses (packed width ns) o
      = (List.range ns.prod).map fun k => o + ((k * width : Nat) : Int) := by
  induction ns generalizing o with
  | nil => simp [packed, addresses]
  | cons n ns ih =>
      unfold packed addresses
      rw [List.prod_cons, ← flatMap_range_mul n ns.prod fun k => o + ((k * width : Nat) : Int)]
      apply List.flatMap_congr
      intro i _
      rw [ih]
      apply List.map_congr_left
      intro j _
      push_cast
      ring

/-- **A packed copy reads back the bytes stored in it.** -/
theorem gather_packed {width : Nat} {ns : List Nat} {data : List UInt8}
    (h : data.length = ns.prod * width) :
    gather width (store data) (packed width ns) 0 = data := by
  unfold gather
  rw [addresses_packed, List.flatMap_map]
  show ((List.range ns.prod).flatMap fun (k : Nat) => (List.range width).map fun (j : Nat) =>
    store data ((0 : Int) + ((k * width : Nat) : Int) + (j : Int))) = data
  have hcell : ∀ k j : Nat, store data ((0 : Int) + ((k * width : Nat) : Int) + (j : Int))
      = data.getD (k * width + j) 0 := by
    intro k j
    unfold store
    congr 1
    omega
  simp only [hcell]
  rw [flatMap_range_mul ns.prod width fun i => data.getD i 0, ← h]
  apply List.ext_getElem
  · rw [List.length_map, List.length_range]
  · intro i hi hi'
    rw [List.getElem_map, List.getElem_range, List.getD_eq_getElem _ _ hi']

end Strided
