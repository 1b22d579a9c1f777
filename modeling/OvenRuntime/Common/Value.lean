/-
  OvenRuntime.Common.Value
  ────────────────────────
  The Python values the runtime handles dynamically: strings as sequences of
  code points, and the tree of dicts, lists, scalars and arrays that the
  MessagePack and JSON decoders deliver.
-/
import Mathlib.Algebra.Group.Nat.Defs
import Mathlib.Data.List.Basic
import Mathlib.Data.Fin.Basic
import Mathlib.Data.Rat.Defs

namespace OvenRuntime

/-! ## §1. Strings. -/

/-- One element of a Python `str`.  Lone surrogates are legal elements. -/
abbrev CodePoint := Fin 0x110000

/-- Numerals are code points. -/
instance (priority := high) CodePoint.neZero : @NeZero Nat Zero.ofOfNat0 0x110000 := ⟨by decide⟩

/-- A Python `str`. -/
abbrev PyStr := List CodePoint

instance (priority := high) PyStr.lawfulBEq : LawfulBEq PyStr := inferInstance

instance (priority := high) PyStr.lawfulBEq_option : LawfulBEq (Option PyStr) := inferInstance

/-- The Python string of a Lean literal. -/
def py (s : String) : PyStr :=
  s.toList.map fun c => ⟨c.toNat % 0x110000, Nat.mod_lt _ (by decide)⟩

/-- Python refuses to encode lone surrogates as UTF-8. -/
def CodePoint.isSurrogate (c : CodePoint) : Bool :=
  decide (0xD800 ≤ c.val) && decide (c.val ≤ 0xDFFF)

/-- `s.encode("utf-8")` succeeds. -/
def PyStr.encodable (s : PyStr) : Bool := s.all fun c => !CodePoint.isSurrogate c

/-- `s.isascii()`. -/
def PyStr.isAscii (s : PyStr) : Bool := s.all fun c => decide (c.val < 128)

/-- ASCII strings are encodable: the surrogates lie far above. -/
theorem PyStr.encodable_of_isAscii {s : PyStr} (h : s.isAscii = true) :
    s.encodable = true := by
  simp only [PyStr.isAscii, PyStr.encodable, List.all_eq_true, decide_eq_true_eq] at h ⊢
  intro c hc
  have := h c hc
  simp only [CodePoint.isSurrogate, Bool.not_eq_true', Bool.and_eq_false_iff,
    decide_eq_false_iff_not]
  omega

/-- The decimal digits of `str(n)` for a non-negative `n`. -/
def pyNat (n : Nat) : PyStr := py (toString n)

/-! ## §2. Values. -/

/-- A Python `float`: a finite double is its exact rational value, and the
negative zero is kept apart. -/
inductive PyFloat where
  | fin (q : ℚ)
  | negZero
  | posInf
  | negInf
  | nan
  deriving DecidableEq

/-- The mapping keys the wire can deliver (`strict_map_key`). -/
inductive Key where
  | str (s : PyStr)
  | bytes (b : List UInt8)
  deriving DecidableEq

/-- A plain numeric `ndarray`: dtype text, shape and C-order bytes. -/
structure NdArray where
  dtype : PyStr
  shape : List Nat
  data : List UInt8
  deriving DecidableEq

/-- `array.size`. -/
def NdArray.size (a : NdArray) : Nat := a.shape.prod

/-- A decoded Python value. -/
inductive Value where
  | none
  | bool (b : Bool)
  | int (i : Int)
  | float (x : PyFloat)
  | str (s : PyStr)
  | bytes (b : List UInt8)
  | list (items : List Value)
  | map (entries : List (Key × Value))
  | ndarray (a : NdArray)

/-- A Python `dict` with the keys of `Key`, in insertion order. -/
abbrev Dict := List (Key × Value)

/-- `d.get(name)`, with `none` for an absent key. -/
def Dict.get? (d : Dict) (name : String) : Option Value := d.lookup (.str (py name))

/-- `set(d)`. -/
def Dict.keys (d : Dict) : List Key := d.map Prod.fst

/-- `isinstance(value, int) and not isinstance(value, bool)`. -/
def Value.exactInt? : Value → Option Int
  | .int i => some i
  | _ => Option.none

end OvenRuntime
