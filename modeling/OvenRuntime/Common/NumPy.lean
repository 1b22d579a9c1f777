/-
  OvenRuntime.Common.NumPy
  ────────────────────────
  What the runtime uses of NumPy: dtypes by their text, arrays as strides over
  a memory, and the conversions the hash and the codec make.
-/
import OvenRuntime.Common.Encoding
import OvenRuntime.Lib.Strided

namespace OvenRuntime

/-! ## §1. Dtypes. -/

/-- The dtype kinds the decoder lets through. -/
def SAFE_KINDS : PyStr := py "?biufcmM"

/-- A character JSON leaves as it is. -/
def CodePoint.isPlain (c : CodePoint) : Bool :=
  32 ≤ c.val && c.val < 127 && c.val != 34 && c.val != 92

/-- The third-party functions the hash and the codec call.  A dtype goes by
`str(dtype)`, an array scalar by its dtype and its bytes. -/
structure Library where
  /-- `dtype.kind`. -/
  kind : PyStr → CodePoint
  /-- `dtype.itemsize`. -/
  itemsize : PyStr → Nat
  /-- `dtype.hasobject`. -/
  hasobject : PyStr → Bool
  /-- `dtype.fields is not None`. -/
  fields : PyStr → Bool
  /-- `dtype.subdtype is not None`. -/
  subdtype : PyStr → Bool
  /-- `dtype.str`. -/
  str : PyStr → PyStr
  /-- `np.dtype(text)`. -/
  dtype : PyStr → Except PyError PyStr
  /-- The `float` an `np.float64` is. -/
  float_value : List UInt8 → PyFloat
  /-- The `str` an `np.str_` is. -/
  str_value : PyStr → List UInt8 → PyStr
  /-- The `bytes` an `np.bytes_` is. -/
  bytes_value : PyStr → List UInt8 → List UInt8
  /-- `str(scalar)`. -/
  scalar_str : PyStr → List UInt8 → PyStr
  /-- `float.__repr__`. -/
  float_repr : PyFloat → PyStr
  /-- Objects, fields and sub-arrays have kinds of their own. -/
  plain_of_safe : ∀ d, kind d ∈ SAFE_KINDS →
    hasobject d = false ∧ fields d = false ∧ subdtype d = false
  /-- Numbers, dates and durations take up space. -/
  itemsize_pos : ∀ d, kind d ∈ SAFE_KINDS → 0 < itemsize d
  /-- Their typestring names them. -/
  dtype_str : ∀ d, kind d ∈ SAFE_KINDS → dtype (str d) = .ok d
  /-- A typestring carries the kind. -/
  dtype_str_kind : ∀ d e, hasobject d = false → fields d = false → subdtype d = false →
    dtype (str d) = .ok e → kind e = kind d
  /-- Their texts are short and need no escapes. -/
  text_of_safe : ∀ d, kind d ∈ SAFE_KINDS →
    d.all CodePoint.isPlain = true ∧ d.length ≤ 64
  /-- Bytes are unsigned integers of size one. -/
  uint8 : kind (py "uint8") ∈ SAFE_KINDS ∧ itemsize (py "uint8") = 1
  /-- The shortest decimal text of a double. -/
  float_repr_short : ∀ x, (float_repr x).isAscii = true ∧ (float_repr x).length ≤ 32

/-! ## §2. Arrays in memory. -/

/-- An `ndarray`: extents and byte strides over a memory. -/
structure StridedArray where
  dtype : PyStr
  axes : List (Nat × Int)
  offset : Int
  memory : Int → UInt8

/-- `array.shape`. -/
def StridedArray.shape (a : StridedArray) : List Nat := a.axes.map Prod.fst

variable (lib : Library)

/-- `array.tobytes(order="C")`. -/
def StridedArray.tobytes (a : StridedArray) : List UInt8 :=
  Strided.gather (lib.itemsize a.dtype) a.memory a.axes a.offset

/-- The dtype, the shape and the contents of an array. -/
def StridedArray.view (a : StridedArray) : NdArray :=
  { dtype := a.dtype, shape := a.shape, data := a.tobytes lib }

/-- The strides from the last axis on are those of a packed array; an axis of
extent one has any stride. -/
def stridesPacked : Int → List (Nat × Int) → Bool
  | _, [] => true
  | sd, (n, s) :: axes =>
      if n = 1 then stridesPacked sd axes else s == sd && stridesPacked (sd * n) axes

/-- `array.flags.c_contiguous`. -/
def StridedArray.c_contiguous (a : StridedArray) : Bool :=
  a.shape.contains 0 || stridesPacked (lib.itemsize a.dtype) a.axes.reverse

/-- A packed array with given contents. -/
def NdArray.toArray (a : NdArray) : StridedArray :=
  { dtype := a.dtype
    axes := Strided.packed (lib.itemsize a.dtype) a.shape
    offset := 0
    memory := Strided.store a.data }

/-- `np.asarray(scalar)`. -/
def asarray (dtype : PyStr) (data : List UInt8) : StridedArray :=
  ({ dtype := dtype, shape := [], data := data } : NdArray).toArray lib

/-- The shape of an array of at least one dimension. -/
def atLeastOne (shape : List Nat) : List Nat := if shape = [] then [1] else shape

/-- `np.ascontiguousarray(array)`. -/
def ascontiguousarray (a : StridedArray) : StridedArray :=
  ({ dtype := a.dtype, shape := atLeastOne a.shape, data := a.tobytes lib } : NdArray).toArray lib

variable {lib}

/-- The contents are as long as the shape and the dtype say. -/
def NdArray.Sized (lib : Library) (a : NdArray) : Prop :=
  a.data.length = a.shape.prod * lib.itemsize a.dtype

theorem StridedArray.sized_view (lib : Library) (a : StridedArray) : (a.view lib).Sized lib :=
  Strided.length_gather ..

/-- A packed array has the contents it was built with. -/
theorem NdArray.view_toArray {a : NdArray} (h : a.Sized lib) : (a.toArray lib).view lib = a := by
  have hshape : (a.toArray lib).shape = a.shape := Strided.map_fst_packed ..
  have hdata : (a.toArray lib).tobytes lib = a.data := Strided.gather_packed h
  unfold StridedArray.view
  rw [hshape, hdata]
  rfl

theorem prod_atLeastOne (shape : List Nat) : (atLeastOne shape).prod = shape.prod := by
  unfold atLeastOne
  split
  · next h => rw [h]; rfl
  · rfl

/-- The contiguous copy has the same dtype and contents; a shape of no
dimensions becomes one of one. -/
theorem view_ascontiguousarray (lib : Library) (a : StridedArray) :
    (ascontiguousarray lib a).view lib
      = { a.view lib with shape := atLeastOne a.shape } := by
  apply NdArray.view_toArray
  show (a.tobytes lib).length = (atLeastOne a.shape).prod * _
  rw [prod_atLeastOne]
  exact a.sized_view lib

/-- A copy taken only where it is needed keeps the contents, and the shape
where it has dimensions. -/
theorem tobytes_ascontiguousarray (a : StridedArray) :
    (ascontiguousarray lib a).tobytes lib = a.tobytes lib :=
  congrArg NdArray.data (view_ascontiguousarray lib a)

/-- A scalar without dimensions is contiguous. -/
theorem StridedArray.c_contiguous_of_nil {a : StridedArray} (h : a.axes = []) :
    a.c_contiguous lib = true := by
  unfold StridedArray.c_contiguous
  rw [h, Bool.or_eq_true]
  exact Or.inr rfl

/-! ## §3. A table of dtypes. -/

/-- Text, kind, size and typestring of the common little-endian dtypes. -/
def DTYPES : List (PyStr × CodePoint × Nat × PyStr) :=
  [(py "bool", 98, 1, py "|b1"), (py "int8", 105, 1, py "|i1"), (py "int16", 105, 2, py "<i2"),
   (py "int32", 105, 4, py "<i4"), (py "int64", 105, 8, py "<i8"), (py "uint8", 117, 1, py "|u1"),
   (py "uint16", 117, 2, py "<u2"), (py "uint32", 117, 4, py "<u4"),
   (py "uint64", 117, 8, py "<u8"), (py "float16", 102, 2, py "<f2"),
   (py "float32", 102, 4, py "<f4"), (py "float64", 102, 8, py "<f8"),
   (py "complex64", 99, 8, py "<c8"), (py "complex128", 99, 16, py "<c16"),
   (py "<U1", 85, 4, py "<U1"), (py "|S1", 83, 1, py "|S1")]

/-- The row of a dtype; the others count as objects. -/
def dtypeRow (d : PyStr) : CodePoint × Nat × PyStr :=
  (DTYPES.lookup d).getD (79, 8, py "|O")

theorem dtypeRow_mem {d : PyStr} (h : (dtypeRow d).1 ∈ SAFE_KINDS) :
    (d, dtypeRow d) ∈ DTYPES := by
  unfold dtypeRow at h ⊢
  cases hrow : DTYPES.lookup d with
  | none => rw [hrow] at h; exact absurd h (by decide)
  | some row =>
      obtain ⟨l₁, l₂, hsplit, -⟩ := List.lookup_eq_some_iff.mp hrow
      rw [hsplit]
      exact List.mem_append_right _ (List.mem_cons_self ..)

/-- The library on these dtypes.  It prints one float and knows no NumPy
strings. -/
def tableLibrary : Library where
  kind d := (dtypeRow d).1
  itemsize d := (dtypeRow d).2.1
  hasobject d := (dtypeRow d).1 == 79
  fields _ := false
  subdtype _ := false
  str d := (dtypeRow d).2.2
  dtype t :=
    match DTYPES.find? fun row => row.2.2.2 == t with
    | some row => .ok row.1
    | none => if t = py "|O" then .ok (py "object") else .error .TypeError
  float_value _ := .fin (13 / 4)
  str_value _ _ := []
  bytes_value _ _ := []
  scalar_str _ _ := []
  float_repr _ := py "3.25"
  plain_of_safe := by
    intro d hd
    refine ⟨?_, rfl, rfl⟩
    have hrows : ∀ row ∈ DTYPES, (row.2.1 == 79) = false := by decide
    exact hrows _ (dtypeRow_mem hd)
  itemsize_pos := by
    intro d hd
    have hrows : ∀ row ∈ DTYPES, 0 < row.2.2.1 := by decide
    exact hrows _ (dtypeRow_mem hd)
  dtype_str := by
    intro d hd
    have hrows : ∀ row ∈ DTYPES,
        DTYPES.find? (fun r => r.2.2.2 == row.2.2.2) = some row := by decide
    have hrow := hrows _ (dtypeRow_mem hd)
    simp only at hrow ⊢
    rw [hrow]
  dtype_str_kind := by
    intro d e _ _ _ he
    have hrows : ∀ row ∈ DTYPES, (dtypeRow row.1).1 = row.2.1 ∧
        DTYPES.find? (fun r => r.2.2.2 == row.2.2.2) = some row := by decide
    unfold dtypeRow at he ⊢
    cases hrow : DTYPES.lookup d with
    | none =>
        rw [hrow] at he
        have hobject : DTYPES.find? (fun r => r.2.2.2 == py "|O") = none := by decide
        simp only [Option.getD_none, hobject, if_true, Except.ok.injEq] at he ⊢
        rw [← he]
        decide
    | some row =>
        rw [hrow] at he
        have hmem : (d, row) ∈ DTYPES := by
          obtain ⟨l₁, l₂, hsplit, -⟩ := List.lookup_eq_some_iff.mp hrow
          rw [hsplit]
          exact List.mem_append_right _ (List.mem_cons_self ..)
        have hfind := (hrows _ hmem).2
        simp only [Option.getD_some, hfind, Except.ok.injEq] at he ⊢
        rw [← he, hrow]
        rfl
  text_of_safe := by
    intro d hd
    have hrows : ∀ row ∈ DTYPES,
        row.1.all CodePoint.isPlain = true ∧ row.1.length ≤ 64 := by decide
    exact hrows _ (dtypeRow_mem hd)
  uint8 := by decide
  float_repr_short := by
    intro x
    decide

end OvenRuntime
