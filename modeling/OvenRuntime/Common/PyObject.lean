/-
  OvenRuntime.Common.PyObject
  ───────────────────────────
  The Python objects handed to the hash and to the encoder.  Beyond the decoded
  values there are tuples, NumPy scalars, arrays of any layout and mapping keys
  of other types.
-/
import OvenRuntime.Common.Json

namespace OvenRuntime

/-! ## §1. Objects. -/

/-- A mapping key. -/
inductive PyKey where
  | str (s : PyStr)
  | bytes (b : List UInt8)
  | none
  | bool (b : Bool)
  | int (i : Int)
  | float (x : PyFloat)
  | generic (dtype : PyStr) (data : List UInt8)
  deriving DecidableEq

/-- A Python object built from builtin types, arrays and NumPy scalars. -/
inductive PyObj where
  | none
  | bool (b : Bool)
  | int (i : Int)
  | float (x : PyFloat)
  | str (s : PyStr)
  | bytes (b : List UInt8)
  | list (items : List PyObj)
  | tuple (items : List PyObj)
  | dict (entries : List (PyKey × PyObj))
  | ndarray (a : StridedArray)
  | generic (dtype : PyStr) (data : List UInt8)

/-- Induction over an object, with the hypothesis for every member. -/
@[elab_as_elim]
theorem PyObj.induct {motive : PyObj → Prop} (none : motive .none) (bool : ∀ b, motive (.bool b))
    (int : ∀ i, motive (.int i)) (float : ∀ x, motive (.float x)) (str : ∀ s, motive (.str s))
    (bytes : ∀ b, motive (.bytes b))
    (list : ∀ items, (∀ v ∈ items, motive v) → motive (.list items))
    (tuple : ∀ items, (∀ v ∈ items, motive v) → motive (.tuple items))
    (dict : ∀ entries : List (PyKey × PyObj), (∀ e ∈ entries, motive e.2) → motive (.dict entries))
    (ndarray : ∀ a, motive (.ndarray a)) (generic : ∀ d b, motive (.generic d b)) :
    ∀ v, motive v := by
  intro v
  apply @PyObj.rec motive (fun items => ∀ v ∈ items, motive v)
    (fun entries => ∀ e ∈ entries, motive e.2) (fun e => motive e.2)
    none bool int float str bytes list tuple dict ndarray generic
  · intro v hv
    exact absurd hv (List.not_mem_nil)
  · intro v vs hv hvs
    exact List.forall_mem_cons.mpr ⟨hv, hvs⟩
  · intro e he
    exact absurd he (List.not_mem_nil)
  · intro e es he hes
    exact List.forall_mem_cons.mpr ⟨he, hes⟩
  · intro k v hv
    exact hv

mutual

/-- `P` holds at every node. -/
def PyObj.All (P : PyObj → Prop) : PyObj → Prop
  | .none => P .none
  | .bool b => P (.bool b)
  | .int i => P (.int i)
  | .float x => P (.float x)
  | .str s => P (.str s)
  | .bytes b => P (.bytes b)
  | .list items => P (.list items) ∧ PyObj.AllItems P items
  | .tuple items => P (.tuple items) ∧ PyObj.AllItems P items
  | .dict entries => P (.dict entries) ∧ PyObj.AllEntries P entries
  | .ndarray a => P (.ndarray a)
  | .generic d b => P (.generic d b)

/-- `PyObj.All` for the items of a list or a tuple. -/
def PyObj.AllItems (P : PyObj → Prop) : List PyObj → Prop
  | [] => True
  | v :: vs => PyObj.All P v ∧ PyObj.AllItems P vs

/-- `PyObj.All` for the entries of a dict; the keys are no objects of their own. -/
def PyObj.AllEntries (P : PyObj → Prop) : List (PyKey × PyObj) → Prop
  | [] => True
  | e :: es => PyObj.AllEntry P e ∧ PyObj.AllEntries P es

/-- `PyObj.All` for the value of one entry. -/
def PyObj.AllEntry (P : PyObj → Prop) : PyKey × PyObj → Prop
  | (_, v) => PyObj.All P v

end

/-- All of the items, as a statement about the members of the list. -/
theorem PyObj.allItems_iff {P : PyObj → Prop} {items : List PyObj} :
    PyObj.AllItems P items ↔ ∀ v ∈ items, v.All P := by
  induction items with
  | nil => simp [PyObj.AllItems]
  | cons v vs ih =>
      unfold PyObj.AllItems
      rw [ih, List.forall_mem_cons]

/-- All of the entries, as a statement about the members of the list. -/
theorem PyObj.allEntries_iff {P : PyObj → Prop} {entries : List (PyKey × PyObj)} :
    PyObj.AllEntries P entries ↔ ∀ e ∈ entries, e.2.All P := by
  induction entries with
  | nil => simp [PyObj.AllEntries]
  | cons e es ih =>
      unfold PyObj.AllEntries PyObj.AllEntry
      rw [ih, List.forall_mem_cons]

/-- A property of a list and of everything in it. -/
@[simp] theorem PyObj.all_list {P : PyObj → Prop} {items : List PyObj} :
    (PyObj.list items).All P ↔ P (.list items) ∧ ∀ v ∈ items, v.All P := by
  show P (.list items) ∧ PyObj.AllItems P items ↔ _
  rw [PyObj.allItems_iff]

/-- A property of a tuple and of everything in it. -/
@[simp] theorem PyObj.all_tuple {P : PyObj → Prop} {items : List PyObj} :
    (PyObj.tuple items).All P ↔ P (.tuple items) ∧ ∀ v ∈ items, v.All P := by
  show P (.tuple items) ∧ PyObj.AllItems P items ↔ _
  rw [PyObj.allItems_iff]

/-- A property of a dict and of all values in it. -/
@[simp] theorem PyObj.all_dict {P : PyObj → Prop} {entries : List (PyKey × PyObj)} :
    (PyObj.dict entries).All P ↔ P (.dict entries) ∧ ∀ e ∈ entries, e.2.All P := by
  show P (.dict entries) ∧ PyObj.AllEntries P entries ↔ _
  rw [PyObj.allEntries_iff]

/-- What holds at every node holds at the root. -/
theorem PyObj.All.root {P : PyObj → Prop} {v : PyObj} (h : v.All P) : P v := by
  cases v with
  | list items => exact (PyObj.all_list.mp h).1
  | tuple items => exact (PyObj.all_tuple.mp h).1
  | dict entries => exact (PyObj.all_dict.mp h).1
  | none => exact h
  | bool b => exact h
  | int i => exact h
  | float x => exact h
  | str s => exact h
  | bytes b => exact h
  | ndarray a => exact h
  | generic d b => exact h

/-- A weaker property holds of everything in an object that a stronger one holds of. -/
theorem PyObj.All.imp {P Q : PyObj → Prop} (hPQ : ∀ v, P v → Q v) {v : PyObj} (h : v.All P) :
    v.All Q := by
  induction v using PyObj.induct with
  | list items ih =>
      rw [PyObj.all_list] at h ⊢
      exact ⟨hPQ _ h.1, fun v hv => ih v hv (h.2 v hv)⟩
  | tuple items ih =>
      rw [PyObj.all_tuple] at h ⊢
      exact ⟨hPQ _ h.1, fun v hv => ih v hv (h.2 v hv)⟩
  | dict entries ih =>
      rw [PyObj.all_dict] at h ⊢
      exact ⟨hPQ _ h.1, fun e he => ih e he (h.2 e he)⟩
  | none => exact hPQ _ h
  | bool b => exact hPQ _ h
  | int i => exact hPQ _ h
  | float x => exact hPQ _ h
  | str s => exact hPQ _ h
  | bytes b => exact hPQ _ h
  | ndarray a => exact hPQ _ h
  | generic d b => exact hPQ _ h

/-! ## §2. Objects and decoded values. -/

/-- The key a decoded mapping can have. -/
def PyKey.toKey : PyKey → Option Key
  | .str s => some (.str s)
  | .bytes b => some (.bytes b)
  | _ => Option.none

/-- A decoded key as an object. -/
def Key.toPyKey : Key → PyKey
  | .str s => .str s
  | .bytes b => .bytes b

variable (lib : Library)

mutual

/-- The decoded value an object stands for, a NumPy scalar as an array without
dimensions. -/
def PyObj.toValue : PyObj → Option Value
  | .none => some .none
  | .bool b => some (.bool b)
  | .int i => some (.int i)
  | .float x => some (.float x)
  | .str s => some (.str s)
  | .bytes b => some (.bytes b)
  | .list items => (PyObj.itemsToValue items).map .list
  | .tuple _ => Option.none
  | .dict entries => (PyObj.entriesToValue entries).map .map
  | .ndarray a => some (.ndarray (a.view lib))
  | .generic d b => some (.ndarray ((asarray lib d b).view lib))

/-- The decoded items, if every one of them is a value. -/
def PyObj.itemsToValue : List PyObj → Option (List Value)
  | [] => some []
  | v :: vs => do
      let w ← PyObj.toValue v
      let ws ← PyObj.itemsToValue vs
      return w :: ws

/-- The decoded entries, if every key and every value is one. -/
def PyObj.entriesToValue : List (PyKey × PyObj) → Option (List (Key × Value))
  | [] => some []
  | e :: es => do
      let w ← PyObj.entryToValue e
      let ws ← PyObj.entriesToValue es
      return w :: ws

/-- One decoded entry. -/
def PyObj.entryToValue : PyKey × PyObj → Option (Key × Value)
  | (k, v) => do
      let key ← k.toKey
      let w ← PyObj.toValue v
      return (key, w)

end

mutual

/-- A decoded value as an object; its arrays are packed. -/
def Value.toObj : Value → PyObj
  | .none => .none
  | .bool b => .bool b
  | .int i => .int i
  | .float x => .float x
  | .str s => .str s
  | .bytes b => .bytes b
  | .list items => .list (Value.itemsToObj items)
  | .map entries => .dict (Value.entriesToObj entries)
  | .ndarray a => .ndarray (a.toArray lib)

/-- The items of a list as objects. -/
def Value.itemsToObj : List Value → List PyObj
  | [] => []
  | v :: vs => Value.toObj v :: Value.itemsToObj vs

/-- The entries of a mapping as objects. -/
def Value.entriesToObj : List (Key × Value) → List (PyKey × PyObj)
  | [] => []
  | e :: es => Value.entryToObj e :: Value.entriesToObj es

/-- One entry, its key a `str` or `bytes` again. -/
def Value.entryToObj : Key × Value → PyKey × PyObj
  | (k, v) => (k.toPyKey, Value.toObj v)

end

/-- The items are carried over one by one. -/
theorem Value.itemsToObj_eq (items : List Value) :
    Value.itemsToObj lib items = items.map (Value.toObj lib) := by
  induction items with
  | nil => rfl
  | cons v vs ih =>
      unfold Value.itemsToObj
      rw [ih, List.map_cons]

/-- The entries are carried over one by one, in their order. -/
theorem Value.entriesToObj_eq (entries : List (Key × Value)) :
    Value.entriesToObj lib entries = entries.map fun e => (e.1.toPyKey, e.2.toObj lib) := by
  induction entries with
  | nil => rfl
  | cons e es ih =>
      unfold Value.entriesToObj Value.entryToObj
      rw [ih, List.map_cons]

variable {lib}

/-- The items of a list stand for the items of its value. -/
theorem PyObj.itemsToValue_iff {items : List PyObj} {ws : List Value} :
    PyObj.itemsToValue lib items = some ws ↔
      List.Forall₂ (fun v w => v.toValue lib = some w) items ws := by
  induction items generalizing ws with
  | nil =>
      rw [List.forall₂_nil_left_iff]
      unfold PyObj.itemsToValue
      rw [Option.some_inj, eq_comm]
  | cons v vs ih =>
      unfold PyObj.itemsToValue
      simp only [Option.bind_eq_bind, Option.bind_eq_some_iff, Option.pure_def,
        List.forall₂_cons_left_iff, Option.some_inj]
      constructor
      · intro h
        obtain ⟨w, hw, ws', hws, heq⟩ := h
        exact ⟨w, ws', hw, ih.mp hws, heq.symm⟩
      · intro h
        obtain ⟨w, ws', hw, hws, heq⟩ := h
        exact ⟨w, hw, ws', ih.mpr hws, heq.symm⟩

/-- A dict decodes to the entries that its own entries decode to, in their order. -/
theorem PyObj.entriesToValue_iff {entries : List (PyKey × PyObj)} {ws : List (Key × Value)} :
    PyObj.entriesToValue lib entries = some ws ↔
      List.Forall₂ (fun e w => e.1.toKey = some w.1 ∧ e.2.toValue lib = some w.2) entries ws := by
  induction entries generalizing ws with
  | nil =>
      rw [List.forall₂_nil_left_iff]
      unfold PyObj.entriesToValue
      rw [Option.some_inj, eq_comm]
  | cons e es ih =>
      unfold PyObj.entriesToValue PyObj.entryToValue
      simp only [Option.bind_eq_bind, Option.bind_eq_some_iff, Option.pure_def,
        List.forall₂_cons_left_iff, Option.some_inj]
      constructor
      · intro h
        obtain ⟨w, ⟨k, hk, x, hx, hpair⟩, ws', hws, heq⟩ := h
        subst hpair
        exact ⟨(k, x), ws', ⟨hk, hx⟩, ih.mp hws, heq.symm⟩
      · intro h
        obtain ⟨w, ws', ⟨hk, hx⟩, hws, heq⟩ := h
        exact ⟨w, ⟨w.1, hk, w.2, hx, rfl⟩, ws', ih.mpr hws, heq.symm⟩

/-- A key a mapping can have after decoding is that key as an object. -/
theorem PyKey.toKey_eq_some {k : PyKey} {key : Key} (h : k.toKey = some key) :
    k = key.toPyKey := by
  cases k with
  | str s => rw [← Option.some_inj.mp h]; rfl
  | bytes b => rw [← Option.some_inj.mp h]; rfl
  | none => exact absurd h (by simp [PyKey.toKey])
  | bool b => exact absurd h (by simp [PyKey.toKey])
  | int i => exact absurd h (by simp [PyKey.toKey])
  | float x => exact absurd h (by simp [PyKey.toKey])
  | generic d b => exact absurd h (by simp [PyKey.toKey])

end OvenRuntime
