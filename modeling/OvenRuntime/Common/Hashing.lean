/-
  OvenRuntime.Common.Hashing
  ──────────────────────────
  `stable_tree_hash`: the walk that feeds the digest, and the tree it feeds to
  it.  The bytes are the frames of that tree (`walk_eq`), so what the hash
  separates is a matter of trees and frames alone.
-/
import OvenRuntime.Common.PyObject
import OvenRuntime.Common.Protocol
import OvenRuntime.Lib.PathTree

namespace OvenRuntime

open Framing PathTree

variable (lib : Library)

/-! ## §1. The walk. -/

/-- `_framed`: what one call adds to the digest. -/
def _framed (label : PyStr) (payload : List UInt8) : Except PyError (List UInt8) := do
  let label_bytes ← encode_utf8 label
  let label_length ← to_bytes label_bytes.length 4
  let payload_length ← to_bytes payload.length 8
  return label_length ++ label_bytes ++ payload_length ++ payload

/-- `str(key)`. -/
def PyKey.text : PyKey → PyStr
  | .str s => s
  | .bytes b => bytes_repr b
  | .none => py "None"
  | .bool b => py (if b then "True" else "False")
  | .int i => pyInt i
  | .float x => lib.float_repr x
  | .generic d b => lib.scalar_str d b

/-- The order of `sorted(item, key=str)`. -/
def textLe {α : Type} (a b : PyStr × α) : Prop := lexLe (fun x y => decide (x < y)) a.1 b.1 = true

instance {α : Type} : DecidableRel (textLe (α := α)) :=
  fun a b => inferInstanceAs (Decidable (lexLe (fun x y => decide (x < y)) a.1 b.1 = true))

/-- The entries of a mapping in the order of their texts. -/
def sortByText {α : Type} (entries : List (PyStr × α)) : List (PyStr × α) :=
  entries.insertionSort textLe

/-- The outputs of several calls, up to the first that raises. -/
def concatOk : List (Except PyError (List UInt8)) → Except PyError (List UInt8)
  | [] => .ok []
  | r :: rs => do
      let a ← r
      let b ← concatOk rs
      return a ++ b

/-- The payload of a scalar, from its type's name and its JSON text. -/
def scalarPayload (name : PyStr) (text : Except PyError PyStr) : Except PyError (List UInt8) := do
  let payload ← encode_utf8 (← text)
  return asciiBytes (py "scalar:" ++ name ++ py ":") ++ payload

/-- The payload of an array. -/
def arrayPayload (a : NdArray) : Except PyError (List UInt8) := do
  let metadata ← encode_ascii (arrayMetadata a.dtype a.shape)
  return asciiBytes (py "array:") ++ metadata ++ asciiBytes (py ":") ++ a.data

/-- The dtype of `np.float64`, the NumPy scalar that is a `float`. -/
def FLOAT64 : PyStr := py "float64"

/-- The kinds of `np.str_` and `np.bytes_`. -/
def KIND_STR : CodePoint := 85
def KIND_BYTES : CodePoint := 83

mutual

/-- `walk`. -/
def walk : PyObj → PyStr → Except PyError (List UInt8)
  | .dict entries, path => do
      let head ← _framed path (asciiBytes (py "mapping"))
      let body ← concatOk ((sortByText (walkEntries entries path)).map Prod.snd)
      return head ++ body
  | .list items, path => do
      let head ← _framed path (asciiBytes (py "sequence:" ++ pyNat items.length))
      let body ← walkItems items path 0
      return head ++ body
  | .tuple items, path => do
      let head ← _framed path (asciiBytes (py "sequence:" ++ pyNat items.length))
      let body ← walkItems items path 0
      return head ++ body
  | .bytes b, path => _framed path (asciiBytes (py "bytes:") ++ b)
  | .none, path => do _framed path (← scalarPayload (py "NoneType") (.ok (py "null")))
  | .bool b, path => do
      _framed path (← scalarPayload (py "bool") (.ok (py (if b then "true" else "false"))))
  | .int i, path => do _framed path (← scalarPayload (py "int") (jsonInt i))
  | .float x, path => do _framed path (← scalarPayload (py "float") (jsonFloat lib x))
  | .str s, path => do _framed path (← scalarPayload (py "str") (.ok (jsonString false s)))
  | .ndarray a, path => do
      _framed path (← arrayPayload ((ascontiguousarray lib a).view lib))
  | .generic d b, path =>
      -- the scalars that are a `bytes`, a `str` or a `float` take those branches
      if lib.kind d = KIND_BYTES then
        _framed path (asciiBytes (py "bytes:") ++ lib.bytes_value d b)
      else if lib.kind d = KIND_STR then do
        _framed path (← scalarPayload (py "str_") (.ok (jsonString false (lib.str_value d b))))
      else if d = FLOAT64 then do
        _framed path (← scalarPayload FLOAT64 (jsonFloat lib (lib.float_value b)))
      else do
        _framed path (← arrayPayload ((ascontiguousarray lib (asarray lib d b)).view lib))

/-- The loop over a sequence, from index `i` on. -/
def walkItems : List PyObj → PyStr → Nat → Except PyError (List UInt8)
  | [], _, _ => .ok []
  | v :: vs, path, i => do
      let a ← walk v (path ++ py "/" ++ pyNat i)
      let b ← walkItems vs path (i + 1)
      return a ++ b

/-- The outcomes for the entries of a mapping, each with the text of its key. -/
def walkEntries : List (PyKey × PyObj) → PyStr →
    List (PyStr × Except PyError (List UInt8))
  | [], _ => []
  | e :: es, path => walkEntry e path :: walkEntries es path

def walkEntry : PyKey × PyObj → PyStr → PyStr × Except PyError (List UInt8)
  | (k, v), path => (k.text lib, walk v (path ++ py "/" ++ k.text lib))

end

/-- The bytes fed to the digest. -/
def hashStream (v : PyObj) : Except PyError (List UInt8) := walk lib v (py "root")

/-- `stable_tree_hash`. -/
def stable_tree_hash (sha256 : List UInt8 → Digest) (v : PyObj) : Except PyError Digest :=
  (hashStream lib v).map sha256

/-! ## §2. The tree of an object. -/

/-- What the hash sees of a leaf. -/
inductive Leaf where
  | bytes (b : List UInt8)
  | scalar (name : PyStr) (text : Except PyError PyStr)
  | array (a : NdArray)

/-- A tree as the hash reads it: mapping entries in the order of their keys,
lists and tuples alike. -/
abbrev HashTree := PathTree.Tree CodePoint Leaf

/-- The leaf of a NumPy scalar. -/
def genericLeaf (d : PyStr) (b : List UInt8) : Leaf :=
  if lib.kind d = KIND_BYTES then .bytes (lib.bytes_value d b)
  else if lib.kind d = KIND_STR then
    .scalar (py "str_") (.ok (jsonString false (lib.str_value d b)))
  else if d = FLOAT64 then .scalar FLOAT64 (jsonFloat lib (lib.float_value b))
  else .array ((asarray lib d b).view lib)

mutual

/-- The tree of an object. -/
def PyObj.tree : PyObj → HashTree
  | .none => .leaf (.scalar (py "NoneType") (.ok (py "null")))
  | .bool b => .leaf (.scalar (py "bool") (.ok (py (if b then "true" else "false"))))
  | .int i => .leaf (.scalar (py "int") (jsonInt i))
  | .float x => .leaf (.scalar (py "float") (jsonFloat lib x))
  | .str s => .leaf (.scalar (py "str") (.ok (jsonString false s)))
  | .bytes b => .leaf (.bytes b)
  | .list items => .seq (PyObj.itemTrees items)
  | .tuple items => .seq (PyObj.itemTrees items)
  | .dict entries => .map (sortByText (PyObj.entryTrees entries))
  | .ndarray a => .leaf (.array (a.view lib))
  | .generic d b => .leaf (genericLeaf lib d b)

def PyObj.itemTrees : List PyObj → List HashTree
  | [] => []
  | v :: vs => PyObj.tree v :: PyObj.itemTrees vs

def PyObj.entryTrees : List (PyKey × PyObj) → List (PyStr × HashTree)
  | [] => []
  | e :: es => PyObj.entryTree e :: PyObj.entryTrees es

def PyObj.entryTree : PyKey × PyObj → PyStr × HashTree
  | (k, v) => (k.text lib, PyObj.tree v)

end

theorem PyObj.itemTrees_eq (items : List PyObj) :
    PyObj.itemTrees lib items = items.map (PyObj.tree lib) := by
  induction items with
  | nil => rfl
  | cons v vs ih =>
      unfold PyObj.itemTrees
      rw [ih, List.map_cons]

theorem PyObj.entryTrees_eq (entries : List (PyKey × PyObj)) :
    PyObj.entryTrees lib entries = entries.map fun e => (e.1.text lib, e.2.tree lib) := by
  induction entries with
  | nil => rfl
  | cons e es ih =>
      unfold PyObj.entryTrees PyObj.entryTree
      rw [ih, List.map_cons]

/-- The separator of a path. -/
def slash : CodePoint := 47

/-- The payload of a frame.  `np.ascontiguousarray` gives an array without
dimensions the shape `(1,)`. -/
def headPayload : Head Leaf → Except PyError (List UInt8)
  | .map => .ok (asciiBytes (py "mapping"))
  | .seq n => .ok (asciiBytes (py "sequence:" ++ pyNat n))
  | .leaf (.bytes b) => .ok (asciiBytes (py "bytes:") ++ b)
  | .leaf (.scalar name text) => scalarPayload name text
  | .leaf (.array a) => arrayPayload { a with shape := atLeastOne a.shape }

/-- One frame. -/
def frameBytes (f : PyStr × Head Leaf) : Except PyError (List UInt8) := do
  _framed f.1 (← headPayload f.2)

/-- A listing of frames. -/
def framesBytes (fs : List (PyStr × Head Leaf)) : Except PyError (List UInt8) :=
  concatOk (fs.map frameBytes)

/-! ## §3. The walk lists the tree. -/

theorem concatOk_cons (r : Except PyError (List UInt8))
    (rs : List (Except PyError (List UInt8))) :
    concatOk (r :: rs) = (do
      let a ← r
      let b ← concatOk rs
      return a ++ b) := rfl

theorem concatOk_append (rs rs' : List (Except PyError (List UInt8))) :
    concatOk (rs ++ rs') = (do
      let a ← concatOk rs
      let b ← concatOk rs'
      return a ++ b) := by
  induction rs with
  | nil =>
      show concatOk rs' = (concatOk rs').bind fun b => .ok ([] ++ b)
      match concatOk rs' with
      | .ok b => rfl
      | .error e => rfl
  | cons r rs ih =>
      rw [List.cons_append, concatOk_cons, concatOk_cons, ih]
      match r, concatOk rs, concatOk rs' with
      | .error e, _, _ => rfl
      | .ok a, .error e, _ => rfl
      | .ok a, .ok b, .error e => rfl
      | .ok a, .ok b, .ok c =>
          show Except.ok (a ++ (b ++ c)) = Except.ok (a ++ b ++ c)
          rw [List.append_assoc]

theorem framesBytes_append (fs gs : List (PyStr × Head Leaf)) :
    framesBytes (fs ++ gs) = (do
      let a ← framesBytes fs
      let b ← framesBytes gs
      return a ++ b) := by
  unfold framesBytes
  rw [List.map_append, concatOk_append]

theorem framesBytes_cons (f : PyStr × Head Leaf) (fs : List (PyStr × Head Leaf)) :
    framesBytes (f :: fs) = (do
      let a ← frameBytes f
      let b ← framesBytes fs
      return a ++ b) := rfl

theorem framesBytes_singleton (f : PyStr × Head Leaf) : framesBytes [f] = frameBytes f := by
  rw [framesBytes_cons]
  match frameBytes f with
  | .error e => rfl
  | .ok a =>
      show Except.ok (a ++ []) = Except.ok a
      rw [List.append_nil]

/-- Sorting looks at the texts only. -/
theorem sortByText_map {α β : Type} (f : PyStr × α → β) (entries : List (PyStr × α)) :
    sortByText (entries.map fun e => (e.1, f e)) = (sortByText entries).map fun e => (e.1, f e) :=
  (List.map_insertionSort textLe textLe (fun e => (e.1, f e)) entries
    fun _ _ _ _ => Iff.rfl).symm

theorem path_key (path key : PyStr) : path ++ py "/" ++ key = path ++ slash :: key := by
  rw [List.append_assoc]
  rfl

/-- The listing of the entries of a map, one entry after the other. -/
theorem framesBytes_entries (entries : List (PyStr × HashTree)) (path : PyStr) :
    framesBytes (entriesFrames slash pyNat entries path)
      = concatOk (entries.map fun e =>
          framesBytes (frames slash pyNat e.2 (path ++ slash :: e.1))) := by
  rw [entriesFrames_eq]
  induction entries with
  | nil => rfl
  | cons e es ih =>
      rw [List.flatMap_cons, framesBytes_append, ih]
      rfl

/-- The walk over the items of a sequence lists their trees. -/
theorem walkItems_eq {items : List PyObj}
    (ih : ∀ v ∈ items, ∀ path, walk lib v path
      = framesBytes (frames slash pyNat (v.tree lib) path)) (path : PyStr) (i : Nat) :
    walkItems lib items path i
      = framesBytes (itemFrames slash pyNat (PyObj.itemTrees lib items) path i) := by
  induction items generalizing i with
  | nil => rfl
  | cons v vs ihvs =>
      unfold walkItems PyObj.itemTrees itemFrames
      rw [framesBytes_append, path_key, ih v (List.mem_cons_self ..),
        ihvs (fun w hw => ih w (List.mem_cons_of_mem _ hw))]

/-- The walk over the entries of a mapping lists their trees. -/
theorem walkEntries_eq {entries : List (PyKey × PyObj)}
    (ih : ∀ e ∈ entries, ∀ path, walk lib e.2 path
      = framesBytes (frames slash pyNat (e.2.tree lib) path)) (path : PyStr) :
    walkEntries lib entries path
      = (PyObj.entryTrees lib entries).map fun e =>
          (e.1, framesBytes (frames slash pyNat e.2 (path ++ slash :: e.1))) := by
  induction entries with
  | nil => rfl
  | cons e es ihes =>
      unfold walkEntries walkEntry PyObj.entryTrees PyObj.entryTree
      rw [path_key, ih e (List.mem_cons_self ..), List.map_cons,
        ihes fun e' he' => ih e' (List.mem_cons_of_mem _ he')]

/-- A sequence and what it lists. -/
theorem walk_seq {items : List PyObj}
    (ih : ∀ v ∈ items, ∀ path, walk lib v path
      = framesBytes (frames slash pyNat (v.tree lib) path)) (path : PyStr) :
    (do
      let head ← _framed path (asciiBytes (py "sequence:" ++ pyNat items.length))
      let body ← walkItems lib items path 0
      return head ++ body)
      = framesBytes (frames slash pyNat (.seq (PyObj.itemTrees lib items)) path) := by
  unfold frames
  rw [framesBytes_cons, walkItems_eq lib ih, PyObj.itemTrees_eq, List.length_map]
  rfl

/-- **The bytes fed to the digest are the frames of the tree.** -/
theorem walk_eq (v : PyObj) (path : PyStr) :
    walk lib v path = framesBytes (frames slash pyNat (v.tree lib) path) := by
  induction v using PyObj.induct generalizing path with
  | list items ih =>
      unfold walk PyObj.tree
      exact walk_seq lib ih path
  | tuple items ih =>
      unfold walk PyObj.tree
      exact walk_seq lib ih path
  | dict entries ih =>
      unfold walk PyObj.tree frames
      rw [framesBytes_cons, framesBytes_entries, walkEntries_eq lib ih, sortByText_map,
        List.map_map]
      rfl
  | ndarray a =>
      unfold walk PyObj.tree frames
      rw [framesBytes_singleton, view_ascontiguousarray]
      rfl
  | generic d b =>
      unfold walk PyObj.tree frames genericLeaf
      rw [framesBytes_singleton, view_ascontiguousarray]
      split
      · rfl
      · split
        · rfl
        · split
          · rfl
          · rfl
  | none =>
      unfold walk PyObj.tree frames
      rw [framesBytes_singleton]
      rfl
  | bool b =>
      unfold walk PyObj.tree frames
      rw [framesBytes_singleton]
      rfl
  | int i =>
      unfold walk PyObj.tree frames
      rw [framesBytes_singleton]
      rfl
  | float x =>
      unfold walk PyObj.tree frames
      rw [framesBytes_singleton]
      rfl
  | str s =>
      unfold walk PyObj.tree frames
      rw [framesBytes_singleton]
      rfl
  | bytes b =>
      unfold walk PyObj.tree frames
      rw [framesBytes_singleton]
      rfl

theorem hashStream_eq (v : PyObj) :
    hashStream lib v = framesBytes (frames slash pyNat (v.tree lib) (py "root")) :=
  walk_eq lib v _

/-- Objects with one tree have one hash. -/
theorem hashStream_congr {v w : PyObj} (h : v.tree lib = w.tree lib) :
    hashStream lib v = hashStream lib w := by
  rw [hashStream_eq, hashStream_eq, h]

end OvenRuntime
