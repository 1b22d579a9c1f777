/-
  OvenRuntime.Common.Wire
  ───────────────────────
  The binary frames of the inference transport: MessagePack with one extension
  for arrays.  The encoder and the decoder keep the guards of the source, each
  in its place.
-/
import OvenRuntime.Common.PyObject

namespace OvenRuntime

/-! ## §1. MessagePack. -/

/-- A native MessagePack value; an extension carries an application code.
Timestamps, which no frame of the runtime contains, are not among them. -/
inductive Native where
  | nil
  | bool (b : Bool)
  | int (i : Int)
  | float (x : PyFloat)
  | str (s : PyStr)
  | bin (b : List UInt8)
  | array (items : List Native)
  | map (entries : List (Native × Native))
  | ext (code : Nat) (body : List UInt8)

mutual

/-- A lower bound on the bytes a value takes: one for every header, and the
contents. -/
def Native.weight : Native → Nat
  | .nil | .bool _ | .int _ | .float _ => 1
  | .str s => (utf8Bytes s).length + 1
  | .bin b => b.length + 1
  | .array items => Native.itemsWeight items + 1
  | .map entries => Native.entriesWeight entries + 1
  | .ext _ body => body.length + 1

def Native.itemsWeight : List Native → Nat
  | [] => 0
  | n :: ns => Native.weight n + Native.itemsWeight ns

def Native.entriesWeight : List (Native × Native) → Nat
  | [] => 0
  | e :: es => Native.entryWeight e + Native.entriesWeight es

def Native.entryWeight : Native × Native → Nat
  | (k, v) => Native.weight k + Native.weight v

end

mutual

/-- Integers fit 64 bits and strings have a UTF-8 encoding. -/
def Native.Packable : Native → Prop
  | .nil | .bool _ | .float _ | .bin _ | .ext _ _ => True
  | .int i => -2 ^ 63 ≤ i ∧ i < 2 ^ 64
  | .str s => PyStr.encodable s = true
  | .array items => Native.ItemsPackable items
  | .map entries => Native.EntriesPackable entries

def Native.ItemsPackable : List Native → Prop
  | [] => True
  | n :: ns => Native.Packable n ∧ Native.ItemsPackable ns

def Native.EntriesPackable : List (Native × Native) → Prop
  | [] => True
  | e :: es => Native.EntryPackable e ∧ Native.EntriesPackable es

def Native.EntryPackable : Native × Native → Prop
  | (k, v) => Native.Packable k ∧ Native.Packable v

end

mutual

/-- A value can be tested for this. -/
def Native.decidePackable : (n : Native) → Decidable n.Packable
  | .nil => .isTrue trivial
  | .bool _ => .isTrue trivial
  | .float _ => .isTrue trivial
  | .bin _ => .isTrue trivial
  | .ext _ _ => .isTrue trivial
  | .int i => inferInstanceAs (Decidable (-2 ^ 63 ≤ i ∧ i < 2 ^ 64))
  | .str s => inferInstanceAs (Decidable (PyStr.encodable s = true))
  | .array items => Native.decideItems items
  | .map entries => Native.decideEntries entries

def Native.decideItems : (ns : List Native) → Decidable (Native.ItemsPackable ns)
  | [] => .isTrue trivial
  | n :: ns => @instDecidableAnd _ _ (Native.decidePackable n) (Native.decideItems ns)

def Native.decideEntries : (es : List (Native × Native)) → Decidable (Native.EntriesPackable es)
  | [] => .isTrue trivial
  | e :: es => @instDecidableAnd _ _ (Native.decideEntry e) (Native.decideEntries es)

def Native.decideEntry : (e : Native × Native) → Decidable (Native.EntryPackable e)
  | (k, v) => @instDecidableAnd _ _ (Native.decidePackable k) (Native.decidePackable v)

end

instance : DecidablePred Native.Packable := Native.decidePackable

/-- The `msgpack` package on native values. -/
structure MessagePack where
  /-- `msgpack.packb(value, use_bin_type=True)`. -/
  packb : Native → Except PyError (List UInt8)
  /-- `msgpack.unpackb(frame, raw=False)`, before hooks and key checks. -/
  unpackb : List UInt8 → Except PyError Native
  /-- What was packed unpacks to itself. -/
  round_trip : ∀ n b, packb n = .ok b → unpackb b = .ok n
  /-- Payloads stand in the frame as they are, each behind a header. -/
  weight_le : ∀ n b, packb n = .ok b → n.weight ≤ b.length
  /-- What cannot be represented is not packed. -/
  packable : ∀ n b, packb n = .ok b → n.Packable

/-! ## §2. Encoding. -/

def NDARRAY_EXT_CODE : Nat := 42
def MAX_FRAME_BYTES : Nat := 64 * 1024 * 1024
def MAX_ARRAY_DIMENSIONS : Nat := 16

variable (lib : Library) (mp : MessagePack)

/-- The envelope of an array. -/
def envelope (dtype : PyStr) (shape : List Nat) (data : List UInt8) : Native :=
  .map [(.str (py "dtype"), .str dtype),
    (.str (py "shape"), .array (shape.map fun (n : Nat) => .int n)),
    (.str (py "data"), .bin data)]

/-- `_encode_extension` for an array; a NumPy scalar comes as `np.asarray` of
it, anything else raises `TypeError` before. -/
def _encode_extension (value : StridedArray) : Except PyError Native :=
  if lib.hasobject value.dtype || lib.fields value.dtype || lib.subdtype value.dtype then
    .error .TypeError
  else do
    let contiguous := if value.c_contiguous lib then value else ascontiguousarray lib value
    let body ← mp.packb (envelope (lib.str contiguous.dtype) contiguous.shape
      (contiguous.tobytes lib))
    return .ext NDARRAY_EXT_CODE body

/-- A mapping key as the packer sees it. -/
def PyKey.toNative : PyKey → Except PyError Native
  | .str s => .ok (.str s)
  | .bytes b => .ok (.bin b)
  | .none => .ok .nil
  | .bool b => .ok (.bool b)
  | .int i => .ok (.int i)
  | .float x => .ok (.float x)
  | .generic d b => _encode_extension lib mp (asarray lib d b)

mutual

/-- An object as the packer sees it with `strict_types`: exact builtin types,
everything else through `_encode_extension`. -/
def PyObj.toNative : PyObj → Except PyError Native
  | .none => .ok .nil
  | .bool b => .ok (.bool b)
  | .int i => .ok (.int i)
  | .float x => .ok (.float x)
  | .str s => .ok (.str s)
  | .bytes b => .ok (.bin b)
  | .list items => (PyObj.itemsToNative items).map .array
  | .tuple _ => .error .TypeError
  | .dict entries => (PyObj.entriesToNative entries).map .map
  | .ndarray a => _encode_extension lib mp a
  | .generic d b => _encode_extension lib mp (asarray lib d b)

def PyObj.itemsToNative : List PyObj → Except PyError (List Native)
  | [] => .ok []
  | v :: vs => do
      let n ← PyObj.toNative v
      let ns ← PyObj.itemsToNative vs
      return n :: ns

def PyObj.entriesToNative : List (PyKey × PyObj) → Except PyError (List (Native × Native))
  | [] => .ok []
  | e :: es => do
      let n ← PyObj.entryToNative e
      let ns ← PyObj.entriesToNative es
      return n :: ns

def PyObj.entryToNative : PyKey × PyObj → Except PyError (Native × Native)
  | (k, v) => do
      let key ← k.toNative lib mp
      let n ← PyObj.toNative v
      return (key, n)

end

/-- `isinstance(exc, (TypeError, ValueError, OverflowError))`. -/
def PyError.isPackError : PyError → Bool
  | .TypeError | .ValueError | .UnicodeEncodeError | .OverflowError => true
  | _ => false

/-- `isinstance(exc, (TypeError, ValueError, msgpack.UnpackException))`; the
exceptions of the unpacker are `ValueError`s. -/
def PyError.isUnpackError : PyError → Bool
  | .TypeError | .ValueError | .UnicodeEncodeError => true
  | _ => false

/-- `msgpack.packb(value, default=_encode_extension, ...)`. -/
def packObject (v : PyObj) : Except PyError (List UInt8) := do
  let n ← v.toNative lib mp
  mp.packb n

/-- `0 < max_bytes <= MAX_FRAME_BYTES`. -/
def limitAccepted (max_bytes : Int) : Bool := 0 < max_bytes && max_bytes ≤ MAX_FRAME_BYTES

/-- `pack_message`. -/
def pack_message (value : PyObj) (max_bytes : Int) : Except Exn (List UInt8) :=
  if limitAccepted max_bytes then
    match packObject lib mp value with
    | .error e =>
        if e.isPackError then
          .error (fault .FRAME_DECODE_FAILED "message cannot be encoded as safe MessagePack")
        else .error (.error e)
    | .ok packed =>
        if max_bytes < packed.length then
          .error (fault .FRAME_TOO_LARGE "binary frame exceeds the configured size limit")
        else .ok packed
  else .error (.error .ValueError)

/-! ## §3. Decoding. -/

/-- `d[key] = value`. -/
def Dict.setItem (d : Dict) (key : Key) (value : Value) : Dict :=
  if key ∈ d.keys then d.map fun e => if e.1 = key then (key, value) else e
  else d ++ [(key, value)]

/-- The dict an unpacked mapping becomes. -/
def Dict.ofEntries (entries : List (Key × Value)) : Dict :=
  entries.foldl (fun d e => d.setItem e.1 e.2) []

/-- `strict_map_key`. -/
def Value.mapKey : Value → Except Exn Key
  | .str s => .ok (.str s)
  | .bytes b => .ok (.bytes b)
  | _ => .error (.error .ValueError)

mutual

/-- The object an unpacked value becomes, `hook` handling the extensions. -/
def Native.decode (hook : Nat → List UInt8 → Except Exn Value) : Native → Except Exn Value
  | .nil => .ok .none
  | .bool b => .ok (.bool b)
  | .int i => .ok (.int i)
  | .float x => .ok (.float x)
  | .str s => .ok (.str s)
  | .bin b => .ok (.bytes b)
  | .array items => (Native.decodeItems hook items).map .list
  | .map entries => (Native.decodeEntries hook entries).map fun es => .map (Dict.ofEntries es)
  | .ext code body => hook code body

def Native.decodeItems (hook : Nat → List UInt8 → Except Exn Value) :
    List Native → Except Exn (List Value)
  | [] => .ok []
  | n :: ns => do
      let v ← Native.decode hook n
      let vs ← Native.decodeItems hook ns
      return v :: vs

def Native.decodeEntries (hook : Nat → List UInt8 → Except Exn Value) :
    List (Native × Native) → Except Exn (List (Key × Value))
  | [] => .ok []
  | e :: es => do
      let w ← Native.decodeEntry hook e
      let ws ← Native.decodeEntries hook es
      return w :: ws

def Native.decodeEntry (hook : Nat → List UInt8 → Except Exn Value) :
    Native × Native → Except Exn (Key × Value)
  | (k, n) => do
      let key ← Native.decode hook k
      let key ← key.mapKey
      let v ← Native.decode hook n
      return (key, v)

end

/-- `msgpack.unpackb(frame, raw=False, strict_map_key=True, ext_hook=hook)`. -/
def unpackWith (hook : Nat → List UInt8 → Except Exn Value) (frame : List UInt8) :
    Except Exn Value :=
  match mp.unpackb frame with
  | .error e => .error (.error e)
  | .ok n => n.decode hook

/-- `raise ValueError(...)` inside the decoder of arrays. -/
def invalidArray {α : Type} : Except Exn α := .error (.error .ValueError)

/-- One item of a shape: an `int` that is no `bool` and not negative. -/
def Value.dimension : Value → Option Nat
  | .int (.ofNat n) => some n
  | _ => Option.none

/-- The loop over the shape, with the element count so far. -/
def countElements (itemsize : Nat) : Nat → List Nat → Except Exn Nat
  | count, [] => .ok count
  | count, item :: shape =>
      if MAX_FRAME_BYTES < count * item * itemsize then invalidArray
      else countElements itemsize (count * item) shape

/-- `np.frombuffer(data, dtype=dtype).reshape(shape).copy()` on as many bytes
as the shape says.  NumPy takes no extent of 2^63 or more, and no array whose
non-zero extents span as many bytes. -/
def reshape (dtype : PyStr) (shape : List Nat) (data : List UInt8) : Except Exn NdArray :=
  if shape.any fun n => 2 ^ 63 ≤ n then .error (.error .OverflowError)
  else if 2 ^ 63 ≤ (shape.filter (· ≠ 0)).prod * lib.itemsize dtype then invalidArray
  else .ok { dtype := dtype, shape := shape, data := data }

/-- The checks of `_decode_extension` on the fields of the envelope. -/
def decodeArray (dtype_text : PyStr) (shape : List Value) (data : List UInt8) :
    Except Exn NdArray :=
  if MAX_ARRAY_DIMENSIONS < shape.length then invalidArray
  else
    match shape.mapM Value.dimension with
    | none => invalidArray
    | some dims =>
        match lib.dtype dtype_text with
        | .error e => .error (.error e)
        | .ok dtype =>
            if lib.hasobject dtype || lib.fields dtype || lib.subdtype dtype
                || !SAFE_KINDS.contains (lib.kind dtype) then invalidArray
            else do
              let element_count ← countElements (lib.itemsize dtype) 1 dims
              if element_count * lib.itemsize dtype ≠ data.length then invalidArray
              else reshape lib dtype dims data

/-- The names in an envelope. -/
def ENVELOPE_FIELDS : List Key := [.str (py "dtype"), .str (py "shape"), .str (py "data")]

/-- The keys are exactly those of an envelope. -/
def isEnvelope (entries : Dict) : Bool :=
  entries.keys.all (ENVELOPE_FIELDS.contains ·) && ENVELOPE_FIELDS.all (entries.keys.contains ·)

/-- The body of `_decode_extension`.  An extension inside the envelope stays an
opaque object that passes none of the checks; `None` stands for it. -/
def decodeEnvelope (body : List UInt8) : Except Exn NdArray :=
  match unpackWith mp (fun _ _ => .ok .none) body with
  | .error e => .error e
  | .ok (.map entries) =>
      if isEnvelope entries then
        match Dict.get? entries "dtype", Dict.get? entries "shape", Dict.get? entries "data" with
        | some (.str dtype_text), some (.list shape), some (.bytes data) =>
            decodeArray lib dtype_text shape data
        | _, _, _ => invalidArray
      else invalidArray
  | .ok _ => invalidArray

/-- `_decode_extension`. -/
def _decode_extension (code : Nat) (body : List UInt8) : Except Exn Value :=
  if code ≠ NDARRAY_EXT_CODE then
    .error (fault .FRAME_DECODE_FAILED "binary frame contains an unsupported extension")
  else
    match decodeEnvelope lib mp body with
    | .ok a => .ok (.ndarray a)
    | .error (.fault f) => .error (.fault f)
    | .error (.error e) =>
        if e.isUnpackError then
          .error (fault .FRAME_DECODE_FAILED "invalid NumPy array in binary frame")
        else .error (.error e)

/-- `unpack_message`.  An exception raised by the extension hook is not wrapped
by the unpacker, so a `RuntimeError` has no cause. -/
def unpack_message (frame : PyObj) (max_bytes : Int) : Except Exn Value :=
  if limitAccepted max_bytes then
    match frame with
    | .bytes b =>
        if max_bytes < b.length then
          .error (fault .FRAME_TOO_LARGE "binary frame exceeds the configured size limit")
        else
          match unpackWith mp (_decode_extension lib mp) b with
          | .ok v => .ok v
          | .error (.fault f) => .error (.fault f)
          | .error (.error e) =>
              if e.isUnpackError then
                .error (fault .FRAME_DECODE_FAILED "binary frame is not valid MessagePack")
              else .error (.error e)
    | _ =>
        .error (fault .FRAME_TYPE_REJECTED "inference transport accepts binary frames only")
  else .error (.error .ValueError)

end OvenRuntime
