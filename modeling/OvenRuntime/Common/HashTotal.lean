/-
  OvenRuntime.Common.HashTotal
  ────────────────────────────
  Which values from the wire have a hash.

  Every mapping key, string, integer and array that a frame can deliver is
  hashed without an error.  What is left are the floats, which have to be
  finite, and the nesting, which the interpreter bounds
  (`stable_tree_hash_within_iff`).
-/
import OvenRuntime.Common.HashWire

namespace OvenRuntime

open Framing PathTree

variable {lib : Library}

/-! ## §1. What a frame can deliver. -/

/-- An array as NumPy builds them. -/
structure NdArray.Built (lib : Library) (a : NdArray) : Prop where
  sized : a.Sized lib
  bytes : a.data.length < 2 ^ 63
  dtype : a.dtype.length < 2 ^ 32
  rank : a.shape.length ≤ 64
  extents : ∀ n ∈ a.shape, n < 2 ^ 63

/-- A key that passes `strict_map_key`, with a text that has an encoding. -/
def PyKey.Delivered : PyKey → Prop
  | .str s => PyStr.encodable s = true
  | .bytes _ => True
  | _ => False

/-- What the decoder delivers, at one node.  A timestamp of MessagePack, which
`Native` leaves out, is to the hash the object array that NumPy makes of it. -/
def DeliveredNode (lib : Library) : PyObj → Prop
  | .int i => -2 ^ 63 ≤ i ∧ i < 2 ^ 64
  | .str s => PyStr.encodable s = true
  | .dict entries => ∀ e ∈ entries, e.1.Delivered
  | .ndarray a => (a.view lib).Built lib
  | .tuple _ | .generic _ _ => False
  | .none | .bool _ | .float _ | .bytes _ | .list _ => True

/-- A float, if it is one, is finite. -/
def FiniteNode : PyObj → Prop
  | .float x => x ≠ .posInf ∧ x ≠ .negInf ∧ x ≠ .nan
  | _ => True

/-- A bound on what one key adds to a path. -/
def PyKey.reach : PyKey → Nat
  | .str s => (utf8Bytes s).length + 1
  | .bytes b => b.length + 1
  | _ => 0

mutual

/-- A bound on the texts and on the paths below an object. -/
def PyObj.reach : PyObj → Nat
  | .str s => (utf8Bytes s).length
  | .bytes b => b.length
  | .list items => items.length + PyObj.itemsReach items
  | .tuple items => items.length + PyObj.itemsReach items
  | .dict entries => PyObj.entriesReach entries
  | .none | .bool _ | .int _ | .float _ | .ndarray _ | .generic _ _ => 0

/-- The longest path below the items of a list. -/
def PyObj.itemsReach : List PyObj → Nat
  | [] => 0
  | v :: vs => max (PyObj.reach v) (PyObj.itemsReach vs)

/-- The longest path below the entries of a dict. -/
def PyObj.entriesReach : List (PyKey × PyObj) → Nat
  | [] => 0
  | e :: es => max (PyObj.entryReach e) (PyObj.entriesReach es)

/-- The path below one entry, its key included. -/
def PyObj.entryReach : PyKey × PyObj → Nat
  | (k, v) => k.reach + PyObj.reach v

end

mutual

/-- The calls of `walk` that are nested in one another. -/
def PyObj.depth : PyObj → Nat
  | .list items => PyObj.itemsDepth items + 1
  | .tuple items => PyObj.itemsDepth items + 1
  | .dict entries => PyObj.entriesDepth entries + 1
  | .none | .bool _ | .int _ | .float _ | .str _ | .bytes _ | .ndarray _ | .generic _ _ => 1

/-- The depth of the deepest item. -/
def PyObj.itemsDepth : List PyObj → Nat
  | [] => 0
  | v :: vs => max (PyObj.depth v) (PyObj.itemsDepth vs)

/-- The depth of the deepest entry. -/
def PyObj.entriesDepth : List (PyKey × PyObj) → Nat
  | [] => 0
  | e :: es => max (PyObj.entryDepth e) (PyObj.entriesDepth es)

/-- The depth of the value of one entry. -/
def PyObj.entryDepth : PyKey × PyObj → Nat
  | (_, v) => PyObj.depth v

end

/-- An entry reaches no further than all of them. -/
theorem PyObj.reach_le_entries {entries : List (PyKey × PyObj)} {e : PyKey × PyObj}
    (h : e ∈ entries) : e.1.reach + e.2.reach ≤ PyObj.entriesReach entries := by
  induction entries with
  | nil => exact absurd h (List.not_mem_nil)
  | cons w ws ih =>
      unfold PyObj.entriesReach
      rcases List.mem_cons.mp h with rfl | h
      · unfold PyObj.entryReach
        omega
      · have := ih h
        omega

/-- `stable_tree_hash` where `limit` calls of `walk` may be nested before the
interpreter's recursion limit.  Which of two errors comes first is left out:
the callers tell neither from the other. -/
def stable_tree_hash_within (lib : Library) (sha256 : List UInt8 → Digest) (limit : Nat)
    (v : PyObj) : Except PyError Digest :=
  if v.depth ≤ limit then stable_tree_hash lib sha256 v else .error .RuntimeError

/-! ## §2. Payloads. -/

/-- Escaped characters are ASCII, whatever they stand for. -/
theorem isAscii_jsonChar (c : CodePoint) : (jsonChar true c).isAscii = true := by
  have hdigit : ∀ n, n < 16 → (hexDigit n).val < 128 := by decide
  have hescape : ∀ n, (unicodeEscape n).isAscii = true := by
    intro n
    unfold unicodeEscape
    rw [PyStr.isAscii_append, Bool.and_eq_true]
    refine ⟨by decide, ?_⟩
    unfold PyStr.isAscii
    simp [hdigit _ (Nat.mod_lt _ (by decide))]
  unfold jsonChar
  repeat' split
  all_goals
    first
    | decide
    | exact hescape _
    | rw [PyStr.isAscii_append, hescape, hescape]; rfl
    | skip
  -- a character that stands as it is
  rename_i hascii
  unfold PyStr.isAscii
  rw [List.all_cons, List.all_nil, Bool.and_true]
  simp only [Bool.true_and, decide_eq_true_eq] at hascii ⊢
  omega

/-- So is an escaped text. -/
theorem isAscii_jsonString (s : PyStr) : (jsonString true s).isAscii = true := by
  unfold jsonString
  rw [PyStr.isAscii_append, PyStr.isAscii_append, Bool.and_eq_true, Bool.and_eq_true]
  refine ⟨⟨by decide, ?_⟩, by decide⟩
  unfold PyStr.isAscii
  rw [List.all_flatMap, List.all_eq_true]
  intro c _
  exact isAscii_jsonChar c

/-- So are numbers with commas between them. -/
theorem isAscii_joinNats (ns : List Nat) : (joinNats ns).isAscii = true := by
  unfold PyStr.isAscii
  rw [List.all_eq_true]
  intro c hc
  rcases mem_joinNats hc with hdigit | rfl
  · simp only [CodePoint.isDigit, Bool.and_eq_true, decide_eq_true_eq] at hdigit
    exact decide_eq_true (by omega)
  · decide

/-- The payload of an array: the metadata is ASCII, whatever the dtype. -/
theorem arrayPayload_built {a : NdArray} (h : a.Built lib) :
    ∃ p, headPayload (.leaf (.array a)) = .ok p ∧ p.length < 256 ^ 8 := by
  have hshape : (∀ n ∈ atLeastOne a.shape, n < 2 ^ 63) ∧ (atLeastOne a.shape).length ≤ 64 := by
    unfold atLeastOne
    split
    · exact ⟨by decide, by decide⟩
    · exact ⟨h.extents, h.rank⟩
  have hascii : (arrayMetadata a.dtype (atLeastOne a.shape)).isAscii = true := by
    unfold arrayMetadata
    simp only [PyStr.isAscii_append, isAscii_jsonString, isAscii_joinNats]
    decide
  refine ⟨_, arrayPayload_ok.mpr ⟨hascii, rfl⟩, ?_⟩
  have hmeta : (arrayMetadata a.dtype (atLeastOne a.shape)).length ≤ 12 * a.dtype.length + 2000 := by
    have hjoin := length_joinNats_le hshape.1
    have hdtype := length_jsonString_le true a.dtype
    unfold arrayMetadata
    simp only [List.length_append]
    have h₁ : (py "\x7b\"dtype\":").length = 9 := rfl
    have h₂ : (py ",\"shape\":[").length = 10 := rfl
    have h₃ : (py "]\x7d").length = 2 := rfl
    omega
  have hbytes := h.bytes
  have hdtype := h.dtype
  have h₅ : (py "array:").length = 6 := rfl
  have h₆ : (py ":").length = 1 := rfl
  rw [List.length_append, length_asciiBytes, List.length_append, List.length_append]
  show 6 + (arrayMetadata a.dtype (atLeastOne a.shape)).length + 1 + a.data.length < 256 ^ 8
  omega

/-- `allow_nan=False` refuses the infinities and NaN, and no other float. -/
theorem jsonFloat_ok {x : PyFloat} :
    (∃ t, jsonFloat lib x = .ok t) ↔ x ≠ .posInf ∧ x ≠ .negInf ∧ x ≠ .nan := by
  cases x <;> simp [jsonFloat]

/-- The text of a float is a `repr` of a float. -/
theorem jsonFloat_text {x : PyFloat} {t : PyStr} (h : jsonFloat lib x = .ok t) :
    ∃ y, t = lib.float_repr y := by
  cases x with
  | fin q => exact ⟨_, (Except.ok.inj h).symm⟩
  | negZero => exact ⟨_, (Except.ok.inj h).symm⟩
  | posInf | negInf | nan => cases h

/-- A byte prints in at most four characters, all of them ASCII. -/
theorem reprByte_short {quote : Nat} (hquote : quote < 128) (b : UInt8) :
    PyStr.isAscii (reprByte quote b) = true ∧ (reprByte quote b).length ≤ 4 := by
  have hdigit : ∀ n, n < 16 → (hexDigit n).val < 128 := by decide
  have hbyte : b.toNat < 256 := b.toNat_lt
  have hplain : ∀ n, n < 128 → ((Fin.ofNat 0x110000 n).val < 128) := by
    intro n hn
    rw [Fin.val_ofNat, Nat.mod_eq_of_lt (by omega)]
    exact hn
  unfold reprByte
  simp only
  split
  · refine ⟨?_, show 2 ≤ 4 by decide⟩
    rw [PyStr.isAscii_append, Bool.and_eq_true]
    refine ⟨by decide, ?_⟩
    unfold PyStr.isAscii
    rw [List.all_cons, List.all_nil, Bool.and_true]
    exact decide_eq_true (hplain _ (by omega))
  split
  · decide
  split
  · decide
  split
  · decide
  split
  · refine ⟨?_, show 4 ≤ 4 by decide⟩
    rw [PyStr.isAscii_append, Bool.and_eq_true]
    refine ⟨by decide, ?_⟩
    unfold PyStr.isAscii
    simp [hdigit _ (show b.toNat / 16 < 16 by omega), hdigit _ (Nat.mod_lt b.toNat (by decide))]
  · refine ⟨?_, by simp⟩
    unfold PyStr.isAscii
    rw [List.all_cons, List.all_nil, Bool.and_true]
    exact decide_eq_true (hplain _ (by omega))

/-- A `repr` of bytes is ASCII, with at most four characters for a byte. -/
theorem bytes_repr_short (b : List UInt8) :
    PyStr.isAscii (bytes_repr b) = true ∧ (bytes_repr b).length ≤ 4 * b.length + 3 := by
  have hbody : ∀ quote < 128, PyStr.isAscii (b.flatMap (reprByte quote)) = true ∧
      (b.flatMap (reprByte quote)).length ≤ 4 * b.length := by
    intro quote hquote
    induction b with
    | nil => exact ⟨rfl, Nat.le_refl 0⟩
    | cons c cs ih =>
        obtain ⟨hascii, hlen⟩ := reprByte_short hquote c
        rw [List.flatMap_cons, PyStr.isAscii_append, hascii, ih.1, List.length_append,
          List.length_cons]
        exact ⟨rfl, by omega⟩
  have hquoted : ∀ quote < 128, ∀ body : PyStr, body.isAscii = true →
      PyStr.isAscii (py "b" ++ [Fin.ofNat 0x110000 quote] ++ body ++ [Fin.ofNat 0x110000 quote])
        = true := by
    intro quote hquote body hbody
    have hmark : PyStr.isAscii [Fin.ofNat 0x110000 quote] = true := by
      unfold PyStr.isAscii
      rw [List.all_cons, List.all_nil, Bool.and_true, Fin.val_ofNat, Nat.mod_eq_of_lt (by omega)]
      exact decide_eq_true hquote
    simp only [PyStr.isAscii_append, hbody, hmark]
    decide
  have hlength : ∀ (quote : CodePoint) (body : PyStr),
      (py "b" ++ [quote] ++ body ++ [quote]).length = body.length + 3 := by
    intro quote body
    have htag : (py "b").length = 1 := rfl
    simp only [List.length_append, List.length_singleton, htag]
    omega
  unfold bytes_repr
  simp only
  split
  · obtain ⟨hascii, hlen⟩ := hbody 34 (by decide)
    exact ⟨hquoted 34 (by decide) _ hascii, by rw [hlength]; omega⟩
  · obtain ⟨hascii, hlen⟩ := hbody 39 (by decide)
    exact ⟨hquoted 39 (by decide) _ hascii, by rw [hlength]; omega⟩

/-! ## §3. The frames of a value. -/

/-- Every frame of the tree is written. -/
def Listed (t : HashTree) (p : PyStr) : Prop :=
  ∀ f ∈ frames slash pyNat t p, ∃ b, frameBytes f = .ok b

/-- A leaf is framed if its path can be encoded, its lengths fit into their fields and its
payload can be made. -/
theorem Listed.leaf {l : Leaf} {p : PyStr} (hp : PyStr.encodable p = true)
    (hlen : (utf8Bytes p).length < 256 ^ 4)
    (hl : ∃ payload, headPayload (.leaf l) = .ok payload ∧ payload.length < 256 ^ 8) :
    Listed (.leaf l) p := by
  intro f hf
  unfold frames at hf
  rw [List.mem_singleton.mp hf]
  obtain ⟨payload, hpayload, hshort⟩ := hl
  exact frameBytes_short hp hlen hpayload hshort

/-- A leaf is its own frame. -/
theorem Listed.payload {l : Leaf} {p : PyStr} (h : Listed (.leaf l) p) :
    ∃ payload, headPayload (.leaf l) = .ok payload := by
  obtain ⟨b, hb⟩ := h (p, .leaf l) (by unfold frames; exact List.mem_singleton_self _)
  obtain ⟨F, hF, -⟩ := frameBytes_ok.mp hb
  exact ⟨_, hF.payload⟩

/-- The items of a sequence are listed one by one. -/
theorem listed_items {items : List PyObj} {p : PyStr} {i : Nat} {P : PyObj → Prop}
    (hp : PyStr.encodable p = true) {k : Nat}
    (hlen : (utf8Bytes p).length + 4 * (i + items.length) + 4 * k < 256 ^ 4)
    (hk : PyObj.itemsReach items ≤ k)
    (ih : ∀ v ∈ items, ∀ q, PyStr.encodable q = true →
      (utf8Bytes q).length + 4 * v.reach < 256 ^ 4 → (Listed (v.tree lib) q ↔ P v)) :
    (∀ f ∈ itemFrames slash pyNat (PyObj.itemTrees lib items) p i, ∃ b, frameBytes f = .ok b) ↔
      ∀ v ∈ items, P v := by
  induction items generalizing i with
  | nil => exact iff_of_true (fun f hf => absurd hf (List.not_mem_nil)) (by simp)
  | cons v vs ihvs =>
      unfold PyObj.itemsReach at hk
      rw [List.length_cons] at hlen
      have hitem := encodable_item hp i
      unfold PyObj.itemTrees itemFrames
      rw [List.forall_mem_append, List.forall_mem_cons]
      refine and_congr ?_ ?_
      · exact ih v (List.mem_cons_self ..) _ hitem.1 (by omega)
      · exact ihvs (by omega) (by omega) fun w hw => ih w (List.mem_cons_of_mem _ hw)

/-- The entries of a mapping are listed one by one, in whatever order. -/
theorem listed_entries {entries : List (PyKey × PyObj)} {p : PyStr} :
    (∀ f ∈ entriesFrames slash pyNat (sortByText (PyObj.entryTrees lib entries)) p,
      ∃ b, frameBytes f = .ok b) ↔
      ∀ e ∈ entries, Listed (e.2.tree lib) (p ++ slash :: e.1.text lib) := by
  have hsorted : ∀ x, x ∈ sortByText (PyObj.entryTrees lib entries) ↔
      ∃ e ∈ entries, (e.1.text lib, e.2.tree lib) = x := by
    intro x
    unfold sortByText
    rw [List.mem_insertionSort, PyObj.entryTrees_eq, List.mem_map]
  rw [entriesFrames_eq]
  constructor
  · intro h e he f hf
    exact h f (List.mem_flatMap.mpr ⟨_, (hsorted _).mpr ⟨e, he, rfl⟩, hf⟩)
  · intro h f hf
    obtain ⟨x, hx, hf⟩ := List.mem_flatMap.mp hf
    obtain ⟨e, he, rfl⟩ := (hsorted x).mp hx
    exact h e he f hf

/-- The path to the value of a key. -/
theorem key_path {p : PyStr} {k : PyKey} (hp : PyStr.encodable p = true) (hk : k.Delivered) :
    PyStr.encodable (p ++ slash :: k.text lib) = true ∧
      (utf8Bytes (p ++ slash :: k.text lib)).length ≤ (utf8Bytes p).length + 4 * k.reach := by
  cases k with
  | str s =>
      have hpath := encodable_key hp hk
      refine ⟨hpath.1, ?_⟩
      show (utf8Bytes (p ++ slash :: s)).length ≤ _ + 4 * ((utf8Bytes s).length + 1)
      omega
  | bytes b =>
      obtain ⟨hascii, hshort⟩ := bytes_repr_short b
      have hpath := encodable_key hp (PyStr.encodable_of_isAscii hascii)
      have hutf8 := length_utf8Bytes_of_isAscii hascii
      refine ⟨hpath.1, ?_⟩
      show (utf8Bytes (p ++ slash :: bytes_repr b)).length ≤ _ + 4 * (b.length + 1)
      omega
  | none | bool | int | float | generic => exact hk.elim

/-- **The frames of a delivered value are written** exactly if its floats are
finite. -/
theorem listed_iff {v : PyObj} (hv : v.All (DeliveredNode lib)) {p : PyStr}
    (hp : PyStr.encodable p = true) (hlen : (utf8Bytes p).length + 4 * v.reach < 256 ^ 4) :
    Listed (v.tree lib) p ↔ v.All FiniteNode := by
  induction v using PyObj.induct generalizing p with
  | none =>
      exact iff_of_true (.leaf hp (by omega) (scalarPayload_short (by decide) (by decide))) trivial
  | bool b =>
      refine iff_of_true (.leaf hp (by omega) ?_) trivial
      cases b with
      | true => exact scalarPayload_short (by decide) (by decide)
      | false => exact scalarPayload_short (by decide) (by decide)
  | int i =>
      obtain ⟨hjson, hascii, hshort⟩ := pyInt_short hv
      refine iff_of_true (.leaf hp (by omega) ?_) trivial
      show ∃ payload, scalarPayload (py "int") (jsonInt i) = .ok payload ∧ _
      rw [hjson]
      apply scalarPayload_short (PyStr.encodable_of_isAscii hascii)
      rw [length_utf8Bytes_of_isAscii hascii]
      have htag : (py "scalar:" ++ py "int" ++ py ":").length = 11 := rfl
      omega
  | float x =>
      show Listed _ p ↔ (x ≠ .posInf ∧ x ≠ .negInf ∧ x ≠ .nan)
      rw [← jsonFloat_ok]
      constructor
      · intro h
        obtain ⟨payload, hpayload⟩ := h.payload
        obtain ⟨t, ht, -⟩ := scalarPayload_ok.mp hpayload
        exact ⟨t, ht⟩
      · intro ⟨t, ht⟩
        refine .leaf hp (by omega) ?_
        obtain ⟨y, rfl⟩ := jsonFloat_text ht
        obtain ⟨hascii, hshort⟩ := lib.float_repr_short y
        show ∃ payload, scalarPayload (py "float") (jsonFloat lib x) = .ok payload ∧ _
        rw [ht]
        apply scalarPayload_short (PyStr.encodable_of_isAscii hascii)
        rw [length_utf8Bytes_of_isAscii hascii]
        have htag : (py "scalar:" ++ py "float" ++ py ":").length = 13 := rfl
        omega
  | str s =>
      refine iff_of_true (.leaf hp (by omega) ?_) trivial
      apply scalarPayload_short (jsonString_encodable hv)
      have hbytes := length_utf8Bytes_le (jsonString false s)
      have hjson := length_jsonString_le false s
      have hchars := length_le_utf8Bytes s
      have htag : (py "scalar:" ++ py "str" ++ py ":").length = 11 := rfl
      have hreach : (PyObj.str s).reach = (utf8Bytes s).length := by unfold PyObj.reach; rfl
      omega
  | bytes b =>
      refine iff_of_true (.leaf hp (by omega) ⟨_, rfl, ?_⟩) trivial
      rw [List.length_append, length_asciiBytes]
      have htag : (py "bytes:").length = 6 := rfl
      have hreach : (PyObj.bytes b).reach = b.length := by unfold PyObj.reach; rfl
      omega
  | ndarray a => exact iff_of_true (.leaf hp (by omega) (arrayPayload_built hv)) trivial
  | generic d b => exact absurd hv (fun h => h)
  | tuple items ih => exact absurd (PyObj.all_tuple.mp hv).1 (fun h => h)
  | list items ih =>
      rw [PyObj.all_list] at hv ⊢
      have hreach : (PyObj.list items).reach = items.length + PyObj.itemsReach items := by
        unfold PyObj.reach
        rfl
      have hlength : items.length ≤ PyObj.reach (.list items) := by omega
      unfold Listed PyObj.tree frames
      rw [List.forall_mem_cons, listed_items hp (by omega) (Nat.le_refl _)
        fun v hv' q hq hql => ih v hv' (hv.2 v hv') hq hql]
      refine and_congr (iff_of_true ?_ trivial) Iff.rfl
      apply frameBytes_short hp (by omega) rfl
      rw [length_asciiBytes, List.length_append, PyObj.itemTrees_eq, List.length_map]
      have hdigits := length_pyNat_le_succ items.length
      have htag : (py "sequence:").length = 9 := rfl
      omega
  | dict entries ih =>
      rw [PyObj.all_dict] at hv ⊢
      have hreach : (PyObj.dict entries).reach = PyObj.entriesReach entries := by
        unfold PyObj.reach
        rfl
      unfold Listed PyObj.tree frames
      rw [List.forall_mem_cons, listed_entries]
      refine and_congr (iff_of_true ?_ trivial) (forall_congr' fun e => forall_congr' fun he => ?_)
      · exact frameBytes_short hp (by omega) rfl (by decide)
      · have hpath := @key_path lib _ _ hp (hv.1 e he)
        have hle := PyObj.reach_le_entries he
        exact ih e he (hv.2 e he) hpath.1 (by omega)

/-! ## §4. The hash. -/

/-- The stream can be made exactly if each of its frames can. -/
theorem framesBytes_ok_iff {fs : List (PyStr × Head Leaf)} :
    (∃ s, framesBytes fs = .ok s) ↔ ∀ f ∈ fs, ∃ b, frameBytes f = .ok b := by
  refine ⟨?_, framesBytes_of_forall⟩
  induction fs with
  | nil => simp
  | cons f fs ih =>
      rintro ⟨s, hs⟩
      rw [framesBytes_cons] at hs
      obtain ⟨b, hb, hs⟩ := bind_ok.mp hs
      obtain ⟨c, hc, -⟩ := bind_ok.mp hs
      rw [List.forall_mem_cons]
      exact ⟨⟨b, hb⟩, ih ⟨c, hc⟩⟩

/-- **Which delivered values have a hash.** -/
theorem stable_tree_hash_within_iff {sha256 : List UInt8 → Digest} {limit : Nat} {v : PyObj}
    (hv : v.All (DeliveredNode lib)) (hreach : v.reach < 2 ^ 29) :
    (∃ d, stable_tree_hash_within lib sha256 limit v = .ok d) ↔
      v.All FiniteNode ∧ v.depth ≤ limit := by
  have hroot : (utf8Bytes (py "root")).length = 4 := by decide
  have hlisted : (∃ d, stable_tree_hash lib sha256 v = .ok d) ↔ v.All FiniteNode := by
    rw [← listed_iff hv (show PyStr.encodable (py "root") = true by decide) (by omega)]
    unfold stable_tree_hash Listed
    rw [hashStream_eq, ← framesBytes_ok_iff]
    constructor
    · rintro ⟨d, hd⟩
      obtain ⟨s, hs, -⟩ := map_ok.mp hd
      exact ⟨s, hs⟩
    · rintro ⟨s, hs⟩
      exact ⟨_, map_ok.mpr ⟨s, hs, rfl⟩⟩
  unfold stable_tree_hash_within
  by_cases hdepth : v.depth ≤ limit
  · rw [if_pos hdepth, hlisted]
    exact ⟨fun h => ⟨h, hdepth⟩, fun h => h.1⟩
  · rw [if_neg hdepth]
    constructor
    · rintro ⟨d, hd⟩
      cases hd
    · exact fun h => absurd h.2 hdepth

end OvenRuntime
