/-
  OvenRuntime.Common.HashWire
  ───────────────────────────
  The hash before the wire and the hash after it.  The decoder delivers a NumPy
  scalar as an array without dimensions.  The hash takes the array branch for
  both, except for an `np.float64`, which is a `float` before the wire: the two
  hashes agree exactly where none occurs (`hash_commutes_iff`).
-/
import OvenRuntime.Common.WireRoundTrip
import OvenRuntime.Common.HashFrames

namespace OvenRuntime

open Framing PathTree

variable {lib : Library} {mp : MessagePack}

/-! ## §1. Objects without an `np.float64`. -/

/-- A node the edge may send: string keys, finite floats, any arrays and NumPy
scalars. -/
def WireNode : PyObj → Prop
  | .dict entries => (∀ e ∈ entries, ∃ s, e.1 = .str s) ∧ (entries.map Prod.fst).Nodup
  | .float x => x ≠ .posInf ∧ x ≠ .negInf ∧ x ≠ .nan
  | .tuple _ => False
  | _ => True

/-- Not an `np.float64`. -/
def NotFloat64 : PyObj → Prop
  | .generic d _ => d ≠ FLOAT64
  | _ => True

theorem WireNode.distinct {v : PyObj} (h : WireNode v) : DistinctKeys v := by
  cases v with
  | dict entries => exact h.2
  | _ => trivial

/-- A decoded array hashes as the array it was. -/
theorem tree_toArray (a : StridedArray) :
    ((Value.ndarray (a.view lib)).toObj lib).tree lib = .leaf (.array (a.view lib)) := by
  show PathTree.Tree.leaf (Leaf.array (((a.view lib).toArray lib).view lib)) = _
  rw [NdArray.view_toArray (a.sized_view lib)]

/-- A scalar of a safe kind other than `np.float64` hashes as an array. -/
theorem genericLeaf_array {d : PyStr} {b : List UInt8} (hkind : lib.kind d ∈ SAFE_KINDS)
    (hd : d ≠ FLOAT64) : genericLeaf lib d b = .array ((asarray lib d b).view lib) := by
  have hbytes : lib.kind d ≠ KIND_BYTES := by
    intro h
    rw [h] at hkind
    exact absurd hkind (by decide)
  have hstr : lib.kind d ≠ KIND_STR := by
    intro h
    rw [h] at hkind
    exact absurd hkind (by decide)
  unfold genericLeaf
  rw [if_neg hbytes, if_neg hstr, if_neg hd]

theorem genericLeaf_float64 {b : List UInt8} (hkind : lib.kind FLOAT64 ∈ SAFE_KINDS) :
    genericLeaf lib FLOAT64 b = .scalar FLOAT64 (jsonFloat lib (lib.float_value b)) := by
  have hbytes : lib.kind FLOAT64 ≠ KIND_BYTES := by
    intro h
    rw [h] at hkind
    exact absurd hkind (by decide)
  have hstr : lib.kind FLOAT64 ≠ KIND_STR := by
    intro h
    rw [h] at hkind
    exact absurd hkind (by decide)
  unfold genericLeaf
  rw [if_neg hbytes, if_neg hstr, if_pos rfl]

/-- A string key keeps its text. -/
theorem text_of_toKey {k : PyKey} {key : Key} (h : k.toKey = some key) :
    (Key.toPyKey key).text lib = k.text lib := by
  rw [PyKey.toKey_eq_some h]

/-- **Without an `np.float64` the decoded value has the tree of the object.** -/
theorem tree_of_toValue {v : PyObj} {w : Value} (hv : v.toValue lib = some w)
    (hallow : v.All (DecoderAllows lib)) (hfloat : v.All NotFloat64) :
    (w.toObj lib).tree lib = v.tree lib := by
  induction v using PyObj.induct generalizing w with
  | none => rw [← Option.some_inj.mp hv]; rfl
  | bool b => rw [← Option.some_inj.mp hv]; rfl
  | int i => rw [← Option.some_inj.mp hv]; rfl
  | float x => rw [← Option.some_inj.mp hv]; rfl
  | str s => rw [← Option.some_inj.mp hv]; rfl
  | bytes b => rw [← Option.some_inj.mp hv]; rfl
  | list items ih =>
      rw [PyObj.all_list] at hallow hfloat
      obtain ⟨ws, hws, hw⟩ := Option.map_eq_some_iff.mp hv
      rw [PyObj.itemsToValue_iff] at hws
      have htrees : ws.map (fun x => (x.toObj lib).tree lib) = items.map (PyObj.tree lib) := by
        clear hv hw
        induction hws with
        | nil => rfl
        | @cons u x us xs hux _ ihs =>
            rw [List.map_cons, List.map_cons,
              ih u (List.mem_cons_self ..) hux (hallow.2 u (List.mem_cons_self ..))
                (hfloat.2 u (List.mem_cons_self ..)),
              ihs (fun y hy => ih y (List.mem_cons_of_mem _ hy))
                ⟨trivial, fun y hy => hallow.2 y (List.mem_cons_of_mem _ hy)⟩
                ⟨trivial, fun y hy => hfloat.2 y (List.mem_cons_of_mem _ hy)⟩]
      rw [← hw]
      show Tree.seq (PyObj.itemTrees lib (Value.itemsToObj lib ws))
        = Tree.seq (PyObj.itemTrees lib items)
      rw [Value.itemsToObj_eq, PyObj.itemTrees_eq, PyObj.itemTrees_eq, List.map_map, ← htrees]
      rfl
  | tuple items ih => exact absurd hv (by simp [PyObj.toValue])
  | dict entries ih =>
      rw [PyObj.all_dict] at hallow hfloat
      obtain ⟨ws, hws, hw⟩ := Option.map_eq_some_iff.mp hv
      rw [PyObj.entriesToValue_iff] at hws
      have htrees : ws.map (fun x => ((Key.toPyKey x.1).text lib, (x.2.toObj lib).tree lib))
          = entries.map fun e => (e.1.text lib, e.2.tree lib) := by
        clear hv hw
        induction hws with
        | nil => rfl
        | @cons e x es xs hex _ ihs =>
            rw [List.map_cons, List.map_cons, text_of_toKey hex.1,
              ih e (List.mem_cons_self ..) hex.2 (hallow.2 e (List.mem_cons_self ..))
                (hfloat.2 e (List.mem_cons_self ..)),
              ihs (fun y hy => ih y (List.mem_cons_of_mem _ hy))
                ⟨fun y hy => hallow.1 y (List.mem_cons_of_mem _ hy),
                  fun y hy => hallow.2 y (List.mem_cons_of_mem _ hy)⟩
                ⟨trivial, fun y hy => hfloat.2 y (List.mem_cons_of_mem _ hy)⟩]
      rw [← hw]
      show PathTree.Tree.map (sortByText (PyObj.entryTrees lib (Value.entriesToObj lib ws)))
        = PathTree.Tree.map (sortByText (PyObj.entryTrees lib entries))
      rw [Value.entriesToObj_eq, PyObj.entryTrees_eq, PyObj.entryTrees_eq, List.map_map, ← htrees]
      rfl
  | ndarray a =>
      rw [← Option.some_inj.mp hv, tree_toArray]
      rfl
  | generic d b =>
      rw [← Option.some_inj.mp hv, tree_toArray]
      show _ = PathTree.Tree.leaf (genericLeaf lib d b)
      rw [genericLeaf_array hallow hfloat]

/-! ## §2. An `np.float64` adds an array to the stream. -/

/-- The number of frames of arrays. -/
def arrayFrames (fs : List (PyStr × Head Leaf)) : Nat :=
  fs.countP fun f => headTag f.2 == [97, 114]

theorem arrayFrames_append (fs gs : List (PyStr × Head Leaf)) :
    arrayFrames (fs ++ gs) = arrayFrames fs + arrayFrames gs :=
  List.countP_append

/-- Listings with equal payloads have as many arrays. -/
theorem arrayFrames_of_payloads {fs gs : List (PyStr × Head Leaf)}
    (h : List.Forall₂
      (fun f g => f.1 = g.1 ∧ ∃ p, headPayload f.2 = .ok p ∧ headPayload g.2 = .ok p) fs gs) :
    arrayFrames fs = arrayFrames gs := by
  induction h with
  | nil => rfl
  | @cons f g fs gs hfg _ ih =>
      obtain ⟨-, p, hf, hg⟩ := hfg
      have htag : headTag f.2 = headTag g.2 := (headPayload_tag hf).symm.trans (headPayload_tag hg)
      unfold arrayFrames at ih ⊢
      rw [List.countP_cons, List.countP_cons, ih, htag]

theorem arrayFrames_seq (ts : List HashTree) (p : PyStr) :
    arrayFrames (frames slash pyNat (.seq ts) p) = arrayFrames (itemFrames slash pyNat ts p 0) :=
  List.countP_cons_of_neg (by simp [headTag])

/-- Sorting the entries does not change the number of arrays. -/
theorem arrayFrames_map (entries : List (PyStr × HashTree)) (p : PyStr) :
    arrayFrames (frames slash pyNat (.map (sortByText entries)) p)
      = arrayFrames (entriesFrames slash pyNat entries p) := by
  have hhead : arrayFrames (frames slash pyNat (.map (sortByText entries)) p)
      = arrayFrames (entriesFrames slash pyNat (sortByText entries) p) :=
    List.countP_cons_of_neg (by simp [headTag])
  rw [hhead, entriesFrames_eq, entriesFrames_eq]
  apply List.Perm.countP_eq
  exact (List.perm_insertionSort textLe entries).flatMap_right _

/-- The value has at least the arrays of the object, and no more only if the
object contains no `np.float64`. -/
def Grows (lib : Library) (v : PyObj) (w : Value) : Prop :=
  ∀ p, arrayFrames (frames slash pyNat (v.tree lib) p)
      ≤ arrayFrames (frames slash pyNat ((w.toObj lib).tree lib) p) ∧
    (arrayFrames (frames slash pyNat ((w.toObj lib).tree lib) p)
      ≤ arrayFrames (frames slash pyNat (v.tree lib) p) → v.All NotFloat64)

theorem Grows.of_eq {v : PyObj} {w : Value} (h : (w.toObj lib).tree lib = v.tree lib)
    (hv : v.All NotFloat64) : Grows lib v w := by
  intro p
  rw [h]
  exact ⟨Nat.le_refl _, fun _ => hv⟩

theorem Grows.items {items : List PyObj} {ws : List Value}
    (h : List.Forall₂ (Grows lib) items ws) (p : PyStr) (i : Nat) :
    arrayFrames (itemFrames slash pyNat (items.map (PyObj.tree lib)) p i)
        ≤ arrayFrames (itemFrames slash pyNat (ws.map fun x => (x.toObj lib).tree lib) p i) ∧
      (arrayFrames (itemFrames slash pyNat (ws.map fun x => (x.toObj lib).tree lib) p i)
        ≤ arrayFrames (itemFrames slash pyNat (items.map (PyObj.tree lib)) p i) →
        ∀ v ∈ items, v.All NotFloat64) := by
  induction h generalizing i with
  | nil => exact ⟨Nat.le_refl _, fun _ v hv => absurd hv (List.not_mem_nil)⟩
  | @cons u x us xs hux _ ih =>
      rw [List.map_cons, List.map_cons]
      unfold itemFrames
      rw [arrayFrames_append, arrayFrames_append]
      obtain ⟨hhead, hheadeq⟩ := hux (p ++ slash :: pyNat i)
      obtain ⟨htail, htaileq⟩ := ih (i + 1)
      refine ⟨by omega, ?_⟩
      intro hle
      rw [List.forall_mem_cons]
      exact ⟨hheadeq (by omega), htaileq (by omega)⟩

theorem Grows.entries {entries : List (PyKey × PyObj)} {ws : List (Key × Value)}
    (h : List.Forall₂ (fun e x => e.1.toKey = some x.1 ∧ Grows lib e.2 x.2) entries ws)
    (p : PyStr) :
    arrayFrames (entriesFrames slash pyNat
        (entries.map fun e => (e.1.text lib, e.2.tree lib)) p)
        ≤ arrayFrames (entriesFrames slash pyNat
          (ws.map fun x => ((Key.toPyKey x.1).text lib, (x.2.toObj lib).tree lib)) p) ∧
      (arrayFrames (entriesFrames slash pyNat
          (ws.map fun x => ((Key.toPyKey x.1).text lib, (x.2.toObj lib).tree lib)) p)
        ≤ arrayFrames (entriesFrames slash pyNat
          (entries.map fun e => (e.1.text lib, e.2.tree lib)) p) →
        ∀ e ∈ entries, e.2.All NotFloat64) := by
  induction h with
  | nil => exact ⟨Nat.le_refl _, fun _ v hv => absurd hv (List.not_mem_nil)⟩
  | @cons e x es xs hex _ ih =>
      rw [List.map_cons, List.map_cons, text_of_toKey hex.1]
      unfold entriesFrames entryFrames
      rw [arrayFrames_append, arrayFrames_append]
      obtain ⟨hhead, hheadeq⟩ := hex.2 (p ++ slash :: e.1.text lib)
      obtain ⟨htail, htaileq⟩ := ih
      refine ⟨by omega, ?_⟩
      intro hle
      rw [List.forall_mem_cons]
      exact ⟨hheadeq (by omega), htaileq (by omega)⟩

/-- **The wire adds an array for every `np.float64` and none otherwise.** -/
theorem grows_of_toValue {v : PyObj} {w : Value} (hv : v.toValue lib = some w)
    (hallow : v.All (DecoderAllows lib)) : Grows lib v w := by
  induction v using PyObj.induct generalizing w with
  | none => exact Grows.of_eq (tree_of_toValue hv hallow trivial) trivial
  | bool b => exact Grows.of_eq (tree_of_toValue hv hallow trivial) trivial
  | int i => exact Grows.of_eq (tree_of_toValue hv hallow trivial) trivial
  | float x => exact Grows.of_eq (tree_of_toValue hv hallow trivial) trivial
  | str s => exact Grows.of_eq (tree_of_toValue hv hallow trivial) trivial
  | bytes b => exact Grows.of_eq (tree_of_toValue hv hallow trivial) trivial
  | ndarray a => exact Grows.of_eq (tree_of_toValue hv hallow trivial) trivial
  | tuple items ih => exact absurd hv (by simp [PyObj.toValue])
  | list items ih =>
      rw [PyObj.all_list] at hallow
      obtain ⟨ws, hws, hw⟩ := Option.map_eq_some_iff.mp hv
      have hgrow : List.Forall₂ (Grows lib) items ws :=
        forall₂_chain (List.forall₂_same.mpr fun u _ => rfl) (PyObj.itemsToValue_iff.mp hws)
          fun u hu u' x heq hx => ih u hu (heq ▸ hx) (hallow.2 u hu)
      intro p
      rw [← hw]
      have htree : ((Value.list ws).toObj lib).tree lib
          = .seq (ws.map fun x => (x.toObj lib).tree lib) := by
        show Tree.seq (PyObj.itemTrees lib (Value.itemsToObj lib ws)) = _
        rw [Value.itemsToObj_eq, PyObj.itemTrees_eq, List.map_map]
        rfl
      have htree' : (PyObj.list items).tree lib = .seq (items.map (PyObj.tree lib)) := by
        show Tree.seq (PyObj.itemTrees lib items) = _
        rw [PyObj.itemTrees_eq]
      rw [htree, htree', PyObj.all_list, arrayFrames_seq, arrayFrames_seq]
      obtain ⟨hle, heq⟩ := Grows.items hgrow p 0
      exact ⟨hle, fun hge => ⟨trivial, heq hge⟩⟩
  | dict entries ih =>
      rw [PyObj.all_dict] at hallow
      obtain ⟨ws, hws, hw⟩ := Option.map_eq_some_iff.mp hv
      have hgrow : List.Forall₂ (fun e x => e.1.toKey = some x.1 ∧ Grows lib e.2 x.2)
          entries ws :=
        forall₂_chain (List.forall₂_same.mpr fun u _ => rfl) (PyObj.entriesToValue_iff.mp hws)
          fun e he e' x heq hx => ⟨heq ▸ hx.1, ih e he (heq ▸ hx.2) (hallow.2 e he)⟩
      intro p
      rw [← hw]
      have htree : ((Value.map ws).toObj lib).tree lib = .map (sortByText
          (ws.map fun x => ((Key.toPyKey x.1).text lib, (x.2.toObj lib).tree lib))) := by
        show PathTree.Tree.map (sortByText (PyObj.entryTrees lib (Value.entriesToObj lib ws))) = _
        rw [Value.entriesToObj_eq, PyObj.entryTrees_eq, List.map_map]
        rfl
      have htree' : (PyObj.dict entries).tree lib
          = .map (sortByText (entries.map fun e => (e.1.text lib, e.2.tree lib))) := by
        show PathTree.Tree.map (sortByText (PyObj.entryTrees lib entries)) = _
        rw [PyObj.entryTrees_eq]
      rw [htree, htree', PyObj.all_dict, arrayFrames_map, arrayFrames_map]
      obtain ⟨hle, heq⟩ := Grows.entries hgrow p
      exact ⟨hle, fun hge => ⟨trivial, heq hge⟩⟩
  | generic d b =>
      by_cases hd : d = FLOAT64
      · intro p
        rw [← Option.some_inj.mp hv, tree_toArray]
        show arrayFrames [(p, Head.leaf (genericLeaf lib d b))] ≤ 1 ∧
          (1 ≤ arrayFrames [(p, Head.leaf (genericLeaf lib d b))] → _)
        have hkind : lib.kind FLOAT64 ∈ SAFE_KINDS := by
          rw [← hd]
          exact hallow
        rw [hd, genericLeaf_float64 hkind]
        exact ⟨Nat.zero_le 1, fun h => absurd h (by simp [arrayFrames, headTag])⟩
      · exact Grows.of_eq (tree_of_toValue hv hallow hd) hd

/-! ## §3. The decoded value has a hash. -/

/-- A frame whose label and payload are short is written. -/
theorem frameBytes_short {path : PyStr} {h : Head Leaf} {payload : List UInt8}
    (hpath : PyStr.encodable path = true) (hlabel : (utf8Bytes path).length < 256 ^ 4)
    (hp : headPayload h = .ok payload) (hlen : payload.length < 256 ^ 8) :
    ∃ b, frameBytes (path, h) = .ok b :=
  ⟨_, frameBytes_ok.mpr ⟨⟨utf8Bytes path, payload⟩,
    ⟨encode_utf8_ok.mpr ⟨hpath, rfl⟩, hp, hlabel, hlen⟩, rfl⟩⟩

/-- A stream is written if each of its frames is. -/
theorem framesBytes_of_forall {fs : List (PyStr × Head Leaf)}
    (h : ∀ f ∈ fs, ∃ b, frameBytes f = .ok b) : ∃ s, framesBytes fs = .ok s := by
  induction fs with
  | nil => exact ⟨[], rfl⟩
  | cons f fs ih =>
      rw [List.forall_mem_cons] at h
      obtain ⟨b, hb⟩ := h.1
      obtain ⟨s, hs⟩ := ih h.2
      refine ⟨b ++ s, ?_⟩
      rw [framesBytes_cons, hb, hs]
      rfl

/-- A text whose payload is a scalar's. -/
theorem scalarPayload_short {name t : PyStr} (ht : PyStr.encodable t = true) {k : Nat}
    (hlen : (py "scalar:" ++ name ++ py ":").length + (utf8Bytes t).length < k) :
    ∃ p, scalarPayload name (.ok t) = .ok p ∧ p.length < k := by
  refine ⟨_, scalarPayload_ok.mpr ⟨t, rfl, ht, rfl⟩, ?_⟩
  rw [List.length_append, length_asciiBytes]
  exact hlen

theorem jsonChar_encodable {c : CodePoint} (h : c.isSurrogate = false) :
    PyStr.encodable (jsonChar false c) = true := by
  have hescape : ∀ n, PyStr.encodable (unicodeEscape n) = true := by
    intro n
    have hdigit : ∀ m, m < 16 → CodePoint.isSurrogate (hexDigit m) = false := by decide
    unfold unicodeEscape
    rw [PyStr.encodable_append, Bool.and_eq_true]
    refine ⟨by decide, ?_⟩
    unfold PyStr.encodable
    simp [hdigit _ (Nat.mod_lt _ (by decide))]
  unfold jsonChar
  repeat' split
  all_goals
    first
    | decide
    | exact hescape _
    | simp_all [PyStr.encodable]

theorem jsonString_encodable {s : PyStr} (h : PyStr.encodable s = true) :
    PyStr.encodable (jsonString false s) = true := by
  have hbody : PyStr.encodable (s.flatMap (jsonChar false)) = true := by
    unfold PyStr.encodable at h ⊢
    rw [List.all_eq_true] at h
    rw [List.all_flatMap, List.all_eq_true]
    intro c hc
    have hsur := h c hc
    rw [Bool.not_eq_true'] at hsur
    exact jsonChar_encodable hsur
  unfold jsonString
  rw [PyStr.encodable_append, PyStr.encodable_append, Bool.and_eq_true, Bool.and_eq_true]
  exact ⟨⟨by decide, hbody⟩, by decide⟩

/-- A 64-bit integer prints in twenty-one characters. -/
theorem pyInt_short {i : Int} (h : -2 ^ 63 ≤ i ∧ i < 2 ^ 64) :
    jsonInt i = .ok (pyInt i) ∧ (pyInt i).isAscii = true ∧ (pyInt i).length ≤ 21 := by
  have hnat : ∀ n : Nat, n ≤ 2 ^ 64 → (pyNat n).length ≤ 20 := by
    intro n hn
    rw [length_pyNat_le_iff (by decide)]
    omega
  have habs := hnat i.natAbs (by omega)
  have hsign := length_pyInt_le i
  refine ⟨?_, isAscii_pyInt i, by omega⟩
  unfold jsonInt INT_MAX_STR_DIGITS
  rw [if_pos (by omega)]

theorem length_joinNats_le {ns : List Nat} (h : ∀ n ∈ ns, n < 2 ^ 63) :
    (joinNats ns).length ≤ 20 * ns.length := by
  induction ns with
  | nil => exact Nat.le_refl 0
  | cons n ns ih =>
      have hn : (pyNat n).length ≤ 19 := by
        rw [length_pyNat_le_iff (by decide)]
        have := h n (List.mem_cons_self ..)
        omega
      cases ns with
      | nil =>
          show (pyNat n).length ≤ 20
          omega
      | cons m ns =>
          have := ih fun k hk => h k (List.mem_cons_of_mem _ hk)
          unfold joinNats
          rw [List.length_append, List.length_append, List.length_cons]
          have hcomma : (py ",").length = 1 := rfl
          omega

/-- The payload of a decoded array. -/
theorem arrayPayload_short {a : NdArray} (ha : Decodable lib a.dtype a.shape)
    (hdata : a.data.length ≤ MAX_FRAME_BYTES) :
    ∃ p, headPayload (.leaf (.array a)) = .ok p ∧ p.length < 256 ^ 8 := by
  obtain ⟨hplain, hshort⟩ := lib.text_of_safe _ ha.kind
  have hshape : (∀ n ∈ atLeastOne a.shape, n < 2 ^ 63) ∧ (atLeastOne a.shape).length ≤ 16 := by
    unfold atLeastOne
    split
    · exact ⟨by decide, by decide⟩
    · exact ⟨ha.buildable.1, ha.rank⟩
  have hjoin := length_joinNats_le hshape.1
  have hascii : (arrayMetadata a.dtype (atLeastOne a.shape)).isAscii = true := by
    unfold arrayMetadata
    rw [jsonString_of_plain hplain]
    simp only [PyStr.isAscii_append, Bool.and_eq_true]
    refine ⟨⟨⟨⟨by decide, ⟨by decide, ?_⟩, by decide⟩, by decide⟩, ?_⟩, by decide⟩
    · unfold PyStr.isAscii
      rw [List.all_eq_true] at hplain ⊢
      intro c hc
      have := hplain c hc
      simp only [CodePoint.isPlain, Bool.and_eq_true, decide_eq_true_eq] at this
      exact decide_eq_true (by omega)
    · unfold PyStr.isAscii
      rw [List.all_eq_true]
      intro c hc
      apply (mem_joinNats hc).elim
      · intro hdigit
        simp only [CodePoint.isDigit, Bool.and_eq_true, decide_eq_true_eq] at hdigit
        exact decide_eq_true (by omega)
      · intro hcomma
        rw [hcomma]
        decide
  refine ⟨_, arrayPayload_ok.mpr ⟨hascii, rfl⟩, ?_⟩
  have hmeta : (arrayMetadata a.dtype (atLeastOne a.shape)).length ≤ 500 := by
    unfold arrayMetadata
    rw [jsonString_of_plain hplain]
    simp only [List.length_append]
    have h₁ : (py "\x7b\"dtype\":").length = 9 := rfl
    have h₂ : (py "\"").length = 1 := rfl
    have h₃ : (py ",\"shape\":[").length = 10 := rfl
    have h₄ : (py "]\x7d").length = 2 := rfl
    omega
  have hmax : MAX_FRAME_BYTES = 67108864 := rfl
  have h₅ : (py "array:").length = 6 := rfl
  have h₆ : (py ":").length = 1 := rfl
  rw [List.length_append, length_asciiBytes, List.length_append, List.length_append]
  show 6 + (arrayMetadata a.dtype (atLeastOne a.shape)).length + 1 + a.data.length < 256 ^ 8
  omega

/-- Below a path that leaves room for the contents, every frame of the value is
written.  An index takes at most as many bytes as the items before it. -/
def Writes (lib : Library) (n : Native) (w : Value) : Prop :=
  ∀ p, PyStr.encodable p = true → (utf8Bytes p).length + 2 * n.weight < 256 ^ 4 →
    ∀ f ∈ frames slash pyNat ((w.toObj lib).tree lib) p, ∃ b, frameBytes f = .ok b

/-- A leaf with a short payload is written. -/
theorem Writes.leaf {n : Native} {w : Value} {l : Leaf} (ht : (w.toObj lib).tree lib = .leaf l)
    (hl : ∃ p, headPayload (.leaf l) = .ok p ∧ p.length < 256 ^ 8) : Writes lib n w := by
  intro p hp hlen f hf
  rw [ht] at hf
  unfold frames at hf
  rw [List.mem_singleton.mp hf]
  obtain ⟨payload, hpayload, hshort⟩ := hl
  exact frameBytes_short hp (by omega) hpayload hshort

theorem encodable_item {p : PyStr} (hp : PyStr.encodable p = true) (i : Nat) :
    PyStr.encodable (p ++ slash :: pyNat i) = true ∧
      (utf8Bytes (p ++ slash :: pyNat i)).length ≤ (utf8Bytes p).length + i + 2 := by
  have hascii : PyStr.isAscii (slash :: pyNat i) = true := by
    unfold PyStr.isAscii
    rw [List.all_cons, Bool.and_eq_true]
    exact ⟨by decide, isAscii_pyNat i⟩
  rw [PyStr.encodable_append, Bool.and_eq_true, utf8Bytes_append, List.length_append,
    length_utf8Bytes_of_isAscii hascii, List.length_cons]
  have := length_pyNat_le_succ i
  exact ⟨⟨hp, PyStr.encodable_of_isAscii hascii⟩, by omega⟩

theorem encodable_key {p k : PyStr} (hp : PyStr.encodable p = true)
    (hk : PyStr.encodable k = true) :
    PyStr.encodable (p ++ slash :: k) = true ∧
      (utf8Bytes (p ++ slash :: k)).length = (utf8Bytes p).length + (utf8Bytes k).length + 1 := by
  have hslash : utf8Bytes [slash] = [47] := by decide
  have hsplit : p ++ slash :: k = p ++ ([slash] ++ k) := rfl
  rw [hsplit, PyStr.encodable_append, PyStr.encodable_append, utf8Bytes_append, utf8Bytes_append,
    List.length_append, List.length_append, hslash, hp, hk]
  refine ⟨by decide, ?_⟩
  rw [List.length_singleton]
  omega

/-- The items of a sequence are written. -/
theorem Writes.items {ns : List Native} {ws : List Value}
    (h : List.Forall₂ (Writes lib) ns ws) (p : PyStr) (i : Nat)
    (hp : PyStr.encodable p = true)
    (hlen : (utf8Bytes p).length + 2 * (i + Native.itemsWeight ns) + 2 < 256 ^ 4) :
    ∀ f ∈ itemFrames slash pyNat (ws.map fun x => (x.toObj lib).tree lib) p i,
      ∃ b, frameBytes f = .ok b := by
  induction h generalizing i with
  | nil => exact fun f hf => absurd hf (List.not_mem_nil)
  | @cons n x ns xs hnx _ ih =>
      unfold Native.itemsWeight at hlen
      have hpos := weight_pos n
      have hitem := encodable_item hp i
      intro f hf
      rw [List.map_cons] at hf
      unfold itemFrames at hf
      apply (List.mem_append.mp hf).elim
      · exact hnx _ hitem.1 (by omega) f
      · exact ih (i + 1) (by omega) f

/-- The entries of a mapping are written. -/
theorem Writes.entries {ns : List (Native × Native)} {ws : List (Key × Value)}
    (h : List.Forall₂ (fun n x => (∃ s, n.1 = .str s ∧ x.1 = .str s ∧ PyStr.encodable s = true) ∧
      Writes lib n.2 x.2) ns ws) (p : PyStr) (hp : PyStr.encodable p = true)
    (hlen : (utf8Bytes p).length + 2 * Native.entriesWeight ns < 256 ^ 4) :
    ∀ f ∈ entriesFrames slash pyNat
      (ws.map fun x => ((Key.toPyKey x.1).text lib, (x.2.toObj lib).tree lib)) p,
      ∃ b, frameBytes f = .ok b := by
  induction h with
  | nil => exact fun f hf => absurd hf (List.not_mem_nil)
  | @cons n x ns xs hnx _ ih =>
      obtain ⟨⟨s, hn, hx, hs⟩, hvalue⟩ := hnx
      unfold Native.entriesWeight Native.entryWeight at hlen
      rw [hn] at hlen
      have hkey : (Native.str s).weight = (utf8Bytes s).length + 1 := by unfold Native.weight; rfl
      have hpath := encodable_key hp hs
      intro f hf
      rw [List.map_cons, hx] at hf
      unfold entriesFrames entryFrames at hf
      apply (List.mem_append.mp hf).elim
      · exact hvalue _ hpath.1 (by
          have := hpath.2
          show (utf8Bytes (p ++ slash :: s)).length + _ < _
          omega) f
      · exact ih (by omega) f

/-- **What the decoder delivers for a packed object can be hashed.** -/
theorem writes_of_decode {v : PyObj} {n : Native} {w : Value} (hv : v.All WireNode)
    (hn : v.toNative lib mp = .ok n) (hpack : n.Packable) (hweight : n.weight ≤ MAX_FRAME_BYTES)
    (hw : n.decode (_decode_extension lib mp) = .ok w) : Writes lib n w := by
  have hmax : MAX_FRAME_BYTES = 67108864 := rfl
  have harray : ∀ (a : StridedArray) {n : Native} {w : Value},
      _encode_extension lib mp a = .ok n → n.weight ≤ MAX_FRAME_BYTES →
      n.decode (_decode_extension lib mp) = .ok w → Writes lib n w := by
    intro a n w hn hweight hw
    obtain ⟨hdec, hview⟩ := (decode_encode_extension hn).mp hw
    have hsize := encode_extension_size hn
    have hdata : (a.tobytes lib).length = a.shape.prod * lib.itemsize a.dtype := a.sized_view lib
    rw [hview]
    apply Writes.leaf (tree_toArray a)
    apply arrayPayload_short hdec
    show (a.tobytes lib).length ≤ MAX_FRAME_BYTES
    omega
  induction v using PyObj.induct generalizing n w with
  | none =>
      rw [← Except.ok.inj hn] at hw
      rw [← Except.ok.inj hw]
      exact Writes.leaf rfl (scalarPayload_short (by decide) (by decide))
  | bool b =>
      rw [← Except.ok.inj hn] at hw
      rw [← Except.ok.inj hw]
      cases b with
      | true => exact Writes.leaf rfl (scalarPayload_short (by decide) (by decide))
      | false => exact Writes.leaf rfl (scalarPayload_short (by decide) (by decide))
  | int i =>
      rw [← Except.ok.inj hn] at hw hpack
      rw [← Except.ok.inj hw]
      obtain ⟨hjson, hascii, hshort⟩ := pyInt_short hpack
      apply Writes.leaf rfl
      show ∃ p, scalarPayload (py "int") (jsonInt i) = .ok p ∧ _
      rw [hjson]
      apply scalarPayload_short (PyStr.encodable_of_isAscii hascii)
      rw [length_utf8Bytes_of_isAscii hascii]
      have htag : (py "scalar:" ++ py "int" ++ py ":").length = 11 := rfl
      omega
  | float x =>
      rw [← Except.ok.inj hn] at hw
      rw [← Except.ok.inj hw]
      have hjson : jsonFloat lib x = .ok (lib.float_repr x) := by
        cases x with
        | fin q => rfl
        | negZero => rfl
        | posInf => exact absurd rfl hv.1
        | negInf => exact absurd rfl hv.2.1
        | nan => exact absurd rfl hv.2.2
      obtain ⟨hascii, hshort⟩ := lib.float_repr_short x
      apply Writes.leaf rfl
      show ∃ p, scalarPayload (py "float") (jsonFloat lib x) = .ok p ∧ _
      rw [hjson]
      apply scalarPayload_short (PyStr.encodable_of_isAscii hascii)
      rw [length_utf8Bytes_of_isAscii hascii]
      have htag : (py "scalar:" ++ py "float" ++ py ":").length = 13 := rfl
      omega
  | str s =>
      rw [← Except.ok.inj hn] at hw hpack hweight
      rw [← Except.ok.inj hw]
      apply Writes.leaf rfl
      apply scalarPayload_short (jsonString_encodable hpack)
      have hbytes := length_utf8Bytes_le (jsonString false s)
      have hjson := length_jsonString_le false s
      have hchars := length_le_utf8Bytes s
      have htag : (py "scalar:" ++ py "str" ++ py ":").length = 11 := rfl
      have hs : (utf8Bytes s).length + 1 ≤ MAX_FRAME_BYTES := hweight
      omega
  | bytes b =>
      rw [← Except.ok.inj hn] at hw hweight
      rw [← Except.ok.inj hw]
      apply Writes.leaf rfl
      refine ⟨_, rfl, ?_⟩
      have hb : b.length + 1 ≤ MAX_FRAME_BYTES := hweight
      rw [List.length_append, length_asciiBytes]
      have htag : (py "bytes:").length = 6 := rfl
      omega
  | ndarray a => exact harray a hn hweight hw
  | generic d b => exact harray _ hn hweight hw
  | tuple items ih => exact absurd hn (by simp [PyObj.toNative])
  | list items ih =>
      rw [PyObj.all_list] at hv
      obtain ⟨ns, hns, hn⟩ := PyObj.toNative_list.mp hn
      rw [← hn] at hw hpack hweight ⊢
      obtain ⟨ws, hws, hw⟩ := Native.decode_array.mp hw
      have hitems : Native.itemsWeight ns + 1 ≤ MAX_FRAME_BYTES := hweight
      have hpacks := itemsPackable_iff.mp hpack
      have hwrites : List.Forall₂ (Writes lib) ns ws :=
        forall₂_middle hns hws fun u hu m hm x hum hmx =>
          ih u hu (hv.2 u hu) hum (hpacks m hm)
            (by have := weight_le_items hm; omega) hmx
      have hcount : ws.length ≤ Native.itemsWeight ns := by
        rw [← hwrites.length_eq]
        exact length_le_itemsWeight ns
      have htree : ((Value.list ws).toObj lib).tree lib
          = .seq (ws.map fun x => (x.toObj lib).tree lib) := by
        show Tree.seq (PyObj.itemTrees lib (Value.itemsToObj lib ws)) = _
        rw [Value.itemsToObj_eq, PyObj.itemTrees_eq, List.map_map]
        rfl
      intro p hp hlen f hf
      have hlen : (utf8Bytes p).length + 2 * (Native.itemsWeight ns + 1) < 256 ^ 4 := hlen
      rw [← hw, htree] at hf
      unfold frames at hf
      apply (List.mem_cons.mp hf).elim
      · intro hroot
        rw [hroot]
        apply frameBytes_short hp (by omega) rfl
        rw [length_asciiBytes, List.length_append, List.length_map]
        have hdigits := length_pyNat_le_succ ws.length
        have htag : (py "sequence:").length = 9 := rfl
        omega
      · exact Writes.items hwrites p 0 hp (by omega) f
  | dict entries ih =>
      rw [PyObj.all_dict] at hv
      obtain ⟨ns, hns, hn⟩ := PyObj.toNative_dict.mp hn
      rw [← hn] at hw hpack hweight ⊢
      obtain ⟨ws, hws, hw⟩ := Native.decode_map.mp hw
      have hentries : Native.entriesWeight ns + 1 ≤ MAX_FRAME_BYTES := hweight
      have hpacks := entriesPackable_iff.mp hpack
      have hkeys : List.Forall₂ (fun e x => e.1.toKey = some x.1) entries ws :=
        forall₂_chain hns hws fun e _ m x hm hx => (key_decodes hm.1).mp hx.1
      have hdistinct := nodup_of_toKey hv.1.2 hkeys
      have hwrites : List.Forall₂ (fun n x => (∃ s, n.1 = Native.str s ∧ x.1 = Key.str s ∧
          PyStr.encodable s = true) ∧ Writes lib n.2 x.2) ns ws := by
        apply forall₂_middle hns hws
        intro e he m hm x hem hmx
        obtain ⟨s, hs⟩ := hv.1.1 e he
        have hkey := (key_decodes hem.1).mp hmx.1
        rw [hs] at hkey
        have hms : m.1 = .str s := by
          have := hem.1
          rw [hs] at this
          exact (Except.ok.inj this).symm
        have hencodable : PyStr.encodable s = true := by
          have := (hpacks m hm).1
          rw [hms] at this
          exact this
        refine ⟨⟨s, hms, (Option.some_inj.mp hkey).symm, hencodable⟩, ?_⟩
        exact ih e he (hv.2 e he) hem.2 (hpacks m hm).2
          (by have := weight_le_entries hm; omega) hmx.2
      have htree : ((Value.map ws).toObj lib).tree lib = .map (sortByText
          (ws.map fun x => ((Key.toPyKey x.1).text lib, (x.2.toObj lib).tree lib))) := by
        show PathTree.Tree.map (sortByText (PyObj.entryTrees lib (Value.entriesToObj lib ws))) = _
        rw [Value.entriesToObj_eq, PyObj.entryTrees_eq, List.map_map]
        rfl
      rw [Dict.ofEntries_of_nodup hdistinct] at hw
      intro p hp hlen f hf
      have hlen : (utf8Bytes p).length + 2 * (Native.entriesWeight ns + 1) < 256 ^ 4 := hlen
      rw [← hw, htree] at hf
      unfold frames at hf
      apply (List.mem_cons.mp hf).elim
      · intro hroot
        rw [hroot]
        exact frameBytes_short hp (by omega) rfl (by decide)
      · intro hin
        apply Writes.entries hwrites p hp (by omega) f
        rw [entriesFrames_eq, List.mem_flatMap] at hin ⊢
        obtain ⟨e, he, hfe⟩ := hin
        unfold sortByText at he
        rw [List.mem_insertionSort] at he
        exact ⟨e, he, hfe⟩

/-! ## §4. The exact condition. -/

/-- **The hash of a packed object and the hash of what its frame decodes to
agree, whatever the digest, exactly if the object contains no `np.float64`.** -/
theorem hash_commutes_iff {v : PyObj} {max_bytes : Int} {frame : List UInt8} {w : Value}
    (hv : v.All WireNode) (hpack : pack_message lib mp v max_bytes = .ok frame)
    (hunpack : unpack_message lib mp (.bytes frame) max_bytes = .ok w) :
    (∀ sha256 : List UInt8 → Digest, stable_tree_hash lib sha256 v = stable_tree_hash lib sha256 (w.toObj lib)) ↔
      v.All NotFloat64 := by
  obtain ⟨n, hn, hweight, hpackable, hdecode⟩ := unpack_packed hpack
  have hw := (hdecode w).mp hunpack
  obtain ⟨hvalue, hallow⟩ := decode_sound (hv.imp fun _ h => h.distinct) hn hw
  constructor
  · intro h
    -- the identity as digest: the streams themselves agree
    have hstreams : hashStream lib v = hashStream lib (w.toObj lib) := by
      have hid := h id
      unfold stable_tree_hash at hid
      rw [Except.map_id, id_eq, id_eq] at hid
      exact hid
    have hmax : MAX_FRAME_BYTES = 67108864 := rfl
    have hroot : (utf8Bytes (py "root")).length = 4 := by decide
    obtain ⟨s, hs⟩ := framesBytes_of_forall
      (writes_of_decode hv hn hpackable hweight hw (py "root") (by decide) (by omega))
    have hs' := hs
    rw [← hashStream_eq, ← hstreams, hashStream_eq] at hs'
    have hcount := arrayFrames_of_payloads (framesBytes_inj hs' hs)
    exact (grows_of_toValue hvalue hallow (py "root")).2 (Nat.le_of_eq hcount.symm)
  · intro h sha256
    unfold stable_tree_hash
    rw [hashStream_congr lib (tree_of_toValue hvalue hallow h)]

/-- The MessagePack bytes of the envelope of the double 3.25. -/
def doubleBody : List UInt8 :=
  [0x83, 0xa5, 0x64, 0x74, 0x79, 0x70, 0x65, 0xa3, 0x3c, 0x66, 0x38, 0xa5, 0x73, 0x68, 0x61,
   0x70, 0x65, 0x90, 0xa4, 0x64, 0x61, 0x74, 0x61, 0xc4, 0x08, 0, 0, 0, 0, 0, 0, 0x0a, 0x40]

/-- A scalar, a number and the envelope, as MessagePack packs them. -/
def doubleMessagePack : MessagePack :=
  tableMessagePack
    [(envelope (py "<f8") [] [0, 0, 0, 0, 0, 0, 0x0a, 0x40], doubleBody),
     (.ext 42 doubleBody, [0xc7, 0x21, 0x2a] ++ doubleBody),
     (.array [.int 1, .ext 42 doubleBody], [0x92, 0x01, 0xc7, 0x21, 0x2a] ++ doubleBody)]
    (by decide) (by decide +kernel) (by decide +kernel)

/-- `np.float64(3.25)`. -/
def doubleScalar : PyObj := .generic FLOAT64 [0, 0, 0, 0, 0, 0, 0x0a, 0x40]

/-- The array `[1, np.array(3.25)]`, without a NumPy scalar. -/
def doubleArray : PyObj :=
  .list [.int 1, .ndarray (asarray tableLibrary FLOAT64 [0, 0, 0, 0, 0, 0, 0x0a, 0x40])]

/-- A list with an array of no dimensions. -/
theorem hash_commutes_iff_array :
    ∃ w, unpack_message tableLibrary doubleMessagePack
        (.bytes ([0x92, 0x01, 0xc7, 0x21, 0x2a] ++ doubleBody)) 64 = .ok w ∧
      ((∀ sha256 : List UInt8 → Digest, stable_tree_hash tableLibrary sha256 doubleArray
          = stable_tree_hash tableLibrary sha256 (w.toObj tableLibrary)) ↔
        doubleArray.All NotFloat64) := by
  have hnode : doubleArray.All WireNode := by
    unfold doubleArray
    rw [PyObj.all_list, List.forall_mem_cons, List.forall_mem_singleton]
    exact ⟨trivial, trivial, trivial⟩
  have hpack : pack_message tableLibrary doubleMessagePack doubleArray 64
      = .ok ([0x92, 0x01, 0xc7, 0x21, 0x2a] ++ doubleBody) :=
    eq_ok_of_toOption (by decide +kernel)
  obtain ⟨w, hw⟩ := exists_of_isOk (r := unpack_message tableLibrary doubleMessagePack
    (.bytes ([0x92, 0x01, 0xc7, 0x21, 0x2a] ++ doubleBody)) 64) (by decide +kernel)
  exact ⟨w, hw, hash_commutes_iff hnode hpack hw⟩

/-- An `np.float64` is hashed as a scalar, and as an array after the wire. -/
theorem float64_hash_changes :
    ∃ frame w, pack_message tableLibrary doubleMessagePack doubleScalar 64 = .ok frame ∧
      unpack_message tableLibrary doubleMessagePack (.bytes frame) 64 = .ok w ∧
      ∃ s s', hashStream tableLibrary doubleScalar = .ok s ∧
        hashStream tableLibrary (w.toObj tableLibrary) = .ok s' ∧ s ≠ s' := by
  have hpack : pack_message tableLibrary doubleMessagePack doubleScalar 64
      = .ok ([0xc7, 0x21, 0x2a] ++ doubleBody) := eq_ok_of_toOption (by decide +kernel)
  obtain ⟨w, hw⟩ := exists_of_isOk (r := unpack_message tableLibrary doubleMessagePack
    (.bytes ([0xc7, 0x21, 0x2a] ++ doubleBody)) 64) (by decide +kernel)
  obtain ⟨n, hn, -, -, hdecode⟩ := unpack_packed hpack
  have hvalue := (decode_sound (v := doubleScalar) trivial hn ((hdecode w).mp hw)).1
  have hview : w = .ndarray ((asarray tableLibrary FLOAT64 _).view tableLibrary) :=
    (Option.some_inj.mp hvalue).symm
  obtain ⟨s, hs⟩ := exists_of_isOk (r := hashStream tableLibrary doubleScalar)
    (by decide +kernel)
  have hdecoded : (Value.ndarray ((asarray tableLibrary FLOAT64
      [0, 0, 0, 0, 0, 0, 0x0a, 0x40]).view tableLibrary)).toObj tableLibrary
      = .ndarray (((asarray tableLibrary FLOAT64
        [0, 0, 0, 0, 0, 0, 0x0a, 0x40]).view tableLibrary).toArray tableLibrary) := rfl
  obtain ⟨s', hs'⟩ := exists_of_isOk (r := hashStream tableLibrary (.ndarray (((asarray
    tableLibrary FLOAT64 [0, 0, 0, 0, 0, 0, 0x0a, 0x40]).view tableLibrary).toArray
      tableLibrary))) (by decide +kernel)
  refine ⟨_, w, hpack, hw, s, s', hs, ?_, ?_⟩
  · rw [hview, hdecoded]
    exact hs'
  · intro heq
    have hne : hashStream tableLibrary doubleScalar ≠ hashStream tableLibrary (.ndarray
        (((asarray tableLibrary FLOAT64 [0, 0, 0, 0, 0, 0, 0x0a, 0x40]).view
          tableLibrary).toArray tableLibrary)) := by decide +kernel
    apply hne
    rw [hs, hs', heq]

end OvenRuntime
