/-
  OvenRuntime.Common.WireRules
  ────────────────────────────
  The encoder and the decoder, node by node: what a member of a container packs
  and unpacks to, and exactly which arrays survive the extension.
-/
import OvenRuntime.Common.Wire
import Mathlib.Algebra.BigOperators.Group.List.Lemmas

namespace OvenRuntime

/-! ## §1. Containers. -/

section Containers

variable {lib : Library} {mp : MessagePack}

/-- A list is carried over exactly if each of its items is, one by one. -/
theorem itemsToNative_ok {items : List PyObj} {ns : List Native} :
    PyObj.itemsToNative lib mp items = .ok ns ↔
      List.Forall₂ (fun v n => v.toNative lib mp = .ok n) items ns := by
  induction items generalizing ns with
  | nil =>
      rw [List.forall₂_nil_left_iff]
      unfold PyObj.itemsToNative
      rw [Except.ok.injEq, eq_comm]
  | cons v vs ih =>
      unfold PyObj.itemsToNative
      simp only [bind_ok, pure, Except.pure, Except.ok.injEq, List.forall₂_cons_left_iff]
      constructor
      · intro h
        obtain ⟨n, hn, ms, hms, heq⟩ := h
        exact ⟨n, ms, hn, ih.mp hms, heq.symm⟩
      · intro h
        obtain ⟨n, ms, hn, hms, heq⟩ := h
        exact ⟨n, hn, ms, ih.mpr hms, heq.symm⟩

/-- A dict is carried over exactly if each key and each value is, in their order. -/
theorem entriesToNative_ok {entries : List (PyKey × PyObj)} {ns : List (Native × Native)} :
    PyObj.entriesToNative lib mp entries = .ok ns ↔
      List.Forall₂ (fun e n => e.1.toNative lib mp = .ok n.1 ∧ e.2.toNative lib mp = .ok n.2)
        entries ns := by
  induction entries generalizing ns with
  | nil =>
      rw [List.forall₂_nil_left_iff]
      unfold PyObj.entriesToNative
      rw [Except.ok.injEq, eq_comm]
  | cons e es ih =>
      unfold PyObj.entriesToNative PyObj.entryToNative
      simp only [bind_ok, pure, Except.pure, Except.ok.injEq, List.forall₂_cons_left_iff]
      constructor
      · intro h
        obtain ⟨n, ⟨k, hk, m, hm, hpair⟩, ms, hms, heq⟩ := h
        rw [← hpair] at heq
        exact ⟨(k, m), ms, ⟨hk, hm⟩, ih.mp hms, heq.symm⟩
      · intro h
        obtain ⟨n, ms, ⟨hk, hm⟩, hms, heq⟩ := h
        exact ⟨n, ⟨n.1, hk, n.2, hm, rfl⟩, ms, ih.mpr hms, heq.symm⟩

variable {hook : Nat → List UInt8 → Except Exn Value}

/-- A decoded list holds what its items decode to, one by one. -/
theorem decodeItems_ok {ns : List Native} {ws : List Value} :
    Native.decodeItems hook ns = .ok ws ↔
      List.Forall₂ (fun n w => n.decode hook = .ok w) ns ws := by
  induction ns generalizing ws with
  | nil =>
      rw [List.forall₂_nil_left_iff]
      unfold Native.decodeItems
      rw [Except.ok.injEq, eq_comm]
  | cons n ns ih =>
      unfold Native.decodeItems
      simp only [bind_ok, pure, Except.pure, Except.ok.injEq, List.forall₂_cons_left_iff]
      constructor
      · intro h
        obtain ⟨w, hw, xs, hxs, heq⟩ := h
        exact ⟨w, xs, hw, ih.mp hxs, heq.symm⟩
      · intro h
        obtain ⟨w, xs, hw, hxs, heq⟩ := h
        exact ⟨w, hw, xs, ih.mpr hxs, heq.symm⟩

/-- An entry is decoded, and its key is a string. -/
def EntryDecodes (hook : Nat → List UInt8 → Except Exn Value) (n : Native × Native)
    (w : Key × Value) : Prop :=
  (∃ k, n.1.decode hook = .ok k ∧ k.mapKey = .ok w.1) ∧ n.2.decode hook = .ok w.2

/-- A decoded mapping holds what its entries decode to, in their order. -/
theorem decodeEntries_ok {ns : List (Native × Native)} {ws : List (Key × Value)} :
    Native.decodeEntries hook ns = .ok ws ↔ List.Forall₂ (EntryDecodes hook) ns ws := by
  induction ns generalizing ws with
  | nil =>
      rw [List.forall₂_nil_left_iff]
      unfold Native.decodeEntries
      rw [Except.ok.injEq, eq_comm]
  | cons n ns ih =>
      unfold Native.decodeEntries Native.decodeEntry
      simp only [bind_ok, pure, Except.pure, Except.ok.injEq, List.forall₂_cons_left_iff]
      constructor
      · intro h
        obtain ⟨w, ⟨k, hk, key, hkey, v, hv, hpair⟩, xs, hxs, heq⟩ := h
        rw [← hpair] at heq
        exact ⟨(key, v), xs, ⟨⟨k, hk, hkey⟩, hv⟩, ih.mp hxs, heq.symm⟩
      · intro h
        obtain ⟨w, xs, ⟨⟨k, hk, hkey⟩, hv⟩, hxs, heq⟩ := h
        exact ⟨w, ⟨k, hk, w.1, hkey, w.2, hv, rfl⟩, xs, ih.mpr hxs, heq.symm⟩

/-- A dict built from entries with distinct keys is those entries. -/
theorem Dict.ofEntries_of_nodup {entries : List (Key × Value)}
    (h : (entries.map Prod.fst).Nodup) : Dict.ofEntries entries = entries := by
  have hfold : ∀ (es : List (Key × Value)) (d : Dict), ((d ++ es).map Prod.fst).Nodup →
      es.foldl (fun d e => d.setItem e.1 e.2) d = d ++ es := by
    intro es
    induction es with
    | nil =>
        intro d _
        exact (List.append_nil d).symm
    | cons e es ih =>
        intro d hd
        have hnew : e.1 ∉ d.keys := by
          intro hmem
          rw [List.map_append, List.map_cons] at hd
          exact (List.nodup_append.mp hd).2.2 e.1 hmem e.1 (List.mem_cons_self ..) rfl
        have happ : d ++ [(e.1, e.2)] ++ es = d ++ e :: es := by
          rw [List.append_assoc]
          rfl
        have hset : d.setItem e.1 e.2 = d ++ [(e.1, e.2)] := by
          unfold Dict.setItem
          rw [if_neg hnew]
        rw [List.foldl_cons, hset, ih _ (by rw [happ]; exact hd), happ]
  exact hfold entries [] h

/-- Every object weighs something, so a frame bounds the number of objects in it. -/
theorem weight_pos (n : Native) : 0 < n.weight := by
  cases n <;> unfold Native.weight <;> omega

/-- A list has at most as many items as they weigh together. -/
theorem length_le_itemsWeight (ns : List Native) : ns.length ≤ Native.itemsWeight ns := by
  induction ns with
  | nil => exact Nat.le_refl 0
  | cons n ns ih =>
      unfold Native.itemsWeight
      have := weight_pos n
      rw [List.length_cons]
      omega

/-- An item weighs no more than all of them. -/
theorem weight_le_items {ns : List Native} {n : Native} (h : n ∈ ns) :
    n.weight ≤ Native.itemsWeight ns := by
  induction ns with
  | nil => exact absurd h (List.not_mem_nil)
  | cons m ns ih =>
      unfold Native.itemsWeight
      apply (List.mem_cons.mp h).elim
      · intro heq
        rw [heq]
        omega
      · intro hin
        have := ih hin
        omega

/-- A key and its value weigh no more than all entries. -/
theorem weight_le_entries {ns : List (Native × Native)} {n : Native × Native} (h : n ∈ ns) :
    n.1.weight + n.2.weight ≤ Native.entriesWeight ns := by
  induction ns with
  | nil => exact absurd h (List.not_mem_nil)
  | cons m ns ih =>
      unfold Native.entriesWeight Native.entryWeight
      apply (List.mem_cons.mp h).elim
      · intro heq
        rw [heq]
        omega
      · intro hin
        have := ih hin
        omega

/-- `Native.Packable` for the items, as a statement about the members of the list. -/
theorem itemsPackable_iff {ns : List Native} :
    Native.ItemsPackable ns ↔ ∀ n ∈ ns, n.Packable := by
  induction ns with
  | nil => simp [Native.ItemsPackable]
  | cons n ns ih =>
      unfold Native.ItemsPackable
      rw [ih, List.forall_mem_cons]

/-- `Native.Packable` for the entries, as a statement about the members of the list. -/
theorem entriesPackable_iff {ns : List (Native × Native)} :
    Native.EntriesPackable ns ↔ ∀ n ∈ ns, n.1.Packable ∧ n.2.Packable := by
  induction ns with
  | nil => simp [Native.EntriesPackable]
  | cons n ns ih =>
      unfold Native.EntriesPackable Native.EntryPackable
      rw [ih, List.forall_mem_cons]

end Containers

/-! ## §2. Keys. -/

section Keys

variable {lib : Library} {mp : MessagePack}

/-- An array that is packed has a dtype without objects, fields and subarrays, and becomes
one extension whose body is the packed envelope. -/
theorem encode_extension_ok {a : StridedArray} {n : Native}
    (h : _encode_extension lib mp a = .ok n) :
    lib.hasobject a.dtype = false ∧ lib.fields a.dtype = false ∧ lib.subdtype a.dtype = false ∧
      ∃ body, n = .ext NDARRAY_EXT_CODE body ∧
        mp.packb (envelope (lib.str a.dtype) a.shape (a.tobytes lib)) = .ok body := by
  unfold _encode_extension at h
  split at h
  · exact absurd h (by simp)
  · next hplain =>
      simp only [Bool.or_eq_true, not_or, Bool.not_eq_true] at hplain
      simp only [bind_ok, pure, Except.pure, Except.ok.injEq] at h
      obtain ⟨body, hbody, hn⟩ := h
      refine ⟨hplain.1.1, hplain.1.2, hplain.2, body, hn.symm, ?_⟩
      rw [← hbody]
      split
      · rfl
      · next hcopy =>
          -- an array that is not contiguous has dimensions, which the copy keeps
          have hshape : a.shape ≠ [] := by
            intro hnil
            exact hcopy (a.c_contiguous_of_nil (List.map_eq_nil_iff.mp hnil))
          have hview := congrArg NdArray.shape (view_ascontiguousarray lib a)
          have hkeep : (ascontiguousarray lib a).shape = a.shape := by
            rw [show (ascontiguousarray lib a).shape = atLeastOne a.shape from hview]
            unfold atLeastOne
            rw [if_neg hshape]
          rw [hkeep, tobytes_ascontiguousarray]
          rfl

/-- A key is decoded as a mapping key exactly if it is a string. -/
theorem key_decodes {k : PyKey} {n : Native} (hn : k.toNative lib mp = .ok n) {key : Key} :
    (∃ w, n.decode (_decode_extension lib mp) = .ok w ∧ w.mapKey = .ok key) ↔
      k.toKey = some key := by
  cases k with
  | str s =>
      rw [← Except.ok.inj hn]
      simp [Native.decode, Value.mapKey, PyKey.toKey]
  | bytes b =>
      rw [← Except.ok.inj hn]
      simp [Native.decode, Value.mapKey, PyKey.toKey]
  | none =>
      rw [← Except.ok.inj hn]
      simp [Native.decode, Value.mapKey, PyKey.toKey]
  | bool b =>
      rw [← Except.ok.inj hn]
      simp [Native.decode, Value.mapKey, PyKey.toKey]
  | int i =>
      rw [← Except.ok.inj hn]
      simp [Native.decode, Value.mapKey, PyKey.toKey]
  | float x =>
      rw [← Except.ok.inj hn]
      simp [Native.decode, Value.mapKey, PyKey.toKey]
  | generic d b =>
      obtain ⟨-, -, -, body, hext, -⟩ := encode_extension_ok hn
      rw [hext]
      constructor
      · intro h
        obtain ⟨w, hw, hkey⟩ := h
        -- the extension hook delivers arrays only
        have harray : ∃ a, w = .ndarray a := by
          unfold Native.decode _decode_extension at hw
          simp only [ne_eq, not_true, if_false] at hw
          split at hw
          · exact ⟨_, (Except.ok.inj hw).symm⟩
          · exact absurd hw (by simp)
          · split at hw
            · exact absurd hw (by simp [fault])
            · exact absurd hw (by simp)
        obtain ⟨a, ha⟩ := harray
        rw [ha] at hkey
        exact absurd hkey (by simp [Value.mapKey])
      · intro h
        exact absurd h (by simp [PyKey.toKey])

end Keys

/-! ## §3. Arrays. -/

/-- Every product of leading extents stays within the limit the decoder
applies to it. -/
def PrefixesFit (itemsize : Nat) (shape : List Nat) : Prop :=
  ∀ leading, leading ≠ [] → leading <+: shape → leading.prod * itemsize ≤ MAX_FRAME_BYTES

/-- NumPy can build an array of this shape. -/
def Buildable (itemsize : Nat) (shape : List Nat) : Prop :=
  (∀ n ∈ shape, n < 2 ^ 63) ∧ (shape.filter (· ≠ 0)).prod * itemsize < 2 ^ 63

/-- The loop over the shape multiplies its numbers up, and goes through exactly if the
product stays within the frame limit after every one of them: a zero further on does not
excuse what came before. -/
theorem countElements_ok {itemsize count total : Nat} {shape : List Nat} :
    countElements itemsize count shape = .ok total ↔
      total = count * shape.prod ∧
        ∀ leading, leading ≠ [] → leading <+: shape →
          count * leading.prod * itemsize ≤ MAX_FRAME_BYTES := by
  induction shape generalizing count with
  | nil =>
      unfold countElements
      rw [Except.ok.injEq, List.prod_nil, Nat.mul_one, eq_comm]
      constructor
      · intro h
        refine ⟨h, ?_⟩
        intro leading hne hle
        exact absurd (List.prefix_nil.mp hle) hne
      · exact fun h => h.1
  | cons n ns ih =>
      unfold countElements
      split
      · next hbig =>
          constructor
          · intro h
            exact absurd h (by simp [invalidArray])
          · intro h
            have hone := h.2 [n] (by simp) ⟨ns, rfl⟩
            rw [List.prod_singleton] at hone
            omega
      · next hfits =>
          rw [ih, List.prod_cons, Nat.mul_assoc]
          constructor
          · intro h
            refine ⟨h.1, ?_⟩
            intro leading hne hle
            match leading with
            | [] => exact absurd rfl hne
            | m :: ms =>
                obtain ⟨hm, hms⟩ := List.cons_prefix_cons.mp hle
                rw [hm, List.prod_cons, ← Nat.mul_assoc]
                by_cases hnil : ms = []
                · rw [hnil, List.prod_nil, Nat.mul_one]
                  omega
                · exact h.2 ms hnil hms
          · intro h
            refine ⟨h.1, ?_⟩
            intro leading hne hle
            have hcons := h.2 (n :: leading) (by simp) (List.cons_prefix_cons.mpr ⟨rfl, hle⟩)
            rw [List.prod_cons, ← Nat.mul_assoc] at hcons
            exact hcons

/-- The shape in an envelope is read back as it was. -/
theorem mapM_dimension (shape : List Nat) :
    (shape.map fun (n : Nat) => Value.int n).mapM Value.dimension = some shape := by
  induction shape with
  | nil => rfl
  | cons n ns ih =>
      rw [List.map_cons, List.mapM_cons, ih]
      rfl

/-- The array that is rebuilt has the dtype, the shape and the bytes of the envelope. -/
theorem reshape_ok {lib : Library} {dtype : PyStr} {shape : List Nat} {data : List UInt8}
    {a : NdArray} : reshape lib dtype shape data = .ok a ↔
      Buildable (lib.itemsize dtype) shape ∧ a = ⟨dtype, shape, data⟩ := by
  unfold reshape Buildable
  split
  · next h =>
      rw [List.any_eq_true] at h
      obtain ⟨n, hn, hbig⟩ := h
      have hbig := of_decide_eq_true hbig
      constructor
      · intro hr
        exact absurd hr (by simp)
      · intro hr
        exact absurd (hr.1.1 n hn) (by omega)
  · next h =>
      have hdims : ∀ n ∈ shape, n < 2 ^ 63 := by
        intro n hn
        by_contra hge
        exact h (List.any_eq_true.mpr ⟨n, hn, decide_eq_true (by omega)⟩)
      split
      · next hbig =>
          constructor
          · intro hr
            exact absurd hr (by simp [invalidArray])
          · intro hr
            exact absurd hr.1.2 (by omega)
      · next hfits =>
          rw [Except.ok.injEq, eq_comm]
          exact ⟨fun hr => ⟨⟨hdims, by omega⟩, hr⟩, fun hr => hr.2⟩

/-- The array survives the checks of the decoder. -/
structure Decodable (lib : Library) (dtype : PyStr) (shape : List Nat) : Prop where
  rank : shape.length ≤ MAX_ARRAY_DIMENSIONS
  kind : lib.kind dtype ∈ SAFE_KINDS
  prefixes : PrefixesFit (lib.itemsize dtype) shape
  buildable : Buildable (lib.itemsize dtype) shape

/-- The checks on the fields of an envelope the encoder wrote. -/
theorem decodeArray_ok {lib : Library} {d : PyStr} {shape : List Nat} {data : List UInt8}
    {a : NdArray} (hobject : lib.hasobject d = false) (hfields : lib.fields d = false)
    (hsub : lib.subdtype d = false) (hlen : data.length = shape.prod * lib.itemsize d) :
    decodeArray lib (lib.str d) (shape.map fun (n : Nat) => .int n) data = .ok a ↔
      Decodable lib d shape ∧ a = ⟨d, shape, data⟩ := by
  unfold decodeArray
  rw [List.length_map, mapM_dimension]
  split
  · next hrank =>
      constructor
      · intro h
        exact absurd h (by simp [invalidArray])
      · intro h
        exact absurd h.1.rank (by omega)
  · next hrank =>
      by_cases hkind : lib.kind d ∈ SAFE_KINDS
      · have hcontains : SAFE_KINDS.contains (lib.kind d) = true := by simpa using hkind
        simp only [lib.dtype_str d hkind, hobject, hfields, hsub, hcontains, Bool.or_self,
          Bool.not_true, Bool.false_eq_true, if_false]
        rw [bind_ok]
        constructor
        · intro h
          obtain ⟨count, hcount, hrest⟩ := h
          obtain ⟨htotal, hprefixes⟩ := countElements_ok.mp hcount
          split at hrest
          · exact absurd hrest (by simp [invalidArray])
          · obtain ⟨hbuild, ha⟩ := reshape_ok.mp hrest
            refine ⟨⟨by omega, hkind, ?_, hbuild⟩, ha⟩
            intro leading hne hle
            have := hprefixes leading hne hle
            rw [Nat.one_mul] at this
            exact this
        · intro h
          refine ⟨1 * shape.prod, countElements_ok.mpr ⟨rfl, ?_⟩, ?_⟩
          · intro leading hne hle
            rw [Nat.one_mul]
            exact h.1.prefixes leading hne hle
          · rw [Nat.one_mul, if_neg (by rw [hlen]; exact fun hne => hne rfl)]
            exact reshape_ok.mpr ⟨h.1.buildable, h.2⟩
      · constructor
        · intro h
          -- the typestring keeps the kind, which the decoder refuses
          dsimp only at h
          split at h
          · exact absurd h (by simp)
          · next e he =>
              have hsame := lib.dtype_str_kind d e hobject hfields hsub he
              have hcontains : SAFE_KINDS.contains (lib.kind e) = false := by
                rw [hsame]
                simpa using hkind
              rw [hcontains] at h
              simp [invalidArray] at h
        · intro h
          exact absurd h.1.kind hkind

/-- The envelope the encoder wrote reads back. -/
theorem decodeEnvelope_eq {lib : Library} {mp : MessagePack} {d : PyStr} {shape : List Nat}
    {data : List UInt8} {body : List UInt8} (h : mp.packb (envelope d shape data) = .ok body) :
    decodeEnvelope lib mp body = decodeArray lib d (shape.map fun (n : Nat) => .int n) data := by
  have hitems : ∀ hook : Nat → List UInt8 → Except Exn Value,
      Native.decodeItems hook (shape.map fun (n : Nat) => .int n) = .ok (shape.map fun (n : Nat) => .int n) := by
    intro hook
    rw [decodeItems_ok, List.forall₂_map_left_iff, List.forall₂_map_right_iff]
    exact List.forall₂_same.mpr fun _ _ => rfl
  have hentries : ∀ hook : Nat → List UInt8 → Except Exn Value,
      (envelope d shape data).decode hook
        = .ok (.map [(.str (py "dtype"), .str d), (.str (py "shape"), .list (shape.map fun (n : Nat) => .int n)),
            (.str (py "data"), .bytes data)]) := by
    intro hook
    unfold envelope
    show (Native.decodeEntries hook _).map _ = _
    rw [map_ok]
    refine ⟨[(.str (py "dtype"), .str d), (.str (py "shape"), .list (shape.map fun (n : Nat) => .int n)),
      (.str (py "data"), .bytes data)], ?_, ?_⟩
    · rw [decodeEntries_ok]
      refine List.Forall₂.cons ⟨⟨_, rfl, rfl⟩, rfl⟩ (List.Forall₂.cons ⟨⟨_, rfl, rfl⟩, ?_⟩
        (List.Forall₂.cons ⟨⟨_, rfl, rfl⟩, rfl⟩ List.Forall₂.nil))
      show (Native.decodeItems hook _).map Value.list = _
      rw [hitems]
      rfl
    · rw [Dict.ofEntries_of_nodup]
      show [Key.str (py "dtype"), Key.str (py "shape"), Key.str (py "data")].Nodup
      decide
  unfold decodeEnvelope unpackWith
  rw [mp.round_trip _ _ h]
  simp only [hentries]
  rfl

/-- **An encoded array is decoded exactly if it passes the checks, and then
with the dtype, shape and contents it had.** -/
theorem decode_encode_extension {lib : Library} {mp : MessagePack} {a : StridedArray} {n : Native}
    (hn : _encode_extension lib mp a = .ok n) {w : Value} :
    n.decode (_decode_extension lib mp) = .ok w ↔
      Decodable lib a.dtype a.shape ∧ w = .ndarray (a.view lib) := by
  obtain ⟨hobject, hfields, hsub, body, hext, hbody⟩ := encode_extension_ok hn
  rw [hext]
  show _decode_extension lib mp NDARRAY_EXT_CODE body = _ ↔ _
  unfold _decode_extension
  rw [if_neg (fun hne => hne rfl), decodeEnvelope_eq hbody]
  have hiff : ∀ b, decodeArray lib (lib.str a.dtype) (a.shape.map fun (n : Nat) => .int n) (a.tobytes lib)
      = .ok b ↔ Decodable lib a.dtype a.shape ∧ b = a.view lib :=
    fun b => decodeArray_ok hobject hfields hsub (a.sized_view lib)
  split
  · next b hb =>
      have hview := (hiff b).mp hb
      rw [Except.ok.injEq, hview.2, eq_comm]
      exact ⟨fun h => ⟨hview.1, h⟩, fun h => h.2⟩
  · next f hf =>
      constructor
      · intro h
        exact absurd h (by simp)
      · intro h
        have := (hiff _).mpr ⟨h.1, rfl⟩
        rw [hf] at this
        exact absurd this (by simp)
  · next e he =>
      constructor
      · intro h
        split at h
        · exact absurd h (by simp [fault])
        · exact absurd h (by simp)
      · intro h
        have := (hiff _).mpr ⟨h.1, rfl⟩
        rw [he] at this
        exact absurd this (by simp)

/-- An array with no zero-length dimension that fits a frame passes the checks
on its size. -/
theorem PrefixesFit.of_total {itemsize : Nat} {shape : List Nat} (hzero : 0 ∉ shape)
    (htotal : shape.prod * itemsize ≤ MAX_FRAME_BYTES) : PrefixesFit itemsize shape := by
  intro leading _ hle
  obtain ⟨rest, hrest⟩ := hle
  have hpos : 0 < rest.prod := by
    apply List.prod_pos_iff_forall_pos_nat.mpr
    intro n hn
    have hmem : n ∈ shape := by
      rw [← hrest]
      exact List.mem_append_right _ hn
    exact Nat.pos_of_ne_zero fun h0 => hzero (h0 ▸ hmem)
  rw [← hrest, List.prod_append] at htotal
  calc leading.prod * itemsize ≤ leading.prod * rest.prod * itemsize :=
        Nat.mul_le_mul_right _ (Nat.le_mul_of_pos_right _ hpos)
    _ ≤ MAX_FRAME_BYTES := htotal

/-- Without a zero in the shape, the bound on the whole product covers all of its parts. -/
theorem Buildable.of_total {itemsize : Nat} {shape : List Nat} (hzero : 0 ∉ shape)
    (hsize : 0 < itemsize) (htotal : shape.prod * itemsize ≤ MAX_FRAME_BYTES) :
    Buildable itemsize shape := by
  have hmax : MAX_FRAME_BYTES < 2 ^ 63 := by decide
  have hfilter : shape.filter (· ≠ 0) = shape := by
    rw [List.filter_eq_self]
    intro n hn
    exact decide_eq_true fun h0 => hzero (h0 ▸ hn)
  constructor
  · intro n hn
    have hpos : ∀ m ∈ shape, 0 < m := fun m hm =>
      Nat.pos_of_ne_zero fun h0 => hzero (h0 ▸ hm)
    have hle : n ≤ shape.prod :=
      Nat.le_of_dvd (List.prod_pos_iff_forall_pos_nat.mpr hpos) (List.dvd_prod hn)
    have hsized : shape.prod ≤ shape.prod * itemsize := Nat.le_mul_of_pos_right _ hsize
    omega
  · rw [hfilter]
    omega

end OvenRuntime
