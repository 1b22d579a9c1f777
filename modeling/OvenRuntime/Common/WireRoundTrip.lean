/-
  OvenRuntime.Common.WireRoundTrip
  ────────────────────────────────
  Frames and what they decode to.  A frame the encoder wrote is decoded to the
  value of the object (`decode_sound`), and it is decoded whenever the decoder's
  own rules admit the object (`decode_complete`).
-/
import OvenRuntime.Common.WireRules

namespace OvenRuntime

/-! ## §1. Lists of related members. -/

/-- Two relations compose along three lists. -/
theorem forall₂_chain {α β γ : Type} {R : α → β → Prop} {S : β → γ → Prop} {T : α → γ → Prop}
    {as : List α} {bs : List β} {cs : List γ}
    (hR : List.Forall₂ R as bs) (hS : List.Forall₂ S bs cs)
    (h : ∀ a ∈ as, ∀ b c, R a b → S b c → T a c) : List.Forall₂ T as cs := by
  induction hR generalizing cs with
  | nil =>
      rw [List.forall₂_nil_left_iff.mp hS]
      exact List.Forall₂.nil
  | @cons a b as bs hab _ ih =>
      obtain ⟨c, cs', hbc, hcs, heq⟩ := List.forall₂_cons_left_iff.mp hS
      rw [heq]
      exact List.Forall₂.cons (h a (List.mem_cons_self ..) b c hab hbc)
        (ih hcs fun a' ha' => h a' (List.mem_cons_of_mem _ ha'))

/-- A relation that every member extends to is a relation of lists. -/
theorem forall₂_extend {α β γ : Type} {R : α → β → Prop} {S : β → γ → Prop}
    {as : List α} {bs : List β}
    (h : ∀ a ∈ as, ∀ b ∈ bs, R a b → ∃ c, S b c) (hR : List.Forall₂ R as bs) :
    ∃ cs, List.Forall₂ S bs cs := by
  induction hR with
  | nil => exact ⟨[], List.Forall₂.nil⟩
  | @cons a b as bs hab _ ih =>
      obtain ⟨c, hc⟩ := h a (List.mem_cons_self ..) b (List.mem_cons_self ..) hab
      obtain ⟨cs, hcs⟩ := ih fun a' ha' b' hb' =>
        h a' (List.mem_cons_of_mem _ ha') b' (List.mem_cons_of_mem _ hb')
      exact ⟨c :: cs, List.Forall₂.cons hc hcs⟩

/-- What the first relation says of the middle list goes into the second one. -/
theorem forall₂_middle {α β γ : Type} {R : α → β → Prop} {S T : β → γ → Prop}
    {as : List α} {bs : List β} {cs : List γ}
    (hR : List.Forall₂ R as bs) (hS : List.Forall₂ S bs cs)
    (h : ∀ a ∈ as, ∀ b ∈ bs, ∀ c, R a b → S b c → T b c) : List.Forall₂ T bs cs := by
  induction hR generalizing cs with
  | nil =>
      rw [List.forall₂_nil_left_iff.mp hS]
      exact List.Forall₂.nil
  | @cons a b as bs hab _ ih =>
      obtain ⟨c, cs', hbc, hcs, heq⟩ := List.forall₂_cons_left_iff.mp hS
      rw [heq]
      exact List.Forall₂.cons
        (h a (List.mem_cons_self ..) b (List.mem_cons_self ..) c hab hbc)
        (ih hcs fun a' ha' b' hb' =>
          h a' (List.mem_cons_of_mem _ ha') b' (List.mem_cons_of_mem _ hb'))

theorem forall₂_left {α β : Type} {R : α → β → Prop} {P : α → Prop} {as : List α} {bs : List β}
    (h : ∀ a b, R a b → P a) (hR : List.Forall₂ R as bs) : ∀ a ∈ as, P a := by
  induction hR with
  | nil => exact fun a ha => absurd ha (List.not_mem_nil)
  | cons hab _ ih => exact List.forall_mem_cons.mpr ⟨h _ _ hab, ih⟩

/-! ## §2. What the decoder delivers. -/

variable {lib : Library} {mp : MessagePack}

/-- The keys of a dict are distinct. -/
def DistinctKeys : PyObj → Prop
  | .dict entries => (entries.map Prod.fst).Nodup
  | _ => True

/-- The decoder's rules on a node: string or bytes keys, numbers, dates or
durations in arrays, at most sixteen dimensions. -/
def DecoderAllows (lib : Library) : PyObj → Prop
  | .dict entries => ∀ e ∈ entries, e.1.toKey.isSome = true
  | .ndarray a => lib.kind a.dtype ∈ SAFE_KINDS ∧ a.shape.length ≤ MAX_ARRAY_DIMENSIONS
  | .generic d _ => lib.kind d ∈ SAFE_KINDS
  | _ => True

/-- An array with a zero-length dimension that NumPy can build and whose
leading extents stay within the decoder's limit. -/
def ZeroSizeFits (lib : Library) : PyObj → Prop
  | .ndarray a => 0 ∈ a.shape →
      PrefixesFit (lib.itemsize a.dtype) a.shape ∧ Buildable (lib.itemsize a.dtype) a.shape
  | _ => True

theorem PyObj.toNative_list {items : List PyObj} {n : Native} :
    (PyObj.list items).toNative lib mp = .ok n ↔
      ∃ ns, List.Forall₂ (fun v m => v.toNative lib mp = .ok m) items ns ∧ .array ns = n := by
  show (PyObj.itemsToNative lib mp items).map Native.array = .ok n ↔ _
  simp only [map_ok, itemsToNative_ok]

theorem PyObj.toNative_dict {entries : List (PyKey × PyObj)} {n : Native} :
    (PyObj.dict entries).toNative lib mp = .ok n ↔
      ∃ ns, List.Forall₂ (fun e m => e.1.toNative lib mp = .ok m.1 ∧
        e.2.toNative lib mp = .ok m.2) entries ns ∧ .map ns = n := by
  show (PyObj.entriesToNative lib mp entries).map Native.map = .ok n ↔ _
  simp only [map_ok, entriesToNative_ok]

theorem Native.decode_array {hook : Nat → List UInt8 → Except Exn Value} {ns : List Native}
    {w : Value} :
    (Native.array ns).decode hook = .ok w ↔
      ∃ ws, List.Forall₂ (fun n v => n.decode hook = .ok v) ns ws ∧ .list ws = w := by
  show (Native.decodeItems hook ns).map Value.list = .ok w ↔ _
  simp only [map_ok, decodeItems_ok]

theorem Native.decode_map {hook : Nat → List UInt8 → Except Exn Value}
    {ns : List (Native × Native)} {w : Value} :
    (Native.map ns).decode hook = .ok w ↔
      ∃ ws, List.Forall₂ (EntryDecodes hook) ns ws ∧ .map (Dict.ofEntries ws) = w := by
  show (Native.decodeEntries hook ns).map (fun es => Value.map (Dict.ofEntries es)) = .ok w ↔ _
  simp only [map_ok, decodeEntries_ok]

/-- Distinct keys stay distinct when they are decoded. -/
theorem nodup_of_toKey {entries : List (PyKey × PyObj)} {ws : List (Key × Value)}
    (hnodup : (entries.map Prod.fst).Nodup)
    (h : List.Forall₂ (fun e w => e.1.toKey = some w.1) entries ws) :
    (ws.map Prod.fst).Nodup := by
  have hkeys : (ws.map Prod.fst).map Key.toPyKey = entries.map Prod.fst := by
    clear hnodup
    induction h with
    | nil => rfl
    | @cons e w es ws he _ ih =>
        rw [List.map_cons, List.map_cons, List.map_cons, ih, PyKey.toKey_eq_some he]
  rw [← hkeys] at hnodup
  exact List.Nodup.of_map _ hnodup

/-- **What a packed object decodes to is its value**, and the decoder's rules
admit it. -/
theorem decode_sound {v : PyObj} {n : Native} {w : Value} (hv : v.All DistinctKeys)
    (hn : v.toNative lib mp = .ok n) (hw : n.decode (_decode_extension lib mp) = .ok w) :
    v.toValue lib = some w ∧ v.All (DecoderAllows lib) := by
  induction v using PyObj.induct generalizing n w with
  | none =>
      rw [← Except.ok.inj hn] at hw
      exact ⟨congrArg some (Except.ok.inj hw), trivial⟩
  | bool b =>
      rw [← Except.ok.inj hn] at hw
      exact ⟨congrArg some (Except.ok.inj hw), trivial⟩
  | int i =>
      rw [← Except.ok.inj hn] at hw
      exact ⟨congrArg some (Except.ok.inj hw), trivial⟩
  | float x =>
      rw [← Except.ok.inj hn] at hw
      exact ⟨congrArg some (Except.ok.inj hw), trivial⟩
  | str s =>
      rw [← Except.ok.inj hn] at hw
      exact ⟨congrArg some (Except.ok.inj hw), trivial⟩
  | bytes b =>
      rw [← Except.ok.inj hn] at hw
      exact ⟨congrArg some (Except.ok.inj hw), trivial⟩
  | list items ih =>
      rw [PyObj.all_list] at hv ⊢
      obtain ⟨ns, hns, hn⟩ := PyObj.toNative_list.mp hn
      rw [← hn] at hw
      obtain ⟨ws, hws, hw⟩ := Native.decode_array.mp hw
      have hmembers : List.Forall₂
          (fun v w => v.toValue lib = some w ∧ v.All (DecoderAllows lib)) items ws :=
        forall₂_chain hns hws fun u hu m x hm hx => ih u hu (hv.2 u hu) hm hx
      refine ⟨?_, trivial, forall₂_left (fun _ _ h => h.2) hmembers⟩
      have hvalues := PyObj.itemsToValue_iff.mpr (hmembers.imp fun _ _ h => h.1)
      show (PyObj.itemsToValue lib items).map Value.list = some w
      rw [hvalues, ← hw]
      rfl
  | tuple items ih => exact absurd hn (by simp [PyObj.toNative])
  | dict entries ih =>
      rw [PyObj.all_dict] at hv ⊢
      obtain ⟨ns, hns, hn⟩ := PyObj.toNative_dict.mp hn
      rw [← hn] at hw
      obtain ⟨ws, hws, hw⟩ := Native.decode_map.mp hw
      have hmembers : List.Forall₂ (fun e x => e.1.toKey = some x.1 ∧
          e.2.toValue lib = some x.2 ∧ e.2.All (DecoderAllows lib)) entries ws :=
        forall₂_chain hns hws fun e he m x hm hx =>
          ⟨(key_decodes hm.1).mp hx.1, ih e he (hv.2 e he) hm.2 hx.2⟩
      refine ⟨?_, ?_, forall₂_left (fun _ _ h => h.2.2) hmembers⟩
      · have hvalues := PyObj.entriesToValue_iff.mpr (hmembers.imp fun _ _ h => ⟨h.1, h.2.1⟩)
        have hdistinct := nodup_of_toKey hv.1 (hmembers.imp fun _ _ h => h.1)
        show (PyObj.entriesToValue lib entries).map Value.map = some w
        rw [hvalues, ← hw, Dict.ofEntries_of_nodup hdistinct]
        rfl
      · exact forall₂_left (fun _ _ h => by rw [h.1]; rfl) hmembers
  | ndarray a =>
      obtain ⟨hdec, hview⟩ := (decode_encode_extension hn).mp hw
      exact ⟨congrArg some hview.symm, hdec.kind, hdec.rank⟩
  | generic d b =>
      obtain ⟨hdec, hview⟩ := (decode_encode_extension hn).mp hw
      exact ⟨congrArg some hview.symm, hdec.kind⟩

/-- The contents of an encoded array stand in the extension. -/
theorem encode_extension_size {a : StridedArray} {n : Native}
    (hn : _encode_extension lib mp a = .ok n) :
    a.shape.prod * lib.itemsize a.dtype < n.weight := by
  obtain ⟨-, -, -, body, hext, hbody⟩ := encode_extension_ok hn
  have hweight := mp.weight_le _ _ hbody
  have hdata : (a.tobytes lib).length = a.shape.prod * lib.itemsize a.dtype := a.sized_view lib
  rw [hext]
  show _ < body.length + 1
  unfold envelope at hweight
  simp only [Native.weight, Native.entriesWeight, Native.entryWeight] at hweight
  omega

/-- An encoded array that the decoder's rules admit is decoded. -/
theorem decode_extension_complete {a : StridedArray} {n : Native}
    (hn : _encode_extension lib mp a = .ok n) (hkind : lib.kind a.dtype ∈ SAFE_KINDS)
    (hrank : a.shape.length ≤ MAX_ARRAY_DIMENSIONS)
    (hzero : 0 ∈ a.shape → PrefixesFit (lib.itemsize a.dtype) a.shape ∧
      Buildable (lib.itemsize a.dtype) a.shape)
    (hweight : n.weight ≤ MAX_FRAME_BYTES) :
    ∃ w, n.decode (_decode_extension lib mp) = .ok w := by
  have hsize := encode_extension_size hn
  by_cases hmem : 0 ∈ a.shape
  · obtain ⟨hprefixes, hbuild⟩ := hzero hmem
    exact ⟨_, (decode_encode_extension hn).mpr ⟨⟨hrank, hkind, hprefixes, hbuild⟩, rfl⟩⟩
  · have htotal : a.shape.prod * lib.itemsize a.dtype ≤ MAX_FRAME_BYTES := by omega
    exact ⟨_, (decode_encode_extension hn).mpr
      ⟨⟨hrank, hkind, PrefixesFit.of_total hmem htotal,
        Buildable.of_total hmem (lib.itemsize_pos _ hkind) htotal⟩, rfl⟩⟩

/-- **A packed object that the decoder's rules admit is decoded.** -/
theorem decode_complete {v : PyObj} {n : Native} (hv : v.All (DecoderAllows lib))
    (hz : v.All (ZeroSizeFits lib)) (hn : v.toNative lib mp = .ok n)
    (hweight : n.weight ≤ MAX_FRAME_BYTES) :
    ∃ w, n.decode (_decode_extension lib mp) = .ok w := by
  induction v using PyObj.induct generalizing n with
  | none =>
      rw [← Except.ok.inj hn]
      exact ⟨_, rfl⟩
  | bool b =>
      rw [← Except.ok.inj hn]
      exact ⟨_, rfl⟩
  | int i =>
      rw [← Except.ok.inj hn]
      exact ⟨_, rfl⟩
  | float x =>
      rw [← Except.ok.inj hn]
      exact ⟨_, rfl⟩
  | str s =>
      rw [← Except.ok.inj hn]
      exact ⟨_, rfl⟩
  | bytes b =>
      rw [← Except.ok.inj hn]
      exact ⟨_, rfl⟩
  | list items ih =>
      rw [PyObj.all_list] at hv hz
      obtain ⟨ns, hns, hn⟩ := PyObj.toNative_list.mp hn
      have hitems : Native.itemsWeight ns + 1 ≤ MAX_FRAME_BYTES := by
        rw [← hn] at hweight
        exact hweight
      obtain ⟨ws, hws⟩ := forall₂_extend (fun u hu m hm hum =>
        ih u hu (hv.2 u hu) (hz.2 u hu) hum (by have := weight_le_items hm; omega)) hns
      rw [← hn]
      exact ⟨_, Native.decode_array.mpr ⟨ws, hws, rfl⟩⟩
  | tuple items ih => exact absurd hn (by simp [PyObj.toNative])
  | dict entries ih =>
      rw [PyObj.all_dict] at hv hz
      obtain ⟨ns, hns, hn⟩ := PyObj.toNative_dict.mp hn
      have hentries : Native.entriesWeight ns + 1 ≤ MAX_FRAME_BYTES := by
        rw [← hn] at hweight
        exact hweight
      have hextend : ∀ e ∈ entries, ∀ m ∈ ns, e.1.toNative lib mp = .ok m.1 ∧
          e.2.toNative lib mp = .ok m.2 →
          ∃ x, EntryDecodes (_decode_extension lib mp) m x := by
        intro e he m hm hem
        obtain ⟨key, hkey⟩ := Option.isSome_iff_exists.mp (hv.1 e he)
        obtain ⟨x, hx⟩ := ih e he (hv.2 e he) (hz.2 e he) hem.2
          (by have := weight_le_entries hm; omega)
        exact ⟨(key, x), (key_decodes hem.1).mpr hkey, hx⟩
      obtain ⟨ws, hws⟩ := forall₂_extend hextend hns
      rw [← hn]
      exact ⟨_, Native.decode_map.mpr ⟨ws, hws, rfl⟩⟩
  | ndarray a => exact decode_extension_complete hn hv.1 hv.2 hz hweight
  | generic d b =>
      refine decode_extension_complete hn hv (Nat.zero_le _) ?_ hweight
      intro hmem
      exact absurd hmem (List.not_mem_nil)

/-! ## §3. Frames. -/

/-- A frame that was packed, and what it contains. -/
theorem pack_message_ok {v : PyObj} {max_bytes : Int} {frame : List UInt8}
    (h : pack_message lib mp v max_bytes = .ok frame) :
    limitAccepted max_bytes = true ∧ frame.length ≤ MAX_FRAME_BYTES ∧
      (frame.length : Int) ≤ max_bytes ∧
      ∃ n, v.toNative lib mp = .ok n ∧ mp.packb n = .ok frame := by
  unfold pack_message at h
  split at h
  · next hlimit =>
      refine ⟨hlimit, ?_⟩
      split at h
      · split at h
        · exact absurd h (by simp [fault])
        · exact absurd h (by simp)
      · next packed hpacked =>
          split at h
          · exact absurd h (by simp [fault])
          · next hsize =>
              rw [← Except.ok.inj h]
              unfold limitAccepted at hlimit
              simp only [Bool.and_eq_true, decide_eq_true_eq] at hlimit
              refine ⟨by omega, by omega, ?_⟩
              unfold packObject at hpacked
              exact bind_ok.mp hpacked
  · exact absurd h (by simp)

/-- Unpacking a frame within the limit is decoding its contents. -/
theorem unpack_iff {n : Native} {frame : List UInt8} {max_bytes : Int}
    (h : mp.packb n = .ok frame) (hlimit : limitAccepted max_bytes = true)
    (hsize : (frame.length : Int) ≤ max_bytes) (w : Value) :
    unpack_message lib mp (.bytes frame) max_bytes = .ok w ↔
      n.decode (_decode_extension lib mp) = .ok w := by
  unfold unpack_message unpackWith
  rw [if_pos hlimit]
  simp only [mp.round_trip _ _ h]
  rw [if_neg (by omega)]
  split
  · next x hx => rw [hx]
  · next f hf => rw [hf]
  · next e he =>
      rw [he]
      split
      · simp [fault]
      · simp

/-- A frame that is unpacked is within the limit. -/
theorem unpack_limit {frame : List UInt8} {max_bytes : Int} {w : Value}
    (h : unpack_message lib mp (.bytes frame) max_bytes = .ok w) :
    limitAccepted max_bytes = true ∧ (frame.length : Int) ≤ max_bytes := by
  unfold unpack_message at h
  split at h
  · next hlimit =>
      simp only at h
      split at h
      · exact absurd h (by simp [fault])
      · exact ⟨hlimit, by omega⟩
  · exact absurd h (by simp)

/-- Unpacking a packed frame is decoding its contents. -/
theorem unpack_packed {v : PyObj} {max_bytes : Int} {frame : List UInt8}
    (h : pack_message lib mp v max_bytes = .ok frame) :
    ∃ n, v.toNative lib mp = .ok n ∧ n.weight ≤ MAX_FRAME_BYTES ∧ n.Packable ∧
      ∀ w, unpack_message lib mp (.bytes frame) max_bytes = .ok w ↔
        n.decode (_decode_extension lib mp) = .ok w := by
  obtain ⟨hlimit, hmax, hsize, n, hn, hframe⟩ := pack_message_ok h
  have hweight := mp.weight_le _ _ hframe
  exact ⟨n, hn, by omega, mp.packable _ _ hframe, unpack_iff hframe hlimit hsize⟩

/-- A plain node: string keys, builtin scalars, and arrays of numbers, dates or
durations of at most sixteen dimensions, none of them zero. -/
def PlainNode (lib : Library) : PyObj → Prop
  | .dict entries => (∀ e ∈ entries, ∃ s, e.1 = .str s) ∧ (entries.map Prod.fst).Nodup
  | .ndarray a => lib.kind a.dtype ∈ SAFE_KINDS ∧ a.shape.length ≤ MAX_ARRAY_DIMENSIONS ∧
      0 ∉ a.shape
  | .tuple _ => False
  | .generic _ _ => False
  | .none | .bool _ | .int _ | .float _ | .str _ | .bytes _ | .list _ => True

theorem PlainNode.distinct {v : PyObj} (h : PlainNode lib v) : DistinctKeys v := by
  cases v with
  | dict entries => exact h.2
  | _ => trivial

theorem PlainNode.allowed {v : PyObj} (h : PlainNode lib v) : DecoderAllows lib v := by
  cases v with
  | dict entries =>
      intro e he
      obtain ⟨s, hs⟩ := h.1 e he
      rw [hs]
      rfl
  | ndarray a => exact ⟨h.1, h.2.1⟩
  | generic d b => exact absurd h (by simp [PlainNode])
  | _ => trivial

theorem PlainNode.zeroSize {v : PyObj} (h : PlainNode lib v) : ZeroSizeFits lib v := by
  cases v with
  | ndarray a => exact fun hzero => absurd hzero h.2.2
  | _ => trivial

/-! ## §4. A table of packed values. -/

mutual

/-- Structural equality. -/
def Native.same : Native → Native → Bool
  | .nil, .nil => true
  | .bool a, .bool b => a == b
  | .int a, .int b => a == b
  | .float a, .float b => decide (a = b)
  | .str a, .str b => a == b
  | .bin a, .bin b => a == b
  | .array xs, .array ys => Native.sameItems xs ys
  | .map es, .map fs => Native.sameEntries es fs
  | .ext c a, .ext d b => c == d && a == b
  | _, _ => false

def Native.sameItems : List Native → List Native → Bool
  | [], [] => true
  | x :: xs, y :: ys => Native.same x y && Native.sameItems xs ys
  | _, _ => false

def Native.sameEntries : List (Native × Native) → List (Native × Native) → Bool
  | [], [] => true
  | e :: es, f :: fs => Native.sameEntry e f && Native.sameEntries es fs
  | _, _ => false

def Native.sameEntry : Native × Native → Native × Native → Bool
  | (k, v), (l, w) => Native.same k l && Native.same v w

end

mutual

theorem Native.eq_of_same : ∀ n m : Native, n.same m = true → n = m
  | .nil, m, h => by cases m <;> simp_all [Native.same]
  | .bool a, m, h => by cases m <;> simp_all [Native.same]
  | .int a, m, h => by cases m <;> simp_all [Native.same]
  | .float a, m, h => by cases m <;> simp_all [Native.same]
  | .str a, m, h => by cases m <;> simp_all [Native.same]
  | .bin a, m, h => by cases m <;> simp_all [Native.same]
  | .ext c a, m, h => by cases m <;> simp_all [Native.same]
  | .array xs, m, h => by
      cases m with
      | array ys =>
          unfold Native.same at h
          rw [Native.eq_of_sameItems xs ys h]
      | _ => exact absurd h (by simp [Native.same])
  | .map es, m, h => by
      cases m with
      | map fs =>
          unfold Native.same at h
          rw [Native.eq_of_sameEntries es fs h]
      | _ => exact absurd h (by simp [Native.same])

theorem Native.eq_of_sameItems : ∀ xs ys : List Native, Native.sameItems xs ys = true → xs = ys
  | [], [], _ => rfl
  | [], _ :: _, h => absurd h (by simp [Native.sameItems])
  | _ :: _, [], h => absurd h (by simp [Native.sameItems])
  | x :: xs, y :: ys, h => by
      unfold Native.sameItems at h
      rw [Bool.and_eq_true] at h
      rw [Native.eq_of_same x y h.1, Native.eq_of_sameItems xs ys h.2]

theorem Native.eq_of_sameEntries :
    ∀ es fs : List (Native × Native), Native.sameEntries es fs = true → es = fs
  | [], [], _ => rfl
  | [], _ :: _, h => absurd h (by simp [Native.sameEntries])
  | _ :: _, [], h => absurd h (by simp [Native.sameEntries])
  | (k, v) :: es, (l, w) :: fs, h => by
      unfold Native.sameEntries Native.sameEntry at h
      rw [Bool.and_eq_true, Bool.and_eq_true] at h
      rw [Native.eq_of_same k l h.1.1, Native.eq_of_same v w h.1.2,
        Native.eq_of_sameEntries es fs h.2]

end

/-- The row of a value holds that value. -/
theorem find_same {rows : List (Native × List UInt8)} {n : Native} {row : Native × List UInt8}
    (h : rows.find? (fun r => r.1.same n) = some row) : row ∈ rows ∧ row.1 = n := by
  have hsame := List.find?_some h
  exact ⟨List.mem_of_find?_eq_some h, Native.eq_of_same _ _ hsame⟩

/-- A packer that knows the rows of a table and refuses everything else. -/
def tableMessagePack (rows : List (Native × List UInt8)) (hnodup : (rows.map Prod.snd).Nodup)
    (hweight : ∀ row ∈ rows, row.1.weight ≤ row.2.length)
    (hpackable : ∀ row ∈ rows, row.1.Packable) : MessagePack where
  packb n :=
    match rows.find? fun row => row.1.same n with
    | some row => .ok row.2
    | none => .error .ValueError
  unpackb b :=
    match rows.find? fun row => row.2 == b with
    | some row => .ok row.1
    | none => .error .ValueError
  round_trip := by
    intro n b h
    cases hrow : rows.find? (fun row => row.1.same n) with
    | none => rw [hrow] at h; exact absurd h (by simp)
    | some row =>
        rw [hrow] at h
        obtain ⟨hmem, hsame⟩ := find_same hrow
        have hb : row.2 = b := Except.ok.inj h
        cases hback : rows.find? (fun row => row.2 == b) with
        | none =>
            rw [List.find?_eq_none] at hback
            exact absurd (by simpa using hb) (hback row hmem)
        | some row' =>
            have hmem' := List.mem_of_find?_eq_some hback
            have hb' : row'.2 = b := by simpa using List.find?_some hback
            rw [← hsame, List.inj_on_of_nodup_map hnodup hmem' hmem (hb'.trans hb.symm)]
  weight_le := by
    intro n b h
    cases hrow : rows.find? (fun row => row.1.same n) with
    | none => rw [hrow] at h; exact absurd h (by simp)
    | some row =>
        rw [hrow] at h
        obtain ⟨hmem, hsame⟩ := find_same hrow
        rw [← hsame, ← Except.ok.inj h]
        exact hweight row hmem
  packable := by
    intro n b h
    cases hrow : rows.find? (fun row => row.1.same n) with
    | none => rw [hrow] at h; exact absurd h (by simp)
    | some row =>
        obtain ⟨hmem, hsame⟩ := find_same hrow
        rw [← hsame]
        exact hpackable row hmem

/-- The MessagePack bytes of the envelope of two bytes. -/
def pairBody : List UInt8 :=
  [0x83, 0xa5, 0x64, 0x74, 0x79, 0x70, 0x65, 0xa3, 0x7c, 0x75, 0x31, 0xa5, 0x73, 0x68, 0x61,
   0x70, 0x65, 0x91, 0x02, 0xa4, 0x64, 0x61, 0x74, 0x61, 0xc4, 0x02, 0x07, 0x09]

/-- Two mappings and an envelope, as MessagePack packs them. -/
def sampleMessagePack : MessagePack :=
  tableMessagePack
    [(envelope (py "|u1") [2] [7, 9], pairBody),
     (.map [(.str (py "x"), .ext 42 pairBody)], [0x81, 0xa1, 0x78, 0xc7, 0x1c, 0x2a] ++ pairBody),
     (.map [(.int 1, .nil)], [0x81, 0x01, 0xc0])]
    (by decide) (by decide +kernel) (by decide +kernel)

/-- Every second byte of three. -/
def stridedPair : StridedArray :=
  { dtype := py "uint8", axes := [(2, 2)], offset := 0, memory := Strided.store [7, 0, 9] }

/-- A mapping with an array that is not contiguous. -/
def stridedMessage : PyObj := .dict [(.str (py "x"), .ndarray stridedPair)]

/-- The bytes of its frame. -/
def stridedFrame : List UInt8 := [0x81, 0xa1, 0x78, 0xc7, 0x1c, 0x2a] ++ pairBody

theorem stridedMessage_plain : stridedMessage.All (PlainNode tableLibrary) := by
  unfold stridedMessage
  rw [PyObj.all_dict, List.forall_mem_singleton]
  refine ⟨⟨?_, by decide⟩, ?_⟩
  · rw [List.forall_mem_singleton]
    exact ⟨_, rfl⟩
  · show _ ∈ _ ∧ _ ≤ _ ∧ _ ∉ _
    decide

theorem stridedMessage_packs :
    pack_message tableLibrary sampleMessagePack stridedMessage 64 = .ok stridedFrame := by
  apply eq_ok_of_toOption
  decide +kernel

/-! ## §5. The round trip, and what the decoder admits. -/

/-- **What the decoder admits**: a packed frame is accepted exactly if every
mapping key is a string or bytes, every array holds numbers, dates or durations,
and none has more than sixteen dimensions. -/
theorem unpack_accepts_iff {v : PyObj} {max_bytes : Int} {frame : List UInt8}
    (hv : v.All DistinctKeys) (hz : v.All (ZeroSizeFits lib))
    (hpack : pack_message lib mp v max_bytes = .ok frame) :
    (∃ w, unpack_message lib mp (.bytes frame) max_bytes = .ok w) ↔
      v.All (DecoderAllows lib) := by
  obtain ⟨n, hn, hweight, -, hunpack⟩ := unpack_packed hpack
  constructor
  · intro h
    obtain ⟨w, hw⟩ := h
    exact (decode_sound hv hn ((hunpack w).mp hw)).2
  · intro h
    obtain ⟨w, hw⟩ := decode_complete h hz hn hweight
    exact ⟨w, (hunpack w).mpr hw⟩

/-- A mapping from strings is among the accepted ones. -/
theorem unpack_accepts_strided :
    (∃ w, unpack_message tableLibrary sampleMessagePack (.bytes stridedFrame) 64 = .ok w) ↔
      stridedMessage.All (DecoderAllows tableLibrary) :=
  unpack_accepts_iff (stridedMessage_plain.imp fun _ h => h.distinct)
    (stridedMessage_plain.imp fun _ h => h.zeroSize) stridedMessage_packs

/-- A mapping from an integer is packed, and its frame is refused. -/
theorem unpack_refuses_integer_key :
    pack_message tableLibrary sampleMessagePack (.dict [(.int 1, .none)]) 64
      = .ok [0x81, 0x01, 0xc0] ∧
    ∀ w, unpack_message tableLibrary sampleMessagePack (.bytes [0x81, 0x01, 0xc0]) 64 ≠ .ok w := by
  refine ⟨eq_ok_of_toOption (by decide +kernel), ?_⟩
  intro w h
  have herror : (unpack_message tableLibrary sampleMessagePack (.bytes [0x81, 0x01, 0xc0]) 64).isOk
      = false := by decide +kernel
  rw [h] at herror
  exact absurd herror (by simp [Except.isOk, Except.toBool])

end OvenRuntime
