/-
  OvenRuntime.Common.HashFrames
  ─────────────────────────────
  Reading the bytes of the digest back: equal bytes carry equal labels and
  equal payloads (`framesBytes_inj`), and a payload tells what kind of node it
  stands for (`headPayload_inj`).
-/
import OvenRuntime.Common.Hashing

namespace OvenRuntime

open Framing PathTree

/-! ## §1. Calls that return. -/

/-- The frame a call of `_framed` writes. -/
structure FrameOf (f : PyStr × Head Leaf) (F : Frame) : Prop where
  label : encode_utf8 f.1 = .ok F.label
  payload : headPayload f.2 = .ok F.payload
  fits : F.Fits 4 8

theorem to_bytes_ok {n w : Nat} {b : List UInt8} :
    to_bytes n w = .ok b ↔ n < 256 ^ w ∧ bigEndian w n = b := by
  unfold to_bytes
  split
  · next h => simp [h]
  · next h => simp [h]

theorem frameBytes_ok {f : PyStr × Head Leaf} {b : List UInt8} :
    frameBytes f = .ok b ↔ ∃ F, FrameOf f F ∧ F.encode 4 8 = b := by
  unfold frameBytes _framed
  constructor
  · intro h
    cases hpayload : headPayload f.2 with
    | error e => rw [hpayload] at h; exact absurd h (by simp [bind, Except.bind])
    | ok payload =>
      cases hlabel : encode_utf8 f.1 with
      | error e => rw [hpayload, hlabel] at h; exact absurd h (by simp [bind, Except.bind])
      | ok label =>
        cases hl : to_bytes label.length 4 with
        | error e => rw [hpayload, hlabel] at h; simp [bind, Except.bind, hl] at h
        | ok ll =>
          cases hp : to_bytes payload.length 8 with
          | error e => rw [hpayload, hlabel] at h; simp [bind, Except.bind, hl, hp] at h
          | ok pl =>
            rw [hpayload, hlabel] at h
            simp only [bind, Except.bind, hl, hp, pure, Except.pure, Except.ok.injEq] at h
            rw [to_bytes_ok] at hl hp
            refine ⟨⟨label, payload⟩, ⟨hlabel, hpayload, hl.1, hp.1⟩, ?_⟩
            unfold Frame.encode
            rw [hl.2, hp.2, h]
  · intro h
    obtain ⟨F, hF, hb⟩ := h
    have hl : to_bytes F.label.length 4 = .ok (bigEndian 4 F.label.length) :=
      to_bytes_ok.mpr ⟨hF.fits.1, rfl⟩
    have hp : to_bytes F.payload.length 8 = .ok (bigEndian 8 F.payload.length) :=
      to_bytes_ok.mpr ⟨hF.fits.2, rfl⟩
    rw [hF.payload, hF.label]
    simp only [bind, Except.bind, hl, hp, pure, Except.pure, Except.ok.injEq]
    rw [← hb]
    rfl

/-- A walk that returns wrote a stream of frames. -/
theorem framesBytes_ok {fs : List (PyStr × Head Leaf)} {s : List UInt8} :
    framesBytes fs = .ok s ↔ ∃ Fs, List.Forall₂ FrameOf fs Fs ∧ encodeAll 4 8 Fs = s := by
  induction fs generalizing s with
  | nil =>
      constructor
      · intro h
        exact ⟨[], List.Forall₂.nil, Except.ok.inj h⟩
      · intro h
        obtain ⟨Fs, hFs, hs⟩ := h
        rw [List.forall₂_nil_left_iff.mp hFs] at hs
        rw [← hs]
        rfl
  | cons f fs ih =>
      rw [framesBytes_cons]
      constructor
      · intro h
        cases hf : frameBytes f with
        | error e => rw [hf] at h; exact absurd h (by simp [bind, Except.bind])
        | ok a =>
          cases hfs : framesBytes fs with
          | error e => rw [hf, hfs] at h; exact absurd h (by simp [bind, Except.bind])
          | ok b =>
            rw [hf, hfs] at h
            obtain ⟨F, hF, ha⟩ := frameBytes_ok.mp hf
            obtain ⟨Fs, hFs, hb⟩ := ih.mp hfs
            refine ⟨F :: Fs, List.Forall₂.cons hF hFs, ?_⟩
            rw [encodeAll_cons, ha, hb]
            exact Except.ok.inj h
      · intro h
        obtain ⟨Gs, hGs, hs⟩ := h
        obtain ⟨F, Fs, hF, hFs, hcons⟩ := List.forall₂_cons_left_iff.mp hGs
        rw [frameBytes_ok.mpr ⟨F, hF, rfl⟩, ih.mpr ⟨Fs, hFs, rfl⟩]
        rw [hcons, encodeAll_cons] at hs
        rw [← hs]
        rfl

/-- **Equal bytes carry equal labels and equal payloads.** -/
theorem framesBytes_inj {fs gs : List (PyStr × Head Leaf)} {s : List UInt8}
    (hf : framesBytes fs = .ok s) (hg : framesBytes gs = .ok s) :
    List.Forall₂ (fun f g => f.1 = g.1 ∧ ∃ p, headPayload f.2 = .ok p ∧ headPayload g.2 = .ok p)
      fs gs := by
  obtain ⟨Fs, hFs, hs⟩ := framesBytes_ok.mp hf
  obtain ⟨Gs, hGs, hs'⟩ := framesBytes_ok.mp hg
  have hfits : ∀ {hs : List (PyStr × Head Leaf)} {Hs : List Frame},
      List.Forall₂ FrameOf hs Hs → ∀ F ∈ Hs, F.Fits 4 8 := by
    intro hs Hs h
    induction h with
    | nil => exact fun F hF => absurd hF (List.not_mem_nil)
    | cons hhead _ ih => exact List.forall_mem_cons.mpr ⟨hhead.fits, ih⟩
  have heq : Fs = Gs :=
    encodeAll_injective (by decide) (hfits hFs) (hfits hGs) (hs.trans hs'.symm)
  rw [← heq] at hGs
  clear hf hg hs hs' heq hfits
  induction hFs generalizing gs with
  | nil =>
      rw [List.forall₂_nil_right_iff.mp hGs]
      exact List.Forall₂.nil
  | @cons f F fs Fs hF _ ih =>
      obtain ⟨g, gs', hg, hgs, hcons⟩ := List.forall₂_cons_right_iff.mp hGs
      rw [hcons]
      refine List.Forall₂.cons ⟨encode_utf8_inj hF.label hg.label, F.payload, hF.payload,
        hg.payload⟩ (ih hgs)

/-! ## §2. What a payload says. -/

theorem scalarPayload_ok {name : PyStr} {text : Except PyError PyStr} {p : List UInt8} :
    scalarPayload name text = .ok p ↔ ∃ t, text = .ok t ∧ PyStr.encodable t = true ∧
      asciiBytes (py "scalar:" ++ name ++ py ":") ++ utf8Bytes t = p := by
  unfold scalarPayload
  cases text with
  | error e => simp [bind, Except.bind]
  | ok t =>
      cases h : encode_utf8 t with
      | error e =>
          have hn : ¬ PyStr.encodable t = true := by
            intro ht
            rw [encode_utf8_ok.mpr ⟨ht, rfl⟩] at h
            exact absurd h (by simp)
          simp [bind, Except.bind, h, hn]
      | ok b =>
          rw [encode_utf8_ok] at h
          simp [bind, Except.bind, pure, Except.pure, h.1, encode_utf8]

theorem arrayPayload_ok {a : NdArray} {p : List UInt8} :
    arrayPayload a = .ok p ↔ (arrayMetadata a.dtype a.shape).isAscii = true ∧
      asciiBytes (py "array:" ++ arrayMetadata a.dtype a.shape ++ py ":") ++ a.data = p := by
  unfold arrayPayload encode_ascii
  split
  · next h =>
      simp only [asciiBytes_append, bind, Except.bind, pure, Except.pure, Except.ok.injEq, h,
        true_and]
  · next h => simp [bind, Except.bind, h]

/-- The first two bytes of a payload. -/
def headTag : Head Leaf → List UInt8
  | .map => [109, 97]
  | .seq _ => [115, 101]
  | .leaf (.bytes _) => [98, 121]
  | .leaf (.scalar _ _) => [115, 99]
  | .leaf (.array _) => [97, 114]

/-- A payload starts with the tag of its kind. -/
theorem headPayload_tag {h : Head Leaf} {p : List UInt8} (hp : headPayload h = .ok p) :
    p.take 2 = headTag h := by
  match h with
  | .map => rw [← Except.ok.inj hp]; rfl
  | .seq n => rw [← Except.ok.inj hp]; rfl
  | .leaf (.bytes b) => rw [← Except.ok.inj hp]; rfl
  | .leaf (.scalar name text) =>
      obtain ⟨t, -, -, ht⟩ := scalarPayload_ok.mp hp
      rw [← ht]
      rfl
  | .leaf (.array a) =>
      rw [← (arrayPayload_ok.mp hp).2]
      rfl

/-- The characters with the given bytes as code points. -/
def latin1 (b : List UInt8) : PyStr :=
  b.map fun x => ⟨x.toNat, Nat.lt_trans x.toNat_lt (by decide)⟩

theorem latin1_inj {b b' : List UInt8} (h : latin1 b = latin1 b') : b = b' := by
  apply List.map_injective_iff.mpr _ h
  intro x y hxy
  exact UInt8.toNat_inj.mp (Fin.mk.inj hxy)

theorem latin1_asciiBytes {s : PyStr} (h : s.isAscii = true) (rest : List UInt8) :
    latin1 (asciiBytes s ++ rest) = s ++ latin1 rest := by
  unfold latin1 asciiBytes
  rw [List.map_append, List.map_map]
  congr 1
  unfold PyStr.isAscii at h
  rw [List.all_eq_true] at h
  apply (List.map_congr_left _).trans (List.map_id s)
  intro c hc
  have hlt := of_decide_eq_true (h c hc)
  apply Fin.ext
  show (UInt8.ofNat c.val).toNat = c.val
  rw [UInt8.toNat_ofNat']
  omega

/-- The names of the builtin scalar types. -/
def SCALAR_NAMES : List PyStr := [py "NoneType", py "bool", py "int", py "float", py "str"]

/-- The leaves of builtin scalars, byte strings and plain numeric arrays with a
shape in `S`. -/
def PlainLeaf (lib : Library) (S : Set (List Nat)) : Set Leaf := fun
  | .bytes _ => True
  | .scalar name _ => name ∈ SCALAR_NAMES
  | .array a => lib.kind a.dtype ∈ SAFE_KINDS ∧ a.shape ∈ S

/-- A frame head over those leaves. -/
def PlainHead (lib : Library) (S : Set (List Nat)) : Head Leaf → Prop
  | .leaf b => b ∈ PlainLeaf lib S
  | .seq _ => True
  | .map => True

/-- Two shapes the contiguous copy does not tell apart are `()` and `(1,)`. -/
theorem atLeastOne_inj {S : Set (List Nat)} (hS : ¬ ([] ∈ S ∧ [1] ∈ S)) {n m : List Nat}
    (hn : n ∈ S) (hm : m ∈ S) (h : atLeastOne n = atLeastOne m) : n = m := by
  unfold atLeastOne at h
  by_cases h₁ : n = []
  · rw [if_pos h₁] at h
    by_cases h₂ : m = []
    · rw [h₁, h₂]
    · rw [if_neg h₂] at h
      rw [h₁] at hn
      rw [← h] at hm
      exact absurd ⟨hn, hm⟩ hS
  · rw [if_neg h₁] at h
    by_cases h₂ : m = []
    · rw [if_pos h₂] at h
      rw [h] at hn
      rw [h₂] at hm
      exact absurd ⟨hm, hn⟩ hS
    · rw [if_neg h₂] at h
      exact h

/-- The payload of a scalar determines its type's name and its text. -/
theorem scalarPayload_inj {name name' : PyStr} {text text' : Except PyError PyStr}
    {p : List UInt8} (hn : name ∈ SCALAR_NAMES) (hn' : name' ∈ SCALAR_NAMES)
    (hp : scalarPayload name text = .ok p) (hp' : scalarPayload name' text' = .ok p) :
    name = name' ∧ text = text' := by
  obtain ⟨t, ht, hte, hb⟩ := scalarPayload_ok.mp hp
  obtain ⟨t', ht', hte', hb'⟩ := scalarPayload_ok.mp hp'
  have hall : ∀ m ∈ SCALAR_NAMES, m.isAscii = true ∧ (58 : UInt8) ∉ asciiBytes m := by decide
  rw [← hb'] at hb
  simp only [asciiBytes_append, List.append_assoc, List.append_cancel_left_eq] at hb
  obtain ⟨hname, htext⟩ := split_at_mark (hall name hn).2 (hall name' hn').2 hb
  have htt : t = t' := utf8Bytes_inj hte hte' htext
  rw [ht, ht', htt]
  exact ⟨asciiBytes_inj (hall name hn).1 (hall name' hn').1 hname, rfl⟩

/-- The payload of a plain array determines dtype, shape and contents. -/
theorem arrayPayload_inj {a a' : NdArray} {p : List UInt8}
    (hp : arrayPayload a = .ok p) (hp' : arrayPayload a' = .ok p)
    (ha : a.dtype.all CodePoint.isPlain = true) (ha' : a'.dtype.all CodePoint.isPlain = true) :
    a.dtype = a'.dtype ∧ a.shape = a'.shape ∧ a.data = a'.data := by
  obtain ⟨hascii, hb⟩ := arrayPayload_ok.mp hp
  obtain ⟨hascii', hb'⟩ := arrayPayload_ok.mp hp'
  rw [← hb'] at hb
  simp only [asciiBytes_append, List.append_assoc, List.append_cancel_left_eq] at hb
  have htext := congrArg latin1 hb
  rw [latin1_asciiBytes hascii, latin1_asciiBytes hascii'] at htext
  obtain ⟨hdtype, hshape, hrest⟩ := arrayMetadata_append_inj ha ha' htext
  have hdata := latin1_inj hrest
  rw [List.append_cancel_left_eq] at hdata
  exact ⟨hdtype, hshape, hdata⟩

/-- **A payload determines the node**, where the shapes `()` and `(1,)` do not
both occur. -/
theorem headPayload_inj {lib : Library} {S : Set (List Nat)} (hS : ¬ ([] ∈ S ∧ [1] ∈ S))
    {h h' : Head Leaf} {p : List UInt8} (hh : PlainHead lib S h) (hh' : PlainHead lib S h')
    (hp : headPayload h = .ok p) (hp' : headPayload h' = .ok p) : h = h' := by
  have htag : headTag h = headTag h' := (headPayload_tag hp).symm.trans (headPayload_tag hp')
  match h, h' with
  | .map, .map => rfl
  | .map, .seq n | .map, .leaf (.bytes b) | .map, .leaf (.scalar n t) | .map, .leaf (.array a)
  | .seq n, .map | .seq n, .leaf (.bytes b) | .seq n, .leaf (.scalar m t)
  | .seq n, .leaf (.array a) | .leaf (.bytes b), .map | .leaf (.bytes b), .seq n
  | .leaf (.bytes b), .leaf (.scalar n t) | .leaf (.bytes b), .leaf (.array a)
  | .leaf (.scalar n t), .map | .leaf (.scalar n t), .seq m
  | .leaf (.scalar n t), .leaf (.bytes b) | .leaf (.scalar n t), .leaf (.array a)
  | .leaf (.array a), .map | .leaf (.array a), .seq n | .leaf (.array a), .leaf (.bytes b)
  | .leaf (.array a), .leaf (.scalar n t) => exact absurd htag (by simp [headTag])
  | .seq n, .seq m =>
      have heq := (Except.ok.inj hp).trans (Except.ok.inj hp').symm
      have hascii : ∀ k, PyStr.isAscii (py "sequence:" ++ pyNat k) = true := by
        intro k
        show List.all (_ ++ _) _ = true
        rw [List.all_append, Bool.and_eq_true]
        exact ⟨by decide, isAscii_pyNat k⟩
      rw [pyNat_inj (List.append_cancel_left (asciiBytes_inj (hascii n) (hascii m) heq))]
  | .leaf (.bytes b), .leaf (.bytes b') =>
      have heq := (Except.ok.inj hp).trans (Except.ok.inj hp').symm
      rw [List.append_cancel_left heq]
  | .leaf (.scalar n t), .leaf (.scalar n' t') =>
      obtain ⟨hname, htext⟩ := scalarPayload_inj hh hh' hp hp'
      rw [hname, htext]
  | .leaf (.array a), .leaf (.array a') =>
      have hp : arrayPayload { a with shape := atLeastOne a.shape } = .ok p := hp
      have hp' : arrayPayload { a' with shape := atLeastOne a'.shape } = .ok p := hp'
      obtain ⟨hdtype, hshape, hdata⟩ := arrayPayload_inj hp hp'
        (lib.text_of_safe _ hh.1).1 (lib.text_of_safe _ hh'.1).1
      have hshapes : a.shape = a'.shape := atLeastOne_inj hS hh.2 hh'.2 hshape
      obtain ⟨d, n, b⟩ := a
      obtain ⟨d', n', b'⟩ := a'
      simp only at hdtype hshapes hdata
      rw [hdtype, hshapes, hdata]

end OvenRuntime
