/-
  OvenRuntime.Common.HashSeparation
  ─────────────────────────────────
  When do equal digests come from equal trees?  A mapping does not announce how
  many entries it has, and an array without dimensions is hashed as one of
  shape `(1,)`.  Over a vocabulary of keys and shapes the bytes determine the
  tree exactly if no key is spelled like a path below another key and the two
  shapes do not both occur (`stable_tree_hash_separates_iff`).
-/
import OvenRuntime.Common.HashFrames
import Mathlib.Data.Finset.Attr

namespace OvenRuntime

open Framing PathTree

/-! ## §1. Objects over a vocabulary. -/

/-- A path the four-byte length of a label can carry. -/
def Carriable (path : PyStr) : Prop :=
  PyStr.encodable path = true ∧ (utf8Bytes path).length < 256 ^ 4

/-- A node built from a mapping with keys in `K`, a sequence, a builtin scalar
or a plain numeric array with a shape in `S`. -/
def HashNode (lib : Library) (K : Set PyStr) (S : Set (List Nat)) : PyObj → Prop
  | .dict entries => (∀ e ∈ entries, ∃ k ∈ K, e.1 = .str k) ∧ (entries.map Prod.fst).Nodup
  | .ndarray a => lib.kind a.dtype ∈ SAFE_KINDS ∧ a.shape ∈ S
  | .generic _ _ => False
  | .none | .bool _ | .int _ | .float _ | .str _ | .bytes _ | .list _ | .tuple _ => True

/-- Two objects over the vocabulary with one stream have one tree. -/
def Separates (lib : Library) (K : Set PyStr) (S : Set (List Nat)) : Prop :=
  ∀ v w : PyObj, v.All (HashNode lib K S) → w.All (HashNode lib K S) →
    ∀ s, hashStream lib v = .ok s → hashStream lib w = .ok s → v.tree lib = w.tree lib

/-- The keys of `K` that some mapping with a hash can have. -/
def usableKeys (K : Set PyStr) : Set PyStr := {k | k ∈ K ∧ Carriable (py "root" ++ slash :: k)}

variable {lib : Library} {K : Set PyStr} {S : Set (List Nat)}

/-- The tree of such an object is over the vocabulary. -/
theorem PyObj.All.over {v : PyObj} (h : v.All (HashNode lib K S)) :
    Over K (PlainLeaf lib S) (v.tree lib) := by
  have hseq : ∀ items : List PyObj, (∀ v ∈ items, Over K (PlainLeaf lib S) (v.tree lib)) →
      Over K (PlainLeaf lib S) (.seq (PyObj.itemTrees lib items)) := by
    intro items hitems
    show ItemsOver K _ _
    rw [itemsOver_iff, PyObj.itemTrees_eq]
    intro t ht
    obtain ⟨v, hv, hvt⟩ := List.mem_map.mp ht
    rw [← hvt]
    exact hitems v hv
  induction v using PyObj.induct with
  | list items ih =>
      rw [PyObj.all_list] at h
      exact hseq items fun v hv => ih v hv (h.2 v hv)
  | tuple items ih =>
      rw [PyObj.all_tuple] at h
      exact hseq items fun v hv => ih v hv (h.2 v hv)
  | dict entries ih =>
      rw [PyObj.all_dict] at h
      show EntriesOver K _ (sortByText _)
      rw [entriesOver_iff, PyObj.entryTrees_eq]
      intro e he
      unfold sortByText at he
      rw [List.mem_insertionSort, List.mem_map] at he
      obtain ⟨e', he', heq⟩ := he
      obtain ⟨k, hk, hkey⟩ := h.1.1 e' he'
      rw [← heq, hkey]
      exact ⟨hk, ih e' he' (h.2 e' he')⟩
  | ndarray a => exact h
  | generic d b => exact absurd h.root (by simp [HashNode])
  | none => exact List.mem_cons_self ..
  | bool b => exact List.mem_cons_of_mem _ (List.mem_cons_self ..)
  | int i => exact List.mem_cons_of_mem _ (List.mem_cons_of_mem _ (List.mem_cons_self ..))
  | float x => exact (by decide : py "float" ∈ SCALAR_NAMES)
  | str s => exact (by decide : py "str" ∈ SCALAR_NAMES)
  | bytes b => trivial

/-! ## §2. The keys of a hashed object. -/

theorem Carriable.init {p r : PyStr} (h : Carriable (p ++ r)) : Carriable p := by
  unfold Carriable at h ⊢
  rw [PyStr.encodable_append, Bool.and_eq_true, utf8Bytes_append, List.length_append] at h
  exact ⟨h.1.1, by omega⟩

theorem Carriable.drop {p m r : PyStr} (h : Carriable (p ++ m ++ r)) : Carriable (p ++ r) := by
  unfold Carriable at h ⊢
  simp only [PyStr.encodable_append, Bool.and_eq_true, utf8Bytes_append, List.length_append]
    at h ⊢
  exact ⟨⟨h.1.1.1, h.1.2⟩, by omega⟩

theorem FrameOf.carriable {f : PyStr × Head Leaf} {F : Frame} (h : FrameOf f F) :
    Carriable f.1 := by
  obtain ⟨hencodable, hbytes⟩ := encode_utf8_ok.mp h.label
  refine ⟨hencodable, ?_⟩
  rw [hbytes]
  exact h.fits.1

/-- Every label of a stream can be carried. -/
theorem carriable_of_framesBytes {fs : List (PyStr × Head Leaf)} {s : List UInt8}
    (h : framesBytes fs = .ok s) : ∀ f ∈ fs, Carriable f.1 := by
  obtain ⟨Fs, hFs, -⟩ := framesBytes_ok.mp h
  clear h
  induction hFs with
  | nil => exact fun f hf => absurd hf (List.not_mem_nil)
  | cons hF _ ih => exact List.forall_mem_cons.mpr ⟨hF.carriable, ih⟩

mutual

/-- The keys of a tree whose paths can be carried below the root are usable. -/
theorem Over.usable {L : Set Leaf} : ∀ (t : HashTree) (p : PyStr), Over K L t →
    (∀ f ∈ frames slash pyNat t (py "root" ++ p), Carriable f.1) → Over (usableKeys K) L t
  | .leaf _, _, h, _ => h
  | .seq ts, p, h, hp =>
      ItemsOver.usable ts p 0 h fun f hf => hp f (List.mem_cons_of_mem _ hf)
  | .map es, p, h, hp =>
      EntriesOver.usable es p h fun f hf => hp f (List.mem_cons_of_mem _ hf)

theorem ItemsOver.usable {L : Set Leaf} : ∀ (ts : List HashTree) (p : PyStr) (i : Nat),
    ItemsOver K L ts →
    (∀ f ∈ itemFrames slash pyNat ts (py "root" ++ p) i, Carriable f.1) →
    ItemsOver (usableKeys K) L ts
  | [], _, _, _, _ => trivial
  | t :: ts, p, i, h, hp => by
      unfold itemFrames at hp
      unfold ItemsOver at h ⊢
      rw [List.append_assoc] at hp
      exact ⟨Over.usable t _ h.1 fun f hf => hp f (List.mem_append_left _ hf),
        ItemsOver.usable ts p (i + 1) h.2 fun f hf => hp f (List.mem_append_right _ hf)⟩

theorem EntriesOver.usable {L : Set Leaf} : ∀ (es : List (PyStr × HashTree)) (p : PyStr),
    EntriesOver K L es →
    (∀ f ∈ entriesFrames slash pyNat es (py "root" ++ p), Carriable f.1) →
    EntriesOver (usableKeys K) L es
  | [], _, _, _ => trivial
  | (k, t) :: es, p, h, hp => by
      unfold entriesFrames entryFrames at hp
      unfold EntriesOver EntryOver at h ⊢
      have hkey : Carriable (py "root" ++ slash :: k) := by
        obtain ⟨rest, hrest⟩ := frames_eq_cons slash pyNat t (py "root" ++ p ++ slash :: k)
        apply Carriable.drop (m := p)
        apply hp (py "root" ++ p ++ slash :: k, t.head)
        rw [hrest]
        exact List.mem_append_left _ (List.mem_cons_self ..)
      rw [List.append_assoc] at hp
      exact ⟨⟨⟨h.1.1, hkey⟩, Over.usable t _ h.1.2 fun f hf => hp f (List.mem_append_left _ hf)⟩,
        EntriesOver.usable es p h.2 fun f hf => hp f (List.mem_append_right _ hf)⟩

end

/-! ## §3. Separation. -/

theorem slash_notMem_pyNat (i : Nat) : slash ∉ pyNat i := notMem_pyNat (by decide) i

mutual

/-- The leaves of a tree are those of its listing. -/
theorem Over.plainHead : ∀ (t : HashTree) (p : PyStr), Over K (PlainLeaf lib S) t →
    ∀ f ∈ frames slash pyNat t p, PlainHead lib S f.2
  | .leaf _, p, h, f, hf => by
      unfold frames at hf
      rw [List.mem_singleton.mp hf]
      exact h
  | .seq ts, p, h, f, hf => by
      unfold frames at hf
      apply (List.mem_cons.mp hf).elim
      · intro hroot
        rw [hroot]
        trivial
      · exact ItemsOver.plainHead ts p 0 h f
  | .map es, p, h, f, hf => by
      unfold frames at hf
      apply (List.mem_cons.mp hf).elim
      · intro hroot
        rw [hroot]
        trivial
      · exact EntriesOver.plainHead es p h f

theorem ItemsOver.plainHead : ∀ (ts : List HashTree) (p : PyStr) (i : Nat),
    ItemsOver K (PlainLeaf lib S) ts →
    ∀ f ∈ itemFrames slash pyNat ts p i, PlainHead lib S f.2
  | [], _, _, _, _, hf => absurd hf (List.not_mem_nil)
  | t :: ts, p, i, h, f, hf => by
      unfold itemFrames at hf
      unfold ItemsOver at h
      exact (List.mem_append.mp hf).elim (Over.plainHead t _ h.1 f)
        (ItemsOver.plainHead ts p (i + 1) h.2 f)

theorem EntriesOver.plainHead : ∀ (es : List (PyStr × HashTree)) (p : PyStr),
    EntriesOver K (PlainLeaf lib S) es →
    ∀ f ∈ entriesFrames slash pyNat es p, PlainHead lib S f.2
  | [], _, _, _, hf => absurd hf (List.not_mem_nil)
  | (k, t) :: es, p, h, f, hf => by
      unfold entriesFrames entryFrames at hf
      unfold EntriesOver EntryOver at h
      exact (List.mem_append.mp hf).elim (Over.plainHead t _ h.1.2 f)
        (EntriesOver.plainHead es p h.2 f)

end

/-- Listings of plain nodes with one stream are equal. -/
theorem framesBytes_plain_inj (hS : ¬ ([] ∈ S ∧ [1] ∈ S)) {fs gs : List (PyStr × Head Leaf)}
    {s : List UInt8} (hf : ∀ f ∈ fs, PlainHead lib S f.2) (hg : ∀ g ∈ gs, PlainHead lib S g.2)
    (hs : framesBytes fs = .ok s) (hs' : framesBytes gs = .ok s) : fs = gs := by
  have hpairs := framesBytes_inj hs hs'
  clear hs hs'
  induction hpairs with
  | nil => rfl
  | @cons f g fs gs hfg _ ih =>
      obtain ⟨hlabel, p, hp, hp'⟩ := hfg
      rw [List.forall_mem_cons] at hf hg
      have hhead := headPayload_inj hS hf.1 hg.1 hp hp'
      rw [ih hf.2 hg.2, Prod.ext hlabel hhead]

/-- **Over an unambiguous vocabulary the stream determines the tree.** -/
theorem separates_of_unambiguous (hK : Unambiguous slash pyNat (usableKeys K))
    (hS : ¬ ([] ∈ S ∧ [1] ∈ S)) : Separates lib K S := by
  intro v w hv hw s hvs hws
  rw [hashStream_eq] at hvs hws
  have hframes := framesBytes_plain_inj hS (Over.plainHead _ _ hv.over)
    (Over.plainHead _ _ hw.over) hvs hws
  have hvu : Over (usableKeys K) (PlainLeaf lib S) (v.tree lib) :=
    Over.usable _ [] hv.over (by rw [List.append_nil]; exact carriable_of_framesBytes hvs)
  have hwu : Over (usableKeys K) (PlainLeaf lib S) (w.tree lib) :=
    Over.usable _ [] hw.over (by rw [List.append_nil]; exact carriable_of_framesBytes hws)
  exact frames_injective slash_notMem_pyNat hK hvu hwu hframes

/-! ## §4. Collisions. -/

/-- The leaf of `None`. -/
def noneLeaf : Leaf := .scalar (py "NoneType") (.ok (py "null"))

theorem carriable_pathBound : PathBound slash pyNat Carriable where
  init := Carriable.init
  index := by
    intro p i j hji h
    unfold Carriable at h ⊢
    rw [PyStr.encodable_append, Bool.and_eq_true, utf8Bytes_append, List.length_append] at h ⊢
    have hdigits : ∀ n, PyStr.isAscii (slash :: pyNat n) = true := by
      intro n
      unfold PyStr.isAscii
      rw [List.all_cons, Bool.and_eq_true]
      exact ⟨by decide, isAscii_pyNat n⟩
    rw [length_utf8Bytes_of_isAscii (hdigits i), List.length_cons] at h
    rw [length_utf8Bytes_of_isAscii (hdigits j), List.length_cons]
    have := length_pyNat_mono hji
    exact ⟨⟨h.1.1, PyStr.encodable_of_isAscii (hdigits j)⟩, by omega⟩

/-- Every spine is the tree of an object over the vocabulary. -/
theorem Spine.realized (lib : Library) (S : Set (List Nat)) {t : HashTree} (h : Spine K noneLeaf t) :
    ∃ v : PyObj, v.All (HashNode lib K S) ∧ v.tree lib = t := by
  induction h with
  | leaf => exact ⟨.none, trivial, rfl⟩
  | empty =>
      refine ⟨.dict [], ?_, rfl⟩
      rw [PyObj.all_dict]
      exact ⟨⟨fun e he => absurd he (List.not_mem_nil), List.nodup_nil⟩,
        fun e he => absurd he (List.not_mem_nil)⟩
  | @entry k t hk _ ih =>
      obtain ⟨v, hv, hvt⟩ := ih
      refine ⟨.dict [(.str k, v)], ?_, ?_⟩
      · rw [PyObj.all_dict]
        refine ⟨⟨?_, List.nodup_singleton _⟩, ?_⟩
        · intro e he
          rw [List.mem_singleton.mp he]
          exact ⟨k, hk, rfl⟩
        · intro e he
          rw [List.mem_singleton.mp he]
          exact hv
      · show PathTree.Tree.map [(k, v.tree lib)] = _
        rw [hvt]
  | @items i t _ ih =>
      obtain ⟨v, hv, hvt⟩ := ih
      refine ⟨.list (List.replicate i .none ++ [v]), ?_, ?_⟩
      · rw [PyObj.all_list]
        refine ⟨trivial, ?_⟩
        intro u hu
        apply (List.mem_append.mp hu).elim
        · intro hnone
          rw [List.eq_of_mem_replicate hnone]
          trivial
        · intro hlast
          rw [List.mem_singleton.mp hlast]
          exact hv
      · show Tree.seq (PyObj.itemTrees lib _) = _
        rw [PyObj.itemTrees_eq, List.map_append, List.map_replicate, List.map_singleton, hvt]
        rfl

/-- A listing of spines whose paths can be carried has a stream. -/
theorem framesBytes_carried {fs : List (PyStr × Head Leaf)}
    (h : ∀ f ∈ fs, Carried slash pyNat Carriable noneLeaf f) : ∃ s, framesBytes fs = .ok s := by
  induction fs with
  | nil => exact ⟨[], rfl⟩
  | cons f fs ih =>
      rw [List.forall_mem_cons] at h
      obtain ⟨s, hs⟩ := ih h.2
      obtain ⟨path, head⟩ := f
      have hlabel : encode_utf8 path = .ok (utf8Bytes path) :=
        encode_utf8_ok.mpr ⟨h.1.path.1, rfl⟩
      have hpayload : ∃ p, headPayload head = .ok p ∧ p.length < 256 ^ 8 := by
        match head with
        | .map => exact ⟨_, rfl, by decide⟩
        | .leaf b =>
            rw [h.1.leaf b rfl]
            refine ⟨_, scalarPayload_ok.mpr ⟨_, rfl, by decide, rfl⟩, ?_⟩
            decide +kernel
        | .seq n =>
            obtain ⟨i, r, hn, hr⟩ := h.1.seq n rfl
            refine ⟨_, rfl, ?_⟩
            have hi := hr.2
            rw [utf8Bytes_append, List.length_append, utf8Bytes_cons, List.length_append,
              length_utf8Bytes_of_isAscii (isAscii_pyNat i)] at hi
            rw [length_asciiBytes, List.length_append, hn]
            have hnext := length_pyNat_succ_le i
            have htag : (py "sequence:").length = 9 := rfl
            omega
      obtain ⟨p, hp, hlen⟩ := hpayload
      have hframe : FrameOf (path, head) ⟨utf8Bytes path, p⟩ :=
        ⟨hlabel, hp, h.1.path.2, hlen⟩
      refine ⟨(⟨utf8Bytes path, p⟩ : Frame).encode 4 8 ++ s, ?_⟩
      rw [framesBytes_cons, frameBytes_ok.mpr ⟨_, hframe, rfl⟩, hs]
      rfl

/-- A text precedes its extensions. -/
theorem textLe_append {α : Type} (k q : PyStr) (x y : α) : textLe (k, x) (k ++ q, y) := by
  show lexLe _ k (k ++ q) = true
  induction k with
  | nil => rfl
  | cons c k ih =>
      show (if decide (c < c) = true then true else if decide (c < c) = true then false
        else lexLe _ k (k ++ q)) = true
      have hc : decide (c < c) = false := decide_eq_false (lt_irrefl c)
      rw [hc]
      exact ih

/-- An ambiguous vocabulary has two objects with one stream. -/
theorem not_separates_of_ambiguous (hK : ¬ Unambiguous slash pyNat (usableKeys K)) :
    ¬ Separates lib K S := by
  intro hsep
  obtain ⟨k, q, t, t', hk, hkq, ht, ht', hframes⟩ :=
    exists_collision carriable_pathBound noneLeaf hK
  have hup : ∀ {u : HashTree}, Spine (usableKeys K) noneLeaf u → Spine K noneLeaf u := by
    intro u hu
    induction hu with
    | leaf => exact Spine.leaf
    | empty => exact Spine.empty
    | entry hk _ ih => exact Spine.entry hk.1 ih
    | items _ ih => exact Spine.items ih
  obtain ⟨v, hv, hvt⟩ := Spine.realized lib S (hup ht)
  obtain ⟨v', hv', hvt'⟩ := Spine.realized lib S (hup ht')
  have hne : k ≠ k ++ slash :: q := by
    intro heq
    have hlen := congrArg List.length heq
    rw [List.length_append, List.length_cons] at hlen
    omega
  -- the two mappings: one entry, or two of which one is spelled like a path
  have hone : (PyObj.dict [(.str k, v)]).All (HashNode lib K S) := by
    rw [PyObj.all_dict]
    refine ⟨⟨?_, List.nodup_singleton _⟩, ?_⟩
    · intro e he
      rw [List.mem_singleton.mp he]
      exact ⟨k, hk.1, rfl⟩
    · intro e he
      rw [List.mem_singleton.mp he]
      exact hv
  have htwo : (PyObj.dict [(.str k, v'), (.str (k ++ slash :: q), .none)]).All
      (HashNode lib K S) := by
    rw [PyObj.all_dict]
    refine ⟨⟨?_, ?_⟩, ?_⟩
    · rw [List.forall_mem_cons, List.forall_mem_singleton]
      exact ⟨⟨k, hk.1, rfl⟩, _, hkq.1, rfl⟩
    · simp [hne]
    · rw [List.forall_mem_cons, List.forall_mem_singleton]
      exact ⟨hv', trivial⟩
  have htree : (PyObj.dict [(.str k, v)]).tree lib = .map [(k, t)] := by
    rw [← hvt]
    rfl
  have htree' : (PyObj.dict [(.str k, v'), (.str (k ++ slash :: q), .none)]).tree lib
      = .map [(k, t'), (k ++ slash :: q, .leaf noneLeaf)] := by
    show PathTree.Tree.map (List.orderedInsert textLe (k, v'.tree lib) [(k ++ slash :: q, _)]) = _
    rw [List.orderedInsert_cons, if_pos (textLe_append k _ _ _), hvt']
    rfl
  obtain ⟨hlist, hcarried⟩ := hframes (py "root")
  obtain ⟨s, hs⟩ := framesBytes_carried (hcarried hkq.2)
  have hstream : hashStream lib (.dict [(.str k, v)]) = .ok s := by
    rw [hashStream_eq, htree]
    exact hs
  have hstream' : hashStream lib (.dict [(.str k, v'), (.str (k ++ slash :: q), .none)])
      = .ok s := by
    rw [hashStream_eq, htree', ← hlist]
    exact hs
  have heq := hsep _ _ hone htwo s hstream hstream'
  rw [htree, htree'] at heq
  exact absurd (PathTree.Tree.map.inj heq) (by simp)

/-- A byte without dimensions, and the same byte in one dimension. -/
theorem not_separates_of_shapes (hnil : [] ∈ S) (hone : [1] ∈ S) : ¬ Separates lib K S := by
  intro hsep
  have hview : ∀ n : List Nat, n.prod = 1 →
      ((NdArray.toArray lib ⟨py "uint8", n, [0]⟩).view lib) = ⟨py "uint8", n, [0]⟩ := by
    intro n hn
    apply NdArray.view_toArray
    show 1 = n.prod * lib.itemsize (py "uint8")
    rw [hn, lib.uint8.2]
  have hnode : ∀ n : List Nat, n.prod = 1 → n ∈ S →
      (PyObj.ndarray (NdArray.toArray lib ⟨py "uint8", n, [0]⟩)).All (HashNode lib K S) := by
    intro n _ hmem
    refine ⟨lib.uint8.1, ?_⟩
    have hshape : (NdArray.toArray lib ⟨py "uint8", n, [0]⟩).shape = n :=
      Strided.map_fst_packed ..
    rw [hshape]
    exact hmem
  have htree : ∀ n : List Nat, n.prod = 1 →
      (PyObj.ndarray (NdArray.toArray lib ⟨py "uint8", n, [0]⟩)).tree lib
        = .leaf (.array ⟨py "uint8", n, [0]⟩) := by
    intro n hn
    show PathTree.Tree.leaf (Leaf.array ((NdArray.toArray lib ⟨py "uint8", n, [0]⟩).view lib)) = _
    rw [hview n hn]
  have hframe : ∃ s, frameBytes (py "root", .leaf (.array ⟨py "uint8", [1], [0]⟩)) = .ok s :=
    exists_of_isOk (by decide +kernel)
  obtain ⟨s, hs⟩ := hframe
  have hstream : ∀ n : List Nat, n.prod = 1 → atLeastOne n = [1] →
      hashStream lib (.ndarray (NdArray.toArray lib ⟨py "uint8", n, [0]⟩)) = .ok s := by
    intro n hn hat
    rw [hashStream_eq, htree n hn]
    unfold frames
    rw [framesBytes_singleton, ← hs]
    unfold frameBytes headPayload
    simp only [hat]
    rfl
  have heq := hsep _ _ (hnode [] rfl hnil) (hnode [1] rfl hone) s (hstream [] rfl rfl)
    (hstream [1] rfl rfl)
  rw [htree [] rfl, htree [1] rfl] at heq
  exact absurd heq (by simp)

/-! ## §5. The exact condition. -/

/-- **Over a vocabulary of keys and shapes, equal streams come from equal trees
exactly if no usable key is spelled like a path below another one and the
shapes `()` and `(1,)` do not both occur.** -/
theorem stable_tree_hash_separates_iff (lib : Library) (K : Set PyStr) (S : Set (List Nat)) :
    Separates lib K S ↔
      Unambiguous slash pyNat (usableKeys K) ∧ ¬ ([] ∈ S ∧ [1] ∈ S) := by
  constructor
  · intro hsep
    constructor
    · by_contra hK
      exact not_separates_of_ambiguous hK hsep
    · intro hS
      exact not_separates_of_shapes hS.1 hS.2 hsep
  · intro h
    exact separates_of_unambiguous h.1 h.2

/-- An empty mapping beside a key with a slash. -/
def slashed : PyObj := .dict [(.str (py "a"), .dict []), (.str (py "a/b"), .int 1)]

/-- The mapping nested where the slash stands. -/
def nested : PyObj := .dict [(.str (py "a"), .dict [(.str (py "b"), .int 1)])]

/-- Two mappings with one stream and different trees. -/
theorem stable_tree_hash_collision :
    slashed.All (HashNode tableLibrary Set.univ Set.univ) ∧
    nested.All (HashNode tableLibrary Set.univ Set.univ) ∧
    (∃ s, hashStream tableLibrary slashed = .ok s ∧ hashStream tableLibrary nested = .ok s) ∧
    slashed.tree tableLibrary ≠ nested.tree tableLibrary := by
  refine ⟨?_, ?_, ?_, ?_⟩
  · have hne : py "a" ≠ py "a/b" := by decide
    have hint : (PyObj.int 1).All (HashNode tableLibrary Set.univ Set.univ) := trivial
    simp [slashed, HashNode, hne, hint]
  · have hint : (PyObj.int 1).All (HashNode tableLibrary Set.univ Set.univ) := trivial
    simp [nested, HashNode, hint]
  · have heq : hashStream tableLibrary slashed = hashStream tableLibrary nested := by
      decide +kernel
    obtain ⟨s, hs⟩ := exists_of_isOk (r := hashStream tableLibrary nested) (by decide +kernel)
    exact ⟨s, heq.trans hs, hs⟩
  · intro heq
    have hlen : (PyObj.entryTrees tableLibrary
        [(.str (py "a"), .dict []), (.str (py "a/b"), .int 1)]).length = 1 := by
      have hentries := PathTree.Tree.map.inj heq
      have hcount := congrArg List.length hentries
      unfold sortByText at hcount
      rw [List.length_insertionSort, List.length_insertionSort] at hcount
      exact hcount
    exact absurd hlen (by decide)

end OvenRuntime
