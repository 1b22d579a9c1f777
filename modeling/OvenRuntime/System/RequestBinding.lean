/-
  OvenRuntime.System.RequestBinding
  ─────────────────────────────────
  What the request hash stands for.

  Both sides feed the digest the frames of one mapping of eight scalars.  The
  stream determines every frame, a frame its JSON text, and the text its
  value, so requests with one stream agree in all eight fields
  (`request_hash_binds`).
-/
import OvenRuntime.Common.HashSeparation
import OvenRuntime.Common.JsonText
import OvenRuntime.Edge.InferenceClient
import OvenRuntime.Server.Runtime

namespace OvenRuntime

open PathTree

/-! ## §1. Digests as text. -/

/-- The hexadecimal text determines the digest. -/
theorem Digest.hex_inj {d e : Digest} (h : d.hex = e.hex) : d = e := by
  have hdigit : ∀ m < 16, ∀ n < 16,
      (Fin.ofNat 0x110000 (if m < 10 then 48 + m else 87 + m) : CodePoint)
        = Fin.ofNat 0x110000 (if n < 10 then 48 + n else 87 + n) → m = n := by decide
  induction d generalizing e with
  | nil =>
      have hlen := congrArg List.length h
      rw [Digest.length_hex, Digest.length_hex] at hlen
      exact (List.length_eq_zero_iff.mp (by simpa using hlen.symm)).symm
  | cons b d ih =>
      cases e with
      | nil =>
          have hlen := congrArg List.length h
          rw [Digest.length_hex, Digest.length_hex, List.length_cons] at hlen
          exact absurd hlen (by simp)
      | cons c e =>
          have hb := b.toNat_lt
          have hc := c.toNat_lt
          obtain ⟨hhigh, hrest⟩ := List.cons.inj h
          obtain ⟨hlow, hrest⟩ := List.cons.inj hrest
          have hh := hdigit (b.toNat / 16) (by omega) (c.toNat / 16) (by omega) hhigh
          have hl := hdigit (b.toNat % 16) (by omega) (c.toNat % 16) (by omega) hlow
          rw [ih hrest, UInt8.toNat_inj.mp (show b.toNat = c.toNat by omega)]

/-! ## §2. The two streams. -/

/-- The bytes the runtime feeds to the digest of the request hash. -/
def servedStream (lib : Library) (request : InferenceRequest) (observation_hash : Digest) :
    Except PyError (List UInt8) :=
  hashStream lib
    ((Value.map (PolicyRuntime.requestHashFields request observation_hash)).toObj lib)

/-- The bytes the client feeds to it when it verifies a reply. -/
def verifiedStream (lib : Library) (request : InferenceRequest) (observation_hash : Digest) :
    Except PyError (List UInt8) :=
  hashStream lib (verifiedFields request observation_hash)

/-- The two copies of the field map are one. -/
theorem servedStream_eq (lib : Library) (request : InferenceRequest) (observation_hash : Digest) :
    servedStream lib request observation_hash = verifiedStream lib request observation_hash := rfl

/-! ## §3. Reading a stream back. -/

def strLeaf (s : PyStr) : Leaf := .scalar (py "str") (.ok (jsonString false s))

def intLeaf (i : Int) : Leaf := .scalar (py "int") (jsonInt i)

/-- The eight fields, each with its leaf. -/
def requestLeaves : List (PyStr × (InferenceRequest → Digest → Leaf)) :=
  [(py "protocol_version", fun r _ => intLeaf r.protocol_version),
   (py "session_id", fun r _ => strLeaf r.session_id),
   (py "trial_id", fun r _ => strLeaf r.trial_id),
   (py "request_kind", fun r _ => strLeaf r.request_kind.value),
   (py "expected_skill", fun r _ => strLeaf r.expected_skill),
   (py "expected_generation", fun r _ => intLeaf r.expected_generation),
   (py "sequence", fun r _ => intLeaf r.sequence),
   (py "observation_hash", fun _ h => strLeaf h.hex)]

/-- The frames of the mapping: its own, and one for each field. -/
def requestFrames (request : InferenceRequest) (observation_hash : Digest) :
    List (PyStr × Head Leaf) :=
  (py "root", .map) :: (sortByText requestLeaves).map fun e =>
    (py "root" ++ slash :: e.1, .leaf (e.2 request observation_hash))

theorem verifiedStream_eq (lib : Library) (request : InferenceRequest) (observation_hash : Digest) :
    verifiedStream lib request observation_hash =
      framesBytes (requestFrames request observation_hash) := by
  have htree : (verifiedFields request observation_hash).tree lib =
      .map (sortByText (requestLeaves.map fun e =>
        (e.1, PathTree.Tree.leaf (e.2 request observation_hash)))) := rfl
  unfold verifiedStream requestFrames
  rw [hashStream_eq, htree, sortByText_map]
  unfold frames
  rw [entriesFrames_eq, List.flatMap_map]
  rfl

/-- The leaves are plain scalars. -/
theorem requestFrames_plain (lib : Library) (request : InferenceRequest)
    (observation_hash : Digest) :
    ∀ f ∈ requestFrames request observation_hash, PlainHead lib ∅ f.2 := by
  have hleaf : ∀ e ∈ requestLeaves, e.2 request observation_hash ∈ PlainLeaf lib ∅ := by
    have hint : ∀ i, intLeaf i ∈ PlainLeaf lib ∅ := fun _ =>
      show py "int" ∈ SCALAR_NAMES by decide
    have hstr : ∀ s, strLeaf s ∈ PlainLeaf lib ∅ := fun _ =>
      show py "str" ∈ SCALAR_NAMES by decide
    simp only [requestLeaves, List.forall_mem_cons]
    exact ⟨hint _, hstr _, hstr _, hstr _, hstr _, hint _, hint _, hstr _,
      fun e he => absurd he List.not_mem_nil⟩
  intro f hf
  rcases List.mem_cons.mp hf with rfl | hf
  · trivial
  · obtain ⟨e, he, rfl⟩ := List.mem_map.mp hf
    exact hleaf e ((List.mem_insertionSort textLe).mp he)

/-- Requests with one stream have the same leaves, and all of them print. -/
theorem leaves_of_stream {lib : Library} {r r' : InferenceRequest} {h h' : Digest} {b : List UInt8}
    (hb : verifiedStream lib r h = .ok b) (hb' : verifiedStream lib r' h' = .ok b) :
    ∀ e ∈ requestLeaves, e.2 r h = e.2 r' h' ∧
      ∃ payload, headPayload (.leaf (e.2 r h)) = .ok payload := by
  rw [verifiedStream_eq] at hb hb'
  have hframes := framesBytes_plain_inj (S := ∅) (fun hS => hS.1) (requestFrames_plain lib r h)
    (requestFrames_plain lib r' h') hb hb'
  intro e he
  have hmem : e ∈ sortByText requestLeaves := (List.mem_insertionSort textLe).mpr he
  constructor
  · have hmaps := List.map_inj_left.mp (List.cons.inj hframes).2 e hmem
    exact Head.leaf.inj (congrArg Prod.snd hmaps)
  · obtain ⟨Fs, hFs, -⟩ := framesBytes_ok.mp hb
    have hf : (py "root" ++ slash :: e.1, Head.leaf (e.2 r h)) ∈ requestFrames r h :=
      List.mem_cons_of_mem _ (List.mem_map_of_mem hmem)
    obtain ⟨F, hF⟩ : ∃ F, FrameOf (py "root" ++ slash :: e.1, Head.leaf (e.2 r h)) F := by
      clear hb hb' hframes
      generalize requestFrames r h = fs at hf hFs
      induction hFs with
      | nil => exact absurd hf List.not_mem_nil
      | @cons f F fs Fs hfF _ ih =>
          rcases List.mem_cons.mp hf with rfl | hf
          · exact ⟨F, hfF⟩
          · exact ih hf
    exact ⟨_, hF.payload⟩

theorem strLeaf_inj {s t : PyStr} (h : strLeaf s = strLeaf t) : s = t :=
  jsonString_inj (Except.ok.inj (Leaf.scalar.inj h).2)

theorem intLeaf_inj {i j : Int} {payload : List UInt8} (h : intLeaf i = intLeaf j)
    (hpayload : headPayload (.leaf (intLeaf i)) = .ok payload) : i = j := by
  have htext : jsonInt i = jsonInt j := (Leaf.scalar.inj h).2
  obtain ⟨text, hi, -⟩ := scalarPayload_ok.mp hpayload
  exact jsonInt_inj hi (htext ▸ hi)

/-- **The request hash binds the request**: if the streams of two requests are
equal, so are all fields; and runtime and client hash the same bytes. -/
theorem request_hash_binds (lib : Library) :
    (∀ (r r' : InferenceRequest) (h h' : Digest) (b : List UInt8),
      servedStream lib r h = .ok b → servedStream lib r' h' = .ok b →
        r.session_id = r'.session_id ∧ r.trial_id = r'.trial_id ∧
        r.request_kind = r'.request_kind ∧ r.expected_skill = r'.expected_skill ∧
        r.expected_generation = r'.expected_generation ∧ r.sequence = r'.sequence ∧
        r.protocol_version = r'.protocol_version ∧ h = h') ∧
    ∀ (r : InferenceRequest) (h : Digest), servedStream lib r h = verifiedStream lib r h := by
  refine ⟨?_, servedStream_eq lib⟩
  intro r r' h h' b hb hb'
  rw [servedStream_eq] at hb hb'
  have hleaves := leaves_of_stream hb hb'
  simp only [requestLeaves, List.forall_mem_cons] at hleaves
  obtain ⟨⟨hversion, _, hpv⟩, ⟨hsession, -⟩, ⟨htrial, -⟩, -, ⟨hskill, -⟩,
    ⟨hgeneration, _, hpg⟩, ⟨hsequence, _, hps⟩, ⟨hhash, -⟩, -⟩ := hleaves
  have hkind : ∀ k k' : RequestKind, k = k' := by
    intro k k'
    cases k
    cases k'
    rfl
  exact ⟨strLeaf_inj hsession, strLeaf_inj htrial, hkind _ _, strLeaf_inj hskill,
    intLeaf_inj hgeneration hpg, intLeaf_inj hsequence hps, intLeaf_inj hversion hpv,
    Digest.hex_inj (strLeaf_inj hhash)⟩

/-- A request of the usual protocol. -/
def sampleRequest : InferenceRequest :=
  { protocol_version := 1, session_id := py "00000000-0000-4000-8000-000000000000"
    session_token := [], trial_id := py "run_0_open_door", request_kind := .INFER
    expected_skill := py "open_door", expected_generation := 1, sequence := 0
    sent_at_monotonic_ns := 0, observation := [] }

/-- The next request of the session has another stream. -/
theorem request_hash_binds_next :
    ∃ b, servedStream tableLibrary sampleRequest [] = .ok b ∧
      verifiedStream tableLibrary { sampleRequest with sequence := 1 } [] ≠ .ok b := by
  obtain ⟨b, hb⟩ := exists_of_isOk (r := servedStream tableLibrary sampleRequest [])
    (by decide +kernel)
  refine ⟨b, hb, ?_⟩
  intro hb'
  obtain ⟨hbinds, hsame⟩ := request_hash_binds tableLibrary
  rw [← hsame] at hb'
  have hsequence := (hbinds _ _ _ _ b hb hb').2.2.2.2.2.1
  exact absurd hsequence (by decide)

end OvenRuntime
