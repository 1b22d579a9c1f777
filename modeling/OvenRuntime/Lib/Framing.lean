/-
  Lib.Framing
  ───────────
  Length-prefixed frames over bytes.  A frame is a label and a payload, each
  behind its length as a fixed-width big-endian integer.  A stream of frames
  parses in one way only: equal streams carry equal frames
  (`encodeAll_injective`).
-/
import Mathlib.Data.List.Basic
import Mathlib.Tactic.Ring

namespace Framing

/-! ## §1. Big-endian integers. -/

/-- The low `w` bytes of `n`, most significant first. -/
def bigEndian : Nat → Nat → List UInt8
  | 0, _ => []
  | w + 1, n => UInt8.ofNat (n / 256 ^ w % 256) :: bigEndian w n

@[simp] theorem length_bigEndian (w n : Nat) : (bigEndian w n).length = w := by
  induction w with
  | zero => rfl
  | succ w ih => rw [bigEndian, List.length_cons, ih]

/-- The bytes determine the number modulo `256 ^ w`. -/
theorem bigEndian_mod {w n m : Nat} (h : bigEndian w n = bigEndian w m) :
    n % 256 ^ w = m % 256 ^ w := by
  induction w with
  | zero => rw [Nat.pow_zero, Nat.mod_one, Nat.mod_one]
  | succ w ih =>
      unfold bigEndian at h
      obtain ⟨hhead, htail⟩ := List.cons.inj h
      have hlow := ih htail
      have hbyte := congrArg UInt8.toNat hhead
      simp only [UInt8.toNat_ofNat'] at hbyte
      have hhigh : n / 256 ^ w % 256 = m / 256 ^ w % 256 := by omega
      rw [Nat.pow_succ, Nat.mod_mul, Nat.mod_mul, hlow, hhigh]

theorem bigEndian_inj {w n m : Nat} (hn : n < 256 ^ w) (hm : m < 256 ^ w)
    (h : bigEndian w n = bigEndian w m) : n = m := by
  have := bigEndian_mod h
  rw [Nat.mod_eq_of_lt hn, Nat.mod_eq_of_lt hm] at this
  exact this

/-! ## §2. Frames. -/

/-- A label and a payload. -/
@[ext]
structure Frame where
  label : List UInt8
  payload : List UInt8
  deriving DecidableEq

variable (a b : Nat)

/-- Both lengths fit their fields of `a` and `b` bytes. -/
def Frame.Fits (f : Frame) : Prop := f.label.length < 256 ^ a ∧ f.payload.length < 256 ^ b

instance (f : Frame) : Decidable (f.Fits a b) :=
  inferInstanceAs (Decidable (_ ∧ _))

/-- A frame as bytes. -/
def Frame.encode (f : Frame) : List UInt8 :=
  bigEndian a f.label.length ++ f.label ++ bigEndian b f.payload.length ++ f.payload

/-- A stream of frames. -/
def encodeAll (fs : List Frame) : List UInt8 := fs.flatMap (Frame.encode a b)

theorem encodeAll_cons (f : Frame) (fs : List Frame) :
    encodeAll a b (f :: fs) = f.encode a b ++ encodeAll a b fs := rfl

variable {a b}

/-- A length-prefixed string at the head of a stream is determined. -/
theorem prefixed_inj {w : Nat} {xs ys : List UInt8} {rest rest' : List UInt8}
    (hx : xs.length < 256 ^ w) (hy : ys.length < 256 ^ w)
    (h : bigEndian w xs.length ++ (xs ++ rest) = bigEndian w ys.length ++ (ys ++ rest')) :
    xs = ys ∧ rest = rest' := by
  obtain ⟨hlen, htail⟩ := List.append_inj h (by rw [length_bigEndian, length_bigEndian])
  exact List.append_inj htail (bigEndian_inj hx hy hlen)

/-- **The first frame of a stream is determined, and so is the rest.** -/
theorem Frame.encode_append_inj {f g : Frame} {rest rest' : List UInt8} (hf : f.Fits a b)
    (hg : g.Fits a b) (h : f.encode a b ++ rest = g.encode a b ++ rest') :
    f = g ∧ rest = rest' := by
  unfold Frame.encode at h
  simp only [List.append_assoc] at h
  obtain ⟨hlabel, hmid⟩ := prefixed_inj hf.1 hg.1 h
  obtain ⟨hpayload, hrest⟩ := prefixed_inj hf.2 hg.2 hmid
  exact ⟨Frame.ext hlabel hpayload, hrest⟩

theorem Frame.encode_ne_nil (f : Frame) (ha : 0 < a) : f.encode a b ≠ [] := by
  intro h
  have hlen := congrArg List.length h
  unfold Frame.encode at hlen
  simp only [List.length_append, length_bigEndian, List.length_nil] at hlen
  omega

/-- **Unique parsing**: equal streams carry equal frames. -/
theorem encodeAll_injective (ha : 0 < a) {fs gs : List Frame} (hf : ∀ f ∈ fs, f.Fits a b)
    (hg : ∀ g ∈ gs, g.Fits a b) (h : encodeAll a b fs = encodeAll a b gs) : fs = gs := by
  induction fs generalizing gs with
  | nil =>
      cases gs with
      | nil => rfl
      | cons g gs =>
          rw [encodeAll_cons] at h
          exact absurd (List.append_eq_nil_iff.mp h.symm).1 (g.encode_ne_nil ha)
  | cons f fs ih =>
      cases gs with
      | nil =>
          rw [encodeAll_cons] at h
          exact absurd (List.append_eq_nil_iff.mp h).1 (f.encode_ne_nil ha)
      | cons g gs =>
          rw [encodeAll_cons, encodeAll_cons] at h
          obtain ⟨rfl, hrest⟩ := Frame.encode_append_inj (hf f (List.mem_cons_self ..))
            (hg g (List.mem_cons_self ..)) h
          rw [ih (fun f' hf' => hf f' (List.mem_cons_of_mem _ hf'))
            (fun g' hg' => hg g' (List.mem_cons_of_mem _ hg')) hrest]

end Framing
