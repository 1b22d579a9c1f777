/-
  OvenRuntime.Common.Encoding
  ───────────────────────────
  From text and numbers to bytes: `str.encode`, `int.to_bytes` and the decimal
  digits of `str(n)`, each with the lemma that it loses nothing.
-/
import OvenRuntime.Common.Errors
import OvenRuntime.Lib.Framing

namespace OvenRuntime

/-! ## §1. UTF-8. -/

/-- The character of a code point; surrogates have none. -/
def CodePoint.toChar (c : CodePoint) : Char := Char.ofNat c.val

/-- The UTF-8 bytes of an encodable string. -/
def utf8Bytes (s : PyStr) : List UInt8 := s.flatMap fun c => String.utf8EncodeChar c.toChar

/-- `s.encode("utf-8")`. -/
def encode_utf8 (s : PyStr) : Except PyError (List UInt8) :=
  if s.encodable then .ok (utf8Bytes s) else .error .UnicodeEncodeError

/-- A code point that is no surrogate is the character with its number. -/
theorem CodePoint.toNat_toChar {c : CodePoint} (h : c.isSurrogate = false) :
    c.toChar.toNat = c.val := by
  have hvalid : Nat.isValidChar c.val := by
    simp only [CodePoint.isSurrogate, Bool.and_eq_false_iff, decide_eq_false_iff_not] at h
    have hlt := c.isLt
    unfold Nat.isValidChar
    omega
  unfold CodePoint.toChar Char.ofNat
  rw [dif_pos hvalid]
  rfl

/-- Text is encoded from left to right, with no state between the characters. -/
theorem utf8Bytes_append (s t : PyStr) : utf8Bytes (s ++ t) = utf8Bytes s ++ utf8Bytes t :=
  List.flatMap_append

/-- The bytes of the first character come first. -/
theorem utf8Bytes_cons (c : CodePoint) (s : PyStr) :
    utf8Bytes (c :: s) = String.utf8EncodeChar c.toChar ++ utf8Bytes s := rfl

/-- A text can be encoded exactly if both of its parts can. -/
theorem PyStr.encodable_append {s t : PyStr} :
    PyStr.encodable (s ++ t) = (PyStr.encodable s && PyStr.encodable t) :=
  List.all_append

/-- The bytes of a string are those of Lean's encoder on its characters. -/
theorem utf8Bytes_eq (s : PyStr) :
    (s.map CodePoint.toChar).utf8Encode = (utf8Bytes s).toByteArray := by
  unfold List.utf8Encode utf8Bytes
  rw [List.flatMap_map]

/-- UTF-8 is injective on the strings it encodes. -/
theorem utf8Bytes_inj {s t : PyStr} (hs : s.encodable = true) (ht : t.encodable = true)
    (h : utf8Bytes s = utf8Bytes t) : s = t := by
  have hchars : s.map CodePoint.toChar = t.map CodePoint.toChar := by
    have hbytes : (s.map CodePoint.toChar).utf8Encode = (t.map CodePoint.toChar).utf8Encode := by
      rw [utf8Bytes_eq, utf8Bytes_eq, h]
    have hdecode := congrArg (fun b => (ByteArray.utf8Decode? b).map Array.toList) hbytes
    simpa using hdecode
  clear h
  induction s generalizing t with
  | nil =>
      rw [List.map_nil, eq_comm, List.map_eq_nil_iff] at hchars
      exact hchars.symm
  | cons c s ih =>
      cases t with
      | nil => exact absurd hchars (by simp)
      | cons d t =>
          simp only [PyStr.encodable, List.all_cons, Bool.and_eq_true, Bool.not_eq_true'] at hs ht
          obtain ⟨hhead, htail⟩ := List.cons.inj hchars
          have hval : c.val = d.val := by
            rw [← CodePoint.toNat_toChar hs.1, ← CodePoint.toNat_toChar ht.1, hhead]
          rw [Fin.ext hval, ih hs.2 ht.2 htail]

/-- Encoding goes through exactly if there is no surrogate in the text. -/
theorem encode_utf8_ok {s : PyStr} {b : List UInt8} :
    encode_utf8 s = .ok b ↔ s.encodable = true ∧ utf8Bytes s = b := by
  unfold encode_utf8
  split
  · next h => simp [h]
  · next h => simp [h]

/-- Texts with the same bytes are the same, since the bytes can be decoded. -/
theorem encode_utf8_inj {s t : PyStr} {b : List UInt8} (hs : encode_utf8 s = .ok b)
    (ht : encode_utf8 t = .ok b) : s = t := by
  rw [encode_utf8_ok] at hs ht
  exact utf8Bytes_inj hs.1 ht.1 (hs.2.trans ht.2.symm)

/-- A character takes at most four bytes. -/
theorem length_utf8Bytes_le (s : PyStr) : (utf8Bytes s).length ≤ 4 * s.length := by
  induction s with
  | nil => exact Nat.le_refl 0
  | cons c s ih =>
      rw [utf8Bytes_cons, List.length_append, String.length_utf8EncodeChar, List.length_cons]
      have := Char.utf8Size_le_four c.toChar
      omega

/-- A character takes at least one byte. -/
theorem length_le_utf8Bytes (s : PyStr) : s.length ≤ (utf8Bytes s).length := by
  induction s with
  | nil => exact Nat.le_refl 0
  | cons c s ih =>
      rw [utf8Bytes_cons, List.length_append, String.length_utf8EncodeChar, List.length_cons]
      have := Char.utf8Size_pos c.toChar
      omega

/-- An ASCII string has one byte a character. -/
theorem length_utf8Bytes_of_isAscii {s : PyStr} (h : s.isAscii = true) :
    (utf8Bytes s).length = s.length := by
  unfold PyStr.isAscii at h
  induction s with
  | nil => rfl
  | cons c s ih =>
      rw [List.all_cons, Bool.and_eq_true, decide_eq_true_eq] at h
      have hsur : c.isSurrogate = false := by
        simp only [CodePoint.isSurrogate, Bool.and_eq_false_iff, decide_eq_false_iff_not]
        omega
      have hsize : c.toChar.utf8Size = 1 := by
        rw [Char.utf8Size_eq_one_iff, UInt32.le_iff_toNat_le]
        have hval := CodePoint.toNat_toChar hsur
        show c.toChar.toNat ≤ 127
        omega
      rw [utf8Bytes_cons, List.length_append, String.length_utf8EncodeChar, hsize, ih h.2,
        List.length_cons]
      omega

/-! ## §2. ASCII. -/

/-- The byte of an ASCII character. -/
def CodePoint.toByte (c : CodePoint) : UInt8 := UInt8.ofNat c.val

/-- A text is ASCII exactly if both of its parts are. -/
theorem PyStr.isAscii_append {s t : PyStr} :
    PyStr.isAscii (s ++ t) = (PyStr.isAscii s && PyStr.isAscii t) :=
  List.all_append

/-- The bytes of an ASCII string. -/
def asciiBytes (s : PyStr) : List UInt8 := s.map CodePoint.toByte

/-- `s.encode("ascii")`. -/
def encode_ascii (s : PyStr) : Except PyError (List UInt8) :=
  if s.isAscii then .ok (asciiBytes s) else .error .UnicodeEncodeError

/-- Below 128 the byte is the number of the character. -/
theorem CodePoint.toByte_inj {c d : CodePoint} (hc : c.val < 128) (hd : d.val < 128)
    (h : c.toByte = d.toByte) : c = d := by
  have hnat := congrArg UInt8.toNat h
  unfold CodePoint.toByte at hnat
  simp only [UInt8.toNat_ofNat'] at hnat
  apply Fin.ext
  omega

/-- ASCII texts with the same bytes are the same. -/
theorem asciiBytes_inj {s t : PyStr} (hs : s.isAscii = true) (ht : t.isAscii = true)
    (h : asciiBytes s = asciiBytes t) : s = t := by
  unfold PyStr.isAscii at hs ht
  rw [List.all_eq_true] at hs ht
  induction s generalizing t with
  | nil => exact (List.map_eq_nil_iff.mp h.symm).symm
  | cons c s ih =>
      cases t with
      | nil => exact absurd h (by simp [asciiBytes])
      | cons d t =>
          obtain ⟨hhead, htail⟩ := List.cons.inj h
          have hc := of_decide_eq_true (hs c (List.mem_cons_self ..))
          have hd := of_decide_eq_true (ht d (List.mem_cons_self ..))
          rw [CodePoint.toByte_inj hc hd hhead,
            ih (fun x hx => hs x (List.mem_cons_of_mem _ hx))
              (fun x hx => ht x (List.mem_cons_of_mem _ hx)) htail]

/-- ASCII text is encoded one character, one byte, from left to right. -/
theorem asciiBytes_append (s t : PyStr) : asciiBytes (s ++ t) = asciiBytes s ++ asciiBytes t :=
  List.map_append

/-- One byte for each character. -/
@[simp] theorem length_asciiBytes (s : PyStr) : (asciiBytes s).length = s.length :=
  List.length_map ..

/-! ## §3. `int.to_bytes`. -/

/-- `n.to_bytes(width, "big")`. -/
def to_bytes (n width : Nat) : Except PyError (List UInt8) :=
  if n < 256 ^ width then .ok (Framing.bigEndian width n) else .error .OverflowError

/-! ## §4. Decimal digits. -/

/-- `[0-9]`. -/
def CodePoint.isDigit (c : CodePoint) : Bool := 48 ≤ c.val && c.val ≤ 57

/-- The numbers of characters are code points. -/
theorem char_toNat_lt (c : Char) : c.toNat < 0x110000 := by
  have h := c.valid
  simp only [UInt32.isValidChar, Nat.isValidChar] at h
  show c.val.toNat < _
  omega

/-- The decimal text of a number, its digits taken over as code points. -/
theorem pyNat_eq (n : Nat) :
    pyNat n = (Nat.toDigits 10 n).map fun c =>
      (⟨c.toNat % 0x110000, Nat.mod_lt _ (by decide)⟩ : CodePoint) := by
  unfold pyNat py
  rw [Nat.toString_eq_ofList_toDigits, String.toList_ofList]

/-- Every number has a digit. -/
theorem pyNat_ne_nil (n : Nat) : pyNat n ≠ [] := by
  rw [pyNat_eq]
  intro h
  exact Nat.toDigits_ne_nil (List.map_eq_nil_iff.mp h)

/-- The decimal text of a number consists of digits. -/
theorem isDigit_of_mem_pyNat {n : Nat} {c : CodePoint} (h : c ∈ pyNat n) : c.isDigit = true := by
  rw [pyNat_eq, List.mem_map] at h
  obtain ⟨d, hd, hc⟩ := h
  have hdigit := Nat.isDigit_of_mem_toDigits (by decide) (by decide) hd
  unfold Char.isDigit at hdigit
  rw [Bool.and_eq_true, decide_eq_true_eq, decide_eq_true_eq, ge_iff_le, UInt32.le_iff_toNat_le,
    UInt32.le_iff_toNat_le] at hdigit
  have hlow : 48 ≤ d.toNat := hdigit.1
  have hhigh : d.toNat ≤ 57 := hdigit.2
  rw [← hc]
  unfold CodePoint.isDigit
  simp only [Bool.and_eq_true, decide_eq_true_eq]
  omega

/-- A number is determined by its digits. -/
theorem pyNat_inj {n m : Nat} (h : pyNat n = pyNat m) : n = m := by
  rw [pyNat_eq, pyNat_eq] at h
  have hdigits : Nat.toDigits 10 n = Nat.toDigits 10 m := by
    have hinj : ∀ c d : Char, c.toNat % 0x110000 = d.toNat % 0x110000 → c = d := by
      intro c d hcd
      have hc := char_toNat_lt c
      have hd := char_toNat_lt d
      rw [Nat.mod_eq_of_lt hc, Nat.mod_eq_of_lt hd] at hcd
      exact Char.toNat_inj.mp hcd
    apply List.map_injective_iff.mpr _ h
    intro c d hcd
    exact hinj c d (Fin.mk.inj hcd)
  have hvalue := congrArg (fun cs => Nat.ofDigitChars 10 cs 0) hdigits
  simpa only [Nat.ofDigitChars_ten_toDigits] using hvalue

/-- The text is as long as the digits are many. -/
theorem length_pyNat (n : Nat) : (pyNat n).length = (Nat.toDigits 10 n).length := by
  rw [pyNat_eq, List.length_map]

/-- A number has at most `k` digits exactly if it is below the power of ten with `k` zeros.
-/
theorem length_pyNat_le_iff {n k : Nat} (hk : 0 < k) : (pyNat n).length ≤ k ↔ n < 10 ^ k := by
  rw [length_pyNat]
  exact Nat.length_toDigits_le_iff (by decide) hk

/-- A larger number has no fewer digits. -/
theorem length_pyNat_mono {n m : Nat} (h : n ≤ m) : (pyNat n).length ≤ (pyNat m).length := by
  have hpos : 0 < (pyNat m).length := List.length_pos_iff.mpr (pyNat_ne_nil m)
  rw [length_pyNat_le_iff hpos]
  exact Nat.lt_of_le_of_lt h ((length_pyNat_le_iff hpos).mp (Nat.le_refl _))

/-- The next number is at most one digit longer. -/
theorem length_pyNat_succ_le (n : Nat) : (pyNat (n + 1)).length ≤ (pyNat n).length + 1 := by
  have hpos : 0 < (pyNat n).length := List.length_pos_iff.mpr (pyNat_ne_nil n)
  rw [length_pyNat_le_iff (by omega)]
  have hlt := (length_pyNat_le_iff hpos).mp (Nat.le_refl _)
  rw [Nat.pow_succ]
  omega

/-- A crude bound on the digits, for the sizes of frames. -/
theorem length_pyNat_le_succ (n : Nat) : (pyNat n).length ≤ n + 1 := by
  rw [length_pyNat_le_iff (by omega)]
  exact Nat.lt_of_lt_of_le (Nat.lt_pow_self (by decide : 1 < 10))
    (Nat.pow_le_pow_right (by decide) (by omega))

/-- Digits are ASCII. -/
theorem isAscii_of_digits {s : PyStr} (h : ∀ c ∈ s, CodePoint.isDigit c = true) :
    s.isAscii = true := by
  unfold PyStr.isAscii
  rw [List.all_eq_true]
  intro c hc
  have hdigit := h c hc
  simp only [CodePoint.isDigit, Bool.and_eq_true, decide_eq_true_eq] at hdigit
  exact decide_eq_true (by omega)

/-- The decimal text of a number is ASCII. -/
theorem isAscii_pyNat (n : Nat) : (pyNat n).isAscii = true :=
  isAscii_of_digits fun _ => isDigit_of_mem_pyNat

/-- `str(i)`. -/
def pyInt : Int → PyStr
  | .ofNat n => pyNat n
  | .negSucc n => py "-" ++ pyNat (n + 1)

/-- So is that of an integer, with its sign. -/
theorem isAscii_pyInt (i : Int) : (pyInt i).isAscii = true := by
  cases i with
  | ofNat n => exact isAscii_pyNat n
  | negSucc n =>
      unfold pyInt
      rw [PyStr.isAscii_append, Bool.and_eq_true]
      exact ⟨by decide, isAscii_pyNat _⟩

/-- The sign takes one character more. -/
theorem length_pyInt_le (i : Int) : (pyInt i).length ≤ (pyNat i.natAbs).length + 1 := by
  cases i with
  | ofNat n => exact Nat.le_succ _
  | negSucc n =>
      show (py "-" ++ pyNat (n + 1)).length ≤ (pyNat (n + 1)).length + 1
      rw [List.length_append, Nat.add_comm]
      exact Nat.le_refl _

end OvenRuntime
