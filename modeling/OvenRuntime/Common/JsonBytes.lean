/-
  OvenRuntime.Common.JsonBytes
  ────────────────────────────
  A printed document as bytes on a stream: its encoding is decoded, and neither
  its characters nor its bytes contain the newline that ends a frame.
-/
import OvenRuntime.Common.JsonRoundTrip

namespace OvenRuntime

/-! ## §1. Bytes. -/

/-- **Encoded text is decoded.**  A text without surrogates comes back from its bytes,
whatever planes its characters are in. -/
theorem decode_utf8_utf8Bytes {s : PyStr} (h : s.encodable = true) :
    decode_utf8 (utf8Bytes s) = some s := by
  unfold decode_utf8
  rw [← utf8Bytes_eq, List.utf8Decode?_utf8Encode]
  show some ((s.map CodePoint.toChar).map fun c => (Fin.ofNat _ c.toNat : CodePoint)) = some s
  rw [List.map_map]
  unfold PyStr.encodable at h
  rw [List.all_eq_true] at h
  have hback : ∀ c ∈ s, (Fin.ofNat 0x110000 (CodePoint.toChar c).toNat : CodePoint) = c := by
    intro c hc
    have hsurrogate := h c hc
    rw [Bool.not_eq_true'] at hsurrogate
    rw [CodePoint.toNat_toChar hsurrogate]
    exact Fin.ofNat_val_eq_self c
  exact congrArg some ((List.map_congr_left hback).trans (List.map_id s))

/-! ## §2. Lines. -/

/-- The text has no newline: it fits into one frame of the control socket, which a
newline ends. -/
def OneLine (s : PyStr) : Prop := ∀ c ∈ s, c.val ≠ 10

/-- Lines put one after the other make one line. -/
theorem OneLine.append {s t : PyStr} (hs : OneLine s) (ht : OneLine t) : OneLine (s ++ t) := by
  intro c hc
  apply (List.mem_append.mp hc).elim
  · exact hs c
  · exact ht c

/-- A constant of the source, whose characters can be looked through. -/
theorem oneLine_py {t : String} (h : (py t).all (fun c => c.val ≠ 10) = true) :
    OneLine (py t) := by
  intro c hc
  exact of_decide_eq_true (List.all_eq_true.mp h c hc)

/-- A character is printed as itself only if it is no control character, so the newline is
always escaped. -/
theorem oneLine_jsonChar (b : Bool) (c : CodePoint) : OneLine (jsonChar b c) := by
  have hescape : ∀ n, OneLine (unicodeEscape n) := by
    have hdigit : ∀ n < 16, (hexDigit n).val ≠ 10 := by decide
    intro n
    refine OneLine.append (oneLine_py (by decide)) ?_
    unfold OneLine
    rw [List.forall_mem_cons, List.forall_mem_cons, List.forall_mem_cons, List.forall_mem_cons]
    exact ⟨hdigit _ (by omega), hdigit _ (by omega), hdigit _ (by omega), hdigit _ (by omega),
      fun c hc => absurd hc (List.not_mem_nil)⟩
  unfold jsonChar
  split
  · exact oneLine_py (by decide)
  split
  · exact oneLine_py (by decide)
  split
  · exact oneLine_py (by decide)
  split
  · exact oneLine_py (by decide)
  split
  · exact oneLine_py (by decide)
  split
  · exact oneLine_py (by decide)
  split
  · exact oneLine_py (by decide)
  split
  · exact hescape _
  split
  · split
    · exact hescape _
    · exact (hescape _).append (hescape _)
  · rename_i hnewline _ _ _ _ _ _
    intro d hd
    rw [List.mem_singleton.mp hd]
    exact hnewline

/-- A printed text is one line, whatever it says: its quotes and its characters are. -/
theorem oneLine_jsonString (b : Bool) (s : PyStr) : OneLine (jsonString b s) := by
  have hquote : OneLine (py "\"") := oneLine_py (by decide)
  have hbody : OneLine (s.flatMap (jsonChar b)) := by
    intro c hc
    obtain ⟨d, -, hd⟩ := List.mem_flatMap.mp hc
    exact oneLine_jsonChar b d c hd
  exact (hquote.append hbody).append hquote

/-- Digits lie between 48 and 57, and the newline is 10. -/
theorem oneLine_of_isDigit {s : PyStr} (h : ∀ c ∈ s, CodePoint.isDigit c = true) : OneLine s := by
  intro c hc
  have hdigit := h c hc
  simp only [CodePoint.isDigit, Bool.and_eq_true, decide_eq_true_eq] at hdigit
  omega

/-- The digits at the front of a text, as the number scanner takes them. -/
theorem oneLine_takeWhile (s : PyStr) : OneLine (s.takeWhile CodePoint.isDigit) :=
  oneLine_of_isDigit fun _ hc => List.mem_takeWhile_imp hc

/-- A line with one more character in front that is no newline. -/
theorem OneLine.cons {c : CodePoint} {s : PyStr} (hc : c.val ≠ 10) (hs : OneLine s) :
    OneLine (c :: s) :=
  List.forall_mem_cons.mpr ⟨hc, hs⟩

/-- The empty text is one line. -/
theorem oneLine_nil : OneLine [] := fun _ hc => absurd hc (List.not_mem_nil)

/-- What the number scanner accepts has no newline, whether it stops before a fraction
or an exponent or reads them. -/
theorem oneLine_number {s i f r : PyStr} (h : matchNumber s = some (i, f, r)) :
    OneLine (i ++ f) := by
  have hminus : ∀ t, OneLine (matchMinus t).1 := by
    intro t
    cases t with
    | nil => exact oneLine_nil
    | cons c t =>
        simp only [matchMinus]
        split
        · exact OneLine.cons (by omega) oneLine_nil
        · exact oneLine_nil
  have hinteger : ∀ t j k, matchInteger t = some (j, k) → OneLine j := by
    intro t j k ht
    cases t with
    | nil => cases ht
    | cons c t =>
        simp only [matchInteger] at ht
        split at ht
        · cases ht
          exact OneLine.cons (by omega) oneLine_nil
        split at ht
        · rename_i hdigit
          cases ht
          simp only [CodePoint.isDigit, Bool.and_eq_true, decide_eq_true_eq] at hdigit
          exact OneLine.cons (by omega) (oneLine_takeWhile t)
        · cases ht
  have hfraction : ∀ t, OneLine (matchFraction t).1 := by
    intro t
    cases t with
    | nil => exact oneLine_nil
    | cons c t =>
        simp only [matchFraction]
        split
        · exact OneLine.cons (by omega) (oneLine_takeWhile t)
        · exact oneLine_nil
  have hsign : ∀ t, OneLine (matchSign t).1 := by
    intro t
    cases t with
    | nil => exact oneLine_nil
    | cons c t =>
        simp only [matchSign]
        split
        · exact OneLine.cons (by omega) oneLine_nil
        · exact oneLine_nil
  have hexponent : ∀ t, OneLine (matchExponent t).1 := by
    intro t
    cases t with
    | nil => exact oneLine_nil
    | cons c t =>
        simp only [matchExponent]
        split
        · exact (OneLine.cons (by omega) (hsign t)).append (oneLine_takeWhile _)
        · exact oneLine_nil
  unfold matchNumber at h
  split at h
  · cases h
  · rename_i integer t hmatch
    cases h
    exact ((hminus s).append (hinteger _ _ _ hmatch)).append
      ((hfraction _).append (hexponent _))

/-- A printed integer is one line, since the number scanner reads it to its end. -/
theorem oneLine_pyInt (i : Int) : OneLine (pyInt i) := by
  have hnumber := oneLine_number (matchNumber_pyInt i)
  rwa [List.append_nil] at hnumber

/-- A printed float is one line: a number the scanner reads, or one of the three names. -/
theorem oneLine_floatText (num : FloatText) (x : PyFloat) : OneLine (floatText num x) := by
  have hfinite : ∀ y : PyFloat, y.isFinite = true → OneLine (num.repr y) := by
    intro y hy
    obtain ⟨integer, fraction, -, htext, hnumber⟩ := num.repr_number y hy
    rw [htext]
    exact oneLine_number hnumber
  cases x with
  | fin q => exact hfinite (.fin q) rfl
  | negZero => exact hfinite .negZero rfl
  | posInf => exact oneLine_py (t := "Infinity") (by decide)
  | negInf => exact oneLine_py (t := "-Infinity") (by decide)
  | nan => exact oneLine_py (t := "NaN") (by decide)

mutual

/-- **A document is one line**, with or without non-ASCII characters escaped.  The
induction goes through the items and the entries of the document. -/
theorem oneLine_text (num : FloatText) (b : Bool) : (v : Value) → OneLine (v.jsonText num b)
  | .none => oneLine_py (by decide)
  | .bool true => oneLine_py (by decide)
  | .bool false => oneLine_py (by decide)
  | .int i => oneLine_pyInt i
  | .float x => oneLine_floatText num x
  | .str s => oneLine_jsonString b s
  | .bytes _ => oneLine_nil
  | .ndarray _ => oneLine_nil
  | .list items =>
      ((oneLine_py (by decide)).append (oneLine_itemsText num b oneLine_nil items)).append
        (oneLine_py (by decide))
  | .map entries =>
      ((oneLine_py (by decide)).append (oneLine_entriesText num b oneLine_nil entries)).append
        (oneLine_py (by decide))

/-- The items of a list with the separators between them; `sep` is what stands before the
first one. -/
theorem oneLine_itemsText (num : FloatText) (b : Bool) {sep : PyStr} (hsep : OneLine sep) :
    (items : List Value) → OneLine (itemsText num b sep items)
  | [] => oneLine_nil
  | v :: vs => (hsep.append (oneLine_text num b v)).append
      (oneLine_itemsText num b (oneLine_py (by decide)) vs)

/-- The entries of a mapping with the separators between them. -/
theorem oneLine_entriesText (num : FloatText) (b : Bool) {sep : PyStr} (hsep : OneLine sep) :
    (entries : List (Key × Value)) → OneLine (entriesText num b sep entries)
  | [] => oneLine_nil
  | e :: es => (hsep.append (oneLine_entryText num b e)).append
      (oneLine_entriesText num b (oneLine_py (by decide)) es)

/-- One entry, its key as a text and its value as a document. -/
theorem oneLine_entryText (num : FloatText) (b : Bool) :
    (e : Key × Value) → OneLine (entryText num b e)
  | (.str k, v) => ((oneLine_jsonString b k).append (oneLine_py (by decide))).append
      (oneLine_text num b v)
  | (.bytes _, v) => (oneLine_nil.append (oneLine_py (by decide))).append (oneLine_text num b v)

end

/-- The bytes of one line have no newline: a byte 10 in UTF-8 is always the character
itself, since every byte of a longer sequence is at least 128. -/
theorem newline_notMem_utf8Bytes {s : PyStr} (h : OneLine s) : (10 : UInt8) ∉ utf8Bytes s := by
  intro hmem
  unfold utf8Bytes at hmem
  obtain ⟨c, hc, hbyte⟩ := List.mem_flatMap.mp hmem
  have hval : c.toChar.val.toNat ≠ 10 := by
    have hne := h c hc
    by_cases hvalid : Nat.isValidChar c.val
    · have hchar : c.toChar.toNat = c.val := by
        unfold CodePoint.toChar Char.ofNat
        rw [dif_pos hvalid]
        rfl
      intro heq
      exact hne (hchar.symm.trans heq)
    · unfold CodePoint.toChar Char.ofNat
      rw [dif_neg hvalid]
      decide
  unfold String.utf8EncodeChar at hbyte
  simp only at hbyte
  -- a byte of a longer sequence is at least 128
  have hbig : ∀ n, 128 ≤ n → n < 256 → (10 : UInt8) ≠ UInt8.ofNat n := by
    intro n hlow hhigh heq
    have hnat := congrArg UInt8.toNat heq
    rw [UInt8.toNat_ofNat'] at hnat
    have h10 : (10 : UInt8).toNat = 10 := rfl
    omega
  split at hbyte
  · rename_i hsmall
    have hnat := congrArg UInt8.toNat (List.mem_singleton.mp hbyte)
    rw [UInt8.toNat_ofNat'] at hnat
    have h10 : (10 : UInt8).toNat = 10 := rfl
    omega
  split at hbyte
  · simp only [List.mem_cons, List.not_mem_nil, or_false] at hbyte
    rcases hbyte with hb | hb
    · exact hbig _ (by omega) (by omega) hb
    · exact hbig _ (by omega) (by omega) hb
  split at hbyte
  · simp only [List.mem_cons, List.not_mem_nil, or_false] at hbyte
    rcases hbyte with hb | hb | hb
    · exact hbig _ (by omega) (by omega) hb
    · exact hbig _ (by omega) (by omega) hb
    · exact hbig _ (by omega) (by omega) hb
  · simp only [List.mem_cons, List.not_mem_nil, or_false] at hbyte
    rcases hbyte with hb | hb | hb | hb
    · exact hbig _ (by omega) (by omega) hb
    · exact hbig _ (by omega) (by omega) hb
    · exact hbig _ (by omega) (by omega) hb
    · exact hbig _ (by omega) (by omega) hb

end OvenRuntime
