/-
  OvenRuntime.Common.JsonTokens
  ─────────────────────────────
  The numbers and strings of a JSON text are read back.

  A string comes back as it was, except that codes which print as a surrogate
  pair come back as one character; that character prints as the same two codes
  (`jsonString_reloadStr`).
-/
import OvenRuntime.Common.JsonDocument
import OvenRuntime.Common.WireRules
import Mathlib.Data.List.TakeWhile

namespace OvenRuntime

/-! ## §1. Numbers. -/

/-- What follows a value: a separator, a closing bracket, a newline, or nothing. -/
def ValueEnds (rest : PyStr) : Prop :=
  ∀ c ∈ rest.head?, c.val = 44 ∨ c.val = 93 ∨ c.val = 125 ∨ c.val = 10

/-- A value may end the text. -/
theorem valueEnds_nil : ValueEnds [] := by
  intro c hc
  cases hc

/-- What may follow a value is no digit, so a number cannot run on into it. -/
theorem ValueEnds.isDigit {rest : PyStr} (h : ValueEnds rest) :
    ∀ c ∈ rest.head?, c.isDigit = false := by
  intro c hc
  have hend := h c hc
  simp only [CodePoint.isDigit, Bool.and_eq_false_iff, decide_eq_false_iff_not]
  omega

/-- A run that cannot go on is not longer in a longer text. -/
theorem span_append {p : CodePoint → Bool} {rest : PyStr} (h : ∀ c ∈ rest.head?, p c = false)
    (s : PyStr) : (s ++ rest).takeWhile p = s.takeWhile p ∧
      (s ++ rest).dropWhile p = s.dropWhile p ++ rest := by
  induction s with
  | nil =>
      cases rest with
      | nil => exact ⟨rfl, rfl⟩
      | cons c rest =>
          have hc := h c rfl
          rw [List.nil_append, List.takeWhile_cons_of_neg (by simp [hc]),
            List.dropWhile_cons_of_neg (by simp [hc])]
          exact ⟨rfl, rfl⟩
  | cons c s ih =>
      rw [List.cons_append]
      by_cases hc : p c = true
      · rw [List.takeWhile_cons_of_pos hc, List.takeWhile_cons_of_pos hc,
          List.dropWhile_cons_of_pos hc, List.dropWhile_cons_of_pos hc, ih.1, ih.2]
        exact ⟨rfl, rfl⟩
      · rw [List.takeWhile_cons_of_neg hc, List.takeWhile_cons_of_neg hc,
          List.dropWhile_cons_of_neg hc, List.dropWhile_cons_of_neg hc]
        exact ⟨rfl, rfl⟩

/-- The integer part is the same with text behind it that begins with no digit. -/
theorem matchInteger_append {s i r rest : PyStr} (hrest : ∀ c ∈ rest.head?, c.isDigit = false)
    (h : matchInteger s = some (i, r)) : matchInteger (s ++ rest) = some (i, r ++ rest) := by
  cases s with
  | nil => cases h
  | cons c s =>
      rw [List.cons_append]
      simp only [matchInteger] at h ⊢
      obtain ⟨htake, hdrop⟩ := span_append hrest s
      rw [htake, hdrop]
      split
      · rename_i hzero
        rw [if_pos hzero] at h
        cases h
        rfl
      · rename_i hzero
        rw [if_neg hzero] at h
        split
        · rename_i hdigit
          rw [if_pos hdigit] at h
          cases h
          rfl
        · rename_i hdigit
          rw [if_neg hdigit] at h
          cases h

/-- So is the fraction: what may follow a value is no point. -/
theorem matchFraction_append {rest : PyStr} (hrest : ValueEnds rest) (s : PyStr) :
    matchFraction (s ++ rest) = ((matchFraction s).1, (matchFraction s).2 ++ rest) := by
  cases s with
  | nil =>
      cases rest with
      | nil => rfl
      | cons c rest =>
          have hc := hrest c rfl
          show matchFraction (c :: rest) = ([], c :: rest)
          simp only [matchFraction]
          rw [if_neg (by omega)]
  | cons c s =>
      rw [List.cons_append]
      simp only [matchFraction]
      obtain ⟨htake, hdrop⟩ := span_append hrest.isDigit s
      rw [htake, hdrop]
      split
      · rfl
      · rfl

/-- So is the sign of the exponent. -/
theorem matchSign_append {rest : PyStr} (hrest : ValueEnds rest) (s : PyStr) :
    matchSign (s ++ rest) = ((matchSign s).1, (matchSign s).2 ++ rest) := by
  cases s with
  | nil =>
      cases rest with
      | nil => rfl
      | cons c rest =>
          have hc := hrest c rfl
          show matchSign (c :: rest) = ([], c :: rest)
          simp only [matchSign]
          rw [if_neg (by omega)]
  | cons c s =>
      rw [List.cons_append]
      simp only [matchSign]
      split
      · rfl
      · rfl

/-- So is the exponent: what may follow a value is no `e`. -/
theorem matchExponent_append {rest : PyStr} (hrest : ValueEnds rest) (s : PyStr) :
    matchExponent (s ++ rest) = ((matchExponent s).1, (matchExponent s).2 ++ rest) := by
  cases s with
  | nil =>
      cases rest with
      | nil => rfl
      | cons c rest =>
          have hc := hrest c rfl
          show matchExponent (c :: rest) = ([], c :: rest)
          simp only [matchExponent]
          rw [if_neg (by omega)]
  | cons c s =>
      rw [List.cons_append]
      simp only [matchExponent]
      obtain ⟨htake, hdrop⟩ := span_append hrest.isDigit (matchSign s).2
      rw [matchSign_append hrest, htake, hdrop]
      split
      · rfl
      · rfl

/-- So is the minus in front, which is looked for in the first character alone. -/
theorem matchMinus_append {s : PyStr} (hs : s ≠ []) (rest : PyStr) :
    matchMinus (s ++ rest) = ((matchMinus s).1, (matchMinus s).2 ++ rest) := by
  cases s with
  | nil => exact absurd rfl hs
  | cons c s =>
      rw [List.cons_append]
      simp only [matchMinus]
      split
      · rfl
      · rfl

/-- **A number is the same number** where something follows it. -/
theorem matchNumber_append {s i f r rest : PyStr} (hrest : ValueEnds rest)
    (h : matchNumber s = some (i, f, r)) : matchNumber (s ++ rest) = some (i, f, r ++ rest) := by
  have hs : s ≠ [] := by
    intro hnil
    rw [hnil] at h
    cases h
  unfold matchNumber at h ⊢
  rw [matchMinus_append hs]
  split at h
  · cases h
  · rename_i integer s' hinteger
    rw [matchInteger_append hrest.isDigit hinteger]
    simp only [matchFraction_append hrest, matchExponent_append hrest]
    cases h
    rfl

/-- The decimal text of a number stands for the number. -/
theorem digitsValue_pyNat (n : Nat) : digitsValue (pyNat n) = n := by
  have hvalue : Nat.ofDigitChars 10 (Nat.toDigits 10 n) 0 = n :=
    Nat.ofDigitChars_ten_toDigits
  rw [Nat.ofDigitChars_eq_foldl] at hvalue
  unfold digitsValue
  rw [pyNat_eq, List.foldl_map]
  refine Eq.trans ?_ hvalue
  congr 1
  funext k c
  have hc := char_toNat_lt c
  show 10 * k + (c.toNat % 0x110000 - 48) = 10 * k + (c.toNat - 48)
  rw [Nat.mod_eq_of_lt hc]

/-- As many digits as the text is long bound its value. -/
theorem digitsValue_lt {s : PyStr} (h : ∀ c ∈ s, CodePoint.isDigit c = true) :
    digitsValue s < 10 ^ s.length := by
  have hfold : ∀ (s : PyStr) (n : Nat), (∀ c ∈ s, CodePoint.isDigit c = true) →
      s.foldl (fun n c => 10 * n + (c.val - 48)) n < (n + 1) * 10 ^ s.length := by
    intro s
    induction s with
    | nil =>
        intro n _
        show n < (n + 1) * 1
        omega
    | cons c s ih =>
        intro n hs
        have hc := hs c (List.mem_cons_self ..)
        simp only [CodePoint.isDigit, Bool.and_eq_true, decide_eq_true_eq] at hc
        have hrest := ih (10 * n + (c.val - 48)) fun d hd => hs d (List.mem_cons_of_mem _ hd)
        rw [List.foldl_cons, List.length_cons, Nat.pow_succ]
        calc _ < (10 * n + (c.val - 48) + 1) * 10 ^ s.length := hrest
          _ ≤ (10 * (n + 1)) * 10 ^ s.length := Nat.mul_le_mul_right _ (by omega)
          _ = (n + 1) * (10 ^ s.length * 10) := by ring
  have := hfold s 0 h
  unfold digitsValue
  omega

/-- The digits of a number are a JSON integer: none but zero starts with zero. -/
theorem matchInteger_pyNat (n : Nat) : matchInteger (pyNat n) = some (pyNat n, []) := by
  have hdigits : ∀ c ∈ pyNat n, CodePoint.isDigit c = true := fun c => isDigit_of_mem_pyNat
  have hvalue := digitsValue_pyNat n
  have hlength := @length_pyNat_le_iff n
  cases hn : pyNat n with
  | nil => exact absurd hn (pyNat_ne_nil n)
  | cons c s =>
      rw [hn] at hdigits hvalue hlength
      simp only [matchInteger]
      by_cases hzero : c.val = 48
      · rw [if_pos hzero]
        have hnil : s = [] := by
          by_contra hs
          have hpos : 0 < s.length := List.length_pos_iff.mpr hs
          have htail : digitsValue (c :: s) = digitsValue s := by
            unfold digitsValue
            rw [List.foldl_cons, hzero]
          have hlt := digitsValue_lt fun d hd => hdigits d (List.mem_cons_of_mem _ hd)
          rw [← htail, hvalue, ← hlength hpos, List.length_cons] at hlt
          omega
        rw [hnil]
      · have hall : ∀ d ∈ s, CodePoint.isDigit d = true :=
          fun d hd => hdigits d (List.mem_cons_of_mem _ hd)
        rw [if_neg hzero, if_pos (hdigits c (List.mem_cons_self ..)),
          List.takeWhile_eq_self_iff.mpr hall, List.dropWhile_eq_nil_iff.mpr hall]

/-- A natural number has no minus in front. -/
theorem matchMinus_pyNat (n : Nat) : matchMinus (pyNat n) = ([], pyNat n) := by
  cases hn : pyNat n with
  | nil => rfl
  | cons c s =>
      have hc : c.isDigit = true := isDigit_of_mem_pyNat (hn ▸ List.mem_cons_self ..)
      simp only [CodePoint.isDigit, Bool.and_eq_true, decide_eq_true_eq] at hc
      simp only [matchMinus]
      rw [if_neg (by omega)]

/-- The scanner reads a printed integer to its end and finds no fraction. -/
theorem matchNumber_pyInt (i : Int) : matchNumber (pyInt i) = some (pyInt i, [], []) := by
  cases i with
  | ofNat n =>
      show matchNumber (pyNat n) = some (pyNat n, [], [])
      unfold matchNumber
      rw [matchMinus_pyNat, matchInteger_pyNat]
      rfl
  | negSucc n =>
      have hminus : matchMinus (pyInt (Int.negSucc n)) = (py "-", pyNat (n + 1)) := rfl
      unfold matchNumber
      rw [hminus, matchInteger_pyNat]
      rfl

/-- **An integer that prints is read back.** -/
theorem readInt_pyInt {i : Int} (h : (pyNat i.natAbs).length ≤ INT_MAX_STR_DIGITS) :
    readInt (pyInt i) = some i := by
  cases i with
  | ofNat n =>
      have hsign : matchMinus (pyInt (Int.ofNat n)) = ([], pyNat n) := matchMinus_pyNat n
      have h : (pyNat n).length ≤ INT_MAX_STR_DIGITS := h
      unfold readInt
      rw [hsign]
      show (if (pyNat n).length ≤ INT_MAX_STR_DIGITS then _ else _) = _
      rw [if_pos h]
      show some ((digitsValue (pyNat n) : Int)) = some (Int.ofNat n)
      rw [digitsValue_pyNat]
      rfl
  | negSucc n =>
      have hsign : matchMinus (pyInt (Int.negSucc n)) = (py "-", pyNat (n + 1)) := rfl
      have h : (pyNat (n + 1)).length ≤ INT_MAX_STR_DIGITS := h
      unfold readInt
      rw [hsign]
      show (if (pyNat (n + 1)).length ≤ INT_MAX_STR_DIGITS then _ else _) = _
      rw [if_pos h]
      show some (-(digitsValue (pyNat (n + 1)) : Int)) = some (Int.negSucc n)
      rw [digitsValue_pyNat]
      rfl

/-! ## §2. Strings. -/

/-- The units a character is written with. -/
def charUnits (ensure_ascii : Bool) (c : CodePoint) : List CharUnit :=
  if c.val = 34 ∨ c.val = 92 ∨ (8 ≤ c.val ∧ c.val ≤ 10) ∨ c.val = 12 ∨ c.val = 13 then [.char c]
  else if c.val < 32 then [.code c.val]
  else if ensure_ascii && 127 ≤ c.val then
    if c.val < 0x10000 then [.code c.val]
    else [.code (0xd800 + (c.val - 0x10000) / 1024), .code (0xdc00 + (c.val - 0x10000) % 1024)]
  else [.char c]

/-- The string that comes back. -/
def reloadStr (ensure_ascii : Bool) (s : PyStr) : PyStr :=
  joinUnits (s.flatMap (charUnits ensure_ascii))

/-- A hexadecimal digit is read back. -/
theorem hexDigit?_hexDigit : ∀ n < 16, hexDigit? (hexDigit n) = some n := by decide

/-- An escape of four digits is read as the code it stands for. -/
theorem scanUnits_escape {n : Nat} (hn : n < 65536) (s : PyStr) :
    scanUnits (unicodeEscape n ++ s) = (scanUnits s).map fun r => (.code n :: r.1, r.2) := by
  have hcode : decode_uXXXX (hexDigit (n / 4096 % 16)) (hexDigit (n / 256 % 16))
      (hexDigit (n / 16 % 16)) (hexDigit (n % 16)) = some n := by
    unfold decode_uXXXX
    rw [hexDigit?_hexDigit _ (by omega), hexDigit?_hexDigit _ (by omega),
      hexDigit?_hexDigit _ (by omega), hexDigit?_hexDigit _ (by omega)]
    show some (n / 4096 % 16 * 4096 + n / 256 % 16 * 256 + n / 16 % 16 * 16 + n % 16) = some n
    congr 1
    omega
  show scanUnits (92 :: 117 :: hexDigit (n / 4096 % 16) :: hexDigit (n / 256 % 16)
    :: hexDigit (n / 16 % 16) :: hexDigit (n % 16) :: s) = _
  rw [scanUnits, if_neg (by decide), if_pos (by decide)]
  simp only [hcode]
  rw [if_pos (by decide)]

/-- The escapes of one letter. -/
theorem scanUnits_letter {e d : CodePoint} (he : e.val ≠ 117) (h : backslash e = some d)
    (s : PyStr) : scanUnits (92 :: e :: s) = (scanUnits s).map fun r => (.char d :: r.1, r.2) := by
  rw [scanUnits.eq_def]
  simp only [h]
  rw [if_neg (by decide), if_pos (by decide), if_neg he]

/-- A character that is no quote, no backslash and no control character is read as itself.
-/
theorem scanUnits_plain {c : CodePoint} (hquote : c.val ≠ 34) (hbackslash : c.val ≠ 92)
    (hcontrol : ¬ c.val < 32) (s : PyStr) :
    scanUnits (c :: s) = (scanUnits s).map fun r => (.char c :: r.1, r.2) := by
  rw [scanUnits.eq_def]
  simp only
  rw [if_neg hquote, if_neg hbackslash, if_neg hcontrol]

/-- The closing quote ends the text. -/
theorem scanUnits_quotationMark (s : PyStr) : scanUnits (py "\"" ++ s) = some ([], s) := by
  show scanUnits (34 :: s) = _
  rw [scanUnits.eq_def]
  simp only
  rw [if_pos (by decide)]

/-- **Every character is scanned as its units.** -/
theorem scanUnits_jsonChar (b : Bool) (c : CodePoint) (s : PyStr) :
    scanUnits (jsonChar b c ++ s) = (scanUnits s).map fun r => (charUnits b c ++ r.1, r.2) := by
  unfold jsonChar charUnits
  -- the escapes of one letter
  split
  · rename_i h
    rw [if_pos (by omega), show c = 34 from Fin.ext h]
    exact scanUnits_letter (e := 34) (by decide) rfl s
  split
  · rename_i h
    rw [if_pos (by omega), show c = 92 from Fin.ext h]
    exact scanUnits_letter (e := 92) (by decide) rfl s
  split
  · rename_i h
    rw [if_pos (by omega), show c = 10 from Fin.ext h]
    exact scanUnits_letter (e := 110) (by decide) rfl s
  split
  · rename_i h
    rw [if_pos (by omega), show c = 13 from Fin.ext h]
    exact scanUnits_letter (e := 114) (by decide) rfl s
  split
  · rename_i h
    rw [if_pos (by omega), show c = 9 from Fin.ext h]
    exact scanUnits_letter (e := 116) (by decide) rfl s
  split
  · rename_i h
    rw [if_pos (by omega), show c = 12 from Fin.ext h]
    exact scanUnits_letter (e := 102) (by decide) rfl s
  split
  · rename_i h
    rw [if_pos (by omega), show c = 8 from Fin.ext h]
    exact scanUnits_letter (e := 98) (by decide) rfl s
  have hletter : ¬ (c.val = 34 ∨ c.val = 92 ∨ (8 ≤ c.val ∧ c.val ≤ 10) ∨ c.val = 12
      ∨ c.val = 13) := by omega
  rw [if_neg hletter]
  split
  · -- any other control character
    exact scanUnits_escape (by omega) s
  rename_i hcontrol
  split
  · split
    · rename_i hlow
      exact scanUnits_escape hlow s
    · have hc := c.isLt
      rw [List.append_assoc, scanUnits_escape (by omega), scanUnits_escape (by omega),
        Option.map_map]
      rfl
  · rename_i hquote hbackslash _ _ _ _ _ _
    show scanUnits (c :: s) = _
    exact scanUnits_plain hquote hbackslash hcontrol s

/-- The units of a printed text are read back, up to the quote behind it. -/
theorem scanUnits_body (b : Bool) (s rest : PyStr) :
    scanUnits (s.flatMap (jsonChar b) ++ py "\"" ++ rest) = some (s.flatMap (charUnits b), rest) := by
  induction s with
  | nil => exact scanUnits_quotationMark rest
  | cons c s ih =>
      rw [List.flatMap_cons, List.flatMap_cons, List.append_assoc, List.append_assoc,
        scanUnits_jsonChar, ← List.append_assoc, ih]
      rfl

/-- So the text comes back, with the surrogate pairs in it joined. -/
theorem scanstring_body (b : Bool) (s rest : PyStr) :
    scanstring (s.flatMap (jsonChar b) ++ py "\"" ++ rest) = .ok (reloadStr b s, rest) := by
  unfold scanstring
  rw [scanUnits_body]
  rfl

/-- Without escapes for surrogates nothing is joined. -/
theorem reloadStr_false (s : PyStr) : reloadStr false s = s := by
  unfold reloadStr
  induction s with
  | nil => rfl
  | cons c s ih =>
      rw [List.flatMap_cons]
      have hjoin : ∀ us, joinUnits (charUnits false c ++ us) = c :: joinUnits us := by
        intro us
        unfold charUnits
        split
        · rfl
        split
        · rename_i hcontrol
          have hval : (Fin.ofNat 0x110000 c.val : CodePoint) = c := Fin.ofNat_val_eq_self c
          cases us with
          | nil => exact congrArg (fun d => [d]) hval
          | cons u us =>
              cases u with
              | char d => exact congrArg (fun e => e :: d :: joinUnits us) hval
              | code m =>
                  have hpair : isPair c.val m = false := by
                    unfold isPair
                    rw [decide_eq_false (by omega)]
                    rfl
                  show joinUnits (.code c.val :: .code m :: us) = _
                  rw [joinUnits, hpair, hval]
                  rfl
        · rfl
      rw [hjoin, ih]

/-- A plain string comes back as it is. -/
theorem reloadStr_of_plain {b : Bool} {s : PyStr} (h : s.all CodePoint.isPlain = true) :
    reloadStr b s = s := by
  unfold reloadStr
  rw [List.all_eq_true] at h
  induction s with
  | nil => rfl
  | cons c s ih =>
      have hc := h c (List.mem_cons_self ..)
      simp only [CodePoint.isPlain, Bool.and_eq_true, decide_eq_true_eq, bne_iff_ne, ne_eq] at hc
      have hunits : charUnits b c = [.char c] := by
        unfold charUnits
        rw [if_neg (by omega), if_neg (by omega), if_neg]
        simp only [Bool.and_eq_true, decide_eq_true_eq]
        omega
      rw [List.flatMap_cons, hunits]
      exact congrArg (c :: ·) (ih fun d hd => h d (List.mem_cons_of_mem _ hd))

/-! ## §3. Escaped text. -/

/-- The text a unit stands for. -/
def CharUnit.text : CharUnit → PyStr
  | .char c => jsonChar true c
  | .code n => unicodeEscape n

/-- A code as the printer writes them: of a character that needs the escape. -/
def CharUnit.Canonical : CharUnit → Prop
  | .char _ => True
  | .code n => n < 0x10000 ∧
      ((n < 8 ∨ n = 11 ∨ (14 ≤ n ∧ n < 32)) ∨ 127 ≤ n)

/-- What a character is printed as are escapes of codes and plain characters, as the printer
writes them. -/
theorem charUnits_canonical (b : Bool) (c : CodePoint) :
    ∀ u ∈ charUnits b c, u.Canonical := by
  have hc := c.isLt
  unfold charUnits
  split
  · intro u hu
    cases List.mem_singleton.mp hu
    trivial
  split
  · intro u hu
    cases List.mem_singleton.mp hu
    show c.val < 0x10000 ∧ _
    omega
  split
  · rename_i hascii
    rw [Bool.and_eq_true, decide_eq_true_eq] at hascii
    split
    · intro u hu
      cases List.mem_singleton.mp hu
      show c.val < 0x10000 ∧ _
      omega
    · rw [List.forall_mem_cons, List.forall_mem_cons]
      refine ⟨?_, ?_, fun u hu => absurd hu (List.not_mem_nil)⟩
      · show 0xd800 + (c.val - 0x10000) / 1024 < 0x10000 ∧ _
        omega
      · show 0xdc00 + (c.val - 0x10000) % 1024 < 0x10000 ∧ _
        omega
  · intro u hu
    cases List.mem_singleton.mp hu
    trivial

/-- The units are those of the printed text. -/
theorem charUnits_text (c : CodePoint) :
    (charUnits true c).flatMap CharUnit.text = jsonChar true c := by
  unfold charUnits
  split
  · exact List.flatMap_singleton ..
  rename_i hletter
  have hletters : jsonChar true c = if c.val < 32 then unicodeEscape c.val
      else if true && 127 ≤ c.val then
        if c.val < 0x10000 then unicodeEscape c.val
        else unicodeEscape (0xd800 + (c.val - 0x10000) / 1024)
          ++ unicodeEscape (0xdc00 + (c.val - 0x10000) % 1024)
      else [c] := by
    unfold jsonChar
    rw [if_neg (by omega), if_neg (by omega), if_neg (by omega), if_neg (by omega),
      if_neg (by omega), if_neg (by omega), if_neg (by omega)]
  split
  · rename_i hcontrol
    rw [hletters, if_pos hcontrol]
    exact List.flatMap_singleton ..
  rename_i hcontrol
  split
  · rename_i hascii
    rw [hletters, if_neg hcontrol, if_pos hascii]
    split
    · exact List.flatMap_singleton ..
    · exact congrArg (unicodeEscape _ ++ ·) (List.append_nil _)
  · exact List.flatMap_singleton ..

/-- A code that is not joined prints as it was written. -/
theorem jsonChar_code {n : Nat} (h : (CharUnit.code n).Canonical) :
    jsonChar true (Fin.ofNat _ n) = unicodeEscape n := by
  obtain ⟨hlow, hescape⟩ := h
  have hval : (Fin.ofNat 0x110000 n).val = n := Nat.mod_eq_of_lt (by omega)
  unfold jsonChar
  rw [hval, if_neg (by omega), if_neg (by omega), if_neg (by omega), if_neg (by omega),
    if_neg (by omega), if_neg (by omega), if_neg (by omega)]
  split
  · rfl
  · rename_i hcontrol
    have hascii : 127 ≤ n := by omega
    rw [if_pos (by rw [Bool.true_and, decide_eq_true_eq]; exact hascii)]

/-- A surrogate pair prints as its two codes. -/
theorem jsonChar_joinPair {n m : Nat} (h : isPair n m = true) :
    jsonChar true (joinPair n m) = unicodeEscape n ++ unicodeEscape m := by
  simp only [isPair, Bool.and_eq_true, decide_eq_true_eq] at h
  have hval : (joinPair n m).val = 0x10000 + ((n - 0xd800) * 1024 + (m - 0xdc00)) :=
    Nat.mod_eq_of_lt (by omega)
  unfold jsonChar
  rw [hval, if_neg (by omega), if_neg (by omega), if_neg (by omega), if_neg (by omega),
    if_neg (by omega), if_neg (by omega), if_neg (by omega), if_neg (by omega),
    if_pos (by rw [Bool.true_and, decide_eq_true_eq]; omega), if_neg (by omega)]
  have hhigh : 0xd800 + (0x10000 + ((n - 0xd800) * 1024 + (m - 0xdc00)) - 0x10000) / 1024 = n := by
    omega
  have hlow : 0xdc00 + (0x10000 + ((n - 0xd800) * 1024 + (m - 0xdc00)) - 0x10000) % 1024 = m := by
    omega
  rw [hhigh, hlow]

/-- Joining surrogate pairs does not change the escaped text, in which a pair and its
character look the same. -/
theorem flatMap_joinUnits {us : List CharUnit} (h : ∀ u ∈ us, u.Canonical) :
    (joinUnits us).flatMap (jsonChar true) = us.flatMap CharUnit.text := by
  induction us using joinUnits.induct with
  | case1 => rfl
  | case2 c us ih =>
      rw [joinUnits, List.flatMap_cons, List.flatMap_cons,
        ih fun u hu => h u (List.mem_cons_of_mem _ hu)]
      rfl
  | case3 n m us hpair ih =>
      have hrest : ∀ u ∈ us, u.Canonical :=
        fun u hu => h u (List.mem_cons_of_mem _ (List.mem_cons_of_mem _ hu))
      rw [joinUnits, if_pos hpair, List.flatMap_cons, ih hrest, jsonChar_joinPair hpair,
        List.append_assoc]
      rfl
  | case4 n m us hpair ih =>
      rw [joinUnits, if_neg hpair, List.flatMap_cons, jsonChar_code (h _ (List.mem_cons_self ..)),
        ih fun u hu => h u (List.mem_cons_of_mem _ hu)]
      rfl
  | case5 n us hus ih =>
      have hjoin : joinUnits (.code n :: us) = Fin.ofNat _ n :: joinUnits us := by
        cases us with
        | nil => rfl
        | cons u us =>
            cases u with
            | char c => rfl
            | code m => exact absurd rfl (hus m us)
      rw [hjoin, List.flatMap_cons, jsonChar_code (h _ (List.mem_cons_self ..)),
        ih fun u hu => h u (List.mem_cons_of_mem _ hu)]
      rfl

/-- **A string that was read prints as before**, though codes may have been joined. -/
theorem jsonString_reloadStr (s : PyStr) :
    jsonString true (reloadStr true s) = jsonString true s := by
  have hcanonical : ∀ u ∈ s.flatMap (charUnits true), u.Canonical := by
    intro u hu
    obtain ⟨c, -, hc⟩ := List.mem_flatMap.mp hu
    exact charUnits_canonical true c u hc
  have htext : (s.flatMap (charUnits true)).flatMap CharUnit.text = s.flatMap (jsonChar true) := by
    rw [List.flatMap_assoc]
    exact congrArg (fun f => s.flatMap f) (funext charUnits_text)
  unfold jsonString reloadStr
  rw [flatMap_joinUnits hcanonical, htext]

end OvenRuntime
