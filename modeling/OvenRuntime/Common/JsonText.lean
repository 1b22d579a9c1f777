/-
  OvenRuntime.Common.JsonText
  ───────────────────────────
  A JSON scalar determines what it was printed from: the characters of a
  string are read back one by one, whatever follows them.
-/
import OvenRuntime.Common.Json

namespace OvenRuntime

/-! ## §1. Characters. -/

/-- The value of a lowercase hexadecimal digit. -/
def hexValue (c : CodePoint) : Nat := if c.val < 58 then c.val - 48 else c.val - 87

/-- The character behind a backslash, and what follows it. -/
def readEscape : PyStr → Nat × PyStr
  | [] => (0, [])
  | d :: rest =>
      if d.val = 110 then (10, rest)
      else if d.val = 114 then (13, rest)
      else if d.val = 116 then (9, rest)
      else if d.val = 102 then (12, rest)
      else if d.val = 98 then (8, rest)
      else if d.val = 117 then
        match rest with
        | _ :: _ :: x :: y :: rest => (hexValue x * 16 + hexValue y, rest)
        | _ => (0, [])
      else (d.val, rest)

/-- The first character of a JSON string body, and what follows it. -/
def readChar : PyStr → Nat × PyStr
  | [] => (0, [])
  | c :: rest => if c.val = 92 then readEscape rest else (c.val, rest)

theorem hexValue_hexDigit : ∀ n < 16, hexValue (hexDigit n) = n := by decide

/-- **Every character is read back.** -/
theorem readChar_jsonChar (c : CodePoint) (rest : PyStr) :
    readChar (jsonChar false c ++ rest) = (c.val, rest) := by
  unfold jsonChar
  -- the escapes of one letter
  split
  · rename_i h
    rw [h]
    rfl
  split
  · rename_i h
    rw [h]
    rfl
  split
  · rename_i h
    rw [h]
    rfl
  split
  · rename_i h
    rw [h]
    rfl
  split
  · rename_i h
    rw [h]
    rfl
  split
  · rename_i h
    rw [h]
    rfl
  split
  · rename_i h
    rw [h]
    rfl
  split
  · -- a control character has two significant digits
    rename_i hcontrol
    have hhigh := hexValue_hexDigit (c.val / 16 % 16) (by omega)
    have hlow := hexValue_hexDigit (c.val % 16) (by omega)
    show (hexValue (hexDigit (c.val / 16 % 16)) * 16 + hexValue (hexDigit (c.val % 16)), rest)
      = (c.val, rest)
    rw [hhigh, hlow]
    have hval : c.val / 16 % 16 * 16 + c.val % 16 = c.val := by omega
    rw [hval]
  · -- any other character stands for itself
    rename_i hbackslash _ _ _ _ _ _
    rw [if_neg (by simp)]
    show (if c.val = 92 then readEscape rest else (c.val, rest)) = (c.val, rest)
    rw [if_neg hbackslash]

theorem jsonChar_append_inj {c d : CodePoint} {xs ys : PyStr}
    (h : jsonChar false c ++ xs = jsonChar false d ++ ys) : c = d ∧ xs = ys := by
  have hread := congrArg readChar h
  rw [readChar_jsonChar, readChar_jsonChar] at hread
  exact ⟨Fin.ext (congrArg Prod.fst hread), congrArg Prod.snd hread⟩

theorem jsonChar_ne_nil (c : CodePoint) : jsonChar false c ≠ [] := by
  intro hnil
  -- an empty text would be read as the number zero, whatever follows
  have h₁ := readChar_jsonChar c []
  have h₂ := readChar_jsonChar c (py "11")
  rw [hnil] at h₁ h₂
  have hzero : (0 : Nat) = c.val := congrArg Prod.fst h₁
  have hone : (49 : Nat) = c.val := congrArg Prod.fst h₂
  omega

/-! ## §2. Strings and integers. -/

/-- **A JSON string determines its text.** -/
theorem jsonString_inj {s t : PyStr} (h : jsonString false s = jsonString false t) : s = t := by
  unfold jsonString at h
  have hbody := List.append_cancel_left (List.append_cancel_right h)
  clear h
  induction s generalizing t with
  | nil =>
      cases t with
      | nil => rfl
      | cons d t =>
          rw [List.flatMap_nil, List.flatMap_cons] at hbody
          exact absurd (List.append_eq_nil_iff.mp hbody.symm).1 (jsonChar_ne_nil d)
  | cons c s ih =>
      cases t with
      | nil =>
          rw [List.flatMap_nil, List.flatMap_cons] at hbody
          exact absurd (List.append_eq_nil_iff.mp hbody).1 (jsonChar_ne_nil c)
      | cons d t =>
          rw [List.flatMap_cons, List.flatMap_cons] at hbody
          obtain ⟨hchar, hrest⟩ := jsonChar_append_inj hbody
          rw [hchar, ih hrest]

theorem pyInt_inj {i j : Int} (h : pyInt i = pyInt j) : i = j := by
  have hminus : ∀ n m : Nat, pyNat n ≠ py "-" ++ pyNat m := by
    intro n m heq
    have hmem : (45 : CodePoint) ∈ pyNat n := by
      rw [heq]
      exact List.mem_append_left _ (by decide)
    exact absurd hmem (notMem_pyNat (by decide) n)
  cases i with
  | ofNat n =>
      cases j with
      | ofNat m =>
          show (n : Int) = m
          exact congrArg Int.ofNat (pyNat_inj h)
      | negSucc m => exact absurd h (hminus n (m + 1))
  | negSucc n =>
      cases j with
      | ofNat m => exact absurd h.symm (hminus m (n + 1))
      | negSucc m =>
          have hnat := pyNat_inj (List.append_cancel_left h)
          rw [show n = m by omega]

/-- An integer that prints is determined by its text. -/
theorem jsonInt_inj {i j : Int} {text : PyStr} (hi : jsonInt i = .ok text)
    (hj : jsonInt j = .ok text) : i = j := by
  have hprint : ∀ {k : Int}, jsonInt k = .ok text → pyInt k = text := by
    intro k hk
    unfold jsonInt at hk
    split at hk
    · exact Except.ok.inj hk
    · cases hk
  exact pyInt_inj ((hprint hi).trans (hprint hj).symm)

end OvenRuntime
