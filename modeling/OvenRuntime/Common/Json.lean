/-
  OvenRuntime.Common.Json
  ───────────────────────
  `json.dumps` of scalars and of the metadata of an array, and `repr(bytes)`.
-/
import OvenRuntime.Common.NumPy

namespace OvenRuntime

/-! ## §1. Strings. -/

/-- A lowercase hexadecimal digit. -/
def hexDigit (n : Nat) : CodePoint := Fin.ofNat _ (if n < 10 then 48 + n else 87 + n)

/-- `\uXXXX`. -/
def unicodeEscape (n : Nat) : PyStr :=
  py "\\u" ++ [hexDigit (n / 4096 % 16), hexDigit (n / 256 % 16), hexDigit (n / 16 % 16),
    hexDigit (n % 16)]

/-- One character of a JSON string. -/
def jsonChar (ensure_ascii : Bool) (c : CodePoint) : PyStr :=
  if c.val = 34 then py "\\\""
  else if c.val = 92 then py "\\\\"
  else if c.val = 10 then py "\\n"
  else if c.val = 13 then py "\\r"
  else if c.val = 9 then py "\\t"
  else if c.val = 12 then py "\\f"
  else if c.val = 8 then py "\\b"
  else if c.val < 32 then unicodeEscape c.val
  else if ensure_ascii && 127 ≤ c.val then
    if c.val < 0x10000 then unicodeEscape c.val
    else
      unicodeEscape (0xd800 + (c.val - 0x10000) / 1024)
        ++ unicodeEscape (0xdc00 + (c.val - 0x10000) % 1024)
  else [c]

/-- `json.dumps(text)`. -/
def jsonString (ensure_ascii : Bool) (s : PyStr) : PyStr :=
  py "\"" ++ s.flatMap (jsonChar ensure_ascii) ++ py "\""

/-- A plain string stands in JSON as it is. -/
theorem jsonString_of_plain {b : Bool} {s : PyStr} (h : s.all CodePoint.isPlain = true) :
    jsonString b s = py "\"" ++ s ++ py "\"" := by
  unfold jsonString
  congr 2
  rw [List.all_eq_true] at h
  induction s with
  | nil => rfl
  | cons c s ih =>
      have hc := h c (List.mem_cons_self ..)
      simp only [CodePoint.isPlain, Bool.and_eq_true, decide_eq_true_eq, bne_iff_ne, ne_eq] at hc
      have hchar : jsonChar b c = [c] := by
        unfold jsonChar
        rw [if_neg (by omega), if_neg (by omega), if_neg (by omega), if_neg (by omega),
          if_neg (by omega), if_neg (by omega), if_neg (by omega), if_neg (by omega), if_neg]
        simp only [Bool.and_eq_true, decide_eq_true_eq]
        omega
      rw [List.flatMap_cons, hchar, ih fun d hd => h d (List.mem_cons_of_mem _ hd)]
      rfl

theorem length_unicodeEscape (n : Nat) : (unicodeEscape n).length = 6 := rfl

/-- An escape takes at most twelve characters. -/
theorem length_jsonChar_le (b : Bool) (c : CodePoint) : (jsonChar b c).length ≤ 12 := by
  unfold jsonChar
  repeat' split
  all_goals
    first
    | decide
    | rw [List.length_append, length_unicodeEscape, length_unicodeEscape]
    | rw [length_unicodeEscape]; omega
    | rw [List.length_singleton]; omega

theorem length_jsonString_le (b : Bool) (s : PyStr) :
    (jsonString b s).length ≤ 12 * s.length + 2 := by
  have hbody : (s.flatMap (jsonChar b)).length ≤ 12 * s.length := by
    induction s with
    | nil => exact Nat.le_refl 0
    | cons c s ih =>
        rw [List.flatMap_cons, List.length_append, List.length_cons]
        have := length_jsonChar_le b c
        omega
  unfold jsonString
  rw [List.length_append, List.length_append]
  have hquote : (py "\"").length = 1 := rfl
  omega

/-! ## §2. Numbers. -/

/-- `sys.get_int_max_str_digits()`: longer integers do not print. -/
def INT_MAX_STR_DIGITS : Nat := 4300

/-- `json.dumps(i)`. -/
def jsonInt (i : Int) : Except PyError PyStr :=
  if (pyNat i.natAbs).length ≤ INT_MAX_STR_DIGITS then .ok (pyInt i) else .error .ValueError

/-- `json.dumps(x, allow_nan=False)`. -/
def jsonFloat (lib : Library) (x : PyFloat) : Except PyError PyStr :=
  match x with
  | .posInf | .negInf | .nan => .error .ValueError
  | .fin q => .ok (lib.float_repr (.fin q))
  | .negZero => .ok (lib.float_repr .negZero)

/-! ## §3. The metadata of an array. -/

/-- The numbers of a JSON list, joined by commas. -/
def joinNats : List Nat → PyStr
  | [] => []
  | [n] => pyNat n
  | n :: m :: ns => pyNat n ++ py "," ++ joinNats (m :: ns)

/-- `json.dumps` of the dtype and the shape, keys sorted and without spaces. -/
def arrayMetadata (dtype : PyStr) (shape : List Nat) : PyStr :=
  py "\x7b\"dtype\":" ++ jsonString true dtype ++ py ",\"shape\":[" ++ joinNats shape
    ++ py "]\x7d"

/-- A comma. -/
def comma : CodePoint := 44

/-- A closing bracket. -/
def closingBracket : CodePoint := 93

/-- A quotation mark. -/
def quotationMark : CodePoint := 34

theorem notMem_pyNat {c : CodePoint} (h : c.isDigit = false) (n : Nat) : c ∉ pyNat n := by
  intro hc
  rw [isDigit_of_mem_pyNat hc] at h
  exact absurd h (by decide)

/-- The characters of a list of numbers. -/
theorem mem_joinNats {ns : List Nat} {c : CodePoint} (h : c ∈ joinNats ns) :
    c.isDigit = true ∨ c = comma := by
  induction ns with
  | nil => exact absurd h (by simp [joinNats])
  | cons n ns ih =>
      cases ns with
      | nil => exact Or.inl (isDigit_of_mem_pyNat h)
      | cons m ns =>
          unfold joinNats at h
          rw [List.mem_append, List.mem_append] at h
          apply h.elim
          · intro hn
            apply hn.elim
            · intro hdigit
              exact Or.inl (isDigit_of_mem_pyNat hdigit)
            · intro hcomma
              exact Or.inr (by simpa [py, comma] using hcomma)
          · intro hrest
            exact ih hrest

theorem joinNats_ne_nil {n : Nat} {ns : List Nat} : joinNats (n :: ns) ≠ [] := by
  cases ns with
  | nil => exact pyNat_ne_nil n
  | cons m ns =>
      unfold joinNats
      intro h
      rw [List.append_assoc, List.append_eq_nil_iff] at h
      exact pyNat_ne_nil n h.1

/-- Up to a mark that neither part has, two texts agree. -/
theorem split_at_mark {α : Type} {c : α} {xs ys us vs : List α} (hx : c ∉ xs) (hy : c ∉ ys)
    (h : xs ++ c :: us = ys ++ c :: vs) : xs = ys ∧ us = vs := by
  induction xs generalizing ys with
  | nil =>
      cases ys with
      | nil => exact ⟨rfl, (List.cons.inj h).2⟩
      | cons y ys =>
          have hc : c = y := (List.cons.inj h).1
          exact absurd (hc ▸ List.mem_cons_self ..) hy
  | cons x xs ih =>
      cases ys with
      | nil =>
          have hc : x = c := (List.cons.inj h).1
          exact absurd (hc ▸ List.mem_cons_self ..) hx
      | cons y ys =>
          obtain ⟨hhead, htail⟩ := List.cons.inj h
          obtain ⟨hrest, hend⟩ := ih (fun hm => hx (List.mem_cons_of_mem _ hm))
            (fun hm => hy (List.mem_cons_of_mem _ hm)) htail
          exact ⟨by rw [hhead, hrest], hend⟩

/-- A list of numbers is determined by its text. -/
theorem joinNats_inj {ns ms : List Nat} (h : joinNats ns = joinNats ms) : ns = ms := by
  induction ns generalizing ms with
  | nil =>
      cases ms with
      | nil => rfl
      | cons m ms => exact absurd h.symm joinNats_ne_nil
  | cons n ns ih =>
      cases ms with
      | nil => exact absurd h joinNats_ne_nil
      | cons m ms =>
          cases ns with
          | nil =>
              cases ms with
              | nil => rw [pyNat_inj h]
              | cons m' ms =>
                  -- one side has a comma, the other digits only
                  have hmem : comma ∈ joinNats [n] := by
                    rw [h]
                    unfold joinNats
                    exact List.mem_append_left _ (List.mem_append_right _ (by decide))
                  exact absurd hmem (notMem_pyNat (by decide) n)
          | cons n' ns =>
              cases ms with
              | nil =>
                  have hmem : comma ∈ joinNats [m] := by
                    rw [← h]
                    unfold joinNats
                    exact List.mem_append_left _ (List.mem_append_right _ (by decide))
                  exact absurd hmem (notMem_pyNat (by decide) m)
              | cons m' ms =>
                  have hsplit : pyNat n ++ comma :: joinNats (n' :: ns)
                      = pyNat m ++ comma :: joinNats (m' :: ms) := by
                    unfold joinNats at h
                    rw [List.append_assoc, List.append_assoc] at h
                    exact h
                  obtain ⟨hhead, htail⟩ := split_at_mark (notMem_pyNat (by decide) n)
                    (notMem_pyNat (by decide) m) hsplit
                  rw [pyNat_inj hhead, ih htail]

/-- **The metadata determines the dtype and the shape**, and ends where the
contents begin. -/
theorem arrayMetadata_append_inj {d e : PyStr} {ns ms : List Nat} {xs ys : PyStr}
    (hd : d.all CodePoint.isPlain = true) (he : e.all CodePoint.isPlain = true)
    (h : arrayMetadata d ns ++ xs = arrayMetadata e ms ++ ys) : d = e ∧ ns = ms ∧ xs = ys := by
  unfold arrayMetadata at h
  rw [jsonString_of_plain hd, jsonString_of_plain he] at h
  simp only [List.append_assoc, List.append_cancel_left_eq] at h
  have hplain : ∀ s : PyStr, s.all CodePoint.isPlain = true → quotationMark ∉ s := by
    intro s hs hmem
    rw [List.all_eq_true] at hs
    exact absurd (hs _ hmem) (by decide)
  obtain ⟨hdtype, hrest⟩ := split_at_mark (hplain d hd) (hplain e he) h
  have hrest : py ",\"shape\":[" ++ (joinNats ns ++ (py "]\x7d" ++ xs))
      = py ",\"shape\":[" ++ (joinNats ms ++ (py "]\x7d" ++ ys)) := hrest
  rw [List.append_cancel_left_eq] at hrest
  have hbracket : ∀ ks : List Nat, closingBracket ∉ joinNats ks := by
    intro ks hmem
    exact absurd (mem_joinNats hmem) (by decide)
  obtain ⟨hshape, htail⟩ := split_at_mark (hbracket ns) (hbracket ms) hrest
  exact ⟨hdtype, joinNats_inj hshape, (List.cons.inj htail).2⟩

/-! ## §4. `repr(bytes)`. -/

/-- One byte between the given quotation marks. -/
def reprByte (quote : Nat) (b : UInt8) : PyStr :=
  let n := b.toNat
  if n = quote ∨ n = 92 then py "\\" ++ [Fin.ofNat _ n]
  else if n = 9 then py "\\t"
  else if n = 10 then py "\\n"
  else if n = 13 then py "\\r"
  else if n < 32 ∨ 127 ≤ n then py "\\x" ++ [hexDigit (n / 16), hexDigit (n % 16)]
  else [Fin.ofNat _ n]

/-- `repr(data)`: double quotation marks where only single ones occur. -/
def bytes_repr (data : List UInt8) : PyStr :=
  let quote := if data.contains 39 && !data.contains 34 then 34 else 39
  py "b" ++ [Fin.ofNat _ quote] ++ data.flatMap (reprByte quote) ++ [Fin.ofNat _ quote]

end OvenRuntime
