/-
  OvenRuntime.Common.JsonRoundTrip
  ────────────────────────────────
  A printed document is read back.

  What comes back is the document up to two things the text does not keep: an
  object has one entry for each key, and codes that print as a surrogate pair
  come back as one character (`loads_text`).
-/
import OvenRuntime.Common.JsonTokens
import OvenRuntime.Common.HashTotal
import OvenRuntime.Common.Delivery

namespace OvenRuntime

/-! ## §1. Documents. -/

/-- The key that comes back. -/
def Key.reload (b : Bool) : Key → Key
  | .str s => .str (reloadStr b s)
  | .bytes d => .bytes d

mutual

/-- The value that comes back. -/
def Value.reload (b : Bool) : Value → Value
  | .none => .none
  | .bool x => .bool x
  | .int i => .int i
  | .float x => .float x
  | .str s => .str (reloadStr b s)
  | .bytes d => .bytes d
  | .ndarray a => .ndarray a
  | .list items => .list (reloadItems b items)
  | .map entries => .map (Dict.ofEntries (reloadEntries b entries))

/-- The items that come back. -/
def reloadItems (b : Bool) : List Value → List Value
  | [] => []
  | v :: vs => v.reload b :: reloadItems b vs

/-- The entries that come back, before later ones with the same key replace earlier ones. -/
def reloadEntries (b : Bool) : List (Key × Value) → List (Key × Value)
  | [] => []
  | e :: es => reloadEntry b e :: reloadEntries b es

/-- The entry that comes back. -/
def reloadEntry (b : Bool) : Key × Value → Key × Value
  | (k, v) => (k.reload b, v.reload b)

end

/-- A literal at the front of the text is found and taken off. -/
theorem afterText_append (text rest : PyStr) : afterText text (text ++ rest) = some rest := by
  unfold afterText
  rw [if_pos (List.isPrefixOf_iff_prefix.mpr (List.prefix_append ..)), List.drop_left]

/-- Nothing is skipped in front of a character that is no white space. -/
theorem skipSpace_cons {c : CodePoint} (hc : c.isJsonSpace = false) (s : PyStr) :
    skipSpace (c :: s) = c :: s :=
  List.dropWhile_cons_of_neg (by simp [hc])

/-- The first character of a value: no white space, and no closing bracket. -/
def StartsValue (s : PyStr) : Prop :=
  ∃ c t, s = c :: t ∧ c.isJsonSpace = false ∧ c.val ≠ 93

/-- What the number scanner accepts begins with a minus or a digit. -/
theorem matchNumber_head {s i f r : PyStr} (h : matchNumber s = some (i, f, r)) :
    ∃ c t, s = c :: t ∧ (c.val = 45 ∨ c.isDigit = true) := by
  cases s with
  | nil => cases h
  | cons c t =>
      refine ⟨c, t, rfl, ?_⟩
      by_contra hno
      rw [not_or] at hno
      have hminus : matchMinus (c :: t) = ([], c :: t) := by
        simp only [matchMinus]
        rw [if_neg hno.1]
      have hzero : c.val ≠ 48 := by
        intro hc
        apply hno.2
        unfold CodePoint.isDigit
        rw [hc]
        rfl
      have hinteger : matchInteger (c :: t) = none := by
        simp only [matchInteger]
        rw [if_neg hzero, if_neg hno.2]
      unfold matchNumber at h
      rw [hminus, hinteger] at h
      cases h

/-- So a number begins like a value: with no white space and no closing bracket. -/
theorem startsValue_of_number {s i f r : PyStr} (h : matchNumber s = some (i, f, r)) :
    StartsValue s := by
  obtain ⟨c, t, hs, hc⟩ := matchNumber_head h
  refine ⟨c, t, hs, ?_, ?_⟩
  · simp only [CodePoint.isDigit, Bool.and_eq_true, decide_eq_true_eq] at hc
    simp only [CodePoint.isJsonSpace, Bool.or_eq_false_iff, beq_eq_false_iff_ne, ne_eq]
    omega
  · simp only [CodePoint.isDigit, Bool.and_eq_true, decide_eq_true_eq] at hc
    omega

variable {num : FloatText} {b : Bool}

/-- The text of a printable value begins like a value, which is what the scanner of a list
looks at before each item. -/
theorem startsValue_text (num : FloatText) (b : Bool) {v : Value} (h : v.jsonError = none) :
    StartsValue (v.jsonText num b) := by
  cases v with
  | none => exact ⟨_, _, rfl, rfl, by decide⟩
  | bool x =>
      cases x with
      | false => exact ⟨_, _, rfl, rfl, by decide⟩
      | true => exact ⟨_, _, rfl, rfl, by decide⟩
  | int i => exact startsValue_of_number (matchNumber_pyInt i)
  | float x =>
      cases x with
      | fin q =>
          obtain ⟨_, _, -, -, hnumber⟩ := num.repr_number (.fin q) rfl
          exact startsValue_of_number hnumber
      | negZero =>
          obtain ⟨_, _, -, -, hnumber⟩ := num.repr_number .negZero rfl
          exact startsValue_of_number hnumber
      | posInf => exact ⟨_, _, rfl, rfl, by decide⟩
      | negInf => exact ⟨_, _, rfl, rfl, by decide⟩
      | nan => exact ⟨_, _, rfl, rfl, by decide⟩
  | str s => exact ⟨_, _, rfl, rfl, by decide⟩
  | bytes d => cases h
  | ndarray a => cases h
  | list items => exact ⟨_, _, rfl, rfl, by decide⟩
  | map entries => exact ⟨_, _, rfl, rfl, by decide⟩

/-- Where a number starts, the scanner reads a scalar. -/
theorem scan_once_number {s i f r : PyStr} (h : matchNumber s = some (i, f, r)) (fuel : Nat) :
    scan_once num (fuel + 1) s = scanScalar num s := by
  obtain ⟨c, t, hs, hc⟩ := matchNumber_head h
  simp only [CodePoint.isDigit, Bool.and_eq_true, decide_eq_true_eq] at hc
  rw [hs, scan_once, if_neg (by omega), if_neg (by omega), if_neg (by omega)]

/-- A finite float is read back. -/
theorem scan_repr {x : PyFloat} (hx : x.isFinite = true) {rest : PyStr} (hrest : ValueEnds rest)
    (fuel : Nat) : scan_once num (fuel + 1) (num.repr x ++ rest) = .ok (.float x, rest) := by
  obtain ⟨integer, fraction, hne, htext, hnumber⟩ := num.repr_number x hx
  have hscan := matchNumber_append hrest hnumber
  rw [scan_once_number hscan]
  unfold scanScalar
  rw [hscan]
  cases fraction with
  | nil => exact absurd rfl hne
  | cons c fraction =>
      show Except.ok (Value.float (num.parse (integer ++ c :: fraction)), rest) = _
      rw [← htext, num.parse_repr x hx]

/-- The words of the language are no numbers. -/
theorem scan_null (fuel : Nat) (rest : PyStr) :
    scan_once num (fuel + 1) (py "null" ++ rest) = .ok (.none, rest) := by
  have hnumber : matchNumber (py "null" ++ rest) = none := rfl
  show scanScalar num (py "null" ++ rest) = _
  unfold scanScalar
  rw [hnumber]
  simp only [afterText_append]

/-- The literal `true` is read, whatever follows. -/
theorem scan_true (fuel : Nat) (rest : PyStr) :
    scan_once num (fuel + 1) (py "true" ++ rest) = .ok (.bool true, rest) := by
  have hnumber : matchNumber (py "true" ++ rest) = none := rfl
  have hnull : afterText (py "null") (py "true" ++ rest) = none := rfl
  show scanScalar num (py "true" ++ rest) = _
  unfold scanScalar
  rw [hnumber]
  simp only [afterText_append, hnull]

/-- So is `false`. -/
theorem scan_false (fuel : Nat) (rest : PyStr) :
    scan_once num (fuel + 1) (py "false" ++ rest) = .ok (.bool false, rest) := by
  have hnumber : matchNumber (py "false" ++ rest) = none := rfl
  have hnull : afterText (py "null") (py "false" ++ rest) = none := rfl
  have htrue : afterText (py "true") (py "false" ++ rest) = none := rfl
  show scanScalar num (py "false" ++ rest) = _
  unfold scanScalar
  rw [hnumber]
  simp only [afterText_append, hnull, htrue]

/-- So is `NaN`, which Python prints although JSON has no such word. -/
theorem scan_nan (fuel : Nat) (rest : PyStr) :
    scan_once num (fuel + 1) (py "NaN" ++ rest) = .ok (.float .nan, rest) := by
  have hnumber : matchNumber (py "NaN" ++ rest) = none := rfl
  have hnull : afterText (py "null") (py "NaN" ++ rest) = none := rfl
  have htrue : afterText (py "true") (py "NaN" ++ rest) = none := rfl
  have hfalse : afterText (py "false") (py "NaN" ++ rest) = none := rfl
  show scanScalar num (py "NaN" ++ rest) = _
  unfold scanScalar
  rw [hnumber]
  simp only [afterText_append, hnull, htrue, hfalse]

/-- So is `Infinity`. -/
theorem scan_infinity (fuel : Nat) (rest : PyStr) :
    scan_once num (fuel + 1) (py "Infinity" ++ rest) = .ok (.float .posInf, rest) := by
  have hnumber : matchNumber (py "Infinity" ++ rest) = none := rfl
  have hnull : afterText (py "null") (py "Infinity" ++ rest) = none := rfl
  have htrue : afterText (py "true") (py "Infinity" ++ rest) = none := rfl
  have hfalse : afterText (py "false") (py "Infinity" ++ rest) = none := rfl
  have hnan : afterText (py "NaN") (py "Infinity" ++ rest) = none := rfl
  show scanScalar num (py "Infinity" ++ rest) = _
  unfold scanScalar
  rw [hnumber]
  simp only [afterText_append, hnull, htrue, hfalse, hnan]

/-- The minus of `-Infinity` does not begin a number, since no digit follows. -/
theorem scan_negative_infinity (fuel : Nat) (rest : PyStr) :
    scan_once num (fuel + 1) (py "-Infinity" ++ rest) = .ok (.float .negInf, rest) := by
  have hnumber : matchNumber (py "-Infinity" ++ rest) = none := rfl
  have hnull : afterText (py "null") (py "-Infinity" ++ rest) = none := rfl
  have htrue : afterText (py "true") (py "-Infinity" ++ rest) = none := rfl
  have hfalse : afterText (py "false") (py "-Infinity" ++ rest) = none := rfl
  have hnan : afterText (py "NaN") (py "-Infinity" ++ rest) = none := rfl
  have hinfinity : afterText (py "Infinity") (py "-Infinity" ++ rest) = none := rfl
  show scanScalar num (py "-Infinity" ++ rest) = _
  unfold scanScalar
  rw [hnumber]
  simp only [afterText_append, hnull, htrue, hfalse, hnan, hinfinity]

/-- An integer is read back. -/
theorem scan_pyInt {i : Int} (h : (pyNat i.natAbs).length ≤ INT_MAX_STR_DIGITS) {rest : PyStr}
    (hrest : ValueEnds rest) (fuel : Nat) :
    scan_once num (fuel + 1) (pyInt i ++ rest) = .ok (.int i, rest) := by
  have hscan := matchNumber_append hrest (matchNumber_pyInt i)
  rw [scan_once_number hscan]
  unfold scanScalar
  simp only [hscan, readInt_pyInt h, List.nil_append]

/-- A comma, a closing bracket, a closing brace or a newline ends the value before it. -/
theorem valueEnds_of_head {c : CodePoint} (h : c.val = 44 ∨ c.val = 93 ∨ c.val = 125 ∨ c.val = 10)
    (s : PyStr) : ValueEnds (c :: s) := by
  intro d hd
  cases hd
  exact h

/-- The items behind the first one start with a comma. -/
theorem itemsText_comma (v : Value) (vs : List Value) :
    itemsText num b (py ",") (v :: vs) = py "," ++ itemsText num b [] (v :: vs) := by
  rw [itemsText, itemsText, List.append_assoc, List.append_assoc]
  rfl

/-- All entries but the first are printed like the first, behind a comma. -/
theorem entriesText_comma (e : Key × Value) (es : List (Key × Value)) :
    entriesText num b (py ",") (e :: es) = py "," ++ entriesText num b [] (e :: es) := by
  rw [entriesText, entriesText, List.append_assoc, List.append_assoc]
  rfl

/-- The scanner gives the value back, whatever follows its text. -/
def Scans (num : FloatText) (b : Bool) (v : Value) : Prop :=
  v.jsonError = none → ∀ (fuel : Nat) (rest : PyStr), 2 * (v.jsonText num b).length < fuel →
    ValueEnds rest → scan_once num fuel (v.jsonText num b ++ rest) = .ok (v.reload b, rest)

/-- The items of a list are read one by one, by induction on the list; the fuel goes down
with the length of the text that is left. -/
theorem scanItems_text {v : Value} {vs : List Value} (hscans : ∀ w ∈ v :: vs, Scans num b w)
    (h : itemsJsonError (v :: vs) = none) (fuel : Nat) (rest : PyStr)
    (hfuel : 2 * (itemsText num b [] (v :: vs)).length + 1 < fuel) :
    scanItems num fuel (itemsText num b [] (v :: vs) ++ (py "]" ++ rest))
      = .ok (reloadItems b (v :: vs), rest) := by
  induction vs generalizing v fuel with
  | nil =>
      obtain ⟨f, hf⟩ : ∃ f, fuel = f + 1 := ⟨fuel - 1, by omega⟩
      rw [hf] at hfuel ⊢
      have htext : itemsText num b [] [v] = v.jsonText num b := by
        rw [itemsText, itemsText, List.nil_append, List.append_nil]
      rw [htext] at hfuel ⊢
      rw [itemsJsonError, Option.or_eq_none_iff] at h
      have hv := hscans v (List.mem_cons_self ..) h.1 f (py "]" ++ rest) (by omega)
        (valueEnds_of_head (by decide) _)
      rw [scanItems, hv]
      rfl
  | cons w ws ih =>
      obtain ⟨f, hf⟩ : ∃ f, fuel = f + 1 := ⟨fuel - 1, by omega⟩
      rw [hf] at hfuel ⊢
      have htext : itemsText num b [] (v :: w :: ws)
          = v.jsonText num b ++ (py "," ++ itemsText num b [] (w :: ws)) := by
        rw [itemsText, List.nil_append, itemsText_comma]
      rw [htext] at hfuel ⊢
      rw [List.length_append, List.length_append] at hfuel
      have hcomma : (py ",").length = 1 := rfl
      rw [itemsJsonError, Option.or_eq_none_iff] at h
      have hv := hscans v (List.mem_cons_self ..) h.1 f
        (py "," ++ (itemsText num b [] (w :: ws) ++ (py "]" ++ rest))) (by omega)
        (valueEnds_of_head (by decide) _)
      have hws := ih (fun u hu => hscans u (List.mem_cons_of_mem _ hu)) h.2 f (by omega)
      -- no white space follows the comma
      have hstart : skipSpace (itemsText num b [] (w :: ws) ++ (py "]" ++ rest))
          = itemsText num b [] (w :: ws) ++ (py "]" ++ rest) := by
        have hw := h.2
        rw [itemsJsonError, Option.or_eq_none_iff] at hw
        obtain ⟨c, t, hct, hspace, -⟩ := startsValue_text num b hw.1
        rw [itemsText, List.nil_append, hct]
        exact skipSpace_cons hspace _
      rw [List.append_assoc, List.append_assoc, scanItems, hv]
      show (do
        let r ← scanItems num f (skipSpace (itemsText num b [] (w :: ws) ++ (py "]" ++ rest)))
        return (v.reload b :: r.1, r.2) : Except LoadsError (List Value × PyStr)) = _
      rw [hstart, hws]
      rfl

/-- The text of an entry whose key is a string. -/
theorem entryText_str (k : PyStr) (v : Value) (rest : PyStr) :
    entryText num b (.str k, v) ++ rest = py "\"" ++ (k.flatMap (jsonChar b) ++ py "\""
      ++ (py ":" ++ (v.jsonText num b ++ rest))) := by
  rw [entryText]
  show py "\"" ++ k.flatMap (jsonChar b) ++ py "\"" ++ py ":" ++ v.jsonText num b ++ rest = _
  simp only [List.append_assoc]

/-- A printable entry has a text as its key. -/
theorem entryJsonError_none {e : Key × Value} (h : entryJsonError e = none) :
    ∃ k, e = (.str k, e.2) ∧ e.2.jsonError = none := by
  obtain ⟨key, v⟩ := e
  rw [entryJsonError, Option.or_eq_none_iff] at h
  cases key with
  | str k => exact ⟨k, rfl, h.2⟩
  | bytes d => exact absurd h.1 (Option.some_ne_none _)

/-- One entry, up to the character behind its value. -/
theorem scanEntries_head {k : PyStr} {v : Value} (hv : Scans num b v) (h : v.jsonError = none)
    (fuel : Nat) {c : CodePoint} (rest : PyStr)
    (hc : c.val = 44 ∨ c.val = 93 ∨ c.val = 125 ∨ c.val = 10) (hspace : c.isJsonSpace = false)
    (hfuel : 2 * (entryText num b (.str k, v)).length < fuel) :
    scanEntries num (fuel + 1) (entryText num b (.str k, v) ++ c :: rest) =
      if c.val = 125 then .ok ([(.str (reloadStr b k), v.reload b)], rest)
      else if c.val = 44 then do
        let r ← scanEntries num fuel (skipSpace rest)
        return ((.str (reloadStr b k), v.reload b) :: r.1, r.2)
      else throw .JSONDecodeError := by
  have hlength : (v.jsonText num b).length ≤ (entryText num b (.str k, v)).length := by
    rw [entryText, List.length_append]
    omega
  have hscan := hv h fuel (c :: rest) (by omega) (valueEnds_of_head hc _)
  have hstart : skipSpace (v.jsonText num b ++ c :: rest) = v.jsonText num b ++ c :: rest := by
    obtain ⟨d, t, hdt, hd, -⟩ := startsValue_text num b h
    rw [hdt]
    exact skipSpace_cons hd _
  have hquote : expectChar 34 (py "\"" ++ (k.flatMap (jsonChar b) ++ py "\""
      ++ (py ":" ++ (v.jsonText num b ++ c :: rest))))
      = .ok (k.flatMap (jsonChar b) ++ py "\"" ++ (py ":" ++ (v.jsonText num b ++ c :: rest))) := rfl
  have hcolon : expectChar 58 (skipSpace (py ":" ++ (v.jsonText num b ++ c :: rest)))
      = .ok (v.jsonText num b ++ c :: rest) := rfl
  rw [entryText_str, scanEntries]
  simp only [hquote, scanstring_body, hcolon, hstart, hscan, skipSpace_cons hspace, bind, Except.bind]
  rfl

/-- The entries of an object are read one by one, by the same induction. -/
theorem scanEntries_text {e : Key × Value} {es : List (Key × Value)}
    (hscans : ∀ w ∈ e :: es, Scans num b w.2)
    (h : entriesJsonError (e :: es) = none) (fuel : Nat) (rest : PyStr)
    (hfuel : 2 * (entriesText num b [] (e :: es)).length + 1 < fuel) :
    scanEntries num fuel (entriesText num b [] (e :: es) ++ (py "\x7d" ++ rest))
      = .ok (reloadEntries b (e :: es), rest) := by
  induction es generalizing e fuel with
  | nil =>
      obtain ⟨f, hf⟩ : ∃ f, fuel = f + 1 := ⟨fuel - 1, by omega⟩
      rw [hf] at hfuel ⊢
      have htext : entriesText num b [] [e] = entryText num b e := by
        rw [entriesText, entriesText, List.nil_append, List.append_nil]
      rw [htext] at hfuel ⊢
      rw [entriesJsonError, Option.or_eq_none_iff] at h
      have hv := hscans e (List.mem_cons_self ..)
      obtain ⟨k, he, herror⟩ := entryJsonError_none h.1
      rw [he] at hfuel hv ⊢
      have hhead := scanEntries_head (k := k) (v := e.2) hv herror f (c := 125) rest (by decide) rfl (by omega)
      rw [if_pos (by decide)] at hhead
      exact hhead
  | cons w ws ih =>
      obtain ⟨f, hf⟩ : ∃ f, fuel = f + 1 := ⟨fuel - 1, by omega⟩
      rw [hf] at hfuel ⊢
      have htext : entriesText num b [] (e :: w :: ws)
          = entryText num b e ++ (py "," ++ entriesText num b [] (w :: ws)) := by
        rw [entriesText, List.nil_append, entriesText_comma]
      rw [htext] at hfuel ⊢
      rw [List.length_append, List.length_append] at hfuel
      have hcomma : (py ",").length = 1 := rfl
      rw [entriesJsonError, Option.or_eq_none_iff] at h
      have hws := ih (fun u hu => hscans u (List.mem_cons_of_mem _ hu)) h.2 f (by omega)
      have hv := hscans e (List.mem_cons_self ..)
      obtain ⟨k, he, herror⟩ := entryJsonError_none h.1
      -- no white space follows the comma
      have hstart : skipSpace (entriesText num b [] (w :: ws) ++ (py "\x7d" ++ rest))
          = entriesText num b [] (w :: ws) ++ (py "\x7d" ++ rest) := by
        have hw := h.2
        rw [entriesJsonError, Option.or_eq_none_iff] at hw
        obtain ⟨k', hk', -⟩ := entryJsonError_none hw.1
        rw [entriesText, List.nil_append, hk']
        exact skipSpace_cons (c := 34) rfl _
      rw [he] at hfuel hv ⊢
      have hhead := scanEntries_head (k := k) (v := e.2) hv herror f (c := 44)
        (entriesText num b [] (w :: ws) ++ (py "\x7d" ++ rest)) (by decide) rfl (by omega)
      rw [if_neg (by decide), if_pos (by decide), hstart, hws] at hhead
      rw [List.append_assoc, List.append_assoc]
      exact hhead

mutual

/-- **A printed value is scanned**, by induction on the value. -/
theorem scans (num : FloatText) (b : Bool) : (v : Value) → Scans num b v
  | .none => fun _ fuel rest hfuel _ => by
      obtain ⟨f, hf⟩ : ∃ f, fuel = f + 1 := ⟨fuel - 1, by omega⟩
      rw [hf]
      exact scan_null f rest
  | .bool true => fun _ fuel rest hfuel _ => by
      obtain ⟨f, hf⟩ : ∃ f, fuel = f + 1 := ⟨fuel - 1, by omega⟩
      rw [hf]
      exact scan_true f rest
  | .bool false => fun _ fuel rest hfuel _ => by
      obtain ⟨f, hf⟩ : ∃ f, fuel = f + 1 := ⟨fuel - 1, by omega⟩
      rw [hf]
      exact scan_false f rest
  | .int i => fun h fuel rest hfuel hrest => by
      obtain ⟨f, hf⟩ : ∃ f, fuel = f + 1 := ⟨fuel - 1, by omega⟩
      have hdigits : (pyNat i.natAbs).length ≤ INT_MAX_STR_DIGITS := by
        by_contra hlong
        rw [Value.jsonError, if_neg hlong] at h
        cases h
      rw [hf]
      exact scan_pyInt hdigits hrest f
  | .float x => fun _ fuel rest hfuel hrest => by
      obtain ⟨f, hf⟩ : ∃ f, fuel = f + 1 := ⟨fuel - 1, by omega⟩
      rw [hf]
      cases x with
      | fin q => exact scan_repr rfl hrest f
      | negZero => exact scan_repr rfl hrest f
      | posInf => exact scan_infinity f rest
      | negInf => exact scan_negative_infinity f rest
      | nan => exact scan_nan f rest
  | .str s => fun _ fuel rest hfuel _ => by
      obtain ⟨f, hf⟩ : ∃ f, fuel = f + 1 := ⟨fuel - 1, by omega⟩
      have htext : (Value.str s).jsonText num b ++ rest
          = 34 :: (s.flatMap (jsonChar b) ++ py "\"" ++ rest) := rfl
      rw [hf, htext, scan_once, if_pos (by decide), scanstring_body]
      rfl
  | .bytes _ => fun h => by cases h
  | .ndarray _ => fun h => by cases h
  | .list items => fun h fuel rest hfuel _ => by
      obtain ⟨f, hf⟩ : ∃ f, fuel = f + 1 := ⟨fuel - 1, by omega⟩
      have htext : (Value.list items).jsonText num b ++ rest
          = 91 :: (itemsText num b [] items ++ (py "]" ++ rest)) := by
        rw [Value.jsonText, List.append_assoc, List.append_assoc]
        rfl
      have hlength : ((Value.list items).jsonText num b).length
          = (itemsText num b [] items).length + 2 := by
        rw [Value.jsonText, List.length_append, List.length_append]
        show 1 + (itemsText num b [] items).length + 1 = _
        omega
      have hitems := scans_items num b items
      rw [Value.jsonError] at h
      rw [hf, htext, scan_once, if_neg (by decide), if_neg (by decide), if_pos (by decide)]
      cases items with
      | nil => rfl
      | cons v vs =>
          have hscan := scanItems_text hitems h f rest (by omega)
          rw [itemsJsonError, Option.or_eq_none_iff] at h
          obtain ⟨c, t, hct, hspace, hbracket⟩ := startsValue_text num b h.1
          have hstart : itemsText num b [] (v :: vs) ++ (py "]" ++ rest)
              = c :: (t ++ itemsText num b (py ",") vs ++ (py "]" ++ rest)) := by
            rw [itemsText, List.nil_append, hct]
            rfl
          rw [hstart] at hscan ⊢
          rw [skipSpace_cons hspace]
          simp only
          rw [if_neg hbracket, hscan]
          rfl
  | .map entries => fun h fuel rest hfuel _ => by
      obtain ⟨f, hf⟩ : ∃ f, fuel = f + 1 := ⟨fuel - 1, by omega⟩
      have htext : (Value.map entries).jsonText num b ++ rest
          = 123 :: (entriesText num b [] entries ++ (py "\x7d" ++ rest)) := by
        rw [Value.jsonText, List.append_assoc, List.append_assoc]
        rfl
      have hlength : ((Value.map entries).jsonText num b).length
          = (entriesText num b [] entries).length + 2 := by
        rw [Value.jsonText, List.length_append, List.length_append]
        show 1 + (entriesText num b [] entries).length + 1 = _
        omega
      have hentries := scans_entries num b entries
      rw [Value.jsonError] at h
      rw [hf, htext, scan_once, if_neg (by decide), if_pos (by decide)]
      cases entries with
      | nil => rfl
      | cons e es =>
          have hscan := scanEntries_text hentries h f rest (by omega)
          rw [entriesJsonError, Option.or_eq_none_iff] at h
          obtain ⟨k, he, -⟩ := entryJsonError_none h.1
          obtain ⟨t, hstart⟩ : ∃ t, entriesText num b [] (e :: es) ++ (py "\x7d" ++ rest)
              = 34 :: t := by
            rw [entriesText, List.nil_append, he]
            exact ⟨_, rfl⟩
          rw [hstart] at hscan ⊢
          rw [skipSpace_cons rfl]
          simp only
          rw [if_neg (by decide), hscan]
          rfl

/-- Every item of a list is scanned, by the induction on the document. -/
theorem scans_items (num : FloatText) (b : Bool) :
    (items : List Value) → ∀ v ∈ items, Scans num b v
  | [] => fun _ hv => absurd hv (List.not_mem_nil)
  | v :: vs => List.forall_mem_cons.mpr ⟨scans num b v, scans_items num b vs⟩

/-- Every value of a mapping is scanned. -/
theorem scans_entries (num : FloatText) (b : Bool) :
    (entries : List (Key × Value)) → ∀ e ∈ entries, Scans num b e.2
  | [] => fun _ he => absurd he (List.not_mem_nil)
  | e :: es => List.forall_mem_cons.mpr ⟨scans_entry num b e, scans_entries num b es⟩

/-- The value of one entry is scanned. -/
theorem scans_entry (num : FloatText) (b : Bool) : (e : Key × Value) → Scans num b e.2
  | (_, v) => scans num b v

end

/-- **A printed document is read back**, also with a newline behind it. -/
theorem loads_text {v : Value} (h : v.jsonError = none) {newline : PyStr}
    (hnewline : newline = [] ∨ newline = py "\n") :
    loads num (v.jsonText num b ++ newline) = .ok (v.reload b) := by
  have hends : ValueEnds newline := by
    apply hnewline.elim
    · intro hnil
      rw [hnil]
      exact valueEnds_nil
    · intro hline
      rw [hline]
      exact valueEnds_of_head (c := 10) (by decide) []
  have hspace : skipSpace newline = [] := by
    apply hnewline.elim
    · intro hnil
      rw [hnil]
      rfl
    · intro hline
      rw [hline]
      rfl
  have hstart : skipSpace (v.jsonText num b ++ newline) = v.jsonText num b ++ newline := by
    obtain ⟨c, t, hct, hc, -⟩ := startsValue_text num b h
    rw [hct]
    exact skipSpace_cons hc _
  have hscan := scans num b v h (2 * (v.jsonText num b ++ newline).length + 1) newline
    (by rw [List.length_append]; omega) hends
  unfold loads
  rw [hstart, hscan]
  show (if skipSpace newline = [] then pure (v.reload b)
    else throw .JSONDecodeError : Except LoadsError Value) = _
  rw [if_pos hspace]
  rfl

/-- Printing goes through exactly if no part of the document cannot be printed. -/
theorem dumps_ok {v : Value} {text : PyStr} :
    dumps num b v = .ok text ↔ v.jsonError = none ∧ v.jsonText num b = text := by
  unfold dumps
  cases v.jsonError with
  | none => simp
  | some e => simp

/-! ## §2. What comes back prints again. -/

/-- A mapping can be printed exactly if every entry of it can. -/
theorem entriesJsonError_none {entries : List (Key × Value)} :
    entriesJsonError entries = none ↔ ∀ e ∈ entries, entryJsonError e = none := by
  induction entries with
  | nil => exact iff_of_true rfl fun e he => absurd he (List.not_mem_nil)
  | cons e es ih => rw [entriesJsonError, Option.or_eq_none_iff, ih, List.forall_mem_cons]

mutual

/-- **What comes back can be printed.** -/
theorem jsonError_reload (b : Bool) : (v : Value) → v.jsonError = none →
    (v.reload b).jsonError = none
  | .none => fun h => h
  | .bool _ => fun h => h
  | .int _ => fun h => h
  | .float _ => fun h => h
  | .str _ => fun h => h
  | .bytes _ => fun h => h
  | .ndarray _ => fun h => h
  | .list items => fun h => by
      rw [Value.reload, Value.jsonError]
      exact itemsJsonError_reload b items (by rwa [Value.jsonError] at h)
  | .map entries => fun h => by
      rw [Value.reload, Value.jsonError, entriesJsonError_none]
      rw [Value.jsonError] at h
      have hreload := entriesJsonError_none.mp (entriesJsonError_reload b entries h)
      exact fun e he => hreload e (mem_ofEntries he)

/-- Items that can be printed can be printed again when they come back. -/
theorem itemsJsonError_reload (b : Bool) : (items : List Value) → itemsJsonError items = none →
    itemsJsonError (reloadItems b items) = none
  | [] => fun _ => rfl
  | v :: vs => fun h => by
      rw [itemsJsonError, Option.or_eq_none_iff] at h
      rw [reloadItems, itemsJsonError, Option.or_eq_none_iff]
      exact ⟨jsonError_reload b v h.1, itemsJsonError_reload b vs h.2⟩

/-- So can entries. -/
theorem entriesJsonError_reload (b : Bool) : (entries : List (Key × Value)) →
    entriesJsonError entries = none → entriesJsonError (reloadEntries b entries) = none
  | [] => fun _ => rfl
  | e :: es => fun h => by
      rw [entriesJsonError, Option.or_eq_none_iff] at h
      rw [reloadEntries, entriesJsonError, Option.or_eq_none_iff]
      exact ⟨entryJsonError_reload b e h.1, entriesJsonError_reload b es h.2⟩

/-- So can one entry: a key that is a text comes back as a text. -/
theorem entryJsonError_reload (b : Bool) : (e : Key × Value) → entryJsonError e = none →
    entryJsonError (reloadEntry b e) = none
  | (k, v) => fun h => by
      rw [entryJsonError, Option.or_eq_none_iff] at h
      rw [reloadEntry, entryJsonError, Option.or_eq_none_iff]
      refine ⟨?_, jsonError_reload b v h.2⟩
      cases k with
      | str s => rfl
      | bytes d => exact h.1

end

/-! ## §3. Objects with distinct keys. -/

/-- The value comes back unchanged when nothing is escaped. -/
def Value.Stable (v : Value) : Prop := v.reload false = v

/-- A text comes back as it is when nothing is escaped. -/
theorem stable_str (s : PyStr) : (Value.str s).Stable := by
  unfold Value.Stable
  rw [Value.reload, reloadStr_false]

/-- The entries come back one by one. -/
theorem reloadEntries_eq_map (b : Bool) (entries : List (Key × Value)) :
    reloadEntries b entries = entries.map fun e => (e.1.reload b, e.2.reload b) := by
  induction entries with
  | nil => rfl
  | cons e es ih => rw [reloadEntries, List.map_cons, ih, reloadEntry]

/-- Without escapes a key comes back as it is. -/
theorem Key.reload_false (k : Key) : k.reload false = k := by
  cases k with
  | str s => exact congrArg Key.str (reloadStr_false s)
  | bytes d => rfl

/-- An object comes back entry by entry. -/
theorem reload_map {entries : List (Key × Value)} (hnodup : (entries.map Prod.fst).Nodup) :
    (Value.map entries).reload false = .map (entries.map fun e => (e.1, e.2.reload false)) := by
  have hkeys : reloadEntries false entries = entries.map fun e => (e.1, e.2.reload false) := by
    rw [reloadEntries_eq_map]
    exact List.map_congr_left fun e _ => by rw [Key.reload_false]
  have hsame : ((entries.map fun e => (e.1, e.2.reload false)).map Prod.fst).Nodup := by
    rw [List.map_map]
    exact hnodup
  rw [Value.reload, hkeys, Dict.ofEntries_of_nodup hsame]

/-- A mapping comes back as it is if its keys differ and its values come back as they are.
-/
theorem stable_map {entries : List (Key × Value)} (hnodup : (entries.map Prod.fst).Nodup)
    (hvalues : ∀ e ∈ entries, e.2.Stable) : (Value.map entries).Stable := by
  unfold Value.Stable
  rw [reload_map hnodup]
  have hentries : (entries.map fun e => (e.1, e.2.reload false)) = entries.map id :=
    List.map_congr_left fun e he => by rw [hvalues e he]; rfl
  rw [hentries, List.map_id]

mutual

/-- The keys of every mapping are distinct, as those of a `dict` are. -/
def Value.Keyed : Value → Prop
  | .list items => itemsKeyed items
  | .map entries => (entries.map Prod.fst).Nodup ∧ entriesKeyed entries
  | _ => True

/-- `Value.Keyed` for the items of a list. -/
def itemsKeyed : List Value → Prop
  | [] => True
  | v :: vs => v.Keyed ∧ itemsKeyed vs

/-- `Value.Keyed` for the entries of a mapping. -/
def entriesKeyed : List (Key × Value) → Prop
  | [] => True
  | e :: es => entryKeyed e ∧ entriesKeyed es

/-- `Value.Keyed` for the value of one entry. -/
def entryKeyed : Key × Value → Prop
  | (_, v) => v.Keyed

end

mutual

/-- **A value whose mappings have distinct keys comes back unchanged.** -/
theorem Value.Keyed.stable : (v : Value) → v.Keyed → v.Stable
  | .none => fun _ => rfl
  | .bool _ => fun _ => rfl
  | .int _ => fun _ => rfl
  | .float _ => fun _ => rfl
  | .str s => fun _ => stable_str s
  | .bytes _ => fun _ => rfl
  | .ndarray _ => fun _ => rfl
  | .list items => fun h => by
      unfold Value.Stable
      rw [Value.reload, reloadItems_keyed items h]
  | .map entries => fun h => stable_map h.1 (stable_entries_keyed entries h.2)

/-- Items with distinct keys throughout come back as they are. -/
theorem reloadItems_keyed : (items : List Value) → itemsKeyed items →
    reloadItems false items = items
  | [] => fun _ => rfl
  | v :: vs => fun h => by
      have hv : v.reload false = v := Value.Keyed.stable v h.1
      rw [reloadItems, hv, reloadItems_keyed vs h.2]

/-- So do the values of entries. -/
theorem stable_entries_keyed : (entries : List (Key × Value)) → entriesKeyed entries →
    ∀ e ∈ entries, e.2.Stable
  | [] => fun _ _ he => absurd he List.not_mem_nil
  | e :: es => fun h => List.forall_mem_cons.mpr
      ⟨stable_entry_keyed e h.1, stable_entries_keyed es h.2⟩

/-- So does the value of one entry. -/
theorem stable_entry_keyed : (e : Key × Value) → entryKeyed e → e.2.Stable
  | (_, v) => fun h => Value.Keyed.stable v h

end

/-- What was read prints as before. -/
def Value.Reprints (num : FloatText) (v : Value) : Prop :=
  (v.reload true).jsonText num true = v.jsonText num true ∧
    (v.jsonText num true).isAscii = true

/-- A text prints as before when it has come back: its surrogate pairs have become
characters, which print as the same pairs. -/
theorem reprints_str (s : PyStr) : (Value.str s).Reprints num :=
  ⟨jsonString_reloadStr s, isAscii_jsonString s⟩

/-- The keys are plain strings. -/
def PlainKeys (entries : List (Key × Value)) : Prop :=
  ∀ e ∈ entries, ∃ k, e.1 = .str k ∧ k.all CodePoint.isPlain = true

/-- An object with plain keys comes back entry by entry, also when its text is
escaped. -/
theorem reload_map_plain {entries : List (Key × Value)}
    (hnodup : (entries.map Prod.fst).Nodup) (hkeys : PlainKeys entries) :
    (Value.map entries).reload b = .map (entries.map fun e => (e.1, e.2.reload b)) := by
  have hreload : reloadEntries b entries = entries.map fun e => (e.1, e.2.reload b) := by
    rw [reloadEntries_eq_map]
    refine List.map_congr_left fun e he => ?_
    obtain ⟨k, hk, hplain⟩ := hkeys e he
    rw [hk, Key.reload, reloadStr_of_plain hplain]
  have hsame : ((entries.map fun e => (e.1, e.2.reload b)).map Prod.fst).Nodup := by
    rw [List.map_map]
    exact hnodup
  rw [Value.reload, hreload, Dict.ofEntries_of_nodup hsame]

/-- A mapping prints as before if its keys differ and are plain, so that none is merged with
another, and its values print as before. -/
theorem reprints_map {entries : List (Key × Value)} (hnodup : (entries.map Prod.fst).Nodup)
    (hkeys : PlainKeys entries) (hvalues : ∀ e ∈ entries, e.2.Reprints num) :
    (Value.map entries).Reprints num := by
  have htexts : ∀ (sep : PyStr) (es : List (Key × Value)), (∀ e ∈ es, e.2.Reprints num) →
      entriesText num true sep (es.map fun e => (e.1, e.2.reload true))
        = entriesText num true sep es := by
    intro sep es
    induction es generalizing sep with
    | nil => exact fun _ => rfl
    | cons e es ih =>
        intro hes
        have hv := (hes e (List.mem_cons_self ..)).1
        rw [List.map_cons, entriesText, entriesText,
          ih _ fun u hu => hes u (List.mem_cons_of_mem _ hu), entryText, entryText, hv]
  have hascii : ∀ (sep : PyStr) (es : List (Key × Value)), sep.isAscii = true →
      PlainKeys es → (∀ e ∈ es, e.2.Reprints num) → (entriesText num true sep es).isAscii = true := by
    intro sep es
    induction es generalizing sep with
    | nil => exact fun _ _ _ => rfl
    | cons e es ih =>
        intro hsep hks hes
        obtain ⟨k, hk, -⟩ := hks e (List.mem_cons_self ..)
        have hv := (hes e (List.mem_cons_self ..)).2
        have hrest := ih (py ",") rfl (fun u hu => hks u (List.mem_cons_of_mem _ hu))
          fun u hu => hes u (List.mem_cons_of_mem _ hu)
        have hkey : (e.1.jsonText true).isAscii = true := by
          rw [hk]
          exact isAscii_jsonString k
        rw [entriesText, entryText, PyStr.isAscii_append, PyStr.isAscii_append,
          PyStr.isAscii_append, PyStr.isAscii_append, hsep, hkey, hv, hrest]
        rfl
  constructor
  · rw [reload_map_plain hnodup hkeys, Value.jsonText, Value.jsonText,
      htexts [] entries hvalues]
  · rw [Value.jsonText, PyStr.isAscii_append, PyStr.isAscii_append,
      hascii [] entries rfl hkeys hvalues]
    rfl

end OvenRuntime
