/-
  OvenRuntime.Common.Text
  ───────────────────────
  The parts of Python's text library the protocol relies on: ordering for
  `sorted`, the literal grammar of `int(text, 16)` and the acceptance test of
  the `UUID` constructor.
-/
import OvenRuntime.Common.Value
import Mathlib.Data.List.Sort
import Mathlib.Data.List.DropRight

namespace OvenRuntime

/-! ## §1. Sorting mapping keys. -/

/-- Lexicographic `<=` by code point, as Python compares `str` and `bytes`. -/
def lexLe {α : Type} (lt : α → α → Bool) : List α → List α → Bool
  | [], _ => true
  | _ :: _, [] => false
  | a :: as, b :: bs => if lt a b then true else if lt b a then false else lexLe lt as bs

/-- `sorted(names)` for strings. -/
def sortStrs (names : List PyStr) : List PyStr :=
  names.insertionSort fun a b => lexLe (fun x y => decide (x < y)) a b = true

/-- `sorted(keys)`: a `str` and a `bytes` key do not compare, so `none`
stands for the `TypeError` a mixed list raises. -/
def sortKeys (keys : List Key) : Option (List Key) :=
  let strs := keys.filterMap fun | .str s => some s | .bytes _ => none
  let bytess := keys.filterMap fun | .bytes b => some b | .str _ => none
  if bytess.isEmpty then some ((sortStrs strs).map .str)
  else if strs.isEmpty then
    some ((bytess.insertionSort fun a b =>
      lexLe (fun x y => decide (x < y)) a b = true).map .bytes)
  else none

/-! ## §2. `int(text, 16)`. -/

/-- The code points at which a run of ten decimal digits starts. -/
def DECIMAL_ZEROS : List Nat :=
  [0x30, 0x660, 0x6f0, 0x7c0, 0x966, 0x9e6, 0xa66, 0xae6, 0xb66, 0xbe6, 0xc66, 0xce6,
   0xd66, 0xde6, 0xe50, 0xed0, 0xf20, 0x1040, 0x1090, 0x17e0, 0x1810, 0x1946, 0x19d0,
   0x1a80, 0x1a90, 0x1b50, 0x1bb0, 0x1c40, 0x1c50, 0xa620, 0xa8d0, 0xa900, 0xa9d0,
   0xa9f0, 0xaa50, 0xabf0, 0xff10, 0x104a0, 0x10d30, 0x11066, 0x110f0, 0x11136, 0x111d0,
   0x112f0, 0x11450, 0x114d0, 0x11650, 0x116c0, 0x11730, 0x118e0, 0x11950, 0x11c50,
   0x11d50, 0x11da0, 0x16a60, 0x16ac0, 0x16b50, 0x1d7ce, 0x1d7d8, 0x1d7e2, 0x1d7ec,
   0x1d7f6, 0x1e140, 0x1e2f0, 0x1e950, 0x1fbf0]

/-- White space as `int` strips it (the ASCII separators 0x1c to 0x1f stay). -/
def CodePoint.isSpace (c : CodePoint) : Bool :=
  (9 ≤ c.val && c.val ≤ 13) || c.val == 0x20 || c.val == 0x85
    || c.val == 0xa0 || c.val == 0x1680 || (0x2000 ≤ c.val && c.val ≤ 0x200a)
    || c.val == 0x2028 || c.val == 0x2029 || c.val == 0x202f || c.val == 0x205f
    || c.val == 0x3000

/-- A base-16 digit: any Unicode decimal digit, or an ASCII letter a to f. -/
def CodePoint.isHexDigit (c : CodePoint) : Bool :=
  (97 ≤ c.val && c.val ≤ 102) || (65 ≤ c.val && c.val ≤ 70)
    || DECIMAL_ZEROS.any fun z => z ≤ c.val && c.val ≤ z + 9

/-- A Unicode digit of value zero. -/
def CodePoint.isZero (c : CodePoint) : Bool := DECIMAL_ZEROS.contains c.val

/-- Hex digits with single underscores between them, `prev` telling whether
the character before was a digit. -/
def hexDigitsAccept : Bool → PyStr → Bool
  | prev, [] => prev
  | prev, c :: cs =>
      if c.isHexDigit then hexDigitsAccept true cs
      else c.val == 0x5f && prev && hexDigitsAccept false cs

/-- Drop one `0x` prefix and the single underscore that may follow it. -/
def dropHexPrefix : PyStr → PyStr
  | z :: x :: cs =>
      if z.isZero && (x.val == 0x78 || x.val == 0x58) then
        match cs with
        | u :: ds => if u.val == 0x5f then ds else cs
        | [] => cs
      else z :: x :: cs
  | s => s

/-- Drop one leading sign. -/
def dropSign : PyStr → PyStr
  | c :: cs => if c.val == 0x2b || c.val == 0x2d then cs else c :: cs
  | [] => []

/-- `int(text, 16)` returns. -/
def intBase16Accepts (text : PyStr) : Bool :=
  let body := (text.dropWhile CodePoint.isSpace).rdropWhile CodePoint.isSpace
  hexDigitsAccept false (dropHexPrefix (dropSign body))

/-! ## §3. `UUID(text)`. -/

/-- `text.replace(pattern, "")`; `skip` counts the rest of a match. -/
def removeAll (pattern : PyStr) : Nat → PyStr → PyStr
  | _, [] => []
  | skip + 1, _ :: cs => removeAll pattern skip cs
  | 0, c :: cs =>
      if pattern.isPrefixOf (c :: cs) then removeAll pattern (pattern.length - 1) cs
      else c :: removeAll pattern 0 cs

/-- `text.strip("\x7b\x7d")`. -/
def stripBraces (text : PyStr) : PyStr :=
  let brace : CodePoint → Bool := fun c => c.val == 0x7b || c.val == 0x7d
  (text.dropWhile brace).rdropWhile brace

/-- `UUID(text)` returns.  A 32-character literal has no sign left after the
dashes are gone except `+`, so the value is never negative. -/
def UUID (text : PyStr) : Bool :=
  let hex := removeAll (py "uuid:") 0 (removeAll (py "urn:") 0 text)
  let hex := removeAll (py "-") 0 (stripBraces hex)
  hex.length == 32 && intBase16Accepts hex

example : UUID (py "6f1ed002-ab59-4d2c-9a1f-0123456789ab") = true := by decide

end OvenRuntime
