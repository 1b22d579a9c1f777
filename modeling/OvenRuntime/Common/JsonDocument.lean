/-
  OvenRuntime.Common.JsonDocument
  ───────────────────────────────
  `json.dumps` and `json.loads` of whole documents.

  Printing is split into the first exception it raises, if any, and the text it
  gives otherwise.  Reading follows the scanner of the library: a string is
  first cut into the characters and codes it is written with, then codes that
  form a surrogate pair are joined.
-/
import OvenRuntime.Common.JsonText
import OvenRuntime.Common.Wire

namespace OvenRuntime

/-! ## §1. Numbers in a text. -/

/-- `(0|[1-9]\d*)`, and what follows it. -/
def matchInteger : PyStr → Option (PyStr × PyStr)
  | [] => none
  | c :: s =>
      if c.val = 48 then some ([c], s)
      else if c.isDigit then
        some (c :: s.takeWhile CodePoint.isDigit, s.dropWhile CodePoint.isDigit)
      else none

/-- `(\.\d+)?`. -/
def matchFraction : PyStr → PyStr × PyStr
  | [] => ([], [])
  | c :: s =>
      if c.val = 46 ∧ s.takeWhile CodePoint.isDigit ≠ [] then
        (c :: s.takeWhile CodePoint.isDigit, s.dropWhile CodePoint.isDigit)
      else ([], c :: s)

/-- `[-+]?`. -/
def matchSign : PyStr → PyStr × PyStr
  | [] => ([], [])
  | c :: s => if c.val = 43 ∨ c.val = 45 then ([c], s) else ([], c :: s)

/-- `([eE][-+]?\d+)?`. -/
def matchExponent : PyStr → PyStr × PyStr
  | [] => ([], [])
  | c :: s =>
      if (c.val = 101 ∨ c.val = 69) ∧ (matchSign s).2.takeWhile CodePoint.isDigit ≠ [] then
        (c :: (matchSign s).1 ++ (matchSign s).2.takeWhile CodePoint.isDigit,
          (matchSign s).2.dropWhile CodePoint.isDigit)
      else ([], c :: s)

/-- `-?`. -/
def matchMinus : PyStr → PyStr × PyStr
  | [] => ([], [])
  | c :: s => if c.val = 45 then ([c], s) else ([], c :: s)

/-- `NUMBER_RE`: the integer, the fraction with the exponent, and the rest. -/
def matchNumber (s : PyStr) : Option (PyStr × PyStr × PyStr) :=
  match matchInteger (matchMinus s).2 with
  | none => none
  | some (integer, s') =>
      let fraction := matchFraction s'
      let exponent := matchExponent fraction.2
      some ((matchMinus s).1 ++ integer, fraction.1 ++ exponent.1, exponent.2)

/-- The value of decimal digits. -/
def digitsValue (s : PyStr) : Nat := s.foldl (fun n c => 10 * n + (c.val - 48)) 0

/-- `int(text)` of the digits of a JSON number, as the interpreter limits it. -/
def readInt (text : PyStr) : Option Int :=
  let digits := (matchMinus text).2
  if digits.length ≤ INT_MAX_STR_DIGITS then
    some (if (matchMinus text).1 = [] then digitsValue digits else -digitsValue digits)
  else none

/-- A finite double. -/
def PyFloat.isFinite : PyFloat → Bool
  | .fin _ | .negZero => true
  | _ => false

/-- `float.__repr__`, and `float(text)` of the text of a JSON number. -/
structure FloatText where
  repr : PyFloat → PyStr
  parse : PyStr → PyFloat
  /-- A finite double prints as a JSON number with a fraction or an exponent. -/
  repr_number : ∀ x, x.isFinite = true → ∃ integer fraction, fraction ≠ [] ∧
    repr x = integer ++ fraction ∧ matchNumber (repr x) = some (integer, fraction, [])
  /-- Its text is read back. -/
  parse_repr : ∀ x, x.isFinite = true → parse (repr x) = x

/-! ## §2. Printing. -/

/-- `json.dumps(x)` of a float. -/
def floatText (num : FloatText) : PyFloat → PyStr
  | .nan => py "NaN"
  | .posInf => py "Infinity"
  | .negInf => py "-Infinity"
  | x => num.repr x

/-- Keys of a JSON object are strings. -/
def Key.jsonError : Key → Option PyError
  | .str _ => none
  | .bytes _ => some .TypeError

/-- A key as it stands in the text. -/
def Key.jsonText (ensure_ascii : Bool) : Key → PyStr
  | .str s => jsonString ensure_ascii s
  | .bytes _ => []

mutual

/-- The exception `json.dumps(value)` raises. -/
def Value.jsonError : Value → Option PyError
  | .none | .bool _ | .float _ | .str _ => Option.none
  | .int i =>
      if (pyNat i.natAbs).length ≤ INT_MAX_STR_DIGITS then Option.none else some .ValueError
  | .bytes _ | .ndarray _ => some .TypeError
  | .list items => itemsJsonError items
  | .map entries => entriesJsonError entries

def itemsJsonError : List Value → Option PyError
  | [] => none
  | v :: vs => v.jsonError.or (itemsJsonError vs)

def entriesJsonError : List (Key × Value) → Option PyError
  | [] => none
  | e :: es => (entryJsonError e).or (entriesJsonError es)

def entryJsonError : Key × Value → Option PyError
  | (k, v) => k.jsonError.or v.jsonError

end

mutual

/-- The text of a value, with the separators `(",", ":")`. -/
def Value.jsonText (num : FloatText) (ensure_ascii : Bool) : Value → PyStr
  | .none => py "null"
  | .bool true => py "true"
  | .bool false => py "false"
  | .int i => pyInt i
  | .float x => floatText num x
  | .str s => jsonString ensure_ascii s
  | .bytes _ | .ndarray _ => []
  | .list items => py "[" ++ itemsText num ensure_ascii [] items ++ py "]"
  | .map entries => py "\x7b" ++ entriesText num ensure_ascii [] entries ++ py "\x7d"

/-- The items, the first of them behind `sep`. -/
def itemsText (num : FloatText) (ensure_ascii : Bool) (sep : PyStr) : List Value → PyStr
  | [] => []
  | v :: vs => sep ++ v.jsonText num ensure_ascii ++ itemsText num ensure_ascii (py ",") vs

def entriesText (num : FloatText) (ensure_ascii : Bool) (sep : PyStr) :
    List (Key × Value) → PyStr
  | [] => []
  | e :: es => sep ++ entryText num ensure_ascii e ++ entriesText num ensure_ascii (py ",") es

def entryText (num : FloatText) (ensure_ascii : Bool) : Key × Value → PyStr
  | (k, v) => k.jsonText ensure_ascii ++ py ":" ++ v.jsonText num ensure_ascii

end

/-- `json.dumps(value, separators=(",", ":"), ensure_ascii=ensure_ascii)`. -/
def dumps (num : FloatText) (ensure_ascii : Bool) (value : Value) : Except PyError PyStr :=
  match value.jsonError with
  | some e => .error e
  | none => .ok (value.jsonText num ensure_ascii)

/-! ## §3. Reading. -/

/-- What `json.loads` raises. -/
inductive LoadsError where
  | JSONDecodeError
  | UnicodeDecodeError
  /-- An integer with too many digits. -/
  | ValueError
  deriving DecidableEq

/-- A character of a string, or the code of an escape `\uXXXX`. -/
inductive CharUnit where
  | char (c : CodePoint)
  | code (n : Nat)

/-- One of the four digits of an escape. -/
def hexDigit? (c : CodePoint) : Option Nat :=
  if 48 ≤ c.val ∧ c.val ≤ 57 then some (c.val - 48)
  else if 97 ≤ c.val ∧ c.val ≤ 102 then some (c.val - 87)
  else if 65 ≤ c.val ∧ c.val ≤ 70 then some (c.val - 55)
  else none

/-- `_decode_uXXXX`. -/
def decode_uXXXX (a b c d : CodePoint) : Option Nat :=
  match hexDigit? a, hexDigit? b, hexDigit? c, hexDigit? d with
  | some a, some b, some c, some d => some (a * 4096 + b * 256 + c * 16 + d)
  | _, _, _, _ => none

/-- `BACKSLASH`. -/
def backslash (c : CodePoint) : Option CodePoint :=
  if c.val = 34 ∨ c.val = 92 ∨ c.val = 47 then some c
  else if c.val = 98 then some 8
  else if c.val = 102 then some 12
  else if c.val = 110 then some 10
  else if c.val = 114 then some 13
  else if c.val = 116 then some 9
  else none

/-- The units of a string body up to its quotation mark, and what follows it. -/
def scanUnits : PyStr → Option (List CharUnit × PyStr)
  | [] => none
  | c :: s =>
      if c.val = 34 then some ([], s)
      else if c.val = 92 then
        match s with
        | [] => none
        | e :: s =>
            if e.val = 117 then
              match s with
              | x :: y :: z :: w :: s =>
                  match decode_uXXXX x y z w with
                  | none => none
                  | some n => (scanUnits s).map fun r => (.code n :: r.1, r.2)
              | _ => none
            else
              match backslash e with
              | none => none
              | some d => (scanUnits s).map fun r => (.char d :: r.1, r.2)
      -- control characters do not stand in a string
      else if c.val < 32 then none
      else (scanUnits s).map fun r => (.char c :: r.1, r.2)

/-- The two codes are a surrogate pair. -/
def isPair (high low : Nat) : Bool :=
  decide (0xd800 ≤ high) && decide (high ≤ 0xdbff) && decide (0xdc00 ≤ low) && decide (low ≤ 0xdfff)

/-- The character of a surrogate pair. -/
def joinPair (high low : Nat) : CodePoint :=
  Fin.ofNat _ (0x10000 + ((high - 0xd800) * 1024 + (low - 0xdc00)))

/-- The string the units stand for. -/
def joinUnits : List CharUnit → PyStr
  | [] => []
  | .char c :: us => c :: joinUnits us
  | .code n :: .code m :: us =>
      if isPair n m then joinPair n m :: joinUnits us
      else Fin.ofNat _ n :: joinUnits (.code m :: us)
  | .code n :: us => Fin.ofNat _ n :: joinUnits us

/-- `scanstring`. -/
def scanstring (s : PyStr) : Except LoadsError (PyStr × PyStr) :=
  match scanUnits s with
  | none => .error .JSONDecodeError
  | some r => .ok (joinUnits r.1, r.2)

/-- `WHITESPACE`. -/
def CodePoint.isJsonSpace (c : CodePoint) : Bool :=
  c.val == 32 || c.val == 9 || c.val == 10 || c.val == 13

def skipSpace (s : PyStr) : PyStr := s.dropWhile CodePoint.isJsonSpace

/-- The text behind the given one. -/
def afterText (text s : PyStr) : Option PyStr :=
  if text.isPrefixOf s then some (s.drop text.length) else none

/-- The text behind one expected character. -/
def expectChar (n : Nat) : PyStr → Except LoadsError PyStr
  | [] => .error .JSONDecodeError
  | c :: s => if c.val = n then .ok s else .error .JSONDecodeError

/-- The values that are neither string, object nor list. -/
def scanScalar (num : FloatText) (s : PyStr) : Except LoadsError (Value × PyStr) :=
  match matchNumber s with
  | some (integer, [], rest) =>
      match readInt integer with
      | some i => .ok (.int i, rest)
      | none => .error .ValueError
  | some (integer, fraction, rest) => .ok (.float (num.parse (integer ++ fraction)), rest)
  | none =>
      match afterText (py "null") s, afterText (py "true") s, afterText (py "false") s,
        afterText (py "NaN") s, afterText (py "Infinity") s, afterText (py "-Infinity") s with
      | some rest, _, _, _, _, _ => .ok (.none, rest)
      | _, some rest, _, _, _, _ => .ok (.bool true, rest)
      | _, _, some rest, _, _, _ => .ok (.bool false, rest)
      | _, _, _, some rest, _, _ => .ok (.float .nan, rest)
      | _, _, _, _, some rest, _ => .ok (.float .posInf, rest)
      | _, _, _, _, _, some rest => .ok (.float .negInf, rest)
      | _, _, _, _, _, _ => .error .JSONDecodeError

mutual

/-- `scan_once`; `fuel` bounds the depth, which the text itself bounds. -/
def scan_once (num : FloatText) : Nat → PyStr → Except LoadsError (Value × PyStr)
  | 0, _ => .error .JSONDecodeError
  | _ + 1, [] => .error .JSONDecodeError
  | fuel + 1, c :: s =>
      if c.val = 34 then do
        let r ← scanstring s
        return (.str r.1, r.2)
      else if c.val = 123 then
        match skipSpace s with
        | [] => .error .JSONDecodeError
        | d :: rest =>
            if d.val = 125 then .ok (.map [], rest)
            else do
              let r ← scanEntries num fuel (d :: rest)
              return (.map (Dict.ofEntries r.1), r.2)
      else if c.val = 91 then
        match skipSpace s with
        | [] => .error .JSONDecodeError
        | d :: rest =>
            if d.val = 93 then .ok (.list [], rest)
            else do
              let r ← scanItems num fuel (d :: rest)
              return (.list r.1, r.2)
      else scanScalar num (c :: s)

/-- `JSONArray` behind its bracket, when it is not empty. -/
def scanItems (num : FloatText) : Nat → PyStr → Except LoadsError (List Value × PyStr)
  | 0, _ => .error .JSONDecodeError
  | fuel + 1, s => do
      let v ← scan_once num fuel s
      match skipSpace v.2 with
      | [] => throw .JSONDecodeError
      | c :: rest =>
          if c.val = 93 then return ([v.1], rest)
          else if c.val = 44 then do
            let r ← scanItems num fuel (skipSpace rest)
            return (v.1 :: r.1, r.2)
          else throw .JSONDecodeError

/-- `JSONObject` behind its brace, when it is not empty. -/
def scanEntries (num : FloatText) :
    Nat → PyStr → Except LoadsError (List (Key × Value) × PyStr)
  | 0, _ => .error .JSONDecodeError
  | fuel + 1, s => do
      let s ← expectChar 34 s
      let key ← scanstring s
      let s ← expectChar 58 (skipSpace key.2)
      let v ← scan_once num fuel (skipSpace s)
      match skipSpace v.2 with
      | [] => throw .JSONDecodeError
      | c :: rest =>
          if c.val = 125 then return ([(.str key.1, v.1)], rest)
          else if c.val = 44 then do
            let r ← scanEntries num fuel (skipSpace rest)
            return ((.str key.1, v.1) :: r.1, r.2)
          else throw .JSONDecodeError

end

/-- `json.loads(text)`. -/
def loads (num : FloatText) (text : PyStr) : Except LoadsError Value := do
  let r ← scan_once num (2 * text.length + 1) (skipSpace text)
  if skipSpace r.2 = [] then return r.1 else throw .JSONDecodeError

/-- `data.decode("utf-8")`. -/
def decode_utf8 (data : List UInt8) : Option PyStr :=
  (ByteArray.utf8Decode? data.toByteArray).map fun cs =>
    cs.toList.map fun c => Fin.ofNat _ c.toNat

/-- `json.loads(data)` of bytes, decoded as strict UTF-8.  The library guesses the encoding
from the first bytes (what starts with two characters of ASCII counts as UTF-8) and lets
encoded surrogates pass.  So it also reads bytes in another encoding and bytes with
surrogates in them, which are refused here; no program of the repository writes such
bytes. -/
def loadsBytes (num : FloatText) (data : List UInt8) : Except LoadsError Value :=
  match decode_utf8 data with
  | none => .error .UnicodeDecodeError
  | some text => loads num text

end OvenRuntime
