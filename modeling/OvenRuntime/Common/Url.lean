/-
  OvenRuntime.Common.Url
  ──────────────────────
  `urllib.parse.urlsplit` and what it tells of a host.

  The checks of a network location that read the Unicode database, and those
  that later versions of the library make of a host in brackets, are a
  parameter.
-/
import OvenRuntime.Common.JsonDocument
import OvenRuntime.Common.Protocol
import Mathlib.Data.List.DropRight

namespace OvenRuntime

/-! ## §1. Cutting a text. -/

/-- `text.partition(sep)` without the separator. -/
def cut (sep : CodePoint) (text : PyStr) : PyStr × PyStr :=
  (text.takeWhile (· != sep), (text.dropWhile (· != sep)).drop 1)

/-- `text.lower()` of ASCII letters.  No other character becomes a digit, a
point or a colon. -/
def lowerAscii (text : PyStr) : PyStr :=
  text.map fun c => if 65 ≤ c.val ∧ c.val ≤ 90 then c + 32 else c

/-- One of `scheme_chars`. -/
def CodePoint.isSchemeChar (c : CodePoint) : Bool :=
  c.isAlnum || c.val == 43 || c.val == 45 || c.val == 46

/-! ## §2. The parts of a URL. -/

structure SplitResult where
  scheme : PyStr
  netloc : PyStr
  path : PyStr
  query : PyStr
  fragment : PyStr

/-- The text without blanks and control characters in front, and without tabs
and newlines. -/
def cleanUrl (url : PyStr) : PyStr :=
  (url.dropWhile fun c => c.val ≤ 32).filter fun c => c.val != 9 && c.val != 10 && c.val != 13

/-- The scheme, in lower case, and what follows it. -/
def splitScheme (url : PyStr) : PyStr × PyStr :=
  let scheme := (cut 58 url).1
  if (58 : CodePoint) ∈ url ∧ scheme ≠ [] ∧ scheme.all CodePoint.isSchemeChar then
    (lowerAscii scheme, (cut 58 url).2)
  else ([], url)

/-- The network location behind two slashes, and what follows it. -/
def splitNetloc (url : PyStr) : PyStr × PyStr :=
  if (py "//").isPrefixOf url then
    let inside : CodePoint → Bool := fun c => c.val != 47 && c.val != 63 && c.val != 35
    ((url.drop 2).takeWhile inside, (url.drop 2).dropWhile inside)
  else ([], url)

/-- `urlsplit(url)`; `netlocOk` are the checks that are left out here. -/
def urlsplit (netlocOk : PyStr → Bool) (url : PyStr) : Except PyError SplitResult :=
  let byScheme := splitScheme (cleanUrl url)
  let byNetloc := splitNetloc byScheme.2
  let netloc := byNetloc.1
  if netloc.contains 91 != netloc.contains 93 then .error .ValueError
  else if !netlocOk netloc then .error .ValueError
  else
    let byFragment := cut 35 byNetloc.2
    let byQuery := cut 63 byFragment.1
    .ok
      { scheme := byScheme.1, netloc := netloc, path := byQuery.1, query := byQuery.2,
        fragment := byFragment.2 }

namespace SplitResult

/-- What follows the last `@`. -/
def hostinfo (uri : SplitResult) : PyStr := uri.netloc.rtakeWhile (· != 64)

/-- What stands before it. -/
def userinfo (uri : SplitResult) : PyStr := (uri.netloc.rdropWhile (· != 64)).dropLast

/-- `_hostinfo`: the host and the port as texts. -/
def _hostinfo (uri : SplitResult) : PyStr × Option PyStr :=
  let host :=
    if (91 : CodePoint) ∈ uri.hostinfo then
      let bracketed := cut 93 (cut 91 uri.hostinfo).2
      (bracketed.1, (cut 58 bracketed.2).2)
    else cut 58 uri.hostinfo
  (host.1, if host.2 = [] then none else some host.2)

/-- `uri.hostname`: a zone behind `%` keeps its letters. -/
def hostname (uri : SplitResult) : Option PyStr :=
  let host := uri._hostinfo.1
  if host = [] then none
  else some (lowerAscii (host.takeWhile (· != 37)) ++ host.dropWhile (· != 37))

/-- `uri.port`. -/
def port (uri : SplitResult) : Except PyError (Option Nat) :=
  match uri._hostinfo.2 with
  | none => .ok none
  | some digits =>
      if !digits.all CodePoint.isDigit then .error .ValueError
      else if INT_MAX_STR_DIGITS < digits.length then .error .ValueError
      else if 65535 < digitsValue digits then .error .ValueError
      else .ok (some (digitsValue digits))

/-- `uri.username`. -/
def username (uri : SplitResult) : Option PyStr :=
  if (64 : CodePoint) ∈ uri.netloc then some (cut 58 uri.userinfo).1 else none

/-- `uri.password`. -/
def password (uri : SplitResult) : Option PyStr :=
  if (64 : CodePoint) ∈ uri.netloc ∧ (58 : CodePoint) ∈ uri.userinfo then
    some (cut 58 uri.userinfo).2
  else none

end SplitResult

end OvenRuntime
