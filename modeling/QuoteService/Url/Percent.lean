import QuoteService.Text.Utf8

/-!
# Percent escapes

A character that an address may not hold stands in it as the bytes of its UTF-8 form, each after a
percent sign. The percent sign itself is left as it is, so what is escaped already stays so.

* `escape`: a text with the characters outside a class escaped.
* `unescape`: the bytes that a text with escapes stands for.
-/

namespace QuoteService.Url

/-- An upper-case hexadecimal digit, for `d` below sixteen. -/
def upperHex (d : Nat) : Char := if d < 10 then Char.ofNat (0x30 + d) else Char.ofNat (0x37 + d)

/-- The value of a hexadecimal digit of either case. -/
def hexDigit? (c : Char) : Option Nat :=
  let n := c.toNat
  if 0x30 ≤ n ∧ n ≤ 0x39 then some (n - 0x30)
  else if 0x41 ≤ n ∧ n ≤ 0x46 then some (n - 0x37)
  else if 0x61 ≤ n ∧ n ≤ 0x66 then some (n - 0x57)
  else none

/-- The percent escape of a byte. -/
def escapeByte (b : UInt8) : List Char := ['%', upperHex (b.toNat / 16), upperHex (b.toNat % 16)]

/-- A text with the characters that are not safe escaped byte by byte. -/
def escape (safe : Char → Bool) (cs : List Char) : List Char :=
  cs.flatMap fun c => if safe c then [c] else (Utf8.encode [c]).flatMap escapeByte

/-- The bytes of a text; a percent sign without two hexadecimal digits stands for itself. -/
def unescape : List Char → List UInt8
  | [] => []
  | '%' :: a :: b :: r =>
    match hexDigit? a, hexDigit? b with
    | some x, some y => UInt8.ofNat (x * 16 + y) :: unescape r
    | _, _ => 0x25 :: unescape (a :: b :: r)
  | c :: r => Utf8.encode [c] ++ unescape r

/-- A visible ASCII character other than the excluded ones; the percent sign is never excluded. -/
def isVisibleExcept (excluded : List Char) (c : Char) : Bool :=
  0x20 < c.toNat && c.toNat < 0x7F && !excluded.contains c

/-- Characters that stand for themselves after the number sign. -/
def isFragmentSafe : Char → Bool := isVisibleExcept ['"', '<', '>', '\x60']

/-- Characters that stand for themselves after the question mark. -/
def isQuerySafe : Char → Bool := isVisibleExcept ['"', '#', '<', '>']

/-- Characters that a path may not hold. -/
def pathExcluded : List Char := ['"', '#', '<', '>', '?', '\x60', '\x7b', '\x7d']

/-- Characters that stand for themselves in a path. -/
def isPathSafe : Char → Bool := isVisibleExcept pathExcluded

/-- Characters that stand for themselves in the credentials of an address. -/
def isCredentialsSafe : Char → Bool :=
  isVisibleExcept (pathExcluded ++ ['/', ';', '=', '@', '[', '\\', ']', '^', '|'])

/-- Letters and digits of ASCII, and the four marks that are never escaped. -/
def isUnreserved (c : Char) : Bool := c.isAlphanum || ['-', '.', '_', '~'].contains c

/-- Characters that stand for themselves in the name of a host. -/
def isNameSafe (c : Char) : Bool :=
  isUnreserved c || "!$&'()*+,;=\"\x60\x7b\x7d%|\\".toList.contains c

end QuoteService.Url
