import QuoteService.Json.Printer
import QuoteService.Text.Printable

/-!
# Quoted text

The form in which a text stands inside the form of a larger value: in quotes, what cannot be shown
escaped by its number.

* `quoted`: the quoted form.
* `quoteMark`: single quotes, unless the text holds them and no double ones.
-/

namespace QuoteService.Text

/-- The quotes around a text. -/
def quoteMark (t : Text) : Char :=
  if t.contains (.scalar '\'') && !t.contains (.scalar '"') then '"' else '\''

/-- The hexadecimal digits of `n`, exactly `count` of them. -/
def hexDigits : Nat → Nat → List Char
  | 0, _ => []
  | count + 1, n => hexDigits count (n / 16) ++ [Json.hexDigit (n % 16)]

/-- The escape of a number, as short as it can be. -/
def numbered (n : Nat) : List Char :=
  if n < 0x100 then '\\' :: 'x' :: hexDigits 2 n
  else if n < 0x10000 then '\\' :: 'u' :: hexDigits 4 n
  else '\\' :: 'U' :: hexDigits 8 n

/-- A code point within quotes. -/
def quotedPoint (mark : Char) : CodePoint → List Char
  | .scalar '\n' => ['\\', 'n']
  | .scalar '\r' => ['\\', 'r']
  | .scalar '\t' => ['\\', 't']
  | .scalar c =>
    if c = mark ∨ c = '\\' then ['\\', c]
    else if isPrintable c then [c]
    else numbered c.toNat
  | p => numbered p.toNat

/-- The quoted form of a text. -/
def quoted (t : Text) : List Char :=
  let mark := quoteMark t
  mark :: (t.flatMap (quotedPoint mark) ++ [mark])

end QuoteService.Text
