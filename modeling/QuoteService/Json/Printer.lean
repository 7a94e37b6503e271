import QuoteService.Json.Value
import QuoteService.Number.Shortest
import QuoteService.Text.Utf8

/-!
# Writing JSON

One line without spaces. Quotes, backslashes and control characters are escaped; characters beyond
ASCII stand for themselves or are escaped too, as the style says.

* `Style`: which characters stand for themselves.
* `render`: the text of a value.
* `renderChars?`: its characters, unless half of a surrogate pair stands in it alone.
-/

namespace QuoteService.Json

/-- How characters beyond ASCII are written. -/
inductive Style where
  | unescaped
  | ascii
  deriving DecidableEq

/-- The lower-case hexadecimal digit of value `d`, for `d` below sixteen. -/
def hexDigit (d : Nat) : Char := if d < 10 then Char.ofNat (0x30 + d) else Char.ofNat (0x57 + d)

/-- The escape of a unit below 65536. -/
def escapeUnit (n : Nat) : List Char :=
  ['\\', 'u', hexDigit (n / 4096 % 16), hexDigit (n / 256 % 16), hexDigit (n / 16 % 16),
    hexDigit (n % 16)]

/-- The escape of a code point by its number, in two units where one does not hold it. -/
def escapePoint (n : Nat) : List Char :=
  if n < 0x10000 then escapeUnit n
  else escapeUnit (0xD800 + (n - 0x10000) / 0x400) ++ escapeUnit (0xDC00 + (n - 0x10000) % 0x400)

/-- A code point inside a string. -/
def renderPoint (style : Style) (p : CodePoint) : Text :=
  match p with
  | .scalar '"' => Text.ofChars ['\\', '"']
  | .scalar '\\' => Text.ofChars ['\\', '\\']
  | .scalar '\n' => Text.ofChars ['\\', 'n']
  | .scalar '\r' => Text.ofChars ['\\', 'r']
  | .scalar '\t' => Text.ofChars ['\\', 't']
  | .scalar '\x08' => Text.ofChars ['\\', 'b']
  | .scalar '\x0c' => Text.ofChars ['\\', 'f']
  | p =>
    if p.toNat < 0x20 ∨ (style = .ascii ∧ 0x7F ≤ p.toNat) then Text.ofChars (escapePoint p.toNat)
    else [p]

/-- A string in its quotes. -/
def renderString (style : Style) (t : Text) : Text :=
  .scalar '"' :: (t.flatMap (renderPoint style) ++ [.scalar '"'])

/-- A number of double precision; the three that are not finite have names. -/
def renderDouble : Double → List Char
  | .nan => "NaN".toList
  | .infinite false => "Infinity".toList
  | .infinite true => "-Infinity".toList
  | x => x.chars

mutual

/-- The text of a value. -/
def render (style : Style) : Json → Text
  | .null => Text.ofChars "null".toList
  | .bool true => Text.ofChars "true".toList
  | .bool false => Text.ofChars "false".toList
  | .int n => Text.ofChars (Text.intDigits n)
  | .float x => Text.ofChars (renderDouble x)
  | .str t => renderString style t
  | .arr items => .scalar '[' :: (renderItems style items ++ [.scalar ']'])
  | .obj members => .scalar '\x7b' :: (renderMembers style members ++ [.scalar '\x7d'])

/-- Values with commas between them. -/
def renderItems (style : Style) : List Json → Text
  | [] => []
  | [v] => render style v
  | v :: vs => render style v ++ .scalar ',' :: renderItems style vs

/-- Members with commas between them. -/
def renderMembers (style : Style) : List (Text × Json) → Text
  | [] => []
  | [m] => renderString style m.1 ++ .scalar ':' :: render style m.2
  | m :: ms =>
    renderString style m.1 ++ .scalar ':' :: (render style m.2 ++
      .scalar ',' :: renderMembers style ms)

end

/-- The characters of a value, unless half of a pair stands in a string alone. -/
def renderChars? (style : Style) (v : Json) : Option (List Char) := (render style v).toChars?

end QuoteService.Json
