/-!
# Lines

* `isLineEnd`: the characters that end a line.
* `splitLines`: the lines of a text without their ends; a carriage return and a line feed together
  end one line, and an end at the very end opens no further line.
-/

namespace QuoteService.Text

/-- Line feed, carriage return, the vertical tab and form feed, the three outer information
separators, next line, and the line and paragraph separators. -/
def isLineEnd (c : Char) : Bool :=
  let n := c.toNat
  (0x0A ≤ n && n ≤ 0x0D) || (0x1C ≤ n && n ≤ 0x1E) || n == 0x85 || n == 0x2028 || n == 0x2029

/-- Puts `c` in front of the first line. -/
def extendFirst (c : Char) : List (List Char) → List (List Char)
  | [] => [[c]]
  | l :: ls => (c :: l) :: ls

/-- The lines of a text, without their ends. -/
def splitLines : List Char → List (List Char)
  | [] => []
  | '\r' :: '\n' :: r => [] :: splitLines r
  | c :: r => if isLineEnd c then [] :: splitLines r else extendFirst c (splitLines r)

end QuoteService.Text
