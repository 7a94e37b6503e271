import QuoteService.Text.WholeNumber

/-!
# Real numbers in text

A real number has digits of any script, white space around it, one sign, a point, an exponent, and
single underscores between digits; the three that are not finite have names.

* `isReal`: whether a text is a real number.
-/

namespace QuoteService.Text

/-- The names of real numbers that are not finite. -/
def realNames : List (List Char) := ["inf", "infinity", "nan"].map String.toList

/-- A digit of any script. -/
def isAnyDigit (c : Char) : Bool := (anyDigitValue? c).isSome

/-- Digits with single underscores between them, or none at all. -/
def areDigits (cs : List Char) : Bool := cs.isEmpty || (grouped? isAnyDigit cs).isSome

/-- A number in front of its exponent: digits, of which a point may stand in front of some. -/
def isMantissa (cs : List Char) : Bool :=
  let whole := cs.takeWhile (· != '.')
  let fraction := (cs.dropWhile (· != '.')).drop 1
  areDigits whole && areDigits fraction && !(whole.isEmpty && fraction.isEmpty)

/-- Whether a text is a real number. -/
def isReal (cs : List Char) : Bool :=
  let (_, body) := splitSign (trimBy isWhiteSpace cs)
  let isMark (c : Char) : Bool := c == 'e' || c == 'E'
  let mantissa := body.takeWhile fun c => !isMark c
  realNames.contains (body.map Char.toLower) ||
    match body.dropWhile fun c => !isMark c with
    | [] => isMantissa mantissa
    | _ :: exponent => isMantissa mantissa && (grouped? isAnyDigit (splitSign exponent).2).isSome

end QuoteService.Text
