import QuoteService.Text.Blank
import QuoteService.Text.Decimal

/-!
# Whole numbers in text

Two readers. The lenient one takes digits of any script. The plain one takes ASCII digits, and a
fraction if it is zero. Both take white space around the number, one sign, and single underscores
between digits; where zeros lead, the plain one also takes a minus sign after them.

* `grouped?`: the digits of a group with its underscores removed.
* `lenientInt?`, `plainInt?`: the two readers.
-/

namespace QuoteService.Text

/-- No number of more digits is read from text or written to it. -/
def maxDigits : Nat := 4300

/-- Digits with single underscores between them, as characters without the underscores. -/
def grouped? (p : Char → Bool) : List Char → Option (List Char)
  | [] => none
  | [c] => if p c then some [c] else none
  | c :: '_' :: r => if p c then (grouped? p r).map (c :: ·) else none
  | c :: r => if p c then (grouped? p r).map (c :: ·) else none

/-- A sign and what follows it; without a sign the number is not negative. -/
def splitSign : List Char → Bool × List Char
  | '-' :: r => (true, r)
  | '+' :: r => (false, r)
  | r => (false, r)

/-- A natural number with a sign. -/
def applySign (negative : Bool) (n : Nat) : Int := if negative then -(n : Int) else n

/-- The integer of a text: white space around it, digits of any script, at most `maxDigits` of them. -/
def lenientInt? (cs : List Char) : Option Int :=
  let (negative, body) := splitSign (trimBy isWhiteSpace cs)
  match grouped? (fun c => (anyDigitValue? c).isSome) body with
  | none => none
  | some ds =>
    if maxDigits < ds.length then none
    else some (applySign negative (ofDigits (ds.filterMap anyDigitValue?)))

/-- Why the plain reader refuses a text. -/
inductive PlainIntError where
  | malformed
  | tooLong
  deriving DecidableEq

/-- The integer of a text that is one number alone: ASCII digits without leading zeros, and a minus
sign if any, which counts as one of at most `maxDigits` characters. -/
def bareInt (cs : List Char) : Except PlainIntError Int :=
  let (negative, body) := match cs with
    | '-' :: r => (true, r)
    | r => (false, r)
  let ds := body.takeWhile isDigit
  let rest := body.dropWhile isDigit
  if ds.isEmpty || (ds.head? == some '0' && ds != ['0']) then .error .malformed
  else if maxDigits < (if negative then 1 else 0) + ds.length then .error .tooLong
  else if rest.isEmpty then .ok (applySign negative (ofDigits (ds.filterMap digitValue?)))
  else .error .malformed

/-- What is left after a zero when zeros and underscores go, up to the first other digit or a minus
sign; `last` is the character in front, which stays if it is all there is. -/
def afterZeros (last : Char) : List Char → Option (List Char)
  | [] => some [last]
  | c :: r =>
    if c = '0' ∨ c = '_' then afterZeros c r
    else if isDigit c ∨ c = '-' then some (c :: r)
    else if c = '.' then some (last :: c :: r)
    else none

/-- A text that starts with a digit, without leading zeros. -/
def withoutZeros : List Char → Option (List Char)
  | [] => none
  | c :: r => if c = '0' then afterZeros c r else if isDigit c then some (c :: r) else none

/-- A text without a fraction of zeros. -/
def withoutFraction (cs : List Char) : List Char :=
  let fraction := (cs.dropWhile (· != '.')).drop 1
  if !fraction.isEmpty && fraction.all (· == '0') then cs.takeWhile (· != '.') else cs

/-- A number brought into its bare form. -/
def bared (cs : List Char) : Option (List Char) :=
  let (negative, body) := splitSign (trimBy isWhiteSpace cs)
  ((withoutZeros body).map withoutFraction).bind (grouped? (· != '_')) |>.map fun bare =>
    if negative then '-' :: bare else bare

/-- The integer of a text. White space around it, a sign, leading zeros, a fraction of zeros and
single underscores are left out if the text is not bare. -/
def plainInt (cs : List Char) : Except PlainIntError Int :=
  match bareInt cs with
  | .error .malformed => ((bared cs).elim (.error .malformed) bareInt).mapError fun _ => .malformed
  | found => found

/-- The integer of a text by the plain reader. -/
def plainInt? (cs : List Char) : Option Int := (plainInt cs).toOption

end QuoteService.Text
