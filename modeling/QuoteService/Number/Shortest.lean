import QuoteService.Number.Double
import QuoteService.Text.Decimal

/-!
# The shortest text of a double

The fewest decimal digits that read back as the number; of two candidates with so few the nearer.

* `Double.shortest`: digits and the power of ten of the last one.
* `Double.text`: the number positionally from 10^-4 up to 10^16, with an exponent outside.
-/

namespace QuoteService.Double

/-- The interval of the rationals that round to `m * 2 ^ e`, and the number itself, all three times
`4 * 2 ^ (-e)` if `e` is negative and times four otherwise. -/
structure Interval where
  low : Nat
  value : Nat
  high : Nat
  scale : Nat
  closed : Bool

/-- The interval that rounds to a positive number. Below a power of two the spacing halves. -/
def interval (m : Nat) (e : Int) : Interval :=
  let unit := if e < 0 then 1 else Nat.pow 2 e.toNat
  let below := if m = Nat.pow 2 52 ∧ minExponent < e then unit else 2 * unit
  { low := 4 * m * unit - below
    value := 4 * m * unit
    high := 4 * m * unit + 2 * unit
    scale := if e < 0 then 4 * Nat.pow 2 (-e).toNat else 4
    closed := m % 2 = 0 }

/-- Numerator and denominator of `n / scale` over `10 ^ p`. -/
def overPower (n scale : Nat) (p : Int) : Nat × Nat :=
  if p < 0 then (n * Nat.pow 10 (-p).toNat, scale) else (n, scale * Nat.pow 10 p.toNat)

/-- Whether `c * 10 ^ p` rounds to the number of the interval. -/
def Interval.contains (i : Interval) (c : Nat) (p : Int) : Bool :=
  let low := overPower i.low i.scale p
  let high := overPower i.high i.scale p
  let c' := c * low.2
  if i.closed then low.1 ≤ c' && c' ≤ high.1 else low.1 < c' && c' < high.1

/-- The multiple of `10 ^ p` that rounds to the number, if there is one next to it. -/
def Interval.nearest? (i : Interval) (p : Int) : Option Nat :=
  let v := overPower i.value i.scale p
  let floor := v.1 / v.2
  let rest := v.1 % v.2
  match i.contains floor p, i.contains (floor + 1) p with
  | true, true =>
    if 2 * rest < v.2 then some floor
    else if v.2 < 2 * rest then some (floor + 1)
    else some (if floor % 2 = 0 then floor else floor + 1)
  | true, false => some floor
  | false, true => some (floor + 1)
  | false, false => none

/-- The power of ten of the leading digit of `n / d`, searched for downwards from zero. -/
def leadingPower (n d : Nat) : Int :=
  if d ≤ n then ((Text.digits (n / d)).length : Int) - 1
  else below 330 10 1
where
  below : Nat → Nat → Nat → Int
    | 0, _, j => -(j : Int)
    | fuel + 1, power, j => if d ≤ n * power then -(j : Int) else below fuel (power * 10) (j + 1)

/-- Tries grids of one digit more each, seventeen digits at most. -/
def Interval.search (i : Interval) (lead : Int) : Nat → Int → Nat × Int
  | 0, p => ((i.nearest? p).getD 0, p)
  | fuel + 1, p =>
    match i.nearest? p with
    | some c => (c, p)
    | none => i.search lead fuel (p - 1)

/-- The shortest digits of a positive number, as a natural times a power of ten. -/
def shortest (m : Nat) (e : Int) : Nat × Int :=
  let i := interval m e
  let lead := leadingPower i.value i.scale
  i.search lead 16 lead

/-- Digits without the zeros at their end. -/
def dropTrailingZeros (ds : List Char) : List Char :=
  (ds.reverse.dropWhile (· == '0')).reverse

/-- The text of an exponent: a sign and at least two digits. -/
def exponentText (e : Int) : List Char :=
  let ds := Text.digits e.natAbs
  (if e < 0 then '-' else '+') :: (if ds.length < 2 then '0' :: ds else ds)

/-- Digits `ds` with the point `point` places after their start. -/
def layOut (ds : List Char) (point : Int) : List Char :=
  let n : Int := ds.length
  if point < -3 ∨ 16 < point then
    match ds with
    | [] => []
    | [d] => d :: 'e' :: exponentText (point - 1)
    | d :: r => d :: '.' :: r ++ 'e' :: exponentText (point - 1)
  else if point ≤ 0 then '0' :: '.' :: List.replicate (-point).toNat '0' ++ ds
  else if n ≤ point then ds ++ List.replicate (point - n).toNat '0' ++ ['.', '0']
  else ds.take point.toNat ++ '.' :: ds.drop point.toNat

/-- The text of a number. -/
def chars : Double → List Char
  | nan => ['n', 'a', 'n']
  | infinite negative => (if negative then ['-'] else []) ++ ['i', 'n', 'f']
  | finite negative m e =>
    (if negative then ['-'] else []) ++
      if m = 0 then ['0', '.', '0']
      else
        let (c, p) := shortest m e
        let ds := Text.digits c
        layOut (dropTrailingZeros ds) (ds.length + p)

/-- The text of a number as a string. -/
def text (x : Double) : String := String.ofList x.chars

end QuoteService.Double
