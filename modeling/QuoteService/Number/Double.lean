/-!
# Numbers of double precision

A finite number is `mantissa * 2 ^ exponent` with fewer than 54 bits of mantissa; the mantissa has
all 53 bits unless the exponent is the least one, so each number has one form. All arithmetic is
exact, on naturals.

* `Double.ofRatio`: the nearest number to a quotient, ties to the even mantissa.
* `Double.ofDecimal`: the nearest number to digits times a power of ten.
* `Double.truncate?`, `Double.integer?`: the integer towards zero, and the integer it equals.
-/

namespace QuoteService

/-- A number of double precision. -/
inductive Double where
  | nan
  | infinite (negative : Bool)
  | finite (negative : Bool) (mantissa : Nat) (exponent : Int)
  deriving DecidableEq, Inhabited

namespace Double

/-- The exponent of the smallest positive number. -/
def minExponent : Int := -1074

/-- The exponent of the largest finite numbers. -/
def maxExponent : Int := 971

/-- `n / (d * 2 ^ e)` rounded to the nearest natural, a tie to the even one. -/
def roundScaled (n d : Nat) (e : Int) : Nat :=
  let num := if e < 0 then n * Nat.pow 2 (-e).toNat else n
  let den := if e < 0 then d else d * Nat.pow 2 e.toNat
  let q := num / den
  let r := num % den
  if 2 * r < den then q
  else if den < 2 * r then q + 1
  else if q % 2 = 0 then q else q + 1

/-- Whether `n / d` is at least `2 ^ k`. -/
def atLeastPower (n d : Nat) (k : Int) : Bool :=
  if k < 0 then d ≤ n * Nat.pow 2 (-k).toNat else d * Nat.pow 2 k.toNat ≤ n

/-- The exponent at which `n / d` has a mantissa of 53 bits, or the least one if that is more. -/
def exponentOf (n d : Nat) : Int :=
  let guess : Int := (n.log2 : Int) - (d.log2 : Int)
  let top := if atLeastPower n d guess then guess else guess - 1
  max minExponent (top - 52)

/-- The number nearest to `n / d`, for positive `d`. -/
def ofRatio (negative : Bool) (n d : Nat) : Double :=
  if n = 0 then .finite negative 0 minExponent
  else
    let e := exponentOf n d
    let m := roundScaled n d e
    let m' := if m = Nat.pow 2 53 then Nat.pow 2 52 else m
    let e' := if m = Nat.pow 2 53 then e + 1 else e
    if maxExponent < e' then .infinite negative else .finite negative m' e'

/-- The number nearest to `digits * 10 ^ e`. Quotients beyond any finite number, or below half of
the smallest one, are decided without their powers of ten. -/
def ofDecimal (negative : Bool) (digits : Nat) (e : Int) : Double :=
  if digits = 0 then .finite negative 0 minExponent
  else if 400 < e then .infinite negative
  else if e + (digits.log2 : Int) + 400 < 0 then .finite negative 0 minExponent
  else if e < 0 then ofRatio negative digits (Nat.pow 10 (-e).toNat)
  else ofRatio negative (digits * Nat.pow 10 e.toNat) 1

/-- The number nearest to an integer divided by a positive natural. -/
def ofIntRatio (n : Int) (d : Nat) : Double := ofRatio (n < 0) n.natAbs d

/-- An integer of a given sign. -/
def signed (negative : Bool) (n : Nat) : Int := if negative then -(n : Int) else n

/-- The integer next to a finite number on the side of zero. -/
def truncate? : Double → Option Int
  | finite negative m e =>
    some (signed negative (if e < 0 then m / Nat.pow 2 (-e).toNat else m * Nat.pow 2 e.toNat))
  | _ => none

/-- The integer that a finite number without a fraction equals. -/
def integer? : Double → Option Int
  | finite negative m e =>
    if e < 0 then
      if m % Nat.pow 2 (-e).toNat = 0 then some (signed negative (m / Nat.pow 2 (-e).toNat)) else none
    else some (signed negative (m * Nat.pow 2 e.toNat))
  | _ => none

/-- Whether a number is zero of either sign. -/
def isZero : Double → Bool
  | finite _ m _ => m == 0
  | _ => false

end Double

end QuoteService
