/-!
# Modular arithmetic

* `powMod`: a power modulo `m`.
* `isPrime`: the Miller–Rabin test with the first primes as bases.
-/

namespace QuoteService.Number

/-- `b ^ e` modulo `m`, by repeated squaring. -/
def powMod (b e m : Nat) : Nat :=
  if e = 0 then 1 % m
  else
    let rest := powMod (b * b % m) (e / 2) m
    if e % 2 = 1 then b * rest % m else rest
termination_by e
decreasing_by omega

/-- The odd part of `n` and the number of twos in it; `fuel` bounds that number. -/
def splitTwos : Nat → Nat → Nat × Nat
  | 0, n => (n, 0)
  | fuel + 1, n =>
    if n % 2 = 0 ∧ n ≠ 0 then
      let (odd, twos) := splitTwos fuel (n / 2)
      (odd, twos + 1)
    else (n, 0)

/-- Whether squaring `x` fewer than `count` times reaches `m - 1`. -/
def reachesMinusOne (m : Nat) : Nat → Nat → Bool
  | 0, _ => false
  | count + 1, x => x == m - 1 || reachesMinusOne m count (x * x % m)

/-- Whether base `b` does not show that the odd number `n` is composite. -/
def passesBase (n odd twos b : Nat) : Bool :=
  let x := powMod (b % n) odd n
  b % n == 0 || x == 1 || reachesMinusOne n twos x

/-- The bases of the test. -/
def primeBases : List Nat := [2, 3, 5, 7, 11, 13, 17, 19, 23, 29, 31, 37, 41, 43, 47, 53]

/-- Whether `n` passes the test of Miller and Rabin for every base. -/
def isPrime (n : Nat) : Bool :=
  if n < 2 then false
  else if primeBases.contains n then true
  else if n % 2 = 0 then false
  else
    let (odd, twos) := splitTwos (n - 1).log2 (n - 1)
    primeBases.all (passesBase n odd twos)

end QuoteService.Number
