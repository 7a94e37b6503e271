/-!
# Tables over code points

A character class is a list of closed ranges, a character mapping a list of runs.

* `inRanges`: membership in a class.
* `Run.find?`: the partner of a code point under a mapping.
-/

namespace QuoteService.Text

/-- Whether one of the closed ranges contains `n`. -/
def inRanges (ranges : List (Nat × Nat)) (n : Nat) : Bool :=
  ranges.any fun r => r.1 ≤ n && n ≤ r.2

/-- The code points `first`, `first + step`, …, `last`, mapped to `target`, `target + step`, …. -/
structure Run where
  first : Nat
  last : Nat
  step : Nat
  target : Nat

namespace Run

/-- Whether the run maps `n`. -/
def covers (r : Run) (n : Nat) : Bool :=
  r.first ≤ n && n ≤ r.last && (n - r.first) % r.step == 0

/-- The partner of `n` in the first run that maps it. -/
def find? (runs : List Run) (n : Nat) : Option Char :=
  (runs.find? (·.covers n)).map fun r => Char.ofNat (r.target + (n - r.first))

end Run

end QuoteService.Text
