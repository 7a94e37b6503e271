import QuoteService.Text.Decimal

/-!
# Punycode

The form in ASCII of a label with other characters: its ASCII characters, a hyphen if there are any,
and then, in the order of their numbers, where each of the others is inserted. A place is told by
the distance from the last one, in digits of base 36 whose weights adapt to the distances seen.

* `punycode`: the form of a label.
* `ofPunycode?`: the label of a form, as the numbers of its characters.
-/

namespace QuoteService.Url

/-- The digit of value `d`, for `d` below 36. -/
def baseDigit (d : Nat) : Char := Char.ofNat (if d < 26 then 0x61 + d else 0x30 + d - 26)

/-- The value from which on the digit at the position `36 * k` is not the last one. -/
def threshold (bias k : Nat) : Nat :=
  if k ≤ bias then 1 else if bias + 26 ≤ k then 26 else k - bias

theorem threshold_pos (bias k : Nat) : 1 ≤ threshold bias k := by
  unfold threshold; split
  · omega
  · split <;> omega

theorem threshold_le (bias k : Nat) : threshold bias k ≤ 26 := by
  unfold threshold; split
  · omega
  · split <;> omega

/-- The digits of a distance, the lowest first. -/
def distanceDigits (bias k n : Nat) : List Char :=
  let t := threshold bias k
  if n < t then [baseDigit n]
  else baseDigit (t + (n - t) % (36 - t)) :: distanceDigits bias (k + 36) ((n - t) / (36 - t))
termination_by n
decreasing_by
  have h1 := threshold_pos bias k
  have h2 := threshold_le bias k
  have h3 := Nat.div_le_self (n - threshold bias k) (36 - threshold bias k)
  omega

/-- A distance cut down to at most 455, and 36 for each cut. -/
def cutDown (distance k : Nat) : Nat × Nat :=
  if 455 < distance then cutDown (distance / 35) (k + 36) else (distance, k)
termination_by distance
decreasing_by omega

/-- The bias after a distance, with `count` characters of the label in place. -/
def adapt (distance count : Nat) (isFirst : Bool) : Nat :=
  let d := distance / (if isFirst then 700 else 2)
  let (d, k) := cutDown (d + d / count) 0
  k + 36 * d / (d + 38)

/-- Where the insertion of characters stands. -/
structure Insertion where
  distance : Nat
  bias : Nat
  /-- How many characters of the label are in place. -/
  count : Nat
  isFirst : Bool
  digits : List Char

/-- One pass over the label for the characters with number `n`: every smaller one is a place further,
and each of them is inserted. -/
def Insertion.pass (n : Nat) (s : Insertion) (c : Char) : Insertion :=
  if c.toNat < n then { s with distance := s.distance + 1 }
  else if c.toNat = n then
    { distance := 0
      bias := adapt s.distance (s.count + 1) s.isFirst
      count := s.count + 1
      isFirst := false
      digits := s.digits ++ distanceDigits s.bias 36 s.distance }
  else s

/-- Inserts the characters with the given numbers, from the number `last` on. -/
def insertAll (label : List Char) (last : Nat) (s : Insertion) : List Nat → Insertion
  | [] => s
  | n :: ns =>
    let skipped := { s with distance := s.distance + (n - last) * (s.count + 1) }
    let s := label.foldl (Insertion.pass n) skipped
    insertAll label (n + 1) { s with distance := s.distance + 1 } ns

/-- The form of a label in ASCII. -/
def punycode (label : List Char) : List Char :=
  let basic := label.filter fun c => c.toNat < 0x80
  let others := (label.filter fun c => 0x80 ≤ c.toNat).map Char.toNat
  let numbers := (others.mergeSort (· ≤ ·)).eraseDups
  let start : Insertion := ⟨0, 72, basic.length, true, []⟩
  basic ++ (if basic.isEmpty then [] else ['-']) ++ (insertAll label 0x80 start numbers).digits

/-! ### Reading a form -/

/-- The value of a digit of base 36 of either case. -/
def baseValue? (c : Char) : Option Nat :=
  let n := c.toNat
  if 0x61 ≤ n ∧ n ≤ 0x7A then some (n - 0x61)
  else if 0x41 ≤ n ∧ n ≤ 0x5A then some (n - 0x41)
  else if 0x30 ≤ n ∧ n ≤ 0x39 then some (n - 0x30 + 26)
  else none

/-- The distance in front and what follows it, given the sum of the digits before and the weight of
the next one. -/
def readDistance? (bias : Nat) : (k weight sum : Nat) → List Char → Option (Nat × List Char)
  | _, _, _, [] => none
  | k, weight, sum, c :: r =>
    match baseValue? c with
    | none => none
    | some d =>
      let t := threshold bias k
      if d < t then some (sum + d * weight, r)
      else readDistance? bias (k + 36) (weight * (36 - t)) (sum + d * weight) r

theorem length_of_readDistance? {bias k weight sum n : Nat} {cs r : List Char}
    (h : readDistance? bias k weight sum cs = some (n, r)) : r.length < cs.length := by
  induction cs generalizing k weight sum with
  | nil => simp [readDistance?] at h
  | cons c cs ih =>
    rw [readDistance?] at h
    split at h
    · exact absurd h (by simp)
    · simp only at h
      split at h
      · simp only [Option.some.injEq, Prod.mk.injEq] at h
        rw [← h.2]
        exact Nat.lt_succ_self _
      · exact Nat.lt_succ_of_lt (ih h)

/-- Inserts characters into a label at the distances that the rest of a form tells; `place` counts
from the last insertion on, through all numbers and all places. -/
def insertRest? (isFirst : Bool) (bias last place : Nat) (label : List Nat) (cs : List Char) :
    Option (List Nat) :=
  if cs = [] then some label
  else
    match _h : readDistance? bias 36 1 0 cs with
    | none => none
    | some (distance, r) =>
      let place := place + distance
      let count := label.length + 1
      let n := last + place / count
      if 0x10FFFF < n then none
      else
        let place := place % count
        insertRest? false (adapt distance count isFirst) n (place + 1)
          (label.take place ++ n :: label.drop place) r
termination_by cs.length
decreasing_by exact length_of_readDistance? _h

/-- The label of a form in ASCII. -/
def ofPunycode? (form : List Char) : Option (List Nat) :=
  let rest := (form.reverse.takeWhile (· != '-')).reverse
  let basic := form.take (form.length - rest.length - 1)
  insertRest? true 72 0x80 0 (basic.map Char.toNat) rest

end QuoteService.Url
