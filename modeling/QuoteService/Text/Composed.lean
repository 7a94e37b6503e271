import QuoteService.Text.ComposedTables
import QuoteService.Text.Ranges

/-!
# Composed form

A letter with marks can be written as one character or as several. In the composed form each letter
takes up as many of its marks as there are characters for, and the others follow in the order of
their ranks.

* `decompose`, `ordered`, `compose`: the steps into the composed form.
* `isComposed`: whether a text is in it already.

Characters are given by their numbers.
-/

namespace QuoteService.Text

/-- The rank of a mark; other characters have rank zero. -/
def rank (n : Nat) : Nat :=
  match rankRuns.find? fun r => r.1 ≤ n && n ≤ r.2.1 with
  | some r => r.2.2
  | none => 0

/-! ### Korean syllables -/

/-- The numbers of the first syllable and of the first leading, middle and closing letter; a closing
letter of its own comes after that one. -/
abbrev firstSyllable : Nat := 0xAC00
abbrev firstLeading : Nat := 0x1100
abbrev firstMiddle : Nat := 0x1161
abbrev firstClosing : Nat := 0x11A7

/-- The letters of a syllable. -/
def syllableLetters? (n : Nat) : Option (List Nat) :=
  if firstSyllable ≤ n ∧ n < firstSyllable + 19 * 21 * 28 then
    let i := n - firstSyllable
    let open_ := [firstLeading + i / (21 * 28), firstMiddle + i / 28 % 21]
    some (if i % 28 = 0 then open_ else open_ ++ [firstClosing + i % 28])
  else none

/-- The syllable of a leading and a middle letter, or of a syllable without a closing one and a
closing one. -/
def syllable? (a b : Nat) : Option Nat :=
  if firstLeading ≤ a ∧ a < firstLeading + 19 ∧ firstMiddle ≤ b ∧ b < firstMiddle + 21 then
    some (firstSyllable + ((a - firstLeading) * 21 + (b - firstMiddle)) * 28)
  else if firstSyllable ≤ a ∧ a < firstSyllable + 19 * 21 * 28 ∧ (a - firstSyllable) % 28 = 0 ∧
      firstClosing < b ∧ b < firstClosing + 28 then
    some (a + (b - firstClosing))
  else none

/-! ### The steps -/

/-- What a character is composed of, in at most `steps` steps. -/
def decomposedWithin : Nat → Nat → List Nat
  | 0, n => [n]
  | steps + 1, n =>
    match compositions.find? fun c => c.1 = n with
    | some (_, a, b) => decomposedWithin steps a ++ [b]
    | none => [n]

/-- What a character is composed of. No letter takes up more than three marks. -/
def decomposed (n : Nat) : List Nat := (syllableLetters? n).getD (decomposedWithin 3 n)

/-- A text with its characters taken apart. -/
def decompose (ns : List Nat) : List Nat := ns.flatMap decomposed

/-- A text with the marks behind each letter in the order of their ranks; `marks` stand in front of
it. -/
def orderedAfter (marks : List Nat) : List Nat → List Nat
  | [] => sorted marks
  | n :: r =>
    if rank n = 0 then sorted marks ++ n :: orderedAfter [] r else orderedAfter (marks ++ [n]) r
where
  /-- Marks in the order of their ranks; those of one rank stay as they are. -/
  sorted (marks : List Nat) : List Nat := marks.mergeSort fun a b => rank a ≤ rank b

/-- A text with the marks behind each letter in the order of their ranks. -/
def ordered (ns : List Nat) : List Nat := orderedAfter [] ns

/-- The character that two others compose to. -/
def composition? (a b : Nat) : Option Nat :=
  match syllable? a b with
  | some n => some n
  | none => (compositions.find? fun c => c.2.1 = a && c.2.2 = b).map (·.1)

/-- A text composed, given the letter in front of it and the marks that the letter did not take up.
A mark of the same or a higher rank keeps the letter from a later one. -/
def composeAfter (letter : Option Nat) (marks : List Nat) : List Nat → List Nat
  | [] => letter.toList ++ marks
  | n :: r =>
    match letter with
    | none => if rank n = 0 then composeAfter (some n) [] r else n :: composeAfter none [] r
    | some l =>
      let isBlocked := match marks.getLast? with
        | none => false
        | some m => rank n ≤ rank m
      match if isBlocked then none else composition? l n with
      | some l' => composeAfter (some l') marks r
      | none =>
        if rank n = 0 then l :: (marks ++ composeAfter (some n) [] r)
        else composeAfter (some l) (marks ++ [n]) r

/-- A text composed. -/
def compose (ns : List Nat) : List Nat := composeAfter none [] ns

/-- Whether a text is in composed form. -/
def isComposed (ns : List Nat) : Bool :=
  !ns.any (inRanges uncomposedRanges) && compose (ordered (decompose ns)) == ns

end QuoteService.Text
