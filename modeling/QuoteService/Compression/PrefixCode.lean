import QuoteService.Compression.Bits

/-!
# Prefix codes

A code gives symbols words of bits, none of which starts another one. It is told by the lengths of the
words alone: shorter words come first, and words of one length follow each other as their symbols do.

* `PrefixCode.ofLengths`: the code of some lengths.
* `spare?`: the room that lengths leave for further words.
* `PrefixCode.symbol`: the symbol of the next word.
-/

namespace QuoteService.Compression

/-- The symbols with words of one bit, of two bits, and so on. -/
structure PrefixCode where
  levels : List (List Nat)
  deriving DecidableEq

/-- The symbols with words of some length. -/
def symbolsOf (lengths : List Nat) (length : Nat) : List Nat :=
  (lengths.zipIdx.filter fun l => l.1 == length).map (·.2)

/-- The length of the longest word. -/
def longest (lengths : List Nat) : Nat := lengths.foldl max 0

/-- The code in which the symbol `s` has a word of as many bits as the number at `s` tells, and no word
if that is zero. -/
def PrefixCode.ofLengths (lengths : List Nat) : PrefixCode :=
  ⟨(List.range (max 1 (longest lengths))).map fun n => symbolsOf lengths (n + 1)⟩

/-- How many further words of the greatest length there is room for, if there is room for all. -/
def PrefixCode.spare? (c : PrefixCode) : Option Nat :=
  c.levels.foldlM (fun room level =>
    if level.length ≤ 2 * room then some (2 * room - level.length) else none) 1

/-- Whether all sequences of bits start with a word. -/
def PrefixCode.isComplete (c : PrefixCode) : Bool := c.spare? == some 0

/-- Whether a code can be read: it is complete, or has no words, or only one word of one bit. -/
def PrefixCode.isReadable (c : PrefixCode) : Bool :=
  c.isComplete || c.levels == [[]] || c.levels.map List.length == [1]

/-- The symbol of the next word, among those of the levels from some length on. The words of that
length start with `offset` further ones, counted from the first of them. -/
def symbolFrom (offset : Nat) : List (List Nat) → BitReader (Option Nat)
  | [] => pure none
  | level :: levels => do
    let low ← bit
    let offset := 2 * offset + low.toNat
    match level[offset]? with
    | some s => pure (some s)
    | none => symbolFrom (offset - level.length) levels

/-- The symbol of the next word; none if the next bits are no word. -/
def PrefixCode.symbol (c : PrefixCode) : BitReader (Option Nat) := symbolFrom 0 c.levels

end QuoteService.Compression
