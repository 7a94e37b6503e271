import QuoteService.Text.CaseTables
import QuoteService.Text.CodePoint

/-!
# Letter case

Full case mapping: most letters have one partner, some have several, and `Σ` becomes `ς` at the end
of a word and `σ` elsewhere.

* `lower`, `upper`, `upperText`: the mapped text.
* `lowerFrom`: lower case of what follows a given context, which is what `lower` recurses through.
-/

namespace QuoteService.Text

namespace Case

/-- A letter at which the search for case around a sigma stops with success. -/
def isCased (c : Char) : Bool := inRanges casedRanges c.toNat

/-- A character that the search for case around a sigma passes over. -/
def isIgnorable (c : Char) : Bool := inRanges ignorableRanges c.toNat

/-- Whether the first character that is not skipped is a letter with case. -/
def startsCased (cs : List Char) : Bool :=
  match cs.dropWhile isIgnorable with
  | [] => false
  | c :: _ => isCased c

/-- Whether a letter with case is the last character not skipped, once `c` is added. -/
def endsCased (before : Bool) (c : Char) : Bool :=
  if isIgnorable c then before else isCased c

/-- Lower case of one letter outside the sigma rule. -/
def lowerChar (c : Char) : List Char :=
  if c.toNat == 0x130 then ['i', '\u0307'] else [(Run.find? lowerRuns c.toNat).getD c]

/-- Upper case of one letter. -/
def upperChar (c : Char) : List Char :=
  match upperSpecials.find? (·.1 == c.toNat) with
  | some (_, cs) => cs
  | none => [(Run.find? upperRuns c.toNat).getD c]

/-- Lower case of a text that stands after a letter with case if `before` holds. -/
def lowerFrom (before : Bool) : List Char → List Char
  | [] => []
  | c :: r =>
    (if c.toNat == 0x3A3 then [if before && !startsCased r then 'ς' else 'σ'] else lowerChar c) ++
      lowerFrom (endsCased before c) r

end Case

/-- Lower case, the final sigma included. -/
def lower (cs : List Char) : List Char := Case.lowerFrom false cs

/-- Upper case. -/
def upper (cs : List Char) : List Char := cs.flatMap Case.upperChar

/-- Upper case of a text; a half of a pair that stands alone has none. -/
def upperText (t : QuoteService.Text) : QuoteService.Text :=
  t.flatMap fun
    | .scalar c => ofChars (Case.upperChar c)
    | p => [p]

end QuoteService.Text
