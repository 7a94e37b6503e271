/-!
# Code points

JSON can spell one half of a surrogate pair alone, so text that comes out of JSON is a list of code
points and not of characters.

* `Text.ofChars`, `Text.toChars?`: characters as text, and back where no half stands alone.
* `Text.toChars?_ofChars`: the two agree.
-/

namespace QuoteService

/-- A Unicode scalar value, or one half of a surrogate pair standing alone. -/
inductive CodePoint where
  | scalar (c : Char)
  | surrogate (half : Fin 2048)
  deriving DecidableEq, Inhabited

/-- Text as JSON carries it. -/
abbrev Text := List CodePoint

namespace CodePoint

/-- The code point with number `n`, if `n` is below U+110000. -/
def ofNat? (n : Nat) : Option CodePoint :=
  if h : 0xD800 ≤ n ∧ n < 0xE000 then some (.surrogate ⟨n - 0xD800, by omega⟩)
  else if n < 0x110000 then some (.scalar (Char.ofNat n))
  else none

/-- The number of a code point. -/
def toNat : CodePoint → Nat
  | scalar c => c.toNat
  | surrogate half => 0xD800 + half.val

/-- The character, unless the code point is half of a pair. -/
def toChar? : CodePoint → Option Char
  | scalar c => some c
  | surrogate _ => none

end CodePoint

namespace Text

/-- Characters as text. -/
def ofChars (cs : List Char) : Text := cs.map .scalar

/-- A string as text. -/
def ofString (s : String) : Text := ofChars s.toList

/-- The characters of a text in which no half of a pair stands alone. -/
def toChars? (t : Text) : Option (List Char) := t.mapM CodePoint.toChar?

/-- The string of a text in which no half of a pair stands alone. -/
def toString? (t : Text) : Option String := t.toChars?.map String.ofList

/-- The characters of a text; a half that stands alone gives none. -/
def scalars (t : Text) : List Char := t.filterMap CodePoint.toChar?

/-- The characters of a text as they are shown; a half that stands alone is replaced. -/
def shown (t : Text) : List Char := t.map fun p => p.toChar?.getD '\ufffd'

/-- The text as it is shown. -/
def shownString (t : Text) : String := String.ofList t.shown

theorem scalars_ofChars (cs : List Char) : scalars (ofChars cs) = cs := by
  induction cs with
  | nil => rfl
  | cons c cs ih =>
    simp only [scalars, ofChars] at ih ⊢
    simp [CodePoint.toChar?, ih]

theorem toChars?_ofChars (cs : List Char) : toChars? (ofChars cs) = some cs := by
  induction cs with
  | nil => rfl
  | cons c cs ih =>
    simp only [toChars?, ofChars] at ih ⊢
    simp [CodePoint.toChar?, ih]

end Text

end QuoteService
