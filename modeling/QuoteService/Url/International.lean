import QuoteService.Text.Composed
import QuoteService.Text.Decimal
import QuoteService.Url.NameTables
import QuoteService.Url.Punycode

/-!
# Internationalised host names

A name with characters beyond ASCII is looked up under another one, in which each label with such
characters stands as `xn--` and its form in ASCII. Not every label may be looked up.

* `checkLabel`: the rules that a label keeps.
* `lookupName`: the name to look up.
* `shownName`: the name that a name with such forms stands for.
-/

namespace QuoteService.Url

open QuoteService.Text

/-- Why a name may not be looked up. -/
inductive NameFault where
  /-- A label is empty or too long, is not in composed form, has a hyphen, a mark or a joiner in the
  wrong place, or stands for no label at all. -/
  | malformed
  /-- A character may stand in no label. -/
  | character
  /-- A sign other than a joiner does not suit the characters around it. -/
  | context
  /-- Characters from left to right and from right to left are mixed. -/
  | direction
  deriving DecidableEq

/-! ### Characters that depend on their neighbours -/

/-- Arabic digits of the two forms, which do not mix. -/
def isArabicDigit (n : Nat) : Bool := 0x660 ≤ n && n ≤ 0x669

/-- Arabic digits in the form of Persian and Urdu. -/
def isPersianDigit (n : Nat) : Bool := 0x6F0 ≤ n && n ≤ 0x6F9

/-- Whether the letter in front, the nearest first, joins the next one. -/
def joinsNext (before : List Nat) : Bool :=
  (before.dropWhile (inRanges transparentRanges)).head?.any (inRanges joinsNextRanges)

/-- Whether the letter behind joins the last one. -/
def joinsLast (after : List Nat) : Bool :=
  (after.dropWhile (inRanges transparentRanges)).head?.any (inRanges joinsLastRanges)

/-- Whether a sign may keep two letters apart, or together, after `before`, the nearest first: behind
the mark that binds letters, or, to keep them apart, between letters that would join across it. -/
def joinerFits (isApart : Bool) (before after : List Nat) : Bool :=
  before.head?.any (inRanges viramaRanges) || (isApart && joinsNext before && joinsLast after)

/-- Signs that may stand in a label only next to some others. -/
def isSign (n : Nat) : Bool :=
  [0xB7, 0x375, 0x5F3, 0x5F4, 0x30FB].contains n || isArabicDigit n || isPersianDigit n

/-- Whether such a sign suits the characters in front, the nearest first, and behind. -/
def signFits (before : List Nat) (n : Nat) (after : List Nat) : Bool :=
  match n with
  | 0xB7 => before.head? == some 0x6C && after.head? == some 0x6C
  | 0x375 => after.head?.any (inRanges greekRanges)
  | 0x5F3 | 0x5F4 => before.head?.any (inRanges hebrewRanges)
  | 0x30FB => (before ++ after).any (inRanges japaneseRanges)
  | _ =>
    if isArabicDigit n then !(before ++ after).any isPersianDigit
    else !(before ++ after).any isArabicDigit

/-- Whether a label may hold a character after those in front, the nearest first. -/
def checkCharacter (before : List Nat) (n : Nat) (after : List Nat) : Except NameFault Unit :=
  if inRanges nameRanges n then .ok ()
  else if n = 0x200C || n = 0x200D then
    if joinerFits (n = 0x200C) before after then .ok () else .error .malformed
  else if isSign n then if signFits before n after then .ok () else .error .context
  else .error .character

/-- Checks all characters of a label, given those in front of the rest, the nearest first. -/
def checkCharacters (before : List Nat) : List Nat → Except NameFault Unit
  | [] => .ok ()
  | n :: r => do
    checkCharacter before n r
    checkCharacters (n :: before) r

/-! ### Direction -/

/-- The direction of a character that a label may hold. -/
inductive Direction where
  | leftToRight
  | rightToLeft
  | arabicNumber
  | europeanNumber
  | mark
  | neutral
  | unknown
  deriving DecidableEq

/-- The direction of a character. -/
def direction (n : Nat) : Direction :=
  if isArabicDigit n || (0x10D30 ≤ n && n ≤ 0x10D39) then .arabicNumber
  else if isPersianDigit n || (0x30 ≤ n && n ≤ 0x39) then .europeanNumber
  else if inRanges neutralRanges n then .neutral
  else if inRanges spacelessRanges n then .mark
  else if inRanges rightToLeftRanges n then .rightToLeft
  else if inRanges unassignedRanges n then .unknown
  else .leftToRight

/-- Whether a label with characters from right to left shows in one order only: it starts with one,
holds none from left to right, ends with one or a number, and has numbers of one kind. -/
def isOrdered (label : List Nat) : Bool :=
  let ds := label.map direction
  !ds.contains .unknown &&
    if ds.contains .rightToLeft || ds.contains .arabicNumber then
      ds.head? == some .rightToLeft && !ds.contains .leftToRight &&
        (ds.reverse.dropWhile (· == .mark)).head? != some .neutral &&
        !(ds.contains .arabicNumber && ds.contains .europeanNumber)
    else true

/-! ### Labels -/

/-- The most characters of a name, a full stop at its end included. -/
def maxName : Nat := 254

/-- The most characters of a label as it is looked up. -/
def maxLabel : Nat := 63

/-- Whether a hyphen stands at neither end and not third and fourth. -/
def hyphensFit (label : List Nat) : Bool :=
  label.head? != some 0x2D && label.getLast? != some 0x2D && (label.drop 2).take 2 != [0x2D, 0x2D]

/-- Checks a label by the numbers of its characters. -/
def checkLabel (label : List Nat) : Except NameFault Unit := do
  if label.isEmpty || maxName < label.length || !isComposed label || !hyphensFit label ||
      label.head?.any (inRanges markRanges) then .error .malformed
  checkCharacters [] label
  if isOrdered label then .ok () else .error .direction

/-- What stands in front of the form of a label in ASCII. -/
def formMark : List Char := "xn--".toList

/-- The label that an ASCII label stands for, as the numbers of its characters. -/
def shownLabel (label : List Char) : Except NameFault (List Nat) :=
  if formMark.isPrefixOf label then
    let form := label.drop formMark.length
    if form.isEmpty || form.getLast? == some '-' then .error .malformed
    else
      match ofPunycode? form with
      | none => .error .malformed
      | some shown => (checkLabel shown).map fun _ => shown
  else
    let shown := label.map Char.toNat
    (checkLabel shown).map fun _ => shown

/-- A label as it is looked up. -/
def lookupLabel (label : List Char) : Except NameFault (List Char) := do
  let found ←
    if label.all fun c => c.toNat < 0x80 then (shownLabel label).map fun _ => label
    else (checkLabel (label.map Char.toNat)).map fun _ => formMark ++ punycode label
  if found.length ≤ maxLabel then .ok found else .error .malformed

/-! ### Names -/

/-- The labels of a name; any of four full stops ends one. -/
def labels : List Char → List (List Char)
  | [] => [[]]
  | c :: r =>
    match labels r with
    | [] => [[]]
    | l :: ls =>
      if c = '.' ∨ c = '\u3002' ∨ c = '\uff0e' ∨ c = '\uff61' then [] :: l :: ls
      else (c :: l) :: ls

/-- The labels of a name and an empty one for a full stop at its end, each but that one mapped. -/
def mapLabels (f : List Char → Except NameFault (List Char)) (name : List Char) :
    Except NameFault (List Char) :=
  if maxName < name.length then .error .malformed
  else do
    let ls := labels name
    let isClosed := ls.getLast? == some [] && ls.length != 1
    let ls ← (if isClosed then ls.dropLast else ls).mapM f
    pure (List.intercalate ['.'] (if isClosed then ls ++ [[]] else ls))

/-- The name to look up, of at most 253 characters besides a full stop at its end. -/
def lookupName (name : List Char) : Except NameFault (List Char) := do
  let found ← mapLabels lookupLabel name
  if found.length < maxName + (if found.getLast? = some '.' then 1 else 0) then .ok found
  else .error .malformed

/-- The name that a name in ASCII stands for. -/
def shownName (name : List Char) : Except NameFault (List Char) :=
  mapLabels (fun l => (shownLabel l).map fun shown => shown.map Char.ofNat) name

end QuoteService.Url
