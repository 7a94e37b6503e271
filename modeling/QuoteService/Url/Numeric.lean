import QuoteService.Text.Decimal
import QuoteService.Url.Percent

/-!
# Numeric addresses

* `looksDotted`: whether a host has to be a dotted address because it looks like one.
* `isDotted`: four numbers of at most three digits each, below 256 and without leading zeros.
* `isGrouped`: eight groups of at most four hexadecimal digits, of which a run may be left out once;
  the last two may be a dotted address.
-/

namespace QuoteService.Url

/-- The parts of a text between the characters `sep`. -/
def splitAt (sep : Char) : List Char → List (List Char)
  | [] => [[]]
  | c :: r =>
    match splitAt sep r with
    | [] => [[]]
    | part :: parts => if c = sep then [] :: part :: parts else (c :: part) :: parts

/-! ### Four numbers -/

/-- Four runs of digits with points between them. -/
def looksDotted (cs : List Char) : Bool :=
  let parts := splitAt '.' cs
  parts.length == 4 && parts.all fun part => !part.isEmpty && part.all Text.isDigit

/-- A number below 256 without leading zeros. -/
def isOctet (cs : List Char) : Bool :=
  !cs.isEmpty && cs.all Text.isDigit && cs.length ≤ 3 && (cs == ['0'] || cs.head? != some '0') &&
    Text.ofDigits (cs.filterMap Text.digitValue?) < 256

/-- Four numbers with points between them. -/
def isDotted (cs : List Char) : Bool :=
  let parts := splitAt '.' cs
  parts.length == 4 && parts.all isOctet

/-! ### Eight groups -/

/-- A group of one to four hexadecimal digits. -/
def isGroup (cs : List Char) : Bool :=
  !cs.isEmpty && cs.length ≤ 4 && cs.all fun c => (hexDigit? c).isSome

/-- The groups of a text, two groups of zeros in the place of a dotted address at the end. -/
def groups? (parts : List (List Char)) : Option (List (List Char)) :=
  match parts.getLast? with
  | none => none
  | some last =>
    if last.contains '.' then
      if isDotted last then some (parts.dropLast ++ [['0'], ['0']]) else none
    else some parts

/-- Groups on one side of the place where some are left out; an empty one at the outer end counts
only if it is alone. -/
def sideGroups? (outerEmpty : Bool) (side : List (List Char)) : Option Nat :=
  if outerEmpty then if side.length = 1 then some 0 else none
  else if side.all isGroup then some side.length else none

/-- Whether parts with an empty one inside leave out one group or more. -/
def leavesOut (before after : List (List Char)) : Bool :=
  match sideGroups? (before.head? == some []) before,
      sideGroups? (after.getLast? == some []) after with
  | some n, some m => n + m < 8
  | _, _ => false

/-- The parts before and after the first empty part that is not the first of all. -/
def splitAtGap : List (List Char) → List (List Char) → Option (List (List Char) × List (List Char))
  | _, [] => none
  | before, part :: rest =>
    if part.isEmpty ∧ before ≠ [] ∧ rest ≠ [] then some (before, rest)
    else splitAtGap (before ++ [part]) rest

/-- Whether the parts between colons form an address. -/
def areGroups (parts : List (List Char)) : Bool :=
  match splitAtGap [] parts with
  | some (before, after) => !after.dropLast.contains [] && leavesOut before after
  | none => parts.length == 8 && parts.all isGroup

/-- Eight groups with colons between them, and the name of a zone after a percent sign if any. -/
def isGrouped (cs : List Char) : Bool :=
  let address := cs.takeWhile (· != '%')
  let zoneFits := match cs.dropWhile (· != '%') with
    | [] => true
    | _ :: zone => !zone.isEmpty && !zone.contains '%'
  let parts := splitAt ':' address
  zoneFits && 3 ≤ parts.length &&
    match groups? parts with
    | none => false
    | some parts => parts.length ≤ 9 && areGroups parts

end QuoteService.Url
