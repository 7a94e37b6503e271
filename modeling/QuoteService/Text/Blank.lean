/-!
# Blanks

* `isBlank`: the white space that trimming removes.
* `trim`, `removeBlanks`: a text without the blanks around it, without any blank at all.
* `isBlankText`: nothing but blanks.
* `isBlankText_iff_trim`: a text is blank exactly when trimming leaves nothing.
-/

namespace QuoteService.Text

/-- White space, the four information separators U+001C to U+001F included. -/
def isBlank (c : Char) : Bool :=
  let n := c.toNat
  (0x09 ≤ n && n ≤ 0x0D) || (0x1C ≤ n && n ≤ 0x20) || n == 0x85 || n == 0xA0 || n == 0x1680 ||
    (0x2000 ≤ n && n ≤ 0x200A) || n == 0x2028 || n == 0x2029 || n == 0x202F || n == 0x205F ||
    n == 0x3000

/-- White space by the Unicode property alone, without the information separators. -/
def isWhiteSpace (c : Char) : Bool :=
  isBlank c && !(0x1C ≤ c.toNat && c.toNat ≤ 0x1F)

/-- What is left of `cs` when characters of class `p` are taken off both ends. -/
def trimBy (p : Char → Bool) (cs : List Char) : List Char :=
  ((cs.dropWhile p).reverse.dropWhile p).reverse

/-- A text without the blanks around it. -/
def trim (cs : List Char) : List Char := trimBy isBlank cs

/-- A text without its blanks. -/
def removeBlanks (cs : List Char) : List Char := cs.filter fun c => !isBlank c

/-- Nothing but blanks. -/
def isBlankText (cs : List Char) : Bool := cs.all isBlank

theorem dropWhile_eq_nil_of_all {p : Char → Bool} {cs : List Char} (h : cs.all p = true) :
    cs.dropWhile p = [] := by
  induction cs with
  | nil => rfl
  | cons c cs ih =>
    simp only [List.all_cons, Bool.and_eq_true] at h
    simp [h.1, ih h.2]

theorem all_of_dropWhile_eq_nil {p : Char → Bool} {cs : List Char} (h : cs.dropWhile p = []) :
    cs.all p = true := by
  induction cs with
  | nil => rfl
  | cons c cs ih =>
    by_cases hc : p c = true
    · simp only [List.dropWhile_cons, hc, if_true] at h
      simp [hc, ih h]
    · simp [hc] at h

/-- **A text is blank exactly when trimming leaves nothing.** -/
theorem isBlankText_iff_trim (cs : List Char) : isBlankText cs = true ↔ trim cs = [] := by
  constructor
  · intro h
    simp [trim, trimBy, dropWhile_eq_nil_of_all h]
  · intro h
    have hrev := all_of_dropWhile_eq_nil (List.reverse_eq_nil_iff.1 h)
    rw [List.all_reverse] at hrev
    by_cases hnil : cs.dropWhile isBlank = []
    · exact all_of_dropWhile_eq_nil hnil
    · have hhead := List.head_dropWhile_not isBlank hnil
      rw [List.all_eq_true] at hrev
      rw [hrev _ (List.head_mem hnil)] at hhead
      cases hhead

end QuoteService.Text
