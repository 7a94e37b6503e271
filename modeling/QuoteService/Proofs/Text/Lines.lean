import Mathlib.Data.List.Basic
import QuoteService.Proofs.Text.Numerals
import QuoteService.Text.Lines

/-!
# Blanks and lines

* `Spread`: a text is another one with blanks put in anywhere.
* `Spread.removeBlanks`: **blanks put in are removed again.**
* `joined`, `splitLines_joined`: lines with a line feed after each are split again.
* `trim_margins`: blanks around a text are trimmed off.
* `LineEnd`, `splitLines_ended`: a line is split off whatever ends it, up to empty lines after it.
-/

namespace QuoteService.Text

/-- The second text is the first one with blanks put in, in any places and any number. -/
inductive Spread : List Char → List Char → Prop
  | nil : Spread [] []
  | keep {cs ds : List Char} (c : Char) (h : Spread cs ds) : Spread (c :: cs) (c :: ds)
  | blank {cs ds : List Char} {b : Char} (hb : isBlank b = true) (h : Spread cs ds) :
      Spread cs (b :: ds)

theorem Spread.refl : ∀ cs : List Char, Spread cs cs
  | [] => .nil
  | c :: cs => .keep c (Spread.refl cs)

/-- Blanks may be put in front. -/
theorem Spread.blanks_append {blanks cs ds : List Char} (hb : isBlankText blanks = true)
    (h : Spread cs ds) : Spread cs (blanks ++ ds) := by
  induction blanks with
  | nil => exact h
  | cons b blanks ih =>
    rw [isBlankText, List.all_cons, Bool.and_eq_true] at hb
    exact .blank hb.1 (ih hb.2)

/-- A text without blanks is what is left of itself. -/
theorem removeBlanks_eq_self {cs : List Char} (h : ∀ c ∈ cs, isBlank c = false) :
    removeBlanks cs = cs := by
  apply List.filter_eq_self.2
  intro c hc
  rw [h c hc]
  rfl

/-- Putting in blanks does not matter when blanks are removed. -/
theorem Spread.removeBlanks_eq {cs ds : List Char} (h : Spread cs ds) :
    removeBlanks ds = removeBlanks cs := by
  unfold removeBlanks
  induction h with
  | nil => rfl
  | keep c _ ih => rw [List.filter_cons, List.filter_cons, ih]
  | blank hb _ ih => rw [List.filter_cons, hb, Bool.not_true, if_neg Bool.false_ne_true, ih]

/-- **Blanks put into a text that has none are removed again.** -/
theorem Spread.removeBlanks {cs ds : List Char} (h : Spread cs ds)
    (hcs : ∀ c ∈ cs, isBlank c = false) : removeBlanks ds = cs := by
  rw [h.removeBlanks_eq, removeBlanks_eq_self hcs]

/-- A text is blank just if removing blanks leaves nothing. -/
theorem isBlankText_iff_removeBlanks {cs : List Char} :
    isBlankText cs = true ↔ Text.removeBlanks cs = [] := by
  simp only [isBlankText, Text.removeBlanks, List.all_eq_true, List.filter_eq_nil_iff,
    Bool.not_eq_true', Bool.not_eq_false]

/-- Blanks that are put in leave a text as blank as it was. -/
theorem Spread.isBlankText_eq {cs ds : List Char} (h : Spread cs ds) :
    isBlankText ds = isBlankText cs := by
  rw [Bool.eq_iff_iff, isBlankText_iff_removeBlanks, isBlankText_iff_removeBlanks, h.removeBlanks_eq]

/-! ## Lines -/

/-- Lines as one text, with a line feed after each. -/
def joined (lines : List (List Char)) : List Char := lines.flatMap (· ++ ['\n'])

/-- A character that ends no line belongs to the first line. -/
theorem splitLines_cons {c : Char} (h : isLineEnd c = false) (cs : List Char) :
    splitLines (c :: cs) = extendFirst c (splitLines cs) := by
  -- a carriage return would take a line feed with it
  have hreturn : c ≠ '\r' := by
    rintro rfl
    exact absurd h (by decide)
  rw [splitLines]
  · rw [h, if_neg Bool.false_ne_true]
  · intro _ heq
    exact absurd heq hreturn

/-- A text that is not empty has a line. -/
theorem splitLines_eq_nil_iff {cs : List Char} : splitLines cs = [] ↔ cs = [] := by
  refine ⟨fun h => ?_, fun h => by rw [h, splitLines]⟩
  unfold splitLines at h
  split at h
  · rfl
  · cases h
  · split at h
    · cases h
    · -- a line is there already, or the character makes one
      rename_i r _ _
      cases hr : splitLines r <;> simp [hr, extendFirst] at h

/-- A line that a line feed ends is split off. -/
theorem splitLines_line {line : List Char} (h : ∀ c ∈ line, isLineEnd c = false)
    (rest : List Char) : splitLines (line ++ '\n' :: rest) = line :: splitLines rest := by
  induction line with
  | nil =>
    rw [List.nil_append, splitLines]
    · rfl
    · intro _ heq
      exact absurd heq (by decide)
  | cons c line ih =>
    have hrest := ih fun c' hc' => h c' (List.mem_cons_of_mem c hc')
    rw [List.cons_append, splitLines_cons (h c List.mem_cons_self), hrest, extendFirst]

/-- **Lines with a line feed after each are split again.** -/
theorem splitLines_joined {lines : List (List Char)}
    (h : ∀ line ∈ lines, ∀ c ∈ line, isLineEnd c = false) (rest : List Char) :
    splitLines (joined lines ++ rest) = lines ++ splitLines rest := by
  induction lines with
  | nil => rfl
  | cons line lines ih =>
    have hfirst := splitLines_line (h line List.mem_cons_self) (joined lines ++ rest)
    have hrest := ih fun l hl => h l (List.mem_cons_of_mem line hl)
    rw [joined, List.flatMap_cons, List.append_assoc, List.append_assoc]
    rw [joined] at hfirst hrest
    rw [List.singleton_append, hfirst, hrest, List.cons_append]

/-- Every line end is a blank. -/
theorem isBlank_of_isLineEnd {c : Char} (h : isLineEnd c = true) : isBlank c = true := by
  simp only [isLineEnd, Bool.or_eq_true, Bool.and_eq_true, decide_eq_true_eq, beq_iff_eq] at h
  simp only [isBlank, Bool.or_eq_true, Bool.and_eq_true, decide_eq_true_eq, beq_iff_eq]
  omega

/-! ## Margins -/

/-- **Blanks around a text are trimmed off.** -/
theorem trim_margins {front back : List Char} (hfront : ∀ c ∈ front, isBlank c = true)
    (hback : ∀ c ∈ back, isBlank c = true) (cs : List Char) : trim (front ++ cs ++ back) = trim cs := by
  have hdrop : (front ++ cs ++ back).dropWhile isBlank = (cs ++ back).dropWhile isBlank := by
    rw [List.append_assoc, List.dropWhile_append_of_pos hfront]
  unfold trim trimBy
  rw [hdrop, List.dropWhile_append]
  by_cases hcs : cs.dropWhile isBlank = []
  · -- nothing but blanks
    rw [hcs, List.isEmpty_nil, if_pos rfl, dropWhile_eq_nil_of_all (List.all_eq_true.2 hback)]
  · have hback' : ∀ c ∈ back.reverse, isBlank c = true := fun c hc => hback c (List.mem_reverse.1 hc)
    rw [if_neg (by rw [List.isEmpty_iff]; exact hcs), List.reverse_append,
      List.dropWhile_append_of_pos hback']

/-! ## Line ends of all kinds -/

/-- What may stand at the end of a line: a carriage return and a line feed together, or one of the
characters that end a line. -/
inductive LineEnd where
  | pair
  | single (c : Char) (h : isLineEnd c = true)

/-- The characters of a line end. -/
def LineEnd.text : LineEnd → List Char
  | pair => ['\r', '\n']
  | single c _ => [c]

/-- The lines that are not empty. -/
def nonEmpty (lines : List (List Char)) : List (List Char) := lines.filter (· ≠ [])

theorem nonEmpty_cons (line : List Char) (lines : List (List Char)) :
    nonEmpty (line :: lines) = nonEmpty [line] ++ nonEmpty lines := by
  rw [nonEmpty, nonEmpty, nonEmpty, ← List.filter_append, List.singleton_append]

theorem nonEmpty_append (lines lines' : List (List Char)) :
    nonEmpty (lines ++ lines') = nonEmpty lines ++ nonEmpty lines' := List.filter_append ..

/-- What follows a line end is split as if it stood alone, except that a line feed at its start may
belong to a carriage return: then an empty line is lost. -/
theorem splitLines_lineEnd (e : LineEnd) (rest : List Char) : ∃ lines,
    splitLines (e.text ++ rest) = [] :: lines ∧ nonEmpty lines = nonEmpty (splitLines rest) := by
  cases e with
  | pair => exact ⟨splitLines rest, rfl, rfl⟩
  | single c h =>
    by_cases hpair : c = '\r' ∧ ∃ r, rest = '\n' :: r
    · obtain ⟨rfl, r, rfl⟩ := hpair
      have hnone : ∀ c ∈ ([] : List Char), isLineEnd c = false := List.forall_mem_nil _
      have hfeed : splitLines ('\n' :: r) = [] :: splitLines r := splitLines_line hnone r
      refine ⟨splitLines r, rfl, ?_⟩
      rw [hfeed, nonEmpty_cons]
      rfl
    · refine ⟨splitLines rest, ?_, rfl⟩
      rw [LineEnd.text, List.singleton_append, splitLines]
      · rw [if_pos h]
      · intro r hc hr
        exact hpair ⟨hc, r, hr⟩

/-- **A line is split off whatever ends it**, up to empty lines after it. -/
theorem splitLines_ended {line : List Char} (h : ∀ c ∈ line, isLineEnd c = false) (e : LineEnd)
    (rest : List Char) : ∃ lines, splitLines (line ++ (e.text ++ rest)) = line :: lines ∧
      nonEmpty lines = nonEmpty (splitLines rest) := by
  induction line with
  | nil => exact splitLines_lineEnd e rest
  | cons c line ih =>
    obtain ⟨lines, hlines, hrest⟩ := ih fun c' hc' => h c' (List.mem_cons_of_mem c hc')
    refine ⟨lines, ?_, hrest⟩
    rw [List.cons_append, splitLines_cons (h c List.mem_cons_self), hlines, extendFirst]

/-- A last line that nothing ends is one line, unless it is empty. -/
theorem nonEmpty_splitLines_unended {line : List Char} (h : ∀ c ∈ line, isLineEnd c = false) :
    nonEmpty (splitLines line) = nonEmpty [line] := by
  suffices hsplit : line = [] ∨ splitLines line = [line] by
    rcases hsplit with rfl | hsplit
    · rfl
    · rw [hsplit]
  induction line with
  | nil => exact .inl rfl
  | cons c line ih =>
    right
    rw [splitLines_cons (h c List.mem_cons_self)]
    rcases ih fun c' hc' => h c' (List.mem_cons_of_mem c hc') with rfl | hrest
    · rfl
    · rw [hrest, extendFirst]

end QuoteService.Text
