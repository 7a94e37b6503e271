import QuoteService.Text.Case

/-!
# Letter case and slashes

The rule for the final sigma looks at letters on both sides, so the lower case of a concatenation is
not that of its parts. A slash cuts this off: it has no case and it is not passed over.

* `lower_append_slash`: **letter case does not see past a slash.**
* `slash_mem_lower`: no other letter becomes a slash.
* `length_lowerFrom`, `length_lower_append`: the length does not depend on what stands around a letter, so a
  text that is continued has a longer lower case.
-/

namespace QuoteService.Text

open Case

/-! ## What a slash does -/

theorem isIgnorable_slash : isIgnorable '/' = false := by decide +kernel

theorem isCased_slash : isCased '/' = false := by decide

theorem endsCased_slash (before : Bool) : endsCased before '/' = false := by
  rw [endsCased, isIgnorable_slash, if_neg Bool.false_ne_true, isCased_slash]

/-- The letters in front of a slash decide alone whether a text starts with case. -/
theorem startsCased_append_slash (cs ds : List Char) :
    startsCased (cs ++ '/' :: ds) = startsCased cs := by
  unfold startsCased
  induction cs with
  | nil =>
    rw [List.nil_append, List.dropWhile_cons_of_neg (by rw [isIgnorable_slash]; decide)]
    exact isCased_slash
  | cons c cs ih =>
    rw [List.cons_append]
    by_cases hc : isIgnorable c = true
    · rw [List.dropWhile_cons_of_pos hc, List.dropWhile_cons_of_pos hc]
      exact ih
    · rw [List.dropWhile_cons_of_neg hc, List.dropWhile_cons_of_neg hc]

theorem lowerChar_slash : lowerChar '/' = ['/'] := by decide

/-- **Letter case does not see past a slash**, whatever stands in front. -/
theorem lowerFrom_append_slash (before : Bool) (cs ds : List Char) :
    lowerFrom before (cs ++ '/' :: ds) = lowerFrom before cs ++ '/' :: lowerFrom false ds := by
  induction cs generalizing before with
  | nil =>
    have hsigma : ¬('/'.toNat == 0x3A3) = true := by decide
    simp only [List.nil_append, lowerFrom, if_neg hsigma, lowerChar_slash, endsCased_slash,
      List.singleton_append]
  | cons c cs ih =>
    rw [List.cons_append, lowerFrom, lowerFrom, startsCased_append_slash, ih, List.append_assoc]

theorem lower_append_slash (cs ds : List Char) :
    lower (cs ++ '/' :: ds) = lower cs ++ '/' :: lower ds := lowerFrom_append_slash false cs ds

/-! ## What becomes a slash -/

/-- Every partner of a letter stands behind the slash. -/
theorem lt_target_of_mem_lowerRuns : ∀ r ∈ lowerRuns, '/'.toNat < r.target := by decide +kernel

theorem ofNat_ne_slash {n : Nat} (h : '/'.toNat < n) : Char.ofNat n ≠ '/' := by
  intro hslash
  have hnat := congrArg Char.toNat hslash
  -- a number that is no character stands for the first one
  by_cases hvalid : n.isValidChar
  · rw [Char.ofNat, dif_pos hvalid] at hnat
    have hn : n = '/'.toNat := hnat
    omega
  · rw [Char.ofNat, dif_neg hvalid] at hnat
    exact absurd hnat (by decide)

theorem slash_of_mem_lowerChar {c : Char} (h : '/' ∈ lowerChar c) : c = '/' := by
  unfold lowerChar at h
  split at h
  · exact absurd h (by decide)
  · have hslash := List.mem_singleton.1 h
    cases hfind : Run.find? lowerRuns c.toNat with
    | none =>
      rw [hfind] at hslash
      exact hslash.symm
    | some d =>
      obtain ⟨r, hr, hd⟩ := Option.map_eq_some_iff.1 hfind
      have htarget := lt_target_of_mem_lowerRuns r (List.mem_of_find?_eq_some hr)
      rw [hfind, Option.getD_some, ← hd] at hslash
      exact absurd hslash.symm (ofNat_ne_slash (Nat.lt_add_right _ htarget))

theorem slash_mem_lowerFrom {before : Bool} {cs : List Char} (h : '/' ∈ lowerFrom before cs) :
    '/' ∈ cs := by
  induction cs generalizing before with
  | nil => cases h
  | cons c cs ih =>
    rw [lowerFrom, List.mem_append] at h
    rcases h with h | h
    · split at h
      · -- neither form of the sigma is a slash
        have hsigma := List.mem_singleton.1 h
        split at hsigma
        · exact absurd hsigma (by decide)
        · exact absurd hsigma (by decide)
      · rw [slash_of_mem_lowerChar h]
        exact List.mem_cons_self
    · exact List.mem_cons_of_mem c (ih h)

/-- **Only a slash becomes a slash.** -/
theorem slash_mem_lower {cs : List Char} (h : '/' ∈ lower cs) : '/' ∈ cs := slash_mem_lowerFrom h

/-! ## How long lower case is -/

theorem length_lowerChar_pos (c : Char) : 0 < (lowerChar c).length := by
  unfold lowerChar
  split <;> simp

/-- Lower case is as long as the letters become one by one: the two forms of the sigma are equally
long. -/
theorem length_lowerFrom (before : Bool) (cs : List Char) :
    (lowerFrom before cs).length = (cs.flatMap lowerChar).length := by
  induction cs generalizing before with
  | nil => rfl
  | cons c cs ih =>
    rw [lowerFrom, List.length_append, ih, List.flatMap_cons, List.length_append]
    congr 1
    split
    · rename_i hsigma
      have hother : ¬(c.toNat == 0x130) = true := by
        rw [beq_iff_eq] at hsigma ⊢
        omega
      rw [lowerChar, if_neg hother]
      rfl
    · rfl

theorem length_lower_append (cs ds : List Char) :
    (lower (cs ++ ds)).length = (lower cs).length + (lower ds).length := by
  unfold lower
  rw [length_lowerFrom, length_lowerFrom, length_lowerFrom, List.flatMap_append, List.length_append]

/-- Lower case loses no letter. -/
theorem length_le_length_lower (cs : List Char) : cs.length ≤ (lower cs).length := by
  rw [lower, length_lowerFrom]
  induction cs with
  | nil => exact Nat.le_refl 0
  | cons c cs ih =>
    have hpos := length_lowerChar_pos c
    rw [List.flatMap_cons, List.length_append, List.length_cons]
    omega

/-- **A text that is continued has another lower case.** -/
theorem lower_append_ne {cs ds : List Char} (h : ds ≠ []) : lower (cs ++ ds) ≠ lower cs := by
  intro hsame
  have hlength := congrArg List.length hsame
  have hle := length_le_length_lower ds
  have hpos := List.length_pos_iff.2 h
  rw [length_lower_append] at hlength
  omega

end QuoteService.Text
