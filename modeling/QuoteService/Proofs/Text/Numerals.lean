import Mathlib.Data.Int.Notation
import Mathlib.Data.List.Basic
import Mathlib.Data.List.TakeWhile
import QuoteService.Text.RealNumber

/-!
# Numerals

* `digitValue?_of_mem_digits`, `head?_digits`: decimal text holds ASCII digits only and has no
  leading zero.
* `grouped?_eq_some`: what underscores between digits leave of a text.
* `bareInt_eq_ok`, `plainInt_eq_ok`: the plain reader reads ASCII digits with a minus sign or without,
  and what a text comes to without its zeros and underscores.
* `lenientInt?_eq_of_plainInt?`: **two readers that both take a text take the same integer from
  it.**
* `lenientInt?_intDigits`: a written integer is read back.
-/

namespace QuoteService.Text

theorem digits_zero : digits 0 = ['0'] := by rw [digits]; rfl

theorem digitValue?_of_mem_digits (n : ℕ) : ∀ c ∈ digits n, (digitValue? c).isSome = true := by
  induction n using Nat.strongRecOn with
  | _ n ih =>
    intro c hc
    rw [digits] at hc
    split at hc
    · rename_i h
      rw [List.mem_singleton.1 hc, digitValue?_digitChar h]; rfl
    · rename_i h
      rcases List.mem_append.1 hc with hc | hc
      · exact ih (n / 10) (by omega) c hc
      · rw [List.mem_singleton.1 hc, digitValue?_digitChar (Nat.mod_lt n (by omega))]; rfl

/-- Digits are ASCII. -/
theorem toNat_lt_of_mem_digits {n : ℕ} {ch : Char} (h : ch ∈ digits n) :
    ch.toNat < 0x80 := by
  have hdigit := digitValue?_of_mem_digits n ch h
  unfold digitValue? at hdigit
  split at hdigit
  · rename_i hrange
    have hnine : '9'.toNat = 0x39 := rfl
    omega
  · cases hdigit

/-- **No leading zero**, except for zero itself. -/
theorem head?_digits {n : ℕ} (h : 0 < n) : (digits n).head? ≠ some '0' := by
  induction n using Nat.strongRecOn with
  | _ n ih =>
    rw [digits]
    split
    · rename_i h10
      have hall : ∀ d ∈ List.range 10, 0 < d → digitChar d ≠ '0' := by decide
      simpa using hall n (List.mem_range.2 h10) h
    · rename_i h10
      rw [List.head?_append, Option.or_of_isSome (by simp [digits_ne_nil])]
      exact ih (n / 10) (by omega) (by omega)

theorem ofDigits_zeros {zs : List ℕ} (hz : ∀ z ∈ zs, z = 0) (ds : List ℕ) :
    ofDigits (zs ++ ds) = ofDigits ds := by
  induction zs with
  | nil => rfl
  | cons z zs ih =>
    obtain rfl : z = 0 := hz z List.mem_cons_self
    exact ih fun y hy => hz y (List.mem_cons_of_mem _ hy)

/-- An ASCII digit has the same value among the digits of all scripts. -/
theorem anyDigitValue?_of_isDigit {c : Char} (h : isDigit c = true) :
    anyDigitValue? c = digitValue? c := by
  have hc : 0x30 ≤ c.toNat ∧ c.toNat ≤ 0x39 := by
    unfold isDigit digitValue? at h
    split at h
    · assumption
    · cases h
  have hfirst : digitRanges.find? (fun r => r.1 ≤ c.toNat && c.toNat ≤ r.2) = some (0x30, 0x39) := by
    rw [digitRanges]
    exact List.find?_cons_of_pos (by simpa using hc)
  have hvalue : digitValue? c = some (c.toNat - 0x30) := if_pos hc
  rw [anyDigitValue?, hfirst, hvalue, Option.map_some]
  have hmod : (c.toNat - 0x30) % 10 = c.toNat - 0x30 := by omega
  rw [hmod]

/-- A character that may be grouped stays when underscores go. -/
theorem kept_cons {p : Char → Bool} (hp : p '_' = false) {c : Char} (hc : p c = true)
    {cs ds : List Char} (h : ds = cs.filter (· != '_') ∧ (∀ x ∈ ds, p x = true) ∧ ds ≠ []) :
    c :: ds = (c :: cs).filter (· != '_') ∧ (∀ x ∈ c :: ds, p x = true) ∧ c :: ds ≠ [] := by
  have hne : c ≠ '_' := by rintro rfl; rw [hp] at hc; cases hc
  obtain ⟨h1, h2, -⟩ := h
  refine ⟨by simp [hne, h1], ?_, List.cons_ne_nil _ _⟩
  rintro x (- | ⟨-, hx⟩)
  · exact hc
  · exact h2 x hx

theorem grouped?_eq_some {p : Char → Bool} (hp : p '_' = false) {cs ds : List Char}
    (h : grouped? p cs = some ds) :
    ds = cs.filter (· != '_') ∧ (∀ c ∈ ds, p c = true) ∧ ds ≠ [] := by
  fun_induction grouped? p cs generalizing ds with
  | case1 => cases h
  | case2 c hc =>
    cases h
    have hne : c ≠ '_' := by rintro rfl; rw [hp] at hc; cases hc
    simp [hne, hc]
  | case3 => cases h
  | case4 c r hc ih =>
    obtain ⟨es, hes, rfl⟩ := Option.map_eq_some_iff.1 h
    exact kept_cons hp hc (ih hes)
  | case5 => cases h
  | case6 c r _ _ hc ih =>
    obtain ⟨es, hes, rfl⟩ := Option.map_eq_some_iff.1 h
    -- the underscore between two digits is all that goes
    exact kept_cons hp hc (ih hes)
  | case7 => cases h

/-- What the zeros and underscores at the start of a text are cut down to is the end of it. -/
theorem afterZeros_eq_some {last : Char} {cs w : List Char} (hl : last = '0' ∨ last = '_')
    (h : afterZeros last cs = some w) :
    ∃ zs, last :: cs = zs ++ w ∧ ∀ z ∈ zs, z = '0' ∨ z = '_' := by
  fun_induction afterZeros last cs with
  | case1 last => cases h; exact ⟨[], by simp⟩
  | case2 last c r hc ih =>
    obtain ⟨zs, hzs, hz⟩ := ih hc h
    exact ⟨last :: zs, by rw [hzs]; rfl, by
      rintro z (- | ⟨-, hm⟩)
      · exact hl
      · exact hz z hm⟩
  | case3 last c r _ hc => cases h; exact ⟨[last], by simp, by simpa using hl⟩
  | case4 last r => cases h; exact ⟨[], by simp⟩
  | case5 => cases h

theorem withoutZeros_eq_some {cs w : List Char} (h : withoutZeros cs = some w) :
    ∃ zs, cs = zs ++ w ∧ ∀ z ∈ zs, z = '0' ∨ z = '_' := by
  cases cs with
  | nil => cases h
  | cons c r =>
    simp only [withoutZeros] at h
    split_ifs at h with h0 h1
    · exact afterZeros_eq_some (.inl h0) h
    · cases h; exact ⟨[], by simp⟩

theorem withoutFraction_eq_self {cs : List Char} (h : '.' ∉ cs) : withoutFraction cs = cs := by
  have hd : cs.dropWhile (· != '.') = [] := by
    rw [List.dropWhile_eq_nil_iff]
    intro c hc
    simpa using fun he : c = '.' => h (he ▸ hc)
  simp [withoutFraction, hd]

theorem trimBy_eq_self {p : Char → Bool} {cs : List Char} (h : ∀ c ∈ cs, p c = false) :
    trimBy p cs = cs := by
  have hdrop : ∀ l : List Char, (∀ c ∈ l, p c = false) → l.dropWhile p = l := by
    intro l hl
    cases l with
    | nil => rfl
    | cons c r => simp [hl c List.mem_cons_self]
  rw [trimBy, hdrop cs h, hdrop _ fun c hc => h c (List.mem_reverse.1 hc), List.reverse_reverse]

/-- A number with its sign, a minus or nothing. -/
def signed (negative : Bool) (ds : List Char) : List Char := if negative then '-' :: ds else ds

/-- **Bare numbers** are ASCII digits behind a minus sign or nothing. -/
theorem bareInt_eq_ok {cs : List Char} {n : ℤ} (h : bareInt cs = .ok n) :
    ∃ negative ds, cs = signed negative ds ∧ ds ≠ [] ∧ (∀ c ∈ ds, isDigit c = true) ∧
      n = applySign negative (ofDigits (ds.filterMap digitValue?)) := by
  unfold bareInt at h
  split at h
  rename_i negative body hsign
  -- one minus sign is taken off before the digits are looked at
  have hcs : cs = signed negative body := by
    split at hsign
    · cases hsign; rfl
    · cases hsign; rfl
  simp only at h
  split at h
  · cases h
  rename_i hne
  by_cases hlong : maxDigits < (if negative = true then 1 else 0) + (body.takeWhile isDigit).length
  · rw [if_pos hlong] at h; cases h
  rw [if_neg hlong] at h
  split at h
  · rename_i hrest
    -- nothing is left behind the digits
    have hbody : body.takeWhile isDigit = body := by
      have := List.takeWhile_append_dropWhile (p := isDigit) (l := body)
      rwa [List.isEmpty_iff.1 hrest, List.append_nil] at this
    rw [hbody] at h hne
    simp only [Bool.or_eq_true, List.isEmpty_iff, not_or] at hne
    refine ⟨negative, body, hcs, hne.1, ?_, (Except.ok.inj h).symm⟩
    intro c hc
    rw [← hbody] at hc
    exact List.mem_takeWhile_imp hc
  · cases h

theorem plainInt_eq_ok {cs : List Char} {n : ℤ} (h : plainInt cs = .ok n) :
    bareInt cs = .ok n ∨ ∃ bare, bared cs = some bare ∧ bareInt bare = .ok n := by
  unfold plainInt at h
  split at h
  · cases hb : bared cs with
    | none => rw [hb] at h; cases h
    | some bare =>
      rw [hb] at h
      simp only [Option.elim_some] at h
      cases hn : bareInt bare with
      | error e => rw [hn] at h; cases h
      | ok k => rw [hn] at h; cases h; exact .inr ⟨bare, rfl, hn⟩
  · exact .inl h

theorem isAnyDigit_of_isDigit {c : Char} (h : isDigit c = true) : isAnyDigit c = true := by
  rw [isAnyDigit, anyDigitValue?_of_isDigit h]; exact h

/-- The number that digits of any script spell. -/
def anyValue (ds : List Char) : ℕ := ofDigits (ds.filterMap anyDigitValue?)

theorem anyValue_of_isDigit {ds : List Char} (h : ∀ c ∈ ds, isDigit c = true) :
    ofDigits (ds.filterMap digitValue?) = anyValue ds := by
  rw [anyValue, List.filterMap_congr fun c hc => anyDigitValue?_of_isDigit (h c hc)]

theorem lenientInt?_eq_some {cs : List Char} {m : ℤ} (h : lenientInt? cs = some m) :
    ∃ ds, grouped? isAnyDigit (splitSign (trimBy isWhiteSpace cs)).2 = some ds ∧
      m = applySign (splitSign (trimBy isWhiteSpace cs)).1 (anyValue ds) := by
  unfold lenientInt? at h
  simp only at h
  split at h
  · cases h
  · rename_i ds hds
    split at h
    · cases h
    · exact ⟨ds, hds, (Option.some.inj h).symm⟩

theorem bared_eq_some {cs bare : List Char} (h : bared cs = some bare) :
    ∃ w g, withoutZeros (splitSign (trimBy isWhiteSpace cs)).2 = some w ∧
      grouped? (· != '_') (withoutFraction w) = some g ∧
      bare = signed (splitSign (trimBy isWhiteSpace cs)).1 g := by
  unfold bared at h
  simp only [Option.map_eq_some_iff, Option.bind_eq_some_iff] at h
  obtain ⟨g, ⟨f, ⟨w, hw, rfl⟩, hg⟩, rfl⟩ := h
  exact ⟨w, g, hw, hg, rfl⟩

/-- Where underscores and leading zeros go, the number stays. -/
theorem anyValue_withoutZeros {body w ds g : List Char} (hds : grouped? isAnyDigit body = some ds)
    (hw : withoutZeros body = some w) (hg : grouped? (· != '_') (withoutFraction w) = some g) :
    anyValue ds = anyValue g ∧ ∀ c ∈ g, isAnyDigit c = true := by
  obtain ⟨rfl, hany, -⟩ := grouped?_eq_some (by decide) hds
  obtain ⟨zs, rfl, hz⟩ := withoutZeros_eq_some hw
  -- what the other reader takes has no point, so no fraction is cut off
  have hpoint : '.' ∉ w := fun hm =>
    absurd (hany '.' (List.mem_filter.2 ⟨List.mem_append_right _ hm, by decide⟩)) (by decide)
  rw [withoutFraction_eq_self hpoint] at hg
  obtain ⟨rfl, -, -⟩ := grouped?_eq_some (by decide) hg
  rw [List.filter_append] at hany ⊢
  refine ⟨?_, fun c hc => hany c (List.mem_append_right _ hc)⟩
  rw [anyValue, List.filterMap_append]
  refine ofDigits_zeros ?_ _
  intro v hv
  obtain ⟨z, hzs, hzv⟩ := List.mem_filterMap.1 hv
  obtain ⟨hmem, hne⟩ := List.mem_filter.1 hzs
  rcases hz z hmem with rfl | rfl
  · exact (Option.some.inj hzv).symm
  · cases hne

/-- Two numbers of digits with a sign are the same text only if sign and digits are. -/
theorem signed_inj {s t : Bool} {ds es : List Char} (hd : ∀ c ∈ ds, isAnyDigit c = true)
    (he : ∀ c ∈ es, isAnyDigit c = true) (h : signed s ds = signed t es) : s = t ∧ ds = es := by
  have hminus : isAnyDigit '-' = false := by decide
  cases s <;> cases t <;> simp only [signed, if_true, Bool.false_eq_true, if_false] at h
  · exact ⟨rfl, h⟩
  · subst h; exact absurd (hd '-' List.mem_cons_self) (by rw [hminus]; decide)
  · subst h; exact absurd (he '-' List.mem_cons_self) (by rw [hminus]; decide)
  · exact ⟨rfl, List.tail_eq_of_cons_eq h⟩

/-- A number of ASCII digits stands without blanks and with its sign in front. -/
theorem splitSign_signed (negative : Bool) {ds : List Char} (hd : ∀ c ∈ ds, isDigit c = true) :
    splitSign (trimBy isWhiteSpace (signed negative ds)) = (negative, ds) := by
  have hwhite : ∀ c ∈ signed negative ds, isWhiteSpace c = false := by
    have hdigit : ∀ c ∈ ds, isWhiteSpace c = false := by
      intro c hc
      have hv := hd c hc
      unfold isDigit digitValue? at hv
      split at hv
      · rename_i hr
        have h1 : 0x30 ≤ c.toNat := hr.1
        have h2 : c.toNat ≤ 0x39 := hr.2
        simp only [isWhiteSpace, isBlank, Bool.and_eq_false_iff, Bool.or_eq_false_iff,
          decide_eq_false_iff_not, beq_eq_false_iff_ne]
        omega
      · cases hv
    intro c hc
    cases negative with
    | false => exact hdigit c hc
    | true =>
      rcases List.mem_cons.1 hc with rfl | hc
      · decide
      · exact hdigit c hc
  rw [trimBy_eq_self hwhite]
  cases negative with
  | true => rfl
  | false =>
    show splitSign ds = (false, ds)
    unfold splitSign
    split
    · exact absurd (hd '-' List.mem_cons_self) (by decide)
    · exact absurd (hd '+' List.mem_cons_self) (by decide)
    · rfl

/-- **Two readers that both take a text take the same integer from it.** -/
theorem lenientInt?_eq_of_plainInt? {cs : List Char} {m n : ℤ} (hp : plainInt? cs = some n)
    (hl : lenientInt? cs = some m) : m = n := by
  obtain ⟨ds, hds, rfl⟩ := lenientInt?_eq_some hl
  have hok : plainInt cs = .ok n := by
    unfold plainInt? at hp
    cases h : plainInt cs with
    | error e => rw [h] at hp; cases hp
    | ok k => rw [h] at hp; cases hp; rfl
  rcases plainInt_eq_ok hok with h | ⟨bare, hbare, h⟩
  · -- the text is bare: digits, with a minus sign or without
    obtain ⟨negative, es, rfl, -, hes, rfl⟩ := bareInt_eq_ok h
    rw [splitSign_signed negative hes] at hds ⊢
    obtain ⟨rfl, -, -⟩ := grouped?_eq_some (by decide) hds
    have hfilter : es.filter (· != '_') = es := List.filter_eq_self.2 fun c hc => by
      have : c ≠ '_' := by rintro rfl; exact absurd (hes _ hc) (by decide)
      simpa using this
    rw [hfilter, anyValue_of_isDigit hes]
  · -- the text is made bare first, which leaves its sign and its number
    obtain ⟨w, g, hw, hg, rfl⟩ := bared_eq_some hbare
    obtain ⟨hvalue, hany⟩ := anyValue_withoutZeros hds hw hg
    obtain ⟨negative, es, hsigned, -, hes, rfl⟩ := bareInt_eq_ok h
    obtain ⟨hsign, rfl⟩ := signed_inj hany (fun c hc => isAnyDigit_of_isDigit (hes c hc)) hsigned
    rw [hsign, hvalue, anyValue_of_isDigit hes]

/-! ## Written integers -/

theorem intDigits_eq_signed (n : ℤ) : intDigits n = signed (decide (n < 0)) (digits n.natAbs) := by
  cases n with
  | ofNat n => rfl
  | negSucc n =>
    rw [decide_eq_true (Int.negSucc_lt_zero n)]
    rfl

theorem grouped?_eq_self {p : Char → Bool} (hp : p '_' = false) {ds : List Char} (hne : ds ≠ [])
    (h : ∀ c ∈ ds, p c = true) : grouped? p ds = some ds := by
  fun_induction grouped? p ds with
  | case1 => exact absurd rfl hne
  | case2 c hc => rfl
  | case3 c hc => exact absurd (h c List.mem_cons_self) hc
  | case4 c r hc ih =>
    have hunderscore := h '_' (List.mem_cons_of_mem c List.mem_cons_self)
    rw [hp] at hunderscore
    cases hunderscore
  | case5 c r hc => exact absurd (h c List.mem_cons_self) hc
  | case6 c r hone _ hc ih =>
    have hr : r ≠ [] := fun hnil => hone hnil
    rw [ih hr fun x hx => h x (List.mem_cons_of_mem c hx)]
    rfl
  | case7 c r _ _ hc => exact absurd (h c List.mem_cons_self) hc

/-- **A written integer is read back**, unless it has too many digits. -/
theorem lenientInt?_intDigits (n : ℤ) : lenientInt? (intDigits n) =
    if maxDigits < (digits n.natAbs).length then none else some n := by
  have hdigits : ∀ c ∈ digits n.natAbs, isDigit c = true := digitValue?_of_mem_digits n.natAbs
  have hgrouped : grouped? (fun c => (anyDigitValue? c).isSome) (digits n.natAbs) =
      some (digits n.natAbs) :=
    grouped?_eq_self (by decide) (digits_ne_nil _) fun c hc => isAnyDigit_of_isDigit (hdigits c hc)
  have hvalue : applySign (decide (n < 0)) (ofDigits ((digits n.natAbs).filterMap anyDigitValue?)) = n := by
    show applySign (decide (n < 0)) (anyValue (digits n.natAbs)) = n
    rw [← anyValue_of_isDigit hdigits, ofDigits_digits, applySign]
    by_cases hn : n < 0
    · rw [decide_eq_true hn, if_pos rfl]
      omega
    · rw [decide_eq_false hn, if_neg Bool.false_ne_true]
      omega
  have hsplit := splitSign_signed (decide (n < 0)) hdigits
  rw [← intDigits_eq_signed] at hsplit
  rw [lenientInt?, hsplit]
  simp only [hgrouped, hvalue]

end QuoteService.Text
