import QuoteService.Base64.Strict
import QuoteService.Proofs.Base64.Spelling
import QuoteService.Text.Blank

/-!
# What strict Base64 reads back

* `Alphabet.standard_lawful`: the digits of the standard alphabet are told apart.
* `IsSign`, `isSign_of_mem_encodePadded`: the characters of encoded bytes, none of them white space or
  a hyphen.
* `decode_encodePadded`: **encoded bytes are read back**, with the padding that fills their last
  group.
-/

namespace QuoteService.Base64

theorem Alphabet.standard_lawful : Alphabet.standard.Lawful := ⟨by decide, by decide⟩

/-- A character is `+`, one from `/` to `9`, `=`, or one from `A` to `z`. -/
def IsSign (c : Char) : Prop :=
  c.toNat = 0x2B ∨ (0x2F ≤ c.toNat ∧ c.toNat ≤ 0x39) ∨ c.toNat = 0x3D ∨
    (0x41 ≤ c.toNat ∧ c.toNat ≤ 0x7A)

theorem isSign_of_isDigit {c : Char} (h : Alphabet.standard.isDigit c = true) : IsSign c := by
  unfold Alphabet.isDigit Alphabet.value? at h
  unfold IsSign
  simp only at h
  split_ifs at h with hupper hlower hfigure hplus hslash
  · omega
  · omega
  · omega
  · subst hplus
    decide
  · subst hslash
    decide
  · cases h

theorem IsSign.isBlank_eq_false {c : Char} (h : IsSign c) : Text.isBlank c = false := by
  unfold IsSign at h
  rw [Bool.eq_false_iff]
  intro hblank
  simp only [Text.isBlank, Bool.or_eq_true, Bool.and_eq_true, decide_eq_true_eq, beq_iff_eq]
    at hblank
  omega

theorem mem_padding {n : ℕ} {c : Char} (h : c ∈ padding n) : c = '=' := by
  unfold padding at h
  split at h
  · simpa using h
  · simpa using h
  · cases h

/-- **Encoded bytes have no other characters.** -/
theorem isSign_of_mem_encodePadded {bs : List UInt8} {c : Char}
    (h : c ∈ Alphabet.standard.encodePadded bs) : IsSign c := by
  rcases List.mem_append.1 h with hdigit | hpad
  · exact isSign_of_isDigit (isDigit_of_mem_encode Alphabet.standard_lawful bs c hdigit)
  · rw [mem_padding hpad]
    exact .inr (.inr (.inl rfl))

/-- The padding after encoded bytes is the one that their last group asks for. -/
theorem tailFault_padding (bs : List UInt8) :
    tailFault (sextets bs).length (padding bs.length) = none := by
  have hlength := length_sextets bs
  have hthree : bs.length % 3 = 0 ∨ bs.length % 3 = 1 ∨ bs.length % 3 = 2 := by omega
  rcases hthree with h | h | h
  · -- a whole number of groups takes no padding
    have hgroup : (sextets bs).length % 4 = 0 := by omega
    simp [tailFault, padding, h, hgroup, padsNeeded, tailFault.restFault]
  · have hgroup : (sextets bs).length % 4 = 2 := by omega
    simp [tailFault, padding, h, hgroup, padsNeeded]
  · have hgroup : (sextets bs).length % 4 = 3 := by omega
    simp [tailFault, padding, h, hgroup, padsNeeded]

theorem head?_padding (n : ℕ) : (padding n).head?.all (· == '=') = true := by
  unfold padding
  split <;> rfl

/-- Encoded bytes do not begin with padding. -/
theorem head?_encodePadded (bs : List UInt8) :
    (Alphabet.standard.encodePadded bs).head? ≠ some '=' := by
  intro h
  cases bs with
  | nil => cases h
  | cons b bs =>
    -- the first character is the digit of the first six bits
    obtain ⟨n, ns, hsextets⟩ : ∃ n ns, sextets (b :: bs) = n :: ns := by
      rcases bs with _ | ⟨b', _ | ⟨b'', bs⟩⟩ <;> exact ⟨_, _, rfl⟩
    have hn : n < 64 := sextets_lt (b :: bs) n (by rw [hsextets]; exact List.mem_cons_self)
    rw [Alphabet.encodePadded, Alphabet.encode, hsextets, List.map_cons, List.cons_append,
      List.head?_cons, Option.some.injEq] at h
    have hvalue := Alphabet.standard_lawful.value?_digit n hn
    have hpad : Alphabet.standard.value? '=' = none := by decide
    rw [h, hpad] at hvalue
    cases hvalue

/-- **Encoded bytes are read back.** -/
theorem decode_encodePadded (bs : List UInt8) :
    decode (Alphabet.standard.encodePadded bs) = .ok bs := by
  have hascii : (Alphabet.standard.encodePadded bs).any (fun c => 0x80 ≤ c.toNat) = false := by
    rw [List.any_eq_false]
    intro c hc
    have hsign := isSign_of_mem_encodePadded hc
    unfold IsSign at hsign
    rw [decide_eq_true_eq]
    omega
  obtain ⟨htake, hdrop⟩ := span_encode Alphabet.standard_lawful bs (head?_padding bs.length)
  have hvalues : leadingValues .standard (Alphabet.standard.encodePadded bs) = sextets bs := by
    rw [leadingValues, Alphabet.encodePadded, htake, filterMap_encode Alphabet.standard_lawful]
  have htail : (Alphabet.standard.encodePadded bs).dropWhile Alphabet.standard.isDigit =
      padding bs.length := by
    rw [Alphabet.encodePadded, hdrop]
  unfold decode
  rw [hascii, if_neg Bool.false_ne_true, if_neg (head?_encodePadded bs)]
  simp only [hvalues, htail, tailFault_padding, bytes_sextets]

end QuoteService.Base64
