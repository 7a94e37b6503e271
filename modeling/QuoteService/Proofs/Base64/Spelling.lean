import Mathlib.Data.List.Basic
import QuoteService.Base64.Url

/-!
# The spellings of a segment

* `Alphabet.Lawful`: every value below 64 is read back from its digit.
* `span_encode`: the digits of encoded bytes are found again in front of their padding.
* `decodeUrl_eq_some_iff`: bytes have two spellings as a segment, without padding and with all
  of it.
-/

namespace QuoteService.Base64

/-- Every value of six bits is read back from its digit, and padding is no digit. -/
structure Alphabet.Lawful (a : Alphabet) : Prop where
  value?_digit : ∀ n < 64, a.value? (a.digit n) = some n
  isDigit_pad : a.isDigit '=' = false

theorem Alphabet.url_lawful : Alphabet.url.Lawful := ⟨by decide, by decide⟩

theorem sextets_lt (bs : List UInt8) : ∀ n ∈ sextets bs, n < 64 := by
  fun_induction sextets bs with
  | case1 => simp
  | case2 a =>
    have ha := a.toNat_lt
    simp only [List.mem_cons, List.not_mem_nil, or_false]
    rintro n (rfl | rfl) <;> omega
  | case3 a b =>
    have ha := a.toNat_lt
    have hb := b.toNat_lt
    simp only [List.mem_cons, List.not_mem_nil, or_false]
    rintro n (rfl | rfl | rfl) <;> omega
  | case4 a b c r ih =>
    have ha := a.toNat_lt
    have hb := b.toNat_lt
    have hc := c.toNat_lt
    simp only [List.mem_cons]
    rintro n (rfl | rfl | rfl | rfl | hn)
    · omega
    · omega
    · omega
    · omega
    · exact ih n hn

theorem length_sextets (bs : List UInt8) : (sextets bs).length = (4 * bs.length + 2) / 3 := by
  fun_induction sextets bs with
  | case1 => rfl
  | case2 => simp
  | case3 => simp
  | case4 a b c r ih => simp only [List.length_cons, ih]; omega

variable {a : Alphabet}

theorem isDigit_of_mem_encode (ha : a.Lawful) (bs : List UInt8) :
    ∀ c ∈ a.encode bs, a.isDigit c = true := by
  intro c hc
  obtain ⟨n, hn, rfl⟩ := List.mem_map.1 hc
  rw [Alphabet.isDigit, ha.value?_digit n (sextets_lt bs n hn)]
  rfl

theorem filterMap_encode (ha : a.Lawful) (bs : List UInt8) :
    (a.encode bs).filterMap a.value? = sextets bs := by
  rw [Alphabet.encode, List.filterMap_map]
  have h : ∀ n ∈ sextets bs, (a.value? ∘ a.digit) n = some n :=
    fun n hn => ha.value?_digit n (sextets_lt bs n hn)
  rw [List.filterMap_congr h, List.filterMap_some]

/-- **The digits of encoded bytes end where padding starts.** -/
theorem span_encode (ha : a.Lawful) (bs : List UInt8) {pad : List Char}
    (hpad : pad.head?.all (· == '=')) :
    (a.encode bs ++ pad).takeWhile a.isDigit = a.encode bs ∧
      (a.encode bs ++ pad).dropWhile a.isDigit = pad := by
  have hd := isDigit_of_mem_encode ha bs
  have hp : pad.takeWhile a.isDigit = [] ∧ pad.dropWhile a.isDigit = pad := by
    cases pad with
    | nil => exact ⟨rfl, rfl⟩
    | cons c r =>
      obtain rfl : c = '=' := by simpa using hpad
      simp [ha.isDigit_pad]
  constructor
  · rw [List.takeWhile_append_of_pos hd, hp.1, List.append_nil]
  · rw [List.dropWhile_append_of_pos hd, hp.2]

theorem length_encodeUrl (bs : List UInt8) :
    (encodeUrl bs).length = (4 * bs.length + 2) / 3 := by
  rw [encodeUrl, Alphabet.encode, List.length_map, length_sextets]

/-- A segment is padded to whole groups of four by its own padding only. -/
theorem eq_padding_iff (bs : List UInt8) (pad : List Char) :
    (pad = ['='] ∨ pad = ['=', '=']) ∧ (encodeUrl bs ++ pad).length % 4 = 0 ↔
      pad = padding bs.length ∧ pad ≠ [] := by
  rw [List.length_append, length_encodeUrl]
  have h3 : bs.length % 3 = 0 ∨ bs.length % 3 = 1 ∨ bs.length % 3 = 2 := by omega
  unfold padding
  constructor
  · rintro ⟨rfl | rfl, h⟩
    · have : bs.length % 3 = 2 := by simp only [List.length_singleton] at h; omega
      simp [this]
    · have : bs.length % 3 = 1 := by simp only [List.length_cons, List.length_nil] at h; omega
      simp [this]
  · rintro ⟨hp, hne⟩
    rcases h3 with h | h | h
    · simp [h] at hp; exact absurd hp hne
    · simp only [h] at hp; subst hp; simp; omega
    · simp only [h] at hp; subst hp; simp; omega

/-- **Bytes have two spellings as a segment**: without padding, and with all of it. -/
theorem decodeUrl_eq_some_iff (cs : List Char) (bs : List UInt8) :
    decodeUrl cs = some bs ↔ cs = encodeUrl bs ∨ cs = Alphabet.url.encodePadded bs := by
  constructor
  · intro h
    simp only [decodeUrl] at h
    split_ifs at h with hc
    obtain ⟨hpad, hdigits⟩ := hc
    rw [Option.some.injEq] at h
    rw [h] at hdigits
    have hcs : cs = encodeUrl bs ++ cs.dropWhile Alphabet.url.isDigit := by
      rw [hdigits, List.takeWhile_append_dropWhile]
    rcases hpad with hp | ⟨hp, hlen⟩
    · exact .inl (hcs.trans (by rw [hp, List.append_nil]))
    · rw [hcs] at hlen
      have hpad := ((eq_padding_iff bs _).1 ⟨hp, hlen⟩).1
      exact .inr (hcs.trans (by rw [hpad]; rfl))
  · intro h
    obtain ⟨pad, rfl, hpad, hok⟩ : ∃ pad, cs = encodeUrl bs ++ pad ∧ pad.head?.all (· == '=') ∧
        (pad = [] ∨ ((pad = ['='] ∨ pad = ['=', '=']) ∧ (encodeUrl bs ++ pad).length % 4 = 0)) := by
      rcases h with rfl | rfl
      · exact ⟨[], by simp, rfl, .inl rfl⟩
      · refine ⟨padding bs.length, rfl, ?_, ?_⟩
        · unfold padding; split <;> rfl
        · by_cases hp : padding bs.length = []
          · exact .inl hp
          · exact .inr ((eq_padding_iff bs _).2 ⟨rfl, hp⟩)
    obtain ⟨ht, hd⟩ := span_encode Alphabet.url_lawful bs hpad
    unfold decodeUrl
    rw [encodeUrl] at hok ⊢
    simp only [ht, hd, filterMap_encode Alphabet.url_lawful, bytes_sextets]
    exact if_pos ⟨hok, rfl⟩

theorem decodeUrl_encodeUrl (bs : List UInt8) : decodeUrl (encodeUrl bs) = some bs :=
  (decodeUrl_eq_some_iff _ _).2 (.inl rfl)

/-- No segment holds the point that separates segments. -/
theorem point_notMem_of_decodeUrl {cs : List Char} {bs : List UInt8} (h : decodeUrl cs = some bs) :
    '.' ∉ cs := by
  have hdigit : '.' ∉ encodeUrl bs := fun hm =>
    absurd (isDigit_of_mem_encode Alphabet.url_lawful bs _ hm) (by decide)
  rcases (decodeUrl_eq_some_iff _ _).1 h with rfl | rfl
  · exact hdigit
  · rw [Alphabet.encodePadded, List.mem_append, not_or]
    refine ⟨hdigit, ?_⟩
    unfold padding; split <;> decide

/-- A segment is ASCII. -/
theorem toNat_lt_of_mem_encodeUrl {bs : List UInt8} {ch : Char}
    (h : ch ∈ encodeUrl bs) : ch.toNat < 0x80 := by
  have hdigit := isDigit_of_mem_encode Alphabet.url_lawful bs ch h
  unfold Alphabet.isDigit Alphabet.value? at hdigit
  simp only at hdigit
  split_ifs at hdigit with hupper hlower hdecimal hminus hunder
  · omega
  · omega
  · omega
  · rw [hminus]; decide
  · rw [hunder]; decide
  · cases hdigit

end QuoteService.Base64
