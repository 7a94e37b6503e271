import QuoteService.Der.Fields
import QuoteService.Proofs.Der.Numbers

/-!
# Elements are read back

* `next?_encode`: **a written element is read back**, whatever follows it.
* `elementsWithin_eq`: how many elements may be read does not matter once they are as many as bytes.
* `elements?_encode_append`, `elements?_flatMap_encode`: the elements of bytes, one after another.
* `whole?_encode`, `sequence?_encode`: an element that is all there is.
* `elements?_nats`: numbers that are written one after another.
-/

namespace QuoteService.Der

open Utf8 (toNat_byte)

variable {tag : Nat} {content rest : List UInt8}

/-- The number of a type that is one byte and does not announce more. -/
def IsShortTag (tag : Nat) : Prop := tag < 0x100 ∧ UInt8.ofNat tag &&& 0x1F ≠ 0x1F

instance (tag : Nat) : Decidable (IsShortTag tag) :=
  inferInstanceAs (Decidable (tag < 0x100 ∧ UInt8.ofNat tag &&& 0x1F ≠ 0x1F))

/-- A length that is written in at most four bytes. -/
def IsShortLength (n : Nat) : Prop := n < 256 ^ 4

theorem tag?_tagBytes (h : IsShortTag tag) (rest : List UInt8) :
    tag? (tagBytes tag ++ rest) = some (tag, rest) := by
  rw [tagBytes, if_pos h.1, List.singleton_append, tag?, if_neg h.2, toNat_byte h.1]

/-- **A written element is read back**, whatever follows it. -/
theorem next?_encode (htag : IsShortTag tag) (hlength : IsShortLength content.length)
    (rest : List UInt8) : next? (encode tag content ++ rest) = some (⟨tag, content⟩, rest) := by
  have hsplit : encode tag content ++ rest =
      tagBytes tag ++ (lengthBytes content.length ++ (content ++ rest)) := by
    simp only [encode, List.append_assoc]
  have henough : ¬(content ++ rest).length < content.length := by
    rw [List.length_append]
    omega
  rw [next?, hsplit, tag?_tagBytes htag]
  simp only [Option.bind_eq_bind, Option.bind_some, length?_lengthBytes hlength, if_neg henough,
    List.take_left, List.drop_left]

theorem length_encode_le (htag : IsShortTag tag) (hlength : IsShortLength content.length) :
    (encode tag content).length ≤ content.length + 6 := by
  have := length_lengthBytes_le hlength
  rw [encode, tagBytes, if_pos htag.1, List.length_append, List.length_append, List.length_singleton]
  omega

/-- The same for a content that is only bounded. -/
theorem length_encode_le_of_le {bound : Nat} (htag : IsShortTag tag) (hlength : content.length ≤ bound)
    (hbound : bound < 256 ^ 4) : (encode tag content).length ≤ bound + 6 :=
  Nat.le_trans (length_encode_le htag (Nat.lt_of_le_of_lt hlength hbound))
    (Nat.add_le_add_right hlength 6)

theorem encode_ne_nil (htag : IsShortTag tag) : encode tag content ≠ [] := by
  rw [encode, tagBytes, if_pos htag.1]
  nofun

/-! ## All elements -/

theorem length_of_group? {bs : List UInt8} {n m : Nat} (h : group? n bs = some (m, rest)) :
    rest.length < bs.length := by
  induction bs generalizing n with
  | nil => cases h
  | cons b r ih =>
    rw [group?] at h
    split at h
    · cases h
    · split at h
      · cases h
        exact Nat.lt_succ_self _
      · exact Nat.lt_succ_of_lt (ih h)

theorem length_of_tag? {bs : List UInt8} (h : tag? bs = some (tag, rest)) :
    rest.length < bs.length := by
  cases bs with
  | nil => cases h
  | cons b r =>
    rw [tag?] at h
    split at h
    · cases hgroup : group? 0 r with
      | none =>
        rw [hgroup] at h
        cases h
      | some found =>
        rw [hgroup] at h
        simp only at h
        split at h
        · cases h
        · cases h
          exact Nat.lt_succ_of_lt (length_of_group? hgroup)
    · cases h
      exact Nat.lt_succ_self _

theorem length_of_length? {bs : List UInt8} {n : Nat} (h : length? bs = some (n, rest)) :
    rest.length ≤ bs.length := by
  cases bs with
  | nil => cases h
  | cons b r =>
    rw [length?] at h
    simp only at h
    split at h
    · cases h
      exact Nat.le_succ _
    · split at h
      · obtain ⟨-, rfl⟩ := Prod.mk.inj (Option.some.inj h)
        rw [List.length_drop, List.length_cons]
        omega
      · cases h

/-- What follows an element is shorter than all of it. -/
theorem length_of_next? {bs : List UInt8} {e : Element} (h : next? bs = some (e, rest)) :
    rest.length < bs.length := by
  simp only [next?, Option.bind_eq_bind, Option.bind_eq_some_iff, Prod.exists] at h
  obtain ⟨tag, afterTag, htag, n, afterLength, hlength, h⟩ := h
  split at h
  · cases h
  · cases h
    have h1 := length_of_tag? htag
    have h2 := length_of_length? hlength
    rw [List.length_drop]
    omega

/-- **Once as many elements may be read as there are bytes, more do not matter.** -/
theorem elementsWithin_eq : ∀ (fuel : Nat) (bs : List UInt8), bs.length ≤ fuel →
    elementsWithin fuel bs = elements? bs := by
  -- two counts that are both large enough, since the count of the rest differs from its length
  have hsame : ∀ (fuel fuel' : Nat) (bs : List UInt8), bs.length ≤ fuel → bs.length ≤ fuel' →
      elementsWithin fuel bs = elementsWithin fuel' bs := by
    intro fuel
    induction fuel with
    | zero =>
      intro fuel' bs h _
      obtain rfl : bs = [] := List.eq_nil_of_length_eq_zero (by omega)
      cases fuel' <;> rfl
    | succ fuel ih =>
      intro fuel' bs h h'
      cases bs with
      | nil => cases fuel' <;> rfl
      | cons b r =>
        obtain ⟨fuel', rfl⟩ : ∃ k, fuel' = k + 1 := ⟨fuel' - 1, by rw [List.length_cons] at h'; omega⟩
        rw [elementsWithin, elementsWithin]
        cases hnext : next? (b :: r) with
        | none => rfl
        | some found =>
          obtain ⟨e, rest⟩ := found
          have hshort := length_of_next? hnext
          simp only
          rw [ih fuel' rest (by omega) (by omega)]
  intro fuel bs h
  exact hsame fuel bs.length bs h (Nat.le_refl _)

/-- **A written element stands in front of the elements that follow it.** -/
theorem elements?_encode_append (htag : IsShortTag tag) (hlength : IsShortLength content.length)
    (rest : List UInt8) : elements? (encode tag content ++ rest) =
      (elements? rest).map (⟨tag, content⟩ :: ·) := by
  have hnext := next?_encode htag hlength rest
  have hshort := length_of_next? hnext
  cases hbytes : encode tag content ++ rest with
  | nil => exact absurd (List.append_eq_nil_iff.1 hbytes).1 (encode_ne_nil htag)
  | cons b r =>
    rw [hbytes] at hnext hshort
    have hrest : elementsWithin r.length rest = elements? rest :=
      elementsWithin_eq r.length rest (by rw [List.length_cons] at hshort; omega)
    rw [elements?, List.length_cons, elementsWithin, hnext]
    simp only [hrest]

/-- The bytes of an element. -/
def Element.encode (e : Element) : List UInt8 := Der.encode e.tag e.content

/-- An element whose type and length are short. -/
def Element.IsShort (e : Element) : Prop := IsShortTag e.tag ∧ IsShortLength e.content.length

/-- An element with a bound on its content is short, if the bound is. -/
theorem Element.isShort_of_le {bound : Nat} (htag : IsShortTag tag) (hlength : content.length ≤ bound)
    (hbound : bound < 256 ^ 4) :
    (⟨tag, content⟩ : Element).IsShort ∧ content.length ≤ bound :=
  ⟨⟨htag, Nat.lt_of_le_of_lt hlength hbound⟩, hlength⟩

/-- **Elements that are written one after another are read back.** -/
theorem elements?_flatMap_encode : ∀ es : List Element, (∀ e ∈ es, e.IsShort) →
    elements? (es.flatMap Element.encode) = some es := by
  intro es
  induction es with
  | nil =>
    intro _
    rfl
  | cons e es ih =>
    intro h
    have hhead := h e List.mem_cons_self
    have htail := ih fun e' he' => h e' (List.mem_cons_of_mem e he')
    rw [List.flatMap_cons, Element.encode, elements?_encode_append hhead.1 hhead.2, htail]
    rfl

theorem elements?_encode (htag : IsShortTag tag) (hlength : IsShortLength content.length) :
    elements? (encode tag content) = some [⟨tag, content⟩] := by
  have h := elements?_encode_append htag hlength []
  rw [List.append_nil] at h
  rw [h]
  rfl

/-- Elements of at most `m` bytes of content each are as many times `m + 6` bytes long. -/
theorem length_flatMap_encode_le {m : Nat} : ∀ es : List Element,
    (∀ e ∈ es, e.IsShort ∧ e.content.length ≤ m) →
      (es.flatMap Element.encode).length ≤ es.length * (m + 6) := by
  intro es
  induction es with
  | nil =>
    intro _
    exact Nat.zero_le _
  | cons e es ih =>
    intro h
    obtain ⟨hshort, hm⟩ := h e List.mem_cons_self
    have htail := ih fun e' he' => h e' (List.mem_cons_of_mem e he')
    have hhead : e.encode.length ≤ e.content.length + 6 := length_encode_le hshort.1 hshort.2
    rw [List.flatMap_cons, List.length_append, List.length_cons, Nat.add_mul, Nat.one_mul]
    omega

theorem whole?_encode (htag : IsShortTag tag) (hlength : IsShortLength content.length) :
    whole? tag (encode tag content) = some content := by
  have h := next?_encode htag hlength []
  rw [List.append_nil] at h
  rw [whole?, h]
  exact if_pos rfl

theorem sequence?_encode (hlength : IsShortLength content.length) :
    sequence? (encode sequenceTag content) = elements? content := by
  rw [sequence?, whole?_encode (by decide) hlength]
  rfl

/-! ## Bit strings -/

/-- Whole bytes are a bit string without unused bits. -/
theorem isBitString_zero_cons (bs : List UInt8) : isBitString (0 :: bs) = true := by
  rw [isBitString]
  cases bs.getLast? with
  | none => rfl
  | some last =>
    have hwhole : last.toNat % Nat.pow 2 (0 : UInt8).toNat = 0 := Nat.mod_one _
    simp only [hwhole]
    decide

theorem bitStringBytes?_zero_cons (bs : List UInt8) : bitStringBytes? (0 :: bs) = some bs := by
  rw [bitStringBytes?, if_pos (isBitString_zero_cons bs)]
  rfl

/-! ## Numbers -/

/-- A number whose content is short. -/
def IsShortNat (n : Nat) : Prop := (natContent n).length ≤ 2 ^ 26

theorem IsShortNat.isShortLength {n : Nat} (h : IsShortNat n) :
    IsShortLength (natContent n).length := by
  unfold IsShortNat at h
  unfold IsShortLength
  omega

/-- The element of a number. -/
def natElement (n : Nat) : Element := ⟨integerTag, natContent n⟩

theorem isShort_natElement {n : Nat} (h : IsShortNat n) : (natElement n).IsShort :=
  ⟨show IsShortTag integerTag by decide, h.isShortLength⟩

theorem flatMap_encodeNat (ns : List Nat) :
    ns.flatMap encodeNat = (ns.map natElement).flatMap Element.encode := by
  rw [List.flatMap_map]
  rfl

theorem isShort_of_mem_map_natElement {ns : List Nat} (h : ∀ n ∈ ns, IsShortNat n) :
    ∀ e ∈ ns.map natElement, e.IsShort ∧ e.content.length ≤ 2 ^ 26 := by
  intro e he
  obtain ⟨n, hn, rfl⟩ := List.mem_map.1 he
  exact ⟨isShort_natElement (h n hn), h n hn⟩

/-- **Numbers that are written one after another are read back** as their elements. -/
theorem elements?_nats {ns : List Nat} (h : ∀ n ∈ ns, IsShortNat n) :
    elements? (ns.flatMap encodeNat) = some (ns.map natElement) := by
  rw [flatMap_encodeNat]
  exact elements?_flatMap_encode _ fun e he => (isShort_of_mem_map_natElement h e he).1

theorem length_nats_le {ns : List Nat} (h : ∀ n ∈ ns, IsShortNat n) :
    (ns.flatMap encodeNat).length ≤ ns.length * (2 ^ 26 + 6) := by
  rw [flatMap_encodeNat, ← List.length_map natElement]
  exact length_flatMap_encode_le _ (isShort_of_mem_map_natElement h)

/-- A number that is all there is. -/
theorem whole?_encodeNat {n : Nat} (h : IsShortNat n) :
    (whole? integerTag (encodeNat n)).bind nat? = some n := by
  rw [encodeNat, whole?_encode (by decide) h.isShortLength, Option.bind_some, nat?_natContent]

theorem length_encodeNat_le {n : Nat} (h : IsShortNat n) : (encodeNat n).length ≤ 2 ^ 26 + 6 :=
  length_encode_le_of_le (by decide) h (by omega)

end QuoteService.Der
