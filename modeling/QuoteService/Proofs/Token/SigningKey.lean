import QuoteService.Proofs.Base64.Accepted
import QuoteService.Proofs.Results
import QuoteService.Proofs.Text.Lines
import QuoteService.Token.SigningKey

/-!
# Which texts configure a signing key

* `SigningKey.SpelledBy`: the texts that spell a key, with blanks around them.
* `Refused`: the texts that give no key, each with the fault that is told.
* `SigningKey.decode_cases`: **every text does one of the two.**
* `SigningKey.decode_eq_ok_iff`, `SigningKey.decode_eq_error_iff`: so each of them decides what becomes
  of a text.
* `SigningKey.decode_inverts`: **a key is read back from its encoded text, and from no text but those
  that spell it.**
-/

namespace QuoteService.Token

/-- Why a text gives no key: it is missing or blank, it spells no bytes, or it spells too few. -/
inductive Refused : Option String → ConfigurationError → Prop
  | missing : Refused none .notConfigured
  | blank {s : String} (h : Text.trim s.toList = []) : Refused (some s) .notConfigured
  | unspelled {s : String} (hfull : Text.trim s.toList ≠ [])
      (h : ∀ bs, ¬Base64.Spelled (Text.trim s.toList) bs) : Refused (some s) .notBase64
  | short {s : String} {bs : List UInt8} (hfull : Text.trim s.toList ≠ [])
      (h : Base64.Spelled (Text.trim s.toList) bs) (hshort : bs.length < minKeyLength) :
      Refused (some s) (.tooShort (bs.length * 8))

namespace SigningKey

variable {text : Option String} {key : SigningKey} {s : String} {e : ConfigurationError}
  {bs : List UInt8}

/-- A text that spells a key, with blanks around it. -/
def SpelledBy (key : SigningKey) (text : Option String) : Prop :=
  ∃ s, text = some s ∧ Base64.Spelled (Text.trim s.toList) key.bytes

/-! ## What becomes of a text -/

theorem decode_blank (h : Text.trim s.toList = []) : decode (some s) = .error .notConfigured := by
  simp only [decode, (Text.isBlankText_iff_trim _).2 h, if_true]

/-- What is made of a text that is not blank. -/
theorem decode_full (h : Text.trim s.toList ≠ []) : decode (some s) =
    match Base64.decode (Text.trim s.toList) with
    | .error _ => .error .notBase64
    | .ok bytes =>
      if hlength : minKeyLength ≤ bytes.length then .ok ⟨bytes, hlength⟩
      else .error (.tooShort (bytes.length * 8)) := by
  have hblank : ¬Text.isBlankText s.toList = true :=
    fun hblank => h ((Text.isBlankText_iff_trim _).1 hblank)
  exact if_neg hblank

theorem decode_unspelled (hfull : Text.trim s.toList ≠ [])
    (h : ∀ bs, ¬Base64.Spelled (Text.trim s.toList) bs) : decode (some s) = .error .notBase64 := by
  rw [decode_full hfull]
  cases hbytes : Base64.decode (Text.trim s.toList) with
  | error fault => rfl
  | ok bs => exact absurd (Base64.decode_eq_ok_iff.1 hbytes) (h bs)

/-- Bytes that are spelled are a key if they are enough. -/
theorem decode_spelled (hfull : Text.trim s.toList ≠ [])
    (h : Base64.Spelled (Text.trim s.toList) bs) : decode (some s) =
      if hlength : minKeyLength ≤ bs.length then .ok ⟨bs, hlength⟩
      else .error (.tooShort (bs.length * 8)) := by
  rw [decode_full hfull, Base64.decode_eq_ok_iff.2 h]

/-- **Every text spells the key that it gives or is refused.** -/
theorem decode_cases (text : Option String) :
    (∃ key, decode text = .ok key ∧ key.SpelledBy text) ∨
      ∃ e, decode text = .error e ∧ Refused text e := by
  cases text with
  | none => exact .inr ⟨_, rfl, .missing⟩
  | some s =>
    by_cases hfull : Text.trim s.toList = []
    · exact .inr ⟨_, decode_blank hfull, .blank hfull⟩
    · by_cases hspelled : ∃ bs, Base64.Spelled (Text.trim s.toList) bs
      · obtain ⟨bs, hspelled⟩ := hspelled
        have hdecode := decode_spelled hfull hspelled
        by_cases hlength : minKeyLength ≤ bs.length
        · rw [dif_pos hlength] at hdecode
          exact .inl ⟨_, hdecode, s, rfl, hspelled⟩
        · rw [dif_neg hlength] at hdecode
          exact .inr ⟨_, hdecode, .short hfull hspelled (Nat.lt_of_not_le hlength)⟩
      · have hnone := not_exists.1 hspelled
        exact .inr ⟨_, decode_unspelled hfull hnone, .unspelled hfull hnone⟩

/-- A text that spells a key is not blank, since no bytes at all are no key. -/
theorem trim_ne_nil_of_spelled (h : Base64.Spelled (Text.trim s.toList) key.bytes) :
    Text.trim s.toList ≠ [] := by
  intro hempty
  have hread := Base64.decode_eq_ok_iff.2 h
  rw [hempty] at hread
  have hnil : ([] : List UInt8) = key.bytes := Except.ok.inj hread
  have hlength := key.length_bytes
  rw [← hnil] at hlength
  exact absurd hlength (by decide)

/-- **A text gives a key just if it spells it.** -/
theorem decode_eq_ok_iff : decode text = .ok key ↔ key.SpelledBy text := by
  constructor
  · intro h
    rcases decode_cases text with ⟨key', hkey, hspelled⟩ | ⟨e, he, -⟩
    · cases h.symm.trans hkey
      exact hspelled
    · cases h.symm.trans he
  · rintro ⟨s, rfl, hspelled⟩
    rw [decode_spelled (trim_ne_nil_of_spelled hspelled) hspelled, dif_pos key.length_bytes]

/-- **A text is refused for what it lacks.** -/
theorem decode_eq_error_iff : decode text = .error e ↔ Refused text e := by
  constructor
  · intro h
    rcases decode_cases text with ⟨key, hkey, -⟩ | ⟨e', he, hrefused⟩
    · cases h.symm.trans hkey
    · cases h.symm.trans he
      exact hrefused
  · intro h
    cases h with
    | missing => rfl
    | blank h => exact decode_blank h
    | unspelled hfull h => exact decode_unspelled hfull h
    | short hfull h hshort => rw [decode_spelled hfull h, dif_neg (Nat.not_le_of_lt hshort)]

/-! ## Encoded keys -/

/-- **A key is read back from its encoded text**, whatever blanks stand around it. -/
theorem decode_encoded (key : SigningKey) {front back : List Char}
    (hfront : Text.isBlankText front = true) (hback : Text.isBlankText back = true) :
    decode (some (String.ofList
      (front ++ Base64.Alphabet.standard.encodePadded key.bytes ++ back))) = .ok key := by
  have htrim := Text.trim_margins (List.all_eq_true.1 hfront) (List.all_eq_true.1 hback)
    (Base64.Alphabet.standard.encodePadded key.bytes)
  have hself : Text.trim (Base64.Alphabet.standard.encodePadded key.bytes) =
      Base64.Alphabet.standard.encodePadded key.bytes :=
    Text.trimBy_eq_self fun c hc => (Base64.isSign_of_mem_encodePadded hc).isBlank_eq_false
  refine decode_eq_ok_iff.2 ⟨_, rfl, Base64.decode_eq_ok_iff.1 ?_⟩
  rw [String.toList_ofList, htrim, hself, Base64.decode_encodePadded]

/-- **Decoding a key inverts encoding it and refuses everything else.** At least 64 bytes are read back
from their encoded text with any blanks around it, and so are any 64 random bytes from the text that
is made for them. A text that gives a key is, between blanks, digits and then signs of padding alone,
and the digits are those of the encoded key up to the bits of the last one that fill no byte. Every
other text, and none at all, is refused as a configuration that is missing, no Base64 or too short. -/
theorem decode_inverts :
    (∀ (k : List UInt8) (front back : List Char), 64 ≤ k.length → Text.isBlankText front = true →
      Text.isBlankText back = true → ∃ key, key.bytes = k ∧ decode (some (String.ofList
        (front ++ Base64.Alphabet.standard.encodePadded k ++ back))) = .ok key) ∧
    (∀ random : List UInt8, random.length = 64 →
      ∃ key, key.bytes = random ∧ decode (some (newText random)) = .ok key) ∧
    (∀ text key, decode text = .ok key → 64 ≤ key.bytes.length ∧ ∃ s digits pads, text = some s ∧
      Text.trim s.toList = digits ++ List.replicate pads '=' ∧
      (∀ c ∈ digits, Base64.Alphabet.standard.isDigit c = true) ∧ Base64.Holds digits key.bytes) ∧
    ∀ text, (∃ key, decode text = .ok key) ∨ ∃ e, decode text = .error e ∧ Refused text e := by
  have hencoded : ∀ (k : List UInt8) (front back : List Char), 64 ≤ k.length →
      Text.isBlankText front = true → Text.isBlankText back = true →
      ∃ key, key.bytes = k ∧ decode (some (String.ofList
        (front ++ Base64.Alphabet.standard.encodePadded k ++ back))) = .ok key :=
    fun k _ _ hk hfront hback => ⟨⟨k, hk⟩, rfl, decode_encoded ⟨k, hk⟩ hfront hback⟩
  refine ⟨hencoded, ?_, ?_, ?_⟩
  · intro random hrandom
    have hplain := hencoded random [] [] (Nat.le_of_eq hrandom.symm) rfl rfl
    rwa [List.nil_append, List.append_nil] at hplain
  · intro text key h
    obtain ⟨s, rfl, digits, pads, htext, hholds, -⟩ := decode_eq_ok_iff.1 h
    exact ⟨key.length_bytes, s, digits, pads, rfl, htext, hholds.isDigit, hholds⟩
  · intro text
    exact (decode_cases text).imp_left fun ⟨key, hkey, _⟩ => ⟨key, hkey⟩

/-- The text of 64 letters is read with an em space in front of it and a separator behind it, and another
text gives the same key since its last digit differs in a bit that fills no byte. -/
theorem decode_inverts_letters :
    let k : List UInt8 := List.replicate 64 0x6B
    let digits := (List.replicate 21 ['a', '2', 't', 'r']).flatten ++ ['a', 'x']
    (∃ key, key.bytes = k ∧ decode (some (String.ofList
      (['\u2003'] ++ Base64.Alphabet.standard.encodePadded k ++ ['\x1c', '\n']))) = .ok key) ∧
    (∃ key, key.bytes = k ∧ decode (some (newText k)) = .ok key) ∧
    ∃ key, decode (some (String.ofList (digits ++ ['=', '=']))) = .ok key ∧ key.bytes = k ∧
      64 ≤ key.bytes.length ∧ ∃ s ds pads, some (String.ofList (digits ++ ['=', '='])) = some s ∧
        Text.trim s.toList = ds ++ List.replicate pads '=' ∧
        (∀ c ∈ ds, Base64.Alphabet.standard.isDigit c = true) ∧ Base64.Holds ds key.bytes := by
  intro k digits
  obtain ⟨hencoded, hrandom, hspelled, -⟩ := decode_inverts
  have hread : (decode (some (String.ofList (digits ++ ['=', '='])))).map SigningKey.bytes = .ok k := by
    decide +kernel
  obtain ⟨key, hkey, hbytes⟩ := map_eq_ok_iff.1 hread
  exact ⟨hencoded k _ _ (by decide) (by decide) (by decide), hrandom k (by decide), key, hkey, hbytes,
    hspelled _ key hkey⟩

end SigningKey

end QuoteService.Token
