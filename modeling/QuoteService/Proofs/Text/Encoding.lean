import Mathlib.Tactic.Common
import QuoteService.Text.Utf8

/-!
# Text survives its encoding

* `Text.toChars?_eq_some_iff`: text whose characters are known is these characters.
* `decodeLoose_encodeNat`: the bytes of one character are read back, whatever follows them.
* `decodeLoose_encode`, `decode_encode`: so are the bytes of a text.
-/

namespace QuoteService

theorem CodePoint.ofNat?_toNat (c : Char) : CodePoint.ofNat? c.toNat = some (.scalar c) := by
  have hv : c.toNat < 0xD800 ∨ 0xDFFF < c.toNat ∧ c.toNat < 0x110000 := c.valid
  have hs : ¬(0xD800 ≤ c.toNat ∧ c.toNat < 0xE000) := by omega
  have hm : c.toNat < 0x110000 := by omega
  rw [CodePoint.ofNat?, dif_neg hs, if_pos hm, Char.ofNat_toNat]

/-- Text whose characters are known is these characters. -/
theorem Text.toChars?_eq_some_iff {t : Text} {cs : List Char} :
    t.toChars? = some cs ↔ t = Text.ofChars cs := by
  constructor
  · intro h
    induction t generalizing cs with
    | nil => cases h; rfl
    | cons p t ih =>
      simp only [Text.toChars?, List.mapM_cons, Option.bind_eq_bind, Option.bind_eq_some_iff,
        Option.pure_def, Option.some.injEq] at h
      obtain ⟨c, hc, ds, hds, rfl⟩ := h
      cases p with
      | scalar x => cases hc; rw [ih hds]; rfl
      | surrogate _ => cases hc
  · rintro rfl
    exact Text.toChars?_ofChars cs

theorem Text.toString?_ofString (s : String) : (Text.ofString s).toString? = some s := by
  rw [Text.toString?, Text.ofString, Text.toChars?_ofChars, Option.map_some, String.ofList_toList]

/-- Different strings are different texts. -/
theorem Text.ofString_injective : Function.Injective Text.ofString := by
  intro s s' h
  have hback := congrArg Text.toString? h
  rwa [Text.toString?_ofString, Text.toString?_ofString, Option.some.injEq] at hback

/-- A string is shown as it is. -/
theorem Text.shownString_ofString (s : String) : (Text.ofString s).shownString = s := by
  have hshown : (Text.ofString s).shown = s.toList := by
    rw [Text.shown, Text.ofString, Text.ofChars, List.map_map]
    exact List.map_id s.toList
  rw [Text.shownString, hshown, String.ofList_toList]

/-- Characters that are tested to be ASCII are. -/
theorem Text.toNat_lt_of_all {cs : List Char} (h : (cs.all fun ch => ch.toNat < 0x80) = true)
    {ch : Char} (hch : ch ∈ cs) : ch.toNat < 0x80 :=
  of_decide_eq_true (List.all_eq_true.1 h ch hch)

namespace Utf8

theorem toNat_byte {n : ℕ} (h : n < 256) : (UInt8.ofNat n).toNat = n := UInt8.toNat_ofNat_of_lt' h

theorem toNat_continuation (n : ℕ) : (continuation n).toNat = 0x80 + n % 64 :=
  toNat_byte (by omega)

theorem isContinuation_continuation (n : ℕ) : isContinuation (continuation n) = true := by
  have h := toNat_continuation n
  simp only [isContinuation, Bool.and_eq_true, decide_eq_true_eq, UInt8.le_iff_toNat_le, h,
    UInt8.reduceToNat]
  omega

theorem payload_continuation (n : ℕ) : payload (continuation n) = n % 64 := by
  rw [payload, toNat_continuation]; omega

/-- A byte below 128 is a character by itself. -/
theorem decodeLoose_one {n : ℕ} (h : n < 0x80) (r : List UInt8) :
    decodeLoose (UInt8.ofNat n :: r) = consNat n (decodeLoose r) := by
  have hb := toNat_byte (show n < 256 by omega)
  have h1 : UInt8.ofNat n < 0x80 := by rw [UInt8.lt_iff_toNat_lt, hb]; exact h
  rw [decodeLoose.eq_def]
  simp only [h1, if_true, hb]

theorem decodeLoose_two {n : ℕ} (h : 0x80 ≤ n) (h' : n < 0x800) (r : List UInt8) :
    decodeLoose (UInt8.ofNat (0xC0 + n / 64) :: continuation n :: r) =
      consNat n (decodeLoose r) := by
  have hb := toNat_byte (show 0xC0 + n / 64 < 256 by omega)
  set b := UInt8.ofNat (0xC0 + n / 64)
  have h1 : ¬b < 0x80 := by rw [UInt8.lt_iff_toNat_lt, hb]; simp only [UInt8.reduceToNat]; omega
  have h2 : 0xC2 ≤ b ∧ b ≤ 0xDF := by
    rw [UInt8.le_iff_toNat_le, UInt8.le_iff_toNat_le, hb]; simp only [UInt8.reduceToNat]; omega
  have hn : b.toNat % 32 * 64 + n % 64 = n := by rw [hb]; omega
  rw [decodeLoose.eq_def]
  simp only [h1, h2, isContinuation_continuation, payload_continuation, hn, decide_true, Bool.and_self,
    Bool.not_true, Bool.false_eq_true, if_true, if_false]

theorem decodeLoose_three {n : ℕ} (h : 0x800 ≤ n) (h' : n < 0x10000) (r : List UInt8) :
    decodeLoose (UInt8.ofNat (0xE0 + n / 4096) :: continuation (n / 64) :: continuation n :: r) =
      consNat n (decodeLoose r) := by
  have hb := toNat_byte (show 0xE0 + n / 4096 < 256 by omega)
  set b := UInt8.ofNat (0xE0 + n / 4096)
  have h1 : ¬b < 0x80 := by rw [UInt8.lt_iff_toNat_lt, hb]; simp only [UInt8.reduceToNat]; omega
  have h2 : ¬b ≤ 0xDF := by rw [UInt8.le_iff_toNat_le, hb]; simp only [UInt8.reduceToNat]; omega
  have h3 : 0xE0 ≤ b ∧ b ≤ 0xEF := by
    rw [UInt8.le_iff_toNat_le, UInt8.le_iff_toNat_le, hb]; simp only [UInt8.reduceToNat]; omega
  -- the second byte of a character from U+0800 on rules the overlong form out
  have h4 : ¬(b = 0xE0 ∧ continuation (n / 64) < 0xA0) := by
    rw [← UInt8.toNat_inj, UInt8.lt_iff_toNat_lt, hb, toNat_continuation]
    simp only [UInt8.reduceToNat]; omega
  have hn : b.toNat % 16 * 4096 + n / 64 % 64 * 64 + n % 64 = n := by rw [hb]; omega
  rw [decodeLoose.eq_def]
  simp only [h1, h2, h3, isContinuation_continuation, payload_continuation, hn, decide_true,
    decide_false, Bool.and_self, Bool.and_false, Bool.not_true, Bool.false_eq_true, if_true, if_false,
    Bool.and_eq_true, beq_iff_eq, decide_eq_true_eq, h4]

theorem decodeLoose_four {n : ℕ} (h : 0x10000 ≤ n) (h' : n < 0x110000) (r : List UInt8) :
    decodeLoose (UInt8.ofNat (0xF0 + n / 262144) :: continuation (n / 4096) ::
      continuation (n / 64) :: continuation n :: r) = consNat n (decodeLoose r) := by
  have hb := toNat_byte (show 0xF0 + n / 262144 < 256 by omega)
  set b := UInt8.ofNat (0xF0 + n / 262144)
  have h1 : ¬b < 0x80 := by rw [UInt8.lt_iff_toNat_lt, hb]; simp only [UInt8.reduceToNat]; omega
  have h2 : ¬b ≤ 0xDF := by rw [UInt8.le_iff_toNat_le, hb]; simp only [UInt8.reduceToNat]; omega
  have h3 : ¬(b = 0xE0 ∧ continuation (n / 4096) < 0xA0) := by
    rw [← UInt8.toNat_inj, hb]; simp only [UInt8.reduceToNat]; omega
  have h4 : ¬b ≤ 0xEF := by rw [UInt8.le_iff_toNat_le, hb]; simp only [UInt8.reduceToNat]; omega
  have h5 : ¬(b = 0xF0 ∧ continuation (n / 4096) < 0x90) := by
    rw [← UInt8.toNat_inj, UInt8.lt_iff_toNat_lt, hb, toNat_continuation]
    simp only [UInt8.reduceToNat]; omega
  have h6 : 0xF0 ≤ b ∧ b ≤ 0xF4 := by
    rw [UInt8.le_iff_toNat_le, UInt8.le_iff_toNat_le, hb]; simp only [UInt8.reduceToNat]; omega
  have hn : b.toNat % 8 * 262144 + n / 4096 % 64 * 4096 + n / 64 % 64 * 64 + n % 64 = n := by
    rw [hb]; omega
  rw [decodeLoose.eq_def]
  simp only [h1, h2, h3, h4, h6, isContinuation_continuation, payload_continuation, hn, decide_true,
    decide_false, Bool.and_self, Bool.and_false, Bool.not_true, Bool.false_eq_true, if_true, if_false,
    Bool.and_eq_true, beq_iff_eq, decide_eq_true_eq, h5]

/-- **The bytes of a character are read back**, whatever follows them. -/
theorem decodeLoose_encodeNat {n : ℕ} (h : n < 0x110000) (r : List UInt8) :
    decodeLoose (encodeNat n ++ r) = consNat n (decodeLoose r) := by
  unfold encodeNat
  split_ifs with h1 h2 h3
  · exact decodeLoose_one h1 r
  · exact decodeLoose_two (by omega) h2 r
  · exact decodeLoose_three (by omega) h3 r
  · exact decodeLoose_four (by omega) h r

theorem consNat_char (c : Char) (t : Option Text) : consNat c.toNat t = t.map (.scalar c :: ·) := by
  unfold consNat
  rw [CodePoint.ofNat?_toNat]
  cases t <;> rfl

/-- **The bytes of a text are read back.** -/
theorem decodeLoose_encode (cs : List Char) : decodeLoose (encode cs) = some (Text.ofChars cs) := by
  induction cs with
  | nil => rw [encode, List.flatMap_nil, decodeLoose.eq_def]; rfl
  | cons c cs ih =>
    have hc : c.toNat < 0x110000 := by
      have hv : c.toNat < 0xD800 ∨ 0xDFFF < c.toNat ∧ c.toNat < 0x110000 := c.valid
      omega
    rw [encode] at ih ⊢
    rw [List.flatMap_cons, decodeLoose_encodeNat hc, ih, consNat_char]
    rfl

theorem decode_encode (cs : List Char) : decode (encode cs) = some cs := by
  rw [decode, decodeLoose_encode, Option.bind_some, Text.toChars?_ofChars]

end Utf8

end QuoteService
