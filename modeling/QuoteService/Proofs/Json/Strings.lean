import Mathlib.Data.List.Basic
import QuoteService.Json.Printer
import QuoteService.Json.Reader
import QuoteService.Proofs.Text.Encoding

/-!
# Strings survive their JSON form

* `pieces_renderPoint`: a written character is read as pieces that join to it again.
* `stringBody_render`: **a written string is read back**, in either style and every dialect.
-/

namespace QuoteService.Json

theorem hexValue?_hexDigit {d : ℕ} (h : d < 16) : hexValue? (.scalar (hexDigit d)) = some d := by
  have hall : ∀ e ∈ List.range 16, hexValue? (.scalar (hexDigit e)) = some e := by decide
  exact hall d (List.mem_range.2 h)

theorem hexUnit?_escapeUnit {n : ℕ} (h : n < 0x10000) :
    hexUnit? (.scalar (hexDigit (n / 4096 % 16))) (.scalar (hexDigit (n / 256 % 16)))
      (.scalar (hexDigit (n / 16 % 16))) (.scalar (hexDigit (n % 16))) = some n := by
  unfold hexUnit?
  simp only [hexValue?_hexDigit (Nat.mod_lt _ (by decide : 16 > 0)), Option.some.injEq]
  omega

/-- Puts pieces in front of what was read of a string. -/
def prepend (ps : List Piece) (found : Option (List Piece × Text)) : Option (List Piece × Text) :=
  found.map fun (qs, rest) => (ps ++ qs, rest)

theorem prepend_append (ps qs : List Piece) (found : Option (List Piece × Text)) :
    prepend (ps ++ qs) found = prepend ps (prepend qs found) := by
  cases found with
  | none => rfl
  | some f => simp [prepend]

/-- The four digits of an escape are read as one unit. -/
theorem pieces_escapeUnit {n : ℕ} (h : n < 0x10000) (r : Text) :
    pieces (Text.ofChars (escapeUnit n) ++ r) = prepend [.unit n] (pieces r) := by
  simp only [Text.ofChars, escapeUnit, List.map_cons, List.map_nil, List.cons_append, List.nil_append]
  rw [pieces, hexUnit?_escapeUnit h]
  cases pieces r <;> rfl

/-- An escape of one letter is read as its character. -/
theorem pieces_escaped {e c : Char} (hu : e ≠ 'u') (h : escaped? (.scalar e) = some c) (r : Text) :
    pieces (.scalar '\\' :: .scalar e :: r) = prepend [.plain (.scalar c)] (pieces r) := by
  rw [pieces, h]
  · cases pieces r <;> rfl
  · intro _ _ _ _ _ he; exact absurd (CodePoint.scalar.inj he) hu

theorem pieces_plain {c : Char} (hlow : ¬c.toNat < 0x20) (hq : c ≠ '"') (hb : c ≠ '\\') (r : Text) :
    pieces (.scalar c :: r) = prepend [.plain (.scalar c)] (pieces r) := by
  have hp : ¬((CodePoint.scalar c).toNat < 0x20 ∨ CodePoint.scalar c = .scalar '\\') := by
    rintro (h | h)
    · exact hlow h
    · exact hb (CodePoint.scalar.inj h)
  rw [pieces]
  · rw [if_neg hp]; rfl
  · intro h; exact hq (CodePoint.scalar.inj h)
  · intro _ _ _ _ _ h; exact absurd (CodePoint.scalar.inj h) hb
  · intro _ _ h; exact absurd (CodePoint.scalar.inj h) hb

theorem joinPieces_plain (lone : Bool) (p : CodePoint) (ps : List Piece) :
    joinPieces lone (.plain p :: ps) = (joinPieces lone ps).map (p :: ·) := by
  rw [joinPieces]

/-- A unit that is no half of a pair stands for itself, whatever follows it. -/
theorem joinPieces_unit (lone : Bool) {n : ℕ} (h : ¬(0xD800 ≤ n ∧ n < 0xE000)) (ps : List Piece) :
    joinPieces lone (.unit n :: ps) = Utf8.consNat n (joinPieces lone ps) := by
  have h1 : ¬(0xD800 ≤ n ∧ n < 0xE000 ∧ lone = false) := fun ⟨h1, h2, _⟩ => h ⟨h1, h2⟩
  cases ps with
  | nil => rw [joinPieces.eq_def lone [.unit n]]; simp only [if_neg h1]
  | cons p ps =>
    cases p with
    | plain p => rw [joinPieces, if_neg h1]; nofun
    | unit m =>
      have h2 : ¬(0xD800 ≤ n ∧ n < 0xDC00 ∧ 0xDC00 ≤ m ∧ m < 0xE000) := by omega
      rw [joinPieces, if_neg h2, if_neg h1]

/-- The two units of a character beyond 16 bits stand for it. -/
theorem joinPieces_pair (lone : Bool) {n : ℕ} (h : 0x10000 ≤ n) (h' : n < 0x110000)
    (ps : List Piece) :
    joinPieces lone (.unit (0xD800 + (n - 0x10000) / 0x400) ::
      .unit (0xDC00 + (n - 0x10000) % 0x400) :: ps) = Utf8.consNat n (joinPieces lone ps) := by
  have h1 : 0xD800 ≤ 0xD800 + (n - 0x10000) / 0x400 ∧ 0xD800 + (n - 0x10000) / 0x400 < 0xDC00 ∧
      0xDC00 ≤ 0xDC00 + (n - 0x10000) % 0x400 ∧ 0xDC00 + (n - 0x10000) % 0x400 < 0xE000 := by omega
  have h2 : 0x10000 + (0xD800 + (n - 0x10000) / 0x400 - 0xD800) * 0x400 +
      (0xDC00 + (n - 0x10000) % 0x400 - 0xDC00) = n := by omega
  rw [joinPieces, if_pos h1, h2]

/-- Pieces that stand for a character, whatever follows them. -/
def StandFor (ps : List Piece) (c : Char) : Prop :=
  ∀ lone qs, joinPieces lone (ps ++ qs) = (joinPieces lone qs).map (.scalar c :: ·)

theorem standFor_plain (c : Char) : StandFor [.plain (.scalar c)] c :=
  fun lone qs => joinPieces_plain lone (.scalar c) qs

/-- **An escape is read as pieces that stand for its character.** -/
theorem pieces_escapePoint (c : Char) :
    ∃ ps, StandFor ps c ∧
      ∀ r, pieces (Text.ofChars (escapePoint c.toNat) ++ r) = prepend ps (pieces r) := by
  have hv : c.toNat < 0xD800 ∨ 0xDFFF < c.toNat ∧ c.toNat < 0x110000 := c.valid
  unfold escapePoint
  split
  · rename_i hn
    refine ⟨[.unit c.toNat], fun lone qs => ?_, fun r => pieces_escapeUnit hn r⟩
    rw [List.singleton_append, joinPieces_unit lone (by omega), Utf8.consNat_char]
  · rename_i hn
    refine ⟨[.unit (0xD800 + (c.toNat - 0x10000) / 0x400)] ++
      [.unit (0xDC00 + (c.toNat - 0x10000) % 0x400)], fun lone qs => ?_, fun r => ?_⟩
    · rw [List.append_assoc, List.singleton_append, List.singleton_append,
        joinPieces_pair lone (by omega) (by omega), Utf8.consNat_char]
    · rw [Text.ofChars, List.map_append, List.append_assoc, ← Text.ofChars, ← Text.ofChars,
        pieces_escapeUnit (by omega), pieces_escapeUnit (by omega), prepend_append]

/-- **A written character is read as pieces that stand for it**, in either style. -/
theorem pieces_renderPoint (style : Style) (c : Char) :
    ∃ ps, StandFor ps c ∧ ∀ r, pieces (renderPoint style (.scalar c) ++ r) = prepend ps (pieces r) := by
  unfold renderPoint
  split
  case h_1 h | h_2 h | h_3 h | h_4 h | h_5 h | h_6 h | h_7 h =>
    cases h
    exact ⟨_, standFor_plain _, fun r => pieces_escaped (by decide) rfl r⟩
  case h_8 hq hb _ _ _ _ _ =>
    split
    · exact pieces_escapePoint c
    · -- a character that stands for itself is neither low nor a quote nor a backslash
      rename_i hn
      have hlow : ¬c.toNat < 0x20 := fun h => hn (.inl h)
      exact ⟨_, standFor_plain c, fun r =>
        pieces_plain hlow (fun h => hq (h ▸ rfl)) (fun h => hb (h ▸ rfl)) r⟩

/-- The pieces of a written text, up to the quote that closes it. -/
theorem pieces_render (style : Style) (cs : List Char) (rest : Text) :
    ∃ ps, (∀ lone, joinPieces lone ps = some (Text.ofChars cs)) ∧
      pieces ((Text.ofChars cs).flatMap (renderPoint style) ++ .scalar '"' :: rest) =
        some (ps, rest) := by
  induction cs with
  | nil => exact ⟨[], fun _ => by rw [joinPieces]; rfl, by rw [Text.ofChars, List.map_nil,
      List.flatMap_nil, List.nil_append, pieces]⟩
  | cons c cs ih =>
    obtain ⟨qs, hqs, hrest⟩ := ih
    obtain ⟨ps, hps, hc⟩ := pieces_renderPoint style c
    refine ⟨ps ++ qs, fun lone => by rw [hps, hqs]; rfl, ?_⟩
    have hsplit : (Text.ofChars (c :: cs)).flatMap (renderPoint style) =
        renderPoint style (.scalar c) ++ (Text.ofChars cs).flatMap (renderPoint style) := rfl
    rw [hsplit, List.append_assoc, hc, hrest]
    rfl

/-- **A written string is read back**, in either style and by every dialect. -/
theorem stringBody_render (d : Dialect) (style : Style) (cs : List Char) (rest : Text) :
    stringBody d ((Text.ofChars cs).flatMap (renderPoint style) ++ .scalar '"' :: rest) =
      some (Text.ofChars cs, rest) := by
  obtain ⟨ps, hjoin, hps⟩ := pieces_render style cs rest
  rw [stringBody, hps]
  simp only [hjoin, Option.map_some]

/-- Different strings are different values. -/
theorem ofString_injective : Function.Injective ofString :=
  fun _ _ h => Text.ofString_injective (Json.str.inj h)

end QuoteService.Json
