import Mathlib.Tactic.Common
import QuoteService.Url.Basic

/-!
# Addresses with another path, and their schemes

* `Url.IsPlainPath`: a path that stays as it is when an address is brought into normal form.
* `Url.ofWritten_withPath`: **an address can be given such a path in the place of its own.**
* `Url.ofParts_eq_ok_iff`: the parts of an address are read if none of them is too long.
* `Url.isUnmarked_parse`: **the scheme of an address has none of the marks that come after it**, and it
  has none in small letters either.
-/

namespace QuoteService.Url

/-- A path that stays as it is when an address is brought into normal form. -/
structure IsPlainPath (path : List Char) : Prop where
  short : path.length ≤ maxLength
  slash : path.head? = some '/'
  single : ['/', '/'].isPrefixOf path = false
  resolved : resolvePath path = path
  safe : escape isPathSafe path = path

variable {u : Url} {w : Written} {path : List Char}

/-- An address can be given such a path in the place of its own. -/
theorem ofWritten_withPath (h : ofWritten w = .ok u) (hp : IsPlainPath path) :
    ofWritten { w with path } = .ok { u with path } := by
  have hpath : ∀ isRelative : Bool,
      escape isPathSafe (if isRelative then path else resolvePath path) = path := by
    intro isRelative
    rw [hp.resolved, ite_self, hp.safe]
  have hcolon : (path.head? == some ':') = false := by rw [hp.slash]; decide
  have hslash : (path.head? != some '/') = false := by rw [hp.slash]; decide
  unfold ofWritten at h ⊢
  simp only [bind, Except.bind, pure, Except.pure, hpath, hslash, hp.single, hcolon, Bool.and_false,
    Bool.false_eq_true, if_false] at h ⊢
  cases hhost : hostOf (splitHost (splitCredentials w.authority).2).1 with
  | error fault => rw [hhost] at h; cases h
  | ok host =>
    cases hport : portOf w.scheme (splitHost (splitCredentials w.authority).2).2 with
    | error fault => rw [hhost, hport] at h; cases h
    | ok port =>
      rw [hhost, hport] at h
      simp only at h ⊢
      -- what the old path must not be was asked, and the new one is none of it
      repeat' split at h
      all_goals first | (cases h; rfl) | cases h

theorem ofParts_eq_ok_iff : ofParts w = .ok u ↔ longPart? w = none ∧ ofWritten w = .ok u := by
  unfold ofParts
  cases longPart? w with
  | none => exact ⟨fun h => ⟨rfl, h⟩, fun h => h.2⟩
  | some part => exact ⟨nofun, fun h => nomatch h.1⟩

theorem longPart?_withPath (h : longPart? w = none) (hp : IsPlainPath path) :
    longPart? { w with path } = none := by
  have hshort : ¬maxLength < path.length := Nat.not_lt.2 hp.short
  unfold longPart? at h ⊢
  simp only [decide_eq_true_eq, hshort, if_false] at h ⊢
  split_ifs at h ⊢
  rfl

/-! ## Schemes -/

/-- None of the marks that come after a scheme stands in it. -/
def IsUnmarked (scheme : List Char) : Prop := ∀ c ∈ scheme, c ≠ '/' ∧ c ≠ ':'

/-- Lower case makes a small letter of a character, or leaves it as it is. -/
theorem toLower_cases (c : Char) : c.toLower = c ∨ 0x61 ≤ c.toLower.toNat := by
  unfold Char.toLower
  split
  · rename_i hletter
    have hlow : 65 ≤ c.val.toNat := hletter.1
    have hhigh : c.val.toNat ≤ 90 := hletter.2
    have hsum : (c.val + ('a'.val - 'A'.val)).toNat = c.val.toNat + 32 := by
      rw [UInt32.toNat_add]
      show (c.val.toNat + 32) % 2 ^ 32 = _
      omega
    refine .inr ?_
    show 0x61 ≤ (c.val + ('a'.val - 'A'.val)).toNat
    omega
  · exact .inl rfl

theorem IsUnmarked.toLower {scheme : List Char} (h : IsUnmarked scheme) :
    IsUnmarked (scheme.map Char.toLower) := by
  intro c hc
  obtain ⟨c', hc', rfl⟩ := List.mem_map.1 hc
  rcases toLower_cases c' with heq | hsmall
  · rw [heq]
    exact h c' hc'
  · constructor
    · intro heq
      rw [heq] at hsmall
      exact absurd hsmall (by decide)
    · intro heq
      rw [heq] at hsmall
      exact absurd hsmall (by decide)

theorem isUnmarked_ofText (text : List Char) : IsUnmarked (Written.ofText text).scheme := by
  have hscheme : (Written.ofText text).scheme = (splitScheme text).1 := rfl
  have hmarks : isSchemeChar '/' = false ∧ isSchemeChar ':' = false := by decide
  rw [hscheme, splitScheme]
  split
  · split
    · intro c hc
      have hchar : isSchemeChar c = true := List.all_eq_true.1 List.all_takeWhile c hc
      constructor
      · rintro rfl
        exact absurd hchar (Bool.eq_false_iff.1 hmarks.1)
      · rintro rfl
        exact absurd hchar (Bool.eq_false_iff.1 hmarks.2)
    · nofun
  · nofun

theorem scheme_ofWritten (h : ofWritten w = .ok u) : u.scheme = w.scheme.map Char.toLower := by
  simp only [ofWritten, bind, Except.bind, pure, Except.pure] at h
  repeat' split at h
  all_goals first | (cases h; rfl) | cases h

/-- **The scheme of an address is unmarked.** -/
theorem isUnmarked_parse {text : List Char} (h : parse text = .ok u) : IsUnmarked u.scheme := by
  unfold parse at h
  split at h
  · cases h
  · split at h
    · cases h
    · rw [scheme_ofWritten h]
      exact (isUnmarked_ofText text).toLower

end QuoteService.Url
