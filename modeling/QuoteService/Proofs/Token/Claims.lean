import QuoteService.Proofs.Text.Numerals
import QuoteService.Token.Claims

/-!
# What claims are taken from

Two readers look at the end of validity, and a token is alive by what one of them reads while its
claims carry what the other one reads.

* `lenientTime?_eq_of_claimTime?`: **both readers of a time agree on what both take.**
* `Claims.wellFormed?_eq_some_iff`: which members make claims.
* `Claims.ofPayload_eq_ok_iff`: **when a payload gives claims, and which.**
-/

namespace QuoteService.Token

theorem truncate?_of_integer? {x : Double} {n : ℤ} (h : x.integer? = some n) :
    x.truncate? = some n := by
  cases x with
  | finite negative m e =>
    rw [Double.integer?] at h
    rw [Double.truncate?]
    split at h
    · rename_i he
      rw [if_pos he]
      split at h
      · exact h
      · cases h
    · rename_i he
      rw [if_neg he]
      exact h
  | infinite _ => cases h
  | nan => cases h

/-- **Both readers of a time agree on what both take.** -/
theorem lenientTime?_eq_of_claimTime? {v : Json} {m n : ℤ} (hl : lenientTime? v = some m)
    (hc : claimTime? v = some n) : m = n := by
  cases v with
  | int k => exact Option.some.inj (hl.symm.trans hc)
  | bool b => exact Option.some.inj (hl.symm.trans hc)
  | float x =>
    have hint : x.integer? = some n := (Option.filter_eq_some_iff.1 hc).1
    exact Option.some.inj (hl.symm.trans (truncate?_of_integer? hint))
  | str t =>
    obtain ⟨cs, hcs, hplain⟩ := Option.bind_eq_some_iff.1 hc
    obtain ⟨ds, hds, hlenient⟩ := Option.bind_eq_some_iff.1 hl
    obtain rfl := Option.some.inj (hcs.symm.trans hds)
    exact Text.lenientInt?_eq_of_plainInt? hplain hlenient
  | null => cases hl
  | arr _ => cases hl
  | obj _ => cases hl

theorem string?_eq_some_iff {v : Json} {t : Text} : string? v = some t ↔ v = .str t := by
  cases v <;> simp [string?]

theorem required?_eq_some_iff {name : String} {payload : List (Text × Json)} {v : Json} :
    required? name payload = some v ↔
      Json.find? (Text.ofString name) payload = some v ∧ v ≠ .null := by
  unfold required?
  split
  · rename_i h
    rw [h]
    exact ⟨nofun, fun ⟨hv, hnull⟩ => absurd (Option.some.inj hv).symm hnull⟩
  · rename_i hnull
    exact ⟨fun h => ⟨h, fun hv => hnull (hv ▸ h)⟩, fun h => h.1⟩

theorem claimTime?_ne_null {v : Json} {n : ℤ} (h : claimTime? v = some n) : v ≠ .null := by
  rintro rfl; cases h

namespace Claims

/-- The members that make claims. -/
theorem wellFormed?_eq_some_iff {payload : List (Text × Json)} {c : Claims} :
    wellFormed? payload = some c ↔
      Json.find? (Text.ofString "iss") payload = some (.str c.issuer) ∧
      Json.find? (Text.ofString "aud") payload = some (.str c.audience) ∧
      (∃ v, Json.find? (Text.ofString "iat") payload = some v ∧ claimTime? v = some c.issuedAt) ∧
      ∃ v, Json.find? (Text.ofString "exp") payload = some v ∧ claimTime? v = some c.expiresAt := by
  simp only [wellFormed?, Option.bind_eq_bind, Option.bind_eq_some_iff, string?_eq_some_iff,
    Option.pure_def, Option.some.injEq]
  constructor
  · rintro ⟨issuer, ⟨_, hiss, rfl⟩, audience, ⟨_, haud, rfl⟩, issuedAt, hiat, expiresAt, hexp, rfl⟩
    exact ⟨hiss, haud, hiat, hexp⟩
  · rintro ⟨hiss, haud, hiat, hexp⟩
    exact ⟨_, ⟨_, hiss, rfl⟩, _, ⟨_, haud, rfl⟩, _, hiat, _, hexp, rfl⟩

/-- **When a payload gives claims, and which.** The end of validity is compared as it is claimed,
although another reader decides. -/
theorem ofPayload_eq_ok_iff {now : ℤ} {payload : List (Text × Json)} {c : Claims} :
    ofPayload now payload = .ok c ↔
      wellFormed? payload = some c ∧ hasExpired now c.expiresAt = false ∧
      (∃ v, Json.find? (Text.ofString "exp") payload = some v ∧ (lenientTime? v).isSome) ∧
      notBeforeReached now payload = true ∧ stringIfPresent "sub" payload = true ∧
      stringIfPresent "jti" payload = true := by
  constructor
  · intro h
    unfold ofPayload at h
    split at h
    · rename_i exp hiss haud hiat hexp
      split at h
      · cases h
      · rename_i hstart
        split at h
        · cases h
        · rename_i s hs
          split at h
          · cases h
          · rename_i halive
            split at h
            · cases h
            · rename_i hoptional
              rw [not_or, Bool.not_eq_false, Bool.not_eq_false] at hoptional
              split at h
              · cases h
              · rename_i claims hclaims
                cases h
                -- the time that was compared is the one that is claimed
                have hexp := (required?_eq_some_iff.1 hexp).1
                obtain ⟨-, -, -, v, hv, hn⟩ := wellFormed?_eq_some_iff.1 hclaims
                obtain rfl := Option.some.inj (hexp.symm.trans hv)
                obtain rfl := lenientTime?_eq_of_claimTime? hs hn
                exact ⟨hclaims, by simpa using halive, ⟨exp, hexp, by rw [hs]; rfl⟩,
                  by simpa using hstart, hoptional.1, hoptional.2⟩
    · cases h
  · rintro ⟨hclaims, halive, ⟨exp, hexp, htime⟩, hstart, hsub, hjti⟩
    obtain ⟨hiss, haud, ⟨iat, hiat, hi⟩, v, hv, hn⟩ := wellFormed?_eq_some_iff.1 hclaims
    obtain rfl := Option.some.inj (hexp.symm.trans hv)
    obtain ⟨s, hs⟩ := Option.isSome_iff_exists.1 htime
    obtain rfl := lenientTime?_eq_of_claimTime? hs hn
    unfold ofPayload
    rw [required?_eq_some_iff.2 ⟨hiss, nofun⟩, required?_eq_some_iff.2 ⟨haud, nofun⟩,
      required?_eq_some_iff.2 ⟨hiat, claimTime?_ne_null hi⟩,
      required?_eq_some_iff.2 ⟨hexp, claimTime?_ne_null hn⟩]
    simp [hs, hclaims, halive, hstart, hsub, hjti]

end Claims

end QuoteService.Token
