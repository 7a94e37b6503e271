import QuoteService.Proofs.Token.Acceptance

/-!
# Minting and checking

* `Authority.generate_eq_ok_iff`: when a token is minted, and which.
* `Authority.check_minted`: **what a check answers to a minted token**, at any time, for any path and
  under any authority of the same key.
* `Authority.mints_iff_looksPublic`: **tokens are minted and accepted exactly if the key does not look
  public**, which is not asked when an authority is made.
-/

namespace QuoteService.Token.Authority

variable {a b : Authority} {t u expiresIn : ℤ} {path token : String}

/-- **When a token is minted, and which**: the times can be written, and the key may sign. -/
theorem generate_eq_ok_iff : a.generate t expiresIn (some path) = .ok token ↔
    writable (t.tdiv 1000) = true ∧ writable (t.tdiv 1000 + expiresIn) = true ∧ a.usable = true ∧
      token = a.minted t expiresIn path := by
  have hiat : (a.claimsAt t expiresIn path).issuedAt = t.tdiv 1000 := rfl
  have hexp : (a.claimsAt t expiresIn path).expiresAt = t.tdiv 1000 + expiresIn := rfl
  unfold generate
  simp only [hiat, hexp]
  split
  · rename_i h
    refine ⟨nofun, fun ⟨hi, he, _⟩ => ?_⟩
    rw [hi, he] at h
    rcases h with h | h <;> cases h
  · rename_i h
    rw [not_or, Bool.not_eq_false, Bool.not_eq_false] at h
    split
    · rename_i hu
      exact ⟨nofun, fun ⟨_, _, hu', _⟩ => absurd hu' (by rw [hu]; decide)⟩
    · rename_i hu
      rw [Bool.not_eq_false] at hu
      rw [Except.ok.injEq]
      exact ⟨fun he => ⟨h.1, h.2, hu, he.symm⟩, fun he => he.2.2.2.symm⟩

/-- The authority of letters mints a token for the first minute, for any path. -/
theorem generate_ofLetters (path : String) :
    ofLetters.generate 0 60 (some path) = .ok (ofLetters.minted 0 60 path) :=
  generate_eq_ok_iff.2 ⟨by decide +kernel, by decide +kernel, usable_ofLetters, rfl⟩

/-- A minted token proves its claims to any authority of the key, until it expires. -/
theorem provenClaims_minted (hkey : a.key.bytes = b.key.bytes)
    (h : a.generate t expiresIn (some path) = .ok token) :
    b.provenClaims u (some token) =
      if hasExpired u (t.tdiv 1000 + expiresIn) then .error .expired
      else .ok (a.claimsAt t expiresIn path) := by
  obtain ⟨hiat, hexp, hu, rfl⟩ := generate_eq_ok_iff.1 h
  have hopens := opens_minted a path hiat hexp
  have hopen : openSigned b.key.bytes b.usable
      (sign a.key.bytes (a.claimsAt t expiresIn path).toJson).toToken =
        .ok (a.claimsAt t expiresIn path).members := by
    rw [← hkey, ← usable_congr hkey]
    exact openSigned_eq_ok_iff.2 ⟨hu, _, _, hopens⟩
  rw [provenClaims_scheme _ toList_minted, hopen]
  exact Claims.ofPayload_members u _

/-- The audience of a minted token names the paths that it equals up to letter case. -/
theorem namesPath_claimsAt {p₁ p₂ : String} :
    b.namesPath (a.claimsAt t expiresIn p₁).audience p₂ = true ↔
      Text.lower (joinPath a.publicHost.toList p₁.toList) =
        Text.lower (joinPath b.publicHost.toList p₂.toList) := by
  rw [namesPath_iff]
  constructor
  · rintro ⟨cs, hcs, h⟩
    obtain rfl : a.audienceFor p₁ = cs := by
      have := congrArg Text.scalars hcs
      rwa [claimsAt, Text.scalars_ofChars, Text.scalars_ofChars] at this
    exact h
  · exact fun h => ⟨_, rfl, h⟩

/-- Once the claims of a minted token are proved, only its audience is left to be compared. -/
theorem check_of_proven {p₁ p₂ : String} (h : b.provenClaims u (some token) =
    .ok (a.claimsAt t expiresIn p₁)) :
    b.check u (some token) (some p₂) = .ok (
      if Text.lower (joinPath a.publicHost.toList p₁.toList) ≠
          Text.lower (joinPath b.publicHost.toList p₂.toList) then some .audienceMismatch
      else none) := by
  have hissuer : (a.claimsAt t expiresIn p₁).issuer = Text.ofString issuer := rfl
  rw [check, h]
  simp only [hissuer, ne_eq, not_true_eq_false, if_false, namesPath_claimsAt]
  by_cases hlower : Text.lower (joinPath a.publicHost.toList p₁.toList) =
      Text.lower (joinPath b.publicHost.toList p₂.toList)
  · rw [if_pos hlower, if_neg (not_not.2 hlower)]
  · rw [if_neg hlower, if_pos hlower]

/-- **What a check answers to a minted token.** The time of issue is cut off to a second, the end of
validity is compared exactly, and it is compared before the audience is. -/
theorem check_minted (a b : Authority) (t u expiresIn : ℤ) (p₁ p₂ token : String)
    (hkey : a.key.bytes = b.key.bytes) (h : a.generate t expiresIn (some p₁) = .ok token) :
    b.check u (some token) (some p₂) = .ok (
      if 1000 * (t.tdiv 1000 + expiresIn) ≤ u then some .expired
      else if Text.lower (joinPath a.publicHost.toList p₁.toList) ≠
          Text.lower (joinPath b.publicHost.toList p₂.toList) then some .audienceMismatch
      else none) := by
  have hproven := provenClaims_minted (u := u) hkey h
  -- the audience is looked at only while the token lives
  by_cases hexpired : 1000 * (t.tdiv 1000 + expiresIn) ≤ u
  · rw [hasExpired, decide_eq_true hexpired, if_pos rfl] at hproven
    rw [if_pos hexpired, check, hproven]
  · rw [hasExpired, decide_eq_false hexpired, if_neg Bool.false_ne_true] at hproven
    rw [if_neg hexpired, check_of_proven hproven]

/-- A token of one host is refused by another one as long as it lives, and expired from then on. -/
theorem check_minted_letters :
    let other : Authority := ⟨ofLetters.key, "other.example"⟩
    ∃ token, ofLetters.generate 1999 60 (some "/api") = .ok token ∧
      ofLetters.check 60999 (some token) (some "api") = .ok none ∧
      other.check 60999 (some token) (some "api") = .ok (some .audienceMismatch) ∧
      other.check 61000 (some token) (some "api") = .ok (some .expired) := by
  have h : ofLetters.generate 1999 60 (some "/api") = .ok (ofLetters.minted 1999 60 "/api") :=
    generate_eq_ok_iff.2 ⟨by decide +kernel, by decide +kernel, usable_ofLetters, rfl⟩
  intro other
  have hother := fun u => check_minted ofLetters other 1999 u 60 "/api" "api" _ rfl h
  refine ⟨_, h, ?_, ?_, ?_⟩
  · rw [check_minted ofLetters ofLetters 1999 60999 60 "/api" "api" _ rfl h]
    decide +kernel
  · rw [hother]
    decide +kernel
  · rw [hother]
    decide +kernel

/-! ## Keys that start a service and sign nothing -/

theorem create_eq_ok_iff {text : Option String} {host : String} : create text host = .ok a ↔
    ∃ key, SigningKey.decode text = .ok key ∧ a = ⟨key, host⟩ := by
  unfold create
  cases SigningKey.decode text with
  | error e => exact ⟨nofun, nofun⟩
  | ok key =>
    exact ⟨fun h => ⟨key, rfl, (Except.ok.inj h).symm⟩, fun ⟨_, hk, ha⟩ => by cases hk; rw [ha]; rfl⟩

/-- No token is accepted under a key that looks public. -/
theorem check_ne_none_of_looksPublic (h : looksPublic a.key.bytes = true) (u : ℤ)
    (token : Option String) (path : String) : a.check u token (some path) ≠ .ok none := by
  intro hnone
  obtain ⟨c, hc, -, -⟩ := check_eq_none_iff.1 hnone
  cases token with
  | none => cases hc
  | some token =>
    have hu := (provenClaims_eq_ok_iff.1 hc).1
    rw [usable, h] at hu
    cases hu

/-- **An authority mints tokens exactly if its key does not look public**: then each of them is
accepted for its path until it expires, and else none is minted and none is accepted, although the
authority was made. -/
theorem mints_iff_looksPublic (text : Option String) (host : String) (a : Authority)
    (h : create text host = .ok a) (t expiresIn : ℤ) (path : String) :
    a.publicHost = host ∧
    ((∃ token, a.generate t expiresIn (some path) = .ok token ∧
        ∀ u, u < 1000 * (t.tdiv 1000 + expiresIn) →
          a.check u (some token) (some path) = .ok none) ↔
      looksPublic a.key.bytes = false ∧ writable (t.tdiv 1000) = true ∧
        writable (t.tdiv 1000 + expiresIn) = true) ∧
    (looksPublic a.key.bytes = true → (∀ token, a.generate t expiresIn (some path) ≠ .ok token) ∧
      ∀ u token, a.check u token (some path) ≠ .ok none) := by
  have hhost : a.publicHost = host := by
    obtain ⟨key, -, rfl⟩ := create_eq_ok_iff.1 h
    rfl
  have husable : a.usable = true ↔ looksPublic a.key.bytes = false := by
    rw [usable, Bool.not_eq_true']
  refine ⟨hhost, ⟨?_, ?_⟩, fun hpublic => ⟨fun token hgen => ?_, fun u token =>
    check_ne_none_of_looksPublic hpublic u token path⟩⟩
  · rintro ⟨token, hgen, -⟩
    obtain ⟨hiat, hexp, hu, -⟩ := generate_eq_ok_iff.1 hgen
    exact ⟨husable.1 hu, hiat, hexp⟩
  · rintro ⟨hsecret, hiat, hexp⟩
    have hgen : a.generate t expiresIn (some path) = .ok (a.minted t expiresIn path) :=
      generate_eq_ok_iff.2 ⟨hiat, hexp, husable.2 hsecret, rfl⟩
    refine ⟨_, hgen, fun u hu => ?_⟩
    have hproven := provenClaims_minted (u := u) rfl hgen
    rw [hasExpired, decide_eq_false (by omega), if_neg Bool.false_ne_true] at hproven
    rw [check_of_proven hproven, if_neg (not_not.2 rfl)]
  · obtain ⟨-, -, hu, -⟩ := generate_eq_ok_iff.1 hgen
    rw [husable.1 hu] at hpublic
    cases hpublic

theorem create_eq_ok {text host : String} {bytes : List UInt8}
    (hblank : Text.isBlankText text.toList = false)
    (hdecode : Base64.decode (Text.trim text.toList) = .ok bytes)
    (hlength : minKeyLength ≤ bytes.length) :
    create (some text) host = .ok ⟨⟨bytes, hlength⟩, host⟩ := by
  refine create_eq_ok_iff.2 ⟨⟨bytes, hlength⟩, ?_, rfl⟩
  simp only [SigningKey.decode, hblank, hdecode, dif_pos hlength, Bool.false_eq_true, if_false]

theorem create_ofLetters :
    create (some (SigningKey.newText (List.replicate 64 0x6B))) "fortune.example" = .ok ofLetters :=
  create_eq_ok (by decide +kernel) (by decide +kernel) ofLetters.key.length_bytes

/-- Letters make an authority whose tokens are accepted. -/
theorem mints_letters :
    create (some (SigningKey.newText (List.replicate 64 0x6B))) "fortune.example" = .ok ofLetters ∧
      ∃ token, ofLetters.generate 0 60 (some "/api") = .ok token ∧
        ofLetters.check 59999 (some token) (some "/api") = .ok none := by
  obtain ⟨token, hgen, hcheck⟩ := (mints_iff_looksPublic _ _ _ create_ofLetters 0 60 "/api").2.1.2
    ⟨by decide +kernel, by decide +kernel, by decide +kernel⟩
  exact ⟨create_ofLetters, token, hgen, hcheck 59999 (by decide)⟩

/-- The start of a public key line makes an authority that mints nothing and accepts nothing. -/
theorem mints_nothing_shell :
    ∃ a, create (some
        "c3NoLXJzYSBBQUFBQUFBQUFBQUFBQUFBQUFBQUFBQUFBQUFBQUFBQUFBQUFBQUFBQUFBQUFBQUFBQUFBQUFBQUFB")
        "fortune.example" = .ok a ∧
      writable 60 = true ∧ a.generate 0 60 (some "/api") = .error .publicKey ∧
      ∀ u token, a.check u token (some "/api") ≠ .ok none := by
  let a : Authority := ⟨⟨Utf8.encodeString "ssh-rsa " ++ List.replicate 58 0x41, by decide⟩,
    "fortune.example"⟩
  have hpublic : looksPublic a.key.bytes = true := by decide +kernel
  have hiat : writable ((0 : ℤ).tdiv 1000) = true := by decide +kernel
  have hexp : writable ((0 : ℤ).tdiv 1000 + 60) = true := by decide +kernel
  refine ⟨a, create_eq_ok (by decide +kernel) (by decide +kernel) _, hexp, ?_, fun u token =>
    check_ne_none_of_looksPublic hpublic u token "/api"⟩
  simp only [generate, claimsAt, hiat, hexp, usable, hpublic, Bool.true_eq_false, or_self, if_false,
    Bool.not_true, if_true]

end QuoteService.Token.Authority
