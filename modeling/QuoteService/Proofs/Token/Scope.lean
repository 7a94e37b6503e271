import QuoteService.Proofs.Token.Audience
import QuoteService.Proofs.Token.Lifetime
import QuoteService.Proofs.Token.Minting

/-!
# What a token is for

A token names one host and one path, and letter case is all that may differ when it is checked.

* `Authority.sameAudience_of_check`: paths that one token is accepted for have the same audience.
* `Authority.accepted_of_generate`: a minted token is accepted for its path at some time.
* `Authority.check_longer_ne_none`: a token for a path is never accepted for a longer one.
* `Authority.scoped_audiences`: **a token is for one host and one path**, up to letter case and one slash
  at the end of the host and at the start of the path.
-/

namespace QuoteService.Token.Authority

variable {a : Authority} {u v t expiresIn : ℤ} {path path' : String} {token : Option String}

/-- **Paths that one token is accepted for have the same audience**, though it be at different times. -/
theorem sameAudience_of_check (h : a.check u token (some path) = .ok none)
    (h' : a.check v token (some path') = .ok none) :
    Text.lower (a.audienceFor path) = Text.lower (a.audienceFor path') := by
  obtain ⟨c, hproven, -, hpath⟩ := check_eq_none_iff.1 h
  obtain ⟨c', hproven', -, hpath'⟩ := check_eq_none_iff.1 h'
  obtain rfl := provenClaims_unique hproven hproven'
  obtain ⟨cs, hcs, hlower⟩ := namesPath_iff.1 hpath
  obtain ⟨cs', hcs', hlower'⟩ := namesPath_iff.1 hpath'
  have hsame : cs = cs' := by
    rw [← Text.scalars_ofChars cs, ← hcs, hcs', Text.scalars_ofChars]
  rw [← hlower, ← hlower', hsame]

/-- A minted token is accepted for its path right before it expires, if at no other time. -/
theorem accepted_of_generate {token : String} (h : a.generate t expiresIn (some path) = .ok token) :
    ∃ u, a.check u (some token) (some path) = .ok none := by
  refine ⟨1000 * (t.tdiv 1000 + expiresIn) - 1, ?_⟩
  have hproven := provenClaims_minted (u := 1000 * (t.tdiv 1000 + expiresIn) - 1) rfl h
  have halive : hasExpired (1000 * (t.tdiv 1000 + expiresIn) - 1) (t.tdiv 1000 + expiresIn) = false := by
    rw [hasExpired, decide_eq_false_iff_not]
    omega
  rw [halive, if_neg Bool.false_ne_true] at hproven
  rw [check_of_proven hproven, if_neg (not_not.2 rfl)]

/-- **A token that is accepted for a path is never accepted for a longer one.** -/
theorem check_longer_ne_none (hpath : path ≠ "") (hlonger : path.toList <+: path'.toList)
    (hne : path ≠ path') (h : a.check u token (some path) = .ok none) :
    a.check v token (some path') ≠ .ok none := by
  intro h'
  have hsame := sameAudience_of_check h h'
  obtain ⟨rest, hrest⟩ := hlonger
  have hchars : path.toList ≠ [] := fun hnil => hpath (String.toList_inj.1 hnil)
  have hmore : rest ≠ [] := by
    rintro rfl
    rw [List.append_nil] at hrest
    exact hne (String.toList_inj.1 hrest)
  rw [audienceFor, audienceFor, ← hrest] at hsame
  exact lower_joinPath_extension hchars hmore hsame

/-- **A token is for one host and one path.** The audiences of two paths on one host are the same up to
letter case exactly if the paths are, each without one slash at its start; those on two hosts without
slashes exactly if the hosts are as well, each without the slash at its end. So a token that was minted
for a path or has ever been accepted for it, unless the path is empty, is never accepted for a longer
one. -/
theorem scoped_audiences :
    (∀ host path path' : List Char,
      Text.lower (joinPath host path) = Text.lower (joinPath host path') ↔
        Text.lower (dropLeadingSlash path) = Text.lower (dropLeadingSlash path')) ∧
    (∀ host host' path path' : List Char, '/' ∉ dropTrailingSlash host →
      '/' ∉ dropTrailingSlash host' →
      (Text.lower (joinPath host path) = Text.lower (joinPath host' path') ↔
        Text.lower (dropTrailingSlash host) = Text.lower (dropTrailingSlash host') ∧
          Text.lower (dropLeadingSlash path) = Text.lower (dropLeadingSlash path'))) ∧
    ∀ (a : Authority) (path path' token : String), path ≠ "" → path.toList <+: path'.toList →
      path ≠ path' →
      (∃ t expiresIn, a.generate t expiresIn (some path) = .ok token) ∨
        (∃ u, a.check u (some token) (some path) = .ok none) →
      ∀ v, a.check v (some token) (some path') ≠ .ok none := by
  refine ⟨lower_joinPath_eq_iff, fun host host' path path' h h' => lower_joinPath_eq_iff_hosts h h', ?_⟩
  intro a path path' token hpath hlonger hne hfor v
  have haccepted : ∃ u, a.check u (some token) (some path) = .ok none := by
    rcases hfor with ⟨t, expiresIn, hgen⟩ | haccepted
    · exact accepted_of_generate hgen
    · exact haccepted
  obtain ⟨u, hu⟩ := haccepted
  exact check_longer_ne_none hpath hlonger hne hu

/-- A host that ends with a sigma and a slash is the same as that host in small letters, whose sigma is
the final one; and a token for a path is not accepted for the path with a slash at its end. -/
theorem scoped_audiences_sigma :
    Text.lower (joinPath "ΟΔΟΣ/".toList "/API".toList) =
      Text.lower (joinPath "οδος".toList "api".toList) ∧
    ∃ token, ofLetters.generate 0 60 (some "/api") = .ok token ∧
      ∀ v, ofLetters.check v (some token) (some "/api/") ≠ .ok none := by
  obtain ⟨-, hhosts, hlonger⟩ := scoped_audiences
  have hgen : ofLetters.generate 0 60 (some "/api") = .ok (ofLetters.minted 0 60 "/api") :=
    generate_ofLetters "/api"
  refine ⟨(hhosts _ _ _ _ (by decide) (by decide)).2 ⟨by decide +kernel, by decide +kernel⟩, _, hgen, ?_⟩
  exact hlonger ofLetters "/api" "/api/" _ (by decide) ⟨['/'], rfl⟩ (by decide) (.inl ⟨0, 60, hgen⟩)

end QuoteService.Token.Authority
