import QuoteService.Proofs.Token.Minting

/-!
# Verdicts and what is logged of them

A check gives a verdict, and a validation tells whether the verdict is good and logs it if it is not.

* `Issued`: a token that passes every test up to the one of its issuer.
* `Authority.check_eq_error_iff`: **a check gives no verdict only on such a token, and only if there is no
  path to compare its audience with.**
* `rejection`, `breakdown`: what is logged of a token that is refused, and of a check without a verdict.
* `Authority.validate_faithful`: **a validation is the check told as yes or no**, and its log tells which
  verdict it was.
-/

namespace QuoteService.Token

/-- A token that passes every test up to the one of its issuer, and this one too: it has the scheme; its
header is acceptable and its signature is the one of a key that may sign; its payload has claims of the
right types, its start has been reached and its end has not; and they name this issuer. -/
structure Issued (a : Authority) (now : ℤ) (token : String) (s : Segments)
    (header payload : List (Text × Json)) (c : Claims) : Prop where
  usable : a.usable = true
  token_eq : token.toList = scheme.toList ++ s.toToken
  opens : Opens a.key.bytes s.toToken s header payload
  claims_eq : Claims.wellFormed? payload = some c
  started : notBeforeReached now payload = true
  legible : ∃ v, Json.find? (Text.ofString "exp") payload = some v ∧ (lenientTime? v).isSome = true
  alive : now < 1000 * c.expiresAt
  subject : stringIfPresent "sub" payload = true
  identifier : stringIfPresent "jti" payload = true
  issuer_eq : c.issuer = Text.ofString issuer

/-- What is logged of a token that is refused for a path. -/
def rejection (path : Option String) (failure : Failure) : LogRecord :=
  ⟨.warning, authorityLogger,
    "Rejected bearer token for " ++ Authority.shownPath path ++ ": " ++ failure.value⟩

/-- What is logged of a check that gives no verdict. -/
def breakdown : LogRecord :=
  ⟨.error, authorityLogger, "Unexpected error while validating bearer token"⟩

theorem Failure.value_injective {f f' : Failure} (h : f.value = f'.value) : f = f' := by
  cases f <;> cases f' <;> first | rfl | exact absurd h (by decide)

/-- A path and a failure are logged in words that no other failure has. -/
theorem rejection_injective {path : Option String} {f f' : Failure}
    (h : rejection path f = rejection path f') : f = f' := by
  refine Failure.value_injective ?_
  have hmessage := congrArg LogRecord.message h
  exact String.append_right_inj _ |>.1 hmessage

namespace Authority

variable {a : Authority} {now : ℤ} {token path : Option String} {e : CheckError} {f : Failure}

/-- **The tokens that prove claims of this issuer are the issued ones.** -/
theorem issued_iff {text : String} {c : Claims} :
    a.provenClaims now (some text) = .ok c ∧ c.issuer = Text.ofString issuer ↔
      ∃ s header payload, Issued a now text s header payload c := by
  have halive : hasExpired now c.expiresAt = false ↔ now < 1000 * c.expiresAt := by
    simp [hasExpired]
  constructor
  · rintro ⟨hproven, hissuer⟩
    obtain ⟨husable, cs, s, header, payload, htoken, hopens, hclaims⟩ :=
      provenClaims_eq_ok_iff.1 hproven
    obtain ⟨hwell, hend, hlegible, hstart, hsub, hjti⟩ := Claims.ofPayload_eq_ok_iff.1 hclaims
    obtain rfl := hopens.token_eq
    exact ⟨s, header, payload, husable, htoken, hopens, hwell, hstart, hlegible, halive.1 hend, hsub,
      hjti, hissuer⟩
  · rintro ⟨s, header, payload, h⟩
    have hclaims : Claims.ofPayload now payload = .ok c := Claims.ofPayload_eq_ok_iff.2
      ⟨h.claims_eq, halive.2 h.alive, h.legible, h.started, h.subject, h.identifier⟩
    exact ⟨provenClaims_eq_ok_iff.2
      ⟨h.usable, _, s, header, payload, h.token_eq, h.opens, hclaims⟩, h.issuer_eq⟩

/-- With a path a check always gives a verdict. -/
theorem check_path (a : Authority) (now : ℤ) (token : Option String) (path : String) :
    ∃ verdict, a.check now token (some path) = .ok verdict := by
  unfold check
  split
  · exact ⟨_, rfl⟩
  · split
    · exact ⟨_, rfl⟩
    · simp only
      split
      · exact ⟨_, rfl⟩
      · exact ⟨_, rfl⟩

/-- Without a path a check that comes to the audience gives none. -/
theorem check_noPath : a.check now token none = .error e ↔
    ∃ c, a.provenClaims now token = .ok c ∧ c.issuer = Text.ofString issuer := by
  unfold check
  constructor
  · intro h
    split at h
    · cases h
    · rename_i c hproven
      split at h
      · cases h
      · rename_i hissuer
        exact ⟨c, hproven, not_not.1 hissuer⟩
  · rintro ⟨c, hproven, hissuer⟩
    cases e
    simp [hproven, hissuer]

/-- **A check gives no verdict only on an issued token, and only without a path.** -/
theorem check_eq_error_iff : a.check now token path = .error e ↔
    path = none ∧ ∃ text s header payload c, token = some text ∧
      Issued a now text s header payload c := by
  constructor
  · intro h
    cases path with
    | some path =>
      obtain ⟨verdict, hverdict⟩ := check_path a now token path
      cases h.symm.trans hverdict
    | none =>
      obtain ⟨c, hproven, hissuer⟩ := check_noPath.1 h
      cases token with
      | none => cases hproven
      | some text =>
        obtain ⟨s, header, payload, hissued⟩ := issued_iff.1 ⟨hproven, hissuer⟩
        exact ⟨rfl, text, s, header, payload, c, rfl, hissued⟩
  · rintro ⟨rfl, text, s, header, payload, c, rfl, hissued⟩
    exact check_noPath.2 ⟨c, issued_iff.2 ⟨s, header, payload, hissued⟩⟩

/-! ## Validation -/

/-- **What a validation tells and logs**, by what the check gives. -/
theorem validate_eq (a : Authority) (now : ℤ) (token path : Option String) :
    a.validate now token path =
      match a.check now token path with
      | .ok none => (true, [])
      | .ok (some failure) => (false, [rejection path failure])
      | .error _ => (false, [breakdown]) := by
  unfold validate
  cases a.check now token path with
  | error e => cases e; rfl
  | ok verdict => cases verdict <;> rfl

theorem validate_of_refused (h : a.check now token path = .ok (some f)) :
    a.validate now token path = (false, [rejection path f]) := by
  rw [validate_eq, h]

theorem validate_of_accepted (h : a.check now token path = .ok none) :
    a.validate now token path = (true, []) := by
  rw [validate_eq, h]

/-- **A token is invalid for a path just if there is a reason.** -/
theorem validate_eq_false_iff {path : String} : (a.validate now token (some path)).1 = false ↔
    ∃ failure, a.check now token (some path) = .ok (some failure) := by
  obtain ⟨verdict, h⟩ := check_path a now token path
  cases verdict with
  | none =>
    rw [validate_of_accepted h, h]
    exact ⟨nofun, fun ⟨_, h⟩ => nomatch h⟩
  | some failure =>
    rw [validate_of_refused h]
    exact ⟨fun _ => ⟨failure, h⟩, fun _ => rfl⟩

/-- **A validation is the check told as yes or no.** A check gives no verdict only if it has no path and the
token passes every test up to and including that of the issuer; with a path it always gives one. A token is
valid just if its check finds no failure, and then nothing is logged. Each failure is told as invalid with
one warning that names the path and this failure, and a check without a verdict as invalid with one
error; and no other verdict leaves the same log. -/
theorem validate_faithful (a : Authority) (now : ℤ) (token path : Option String) :
    (∀ text, ∃ verdict, a.check now token (some text) = .ok verdict) ∧
    (∀ e, a.check now token path = .error e ↔ path = none ∧
      ∃ text s header payload c, token = some text ∧ Issued a now text s header payload c) ∧
    ((a.validate now token path).1 = true ↔ a.check now token path = .ok none) ∧
    (a.validate now token path = (true, []) ↔ a.check now token path = .ok none) ∧
    (∀ failure, a.validate now token path = (false, [rejection path failure]) ↔
      a.check now token path = .ok (some failure)) ∧
    (a.validate now token path = (false, [breakdown]) ↔ ∃ e, a.check now token path = .error e) := by
  refine ⟨check_path a now token, fun e => check_eq_error_iff, ?_⟩
  have hother : ∀ failure, rejection path failure ≠ breakdown := by
    intro failure h
    have hlevel := congrArg LogRecord.level h
    cases hlevel
  rw [validate_eq]
  cases hcheck : a.check now token path with
  | error e =>
    refine ⟨by simp, by simp, fun failure => ?_, ⟨fun _ => ⟨e, rfl⟩, fun _ => rfl⟩⟩
    simp [(hother failure).symm]
  | ok verdict =>
    cases verdict with
    | none => refine ⟨by simp, by simp, fun failure => by simp, by simp⟩
    | some found =>
      refine ⟨by simp, by simp, fun failure => ?_, by simp [hother found]⟩
      constructor
      · intro h
        simp only [Prod.mk.injEq, List.cons.injEq, true_and, and_true] at h
        rw [rejection_injective h]
      · intro h
        cases h
        rfl

/-- A minted token is valid for its path and logs nothing; without a path its check breaks down, and a
minute later the same validation warns that it has expired. -/
theorem validate_faithful_minted :
    let token := ofLetters.minted 0 60 "/api"
    ofLetters.validate 30000 (some token) (some "/api") = (true, []) ∧
      ofLetters.validate 30000 (some token) none = (false, [breakdown]) ∧
      ofLetters.validate 60000 (some token) (some "/api") = (false,
        [⟨.warning, "fortune.crypto.bearer_token", "Rejected bearer token for /api: expired"⟩]) := by
  intro token
  have hgenerate : ofLetters.generate 0 60 (some "/api") = .ok token := generate_ofLetters "/api"
  have halive : ofLetters.provenClaims 30000 (some token) = .ok (ofLetters.claimsAt 0 60 "/api") :=
    provenClaims_minted rfl hgenerate
  have hexpired : ofLetters.provenClaims 60000 (some token) = .error .expired :=
    provenClaims_minted rfl hgenerate
  obtain ⟨-, -, -, hvalid, -⟩ := validate_faithful ofLetters 30000 (some token) (some "/api")
  obtain ⟨-, hraises, -, -, -, hbreaks⟩ := validate_faithful ofLetters 30000 (some token) none
  obtain ⟨-, -, -, -, hrejects, -⟩ := validate_faithful ofLetters 60000 (some token) (some "/api")
  refine ⟨hvalid.2 ?_, hbreaks.2 ⟨.missingPath, (hraises _).2 ⟨rfl, ?_⟩⟩, ?_⟩
  · rw [check_of_proven halive]
    rfl
  · obtain ⟨s, header, payload, hissued⟩ := issued_iff.1 ⟨halive, rfl⟩
    exact ⟨token, s, header, payload, _, rfl, hissued⟩
  · have hwarning : rejection (some "/api") .expired = ⟨.warning, "fortune.crypto.bearer_token",
        "Rejected bearer token for /api: expired"⟩ := by decide
    rw [← hwarning]
    refine (hrejects .expired).2 ?_
    rw [check, hexpired]

end Authority

end QuoteService.Token
