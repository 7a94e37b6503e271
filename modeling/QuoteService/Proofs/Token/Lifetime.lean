import QuoteService.Proofs.Token.Acceptance

/-!
# The life of a token

One text is looked at by several clocks. What it says does not depend on the clock; only its start and
its end are compared with it.

* `Lifetime`: the times from a start, if there is one, up to an end.
* `Claims.ofPayload_lifetime`: a payload gives its claims during one lifetime and at no other time.
* `Claims.ofPayload_expired_mono`: a payload that has expired stays so.
* `Authority.check_eq_none_lifetime`: **a token that is accepted once is accepted during one lifetime.**
* `Authority.check_over_time`: **expiry is final, acceptance has no gap**, and without a start it has no
  beginning.
-/

namespace QuoteService.Token

/-- The times, in seconds, from a start up to an end. -/
structure Lifetime where
  start : Option ℤ
  finish : ℤ

namespace Lifetime

variable {l : Lifetime} {u v w : ℤ}

/-- A clock of milliseconds shows a time of the lifetime: the start has been reached and the end has
not. -/
def Includes (l : Lifetime) (now : ℤ) : Prop :=
  (∀ s, l.start = some s → 1000 * s ≤ now) ∧ now < 1000 * l.finish

/-- **A lifetime has no gap.** -/
theorem Includes.between (hu : l.Includes u) (hw : l.Includes w) (huv : u ≤ v) (hvw : v ≤ w) :
    l.Includes v := by
  refine ⟨fun s hs => ?_, ?_⟩
  · have := hu.1 s hs
    omega
  · have := hw.2
    omega

/-- A lifetime without a start has been going on for ever. -/
theorem Includes.earlier (hstart : l.start = none) (hv : l.Includes v) (huv : u ≤ v) :
    l.Includes u := by
  refine ⟨fun s hs => ?_, ?_⟩
  · rw [hstart] at hs
    cases hs
  · have := hv.2
    omega

end Lifetime

/-! ## Payloads -/

/-- The lifetime that a payload names beside the end of its claims. -/
def lifetimeOf (payload : List (Text × Json)) (finish : ℤ) : Lifetime :=
  ⟨(Json.find? (Text.ofString "nbf") payload).bind lenientTime?, finish⟩

namespace Claims

variable {payload : List (Text × Json)} {c : Claims} {u v : ℤ}

theorem notBeforeReached_mono (h : notBeforeReached u payload = true) (huv : u ≤ v) :
    notBeforeReached v payload = true := by
  unfold notBeforeReached at h ⊢
  split
  · rfl
  · rename_i start hstart
    simp only [hstart] at h
    cases hs : lenientTime? start with
    | none =>
      rw [hs] at h
      cases h
    | some s =>
      simp only [hs, started, decide_eq_true_eq] at h ⊢
      omega

theorem hasExpired_mono {s : ℤ} (h : hasExpired u s = true) (huv : u ≤ v) :
    hasExpired v s = true := by
  simp only [hasExpired, decide_eq_true_eq] at h ⊢
  omega

/-- The start of validity has been reached at a time, if it is no text or thing that is no time. -/
theorem notBeforeReached_iff : notBeforeReached u payload = true ↔
    ((Json.find? (Text.ofString "nbf") payload).all fun start => (lenientTime? start).isSome) = true ∧
      ∀ s, (Json.find? (Text.ofString "nbf") payload).bind lenientTime? = some s → 1000 * s ≤ u := by
  unfold notBeforeReached
  cases hfound : Json.find? (Text.ofString "nbf") payload with
  | none => simp
  | some start => cases hs : lenientTime? start <;> simp [hs, started]

/-- **A payload gives its claims during one lifetime and at no other time.** -/
theorem ofPayload_lifetime (h : ofPayload u payload = .ok c) :
    ofPayload v payload = .ok c ↔ (lifetimeOf payload c.expiresAt).Includes v := by
  obtain ⟨hclaims, -, hexp, hstart, hsub, hjti⟩ := ofPayload_eq_ok_iff.1 h
  obtain ⟨htime, -⟩ := notBeforeReached_iff.1 hstart
  have halive : hasExpired v c.expiresAt = false ↔ v < 1000 * c.expiresAt := by
    simp [hasExpired]
  constructor
  · intro hv
    obtain ⟨-, hend, -, hreached, -, -⟩ := ofPayload_eq_ok_iff.1 hv
    exact ⟨(notBeforeReached_iff.1 hreached).2, halive.1 hend⟩
  · rintro ⟨hreached, hend⟩
    exact ofPayload_eq_ok_iff.2
      ⟨hclaims, halive.2 hend, hexp, notBeforeReached_iff.2 ⟨htime, hreached⟩, hsub, hjti⟩

/-- **When a payload has expired**: nothing that is required is missing, the start has been reached, and
so has the end. -/
theorem ofPayload_eq_expired_iff : ofPayload u payload = .error .expired ↔
    (required? "iss" payload).isSome = true ∧ (required? "aud" payload).isSome = true ∧
    (required? "iat" payload).isSome = true ∧ notBeforeReached u payload = true ∧
    ∃ exp s, required? "exp" payload = some exp ∧ lenientTime? exp = some s ∧
      hasExpired u s = true := by
  constructor
  · intro h
    unfold ofPayload at h
    split at h
    · rename_i exp hiss haud hiat hexp
      split at h
      · cases h
      · rename_i hstart
        split at h
        · cases h
        · rename_i s hs
          split at h
          · rename_i hend
            rw [Bool.not_eq_false] at hstart
            rw [hiss, haud, hiat]
            exact ⟨rfl, rfl, rfl, hstart, exp, s, hexp, hs, hend⟩
          · -- what comes after the end is never told as expired
            split at h
            · cases h
            · split at h <;> cases h
    · cases h
  · rintro ⟨hiss, haud, hiat, hstart, exp, s, hexp, hs, hend⟩
    obtain ⟨iss, hiss⟩ := Option.isSome_iff_exists.1 hiss
    obtain ⟨aud, haud⟩ := Option.isSome_iff_exists.1 haud
    obtain ⟨iat, hiat⟩ := Option.isSome_iff_exists.1 hiat
    unfold ofPayload
    rw [hiss, haud, hiat, hexp]
    simp only [hstart, hs, hend, Bool.true_eq_false, if_false, if_true]

/-- **A payload that has expired stays so.** -/
theorem ofPayload_expired_mono (h : ofPayload u payload = .error .expired) (huv : u ≤ v) :
    ofPayload v payload = .error .expired := by
  obtain ⟨hiss, haud, hiat, hstart, exp, s, hexp, hs, hend⟩ := ofPayload_eq_expired_iff.1 h
  exact ofPayload_eq_expired_iff.2 ⟨hiss, haud, hiat, notBeforeReached_mono hstart huv, exp, s, hexp,
    hs, hasExpired_mono hend huv⟩

end Claims

/-! ## Tokens -/

/-- The members of the payload that a text carries if it has the form of a token, whoever signed it. -/
def carriedPayload? (token : String) : Option (List (Text × Json)) :=
  (Authority.afterPrefix? scheme.toList token.toList).bind fun cs =>
    (Segments.ofToken? cs).bind fun s => (Base64.decodeUrl s.payload).bind object?

/-- A token that is opened carries the payload that it is opened to. -/
theorem Opens.carriedPayload?_eq {key : List UInt8} {cs : List Char} {s : Segments}
    {header payload : List (Text × Json)} {token : String} (h : Opens key cs s header payload)
    (htoken : token.toList = scheme.toList ++ cs) : carriedPayload? token = some payload := by
  have hsegments : Segments.ofToken? cs = some s :=
    Segments.ofToken?_eq_some_iff.2 ⟨h.token_eq, h.points.1, h.points.2.2⟩
  rw [carriedPayload?, Authority.afterPrefix?_eq_some_iff.2 htoken, Option.bind_some, hsegments,
    Option.bind_some, h.payload_eq]

namespace Authority

variable {a : Authority} {u v w : ℤ} {token : String} {path : Option String}

/-- What a token that is opened proves is what its payload gives. -/
theorem provenClaims_opens {cs : List Char} {s : Segments} {header payload : List (Text × Json)}
    (husable : a.usable = true) (hopens : Opens a.key.bytes cs s header payload)
    (htoken : token.toList = scheme.toList ++ cs) (now : ℤ) :
    a.provenClaims now (some token) = Claims.ofPayload now payload := by
  rw [provenClaims_scheme cs htoken, openSigned_eq_ok_iff.2 ⟨husable, s, header, hopens⟩]
  rfl

/-- **What a token proves, it takes from the payload that it carries**, at every time alike. -/
theorem provenClaims_payload {c : Claims} (h : a.provenClaims u (some token) = .ok c) :
    ∃ payload, carriedPayload? token = some payload ∧
      ∀ v, a.provenClaims v (some token) = Claims.ofPayload v payload := by
  obtain ⟨husable, cs, s, header, payload, htoken, hopens, -⟩ := provenClaims_eq_ok_iff.1 h
  refine ⟨payload, hopens.carriedPayload?_eq htoken, fun v => ?_⟩
  exact provenClaims_opens husable hopens htoken v

/-- **The claims that a token proves do not change with time.** -/
theorem provenClaims_unique {token : Option String} {c c' : Claims}
    (h : a.provenClaims u token = .ok c) (h' : a.provenClaims v token = .ok c') : c = c' := by
  cases token with
  | none => cases h
  | some token =>
    obtain ⟨payload, -, hproves⟩ := provenClaims_payload h
    rw [hproves] at h h'
    obtain ⟨hwell, -⟩ := Claims.ofPayload_eq_ok_iff.1 h
    obtain ⟨hwell', -⟩ := Claims.ofPayload_eq_ok_iff.1 h'
    exact Option.some.inj (hwell.symm.trans hwell')

/-- Opening a token is never refused for the time. -/
theorem openSigned_ne_expired (key : List UInt8) (usable : Bool) (cs : List Char) :
    openSigned key usable cs ≠ .error .expired := by
  intro h
  unfold openSigned at h
  split at h
  · cases h
  · split at h
    · split at h
      · cases h
      · split at h
        · cases h
        · split at h <;> cases h
    · cases h

/-- A token that has expired carries a payload that has. -/
theorem provenClaims_eq_expired {token : Option String}
    (h : a.provenClaims u token = .error .expired) :
    ∃ payload, Claims.ofPayload u payload = .error .expired ∧
      ∀ v, a.provenClaims v token = Claims.ofPayload v payload := by
  unfold provenClaims at h
  split at h
  · cases h
  · rename_i s
    split at h
    · cases h
    · rename_i hblank
      split at h
      · cases h
      · rename_i cs hcs
        split at h
        · rename_i failure hfailure
          cases h
          exact absurd hfailure (openSigned_ne_expired _ _ cs)
        · rename_i payload hpayload
          refine ⟨payload, h, fun v => ?_⟩
          rw [provenClaims_scheme cs (afterPrefix?_eq_some_iff.1 hcs), hpayload]
          rfl

/-- A token that proves claims is refused for its issuer or its audience alone. -/
theorem check_ne_expired_of_proven {token : Option String} {c : Claims}
    (h : a.provenClaims u token = .ok c) : a.check u token path ≠ .ok (some .expired) := by
  intro hexpired
  simp only [check, h] at hexpired
  by_cases hissuer : c.issuer = Text.ofString issuer
  · rw [if_neg (not_not.2 hissuer)] at hexpired
    cases path with
    | none => cases hexpired
    | some path => cases hpath : a.namesPath c.audience path <;> simp [hpath] at hexpired
  · rw [if_pos hissuer] at hexpired
    cases hexpired

theorem check_eq_expired_iff {token : Option String} :
    a.check u token path = .ok (some .expired) ↔ a.provenClaims u token = .error .expired := by
  cases hproven : a.provenClaims u token with
  | error failure => simp [check, hproven]
  | ok c =>
    constructor
    · intro h
      exact absurd h (check_ne_expired_of_proven hproven)
    · intro h
      cases h

/-- Without a path nothing is accepted. -/
theorem check_noPath_ne_none (token : Option String) : a.check u token none ≠ .ok none := by
  intro h
  cases hproven : a.provenClaims u token with
  | error failure => simp [check, hproven] at h
  | ok c => by_cases hissuer : c.issuer = Text.ofString issuer <;> simp [check, hproven, hissuer] at h

/-- **A token that is accepted once is accepted during one lifetime**, whose start is the one that its
payload names. -/
theorem check_eq_none_lifetime (h : a.check u (some token) path = .ok none) :
    ∃ (payload : List (Text × Json)) (l : Lifetime), carriedPayload? token = some payload ∧
      (Json.find? (Text.ofString "nbf") payload = none → l.start = none) ∧
      ∀ v, a.check v (some token) path = .ok none ↔ l.Includes v := by
  cases path with
  | none => exact absurd h (check_noPath_ne_none _)
  | some path =>
    obtain ⟨c, hproven, hissuer, hpath⟩ := check_eq_none_iff.1 h
    obtain ⟨payload, hcarried, hproves⟩ := provenClaims_payload hproven
    have hclaims : Claims.ofPayload u payload = .ok c := by rw [← hproves u, hproven]
    refine ⟨payload, lifetimeOf payload c.expiresAt, hcarried, ?_, ?_⟩
    · intro hnone
      rw [lifetimeOf, hnone]
      rfl
    · intro v
      rw [check_eq_none_iff, ← Claims.ofPayload_lifetime hclaims, ← hproves v]
      constructor
      · rintro ⟨c', hc', -⟩
        rw [provenClaims_unique hproven hc', hc']
      · exact fun hc => ⟨c, hc, hissuer, hpath⟩

/-- **Expiry is final, and acceptance has no gap.** A token that has expired for a path stays expired,
and a token that is accepted at two times is accepted at every time between them, whatever its text and
whoever signed it. If its payload names no start of validity, a token that is accepted at a time is
accepted at every time before. -/
theorem check_over_time (a : Authority) (token path : Option String) :
    (∀ u v, u ≤ v → a.check u token path = .ok (some .expired) →
      a.check v token path = .ok (some .expired)) ∧
    (∀ u v w, u ≤ v → v ≤ w → a.check u token path = .ok none → a.check w token path = .ok none →
      a.check v token path = .ok none) ∧
    ((∀ payload, token.bind carriedPayload? = some payload →
        Json.find? (Text.ofString "nbf") payload = none) →
      ∀ u v, u ≤ v → a.check v token path = .ok none → a.check u token path = .ok none) := by
  have hnoToken : ∀ u, a.check u none path ≠ .ok none := nofun
  refine ⟨?_, ?_, ?_⟩
  · intro u v huv h
    obtain ⟨payload, hexpired, hproves⟩ := provenClaims_eq_expired (check_eq_expired_iff.1 h)
    rw [check_eq_expired_iff, hproves v]
    exact Claims.ofPayload_expired_mono hexpired huv
  · intro u v w huv hvw hu hw
    cases token with
    | none => exact absurd hu (hnoToken u)
    | some token =>
      obtain ⟨-, l, -, -, hlife⟩ := check_eq_none_lifetime hu
      exact (hlife v).2 (((hlife u).1 hu).between ((hlife w).1 hw) huv hvw)
  · intro hstart u v huv hv
    cases token with
    | none => exact absurd hv (hnoToken v)
    | some token =>
      obtain ⟨payload, l, hcarried, hnone, hlife⟩ := check_eq_none_lifetime hv
      have hno := hnone (hstart payload hcarried)
      exact (hlife u).2 (((hlife v).1 hv).earlier hno huv)

/-! ## A token of another maker -/

/-- The payload of a token that starts at the tenth second, told as text, and lives for a minute. -/
def lateMembers : List (Text × Json) :=
  [Json.field "iss" (Json.ofString issuer), Json.field "aud" (Json.ofString "fortune.example/api"),
    Json.field "iat" (.bool false), Json.field "nbf" (Json.ofString "10"), Json.field "exp" (.int 60)]

/-- The token that carries this payload. -/
def lateToken : String :=
  scheme ++ String.ofList (sign ofLetters.key.bytes (.obj lateMembers)).toToken

theorem plain_lateMembers : Json.Plain .lenient (.obj lateMembers) := by
  refine .ofFields [("iss", Json.ofString issuer), ("aud", Json.ofString "fortune.example/api"),
    ("iat", .bool false), ("nbf", Json.ofString "10"), ("exp", .int 60)] (by decide) ?_
  simp only [List.forall_mem_cons]
  exact ⟨.str _, .str _, .bool _, .str _, .int (Claims.admits_of_writable (by decide +kernel)), nofun⟩

theorem provenClaims_lateToken (now : ℤ) :
    ofLetters.provenClaims now (some lateToken) = Claims.ofPayload now lateMembers := by
  have hopens := opens_sign_obj ofLetters.key.bytes plain_lateMembers (by show 2 ≤ 970; decide)
  refine provenClaims_opens usable_ofLetters hopens ?_ now
  rw [lateToken, String.toList_append, String.toList_ofList]
  rfl

/-- A token with a start is malformed before it, accepted from then on, and expired for good after a
minute; a minted token, which has none, is accepted long before it was minted. -/
theorem check_over_time_lateToken :
    let late := fun now => ofLetters.check now (some lateToken) (some "/api")
    let minted := fun now => ofLetters.check now (some (ofLetters.minted 0 60 "/api")) (some "/api")
    late 9999 = .ok (some .malformedEnvelope) ∧ late 10000 = .ok none ∧ late 59999 = .ok none ∧
      late 30000 = .ok none ∧ late 60000 = .ok (some .expired) ∧ late 1000000 = .ok (some .expired) ∧
      minted 59999 = .ok none ∧ minted (-1000000) = .ok none := by
  intro late minted
  have haccepted : ∀ now, Claims.ofPayload now lateMembers =
      .ok ⟨Text.ofString issuer, Text.ofString "fortune.example/api", 0, 60⟩ → late now = .ok none := by
    intro now h
    have hproven := (provenClaims_lateToken now).trans h
    exact check_eq_none_iff.2 ⟨_, hproven, rfl, by decide +kernel⟩
  have hfirst := haccepted 10000 (by decide +kernel)
  have hlast := haccepted 59999 (by decide +kernel)
  have hexpired : late 60000 = .ok (some .expired) := by
    refine check_eq_expired_iff.2 ((provenClaims_lateToken 60000).trans ?_)
    decide +kernel
  have hearly : late 9999 = .ok (some .malformedEnvelope) := by
    have hproven : ofLetters.provenClaims 9999 (some lateToken) = .error .malformedEnvelope :=
      (provenClaims_lateToken 9999).trans (by decide +kernel)
    show ofLetters.check 9999 (some lateToken) (some "/api") = _
    rw [check, hproven]
  obtain ⟨hfinal, hbetween, -⟩ := check_over_time ofLetters (some lateToken) (some "/api")
  -- the other token names no start
  have hiat : writable ((0 : ℤ).tdiv 1000) = true := by decide +kernel
  have hexp : writable ((0 : ℤ).tdiv 1000 + 60) = true := by decide +kernel
  have hopens := opens_minted ofLetters "/api" hiat hexp
  have hminted : minted 59999 = .ok none := by
    refine check_eq_none_iff.2
      ⟨ofLetters.claimsAt 0 60 "/api", ?_, rfl, namesPath_iff.2 ⟨_, rfl, rfl⟩⟩
    rw [provenClaims_opens usable_ofLetters hopens toList_minted, Claims.ofPayload_members]
    rfl
  obtain ⟨-, -, hbefore⟩ :=
    check_over_time ofLetters (some (ofLetters.minted 0 60 "/api")) (some "/api")
  refine ⟨hearly, hfirst, hlast, hbetween 10000 30000 59999 (by decide) (by decide) hfirst hlast,
    hexpired, hfinal 60000 1000000 (by decide) hexpired, hminted, ?_⟩
  refine hbefore ?_ (-1000000) 59999 (by decide) hminted
  intro payload hpayload
  rw [Option.bind_some, hopens.carriedPayload?_eq toList_minted] at hpayload
  cases hpayload
  rfl

end Authority

end QuoteService.Token
