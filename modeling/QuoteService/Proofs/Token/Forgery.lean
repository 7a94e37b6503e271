import Mathlib.Data.List.Count
import QuoteService.Proofs.Token.Acceptance

/-!
# Nothing in a forged token counts

Everything that a payload says is read only after the signature has been found to be right. Until
then a token is judged by its header and by whether its segments can be read.

* `Segments.Forged`: the signature is not the one of the key.
* `Segments.refusal`: why a forged token is refused.
* `openSigned_forged`: **a forged token is refused for what its segments look like.**
* `Authority.check_forged`: **the answer to a forged token depends on neither time, host, path nor
  payload.**
-/

namespace QuoteService.Token

namespace Segments

/-- The signature is not the one that a key gives to the other two segments: it cannot be read, or it
is another one. -/
def Forged (key : List UInt8) (s : Segments) : Prop :=
  Base64.decodeUrl s.signature ≠ some (signatureOf key s.signed)

/-- The three segments can be read. -/
structure Legible (s : Segments) : Prop where
  header : (Base64.decodeUrl s.header).isSome = true
  payload : (Base64.decodeUrl s.payload).isSome = true
  signature : (Base64.decodeUrl s.signature).isSome = true

/-- Whether a header can be read and is acceptable. -/
def hasAcceptedHeader (s : Segments) : Bool :=
  ((Base64.decodeUrl s.header).bind object?).any headerAccepted

/-- Why a token is refused whose signature is wrong: for its signature only if that is compared. -/
def refusal (usable : Bool) (s : Segments) : Failure :=
  if s.hasAcceptedHeader && (Base64.decodeUrl s.payload).isSome &&
      (Base64.decodeUrl s.signature).isSome && usable then .signatureInvalid
  else .malformedEnvelope

variable {s s' : Segments}

theorem count_toToken (s : Segments) : s.toToken.count '.' =
    s.header.count '.' + s.payload.count '.' + s.signature.count '.' + 2 := by
  simp only [toToken, signed, List.count_append, List.count_cons_self]
  omega

theorem Legible.points (h : s.Legible) :
    '.' ∉ s.header ∧ '.' ∉ s.payload ∧ '.' ∉ s.signature := by
  obtain ⟨header, hheader⟩ := Option.isSome_iff_exists.1 h.header
  obtain ⟨payload, hpayload⟩ := Option.isSome_iff_exists.1 h.payload
  obtain ⟨signature, hsignature⟩ := Option.isSome_iff_exists.1 h.signature
  exact ⟨Base64.point_notMem_of_decodeUrl hheader, Base64.point_notMem_of_decodeUrl hpayload,
    Base64.point_notMem_of_decodeUrl hsignature⟩

/-- Segments that can be read are the ones that their token is taken apart into. -/
theorem Legible.ofToken? (h : s.Legible) : Segments.ofToken? s.toToken = some s :=
  ofToken?_eq_some_iff.2 ⟨rfl, h.points.1, h.points.2.2⟩

/-- **A token is taken apart into segments that can be read only as it was put together**, even if
there were points in its segments. -/
theorem Legible.eq_of_ofToken? (h : s'.Legible) (hs : Segments.ofToken? s.toToken = some s') :
    s' = s := by
  have htoken : s.toToken = s'.toToken := (ofToken?_eq_some_iff.1 hs).1
  -- a token of segments without points has two points, and so has this one
  have hcount := congrArg (List.count '.') htoken
  obtain ⟨hheader, hpayload, hsignature⟩ := h.points
  rw [count_toToken, count_toToken, List.count_eq_zero.2 hheader, List.count_eq_zero.2 hpayload,
    List.count_eq_zero.2 hsignature] at hcount
  have hheader : '.' ∉ s.header := List.count_eq_zero.1 (by omega)
  have hsignature : '.' ∉ s.signature := List.count_eq_zero.1 (by omega)
  have hself : Segments.ofToken? s.toToken = some s :=
    ofToken?_eq_some_iff.2 ⟨rfl, hheader, hsignature⟩
  exact Option.some.inj (hs.symm.trans hself)

theorem refusal_eq_signatureInvalid {usable : Bool} (h : s.refusal usable = .signatureInvalid) :
    s.hasAcceptedHeader = true ∧ (Base64.decodeUrl s.payload).isSome = true ∧
      (Base64.decodeUrl s.signature).isSome = true ∧ usable = true := by
  unfold refusal at h
  split at h
  · rename_i hall
    simp only [Bool.and_eq_true] at hall
    exact ⟨hall.1.1.1, hall.1.1.2, hall.1.2, hall.2⟩
  · cases h

theorem refusal_cases (usable : Bool) (s : Segments) :
    s.refusal usable = .signatureInvalid ∨ s.refusal usable = .malformedEnvelope := by
  unfold refusal
  split
  · exact .inl rfl
  · exact .inr rfl

/-- Of the payload only whether it can be read counts. -/
theorem refusal_payload (usable : Bool) {payload : List Char}
    (h : (Base64.decodeUrl s.payload).isSome = true)
    (h' : (Base64.decodeUrl payload).isSome = true) :
    ({ s with payload } : Segments).refusal usable = s.refusal usable := by
  unfold refusal
  rw [h, h']
  rfl

end Segments

variable {key : List UInt8} {usable : Bool} {s : Segments}

/-- **A forged token is refused for what its segments look like.** -/
theorem openSigned_forged (h : s.Forged key) :
    openSigned key usable s.toToken = .error (s.refusal usable) := by
  rcases s.refusal_cases usable with hrefusal | hrefusal
  · -- all that is asked before the comparison is answered well
    obtain ⟨haccepted, hpayload, hsignature, rfl⟩ := Segments.refusal_eq_signatureInvalid hrefusal
    obtain ⟨header, hheader, haccepted⟩ := (Option.any_eq_true _ _).1 haccepted
    obtain ⟨bytes, hbytes, hobject⟩ := Option.bind_eq_some_iff.1 hheader
    obtain ⟨payload, hp⟩ := Option.isSome_iff_exists.1 hpayload
    obtain ⟨signature, hs⟩ := Option.isSome_iff_exists.1 hsignature
    have hlegible : s.Legible := ⟨by rw [hbytes]; rfl, hpayload, hsignature⟩
    have hne : signature ≠ signatureOf key s.signed := by
      rintro rfl
      exact h hs
    rw [hrefusal, openSigned, hlegible.ofToken?]
    simp only [hheader, hp, hs, haccepted, Bool.true_eq_false, or_self, if_false, ne_eq, hne,
      not_false_eq_true, if_true]
  · rw [hrefusal]
    unfold openSigned
    split
    · rfl
    · rename_i s' hs'
      split
      · rename_i header payload signature hheader hpayload hsignature
        obtain ⟨bytes, hbytes, hobject⟩ := Option.bind_eq_some_iff.1 hheader
        have hlegible : s'.Legible :=
          ⟨by rw [hbytes]; rfl, by rw [hpayload]; rfl, by rw [hsignature]; rfl⟩
        obtain rfl := hlegible.eq_of_ofToken? hs'
        split
        · rfl
        · -- otherwise the signature would be compared
          rename_i hgood
          rw [not_or, Bool.not_eq_false, Bool.not_eq_false] at hgood
          have haccepted : s'.hasAcceptedHeader = true := by
            rw [Segments.hasAcceptedHeader, hheader, Option.any_some, hgood.1]
          rw [Segments.refusal, haccepted, hpayload, hsignature, hgood.2] at hrefusal
          cases hrefusal
      · rfl

namespace Authority

variable {a : Authority} {now : ℤ} {path : Option String} {token : String}

/-- What a check answers to a forged token: neither time, host nor path is used. -/
theorem check_eq_refusal (htoken : token.toList = scheme.toList ++ s.toToken)
    (h : s.Forged a.key.bytes) :
    a.check now (some token) path = .ok (some (s.refusal a.usable)) := by
  have hproven : a.provenClaims now (some token) = .error (s.refusal a.usable) := by
    rw [provenClaims_scheme _ htoken, openSigned_forged h]
    rfl
  rw [check, hproven]

/-- **Nothing in a forged token counts.** A token whose signature is not the one of the key, whatever
its three segments are, is refused for its signature or as malformed. The answer is the same at every
time, for every host and path, and for every other payload that can be read and is not signed either. -/
theorem check_forged (a : Authority) (token : String) (s : Segments)
    (htoken : token.toList = scheme.toList ++ s.toToken) (hforged : s.Forged a.key.bytes) :
    ∃ failure, (failure = .signatureInvalid ∨ failure = .malformedEnvelope) ∧
      (∀ (b : Authority) (now : ℤ) (path : Option String), b.key.bytes = a.key.bytes →
        b.check now (some token) path = .ok (some failure)) ∧
      ∀ (payload : List Char) (token' : String), (Base64.decodeUrl s.payload).isSome = true →
        (Base64.decodeUrl payload).isSome = true →
        token'.toList = scheme.toList ++ ({ s with payload } : Segments).toToken →
        ({ s with payload } : Segments).Forged a.key.bytes →
        ∀ (b : Authority) (now : ℤ) (path : Option String), b.key.bytes = a.key.bytes →
          b.check now (some token') path = .ok (some failure) := by
  refine ⟨s.refusal a.usable, s.refusal_cases a.usable, ?_, ?_⟩
  · intro b now path hkey
    rw [← usable_congr hkey]
    rw [← hkey] at hforged
    exact check_eq_refusal htoken hforged
  · intro payload token' hpayload hpayload' htoken' hforged' b now path hkey
    rw [← hkey] at hforged'
    rw [← Segments.refusal_payload a.usable hpayload hpayload', ← usable_congr hkey]
    exact check_eq_refusal htoken' hforged'

/-- A token with a signature of zeros is refused alike whether its payload is alive for the path or,
with another payload, neither. -/
theorem check_forged_zeros :
    let alive := segmentOf (ofLetters.claimsAt 0 60 "/api").toJson
    let s : Segments := ⟨segmentOf mintedHeader, alive, Base64.encodeUrl (List.replicate 64 0)⟩
    let payload := segmentOf (ofLetters.claimsAt 0 (-60) "/other").toJson
    s.Forged ofLetters.key.bytes ∧ ({ s with payload } : Segments).Forged ofLetters.key.bytes ∧
      ∃ failure, (failure = .signatureInvalid ∨ failure = .malformedEnvelope) ∧
        ofLetters.check 30000 (some (scheme ++ String.ofList s.toToken)) (some "/api") =
          .ok (some failure) ∧
        ofLetters.check 30000
          (some (scheme ++ String.ofList ({ s with payload } : Segments).toToken)) (some "/api") =
            .ok (some failure) := by
  intro alive s payload
  have hforged : s.Forged ofLetters.key.bytes := by
    show Base64.decodeUrl s.signature ≠ some (signatureOf ofLetters.key.bytes s.signed)
    decide +kernel
  have hforged' : ({ s with payload } : Segments).Forged ofLetters.key.bytes := by
    show Base64.decodeUrl s.signature ≠
      some (signatureOf ofLetters.key.bytes ({ s with payload } : Segments).signed)
    decide +kernel
  have hlist : ∀ cs : List Char, (scheme ++ String.ofList cs).toList = scheme.toList ++ cs := by
    intro cs
    rw [String.toList_append, String.toList_ofList]
  obtain ⟨failure, hfailure, hcheck, hother⟩ := check_forged ofLetters _ s (hlist _) hforged
  refine ⟨hforged, hforged', failure, hfailure, hcheck ofLetters 30000 (some "/api") rfl, ?_⟩
  exact hother payload _ (by decide +kernel) (by decide +kernel) (hlist _) hforged' ofLetters 30000
    (some "/api") rfl

end Authority

end QuoteService.Token
