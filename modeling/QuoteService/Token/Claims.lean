import QuoteService.Json.Value
import QuoteService.Text.WholeNumber

/-!
# Token claims

* `Failure`: why a token is refused.
* `Claims`: issuer, audience and the two times of a token.
* `lenientTime?`, `claimTime?`: the two readers of a time. The first is the one that decides whether
  a token is still alive; the second one decides whether its claims are well formed.
* `Claims.ofPayload`: the claims of a payload at a given time, or why it is refused.
-/

namespace QuoteService.Token

/-- Why a token is refused. -/
inductive Failure where
  | emptyToken
  | missingSchemePrefix
  | signatureInvalid
  | expired
  | issuerMismatch
  | audienceMismatch
  | malformedEnvelope
  deriving DecidableEq

/-- The word for a failure in answers and logs. -/
def Failure.value : Failure → String
  | emptyToken => "empty_token"
  | missingSchemePrefix => "missing_scheme_prefix"
  | signatureInvalid => "signature_invalid"
  | expired => "expired"
  | issuerMismatch => "issuer_mismatch"
  | audienceMismatch => "audience_mismatch"
  | malformedEnvelope => "malformed_envelope"

/-- The claims of a token. -/
structure Claims where
  issuer : Text
  audience : Text
  issuedAt : Int
  expiresAt : Int
  deriving DecidableEq

/-- A time as a whole number: fractions are cut off, booleans are zero and one, and text may have
blanks, a sign, underscores and digits of any script. -/
def lenientTime? : Json → Option Int
  | .int n => some n
  | .bool b => some (if b then 1 else 0)
  | .float x => x.truncate?
  | .str t => t.toChars?.bind Text.lenientInt?
  | _ => none

/-- Whether an integer lies strictly within the range of 64 bits. -/
def fitsWord (n : Int) : Bool := -0x8000000000000000 < n && n < 0x8000000000000000

/-- A time as a whole number: a number with a fraction is none, nor is one beyond 64 bits; text is
read by the plain reader. -/
def claimTime? : Json → Option Int
  | .int n => some n
  | .bool b => some (if b then 1 else 0)
  | .float x => x.integer?.filter fitsWord
  | .str t => t.toChars?.bind Text.plainInt?
  | _ => none

/-- The text of a string value. -/
def string? : Json → Option Text
  | .str t => some t
  | _ => none

/-- A member that is there and not null. -/
def required? (name : String) (payload : List (Text × Json)) : Option Json :=
  match Json.find? (Text.ofString name) payload with
  | some .null => none
  | found => found

/-- Whether a member is a string if it is there. -/
def stringIfPresent (name : String) (payload : List (Text × Json)) : Bool :=
  match Json.find? (Text.ofString name) payload with
  | none => true
  | some v => (string? v).isSome

/-- Whether a token that starts to be valid at second `s` is valid at `now` milliseconds. -/
def started (now s : Int) : Bool := 1000 * s ≤ now

/-- Whether a token that expires at second `s` has expired at `now` milliseconds. -/
def hasExpired (now s : Int) : Bool := 1000 * s ≤ now

/-- Whether the start of validity, if one is given, has been reached. -/
def notBeforeReached (now : Int) (payload : List (Text × Json)) : Bool :=
  match Json.find? (Text.ofString "nbf") payload with
  | none => true
  | some v => match lenientTime? v with
    | none => false
    | some s => started now s

namespace Claims

/-- The claims as their types demand them. -/
def wellFormed? (payload : List (Text × Json)) : Option Claims := do
  let issuer ← (Json.find? (Text.ofString "iss") payload).bind string?
  let audience ← (Json.find? (Text.ofString "aud") payload).bind string?
  let issuedAt ← (Json.find? (Text.ofString "iat") payload).bind claimTime?
  let expiresAt ← (Json.find? (Text.ofString "exp") payload).bind claimTime?
  pure ⟨issuer, audience, issuedAt, expiresAt⟩

/-- The claims of a payload at `now` milliseconds. What is missing is found first, then a start that
is not reached, then the end of validity, and last what has the wrong type. -/
def ofPayload (now : Int) (payload : List (Text × Json)) : Except Failure Claims :=
  match required? "iss" payload, required? "aud" payload, required? "iat" payload,
      required? "exp" payload with
  | some _, some _, some _, some exp =>
    if notBeforeReached now payload = false then .error .malformedEnvelope
    else
      match lenientTime? exp with
      | none => .error .malformedEnvelope
      | some s =>
        if hasExpired now s then .error .expired
        else if stringIfPresent "sub" payload = false ∨ stringIfPresent "jti" payload = false then
          .error .malformedEnvelope
        else
          match wellFormed? payload with
          | none => .error .malformedEnvelope
          | some claims => .ok claims
  | _, _, _, _ => .error .malformedEnvelope

/-- The payload that carries the claims. -/
def toJson (c : Claims) : Json :=
  .obj [Json.field "iss" (.str c.issuer), Json.field "aud" (.str c.audience),
    Json.field "iat" (.int c.issuedAt), Json.field "exp" (.int c.expiresAt)]

end Claims

end QuoteService.Token
