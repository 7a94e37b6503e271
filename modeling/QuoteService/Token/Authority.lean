import QuoteService.Logging.Record
import QuoteService.Token.Audience
import QuoteService.Token.KeyShape
import QuoteService.Token.Signed
import QuoteService.Token.SigningKey

/-!
# The token authority

An authority holds the decoded signing key and the public host. Times are milliseconds.

* `Authority.create`: fails on a text that gives no signing key.
* `Authority.generate`: a token for a path.
* `Authority.check`: why a token is refused for a path.
* `Authority.validate`: whether it is accepted, and the log of that.
-/

namespace QuoteService.Token

/-- The issuer of every token. -/
def issuer : String := "shinton.net"

/-- The scheme in front of a token. -/
def scheme : String := "Bearer "

/-- The logger of this module. -/
def authorityLogger : String := "fortune.crypto.bearer_token"

/-- A signing key and the host that its tokens are for. -/
structure Authority where
  key : SigningKey
  publicHost : String

/-- Why no token is made. -/
inductive MintError where
  | missingPath
  | tooManyDigits
  | publicKey
  deriving DecidableEq

/-- The call lacks the path to compare audiences for. -/
inductive CheckError where
  | missingPath
  deriving DecidableEq

namespace Authority

/-- The authority of a configured key. -/
def create (signingKey : Option String) (publicHost : String) :
    Except ConfigurationError Authority :=
  (SigningKey.decode signingKey).map fun key => ⟨key, publicHost⟩

/-- The audience that a token for a path carries. -/
def audienceFor (a : Authority) (path : String) : List Char :=
  joinPath a.publicHost.toList path.toList

/-- Whether the key may sign: it does not have the shape of a public key. -/
def usable (a : Authority) : Bool := !looksPublic a.key.bytes

/-- The claims of a token made at `now` for a path. -/
def claimsAt (a : Authority) (now expiresIn : Int) (path : String) : Claims :=
  { issuer := Text.ofString issuer
    audience := Text.ofChars (a.audienceFor path)
    issuedAt := now.tdiv 1000
    expiresAt := now.tdiv 1000 + expiresIn }

/-- Whether an integer is short enough to be written. -/
def writable (n : Int) : Bool := (Text.digits n.natAbs).length ≤ Text.maxDigits

/-- A token that is valid for `expiresIn` seconds, which may be negative. -/
def generate (a : Authority) (now expiresIn : Int) (path : Option String) :
    Except MintError String :=
  match path with
  | none => .error .missingPath
  | some path =>
    let claims := a.claimsAt now expiresIn path
    if writable claims.issuedAt = false ∨ writable claims.expiresAt = false then
      .error .tooManyDigits
    else if a.usable = false then .error .publicKey
    else .ok (scheme ++ String.ofList (sign a.key.bytes claims.toJson).toToken)

/-- The characters of a text that follow `start`, if it begins so. -/
def afterPrefix? : List Char → List Char → Option (List Char)
  | [], cs => some cs
  | s :: ss, c :: cs => if s = c then afterPrefix? ss cs else none
  | _ :: _, [] => none

/-- The claims that a token proves at `now`. -/
def provenClaims (a : Authority) (now : Int) (token : Option String) : Except Failure Claims :=
  match token with
  | none => .error .emptyToken
  | some s =>
    if Text.isBlankText s.toList then .error .emptyToken
    else
      match afterPrefix? scheme.toList s.toList with
      | none => .error .missingSchemePrefix
      | some signed =>
        match openSigned a.key.bytes a.usable signed with
        | .error failure => .error failure
        | .ok payload => Claims.ofPayload now payload

/-- Whether an audience claim names the host and a path. -/
def namesPath (a : Authority) (audience : Text) (path : String) : Bool :=
  match audience.toChars? with
  | none => false
  | some cs => sameAudience cs (a.audienceFor path)

/-- Why a token is refused for a path at `now`, or nothing if it is accepted. Only the comparison of
audiences needs the path. -/
def check (a : Authority) (now : Int) (token : Option String) (path : Option String) :
    Except CheckError (Option Failure) :=
  match a.provenClaims now token with
  | .error failure => .ok (some failure)
  | .ok claims =>
    if claims.issuer ≠ Text.ofString issuer then .ok (some .issuerMismatch)
    else
      match path with
      | none => .error .missingPath
      | some path =>
        if a.namesPath claims.audience path then .ok none else .ok (some .audienceMismatch)

/-- How a path is shown in a log. -/
def shownPath (path : Option String) : String := path.getD "None"

/-- Whether a token is accepted for a path at `now`, with the log records of the decision. -/
def validate (a : Authority) (now : Int) (token : Option String) (path : Option String) :
    Bool × List LogRecord :=
  match a.check now token path with
  | .error .missingPath =>
    (false, [⟨.error, authorityLogger, "Unexpected error while validating bearer token"⟩])
  | .ok (some failure) =>
    (false, [⟨.warning, authorityLogger,
      "Rejected bearer token for " ++ shownPath path ++ ": " ++ failure.value⟩])
  | .ok none => (true, [])

end Authority

end QuoteService.Token
