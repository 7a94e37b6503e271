import QuoteService.Certificate.Authority
import QuoteService.Logging.Record
import QuoteService.Tls.Material

/-!
# Server identities and client trust

A server shows a key with a chain of certificates; a client trusts a chain.

* `Identity`, `loadIdentity`: the identity that two configured texts give, if they give one.
* `Trust`, `loadTrust`: the chain that a configured text tells a client to trust.
* `Trust.context?`: what a client's context made from it checks and holds.
-/

namespace QuoteService.Tls

/-- The logger of the loaders. -/
def credentialsLogger : String := "fortune.crypto.credentials"

/-- A private key and a chain of certificates, the server's own first. -/
structure Identity where
  key : Option PrivateKey
  chain : List Certificate

/-- The identity lacks a key. -/
inductive IdentityError where
  | noPrivateKey
  deriving DecidableEq

/-- The text of the error. -/
def IdentityError.message : IdentityError → String
  | noPrivateKey => "identity has no private key"

namespace Identity

/-- Whether there is a key and at least one certificate. -/
def canTerminateTls (i : Identity) : Bool := i.key.isSome && !i.chain.isEmpty

/-- The text of the key. -/
def keyPem (i : Identity) : Except IdentityError (List Char) :=
  match i.key with
  | none => .error .noPrivateKey
  | some key => .ok key.toPem

/-- The text of the chain. -/
def chainPem (i : Identity) : List Char := Certificate.chainPem i.chain

end Identity

/-- A chain that a client trusts. -/
structure Trust where
  chain : List Certificate

/-- What a client's context checks and holds. -/
structure Context where
  /-- How certificates are verified: two means that they are required. -/
  verifyMode : Nat
  checksHost : Bool
  certificates : Nat
  authorities : Nat
  deriving DecidableEq

/-- Certificates without repetitions of the same bytes. -/
def distinct : List Certificate → List Certificate
  | [] => []
  | c :: cs => c :: (distinct cs).filter fun c' => c'.der ≠ c.der

namespace Trust

/-- The text of the chain. -/
def chainPem (t : Trust) : List Char := Certificate.chainPem t.chain

/-- The context that trusts exactly the chain, if a verifier can read all of it. -/
def context? (t : Trust) : Option Context :=
  if t.chain.all Certificate.Verifier.isReadable then
    let held := distinct t.chain
    some ⟨2, true, held.length, (held.filter Certificate.isAuthority).length⟩
  else none

end Trust

/-- Whether a configured text is absent or blank. -/
def isUnset (text : Option String) : Bool :=
  match text with
  | none => true
  | some s => Text.isBlankText s.toList

/-- An error record of the loaders. -/
def complaint (message : String) : List LogRecord := [⟨.error, credentialsLogger, message⟩]

/-- Nothing but a record, for a fault that is handled. -/
def handled {α : Type} (fault : MaterialError) (message : String) :
    Except MaterialError (Option α × List LogRecord) :=
  if fault.isHandled then .ok (none, complaint message) else .error fault

/-- Key and chain of two configured texts; the key is read first. -/
def decodeBoth (key certs : List Char) :
    Except MaterialError (Option PrivateKey × List Certificate) := do
  let key ← decodeKey key
  let chain ← decodeChain certs
  pure (key, chain)

/-- The identity of two configured texts, with the log records of loading it. -/
def loadIdentity (key certs : Option String) :
    Except MaterialError (Option Identity × List LogRecord) :=
  match key, certs with
  | some k, some c =>
    if isUnset key || isUnset certs then .ok (none, [])
    else
      match decodeBoth k.toList c.toList with
      | .error fault => handled fault "Could not decode TLS key and certificate chain"
      | .ok (none, _) =>
        .ok (none, complaint "No unencrypted PKCS#8 private key found in TLS key material")
      | .ok (some _, []) =>
        .ok (none, complaint "TLS private key supplied without any certificate")
      | .ok (some key, chain) => .ok (some ⟨some key, chain⟩, [])
  | _, _ => .ok (none, [])

/-- The trust of a configured text, with the log records of loading it. -/
def loadTrust (certs : Option String) : Except MaterialError (Option Trust × List LogRecord) :=
  match certs with
  | some c =>
    if isUnset certs then .ok (none, [])
    else
      match decodeChain c.toList with
      | .error fault => handled fault "Could not decode trusted certificate chain"
      | .ok chain => .ok (some ⟨chain⟩, [])
  | none => .ok (none, [])

end QuoteService.Tls
