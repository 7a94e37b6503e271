import QuoteService.Certificate.Basic
import QuoteService.Key.Reader
import QuoteService.Text.Utf8

/-!
# Configured key material

Keys and certificates are configured as the Base64 text of a PEM file, with blanks anywhere.

* `unwrap`: the PEM text.
* `decodeChain`, `decodeKey`: the certificates and the key of a configured text.
-/

namespace QuoteService.Tls

/-- Why configured material cannot be used. -/
inductive MaterialError where
  | base64 (fault : Base64.DecodeError)
  | notUtf8
  | key (fault : KeyError)
  | certificate (fault : CertificateError)
  deriving DecidableEq

/-- Whether a loader turns the fault into a log record. A certificate of a version that does not
exist is the one fault that it lets through. -/
def MaterialError.isHandled : MaterialError → Bool
  | certificate .unknownVersion => false
  | _ => true

/-- The PEM text that a configured text wraps. -/
def unwrap (encoded : List Char) : Except MaterialError (List Char) :=
  match Base64.decode (Text.removeBlanks encoded) with
  | .error fault => .error (.base64 fault)
  | .ok bytes =>
    match Utf8.decode bytes with
    | none => .error .notUtf8
    | some text => .ok text

/-- The blocks of a configured text. -/
def bundle (encoded : List Char) : Except MaterialError Pem.Bundle := do
  (Pem.Bundle.ofText (← unwrap encoded)).mapError .base64

/-- The certificates of a configured text, in their order. -/
def decodeChain (encoded : List Char) : Except MaterialError (List Certificate) := do
  (← bundle encoded).certificates.mapM fun der => (Certificate.ofDer der).mapError .certificate

/-- The last private key of a configured text. -/
def decodeKey (encoded : List Char) : Except MaterialError (Option PrivateKey) := do
  match (← bundle encoded).privateKey with
  | none => pure none
  | some der => ((PrivateKey.ofDer der).mapError .key).map some

end QuoteService.Tls
