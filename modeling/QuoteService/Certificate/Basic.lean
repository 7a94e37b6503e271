import QuoteService.Certificate.Schema
import QuoteService.Pem.Bundle

/-!
# Certificates

A certificate keeps the bytes it was read from.

* `Certificate.ofDer`: refuses what does not follow the schema, and versions other than 1 and 3.
* `Certificate.toPem`, `chainPem`: the text of one and of several.
-/

namespace QuoteService

/-- A certificate by its bytes and its fields. -/
structure Certificate where
  der : List UInt8
  fields : Certificate.Fields

/-- Why bytes are no usable certificate. -/
inductive CertificateError where
  | malformed
  | unknownVersion
  deriving DecidableEq

namespace Certificate

/-- The certificate of some bytes. The versions 1 and 3 are written as 0 and 2. -/
def ofDer (der : List UInt8) : Except CertificateError Certificate :=
  match Fields.ofDer? der with
  | none => .error .malformed
  | some fields =>
    if fields.version = 0 ∨ fields.version = 2 then .ok ⟨der, fields⟩ else .error .unknownVersion

/-- The text of a certificate. -/
def toPem (c : Certificate) : List Char := Pem.encodeBlock .certificate c.der

/-- The texts of certificates one after another. -/
def chainPem (cs : List Certificate) : List Char := cs.flatMap toPem

end Certificate

end QuoteService
