import QuoteService.Base64.Strict
import QuoteService.Text.Blank

/-!
# Signing keys

A signing key is configured as Base64 text and has at least 512 bits.

* `SigningKey`: the bytes, with their bound.
* `SigningKey.decode`: the key of a configured text.
* `SigningKey.newText`: the text for random bytes.
-/

namespace QuoteService.Token

/-- The bytes that a signing key has at least. -/
def minKeyLength : Nat := 64

/-- The bytes of a key that is long enough for HS512. -/
structure SigningKey where
  bytes : List UInt8
  length_bytes : minKeyLength ≤ bytes.length

/-- Why a configured text gives no signing key. -/
inductive ConfigurationError where
  | notConfigured
  | notBase64
  | tooShort (bits : Nat)
  deriving DecidableEq

/-- The text of a configuration error. -/
def ConfigurationError.message : ConfigurationError → String
  | notConfigured => "JWT signing key is not configured"
  | notBase64 => "JWT signing key is not valid Base64"
  | tooShort bits =>
    "JWT signing key must be at least " ++ toString (minKeyLength * 8) ++ " bits, got " ++
      toString bits

namespace SigningKey

/-- The key of a configured text: strict Base64 with blanks around it. -/
def decode (text : Option String) : Except ConfigurationError SigningKey :=
  match text with
  | none => .error .notConfigured
  | some s =>
    if Text.isBlankText s.toList then .error .notConfigured
    else
      match Base64.decode (Text.trim s.toList) with
      | .error _ => .error .notBase64
      | .ok bytes =>
        if h : minKeyLength ≤ bytes.length then .ok ⟨bytes, h⟩
        else .error (.tooShort (bytes.length * 8))

/-- The text that configures random bytes as a key. -/
def newText (random : List UInt8) : String :=
  String.ofList (Base64.Alphabet.standard.encodePadded random)

end SigningKey

end QuoteService.Token
