import QuoteService.Certificate.Basic
import QuoteService.Json.Reader
import QuoteService.Key.PublicShape

/-!
# Keys that look public

A secret that is also the text of a public key could be known to anyone, so a key of such a shape
neither signs nor verifies.

* `looksArmored`: a PEM block of a known label.
* `looksLikeShell`: the start of a public key line of a secure shell.
* `looksEncoded`: the bytes of a public key or of a certificate.
* `looksLikeKeySet`: JSON in which some object names a key type.
* `looksPublic`: any of these.
-/

namespace QuoteService.Token

/-- The labels of PEM blocks that hold keys or certificates. -/
def armorLabels : List String :=
  ["CERTIFICATE", "TRUSTED CERTIFICATE", "PRIVATE KEY", "PUBLIC KEY", "ENCRYPTED PRIVATE KEY",
   "OPENSSH PRIVATE KEY", "DSA PRIVATE KEY", "RSA PRIVATE KEY", "RSA PUBLIC KEY", "EC PRIVATE KEY",
   "DH PARAMETERS", "NEW CERTIFICATE REQUEST", "CERTIFICATE REQUEST", "SSH2 PUBLIC KEY",
   "SSH2 ENCRYPTED PRIVATE KEY", "X509 CRL"]

/-- The starts of public key lines. -/
def shellPrefixes : List String :=
  ["ssh-ed25519", "ssh-rsa", "ssh-dss", "ecdsa-sha2-nistp256", "ecdsa-sha2-nistp384",
   "ecdsa-sha2-nistp521"]

/-- What follows `start`, if the bytes begin with it. -/
def afterBytes? : List UInt8 → List UInt8 → Option (List UInt8)
  | [], bs => some bs
  | s :: ss, b :: bs => if s = b then afterBytes? ss bs else none
  | _ :: _, [] => none

/-- What follows the bytes of an ASCII text. -/
def afterAscii? (text : String) (bs : List UInt8) : Option (List UInt8) :=
  afterBytes? (Utf8.encodeString text) bs

/-- What follows a hyphen or a space. -/
def afterDash? : List UInt8 → Option (List UInt8)
  | b :: r => if b = 0x2D ∨ b = 0x20 then some r else none
  | [] => none

/-- What follows a boundary line `----- WORD LABEL -----`, where the inner hyphens may be spaces. -/
def afterBoundary? (word label : String) (bs : List UInt8) : Option (List UInt8) :=
  (((afterAscii? "----" bs).bind afterDash?).bind (afterAscii? (word ++ " " ++ label))).bind
    fun r => (afterDash? r).bind (afterAscii? "----")

/-- Whether `p` holds of what is left of a list from some place on. -/
def anySuffix (p : List UInt8 → Bool) : List UInt8 → Bool
  | [] => p []
  | b :: r => p (b :: r) || anySuffix p r

/-- Whether a whole block of a known label starts here, whatever it holds. -/
def startsBlock (bs : List UInt8) : Bool :=
  armorLabels.any fun label =>
    (afterBoundary? "BEGIN" label bs).any
      (anySuffix fun r => (afterBoundary? "END" label r).isSome)

/-- Whether a PEM block of a known label stands anywhere. -/
def looksArmored (bs : List UInt8) : Bool := anySuffix startsBlock bs

/-- Whether a public key line starts here. -/
def looksLikeShell (bs : List UInt8) : Bool :=
  shellPrefixes.any fun s => (afterAscii? s bs).isSome

mutual

/-- Whether some object in a value names a key type. -/
def namesKeyType : Json → Bool
  | .arr items => anyNamesKeyType items
  | .obj members =>
    (Json.find? (Text.ofString "kty") members).isSome || anyMemberNamesKeyType members
  | _ => false

/-- Whether some of the values does. -/
def anyNamesKeyType : List Json → Bool
  | [] => false
  | v :: vs => namesKeyType v || anyNamesKeyType vs

/-- Whether the value of some member does. -/
def anyMemberNamesKeyType : List (Text × Json) → Bool
  | [] => false
  | m :: ms => namesKeyType m.2 || anyMemberNamesKeyType ms

end

/-- The dialect of keys: integers of any length. -/
def keyDialect : Json.Dialect := { Json.Dialect.lenient with maxDigits := none }

/-- Whether the bytes are JSON in which some object names a key type. -/
def looksLikeKeySet (bs : List UInt8) : Bool :=
  match Json.parseWith keyDialect bs with
  | .ok v => namesKeyType v
  | .error _ => false

/-- Whether the bytes are those of a public key or of a certificate. -/
def looksEncoded (bs : List UInt8) : Bool :=
  Key.isPublicDer bs || (Certificate.ofDer bs).toOption.isSome

/-- Whether a key has the shape of a public key or of a certificate. -/
def looksPublic (bs : List UInt8) : Bool :=
  looksArmored bs || looksLikeShell bs || looksEncoded bs || looksLikeKeySet bs

end QuoteService.Token
