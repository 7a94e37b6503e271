import QuoteService.Curve.Point
import QuoteService.Der.Algorithm
import QuoteService.Pem.Bundle

/-!
# Private keys

* `PrivateKey`: a key by its numbers.
* `PrivateKey.isValid`: the numbers are not too big, and they fit together.
* `PrivateKey.toDer`, `PrivateKey.toPem`: the one written form of a key.
-/

namespace QuoteService

/-- The numbers of an RSA key. -/
structure RsaNumbers where
  modulus : Nat
  publicExponent : Nat
  privateExponent : Nat
  prime1 : Nat
  prime2 : Nat
  exponent1 : Nat
  exponent2 : Nat
  coefficient : Nat
  deriving DecidableEq

namespace RsaNumbers

/-- Whether the numbers belong to one key. -/
def isConsistent (k : RsaNumbers) : Bool :=
  let p := k.prime1
  let q := k.prime2
  Number.isPrime p && Number.isPrime q && k.modulus == p * q &&
    k.publicExponent % 2 == 1 && 1 < k.publicExponent &&
    k.privateExponent * k.publicExponent % Nat.lcm (p - 1) (q - 1) == 1 &&
    k.exponent1 == k.privateExponent % (p - 1) && k.exponent2 == k.privateExponent % (q - 1) &&
    k.coefficient < p && k.coefficient * q % p == 1

/-- The numbers in the order in which they are written. -/
def toList (k : RsaNumbers) : List Nat :=
  [k.modulus, k.publicExponent, k.privateExponent, k.prime1, k.prime2, k.exponent1, k.exponent2,
    k.coefficient]

/-- The numbers from the order in which they are written. -/
def ofList? : List Nat → Option RsaNumbers
  | [n, e, d, p, q, dp, dq, c] => some ⟨n, e, d, p, q, dp, dq, c⟩
  | _ => none

end RsaNumbers

/-- The numbers of a DSA key: a prime, the order of a group modulo it, a generator and the secret. -/
structure DsaNumbers where
  modulus : Nat
  order : Nat
  generator : Nat
  secret : Nat
  deriving DecidableEq

/-- The numbers of a Diffie-Hellman key: a prime, a generator, the order of the group that it generates
if that is told, and the secret. -/
structure AgreementNumbers where
  modulus : Nat
  generator : Nat
  order : Option Nat
  secret : Nat
  deriving DecidableEq

/-- Keys that are a string of bytes of fixed length. -/
inductive RawKind where
  | x25519
  | x448
  | ed25519
  | ed448
  deriving DecidableEq

namespace RawKind

/-- All kinds. -/
def all : List RawKind := [x25519, x448, ed25519, ed448]

/-- The content of the object identifier of a kind. -/
def identifier : RawKind → List UInt8
  | x25519 => [0x2B, 0x65, 0x6E]
  | x448 => [0x2B, 0x65, 0x6F]
  | ed25519 => [0x2B, 0x65, 0x70]
  | ed448 => [0x2B, 0x65, 0x71]

/-- The bytes of a secret. -/
def length : RawKind → Nat
  | x25519 => 32
  | x448 => 56
  | ed25519 => 32
  | ed448 => 57

/-- The kind that an object identifier names. -/
def ofIdentifier? (id : List UInt8) : Option RawKind := all.find? fun k => k.identifier = id

end RawKind

/-- A private key. -/
inductive PrivateKey where
  | ec (curve : Curve) (secret : Nat)
  | rsa (numbers : RsaNumbers)
  | dsa (numbers : DsaNumbers)
  | agreement (numbers : AgreementNumbers)
  | raw (kind : RawKind) (secret : List UInt8)
  deriving DecidableEq

namespace PrivateKey

/-- The most bits of a number that is computed with: 8388607 words of 64. -/
def maxBits : Nat := 8388607 * 64

/-- The numbers of a key that may have any size. -/
def numbers : PrivateKey → List Nat
  | ec _ _ => []
  | rsa k => k.toList
  | dsa k => [k.modulus, k.order, k.generator, k.secret]
  | agreement k => [k.modulus, k.generator] ++ k.order.toList ++ [k.secret]
  | raw _ _ => []

/-- Whether no number of a key is too big to compute with. -/
def isHeld (k : PrivateKey) : Bool := k.numbers.all fun n => n.log2 < maxBits

/-- Whether the parts of a key fit together. -/
def fits : PrivateKey → Bool
  | ec curve secret => 1 ≤ secret && secret < curve.parameters.order
  | rsa numbers => numbers.isConsistent
  | dsa numbers => numbers.modulus != 0
  | agreement numbers => Nat.pow 2 511 ≤ numbers.modulus && numbers.modulus < Nat.pow 2 10000
  | raw kind secret => secret.length == kind.length

/-- Whether the numbers of a key can be computed with and its parts fit together. -/
def isValid (k : PrivateKey) : Bool := k.isHeld && k.fits

/-- An identifier element and what stands beside it in a sequence. -/
def algorithmDer (identifier : List UInt8) (parameters : List UInt8) : List UInt8 :=
  Der.encode Der.sequenceTag (Der.encode Der.identifierTag identifier ++ parameters)

/-- The algorithm of a key, with its parameters. -/
def algorithm : PrivateKey → List UInt8
  | ec curve _ =>
    algorithmDer Der.Algorithm.curveKey (Der.encode Der.identifierTag curve.parameters.identifier)
  | rsa _ => algorithmDer Der.Algorithm.rsa (Der.encode Der.nullTag [])
  | dsa k =>
    algorithmDer Der.Algorithm.modularKey
      (Der.encode Der.sequenceTag ([k.modulus, k.order, k.generator].flatMap Der.encodeNat))
  | agreement k =>
    algorithmDer
      (if k.order.isSome then Der.Algorithm.agreementKey else Der.Algorithm.plainAgreementKey)
      (Der.encode Der.sequenceTag
        (([k.modulus, k.generator] ++ k.order.toList).flatMap Der.encodeNat))
  | raw kind _ => algorithmDer kind.identifier []

/-- The key itself. The form of a curve key holds the public point and not the curve. -/
def body : PrivateKey → List UInt8
  | ec curve secret =>
    Der.encode Der.sequenceTag
      (Der.encodeNat 1 ++
        (Der.encode Der.octetStringTag (Der.fixedBytes curve.secretLength secret) ++
          Der.encode (Der.explicitTag 1)
            (Der.encodeBitString ((curve.publicPoint secret).encode curve))))
  | rsa numbers =>
    Der.encode Der.sequenceTag (Der.encodeNat 0 ++ numbers.toList.flatMap Der.encodeNat)
  | dsa numbers => Der.encodeNat numbers.secret
  | agreement numbers => Der.encodeNat numbers.secret
  | raw _ secret => Der.encode Der.octetStringTag secret

/-- The bytes of a key: a version, the algorithm, and the key itself in a byte string. -/
def toDer (k : PrivateKey) : List UInt8 :=
  Der.encode Der.sequenceTag
    (Der.encodeNat 0 ++ (k.algorithm ++ Der.encode Der.octetStringTag k.body))

/-- The text of a key. -/
def toPem (k : PrivateKey) : List Char := Pem.encodeBlock .privateKey k.toDer

end PrivateKey

end QuoteService
