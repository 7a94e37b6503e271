import QuoteService.Key.Reader

/-!
# The shape of public keys

* `Key.isPublicDer`: whether bytes are a public key, in the general form or in that of RSA alone.
-/

namespace QuoteService.Key

/-- Whether bytes are modulus and exponent of an RSA key. The exponent is odd, at least three and
below the modulus. -/
def isRsaPublic (der : List UInt8) : Bool :=
  match (Der.sequence? der).map fun es => es.map fun e => (e.tag, Der.nat? e.content) with
  | some [(tag, some n), (tag', some e)] =>
    tag == Der.integerTag && tag' == Der.integerTag && 3 ≤ e && e % 2 == 1 && e < n
  | _ => false

/-- Whether bytes are an integer that is not negative. -/
def isNatural (der : List UInt8) : Bool := ((Der.whole? Der.integerTag der).bind Der.nat?).isSome

/-- Whether bytes are a public key for an algorithm with its parameters. -/
def isPublicFor (identifier : List UInt8) (parameters : List Der.Element) (key : List UInt8) :
    Bool :=
  if identifier = Der.Algorithm.rsa ∨ identifier = Der.Algorithm.rsaSalted then isRsaPublic key
  else if identifier = Der.Algorithm.curveKey then
    match parameters.head?.map PrivateKey.curveOf with
    | some (.ok curve) => curve.isPointEncoding key
    | _ => false
  else if [Der.Algorithm.modularKey, Der.Algorithm.agreementKey,
      Der.Algorithm.plainAgreementKey].contains identifier then isNatural key
  else
    match RawKind.ofIdentifier? identifier with
    | some kind => key.length == kind.length
    | none => false

/-- The fields of a public key that names its algorithm. -/
def generalFields : List Der.Field :=
  [.required Der.sequenceTag Der.Algorithm.isAlgorithm, .bits]

/-- Whether bytes are a public key that names its algorithm. -/
def isGeneralPublic (der : List UInt8) : Bool :=
  match Der.sequence? der with
  | some [algorithm, key] =>
    Der.haveFields generalFields [algorithm, key] &&
      match Der.elements? algorithm.content, Der.bitStringBytes? key.content with
      | some (e :: parameters), some key => isPublicFor e.content parameters key
      | _, _ => false
  | _ => false

/-- Whether bytes are a public key. -/
def isPublicDer (der : List UInt8) : Bool := isGeneralPublic der || isRsaPublic der

end QuoteService.Key
