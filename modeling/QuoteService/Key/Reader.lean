import QuoteService.Key.PrivateKey

/-!
# Reading private keys

A key is read from the general form, which names its algorithm, or from the older ones, which are for
keys of one algorithm alone.

* `PrivateKey.ofDer`: the key of some bytes; it is always valid.
-/

namespace QuoteService

/-- Why bytes are no usable private key. -/
inductive KeyError where
  | encrypted
  | unknownAlgorithm
  | malformed
  deriving DecidableEq

namespace PrivateKey

/-- A key that is valid. -/
def checked (k : PrivateKey) : Option PrivateKey := if k.isValid then some k else none

/-- The elements behind a leading integer of value `version`. -/
def afterVersion? (version : Nat) : List Der.Element → Option (List Der.Element)
  | ⟨tag, content⟩ :: r =>
    if tag = Der.integerTag ∧ Der.nat? content = some version then some r else none
  | [] => none

/-- The numbers of integer elements. -/
def nats? (es : List Der.Element) : Option (List Nat) :=
  es.mapM fun e => if e.tag = Der.integerTag then Der.nat? e.content else none

/-- An RSA key in the older form. -/
def ofRsaForm? (der : List UInt8) : Option PrivateKey := do
  let es ← Der.sequence? der
  let rest ← afterVersion? 0 es
  let numbers ← (nats? rest).bind RsaNumbers.ofList?
  checked (.rsa numbers)

/-- A DSA key in the older form, which holds its public number too. -/
def ofDsaForm? (der : List UInt8) : Option PrivateKey := do
  let es ← Der.sequence? der
  let rest ← afterVersion? 0 es
  match ← nats? rest with
  | [modulus, order, generator, _, secret] => checked (.dsa ⟨modulus, order, generator, secret⟩)
  | _ => none

/-- The numbers of a parameter. -/
def parameterNats? (parameters : List Der.Element) : Option (List Nat) := do
  let e ← parameters.head?
  nats? ((← Der.elements? e.content).filter fun e => e.tag == Der.integerTag)

/-- A number that is all there is. -/
def secret? (der : List UInt8) : Option Nat := (Der.whole? Der.integerTag der).bind Der.nat?

/-- A DSA key of a parameter and a secret. -/
def ofDsaParts? (parameters : List Der.Element) (der : List UInt8) : Option PrivateKey := do
  match ← parameterNats? parameters, ← secret? der with
  | [modulus, order, generator], secret => checked (.dsa ⟨modulus, order, generator, secret⟩)
  | _, _ => none

/-- A Diffie-Hellman key of a parameter and a secret. What the parameter tells besides is not kept. -/
def ofAgreementParts? (tellsOrder : Bool) (parameters : List Der.Element) (der : List UInt8) :
    Option PrivateKey := do
  match ← parameterNats? parameters, ← secret? der with
  | modulus :: generator :: more, secret =>
    checked (.agreement ⟨modulus, generator, if tellsOrder then more.head? else none, secret⟩)
  | _, _ => none

/-! ### Curve keys -/

/-- A curve key as it is written: its secret, its curve and its public point. -/
structure CurveForm where
  secret : List UInt8
  curve : Option Der.Element
  point : Option (List UInt8)

/-- The fields of the older form of a curve key. -/
def curveFields : List Der.Field :=
  [.word 8, .octets,
    ⟨some (Der.explicitTag 0), true, fun c => (Der.elements? c).any Der.Algorithm.Shape.curve.fits⟩,
    .tagged 1 none .bits]

/-- The one element within the element of type `tag`. -/
def inner? (tag : Nat) (es : List Der.Element) : Option Der.Element := do
  let e ← es.find? (·.tag == tag)
  ((Der.elements? e.content).bind List.head?)

/-- A curve key in the older form, whose version is 1. -/
def CurveForm.ofDer? (der : List UInt8) : Option CurveForm := do
  let es ← Der.sequence? der
  if Der.haveFields curveFields es then
    match ← afterVersion? 1 es with
    | secret :: rest =>
      some ⟨secret.content, inner? (Der.explicitTag 0) rest,
        (inner? (Der.explicitTag 1) rest).bind fun e => Der.bitStringBytes? e.content⟩
    | [] => none
  else none

/-- The curve that a parameter names. -/
def curveOf (parameter : Der.Element) : Except KeyError Curve :=
  if parameter.tag = Der.identifierTag then
    match Curve.ofIdentifier? parameter.content with
    | some curve => .ok curve
    | none => .error .unknownAlgorithm
  else .error .malformed

/-- The curve that is told from outside, by the key, or by both alike. -/
def agreedCurve : Option Der.Element → Option Der.Element → Except KeyError Curve
  | some c, some c' => if c = c' then curveOf c else .error .malformed
  | some c, none => curveOf c
  | none, some c => curveOf c
  | none, none => .error .malformed

/-- The curve key of a written one; `outer` is the curve that is told from outside. The secret fills
the bytes that a secret takes, and a public point is the one of the secret. -/
def CurveForm.key (form : CurveForm) (outer : Option Der.Element) : Except KeyError PrivateKey := do
  let curve ← agreedCurve outer form.curve
  let secret := Der.ofBigEndian form.secret
  let pointAgrees := form.point.all fun bs => ((curve.publicPoint secret).encodings curve).contains bs
  match checked (.ec curve secret) with
  | some key =>
    if form.secret.length = curve.secretLength ∧ pointAgrees = true then .ok key else .error .malformed
  | none => .error .malformed

/-! ### The general form -/

/-- A key of fixed length: a byte string within a byte string. -/
def ofRawForm? (kind : RawKind) (der : List UInt8) : Option PrivateKey :=
  (Der.whole? Der.octetStringTag der).bind fun secret => checked (.raw kind secret)

/-- Whether bytes are the content of attributes: types, each with a set of values. -/
def areAttributes : List UInt8 → Bool :=
  Der.isSet fun e => Der.haveFields
    [.record [.identifier, .required Der.setTag (Der.isSet fun _ => true)]] [e]

/-- The fields of the general form. -/
def generalFields : List Der.Field :=
  [.word 8, .required Der.sequenceTag Der.Algorithm.isAlgorithm, .octets,
    ⟨some (Der.explicitTag 0), true, areAttributes⟩]

/-- Algorithm and key of the general form, whose version is 0. Attributes are passed over. -/
def general? (der : List UInt8) : Option (List Der.Element × List UInt8) := do
  let es ← Der.sequence? der
  if Der.haveFields generalFields es then
    match ← afterVersion? 0 es with
    | algorithm :: key :: _ => (Der.elements? algorithm.content).map fun es => (es, key.content)
    | _ => none
  else none

/-- The key that an algorithm with its parameters makes of bytes. -/
def ofAlgorithm (algorithm : List Der.Element) (key : List UInt8) : Except KeyError PrivateKey :=
  match algorithm with
  | ⟨_, identifier⟩ :: parameters =>
    if identifier = Der.Algorithm.rsa ∨ identifier = Der.Algorithm.rsaSalted then
      ofOption (ofRsaForm? key)
    else if identifier = Der.Algorithm.curveKey then
      match CurveForm.ofDer? key with
      | some form => form.key parameters.head?
      | none => .error .malformed
    else if identifier = Der.Algorithm.modularKey then ofOption (ofDsaParts? parameters key)
    else if identifier = Der.Algorithm.agreementKey then
      ofOption (ofAgreementParts? true parameters key)
    else if identifier = Der.Algorithm.plainAgreementKey then
      ofOption (ofAgreementParts? false parameters key)
    else
      match RawKind.ofIdentifier? identifier with
      | some kind => ofOption (ofRawForm? kind key)
      | none => .error .unknownAlgorithm
  | [] => .error .malformed
where
  /-- What is no key is malformed. -/
  ofOption : Option PrivateKey → Except KeyError PrivateKey
    | some k => .ok k
    | none => .error .malformed

/-- Whether bytes have the form of an encrypted key: an algorithm and a byte string. -/
def looksEncrypted (der : List UInt8) : Bool :=
  (Der.sequence? der).any
    (Der.haveFields [.required Der.sequenceTag Der.Algorithm.isAlgorithm, .octets])

/-- The private key of some bytes. -/
def ofDer (der : List UInt8) : Except KeyError PrivateKey :=
  match general? der with
  | some (algorithm, key) => ofAlgorithm algorithm key
  | none =>
    match CurveForm.ofDer? der with
    | some form => form.key none
    | none =>
      match ofRsaForm? der <|> ofDsaForm? der with
      | some key => .ok key
      | none => .error (if looksEncrypted der then .encrypted else .malformed)

end PrivateKey

end QuoteService
