import QuoteService.Der.Fields

/-!
# Algorithms

An algorithm is an object identifier and at most one parameter. For many identifiers the parameter
has a form of its own.

* `Shape`, `shapeOf`: the forms, and the one that an identifier asks for.
* `isAlgorithm`: whether bytes are the content of an algorithm.
-/

namespace QuoteService.Der.Algorithm

/-- The forms of a parameter. -/
inductive Shape where
  /-- There is none. -/
  | absent
  /-- There is none, or an empty one. -/
  | empty
  /-- There is one, of some fields alone. -/
  | field (f : Field)
  /-- There is one of some fields, or none. -/
  | fieldIfAny (f : Field)
  /-- A curve: its name, nothing, or its numbers. -/
  | curve
  /-- There is one of any kind, or none. -/
  | free

/-! ### Identifiers -/

/-- The identifiers whose last arc is one of some. -/
def family (stem : List Nat) (last : List Nat) : List (List UInt8) :=
  last.map fun n => Der.identifier (stem ++ [n])

/-- The identifier of RSA keys. -/
def rsa : List UInt8 := Der.identifier [1, 2, 840, 113549, 1, 1, 1]

/-- The identifier of RSA keys that sign with a random salt. -/
def rsaSalted : List UInt8 := Der.identifier [1, 2, 840, 113549, 1, 1, 10]

/-- The identifier of keys on a curve. -/
def curveKey : List UInt8 := Der.identifier [1, 2, 840, 10045, 2, 1]

/-- The identifiers of keys that sign modulo a prime. -/
def modularKey : List UInt8 := Der.identifier [1, 2, 840, 10040, 4, 1]

/-- The identifier of keys that agree on a secret modulo a prime, with the order of the group. -/
def agreementKey : List UInt8 := Der.identifier [1, 2, 840, 10046, 2, 1]

/-- The identifier of keys that agree on a secret modulo a prime. -/
def plainAgreementKey : List UInt8 := Der.identifier [1, 2, 840, 113549, 1, 3, 1]

/-- The hash that is meant where none is named. -/
def defaultHash : List UInt8 := Der.identifier [1, 3, 14, 3, 2, 26]

/-- The keyed hash that is meant where none is named. -/
def defaultKeyedHash : List UInt8 := Der.identifier [1, 2, 840, 113549, 2, 7]

/-- The way of making masks that is meant where none is named. -/
def defaultMask : List UInt8 := Der.identifier [1, 2, 840, 113549, 1, 1, 8]

/-- Signatures, hashes and keyed hashes whose parameter is left out or empty. -/
def emptyFamily : List (List UInt8) :=
  [rsa, defaultHash, Der.identifier [1, 3, 14, 3, 2, 29], Der.identifier [1, 2, 840, 10040, 4, 3]] ++
    family [1, 2, 840, 113549, 1, 1] [5, 11, 12, 13, 14] ++
    family [1, 2, 840, 113549, 2] [7, 8, 9, 10, 11] ++
    family [1, 2, 840, 10045, 4, 3] [1, 2, 3, 4] ++
    family [2, 16, 840, 1, 101, 3, 4, 3] [1, 2, 3, 4, 13, 14, 15, 16] ++
    family [2, 16, 840, 1, 101, 3, 4, 2] [1, 2, 3, 4, 7, 8, 9, 10]

/-- Keys of fixed length and signatures whose parameter is left out. -/
def absentFamily : List (List UInt8) :=
  family [1, 3, 101] [110, 111, 112, 113] ++
    family [2, 16, 840, 1, 101, 3, 4, 3] [9, 10, 11, 12]

/-- Ciphers of blocks of sixteen bytes, whose parameter is the first block. -/
def wideCiphers : List (List UInt8) := family [2, 16, 840, 1, 101, 3, 4, 1] [2, 22, 42]

/-! ### Forms -/

/-- An algorithm without parameter content, as an element. -/
def encodePlain (identifier : List UInt8) : List UInt8 :=
  encode sequenceTag (encode identifierTag identifier ++ encode nullTag [])

/-- The numbers of a curve. -/
def curveNumbers : List Field :=
  [.word 8, .record [.identifier, .anything], .record [.octets, .octets, Field.bits.optional],
    .octets, .natural, Field.natural.optional]

/-- The form that an identifier asks for; `inner` tests the content of an algorithm. -/
def shapeOf (inner : List UInt8 → Bool) (identifier : List UInt8) : Shape :=
  let algorithm := Field.required sequenceTag inner
  if emptyFamily.contains identifier then .empty
  else if absentFamily.contains identifier then .absent
  else if identifier = curveKey then .curve
  else if identifier = rsaSalted then
    .fieldIfAny (.record
      [.tagged 0 (some (encodePlain defaultHash)) algorithm,
        .tagged 1 (some (encode sequenceTag
          (encode identifierTag defaultMask ++ encodePlain defaultHash)))
          (.record [.identifier, algorithm]),
        .tagged 2 (some (encodeNat 20)) (.word 16),
        .tagged 3 none (.word 8)])
  else if identifier = modularKey then .field (.record [.natural, .natural, .natural])
  else if identifier = agreementKey then
    .field (.record [.natural, .natural, .natural, Field.natural.optional,
      (Field.required sequenceTag fun _ => true).optional])
  else if identifier = plainAgreementKey then
    .field (.record [.natural, .natural, (Field.word 32).optional])
  else if identifier = Der.identifier [1, 2, 840, 113549, 1, 5, 13] then
    .field (.record [algorithm, algorithm])
  else if identifier = Der.identifier [1, 2, 840, 113549, 1, 5, 12] then
    .field (.record [.octets, .word 64, (Field.word 64).optional,
      ⟨some sequenceTag, true, fun c =>
        inner c && encode sequenceTag c != encodePlain defaultKeyedHash⟩])
  else if identifier = Der.identifier [1, 3, 6, 1, 4, 1, 11591, 4, 11] then
    .field (.record [.octets, .word 64, .word 64, .word 64, (Field.word 32).optional])
  else if identifier = Der.identifier [1, 2, 840, 113549, 1, 5, 3] then
    .field (.record [.octetsOf 8, .word 64])
  else if (family [1, 2, 840, 113549, 1, 12, 1] [3, 6]).contains identifier then
    .field (.record [.octets, .word 64])
  else if wideCiphers.contains identifier then .field (.octetsOf 16)
  else if identifier = Der.identifier [1, 2, 840, 113549, 3, 7] then .field (.octetsOf 8)
  else if identifier = Der.identifier [1, 2, 840, 113549, 3, 2] then
    .field (.record [(Field.word 32).optional, .octetsOf 8])
  else .free

/-- Whether a parameter has a form. -/
def Shape.fits : Shape → List Element → Bool
  | absent, es => es.isEmpty
  | empty, es => es == [] || es == [⟨nullTag, []⟩]
  | field f, es => haveFields [f] es
  | fieldIfAny f, es => haveFields [f.optional] es
  | curve, es =>
    haveFields [.identifier] es || es == [⟨nullTag, []⟩] || haveFields [.record curveNumbers] es
  | free, es => es.length ≤ 1

/-- Whether bytes are the content of an algorithm; `fuel` bounds how deeply others stand in it. -/
def isAlgorithmWithin : Nat → List UInt8 → Bool
  | 0, _ => false
  | fuel + 1, content =>
    match elements? content with
    | some (⟨tag, identifier⟩ :: parameters) =>
      tag == identifierTag && isIdentifier identifier &&
        (shapeOf (isAlgorithmWithin fuel) identifier).fits parameters
    | _ => false

/-- Whether bytes are the content of an algorithm. -/
def isAlgorithm (content : List UInt8) : Bool := isAlgorithmWithin content.length content

end QuoteService.Der.Algorithm
