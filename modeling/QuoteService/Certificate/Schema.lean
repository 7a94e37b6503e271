import QuoteService.Der.Algorithm
import QuoteService.Text.Utf8

/-!
# The schema of certificates

Each part of a certificate as a test on an element. What a default says is not written out, sets
are in order, and times name a day and a second that exist.

* `isName`, `isValidity`, `isPublicKeyInfo`, `isExtension`: the parts.
* `Fields.ofDer?`: the parts of a certificate that later questions need.
-/

namespace QuoteService.Certificate

open QuoteService.Der

/-- Whether the content of a sequence satisfies `p`. -/
def isSequence (p : List Element → Bool) (e : Element) : Bool :=
  e.tag == sequenceTag &&
    match elements? e.content with
    | some es => p es
    | none => false

/-- Whether an element is an object identifier. -/
def isIdentifierElement (e : Element) : Bool := e.tag == identifierTag && isIdentifier e.content

/-- An algorithm. -/
def isAlgorithm (e : Element) : Bool := e.tag == sequenceTag && Algorithm.isAlgorithm e.content

/-- The characters of a printable string. -/
def isPrintableByte (b : UInt8) : Bool :=
  (0x41 ≤ b && b ≤ 0x5A) || (0x61 ≤ b && b ≤ 0x7A) || (0x30 ≤ b && b ≤ 0x39) ||
    ([0x20, 0x27, 0x28, 0x29, 0x2B, 0x2C, 0x2D, 0x2E, 0x2F, 0x3A, 0x3D, 0x3F] : List UInt8).contains b

/-- The value of a name part; the kinds of text that have a form are held to it. -/
def isNameValue (e : Element) : Bool :=
  if e.tag = 0x13 then e.content.all isPrintableByte
  else if e.tag = 0x1E then
    (Utf16.decodeLoose .big e.content).any fun t => t.toChars?.isSome
  else if e.tag = 0x1C then
    (Utf32.decodeLoose .big e.content).any fun t => t.toChars?.isSome
  else true

/-- A part of a name: its type and its value. -/
def isNamePart : Element → Bool :=
  isSequence fun
    | [e, v] => isIdentifierElement e && isNameValue v
    | _ => false

/-- A set of name parts. -/
def isNameSet (e : Element) : Bool := e.tag == setTag && isSet isNamePart e.content

/-- A name: a sequence of sets of parts. -/
def isName : Element → Bool := isSequence fun sets => sets.all isNameSet

/-- The number of two digits. -/
def twoDigits? (a b : UInt8) : Option Nat :=
  if 0x30 ≤ a ∧ a ≤ 0x39 ∧ 0x30 ≤ b ∧ b ≤ 0x39 then
    some ((a.toNat - 0x30) * 10 + (b.toNat - 0x30))
  else none

/-- The numbers of pairs of digits. -/
def digitPairs? : List UInt8 → Option (List Nat)
  | [] => some []
  | a :: b :: r => do
    let n ← twoDigits? a b
    let ns ← digitPairs? r
    pure (n :: ns)
  | _ => none

/-- The days of a month. -/
def daysIn (year month : Nat) : Nat :=
  if month = 2 then
    if year % 4 = 0 ∧ (year % 100 ≠ 0 ∨ year % 400 = 0) then 29 else 28
  else if month = 4 ∨ month = 6 ∨ month = 9 ∨ month = 11 then 30
  else 31

/-- Whether a moment exists. -/
def isMoment (year month day hour minute second : Nat) : Bool :=
  1 ≤ month && month ≤ 12 && 1 ≤ day && day ≤ daysIn year month && hour < 24 && minute < 60 &&
    second < 60

/-- A time, with two or with four digits of year; it ends in `Z`. -/
def isTime (e : Element) : Bool :=
  e.content.getLast? == some 0x5A &&
    match e.tag == utcTimeTag, e.tag == generalizedTimeTag, digitPairs? e.content.dropLast with
    | true, _, some [y, mo, d, h, mi, s] => isMoment (if y < 50 then 2000 + y else 1900 + y) mo d h mi s
    | _, true, some [c, y, mo, d, h, mi, s] => isMoment (c * 100 + y) mo d h mi s
    | _, _, _ => false

/-- A period between two times. -/
def isValidity : Element → Bool :=
  isSequence fun
    | [a, b] => isTime a && isTime b
    | _ => false

/-- A public key with its algorithm. -/
def isPublicKeyInfo : Element → Bool :=
  isSequence fun
    | [a, k] => isAlgorithm a && k.tag == bitStringTag && isBitString k.content
    | _ => false

/-- An extension: its type, whether it is critical, and its content. -/
def isExtension : Element → Bool :=
  isSequence fun
    | [t, v] => isIdentifierElement t && v.tag == octetStringTag
    | [t, c, v] =>
      isIdentifierElement t && c.tag == booleanTag && c.content == [0xFF] && v.tag == octetStringTag
    | _ => false

/-- Type and content of an extension. -/
def extensionEntry? (e : Element) : Option (List UInt8 × List UInt8) :=
  match elements? e.content with
  | some [t, v] => some (t.content, v.content)
  | some [t, _, v] => some (t.content, v.content)
  | _ => none

/-- What a certificate says about itself. -/
structure Fields where
  version : Nat
  /-- The identifier of the algorithm that it is signed with. -/
  algorithm : List UInt8
  issuer : List UInt8
  subject : List UInt8
  /-- The bytes of the public key with its algorithm. -/
  key : List UInt8
  extensions : List (List UInt8 × List UInt8)

/-- The version in front of the fields, zero if it is left out, and the rest. -/
def version? : List Element → Option (Nat × List Element)
  | ⟨tag, content⟩ :: r =>
    if tag = explicitTag 0 then
      match (whole? integerTag content).bind nat? with
      | some n => if n = 0 ∨ 255 < n then none else some (n, r)
      | none => none
    else some (0, ⟨tag, content⟩ :: r)
  | [] => none

/-- Passes over an element that may be left out. -/
def skipOptional (p : Element → Bool) (tag : Nat) : List Element → Option (List Element)
  | e :: r => if e.tag = tag then if p e then some r else none else some (e :: r)
  | [] => some []

/-- The extensions at the end of the fields. -/
def extensions? : List Element → Option (List (List UInt8 × List UInt8))
  | [] => some []
  | [⟨tag, content⟩] =>
    if tag = explicitTag 3 then
      match sequence? content with
      | some es => if es.all isExtension then es.mapM extensionEntry? else none
      | none => none
    else none
  | _ => none

/-- The fields of the part that is signed. -/
def Fields.ofElements? (es : List Element) : Option Fields := do
  let (version, es) ← version? es
  match es with
  | serial :: algorithm :: issuer :: validity :: subject :: key :: rest =>
    if serial.tag = integerTag ∧ isInteger serial.content ∧ isAlgorithm algorithm ∧
        isName issuer ∧ isValidity validity ∧ isName subject ∧ isPublicKeyInfo key then
      let isUnique := fun e : Element => isBitString e.content
      let rest ← skipOptional isUnique (implicitTag 1) rest
      let rest ← skipOptional isUnique (implicitTag 2) rest
      let extensions ← extensions? rest
      let signedWith ← (elements? algorithm.content).bind List.head?
      some
        { version, extensions
          algorithm := signedWith.content
          issuer := encode issuer.tag issuer.content
          subject := encode subject.tag subject.content
          key := encode key.tag key.content }
    else none
  | _ => none

/-- The fields of a certificate: what is signed, the algorithm, and the signature. -/
def Fields.ofDer? (der : List UInt8) : Option Fields := do
  match ← sequence? der with
  | [signed, algorithm, signature] =>
    if signed.tag = sequenceTag ∧ isAlgorithm algorithm ∧ signature.tag = bitStringTag ∧
        isBitString signature.content then
      (elements? signed.content).bind Fields.ofElements?
    else none
  | _ => none

end QuoteService.Certificate
