import QuoteService.Der.Element

/-!
# Fields and sets

A sequence is described by its fields in order. A field that may be left out is taken as left out
where an element of another type stands. A set is in the order of its bytes.

* `Field`: one field, by its type and a test of its content.
* `haveFields`, `isRecord`: whether elements, or the content of a sequence, have some fields.
* `isSet`: whether bytes are the content of a set.
-/

namespace QuoteService.Der

/-- A field: its type, if only one is taken, whether it may be left out, and a test of its content. -/
structure Field where
  tag : Option Nat
  isOptional : Bool
  fits : List UInt8 → Bool

/-- Whether elements are those of some fields. -/
def haveFields : List Field → List Element → Bool
  | [], es => es.isEmpty
  | f :: fs, [] => f.isOptional && haveFields fs []
  | f :: fs, e :: es =>
    if f.tag.all (· == e.tag) then f.fits e.content && haveFields fs es
    else f.isOptional && haveFields fs (e :: es)

/-- Whether bytes are the content of a sequence with some fields. -/
def isRecord (fs : List Field) (content : List UInt8) : Bool := (elements? content).any (haveFields fs)

/-- Whether `a` does not come after `b` in the order of bytes. -/
def bytesLe : List UInt8 → List UInt8 → Bool
  | [], _ => true
  | _ :: _, [] => false
  | a :: as, b :: bs => a < b || (a == b && bytesLe as bs)

/-- Whether elements are in the order of their bytes. -/
def isOrdered : List Element → Bool
  | a :: b :: r =>
    bytesLe (encode a.tag a.content) (encode b.tag b.content) && isOrdered (b :: r)
  | _ => true

/-- Whether bytes are the content of a set of elements that satisfy `p`. -/
def isSet (p : Element → Bool) (content : List UInt8) : Bool :=
  (elements? content).any fun es => es.all p && isOrdered es

namespace Field

/-- A field that is there. -/
def required (tag : Nat) (fits : List UInt8 → Bool) : Field := ⟨some tag, false, fits⟩

/-- The field, which may be left out. -/
def optional (f : Field) : Field := { f with isOptional := true }

/-- A field of any type. -/
def anything : Field := ⟨none, false, fun _ => true⟩

/-- An object identifier. -/
def identifier : Field := required identifierTag isIdentifier

/-- A natural number. -/
def natural : Field := required integerTag fun c => (nat? c).isSome

/-- A natural number of at most `bits` bits. -/
def word (bits : Nat) : Field := required integerTag fun c => (nat? c).any (· < Nat.pow 2 bits)

/-- A byte string. -/
def octets : Field := required octetStringTag fun _ => true

/-- A byte string of fixed length. -/
def octetsOf (length : Nat) : Field := required octetStringTag fun c => c.length == length

/-- A bit string. -/
def bits : Field := required bitStringTag isBitString

/-- A sequence with fields of its own. -/
def record (fs : List Field) : Field := required sequenceTag (isRecord fs)

/-- A field within a tag, left out where it says what `default` says. -/
def tagged (n : Nat) (default : Option (List UInt8)) (f : Field) : Field :=
  ⟨some (explicitTag n), true, fun c => default != some c && (elements? c).any (haveFields [f])⟩

end Field

end QuoteService.Der
