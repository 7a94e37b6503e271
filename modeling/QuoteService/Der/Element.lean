/-!
# DER elements

An element is a type of one byte or more, a length in its shortest form, and a content.

* `encode`: the bytes of an element.
* `next?`, `elements?`, `whole?`: the element in front, all elements, the only element.
* `nat?`, `encodeNat`: natural numbers as the content of an integer.
-/

namespace QuoteService.Der

/-- An element by its type and its content. The type is the number that its bytes spell. -/
structure Element where
  tag : Nat
  content : List UInt8
  deriving DecidableEq

/-- The bytes of a natural number, the highest first, none for zero. -/
def bigEndian (n : Nat) : List UInt8 :=
  if n = 0 then [] else bigEndian (n / 256) ++ [UInt8.ofNat (n % 256)]
termination_by n
decreasing_by omega

/-- The natural number of bytes, the highest first. -/
def ofBigEndian (bs : List UInt8) : Nat := bs.foldl (fun n b => n * 256 + b.toNat) 0

/-- A natural number in exactly `count` bytes; higher ones are dropped. -/
def fixedBytes : Nat → Nat → List UInt8
  | 0, _ => []
  | count + 1, n => fixedBytes count (n / 256) ++ [UInt8.ofNat (n % 256)]

/-- The shortest form of a length. -/
def lengthBytes (n : Nat) : List UInt8 :=
  if n < 0x80 then [UInt8.ofNat n]
  else UInt8.ofNat (0x80 + (bigEndian n).length) :: bigEndian n

/-- The bytes of a type. -/
def tagBytes (tag : Nat) : List UInt8 := if tag < 0x100 then [UInt8.ofNat tag] else bigEndian tag

/-- The bytes of an element. -/
def encode (tag : Nat) (content : List UInt8) : List UInt8 :=
  tagBytes tag ++ (lengthBytes content.length ++ content)

/-- Types. -/
abbrev booleanTag : Nat := 0x01
abbrev integerTag : Nat := 0x02
abbrev bitStringTag : Nat := 0x03
abbrev octetStringTag : Nat := 0x04
abbrev nullTag : Nat := 0x05
abbrev identifierTag : Nat := 0x06
abbrev utcTimeTag : Nat := 0x17
abbrev generalizedTimeTag : Nat := 0x18
abbrev sequenceTag : Nat := 0x30
abbrev setTag : Nat := 0x31

/-- The type of a tagged element that holds others. -/
def explicitTag (n : Nat) : Nat := 0xA0 + n

/-- The type of a tagged element in place of a primitive one. -/
def implicitTag (n : Nat) : Nat := 0x80 + n

/-- A number in groups of seven bits, the highest first, each byte but the last with its top bit set;
in its shortest form and below 2³². -/
def group? (n : Nat) : List UInt8 → Option (Nat × List UInt8)
  | [] => none
  | b :: r =>
    let m := n * 128 + b.toNat % 128
    if m = 0 ∧ b ≠ 0 ∨ 0x100000000 ≤ m then none
    else if b < 0x80 then some (m, r)
    else group? m r

/-- A type at the start of bytes. A number beyond 30 follows the first byte in groups. -/
def tag? : List UInt8 → Option (Nat × List UInt8)
  | [] => none
  | b :: r =>
    if b &&& 0x1F = 0x1F then
      match group? 0 r with
      | some (n, rest) =>
        if n < 0x1F then none else some (ofBigEndian (b :: r.take (r.length - rest.length)), rest)
      | none => none
    else some (b.toNat, r)

/-- A length at the start of bytes, in its shortest form and of four bytes at most. -/
def length? : List UInt8 → Option (Nat × List UInt8)
  | [] => none
  | b :: r =>
    if b < 0x80 then some (b.toNat, r)
    else
      let count := b.toNat - 0x80
      let n := ofBigEndian (r.take count)
      if 1 ≤ count ∧ count ≤ 4 ∧ lengthBytes n = b :: r.take count then some (n, r.drop count)
      else none

/-- The element in front, and what follows it. -/
def next? (bs : List UInt8) : Option (Element × List UInt8) := do
  let (tag, r) ← tag? bs
  let (n, rest) ← length? r
  if rest.length < n then none else some (⟨tag, rest.take n⟩, rest.drop n)

/-- All elements of bytes; `fuel` bounds their number. -/
def elementsWithin : Nat → List UInt8 → Option (List Element)
  | _, [] => some []
  | 0, _ :: _ => none
  | fuel + 1, b :: r =>
    match next? (b :: r) with
    | none => none
    | some (e, rest) => (elementsWithin fuel rest).map (e :: ·)

/-- All elements of bytes. -/
def elements? (bs : List UInt8) : Option (List Element) := elementsWithin bs.length bs

/-- The content of bytes that are one element of type `tag`. -/
def whole? (tag : Nat) (bs : List UInt8) : Option (List UInt8) :=
  match next? bs with
  | some (e, []) => if e.tag = tag then some e.content else none
  | _ => none

/-- The elements of a sequence that is all there is. -/
def sequence? (bs : List UInt8) : Option (List Element) :=
  (whole? sequenceTag bs).bind elements?

/-- Whether bytes are the shortest content of an integer. -/
def isInteger : List UInt8 → Bool
  | [] => false
  | [_] => true
  | a :: b :: _ => !(a == 0x00 && b < 0x80) && !(a == 0xFF && 0x80 ≤ b)

/-- The natural number of the content of an integer. -/
def nat? (content : List UInt8) : Option Nat :=
  match content with
  | a :: _ => if isInteger content ∧ a < 0x80 then some (ofBigEndian content) else none
  | [] => none

/-- The content of an integer that is not negative. -/
def natContent (n : Nat) : List UInt8 :=
  match bigEndian n with
  | [] => [0]
  | b :: r => if b < 0x80 then b :: r else 0 :: b :: r

/-- A natural number as an integer element. -/
def encodeNat (n : Nat) : List UInt8 := encode integerTag (natContent n)

/-- The most bytes of an object identifier. -/
def maxIdentifier : Nat := 63

/-- Whether bytes are the groups of an object identifier; `fuel` bounds their number. -/
def areGroups : Nat → List UInt8 → Bool
  | _, [] => true
  | 0, _ :: _ => false
  | fuel + 1, b :: r =>
    match group? 0 (b :: r) with
    | some (_, rest) => areGroups fuel rest
    | none => false

/-- Whether bytes are the content of an object identifier. -/
def isIdentifier (bs : List UInt8) : Bool :=
  !bs.isEmpty && bs.length ≤ maxIdentifier && areGroups bs.length bs

/-- The lowest `count` groups of seven bits of a number, each with its top bit set; zeros in front are
left out. -/
def higherGroups : Nat → Nat → List UInt8
  | 0, _ => []
  | count + 1, n =>
    if n = 0 then [] else higherGroups count (n / 128) ++ [UInt8.ofNat (0x80 + n % 128)]

/-- A number below 2³⁵ in groups of seven bits; all bytes but the last have their top bit set. -/
def groupBytes (n : Nat) : List UInt8 := higherGroups 4 (n / 128) ++ [UInt8.ofNat (n % 128)]

/-- The content of the object identifier with some arcs. -/
def identifier : List Nat → List UInt8
  | a :: b :: r => groupBytes (40 * a + b) ++ r.flatMap groupBytes
  | _ => []

/-- Whether bytes are the content of a bit string: how many bits of the last byte are unused, and
those are zero. -/
def isBitString : List UInt8 → Bool
  | [] => false
  | unused :: bs =>
    match bs.getLast? with
    | none => unused == 0
    | some last => unused < 8 && last.toNat % Nat.pow 2 unused.toNat == 0

/-- The bytes of a bit string; unused bits at the end are zero. -/
def bitStringBytes? (content : List UInt8) : Option (List UInt8) :=
  if isBitString content then some (content.drop 1) else none

/-- A bit string of whole bytes. -/
def encodeBitString (bs : List UInt8) : List UInt8 := encode bitStringTag (0 :: bs)

end QuoteService.Der
