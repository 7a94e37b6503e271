import QuoteService.Ber.Reader
import QuoteService.Certificate.Basic
import QuoteService.Text.Blank
import QuoteService.Text.CodePoint

/-!
# What a verifier reads of a certificate

The store of a verifier reads a certificate by its own, lenient rules, and then the extensions that
it knows. A certificate that it cannot read it does not take; one with an extension that it cannot
read it takes, but trusts for nothing.

* `isReadable`: whether the store takes a certificate.
* `namesAgree`: whether two names are the same but for blanks and case.
* `knownExtensions`: the extensions that are read, each with its form.
-/

namespace QuoteService.Certificate.Verifier

open QuoteService.Ber

/-! ### Elements -/

/-- Reads an object identifier. -/
def identifier : Reader := primitive 0x06

/-- Reads a whole number. -/
def integer : Reader := primitive 0x02

/-- Reads a byte string. -/
def octets : Reader := primitive 0x04

/-- Reads a bit string. -/
def bits : Reader := primitive 0x03

/-- Reads a truth value. -/
def truth : Reader := primitive 0x01

/-- Reads a text of ASCII. -/
def asciiText : Reader := primitive 0x16

/-- Reads a sequence of elements of one kind. -/
def sequenceOf (item : Reader) : Reader := listOf 0x10 item

/-- Reads a set of elements of one kind. -/
def setOf (item : Reader) : Reader := listOf 0x11 item

/-! ### Names -/

/-- The types of a value in a name. -/
def valueTypes : List Nat :=
  [0x03, 0x07, 0x08, 0x09, 0x0B, 0x0C, 0x0D, 0x0E, 0x0F, 0x10, 0x12, 0x13, 0x14, 0x16, 0x1C,
    0x1D, 0x1E]

/-- The types of a text that is shown. -/
def shownTypes : List Nat := [0x0C, 0x13, 0x14, 0x1C, 0x1E]

/-- Characters whose numbers are those of pairs or of fours of bytes. -/
def wideText? (width : Nat) : Nat → List UInt8 → Option (List Char)
  | _, [] => some []
  | 0, _ :: _ => none
  | fuel + 1, bs =>
    match CodePoint.ofNat? (Der.ofBigEndian (bs.take width)) with
    | some (.scalar c) => (wideText? width fuel (bs.drop width)).map (c :: ·)
    | _ => none

/-- The text of a value of some type, where it is compared as a text; none inside if it is no text of
its type. -/
def valueText (number : Nat) (content : List UInt8) : Option (Option (List Char)) :=
  match number with
  | 0x0C => some (Utf8.decode content)
  | 0x13 | 0x14 | 0x16 => some (some (content.map fun b => Char.ofNat b.toNat))
  | 0x1C => some (wideText? 4 content.length content)
  | 0x1E => some (wideText? 2 content.length content)
  | _ => none

/-- The white space of ASCII. -/
def isSpace (c : Char) : Bool := c == ' ' || (0x09 ≤ c.toNat && c.toNat ≤ 0x0D)

/-- A text with each run of blanks as one, given whether the last character was one. -/
def collapsed (afterSpace : Bool) : List Char → List Char
  | [] => []
  | c :: r =>
    if isSpace c then if afterSpace then collapsed true r else ' ' :: collapsed true r
    else c.toLower :: collapsed false r

/-- What a value is compared by: its type, and its content or its text without the blanks around it,
in lower case. -/
def valueKey (number : Nat) (content : List UInt8) : Nat × List Nat :=
  match valueText number content with
  | some (some cs) => (0x0C, (collapsed false (Text.trimBy isSpace cs)).map Char.toNat)
  | _ => (number, content.map UInt8.toNat)

/-- Reads a part of a name. -/
def namePart : Reader := record [.required identifier, .required (oneOf valueTypes)]

/-- The type and the key of a part of a name. -/
def partKey (part : Node) : Option (List UInt8 × Nat × List Nat) :=
  match part with
  | .branch [.leaf _ type, .leaf number content] =>
    match valueText number content with
    | some none => none
    | _ => some (type, valueKey number content)
  | _ => none

/-- The keys of the parts of a name, set by set; empty sets do not count. -/
def nameKeys (name : Node) : Option (List (List (List UInt8 × Nat × List Nat))) :=
  (name.nodes.filter fun s => !s.nodes.isEmpty).mapM fun s => s.nodes.mapM partKey

/-- Reads a name whose texts are texts of their types. -/
def name : Reader := fun tag isOptional bs =>
  match sequenceOf (setOf namePart) tag isOptional bs with
  | .found n rest => if (nameKeys n).isSome then .found n rest else .refused
  | other => other

/-- Whether two names are the same but for blanks and case, and the order within a set. -/
def namesAgree (a b : List UInt8) : Bool :=
  match (read? name a).bind nameKeys, (read? name b).bind nameKeys with
  | some as, some bs =>
    as.length == bs.length && (as.zip bs).all fun p => p.1.isPerm p.2
  | _, _ => false

/-! ### Certificates -/

/-- Reads an algorithm. -/
def algorithm : Reader := record [.required identifier, Field.optional (.required anything)]

/-- Reads a time. -/
def time : Reader := oneOf [0x17, 0x18]

/-- Reads an extension. -/
def extension : Reader :=
  record [.required identifier, Field.optional (.required truth), .required octets]

/-- Reads the part of a certificate that is signed. -/
def signed : Reader :=
  record
    [Field.optional (.explicit 0 integer), .required integer, .required algorithm, .required name,
      .required (record [.required time, .required time]), .required name,
      .required (record [.required algorithm, .required bits]),
      Field.optional (.implicit 1 bits), Field.optional (.implicit 2 bits),
      Field.optional (.explicit 3 (sequenceOf extension))]

/-- Whether the store of a verifier takes a certificate. -/
def isReadable (c : Certificate) : Bool :=
  (read? (record [.required signed, .required algorithm, .required bits]) c.der).isSome

/-! ### Extensions -/

/-- Reads a text of a directory. -/
def directoryText : Reader := oneOf shownTypes

/-- Reads the name of anything. -/
def generalName : Reader :=
  choice
    [.implicit 0 (record [.required identifier, .explicit 0 anything]), .implicit 1 asciiText,
      .implicit 2 asciiText, .implicit 3 (primitive 0x10), .explicit 4 name,
      .implicit 5 (record [Field.optional (.explicit 0 directoryText), .explicit 1 directoryText]),
      .implicit 6 asciiText, .implicit 7 octets, .implicit 8 identifier]

/-- Reads a tree of names. -/
def subtree : Reader :=
  record [.required generalName, Field.optional (.implicit 0 integer),
    Field.optional (.implicit 1 integer)]

/-- Reads a place where revocations are listed. -/
def listingPlace : Reader :=
  record
    [Field.optional (.explicit 0
        (choice [.implicit 0 (sequenceOf generalName), .implicit 1 (setOf namePart)])),
      Field.optional (.implicit 1 bits), Field.optional (.implicit 2 (sequenceOf generalName))]

/-- Whether a place where revocations are listed tells the place or who lists them. -/
def tellsPlace (place : Node) : Bool :=
  match place.at 0, place.at 2 with
  | .missing, issuer => !issuer.nodes.isEmpty
  | _, _ => true

/-- Reads ranges of one kind, or that they are those of the issuer. -/
def ranges (one : Reader) : Reader :=
  choice
    [.required (primitive 0x05),
      .required (sequenceOf (choice
        [.required one, .required (record [.required one, .required one])]))]

/-- The identifier of an extension of the general family. -/
def general (n : Nat) : List UInt8 := Der.identifier [2, 5, 29, n]

/-- The identifier of the constraints: whether the subject is an authority. -/
def constraints : List UInt8 := general 19

/-- The identifier of the usage of the key. -/
def usage : List UInt8 := general 15

/-- The identifier of the kind of a certificate by an older convention. -/
def kind : List UInt8 := Der.identifier [2, 16, 840, 1, 113730, 1, 1]

/-- The identifier of a certificate that stands in for its subject. -/
def proxy : List UInt8 := Der.identifier [1, 3, 6, 1, 5, 5, 7, 1, 14]

/-- The identifier of the places where revocations are listed. -/
def listing : List UInt8 := general 31

/-- The extensions that are read, each with its form. -/
def knownExtensions : List (List UInt8 × Reader) :=
  [(constraints, record [Field.optional (.required truth), Field.optional (.required integer)]),
    (proxy, record [Field.optional (.required integer),
      .required (record [.required identifier, Field.optional (.required octets)])]),
    (usage, bits),
    (general 37, sequenceOf identifier),
    (kind, bits),
    (general 14, octets),
    (general 35, record [Field.optional (.implicit 0 octets),
      Field.optional (.implicit 1 (sequenceOf generalName)), Field.optional (.implicit 2 integer)]),
    (general 17, sequenceOf generalName),
    (general 30, record [Field.optional (.implicit 0 (sequenceOf subtree)),
      Field.optional (.implicit 1 (sequenceOf subtree))]),
    (listing, sequenceOf listingPlace),
    (Der.identifier [1, 3, 6, 1, 5, 5, 7, 1, 7],
      sequenceOf (record [.required octets, .required (ranges bits)])),
    (Der.identifier [1, 3, 6, 1, 5, 5, 7, 1, 8],
      record [Field.optional (.explicit 0 (ranges integer)),
        Field.optional (.explicit 1 (ranges integer))])]

end QuoteService.Certificate.Verifier
