import QuoteService.Certificate.Verifier
import QuoteService.Key.PublicShape

/-!
# Authorities

* `Certificate.isAuthority`: whether a verifier trusts a certificate to sign others.
-/

namespace QuoteService.Certificate

open QuoteService.Ber

/-- What is read of an extension that a certificate may have. -/
inductive Extension where
  | absent
  | unreadable
  | present (n : Node)

/-- An extension as a verifier reads it; one that is there twice is unreadable. -/
def extension (c : Certificate) (identifier : List UInt8) (reader : Reader) : Extension :=
  match c.fields.extensions.filter fun e => e.1 = identifier with
  | [] => .absent
  | [e] =>
    match read? reader e.2 with
    | some n => .present n
    | none => .unreadable
  | _ => .unreadable

/-- The known extension with some identifier. -/
def known (c : Certificate) (identifier : List UInt8) : Extension :=
  match Verifier.knownExtensions.find? fun k => k.1 = identifier with
  | some k => c.extension identifier k.2
  | none => .absent

/-- The element that an extension holds, if it can be read. -/
def Extension.node? : Extension → Option Node
  | present n => some n
  | _ => none

/-- The bytes of the bits of an element, the unused ones at the end as zero. -/
def bitsOf (n : Node) : List UInt8 :=
  match n.content? with
  | some (unused :: bs) =>
    match bs.reverse with
    | [] => []
    | last :: r => (UInt8.ofNat (last.toNat / Nat.pow 2 unused.toNat * Nat.pow 2 unused.toNat) :: r).reverse
  | _ => []

/-- Whether constraints say that the subject is an authority. -/
def allowsSigning (constraints : Node) : Bool :=
  match (constraints.at 0).content? with
  | some (b :: _) => b != 0
  | _ => false

/-- Whether constraints bound the length of a chain by a negative number. -/
def hasNegativeBound (constraints : Node) : Bool :=
  match (constraints.at 1).content? with
  | some (b :: _) => 0x80 ≤ b
  | _ => false

/-- Whether an authority or one with other names is said to stand in for its subject. -/
def misusesProxy (c : Certificate) : Bool :=
  (c.known Verifier.proxy).node?.isSome &&
    ((c.known Verifier.constraints).node?.any allowsSigning ||
      c.fields.extensions.any fun e => e.1 = Verifier.general 17 ∨ e.1 = Verifier.general 18)

/-- Whether all known extensions can be read and mean something. -/
def isMeaningful (c : Certificate) : Bool :=
  (Verifier.knownExtensions.all fun k =>
      match c.extension k.1 k.2 with
      | .unreadable => false
      | _ => true) &&
    !(c.known Verifier.constraints).node?.any hasNegativeBound &&
    !(c.known Verifier.usage).node?.any (fun n => ((bitsOf n).take 2).all (· == 0)) &&
    ((c.known Verifier.listing).node?.all fun n => n.nodes.all Verifier.tellsPlace) &&
    !c.misusesProxy

/-- Identifiers of signatures by keys with an identifier of their own, the latter first. -/
def signatureFamilies : List (List UInt8 × List (List UInt8)) :=
  [(Der.Algorithm.rsa,
      Der.identifier [1, 3, 14, 3, 2, 29] ::
        Der.Algorithm.family [1, 2, 840, 113549, 1, 1] [2, 3, 4, 5, 10, 11, 12, 13, 14, 15, 16] ++
          Der.Algorithm.family [2, 16, 840, 1, 101, 3, 4, 3] [13, 14, 15, 16]),
    (Der.Algorithm.rsaSalted, [Der.Algorithm.rsaSalted]),
    (Der.Algorithm.curveKey,
      Der.identifier [1, 2, 840, 10045, 4, 1] ::
        Der.Algorithm.family [1, 2, 840, 10045, 4, 3] [1, 2, 3, 4] ++
          Der.Algorithm.family [2, 16, 840, 1, 101, 3, 4, 3] [9, 10, 11, 12]),
    (Der.Algorithm.modularKey,
      Der.identifier [1, 2, 840, 10040, 4, 3] ::
        Der.Algorithm.family [2, 16, 840, 1, 101, 3, 4, 3] [1, 2, 3, 4, 5, 6, 7, 8]),
    (RawKind.ed25519.identifier, [RawKind.ed25519.identifier]),
    (RawKind.ed448.identifier, [RawKind.ed448.identifier])]

/-- Whether the key of a certificate is one that could have signed it. -/
def keySuits (c : Certificate) : Bool :=
  match (Der.sequence? c.fields.key).map fun es => es.map (·.content) with
  | some [algorithm, _] =>
    match (Der.elements? algorithm).bind List.head? with
    | some e =>
      Key.isGeneralPublic c.fields.key &&
        signatureFamilies.any fun f => f.1 = e.content ∧ f.2.contains c.fields.algorithm
    | none => false
  | _ => false

/-- Whether a certificate of the first version is its own issuer. -/
def isOldRoot (c : Certificate) : Bool :=
  c.fields.version == 0 && Verifier.namesAgree c.fields.issuer c.fields.subject && c.keySuits

/-- Whether a verifier trusts a certificate to sign others. All that it says has to mean something, and
a usage of the key has to allow it; then the constraints decide; without them, that it is an old
root, or has a usage, or is of a kind that signs by an older convention. -/
def isAuthority (c : Certificate) : Bool :=
  let usage := (c.known Verifier.usage).node?.map bitsOf
  let kind := (c.known Verifier.kind).node?.map bitsOf
  c.isMeaningful &&
    (usage.all fun bs => bs.head?.any fun b => b &&& 0x04 != 0) &&
    match (c.known Verifier.constraints).node? with
    | some constraints => allowsSigning constraints
    | none => c.isOldRoot || usage.isSome || kind.any fun bs => bs.head?.any fun b => b &&& 0x07 != 0

end QuoteService.Certificate
