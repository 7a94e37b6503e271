import QuoteService.Base64.Strict
import QuoteService.Pem.Marker

/-!
# PEM bundles

A bundle is what one pass over the lines of a text picks out: the last private key and every
certificate.

* `Scan.step`: the effect of one line.
* `Bundle.ofText`: the bundle of a text, or the first fault in the Base64 of a block.
* `encodeBlock`: a block as text, 64 digits to the line.
-/

namespace QuoteService.Pem

/-- The bodies of the blocks of a text. -/
structure Bundle where
  privateKey : Option (List UInt8)
  certificates : List (List UInt8)
  deriving DecidableEq

namespace Bundle

/-- Nothing found yet. -/
def empty : Bundle := ⟨none, []⟩

/-- Adds the body of a block: a key takes the place of the one before, certificates line up. -/
def add (b : Bundle) (kind : BlockKind) (body : List UInt8) : Bundle :=
  match kind with
  | .privateKey => { b with privateKey := some body }
  | .certificate => { b with certificates := b.certificates ++ [body] }

end Bundle

/-- What has been found, and the kind and lines of the block that is open. -/
structure Scan where
  found : Bundle
  block : Option (BlockKind × List (List Char))

namespace Scan

/-- Nothing found and no block open. -/
def start : Scan := ⟨.empty, none⟩

/-- A line that is no marker of its own belongs to the open block, if there is one. -/
def collect (s : Scan) (line : List Char) : Scan :=
  { s with block := s.block.map fun (kind, lines) => (kind, lines ++ [line]) }

/-- The effect of one trimmed line. An opening marker starts afresh whatever was open. A closing
marker ends a block of its kind; within a block of the other kind it is a line like any other. -/
def step (s : Scan) (line : List Char) : Except Base64.DecodeError Scan :=
  match Marker.ofLine? line with
  | some (.opening kind) => .ok { s with block := some (kind, []) }
  | some (.closing kind) =>
    match s.block with
    | some (opened, lines) =>
      if opened = kind then
        (Base64.decode lines.flatten).map fun body => ⟨s.found.add kind body, none⟩
      else .ok (s.collect line)
    | none => .ok s
  | none => .ok (s.collect line)

end Scan

/-- The blocks of a text. -/
def Bundle.ofText (text : List Char) : Except Base64.DecodeError Bundle :=
  ((contentLines text).foldlM Scan.step Scan.start).map Scan.found

/-- Characters in lines of `n`, each with a line feed; `fuel` bounds their number. -/
def wrapLines (n : Nat) : Nat → List Char → List Char
  | 0, _ => []
  | _, [] => []
  | fuel + 1, c :: cs => (c :: cs).take n ++ '\n' :: wrapLines n fuel ((c :: cs).drop n)

/-- A block as text. -/
def encodeBlock (kind : BlockKind) (body : List UInt8) : List Char :=
  let digits := Base64.Alphabet.standard.encodePadded body
  (Marker.opening kind).text.toList ++ '\n' :: wrapLines 64 digits.length digits ++
    (Marker.closing kind).text.toList ++ ['\n']

end QuoteService.Pem
