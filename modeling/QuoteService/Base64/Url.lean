import QuoteService.Base64.Alphabet

/-!
# Base64url segments

A segment is digits of the URL alphabet, without padding or with the padding that fills its last
group. Bits of the last digit that fill no byte are zero, so each byte string has one spelling up
to padding.

* `decodeUrl`: the bytes of a segment.
* `encodeUrl`: the segment without padding.
-/

namespace QuoteService.Base64

/-- The segment that holds `bs`, without padding. -/
def encodeUrl (bs : List UInt8) : List Char := Alphabet.url.encode bs

/-- The bytes of a segment. -/
def decodeUrl (cs : List Char) : Option (List UInt8) :=
  let ds := cs.takeWhile Alphabet.url.isDigit
  let pad := cs.dropWhile Alphabet.url.isDigit
  let bs := bytes (ds.filterMap Alphabet.url.value?)
  if (pad = [] ∨ ((pad = ['='] ∨ pad = ['=', '=']) ∧ cs.length % 4 = 0)) ∧ encodeUrl bs = ds then
    some bs
  else none

end QuoteService.Base64
