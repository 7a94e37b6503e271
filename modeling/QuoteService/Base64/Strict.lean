import QuoteService.Base64.Alphabet

/-!
# Strict Base64

Digits of the standard alphabet, then padding that completes the last group, then nothing. Bits of
the last digit that fill no byte may be anything.

* `decode`: the bytes, or the first fault from the left.
* `DecodeError.message`: the text of a fault.
-/

namespace QuoteService.Base64

/-- Why a text is not strict Base64. -/
inductive DecodeError where
  | nonAscii
  | leadingPadding
  | notADigit
  | discontinuousPadding
  | excessData
  | incorrectPadding
  | loneDigit (count : Nat)
  deriving DecidableEq

/-- The text of a fault. -/
def DecodeError.message : DecodeError → String
  | nonAscii => "string argument should contain only ASCII characters"
  | leadingPadding => "Leading padding not allowed"
  | notADigit => "Only base64 data is allowed"
  | discontinuousPadding => "Discontinuous padding not allowed"
  | excessData => "Excess data after padding"
  | incorrectPadding => "Incorrect padding"
  | loneDigit count =>
    "Invalid base64-encoded string: number of data characters (" ++ toString count ++
      ") cannot be 1 more than a multiple of 4"

/-- The values of the digits that a text starts with. -/
def leadingValues (a : Alphabet) (cs : List Char) : List Nat :=
  (cs.takeWhile a.isDigit).filterMap a.value?

/-- How many `=` complete a group in which `used` digits stand: none where it is whole or has one
digit only, since then no number of them helps. -/
def padsNeeded (used : Nat) : Option Nat :=
  match used with
  | 2 => some 2
  | 3 => some 1
  | _ => none

/-- The fault in what follows the leading digits, of which `count` were read. Once the padding
completes the last group nothing may follow; until then `=` is passed over, and what is neither
that nor the end is a fault. -/
def tailFault (count : Nat) (tail : List Char) : Option DecodeError :=
  let pads := tail.takeWhile (· == '=')
  let rest := tail.dropWhile (· == '=')
  match padsNeeded (count % 4) with
  | some needed =>
    if needed ≤ pads.length then
      if tail.length = needed then none else some .excessData
    else restFault pads rest (some .incorrectPadding)
  | none =>
    restFault pads rest (if count % 4 = 1 then some (.loneDigit count) else none)
where
  /-- The first character after the padding decides; at the end, whether the last group is whole. -/
  restFault (pads rest : List Char) (atEnd : Option DecodeError) : Option DecodeError :=
    match rest with
    | [] => atEnd
    | c :: _ =>
      if pads ≠ [] ∧ Alphabet.standard.isDigit c = true then some .discontinuousPadding
      else some .notADigit

/-- The bytes of a strict Base64 text. -/
def decode (cs : List Char) : Except DecodeError (List UInt8) :=
  if cs.any (fun c => 0x80 ≤ c.toNat) then .error .nonAscii
  else if cs.head? = some '=' then .error .leadingPadding
  else
    let values := leadingValues .standard cs
    match tailFault values.length (cs.dropWhile Alphabet.standard.isDigit) with
    | some fault => .error fault
    | none => .ok (bytes values)

end QuoteService.Base64
