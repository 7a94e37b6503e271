import QuoteService.Text.CodePoint

/-!
# Text as bytes

* `Utf8.encode`, `Utf8.decode`: characters as one to four bytes each, and back; only shortest forms
  are read.
* `Utf8.decodeLoose`: reads also a lone half of a pair, written in three bytes.
* `Utf8.mend`: what is not UTF-8 replaced by the replacement character.
* `Utf16.decodeLoose`, `Utf32.decodeLoose`: two or four bytes to the unit, in either byte order.
-/

namespace QuoteService

/-- The order of the bytes within a unit of two or four. -/
inductive ByteOrder where
  | big
  | little

namespace Utf8

/-- A byte that continues a character. -/
def isContinuation (b : UInt8) : Bool := 0x80 ≤ b && b ≤ 0xBF

/-- The six bits that a continuation byte carries. -/
def payload (b : UInt8) : Nat := b.toNat % 64

/-- The continuation byte that carries the low six bits of `n`. -/
def continuation (n : Nat) : UInt8 := UInt8.ofNat (0x80 + n % 64)

/-- The bytes of the character with number `n`. -/
def encodeNat (n : Nat) : List UInt8 :=
  if n < 0x80 then [UInt8.ofNat n]
  else if n < 0x800 then [UInt8.ofNat (0xC0 + n / 64), continuation n]
  else if n < 0x10000 then
    [UInt8.ofNat (0xE0 + n / 4096), continuation (n / 64), continuation n]
  else [UInt8.ofNat (0xF0 + n / 262144), continuation (n / 4096), continuation (n / 64),
    continuation n]

/-- The bytes of a text. -/
def encode (cs : List Char) : List UInt8 := cs.flatMap fun c => encodeNat c.toNat

/-- The bytes of a string. -/
def encodeString (s : String) : List UInt8 := encode s.toList

/-- Puts the code point with number `n` in front of a text that was read. -/
def consNat (n : Nat) (rest : Option Text) : Option Text :=
  match CodePoint.ofNat? n, rest with
  | some p, some t => some (p :: t)
  | _, _ => none

/-- Reads UTF-8 in which a lone half of a surrogate pair may stand as a character of three bytes.
Overlong forms and numbers beyond U+10FFFF are refused. -/
def decodeLoose : List UInt8 → Option Text
  | [] => some []
  | b :: r =>
    if b < 0x80 then consNat b.toNat (decodeLoose r)
    else match r with
      | [] => none
      | b1 :: r1 =>
        if !isContinuation b1 then none
        else if 0xC2 ≤ b && b ≤ 0xDF then
          consNat (b.toNat % 32 * 64 + payload b1) (decodeLoose r1)
        else match r1 with
          | [] => none
          | b2 :: r2 =>
            if !isContinuation b2 then none
            else if b == 0xE0 && b1 < 0xA0 then none
            else if 0xE0 ≤ b && b ≤ 0xEF then
              consNat (b.toNat % 16 * 4096 + payload b1 * 64 + payload b2) (decodeLoose r2)
            else match r2 with
              | [] => none
              | b3 :: r3 =>
                if !isContinuation b3 then none
                else if b == 0xF0 && b1 < 0x90 then none
                else if 0xF0 ≤ b && b ≤ 0xF4 then
                  consNat (b.toNat % 8 * 262144 + payload b1 * 4096 + payload b2 * 64 + payload b3)
                    (decodeLoose r3)
                else none

/-- Reads UTF-8 strictly: every code point is a scalar value. -/
def decode (bytes : List UInt8) : Option (List Char) :=
  (decodeLoose bytes).bind Text.toChars?

/-- The character that stands for bytes that are no UTF-8. -/
def replacement : List UInt8 := [0xEF, 0xBF, 0xBD]

/-- The bounds of the bytes that may follow a first byte; none for a byte that starts no character
or is one by itself. -/
def following (b : UInt8) : List (UInt8 × UInt8) :=
  if 0xC2 ≤ b && b ≤ 0xDF then [(0x80, 0xBF)]
  else if b == 0xE0 then [(0xA0, 0xBF), (0x80, 0xBF)]
  else if b == 0xED then [(0x80, 0x9F), (0x80, 0xBF)]
  else if 0xE1 ≤ b && b ≤ 0xEF then [(0x80, 0xBF), (0x80, 0xBF)]
  else if b == 0xF0 then [(0x90, 0xBF), (0x80, 0xBF), (0x80, 0xBF)]
  else if 0xF1 ≤ b && b ≤ 0xF3 then [(0x80, 0xBF), (0x80, 0xBF), (0x80, 0xBF)]
  else if b == 0xF4 then [(0x80, 0x8F), (0x80, 0xBF), (0x80, 0xBF)]
  else []

/-- Bytes with every longest start of a character that is not completed, and every byte that starts
none, replaced. `begun` is the start that is being read, the last byte first, and `due` bounds the
bytes that are due in it. -/
def mendFrom (begun : List UInt8) (due : List (UInt8 × UInt8)) : List UInt8 → List UInt8
  | [] => if begun.isEmpty then [] else replacement
  | b :: r =>
    match due with
    | (low, high) :: due =>
      if low ≤ b && b ≤ high then
        if due.isEmpty then (b :: begun).reverse ++ mendFrom [] [] r else mendFrom (b :: begun) due r
      else replacement ++ start b r
    | [] => start b r
where
  /-- Reads on with a byte that continues nothing. -/
  start (b : UInt8) (r : List UInt8) : List UInt8 :=
    if b < 0x80 then b :: mendFrom [] [] r
    else if (following b).isEmpty then replacement ++ mendFrom [] [] r
    else mendFrom [b] (following b) r

/-- Bytes with what is not UTF-8 replaced. -/
def mend (bytes : List UInt8) : List UInt8 := mendFrom [] [] bytes

end Utf8

namespace Utf16

/-- Pairs of bytes as numbers; an odd byte at the end is refused. -/
def units (order : ByteOrder) : List UInt8 → Option (List Nat)
  | [] => some []
  | [_] => none
  | a :: b :: r =>
    (units order r).map fun us =>
      (match order with
        | .big => a.toNat * 256 + b.toNat
        | .little => b.toNat * 256 + a.toNat) :: us

/-- Joins a high half and a low half that follow one another. -/
def join : List Nat → Option Text
  | [] => some []
  | [u] => (CodePoint.ofNat? u).map fun p => [p]
  | u :: v :: r =>
    if 0xD800 ≤ u ∧ u < 0xDC00 ∧ 0xDC00 ≤ v ∧ v < 0xE000 then
      Utf8.consNat (0x10000 + (u - 0xD800) * 0x400 + (v - 0xDC00)) (join r)
    else Utf8.consNat u (join (v :: r))

/-- Reads UTF-16; a half without its partner stays alone. -/
def decodeLoose (order : ByteOrder) (bytes : List UInt8) : Option Text :=
  (units order bytes).bind join

end Utf16

namespace Utf32

/-- Reads UTF-32; a number in the surrogate range is a lone half. -/
def decodeLoose (order : ByteOrder) : List UInt8 → Option Text
  | [] => some []
  | a :: b :: c :: d :: r =>
    let n := match order with
      | .big => ((a.toNat * 256 + b.toNat) * 256 + c.toNat) * 256 + d.toNat
      | .little => ((d.toNat * 256 + c.toNat) * 256 + b.toNat) * 256 + a.toNat
    Utf8.consNat n (decodeLoose order r)
  | _ => none

end Utf32

end QuoteService
