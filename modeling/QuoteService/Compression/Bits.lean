/-!
# Reading bits

Packed data is read bit by bit: the bits of a byte from the lowest on, and a number from its lowest bit
on.

* `bitsOf`: the bits of bytes.
* `BitReader`: reads from the front of bits, unless they end too early or are at fault.
* `number`, `bytes`: a number of some bits, and some bytes.
* `aligned`: what is left of the bits after the byte that was begun.
-/

namespace QuoteService.Compression

/-- Why packed data cannot be unpacked. -/
inductive UnpackFault where
  /-- The data does not start as its packing demands. -/
  | start
  | method
  | flags
  | startSum
  | window
  /-- The data continues other data, which is not known. -/
  | dictionary
  | blockKind
  | storedLength
  | tooManySymbols
  | lengthCode
  | lengthRepeat
  | noBlockEnd
  | literalCode
  | distanceCode
  | literal
  | distance
  /-- A copy starts in front of all data. -/
  | distanceTooFar
  | sum
  | size
  deriving DecidableEq

/-- What is wrong with the data, where there is more to say than that it cannot go on. -/
def UnpackFault.reason : UnpackFault → String
  | start => "incorrect header check"
  | method => "unknown compression method"
  | flags => "unknown header flags set"
  | startSum => "header crc mismatch"
  | window => "invalid window size"
  | dictionary => ""
  | blockKind => "invalid block type"
  | storedLength => "invalid stored block lengths"
  | tooManySymbols => "too many length or distance symbols"
  | lengthCode => "invalid code lengths set"
  | lengthRepeat => "invalid bit length repeat"
  | noBlockEnd => "invalid code -- missing end-of-block"
  | literalCode => "invalid literal/lengths set"
  | distanceCode => "invalid distances set"
  | literal => "invalid literal/length code"
  | distance => "invalid distance code"
  | distanceTooFar => "invalid distance too far back"
  | sum => "incorrect data check"
  | size => "incorrect length check"

/-- The text of the fault. -/
def UnpackFault.message (f : UnpackFault) : String :=
  if f = .dictionary then "Error 2 while decompressing data"
  else "Error -3 while decompressing data: " ++ f.reason

/-- Why reading stops. -/
inductive Halt where
  /-- The data ends too early. -/
  | short
  | fault (f : UnpackFault)
  deriving DecidableEq

/-- Reads from the front of bits. -/
abbrev BitReader : Type → Type := StateT (List Bool) (Except Halt)

/-- Stops at a fault. -/
def BitReader.refuse {α : Type} (f : UnpackFault) : BitReader α := fun _ => .error (.fault f)

/-- Stops at a fault unless a condition holds. -/
def BitReader.require (holds : Bool) (f : UnpackFault) : BitReader Unit :=
  if holds then pure () else .refuse f

/-- The bits of a byte, the lowest first. -/
def bitsOfByte (b : UInt8) : List Bool := (List.range 8).map b.toNat.testBit

/-- The bits of bytes. -/
def bitsOf (bs : List UInt8) : List Bool := bs.flatMap bitsOfByte

/-- The next bit. -/
def bit : BitReader Bool
  | [] => .error .short
  | b :: r => .ok (b, r)

/-- The number whose bits are the next `n`. -/
def number : Nat → BitReader Nat
  | 0 => pure 0
  | n + 1 => do
    let low ← bit
    let high ← number n
    pure (low.toNat + 2 * high)

/-- The next `n` numbers of `width` bits. -/
def numbers (width : Nat) : Nat → BitReader (List Nat)
  | 0 => pure []
  | n + 1 => do
    let first ← number width
    let others ← numbers width n
    pure (first :: others)

/-- The bits left once the byte that was begun is passed over. -/
def aligned (bits : List Bool) : List Bool := bits.drop (bits.length % 8)

end QuoteService.Compression
