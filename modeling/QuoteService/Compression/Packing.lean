import QuoteService.Compression.Block

/-!
# Packings

Blocks stand alone, or between a start that tells how they are packed and a sum over the data.

* `Packing`: the three packings.
* `Packing.unpack`: the data, as far as it goes; what follows it is not looked at.
-/

namespace QuoteService.Compression

/-- What stands around blocks. -/
inductive Packing where
  /-- Nothing. -/
  | bare
  /-- Two bytes in front, a sum of four bytes behind. -/
  | framed
  /-- What a packed file has in front, among it its name; a sum and the size behind. -/
  | file
  deriving DecidableEq

/-! ### Sums -/

/-- The remainder of a byte in front of a remainder, by the polynomial of the sum. -/
def remainderStep (sum : UInt32) (b : UInt8) : UInt32 :=
  (List.range 8).foldl (fun sum _ =>
    if sum &&& 1 = 1 then (sum >>> 1) ^^^ 0xEDB88320 else sum >>> 1) (sum ^^^ b.toUInt32)

/-- The sum of a packed file: a remainder by a polynomial. -/
def remainderSum (data : Array UInt8) : Nat :=
  (data.foldl remainderStep 0xFFFFFFFF ^^^ 0xFFFFFFFF).toNat

/-- The sum of framed data: one more than all bytes, and the sum of those sums. -/
def runningSum (data : Array UInt8) : Nat :=
  let (low, high) := data.foldl (fun (low, high) b =>
    let low := (low + b.toNat) % 65521
    (low, (high + low) % 65521)) (1, 0)
  high * 65536 + low

/-! ### What stands in front -/

/-- The start of framed data. -/
def framedStart : BitReader Unit := do
  let first ← number 8
  let second ← number 8
  .require ((first * 256 + second) % 31 == 0) .start
  .require (first % 16 == 8) .method
  .require (first / 16 ≤ 7) .window
  if second.testBit 5 then do
    let _ ← number 32
    .refuse .dictionary

/-- Passes over bytes up to a zero; at most `steps` of them. -/
def passText : Nat → BitReader Unit
  | 0 => fun _ => .error .short
  | steps + 1 => do
    let b ← number 8
    if b = 0 then pure () else passText steps

/-- Passes over a text that may be there. -/
def passOptional (isThere : Bool) : BitReader Unit := fun bits =>
  if isThere then passText bits.length bits else .ok ((), bits)

/-- The start of a packed file, the bytes of which are `data`. -/
def fileStart (data : List UInt8) : BitReader Unit := do
  .require ((← number 16) == 0x8B1F) .start
  let method ← number 8
  let flags ← number 8
  .require (method == 8) .method
  .require (flags < 0x20) .flags
  let _ ← numbers 8 6
  if flags.testBit 2 then do
    let length ← number 16
    let _ ← numbers 8 length
  passOptional (flags.testBit 3)
  passOptional (flags.testBit 4)
  if flags.testBit 1 then do
    let left := (← get).length / 8
    let sum ← number 16
    .require (sum == remainderSum (data.take (data.length - left)).toArray % 65536) .startSum

/-- What stands in front of blocks. -/
def Packing.start (p : Packing) (data : List UInt8) : BitReader Unit :=
  match p with
  | bare => pure ()
  | framed => framedStart
  | file => fileStart data

/-! ### What stands behind -/

/-- What stands behind the blocks of data. -/
def Packing.finish (p : Packing) (data : Array UInt8) : BitReader Unit := do
  match p with
  | bare => pure ()
  | framed =>
    let sum ← numbers 8 4
    .require (sum.foldl (fun n b => n * 256 + b) 0 == runningSum data) .sum
  | file =>
    .require ((← number 32) == remainderSum data) .sum
    .require ((← number 32) == data.size % 4294967296) .size

/-- Data that ends too early is the data so far. -/
def orSoFar {α : Type} (data : Array UInt8) (next : α → Except UnpackFault (Array UInt8)) :
    Except Halt α → Except UnpackFault (Array UInt8)
  | .ok a => next a
  | .error .short => .ok data
  | .error (.fault f) => .error f

/-- The data that is packed, as far as it goes. -/
def Packing.unpack (p : Packing) (packed : List UInt8) : Except UnpackFault (Array UInt8) :=
  orSoFar #[] (fun (_, bits) =>
      let (data, ending) := unpackBlocks bits
      orSoFar data (fun bits => orSoFar data (fun _ => .ok data) (p.finish data bits)) ending)
    (p.start packed (bitsOf packed))

end QuoteService.Compression
