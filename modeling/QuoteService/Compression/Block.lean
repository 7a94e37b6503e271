import QuoteService.Compression.PrefixCode

/-!
# Blocks of packed data

Packed data is a row of blocks. A block holds bytes as they are, or words for bytes and for copies of
what was unpacked before; the words are fixed or told in front.

* `Token`: a byte, a copy, or the end of a block.
* `unpackBlocks`: the bytes of all blocks, as far as the data goes.
-/

namespace QuoteService.Compression

/-- What a word of a block stands for. -/
inductive Token where
  | literal (b : UInt8)
  | copy (length distance : Nat)
  | blockEnd
  deriving DecidableEq

/-- The two codes of a block. -/
structure BlockCodes where
  /-- Words for bytes, for the end of the block, and for lengths of copies. -/
  literals : PrefixCode
  /-- Words for distances of copies. -/
  distances : PrefixCode

/-! ### Codes -/

/-- The code where none is told. -/
def BlockCodes.fixed : BlockCodes :=
  ⟨.ofLengths (List.replicate 144 8 ++ List.replicate 112 9 ++ List.replicate 24 7 ++
    List.replicate 8 8), .ofLengths (List.replicate 30 5)⟩

/-- The symbols of the code in which lengths of words are told, in the order of their own lengths. -/
def lengthSymbols : List Nat := [16, 17, 18, 0, 8, 7, 9, 6, 10, 5, 11, 4, 12, 3, 13, 2, 14, 1, 15]

/-- The code in which lengths of words are told. Without words each bit tells the length zero. -/
def lengthCode (lengths : List Nat) : BitReader PrefixCode :=
  let told := lengthSymbols.zip lengths
  let code := PrefixCode.ofLengths ((List.range 19).map fun s => (told.lookup s).getD 0)
  if code.levels == [[]] then pure ⟨[[0, 0]]⟩
  else if code.isComplete then pure code
  else .refuse .lengthCode

/-- What a symbol of that code stands for, after `found`, the nearest first: a length, the last one
again, or zeros. -/
def lengthsOf (found : List Nat) (symbol : Nat) : BitReader (List Nat) := do
  match symbol with
  | 16 =>
    let n ← number 2
    match found with
    | [] => .refuse .lengthRepeat
    | last :: _ => pure (List.replicate (3 + n) last)
  | 17 =>
    let n ← number 3
    pure (List.replicate (3 + n) 0)
  | 18 =>
    let n ← number 7
    pure (List.replicate (11 + n) 0)
  | length => pure [length]

/-- The next `total` lengths of words, of which `found` are there already, the nearest first; at most
`steps` symbols are read. -/
def wordLengths (code : PrefixCode) (total : Nat) : Nat → List Nat → BitReader (List Nat)
  | 0, found => pure found.reverse
  | steps + 1, found =>
    if total ≤ found.length then pure found.reverse
    else do
      let symbol ← code.symbol
      let next ← lengthsOf found (symbol.getD 0)
      .require (found.length + next.length ≤ total) .lengthRepeat
      wordLengths code total steps (next.reverse ++ found)

/-- The codes that a block tells in front. -/
def toldCodes : BitReader BlockCodes := do
  let literalCount := 257 + (← number 5)
  let distanceCount := 1 + (← number 5)
  let lengthCount := 4 + (← number 4)
  .require (literalCount ≤ 286 && distanceCount ≤ 30) .tooManySymbols
  let code ← lengthCode (← numbers 3 lengthCount)
  let total := literalCount + distanceCount
  let lengths ← wordLengths code total total []
  .require (lengths[256]? != some 0) .noBlockEnd
  let literals := PrefixCode.ofLengths (lengths.take literalCount)
  .require literals.isReadable .literalCode
  let distances := PrefixCode.ofLengths (lengths.drop literalCount)
  .require distances.isReadable .distanceCode
  pure ⟨literals, distances⟩

/-! ### Words -/

/-- The least length that each symbol from 257 on stands for, and how many bits tell how much more. -/
def lengthBases : List (Nat × Nat) :=
  [(3, 0), (4, 0), (5, 0), (6, 0), (7, 0), (8, 0), (9, 0), (10, 0), (11, 1), (13, 1), (15, 1),
    (17, 1), (19, 2), (23, 2), (27, 2), (31, 2), (35, 3), (43, 3), (51, 3), (59, 3), (67, 4), (83, 4),
    (99, 4), (115, 4), (131, 5), (163, 5), (195, 5), (227, 5), (258, 0)]

/-- The least distance that each symbol stands for, and how many bits tell how much more. -/
def distanceBases : List (Nat × Nat) :=
  [(1, 0), (2, 0), (3, 0), (4, 0), (5, 1), (7, 1), (9, 2), (13, 2), (17, 3), (25, 3), (33, 4), (49, 4),
    (65, 5), (97, 5), (129, 6), (193, 6), (257, 7), (385, 7), (513, 8), (769, 8), (1025, 9), (1537, 9),
    (2049, 10), (3073, 10), (4097, 11), (6145, 11), (8193, 12), (12289, 12), (16385, 13), (24577, 13)]

/-- The number that a symbol stands for, which counts from `first` on. -/
def valueOf (bases : List (Nat × Nat)) (first : Nat) (symbol : Option Nat) (f : UnpackFault) :
    BitReader Nat :=
  match symbol.bind fun s => bases[s - first]? with
  | some (base, width) => do
    let more ← number width
    pure (base + more)
  | none => .refuse f

/-- What the next word stands for. -/
def token (c : BlockCodes) : BitReader Token := do
  let symbol ← c.literals.symbol
  match symbol with
  | some s =>
    if s < 256 then return .literal (UInt8.ofNat s)
    if s = 256 then return .blockEnd
  | none => pure ()
  let length ← valueOf lengthBases 257 symbol .literal
  let distance ← valueOf distanceBases 0 (← c.distances.symbol) .distance
  pure (.copy length distance)

/-- The data with the last `distance` bytes of it copied on, over and over, up to `length` bytes. -/
def copied (data : Array UInt8) (distance : Nat) : Nat → Array UInt8
  | 0 => data
  | length + 1 => copied (data.push (data.getD (data.size - distance) 0)) distance length

/-- What came of unpacking: the data so far, and the bits left or why it stopped. -/
abbrev Unpacked : Type := Array UInt8 × Except Halt (List Bool)

/-- The data with what the words of a block stand for; at most `steps` words are read. -/
def unpackWords (c : BlockCodes) : Nat → Array UInt8 → List Bool → Unpacked
  | 0, data, _ => (data, .error .short)
  | steps + 1, data, bits =>
    match token c bits with
    | .error h => (data, .error h)
    | .ok (.blockEnd, bits) => (data, .ok bits)
    | .ok (.literal b, bits) => unpackWords c steps (data.push b) bits
    | .ok (.copy length distance, bits) =>
      if distance ≤ data.size then unpackWords c steps (copied data distance length) bits
      else (data, .error (.fault .distanceTooFar))

/-! ### Blocks -/

/-- The data with the next `length` bytes as they are. -/
def unpackBytes : Nat → Array UInt8 → List Bool → Unpacked
  | 0, data, bits => (data, .ok bits)
  | length + 1, data, bits =>
    match number 8 bits with
    | .error h => (data, .error h)
    | .ok (b, bits) => unpackBytes length (data.push (UInt8.ofNat b)) bits

/-- How many bytes stand as they are in a block; the number is there a second time, with all its bits
turned. -/
def storedLength : BitReader Nat := do
  let length ← number 16
  let turned ← number 16
  .require (length + turned = 0xFFFF) .storedLength
  pure length

/-- What a block starts with: whether it is the last one, and its kind. -/
def blockStart : BitReader (Bool × Nat) := do
  let isLast ← bit
  let kind ← number 2
  pure (isLast, kind)

/-- The data with that of a block of some kind. -/
def unpackBlock (kind : Nat) (data : Array UInt8) (bits : List Bool) : Unpacked :=
  match kind with
  | 0 =>
    match storedLength (aligned bits) with
    | .error h => (data, .error h)
    | .ok (length, bits) => unpackBytes length data bits
  | 1 => unpackWords .fixed bits.length data bits
  | 2 =>
    match toldCodes bits with
    | .error h => (data, .error h)
    | .ok (codes, bits) => unpackWords codes bits.length data bits
  | _ => (data, .error (.fault .blockKind))

/-- The data with that of the blocks up to the last one; at most `steps` of them are read. -/
def unpackFrom : Nat → Array UInt8 → List Bool → Unpacked
  | 0, data, _ => (data, .error .short)
  | steps + 1, data, bits =>
    match blockStart bits with
    | .error h => (data, .error h)
    | .ok ((isLast, kind), bits) =>
      match unpackBlock kind data bits with
      | (data, .error h) => (data, .error h)
      | (data, .ok bits) =>
        if isLast then (data, .ok (aligned bits)) else unpackFrom steps data bits

/-- The data of blocks. Each of them takes up bits, so there are no more of them than bits. -/
def unpackBlocks (bits : List Bool) : Unpacked := unpackFrom bits.length #[] bits

end QuoteService.Compression
