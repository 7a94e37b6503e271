import QuoteService.Der.Element

/-!
# Lenient elements

In the lenient form the length of an element may be written in more bytes than it needs, a mark of two
zero bytes may tell its end, and a string may be given in parts.

* `Node`: what an element holds.
* `Reading`: an element was found, or another one stands there, or there is none that can be read.
* `primitive`, `record`, `listOf`, `choice`, `anything`: readers for the forms of elements.
-/

namespace QuoteService.Ber

/-! ### Headers -/

/-- The class and the number of a type. -/
abbrev Tag := Nat × Nat

/-- A type that means the same everywhere. -/
abbrev universal (n : Nat) : Tag := (0, n)

/-- A type that its place gives a meaning. -/
abbrev contextual (n : Nat) : Tag := (2, n)

/-- What stands in front of the content of an element; without a length a mark ends it. -/
structure Header where
  tag : Tag
  isConstructed : Bool
  length : Option Nat

/-- A type number beyond 30, given the groups in front. -/
def number? (n : Nat) : List UInt8 → Option (Nat × List UInt8)
  | [] => none
  | b :: r =>
    let m := n * 128 + b.toNat % 128
    if b < 0x80 then some (m, r) else if 0x7FFFFFFF / 128 < m then none else number? m r

/-- A length. Zeros may stand in front, and something follows a length of several bytes. -/
def length? : List UInt8 → Option (Option Nat × List UInt8)
  | [] => none
  | b :: r =>
    if b < 0x80 then some (some b.toNat, r)
    else if b = 0x80 then some (none, r)
    else
      let count := b.toNat - 0x80
      let digits := (r.take count).dropWhile (· == 0)
      let n := Der.ofBigEndian digits
      if r.length ≤ count ∨ 8 < digits.length ∨ 0x8000000000000000 ≤ n then none else some (some n, r.drop count)

/-- The header in front of bytes that hold the whole element, if its length is told. -/
def header? : List UInt8 → Option (Header × List UInt8)
  | [] => none
  | b :: r => do
    let (number, r) ← if b % 32 = 31 then number? 0 r else some (b.toNat % 32, r)
    let (length, r) ← length? r
    let h : Header := ⟨(b.toNat / 64, number), b / 32 % 2 = 1, length⟩
    match length with
    | some n => if n ≤ r.length then some (h, r) else none
    | none => if h.isConstructed then some (h, r) else none

/-- Whether the mark of an end stands here. -/
def startsMark : List UInt8 → Bool
  | 0 :: 0 :: _ => true
  | _ => false

/-! ### What readers find -/

/-- What an element holds: the type and the content of a primitive one, other elements, or nothing
where an element is left out. -/
inductive Node where
  | leaf (number : Nat) (content : List UInt8)
  | branch (nodes : List Node)
  | missing
  deriving Inhabited

/-- The elements within another one. -/
def Node.nodes : Node → List Node
  | branch ns => ns
  | _ => []

/-- The content of a primitive element. -/
def Node.content? : Node → Option (List UInt8)
  | leaf _ c => some c
  | _ => none

/-- The element at a place within another one. -/
def Node.at (n : Node) (i : Nat) : Node := (n.nodes[i]?).getD missing

/-- What a reader finds. -/
inductive Reading (α : Type) where
  | found (a : α) (rest : List UInt8)
  /-- Another element stands there. -/
  | absent
  | refused

/-- Reads an element, of another type than its own if one is told; where it may be left out, another
element is no fault. -/
abbrev Reader := Option Tag → Bool → List UInt8 → Reading Node

/-- What was read, or a refusal. -/
def Reading.ofOption : Option (Node × List UInt8) → Reading Node
  | some (n, rest) => .found n rest
  | none => .refused

/-- The header of an element of some type. -/
def expect (tag : Tag) (isOptional : Bool) (bs : List UInt8) : Reading Header :=
  match header? bs with
  | none => .refused
  | some (h, r) => if h.tag = tag then .found h r else if isOptional then .absent else .refused

/-- Reads on behind the header of an element of some type. -/
def within (tag : Tag) (isOptional : Bool) (bs : List UInt8)
    (f : Header → List UInt8 → Option (Node × List UInt8)) : Reading Node :=
  match expect tag isOptional bs with
  | .found h r => .ofOption (f h r)
  | .absent => .absent
  | .refused => .refused

/-! ### Primitive elements -/

/-- What follows the last of `due` marks; `fuel` bounds the elements on the way. -/
def afterMarks? : Nat → Nat → List UInt8 → Option (List UInt8)
  | 0, _, _ => none
  | fuel + 1, due, bs =>
    if bs.isEmpty then none
    else if startsMark bs then
      if due = 1 then some (bs.drop 2) else afterMarks? fuel (due - 1) (bs.drop 2)
    else
      match header? bs with
      | none => none
      | some (h, r) =>
        match h.length with
        | some n => afterMarks? fuel due (r.drop n)
        | none => afterMarks? fuel (due + 1) r

/-- The parts of a string joined, and what follows them. `ends`: a mark ends the parts; `depth` bounds
how parts stand in parts, and `fuel` their number. -/
def join? : Nat → Nat → Bool → List UInt8 → Option (List UInt8 × List UInt8)
  | 0, _, _, _ => none
  | fuel + 1, depth, ends, bs =>
    if bs.isEmpty then if ends then none else some ([], [])
    else if startsMark bs then if ends then some ([], bs.drop 2) else none
    else do
      let (h, r) ← header? bs
      let (part, rest) ←
        match h.isConstructed, h.length, depth with
        | false, some n, _ => some (r.take n, r.drop n)
        | false, none, _ => none
        | true, _, 0 => none
        | true, some n, depth + 1 =>
          (join? fuel depth false (r.take n)).map fun found => (found.1, r.drop n)
        | true, none, depth + 1 => join? fuel depth true r
      let (more, rest) ← join? fuel depth ends rest
      some (part ++ more, rest)

/-- How deeply parts of a string may stand in parts. -/
def maxParts : Nat := 5

/-- Type numbers of elements that cannot be given in parts. -/
def undivided : List Nat := [0x01, 0x02, 0x05, 0x06, 0x0A]

/-- The content of a primitive element behind its header. Sequences and sets are left as they are. -/
def content? (number : Nat) (h : Header) (r : List UInt8) : Option (List UInt8 × List UInt8) :=
  let taken (rest : List UInt8) : List UInt8 × List UInt8 := (r.take (r.length - rest.length), rest)
  match h.isConstructed, h.length with
  | false, some n => if number = 0x10 ∨ number = 0x11 then none else some (r.take n, r.drop n)
  | false, none => none
  | true, length =>
    if undivided.contains number then none
    else if number = 0x10 ∨ number = 0x11 then
      match length with
      | some n => some (r.take n, r.drop n)
      | none => (afterMarks? r.length 1 r).map taken
    else
      match length with
      | some n => (join? (n + 1) maxParts false (r.take n)).map fun found => (found.1, r.drop n)
      | none => join? (r.length + 1) maxParts true r

/-- Whether bytes are the groups of an object identifier, of any length. -/
def areGroups (atStart : Bool) : List UInt8 → Bool
  | [] => atStart
  | b :: r => !(atStart && b == 0x80) && areGroups (b < 0x80) r

/-- Whether a primitive element of some type may have a content. -/
def contentFits (number : Nat) (content : List UInt8) : Bool :=
  match number with
  | 0x01 => content.length == 1
  | 0x02 | 0x0A => Der.isInteger content
  | 0x03 => content.head?.any (· < 8)
  | 0x05 => content.isEmpty
  | 0x06 => !content.isEmpty && areGroups true content
  | 0x1C => content.length % 4 == 0
  | 0x1E => content.length % 2 == 0
  | _ => true

/-- Reads a primitive element. -/
def primitive (number : Nat) : Reader := fun tag isOptional bs =>
  within (tag.getD (universal number)) isOptional bs fun h r => do
    let (content, rest) ← content? number h r
    if contentFits number content then some (.leaf number content, rest) else none

/-- Reads a primitive element of one of some types. -/
def oneOf (numbers : List Nat) : Reader := fun _ isOptional bs =>
  match header? bs with
  | none => .refused
  | some (h, _) =>
    if h.tag.1 = 0 ∧ h.tag.2 ≤ 30 ∧ numbers.contains h.tag.2 then primitive h.tag.2 none false bs
    else if isOptional then .absent
    else .refused

/-- Reads an element of any type. -/
def anything : Reader := fun _ _ bs =>
  match header? bs with
  | none => .refused
  | some (h, r) =>
    if h.tag.1 = 0 then primitive h.tag.2 none false bs
    else
      match h.length with
      | some n => .found (.leaf h.tag.2 (r.take n)) (r.drop n)
      | none =>
        match afterMarks? r.length 1 r with
        | some rest => .found (.leaf h.tag.2 []) rest
        | none => .refused

/-! ### Elements of others -/

/-- A field of a record: whether it may be left out, and how it is read. -/
structure Field where
  isOptional : Bool
  read : Bool → List UInt8 → Reading Node

namespace Field

/-- A field that is there. -/
def required (r : Reader) : Field := ⟨false, r none⟩

/-- A field of a type that its place gives a meaning. -/
def implicit (n : Nat) (r : Reader) : Field := ⟨false, r (some (contextual n))⟩

/-- A field within an element of a type that its place gives a meaning. -/
def explicit (n : Nat) (r : Reader) : Field :=
  ⟨false, fun isOptional bs => within (contextual n) isOptional bs fun h rest =>
    if !h.isConstructed then none
    else
      match h.length with
      | some n =>
        match r none false (rest.take n) with
        | .found node [] => some (node, rest.drop n)
        | _ => none
      | none =>
        match r none false rest with
        | .found node (0 :: 0 :: rest) => some (node, rest)
        | _ => none⟩

/-- The field, which may be left out. -/
def optional (f : Field) : Field := { f with isOptional := true }

end Field

/-- Reads fields up to the end of the bytes, or up to a mark if `ends`. The last field is not left out
while something stands in its place. -/
def fields? (ends : Bool) : List Field → List UInt8 → Option (List Node × List UInt8)
  | [], bs =>
    if ends then if startsMark bs then some ([], bs.drop 2) else none
    else if bs.isEmpty then some ([], []) else none
  | f :: fs, bs =>
    let areLeftOut := (f :: fs).all Field.isOptional
    if bs.isEmpty then if !ends && areLeftOut then some ([], []) else none
    else if startsMark bs then if ends && areLeftOut then some ([], bs.drop 2) else none
    else
      match f.read (f.isOptional && !fs.isEmpty) bs with
      | .found n rest => (fields? ends fs rest).map fun found => (n :: found.1, found.2)
      | .absent => (fields? ends fs bs).map fun found => (.missing :: found.1, found.2)
      | .refused => none

/-- Reads a sequence with some fields. -/
def record (fs : List Field) : Reader := fun tag isOptional bs =>
  within (tag.getD (universal 0x10)) isOptional bs fun h r =>
    if !h.isConstructed then none
    else
      match h.length with
      | some n => (fields? false fs (r.take n)).map fun found => (.branch found.1, r.drop n)
      | none => (fields? true fs r).map fun found => (.branch found.1, found.2)

/-- Reads elements of one kind up to the end of the bytes, or up to a mark if `ends`; `fuel` bounds
their number. -/
def items? (item : Reader) (ends : Bool) : Nat → List UInt8 → Option (List Node × List UInt8)
  | 0, _ => none
  | fuel + 1, bs =>
    if bs.isEmpty then if ends then none else some ([], [])
    else if startsMark bs then if ends then some ([], bs.drop 2) else none
    else
      match item none false bs with
      | .found n rest => (items? item ends fuel rest).map fun found => (n :: found.1, found.2)
      | _ => none

/-- Reads elements of one kind within one of type `number`. -/
def listOf (number : Nat) (item : Reader) : Reader := fun tag isOptional bs =>
  within (tag.getD (universal number)) isOptional bs fun h r =>
    match h.length with
    | some n => (items? item false (n + 1) (r.take n)).map fun found => (.branch found.1, r.drop n)
    | none => (items? item true (r.length + 1) r).map fun found => (.branch found.1, found.2)

/-- Reads the first field that is there; the node holds it behind what is missing. -/
def choice (fs : List Field) : Reader := fun _ isOptional bs => go fs isOptional bs 0
where
  /-- Tries the fields in turn; `skipped` are absent. -/
  go : List Field → Bool → List UInt8 → Nat → Reading Node
    | [], isOptional, _, _ => if isOptional then .absent else .refused
    | f :: fs, isOptional, bs, skipped =>
      match f.read true bs with
      | .found n rest => .found (.branch (List.replicate skipped .missing ++ [n])) rest
      | .absent => go fs isOptional bs (skipped + 1)
      | .refused => .refused

/-- What a reader finds in bytes; what follows it is passed over. -/
def read? (r : Reader) (bs : List UInt8) : Option Node :=
  match r none false bs with
  | .found n _ => some n
  | _ => none

end QuoteService.Ber
