import QuoteService.Json.Value
import QuoteService.Text.Decimal
import QuoteService.Text.Utf8

/-!
# Reading JSON

Two dialects are read. Both take `NaN` and the infinities as numbers, refuse raw control characters
in strings, and count the last of several members of one name.

* `Dialect`: where readers differ; `Dialect.lenient` and `Dialect.strict`.
* `read`: the value of a text, or whether it is malformed or nested too deeply.
* `Json.parse`: the value of bytes in whichever encoding they start with, in the lenient dialect.
* `Json.parseStrict`: the value of UTF-8 bytes in the strict dialect.
-/

namespace QuoteService.Json

/-- Where readers differ. -/
structure Dialect where
  /-- Whether an escape may give half of a surrogate pair alone. -/
  loneHalves : Bool
  /-- The most digits that an integer may have. -/
  maxDigits : Option Nat
  /-- Whether `maxDigits` also limits the integer part of a number with a fraction. -/
  limitsFractions : Bool
  /-- Whether a minus sign counts as a digit. -/
  countsSign : Bool
  /-- How many containers may be open at once. -/
  maxDepth : Nat
  /-- Whether a container without content takes part in that count. -/
  countsEmpty : Bool

namespace Dialect

/-- The dialect of token segments and of answers that a client reads. -/
def lenient : Dialect := ⟨true, some 4300, false, false, 970, true⟩

/-- The dialect of request bodies. -/
def strict : Dialect := ⟨false, some 4300, true, true, 200, false⟩

end Dialect

/-- The white space of JSON. -/
def isSpace : CodePoint → Bool
  | .scalar c => c == ' ' || c == '\n' || c == '\r' || c == '\t'
  | .surrogate _ => false

/-- What follows the white space. -/
def skipSpace (t : Text) : Text := t.dropWhile isSpace

/-- What follows the characters `cs`, if the text starts with them. -/
def afterChars? : List Char → Text → Option Text
  | [], t => some t
  | c :: cs, p :: t => if p = .scalar c then afterChars? cs t else none
  | _ :: _, [] => none

/-- The value of a hexadecimal digit. -/
def hexValue? (p : CodePoint) : Option Nat :=
  let n := p.toNat
  if 0x30 ≤ n ∧ n ≤ 0x39 then some (n - 0x30)
  else if 0x41 ≤ n ∧ n ≤ 0x46 then some (n - 0x41 + 10)
  else if 0x61 ≤ n ∧ n ≤ 0x66 then some (n - 0x61 + 10)
  else none

/-- The number of four hexadecimal digits. -/
def hexUnit? (a b c d : CodePoint) : Option Nat :=
  match hexValue? a, hexValue? b, hexValue? c, hexValue? d with
  | some a, some b, some c, some d => some (((a * 16 + b) * 16 + c) * 16 + d)
  | _, _, _, _ => none

/-- The character of an escape of one letter. -/
def escaped? : CodePoint → Option Char
  | .scalar '"' => some '"'
  | .scalar '\\' => some '\\'
  | .scalar '/' => some '/'
  | .scalar 'b' => some '\x08'
  | .scalar 'f' => some '\x0c'
  | .scalar 'n' => some '\n'
  | .scalar 'r' => some '\r'
  | .scalar 't' => some '\t'
  | _ => none

/-- A piece of a string: a code point that stands for itself, or a unit given by its number. -/
inductive Piece where
  | plain (p : CodePoint)
  | unit (n : Nat)

/-- The pieces of a string up to its closing quote, and what follows the quote. -/
def pieces : Text → Option (List Piece × Text)
  | [] => none
  | .scalar '"' :: r => some ([], r)
  | .scalar '\\' :: .scalar 'u' :: a :: b :: c :: d :: r =>
    match hexUnit? a b c d, pieces r with
    | some n, some (ps, rest) => some (.unit n :: ps, rest)
    | _, _ => none
  | .scalar '\\' :: e :: r =>
    match escaped? e, pieces r with
    | some ch, some (ps, rest) => some (.plain (.scalar ch) :: ps, rest)
    | _, _ => none
  | p :: r =>
    if p.toNat < 0x20 ∨ p = .scalar '\\' then none
    else (pieces r).map fun (ps, rest) => (.plain p :: ps, rest)

/-- The text of the pieces; a high unit and a low unit that follow one another are one character. -/
def joinPieces (loneHalves : Bool) : List Piece → Option Text
  | [] => some []
  | .unit n :: .unit m :: r =>
    if 0xD800 ≤ n ∧ n < 0xDC00 ∧ 0xDC00 ≤ m ∧ m < 0xE000 then
      Utf8.consNat (0x10000 + (n - 0xD800) * 0x400 + (m - 0xDC00)) (joinPieces loneHalves r)
    else if 0xD800 ≤ n ∧ n < 0xE000 ∧ loneHalves = false then none
    else Utf8.consNat n (joinPieces loneHalves (.unit m :: r))
  | .unit n :: r =>
    if 0xD800 ≤ n ∧ n < 0xE000 ∧ loneHalves = false then none
    else Utf8.consNat n (joinPieces loneHalves r)
  | .plain p :: r => (joinPieces loneHalves r).map (p :: ·)

/-- The text of a string after its opening quote, and what follows the closing one. -/
def stringBody (d : Dialect) (t : Text) : Option (Text × Text) :=
  match pieces t with
  | none => none
  | some (ps, rest) => (joinPieces d.loneHalves ps).map fun s => (s, rest)

/-- The value of a code point that is an ASCII digit. -/
def digit? : CodePoint → Option Nat
  | .scalar c => Text.digitValue? c
  | .surrogate _ => none

/-- The digits that a text starts with, and what follows them. -/
def spanDigits : Text → List Nat × Text
  | [] => ([], [])
  | p :: r =>
    match digit? p with
    | some v => let (vs, rest) := spanDigits r; (v :: vs, rest)
    | none => ([], p :: r)

/-- A fraction: a point and at least one digit. Without them nothing is read. -/
def fraction : Text → List Nat × Text
  | .scalar '.' :: r =>
    match spanDigits r with
    | ([], _) => ([], .scalar '.' :: r)
    | found => found
  | t => ([], t)

/-- An exponent: the letter, a sign if any, and at least one digit. -/
def exponent? : Text → Option (Int × Text)
  | .scalar e :: r =>
    if e = 'e' ∨ e = 'E' then
      let (negative, r') : Bool × Text := match r with
        | .scalar '-' :: r' => (true, r')
        | .scalar '+' :: r' => (false, r')
        | r' => (false, r')
      match spanDigits r' with
      | ([], _) => none
      | (ds, rest) =>
        let n : Int := Text.ofDigits ds
        some (if negative then -n else n, rest)
    else none
  | _ => none

/-- Why a text gives no value. -/
inductive ReadError where
  | malformed
  | tooDeep
  deriving DecidableEq

/-- What was read, and what follows it. -/
abbrev Reading (α : Type) := Except ReadError (α × Text)

/-- Reading that either succeeds or finds the text malformed. -/
def Reading.ofOption {α : Type} : Option (α × Text) → Reading α
  | some found => .ok found
  | none => .error .malformed

/-- Applies a function to what was read. -/
def Reading.map {α β : Type} (f : α → β) : Reading α → Reading β
  | .ok (a, rest) => .ok (f a, rest)
  | .error e => .error e

/-- A number without its sign, and what follows it. A leading zero stands alone. -/
def number (d : Dialect) (negative : Bool) (t : Text) : Reading Json :=
  let (ds, afterInt) : List Nat × Text := match t with
    | .scalar '0' :: r => ([0], r)
    | _ => spanDigits t
  let tooLong := match d.maxDigits with
    | some limit => decide (limit < ds.length + if negative && d.countsSign then 1 else 0)
    | none => false
  if ds = [] then .error .malformed
  else
    let (fs, afterFraction) := fraction afterInt
    match fs, exponent? afterFraction with
    | [], none =>
      let n : Int := Text.ofDigits ds
      if tooLong then .error .malformed else .ok (.int (if negative then -n else n), afterInt)
    | fs, ex =>
      let (e, rest) := ex.getD (0, afterFraction)
      if tooLong && d.limitsFractions then .error .malformed
      else .ok (.float (.ofDecimal negative (Text.ofDigits (ds ++ fs)) (e - fs.length)), rest)

/-- The constant `v`, if the characters `cs` follow. -/
def constant (cs : List Char) (v : Json) (t : Text) : Reading Json :=
  match afterChars? cs t with
  | some rest => .ok (v, rest)
  | none => .error .malformed

/-- Whether a container that was just opened takes one of the open places. -/
def Dialect.taken (d : Dialect) (isEmpty : Bool) : Nat := if isEmpty && !d.countsEmpty then 0 else 1

mutual

/-- A value at the start of a text, and what follows it; `room` more containers may be opened. -/
def value (d : Dialect) : Nat → Nat → Text → Reading Json
  | 0, _, _ => .error .malformed
  | fuel + 1, room, t =>
    match t with
    | .scalar '"' :: r => .map .str (.ofOption (stringBody d r))
    | .scalar '[' :: r =>
      match skipSpace r with
      | .scalar ']' :: rest => if room < d.taken true then .error .tooDeep else .ok (.arr [], rest)
      | r' =>
        if room < d.taken false then .error .tooDeep
        else .map .arr (items d fuel (room - d.taken false) r')
    | .scalar '\x7b' :: r =>
      match skipSpace r with
      | .scalar '\x7d' :: rest => if room < d.taken true then .error .tooDeep else .ok (.obj [], rest)
      | r' =>
        if room < d.taken false then .error .tooDeep
        else .map ofMembers (members d fuel (room - d.taken false) r')
    | .scalar 't' :: r => constant ['r', 'u', 'e'] (.bool true) r
    | .scalar 'f' :: r => constant ['a', 'l', 's', 'e'] (.bool false) r
    | .scalar 'n' :: r => constant ['u', 'l', 'l'] .null r
    | .scalar 'N' :: r => constant ['a', 'N'] (.float .nan) r
    | .scalar 'I' :: r => constant "nfinity".toList (.float (.infinite false)) r
    | .scalar '-' :: .scalar 'I' :: r => constant "nfinity".toList (.float (.infinite true)) r
    | .scalar '-' :: r => number d true r
    | t => number d false t

/-- The items of an array from the first one to the closing bracket. -/
def items (d : Dialect) : Nat → Nat → Text → Reading (List Json)
  | 0, _, _ => .error .malformed
  | fuel + 1, room, t =>
    match value d fuel room t with
    | .error e => .error e
    | .ok (v, rest) =>
      match skipSpace rest with
      | .scalar ',' :: r => .map (v :: ·) (items d fuel room (skipSpace r))
      | .scalar ']' :: r => .ok ([v], r)
      | _ => .error .malformed

/-- The members of an object from the first one to the closing brace. -/
def members (d : Dialect) : Nat → Nat → Text → Reading (List (Text × Json))
  | 0, _, _ => .error .malformed
  | fuel + 1, room, t =>
    match t with
    | .scalar '"' :: r =>
      match stringBody d r with
      | none => .error .malformed
      | some (name, afterName) =>
        match skipSpace afterName with
        | .scalar ':' :: r =>
          match value d fuel room (skipSpace r) with
          | .error e => .error e
          | .ok (v, rest) =>
            match skipSpace rest with
            | .scalar ',' :: r => .map ((name, v) :: ·) (members d fuel room (skipSpace r))
            | .scalar '\x7d' :: r => .ok ([(name, v)], r)
            | _ => .error .malformed
        | _ => .error .malformed
    | _ => .error .malformed

end

/-- The value of a text, with white space around it and nothing else. Every step but one in two
takes a character, so twice the length is fuel enough. -/
def read (d : Dialect) (t : Text) : Except ReadError Json :=
  match value d (2 * t.length + 2) d.maxDepth (skipSpace t) with
  | .ok (v, rest) => if skipSpace rest = [] then .ok v else .error .malformed
  | .error e => .error e

/-- The text of bytes in the encoding that their first four, or the mark in front, tell. -/
def decodeText (bytes : List UInt8) : Option Text :=
  match bytes with
  | 0x00 :: 0x00 :: 0xFE :: 0xFF :: r => Utf32.decodeLoose .big r
  | 0xFF :: 0xFE :: 0x00 :: 0x00 :: r => Utf32.decodeLoose .little r
  | 0xFE :: 0xFF :: r => Utf16.decodeLoose .big r
  | 0xFF :: 0xFE :: r => Utf16.decodeLoose .little r
  | 0xEF :: 0xBB :: 0xBF :: r => Utf8.decodeLoose r
  | a :: b :: c :: e :: _ =>
    if a = 0 then if b = 0 then Utf32.decodeLoose .big bytes else Utf16.decodeLoose .big bytes
    else if b = 0 then
      if c = 0 ∧ e = 0 then Utf32.decodeLoose .little bytes else Utf16.decodeLoose .little bytes
    else Utf8.decodeLoose bytes
  | [a, b] =>
    if a = 0 then Utf16.decodeLoose .big bytes
    else if b = 0 then Utf16.decodeLoose .little bytes
    else Utf8.decodeLoose bytes
  | _ => Utf8.decodeLoose bytes

/-- The value of bytes, in the encoding they tell and some dialect. -/
def parseWith (d : Dialect) (bytes : List UInt8) : Except ReadError Json :=
  match decodeText bytes with
  | some t => read d t
  | none => .error .malformed

/-- The value of bytes, in the encoding they tell and the lenient dialect. -/
def parse (bytes : List UInt8) : Except ReadError Json := parseWith .lenient bytes

/-- The value of UTF-8 bytes in the strict dialect. -/
def parseStrict (bytes : List UInt8) : Except ReadError Json :=
  match Utf8.decode bytes with
  | some cs => read .strict (Text.ofChars cs)
  | none => .error .malformed

end QuoteService.Json
