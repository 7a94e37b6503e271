/-!
# Base64: digits and groups

Three bytes are four digits of six bits. The standard and the URL alphabet differ in the last two
digits only.

* `Alphabet.digit`, `Alphabet.value?`: a digit from its value and back.
* `sextets`, `bytes`: bytes cut into values of six bits, and the bytes that such values hold; bits
  left over at the end are dropped.
* `Alphabet.encode`, `Alphabet.encodePadded`: text without and with padding.
-/

namespace QuoteService.Base64

/-- The two digits in which the alphabets differ. -/
structure Alphabet where
  sixtyTwo : Char
  sixtyThree : Char

namespace Alphabet

/-- The alphabet of mail and PEM. -/
def standard : Alphabet := ⟨'+', '/'⟩

/-- The alphabet that is safe in addresses. -/
def url : Alphabet := ⟨'-', '_'⟩

/-- The digit of value `n`, for `n` below 64. -/
def digit (a : Alphabet) (n : Nat) : Char :=
  if n < 26 then Char.ofNat (0x41 + n)
  else if n < 52 then Char.ofNat (0x61 + (n - 26))
  else if n < 62 then Char.ofNat (0x30 + (n - 52))
  else if n = 62 then a.sixtyTwo
  else a.sixtyThree

/-- The value of a digit. -/
def value? (a : Alphabet) (c : Char) : Option Nat :=
  let n := c.toNat
  if 0x41 ≤ n ∧ n ≤ 0x5A then some (n - 0x41)
  else if 0x61 ≤ n ∧ n ≤ 0x7A then some (n - 0x61 + 26)
  else if 0x30 ≤ n ∧ n ≤ 0x39 then some (n - 0x30 + 52)
  else if c = a.sixtyTwo then some 62
  else if c = a.sixtyThree then some 63
  else none

/-- Whether `c` is a digit. -/
def isDigit (a : Alphabet) (c : Char) : Bool := (a.value? c).isSome

end Alphabet

/-- Bytes as values of six bits; the last value is filled up with zero bits. -/
def sextets : List UInt8 → List Nat
  | [] => []
  | [a] => [a.toNat / 4, a.toNat % 4 * 16]
  | [a, b] => [a.toNat / 4, a.toNat % 4 * 16 + b.toNat / 16, b.toNat % 16 * 4]
  | a :: b :: c :: r =>
    a.toNat / 4 :: (a.toNat % 4 * 16 + b.toNat / 16) :: (b.toNat % 16 * 4 + c.toNat / 64) ::
      c.toNat % 64 :: sextets r

/-- The whole bytes that values of six bits hold. -/
def bytes : List Nat → List UInt8
  | a :: b :: c :: d :: r =>
    UInt8.ofNat (a * 4 + b / 16) :: UInt8.ofNat (b % 16 * 16 + c / 4) ::
      UInt8.ofNat (c % 4 * 64 + d) :: bytes r
  | [a, b, c] => [UInt8.ofNat (a * 4 + b / 16), UInt8.ofNat (b % 16 * 16 + c / 4)]
  | [a, b] => [UInt8.ofNat (a * 4 + b / 16)]
  | _ => []

/-- The padding after `n` bytes. -/
def padding (n : Nat) : List Char :=
  match n % 3 with
  | 1 => ['=', '=']
  | 2 => ['=']
  | _ => []

/-- Base64 text without padding. -/
def Alphabet.encode (a : Alphabet) (bs : List UInt8) : List Char := (sextets bs).map a.digit

/-- Base64 text filled up with `=` to whole groups of four. -/
def Alphabet.encodePadded (a : Alphabet) (bs : List UInt8) : List Char :=
  a.encode bs ++ padding bs.length

theorem bytes_sextets (bs : List UInt8) : bytes (sextets bs) = bs := by
  fun_induction sextets bs with
  | case1 => rfl
  | case2 a =>
    have h : a.toNat / 4 * 4 + a.toNat % 4 * 16 / 16 = a.toNat := by omega
    simp only [bytes, h, UInt8.ofNat_toNat]
  | case3 a b =>
    have ha := a.toNat_lt
    have hb := b.toNat_lt
    have h1 : a.toNat / 4 * 4 + (a.toNat % 4 * 16 + b.toNat / 16) / 16 = a.toNat := by omega
    have h2 : (a.toNat % 4 * 16 + b.toNat / 16) % 16 * 16 + b.toNat % 16 * 4 / 4 = b.toNat := by
      omega
    simp only [bytes, h1, h2, UInt8.ofNat_toNat]
  | case4 a b c r ih =>
    have hb := b.toNat_lt
    have hc := c.toNat_lt
    have h1 : a.toNat / 4 * 4 + (a.toNat % 4 * 16 + b.toNat / 16) / 16 = a.toNat := by omega
    have h2 : (a.toNat % 4 * 16 + b.toNat / 16) % 16 * 16 + (b.toNat % 16 * 4 + c.toNat / 64) / 4 =
        b.toNat := by omega
    have h3 : (b.toNat % 16 * 4 + c.toNat / 64) % 4 * 64 + c.toNat % 64 = c.toNat := by omega
    simp only [bytes, h1, h2, h3, ih, UInt8.ofNat_toNat]

end QuoteService.Base64
