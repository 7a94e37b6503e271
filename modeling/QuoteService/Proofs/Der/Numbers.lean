import Mathlib.Algebra.Group.Nat.Defs
import QuoteService.Der.Element
import QuoteService.Proofs.Text.Encoding

/-!
# Numbers as bytes

* `ofBigEndian_bigEndian`, `ofBigEndian_fixedBytes`: numbers are read back from their bytes, with as
  many as they need and with a fixed number of them.
* `length_bigEndian_le`: how many bytes a number needs.
* `nat?_natContent`: **a number is read back from the content of an integer**, which is the shortest
  one.
* `length?_lengthBytes`: **a length below 2³² is read back from its shortest form.**
-/

namespace QuoteService.Der

open Utf8 (toNat_byte)

theorem ofBigEndian_snoc (bs : List UInt8) (b : UInt8) :
    ofBigEndian (bs ++ [b]) = ofBigEndian bs * 256 + b.toNat := by
  rw [ofBigEndian, List.foldl_append]
  rfl

theorem bigEndian_zero : bigEndian 0 = [] := by rw [bigEndian, if_pos rfl]

theorem bigEndian_of_pos {n : Nat} (h : 0 < n) :
    bigEndian n = bigEndian (n / 256) ++ [UInt8.ofNat (n % 256)] := by
  rw [bigEndian, if_neg (by omega)]

/-- **Numbers are read back from their bytes.** -/
theorem ofBigEndian_bigEndian (n : Nat) : ofBigEndian (bigEndian n) = n := by
  -- the last byte is split off, so the induction goes by the quotient
  induction n using Nat.strongRecOn with
  | ind n ih =>
    rcases Nat.eq_zero_or_pos n with rfl | hpos
    · rw [bigEndian_zero]
      rfl
    · rw [bigEndian_of_pos hpos, ofBigEndian_snoc, ih (n / 256) (by omega), toNat_byte (by omega)]
      omega

/-- A number below `256 ^ k` needs at most `k` bytes. -/
theorem length_bigEndian_le : ∀ (k n : Nat), n < 256 ^ k → (bigEndian n).length ≤ k := by
  intro k
  induction k with
  | zero =>
    intro n hn
    obtain rfl : n = 0 := by simpa using hn
    rw [bigEndian_zero]
    exact Nat.le_refl 0
  | succ k ih =>
    intro n hn
    rcases Nat.eq_zero_or_pos n with rfl | hpos
    · rw [bigEndian_zero]
      exact Nat.zero_le _
    · have hquotient : n / 256 < 256 ^ k := by
        rw [Nat.pow_succ] at hn
        omega
      have := ih (n / 256) hquotient
      rw [bigEndian_of_pos hpos, List.length_append, List.length_singleton]
      omega

/-- A number fits into as many bytes as its bits fill. -/
theorem lt_pow_log2 (n : Nat) : n < 256 ^ ((n.log2 + 8) / 8) := by
  have hbits : n.log2 + 1 ≤ 8 * ((n.log2 + 8) / 8) := by omega
  calc n < 2 ^ (n.log2 + 1) := Nat.lt_log2_self
    _ ≤ 2 ^ (8 * ((n.log2 + 8) / 8)) := Nat.pow_le_pow_right (by decide) hbits
    _ = 256 ^ ((n.log2 + 8) / 8) := Nat.pow_mul 2 8 _

/-- The bytes that a number needs, by its bits. -/
theorem length_bigEndian_le_log2 (n : Nat) : (bigEndian n).length ≤ n.log2 / 8 + 1 := by
  have hbytes := length_bigEndian_le _ n (lt_pow_log2 n)
  omega

/-- The first byte of a number is not zero. -/
theorem bigEndian_cons {n : Nat} (h : 0 < n) : ∃ b r, bigEndian n = b :: r ∧ b ≠ 0 := by
  induction n using Nat.strongRecOn with
  | ind n ih =>
    rw [bigEndian_of_pos h]
    rcases Nat.eq_zero_or_pos (n / 256) with hzero | hpos
    · refine ⟨UInt8.ofNat (n % 256), [], ?_, ?_⟩
      · rw [hzero, bigEndian_zero, List.nil_append]
      · intro heq
        have := congrArg UInt8.toNat heq
        rw [toNat_byte (by omega), UInt8.toNat_zero] at this
        omega
    · obtain ⟨b, r, hbr, hb⟩ := ih (n / 256) (by omega) hpos
      exact ⟨b, r ++ [UInt8.ofNat (n % 256)], by rw [hbr, List.cons_append], hb⟩

theorem length_fixedBytes (count n : Nat) : (fixedBytes count n).length = count := by
  induction count generalizing n with
  | zero => rfl
  | succ count ih => rw [fixedBytes, List.length_append, ih, List.length_singleton]

/-- A number is read back from a fixed number of bytes if it fits into them. -/
theorem ofBigEndian_fixedBytes : ∀ (count n : Nat), n < 256 ^ count →
    ofBigEndian (fixedBytes count n) = n := by
  intro count
  induction count with
  | zero =>
    intro n hn
    obtain rfl : n = 0 := by simpa using hn
    rfl
  | succ count ih =>
    intro n hn
    have hquotient : n / 256 < 256 ^ count := by
      rw [Nat.pow_succ] at hn
      omega
    rw [fixedBytes, ofBigEndian_snoc, ih _ hquotient, toNat_byte (by omega)]
    omega

/-! ## Integers -/

theorem ofBigEndian_zero_cons (bs : List UInt8) : ofBigEndian (0 :: bs) = ofBigEndian bs := rfl

/-- **A number is read back from the content of an integer.** -/
theorem nat?_natContent (n : Nat) : nat? (natContent n) = some n := by
  rcases Nat.eq_zero_or_pos n with rfl | hpos
  · rw [natContent, bigEndian_zero]
    rfl
  · obtain ⟨b, r, hbytes, hb⟩ := bigEndian_cons hpos
    have hvalue := ofBigEndian_bigEndian n
    rw [hbytes] at hvalue
    rw [natContent, hbytes]
    simp only
    by_cases hsmall : b < 0x80
    · -- the first byte is neither a sign nor a zero that could be left out
      have hinteger : isInteger (b :: r) = true := by
        cases r with
        | nil => rfl
        | cons b' r =>
          have hff : b ≠ 0xFF := by
            rintro rfl
            exact absurd hsmall (by decide)
          simp [isInteger, hb, hff]
      rw [if_pos hsmall, nat?, if_pos ⟨hinteger, hsmall⟩, hvalue]
    · have hinteger : isInteger (0 :: b :: r) = true := by
        simp [isInteger, hsmall]
      rw [if_neg hsmall, nat?, if_pos ⟨hinteger, by decide⟩, ofBigEndian_zero_cons, hvalue]

theorem length_natContent_le (n : Nat) : (natContent n).length ≤ (bigEndian n).length + 1 := by
  rw [natContent]
  split
  · exact Nat.le_add_left _ _
  · rename_i b r h
    split <;> simp [h]

/-! ## Lengths -/

theorem length_lengthBytes_le {n : Nat} (h : n < 256 ^ 4) : (lengthBytes n).length ≤ 5 := by
  rw [lengthBytes]
  split
  · exact Nat.le_add_left _ _
  · have := length_bigEndian_le 4 n h
    rw [List.length_cons]
    omega

/-- **A length below 2³² is read back from its shortest form**, whatever follows. -/
theorem length?_lengthBytes {n : Nat} (h : n < 256 ^ 4) (rest : List UInt8) :
    length? (lengthBytes n ++ rest) = some (n, rest) := by
  by_cases hshort : n < 0x80
  · have hbyte : UInt8.ofNat n < 0x80 := by
      rw [UInt8.lt_iff_toNat_lt, toNat_byte (by omega)]
      exact hshort
    rw [lengthBytes, if_pos hshort, List.singleton_append, length?, if_pos hbyte,
      toNat_byte (by omega)]
  · have hcount := length_bigEndian_le 4 n h
    have hpos : 1 ≤ (bigEndian n).length := by
      obtain ⟨b, r, hbytes, -⟩ := bigEndian_cons (show 0 < n by omega)
      rw [hbytes]
      exact Nat.le_add_left _ _
    -- the first byte tells how many follow
    have hfirst : (UInt8.ofNat (0x80 + (bigEndian n).length)).toNat = 0x80 + (bigEndian n).length :=
      toNat_byte (by omega)
    have hlong : ¬UInt8.ofNat (0x80 + (bigEndian n).length) < 0x80 := by
      rw [UInt8.lt_iff_toNat_lt, hfirst]
      simp only [UInt8.reduceToNat]
      omega
    have hform : lengthBytes n = UInt8.ofNat (0x80 + (bigEndian n).length) :: bigEndian n := by
      rw [lengthBytes, if_neg hshort]
    rw [hform, List.cons_append, length?, if_neg hlong, hfirst]
    simp only [Nat.add_sub_cancel_left, List.take_left, List.drop_left, ofBigEndian_bigEndian]
    rw [if_pos ⟨hpos, hcount, hform⟩]

end QuoteService.Der
