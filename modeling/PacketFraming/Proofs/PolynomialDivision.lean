import Mathlib
import PacketFraming.Proofs.ChecksumErrors
import PacketFraming.Proofs.HeaderFields

/-! The checksum as a remainder of polynomials.

Bits are the coefficients of a polynomial over the field of two elements. A look-up in the table
does to the remainder what eight steps of long division do, one for each bit of the byte, and so
the checksum of bytes is the remainder of their polynomial. -/

namespace PacketFraming

open Polynomial

/-! ## Long division, bit by bit -/

/-- One step of the division: the remainder moves up, and the polynomial is subtracted if what
falls out and the next bit differ. -/
def divisionStep (polynomial remainder : UInt8) (bit : Bool) : UInt8 :=
  if remainder.toNat.testBit 7 ^^ bit then (remainder <<< 1) ^^^ polynomial
  else remainder <<< 1

def divide (polynomial initial : UInt8) (bits : List Bool) : UInt8 :=
  bits.foldl (divisionStep polynomial) initial

example : divide 0x07 0 (bitsOfBytes "123456789".toUTF8.toList) = 0xF4 := by decide +kernel

theorem divide_append (polynomial initial : UInt8) (first second : List Bool) :
    divide polynomial initial (first ++ second) =
      divide polynomial (divide polynomial initial first) second :=
  List.foldl_append

def leading (bits : List Bool) : UInt8 :=
  UInt8.ofNat (valueOfBits bits * 2 ^ (8 - bits.length))

theorem leading_byteBits (byte : UInt8) : leading (byteBits byte) = byte := by
  rw [leading, length_byteBits, Nat.sub_self, Nat.pow_zero, Nat.mul_one, byteBits,
    valueOfBits_bitsOfValue, Nat.mod_eq_of_lt byte.toNat_lt, UInt8.ofNat_toNat]

theorem toNat_leading_cons (bit : Bool) {rest : List Bool} (short : rest.length < 8) :
    (leading (bit :: rest)).toNat =
      2 ^ 7 * bit.toNat + valueOfBits rest * 2 ^ (7 - rest.length) ∧
    valueOfBits rest * 2 ^ (7 - rest.length) < 2 ^ 7 := by
  have room : 2 ^ rest.length * 2 ^ (7 - rest.length) = 2 ^ 7 := by
    rw [← Nat.pow_add, Nat.add_sub_cancel' (Nat.le_of_lt_succ short)]
  have small : valueOfBits rest * 2 ^ (7 - rest.length) < 2 ^ 7 := by
    rw [← room]
    exact Nat.mul_lt_mul_of_pos_right (valueOfBits_lt rest) (Nat.two_pow_pos _)
  have size : 8 - (rest.length + 1) = 7 - rest.length := by omega
  have low := Bool.toNat_le bit
  refine ⟨?_, small⟩
  rw [leading, valueOfBits_cons, List.length_cons, size, Nat.add_mul, Nat.mul_assoc, room,
    UInt8.toNat_ofNat', Nat.mod_eq_of_lt (by omega), Nat.mul_comm bit.toNat]

theorem testBit_leading_cons (bit : Bool) {rest : List Bool} (short : rest.length < 8) :
    (leading (bit :: rest)).toNat.testBit 7 = bit := by
  rcases toNat_leading_cons bit short with ⟨value, small⟩
  rw [value, Nat.testBit_two_pow_mul_add _ small]
  cases bit <;> rfl

theorem leading_cons_shiftLeft (bit : Bool) {rest : List Bool} (short : rest.length < 8) :
    leading (bit :: rest) <<< 1 = leading rest := by
  rcases toNat_leading_cons bit short with ⟨value, small⟩
  have size : 8 - rest.length = 7 - rest.length + 1 := by omega
  have moved : valueOfBits rest * 2 ^ (8 - rest.length) =
      2 * (valueOfBits rest * 2 ^ (7 - rest.length)) := by
    rw [size, Nat.pow_succ', Nat.mul_left_comm]
  apply UInt8.toNat_inj.mp
  rw [UInt8.toNat_shiftLeft, value, leading, UInt8.toNat_ofNat', moved, Nat.shiftLeft_eq]
  change _ * 2 % 2 ^ 8 = _
  omega

theorem serialStep_leading (polynomial remainder : UInt8) (bit : Bool) {rest : List Bool}
    (short : rest.length < 8) :
    serialStep polynomial (remainder ^^^ leading (bit :: rest)) =
      divisionStep polynomial remainder bit ^^^ leading rest := by
  have moved : (remainder ^^^ leading (bit :: rest)) <<< 1 = remainder <<< 1 ^^^ leading rest := by
    rw [UInt8.shiftLeft_xor, leading_cons_shiftLeft bit short]
  simp only [serialStep, divisionStep, and_highest_eq_zero_iff, UInt8.toNat_xor, Nat.testBit_xor,
    testBit_leading_cons bit short, moved]
  cases remainder.toNat.testBit 7 ^^ bit
  · rfl
  · change remainder <<< 1 ^^^ leading rest ^^^ polynomial =
      remainder <<< 1 ^^^ polynomial ^^^ leading rest
    ac_rfl

theorem repeat_succ {State : Type} (step : State → State) (steps : Nat) (start : State) :
    Nat.repeat step (steps + 1) start = Nat.repeat step steps (step start) := by
  induction steps with
  | zero => rfl
  | succ steps induction => exact congrArg step induction

theorem repeat_serialStep (polynomial remainder : UInt8) {bits : List Bool}
    (short : bits.length ≤ 8) :
    Nat.repeat (serialStep polynomial) bits.length (remainder ^^^ leading bits) =
      divide polynomial remainder bits := by
  induction bits generalizing remainder with
  | nil => exact UInt8.xor_zero
  | cons bit rest induction =>
      rw [List.length_cons, repeat_succ, serialStep_leading _ _ _ short,
        induction _ (Nat.le_of_lt short)]
      rfl

/-- One look-up is eight steps. -/
theorem byteRemainder_xor_eq_divide (polynomial remainder byte : UInt8) :
    byteRemainder polynomial (remainder ^^^ byte) =
      divide polynomial remainder (byteBits byte) := by
  have steps := repeat_serialStep polynomial remainder (Nat.le_of_eq (length_byteBits byte))
  rwa [leading_byteBits, length_byteBits] at steps

theorem Crc8.value_update (polynomial initial : UInt8) (data : List UInt8) :
    ((ofPolynomial polynomial initial).update data).value =
      divide polynomial initial (bitsOfBytes data) := by
  have looked := value_checksum polynomial initial data
  change ((ofPolynomial polynomial initial).update data).value = _ at looked
  rw [looked]
  clear looked
  induction data generalizing initial with
  | nil => rfl
  | cons byte rest induction =>
      rw [List.foldl_cons, byteRemainder_xor_eq_divide, induction, bitsOfBytes_cons,
        divide_append]

/-! ## Polynomials over two elements -/

/-- The polynomial with some bits for coefficients, the first one at the highest power. -/
noncomputable def bitsPolynomial (bits : List Bool) : (ZMod 2)[X] :=
  bits.foldl (fun polynomial bit => polynomial * X + C (bit.toNat : ZMod 2)) 0

noncomputable def bytePolynomial (byte : UInt8) : (ZMod 2)[X] :=
  bitsPolynomial (byteBits byte)

/-- What is divided by: the polynomial of a checksum has a leading one that is not written. -/
noncomputable def divisor (polynomial : UInt8) : (ZMod 2)[X] :=
  X ^ 8 + bytePolynomial polynomial

theorem bitsPolynomial_concat (bits : List Bool) (bit : Bool) :
    bitsPolynomial (bits ++ [bit]) = bitsPolynomial bits * X + C (bit.toNat : ZMod 2) :=
  List.foldl_append

theorem bitsPolynomial_cons (bit : Bool) (rest : List Bool) :
    bitsPolynomial (bit :: rest) =
      C (bit.toNat : ZMod 2) * X ^ rest.length + bitsPolynomial rest := by
  induction rest using List.reverseRecOn with
  | nil => simp [bitsPolynomial]
  | append_singleton rest last induction =>
      rw [← List.cons_append, bitsPolynomial_concat, induction, bitsPolynomial_concat,
        List.length_append, List.length_singleton, pow_succ]
      ring

theorem degree_bitsPolynomial_lt (bits : List Bool) :
    (bitsPolynomial bits).degree < bits.length := by
  induction bits with
  | nil => simp [bitsPolynomial]
  | cons bit rest induction =>
      have longer : (rest.length : WithBot ℕ) < (bit :: rest).length :=
        WithBot.coe_lt_coe.mpr (Nat.lt_succ_self _)
      rw [bitsPolynomial_cons]
      refine (degree_add_le _ _).trans_lt (max_lt ?_ ?_)
      · exact (degree_C_mul_X_pow_le _ _).trans_lt longer
      · exact induction.trans longer

theorem cast_toNat_xor (first second : Bool) :
    ((first ^^ second).toNat : ZMod 2) = first.toNat + second.toNat := by
  cases first <;> cases second <;> decide

theorem bitsPolynomial_xor {first second : List Bool} (same : first.length = second.length) :
    bitsPolynomial (first.zipWith (· ^^ ·) second) =
      bitsPolynomial first + bitsPolynomial second := by
  induction first generalizing second with
  | nil =>
      obtain rfl := List.length_eq_zero_iff.mp same.symm
      simp [bitsPolynomial]
  | cons one rest induction =>
      cases second with
      | nil => exact absurd same (Nat.succ_ne_zero _)
      | cons other others =>
          have equal := Nat.succ.inj same
          rw [List.zipWith_cons_cons, bitsPolynomial_cons, bitsPolynomial_cons,
            bitsPolynomial_cons, induction equal, List.length_zipWith, ← equal, Nat.min_self,
            cast_toNat_xor, C_add]
          ring

theorem bytePolynomial_xor (first second : UInt8) :
    bytePolynomial (first ^^^ second) = bytePolynomial first + bytePolynomial second := by
  rw [bytePolynomial, byteBits, UInt8.toNat_xor, bitsOfValue_xor]
  exact bitsPolynomial_xor (by simp)

theorem bytePolynomial_shiftLeft (byte : UInt8) :
    bytePolynomial byte * X =
      C ((byte.toNat.testBit 7).toNat : ZMod 2) * X ^ 8 + bytePolynomial (byte <<< 1) := by
  have shifted : (byte <<< 1).toNat = byte.toNat * 2 % 2 ^ 8 := by
    rw [UInt8.toNat_shiftLeft, Nat.shiftLeft_eq]
    rfl
  have half : byte.toNat * 2 % 2 ^ 8 / 2 = byte.toNat % 2 ^ 7 := by omega
  have lowest : (byte.toNat * 2 % 2 ^ 8).testBit 0 = false := by
    rw [Nat.testBit_zero]
    exact decide_eq_false (by omega)
  have moved : byteBits (byte <<< 1) = bitsOfValue 7 byte.toNat ++ [false] := by
    rw [byteBits, shifted, bitsOfValue_succ_last 7, half, bitsOfValue_mod 7 _ (Nat.le_refl 7),
      lowest]
  rw [bytePolynomial, bytePolynomial, moved, byteBits, bitsPolynomial_concat, bitsOfValue_succ,
    bitsPolynomial_cons, length_bitsOfValue]
  simp only [Bool.toNat_false, Nat.cast_zero, C_0, add_zero]
  ring

theorem degree_divisor (polynomial : UInt8) : (divisor polynomial).degree = 8 := by
  have lower : (bytePolynomial polynomial).degree < (X ^ 8 : (ZMod 2)[X]).degree := by
    rw [degree_X_pow]
    exact degree_bitsPolynomial_lt (byteBits polynomial)
  rw [divisor, degree_add_eq_left_of_degree_lt lower, degree_X_pow]
  rfl

theorem monic_divisor (polynomial : UInt8) : (divisor polynomial).Monic :=
  monic_X_pow_add (degree_bitsPolynomial_lt (byteBits polynomial))

theorem bytePolynomial_divisionStep (polynomial remainder : UInt8) (bit : Bool) :
    ∃ quotient, bytePolynomial remainder * X + C (bit.toNat : ZMod 2) * X ^ 8 =
      bytePolynomial (divisionStep polynomial remainder bit) + divisor polynomial * quotient := by
  have fallen : bytePolynomial remainder * X + C (bit.toNat : ZMod 2) * X ^ 8 =
      C ((remainder.toNat.testBit 7 ^^ bit).toNat : ZMod 2) * X ^ 8 +
        bytePolynomial (remainder <<< 1) := by
    rw [bytePolynomial_shiftLeft, cast_toNat_xor, C_add]
    ring
  rw [fallen, divisionStep]
  cases remainder.toNat.testBit 7 ^^ bit with
  | false => exact ⟨0, by simp⟩
  | true =>
      refine ⟨1, ?_⟩
      have twice := CharTwo.add_self_eq_zero (bytePolynomial polynomial)
      rw [if_pos rfl, bytePolynomial_xor, divisor, Bool.toNat_true, Nat.cast_one, C_1]
      linear_combination -twice

theorem bytePolynomial_divide (polynomial initial : UInt8) (bits : List Bool) :
    bytePolynomial (divide polynomial initial bits) =
      (bytePolynomial initial * X ^ bits.length + bitsPolynomial bits * X ^ 8) %ₘ
        divisor polynomial := by
  have divided : ∃ quotient, bytePolynomial (divide polynomial initial bits) +
      divisor polynomial * quotient =
        bytePolynomial initial * X ^ bits.length + bitsPolynomial bits * X ^ 8 := by
    induction bits using List.reverseRecOn with
    | nil => exact ⟨0, by simp [divide, bitsPolynomial]⟩
    | append_singleton bits bit induction =>
        rcases induction with ⟨before, whole⟩
        rcases bytePolynomial_divisionStep polynomial (divide polynomial initial bits) bit with
          ⟨further, step⟩
        refine ⟨further + before * X, ?_⟩
        have last : divide polynomial (divide polynomial initial bits) [bit] =
            divisionStep polynomial (divide polynomial initial bits) bit := rfl
        rw [divide_append, last, bitsPolynomial_concat, List.length_append,
          List.length_singleton, pow_succ]
        linear_combination X * whole - step
  rcases divided with ⟨quotient, whole⟩
  have lower : (bytePolynomial (divide polynomial initial bits)).degree <
      (divisor polynomial).degree := by
    rw [degree_divisor]
    exact degree_bitsPolynomial_lt (byteBits _)
  exact (div_modByMonic_unique quotient _ (monic_divisor polynomial) ⟨whole, lower⟩).2.symm

namespace Crc8

/-! ## Uses of a checksum -/

inductive Use
  | update (data : List UInt8)
  | reset
  | checksum (data : List UInt8)

def after (crc : Crc8) : Use → Crc8
  | .update data => crc.update data
  | .reset => crc.reset
  | .checksum data => crc.checksum data

theorem checksum_after (crc : Crc8) (use : Use) (data : List UInt8) :
    (crc.after use).checksum data = crc.checksum data := by
  cases use <;> rfl

theorem checksum_foldl_after (crc : Crc8) (uses : List Use) (data : List UInt8) :
    (uses.foldl after crc).checksum data = crc.checksum data := by
  induction uses generalizing crc with
  | nil => rfl
  | cons use rest induction =>
      rw [List.foldl_cons, induction, checksum_after]

theorem update_append (crc : Crc8) (first second : List UInt8) :
    (crc.update first).update second = crc.update (first ++ second) := by
  rw [update, update, update, List.foldl_append]
  rfl

theorem value_checksum_xor_checksum (polynomial initial : UInt8) {first second : List UInt8}
    (same : first.length = second.length) :
    ((ofPolynomial polynomial initial).checksum first).value ^^^
        ((ofPolynomial polynomial initial).checksum second).value =
      ((ofPolynomial polynomial 0).checksum (first.zipWith (· ^^^ ·) second)).value := by
  have linear := foldl_byteRemainder_xor polynomial same initial initial
  rw [UInt8.xor_self] at linear
  rw [value_checksum, value_checksum, value_checksum, linear]

/-- The table divides: bytes leave the remainder of long division, bit by bit, which is that of
their polynomial. They may come in parts, a checksum is the same after any use, and two of them
differ by the checksum from zero of the places in which the bytes differ. -/
theorem update_divides (polynomial initial : UInt8) :
    (∀ data,
      ((ofPolynomial polynomial initial).update data).value =
        divide polynomial initial (bitsOfBytes data) ∧
      bytePolynomial ((ofPolynomial polynomial initial).update data).value =
        (bytePolynomial initial * X ^ (8 * data.length) +
          bitsPolynomial (bitsOfBytes data) * X ^ 8) %ₘ divisor polynomial) ∧
    (∀ uses first second,
      let crc := List.foldl after (ofPolynomial polynomial initial) uses
      (crc.update first).update second = crc.update (first ++ second)) ∧
    (∀ uses data,
      (List.foldl after (ofPolynomial polynomial initial) uses).checksum data =
        (ofPolynomial polynomial initial).checksum data) ∧
    ∀ first second, first.length = second.length →
      ((ofPolynomial polynomial initial).checksum first).value ^^^
          ((ofPolynomial polynomial initial).checksum second).value =
        ((ofPolynomial polynomial 0).checksum (first.zipWith (· ^^^ ·) second)).value := by
  refine ⟨fun data => ?_, fun uses first second => update_append _ first second,
    fun uses data => checksum_foldl_after _ uses data,
    fun first second same => value_checksum_xor_checksum polynomial initial same⟩
  rw [← length_bitsOfBytes, value_update]
  exact ⟨rfl, bytePolynomial_divide polynomial initial (bitsOfBytes data)⟩

/-- Two pairs of bytes under the polynomial and the initial value of headers. -/
theorem update_divides_two_bytes :
    [0x12, 0x34].length = [0x56, 0x78].length ∧
      ((ofPolynomial 0x07 0xFF).checksum [0x12, 0x34]).value ^^^
          ((ofPolynomial 0x07 0xFF).checksum [0x56, 0x78]).value =
        ((ofPolynomial 0x07 0).checksum [0x44, 0x4C]).value :=
  ⟨rfl, (update_divides 0x07 0xFF).2.2.2 [0x12, 0x34] [0x56, 0x78] rfl⟩

end Crc8

end PacketFraming
