/-! Numbers as strings of bits.

The number that bits spell and the bits of a number determine each other, within the width
of the string. -/

-- Powers of numbers are the built-in ones, whatever a module imports.
attribute [default_instance high, instance (high)] instPowNat

namespace PacketFraming

/-- The number spelled by bits, the first one most significant. -/
def valueOfBits (bits : List Bool) : Nat :=
  bits.foldl (fun value bit => 2 * value + bit.toNat) 0

/-- The number spelled by bits, the first one least significant. -/
def valueOfReversedBits (bits : List Bool) : Nat :=
  bits.foldr (fun bit value => bit.toNat + 2 * value) 0

/-- The lowest `width` bits of a number, most significant first. -/
def bitsOfValue (width value : Nat) : List Bool :=
  (List.range width).map fun index => value.testBit (width - 1 - index)

example : valueOfBits [true, false, true, true] = 11 := rfl

example : valueOfReversedBits [true, true, false, true] = 11 := rfl

example : bitsOfValue 4 11 = [true, false, true, true] := rfl

/-! ## The number of a string -/

@[simp] theorem valueOfBits_nil : valueOfBits [] = 0 := rfl

private theorem foldl_valueOfBits (start : Nat) (bits : List Bool) :
    bits.foldl (fun value bit => 2 * value + bit.toNat) start =
      start * 2 ^ bits.length + valueOfBits bits := by
  induction bits generalizing start with
  | nil => simp
  | cons bit rest induction =>
      rw [valueOfBits, List.foldl_cons, List.foldl_cons, induction, induction,
        List.length_cons, Nat.pow_succ']
      grind

theorem valueOfBits_cons (bit : Bool) (rest : List Bool) :
    valueOfBits (bit :: rest) = bit.toNat * 2 ^ rest.length + valueOfBits rest := by
  rw [valueOfBits, List.foldl_cons, foldl_valueOfBits]
  simp

theorem valueOfBits_append (first second : List Bool) :
    valueOfBits (first ++ second) =
      valueOfBits first * 2 ^ second.length + valueOfBits second := by
  rw [valueOfBits, List.foldl_append, foldl_valueOfBits]
  rfl

theorem valueOfBits_concat (bits : List Bool) (bit : Bool) :
    valueOfBits (bits ++ [bit]) = 2 * valueOfBits bits + bit.toNat :=
  List.foldl_append

theorem valueOfBits_lt (bits : List Bool) : valueOfBits bits < 2 ^ bits.length := by
  induction bits with
  | nil => decide
  | cons bit rest induction =>
      have small : bit.toNat ≤ 1 := Bool.toNat_le bit
      have scaled : bit.toNat * 2 ^ rest.length ≤ 1 * 2 ^ rest.length :=
        Nat.mul_le_mul_right _ small
      rw [valueOfBits_cons, List.length_cons, Nat.pow_succ]
      omega

/-! ## The string of a number -/

@[simp] theorem length_bitsOfValue (width value : Nat) :
    (bitsOfValue width value).length = width := by
  simp [bitsOfValue]

@[simp] theorem bitsOfValue_zero (value : Nat) : bitsOfValue 0 value = [] := rfl

theorem bitsOfValue_succ (width value : Nat) :
    bitsOfValue (width + 1) value = value.testBit width :: bitsOfValue width value := by
  simp only [bitsOfValue, List.range_succ_eq_map, List.map_cons, List.map_map]
  congr 1
  apply List.map_congr_left
  intro index _
  simp only [Function.comp_apply]
  congr 1
  omega

/-- The bits of a number spell what is left of it in their width. -/
theorem valueOfBits_bitsOfValue (width value : Nat) :
    valueOfBits (bitsOfValue width value) = value % 2 ^ width := by
  induction width with
  | zero => simp [Nat.mod_one]
  | succ width induction =>
      rw [bitsOfValue_succ, valueOfBits_cons, induction, length_bitsOfValue,
        Nat.toNat_testBit, Nat.mod_pow_succ, Nat.mul_comm, Nat.add_comm]

theorem bitsOfValue_valueOfBits (bits : List Bool) :
    bitsOfValue bits.length (valueOfBits bits) = bits := by
  induction bits with
  | nil => rfl
  | cons bit rest induction =>
      have bound := valueOfBits_lt rest
      have highest : (valueOfBits (bit :: rest)).testBit rest.length = bit := by
        rw [valueOfBits_cons, Nat.mul_comm, Nat.testBit_two_pow_mul_add _ bound]
        cases bit <;> simp
      have lower : bitsOfValue rest.length (valueOfBits (bit :: rest)) =
          bitsOfValue rest.length (valueOfBits rest) := by
        apply List.map_congr_left
        intro index member
        have inside := List.mem_range.mp member
        have below : rest.length - 1 - index < rest.length := by omega
        rw [valueOfBits_cons, Nat.mul_comm, Nat.testBit_two_pow_mul_add _ bound, if_pos below]
      rw [List.length_cons, bitsOfValue_succ, highest, lower, induction]

theorem bitsOfValue_mod (width : Nat) {large : Nat} (value : Nat) (within : width ≤ large) :
    bitsOfValue width (value % 2 ^ large) = bitsOfValue width value := by
  apply List.map_congr_left
  intro index member
  have inside := List.mem_range.mp member
  have below : width - 1 - index < large := by omega
  simp [Nat.testBit_mod_two_pow, below]

theorem bitsOfValue_succ_last (width value : Nat) :
    bitsOfValue (width + 1) value = bitsOfValue width (value / 2) ++ [value.testBit 0] := by
  rw [bitsOfValue, List.range_succ, List.map_append, List.map_singleton]
  congr 1
  · apply List.map_congr_left
    intro index member
    have inside := List.mem_range.mp member
    have place : width + 1 - 1 - index = width - 1 - index + 1 := by omega
    rw [place, Nat.testBit_succ]
  · rw [Nat.add_sub_cancel, Nat.sub_self]

theorem bitsOfValue_xor (width first second : Nat) :
    bitsOfValue width (first ^^^ second) =
      (bitsOfValue width first).zipWith (· ^^ ·) (bitsOfValue width second) := by
  induction width with
  | zero => rfl
  | succ width induction =>
      rw [bitsOfValue_succ, bitsOfValue_succ, bitsOfValue_succ, Nat.testBit_xor, induction,
        List.zipWith_cons_cons]

/-- The bits of a number that was spelled are the last bits of what spelled it. -/
theorem bitsOfValue_valueOfBits_append (first second : List Bool) :
    bitsOfValue second.length (valueOfBits (first ++ second)) = second := by
  rw [← bitsOfValue_mod _ _ (Nat.le_refl _), valueOfBits_append, Nat.add_comm,
    Nat.add_mul_mod_self_right, bitsOfValue_mod _ _ (Nat.le_refl _), bitsOfValue_valueOfBits]

theorem bitsOfValue_add (first second value : Nat) :
    bitsOfValue (first + second) value =
      bitsOfValue first (value / 2 ^ second) ++ bitsOfValue second value := by
  induction first with
  | zero => simp
  | succ first induction =>
      rw [Nat.succ_add, bitsOfValue_succ, bitsOfValue_succ, Nat.testBit_div_two_pow, induction,
        List.cons_append]

/-! ## Words -/

@[simp] theorem toNat_toUInt64 (bit : Bool) : bit.toUInt64.toNat = bit.toNat := by
  cases bit <;> rfl

/-- A bit that is shifted into a word from below; the highest one is lost. -/
theorem toNat_shiftIn (word : UInt64) (bit : Bool) :
    ((word <<< 1) ||| bit.toUInt64).toNat = (2 * word.toNat + bit.toNat) % 2 ^ 64 := by
  have small : bit.toNat < 2 ^ 1 := Bool.toNat_lt bit
  have moved : (word <<< 1).toNat = (word.toNat % 2 ^ 63) <<< 1 := by
    have one : (1 : UInt64).toNat % 64 = 1 := rfl
    rw [UInt64.toNat_shiftLeft, one, Nat.shiftLeft_eq, Nat.shiftLeft_eq]
    omega
  rw [UInt64.toNat_or, toNat_toUInt64, moved, ← Nat.shiftLeft_add_eq_or_of_lt small,
    Nat.shiftLeft_eq]
  omega

end PacketFraming
