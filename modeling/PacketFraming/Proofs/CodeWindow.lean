import PacketFraming.Bits.Correlator

/-! The correlator as a window over the bits that it has heard.

Its word holds the newest bits, and the distance it reports is the number of places in which
as many of them as the code has differ from the code. -/

namespace PacketFraming

/-! ## Set bits -/

theorem countOnes_eq_count (width : Nat) (word : UInt64) :
    countOnes width word = (bitsOfValue width word.toNat).count true := by
  induction width generalizing word with
  | zero => rfl
  | succ width induction =>
      have halved : (word >>> 1).toNat = word.toNat / 2 := by simp [Nat.shiftRight_eq_div_pow]
      have lowest : (word &&& 1).toNat = [word.toNat.testBit 0].count true := by
        have value : (word &&& 1).toNat = word.toNat % 2 :=
          (UInt64.toNat_and word 1).trans (Nat.and_one_is_mod word.toNat)
        rw [value, Nat.testBit_zero]
        rcases Nat.mod_two_eq_zero_or_one word.toNat with even | odd
        · rw [even]; rfl
        · rw [odd]; rfl
      rw [countOnes, induction, bitsOfValue_succ_last, halved, lowest, List.count_append,
        Nat.add_comm]

theorem count_bitsOfValue_mod (width further value : Nat) :
    (bitsOfValue (width + further) (value % 2 ^ width)).count true =
      (bitsOfValue width value).count true := by
  induction further with
  | zero => rw [Nat.add_zero, bitsOfValue_mod width value (Nat.le_refl width)]
  | succ further induction =>
      have unset : (value % 2 ^ width).testBit (width + further) = false := by
        simp only [Nat.testBit_mod_two_pow, Nat.not_lt.mpr (Nat.le_add_right width further),
          decide_false, Bool.false_and]
      rw [← Nat.add_assoc, bitsOfValue_succ, unset, List.count_cons_of_ne Bool.false_ne_true,
        induction]

/-! ## Windows -/

def differences (first second : List Bool) : Nat :=
  (first.zipWith (· ^^ ·) second).count true

namespace Correlator

/-- What a correlator knows of the bits since its last reset: the newest 64 of them. -/
structure Heard (correlator : Correlator) (bits : List Bool) : Prop where
  history : correlator.history.toNat = valueOfBits bits % 2 ^ 64
  filled : correlator.filled = min bits.length 64

theorem heard_reset (correlator : Correlator) : correlator.reset.Heard [] where
  history := rfl
  filled := rfl

theorem Heard.shift {correlator : Correlator} {bits : List Bool} (heard : correlator.Heard bits)
    (bit : Bool) : (correlator.shift bit).Heard (bits ++ [bit]) where
  history := by
    have shifted := toNat_shiftIn correlator.history bit
    rw [heard.history] at shifted
    rw [valueOfBits_concat]
    exact shifted.trans (by omega)
  filled := by
    have counted : (correlator.shift bit).filled = min (correlator.filled + 1) 64 := rfl
    rw [counted, heard.filled, List.length_append, List.length_singleton]
    omega

/-- The newest bits, as many as the code has, in the order in which they came. -/
def window (code : AccessCode) (bits : List Bool) : List Bool :=
  bits.drop (bits.length - code.length)

theorem Heard.distance_eq {correlator : Correlator} {bits : List Bool}
    (heard : correlator.Heard bits) (enough : correlator.code.length ≤ bits.length) :
    correlator.distance =
      differences (window correlator.code bits) correlator.code.bits := by
  have length_le := correlator.code.length_le
  have masked : ((correlator.history ^^^ correlator.code.word) &&&
      correlator.code.mask).toNat =
        (correlator.history.toNat ^^^ correlator.code.word.toNat) %
          2 ^ correlator.code.length := by
    rw [UInt64.toNat_and, UInt64.toNat_xor, AccessCode.mask, lowMask_toNat length_le,
      Nat.and_two_pow_sub_one_eq_mod]
  have newest : bitsOfValue correlator.code.length correlator.history.toNat =
      window correlator.code bits := by
    have width : (window correlator.code bits).length = correlator.code.length := by
      rw [window, List.length_drop]
      omega
    have parts := List.take_append_drop (bits.length - correlator.code.length) bits
    have spelled := bitsOfValue_valueOfBits_append
      (bits.take (bits.length - correlator.code.length)) (window correlator.code bits)
    rw [heard.history, bitsOfValue_mod _ _ length_le]
    rwa [window, parts, ← window, width] at spelled
  -- All 64 bits are counted, but those beyond the mask are zero.
  have rest : correlator.code.length + (64 - correlator.code.length) = 64 := by omega
  have counted := count_bitsOfValue_mod correlator.code.length (64 - correlator.code.length)
    (correlator.history.toNat ^^^ correlator.code.word.toNat)
  rw [rest] at counted
  rw [distance, countOnes_eq_count, masked, counted, bitsOfValue_xor, newest, differences]
  rfl

theorem Heard.found?_eq {correlator : Correlator} {bits : List Bool}
    (heard : correlator.Heard bits) :
    correlator.found? =
      if correlator.code.length ≤ bits.length ∧
          differences (window correlator.code bits) correlator.code.bits ≤ correlator.threshold
      then some (differences (window correlator.code bits) correlator.code.bits)
      else none := by
  have length_le := correlator.code.length_le
  have short : correlator.filled < correlator.code.length ↔
      ¬correlator.code.length ≤ bits.length := by
    rw [heard.filled]
    omega
  unfold found?
  by_cases enough : correlator.code.length ≤ bits.length
  · rw [if_neg (fun few => short.mp few enough), heard.distance_eq enough]
    simp only [enough, true_and]
  · rw [if_pos (short.mpr enough), if_neg (fun both => enough both.1)]

end Correlator

end PacketFraming
