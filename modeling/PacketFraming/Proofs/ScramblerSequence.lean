import PacketFraming.Proofs.UnitPositions

/-! The sequence of a scrambler.

A scrambler puts out one sequence of bits. However many of them are taken at a time, and in units
of whatever width, the next ones go on where the last ones have ended. -/

namespace PacketFraming

namespace Scrambler

def after (scrambler : Scrambler) : Nat → Scrambler
  | 0 => scrambler
  | count + 1 => scrambler.advance.after count

def outputAt (scrambler : Scrambler) (index : Nat) : Bool :=
  (scrambler.after index).output

theorem after_add (scrambler : Scrambler) (first second : Nat) :
    scrambler.after (first + second) = (scrambler.after first).after second := by
  induction first generalizing scrambler with
  | zero => rw [Nat.zero_add, after]
  | succ first induction =>
      rw [Nat.succ_add]
      exact induction scrambler.advance

theorem outputAt_after (scrambler : Scrambler) (count index : Nat) :
    (scrambler.after count).outputAt index = scrambler.outputAt (count + index) := by
  rw [outputAt, ← after_add]
  rfl

theorem nextBits_eq (count : Nat) (scrambler : Scrambler) :
    nextBits count scrambler =
      ((List.range count).map scrambler.outputAt, scrambler.after count) := by
  induction count generalizing scrambler with
  | zero => rfl
  | succ count induction =>
      rw [List.range_succ_eq_map, List.map_cons, List.map_map]
      exact congrArg (fun taken => (scrambler.output :: taken.1, taken.2))
        (induction scrambler.advance)

theorem nextUnit_snd (width : Nat) (scrambler : Scrambler) :
    (nextUnit width scrambler).2 = scrambler.after (min width 8) :=
  congrArg Prod.snd (nextBits_eq (min width 8) scrambler)

/-- A unit has the next bits of the sequence, the first one lowest, and nothing else. -/
theorem testBit_nextUnit (width : Nat) (scrambler : Scrambler) (place : Nat) :
    (nextUnit width scrambler).1.toNat.testBit place =
      (decide (place < min width 8) && scrambler.outputAt place) := by
  have spelled : (nextUnit width scrambler).1 = UInt8.ofNat
      (valueOfReversedBits ((List.range (min width 8)).map scrambler.outputAt)) := by
    rw [nextUnit, nextBits_eq]
  have small : valueOfReversedBits ((List.range (min width 8)).map scrambler.outputAt) <
      2 ^ 8 := by
    refine Nat.lt_of_lt_of_le (valueOfReversedBits_lt _)
      (Nat.pow_le_pow_right (by decide) ?_)
    rw [List.length_map, List.length_range]
    exact Nat.min_le_right width 8
  rw [spelled, UInt8.toNat_ofNat', Nat.mod_eq_of_lt small, testBit_valueOfReversedBits]
  by_cases inside : place < min width 8
  · simp [List.getD_eq_getElem?_getD, inside]
  · simp [List.getD_eq_getElem?_getD, inside]

theorem getElem?_nextUnits (width : Nat) {count index : Nat} (inside : index < count)
    (scrambler : Scrambler) :
    (nextUnits width count scrambler).1[index]? =
      some (nextUnit width (scrambler.after (index * min width 8))).1 := by
  induction count generalizing scrambler index with
  | zero => exact absurd inside (Nat.not_lt_zero index)
  | succ count induction =>
      cases index with
      | zero =>
          rw [Nat.zero_mul]
          rfl
      | succ index =>
          change (nextUnits width count (nextUnit width scrambler).2).1[index]? = _
          rw [induction (Nat.lt_of_succ_lt_succ inside), nextUnit_snd, ← after_add,
            Nat.add_comm, ← Nat.succ_mul]

end Scrambler

end PacketFraming
