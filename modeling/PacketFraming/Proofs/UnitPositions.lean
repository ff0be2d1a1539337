import PacketFraming.Proofs.UnitRoundTrip

/-! Units seen bit by bit.

The bits of a field that was cut into units lie in a row, least significant first, from the
first bit of its first unit on. What a field spells, and whether a checksum agrees, is told by
the bits in these places. -/

namespace PacketFraming

theorem testBit_valueOfReversedBits (bits : List Bool) (place : Nat) :
    (valueOfReversedBits bits).testBit place = bits.getD place false := by
  induction bits generalizing place with
  | nil => simp [valueOfReversedBits]
  | cons bit rest induction =>
      change (bit.toNat + 2 * valueOfReversedBits rest).testBit place = _
      cases place with
      | zero => cases bit <;> simp [Nat.testBit_zero, Nat.add_mod]
      | succ place =>
          have halved : (bit.toNat + 2 * valueOfReversedBits rest) / 2 =
              valueOfReversedBits rest := by
            have small := Bool.toNat_le bit
            omega
          rw [Nat.testBit_succ, halved, induction, List.getD_cons_succ]

theorem valueOfReversedBits_append (first second : List Bool) :
    valueOfReversedBits (first ++ second) =
      valueOfReversedBits first + 2 ^ first.length * valueOfReversedBits second := by
  induction first with
  | nil => simp [valueOfReversedBits]
  | cons bit rest induction =>
      change bit.toNat + 2 * valueOfReversedBits (rest ++ second) =
        bit.toNat + 2 * valueOfReversedBits rest + 2 ^ (rest.length + 1) * _
      rw [induction, Nat.pow_succ', Nat.mul_add, Nat.mul_assoc, Nat.add_assoc]

theorem valueOfReversedBits_concat (bits : List Bool) (bit : Bool) :
    valueOfReversedBits (bits ++ [bit]) =
      valueOfReversedBits bits + bit.toNat * 2 ^ bits.length := by
  rw [valueOfReversedBits_append, Nat.mul_comm]
  rfl

/-! ## Bits of units -/

theorem unitBits_ofNat_mod {width : Nat} (width_le : width ≤ 8) (value : Nat) :
    unitBits width (UInt8.ofNat (value % 2 ^ width)) = (List.range width).map value.testBit := by
  apply List.map_congr_left
  intro index member
  rw [toNat_ofNat_mod width_le, Nat.testBit_mod_two_pow, decide_eq_true (List.mem_range.mp member),
    Bool.true_and]

theorem valueOfUnits_eq (width : Nat) (units : List UInt8) :
    valueOfUnits width units = valueOfReversedBits (units.flatMap (unitBits width)) := by
  induction units with
  | nil => rfl
  | cons unit rest induction =>
      rw [List.flatMap_cons, valueOfReversedBits_append, length_unitBits, ← induction, unitBits,
        valueOfReversedBits_testBits]
      rfl

theorem testBit_valueOfUnits (width : Nat) (units : List UInt8) (place : Nat) :
    (valueOfUnits width units).testBit place =
      (units.flatMap (unitBits width)).getD place false := by
  rw [valueOfUnits_eq, testBit_valueOfReversedBits]

theorem flatMap_unitBits_map_range {width : Nat} (width_le : width ≤ 8) (count value : Nat) :
    ((List.range count).map fun index =>
        UInt8.ofNat (value / 2 ^ (index * width) % 2 ^ width)).flatMap (unitBits width) =
      (List.range (count * width)).map value.testBit := by
  induction count with
  | zero => simp
  | succ count induction =>
      have last : unitBits width (UInt8.ofNat (value / 2 ^ (count * width) % 2 ^ width)) =
          (List.range width).map (value.testBit ∘ (count * width + ·)) := by
        rw [unitBits_ofNat_mod width_le]
        apply List.map_congr_left
        intro index _
        rw [Nat.testBit_div_two_pow, Nat.add_comm]
        rfl
      rw [List.range_succ, List.map_append, List.flatMap_append, induction, List.map_singleton,
        List.flatMap_singleton, last, Nat.succ_mul, List.range_add, List.map_append, List.map_map]

/-- A field takes whole units, of which its value fills the first bits. -/
theorem flatMap_unitBits_fieldUnits {width : Nat} (width_le : width ≤ 8) (size value : Nat) :
    (fieldUnits width size value).flatMap (unitBits width) =
      (List.range (ceilDiv size width * width)).map value.testBit :=
  flatMap_unitBits_map_range width_le _ _

theorem flatMap_unitBits_take (width count : Nat) (units : List UInt8) :
    (units.take count).flatMap (unitBits width) =
      (units.flatMap (unitBits width)).take (count * width) := by
  induction units generalizing count with
  | nil => simp
  | cons unit rest induction =>
      cases count with
      | zero => simp
      | succ count =>
          have beyond : (count + 1) * width = (unitBits width unit).length + count * width := by
            rw [length_unitBits, Nat.succ_mul, Nat.add_comm]
          rw [List.take_succ_cons, List.flatMap_cons, induction, List.flatMap_cons, beyond,
            List.take_length_add_append]

theorem flatMap_unitBits_drop (width count : Nat) (units : List UInt8) :
    (units.drop count).flatMap (unitBits width) =
      (units.flatMap (unitBits width)).drop (count * width) := by
  induction units generalizing count with
  | nil => simp
  | cons unit rest induction =>
      cases count with
      | zero => simp
      | succ count =>
          have beyond : (count + 1) * width = (unitBits width unit).length + count * width := by
            rw [length_unitBits, Nat.succ_mul, Nat.add_comm]
          rw [List.drop_succ_cons, induction, List.flatMap_cons, beyond,
            List.drop_length_add_append]

theorem flatMap_unitBits_zipWith_xor (width : Nat) {first second : List UInt8}
    (same : first.length = second.length) :
    (first.zipWith (· ^^^ ·) second).flatMap (unitBits width) =
      (first.flatMap (unitBits width)).zipWith (· ^^ ·) (second.flatMap (unitBits width)) := by
  induction first generalizing second with
  | nil => simp
  | cons unit rest induction =>
      cases second with
      | nil => exact absurd same (Nat.succ_ne_zero _)
      | cons mask masks =>
          have one : unitBits width (unit ^^^ mask) =
              (unitBits width unit).zipWith (· ^^ ·) (unitBits width mask) := by
            apply List.ext_getElem <;> simp [unitBits]
          rw [List.zipWith_cons_cons, List.flatMap_cons, List.flatMap_cons, List.flatMap_cons,
            induction (Nat.succ.inj same), one, List.zipWith_append]
          simp

theorem mod_eq_iff_unitBits {width : Nat} {unit expected : UInt8} (narrow : Narrow width expected) :
    unit.toNat % 2 ^ width = expected.toNat ↔
      ∀ place < width, (unitBits width unit)[place]? = (unitBits width expected)[place]? := by
  constructor
  · intro same place inside
    have bit := congrArg (·.testBit place) same
    simp only [Nat.testBit_mod_two_pow, inside, decide_true, Bool.true_and] at bit
    simp [unitBits, inside, bit]
  · intro same
    apply Nat.eq_of_testBit_eq
    intro place
    rw [Nat.testBit_mod_two_pow]
    by_cases inside : place < width
    · have bit := same place inside
      simpa [unitBits, inside] using bit
    · have zero : expected.toNat.testBit place = false := by
        apply Nat.testBit_lt_two_pow
        exact Nat.lt_of_lt_of_le narrow (Nat.pow_le_pow_right (by decide) (Nat.le_of_not_lt inside))
      simp [inside, zero]

theorem unitBits_ofNat_valueOfReversedBits {bits : List Bool} (length_le : bits.length ≤ 8) :
    unitBits bits.length (UInt8.ofNat (valueOfReversedBits bits)) = bits := by
  have bound : valueOfReversedBits bits < 2 ^ 8 :=
    Nat.lt_of_lt_of_le (valueOfReversedBits_lt bits) (Nat.pow_le_pow_right (by decide) length_le)
  rw [unitBits, UInt8.toNat_ofNat', Nat.mod_eq_of_lt bound]
  apply List.ext_getElem
  · simp
  · intro index first second
    simp [testBit_valueOfReversedBits, second]

theorem flatMap_unitBits_fitted (width count : Nat) (units : List UInt8) :
    (fitted count units).flatMap (unitBits width) =
      (units.flatMap (unitBits width)).take (count * width) ++
        List.replicate ((count - units.length) * width) false := by
  have zeros (count : Nat) : (List.replicate count 0).flatMap (unitBits width) =
      List.replicate (count * width) false := by
    have zero : unitBits width 0 = List.replicate width false := by
      apply List.ext_getElem <;> simp [unitBits]
    rw [List.flatMap_replicate, zero, List.flatten_replicate_replicate]
  rw [fitted, List.flatMap_append, flatMap_unitBits_take, zeros]

/-! ## Fields in places -/

/-- The number that bits spell from a place on, the first one least significant. -/
def spelledAt (bits : List Bool) (start size : Nat) : Nat :=
  valueOfReversedBits ((bits.drop start).take size)

theorem testBit_spelledAt (bits : List Bool) (start size place : Nat) :
    (spelledAt bits start size).testBit place =
      (decide (place < size) && bits.getD (start + place) false) := by
  rw [spelledAt, testBit_valueOfReversedBits, List.getD_eq_getElem?_getD,
    List.getD_eq_getElem?_getD, List.getElem?_take, List.getElem?_drop]
  by_cases inside : place < size <;> simp [inside]

theorem spelledAt_lt (bits : List Bool) (start size : Nat) :
    spelledAt bits start size < 2 ^ min size (bits.length - start) := by
  have bound := valueOfReversedBits_lt ((bits.drop start).take size)
  rwa [List.length_take, List.length_drop] at bound

theorem spelledAt_drop (bits : List Bool) (lost size : Nat) :
    spelledAt (bits.drop lost) 0 size = spelledAt bits lost size := by
  rw [spelledAt, List.drop_drop, Nat.add_zero]
  rfl

theorem spelledAt_zipWith_xor {bits mask : List Bool} (same : bits.length = mask.length)
    (start size : Nat) :
    spelledAt (bits.zipWith (· ^^ ·) mask) start size =
      spelledAt bits start size ^^^ spelledAt mask start size := by
  apply Nat.eq_of_testBit_eq
  intro place
  rw [Nat.testBit_xor, testBit_spelledAt, testBit_spelledAt, testBit_spelledAt,
    List.getD_eq_getElem?_getD, List.getD_eq_getElem?_getD, List.getD_eq_getElem?_getD,
    List.getElem?_zipWith]
  by_cases inside : start + place < bits.length
  · rw [List.getElem?_eq_getElem inside, List.getElem?_eq_getElem (same ▸ inside)]
    cases decide (place < size) <;> simp
  · rw [List.getElem?_eq_none (by omega), List.getElem?_eq_none (by omega)]
    simp

theorem eq_spelledAt_iff {bits : List Bool} {start size value : Nat}
    (small : value < 2 ^ min size (bits.length - start)) :
    value = spelledAt bits start size ↔
      ∀ place < size, start + place < bits.length →
        bits[start + place]? = some (value.testBit place) := by
  constructor
  · rintro same place inside held
    rw [same, testBit_spelledAt, decide_eq_true inside, Bool.true_and,
      List.getD_eq_getElem?_getD, List.getElem?_eq_getElem held, Option.getD_some]
  · intro found
    apply Nat.eq_of_testBit_eq
    intro place
    rw [testBit_spelledAt, List.getD_eq_getElem?_getD]
    by_cases within : place < size ∧ start + place < bits.length
    · rw [found place within.1 within.2, decide_eq_true within.1, Bool.true_and, Option.getD_some]
    · have zero : value.testBit place = false := by
        apply Nat.testBit_lt_two_pow
        exact Nat.lt_of_lt_of_le small (Nat.pow_le_pow_right (by decide) (by omega))
      rw [zero]
      by_cases inside : place < size
      · rw [List.getElem?_eq_none (by omega), Option.getD_none, Bool.and_false]
      · rw [decide_eq_false inside, Bool.false_and]

/-- A field spells its value in the first of its bits; the others are ignored. -/
theorem takeField_eq (width : Nat) {units : List UInt8} (some : units ≠ []) (width_pos : 1 ≤ width)
    (size : Nat) :
    takeField width size units =
      Option.some (spelledAt (units.flatMap (unitBits width)) 0 size,
        units.drop (ceilDiv size width)) := by
  have value : valueOfUnits width (units.take (ceilDiv size width)) % 2 ^ size =
      spelledAt (units.flatMap (unitBits width)) 0 size := by
    have reach := ceilDiv_mul_ge size width_pos
    apply Nat.eq_of_testBit_eq
    intro place
    rw [Nat.testBit_mod_two_pow, testBit_valueOfUnits, testBit_spelledAt, flatMap_unitBits_take]
    by_cases inside : place < size
    · have within : place < ceilDiv size width * width := by omega
      simp [inside, List.getD_eq_getElem?_getD, within]
    · simp [inside]
  cases units with
  | nil => exact absurd rfl some
  | cons unit rest => exact congrArg (fun spelled => Option.some (spelled, _)) value

theorem all_zip_iff {width : Nat} {units expected : List UInt8}
    (narrow : ∀ unit ∈ expected, Narrow width unit) :
    ((units.zip expected).all fun (unit, expected) =>
        unit.toNat % 2 ^ width == expected.toNat) = true ↔
      ∀ place < min units.length expected.length * width,
        (units.flatMap (unitBits width))[place]? =
          (expected.flatMap (unitBits width))[place]? := by
  induction units generalizing expected with
  | nil => simp
  | cons unit rest induction =>
      cases expected with
      | nil => simp
      | cons value values =>
          rw [List.forall_mem_cons] at narrow
          simp only [List.zip_cons_cons, List.all_cons, Bool.and_eq_true, beq_iff_eq,
            mod_eq_iff_unitBits narrow.1, induction narrow.2, List.flatMap_cons,
            List.length_cons, Nat.succ_min_succ, Nat.succ_mul, List.getElem?_append,
            length_unitBits]
          constructor
          · rintro ⟨first, others⟩ place inside
            split
            · next front => exact first place front
            · next behind => exact others (place - width) (by omega)
          · intro same
            constructor
            · intro place front
              have bit := same place (by omega)
              rwa [if_pos front, if_pos front] at bit
            · intro place inside
              have bit := same (width + place) (by omega)
              have behind : ¬width + place < width := by omega
              rwa [if_neg behind, if_neg behind, Nat.add_sub_cancel_left] at bit

theorem UnitLayout.checksumAgrees_iff {width : Nat} (width_le : width ≤ 8) (units : List UInt8)
    (checksum : UInt8) :
    checksumAgrees width units checksum = true ↔
      ∀ place < min units.length (ceilDiv 8 width) * width,
        (units.flatMap (unitBits width))[place]? = some (checksum.toNat.testBit place) := by
  rw [checksumAgrees, all_zip_iff (narrow_fieldUnits width_le 8 checksum.toNat),
    length_fieldUnits, flatMap_unitBits_fieldUnits width_le]
  refine forall_congr' fun place => imp_congr_right fun inside => ?_
  have within : place < ceilDiv 8 width * width :=
    Nat.lt_of_lt_of_le inside (Nat.mul_le_mul_right width (Nat.min_le_right _ _))
  rw [List.getElem?_map, List.getElem?_range within, Option.map_some]

end PacketFraming
