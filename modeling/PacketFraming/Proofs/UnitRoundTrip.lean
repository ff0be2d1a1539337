import PacketFraming.Proofs.HeaderRoundTrip

/-! Headers of units, read back.

A unit keeps its lowest bits on the way through a register. A header that is too short for all
fields is read as far as it goes, and the length is always in it. -/

namespace PacketFraming

/-! ## Fields in units -/

theorem ceilDiv_mul_ge (dividend : Nat) {divisor : Nat} (positive : 1 ≤ divisor) :
    dividend ≤ ceilDiv dividend divisor * divisor := by
  have whole := Nat.div_add_mod (dividend + divisor - 1) divisor
  have rest := Nat.mod_lt (dividend + divisor - 1) positive
  rw [ceilDiv, Nat.mul_comm]
  omega

@[simp] theorem ceilDiv_mul_self (quotient : Nat) {divisor : Nat} (positive : 1 ≤ divisor) :
    ceilDiv (divisor * quotient) divisor = quotient := by
  have place : divisor * quotient + divisor - 1 = (divisor - 1) + divisor * quotient := by omega
  rw [ceilDiv, place, Nat.add_mul_div_left _ _ positive, Nat.div_eq_of_lt (by omega),
    Nat.zero_add]

/-- A unit with nothing beyond its width. -/
def Narrow (width : Nat) (unit : UInt8) : Prop :=
  unit.toNat < 2 ^ width

theorem toNat_ofNat_mod {width : Nat} (width_le : width ≤ 8) (value : Nat) :
    (UInt8.ofNat (value % 2 ^ width)).toNat = value % 2 ^ width := by
  have small : value % 2 ^ width < 2 ^ width := Nat.mod_lt _ (Nat.two_pow_pos width)
  have bound : 2 ^ width ≤ 2 ^ 8 := Nat.pow_le_pow_right (by decide) width_le
  rw [UInt8.toNat_ofNat', Nat.mod_eq_of_lt (Nat.lt_of_lt_of_le small bound)]

@[simp] theorem length_fieldUnits (width size value : Nat) :
    (fieldUnits width size value).length = ceilDiv size width := by
  simp [fieldUnits]

theorem narrow_fieldUnits {width : Nat} (width_le : width ≤ 8) (size value : Nat) :
    ∀ unit ∈ fieldUnits width size value, Narrow width unit := by
  intro unit member
  rcases List.mem_map.mp member with ⟨index, -, rfl⟩
  rw [Narrow, toNat_ofNat_mod width_le]
  exact Nat.mod_lt _ (Nat.two_pow_pos width)

/-- Units spell the number that they were cut from, as far as they reach. -/
theorem valueOfUnits_map_range {width : Nat} (width_le : width ≤ 8) (count value : Nat) :
    valueOfUnits width ((List.range count).map fun index =>
      UInt8.ofNat (value / 2 ^ (index * width) % 2 ^ width)) = value % 2 ^ (count * width) := by
  induction count generalizing value with
  | zero => simp [valueOfUnits, Nat.mod_one]
  | succ count induction =>
      have shifted : ((List.range count).map fun index =>
          UInt8.ofNat (value / 2 ^ ((index + 1) * width) % 2 ^ width)) =
            (List.range count).map fun index =>
              UInt8.ofNat (value / 2 ^ width / 2 ^ (index * width) % 2 ^ width) := by
        apply List.map_congr_left
        intro index _
        rw [Nat.succ_mul, Nat.pow_add, Nat.mul_comm, Nat.div_div_eq_div_mul]
      have lowest : (UInt8.ofNat (value / 2 ^ (0 * width) % 2 ^ width)).toNat % 2 ^ width =
          value % 2 ^ width := by
        rw [toNat_ofNat_mod width_le, Nat.mod_mod, Nat.zero_mul, Nat.pow_zero, Nat.div_one]
      rw [List.range_succ_eq_map, List.map_cons, List.map_map]
      change _ + _ * valueOfUnits width ((List.range count).map fun index =>
          UInt8.ofNat (value / 2 ^ ((index + 1) * width) % 2 ^ width)) = _
      rw [shifted, induction, lowest, Nat.succ_mul, Nat.add_comm (count * width), Nat.pow_add,
        Nat.mod_mul]

theorem valueOfUnits_fieldUnits {width size value : Nat} (width_pos : 1 ≤ width)
    (width_le : width ≤ 8) (small : value < 2 ^ size) :
    valueOfUnits width (fieldUnits width size value) = value := by
  have reach : 2 ^ size ≤ 2 ^ (ceilDiv size width * width) :=
    Nat.pow_le_pow_right (by decide) (ceilDiv_mul_ge size width_pos)
  rw [fieldUnits, valueOfUnits_map_range width_le, Nat.mod_eq_of_lt (by omega)]

theorem fitted_append {count : Nat} {front : List UInt8} (rest : List UInt8)
    (fits : front.length ≤ count) :
    fitted count (front ++ rest) = front ++ fitted (count - front.length) rest := by
  have left : count - (front ++ rest).length = count - front.length - rest.length := by
    rw [List.length_append]
    omega
  rw [fitted, fitted, left, List.take_append, List.take_of_length_le fits, List.append_assoc]

theorem fitted_of_le {count : Nat} {units : List UInt8} (short : count ≤ units.length) :
    fitted count units = units.take count := by
  rw [fitted, Nat.sub_eq_zero_of_le short, List.replicate_zero, List.append_nil]

@[simp] theorem length_fitted (count : Nat) (units : List UInt8) :
    (fitted count units).length = count := by
  rw [fitted, List.length_append, List.length_take, List.length_replicate]
  omega

theorem narrow_fitted {width count : Nat} {units : List UInt8}
    (narrow : ∀ unit ∈ units, Narrow width unit) :
    ∀ unit ∈ fitted count units, Narrow width unit := by
  intro unit member
  rcases List.mem_append.mp member with taken | zero
  · exact narrow unit (List.mem_of_mem_take taken)
  · rw [(List.mem_replicate.mp zero).2]
    exact Nat.two_pow_pos width

theorem takeField_of_fieldUnits {width size value : Nat} (width_pos : 1 ≤ width)
    (width_le : width ≤ 8) (size_pos : 1 ≤ size) (small : value < 2 ^ size)
    (rest : List UInt8) :
    takeField width size (fieldUnits width size value ++ rest) = some (value, rest) := by
  have reach := ceilDiv_mul_ge size width_pos
  have length := length_fieldUnits width size value
  cases units : fieldUnits width size value ++ rest with
  | nil =>
      have none : (fieldUnits width size value).length = 0 := by
        rw [(List.append_eq_nil_iff.mp units).1]
        rfl
      rw [length] at none
      rw [none, Nat.zero_mul] at reach
      omega
  | cons unit others =>
      change some (valueOfUnits width ((unit :: others).take (ceilDiv size width)) % 2 ^ size,
        (unit :: others).drop (ceilDiv size width)) = _
      rw [← units, List.take_left' length, List.drop_left' length,
        valueOfUnits_fieldUnits width_pos width_le small, Nat.mod_eq_of_lt small]

theorem checksumAgrees_fitted {width : Nat} (width_le : width ≤ 8) (count : Nat)
    (checksum : UInt8) :
    UnitLayout.checksumAgrees width (fitted count (fieldUnits width 8 checksum.toNat)) checksum =
      true := by
  have same (count : Nat) (units : List UInt8) :
      ∀ pair ∈ (fitted count units).zip units, pair.1 = pair.2 := by
    induction units generalizing count with
    | nil => simp
    | cons unit rest induction =>
        cases count with
        | zero => simp [fitted]
        | succ count =>
            have one : [unit].length ≤ count + 1 := Nat.le_add_left 1 count
            have cut : fitted (count + 1) (unit :: rest) = unit :: fitted count rest :=
              fitted_append rest one
            rw [cut, List.zip_cons_cons]
            intro pair member
            rcases List.mem_cons.mp member with rfl | later
            · rfl
            · exact induction count pair later
  rw [UnitLayout.checksumAgrees, List.all_eq_true]
  rintro ⟨unit, expected⟩ member
  obtain rfl : unit = expected := same _ _ _ member
  have narrow := narrow_fieldUnits width_le 8 checksum.toNat unit (List.of_mem_zip member).2
  exact beq_iff_eq.mpr (Nat.mod_eq_of_lt narrow)

/-! ## Units in a register -/

def unitBits (width : Nat) (unit : UInt8) : List Bool :=
  (List.range width).map unit.toNat.testBit

@[simp] theorem length_unitBits (width : Nat) (unit : UInt8) :
    (unitBits width unit).length = width := by
  simp [unitBits]

theorem length_flatMap_unitBits (width : Nat) (units : List UInt8) :
    (units.flatMap (unitBits width)).length = units.length * width := by
  induction units with
  | nil => simp
  | cons unit rest induction =>
      rw [List.flatMap_cons, List.length_append, length_unitBits, induction, List.length_cons,
        Nat.succ_mul, Nat.add_comm]

theorem valueOfReversedBits_testBits (width value : Nat) :
    valueOfReversedBits ((List.range width).map value.testBit) = value % 2 ^ width := by
  induction width generalizing value with
  | zero => simp [valueOfReversedBits, Nat.mod_one]
  | succ width induction =>
      have shifted : (List.range width).map (value.testBit ∘ Nat.succ) =
          (List.range width).map (value / 2).testBit := by
        apply List.map_congr_left
        intro index _
        exact Nat.testBit_succ value index
      have lowest : (value.testBit 0).toNat = value % 2 := by
        rw [Nat.toNat_testBit, Nat.pow_zero, Nat.div_one]
      rw [List.range_succ_eq_map, List.map_cons, List.map_map, shifted]
      change (value.testBit 0).toNat + 2 * valueOfReversedBits _ = _
      rw [induction, lowest, Nat.pow_succ', Nat.mod_mul]

def lowUnit (width : Nat) (unit : UInt8) : UInt8 :=
  UInt8.ofNat (unit.toNat % 2 ^ width)

theorem lowUnit_of_narrow {width : Nat} {unit : UInt8} (narrow : Narrow width unit) :
    lowUnit width unit = unit := by
  rw [lowUnit, Nat.mod_eq_of_lt narrow, UInt8.ofNat_toNat]

theorem map_lowUnit_of_narrow {width : Nat} {units : List UInt8}
    (narrow : ∀ unit ∈ units, Narrow width unit) : units.map (lowUnit width) = units := by
  have same : units.map (lowUnit width) = units.map id :=
    List.map_congr_left fun unit member => lowUnit_of_narrow (narrow unit member)
  rw [same, List.map_id]

namespace UnitLayout

variable (layout : UnitLayout)

theorem extractReversed_unit {register : HeaderRegister} {front back : List UInt8}
    {unit : UInt8}
    (held : register.bits = (front ++ unit :: back).flatMap (unitBits layout.width)) :
    (register.extractReversed (front.length * layout.width) layout.width).toOption.map
      UInt8.ofNat = some (lowUnit layout.width unit) := by
  have parts : register.bits = front.flatMap (unitBits layout.width) ++
      (unitBits layout.width unit ++ back.flatMap (unitBits layout.width)) := by
    rw [held, List.flatMap_append, List.flatMap_cons]
  have length : register.length = (front.length + 1 + back.length) * layout.width := by
    rw [← HeaderRegister.length_bits, held, length_flatMap_unitBits, List.length_append,
      List.length_cons]
    congr 1
    omega
  have inside : front.length * layout.width + layout.width ≤ register.length := by
    rw [length, ← Nat.succ_mul]
    exact Nat.mul_le_mul_right _ (Nat.le_add_right _ _)
  have piece : (register.bits.drop (front.length * layout.width)).take layout.width =
      unitBits layout.width unit := by
    rw [parts, List.drop_left' (length_flatMap_unitBits _ _),
      List.take_left' (length_unitBits _ _)]
  rw [HeaderRegister.extractReversed,
    register.field_eq_ok layout.width_pos (Nat.le_trans layout.width_le (by decide)) inside,
    piece]
  change some (UInt8.ofNat (valueOfReversedBits (unitBits layout.width unit))) = _
  rw [unitBits, valueOfReversedBits_testBits]
  rfl

theorem mapM_eq_some {α β : Type} {read : α → Option β} {value : α → β} {indices : List α}
    (reads : ∀ index ∈ indices, read index = some (value index)) :
    indices.mapM read = some (indices.map value) := by
  induction indices with
  | nil => rfl
  | cons index rest induction =>
      rw [List.mapM_cons, reads index List.mem_cons_self,
        induction fun other member => reads other (List.mem_cons_of_mem _ member)]
      rfl

theorem units?_of_bits {register : HeaderRegister} {units : List UInt8}
    (whole : units.length = layout.count)
    (held : register.bits = units.flatMap (unitBits layout.width)) :
    layout.units? register = some (units.map (lowUnit layout.width)) := by
  have reads : ∀ index ∈ List.range layout.count,
      (register.extractReversed (index * layout.width) layout.width).toOption.map UInt8.ofNat =
        some (lowUnit layout.width (units.getD index 0)) := by
    intro index member
    have inside : index < units.length := by
      rw [whole]
      exact List.mem_range.mp member
    have split : units = units.take index ++ units[index] :: units.drop (index + 1) := by
      rw [← List.drop_eq_getElem_cons inside, List.take_append_drop]
    have place : (units.take index).length = index := List.length_take_of_le (Nat.le_of_lt inside)
    have unit := layout.extractReversed_unit (held.trans (congrArg _ split))
    rw [place] at unit
    rw [unit, List.getD_eq_getElem?_getD, List.getElem?_eq_getElem inside, Option.getD_some]
  rw [units?, mapM_eq_some reads, ← whole]
  congr 1
  apply List.ext_getElem
  · simp
  · intro index first second
    have inside : index < units.length := by simpa using first
    simp [inside]

theorem takeField_of_short (width size : Nat) {units : List UInt8} (some : units ≠ [])
    (short : units.length ≤ ceilDiv size width) :
    ∃ value, takeField width size units = Option.some (value, []) := by
  cases units with
  | nil => exact absurd rfl some
  | cons unit rest =>
      refine ⟨_, congrArg (fun left => Option.some (_, left)) ?_⟩
      exact List.drop_of_length_le short

theorem fields?_of_missing {units rest : List UInt8} {length : Nat}
    (first : takeField layout.width 12 units = some (length, rest))
    (second : takeField layout.width 12 rest = none) :
    layout.fields? units = some { length, counter := none } := by
  simp [fields?, first, second]

theorem fields?_of_agreeing {units middle rest : List UInt8} {length counter : Nat}
    (first : takeField layout.width 12 units = some (length, middle))
    (second : takeField layout.width 12 middle = some (counter, rest))
    (agrees : checksumAgrees layout.width rest (headerCrc length counter) = true) :
    layout.fields? units = some { length, counter := some counter } := by
  simp [fields?, first, second, agrees]

theorem fields?_encode {counter length : Nat} (room : ceilDiv 12 layout.width ≤ layout.count)
    (fits : length < twelveBits) (counter_lt : counter < twelveBits) :
    ∃ counter?, layout.fields? (layout.encode counter length) =
      some { length, counter := counter? } := by
  have width_pos := layout.width_pos
  have width_le := layout.width_le
  have first : takeField layout.width 12 (layout.encode counter length) =
      some (length, fitted (layout.count - ceilDiv 12 layout.width)
        (fieldUnits layout.width 12 counter ++
          fieldUnits layout.width 8 (headerCrc length counter).toNat)) := by
    rw [encode, Nat.mod_eq_of_lt fits, List.append_assoc,
      fitted_append _ (by rw [length_fieldUnits]; exact room), length_fieldUnits]
    exact takeField_of_fieldUnits width_pos width_le (by decide) fits _
  -- How much of the counter is in the header decides what there is to be checked.
  by_cases whole : ceilDiv 12 layout.width ≤ layout.count - ceilDiv 12 layout.width
  · rw [fitted_append _ (by rw [length_fieldUnits]; exact whole), length_fieldUnits] at first
    exact ⟨some counter, layout.fields?_of_agreeing first
      (takeField_of_fieldUnits width_pos width_le (by decide) counter_lt _)
      (checksumAgrees_fitted width_le _ _)⟩
  · cases left : layout.count - ceilDiv 12 layout.width with
    | zero =>
        rw [left, fitted_of_le (Nat.zero_le _), List.take_zero] at first
        exact ⟨none, layout.fields?_of_missing first rfl⟩
    | succ count =>
        rw [left] at first
        have taken := length_fitted (count + 1) (fieldUnits layout.width 12 counter ++
          fieldUnits layout.width 8 (headerCrc length counter).toNat)
        rcases takeField_of_short layout.width 12
            (List.ne_nil_of_length_eq_add_one taken) (by omega) with ⟨value, partly⟩
        exact ⟨some value, layout.fields?_of_agreeing first partly rfl⟩

@[simp] theorem length_encode (counter length : Nat) :
    (layout.encode counter length).length = layout.count :=
  length_fitted _ _

theorem narrow_encode (counter length : Nat) :
    ∀ unit ∈ layout.encode counter length, Narrow layout.width unit := by
  apply narrow_fitted
  intro unit member
  rcases List.mem_append.mp member with front | checksum
  · rcases List.mem_append.mp front with first | second
    · exact narrow_fieldUnits layout.width_le _ _ unit first
    · exact narrow_fieldUnits layout.width_le _ _ unit second
  · exact narrow_fieldUnits layout.width_le _ _ unit checksum

end UnitLayout

theorem Layout.bits_foldl_collect_units (layout : Layout) {width : Nat}
    (carried : layout.unitWidth? = some width) (units : List UInt8) :
    (units.foldl layout.collect .empty).bits = units.flatMap (unitBits width) := by
  have bound := (layout.unitWidth_le carried).2
  have same : layout.itemBits = unitBits width := by
    funext item
    rw [itemBits, carried]
    exact congrArg (fun count => (List.range count).map item.toNat.testBit)
      (Nat.min_eq_left bound)
  rw [bits_foldl_collect, same]
  rfl

namespace UnitLayout

variable (layout : UnitLayout)

theorem units?_foldl_collect {carrying : Layout}
    (carried : carrying.unitWidth? = some layout.width) {units : List UInt8}
    (whole : units.length = layout.count) (narrow : ∀ unit ∈ units, Narrow layout.width unit) :
    layout.units? (units.foldl carrying.collect .empty) = some units := by
  have held := carrying.bits_foldl_collect_units carried units
  rw [layout.units?_of_bits whole held, map_lowUnit_of_narrow narrow]

theorem readItems?_encode {counter length : Nat} (room : ceilDiv 12 layout.width ≤ layout.count)
    (fits : length < twelveBits) (counter_lt : counter < twelveBits) :
    ∃ counter?, (Layout.units layout).readItems? (layout.encode counter length) =
      some (layout.describe { length, counter := counter? }) := by
  rcases layout.fields?_encode room fits counter_lt with ⟨counter?, fields⟩
  have read : layout.registerFields?
      ((layout.encode counter length).foldl (Layout.units layout).collect .empty) =
        some { length, counter := counter? } := by
    rw [registerFields?, layout.units?_foldl_collect rfl (layout.length_encode counter length)
      (layout.narrow_encode counter length)]
    exact fields
  refine ⟨counter?, Layout.readItems?_of_register ?_ ?_⟩
  · exact congrArg Option.isSome read
  · exact congrArg (Option.map layout.describe) read

end UnitLayout

/-! ## Whitened units -/

theorem valueOfReversedBits_lt (bits : List Bool) :
    valueOfReversedBits bits < 2 ^ bits.length := by
  induction bits with
  | nil => decide
  | cons bit rest induction =>
      have small := Bool.toNat_le bit
      change bit.toNat + 2 * valueOfReversedBits rest < 2 ^ (rest.length + 1)
      rw [Nat.pow_succ]
      omega

namespace Scrambler

theorem length_nextBits (count : Nat) (scrambler : Scrambler) :
    (nextBits count scrambler).1.length = count := by
  induction count generalizing scrambler with
  | zero => rfl
  | succ count induction => exact congrArg (· + 1) (induction scrambler.advance)

theorem narrow_nextUnit {width : Nat} (width_le : width ≤ 8) (scrambler : Scrambler) :
    Narrow width (nextUnit width scrambler).1 := by
  have spelled := valueOfReversedBits_lt (nextBits (min width 8) scrambler).1
  rw [length_nextBits, Nat.min_eq_left width_le] at spelled
  have bound : 2 ^ width ≤ 2 ^ 8 := Nat.pow_le_pow_right (by decide) width_le
  rw [Narrow, nextUnit, UInt8.toNat_ofNat', Nat.min_eq_left width_le,
    Nat.mod_eq_of_lt (Nat.lt_of_lt_of_le spelled bound)]
  exact spelled

theorem length_nextUnits (width count : Nat) (scrambler : Scrambler) :
    (nextUnits width count scrambler).1.length = count := by
  induction count generalizing scrambler with
  | zero => rfl
  | succ count induction => exact congrArg (· + 1) (induction (scrambler.nextUnit width).2)

theorem narrow_nextUnits {width : Nat} (width_le : width ≤ 8) (count : Nat)
    (scrambler : Scrambler) : ∀ unit ∈ (nextUnits width count scrambler).1, Narrow width unit := by
  induction count generalizing scrambler with
  | zero => exact fun unit member => absurd member List.not_mem_nil
  | succ count induction =>
      intro unit member
      rcases List.mem_cons.mp member with rfl | later
      · exact narrow_nextUnit width_le scrambler
      · exact induction (scrambler.nextUnit width).2 unit later

end Scrambler

namespace CarrierLayout

variable (layout : CarrierLayout)

@[simp] theorem length_whitening : layout.whitening.length = layout.units.count := by
  unfold whitening
  split
  · exact Scrambler.length_nextUnits _ _ _
  · exact List.length_replicate

theorem narrow_whitening : ∀ unit ∈ layout.whitening, Narrow layout.units.width unit := by
  unfold whitening
  split
  · exact Scrambler.narrow_nextUnits layout.units.width_le _ _
  · intro unit member
    rw [(List.mem_replicate.mp member).2]
    exact Nat.two_pow_pos layout.units.width

theorem narrow_xor {width : Nat} {first second : UInt8} (narrow : Narrow width first)
    (also : Narrow width second) : Narrow width (first ^^^ second) := by
  rw [Narrow, UInt8.toNat_xor]
  exact Nat.xor_lt_two_pow narrow also

theorem narrow_zipWith_xor {width : Nat} {first second : List UInt8}
    (narrow : ∀ unit ∈ first, Narrow width unit) (also : ∀ unit ∈ second, Narrow width unit) :
    ∀ unit ∈ first.zipWith (· ^^^ ·) second, Narrow width unit := by
  induction first generalizing second with
  | nil => simp
  | cons unit rest induction =>
      cases second with
      | nil => simp
      | cons mask masks =>
          simp only [List.forall_mem_cons] at narrow also
          rw [List.zipWith_cons_cons]
          intro other member
          rcases List.mem_cons.mp member with rfl | later
          · exact narrow_xor narrow.1 also.1
          · exact induction narrow.2 also.2 other later

theorem zipWith_xor_zipWith_xor {units masks : List UInt8} (same : units.length = masks.length) :
    (units.zipWith (· ^^^ ·) masks).zipWith (· ^^^ ·) masks = units := by
  induction units generalizing masks with
  | nil => rfl
  | cons unit rest induction =>
      cases masks with
      | nil => exact absurd same (Nat.succ_ne_zero _)
      | cons mask others =>
          rw [List.zipWith_cons_cons, List.zipWith_cons_cons, induction (Nat.succ.inj same),
            UInt8.xor_assoc, UInt8.xor_self, UInt8.xor_zero]

theorem whiten_whiten {units : List UInt8} (whole : units.length = layout.units.count) :
    layout.whiten (layout.whiten units) = units :=
  zipWith_xor_zipWith_xor (whole.trans layout.length_whitening.symm)

@[simp] theorem length_encode (counter length : Nat) :
    (layout.encode counter length).length = layout.units.count := by
  rw [encode, whiten, List.length_zipWith, length_whitening, UnitLayout.length_encode,
    Nat.min_self]

theorem narrow_encode (counter length : Nat) :
    ∀ unit ∈ layout.encode counter length, Narrow layout.units.width unit :=
  narrow_zipWith_xor (layout.units.narrow_encode counter length) layout.narrow_whitening

theorem readItems?_encode {counter length : Nat}
    (room : ceilDiv 12 layout.units.width ≤ layout.units.count)
    (fits : length < twelveBits) (counter_lt : counter < twelveBits) :
    ∃ counter?, (Layout.carriers layout).readItems? (layout.encode counter length) =
      some (layout.describe { length, counter := counter? }) := by
  rcases layout.units.fields?_encode room fits counter_lt with ⟨counter?, fields⟩
  have read : layout.registerFields?
      ((layout.encode counter length).foldl (Layout.carriers layout).collect .empty) =
        some { length, counter := counter? } := by
    rw [registerFields?, layout.units.units?_foldl_collect rfl
      (layout.length_encode counter length) (layout.narrow_encode counter length), ← fields]
    exact congrArg layout.units.fields? (layout.whiten_whiten (layout.units.length_encode _ _))
  refine ⟨counter?, Layout.readItems?_of_register ?_ ?_⟩
  · exact congrArg Option.isSome read
  · exact congrArg (Option.map layout.describe) read

end CarrierLayout

end PacketFraming
