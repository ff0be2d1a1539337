import PacketFraming.Proofs.Traps

/-! Units that are put in place and gathered without a trap.

The fields of a header of units are written and read unit by unit, by loops that count the units
and the bits. Every such loop is followed from any unit on, with the units of the field that are
still to come. -/

namespace PacketFraming

def lowestOnes (width : Nat) : UInt8 :=
  UInt8.ofNat (2 ^ width - 1)

theorem toNat_and_lowestOnes (unit : UInt8) {width : Nat} (width_le : width ≤ 8) :
    (unit &&& lowestOnes width).toNat = unit.toNat % 2 ^ width := by
  have bound : 2 ^ width ≤ 2 ^ 8 := Nat.pow_le_pow_right (by decide) width_le
  have ones : (lowestOnes width).toNat = 2 ^ width - 1 := by
    rw [lowestOnes, UInt8.toNat_ofNat']
    omega
  rw [UInt8.toNat_and, ones, Nat.and_two_pow_sub_one_eq_mod]

/-! ## The units of a field from one of them on -/

def unitsFrom (width size value index : Nat) : List UInt8 :=
  (List.range' index (ceilDiv size width - index)).map fun index =>
    UInt8.ofNat (value / 2 ^ (index * width) % 2 ^ width)

theorem unitsFrom_zero (width size value : Nat) :
    unitsFrom width size value 0 = fieldUnits width size value := by
  rw [unitsFrom, fieldUnits, List.range_eq_range', Nat.sub_zero]

theorem unitsFrom_of_le {width size index : Nat} (value : Nat)
    (behind : ceilDiv size width ≤ index) : unitsFrom width size value index = [] := by
  rw [unitsFrom, Nat.sub_eq_zero_of_le behind]
  rfl

theorem unitsFrom_of_lt {width size index : Nat} (value : Nat)
    (inside : index < ceilDiv size width) :
    unitsFrom width size value index =
      UInt8.ofNat (value / 2 ^ (index * width) % 2 ^ width) ::
        unitsFrom width size value (index + 1) := by
  have left : ceilDiv size width - index = ceilDiv size width - (index + 1) + 1 := by omega
  rw [unitsFrom, left, List.range'_succ]
  rfl

theorem lt_ceilDiv_iff {index size width : Nat} (positive : 1 ≤ width) :
    index < ceilDiv size width ↔ index * width < size := by
  rw [ceilDiv, Nat.lt_iff_add_one_le, Nat.le_div_iff_mul_le positive, Nat.succ_mul]
  omega

theorem set_fitted {count : Nat} {written : List UInt8} (room : written.length < count)
    (unit : UInt8) :
    (fitted count written).set written.length unit = fitted count (written ++ [unit]) := by
  have left : count - written.length = count - written.length - 1 + 1 := by omega
  have front : fitted count written = written ++ fitted (count - written.length) [] := by
    rw [← fitted_append [] (Nat.le_of_lt room), List.append_nil]
  rw [front, fitted_append [unit] (Nat.le_of_lt room), List.set_append_right _ _ (Nat.le_refl _),
    Nat.sub_self, left]
  simp [fitted, List.replicate_succ]

theorem fitted_append_of_full {count : Nat} {written : List UInt8} (full : count ≤ written.length)
    (rest : List UInt8) : fitted count (written ++ rest) = fitted count written := by
  have fuller : count ≤ (written ++ rest).length := by
    rw [List.length_append]
    omega
  rw [fitted_of_le full, fitted_of_le fuller, List.take_append_of_le_length full]

namespace Guarded

/-! ## Tables -/

def unitMask (width : Nat) : Guarded UInt8 := do
  let room ← minus 8 (min (max width 1) 8)
  let amount ← shiftOf 8 room
  return 0xFF >>> UInt8.ofNat amount

theorem unitMask_eq_ok {width : Nat} (width_pos : 1 ≤ width) (width_le : width ≤ 8) :
    unitMask width = .ok (lowestOnes width) := by
  have masks : ∀ width : Fin 9, 1 ≤ width.val →
      (0xFF : UInt8) >>> UInt8.ofNat (8 - width) = lowestOnes width := by decide
  have size : min (max width 1) 8 = width := by omega
  rw [unitMask, size, minus_eq_ok width_le, ok_bind, shiftOf_eq_ok (by omega)]
  exact congrArg Except.ok (masks ⟨width, by omega⟩ width_pos)

def whitening (layout : CarrierLayout) : Guarded (List UInt8) :=
  if layout.scrambled then do
    let (units, _) ← nextUnits layout.units.width layout.units.count headerScrambler
    return units
  else return List.replicate layout.units.count 0

theorem whitening_eq_ok (layout : CarrierLayout) : whitening layout = .ok layout.whitening := by
  unfold whitening CarrierLayout.whitening
  split
  · rw [nextUnits_eq_ok]
    rfl
  · rfl

/-- What a layout computes once, when it is built. -/
structure Tables where
  /-- The bits of a unit that count. -/
  mask : UInt8
  whitening : List UInt8

def tables (layout : Layout) : Guarded Tables :=
  match layout with
  | .units layout => do
      let mask ← unitMask layout.width
      return { mask, whitening := [] }
  | .carriers layout => do
      let mask ← unitMask layout.units.width
      let whitening ← whitening layout
      return { mask, whitening }
  | _ => return { mask := 0, whitening := [] }

end Guarded

def Layout.tables : Layout → Guarded.Tables
  | units layout => { mask := lowestOnes layout.width, whitening := [] }
  | carriers layout =>
      { mask := lowestOnes layout.units.width, whitening := layout.whitening }
  | _ => { mask := 0, whitening := [] }

namespace Guarded

theorem tables_eq_ok (layout : Layout) : tables layout = .ok layout.tables := by
  unfold tables Layout.tables
  cases layout with
  | plain | counter | crc => rfl
  | units layout =>
      dsimp only
      rw [unitMask_eq_ok layout.width_pos layout.width_le]
      rfl
  | carriers layout =>
      dsimp only
      rw [unitMask_eq_ok layout.units.width_pos layout.units.width_le, whitening_eq_ok]
      rfl

/-! ## The fields of units -/

def putField (layout : UnitLayout) (mask : UInt8) (size value : Nat) (units : Array UInt8)
    (index shift : Nat) : Guarded (Array UInt8 × Nat) :=
  if shift < size ∧ index < layout.count then do
    let amount ← shiftOf 32 shift
    let units ← overwrite units index (UInt8.ofNat (value / 2 ^ amount) &&& mask)
    putField layout mask size value units (index + 1) (shift + layout.width)
  else return (units, index)
termination_by size - shift
decreasing_by
  have positive := layout.width_pos
  omega

def gather (layout : UnitLayout) (mask : UInt8) (size : Nat) (units : List UInt8)
    (value index shift : Nat) : Guarded (Nat × Nat) :=
  if shift < size ∧ index < units.length then do
    let unit ← entry units[index]?
    let amount ← shiftOf 16 shift
    gather layout mask size units (value + (unit &&& mask).toNat * 2 ^ amount) (index + 1)
      (shift + layout.width)
  else return (value, index)
termination_by size - shift
decreasing_by
  have positive := layout.width_pos
  omega

def readField (layout : UnitLayout) (mask : UInt8) (size : Nat) (units : List UInt8)
    (index : Nat) : Guarded (Option (Nat × Nat)) :=
  if units.length ≤ index then return none
  else do
    let (value, behind) ← gather layout mask size units 0 index 0
    let amount ← shiftOf 16 size
    return some (value % 2 ^ amount, behind)

/-- Whether the units from an index on are those of a checksum, as far as they go. -/
def agrees (layout : UnitLayout) (mask : UInt8) (units : List UInt8) (checksum : UInt8)
    (index shift : Nat) : Guarded Bool :=
  if shift < 8 ∧ index < units.length then do
    let unit ← entry units[index]?
    let amount ← shiftOf 8 shift
    if unit &&& mask = (checksum >>> UInt8.ofNat amount) &&& mask then
      agrees layout mask units checksum (index + 1) (shift + layout.width)
    else return false
  else return true
termination_by 8 - shift
decreasing_by
  have positive := layout.width_pos
  omega

section Fields

variable (layout : UnitLayout)

theorem ofNat_and_lowestOnes (value : Nat) {width : Nat} (width_le : width ≤ 8) :
    UInt8.ofNat value &&& lowestOnes width = UInt8.ofNat (value % 2 ^ width) := by
  have divides : 2 ^ width ∣ 2 ^ 8 := Nat.pow_dvd_pow 2 width_le
  apply UInt8.toNat_inj.mp
  rw [toNat_and_lowestOnes _ width_le, toNat_ofNat_mod width_le, UInt8.toNat_ofNat',
    Nat.mod_mod_of_dvd _ divides]

theorem putField_eq_ok {size : Nat} (size_le : size ≤ 32) (value place : Nat)
    (written : List UInt8) :
    putField layout (lowestOnes layout.width) size value
        (fitted layout.count written).toArray (min written.length layout.count)
        (place * layout.width) =
      .ok ((fitted layout.count (written ++ unitsFrom layout.width size value place)).toArray,
        min (written ++ unitsFrom layout.width size value place).length layout.count) := by
  -- The loop ends with the units of the field, or before them where the header has no room left.
  induction left : ceilDiv size layout.width - place generalizing place written with
  | zero =>
      have behind : ceilDiv size layout.width ≤ place := Nat.le_of_sub_eq_zero left
      have stop : ¬(place * layout.width < size ∧
          min written.length layout.count < layout.count) := by
        rw [← lt_ceilDiv_iff layout.width_pos]
        omega
      rw [putField, if_neg stop, unitsFrom_of_le value behind, List.append_nil]
      rfl
  | succ others induction =>
      have inside : place < ceilDiv size layout.width := by omega
      have short := (lt_ceilDiv_iff layout.width_pos).mp inside
      by_cases room : written.length < layout.count
      · have index : min written.length layout.count = written.length := by omega
        have next : min (written ++ [UInt8.ofNat (value / 2 ^ (place * layout.width) %
            2 ^ layout.width)]).length layout.count = written.length + 1 := by
          rw [List.length_append, List.length_singleton]
          omega
        have held : written.length < (fitted layout.count written).toArray.size := by
          rwa [List.size_toArray, length_fitted]
        have rest := induction (place + 1) (written ++ [UInt8.ofNat
          (value / 2 ^ (place * layout.width) % 2 ^ layout.width)]) (by omega)
        rw [next, Nat.succ_mul] at rest
        rw [putField, index, if_pos ⟨short, room⟩, shiftOf_eq_ok (by omega), ok_bind,
          overwrite_eq_ok held, ok_bind, ofNat_and_lowestOnes _ layout.width_le,
          List.set_toArray, set_fitted room, rest, List.append_assoc, List.singleton_append,
          ← unitsFrom_of_lt value inside]
      · have full : layout.count ≤ written.length := Nat.le_of_not_lt room
        have stop : ¬(place * layout.width < size ∧
            min written.length layout.count < layout.count) := by omega
        rw [putField, if_neg stop, fitted_append_of_full full, List.length_append,
          Nat.min_eq_right full, Nat.min_eq_right (by omega)]
        rfl

theorem entry_list_eq_ok {units : List UInt8} {index : Nat} (inside : index < units.length) :
    entry units[index]? = .ok units[index] := by
  rw [List.getElem?_eq_getElem inside, entry]

theorem gather_eq_ok {size : Nat} (size_le : size ≤ 16) (units : List UInt8)
    (value index place : Nat) :
    gather layout (lowestOnes layout.width) size units value index (place * layout.width) =
      .ok (value + 2 ^ (place * layout.width) * valueOfUnits layout.width
          ((units.drop index).take (ceilDiv size layout.width - place)),
        index + min (ceilDiv size layout.width - place) (units.length - index)) := by
  induction left : ceilDiv size layout.width - place generalizing place value index with
  | zero =>
      have stop : ¬(place * layout.width < size ∧ index < units.length) := by
        rw [← lt_ceilDiv_iff layout.width_pos]
        omega
      rw [gather, if_neg stop, List.take_zero, Nat.zero_min]
      rfl
  | succ others induction =>
      have inside : place < ceilDiv size layout.width := by omega
      have short := (lt_ceilDiv_iff layout.width_pos).mp inside
      by_cases held : index < units.length
      · have rest := induction (value + units[index].toNat % 2 ^ layout.width *
          2 ^ (place * layout.width)) (index + 1) (place + 1) (by omega)
        rw [Nat.succ_mul] at rest
        have behind : index + 1 + min others (units.length - (index + 1)) =
            index + min (others + 1) (units.length - index) := by omega
        rw [gather, if_pos ⟨short, held⟩, entry_list_eq_ok held, ok_bind,
          shiftOf_eq_ok (by omega), ok_bind, toNat_and_lowestOnes _ layout.width_le, rest,
          behind, List.drop_eq_getElem_cons held, List.take_succ_cons, valueOfUnits, Nat.pow_add,
          Nat.mul_add, Nat.add_assoc, Nat.mul_comm (units[index].toNat % _), Nat.mul_assoc]
      · have stop : ¬(place * layout.width < size ∧ index < units.length) := by omega
        have beyond : units.drop index = [] := List.drop_of_length_le (by omega)
        have none : min (others + 1) (units.length - index) = 0 := by omega
        rw [gather, if_neg stop, beyond, none, List.take_nil]
        rfl

def behindField (layout : UnitLayout) (size : Nat) (units : List UInt8) (index : Nat) : Nat :=
  index + min (ceilDiv size layout.width) (units.length - index)

theorem drop_behindField (size : Nat) (units : List UInt8) (index : Nat) :
    units.drop (behindField layout size units index) =
      (units.drop index).drop (ceilDiv size layout.width) := by
  rw [List.drop_drop, behindField]
  by_cases whole : ceilDiv size layout.width ≤ units.length - index
  · rw [Nat.min_eq_left whole]
  · have beyond : units.length ≤ index + ceilDiv size layout.width := by omega
    have toEnd : units.length ≤
        index + min (ceilDiv size layout.width) (units.length - index) := by omega
    rw [List.drop_of_length_le beyond, List.drop_of_length_le toEnd]

theorem readField_eq_ok {size : Nat} (size_lt : size < 16) (units : List UInt8) (index : Nat) :
    readField layout (lowestOnes layout.width) size units index =
      .ok ((takeField layout.width size (units.drop index)).map fun field =>
        (field.1, behindField layout size units index)) := by
  unfold readField
  split
  · next beyond =>
    rw [List.drop_of_length_le beyond]
    rfl
  · next inside =>
    have held : index < units.length := Nat.lt_of_not_le inside
    have gathered := gather_eq_ok layout (Nat.le_of_lt size_lt) units 0 index 0
    rw [Nat.zero_mul, Nat.pow_zero, Nat.one_mul, Nat.zero_add, Nat.sub_zero] at gathered
    rw [gathered, ok_bind, List.drop_eq_getElem_cons held]
    dsimp only
    rw [shiftOf_eq_ok size_lt]
    rfl

theorem agrees_eq_ok (units : List UInt8) (checksum : UInt8) (index place : Nat) :
    agrees layout (lowestOnes layout.width) units checksum index (place * layout.width) =
      .ok (((units.drop index).zip (unitsFrom layout.width 8 checksum.toNat place)).all
        fun pair => pair.1.toNat % 2 ^ layout.width == pair.2.toNat) := by
  induction left : ceilDiv 8 layout.width - place generalizing place index with
  | zero =>
      have behind : ceilDiv 8 layout.width ≤ place := Nat.le_of_sub_eq_zero left
      have stop : ¬(place * layout.width < 8 ∧ index < units.length) := by
        rw [← lt_ceilDiv_iff layout.width_pos]
        omega
      rw [agrees, if_neg stop, unitsFrom_of_le _ behind, List.zip_nil_right]
      rfl
  | succ others induction =>
      have inside : place < ceilDiv 8 layout.width := by omega
      have short := (lt_ceilDiv_iff layout.width_pos).mp inside
      by_cases held : index < units.length
      · have rest := induction (index + 1) (place + 1) (by omega)
        rw [Nat.succ_mul] at rest
        have amount : (UInt8.ofNat (place * layout.width)).toNat % 8 = place * layout.width := by
          rw [UInt8.toNat_ofNat']
          omega
        have same : units[index] &&& lowestOnes layout.width =
            (checksum >>> UInt8.ofNat (place * layout.width)) &&& lowestOnes layout.width ↔
              units[index].toNat % 2 ^ layout.width =
                (UInt8.ofNat (checksum.toNat / 2 ^ (place * layout.width) %
                  2 ^ layout.width)).toNat := by
          rw [← UInt8.toNat_inj, toNat_and_lowestOnes _ layout.width_le,
            toNat_and_lowestOnes _ layout.width_le, toNat_ofNat_mod layout.width_le,
            UInt8.toNat_shiftRight, amount, Nat.shiftRight_eq_div_pow]
        rw [agrees, if_pos ⟨short, held⟩, entry_list_eq_ok held, ok_bind,
          shiftOf_eq_ok short, ok_bind, rest, List.drop_eq_getElem_cons held,
          unitsFrom_of_lt _ inside, List.zip_cons_cons, List.all_cons]
        by_cases equal : units[index].toNat % 2 ^ layout.width =
            (UInt8.ofNat (checksum.toNat / 2 ^ (place * layout.width) %
              2 ^ layout.width)).toNat
        · rw [if_pos (same.mpr equal), beq_iff_eq.mpr equal, Bool.true_and]
        · rw [if_neg (mt same.mp equal), beq_eq_false_iff_ne.mpr equal, Bool.false_and]
          rfl
      · have stop : ¬(place * layout.width < 8 ∧ index < units.length) := by omega
        have beyond : units.drop index = [] := List.drop_of_length_le (by omega)
        rw [agrees, if_neg stop, beyond]
        rfl

end Fields

end Guarded

end PacketFraming
