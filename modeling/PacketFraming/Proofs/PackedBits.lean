import PacketFraming.Bits.Packing

/-! Bits that are packed into bytes and unpacked again.

Bytes come back as they were. Of items the lowest bits come back, and behind them the zeros that
the last byte has been filled up with. -/

namespace PacketFraming

/-- The fewest places that bring a length to a multiple of eight. -/
structure FillsUp (length places : Nat) : Prop where
  whole : 8 ∣ length + places
  fewest : ∀ others, 8 ∣ length + others → places ≤ others

theorem fillsUp_of_lt {length places : Nat} (whole : 8 ∣ length + places) (short : places < 8) :
    FillsUp length places where
  whole := whole
  fewest others filled := by omega

theorem FillsUp.add_eight {length places : Nat} (fills : FillsUp length places) :
    FillsUp (8 + length) places where
  whole := by
    have whole := fills.whole
    omega
  fewest others filled := fills.fewest others (by omega)

theorem bitItem_itemBit (item : UInt8) : bitItem (itemBit item) = item &&& 1 := by
  have lowest : (item &&& 1).toNat = item.toNat % 2 :=
    (UInt8.toNat_and item 1).trans (Nat.and_one_is_mod item.toNat)
  apply UInt8.toNat_inj.mp
  rw [lowest, itemBit]
  rcases Nat.mod_two_eq_zero_or_one item.toNat with even | odd
  · rw [even]
    rfl
  · rw [odd]
    rfl

/-! ## One byte -/

theorem valueOfBits_replicate_false (count : Nat) :
    valueOfBits (List.replicate count false) = 0 := by
  induction count with
  | zero => rfl
  | succ count induction =>
      rw [List.replicate_succ, valueOfBits_cons, induction, Bool.toNat_false, Nat.zero_mul]

theorem packByte_eq (items : List UInt8) :
    packByte items =
      UInt8.ofNat (valueOfBits
        (items.map itemBit ++ List.replicate (8 - items.length) false)) := by
  rw [packByte, valueOfBits_append, valueOfBits_replicate_false, List.length_replicate,
    Nat.add_zero]

theorem byteBits_packByte_of_le {items : List UInt8} (fits : items.length ≤ 8) :
    byteBits (packByte items) =
      items.map itemBit ++ List.replicate (8 - items.length) false := by
  let bits := items.map itemBit ++ List.replicate (8 - items.length) false
  have eight : bits.length = 8 := by
    simp only [bits, List.length_append, List.length_map, List.length_replicate]
    omega
  have bound := valueOfBits_lt bits
  rw [eight] at bound
  have held : (packByte items).toNat = valueOfBits bits := by
    rw [packByte_eq, UInt8.toNat_ofNat', Nat.mod_eq_of_lt bound]
  have spelled := bitsOfValue_valueOfBits bits
  rw [eight] at spelled
  rw [byteBits, held, spelled]

theorem unpackBits_packByte {items : List UInt8} (fits : items.length ≤ 8) :
    (byteBits (packByte items)).map bitItem =
      items.map (· &&& 1) ++ List.replicate (8 - items.length) 0 := by
  rw [byteBits_packByte_of_le fits, List.map_append, List.map_map, List.map_replicate]
  congr 1
  exact List.map_congr_left fun item _ => bitItem_itemBit item

/-! ## Byte after byte -/

theorem packBits_of_ne_nil {items : List UInt8} (some : items ≠ []) :
    packBits items = packByte (items.take 8) :: packBits (items.drop 8) := by
  cases items with
  | nil => exact absurd rfl some
  | cons item rest => exact packBits_cons item rest

theorem unpackBits_packBits (items : List UInt8) :
    ∃ places, FillsUp items.length places ∧
      unpackBits (packBits items) = items.map (· &&& 1) ++ List.replicate places 0 := by
  -- Eight items at a time; only the last byte is filled up.
  induction length : items.length using Nat.strongRecOn generalizing items with
  | ind total induction =>
    subst length
    by_cases empty : items = []
    · subst empty
      exact ⟨0, fillsUp_of_lt (Nat.dvd_zero 8) (by decide), by simp⟩
    by_cases short : items.length < 8
    · have some : 0 < items.length := List.length_pos_iff.mpr empty
      refine ⟨8 - items.length, fillsUp_of_lt (by omega) (by omega), ?_⟩
      have fits := Nat.le_of_lt short
      rw [packBits_of_ne_nil empty, List.take_of_length_le fits, List.drop_of_length_le fits,
        packBits_nil, unpackBits_cons, unpackBits_nil, List.append_nil,
        unpackBits_packByte fits]
    · have long := Nat.le_of_not_lt short
      have full : (items.take 8).length = 8 := List.length_take_of_le long
      have parts : 8 + (items.drop 8).length = items.length := by
        rw [List.length_drop]
        omega
      rcases induction (items.drop 8).length (by omega) (items.drop 8) rfl with
        ⟨places, fills, behind⟩
      refine ⟨places, parts ▸ fills.add_eight, ?_⟩
      rw [packBits_of_ne_nil empty, unpackBits_cons, unpackBits_packByte (Nat.le_of_eq full), full,
        behind, Nat.sub_self, List.replicate_zero, List.append_nil, ← List.append_assoc,
        ← List.map_append, List.take_append_drop]

theorem packBits_append {first : List UInt8} (whole : 8 ∣ first.length) (second : List UInt8) :
    packBits (first ++ second) = packBits first ++ packBits second := by
  obtain ⟨count, length⟩ := whole
  induction count generalizing first with
  | zero =>
      obtain rfl := List.eq_nil_of_length_eq_zero length
      rw [List.nil_append, packBits_nil, List.nil_append]
  | succ count induction =>
      have some : first ≠ [] := List.ne_nil_of_length_pos (by omega)
      have full : (first.take 8).length = 8 := List.length_take_of_le (by omega)
      have rest : (first.drop 8).length = 8 * count := by
        rw [List.length_drop]
        omega
      rw [packBits_of_ne_nil some, List.cons_append, ← induction rest, ← packBits_append_byte full,
        ← List.append_assoc, List.take_append_drop]

/-! ## Place by place -/

/-- The bits of bytes, those of each byte from the highest place to the lowest. -/
def bitsByPlace (bytes : List UInt8) : List UInt8 :=
  bytes.flatMap fun byte =>
    (List.range 8).map fun place => if byte.toNat.testBit (7 - place) then 1 else 0

/-- The byte at an index, spelled by the lowest bits of eight items. -/
def byteByPlace (items : List UInt8) (index : Nat) : UInt8 :=
  UInt8.ofNat (valueOfBits
    ((List.range 8).map fun place => (items.getD (8 * index + place) 0).toNat.testBit 0))

/-- As many bytes as it takes; beyond the last item there are zeros. -/
def bytesByPlace (items : List UInt8) : List UInt8 :=
  (List.range ((items.length + 7) / 8)).map (byteByPlace items)

theorem unpackBits_eq_bitsByPlace (bytes : List UInt8) : unpackBits bytes = bitsByPlace bytes := by
  have bits : (fun byte : UInt8 => (byteBits byte).map bitItem) = fun byte =>
      (List.range 8).map fun place => if byte.toNat.testBit (7 - place) then 1 else 0 := by
    funext byte
    rw [byteBits, bitsOfValue, List.map_map]
    rfl
  rw [unpackBits, bits, bitsByPlace]

theorem packByte_take (items : List UInt8) : packByte (items.take 8) = byteByPlace items 0 := by
  have bits : (items.take 8).map itemBit ++ List.replicate (8 - (items.take 8).length) false =
      (List.range 8).map fun place => (items.getD (8 * 0 + place) 0).toNat.testBit 0 := by
    apply List.ext_getElem
    · rw [List.length_append, List.length_map, List.length_replicate, List.length_take,
        List.length_map, List.length_range]
      omega
    · intro place _ inside
      rw [List.length_map, List.length_range] at inside
      by_cases present : place < items.length
      · have front : place < ((items.take 8).map itemBit).length := by
          rw [List.length_map, List.length_take]
          omega
        rw [List.getElem_append_left front, List.getElem_map, List.getElem_take,
          List.getElem_map, List.getElem_range, Nat.mul_zero, Nat.zero_add,
          List.getD_eq_getElem?_getD, List.getElem?_eq_getElem present, Option.getD_some,
          Nat.testBit_zero]
        rfl
      · have behind : ((items.take 8).map itemBit).length ≤ place := by
          rw [List.length_map, List.length_take]
          omega
        rw [List.getElem_append_right behind, List.getElem_replicate, List.getElem_map,
          List.getElem_range, Nat.mul_zero, Nat.zero_add,
          List.getD_eq_getElem?_getD, List.getElem?_eq_none (Nat.le_of_not_lt present)]
        rfl
  rw [packByte_eq, bits, byteByPlace]

theorem byteByPlace_drop (items : List UInt8) (index : Nat) :
    byteByPlace (items.drop 8) index = byteByPlace items (index + 1) := by
  have place (place : Nat) : 8 + (8 * index + place) = 8 * (index + 1) + place := by omega
  simp only [byteByPlace, List.getD_eq_getElem?_getD, List.getElem?_drop, place]

theorem packBits_eq_bytesByPlace (items : List UInt8) : packBits items = bytesByPlace items := by
  induction length : items.length using Nat.strongRecOn generalizing items with
  | ind total induction =>
    subst length
    by_cases empty : items = []
    · subst empty
      exact packBits_nil
    · have some : 0 < items.length := List.length_pos_iff.mpr empty
      have shorter : (items.drop 8).length < items.length := by
        rw [List.length_drop]
        omega
      have count : (items.length + 7) / 8 = ((items.drop 8).length + 7) / 8 + 1 := by
        rw [List.length_drop]
        omega
      rw [packBits_of_ne_nil empty, induction _ shorter _ rfl, packByte_take, bytesByPlace,
        bytesByPlace, count, List.range_succ_eq_map, List.map_cons, List.map_map]
      congr 1
      exact List.map_congr_left fun index _ => byteByPlace_drop items index

/-! ## Both ways -/

/-- Packing and unpacking undo each other but for the filling, and both go byte by byte. -/
theorem packing_round_trips :
    (∀ bytes : List UInt8, packBits (unpackBits bytes) = bytes) ∧
      (∀ items : List UInt8, ∃ places, FillsUp items.length places ∧
        unpackBits (packBits items) = items.map (· &&& 1) ++ List.replicate places 0) ∧
      (∀ first second : List UInt8,
        unpackBits (first ++ second) = unpackBits first ++ unpackBits second) ∧
      ∀ first second : List UInt8, 8 ∣ first.length →
        packBits (first ++ second) = packBits first ++ packBits second :=
  ⟨packBits_unpackBits, unpackBits_packBits, unpackBits_append,
    fun _ second whole => packBits_append whole second⟩

/-- Ten items of any value: the eleventh to the sixteenth place are filled up with zeros. -/
theorem packing_round_trips_ten_items :
    let first : List UInt8 := [1, 2, 3, 255, 0, 7, 128, 9]
    let second : List UInt8 := [254, 3]
    8 ∣ first.length ∧ packBits (first ++ second) = packBits first ++ packBits second ∧
      unpackBits (packBits (first ++ second)) =
        [1, 0, 1, 1, 0, 1, 0, 1, 0, 1] ++ [0, 0, 0, 0, 0, 0] := by
  intro first second
  obtain ⟨-, filled, -, appended⟩ := packing_round_trips
  have whole : 8 ∣ first.length := by decide
  refine ⟨whole, appended first second whole, ?_⟩
  rcases filled (first ++ second) with ⟨places, fills, restored⟩
  have aligned : 8 ∣ 10 + places := fills.whole
  have fewest : places ≤ 6 := fills.fewest 6 (by decide)
  have six : places = 6 := by omega
  rw [restored, six]
  decide

end PacketFraming
