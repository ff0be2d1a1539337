import PacketFraming.Layout.Basic

/-! Headers seen as strings of bits.

What a layout reads from a register depends on the bits that the register holds, and on
nothing else that is left in its storage. -/

namespace PacketFraming

namespace HeaderRegister

variable {first second : HeaderRegister}

theorem length_congr (same : first.bits = second.bits) : first.length = second.length := by
  rw [← length_bits first, same, length_bits]

theorem bitAt_congr (same : first.bits = second.bits) {index : Nat}
    (held : index < first.length) : first.bitAt index = second.bitAt index := by
  have entry (register : HeaderRegister) (inside : index < register.length) :
      register.bits[index]? = some (register.bitAt index) := by
    simp [bits, inside]
  have both := (entry first held).symm.trans
    ((congrArg (·[index]?) same).trans (entry second (length_congr same ▸ held)))
  exact Option.some.inj both

theorem field_congr (same : first.bits = second.bits) (offset width : Nat) :
    first.field offset width = second.field offset width := by
  unfold field
  rw [length_congr same]
  split
  · rfl
  · split
    · next held =>
        congr 1
        apply List.map_congr_left
        intro index member
        have inside := List.mem_range.mp member
        apply bitAt_congr same
        rw [length_congr same]
        omega
    · rfl

theorem value?_congr (same : first.bits = second.bits) (offset width : Nat) :
    first.value? offset width = second.value? offset width := by
  rw [value?, value?, extract, extract, field_congr same]

theorem extractReversed_congr (same : first.bits = second.bits) (offset width : Nat) :
    first.extractReversed offset width = second.extractReversed offset width := by
  rw [extractReversed, extractReversed, field_congr same]

end HeaderRegister

theorem UnitLayout.units?_congr (layout : UnitLayout) {first second : HeaderRegister}
    (same : first.bits = second.bits) : layout.units? first = layout.units? second := by
  unfold units?
  congr 1
  funext index
  rw [HeaderRegister.extractReversed_congr same]

namespace Layout

theorem accepts_congr (layout : Layout) {first second : HeaderRegister}
    (same : first.bits = second.bits) : layout.accepts first = layout.accepts second := by
  cases layout with
  | plain layout => simp only [accepts, PlainLayout.accepts, HeaderRegister.value?_congr same]
  | counter layout =>
      simp only [accepts, CounterLayout.accepts, HeaderRegister.value?_congr same]
  | crc layout =>
      simp only [accepts, CrcLayout.accepts, CrcLayout.fields?, HeaderRegister.value?_congr same]
  | units layout =>
      simp only [accepts, UnitLayout.accepts, UnitLayout.registerFields?,
        layout.units?_congr same]
  | carriers layout =>
      simp only [accepts, CarrierLayout.accepts, CarrierLayout.registerFields?,
        layout.units.units?_congr same]

theorem decode?_congr (layout : Layout) {first second : HeaderRegister}
    (same : first.bits = second.bits) : layout.decode? first = layout.decode? second := by
  cases layout with
  | plain layout => simp only [decode?, PlainLayout.decode?, HeaderRegister.value?_congr same]
  | counter layout =>
      simp only [decode?, CounterLayout.decode?, HeaderRegister.value?_congr same]
  | crc layout =>
      simp only [decode?, CrcLayout.decode?, CrcLayout.fields?, HeaderRegister.value?_congr same]
  | units layout =>
      simp only [decode?, UnitLayout.decode?, UnitLayout.registerFields?,
        layout.units?_congr same]
  | carriers layout =>
      simp only [decode?, CarrierLayout.decode?, CarrierLayout.registerFields?,
        layout.units.units?_congr same]

theorem read?_congr (layout : Layout) {first second : HeaderRegister}
    (same : first.bits = second.bits) : layout.read? first = layout.read? second := by
  rw [read?, read?, layout.accepts_congr same, layout.decode?_congr same]

/-! ## Items of a header -/

def itemBits (layout : Layout) (item : UInt8) : List Bool :=
  match layout.unitWidth? with
  | some width => (List.range (min width 8)).map item.toNat.testBit
  | none => [itemBit item]

theorem bits_collect (layout : Layout) (register : HeaderRegister) (item : UInt8) :
    (layout.collect register item).bits = register.bits ++ layout.itemBits item := by
  unfold collect itemBits
  cases layout.unitWidth? with
  | some width => exact HeaderRegister.bits_insertUnit register item width
  | none => exact HeaderRegister.bits_insert register (itemBit item)

theorem bits_foldl_collect (layout : Layout) (register : HeaderRegister)
    (items : List UInt8) :
    (items.foldl layout.collect register).bits =
      register.bits ++ items.flatMap layout.itemBits := by
  induction items generalizing register with
  | nil => simp
  | cons item rest induction =>
      rw [List.foldl_cons, induction, bits_collect, List.flatMap_cons, List.append_assoc]

theorem unitWidth_le (layout : Layout) {width : Nat} (units : layout.unitWidth? = some width) :
    1 ≤ width ∧ width ≤ 8 := by
  cases layout with
  | plain | counter | crc => exact absurd units (by simp [unitWidth?])
  | units layout =>
      obtain rfl := Option.some.inj units
      exact ⟨layout.width_pos, layout.width_le⟩
  | carriers layout =>
      obtain rfl := Option.some.inj units
      exact ⟨layout.units.width_pos, layout.units.width_le⟩

theorem length_itemBits (layout : Layout) (item : UInt8) :
    (layout.itemBits item).length = layout.bitsPerItem := by
  unfold itemBits bitsPerItem
  split
  · next width units =>
      have bound := layout.unitWidth_le units
      rw [units, List.length_map, List.length_range, Nat.min_eq_left bound.2]
      rfl
  · next units =>
      rw [units]
      rfl

theorem bitsPerItem_pos (layout : Layout) : 0 < layout.bitsPerItem := by
  cases units : layout.unitWidth? with
  | none =>
      rw [bitsPerItem, units]
      exact Nat.one_pos
  | some width =>
      rw [bitsPerItem, units]
      exact (layout.unitWidth_le units).1

theorem length_flatMap_itemBits (layout : Layout) (items : List UInt8) :
    (items.flatMap layout.itemBits).length = items.length * layout.bitsPerItem := by
  induction items with
  | nil => simp
  | cons item rest induction =>
      rw [List.flatMap_cons, List.length_append, length_itemBits, induction,
        List.length_cons, Nat.succ_mul, Nat.add_comm]

theorem length_foldl_collect (layout : Layout) (register : HeaderRegister)
    (items : List UInt8) :
    (items.foldl layout.collect register).length =
      register.length + items.length * layout.bitsPerItem := by
  rw [← HeaderRegister.length_bits, bits_foldl_collect, List.length_append,
    HeaderRegister.length_bits, length_flatMap_itemBits]

def bodyItems (layout : Layout) : Nat :=
  (layout.headerBits - layout.accessCode.length) / layout.bitsPerItem

theorem bodyItems_mul_bitsPerItem (layout : Layout) :
    layout.bodyItems * layout.bitsPerItem = layout.bodyBits := by
  rw [bodyItems, headerBits, Nat.add_sub_cancel_left]
  cases layout with
  | plain | counter | crc => exact Nat.div_mul_cancel (Nat.one_dvd _)
  | units layout => exact congrArg (· * layout.width) (Nat.mul_div_cancel _ layout.width_pos)
  | carriers layout =>
      exact congrArg (· * layout.units.width) (Nat.mul_div_cancel _ layout.units.width_pos)

theorem bodyBits_pos (layout : Layout) : 0 < layout.bodyBits := by
  cases layout with
  | plain | counter | crc => exact Nat.succ_pos _
  | units layout => exact Nat.mul_pos layout.count_pos layout.width_pos
  | carriers layout => exact Nat.mul_pos layout.units.count_pos layout.units.width_pos

theorem bodyItems_pos (layout : Layout) : 0 < layout.bodyItems := by
  have bits_pos := layout.bodyBits_pos
  rw [← bodyItems_mul_bitsPerItem] at bits_pos
  exact Nat.pos_of_mul_pos_right bits_pos

def payloadItemBits : Layout → Nat
  | counter layout => layout.symbolBits
  | _ => 1

/-- What the items of a header say, if they form one. -/
def readItems? (layout : Layout) (items : List UInt8) : Option DecodedHeader :=
  layout.read? (items.foldl layout.collect .empty)

/-- A register that was cleared before the items came reads the same. -/
theorem read?_of_bits (layout : Layout) {register : HeaderRegister} {items : List UInt8}
    (held : register.bits = items.flatMap layout.itemBits) :
    layout.read? register = layout.readItems? items := by
  apply layout.read?_congr
  rw [held, bits_foldl_collect]
  rfl

end Layout

end PacketFraming
