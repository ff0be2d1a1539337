import PacketFraming.Proofs.UnitPositions

/-! Which units form a header.

The length and the counter fill the first 12 bits of their units, and the checksum all bits of
its own. These are the significant places; the others may hold anything. -/

namespace PacketFraming

namespace UnitLayout

variable (layout : UnitLayout)

def fieldSpan : Nat :=
  ceilDiv 12 layout.width * layout.width

def checksumSpan : Nat :=
  ceilDiv 8 layout.width * layout.width

def Significant (place : Nat) : Prop :=
  place < 12 ∨
  (layout.fieldSpan ≤ place ∧ place < layout.fieldSpan + 12) ∨
  (2 * layout.fieldSpan ≤ place ∧ place < 2 * layout.fieldSpan + layout.checksumSpan)

instance (place : Nat) : Decidable (layout.Significant place) :=
  inferInstanceAs (Decidable (_ ∨ _ ∨ _))

structure Fits (counter length : Nat) : Prop where
  length_lt : length < 2 ^ min 12 layout.bodyBits
  counter_lt : counter < 2 ^ min 12 (layout.bodyBits - layout.fieldSpan)

/-- Bits that are, wherever they matter, those of the header for a counter and a length. -/
def Shows (counter length : Nat) (bits : List Bool) : Prop :=
  ∀ place < layout.bodyBits, layout.Significant place →
    bits[place]? = ((layout.encode counter length).flatMap (unitBits layout.width))[place]?

/-- What is read from a header for a counter and a length: no counter if the header does not
reach it. -/
def told (counter length : Nat) : UnitFields where
  length := length
  counter := if layout.fieldSpan < layout.bodyBits then some counter else none

theorem twelve_le_fieldSpan : 12 ≤ layout.fieldSpan :=
  ceilDiv_mul_ge 12 layout.width_pos

theorem eight_le_checksumSpan : 8 ≤ layout.checksumSpan :=
  ceilDiv_mul_ge 8 layout.width_pos

theorem length_flatMap_unitBits_encode (counter length : Nat) :
    ((layout.encode counter length).flatMap (unitBits layout.width)).length = layout.bodyBits := by
  rw [length_flatMap_unitBits, length_encode, bodyBits]

/-! ## Bits of an encoded header -/

/-- The bits of the three fields one behind the other, before they are fitted into a header. -/
def fieldRow (counter length : Nat) : List Bool :=
  (List.range layout.fieldSpan).map (length % twelveBits).testBit ++
    ((List.range layout.fieldSpan).map counter.testBit ++
      (List.range layout.checksumSpan).map
        (headerCrc (length % twelveBits) counter).toNat.testBit)

theorem length_fieldRow (counter length : Nat) :
    (layout.fieldRow counter length).length = 2 * layout.fieldSpan + layout.checksumSpan := by
  simp only [fieldRow, List.length_append, List.length_map, List.length_range]
  omega

theorem getElem?_encode (counter length : Nat) {place : Nat} (inside : place < layout.bodyBits)
    (within : place < 2 * layout.fieldSpan + layout.checksumSpan) :
    ((layout.encode counter length).flatMap (unitBits layout.width))[place]? =
      (layout.fieldRow counter length)[place]? := by
  rw [encode, flatMap_unitBits_fitted, List.flatMap_append, List.flatMap_append,
    flatMap_unitBits_fieldUnits layout.width_le, flatMap_unitBits_fieldUnits layout.width_le,
    flatMap_unitBits_fieldUnits layout.width_le, List.append_assoc]
  change ((layout.fieldRow counter length).take layout.bodyBits ++ _)[place]? = _
  rw [List.getElem?_append_left, List.getElem?_take_of_lt inside]
  rw [List.length_take, length_fieldRow]
  omega

theorem getElem?_fieldRow_length (counter length : Nat) {place : Nat}
    (inside : place < layout.fieldSpan) :
    (layout.fieldRow counter length)[place]? = some ((length % twelveBits).testBit place) := by
  rw [fieldRow, List.getElem?_append_left (by simpa using inside), List.getElem?_map,
    List.getElem?_range inside]
  rfl

theorem getElem?_fieldRow_counter (counter length : Nat) {place : Nat}
    (inside : place < layout.fieldSpan) :
    (layout.fieldRow counter length)[layout.fieldSpan + place]? = some (counter.testBit place) := by
  rw [fieldRow, List.getElem?_append_right (by simp), List.length_map, List.length_range,
    Nat.add_sub_cancel_left, List.getElem?_append_left (by simpa using inside),
    List.getElem?_map, List.getElem?_range inside]
  rfl

theorem getElem?_fieldRow_checksum (counter length : Nat) {place : Nat}
    (inside : place < layout.checksumSpan) :
    (layout.fieldRow counter length)[2 * layout.fieldSpan + place]? =
      some ((headerCrc (length % twelveBits) counter).toNat.testBit place) := by
  have behind : 2 * layout.fieldSpan + place - layout.fieldSpan = layout.fieldSpan + place := by
    omega
  rw [fieldRow, List.getElem?_append_right (by simp; omega), List.length_map, List.length_range,
    behind, List.getElem?_append_right (by simp), List.length_map, List.length_range,
    Nat.add_sub_cancel_left, List.getElem?_map, List.getElem?_range inside]
  rfl

theorem shows_iff (counter length : Nat) (bits : List Bool) :
    layout.Shows counter length bits ↔
      (∀ place < 12, place < layout.bodyBits →
        bits[place]? = some ((length % twelveBits).testBit place)) ∧
      (∀ place < 12, layout.fieldSpan + place < layout.bodyBits →
        bits[layout.fieldSpan + place]? = some (counter.testBit place)) ∧
      (∀ place < layout.checksumSpan, 2 * layout.fieldSpan + place < layout.bodyBits →
        bits[2 * layout.fieldSpan + place]? =
          some ((headerCrc (length % twelveBits) counter).toNat.testBit place)) := by
  have reach := layout.twelve_le_fieldSpan
  constructor
  · intro shown
    refine ⟨fun place small inside => ?_, fun place small inside => ?_,
      fun place small inside => ?_⟩
    · rw [shown place inside (.inl small), layout.getElem?_encode counter length inside (by omega),
        layout.getElem?_fieldRow_length counter length (by omega)]
    · rw [shown _ inside (.inr (.inl (by omega))),
        layout.getElem?_encode counter length inside (by omega),
        layout.getElem?_fieldRow_counter counter length (by omega)]
    · rw [shown _ inside (.inr (.inr (by omega))),
        layout.getElem?_encode counter length inside (by omega),
        layout.getElem?_fieldRow_checksum counter length small]
  · rintro ⟨first, second, third⟩ place inside (small | ⟨after, before⟩ | ⟨after, before⟩)
    · rw [first place small inside, layout.getElem?_encode counter length inside (by omega),
        layout.getElem?_fieldRow_length counter length (by omega)]
    · obtain ⟨offset, rfl⟩ := Nat.exists_eq_add_of_le after
      rw [second offset (by omega) inside,
        layout.getElem?_encode counter length inside (by omega),
        layout.getElem?_fieldRow_counter counter length (by omega)]
    · obtain ⟨offset, rfl⟩ := Nat.exists_eq_add_of_le after
      rw [third offset (by omega) inside,
        layout.getElem?_encode counter length inside (by omega),
        layout.getElem?_fieldRow_checksum counter length (by omega)]

/-! ## Reading units -/

variable {layout} {units : List UInt8}

def spelledLength (layout : UnitLayout) (units : List UInt8) : Nat :=
  spelledAt (units.flatMap (unitBits layout.width)) 0 12

def spelledCounter (layout : UnitLayout) (units : List UInt8) : Nat :=
  spelledAt (units.flatMap (unitBits layout.width)) layout.fieldSpan 12

/-- The units behind the counter are the checksum of what the units spell, as far as they go. -/
def SpelledChecksum (layout : UnitLayout) (units : List UInt8) : Prop :=
  ∀ place < layout.checksumSpan, 2 * layout.fieldSpan + place < layout.bodyBits →
    (units.flatMap (unitBits layout.width))[2 * layout.fieldSpan + place]? =
      some ((headerCrc (layout.spelledLength units) (layout.spelledCounter units)).toNat.testBit
        place)

theorem spelledChecksum_iff (whole : units.length = layout.count)
    (room : 2 * layout.fieldSpan + 8 ≤ layout.bodyBits) :
    layout.SpelledChecksum units ↔
      (headerCrc (layout.spelledLength units) (layout.spelledCounter units)).toNat =
        spelledAt (units.flatMap (unitBits layout.width)) (2 * layout.fieldSpan)
          layout.checksumSpan := by
  have held : (units.flatMap (unitBits layout.width)).length = layout.bodyBits := by
    rw [length_flatMap_unitBits, whole, bodyBits]
  have small : (headerCrc (layout.spelledLength units) (layout.spelledCounter units)).toNat <
      2 ^ min layout.checksumSpan (layout.bodyBits - 2 * layout.fieldSpan) := by
    have span := layout.eight_le_checksumSpan
    exact Nat.lt_of_lt_of_le (UInt8.toNat_lt _) (Nat.pow_le_pow_right (by decide) (by omega))
  rw [eq_spelledAt_iff (by rwa [held]), held]
  rfl

theorem fits_spelled (whole : units.length = layout.count) :
    layout.Fits (layout.spelledCounter units) (layout.spelledLength units) where
  length_lt := by
    have bound := spelledAt_lt (units.flatMap (unitBits layout.width)) 0 12
    rwa [length_flatMap_unitBits, whole] at bound
  counter_lt := by
    have bound := spelledAt_lt (units.flatMap (unitBits layout.width)) layout.fieldSpan 12
    rwa [length_flatMap_unitBits, whole] at bound

theorem checksumAgrees_iff_spelled (whole : units.length = layout.count) :
    checksumAgrees layout.width (units.drop (2 * ceilDiv 12 layout.width))
        (headerCrc (layout.spelledLength units) (layout.spelledCounter units)) = true ↔
      layout.SpelledChecksum units := by
  have places : min (units.length - 2 * ceilDiv 12 layout.width) (ceilDiv 8 layout.width) *
      layout.width = min (layout.bodyBits - 2 * layout.fieldSpan) layout.checksumSpan := by
    rw [← Nat.mul_min_mul_right, Nat.sub_mul, Nat.mul_assoc, whole]
    rfl
  rw [checksumAgrees_iff layout.width_le, List.length_drop, places, flatMap_unitBits_drop,
    Nat.mul_assoc]
  refine forall_congr' fun place => ?_
  rw [List.getElem?_drop]
  constructor
  · intro same small inside
    exact same (by omega)
  · intro same inside
    exact same (by omega) (by omega)

/-- Units are read as far as the header goes, and refused for nothing but their checksum. -/
theorem fields?_eq_some_iff (whole : units.length = layout.count) {fields : UnitFields} :
    layout.fields? units = some fields ↔
      layout.SpelledChecksum units ∧
        fields = layout.told (layout.spelledCounter units) (layout.spelledLength units) := by
  have present : units ≠ [] := by
    rintro rfl
    exact absurd whole (Nat.ne_of_lt layout.count_pos)
  have first : takeField layout.width 12 units =
      some (layout.spelledLength units, units.drop (ceilDiv 12 layout.width)) :=
    takeField_eq layout.width present layout.width_pos 12
  by_cases reached : layout.fieldSpan < layout.bodyBits
  · have behind : units.drop (ceilDiv 12 layout.width) ≠ [] := by
      intro none
      have all := List.drop_eq_nil_iff.mp none
      rw [whole] at all
      exact absurd reached (Nat.not_lt.mpr (Nat.mul_le_mul_right layout.width all))
    have second : takeField layout.width 12 (units.drop (ceilDiv 12 layout.width)) =
        some (layout.spelledCounter units, units.drop (2 * ceilDiv 12 layout.width)) := by
      rw [takeField_eq layout.width behind layout.width_pos, flatMap_unitBits_drop, spelledAt_drop,
        List.drop_drop, ← Nat.two_mul]
      rfl
    have agreeing := checksumAgrees_iff_spelled whole
    by_cases agrees : checksumAgrees layout.width (units.drop (2 * ceilDiv 12 layout.width))
        (headerCrc (layout.spelledLength units) (layout.spelledCounter units)) = true
    · rw [layout.fields?_of_agreeing first second agrees, told, if_pos reached, Option.some.injEq,
        eq_comm]
      exact ⟨fun same => ⟨agreeing.mp agrees, same⟩, And.right⟩
    · have refused : layout.fields? units = none := by simp [fields?, first, second, agrees]
      rw [refused]
      constructor
      · intro impossible
        cases impossible
      · rintro ⟨spelled, -⟩
        exact absurd (agreeing.mpr spelled) agrees
  · have none : units.drop (ceilDiv 12 layout.width) = [] := by
      apply List.drop_of_length_le
      rw [whole]
      exact Nat.le_of_mul_le_mul_right (Nat.le_of_not_lt reached) layout.width_pos
    have read := layout.fields?_of_missing first (by rw [none]; rfl)
    have unchecked : layout.SpelledChecksum units := by
      intro place small inside
      omega
    rw [read, told, if_neg reached, Option.some.injEq, eq_comm]
    exact ⟨fun same => ⟨unchecked, same⟩, And.right⟩

theorem shows_iff_spelled (whole : units.length = layout.count) {counter length : Nat}
    (fits : layout.Fits counter length) :
    layout.Shows counter length (units.flatMap (unitBits layout.width)) ↔
      layout.SpelledChecksum units ∧ counter = layout.spelledCounter units ∧
        length = layout.spelledLength units := by
  have held : (units.flatMap (unitBits layout.width)).length = layout.bodyBits := by
    rw [length_flatMap_unitBits, whole, bodyBits]
  have short : length < twelveBits :=
    Nat.lt_of_lt_of_le fits.length_lt (Nat.pow_le_pow_right (by decide) (Nat.min_le_left _ _))
  have lengthSpelled : length = layout.spelledLength units ↔ _ :=
    eq_spelledAt_iff (by rw [held]; exact fits.length_lt)
  have counterSpelled : counter = layout.spelledCounter units ↔ _ :=
    eq_spelledAt_iff (by rw [held]; exact fits.counter_lt)
  simp only [held, Nat.zero_add] at lengthSpelled counterSpelled
  rw [shows_iff, Nat.mod_eq_of_lt short, ← lengthSpelled, ← counterSpelled]
  constructor
  · rintro ⟨rfl, rfl, checked⟩
    exact ⟨checked, rfl, rfl⟩
  · rintro ⟨checked, rfl, rfl⟩
    exact ⟨rfl, rfl, checked⟩

theorem isSome_fields?_iff (whole : units.length = layout.count) :
    (layout.fields? units).isSome = true ↔ layout.SpelledChecksum units := by
  rw [Option.isSome_iff_exists]
  constructor
  · rintro ⟨fields, read⟩
    exact ((fields?_eq_some_iff whole).mp read).1
  · intro checked
    exact ⟨_, (fields?_eq_some_iff whole).mpr ⟨checked, rfl⟩⟩

theorem shown_of_fields? (whole : units.length = layout.count) {fields : UnitFields}
    (read : layout.fields? units = some fields) :
    ∃ counter length, layout.Fits counter length ∧
      layout.Shows counter length (units.flatMap (unitBits layout.width)) := by
  rcases (fields?_eq_some_iff whole).mp read with ⟨checked, -⟩
  exact ⟨_, _, fits_spelled whole,
    (shows_iff_spelled whole (fits_spelled whole)).mpr ⟨checked, rfl, rfl⟩⟩

theorem fields?_of_shows (whole : units.length = layout.count) {counter length : Nat}
    (fits : layout.Fits counter length)
    (shown : layout.Shows counter length (units.flatMap (unitBits layout.width))) :
    layout.fields? units = some (layout.told counter length) := by
  rcases (shows_iff_spelled whole fits).mp shown with ⟨checked, rfl, rfl⟩
  exact (fields?_eq_some_iff whole).mpr ⟨checked, rfl⟩

/-! ## Units of a register -/

def unitsOfBits (layout : UnitLayout) (bits : List Bool) : List UInt8 :=
  (List.range layout.count).map fun index =>
    UInt8.ofNat (valueOfReversedBits ((bits.drop (index * layout.width)).take layout.width))

@[simp] theorem length_unitsOfBits (layout : UnitLayout) (bits : List Bool) :
    (layout.unitsOfBits bits).length = layout.count := by
  simp [unitsOfBits]

theorem flatMap_unitBits_unitsOfBits {bits : List Bool} (held : layout.bodyBits ≤ bits.length) :
    (layout.unitsOfBits bits).flatMap (unitBits layout.width) = bits.take layout.bodyBits := by
  have prefixes (count : Nat) (inside : count * layout.width ≤ bits.length) :
      ((List.range count).map fun index => UInt8.ofNat (valueOfReversedBits
        ((bits.drop (index * layout.width)).take layout.width))).flatMap (unitBits layout.width) =
          bits.take (count * layout.width) := by
    induction count with
    | zero => simp
    | succ count induction =>
        rw [Nat.succ_mul] at inside ⊢
        have whole : ((bits.drop (count * layout.width)).take layout.width).length =
            layout.width := by
          rw [List.length_take, List.length_drop]
          omega
        have last := unitBits_ofNat_valueOfReversedBits
          (Nat.le_trans (Nat.le_of_eq whole) layout.width_le)
        rw [whole] at last
        rw [List.range_succ, List.map_append, List.flatMap_append, induction (by omega),
          List.map_singleton, List.flatMap_singleton, last, List.take_add]
  exact prefixes layout.count held

theorem units?_eq_some {register : HeaderRegister} (held : layout.bodyBits ≤ register.length) :
    layout.units? register = some (layout.unitsOfBits register.bits) := by
  apply mapM_eq_some
  intro index member
  have inside : index * layout.width + layout.width ≤ register.length := by
    rw [← Nat.succ_mul]
    exact Nat.le_trans (Nat.mul_le_mul_right _ (List.mem_range.mp member)) held
  rw [HeaderRegister.extractReversed, register.field_eq_ok layout.width_pos
    (Nat.le_trans layout.width_le (by decide)) inside]
  rfl

theorem mapM_eq_none {α β : Type} {read : α → Option β} {indices : List α} {index : α}
    (member : index ∈ indices) (unread : read index = none) : indices.mapM read = none := by
  induction indices with
  | nil => exact absurd member List.not_mem_nil
  | cons other rest induction =>
      rw [List.mapM_cons]
      rcases List.mem_cons.mp member with rfl | later
      · rw [unread]
        rfl
      · rw [induction later]
        cases read other <;> rfl

theorem registerFields?_eq {register : HeaderRegister} (held : layout.bodyBits ≤ register.length) :
    layout.registerFields? register = layout.fields? (layout.unitsOfBits register.bits) := by
  rw [registerFields?, units?_eq_some held]
  rfl

theorem units?_eq_none {register : HeaderRegister} (short : register.length < layout.bodyBits) :
    layout.units? register = none := by
  have last : layout.count - 1 < layout.count := Nat.sub_lt layout.count_pos Nat.one_pos
  apply mapM_eq_none (List.mem_range.mpr last)
  have beyond : register.length < (layout.count - 1) * layout.width + layout.width := by
    rwa [← Nat.succ_mul, Nat.succ_eq_add_one, Nat.sub_add_cancel layout.count_pos]
  rw [HeaderRegister.extractReversed_of_short beyond]
  rfl

end UnitLayout

/-! ## Whitened units -/

namespace CarrierLayout

variable {layout : CarrierLayout}

theorem length_whiten {units : List UInt8} (whole : units.length = layout.units.count) :
    (layout.whiten units).length = layout.units.count := by
  rw [whiten, List.length_zipWith, whole, layout.length_whitening, Nat.min_self]

def maskBits (layout : CarrierLayout) : List Bool :=
  layout.whitening.flatMap (unitBits layout.units.width)

theorem length_maskBits : layout.maskBits.length = layout.units.bodyBits := by
  rw [maskBits, length_flatMap_unitBits, layout.length_whitening, UnitLayout.bodyBits]

theorem flatMap_unitBits_whiten {units : List UInt8} (whole : units.length = layout.units.count) :
    (layout.whiten units).flatMap (unitBits layout.units.width) =
      (units.flatMap (unitBits layout.units.width)).zipWith (· ^^ ·) layout.maskBits :=
  flatMap_unitBits_zipWith_xor _ (whole.trans layout.length_whitening.symm)

theorem registerFields?_eq {register : HeaderRegister}
    (held : layout.units.bodyBits ≤ register.length) :
    layout.registerFields? register =
      layout.units.fields? (layout.whiten (layout.units.unitsOfBits register.bits)) := by
  rw [registerFields?, UnitLayout.units?_eq_some held]
  rfl

end CarrierLayout

end PacketFraming
