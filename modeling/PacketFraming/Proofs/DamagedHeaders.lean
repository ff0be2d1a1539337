import PacketFraming.Proofs.AcceptedHeaders
import PacketFraming.Proofs.ChecksumErrors
import PacketFraming.Proofs.CutHeaders

/-! Headers that arrive with wrong bits.

Where a header holds its whole checksum, whether errors in the fields are found does not depend on
the fields but on the errors, and no three of them or fewer go unnoticed. -/

namespace PacketFraming

namespace UnitLayout

def HoldsChecksum (layout : UnitLayout) : Prop :=
  2 * ceilDiv 12 layout.width + ceilDiv 8 layout.width ≤ layout.count

/-- Where the bits of the length, the counter and the checksum are. -/
def Covered (layout : UnitLayout) (place : Nat) : Prop :=
  place < 12 ∨
  (layout.fieldSpan ≤ place ∧ place < layout.fieldSpan + 12) ∨
  (2 * layout.fieldSpan ≤ place ∧ place < 2 * layout.fieldSpan + 8)

instance (layout : UnitLayout) (place : Nat) : Decidable (layout.Covered place) :=
  inferInstanceAs (Decidable (_ ∨ _ ∨ _))

end UnitLayout

namespace Layout

/-- Whether headers hold a checksum, and all of it. -/
def Checksummed : Layout → Prop
  | crc _ => True
  | units layout => layout.HoldsChecksum
  | carriers layout => layout.units.HoldsChecksum
  | plain _ | counter _ => False

/-- Where the 32 bits are that the checksum covers, itself included. -/
def Covered (layout : Layout) (place : Nat) : Prop :=
  match layout with
  | crc _ => place < CrcLayout.bodyBits
  | units layout => layout.Covered place
  | carriers layout => layout.units.Covered place
  | plain _ | counter _ => False

/-- Errors in covered bits of a header: the mask tells which bits are wrong. -/
structure ErrorMask (layout : Layout) (mask : List Bool) : Prop where
  whole : mask.length = layout.bodyBits
  covered : ∀ place, mask[place]? = some true → layout.Covered place

/-- The register holds the header for a packet number and a length, with errors. -/
def Damaged (layout : Layout) (packet length : Nat) (mask : List Bool)
    (register : HeaderRegister) : Prop :=
  ∃ bytes, layout.encode packet length = .ok bytes ∧
    register.bits = (layout.sentBits bytes).zipWith (· ^^ ·) mask

end Layout

/-! ## Errors in fields -/

/-- Errors in the three fields of a header, from the lowest bit of each on. -/
structure FieldErrors where
  length : List Bool
  counter : List Bool
  checksum : List Bool
  length_whole : length.length = 12
  counter_whole : counter.length = 12
  checksum_whole : checksum.length = 8

namespace FieldErrors

def number (errors : FieldErrors) : Nat :=
  (errors.length ++ (errors.counter ++ errors.checksum)).count true

def Unnoticed (errors : FieldErrors) : Prop :=
  syndrome (valueOfReversedBits errors.length) (valueOfReversedBits errors.counter)
    (valueOfReversedBits errors.checksum) = 0

theorem not_unnoticed (errors : FieldErrors) (some : 1 ≤ errors.number) (few : errors.number ≤ 3) :
    ¬errors.Unnoticed :=
  syndrome_ne_zero errors.length_whole errors.counter_whole errors.checksum_whole some few

end FieldErrors

theorem valueOfBits_eq_reverse (bits : List Bool) :
    valueOfBits bits = valueOfReversedBits bits.reverse := by
  rw [valueOfBits, valueOfReversedBits, List.foldr_reverse]
  simp only [Nat.add_comm]

theorem zipWith_xor_bitsOfValue {width : Nat} (value : Nat) {errors : List Bool}
    (whole : errors.length = width) :
    (bitsOfValue width value).zipWith (· ^^ ·) errors =
      bitsOfValue width (value ^^^ valueOfBits errors) := by
  rw [bitsOfValue_xor, ← whole, bitsOfValue_valueOfBits]

/-! ## Headers of 32 bits -/

namespace CrcLayout

def fieldErrors (mask : List Bool) (whole : mask.length = bodyBits) : FieldErrors where
  length := ((mask.drop 12).take 12).reverse
  counter := (mask.take 12).reverse
  checksum := (mask.drop 24).reverse
  length_whole := by simp [whole, bodyBits]
  counter_whole := by simp [whole, bodyBits]
  checksum_whole := by simp [whole, bodyBits]

theorem mask_parts (mask : List Bool) :
    mask = mask.take 12 ++ (mask.drop 12).take 12 ++ mask.drop 24 := by
  have back : (mask.drop 12).take 12 ++ mask.drop 24 = mask.drop 12 := by
    rw [show 24 = 12 + 12 from rfl, ← List.drop_drop, List.take_append_drop]
  rw [List.append_assoc, back, List.take_append_drop]

theorem number_fieldErrors (mask : List Bool) (whole : mask.length = bodyBits) :
    (fieldErrors mask whole).number = mask.count true := by
  have parts := congrArg (List.count true) (mask_parts mask)
  rw [List.count_append, List.count_append] at parts
  simp only [FieldErrors.number, fieldErrors, List.count_append, List.count_reverse]
  omega

theorem accepts_damaged_iff (layout : CrcLayout) {mask : List Bool}
    (whole : mask.length = bodyBits) {packet length : Nat} (packet_lt : packet < twelveBits)
    {register : HeaderRegister}
    (damaged : (Layout.crc layout).Damaged packet length mask register) :
    accepts register = true ↔ (fieldErrors mask whole).Unnoticed := by
  rcases damaged with ⟨bytes, encoded, held⟩
  obtain rfl := Except.ok.inj encoded
  have length_lt : length % twelveBits < twelveBits := Nat.mod_lt _ (by decide)
  have sent : (Layout.crc layout).sentBits (encode packet length) =
      bitsOfValue 12 packet ++ bitsOfValue 12 (length % twelveBits) ++
        bitsOfValue 8 (headerCrc (length % twelveBits) packet).toNat := by
    rw [← bitsOfBytes_encode length_lt, encode, encode, Nat.mod_mod]
    rfl
  have first : (mask.take 12).length = 12 := by simp [whole, bodyBits]
  have second : ((mask.drop 12).take 12).length = 12 := by simp [whole, bodyBits]
  have third : (mask.drop 24).length = 8 := by simp [whole, bodyBits]
  have small {width : Nat} {bits : List Bool} (size : bits.length = width) :
      valueOfBits bits < 2 ^ width := size ▸ valueOfBits_lt bits
  rw [sent, mask_parts mask, List.zipWith_append (by simp [first, second]),
    List.zipWith_append (by simp [first]), zipWith_xor_bitsOfValue _ first,
    zipWith_xor_bitsOfValue _ second, zipWith_xor_bitsOfValue _ third] at held
  have fields := fields?_of_bits (Nat.xor_lt_two_pow packet_lt (small first))
    (Nat.xor_lt_two_pow length_lt (small second))
    (Nat.xor_lt_two_pow (UInt8.toNat_lt _) (small third)) (held.trans (List.append_nil _).symm)
  rw [accepts, fields, beq_iff_eq, headerCrc_damaged_iff _ _ (small third), valueOfBits_eq_reverse,
    valueOfBits_eq_reverse, valueOfBits_eq_reverse]
  rfl

end CrcLayout

/-! ## Headers of units -/

theorem count_drop_of_clear {mask : List Bool} {start finish : Nat} (order : start ≤ finish)
    (clear : ∀ place, start ≤ place → place < finish → mask[place]? ≠ some true) :
    (mask.drop start).count true = (mask.drop finish).count true := by
  have parts := List.take_append_drop (finish - start) (mask.drop start)
  have none : ((mask.drop start).take (finish - start)).count true = 0 := by
    rw [List.count_eq_zero]
    intro member
    rcases List.mem_take_iff_getElem.mp member with ⟨index, inside, value⟩
    rw [List.length_drop] at inside
    apply clear (start + index) (by omega) (by omega)
    rw [List.getElem?_eq_getElem (by omega), ← value, List.getElem_drop]
  rw [List.drop_drop, Nat.add_sub_cancel' order] at parts
  rw [← parts, List.count_append, none, Nat.zero_add]

theorem count_drop (mask : List Bool) (start size : Nat) :
    (mask.drop start).count true =
      ((mask.drop start).take size).count true + (mask.drop (start + size)).count true := by
  rw [← List.drop_drop, ← List.count_append, List.take_append_drop]

namespace UnitLayout

variable {layout : UnitLayout} {mask : List Bool}

theorem spans_le (holds : layout.HoldsChecksum) :
    2 * layout.fieldSpan + layout.checksumSpan ≤ layout.bodyBits := by
  have scaled := Nat.mul_le_mul_right layout.width holds
  rwa [Nat.add_mul, Nat.mul_assoc] at scaled

def fieldErrors (layout : UnitLayout) (mask : List Bool) (holds : layout.HoldsChecksum)
    (whole : mask.length = layout.bodyBits) : FieldErrors where
  length := mask.take 12
  counter := (mask.drop layout.fieldSpan).take 12
  checksum := (mask.drop (2 * layout.fieldSpan)).take 8
  length_whole := by
    have room := spans_le holds
    have reach := layout.twelve_le_fieldSpan
    rw [List.length_take]
    omega
  counter_whole := by
    have room := spans_le holds
    have reach := layout.twelve_le_fieldSpan
    rw [List.length_take, List.length_drop]
    omega
  checksum_whole := by
    have room := spans_le holds
    have span := layout.eight_le_checksumSpan
    rw [List.length_take, List.length_drop]
    omega

theorem number_fieldErrors (holds : layout.HoldsChecksum) (whole : mask.length = layout.bodyBits)
    (covered : ∀ place, mask[place]? = some true → layout.Covered place) :
    (layout.fieldErrors mask holds whole).number = mask.count true := by
  have room := spans_le holds
  have reach := layout.twelve_le_fieldSpan
  have span := layout.eight_le_checksumSpan
  have clear {start finish : Nat}
      (free : ∀ place, start ≤ place → place < finish → ¬layout.Covered place) :
      ∀ place, start ≤ place → place < finish → mask[place]? ≠ some true :=
    fun place after before set => free place after before (covered place set)
  -- The mask is clear between the fields and behind them.
  have afterLength := count_drop_of_clear (show 12 ≤ layout.fieldSpan from reach) (clear (by
    intro place after before
    unfold Covered
    omega))
  have afterCounter := count_drop_of_clear
    (show layout.fieldSpan + 12 ≤ 2 * layout.fieldSpan by omega) (clear (by
      intro place after before
      unfold Covered
      omega))
  have afterChecksum := count_drop_of_clear
    (show 2 * layout.fieldSpan + 8 ≤ layout.bodyBits by omega) (clear (by
      intro place after before
      unfold Covered
      omega))
  have inLength := count_drop mask 0 12
  have inCounter := count_drop mask layout.fieldSpan 12
  have inChecksum := count_drop mask (2 * layout.fieldSpan) 8
  rw [← whole, List.drop_length, List.count_nil] at afterChecksum
  rw [List.drop_zero, Nat.zero_add] at inLength
  simp only [FieldErrors.number, fieldErrors, List.count_append]
  omega

theorem spelledAt_checksum (holds : layout.HoldsChecksum) (whole : mask.length = layout.bodyBits)
    (covered : ∀ place, mask[place]? = some true → layout.Covered place) :
    spelledAt mask (2 * layout.fieldSpan) layout.checksumSpan =
      valueOfReversedBits (layout.fieldErrors mask holds whole).checksum := by
  have span := layout.eight_le_checksumSpan
  apply Nat.eq_of_testBit_eq
  intro place
  change _ = (spelledAt mask (2 * layout.fieldSpan) 8).testBit place
  rw [testBit_spelledAt, testBit_spelledAt]
  by_cases inside : place < 8
  · rw [decide_eq_true inside, decide_eq_true (Nat.lt_of_lt_of_le inside span)]
  · have clear : mask.getD (2 * layout.fieldSpan + place) false = false := by
      rw [List.getD_eq_getElem?_getD]
      cases found : mask[2 * layout.fieldSpan + place]? with
      | none => rfl
      | some bit =>
          cases bit with
          | false => rfl
          | true =>
              have reach := layout.twelve_le_fieldSpan
              have place_covered := covered _ found
              unfold Covered at place_covered
              omega
    rw [clear, Bool.and_false, Bool.and_false]

theorem spelledChecksum_damaged_iff (holds : layout.HoldsChecksum)
    (whole : mask.length = layout.bodyBits)
    (covered : ∀ place, mask[place]? = some true → layout.Covered place)
    {packet length : Nat} (packet_lt : packet < twelveBits) {units : List UInt8}
    (count : units.length = layout.count)
    (damaged : units.flatMap (unitBits layout.width) =
      ((layout.encode packet length).flatMap (unitBits layout.width)).zipWith (· ^^ ·) mask) :
    layout.SpelledChecksum units ↔ (layout.fieldErrors mask holds whole).Unnoticed := by
  have room := spans_le holds
  have span := layout.eight_le_checksumSpan
  have same := (layout.length_flatMap_unitBits_encode packet length).trans whole.symm
  have sent := layout.spelledChecksum_encode packet_lt length
  rw [spelledChecksum_iff (layout.length_encode packet length) (by omega)] at sent
  have small := valueOfReversedBits_lt (layout.fieldErrors mask holds whole).checksum
  rw [(layout.fieldErrors mask holds whole).checksum_whole] at small
  rw [spelledChecksum_iff count (by omega), spelledLength, spelledCounter, damaged,
    spelledAt_zipWith_xor same, spelledAt_zipWith_xor same, spelledAt_zipWith_xor same, ← sent,
    spelledAt_checksum holds whole covered]
  exact headerCrc_damaged_iff _ _ small

theorem isSome_registerFields?_iff {register : HeaderRegister}
    (size : register.bits.length = layout.bodyBits) :
    (layout.registerFields? register).isSome ↔
      layout.SpelledChecksum (layout.unitsOfBits register.bits) := by
  rw [registerFields?_eq (Nat.le_of_eq (size.symm.trans register.length_bits)),
    isSome_fields?_iff (layout.length_unitsOfBits register.bits)]

theorem flatMap_unitBits_unitsOfBits_self {bits : List Bool}
    (size : bits.length = layout.bodyBits) :
    (layout.unitsOfBits bits).flatMap (unitBits layout.width) = bits := by
  rw [flatMap_unitBits_unitsOfBits (Nat.le_of_eq size.symm),
    List.take_of_length_le (Nat.le_of_eq size)]

theorem accepts_damaged_iff (holds : layout.HoldsChecksum)
    (whole : mask.length = layout.bodyBits)
    (covered : ∀ place, mask[place]? = some true → layout.Covered place)
    {packet length : Nat} (packet_lt : packet < twelveBits) {register : HeaderRegister}
    (damaged : (Layout.units layout).Damaged packet length mask register) :
    layout.accepts register = true ↔ (layout.fieldErrors mask holds whole).Unnoticed := by
  rcases damaged with ⟨bytes, encoded, held⟩
  obtain rfl := Except.ok.inj encoded
  have size : register.bits.length = layout.bodyBits := by
    rw [held, List.length_zipWith, whole]
    exact (congrArg (min · _) (layout.length_flatMap_unitBits_encode packet length)).trans
      (Nat.min_self _)
  rw [accepts, isSome_registerFields?_iff size]
  exact spelledChecksum_damaged_iff holds whole covered packet_lt
    (layout.length_unitsOfBits register.bits)
    ((flatMap_unitBits_unitsOfBits_self size).trans held)

end UnitLayout

theorem zipWith_xor_mask {bits errors mask : List Bool} (same : bits.length = mask.length) :
    ((bits.zipWith (· ^^ ·) mask).zipWith (· ^^ ·) errors).zipWith (· ^^ ·) mask =
      bits.zipWith (· ^^ ·) errors := by
  induction bits generalizing errors mask with
  | nil => rfl
  | cons bit rest induction =>
      cases mask with
      | nil => exact absurd same (Nat.succ_ne_zero _)
      | cons masked masks =>
          cases errors with
          | nil => rfl
          | cons error others =>
              have cancelled : (bit ^^ masked ^^ error ^^ masked) = (bit ^^ error) := by
                cases bit <;> cases masked <;> cases error <;> rfl
              simp only [List.zipWith_cons_cons, cancelled, induction (Nat.succ.inj same)]

namespace CarrierLayout

theorem accepts_damaged_iff {layout : CarrierLayout} {mask : List Bool}
    (holds : layout.units.HoldsChecksum) (whole : mask.length = layout.units.bodyBits)
    (covered : ∀ place, mask[place]? = some true → layout.units.Covered place)
    {packet length : Nat} (packet_lt : packet < twelveBits) {register : HeaderRegister}
    (damaged : (Layout.carriers layout).Damaged packet length mask register) :
    layout.accepts register = true ↔ (layout.units.fieldErrors mask holds whole).Unnoticed := by
  rcases damaged with ⟨bytes, encoded, held⟩
  obtain rfl := Except.ok.inj encoded
  have wide := layout.units.length_flatMap_unitBits_encode packet length
  have received : register.bits = ((((layout.units.encode packet length).flatMap
      (unitBits layout.units.width)).zipWith (· ^^ ·) layout.maskBits).zipWith (· ^^ ·) mask) := by
    rw [held, ← flatMap_unitBits_whiten (layout.units.length_encode packet length)]
    rfl
  have size : register.bits.length = layout.units.bodyBits := by
    rw [received, List.length_zipWith, List.length_zipWith, wide, length_maskBits, whole,
      Nat.min_self]
    exact Nat.min_self _
  have cut := layout.units.length_unitsOfBits register.bits
  -- The whitening goes away, and the errors stay where they are.
  have read := flatMap_unitBits_whiten cut
  rw [UnitLayout.flatMap_unitBits_unitsOfBits_self size, received,
    zipWith_xor_mask (wide.trans length_maskBits.symm), ← received] at read
  rw [accepts, registerFields?_eq (Nat.le_of_eq (size.symm.trans register.length_bits)),
    UnitLayout.isSome_fields?_iff (length_whiten cut)]
  exact UnitLayout.spelledChecksum_damaged_iff holds whole covered packet_lt
    (length_whiten cut) read

end CarrierLayout

/-! ## All layouts with a checksum -/

namespace Layout

/-- A mask makes errors in the fields, which alone decide whether the header is accepted. -/
theorem exists_fieldErrors (layout : Layout) (checksummed : layout.Checksummed) {mask : List Bool}
    (errors : layout.ErrorMask mask) :
    ∃ made : FieldErrors, made.number = mask.count true ∧
      ∀ packet length register, packet < twelveBits →
        layout.Damaged packet length mask register →
        (layout.accepts register = true ↔ made.Unnoticed) := by
  have whole := errors.whole
  have covered := errors.covered
  cases layout with
  | plain | counter => exact absurd checksummed id
  | crc layout =>
      exact ⟨CrcLayout.fieldErrors mask whole, CrcLayout.number_fieldErrors mask whole,
        fun packet length register packet_lt damaged =>
          layout.accepts_damaged_iff whole packet_lt damaged⟩
  | units layout =>
      exact ⟨layout.fieldErrors mask checksummed whole,
        UnitLayout.number_fieldErrors checksummed whole covered,
        fun packet length register packet_lt damaged =>
          UnitLayout.accepts_damaged_iff checksummed whole covered packet_lt damaged⟩
  | carriers layout =>
      exact ⟨layout.units.fieldErrors mask checksummed whole,
        UnitLayout.number_fieldErrors checksummed whole covered,
        fun packet length register packet_lt damaged =>
          CarrierLayout.accepts_damaged_iff checksummed whole covered packet_lt damaged⟩

/-- Of wrong bits that the checksum covers, up to three are found in every header, and any others
in all headers or in none. -/
theorem accepts_damaged (layout : Layout) (checksummed : layout.Checksummed) {mask : List Bool}
    (errors : layout.ErrorMask mask) :
    (1 ≤ mask.count true → mask.count true ≤ 3 →
      ∀ packet length register, packet < twelveBits →
        layout.Damaged packet length mask register → layout.accepts register = false) ∧
    (∀ packet length register otherPacket otherLength otherRegister,
      packet < twelveBits → otherPacket < twelveBits →
      layout.Damaged packet length mask register →
      layout.Damaged otherPacket otherLength mask otherRegister →
      layout.accepts register = layout.accepts otherRegister) := by
  rcases layout.exists_fieldErrors checksummed errors with ⟨made, number, accepts_iff⟩
  rw [← number]
  constructor
  · intro some few packet length register packet_lt damaged
    rw [← Bool.not_eq_true, accepts_iff packet length register packet_lt damaged]
    exact made.not_unnoticed some few
  · intro packet length register otherPacket otherLength otherRegister packet_lt otherPacket_lt
      damaged otherDamaged
    rw [Bool.eq_iff_iff, accepts_iff packet length register packet_lt damaged,
      accepts_iff otherPacket otherLength otherRegister otherPacket_lt otherDamaged]

/-- Two headers in units of five bits, with the same three wrong bits: one in each field. -/
theorem accepts_damaged_three_bits :
    let layout : UnitLayout := {
      count := 8, width := 5, lengthKey := "length", counterKey := "number"
      sized := { count_pos := by decide, width_pos := by decide, width_le := by decide } }
    let mask := [1, 0, 0, 1, 0, 0, 1, 0].flatMap (unitBits 5)
    let received (packet length : Nat) := (((layout.encode packet length).flatMap
      (unitBits 5)).zipWith (· ^^ ·) mask).foldl HeaderRegister.insert .empty
    (units layout).accepts (received 7 0x123) = false ∧
      (units layout).accepts (received 7 0x123) = (units layout).accepts (received 0 4095) := by
  intro layout mask received
  have clear : ∀ place < 40, mask[place]? = some true → layout.Covered place := by
    decide +kernel
  have errors : (units layout).ErrorMask mask := {
    whole := by decide
    covered := fun place set => clear place (List.getElem?_eq_some_iff.mp set).1 set }
  have damaged (packet length : Nat) :
      (units layout).Damaged packet length mask (received packet length) :=
    ⟨_, rfl, HeaderRegister.bits_foldl_insert _ _⟩
  have found := accepts_damaged (units layout)
    (show 2 * ceilDiv 12 5 + ceilDiv 8 5 ≤ 8 by decide) errors
  exact ⟨found.1 (by decide) (by decide) 7 0x123 _ (by decide) (damaged 7 0x123),
    found.2 7 0x123 _ 0 4095 _ (by decide) (by decide) (damaged 7 0x123) (damaged 0 4095)⟩

end Layout

end PacketFraming
