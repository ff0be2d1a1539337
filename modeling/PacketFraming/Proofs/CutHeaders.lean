import PacketFraming.Proofs.AcceptedUnits

/-! Headers of units that end inside a field.

A header has the first units of its fields, as many as it is long. What is read from it again
are the lowest bits of the length and of the counter, as many as those units carry. A header
that ends in front of the checksum is accepted without one. -/

namespace PacketFraming

theorem spelledAt_of_bits {bits : List Bool} {start size value : Nat}
    (found : ∀ place < size, start + place < bits.length →
      bits[start + place]? = some (value.testBit place)) :
    spelledAt bits start size = value % 2 ^ min size (bits.length - start) := by
  have small : value % 2 ^ min size (bits.length - start) <
      2 ^ min size (bits.length - start) := Nat.mod_lt _ (Nat.two_pow_pos _)
  symm
  rw [eq_spelledAt_iff small]
  intro place inside held
  have kept : place < min size (bits.length - start) := by omega
  rw [found place inside held, Nat.testBit_mod_two_pow, decide_eq_true kept, Bool.true_and]

namespace UnitLayout

variable (layout : UnitLayout)

/-! ## What a header has room for -/

def lengthBits : Nat :=
  min 12 (layout.width * min layout.count (ceilDiv 12 layout.width))

def counterBits : Nat :=
  min 12 (layout.width *
    min (layout.count - ceilDiv 12 layout.width) (ceilDiv 12 layout.width))

def kept (counter length : Nat) : UnitFields where
  length := length % 4096 % 2 ^ layout.lengthBits
  counter :=
    if layout.count ≤ ceilDiv 12 layout.width then none
    else some (counter % 2 ^ layout.counterBits)

theorem lengthBits_eq : layout.lengthBits = min 12 layout.bodyBits := by
  have reach := layout.twelve_le_fieldSpan
  have units : layout.width * min layout.count (ceilDiv 12 layout.width) =
      min layout.bodyBits layout.fieldSpan := by
    rw [Nat.mul_comm, ← Nat.mul_min_mul_right]
    rfl
  rw [lengthBits, units]
  omega

theorem counterBits_eq : layout.counterBits = min 12 (layout.bodyBits - layout.fieldSpan) := by
  have reach := layout.twelve_le_fieldSpan
  have units : layout.width *
      min (layout.count - ceilDiv 12 layout.width) (ceilDiv 12 layout.width) =
        min (layout.bodyBits - layout.fieldSpan) layout.fieldSpan := by
    rw [Nat.mul_comm, ← Nat.mul_min_mul_right, Nat.sub_mul]
    rfl
  rw [counterBits, units]
  omega

theorem count_le_iff :
    layout.count ≤ ceilDiv 12 layout.width ↔ ¬layout.fieldSpan < layout.bodyBits := by
  rw [Nat.not_lt]
  exact (Nat.mul_le_mul_right_iff layout.width_pos).symm

/-! ## What an encoded header spells -/

theorem spelledLength_encode (counter length : Nat) :
    layout.spelledLength (layout.encode counter length) =
      length % twelveBits % 2 ^ layout.lengthBits := by
  have reach := layout.twelve_le_fieldSpan
  rw [spelledLength, spelledAt_of_bits, length_flatMap_unitBits_encode, lengthBits_eq,
    Nat.sub_zero]
  intro place small inside
  rw [length_flatMap_unitBits_encode] at inside
  rw [layout.getElem?_encode counter length inside (by omega), Nat.zero_add,
    layout.getElem?_fieldRow_length counter length (by omega)]

theorem spelledCounter_encode (counter length : Nat) :
    layout.spelledCounter (layout.encode counter length) =
      counter % 2 ^ layout.counterBits := by
  have reach := layout.twelve_le_fieldSpan
  rw [spelledCounter, spelledAt_of_bits, length_flatMap_unitBits_encode, counterBits_eq]
  intro place small inside
  rw [length_flatMap_unitBits_encode] at inside
  rw [layout.getElem?_encode counter length inside (by omega),
    layout.getElem?_fieldRow_counter counter length (by omega)]

/-- Where there are units for the checksum, the length and the counter in front of them are
whole, so that the checksum is theirs. -/
theorem spelledChecksum_encode {counter : Nat} (counter_lt : counter < 4096) (length : Nat) :
    layout.SpelledChecksum (layout.encode counter length) := by
  have reach := layout.twelve_le_fieldSpan
  intro place small inside
  have wholeLength : layout.lengthBits = 12 := by
    rw [lengthBits_eq]
    omega
  have wholeCounter : layout.counterBits = 12 := by
    rw [counterBits_eq]
    omega
  have short : length % twelveBits < 2 ^ 12 := Nat.mod_lt _ (by decide)
  rw [spelledLength_encode, spelledCounter_encode, wholeLength, wholeCounter,
    Nat.mod_eq_of_lt short, Nat.mod_eq_of_lt counter_lt,
    layout.getElem?_encode counter length inside (by omega),
    layout.getElem?_fieldRow_checksum counter length small]

theorem fields?_encode_eq_kept {counter : Nat} (counter_lt : counter < 4096) (length : Nat) :
    layout.fields? (layout.encode counter length) = some (layout.kept counter length) := by
  rw [fields?_eq_some_iff (layout.length_encode counter length)]
  refine ⟨layout.spelledChecksum_encode counter_lt length, ?_⟩
  rw [told, kept, spelledLength_encode, spelledCounter_encode]
  by_cases reached : layout.fieldSpan < layout.bodyBits
  · have beyond : ¬layout.count ≤ ceilDiv 12 layout.width :=
      fun short => layout.count_le_iff.mp short reached
    rw [if_pos reached, if_neg beyond]
    rfl
  · rw [if_neg reached, if_pos (layout.count_le_iff.mpr reached)]
    rfl

/-! ## Registers -/

/-- Units that are put into a register which has been cleared, whatever it held before. -/
def fill (register : HeaderRegister) (units : List UInt8) : HeaderRegister :=
  units.foldl (fun register unit => register.insertUnit unit layout.width) register.clear

theorem units?_fill (register : HeaderRegister) {units : List UInt8}
    (whole : units.length = layout.count) (narrow : ∀ unit ∈ units, Narrow layout.width unit) :
    layout.units? (layout.fill register units) = some units := by
  have collected : layout.units? (units.foldl (Layout.units layout).collect .empty) = some units :=
    layout.units?_foldl_collect rfl whole narrow
  rw [← collected]
  apply layout.units?_congr
  exact (Layout.bits_foldl_collect (.units layout) register.clear units).trans
    (Layout.bits_foldl_collect (.units layout) .empty units).symm

theorem registerFields?_fill (register : HeaderRegister) {units : List UInt8}
    (whole : units.length = layout.count) (narrow : ∀ unit ∈ units, Narrow layout.width unit) :
    layout.registerFields? (layout.fill register units) = layout.fields? units := by
  rw [registerFields?, layout.units?_fill register whole narrow]
  rfl

/-! ## Metadata -/

theorem entries_describe (fields : UnitFields)
    (distinct : [Metadata.payloadBitsKey, layout.lengthKey, layout.counterKey].Nodup) :
    (layout.describe fields).metadata.toList =
      [(Metadata.payloadBitsKey, .natural (8 * fields.length)),
        (layout.lengthKey, .natural fields.length)] ++
      fields.counter.toList.map fun counter => (layout.counterKey, .natural counter) := by
  simp only [List.nodup_cons, List.mem_cons, List.not_mem_nil, not_or, or_false] at distinct
  rcases distinct with ⟨⟨first, second⟩, third, -⟩
  rcases fields with ⟨length, _ | counter⟩ <;>
    simp [describe, Metadata.ofList, Metadata.insertAll, Metadata.insert, Metadata.insertEntry,
      Metadata.toList, Metadata.empty, first, second, third]

/-! ## Reading what was encoded -/

/-- However long a header is and however wide its units are, it is read again as far as it goes:
the units that were encoded fit their width and are accepted, and what is left of the length and
the counter is found and reported. -/
theorem reads_kept {counter : Nat} (counter_lt : counter < 4096) (length : Nat)
    (register : HeaderRegister) :
    let units := layout.encode counter length
    let header := layout.fill register units
    let fields := layout.kept counter length
    units.length = layout.count ∧
      (∀ unit ∈ units, unit.toNat < 2 ^ layout.width) ∧
      layout.accepts header = true ∧
      layout.fields? units = some fields ∧
      ∃ decoded, layout.decode? header = some decoded ∧
        decoded.payloadItems = ceilDiv (8 * fields.length) layout.width ∧
        ([Metadata.payloadBitsKey, layout.lengthKey, layout.counterKey].Nodup →
          decoded.metadata.toList =
            [(Metadata.payloadBitsKey, .natural (8 * fields.length)),
              (layout.lengthKey, .natural fields.length)] ++
            fields.counter.toList.map fun counter => (layout.counterKey, .natural counter)) := by
  intro units header fields
  have whole := layout.length_encode counter length
  have narrow := layout.narrow_encode counter length
  have decoded : layout.fields? units = some fields :=
    layout.fields?_encode_eq_kept counter_lt length
  have read : layout.registerFields? header = some fields :=
    (layout.registerFields?_fill register whole narrow).trans decoded
  exact ⟨whole, narrow, congrArg Option.isSome read, decoded, layout.describe fields,
    congrArg (Option.map layout.describe) read, rfl, layout.entries_describe fields⟩

/-- Five units of five bits hold all of the length and ten bits of the counter. -/
theorem reads_kept_five_units :
    let layout : UnitLayout := {
      count := 5, width := 5, lengthKey := "length", counterKey := "number"
      sized := { count_pos := by decide, width_pos := by decide, width_le := by decide } }
    let used := HeaderRegister.empty.insertUnit 0xFF 8
    0xABC < 4096 ∧ ["payload bits", "length", "number"].Nodup ∧
      ∃ decoded, layout.decode? (layout.fill used [3, 9, 0, 28, 21]) = some decoded ∧
        decoded.metadata.toList =
          [("payload bits", .natural 2328), ("length", .natural 0x123),
            ("number", .natural 0x2BC)] := by
  intro layout used
  have distinct : ["payload bits", "length", "number"].Nodup := by decide
  have units : layout.encode 0xABC 0x5123 = [3, 9, 0, 28, 21] := by decide +kernel
  have fields : layout.kept 0xABC 0x5123 = { length := 0x123, counter := some 0x2BC } := by
    decide +kernel
  have small : 0xABC < 4096 := by decide
  have reads := layout.reads_kept small 0x5123 used
  rw [units, fields] at reads
  rcases reads with ⟨-, -, -, -, decoded, read, -, reported⟩
  exact ⟨small, distinct, decoded, read, reported distinct⟩

end UnitLayout

end PacketFraming
