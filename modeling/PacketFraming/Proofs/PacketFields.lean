import PacketFraming.Proofs.AcceptedHeaders

/-! Where a header holds the length of a payload and the number of its packet.

A layout has room for the length once or twice, and for a counter if it counts. Where a header
is made of units, it may be too short for all bits of a field. -/

namespace PacketFraming

structure HeaderField where
  start : Nat
  width : Nat
deriving DecidableEq, Repr

/-- How the packets of a layout are counted: in which field, what the count wraps at, and under
which name it is reported. -/
structure PacketCount where
  field : HeaderField
  period : Nat
  key : String
deriving DecidableEq, Repr

theorem getElem?_bitsOfValue {width index : Nat} (inside : index < width) (value : Nat) :
    (bitsOfValue width value)[index]? = some (value.testBit (width - 1 - index)) := by
  rw [bitsOfValue, List.getElem?_map, List.getElem?_range inside]
  rfl

namespace Layout

/-! ## Fields -/

def lengthFields : Layout → List HeaderField
  | plain layout => [⟨layout.code.length, 16⟩, ⟨layout.code.length + 16, 16⟩]
  | counter layout => [⟨layout.code.length, 16⟩, ⟨layout.code.length + 16, 16⟩]
  | crc _ => [⟨12, 12⟩]
  | units _ => [⟨0, 12⟩]
  | carriers _ => [⟨0, 12⟩]

def packetCount? : Layout → Option PacketCount
  | plain _ => none
  | counter layout =>
      some {
        field := ⟨layout.code.length + 48, 16⟩
        period := 65536
        key := "counter" }
  | crc layout =>
      some {
        field := ⟨0, 12⟩
        period := 4096
        key := layout.counterKey }
  | units layout =>
      some {
        field := ⟨layout.fieldSpan, 12⟩
        period := 4096
        key := layout.counterKey }
  | carriers layout =>
      some {
        field := ⟨layout.units.fieldSpan, 12⟩
        period := 4096
        key := layout.units.counterKey }

/-- Payloads that a layout does not announce. -/
def Refuses (layout : Layout) (length : Nat) : Prop :=
  match layout with
  | plain _ => 65535 < length
  | counter _ => 65535 < length
  | _ => False

instance (layout : Layout) (length : Nat) : Decidable (layout.Refuses length) :=
  match layout with
  | plain _ | counter _ => inferInstanceAs (Decidable (65535 < length))
  | crc _ | units _ | carriers _ => inferInstanceAs (Decidable False)

def announcedLength (layout : Layout) (length : Nat) : Nat :=
  match layout with
  | plain _ => length
  | counter _ => length
  | _ => length % 4096

def plainBits (layout : Layout) (bytes : List UInt8) : List Bool :=
  match layout with
  | carriers layout => (layout.whiten bytes).flatMap (unitBits layout.units.width)
  | _ => layout.sentBits bytes

/-- A header in which a field holds a value, as far as there is room for it. The highest bit of a
field comes first, and the lowest one where a header is made of units. -/
structure Holds (layout : Layout) (bytes : List UInt8) (field : HeaderField)
    (value : Nat) : Prop where
  small : value < 2 ^ field.width
  bits : ∀ index < field.width, field.start + index < layout.headerBits →
    (layout.plainBits bytes)[field.start + index]? =
      some (value.testBit (if layout.carriesUnits then index else field.width - 1 - index))

/-- A header that holds a length in each of its length fields, and the number of its packet. -/
structure HoldsAll (layout : Layout) (bytes : List UInt8) (length packet : Nat) : Prop where
  lengths : ∀ field ∈ layout.lengthFields, layout.Holds bytes field length
  counter : ∀ count, layout.packetCount? = some count → layout.Holds bytes count.field packet

/-! ## Headers as they are encoded -/

section Encoded

variable {layout : Layout} {packet length : Nat} {bytes : List UInt8}

theorem encode_of_refuses (refuses : layout.Refuses length) (packet : Nat) :
    layout.encode packet length = .error (.payloadTooLarge length) := by
  have refused (long : 65535 < length) : shortLength length = .error (.payloadTooLarge length) :=
    if_neg (Nat.not_le_of_lt long)
  cases layout with
  | plain layout =>
      rw [encode, PlainLayout.encode, refused refuses]
      rfl
  | counter layout =>
      rw [encode, CounterLayout.encode, refused refuses]
      rfl
  | crc | units | carriers => exact absurd refuses id

theorem exists_encode (announced : ¬layout.Refuses length) (packet : Nat) :
    ∃ bytes, layout.encode packet length = .ok bytes := by
  have taken (short : ¬65535 < length) : shortLength length = .ok length :=
    if_pos (Nat.le_of_not_lt short)
  cases layout with
  | plain layout =>
      rw [encode, PlainLayout.encode, taken announced]
      exact ⟨_, rfl⟩
  | counter layout =>
      rw [encode, CounterLayout.encode, taken announced]
      exact ⟨_, rfl⟩
  | crc | units | carriers => exact ⟨_, rfl⟩

theorem length_encode (encoded : layout.encode packet length = .ok bytes) :
    bytes.length = layout.headerBytes := by
  cases layout with
  | plain layout =>
      rw [encode, PlainLayout.encode, shortLength] at encoded
      split at encoded
      · obtain rfl := Except.ok.inj encoded
        simp only [List.length_append, length_bigEndian, AccessCode.length_bytes, headerBytes]
      · cases encoded
  | counter layout =>
      rw [encode, CounterLayout.encode, shortLength] at encoded
      split at encoded
      · obtain rfl := Except.ok.inj encoded
        simp only [List.length_append, length_bigEndian, AccessCode.length_bytes, headerBytes]
      · cases encoded
  | crc layout =>
      obtain rfl := Except.ok.inj encoded
      rw [CrcLayout.encode, List.length_append, length_bigEndian]
      rfl
  | units layout =>
      obtain rfl := Except.ok.inj encoded
      exact layout.length_encode packet length
  | carriers layout =>
      obtain rfl := Except.ok.inj encoded
      exact layout.length_encode packet length

theorem holds_of_parts (single : layout.carriesUnits = false) {field : HeaderField} {value : Nat}
    (small : value < 2 ^ field.width) (front back : List Bool)
    (parts : layout.plainBits bytes = front ++ bitsOfValue field.width value ++ back)
    (place : front.length = field.start) : layout.Holds bytes field value where
  small := small
  bits := by
    intro index inside _
    rw [parts, ← place, List.append_assoc, List.getElem?_append_right (Nat.le_add_right _ _),
      Nat.add_sub_cancel_left, List.getElem?_append_left (by rwa [length_bitsOfValue]),
      getElem?_bitsOfValue inside, single]
    rfl

theorem holdsAll_of_counted {count : PacketCount} (counted : layout.packetCount? = some count)
    (lengths : ∀ field ∈ layout.lengthFields, layout.Holds bytes field length)
    (holds : layout.Holds bytes count.field packet) : layout.HoldsAll bytes length packet where
  lengths := lengths
  counter := by
    intro other same
    obtain rfl := Option.some.inj (counted.symm.trans same)
    exact holds

theorem holdsAll_plain {layout : PlainLayout} (small : length < 2 ^ 16)
    (sent : (plain layout).plainBits bytes =
      layout.code.bits ++ bitsOfValue 16 length ++ bitsOfValue 16 length) :
    (plain layout).HoldsAll bytes length packet where
  lengths := by
    rw [lengthFields, List.forall_mem_cons, List.forall_mem_singleton]
    constructor
    · exact holds_of_parts rfl small layout.code.bits _ sent layout.code.length_bits
    · apply holds_of_parts rfl small (layout.code.bits ++ bitsOfValue 16 length) []
      · exact sent.trans (List.append_nil _).symm
      · rw [List.length_append, layout.code.length_bits, length_bitsOfValue]
  counter := fun count counted => absurd counted.symm (Option.some_ne_none _)

theorem holdsAll_counter {layout : CounterLayout} (small : length < 2 ^ 16)
    (packet_lt : packet < 2 ^ 16)
    (sent : (counter layout).plainBits bytes = layout.code.bits ++ bitsOfValue 16 length ++
      bitsOfValue 16 length ++ bitsOfValue 16 layout.symbolBits ++ bitsOfValue 16 packet) :
    (counter layout).HoldsAll bytes length packet := by
  apply holdsAll_of_counted rfl
  · rw [lengthFields, List.forall_mem_cons, List.forall_mem_singleton]
    constructor
    · apply holds_of_parts rfl small layout.code.bits
        (bitsOfValue 16 length ++ (bitsOfValue 16 layout.symbolBits ++ bitsOfValue 16 packet))
      · rw [sent]
        simp only [List.append_assoc]
      · exact layout.code.length_bits
    · apply holds_of_parts rfl small (layout.code.bits ++ bitsOfValue 16 length)
        (bitsOfValue 16 layout.symbolBits ++ bitsOfValue 16 packet)
      · rw [sent]
        simp only [List.append_assoc]
      · rw [List.length_append, layout.code.length_bits, length_bitsOfValue]
  · refine holds_of_parts rfl packet_lt _ [] (sent.trans (List.append_nil _).symm) ?_
    simp only [List.length_append, layout.code.length_bits, length_bitsOfValue]

theorem holdsAll_crc {layout : CrcLayout} (small : length < 2 ^ 12) (packet_lt : packet < 2 ^ 12)
    {checksum : List Bool} (sent : (crc layout).plainBits bytes =
      bitsOfValue 12 packet ++ bitsOfValue 12 length ++ checksum) :
    (crc layout).HoldsAll bytes length packet := by
  apply holdsAll_of_counted rfl
  · rw [lengthFields, List.forall_mem_singleton]
    exact holds_of_parts rfl small (bitsOfValue 12 packet) checksum sent
      (length_bitsOfValue 12 packet)
  · exact holds_of_parts rfl packet_lt [] _ (sent.trans (List.append_assoc _ _ _)) rfl

theorem holds_of_units (carried : layout.carriesUnits = true) {inner : UnitLayout}
    (whole : layout.headerBits = inner.bodyBits)
    (plain : layout.plainBits bytes =
      (inner.encode packet length).flatMap (unitBits inner.width))
    (packet_lt : packet < 4096) :
    layout.Holds bytes ⟨0, 12⟩ (length % 4096) ∧
      layout.Holds bytes ⟨inner.fieldSpan, 12⟩ packet := by
  have reach := inner.twelve_le_fieldSpan
  constructor
  · refine { small := Nat.mod_lt _ (by decide), bits := ?_ }
    intro index inside room
    change index < 12 at inside
    rw [Nat.zero_add] at room ⊢
    rw [plain, carried, inner.getElem?_encode packet length (whole ▸ room) (by omega),
      inner.getElem?_fieldRow_length packet length (by omega)]
    rfl
  · refine { small := packet_lt, bits := ?_ }
    intro index inside room
    change index < 12 at inside
    change inner.fieldSpan + index < layout.headerBits at room
    change (layout.plainBits bytes)[inner.fieldSpan + index]? = _
    rw [plain, carried, inner.getElem?_encode packet length (whole ▸ room) (by omega),
      inner.getElem?_fieldRow_counter packet length (by omega)]
    rfl

/-- A header announces the payload's length in each of its length fields, and holds the number of
its packet. -/
theorem holdsAll_encode (encoded : layout.encode packet length = .ok bytes)
    (packet_lt : ∀ count, layout.packetCount? = some count → packet < count.period) :
    layout.HoldsAll bytes (layout.announcedLength length) packet := by
  have sent := sentBits_encode encoded
  have announced : ¬layout.Refuses length := by
    intro refuses
    rw [encode_of_refuses refuses] at encoded
    cases encoded
  cases layout with
  | plain layout =>
      rw [fieldBits_plain, ← List.append_assoc] at sent
      exact holdsAll_plain (Nat.lt_succ_of_le (Nat.le_of_not_lt announced)) sent
  | counter layout =>
      rw [fieldBits_counter, ← List.append_assoc, ← List.append_assoc,
        ← List.append_assoc] at sent
      exact holdsAll_counter (Nat.lt_succ_of_le (Nat.le_of_not_lt announced)) (packet_lt _ rfl) sent
  | crc layout =>
      have length_lt : length % twelveBits < twelveBits := Nat.mod_lt _ (by decide)
      apply holdsAll_crc length_lt (packet_lt _ rfl)
      obtain rfl := Except.ok.inj encoded
      rw [← CrcLayout.bitsOfBytes_encode length_lt, CrcLayout.encode, CrcLayout.encode,
        Nat.mod_mod]
      rfl
  | units layout =>
      obtain rfl := Except.ok.inj encoded
      have plain : (units layout).plainBits (layout.encode packet length) =
          (layout.encode packet length).flatMap (unitBits layout.width) := rfl
      have holds := holds_of_units rfl (Nat.zero_add _) plain (packet_lt _ rfl)
      exact holdsAll_of_counted rfl (List.forall_mem_singleton.mpr holds.1) holds.2
  | carriers layout =>
      obtain rfl := Except.ok.inj encoded
      have plain : (carriers layout).plainBits (layout.encode packet length) =
          (layout.units.encode packet length).flatMap (unitBits layout.units.width) :=
        congrArg (List.flatMap (unitBits layout.units.width))
          (layout.whiten_whiten (layout.units.length_encode packet length))
      have holds := holds_of_units rfl (Nat.zero_add _) plain (packet_lt _ rfl)
      exact holdsAll_of_counted rfl (List.forall_mem_singleton.mpr holds.1) holds.2

end Encoded

end Layout

end PacketFraming
