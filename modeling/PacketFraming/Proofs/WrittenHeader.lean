import PacketFraming.Proofs.UnitRoundTrip
import PacketFraming.Stream.Reader
import PacketFraming.Stream.Writer

/-! Headers as they are written, for all layouts. -/

namespace PacketFraming

namespace Layout

/-- Every byte of a payload is a whole number of payload items, and the length is in every
header. -/
def CarriesBytes : Layout → Prop
  | plain _ => True
  | counter layout => layout.symbolBits = 1
  | crc _ => True
  | units layout => layout.width = 8 ∧ 2 ≤ layout.count
  | carriers layout => layout.symbolBits = 8 ∧ ceilDiv 12 layout.units.width ≤ layout.units.count

def maxLength : Layout → Nat
  | plain _ => maxShortLength
  | counter _ => maxShortLength
  | _ => 4095

def DefaultKeys : Layout → Prop
  | plain _ => True
  | counter _ => True
  | crc layout =>
      layout.lengthKey = Metadata.payloadBitsKey ∧ layout.counterKey = Metadata.counterKey
  | units layout =>
      layout.lengthKey = Metadata.packetLengthKey ∧
        layout.counterKey = Metadata.packetNumberKey
  | carriers layout =>
      layout.units.lengthKey = Metadata.packetLengthKey ∧
        layout.units.counterKey = Metadata.packetNumberKey ∧
        layout.frameLengthKey = Metadata.frameLengthKey

/-- The bytes of `body` are read as a header for a payload of `length` bytes. -/
structure Announces (layout : Layout) (length : Nat) (body : List UInt8)
    (header : DecodedHeader) : Prop where
  whole : (FrameReader.itemsOfBytes layout body).length = layout.bodyItems
  accepted : layout.readItems? (FrameReader.itemsOfBytes layout body) = some header
  payloadItems : ∀ payload : List UInt8, payload.length = length →
    (FrameReader.itemsOfBytes layout payload).length = header.payloadItems
  reported : layout.DefaultKeys →
    header.metadata.get? Metadata.payloadBitsKey = some (.natural (8 * length))

theorem itemsOfBytes_of_bits {layout : Layout} (single : layout.unitWidth? = none)
    (bytes : List UInt8) : FrameReader.itemsOfBytes layout bytes = unpackBits bytes := by
  rw [FrameReader.itemsOfBytes, carriesUnits, single]
  rfl

theorem itemsOfBytes_of_units {layout : Layout} {width : Nat}
    (carried : layout.unitWidth? = some width) (bytes : List UInt8) :
    FrameReader.itemsOfBytes layout bytes = bytes := by
  rw [FrameReader.itemsOfBytes, carriesUnits, carried]
  rfl

theorem bodyItems_of_bits {layout : Layout} (single : layout.unitWidth? = none) :
    layout.bodyItems = layout.bodyBits := by
  have product := layout.bodyItems_mul_bitsPerItem
  rw [bitsPerItem, single, Option.getD_none, Nat.mul_one] at product
  exact product

theorem bodyItems_units (layout : UnitLayout) : (units layout).bodyItems = layout.count :=
  Nat.eq_of_mul_eq_mul_right layout.width_pos (bodyItems_mul_bitsPerItem (units layout))

theorem bodyItems_carriers (layout : CarrierLayout) :
    (carriers layout).bodyItems = layout.units.count :=
  Nat.eq_of_mul_eq_mul_right layout.units.width_pos
    (bodyItems_mul_bitsPerItem (carriers layout))

theorem announces_of_bits {layout : Layout} (single : layout.unitWidth? = none) {length : Nat}
    {body : List UInt8} {header : DecodedHeader} (whole : 8 * body.length = layout.bodyBits)
    (accepted : layout.readItems? (unpackBits body) = some header)
    (payloadItems : header.payloadItems = 8 * length)
    (reported : layout.DefaultKeys →
      header.metadata.get? Metadata.payloadBitsKey = some (.natural (8 * length))) :
    layout.Announces length body header where
  whole := by
    rw [itemsOfBytes_of_bits single, length_unpackBits, whole, bodyItems_of_bits single]
  accepted := by
    rw [itemsOfBytes_of_bits single, accepted]
  payloadItems := by
    rintro payload rfl
    rw [itemsOfBytes_of_bits single, length_unpackBits, payloadItems]
  reported := reported

theorem announces_of_units {layout : Layout} {width : Nat}
    (carried : layout.unitWidth? = some width) {length : Nat} {body : List UInt8}
    {header : DecodedHeader} (whole : body.length = layout.bodyItems)
    (accepted : layout.readItems? body = some header) (payloadItems : header.payloadItems = length)
    (reported : layout.DefaultKeys →
      header.metadata.get? Metadata.payloadBitsKey = some (.natural (8 * length))) :
    layout.Announces length body header where
  whole := by
    rw [itemsOfBytes_of_units carried, whole]
  accepted := by
    rw [itemsOfBytes_of_units carried, accepted]
  payloadItems := by
    rintro payload rfl
    rw [itemsOfBytes_of_units carried, payloadItems]
  reported := reported

end Layout

/-! ## One layout after the other -/

namespace PlainLayout

theorem announces (layout : PlainLayout) {length : Nat} (fits : length ≤ maxShortLength) :
    (Layout.plain layout).Announces length (bigEndian 2 length ++ bigEndian 2 length)
      (header length) := by
  refine Layout.announces_of_bits rfl ?_ (layout.readItems?_encode fits) rfl ?_
  · rw [List.length_append, length_bigEndian]
    rfl
  · intro _
    rfl

end PlainLayout

namespace CounterLayout

theorem announces (layout : CounterLayout) (single : layout.symbolBits = 1)
    {counter length : Nat} (fits : length ≤ maxShortLength) (counter_lt : counter < 65536) :
    (Layout.counter layout).Announces length
      (bigEndian 2 length ++ bigEndian 2 length ++ bigEndian 2 layout.symbolBits ++
        bigEndian 2 counter)
      (header layout.symbolBits counter length) := by
  refine Layout.announces_of_bits rfl ?_ (layout.readItems?_encode fits counter_lt) ?_ ?_
  · simp only [List.length_append, length_bigEndian]
    rfl
  · rw [header, single]
    exact Nat.div_one _
  · intro _
    rfl

end CounterLayout

namespace CrcLayout

theorem announces (layout : CrcLayout) {counter length : Nat} (fits : length < twelveBits)
    (counter_lt : counter < twelveBits) :
    (Layout.crc layout).Announces length (encode counter length)
      (layout.header counter length) := by
  refine Layout.announces_of_bits rfl ?_ (layout.readItems?_encode fits counter_lt) rfl ?_
  · rw [encode, List.length_append, length_bigEndian]
    rfl
  · rintro ⟨lengthKey, counterKey⟩
    rw [header, lengthKey, counterKey]
    rfl

end CrcLayout

namespace UnitLayout

theorem announces (layout : UnitLayout) (whole : layout.width = 8) (room : 2 ≤ layout.count)
    {counter length : Nat} (fits : length < twelveBits) (counter_lt : counter < twelveBits) :
    ∃ header, (Layout.units layout).Announces length (layout.encode counter length) header := by
  have enough : ceilDiv 12 layout.width ≤ layout.count := by
    rw [whole]
    exact room
  rcases layout.readItems?_encode enough fits counter_lt with ⟨counter?, accepted⟩
  refine ⟨layout.describe { length, counter := counter? },
    Layout.announces_of_units rfl ?_ accepted ?_ ?_⟩
  · rw [length_encode, Layout.bodyItems_units]
  · rw [describe, whole, ceilDiv_mul_self _ (by decide)]
  · rintro ⟨lengthKey, counterKey⟩
    cases counter? with
    | none =>
        rw [describe, lengthKey]
        rfl
    | some counter =>
        rw [describe, lengthKey, counterKey]
        rfl

end UnitLayout

namespace CarrierLayout

theorem announces (layout : CarrierLayout) (whole : layout.symbolBits = 8)
    (room : ceilDiv 12 layout.units.width ≤ layout.units.count) {counter length : Nat}
    (fits : length < twelveBits) (counter_lt : counter < twelveBits) :
    ∃ header,
      (Layout.carriers layout).Announces length (layout.encode counter length) header := by
  rcases layout.readItems?_encode room fits counter_lt with ⟨counter?, accepted⟩
  refine ⟨layout.describe { length, counter := counter? },
    Layout.announces_of_units rfl ?_ accepted ?_ ?_⟩
  · rw [length_encode, Layout.bodyItems_carriers]
  · rw [describe, whole, ceilDiv_mul_self _ (by decide)]
  · rintro ⟨lengthKey, counterKey, frameLengthKey⟩
    cases counter? with
    | none =>
        rw [describe, UnitLayout.describe, lengthKey, frameLengthKey]
        rfl
    | some counter =>
        rw [describe, UnitLayout.describe, lengthKey, counterKey, frameLengthKey]
        rfl

end CarrierLayout

/-! ## All layouts -/

def Encoder.InPeriod (encoder : Encoder) : Prop :=
  ∀ period key, encoder.layout.counting? = some (period, key) → encoder.packet < period

/-- A header begins with the access code, and the rest of it announces the payload. -/
theorem Layout.encode_announces (layout : Layout) (carries : layout.CarriesBytes)
    {packet length : Nat} (fits : length ≤ layout.maxLength)
    (packet_lt : ∀ period key, layout.counting? = some (period, key) → packet < period) :
    ∃ body header, layout.encode packet length = .ok (layout.accessCode.bytes ++ body) ∧
      layout.Announces length body header := by
  have codeless (body : List UInt8) :
      Except.ok (ε := LayoutError) body = .ok (AccessCode.empty.bytes ++ body) :=
    congrArg Except.ok (List.nil_append body).symm
  cases layout with
  | plain layout =>
      have short : length ≤ maxShortLength := fits
      refine ⟨_, _, ?_, layout.announces short⟩
      rw [encode, PlainLayout.encode, shortLength, if_pos short]
      exact congrArg Except.ok (List.append_assoc _ _ _)
  | counter layout =>
      have short : length ≤ maxShortLength := fits
      refine ⟨_, _, ?_, layout.announces carries short (packet_lt _ _ rfl)⟩
      rw [encode, CounterLayout.encode, shortLength, if_pos short]
      change Except.ok (layout.code.bytes ++ _ ++ _ ++ _ ++ _) = Except.ok (layout.code.bytes ++ _)
      simp only [List.append_assoc]
  | crc layout =>
      have small : length < twelveBits := Nat.lt_succ_of_le fits
      exact ⟨_, _, codeless _, layout.announces small (packet_lt _ _ rfl)⟩
  | units layout =>
      have small : length < twelveBits := Nat.lt_succ_of_le fits
      rcases layout.announces carries.1 carries.2 small (packet_lt _ _ rfl) with
        ⟨header, announces⟩
      exact ⟨_, header, codeless _, announces⟩
  | carriers layout =>
      have small : length < twelveBits := Nat.lt_succ_of_le fits
      rcases layout.announces carries.1 carries.2 small (packet_lt _ _ rfl) with
        ⟨header, announces⟩
      exact ⟨_, header, codeless _, announces⟩

end PacketFraming
