import PacketFraming.Proofs.GuardedUnits

/-! Headers that are written and judged without a trap.

Everything that a codec does is told once more with the operations that may trap: the fields
written into a buffer of the header's size, and the fields read from a register, divided by what
a symbol carries. Each time, the outcome is that of the codec. -/

namespace PacketFraming

namespace Guarded

/-! ## Headers that are written -/

/-- The checksum of a length and a counter, which stays in the register. -/
def takeChecksum (codec : HeaderCodec) (length counter : Nat) :
    Guarded (UInt8 × HeaderCodec) := do
  let value ← checksumOf codec.checksum length counter
  return (value,
    { codec with
      checksum := { codec.checksum with value }
      prepared := { table := codec.prepared.table, initial := codec.prepared.initial } })

def writeUnits (codec : HeaderCodec) (mask : UInt8) (layout : UnitLayout) (length : Nat) :
    Guarded (List UInt8 × HeaderCodec) := do
  let length := length % twelveBits
  let (checksum, taken) ← takeChecksum codec length codec.packet
  let (units, index) ← putField layout mask 12 length (Array.replicate layout.count 0) 0 0
  let (units, index) ← putField layout mask 12 codec.packet units index 0
  let (units, _) ← putField layout mask 8 checksum.toNat units index 0
  return (units.toList, taken)

def writeCode (code : AccessCode) (buffer : FieldBuffer) : Guarded FieldBuffer :=
  fitting (buffer.addField .long .native code.byteCount code.word.toNat)

def write (codec : HeaderCodec) (tables : Tables) (length : Nat) :
    Guarded (Except LayoutError (List UInt8) × HeaderCodec) :=
  let buffer := FieldBuffer.ofSize codec.layout.headerBytes
  match codec.layout with
  | .plain layout =>
      match shortLength length with
      | .error cause => return (.error cause, codec)
      | .ok length => do
          let buffer ← writeCode layout.code buffer
          let buffer ← fitting (buffer.addWhole .short length)
          let buffer ← fitting (buffer.addWhole .short length)
          return (.ok buffer.bytes, codec)
  | .counter layout =>
      match shortLength length with
      | .error cause => return (.error cause, codec)
      | .ok length => do
          let buffer ← writeCode layout.code buffer
          let buffer ← fitting (buffer.addWhole .short length)
          let buffer ← fitting (buffer.addWhole .short length)
          let buffer ← fitting (buffer.addWhole .short layout.symbolBits)
          let buffer ← fitting (buffer.addWhole .short codec.packet)
          return (.ok buffer.bytes, codec)
  | .crc _ => do
      let length := length % twelveBits
      let (checksum, taken) ← takeChecksum codec length codec.packet
      let buffer ← fitting
        (buffer.addField .word .native 3 (codec.packet * twelveBits + length))
      let buffer ← fitting (buffer.addWhole .byte checksum.toNat)
      return (.ok buffer.bytes, taken)
  | .units layout => do
      let (units, taken) ← writeUnits codec tables.mask layout length
      let buffer ← fitting (buffer.append units)
      return (.ok buffer.bytes, taken)
  | .carriers layout => do
      let (units, taken) ← writeUnits codec tables.mask layout.units length
      let buffer ← fitting (buffer.append (units.zipWith (· ^^^ ·) tables.whitening))
      return (.ok buffer.bytes, taken)

def encode (codec : HeaderCodec) (tables : Tables) (length : Nat) (metadata : Metadata) :
    Guarded (Except LayoutError EncodedHeader × HeaderCodec) := do
  match ← write codec tables length with
  | (.ok bytes, codec) =>
      return (.ok { bytes, metadata := codec.encoder.record metadata },
        { codec with encoder := codec.encoder.next })
  | (.error cause, codec) => return (.error cause, codec)

section Writing

variable (codec : HeaderCodec)

theorem takeChecksum_eq_ok (length counter : Nat) :
    takeChecksum codec length counter = .ok (codec.takeChecksum length counter) := by
  rw [takeChecksum, checksumOf_eq_ok]
  rfl

theorem putField_start (layout : UnitLayout) {size : Nat} (size_le : size ≤ 32) (value : Nat)
    (written : List UInt8) :
    putField layout (lowestOnes layout.width) size value (fitted layout.count written).toArray
        (min written.length layout.count) 0 =
      .ok ((fitted layout.count (written ++ fieldUnits layout.width size value)).toArray,
        min (written ++ fieldUnits layout.width size value).length layout.count) := by
  have put := putField_eq_ok layout size_le value 0 written
  rw [Nat.zero_mul, unitsFrom_zero] at put
  exact put

theorem writeUnits_eq_ok (layout : UnitLayout) (length : Nat) :
    writeUnits codec (lowestOnes layout.width) layout length =
      .ok (codec.writeUnits layout length) := by
  have vacant : Array.replicate layout.count 0 = (fitted layout.count []).toArray := by
    simp [fitted]
  have first := putField_start layout (show 12 ≤ 32 by decide) (length % twelveBits) []
  rw [List.length_nil, Nat.zero_min, List.nil_append] at first
  simp only [writeUnits, takeChecksum_eq_ok, ok_bind, vacant, first,
    putField_start layout (show 12 ≤ 32 by decide),
    putField_start layout (show 8 ≤ 32 by decide)]
  rfl

theorem ofSize_eq_filled (size : Nat) : FieldBuffer.ofSize size = filled [] size := rfl

theorem bigEndian_one (byte : UInt8) : bigEndian 1 byte.toNat = [byte] := by
  simp [bigEndian]

theorem byteCount_le (code : AccessCode) : code.byteCount ≤ FieldType.long.width := by
  have length_le := code.length_le
  change code.length / 8 ≤ 8
  omega

theorem writeCode_filled (code : AccessCode) {room : Nat} (fits : code.byteCount ≤ room) :
    writeCode code (filled [] room) = .ok (filled code.bytes (room - code.byteCount)) :=
  addField_filled (byteCount_le code) fits code.word.toNat

theorem append_ofSize {raw : List UInt8} {size : Nat} (whole : raw.length = size) :
    fitting ((FieldBuffer.ofSize size).append raw) = .ok (filled raw 0) := by
  rw [ofSize_eq_filled, append_filled (Nat.le_of_eq whole), whole, Nat.sub_self]
  rfl

theorem write_eq_ok (length : Nat) :
    write codec codec.layout.tables length = .ok (codec.write length) := by
  unfold write HeaderCodec.write
  cases codec.layout with
  | plain layout =>
      dsimp only
      unfold PlainLayout.encode
      cases shortLength length with
      | error cause => rfl
      | ok length =>
          dsimp only
          rw [ofSize_eq_filled, Layout.headerBytes, writeCode_filled _ (Nat.le_add_right _ _),
            ok_bind, addWhole_filled, ok_bind, addWhole_filled, ok_bind, bytes_filled]
          · rfl
          all_goals
            simp only [FieldType.width]
            omega
  | counter layout =>
      dsimp only
      unfold CounterLayout.encode
      cases shortLength length with
      | error cause => rfl
      | ok length =>
          dsimp only
          rw [ofSize_eq_filled, Layout.headerBytes, writeCode_filled _ (Nat.le_add_right _ _),
            ok_bind, addWhole_filled, ok_bind, addWhole_filled, ok_bind, addWhole_filled,
            ok_bind, addWhole_filled, ok_bind, bytes_filled]
          · rfl
          all_goals
            simp only [FieldType.width]
            omega
  | crc layout =>
      dsimp only
      rw [takeChecksum_eq_ok, ok_bind, ofSize_eq_filled, Layout.headerBytes,
        addField_filled (by decide) (by decide), ok_bind, addWhole_filled (by decide), ok_bind,
        bytes_filled (show 4 - 3 - FieldType.byte.width = 0 from rfl), List.nil_append,
        show FieldType.byte.width = 1 from rfl, bigEndian_one]
      rfl
  | units layout =>
      have whole : (codec.writeUnits layout length).1.length = layout.count := by
        rw [codec.writeUnits_fst, layout.length_encode]
      dsimp only [Layout.tables, Layout.headerBytes]
      rw [writeUnits_eq_ok, ok_bind, append_ofSize whole, ok_bind, bytes_filled rfl]
      rfl
  | carriers layout =>
      have whole : (layout.whiten (codec.writeUnits layout.units length).1).length =
          layout.units.count := by
        rw [codec.writeUnits_fst]
        exact layout.length_encode codec.packet length
      dsimp only [Layout.tables, Layout.headerBytes]
      rw [writeUnits_eq_ok, ok_bind]
      change (fitting ((FieldBuffer.ofSize layout.units.count).append
        (layout.whiten (codec.writeUnits layout.units length).1)) >>= _) = _
      rw [append_ofSize whole, ok_bind, bytes_filled rfl]
      rfl

theorem encode_eq_ok (length : Nat) (metadata : Metadata) :
    encode codec codec.layout.tables length metadata = .ok (codec.encode length metadata) := by
  unfold encode HeaderCodec.encode
  rw [write_eq_ok, ok_bind]
  rcases codec.write length with ⟨_ | _, written⟩ <;> rfl

end Writing

/-! ## Headers that are judged -/

def unitsIn (layout : UnitLayout) (register : RawRegister) : Guarded (Option (List UInt8)) := do
  let values ← (List.range layout.count).mapM fun index =>
    register.reversedValue? (index * layout.width) layout.width
  return values.mapM fun value? => value?.map UInt8.ofNat

def unitFields (codec : HeaderCodec) (mask : UInt8) (layout : UnitLayout)
    (units? : Option (List UInt8)) : Guarded (Option UnitFields × HeaderCodec) :=
  match units? with
  | none => return (none, codec)
  | some units => do
      match ← readField layout mask 12 units 0 with
      | none => return (none, codec)
      | some (length, index) =>
          match ← readField layout mask 12 units index with
          | none => return (some { length, counter := none }, codec)
          | some (counter, index) =>
              let (checksum, taken) ← takeChecksum codec length counter
              let agreed ← agrees layout mask units checksum index 0
              return (if agreed then some { length, counter := some counter } else none, taken)

def readUnits (codec : HeaderCodec) (mask : UInt8) (layout : UnitLayout)
    (register : RawRegister) : Guarded (Option UnitFields × HeaderCodec) := do
  let units? ← unitsIn layout register
  unitFields codec mask layout units?

def readCarriers (codec : HeaderCodec) (tables : Tables) (layout : CarrierLayout)
    (register : RawRegister) : Guarded (Option UnitFields × HeaderCodec) := do
  let units? ← unitsIn layout.units register
  unitFields codec tables.mask layout.units
    (units?.map fun units => units.zipWith (· ^^^ ·) tables.whitening)

def crcFields (register : RawRegister) : Guarded (Option CrcFields) := do
  let counter? ← register.value? 0 12
  let length? ← register.value? 12 12
  let checksum? ← register.value? 24 8
  return do
    let counter ← counter?
    let length ← length?
    let checksum ← checksum?
    some { counter, length, checksum }

def accepts (codec : HeaderCodec) (tables : Tables) (register : RawRegister) :
    Guarded (Bool × HeaderCodec) :=
  match codec.layout with
  | .plain _ => do
      let first? ← register.value? 0 16
      let second? ← register.value? 16 16
      match first?, second? with
      | some first, some second => return (first == second, codec)
      | _, _ => return (false, codec)
  | .counter _ => do
      let first? ← register.value? 0 16
      let second? ← register.value? 16 16
      let symbolBits? ← register.value? 32 16
      match first?, second?, symbolBits? with
      | some first, some second, some symbolBits =>
          return (first == second && symbolBits != 0, codec)
      | _, _, _ => return (false, codec)
  | .crc _ => do
      match ← crcFields register with
      | some fields =>
          let (checksum, taken) ← takeChecksum codec fields.length fields.counter
          return (checksum.toNat == fields.checksum, taken)
      | none => return (false, codec)
  | .units layout => do
      let (fields?, taken) ← readUnits codec tables.mask layout register
      return (fields?.isSome, taken)
  | .carriers layout => do
      let (fields?, taken) ← readCarriers codec tables layout register
      return (fields?.isSome, taken)

def rowsUntil : (rows : List Nat) → (covered symbols : Nat) → Nat
  | [], _, _ => 0
  | row :: rest, covered, symbols =>
      if symbols ≤ covered then 0 else 1 + rowsUntil rest (covered + row) symbols

def frameLength (layout : CarrierLayout) (symbols : Nat) : Guarded Nat := do
  let passes ← quotient symbols layout.carriersPerPass
  return passes * layout.rows.length +
    rowsUntil layout.rows (passes * layout.carriersPerPass) symbols

def describeUnits (layout : UnitLayout) (fields : UnitFields) : Guarded DecodedHeader := do
  let payloadItems ← ceilQuotient (8 * fields.length) layout.width
  return { layout.describe fields with payloadItems }

def describeCarriers (layout : CarrierLayout) (fields : UnitFields) :
    Guarded DecodedHeader := do
  let inner ← describeUnits layout.units fields
  let symbols ← ceilQuotient (8 * fields.length) layout.symbolBits
  let frames ← frameLength layout symbols
  return {
    metadata :=
      (inner.metadata.insert layout.units.lengthKey (.natural symbols)).insert
        layout.frameLengthKey (.natural frames)
    payloadItems := symbols }

def describeCounted (length symbolBits counter : Nat) : Guarded DecodedHeader := do
  let symbols ← quotient (8 * length) (max symbolBits 1)
  return {
    metadata := .ofList [
      (Metadata.payloadBitsKey, .natural (8 * length)),
      (Metadata.payloadSymbolsKey, .natural symbols),
      (Metadata.symbolBitsKey, .natural symbolBits),
      (Metadata.counterKey, .natural counter)]
    payloadItems := symbols }

def describing (describe : UnitFields → Guarded DecodedHeader) (fields? : Option UnitFields) :
    Guarded (Option DecodedHeader) :=
  match fields? with
  | some fields => do
      let header ← describe fields
      return some header
  | none => return none

def decode? (codec : HeaderCodec) (tables : Tables) (register : RawRegister) :
    Guarded (Option DecodedHeader × HeaderCodec) :=
  match codec.layout with
  | .plain _ => do
      let length? ← register.value? 0 16
      return (length?.map fun length => {
        metadata := .ofList [(Metadata.payloadBitsKey, .natural (8 * length))]
        payloadItems := 8 * length }, codec)
  | .counter _ => do
      let length? ← register.value? 0 16
      let symbolBits? ← register.value? 32 16
      let counter? ← register.value? 48 16
      match length?, symbolBits?, counter? with
      | some length, some symbolBits, some counter =>
          let header ← describeCounted length symbolBits counter
          return (some header, codec)
      | _, _, _ => return (none, codec)
  | .crc layout => do
      let fields? ← crcFields register
      return (fields?.map fun fields => {
        metadata := .ofList [
          (Metadata.payloadBitsKey, .natural (8 * fields.length)),
          (layout.lengthKey, .natural (8 * fields.length)),
          (layout.counterKey, .natural fields.counter)]
        payloadItems := 8 * fields.length }, codec)
  | .units layout => do
      let (fields?, taken) ← readUnits codec tables.mask layout register
      let header? ← describing (describeUnits layout) fields?
      return (header?, taken)
  | .carriers layout => do
      let (fields?, taken) ← readCarriers codec tables layout register
      let header? ← describing (describeCarriers layout) fields?
      return (header?, taken)

def read? (codec : HeaderCodec) (tables : Tables) (register : RawRegister) :
    Guarded (Option DecodedHeader × HeaderCodec) := do
  match ← accepts codec tables register with
  | (true, codec) => decode? codec tables register
  | (false, codec) => return (none, codec)

section Judging

variable (codec : HeaderCodec) (register : HeaderRegister)

theorem unitsIn_eq_ok (layout : UnitLayout) :
    unitsIn layout register.raw = .ok (layout.units? register) := by
  unfold unitsIn UnitLayout.units?
  rw [mapM_eq_ok fun index _ => reversedValue?_eq_ok register (index * layout.width) layout.width,
    ok_bind, List.mapM_map]
  rfl

theorem drop_of_takeField {width size value : Nat} {units rest : List UInt8}
    (taken : takeField width size units = some (value, rest)) :
    units.drop (ceilDiv size width) = rest := by
  cases units with
  | nil => cases taken
  | cons unit others => exact (Prod.mk.inj (Option.some.inj taken)).2

theorem agrees_start (layout : UnitLayout) (units : List UInt8) (checksum : UInt8)
    (index : Nat) :
    agrees layout (lowestOnes layout.width) units checksum index 0 =
      .ok (UnitLayout.checksumAgrees layout.width (units.drop index) checksum) := by
  have compared := agrees_eq_ok layout units checksum index 0
  rw [Nat.zero_mul, unitsFrom_zero] at compared
  exact compared

theorem unitFields_eq_ok (layout : UnitLayout) (units? : Option (List UInt8)) :
    unitFields codec (lowestOnes layout.width) layout units? =
      .ok (codec.unitFields layout units?) := by
  cases units? with
  | none => rfl
  | some units =>
      have twelve : 12 < 16 := by decide
      unfold unitFields HeaderCodec.unitFields
      dsimp only
      rw [readField_eq_ok layout twelve, ok_bind, List.drop_zero, Option.bind_some]
      cases taken : takeField layout.width 12 units with
      | none => rfl
      | some field =>
          rcases field with ⟨length, rest⟩
          have behind : units.drop (behindField layout 12 units 0) = rest := by
            rw [drop_behindField, List.drop_zero]
            exact drop_of_takeField taken
          dsimp only [Option.map_some]
          rw [readField_eq_ok layout twelve, ok_bind, behind]
          cases takenNext : takeField layout.width 12 rest with
          | none => rfl
          | some next =>
              rcases next with ⟨counter, last⟩
              -- Both loops have read the same units, one by an index and one from the front.
              have ending : units.drop
                  (behindField layout 12 units (behindField layout 12 units 0)) = last := by
                rw [drop_behindField, behind]
                exact drop_of_takeField takenNext
              dsimp only [Option.map_some]
              rw [takeChecksum_eq_ok, ok_bind, agrees_start, ok_bind, ending]
              rfl

theorem readUnits_eq_ok (layout : UnitLayout) :
    readUnits codec (lowestOnes layout.width) layout register.raw =
      .ok (codec.readUnits layout register) := by
  rw [readUnits, unitsIn_eq_ok, ok_bind, unitFields_eq_ok]
  rfl

theorem readCarriers_eq_ok (layout : CarrierLayout) :
    readCarriers codec (Layout.carriers layout).tables layout register.raw =
      .ok (codec.readCarriers layout register) := by
  rw [readCarriers, unitsIn_eq_ok, ok_bind]
  exact unitFields_eq_ok codec layout.units _

theorem crcFields_eq_ok : crcFields register.raw = .ok (CrcLayout.fields? register) := by
  simp only [crcFields, value?_eq_ok, ok_bind, pure_eq_ok]
  rfl

theorem accepts_eq_ok :
    accepts codec codec.layout.tables register.raw = .ok (codec.accepts register) := by
  unfold accepts HeaderCodec.accepts
  cases codec.layout with
  | plain layout =>
      simp only [value?_eq_ok, ok_bind]
      unfold PlainLayout.accepts
      cases register.value? 0 16 with
      | none => rfl
      | some first => cases register.value? 16 16 <;> rfl
  | counter layout =>
      simp only [value?_eq_ok, ok_bind]
      unfold CounterLayout.accepts
      cases register.value? 0 16 with
      | none => rfl
      | some first =>
          cases register.value? 16 16 with
          | none => rfl
          | some second => cases register.value? 32 16 <;> rfl
  | crc layout =>
      dsimp only
      rw [crcFields_eq_ok, ok_bind]
      cases CrcLayout.fields? register with
      | none => rfl
      | some fields =>
          dsimp only
          rw [takeChecksum_eq_ok]
          rfl
  | units layout =>
      dsimp only [Layout.tables]
      rw [readUnits_eq_ok]
      rfl
  | carriers layout =>
      dsimp only
      rw [readCarriers_eq_ok]
      rfl

theorem rowsUntil_eq (rows : List Nat) (covered symbols : Nat) :
    rowsUntil rows covered symbols = rowsCovering rows (symbols - covered) := by
  induction rows generalizing covered with
  | nil => cases symbols - covered <;> rfl
  | cons row rest induction =>
      rw [rowsUntil]
      split
      · next reached =>
        rw [Nat.sub_eq_zero_of_le reached]
        rfl
      · next short =>
        rw [induction, ← Nat.sub_sub]
        have some : symbols - covered ≠ 0 := by omega
        rcases Nat.exists_eq_succ_of_ne_zero some with ⟨left, same⟩
        rw [same]
        rfl

theorem frameLength_eq_ok (layout : CarrierLayout) (symbols : Nat) :
    frameLength layout symbols = .ok (layout.frameLength symbols) := by
  have carriers : layout.carriersPerPass ≠ 0 := Nat.ne_of_gt layout.sized.carriers_pos
  have left : symbols - symbols / layout.carriersPerPass * layout.carriersPerPass =
      symbols % layout.carriersPerPass := by
    rw [Nat.mul_comm, ← Nat.mod_eq_sub_mul_div]
  rw [frameLength, quotient_eq_ok _ carriers, ok_bind, rowsUntil_eq, left]
  rfl

theorem describeUnits_eq_ok (layout : UnitLayout) (fields : UnitFields) :
    describeUnits layout fields = .ok (layout.describe fields) := by
  rw [describeUnits, ceilQuotient_eq_ok _ (Nat.ne_of_gt layout.width_pos)]
  rfl

theorem describeCarriers_eq_ok (layout : CarrierLayout) (fields : UnitFields) :
    describeCarriers layout fields = .ok (layout.describe fields) := by
  rw [describeCarriers, describeUnits_eq_ok, ok_bind,
    ceilQuotient_eq_ok _ (Nat.ne_of_gt layout.sized.symbolBits_pos), ok_bind, frameLength_eq_ok]
  rfl

theorem describing_eq_ok {describe : UnitFields → Guarded DecodedHeader}
    {header : UnitFields → DecodedHeader}
    (described : ∀ fields, describe fields = .ok (header fields)) (fields? : Option UnitFields) :
    describing describe fields? = .ok (fields?.map header) := by
  cases fields? with
  | none => rfl
  | some fields =>
      rw [describing, described]
      rfl

theorem decode?_eq_ok :
    decode? codec codec.layout.tables register.raw = .ok (codec.decode? register) := by
  unfold decode? HeaderCodec.decode?
  cases codec.layout with
  | plain layout =>
      simp only [value?_eq_ok, ok_bind]
      unfold PlainLayout.decode?
      cases register.value? 0 16 <;> rfl
  | counter layout =>
      simp only [value?_eq_ok, ok_bind]
      unfold CounterLayout.decode?
      cases register.value? 0 16 with
      | none => rfl
      | some length =>
          cases register.value? 32 16 with
          | none => rfl
          | some symbolBits =>
              cases register.value? 48 16 with
              | none => rfl
              | some counter =>
                  have some : max symbolBits 1 ≠ 0 := by omega
                  dsimp only
                  rw [describeCounted, quotient_eq_ok _ some]
                  rfl
  | crc layout =>
      dsimp only
      rw [crcFields_eq_ok, ok_bind]
      unfold CrcLayout.decode?
      cases CrcLayout.fields? register <;> rfl
  | units layout =>
      dsimp only [Layout.tables]
      rw [readUnits_eq_ok, ok_bind, describing_eq_ok (describeUnits_eq_ok layout)]
      rfl
  | carriers layout =>
      dsimp only
      rw [readCarriers_eq_ok, ok_bind, describing_eq_ok (describeCarriers_eq_ok layout)]
      rfl

theorem read?_eq_ok :
    read? codec codec.layout.tables register.raw = .ok (codec.read? register) := by
  have kept : (codec.accepts register).2.layout = codec.layout :=
    congrArg Encoder.layout (codec.encoder_accepts register)
  unfold read? HeaderCodec.read?
  rw [accepts_eq_ok, ok_bind, ← kept]
  rcases codec.accepts register with ⟨_ | _, judged⟩
  · rfl
  · exact decode?_eq_ok judged register

end Judging

end Guarded

end PacketFraming
