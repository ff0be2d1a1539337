import PacketFraming.Transceiver.Encoder

/-! Headers written and judged with one checksum register.

A layout takes the checksum of a header that it writes and of a header that it judges in the same
register, and neither cleans up behind itself: each finds there what the last one has left. That
does no harm, because a checksum is always started over. -/

namespace PacketFraming

/-- A register with the table and the initial value of the header checksum, and any value. -/
structure Crc8.Prepared (register : Crc8) : Prop where
  table : register.table = Crc8.header.table
  initial : register.initial = Crc8.header.initial

theorem Crc8.Prepared.value_headerChecksum {register : Crc8} (prepared : register.Prepared)
    (length counter : Nat) :
    (register.headerChecksum length counter).value = headerCrc length counter := by
  rcases register with ⟨table, initial, value⟩
  rcases prepared with ⟨sameTable, sameInitial⟩
  change table = Crc8.header.table at sameTable
  change initial = Crc8.header.initial at sameInitial
  rw [sameTable, sameInitial]
  rfl

/-- An encoder with the checksum register that it shares with the receiving side. -/
structure HeaderCodec where
  encoder : Encoder
  checksum : Crc8
  prepared : checksum.Prepared

namespace HeaderCodec

def ofLayout (layout : Layout) : HeaderCodec where
  encoder := .ofLayout layout
  checksum := .header
  prepared := { table := rfl, initial := rfl }

def layout (codec : HeaderCodec) : Layout :=
  codec.encoder.layout

def packet (codec : HeaderCodec) : Nat :=
  codec.encoder.packet

/-- The checksum of a length and a counter, which stays in the register. -/
def takeChecksum (codec : HeaderCodec) (length counter : Nat) : UInt8 × HeaderCodec :=
  let checksum := codec.checksum.headerChecksum length counter
  (checksum.value,
    { codec with
      checksum
      prepared := { table := codec.prepared.table, initial := codec.prepared.initial } })

/-! ## Writing -/

def writeUnits (codec : HeaderCodec) (layout : UnitLayout) (length : Nat) :
    List UInt8 × HeaderCodec :=
  let length := length % twelveBits
  let taken := codec.takeChecksum length codec.packet
  (fitted layout.count
    (fieldUnits layout.width 12 length ++ fieldUnits layout.width 12 codec.packet ++
      fieldUnits layout.width 8 taken.1.toNat),
    taken.2)

/-- The bytes of the next header. -/
def write (codec : HeaderCodec) (length : Nat) :
    Except LayoutError (List UInt8) × HeaderCodec :=
  match codec.layout with
  | .plain layout => (layout.encode length, codec)
  | .counter layout => (layout.encode codec.packet length, codec)
  | .crc _ =>
      let length := length % twelveBits
      let taken := codec.takeChecksum length codec.packet
      (.ok (bigEndian 3 (codec.packet * twelveBits + length) ++ [taken.1]), taken.2)
  | .units layout =>
      let written := codec.writeUnits layout length
      (.ok written.1, written.2)
  | .carriers layout =>
      let written := codec.writeUnits layout.units length
      (.ok (layout.whiten written.1), written.2)

/-- The header for a payload of `length` bytes. A payload that is refused does not count. -/
def encode (codec : HeaderCodec) (length : Nat) (metadata : Metadata) :
    Except LayoutError EncodedHeader × HeaderCodec :=
  match codec.write length with
  | (.ok bytes, codec) =>
      (.ok { bytes, metadata := codec.encoder.record metadata },
        { codec with encoder := codec.encoder.next })
  | (.error cause, codec) => (.error cause, codec)

/-! ## Judging -/

/-- The fields of units, if there are any units. -/
def unitFields (codec : HeaderCodec) (layout : UnitLayout) (units? : Option (List UInt8)) :
    Option UnitFields × HeaderCodec :=
  match units?.bind (takeField layout.width 12) with
  | none => (none, codec)
  | some (length, rest) =>
      match takeField layout.width 12 rest with
      | none => (some { length, counter := none }, codec)
      | some (counter, rest) =>
          let taken := codec.takeChecksum length counter
          (if UnitLayout.checksumAgrees layout.width rest taken.1 then
              some { length, counter := some counter }
            else none,
            taken.2)

def readUnits (codec : HeaderCodec) (layout : UnitLayout) (register : HeaderRegister) :
    Option UnitFields × HeaderCodec :=
  codec.unitFields layout (layout.units? register)

def readCarriers (codec : HeaderCodec) (layout : CarrierLayout) (register : HeaderRegister) :
    Option UnitFields × HeaderCodec :=
  codec.unitFields layout.units ((layout.units.units? register).map layout.whiten)

def accepts (codec : HeaderCodec) (register : HeaderRegister) : Bool × HeaderCodec :=
  match codec.layout with
  | .plain _ => (PlainLayout.accepts register, codec)
  | .counter _ => (CounterLayout.accepts register, codec)
  | .crc _ =>
      match CrcLayout.fields? register with
      | some fields =>
          let taken := codec.takeChecksum fields.length fields.counter
          (taken.1.toNat == fields.checksum, taken.2)
      | none => (false, codec)
  | .units layout => (codec.readUnits layout register).map Option.isSome id
  | .carriers layout => (codec.readCarriers layout register).map Option.isSome id

/-- What a header says. The checksum of units is taken once more on the way. -/
def decode? (codec : HeaderCodec) (register : HeaderRegister) :
    Option DecodedHeader × HeaderCodec :=
  match codec.layout with
  | .plain _ => (PlainLayout.decode? register, codec)
  | .counter _ => (CounterLayout.decode? register, codec)
  | .crc layout => (layout.decode? register, codec)
  | .units layout => (codec.readUnits layout register).map (Option.map layout.describe) id
  | .carriers layout => (codec.readCarriers layout register).map (Option.map layout.describe) id

def read? (codec : HeaderCodec) (register : HeaderRegister) :
    Option DecodedHeader × HeaderCodec :=
  match codec.accepts register with
  | (true, codec) => codec.decode? register
  | (false, codec) => (none, codec)

/-! ## What the checksum register does not change -/

variable (codec : HeaderCodec)

@[simp] theorem takeChecksum_fst (length counter : Nat) :
    (codec.takeChecksum length counter).1 = headerCrc length counter :=
  codec.prepared.value_headerChecksum length counter

theorem writeUnits_fst (layout : UnitLayout) (length : Nat) :
    (codec.writeUnits layout length).1 = layout.encode codec.packet length := by
  unfold writeUnits
  dsimp only
  rw [takeChecksum_fst]
  rfl

theorem write_fst (length : Nat) :
    (codec.write length).1 = codec.layout.encode codec.packet length := by
  unfold write
  cases codec.layout with
  | plain layout => rfl
  | counter layout => rfl
  | crc layout =>
      dsimp only
      rw [takeChecksum_fst]
      rfl
  | units layout => exact congrArg _ (codec.writeUnits_fst layout length)
  | carriers layout =>
      dsimp only
      rw [writeUnits_fst]
      rfl

theorem encoder_write (length : Nat) : (codec.write length).2.encoder = codec.encoder := by
  unfold write
  split <;> rfl

/-- Whatever is in the checksum register, headers are written as by the encoder alone. -/
theorem encode_eq (length : Nat) (metadata : Metadata) :
    (codec.encode length metadata).map id HeaderCodec.encoder =
      codec.encoder.encode length metadata := by
  have bytes := codec.write_fst length
  have kept := codec.encoder_write length
  unfold encode Encoder.encode
  change _ = codec.encoder.layout.encode codec.encoder.packet length at bytes
  rw [← bytes, ← kept]
  rcases codec.write length with ⟨_ | _, written⟩ <;> rfl

theorem unitFields_fst (layout : UnitLayout) (units? : Option (List UInt8)) :
    (codec.unitFields layout units?).1 = units?.bind layout.fields? := by
  rcases units? with _ | units
  · rfl
  · unfold unitFields UnitLayout.fields?
    simp only [Option.bind_some, Option.bind_eq_bind]
    rcases takeField layout.width 12 units with _ | ⟨length, rest⟩
    · rfl
    · simp only [Option.bind_some]
      rcases takeField layout.width 12 rest with _ | ⟨counter, rest⟩
      · rfl
      · simp only [takeChecksum_fst]

theorem encoder_unitFields (layout : UnitLayout) (units? : Option (List UInt8)) :
    (codec.unitFields layout units?).2.encoder = codec.encoder := by
  unfold unitFields
  split
  · rfl
  · split <;> rfl

theorem readUnits_fst (layout : UnitLayout) (register : HeaderRegister) :
    (codec.readUnits layout register).1 = layout.registerFields? register :=
  codec.unitFields_fst layout _

theorem readCarriers_fst (layout : CarrierLayout) (register : HeaderRegister) :
    (codec.readCarriers layout register).1 = layout.registerFields? register := by
  unfold readCarriers CarrierLayout.registerFields?
  rw [unitFields_fst, Option.bind_map]
  rfl

theorem accepts_fst (register : HeaderRegister) :
    (codec.accepts register).1 = codec.layout.accepts register := by
  unfold accepts Layout.accepts
  cases codec.layout with
  | plain layout => rfl
  | counter layout => rfl
  | crc layout =>
      unfold CrcLayout.accepts
      rcases CrcLayout.fields? register with _ | fields
      · rfl
      · exact congrArg (·.toNat == fields.checksum) (codec.takeChecksum_fst _ _)
  | units layout => exact congrArg Option.isSome (codec.readUnits_fst layout register)
  | carriers layout => exact congrArg Option.isSome (codec.readCarriers_fst layout register)

theorem encoder_accepts (register : HeaderRegister) :
    (codec.accepts register).2.encoder = codec.encoder := by
  unfold accepts
  cases codec.layout with
  | plain layout => rfl
  | counter layout => rfl
  | crc layout =>
      dsimp only
      split <;> rfl
  | units layout => exact codec.encoder_unitFields _ _
  | carriers layout => exact codec.encoder_unitFields _ _

theorem decode?_fst (register : HeaderRegister) :
    (codec.decode? register).1 = codec.layout.decode? register := by
  unfold decode? Layout.decode?
  cases codec.layout with
  | plain layout => rfl
  | counter layout => rfl
  | crc layout => rfl
  | units layout =>
      exact congrArg (Option.map layout.describe) (codec.readUnits_fst layout register)
  | carriers layout =>
      exact congrArg (Option.map layout.describe) (codec.readCarriers_fst layout register)

theorem encoder_decode? (register : HeaderRegister) :
    (codec.decode? register).2.encoder = codec.encoder := by
  unfold decode?
  cases codec.layout with
  | plain layout => rfl
  | counter layout => rfl
  | crc layout => rfl
  | units layout => exact codec.encoder_unitFields _ _
  | carriers layout => exact codec.encoder_unitFields _ _

/-- Whatever is in the checksum register, headers are judged as by the layout alone. -/
theorem read?_fst (register : HeaderRegister) :
    (codec.read? register).1 = codec.layout.read? register := by
  have accepted := codec.accepts_fst register
  have kept : (codec.accepts register).2.layout = codec.layout :=
    congrArg Encoder.layout (codec.encoder_accepts register)
  unfold read? Layout.read?
  rw [← accepted, ← kept]
  rcases codec.accepts register with ⟨_ | _, judged⟩
  · rfl
  · exact judged.decode?_fst register

/-- Judging a header does not disturb the headers that are written. -/
theorem encoder_read? (register : HeaderRegister) :
    (codec.read? register).2.encoder = codec.encoder := by
  have kept := codec.encoder_accepts register
  unfold read?
  rw [← kept]
  rcases codec.accepts register with ⟨_ | _, judged⟩
  · rfl
  · exact judged.encoder_decode? register

end HeaderCodec

end PacketFraming
