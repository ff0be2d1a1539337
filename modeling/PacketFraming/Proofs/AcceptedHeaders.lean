import PacketFraming.Proofs.AcceptedUnits

/-! Which registers form a header.

A layout accepts the registers that show, in every place that matters, the header for some
fields, and it reads these fields from them. The bits behind a header are not looked at. -/

namespace PacketFraming

/-- What the fields of a header say. Those that a layout lacks are of no account. -/
structure HeaderFields where
  length : Nat
  counter : Nat
  symbolBits : Nat
deriving DecidableEq, Repr

namespace Layout

def fieldBits (layout : Layout) (fields : HeaderFields) : List Bool :=
  match layout with
  | plain _ => bitsOfBytes (bigEndian 2 fields.length ++ bigEndian 2 fields.length)
  | counter _ =>
      bitsOfBytes (bigEndian 2 fields.length ++ bigEndian 2 fields.length ++
        bigEndian 2 fields.symbolBits ++ bigEndian 2 fields.counter)
  | crc _ => bitsOfBytes (CrcLayout.encode fields.counter fields.length)
  | units layout =>
      (layout.encode fields.counter fields.length).flatMap (unitBits layout.width)
  | carriers layout =>
      (layout.encode fields.counter fields.length).flatMap (unitBits layout.units.width)

def Significant (layout : Layout) (place : Nat) : Prop :=
  match layout with
  | units layout => layout.Significant place
  | carriers layout => layout.units.Significant place
  | _ => True

instance (layout : Layout) (place : Nat) : Decidable (layout.Significant place) :=
  match layout with
  | units layout => inferInstanceAs (Decidable (layout.Significant place))
  | carriers layout => inferInstanceAs (Decidable (layout.units.Significant place))
  | plain _ | counter _ | crc _ => inferInstanceAs (Decidable True)

/-- The fields that a header has the bits for. A payload symbol has at least one bit. -/
def Fits (layout : Layout) (fields : HeaderFields) : Prop :=
  match layout with
  | plain _ => fields.length ≤ maxShortLength
  | counter _ =>
      fields.length ≤ maxShortLength ∧ 1 ≤ fields.symbolBits ∧ fields.symbolBits < 2 ^ 16 ∧
        fields.counter < 2 ^ 16
  | crc _ => fields.length < twelveBits ∧ fields.counter < twelveBits
  | units layout => layout.Fits fields.counter fields.length
  | carriers layout => layout.units.Fits fields.counter fields.length

/-- Bits that are, wherever they matter, those of a header with these fields. -/
def Shows (layout : Layout) (fields : HeaderFields) (bits : List Bool) : Prop :=
  ∀ place < layout.bodyBits, layout.Significant place →
    bits[place]? = (layout.fieldBits fields)[place]?

instance (layout : Layout) (fields : HeaderFields) (bits : List Bool) :
    Decidable (layout.Shows fields bits) :=
  inferInstanceAs (Decidable (∀ place < layout.bodyBits, layout.Significant place → _ = _))

def told (layout : Layout) (fields : HeaderFields) : DecodedHeader :=
  match layout with
  | plain _ => PlainLayout.header fields.length
  | counter _ => CounterLayout.header fields.symbolBits fields.counter fields.length
  | crc layout => layout.header fields.counter fields.length
  | units layout => layout.describe (layout.told fields.counter fields.length)
  | carriers layout => layout.describe (layout.units.told fields.counter fields.length)

/-! ## Headers as they are encoded -/

def sentBits (layout : Layout) (bytes : List UInt8) : List Bool :=
  match layout.unitWidth? with
  | some width => bytes.flatMap (unitBits width)
  | none => bitsOfBytes bytes

theorem sentBits_encode {layout : Layout} {packet length : Nat} {bytes : List UInt8}
    (encoded : layout.encode packet length = .ok bytes) :
    layout.sentBits bytes = layout.accessCode.bits ++
      layout.fieldBits { length, counter := packet, symbolBits := layout.payloadItemBits } := by
  cases layout with
  | plain layout =>
      simp only [encode, PlainLayout.encode, shortLength] at encoded
      split at encoded
      · obtain rfl := Except.ok.inj encoded
        simp only [sentBits, unitWidth?, fieldBits, accessCode, bitsOfBytes_append,
          AccessCode.bitsOfBytes_bytes, List.append_assoc]
      · cases encoded
  | counter layout =>
      simp only [encode, CounterLayout.encode, shortLength] at encoded
      split at encoded
      · obtain rfl := Except.ok.inj encoded
        simp only [sentBits, unitWidth?, fieldBits, accessCode, payloadItemBits,
          bitsOfBytes_append, AccessCode.bitsOfBytes_bytes, List.append_assoc]
      · cases encoded
  | crc | units | carriers =>
      obtain rfl := Except.ok.inj encoded
      rfl

/-! ## Headers of bits -/

theorem fieldBits_plain (layout : PlainLayout) (fields : HeaderFields) :
    (plain layout).fieldBits fields =
      bitsOfValue 16 fields.length ++ bitsOfValue 16 fields.length := by
  rw [fieldBits, bitsOfBytes_append, bitsOfBytes_bigEndian]

theorem fieldBits_counter (layout : CounterLayout) (fields : HeaderFields) :
    (counter layout).fieldBits fields =
      bitsOfValue 16 fields.length ++ bitsOfValue 16 fields.length ++
        bitsOfValue 16 fields.symbolBits ++ bitsOfValue 16 fields.counter := by
  simp only [fieldBits, bitsOfBytes_append, bitsOfBytes_bigEndian]

theorem fieldBits_crc (layout : CrcLayout) {fields : HeaderFields}
    (short : fields.length < twelveBits) :
    (crc layout).fieldBits fields =
      bitsOfValue 12 fields.counter ++ bitsOfValue 12 fields.length ++
        bitsOfValue 8 (headerCrc fields.length fields.counter).toNat :=
  CrcLayout.bitsOfBytes_encode short

theorem shows_iff_append (layout : Layout) (all : ∀ place, layout.Significant place)
    {fields : HeaderFields} (whole : (layout.fieldBits fields).length = layout.bodyBits)
    (bits : List Bool) :
    layout.Shows fields bits ↔ ∃ rest, bits = layout.fieldBits fields ++ rest := by
  constructor
  · intro shown
    have front : layout.fieldBits fields <+: bits := by
      rw [List.prefix_iff_getElem?]
      intro place inside
      rw [shown place (whole ▸ inside) (all place), List.getElem?_eq_getElem inside]
    rcases front with ⟨rest, parts⟩
    exact ⟨rest, parts.symm⟩
  · rintro ⟨rest, rfl⟩ place inside -
    exact List.getElem?_append_left (whole.symm ▸ inside)

/-- A layout accepts a register, and reads from it what it shows. -/
structure Reads (layout : Layout) (register : HeaderRegister) : Prop where
  shown_of_accepted : layout.accepts register = true →
    ∃ fields, layout.Fits fields ∧ layout.Shows fields register.bits
  read_of_shown : ∀ fields, layout.Fits fields → layout.Shows fields register.bits →
    layout.accepts register = true ∧ layout.decode? register = some (layout.told fields)

section

open HeaderRegister (exists_value)

theorem reads_plain (layout : PlainLayout) {register : HeaderRegister}
    (held : PlainLayout.bodyBits ≤ register.length) : (plain layout).Reads register := by
  have whole (fields : HeaderFields) : ((plain layout).fieldBits fields).length = 32 := by
    simp [fieldBits_plain]
  have shows_iff (fields : HeaderFields) := shows_iff_append (.plain layout)
    (fun _ => trivial) (whole fields) register.bits
  rw [PlainLayout.bodyBits, ← register.length_bits] at held
  constructor
  · intro accepted
    rcases exists_value 0 16 (List.nil_append register.bits).symm rfl (by omega)
      (by decide) (by decide) with ⟨first, rest, first_lt, parts, left, firstRead⟩
    rcases exists_value 16 16 parts (by simp) (by omega) (by decide) (by decide) with
      ⟨second, rest, second_lt, parts, -, secondRead⟩
    have same : first = second := by
      simpa [accepts, PlainLayout.accepts, firstRead, secondRead] using accepted
    subst same
    refine ⟨{ length := first, counter := 0, symbolBits := 0 }, Nat.le_of_lt_succ first_lt, ?_⟩
    rw [shows_iff, fieldBits_plain]
    exact ⟨rest, parts⟩
  · intro fields fits shown
    rcases (shows_iff fields).mp shown with ⟨rest, parts⟩
    rw [fieldBits_plain] at parts
    exact PlainLayout.reads_fields fits parts

theorem reads_counter (layout : CounterLayout) {register : HeaderRegister}
    (held : CounterLayout.bodyBits ≤ register.length) : (counter layout).Reads register := by
  have whole (fields : HeaderFields) : ((counter layout).fieldBits fields).length = 64 := by
    simp [fieldBits_counter]
  have shows_iff (fields : HeaderFields) := shows_iff_append (.counter layout)
    (fun _ => trivial) (whole fields) register.bits
  rw [CounterLayout.bodyBits, ← register.length_bits] at held
  constructor
  · intro accepted
    rcases exists_value 0 16 (List.nil_append register.bits).symm rfl (by omega)
      (by decide) (by decide) with ⟨first, rest, first_lt, parts, left, firstRead⟩
    rcases exists_value 16 16 parts (by simp) (by omega) (by decide) (by decide) with
      ⟨second, rest, second_lt, parts, left, secondRead⟩
    rcases exists_value 32 16 parts (by simp) (by omega) (by decide) (by decide) with
      ⟨symbolBits, rest, symbolBits_lt, parts, left, symbolBitsRead⟩
    rcases exists_value 48 16 parts (by simp) (by omega) (by decide) (by decide) with
      ⟨counter, rest, counter_lt, parts, -, -⟩
    have checked : first = second ∧ symbolBits ≠ 0 := by
      simpa [accepts, CounterLayout.accepts, firstRead, secondRead, symbolBitsRead] using accepted
    obtain ⟨rfl, symbolBits_ne⟩ := checked
    refine ⟨{ length := first, counter, symbolBits }, ⟨Nat.le_of_lt_succ first_lt,
      Nat.pos_of_ne_zero symbolBits_ne, symbolBits_lt, counter_lt⟩, ?_⟩
    rw [shows_iff, fieldBits_counter]
    exact ⟨rest, parts⟩
  · intro fields fits shown
    rcases (shows_iff fields).mp shown with ⟨rest, parts⟩
    rw [fieldBits_counter] at parts
    exact CounterLayout.reads_fields fits.1 fits.2.1 fits.2.2.1 fits.2.2.2 parts

theorem reads_crc (layout : CrcLayout) {register : HeaderRegister}
    (held : CrcLayout.bodyBits ≤ register.length) : (crc layout).Reads register := by
  have whole (fields : HeaderFields) : ((crc layout).fieldBits fields).length = 32 := by
    simp [fieldBits, CrcLayout.encode, bitsOfBytes_bigEndian, bitsOfBytes_singleton]
  have shows_iff (fields : HeaderFields) := shows_iff_append (.crc layout)
    (fun _ => trivial) (whole fields) register.bits
  rw [CrcLayout.bodyBits, ← register.length_bits] at held
  constructor
  · intro accepted
    rcases exists_value 0 12 (List.nil_append register.bits).symm rfl (by omega)
      (by decide) (by decide) with ⟨counter, rest, counter_lt, parts, left, -⟩
    rcases exists_value 12 12 parts (by simp) (by omega) (by decide) (by decide) with
      ⟨length, rest, length_lt, parts, left, -⟩
    rcases exists_value 24 8 parts (by simp) (by omega) (by decide) (by decide) with
      ⟨checksum, rest, checksum_lt, parts, -, -⟩
    have fields := CrcLayout.fields?_of_bits counter_lt length_lt checksum_lt parts
    have checked : (headerCrc length counter).toNat = checksum := by
      simpa [accepts, CrcLayout.accepts, fields] using accepted
    subst checked
    refine ⟨{ length, counter, symbolBits := 0 }, ⟨length_lt, counter_lt⟩, ?_⟩
    rw [shows_iff, fieldBits_crc layout length_lt]
    exact ⟨rest, parts⟩
  · intro fields fits shown
    rcases (shows_iff fields).mp shown with ⟨rest, parts⟩
    rw [fieldBits_crc layout fits.1] at parts
    exact layout.reads_fields fits.1 fits.2 parts

end

/-! ## Headers of units -/

theorem reads_units (layout : UnitLayout) {register : HeaderRegister}
    (held : layout.bodyBits ≤ register.length) : (units layout).Reads register := by
  have whole := layout.length_unitsOfBits register.bits
  have bits := UnitLayout.flatMap_unitBits_unitsOfBits (register.length_bits ▸ held)
  have read := UnitLayout.registerFields?_eq held
  have shows_iff (fields : HeaderFields) : (units layout).Shows fields register.bits ↔
      layout.Shows fields.counter fields.length
        ((layout.unitsOfBits register.bits).flatMap (unitBits layout.width)) := by
    rw [bits]
    refine forall_congr' fun place => forall_congr' fun inside => imp_congr_right fun _ => ?_
    have within : place < layout.bodyBits := inside
    rw [List.getElem?_take_of_lt within]
    rfl
  constructor
  · intro accepted
    rcases Option.isSome_iff_exists.mp accepted with ⟨fields, decoded⟩
    rcases UnitLayout.shown_of_fields? whole (read.symm.trans decoded) with
      ⟨counter, length, fits, shown⟩
    exact ⟨{ length, counter, symbolBits := 0 }, fits, (shows_iff _).mpr shown⟩
  · intro fields fits shown
    have decoded := read.trans
      (UnitLayout.fields?_of_shows whole fits ((shows_iff fields).mp shown))
    exact ⟨congrArg Option.isSome decoded, congrArg (Option.map layout.describe) decoded⟩

theorem getElem?_zipWith_xor_iff {bits other mask : List Bool} {place : Nat}
    (masked : place < mask.length) :
    (bits.zipWith (· ^^ ·) mask)[place]? = other[place]? ↔
      bits[place]? = (other.zipWith (· ^^ ·) mask)[place]? := by
  rw [List.getElem?_zipWith, List.getElem?_zipWith, List.getElem?_eq_getElem masked]
  cases bits[place]? with
  | none => cases other[place]? <;> simp
  | some bit =>
      cases other[place]? with
      | none => simp
      | some value => cases bit <;> cases value <;> cases mask[place] <;> decide

theorem reads_carriers (layout : CarrierLayout) {register : HeaderRegister}
    (held : layout.units.bodyBits ≤ register.length) : (carriers layout).Reads register := by
  have cut := layout.units.length_unitsOfBits register.bits
  have whole := CarrierLayout.length_whiten cut
  have bits := UnitLayout.flatMap_unitBits_unitsOfBits (register.length_bits ▸ held)
  have read := CarrierLayout.registerFields?_eq held
  -- A register shows a whitened header when it shows the header without the whitening.
  have shows_iff (fields : HeaderFields) : (carriers layout).Shows fields register.bits ↔
      layout.units.Shows fields.counter fields.length
        ((layout.whiten (layout.units.unitsOfBits register.bits)).flatMap
          (unitBits layout.units.width)) := by
    rw [CarrierLayout.flatMap_unitBits_whiten cut, bits]
    refine forall_congr' fun place => forall_congr' fun inside => imp_congr_right fun _ => ?_
    have within : place < layout.units.bodyBits := inside
    rw [getElem?_zipWith_xor_iff (CarrierLayout.length_maskBits ▸ within),
      List.getElem?_take_of_lt within, fieldBits, CarrierLayout.encode,
      CarrierLayout.flatMap_unitBits_whiten (layout.units.length_encode _ _)]
  constructor
  · intro accepted
    rcases Option.isSome_iff_exists.mp accepted with ⟨fields, decoded⟩
    rcases UnitLayout.shown_of_fields? whole (read.symm.trans decoded) with
      ⟨counter, length, fits, shown⟩
    exact ⟨{ length, counter, symbolBits := 0 }, fits, (shows_iff _).mpr shown⟩
  · intro fields fits shown
    have decoded := read.trans
      (UnitLayout.fields?_of_shows whole fits ((shows_iff fields).mp shown))
    exact ⟨congrArg Option.isSome decoded, congrArg (Option.map layout.describe) decoded⟩

/-! ## All layouts -/

theorem reads (layout : Layout) {register : HeaderRegister}
    (held : layout.bodyBits ≤ register.length) : layout.Reads register := by
  cases layout with
  | plain layout => exact reads_plain layout held
  | counter layout => exact reads_counter layout held
  | crc layout => exact reads_crc layout held
  | units layout => exact reads_units layout held
  | carriers layout => exact reads_carriers layout held

/-- A register that lacks bits of a header is not read. Only the layout that does not look at the
end of its headers may accept it. -/
theorem refuses_short (layout : Layout) {register : HeaderRegister}
    (short : register.length < layout.bodyBits) :
    layout.read? register = none ∧
      (layout.accepts register = true →
        ∃ counting, layout = counter counting ∧ 48 ≤ register.length) := by
  have refused {layout : Layout} (rejected : layout.accepts register = false) :
      layout.read? register = none ∧ (layout.accepts register = true →
        ∃ counting, layout = counter counting ∧ 48 ≤ register.length) := by
    rw [read?, rejected]
    exact ⟨if_neg Bool.false_ne_true, fun accepted => absurd accepted Bool.false_ne_true⟩
  cases layout with
  | plain layout =>
      have second : register.value? 16 16 = none := HeaderRegister.value?_of_short short
      apply refused
      simp [accepts, PlainLayout.accepts, second]
  | counter layout =>
      have last : register.value? 48 16 = none := HeaderRegister.value?_of_short short
      constructor
      · have unread : (counter layout).decode? register = none := by
          simp [decode?, CounterLayout.decode?, last]
        rw [read?, unread, ite_self]
      · intro accepted
        refine ⟨layout, rfl, Nat.le_of_not_lt fun fewer => ?_⟩
        have third : register.value? 32 16 = none := HeaderRegister.value?_of_short fewer
        simp [accepts, CounterLayout.accepts, third] at accepted
  | crc layout =>
      have last : register.value? 24 8 = none := HeaderRegister.value?_of_short short
      apply refused
      simp [accepts, CrcLayout.accepts, CrcLayout.fields?, last]
  | units layout =>
      apply refused
      rw [accepts, UnitLayout.accepts, UnitLayout.registerFields?, layout.units?_eq_none short]
      rfl
  | carriers layout =>
      apply refused
      rw [accepts, CarrierLayout.accepts, CarrierLayout.registerFields?,
        layout.units.units?_eq_none short]
      rfl

/-- A layout accepts exactly the registers that show a header, reads from them what they show,
and gets nothing out of a register that is too short for a header. -/
theorem accepts_iff_shows (layout : Layout) (register : HeaderRegister) :
    (layout.bodyBits ≤ register.length →
      (layout.accepts register = true ↔
        ∃ fields, layout.Fits fields ∧ layout.Shows fields register.bits) ∧
      ∀ fields, layout.Fits fields → layout.Shows fields register.bits →
        layout.decode? register = some (layout.told fields)) ∧
    (register.length < layout.bodyBits →
      layout.read? register = none ∧
      (layout.accepts register = true →
        ∃ counting, layout = counter counting ∧ 48 ≤ register.length)) := by
  refine ⟨fun held => ?_, fun short => layout.refuses_short short⟩
  have read := layout.reads held
  refine ⟨⟨read.shown_of_accepted, ?_⟩, fun fields fits shown =>
    (read.read_of_shown fields fits shown).2⟩
  rintro ⟨fields, fits, shown⟩
  exact (read.read_of_shown fields fits shown).1

/-- Units of five bits with ones in the places that do not matter, and a bit behind them; and the
same header without its last bit. -/
theorem accepts_iff_shows_five_bits :
    let layout : UnitLayout := {
      count := 8, width := 5, lengthKey := "length", counterKey := "number"
      sized := { count_pos := by decide, width_pos := by decide, width_le := by decide } }
    let bits := [3, 9, 28, 0, 0, 28, 14, 2].flatMap (unitBits 5)
    let register := (bits ++ [true]).foldl HeaderRegister.insert .empty
    let cut := bits.dropLast.foldl HeaderRegister.insert .empty
    (units layout).accepts register = true ∧
      (units layout).decode? register =
        some (layout.describe { length := 0x123, counter := some 0 }) ∧
      (units layout).read? cut = none := by
  intro layout bits register cut
  have held : register.bits = bits ++ [true] := HeaderRegister.bits_foldl_insert _ _
  have cutBits : cut.bits = bits.dropLast := HeaderRegister.bits_foldl_insert _ _
  have long : (units layout).bodyBits ≤ register.length := by
    rw [← HeaderRegister.length_bits, held]
    decide
  have short : cut.length < (units layout).bodyBits := by
    rw [← HeaderRegister.length_bits, cutBits]
    decide
  let fields : HeaderFields := { length := 0x123, counter := 0, symbolBits := 0 }
  have fits : (units layout).Fits fields := ⟨by decide, by decide⟩
  have shown : (units layout).Shows fields register.bits := by
    rw [held]
    decide +kernel
  have told : layout.told 0 0x123 = { length := 0x123, counter := some 0 } := by decide
  have accepted := (accepts_iff_shows (units layout) register).1 long
  exact ⟨accepted.1.mpr ⟨fields, fits, shown⟩, told ▸ accepted.2 fields fits shown,
    ((accepts_iff_shows (units layout) cut).2 short).1⟩

/-- A layout that takes 48 of its 64 bits for a header. -/
theorem accepts_of_48_bits :
    let layout := counter {
      code := .empty, symbolBits := 1, symbolBits_pos := by decide, symbolBits_le := by decide }
    let register := (List.replicate 47 false ++ [true]).foldl HeaderRegister.insert .empty
    register.length < layout.bodyBits ∧ layout.accepts register = true ∧
      layout.decode? register = none := by
  decide +kernel

end Layout

end PacketFraming
