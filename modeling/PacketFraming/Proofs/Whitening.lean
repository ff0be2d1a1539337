import PacketFraming.Proofs.CutHeaders
import PacketFraming.Proofs.ScramblerSequence
import PacketFraming.Transceiver.Codec

/-! Headers over carriers are whitened headers of units.

A header over carriers is written as the header of its units is, and then combined with a mask,
which is cut from the sequence of a scrambler. A register is read as if it held the units without
the mask; only the length is reported in payload symbols. -/

namespace PacketFraming

theorem UnitLayout.narrow_unitsOfBits (layout : UnitLayout) (bits : List Bool) :
    ∀ unit ∈ layout.unitsOfBits bits, Narrow layout.width unit := by
  intro unit member
  rcases List.mem_map.mp member with ⟨index, -, rfl⟩
  have spelled := valueOfReversedBits_lt ((bits.drop (index * layout.width)).take layout.width)
  have within : ((bits.drop (index * layout.width)).take layout.width).length ≤ layout.width :=
    List.length_take_le _ _
  have small := Nat.lt_of_lt_of_le spelled (Nat.pow_le_pow_right (by decide) within)
  have bound : 2 ^ layout.width ≤ 2 ^ 8 := Nat.pow_le_pow_right (by decide) layout.width_le
  rw [Narrow, UInt8.toNat_ofNat', Nat.mod_eq_of_lt (Nat.lt_of_lt_of_le small bound)]
  exact small

namespace CarrierLayout

/-! ## Layouts as they are selected -/

structure Selected (layout : CarrierLayout) (config : CarriersConfig) : Prop where
  units : UnitLayout.ofSizes
    (carriersIn ((config.table.map List.length).take config.headerSymbols.toNat))
    config.width.toNat config.lengthKey config.counterKey = .ok layout.units
  rows : layout.rows = config.table.map List.length
  symbolBits : layout.symbolBits = config.symbolBits.toNat
  frameLengthKey : layout.frameLengthKey = config.frameLengthKey
  scrambled : layout.scrambled = config.scrambled

theorem selected_of_build {config : CarriersConfig} {built : Layout}
    (accepted : (LayoutConfig.carriers config).build = .ok built) :
    ∃ layout : CarrierLayout, built = .carriers layout ∧ layout.Selected config := by
  change (ofTable (config.table.map List.length) config.headerSymbols.toNat
    config.width.toNat config.symbolBits.toNat config.lengthKey config.counterKey
    config.frameLengthKey config.scrambled).bind _ = _ at accepted
  unfold ofTable at accepted
  split at accepted
  · split at accepted
    · split at accepted
      · split at accepted
        · cases accepted
        · next units sized =>
          obtain rfl := Except.ok.inj accepted
          exact ⟨_, rfl, {
            units := sized
            rows := rfl
            symbolBits := rfl
            frameLengthKey := rfl
            scrambled := rfl }⟩
      · cases accepted
    · cases accepted
  · cases accepted

variable (layout : CarrierLayout)

/-! ## The mask -/

/-- One unit of the header scrambler's sequence for each unit of a header; zeros where nothing
is whitened. -/
structure Mask (mask : List UInt8) : Prop where
  length : mask.length = layout.units.count
  narrow : ∀ unit ∈ mask, unit.toNat < 2 ^ layout.units.width
  scrambled : layout.scrambled = true → ∀ index (inside : index < mask.length),
    ∀ place < layout.units.width,
      mask[index].toNat.testBit place =
        headerScrambler.outputAt (index * layout.units.width + place)
  plain : layout.scrambled = false → ∀ unit ∈ mask, unit = 0

theorem mask_whitening : layout.Mask layout.whitening where
  length := layout.length_whitening
  narrow := layout.narrow_whitening
  scrambled := by
    intro scrambled index inside place below
    have width := Nat.min_eq_left layout.units.width_le
    have counted : index < layout.units.count := layout.length_whitening ▸ inside
    have unit : layout.whitening[index]? = some (headerScrambler.after
        (index * layout.units.width) |>.nextUnit layout.units.width).1 := by
      rw [whitening, if_pos scrambled, Scrambler.getElem?_nextUnits _ counted, width]
    rw [List.getElem?_eq_getElem inside] at unit
    rw [Option.some.inj unit, Scrambler.testBit_nextUnit, width, decide_eq_true below,
      Bool.true_and, Scrambler.outputAt_after]
  plain := by
    intro plain unit member
    rw [whitening, plain, if_neg Bool.false_ne_true] at member
    exact (List.mem_replicate.mp member).2

/-! ## Headers that are written -/

/-- A header that is written with a mask over its units, from the same counter and with the same
metadata. -/
structure WrittenOver (mask : List UInt8) (plain whitened : HeaderCodec) (length : Nat)
    (metadata : Metadata) (header : EncodedHeader) : Prop where
  unmasked : (plain.encode length metadata).1 = .ok header
  masked : (whitened.encode length metadata).1 =
    .ok { header with bytes := header.bytes.zipWith (· ^^^ ·) mask }
  narrow : ∀ unit ∈ header.bytes.zipWith (· ^^^ ·) mask,
    unit.toNat < 2 ^ layout.units.width
  counted : (whitened.encode length metadata).2.packet = (plain.encode length metadata).2.packet

theorem exists_writtenOver {plain whitened : HeaderCodec}
    (units : plain.layout = .units layout.units) (carriers : whitened.layout = .carriers layout)
    (same : plain.packet = whitened.packet) (length : Nat) (metadata : Metadata) :
    ∃ header, layout.WrittenOver layout.whitening plain whitened length metadata header := by
  have unmasked := plain.encode_eq length metadata
  have masked := whitened.encode_eq length metadata
  have plainEncoder : plain.encoder = ⟨.units layout.units, plain.packet⟩ :=
    congrArg (Encoder.mk · plain.packet) units
  have whitenedEncoder : whitened.encoder = ⟨.carriers layout, plain.packet⟩ := by
    rw [same]
    exact congrArg (Encoder.mk · whitened.packet) carriers
  rw [plainEncoder] at unmasked
  rw [whitenedEncoder] at masked
  exact ⟨_, {
    unmasked := congrArg Prod.fst unmasked
    masked := congrArg Prod.fst masked
    narrow := layout.narrow_encode plain.packet length
    counted := (congrArg (·.2.packet) masked).trans (congrArg (·.2.packet) unmasked).symm }⟩

/-! ## Registers that are read -/

/-- The names under which a header over carriers is reported. -/
def keys : List String :=
  [Metadata.payloadBitsKey, layout.units.lengthKey, layout.frameLengthKey,
    layout.units.counterKey]

theorem entries_describe (fields : UnitFields) (distinct : layout.keys.Nodup) :
    (layout.describe fields).metadata.toList =
      [(Metadata.payloadBitsKey, .natural (8 * fields.length)),
        (layout.units.lengthKey, .natural (layout.describe fields).payloadItems)] ++
      (fields.counter.toList.map fun counter => (layout.units.counterKey, .natural counter)) ++
      [(layout.frameLengthKey,
        .natural (layout.frameLength (layout.describe fields).payloadItems))] := by
  simp only [keys, List.nodup_cons, List.mem_cons, List.not_mem_nil, not_or, or_false] at distinct
  rcases distinct with ⟨⟨first, second, third⟩, ⟨fourth, fifth⟩, sixth, -⟩
  have base := layout.units.entries_describe fields (by simp [first, third, fifth])
  change (layout.units.describe fields).metadata.entries = _ at base
  rcases fields with ⟨length, _ | counter⟩ <;>
    simp [describe, Metadata.insert, Metadata.toList, base, Metadata.insertEntry, first, second,
      fourth, Ne.symm sixth]

/-- A register that is read as another one, which holds the header without the mask. -/
structure ReadsAs (register unmasked : HeaderRegister) : Prop where
  accepted : (Layout.carriers layout).accepts register =
    (Layout.units layout.units).accepts unmasked
  fields : layout.registerFields? register = layout.units.registerFields? unmasked
  reported : layout.keys.Nodup → ∀ fields, layout.registerFields? register = some fields →
    ∃ header plain, (Layout.carriers layout).decode? register = some header ∧
      (Layout.units layout.units).decode? unmasked = some plain ∧
      header.payloadItems = ceilDiv (8 * fields.length) layout.symbolBits ∧
      header.metadata.toList =
        [(Metadata.payloadBitsKey, .natural (8 * fields.length)),
          (layout.units.lengthKey, .natural header.payloadItems)] ++
        (fields.counter.toList.map fun counter => (layout.units.counterKey, .natural counter)) ++
        [(layout.frameLengthKey, .natural (layout.frameLength header.payloadItems))] ∧
      plain.metadata.get? layout.units.counterKey =
        header.metadata.get? layout.units.counterKey

theorem readsAs_of_fields {register unmasked : HeaderRegister}
    (same : layout.registerFields? register = layout.units.registerFields? unmasked) :
    layout.ReadsAs register unmasked where
  accepted := congrArg Option.isSome same
  fields := same
  reported := by
    intro distinct fields read
    have keys := distinct
    simp only [CarrierLayout.keys, List.nodup_cons, List.mem_cons, List.not_mem_nil, not_or,
      or_false] at keys
    rcases keys with ⟨-, ⟨-, lengthApart⟩, frameApart, -⟩
    refine ⟨layout.describe fields, layout.units.describe fields,
      congrArg (Option.map layout.describe) read,
      congrArg (Option.map layout.units.describe) (same.symm.trans read), rfl,
      layout.entries_describe fields distinct, ?_⟩
    rw [describe, Metadata.get?_insert_of_ne _ _ (Ne.symm frameApart),
      Metadata.get?_insert_of_ne _ _ (Ne.symm lengthApart)]

theorem exists_readsAs {register : HeaderRegister}
    (held : layout.units.bodyBits ≤ register.length) :
    ∃ units, layout.units.units? register = some units ∧
      ∀ used, layout.ReadsAs register
        (layout.units.fill used (units.zipWith (· ^^^ ·) layout.whitening)) := by
  have cut : layout.units.units? register = some (layout.units.unitsOfBits register.bits) :=
    UnitLayout.units?_eq_some held
  refine ⟨_, cut, fun used => layout.readsAs_of_fields ?_⟩
  have whole := length_whiten (layout.units.length_unitsOfBits register.bits)
  have narrow := narrow_zipWith_xor (layout.units.narrow_unitsOfBits register.bits)
    layout.narrow_whitening
  rw [registerFields?_eq held]
  exact (layout.units.registerFields?_fill used whole narrow).symm

/-! ## Both sides -/

/-- Whatever carriers are selected, their headers are those of units with a mask over them, cut
from the sequence of one scrambler: they are written so, and registers are read so. -/
theorem whitens_units {config : CarriersConfig} {built : Layout}
    (accepted : (LayoutConfig.carriers config).build = .ok built) :
    Scrambler.ofSeed 0x8A 0x6F 7 = .ok headerScrambler ∧
    ∃ layout mask, built = .carriers layout ∧ layout.Selected config ∧ layout.Mask mask ∧
      (∀ plain whitened : HeaderCodec, plain.layout = .units layout.units →
        whitened.layout = .carriers layout → plain.packet = whitened.packet →
        ∀ length metadata, ∃ header,
          layout.WrittenOver mask plain whitened length metadata header) ∧
      (∀ register, layout.units.bodyBits ≤ register.length →
        ∃ units, layout.units.units? register = some units ∧
          ∀ used, layout.ReadsAs register
            (layout.units.fill used (units.zipWith (· ^^^ ·) mask))) := by
  rcases selected_of_build accepted with ⟨layout, rfl, selected⟩
  exact ⟨rfl, layout, layout.whitening, rfl, selected, layout.mask_whitening,
    fun plain whitened units carriers same => layout.exists_writtenOver units carriers same,
    fun register held => layout.exists_readsAs held⟩

/-- Headers of four whole bytes, over the first of two rows. -/
theorem whitens_units_four_bytes :
    let config : CarriersConfig := { table := [[-2, -1, 1, 2], [-1, 1]], width := 8 }
    ∃ layout mask, (LayoutConfig.carriers config).build = .ok (.carriers layout) ∧
      layout.units.count = 4 ∧ layout.Mask mask ∧
      ∃ header, layout.WrittenOver mask (.ofLayout (.units layout.units))
        (.ofLayout (.carriers layout)) 0x123 .empty header := by
  intro config
  have accepted : (LayoutConfig.carriers config).build = .ok _ := rfl
  rcases (whitens_units accepted).2 with ⟨layout, mask, built, selected, masks, written, -⟩
  rw [built] at accepted
  have count : layout.units.count = 4 :=
    congrArg UnitLayout.count (Except.ok.inj selected.units).symm
  exact ⟨layout, mask, accepted, count, masks,
    written (.ofLayout (.units layout.units)) (.ofLayout (.carriers layout)) rfl rfl rfl 0x123
      .empty⟩

end CarrierLayout

end PacketFraming
