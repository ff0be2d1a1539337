import PacketFraming.Proofs.UnitPositions
import PacketFraming.Transceiver.Codec

/-! Operations that are defined for some operands only, and bits handled with them.

An index may be out of range, a difference below zero, a shift as wide as its word, a divisor
zero, and a buffer too short. Here such an operation is a trap, which ends whatever needs it. The
parts that headers are made from are told once more in these operations, step by step, and none of
them runs into a trap. -/

namespace PacketFraming

inductive Trap
  | indexOutOfRange
  | underflow
  | overlongShift
  | zeroDivisor
  | bufferOverrun
deriving DecidableEq, Repr

/-- A result, unless there was a trap on the way to it. -/
abbrev Guarded (Result : Type) : Type :=
  Except Trap Result

namespace Guarded

variable {Item Result Final : Type}

def require (safe : Prop) [Decidable safe] (trap : Trap) (result : Result) : Guarded Result :=
  if safe then .ok result else .error trap

def minus (minuend subtrahend : Nat) : Guarded Nat :=
  require (subtrahend ≤ minuend) .underflow (minuend - subtrahend)

def quotient (dividend divisor : Nat) : Guarded Nat :=
  require (divisor ≠ 0) .zeroDivisor (dividend / divisor)

def ceilQuotient (dividend divisor : Nat) : Guarded Nat :=
  require (divisor ≠ 0) .zeroDivisor (ceilDiv dividend divisor)

def shiftOf (size amount : Nat) : Guarded Nat :=
  require (amount < size) .overlongShift amount

def entry (found : Option Item) : Guarded Item :=
  match found with
  | some item => .ok item
  | none => .error .indexOutOfRange

def overwrite (bytes : Array UInt8) (index : Nat) (byte : UInt8) : Guarded (Array UInt8) :=
  require (index < bytes.size) .indexOutOfRange (bytes.setIfInBounds index byte)

def fitting (written : Option FieldBuffer) : Guarded FieldBuffer :=
  match written with
  | some buffer => .ok buffer
  | none => .error .bufferOverrun

/-! ## Results without a trap -/

@[simp] theorem ok_bind (result : Result) (next : Result → Guarded Final) :
    (Except.ok result >>= next) = next result := rfl

@[simp] theorem pure_eq_ok (result : Result) : (pure result : Guarded Result) = .ok result := rfl

theorem require_eq_ok {safe : Prop} [Decidable safe] (holds : safe) (trap : Trap)
    (result : Result) : require safe trap result = .ok result :=
  if_pos holds

theorem minus_eq_ok {minuend subtrahend : Nat} (le : subtrahend ≤ minuend) :
    minus minuend subtrahend = .ok (minuend - subtrahend) :=
  if_pos le

theorem quotient_eq_ok (dividend : Nat) {divisor : Nat} (some : divisor ≠ 0) :
    quotient dividend divisor = .ok (dividend / divisor) :=
  if_pos some

theorem ceilQuotient_eq_ok (dividend : Nat) {divisor : Nat} (some : divisor ≠ 0) :
    ceilQuotient dividend divisor = .ok (ceilDiv dividend divisor) :=
  if_pos some

theorem shiftOf_eq_ok {size amount : Nat} (short : amount < size) :
    shiftOf size amount = .ok amount :=
  if_pos short

theorem overwrite_eq_ok {bytes : Array UInt8} {index : Nat} (inside : index < bytes.size)
    (byte : UInt8) : overwrite bytes index byte = .ok (bytes.set index byte) := by
  rw [overwrite, require_eq_ok inside, Array.setIfInBounds, dif_pos inside]

theorem mapM_eq_ok {items : List Item} {step : Item → Guarded Result} {result : Item → Result}
    (steps : ∀ item ∈ items, step item = .ok (result item)) :
    items.mapM step = .ok (items.map result) := by
  induction items with
  | nil => rfl
  | cons item rest induction =>
      rw [List.mapM_cons, steps item List.mem_cons_self,
        induction fun other member => steps other (List.mem_cons_of_mem item member)]
      rfl

theorem foldlM_eq_ok {items : List Item} {step : Result → Item → Guarded Result}
    {next : Result → Item → Result}
    (steps : ∀ state, ∀ item ∈ items, step state item = .ok (next state item)) (start : Result) :
    items.foldlM step start = .ok (items.foldl next start) := by
  induction items generalizing start with
  | nil => rfl
  | cons item rest induction =>
      rw [List.foldlM_cons, steps start item List.mem_cons_self, ok_bind, List.foldl_cons]
      exact induction (fun state other member =>
        steps state other (List.mem_cons_of_mem item member)) _

/-! ## The register -/

structure RawRegister where
  bytes : Array UInt8
  length : Nat

end Guarded

def HeaderRegister.raw (register : HeaderRegister) : Guarded.RawRegister where
  bytes := register.bytes
  length := register.length

namespace Guarded

/-- Puts a part of a byte into storage. A byte that is begun is wiped before. -/
def store (bytes : Array UInt8) (index : Nat) (part : UInt8) : Guarded (Array UInt8) := do
  let slot := index / 8
  let begun ←
    if index % 8 = 0 then
      if slot < bytes.size then overwrite bytes slot 0 else pure (bytes.push 0)
    else pure bytes
  let byte ← entry begun[slot]?
  overwrite begun slot (byte ||| part)

namespace RawRegister

def insertBit (register : RawRegister) (item : UInt8) : Guarded RawRegister := do
  let place ← minus 7 (register.length % 8)
  let amount ← shiftOf 8 place
  let bytes ← store register.bytes register.length ((item &&& 1) <<< UInt8.ofNat amount)
  return { bytes, length := register.length + 1 }

/-- Inserts the lowest bits of a unit, each of them shifted to the end of a byte first. -/
def insertUnit (register : RawRegister) (unit : UInt8) (width : Nat) : Guarded RawRegister :=
  (List.range (min width 8)).foldlM
    (fun register index => do
      let amount ← shiftOf 8 index
      register.insertBit (unit >>> UInt8.ofNat amount)) register

def bitAt (register : RawRegister) (index : Nat) : Guarded Bool := do
  let byte ← entry register.bytes[index / 8]?
  let place ← minus 7 (index % 8)
  let amount ← shiftOf 8 place
  return byte.toNat.testBit amount

def value? (register : RawRegister) (offset width : Nat) : Guarded (Option Nat) :=
  if width = 0 ∨ 64 < width then return none
  else if offset + width ≤ register.length then do
    let bits ← (List.range width).mapM fun index => register.bitAt (offset + index)
    return some (valueOfBits bits)
  else return none

def reversedValue? (register : RawRegister) (offset width : Nat) : Guarded (Option Nat) :=
  if width = 0 ∨ 64 < width then return none
  else if offset + width ≤ register.length then do
    let value ← (List.range width).foldlM
      (fun value index => do
        let bit ← register.bitAt (offset + index)
        let amount ← shiftOf 64 index
        return value + bit.toNat * 2 ^ amount) 0
    return some value
  else return none

end RawRegister

section Register

variable (register : HeaderRegister)

theorem place_eq (item : UInt8) (index : Nat) :
    (item &&& 1) <<< UInt8.ofNat (7 - index % 8) = placed (itemBit item) index := by
  have lowest : (itemBit item).toNat = item.toNat % 2 := by
    rw [itemBit]
    rcases Nat.mod_two_eq_zero_or_one item.toNat with even | odd
    · simp [even]
    · simp [odd]
  have amount : (UInt8.ofNat (7 - index % 8)).toNat % 8 = 7 - index % 8 := by
    rw [UInt8.toNat_ofNat']
    omega
  apply UInt8.toNat_inj.mp
  rw [UInt8.toNat_shiftLeft, UInt8.toNat_and, amount, placed, lowest, UInt8.toNat_ofNat',
    Nat.shiftLeft_eq]
  exact congrArg (fun bit => bit * 2 ^ (7 - index % 8) % 2 ^ 8) (Nat.and_one_is_mod _)

theorem entry_eq_ok {bytes : Array UInt8} {slot : Nat} (inside : slot < bytes.size) :
    entry bytes[slot]? = .ok bytes[slot] := by
  rw [Array.getElem?_eq_getElem inside, entry]

theorem store_eq_ok {bytes : Array UInt8} {index : Nat} (covered : index ≤ 8 * bytes.size)
    (bit : Bool) : store bytes index (placed bit index) = .ok (stored bytes index bit) := by
  unfold store stored
  by_cases start : index % 8 = 0
  · by_cases inside : index / 8 < bytes.size
    · have held : index / 8 < (bytes.set (index / 8) 0).size := by rwa [Array.size_set]
      simp only [if_pos start, if_pos inside, dif_pos inside, overwrite_eq_ok inside, ok_bind,
        entry_eq_ok held, overwrite_eq_ok held, Array.getElem_set_self, Array.set_set,
        UInt8.zero_or]
    · -- Storage from before the register was cleared is used first; here none of it is left.
      obtain last : index / 8 = bytes.size := by omega
      have held : index / 8 < (bytes.push 0).size := by
        rw [Array.size_push]
        omega
      simp only [if_pos start, if_neg inside, dif_neg inside, pure_eq_ok, ok_bind,
        entry_eq_ok held, overwrite_eq_ok held]
      simp [last, Array.set_push]
  · have inside : index / 8 < bytes.size := by omega
    simp only [if_neg start, pure_eq_ok, ok_bind, entry_eq_ok inside, overwrite_eq_ok inside]
    apply congrArg Except.ok
    apply Array.ext
    · simp
    · intro slot _ _
      rw [Array.getElem_set, Array.getElem_modify]
      split
      · next same =>
        subst same
        rfl
      · rfl

theorem insertBit_eq_ok (item : UInt8) :
    register.raw.insertBit item = .ok (register.insert (itemBit item)).raw := by
  rcases register with ⟨bytes, length, covered, unwritten⟩
  have place : minus 7 (length % 8) = .ok (7 - length % 8) := minus_eq_ok (by omega)
  have amount : shiftOf 8 (7 - length % 8) = .ok (7 - length % 8) := shiftOf_eq_ok (by omega)
  simp only [RawRegister.insertBit, HeaderRegister.raw, place, amount, ok_bind, place_eq,
    store_eq_ok covered]
  rfl

theorem itemBit_shiftRight (unit : UInt8) {index : Nat} (inside : index < 8) :
    itemBit (unit >>> UInt8.ofNat index) = unit.toNat.testBit index := by
  have amount : (UInt8.ofNat index).toNat % 8 = index := by
    rw [UInt8.toNat_ofNat']
    omega
  rw [itemBit, UInt8.toNat_shiftRight, amount, Nat.shiftRight_eq_div_pow,
    Nat.testBit_eq_decide_div_mod_eq]
  rfl

theorem insertUnit_eq_ok (unit : UInt8) (width : Nat) :
    register.raw.insertUnit unit width = .ok (register.insertUnit unit width).raw := by
  unfold RawRegister.insertUnit HeaderRegister.insertUnit
  have inside : ∀ index ∈ List.range (min width 8), index < 8 := by
    intro index member
    have small := List.mem_range.mp member
    omega
  generalize List.range (min width 8) = places at inside
  induction places generalizing register with
  | nil => rfl
  | cons index rest induction =>
      have small := inside index List.mem_cons_self
      rw [List.foldlM_cons, shiftOf_eq_ok small, ok_bind, insertBit_eq_ok, ok_bind,
        itemBit_shiftRight unit small]
      exact induction _ fun other member => inside other (List.mem_cons_of_mem index member)

theorem bitAt_eq_ok {index : Nat} (held : index < register.length) :
    register.raw.bitAt index = .ok (register.bitAt index) := by
  have covered := register.covered
  have inside : index / 8 < register.bytes.size := by omega
  have place : minus 7 (index % 8) = .ok (7 - index % 8) := minus_eq_ok (by omega)
  have amount : shiftOf 8 (7 - index % 8) = .ok (7 - index % 8) := shiftOf_eq_ok (by omega)
  simp only [RawRegister.bitAt, HeaderRegister.raw, entry_eq_ok inside, place, amount, ok_bind,
    pure_eq_ok, HeaderRegister.bitAt, storedBit]
  simp [inside]

theorem value?_eq_ok (offset width : Nat) :
    register.raw.value? offset width = .ok (register.value? offset width) := by
  unfold RawRegister.value? HeaderRegister.value? HeaderRegister.extract HeaderRegister.field
  split
  · rfl
  · change (if offset + width ≤ register.length then _ else _) = _
    split
    · next held =>
      have read : ((List.range width).mapM fun index => register.raw.bitAt (offset + index)) =
          .ok ((List.range width).map fun index => register.bitAt (offset + index)) :=
        mapM_eq_ok fun index member => bitAt_eq_ok register (by
          have small := List.mem_range.mp member
          omega)
      rw [read]
      rfl
    · rfl

theorem foldl_places (bit : Nat → Bool) (width : Nat) :
    (List.range width).foldl (fun value index => value + (bit index).toNat * 2 ^ index) 0 =
      valueOfReversedBits ((List.range width).map bit) := by
  induction width with
  | zero => rfl
  | succ width induction =>
      rw [List.range_succ, List.foldl_append, induction, List.map_append, List.map_singleton,
        valueOfReversedBits_concat, List.length_map, List.length_range]
      rfl

theorem reversedValue?_eq_ok (offset width : Nat) :
    register.raw.reversedValue? offset width =
      .ok (register.extractReversed offset width).toOption := by
  unfold RawRegister.reversedValue? HeaderRegister.extractReversed HeaderRegister.field
  split
  · rfl
  · next sized =>
    change (if offset + width ≤ register.length then _ else _) = _
    split
    · next held =>
      have read (value index : Nat) (member : index ∈ List.range width) :
          (do
            let bit ← register.raw.bitAt (offset + index)
            let amount ← shiftOf 64 index
            return value + bit.toNat * 2 ^ amount : Guarded Nat) =
              .ok (value + (register.bitAt (offset + index)).toNat * 2 ^ index) := by
        have small := List.mem_range.mp member
        rw [bitAt_eq_ok register (by omega), ok_bind, shiftOf_eq_ok (by omega), ok_bind,
          pure_eq_ok]
      rw [foldlM_eq_ok read, ok_bind, foldl_places fun index => register.bitAt (offset + index)]
      rfl
    · rfl

end Register

/-! ## The access code -/

def codeMask (length : Nat) : Guarded UInt64 :=
  if length = 0 then return 0
  else if 64 ≤ length then return 0xFFFFFFFFFFFFFFFF
  else do
    let room ← minus 64 length
    let amount ← shiftOf 64 room
    return 0xFFFFFFFFFFFFFFFF >>> UInt64.ofNat amount

def push (correlator : Correlator) (item : UInt8) : Guarded (Correlator × Option Nat) :=
  let shifted := correlator.shift (itemBit item)
  if shifted.filled < shifted.code.length then return (shifted, none)
  else do
    let mask ← codeMask shifted.code.length
    let distance := countOnes 64 ((shifted.history ^^^ shifted.code.word) &&& mask)
    return (shifted, if distance ≤ shifted.threshold then some distance else none)

theorem shifted_ones {length : Nat} (length_le : length ≤ 64) :
    (2 ^ 64 - 1) / 2 ^ (64 - length) = 2 ^ length - 1 := by
  have room : 2 ^ length * 2 ^ (64 - length) = 2 ^ 64 := by
    rw [← Nat.pow_add, Nat.add_sub_cancel' length_le]
  have ones := Nat.two_pow_pos length
  have rest := Nat.two_pow_pos (64 - length)
  rw [← room]
  apply Nat.div_eq_of_lt_le
  · rw [Nat.sub_mul]
    omega
  · rw [Nat.sub_add_cancel ones]
    omega

theorem codeMask_eq_ok {length : Nat} (length_le : length ≤ 64) :
    codeMask length = .ok (lowMask length) := by
  unfold codeMask
  by_cases none : length = 0
  · rw [if_pos none, none]
    rfl
  · by_cases all : 64 ≤ length
    · obtain rfl : length = 64 := by omega
      rfl
    · rw [if_neg none, if_neg all, minus_eq_ok length_le, ok_bind, shiftOf_eq_ok (by omega)]
      apply congrArg Except.ok
      apply UInt64.toNat_inj.mp
      have amount : (UInt64.ofNat (64 - length)).toNat % 64 = 64 - length := by
        rw [UInt64.toNat_ofNat']
        omega
      rw [UInt64.toNat_shiftRight, amount, lowMask_toNat length_le, Nat.shiftRight_eq_div_pow]
      exact shifted_ones length_le

theorem push_eq_ok (correlator : Correlator) (item : UInt8) :
    push correlator item = .ok (correlator.push (itemBit item)) := by
  unfold push Correlator.push Correlator.found?
  dsimp only
  rw [codeMask_eq_ok (correlator.shift (itemBit item)).code.length_le]
  split <;> rfl

/-! ## The checksum -/

def checksumOf (crc : Crc8) (length counter : Nat) : Guarded UInt8 :=
  (littleEndian 2 length ++ littleEndian 2 counter).foldlM
    (fun value byte => entry crc.table.toArray[(value ^^^ byte).toNat]?) crc.initial

theorem checksumOf_eq_ok (crc : Crc8) (length counter : Nat) :
    checksumOf crc length counter = .ok (crc.headerChecksum length counter).value := by
  have folded (value byte : UInt8) :
      entry crc.table.toArray[(value ^^^ byte).toNat]? = .ok (crc.fold value byte) :=
    entry_eq_ok _
  exact foldlM_eq_ok (fun value byte _ => folded value byte) crc.initial

/-! ## The scrambler -/

def advance (scrambler : Scrambler) : Guarded Scrambler := do
  let amount ← shiftOf 32 scrambler.length
  return { scrambler with
    register := (scrambler.register >>> 1) |||
      ((if scrambler.feedback then 1 else 0) <<< UInt32.ofNat amount) }

/-- The value of the next bits in their places, of which the first is given. -/
def nextBits : (count place : Nat) → Scrambler → Guarded (Nat × Scrambler)
  | 0, _, scrambler => return (0, scrambler)
  | count + 1, place, scrambler => do
      let next ← advance scrambler
      let amount ← shiftOf 8 place
      let (value, last) ← nextBits count (place + 1) next
      return (scrambler.output.toNat * 2 ^ amount + value, last)

def nextUnit (width : Nat) (scrambler : Scrambler) : Guarded (UInt8 × Scrambler) := do
  let (value, last) ← nextBits (min width 8) 0 scrambler
  return (UInt8.ofNat value, last)

def nextUnits (width : Nat) : (count : Nat) → Scrambler → Guarded (List UInt8 × Scrambler)
  | 0, scrambler => return ([], scrambler)
  | count + 1, scrambler => do
      let (unit, next) ← nextUnit width scrambler
      let (units, last) ← nextUnits width count next
      return (unit :: units, last)

theorem advance_eq_ok (scrambler : Scrambler) : advance scrambler = .ok scrambler.advance := by
  rw [advance, shiftOf_eq_ok (Nat.lt_succ_of_le scrambler.length_le)]
  rfl

theorem nextBits_eq_ok {count place : Nat} (fits : place + count ≤ 8) (scrambler : Scrambler) :
    nextBits count place scrambler =
      .ok (2 ^ place * valueOfReversedBits (scrambler.nextBits count).1,
        (scrambler.nextBits count).2) := by
  induction count generalizing place scrambler with
  | zero => rfl
  | succ count induction =>
      rw [nextBits, advance_eq_ok, ok_bind, shiftOf_eq_ok (by omega), ok_bind,
        induction (by omega), ok_bind]
      change Except.ok (_ + 2 ^ (place + 1) * valueOfReversedBits _, _) =
        Except.ok (2 ^ place * (_ + 2 * valueOfReversedBits _), _)
      rw [Nat.pow_succ, Nat.mul_add, Nat.mul_assoc, Nat.mul_comm (2 ^ place) (Bool.toNat _)]
      rfl

theorem nextUnit_eq_ok (width : Nat) (scrambler : Scrambler) :
    nextUnit width scrambler = .ok (scrambler.nextUnit width) := by
  rw [nextUnit, nextBits_eq_ok (by omega), ok_bind, Nat.pow_zero, Nat.one_mul]
  rfl

theorem nextUnits_eq_ok (width count : Nat) (scrambler : Scrambler) :
    nextUnits width count scrambler = .ok (scrambler.nextUnits width count) := by
  induction count generalizing scrambler with
  | zero => rfl
  | succ count induction =>
      rw [nextUnits, nextUnit_eq_ok, ok_bind]
      dsimp only
      rw [induction]
      rfl

/-! ## The buffer of a header -/

def filled (written : List UInt8) (room : Nat) : FieldBuffer where
  bytes := written ++ List.replicate room 0
  cursor := written.length
  cursor_le := by
    rw [List.length_append]
    exact Nat.le_add_right _ _

theorem append_filled {written raw : List UInt8} {room : Nat} (fits : raw.length ≤ room) :
    fitting ((filled written room).append raw) =
      .ok (filled (written ++ raw) (room - raw.length)) := by
  have inside : (filled written room).cursor + raw.length ≤ (filled written room).bytes.length := by
    simp only [filled, List.length_append, List.length_replicate]
    omega
  rw [FieldBuffer.append, dif_pos inside, fitting]
  apply congrArg Except.ok
  have rest : (written ++ List.replicate room 0).drop (written.length + raw.length) =
      List.replicate (room - raw.length) 0 := by
    rw [List.drop_append, List.drop_of_length_le (Nat.le_add_right _ _), List.nil_append,
      Nat.add_sub_cancel_left, List.drop_replicate]
  simp only [FieldBuffer.header, filled, List.take_left, rest, List.length_append]

theorem addField_filled {type : FieldType} {written : List UInt8} {length room : Nat}
    (held : length ≤ type.width) (fits : length ≤ room) (value : Nat) :
    fitting ((filled written room).addField type .native length value) =
      .ok (filled (written ++ bigEndian length value) (room - length)) := by
  have bytes : fieldBytes type .native length value = bigEndian length value := by
    cases type <;> rfl
  have size := length_bigEndian length value
  have within := Nat.le_trans (Nat.le_of_eq size) fits
  rw [FieldBuffer.addField, if_pos held, bytes, append_filled within, size]

theorem addWhole_filled {type : FieldType} {written : List UInt8} {room : Nat}
    (fits : type.width ≤ room) (value : Nat) :
    fitting ((filled written room).addWhole type value) =
      .ok (filled (written ++ bigEndian type.width value) (room - type.width)) :=
  addField_filled (Nat.le_refl _) fits value

theorem bytes_filled {written : List UInt8} {room : Nat} (full : room = 0) :
    (filled written room).bytes = written := by
  rw [full]
  exact List.append_nil written

end Guarded

end PacketFraming
