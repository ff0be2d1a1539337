import PacketFraming.Proofs.HeaderFields
import PacketFraming.Proofs.HeldBits

/-! Fields written into a buffer and read back from a register.

Whatever fields and bytes are written one behind another, the buffer keeps them in order in front
of its cursor and leaves what is behind it alone. A register that has heard the written bytes gives
back what each field kept of its number. -/

namespace PacketFraming

/-! ## Bytes of a number by place -/

def bytesAt (value : Nat) (places : List Nat) : List UInt8 :=
  places.map fun place => UInt8.ofNat (value >>> (8 * place))

@[simp] theorem length_bytesAt (value : Nat) (places : List Nat) :
    (bytesAt value places).length = places.length :=
  List.length_map _

theorem bigEndian_eq_bytesAt (length value : Nat) :
    bigEndian length value = bytesAt value (List.range length).reverse := by
  induction length with
  | zero => rfl
  | succ length induction =>
      have highest : value / 256 ^ length = value >>> (8 * length) := by
        rw [Nat.shiftRight_eq_div_pow, Nat.pow_mul]
      rw [bigEndian, induction, highest, List.range_succ, List.reverse_append]
      rfl

theorem littleEndian_eq_bytesAt (length value : Nat) :
    littleEndian length value = bytesAt value (List.range length) := by
  induction length generalizing value with
  | zero => rfl
  | succ length induction =>
      have others : bytesAt (value / 256) (List.range length) =
          bytesAt value ((List.range length).map Nat.succ) := by
        rw [bytesAt, bytesAt, List.map_map]
        apply List.map_congr_left
        intro place _
        rw [Function.comp_apply, Nat.mul_succ, Nat.add_comm, Nat.shiftRight_add,
          Nat.shiftRight_eq_div_pow value 8]
      rw [littleEndian, induction, others, List.range_succ_eq_map]
      rfl

namespace FieldBuffer

/-! ## One stretch of bytes -/

section Append

variable {buffer changed : FieldBuffer} {raw : List UInt8}

theorem append_eq_none_iff :
    buffer.append raw = none ↔ buffer.bytes.length < buffer.cursor + raw.length := by
  unfold append
  split
  · next fits =>
    constructor
    · intro refused
      cases refused
    · intro past
      exact absurd fits (Nat.not_le.mpr past)
  · next past => exact ⟨fun _ => Nat.not_le.mp past, fun _ => rfl⟩

theorem length_header (buffer : FieldBuffer) : buffer.header.length = buffer.cursor :=
  List.length_take_of_le buffer.cursor_le

theorem cursor_of_append (appended : buffer.append raw = some changed) :
    changed.cursor = buffer.cursor + raw.length := by
  unfold append at appended
  split at appended
  · cases appended
    rfl
  · cases appended

theorem bytes_of_append (appended : buffer.append raw = some changed) :
    changed.bytes = buffer.header ++ raw ++ buffer.bytes.drop (buffer.cursor + raw.length) := by
  unfold append at appended
  split at appended
  · cases appended
    rfl
  · cases appended

theorem length_header_append (buffer : FieldBuffer) (raw : List UInt8) :
    (buffer.header ++ raw).length = buffer.cursor + raw.length := by
  rw [List.length_append, length_header]

theorem header_of_append (appended : buffer.append raw = some changed) :
    changed.header = buffer.header ++ raw := by
  rw [header, bytes_of_append appended, cursor_of_append appended]
  exact List.take_left' (length_header_append buffer raw)

theorem behind_of_append (appended : buffer.append raw = some changed) :
    changed.bytes.drop changed.cursor = buffer.bytes.drop changed.cursor := by
  rw [bytes_of_append appended, cursor_of_append appended]
  exact List.drop_left' (length_header_append buffer raw)

theorem length_of_append (appended : buffer.append raw = some changed) :
    changed.bytes.length = buffer.bytes.length := by
  have fits : ¬buffer.bytes.length < buffer.cursor + raw.length := fun past => by
    rw [append_eq_none_iff.mpr past] at appended
    cases appended
  rw [bytes_of_append appended, List.length_append, length_header_append, List.length_drop]
  omega

end Append

/-! ## Uses of a buffer -/

inductive Call
  | field (type : FieldType) (order : ByteOrder) (length value : Nat)
  | whole (type : FieldType) (value : Nat)
  | raw (bytes : List UInt8)
deriving DecidableEq

namespace Call

def perform (buffer : FieldBuffer) : Call → Option FieldBuffer
  | field type order length value => buffer.addField type order length value
  | whole type value => buffer.addWhole type value
  | raw bytes => buffer.append bytes

def size : Call → Nat
  | field _ _ length _ => length
  | whole type _ => type.width
  | raw bytes => bytes.length

/-- More bytes are asked for than the type of the value has. -/
def TooWide : Call → Prop
  | field type _ length _ => type.width < length
  | _ => False

instance (call : Call) : Decidable call.TooWide := by
  cases call <;> unfold TooWide <;> infer_instance

/-- The bytes that a call adds: those of a number from the highest one kept down to the lowest,
unless they lie in network order already, which for a number in memory is from the lowest up. -/
def sent : Call → List UInt8
  | field .byte _ length value => bytesAt value (List.range length).reverse
  | field _ .native length value => bytesAt value (List.range length).reverse
  | field _ .network length value => bytesAt value (List.range length)
  | whole type value => bytesAt value (List.range type.width).reverse
  | raw bytes => bytes

def number? : Call → Option (Nat × Nat)
  | field _ .native length value => some (length, value)
  | whole type value => some (type.width, value)
  | _ => none

theorem length_sent (call : Call) : call.sent.length = call.size := by
  cases call with
  | field type order length value => cases type <;> cases order <;> simp [sent, size]
  | whole type value => simp [sent, size]
  | raw bytes => rfl

theorem sent_of_number {call : Call} {length value : Nat}
    (number : call.number? = some (length, value)) :
    call.sent = bigEndian length value ∧ call.size = length := by
  cases call with
  | field type order size content =>
      cases order with
      | native =>
          cases number
          rw [bigEndian_eq_bytesAt]
          cases type <;> exact ⟨rfl, rfl⟩
      | network => cases number
  | whole type content =>
      cases number
      rw [bigEndian_eq_bytesAt]
      exact ⟨rfl, rfl⟩
  | raw bytes => cases number

theorem length_le_of_number {call : Call} {length value : Nat}
    (number : call.number? = some (length, value)) (narrow : ¬call.TooWide) : length ≤ 8 := by
  have width_le (type : FieldType) : type.width ≤ 8 := by cases type <;> decide
  cases call with
  | field type order size content =>
      cases order with
      | native =>
          cases number
          exact Nat.le_trans (Nat.not_lt.mp narrow) (width_le type)
      | network => cases number
  | whole type content =>
      cases number
      exact width_le type
  | raw bytes => cases number

def total : List Call → Nat
  | [] => 0
  | call :: rest => call.size + total rest

theorem total_append (first second : List Call) :
    total (first ++ second) = total first + total second := by
  induction first with
  | nil => exact (Nat.zero_add _).symm
  | cons call rest induction => rw [List.cons_append, total, total, induction, Nat.add_assoc]

theorem total_concat (calls : List Call) (call : Call) :
    total (calls ++ [call]) = total calls + call.size :=
  total_append calls [call]

theorem length_flatMap_sent (calls : List Call) :
    (calls.flatMap sent).length = total calls := by
  induction calls with
  | nil => rfl
  | cons call rest induction =>
      rw [List.flatMap_cons, List.length_append, length_sent, induction, total]

theorem perform_eq (buffer : FieldBuffer) (call : Call) :
    call.perform buffer = if call.TooWide then none else buffer.append call.sent := by
  cases call with
  | field type order length value =>
      have bytes : fieldBytes type order length value = (field type order length value).sent := by
        cases type <;> cases order <;>
          first | exact bigEndian_eq_bytesAt _ _ | exact littleEndian_eq_bytesAt _ _
      rw [perform, addField, bytes]
      by_cases wide : (field type order length value).TooWide
      · rw [if_pos wide, if_neg (Nat.not_le.mpr wide)]
      · rw [if_neg wide, if_pos (Nat.not_lt.mp wide)]
  | whole type value =>
      have bytes : fieldBytes type .native type.width value = (whole type value).sent := by
        cases type <;> exact bigEndian_eq_bytesAt _ _
      rw [perform, addWhole, addField, if_pos (Nat.le_refl _), bytes]
      rfl
  | raw bytes => rfl

end Call

open Call

/-- A buffer behind calls; `none` if one of them is refused. -/
def performAll (buffer : FieldBuffer) (calls : List Call) : Option FieldBuffer :=
  calls.foldlM Call.perform buffer

theorem performAll_concat (buffer : FieldBuffer) (calls : List Call) (call : Call) :
    buffer.performAll (calls ++ [call]) = (buffer.performAll calls).bind call.perform := by
  rw [performAll, List.foldlM_append]
  exact bind_congr fun buffer => bind_pure (call.perform buffer)

/-! ## What a buffer holds -/

/-- A buffer that began as `start`, behind calls that were all carried out. -/
structure Written (start : List UInt8) (calls : List Call) (buffer : FieldBuffer) : Prop where
  cursor_eq : buffer.cursor = total calls
  header_eq : buffer.header = calls.flatMap Call.sent
  length_eq : buffer.bytes.length = start.length
  /-- Nothing is written behind the cursor. -/
  behind_eq : buffer.bytes.drop buffer.cursor = start.drop buffer.cursor

section Steps

variable {start : List UInt8} {calls : List Call} {buffer : FieldBuffer}

theorem written_ofBytes (start : List UInt8) : Written start [] (ofBytes start) where
  cursor_eq := rfl
  header_eq := rfl
  length_eq := rfl
  behind_eq := rfl

theorem Written.within (written : Written start calls buffer) : total calls ≤ start.length := by
  rw [← written.cursor_eq, ← written.length_eq]
  exact buffer.cursor_le

/-- Whether a call is refused is decided by sizes alone. -/
theorem Written.refuses_iff (written : Written start calls buffer) (call : Call) :
    call.perform buffer = none ↔ start.length < total calls + call.size ∨ call.TooWide := by
  rw [Call.perform_eq]
  split
  · next wide => exact ⟨fun _ => .inr wide, fun _ => rfl⟩
  · next narrow =>
    rw [append_eq_none_iff, call.length_sent, written.cursor_eq, written.length_eq]
    exact (or_iff_left narrow).symm

theorem Written.perform (written : Written start calls buffer) {call : Call}
    {changed : FieldBuffer} (performed : call.perform buffer = some changed) :
    Written start (calls ++ [call]) changed := by
  rw [Call.perform_eq, Option.ite_none_left_eq_some] at performed
  have appended := performed.2
  have later : changed.cursor = buffer.cursor + call.sent.length := cursor_of_append appended
  exact {
    cursor_eq := by rw [later, written.cursor_eq, call.length_sent, total_concat]
    header_eq := by
      rw [header_of_append appended, written.header_eq, List.flatMap_append,
        List.flatMap_singleton]
    length_eq := (length_of_append appended).trans written.length_eq
    behind_eq := by
      rw [behind_of_append appended, later, ← List.drop_drop, written.behind_eq, List.drop_drop] }

end Steps

theorem written_performAll {start : List UInt8} {calls : List Call} {buffer : FieldBuffer}
    (performed : (ofBytes start).performAll calls = some buffer) :
    Written start calls buffer := by
  induction calls using List.reverseRecOn generalizing buffer with
  | nil =>
      cases performed
      exact written_ofBytes start
  | append_singleton calls call induction =>
      rw [performAll_concat, Option.bind_eq_some_iff] at performed
      rcases performed with ⟨before, first, last⟩
      exact (induction first).perform last

theorem isSome_performAll_iff (start : List UInt8) (calls : List Call) :
    ((ofBytes start).performAll calls).isSome ↔
      total calls ≤ start.length ∧ ∀ call ∈ calls, ¬call.TooWide := by
  induction calls using List.reverseRecOn with
  | nil => simp [performAll, total]
  | append_singleton calls call induction =>
      rw [performAll_concat, total_concat]
      cases performed : (ofBytes start).performAll calls with
      | none =>
          rw [performed] at induction
          constructor
          · intro some
            cases some
          · rintro ⟨fits, narrow⟩
            exact absurd (induction.mpr ⟨by omega, fun call member =>
              narrow call (List.mem_append_left _ member)⟩) (by simp)
      | some buffer =>
          have written := written_performAll performed
          rw [performed] at induction
          have narrow := (induction.mp rfl).2
          rw [Option.bind_some, ← Option.ne_none_iff_isSome, ne_eq, written.refuses_iff call,
            not_or, Nat.not_lt]
          simp only [List.mem_append, List.mem_singleton]
          constructor
          · rintro ⟨fits, own⟩
            exact ⟨fits, fun other member => member.elim (narrow other) fun same => same ▸ own⟩
          · rintro ⟨fits, all⟩
            exact ⟨fits, all call (.inr rfl)⟩

end FieldBuffer

/-! ## Reading back -/

def HeaderRegister.ofItems (items : List UInt8) : HeaderRegister :=
  items.foldl (fun register item => register.insert (itemBit item)) .empty

theorem HeaderRegister.bits_ofItems (items : List UInt8) :
    (ofItems items).bits = items.map itemBit := by
  rw [ofItems, ← List.foldl_map, bits_foldl_insert, bits_empty, List.nil_append]

namespace FieldBuffer

open Call HeaderRegister

/-- A register that gives back, from its place behind the fields before it, what was kept of every
number; also to those who name fields by words, if their places are words. -/
structure GivesBack (register : HeaderRegister) (calls : List Call) : Prop where
  extract_eq (before after : List Call) (call : Call) (length value : Nat) :
    calls = before ++ call :: after → call.number? = some (length, value) → 1 ≤ length →
      register.extract (8 * total before) (8 * length) = .ok (value % 2 ^ (8 * length))
  extractWord_eq (before after : List Call) (call : Call) (length value : Nat) :
    calls = before ++ call :: after → call.number? = some (length, value) → 1 ≤ length →
      8 * total calls < 2 ^ 64 →
        (register.extractWord (UInt64.ofNat (8 * total before)) (UInt64.ofNat (8 * length))).map
          UInt64.toNat = .ok (value % 2 ^ (8 * length))

theorem fieldOf_sent {before after : List Call} {call : Call} {length value : Nat}
    (number : call.number? = some (length, value)) (narrow : ¬call.TooWide) (some : 1 ≤ length) :
    fieldOf valueOfBits (bitsOfBytes ((before ++ call :: after).flatMap sent))
      (8 * total before) (8 * length) = .ok (value % 2 ^ (8 * length)) := by
  rcases sent_of_number number with ⟨sent_eq, size_eq⟩
  have parts : bitsOfBytes ((before ++ call :: after).flatMap sent) =
      bitsOfBytes (before.flatMap sent) ++
        (bitsOfValue (8 * length) value ++ bitsOfBytes (after.flatMap sent)) := by
    rw [List.flatMap_append, List.flatMap_cons, bitsOfBytes_append, bitsOfBytes_append, sent_eq,
      bitsOfBytes_bigEndian]
  have place : (bitsOfBytes (before.flatMap sent)).length = 8 * total before := by
    rw [length_bitsOfBytes, length_flatMap_sent]
  have width_le : length ≤ 8 := call.length_le_of_number number narrow
  have inside : ¬(bitsOfBytes (before.flatMap sent) ++
      (bitsOfValue (8 * length) value ++ bitsOfBytes (after.flatMap sent))).length <
        8 * total before + 8 * length := by
    rw [List.length_append, List.length_append, place, length_bitsOfValue]
    omega
  rw [fieldOf, if_neg (by omega), parts, if_neg inside, List.drop_left' place,
    List.take_left' (length_bitsOfValue _ _), valueOfBits_bitsOfValue]

theorem givesBack_sent {calls : List Call} (narrow : ∀ call ∈ calls, ¬call.TooWide) :
    GivesBack (ofItems (unpackBits (calls.flatMap sent))) calls := by
  have bits := bits_ofItems (unpackBits (calls.flatMap sent))
  rw [map_itemBit_unpackBits] at bits
  have length : (ofItems (unpackBits (calls.flatMap sent))).length = 8 * total calls := by
    rw [← length_bits, bits, length_bitsOfBytes, length_flatMap_sent]
  refine ⟨fun before after call length value split number some => ?_,
    fun before after call length value split number some places => ?_⟩
  · have own := narrow call (by simp [split])
    rw [(holds_bits _).extract_eq, bits, split]
    exact fieldOf_sent number own some
  · have own := narrow call (by simp [split])
    have size := call.length_le_of_number number own
    have before_le : total before ≤ total calls := by
      rw [split, total_append]
      omega
    have offset : (UInt64.ofNat (8 * total before)).toNat = 8 * total before := by
      rw [UInt64.toNat_ofNat', Nat.mod_eq_of_lt (by omega)]
    have width : (UInt64.ofNat (8 * length)).toNat = 8 * length := by
      rw [UInt64.toNat_ofNat', Nat.mod_eq_of_lt (by omega)]
    rw [(holdsWords_bits (by omega)).word_eq, offset, width, bits, split]
    exact fieldOf_sent number own some

/-- What is written and refused is decided by sizes: calls go through if each one asks for no more
than its type has and all of them fit. What they sent then stands in front of the cursor, in order,
with nothing changed behind it, and its numbers are read back from a register. -/
theorem calls_written (start : List UInt8) (calls : List Call) :
    (((ofBytes start).performAll calls).isSome ↔
      total calls ≤ start.length ∧ ∀ call ∈ calls, ¬call.TooWide) ∧
    ∀ buffer, (ofBytes start).performAll calls = some buffer →
      Written start calls buffer ∧
      GivesBack (ofItems (unpackBits buffer.header)) calls ∧
      ∀ call : Call, call.perform buffer = none ↔
        start.length < total calls + call.size ∨ call.TooWide := by
  refine ⟨isSome_performAll_iff start calls, fun buffer performed => ?_⟩
  have written := written_performAll performed
  have carriedOut : ((ofBytes start).performAll calls).isSome := by
    rw [performed]
    rfl
  refine ⟨written, ?_, written.refuses_iff⟩
  rw [written.header_eq]
  exact givesBack_sent ((isSome_performAll_iff start calls).mp carriedOut).2

/-- Three of the four bytes of a word, no byte of another, two raw ones, a value that lies in
network order and a long one leave a byte of the buffer as it was. One more byte fits, two do not,
and three bytes of a short value never do. -/
theorem calls_written_mixed :
    let calls : List Call := [
      .field .word .native 3 0x12345678, .field .word .native 0 7, .raw [0xAA, 0xBB],
      .field .short .network 2 0x3412, .whole .long 0x0102030405060708]
    ∃ buffer, (ofBytes (List.replicate 16 0xEE)).performAll calls = some buffer ∧
      buffer.header = [0x34, 0x56, 0x78, 0xAA, 0xBB, 0x12, 0x34, 1, 2, 3, 4, 5, 6, 7, 8] ∧
      buffer.bytes.drop buffer.cursor = [0xEE] ∧
      (ofItems (unpackBits buffer.header)).extract 0 24 = .ok 0x345678 ∧
      ((ofItems (unpackBits buffer.header)).extractWord 56 64).map UInt64.toNat =
        .ok 0x0102030405060708 ∧
      (Call.whole .byte 1).perform buffer ≠ none ∧
      (Call.whole .short 1).perform buffer = none ∧
      (ofBytes (List.replicate 16 0xEE)).performAll
        (calls ++ [.field .short .native 3 1]) = none := by
  intro calls
  have written := calls_written (List.replicate 16 0xEE) calls
  rcases Option.isSome_iff_exists.mp (written.1.mpr (by decide)) with ⟨buffer, performed⟩
  rcases written.2 buffer performed with ⟨holds, givesBack, refuses_iff⟩
  refine ⟨buffer, performed, holds.header_eq, ?_, ?_, ?_, ?_, ?_, ?_⟩
  · rw [holds.behind_eq, holds.cursor_eq]
    rfl
  · exact givesBack.extract_eq [] calls.tail (.field .word .native 3 0x12345678) 3 0x12345678
      rfl rfl (by decide)
  · exact givesBack.extractWord_eq (calls.take 4) [] (.whole .long 0x0102030405060708) 8
      0x0102030405060708 rfl rfl (by decide) (by decide)
  · exact fun refused => absurd ((refuses_iff _).mp refused) (by decide)
  · exact (refuses_iff _).mpr (by decide)
  · have wide := (calls_written (List.replicate 16 0xEE)
      (calls ++ [.field .short .native 3 1])).1
    cases outcome : (ofBytes (List.replicate 16 0xEE)).performAll
      (calls ++ [.field .short .native 3 1]) with
    | none => rfl
    | some other =>
        rw [outcome] at wide
        exact absurd (wide.mp rfl) (by decide)

end FieldBuffer

end PacketFraming
