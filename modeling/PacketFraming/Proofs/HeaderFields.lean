import PacketFraming.Proofs.HeaderView

/-! Fields read back from a header.

A field that was written as a number is read as that number, wherever it stands and whatever
stands around it. -/

namespace PacketFraming

/-! ## Numbers as bytes -/

/-- The bits of bytes, in the order in which they are sent. -/
def bitsOfBytes (bytes : List UInt8) : List Bool :=
  bytes.flatMap byteBits

@[simp] theorem bitsOfBytes_append (first second : List UInt8) :
    bitsOfBytes (first ++ second) = bitsOfBytes first ++ bitsOfBytes second :=
  List.flatMap_append

theorem bitsOfBytes_cons (byte : UInt8) (rest : List UInt8) :
    bitsOfBytes (byte :: rest) = byteBits byte ++ bitsOfBytes rest :=
  List.flatMap_cons

theorem length_bitsOfBytes (bytes : List UInt8) :
    (bitsOfBytes bytes).length = 8 * bytes.length := by
  induction bytes with
  | nil => rfl
  | cons byte rest induction =>
      rw [bitsOfBytes_cons, List.length_append, length_byteBits, induction, List.length_cons]
      omega

theorem bitsOfBytes_bigEndian (length value : Nat) :
    bitsOfBytes (bigEndian length value) = bitsOfValue (8 * length) value := by
  induction length with
  | zero => rfl
  | succ length induction =>
      have byte : byteBits (UInt8.ofNat (value / 256 ^ length)) =
          bitsOfValue 8 (value / 2 ^ (8 * length)) := by
        rw [byteBits, UInt8.toNat_ofNat', bitsOfValue_mod 8 _ (Nat.le_refl 8), Nat.pow_mul]
      have width : 8 * (length + 1) = 8 + 8 * length := by omega
      rw [bigEndian, bitsOfBytes, List.flatMap_cons, byte, width, bitsOfValue_add, ← induction]
      rfl

theorem bitsOfBytes_singleton (byte : UInt8) :
    bitsOfBytes [byte] = bitsOfValue 8 byte.toNat :=
  List.append_nil _

theorem AccessCode.bitsOfBytes_bytes (code : AccessCode) :
    bitsOfBytes code.bytes = code.bits := by
  rw [bytes, bitsOfBytes_bigEndian, eight_mul_byteCount]
  rfl

theorem AccessCode.unpackBits_bytes (code : AccessCode) :
    unpackBits code.bytes = code.bits.map bitItem := by
  rw [← code.bitsOfBytes_bytes, bitsOfBytes, List.map_flatMap]
  rfl

theorem map_itemBit_unpackBits (bytes : List UInt8) :
    (unpackBits bytes).map itemBit = bitsOfBytes bytes := by
  induction bytes with
  | nil => rfl
  | cons byte rest induction =>
      rw [unpackBits_cons, List.map_append, induction, List.map_map]
      congr 1
      exact List.map_id'' itemBit_bitItem _

/-! ## Fields of a register -/

namespace HeaderRegister

theorem value?_of_bits {register : HeaderRegister} (front back : List Bool)
    {offset width value : Nat}
    (held : register.bits = front ++ bitsOfValue width value ++ back)
    (place : front.length = offset) (width_pos : 1 ≤ width) (width_le : width ≤ 64)
    (small : value < 2 ^ width) : register.value? offset width = some value := by
  subst place
  have length : register.length = front.length + width + back.length := by
    rw [← length_bits, held, List.length_append, List.length_append, length_bitsOfValue]
  have piece : (register.bits.drop front.length).take width = bitsOfValue width value := by
    rw [held, List.append_assoc, List.drop_left]
    exact List.take_left' (length_bitsOfValue width value)
  have spelled : valueOfBits (bitsOfValue width value) = value := by
    rw [valueOfBits_bitsOfValue, Nat.mod_eq_of_lt small]
  rw [value?, extract, field_eq_ok register width_pos width_le (by omega), piece]
  exact congrArg some spelled

theorem exists_value {register : HeaderRegister} {front rest : List Bool} (offset width : Nat)
    (parts : register.bits = front ++ rest) (place : front.length = offset)
    (held : width ≤ rest.length) (width_pos : 1 ≤ width) (width_le : width ≤ 64) :
    ∃ value back, value < 2 ^ width ∧ register.bits = front ++ bitsOfValue width value ++ back ∧
      back.length = rest.length - width ∧ register.value? offset width = some value := by
  have whole : (rest.take width).length = width := List.length_take_of_le held
  have small := valueOfBits_lt (rest.take width)
  have spelled := bitsOfValue_valueOfBits (rest.take width)
  rw [whole] at small spelled
  have found : register.bits =
      front ++ bitsOfValue width (valueOfBits (rest.take width)) ++ rest.drop width := by
    rw [spelled, List.append_assoc, List.take_append_drop, parts]
  exact ⟨_, _, small, found, List.length_drop,
    value?_of_bits front _ found place width_pos width_le small⟩

theorem field_of_short {register : HeaderRegister} {offset width : Nat}
    (short : register.length < offset + width) :
    ∃ cause, register.field offset width = .error cause := by
  unfold field
  split
  · exact ⟨_, rfl⟩
  · rw [if_neg (Nat.not_le.mpr short)]
    exact ⟨_, rfl⟩

theorem value?_of_short {register : HeaderRegister} {offset width : Nat}
    (short : register.length < offset + width) : register.value? offset width = none := by
  rcases field_of_short short with ⟨cause, refused⟩
  rw [value?, extract, refused]
  rfl

theorem extractReversed_of_short {register : HeaderRegister} {offset width : Nat}
    (short : register.length < offset + width) :
    (register.extractReversed offset width).toOption = none := by
  rcases field_of_short short with ⟨cause, refused⟩
  rw [extractReversed, refused]
  rfl

end HeaderRegister

namespace Layout

theorem bits_foldl_collect_unpackBits (layout : Layout) (single : layout.unitWidth? = none)
    (bytes : List UInt8) :
    ((unpackBits bytes).foldl layout.collect .empty).bits = bitsOfBytes bytes := by
  have same : layout.itemBits = fun item => [itemBit item] := by
    funext item
    rw [itemBits, single]
  rw [bits_foldl_collect, HeaderRegister.bits_empty, List.nil_append, same,
    ← map_itemBit_unpackBits, List.map_eq_flatMap]

end Layout

end PacketFraming
