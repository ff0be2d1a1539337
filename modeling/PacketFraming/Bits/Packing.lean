import PacketFraming.Bits.Number

/-! Bits, the items that carry them, and the bytes they are packed into.

A stream is made of items, one byte each. A bit layout reads only the lowest bit of an
item. Packing and unpacking put the first bit of a byte in its highest position. -/

namespace PacketFraming

/-- The bit an item carries: its lowest one. -/
def itemBit (item : UInt8) : Bool :=
  item.toNat % 2 == 1

def bitItem (bit : Bool) : UInt8 :=
  if bit then 1 else 0

@[simp] theorem itemBit_bitItem (bit : Bool) : itemBit (bitItem bit) = bit := by
  cases bit <;> rfl

def byteBits (byte : UInt8) : List Bool :=
  bitsOfValue 8 byte.toNat

/-- One item for every bit, the most significant bit of each byte first. -/
def unpackBits (bytes : List UInt8) : List UInt8 :=
  bytes.flatMap fun byte => (byteBits byte).map bitItem

@[simp] theorem length_byteBits (byte : UInt8) : (byteBits byte).length = 8 :=
  length_bitsOfValue 8 byte.toNat

@[simp] theorem unpackBits_nil : unpackBits [] = [] := rfl

theorem unpackBits_cons (byte : UInt8) (rest : List UInt8) :
    unpackBits (byte :: rest) = (byteBits byte).map bitItem ++ unpackBits rest :=
  List.flatMap_cons

theorem unpackBits_append (first second : List UInt8) :
    unpackBits (first ++ second) = unpackBits first ++ unpackBits second :=
  List.flatMap_append

@[simp] theorem length_unpackBits (bytes : List UInt8) :
    (unpackBits bytes).length = 8 * bytes.length := by
  induction bytes with
  | nil => rfl
  | cons byte rest induction =>
      simp only [unpackBits_cons, List.length_append, List.length_map, length_byteBits,
        induction, List.length_cons]
      omega

/-- The byte whose leading bits are those of at most eight items; the rest are zero. -/
def packByte (items : List UInt8) : UInt8 :=
  UInt8.ofNat (valueOfBits (items.map itemBit) * 2 ^ (8 - items.length))

/-- Packs the items behind bytes that are already done, which stand last one first. -/
def packBitsOnto (done : List UInt8) : List UInt8 → List UInt8
  | [] => done.reverse
  | item :: rest =>
      packBitsOnto (packByte (item :: rest.take 7) :: done) (rest.drop 7)
termination_by items => items.length

/-- Packs the bits of items into bytes; a last incomplete byte is filled up with zeros. -/
def packBits (items : List UInt8) : List UInt8 :=
  packBitsOnto [] items

private theorem packBitsOnto_reverse (done front items : List UInt8) :
    packBitsOnto (done ++ front) items = front.reverse ++ packBitsOnto done items := by
  fun_induction packBitsOnto done items with
  | case1 done => simp [packBitsOnto]
  | case2 done item rest induction =>
      rw [packBitsOnto]
      exact induction

theorem packBitsOnto_eq_append (done items : List UInt8) :
    packBitsOnto done items = done.reverse ++ packBits items := by
  simpa [packBits] using packBitsOnto_reverse [] done items

@[simp] theorem packBits_nil : packBits [] = [] := by
  simp [packBits, packBitsOnto]

theorem packBits_cons (item : UInt8) (rest : List UInt8) :
    packBits (item :: rest) =
      packByte (item :: rest.take 7) :: packBits (rest.drop 7) := by
  rw [packBits, packBitsOnto, packBitsOnto_eq_append]
  simp

theorem packByte_byteBits (byte : UInt8) :
    packByte ((byteBits byte).map bitItem) = byte := by
  have carried : ((byteBits byte).map bitItem).map itemBit = byteBits byte := by
    simp [Function.comp_def]
  apply UInt8.toNat_inj.mp
  rw [packByte, carried, List.length_map, length_byteBits, byteBits, valueOfBits_bitsOfValue]
  have bound := byte.toNat_lt
  simp only [UInt8.toNat_ofNat']
  omega

theorem packBits_append_byte {items : List UInt8} (full : items.length = 8) (rest : List UInt8) :
    packBits (items ++ rest) = packByte items :: packBits rest := by
  cases items with
  | nil => exact absurd full (by decide)
  | cons item others =>
      have seven : others.length = 7 := Nat.succ.inj full
      rw [List.cons_append, packBits_cons, List.take_left' seven, List.drop_left' seven]

theorem packBits_unpackBits (bytes : List UInt8) : packBits (unpackBits bytes) = bytes := by
  induction bytes with
  | nil => exact packBits_nil
  | cons byte rest induction =>
      have full : ((byteBits byte).map bitItem).length = 8 := by
        rw [List.length_map, length_byteBits]
      rw [unpackBits_cons, packBits_append_byte full, packByte_byteBits, induction]

example : packBits [1, 1, 0, 1] = [0xD0] := by
  rw [packBits_cons]
  simp [packByte, valueOfBits, itemBit]

example : unpackBits [0xA1] = [1, 0, 1, 0, 0, 0, 0, 1] := by decide

end PacketFraming
