import PacketFraming.Bits.Packing

/-! Integer fields as bytes, and a buffer of fixed size that fields are written into.

Fields go out in network order, the most significant byte first. The buffer never grows:
writing past its end is refused. -/

namespace PacketFraming

/-- The lowest `length` bytes of a number, most significant first. -/
def bigEndian : (length value : Nat) → List UInt8
  | 0, _ => []
  | length + 1, value => UInt8.ofNat (value / 256 ^ length) :: bigEndian length value

/-- The lowest `length` bytes of a number, least significant first. -/
def littleEndian : (length value : Nat) → List UInt8
  | 0, _ => []
  | length + 1, value => UInt8.ofNat value :: littleEndian length (value / 256)

@[simp] theorem length_bigEndian (length value : Nat) :
    (bigEndian length value).length = length := by
  induction length with
  | zero => rfl
  | succ length induction => simp [bigEndian, induction]

@[simp] theorem length_littleEndian (length value : Nat) :
    (littleEndian length value).length = length := by
  induction length generalizing value with
  | zero => rfl
  | succ length induction => simp [littleEndian, induction]

example : bigEndian 2 0x1234 = [0x12, 0x34] := rfl

example : littleEndian 2 0x1234 = [0x34, 0x12] := rfl

inductive FieldType
  | byte
  | short
  | word
  | long
deriving DecidableEq, Repr

namespace FieldType

def width : FieldType → Nat
  | byte => 1
  | short => 2
  | word => 4
  | long => 8

end FieldType

inductive ByteOrder
  | native
  /-- Bytes that are in network order already and are copied as they lie. -/
  | network
deriving DecidableEq, Repr

/-- The bytes that a field of `length` bytes adds to a header. Memory is little-endian, so
a value that is already in network order contributes its low end first. A single byte has
no order. -/
def fieldBytes (type : FieldType) (order : ByteOrder) (length value : Nat) : List UInt8 :=
  match type, order with
  | .byte, _ => bigEndian length value
  | _, .native => bigEndian length value
  | _, .network => littleEndian length value

/-- A buffer of fixed size with a cursor after the bytes written so far. -/
structure FieldBuffer where
  bytes : List UInt8
  cursor : Nat
  cursor_le : cursor ≤ bytes.length

namespace FieldBuffer

def ofBytes (bytes : List UInt8) : FieldBuffer where
  bytes := bytes
  cursor := 0
  cursor_le := Nat.zero_le _

def ofSize (size : Nat) : FieldBuffer :=
  ofBytes (List.replicate size 0)

def header (buffer : FieldBuffer) : List UInt8 :=
  buffer.bytes.take buffer.cursor

/-- Writes bytes at the cursor; `none` when they would pass the end. -/
def append (buffer : FieldBuffer) (raw : List UInt8) : Option FieldBuffer :=
  if fits : buffer.cursor + raw.length ≤ buffer.bytes.length then
    some {
      bytes := buffer.header ++ raw ++ buffer.bytes.drop (buffer.cursor + raw.length)
      cursor := buffer.cursor + raw.length
      cursor_le := by simp [header]; omega }
  else none

/-- Writes the lowest `length` bytes of a value; `none` when the value's type holds fewer
bytes than that, or when they would pass the end. -/
def addField (buffer : FieldBuffer) (type : FieldType) (order : ByteOrder)
    (length value : Nat) : Option FieldBuffer :=
  if length ≤ type.width then buffer.append (fieldBytes type order length value)
  else none

def addWhole (buffer : FieldBuffer) (type : FieldType) (value : Nat) :
    Option FieldBuffer :=
  buffer.addField type .native type.width value

end FieldBuffer

end PacketFraming
