import PacketFraming.Bits.FieldBytes

/-! The 8-bit cyclic redundancy check that protects headers.

A byte is folded in by one look-up in a table of 256 remainders. `serialStep` is the
division step from which the table is made. -/

namespace PacketFraming

/-- One step of the division by x⁸ plus the polynomial: shift left, and subtract the
polynomial when a one falls out. -/
def serialStep (polynomial remainder : UInt8) : UInt8 :=
  if remainder &&& 0x80 = 0 then remainder <<< 1 else (remainder <<< 1) ^^^ polynomial

/-- What a byte leaves behind after its eight bits have been shifted out. -/
def byteRemainder (polynomial byte : UInt8) : UInt8 :=
  Nat.repeat (serialStep polynomial) 8 byte

structure Crc8 where
  table : Vector UInt8 256
  initial : UInt8
  value : UInt8

namespace Crc8

/-- A checksum for a polynomial, started from an initial value. -/
def ofPolynomial (polynomial initial : UInt8) : Crc8 where
  table := Vector.ofFn fun index : Fin 256 => byteRemainder polynomial (UInt8.ofNat index)
  initial := initial
  value := initial

/-- The checksum of headers: polynomial 7, started from all ones. -/
def header : Crc8 :=
  ofPolynomial 0x07 0xFF

def fold (crc : Crc8) (value byte : UInt8) : UInt8 :=
  crc.table.get ⟨(value ^^^ byte).toNat, UInt8.toNat_lt _⟩

def update (crc : Crc8) (bytes : List UInt8) : Crc8 :=
  { crc with value := bytes.foldl crc.fold crc.value }

def reset (crc : Crc8) : Crc8 :=
  { crc with value := crc.initial }

/-- Starts over and folds bytes in; the checksum of the bytes is the value then. -/
def checksum (crc : Crc8) (bytes : List UInt8) : Crc8 :=
  crc.reset.update bytes

/-- Starts over and folds in a length and a counter, each as two bytes with the low one
first. -/
def headerChecksum (crc : Crc8) (length counter : Nat) : Crc8 :=
  crc.checksum (littleEndian 2 length ++ littleEndian 2 counter)

end Crc8

def headerCrc (length counter : Nat) : UInt8 :=
  (Crc8.header.headerChecksum length counter).value

example : (Crc8.header.checksum "123456789".toUTF8.toList).value = 0xFB := by
  decide +kernel

end PacketFraming
