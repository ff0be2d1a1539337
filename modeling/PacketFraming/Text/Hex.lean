/-! Bytes written as pairs of hexadecimal digits. -/

namespace PacketFraming.Text

def byteHex (byte : UInt8) : List Char :=
  [Nat.digitChar (byte.toNat / 16), Nat.digitChar (byte.toNat % 16)]

def hex (bytes : List UInt8) : String :=
  String.ofList (bytes.flatMap byteHex)

example : [0xAA, 0x01].flatMap byteHex = ['a', 'a', '0', '1'] := by decide

end PacketFraming.Text
