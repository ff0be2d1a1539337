import PacketFraming.Bits.Checksum
import PacketFraming.Layout.Synced

/-! The layout of 32 bits that a checksum protects: counter and payload length in 12 bits
each, and their checksum. It has no access code; every bit may start a header. -/

namespace PacketFraming

def twelveBits : Nat := 4096

/-- The layout's own parameters: the names under which it reports its fields. -/
structure CrcLayout where
  lengthKey : String
  counterKey : String
deriving DecidableEq, Repr

structure CrcFields where
  counter : Nat
  length : Nat
  checksum : Nat
deriving DecidableEq, Repr

namespace CrcLayout

def bodyBits : Nat := 32

/-- Longer payloads are announced modulo 4096. -/
def encode (counter length : Nat) : List UInt8 :=
  let length := length % twelveBits
  bigEndian 3 (counter * twelveBits + length) ++ [headerCrc length counter]

def fields? (register : HeaderRegister) : Option CrcFields := do
  let counter ← register.value? 0 12
  let length ← register.value? 12 12
  let checksum ← register.value? 24 8
  some { counter, length, checksum }

def accepts (register : HeaderRegister) : Bool :=
  match fields? register with
  | some fields => (headerCrc fields.length fields.counter).toNat == fields.checksum
  | none => false

def decode? (layout : CrcLayout) (register : HeaderRegister) : Option DecodedHeader := do
  let fields ← fields? register
  let bits := MetaValue.natural (8 * fields.length)
  some {
    metadata := .ofList [
      (Metadata.payloadBitsKey, bits),
      (layout.lengthKey, bits),
      (layout.counterKey, .natural fields.counter)]
    payloadItems := 8 * fields.length }

end CrcLayout

end PacketFraming
