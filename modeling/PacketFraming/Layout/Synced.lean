import PacketFraming.Bits.Register
import PacketFraming.Bits.AccessCode
import PacketFraming.Layout.Error
import PacketFraming.Metadata.Basic

/-! Layouts that announce a header by an access code.

Both repeat the payload length, and a header counts as valid when the copies agree. -/

namespace PacketFraming

/-- What a valid header says: its metadata, and how many items of payload follow. -/
structure DecodedHeader where
  metadata : Metadata
  payloadItems : Nat
deriving DecidableEq, Repr

def maxShortLength : Nat := 65535

def shortLength (length : Nat) : Except LayoutError Nat :=
  if length ≤ maxShortLength then .ok length else .error (.payloadTooLarge length)

/-- Access code, then the payload length twice, in 16 bits each. -/
structure PlainLayout where
  code : AccessCode
deriving DecidableEq

namespace PlainLayout

def bodyBits : Nat := 32

def encode (layout : PlainLayout) (length : Nat) : Except LayoutError (List UInt8) :=
  (shortLength length).map fun length =>
    layout.code.bytes ++ bigEndian 2 length ++ bigEndian 2 length

def accepts (register : HeaderRegister) : Bool :=
  match register.value? 0 16, register.value? 16 16 with
  | some first, some second => first == second
  | _, _ => false

def decode? (register : HeaderRegister) : Option DecodedHeader := do
  let length ← register.value? 0 16
  some {
    metadata := .ofList [(Metadata.payloadBitsKey, .natural (8 * length))]
    payloadItems := 8 * length }

end PlainLayout

/-- Access code, the payload length twice, the bits of a payload symbol and a packet
counter, in 16 bits each. -/
structure CounterLayout where
  code : AccessCode
  symbolBits : Nat
  symbolBits_pos : 1 ≤ symbolBits
  symbolBits_le : symbolBits ≤ 8
deriving DecidableEq

namespace CounterLayout

def ofCode (code : AccessCode) (symbolBits : Nat) : Except LayoutError CounterLayout :=
  if inRange : 1 ≤ symbolBits ∧ symbolBits ≤ 8 then
    .ok { code, symbolBits, symbolBits_pos := inRange.1, symbolBits_le := inRange.2 }
  else .error (.invalidSymbolBits symbolBits)

def bodyBits : Nat := 64

def encode (layout : CounterLayout) (counter length : Nat) :
    Except LayoutError (List UInt8) :=
  (shortLength length).map fun length =>
    layout.code.bytes ++ bigEndian 2 length ++ bigEndian 2 length ++
      bigEndian 2 layout.symbolBits ++ bigEndian 2 counter

/-- The two copies of the length agree, and symbols carry at least one bit. -/
def accepts (register : HeaderRegister) : Bool :=
  match register.value? 0 16, register.value? 16 16, register.value? 32 16 with
  | some first, some second, some symbolBits => first == second && symbolBits != 0
  | _, _, _ => false

def decode? (register : HeaderRegister) : Option DecodedHeader := do
  let length ← register.value? 0 16
  let symbolBits ← register.value? 32 16
  let counter ← register.value? 48 16
  let symbols := 8 * length / max symbolBits 1
  some {
    metadata := .ofList [
      (Metadata.payloadBitsKey, .natural (8 * length)),
      (Metadata.payloadSymbolsKey, .natural symbols),
      (Metadata.symbolBitsKey, .natural symbolBits),
      (Metadata.counterKey, .natural counter)]
    payloadItems := symbols }

end CounterLayout

end PacketFraming
