import PacketFraming.Layout.Checked

/-! Headers made of units that carry 1 to 8 bits each.

The fields are the payload length and a counter, in 12 bits each, and their checksum of
8 bits. Every field starts a new unit and is written least significant bits first. A header
with fewer units than the fields need lacks the end of them; further units are zero. -/

namespace PacketFraming

def ceilDiv (dividend divisor : Nat) : Nat :=
  (dividend + divisor - 1) / divisor

def fieldUnits (width size value : Nat) : List UInt8 :=
  (List.range (ceilDiv size width)).map fun index =>
    UInt8.ofNat (value / 2 ^ (index * width) % 2 ^ width)

/-- The number that units spell, the first one least significant. Bits of a unit beyond its
width are ignored. -/
def valueOfUnits (width : Nat) : List UInt8 → Nat
  | [] => 0
  | unit :: rest => unit.toNat % 2 ^ width + 2 ^ width * valueOfUnits width rest

/-- Cuts a list to a length, or fills it up with zeros. -/
def fitted (length : Nat) (units : List UInt8) : List UInt8 :=
  units.take length ++ List.replicate (length - units.length) 0

/-- The value of the field that starts here, and the units after it. A field that is cut
off has the bits that are left of it; one that is missing altogether has none. -/
def takeField (width size : Nat) : List UInt8 → Option (Nat × List UInt8)
  | [] => none
  | units =>
      let count := ceilDiv size width
      some (valueOfUnits width (units.take count) % 2 ^ size, units.drop count)

example : fieldUnits 5 12 0x123 = [0x03, 0x09, 0x00] := by decide

example : takeField 5 12 [0x03, 0x09, 0x00, 0x1F] = some (0x123, [0x1F]) := by decide

structure UnitLayout.Sized (count width : Nat) : Prop where
  count_pos : 1 ≤ count
  width_pos : 1 ≤ width
  width_le : width ≤ 8

/-- How a header is laid out in units, and the names under which its fields are reported. -/
structure UnitLayout where
  count : Nat
  width : Nat
  lengthKey : String
  counterKey : String
  sized : UnitLayout.Sized count width
deriving DecidableEq

/-- The fields recovered from units. The counter is missing from a header too short to
reach it. -/
structure UnitFields where
  length : Nat
  counter : Option Nat
deriving DecidableEq, Repr

namespace UnitLayout

theorem count_pos (layout : UnitLayout) : 1 ≤ layout.count := layout.sized.count_pos

theorem width_pos (layout : UnitLayout) : 1 ≤ layout.width := layout.sized.width_pos

theorem width_le (layout : UnitLayout) : layout.width ≤ 8 := layout.sized.width_le

/-- The unit width is judged before the number of units. -/
def ofSizes (count width : Nat) (lengthKey counterKey : String) :
    Except LayoutError UnitLayout :=
  if inRange : 1 ≤ width ∧ width ≤ 8 then
    if count_pos : 1 ≤ count then
      .ok {
        count, width, lengthKey, counterKey
        sized := { count_pos, width_pos := inRange.1, width_le := inRange.2 } }
    else .error .emptyHeader
  else .error (.invalidSymbolBits width)

def bodyBits (layout : UnitLayout) : Nat :=
  layout.count * layout.width

def encode (layout : UnitLayout) (counter length : Nat) : List UInt8 :=
  let length := length % twelveBits
  fitted layout.count
    (fieldUnits layout.width 12 length ++ fieldUnits layout.width 12 counter ++
      fieldUnits layout.width 8 (headerCrc length counter).toNat)

def units? (layout : UnitLayout) (register : HeaderRegister) : Option (List UInt8) :=
  (List.range layout.count).mapM fun index =>
    (register.extractReversed (index * layout.width) layout.width).toOption.map UInt8.ofNat

/-- The units that are left for the checksum agree with it, as far as they go. -/
def checksumAgrees (width : Nat) (units : List UInt8) (checksum : UInt8) : Bool :=
  (units.zip (fieldUnits width 8 checksum.toNat)).all fun (unit, expected) =>
    unit.toNat % 2 ^ width == expected.toNat

/-- The fields of a unit sequence; `none` when it is empty or its checksum is wrong. -/
def fields? (layout : UnitLayout) (units : List UInt8) : Option UnitFields := do
  let (length, rest) ← takeField layout.width 12 units
  match takeField layout.width 12 rest with
  | none => some { length, counter := none }
  | some (counter, rest) =>
      if checksumAgrees layout.width rest (headerCrc length counter) then
        some { length, counter := some counter }
      else none

def describe (layout : UnitLayout) (fields : UnitFields) : DecodedHeader :=
  let bits := 8 * fields.length
  let base := Metadata.ofList [
    (Metadata.payloadBitsKey, .natural bits),
    (layout.lengthKey, .natural fields.length)]
  { metadata :=
      match fields.counter with
      | some counter => base.insert layout.counterKey (.natural counter)
      | none => base
    payloadItems := ceilDiv bits layout.width }

def registerFields? (layout : UnitLayout) (register : HeaderRegister) : Option UnitFields :=
  (layout.units? register).bind layout.fields?

def accepts (layout : UnitLayout) (register : HeaderRegister) : Bool :=
  (layout.registerFields? register).isSome

def decode? (layout : UnitLayout) (register : HeaderRegister) : Option DecodedHeader :=
  (layout.registerFields? register).map layout.describe

end UnitLayout

end PacketFraming
