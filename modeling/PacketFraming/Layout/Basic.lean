import PacketFraming.Layout.Carriers

/-! The header layouts, seen as one type.

A layout says how headers are written and read. It never changes; the packet counter
belongs to the `Encoder`. -/

namespace PacketFraming

inductive Layout
  | plain (layout : PlainLayout)
  | counter (layout : CounterLayout)
  | crc (layout : CrcLayout)
  | units (layout : UnitLayout)
  | carriers (layout : CarrierLayout)
deriving DecidableEq

namespace Layout

def name : Layout → String
  | plain _ => "default"
  | counter _ => "counter"
  | crc _ => "crc"
  | units _ => "variable_bits"
  | carriers _ => "ofdm"

def accessCode : Layout → AccessCode
  | plain layout => layout.code
  | counter layout => layout.code
  | _ => .empty

/-- Bits of a header after its access code. -/
def bodyBits : Layout → Nat
  | plain _ => PlainLayout.bodyBits
  | counter _ => CounterLayout.bodyBits
  | crc _ => CrcLayout.bodyBits
  | units layout => layout.bodyBits
  | carriers layout => layout.units.bodyBits

def headerBits (layout : Layout) : Nat :=
  layout.accessCode.length + layout.bodyBits

/-- Bytes of a header as it is written. A unit takes a byte of its own. -/
def headerBytes : Layout → Nat
  | plain layout => layout.code.byteCount + 4
  | counter layout => layout.code.byteCount + 8
  | crc _ => 4
  | units layout => layout.count
  | carriers layout => layout.units.count

/-- Bits that a unit carries; `none` where every item is a single bit. -/
def unitWidth? : Layout → Option Nat
  | units layout => some layout.width
  | carriers layout => some layout.units.width
  | _ => none

def carriesUnits (layout : Layout) : Bool :=
  layout.unitWidth?.isSome

def bitsPerItem (layout : Layout) : Nat :=
  layout.unitWidth?.getD 1

/-- What the packet counter wraps at, and the name under which it is reported; `none` where
headers are not counted. -/
def counting? : Layout → Option (Nat × String)
  | plain _ => none
  | counter _ => some (65536, Metadata.counterKey)
  | crc layout => some (twelveBits, layout.counterKey)
  | units layout => some (twelveBits, layout.counterKey)
  | carriers layout => some (twelveBits, layout.units.counterKey)

def encode (layout : Layout) (packet length : Nat) : Except LayoutError (List UInt8) :=
  match layout with
  | plain layout => layout.encode length
  | counter layout => layout.encode packet length
  | crc _ => .ok (CrcLayout.encode packet length)
  | units layout => .ok (layout.encode packet length)
  | carriers layout => .ok (layout.encode packet length)

def collect (layout : Layout) (register : HeaderRegister) (item : UInt8) : HeaderRegister :=
  match layout.unitWidth? with
  | some width => register.insertUnit item width
  | none => register.insert (itemBit item)

def accepts (layout : Layout) (register : HeaderRegister) : Bool :=
  match layout with
  | plain _ => PlainLayout.accepts register
  | counter _ => CounterLayout.accepts register
  | crc _ => CrcLayout.accepts register
  | units layout => layout.accepts register
  | carriers layout => layout.accepts register

/-- What a header says. It is meant for headers that the layout accepts. -/
def decode? (layout : Layout) (register : HeaderRegister) : Option DecodedHeader :=
  match layout with
  | plain _ => PlainLayout.decode? register
  | counter _ => CounterLayout.decode? register
  | crc layout => layout.decode? register
  | units layout => layout.decode? register
  | carriers layout => layout.decode? register

def read? (layout : Layout) (register : HeaderRegister) : Option DecodedHeader :=
  if layout.accepts register then layout.decode? register else none

end Layout

end PacketFraming
