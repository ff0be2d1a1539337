import PacketFraming.Layout.Basic

/-! Layouts as they are selected: parameters that have not been checked yet. -/

namespace PacketFraming

def defaultAccessCode : String :=
  "1010110011011101101001001110001011110010100011000010000011111100"

structure PlainConfig where
  accessCode : String := defaultAccessCode
  threshold : UInt32 := 0
deriving DecidableEq, Repr

structure CounterConfig where
  accessCode : String := defaultAccessCode
  threshold : UInt32 := 0
  symbolBits : UInt16 := 1
deriving DecidableEq, Repr

structure CrcConfig where
  lengthKey : String := Metadata.payloadBitsKey
  counterKey : String := Metadata.counterKey
deriving DecidableEq, Repr

structure UnitsConfig where
  count : UInt64 := 32
  width : UInt32 := 1
  lengthKey : String := Metadata.packetLengthKey
  counterKey : String := Metadata.packetNumberKey
deriving DecidableEq, Repr

structure CarriersConfig where
  /-- The carriers that each symbol occupies; the rows repeat cyclically. -/
  table : List (List Int32) := defaultCarriers
  /-- Symbols that a header spans. -/
  headerSymbols : UInt64 := 1
  lengthKey : String := Metadata.packetLengthKey
  frameLengthKey : String := Metadata.frameLengthKey
  counterKey : String := Metadata.packetNumberKey
  width : UInt32 := 1
  symbolBits : UInt32 := 1
  scrambled : Bool := true
deriving DecidableEq, Repr

inductive LayoutConfig
  | plain (config : PlainConfig)
  | counter (config : CounterConfig)
  | crc (config : CrcConfig)
  | units (config : UnitsConfig)
  | carriers (config : CarriersConfig)
deriving DecidableEq, Repr

namespace LayoutConfig

def parseCode (text : String) : Except LayoutError AccessCode :=
  (AccessCode.parse text).mapError .field

def build : LayoutConfig → Except LayoutError Layout
  | plain config => do
      let code ← parseCode config.accessCode
      return .plain { code }
  | counter config => do
      let code ← parseCode config.accessCode
      let layout ← CounterLayout.ofCode code config.symbolBits.toNat
      return .counter layout
  | crc config =>
      .ok (.crc { lengthKey := config.lengthKey, counterKey := config.counterKey })
  | units config => do
      let layout ← UnitLayout.ofSizes config.count.toNat config.width.toNat config.lengthKey
        config.counterKey
      return .units layout
  | carriers config => do
      let layout ← CarrierLayout.ofTable (config.table.map List.length)
        config.headerSymbols.toNat config.width.toNat config.symbolBits.toNat
        config.lengthKey config.counterKey config.frameLengthKey config.scrambled
      return .carriers layout

/-- Access code errors that a receiver tolerates; none for layouts without a code. -/
def threshold : LayoutConfig → UInt32
  | plain config => config.threshold
  | counter config => config.threshold
  | _ => 0

end LayoutConfig

end PacketFraming
