import PacketFraming.Bits.Error

/-! The causes for which a layout, or a payload for it, is refused. -/

namespace PacketFraming

/-- Why a layout cannot be built, or a header not be written. A header that is received
damaged is no error: the receiver drops it. -/
inductive LayoutError
  | field (cause : BitError)
  | payloadTooLarge (size : Nat)
  | invalidSymbolBits (bits : Nat)
  | emptyHeader
  | emptyCarrierTable
  | headerSymbolsOutOfRange (symbols rows : Nat)
deriving DecidableEq, Repr

namespace LayoutError

def message : LayoutError → String
  | field cause => cause.message
  | payloadTooLarge size => s!"payload too large ({size} bytes, max 65535)"
  | invalidSymbolBits bits =>
      s!"bits per symbol must be in [1, 8], got {bits}"
  | emptyHeader => "header length must be at least one unit"
  | emptyCarrierTable => "occupied carrier table is empty"
  | headerSymbolsOutOfRange symbols rows =>
      s!"header spans {symbols} symbols but the carrier table has {rows} rows"

end LayoutError

end PacketFraming
