import PacketFraming.Json.Reader
import PacketFraming.Json.Writer
import PacketFraming.Transceiver.Shared

/-! Payloads made ready for the wire: header, payload and padding. -/

namespace PacketFraming

structure FramingOptions where
  padding : UInt64 := 0
  separateHeader : Bool := false
deriving DecidableEq, Repr

namespace FramingOptions

def toJson (options : FramingOptions) : Json :=
  .object [
    ("padding", .natural options.padding.toNat),
    ("separate_header", .bool options.separateHeader)]

def ofJson? (json : Json) : Option FramingOptions := do
  let members ← json.record? ["padding", "separate_header"]
  let base : FramingOptions := {}
  let padding ← Json.field? members "padding" Json.uint64? base.padding
  let separateHeader ← Json.field? members "separate_header" Json.bool? base.separateHeader
  some { padding, separateHeader }

/-- Reads options from text. Values of unknown members need only follow the grammar. -/
def parse? (text : String) : Option FramingOptions :=
  (Json.parse? text).bind ofJson?

end FramingOptions

structure WireFrame where
  metadata : Metadata
  header : Option (List UInt8)
  /-- Payload and padding, behind the header where that is not kept apart. -/
  body : List UInt8
deriving DecidableEq, Repr

namespace WireFrame

def wire (frame : WireFrame) : List UInt8 :=
  frame.header.getD [] ++ frame.body

end WireFrame

/-- What goes on the wire for a payload and its header. -/
def FramingOptions.wireFrame (options : FramingOptions) (payload : List UInt8)
    (header : EncodedHeader) : WireFrame :=
  let padded := payload ++ List.replicate options.padding.toNat 0
  if options.separateHeader then
    { metadata := header.metadata, header := some header.bytes, body := padded }
  else { metadata := header.metadata, header := none, body := header.bytes ++ padded }

structure Framer where
  transceiver : Transceiver
  options : FramingOptions

namespace Framer

def frame (framer : Framer) (payload : List UInt8) (metadata : Metadata) :
    Except LayoutError WireFrame × Framer :=
  let (result, transceiver) := framer.transceiver.encode payload.length metadata
  (result.map (framer.options.wireFrame payload), { framer with transceiver })

def setPadding (framer : Framer) (padding : UInt64) : Framer :=
  { framer with options := { framer.options with padding } }

end Framer

/-- A framer whose transceiver writes and judges headers with one checksum register. -/
structure SharedFramer where
  device : SharedTransceiver
  options : FramingOptions

namespace SharedFramer

def frame (framer : SharedFramer) (payload : List UInt8) (metadata : Metadata) :
    Except LayoutError WireFrame × SharedFramer :=
  (framer.device.encode payload.length metadata).map
    (Except.map (framer.options.wireFrame payload)) fun device => { framer with device }

def setPadding (framer : SharedFramer) (padding : UInt64) : SharedFramer :=
  { framer with options := { framer.options with padding } }

def separate (framer : SharedFramer) : Framer where
  transceiver := framer.device.separate
  options := framer.options

/-- What goes on the wire does not depend on what is in the checksum register. -/
theorem frame_eq (framer : SharedFramer) (payload : List UInt8) (metadata : Metadata) :
    (framer.frame payload metadata).map id separate = framer.separate.frame payload metadata :=
  congrArg
    (Prod.map (Except.map (framer.options.wireFrame payload))
      fun transceiver => Framer.mk transceiver framer.options)
    (framer.device.encode_eq payload.length metadata)

end SharedFramer

end PacketFraming
