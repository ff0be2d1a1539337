import PacketFraming.Command.Select
import PacketFraming.Metadata.Json
import PacketFraming.Stream.Reader
import PacketFraming.Text.Boxed

/-! Results in the output formats. -/

namespace PacketFraming.Command

def line (text : String) : String :=
  text ++ "\n"

def textLines (texts : List String) : String :=
  String.join (texts.map line)

/-- The metadata on one line: `name=value`, bytes in hexadecimal behind `0x`. -/
def describeMetadata (metadata : Metadata) : String :=
  " ".intercalate (metadata.entries.map fun entry =>
    match entry.2 with
    | .int value => entry.1 ++ "=" ++ toString value.toInt
    | .bytes value => entry.1 ++ "=0x" ++ Text.hex value)

/-- A payload as text; one that is no text is only counted. -/
def payloadPreview (payload : List UInt8) : String :=
  (textOfBytes? payload).getD ("<binary " ++ toString payload.length ++ " bytes>")

/-! ## Encoded frames -/

structure EncodedFrame where
  header : List UInt8
  body : List UInt8
  payloadSize : Nat
  metadata : Metadata
deriving DecidableEq, Repr

namespace EncodedFrame

def toJson (layout : String) (frame : EncodedFrame) : Json :=
  .object [
    ("layout", .string layout),
    ("payload_size", .natural frame.payloadSize),
    ("header_size", .natural frame.header.length),
    ("header", .string (Text.hex frame.header)),
    ("frame_size", .natural (frame.header.length + frame.body.length)),
    ("metadata", frame.metadata.toJson)]

def row (layout : String) (frame : EncodedFrame) : List String :=
  [layout, toString frame.payloadSize, Text.hex frame.header, describeMetadata frame.metadata]

def pretty (layout : String) (frame : EncodedFrame) : String :=
  "layout=" ++ layout ++ " payload=" ++ toString frame.payloadSize ++
    " header=" ++ Text.hex frame.header ++ " " ++ describeMetadata frame.metadata

end EncodedFrame

def reportEncoded (layout : String) (frames : List EncodedFrame) :
    OutputFormat → List UInt8
  | .json => bytesOfText (textLines (frames.map fun frame => (frame.toJson layout).render))
  | .table => bytesOfText (Text.BoxedTable.render {
      heading := ["LAYOUT", "PAYLOAD", "HEADER", "METADATA"]
      rows := frames.map (EncodedFrame.row layout) })
  | .pretty => bytesOfText (textLines (frames.map (EncodedFrame.pretty layout)))
  | .raw => frames.flatMap fun frame => frame.header ++ frame.body

/-! ## Received frames -/

def receivedJson (index : Nat) (frame : ReceivedFrame) : Json :=
  .object [
    ("index", .natural index),
    ("offset", .natural frame.offset),
    ("payload_size", .natural frame.payload.length),
    ("payload", .string (payloadPreview frame.payload)),
    ("metadata", frame.metadata.toJson)]

def receivedRow (index : Nat) (frame : ReceivedFrame) : List String :=
  [toString index, toString frame.offset, toString frame.payload.length,
    describeMetadata frame.metadata, payloadPreview frame.payload]

def receivedPretty (index : Nat) (frame : ReceivedFrame) : String :=
  "frame=" ++ toString index ++ " offset=" ++ toString frame.offset ++
    " size=" ++ toString frame.payload.length ++ " " ++ describeMetadata frame.metadata ++
    " payload=" ++ payloadPreview frame.payload

def reportReceived (frames : List ReceivedFrame) : OutputFormat → List UInt8
  | .json => bytesOfText (textLines (frames.mapIdx fun index frame =>
      (receivedJson index frame).render))
  | .table => bytesOfText (Text.BoxedTable.render {
      heading := ["#", "OFFSET", "SIZE", "METADATA", "PAYLOAD"]
      rows := frames.mapIdx receivedRow })
  | .pretty => bytesOfText (textLines (frames.mapIdx receivedPretty))
  | .raw => frames.flatMap ReceivedFrame.payload

/-! ## Layouts -/

structure LayoutSummary where
  layout : Layout
  threshold : Nat
  config : LayoutConfig

namespace LayoutSummary

def toJson (summary : LayoutSummary) : Json :=
  .object [
    ("layout", .string summary.layout.name),
    ("header_nbits", .natural summary.layout.headerBits),
    ("header_nbytes", .natural summary.layout.headerBytes),
    ("bits_per_item", .natural summary.layout.bitsPerItem),
    ("carries_units", .bool summary.layout.carriesUnits),
    ("access_code", .string summary.layout.accessCode.toText),
    ("threshold", .natural summary.threshold),
    ("config", summary.config.toJson)]

def codeLabel (summary : LayoutSummary) : String :=
  if summary.layout.accessCode.isEmpty then "-" else summary.layout.accessCode.toText

def table (summary : LayoutSummary) : Text.BoxedTable where
  heading := ["FIELD", "VALUE"]
  rows := [
    ["layout", summary.layout.name],
    ["header bits", toString summary.layout.headerBits],
    ["header bytes", toString summary.layout.headerBytes],
    ["bits per item", toString summary.layout.bitsPerItem],
    ["access code", summary.codeLabel],
    ["threshold", toString summary.threshold]]

def pretty (summary : LayoutSummary) : String :=
  "layout=" ++ summary.layout.name ++
    " header_nbits=" ++ toString summary.layout.headerBits ++
    " header_nbytes=" ++ toString summary.layout.headerBytes ++
    " bits_per_item=" ++ toString summary.layout.bitsPerItem ++
    " access_code=" ++ summary.codeLabel ++
    " threshold=" ++ toString summary.threshold

end LayoutSummary

/-- A layout in an output format; it has no bytes of its own, so raw output is JSON. -/
def reportLayout (summary : LayoutSummary) : OutputFormat → List UInt8
  | .json => bytesOfText (line summary.toJson.render)
  | .raw => bytesOfText (line summary.toJson.render)
  | .table => bytesOfText summary.table.render
  | .pretty => bytesOfText (line summary.pretty)

/-! ## Log lines -/

namespace LogLine

def toText (entry : LogLine) : String :=
  "INFO " ++ entry.message ++ String.join (entry.fields.map fun field =>
    " " ++ field.1 ++ "=" ++ toString field.2)

def toJson (entry : LogLine) : Json :=
  .object [
    ("level", .string "INFO"),
    ("fields", .object (("message", .string entry.message) ::
      entry.fields.map fun field => (field.1, .natural field.2)))]

end LogLine

end PacketFraming.Command
