import PacketFraming.Command.Report

/-! Running a command. -/

namespace PacketFraming.Command

def version : String := "0.1.0"

def versionLine : String :=
  line ("bitframe " ++ version)

def layoutNames : List String :=
  ["default", "counter", "crc", "variable_bits", "ofdm"]

def versionReport : String :=
  textLines [
    "name: bitframe",
    "version: " ++ version,
    "layouts: " ++ ", ".intercalate layoutNames]

/-- The output format of a request: the one asked for, or a table on a terminal and JSON
elsewhere. -/
def Request.format (request : Request) (surroundings : Surroundings) : OutputFormat :=
  request.common.format.getD (if surroundings.terminal then .table else .json)

def encodeHeaders (length : Nat) (metadata : Metadata) :
    (count : Nat) → Transceiver → Except LayoutError (List EncodedFrame)
  | 0, _ => .ok []
  | count + 1, transceiver =>
      match transceiver.encode length metadata with
      | (.error cause, _) => .error cause
      | (.ok header, transceiver) =>
          (encodeHeaders length metadata count transceiver).map fun frames =>
            { header := header.bytes
              body := []
              payloadSize := length
              metadata := header.metadata } :: frames

def encodeFrames (payload : List UInt8) (metadata : Metadata) (keepBody : Bool) :
    (count : Nat) → Framer → Except LayoutError (List EncodedFrame)
  | 0, _ => .ok []
  | count + 1, framer =>
      match framer.frame payload metadata with
      | (.error cause, _) => .error cause
      | (.ok frame, framer) =>
          (encodeFrames payload metadata keepBody count framer).map fun frames =>
            { header := frame.header.getD []
              body := if keepBody then frame.body else []
              payloadSize := payload.length
              metadata := frame.metadata } :: frames

def EncodeOptions.payload (options : EncodeOptions) (surroundings : Surroundings) :
    Except Failure (List UInt8) :=
  match options.data, options.file with
  | some data, _ => .ok (bytesOfText data)
  | none, some path =>
      (surroundings.file path).mapError (.ofFault ("failed reading " ++ path))
  | none, none => .ok []

/-- Builds headers or frames. The layout is judged before the payload is read. -/
def runEncode (options : EncodeOptions) (format : OutputFormat)
    (surroundings : Surroundings) : Except Failure Outcome := do
  let transceiver ← options.select.transceiver surroundings
  let metadata := Metadata.ofList
    (options.metadata.map fun entry => (entry.1, .int entry.2))
  let count := (options.count.getD 1).toNat
  let frames ←
    match options.length with
    | some length =>
        (encodeHeaders length.toNat metadata count transceiver).mapError
          (.ofLayoutError "encode failed")
    | none => do
        let payload ← options.payload surroundings
        let framer : Framer := {
          transceiver
          options := { padding := options.padding.getD 0, separateHeader := true } }
        (encodeFrames payload metadata options.frame count framer).mapError
          (.ofLayoutError "encode failed")
  .ok (.success (reportEncoded transceiver.layout.name frames format))

/-- The source that a path names. A directory can be opened, but not read from. -/
def openSource (path : String) (surroundings : Surroundings) : Except Failure Source :=
  if path = "-" then .ok { bytes := surroundings.standardInput, script := [] }
  else
    match surroundings.file path with
    | .ok bytes => .ok { bytes, script := [] }
    | .error fault =>
        if fault.kind = .isDirectory then .ok { bytes := [], script := [.fail fault] }
        else .error (.ofFault ("failed opening " ++ path) fault)

/-- Receives frames. A byte has at most eight items and a frame at least one, which bounds
the number of frames. -/
def runDecode (options : DecodeOptions) (format : OutputFormat)
    (surroundings : Surroundings) : Except Failure Outcome := do
  let transceiver ← options.select.transceiver surroundings
  let source ← openSource (options.input.getD "-") surroundings
  let reader := FrameReader.ofSource source transceiver {
    chunkSize := options.chunkSize.getD 4096 }
  let most := 8 * source.bytes.length + 1
  let limit := match options.count with
    | some count => min count.toNat most
    | none => most
  let frames ← (reader.frames limit).mapError (.ofStreamError "decode failed")
  .ok {
    code := if frames.isEmpty then Failure.noFrame else 0
    output := reportReceived frames format
    error := none
    log := [{ message := "decode finished", fields := [("frames", frames.length)] }] }

def runLayout (options : LayoutReportOptions) (format : OutputFormat)
    (surroundings : Surroundings) : Except Failure Outcome := do
  let config ← options.select.layoutConfig surroundings
  let transceiver ← (Transceiver.ofConfig config).mapError (.ofLayoutError "invalid layout")
  .ok (.success (reportLayout {
    layout := transceiver.layout
    threshold := transceiver.receiver.correlator.threshold
    config } format))

def runVersion (options : VersionOptions) : Outcome :=
  .success (bytesOfText (if options.extended then versionReport else versionLine))

/-- The outcome without the log lines that the level hides. -/
def Outcome.visible (level : LogLevel) (outcome : Outcome) : Outcome :=
  if level.showsInfo then outcome else { outcome with log := [] }

namespace Request

def run (request : Request) (surroundings : Surroundings) : Outcome :=
  let format := request.format surroundings
  let outcome := match request with
    | encode options => Outcome.ofExcept (runEncode options format surroundings)
    | decode options => Outcome.ofExcept (runDecode options format surroundings)
    | layout options => Outcome.ofExcept (runLayout options format surroundings)
    | version options => runVersion options
  outcome.visible (request.common.logLevel.getD .info)

def logFormat (request : Request) : LogFormat :=
  request.common.logFormat.getD .text

def paths : Request → List String
  | encode options => options.select.config.toList ++ options.file.toList
  | decode options => options.select.config.toList ++ options.input.toList
  | layout options => options.select.config.toList
  | version _ => []

def readsStandardInput : Request → Bool
  | decode options => options.input.getD "-" == "-"
  | _ => false

end Request

end PacketFraming.Command
