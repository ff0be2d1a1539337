import PacketFraming.Command.Arguments
import PacketFraming.Command.Outcome
import PacketFraming.Layout.ConfigJson
import PacketFraming.Transceiver.Basic

/-! The layout that the options of a command select. -/

namespace PacketFraming.Command

def textOfBytes? (bytes : List UInt8) : Option String :=
  String.fromUTF8? ⟨bytes.toArray⟩

def bytesOfText (text : String) : List UInt8 :=
  text.toUTF8.toList

def fileText (surroundings : Surroundings) (path : String) : Except Fault String := do
  let bytes ← surroundings.file path
  match textOfBytes? bytes with
  | some text => .ok text
  | none => .error {
      kind := .invalidData
      description := "stream did not contain valid UTF-8" }

namespace LayoutOptions

def readConfig (surroundings : Surroundings) (path : String) :
    Except Failure LayoutConfig := do
  let text ← (fileText surroundings path).mapError (.ofFault ("failed reading " ++ path))
  match LayoutConfig.parse? text with
  | some config => .ok config
  | none => .error {
      code := Failure.invalidData
      message := path ++ " is not a valid layout config" }

/-- The selection that the options spell out. Those that a layout does not know are
ignored, but for access code and threshold. -/
def spelledConfig (options : LayoutOptions) : Except Failure LayoutConfig :=
  let kind := options.layout.getD .plain
  let synced := kind = .plain ∨ kind = .counter
  if ¬synced ∧ (options.accessCode.isSome ∨ options.threshold.isSome) then
    .error {
      code := Failure.usage
      message :=
        "--access-code and --threshold apply only to the default and counter layouts" }
  else
    match kind with
    | .plain =>
        .ok (.plain {
          accessCode := options.accessCode.getD defaultAccessCode
          threshold := options.threshold.getD 0 })
    | .counter =>
        let bps := options.bps.getD 1
        if bps.toNat < 2 ^ 16 then
          .ok (.counter {
            accessCode := options.accessCode.getD defaultAccessCode
            threshold := options.threshold.getD 0
            symbolBits := bps.toUInt16 })
        else
          .error {
            code := Failure.usage
            message := "--bps " ++ toString bps.toNat ++ " is too large" }
    | .crc => .ok (.crc {})
    | .units =>
        let base : UnitsConfig := {}
        .ok (.units { base with
          count := options.headerLength.getD base.count
          width := options.bps.getD base.width })
    | .carriers =>
        let base : CarriersConfig := {}
        .ok (.carriers { base with
          width := options.bps.getD base.width
          symbolBits := options.payloadBps.getD base.symbolBits
          scrambled := !options.noScramble })

/-- The selected layout; a file goes before all other options. -/
def layoutConfig (options : LayoutOptions) (surroundings : Surroundings) :
    Except Failure LayoutConfig :=
  match options.config with
  | some path => readConfig surroundings path
  | none => options.spelledConfig

def transceiver (options : LayoutOptions) (surroundings : Surroundings) :
    Except Failure Transceiver := do
  let config ← options.layoutConfig surroundings
  (Transceiver.ofConfig config).mapError (.ofLayoutError "invalid layout")

end LayoutOptions

end PacketFraming.Command
