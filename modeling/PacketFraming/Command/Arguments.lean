import PacketFraming.Command.Grammar
import PacketFraming.Text.CharClass
import PacketFraming.Text.Integer
import PacketFraming.Text.Quoted

/-! The commands and their arguments. -/

namespace PacketFraming.Command

/-! ## Values of options -/

inductive OutputFormat
  | json
  | table
  | pretty
  | raw
deriving DecidableEq, Repr

def OutputFormat.ofName? : String → Option OutputFormat
  | "json" => some json
  | "table" => some table
  | "pretty" => some pretty
  | "raw" => some raw
  | _ => none

inductive LogFormat
  | text
  | json
deriving DecidableEq, Repr

def LogFormat.ofName? : String → Option LogFormat
  | "text" => some text
  | "json" => some json
  | _ => none

/-- The least severe log lines that are written. -/
inductive LogLevel
  | error
  | warn
  | info
  | debug
  | trace
deriving DecidableEq, Repr

namespace LogLevel

def ofName? : String → Option LogLevel
  | "error" => some error
  | "warn" => some warn
  | "info" => some info
  | "debug" => some debug
  | "trace" => some trace
  | _ => none

def showsInfo : LogLevel → Bool
  | error => false
  | warn => false
  | _ => true

end LogLevel

inductive LayoutKind
  | plain
  | counter
  | crc
  | units
  | carriers
deriving DecidableEq, Repr

def LayoutKind.ofName? : String → Option LayoutKind
  | "default" => some plain
  | "counter" => some counter
  | "crc" => some crc
  | "variable-bits" => some units
  | "ofdm" => some carriers
  | _ => none

/-- An accepted value, or a refusal without a sentence. -/
def required (value : Option α) : Except Stop α :=
  match value with
  | some value => .ok value
  | none => .error (.usage none)

def path? (text : String) : Option String :=
  if text.isEmpty then none else some text

def size? (text : String) : Option UInt64 :=
  match Text.natural? text.toList with
  | some value => if value < 2 ^ 64 then some (UInt64.ofNat value) else none
  | none => none

/-- A number of at most 32 bits; it may be spelled as a negative zero. -/
def small? (text : String) : Option UInt32 :=
  match Text.integer? text.toList with
  | some value =>
      if 0 ≤ value ∧ value < 2 ^ 32 then some (UInt32.ofNat value.toNat) else none
  | none => none

def trimmed (chars : List Char) : List Char :=
  ((chars.dropWhile Text.isBlank).reverse.dropWhile Text.isBlank).reverse

/-- An integer for metadata, written as `KEY=VALUE`; the first equals sign separates. -/
def metadataEntry (text : String) : Except String (String × Int64) :=
  let chars := text.toList
  let key := String.ofList (chars.takeWhile (· != '='))
  match chars.dropWhile (· != '=') with
  | [] => .error ("expected KEY=VALUE, got " ++ Text.quoted text)
  | _ :: value =>
      if key.isEmpty then .error "metadata key must not be empty"
      else
        let refused :=
          .error ("metadata value for " ++ Text.quoted key ++ " must be an integer")
        match Text.integer? (trimmed value) with
        | some value =>
            if -2 ^ 63 ≤ value ∧ value < 2 ^ 63 then .ok (key, Int64.ofInt value)
            else refused
        | none => refused

/-! ## Arguments -/

structure CommonOptions where
  format : Option OutputFormat := none
  logFormat : Option LogFormat := none
  logLevel : Option LogLevel := none
deriving DecidableEq, Repr

/-- Options given behind a command go before those given in front of it. -/
def CommonOptions.orElse (inner outer : CommonOptions) : CommonOptions where
  format := inner.format.or outer.format
  logFormat := inner.logFormat.or outer.logFormat
  logLevel := inner.logLevel.or outer.logLevel

structure LayoutOptions where
  layout : Option LayoutKind := none
  config : Option String := none
  accessCode : Option String := none
  threshold : Option UInt32 := none
  /-- Bits of a payload symbol for the counter layout, of a header unit elsewhere. -/
  bps : Option UInt32 := none
  headerLength : Option UInt64 := none
  payloadBps : Option UInt32 := none
  noScramble : Bool := false
deriving DecidableEq, Repr

structure EncodeOptions where
  common : CommonOptions := {}
  select : LayoutOptions := {}
  data : Option String := none
  file : Option String := none
  length : Option UInt64 := none
  frame : Bool := false
  padding : Option UInt64 := none
  count : Option UInt64 := none
  metadata : List (String × Int64) := []
deriving DecidableEq, Repr

structure DecodeOptions where
  common : CommonOptions := {}
  select : LayoutOptions := {}
  input : Option String := none
  count : Option UInt64 := none
  chunkSize : Option UInt64 := none
deriving DecidableEq, Repr

structure LayoutReportOptions where
  common : CommonOptions := {}
  select : LayoutOptions := {}
deriving DecidableEq, Repr

structure VersionOptions where
  common : CommonOptions := {}
  extended : Bool := false
deriving DecidableEq, Repr

/-! ## Grammars -/

def valued (value? : String → Option α) (set : α → σ → σ) : Action σ :=
  .value false fun text state => (required (value? text)).map fun value => set value state

def commonAction? (modify : (CommonOptions → CommonOptions) → σ → σ) :
    String → Option (Action σ)
  | "format" => some (valued OutputFormat.ofName? fun value =>
      modify fun options => { options with format := some value })
  | "log-format" => some (valued LogFormat.ofName? fun value =>
      modify fun options => { options with logFormat := some value })
  | "log-level" => some (valued LogLevel.ofName? fun value =>
      modify fun options => { options with logLevel := some value })
  | _ => none

def layoutAction? (modify : (LayoutOptions → LayoutOptions) → σ → σ) :
    String → Option (Action σ)
  | "layout" => some (valued LayoutKind.ofName? fun value =>
      modify fun options => { options with layout := some value })
  | "config" => some (valued path? fun value =>
      modify fun options => { options with config := some value })
  | "access-code" => some (valued some fun value =>
      modify fun options => { options with accessCode := some value })
  | "threshold" => some (valued small? fun value =>
      modify fun options => { options with threshold := some value })
  | "bps" => some (valued small? fun value =>
      modify fun options => { options with bps := some value })
  | "header-len" => some (valued size? fun value =>
      modify fun options => { options with headerLength := some value })
  | "payload-bps" => some (valued small? fun value =>
      modify fun options => { options with payloadBps := some value })
  | "no-scramble" => some (.flag
      (modify fun options => { options with noScramble := true }))
  | _ => none

def encodeAction? : String → Option (Action EncodeOptions)
  | "data" => some (valued some fun value options => { options with data := some value })
  | "file" => some (valued path? fun value options => { options with file := some value })
  | "len" => some (valued size? fun value options => { options with length := some value })
  | "frame" => some (.flag fun options => { options with frame := true })
  | "padding" => some (valued size? fun value options =>
      { options with padding := some value })
  | "count" => some (valued size? fun value options => { options with count := some value })
  | "meta" => some (.value true fun text options =>
      match metadataEntry text with
      | .ok entry => .ok { options with metadata := options.metadata ++ [entry] }
      | .error detail => .error (.usage (some detail)))
  | _ => none

def decodeAction? : String → Option (Action DecodeOptions)
  | "count" => some (valued size? fun value options => { options with count := some value })
  | "chunk-size" => some (valued size? fun value options =>
      { options with chunkSize := some value })
  | _ => none

def versionAction? : String → Option (Action VersionOptions)
  | "extended" => some (.flag fun options => { options with extended := true })
  | _ => none

def encodeGrammar : Grammar EncodeOptions where
  action? name :=
    (encodeAction? name).or <|
      (layoutAction? (fun change options =>
        { options with select := change options.select }) name).or <|
      commonAction? (fun change options =>
        { options with common := change options.common }) name
  letter? _ := none
  words := .none

def decodeGrammar : Grammar DecodeOptions where
  action? name :=
    (decodeAction? name).or <|
      (layoutAction? (fun change options =>
        { options with select := change options.select }) name).or <|
      commonAction? (fun change options =>
        { options with common := change options.common }) name
  letter? _ := none
  words := .single fun text options =>
    (required (path? text)).map fun path => { options with input := some path }

def layoutGrammar : Grammar LayoutReportOptions where
  action? name :=
    (layoutAction? (fun change options =>
      { options with select := change options.select }) name).or <|
    commonAction? (fun change options =>
      { options with common := change options.common }) name
  letter? _ := none
  words := .none

def versionGrammar : Grammar VersionOptions where
  action? name :=
    (versionAction? name).or <|
      commonAction? (fun change options =>
        { options with common := change options.common }) name
  letter? _ := none
  words := .none

def programGrammar : Grammar CommonOptions where
  action? name :=
    if name = "version" then some (.stop .version)
    else commonAction? id name
  letter? letter := if letter = 'V' then some .version else none
  words := .commands ["encode", "decode", "layout", "version"]

/-! ## Commands -/

inductive Request
  | encode (options : EncodeOptions)
  | decode (options : DecodeOptions)
  | layout (options : LayoutReportOptions)
  | version (options : VersionOptions)
deriving DecidableEq, Repr

/-- A layout is selected by an option or by a file, not both. -/
def LayoutOptions.consistent (options : LayoutOptions) : Bool :=
  !(options.layout.isSome && options.config.isSome)

/-- The payload is given in one way at most, and a mere length is not framed. Padding
belongs to a frame; beside a mere length it is let through and has no effect. -/
def EncodeOptions.consistent (options : EncodeOptions) : Bool :=
  options.select.consistent &&
    !(options.data.isSome && options.file.isSome) &&
    !(options.data.isSome && options.length.isSome) &&
    !(options.file.isSome && options.length.isSome) &&
    !(options.length.isSome && options.frame) &&
    !(options.padding.isSome && !options.frame && options.length.isNone)

def readAll (grammar : Grammar σ) (initial : σ) (consistent : σ → Bool)
    (arguments : List String) : Except Stop σ := do
  let (scan, _) ← grammar.read (Scan.ofState initial) arguments
  let scan ← scan.settle
  if consistent scan.state then .ok scan.state else .error (.usage none)

def readCommand (name : String) (arguments : List String) : Except Stop Request :=
  match name with
  | "encode" =>
      (readAll encodeGrammar {} EncodeOptions.consistent arguments).map .encode
  | "decode" =>
      (readAll decodeGrammar {} (fun options => options.select.consistent) arguments).map
        .decode
  | "layout" =>
      (readAll layoutGrammar {} (fun options => options.select.consistent) arguments).map
        .layout
  | "version" =>
      (readAll versionGrammar {} (fun _ => true) arguments).map .version
  | _ => .error (.usage none)

namespace Request

def under (outer : CommonOptions) : Request → Request
  | encode options => encode { options with common := options.common.orElse outer }
  | decode options => decode { options with common := options.common.orElse outer }
  | layout options => layout { options with common := options.common.orElse outer }
  | version options => version { options with common := options.common.orElse outer }

def common : Request → CommonOptions
  | encode options => options.common
  | decode options => options.common
  | layout options => options.common
  | version options => options.common

/-- Reads the arguments of the program. A fault behind the command is noticed before the
last option in front of it is judged. -/
def ofArguments (arguments : List String) : Except Stop Request := do
  let (scan, command) ← programGrammar.read (Scan.ofState {}) arguments
  match command with
  | none => .error (.usage none)
  | some (name, rest) =>
      let request ← readCommand name rest
      let scan ← scan.settle
      .ok (request.under scan.state)

end Request

end PacketFraming.Command
