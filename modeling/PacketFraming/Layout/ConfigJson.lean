import PacketFraming.Json.Reader
import PacketFraming.Json.Writer
import PacketFraming.Layout.Config

/-! Layout selections as JSON.

A selection is an object whose member `layout` names the layout. The other members are the
layout's parameters, in any order; a missing one takes its default, and unknown ones are
ignored. A list is read as well: the name first, then the parameters in their order. -/

namespace PacketFraming

namespace PlainConfig

def fieldNames : List String := ["access_code", "threshold"]

def members (config : PlainConfig) : List (String × Json) :=
  [("access_code", .string config.accessCode),
   ("threshold", .natural config.threshold.toNat)]

def ofJson? (json : Json) : Option PlainConfig := do
  let members ← json.record? fieldNames
  let base : PlainConfig := {}
  let accessCode ← Json.field? members "access_code" Json.string? base.accessCode
  let threshold ← Json.field? members "threshold" Json.uint32? base.threshold
  some { accessCode, threshold }

end PlainConfig

namespace CounterConfig

def fieldNames : List String := ["access_code", "threshold", "bps"]

def members (config : CounterConfig) : List (String × Json) :=
  [("access_code", .string config.accessCode),
   ("threshold", .natural config.threshold.toNat),
   ("bps", .natural config.symbolBits.toNat)]

def ofJson? (json : Json) : Option CounterConfig := do
  let members ← json.record? fieldNames
  let base : CounterConfig := {}
  let accessCode ← Json.field? members "access_code" Json.string? base.accessCode
  let threshold ← Json.field? members "threshold" Json.uint32? base.threshold
  let symbolBits ← Json.field? members "bps" Json.uint16? base.symbolBits
  some { accessCode, threshold, symbolBits }

end CounterConfig

namespace CrcConfig

def fieldNames : List String := ["len_key", "num_key"]

def members (config : CrcConfig) : List (String × Json) :=
  [("len_key", .string config.lengthKey),
   ("num_key", .string config.counterKey)]

def ofJson? (json : Json) : Option CrcConfig := do
  let members ← json.record? fieldNames
  let base : CrcConfig := {}
  let lengthKey ← Json.field? members "len_key" Json.string? base.lengthKey
  let counterKey ← Json.field? members "num_key" Json.string? base.counterKey
  some { lengthKey, counterKey }

end CrcConfig

namespace UnitsConfig

def fieldNames : List String := ["header_len", "bits_per_symbol", "len_key", "num_key"]

def members (config : UnitsConfig) : List (String × Json) :=
  [("header_len", .natural config.count.toNat),
   ("bits_per_symbol", .natural config.width.toNat),
   ("len_key", .string config.lengthKey),
   ("num_key", .string config.counterKey)]

def ofJson? (json : Json) : Option UnitsConfig := do
  let members ← json.record? fieldNames
  let base : UnitsConfig := {}
  let count ← Json.field? members "header_len" Json.uint64? base.count
  let width ← Json.field? members "bits_per_symbol" Json.uint32? base.width
  let lengthKey ← Json.field? members "len_key" Json.string? base.lengthKey
  let counterKey ← Json.field? members "num_key" Json.string? base.counterKey
  some { count, width, lengthKey, counterKey }

end UnitsConfig

namespace CarriersConfig

def fieldNames : List String :=
  ["occupied_carriers", "n_syms", "len_key", "frame_len_key", "num_key",
   "bits_per_header_sym", "bits_per_payload_sym", "scramble_header"]

def members (config : CarriersConfig) : List (String × Json) :=
  [("occupied_carriers", .array (config.table.map fun row =>
      .array (row.map fun carrier => .integer carrier.toInt))),
   ("n_syms", .natural config.headerSymbols.toNat),
   ("len_key", .string config.lengthKey),
   ("frame_len_key", .string config.frameLengthKey),
   ("num_key", .string config.counterKey),
   ("bits_per_header_sym", .natural config.width.toNat),
   ("bits_per_payload_sym", .natural config.symbolBits.toNat),
   ("scramble_header", .bool config.scrambled)]

def ofJson? (json : Json) : Option CarriersConfig := do
  let members ← json.record? fieldNames
  let base : CarriersConfig := {}
  let table ← Json.field? members "occupied_carriers"
    (Json.list? (Json.list? Json.int32?)) base.table
  let headerSymbols ← Json.field? members "n_syms" Json.uint64? base.headerSymbols
  let lengthKey ← Json.field? members "len_key" Json.string? base.lengthKey
  let frameLengthKey ← Json.field? members "frame_len_key" Json.string? base.frameLengthKey
  let counterKey ← Json.field? members "num_key" Json.string? base.counterKey
  let width ← Json.field? members "bits_per_header_sym" Json.uint32? base.width
  let symbolBits ← Json.field? members "bits_per_payload_sym" Json.uint32? base.symbolBits
  let scrambled ← Json.field? members "scramble_header" Json.bool? base.scrambled
  some {
    table, headerSymbols, lengthKey, frameLengthKey, counterKey, width, symbolBits,
    scrambled }

end CarriersConfig

namespace LayoutConfig

def name : LayoutConfig → String
  | plain _ => "default"
  | counter _ => "counter"
  | crc _ => "crc"
  | units _ => "variable_bits"
  | carriers _ => "ofdm"

def members : LayoutConfig → List (String × Json)
  | plain config => config.members
  | counter config => config.members
  | crc config => config.members
  | units config => config.members
  | carriers config => config.members

def toJson (config : LayoutConfig) : Json :=
  .object (("layout", .string config.name) :: config.members)

/-- The name of the selected layout, and the value that its parameters are read from. -/
def tagged? : Json → Option (String × Json)
  | .object members =>
      match members.filter fun entry => entry.1 == "layout" with
      | [(_, .string name)] => some (name, .object members)
      | _ => none
  | .array (.string name :: parameters) => some (name, .array parameters)
  | _ => none

def ofJson? (json : Json) : Option LayoutConfig := do
  let (name, parameters) ← tagged? json
  match name with
  | "default" => (PlainConfig.ofJson? parameters).map plain
  | "counter" => (CounterConfig.ofJson? parameters).map counter
  | "crc" => (CrcConfig.ofJson? parameters).map crc
  | "variable_bits" => (UnitsConfig.ofJson? parameters).map units
  | "ofdm" => (CarriersConfig.ofJson? parameters).map carriers
  | _ => none

/-- Reads a selection from text, every part of which must be readable. -/
def parse? (text : String) : Option LayoutConfig :=
  (Json.parseReadable? text).bind ofJson?

end LayoutConfig

end PacketFraming
