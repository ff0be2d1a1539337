import PacketFraming.Metadata.Basic
import PacketFraming.Json.Reader
import PacketFraming.Json.Writer

/-! Metadata as JSON: an object whose values are integers or lists of bytes. -/

namespace PacketFraming

namespace MetaValue

def toJson : MetaValue → Json
  | int value => .integer value.toInt
  | bytes value => .array (value.map fun byte => .natural byte.toNat)

def ofJson? (json : Json) : Option MetaValue :=
  match json with
  | .integer _ => json.int64?.map int
  | .array _ => (json.list? Json.uint8?).map bytes
  | _ => none

end MetaValue

namespace Metadata

def toJson (metadata : Metadata) : Json :=
  .object (metadata.entries.map fun entry => (entry.1, entry.2.toJson))

/-- The members of an object as entries, in the order of the text. -/
def entriesOfJson? : Json → Option (List (String × MetaValue))
  | .object members =>
      members.mapM fun entry => (MetaValue.ofJson? entry.2).map (entry.1, ·)
  | _ => none

/-- Members are inserted in the order of the text, so a repeated name keeps its first
place and its last value. -/
def ofJson? : Json → Option Metadata
  | .object members =>
      (members.mapM fun entry => (MetaValue.ofJson? entry.2).map (entry.1, ·)).map ofList
  | _ => none

theorem ofJson?_eq (json : Json) : ofJson? json = (entriesOfJson? json).map ofList := by
  cases json <;> rfl

def parse? (text : String) : Option Metadata :=
  (Json.parseReadable? text).bind ofJson?

end Metadata

end PacketFraming
