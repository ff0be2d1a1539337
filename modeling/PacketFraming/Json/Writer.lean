import PacketFraming.Json.Value
import PacketFraming.Text.Hex

/-! Compact JSON text of a value. -/

namespace PacketFraming.Json

/-- A character inside a string. Quotes, backslashes and control characters are escaped,
and all others stand for themselves. -/
def escape (char : Char) : List Char :=
  if char = '"' then ['\\', '"']
  else if char = '\\' then ['\\', '\\']
  else if char = '\x08' then ['\\', 'b']
  else if char = '\x0c' then ['\\', 'f']
  else if char = '\n' then ['\\', 'n']
  else if char = '\r' then ['\\', 'r']
  else if char = '\t' then ['\\', 't']
  else if char.toNat < 0x20 then ['\\', 'u', '0', '0'] ++ Text.byteHex (UInt8.ofNat char.toNat)
  else [char]

def stringText (text : String) : List Char :=
  '"' :: text.toList.flatMap escape ++ ['"']

def integerText (value : Int) : List Char :=
  if value < 0 then '-' :: Nat.toDigits 10 value.natAbs else Nat.toDigits 10 value.natAbs

mutual

def text : Json → List Char
  | null => "null".toList
  | bool true => "true".toList
  | bool false => "false".toList
  | integer value => integerText value
  | decimal => "-0".toList
  | string content => stringText content
  | array items => '[' :: itemsText items ++ [']']
  | object members => '\x7b' :: membersText members ++ ['\x7d']
  | unreadable => "null".toList

def itemsText : List Json → List Char
  | [] => []
  | [item] => text item
  | item :: rest => text item ++ ',' :: itemsText rest

def membersText : List (String × Json) → List Char
  | [] => []
  | [(name, value)] => stringText name ++ ':' :: text value
  | (name, value) :: rest => stringText name ++ ':' :: text value ++ ',' :: membersText rest

end

def render (json : Json) : String :=
  String.ofList json.text

example : (array [integer (-5), string "a\"b"]).text = "[-5,\"a\\\"b\"]".toList := by
  decide +kernel

end PacketFraming.Json
