import PacketFraming.Text.CharClass

/-! Quoted characters and strings, as messages show what a user typed.

Every character that could not be read off the screen is replaced by an escape: the usual
short ones, or its code point in hexadecimal. -/

namespace PacketFraming.Text

def hexDigits (value : Nat) : List Char :=
  Nat.toDigits 16 value

def codePointEscape (char : Char) : List Char :=
  ['\\', 'u', '\x7b'] ++ hexDigits char.toNat ++ ['\x7d']

/-- One character inside quotes of the kind `quote`: only that kind of quote is escaped. -/
def escapeInside (quote char : Char) : List Char :=
  if char = '\x00' then ['\\', '0']
  else if char = '\t' then ['\\', 't']
  else if char = '\r' then ['\\', 'r']
  else if char = '\n' then ['\\', 'n']
  else if char = '\\' || char = quote then ['\\', char]
  else if inRanges markRanges char || inRanges unprintableRanges char then
    codePointEscape char
  else [char]

def quotedChar (char : Char) : String :=
  String.ofList ('\'' :: escapeInside '\'' char ++ ['\''])

def quoted (text : String) : String :=
  String.ofList ('"' :: text.toList.flatMap (escapeInside '"') ++ ['"'])

example : escapeInside '\'' '"' = ['"'] := by decide +kernel

example : escapeInside '"' '"' = ['\\', '"'] := by decide +kernel

example : escapeInside '"' '\u200b' = ['\\', 'u', '\x7b', '2', '0', '0', 'b', '\x7d'] := by
  decide +kernel

end PacketFraming.Text
