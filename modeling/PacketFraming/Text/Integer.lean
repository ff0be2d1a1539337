/-! Integers as they are typed: decimal digits, perhaps behind a sign. -/

namespace PacketFraming.Text

/-- The value of one decimal digit or more, and of nothing else. -/
def digitsValue? (chars : List Char) : Option Nat :=
  if !chars.isEmpty && chars.all Char.isDigit then some (Nat.ofDigitChars 10 chars 0)
  else none

def integer? : List Char → Option Int
  | '-' :: rest => (digitsValue? rest).map fun value => -(value : Int)
  | '+' :: rest => (digitsValue? rest).map Int.ofNat
  | chars => (digitsValue? chars).map Int.ofNat

def natural? : List Char → Option Nat
  | '+' :: rest => digitsValue? rest
  | chars => digitsValue? chars

example : integer? "-007".toList = some (-7) := by decide +kernel

example : natural? "-0".toList = none := by decide +kernel

end PacketFraming.Text
