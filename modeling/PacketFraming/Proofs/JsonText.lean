import PacketFraming.Json.Reader

/-! The grammar of JSON text.

`Written` says which texts stand for a value: the strict grammar, with blanks around every token. It
names no way of reading. A number that is beyond the range of double precision is text of the
grammar and yet `unreadable`, and a string has no text in which half of a surrogate pair stands
alone. -/

namespace PacketFraming.Json

def Blanks (chars : List Char) : Prop :=
  ∀ char ∈ chars, isBlank char = true

theorem blanks_nil : Blanks [] :=
  fun _ member => nomatch member

/-! ## Strings -/

inductive CharText : Char → List Char → Prop
  | plain {char : Char} : char ≠ '"' → char ≠ '\\' → 0x20 ≤ char.toNat → CharText char [char]
  | short {char letter : Char} : shortEscape? letter = some char → CharText char ['\\', letter]
  | code {char first second third fourth : Char} :
      hexCode? first second third fourth = some char.toNat →
        CharText char ['\\', 'u', first, second, third, fourth]
  /-- A character beyond the basic plane, as the two halves of a surrogate pair. -/
  | pair {char first second third fourth fifth sixth seventh eighth : Char} {high low : Nat} :
      hexCode? first second third fourth = some high →
      hexCode? fifth sixth seventh eighth = some low →
      isHighHalf high = true → isLowHalf low = true →
      char.toNat = 0x10000 + (high - 0xD800) * 0x400 + (low - 0xDC00) →
        CharText char
          ['\\', 'u', first, second, third, fourth, '\\', 'u', fifth, sixth, seventh, eighth]

inductive StringText : List Char → List Char → Prop
  | nil : StringText [] []
  | cons {char : Char} {chars text others : List Char} :
      CharText char text → StringText chars others →
        StringText (char :: chars) (text ++ others)

/-! ## Numbers -/

structure Digits (chars : List Char) : Prop where
  some_digit : chars ≠ []
  all_digits : ∀ char ∈ chars, char.isDigit = true

/-- Digits before the point; only a single one may be a leading zero. -/
structure WholeText (digits : List Char) : Prop extends Digits digits where
  no_leading_zero : digits.head? = some '0' → digits = ['0']

inductive FractionText : Option (List Char) → List Char → Prop
  | none : FractionText none []
  | some {digits : List Char} : Digits digits → FractionText (some digits) ('.' :: digits)

inductive SignText : Bool → List Char → Prop
  | none : SignText false []
  | plus : SignText false ['+']
  | minus : SignText true ['-']

def signed (negative : Bool) (size : Nat) : Int :=
  if negative then -size else size

inductive ExponentText : Option Int → List Char → Prop
  | none : ExponentText none []
  | some {mark : Char} {negative : Bool} {sign digits : List Char} :
      mark = 'e' ∨ mark = 'E' → SignText negative sign → Digits digits →
        ExponentText (some (signed negative (Nat.ofDigitChars 10 digits 0)))
          (mark :: (sign ++ digits))

/-- A number stays within double precision. -/
def InRange (whole : List Char) (fraction : Option (List Char)) (exponent : Option Int) : Prop :=
  isFinite (significand whole (fraction.getD [])).1
    ((significand whole (fraction.getD [])).2 + exponent.getD 0) = true

/-- What a number stands for. Digits behind a sign are an integer, but for a negative zero. -/
inductive NumberStands (negative : Bool) (whole : List Char) :
    Option (List Char) → Option Int → Json → Prop
  | integer : InRange whole none none → ¬(negative = true ∧ Nat.ofDigitChars 10 whole 0 = 0) →
      NumberStands negative whole none none
        (integer (signed negative (Nat.ofDigitChars 10 whole 0)))
  | negativeZero : InRange whole none none → negative = true → Nat.ofDigitChars 10 whole 0 = 0 →
      NumberStands negative whole none none decimal
  | decimal {fraction : Option (List Char)} {exponent : Option Int} :
      InRange whole fraction exponent → fraction.isSome ∨ exponent.isSome →
        NumberStands negative whole fraction exponent decimal
  | beyond {fraction : Option (List Char)} {exponent : Option Int} :
      ¬InRange whole fraction exponent → NumberStands negative whole fraction exponent unreadable

/-! ## Values -/

def joined : List (List Char) → List Char
  | [] => []
  | [text] => text
  | text :: rest => text ++ ',' :: joined rest

structure MemberText where
  name : String
  value : Json
  nameText : List Char
  valueText : List Char
  before : List Char
  between : List Char

namespace MemberText

def text (member : MemberText) : List Char :=
  member.before ++ '"' :: (member.nameText ++ '"' :: (member.between ++ ':' :: member.valueText))

def entry (member : MemberText) : String × Json :=
  (member.name, member.value)

structure Named (member : MemberText) : Prop where
  blanks_before : Blanks member.before
  name_text : StringText member.name.toList member.nameText
  blanks_between : Blanks member.between

end MemberText

/-- A text that stands for a value. -/
inductive Written : List Char → Json → Prop
  | null : Written ['n', 'u', 'l', 'l'] null
  | boolTrue : Written ['t', 'r', 'u', 'e'] (bool true)
  | boolFalse : Written ['f', 'a', 'l', 's', 'e'] (bool false)
  | number {negative : Bool} {whole point power : List Char} {fraction : Option (List Char)}
      {exponent : Option Int} {json : Json} :
      WholeText whole → FractionText fraction point → ExponentText exponent power →
      NumberStands negative whole fraction exponent json →
        Written ((if negative then ['-'] else []) ++ (whole ++ (point ++ power))) json
  | string {content : String} {text : List Char} :
      StringText content.toList text → Written ('"' :: (text ++ ['"'])) (string content)
  | emptyArray {blanks : List Char} : Blanks blanks → Written ('[' :: (blanks ++ [']'])) (array [])
  | array {parts : List (List Char × Json)} :
      parts ≠ [] → (∀ part ∈ parts, Written part.1 part.2) →
        Written ('[' :: (joined (parts.map Prod.fst) ++ [']'])) (array (parts.map Prod.snd))
  | emptyObject {blanks : List Char} :
      Blanks blanks → Written ('\x7b' :: (blanks ++ ['\x7d'])) (object [])
  | object {members : List MemberText} :
      members ≠ [] → (∀ member ∈ members, member.Named) →
      (∀ member ∈ members, Written member.valueText member.value) →
        Written ('\x7b' :: (joined (members.map MemberText.text) ++ ['\x7d']))
          (object (members.map MemberText.entry))
  | padded {before text after : List Char} {json : Json} :
      Blanks before → Written text json → Blanks after → Written (before ++ (text ++ after)) json

end PacketFraming.Json
