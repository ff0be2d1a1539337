import PacketFraming.Json.Value

/-! Reading JSON text.

The grammar is the strict one: no comments, no trailing commas, no leading zeros, and
nothing but blanks after the value. -/

namespace PacketFraming.Json

def isBlank (char : Char) : Bool :=
  char == ' ' || char == '\n' || char == '\t' || char == '\r'

def skipBlanks (chars : List Char) : List Char :=
  chars.dropWhile isBlank

/-! ## Strings -/

/-- A part of a string: a character that stands for itself, or a 16-bit code from an
escape. -/
inductive StringUnit
  | char (value : Char)
  | code (value : Nat)
deriving DecidableEq, Repr

def hexValue? (char : Char) : Option Nat :=
  if '0' ≤ char ∧ char ≤ '9' then some (char.toNat - '0'.toNat)
  else if 'a' ≤ char ∧ char ≤ 'f' then some (char.toNat - 'a'.toNat + 10)
  else if 'A' ≤ char ∧ char ≤ 'F' then some (char.toNat - 'A'.toNat + 10)
  else none

def hexCode? (first second third fourth : Char) : Option Nat := do
  let first ← hexValue? first
  let second ← hexValue? second
  let third ← hexValue? third
  let fourth ← hexValue? fourth
  some (((first * 16 + second) * 16 + third) * 16 + fourth)

def shortEscape? : Char → Option Char
  | '"' => some '"'
  | '\\' => some '\\'
  | '/' => some '/'
  | 'b' => some '\x08'
  | 'f' => some '\x0c'
  | 'n' => some '\n'
  | 'r' => some '\r'
  | 't' => some '\t'
  | _ => none

/-- The parts of a string up to its closing quote, and the text after it. Control
characters must be escaped. -/
def stringUnits? : List Char → Option (List StringUnit × List Char)
  | [] => none
  | '"' :: rest => some ([], rest)
  | '\\' :: 'u' :: first :: second :: third :: fourth :: rest => do
      let code ← hexCode? first second third fourth
      let (units, rest) ← stringUnits? rest
      some (.code code :: units, rest)
  | '\\' :: letter :: rest => do
      let char ← shortEscape? letter
      let (units, rest) ← stringUnits? rest
      some (.char char :: units, rest)
  | char :: rest =>
      if char.toNat < 0x20 then none
      else do
        let (units, rest) ← stringUnits? rest
        some (.char char :: units, rest)

def isHighHalf (code : Nat) : Bool :=
  0xD800 ≤ code && code < 0xDC00

def isLowHalf (code : Nat) : Bool :=
  0xDC00 ≤ code && code < 0xE000

/-- Joins surrogate pairs; `none` when half of a pair stands alone. -/
def joinUnits? : List StringUnit → Option (List Char)
  | [] => some []
  | .char value :: rest => (joinUnits? rest).map (value :: ·)
  | .code high :: .code low :: rest =>
      if isHighHalf high then
        if isLowHalf low then
          (joinUnits? rest).map
            (Char.ofNat (0x10000 + (high - 0xD800) * 0x400 + (low - 0xDC00)) :: ·)
        else none
      else if isLowHalf high then none
      else (joinUnits? (.code low :: rest)).map (Char.ofNat high :: ·)
  | .code value :: rest =>
      if isHighHalf value || isLowHalf value then none
      else (joinUnits? rest).map (Char.ofNat value :: ·)

/-- A string after its opening quote, and the text after its closing one. The string is
missing when half of a surrogate pair stands alone in it. -/
def stringBody? (chars : List Char) : Option (Option String × List Char) :=
  (stringUnits? chars).map fun (units, rest) =>
    ((joinUnits? units).map String.ofList, rest)

/-! ## Numbers -/

def digitRun (chars : List Char) : List Char × List Char :=
  (chars.takeWhile Char.isDigit, chars.dropWhile Char.isDigit)

/-- The digits before the point: a single zero, or any digits that start with another. -/
def wholeDigits? (chars : List Char) : Option (List Char × List Char) :=
  match digitRun chars with
  | ([], _) => none
  | ('0' :: _ :: _, _) => none
  | run => some run

def fractionDigits? : List Char → Option (Option (List Char) × List Char)
  | '.' :: rest =>
      match digitRun rest with
      | ([], _) => none
      | (digits, rest) => some (some digits, rest)
  | chars => some (none, chars)

def exponentDigits? (negative : Bool) (chars : List Char) : Option (Option Int × List Char) :=
  match digitRun chars with
  | ([], _) => none
  | (digits, rest) =>
      let size : Int := Nat.ofDigitChars 10 digits 0
      some (some (if negative then -size else size), rest)

def exponent? : List Char → Option (Option Int × List Char)
  | [] => some (none, [])
  | char :: rest =>
      if char = 'e' ∨ char = 'E' then
        match rest with
        | '-' :: rest => exponentDigits? true rest
        | '+' :: rest => exponentDigits? false rest
        | rest => exponentDigits? false rest
      else some (none, char :: rest)

/-- Digits behind `value` are added to it as long as it fits 64 bits, and counted onto
`kept`. -/
def boundedDigits (value kept : Nat) : List Char → Nat × Nat
  | [] => (value, kept)
  | digit :: rest =>
      let next := value * 10 + (digit.toNat - '0'.toNat)
      if next < 2 ^ 64 then boundedDigits next (kept + 1) rest else (value, kept)

/-- A number as a significand of at most 64 bits and a power of ten. Digits that do not fit
are dropped, and those before the point still count for the power. -/
def significand (whole fraction : List Char) : Nat × Int :=
  let (value, kept) := boundedDigits 0 0 whole
  let (value, places) := boundedDigits value 0 fraction
  (value, whole.length - kept - places)

/-- The multiple of a power of two that is nearest to a value and has at most 53 bits. A
value half way between two of them goes to the even one. -/
def roundToDouble (value : Nat) : Nat :=
  let shift := value.log2 - 52
  let quotient := value / 2 ^ shift
  let twice := 2 * (value % 2 ^ shift)
  let up := 2 ^ shift < twice || (twice == 2 ^ shift && quotient % 2 == 1)
  (if up then quotient + 1 else quotient) * 2 ^ shift

/-- Whether a number stays within double precision when its significand and its power of
ten are rounded first and then multiplied: whether the product lies below 2¹⁰²⁴ less half
a unit in the last place. Powers beyond 308 are out of range. -/
def isFinite (significand : Nat) (power : Int) : Bool :=
  significand == 0 || power ≤ 0 ||
    (power ≤ 308 &&
      roundToDouble significand * roundToDouble (10 ^ power.toNat) < 2 ^ 1024 - 2 ^ 970)

example : isFinite 17976931348623157 292 = true := by decide +kernel

example : isFinite 17976931348623157081 289 = false := by decide +kernel

def numberValue (negative : Bool) (whole : List Char) (fraction : Option (List Char))
    (exponent : Option Int) : Json :=
  let (value, power) := significand whole (fraction.getD [])
  let digits := Nat.ofDigitChars 10 whole 0
  if !isFinite value (power + exponent.getD 0) then unreadable
  else if fraction.isSome || exponent.isSome || (negative && digits == 0) then decimal
  else integer (if negative then -digits else digits)

def numberBody? (negative : Bool) (chars : List Char) : Option (Json × List Char) := do
  let (whole, chars) ← wholeDigits? chars
  let (fraction, chars) ← fractionDigits? chars
  let (exponent, chars) ← exponent? chars
  some (numberValue negative whole fraction exponent, chars)

/-! ## Values -/

/-- An object, unless one of its names is missing. -/
def objectOf (members : List (Option String × Json)) : Json :=
  match members.mapM fun (name, value) => name.map (·, value) with
  | some members => object members
  | none => unreadable

mutual

/-- A value with any blanks before it, and the text after it. -/
def value? : (fuel : Nat) → List Char → Option (Json × List Char)
  | 0, _ => none
  | fuel + 1, chars =>
      match skipBlanks chars with
      | 'n' :: 'u' :: 'l' :: 'l' :: rest => some (null, rest)
      | 't' :: 'r' :: 'u' :: 'e' :: rest => some (bool true, rest)
      | 'f' :: 'a' :: 'l' :: 's' :: 'e' :: rest => some (bool false, rest)
      | '"' :: rest =>
          (stringBody? rest).map fun (content, rest) =>
            (match content with
              | some content => string content
              | none => unreadable, rest)
      | '[' :: rest =>
          match skipBlanks rest with
          | ']' :: rest => some (array [], rest)
          | rest => (items? fuel rest).map fun (items, rest) => (array items, rest)
      | '\x7b' :: rest =>
          match skipBlanks rest with
          | '\x7d' :: rest => some (object [], rest)
          | rest => (members? fuel rest).map fun (members, rest) => (objectOf members, rest)
      | '-' :: rest => numberBody? true rest
      | rest => numberBody? false rest

def items? : (fuel : Nat) → List Char → Option (List Json × List Char)
  | 0, _ => none
  | fuel + 1, chars => do
      let (item, rest) ← value? fuel chars
      match skipBlanks rest with
      | ',' :: rest =>
          let (items, rest) ← items? fuel rest
          some (item :: items, rest)
      | ']' :: rest => some ([item], rest)
      | _ => none

def members? : (fuel : Nat) → List Char → Option (List (Option String × Json) × List Char)
  | 0, _ => none
  | fuel + 1, chars =>
      match skipBlanks chars with
      | '"' :: rest => do
          let (name, rest) ← stringBody? rest
          match skipBlanks rest with
          | ':' :: rest =>
              let (value, rest) ← value? fuel rest
              match skipBlanks rest with
              | ',' :: rest =>
                  let (members, rest) ← members? fuel rest
                  some ((name, value) :: members, rest)
              | '\x7d' :: rest => some ([(name, value)], rest)
              | _ => none
          | _ => none
      | _ => none

end

/-- The value that a whole text spells. Every step of the reading consumes a character, so
the length of the text bounds their number. -/
def parse? (text : String) : Option Json :=
  match value? (text.length + 1) text.toList with
  | some (value, rest) => if (skipBlanks rest).isEmpty then some value else none
  | none => none

/-- The value of a text in which every part must be readable. Values are nested at most 127
deep. -/
def parseReadable? (text : String) : Option Json :=
  (parse? text).filter (readable 127)

end PacketFraming.Json
