import PacketFraming.Bits.Error
import PacketFraming.Bits.FieldBytes

/-! Access codes: the sync patterns that mark the start of a frame.

A code is held the way a receiver's shift register sees it once it has passed: its last
bit on the wire is the lowest bit of a word. `AccessCode.bits` lists it in the order of
transmission. -/

namespace PacketFraming

def lowMask (length : Nat) : UInt64 :=
  UInt64.ofNat (2 ^ length - 1)

theorem lowMask_toNat {length : Nat} (length_le : length ≤ 64) :
    (lowMask length).toNat = 2 ^ length - 1 := by
  have bound : 2 ^ length ≤ 2 ^ 64 := Nat.pow_le_pow_right (by decide) length_le
  have positive := Nat.two_pow_pos length
  rw [lowMask, UInt64.toNat_ofNat', Nat.mod_eq_of_lt]
  omega

/-- A sync pattern of whole bytes, at most 64 bits long. -/
structure AccessCode where
  word : UInt64
  length : Nat
  length_le : length ≤ 64
  aligned : length % 8 = 0
  word_lt : word.toNat < 2 ^ length
deriving DecidableEq

namespace AccessCode

def empty : AccessCode where
  word := 0
  length := 0
  length_le := by decide
  aligned := by decide
  word_lt := by decide

instance : Inhabited AccessCode := ⟨empty⟩

private theorem and_lowMask_lt (word : UInt64) {length : Nat} (length_le : length ≤ 64) :
    (word &&& lowMask length).toNat < 2 ^ length := by
  rw [UInt64.toNat_and, lowMask_toNat length_le]
  exact Nat.and_lt_two_pow _ (Nat.sub_lt (Nat.two_pow_pos length) Nat.one_pos)

/-- The lowest `length` bits of a word. The length is refused first for being too long and
then for not filling whole bytes. -/
def ofWord (word : UInt64) (length : Nat) : Except BitError AccessCode :=
  if length_le : length ≤ 64 then
    if aligned : length % 8 = 0 then
      .ok {
        word := word &&& lowMask length
        length, length_le, aligned
        word_lt := and_lowMask_lt word length_le }
    else .error (.accessCodeUnaligned length)
  else .error (.accessCodeTooLong length)

def firstForeign (index : Nat) : List Char → Option (Nat × Char)
  | [] => none
  | char :: rest =>
      if char = '0' ∨ char = '1' then firstForeign (index + 1) rest
      else some (index, char)

def wordOfDigits (digits : List Char) : UInt64 :=
  UInt64.ofNat (valueOfBits (digits.map (· == '1')))

/-- Reads a code from its digits, first transmitted bit first. A wrong number of characters
is reported before a wrong character. -/
def parse (text : String) : Except BitError AccessCode :=
  let digits := text.toList
  match ofWord (wordOfDigits digits) digits.length with
  | .error cause => .error cause
  | .ok code =>
      match firstForeign 0 digits with
      | some (index, char) => .error (.foreignAccessCodeChar index char)
      | none => .ok code

/-- The pattern in the order of transmission. -/
def bits (code : AccessCode) : List Bool :=
  bitsOfValue code.length code.word.toNat

@[simp] theorem length_bits (code : AccessCode) : code.bits.length = code.length :=
  length_bitsOfValue code.length code.word.toNat

theorem valueOfBits_bits (code : AccessCode) : valueOfBits code.bits = code.word.toNat := by
  rw [bits, valueOfBits_bitsOfValue, Nat.mod_eq_of_lt code.word_lt]

def toText (code : AccessCode) : String :=
  String.ofList (code.bits.map fun bit => if bit then '1' else '0')

instance : ToString AccessCode := ⟨toText⟩

def mask (code : AccessCode) : UInt64 :=
  lowMask code.length

def isEmpty (code : AccessCode) : Bool :=
  code.length == 0

theorem isEmpty_iff (code : AccessCode) : code.isEmpty = true ↔ code.length = 0 :=
  beq_iff_eq

def byteCount (code : AccessCode) : Nat :=
  code.length / 8

def bytes (code : AccessCode) : List UInt8 :=
  bigEndian code.byteCount code.word.toNat

@[simp] theorem length_bytes (code : AccessCode) : code.bytes.length = code.byteCount :=
  length_bigEndian code.byteCount code.word.toNat

theorem eight_mul_byteCount (code : AccessCode) : 8 * code.byteCount = code.length :=
  Nat.mul_div_cancel' (Nat.dvd_of_mod_eq_zero code.aligned)

end AccessCode

end PacketFraming
