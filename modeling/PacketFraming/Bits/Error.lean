import PacketFraming.Text.Quoted

/-! The causes for which a bit-level operation is refused. -/

namespace PacketFraming

/-- Why an access code, a threshold, a field or a scrambler was refused. -/
inductive BitError
  | accessCodeTooLong (length : Nat)
  | accessCodeUnaligned (length : Nat)
  | foreignAccessCodeChar (index : Nat) (char : Char)
  | thresholdTooLarge (threshold length : Nat)
  | fieldOutOfRange (offset width length : Nat)
  | invalidFieldWidth (width : Nat)
  | scramblerTooLong (length : Nat)
deriving DecidableEq, Repr

namespace BitError

def message : BitError → String
  | accessCodeTooLong length =>
      s!"access code too long ({length} bits, max 64)"
  | accessCodeUnaligned length =>
      s!"access code length {length} is not a multiple of 8 bits"
  | foreignAccessCodeChar index char =>
      "invalid access code character " ++ Text.quotedChar char ++ s!" at position {index}"
  | thresholdTooLarge threshold length =>
      s!"threshold {threshold} exceeds access code length ({length} bits)"
  | fieldOutOfRange offset width length =>
      s!"field [{offset}, {offset}+{width}) out of range ({length} bits held)"
  | invalidFieldWidth width =>
      s!"invalid field width {width} (must be 1-64)"
  | scramblerTooLong length =>
      s!"lfsr register length {length} too large (max 31)"

end BitError

end PacketFraming
