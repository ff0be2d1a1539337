import PacketFraming.Bits.Correlator

/-! The linear feedback shift register that whitens headers. -/

namespace PacketFraming

/-- A Fibonacci shift register. The mask selects the bits whose parity is fed back in at
position `length`. -/
structure Scrambler where
  mask : UInt32
  seed : UInt32
  length : Nat
  length_le : length ≤ 31
  register : UInt32
deriving DecidableEq

namespace Scrambler

/-- A register in its seed state; it must fit a 32-bit word with its feedback bit. -/
def ofSeed (mask seed : UInt32) (length : Nat) : Except BitError Scrambler :=
  if length_le : length ≤ 31 then
    .ok { mask, seed, length, length_le, register := seed }
  else .error (.scramblerTooLong length)

def feedback (scrambler : Scrambler) : Bool :=
  countOnes 32 (scrambler.register &&& scrambler.mask).toUInt64 % 2 == 1

def output (scrambler : Scrambler) : Bool :=
  scrambler.register.toNat % 2 == 1

/-- Shifts right by one place and feeds the parity back in. -/
def advance (scrambler : Scrambler) : Scrambler :=
  { scrambler with
    register := (scrambler.register >>> 1) |||
      ((if scrambler.feedback then 1 else 0) <<< UInt32.ofNat scrambler.length) }

def nextBits : (count : Nat) → Scrambler → List Bool × Scrambler
  | 0, scrambler => ([], scrambler)
  | count + 1, scrambler =>
      let (bits, last) := nextBits count scrambler.advance
      (scrambler.output :: bits, last)

/-- The next unit of at most eight bits, the first one least significant. -/
def nextUnit (width : Nat) (scrambler : Scrambler) : UInt8 × Scrambler :=
  let (bits, last) := nextBits (min width 8) scrambler
  (UInt8.ofNat (valueOfReversedBits bits), last)

def nextUnits (width : Nat) : (count : Nat) → Scrambler → List UInt8 × Scrambler
  | 0, scrambler => ([], scrambler)
  | count + 1, scrambler =>
      let (unit, next) := scrambler.nextUnit width
      let (units, last) := nextUnits width count next
      (unit :: units, last)

def reset (scrambler : Scrambler) : Scrambler :=
  { scrambler with register := scrambler.seed }

end Scrambler

end PacketFraming
