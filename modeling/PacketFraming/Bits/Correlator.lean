import PacketFraming.Bits.AccessCode

/-! Searching a bit stream for an access code under bit errors.

The correlator shifts every received bit into a word and compares its newest bits with the
code. Words that were shifted in before the last reset never take part in a match. -/

namespace PacketFraming

def countOnes : (width : Nat) → (word : UInt64) → Nat
  | 0, _ => 0
  | width + 1, word => (word &&& 1).toNat + countOnes width (word >>> 1)

example : countOnes 64 0xF0 = 4 := rfl

/-- A detector for one access code that tolerates a number of wrong bits. -/
structure Correlator where
  code : AccessCode
  threshold : Nat
  /-- The last 64 received bits, the newest one lowest. -/
  history : UInt64
  /-- Bits received since the last reset, counted up to 64. -/
  filled : Nat
deriving DecidableEq

namespace Correlator

def ofCode (code : AccessCode) : Correlator where
  code := code
  threshold := 0
  history := 0
  filled := 0

/-- Changes the tolerated number of wrong bits, which cannot exceed the code's length. -/
def setThreshold (correlator : Correlator) (threshold : Nat) :
    Except BitError Correlator :=
  if threshold ≤ correlator.code.length then .ok { correlator with threshold }
  else .error (.thresholdTooLarge threshold correlator.code.length)

def distance (correlator : Correlator) : Nat :=
  countOnes 64 ((correlator.history ^^^ correlator.code.word) &&& correlator.code.mask)

def shift (correlator : Correlator) (bit : Bool) : Correlator :=
  { correlator with
    history := (correlator.history <<< 1) ||| (if bit then 1 else 0)
    filled := min (correlator.filled + 1) 64 }

/-- The distance, if it is tolerated and enough bits have arrived. -/
def found? (correlator : Correlator) : Option Nat :=
  if correlator.filled < correlator.code.length then none
  else if correlator.distance ≤ correlator.threshold then some correlator.distance
  else none

def push (correlator : Correlator) (bit : Bool) : Correlator × Option Nat :=
  let shifted := correlator.shift bit
  (shifted, shifted.found?)

def reset (correlator : Correlator) : Correlator :=
  { correlator with history := 0, filled := 0 }

end Correlator

end PacketFraming
