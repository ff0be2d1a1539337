/-! Soft decisions: single-precision samples whose sign stands for a bit. -/

namespace PacketFraming

/-- A sample, kept as its single-precision bit pattern: a sign bit above 31 bits of
magnitude. -/
structure SoftValue where
  pattern : UInt32
deriving DecidableEq, Repr

namespace SoftValue

/-- The magnitude bits of infinity; every larger magnitude is not a number. -/
def infinityMagnitude : Nat := 0x7F800000

def magnitude (value : SoftValue) : Nat :=
  value.pattern.toNat % 2 ^ 31

/-- Less than zero: the sign is set, and the value is neither zero nor not a number. -/
def isNegative (value : SoftValue) : Bool :=
  2 ^ 31 ≤ value.pattern.toNat && 0 < value.magnitude &&
    value.magnitude ≤ infinityMagnitude

/-- The hard decision: 0 for a negative value and 1 for any other. -/
def slice (value : SoftValue) : UInt8 :=
  if value.isNegative then 0 else 1

example : slice ⟨0x80000000⟩ = 1 := rfl

example : slice ⟨0xBF800000⟩ = 0 := rfl

example : slice ⟨0xFFC00000⟩ = 1 := rfl

end SoftValue

end PacketFraming
