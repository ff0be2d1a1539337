import PacketFraming.Bits.Error
import PacketFraming.Bits.Packing

/-! The register that collects the bits of a received header.

Bits are packed into bytes, the first one in the highest position. Clearing the register
only forgets how many bits it holds; a byte is wiped when its first bit is written again.
`HeaderRegister.bits` lists the bits held, and each operation is described by what it does
to that list. -/

namespace PacketFraming

/-! ## Packed storage -/

def storedBit (bytes : Array UInt8) (index : Nat) : Bool :=
  (bytes.getD (index / 8) 0).toNat.testBit (7 - index % 8)

/-- A byte with one bit in the position of stream index `index` and zeros elsewhere. -/
def placed (bit : Bool) (index : Nat) : UInt8 :=
  UInt8.ofNat (bit.toNat * 2 ^ (7 - index % 8))

/-- The storage after the bit with stream index `index` has been added behind the others.
The first bit of a byte wipes it. -/
def stored (bytes : Array UInt8) (index : Nat) (bit : Bool) : Array UInt8 :=
  if index % 8 = 0 then
    if inside : index / 8 < bytes.size then bytes.set (index / 8) (placed bit index)
    else bytes.push (placed bit index)
  else bytes.modify (index / 8) (· ||| placed bit index)

theorem testBit_placed (bit : Bool) (index other : Nat) :
    (placed bit index).toNat.testBit (7 - other % 8) =
      (bit && decide (index % 8 = other % 8)) := by
  have position : index % 8 < 8 := Nat.mod_lt _ (by decide)
  have otherPosition : other % 8 < 8 := Nat.mod_lt _ (by decide)
  cases bit with
  | false => simp [placed]
  | true =>
      have bound : 2 ^ (7 - index % 8) < 2 ^ 8 :=
        Nat.pow_lt_pow_right (by decide) (by omega)
      have value : (placed true index).toNat = 2 ^ (7 - index % 8) := by
        simp only [placed, Bool.toNat_true, Nat.one_mul, UInt8.toNat_ofNat']
        exact Nat.mod_eq_of_lt bound
      rw [value, Nat.testBit_two_pow, Bool.true_and]
      apply decide_eq_decide.mpr
      omega

theorem lt_size_stored (bytes : Array UInt8) (index : Nat) (bit : Bool)
    (covered : index ≤ 8 * bytes.size) : index < 8 * (stored bytes index bit).size := by
  unfold stored
  split
  · split
    · rw [Array.size_set]
      omega
    · rw [Array.size_push]
      omega
  · rw [Array.size_modify]
    omega

theorem getD_stored_of_ne (bytes : Array UInt8) (index : Nat) (bit : Bool) {slot : Nat}
    (covered : index ≤ 8 * bytes.size) (other : slot ≠ index / 8) :
    (stored bytes index bit).getD slot 0 = bytes.getD slot 0 := by
  unfold stored
  split
  · split
    · simp [Ne.symm other]
    · have last : slot ≠ bytes.size := by omega
      simp [Array.getElem?_push, last]
  · simp [Array.getElem?_modify, Ne.symm other]

theorem getD_stored_self (bytes : Array UInt8) (index : Nat) (bit : Bool)
    (covered : index ≤ 8 * bytes.size) :
    (stored bytes index bit).getD (index / 8) 0 =
      if index % 8 = 0 then placed bit index
      else bytes.getD (index / 8) 0 ||| placed bit index := by
  unfold stored
  split
  · split
    · simp
    · have last : index / 8 = bytes.size := by omega
      simp [last]
  · have inside : index / 8 < bytes.size := by omega
    simp [Array.getElem_modify, inside]

theorem storedBit_stored_of_lt (bytes : Array UInt8) (index : Nat) (bit : Bool)
    (covered : index ≤ 8 * bytes.size) {earlier : Nat} (before : earlier < index) :
    storedBit (stored bytes index bit) earlier = storedBit bytes earlier := by
  by_cases sameByte : earlier / 8 = index / 8
  · have begun : index % 8 ≠ 0 := by omega
    have apart : ¬index % 8 = earlier % 8 := by omega
    rw [storedBit, storedBit, sameByte, getD_stored_self bytes index bit covered,
      if_neg begun, UInt8.toNat_or, Nat.testBit_or, testBit_placed]
    simp [apart]
  · rw [storedBit, storedBit, getD_stored_of_ne bytes index bit covered sameByte]

/-- Where the byte of the stored bit held a zero before, it now holds a zero or the bit. -/
theorem storedBit_stored_of_unwritten (bytes : Array UInt8) (index : Nat) (bit : Bool)
    (covered : index ≤ 8 * bytes.size) {later : Nat} (sameByte : later / 8 = index / 8)
    (unwritten : index % 8 ≠ 0 → storedBit bytes later = false) :
    storedBit (stored bytes index bit) later = (bit && decide (index = later)) := by
  have samePlace : index % 8 = later % 8 ↔ index = later := by omega
  rw [storedBit, sameByte, getD_stored_self bytes index bit covered]
  split
  · rw [testBit_placed, decide_eq_decide.mpr samePlace]
  · next begun =>
      have zero := unwritten begun
      rw [storedBit, sameByte] at zero
      rw [UInt8.toNat_or, Nat.testBit_or, zero, testBit_placed,
        decide_eq_decide.mpr samePlace, Bool.false_or]

/-! ## The register -/

/-- Bits received since the register was last cleared. -/
structure HeaderRegister where
  bytes : Array UInt8
  length : Nat
  covered : length ≤ 8 * bytes.size
  /-- The end of a byte that has been begun is zero. -/
  unwritten : ∀ index, length ≤ index → index < (length + 7) / 8 * 8 →
    storedBit bytes index = false

namespace HeaderRegister

def empty : HeaderRegister where
  bytes := #[]
  length := 0
  covered := by decide
  unwritten := by
    intro index _ inside
    omega

instance : Inhabited HeaderRegister := ⟨empty⟩

def insert (register : HeaderRegister) (bit : Bool) : HeaderRegister :=
  match register with
  | ⟨bytes, length, covered, unwritten⟩ => {
      bytes := stored bytes length bit
      length := length + 1
      covered := lt_size_stored bytes length bit covered
      unwritten := by
        intro index after inside
        have sameByte : index / 8 = length / 8 := by omega
        have apart : ¬length = index := by omega
        rw [storedBit_stored_of_unwritten bytes length bit covered sameByte
          fun begun => unwritten index (by omega) (by omega)]
        simp [apart] }

/-- Appends the lowest bits of a unit, least significant first; a unit has at most eight. -/
def insertUnit (register : HeaderRegister) (unit : UInt8) (width : Nat) : HeaderRegister :=
  (List.range (min width 8)).foldl
    (fun register index => register.insert (unit.toNat.testBit index)) register

/-- Forgets all bits and keeps the storage. -/
def clear (register : HeaderRegister) : HeaderRegister where
  bytes := register.bytes
  length := 0
  covered := Nat.zero_le _
  unwritten := by
    intro index _ inside
    omega

def bitAt (register : HeaderRegister) (index : Nat) : Bool :=
  storedBit register.bytes index

def bits (register : HeaderRegister) : List Bool :=
  (List.range register.length).map register.bitAt

@[simp] theorem length_bits (register : HeaderRegister) :
    register.bits.length = register.length := by
  simp [bits]

@[simp] theorem bits_empty : empty.bits = [] := rfl

@[simp] theorem bits_clear (register : HeaderRegister) : register.clear.bits = [] := rfl

@[simp] theorem length_insert (register : HeaderRegister) (bit : Bool) :
    (register.insert bit).length = register.length + 1 := rfl

@[simp] theorem bits_insert (register : HeaderRegister) (bit : Bool) :
    (register.insert bit).bits = register.bits ++ [bit] := by
  obtain ⟨bytes, length, covered, unwritten⟩ := register
  rw [bits, length_insert, List.range_succ, List.map_append]
  congr 1
  · apply List.map_congr_left
    intro index member
    exact storedBit_stored_of_lt bytes length bit covered (List.mem_range.mp member)
  · have last := storedBit_stored_of_unwritten bytes length bit covered rfl
      fun begun => unwritten length (Nat.le_refl length) (by omega)
    simpa [bitAt, insert] using last

theorem bits_foldl_insert (register : HeaderRegister) (added : List Bool) :
    (added.foldl insert register).bits = register.bits ++ added := by
  induction added generalizing register with
  | nil => simp
  | cons bit rest induction => simp [induction]

theorem bits_insertUnit (register : HeaderRegister) (unit : UInt8) (width : Nat) :
    (register.insertUnit unit width).bits =
      register.bits ++ (List.range (min width 8)).map unit.toNat.testBit := by
  rw [insertUnit, ← bits_foldl_insert, List.foldl_map]

@[simp] theorem length_insertUnit (register : HeaderRegister) (unit : UInt8) (width : Nat) :
    (register.insertUnit unit width).length = register.length + min width 8 := by
  rw [← length_bits, bits_insertUnit]
  simp

/-! ## Fields -/

/-- The bits of a field. A field has 1 to 64 bits, all of which must be held; the width is
judged before the position. -/
def field (register : HeaderRegister) (offset width : Nat) :
    Except BitError (List Bool) :=
  if width = 0 ∨ 64 < width then .error (.invalidFieldWidth width)
  else if offset + width ≤ register.length then
    .ok ((List.range width).map fun index => register.bitAt (offset + index))
  else .error (.fieldOutOfRange offset width register.length)

theorem field_eq_ok (register : HeaderRegister) {offset width : Nat}
    (width_pos : 1 ≤ width) (width_le : width ≤ 64)
    (held : offset + width ≤ register.length) :
    register.field offset width = .ok ((register.bits.drop offset).take width) := by
  have wide : ¬(width = 0 ∨ 64 < width) := by omega
  rw [field, if_neg wide, if_pos held]
  congr 1
  apply List.ext_getElem
  · simp only [List.length_map, List.length_range, List.length_take, List.length_drop,
      length_bits]
    omega
  · intro index _ _
    simp [bits]

/-- The value of a field whose first bit is the most significant. -/
def extract (register : HeaderRegister) (offset width : Nat) : Except BitError Nat :=
  (register.field offset width).map valueOfBits

/-- The value of a field whose first bit is the least significant. -/
def extractReversed (register : HeaderRegister) (offset width : Nat) :
    Except BitError Nat :=
  (register.field offset width).map valueOfReversedBits

def value? (register : HeaderRegister) (offset width : Nat) : Option Nat :=
  (register.extract offset width).toOption

/-! ## Fields in words

To callers the place of a field and its value are words of 64 bits. The end of a field that is
asked for need not be a word, and a value is put together by shifts. -/

/-- The end of a field, if it is a word. -/
def fieldEnd? (offset width : UInt64) : Option UInt64 :=
  if offset.toNat + width.toNat < 2 ^ 64 then some (offset + width) else none

/-- The causes for which a field is refused. -/
def checkField (register : HeaderRegister) (offset width : UInt64) : Except BitError Unit :=
  let outside := .error (.fieldOutOfRange offset.toNat width.toNat register.length)
  if width = 0 ∨ 64 < width then .error (.invalidFieldWidth width.toNat)
  else
    match fieldEnd? offset width with
    | some last => if last.toNat ≤ register.length then .ok () else outside
    | none => outside

/-- The value of a field, into which its bits are shifted from below. -/
def extractWord (register : HeaderRegister) (offset width : UInt64) :
    Except BitError UInt64 := do
  register.checkField offset width
  return (List.range width.toNat).foldl
    (fun word index => (word <<< 1) ||| (register.bitAt (offset.toNat + index)).toUInt64) 0

/-- The value of a field, in which every bit is shifted up to its place. -/
def extractWordReversed (register : HeaderRegister) (offset width : UInt64) :
    Except BitError UInt64 := do
  register.checkField offset width
  return (List.range width.toNat).foldl
    (fun word index =>
      word ||| ((register.bitAt (offset.toNat + index)).toUInt64 <<< UInt64.ofNat index)) 0

/-- A field that is as wide as a shorter word, as that word. -/
def extractNarrow {Word : Type} (width : UInt64) (narrow : UInt64 → Word)
    (register : HeaderRegister) (offset : UInt64) : Except BitError Word :=
  (register.extractWord offset width).map narrow

def extract8 : HeaderRegister → UInt64 → Except BitError UInt8 :=
  extractNarrow 8 UInt64.toUInt8

def extract16 : HeaderRegister → UInt64 → Except BitError UInt16 :=
  extractNarrow 16 UInt64.toUInt16

def extract32 : HeaderRegister → UInt64 → Except BitError UInt32 :=
  extractNarrow 32 UInt64.toUInt32

end HeaderRegister

end PacketFraming
