import Mathlib.Data.List.DropRight
import PacketFraming.Proofs.Traps

/-! The register as a list of bits.

However bits and units were inserted, and however often the register was cleared in between, it
holds the bits inserted since it was last cleared: what earlier ones have left in its storage is
never seen. A field is a stretch of these bits, in whichever of the two orders it is read. -/

namespace PacketFraming

namespace HeaderRegister

/-! ## Uses of a register -/

inductive Change
  | insert (item : UInt8)
  | insertUnit (unit : UInt8) (width : Nat)
  | clear
deriving DecidableEq

/-- The bits that a change adds: the lowest one of an item, and the lowest ones of a unit, least
significant first. -/
def Change.bits : Change → List Bool
  | .insert item => [itemBit item]
  | .insertUnit unit width => (List.range (min width 8)).map unit.toNat.testBit
  | .clear => []

def after (register : HeaderRegister) : Change → HeaderRegister
  | .insert item => register.insert (itemBit item)
  | .insertUnit unit width => register.insertUnit unit width
  | .clear => register.clear

def afterAll (changes : List Change) : HeaderRegister :=
  changes.foldl after .empty

theorem afterAll_concat (changes : List Change) (change : Change) :
    afterAll (changes ++ [change]) = (afterAll changes).after change :=
  List.foldl_append

/-- The bits inserted since the last time that the register was cleared. -/
def heldBits (changes : List Change) : List Bool :=
  (changes.rtakeWhile (· ≠ .clear)).flatMap Change.bits

theorem heldBits_clear (changes : List Change) : heldBits (changes ++ [.clear]) = [] := by
  rw [heldBits, List.rtakeWhile_concat_neg _ _ _ (by decide)]
  rfl

theorem heldBits_insert (changes : List Change) {change : Change} (inserts : change ≠ .clear) :
    heldBits (changes ++ [change]) = heldBits changes ++ change.bits := by
  have kept := List.rtakeWhile_concat_pos (fun change => decide (change ≠ .clear)) changes change
    (decide_eq_true inserts)
  rw [heldBits, kept, List.flatMap_append, List.flatMap_singleton, heldBits]

theorem bits_after (register : HeaderRegister) {change : Change} (inserts : change ≠ .clear) :
    (register.after change).bits = register.bits ++ change.bits := by
  cases change with
  | insert item => exact register.bits_insert (itemBit item)
  | insertUnit unit width => exact register.bits_insertUnit unit width
  | clear => exact absurd rfl inserts

theorem bits_afterAll (changes : List Change) :
    (afterAll changes).bits = heldBits changes := by
  induction changes using List.reverseRecOn with
  | nil => rfl
  | append_singleton changes change induction =>
      rw [afterAll_concat]
      by_cases cleared : change = .clear
      · subst cleared
        rw [heldBits_clear]
        rfl
      · rw [bits_after _ cleared, heldBits_insert changes cleared, induction]

/-! ## Changes of the storage

The same changes, made to bytes and a length of which nothing is known: each one puts its bits
into the storage as it is, and could run into a trap there. -/

open Guarded in
def Change.perform (register : RawRegister) : Change → Guarded RawRegister
  | .insert item => register.insertBit item
  | .insertUnit unit width => register.insertUnit unit width
  | .clear => .ok { register with length := 0 }

theorem perform_eq_ok (register : HeaderRegister) (change : Change) :
    change.perform register.raw = .ok (register.after change).raw := by
  cases change with
  | insert item => exact Guarded.insertBit_eq_ok register item
  | insertUnit unit width => exact Guarded.insertUnit_eq_ok register unit width
  | clear => rfl

theorem foldlM_perform_eq_ok (changes : List Change) (register : HeaderRegister) :
    changes.foldlM Change.perform register.raw = .ok (changes.foldl after register).raw := by
  induction changes generalizing register with
  | nil => rfl
  | cons change rest induction =>
      rw [List.foldlM_cons, perform_eq_ok, Guarded.ok_bind, induction, List.foldl_cons]

/-! ## Fields -/

/-- What a field of bits is: a stretch of 1 to 64 of them, read as a number, if there are that
many. -/
def fieldOf (read : List Bool → Nat) (bits : List Bool) (offset width : Nat) :
    Except BitError Nat :=
  if width = 0 ∨ 64 < width then .error (.invalidFieldWidth width)
  else if bits.length < offset + width then
    .error (.fieldOutOfRange offset width bits.length)
  else .ok (read ((bits.drop offset).take width))

section Fields

variable (register : HeaderRegister)

theorem field_map_eq (read : List Bool → Nat) (offset width : Nat) :
    (register.field offset width).map read = fieldOf read register.bits offset width := by
  unfold fieldOf
  split
  · next refused =>
    rw [field, if_pos refused]
    rfl
  · next sized =>
    rw [length_bits]
    split
    · next outside =>
      rw [field, if_neg sized, if_neg (Nat.not_le.mpr outside)]
      rfl
    · next inside =>
      rw [field_eq_ok register (by omega) (by omega) (Nat.not_lt.mp inside)]
      rfl

theorem checkField_eq (wordLength : register.length < 2 ^ 64) (offset width : UInt64) :
    register.checkField offset width =
      (register.field offset.toNat width.toNat).map fun _ => () := by
  have refused : (width = 0 ∨ 64 < width) ↔ (width.toNat = 0 ∨ 64 < width.toNat) := by
    rw [← UInt64.toNat_inj, UInt64.lt_iff_toNat_lt]
    rfl
  unfold checkField field fieldEnd?
  simp only [refused]
  split
  · rfl
  · by_cases word : offset.toNat + width.toNat < 2 ^ 64
    · have last : (offset + width).toNat = offset.toNat + width.toNat := by
        rw [UInt64.toNat_add, Nat.mod_eq_of_lt word]
      simp only [if_pos word, last]
      split <;> rfl
    · have outside : ¬offset.toNat + width.toNat ≤ register.length := by omega
      simp only [if_neg word, if_neg outside]
      rfl

end Fields

/-! ## Words of bits -/

theorem toNat_foldl_shiftIn (bits : List Bool) :
    (bits.foldl (fun (word : UInt64) bit => (word <<< 1) ||| bit.toUInt64) 0).toNat =
      valueOfBits bits % 2 ^ 64 := by
  induction bits using List.reverseRecOn with
  | nil => rfl
  | append_singleton bits bit induction =>
      rw [List.foldl_append, List.foldl_cons, List.foldl_nil, toNat_shiftIn, induction,
        valueOfBits_concat]
      omega

theorem toNat_toUInt64_shiftLeft (bit : Bool) {index : Nat} (inside : index < 64) :
    (bit.toUInt64 <<< UInt64.ofNat index).toNat = bit.toNat <<< index := by
  have amount : (UInt64.ofNat index).toNat % 64 = index := by
    rw [UInt64.toNat_ofNat']
    omega
  have below : bit.toNat * 2 ^ index < 2 ^ 64 := by
    have power : 2 ^ index < 2 ^ 64 := Nat.pow_lt_pow_right (by decide) inside
    have small := Nat.mul_le_mul_right (2 ^ index) (Bool.toNat_le bit)
    omega
  rw [UInt64.toNat_shiftLeft, toNat_toUInt64, amount, Nat.shiftLeft_eq, Nat.mod_eq_of_lt below]

theorem toNat_foldl_places (bit : Nat → Bool) {width : Nat} (width_le : width ≤ 64) :
    ((List.range width).foldl (fun (word : UInt64) index =>
      word ||| ((bit index).toUInt64 <<< UInt64.ofNat index)) 0).toNat =
        valueOfReversedBits ((List.range width).map bit) := by
  induction width with
  | zero => rfl
  | succ width induction =>
      have lower := valueOfReversedBits_lt ((List.range width).map bit)
      rw [List.length_map, List.length_range] at lower
      rw [List.range_succ, List.foldl_append, List.foldl_cons, List.foldl_nil, UInt64.toNat_or,
        induction (Nat.le_of_lt width_le), toNat_toUInt64_shiftLeft _ width_le, Nat.or_comm,
        ← Nat.shiftLeft_add_eq_or_of_lt lower, Nat.shiftLeft_eq, List.map_append,
        List.map_singleton, valueOfReversedBits_concat, List.length_map, List.length_range,
        Nat.add_comm]

theorem lt_of_fieldOf {bits : List Bool} {offset width value : Nat}
    (given : fieldOf valueOfBits bits offset width = .ok value) : value < 2 ^ width := by
  unfold fieldOf at given
  split at given
  · cases given
  · split at given
    · cases given
    · cases given
      have bound := valueOfBits_lt ((bits.drop offset).take width)
      have short := List.length_take_le width (bits.drop offset)
      exact Nat.lt_of_lt_of_le bound (Nat.pow_le_pow_right (by decide) short)

section Words

variable {register : HeaderRegister}

theorem field_inv {offset width : Nat} {bits : List Bool}
    (read : register.field offset width = .ok bits) :
    width ≤ 64 ∧ bits = (List.range width).map fun index => register.bitAt (offset + index) := by
  unfold field at read
  split at read
  · cases read
  · split at read
    · cases read
      exact ⟨by omega, rfl⟩
    · cases read

theorem checked_eq (wordLength : register.length < 2 ^ 64) {offset width word : UInt64}
    {read : List Bool → Nat}
    (spells : width.toNat ≤ 64 → word.toNat =
      read ((List.range width.toNat).map fun index => register.bitAt (offset.toNat + index))) :
    ((register.checkField offset width).bind fun _ => .ok word).map UInt64.toNat =
      fieldOf read register.bits offset.toNat width.toNat := by
  rw [← field_map_eq, checkField_eq register wordLength]
  cases asked : register.field offset.toNat width.toNat with
  | error refusal => rfl
  | ok bits =>
      rcases field_inv asked with ⟨width_le, rfl⟩
      exact congrArg Except.ok (spells width_le)

theorem extractWord_eq (wordLength : register.length < 2 ^ 64) (offset width : UInt64) :
    (register.extractWord offset width).map UInt64.toNat =
      fieldOf valueOfBits register.bits offset.toNat width.toNat := by
  refine checked_eq wordLength fun width_le => ?_
  have shifted := toNat_foldl_shiftIn
    ((List.range width.toNat).map fun index => register.bitAt (offset.toNat + index))
  have bound := valueOfBits_lt
    ((List.range width.toNat).map fun index => register.bitAt (offset.toNat + index))
  have word : 2 ^ width.toNat ≤ 2 ^ 64 := Nat.pow_le_pow_right (by decide) width_le
  rw [List.length_map, List.length_range] at bound
  rwa [List.foldl_map, Nat.mod_eq_of_lt (Nat.lt_of_lt_of_le bound word)] at shifted

theorem extractWordReversed_eq (wordLength : register.length < 2 ^ 64)
    (offset width : UInt64) :
    (register.extractWordReversed offset width).map UInt64.toNat =
      fieldOf valueOfReversedBits register.bits offset.toNat width.toNat :=
  checked_eq wordLength
    (toNat_foldl_places fun index => register.bitAt (offset.toNat + index))

theorem extractNarrow_eq (wordLength : register.length < 2 ^ 64) {Word : Type} {width : UInt64}
    {narrow : UInt64 → Word} {toNat : Word → Nat}
    (keeps : ∀ word, toNat (narrow word) = word.toNat % 2 ^ width.toNat) (offset : UInt64) :
    (extractNarrow width narrow register offset).map toNat =
      (register.extractWord offset width).map UInt64.toNat := by
  have spelled := extractWord_eq wordLength offset width
  unfold extractNarrow
  cases asked : register.extractWord offset width with
  | error refusal => rfl
  | ok word =>
      rw [asked] at spelled
      have bound := lt_of_fieldOf spelled.symm
      exact congrArg Except.ok ((keeps word).trans (Nat.mod_eq_of_lt bound))

end Words

/-! ## The register and its list -/

/-- A register that is a list of bits to those who ask for its length and for its fields. -/
structure Holds (register : HeaderRegister) (bits : List Bool) : Prop where
  bits_eq : register.bits = bits
  length_eq : register.length = bits.length
  extract_eq (offset width : Nat) :
    register.extract offset width = fieldOf valueOfBits bits offset width
  extractReversed_eq (offset width : Nat) :
    register.extractReversed offset width = fieldOf valueOfReversedBits bits offset width

/-- A register that is a list of bits also to those who name fields by words and get words. -/
structure HoldsWords (register : HeaderRegister) (bits : List Bool) : Prop where
  word_eq (offset width : UInt64) :
    (register.extractWord offset width).map UInt64.toNat =
      fieldOf valueOfBits bits offset.toNat width.toNat
  reversedWord_eq (offset width : UInt64) :
    (register.extractWordReversed offset width).map UInt64.toNat =
      fieldOf valueOfReversedBits bits offset.toNat width.toNat
  narrow8_eq (offset : UInt64) :
    (register.extract8 offset).map UInt8.toNat =
      (register.extractWord offset 8).map UInt64.toNat
  narrow16_eq (offset : UInt64) :
    (register.extract16 offset).map UInt16.toNat =
      (register.extractWord offset 16).map UInt64.toNat
  narrow32_eq (offset : UInt64) :
    (register.extract32 offset).map UInt32.toNat =
      (register.extractWord offset 32).map UInt64.toNat

theorem holds_bits (register : HeaderRegister) : register.Holds register.bits where
  bits_eq := rfl
  length_eq := register.length_bits.symm
  extract_eq := register.field_map_eq valueOfBits
  extractReversed_eq := register.field_map_eq valueOfReversedBits

theorem holdsWords_bits {register : HeaderRegister} (wordLength : register.length < 2 ^ 64) :
    register.HoldsWords register.bits where
  word_eq := extractWord_eq wordLength
  reversedWord_eq := extractWordReversed_eq wordLength
  narrow8_eq := extractNarrow_eq wordLength UInt64.toNat_toUInt8
  narrow16_eq := extractNarrow_eq wordLength UInt64.toNat_toUInt16
  narrow32_eq := extractNarrow_eq wordLength UInt64.toNat_toUInt32

/-- Behind any changes the register holds the bits inserted since it was last cleared, whatever is
left in its storage, and no change runs into a trap. A length that is kept in memory is a word, and
then words name all fields; one whose end is no word is out of range like any other. -/
theorem holds_heldBits (changes : List Change) :
    changes.foldlM Change.perform empty.raw = .ok (afterAll changes).raw ∧
      (afterAll changes).Holds (heldBits changes) ∧
      ((heldBits changes).length < 2 ^ 64 → (afterAll changes).HoldsWords (heldBits changes)) := by
  have held := bits_afterAll changes
  refine ⟨foldlM_perform_eq_ok changes empty, ?_, fun wordLength => ?_⟩
  · rw [← held]
    exact holds_bits _
  · rw [← held] at wordLength ⊢
    rw [length_bits] at wordLength
    exact holdsWords_bits wordLength

/-- Five bits are held where sixteen ones were before, eight of which are still stored; and a word
is filled by a field. -/
theorem holds_heldBits_stale_ones :
    let changes : List Change := [
      .insertUnit 0xFF 8, .insertUnit 0xFF 200, .clear, .insert 2, .insertUnit 0xF3 4]
    let register := afterAll changes
    register.bytes = #[0x60, 0xFF] ∧
      register.bits = [false, true, true, false, false] ∧
      (register.extractWord 1 4).map UInt64.toNat = .ok 12 ∧
      (register.extractWordReversed 1 4).map UInt64.toNat = .ok 3 ∧
      (register.extract8 0).map UInt8.toNat = .error (.fieldOutOfRange 0 8 5) ∧
      (register.extractWord 0xFFFFFFFFFFFFFFFF 2).map UInt64.toNat =
        .error (.fieldOutOfRange 0xFFFFFFFFFFFFFFFF 2 5) ∧
      (register.extractWord 0xFFFFFFFFFFFFFFFF 65).map UInt64.toNat =
        .error (.invalidFieldWidth 65) ∧
      ((afterAll (List.replicate 8 (.insertUnit 0x81 8))).extractWord 0 64).map UInt64.toNat =
        .ok 0x8181818181818181 := by
  intro changes register
  have holds := (holds_heldBits changes).2.1
  have words := (holds_heldBits changes).2.2 (by decide)
  have filled := (holds_heldBits (List.replicate 8 (.insertUnit 0x81 8))).2.2 (by decide +kernel)
  refine ⟨rfl, holds.bits_eq, ?_, ?_, ?_, ?_, ?_, ?_⟩
  · exact words.word_eq 1 4
  · exact words.reversedWord_eq 1 4
  · exact (words.narrow8_eq 0).trans (words.word_eq 0 8)
  · exact words.word_eq _ 2
  · exact words.word_eq _ 65
  · exact (filled.word_eq 0 64).trans (by decide +kernel)

end HeaderRegister

end PacketFraming
