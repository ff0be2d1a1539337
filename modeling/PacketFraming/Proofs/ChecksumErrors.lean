import Mathlib.Data.List.Basic
import Mathlib.Data.Nat.Bitwise
import PacketFraming.Bits.Checksum

/-! What errors do to the checksum.

Division by a polynomial is linear in exclusive or, so errors in the data change the checksum by
what the errors alone would leave behind, whatever the data. What single errors leave behind are
the columns of the code: they are all different and all of odd weight, so it takes four of them to
cancel. -/

namespace PacketFraming

/-! ## Linearity -/

theorem and_highest_eq_zero_iff (byte : UInt8) :
    byte &&& 0x80 = 0 ↔ byte.toNat.testBit 7 = false := by
  have value : (byte &&& 0x80).toNat = (byte.toNat.testBit 7).toNat * 2 ^ 7 :=
    (UInt8.toNat_and _ _).trans (Nat.and_two_pow _ 7)
  rw [← UInt8.toNat_inj, value]
  cases byte.toNat.testBit 7 <;> decide

theorem serialStep_xor (polynomial first second : UInt8) :
    serialStep polynomial (first ^^^ second) =
      serialStep polynomial first ^^^ serialStep polynomial second := by
  have cancelled : first <<< 1 ^^^ second <<< 1 =
      first <<< 1 ^^^ polynomial ^^^ (second <<< 1 ^^^ polynomial) := by
    rw [UInt8.xor_assoc, UInt8.xor_comm (second <<< 1), ← UInt8.xor_assoc polynomial,
      UInt8.xor_self, UInt8.zero_xor]
  simp only [serialStep, and_highest_eq_zero_iff, UInt8.toNat_xor, Nat.testBit_xor,
    UInt8.shiftLeft_xor]
  cases first.toNat.testBit 7 <;> cases second.toNat.testBit 7
  · rfl
  · exact UInt8.xor_assoc _ _ _
  · change first <<< 1 ^^^ second <<< 1 ^^^ polynomial =
      first <<< 1 ^^^ polynomial ^^^ second <<< 1
    ac_rfl
  · exact cancelled

theorem byteRemainder_xor (polynomial first second : UInt8) :
    byteRemainder polynomial (first ^^^ second) =
      byteRemainder polynomial first ^^^ byteRemainder polynomial second := by
  unfold byteRemainder
  generalize 8 = steps
  induction steps with
  | zero => rfl
  | succ steps induction => simp only [Nat.repeat, induction, serialStep_xor]

theorem foldl_byteRemainder_xor (polynomial : UInt8) {bytes errors : List UInt8}
    (same : bytes.length = errors.length) (start other : UInt8) :
    (bytes.zipWith (· ^^^ ·) errors).foldl
        (fun value byte => byteRemainder polynomial (value ^^^ byte)) (start ^^^ other) =
      bytes.foldl (fun value byte => byteRemainder polynomial (value ^^^ byte)) start ^^^
        errors.foldl (fun value byte => byteRemainder polynomial (value ^^^ byte)) other := by
  induction bytes generalizing errors start other with
  | nil =>
      cases errors with
      | nil => rfl
      | cons error rest => exact absurd same (Nat.succ_ne_zero _).symm
  | cons byte rest induction =>
      cases errors with
      | nil => exact absurd same (Nat.succ_ne_zero _)
      | cons error errors =>
          have moved : start ^^^ other ^^^ (byte ^^^ error) =
              start ^^^ byte ^^^ (other ^^^ error) := by
            ac_rfl
          rw [List.zipWith_cons_cons, List.foldl_cons, List.foldl_cons, List.foldl_cons, moved,
            byteRemainder_xor, induction (Nat.succ.inj same)]

namespace Crc8

theorem fold_ofPolynomial (polynomial initial value byte : UInt8) :
    (ofPolynomial polynomial initial).fold value byte =
      byteRemainder polynomial (value ^^^ byte) := by
  have entry : (ofPolynomial polynomial initial).fold value byte =
      byteRemainder polynomial (UInt8.ofNat (value ^^^ byte).toNat) :=
    Vector.getElem_ofFn _
  rw [entry, UInt8.ofNat_toNat]

theorem value_checksum (polynomial initial : UInt8) (bytes : List UInt8) :
    ((ofPolynomial polynomial initial).checksum bytes).value =
      bytes.foldl (fun value byte => byteRemainder polynomial (value ^^^ byte)) initial := by
  have same : (ofPolynomial polynomial initial).fold =
      fun value byte => byteRemainder polynomial (value ^^^ byte) := by
    funext value byte
    exact fold_ofPolynomial polynomial initial value byte
  rw [← same]
  rfl

/-- Errors change a checksum by their own, taken from zero. -/
theorem value_checksum_xor (polynomial initial : UInt8) {bytes errors : List UInt8}
    (same : bytes.length = errors.length) :
    ((ofPolynomial polynomial initial).checksum (bytes.zipWith (· ^^^ ·) errors)).value =
      ((ofPolynomial polynomial initial).checksum bytes).value ^^^
        ((ofPolynomial polynomial 0).checksum errors).value := by
  have linear := foldl_byteRemainder_xor polynomial same initial 0
  rw [UInt8.xor_zero] at linear
  rw [value_checksum, value_checksum, value_checksum, linear]

end Crc8

theorem littleEndian_xor (length first second : Nat) :
    littleEndian length (first ^^^ second) =
      (littleEndian length first).zipWith (· ^^^ ·) (littleEndian length second) := by
  induction length generalizing first second with
  | zero => rfl
  | succ length induction =>
      have shifted : (first ^^^ second) / 2 ^ 8 = first / 2 ^ 8 ^^^ second / 2 ^ 8 :=
        Nat.xor_div_two_pow
      change UInt8.ofNat (first ^^^ second) :: littleEndian length ((first ^^^ second) / 2 ^ 8) = _
      rw [UInt8.ofNat_xor, shifted, induction]
      rfl

def errorChecksum (length counter : Nat) : UInt8 :=
  ((Crc8.ofPolynomial 0x07 0).headerChecksum length counter).value

theorem value_headerChecksum_xor (initial : UInt8)
    (length counter lengthErrors counterErrors : Nat) :
    ((Crc8.ofPolynomial 0x07 initial).headerChecksum (length ^^^ lengthErrors)
        (counter ^^^ counterErrors)).value =
      ((Crc8.ofPolynomial 0x07 initial).headerChecksum length counter).value ^^^
        errorChecksum lengthErrors counterErrors := by
  have linear := Crc8.value_checksum_xor 0x07 initial
    (show (littleEndian 2 length ++ littleEndian 2 counter).length =
      (littleEndian 2 lengthErrors ++ littleEndian 2 counterErrors).length by simp)
  rw [List.zipWith_append (by simp), ← littleEndian_xor, ← littleEndian_xor] at linear
  exact linear

theorem headerCrc_xor (length counter lengthErrors counterErrors : Nat) :
    headerCrc (length ^^^ lengthErrors) (counter ^^^ counterErrors) =
      headerCrc length counter ^^^ errorChecksum lengthErrors counterErrors :=
  value_headerChecksum_xor 0xFF length counter lengthErrors counterErrors

theorem errorChecksum_xor (length counter lengthErrors counterErrors : Nat) :
    errorChecksum (length ^^^ lengthErrors) (counter ^^^ counterErrors) =
      errorChecksum length counter ^^^ errorChecksum lengthErrors counterErrors :=
  value_headerChecksum_xor 0 length counter lengthErrors counterErrors

/-! ## Sums of columns -/

def xorSum (bytes : List UInt8) : UInt8 :=
  bytes.foldr (· ^^^ ·) 0

theorem xorSum_append (first second : List UInt8) :
    xorSum (first ++ second) = xorSum first ^^^ xorSum second := by
  induction first with
  | nil => exact UInt8.zero_xor.symm
  | cons byte rest induction =>
      change byte ^^^ xorSum (rest ++ second) = byte ^^^ xorSum rest ^^^ xorSum second
      rw [induction, UInt8.xor_assoc]

def selected : List UInt8 → List Bool → List UInt8
  | column :: columns, true :: bits => column :: selected columns bits
  | _ :: columns, false :: bits => selected columns bits
  | _, _ => []

theorem selected_append {columns : List UInt8} {bits : List Bool} (more : List UInt8)
    (others : List Bool) (same : columns.length = bits.length) :
    selected (columns ++ more) (bits ++ others) =
      selected columns bits ++ selected more others := by
  induction columns generalizing bits with
  | nil =>
      cases bits with
      | nil => cases more <;> rfl
      | cons bit rest => exact absurd same (Nat.succ_ne_zero _).symm
  | cons column columns induction =>
      cases bits with
      | nil => exact absurd same (Nat.succ_ne_zero _)
      | cons bit rest =>
          have later := induction (Nat.succ.inj same)
          cases bit with
          | false => exact later
          | true => exact congrArg (column :: ·) later

theorem selected_sublist (columns : List UInt8) (bits : List Bool) :
    (selected columns bits).Sublist columns := by
  fun_induction selected columns bits with
  | case1 column columns bits induction => exact induction.cons_cons column
  | case2 column columns bits induction => exact induction.cons column
  | case3 columns bits => exact List.nil_sublist columns

theorem length_selected {columns : List UInt8} {bits : List Bool}
    (same : columns.length = bits.length) : (selected columns bits).length = bits.count true := by
  induction columns generalizing bits with
  | nil =>
      cases bits with
      | nil => rfl
      | cons bit rest => exact absurd same (Nat.succ_ne_zero _).symm
  | cons column columns induction =>
      cases bits with
      | nil => exact absurd same (Nat.succ_ne_zero _)
      | cons bit rest =>
          have later := induction (Nat.succ.inj same)
          cases bit with
          | false => simpa [selected] using later
          | true => simpa [selected] using later

theorem two_mul_xor (first second : Nat) :
    2 * (first ^^^ second) = 2 * first ^^^ 2 * second := by
  have shifted : (first ^^^ second) <<< 1 = first <<< 1 ^^^ second <<< 1 :=
    Nat.shiftLeft_xor_distrib
  rw [Nat.shiftLeft_eq, Nat.shiftLeft_eq, Nat.shiftLeft_eq, Nat.pow_one] at shifted
  rw [Nat.mul_comm, shifted, Nat.mul_comm, Nat.mul_comm second]

theorem toNat_add_two_mul (bit : Bool) (value : Nat) :
    bit.toNat + 2 * value = bit.toNat ^^^ 2 * value := by
  have small := Bool.toNat_le bit
  have upper : (bit.toNat + 2 * value) / 2 = value := by omega
  have none : bit.toNat / 2 = 0 := by omega
  apply Nat.eq_of_testBit_eq
  intro place
  cases place with
  | zero => cases bit <;> simp [Nat.testBit_zero, Nat.add_mod]
  | succ place => simp [Nat.testBit_succ, Nat.xor_div_two, upper, none]

/-- A linear function of a number adds up what it makes of the number's bits. -/
theorem linear_valueOfReversedBits (effect : Nat → UInt8)
    (linear : ∀ first second, effect (first ^^^ second) = effect first ^^^ effect second)
    (bits : List Bool) :
    effect (valueOfReversedBits bits) =
      xorSum (selected ((List.range bits.length).map fun place => effect (2 ^ place)) bits) := by
  have zero {effect : Nat → UInt8}
      (linear : ∀ first second, effect (first ^^^ second) = effect first ^^^ effect second) :
      effect 0 = 0 := by
    have twice := linear 0 0
    rw [Nat.xor_self, UInt8.xor_self] at twice
    exact twice
  induction bits generalizing effect with
  | nil => exact zero linear
  | cons bit rest induction =>
      have later := induction (fun value => effect (2 * value)) fun first second => by
        rw [two_mul_xor, linear]
      have columns : (List.range (rest.length + 1)).map (fun place => effect (2 ^ place)) =
          effect 1 :: (List.range rest.length).map fun place => effect (2 * 2 ^ place) := by
        rw [List.range_succ_eq_map, List.map_cons, List.map_map]
        congr 1
        apply List.map_congr_left
        intro place _
        exact congrArg effect Nat.pow_succ'
      change effect (bit.toNat + 2 * valueOfReversedBits rest) = _
      rw [toNat_add_two_mul, linear, later, List.length_cons, columns]
      cases bit with
      | false => exact (congrArg (· ^^^ _) (zero linear)).trans UInt8.zero_xor
      | true => rfl

def oddWeight (byte : UInt8) : Bool :=
  (List.range 8).foldr (fun place odd => byte.toNat.testBit place ^^ odd) false

theorem oddWeight_xor (first second : UInt8) :
    oddWeight (first ^^^ second) = (oddWeight first ^^ oddWeight second) := by
  unfold oddWeight
  induction List.range 8 with
  | nil => rfl
  | cons place rest induction =>
      rw [List.foldr_cons, List.foldr_cons, List.foldr_cons, induction, UInt8.toNat_xor,
        Nat.testBit_xor, Bool.xor_assoc, Bool.xor_assoc,
        Bool.xor_left_comm (second.toNat.testBit place)]

theorem oddWeight_xorSum {bytes : List UInt8} (odd : ∀ byte ∈ bytes, oddWeight byte = true) :
    oddWeight (xorSum bytes) = decide (bytes.length % 2 = 1) := by
  induction bytes with
  | nil => decide
  | cons byte rest induction =>
      rw [List.forall_mem_cons] at odd
      change oddWeight (byte ^^^ xorSum rest) = _
      rw [oddWeight_xor, odd.1, induction odd.2, Bool.true_xor, ← decide_not, List.length_cons]
      apply decide_eq_decide.mpr
      omega

/-- Up to three different bytes of odd weight do not cancel. -/
theorem xorSum_ne_zero {columns chosen : List UInt8} (different : columns.Nodup)
    (odd : ∀ column ∈ columns, oddWeight column = true) (among : chosen.Sublist columns)
    (some : 1 ≤ chosen.length) (few : chosen.length ≤ 3) : xorSum chosen ≠ 0 := by
  intro cancelled
  have weight := oddWeight_xorSum fun column member => odd column (among.subset member)
  rw [cancelled] at weight
  have pair : chosen.length = 2 := by
    have even : chosen.length % 2 ≠ 1 := of_decide_eq_false weight.symm
    omega
  rcases List.length_eq_two.mp pair with ⟨first, second, rfl⟩
  have apart : first ≠ second := by simpa using different.sublist among
  change first ^^^ (second ^^^ 0) = 0 at cancelled
  rw [UInt8.xor_zero, UInt8.xor_eq_zero_iff] at cancelled
  exact apart cancelled

/-! ## Columns of the code -/

/-- What a checksum is off by when a length, a counter and the checksum have errors. -/
def syndrome (length counter checksum : Nat) : UInt8 :=
  errorChecksum length counter ^^^ UInt8.ofNat checksum

/-- What single errors are found as: in the length, in the counter and in the checksum, each from
its lowest bit on. -/
def columns : List UInt8 :=
  (List.range 12).map (fun place => errorChecksum (2 ^ place) 0) ++
    ((List.range 12).map (fun place => errorChecksum 0 (2 ^ place)) ++
      (List.range 8).map fun place => UInt8.ofNat (2 ^ place))

theorem nodup_columns : columns.Nodup := by
  decide +kernel

theorem oddWeight_columns : ∀ column ∈ columns, oddWeight column = true := by
  decide +kernel

theorem syndrome_eq_xorSum {lengthErrors counterErrors checksumErrors : List Bool}
    (lengthBits : lengthErrors.length = 12) (counterBits : counterErrors.length = 12)
    (checksumBits : checksumErrors.length = 8) :
    syndrome (valueOfReversedBits lengthErrors) (valueOfReversedBits counterErrors)
        (valueOfReversedBits checksumErrors) =
      xorSum (selected columns (lengthErrors ++ (counterErrors ++ checksumErrors))) := by
  have apart (length counter : Nat) :
      errorChecksum length counter = errorChecksum length 0 ^^^ errorChecksum 0 counter := by
    have linear := errorChecksum_xor length 0 0 counter
    rwa [Nat.xor_zero, Nat.zero_xor] at linear
  have fromLength := linear_valueOfReversedBits (fun length => errorChecksum length 0)
    (fun first second => errorChecksum_xor first 0 second 0) lengthErrors
  have fromCounter := linear_valueOfReversedBits (fun counter => errorChecksum 0 counter)
    (fun first second => errorChecksum_xor 0 first 0 second) counterErrors
  have fromChecksum := linear_valueOfReversedBits UInt8.ofNat UInt8.ofNat_xor checksumErrors
  rw [lengthBits] at fromLength
  rw [counterBits] at fromCounter
  rw [checksumBits] at fromChecksum
  rw [syndrome, apart, fromLength, fromCounter, fromChecksum, columns,
    selected_append _ _ (by simp [lengthBits]), selected_append _ _ (by simp [counterBits]),
    xorSum_append, xorSum_append, UInt8.xor_assoc]

theorem headerCrc_damaged_iff (length counter : Nat)
    {lengthErrors counterErrors checksumErrors : Nat} (small : checksumErrors < 2 ^ 8) :
    (headerCrc (length ^^^ lengthErrors) (counter ^^^ counterErrors)).toNat =
        (headerCrc length counter).toNat ^^^ checksumErrors ↔
      syndrome lengthErrors counterErrors checksumErrors = 0 := by
  have byte : checksumErrors = (UInt8.ofNat checksumErrors).toNat := by
    rw [UInt8.toNat_ofNat', Nat.mod_eq_of_lt small]
  rw [headerCrc_xor, syndrome, byte, ← UInt8.toNat_xor, UInt8.toNat_inj, UInt8.ofNat_toNat,
    UInt8.xor_right_inj, UInt8.xor_eq_zero_iff]

theorem syndrome_ne_zero {lengthErrors counterErrors checksumErrors : List Bool}
    (lengthBits : lengthErrors.length = 12) (counterBits : counterErrors.length = 12)
    (checksumBits : checksumErrors.length = 8)
    (some : 1 ≤ (lengthErrors ++ (counterErrors ++ checksumErrors)).count true)
    (few : (lengthErrors ++ (counterErrors ++ checksumErrors)).count true ≤ 3) :
    syndrome (valueOfReversedBits lengthErrors) (valueOfReversedBits counterErrors)
      (valueOfReversedBits checksumErrors) ≠ 0 := by
  have number : (selected columns (lengthErrors ++ (counterErrors ++ checksumErrors))).length =
      (lengthErrors ++ (counterErrors ++ checksumErrors)).count true :=
    length_selected (by simp [columns, lengthBits, counterBits, checksumBits])
  rw [← number] at some few
  rw [syndrome_eq_xorSum lengthBits counterBits checksumBits]
  exact xorSum_ne_zero nodup_columns oddWeight_columns (selected_sublist _ _) some few

end PacketFraming
