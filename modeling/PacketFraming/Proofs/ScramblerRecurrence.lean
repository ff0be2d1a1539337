import PacketFraming.Proofs.CodeWindow
import PacketFraming.Proofs.ScramblerSequence

/-! The linear recurrence of a scrambler.

Every bit of the register will be put out: the lowest one next, the one above it after that, and
so on. So the register is a window into the sequence that is put out, and the bit fed back into it
is one of the sequence's own, the parity of the earlier ones that the mask selects. -/

namespace PacketFraming

def parity (bits : List Bool) : Bool :=
  bits.foldr xor false

theorem parity_append (first second : List Bool) :
    parity (first ++ second) = (parity first ^^ parity second) := by
  induction first with
  | nil => exact (Bool.false_xor _).symm
  | cons bit rest induction =>
      change (bit ^^ parity (rest ++ second)) = (bit ^^ parity rest ^^ parity second)
      rw [induction, Bool.xor_assoc]

theorem parity_eq_false {bits : List Bool} (unset : ∀ bit ∈ bits, bit = false) :
    parity bits = false := by
  induction bits with
  | nil => rfl
  | cons bit rest induction =>
      rw [List.forall_mem_cons] at unset
      change (bit ^^ parity rest) = false
      rw [unset.1, induction unset.2, Bool.false_xor]

theorem parity_map_and (mask window : Nat → Bool) (places : List Nat) :
    parity (places.map fun place => window place && mask place) =
      parity ((places.filter mask).map window) := by
  induction places with
  | nil => rfl
  | cons place rest induction =>
      change ((window place && mask place) ^^ parity (rest.map _)) = _
      rw [induction, List.filter_cons]
      cases mask place with
      | false => rw [Bool.and_false, Bool.false_xor, if_neg Bool.false_ne_true]
      | true =>
          rw [Bool.and_true, if_pos rfl]
          rfl

theorem odd_count_bitsOfValue (width value : Nat) :
    ((bitsOfValue width value).count true % 2 == 1) =
      parity ((List.range width).map value.testBit) := by
  induction width with
  | zero => rfl
  | succ width induction =>
      rw [bitsOfValue_succ, List.range_succ, List.map_append, parity_append, ← induction,
        List.count_cons]
      have single : parity ([width].map value.testBit) = value.testBit width := Bool.xor_false _
      rw [single]
      cases value.testBit width with
      | false => simp
      | true =>
          have parities := Nat.mod_two_eq_zero_or_one ((bitsOfValue width value).count true)
          rcases parities with even | odd
          · simp [Nat.add_mod, even]
          · simp [Nat.add_mod, odd]

namespace Scrambler

/-! ## The register as a window -/

def Bounded (scrambler : Scrambler) : Prop :=
  scrambler.register.toNat < 2 ^ (scrambler.length + 1)

variable {scrambler : Scrambler}

theorem Bounded.testBit_of_lt (bounded : scrambler.Bounded) {place : Nat}
    (above : scrambler.length < place) : scrambler.register.toNat.testBit place = false :=
  Nat.testBit_lt_two_pow (Nat.lt_of_lt_of_le bounded (Nat.pow_le_pow_right (by decide) above))

theorem Bounded.feedback_eq (bounded : scrambler.Bounded) :
    scrambler.feedback =
      parity (((List.range (scrambler.length + 1)).filter scrambler.mask.toNat.testBit).map
        scrambler.register.toNat.testBit) := by
  obtain ⟨above, width⟩ : ∃ above, 32 = scrambler.length + 1 + above :=
    Nat.exists_eq_add_of_le (Nat.succ_le_succ scrambler.length_le)
  have masked : (scrambler.register &&& scrambler.mask).toUInt64.toNat.testBit = fun place =>
      scrambler.register.toNat.testBit place && scrambler.mask.toNat.testBit place := by
    funext place
    rw [UInt32.toNat_toUInt64, UInt32.toNat_and, Nat.testBit_and]
  have beyond : parity ((((List.range above).map (scrambler.length + 1 + ·)).filter
      scrambler.mask.toNat.testBit).map scrambler.register.toNat.testBit) = false := by
    apply parity_eq_false
    intro bit member
    rcases List.mem_map.mp member with ⟨place, selected, rfl⟩
    rcases List.mem_map.mp ((List.mem_filter.mp selected).1) with ⟨further, -, rfl⟩
    exact bounded.testBit_of_lt (by omega)
  rw [feedback, countOnes_eq_count, odd_count_bitsOfValue, masked, parity_map_and, width,
    List.range_add, List.filter_append, List.map_append, parity_append, beyond, Bool.xor_false]

theorem testBit_fedBack {length : Nat} (length_le : length ≤ 31) (bit : Bool) (place : Nat) :
    ((if bit then 1 else 0 : UInt32) <<< UInt32.ofNat length).toNat.testBit place =
      (bit && decide (place = length)) := by
  have length_lt : length < 32 := Nat.lt_succ_of_le length_le
  have value : (if bit then 1 else 0 : UInt32).toNat = bit.toNat := by cases bit <;> rfl
  have shift : (UInt32.ofNat length).toNat % 32 = length := by
    rw [UInt32.toNat_ofNat', Nat.mod_eq_of_lt (Nat.lt_trans length_lt (by decide)),
      Nat.mod_eq_of_lt length_lt]
  rw [UInt32.toNat_shiftLeft, shift, value, Nat.testBit_mod_two_pow, Nat.testBit_shiftLeft,
    Nat.testBit_bool_toNat]
  grind

theorem Bounded.testBit_advance (bounded : scrambler.Bounded) (place : Nat) :
    scrambler.advance.register.toNat.testBit place =
      if place = scrambler.length then scrambler.feedback
      else scrambler.register.toNat.testBit (place + 1) := by
  have shifted : (scrambler.register >>> 1).toNat.testBit place =
      scrambler.register.toNat.testBit (place + 1) := by
    rw [UInt32.toNat_shiftRight, Nat.testBit_shiftRight, Nat.add_comm]
    rfl
  rw [Scrambler.advance, UInt32.toNat_or, Nat.testBit_or, shifted,
    testBit_fedBack scrambler.length_le]
  by_cases same : place = scrambler.length
  · rw [if_pos same, decide_eq_true same, Bool.and_true,
      bounded.testBit_of_lt (Nat.lt_succ_of_le (Nat.le_of_eq same.symm)), Bool.false_or]
  · rw [if_neg same, decide_eq_false same, Bool.and_false, Bool.or_false]

theorem Bounded.advance (bounded : scrambler.Bounded) : scrambler.advance.Bounded := by
  apply Nat.lt_pow_two_of_testBit
  intro place above
  have beyond : scrambler.length < place := above
  rw [bounded.testBit_advance, if_neg (Nat.ne_of_gt beyond)]
  exact bounded.testBit_of_lt (Nat.lt_succ_of_lt beyond)

theorem Bounded.after (bounded : scrambler.Bounded) (count : Nat) :
    (scrambler.after count).Bounded := by
  induction count generalizing scrambler with
  | zero => exact bounded
  | succ count induction => exact induction bounded.advance

/-- The register holds the bits that are put out next. -/
theorem Bounded.testBit_register (bounded : scrambler.Bounded) {place : Nat}
    (inside : place ≤ scrambler.length) :
    scrambler.register.toNat.testBit place = scrambler.outputAt place := by
  induction place generalizing scrambler with
  | zero => exact Nat.testBit_zero scrambler.register.toNat
  | succ place induction =>
      have moved := bounded.testBit_advance place
      rw [if_neg (Nat.ne_of_lt inside)] at moved
      rw [← moved, induction bounded.advance (Nat.le_of_succ_le inside)]
      rfl

theorem view_after {View : Type} {view : Scrambler → View}
    (kept : ∀ scrambler, view scrambler.advance = view scrambler) (scrambler : Scrambler)
    (count : Nat) : view (scrambler.after count) = view scrambler := by
  induction count generalizing scrambler with
  | zero => rfl
  | succ count induction => exact (induction scrambler.advance).trans (kept scrambler)

@[simp] theorem length_after (scrambler : Scrambler) (count : Nat) :
    (scrambler.after count).length = scrambler.length :=
  view_after (fun _ => rfl) scrambler count

@[simp] theorem mask_after (scrambler : Scrambler) (count : Nat) :
    (scrambler.after count).mask = scrambler.mask :=
  view_after (fun _ => rfl) scrambler count

theorem Bounded.testBit_after (bounded : scrambler.Bounded) (count : Nat) {place : Nat}
    (inside : place ≤ scrambler.length) :
    (scrambler.after count).register.toNat.testBit place = scrambler.outputAt (count + place) := by
  rw [← length_after scrambler count] at inside
  rw [(bounded.after count).testBit_register inside, outputAt_after]

/-! ## The recurrence -/

/-- A sequence that begins with the bits of the seed, lowest first. Every further bit is the
parity of those bits of the window in front of it that the mask selects. -/
structure Recurrent (mask seed : UInt32) (length : Nat) (sequence : Nat → Bool) : Prop where
  seeded : ∀ place ≤ length, sequence place = seed.toNat.testBit place
  recurs : ∀ index, sequence (index + length + 1) =
    parity (((List.range (length + 1)).filter mask.toNat.testBit).map
      fun place => sequence (index + place))

theorem Bounded.recurs (bounded : scrambler.Bounded) (index : Nat) :
    scrambler.outputAt (index + scrambler.length + 1) =
      parity (((List.range (scrambler.length + 1)).filter scrambler.mask.toNat.testBit).map
        fun place => scrambler.outputAt (index + place)) := by
  have here := bounded.after index
  have next : scrambler.outputAt (index + scrambler.length + 1) =
      (scrambler.after index).advance.outputAt scrambler.length := by
    rw [Nat.add_assoc, ← outputAt_after, Nat.add_comm, ← outputAt_after]
    rfl
  have fed := here.testBit_advance scrambler.length
  rw [length_after, if_pos rfl] at fed
  rw [next, ← here.advance.testBit_register (Nat.le_of_eq (length_after scrambler index).symm),
    fed, here.feedback_eq, length_after, mask_after]
  congr 1
  apply List.map_congr_left
  intro place selected
  have inside := Nat.le_of_lt_succ (List.mem_range.mp ((List.mem_filter.mp selected).1))
  exact bounded.testBit_after index inside

/-! ## Uses of a scrambler -/

inductive Call
  /-- A number of single bits, one after the other. -/
  | bits (count : Nat)
  | unit (width : Nat)
  | reset
deriving DecidableEq

inductive Answer
  | bits (bits : List Bool)
  | unit (unit : UInt8)
  | reset
deriving DecidableEq

def call (scrambler : Scrambler) : Call → Answer × Scrambler
  | .bits count =>
      let (bits, next) := nextBits count scrambler
      (.bits bits, next)
  | .unit width =>
      let (unit, next) := nextUnit width scrambler
      (.unit unit, next)
  | .reset => (.reset, scrambler.reset)

def afterAll (scrambler : Scrambler) (calls : List Call) : Scrambler :=
  calls.foldl (fun scrambler call => (scrambler.call call).2) scrambler

/-- Where in the sequence a call leads to: a unit takes as many bits as it has, at most eight. -/
def Call.move (position : Nat) : Call → Nat
  | bits count => position + count
  | unit width => position + min width 8
  | reset => 0

def position (calls : List Call) : Nat :=
  calls.foldl Call.move 0

/-- The answer to a call consists of the bits of a sequence from a position on. In a unit the first
of them is the lowest, and there is nothing above the last. -/
def Answer.Continues (sequence : Nat → Bool) (position : Nat) : Call → Answer → Prop
  | .bits count, .bits taken =>
      taken = (List.range count).map fun index => sequence (position + index)
  | .unit width, .unit taken => ∀ place,
      taken.toNat.testBit place = (decide (place < min width 8) && sequence (position + place))
  | .reset, .reset => True
  | _, _ => False

theorem reset_after (scrambler : Scrambler) (count : Nat) :
    (scrambler.after count).reset = scrambler.reset :=
  view_after (fun _ => rfl) scrambler count

theorem call_after {scrambler : Scrambler} (unused : scrambler.reset = scrambler)
    (position : Nat) (call : Call) :
    ((scrambler.after position).call call).2 = scrambler.after (Call.move position call) := by
  cases call with
  | bits count =>
      change (nextBits count (scrambler.after position)).2 = _
      rw [nextBits_eq, Call.move, after_add]
  | unit width =>
      change (nextUnit width (scrambler.after position)).2 = _
      rw [nextUnit_snd, Call.move, after_add]
  | reset => exact (reset_after scrambler position).trans unused

/-- However the sequence is cut into bits and units, only the position counts. -/
theorem afterAll_eq {scrambler : Scrambler} (unused : scrambler.reset = scrambler)
    (calls : List Call) : scrambler.afterAll calls = scrambler.after (position calls) := by
  have moved (start : Nat) :
      calls.foldl (fun scrambler call => (scrambler.call call).2) (scrambler.after start) =
        scrambler.after (calls.foldl Call.move start) := by
    induction calls generalizing start with
    | nil => rfl
    | cons call rest induction =>
        rw [List.foldl_cons, List.foldl_cons, call_after unused, induction]
  exact moved 0

theorem continues_call (scrambler : Scrambler) (position : Nat) (call : Call) :
    ((scrambler.after position).call call).1.Continues scrambler.outputAt position call := by
  cases call with
  | bits count =>
      change (nextBits count (scrambler.after position)).1 = _
      rw [nextBits_eq]
      exact List.map_congr_left fun index _ => outputAt_after scrambler position index
  | unit width =>
      intro place
      rw [← outputAt_after]
      exact testBit_nextUnit width (scrambler.after position) place
  | reset => trivial

/-- A scrambler puts out the recurrence of its mask and its seed, whatever it is asked for, and
begins it again when it is reset. -/
theorem puts_out_recurrence (mask seed : UInt32) {length : Nat} (length_le : length ≤ 31)
    (seed_lt : seed.toNat < 2 ^ (length + 1)) :
    ∃ scrambler sequence, ofSeed mask seed length = .ok scrambler ∧
      Recurrent mask seed length sequence ∧
      ∀ calls : List Call,
        (scrambler.afterAll calls).register.toNat < 2 ^ (length + 1) ∧
        (∀ place ≤ length, (scrambler.afterAll calls).register.toNat.testBit place =
          sequence (position calls + place)) ∧
        ∀ call, ((scrambler.afterAll calls).call call).1.Continues sequence (position calls)
          call := by
  let scrambler : Scrambler := { mask, seed, length, length_le, register := seed }
  have bounded : scrambler.Bounded := seed_lt
  refine ⟨scrambler, scrambler.outputAt, dif_pos length_le, ?_, ?_⟩
  · exact {
      seeded := fun place inside => (bounded.testBit_register inside).symm
      recurs := bounded.recurs }
  · intro calls
    have here := bounded.after (position calls)
    rw [afterAll_eq rfl]
    have window (place : Nat) (inside : place ≤ length) :=
      bounded.testBit_after (position calls) inside
    rw [Bounded, length_after] at here
    exact ⟨here, window, continues_call scrambler (position calls)⟩

/-- The scrambler of headers, after bits and units of which one asks for more than eight. -/
theorem puts_out_recurrence_headers :
    (7 ≤ 31 ∧ (0x6F : UInt32).toNat < 2 ^ (7 + 1)) ∧
      ∃ scrambler sequence, ofSeed 0x8A 0x6F 7 = .ok scrambler ∧
        Recurrent 0x8A 0x6F 7 sequence ∧
        (sequence 8 = (sequence 1 ^^ (sequence 3 ^^ sequence 7))) ∧
        (scrambler.afterAll [.bits 3, .reset, .unit 11, .unit 2]).register.toNat < 2 ^ 8 ∧
        ((scrambler.afterAll [.bits 3, .reset, .unit 11, .unit 2]).call (.bits 2)).1.Continues
          sequence 10 (.bits 2) := by
  have length_le : 7 ≤ 31 := by decide
  have seed_lt : (0x6F : UInt32).toNat < 2 ^ (7 + 1) := by decide
  rcases puts_out_recurrence 0x8A 0x6F length_le seed_lt with
    ⟨scrambler, sequence, built, recurrent, uses⟩
  refine ⟨⟨length_le, seed_lt⟩, scrambler, sequence, built, recurrent, ?_, ?_, ?_⟩
  · have ninth := recurrent.recurs 0
    have taps : (List.range (7 + 1)).filter (0x8A : UInt32).toNat.testBit = [1, 3, 7] := by decide
    rw [taps] at ninth
    exact ninth.trans (by simp [parity])
  · exact (uses [.bits 3, .reset, .unit 11, .unit 2]).1
  · exact (uses [.bits 3, .reset, .unit 11, .unit 2]).2.2 (.bits 2)

end Scrambler

end PacketFraming
