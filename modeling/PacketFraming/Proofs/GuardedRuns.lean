import PacketFraming.Proofs.EventLog
import PacketFraming.Proofs.GuardedHeaders

/-! Devices that run without a trap.

A device is told with the state that it keeps: the storage of its register, the size of a payload
and how much of it has been seen. Its loop counts through the items by an index. Whatever is
called on it, it arrives where the transceiver does, and no operation on the way is one that is
not defined. -/

namespace PacketFraming

namespace Guarded

structure Device where
  codec : HeaderCodec
  tables : Tables
  correlator : Correlator
  register : RawRegister
  stage : Stage
  /-- Bits of a header behind its access code. -/
  bodyBits : Nat
  payloadItems : Nat
  /-- Items of the payload that have passed. -/
  payloadSeen : Nat
  skipped : Nat
  position : Nat

structure Outcome where
  device : Device
  record : Option Metadata
  events : List Event

structure Received where
  device : Device
  records : Array Metadata
  events : Array Event
  index : Nat

def insertItem (layout : Layout) (register : RawRegister) (item : UInt8) :
    Guarded RawRegister :=
  match layout.unitWidth? with
  | some width => register.insertUnit item width
  | none => register.insertBit item

namespace Device

variable (device : Device)

def wait : Device :=
  { device with
    correlator := device.correlator.reset
    register := { device.register with length := 0 }
    stage := if device.correlator.code.isEmpty then .collecting else .searching }

def countSkipped : Device :=
  { device with skipped := device.skipped + 1, position := device.position + 1 }

def search (item : UInt8) : Guarded Outcome := do
  let (correlator, found) ← push device.correlator item
  match found with
  | some distance =>
      return {
        device := { device.countSkipped with
          correlator
          register := { device.register with length := 0 }
          stage := .collecting }
        record := none
        events := [.codeFound distance device.countSkipped.position] }
  | none =>
      return { device := { device.countSkipped with correlator }, record := none, events := [] }

def settle (header? : Option DecodedHeader) : Outcome :=
  match header? with
  | none => {
      device := device.wait
      record := none
      events := [.headerRejected device.position] }
  | some header =>
      let opened :=
        { device with skipped := 0, payloadItems := header.payloadItems, payloadSeen := 0 }
      { device := if header.payloadItems = 0 then opened.wait else { opened with stage := .passing }
        record :=
          some (header.metadata.insert Metadata.skippedItemsKey (.natural device.skipped))
        events := [.headerAccepted device.skipped header.payloadItems] }

def finish : Guarded Outcome := do
  let (header?, codec) ← read? device.codec device.tables device.register
  return { device with codec }.settle header?

def collect (item : UInt8) : Guarded Outcome := do
  let register ← insertItem device.codec.layout device.register item
  let collected := { device.countSkipped with register }
  if device.bodyBits ≤ register.length then collected.finish
  else return { device := collected, record := none, events := [] }

def pass (count index : Nat) : Guarded (Outcome × Nat) := do
  let remaining ← minus device.payloadItems device.payloadSeen
  let left ← minus count index
  let taken := min remaining left
  let passed :=
    { device with
      position := device.position + taken
      payloadSeen := device.payloadSeen + taken }
  if passed.payloadSeen = passed.payloadItems then
    return ({
      device := passed.wait
      record := none
      events := [.payloadComplete passed.payloadItems passed.position] }, index + taken)
  else return ({ device := passed, record := none, events := [] }, index + taken)

/-- One pass over items up to `count`, and the index behind it. -/
def step (count : Nat) (item : Nat → Guarded UInt8) (index : Nat) : Guarded (Outcome × Nat) :=
  match device.stage with
  | .searching => do
      let item ← item index
      let outcome ← device.search item
      return (outcome, index + 1)
  | .collecting => do
      let item ← item index
      let outcome ← device.collect item
      return (outcome, index + 1)
  | .passing => device.pass count index

end Device

theorem of_minus {minuend subtrahend difference : Nat}
    (subtracted : minus minuend subtrahend = .ok difference) :
    subtrahend ≤ minuend ∧ difference = minuend - subtrahend := by
  unfold minus require at subtracted
  split at subtracted
  · next le => exact ⟨le, (Except.ok.inj subtracted).symm⟩
  · cases subtracted

end Guarded

def Stage.weight : Stage → Nat
  | .passing => 1
  | _ => 0

namespace Guarded

namespace Device

theorem weight_wait (device : Device) : device.wait.stage.weight = 0 := by
  unfold wait
  dsimp only
  split <;> rfl

/-- A pass that takes nothing ends a payload: the loop comes to an end. -/
theorem step_decreases {device : Device} {count index behind : Nat}
    {item : Nat → Guarded UInt8} {outcome : Outcome} (inside : index < count)
    (passed : device.step count item index = .ok (outcome, behind)) :
    Prod.Lex (· < ·) (· < ·) (count - behind, outcome.device.stage.weight)
      (count - index, device.stage.weight) := by
  unfold step at passed
  cases stage : device.stage with
  | searching | collecting =>
      rw [stage] at passed
      rcases exists_of_bind_eq_ok passed with ⟨item, -, passed⟩
      rcases exists_of_bind_eq_ok passed with ⟨outcome, -, passed⟩
      cases passed
      apply Prod.Lex.left
      omega
  | passing =>
      rw [stage] at passed
      rcases exists_of_bind_eq_ok passed with ⟨remaining, pending, passed⟩
      rcases exists_of_bind_eq_ok passed with ⟨left, behindIndex, passed⟩
      obtain ⟨seen_le, rfl⟩ := of_minus pending
      obtain ⟨-, rfl⟩ := of_minus behindIndex
      dsimp only at passed
      split at passed
      · next complete =>
        cases passed
        -- Nothing may have been left of the payload; then the device leaves it without an item.
        by_cases none : device.payloadItems - device.payloadSeen = 0
        · rw [none, Nat.zero_min, Nat.add_zero]
          apply Prod.Lex.right
          rw [weight_wait]
          exact Nat.one_pos
        · apply Prod.Lex.left
          omega
      · next incomplete =>
        cases passed
        apply Prod.Lex.left
        omega

end Device

/-! ## The receive loop -/

namespace Received

def start (device : Device) : Received where
  device := device
  records := #[]
  events := #[]
  index := 0

def add (received : Received) (outcome : Outcome) (behind : Nat) : Received where
  device := outcome.device
  records := match outcome.record with
    | some record => received.records.push record
    | none => received.records
  events := outcome.events.foldl Array.push received.events
  index := behind

/-- The receive loop over items up to `count`: it ends with them, or behind the first accepted
header if it is to halt there. -/
def drive (received : Received) (halting : Bool) (count : Nat) (item : Nat → Guarded UInt8) :
    Guarded Received :=
  if received.index < count then
    match _ : received.device.step count item received.index with
    | .error trap => .error trap
    | .ok (outcome, behind) =>
        if halting && outcome.record.isSome then return received.add outcome behind
        else (received.add outcome behind).drive halting count item
  else return received
termination_by (count - received.index, received.device.stage.weight)
decreasing_by
  exact Device.step_decreases (by assumption) (by assumption)

theorem drive_of_end (halting : Bool) {count : Nat} (item : Nat → Guarded UInt8)
    {received : Received} (ended : ¬received.index < count) :
    received.drive halting count item = .ok received := by
  rw [drive, if_neg ended]
  rfl

theorem drive_of_step (halting : Bool) {count : Nat} {item : Nat → Guarded UInt8}
    {received : Received} (inside : received.index < count) {outcome : Outcome} {behind : Nat}
    (stepped : received.device.step count item received.index = .ok (outcome, behind)) :
    received.drive halting count item =
      if halting && outcome.record.isSome then .ok (received.add outcome behind)
      else (received.add outcome behind).drive halting count item := by
  rw [drive, if_pos inside]
  split
  · next failed =>
    rw [stepped] at failed
    cases failed
  · next passed =>
    rw [stepped] at passed
    cases passed
    rfl

end Received

/-! ## Devices and transceivers -/

/-- A device with the codec and the receiver of a transceiver. The numbers of the last payload
are left over behind it. -/
def Device.of (codec : HeaderCodec) (receiver : Receiver) (payloadItems payloadSeen : Nat) :
    Device where
  codec := codec
  tables := codec.layout.tables
  correlator := receiver.correlator
  register := receiver.register.raw
  stage := receiver.phase.stage
  bodyBits := codec.layout.bodyBits
  payloadItems := payloadItems
  payloadSeen := payloadSeen
  skipped := receiver.skipped
  position := receiver.position

def Outcome.of (stepped : Step × HeaderCodec) (payloadItems payloadSeen : Nat) : Outcome where
  device := .of stepped.2 stepped.1.receiver payloadItems payloadSeen
  record := stepped.1.record
  events := stepped.1.events

def Pending (phase : Phase) (payloadItems payloadSeen : Nat) : Prop :=
  ∀ items remaining, phase = .passing items remaining →
    payloadItems = items ∧ payloadSeen + remaining = items

theorem Pending.of_outside {phase : Phase} (outside : phase.weight = 0)
    (payloadItems payloadSeen : Nat) : Pending phase payloadItems payloadSeen := by
  rintro items remaining rfl
  cases outside

section Simulation

variable (codec : HeaderCodec) (receiver : Receiver) (payloadItems payloadSeen : Nat)

theorem wait_of :
    (Device.of codec receiver payloadItems payloadSeen).wait =
      .of codec receiver.wait payloadItems payloadSeen := by
  unfold Device.wait Device.of Receiver.wait Receiver.waitingPhase
  dsimp only
  split <;> rfl

theorem search_of (item : UInt8) :
    (Device.of codec receiver payloadItems payloadSeen).search item =
      .ok (.of (receiver.search item, codec) payloadItems payloadSeen) := by
  have pushed : push (Device.of codec receiver payloadItems payloadSeen).correlator item =
      .ok (receiver.correlator.push (itemBit item)) := push_eq_ok _ _
  rw [Device.search, pushed, ok_bind]
  unfold Receiver.search
  dsimp only [Receiver.countSkipped]
  cases (receiver.correlator.push (itemBit item)).2 <;> rfl

theorem settle_of (header? : Option DecodedHeader) :
    ∃ items seen, Pending (receiver.settle header?).receiver.phase items seen ∧
      (Device.of codec receiver payloadItems payloadSeen).settle header? =
        .of (receiver.settle header?, codec) items seen := by
  cases header? with
  | none =>
      refine ⟨payloadItems, payloadSeen, .of_outside (Phase.weight_waitingPhase _) _ _, ?_⟩
      rw [Device.settle, wait_of]
      rfl
  | some header =>
      refine ⟨header.payloadItems, 0, ?_, ?_⟩
      · change Pending (if header.payloadItems = 0 then _ else _ : Receiver).phase _ _
        split
        · exact .of_outside (Phase.weight_waitingPhase _) _ _
        · intro items remaining passing
          obtain ⟨rfl, rfl⟩ := Phase.passing.inj passing
          exact ⟨rfl, Nat.zero_add _⟩
      · have waiting := wait_of codec { receiver with skipped := 0 } header.payloadItems 0
        change Outcome.mk (if header.payloadItems = 0 then
          (Device.of codec { receiver with skipped := 0 } header.payloadItems 0).wait else _) _ _ =
            Outcome.mk (.of codec (if header.payloadItems = 0 then _ else _) _ _) _ _
        rw [waiting]
        split <;> rfl

theorem of_codec {judged : HeaderCodec} (kept : judged.layout = codec.layout) :
    { Device.of codec receiver payloadItems payloadSeen with codec := judged } =
      Device.of judged receiver payloadItems payloadSeen := by
  unfold Device.of
  rw [kept]

theorem finish_of :
    let stepped := (codec.read? receiver.register).map receiver.settle id
    ∃ items seen, Pending stepped.1.receiver.phase items seen ∧
      (Device.of codec receiver payloadItems payloadSeen).finish =
        .ok (.of stepped items seen) := by
  have kept : (codec.read? receiver.register).2.layout = codec.layout :=
    congrArg Encoder.layout (codec.encoder_read? receiver.register)
  rcases settle_of (codec.read? receiver.register).2 receiver payloadItems payloadSeen
    (codec.read? receiver.register).1 with ⟨items, seen, pending, settled⟩
  have read : read? (Device.of codec receiver payloadItems payloadSeen).codec
      (Device.of codec receiver payloadItems payloadSeen).tables
      (Device.of codec receiver payloadItems payloadSeen).register =
        .ok (codec.read? receiver.register) := read?_eq_ok codec receiver.register
  refine ⟨items, seen, pending, ?_⟩
  rw [Device.finish, read, ok_bind]
  dsimp only
  rw [of_codec codec receiver payloadItems payloadSeen kept, settled]
  rfl

theorem insertItem_eq_ok (layout : Layout) (register : HeaderRegister) (item : UInt8) :
    insertItem layout register.raw item = .ok (layout.collect register item).raw := by
  unfold insertItem Layout.collect
  cases layout.unitWidth? with
  | none => exact insertBit_eq_ok register item
  | some width => exact insertUnit_eq_ok register item width

theorem collect_of (collecting : receiver.phase = .collecting) (item : UInt8) :
    ∃ items seen, Pending (codec.collect receiver item).1.receiver.phase items seen ∧
      (Device.of codec receiver payloadItems payloadSeen).collect item =
        .ok (.of (codec.collect receiver item) items seen) := by
  have inserted : insertItem (Device.of codec receiver payloadItems payloadSeen).codec.layout
      (Device.of codec receiver payloadItems payloadSeen).register item =
        .ok (codec.layout.collect receiver.register item).raw :=
    insertItem_eq_ok codec.layout receiver.register item
  rw [Device.collect, inserted, ok_bind]
  by_cases filled : codec.layout.bodyBits ≤ (codec.layout.collect receiver.register item).length
  · have judged : codec.collect receiver item =
        (codec.read? (receiver.withItem codec.layout item).register).map
          (receiver.withItem codec.layout item).settle id := if_pos filled
    rcases finish_of codec (receiver.withItem codec.layout item) payloadItems payloadSeen with
      ⟨items, seen, pending, finished⟩
    rw [judged]
    exact ⟨items, seen, pending, (if_pos filled).trans finished⟩
  · have unfilled : codec.collect receiver item =
        ({ receiver := receiver.withItem codec.layout item, record := none, events := [] },
          codec) := if_neg filled
    rw [unfilled]
    refine ⟨payloadItems, payloadSeen, ?_, if_neg filled⟩
    exact .of_outside (congrArg Phase.weight collecting) _ _

theorem pass_of {items remaining : Nat} (passing : receiver.phase = .passing items remaining)
    (pending : Pending receiver.phase payloadItems payloadSeen) {count index : Nat}
    (within : index ≤ count) :
    let taken := min remaining (count - index)
    ∃ seen, Pending (receiver.pass items remaining taken).receiver.phase payloadItems seen ∧
      (Device.of codec receiver payloadItems payloadSeen).pass count index =
        .ok (.of (receiver.pass items remaining taken, codec) payloadItems seen,
          index + taken) := by
  intro taken
  obtain ⟨rfl, total⟩ := pending items remaining passing
  have taken_le : taken ≤ remaining := Nat.min_le_left _ _
  have left : minus count index = .ok (count - index) := minus_eq_ok within
  have toCome : minus (Device.of codec receiver payloadItems payloadSeen).payloadItems
      (Device.of codec receiver payloadItems payloadSeen).payloadSeen = .ok remaining := by
    change minus payloadItems payloadSeen = _
    rw [minus_eq_ok (by omega), ← total, Nat.add_sub_cancel_left]
  refine ⟨payloadSeen + taken, ?_, ?_⟩
  · unfold Receiver.pass
    dsimp only
    split
    · exact .of_outside (Phase.weight_waitingPhase _) _ _
    · intro total rest passing
      obtain ⟨rfl, rfl⟩ := Phase.passing.inj passing
      exact ⟨rfl, by omega⟩
  · rw [Device.pass, toCome, ok_bind, left, ok_bind]
    have waiting := wait_of codec { receiver with position := receiver.position + taken }
      payloadItems (payloadSeen + taken)
    by_cases complete : remaining - taken = 0
    · have all : payloadSeen + taken = payloadItems := by omega
      rw [Receiver.pass, if_pos complete]
      refine (if_pos all).trans ?_
      exact congrArg (fun device => Except.ok (Outcome.mk device _ _, _)) waiting
    · have some : payloadSeen + taken ≠ payloadItems := by omega
      rw [Receiver.pass, if_neg complete]
      refine (if_neg some).trans ?_
      have stage : receiver.phase.stage = .passing := congrArg Phase.stage passing
      simp only [Device.of, Outcome.of, stage]
      rfl

def Reads (item : Nat → Guarded UInt8) (items : List UInt8) : Prop :=
  ∀ index (inside : index < items.length), item index = .ok items[index]

theorem weight_search (searching : receiver.phase = .searching) (item : UInt8) :
    (receiver.search item).receiver.phase.weight = 0 := by
  unfold Receiver.search
  dsimp only
  split
  · rfl
  · exact congrArg Phase.weight searching

theorem lt_length_of_drop {items rest : List UInt8} {index : Nat} {item : UInt8}
    (next : items.drop index = item :: rest) : index < items.length := by
  have longer := congrArg List.length next
  rw [List.length_drop, List.length_cons] at longer
  omega

theorem step_of (pending : Pending receiver.phase payloadItems payloadSeen)
    {items : List UInt8} {read : Nat → Guarded UInt8} (reads : Reads read items) {index : Nat}
    {item : UInt8} {rest : List UInt8} (next : items.drop index = item :: rest) :
    ∃ total seen, Pending (codec.step receiver item rest).1.receiver.phase total seen ∧
      (Device.of codec receiver payloadItems payloadSeen).step items.length read index =
        .ok (.of (codec.step receiver item rest) total seen,
          index + (codec.step receiver item rest).1.taken) := by
  have left : (item :: rest).length = items.length - index := by
    rw [← next, List.length_drop]
  have inside := lt_length_of_drop next
  have found : read index = .ok item := by
    rw [List.drop_eq_getElem_cons inside] at next
    rw [reads index inside, (List.cons.inj next).1]
  cases phase : receiver.phase with
  | searching =>
      have stage : (Device.of codec receiver payloadItems payloadSeen).stage = .searching :=
        congrArg Phase.stage phase
      have searched : codec.step receiver item rest = (receiver.search item, codec) := by
        simp only [HeaderCodec.step, phase]
      rw [searched]
      refine ⟨payloadItems, payloadSeen, .of_outside (weight_search receiver phase item) _ _, ?_⟩
      simp only [Device.step, stage, found, ok_bind, search_of, pure_eq_ok,
        Receiver.taken_search]
  | collecting =>
      have stage : (Device.of codec receiver payloadItems payloadSeen).stage = .collecting :=
        congrArg Phase.stage phase
      have collected : codec.step receiver item rest = codec.collect receiver item := by
        simp only [HeaderCodec.step, phase]
      have one : (codec.collect receiver item).1.taken = 1 := by
        rw [codec.collect_fst, Receiver.taken_collect]
      rcases collect_of codec receiver payloadItems payloadSeen phase item with
        ⟨total, seen, still, passed⟩
      rw [collected]
      refine ⟨total, seen, still, ?_⟩
      simp only [Device.step, stage, found, ok_bind, passed, pure_eq_ok, one]
  | passing total remaining =>
      have stage : (Device.of codec receiver payloadItems payloadSeen).stage = .passing :=
        congrArg Phase.stage phase
      have taken : ((item :: rest).take remaining).length =
          min remaining (items.length - index) := by
        rw [List.length_take, left]
      have passed : codec.step receiver item rest =
          (receiver.pass total remaining (min remaining (items.length - index)), codec) := by
        simp only [HeaderCodec.step, phase, taken]
      rcases pass_of codec receiver payloadItems payloadSeen phase pending (Nat.le_of_lt inside)
        with ⟨seen, still, reached⟩
      rw [passed]
      refine ⟨payloadItems, seen, still, ?_⟩
      simp only [Device.step, stage, reached, Receiver.taken_pass]

def Received.of (received : Reception × HeaderCodec) (payloadItems payloadSeen : Nat) :
    Received where
  device := .of received.2 received.1.receiver payloadItems payloadSeen
  records := received.1.records
  events := received.1.events
  index := received.1.consumed

theorem add_of (reception : Reception) (stepped : Step × HeaderCodec) (total seen : Nat) :
    (Received.of (reception, codec) payloadItems payloadSeen).add (.of stepped total seen)
        (reception.consumed + stepped.1.taken) =
      .of (reception.add stepped.1, stepped.2) total seen := rfl

/-- The loop over an index and the loop over items arrive at the same. -/
theorem drive_of (halting : Bool) {items : List UInt8} {read : Nat → Guarded UInt8}
    (reads : Reads read items) (reception : Reception) {rest : List UInt8}
    (next : items.drop reception.consumed = rest)
    (pending : Pending reception.receiver.phase payloadItems payloadSeen) :
    ∃ total seen, Pending (codec.drive halting reception rest).1.receiver.phase total seen ∧
      (Received.of (reception, codec) payloadItems payloadSeen).drive halting items.length read =
        .ok (.of (codec.drive halting reception rest) total seen) := by
  -- Every header that is accepted sets the numbers of its payload, so these change on the way.
  fun_induction HeaderCodec.drive codec halting reception rest
    generalizing payloadItems payloadSeen
  case case1 codec reception =>
      refine ⟨payloadItems, payloadSeen, pending, Received.drive_of_end halting read ?_⟩
      exact Nat.not_lt.mpr (List.drop_eq_nil_iff.mp next)
  case case2 codec reception item rest stepped halts =>
      rcases step_of codec reception.receiver payloadItems payloadSeen pending reads next with
        ⟨total, seen, still, passed⟩
      refine ⟨total, seen, still, ?_⟩
      rw [Received.drive_of_step halting (lt_length_of_drop next) passed]
      exact (if_pos halts).trans (congrArg Except.ok
        (add_of codec payloadItems payloadSeen reception stepped total seen))
  case case3 codec reception item rest stepped goesOn induction =>
      rcases step_of codec reception.receiver payloadItems payloadSeen pending reads next with
        ⟨total, seen, still, passed⟩
      have behind : items.drop (reception.add stepped.1).consumed =
          (item :: rest).drop stepped.1.taken := by
        rw [← next, List.drop_drop]
        rfl
      rcases induction total seen behind still with ⟨last, lastSeen, ending, driven⟩
      refine ⟨last, lastSeen, ending, ?_⟩
      rw [Received.drive_of_step halting (lt_length_of_drop next) passed]
      exact (if_neg goesOn).trans driven

end Simulation

end Guarded

end PacketFraming
