import PacketFraming.Layout.Basic
import PacketFraming.Bits.Correlator

/-! The receiving side: headers found in a stream of items.

The receiver searches for the access code, collects the bits of a header, and lets the
payload of an accepted header pass. `Receiver.step` is one pass of its loop: a single item of
a search or a header, or as much of a payload as has arrived. `Reception.drive` is the loop. -/

namespace PacketFraming

inductive Phase
  | searching
  | collecting
  /-- Letting a payload of `items` items pass, of which `remaining` are still to come. -/
  | passing (items remaining : Nat)
deriving DecidableEq, Repr

/-- What happens in a receiver while items pass. Positions count the items so far. -/
inductive Event
  | codeFound (distance position : Nat)
  | headerAccepted (skipped payloadItems : Nat)
  | headerRejected (position : Nat)
  | payloadComplete (items position : Nat)
deriving DecidableEq, Repr

structure Receiver where
  correlator : Correlator
  register : HeaderRegister
  phase : Phase
  /-- Items since the last payload ended, or since the start. -/
  skipped : Nat
  position : Nat

/-- What one pass of the loop leads to: the next state, a record if it completed an accepted
header, what happened, and how many items it took. -/
structure Step where
  receiver : Receiver
  record : Option Metadata
  events : List Event
  taken : Nat := 1

namespace Receiver

/-- The phase in which a header is waited for: without an access code, any item may be the
first of one. -/
def waitingPhase (code : AccessCode) : Phase :=
  if code.isEmpty then .collecting else .searching

def wait (receiver : Receiver) : Receiver :=
  { receiver with
    correlator := receiver.correlator.reset
    register := receiver.register.clear
    phase := waitingPhase receiver.correlator.code }

/-- A receiver before the first item, which tolerates no access code error. -/
def ofCode (code : AccessCode) : Receiver where
  correlator := .ofCode code
  register := .empty
  phase := waitingPhase code
  skipped := 0
  position := 0

/-- Back to the first item; only the threshold stays. -/
def reset (receiver : Receiver) : Receiver :=
  { receiver.wait with skipped := 0, position := 0 }

def setThreshold (receiver : Receiver) (threshold : Nat) : Except BitError Receiver :=
  (receiver.correlator.setThreshold threshold).map fun correlator =>
    { receiver with correlator }

def remaining (receiver : Receiver) : Nat :=
  match receiver.phase with
  | .passing _ remaining => remaining
  | _ => 0

/-- Counts an item of the search or of a header. -/
def countSkipped (receiver : Receiver) : Receiver :=
  { receiver with
    skipped := receiver.skipped + 1
    position := receiver.position + 1 }

def search (receiver : Receiver) (item : UInt8) : Step :=
  let counted := receiver.countSkipped
  let (correlator, found) := counted.correlator.push (itemBit item)
  match found with
  | some distance =>
      { receiver :=
          { counted with
            correlator
            register := counted.register.clear
            phase := .collecting }
        record := none
        events := [.codeFound distance counted.position] }
  | none => { receiver := { counted with correlator }, record := none, events := [] }

/-- What becomes of a receiver whose register is full: it lets the payload of a header pass, or
waits for another one. -/
def settle (receiver : Receiver) (header? : Option DecodedHeader) : Step :=
  match header? with
  | none =>
      { receiver := receiver.wait
        record := none
        events := [.headerRejected receiver.position] }
  | some header =>
      { receiver :=
          if header.payloadItems = 0 then { receiver.wait with skipped := 0 }
          else
            { receiver with
              skipped := 0
              phase := .passing header.payloadItems header.payloadItems }
        record :=
          some (header.metadata.insert Metadata.skippedItemsKey (.natural receiver.skipped))
        events := [.headerAccepted receiver.skipped header.payloadItems] }

def judge (layout : Layout) (receiver : Receiver) : Step :=
  receiver.settle (layout.read? receiver.register)

def collect (layout : Layout) (receiver : Receiver) (item : UInt8) : Step :=
  let counted := receiver.countSkipped
  let collected :=
    { counted with register := layout.collect counted.register item }
  if layout.bodyBits ≤ collected.register.length then judge layout collected
  else { receiver := collected, record := none, events := [] }

def pass (receiver : Receiver) (items remaining taken : Nat) : Step :=
  let position := receiver.position + taken
  if remaining - taken = 0 then
    { receiver := { receiver.wait with position }
      record := none
      events := [.payloadComplete items position]
      taken }
  else
    { receiver := { receiver with position, phase := .passing items (remaining - taken) }
      record := none
      events := []
      taken }

/-- One pass over items, the first of which is given apart. A payload passes as far as it has
arrived. -/
def step (layout : Layout) (receiver : Receiver) (item : UInt8) (rest : List UInt8) : Step :=
  match receiver.phase with
  | .searching => receiver.search item
  | .collecting => receiver.collect layout item
  | .passing items remaining =>
      receiver.pass items remaining ((item :: rest).take remaining).length

end Receiver

/-- A receiver together with what it has put out, in order. -/
structure Reception where
  receiver : Receiver
  records : Array Metadata
  events : Array Event
  consumed : Nat

namespace Phase

def weight : Phase → Nat
  | .passing _ _ => 1
  | _ => 0

@[simp] theorem weight_waitingPhase (code : AccessCode) :
    (Receiver.waitingPhase code).weight = 0 := by
  unfold Receiver.waitingPhase
  split <;> rfl

end Phase

namespace Receiver

@[simp] theorem phase_wait (receiver : Receiver) :
    receiver.wait.phase = waitingPhase receiver.correlator.code := rfl

@[simp] theorem taken_search (receiver : Receiver) (item : UInt8) :
    (receiver.search item).taken = 1 := by
  unfold search
  dsimp only
  split <;> rfl

@[simp] theorem taken_judge (layout : Layout) (receiver : Receiver) :
    (judge layout receiver).taken = 1 := by
  unfold judge settle
  split <;> rfl

@[simp] theorem taken_collect (layout : Layout) (receiver : Receiver) (item : UInt8) :
    (receiver.collect layout item).taken = 1 := by
  unfold collect
  dsimp only
  split
  · exact taken_judge layout _
  · rfl

@[simp] theorem taken_pass (receiver : Receiver) (items remaining taken : Nat) :
    (receiver.pass items remaining taken).taken = taken := by
  unfold pass
  dsimp only
  split <;> rfl

/-- A pass that takes nothing ends a payload: the loop comes to an end. -/
theorem step_decreases (layout : Layout) (receiver : Receiver) (item : UInt8)
    (rest : List UInt8) :
    Prod.Lex (· < ·) (· < ·)
      (((item :: rest).drop (receiver.step layout item rest).taken).length,
        (receiver.step layout item rest).receiver.phase.weight)
      ((item :: rest).length, receiver.phase.weight) := by
  have shorter {taken : Nat} (some : taken ≠ 0) :
      ((item :: rest).drop taken).length < (item :: rest).length := by
    simp only [List.length_drop, List.length_cons]
    omega
  unfold step
  cases phase : receiver.phase with
  | searching =>
      apply Prod.Lex.left
      exact shorter (by simp)
  | collecting =>
      apply Prod.Lex.left
      exact shorter (by simp)
  | passing items remaining =>
      cases remaining with
      | zero =>
          apply Prod.Lex.right
          simp only [pass, Nat.zero_sub, if_true, phase_wait, Phase.weight_waitingPhase]
          exact Nat.one_pos
      | succ remaining =>
          apply Prod.Lex.left
          exact shorter (by simp)

end Receiver

namespace Reception

def start (receiver : Receiver) : Reception where
  receiver := receiver
  records := #[]
  events := #[]
  consumed := 0

def add (reception : Reception) (step : Step) : Reception where
  receiver := step.receiver
  records := match step.record with
    | some record => reception.records.push record
    | none => reception.records
  events := step.events.foldl Array.push reception.events
  consumed := reception.consumed + step.taken

/-- The receive loop: it ends with the items, or behind the first accepted header if it is
to halt there. -/
def drive (layout : Layout) (halting : Bool) (reception : Reception) :
    List UInt8 → Reception
  | [] => reception
  | item :: rest =>
      let step := reception.receiver.step layout item rest
      if halting && step.record.isSome then reception.add step
      else drive layout halting (reception.add step) ((item :: rest).drop step.taken)
termination_by items => (items.length, reception.receiver.phase.weight)
decreasing_by exact Receiver.step_decreases layout reception.receiver item rest

def feed (layout : Layout) (reception : Reception) (items : List UInt8) : Reception :=
  reception.drive layout false items

end Reception

/-- How far a receiver came before it stopped at a header. -/
structure Halt where
  receiver : Receiver
  record : Option Metadata
  events : Array Event
  /-- Items received, the last one of the header included. -/
  consumed : Nat
  rest : List UInt8

/-- A reception that ended with or before these items, seen as a halt. -/
def Reception.halt (reception : Reception) (items : List UInt8) : Halt where
  receiver := reception.receiver
  record := reception.records.back?
  events := reception.events
  consumed := reception.consumed
  rest := items.drop reception.consumed

namespace Receiver

def receive (layout : Layout) (receiver : Receiver) (items : List UInt8) : Reception :=
  (Reception.start receiver).feed layout items

def receiveHeader (layout : Layout) (receiver : Receiver) (items : List UInt8) : Halt :=
  ((Reception.start receiver).drive layout true items).halt items

end Receiver

end PacketFraming
