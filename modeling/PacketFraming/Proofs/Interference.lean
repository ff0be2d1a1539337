import PacketFraming.Stream.Framer

/-! The two sides of a transceiver do not interfere.

A transceiver is called in any order to write headers and to receive. The answers on one side
are those of a transceiver that is never called on the other side, although both sides use one
checksum register. The proof is an unwinding argument: each side sees part of the state, a call
on its own side answers and goes on by what it sees, and a call on the other side leaves that
part alone. -/

namespace PacketFraming

/-! ## Unwinding -/

section Unwinding

variable {State Call Answer : Type} (step : State → Call → Answer × State)

def transcript (state : State) : List Call → List (Call × Answer)
  | [] => []
  | call :: calls =>
      let answered := step state call
      (call, answered.1) :: transcript answered.2 calls

/-- What some of the calls see is a view of the state: they answer and lead on by the view, and
the other calls leave it as it is. -/
structure Unwinding (own : Call → Bool) {View : Type} (view : State → View) : Prop where
  seen {call : Call} (mine : own call = true) {first second : State}
    (same : view first = view second) :
    (step first call).map id view = (step second call).map id view
  kept {call : Call} (foreign : own call = false) (state : State) :
    view (step state call).2 = view state

variable {step} {own : Call → Bool} {View : Type} {view : State → View}

/-- The answers to a side's own calls do not depend on what else is called. -/
theorem Unwinding.filter_transcript (unwinding : Unwinding step own view) {first second : State}
    (same : view first = view second) (calls : List Call) :
    (transcript step first calls).filter (fun entry => own entry.1) =
      transcript step second (calls.filter own) := by
  induction calls generalizing first second with
  | nil => rfl
  | cons call calls induction =>
      rw [transcript, List.filter_cons, List.filter_cons]
      cases mine : own call with
      | true =>
          rcases Prod.mk.inj (unwinding.seen mine same) with ⟨answers, views⟩
          simp only [if_true, transcript]
          rw [induction views]
          exact congrArg (fun answer => (call, answer) :: _) answers
      | false =>
          simp only [Bool.false_eq_true, if_false]
          exact induction ((unwinding.kept mine first).trans same)

end Unwinding

/-! ## Transceivers -/

namespace SharedTransceiver

inductive Call
  /-- For the header of a payload with a number of bytes. -/
  | encode (length : Nat) (metadata : Metadata)
  | receive (items : List UInt8)
  | receiveSoft (values : List SoftValue)
  | receiveHeader (items : List UInt8)
  | reset
  | setThreshold (threshold : Nat)

/-- What a call returns. Whatever is not about headers to send comes with the receiver, which
is its phase, its position and its threshold. -/
inductive Answer
  | header (result : Except LayoutError EncodedHeader)
  | reception (reception : Reception)
  | halt (halt : Halt)
  | done (receiver : Receiver)
  | threshold (result : Except BitError Unit) (receiver : Receiver)

def Call.transmits : Call → Bool
  | .encode .. => true
  | _ => false

def answer (device : SharedTransceiver) : Call → Answer × SharedTransceiver
  | .encode length metadata => (device.encode length metadata).map .header id
  | .receive items => (device.receive items).map .reception id
  | .receiveSoft values => (device.receiveSoft values).map .reception id
  | .receiveHeader items => (device.receiveHeader items).map .halt id
  | .reset => (.done device.reset.receiver, device.reset)
  | .setThreshold threshold =>
      let adjusted := device.setThreshold threshold
      (.threshold adjusted.1 adjusted.2.receiver, adjusted.2)

/-- The part of a device that headers to send depend on: the layout and the packet counter. -/
def transmitting (device : SharedTransceiver) : Encoder :=
  device.codec.encoder

def receiving (device : SharedTransceiver) : Layout × Receiver :=
  (device.codec.layout, device.receiver)

theorem receiving_encode (device : SharedTransceiver) (length : Nat) (metadata : Metadata) :
    (device.encode length metadata).2.receiving = device.receiving := by
  have encoded : (device.encode length metadata).2.codec.layout =
      (device.codec.encoder.encode length metadata).2.layout :=
    congrArg (·.2.layout) (device.encode_eq length metadata)
  exact congrArg (·, device.receiver)
    (encoded.trans (device.codec.encoder.layout_encode length metadata))

theorem drive_receiving (device : SharedTransceiver) (halting : Bool) (items : List UInt8) :
    (device.drive halting items).map id receiving =
      let reception :=
        (Reception.start device.receiver).drive device.codec.layout halting items
      (reception, device.codec.layout, reception.receiver) := by
  have sameLayout : (device.drive halting items).2.codec.layout = device.codec.layout :=
    congrArg (·.layout) (device.separate_drive halting items)
  rw [← drive_fst, ← sameLayout]
  rfl

theorem setThreshold_receiving (device : SharedTransceiver) (threshold : Nat) :
    (device.setThreshold threshold).map id receiving =
      match device.receiver.setThreshold threshold with
      | .ok receiver => (.ok (), device.codec.layout, receiver)
      | .error cause => (.error cause, device.receiving) := by
  unfold setThreshold
  cases device.receiver.setThreshold threshold <;> rfl

theorem transmitting_unwinding : Unwinding answer Call.transmits transmitting where
  seen {call} mine {first second} same := by
    cases call with
    | encode length metadata =>
        have answered (device : SharedTransceiver) :
            (device.answer (.encode length metadata)).map id transmitting =
              (device.transmitting.encode length metadata).map Answer.header id :=
          congrArg (Prod.map Answer.header Transceiver.encoder) (device.encode_eq length metadata)
        rw [answered, answered, same]
    | _ => cases mine
  kept {call} foreign device := by
    cases call with
    | encode length metadata => cases foreign
    | receive items => exact congrArg (·.encoder) (device.separate_drive false items)
    | receiveSoft values => exact congrArg (·.encoder) (device.separate_drive false _)
    | receiveHeader items => exact congrArg (·.encoder) (device.separate_drive true items)
    | reset => rfl
    | setThreshold threshold =>
        change (device.setThreshold threshold).2.codec.encoder = device.codec.encoder
        unfold setThreshold
        split <;> rfl

theorem receiving_unwinding :
    Unwinding answer (fun call => !call.transmits) receiving where
  seen {call} mine {first second} same := by
    rcases Prod.mk.inj same with ⟨sameLayout, sameReceiver⟩
    have driven (halting : Bool) (items : List UInt8) :
        (first.drive halting items).map id receiving =
          (second.drive halting items).map id receiving := by
      rw [drive_receiving, drive_receiving, sameLayout, sameReceiver]
    cases call with
    | encode length metadata => cases mine
    | receive items => exact congrArg (Prod.map Answer.reception id) (driven false items)
    | receiveSoft values => exact congrArg (Prod.map Answer.reception id) (driven false _)
    | receiveHeader items =>
        exact congrArg (Prod.map (fun reception => Answer.halt (reception.halt items)) id)
          (driven true items)
    | reset =>
        exact congrArg
          (fun seen : Layout × Receiver => (Answer.done seen.2.reset, seen.1, seen.2.reset)) same
    | setThreshold threshold =>
        have adjusted : (first.setThreshold threshold).map id receiving =
            (second.setThreshold threshold).map id receiving := by
          rw [setThreshold_receiving, setThreshold_receiving, same, sameLayout, sameReceiver]
        exact congrArg (fun seen : Except BitError Unit × Layout × Receiver =>
          (Answer.threshold seen.1 seen.2.2, seen.2)) adjusted
  kept {call} foreign device := by
    cases call with
    | encode length metadata => exact device.receiving_encode length metadata
    | _ => cases foreign

end SharedTransceiver

/-! ## Framers -/

namespace SharedFramer

/-- Calls of a framer: its own, and those of the transceiver in it. -/
inductive Call
  | frame (payload : List UInt8) (metadata : Metadata)
  | setPadding (padding : UInt64)
  | inner (call : SharedTransceiver.Call)

inductive Answer
  | frame (result : Except LayoutError WireFrame)
  | options (options : FramingOptions)
  | inner (answer : SharedTransceiver.Answer)

def Call.transmits : Call → Bool
  | .inner call => call.transmits
  | _ => true

def answer (framer : SharedFramer) : Call → Answer × SharedFramer
  | .frame payload metadata => (framer.frame payload metadata).map .frame id
  | .setPadding padding => (.options (framer.setPadding padding).options, framer.setPadding padding)
  | .inner call => (framer.device.answer call).map .inner fun device => { framer with device }

def transmitting (framer : SharedFramer) : Encoder × FramingOptions :=
  (framer.device.transmitting, framer.options)

def receiving (framer : SharedFramer) : Layout × Receiver :=
  framer.device.receiving

theorem transmitting_unwinding : Unwinding answer Call.transmits transmitting where
  seen {call} mine {first second} same := by
    rcases Prod.mk.inj same with ⟨sameEncoder, sameOptions⟩
    cases call with
    | frame payload metadata =>
        have answered (framer : SharedFramer) :
            (framer.answer (.frame payload metadata)).map id transmitting =
              (framer.device.transmitting.encode payload.length metadata).map
                (fun header => .frame (header.map (framer.options.wireFrame payload)))
                (·, framer.options) :=
          congrArg
            (Prod.map Answer.frame
              fun framer : Framer => (framer.transceiver.encoder, framer.options))
            (framer.frame_eq payload metadata)
        rw [answered, answered, sameEncoder, sameOptions]
    | setPadding padding =>
        exact congrArg (fun seen : Encoder × FramingOptions =>
          (Answer.options { seen.2 with padding }, seen.1, { seen.2 with padding })) same
    | inner call =>
        have answered := SharedTransceiver.transmitting_unwinding.seen mine sameEncoder
        have paired := congrArg (Prod.map Answer.inner (·, first.options)) answered
        refine paired.trans ?_
        rw [sameOptions]
        rfl
  kept {call} foreign framer := by
    cases call with
    | inner call =>
        exact congrArg (·, framer.options)
          (SharedTransceiver.transmitting_unwinding.kept foreign framer.device)
    | _ => cases foreign

theorem receiving_unwinding :
    Unwinding answer (fun call => !call.transmits) receiving where
  seen {call} mine {first second} same := by
    cases call with
    | inner call =>
        exact congrArg (Prod.map Answer.inner id)
          (SharedTransceiver.receiving_unwinding.seen mine same)
    | _ => cases mine
  kept {call} foreign framer := by
    cases call with
    | frame payload metadata => exact framer.device.receiving_encode payload.length metadata
    | setPadding padding => rfl
    | inner call => exact SharedTransceiver.receiving_unwinding.kept foreign framer.device

end SharedFramer

/-- What is written and what is received are as if the other did not happen, in whatever order a
transceiver is called, on its own or in a framer, whatever it was built from and whatever it has
been through. -/
theorem sides_apart (device : SharedTransceiver) (calls : List SharedTransceiver.Call)
    (framer : SharedFramer) (framerCalls : List SharedFramer.Call) :
    ((transcript SharedTransceiver.answer device calls).filter (·.1.transmits) =
        transcript SharedTransceiver.answer device (calls.filter (·.transmits)) ∧
      (transcript SharedTransceiver.answer device calls).filter (!·.1.transmits) =
        transcript SharedTransceiver.answer device (calls.filter (!·.transmits))) ∧
    ((transcript SharedFramer.answer framer framerCalls).filter (·.1.transmits) =
        transcript SharedFramer.answer framer (framerCalls.filter (·.transmits)) ∧
      (transcript SharedFramer.answer framer framerCalls).filter (!·.1.transmits) =
        transcript SharedFramer.answer framer (framerCalls.filter (!·.transmits))) :=
  ⟨⟨SharedTransceiver.transmitting_unwinding.filter_transcript rfl calls,
      SharedTransceiver.receiving_unwinding.filter_transcript rfl calls⟩,
    ⟨SharedFramer.transmitting_unwinding.filter_transcript rfl framerCalls,
      SharedFramer.receiving_unwinding.filter_transcript rfl framerCalls⟩⟩

end PacketFraming
