import PacketFraming.Transceiver.Basic
import PacketFraming.Transceiver.Codec

/-! A transceiver whose two sides use one checksum register.

The receive loop hands the codec from pass to pass: every header that it judges leaves its
checksum behind, which the next header to be written or judged finds. -/

namespace PacketFraming

namespace HeaderCodec

/-! ## The receive loop -/

def collect (codec : HeaderCodec) (receiver : Receiver) (item : UInt8) : Step × HeaderCodec :=
  let counted := receiver.countSkipped
  let collected :=
    { counted with register := codec.layout.collect counted.register item }
  if codec.layout.bodyBits ≤ collected.register.length then
    (codec.read? collected.register).map collected.settle id
  else ({ receiver := collected, record := none, events := [] }, codec)

def step (codec : HeaderCodec) (receiver : Receiver) (item : UInt8) (rest : List UInt8) :
    Step × HeaderCodec :=
  match receiver.phase with
  | .searching => (receiver.search item, codec)
  | .collecting => codec.collect receiver item
  | .passing items remaining =>
      (receiver.pass items remaining ((item :: rest).take remaining).length, codec)

variable (codec : HeaderCodec)

theorem collect_fst (receiver : Receiver) (item : UInt8) :
    (codec.collect receiver item).1 = receiver.collect codec.layout item := by
  unfold collect Receiver.collect
  dsimp only
  split
  · exact congrArg (Receiver.settle _) (codec.read?_fst _)
  · rfl

theorem encoder_collect (receiver : Receiver) (item : UInt8) :
    (codec.collect receiver item).2.encoder = codec.encoder := by
  unfold collect
  dsimp only
  split
  · exact codec.encoder_read? _
  · rfl

theorem step_fst (receiver : Receiver) (item : UInt8) (rest : List UInt8) :
    (codec.step receiver item rest).1 = receiver.step codec.layout item rest := by
  unfold step Receiver.step
  cases receiver.phase with
  | searching => rfl
  | collecting => exact codec.collect_fst receiver item
  | passing items remaining => rfl

theorem encoder_step (receiver : Receiver) (item : UInt8) (rest : List UInt8) :
    (codec.step receiver item rest).2.encoder = codec.encoder := by
  unfold step
  cases receiver.phase with
  | searching => rfl
  | collecting => exact codec.encoder_collect receiver item
  | passing items remaining => rfl

theorem layout_step (receiver : Receiver) (item : UInt8) (rest : List UInt8) :
    (codec.step receiver item rest).2.layout = codec.layout :=
  congrArg Encoder.layout (codec.encoder_step receiver item rest)

def drive (codec : HeaderCodec) (halting : Bool) (reception : Reception) :
    List UInt8 → Reception × HeaderCodec
  | [] => (reception, codec)
  | item :: rest =>
      let stepped := codec.step reception.receiver item rest
      if halting && stepped.1.record.isSome then (reception.add stepped.1, stepped.2)
      else
        stepped.2.drive halting (reception.add stepped.1)
          ((item :: rest).drop stepped.1.taken)
termination_by items => (items.length, reception.receiver.phase.weight)
decreasing_by
  rw [step_fst]
  exact Receiver.step_decreases codec.layout reception.receiver item rest

/-- Whatever is in the checksum register, items are received as with the layout alone. -/
theorem drive_fst (halting : Bool) (reception : Reception) (items : List UInt8) :
    (codec.drive halting reception items).1 = reception.drive codec.layout halting items := by
  fun_induction drive codec halting reception items with
  | case1 codec reception => rw [Reception.drive]
  | case2 codec reception item rest stepped halts =>
      rw [Reception.drive, ← codec.step_fst]
      exact (if_pos halts).symm
  | case3 codec reception item rest stepped goesOn received =>
      rw [Reception.drive, ← codec.step_fst]
      refine Eq.trans ?_ (if_neg goesOn).symm
      rw [received, codec.layout_step]

/-- Receiving does not disturb the headers that are written. -/
theorem encoder_drive (halting : Bool) (reception : Reception) (items : List UInt8) :
    (codec.drive halting reception items).2.encoder = codec.encoder := by
  fun_induction drive codec halting reception items with
  | case1 codec reception => rfl
  | case2 codec reception item rest stepped halts =>
      exact codec.encoder_step reception.receiver item rest
  | case3 codec reception item rest stepped goesOn kept =>
      exact kept.trans (codec.encoder_step reception.receiver item rest)

end HeaderCodec

/-- Both sides of a stream, where headers are written and judged with one checksum register. -/
structure SharedTransceiver where
  codec : HeaderCodec
  receiver : Receiver

namespace SharedTransceiver

def ofLayout (layout : Layout) : SharedTransceiver where
  codec := .ofLayout layout
  receiver := .ofCode layout.accessCode

/-- A threshold that is refused leaves the one before. -/
def setThreshold (device : SharedTransceiver) (threshold : Nat) :
    Except BitError Unit × SharedTransceiver :=
  match device.receiver.setThreshold threshold with
  | .ok receiver => (.ok (), { device with receiver })
  | .error cause => (.error cause, device)

/-- Both sides for a selected layout. The layout is judged before the threshold. -/
def ofConfig (config : LayoutConfig) : Except LayoutError SharedTransceiver := do
  let layout ← config.build
  let (outcome, device) := (ofLayout layout).setThreshold config.threshold.toNat
  (outcome.map fun _ => device).mapError .field

def encode (device : SharedTransceiver) (length : Nat) (metadata : Metadata) :
    Except LayoutError EncodedHeader × SharedTransceiver :=
  (device.codec.encode length metadata).map id fun codec => { device with codec }

def drive (device : SharedTransceiver) (halting : Bool) (items : List UInt8) :
    Reception × SharedTransceiver :=
  let (reception, codec) := device.codec.drive halting (.start device.receiver) items
  (reception, { codec, receiver := reception.receiver })

def receive (device : SharedTransceiver) (items : List UInt8) : Reception × SharedTransceiver :=
  device.drive false items

def receiveSoft (device : SharedTransceiver) (values : List SoftValue) :
    Reception × SharedTransceiver :=
  device.receive (values.map SoftValue.slice)

def receiveHeader (device : SharedTransceiver) (items : List UInt8) :
    Halt × SharedTransceiver :=
  (device.drive true items).map (·.halt items) id

/-- Forgets everything received; headers go on being counted. -/
def reset (device : SharedTransceiver) : SharedTransceiver :=
  { device with receiver := device.receiver.reset }

/-! ## The two sides, told apart -/

/-- The transceiver that needs no checksum register, since it takes every checksum afresh. -/
def separate (device : SharedTransceiver) : Transceiver where
  encoder := device.codec.encoder
  receiver := device.receiver

variable (device : SharedTransceiver)

theorem separate_setThreshold (threshold : Nat) :
    ((device.setThreshold threshold).1.map fun _ => (device.setThreshold threshold).2.separate) =
      device.separate.setThreshold threshold := by
  unfold setThreshold Transceiver.setThreshold
  change _ = (device.receiver.setThreshold threshold).map _
  cases device.receiver.setThreshold threshold <;> rfl

/-- Both kinds are built from the same selections, and refused for the same causes. -/
theorem separate_ofConfig (config : LayoutConfig) :
    (ofConfig config).map separate = Transceiver.ofConfig config := by
  unfold ofConfig Transceiver.ofConfig
  cases config.build with
  | error cause => rfl
  | ok layout =>
      have adjusted := (ofLayout layout).separate_setThreshold config.threshold.toNat
      change _ = Except.mapError LayoutError.field
        ((ofLayout layout).separate.setThreshold config.threshold.toNat)
      rw [← adjusted]
      simp only [bind, Except.bind]
      rcases (ofLayout layout).setThreshold config.threshold.toNat with ⟨_ | _, device⟩ <;> rfl

/-- Headers are those that the separate transceiver writes. -/
theorem encode_eq (length : Nat) (metadata : Metadata) :
    (device.encode length metadata).map id separate =
      device.separate.encode length metadata :=
  congrArg (Prod.map id fun encoder => Transceiver.mk encoder device.receiver)
    (device.codec.encode_eq length metadata)

theorem drive_fst (halting : Bool) (items : List UInt8) :
    (device.drive halting items).1 =
      (Reception.start device.receiver).drive device.codec.layout halting items :=
  device.codec.drive_fst halting (.start device.receiver) items

theorem separate_drive (halting : Bool) (items : List UInt8) :
    (device.drive halting items).2.separate =
      { device.separate with receiver := (device.drive halting items).1.receiver } :=
  congrArg (fun encoder => Transceiver.mk encoder (device.drive halting items).1.receiver)
    (device.codec.encoder_drive halting (.start device.receiver) items)

end SharedTransceiver

end PacketFraming
