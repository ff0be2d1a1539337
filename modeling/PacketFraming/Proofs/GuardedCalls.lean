import PacketFraming.Proofs.GuardedRuns

/-! Whole runs without a trap.

A device is built from a selection and called in any order. Where the selection is refused, so it
is without traps; where it is taken, the device replies to every call what the transceiver does. -/

namespace PacketFraming

/-- What a call hands over. -/
inductive Reply
  | header (result : Except LayoutError EncodedHeader)
  | received (records : Array Metadata) (events : Array Event) (consumed : Nat)
  | stopped (record : Option Metadata) (events : Array Event) (consumed : Nat)
  | done
  | threshold (result : Except BitError Unit)

/-- What can be seen of a device between two calls. -/
structure Shown where
  stage : Stage
  position : Nat
  /-- Items of a payload that are still to come. -/
  remaining : Nat
  threshold : Nat
deriving DecidableEq, Repr

namespace SharedTransceiver

def Answer.reply : Answer → Reply
  | .header result => .header result
  | .reception received => .received received.records received.events received.consumed
  | .halt halted => .stopped halted.record halted.events halted.consumed
  | .done _ => .done
  | .threshold result _ => .threshold result

def shown (device : SharedTransceiver) : Shown where
  stage := device.receiver.phase.stage
  position := device.receiver.position
  remaining := device.receiver.remaining
  threshold := device.receiver.correlator.threshold

def replies (device : SharedTransceiver) : List Call → List (Reply × Shown)
  | [] => []
  | call :: calls =>
      ((device.answer call).1.reply, (device.answer call).2.shown) ::
        (device.answer call).2.replies calls

end SharedTransceiver

namespace Guarded

/-! ## Calls -/

def itemAt (items : List UInt8) (index : Nat) : Guarded UInt8 :=
  entry items[index]?

def sampleAt (values : List SoftValue) (index : Nat) : Guarded UInt8 := do
  let value ← entry values[index]?
  return value.slice

namespace Device

variable (device : Device)

def receive (halting : Bool) (count : Nat) (item : Nat → Guarded UInt8) : Guarded Received :=
  (Received.start device).drive halting count item

def reset : Device :=
  { device with skipped := 0, position := 0, payloadItems := 0, payloadSeen := 0 }.wait

def setThreshold (threshold : Nat) : Except BitError Unit × Device :=
  match device.correlator.setThreshold threshold with
  | .ok correlator => (.ok (), { device with correlator })
  | .error cause => (.error cause, device)

def call : SharedTransceiver.Call → Guarded (Reply × Device)
  | .encode length metadata => do
      let (result, codec) ← encode device.codec device.tables length metadata
      return (.header result, { device with codec })
  | .receive items => do
      let received ← device.receive false items.length (itemAt items)
      return (.received received.records received.events received.index, received.device)
  | .receiveSoft values => do
      let received ← device.receive false values.length (sampleAt values)
      return (.received received.records received.events received.index, received.device)
  | .receiveHeader items => do
      let received ← device.receive true items.length (itemAt items)
      return (.stopped received.records.back? received.events received.index, received.device)
  | .reset => return (.done, device.reset)
  | .setThreshold threshold =>
      let adjusted := device.setThreshold threshold
      return (.threshold adjusted.1, adjusted.2)

def remaining : Guarded Nat :=
  match device.stage with
  | .passing => minus device.payloadItems device.payloadSeen
  | _ => return 0

def shown : Guarded Shown := do
  let remaining ← device.remaining
  return {
    stage := device.stage
    position := device.position
    remaining
    threshold := device.correlator.threshold }

def replies (device : Device) : List SharedTransceiver.Call → Guarded (List (Reply × Shown))
  | [] => return []
  | call :: calls => do
      let (reply, next) ← device.call call
      let shown ← next.shown
      let rest ← next.replies calls
      return (reply, shown) :: rest

end Device

/-! ## Selections -/

/-- A header over the first rows of a table, of which the header's rows are cut off. -/
def ofTable (rows : List Nat) (headerRows width symbolBits : Nat)
    (lengthKey counterKey frameLengthKey : String) (scrambled : Bool) :
    Guarded (Except LayoutError CarrierLayout) :=
  if carriers_pos : 1 ≤ carriersIn rows then
    if headerRows ≤ rows.length then
      if symbolBits_pos : 1 ≤ symbolBits then do
        let front ← require (headerRows ≤ rows.length) .indexOutOfRange (rows.take headerRows)
        match UnitLayout.ofSizes (carriersIn front) width lengthKey counterKey with
        | .error cause => return .error cause
        | .ok units =>
            return .ok {
              units, rows, symbolBits, frameLengthKey, scrambled
              sized := { carriers_pos, symbolBits_pos } }
      else return .error (.invalidSymbolBits 0)
    else return .error (.headerSymbolsOutOfRange headerRows rows.length)
  else return .error .emptyCarrierTable

def build (config : LayoutConfig) : Guarded (Except LayoutError Layout) :=
  match config with
  | .carriers config => do
      let layout ← ofTable (config.table.map List.length) config.headerSymbols.toNat
        config.width.toNat config.symbolBits.toNat config.lengthKey config.counterKey
        config.frameLengthKey config.scrambled
      return layout.map .carriers
  | config => return config.build

def Device.ofLayout (layout : Layout) : Guarded Device := do
  let tables ← Guarded.tables layout
  let bodyBits ← minus layout.headerBits layout.accessCode.length
  return Device.wait {
    codec := .ofLayout layout
    tables
    correlator := .ofCode layout.accessCode
    register := { bytes := #[], length := 0 }
    stage := .searching
    bodyBits
    payloadItems := 0
    payloadSeen := 0
    skipped := 0
    position := 0 }

def ofConfig (config : LayoutConfig) : Guarded (Except LayoutError Device) := do
  match ← build config with
  | .error cause => return .error cause
  | .ok layout =>
      let device ← Device.ofLayout layout
      match device.correlator.setThreshold config.threshold.toNat with
      | .ok correlator => return .ok { device with correlator }
      | .error cause => return .error (.field cause)

/-- The replies of a device that is built from a selection, or why it is refused. -/
def run (config : LayoutConfig) (calls : List SharedTransceiver.Call) :
    Guarded (Except LayoutError (List (Reply × Shown))) := do
  match ← ofConfig config with
  | .error cause => return .error cause
  | .ok device =>
      let replies ← device.replies calls
      return .ok replies

/-! ## The replies of transceivers -/

/-- A device in the state of a transceiver. -/
def Device.Stands (device : Device) (shared : SharedTransceiver) : Prop :=
  ∃ payloadItems payloadSeen, Pending shared.receiver.phase payloadItems payloadSeen ∧
    device = .of shared.codec shared.receiver payloadItems payloadSeen

section Calls

variable {device : Device} {shared : SharedTransceiver}

theorem shown_eq_ok (stands : device.Stands shared) : device.shown = .ok shared.shown := by
  rcases stands with ⟨payloadItems, payloadSeen, pending, rfl⟩
  have remaining : (Device.of shared.codec shared.receiver payloadItems payloadSeen).remaining =
      .ok shared.receiver.remaining := by
    cases phase : shared.receiver.phase with
    | searching | collecting =>
        have stage := congrArg Phase.stage phase
        simp only [Device.remaining, Device.of, Receiver.remaining, phase, Phase.stage]
        rfl
    | passing items remaining =>
        obtain ⟨rfl, total⟩ := pending items remaining phase
        simp only [Device.remaining, Device.of, Receiver.remaining, phase, Phase.stage]
        rw [minus_eq_ok (by omega), ← total, Nat.add_sub_cancel_left]
  rw [Device.shown, remaining]
  rfl

theorem reads_itemAt (items : List UInt8) : Reads (itemAt items) items := by
  intro index inside
  exact entry_list_eq_ok inside

theorem reads_sampleAt (values : List SoftValue) :
    Reads (sampleAt values) (values.map SoftValue.slice) := by
  intro index inside
  rw [List.length_map] at inside
  rw [sampleAt, List.getElem?_eq_getElem inside, entry, ok_bind, List.getElem_map]
  rfl

theorem receive_of (stands : device.Stands shared) (halting : Bool) {items : List UInt8}
    {read : Nat → Guarded UInt8} (reads : Reads read items) :
    ∃ received, device.receive halting items.length read = .ok received ∧
      received.records = (shared.drive halting items).1.records ∧
      received.events = (shared.drive halting items).1.events ∧
      received.index = (shared.drive halting items).1.consumed ∧
      received.device.Stands (shared.drive halting items).2 := by
  rcases stands with ⟨payloadItems, payloadSeen, pending, rfl⟩
  rcases drive_of shared.codec payloadItems payloadSeen halting reads (.start shared.receiver)
    rfl pending with ⟨total, seen, still, driven⟩
  exact ⟨_, driven, rfl, rfl, rfl, total, seen, still, rfl⟩

theorem setThreshold_of (stands : device.Stands shared) (threshold : Nat) :
    ∃ next, device.call (.setThreshold threshold) =
        .ok ((shared.answer (.setThreshold threshold)).1.reply, next) ∧
      next.Stands (shared.answer (.setThreshold threshold)).2 := by
  rcases stands with ⟨payloadItems, payloadSeen, pending, rfl⟩
  have adjusted : (Device.of shared.codec shared.receiver payloadItems payloadSeen).setThreshold
      threshold = ((shared.setThreshold threshold).1,
        .of shared.codec (shared.setThreshold threshold).2.receiver payloadItems payloadSeen) ∧
      (shared.setThreshold threshold).2.codec = shared.codec ∧
      (shared.setThreshold threshold).2.receiver.phase = shared.receiver.phase := by
    unfold Device.setThreshold SharedTransceiver.setThreshold Receiver.setThreshold Device.of
    dsimp only
    cases shared.receiver.correlator.setThreshold threshold <;> exact ⟨rfl, rfl, rfl⟩
  rcases adjusted with ⟨answered, sameCodec, samePhase⟩
  refine ⟨.of shared.codec (shared.setThreshold threshold).2.receiver payloadItems payloadSeen,
    ?_, payloadItems, payloadSeen, ?_, ?_⟩
  · rw [Device.call, answered]
    rfl
  · exact samePhase ▸ pending
  · exact congrArg (fun codec => Device.of codec _ _ _) sameCodec.symm

theorem encode_of (stands : device.Stands shared) (length : Nat) (metadata : Metadata) :
    ∃ next, device.call (.encode length metadata) =
        .ok ((shared.answer (.encode length metadata)).1.reply, next) ∧
      next.Stands (shared.answer (.encode length metadata)).2 := by
  rcases stands with ⟨payloadItems, payloadSeen, pending, rfl⟩
  have kept : (shared.codec.encode length metadata).2.layout = shared.codec.layout :=
    shared.layout_answer (.encode length metadata)
  have encoded : encode (Device.of shared.codec shared.receiver payloadItems payloadSeen).codec
      (Device.of shared.codec shared.receiver payloadItems payloadSeen).tables length metadata =
        .ok (shared.codec.encode length metadata) := encode_eq_ok shared.codec length metadata
  refine ⟨.of (shared.codec.encode length metadata).2 shared.receiver payloadItems payloadSeen,
    ?_, payloadItems, payloadSeen, pending, rfl⟩
  rw [Device.call, encoded, ok_bind, ← of_codec _ _ _ _ kept]
  rfl

/-- A device that stands where a transceiver does gives the same reply to a call, and stands where
the transceiver does afterwards. -/
theorem call_of (stands : device.Stands shared) (call : SharedTransceiver.Call) :
    ∃ next, device.call call = .ok ((shared.answer call).1.reply, next) ∧
      next.Stands (shared.answer call).2 := by
  cases call with
  | encode length metadata => exact encode_of stands length metadata
  | receive items =>
      rcases receive_of stands false (reads_itemAt items) with
        ⟨received, driven, records, events, index, arrives⟩
      refine ⟨received.device, ?_, arrives⟩
      rw [Device.call, driven, ok_bind, records, events, index]
      rfl
  | receiveSoft values =>
      have sampled := receive_of stands false (reads_sampleAt values)
      rw [List.length_map] at sampled
      rcases sampled with ⟨received, driven, records, events, index, arrives⟩
      refine ⟨received.device, ?_, arrives⟩
      rw [Device.call, driven, ok_bind, records, events, index]
      rfl
  | receiveHeader items =>
      rcases receive_of stands true (reads_itemAt items) with
        ⟨received, driven, records, events, index, arrives⟩
      refine ⟨received.device, ?_, arrives⟩
      rw [Device.call, driven, ok_bind, records, events, index]
      rfl
  | reset =>
      rcases stands with ⟨payloadItems, payloadSeen, pending, rfl⟩
      have waiting := wait_of shared.codec { shared.receiver with skipped := 0, position := 0 } 0 0
      exact ⟨_, rfl, 0, 0, .of_outside (Phase.weight_waitingPhase _) _ _, waiting⟩
  | setThreshold threshold => exact setThreshold_of stands threshold

theorem replies_of (stands : device.Stands shared) (calls : List SharedTransceiver.Call) :
    device.replies calls = .ok (shared.replies calls) := by
  induction calls generalizing device shared with
  | nil => rfl
  | cons call calls induction =>
      rcases call_of stands call with ⟨next, replied, further⟩
      rw [Device.replies, replied, ok_bind]
      dsimp only
      rw [shown_eq_ok further, ok_bind, induction further]
      rfl

end Calls

/-! ## The selection of transceivers -/

theorem ofTable_eq_ok (rows : List Nat) (headerRows width symbolBits : Nat)
    (lengthKey counterKey frameLengthKey : String) (scrambled : Bool) :
    ofTable rows headerRows width symbolBits lengthKey counterKey frameLengthKey scrambled =
      .ok (CarrierLayout.ofTable rows headerRows width symbolBits lengthKey counterKey
        frameLengthKey scrambled) := by
  unfold ofTable CarrierLayout.ofTable
  split
  · split
    · next within =>
      split
      · rw [require_eq_ok within, ok_bind]
        cases UnitLayout.ofSizes (carriersIn (rows.take headerRows)) width lengthKey counterKey <;>
          rfl
      · rfl
    · rfl
  · rfl

theorem build_eq_ok (config : LayoutConfig) : build config = .ok config.build := by
  cases config with
  | plain | counter | crc | units => rfl
  | carriers config =>
      rw [build, ofTable_eq_ok, ok_bind, LayoutConfig.build]
      cases CarrierLayout.ofTable (config.table.map List.length) config.headerSymbols.toNat
        config.width.toNat config.symbolBits.toNat config.lengthKey config.counterKey
        config.frameLengthKey config.scrambled <;> rfl

theorem ofLayout_eq_ok (layout : Layout) :
    Device.ofLayout layout =
      .ok (.of (.ofLayout layout) (.ofCode layout.accessCode) 0 0) := by
  have bodyBits : minus layout.headerBits layout.accessCode.length = .ok layout.bodyBits := by
    rw [Layout.headerBits, minus_eq_ok (Nat.le_add_right _ _), Nat.add_sub_cancel_left]
  have waiting := wait_of (.ofLayout layout) (.ofCode layout.accessCode) 0 0
  rw [Device.ofLayout, tables_eq_ok, ok_bind, bodyBits, ok_bind]
  exact congrArg Except.ok waiting

theorem ofConfig_eq_ok (config : LayoutConfig) :
    ofConfig config = .ok ((SharedTransceiver.ofConfig config).map fun shared =>
      .of shared.codec shared.receiver 0 0) := by
  unfold ofConfig
  rw [build_eq_ok, ok_bind]
  cases selected : config.build with
  | error cause =>
      rw [SharedTransceiver.ofConfig_eq_error_of_build selected]
      rfl
  | ok layout =>
      dsimp only
      rw [ofLayout_eq_ok, ok_bind]
      by_cases within : config.threshold.toNat ≤ layout.accessCode.length
      · have adjusted : (Correlator.ofCode layout.accessCode).setThreshold config.threshold.toNat =
            .ok { Correlator.ofCode layout.accessCode with
              threshold := config.threshold.toNat } := if_pos within
        rw [SharedTransceiver.ofConfig_eq_ok selected within,
          show (Device.of (.ofLayout layout) (.ofCode layout.accessCode) 0 0).correlator =
            Correlator.ofCode layout.accessCode from rfl, adjusted]
        rfl
      · have refused : (Correlator.ofCode layout.accessCode).setThreshold config.threshold.toNat =
            .error (.thresholdTooLarge config.threshold.toNat layout.accessCode.length) :=
          if_neg within
        rw [SharedTransceiver.ofConfig_eq_error_of_threshold selected within,
          show (Device.of (.ofLayout layout) (.ofCode layout.accessCode) 0 0).correlator =
            Correlator.ofCode layout.accessCode from rfl, refused]
        rfl

theorem run_eq_ok (config : LayoutConfig) (calls : List SharedTransceiver.Call) :
    run config calls =
      .ok ((SharedTransceiver.ofConfig config).map fun shared => shared.replies calls) := by
  rw [run, ofConfig_eq_ok, ok_bind]
  cases built : SharedTransceiver.ofConfig config with
  | error cause => rfl
  | ok shared =>
      rcases SharedTransceiver.exists_layout_of_ofConfig built with ⟨layout, -, -, rfl⟩
      have fresh : Pending (Receiver.waitingPhase layout.accessCode) 0 0 :=
        .of_outside (Phase.weight_waitingPhase _) 0 0
      change (Device.replies _ calls >>= _) = _
      rw [replies_of ⟨0, 0, fresh, rfl⟩ calls]
      rfl

end Guarded

namespace SharedTransceiver

/-- A selection is taken when it fulfils what is asked of it, and no other one. Whatever is called
on a device that has been built from one, the run comes to its end without a trap: no index is out
of range, no difference below zero, no shift as wide as its word, no divisor zero, and no header
longer than its buffer. Its replies are those of the transceiver. -/
theorem runs_without_trap (config : LayoutConfig) (calls : List Call) :
    ((∃ device, ofConfig config = .ok device) ↔ config.Selectable) ∧
      Guarded.run config calls = .ok ((ofConfig config).map fun device => device.replies calls) :=
  ⟨exists_ofConfig_iff config, Guarded.run_eq_ok config calls⟩

end SharedTransceiver

end PacketFraming
