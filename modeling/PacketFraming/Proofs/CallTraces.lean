import PacketFraming.Proofs.Interference
import PacketFraming.Proofs.Passes

/-! What a transceiver has been through.

Calls of any kind follow each other. Those that receive add their passes to the trace, and a
reset begins a new one. What each pass, a reset and a change of the threshold keep holds after
any calls. -/

namespace PacketFraming

namespace SharedTransceiver

namespace Call

def feeds? : Call → Option (Bool × List UInt8)
  | .receive items => some (false, items)
  | .receiveSoft values => some (false, values.map SoftValue.slice)
  | .receiveHeader items => some (true, items)
  | _ => none

end Call

namespace Answer

def records : Answer → List Metadata
  | .reception received => received.records.toList
  | .halt halted => halted.record.toList
  | _ => []

def events : Answer → List Event
  | .reception received => received.events.toList
  | .halt halted => halted.events.toList
  | _ => []

end Answer

/-- The device after calls. -/
def after (device : SharedTransceiver) : List Call → SharedTransceiver
  | [] => device
  | call :: calls => (device.answer call).2.after calls

def passes (device : SharedTransceiver) (call : Call) : List Pass :=
  match call.feeds? with
  | some (halting, items) => device.receiver.passes device.codec.layout halting items
  | none => []

/-- The passes since the start or the last reset, of which `trace` are known. -/
def traceFrom (device : SharedTransceiver) (trace : List Pass) : List Call → List Pass
  | [] => trace
  | .reset :: calls => device.reset.traceFrom [] calls
  | call :: calls => (device.answer call).2.traceFrom (trace ++ device.passes call) calls

def trace (device : SharedTransceiver) (calls : List Call) : List Pass :=
  device.traceFrom [] calls

/-- What has been said since the start or the last reset, after what was said `before`. -/
def saidFrom {α : Type} (said : Answer → List α) (device : SharedTransceiver)
    (before : List α) : List Call → List α
  | [] => before
  | .reset :: calls => device.reset.saidFrom said [] calls
  | call :: calls =>
      (device.answer call).2.saidFrom said (before ++ said (device.answer call).1) calls

/-- The records handed over since the start or the last reset. -/
def recordsSince (device : SharedTransceiver) (calls : List Call) : List Metadata :=
  device.saidFrom Answer.records [] calls

def eventsSince (device : SharedTransceiver) (calls : List Call) : List Event :=
  device.saidFrom Answer.events [] calls

/-! ## One call -/

section Drive

variable (device : SharedTransceiver) (halting : Bool) (items : List UInt8)

theorem layout_drive :
    (device.drive halting items).2.codec.layout = device.codec.layout :=
  congrArg (·.2.1) (device.drive_receiving halting items)

theorem receiver_drive :
    (device.drive halting items).2.receiver =
      ((Reception.start device.receiver).drive device.codec.layout halting items).receiver :=
  congrArg (·.2.2) (device.drive_receiving halting items)

end Drive

theorem layout_answer (device : SharedTransceiver) (call : Call) :
    (device.answer call).2.codec.layout = device.codec.layout := by
  cases call with
  | encode length metadata =>
      exact congrArg Prod.fst (device.receiving_encode length metadata)
  | receive items => exact device.layout_drive false items
  | receiveSoft values => exact device.layout_drive false _
  | receiveHeader items => exact device.layout_drive true items
  | reset => rfl
  | setThreshold threshold =>
      change (device.setThreshold threshold).2.codec.layout = _
      unfold setThreshold
      split <;> rfl

theorem layout_after (device : SharedTransceiver) (calls : List Call) :
    (device.after calls).codec.layout = device.codec.layout := by
  induction calls generalizing device with
  | nil => rfl
  | cons call calls induction => exact (induction _).trans (device.layout_answer call)

theorem records_passes_halting (layout : Layout) (receiver : Receiver) (items : List UInt8) :
    ∃ record : Option Metadata,
      Pass.records (receiver.passes layout true items) = record.toList := by
  fun_induction receiver.passes layout true items
  case case1 receiver => exact ⟨none, rfl⟩
  case case2 receiver item rest step induction =>
      cases produced : step.record with
      | none =>
          rcases induction with ⟨record, further⟩
          exact ⟨record, by rw [← further]; simp [Pass.records, produced]⟩
      | some record => exact ⟨some record, by simp [Pass.records, produced]⟩

theorem records_answer (device : SharedTransceiver) (call : Call) :
    (device.answer call).1.records = Pass.records (device.passes call) := by
  have driven (halting : Bool) (items : List UInt8) :
      (device.drive halting items).1.records.toList =
        Pass.records (device.receiver.passes device.codec.layout halting items) := by
    rw [drive_fst, Reception.drive_eq_addPasses, Reception.records_addPasses]
    rfl
  cases call with
  | encode length metadata => rfl
  | receive items => exact driven false items
  | receiveSoft values => exact driven false _
  | receiveHeader items =>
      rcases records_passes_halting device.codec.layout device.receiver items with
        ⟨record, produced⟩
      have last : (device.drive true items).1.records = record.toList.toArray := by
        rw [← produced, ← driven true items]
      change (device.drive true items).1.records.back?.toList = Pass.records
        (device.receiver.passes device.codec.layout true items)
      rw [produced, last]
      cases record <;> rfl
  | reset => rfl
  | setThreshold threshold => rfl

theorem events_answer (device : SharedTransceiver) (call : Call) :
    (device.answer call).1.events = Pass.events (device.passes call) := by
  have driven (halting : Bool) (items : List UInt8) :
      (device.drive halting items).1.events.toList =
        Pass.events (device.receiver.passes device.codec.layout halting items) := by
    rw [drive_fst, Reception.drive_eq_addPasses, Reception.events_addPasses]
    rfl
  cases call with
  | encode length metadata => rfl
  | receive items => exact driven false items
  | receiveSoft values => exact driven false _
  | receiveHeader items => exact driven true items
  | reset => rfl
  | setThreshold threshold => rfl

/-! ## All calls -/

theorem saidFrom_eq {α : Type} {said : Answer → List α} {put : List Pass → List α}
    (nil : put [] = [])
    (append : ∀ first second, put (first ++ second) = put first ++ put second)
    (answer : ∀ device call, said (SharedTransceiver.answer device call).1 =
      put (device.passes call))
    (device : SharedTransceiver) (trace : List Pass) (calls : List Call) :
    device.saidFrom said (put trace) calls = put (device.traceFrom trace calls) := by
  induction calls generalizing device trace with
  | nil => rfl
  | cons call calls induction =>
      have next : (device.answer call).2.saidFrom said
          (put trace ++ said (device.answer call).1) calls =
            put ((device.answer call).2.traceFrom (trace ++ device.passes call) calls) := by
        rw [answer, ← append]
        exact induction _ _
      cases call with
      | reset =>
          have anew := induction device.reset []
          rw [nil] at anew
          exact anew
      | encode | receive | receiveSoft | receiveHeader | setThreshold => exact next

theorem recordsSince_eq (device : SharedTransceiver) (calls : List Call) :
    device.recordsSince calls = Pass.records (device.trace calls) :=
  saidFrom_eq rfl Pass.records_append records_answer device [] calls

theorem eventsSince_eq (device : SharedTransceiver) (calls : List Call) :
    device.eventsSince calls = Pass.events (device.trace calls) :=
  saidFrom_eq rfl Pass.events_append events_answer device [] calls

/-- What passes and resets keep, and each change of the threshold that is called for, holds after
the calls. -/
theorem keeps_traceFrom {layout : Layout} {Holds : Receiver → List Pass → Prop}
    (leads : ∀ {receiver trace step}, Receiver.Leads layout receiver step →
      Holds receiver trace → Holds step.receiver (trace ++ [{ phase := receiver.phase, step }]))
    (reset : ∀ {receiver trace}, Holds receiver trace → Holds receiver.reset [])
    {device : SharedTransceiver} (same : device.codec.layout = layout) {trace : List Pass}
    (holds : Holds device.receiver trace) {calls : List Call}
    (setThreshold : ∀ {receiver adjusted trace threshold}, .setThreshold threshold ∈ calls →
      receiver.setThreshold threshold = .ok adjusted → Holds receiver trace →
        Holds adjusted trace) :
    Holds (device.after calls).receiver (device.traceFrom trace calls) := by
  have driven {device : SharedTransceiver} (same : device.codec.layout = layout)
      {trace : List Pass} (holds : Holds device.receiver trace) (halting : Bool)
      (items : List UInt8) : Holds (device.drive halting items).2.receiver
        (trace ++ device.receiver.passes device.codec.layout halting items) := by
    rw [receiver_drive, same]
    exact Reception.keeps_drive layout halting leads (.start device.receiver) holds items
  induction calls generalizing device trace with
  | nil => exact holds
  | cons call calls induction =>
      have further {trace : List Pass} (holds : Holds (device.answer call).2.receiver trace) :
          Holds ((device.answer call).2.after calls).receiver
            ((device.answer call).2.traceFrom trace calls) :=
        induction ((device.layout_answer call).trans same) holds
          fun member => setThreshold (List.mem_cons_of_mem call member)
      cases call with
      | encode length metadata =>
          have kept : (device.answer (.encode length metadata)).2.receiver = device.receiver :=
            congrArg Prod.snd (device.receiving_encode length metadata)
          apply further
          rw [kept, show device.passes (.encode length metadata) = [] from rfl, List.append_nil]
          exact holds
      | receive items => exact further (driven same holds false items)
      | receiveSoft values => exact further (driven same holds false _)
      | receiveHeader items => exact further (driven same holds true items)
      | reset => exact further (reset holds)
      | setThreshold threshold =>
          apply further
          change Holds (device.setThreshold threshold).2.receiver (trace ++ [])
          rw [List.append_nil, SharedTransceiver.setThreshold]
          split
          · next adjusted => exact setThreshold List.mem_cons_self adjusted holds
          · exact holds

/-- What holds of a receiver and its trace and is kept by everything that can happen to them. -/
structure Kept (layout : Layout) (Holds : Receiver → List Pass → Prop) : Prop where
  leads {receiver : Receiver} {trace : List Pass} {step : Step} :
    receiver.Leads layout step → Holds receiver trace →
      Holds step.receiver (trace ++ [{ phase := receiver.phase, step }])
  reset {receiver : Receiver} {trace : List Pass} :
    Holds receiver trace → Holds receiver.reset []
  setThreshold {receiver adjusted : Receiver} {trace : List Pass} {threshold : Nat} :
    receiver.setThreshold threshold = .ok adjusted → Holds receiver trace → Holds adjusted trace

theorem Kept.traceFrom {Holds : Receiver → List Pass → Prop} {device : SharedTransceiver}
    (kept : Kept device.codec.layout Holds) {trace : List Pass}
    (holds : Holds device.receiver trace) (calls : List Call) :
    Holds (device.after calls).receiver (device.traceFrom trace calls) :=
  keeps_traceFrom kept.leads kept.reset rfl holds fun _ => kept.setThreshold

end SharedTransceiver

/-! ## All moments -/

def Pass.Always (At : List Pass → Pass → Prop) (trace : List Pass) : Prop :=
  ∀ front pass behind, trace = front ++ pass :: behind → At front pass

theorem Pass.Always.nil {At : List Pass → Pass → Prop} : Pass.Always At [] := by
  intro front pass behind parts
  exact absurd parts.symm (List.append_ne_nil_of_right_ne_nil front (List.cons_ne_nil _ _))

theorem Pass.Always.append_singleton {At : List Pass → Pass → Prop} {trace : List Pass}
    (always : Pass.Always At trace) {last : Pass} (holds : At trace last) :
    Pass.Always At (trace ++ [last]) := by
  intro front pass behind parts
  rcases List.eq_nil_or_concat behind with rfl | ⟨before, final, rfl⟩
  · rcases List.append_inj' parts rfl with ⟨rfl, same⟩
    obtain rfl := List.singleton_inj.mp same
    exact holds
  · rw [List.concat_eq_append, ← List.cons_append, ← List.append_assoc] at parts
    exact always front pass before (List.append_inj' parts rfl).1

namespace SharedTransceiver

/-- What each pass leads to, given what is kept, holds at every moment of the trace. -/
theorem Kept.always {layout : Layout} {Holds : Receiver → List Pass → Prop}
    (kept : Kept layout Holds) {At : List Pass → Pass → Prop}
    (leads : ∀ {receiver trace step}, Receiver.Leads layout receiver step →
      Holds receiver trace → At trace { phase := receiver.phase, step }) :
    Kept layout (fun receiver trace => Holds receiver trace ∧ Pass.Always At trace) where
  leads step holds :=
    ⟨kept.leads step holds.1, holds.2.append_singleton (leads step holds.1)⟩
  reset holds := ⟨kept.reset holds.1, .nil⟩
  setThreshold adjusted holds := ⟨kept.setThreshold adjusted holds.1, holds.2⟩

end SharedTransceiver

end PacketFraming
