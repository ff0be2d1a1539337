import PacketFraming.Proofs.Echoes
import PacketFraming.Proofs.PayloadContent

/-! A search begins anew.

Whatever a transceiver has been through, it receives after a reset what a new one receives, and
wherever it begins to wait for a header it goes on as a new one does, further on in the stream.
What a payload contains has no influence at all. -/

namespace PacketFraming

/-! ## Calls after a reset -/

/-- What can be seen of the receiving side after a call. -/
structure Report where
  consumed : Nat
  records : List Metadata
  events : List Event
  phase : Phase
  position : Nat
  remaining : Nat
  threshold : Nat

namespace Receiver

def report (receiver : Receiver) (consumed : Nat) (records : List Metadata)
    (events : List Event) : Report where
  consumed := consumed
  records := records
  events := events
  phase := receiver.phase
  position := receiver.position
  remaining := receiver.remaining
  threshold := receiver.correlator.threshold

theorem Echoes.report {first second : Receiver} (echoes : first.Echoes 0 0 second)
    (consumed : Nat) (records : List Metadata) (events : List Event) :
    first.report consumed records events = second.report consumed records events := by
  simp only [Receiver.report, Receiver.remaining, echoes.phase, echoes.correlator,
    echoes.position, Nat.add_zero]

theorem Echoes.reset {first second : Receiver} (echoes : first.Echoes 0 0 second) :
    first.reset.Echoes 0 0 second.reset :=
  { echoes.wait with skipped := rfl, position := rfl }

end Receiver

namespace SharedTransceiver

namespace Answer

def report? : Answer → Option Report
  | .header _ => none
  | .reception received =>
      some (received.receiver.report received.consumed received.records.toList
        received.events.toList)
  | .halt halted =>
      some (halted.receiver.report halted.consumed halted.record.toList halted.events.toList)
  | .done receiver => some (receiver.report 0 [] [])
  | .threshold _ receiver => some (receiver.report 0 [] [])

end Answer

/-- The reports of calls in their order. -/
def reports (device : SharedTransceiver) (calls : List Call) : List (Option Report) :=
  (transcript answer device calls).map fun entry => entry.2.report?

section Echoes

variable {first second : SharedTransceiver}

theorem echoes_drive (sameLayout : first.codec.layout = second.codec.layout)
    (echoes : first.receiver.Echoes 0 0 second.receiver) (halting : Bool) (items : List UInt8) :
    (first.drive halting items).1.Echoes 0 0 0 (second.drive halting items).1 ∧
      (first.drive halting items).2.receiver.Echoes 0 0
        (second.drive halting items).2.receiver := by
  rw [drive_fst, drive_fst, receiver_drive, receiver_drive, sameLayout]
  rcases (Reception.Echoes.of_start echoes).drive second.codec.layout halting items with
    ⟨left, driven⟩
  obtain rfl : left = 0 := (driven.records.eq_of_zero rfl).2
  exact ⟨driven, driven.receiver⟩

theorem echoes_setThreshold (echoes : first.receiver.Echoes 0 0 second.receiver)
    (threshold : Nat) :
    (first.setThreshold threshold).2.receiver.Echoes 0 0
      (second.setThreshold threshold).2.receiver := by
  unfold setThreshold Receiver.setThreshold Correlator.setThreshold
  rw [echoes.correlator]
  by_cases within : threshold ≤ second.receiver.correlator.code.length
  · rw [if_pos within]
    exact { echoes with correlator := rfl }
  · rw [if_neg within]
    exact echoes

theorem echoes_answer (sameLayout : first.codec.layout = second.codec.layout)
    (echoes : first.receiver.Echoes 0 0 second.receiver) (call : Call) :
    (first.answer call).1.report? = (second.answer call).1.report? ∧
      (first.answer call).2.receiver.Echoes 0 0 (second.answer call).2.receiver := by
  have received (halting : Bool) (items : List UInt8) :
      (first.drive halting items).1.records = (second.drive halting items).1.records ∧
        (first.drive halting items).1.events = (second.drive halting items).1.events := by
    have driven := (echoes_drive sameLayout echoes halting items).1
    exact ⟨Array.ext' (driven.records.eq_of_zero rfl).1,
      Array.ext' (driven.events.eq_of_zero rfl rfl)⟩
  have driven (halting : Bool) (items : List UInt8) :
      (Answer.reception (first.drive halting items).1).report? =
        (Answer.reception (second.drive halting items).1).report? := by
    have driven := (echoes_drive sameLayout echoes halting items).1
    simp only [Answer.report?, driven.receiver.report, driven.consumed,
      (received halting items).1, (received halting items).2]
  cases call with
  | encode length metadata =>
      have same (device : SharedTransceiver) :
          (device.answer (.encode length metadata)).2.receiver = device.receiver :=
        congrArg Prod.snd (device.receiving_encode length metadata)
      rw [same, same]
      exact ⟨rfl, echoes⟩
  | receive items => exact ⟨driven false items, (echoes_drive sameLayout echoes false items).2⟩
  | receiveSoft values => exact ⟨driven false _, (echoes_drive sameLayout echoes false _).2⟩
  | receiveHeader items =>
      have halted := echoes_drive sameLayout echoes true items
      refine ⟨?_, halted.2⟩
      change (Answer.halt ((first.drive true items).1.halt items)).report? =
        (Answer.halt ((second.drive true items).1.halt items)).report?
      simp only [Answer.report?, Reception.halt, halted.1.receiver.report, halted.1.consumed,
        (received true items).1, (received true items).2]
  | reset => exact ⟨congrArg some (echoes.reset.report 0 [] []), echoes.reset⟩
  | setThreshold threshold =>
      have adjusted := echoes_setThreshold echoes threshold
      exact ⟨congrArg some (adjusted.report 0 [] []), adjusted⟩

/-- Receivers that hold the same report the same from then on, whatever is called. -/
theorem reports_eq (sameLayout : first.codec.layout = second.codec.layout)
    (echoes : first.receiver.Echoes 0 0 second.receiver) (calls : List Call) :
    first.reports calls = second.reports calls := by
  induction calls generalizing first second with
  | nil => rfl
  | cons call calls induction =>
      rcases echoes_answer sameLayout echoes call with ⟨same, further⟩
      have layouts : (first.answer call).2.codec.layout = (second.answer call).2.codec.layout := by
        rw [layout_answer, layout_answer, sameLayout]
      change (first.answer call).1.report? :: (first.answer call).2.reports calls =
        (second.answer call).1.report? :: (second.answer call).2.reports calls
      rw [same, induction layouts further]

end Echoes

end SharedTransceiver

/-! ## Moments at which a header is waited for again -/

/-- Whether the receiver waits for a header again: the one before was rejected, or nothing of
its payload is still to come. -/
def Event.reopens : Event → Bool
  | .codeFound _ _ => false
  | .headerRejected _ => true
  | .headerAccepted _ payloadItems => payloadItems == 0
  | .payloadComplete _ _ => true

def Pass.Reopens (pass : Pass) : Prop :=
  ∃ event ∈ pass.step.events, event.reopens = true

namespace Receiver

variable {layout : Layout} {receiver : Receiver}

theorem Leads.waits {step : Step} (leads : receiver.Leads layout step)
    (code : receiver.correlator.code = layout.accessCode)
    (reopens : ∃ event ∈ step.events, event.reopens = true) :
    step.receiver.Waits layout step.receiver.correlator.threshold := by
  have tuned : receiver.Tuned layout receiver.correlator.threshold := ⟨code, rfl⟩
  rcases reopens with ⟨event, happened, reopens⟩
  cases leads with
  | silent item searching nothing => exact absurd happened List.not_mem_nil
  | found item distance searching tolerated =>
      obtain rfl := List.mem_singleton.mp happened
      exact absurd reopens Bool.false_ne_true
  | unfilled item collecting short => exact absurd happened List.not_mem_nil
  | rejected item collecting filled unread =>
      have collected : (receiver.withItem layout item).Tuned layout
          receiver.correlator.threshold := { tuned with }
      exact collected.waits_wait
  | accepted item header collecting filled read =>
      obtain rfl := List.mem_singleton.mp happened
      have collected : (receiver.withItem layout item).Tuned layout
          receiver.correlator.threshold := { tuned with }
      have waits := collected.waits_wait
      have zero : header.payloadItems = 0 := beq_iff_eq.mp reopens
      dsimp only
      rw [opened, if_pos zero]
      exact { waits with }
  | passed items remaining taken passing within moves =>
      have waits := tuned.waits_wait
      unfold pass at happened ⊢
      dsimp only at happened ⊢
      split at happened
      · next complete =>
        rw [if_pos complete]
        exact { waits with }
      · exact absurd happened List.not_mem_nil

/-- Whatever waits for a header differs from a fresh receiver in its past only. -/
theorem Waits.echoes {threshold : Nat} {fresh : Receiver} (waits : receiver.Waits layout threshold)
    (unused : fresh.Fresh layout threshold) :
    receiver.Echoes receiver.position receiver.skipped fresh where
  correlator := by
    have history : receiver.correlator.history = fresh.correlator.history :=
      UInt64.toNat_inj.mp (waits.heard.history.trans unused.heard.history.symm)
    have filled : receiver.correlator.filled = fresh.correlator.filled :=
      waits.heard.filled.trans unused.heard.filled.symm
    have code : receiver.correlator.code = fresh.correlator.code :=
      waits.code.trans unused.code.symm
    have threshold : receiver.correlator.threshold = fresh.correlator.threshold :=
      waits.threshold.trans unused.threshold.symm
    calc
      receiver.correlator = ⟨receiver.correlator.code, receiver.correlator.threshold,
        receiver.correlator.history, receiver.correlator.filled⟩ := rfl
      _ = fresh.correlator := by rw [code, threshold, history, filled]
  bits := waits.vacant.trans unused.vacant.symm
  phase := waits.phase.trans unused.phase.symm
  skipped := by rw [unused.skipped, Nat.zero_add]
  position := by rw [unused.position, Nat.zero_add]

end Receiver

structure Pass.Settled (layout : Layout) (front : List Pass) (pass : Pass) : Prop where
  accounted : pass.step.receiver.Accounted layout (front ++ [pass])
  waits : pass.Reopens →
    pass.step.receiver.Waits layout pass.step.receiver.correlator.threshold

namespace SharedTransceiver

theorem setThreshold_of_ok (device : SharedTransceiver) {threshold : Nat} {adjusted : Receiver}
    (accepted : device.receiver.setThreshold threshold = .ok adjusted) :
    device.setThreshold threshold = (.ok (), { device with receiver := adjusted }) := by
  unfold setThreshold
  rw [accepted]

theorem exists_fresh (layout : Layout) {threshold : Nat}
    (within : threshold ≤ layout.accessCode.length) :
    ∃ fresh, (ofLayout layout).setThreshold threshold = (.ok (), fresh) ∧
      fresh.codec.layout = layout ∧ fresh.receiver.Fresh layout threshold := by
  have accepted : (Receiver.ofCode layout.accessCode).setThreshold threshold = .ok
      { Receiver.ofCode layout.accessCode with
        correlator := { Correlator.ofCode layout.accessCode with threshold } } := by
    rw [Receiver.setThreshold, Correlator.setThreshold]
    exact congrArg (Except.map _) (if_pos within)
  exact ⟨_, setThreshold_of_ok (ofLayout layout) accepted, rfl,
    Receiver.fresh_of_setThreshold layout accepted⟩

theorem always_trace (layout : Layout) (calls : List Call) :
    Pass.Always (Pass.Settled layout) ((ofLayout layout).trace calls) := by
  have accounted := Receiver.kept_accounted layout
  have kept : Kept (ofLayout layout).codec.layout _ :=
    accounted.always fun {receiver trace step} leads holds =>
      show Pass.Settled layout trace { phase := receiver.phase, step } from {
        accounted := accounted.leads leads holds
        waits := leads.waits holds.consistent.code }
  exact (kept.traceFrom ⟨Receiver.accounted_ofCode layout, .nil⟩ calls).2

theorem exists_fresh_reports (layout : Layout) (calls : List Call) :
    let reached := (ofLayout layout).after calls
    ∃ fresh, (ofLayout layout).setThreshold reached.receiver.correlator.threshold =
        (.ok (), fresh) ∧
      ∀ later, reached.reset.reports later = fresh.reports later := by
  intro reached
  have consistent := (accounted_after layout calls).consistent
  have sameLayout : reached.codec.layout = layout := layout_after (ofLayout layout) calls
  rcases exists_fresh layout consistent.threshold_le with ⟨fresh, built, layouts, unused⟩
  have tuned : reached.receiver.Tuned layout reached.receiver.correlator.threshold :=
    ⟨consistent.code, rfl⟩
  have waits : reached.reset.receiver.Waits layout reached.receiver.correlator.threshold :=
    { tuned.waits_wait with }
  exact ⟨fresh, built, reports_eq (sameLayout.trans layouts.symm) (waits.echoes unused)⟩

/-- Where a header is waited for again, the stream goes on as a new one, with what has been taken
in front of it and what of that has not been reported. -/
theorem exists_fresh_echoes {layout : Layout} {calls : List Call} {front behind : List Pass}
    {pass : Pass} (parts : (ofLayout layout).trace calls = front ++ pass :: behind)
    (reopens : pass.Reopens) :
    ∃ fresh, (ofLayout layout).setThreshold pass.step.receiver.correlator.threshold =
        (.ok (), fresh) ∧
      ∀ halting rest, ∃ left,
        ((Reception.start pass.step.receiver).drive layout halting rest).Echoes
          (Pass.taken (front ++ [pass])) (Pass.unreported (front ++ [pass])) left
          (fresh.drive halting rest).1 := by
  have settled := always_trace layout calls front pass behind parts
  have moment := settled.accounted
  rcases exists_fresh layout moment.consistent.threshold_le with
    ⟨fresh, built, layouts, unused⟩
  have echoes := (settled.waits reopens).echoes unused
  rw [moment.balanced.taken, moment.balanced.skipped] at echoes
  refine ⟨fresh, built, ?_⟩
  intro halting rest
  rw [drive_fst, layouts]
  exact (Reception.Echoes.of_start echoes).drive layout halting rest

/-- A reset leaves nothing behind; wherever a header is waited for again, the stream goes on as a
new one with the skipped items kept in mind; and no stream tells what its payloads contain. -/
theorem search_begins_anew (layout : Layout) (calls : List Call) :
    let reached := (ofLayout layout).after calls
    (∃ fresh, (ofLayout layout).setThreshold reached.receiver.correlator.threshold =
        (.ok (), fresh) ∧
      ∀ later, reached.reset.reports later = fresh.reports later) ∧
    (∀ front pass behind, (ofLayout layout).trace calls = front ++ pass :: behind →
      pass.Reopens →
        ∃ fresh, (ofLayout layout).setThreshold pass.step.receiver.correlator.threshold =
            (.ok (), fresh) ∧
          ∀ halting rest, ∃ left,
            ((Reception.start pass.step.receiver).drive layout halting rest).Echoes
              (Pass.taken (front ++ [pass])) (Pass.unreported (front ++ [pass])) left
              (fresh.drive halting rest).1) ∧
    (∀ first second, first.length = second.length →
      (∀ index, ¬reached.receiver.InPayload layout first index → first[index]? = second[index]?) →
        (reached.receive first).1 = (reached.receive second).1) := by
  intro reached
  refine ⟨exists_fresh_reports layout calls, fun front pass behind => exists_fresh_echoes, ?_⟩
  intro first second length agree
  have sameLayout : reached.codec.layout = layout := layout_after (ofLayout layout) calls
  rw [receive, receive, drive_fst, drive_fst, sameLayout]
  exact (accounted_after layout calls).consistent.receive_congr length agree

/-- Behind an empty frame, and in a frame of two bytes of whatever content. -/
theorem search_begins_anew_single_unit :
    (∃ fresh, (ofLayout .singleUnit).setThreshold 0 = (.ok (), fresh) ∧
      ∀ rest, ∃ left,
        (((Receiver.ofCode .empty).step .singleUnit 0 []).receiver.receive .singleUnit
          rest).Echoes 1 0 left (fresh.receive rest).1) ∧
    ((ofLayout .singleUnit).receive [2, 7, 7]).1 =
      ((ofLayout .singleUnit).receive [2, 8, 9]).1 := by
  constructor
  · have trace := Receiver.passes_cons .singleUnit false (.ofCode .empty) 0 []
    have reopens : Pass.Reopens
        { phase := .collecting, step := (Receiver.ofCode .empty).step .singleUnit 0 [] } := by
      refine ⟨.headerAccepted 1 0, ?_, rfl⟩
      decide +kernel
    rcases (search_begins_anew .singleUnit [.receive [0]]).2.1 [] _ _ trace reopens with
      ⟨fresh, built, further⟩
    exact ⟨fresh, built, further false⟩
  · apply (search_begins_anew .singleUnit []).2.2 [2, 7, 7] [2, 8, 9] rfl
    intro index free
    have accepts : .headerAccepted 1 2 ∈ (((Receiver.ofCode .empty).receive .singleUnit
        []).receiver.receive .singleUnit [2]).events.toList := by
      rw [Receiver.receive_nil, Reception.receiver_start,
        Receiver.receive_singleton .singleUnit rfl]
      decide +kernel
    rcases index with _ | _ | _ | index
    · rfl
    · exact absurd (.announced [] 2 [7, 7] 1 2 rfl accepts (by decide) (by decide)) free
    · exact absurd (.announced [] 2 [7, 7] 1 2 rfl accepts (by decide) (by decide)) free
    · rfl

end SharedTransceiver

end PacketFraming
