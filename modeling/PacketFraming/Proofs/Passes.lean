import PacketFraming.Proofs.Scanning

/-! The passes of the receive loop.

A run of the loop is the list of its passes. What a pass can do is said once, in
`Receiver.Leads`; whatever each such pass keeps, a run keeps. -/

namespace PacketFraming

/-- A pass of the receive loop, with the phase in which it began. -/
structure Pass where
  phase : Phase
  step : Step

namespace Pass

def records (passes : List Pass) : List Metadata :=
  passes.filterMap fun pass => pass.step.record

def events (passes : List Pass) : List Event :=
  passes.flatMap fun pass => pass.step.events

def taken (passes : List Pass) : Nat :=
  passes.foldr (fun pass total => pass.step.taken + total) 0

theorem records_append (first second : List Pass) :
    records (first ++ second) = records first ++ records second :=
  List.filterMap_append

theorem events_append (first second : List Pass) :
    events (first ++ second) = events first ++ events second :=
  List.flatMap_append

theorem taken_append (first second : List Pass) :
    taken (first ++ second) = taken first + taken second := by
  induction first with
  | nil => exact (Nat.zero_add _).symm
  | cons pass rest induction =>
      change pass.step.taken + taken (rest ++ second) = pass.step.taken + taken rest + _
      rw [induction, Nat.add_assoc]

end Pass

namespace Receiver

/-! ## One pass -/

def opened (receiver : Receiver) (header : DecodedHeader) : Receiver :=
  if header.payloadItems = 0 then { receiver.wait with skipped := 0 }
  else
    { receiver with
      skipped := 0
      phase := .passing header.payloadItems header.payloadItems }

/-- What a pass leads to, by the phase in which it begins. -/
inductive Leads (layout : Layout) (receiver : Receiver) : Step → Prop
  | silent (item : UInt8) (searching : receiver.phase = .searching)
      (nothing : (receiver.correlator.shift (itemBit item)).found? = none) :
      Leads layout receiver {
        receiver := { receiver.countSkipped with
          correlator := receiver.correlator.shift (itemBit item) }
        record := none
        events := [] }
  | found (item : UInt8) (distance : Nat) (searching : receiver.phase = .searching)
      (tolerated : (receiver.correlator.shift (itemBit item)).found? = some distance) :
      Leads layout receiver {
        receiver := { receiver.countSkipped with
          correlator := receiver.correlator.shift (itemBit item)
          register := receiver.register.clear
          phase := .collecting }
        record := none
        events := [.codeFound distance (receiver.position + 1)] }
  | unfilled (item : UInt8) (collecting : receiver.phase = .collecting)
      (short : (layout.collect receiver.register item).length < layout.bodyBits) :
      Leads layout receiver {
        receiver := receiver.withItem layout item
        record := none
        events := [] }
  | rejected (item : UInt8) (collecting : receiver.phase = .collecting)
      (filled : layout.bodyBits ≤ (layout.collect receiver.register item).length)
      (unread : layout.read? (layout.collect receiver.register item) = none) :
      Leads layout receiver {
        receiver := (receiver.withItem layout item).wait
        record := none
        events := [.headerRejected (receiver.position + 1)] }
  | accepted (item : UInt8) (header : DecodedHeader) (collecting : receiver.phase = .collecting)
      (filled : layout.bodyBits ≤ (layout.collect receiver.register item).length)
      (read : layout.read? (layout.collect receiver.register item) = some header) :
      Leads layout receiver {
        receiver := (receiver.withItem layout item).opened header
        record := some (announcement header (receiver.skipped + 1))
        events := [.headerAccepted (receiver.skipped + 1) header.payloadItems] }
  | passed (items remaining taken : Nat) (passing : receiver.phase = .passing items remaining)
      (within : taken ≤ remaining) (moves : 0 < remaining → 0 < taken) :
      Leads layout receiver (receiver.pass items remaining taken)

theorem leads_step (layout : Layout) (receiver : Receiver) (item : UInt8) (rest : List UInt8) :
    receiver.Leads layout (receiver.step layout item rest) := by
  unfold step
  cases phase : receiver.phase with
  | searching =>
      cases nothing : (receiver.correlator.shift (itemBit item)).found? with
      | none =>
          have silent : receiver.Leads layout _ := .silent item phase nothing
          simpa only [search, countSkipped, Correlator.push, nothing] using silent
      | some distance =>
          have found : receiver.Leads layout _ := .found item distance phase nothing
          simpa only [search, countSkipped, Correlator.push, nothing] using found
  | collecting =>
      change Leads layout receiver (receiver.collect layout item)
      unfold collect
      by_cases filled : layout.bodyBits ≤ (layout.collect receiver.register item).length
      · refine (if_pos filled).symm ▸ ?_
        change Leads layout receiver ((receiver.withItem layout item).settle
          (layout.read? (layout.collect receiver.register item)))
        cases read : layout.read? (layout.collect receiver.register item) with
        | none => exact .rejected item phase filled read
        | some header => exact .accepted item header phase filled read
      · refine (if_neg filled).symm ▸ ?_
        exact .unfilled item phase (Nat.lt_of_not_le filled)
  | passing items remaining =>
      dsimp only
      rw [List.length_take]
      apply Leads.passed items remaining _ phase (Nat.min_le_left _ _)
      intro some
      exact Nat.lt_min.mpr ⟨some, Nat.succ_pos _⟩

/-! ## A run of passes -/

/-- The passes over items, to the end of them or to the first header if the loop is to halt
there. -/
def passes (layout : Layout) (halting : Bool) (receiver : Receiver) : List UInt8 → List Pass
  | [] => []
  | item :: rest =>
      let step := receiver.step layout item rest
      { phase := receiver.phase, step } ::
        if halting && step.record.isSome then []
        else step.receiver.passes layout halting ((item :: rest).drop step.taken)
termination_by items => (items.length, receiver.phase.weight)
decreasing_by exact step_decreases layout receiver item rest

theorem passes_cons (layout : Layout) (halting : Bool) (receiver : Receiver) (item : UInt8)
    (rest : List UInt8) :
    receiver.passes layout halting (item :: rest) =
      { phase := receiver.phase, step := receiver.step layout item rest } ::
        if halting && (receiver.step layout item rest).record.isSome then []
        else (receiver.step layout item rest).receiver.passes layout halting
          ((item :: rest).drop (receiver.step layout item rest).taken) := by
  rw [passes]

end Receiver

namespace Reception

def addPasses (reception : Reception) (passes : List Pass) : Reception :=
  passes.foldl (fun reception pass => reception.add pass.step) reception

theorem addPasses_cons (reception : Reception) (pass : Pass) (rest : List Pass) :
    reception.addPasses (pass :: rest) = (reception.add pass.step).addPasses rest := rfl

/-- The receive loop does its passes one after the other. -/
theorem drive_eq_addPasses (layout : Layout) (halting : Bool) (reception : Reception)
    (items : List UInt8) :
    reception.drive layout halting items =
      reception.addPasses (reception.receiver.passes layout halting items) := by
  fun_induction drive layout halting reception items with
  | case1 reception =>
      rw [Receiver.passes]
      rfl
  | case2 reception item rest step halts =>
      rw [Receiver.passes, if_pos halts]
      rfl
  | case3 reception item rest step goesOn induction =>
      rw [induction, Receiver.passes, if_neg goesOn]
      rfl

theorem toList_records_add (reception : Reception) (step : Step) :
    (reception.add step).records.toList = reception.records.toList ++ step.record.toList := by
  cases produced : step.record with
  | none =>
      rw [records_add_of_none reception produced]
      exact (List.append_nil _).symm
  | some record =>
      rw [records_add_of_some reception produced]
      exact Array.toList_push

theorem toList_events_add (reception : Reception) (step : Step) :
    (reception.add step).events.toList = reception.events.toList ++ step.events := by
  simp [add]

theorem records_addPasses (reception : Reception) (passes : List Pass) :
    (reception.addPasses passes).records.toList =
      reception.records.toList ++ Pass.records passes := by
  induction passes generalizing reception with
  | nil => exact (List.append_nil _).symm
  | cons pass rest induction =>
      rw [addPasses_cons, induction, toList_records_add, List.append_assoc, Pass.records,
        Pass.records, List.filterMap_cons]
      cases pass.step.record <;> rfl

theorem events_addPasses (reception : Reception) (passes : List Pass) :
    (reception.addPasses passes).events.toList =
      reception.events.toList ++ Pass.events passes := by
  induction passes generalizing reception with
  | nil => exact (List.append_nil _).symm
  | cons pass rest induction =>
      rw [addPasses_cons, induction, toList_events_add, List.append_assoc, Pass.events,
        Pass.events, List.flatMap_cons]

/-- What every pass keeps, a run keeps. -/
theorem keeps_drive (layout : Layout) (halting : Bool) {Holds : Receiver → List Pass → Prop}
    (leads : ∀ {receiver trace step}, receiver.Leads layout step → Holds receiver trace →
      Holds step.receiver (trace ++ [{ phase := receiver.phase, step }]))
    (reception : Reception) {trace : List Pass} (holds : Holds reception.receiver trace)
    (items : List UInt8) :
    Holds (reception.drive layout halting items).receiver
      (trace ++ reception.receiver.passes layout halting items) := by
  fun_induction drive layout halting reception items generalizing trace
  case case1 reception =>
      rw [Receiver.passes, List.append_nil]
      exact holds
  case case2 reception item rest step halts =>
      rw [Receiver.passes, if_pos halts]
      exact leads (reception.receiver.leads_step layout item rest) holds
  case case3 reception item rest step goesOn induction =>
      have further := induction (leads (reception.receiver.leads_step layout item rest) holds)
      rw [List.append_assoc] at further
      rw [Receiver.passes, if_neg goesOn]
      exact further

end Reception

end PacketFraming
