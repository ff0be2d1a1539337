import Mathlib.Data.List.Forall2
import PacketFraming.Proofs.CallTraces

/-! What holds between any two calls, and where the items have gone.

The register is never full between two passes, and a payload that passes is never at its end, so
each pass takes an item. Every item is one of those that a record speaks of, or has been received
in the search for the next record. -/

namespace PacketFraming

namespace Layout

def headerItems (layout : Layout) : Nat :=
  layout.headerBits / layout.bitsPerItem

theorem headerItems_eq (layout : Layout) :
    layout.headerItems = layout.accessCode.length + layout.bodyItems := by
  have places := layout.bodyItems_mul_bitsPerItem
  rw [headerItems, headerBits, ← places]
  cases layout with
  | plain | counter | crc =>
      rw [show bitsPerItem _ = 1 from rfl, Nat.div_one, Nat.mul_one]
  | units layout =>
      exact (congrArg (· / layout.width) (Nat.zero_add _)).trans
        ((Nat.mul_div_cancel _ layout.width_pos).trans (Nat.zero_add _).symm)
  | carriers layout =>
      exact (congrArg (· / layout.units.width) (Nat.zero_add _)).trans
        ((Nat.mul_div_cancel _ layout.units.width_pos).trans (Nat.zero_add _).symm)

end Layout

theorem Correlator.le_filled_of_found? {correlator : Correlator} {distance : Nat}
    (found : correlator.found? = some distance) : correlator.code.length ≤ correlator.filled := by
  unfold found? at found
  split at found
  · exact absurd found.symm (Option.some_ne_none _)
  · omega

/-! ## Consistent receivers -/

namespace Receiver

/-- What holds of a receiver between two passes. -/
structure Consistent (layout : Layout) (receiver : Receiver) : Prop where
  code : receiver.correlator.code = layout.accessCode
  threshold_le : receiver.correlator.threshold ≤ layout.accessCode.length
  searching : receiver.phase = .searching →
    layout.accessCode.isEmpty = false ∧ receiver.register.length = 0
  collecting : receiver.phase = .collecting →
    receiver.register.length < layout.bodyBits ∧
      layout.bitsPerItem ∣ receiver.register.length
  /-- Some of the payload has still to come. -/
  passing {items remaining : Nat} : receiver.phase = .passing items remaining →
    0 < remaining ∧ remaining ≤ items

variable {layout : Layout} {receiver : Receiver}

theorem Consistent.of_waiting (code : receiver.correlator.code = layout.accessCode)
    (threshold_le : receiver.correlator.threshold ≤ layout.accessCode.length)
    (vacant : receiver.register.length = 0)
    (waiting : receiver.phase = waitingPhase layout.accessCode) :
    receiver.Consistent layout := by
  unfold waitingPhase at waiting
  split at waiting
  · next empty =>
    exact {
      code, threshold_le
      searching := by simp [waiting]
      collecting := fun _ => vacant ▸ ⟨layout.bodyBits_pos, Nat.dvd_zero _⟩
      passing := by simp [waiting] }
  · next present =>
    exact {
      code, threshold_le
      searching := fun _ => ⟨Bool.eq_false_iff.mpr present, vacant⟩
      collecting := by simp [waiting]
      passing := by simp [waiting] }

theorem Consistent.of_collecting (code : receiver.correlator.code = layout.accessCode)
    (threshold_le : receiver.correlator.threshold ≤ layout.accessCode.length)
    (collecting : receiver.phase = .collecting)
    (short : receiver.register.length < layout.bodyBits)
    (whole : layout.bitsPerItem ∣ receiver.register.length) : receiver.Consistent layout where
  code := code
  threshold_le := threshold_le
  searching := by simp [collecting]
  collecting := fun _ => ⟨short, whole⟩
  passing := by simp [collecting]

theorem Consistent.of_passing (code : receiver.correlator.code = layout.accessCode)
    (threshold_le : receiver.correlator.threshold ≤ layout.accessCode.length)
    {items remaining : Nat} (passing : receiver.phase = .passing items remaining)
    (some : 0 < remaining) (within : remaining ≤ items) : receiver.Consistent layout where
  code := code
  threshold_le := threshold_le
  searching := by simp [passing]
  collecting := by simp [passing]
  passing same := by
    obtain ⟨rfl, rfl⟩ := Phase.passing.inj (passing.symm.trans same)
    exact ⟨some, within⟩

theorem length_collect (layout : Layout) (register : HeaderRegister) (item : UInt8) :
    (layout.collect register item).length = register.length + layout.bitsPerItem :=
  (layout.length_foldl_collect register [item]).trans (by simp)

theorem Consistent.leads (consistent : receiver.Consistent layout) {step : Step}
    (leads : receiver.Leads layout step) : step.receiver.Consistent layout := by
  have code := consistent.code
  have threshold_le := consistent.threshold_le
  cases leads with
  | silent item searching nothing =>
      exact {
        code, threshold_le
        searching := consistent.searching
        collecting := by simp [countSkipped, searching]
        passing := by simp [countSkipped, searching] }
  | found item distance searching tolerated =>
      exact .of_collecting code threshold_le rfl layout.bodyBits_pos (Nat.dvd_zero _)
  | unfilled item collecting short =>
      refine Consistent.of_collecting code threshold_le collecting short ?_
      change layout.bitsPerItem ∣ (layout.collect receiver.register item).length
      rw [length_collect]
      exact Nat.dvd_add (consistent.collecting collecting).2 (Nat.dvd_refl _)
  | rejected item collecting filled unread =>
      exact .of_waiting code threshold_le rfl (congrArg waitingPhase code)
  | accepted item header collecting filled read =>
      dsimp only
      unfold opened
      split
      · exact .of_waiting code threshold_le rfl (congrArg waitingPhase code)
      · next some =>
        exact .of_passing code threshold_le rfl (Nat.pos_of_ne_zero some) (Nat.le_refl _)
  | passed items remaining taken passing within moves =>
      have before := consistent.passing passing
      unfold pass
      dsimp only
      split
      · exact .of_waiting code threshold_le rfl (congrArg waitingPhase code)
      · exact .of_passing code threshold_le rfl (by omega) (by omega)

theorem Consistent.reset (consistent : receiver.Consistent layout) :
    receiver.reset.Consistent layout :=
  .of_waiting consistent.code consistent.threshold_le rfl (congrArg waitingPhase consistent.code)

theorem of_setThreshold {threshold : Nat} {adjusted : Receiver}
    (accepted : receiver.setThreshold threshold = .ok adjusted) :
    threshold ≤ receiver.correlator.code.length ∧
      adjusted = { receiver with correlator := { receiver.correlator with threshold } } := by
  unfold setThreshold Correlator.setThreshold at accepted
  split at accepted
  · next within => exact ⟨within, (Except.ok.inj accepted).symm⟩
  · exact absurd accepted (by simp [Except.map])

theorem Consistent.setThreshold (consistent : receiver.Consistent layout) {threshold : Nat}
    {adjusted : Receiver} (accepted : receiver.setThreshold threshold = .ok adjusted) :
    adjusted.Consistent layout := by
  obtain ⟨within, rfl⟩ := of_setThreshold accepted
  exact {
    code := consistent.code
    threshold_le := consistent.code ▸ within
    searching := consistent.searching
    collecting := consistent.collecting
    passing := consistent.passing }

theorem Consistent.taken_pos (consistent : receiver.Consistent layout) {step : Step}
    (leads : receiver.Leads layout step) : 1 ≤ step.taken := by
  cases leads with
  | silent | found | unfilled | rejected | accepted => exact Nat.le_refl 1
  | passed items remaining taken passing within moves =>
      rw [taken_pass]
      exact moves (consistent.passing passing).1

theorem Consistent.feed_singleton {reception : Reception}
    (consistent : reception.receiver.Consistent layout) (item : UInt8) :
    reception.feed layout [item] = reception.add (reception.receiver.step layout item []) := by
  have moves := consistent.taken_pos (leads_step layout reception.receiver item [])
  have inside : (reception.receiver.step layout item []).taken ≤ 1 :=
    taken_le layout reception.receiver item []
  exact Reception.drive_singleton_of_taken layout false reception item
    (Nat.le_antisymm inside moves)

theorem Consistent.receive_singleton (consistent : receiver.Consistent layout) (item : UInt8) :
    receiver.receive layout [item] =
      (Reception.start receiver).add (receiver.step layout item []) :=
  Consistent.feed_singleton consistent item

theorem Consistent.receiver_receive_singleton (consistent : receiver.Consistent layout)
    (item : UInt8) : (receiver.receive layout [item]).receiver.Consistent layout := by
  rw [consistent.receive_singleton]
  exact consistent.leads (receiver.leads_step layout item [])

/-- Items may be received one by one, each in a pass of its own. -/
theorem Consistent.feed_eq_foldl {reception : Reception}
    (consistent : reception.receiver.Consistent layout) (items : List UInt8) :
    reception.feed layout items =
      items.foldl (fun reception item => reception.add (reception.receiver.step layout item []))
        reception := by
  induction items generalizing reception with
  | nil => exact Reception.feed_nil layout reception
  | cons item rest induction =>
      rw [Reception.feed_cons_eq_feed, Consistent.feed_singleton consistent, List.foldl_cons]
      exact induction (consistent.leads (leads_step layout reception.receiver item []))

/-! ## The skip count -/

/-- The skip count covers what has been received of the next header. -/
structure Counted (layout : Layout) (receiver : Receiver) : Prop where
  searching : receiver.phase = .searching → receiver.correlator.filled ≤ receiver.skipped
  collecting : receiver.phase = .collecting →
    ∃ read, receiver.register.length = read * layout.bitsPerItem ∧
      layout.accessCode.length + read ≤ receiver.skipped
  passing {items remaining : Nat} : receiver.phase = .passing items remaining →
    receiver.skipped = 0

theorem Counted.of_waiting (silent : receiver.correlator.filled = 0)
    (vacant : receiver.register.length = 0)
    (waiting : receiver.phase = waitingPhase layout.accessCode) : receiver.Counted layout := by
  unfold waitingPhase at waiting
  split at waiting
  · next empty =>
    have none : layout.accessCode.length = 0 := layout.accessCode.isEmpty_iff.mp empty
    exact {
      searching := by simp [waiting]
      collecting := fun _ => ⟨0, by omega, by omega⟩
      passing := by simp [waiting] }
  · exact {
      searching := fun _ => silent ▸ Nat.zero_le _
      collecting := by simp [waiting]
      passing := by simp [waiting] }

theorem Counted.of_collecting (collecting : receiver.phase = .collecting) (read : Nat)
    (held : receiver.register.length = read * layout.bitsPerItem)
    (enough : layout.accessCode.length + read ≤ receiver.skipped) : receiver.Counted layout where
  searching := by simp [collecting]
  collecting := fun _ => ⟨read, held, enough⟩
  passing := by simp [collecting]

theorem Counted.of_passing {items remaining : Nat}
    (passing : receiver.phase = .passing items remaining) (none : receiver.skipped = 0) :
    receiver.Counted layout where
  searching := by simp [passing]
  collecting := by simp [passing]
  passing := fun _ => none

theorem Counted.headerItems_le (counted : receiver.Counted layout)
    (collecting : receiver.phase = .collecting) {item : UInt8}
    (filled : layout.bodyBits ≤ (layout.collect receiver.register item).length) :
    layout.headerItems ≤ receiver.skipped + 1 := by
  rcases counted.collecting collecting with ⟨read, held, enough⟩
  rw [length_collect, held, ← Nat.succ_mul, ← layout.bodyItems_mul_bitsPerItem] at filled
  have whole := Nat.le_of_mul_le_mul_right filled layout.bitsPerItem_pos
  rw [layout.headerItems_eq]
  omega

theorem Counted.leads (counted : receiver.Counted layout)
    (code : receiver.correlator.code = layout.accessCode) {step : Step}
    (leads : receiver.Leads layout step) : step.receiver.Counted layout := by
  cases leads with
  | silent item searching nothing =>
      exact {
        searching := by
          intro _
          have before := counted.searching searching
          change min (receiver.correlator.filled + 1) 64 ≤ receiver.skipped + 1
          omega
        collecting := by simp [countSkipped, searching]
        passing := by simp [countSkipped, searching] }
  | found item distance searching tolerated =>
      have before := counted.searching searching
      have heard := Correlator.le_filled_of_found? tolerated
      change receiver.correlator.code.length ≤ min (receiver.correlator.filled + 1) 64 at heard
      rw [code] at heard
      apply Counted.of_collecting rfl 0 (Nat.zero_mul _).symm
      change layout.accessCode.length + 0 ≤ receiver.skipped + 1
      omega
  | unfilled item collecting short =>
      rcases counted.collecting collecting with ⟨read, held, enough⟩
      refine Counted.of_collecting collecting (read + 1) ?_ ?_
      · change (layout.collect receiver.register item).length = _
        rw [length_collect, held, Nat.succ_mul]
      · change layout.accessCode.length + (read + 1) ≤ receiver.skipped + 1
        omega
  | rejected item collecting filled unread =>
      exact .of_waiting rfl rfl (congrArg waitingPhase code)
  | accepted item header collecting filled read =>
      dsimp only
      unfold opened
      split
      · exact .of_waiting rfl rfl (congrArg waitingPhase code)
      · exact .of_passing rfl rfl
  | passed items remaining taken passing within moves =>
      unfold pass
      dsimp only
      split
      · exact .of_waiting rfl rfl (congrArg waitingPhase code)
      · exact .of_passing rfl (counted.passing passing)

theorem Counted.reset (code : receiver.correlator.code = layout.accessCode) :
    receiver.reset.Counted layout :=
  .of_waiting rfl rfl (congrArg waitingPhase code)

theorem Counted.setThreshold (counted : receiver.Counted layout) {threshold : Nat}
    {adjusted : Receiver} (accepted : receiver.setThreshold threshold = .ok adjusted) :
    adjusted.Counted layout := by
  obtain ⟨-, rfl⟩ := of_setThreshold accepted
  exact {
    searching := counted.searching
    collecting := counted.collecting
    passing := counted.passing }

end Receiver

/-! ## Accounts -/

/-- The items of which an accepted header speaks: those skipped up to its end, and those of its
payload. -/
structure Announced where
  skipped : Nat
  payloadItems : Nat

namespace Announced

def items (announced : Announced) : Nat :=
  announced.skipped + announced.payloadItems

def ToldBy (layout : Layout) (announced : Announced) (record : Metadata) : Prop :=
  ∃ (register : HeaderRegister) (header : DecodedHeader), layout.read? register = some header ∧
    header.payloadItems = announced.payloadItems ∧
    record = Receiver.announcement header announced.skipped

theorem ToldBy.get?_skipped {layout : Layout} {announced : Announced} {record : Metadata}
    (told : announced.ToldBy layout record) :
    record.get? Metadata.skippedItemsKey = some (.natural announced.skipped) := by
  rcases told with ⟨register, header, -, -, rfl⟩
  exact Receiver.get?_announcement header announced.skipped

end Announced

def Event.announced? : Event → Option Announced
  | .headerAccepted skipped payloadItems => some { skipped, payloadItems }
  | _ => none

namespace Pass

def announced (passes : List Pass) : List Announced :=
  (events passes).filterMap Event.announced?

/-- The items of which accepted headers speak. -/
def reported (passes : List Pass) : Nat :=
  (announced passes).foldr (fun announced total => announced.items + total) 0

/-- Counts the items of searches and headers. A header that is accepted reports those before
it. -/
def count (unreported : Nat) (pass : Pass) : Nat :=
  match pass.step.record, pass.phase with
  | some _, _ => 0
  | none, .passing _ _ => unreported
  | none, _ => unreported + pass.step.taken

/-- The items of searches and headers since the last accepted header. -/
def unreported (passes : List Pass) : Nat :=
  passes.foldl count 0

theorem announced_append (first second : List Pass) :
    announced (first ++ second) = announced first ++ announced second := by
  rw [announced, events_append, List.filterMap_append]
  rfl

theorem announced_append_singleton (passes : List Pass) (pass : Pass) :
    announced (passes ++ [pass]) =
      announced passes ++ pass.step.events.filterMap Event.announced? := by
  rw [announced_append, announced, events, announced, events, List.flatMap_singleton]

theorem reported_append (first second : List Pass) :
    reported (first ++ second) = reported first + reported second := by
  unfold reported
  rw [announced_append]
  induction announced first with
  | nil => exact (Nat.zero_add _).symm
  | cons header rest induction =>
      rw [List.cons_append, List.foldr_cons, List.foldr_cons, induction, Nat.add_assoc]

theorem unreported_append_singleton (passes : List Pass) (pass : Pass) :
    unreported (passes ++ [pass]) = count (unreported passes) pass := by
  rw [unreported, List.foldl_append]
  rfl

theorem count_outside {pass : Pass} (outside : pass.phase.weight = 0)
    (silent : pass.step.record = none) (unreported : Nat) :
    count unreported pass = unreported + pass.step.taken := by
  unfold count
  cases phase : pass.phase with
  | searching | collecting => simp only [silent]
  | passing items remaining =>
      rw [phase] at outside
      exact absurd outside Nat.one_ne_zero

end Pass

namespace Receiver

variable {layout : Layout} {receiver : Receiver} {trace : List Pass}

theorem remaining_outside (outside : receiver.phase.weight = 0) : receiver.remaining = 0 := by
  unfold remaining
  cases phase : receiver.phase with
  | searching | collecting => rfl
  | passing items remaining =>
      rw [phase] at outside
      exact absurd outside Nat.one_ne_zero

theorem position_opened (receiver : Receiver) (header : DecodedHeader) :
    (receiver.opened header).position = receiver.position := by
  unfold opened
  split <;> rfl

theorem skipped_opened (receiver : Receiver) (header : DecodedHeader) :
    (receiver.opened header).skipped = 0 := by
  unfold opened
  split <;> rfl

theorem remaining_opened (receiver : Receiver) (header : DecodedHeader) :
    (receiver.opened header).remaining = header.payloadItems := by
  unfold opened
  split
  · next zero =>
    rw [zero]
    exact remaining_outside (Phase.weight_waitingPhase _)
  · rfl

section Payload

variable (receiver : Receiver) (items remaining taken : Nat)

theorem position_pass :
    (receiver.pass items remaining taken).receiver.position = receiver.position + taken := by
  unfold pass
  dsimp only
  split <;> rfl

theorem skipped_pass :
    (receiver.pass items remaining taken).receiver.skipped = receiver.skipped := by
  unfold pass
  dsimp only
  split <;> rfl

theorem remaining_pass :
    (receiver.pass items remaining taken).receiver.remaining = remaining - taken := by
  unfold pass
  dsimp only
  split
  · next complete =>
    rw [complete]
    exact remaining_outside (Phase.weight_waitingPhase _)
  · rfl

theorem announced_pass :
    (receiver.pass items remaining taken).events.filterMap Event.announced? = [] := by
  unfold pass
  dsimp only
  split <;> rfl

end Payload

/-- Between two passes, what the receiver counts is what the passes have taken. -/
structure Balanced (layout : Layout) (trace : List Pass) (receiver : Receiver) : Prop where
  taken : receiver.position = Pass.taken trace
  skipped : receiver.skipped = Pass.unreported trace
  total : receiver.position + receiver.remaining =
    Pass.reported trace + Pass.unreported trace
  told : List.Forall₂ (Announced.ToldBy layout) (Pass.announced trace) (Pass.records trace)
  whole : ∀ header ∈ Pass.announced trace, layout.headerItems ≤ header.skipped

theorem Balanced.of_silent (balanced : receiver.Balanced layout trace) {next : Receiver}
    {pass : Pass} (silent : pass.step.record = none)
    (nothing : pass.step.events.filterMap Event.announced? = [])
    (taken : next.position = receiver.position + pass.step.taken)
    (skipped : next.skipped = Pass.count receiver.skipped pass)
    (total : next.position + next.remaining + receiver.skipped =
      receiver.position + receiver.remaining + next.skipped) :
    next.Balanced layout (trace ++ [pass]) := by
  have announced : Pass.announced [pass] = [] := by
    rw [← List.nil_append [pass], Pass.announced_append_singleton]
    exact nothing
  have records : Pass.records [pass] = [] := by simp [Pass.records, silent]
  have unreported : next.skipped = Pass.unreported (trace ++ [pass]) := by
    rw [Pass.unreported_append_singleton, ← balanced.skipped]
    exact skipped
  have reported : Pass.reported (trace ++ [pass]) = Pass.reported trace := by
    have none : Pass.reported [pass] = 0 := by
      rw [Pass.reported, announced]
      rfl
    rw [Pass.reported_append, none, Nat.add_zero]
  exact {
    taken := by
      rw [Pass.taken_append, ← balanced.taken]
      exact taken
    skipped := unreported
    total := by
      have before := balanced.total
      rw [← balanced.skipped] at before
      rw [reported, ← unreported]
      omega
    told := by
      rw [Pass.announced_append, Pass.records_append, announced, records, List.append_nil,
        List.append_nil]
      exact balanced.told
    whole := by
      rw [Pass.announced_append, announced, List.append_nil]
      exact balanced.whole }

theorem Balanced.of_skip (balanced : receiver.Balanced layout trace) {step : Step}
    (outside : receiver.phase.weight = 0) (silent : step.record = none)
    (nothing : step.events.filterMap Event.announced? = []) (one : step.taken = 1)
    (position : step.receiver.position = receiver.position + 1)
    (skipped : step.receiver.skipped = receiver.skipped + 1)
    (still : step.receiver.phase.weight = 0) :
    step.receiver.Balanced layout (trace ++ [{ phase := receiver.phase, step }]) := by
  have before : receiver.remaining = 0 := remaining_outside outside
  have after : step.receiver.remaining = 0 := remaining_outside still
  apply balanced.of_silent silent nothing
  · rw [position, one]
  · rw [Pass.count_outside outside silent, one, skipped]
  · omega

theorem Balanced.leads (balanced : receiver.Balanced layout trace)
    (counted : receiver.Counted layout) {step : Step} (leads : receiver.Leads layout step) :
    step.receiver.Balanced layout (trace ++ [{ phase := receiver.phase, step }]) := by
  cases leads with
  | silent item searching nothing =>
      have outside : receiver.phase.weight = 0 := congrArg Phase.weight searching
      exact balanced.of_skip outside rfl rfl rfl rfl rfl outside
  | found item distance searching tolerated =>
      have outside : receiver.phase.weight = 0 := congrArg Phase.weight searching
      exact balanced.of_skip outside rfl rfl rfl rfl rfl rfl
  | unfilled item collecting short =>
      have outside : receiver.phase.weight = 0 := congrArg Phase.weight collecting
      exact balanced.of_skip outside rfl rfl rfl rfl rfl outside
  | rejected item collecting filled unread =>
      have outside : receiver.phase.weight = 0 := congrArg Phase.weight collecting
      exact balanced.of_skip outside rfl rfl rfl rfl rfl (Phase.weight_waitingPhase _)
  | accepted item header collecting filled read =>
      have outside : receiver.remaining = 0 :=
        remaining_outside (congrArg Phase.weight collecting)
      exact {
        taken := by
          rw [Pass.taken_append, ← balanced.taken]
          exact position_opened _ _
        skipped := by
          rw [Pass.unreported_append_singleton]
          exact skipped_opened _ _
        total := by
          have before := balanced.total
          rw [← balanced.skipped, outside] at before
          rw [Pass.unreported_append_singleton, Pass.reported_append, remaining_opened,
            position_opened]
          change receiver.position + 1 + header.payloadItems = Pass.reported trace +
            (receiver.skipped + 1 + header.payloadItems + 0) + 0
          omega
        told := by
          rw [Pass.announced_append_singleton, Pass.records_append]
          exact List.rel_append balanced.told (.cons ⟨_, header, read, rfl, rfl⟩ .nil)
        whole := by
          rw [Pass.announced_append_singleton]
          intro heard member
          rcases List.mem_append.mp member with before | last
          · exact balanced.whole heard before
          · obtain rfl := List.mem_singleton.mp last
            exact counted.headerItems_le collecting filled }
  | passed items remaining taken passing within moves =>
      have silent := record_pass receiver items remaining taken
      have pending : receiver.remaining = remaining := by rw [Receiver.remaining, passing]
      have count : Pass.count receiver.skipped
          { phase := receiver.phase, step := receiver.pass items remaining taken } =
            receiver.skipped := by
        simp only [Pass.count, silent, passing]
      apply balanced.of_silent silent (announced_pass receiver items remaining taken)
      · rw [taken_pass, position_pass]
      · rw [count, skipped_pass]
      · rw [position_pass, remaining_pass, skipped_pass, pending]
        omega

/-- All that is known of a receiver between two passes. -/
structure Accounted (layout : Layout) (receiver : Receiver) (trace : List Pass) : Prop where
  consistent : receiver.Consistent layout
  counted : receiver.Counted layout
  balanced : receiver.Balanced layout trace
  moves : ∀ pass ∈ trace, 1 ≤ pass.step.taken

theorem Accounted.of_waiting (consistent : receiver.Consistent layout)
    (counted : receiver.Counted layout) (outside : receiver.phase.weight = 0)
    (position : receiver.position = 0) (skipped : receiver.skipped = 0) :
    receiver.Accounted layout [] where
  consistent := consistent
  counted := counted
  balanced := {
    taken := position
    skipped := skipped
    total := by
      rw [position, remaining_outside outside]
      rfl
    told := .nil
    whole := nofun }
  moves := nofun

theorem accounted_ofCode (layout : Layout) : (ofCode layout.accessCode).Accounted layout [] :=
  .of_waiting (.of_waiting rfl (Nat.zero_le _) rfl rfl) (.of_waiting rfl rfl rfl)
    (Phase.weight_waitingPhase _) rfl rfl

theorem kept_accounted (layout : Layout) :
    SharedTransceiver.Kept layout (Accounted layout) where
  leads {receiver trace step} leads accounted := {
    consistent := accounted.consistent.leads leads
    counted := accounted.counted.leads accounted.consistent.code leads
    balanced := accounted.balanced.leads accounted.counted leads
    moves := by
      intro pass member
      rcases List.mem_append.mp member with before | last
      · exact accounted.moves pass before
      · obtain rfl := List.mem_singleton.mp last
        exact accounted.consistent.taken_pos leads }
  reset accounted :=
    .of_waiting accounted.consistent.reset (.reset accounted.consistent.code)
      (Phase.weight_waitingPhase _) rfl rfl
  setThreshold {receiver adjusted trace threshold} adjusts accounted := by
    have consistent := accounted.consistent.setThreshold adjusts
    have counted := accounted.counted.setThreshold adjusts
    obtain ⟨-, rfl⟩ := of_setThreshold adjusts
    exact {
      consistent, counted
      balanced := { accounted.balanced with }
      moves := accounted.moves }

/-- The account of the items since the start or the last reset, by the passes over them. -/
structure Accounts (layout : Layout) (trace : List Pass) (receiver : Receiver) : Prop where
  /-- Every item has been taken by a pass. -/
  taken : receiver.position = Pass.taken trace
  /-- The payload that is still to come has been reported already. -/
  remaining_le : receiver.remaining ≤ Pass.reported trace
  /-- Every item has been reported, or is still to be. -/
  position : receiver.position =
    Pass.reported trace - receiver.remaining + Pass.unreported trace
  told : List.Forall₂
    (fun announced record => announced.ToldBy layout record ∧
      record.get? Metadata.skippedItemsKey = some (.natural announced.skipped))
    (Pass.announced trace) (Pass.records trace)
  /-- A whole header is skipped at least. -/
  whole : ∀ header ∈ Pass.announced trace, layout.headerItems ≤ header.skipped

theorem Accounted.accounts (accounted : receiver.Accounted layout trace) :
    receiver.Accounts layout trace := by
  have balanced := accounted.balanced
  have total := balanced.total
  have remaining_le : receiver.remaining ≤ Pass.reported trace := by
    cases phase : receiver.phase with
    | searching | collecting =>
        rw [remaining_outside (congrArg Phase.weight phase)]
        exact Nat.zero_le _
    | passing items remaining =>
        have skipped := accounted.counted.passing phase
        rw [← balanced.skipped, skipped] at total
        omega
  exact {
    taken := balanced.taken
    remaining_le
    position := by omega
    told := balanced.told.imp fun announced record told => ⟨told, told.get?_skipped⟩
    whole := balanced.whole }

end Receiver

namespace SharedTransceiver

theorem accounted_after (layout : Layout) (calls : List Call) :
    ((ofLayout layout).after calls).receiver.Accounted layout
      ((ofLayout layout).trace calls) := by
  have kept : Kept (ofLayout layout).codec.layout (Receiver.Accounted layout) :=
    Receiver.kept_accounted layout
  exact kept.traceFrom (Receiver.accounted_ofCode layout) calls

/-- Whatever a transceiver has been through, its receiver is consistent, every pass of the loop
has taken an item, a call receives all items that it is given, and every item since the start or
the last reset is accounted for by the records or still to be. -/
theorem items_accounted (layout : Layout) (calls : List Call) :
    let reached := (ofLayout layout).after calls
    let trace := (ofLayout layout).trace calls
    reached.receiver.Consistent layout ∧
      (∀ pass ∈ trace, 1 ≤ pass.step.taken) ∧
      (∀ items, (reached.receive items).1.consumed = items.length) ∧
      (∀ values, (reached.receiveSoft values).1.consumed = values.length) ∧
      (ofLayout layout).recordsSince calls = Pass.records trace ∧
      (ofLayout layout).eventsSince calls = Pass.events trace ∧
      reached.receiver.Accounts layout trace := by
  intro reached trace
  have accounted := accounted_after layout calls
  have all (items : List UInt8) : (reached.receive items).1.consumed = items.length := by
    rw [receive, drive_fst]
    exact (Reception.consumed_feed _ _ items).trans (Nat.zero_add _)
  refine ⟨accounted.consistent, accounted.moves, all, ?_, recordsSince_eq _ calls,
    eventsSince_eq _ calls, accounted.accounts⟩
  intro values
  exact (all _).trans (List.length_map _)

end SharedTransceiver

end PacketFraming
