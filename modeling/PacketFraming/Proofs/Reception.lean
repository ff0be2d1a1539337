import PacketFraming.Transceiver.Basic

/-! Runs of the receive loop.

A run does not depend on what was put out before it, it may be cut between any two items,
and one that halts at a header is the beginning of one that does not. -/

namespace PacketFraming

namespace Reception

/-- What is put out by two runs, the second of which goes on where the first one ended. -/
def followedBy (first second : Reception) : Reception where
  receiver := second.receiver
  records := first.records ++ second.records
  events := first.events ++ second.events
  consumed := first.consumed + second.consumed

@[simp] theorem receiver_start (receiver : Receiver) : (start receiver).receiver = receiver :=
  rfl

@[simp] theorem receiver_add (reception : Reception) (step : Step) :
    (reception.add step).receiver = step.receiver := rfl

@[simp] theorem receiver_followedBy (first second : Reception) :
    (first.followedBy second).receiver = second.receiver := rfl

@[simp] theorem followedBy_start (reception : Reception) :
    reception.followedBy (start reception.receiver) = reception := by
  simp [followedBy, start]

theorem followedBy_add (prior reception : Reception) (step : Step) :
    prior.followedBy (reception.add step) = (prior.followedBy reception).add step := by
  cases record : step.record with
  | none => simp [add, followedBy, record, Nat.add_assoc]
  | some record => simp [add, followedBy, record, Nat.add_assoc]

/-! ## The loop -/

theorem drive_cons (layout : Layout) (halting : Bool) (reception : Reception) (item : UInt8)
    (rest : List UInt8) :
    reception.drive layout halting (item :: rest) =
      if halting && (reception.receiver.step layout item rest).record.isSome then
        reception.add (reception.receiver.step layout item rest)
      else
        (reception.add (reception.receiver.step layout item rest)).drive layout halting
          ((item :: rest).drop (reception.receiver.step layout item rest).taken) := by
  rw [drive]

@[simp] theorem drive_nil (layout : Layout) (halting : Bool) (reception : Reception) :
    reception.drive layout halting [] = reception := by
  rw [drive]

@[simp] theorem feed_nil (layout : Layout) (reception : Reception) :
    reception.feed layout [] = reception :=
  drive_nil layout false reception

theorem feed_cons (layout : Layout) (reception : Reception) (item : UInt8)
    (rest : List UInt8) :
    reception.feed layout (item :: rest) =
      (reception.add (reception.receiver.step layout item rest)).feed layout
        ((item :: rest).drop (reception.receiver.step layout item rest).taken) := by
  rw [feed, drive_cons]
  rfl

/-- What has been put out before has no influence on a run. -/
theorem drive_followedBy (layout : Layout) (halting : Bool) (prior reception : Reception)
    (items : List UInt8) :
    (prior.followedBy reception).drive layout halting items =
      prior.followedBy (reception.drive layout halting items) := by
  fun_induction drive layout halting reception items with
  | case1 reception => rw [drive_nil]
  | case2 reception item rest step halts =>
      rw [drive_cons, receiver_followedBy, if_pos halts, followedBy_add]
  | case3 reception item rest step goesOn induction =>
      rw [drive_cons, receiver_followedBy, if_neg goesOn, ← followedBy_add, induction]

theorem feed_eq_followedBy (layout : Layout) (reception : Reception) (items : List UInt8) :
    reception.feed layout items =
      reception.followedBy (reception.receiver.receive layout items) := by
  rw [Receiver.receive, feed, feed, ← drive_followedBy, followedBy_start]

end Reception

/-! ## Cuts -/

namespace Receiver

theorem step_passing (layout : Layout) {receiver : Receiver} {items remaining : Nat}
    (passing : receiver.phase = .passing items remaining) (item : UInt8)
    (rest : List UInt8) :
    receiver.step layout item rest =
      receiver.pass items remaining (min remaining (item :: rest).length) := by
  rw [step, passing]
  exact congrArg (receiver.pass items remaining) List.length_take

theorem step_rest (layout : Layout) {receiver : Receiver} (outside : receiver.phase.weight = 0)
    (item : UInt8) (first second : List UInt8) :
    receiver.step layout item first = receiver.step layout item second := by
  unfold step
  cases phase : receiver.phase with
  | searching => rfl
  | collecting => rfl
  | passing items remaining =>
      rw [phase] at outside
      exact absurd outside Nat.one_ne_zero

theorem taken_step (layout : Layout) {receiver : Receiver} (outside : receiver.phase.weight = 0)
    (item : UInt8) (rest : List UInt8) : (receiver.step layout item rest).taken = 1 := by
  unfold step
  cases phase : receiver.phase with
  | searching => exact taken_search receiver item
  | collecting => exact taken_collect layout receiver item
  | passing items remaining =>
      rw [phase] at outside
      exact absurd outside Nat.one_ne_zero

theorem record_pass (receiver : Receiver) (items remaining taken : Nat) :
    (receiver.pass items remaining taken).record = none := by
  rw [pass]
  split <;> rfl

theorem record_step_passing (layout : Layout) {receiver : Receiver} {items remaining : Nat}
    (passing : receiver.phase = .passing items remaining) (item : UInt8)
    (rest : List UInt8) : (receiver.step layout item rest).record = none := by
  rw [step_passing layout passing, record_pass]

theorem taken_le (layout : Layout) (receiver : Receiver) (item : UInt8) (rest : List UInt8) :
    (receiver.step layout item rest).taken ≤ (item :: rest).length := by
  cases phase : receiver.phase with
  | searching | collecting =>
      rw [taken_step layout (by rw [phase]; rfl), List.length_cons]
      omega
  | passing items remaining =>
      rw [step_passing layout phase, taken_pass]
      exact Nat.min_le_right _ _

theorem outside_of_record (layout : Layout) {receiver : Receiver} {item : UInt8}
    {rest : List UInt8} (accepted : (receiver.step layout item rest).record.isSome) :
    receiver.phase.weight = 0 := by
  cases phase : receiver.phase with
  | searching | collecting => rfl
  | passing items remaining =>
      rw [record_step_passing layout phase] at accepted
      exact absurd accepted Bool.false_ne_true

theorem phase_pass (receiver : Receiver) (items : Nat) {remaining taken : Nat}
    (short : taken < remaining) :
    (receiver.pass items remaining taken).receiver.phase =
      .passing items (remaining - taken) := by
  rw [pass, if_neg (by omega)]

end Receiver

namespace Reception

theorem add_pass_pass (reception : Reception) {items remaining first : Nat} (second : Nat)
    (short : first < remaining) :
    (reception.add (reception.receiver.pass items remaining first)).add
        ((reception.receiver.pass items remaining first).receiver.pass items
          (remaining - first) second) =
      reception.add (reception.receiver.pass items remaining (first + second)) := by
  have unfinished : ¬remaining - first = 0 := by omega
  have together : remaining - (first + second) = remaining - first - second := by omega
  by_cases finished : remaining - first - second = 0
  · simp [Receiver.pass, add, unfinished, finished, together, Receiver.wait, Nat.add_assoc]
  · simp [Receiver.pass, add, unfinished, finished, together, Nat.add_assoc]

/-- The first pass over a part of the items. Where the part ends within a payload, the pass
that takes the rest of the part and the pass after it are one. -/
theorem drive_cons_append (layout : Layout) (halting : Bool) (reception : Reception)
    (item : UInt8) (rest more : List UInt8)
    (goesOn : ¬(halting && (reception.receiver.step layout item rest).record.isSome) = true) :
    reception.drive layout halting (item :: rest ++ more) =
      (reception.add (reception.receiver.step layout item rest)).drive layout halting
        ((item :: rest).drop (reception.receiver.step layout item rest).taken ++ more) := by
  cases phase : reception.receiver.phase with
  | searching | collecting =>
      have outside : reception.receiver.phase.weight = 0 := by rw [phase]; rfl
      rw [List.cons_append, drive_cons,
        Receiver.step_rest layout outside item (rest ++ more) rest, if_neg goesOn,
        Receiver.taken_step layout outside]
      rfl
  | passing items remaining =>
      have silent (first : UInt8) (behind : List UInt8) :
          ¬(halting && (reception.receiver.step layout first behind).record.isSome) = true := by
        rw [Receiver.record_step_passing layout phase, Option.isSome_none, Bool.and_false]
        exact Bool.false_ne_true
      rw [List.cons_append, drive_cons, if_neg (silent item (rest ++ more)),
        Receiver.step_passing layout phase, Receiver.step_passing layout phase,
        Receiver.taken_pass, Receiver.taken_pass]
      rcases Nat.lt_or_ge (item :: rest).length remaining with short | enough
      -- The payload goes on behind the cut, and one pass takes items from both parts.
      · cases more with
        | nil => simp
        | cons next further =>
            have unfinished := Receiver.phase_pass reception.receiver items short
            have part : min remaining (item :: rest).length = (item :: rest).length := by omega
            have whole : min remaining (item :: (rest ++ next :: further)).length =
                (item :: rest).length +
                  min (remaining - (item :: rest).length) (next :: further).length := by
              simp only [List.length_cons, List.length_append] at short ⊢
              omega
            have still : ¬(halting && ((reception.add (reception.receiver.pass items remaining
                (item :: rest).length)).receiver.step layout next further).record.isSome) =
                  true := by
              rw [receiver_add, Receiver.record_step_passing layout unfinished,
                Option.isSome_none, Bool.and_false]
              exact Bool.false_ne_true
            rw [part, whole, List.drop_length, List.nil_append, drive_cons, if_neg still,
              receiver_add, Receiver.step_passing layout unfinished,
              add_pass_pass reception _ short, Receiver.taken_pass, ← List.cons_append,
              List.drop_length_add_append]
      · have same : min remaining (item :: (rest ++ more)).length =
            min remaining (item :: rest).length := by
          simp only [List.length_cons, List.length_append] at enough ⊢
          omega
        rw [same, ← List.cons_append, List.drop_append_of_le_length (Nat.min_le_right _ _)]

theorem records_add_of_none (reception : Reception) {step : Step} (absent : step.record = none) :
    (reception.add step).records = reception.records := by
  rw [add, absent]

theorem records_add_of_some (reception : Reception) {step : Step} {record : Metadata}
    (present : step.record = some record) :
    (reception.add step).records = reception.records.push record := by
  rw [add, present]

def halted (halting : Bool) (before after : Reception) : Bool :=
  halting && before.records.size < after.records.size

/-- Items may be received in two parts, wherever they are cut, unless the run halts in the
first one. -/
theorem drive_append (layout : Layout) (halting : Bool) (reception : Reception)
    (first second : List UInt8) :
    reception.drive layout halting (first ++ second) =
      if halted halting reception (reception.drive layout halting first) then
        reception.drive layout halting first
      else (reception.drive layout halting first).drive layout halting second := by
  fun_induction drive layout halting reception first with
  | case1 reception =>
      have silent : ¬halted halting reception reception = true := by simp [halted]
      rw [if_neg silent, List.nil_append]
  -- A pass over a header sees one item only, so the second part cannot have changed it.
  | case2 reception item rest step halts =>
      rcases Bool.and_eq_true_iff.mp halts with ⟨halting, accepted⟩
      rcases Option.isSome_iff_exists.mp accepted with ⟨record, present⟩
      have outside := Receiver.outside_of_record layout accepted
      have found : halted true reception (reception.add step) = true := by
        simp [halted, records_add_of_some reception present]
      subst halting
      rw [if_pos found, List.cons_append, drive_cons,
        Receiver.step_rest layout outside item (rest ++ second) rest, if_pos halts]
  | case3 reception item rest step goesOn induction =>
      have same : ∀ after, halted halting (reception.add step) after =
          halted halting reception after := by
        intro after
        cases halting with
        | false => rfl
        | true =>
            have absent : step.record = none := by simpa using goesOn
            rw [halted, records_add_of_none reception absent, halted]
      rw [drive_cons_append layout halting reception item rest second goesOn, induction, same]

theorem feed_append (layout : Layout) (reception : Reception) (first second : List UInt8) :
    reception.feed layout (first ++ second) =
      (reception.feed layout first).feed layout second :=
  drive_append layout false reception first second

/-! ## Single items -/

theorem feed_cons_eq_feed (layout : Layout) (reception : Reception) (item : UInt8)
    (rest : List UInt8) :
    reception.feed layout (item :: rest) =
      (reception.feed layout [item]).feed layout rest :=
  feed_append layout reception [item] rest

theorem drive_singleton_of_taken (layout : Layout) (halting : Bool) (reception : Reception)
    (item : UInt8) (taken : (reception.receiver.step layout item []).taken = 1) :
    reception.drive layout halting [item] =
      reception.add (reception.receiver.step layout item []) := by
  rw [drive_cons, taken]
  exact (congrArg _ (drive_nil layout halting _)).trans (ite_self _)

theorem drive_passing_zero (layout : Layout) (halting : Bool) {reception : Reception}
    {items : Nat} (passing : reception.receiver.phase = .passing items 0) (item : UInt8)
    (rest : List UInt8) :
    reception.drive layout halting (item :: rest) =
      (reception.add (reception.receiver.pass items 0 0)).drive layout halting
        (item :: rest) := by
  rw [drive_cons, Receiver.record_step_passing layout passing,
    Receiver.step_passing layout passing, Receiver.taken_pass, Nat.zero_min, List.drop_zero,
    Option.isSome_none, Bool.and_false, if_neg Bool.false_ne_true]

theorem weight_pass_zero (receiver : Receiver) (items : Nat) :
    (receiver.pass items 0 0).receiver.phase.weight = 0 := by
  rw [Receiver.pass, if_pos (Nat.zero_sub 0)]
  exact Phase.weight_waitingPhase receiver.correlator.code

theorem drive_singleton_eq_add (layout : Layout) (reception : Reception) (item : UInt8) :
    ∃ (prior : Reception) (step : Step), prior.records = reception.records ∧
      ∀ halting, reception.drive layout halting [item] = prior.add step := by
  by_cases taken : (reception.receiver.step layout item []).taken = 1
  · refine ⟨reception, reception.receiver.step layout item [], rfl, ?_⟩
    intro halting
    exact drive_singleton_of_taken layout halting reception item taken
  · cases phase : reception.receiver.phase with
    | searching | collecting =>
        exact absurd (Receiver.taken_step layout (by rw [phase]; rfl) item []) taken
    | passing items remaining =>
        rw [Receiver.step_passing layout phase, Receiver.taken_pass,
          List.length_singleton] at taken
        have nothing : remaining = 0 := by omega
        subst nothing
        let ended := reception.add (reception.receiver.pass items 0 0)
        refine ⟨ended, ended.receiver.step layout item [],
          records_add_of_none reception (Receiver.record_pass _ _ _ _), ?_⟩
        intro halting
        rw [drive_passing_zero layout halting phase]
        apply drive_singleton_of_taken
        exact Receiver.taken_step layout (weight_pass_zero reception.receiver items) item []

theorem drive_singleton (layout : Layout) (halting : Bool) (reception : Reception)
    (item : UInt8) :
    reception.drive layout halting [item] = reception.feed layout [item] := by
  rcases drive_singleton_eq_add layout reception item with ⟨prior, step, -, added⟩
  exact (added halting).trans (added false).symm

theorem records_feed_singleton (layout : Layout) (reception : Reception) (item : UInt8) :
    (reception.feed layout [item]).records = reception.records ∨
      ∃ record, (reception.feed layout [item]).records = reception.records.push record := by
  rcases drive_singleton_eq_add layout reception item with ⟨prior, step, same, added⟩
  rw [feed, added false, ← same]
  cases produced : step.record with
  | none => exact .inl (records_add_of_none prior produced)
  | some record => exact .inr ⟨record, records_add_of_some prior produced⟩

/-! ## Runs that halt -/

/-- A run that is to halt receives everything without a record, or it stops behind the item
that leads to the first one. -/
theorem drive_halting_cases (layout : Layout) (reception : Reception) (items : List UInt8) :
    (reception.drive layout true items = reception.feed layout items ∧
        (reception.feed layout items).records = reception.records) ∨
      ∃ front item rest record, items = front ++ item :: rest ∧
        (reception.feed layout front).records = reception.records ∧
        reception.drive layout true items = reception.feed layout (front ++ [item]) ∧
        (reception.feed layout (front ++ [item])).records = reception.records.push record := by
  induction items generalizing reception with
  | nil => exact .inl ⟨by rw [drive_nil, feed_nil], by rw [feed_nil]⟩
  | cons item rest induction =>
      have cut : reception.drive layout true (item :: rest) =
          if halted true reception (reception.feed layout [item]) then
            reception.feed layout [item]
          else (reception.feed layout [item]).drive layout true rest := by
        rw [← drive_singleton layout true]
        exact drive_append layout true reception [item] rest
      rcases records_feed_singleton layout reception item with same | ⟨record, more⟩
      · have silent : ¬halted true reception (reception.feed layout [item]) = true := by
          simp [halted, same]
        rw [if_neg silent] at cut
        rcases induction (reception.feed layout [item]) with
          ⟨whole, none⟩ | ⟨front, last, behind, record, parts, before, stopped, found⟩
        · left
          rw [feed_cons_eq_feed layout reception item rest]
          exact ⟨cut.trans whole, none.trans same⟩
        · right
          refine ⟨item :: front, last, behind, record, ?_, ?_, ?_, ?_⟩
          · rw [parts, List.cons_append]
          · rw [feed_cons_eq_feed layout reception, before, same]
          · rw [List.cons_append, feed_cons_eq_feed layout reception, cut, stopped]
          · rw [List.cons_append, feed_cons_eq_feed layout reception, found, same]
      · have found : halted true reception (reception.feed layout [item]) = true := by
          simp [halted, more]
        rw [if_pos found] at cut
        exact .inr ⟨[], item, rest, record, rfl, by rw [feed_nil], cut, more⟩

/-! ## Items received -/

theorem consumed_add (reception : Reception) (step : Step) :
    (reception.add step).consumed = reception.consumed + step.taken := rfl

theorem consumed_feed (layout : Layout) (reception : Reception) (items : List UInt8) :
    (reception.feed layout items).consumed = reception.consumed + items.length := by
  unfold feed
  fun_induction drive layout false reception items with
  | case1 reception => rfl
  | case2 reception item rest step halts => exact absurd halts Bool.false_ne_true
  | case3 reception item rest step goesOn induction =>
      have taken_le : step.taken ≤ (item :: rest).length :=
        Receiver.taken_le layout reception.receiver item rest
      rw [induction, consumed_add, List.length_drop]
      omega

theorem position_step (layout : Layout) (receiver : Receiver) (item : UInt8)
    (rest : List UInt8) :
    (receiver.step layout item rest).receiver.position =
      receiver.position + (receiver.step layout item rest).taken := by
  unfold Receiver.step
  split
  · unfold Receiver.search
    dsimp only
    split <;> rfl
  · rw [Receiver.taken_collect]
    unfold Receiver.collect Receiver.judge Receiver.settle
    dsimp only
    split
    · split
      · rfl
      · dsimp only
        split <;> rfl
    · rfl
  · unfold Receiver.pass
    dsimp only
    split <;> rfl

theorem position_feed (layout : Layout) (reception : Reception) (items : List UInt8) :
    (reception.feed layout items).receiver.position =
      reception.receiver.position + items.length := by
  unfold feed
  fun_induction drive layout false reception items with
  | case1 reception => rfl
  | case2 reception item rest step halts => exact absurd halts Bool.false_ne_true
  | case3 reception item rest step goesOn induction =>
      have taken_le : step.taken ≤ (item :: rest).length :=
        Receiver.taken_le layout reception.receiver item rest
      have moved : step.receiver.position = reception.receiver.position + step.taken :=
        position_step layout reception.receiver item rest
      rw [induction, receiver_add, moved, List.length_drop]
      omega

end Reception

namespace Receiver

@[simp] theorem receive_nil (layout : Layout) (receiver : Receiver) :
    receiver.receive layout [] = .start receiver :=
  Reception.feed_nil layout _

theorem receive_append (layout : Layout) (receiver : Receiver) (first second : List UInt8) :
    receiver.receive layout (first ++ second) =
      (receiver.receive layout first).followedBy
        ((receiver.receive layout first).receiver.receive layout second) := by
  rw [receive, Reception.feed_append, Reception.feed_eq_followedBy]
  rfl

theorem records_receive_append (layout : Layout) (receiver : Receiver)
    (first second : List UInt8) :
    (receiver.receive layout (first ++ second)).records =
      (receiver.receive layout first).records ++
        ((receiver.receive layout first).receiver.receive layout second).records := by
  rw [receive_append]
  rfl

theorem receiver_receive_append (layout : Layout) (receiver : Receiver)
    (first second : List UInt8) :
    (receiver.receive layout (first ++ second)).receiver =
      ((receiver.receive layout first).receiver.receive layout second).receiver := by
  rw [receive_append]
  rfl

theorem position_receive (layout : Layout) (receiver : Receiver) (items : List UInt8) :
    (receiver.receive layout items).receiver.position = receiver.position + items.length :=
  Reception.position_feed layout _ items

theorem receive_singleton (layout : Layout) {receiver : Receiver}
    (outside : receiver.phase.weight = 0) (item : UInt8) :
    receiver.receive layout [item] =
      (Reception.start receiver).add (receiver.step layout item []) :=
  Reception.drive_singleton_of_taken layout false (.start receiver) item
    (taken_step layout outside item [])

theorem records_start_add (receiver : Receiver) (step : Step) :
    ((Reception.start receiver).add step).records = step.record.toArray := by
  cases record : step.record <;> simp [Reception.add, Reception.start, record]

end Receiver

end PacketFraming
