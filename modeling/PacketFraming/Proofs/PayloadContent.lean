import PacketFraming.Proofs.ItemAccounts

/-! What a payload contains does not matter.

The items of a payload are the ones that are still to come when a stream goes on, and those
behind each header that is accepted. Streams that differ in such items only are received
alike. -/

namespace PacketFraming

namespace Receiver

/-- A place among items that belongs to a payload. -/
inductive InPayload (layout : Layout) (receiver : Receiver) (items : List UInt8)
    (index : Nat) : Prop
  /-- The payload has begun before these items. -/
  | pending : index < receiver.remaining → InPayload layout receiver items index
  /-- The item behind `before` completes a header, and its payload follows. -/
  | announced (before : List UInt8) (item : UInt8) (rest : List UInt8)
      (skipped payloadItems : Nat) (parts : items = before ++ item :: rest)
      (accepts : .headerAccepted skipped payloadItems ∈
        ((receiver.receive layout before).receiver.receive layout [item]).events.toList)
      (behind : before.length < index) (within : index ≤ before.length + payloadItems) :
      InPayload layout receiver items index

variable {layout : Layout} {receiver : Receiver}

/-- In a payload, one item is as good as another. -/
theorem Consistent.receive_singleton_congr (consistent : receiver.Consistent layout)
    (pending : 0 < receiver.remaining) (first second : UInt8) :
    receiver.receive layout [first] = receiver.receive layout [second] := by
  rw [consistent.receive_singleton, consistent.receive_singleton]
  unfold remaining at pending
  split at pending
  · next items remaining passing =>
    rw [step_passing layout passing, step_passing layout passing]
    rfl
  · exact absurd pending (Nat.lt_irrefl 0)

theorem Leads.remaining_eq_payloadItems {step : Step} (leads : receiver.Leads layout step)
    {skipped payloadItems : Nat} (accepts : .headerAccepted skipped payloadItems ∈ step.events) :
    step.receiver.remaining = payloadItems := by
  cases leads with
  | silent | unfilled => exact absurd accepts List.not_mem_nil
  | found | rejected => cases List.mem_singleton.mp accepts
  | accepted item header collecting filled read =>
      obtain ⟨-, rfl⟩ := Event.headerAccepted.inj (List.mem_singleton.mp accepts)
      exact remaining_opened _ header
  | passed items remaining taken passing within moves =>
      have heard : (⟨skipped, payloadItems⟩ : Announced) ∈
          (receiver.pass items remaining taken).events.filterMap Event.announced? :=
        List.mem_filterMap.mpr ⟨_, accepts, rfl⟩
      rw [announced_pass] at heard
      exact absurd heard List.not_mem_nil

theorem Leads.remaining_of_pending {step : Step} (leads : receiver.Leads layout step)
    (pending : 0 < receiver.remaining) :
    step.receiver.remaining = receiver.remaining - step.taken := by
  have outside (phase : receiver.phase.weight = 0) : step.receiver.remaining =
      receiver.remaining - step.taken := by
    rw [remaining_outside phase] at pending
    exact absurd pending (Nat.lt_irrefl 0)
  cases leads with
  | silent item searching | found item distance searching =>
      exact outside (congrArg Phase.weight searching)
  | unfilled item collecting | rejected item collecting | accepted item header collecting =>
      exact outside (congrArg Phase.weight collecting)
  | passed items remaining taken passing within moves =>
      rw [remaining_pass, taken_pass, Receiver.remaining, passing]

theorem Consistent.inPayload_of_cons (consistent : receiver.Consistent layout) {item : UInt8}
    {rest : List UInt8} {index : Nat}
    (region : receiver.InPayload layout (item :: rest) (index + 1)) :
    (receiver.receive layout [item]).receiver.InPayload layout rest index := by
  have leads := receiver.leads_step layout item []
  cases region with
  | pending within =>
      apply InPayload.pending
      have moves : (receiver.step layout item []).taken ≤ 1 := taken_le layout receiver item []
      rw [consistent.receive_singleton, Reception.receiver_add,
        leads.remaining_of_pending (by omega)]
      omega
  | announced before last behind skipped payloadItems parts accepts after within =>
      cases before with
      | nil =>
          obtain ⟨rfl, rfl⟩ := List.cons.inj parts
          apply InPayload.pending
          rw [receive_nil, Reception.receiver_start, consistent.receive_singleton,
            Reception.toList_events_add] at accepts
          rw [consistent.receive_singleton, Reception.receiver_add,
            leads.remaining_eq_payloadItems accepts]
          change index + 1 ≤ 0 + payloadItems at within
          omega
      | cons first before =>
          obtain ⟨rfl, others⟩ := List.cons.inj parts
          have further := receiver_receive_append layout receiver [item] before
          rw [List.singleton_append] at further
          rw [further] at accepts
          rw [List.length_cons] at after within
          exact .announced before last behind skipped payloadItems others accepts (by omega)
            (by omega)

/-- Streams that differ in payloads only are received alike. -/
theorem Consistent.receive_congr (consistent : receiver.Consistent layout)
    {first second : List UInt8} (length : first.length = second.length)
    (agree : ∀ index, ¬receiver.InPayload layout first index → first[index]? = second[index]?) :
    receiver.receive layout first = receiver.receive layout second := by
  induction first generalizing receiver second with
  | nil =>
      obtain rfl := List.length_eq_zero_iff.mp length.symm
      rfl
  | cons item rest induction =>
      cases second with
      | nil => exact absurd length (Nat.succ_ne_zero _)
      | cons other others =>
          have head : receiver.receive layout [item] = receiver.receive layout [other] := by
            by_cases pending : 0 < receiver.remaining
            · exact consistent.receive_singleton_congr pending item other
            · have free : ¬receiver.InPayload layout (item :: rest) 0 := by
                intro region
                cases region with
                | pending within => exact pending within
                | announced before _ _ _ _ _ _ behind => exact absurd behind (Nat.not_lt_zero _)
              rw [Option.some.inj (agree 0 free)]
          have tail := induction (consistent.receiver_receive_singleton item)
            (Nat.succ.inj length) fun index free =>
              agree (index + 1) (mt consistent.inPayload_of_cons free)
          have cut (first : UInt8) (behind : List UInt8) :
              receiver.receive layout (first :: behind) =
                (receiver.receive layout [first]).followedBy
                  ((receiver.receive layout [first]).receiver.receive layout behind) :=
            receive_append layout receiver [first] behind
          rw [cut item rest, cut other others, tail, head]

end Receiver

end PacketFraming
