import PacketFraming.Proofs.Reception

/-! Chunks of a stream.

However a stream is cut, and however each piece is handed over, a receiver puts out the same
and ends in the same state. -/

namespace PacketFraming

/-! ## Header by header -/

namespace Halt

def reception (halt : Halt) : Reception where
  receiver := halt.receiver
  records := halt.record.toArray
  events := halt.events
  consumed := halt.consumed

end Halt

namespace Receiver

theorem record_receiveHeader (layout : Layout) (receiver : Receiver) (items : List UInt8)
    {record : Option Metadata}
    (produced : ((Reception.start receiver).drive layout true items).records =
      record.toArray) :
    (receiver.receiveHeader layout items).record = record := by
  rw [receiveHeader, Reception.halt, produced]
  cases record <;> rfl

theorem reception_receiveHeader (layout : Layout) (receiver : Receiver) (items : List UInt8)
    {record : Option Metadata}
    (produced : ((Reception.start receiver).drive layout true items).records =
      record.toArray) :
    (receiver.receiveHeader layout items).reception =
      (Reception.start receiver).drive layout true items := by
  rw [Halt.reception, record_receiveHeader layout receiver items produced, ← produced]
  rfl

/-- Either no header is accepted and all items are received, or the run ends with the item
that completes the first one. -/
theorem receiveHeader_cases (layout : Layout) (receiver : Receiver) (items : List UInt8) :
    ((receiver.receive layout items).records = #[] ∧
        (receiver.receiveHeader layout items).reception = receiver.receive layout items ∧
        (receiver.receiveHeader layout items).record = none ∧
        (receiver.receiveHeader layout items).rest = []) ∨
      ∃ front item rest record, items = front ++ item :: rest ∧
        (receiver.receive layout front).records = #[] ∧
        (receiver.receive layout (front ++ [item])).records = #[record] ∧
        (receiver.receiveHeader layout items).reception =
          receiver.receive layout (front ++ [item]) ∧
        (receiver.receiveHeader layout items).record = some record ∧
        (receiver.receiveHeader layout items).rest = rest := by
  have rest_eq : (receiver.receiveHeader layout items).rest =
      items.drop ((Reception.start receiver).drive layout true items).consumed := rfl
  rcases Reception.drive_halting_cases layout (.start receiver) items with
    ⟨whole, none⟩ | ⟨front, item, rest, record, parts, before, stopped, found⟩
  · have produced : ((Reception.start receiver).drive layout true items).records =
        (Option.none : Option Metadata).toArray := by rw [whole, none]; rfl
    refine .inl ⟨none, ?_, record_receiveHeader layout receiver items produced, ?_⟩
    · exact (reception_receiveHeader layout receiver items produced).trans whole
    · rw [rest_eq, whole, Reception.consumed_feed]
      exact List.drop_of_length_le (Nat.le_add_left _ _)
  · have produced : ((Reception.start receiver).drive layout true items).records =
        (some record).toArray := by rw [stopped, found]; rfl
    refine .inr ⟨front, item, rest, record, parts, before, found, ?_,
      record_receiveHeader layout receiver items produced, ?_⟩
    · exact (reception_receiveHeader layout receiver items produced).trans stopped
    · have taken : ((Reception.start receiver).feed layout (front ++ [item])).consumed =
          (front ++ [item]).length :=
        (Reception.consumed_feed layout _ _).trans (Nat.zero_add _)
      rw [rest_eq, stopped, taken, parts, List.append_cons front item rest]
      exact List.drop_left

theorem length_rest_receiveHeader (layout : Layout) (receiver : Receiver) {items : List UInt8}
    (nonempty : items ≠ []) :
    (receiver.receiveHeader layout items).rest.length < items.length := by
  rcases receiveHeader_cases layout receiver items with
    ⟨-, -, -, used⟩ | ⟨front, item, rest, record, parts, -, -, -, -, behind⟩
  · rw [used]
    exact List.length_pos_iff.mpr nonempty
  · rw [behind, parts, List.length_append, List.length_cons]
    omega

end Receiver

namespace Transceiver

def after (transceiver : Transceiver) (reception : Reception) : Transceiver :=
  { transceiver with receiver := reception.receiver }

theorem receive_append (transceiver : Transceiver) (first second : List UInt8) :
    transceiver.receive (first ++ second) =
      (transceiver.receive first).followedBy
        ((transceiver.after (transceiver.receive first)).receive second) :=
  Receiver.receive_append transceiver.layout transceiver.receiver first second

def receiveByHeader (transceiver : Transceiver) : List UInt8 → Reception
  | [] => .start transceiver.receiver
  | item :: rest =>
      let halt := transceiver.receiveHeader (item :: rest)
      halt.reception.followedBy
        ((transceiver.after halt.reception).receiveByHeader halt.rest)
termination_by items => items.length
decreasing_by
  exact Receiver.length_rest_receiveHeader _ _ (List.cons_ne_nil item rest)

theorem receiveByHeader_eq_receive (transceiver : Transceiver) (items : List UInt8) :
    transceiver.receiveByHeader items = transceiver.receive items := by
  fun_induction receiveByHeader transceiver items with
  | case1 transceiver => exact (Reception.feed_nil _ _).symm
  | case2 transceiver item rest halt induction =>
      rw [induction]
      rcases Receiver.receiveHeader_cases transceiver.layout transceiver.receiver
          (item :: rest) with
        ⟨-, whole, -, used⟩ | ⟨front, last, behind, record, parts, -, -, stopped, -, unused⟩
      · rw [show halt.rest = [] from used, show halt.reception = _ from whole]
        have nothing := receive_append transceiver (item :: rest) []
        rw [List.append_nil] at nothing
        exact nothing.symm
      · rw [show halt.rest = behind from unused, show halt.reception = _ from stopped,
          parts, List.append_cons front last behind]
        exact (receive_append transceiver (front ++ [last]) behind).symm

end Transceiver

/-! ## Deliveries -/

/-- A chunk of a stream, and the way it is handed to a transceiver. -/
inductive Delivery
  | whole (items : List UInt8)
  | byHeader (items : List UInt8)
  | soft (values : List SoftValue)

namespace Delivery

def items : Delivery → List UInt8
  | whole items => items
  | byHeader items => items
  | soft values => values.map SoftValue.slice

end Delivery

namespace Transceiver

def deliver (transceiver : Transceiver) : Delivery → Reception
  | .whole items => transceiver.receive items
  | .byHeader items => transceiver.receiveByHeader items
  | .soft values => transceiver.receiveSoft values

def deliverAll (transceiver : Transceiver) : List Delivery → Reception
  | [] => .start transceiver.receiver
  | delivery :: rest =>
      let reception := transceiver.deliver delivery
      reception.followedBy ((transceiver.after reception).deliverAll rest)

theorem deliver_eq_receive (transceiver : Transceiver) (delivery : Delivery) :
    transceiver.deliver delivery = transceiver.receive delivery.items := by
  cases delivery with
  | whole items => rfl
  | byHeader items => exact receiveByHeader_eq_receive transceiver items
  | soft values => rfl

/-- From any state, a stream cut into deliveries of any kind leads to the records, the
events, the number of items and the receiver to which it leads in one piece. -/
theorem deliverAll_eq_receive (transceiver : Transceiver) (deliveries : List Delivery) :
    transceiver.deliverAll deliveries =
      transceiver.receive (deliveries.flatMap Delivery.items) := by
  induction deliveries generalizing transceiver with
  | nil => exact (Reception.feed_nil _ _).symm
  | cons delivery rest induction =>
      rw [deliverAll, List.flatMap_cons, receive_append, induction, deliver_eq_receive]

end Transceiver

end PacketFraming
