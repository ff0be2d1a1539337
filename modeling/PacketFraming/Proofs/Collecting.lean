import PacketFraming.Proofs.HeaderView
import PacketFraming.Proofs.Reception

/-! A receiver that collects a header, and one that lets a payload pass. -/

namespace PacketFraming

namespace Receiver

/-! ## The header -/

theorem receive_of_collecting (layout : Layout) {receiver : Receiver}
    (collecting : receiver.phase = .collecting) (item : UInt8) :
    receiver.receive layout [item] =
      (Reception.start receiver).add (receiver.collect layout item) := by
  rw [receive_singleton layout (by rw [collecting]; rfl), step, collecting]

def withItem (layout : Layout) (receiver : Receiver) (item : UInt8) : Receiver :=
  { receiver.countSkipped with register := layout.collect receiver.register item }

theorem receive_of_unfilled (layout : Layout) {receiver : Receiver}
    (collecting : receiver.phase = .collecting) {item : UInt8}
    (unfilled : ¬layout.bodyBits ≤ (layout.collect receiver.register item).length) :
    (receiver.receive layout [item]).records = #[] ∧
      (receiver.receive layout [item]).receiver = receiver.withItem layout item := by
  have result : receiver.collect layout item = {
      receiver := receiver.withItem layout item
      record := none
      events := [] } := if_neg unfilled
  rw [receive_of_collecting layout collecting, result]
  exact ⟨rfl, rfl⟩

theorem receive_of_filled (layout : Layout) (receiver : Receiver)
    (collecting : receiver.phase = .collecting) {item : UInt8}
    (filled : layout.bodyBits ≤ (layout.collect receiver.register item).length) :
    (receiver.receive layout [item]).records =
        (judge layout (receiver.withItem layout item)).record.toArray ∧
      (receiver.receive layout [item]).receiver =
        (judge layout (receiver.withItem layout item)).receiver := by
  have result : receiver.collect layout item = judge layout (receiver.withItem layout item) :=
    if_pos filled
  rw [receive_of_collecting layout collecting, result]
  exact ⟨records_start_add _ _, rfl⟩

def withItems (layout : Layout) (receiver : Receiver) (items : List UInt8) : Receiver :=
  { receiver with
    register := items.foldl layout.collect receiver.register
    skipped := receiver.skipped + items.length
    position := receiver.position + items.length }

theorem withItems_withItem (layout : Layout) (receiver : Receiver) (item : UInt8)
    (rest : List UInt8) :
    (receiver.withItem layout item).withItems layout rest =
      receiver.withItems layout (item :: rest) := by
  simp [withItem, withItems, countSkipped, Nat.add_comm, Nat.add_left_comm]

theorem withItem_withItems (layout : Layout) (receiver : Receiver) (front : List UInt8)
    (item : UInt8) :
    (receiver.withItems layout front).withItem layout item =
      receiver.withItems layout (front ++ [item]) := by
  simp [withItem, withItems, countSkipped, Nat.add_assoc]

theorem receive_of_short (layout : Layout) {receiver : Receiver}
    (collecting : receiver.phase = .collecting) (items : List UInt8)
    (short : receiver.register.length + items.length * layout.bitsPerItem < layout.bodyBits) :
    (receiver.receive layout items).records = #[] ∧
      (receiver.receive layout items).receiver = receiver.withItems layout items := by
  induction items generalizing receiver with
  | nil =>
      rw [receive_nil]
      exact ⟨rfl, rfl⟩
  | cons item rest induction =>
      rw [List.length_cons, Nat.succ_mul] at short
      have held : (layout.collect receiver.register item).length =
          receiver.register.length + 1 * layout.bitsPerItem :=
        layout.length_foldl_collect receiver.register [item]
      have unfilled : ¬layout.bodyBits ≤ (layout.collect receiver.register item).length := by
        omega
      have still : (receiver.withItem layout item).register.length +
          rest.length * layout.bitsPerItem < layout.bodyBits := by
        change (layout.collect receiver.register item).length + _ < _
        omega
      rcases receive_of_unfilled layout collecting unfilled with ⟨none, moved⟩
      rcases @induction (receiver.withItem layout item) collecting still with
        ⟨records, ending⟩
      rw [← List.singleton_append, records_receive_append, receiver_receive_append, none, moved,
        records, ending]
      exact ⟨rfl, withItems_withItem layout receiver item rest⟩

/-- The items of a whole header are judged together. -/
theorem receive_of_body (layout : Layout) {receiver : Receiver}
    (collecting : receiver.phase = .collecting) (vacant : receiver.register.bits = [])
    {body : List UInt8} (whole : body.length = layout.bodyItems) :
    (receiver.receive layout body).records =
        (judge layout (receiver.withItems layout body)).record.toArray ∧
      (receiver.receive layout body).receiver =
        (judge layout (receiver.withItems layout body)).receiver := by
  have empty : receiver.register.length = 0 := by
    rw [← HeaderRegister.length_bits, vacant]
    rfl
  have bits := layout.bodyItems_mul_bitsPerItem
  have width := layout.bitsPerItem_pos
  rcases List.eq_nil_or_concat body with none | ⟨front, item, parts⟩
  · have some := layout.bodyItems_pos
    rw [none, List.length_nil] at whole
    omega
  · rw [List.concat_eq_append] at parts
    subst parts
    rw [List.length_append, List.length_singleton] at whole
    rw [← whole, Nat.succ_mul] at bits
    have short : receiver.register.length + front.length * layout.bitsPerItem <
        layout.bodyBits := by
      omega
    have held : (layout.collect (receiver.withItems layout front).register item).length =
        (receiver.withItems layout front).register.length + 1 * layout.bitsPerItem :=
      layout.length_foldl_collect _ [item]
    have before : (receiver.withItems layout front).register.length =
        receiver.register.length + front.length * layout.bitsPerItem :=
      layout.length_foldl_collect _ front
    have filled : layout.bodyBits ≤
        (layout.collect (receiver.withItems layout front).register item).length := by
      omega
    rcases receive_of_short layout collecting front short with ⟨none, kept⟩
    rcases receive_of_filled layout (receiver.withItems layout front) collecting filled with
      ⟨record, judged⟩
    rw [records_receive_append, receiver_receive_append, none, kept, record, judged,
      withItem_withItems]
    exact ⟨Array.empty_append, rfl⟩

/-! ## The payload -/

theorem receive_of_passing (layout : Layout) {receiver : Receiver} {items remaining : Nat}
    (passing : receiver.phase = .passing items remaining) {payload : List UInt8}
    (some : payload ≠ []) (within : payload.length ≤ remaining) :
    receiver.receive layout payload =
      (Reception.start receiver).add (receiver.pass items remaining payload.length) := by
  cases payload with
  | nil => exact absurd rfl some
  | cons item rest =>
      rw [receive, Reception.feed_cons, Reception.receiver_start,
        step_passing layout passing, taken_pass, Nat.min_eq_right within, List.drop_length,
        Reception.feed_nil]

end Receiver

end PacketFraming
