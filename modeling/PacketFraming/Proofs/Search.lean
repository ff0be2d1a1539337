import PacketFraming.Proofs.CodeWindow
import PacketFraming.Proofs.Reception

/-! A receiver that searches for an access code.

It has heard the bits since the search began, and it goes on to collect a header where the
newest of them are the code, but for the wrong bits that are tolerated. -/

namespace PacketFraming

namespace Receiver

def Matches (code : AccessCode) (threshold : Nat) (bits : List Bool) : Prop :=
  code.length ≤ bits.length ∧
    differences (Correlator.window code bits) code.bits ≤ threshold

theorem receive_of_searching (layout : Layout) {receiver : Receiver}
    (searching : receiver.phase = .searching) (item : UInt8) :
    receiver.receive layout [item] = (Reception.start receiver).add (receiver.search item) := by
  rw [receive_singleton layout (by rw [searching]; rfl), step, searching]

theorem receive_of_silent (layout : Layout) {receiver : Receiver} {bits : List Bool}
    (searching : receiver.phase = .searching) (heard : receiver.correlator.Heard bits)
    {item : UInt8}
    (silent : ¬Matches receiver.correlator.code receiver.correlator.threshold
      (bits ++ [itemBit item])) :
    (receiver.receive layout [item]).records = #[] ∧
      (receiver.receive layout [item]).receiver = { receiver.countSkipped with
        correlator := receiver.correlator.shift (itemBit item) } := by
  have nothing : (receiver.correlator.shift (itemBit item)).found? = none := by
    rw [(heard.shift (itemBit item)).found?_eq]
    exact if_neg silent
  have result : receiver.search item = {
      receiver := { receiver.countSkipped with
        correlator := receiver.correlator.shift (itemBit item) }
      record := none
      events := [] } := by
    simp only [search, countSkipped, Correlator.push, nothing]
  rw [receive_of_searching layout searching, result]
  exact ⟨rfl, rfl⟩

theorem receive_of_matches (layout : Layout) (receiver : Receiver) {bits : List Bool}
    (searching : receiver.phase = .searching) (heard : receiver.correlator.Heard bits)
    {item : UInt8}
    (found : Matches receiver.correlator.code receiver.correlator.threshold
      (bits ++ [itemBit item])) :
    (receiver.receive layout [item]).records = #[] ∧
      (receiver.receive layout [item]).receiver = { receiver.countSkipped with
        correlator := receiver.correlator.shift (itemBit item)
        register := receiver.register.clear
        phase := .collecting } := by
  have something : (receiver.correlator.shift (itemBit item)).found? =
      some (differences (Correlator.window receiver.correlator.code (bits ++ [itemBit item]))
        receiver.correlator.code.bits) := by
    rw [(heard.shift (itemBit item)).found?_eq]
    exact if_pos found
  rw [receive_of_searching layout searching, search]
  simp only [countSkipped, Correlator.push, something]
  exact ⟨rfl, rfl⟩

/-- A receiver that has searched some items in vain has heard their bits. -/
theorem receive_of_all_silent (layout : Layout) {receiver : Receiver} {bits : List Bool}
    (searching : receiver.phase = .searching) (heard : receiver.correlator.Heard bits)
    (items : List UInt8)
    (silent : ∀ front item rest, items = front ++ item :: rest →
      ¬Matches receiver.correlator.code receiver.correlator.threshold
        (bits ++ front.map itemBit ++ [itemBit item])) :
    (receiver.receive layout items).records = #[] ∧
      ∃ correlator : Correlator, correlator.Heard (bits ++ items.map itemBit) ∧
        correlator.code = receiver.correlator.code ∧
        correlator.threshold = receiver.correlator.threshold ∧
        (receiver.receive layout items).receiver = { receiver with
          correlator
          skipped := receiver.skipped + items.length
          position := receiver.position + items.length } := by
  induction items generalizing receiver bits with
  | nil =>
      rw [receive_nil]
      exact ⟨rfl, receiver.correlator, by simpa using heard, rfl, rfl, rfl⟩
  | cons item rest induction =>
      rcases receive_of_silent layout searching heard (by simpa using silent [] item rest rfl)
        with ⟨none, moved⟩
      have further : ∀ front next behind, rest = front ++ next :: behind →
          ¬Matches receiver.correlator.code receiver.correlator.threshold
            (bits ++ [itemBit item] ++ front.map itemBit ++ [itemBit next]) := by
        intro front next behind parts
        have absent := silent (item :: front) next behind (by rw [parts]; rfl)
        simpa using absent
      rw [← List.singleton_append, records_receive_append, receiver_receive_append, none, moved]
      rcases @induction { receiver.countSkipped with
          correlator := receiver.correlator.shift (itemBit item) } _ searching
          (heard.shift (itemBit item)) further with
        ⟨records, correlator, newest, code, threshold, ending⟩
      rw [records, ending]
      refine ⟨rfl, correlator, by simpa using newest, code, threshold, ?_⟩
      simp [countSkipped, Nat.add_comm, Nat.add_left_comm]

end Receiver

end PacketFraming
