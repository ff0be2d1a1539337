import PacketFraming.Proofs.Passes

/-! Receivers that differ in their past only.

Two receivers echo each other when they have received the same of the next header and of the
payload before it, whatever is left in their registers. From then on they put out the same,
further on in the stream, and the next header tells how much more one of them has skipped. -/

namespace PacketFraming

/-- What happens `moved` items further on in a stream. The next header that is accepted has
skipped `extra` more items, of which `left` are still untold at the end. -/
inductive Event.Echoes (moved : Nat) : (extra left : Nat) → List Event → List Event → Prop
  | nil (extra : Nat) : Echoes moved extra extra [] []
  | codeFound {extra left : Nat} {first second : List Event} (distance position : Nat) :
      Echoes moved extra left first second →
        Echoes moved extra left (.codeFound distance (position + moved) :: first)
          (.codeFound distance position :: second)
  | headerRejected {extra left : Nat} {first second : List Event} (position : Nat) :
      Echoes moved extra left first second →
        Echoes moved extra left (.headerRejected (position + moved) :: first)
          (.headerRejected position :: second)
  | headerAccepted {extra left : Nat} {first second : List Event} (skipped payloadItems : Nat) :
      Echoes moved 0 left first second →
        Echoes moved extra left (.headerAccepted (skipped + extra) payloadItems :: first)
          (.headerAccepted skipped payloadItems :: second)
  | payloadComplete {extra left : Nat} {first second : List Event} (items position : Nat) :
      Echoes moved extra left first second →
        Echoes moved extra left (.payloadComplete items (position + moved) :: first)
          (.payloadComplete items position :: second)

namespace Event.Echoes

variable {moved extra between left : Nat} {first second firstRest secondRest : List Event}

theorem append (echoes : Echoes moved extra between first second)
    (further : Echoes moved between left firstRest secondRest) :
    Echoes moved extra left (first ++ firstRest) (second ++ secondRest) := by
  induction echoes with
  | nil => exact further
  | codeFound distance position rest induction => exact .codeFound _ _ (induction further)
  | headerRejected position rest induction => exact .headerRejected _ (induction further)
  | headerAccepted skipped payloadItems rest induction =>
      exact .headerAccepted _ _ (induction further)
  | payloadComplete items position rest induction =>
      exact .payloadComplete _ _ (induction further)

theorem eq_of_zero (echoes : Echoes moved extra left first second) (still : moved = 0)
    (nothing : extra = 0) : first = second := by
  induction echoes with
  | nil => rfl
  | codeFound distance position rest induction => rw [still, induction nothing]; rfl
  | headerRejected position rest induction => rw [still, induction nothing]; rfl
  | headerAccepted skipped payloadItems rest induction => rw [nothing, induction rfl]; rfl
  | payloadComplete items position rest induction => rw [still, induction nothing]; rfl

end Event.Echoes

/-- Records of which the first one tells `extra` more skipped items; if there is none, they are
still untold. -/
inductive Metadata.Raised : (extra left : Nat) → List Metadata → List Metadata → Prop
  | nil (extra : Nat) : Raised extra extra [] []
  | cons (header : DecodedHeader) (skipped extra : Nat) (rest : List Metadata)
      (more : (Receiver.announcement header (skipped + extra)).get? Metadata.skippedItemsKey =
        some (.natural (skipped + extra)))
      (fewer : (Receiver.announcement header skipped).get? Metadata.skippedItemsKey =
        some (.natural skipped)) :
      Raised extra 0 (Receiver.announcement header (skipped + extra) :: rest)
        (Receiver.announcement header skipped :: rest)

namespace Metadata.Raised

variable {extra between left : Nat} {first second firstRest secondRest : List Metadata}

theorem eq_of_zero (raised : Raised extra left first second) (nothing : extra = 0) :
    first = second ∧ left = 0 := by
  cases raised with
  | nil => exact ⟨rfl, nothing⟩
  | cons header skipped extra rest more fewer =>
      rw [nothing]
      exact ⟨rfl, rfl⟩

theorem append (raised : Raised extra between first second)
    (further : Raised between left firstRest secondRest) :
    Raised extra left (first ++ firstRest) (second ++ secondRest) := by
  cases raised with
  | nil => exact further
  | cons header skipped extra rest more fewer =>
      rcases further.eq_of_zero rfl with ⟨rfl, rfl⟩
      exact .cons header skipped extra (rest ++ firstRest) more fewer

theorem length_eq (raised : Raised extra left first second) : first.length = second.length := by
  cases raised with
  | nil => rfl
  | cons => rfl

theorem isSome_eq {first second : Option Metadata}
    (raised : Raised extra left first.toList second.toList) : first.isSome = second.isSome := by
  have length := raised.length_eq
  cases first with
  | none =>
      cases second with
      | none => rfl
      | some record => exact absurd length Nat.zero_ne_one
  | some record =>
      cases second with
      | none => exact absurd length Nat.one_ne_zero
      | some record => rfl

end Metadata.Raised

/-! ## Receivers, passes and runs -/

/-- The first receiver has received `moved` items more and skipped `extra` more of them. Of what
is to come, both have received the same. -/
structure Receiver.Echoes (moved extra : Nat) (first second : Receiver) : Prop where
  correlator : first.correlator = second.correlator
  bits : first.register.bits = second.register.bits
  phase : first.phase = second.phase
  skipped : first.skipped = second.skipped + extra
  position : first.position = second.position + moved

structure Step.Echoes (moved extra left : Nat) (first second : Step) : Prop where
  taken : first.taken = second.taken
  records : Metadata.Raised extra left first.record.toList second.record.toList
  events : Event.Echoes moved extra left first.events second.events
  receiver : first.receiver.Echoes moved left second.receiver

structure Reception.Echoes (moved extra left : Nat) (first second : Reception) : Prop where
  consumed : first.consumed = second.consumed
  records : Metadata.Raised extra left first.records.toList second.records.toList
  events : Event.Echoes moved extra left first.events.toList second.events.toList
  receiver : first.receiver.Echoes moved left second.receiver

namespace Receiver.Echoes

variable {moved extra : Nat} {first second : Receiver} (echoes : first.Echoes moved extra second)
include echoes

theorem wait : first.wait.Echoes moved extra second.wait where
  correlator := congrArg Correlator.reset echoes.correlator
  bits := rfl
  phase := congrArg (fun correlator : Correlator => waitingPhase correlator.code) echoes.correlator
  skipped := echoes.skipped
  position := echoes.position

theorem countSkipped : first.countSkipped.Echoes moved extra second.countSkipped where
  correlator := echoes.correlator
  bits := echoes.bits
  phase := echoes.phase
  skipped := by
    change first.skipped + 1 = second.skipped + 1 + extra
    rw [echoes.skipped, Nat.add_right_comm]
  position := by
    change first.position + 1 = second.position + 1 + moved
    rw [echoes.position, Nat.add_right_comm]

theorem withItem (layout : Layout) (item : UInt8) :
    (first.withItem layout item).Echoes moved extra (second.withItem layout item) where
  correlator := echoes.correlator
  bits := by
    change (layout.collect first.register item).bits = (layout.collect second.register item).bits
    rw [layout.bits_collect, layout.bits_collect, echoes.bits]
  phase := echoes.phase
  skipped := echoes.countSkipped.skipped
  position := echoes.countSkipped.position

theorem search (item : UInt8) :
    (first.search item).Echoes moved extra extra (second.search item) := by
  have counted := echoes.countSkipped
  unfold Receiver.search Correlator.push
  dsimp only
  rw [counted.correlator]
  cases (second.countSkipped.correlator.shift (itemBit item)).found? with
  | none =>
      exact {
        taken := rfl
        records := .nil extra
        events := .nil extra
        receiver := { counted with correlator := rfl } }
  | some distance =>
      exact {
        taken := rfl
        records := .nil extra
        events := by
          rw [counted.position]
          exact .codeFound _ _ (.nil extra)
        receiver := { counted with correlator := rfl, bits := rfl, phase := rfl } }

theorem settle (header? : Option DecodedHeader) :
    ∃ left, (first.settle header?).Echoes moved extra left (second.settle header?) := by
  cases header? with
  | none =>
      refine ⟨extra, { taken := rfl, records := .nil extra, events := ?_, receiver := echoes.wait }⟩
      change Event.Echoes moved extra extra [.headerRejected first.position]
        [.headerRejected second.position]
      rw [echoes.position]
      exact .headerRejected _ (.nil extra)
  | some header =>
      refine ⟨0, { taken := rfl, records := ?_, events := ?_, receiver := ?_ }⟩
      · change Metadata.Raised extra 0 [announcement header first.skipped]
          [announcement header second.skipped]
        rw [echoes.skipped]
        exact .cons header _ extra [] (get?_announcement _ _) (get?_announcement _ _)
      · change Event.Echoes moved extra 0 [.headerAccepted first.skipped _]
          [.headerAccepted second.skipped _]
        rw [echoes.skipped]
        exact .headerAccepted _ _ (.nil 0)
      · unfold Receiver.settle
        dsimp only
        by_cases zero : header.payloadItems = 0
        · rw [if_pos zero, if_pos zero]
          exact { echoes.wait with skipped := rfl }
        · rw [if_neg zero, if_neg zero]
          exact { echoes with phase := rfl, skipped := rfl }

theorem collect (layout : Layout) (item : UInt8) :
    ∃ left, (first.collect layout item).Echoes moved extra left (second.collect layout item) := by
  have collected := echoes.withItem layout item
  have length : (layout.collect first.register item).length =
      (layout.collect second.register item).length := HeaderRegister.length_congr collected.bits
  have read : layout.read? (layout.collect first.register item) =
      layout.read? (layout.collect second.register item) := layout.read?_congr collected.bits
  have whole (receiver : Receiver) : receiver.collect layout item =
      if layout.bodyBits ≤ (layout.collect receiver.register item).length then
        (receiver.withItem layout item).settle
          (layout.read? (layout.collect receiver.register item))
      else { receiver := receiver.withItem layout item, record := none, events := [] } := rfl
  rw [whole, whole, length, read]
  split
  · exact collected.settle _
  · exact ⟨extra, {
      taken := rfl
      records := .nil extra
      events := .nil extra
      receiver := collected }⟩

theorem pass (items remaining taken : Nat) :
    (first.pass items remaining taken).Echoes moved extra extra
      (second.pass items remaining taken) := by
  have position : first.position + taken = second.position + taken + moved := by
    rw [echoes.position, Nat.add_right_comm]
  unfold Receiver.pass
  dsimp only
  split
  · exact {
      taken := rfl
      records := .nil extra
      events := by
        rw [position]
        exact .payloadComplete _ _ (.nil extra)
      receiver := { echoes.wait with position } }
  · exact {
      taken := rfl
      records := .nil extra
      events := .nil extra
      receiver := { echoes with phase := rfl, position } }

/-- Receivers that echo each other go on doing so with every pass. -/
theorem step (layout : Layout) (item : UInt8) (rest : List UInt8) :
    ∃ left, (first.step layout item rest).Echoes moved extra left
      (second.step layout item rest) := by
  unfold Receiver.step
  rw [echoes.phase]
  cases second.phase with
  | searching => exact ⟨extra, echoes.search item⟩
  | collecting => exact echoes.collect layout item
  | passing items remaining => exact ⟨extra, echoes.pass items remaining _⟩

end Receiver.Echoes

namespace Reception.Echoes

variable {moved extra between left : Nat} {first second : Reception}

theorem of_start {first second : Receiver} (echoes : first.Echoes moved extra second) :
    (start first).Echoes moved extra extra (start second) where
  consumed := rfl
  records := .nil extra
  events := .nil extra
  receiver := echoes

theorem add (echoes : first.Echoes moved extra between second) {firstStep secondStep : Step}
    (further : firstStep.Echoes moved between left secondStep) :
    (first.add firstStep).Echoes moved extra left (second.add secondStep) where
  consumed := by rw [consumed_add, consumed_add, echoes.consumed, further.taken]
  records := by
    rw [toList_records_add, toList_records_add]
    exact echoes.records.append further.records
  events := by
    rw [toList_events_add, toList_events_add]
    exact echoes.events.append further.events
  receiver := further.receiver

theorem drive (layout : Layout) (halting : Bool) (echoes : first.Echoes moved extra between second)
    (items : List UInt8) :
    ∃ left, (first.drive layout halting items).Echoes moved extra left
      (second.drive layout halting items) := by
  fun_induction Reception.drive layout halting second items generalizing first between
  case case1 second =>
      rw [drive_nil]
      exact ⟨between, echoes⟩
  case case2 second item rest step halts =>
      rcases echoes.receiver.step layout item rest with ⟨left, stepped⟩
      rw [drive_cons, stepped.records.isSome_eq, if_pos halts]
      exact ⟨left, echoes.add stepped⟩
  case case3 second item rest step goesOn induction =>
      rcases echoes.receiver.step layout item rest with ⟨left, stepped⟩
      rw [drive_cons, stepped.records.isSome_eq, if_neg goesOn, stepped.taken]
      exact induction (echoes.add stepped)

end Reception.Echoes

end PacketFraming
