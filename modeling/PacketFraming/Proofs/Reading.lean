import PacketFraming.Proofs.Chunking
import PacketFraming.Proofs.Frames

/-! What a reader of frames has made of the items that it was given.

Items that have been looked at are in the receiver and in the pending frame, the others in the
buffer. Both together are the items delivered, and what has been returned is the beginning of
the frames in them. -/

namespace PacketFraming

namespace PendingFrame

/-- A pending frame that has collected the payload of `header` as far as it is in `front`. -/
structure Awaits (front : List UInt8) (header : FoundHeader) (pending : PendingFrame) :
    Prop where
  metadata : pending.metadata = header.metadata
  offset : pending.offset = header.offset
  begun : header.offset ≤ front.length
  collected : pending.collected.reverse = front.drop header.offset
  remaining : front.length + pending.remaining = header.payloadEnd

def extend (pending : PendingFrame) (more : List UInt8) : PendingFrame :=
  { pending with
    collected := more.reverse ++ pending.collected
    remaining := pending.remaining - more.length }

theorem Awaits.extend {front : List UInt8} {header : FoundHeader} {pending : PendingFrame}
    (awaits : pending.Awaits front header) {more : List UInt8}
    (fits : more.length ≤ pending.remaining) :
    (pending.extend more).Awaits (front ++ more) header where
  metadata := awaits.metadata
  offset := awaits.offset
  begun := by
    rw [List.length_append]
    exact Nat.le_add_right_of_le awaits.begun
  collected := by
    rw [PendingFrame.extend, List.reverse_append, List.reverse_reverse, awaits.collected,
      List.drop_append_of_le_length awaits.begun]
  remaining := by
    have missing := awaits.remaining
    rw [PendingFrame.extend, List.length_append]
    dsimp only
    omega

theorem Awaits.collected_append {front : List UInt8} {header : FoundHeader}
    {pending : PendingFrame} (awaits : pending.Awaits front header) {more : List UInt8}
    (complete : (front ++ more).length = header.payloadEnd) :
    pending.collected.reverse ++ more =
      (front ++ more).extract header.offset header.payloadEnd := by
  rw [awaits.collected, ← complete, ← List.drop_eq_extract,
    List.drop_append_of_le_length awaits.begun]

end PendingFrame

namespace FrameReader

section Reading

variable (layout : Layout) (threshold : Nat) (origin : Receiver)

/-- A reader that has looked at the items of `front` and has returned the frames of
`returned`. -/
structure Knows (front : List UInt8) (returned : List ReceivedFrame) (reader : FrameReader) :
    Prop where
  layout_eq : reader.transceiver.layout = layout
  receiver_eq : reader.transceiver.receiver = (origin.receive layout front).receiver
  frames : match reader.pending with
    | none =>
        (∀ header ∈ headersOf layout threshold front, header.payloadEnd ≤ front.length) ∧
          returned = (headersOf layout threshold front).map (FoundHeader.frame layout front)
    | some pending =>
        ∃ done header, headersOf layout threshold front = done ++ [header] ∧
          returned = done.map (FoundHeader.frame layout front) ∧ pending.Awaits front header

/-- A reader to which `items` have been delivered, and which has returned the frames of
`returned`. -/
def Follows (items : List UInt8) (returned : List ReceivedFrame) (reader : FrameReader) :
    Prop :=
  ∃ front, items = front ++ reader.buffered ∧
    reader.Knows layout threshold origin front returned

/-- What a look at the buffered items leads to: another frame, or the certainty that there is
none. -/
def Looked (items : List UInt8) (returned : List ReceivedFrame) :
    Option ReceivedFrame × FrameReader → Prop
  | (some frame, reader) => reader.Follows layout threshold origin items (returned ++ [frame])
  | (none, reader) =>
      reader.Follows layout threshold origin items returned ∧
        returned = framesOf layout threshold items

end Reading

variable {layout : Layout} {threshold : Nat} {origin : Receiver}

theorem Knows.prefix_framesOf {front : List UInt8} {returned : List ReceivedFrame}
    {reader : FrameReader} (knows : reader.Knows layout threshold origin front returned) :
    returned <+: framesOf layout threshold front := by
  have frames := knows.frames
  cases pending : reader.pending with
  | none =>
      rw [pending] at frames
      rcases frames with ⟨arrived, rfl⟩
      have all := framesOf_of_arrived rfl arrived
      exact all ▸ List.prefix_refl _
  | some pending =>
      rw [pending] at frames
      rcases frames with ⟨done, header, parts, rfl, awaits⟩
      have first := filter_arrived (arrived_of_headersOf parts)
      rw [framesOf, parts, List.filter_append, first, List.map_append]
      exact List.prefix_append _ _

theorem Follows.prefix_framesOf {items : List UInt8} {returned : List ReceivedFrame}
    {reader : FrameReader} (follows : reader.Follows layout threshold origin items returned) :
    returned <+: framesOf layout threshold items := by
  rcases follows with ⟨front, rfl, knows⟩
  exact knows.prefix_framesOf.trans (framesOf_prefix_append layout threshold front _)

/-! ## A payload -/

theorem collect_of_arrived (reader : FrameReader) (pending : PendingFrame)
    (arrived : pending.remaining ≤ reader.buffered.length) :
    reader.collect pending =
      (some {
          metadata := pending.metadata
          payload := payloadOfItems reader.transceiver.layout
            (pending.collected.reverse ++ reader.buffered.take pending.remaining)
          offset := pending.offset },
        { reader with
          transceiver := reader.transceiver.after
            (reader.transceiver.receive (reader.buffered.take pending.remaining))
          buffered := reader.buffered.drop pending.remaining
          pending := none }) := by
  have zero : pending.remaining - min pending.remaining reader.buffered.length = 0 := by omega
  unfold collect
  dsimp only
  rw [if_pos zero, List.reverse_append, List.reverse_reverse, Nat.min_eq_left arrived]
  rfl

theorem collect_of_cut (reader : FrameReader) (pending : PendingFrame)
    (cut : reader.buffered.length < pending.remaining) :
    reader.collect pending =
      (none, { reader with
        transceiver := reader.transceiver.after (reader.transceiver.receive reader.buffered)
        buffered := []
        pending := some (pending.extend reader.buffered) }) := by
  have more : ¬pending.remaining - min pending.remaining reader.buffered.length = 0 := by omega
  unfold collect
  dsimp only
  rw [if_neg more, Nat.min_eq_right (Nat.le_of_lt cut), List.take_length, List.drop_length]
  rfl

theorem receiver_after_receive {front : List UInt8} {transceiver : Transceiver}
    (layout_eq : transceiver.layout = layout)
    (receiver_eq : transceiver.receiver = (origin.receive layout front).receiver)
    (items : List UInt8) :
    (transceiver.after (transceiver.receive items)).receiver =
      (origin.receive layout (front ++ items)).receiver := by
  rw [Receiver.receiver_receive_append, ← receiver_eq, ← layout_eq]
  rfl

theorem looked_collect (reader : FrameReader) (pending : PendingFrame) {front : List UInt8}
    {done : List FoundHeader} {header : FoundHeader}
    (layout_eq : reader.transceiver.layout = layout)
    (receiver_eq : reader.transceiver.receiver = (origin.receive layout front).receiver)
    (parts : headersOf layout threshold front = done ++ [header])
    (awaits : pending.Awaits front header) :
    Looked layout threshold origin (front ++ reader.buffered)
      (done.map (FoundHeader.frame layout front)) (reader.collect pending) := by
  have missing := awaits.remaining
  have earlier := arrived_of_headersOf parts
  by_cases arrived : pending.remaining ≤ reader.buffered.length
  · rw [collect_of_arrived reader pending arrived]
    have length : (reader.buffered.take pending.remaining).length = pending.remaining :=
      List.length_take_of_le arrived
    have still := headersOf_append_of_payload parts
      (reader.buffered.take pending.remaining) (by omega)
    have whole : (front ++ reader.buffered.take pending.remaining).length =
        header.payloadEnd := by
      rw [List.length_append, length, missing]
    refine ⟨front ++ reader.buffered.take pending.remaining, ?_, layout_eq,
      receiver_after_receive layout_eq receiver_eq _, ?_, ?_⟩
    · rw [List.append_assoc, List.take_append_drop]
    · rw [still]
      intro other member
      rw [whole]
      rcases List.mem_append.mp member with before | last
      · have inside := earlier other before
        omega
      · exact Nat.le_of_eq (congrArg FoundHeader.payloadEnd (List.mem_singleton.mp last))
    · rw [still, List.map_append, FoundHeader.map_frame_append layout _ earlier,
        awaits.collected_append whole, awaits.metadata, awaits.offset, layout_eq,
        payloadOfItems_eq]
      rfl
  · have cut := Nat.lt_of_not_le arrived
    rw [collect_of_cut reader pending cut]
    have still := headersOf_append_of_payload parts reader.buffered (by omega)
    have short : (front ++ reader.buffered).length < header.payloadEnd := by
      rw [List.length_append]
      omega
    refine ⟨⟨front ++ reader.buffered, (List.append_nil _).symm, layout_eq,
      receiver_after_receive layout_eq receiver_eq _, done, header, still, ?_,
      awaits.extend (Nat.le_of_lt cut)⟩, ?_⟩
    · rw [FoundHeader.map_frame_append layout _ earlier]
    · rw [framesOf_of_cut still short, FoundHeader.map_frame_append layout _ earlier]

/-! ## A header -/

def halted (reader : FrameReader) : FrameReader :=
  { reader with
    transceiver := reader.transceiver.after
      (reader.transceiver.receiveHeader reader.buffered).reception
    buffered := (reader.transceiver.receiveHeader reader.buffered).rest }

def opened (reader : FrameReader) (metadata : Metadata) : PendingFrame where
  metadata := metadata
  offset := reader.transceiver.receiver.position
  collected := []
  remaining := reader.transceiver.receiver.remaining

theorem advance_of_none {reader : FrameReader} (waiting : reader.pending = none) :
    reader.advance =
      match (reader.transceiver.receiveHeader reader.buffered).record with
      | none => (none, reader.halted)
      | some metadata => reader.halted.collect (reader.halted.opened metadata) := by
  unfold advance
  split
  · next some =>
      rw [waiting] at some
      exact absurd some.symm (Option.some_ne_none _)
  · rfl

theorem receiveHeader_nil (transceiver : Transceiver) :
    transceiver.receiveHeader [] = (Reception.start transceiver.receiver).halt [] :=
  congrArg (·.halt []) (Reception.drive_nil transceiver.layout true _)

theorem halted_of_nil {reader : FrameReader} (empty : reader.buffered = []) :
    reader.halted = reader := by
  have received := receiveHeader_nil reader.transceiver
  cases reader
  obtain rfl := empty
  rw [halted, received]
  rfl

theorem record_of_nil {reader : FrameReader} (empty : reader.buffered = []) :
    (reader.transceiver.receiveHeader reader.buffered).record = none := by
  rw [empty, receiveHeader_nil]
  rfl

theorem advance_of_empty {reader : FrameReader} (waiting : reader.pending = none)
    (empty : reader.buffered = []) : reader.advance = (none, reader) := by
  rw [advance_of_none waiting, record_of_nil empty, halted_of_nil empty]

/-- The first buffered item is the last one of a header. -/
theorem advance_of_header {reader : FrameReader} {item : UInt8} {rest : List UInt8} {step : Step}
    {metadata : Metadata} (waiting : reader.pending = none)
    (buffered : reader.buffered = item :: rest)
    (pass : reader.transceiver.receiver.step reader.transceiver.layout item rest = step)
    (found : step.record = some metadata) :
    reader.advance =
      { reader with
        transceiver := { reader.transceiver with receiver := step.receiver }
        buffered := (item :: rest).drop step.taken }.collect {
          metadata
          offset := step.receiver.position
          collected := []
          remaining := step.receiver.remaining } := by
  have halts : reader.transceiver.receiveHeader (item :: rest) =
      ((Reception.start reader.transceiver.receiver).add step).halt (item :: rest) := by
    have accepts : (true && step.record.isSome) = true := by rw [found]; rfl
    rw [Transceiver.receiveHeader, Receiver.receiveHeader, Reception.drive_cons,
      Reception.receiver_start, pass, if_pos accepts]
  have record : (reader.transceiver.receiveHeader reader.buffered).record = some metadata := by
    rw [buffered, halts, Reception.add, found]
    rfl
  have same : reader.halted = { reader with
      transceiver := { reader.transceiver with receiver := step.receiver }
      buffered := (item :: rest).drop step.taken } := by
    rw [halted, buffered, halts, Reception.halt, Reception.consumed_add, Reception.start,
      Nat.zero_add]
    rfl
  rw [advance_of_none waiting, record, same]
  rfl

theorem receiver_halted {reader : FrameReader} {front taken : List UInt8}
    (layout_eq : reader.transceiver.layout = layout)
    (receiver_eq : reader.transceiver.receiver = (origin.receive layout front).receiver)
    (reception : (reader.transceiver.receiver.receiveHeader reader.transceiver.layout
        reader.buffered).reception =
      reader.transceiver.receiver.receive reader.transceiver.layout taken) :
    reader.halted.transceiver.receiver =
      (origin.receive layout (front ++ taken)).receiver := by
  rw [Receiver.receiver_receive_append, ← receiver_eq, ← layout_eq, ← reception]
  rfl

theorem awaits_opened (fresh : origin.Fresh layout threshold) {reader : FrameReader}
    {front : List UInt8} {done : List FoundHeader} {header : FoundHeader} {metadata : Metadata}
    (receiver_eq : reader.transceiver.receiver = (origin.receive layout front).receiver)
    (parts : headersOf layout threshold front = done ++ [header])
    (reported : header.metadata = metadata) (place : header.offset = front.length) :
    (reader.opened metadata).Awaits front header where
  metadata := reported.symm
  offset := by
    rw [opened, receiver_eq, fresh.position_eq_length, place]
  begun := Nat.le_of_eq place
  collected := by
    rw [place, List.drop_length]
    rfl
  remaining := by
    rw [opened, receiver_eq, fresh.remaining_eq_scan]
    exact length_add_remaining parts place

theorem looked_advance_of_silent (fresh : origin.Fresh layout threshold) {reader : FrameReader}
    {front : List UInt8} (waiting : reader.pending = none)
    (layout_eq : reader.transceiver.layout = layout)
    (receiver_eq : reader.halted.transceiver.receiver =
      (origin.receive layout (front ++ reader.buffered)).receiver)
    (arrived : ∀ header ∈ headersOf layout threshold front, header.payloadEnd ≤ front.length)
    (silent : ((origin.receive layout front).receiver.receive layout reader.buffered).records =
      #[])
    (record : (reader.transceiver.receiveHeader reader.buffered).record = none)
    (rest : (reader.transceiver.receiveHeader reader.buffered).rest = []) :
    Looked layout threshold origin (front ++ reader.buffered)
      ((headersOf layout threshold front).map (FoundHeader.frame layout front))
      reader.advance := by
  have same := fresh.headersOf_append_of_silent silent
  have still : ∀ header ∈ headersOf layout threshold front,
      header.payloadEnd ≤ (front ++ reader.buffered).length := by
    intro header member
    rw [List.length_append]
    exact Nat.le_add_right_of_le (arrived header member)
  rw [advance_of_none waiting, record]
  refine ⟨⟨front ++ reader.buffered, ?_, layout_eq, receiver_eq, ?_⟩, ?_⟩
  · rw [show reader.halted.buffered = [] from rest, List.append_nil]
  · rw [show reader.halted.pending = none from waiting]
    rw [same]
    exact ⟨still, (FoundHeader.map_frame_append _ _ arrived).symm⟩
  · rw [framesOf_of_arrived same still, FoundHeader.map_frame_append _ _ arrived]

theorem looked_advance (fresh : origin.Fresh layout threshold) {reader : FrameReader}
    {items : List UInt8} {returned : List ReceivedFrame}
    (follows : reader.Follows layout threshold origin items returned) :
    Looked layout threshold origin items returned reader.advance := by
  rcases follows with ⟨front, rfl, layout_eq, receiver_eq, frames⟩
  subst layout_eq
  cases waiting : reader.pending with
  | some pending =>
      rw [waiting] at frames
      rcases frames with ⟨done, header, parts, rfl, awaits⟩
      rw [advance, waiting]
      exact looked_collect reader pending rfl receiver_eq parts awaits
  | none =>
      rw [waiting] at frames
      rcases frames with ⟨arrived, rfl⟩
      -- Without a header all items are looked at; with one, what is behind it stays buffered.
      rcases Receiver.receiveHeader_cases reader.transceiver.layout reader.transceiver.receiver
          reader.buffered with
        ⟨silent, reception, record, rest⟩ |
        ⟨before, item, behind, metadata, parts, silent, found, reception, record, rest⟩
      · have received := receiver_halted rfl receiver_eq reception
        rw [receiver_eq] at silent
        exact looked_advance_of_silent fresh waiting rfl received arrived silent record rest
      · have received := receiver_halted rfl receiver_eq reception
        rw [receiver_eq] at silent found
        rcases fresh.headersOf_append_of_record silent found with
          ⟨header, whole, reported, place⟩
        have awaits := awaits_opened fresh received whole reported place
        have outcome := looked_collect reader.halted _ rfl received whole awaits
        have rejoined : front ++ (before ++ [item]) ++ reader.halted.buffered =
            front ++ reader.buffered := by
          rw [show reader.halted.buffered = behind from rest, parts]
          simp
        rw [rejoined, FoundHeader.map_frame_append _ _ arrived] at outcome
        rw [advance_of_none waiting,
          show (reader.transceiver.receiveHeader reader.buffered).record = some metadata
            from record]
        exact outcome

end FrameReader

end PacketFraming
