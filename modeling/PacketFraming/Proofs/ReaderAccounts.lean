import PacketFraming.Proofs.Session

/-! The accounts of a reader of frames.

A payload is counted down twice, by the receiver that lets it pass and by the reader that collects
it. Between calls the two agree: a frame is pending while a payload passes, it lacks what the
receiver still expects, and nothing is buffered that could be added to it. -/

namespace PacketFraming

def Layout.itemsPerByte (layout : Layout) : Nat :=
  if layout.carriesUnits then 1 else 8

theorem Receiver.exists_passing {receiver : Receiver} (some : 0 < receiver.remaining) :
    ∃ items remaining, receiver.phase = .passing items remaining := by
  unfold remaining at some
  split at some
  · next items remaining passing => exact ⟨items, remaining, passing⟩
  · cases some

namespace FrameReader

theorem length_itemsOfBytes (layout : Layout) (bytes : List UInt8) :
    (itemsOfBytes layout bytes).length = layout.itemsPerByte * bytes.length := by
  unfold itemsOfBytes Layout.itemsPerByte
  split
  · exact (Nat.one_mul bytes.length).symm
  · exact length_unpackBits bytes

/-! ## The loop over the buffered items -/

inductive Turn
  | ends (outcome : Option ReceivedFrame × FrameReader)
  | goesOn (reader : FrameReader)

/-- One turn of the loop: a pending frame is given what there is for it. Without one the items are
received up to a header, whose frame is pending in the next turn. -/
def turn (reader : FrameReader) : Turn :=
  match reader.pending with
  | some pending => .ends (reader.collect pending)
  | none =>
      if reader.buffered = [] then .ends (none, reader)
      else
        match (reader.transceiver.receiveHeader reader.buffered).record with
        | none => .ends (none, reader.halted)
        | some metadata =>
            .goesOn { reader.halted with pending := some (reader.halted.opened metadata) }

/-- The loop ends, after one turn or more. -/
inductive Loops : FrameReader → Option ReceivedFrame × FrameReader → Prop
  | last {reader : FrameReader} {outcome : Option ReceivedFrame × FrameReader}
      (ends : reader.turn = .ends outcome) : Loops reader outcome
  | further {reader later : FrameReader} {outcome : Option ReceivedFrame × FrameReader}
      (goesOn : reader.turn = .goesOn later) (loops : Loops later outcome) : Loops reader outcome

theorem length_buffered_of_goesOn {reader later : FrameReader}
    (goesOn : reader.turn = .goesOn later) : later.buffered.length < reader.buffered.length := by
  unfold turn at goesOn
  split at goesOn
  · cases goesOn
  · split at goesOn
    · cases goesOn
    · next nonempty =>
      split at goesOn
      · cases goesOn
      · obtain rfl := Turn.goesOn.inj goesOn
        exact Receiver.length_rest_receiveHeader _ _ nonempty

/-- Looking at the buffered items is this loop, and so the loop ends whatever the reader. -/
theorem loops_advance (reader : FrameReader) : reader.Loops reader.advance := by
  cases waiting : reader.pending with
  | some pending =>
      apply Loops.last
      rw [turn, advance, waiting]
  | none =>
      rw [advance_of_none waiting]
      by_cases empty : reader.buffered = []
      · apply Loops.last
        rw [record_of_nil empty, halted_of_nil empty, turn, waiting]
        exact if_pos empty
      · cases found : (reader.transceiver.receiveHeader reader.buffered).record with
        | none =>
            apply Loops.last
            rw [turn, waiting, found]
            exact if_neg empty
        | some metadata =>
            have goesOn : reader.turn = .goesOn { reader.halted with
                pending := some (reader.halted.opened metadata) } := by
              rw [turn, waiting, found]
              exact if_neg empty
            exact .further goesOn (.last rfl)

/-! ## A reader between calls -/

/-- A frame is left pending only where items are missing and none are buffered. -/
def Rested (reader : FrameReader) : Prop :=
  ∀ pending, reader.pending = some pending → 0 < pending.remaining ∧ reader.buffered = []

theorem rested_collect (reader : FrameReader) (pending : PendingFrame) :
    (reader.collect pending).2.Rested := by
  by_cases arrived : pending.remaining ≤ reader.buffered.length
  · rw [collect_of_arrived reader pending arrived]
    intro left same
    cases same
  · have cut := Nat.lt_of_not_le arrived
    rw [collect_of_cut reader pending cut]
    intro left same
    obtain rfl := Option.some.inj same
    exact ⟨Nat.sub_pos_of_lt cut, rfl⟩

theorem rested_of_advance {reader next : FrameReader} {outcome : Option ReceivedFrame}
    (advanced : reader.advance = (outcome, next)) : next.Rested := by
  obtain rfl := congrArg Prod.snd advanced
  cases waiting : reader.pending with
  | some pending =>
      rw [advance, waiting]
      exact rested_collect reader pending
  | none =>
      rw [advance_of_none waiting]
      cases (reader.transceiver.receiveHeader reader.buffered).record with
      | none =>
          intro left same
          exact absurd (waiting.symm.trans same) (Option.some_ne_none left).symm
      | some metadata => exact rested_collect reader.halted _

theorem buffered_of_collect_none {reader next : FrameReader} {pending : PendingFrame}
    (collected : reader.collect pending = (none, next)) : next.buffered = [] := by
  by_cases arrived : pending.remaining ≤ reader.buffered.length
  · rw [collect_of_arrived reader pending arrived] at collected
    cases collected
  · rw [collect_of_cut reader pending (Nat.lt_of_not_le arrived)] at collected
    exact (congrArg (·.2.buffered) collected).symm

theorem buffered_of_advance_none {reader next : FrameReader}
    (advanced : reader.advance = (none, next)) : next.buffered = [] := by
  cases waiting : reader.pending with
  | some pending =>
      rw [advance, waiting] at advanced
      exact buffered_of_collect_none advanced
  | none =>
      rw [advance_of_none waiting] at advanced
      cases found : (reader.transceiver.receiveHeader reader.buffered).record with
      | none =>
          rw [found] at advanced
          obtain rfl := (Prod.mk.inj advanced).2
          rcases Receiver.receiveHeader_cases reader.transceiver.layout
              reader.transceiver.receiver reader.buffered with
            ⟨-, -, -, rest⟩ | ⟨-, -, -, metadata, -, -, -, -, record, -⟩
          · exact rest
          · exact absurd (found.symm.trans record) (Option.some_ne_none metadata).symm
      | some metadata =>
          rw [found] at advanced
          exact buffered_of_collect_none advanced

theorem rested_readFrame (reader : FrameReader) : reader.readFrame.2.Rested := by
  fun_induction readFrame reader with
  | case1 reader frame next advanced => exact rested_of_advance advanced
  | case2 reader waiting advanced cause source answer =>
      have rested := rested_of_advance advanced
      exact rested
  | case3 reader waiting advanced source answer =>
      have rested := rested_of_advance advanced
      exact rested
  | case4 reader waiting none byte rest source delivery induction => exact induction

theorem Rested.advance_of_nil {reader : FrameReader} (rested : reader.Rested)
    (empty : reader.buffered = []) : reader.advance = (none, reader) := by
  cases waiting : reader.pending with
  | some pending =>
      have cut : reader.buffered.length < pending.remaining := by
        rw [empty]
        exact (rested pending waiting).1
      rw [advance, waiting]
      change reader.collect pending = _
      rw [collect_of_cut reader pending cut]
      cases reader
      obtain rfl := empty
      obtain rfl := waiting
      rw [Transceiver.receive, Receiver.receive_nil]
      rfl
  | none => exact advance_of_empty waiting empty

theorem Asks.buffered_eq_nil {reader waiting : FrameReader} (asks : reader.Asks waiting) :
    waiting.buffered = [] := by
  induction asks with
  | first none => exact buffered_of_advance_none none
  | again none delivery later induction => exact induction

theorem Rested.readFrame_of_stops {reader : FrameReader} (rested : reader.Rested)
    (empty : reader.buffered = []) {cause : StreamError} {source : Source}
    (stops : reader.Stops cause source) :
    reader.readFrame = (.error cause, { reader with source }) :=
  FrameReader.readFrame_of_stops (rested.advance_of_nil empty) stops

/-! ## The two countdowns -/

variable {layout : Layout} {threshold : Nat} {origin : Receiver} {front : List UInt8}
  {returned : List ReceivedFrame} {reader : FrameReader}

theorem Knows.remaining_eq (fresh : origin.Fresh layout threshold)
    (knows : reader.Knows layout threshold origin front returned) (rested : reader.Rested)
    {pending : PendingFrame} (waiting : reader.pending = some pending) :
    pending.remaining = reader.transceiver.receiver.remaining := by
  have frames := knows.frames
  rw [waiting] at frames
  rcases frames with ⟨done, header, found, -, awaits⟩
  have missing := awaits.remaining
  have some := (rested pending waiting).1
  rw [knows.receiver_eq, fresh.remaining_eq_scan]
  rcases Scan.remaining_cases layout threshold front 0 0 with
    ⟨-, arrived⟩ | ⟨before, last, parts, -, rest⟩
  · have complete := arrived header
      (by rw [← headersOf, found]; exact List.mem_append_right _ (List.mem_singleton_self header))
    omega
  · rw [← headersOf, found] at parts
    obtain rfl := List.singleton_inj.mp (List.append_inj' parts rfl).2
    omega

theorem Knows.collected_eq (fresh : origin.Fresh layout threshold)
    (knows : reader.Knows layout threshold origin front returned)
    {pending : PendingFrame} (waiting : reader.pending = some pending) :
    pending.offset + pending.collected.length = reader.transceiver.receiver.position := by
  have frames := knows.frames
  rw [waiting] at frames
  rcases frames with ⟨done, header, -, -, awaits⟩
  have begun := awaits.begun
  have collected := congrArg List.length awaits.collected
  rw [List.length_reverse, List.length_drop] at collected
  rw [knows.receiver_eq, fresh.position_eq_length, awaits.offset]
  omega

theorem Knows.outside_of_none (fresh : origin.Fresh layout threshold)
    (knows : reader.Knows layout threshold origin front returned)
    (waiting : reader.pending = none) (items remaining : Nat) :
    reader.transceiver.receiver.phase ≠ .passing items remaining := by
  have frames := knows.frames
  rw [waiting] at frames
  intro passing
  have left : reader.transceiver.receiver.remaining = remaining := by
    rw [Receiver.remaining, passing]
  rw [knows.receiver_eq] at passing left
  rw [fresh.remaining_eq_scan] at left
  rw [fresh.phase_eq_scan] at passing
  have some := Scan.remaining_pos_of_passing passing
  rcases Scan.remaining_cases layout threshold front 0 0 with
    ⟨none, -⟩ | ⟨before, last, parts, cut, -⟩
  · omega
  · have complete := frames.1 last
      (by rw [headersOf, parts]; exact List.mem_append_right _ (List.mem_singleton_self last))
    omega

end FrameReader

namespace Session

/-- The accounts of a session between two calls. -/
structure Booked (session : Session) : Prop where
  /-- The source has delivered the first bytes that it was given, and holds the others. -/
  accounted : session.supplied = session.delivered ++ session.reader.source.bytes
  /-- Every item delivered is in the receiver or in the buffer. -/
  balanced : session.reader.transceiver.receiver.position + session.reader.buffered.length =
    session.reader.transceiver.layout.itemsPerByte * session.delivered.length
  /-- A frame is pending while a payload passes. -/
  pending_iff : session.reader.pending.isSome ↔
    ∃ items remaining, session.reader.transceiver.receiver.phase = .passing items remaining
  /-- Both count the same payload down, and nothing of it is buffered. -/
  pending : ∀ pending, session.reader.pending = some pending →
    pending.remaining = session.reader.transceiver.receiver.remaining ∧
      0 < session.reader.transceiver.receiver.remaining ∧
      pending.offset + pending.collected.length = session.reader.transceiver.receiver.position ∧
      session.reader.buffered = []

variable {transceiver : Transceiver} {threshold : Nat} {session : Session}

theorem rested_call (rested : session.reader.Rested) (call : Call) :
    (session.call call).2.reader.Rested := by
  cases call with
  | readFrame => exact session.reader.rested_readFrame
  | next =>
      cases read : session.reader.next with
      | mk outcome next =>
          rcases Answer.reports_of_next read with ⟨result, same, -⟩
          have after := session.reader.rested_readFrame
          rw [same] at after
          rw [Session.call, read]
          exact after
  | supply bytes => exact rested

theorem rested_run (rested : session.reader.Rested) (calls : List Call) :
    (session.run calls).reader.Rested := by
  induction calls generalizing session with
  | nil => exact rested
  | cons call rest induction => exact induction (rested_call rested call)

theorem booked_of_sound (fresh : transceiver.receiver.Fresh transceiver.layout threshold)
    (sound : session.Sound transceiver threshold) (rested : session.reader.Rested) :
    session.Booked := by
  rcases sound with ⟨delivered, parts, follows⟩
  have layout_eq := follows.layout_eq
  have same := delivered_eq parts
  rcases follows with ⟨front, items, knows⟩
  have lacking {pending : PendingFrame} (waiting : session.reader.pending = some pending) :
      0 < session.reader.transceiver.receiver.remaining := by
    rw [← knows.remaining_eq fresh rested waiting]
    exact (rested pending waiting).1
  refine {
    accounted := same.symm ▸ parts
    balanced := ?_
    pending_iff := ⟨?_, ?_⟩
    pending := ?_ }
  · rw [knows.receiver_eq, fresh.position_eq_length, ← List.length_append, ← items,
      FrameReader.length_itemsOfBytes, same, layout_eq]
  · intro present
    obtain ⟨pending, waiting⟩ := Option.isSome_iff_exists.mp present
    exact Receiver.exists_passing (lacking waiting)
  · rintro ⟨items, remaining, passing⟩
    cases waiting : session.reader.pending with
    | none => exact absurd passing (knows.outside_of_none fresh waiting items remaining)
    | some pending => rfl
  · intro pending waiting
    exact ⟨knows.remaining_eq fresh rested waiting, lacking waiting,
      knows.collected_eq fresh waiting, (rested pending waiting).2⟩

/-- Between calls the accounts of a reader agree, whatever its source delivers. A call stops with
everything as it was when the source was asked, and where nothing is buffered that is as it was
before. Looking at buffered items is a loop that ends on every reader, since each turn that finds a
header uses up items. -/
theorem accounts_agree {transceiver : Transceiver} {threshold : Nat}
    (unused : (Receiver.ofCode transceiver.layout.accessCode).setThreshold threshold =
      .ok transceiver.receiver)
    (source : Source) (options : ReadingOptions) (calls : List Call) :
    let session := (start source transceiver options).run calls
    session.Booked ∧
      (∀ call cause, (session.call call).1.cause? = some cause →
        (session.call call).2.reader.buffered = [] ∧
          ∃ waiting source, session.Asks call waiting ∧ waiting.Stops cause source ∧
            (session.call call).2.reader = { waiting with source }) ∧
      (session.reader.buffered = [] → ∀ cause source, session.reader.Stops cause source →
        session.reader.readFrame = (.error cause, { session.reader with source })) ∧
      (∀ reader : FrameReader, reader.Loops reader.advance) ∧
      ∀ reader later : FrameReader, reader.turn = .goesOn later →
        later.buffered.length < reader.buffered.length := by
  intro session
  have fresh := Receiver.fresh_of_setThreshold transceiver.layout unused
  have sound := sound_run fresh (sound_start fresh source options) calls
  have begun : (start source transceiver options).reader.Rested := by
    intro pending waiting
    cases waiting
  have rested := rested_run begun calls
  refine ⟨booked_of_sound fresh sound rested, ?_, fun empty _ _ => rested.readFrame_of_stops empty,
    FrameReader.loops_advance, fun _ _ => FrameReader.length_buffered_of_goesOn⟩
  intro call cause stopped
  obtain ⟨waiting, last, asks, stops, same⟩ := (sound_call fresh sound call).2.stopped cause stopped
  refine ⟨?_, waiting, last, asks, stops, same⟩
  rw [same]
  cases call with
  | readFrame | next => exact asks.buffered_eq_nil
  | supply bytes => exact asks.elim

/-- A source that fails in the middle of a payload, ends there, and is given more bytes after
that. -/
theorem accounts_agree_mid_payload :
    let transceiver : Transceiver := {
      encoder := .ofLayout .singleUnit
      receiver := .ofCode .empty }
    let session := (start { bytes := [2, 7], script := [.deliver 2, .fail (.ofKind .timedOut)] }
      transceiver {}).run [.readFrame, .next, .supply [8]]
    (Receiver.ofCode transceiver.layout.accessCode).setThreshold 0 = .ok transceiver.receiver ∧
      session.Booked ∧ session.reader.Loops session.reader.advance ∧
      (∃ pending, session.reader.pending = some pending ∧ pending.offset = 1 ∧
        pending.collected = [7] ∧ pending.remaining = 1) ∧
      session.reader.transceiver.receiver.remaining = 1 ∧
      session.reader.transceiver.receiver.position = 2 := by
  intro transceiver session
  have unused : (Receiver.ofCode transceiver.layout.accessCode).setThreshold 0 =
      .ok transceiver.receiver := rfl
  have agree := accounts_agree unused
    { bytes := [2, 7], script := [.deliver 2, .fail (.ofKind .timedOut)] } {}
    [.readFrame, .next, .supply [8]]
  let begun := start { bytes := [2, 7], script := [.deliver 2, .fail (.ofKind .timedOut)] }
    transceiver {}
  rcases exists_midway [] with ⟨receiver, timedOut⟩
  have rested : (midway receiver []).Rested := by
    have rested := begun.reader.rested_readFrame
    rw [timedOut] at rested
    exact rested
  have closed : (midway receiver []).readFrame = (.error .closed, midway receiver []) :=
    rested.readFrame_of_stops rfl (.ended rfl)
  have failed : (begun.call .readFrame).2.reader = midway receiver [] := by
    rw [call, timedOut]
    rfl
  have ended : ((begun.call .readFrame).2.call .next).2.reader = midway receiver [] := by
    change (begun.call .readFrame).2.reader.next.2 = _
    rw [FrameReader.next, failed, closed]
  have reader : session.reader = midway receiver [8] :=
    congrArg (fun reader => { reader with source := reader.source.extend [8] }) ended
  have pending : session.reader.pending = some
      { metadata := twoUnits.metadata, offset := 1, collected := [7], remaining := 1 } :=
    congrArg FrameReader.pending reader
  have counted := agree.1.pending _ pending
  exact ⟨unused, agree.1, agree.2.2.2.1 session.reader, ⟨_, pending, rfl, rfl, rfl⟩,
    counted.1.symm, counted.2.2.1.symm⟩

end Session

end PacketFraming
