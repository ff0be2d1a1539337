import PacketFraming.Proofs.SourceReading

/-! Sessions: calls to a reader in any order, and bytes that its source is given between them.

A session keeps account of what its source has been given and of the frames that its calls have
returned. The source may deliver little or nothing, be interrupted or fail: the frames returned
are always the first ones of those in the bytes that it has delivered. -/

namespace PacketFraming

inductive Call
  | readFrame
  | next
  | supply (bytes : List UInt8)

def Call.supplied : Call → List UInt8
  | .supply bytes => bytes
  | _ => []

inductive Answer
  | frame (frame : ReceivedFrame)
  | failed (cause : StreamError)
  /-- The iterator has no further frame. -/
  | ended
  | supplied
deriving DecidableEq, Repr

namespace Answer

def frames : Answer → List ReceivedFrame
  | .frame received => [received]
  | _ => []

def ofResult : Except StreamError ReceivedFrame → Answer
  | .ok received => .frame received
  | .error cause => .failed cause

def ofNext : Option (Except StreamError ReceivedFrame) → Answer
  | some result => .ofResult result
  | none => .ended

/-- Why the call stopped; a stream that has ended is closed. -/
def cause? : Answer → Option StreamError
  | .failed cause => some cause
  | .ended => some .closed
  | _ => none

def Reports (answer : Answer) : Except StreamError ReceivedFrame → Prop
  | .ok received => answer = .frame received
  | .error cause => answer.frames = [] ∧ answer.cause? = some cause

theorem cause?_of_reports {answer : Answer} {result : Except StreamError ReceivedFrame}
    (reports : answer.Reports result) : answer.cause? = FrameReader.failure? result := by
  cases result with
  | ok received =>
      obtain rfl := reports
      rfl
  | error cause => exact reports.2

theorem reports_ofResult (result : Except StreamError ReceivedFrame) :
    (ofResult result).Reports result := by
  cases result with
  | ok received => rfl
  | error cause => exact ⟨rfl, rfl⟩

theorem reports_of_next {reader next : FrameReader}
    {outcome : Option (Except StreamError ReceivedFrame)}
    (read : reader.next = (outcome, next)) :
    ∃ result, reader.readFrame = (result, next) ∧ (ofNext outcome).Reports result := by
  unfold FrameReader.next at read
  split at read
  · next closed =>
      obtain ⟨rfl, rfl⟩ := Prod.mk.inj read
      exact ⟨_, closed, rfl, rfl⟩
  · next result reader' notClosed answered =>
      obtain ⟨rfl, rfl⟩ := Prod.mk.inj read
      exact ⟨_, answered, reports_ofResult _⟩

end Answer

structure Session where
  reader : FrameReader
  supplied : List UInt8
  returned : List ReceivedFrame

namespace Session

def start (source : Source) (transceiver : Transceiver) (options : ReadingOptions) : Session where
  reader := .ofSource source transceiver options
  supplied := source.bytes
  returned := []

def record (session : Session) (answer : Answer) (reader : FrameReader) : Answer × Session :=
  (answer, { session with reader, returned := session.returned ++ answer.frames })

def call (session : Session) : Call → Answer × Session
  | .readFrame =>
      let (result, reader) := session.reader.readFrame
      session.record (.ofResult result) reader
  | .next =>
      let (result, reader) := session.reader.next
      session.record (.ofNext result) reader
  | .supply bytes =>
      (.supplied, { session with
        reader := { session.reader with source := session.reader.source.extend bytes }
        supplied := session.supplied ++ bytes })

def run (session : Session) (calls : List Call) : Session :=
  calls.foldl (fun session call => (session.call call).2) session

/-- The bytes that are no longer with the source. -/
def delivered (session : Session) : List UInt8 :=
  session.supplied.take (session.supplied.length - session.reader.source.bytes.length)

def items (session : Session) : List UInt8 :=
  session.reader.transceiver.layout.itemsIn session.delivered

/-- The source is asked during a call, when the reader has become `waiting`. -/
def Asks (session : Session) : Call → FrameReader → Prop
  | .supply _, _ => False
  | _, waiting => session.reader.Asks waiting

/-- What a call answers and does to a session with a new transceiver that tolerates
`threshold` wrong bits in an access code. -/
structure Faithful (transceiver : Transceiver) (threshold : Nat) (before : Session) (call : Call)
    (answer : Answer) (after : Session) : Prop where
  /-- No byte is lost. -/
  accounted : after.supplied = after.delivered ++ after.reader.source.bytes
  layout_eq : after.reader.transceiver.layout = transceiver.layout
  returned_eq : after.returned = before.returned ++ answer.frames
  /-- The headers are those that are found in one piece. -/
  headers : (headersOf transceiver.layout threshold after.items).map FoundHeader.metadata =
    (transceiver.receive after.items).records.toList
  /-- Frames come in order, none twice. -/
  first : after.returned <+: framesOf transceiver.layout threshold after.items
  /-- A call stops only when there is no further frame. -/
  all : answer.cause?.isSome →
    after.returned = framesOf transceiver.layout threshold after.items
  /-- The source is asked by these readers, one after the other, and by no others. -/
  polled : ∃ polls, FrameReader.Polled (before.reader.source.extend call.supplied) polls
      answer.cause? after.reader.source ∧
    ∀ waiting, waiting ∈ polls ↔ before.Asks call waiting
  /-- The source is asked only when there is no further frame. -/
  asked : ∀ waiting, before.Asks call waiting →
    before.returned = framesOf transceiver.layout threshold
      { before with reader := waiting }.items
  /-- A call stops only where the source has failed or has delivered nothing. -/
  stopped : ∀ cause, answer.cause? = some cause →
    ∃ waiting source, before.Asks call waiting ∧ waiting.Stops cause source ∧
      after.reader = { waiting with source }

/-! ## One call -/

def Sound (transceiver : Transceiver) (threshold : Nat) (session : Session) : Prop :=
  session.reader.Serves transceiver.layout threshold transceiver.receiver session.supplied
    session.returned

variable {transceiver : Transceiver} {threshold : Nat} {before : Session}

theorem delivered_eq {session : Session} {delivered : List UInt8}
    (parts : session.supplied = delivered ++ session.reader.source.bytes) :
    session.delivered = delivered := by
  rw [Session.delivered, parts, List.length_append, Nat.add_sub_cancel]
  exact List.take_left

theorem items_eq {session : Session} {delivered : List UInt8} {returned : List ReceivedFrame}
    (parts : session.supplied = delivered ++ session.reader.source.bytes)
    (follows : session.reader.Follows transceiver.layout threshold transceiver.receiver
      (FrameReader.itemsOfBytes transceiver.layout delivered) returned) :
    session.items = FrameReader.itemsOfBytes transceiver.layout delivered := by
  rw [items, delivered_eq parts, follows.layout_eq, FrameReader.itemsOfBytes_eq]

theorem returned_of_spent (session : Session) {returned : List ReceivedFrame}
    (spent : session.reader.Spent transceiver.layout threshold transceiver.receiver
      session.supplied returned) :
    returned = framesOf transceiver.layout threshold session.items := by
  rcases spent with ⟨delivered, parts, follows, all⟩
  rw [items_eq parts follows]
  exact all

theorem sound_start (fresh : transceiver.receiver.Fresh transceiver.layout threshold)
    (source : Source) (options : ReadingOptions) :
    (start source transceiver options).Sound transceiver threshold := by
  have none : headersOf transceiver.layout threshold [] = [] := by
    have records := fresh.records_eq_scan []
    rw [Receiver.receive_nil] at records
    exact List.map_eq_nil_iff.mp records.symm
  refine ⟨[], rfl, [], ?_, rfl, ?_, ?_⟩
  · rw [FrameReader.itemsOfBytes_nil]
    rfl
  · rw [Receiver.receive_nil]
    rfl
  · change _ ∧ _
    rw [none]
    exact ⟨by simp, rfl⟩

theorem faithful_of_sound (fresh : transceiver.receiver.Fresh transceiver.layout threshold)
    {call : Call} {answer : Answer} {after : Session}
    (sound : after.Sound transceiver threshold)
    (returned_eq : after.returned = before.returned ++ answer.frames)
    (all : answer.cause?.isSome →
      after.returned = framesOf transceiver.layout threshold after.items)
    (polled : ∃ polls, FrameReader.Polled (before.reader.source.extend call.supplied) polls
        answer.cause? after.reader.source ∧
      ∀ waiting, waiting ∈ polls ↔ before.Asks call waiting)
    (asked : ∀ waiting, before.Asks call waiting →
      waiting.Spent transceiver.layout threshold transceiver.receiver before.supplied
        before.returned)
    (stopped : ∀ cause, answer.cause? = some cause →
      ∃ waiting source, before.Asks call waiting ∧ waiting.Stops cause source ∧
        after.reader = { waiting with source }) :
    Faithful transceiver threshold before call answer after := by
  rcases sound with ⟨delivered, parts, follows⟩
  refine {
    accounted := ?_
    layout_eq := follows.layout_eq
    returned_eq := returned_eq
    headers := (fresh.records_eq_scan after.items).symm
    first := ?_
    all := all
    polled := polled
    asked := ?_
    stopped := stopped }
  · rw [delivered_eq parts]
    exact parts
  · rw [items_eq parts follows]
    exact follows.prefix_framesOf
  · intro waiting asks
    exact returned_of_spent { before with reader := waiting } (asked waiting asks)

theorem sound_read (fresh : transceiver.receiver.Fresh transceiver.layout threshold)
    (sound : before.Sound transceiver threshold) {call : Call} {answer : Answer}
    {result : Except StreamError ReceivedFrame} {next : FrameReader}
    (asks : before.Asks call = before.reader.Asks) (nothing : call.supplied = [])
    (read : before.reader.readFrame = (result, next)) (reports : answer.Reports result) :
    (before.record answer next).2.Sound transceiver threshold ∧
      Faithful transceiver threshold before call answer (before.record answer next).2 := by
  have asked : ∀ waiting, before.Asks call waiting →
      waiting.Spent transceiver.layout threshold transceiver.receiver before.supplied
        before.returned := by
    intro waiting asking
    rw [asks] at asking
    exact asking.spent fresh sound
  have polled : ∃ polls, FrameReader.Polled (before.reader.source.extend call.supplied) polls
      answer.cause? next.source ∧ ∀ waiting, waiting ∈ polls ↔ before.Asks call waiting := by
    have polled := before.reader.polled_readFrame
    rw [read, ← Answer.cause?_of_reports reports, ← asks] at polled
    rw [nothing, Source.extend_nil]
    exact polled
  cases result with
  | ok frame =>
      obtain rfl := reports
      have soundAfter := FrameReader.Serves.readFrame_of_ok fresh sound read
      refine ⟨soundAfter, faithful_of_sound fresh soundAfter rfl ?_ polled asked ?_⟩
      · intro stops
        exact absurd stops (by simp [Answer.cause?])
      · intro cause stops
        exact absurd stops (by simp [Answer.cause?])
  | error cause =>
      rcases reports with ⟨none, failed⟩
      have same : (before.record answer next).2 = { before with reader := next } := by
        rw [record, none, List.append_nil]
      have spent := FrameReader.Serves.readFrame_of_error fresh sound read
      have soundAfter : (before.record answer next).2.Sound transceiver threshold := by
        rw [same]
        exact spent.serves
      refine ⟨soundAfter, faithful_of_sound fresh soundAfter rfl ?_ polled asked ?_⟩
      · intro _
        rw [same]
        exact returned_of_spent { before with reader := next } spent
      · intro other stops
        obtain rfl := Option.some.inj (failed.symm.trans stops)
        rw [asks]
        exact FrameReader.stops_of_readFrame read

theorem sound_supply (fresh : transceiver.receiver.Fresh transceiver.layout threshold)
    (sound : before.Sound transceiver threshold) (bytes : List UInt8) :
    (before.call (.supply bytes)).2.Sound transceiver threshold ∧
      Faithful transceiver threshold before (.supply bytes) .supplied
        (before.call (.supply bytes)).2 := by
  have soundAfter : (before.call (.supply bytes)).2.Sound transceiver threshold := by
    rcases sound with ⟨delivered, parts, front, items, knows⟩
    refine ⟨delivered, ?_, front, items, ?_⟩
    · change before.supplied ++ bytes = delivered ++ (before.reader.source.bytes ++ bytes)
      rw [parts, List.append_assoc]
    · exact { knows with }
  refine ⟨soundAfter, faithful_of_sound fresh soundAfter ?_ ?_ ?_ ?_ ?_⟩
  · exact (List.append_nil _).symm
  · intro stops
    exact absurd stops (by simp [Answer.cause?])
  · refine ⟨[], .none _, fun waiting => ?_⟩
    exact iff_of_false List.not_mem_nil id
  · intro waiting asks
    exact asks.elim
  · intro cause stops
    exact absurd stops (by simp [Answer.cause?])

theorem sound_call (fresh : transceiver.receiver.Fresh transceiver.layout threshold)
    (sound : before.Sound transceiver threshold) (call : Call) :
    (before.call call).2.Sound transceiver threshold ∧
      Faithful transceiver threshold before call (before.call call).1 (before.call call).2 := by
  cases call with
  | readFrame =>
      cases read : before.reader.readFrame with
      | mk result next =>
          rw [Session.call, read]
          exact sound_read fresh sound rfl rfl read (Answer.reports_ofResult result)
  | next =>
      cases read : before.reader.next with
      | mk outcome next =>
          rcases Answer.reports_of_next read with ⟨result, same, reports⟩
          rw [Session.call, read]
          exact sound_read fresh sound rfl rfl same reports
  | supply bytes => exact sound_supply fresh sound bytes

/-! ## A source that fails in the middle of a payload -/

def twoUnits : ReceivedFrame where
  metadata := .ofList [(Metadata.payloadBitsKey, .natural 16),
    (Metadata.packetLengthKey, .natural 2), (Metadata.skippedItemsKey, .natural 1)]
  payload := [7, 8]
  offset := 1

/-- A reader that has the first unit of its payload, and whose source holds `bytes`. -/
def midway (receiver : Receiver) (bytes : List UInt8) : FrameReader where
  transceiver := { encoder := .ofLayout .singleUnit, receiver }
  source := { bytes, script := [] }
  options := {}
  buffered := []
  pending := some {
    metadata := twoUnits.metadata
    offset := 1
    collected := [7]
    remaining := 1 }

theorem exists_midway (bytes : List UInt8) :
    ∃ receiver, (start
        { bytes := 2 :: 7 :: bytes, script := [.deliver 2, .fail (.ofKind .timedOut)] }
        { encoder := .ofLayout .singleUnit, receiver := .ofCode .empty } {}).reader.readFrame =
      (.error (.fault (.ofKind .timedOut)), midway receiver bytes) := by
  let script : List ReadReply := [.fail (.ofKind .timedOut)]
  let idle : FrameReader := {
    transceiver := { encoder := .ofLayout .singleUnit, receiver := .ofCode .empty }
    source := { bytes := 2 :: 7 :: bytes, script := .deliver 2 :: script }
    options := {}
    buffered := []
    pending := none }
  let filled : FrameReader := { idle with source := { bytes, script }, buffered := [2, 7] }
  -- The pass over the header is a closed term and can be evaluated, whatever `bytes` is.
  let passed := (Receiver.ofCode .empty).step .singleUnit 2 [7]
  let opened : PendingFrame :=
    { metadata := twoUnits.metadata, offset := 1, collected := [], remaining := 2 }
  let passing : FrameReader := { filled with
    transceiver := { filled.transceiver with receiver := passed.receiver }
    buffered := [7] }
  let receiver := (passed.receiver.receive .singleUnit [7]).receiver
  have header : passed.record = some twoUnits.metadata := by decide +kernel
  have remaining : passed.receiver.remaining = 2 := by decide +kernel
  have position : passed.receiver.position = 1 := rfl
  have delivery : idle.source.read idle.chunkSize = (.ok [2, 7], { bytes, script }) := rfl
  have begun : filled.advance = passing.collect {
      metadata := twoUnits.metadata
      offset := passed.receiver.position
      collected := []
      remaining := passed.receiver.remaining } := FrameReader.advance_of_header rfl rfl rfl header
  rw [position, remaining] at begun
  have cut : filled.advance = (none, { midway receiver bytes with source := filled.source }) :=
    begun.trans (FrameReader.collect_of_cut passing opened Nat.one_lt_two)
  have stops : ({ midway receiver bytes with source := filled.source }).Stops
      (.fault (.ofKind .timedOut)) { bytes, script := [] } := .failed rfl
  refine ⟨receiver, ?_⟩
  change idle.readFrame = _
  rw [FrameReader.readFrame_of_delivery (FrameReader.advance_of_empty rfl rfl) delivery]
  exact FrameReader.readFrame_of_stops cut stops

theorem readFrame_midway (receiver : Receiver) :
    ∃ left, (midway receiver [8, 1, 5]).readFrame = (.ok twoUnits, left) ∧
      left.source.bytes = [] := by
  let pending : PendingFrame :=
    { metadata := twoUnits.metadata, offset := 1, collected := [7], remaining := 1 }
  let begun := midway receiver [8, 1, 5]
  let waiting : FrameReader := { begun with
    transceiver := begun.transceiver.after (begun.transceiver.receive []) }
  let refilled : FrameReader := { waiting with
    source := { bytes := [], script := [] }
    buffered := [8, 1, 5] }
  have cut : begun.advance = (none, waiting) :=
    FrameReader.collect_of_cut begun pending Nat.one_pos
  have found : refilled.advance = (some twoUnits, _) :=
    FrameReader.collect_of_arrived refilled pending (Nat.le_add_left 1 2)
  have delivery : waiting.source.read waiting.chunkSize =
      (.ok [8, 1, 5], { bytes := [], script := [] }) := rfl
  have resumed := FrameReader.readFrame_of_delivery cut delivery
  exact ⟨_, resumed.trans (FrameReader.readFrame_of_found found), rfl⟩

/-! ## All calls -/

theorem sound_run (fresh : transceiver.receiver.Fresh transceiver.layout threshold)
    {session : Session} (sound : session.Sound transceiver threshold) (calls : List Call) :
    (session.run calls).Sound transceiver threshold := by
  induction calls generalizing session with
  | nil => exact sound
  | cons call rest induction => exact induction (sound_call fresh sound call).1

end Session

namespace Session

/-- Whatever a source delivers and when, and whatever has been called before, a call returns the
next frame or reports that there is none. -/
theorem faithful_call_run (config : LayoutConfig) {transceiver : Transceiver}
    (built : Transceiver.ofConfig config = .ok transceiver) (source : Source)
    (options : ReadingOptions) (calls : List Call) (call : Call) :
    Faithful transceiver config.threshold.toNat ((start source transceiver options).run calls)
      call (((start source transceiver options).run calls).call call).1
      (((start source transceiver options).run calls).call call).2 := by
  have fresh := (Transceiver.fresh_of_setThreshold
    (Transceiver.setThreshold_of_ofConfig built).2).2
  exact (sound_call fresh (sound_run fresh (sound_start fresh source options) calls) call).2

/-- A source that fails in the middle of a payload, and delivers the rest of it after that. -/
theorem faithful_call_run_resumed :
    ∃ transceiver, Transceiver.ofConfig (.units { count := 1, width := 8 }) = .ok transceiver ∧
      let before := (start
        { bytes := [2, 7, 8, 1, 5], script := [.deliver 2, .fail (.ofKind .timedOut)] }
        transceiver {}).run [.readFrame]
      let after := (before.call .next).2
      Faithful transceiver 0 before .next (before.call .next).1 after ∧
        (before.call .next).1 = .frame twoUnits ∧
        after.delivered = [2, 7, 8, 1, 5] ∧
        after.returned = [twoUnits] := by
  let transceiver : Transceiver := {
    encoder := .ofLayout .singleUnit
    receiver := .ofCode .empty }
  have built : Transceiver.ofConfig (.units { count := 1, width := 8 }) = .ok transceiver := rfl
  refine ⟨transceiver, built, ?_⟩
  intro before after
  have faithful := faithful_call_run (.units { count := 1, width := 8 }) built
    { bytes := [2, 7, 8, 1, 5], script := [.deliver 2, .fail (.ofKind .timedOut)] } {}
    [.readFrame] .next
  rcases exists_midway [8, 1, 5] with ⟨receiver, timedOut⟩
  rcases readFrame_midway receiver with ⟨left, resumed, empty⟩
  have reached : before = {
      reader := midway receiver [8, 1, 5]
      supplied := [2, 7, 8, 1, 5]
      returned := [] } := by
    change (Session.call _ .readFrame).2 = _
    rw [call, timedOut]
    rfl
  have answer : before.call .next = before.record (.frame twoUnits) left := by
    rw [reached, call, FrameReader.next, resumed]
    rfl
  have returned : after.returned = before.returned ++ [twoUnits] :=
    faithful.returned_eq.trans (congrArg (before.returned ++ ·.1.frames) answer)
  have source : after.reader.source.bytes = [] :=
    (congrArg (·.2.reader.source.bytes) answer).trans empty
  have all : after.supplied = after.delivered := by
    rw [faithful.accounted, source, List.append_nil]
  have same : after.supplied = before.supplied := congrArg (·.2.supplied) answer
  rw [reached] at returned same
  exact ⟨faithful, congrArg Prod.fst answer, all.symm.trans same, returned⟩

end Session

end PacketFraming
