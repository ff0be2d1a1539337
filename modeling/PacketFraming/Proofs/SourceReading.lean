import PacketFraming.Proofs.Reading

/-! A reader and its source.

Bytes leave the source in their order and none is dropped. The source is asked only when all
frames in the bytes it has delivered have been returned, and a call fails only where the source
has failed or has delivered nothing. -/

namespace PacketFraming

namespace Source

theorem bytes_of_read {source next : Source} {size : Nat} {chunk : List UInt8}
    (success : source.read size = (.ok chunk, next)) : source.bytes = chunk ++ next.bytes := by
  unfold read at success
  split at success
  · simp at success
  · simp only [Prod.mk.injEq, Except.ok.injEq] at success
    obtain ⟨rfl, rfl⟩ := success
    exact (List.take_append_drop _ _).symm

theorem bytes_of_failed_read {source next : Source} {size : Nat} {cause : Fault}
    (failed : source.read size = (.error cause, next)) : next.bytes = source.bytes := by
  unfold read at failed
  split at failed
  · simp only [Prod.mk.injEq, Except.error.injEq] at failed
    rw [← failed.2]
  · simp at failed

theorem extend_nil (source : Source) : source.extend [] = source :=
  congrArg (fun bytes => { source with bytes }) (List.append_nil source.bytes)

end Source

namespace FrameReader

theorem itemsOfBytes_nil (layout : Layout) : itemsOfBytes layout [] = [] := by
  unfold itemsOfBytes
  split <;> rfl

theorem itemsOfBytes_append (layout : Layout) (first second : List UInt8) :
    itemsOfBytes layout (first ++ second) =
      itemsOfBytes layout first ++ itemsOfBytes layout second := by
  unfold itemsOfBytes
  split
  · rfl
  · exact unpackBits_append first second

theorem source_of_advance {reader next : FrameReader} {outcome : Option ReceivedFrame}
    (advanced : reader.advance = (outcome, next)) : next.source = reader.source := by
  have same := source_advance reader
  rw [advanced] at same
  exact same

/-! ## Calls that ask the source -/

/-- A call to read makes the reader ask its source when it has become `waiting`. -/
inductive Asks : (reader waiting : FrameReader) → Prop
  | first {reader waiting : FrameReader} (none : reader.advance = (none, waiting)) :
      Asks reader waiting
  | again {reader earlier waiting : FrameReader} {byte : UInt8} {rest : List UInt8}
      {source : Source} (none : reader.advance = (none, earlier))
      (delivery : earlier.source.read earlier.chunkSize = (.ok (byte :: rest), source))
      (later : Asks ({ earlier with source }.buffer (byte :: rest)) waiting) :
      Asks reader waiting

inductive Stops (waiting : FrameReader) : (cause : StreamError) → (source : Source) → Prop
  | failed {cause : Fault} {source : Source}
      (answer : waiting.source.read waiting.chunkSize = (.error cause, source)) :
      Stops waiting (.fault cause) source
  | ended {source : Source}
      (answer : waiting.source.read waiting.chunkSize = (.ok [], source)) :
      Stops waiting .closed source

theorem Stops.bytes_eq {waiting : FrameReader} {cause : StreamError} {source : Source}
    (stops : waiting.Stops cause source) : source.bytes = waiting.source.bytes := by
  cases stops with
  | failed answer => exact Source.bytes_of_failed_read answer
  | ended answer => exact (Source.bytes_of_read answer).symm

theorem stops_of_readFrame {reader next : FrameReader} {cause : StreamError}
    (failed : reader.readFrame = (.error cause, next)) :
    ∃ waiting source, reader.Asks waiting ∧ waiting.Stops cause source ∧
      next = { waiting with source } := by
  fun_induction readFrame reader with
  | case1 reader frame advanced none => simp at failed
  | case2 reader waiting none fault source answer =>
      obtain ⟨rfl, rfl⟩ := by simpa using failed
      exact ⟨waiting, source, .first none, .failed answer, rfl⟩
  | case3 reader waiting none source answer =>
      obtain ⟨rfl, rfl⟩ := by simpa using failed
      exact ⟨waiting, source, .first none, .ended answer, rfl⟩
  | case4 reader waiting none byte rest source delivery induction =>
      rcases induction failed with ⟨last, source, asks, stops, same⟩
      exact ⟨last, source, .again none delivery asks, stops, same⟩

theorem not_asks_of_found {reader next : FrameReader} {frame : ReceivedFrame}
    (found : reader.advance = (some frame, next)) (waiting : FrameReader) :
    ¬reader.Asks waiting := by
  intro asks
  cases asks with
  | first none | again none => cases found.symm.trans none

theorem asks_iff {reader earlier : FrameReader} (none : reader.advance = (none, earlier))
    (waiting : FrameReader) :
    reader.Asks waiting ↔ waiting = earlier ∨
      ∃ byte rest source, earlier.source.read earlier.chunkSize = (.ok (byte :: rest), source) ∧
        ({ earlier with source }.buffer (byte :: rest)).Asks waiting := by
  constructor
  · intro asks
    cases asks with
    | first same => exact .inl (Prod.mk.inj (same.symm.trans none)).2
    | again same delivery later =>
        obtain rfl := (Prod.mk.inj (same.symm.trans none)).2
        exact .inr ⟨_, _, _, delivery, later⟩
  · rintro (rfl | ⟨byte, rest, source, delivery, later⟩)
    · exact .first none
    · exact .again none delivery later

theorem asks_iff_of_stops {reader earlier : FrameReader} {cause : StreamError} {source : Source}
    (none : reader.advance = (none, earlier)) (stops : earlier.Stops cause source)
    (waiting : FrameReader) : reader.Asks waiting ↔ waiting = earlier := by
  rw [asks_iff none]
  cases stops with
  | failed answer | ended answer =>
      rw [answer]
      simp

/-- What a source goes through while readers ask it, one after the other. All of them are given
something, but for the last one where there is a cause to stop. -/
inductive Polled : Source → List FrameReader → Option StreamError → Source → Prop
  | none (source : Source) : Polled source [] none source
  | stopped {waiting : FrameReader} {cause : StreamError} {source : Source}
      (stops : waiting.Stops cause source) : Polled waiting.source [waiting] (some cause) source
  | further {waiting : FrameReader} {byte : UInt8} {rest : List UInt8} {source last : Source}
      {polls : List FrameReader} {cause : Option StreamError}
      (delivery : waiting.source.read waiting.chunkSize = (.ok (byte :: rest), source))
      (later : Polled source polls cause last) : Polled waiting.source (waiting :: polls) cause last

def failure? : Except StreamError ReceivedFrame → Option StreamError
  | .ok _ => none
  | .error cause => some cause

/-- A call takes its source through the calls of the readers that it asks for, and no others. -/
theorem polled_readFrame (reader : FrameReader) :
    ∃ polls, Polled reader.source polls (failure? reader.readFrame.1) reader.readFrame.2.source ∧
      ∀ waiting, waiting ∈ polls ↔ reader.Asks waiting := by
  fun_induction readFrame reader with
  | case1 reader frame next found =>
      have same := source_of_advance found
      refine ⟨[], same ▸ .none reader.source, ?_⟩
      intro waiting
      exact iff_of_false List.not_mem_nil (not_asks_of_found found waiting)
  | case2 reader earlier none fault source answer =>
      have same := source_of_advance none
      refine ⟨[earlier], same ▸ .stopped (.failed answer), ?_⟩
      intro waiting
      rw [List.mem_singleton, asks_iff_of_stops none (.failed answer)]
  | case3 reader earlier none source answer =>
      have same := source_of_advance none
      refine ⟨[earlier], same ▸ .stopped (.ended answer), ?_⟩
      intro waiting
      rw [List.mem_singleton, asks_iff_of_stops none (.ended answer)]
  | case4 reader earlier none byte rest source delivery induction =>
      have same := source_of_advance none
      rcases induction with ⟨polls, polled, asked⟩
      refine ⟨earlier :: polls, same ▸ .further delivery polled, ?_⟩
      intro waiting
      rw [List.mem_cons, asked, asks_iff none]
      refine or_congr_right ⟨fun later => ⟨byte, rest, source, delivery, later⟩, ?_⟩
      rintro ⟨_, _, _, same, later⟩
      cases delivery.symm.trans same
      exact later

/-! ## One turn of a call -/

section Turns

variable {reader waiting : FrameReader}

theorem readFrame_of_found {next : FrameReader} {frame : ReceivedFrame}
    (found : reader.advance = (some frame, next)) : reader.readFrame = (.ok frame, next) := by
  fun_cases readFrame reader with
  | case1 other next same =>
      cases found.symm.trans same
      rfl
  | case2 waiting none | case3 waiting none | case4 waiting none => cases found.symm.trans none

theorem readFrame_of_stops {cause : StreamError} {source : Source}
    (none : reader.advance = (none, waiting)) (stops : waiting.Stops cause source) :
    reader.readFrame = (.error cause, { waiting with source }) := by
  fun_cases readFrame reader with
  | case1 frame next found => cases none.symm.trans found
  | case2 waiting same fault source answer =>
      cases none.symm.trans same
      cases stops with
      | failed other =>
          cases answer.symm.trans other
          rfl
      | ended other => cases answer.symm.trans other
  | case3 waiting same source answer =>
      cases none.symm.trans same
      cases stops with
      | failed other => cases answer.symm.trans other
      | ended other =>
          cases answer.symm.trans other
          rfl
  | case4 waiting same byte rest source delivery =>
      cases none.symm.trans same
      cases stops with
      | failed other | ended other => cases delivery.symm.trans other

theorem readFrame_of_delivery {byte : UInt8} {rest : List UInt8} {source : Source}
    (none : reader.advance = (none, waiting))
    (delivery : waiting.source.read waiting.chunkSize = (.ok (byte :: rest), source)) :
    reader.readFrame = ({ waiting with source }.buffer (byte :: rest)).readFrame := by
  fun_cases readFrame reader with
  | case1 frame next found => cases none.symm.trans found
  | case2 waiting same fault source answer | case3 waiting same source answer =>
      cases none.symm.trans same
      cases delivery.symm.trans answer
  | case4 waiting same byte rest source answer =>
      cases none.symm.trans same
      cases delivery.symm.trans answer
      rfl

end Turns

/-! ## Bytes supplied, delivered and left -/

section Serving

variable (layout : Layout) (threshold : Nat) (origin : Receiver)

/-- Of the bytes that were supplied, some have been delivered to the reader, which has returned
the frames of `returned`, and the source holds the others. -/
def Serves (supplied : List UInt8) (returned : List ReceivedFrame) (reader : FrameReader) :
    Prop :=
  ∃ delivered, supplied = delivered ++ reader.source.bytes ∧
    reader.Follows layout threshold origin (itemsOfBytes layout delivered) returned

def Spent (supplied : List UInt8) (returned : List ReceivedFrame) (reader : FrameReader) :
    Prop :=
  ∃ delivered, supplied = delivered ++ reader.source.bytes ∧
    reader.Follows layout threshold origin (itemsOfBytes layout delivered) returned ∧
    returned = framesOf layout threshold (itemsOfBytes layout delivered)

end Serving

variable {layout : Layout} {threshold : Nat} {origin : Receiver} {supplied : List UInt8}
  {returned : List ReceivedFrame} {reader waiting : FrameReader}

theorem Spent.serves (spent : reader.Spent layout threshold origin supplied returned) :
    reader.Serves layout threshold origin supplied returned := by
  rcases spent with ⟨delivered, parts, follows, -⟩
  exact ⟨delivered, parts, follows⟩

theorem Spent.of_bytes_eq (spent : reader.Spent layout threshold origin supplied returned)
    {source : Source} (same : source.bytes = reader.source.bytes) :
    { reader with source }.Spent layout threshold origin supplied returned := by
  rcases spent with ⟨delivered, parts, ⟨front, items, knows⟩, all⟩
  refine ⟨delivered, ?_, ⟨front, items, ?_⟩, all⟩
  · rw [parts, ← same]
  · exact { knows with }

theorem Follows.layout_eq {items : List UInt8}
    (follows : reader.Follows layout threshold origin items returned) :
    reader.transceiver.layout = layout := by
  rcases follows with ⟨front, -, knows⟩
  exact knows.layout_eq

theorem Serves.buffer (serves : reader.Serves layout threshold origin supplied returned)
    {source : Source} {chunk : List UInt8}
    (delivery : reader.source.read reader.chunkSize = (.ok chunk, source)) :
    ({ reader with source }.buffer chunk).Serves layout threshold origin supplied returned := by
  rcases serves with ⟨delivered, parts, follows⟩
  have layout_eq := follows.layout_eq
  rcases follows with ⟨front, items, knows⟩
  refine ⟨delivered ++ chunk, ?_, front, ?_, ?_⟩
  · rw [parts, Source.bytes_of_read delivery, List.append_assoc]
    rfl
  · rw [itemsOfBytes_append, items, List.append_assoc, ← layout_eq]
    rfl
  · exact { knows with }

theorem Serves.advance (fresh : origin.Fresh layout threshold)
    (serves : reader.Serves layout threshold origin supplied returned)
    {outcome : Option ReceivedFrame} {next : FrameReader}
    (advanced : reader.advance = (outcome, next)) :
    match outcome with
    | some frame => next.Serves layout threshold origin supplied (returned ++ [frame])
    | none => next.Spent layout threshold origin supplied returned := by
  rcases serves with ⟨delivered, parts, follows⟩
  have looked := looked_advance fresh follows
  rw [advanced] at looked
  rw [← source_of_advance advanced] at parts
  cases outcome with
  | some frame => exact ⟨delivered, parts, looked⟩
  | none => exact ⟨delivered, parts, looked⟩

/-- Whenever the source is asked, the frames delivered before have been returned. -/
theorem Asks.spent (fresh : origin.Fresh layout threshold) (asks : reader.Asks waiting)
    (serves : reader.Serves layout threshold origin supplied returned) :
    waiting.Spent layout threshold origin supplied returned := by
  induction asks with
  | first none => exact serves.advance fresh none
  | again none delivery later induction =>
      have spent := serves.advance fresh none
      exact induction (spent.serves.buffer delivery)

theorem Serves.readFrame_of_ok (fresh : origin.Fresh layout threshold)
    (serves : reader.Serves layout threshold origin supplied returned)
    {frame : ReceivedFrame} {next : FrameReader} (read : reader.readFrame = (.ok frame, next)) :
    next.Serves layout threshold origin supplied (returned ++ [frame]) := by
  fun_induction readFrame reader with
  | case1 reader frame advanced found =>
      obtain ⟨rfl, rfl⟩ := by simpa using read
      exact serves.advance fresh found
  | case2 | case3 => simp at read
  | case4 reader waiting none byte rest source delivery induction =>
      have spent := serves.advance fresh none
      exact induction (spent.serves.buffer delivery) read

theorem Serves.readFrame_of_error (fresh : origin.Fresh layout threshold)
    (serves : reader.Serves layout threshold origin supplied returned)
    {cause : StreamError} {next : FrameReader}
    (failed : reader.readFrame = (.error cause, next)) :
    next.Spent layout threshold origin supplied returned := by
  rcases stops_of_readFrame failed with ⟨waiting, source, asks, stops, rfl⟩
  exact (asks.spent fresh serves).of_bytes_eq stops.bytes_eq

end FrameReader

end PacketFraming
