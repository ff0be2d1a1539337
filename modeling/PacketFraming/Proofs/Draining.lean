import PacketFraming.Proofs.Session

/-! A reader whose source delivers everything it holds.

Such a source never fails, and it delivers nothing only when it has nothing left. Call by call,
all frames of the stream are returned. -/

namespace PacketFraming

namespace Source

/-- The source has no answer in store but to deliver what is asked for. -/
def Willing (source : Source) : Prop :=
  source.script = []

theorem read_of_willing {source : Source} (willing : source.Willing) (size : Nat) :
    source.read size =
      (.ok (source.bytes.take size), { source with bytes := source.bytes.drop size }) := by
  rw [read, willing, answer, ← willing]

end Source

namespace FrameReader

variable {reader waiting : FrameReader}

theorem Asks.willing (asks : reader.Asks waiting) (willing : reader.source.Willing) :
    waiting.source.Willing := by
  induction asks with
  | @first reader waiting none =>
      rw [source_of_advance none]
      exact willing
  | @again reader earlier waiting byte rest source none delivery later induction =>
      apply induction
      rw [source_of_advance none, Source.read_of_willing willing] at delivery
      obtain ⟨-, rfl⟩ := Prod.mk.inj delivery
      exact willing

theorem Stops.of_willing {cause : StreamError} {source : Source}
    (stops : waiting.Stops cause source) (willing : waiting.source.Willing) :
    cause = .closed ∧ source.bytes = [] := by
  cases stops with
  | failed answer =>
      rw [Source.read_of_willing willing] at answer
      exact absurd (Prod.mk.inj answer).1 (by simp)
  | ended answer =>
      rw [Source.read_of_willing willing] at answer
      obtain ⟨none, rfl⟩ := Prod.mk.inj answer
      have size_pos : waiting.chunkSize ≠ 0 := Nat.ne_of_gt (Nat.le_max_right _ _)
      have nothing := List.take_eq_nil_iff.mp (Except.ok.inj none)
      refine ⟨rfl, ?_⟩
      rw [nothing.resolve_left size_pos]
      exact List.drop_nil

theorem readFrame_willing {frame : ReceivedFrame} {next : FrameReader}
    (read : reader.readFrame = (.ok frame, next)) (willing : reader.source.Willing) :
    next.source.Willing := by
  fun_induction readFrame reader with
  | case1 reader received advanced found =>
      obtain ⟨-, rfl⟩ := by simpa using read
      rw [source_of_advance found]
      exact willing
  | case2 | case3 => simp at read
  | case4 reader waiting none byte rest source delivery induction =>
      apply induction read
      rw [source_of_advance none, Source.read_of_willing willing] at delivery
      obtain ⟨-, rfl⟩ := Prod.mk.inj delivery
      exact willing

end FrameReader

def Transceiver.framesOfBytes (transceiver : Transceiver) (threshold : Nat)
    (bytes : List UInt8) : List ReceivedFrame :=
  framesOf transceiver.layout threshold (FrameReader.itemsOfBytes transceiver.layout bytes)

namespace Session

/-- A session whose source is willing and has been given the bytes of `supplied`. So many of the
frames in them have been returned. -/
structure Draining (transceiver : Transceiver) (threshold : Nat) (supplied : List UInt8)
    (count : Nat) (session : Session) : Prop where
  sound : session.Sound transceiver threshold
  willing : session.reader.source.Willing
  supplied_eq : session.supplied = supplied
  inside : count ≤ (transceiver.framesOfBytes threshold supplied).length
  returned : session.returned = (transceiver.framesOfBytes threshold supplied).take count

variable {transceiver : Transceiver} {threshold : Nat} {supplied : List UInt8} {count : Nat}
  {session : Session}

theorem prefix_framesOfBytes {returned : List ReceivedFrame} {reader : FrameReader}
    (serves : reader.Serves transceiver.layout threshold transceiver.receiver supplied returned) :
    returned <+: transceiver.framesOfBytes threshold supplied := by
  rcases serves with ⟨delivered, parts, follows⟩
  rw [Transceiver.framesOfBytes, parts, FrameReader.itemsOfBytes_append]
  exact follows.prefix_framesOf.trans (framesOf_prefix_append _ _ _ _)

theorem Draining.length_returned
    (draining : session.Draining transceiver threshold supplied count) :
    session.returned.length = count := by
  rw [draining.returned]
  exact List.length_take_of_le draining.inside

theorem Draining.readFrame_of_error
    (fresh : transceiver.receiver.Fresh transceiver.layout threshold)
    (draining : session.Draining transceiver threshold supplied count) {cause : StreamError}
    {next : FrameReader} (failed : session.reader.readFrame = (.error cause, next)) :
    cause = .closed ∧ count = (transceiver.framesOfBytes threshold supplied).length := by
  rcases FrameReader.stops_of_readFrame failed with ⟨waiting, source, asks, stops, rfl⟩
  rcases stops.of_willing (asks.willing draining.willing) with ⟨closed, none⟩
  rcases FrameReader.Serves.readFrame_of_error fresh draining.sound failed with
    ⟨delivered, parts, -, all⟩
  refine ⟨closed, ?_⟩
  rw [← draining.length_returned, ← draining.supplied_eq, parts, none, List.append_nil, all]
  rfl

theorem Draining.readFrame_of_ok
    (fresh : transceiver.receiver.Fresh transceiver.layout threshold)
    (draining : session.Draining transceiver threshold supplied count) {frame : ReceivedFrame}
    {next : FrameReader} (read : session.reader.readFrame = (.ok frame, next)) :
    (session.record (.frame frame) next).2.Draining transceiver threshold supplied (count + 1) := by
  have serves := FrameReader.Serves.readFrame_of_ok fresh draining.sound read
  have first := prefix_framesOfBytes serves
  rw [draining.supplied_eq] at first
  have length : (session.returned ++ [frame]).length = count + 1 := by
    rw [List.length_append, draining.length_returned]
    rfl
  exact {
    sound := serves
    willing := FrameReader.readFrame_willing read draining.willing
    supplied_eq := draining.supplied_eq
    inside := by
      rw [← length]
      exact first.length_le
    returned := by
      rw [← length]
      exact List.prefix_iff_eq_take.mp first }

theorem Draining.run (fresh : transceiver.receiver.Fresh transceiver.layout threshold)
    (draining : session.Draining transceiver threshold supplied count) (calls : Nat)
    (enough : count + calls ≤ (transceiver.framesOfBytes threshold supplied).length) :
    (session.run (List.replicate calls .readFrame)).Draining transceiver threshold supplied
      (count + calls) := by
  induction calls generalizing session count with
  | zero => exact draining
  | succ calls induction =>
      cases read : session.reader.readFrame with
      | mk result next =>
          cases result with
          | error cause =>
              have all := (draining.readFrame_of_error fresh read).2
              omega
          | ok frame =>
              have after := draining.readFrame_of_ok fresh read
              have again := induction after (by omega)
              rw [Nat.add_right_comm] at again
              rw [List.replicate_succ, Session.run, List.foldl_cons, Session.call, read]
              exact again

theorem Draining.call_of_all (fresh : transceiver.receiver.Fresh transceiver.layout threshold)
    (draining : session.Draining transceiver threshold supplied
      (transceiver.framesOfBytes threshold supplied).length) :
    (session.call .readFrame).1 = .failed .closed := by
  cases read : session.reader.readFrame with
  | mk result next =>
      cases result with
      | error cause =>
          rw [Session.call, read, (draining.readFrame_of_error fresh read).1]
          rfl
      | ok frame =>
          have more := (draining.readFrame_of_ok fresh read).inside
          omega

/-- All frames are returned, and then the stream is closed. -/
theorem drain (fresh : transceiver.receiver.Fresh transceiver.layout threshold)
    (bytes : List UInt8) (options : ReadingOptions) :
    let session := (start { bytes, script := [] } transceiver options).run
      (List.replicate (transceiver.framesOfBytes threshold bytes).length .readFrame)
    session.returned = transceiver.framesOfBytes threshold bytes ∧
      (session.call .readFrame).1 = .failed .closed := by
  have begun : (start { bytes, script := [] } transceiver options).Draining transceiver threshold
      bytes 0 := {
    sound := sound_start fresh { bytes, script := [] } options
    willing := rfl
    supplied_eq := rfl
    inside := Nat.zero_le _
    returned := rfl }
  have ended := begun.run fresh (transceiver.framesOfBytes threshold bytes).length (by omega)
  rw [Nat.zero_add] at ended
  exact ⟨ended.returned.trans List.take_length, ended.call_of_all fresh⟩

end Session

end PacketFraming
