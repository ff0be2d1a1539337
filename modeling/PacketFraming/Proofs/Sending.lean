import PacketFraming.Stream.Writer

/-! What reaches a sink that may refuse at any time.

Whatever a sink answers, it has taken the bytes of a frame from the first one on, in order and
each of them once, up to the answer that has stopped the sender. It is flushed behind the last
byte and not before. -/

namespace PacketFraming

def WriteReply.stops? : WriteReply → Option Fault
  | .accept limit => if limit = 0 then some (.ofKind .writeZero) else none
  | .fail cause => if cause.kind = .interrupted then none else some cause

def FlushReply.Interrupts (reply : FlushReply) : Prop :=
  ∃ cause, reply = .fail cause ∧ cause.kind = .interrupted

namespace Sink

def room : List WriteReply → Nat
  | [] => 0
  | .accept limit :: replies => limit + room replies
  | .fail _ :: replies => room replies

/-- Answers after which a sender goes on, and bytes that have been taken with them. -/
structure Passed (answered : List WriteReply) (bytes : List UInt8) : Prop where
  goesOn : ∀ reply ∈ answered, reply.stops? = none
  fits : bytes.length ≤ room answered

/-- How bytes are delivered: all of them, or less of them up to the first answer that stops the
sender. A sink has no bounds once its script has run out. -/
inductive Delivers (script : List WriteReply) (bytes : List UInt8) :
    Except Fault Unit × List UInt8 × List WriteReply → Prop
  | free (goesOn : ∀ reply ∈ script, reply.stops? = none) :
      Delivers script bytes (.ok (), bytes, [])
  | whole (answered left : List WriteReply) (parts : script = answered ++ left)
      (passed : Passed answered bytes) : Delivers script bytes (.ok (), bytes, left)
  | stopped (answered : List WriteReply) (reply : WriteReply) (left : List WriteReply)
      (cause : Fault) (front rest : List UInt8) (parts : script = answered ++ reply :: left)
      (passed : Passed answered front) (stops : reply.stops? = some cause)
      (cut : bytes = front ++ rest) (missing : rest ≠ []) :
      Delivers script bytes (.error cause, front, left)

/-- How a sink is flushed: after interruptions, with success or for the first other cause not. -/
inductive Settles (script : List FlushReply) : Except Fault Unit × List FlushReply → Prop
  | free (interrupted : ∀ reply ∈ script, reply.Interrupts) : Settles script (.ok (), [])
  | done (answered left : List FlushReply) (parts : script = answered ++ .done :: left)
      (interrupted : ∀ reply ∈ answered, reply.Interrupts) : Settles script (.ok (), left)
  | failed (answered left : List FlushReply) (cause : Fault)
      (parts : script = answered ++ .fail cause :: left)
      (interrupted : ∀ reply ∈ answered, reply.Interrupts)
      (other : cause.kind ≠ .interrupted) : Settles script (.error cause, left)

/-- How a frame is sent: delivered and flushed, delivered and not flushed, or cut off where the
sink has not been asked to flush. -/
inductive Sends (before : Sink) (wire : List UInt8) : Except Fault Unit × Sink → Prop
  | done (writes : List WriteReply) (flushes : List FlushReply)
      (delivers : Delivers before.writes wire (.ok (), wire, writes))
      (settles : Settles before.flushes (.ok (), flushes)) :
      Sends before wire (.ok (), {
        writes, flushes, taken := before.taken ++ wire, flushed := before.flushed + 1 })
  | unflushed (cause : Fault) (writes : List WriteReply) (flushes : List FlushReply)
      (delivers : Delivers before.writes wire (.ok (), wire, writes))
      (settles : Settles before.flushes (.error cause, flushes)) :
      Sends before wire (.error cause, {
        before with writes, flushes, taken := before.taken ++ wire })
  | stopped (cause : Fault) (accepted : List UInt8) (writes : List WriteReply)
      (delivers : Delivers before.writes wire (.error cause, accepted, writes)) :
      Sends before wire (.error cause, {
        before with writes, taken := before.taken ++ accepted })

/-! ## Writing -/

section Delivers

variable {script answered left : List WriteReply} {bytes front rest taken : List UInt8}
  {cause : Fault} {outcome : Except Fault Unit × List UInt8 × List WriteReply}

theorem room_append (first second : List WriteReply) :
    room (first ++ second) = room first + room second := by
  induction first with
  | nil => exact (Nat.zero_add _).symm
  | cons reply replies induction =>
      cases reply with
      | accept limit => exact (congrArg (limit + ·) induction).trans (Nat.add_assoc ..).symm
      | fail cause => exact induction

theorem Passed.nil : Passed [] [] where
  goesOn := List.forall_mem_nil _
  fits := Nat.le_refl 0

theorem Passed.append {others : List WriteReply} (first : Passed answered front)
    (second : Passed others rest) : Passed (answered ++ others) (front ++ rest) where
  goesOn := List.forall_mem_append.mpr ⟨first.goesOn, second.goesOn⟩
  fits := by
    rw [List.length_append, room_append]
    exact Nat.add_le_add first.fits second.fits

theorem Passed.accept {limit : Nat} (positive : limit ≠ 0) (bytes : List UInt8) :
    Passed [.accept limit] (bytes.take limit) where
  goesOn := List.forall_mem_singleton.mpr (if_neg positive)
  fits := List.length_take_le limit bytes

theorem Passed.interrupted (interrupted : cause.kind = .interrupted) : Passed [.fail cause] [] where
  goesOn := List.forall_mem_singleton.mpr (if_pos interrupted)
  fits := Nat.le_refl 0

theorem Delivers.after (passed : Passed answered front) (delivers : Delivers script rest outcome) :
    Delivers (answered ++ script) (front ++ rest)
      (outcome.1, front ++ outcome.2.1, outcome.2.2) := by
  cases delivers with
  | free goesOn => exact .free (List.forall_mem_append.mpr ⟨passed.goesOn, goesOn⟩)
  | whole others left parts further =>
      apply Delivers.whole (answered ++ others) left
      · rw [parts, List.append_assoc]
      · exact passed.append further
  | stopped others reply left cause more missed parts further stops cut missing =>
      apply Delivers.stopped (answered ++ others) reply left cause (front ++ more) missed
      · rw [parts, List.append_assoc]
      · exact passed.append further
      · exact stops
      · rw [cut, List.append_assoc]
      · exact missing

theorem delivers_deliver (script : List WriteReply) (bytes : List UInt8) :
    Delivers script bytes (deliver script bytes) := by
  fun_induction deliver script bytes with
  | case1 script => exact .whole [] script rfl .nil
  | case2 bytes present => exact .free (List.forall_mem_nil _)
  | case3 script bytes present =>
      exact .stopped [] (.accept 0) script _ [] bytes rfl .nil rfl rfl present
  | case4 limit script bytes present positive outcome taken left delivered induction =>
      have further := induction.after (.accept positive bytes)
      -- What one answer takes and what the others are offered are the bytes again.
      rw [List.take_append_drop, delivered] at further
      exact further
  | case5 cause script bytes present interrupted induction =>
      exact induction.after (.interrupted interrupted)
  | case6 cause script bytes present other =>
      exact .stopped [] (.fail cause) script cause [] bytes rfl .nil (if_neg other) rfl present

theorem Delivers.append_of_ok (first : Delivers script front (.ok (), taken, left))
    (second : Delivers left rest outcome) :
    Delivers script (front ++ rest) (outcome.1, taken ++ outcome.2.1, outcome.2.2) := by
  cases first with
  | free goesOn =>
      -- Nothing is left of the script, so nothing can stop the sender any more.
      cases second with
      | free none => exact .free goesOn
      | whole answered left parts passed =>
          obtain ⟨-, rfl⟩ := List.append_eq_nil_iff.mp parts.symm
          exact .free goesOn
      | stopped answered reply left cause more missed parts =>
          exact absurd parts.symm (List.append_ne_nil_of_right_ne_nil _ (List.cons_ne_nil _ _))
  | whole answered left parts passed =>
      rw [parts]
      exact second.after passed

theorem Delivers.append_of_error (first : Delivers script front (.error cause, taken, left))
    (rest : List UInt8) : Delivers script (front ++ rest) (.error cause, taken, left) := by
  cases first with
  | stopped answered reply left cause front missed parts passed stops cut missing =>
      apply Delivers.stopped answered reply left cause taken (missed ++ rest) parts passed stops
      · rw [cut, List.append_assoc]
      · exact List.append_ne_nil_of_left_ne_nil missing rest

theorem Delivers.accepts (delivers : Delivers script bytes outcome) : outcome.2.1 <+: bytes := by
  cases delivers with
  | free | whole => exact List.prefix_rfl
  | stopped answered reply left cause front rest parts passed stops cut =>
      rw [cut]
      exact List.prefix_append front rest

theorem Delivers.eq_of_ok (delivers : Delivers script bytes (.ok (), taken, left)) :
    taken = bytes := by
  cases delivers with
  | free | whole => rfl

end Delivers

/-! ## Flushing -/

theorem Settles.after {cause : Fault} (interrupted : cause.kind = .interrupted)
    {script : List FlushReply} {outcome : Except Fault Unit × List FlushReply}
    (settles : Settles script outcome) : Settles (.fail cause :: script) outcome := by
  have through {answered : List FlushReply} (others : ∀ reply ∈ answered, reply.Interrupts) :
      ∀ reply ∈ FlushReply.fail cause :: answered, reply.Interrupts :=
    List.forall_mem_cons.mpr ⟨⟨cause, rfl, interrupted⟩, others⟩
  cases settles with
  | free others => exact .free (through others)
  | done answered left parts others =>
      exact .done (.fail cause :: answered) left (congrArg (.fail cause :: ·) parts)
        (through others)
  | failed answered left last parts others other =>
      exact .failed (.fail cause :: answered) left last (congrArg (.fail cause :: ·) parts)
        (through others) other

theorem settles_settle (script : List FlushReply) : Settles script (settle script) := by
  fun_induction settle script with
  | case1 => exact .free (List.forall_mem_nil _)
  | case2 script => exact .done [] script rfl (List.forall_mem_nil _)
  | case3 cause script interrupted induction => exact induction.after interrupted
  | case4 cause script other => exact .failed [] script cause rfl (List.forall_mem_nil _) other

/-! ## Frames -/

def Written (before : Sink) (bytes : List UInt8) (written : Except Fault Unit × Sink) : Prop :=
  ∃ accepted writes, Delivers before.writes bytes (written.1, accepted, writes) ∧
    written.2 = { before with writes, taken := before.taken ++ accepted }

def flushAfter (written : Except Fault Unit × Sink) : Except Fault Unit × Sink :=
  match written with
  | (.ok (), sink) => sink.flush
  | failed => failed

section Frames

variable {before : Sink} {wire front : List UInt8} {written : Except Fault Unit × Sink}

theorem written_write (before : Sink) (bytes : List UInt8) :
    Written before bytes (before.write bytes) :=
  ⟨_, _, delivers_deliver before.writes bytes, rfl⟩

theorem written_nothing (before : Sink) : Written before [] (.ok (), before) := by
  refine ⟨[], before.writes, .whole [] before.writes rfl .nil, ?_⟩
  rw [List.append_nil]

theorem Written.writeAfter (first : Written before front written) (rest : List UInt8) :
    Written before (front ++ rest) (writeAfter written rest) := by
  rcases first with ⟨accepted, writes, delivers, same⟩
  rcases written with ⟨outcome, sink⟩
  obtain rfl : sink = _ := same
  cases outcome with
  | error cause => exact ⟨accepted, writes, delivers.append_of_error rest, rfl⟩
  | ok =>
      refine ⟨_, _, delivers.append_of_ok (delivers_deliver writes rest), ?_⟩
      rw [← List.append_assoc]
      rfl

theorem Written.sends (frameWritten : Written before wire written) :
    before.Sends wire (flushAfter written) := by
  rcases frameWritten with ⟨accepted, writes, delivers, same⟩
  rcases written with ⟨outcome, sink⟩
  obtain rfl : sink = { before with writes, taken := before.taken ++ accepted } := same
  cases outcome with
  | error cause => exact .stopped cause accepted writes delivers
  | ok =>
      obtain rfl := delivers.eq_of_ok
      have settles := settles_settle before.flushes
      change before.Sends accepted (flush _)
      rw [flush]
      rcases settled : settle before.flushes with ⟨outcome, flushes⟩
      rw [settled] at settles
      cases outcome with
      | ok => exact .done writes flushes delivers settles
      | error cause => exact .unflushed cause writes flushes delivers settles

/-- A frame is sent from its first byte on, whether its header is kept apart or not. -/
theorem sends_writeFrame (before : Sink) (header : Option (List UInt8)) (body : List UInt8) :
    before.Sends (header.getD [] ++ body) (before.writeFrame header body) := by
  cases header with
  | none => exact ((written_nothing before).writeAfter body).sends
  | some header => exact ((written_write before header).writeAfter body).sends

theorem Sends.accepts (sends : before.Sends wire written) :
    ∃ accepted, accepted <+: wire ∧ written.2.taken = before.taken ++ accepted := by
  cases sends with
  | done | unflushed => exact ⟨wire, List.prefix_rfl, rfl⟩
  | stopped cause accepted writes delivers => exact ⟨accepted, delivers.accepts, rfl⟩

theorem Sends.succeeds_iff (sends : before.Sends wire written) : written.1 = .ok () ↔
    written.2.taken = before.taken ++ wire ∧ written.2.flushed = before.flushed + 1 := by
  cases sends with
  | done => exact iff_of_true rfl ⟨rfl, rfl⟩
  | unflushed | stopped =>
      exact iff_of_false nofun fun flushed => Nat.succ_ne_self _ flushed.2.symm

end Frames

end Sink

namespace FrameWriter

/-- The writer with its header kept apart from the payload or not. -/
def keepApart (writer : FrameWriter) (separateHeader : Bool) : FrameWriter :=
  { writer with framer := {
      writer.framer with options := { writer.framer.options with separateHeader } } }

/-- What is on the wire once everything has been sent. -/
def wire (writer : FrameWriter) (header payload : List UInt8) : List UInt8 :=
  header ++ payload ++ List.replicate writer.framer.options.padding.toNat 0

/-- What a sender reports of a frame and leaves of its sink. -/
structure Sent (before : Sink) (wire : List UInt8) (metadata : Metadata)
    (reported : Except StreamError Metadata) (after : Sink) : Prop where
  sends : ∃ outcome, before.Sends wire (outcome, after) ∧
    reported = (outcome.mapError .fault).map fun _ => metadata
  accepts : ∃ accepted, accepted <+: wire ∧ after.taken = before.taken ++ accepted
  succeeds : reported = .ok metadata ↔
    after.taken = before.taken ++ wire ∧ after.flushed = before.flushed + 1

theorem sent_of_sends {before after : Sink} {wire : List UInt8} {outcome : Except Fault Unit}
    (sends : before.Sends wire (outcome, after)) (metadata : Metadata) :
    Sent before wire metadata ((outcome.mapError .fault).map fun _ => metadata) after where
  sends := ⟨outcome, sends, rfl⟩
  accepts := sends.accepts
  succeeds := by
    rw [← sends.succeeds_iff]
    cases outcome with
    | ok => exact iff_of_true rfl rfl
    | error cause => exact iff_of_false nofun nofun

theorem wire_wireFrame (writer : FrameWriter) (separateHeader : Bool) (header : EncodedHeader)
    (payload : List UInt8) :
    ((writer.keepApart separateHeader).framer.options.wireFrame payload header).wire =
      writer.wire header.bytes payload := by
  cases separateHeader with
  | true => exact (List.append_assoc header.bytes payload _).symm
  | false => exact (List.append_assoc header.bytes payload _).symm

theorem metadata_wireFrame (options : FramingOptions) (header : EncodedHeader)
    (payload : List UInt8) : (options.wireFrame payload header).metadata = header.metadata := by
  rw [FramingOptions.wireFrame]
  split <;> rfl

section Framed

variable (writer : FrameWriter) {payload : List UInt8} {metadata : Metadata}
  {transceiver : Transceiver}

theorem send_of_refused {cause : LayoutError}
    (encoded : writer.framer.transceiver.encode payload.length metadata =
      (.error cause, transceiver)) :
    writer.send payload metadata = (.error (.layout cause), {
      writer with framer := { writer.framer with transceiver } }) := by
  rw [send, Framer.frame, encoded]
  rfl

theorem sent_of_encoded {header : EncodedHeader}
    (encoded : writer.framer.transceiver.encode payload.length metadata =
      (.ok header, transceiver)) :
    Sent writer.sink (writer.framer.options.wireFrame payload header).wire header.metadata
      (writer.send payload metadata).1 (writer.send payload metadata).2.sink := by
  rw [send, Framer.frame, encoded, ← metadata_wireFrame writer.framer.options header payload]
  exact sent_of_sends (writer.sink.sends_writeFrame _ _) _

end Framed

/-- A payload that cannot be framed does not reach the sink. Of every other one the sink has
taken header, payload and padding from the first byte on, and the same ones where the header is
kept apart. It is reported as sent when all of them have been taken and flushed, and only then. -/
theorem send_delivers_wire (writer : FrameWriter) (payload : List UInt8) (metadata : Metadata) :
    let encoded := (writer.framer.transceiver.encode payload.length metadata).1
    let send separateHeader := (writer.keepApart separateHeader).send payload metadata
    (∃ cause, encoded = .error cause ∧ ∀ separateHeader,
      (send separateHeader).1 = .error (.layout cause) ∧
        (send separateHeader).2.sink = writer.sink) ∨
    ∃ header, encoded = .ok header ∧ ∀ separateHeader,
      Sent writer.sink (writer.wire header.bytes payload) header.metadata
        (send separateHeader).1 (send separateHeader).2.sink := by
  intro encoded send
  rcases encoding : writer.framer.transceiver.encode payload.length metadata with
    ⟨result, transceiver⟩
  cases result with
  | error cause =>
      refine .inl ⟨cause, congrArg Prod.fst encoding, fun separateHeader => ?_⟩
      have refused := (writer.keepApart separateHeader).send_of_refused encoding
      exact ⟨congrArg Prod.fst refused, congrArg (·.2.sink) refused⟩
  | ok header =>
      refine .inr ⟨header, congrArg Prod.fst encoding, fun separateHeader => ?_⟩
      rw [← writer.wire_wireFrame separateHeader]
      exact (writer.keepApart separateHeader).sent_of_encoded encoding

end FrameWriter

end PacketFraming
