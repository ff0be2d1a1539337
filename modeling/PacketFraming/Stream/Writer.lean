import PacketFraming.Stream.Fault
import PacketFraming.Stream.Framer

/-! Sending framed payloads into a sink.

A sink answers every call as its script says, and once the script has run out it accepts
everything. What a sender does with the answers is the subject of this module: it goes on
after a partial write, tries again after an interruption, and stops at anything else. -/

namespace PacketFraming

inductive WriteReply
  /-- It takes at most this many bytes. -/
  | accept (limit : Nat)
  | fail (cause : Fault)
deriving DecidableEq, Repr

inductive FlushReply
  | done
  | fail (cause : Fault)
deriving DecidableEq, Repr

/-- A sink: the answers it will give, and what it has been given. -/
structure Sink where
  writes : List WriteReply
  flushes : List FlushReply
  taken : List UInt8
  flushed : Nat
deriving DecidableEq, Repr

namespace Sink

def ofScript (writes : List WriteReply) (flushes : List FlushReply) : Sink where
  writes := writes
  flushes := flushes
  taken := []
  flushed := 0

/-- Writes bytes until all are taken, following a script of answers. The bytes taken and
the answers left are returned with the outcome. Nothing is called for no bytes. -/
def deliver : List WriteReply → List UInt8 → Except Fault Unit × List UInt8 × List WriteReply
  | script, [] => (.ok (), [], script)
  | [], bytes => (.ok (), bytes, [])
  | .accept limit :: script, bytes =>
      if limit = 0 then (.error (.ofKind .writeZero), [], script)
      else
        let (outcome, taken, script) := deliver script (bytes.drop limit)
        (outcome, bytes.take limit ++ taken, script)
  | .fail cause :: script, bytes =>
      if cause.kind = .interrupted then deliver script bytes
      else (.error cause, [], script)

def write (sink : Sink) (bytes : List UInt8) : Except Fault Unit × Sink :=
  let (outcome, taken, writes) := deliver sink.writes bytes
  (outcome, { sink with writes, taken := sink.taken ++ taken })

/-- Follows a script of answers until a flush succeeds or fails. -/
def settle : List FlushReply → Except Fault Unit × List FlushReply
  | [] => (.ok (), [])
  | .done :: script => (.ok (), script)
  | .fail cause :: script =>
      if cause.kind = .interrupted then settle script else (.error cause, script)

def flush (sink : Sink) : Except Fault Unit × Sink :=
  let (outcome, flushes) := settle sink.flushes
  let flushed := match outcome with
    | .ok () => sink.flushed + 1
    | .error _ => sink.flushed
  (outcome, { sink with flushes, flushed })

/-- Writes bytes, if nothing has failed before. -/
def writeAfter (before : Except Fault Unit × Sink) (bytes : List UInt8) :
    Except Fault Unit × Sink :=
  match before with
  | (.ok (), sink) => sink.write bytes
  | failed => failed

/-- Writes a frame, its header first, and flushes. -/
def writeFrame (sink : Sink) (header : Option (List UInt8)) (body : List UInt8) :
    Except Fault Unit × Sink :=
  let afterHeader := match header with
    | some header => sink.write header
    | none => (.ok (), sink)
  match writeAfter afterHeader body with
  | (.ok (), sink) => sink.flush
  | failed => failed

end Sink

structure FrameWriter where
  framer : Framer
  sink : Sink

namespace FrameWriter

def send (writer : FrameWriter) (payload : List UInt8) (metadata : Metadata) :
    Except StreamError Metadata × FrameWriter :=
  let (result, framer) := writer.framer.frame payload metadata
  match result with
  | .error cause => (.error (.layout cause), { writer with framer })
  | .ok frame =>
      let (outcome, sink) := writer.sink.writeFrame frame.header frame.body
      ((outcome.mapError .fault).map fun _ => frame.metadata, { framer, sink })

end FrameWriter

end PacketFraming
