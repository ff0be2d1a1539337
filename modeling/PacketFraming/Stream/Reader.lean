import PacketFraming.Stream.Fault
import PacketFraming.Stream.Framer

/-! Receiving frames from a source.

A source answers every call as its script says, and once the script has run out it delivers
as much as is asked for. The reader turns bytes into items, lets a transceiver find the
headers, and collects the payloads. Whatever the chunks, the frames are the same. -/

namespace PacketFraming

structure ReadingOptions where
  /-- Bytes asked for in a call; one at least. -/
  chunkSize : UInt64 := 4096
deriving DecidableEq, Repr

namespace ReadingOptions

def toJson (options : ReadingOptions) : Json :=
  .object [("chunk_size", .natural options.chunkSize.toNat)]

def ofJson? (json : Json) : Option ReadingOptions := do
  let members ← json.record? ["chunk_size"]
  let base : ReadingOptions := {}
  let chunkSize ← Json.field? members "chunk_size" Json.uint64? base.chunkSize
  some { chunkSize }

/-- Reads options from text. Values of unknown members need only follow the grammar. -/
def parse? (text : String) : Option ReadingOptions :=
  (Json.parse? text).bind ofJson?

end ReadingOptions

inductive ReadReply
  | deliver (limit : Nat)
  | fail (cause : Fault)
deriving DecidableEq, Repr

/-- A source: the bytes it still holds, and the answers it will give. -/
structure Source where
  bytes : List UInt8
  script : List ReadReply
deriving DecidableEq, Repr

namespace Source

/-- Follows a script until it lets bytes through or fails; an interruption is tried again.
The limit of the delivery is returned, if there is one. -/
def answer : List ReadReply → Except Fault (Option Nat) × List ReadReply
  | [] => (.ok none, [])
  | .deliver limit :: script => (.ok (some limit), script)
  | .fail cause :: script =>
      if cause.kind = .interrupted then answer script else (.error cause, script)

def read (source : Source) (size : Nat) : Except Fault (List UInt8) × Source :=
  match answer source.script with
  | (.error cause, script) => (.error cause, { source with script })
  | (.ok limit, script) =>
      let count := match limit with
        | some limit => min limit size
        | none => size
      (.ok (source.bytes.take count), { bytes := source.bytes.drop count, script })

theorem length_read (source : Source) (size : Nat) {chunk : List UInt8} {next : Source}
    (success : source.read size = (.ok chunk, next)) :
    next.bytes.length + chunk.length = source.bytes.length := by
  unfold read at success
  split at success
  · simp at success
  · simp only [Prod.mk.injEq, Except.ok.injEq] at success
    obtain ⟨rfl, rfl⟩ := success
    simp only [List.length_drop, List.length_take]
    omega

def extend (source : Source) (bytes : List UInt8) : Source :=
  { source with bytes := source.bytes ++ bytes }

end Source

structure ReceivedFrame where
  metadata : Metadata
  /-- The payload: packed into bytes where items are bits, and one unit a byte elsewhere. -/
  payload : List UInt8
  offset : Nat
deriving DecidableEq, Repr

structure PendingFrame where
  metadata : Metadata
  offset : Nat
  /-- Payload items so far, the last one first. -/
  collected : List UInt8
  remaining : Nat
deriving DecidableEq, Repr

structure FrameReader where
  transceiver : Transceiver
  source : Source
  options : ReadingOptions
  /-- Items that have arrived and have not been looked at. -/
  buffered : List UInt8
  pending : Option PendingFrame

namespace FrameReader

def ofSource (source : Source) (transceiver : Transceiver) (options : ReadingOptions) :
    FrameReader where
  transceiver := transceiver
  source := source
  options := options
  buffered := []
  pending := none

def itemsOfBytes (layout : Layout) (bytes : List UInt8) : List UInt8 :=
  if layout.carriesUnits then bytes else unpackBits bytes

def payloadOfItems (layout : Layout) (items : List UInt8) : List UInt8 :=
  if layout.carriesUnits then items else packBits items

/-- Moves buffered items into a pending frame, which is returned once it is complete. -/
def collect (reader : FrameReader) (pending : PendingFrame) :
    Option ReceivedFrame × FrameReader :=
  let count := min pending.remaining reader.buffered.length
  let items := reader.buffered.take count
  let pending := { pending with
    collected := items.reverse ++ pending.collected
    remaining := pending.remaining - count }
  let reader := { reader with
    transceiver := { reader.transceiver with
      receiver := (reader.transceiver.receive items).receiver }
    buffered := reader.buffered.drop count }
  if pending.remaining = 0 then
    (some {
        metadata := pending.metadata
        payload := payloadOfItems reader.transceiver.layout pending.collected.reverse
        offset := pending.offset },
      { reader with pending := none })
  else (none, { reader with pending := some pending })

/-- Looks at the buffered items up to the end of a frame. -/
def advance (reader : FrameReader) : Option ReceivedFrame × FrameReader :=
  match reader.pending with
  | some pending => reader.collect pending
  | none =>
      let halt := reader.transceiver.receiveHeader reader.buffered
      let reader := { reader with
        transceiver := { reader.transceiver with receiver := halt.receiver }
        buffered := halt.rest }
      match halt.record with
      | none => (none, reader)
      | some metadata =>
          reader.collect {
            metadata
            offset := halt.receiver.position
            collected := []
            remaining := halt.receiver.remaining }

def chunkSize (reader : FrameReader) : Nat :=
  max reader.options.chunkSize.toNat 1

def buffer (reader : FrameReader) (bytes : List UInt8) : FrameReader :=
  { reader with
    buffered := reader.buffered ++ itemsOfBytes reader.transceiver.layout bytes }

@[simp] theorem source_collect (reader : FrameReader) (pending : PendingFrame) :
    (reader.collect pending).2.source = reader.source := by
  simp only [collect]
  split <;> rfl

@[simp] theorem source_advance (reader : FrameReader) :
    reader.advance.2.source = reader.source := by
  unfold advance
  split
  · simp
  · dsimp only
    split <;> simp

/-- Reads until a frame is complete. The source is asked only when the buffered items hold
no frame, and reading stops when it delivers nothing. -/
def readFrame (reader : FrameReader) : Except StreamError ReceivedFrame × FrameReader :=
  match _advanced : reader.advance with
  | (some frame, reader) => (.ok frame, reader)
  | (none, waiting) =>
      match _delivery : waiting.source.read waiting.chunkSize with
      | (.error cause, source) => (.error (.fault cause), { waiting with source })
      | (.ok [], source) => (.error .closed, { waiting with source })
      | (.ok (byte :: rest), source) =>
          readFrame ({ waiting with source }.buffer (byte :: rest))
termination_by reader.source.bytes.length
decreasing_by
  have shorter := Source.length_read _ _ _delivery
  have same : waiting.source = reader.source := by
    rw [← source_advance reader, _advanced]
  simp only [buffer]
  rw [← same]
  simp only [List.length_cons] at shorter
  omega

/-- The next frame, where the end of the stream is no error. -/
def next (reader : FrameReader) : Option (Except StreamError ReceivedFrame) × FrameReader :=
  match reader.readFrame with
  | (.error .closed, reader) => (none, reader)
  | (result, reader) => (some result, reader)

/-- The frames up to a number of them, or up to the end of the stream. The first failure
ends the reading. -/
def frames : (limit : Nat) → FrameReader → Except StreamError (List ReceivedFrame)
  | 0, _ => .ok []
  | limit + 1, reader =>
      match reader.next with
      | (none, _) => .ok []
      | (some (.error cause), _) => .error cause
      | (some (.ok frame), reader) => (frames limit reader).map (frame :: ·)

end FrameReader

end PacketFraming
