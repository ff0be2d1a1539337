import PacketFraming.Proofs.SentFrames

/-! A writer whose sink takes everything.

Every payload goes out behind its header, and after that the writer is ready for the next one. -/

namespace PacketFraming

namespace Sink

structure Willing (sink : Sink) : Prop where
  writes : sink.writes = []
  flushes : sink.flushes = []

theorem deliver_nil (bytes : List UInt8) : deliver [] bytes = (.ok (), bytes, []) := by
  cases bytes <;> rfl

theorem write_of_willing {sink : Sink} (willing : sink.Willing) (bytes : List UInt8) :
    sink.write bytes = (.ok (), { sink with taken := sink.taken ++ bytes }) := by
  rw [write, willing.writes, deliver_nil]

theorem flush_of_willing {sink : Sink} (willing : sink.Willing) :
    sink.flush = (.ok (), { sink with flushed := sink.flushed + 1 }) := by
  rw [flush, willing.flushes, settle]

theorem Willing.with_taken {sink : Sink} (willing : sink.Willing) (taken : List UInt8) :
    { sink with taken }.Willing where
  writes := willing.writes
  flushes := willing.flushes

theorem writeAfter_of_willing {sink : Sink} (willing : sink.Willing) (bytes : List UInt8) :
    writeAfter (.ok (), sink) bytes = (.ok (), { sink with taken := sink.taken ++ bytes }) :=
  write_of_willing willing bytes

theorem writeFrame_of_willing {sink : Sink} (willing : sink.Willing)
    (header : Option (List UInt8)) (body : List UInt8) :
    sink.writeFrame header body = (.ok (), { sink with
      taken := sink.taken ++ (header.getD [] ++ body)
      flushed := sink.flushed + 1 }) := by
  cases header with
  | none =>
      rw [writeFrame, writeAfter_of_willing willing]
      exact flush_of_willing (willing.with_taken _)
  | some header =>
      have front := willing.with_taken (sink.taken ++ header)
      rw [writeFrame, write_of_willing willing, writeAfter_of_willing front]
      dsimp only
      rw [flush_of_willing (front.with_taken _), List.append_assoc]
      rfl

end Sink

theorem Encoder.inPeriod_next {encoder : Encoder} (inPeriod : encoder.InPeriod) :
    encoder.next.InPeriod := by
  intro period key counted
  cases counting : encoder.layout.counting? with
  | none =>
      rw [next, counting] at counted ⊢
      exact inPeriod period key counted
  | some pair =>
      rw [next, counting] at counted ⊢
      obtain rfl := Option.some.inj (counting.symm.trans counted)
      exact Nat.mod_lt _ (Nat.zero_lt_of_lt (inPeriod period key counting))

namespace Framer

/-- A framer for a layout, without padding, with a counter that headers can carry. -/
structure Ready (layout : Layout) (framer : Framer) : Prop where
  layout_eq : framer.transceiver.layout = layout
  inPeriod : framer.transceiver.encoder.InPeriod
  padding : framer.options.padding = 0

variable {layout : Layout} {framer : Framer}

theorem encode_of_ready (ready : framer.Ready layout) (carries : layout.CarriesBytes)
    {length : Nat} (fits : length ≤ layout.maxLength) (metadata : Metadata) :
    ∃ body header, layout.Announces length body header ∧
      framer.transceiver.encode length metadata =
        (.ok {
            bytes := layout.accessCode.bytes ++ body
            metadata := framer.transceiver.encoder.record metadata },
          { framer.transceiver with encoder := framer.transceiver.encoder.next }) := by
  have inPeriod := ready.inPeriod
  rcases ready.layout_eq with rfl
  rcases framer.transceiver.layout.encode_announces carries fits inPeriod with
    ⟨body, header, encoded, announces⟩
  refine ⟨body, header, announces, ?_⟩
  rw [Transceiver.layout] at encoded
  rw [Transceiver.encode, Encoder.encode, encoded]
  rfl

theorem frame_of_ready (ready : framer.Ready layout) (carries : layout.CarriesBytes)
    {payload : List UInt8} (fits : payload.length ≤ layout.maxLength) (metadata : Metadata) :
    ∃ body header frame next, framer.frame payload metadata = (.ok frame, next) ∧
      layout.Announces payload.length body header ∧ next.Ready layout ∧
      frame.wire = layout.accessCode.bytes ++ body ++ payload := by
  rcases encode_of_ready ready carries fits metadata with ⟨body, header, announces, encoded⟩
  have padded : payload ++ List.replicate framer.options.padding.toNat 0 = payload := by
    rw [ready.padding]
    exact List.append_nil payload
  have readyNext : Ready layout { framer with
      transceiver := { framer.transceiver with encoder := framer.transceiver.encoder.next } } := {
    layout_eq := by
      rw [← ready.layout_eq]
      exact framer.transceiver.encoder.layout_next
    inPeriod := Encoder.inPeriod_next ready.inPeriod
    padding := ready.padding }
  by_cases separate : framer.options.separateHeader = true
  · refine ⟨body, header, {
      metadata := framer.transceiver.encoder.record metadata
      header := some (layout.accessCode.bytes ++ body)
      body := payload }, _, ?_, announces, readyNext, rfl⟩
    rw [frame, encoded]
    simp only [Except.map, FramingOptions.wireFrame, padded, if_pos separate]
  · refine ⟨body, header, {
      metadata := framer.transceiver.encoder.record metadata
      header := none
      body := layout.accessCode.bytes ++ body ++ payload }, _, ?_, announces, readyNext, rfl⟩
    rw [frame, encoded]
    simp only [Except.map, FramingOptions.wireFrame, padded, if_neg separate]

end Framer

namespace FrameWriter

/-- A writer for a layout, without padding, whose sink takes everything. -/
structure Ready (layout : Layout) (writer : FrameWriter) : Prop where
  framer : writer.framer.Ready layout
  willing : writer.sink.Willing

def sendAll (writer : FrameWriter) :
    List (List UInt8 × Metadata) → List (Except StreamError Metadata) × FrameWriter
  | [] => ([], writer)
  | (payload, metadata) :: rest =>
      let (result, next) := writer.send payload metadata
      let (results, last) := next.sendAll rest
      (result :: results, last)

def wires (writer : FrameWriter) : List (List UInt8 × Metadata) → List (List UInt8)
  | [] => []
  | (payload, metadata) :: rest =>
      let next := (writer.send payload metadata).2
      next.sink.taken.drop writer.sink.taken.length :: next.wires rest

variable {layout : Layout} {writer : FrameWriter}

theorem send_of_ready (ready : writer.Ready layout) (carries : layout.CarriesBytes)
    {payload : List UInt8} (fits : payload.length ≤ layout.maxLength) (metadata : Metadata) :
    ∃ body header record next, writer.send payload metadata = (.ok record, next) ∧
      layout.Announces payload.length body header ∧ next.Ready layout ∧
      next.sink.taken =
        writer.sink.taken ++ (layout.accessCode.bytes ++ body ++ payload) := by
  rcases Framer.frame_of_ready ready.framer carries fits metadata with
    ⟨body, header, frame, framer, framed, announces, framerReady, wire⟩
  have written := Sink.writeFrame_of_willing ready.willing frame.header frame.body
  refine ⟨body, header, frame.metadata, {
    framer
    sink := { writer.sink with
      taken := writer.sink.taken ++ (frame.header.getD [] ++ frame.body)
      flushed := writer.sink.flushed + 1 } }, ?_, announces, ?_, ?_⟩
  · rw [send, framed]
    dsimp only
    rw [written]
    rfl
  · exact {
      framer := framerReady
      willing := { writes := ready.willing.writes, flushes := ready.willing.flushes } }
  · exact congrArg (writer.sink.taken ++ ·) wire

/-- All payloads are sent, each as a frame of its own. -/
theorem sendAll_of_ready (ready : writer.Ready layout) (carries : layout.CarriesBytes)
    {payloads : List (List UInt8 × Metadata)}
    (fit : ∀ entry ∈ payloads, entry.1.length ≤ layout.maxLength) :
    ∃ frames : List SentFrame, frames.map SentFrame.payload = payloads.map Prod.fst ∧
      (∀ frame ∈ frames, frame.code = layout.accessCode.bytes ∧
        layout.Announces frame.payload.length frame.body frame.header) ∧
      writer.wires payloads = frames.map SentFrame.wire ∧
      (writer.sendAll payloads).2.sink.taken =
        writer.sink.taken ++ (writer.wires payloads).flatten ∧
      ∀ result ∈ (writer.sendAll payloads).1, result.isOk = true := by
  induction payloads generalizing writer with
  | nil => exact ⟨[], rfl, by simp, rfl, (List.append_nil _).symm, by simp [sendAll]⟩
  | cons entry rest induction =>
      rcases entry with ⟨payload, metadata⟩
      simp only [List.forall_mem_cons] at fit
      rcases send_of_ready ready carries fit.1 metadata with
        ⟨body, header, record, next, sent, announces, readyNext, taken⟩
      rcases induction readyNext fit.2 with ⟨frames, payloads, written, wires, all, succeeded⟩
      have first : next.sink.taken.drop writer.sink.taken.length =
          layout.accessCode.bytes ++ body ++ payload := by
        rw [taken, List.drop_left]
      refine ⟨{ code := layout.accessCode.bytes, body, payload, header } :: frames, ?_, ?_, ?_,
        ?_, ?_⟩
      · rw [List.map_cons, List.map_cons, payloads]
      · exact List.forall_mem_cons.mpr ⟨⟨rfl, announces⟩, written⟩
      · rw [FrameWriter.wires, sent, wires, List.map_cons, first]
        rfl
      · rw [FrameWriter.wires, sendAll, sent, List.flatten_cons, first]
        change (next.sendAll rest).2.sink.taken = _
        rw [all, taken, List.append_assoc]
      · rw [sendAll, sent]
        exact List.forall_mem_cons.mpr ⟨rfl, succeeded⟩

end FrameWriter

end PacketFraming
