import PacketFraming.Proofs.Draining
import PacketFraming.Proofs.Writing

/-! Payloads written by one end and read by the other.

Between the two ends, bits of the access codes may be inverted, as many in each frame as the
reader tolerates. -/

namespace PacketFraming

/-- A frame has arrived with at most `threshold` wrong bits in its access code, and with nothing
else changed. -/
def Corrupts (layout : Layout) (threshold : Nat) (sent received : List UInt8) : Prop :=
  ∃ code rest, sent = layout.accessCode.bytes ++ rest ∧ received = code ++ rest ∧
    code.length = layout.accessCode.bytes.length ∧
    differences (bitsOfBytes code) (bitsOfBytes layout.accessCode.bytes) ≤ threshold

theorem SentFrame.legible_of_corrupts {layout : Layout} {threshold : Nat} {frame : SentFrame}
    {received : List UInt8} (written : frame.code = layout.accessCode.bytes)
    (announces : layout.Announces frame.payload.length frame.body frame.header)
    (corrupts : Corrupts layout threshold frame.wire received) :
    ∃ arrived : SentFrame, arrived.wire = received ∧ arrived.payload = frame.payload ∧
      arrived.Legible layout threshold := by
  rcases corrupts with ⟨code, rest, sent, rfl, aligned, close⟩
  rw [wire, written, List.append_assoc] at sent
  obtain rfl := List.append_cancel_left sent
  refine ⟨{ frame with code }, List.append_assoc _ _ _, rfl, {
    aligned := aligned.trans layout.accessCode.length_bytes
    close := ?_
    announces := announces }⟩
  rw [← AccessCode.bitsOfBytes_bytes]
  exact close

theorem legible_of_corrupts {layout : Layout} {threshold : Nat} {frames : List SentFrame}
    {received : List (List UInt8)}
    (written : ∀ frame ∈ frames, frame.code = layout.accessCode.bytes ∧
      layout.Announces frame.payload.length frame.body frame.header)
    (corrupted : List.Forall₂ (Corrupts layout threshold) (frames.map SentFrame.wire) received) :
    ∃ arrived : List SentFrame, arrived.map SentFrame.wire = received ∧
      arrived.map SentFrame.payload = frames.map SentFrame.payload ∧
      ∀ frame ∈ arrived, frame.Legible layout threshold := by
  induction frames generalizing received with
  | nil =>
      obtain rfl := List.forall₂_nil_left_iff.mp corrupted
      exact ⟨[], rfl, rfl, by simp⟩
  | cons frame rest induction =>
      rw [List.map_cons] at corrupted
      rcases List.forall₂_cons_left_iff.mp corrupted with ⟨first, others, head, tail, rfl⟩
      rw [List.forall_mem_cons] at written
      rcases SentFrame.legible_of_corrupts written.1.1 written.1.2 head with
        ⟨arrived, wire, payload, legible⟩
      rcases induction written.2 tail with ⟨behind, wires, payloads, allLegible⟩
      refine ⟨arrived :: behind, ?_, ?_, List.forall_mem_cons.mpr ⟨legible, allLegible⟩⟩
      · rw [List.map_cons, wire, wires]
      · rw [List.map_cons, List.map_cons, payload, payloads]

theorem Encoder.inPeriod_ofLayout (layout : Layout) : (ofLayout layout).InPeriod := by
  intro period key counted
  cases layout with
  | plain layout => exact absurd counted (by simp [ofLayout, Layout.counting?])
  | counter | crc | units | carriers =>
      obtain ⟨rfl, -⟩ := Prod.mk.inj (Option.some.inj counted)
      exact Nat.succ_pos _

namespace FrameWriter

def fresh (transceiver : Transceiver) (separateHeader : Bool) : FrameWriter where
  framer := { transceiver, options := { separateHeader } }
  sink := .ofScript [] []

theorem ready_fresh {config : LayoutConfig} {transceiver : Transceiver}
    (built : Transceiver.ofConfig config = .ok transceiver) (separateHeader : Bool) :
    (fresh transceiver separateHeader).Ready transceiver.layout where
  framer := {
    layout_eq := rfl
    inPeriod := by
      have accepted := (Transceiver.setThreshold_of_ofConfig built).2
      change transceiver.encoder.InPeriod
      rw [(Transceiver.fresh_of_setThreshold accepted).1]
      exact Encoder.inPeriod_ofLayout transceiver.layout
    padding := rfl }
  willing := { writes := rfl, flushes := rfl }

end FrameWriter

namespace Session

/-- What has been written is read back, payload by payload, and then the stream is closed. -/
theorem read_written (config : LayoutConfig) {transceiver : Transceiver}
    (built : Transceiver.ofConfig config = .ok transceiver)
    (carries : transceiver.layout.CarriesBytes) (payloads : List (List UInt8 × Metadata))
    (fit : ∀ entry ∈ payloads, entry.1.length ≤ transceiver.layout.maxLength)
    (separateHeader : Bool) (options : ReadingOptions) (received : List (List UInt8))
    (corrupted : List.Forall₂ (Corrupts transceiver.layout config.threshold.toNat)
      ((FrameWriter.fresh transceiver separateHeader).wires payloads) received) :
    let sent := (FrameWriter.fresh transceiver separateHeader).sendAll payloads
    let session := (start { bytes := received.flatten, script := [] } transceiver options).run
      (List.replicate payloads.length .readFrame)
    (∀ result ∈ sent.1, result.isOk = true) ∧
      sent.2.sink.taken =
        ((FrameWriter.fresh transceiver separateHeader).wires payloads).flatten ∧
      session.returned.map ReceivedFrame.payload = payloads.map Prod.fst ∧
      (session.call .readFrame).1 = .failed .closed ∧
      (transceiver.layout.DefaultKeys → ∀ frame ∈ session.returned,
        frame.metadata.get? Metadata.payloadBitsKey =
          some (.natural (8 * frame.payload.length))) := by
  have ready := FrameWriter.ready_fresh built separateHeader
  have fresh := (Transceiver.fresh_of_setThreshold
    (Transceiver.setThreshold_of_ofConfig built).2).2
  rcases FrameWriter.sendAll_of_ready ready carries fit with
    ⟨frames, sameSent, written, wires, taken, succeeded⟩
  rw [wires] at corrupted
  rcases legible_of_corrupts written corrupted with ⟨arrived, sameWires, sameArrived, legible⟩
  have restored := framesOf_frames legible
  have stream : arrived.flatMap SentFrame.wire = received.flatten := by
    rw [← sameWires, List.flatMap_def]
  rw [stream] at restored
  have count : (transceiver.framesOfBytes config.threshold.toNat received.flatten).length =
      payloads.length := by
    have lengths := congrArg List.length (sameArrived.trans sameSent)
    rw [List.length_map, List.length_map] at lengths
    exact restored.length_eq.trans lengths
  have drained := drain fresh received.flatten options
  rw [count] at drained
  refine ⟨succeeded, taken, ?_, drained.2, ?_⟩
  · rw [drained.1, ← sameSent, ← sameArrived, ← List.forall₂_eq_eq_eq,
      List.forall₂_map_left_iff, List.forall₂_map_right_iff]
    exact restored.imp fun received frame restored => restored.payload
  · intro default
    rw [drained.1]
    exact ((List.forall₂_and_left _ _).mp
      (restored.imp fun received frame restored => ⟨restored.reported default, restored⟩)).1

/-- Two frames, the first of which arrives with a wrong bit in its access code. -/
theorem read_written_wrong_bit :
    ∃ transceiver,
      Transceiver.ofConfig (.plain { accessCode := "10101100", threshold := 1 }) =
        .ok transceiver ∧
      let session := (start
        { bytes := [0xAD, 0, 1, 0, 1, 0x55, 0xAC, 0, 0, 0, 0], script := [] } transceiver
        { chunkSize := 0 }).run (List.replicate 2 .readFrame)
      session.returned.map ReceivedFrame.payload = [[0x55], []] ∧
        (session.call .readFrame).1 = .failed .closed := by
  refine ⟨_, rfl, ?_⟩
  have written := read_written (.plain { accessCode := "10101100", threshold := 1 }) rfl trivial
    [([0x55], .empty), ([], .empty)] (by decide) true { chunkSize := 0 }
    [[0xAD, 0, 1, 0, 1, 0x55], [0xAC, 0, 0, 0, 0]]
    (.cons ⟨[0xAD], [0, 1, 0, 1, 0x55], by decide +kernel, rfl, rfl, by decide +kernel⟩
      (.cons ⟨[0xAC], [0, 0, 0, 0], by decide +kernel, rfl, rfl, by decide +kernel⟩ .nil))
  exact ⟨written.2.2.1, written.2.2.2.1⟩

end Session

end PacketFraming
