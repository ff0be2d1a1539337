import PacketFraming.Proofs.CallTraces
import PacketFraming.Proofs.MetadataEntries
import PacketFraming.Proofs.PacketFields

/-! Packets are counted one by one.

Whatever a transceiver is called for, it has counted the headers that it has written and nothing
else. The next header holds that number, and reports it, as far as the layout's counter goes. -/

namespace PacketFraming

/-! ## Counting headers -/

theorem Layout.counting?_of_packetCount? {layout : Layout} {count : PacketCount}
    (counted : layout.packetCount? = some count) :
    layout.counting? = some (count.period, count.key) := by
  cases layout with
  | plain layout => cases counted
  | counter | crc | units | carriers =>
      obtain rfl := Option.some.inj counted
      rfl

theorem Layout.counting?_of_uncounted {layout : Layout}
    (uncounted : layout.packetCount? = none) : layout.counting? = none := by
  cases layout with
  | plain layout => rfl
  | counter | crc | units | carriers => cases uncounted

namespace Encoder

theorem skip_next (encoder : Encoder) (count : Nat) :
    encoder.next.skip count = encoder.skip (count + 1) := by
  induction count with
  | zero => rfl
  | succ count induction => exact congrArg next induction

@[simp] theorem layout_skip (encoder : Encoder) (count : Nat) :
    (encoder.skip count).layout = encoder.layout := by
  induction count with
  | zero => rfl
  | succ count induction => exact (layout_next _).trans induction

/-- The counter of a header is the number of headers before it, modulo its period. -/
theorem packet_skip {layout : Layout} {period : Nat} {key : String}
    (counted : layout.counting? = some (period, key)) (count : Nat) :
    ((ofLayout layout).skip count).packet = count % period := by
  induction count with
  | zero => exact (Nat.zero_mod period).symm
  | succ count induction =>
      have counting : ((ofLayout layout).skip count).layout.counting? = some (period, key) := by
        rw [layout_skip]
        exact counted
      change ((ofLayout layout).skip count).next.packet = (count + 1) % period
      rw [next, counting]
      change (((ofLayout layout).skip count).packet + 1) % period = _
      rw [induction, Nat.mod_add_mod]

end Encoder

namespace SharedTransceiver

def Answer.isHeader : Answer → Bool
  | .header (.ok _) => true
  | _ => false

/-- How many headers have been written in calls. -/
def written (device : SharedTransceiver) (calls : List Call) : Nat :=
  (transcript answer device calls).countP fun entry => entry.2.isHeader

theorem fst_encode (device : SharedTransceiver) (length : Nat) (metadata : Metadata) :
    (device.encode length metadata).1 = (device.codec.encoder.encode length metadata).1 :=
  congrArg Prod.fst (device.encode_eq length metadata)

theorem encoder_encode (device : SharedTransceiver) (length : Nat) (metadata : Metadata) :
    (device.encode length metadata).2.codec.encoder =
      (device.codec.encoder.encode length metadata).2 :=
  congrArg (·.2.encoder) (device.encode_eq length metadata)

/-- A call that writes a header counts it, and no other call counts anything. -/
theorem encoder_answer (device : SharedTransceiver) (call : Call) :
    (device.answer call).2.codec.encoder =
      if (device.answer call).1.isHeader then device.codec.encoder.next
      else device.codec.encoder := by
  have kept (foreign : call.transmits = false) :
      (device.answer call).2.codec.encoder = device.codec.encoder :=
    transmitting_unwinding.kept foreign device
  cases call with
  | encode length metadata =>
      change (device.encode length metadata).2.codec.encoder =
        if (Answer.header (device.encode length metadata).1).isHeader then _ else _
      rw [encoder_encode, fst_encode, Encoder.encode]
      split <;> rfl
  | receive | receiveSoft | receiveHeader | reset | setThreshold => exact kept rfl

theorem encoder_after (device : SharedTransceiver) (calls : List Call) :
    (device.after calls).codec.encoder = device.codec.encoder.skip (device.written calls) := by
  induction calls generalizing device with
  | nil => rfl
  | cons call calls induction =>
      have further : device.written (call :: calls) =
          (device.answer call).2.written calls +
            if (device.answer call).1.isHeader then 1 else 0 :=
        List.countP_cons
      change ((device.answer call).2.after calls).codec.encoder = _
      rw [induction, encoder_answer, further]
      split
      · exact Encoder.skip_next _ _
      · rfl

theorem encode_of_refuses (device : SharedTransceiver) {length : Nat}
    (refuses : device.codec.layout.Refuses length) (metadata : Metadata) :
    device.encode length metadata = (.error (.payloadTooLarge length), device) := by
  have refused := Layout.encode_of_refuses refuses device.codec.packet
  have unchanged :
      device.codec.write length = (.error (.payloadTooLarge length), device.codec) := by
    rw [← refused]
    unfold HeaderCodec.write
    cases layout : device.codec.layout with
    | plain | counter => rfl
    | crc | units | carriers =>
        rw [layout] at refuses
        exact absurd refuses id
  rw [encode, HeaderCodec.encode, unchanged]
  rfl

theorem encoder_of_ofConfig {config : LayoutConfig} {device : SharedTransceiver}
    (built : ofConfig config = .ok device) :
    config.build = .ok device.codec.layout ∧
      device.codec.encoder = .ofLayout device.codec.layout := by
  have separated : Transceiver.ofConfig config = .ok device.separate := by
    rw [← separate_ofConfig, built]
    rfl
  rcases Transceiver.setThreshold_of_ofConfig separated with ⟨selected, accepted⟩
  exact ⟨selected, (Transceiver.fresh_of_setThreshold accepted).1⟩

end SharedTransceiver

/-- A header for a payload of `length` bytes, in front of which `count` headers have been
written. -/
structure EncodedHeader.Numbered (layout : Layout) (count length : Nat) (metadata : Metadata)
    (header : EncodedHeader) : Prop where
  whole : header.bytes.length = layout.headerBytes
  length : ∀ field ∈ layout.lengthFields,
    layout.Holds header.bytes field (layout.announcedLength length)
  counter : ∀ packets, layout.packetCount? = some packets →
    layout.Holds header.bytes packets.field (count % packets.period)
  metadata : header.metadata.entries =
    match layout.packetCount? with
    | some packets =>
        Metadata.setEntry packets.key (.natural (count % packets.period)) metadata.entries
    | none => metadata.entries

theorem Encoder.numbered_of_encode {layout : Layout} (count length : Nat) (metadata : Metadata)
    (announced : ¬layout.Refuses length) :
    ∃ header, (((ofLayout layout).skip count).encode length metadata).1 = .ok header ∧
      header.Numbered layout count length metadata := by
  have same : ((ofLayout layout).skip count).layout = layout := layout_skip _ count
  rcases Layout.exists_encode announced ((ofLayout layout).skip count).packet with
    ⟨bytes, encoded⟩
  have packet {packets : PacketCount} (counted : layout.packetCount? = some packets) :
      ((ofLayout layout).skip count).packet = count % packets.period :=
    packet_skip (Layout.counting?_of_packetCount? counted) count
  have period_pos (packets : PacketCount) (counted : layout.packetCount? = some packets) :
      0 < packets.period := by
    cases layout with
    | plain layout => cases counted
    | counter | crc | units | carriers =>
        obtain rfl := Option.some.inj counted
        exact Nat.succ_pos _
  have holds := Layout.holdsAll_encode encoded fun packets counted =>
    packet counted ▸ Nat.mod_lt _ (period_pos packets counted)
  refine ⟨{ bytes, metadata := ((ofLayout layout).skip count).record metadata }, ?_, ?_⟩
  · rw [encode, same, encoded]
  · exact {
      whole := Layout.length_encode encoded
      length := holds.lengths
      counter := fun packets counted => packet counted ▸ holds.counter packets counted
      metadata := by
        change (((ofLayout layout).skip count).record metadata).entries = _
        rw [record, same]
        cases counted : layout.packetCount? with
        | none => rw [Layout.counting?_of_uncounted counted]
        | some packets =>
            rw [Layout.counting?_of_packetCount? counted, packet counted]
            exact metadata.entries_insert _ _ }

namespace SharedTransceiver

/-- A payload that is too long for the layout is refused, and nothing changes. Every other one
gets a header with its length and with the number of headers that have been written before. -/
theorem headers_counted {config : LayoutConfig} {device : SharedTransceiver}
    (built : ofConfig config = .ok device) (calls : List Call) (length : Nat)
    (metadata : Metadata) :
    let reached := device.after calls
    let layout := device.codec.layout
    config.build = .ok layout ∧
      if layout.Refuses length then
        reached.encode length metadata = (.error (.payloadTooLarge length), reached)
      else
        ∃ header, (reached.encode length metadata).1 = .ok header ∧
          header.Numbered layout (device.written calls) length metadata := by
  intro reached layout
  rcases encoder_of_ofConfig built with ⟨selected, new⟩
  have same : reached.codec.layout = layout := device.layout_after calls
  refine ⟨selected, ?_⟩
  split
  · next refuses => exact reached.encode_of_refuses (same ▸ refuses) metadata
  · next announced =>
    have encoder : reached.codec.encoder = (Encoder.ofLayout layout).skip (device.written calls) :=
      new ▸ device.encoder_after calls
    rw [fst_encode, encoder]
    exact Encoder.numbered_of_encode (device.written calls) length metadata announced

/-- A payload that is too long is refused and not counted. -/
theorem headers_counted_refused :
    ∃ device, ofConfig (.counter { accessCode := "10101100" }) = .ok device ∧
      let reached := device.after [.encode 5 .empty, .encode 70000 .empty]
      reached.encode 70000 .empty = (.error (.payloadTooLarge 70000), reached) ∧
        ∃ header, (reached.encode 9 .empty).1 = .ok header ∧
          header.Numbered device.codec.layout 1 9 .empty := by
  have built : ofConfig (.counter { accessCode := "10101100" }) = .ok _ := rfl
  have refused := (headers_counted built [.encode 5 .empty, .encode 70000 .empty] 70000 .empty).2
  have numbered := (headers_counted built [.encode 5 .empty, .encode 70000 .empty] 9 .empty).2
  rw [if_pos (by decide)] at refused
  rw [if_neg (by decide)] at numbered
  exact ⟨_, built, refused, numbered⟩

end SharedTransceiver

end PacketFraming
