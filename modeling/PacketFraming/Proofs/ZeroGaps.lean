import Mathlib.Data.List.Forall2
import PacketFraming.Proofs.RoundTrip

/-! Gaps of zero bits between frames.

An access code with a one in it is found behind zeros where it ends and nowhere before. Any
earlier window begins in the zeros; if it were the code, the code would be the beginning of
itself moved back behind zeros, and so zero throughout. -/

namespace PacketFraming

/-! ## Windows over zeros -/

/-- Bits that begin like themselves behind some zeros are all zero. -/
theorem true_not_mem_of_take_replicate_append {bits : List Bool} {lead : Nat} (positive : 0 < lead)
    (shifted : (List.replicate lead false ++ bits).take bits.length = bits) : true ∉ bits := by
  have unset : ∀ index : Nat, bits[index]? ≠ some true := by
    intro index
    induction index using Nat.strongRecOn with
    | ind index induction =>
        by_cases inside : index < bits.length
        · have moved : bits[index]? = (List.replicate lead false ++ bits)[index]? := by
            conv_lhs => rw [← shifted]
            exact List.getElem?_take_of_lt inside
          rw [moved]
          by_cases front : index < lead
          · rw [List.getElem?_append_left (by rwa [List.length_replicate]),
              List.getElem?_replicate_of_lt front]
            simp
          · rw [List.getElem?_append_right (by rw [List.length_replicate]; omega),
              List.length_replicate]
            exact induction (index - lead) (by omega)
        · rw [List.getElem?_eq_none (Nat.le_of_not_lt inside)]
          simp
  intro member
  rcases List.mem_iff_getElem?.mp member with ⟨index, set⟩
  exact unset index set

@[simp] theorem map_itemBit_map_bitItem (bits : List Bool) :
    (bits.map bitItem).map itemBit = bits := by
  rw [List.map_map]
  exact List.map_id'' itemBit_bitItem bits

theorem differences_eq_zero_iff {first second : List Bool} (same : first.length = second.length) :
    differences first second = 0 ↔ first = second := by
  unfold differences
  induction first generalizing second with
  | nil =>
      cases second with
      | nil => simp
      | cons bit rest => exact absurd same (Nat.succ_ne_zero _).symm
  | cons bit rest induction =>
      cases second with
      | nil => exact absurd same (Nat.succ_ne_zero _)
      | cons other others =>
          have tails := induction (Nat.succ.inj same)
          rw [List.zipWith_cons_cons, List.count_cons, Nat.add_eq_zero_iff, tails, List.cons.injEq,
            and_comm]
          refine and_congr_left fun _ => ?_
          cases bit <;> cases other <;> decide

namespace Scan

variable {code : AccessCode} {items : List UInt8} {start finish : Nat}

theorem codeEndsAt_zero_iff (enough : code.length ≤ finish) (before : finish ≤ items.length) :
    codeEndsAt code 0 items finish = true ↔
      ((items.drop (finish - code.length)).map itemBit).take code.length = code.bits := by
  have width : finish - (finish - code.length) = code.length := by omega
  have window : (items.extract (finish - code.length) finish).map itemBit =
      ((items.drop (finish - code.length)).map itemBit).take code.length := by
    rw [List.extract_eq_take_drop, width, List.map_take]
  have whole : (((items.drop (finish - code.length)).map itemBit).take code.length).length =
      code.bits.length := by
    rw [List.length_take_of_le (by rw [List.length_map, List.length_drop]; omega),
      AccessCode.length_bits]
  rw [codeEndsAt, window, decide_eq_true_iff, Nat.le_zero, differences_eq_zero_iff whole]

theorem not_isEmpty_of_mem (sounding : true ∈ code.bits) : ¬code.isEmpty = true := by
  intro empty
  have none := List.length_eq_zero_iff.mp
    (code.length_bits.trans (code.isEmpty_iff.mp empty))
  rw [none] at sounding
  exact List.not_mem_nil sounding

/-- Behind a gap of zeros the code is found at its end, not in front of it. -/
theorem codeEnd?_of_gap (sounding : true ∈ code.bits) {gap : Nat} {rest : List UInt8}
    (inside : start ≤ items.length)
    (parts : items.drop start =
      List.replicate gap (bitItem false) ++ (code.bits.map bitItem ++ rest)) :
    codeEnd? code 0 items start = some (start + gap + code.length) := by
  have present := not_isEmpty_of_mem sounding
  have total := congrArg List.length parts
  simp only [List.length_append, List.length_replicate, List.length_map, List.length_drop,
    AccessCode.length_bits] at total
  -- What is heard from a place in the gap: the rest of the zeros, and then the code.
  have heard (lost : Nat) (within : lost ≤ gap) :
      ((items.drop (start + lost)).map itemBit).take code.length =
        (List.replicate (gap - lost) false ++ code.bits).take code.length := by
    rw [← List.drop_drop, parts, List.drop_append_of_le_length (by rwa [List.length_replicate]),
      List.drop_replicate, List.map_append, List.map_replicate, itemBit_bitItem, List.map_append,
      map_itemBit_map_bitItem, ← List.append_assoc, List.take_append_of_le_length (by simp)]
  refine (codeEnd?_eq_some present).mpr ⟨?_, ⟨by omega, by omega⟩, ?_⟩
  · rw [codeEndsAt_zero_iff (by omega) (by omega), Nat.add_sub_cancel,
      heard gap (Nat.le_refl gap), Nat.sub_self, List.replicate_zero, List.nil_append,
      ← AccessCode.length_bits, List.take_length]
  · intro earlier after before found
    have place : earlier - code.length = start + (earlier - code.length - start) := by omega
    rw [codeEndsAt_zero_iff (by omega) (by omega), place, heard _ (by omega)] at found
    have lead : 0 < gap - (earlier - code.length - start) := by omega
    apply true_not_mem_of_take_replicate_append lead _ sounding
    rw [AccessCode.length_bits]
    exact found

theorem codeEnd?_of_zeros (sounding : true ∈ code.bits) {count : Nat}
    (zeros : items.drop start = List.replicate count (bitItem false)) :
    codeEnd? code 0 items start = none := by
  apply (codeEnd?_eq_none (not_isEmpty_of_mem sounding)).mpr
  intro finish after before found
  have place : finish - code.length = start + (finish - code.length - start) := by omega
  rw [codeEndsAt_zero_iff (by omega) before, place, ← List.drop_drop, zeros,
    List.drop_replicate, List.map_replicate, itemBit_bitItem, List.take_replicate] at found
  rw [← found] at sounding
  exact absurd (List.eq_of_mem_replicate sounding) (by decide)

end Scan

/-! ## Frames with gaps in front -/

/-- A frame behind zero bits, as a receiver of `layout` reads it. -/
structure Burst (layout : Layout) where
  gap : Nat
  /-- The items of the header behind its access code. -/
  body : List UInt8
  payload : List UInt8
  header : DecodedHeader
  whole : body.length = layout.bodyItems
  accepted : layout.readItems? body = some header
  complete : payload.length = header.payloadItems

namespace Burst

variable {layout : Layout}

def items (burst : Burst layout) : List UInt8 :=
  List.replicate burst.gap (bitItem false) ++
    (layout.accessCode.bits.map bitItem ++ (burst.body ++ burst.payload))

def record (burst : Burst layout) : Metadata :=
  burst.header.metadata.insert Metadata.skippedItemsKey
    (.natural (burst.gap + layout.accessCode.length + layout.bodyItems))

end Burst

theorem Scan.headers_of_bursts {layout : Layout} (sounding : true ∈ layout.accessCode.bits)
    (items : List UInt8) (bursts : List (Burst layout)) (trailing start : Nat)
    (inside : start ≤ items.length)
    (rest : items.drop start =
      bursts.flatMap Burst.items ++ List.replicate trailing (bitItem false)) :
    (ofStream layout 0 items start start).headers.map FoundHeader.metadata =
      bursts.map Burst.record := by
  induction bursts generalizing start with
  | nil =>
      rw [ofStream_of_nowhere start (codeEnd?_of_zeros sounding rest)]
      rfl
  | cons burst others induction =>
      have total := congrArg List.length rest
      simp only [List.flatMap_cons, Burst.items, List.length_append, List.length_drop,
        List.length_replicate, List.length_map, AccessCode.length_bits, burst.whole,
        burst.complete] at total
      simp only [List.flatMap_cons, Burst.items, List.append_assoc] at rest
      -- The search is over with the code, and the next one begins behind the payload.
      have found := codeEnd?_of_gap sounding inside rest
      have behindGap := (extract_of_drop rest (by rw [List.length_replicate])).2
      have behindCode := (extract_of_drop behindGap
        (by rw [List.length_map, AccessCode.length_bits])).2
      have atBody := extract_of_drop behindCode (by rw [burst.whole])
      have atPayload := extract_of_drop atBody.2 (by rw [burst.complete])
      have accepted := burst.accepted
      rw [← atBody.1] at accepted
      have skipped : start + burst.gap + layout.accessCode.length + layout.bodyItems - start =
          burst.gap + layout.accessCode.length + layout.bodyItems := by
        omega
      rw [ofStream_of_frame start found accepted (by omega)]
      refine congrArg₂ List.cons ?_ (induction _ (by omega) atPayload.2)
      rw [FoundHeader.metadata, FoundHeader.ofDecoded, skipped]
      rfl

/-! ## Formatted headers -/

namespace Layout

theorem encode_of_sounding {layout : Layout} (sounding : true ∈ layout.accessCode.bits)
    {packet length : Nat} (fits : length ≤ maxShortLength)
    (packet_lt : ∀ period key, layout.counting? = some (period, key) → packet < period) :
    ∃ body header, layout.encode packet length = .ok (layout.accessCode.bytes ++ body) ∧
      (unpackBits body).length = layout.bodyItems ∧
      layout.readItems? (unpackBits body) = some header ∧
      header.payloadItems = 8 * length / layout.payloadItemBits ∧
      header.metadata.get? Metadata.payloadBitsKey = some (.natural (8 * length)) := by
  cases layout with
  | plain layout =>
      refine ⟨_, _, ?_, ?_, layout.readItems?_encode fits, (Nat.div_one _).symm, rfl⟩
      · rw [encode, PlainLayout.encode, shortLength, if_pos fits]
        exact congrArg Except.ok (List.append_assoc _ _ _)
      · rw [length_unpackBits, List.length_append, length_bigEndian, bodyItems_of_bits rfl]
        rfl
  | counter layout =>
      refine ⟨_, _, ?_, ?_, layout.readItems?_encode fits (packet_lt _ _ rfl), ?_, rfl⟩
      · rw [encode, CounterLayout.encode, shortLength, if_pos fits]
        change Except.ok (layout.code.bytes ++ _ ++ _ ++ _ ++ _) =
          Except.ok (layout.code.bytes ++ _)
        simp only [List.append_assoc]
      · simp only [length_unpackBits, List.length_append, length_bigEndian]
        rw [bodyItems_of_bits rfl]
        rfl
      · rw [CounterLayout.header, Nat.max_eq_left layout.symbolBits_pos]
        rfl
  | crc | units | carriers => exact absurd sounding List.not_mem_nil

end Layout

structure SpacedFrame where
  /-- How many zero bits come first. -/
  gap : Nat
  /-- The length of the payload in bytes, as the header announces it. -/
  length : Nat
  payload : List UInt8

/-- The bits of frames in a row, each behind its gap: a header that the encoder writes, and the
items of its payload. -/
def Encoder.line (encoder : Encoder) : List SpacedFrame → Except LayoutError (List UInt8)
  | [] => .ok []
  | frame :: rest => do
      let (result, next) := encoder.encode frame.length .empty
      let header ← result
      let behind ← next.line rest
      return List.replicate frame.gap (bitItem false) ++ unpackBits header.bytes ++
        frame.payload ++ behind

structure SpacedFrame.Reported (layout : Layout) (record : Metadata) (frame : SpacedFrame) :
    Prop where
  payloadBits : record.get? Metadata.payloadBitsKey = some (.natural (8 * frame.length))
  skipped : record.get? Metadata.skippedItemsKey =
    some (.natural (frame.gap + layout.headerBits))

theorem Encoder.line_eq_bursts {layout : Layout} (sounding : true ∈ layout.accessCode.bits)
    {encoder : Encoder} (layout_eq : encoder.layout = layout) (inPeriod : encoder.InPeriod)
    {frames : List SpacedFrame} (accepted : ∀ frame ∈ frames, frame.length ≤ maxShortLength)
    (complete : ∀ frame ∈ frames,
      frame.payload.length = 8 * frame.length / layout.payloadItemBits) :
    ∃ bursts : List (Burst layout), encoder.line frames = .ok (bursts.flatMap Burst.items) ∧
      List.Forall₂ (fun burst frame => SpacedFrame.Reported layout (Burst.record burst) frame)
        bursts frames := by
  induction frames generalizing encoder with
  | nil => exact ⟨[], rfl, .nil⟩
  | cons frame rest induction =>
      rw [List.forall_mem_cons] at accepted complete
      have packet_lt := inPeriod
      rw [InPeriod, layout_eq] at packet_lt
      rcases Layout.encode_of_sounding sounding accepted.1 packet_lt with
        ⟨body, header, encoded, whole, read, payloadItems, payloadBits⟩
      rcases induction (encoder.layout_next.trans layout_eq) (inPeriod_next inPeriod) accepted.2
        complete.2 with ⟨bursts, behind, reported⟩
      let burst : Burst layout := {
        gap := frame.gap
        body := unpackBits body
        payload := frame.payload
        header := header
        whole := whole
        accepted := read
        complete := complete.1.trans payloadItems.symm }
      refine ⟨burst :: bursts, ?_, .cons ⟨?_, ?_⟩ reported⟩
      · rw [line, encode, layout_eq, encoded]
        change Except.map _ (encoder.next.line rest) = _
        rw [behind, List.flatMap_cons, unpackBits_append, AccessCode.unpackBits_bytes]
        change Except.ok _ = Except.ok _
        simp only [Burst.items, List.append_assoc, burst]
      · rw [Burst.record, Metadata.get?_insert_of_ne _ _ (by decide)]
        exact payloadBits
      · have single := Layout.unitWidth?_of_accessCode (Scan.not_isEmpty_of_mem sounding)
        rw [Burst.record, Metadata.get?_insert_self, Layout.bodyItems_of_bits single,
          Nat.add_assoc]
        rfl

namespace Transceiver

/-- Whatever the gaps and the payloads, a new receiver that tolerates no wrong bit reports the
frames one by one, and nothing else. -/
theorem receive_line (layout : Layout) (sounding : true ∈ layout.accessCode.bits)
    (frames : List SpacedFrame) (accepted : ∀ frame ∈ frames, frame.length ≤ maxShortLength)
    (complete : ∀ frame ∈ frames,
      frame.payload.length = 8 * frame.length / layout.payloadItemBits) (trailing : Nat) :
    ∃ line, (ofLayout layout).encoder.line frames = .ok line ∧
      List.Forall₂ (SpacedFrame.Reported layout)
        ((ofLayout layout).receive
          (line ++ List.replicate trailing (bitItem false))).records.toList frames := by
  rcases Encoder.line_eq_bursts sounding rfl (Encoder.inPeriod_ofLayout layout) accepted
    complete with ⟨bursts, written, reported⟩
  have fresh : (ofLayout layout).receiver.Fresh layout 0 :=
    Receiver.fresh_of_setThreshold layout rfl
  refine ⟨_, written, ?_⟩
  have records := fresh.records_eq_scan
    (bursts.flatMap Burst.items ++ List.replicate trailing (bitItem false))
  rw [Scan.headers_of_bursts sounding _ bursts trailing 0 (Nat.zero_le _) rfl] at records
  change List.Forall₂ _ ((ofLayout layout).receiver.receive layout _).records.toList _
  rw [records]
  exact List.forall₂_map_left_iff.mpr reported

/-- Two frames, the second of which is empty and has no gap in front. -/
theorem receive_line_two_frames :
    let layout := Layout.counter {
      code := Scan.sampleCode, symbolBits := 3
      symbolBits_pos := by decide, symbolBits_le := by decide }
    ∃ line, (ofLayout layout).encoder.line
        [{ gap := 5, length := 1, payload := [1, 1] }, { gap := 0, length := 0, payload := [] }] =
          .ok line ∧
      ((ofLayout layout).receive
          (line ++ List.replicate 9 (bitItem false))).records.toList.map
        (fun record => record.get? Metadata.skippedItemsKey) =
          [some (.natural 77), some (.natural 72)] := by
  intro layout
  rcases receive_line layout (by decide)
    [{ gap := 5, length := 1, payload := [1, 1] }, { gap := 0, length := 0, payload := [] }]
    (by simp [maxShortLength]) (by simp [layout, Layout.payloadItemBits]) 9 with
    ⟨line, written, reported⟩
  refine ⟨line, written, ?_⟩
  have skipped := reported.imp fun _ _ said => said.skipped
  have same := List.forall₂_map_right_iff.mpr (List.forall₂_map_left_iff.mpr skipped)
  rw [List.forall₂_eq_eq_eq] at same
  exact same

end Transceiver

end PacketFraming
