import Mathlib.Data.List.Forall2
import PacketFraming.Proofs.Session
import PacketFraming.Proofs.WrittenHeader

/-! Frames on the wire, one behind the other, found by a scan.

Each frame ends where the next one begins, so every search begins at an access code and is over
with it. Wrong bits in the access code do no harm as long as they are tolerated. -/

namespace PacketFraming

theorem FrameReader.payloadOfItems_itemsOfBytes (layout : Layout) (bytes : List UInt8) :
    payloadOfItems layout (itemsOfBytes layout bytes) = bytes := by
  unfold payloadOfItems itemsOfBytes
  split
  · rfl
  · exact packBits_unpackBits bytes

theorem Layout.unitWidth?_of_accessCode {layout : Layout}
    (present : ¬layout.accessCode.isEmpty = true) : layout.unitWidth? = none := by
  cases layout with
  | plain | counter | crc => rfl
  | units | carriers => exact absurd rfl present

/-! ## Frames -/

/-- A frame as it goes over the wire, with what its header says. -/
structure SentFrame where
  /-- The bytes in the place of the access code. -/
  code : List UInt8
  /-- The rest of the header. -/
  body : List UInt8
  payload : List UInt8
  header : DecodedHeader

namespace SentFrame

def wire (frame : SentFrame) : List UInt8 :=
  frame.code ++ frame.body ++ frame.payload

/-- The access code has at most `threshold` wrong bits, and the rest is as it was written. -/
structure Legible (layout : Layout) (threshold : Nat) (frame : SentFrame) : Prop where
  aligned : frame.code.length = layout.accessCode.byteCount
  close : differences (bitsOfBytes frame.code) layout.accessCode.bits ≤ threshold
  announces : layout.Announces frame.payload.length frame.body frame.header

structure Found (layout : Layout) (items : List UInt8) (header : FoundHeader)
    (frame : SentFrame) : Prop where
  arrived : header.payloadEnd ≤ items.length
  metadata : header.metadata = frame.header.metadata.insert Metadata.skippedItemsKey
    (.natural (layout.accessCode.length + layout.bodyItems))
  payload : (header.frame layout items).payload = frame.payload
  announces : layout.Announces frame.payload.length frame.body frame.header

end SentFrame

open FrameReader (itemsOfBytes itemsOfBytes_nil itemsOfBytes_append)

theorem length_itemsOfBytes_code {layout : Layout} {code : List UInt8}
    (aligned : code.length = layout.accessCode.byteCount) :
    (itemsOfBytes layout code).length = layout.accessCode.length := by
  by_cases empty : layout.accessCode.isEmpty = true
  · have length := layout.accessCode.isEmpty_iff.mp empty
    have none : code = [] := by
      apply List.length_eq_zero_iff.mp
      rw [aligned, AccessCode.byteCount, length]
    rw [none, length, itemsOfBytes_nil]
    rfl
  · rw [Layout.itemsOfBytes_of_bits (Layout.unitWidth?_of_accessCode empty), length_unpackBits,
      aligned, AccessCode.eight_mul_byteCount]

namespace Scan

variable {layout : Layout} {threshold : Nat}

theorem codeEnd?_of_code {items code rest : List UInt8} {start : Nat}
    (aligned : code.length = layout.accessCode.byteCount)
    (close : differences (bitsOfBytes code) layout.accessCode.bits ≤ threshold)
    (parts : items.drop start = itemsOfBytes layout code ++ rest) (inside : start ≤ items.length) :
    codeEnd? layout.accessCode threshold items start =
      some (start + layout.accessCode.length) := by
  have length := length_itemsOfBytes_code aligned
  by_cases empty : layout.accessCode.isEmpty = true
  · rw [codeEnd?_of_isEmpty empty, layout.accessCode.isEmpty_iff.mp empty, Nat.add_zero]
  · have single := Layout.unitWidth?_of_accessCode empty
    have total := congrArg List.length parts
    rw [List.length_drop, List.length_append, length] at total
    refine (codeEnd?_eq_some empty).mpr ⟨?_, ⟨Nat.le_refl _, by omega⟩, by omega⟩
    have window := (extract_of_drop parts (by rw [length])).1
    rw [codeEndsAt, Nat.add_sub_cancel, window, Layout.itemsOfBytes_of_bits single,
      map_itemBit_unpackBits]
    exact decide_eq_true close

theorem headers_of_frames (items : List UInt8) {frames : List SentFrame}
    (legible : ∀ frame ∈ frames, frame.Legible layout threshold) (start : Nat)
    (inside : start ≤ items.length)
    (rest : items.drop start = itemsOfBytes layout (frames.flatMap SentFrame.wire)) :
    List.Forall₂ (fun header frame => SentFrame.Found layout items header frame)
      (ofStream layout threshold items start start).headers frames := by
  induction frames generalizing start with
  | nil =>
      have none : (ofStream layout threshold items start start).headers = [] := by
        apply List.eq_nil_iff_forall_not_mem.mpr
        intro header member
        have bounds := offset_bounds layout threshold items start start header member
        rw [List.flatMap_nil, itemsOfBytes_nil, List.drop_eq_nil_iff] at rest
        omega
      rw [none]
      exact .nil
  | cons frame others induction =>
      have readable := legible frame List.mem_cons_self
      have code := length_itemsOfBytes_code readable.aligned
      have body := readable.announces.whole
      have payload := readable.announces.payloadItems frame.payload rfl
      rw [List.flatMap_cons, SentFrame.wire, itemsOfBytes_append, itemsOfBytes_append,
        itemsOfBytes_append, List.append_assoc, List.append_assoc] at rest
      -- Whatever is in the payloads, the search begins behind the last one of them.
      have found := codeEnd?_of_code readable.aligned readable.close rest inside
      have behindCode := (extract_of_drop rest (by rw [code])).2
      have atBody := extract_of_drop behindCode (by rw [body])
      have atPayload := extract_of_drop atBody.2 (by rw [payload])
      have fits : start + layout.accessCode.length + layout.bodyItems +
          frame.header.payloadItems ≤ items.length := by
        have total := congrArg List.length rest
        simp only [List.length_append, List.length_drop, code, body, payload] at total
        omega
      have accepted := readable.announces.accepted
      rw [← atBody.1] at accepted
      have skipped : start + layout.accessCode.length + layout.bodyItems - start =
          layout.accessCode.length + layout.bodyItems := by
        omega
      rw [ofStream_of_frame start found accepted fits]
      refine .cons ?_ (induction
        (fun other member => legible other (List.mem_cons_of_mem _ member)) _ fits atPayload.2)
      exact {
        arrived := fits
        metadata := by rw [FoundHeader.metadata, FoundHeader.ofDecoded, skipped]
        payload := by
          change layout.payloadIn (items.extract _ _) = _
          rw [FoundHeader.ofDecoded, FoundHeader.payloadEnd, atPayload.1,
            ← FrameReader.payloadOfItems_eq]
          exact FrameReader.payloadOfItems_itemsOfBytes layout frame.payload
        announces := readable.announces }

end Scan

structure SentFrame.Restored (layout : Layout) (frame : SentFrame) (received : ReceivedFrame) :
    Prop where
  payload : received.payload = frame.payload
  reported : layout.DefaultKeys → received.metadata.get? Metadata.payloadBitsKey =
    some (.natural (8 * received.payload.length))

theorem SentFrame.Found.restored {layout : Layout} {items : List UInt8} {header : FoundHeader}
    {frame : SentFrame} (found : frame.Found layout items header) :
    frame.Restored layout (header.frame layout items) where
  payload := found.payload
  reported := by
    intro default
    have other : Metadata.payloadBitsKey ≠ Metadata.skippedItemsKey := by decide
    change header.metadata.get? _ = _
    rw [found.metadata, Metadata.get?_insert_of_ne _ _ other, found.announces.reported default,
      found.payload]

/-- The frames on the wire are the frames that were sent. -/
theorem framesOf_frames {layout : Layout} {threshold : Nat} {frames : List SentFrame}
    (legible : ∀ frame ∈ frames, frame.Legible layout threshold) :
    List.Forall₂ (fun received frame => frame.Restored layout received)
      (framesOf layout threshold (itemsOfBytes layout (frames.flatMap SentFrame.wire)))
      frames := by
  have found := Scan.headers_of_frames (itemsOfBytes layout (frames.flatMap SentFrame.wire))
    legible 0 (Nat.zero_le _) rfl
  rcases (List.forall₂_and_left _ _).mp
    (found.imp fun header frame found => ⟨found.arrived, found⟩) with ⟨arrived, found⟩
  rw [framesOf_of_arrived rfl arrived]
  apply List.forall₂_map_left_iff.mpr
  exact found.imp fun header frame found => found.restored

end PacketFraming
