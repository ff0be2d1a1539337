import PacketFraming.Proofs.PackedBits
import PacketFraming.Proofs.ScanOrder
import PacketFraming.Proofs.Scanning
import PacketFraming.Stream.Reader

/-! The frames of a stream: its headers, with the payloads behind them. -/

namespace PacketFraming

/-! ## Bytes and items -/

namespace Layout

/-- The items that bytes stand for: their bits, the highest of each byte first, or, where items are
units, the bytes themselves. -/
def itemsIn : Layout → List UInt8 → List UInt8
  | plain _, bytes | counter _, bytes | crc _, bytes => bitsByPlace bytes
  | units _, bytes | carriers _, bytes => bytes

/-- A payload as bytes: eight bits in each, the first one highest, or one unit in each. -/
def payloadIn : Layout → List UInt8 → List UInt8
  | plain _, items | counter _, items | crc _, items => bytesByPlace items
  | units _, items | carriers _, items => items

end Layout

namespace FrameReader

theorem itemsOfBytes_eq (layout : Layout) (bytes : List UInt8) :
    itemsOfBytes layout bytes = layout.itemsIn bytes := by
  cases layout with
  | plain | counter | crc => exact unpackBits_eq_bitsByPlace bytes
  | units | carriers => rfl

theorem payloadOfItems_eq (layout : Layout) (items : List UInt8) :
    payloadOfItems layout items = layout.payloadIn items := by
  cases layout with
  | plain | counter | crc => exact packBits_eq_bytesByPlace items
  | units | carriers => rfl

end FrameReader

/-! ## Headers with their payloads -/

namespace FoundHeader

def frame (layout : Layout) (items : List UInt8) (header : FoundHeader) : ReceivedFrame where
  metadata := header.metadata
  payload := layout.payloadIn (items.extract header.offset header.payloadEnd)
  offset := header.offset

theorem frame_append (layout : Layout) {front : List UInt8} (rest : List UInt8)
    {header : FoundHeader} (arrived : header.payloadEnd ≤ front.length) :
    header.frame layout (front ++ rest) = header.frame layout front := by
  rw [frame, frame, extract_append rest arrived]

theorem map_frame_append (layout : Layout) {front : List UInt8} (rest : List UInt8)
    {headers : List FoundHeader}
    (arrived : ∀ header ∈ headers, header.payloadEnd ≤ front.length) :
    headers.map (frame layout (front ++ rest)) = headers.map (frame layout front) := by
  apply List.map_congr_left
  intro header member
  exact frame_append layout rest (arrived header member)

end FoundHeader

/-- The headers in a stream that begins with `items`, as far as they can be told from them. -/
def headersOf (layout : Layout) (threshold : Nat) (items : List UInt8) : List FoundHeader :=
  (Scan.ofStream layout threshold items 0 0).headers

/-- The frames whose payloads have arrived. -/
def framesOf (layout : Layout) (threshold : Nat) (items : List UInt8) : List ReceivedFrame :=
  ((headersOf layout threshold items).filter (·.payloadEnd ≤ items.length)).map
    (FoundHeader.frame layout items)

section Headers

variable {layout : Layout} {threshold : Nat} {items front : List UInt8}

theorem arrived_of_headersOf {done : List FoundHeader} {last : FoundHeader}
    (parts : headersOf layout threshold items = done ++ [last]) :
    ∀ header ∈ done, header.payloadEnd ≤ items.length := by
  intro header member
  have ordered := Scan.headers_pairwise layout threshold items 0 0
  rw [← headersOf, parts, List.pairwise_append] at ordered
  have before := ordered.2.2 header member last (List.mem_singleton_self last)
  have inside := Scan.offset_bounds layout threshold items 0 0 last
    (by rw [← headersOf, parts]; exact List.mem_append_right _ (List.mem_singleton_self last))
  omega

theorem filter_arrived {headers : List FoundHeader}
    (arrived : ∀ header ∈ headers, header.payloadEnd ≤ items.length) :
    headers.filter (·.payloadEnd ≤ items.length) = headers := by
  apply List.filter_eq_self.mpr
  intro header member
  exact decide_eq_true (arrived header member)

theorem framesOf_of_arrived {headers : List FoundHeader}
    (parts : headersOf layout threshold items = headers)
    (arrived : ∀ header ∈ headers, header.payloadEnd ≤ items.length) :
    framesOf layout threshold items = headers.map (FoundHeader.frame layout items) := by
  rw [framesOf, parts, filter_arrived arrived]

theorem framesOf_of_cut {done : List FoundHeader} {last : FoundHeader}
    (parts : headersOf layout threshold items = done ++ [last])
    (cut : items.length < last.payloadEnd) :
    framesOf layout threshold items = done.map (FoundHeader.frame layout items) := by
  have missing : [last].filter (·.payloadEnd ≤ items.length) = [] := by
    simpa using cut
  rw [framesOf, parts, List.filter_append, filter_arrived (arrived_of_headersOf parts), missing,
    List.append_nil]

theorem headersOf_cases (layout : Layout) (threshold : Nat) (items : List UInt8) :
    (∀ header ∈ headersOf layout threshold items, header.payloadEnd ≤ items.length) ∨
      ∃ done last, headersOf layout threshold items = done ++ [last] ∧
        items.length < last.payloadEnd := by
  rcases Scan.remaining_cases layout threshold items 0 0 with
    ⟨-, arrived⟩ | ⟨done, last, parts, cut, -⟩
  · exact .inl arrived
  · exact .inr ⟨done, last, parts, cut⟩

theorem headersOf_append (layout : Layout) (threshold : Nat) (front rest : List UInt8) :
    ∃ later, headersOf layout threshold (front ++ rest) =
        headersOf layout threshold front ++ later ∧
      ∀ header ∈ later, front.length < header.offset ∧
        header.offset ≤ front.length + rest.length := by
  rcases Scan.headers_append layout threshold front rest 0 0
    (Nat.zero_le _) with ⟨later, parts, behind⟩
  refine ⟨later, parts, ?_⟩
  intro header member
  refine ⟨behind header member, ?_⟩
  rw [← List.length_append]
  refine (Scan.offset_bounds layout threshold (front ++ rest) 0 0 header ?_).2
  rw [parts]
  exact List.mem_append_right _ member

theorem headersOf_append_of_payload {done : List FoundHeader} {last : FoundHeader}
    (parts : headersOf layout threshold front = done ++ [last]) (rest : List UInt8)
    (within : front.length + rest.length ≤ last.payloadEnd) :
    headersOf layout threshold (front ++ rest) = done ++ [last] := by
  rcases headersOf_append layout threshold front rest with ⟨later, whole, bounds⟩
  rw [parts] at whole
  -- A further header would lie behind the payload that is still arriving.
  cases later with
  | nil => rw [whole, List.append_nil]
  | cons next further =>
      have ordered := Scan.headers_pairwise layout threshold (front ++ rest) 0 0
      rw [← headersOf, whole, List.pairwise_append] at ordered
      have apart := ordered.2.2 last (List.mem_append_right _ (List.mem_singleton_self last))
        next List.mem_cons_self
      have inside := bounds next List.mem_cons_self
      omega

theorem framesOf_prefix_append (layout : Layout) (threshold : Nat) (front rest : List UInt8) :
    framesOf layout threshold front <+: framesOf layout threshold (front ++ rest) := by
  have kept {headers : List FoundHeader}
      (arrived : ∀ header ∈ headers, header.payloadEnd ≤ front.length) :
      headers.filter (·.payloadEnd ≤ (front ++ rest).length) = headers := by
    apply filter_arrived
    intro header member
    rw [List.length_append]
    exact Nat.le_add_right_of_le (arrived header member)
  rcases headersOf_append layout threshold front rest with ⟨later, whole, -⟩
  rcases headersOf_cases layout threshold front with arrived | ⟨done, last, parts, cut⟩
  · rw [framesOf_of_arrived rfl arrived, framesOf, whole, List.filter_append, kept arrived,
      List.map_append, FoundHeader.map_frame_append layout rest arrived]
    exact List.prefix_append _ _
  · have arrived := arrived_of_headersOf parts
    rw [framesOf_of_cut parts cut, framesOf, whole, parts, List.append_assoc,
      List.filter_append, kept arrived, List.map_append,
      FoundHeader.map_frame_append layout rest arrived]
    exact List.prefix_append _ _

theorem length_add_remaining {done : List FoundHeader} {last : FoundHeader}
    (parts : headersOf layout threshold items = done ++ [last])
    (place : last.offset = items.length) :
    items.length + (Scan.ofStream layout threshold items 0 0).remaining = last.payloadEnd := by
  have ending : last.payloadEnd = last.offset + last.payloadItems := rfl
  rcases Scan.remaining_cases layout threshold items 0 0 with
    ⟨none, arrived⟩ | ⟨before, cut, whole, missing, rest⟩
  · have inside := arrived last
      (by rw [← headersOf, parts]; exact List.mem_append_right _ (List.mem_singleton_self last))
    omega
  · rw [← headersOf, parts] at whole
    obtain rfl := (List.append_inj' whole rfl).2 |> List.singleton_inj.mp
    omega

end Headers

/-! ## Headers that a receiver reports -/

namespace Receiver.Fresh

variable {layout : Layout} {threshold : Nat} {receiver : Receiver}
  (fresh : receiver.Fresh layout threshold)
include fresh

theorem metadata_of_append {front rest : List UInt8} {later : List FoundHeader}
    (parts : headersOf layout threshold (front ++ rest) =
      headersOf layout threshold front ++ later) :
    later.map FoundHeader.metadata =
      ((receiver.receive layout front).receiver.receive layout rest).records.toList := by
  have whole := fresh.records_eq_scan (front ++ rest)
  rw [records_receive_append, Array.toList_append, fresh.records_eq_scan front, ← headersOf,
    ← headersOf, parts, List.map_append] at whole
  exact (List.append_cancel_left whole).symm

theorem headersOf_append_of_silent {front rest : List UInt8}
    (silent : ((receiver.receive layout front).receiver.receive layout rest).records = #[]) :
    headersOf layout threshold (front ++ rest) = headersOf layout threshold front := by
  rcases headersOf_append layout threshold front rest with ⟨later, parts, -⟩
  have none := fresh.metadata_of_append parts
  rw [silent, List.map_eq_nil_iff] at none
  rw [parts, none, List.append_nil]

theorem headersOf_append_of_record {front before : List UInt8} {item : UInt8}
    {record : Metadata}
    (silent : ((receiver.receive layout front).receiver.receive layout before).records = #[])
    (found : ((receiver.receive layout front).receiver.receive layout
      (before ++ [item])).records = #[record]) :
    ∃ header, headersOf layout threshold (front ++ (before ++ [item])) =
        headersOf layout threshold front ++ [header] ∧
      header.metadata = record ∧
      header.offset = (front ++ (before ++ [item])).length := by
  have same := fresh.headersOf_append_of_silent silent
  rcases headersOf_append layout threshold (front ++ before) [item] with
    ⟨later, parts, bounds⟩
  rw [List.append_assoc, same] at parts
  have reported := fresh.metadata_of_append parts
  rw [found] at reported
  rcases List.map_eq_singleton_iff.mp reported with ⟨header, rfl, metadata⟩
  have place := bounds header (List.mem_singleton_self header)
  refine ⟨header, parts, metadata, ?_⟩
  simp only [List.length_append, List.length_singleton] at place ⊢
  omega

end Receiver.Fresh

end PacketFraming
