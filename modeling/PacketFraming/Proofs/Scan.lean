import PacketFraming.Proofs.CodeWindow
import PacketFraming.Proofs.Extract
import PacketFraming.Proofs.HeaderView
import PacketFraming.Transceiver.Receiver

/-! The headers of a stream, told by positions in it.

A scan looks at a stream as a whole. It knows no registers and no phases, only where the next
access code ends, what the items behind it say, and where the payload ends that they announce. -/

namespace PacketFraming

/-- Headers of a single unit, which hold a length and nothing else. -/
def Layout.singleUnit : Layout :=
  .units {
    count := 1
    width := 8
    lengthKey := Metadata.packetLengthKey
    counterKey := Metadata.packetNumberKey
    sized := { count_pos := by decide, width_pos := by decide, width_le := by decide } }

structure FoundHeader where
  /-- What is in its fields. -/
  fields : Metadata
  /-- The items up to its end of which nothing was reported before. -/
  skipped : Nat
  /-- The position of the first item of its payload. -/
  offset : Nat
  payloadItems : Nat
deriving DecidableEq, Repr

namespace FoundHeader

/-- A header whose payload begins at `offset`, in a stream of which nothing was reported from
`mark` on. -/
def ofDecoded (header : DecodedHeader) (mark offset : Nat) : FoundHeader where
  fields := header.metadata
  skipped := offset - mark
  offset := offset
  payloadItems := header.payloadItems

def metadata (header : FoundHeader) : Metadata :=
  header.fields.insert Metadata.skippedItemsKey (.natural header.skipped)

theorem get?_metadata (header : FoundHeader) :
    header.metadata.get? Metadata.skippedItemsKey = some (.natural header.skipped) :=
  Metadata.get?_insert_self _ _ _

end FoundHeader

structure Scan where
  headers : List FoundHeader
  phase : Phase
deriving DecidableEq, Repr

namespace Scan

/-! ## Access codes in a stream -/

def codeEndsAt (code : AccessCode) (threshold : Nat) (items : List UInt8) (finish : Nat) :
    Bool :=
  differences ((items.extract (finish - code.length) finish).map itemBit) code.bits ≤ threshold

/-- The first position behind an access code that begins at `start` or later. -/
def codeEnd? (code : AccessCode) (threshold : Nat) (items : List UInt8) (start : Nat) :
    Option Nat :=
  if code.isEmpty then some start
  else
    (List.range' (start + code.length) (items.length + 1 - (start + code.length))).find?
      (codeEndsAt code threshold items)

theorem codeEnd?_of_isEmpty {code : AccessCode} (empty : code.isEmpty = true) (threshold : Nat)
    (items : List UInt8) (start : Nat) :
    codeEnd? code threshold items start = some start := by
  rw [codeEnd?, if_pos empty]

theorem codeEnd?_eq_some {code : AccessCode} (present : ¬code.isEmpty = true)
    {threshold : Nat} {items : List UInt8} {start finish : Nat} :
    codeEnd? code threshold items start = some finish ↔
      codeEndsAt code threshold items finish = true ∧
        (start + code.length ≤ finish ∧ finish ≤ items.length) ∧
        ∀ earlier, start + code.length ≤ earlier → earlier < finish →
          ¬codeEndsAt code threshold items earlier = true := by
  rw [codeEnd?, if_neg present, List.find?_range'_eq_some, List.mem_range'_1]
  constructor
  · rintro ⟨ends, ⟨after, before⟩, first⟩
    refine ⟨ends, ⟨after, by omega⟩, ?_⟩
    intro earlier later less
    simpa using first earlier later less
  · rintro ⟨ends, ⟨after, before⟩, first⟩
    refine ⟨ends, ⟨after, by omega⟩, ?_⟩
    intro earlier later less
    simpa using first earlier later less

theorem codeEnd?_eq_none {code : AccessCode} (present : ¬code.isEmpty = true)
    {threshold : Nat} {items : List UInt8} {start : Nat} :
    codeEnd? code threshold items start = none ↔
      ∀ finish, start + code.length ≤ finish → finish ≤ items.length →
        ¬codeEndsAt code threshold items finish = true := by
  rw [codeEnd?, if_neg present, List.find?_range'_eq_none]
  constructor
  · intro nowhere finish after before
    simpa using nowhere finish after (by omega)
  · intro nowhere finish after before
    simpa using nowhere finish after (by omega)

theorem le_of_codeEnd? {code : AccessCode} {threshold : Nat} {items : List UInt8}
    {start finish : Nat} (found : codeEnd? code threshold items start = some finish) :
    start + code.length ≤ finish := by
  by_cases empty : code.isEmpty = true
  · rw [codeEnd?_of_isEmpty empty, Option.some.injEq] at found
    have length := code.isEmpty_iff.mp empty
    omega
  · exact ((codeEnd?_eq_some empty).mp found).2.1.1

theorem codeEnd?_le_length {code : AccessCode} {threshold : Nat} {items : List UInt8}
    {start finish : Nat} (inside : start ≤ items.length)
    (found : codeEnd? code threshold items start = some finish) :
    finish ≤ items.length := by
  by_cases empty : code.isEmpty = true
  · rw [codeEnd?_of_isEmpty empty, Option.some.injEq] at found
    exact found ▸ inside
  · exact ((codeEnd?_eq_some empty).mp found).2.1.2

def sampleCode : AccessCode where
  word := 0xAC
  length := 8
  length_le := by decide
  aligned := by decide
  word_lt := by decide

example : codeEnd? sampleCode 1 (unpackBits [0x05, 0x68]) 0 = some 13 := by decide +kernel

/-! ## Headers in a stream -/

def cons (header : FoundHeader) (scan : Scan) : Scan :=
  { scan with headers := header :: scan.headers }

/-- The headers from `start` on. Items are reported as skipped from `mark` on, where the last
payload ended. -/
def ofStream (layout : Layout) (threshold : Nat) (items : List UInt8) (start mark : Nat) :
    Scan :=
  match _found : codeEnd? layout.accessCode threshold items start with
  | none => { headers := [], phase := .searching }
  | some finish =>
      let bodyEnd := finish + layout.bodyItems
      if _fits : bodyEnd ≤ items.length then
        match layout.readItems? (items.extract finish bodyEnd) with
        | none => ofStream layout threshold items bodyEnd mark
        | some header =>
            let payloadEnd := bodyEnd + header.payloadItems
            if payloadEnd ≤ items.length then
              (ofStream layout threshold items payloadEnd payloadEnd).cons
                (.ofDecoded header mark bodyEnd)
            else {
              headers := [.ofDecoded header mark bodyEnd]
              phase := .passing header.payloadItems
                (header.payloadItems - (items.length - bodyEnd)) }
      else { headers := [], phase := .collecting }
termination_by items.length - start
decreasing_by
  all_goals
    have later := le_of_codeEnd? _found
    have some := layout.bodyItems_pos
    omega

section Cases

variable {layout : Layout} {threshold : Nat} {items : List UInt8} {start finish : Nat}

theorem ofStream_of_nowhere (mark : Nat)
    (nowhere : codeEnd? layout.accessCode threshold items start = none) :
    ofStream layout threshold items start mark = { headers := [], phase := .searching } := by
  rw [ofStream]
  split
  · rfl
  · next found =>
      rw [nowhere] at found
      exact absurd found.symm (Option.some_ne_none _)

theorem ofStream_of_codeEnd? (mark : Nat)
    (found : codeEnd? layout.accessCode threshold items start = some finish) :
    ofStream layout threshold items start mark =
      let bodyEnd := finish + layout.bodyItems
      if bodyEnd ≤ items.length then
        match layout.readItems? (items.extract finish bodyEnd) with
        | none => ofStream layout threshold items bodyEnd mark
        | some header =>
            let payloadEnd := bodyEnd + header.payloadItems
            if payloadEnd ≤ items.length then
              (ofStream layout threshold items payloadEnd payloadEnd).cons
                (.ofDecoded header mark bodyEnd)
            else {
              headers := [.ofDecoded header mark bodyEnd]
              phase := .passing header.payloadItems
                (header.payloadItems - (items.length - bodyEnd)) }
      else { headers := [], phase := .collecting } := by
  rw [ofStream]
  split
  · next nowhere =>
      rw [nowhere] at found
      exact absurd found.symm (Option.some_ne_none _)
  · next same =>
      obtain rfl := Option.some.inj (found.symm.trans same)
      rfl

theorem ofStream_of_short (mark : Nat)
    (found : codeEnd? layout.accessCode threshold items start = some finish)
    (short : items.length < finish + layout.bodyItems) :
    ofStream layout threshold items start mark = { headers := [], phase := .collecting } := by
  rw [ofStream_of_codeEnd? mark found]
  exact if_neg (Nat.not_le_of_lt short)

theorem ofStream_of_rejected (mark : Nat)
    (found : codeEnd? layout.accessCode threshold items start = some finish)
    (fits : finish + layout.bodyItems ≤ items.length)
    (rejected :
      layout.readItems? (items.extract finish (finish + layout.bodyItems)) = none) :
    ofStream layout threshold items start mark =
      ofStream layout threshold items (finish + layout.bodyItems) mark := by
  rw [ofStream_of_codeEnd? mark found]
  dsimp only
  rw [if_pos fits, rejected]

theorem ofStream_of_frame (mark : Nat)
    (found : codeEnd? layout.accessCode threshold items start = some finish)
    {header : DecodedHeader}
    (accepted :
      layout.readItems? (items.extract finish (finish + layout.bodyItems)) = some header)
    (complete : finish + layout.bodyItems + header.payloadItems ≤ items.length) :
    ofStream layout threshold items start mark =
      (ofStream layout threshold items (finish + layout.bodyItems + header.payloadItems)
        (finish + layout.bodyItems + header.payloadItems)).cons
          (.ofDecoded header mark (finish + layout.bodyItems)) := by
  rw [ofStream_of_codeEnd? mark found]
  dsimp only
  rw [if_pos (Nat.le_of_add_right_le complete), accepted]
  exact if_pos complete

theorem ofStream_of_truncated (mark : Nat)
    (found : codeEnd? layout.accessCode threshold items start = some finish)
    (fits : finish + layout.bodyItems ≤ items.length) {header : DecodedHeader}
    (accepted :
      layout.readItems? (items.extract finish (finish + layout.bodyItems)) = some header)
    (cut : items.length < finish + layout.bodyItems + header.payloadItems) :
    ofStream layout threshold items start mark = {
      headers := [.ofDecoded header mark (finish + layout.bodyItems)]
      phase := .passing header.payloadItems
        (header.payloadItems - (items.length - (finish + layout.bodyItems))) } := by
  rw [ofStream_of_codeEnd? mark found]
  dsimp only
  rw [if_pos fits, accepted]
  exact if_neg (Nat.not_le_of_lt cut)

end Cases

def remaining (scan : Scan) : Nat :=
  match scan.phase with
  | .passing _ remaining => remaining
  | _ => 0

end Scan

end PacketFraming
