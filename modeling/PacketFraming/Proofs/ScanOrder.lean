import PacketFraming.Proofs.Scan

/-! The headers of a stream, one behind the other.

Payloads do not overlap, only the last one may be cut off, and items that arrive later change
nothing of what has been found. -/

namespace PacketFraming

namespace FoundHeader

def payloadEnd (header : FoundHeader) : Nat :=
  header.offset + header.payloadItems

end FoundHeader

namespace Scan

/-! ## Positions -/

theorem offset_bounds (layout : Layout) (threshold : Nat) (items : List UInt8)
    (start mark : Nat) :
    ∀ header ∈ (ofStream layout threshold items start mark).headers,
      start < header.offset ∧ header.offset ≤ items.length := by
  have some := layout.bodyItems_pos
  fun_induction ofStream layout threshold items start mark
  case case1 start mark nowhere =>
      simp
  case case2 start mark finish found bodyEnd fits rejected induction =>
      have after := le_of_codeEnd? found
      have place : bodyEnd = finish + layout.bodyItems := rfl
      intro header member
      have bounds := induction header member
      omega
  case case3 start mark finish found bodyEnd fits header accepted payloadEnd complete
      induction =>
      have after := le_of_codeEnd? found
      have place : bodyEnd = finish + layout.bodyItems := rfl
      have ending : payloadEnd = bodyEnd + header.payloadItems := rfl
      intro other member
      rcases List.mem_cons.mp member with rfl | later
      · change start < bodyEnd ∧ bodyEnd ≤ items.length
        omega
      · have bounds := induction other later
        omega
  case case4 start mark finish found bodyEnd fits header accepted payloadEnd cut =>
      have after := le_of_codeEnd? found
      have place : bodyEnd = finish + layout.bodyItems := rfl
      intro other member
      obtain rfl := List.mem_singleton.mp member
      change start < bodyEnd ∧ bodyEnd ≤ items.length
      omega
  case case5 start mark finish found bodyEnd short =>
      simp

/-- Every header comes behind the payloads of the ones before it. -/
theorem headers_pairwise (layout : Layout) (threshold : Nat) (items : List UInt8)
    (start mark : Nat) :
    (ofStream layout threshold items start mark).headers.Pairwise
      fun first second => first.payloadEnd < second.offset := by
  fun_induction ofStream layout threshold items start mark
  case case1 => exact List.Pairwise.nil
  case case2 induction => exact induction
  case case3 start mark finish found bodyEnd fits header accepted payloadEnd complete
      induction =>
      apply List.Pairwise.cons _ induction
      intro other later
      exact (offset_bounds layout threshold items payloadEnd payloadEnd other later).1
  case case4 => exact List.pairwise_singleton _ _
  case case5 => exact List.Pairwise.nil

/-- Either all payloads have arrived, or all but the last one, and the scan knows how much of
that is missing. -/
theorem remaining_cases (layout : Layout) (threshold : Nat) (items : List UInt8)
    (start mark : Nat) :
    ((ofStream layout threshold items start mark).remaining = 0 ∧
        ∀ header ∈ (ofStream layout threshold items start mark).headers,
          header.payloadEnd ≤ items.length) ∨
      ∃ done last, (ofStream layout threshold items start mark).headers = done ++ [last] ∧
        items.length < last.payloadEnd ∧
        (ofStream layout threshold items start mark).remaining =
          last.payloadEnd - items.length := by
  fun_induction ofStream layout threshold items start mark
  case case1 => exact .inl ⟨rfl, by simp⟩
  case case2 induction => exact induction
  case case3 start mark finish found bodyEnd fits header accepted payloadEnd complete
      induction =>
      rcases induction with ⟨none, arrived⟩ | ⟨done, last, parts, cut, missing⟩
      · refine .inl ⟨none, ?_⟩
        intro other member
        rcases List.mem_cons.mp member with rfl | later
        · exact complete
        · exact arrived other later
      · exact .inr ⟨_ :: done, last, congrArg (_ :: ·) parts, cut, missing⟩
  case case4 start mark finish found bodyEnd fits header accepted payloadEnd cut =>
      have ending : payloadEnd = bodyEnd + header.payloadItems := rfl
      refine .inr ⟨[], _, rfl, Nat.lt_of_not_le cut, ?_⟩
      change header.payloadItems - (items.length - bodyEnd) =
        bodyEnd + header.payloadItems - items.length
      omega
  case case5 => exact .inl ⟨rfl, by simp⟩

theorem remaining_pos_of_passing {layout : Layout} {threshold : Nat} {items : List UInt8}
    {start mark payload remaining : Nat}
    (passing : (ofStream layout threshold items start mark).phase = .passing payload remaining) :
    0 < remaining := by
  fun_induction ofStream layout threshold items start mark
  case case1 => cases passing
  case case2 induction => exact induction passing
  case case3 induction => exact induction passing
  case case4 start mark finish found bodyEnd fits header accepted payloadEnd cut =>
      have ending : payloadEnd = bodyEnd + header.payloadItems := rfl
      obtain ⟨rfl, rfl⟩ := Phase.passing.inj passing
      omega
  case case5 => cases passing

/-! ## More items -/

section Append

variable {layout : Layout} {threshold : Nat}

theorem codeEndsAt_append (code : AccessCode) {front : List UInt8} (rest : List UInt8)
    {finish : Nat} (inside : finish ≤ front.length) :
    codeEndsAt code threshold (front ++ rest) finish = codeEndsAt code threshold front finish := by
  rw [codeEndsAt, codeEndsAt, extract_append rest inside]

theorem codeEnd?_append_of_some {code : AccessCode} {front : List UInt8} (rest : List UInt8)
    {start finish : Nat} (inside : finish ≤ front.length)
    (found : codeEnd? code threshold front start = some finish) :
    codeEnd? code threshold (front ++ rest) start = some finish := by
  by_cases empty : code.isEmpty = true
  · rw [codeEnd?_of_isEmpty empty] at found ⊢
    exact found
  · rcases (codeEnd?_eq_some empty).mp found with ⟨ends, ⟨after, -⟩, first⟩
    refine (codeEnd?_eq_some empty).mpr ⟨?_, ⟨after, ?_⟩, ?_⟩
    · rw [codeEndsAt_append code rest inside]
      exact ends
    · rw [List.length_append]
      omega
    · intro earlier later less
      rw [codeEndsAt_append code rest (by omega)]
      exact first earlier later less

theorem length_lt_of_codeEnd?_append {code : AccessCode} {front rest : List UInt8}
    {start finish : Nat} (nowhere : codeEnd? code threshold front start = none)
    (found : codeEnd? code threshold (front ++ rest) start = some finish) :
    front.length < finish := by
  by_cases empty : code.isEmpty = true
  · rw [codeEnd?_of_isEmpty empty] at nowhere
    exact absurd nowhere (Option.some_ne_none _)
  · rcases (codeEnd?_eq_some empty).mp found with ⟨ends, ⟨after, -⟩, -⟩
    by_cases inside : finish ≤ front.length
    · rw [codeEndsAt_append code rest inside] at ends
      exact absurd ends ((codeEnd?_eq_none empty).mp nowhere finish after inside)
    · omega

theorem le_offset_of_codeEnd? {items : List UInt8} {start finish : Nat} (mark : Nat)
    (found : codeEnd? layout.accessCode threshold items start = some finish) :
    ∀ header ∈ (ofStream layout threshold items start mark).headers,
      finish + layout.bodyItems ≤ header.offset := by
  have nothing : ∀ header ∈ ([] : List FoundHeader),
      finish + layout.bodyItems ≤ header.offset := by
    simp
  by_cases fits : finish + layout.bodyItems ≤ items.length
  · cases read : layout.readItems? (items.extract finish (finish + layout.bodyItems)) with
    | none =>
        rw [ofStream_of_rejected mark found fits read]
        intro header member
        exact Nat.le_of_lt (offset_bounds layout threshold items _ mark header member).1
    | some header =>
        by_cases complete : finish + layout.bodyItems + header.payloadItems ≤ items.length
        · rw [ofStream_of_frame mark found read complete]
          intro other member
          rcases List.mem_cons.mp member with rfl | later
          · exact Nat.le_refl _
          · have bounds := offset_bounds layout threshold items _ _ other later
            omega
        · rw [ofStream_of_truncated mark found fits read (Nat.lt_of_not_le complete)]
          intro other member
          obtain rfl := List.mem_singleton.mp member
          exact Nat.le_refl _
  · rw [ofStream_of_short mark found (Nat.lt_of_not_le fits)]
    exact nothing

end Append

/-- Headers that have been found stay where they are, and the others come behind all the items
in which they were found. -/
theorem headers_append (layout : Layout) (threshold : Nat) (front rest : List UInt8)
    (start mark : Nat) (inside : start ≤ front.length) :
    ∃ later, (ofStream layout threshold (front ++ rest) start mark).headers =
        (ofStream layout threshold front start mark).headers ++ later ∧
      ∀ header ∈ later, front.length < header.offset := by
  have some := layout.bodyItems_pos
  have longer : (front ++ rest).length = front.length + rest.length := List.length_append
  fun_induction ofStream layout threshold front start mark
  -- An access code may have begun in front, but it ends behind.
  case case1 start mark nowhere =>
      refine ⟨_, (List.nil_append _).symm, ?_⟩
      intro header member
      cases found : codeEnd? layout.accessCode threshold (front ++ rest) start with
      | none =>
          rw [ofStream_of_nowhere mark found] at member
          exact absurd member List.not_mem_nil
      | some finish =>
          have behind := length_lt_of_codeEnd?_append nowhere found
          have after := le_offset_of_codeEnd? mark found header member
          omega
  case case2 start mark finish found bodyEnd fits rejected induction =>
      have again := codeEnd?_append_of_some rest (by omega) found
      rw [← extract_append rest fits] at rejected
      rw [ofStream_of_rejected mark again (by omega) rejected]
      exact induction fits
  case case3 start mark finish found bodyEnd fits header accepted payloadEnd complete
      induction =>
      have again := codeEnd?_append_of_some rest (by omega) found
      rw [← extract_append rest fits] at accepted
      rw [ofStream_of_frame mark again accepted (by omega)]
      rcases induction complete with ⟨later, parts, behind⟩
      exact ⟨later, congrArg (_ :: ·) parts, behind⟩
  case case4 start mark finish found bodyEnd fits header accepted payloadEnd cut =>
      have again := codeEnd?_append_of_some rest (by omega) found
      rw [← extract_append rest fits] at accepted
      by_cases complete : payloadEnd ≤ (front ++ rest).length
      · rw [ofStream_of_frame mark again accepted complete]
        refine ⟨_, rfl, ?_⟩
        intro other later
        have bounds := offset_bounds layout threshold (front ++ rest) _ _ other later
        omega
      · rw [ofStream_of_truncated mark again (by omega) accepted (by omega)]
        exact ⟨[], rfl, by simp⟩
  case case5 start mark finish found bodyEnd short =>
      refine ⟨_, (List.nil_append _).symm, ?_⟩
      intro header member
      have again := codeEnd?_append_of_some rest (codeEnd?_le_length inside found) found
      have after := le_offset_of_codeEnd? mark again header member
      omega

end Scan

end PacketFraming
