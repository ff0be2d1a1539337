/-! Stretches of a list, from one position to another. -/

namespace PacketFraming

variable {α : Type}

/-! ## One stretch -/

theorem length_extract {items : List α} (start : Nat) {finish : Nat}
    (inside : finish ≤ items.length) : (items.extract start finish).length = finish - start := by
  rw [List.extract_eq_take_drop, List.length_take, List.length_drop]
  omega

theorem length_extract_add (items : List α) {start count : Nat}
    (inside : start + count ≤ items.length) :
    (items.extract start (start + count)).length = count := by
  rw [length_extract start inside, Nat.add_sub_cancel_left]

theorem extract_succ (items : List α) {start finish : Nat} (after : start ≤ finish)
    (inside : finish < items.length) :
    items.extract start (finish + 1) = items.extract start finish ++ [items[finish]] := by
  have length : finish + 1 - start = finish - start + 1 := by omega
  have place : start + (finish - start) = finish := by omega
  have held : finish - start < (items.drop start).length := by
    rw [List.length_drop]
    omega
  rw [List.extract_eq_take_drop, List.extract_eq_take_drop, length,
    List.take_succ_eq_append_getElem held, List.getElem_drop]
  simp only [place]

/-! ## What comes behind -/

theorem drop_eq_extract_append (items : List α) (start finish : Nat) (after : start ≤ finish) :
    items.drop start = items.extract start finish ++ items.drop finish := by
  have place : finish = start + (finish - start) := by omega
  have behind : items.drop finish = (items.drop start).drop (finish - start) := by
    rw [List.drop_drop, ← place]
  rw [List.extract_eq_take_drop, behind, List.take_append_drop]

theorem extract_append_extract (items : List α) {start middle finish : Nat}
    (before : start ≤ middle) (after : middle ≤ finish) :
    items.extract start middle ++ items.extract middle finish = items.extract start finish := by
  have length : finish - start = (middle - start) + (finish - middle) := by omega
  have place : start + (middle - start) = middle := by omega
  rw [List.extract_eq_take_drop, List.extract_eq_take_drop, List.extract_eq_take_drop, length,
    List.take_add, List.drop_drop, place]

theorem extract_of_drop {items front rest : List α} {start finish : Nat}
    (parts : items.drop start = front ++ rest) (place : finish = start + front.length) :
    items.extract start finish = front ∧ items.drop finish = rest := by
  have length : finish - start = front.length := by omega
  constructor
  · rw [List.extract_eq_take_drop, parts, length, List.take_left]
  · rw [place, ← List.drop_drop, parts, List.drop_left]

theorem extract_append {front : List α} (rest : List α) {start finish : Nat}
    (inside : finish ≤ front.length) :
    (front ++ rest).extract start finish = front.extract start finish := by
  by_cases order : start ≤ finish
  · rw [List.extract_eq_take_drop, List.extract_eq_take_drop,
      List.drop_append_of_le_length (by omega),
      List.take_append_of_le_length (by rw [List.length_drop]; omega)]
  · have none : finish - start = 0 := by omega
    rw [List.extract_eq_take_drop, List.extract_eq_take_drop, none, List.take_zero,
      List.take_zero]

end PacketFraming
