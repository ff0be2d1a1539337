import PacketFraming.Proofs.Whitening

/-! How many symbols of a transmission a payload spans.

The rows of a carrier table repeat without end, and a payload takes the fewest symbols that have
room for it. Whole passes over the table are counted at once, and what is left is walked off row by
row. The walk goes on until enough is covered: over a table without carriers that would be for
ever, over any other it ends within one pass. -/

namespace PacketFraming

/-! ## Carriers of repeated rows -/

theorem carriersIn_append (first second : List Nat) :
    carriersIn (first ++ second) = carriersIn first + carriersIn second := by
  induction first with
  | nil => exact (Nat.zero_add _).symm
  | cons row rest induction =>
      change row + carriersIn (rest ++ second) = row + carriersIn rest + carriersIn second
      rw [induction, Nat.add_assoc]

/-- Carriers of the first symbols of a transmission, which take the rows in cyclic order. -/
def capacity (rows : List Nat) (frames : Nat) : Nat :=
  carriersIn ((List.range frames).map fun index => rows.getD (index % rows.length) 0)

section Capacity

variable (rows : List Nat)

theorem capacity_succ (frames : Nat) :
    capacity rows (frames + 1) = capacity rows frames + rows.getD (frames % rows.length) 0 := by
  rw [capacity, List.range_succ, List.map_append, carriersIn_append]
  rfl

theorem capacity_mono {frames more : Nat} (le : frames ≤ more) :
    capacity rows frames ≤ capacity rows more := by
  induction le with
  | refl => exact Nat.le_refl _
  | step _ induction =>
      rw [capacity_succ]
      exact Nat.le_add_right_of_le induction

theorem capacity_of_le {frames : Nat} (within : frames ≤ rows.length) :
    capacity rows frames = carriersIn (rows.take frames) := by
  induction frames with
  | zero => rfl
  | succ frames induction =>
      have inside : frames < rows.length := within
      rw [capacity_succ, induction (Nat.le_of_lt inside), Nat.mod_eq_of_lt inside,
        List.take_add_one, carriersIn_append, List.getD_eq_getElem?_getD,
        List.getElem?_eq_getElem inside]
      rfl

theorem capacity_length : capacity rows rows.length = carriersIn rows := by
  rw [capacity_of_le rows (Nat.le_refl _), List.take_length]

theorem capacity_pass_add (frames : Nat) :
    capacity rows (rows.length + frames) = carriersIn rows + capacity rows frames := by
  induction frames with
  | zero => exact capacity_length rows
  | succ frames induction =>
      rw [← Nat.add_assoc, capacity_succ, capacity_succ, induction, Nat.add_mod_left,
        Nat.add_assoc]

theorem capacity_passes_add (passes frames : Nat) :
    capacity rows (passes * rows.length + frames) =
      passes * carriersIn rows + capacity rows frames := by
  induction passes with
  | zero => rw [Nat.zero_mul, Nat.zero_mul, Nat.zero_add, Nat.zero_add]
  | succ passes induction =>
      rw [Nat.succ_mul, Nat.succ_mul, Nat.add_comm (passes * rows.length), Nat.add_assoc,
        capacity_pass_add, induction]
      omega

theorem capacity_lt_of_last {last : Nat} (ends : rows.getLast? = some last) (some : last ≠ 0)
    {frames : Nat} (fewer : frames < rows.length) : capacity rows frames < carriersIn rows := by
  rcases List.getLast?_eq_some_iff.mp ends with ⟨front, rfl⟩
  have size : (front ++ [last]).length = front.length + 1 := List.length_append
  calc capacity (front ++ [last]) frames
      ≤ capacity (front ++ [last]) front.length := capacity_mono _ (by omega)
    _ = carriersIn front := by rw [capacity_of_le _ (by omega), List.take_left]
    _ < carriersIn front + carriersIn [last] :=
        Nat.lt_add_of_pos_right (Nat.pos_of_ne_zero some)
    _ = carriersIn (front ++ [last]) := (carriersIn_append front [last]).symm

theorem capacity_lt_passes_add {frames symbols : Nat} (some : 0 < frames)
    (below : ∀ fewer < frames, capacity rows fewer < symbols) (passes : Nat) {fewer : Nat}
    (short : fewer < passes * rows.length + frames) :
    capacity rows fewer < passes * carriersIn rows + symbols := by
  have last : frames - 1 < frames := Nat.sub_one_lt_of_lt some
  calc capacity rows fewer
      ≤ capacity rows (passes * rows.length + (frames - 1)) := capacity_mono rows (by omega)
    _ = passes * carriersIn rows + capacity rows (frames - 1) := capacity_passes_add rows _ _
    _ < passes * carriersIn rows + symbols := Nat.add_lt_add_left (below _ last) _

theorem capacity_lt_of_passes {last : Nat} (ends : rows.getLast? = some last) (some : last ≠ 0)
    {passes fewer : Nat} (short : fewer < passes * rows.length) :
    capacity rows fewer < passes * carriersIn rows := by
  cases passes with
  | zero =>
      rw [Nat.zero_mul] at short
      exact absurd short (Nat.not_lt_zero fewer)
  | succ others =>
      rw [Nat.succ_mul] at short
      have nonempty : 0 < rows.length := by
        rcases List.getLast?_eq_some_iff.mp ends with ⟨front, rfl⟩
        rw [List.length_append]
        exact Nat.succ_pos _
      rw [Nat.succ_mul]
      exact capacity_lt_passes_add rows nonempty
        (fun _ within => capacity_lt_of_last rows ends some within) others short

end Capacity

/-! ## Rows that cover a rest -/

theorem rowsCovering_cons (row : Nat) (rest : List Nat) {symbols : Nat} (some : symbols ≠ 0) :
    rowsCovering (row :: rest) symbols = 1 + rowsCovering rest (symbols - row) := by
  rcases Nat.exists_eq_succ_of_ne_zero some with ⟨others, rfl⟩
  rfl

theorem rowsCovering_le_length (rows : List Nat) (symbols : Nat) :
    rowsCovering rows symbols ≤ rows.length := by
  fun_induction rowsCovering rows symbols with
  | case1 rows => exact Nat.zero_le _
  | case2 symbols => exact Nat.le_refl _
  | case3 row rest symbols _ induction =>
      rw [List.length_cons]
      omega

theorem le_carriersIn_take (rows : List Nat) {symbols : Nat} (held : symbols ≤ carriersIn rows) :
    symbols ≤ carriersIn (rows.take (rowsCovering rows symbols)) := by
  fun_induction rowsCovering rows symbols with
  | case1 rows => exact Nat.zero_le _
  | case2 symbols => exact held
  | case3 row rest symbols _ induction =>
      change symbols ≤ row + carriersIn rest at held
      rw [Nat.add_comm, List.take_succ_cons]
      change symbols ≤ row + carriersIn (rest.take (rowsCovering rest (symbols - row)))
      have later := induction (by omega)
      omega

theorem carriersIn_take_lt (rows : List Nat) {symbols fewer : Nat}
    (short : fewer < rowsCovering rows symbols) : carriersIn (rows.take fewer) < symbols := by
  fun_induction rowsCovering rows symbols generalizing fewer with
  | case1 rows => exact absurd short (Nat.not_lt_zero fewer)
  | case2 symbols => exact absurd short (Nat.not_lt_zero fewer)
  | case3 row rest symbols some induction =>
      cases fewer with
      | zero => exact Nat.pos_of_ne_zero some
      | succ fewer =>
          have later : carriersIn (rest.take fewer) < symbols - row := induction (by omega)
          change row + carriersIn (rest.take fewer) < symbols
          omega

theorem rowsCovering_pos (rows : List Nat) {symbols : Nat} (some : symbols ≠ 0)
    (held : symbols ≤ carriersIn rows) : 0 < rowsCovering rows symbols := by
  cases rows with
  | nil => exact absurd (Nat.le_zero.mp held) some
  | cons row rest =>
      rw [rowsCovering_cons row rest some]
      omega

theorem rowsCovering_mono (rows : List Nat) {symbols more : Nat} (le : symbols ≤ more)
    (held : more ≤ carriersIn rows) : rowsCovering rows symbols ≤ rowsCovering rows more := by
  apply Nat.le_of_not_lt
  intro fewer
  have short := carriersIn_take_lt rows fewer
  have enough := le_carriersIn_take rows held
  omega

namespace CarrierLayout

variable (layout : CarrierLayout)

/-! ## The walk over the rows -/

/-- The rows that are taken until `symbols` are covered, where some are covered already and the
rows of the pass under way are those that are left. After the last row comes the first one. -/
def rowsWalked (symbols covered : Nat) (left : List Nat) : Nat :=
  if symbols ≤ covered then 0
  else
    match left with
    | [] => rowsWalked symbols covered layout.rows
    | row :: rest => rowsWalked symbols (covered + row) rest + 1
termination_by (symbols - (covered + carriersIn left), left.length)
decreasing_by
  · -- A new pass has at least one carrier to offer.
    have carriers_pos := layout.sized.carriers_pos
    apply Prod.Lex.left
    change symbols - (covered + carriersIn layout.rows) < symbols - covered
    omega
  · have same : covered + row + carriersIn rest = covered + carriersIn (row :: rest) :=
      Nat.add_assoc _ _ _
    rw [same]
    exact Prod.Lex.right _ (Nat.lt_succ_self _)

theorem rowsWalked_eq {symbols covered : Nat} {left : List Nat}
    (enough : symbols ≤ covered + carriersIn left) :
    layout.rowsWalked symbols covered left = rowsCovering left (symbols - covered) := by
  induction left generalizing covered with
  | nil =>
      have done : symbols ≤ covered := enough
      rw [rowsWalked, if_pos done, Nat.sub_eq_zero_of_le done, rowsCovering]
  | cons row rest induction =>
      rw [rowsWalked]
      by_cases done : symbols ≤ covered
      · rw [if_pos done, Nat.sub_eq_zero_of_le done, rowsCovering]
      · have others : symbols ≤ covered + row + carriersIn rest := by
          rw [Nat.add_assoc]
          exact enough
        have some : symbols - covered ≠ 0 := by omega
        rw [if_neg done]
        change layout.rowsWalked symbols (covered + row) rest + 1 = _
        rw [induction others, rowsCovering_cons row rest some, Nat.sub_sub, Nat.add_comm]

theorem frameLength_eq_walked (symbols : Nat) :
    let passes := symbols / layout.carriersPerPass
    let walked := layout.rowsWalked symbols (passes * layout.carriersPerPass) layout.rows
    walked ≤ layout.rows.length ∧
      layout.frameLength symbols = passes * layout.rows.length + walked := by
  have carriers_pos : 0 < layout.carriersPerPass := layout.sized.carriers_pos
  have divided := Nat.div_add_mod' symbols layout.carriersPerPass
  have rest := Nat.mod_lt symbols carriers_pos
  have enough : symbols ≤ symbols / layout.carriersPerPass * layout.carriersPerPass +
      carriersIn layout.rows := by
    change _ ≤ _ + layout.carriersPerPass
    omega
  have left : symbols - symbols / layout.carriersPerPass * layout.carriersPerPass =
      symbols % layout.carriersPerPass := by
    omega
  dsimp only
  rw [layout.rowsWalked_eq enough, left]
  exact ⟨rowsCovering_le_length _ _, rfl⟩

/-! ## Enough, and no more than that -/

theorem le_capacity_frameLength (symbols : Nat) :
    symbols ≤ capacity layout.rows (layout.frameLength symbols) := by
  have rest := Nat.mod_lt symbols layout.sized.carriers_pos
  have covered := le_carriersIn_take layout.rows (Nat.le_of_lt rest)
  rw [frameLength, capacity_passes_add, capacity_of_le _ (rowsCovering_le_length _ _)]
  calc symbols
      = symbols / layout.carriersPerPass * layout.carriersPerPass +
          symbols % layout.carriersPerPass := (Nat.div_add_mod' _ _).symm
    _ ≤ _ := Nat.add_le_add_left covered _

/-- Fewer symbols have no room for a payload, unless it fills whole passes and those end with a
symbol that carries nothing. -/
theorem capacity_lt_of_lt_frameLength {symbols fewer : Nat}
    (counts : symbols % carriersIn layout.rows ≠ 0 ∨ layout.rows.getLast? ≠ some 0)
    (short : fewer < layout.frameLength symbols) : capacity layout.rows fewer < symbols := by
  have divided := Nat.div_add_mod' symbols (carriersIn layout.rows)
  have carriers_pos := layout.sized.carriers_pos
  unfold frameLength carriersPerPass at short
  by_cases whole : symbols % carriersIn layout.rows = 0
  · have nonempty : layout.rows ≠ [] := by
      intro none
      rw [none] at carriers_pos
      exact absurd carriers_pos (by decide)
    have ends := List.getLast?_eq_some_getLast nonempty
    have some : layout.rows.getLast nonempty ≠ 0 := by
      intro empty
      rw [ends, empty] at counts
      exact counts.elim (absurd whole) (absurd rfl)
    rw [whole, rowsCovering, Nat.add_zero] at short
    rw [whole, Nat.add_zero] at divided
    have reached := capacity_lt_of_passes layout.rows ends some short
    rwa [divided] at reached
  · have held := Nat.le_of_lt (Nat.mod_lt symbols carriers_pos)
    have within := rowsCovering_le_length layout.rows (symbols % carriersIn layout.rows)
    have below : ∀ fewer < rowsCovering layout.rows (symbols % carriersIn layout.rows),
        capacity layout.rows fewer < symbols % carriersIn layout.rows := by
      intro fewer first
      rw [capacity_of_le _ (by omega)]
      exact carriersIn_take_lt layout.rows first
    have reached := capacity_lt_passes_add layout.rows
      (rowsCovering_pos layout.rows whole held) below _ short
    rwa [divided] at reached

theorem frameLength_mono {symbols more : Nat} (le : symbols ≤ more) :
    layout.frameLength symbols ≤ layout.frameLength more := by
  have carriers_pos : 0 < layout.carriersPerPass := layout.sized.carriers_pos
  have rest : more % layout.carriersPerPass ≤ carriersIn layout.rows :=
    Nat.le_of_lt (Nat.mod_lt more carriers_pos)
  have passes : symbols / layout.carriersPerPass ≤ more / layout.carriersPerPass :=
    Nat.div_le_div_right le
  unfold frameLength
  by_cases same : symbols / layout.carriersPerPass = more / layout.carriersPerPass
  · have left : symbols % layout.carriersPerPass ≤ more % layout.carriersPerPass := by
      have first := Nat.div_add_mod' symbols layout.carriersPerPass
      have second := Nat.div_add_mod' more layout.carriersPerPass
      rw [same] at first
      omega
    rw [same]
    exact Nat.add_le_add_left (rowsCovering_mono layout.rows left rest) _
  · -- The larger payload takes a further pass, which is as long as any walk.
    have further : symbols / layout.carriersPerPass + 1 ≤ more / layout.carriersPerPass := by
      omega
    have walked := rowsCovering_le_length layout.rows (symbols % layout.carriersPerPass)
    have whole := Nat.mul_le_mul_right layout.rows.length further
    rw [Nat.succ_mul] at whole
    omega

/-- Over every table that is accepted, a payload spans the fewest symbols that have room for it,
a larger one no fewer, and the walk that counts them ends within one pass. -/
theorem frameLength_least {config : CarriersConfig} {layout : CarrierLayout}
    (accepted : (LayoutConfig.carriers config).build = .ok (.carriers layout)) :
    let rows := config.table.map List.length
    (∀ symbols,
      symbols ≤ capacity rows (layout.frameLength symbols) ∧
      (symbols % carriersIn rows ≠ 0 ∨ config.table.getLast? ≠ some [] →
        ∀ fewer < layout.frameLength symbols, capacity rows fewer < symbols) ∧
      let passes := symbols / carriersIn rows
      let walked := layout.rowsWalked symbols (passes * carriersIn rows) rows
      walked ≤ rows.length ∧ layout.frameLength symbols = passes * rows.length + walked) ∧
    ∀ symbols more, symbols ≤ more → layout.frameLength symbols ≤ layout.frameLength more := by
  rcases selected_of_build accepted with ⟨same, named, selected⟩
  obtain rfl := Layout.carriers.inj named
  have last : config.table.getLast? ≠ some [] → layout.rows.getLast? ≠ some 0 := by
    intro held empty
    rw [selected.rows, List.getLast?_map] at empty
    rcases Option.map_eq_some_iff.mp empty with ⟨row, ends, none⟩
    exact held (List.length_eq_zero_iff.mp none ▸ ends)
  rw [← selected.rows]
  exact ⟨fun symbols => ⟨layout.le_capacity_frameLength symbols,
      fun counts _ short => layout.capacity_lt_of_lt_frameLength (counts.imp_right last) short,
      layout.frameLength_eq_walked symbols⟩,
    fun _ _ le => layout.frameLength_mono le⟩

/-- Two of four rows are empty, and eleven payload symbols end in the middle of the second pass. -/
theorem frameLength_least_empty_rows :
    let config : CarriersConfig := { table := [[-2, -1, 1, 2], [], [-1, 1], []], width := 8 }
    ∃ layout, (LayoutConfig.carriers config).build = .ok (.carriers layout) ∧
      layout.frameLength 11 = 7 ∧ 11 ≤ capacity [4, 0, 2, 0] 7 ∧
      ∀ fewer < 7, capacity [4, 0, 2, 0] fewer < 11 := by
  intro config
  have accepted : (LayoutConfig.carriers config).build = .ok _ := rfl
  rcases selected_of_build accepted with ⟨layout, named, selected⟩
  rw [named] at accepted
  have rows : layout.rows = [4, 0, 2, 0] := selected.rows
  have spans : layout.frameLength 11 = 7 := by
    rw [frameLength, carriersPerPass, rows]
    decide
  have least := (frameLength_least accepted).1 11
  rw [spans] at least
  exact ⟨layout, accepted, spans, least.1, least.2.1 (.inl (by decide))⟩

end CarrierLayout

end PacketFraming
