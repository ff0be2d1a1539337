import PacketFraming.Proofs.JsonText

/-! Reading the text of a number.

Each part of a number takes all the digits there are. So a number is read back from its text when
nothing behind it could belong to it, and whatever is read has a text of the grammar. -/

namespace PacketFraming.Json

/-- What stands behind a number: nothing that a number goes on with. -/
structure EndsNumber (rest : List Char) : Prop where
  no_digit : ∀ char, rest.head? = some char → char.isDigit = false
  no_point : rest.head? ≠ some '.'
  no_exponent : ∀ char, rest.head? = some char → ¬(char = 'e' ∨ char = 'E')

/-! ## Digits -/

theorem digitRun_append {digits rest : List Char}
    (all_digits : ∀ char ∈ digits, char.isDigit = true)
    (ends : ∀ char, rest.head? = some char → char.isDigit = false) :
    digitRun (digits ++ rest) = (digits, rest) := by
  have none_taken : rest.takeWhile Char.isDigit = [] ∧ rest.dropWhile Char.isDigit = rest := by
    cases rest with
    | nil => exact ⟨rfl, rfl⟩
    | cons char rest =>
        have no_digit := ends char rfl
        exact ⟨List.takeWhile_cons_of_neg (by simp [no_digit]),
          List.dropWhile_cons_of_neg (by simp [no_digit])⟩
  rw [digitRun, List.takeWhile_append_of_pos all_digits, List.dropWhile_append_of_pos all_digits,
    none_taken.1, none_taken.2, List.append_nil]

theorem append_of_digitRun {chars digits rest : List Char}
    (run : digitRun chars = (digits, rest)) :
    chars = digits ++ rest ∧ ∀ char ∈ digits, char.isDigit = true := by
  cases run
  exact ⟨List.takeWhile_append_dropWhile.symm, List.all_eq_true.mp List.all_takeWhile⟩

/-! ## Values of numbers -/

section Values

variable {negative : Bool} {whole : List Char} {fraction : Option (List Char)}
  {exponent : Option Int}

theorem numberValue_beyond (outside : ¬InRange whole fraction exponent) :
    numberValue negative whole fraction exponent = unreadable := by
  rw [InRange, Bool.not_eq_true] at outside
  simp only [numberValue, outside]
  rfl

theorem numberValue_decimal (inRange : InRange whole fraction exponent)
    (decimal_parts : fraction.isSome = true ∨ exponent.isSome = true ∨
      negative = true ∧ Nat.ofDigitChars 10 whole 0 = 0) :
    numberValue negative whole fraction exponent = decimal := by
  have parts : (fraction.isSome || exponent.isSome ||
      (negative && Nat.ofDigitChars 10 whole 0 == 0)) = true := by
    simpa only [Bool.or_eq_true, Bool.and_eq_true, beq_iff_eq, or_assoc] using decimal_parts
  rw [InRange] at inRange
  simp only [numberValue, inRange, parts]
  rfl

theorem numberValue_integer (inRange : InRange whole none none)
    (no_negative_zero : ¬(negative = true ∧ Nat.ofDigitChars 10 whole 0 = 0)) :
    numberValue negative whole none none =
      integer (signed negative (Nat.ofDigitChars 10 whole 0)) := by
  have whole_number : (negative && Nat.ofDigitChars 10 whole 0 == 0) = false := by
    simpa only [Bool.eq_false_iff, ne_eq, Bool.and_eq_true, beq_iff_eq] using no_negative_zero
  rw [InRange] at inRange
  simp only [numberValue, inRange, whole_number]
  rfl

theorem numberStands_iff {json : Json} :
    NumberStands negative whole fraction exponent json ↔
      json = numberValue negative whole fraction exponent := by
  constructor
  · intro stands
    cases stands with
    | integer inRange no_negative_zero => exact (numberValue_integer inRange no_negative_zero).symm
    | negativeZero inRange isNegative zero =>
        exact (numberValue_decimal inRange (.inr (.inr ⟨isNegative, zero⟩))).symm
    | decimal inRange parts =>
        exact (numberValue_decimal inRange (parts.imp_right .inl)).symm
    | beyond outside => exact (numberValue_beyond outside).symm
  · rintro rfl
    by_cases inRange : InRange whole fraction exponent
    · by_cases parts : fraction.isSome = true ∨ exponent.isSome = true
      · rw [numberValue_decimal inRange (parts.imp_right .inl)]
        exact .decimal inRange parts
      · rw [not_or, Option.not_isSome_iff_eq_none, Option.not_isSome_iff_eq_none] at parts
        rcases parts with ⟨rfl, rfl⟩
        by_cases zero : negative = true ∧ Nat.ofDigitChars 10 whole 0 = 0
        · rw [numberValue_decimal inRange (.inr (.inr zero))]
          exact .negativeZero inRange zero.1 zero.2
        · rw [numberValue_integer inRange zero]
          exact .integer inRange zero
    · rw [numberValue_beyond inRange]
      exact .beyond inRange

end Values

/-! ## Parts of a number, read -/

theorem wholeDigits?_append {whole rest : List Char} (text : WholeText whole)
    (ends : ∀ char, rest.head? = some char → char.isDigit = false) :
    wholeDigits? (whole ++ rest) = some (whole, rest) := by
  rw [wholeDigits?, digitRun_append text.all_digits ends]
  split
  · next equal =>
    cases equal
    exact absurd rfl text.some_digit
  · next equal =>
    cases equal
    cases text.no_leading_zero rfl
  · rfl

theorem fractionDigits?_append {fraction : Option (List Char)} {point rest : List Char}
    (text : FractionText fraction point)
    (ends : ∀ char, rest.head? = some char → char.isDigit = false)
    (no_point : rest.head? ≠ some '.') :
    fractionDigits? (point ++ rest) = some (fraction, rest) := by
  cases text with
  | none =>
      rw [List.nil_append, fractionDigits?.eq_def]
      split
      · exact absurd rfl no_point
      · rfl
  | @some digits text =>
      rw [List.cons_append, fractionDigits?, digitRun_append text.all_digits ends]
      split
      · next equal =>
        cases equal
        exact absurd rfl text.some_digit
      · next equal =>
        cases equal
        rfl

theorem exponentDigits?_append {digits rest : List Char} (negative : Bool) (text : Digits digits)
    (ends : ∀ char, rest.head? = some char → char.isDigit = false) :
    exponentDigits? negative (digits ++ rest) =
      some (some (signed negative (Nat.ofDigitChars 10 digits 0)), rest) := by
  rw [exponentDigits?, digitRun_append text.all_digits ends]
  split
  · next equal =>
    cases equal
    exact absurd rfl text.some_digit
  · next equal =>
    cases equal
    rfl

theorem exponent?_append {exponent : Option Int} {power rest : List Char}
    (text : ExponentText exponent power) (ends : EndsNumber rest) :
    exponent? (power ++ rest) = some (exponent, rest) := by
  cases text with
  | none =>
      cases rest with
      | nil => rfl
      | cons char rest => exact if_neg (ends.no_exponent char rfl)
  | @some mark negative sign digits isMark signText text =>
      have digits_read (negative : Bool) := exponentDigits?_append negative text ends.no_digit
      rw [List.cons_append, List.append_assoc]
      cases signText with
      | plus => exact (if_pos isMark).trans (digits_read false)
      | minus => exact (if_pos isMark).trans (digits_read true)
      | none =>
          refine (if_pos isMark).trans ?_
          -- The digits themselves begin with no sign.
          have no_sign : ∀ char others, [] ++ (digits ++ rest) = char :: others →
              char.isDigit = true := by
            intro char others equal
            cases digits with
            | nil => exact absurd rfl text.some_digit
            | cons first digits =>
                cases equal
                exact text.all_digits _ List.mem_cons_self
          split
          · next equal => cases no_sign _ _ equal
          · next equal => cases no_sign _ _ equal
          · exact digits_read false

theorem numberBody?_append {negative : Bool} {whole point power rest : List Char}
    {fraction : Option (List Char)} {exponent : Option Int} (wholeText : WholeText whole)
    (fractionText : FractionText fraction point) (exponentText : ExponentText exponent power)
    (ends : EndsNumber rest) :
    numberBody? negative (whole ++ (point ++ (power ++ rest))) =
      some (numberValue negative whole fraction exponent, rest) := by
  have power_ends : (∀ char, (power ++ rest).head? = some char → char.isDigit = false) ∧
      (power ++ rest).head? ≠ some '.' := by
    cases exponentText with
    | none => exact ⟨ends.no_digit, ends.no_point⟩
    | some isMark _ _ =>
        constructor
        · rintro char ⟨⟩
          rcases isMark with rfl | rfl <;> rfl
        · rintro ⟨⟩
          rcases isMark with equal | equal <;> cases equal
  have point_ends : ∀ char, (point ++ (power ++ rest)).head? = some char →
      char.isDigit = false := by
    cases fractionText with
    | none => exact power_ends.1
    | some _ =>
        rintro char ⟨⟩
        rfl
  simp only [numberBody?, wholeDigits?_append wholeText point_ends,
    fractionDigits?_append fractionText power_ends.1 power_ends.2,
    exponent?_append exponentText ends, Option.bind_eq_bind, Option.bind_some]

/-! ## Parts of a number, found -/

theorem wholeText_of_wholeDigits? {chars whole rest : List Char}
    (found : wholeDigits? chars = some (whole, rest)) :
    chars = whole ++ rest ∧ WholeText whole := by
  rw [wholeDigits?] at found
  cases run : digitRun chars with
  | mk digits left =>
      rcases append_of_digitRun run with ⟨parts, all_digits⟩
      rw [run] at found
      split at found
      · cases found
      · cases found
      · next not_empty not_zero =>
        cases found
        refine ⟨parts, ⟨fun empty => not_empty rest (by rw [empty]), all_digits⟩, ?_⟩
        intro zero
        cases whole with
        | nil => cases zero
        | cons first others =>
            cases zero
            cases others with
            | nil => rfl
            | cons second others => exact (not_zero _ _ _ rfl).elim

theorem digits_of_digitRun {chars digits rest : List Char}
    (run : digitRun chars = (digits, rest)) (not_empty : digits ≠ []) :
    chars = digits ++ rest ∧ Digits digits :=
  ⟨(append_of_digitRun run).1, not_empty, (append_of_digitRun run).2⟩

theorem fractionText_of_fractionDigits? {chars rest : List Char} {fraction : Option (List Char)}
    (found : fractionDigits? chars = some (fraction, rest)) :
    ∃ point, chars = point ++ rest ∧ FractionText fraction point := by
  unfold fractionDigits? at found
  split at found
  · next others =>
    cases run : digitRun others with
    | mk digits left =>
        rw [run] at found
        split at found
        · cases found
        · next not_empty equal =>
          cases equal
          cases found
          rcases digits_of_digitRun run not_empty with ⟨parts, text⟩
          exact ⟨'.' :: digits, congrArg _ parts, .some text⟩
  · cases found
    exact ⟨[], rfl, .none⟩

theorem digits_of_exponentDigits? {negative : Bool} {chars rest : List Char}
    {exponent : Option Int} (found : exponentDigits? negative chars = some (exponent, rest)) :
    ∃ digits, chars = digits ++ rest ∧ Digits digits ∧
      exponent = some (signed negative (Nat.ofDigitChars 10 digits 0)) := by
  rw [exponentDigits?] at found
  cases run : digitRun chars with
  | mk digits left =>
      rw [run] at found
      split at found
      · cases found
      · next not_empty equal =>
        cases equal
        cases found
        rcases digits_of_digitRun run not_empty with ⟨parts, text⟩
        exact ⟨digits, parts, text, rfl⟩

theorem exponentText_of_exponent? {chars rest : List Char} {exponent : Option Int}
    (found : exponent? chars = some (exponent, rest)) :
    ∃ power, chars = power ++ rest ∧ ExponentText exponent power := by
  unfold exponent? at found
  split at found
  · cases found
    exact ⟨[], rfl, .none⟩
  · next mark others =>
    split at found
    · next isMark =>
      -- The three ways to give the sign.
      split at found
      · rcases digits_of_exponentDigits? found with ⟨digits, parts, text, rfl⟩
        exact ⟨mark :: '-' :: digits, by rw [parts]; rfl, .some isMark .minus text⟩
      · rcases digits_of_exponentDigits? found with ⟨digits, parts, text, rfl⟩
        exact ⟨mark :: '+' :: digits, by rw [parts]; rfl, .some isMark .plus text⟩
      · rcases digits_of_exponentDigits? found with ⟨digits, parts, text, rfl⟩
        exact ⟨mark :: digits, by rw [parts]; rfl, .some isMark .none text⟩
    · cases found
      exact ⟨[], rfl, .none⟩

theorem written_of_numberBody? {negative : Bool} {chars rest : List Char} {json : Json}
    (found : numberBody? negative chars = some (json, rest)) :
    ∃ text, chars = text ++ rest ∧
      Written ((if negative then ['-'] else []) ++ text) json := by
  rcases Option.bind_eq_some_iff.mp found with ⟨⟨whole, behindWhole⟩, wholeFound, found⟩
  rcases Option.bind_eq_some_iff.mp found with ⟨⟨fraction, behindPoint⟩, fractionFound, found⟩
  rcases Option.bind_eq_some_iff.mp found with ⟨⟨exponent, left⟩, exponentFound, found⟩
  cases found
  rcases wholeText_of_wholeDigits? wholeFound with ⟨rfl, wholeText⟩
  rcases fractionText_of_fractionDigits? fractionFound with ⟨point, rfl, fractionText⟩
  rcases exponentText_of_exponent? exponentFound with ⟨power, rfl, exponentText⟩
  refine ⟨whole ++ (point ++ power), ?_, .number wholeText fractionText exponentText
    (numberStands_iff.mpr rfl)⟩
  rw [List.append_assoc, List.append_assoc]

end PacketFraming.Json
