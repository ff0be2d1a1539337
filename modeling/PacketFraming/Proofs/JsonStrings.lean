import PacketFraming.Proofs.JsonText

/-! Reading the text of a string.

A string is read part by part, and halves of surrogate pairs are joined afterwards. What is read up
to the closing quote is exactly what the grammar allows between quotes. -/

namespace PacketFraming.Json

/-! ## Parts of strings -/

/-- A part of a string as it is written: a character, or a code of 16 bits. -/
inductive UnitText : StringUnit → List Char → Prop
  | plain {char : Char} : char ≠ '"' → char ≠ '\\' → 0x20 ≤ char.toNat →
      UnitText (.char char) [char]
  | short {char letter : Char} : shortEscape? letter = some char →
      UnitText (.char char) ['\\', letter]
  | code {code : Nat} {first second third fourth : Char} :
      hexCode? first second third fourth = some code →
        UnitText (.code code) ['\\', 'u', first, second, third, fourth]

inductive UnitsText : List StringUnit → List Char → Prop
  | nil : UnitsText [] []
  | cons {unit : StringUnit} {units : List StringUnit} {text others : List Char} :
      UnitText unit text → UnitsText units others → UnitsText (unit :: units) (text ++ others)

theorem stringUnits?_append {unit : StringUnit} {text : List Char} (unitText : UnitText unit text)
    (rest : List Char) :
    stringUnits? (text ++ rest) =
      (stringUnits? rest).map fun found => (unit :: found.1, found.2) := by
  cases unitText with
  | @plain char no_quote no_escape printable =>
      rw [List.singleton_append, stringUnits?.eq_def]
      split
      · next equal => cases equal
      · next equal => cases equal; exact absurd rfl no_quote
      · next equal => cases equal; exact absurd rfl no_escape
      · next equal => cases equal; exact absurd rfl no_escape
      · next equal =>
        cases equal
        rw [if_neg (Nat.not_lt.mpr printable)]
        cases stringUnits? rest <;> rfl
  | @short char letter escape =>
      have not_code : letter ≠ 'u' := by
        rintro rfl
        cases escape
      change stringUnits? ('\\' :: letter :: rest) = _
      rw [stringUnits?.eq_def]
      split
      · next equal => cases equal
      · next equal => cases equal
      · next equal => cases equal; exact absurd rfl not_code
      · next equal =>
        cases equal
        rw [escape]
        cases stringUnits? rest <;> rfl
      · next others equal =>
        cases equal
        exact (others _ _ rfl rfl).elim
  | @code code first second third fourth digits =>
      change stringUnits? ('\\' :: 'u' :: first :: second :: third :: fourth :: rest) = _
      rw [stringUnits?, digits]
      cases stringUnits? rest <;> rfl

theorem stringUnits?_of_unitsText {units : List StringUnit} {text : List Char}
    (unitsText : UnitsText units text) (rest : List Char) :
    stringUnits? (text ++ '"' :: rest) = some (units, rest) := by
  induction unitsText with
  | nil => rfl
  | cons one others induction => rw [List.append_assoc, stringUnits?_append one, induction]; rfl

theorem unitsText_of_stringUnits? {chars rest : List Char} {units : List StringUnit}
    (found : stringUnits? chars = some (units, rest)) :
    ∃ text, chars = text ++ '"' :: rest ∧ UnitsText units text := by
  fun_induction stringUnits? chars generalizing units with
  | case1 => cases found
  | case2 rest =>
      cases found
      exact ⟨[], rfl, .nil⟩
  | case3 first second third fourth others induction =>
      rcases Option.bind_eq_some_iff.mp found with ⟨code, digits, found⟩
      rcases Option.bind_eq_some_iff.mp found with ⟨⟨units, left⟩, further, found⟩
      cases found
      rcases induction further with ⟨text, rfl, unitsText⟩
      exact ⟨_, rfl, .cons (.code digits) unitsText⟩
  | case4 letter others _ induction =>
      rcases Option.bind_eq_some_iff.mp found with ⟨char, escape, found⟩
      rcases Option.bind_eq_some_iff.mp found with ⟨⟨units, left⟩, further, found⟩
      cases found
      rcases induction further with ⟨text, rfl, unitsText⟩
      exact ⟨_, rfl, .cons (.short escape) unitsText⟩
  | case5 char others _ _ _ control => cases found
  | case6 char others no_quote _ no_escape printable induction =>
      rcases Option.bind_eq_some_iff.mp found with ⟨⟨units, left⟩, further, found⟩
      cases found
      rcases induction further with ⟨text, rfl, unitsText⟩
      -- A backslash has a letter behind it here, since the quote is still to come.
      have no_backslash : char ≠ '\\' := by
        rintro rfl
        cases text with
        | nil => exact no_escape _ _ rfl rfl
        | cons letter text => exact no_escape _ _ rfl rfl
      exact ⟨_, rfl, .cons (.plain no_quote no_backslash (Nat.not_lt.mp printable)) unitsText⟩

/-! ## Joining halves -/

theorem not_half_of_char (char : Char) :
    isHighHalf char.toNat = false ∧ isLowHalf char.toNat = false := by
  have valid : char.toNat < 0xD800 ∨ 0xDFFF < char.toNat ∧ char.toNat < 0x110000 := char.valid
  simp only [isHighHalf, isLowHalf, Bool.and_eq_false_iff, decide_eq_false_iff_not, Nat.not_le,
    Nat.not_lt]
  omega

theorem joinUnits?_code {code : Nat} (not_high : isHighHalf code = false)
    (not_low : isLowHalf code = false) (units : List StringUnit) :
    joinUnits? (.code code :: units) = (joinUnits? units).map (Char.ofNat code :: ·) := by
  rw [joinUnits?.eq_def]
  split
  · next equal => cases equal
  · next equal => cases equal
  · next equal =>
    cases equal
    rw [if_neg (by simp [not_high]), if_neg (by simp [not_low])]
  · next equal =>
    cases equal
    rw [if_neg (by simp [not_high, not_low])]

theorem exists_unitsText {chars text : List Char} (stringText : StringText chars text) :
    ∃ units, UnitsText units text ∧ joinUnits? units = some chars := by
  induction stringText with
  | nil => exact ⟨[], .nil, rfl⟩
  | @cons char chars text others one _ induction =>
      rcases induction with ⟨units, unitsText, joined⟩
      cases one with
      | plain no_quote no_escape printable =>
          refine ⟨.char char :: units, .cons (.plain no_quote no_escape printable) unitsText, ?_⟩
          rw [joinUnits?, joined]
          rfl
      | short escape =>
          refine ⟨.char char :: units, .cons (.short escape) unitsText, ?_⟩
          rw [joinUnits?, joined]
          rfl
      | code digits =>
          rcases not_half_of_char char with ⟨not_high, not_low⟩
          refine ⟨.code char.toNat :: units, .cons (.code digits) unitsText, ?_⟩
          rw [joinUnits?_code not_high not_low, joined, Char.ofNat_toNat]
          rfl
      | @pair _ _ _ _ _ _ _ _ high low highDigits lowDigits isHigh isLow value =>
          have both : UnitsText (.code high :: .code low :: units) _ :=
            .cons (.code highDigits) (.cons (.code lowDigits) unitsText)
          refine ⟨_, both, ?_⟩
          rw [joinUnits?, if_pos isHigh, if_pos isLow, joined, ← value, Char.ofNat_toNat]
          rfl

theorem hexValue?_lt {char : Char} {value : Nat} (digit : hexValue? char = some value) :
    value < 16 := by
  unfold hexValue? at digit
  split at digit
  · next range =>
    have high : char.toNat ≤ '9'.toNat := range.2
    have upper : '9'.toNat = 57 := rfl
    have lower : '0'.toNat = 48 := rfl
    cases digit
    omega
  · split at digit
    · next range =>
      have high : char.toNat ≤ 'f'.toNat := range.2
      have upper : 'f'.toNat = 102 := rfl
      have lower : 'a'.toNat = 97 := rfl
      cases digit
      omega
    · split at digit
      · next range =>
        have high : char.toNat ≤ 'F'.toNat := range.2
        have upper : 'F'.toNat = 70 := rfl
        have lower : 'A'.toNat = 65 := rfl
        cases digit
        omega
      · cases digit

theorem hexCode?_lt {first second third fourth : Char} {code : Nat}
    (digits : hexCode? first second third fourth = some code) : code < 0x10000 := by
  rcases Option.bind_eq_some_iff.mp digits with ⟨one, oneDigit, digits⟩
  rcases Option.bind_eq_some_iff.mp digits with ⟨two, twoDigit, digits⟩
  rcases Option.bind_eq_some_iff.mp digits with ⟨three, threeDigit, digits⟩
  rcases Option.bind_eq_some_iff.mp digits with ⟨four, fourDigit, digits⟩
  have one_lt := hexValue?_lt oneDigit
  have two_lt := hexValue?_lt twoDigit
  have three_lt := hexValue?_lt threeDigit
  have four_lt := hexValue?_lt fourDigit
  cases digits
  omega

theorem toNat_ofNat_of_valid {code : Nat} (valid : code.isValidChar) :
    (Char.ofNat code).toNat = code := by
  rw [Char.ofNat, dif_pos valid]
  rfl

theorem toNat_ofNat_code {code : Nat} (small : code < 0x10000)
    (not_high : isHighHalf code = false) (not_low : isLowHalf code = false) :
    (Char.ofNat code).toNat = code := by
  have valid : code.isValidChar := by
    simp only [isHighHalf, isLowHalf, Bool.and_eq_false_iff, decide_eq_false_iff_not, Nat.not_le,
      Nat.not_lt] at not_high not_low
    change code < 0xD800 ∨ 0xDFFF < code ∧ code < 0x110000
    omega
  exact toNat_ofNat_of_valid valid

theorem toNat_ofNat_pair {high low : Nat} (isHigh : isHighHalf high = true)
    (isLow : isLowHalf low = true) :
    (Char.ofNat (0x10000 + (high - 0xD800) * 0x400 + (low - 0xDC00))).toNat =
      0x10000 + (high - 0xD800) * 0x400 + (low - 0xDC00) := by
  have valid : (0x10000 + (high - 0xD800) * 0x400 + (low - 0xDC00)).isValidChar := by
    simp only [isHighHalf, isLowHalf, Bool.and_eq_true, decide_eq_true_eq] at isHigh isLow
    refine .inr ⟨?_, ?_⟩ <;> omega
  exact toNat_ofNat_of_valid valid

theorem charText_of_code {code : Nat} {text : List Char} (unitText : UnitText (.code code) text)
    (not_high : isHighHalf code = false) (not_low : isLowHalf code = false) :
    CharText (Char.ofNat code) text := by
  cases unitText with
  | code digits =>
      have same := toNat_ofNat_code (hexCode?_lt digits) not_high not_low
      exact .code (by rw [digits, same])

theorem stringText_of_unitsText {units : List StringUnit} {chars text : List Char}
    (unitsText : UnitsText units text) (joined : joinUnits? units = some chars) :
    StringText chars text := by
  fun_induction joinUnits? units generalizing chars text with
  | case1 =>
      cases joined
      cases unitsText
      exact .nil
  | case2 value units induction =>
      rcases Option.map_eq_some_iff.mp joined with ⟨rest, further, rfl⟩
      cases unitsText with
      | cons one others =>
          refine .cons ?_ (induction others further)
          cases one with
          | plain no_quote no_escape printable => exact .plain no_quote no_escape printable
          | short escape => exact .short escape
  | case3 high low units isHigh isLow induction =>
      rcases Option.map_eq_some_iff.mp joined with ⟨rest, further, rfl⟩
      cases unitsText with
      | cons one others =>
          cases others with
          | cons two others =>
              cases one with
              | code highDigits =>
                  cases two with
                  | code lowDigits =>
                      have pair := CharText.pair highDigits lowDigits isHigh isLow
                        (toNat_ofNat_pair isHigh isLow)
                      have whole := StringText.cons pair (induction others further)
                      simpa only [List.cons_append, List.nil_append] using whole
  | case4 high low units isHigh not_low => cases joined
  | case5 high low units not_high isLow => cases joined
  | case6 high low units not_high not_low induction =>
      rcases Option.map_eq_some_iff.mp joined with ⟨rest, further, rfl⟩
      cases unitsText with
      | cons one others =>
          exact .cons
            (charText_of_code one (Bool.eq_false_iff.mpr not_high) (Bool.eq_false_iff.mpr not_low))
            (induction others further)
  | case7 value units _ half => cases joined
  | case8 value units _ whole induction =>
      rcases Option.map_eq_some_iff.mp joined with ⟨rest, further, rfl⟩
      rw [Bool.or_eq_true, not_or] at whole
      cases unitsText with
      | cons one others =>
          exact .cons
            (charText_of_code one (Bool.eq_false_iff.mpr whole.1) (Bool.eq_false_iff.mpr whole.2))
            (induction others further)

/-! ## Whole strings -/

theorem stringBody?_of_stringText {content : String} {text : List Char}
    (stringText : StringText content.toList text) (rest : List Char) :
    stringBody? (text ++ '"' :: rest) = some (some content, rest) := by
  rcases exists_unitsText stringText with ⟨units, unitsText, joined⟩
  rw [stringBody?, stringUnits?_of_unitsText unitsText]
  change some ((joinUnits? units).map String.ofList, rest) = _
  rw [joined, Option.map_some, String.ofList_toList]

theorem stringText_of_stringBody? {chars rest : List Char} {content : String}
    (found : stringBody? chars = some (some content, rest)) :
    ∃ text, chars = text ++ '"' :: rest ∧ StringText content.toList text := by
  rcases Option.map_eq_some_iff.mp found with ⟨⟨units, left⟩, parts, equal⟩
  simp only [Prod.mk.injEq] at equal
  rcases equal with ⟨joined, rfl⟩
  rcases Option.map_eq_some_iff.mp joined with ⟨spelled, spells, rfl⟩
  rcases unitsText_of_stringUnits? parts with ⟨text, split, unitsText⟩
  refine ⟨text, split, ?_⟩
  rw [String.toList_ofList]
  exact stringText_of_unitsText unitsText spells

end PacketFraming.Json
