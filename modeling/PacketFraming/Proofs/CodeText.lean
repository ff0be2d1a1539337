import PacketFraming.Proofs.HeaderFields
import PacketFraming.Proofs.Selection

/-! The forms of an access code: its text, its value and its bits on the wire.

A text of digits that fill whole bytes is the text of one code, and every other text is refused for
the first thing that is wrong with it. The text, the number that it spells and the first bits of a
header determine each other. -/

namespace PacketFraming

namespace AccessCode

/-- A text of up to eight whole bytes of digits. -/
structure Legible (text : String) : Prop where
  length : text.length ∈ [0, 8, 16, 24, 32, 40, 48, 56, 64]
  digits : ∀ char ∈ text.toList, char = '0' ∨ char = '1'

/-- What is wrong with a text: first that there are too many characters, then that they do not
fill whole bytes, and then which one of them is the first that is no digit. -/
inductive Refused (text : String) : BitError → Prop
  | tooLong (long : 64 < text.length) : Refused text (.accessCodeTooLong text.length)
  | unaligned (short : text.length ≤ 64) (broken : text.length % 8 ≠ 0) :
      Refused text (.accessCodeUnaligned text.length)
  | foreign {index : Nat} {char : Char} (short : text.length ≤ 64)
      (aligned : text.length % 8 = 0) (place : text.toList[index]? = some char)
      (foreign : ¬(char = '0' ∨ char = '1'))
      (first : ∀ earlier ∈ text.toList.take index, earlier = '0' ∨ earlier = '1') :
      Refused text (.foreignAccessCodeChar index char)

/-! ## What is refused -/

theorem ofWord_eq_error_iff (word : UInt64) (length : Nat) (cause : BitError) :
    ofWord word length = .error cause ↔
      (64 < length ∧ cause = .accessCodeTooLong length) ∨
        (length ≤ 64 ∧ length % 8 ≠ 0 ∧ cause = .accessCodeUnaligned length) := by
  unfold ofWord
  by_cases short : length ≤ 64
  · have inside : ¬64 < length := Nat.not_lt.mpr short
    rw [dif_pos short]
    by_cases aligned : length % 8 = 0
    · rw [dif_pos aligned]
      simp [inside, aligned]
    · rw [dif_neg aligned]
      simp [short, inside, aligned, eq_comm]
  · rw [dif_neg short]
    simp [short, Nat.lt_of_not_le short, eq_comm]

theorem le_of_firstForeign {start index : Nat} {digits : List Char} {char : Char}
    (found : firstForeign start digits = some (index, char)) : start ≤ index := by
  induction digits generalizing start with
  | nil => cases found
  | cons digit rest induction =>
      rw [firstForeign] at found
      split at found
      · exact Nat.le_of_succ_le (induction found)
      · exact Nat.le_of_eq (congrArg Prod.fst (Option.some.inj found))

theorem firstForeign_eq_some_iff (start index : Nat) (digits : List Char) (char : Char) :
    firstForeign start digits = some (start + index, char) ↔
      digits[index]? = some char ∧ ¬(char = '0' ∨ char = '1') ∧
        ∀ earlier ∈ digits.take index, earlier = '0' ∨ earlier = '1' := by
  induction digits generalizing start index with
  | nil => simp [firstForeign]
  | cons digit rest induction =>
      rw [firstForeign]
      by_cases binary : digit = '0' ∨ digit = '1'
      · rw [if_pos binary]
        cases index with
        | zero =>
            constructor
            · intro found
              exact absurd (le_of_firstForeign found) (Nat.not_succ_le_self start)
            · rintro ⟨place, foreign, -⟩
              obtain rfl := Option.some.inj place
              exact absurd binary foreign
        | succ index =>
            rw [show start + (index + 1) = start + 1 + index by omega, induction,
              List.getElem?_cons_succ, List.take_succ_cons, List.forall_mem_cons]
            simp only [binary, true_and]
      · rw [if_neg binary]
        cases index with
        | zero =>
            simp only [Nat.add_zero, List.getElem?_cons_zero, Option.some.injEq, Prod.mk.injEq,
              true_and, List.take_zero, List.not_mem_nil, false_imp_iff, implies_true, and_true]
            exact ⟨fun same => ⟨same, same ▸ binary⟩, And.left⟩
        | succ index =>
            simp [binary]

theorem parse_eq_error_iff (text : String) (cause : BitError) :
    parse text = .error cause ↔ Refused text cause := by
  have sized := ofWord_eq_error_iff (wordOfDigits text.toList) text.toList.length
  have taken := exists_ofWord_iff (wordOfDigits text.toList) text.toList.length
  have foreign := firstForeign_eq_some_iff 0
  unfold parse
  dsimp only
  rw [String.length_toList] at sized taken ⊢
  cases built : ofWord (wordOfDigits text.toList) text.length with
  | error found =>
      rw [built] at sized
      constructor
      · intro same
        rcases (sized cause).mp same with ⟨long, rfl⟩ | ⟨short, broken, rfl⟩
        · exact .tooLong long
        · exact .unaligned short broken
      · intro refused
        refine (sized cause).mpr ?_
        cases refused with
        | tooLong long => exact .inl ⟨long, rfl⟩
        | unaligned short broken => exact .inr ⟨short, broken, rfl⟩
        | foreign short aligned =>
            rcases taken.mpr ⟨short, aligned⟩ with ⟨code, other⟩
            rw [built] at other
            cases other
  | ok code =>
      obtain ⟨short, aligned⟩ := taken.mp ⟨code, built⟩
      constructor
      · intro same
        cases first : firstForeign 0 text.toList with
        | none =>
            rw [first] at same
            cases same
        | some found =>
            rw [first] at same
            obtain rfl := Except.error.inj same
            have place : firstForeign 0 text.toList = some (0 + found.1, found.2) := by
              rw [first, Nat.zero_add]
            obtain ⟨place, foreign, earlier⟩ := (foreign _ _ _).mp place
            exact .foreign short aligned place foreign earlier
      · intro refused
        cases refused with
        | tooLong long => exact absurd short (Nat.not_le.mpr long)
        | unaligned _ broken => exact absurd aligned broken
        | foreign _ _ place other earlier =>
            have first := (foreign _ _ _).mpr ⟨place, other, earlier⟩
            rw [Nat.zero_add] at first
            rw [first]

theorem legible_iff (text : String) :
    Legible text ↔
      (∀ char ∈ text.toList, char = '0' ∨ char = '1') ∧
        text.length ≤ 64 ∧ text.length % 8 = 0 := by
  have sizes : text.length ∈ [0, 8, 16, 24, 32, 40, 48, 56, 64] ↔
      text.length ≤ 64 ∧ text.length % 8 = 0 := by
    simp only [List.mem_cons, List.not_mem_nil, or_false]
    omega
  rw [← sizes]
  exact ⟨fun legible => ⟨legible.digits, legible.length⟩, fun parts => ⟨parts.2, parts.1⟩⟩

theorem exists_parse_iff_legible (text : String) :
    (∃ code, parse text = .ok code) ↔ Legible text := by
  rw [exists_parse_iff, legible_iff]

/-! ## The value -/

theorem word_of_ofWord {word : UInt64} {length : Nat} {code : AccessCode}
    (built : ofWord word length = .ok code) : code.word.toNat = word.toNat % 2 ^ length := by
  unfold ofWord at built
  split at built
  · next length_le =>
    split at built
    · have masked := congrArg AccessCode.word (Except.ok.inj built)
      rw [← masked, UInt64.toNat_and, lowMask_toNat length_le, Nat.and_two_pow_sub_one_eq_mod]
    · cases built
  · cases built

theorem eq_of_word_of_length {first second : AccessCode}
    (word : first.word.toNat = second.word.toNat) (length : first.length = second.length) :
    first = second := by
  cases first
  cases second
  obtain rfl := UInt64.toNat_inj.mp word
  obtain rfl := length
  rfl

theorem ofWord_word (code : AccessCode) : ofWord code.word code.length = .ok code := by
  rcases (exists_ofWord_iff code.word code.length).mpr ⟨code.length_le, code.aligned⟩ with
    ⟨same, built⟩
  rw [built]
  refine congrArg Except.ok (eq_of_word_of_length ?_ (length_of_ofWord built))
  rw [word_of_ofWord built, Nat.mod_eq_of_lt code.word_lt]

theorem eq_of_bits {first second : AccessCode} (same : first.bits = second.bits) :
    first = second := by
  have length := congrArg List.length same
  have word := congrArg valueOfBits same
  rw [length_bits, length_bits] at length
  rw [valueOfBits_bits, valueOfBits_bits] at word
  exact eq_of_word_of_length word length

/-! ## The text -/

def digitOfBit (bit : Bool) : Char :=
  if bit then '1' else '0'

theorem toList_toText (code : AccessCode) : code.toText.toList = code.bits.map digitOfBit :=
  String.toList_ofList

theorem map_digitOfBit_inj {first second : List Bool} :
    first.map digitOfBit = second.map digitOfBit ↔ first = second :=
  List.map_inj_right (by decide)

theorem toText_inj {first second : AccessCode} :
    first.toText = second.toText ↔ first = second := by
  constructor
  · intro same
    have digits := congrArg String.toList same
    rw [toList_toText, toList_toText, map_digitOfBit_inj] at digits
    exact eq_of_bits digits
  · exact congrArg toText

theorem map_digitOfBit_of_digits {digits : List Char}
    (binary : ∀ digit ∈ digits, digit = '0' ∨ digit = '1') :
    (digits.map (· == '1')).map digitOfBit = digits := by
  rw [List.map_map]
  refine (List.map_congr_left ?_).trans (List.map_id digits)
  intro digit member
  rcases binary digit member with rfl | rfl
  · rfl
  · rfl

theorem word_of_parse {text : String} {code : AccessCode} (read : parse text = .ok code) :
    code.word.toNat = valueOfBits (text.toList.map (· == '1')) := by
  have length := length_of_parse read
  have bound := valueOfBits_lt (text.toList.map (· == '1'))
  rw [List.length_map, String.length_toList, ← length] at bound
  have wide := Nat.lt_of_lt_of_le bound (Nat.pow_le_pow_right (by decide) code.length_le)
  unfold parse at read
  dsimp only at read
  split at read
  · cases read
  · next built =>
    split at read
    · cases read
    · obtain rfl := Except.ok.inj read
      rw [word_of_ofWord built, wordOfDigits, UInt64.toNat_ofNat', Nat.mod_eq_of_lt wide,
        String.length_toList, ← length, Nat.mod_eq_of_lt bound]

theorem toText_of_parse {text : String} {code : AccessCode} (read : parse text = .ok code) :
    code.toText = text := by
  have binary := ((exists_parse_iff text).mp ⟨code, read⟩).1
  have spelled := bitsOfValue_valueOfBits (text.toList.map (· == '1'))
  rw [List.length_map, String.length_toList, ← length_of_parse read, ← word_of_parse read]
    at spelled
  apply String.toList_inj.mp
  rw [toList_toText, bits, spelled, map_digitOfBit_of_digits binary]

theorem legible_toText (code : AccessCode) : Legible code.toText := by
  have length : code.toText.length = code.length := by
    rw [← String.length_toList, toList_toText, List.length_map, length_bits]
  rw [legible_iff, length]
  refine ⟨?_, code.length_le, code.aligned⟩
  intro char member
  rw [toList_toText] at member
  rcases List.mem_map.mp member with ⟨bit, -, rfl⟩
  cases bit with
  | false => exact .inl rfl
  | true => exact .inr rfl

theorem parse_eq_ok_iff (text : String) (code : AccessCode) :
    parse text = .ok code ↔ code.toText = text := by
  constructor
  · exact toText_of_parse
  · rintro rfl
    rcases (exists_parse_iff_legible code.toText).mpr code.legible_toText with ⟨other, read⟩
    rw [read, toText_inj.mp (toText_of_parse read)]

end AccessCode

/-! ## The wire -/

def textOfItems (items : List UInt8) : String :=
  String.ofList (items.map fun item => Char.ofNat ('0'.toNat + item.toNat))

theorem textOfItems_bits (code : AccessCode) :
    textOfItems (code.bits.map bitItem) = code.toText := by
  rw [textOfItems, List.map_map]
  refine congrArg String.ofList (List.map_congr_left ?_)
  intro bit _
  cases bit with
  | false => rfl
  | true => rfl

theorem AccessCode.bytes_empty : empty.bytes = [] := by
  decide

theorem Layout.bytes_of_encode {layout : Layout} {packet length : Nat} {bytes : List UInt8}
    (written : layout.encode packet length = .ok bytes) :
    ∃ body, bytes = layout.accessCode.bytes ++ body := by
  cases layout with
  | plain layout =>
      rw [encode, PlainLayout.encode, shortLength] at written
      split at written
      · exact ⟨_, (Except.ok.inj written).symm.trans (List.append_assoc _ _ _)⟩
      · cases written
  | counter layout =>
      rw [encode, CounterLayout.encode, shortLength] at written
      split at written
      · refine ⟨bigEndian 2 length ++ bigEndian 2 length ++ bigEndian 2 layout.symbolBits ++
          bigEndian 2 packet, ?_⟩
        rw [← Except.ok.inj written]
        simp only [accessCode, List.append_assoc]
      · cases written
  | crc | units | carriers =>
      refine ⟨bytes, ?_⟩
      change bytes = AccessCode.empty.bytes ++ bytes
      rw [AccessCode.bytes_empty, List.nil_append]

theorem Encoder.take_unpackBits_of_encode {encoder : Encoder} {length : Nat}
    {metadata : Metadata} {header : EncodedHeader}
    (written : (encoder.encode length metadata).1 = .ok header) :
    (unpackBits header.bytes).take encoder.layout.accessCode.length =
      encoder.layout.accessCode.bits.map bitItem := by
  unfold encode at written
  split at written
  · next bytes encoded =>
    obtain rfl := Except.ok.inj written
    rcases Layout.bytes_of_encode encoded with ⟨body, rfl⟩
    rw [unpackBits_append, AccessCode.unpackBits_bytes]
    refine List.take_left' ?_
    rw [List.length_map, AccessCode.length_bits]
  · cases written

namespace AccessCode

/-- A text is read or refused by its characters alone; a code is its text, its value in as many
bits, and what comes first in every header that is written with it. -/
theorem forms_agree :
    (∀ text, (∃ code, parse text = .ok code) ↔ Legible text) ∧
      (∀ text cause, parse text = .error cause ↔ Refused text cause) ∧
      (∀ text code, parse text = .ok code ↔ code.toText = text) ∧
      (∀ text code, parse text = .ok code →
        code.length = text.length ∧ code.word.toNat < 2 ^ code.length ∧
          code.word.toNat = valueOfBits (text.toList.map (· == '1'))) ∧
      (∀ word length code, ofWord word length = .ok code →
        code.length = length ∧ code.word.toNat < 2 ^ code.length ∧
          code.word.toNat = word.toNat % 2 ^ length) ∧
      (∀ code, ofWord code.word code.length = .ok code) ∧
      (∀ first second : AccessCode, first = second ↔ first.toText = second.toText) ∧
      ∀ code (encoder : Encoder), encoder.layout.accessCode = code →
        ∀ length metadata header, (encoder.encode length metadata).1 = .ok header →
          textOfItems ((unpackBits header.bytes).take code.length) = code.toText := by
  refine ⟨exists_parse_iff_legible, parse_eq_error_iff, parse_eq_ok_iff, ?_, ?_, ofWord_word,
    fun _ _ => toText_inj.symm, ?_⟩
  · intro text code read
    have bound := valueOfBits_lt (text.toList.map (· == '1'))
    rw [List.length_map, String.length_toList, ← length_of_parse read, ← word_of_parse read]
      at bound
    exact ⟨length_of_parse read, bound, word_of_parse read⟩
  · intro word length code built
    have bound := Nat.mod_lt word.toNat (Nat.two_pow_pos length)
    rw [← word_of_ofWord built, ← length_of_ofWord built] at bound
    exact ⟨length_of_ofWord built, bound, word_of_ofWord built⟩
  · rintro _ encoder rfl length metadata header written
    rw [Encoder.take_unpackBits_of_encode written, textOfItems_bits]

/-- One code from its text and from a word with higher bits, a text with a character of two bytes
in it, and a header behind which the packet counter starts again. -/
theorem forms_agree_one_byte :
    let code : AccessCode := {
      word := 0xE5, length := 8
      length_le := by decide, aligned := by decide, word_lt := by decide }
    let encoder : Encoder := {
      layout := .counter {
        code, symbolBits := 3, symbolBits_pos := by decide, symbolBits_le := by decide }
      packet := 65535 }
    (parse "11100101" = .ok code ∧ code.word.toNat = valueOfBits
        [true, true, true, false, false, true, false, true]) ∧
      (ofWord 0xFFE5 8 = .ok code ∧ code.word.toNat = 0xFFE5 % 2 ^ 8) ∧
      parse "1010é010" = .error (.foreignAccessCodeChar 4 'é') ∧
      ∃ header, (encoder.encode 5 .empty).1 = .ok header ∧
        textOfItems ((unpackBits header.bytes).take 8) = "11100101" := by
  intro code encoder
  obtain ⟨-, refused, texts, values, words, -, -, headers⟩ := forms_agree
  have spelled : code.toText = "11100101" := by decide
  have read := (texts "11100101" code).mpr spelled
  have masked : ofWord 0xFFE5 8 = .ok code := rfl
  have front : "1010é010".toList.take 4 = ['1', '0', '1', '0'] := by decide
  have first : ∀ earlier ∈ "1010é010".toList.take 4, earlier = '0' ∨ earlier = '1' := by
    rw [front]
    simp
  have foreign := (refused "1010é010" (.foreignAccessCodeChar 4 'é')).mpr
    (.foreign (by decide) (by decide) (by decide) (by decide) first)
  have wire := headers code encoder rfl 5 .empty _ rfl
  exact ⟨⟨read, (values "11100101" code read).2.2⟩, ⟨masked, (words 0xFFE5 8 code masked).2.2⟩,
    foreign, _, rfl, spelled ▸ wire⟩

end AccessCode

end PacketFraming
