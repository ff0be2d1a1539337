import PacketFraming.Json.Writer
import PacketFraming.Proofs.JsonText

/-! What is written is text of the grammar.

A value is written as a text that stands for it, whatever characters its strings have, as long as
its numbers are integers of at most 250 digits. -/

namespace PacketFraming.Json

/-! ## Strings -/

theorem hexValue?_digitChar : ∀ digit < 16, hexValue? (Nat.digitChar digit) = some digit := by
  decide

theorem hexCode?_byteHex {code : Nat} (control : code < 0x20) :
    hexCode? '0' '0' (Nat.digitChar ((UInt8.ofNat code).toNat / 16))
      (Nat.digitChar ((UInt8.ofNat code).toNat % 16)) = some code := by
  have same : (UInt8.ofNat code).toNat = code := by
    rw [UInt8.toNat_ofNat']
    omega
  have zero : hexValue? '0' = some 0 := rfl
  simp only [hexCode?, same, zero, hexValue?_digitChar (code / 16) (by omega),
    hexValue?_digitChar (code % 16) (by omega), Option.bind_eq_bind, Option.bind_some]
  congr 1
  omega

theorem charText_escape (char : Char) : CharText char (escape char) := by
  unfold escape
  split
  · next equal =>
    subst equal
    exact .short rfl
  split
  · next equal =>
    subst equal
    exact .short rfl
  split
  · next equal =>
    subst equal
    exact .short rfl
  split
  · next equal =>
    subst equal
    exact .short rfl
  split
  · next equal =>
    subst equal
    exact .short rfl
  split
  · next equal =>
    subst equal
    exact .short rfl
  split
  · next equal =>
    subst equal
    exact .short rfl
  split
  · next control => exact .code (hexCode?_byteHex control)
  · next no_quote no_escape _ _ _ _ _ printable =>
    exact .plain no_quote no_escape (Nat.not_lt.mp printable)

theorem stringText_escape (chars : List Char) : StringText chars (chars.flatMap escape) := by
  induction chars with
  | nil => exact .nil
  | cons char chars induction => exact .cons (charText_escape char) induction

/-! ## Numbers -/

theorem boundedDigits_lt {value : Nat} (small : value < 2 ^ 64) (kept : Nat) (digits : List Char) :
    (boundedDigits value kept digits).1 < 2 ^ 64 := by
  induction digits generalizing value kept with
  | nil => exact small
  | cons digit digits induction =>
      rw [boundedDigits]
      split
      · next next_small => exact induction next_small (kept + 1)
      · exact small

theorem roundToDouble_le (value : Nat) : roundToDouble value ≤ 2 * value := by
  have quotient_le : value / 2 ^ (value.log2 - 52) * 2 ^ (value.log2 - 52) ≤ value :=
    Nat.div_mul_le_self value _
  rw [roundToDouble]
  split
  · next up =>
    have unit_le : 2 ^ (value.log2 - 52) ≤ value := by
      by_cases zero : value = 0
      · subst zero
        cases up
      · exact Nat.le_trans (Nat.pow_le_pow_right (by decide) (Nat.sub_le _ _))
          (Nat.log2_self_le zero)
    rw [Nat.succ_mul]
    omega
  · omega

theorem isFinite_of_le {value : Nat} {power : Int} (value_lt : value < 2 ^ 64)
    (power_le : power ≤ 250) : isFinite value power = true := by
  have far_below : 2 * 2 ^ 64 * (2 * 10 ^ 250) < 2 ^ 1024 - 2 ^ 970 := by decide +kernel
  have power_of_ten_le : 10 ^ power.toNat ≤ 10 ^ 250 :=
    Nat.pow_le_pow_right (by decide) (by omega)
  have product_le : roundToDouble value * roundToDouble (10 ^ power.toNat) ≤
      2 * 2 ^ 64 * (2 * 10 ^ 250) := by
    apply Nat.mul_le_mul
    · exact Nat.le_trans (roundToDouble_le value) (Nat.mul_le_mul_left 2 (Nat.le_of_lt value_lt))
    · exact Nat.le_trans (roundToDouble_le _) (Nat.mul_le_mul_left 2 power_of_ten_le)
  have inside : power ≤ 308 := by omega
  rw [isFinite, decide_eq_true inside, decide_eq_true (Nat.lt_of_le_of_lt product_le far_below),
    Bool.and_true, Bool.or_true]

/-- With 250 digits a number is far below the largest double, whichever of them are dropped. -/
theorem inRange_of_length_le {whole : List Char} (short : whole.length ≤ 250) :
    InRange whole none none := by
  apply isFinite_of_le
  · exact boundedDigits_lt (boundedDigits_lt (by decide) 0 whole) 0 []
  · change (whole.length : Int) - _ - _ + 0 ≤ 250
    omega

theorem toDigits_head? {value : Nat} (zero : (Nat.toDigits 10 value).head? = some '0') :
    Nat.toDigits 10 value = ['0'] := by
  induction value using Nat.strongRecOn with
  | ind value induction =>
      rw [Nat.toDigits_eq_if (by decide)] at zero ⊢
      split at zero
      · next digit =>
        rw [if_pos digit]
        simpa using zero
      · next more =>
        have further : (Nat.toDigits 10 (value / 10)).head? = some '0' := by
          cases front : Nat.toDigits 10 (value / 10) with
          | nil => exact absurd front Nat.toDigits_ne_nil
          | cons first rest => rwa [front] at zero
        have nothing : value / 10 = 0 := by
          have spelled := Nat.ofDigitChars_ten_toDigits (n := value / 10)
          rw [induction (value / 10) (by omega) further] at spelled
          exact spelled.symm
        omega

theorem wholeText_toDigits (value : Nat) : WholeText (Nat.toDigits 10 value) where
  some_digit := Nat.toDigits_ne_nil
  all_digits _ member := Nat.isDigit_of_mem_toDigits (by decide) (by decide) member
  no_leading_zero := toDigits_head?

theorem written_wholeText (negative : Bool) {whole : List Char} (wholeText : WholeText whole)
    (short : whole.length ≤ 250)
    (no_negative_zero : ¬(negative = true ∧ Nat.ofDigitChars 10 whole 0 = 0)) :
    Written ((if negative then ['-'] else []) ++ whole)
      (integer (signed negative (Nat.ofDigitChars 10 whole 0))) := by
  have written : Written ((if negative then ['-'] else []) ++ (whole ++ ([] ++ []))) _ :=
    .number wholeText .none .none (.integer (inRange_of_length_le short) no_negative_zero)
  rwa [List.append_nil, List.append_nil] at written

theorem written_integerText {value : Int} (small : value.natAbs < 10 ^ 250) :
    Written (integerText value) (integer value) := by
  have spelled := Nat.ofDigitChars_ten_toDigits (n := value.natAbs)
  have whole := wholeText_toDigits value.natAbs
  have short := (Nat.length_toDigits_le_iff (by decide) (by decide)).mpr small
  rw [integerText]
  split
  · next below =>
    have written := written_wholeText true whole short (by omega)
    have same : signed true value.natAbs = value := by
      change -(value.natAbs : Int) = value
      omega
    rwa [spelled, same] at written
  · next above =>
    have written := written_wholeText false whole short (by rintro ⟨⟨⟩, _⟩)
    have same : signed false value.natAbs = value := by
      change (value.natAbs : Int) = value
      omega
    rwa [spelled, same] at written

/-! ## Lists and objects -/

theorem itemsText_eq (items : List Json) : itemsText items = joined (items.map text) := by
  induction items with
  | nil => rfl
  | cons item items induction =>
      cases items with
      | nil => rfl
      | cons second items => exact congrArg (text item ++ ',' :: ·) induction

theorem membersText_eq (members : List (String × Json)) :
    membersText members =
      joined (members.map fun entry => stringText entry.1 ++ ':' :: text entry.2) := by
  induction members with
  | nil => rfl
  | cons entry members induction =>
      cases members with
      | nil => rfl
      | cons second members =>
          exact congrArg (stringText entry.1 ++ ':' :: text entry.2 ++ ',' :: ·) induction

/-- A value that is written as a text that stands for it. -/
def Faithful (json : Json) : Prop :=
  Written json.text json

theorem faithful_string (content : String) : Faithful (string content) :=
  .string (stringText_escape content.toList)

theorem faithful_bool (value : Bool) : Faithful (bool value) := by
  cases value with
  | false => exact .boolFalse
  | true => exact .boolTrue

theorem faithful_integer {value : Int} (small : value.natAbs < 10 ^ 250) :
    Faithful (integer value) := by
  rw [Faithful, text]
  exact written_integerText small

theorem faithful_natural {value : Nat} (small : value < 10 ^ 250) : Faithful (natural value) :=
  faithful_integer small

theorem faithful_array {items : List Json} (each : ∀ item ∈ items, Faithful item) :
    Faithful (array items) := by
  by_cases empty : items = []
  · subst empty
    exact .emptyArray blanks_nil
  · let parts : List (List Char × Json) := items.map fun item => (item.text, item)
    have texts : parts.map Prod.fst = items.map text := List.map_map
    have values : parts.map Prod.snd = items := List.map_map.trans (List.map_id items)
    have written := @Written.array parts (mt List.map_eq_nil_iff.mp empty)
      (List.forall_mem_map.mpr each)
    rwa [texts, values, ← itemsText_eq] at written

def MemberText.ofEntry (entry : String × Json) : MemberText where
  name := entry.1
  value := entry.2
  nameText := entry.1.toList.flatMap escape
  valueText := entry.2.text
  before := []
  between := []

theorem MemberText.named_ofEntry (entry : String × Json) : (ofEntry entry).Named where
  blanks_before := blanks_nil
  name_text := stringText_escape entry.1.toList
  blanks_between := blanks_nil

theorem MemberText.text_ofEntry (entry : String × Json) :
    (ofEntry entry).text = stringText entry.1 ++ ':' :: entry.2.text := by
  simp only [MemberText.text, ofEntry, stringText, List.nil_append, List.cons_append,
    List.append_assoc]

theorem faithful_object {members : List (String × Json)}
    (each : ∀ entry ∈ members, Faithful entry.2) : Faithful (object members) := by
  by_cases empty : members = []
  · subst empty
    exact .emptyObject blanks_nil
  · have texts : (members.map MemberText.ofEntry).map MemberText.text =
        members.map fun entry => stringText entry.1 ++ ':' :: entry.2.text := by
      rw [List.map_map]
      exact List.map_congr_left fun entry _ => MemberText.text_ofEntry entry
    have entries : (members.map MemberText.ofEntry).map MemberText.entry = members :=
      List.map_map.trans (List.map_id members)
    have written := @Written.object (members.map MemberText.ofEntry)
      (mt List.map_eq_nil_iff.mp empty)
      (List.forall_mem_map.mpr fun entry _ => MemberText.named_ofEntry entry)
      (List.forall_mem_map.mpr each)
    rwa [texts, entries, ← membersText_eq] at written

theorem written_render {json : Json} (faithful : json.Faithful) :
    Written json.render.toList json := by
  rw [render, String.toList_ofList]
  exact faithful

end PacketFraming.Json
