import PacketFraming.Proofs.JsonNumbers
import PacketFraming.Proofs.JsonStrings

/-! Texts of the grammar are read.

The first character that is not blank decides what is read. So a text is read as the value that it
stands for, and what follows the text does not matter. -/

namespace PacketFraming.Json

/-! ## Blanks -/

theorem skipBlanks_append {blanks : List Char} (all_blank : Blanks blanks) (rest : List Char) :
    skipBlanks (blanks ++ rest) = skipBlanks rest :=
  List.dropWhile_append_of_pos all_blank

theorem skipBlanks_cons {char : Char} (rest : List Char) (solid : isBlank char = false) :
    skipBlanks (char :: rest) = char :: rest :=
  List.dropWhile_cons_of_neg (by simp [solid])

theorem skipBlanks_skipBlanks (chars : List Char) :
    skipBlanks (skipBlanks chars) = skipBlanks chars := by
  induction chars with
  | nil => rfl
  | cons char rest induction =>
      by_cases blank : isBlank char = true
      · have skipped : skipBlanks (char :: rest) = skipBlanks rest :=
          List.dropWhile_cons_of_pos blank
        rw [skipped, induction]
      · rw [Bool.not_eq_true] at blank
        rw [skipBlanks_cons rest blank, skipBlanks_cons rest blank]

theorem value?_skipBlanks (fuel : Nat) (chars : List Char) :
    value? fuel (skipBlanks chars) = value? fuel chars := by
  cases fuel with
  | zero => rfl
  | succ fuel => rw [value?, value?, skipBlanks_skipBlanks]

theorem items?_skipBlanks (fuel : Nat) (chars : List Char) :
    items? fuel (skipBlanks chars) = items? fuel chars := by
  cases fuel with
  | zero => rfl
  | succ fuel => rw [items?, items?, value?_skipBlanks]

theorem members?_skipBlanks (fuel : Nat) (chars : List Char) :
    members? fuel (skipBlanks chars) = members? fuel chars := by
  cases fuel with
  | zero => rfl
  | succ fuel => rw [members?, members?, skipBlanks_skipBlanks]

/-! ## The first character decides -/

theorem not_blank_of_isDigit {char : Char} (digit : char.isDigit = true) :
    isBlank char = false := by
  rw [Bool.eq_false_iff]
  intro blank
  simp only [isBlank, Bool.or_eq_true, beq_iff_eq] at blank
  rcases blank with ((rfl | rfl) | rfl) | rfl <;> cases digit

theorem value?_digit (fuel : Nat) {first : Char} (rest : List Char)
    (digit : first.isDigit = true) :
    value? (fuel + 1) (first :: rest) = numberBody? false (first :: rest) := by
  rw [value?, skipBlanks_cons rest (not_blank_of_isDigit digit)]
  split
  · next equal => cases equal; cases digit
  · next equal => cases equal; cases digit
  · next equal => cases equal; cases digit
  · next equal => cases equal; cases digit
  · next equal => cases equal; cases digit
  · next equal => cases equal; cases digit
  · next equal => cases equal; cases digit
  · rfl

theorem value?_quote (fuel : Nat) {chars rest : List Char} {content : String}
    (found : stringBody? chars = some (some content, rest)) :
    value? (fuel + 1) ('"' :: chars) = some (string content, rest) := by
  change (stringBody? chars).map _ = _
  rw [found]
  rfl

theorem items?_closing (fuel : Nat) (rest : List Char) : items? fuel (']' :: rest) = none := by
  cases fuel with
  | zero => rfl
  | succ fuel =>
      cases fuel with
      | zero => rfl
      | succ fuel => rfl

theorem members?_closing (fuel : Nat) (rest : List Char) :
    members? fuel ('\x7d' :: rest) = none := by
  cases fuel <;> rfl

theorem value?_bracket (fuel : Nat) (chars : List Char) :
    value? (fuel + 1) ('[' :: chars) =
      match skipBlanks chars with
      | ']' :: rest => some (array [], rest)
      | rest => (items? fuel rest).map fun (items, rest) => (array items, rest) := rfl

theorem value?_brace (fuel : Nat) (chars : List Char) :
    value? (fuel + 1) ('\x7b' :: chars) =
      match skipBlanks chars with
      | '\x7d' :: rest => some (object [], rest)
      | rest => (members? fuel rest).map fun (members, rest) => (objectOf members, rest) := rfl

theorem value?_of_items? {fuel : Nat} {chars rest : List Char} {items : List Json}
    (found : items? fuel chars = some (items, rest)) :
    value? (fuel + 1) ('[' :: chars) = some (array items, rest) := by
  rw [← items?_skipBlanks] at found
  rw [value?_bracket]
  split
  · next others equal =>
    rw [equal, items?_closing] at found
    cases found
  · rw [found]
    rfl

theorem value?_of_members? {fuel : Nat} {chars rest : List Char}
    {members : List (Option String × Json)} (found : members? fuel chars = some (members, rest)) :
    value? (fuel + 1) ('\x7b' :: chars) = some (objectOf members, rest) := by
  rw [← members?_skipBlanks] at found
  rw [value?_brace]
  split
  · next others equal =>
    rw [equal, members?_closing] at found
    cases found
  · rw [found]
    rfl

theorem items?_last {fuel : Nat} {chars behind rest : List Char} {item : Json}
    (found : value? fuel chars = some (item, behind)) (closes : skipBlanks behind = ']' :: rest) :
    items? (fuel + 1) chars = some ([item], rest) := by
  rw [items?, found, Option.bind_eq_bind, Option.bind_some]
  simp only [closes]

theorem items?_more {fuel : Nat} {chars behind others rest : List Char} {item : Json}
    {items : List Json} (found : value? fuel chars = some (item, behind))
    (continues : skipBlanks behind = ',' :: others)
    (further : items? fuel others = some (items, rest)) :
    items? (fuel + 1) chars = some (item :: items, rest) := by
  rw [items?, found, Option.bind_eq_bind, Option.bind_some]
  simp only [continues, further, Option.bind_eq_bind, Option.bind_some]

section Members

variable {fuel : Nat} {member : MemberText} {chars behind others rest : List Char}

theorem text_append (member : MemberText) (rest : List Char) :
    member.text ++ rest =
      member.before ++ '"' ::
        (member.nameText ++ '"' :: (member.between ++ ':' :: (member.valueText ++ rest))) := by
  simp only [MemberText.text, List.append_assoc, List.cons_append]

theorem members?_last (named : member.Named)
    (found : value? fuel (member.valueText ++ chars) = some (member.value, behind))
    (closes : skipBlanks behind = '\x7d' :: rest) :
    members? (fuel + 1) (member.text ++ chars) =
      some ([(some member.name, member.value)], rest) := by
  have colon : skipBlanks (':' :: (member.valueText ++ chars)) = _ := skipBlanks_cons _ rfl
  rw [text_append, members?, skipBlanks_append named.blanks_before, skipBlanks_cons _ rfl]
  simp only [stringBody?_of_stringText named.name_text, skipBlanks_append named.blanks_between,
    colon, found, closes, Option.bind_eq_bind, Option.bind_some]

theorem members?_more {members : List (Option String × Json)} (named : member.Named)
    (found : value? fuel (member.valueText ++ chars) = some (member.value, behind))
    (continues : skipBlanks behind = ',' :: others)
    (further : members? fuel others = some (members, rest)) :
    members? (fuel + 1) (member.text ++ chars) =
      some ((some member.name, member.value) :: members, rest) := by
  have colon : skipBlanks (':' :: (member.valueText ++ chars)) = _ := skipBlanks_cons _ rfl
  rw [text_append, members?, skipBlanks_append named.blanks_before, skipBlanks_cons _ rfl]
  simp only [stringBody?_of_stringText named.name_text, skipBlanks_append named.blanks_between,
    colon, found, continues, further, Option.bind_eq_bind, Option.bind_some]

end Members

/-! ## Texts of the grammar are read -/

theorem joined_cons {text : List Char} {texts : List (List Char)} (not_empty : texts ≠ []) :
    joined (text :: texts) = text ++ ',' :: joined texts := by
  cases texts with
  | nil => exact absurd rfl not_empty
  | cons => rfl

/-- A text is read as a value whatever follows it that is no part of a number, and nothing but
blanks of what follows is read with it. -/
def Reads (text : List Char) (json : Json) : Prop :=
  ∀ (fuel : Nat) (rest : List Char), text.length < fuel → EndsNumber rest →
    ∃ left, value? fuel (text ++ rest) = some (json, left) ∧ skipBlanks left = skipBlanks rest

theorem endsNumber_cons {char : Char} (rest : List Char) (digit : char.isDigit = false)
    (point : char ≠ '.') (exponent : ¬(char = 'e' ∨ char = 'E')) : EndsNumber (char :: rest) where
  no_digit := by
    rintro _ ⟨⟩
    exact digit
  no_point := by
    rintro ⟨⟩
    exact point rfl
  no_exponent := by
    rintro _ ⟨⟩
    exact exponent

theorem endsNumber_append {blanks rest : List Char} (all_blank : Blanks blanks)
    (ends : EndsNumber rest) : EndsNumber (blanks ++ rest) := by
  cases blanks with
  | nil => exact ends
  | cons char blanks =>
      have blank := all_blank char List.mem_cons_self
      simp only [isBlank, Bool.or_eq_true, beq_iff_eq] at blank
      rcases blank with ((rfl | rfl) | rfl) | rfl
      · exact endsNumber_cons _ (by decide) (by decide) (by decide)
      · exact endsNumber_cons _ (by decide) (by decide) (by decide)
      · exact endsNumber_cons _ (by decide) (by decide) (by decide)
      · exact endsNumber_cons _ (by decide) (by decide) (by decide)

theorem endsNumber_comma (rest : List Char) : EndsNumber (',' :: rest) :=
  endsNumber_cons _ (by decide) (by decide) (by decide)

theorem endsNumber_bracket (rest : List Char) : EndsNumber (']' :: rest) :=
  endsNumber_cons _ (by decide) (by decide) (by decide)

theorem endsNumber_brace (rest : List Char) : EndsNumber ('\x7d' :: rest) :=
  endsNumber_cons _ (by decide) (by decide) (by decide)

theorem items?_of_reads {parts : List (List Char × Json)} (not_empty : parts ≠ [])
    (reads : ∀ part ∈ parts, Reads part.1 part.2) {fuel : Nat} (rest : List Char)
    (enough : (joined (parts.map Prod.fst)).length + 1 < fuel) :
    items? fuel (joined (parts.map Prod.fst) ++ ']' :: rest) =
      some (parts.map Prod.snd, rest) := by
  induction parts generalizing fuel with
  | nil => exact absurd rfl not_empty
  | cons part parts induction =>
      rcases List.forall_mem_cons.mp reads with ⟨first, others⟩
      cases fuel with
      | zero => cases enough
      | succ fuel =>
          by_cases last : parts = []
          · subst last
            rcases first fuel (']' :: rest) (Nat.lt_of_succ_lt_succ enough)
              (endsNumber_bracket rest) with ⟨left, found, closes⟩
            exact items?_last found (closes.trans (skipBlanks_cons rest rfl))
          · have more : parts.map Prod.fst ≠ [] := mt List.map_eq_nil_iff.mp last
            rw [List.map_cons, joined_cons more, List.length_append, List.length_cons] at enough
            rw [List.map_cons, joined_cons more, List.append_assoc, List.cons_append]
            rcases first fuel (',' :: (joined (parts.map Prod.fst) ++ ']' :: rest)) (by omega)
              (endsNumber_comma _) with ⟨left, found, continues⟩
            exact items?_more found (continues.trans (skipBlanks_cons _ rfl))
              (induction last others (by omega))

theorem members?_of_reads {members : List MemberText} (not_empty : members ≠ [])
    (named : ∀ member ∈ members, member.Named)
    (reads : ∀ member ∈ members, Reads member.valueText member.value) {fuel : Nat}
    (rest : List Char) (enough : (joined (members.map MemberText.text)).length + 1 < fuel) :
    members? fuel (joined (members.map MemberText.text) ++ '\x7d' :: rest) =
      some (members.map fun member => (some member.name, member.value), rest) := by
  induction members generalizing fuel with
  | nil => exact absurd rfl not_empty
  | cons member members induction =>
      rcases List.forall_mem_cons.mp named with ⟨own_name, other_names⟩
      rcases List.forall_mem_cons.mp reads with ⟨first, others⟩
      have shorter : member.valueText.length < member.text.length := by
        simp only [MemberText.text, List.length_append, List.length_cons]
        omega
      cases fuel with
      | zero => cases enough
      | succ fuel =>
          by_cases last : members = []
          · subst last
            rcases first fuel ('\x7d' :: rest)
              (Nat.lt_trans shorter (Nat.lt_of_succ_lt_succ enough)) (endsNumber_brace rest) with
              ⟨left, found, closes⟩
            exact members?_last own_name found (closes.trans (skipBlanks_cons rest rfl))
          · have more : members.map MemberText.text ≠ [] := mt List.map_eq_nil_iff.mp last
            rw [List.map_cons, joined_cons more, List.length_append, List.length_cons] at enough
            rw [List.map_cons, joined_cons more, List.append_assoc, List.cons_append]
            rcases first fuel (',' :: (joined (members.map MemberText.text) ++ '\x7d' :: rest))
              (by omega) (endsNumber_comma _) with ⟨left, found, continues⟩
            exact members?_more own_name found (continues.trans (skipBlanks_cons _ rfl))
              (induction last other_names others (by omega))

theorem objectOf_some (members : List (String × Json)) :
    objectOf (members.map fun member => (some member.1, member.2)) = object members := by
  have all : (members.map fun member => (some member.1, member.2)).mapM
      (fun member : Option String × Json => member.1.map (·, member.2)) = some members := by
    induction members with
    | nil => rfl
    | cons member members induction =>
        rw [List.map_cons, List.mapM_cons, induction]
        rfl
  unfold objectOf
  split
  · next found named => rw [Option.some.inj (named.symm.trans all)]
  · next unnamed => cases unnamed.symm.trans all

theorem reads_of_value? {text : List Char} {json : Json}
    (read : ∀ (fuel : Nat) (rest : List Char), text.length ≤ fuel → EndsNumber rest →
      value? (fuel + 1) (text ++ rest) = some (json, rest)) : Reads text json := by
  intro fuel rest enough ends
  cases fuel with
  | zero => cases enough
  | succ fuel => exact ⟨rest, read fuel rest (Nat.le_of_lt_succ enough) ends, rfl⟩

theorem reads_of_written {text : List Char} {json : Json} (written : Written text json) :
    Reads text json := by
  induction written with
  | null => exact reads_of_value? fun _ _ _ _ => rfl
  | boolTrue => exact reads_of_value? fun _ _ _ _ => rfl
  | boolFalse => exact reads_of_value? fun _ _ _ _ => rfl
  | @number negative whole point power fraction exponent _ wholeText fractionText exponentText
      stands =>
      rw [numberStands_iff.mp stands]
      refine reads_of_value? fun fuel rest _ ends => ?_
      have body (negative : Bool) : numberBody? negative (whole ++ (point ++ (power ++ rest))) =
          some (numberValue negative whole fraction exponent, rest) :=
        numberBody?_append wholeText fractionText exponentText ends
      simp only [List.append_assoc]
      cases negative with
      | true => exact body true
      | false =>
          cases whole with
          | nil => exact absurd rfl wholeText.some_digit
          | cons first whole =>
              have digit := wholeText.all_digits first List.mem_cons_self
              exact (value?_digit fuel _ digit).trans (body false)
  | string stringText =>
      refine reads_of_value? fun fuel rest _ _ => ?_
      rw [List.cons_append, List.append_assoc]
      exact value?_quote fuel (stringBody?_of_stringText stringText rest)
  | emptyArray all_blank =>
      refine reads_of_value? fun fuel rest _ _ => ?_
      rw [List.cons_append, List.append_assoc, value?_bracket, skipBlanks_append all_blank,
        List.singleton_append, skipBlanks_cons rest rfl]
      rfl
  | array not_empty _ induction =>
      refine reads_of_value? fun fuel rest enough _ => ?_
      simp only [List.length_cons, List.length_append, List.length_nil] at enough
      rw [List.cons_append, List.append_assoc]
      exact value?_of_items? (items?_of_reads not_empty induction rest (by omega))
  | emptyObject all_blank =>
      refine reads_of_value? fun fuel rest _ _ => ?_
      rw [List.cons_append, List.append_assoc, value?_brace, skipBlanks_append all_blank,
        List.singleton_append, skipBlanks_cons rest rfl]
      rfl
  | @object members not_empty named _ induction =>
      refine reads_of_value? fun fuel rest enough _ => ?_
      simp only [List.length_cons, List.length_append, List.length_nil] at enough
      rw [List.cons_append, List.append_assoc, ← objectOf_some, List.map_map]
      exact value?_of_members? (members?_of_reads not_empty named induction rest (by omega))
  | @padded before text after json blanks_before _ blanks_after induction =>
      intro fuel rest enough ends
      simp only [List.length_append] at enough
      rcases induction fuel (after ++ rest) (by omega) (endsNumber_append blanks_after ends) with
        ⟨left, found, behind⟩
      refine ⟨left, ?_, behind.trans (skipBlanks_append blanks_after rest)⟩
      rw [List.append_assoc, List.append_assoc, ← value?_skipBlanks,
        skipBlanks_append blanks_before, value?_skipBlanks, found]

theorem endsNumber_nil : EndsNumber [] where
  no_digit := by
    rintro _ ⟨⟩
  no_point := by
    rintro ⟨⟩
  no_exponent := by
    rintro _ ⟨⟩

theorem parse?_of_written {text : String} {json : Json} (written : Written text.toList json) :
    parse? text = some json := by
  rcases reads_of_written written (text.length + 1) [] (Nat.lt_succ_self _) endsNumber_nil with
    ⟨left, found, behind⟩
  have nothing : skipBlanks left = [] := behind
  rw [List.append_nil] at found
  rw [parse?, found]
  simp only [nothing, List.isEmpty_nil, if_true]

theorem written_unique {text : List Char} {first second : Json} (one : Written text first)
    (other : Written text second) : first = second := by
  rw [← String.toList_ofList (l := text)] at one other
  exact Option.some.inj ((parse?_of_written one).symm.trans (parse?_of_written other))

end PacketFraming.Json
