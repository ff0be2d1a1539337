import PacketFraming.Proofs.JsonReading

/-! What is read is text of the grammar.

A readable value is read only from a text that stands for it, so the grammar says which texts are
read, and as which values. -/

namespace PacketFraming.Json

theorem exists_blanks (chars : List Char) :
    ∃ blanks, Blanks blanks ∧ chars = blanks ++ skipBlanks chars :=
  ⟨chars.takeWhile isBlank, List.all_eq_true.mp List.all_takeWhile,
    List.takeWhile_append_dropWhile.symm⟩

/-! ## Readable values -/

def IsReadable (json : Json) : Prop :=
  ∃ levels, json.readable levels = true

theorem not_isReadable_unreadable : ¬IsReadable unreadable := by
  rintro ⟨_ | levels, found⟩ <;> cases found

theorem isReadable_of_mem_array {items : List Json} (whole : IsReadable (array items)) :
    ∀ item ∈ items, IsReadable item := by
  rcases whole with ⟨_ | levels, found⟩
  · cases found
  · exact fun item member => ⟨levels, List.all_eq_true.mp found item member⟩

theorem isReadable_of_mem_object {members : List (String × Json)}
    (whole : IsReadable (object members)) : ∀ entry ∈ members, IsReadable entry.2 := by
  rcases whole with ⟨_ | levels, found⟩
  · cases found
  · exact fun entry member => ⟨levels, List.all_eq_true.mp found entry member⟩

theorem eq_map_of_mapM {found : List (Option String × Json)} {entries : List (String × Json)}
    (named : found.mapM (fun (name, value) => name.map (·, value)) = some entries) :
    found = entries.map fun entry => (some entry.1, entry.2) := by
  induction found generalizing entries with
  | nil =>
      cases named
      rfl
  | cons first found induction =>
      rcases first with ⟨name, value⟩
      rw [List.mapM_cons] at named
      rcases Option.bind_eq_some_iff.mp named with ⟨entry, own, named⟩
      rcases Option.bind_eq_some_iff.mp named with ⟨others, further, named⟩
      cases named
      rcases Option.map_eq_some_iff.mp own with ⟨name, rfl, rfl⟩
      rw [List.map_cons, ← induction further]

theorem exists_entries {found : List (Option String × Json)} (whole : IsReadable (objectOf found)) :
    ∃ entries, found = (entries.map fun entry => (some entry.1, entry.2)) ∧
      objectOf found = object entries := by
  unfold objectOf at whole ⊢
  split at whole
  · next entries named => exact ⟨entries, eq_map_of_mapM named, rfl⟩
  · exact absurd whole not_isReadable_unreadable

theorem Written.append_blanks {text blanks : List Char} {json : Json} (written : Written text json)
    (all_blank : Blanks blanks) : Written (text ++ blanks) json :=
  .padded blanks_nil written all_blank

/-! ## One step of reading -/

theorem written_of_quote {fuel : Nat} {chars rest : List Char} {json : Json}
    (found : value? (fuel + 1) ('"' :: chars) = some (json, rest)) (whole : IsReadable json) :
    ∃ text, '"' :: chars = text ++ rest ∧ Written text json := by
  rcases Option.map_eq_some_iff.mp found with ⟨⟨content, left⟩, body, same⟩
  cases content with
  | none =>
      cases same
      exact absurd whole not_isReadable_unreadable
  | some content =>
      cases same
      rcases stringText_of_stringBody? body with ⟨text, rfl, stringText⟩
      refine ⟨_, ?_, .string stringText⟩
      rw [List.cons_append, List.append_assoc]
      rfl

/-- What is read with so much fuel has been written. -/
structure ReadsOnlyWritten (fuel : Nat) : Prop where
  value {chars rest : List Char} {json : Json} :
    value? fuel chars = some (json, rest) → IsReadable json →
      ∃ text, chars = text ++ rest ∧ Written text json
  items {chars rest : List Char} {items : List Json} :
    items? fuel chars = some (items, rest) → (∀ item ∈ items, IsReadable item) →
      ∃ parts : List (List Char × Json), parts ≠ [] ∧ (∀ part ∈ parts, Written part.1 part.2) ∧
        parts.map Prod.snd = items ∧ chars = joined (parts.map Prod.fst) ++ ']' :: rest
  members {chars rest : List Char} {entries : List (String × Json)} :
    members? fuel chars = some (entries.map fun entry => (some entry.1, entry.2), rest) →
    (∀ entry ∈ entries, IsReadable entry.2) →
      ∃ members : List MemberText, members ≠ [] ∧ (∀ member ∈ members, member.Named) ∧
        (∀ member ∈ members, Written member.valueText member.value) ∧
        members.map MemberText.entry = entries ∧
        chars = joined (members.map MemberText.text) ++ '\x7d' :: rest

namespace ReadsOnlyWritten

variable {fuel : Nat} (inner : ReadsOnlyWritten fuel) {chars rest : List Char}
include inner

theorem array_succ {others : List Char} {json : Json}
    (found : value? (fuel + 1) ('[' :: others) = some (json, rest)) (whole : IsReadable json) :
    ∃ text, '[' :: others = text ++ rest ∧ Written text json := by
  rcases exists_blanks others with ⟨blanks, all_blank, parted⟩
  rw [value?_bracket] at found
  split at found
  · next closes =>
    cases found
    refine ⟨_, ?_, .emptyArray all_blank⟩
    rw [parted, closes, List.cons_append, List.append_assoc]
    rfl
  · rw [items?_skipBlanks] at found
    rcases Option.map_eq_some_iff.mp found with ⟨⟨items, left⟩, read, same⟩
    cases same
    rcases inner.items read (isReadable_of_mem_array whole) with
      ⟨parts, not_empty, written, rfl, rfl⟩
    refine ⟨_, ?_, .array not_empty written⟩
    rw [List.cons_append, List.append_assoc]
    rfl

theorem object_succ {others : List Char} {json : Json}
    (found : value? (fuel + 1) ('\x7b' :: others) = some (json, rest)) (whole : IsReadable json) :
    ∃ text, '\x7b' :: others = text ++ rest ∧ Written text json := by
  rcases exists_blanks others with ⟨blanks, all_blank, parted⟩
  rw [value?_brace] at found
  split at found
  · next closes =>
    cases found
    refine ⟨_, ?_, .emptyObject all_blank⟩
    rw [parted, closes, List.cons_append, List.append_assoc]
    rfl
  · rw [members?_skipBlanks] at found
    rcases Option.map_eq_some_iff.mp found with ⟨⟨members, left⟩, read, same⟩
    cases same
    rcases exists_entries whole with ⟨entries, rfl, same⟩
    rw [same] at whole ⊢
    rcases inner.members read (isReadable_of_mem_object whole) with
      ⟨members, not_empty, named, written, rfl, rfl⟩
    refine ⟨_, ?_, .object not_empty named written⟩
    rw [List.cons_append, List.append_assoc]
    rfl

theorem value_succ {json : Json} (found : value? (fuel + 1) chars = some (json, rest))
    (whole : IsReadable json) : ∃ text, chars = text ++ rest ∧ Written text json := by
  have from_first : value? (fuel + 1) (skipBlanks chars) = some (json, rest) := by
    rw [value?_skipBlanks, found]
  have solid : ∃ text, skipBlanks chars = text ++ rest ∧ Written text json := by
    rw [value?] at found
    split at found
    · next equal =>
      cases found
      exact ⟨_, equal, .null⟩
    · next equal =>
      cases found
      exact ⟨_, equal, .boolTrue⟩
    · next equal =>
      cases found
      exact ⟨_, equal, .boolFalse⟩
    · next equal =>
      rw [equal] at from_first ⊢
      exact written_of_quote from_first whole
    · next equal =>
      rw [equal] at from_first ⊢
      exact inner.array_succ from_first whole
    · next equal =>
      rw [equal] at from_first ⊢
      exact inner.object_succ from_first whole
    · next equal =>
      rcases written_of_numberBody? found with ⟨text, rfl, written⟩
      exact ⟨_, equal, written⟩
    · rcases written_of_numberBody? found with ⟨text, split, written⟩
      exact ⟨_, split, written⟩
  rcases solid with ⟨text, behind, written⟩
  rcases exists_blanks chars with ⟨blanks, all_blank, parted⟩
  refine ⟨blanks ++ (text ++ []), ?_, .padded all_blank written blanks_nil⟩
  rw [parted, behind, List.append_nil, List.append_assoc]

theorem items_succ {items : List Json} (found : items? (fuel + 1) chars = some (items, rest))
    (whole : ∀ item ∈ items, IsReadable item) :
    ∃ parts : List (List Char × Json), parts ≠ [] ∧ (∀ part ∈ parts, Written part.1 part.2) ∧
      parts.map Prod.snd = items ∧ chars = joined (parts.map Prod.fst) ++ ']' :: rest := by
  rcases Option.bind_eq_some_iff.mp found with ⟨⟨item, behind⟩, first, found⟩
  rcases exists_blanks behind with ⟨blanks, all_blank, parted⟩
  dsimp only at found
  split at found
  · next others continues =>
    rcases Option.bind_eq_some_iff.mp found with ⟨⟨items, left⟩, read, same⟩
    cases same
    rcases List.forall_mem_cons.mp whole with ⟨own, whole⟩
    rcases inner.value first own with ⟨text, rfl, written⟩
    rcases inner.items read whole with ⟨parts, not_empty, others_written, rfl, rfl⟩
    have more : parts.map Prod.fst ≠ [] := mt List.map_eq_nil_iff.mp not_empty
    refine ⟨(text ++ blanks, item) :: parts, List.cons_ne_nil _ _,
      List.forall_mem_cons.mpr ⟨written.append_blanks all_blank, others_written⟩, rfl, ?_⟩
    rw [List.map_cons, joined_cons more, parted, continues]
    simp only [List.append_assoc, List.cons_append]
  · next closes =>
    cases found
    rcases inner.value first (whole item List.mem_cons_self) with ⟨text, rfl, written⟩
    refine ⟨[(text ++ blanks, item)], List.cons_ne_nil _ _,
      List.forall_mem_cons.mpr ⟨written.append_blanks all_blank, fun _ member => nomatch member⟩,
      rfl, ?_⟩
    rw [parted, closes]
    simp only [List.map_cons, List.map_nil, joined, List.append_assoc]
  · cases found

theorem exists_memberText {behindQuote behindName behindColon behindValue : List Char}
    {name : String} {value : Json} (quote : skipBlanks chars = '"' :: behindQuote)
    (body : stringBody? behindQuote = some (some name, behindName))
    (colon : skipBlanks behindName = ':' :: behindColon)
    (read : value? fuel behindColon = some (value, behindValue)) (whole : IsReadable value) :
    ∃ member : MemberText, member.Named ∧ Written member.valueText member.value ∧
      member.entry = (name, value) ∧ chars = member.text ++ skipBlanks behindValue := by
  rcases exists_blanks chars with ⟨before, blanks_before, start⟩
  rcases exists_blanks behindName with ⟨between, blanks_between, middle⟩
  rcases exists_blanks behindValue with ⟨after, blanks_after, finish⟩
  rcases stringText_of_stringBody? body with ⟨nameText, rfl, name_text⟩
  rcases inner.value read whole with ⟨text, rfl, written⟩
  let member : MemberText := {
    name, value, nameText, before, between
    valueText := text ++ after }
  refine ⟨member, ⟨blanks_before, name_text, blanks_between⟩, written.append_blanks blanks_after,
    rfl, ?_⟩
  rw [text_append, List.append_assoc, ← finish, ← colon, ← middle, ← quote, ← start]

theorem members_succ {entries : List (String × Json)}
    (found : members? (fuel + 1) chars =
      some (entries.map fun entry => (some entry.1, entry.2), rest))
    (whole : ∀ entry ∈ entries, IsReadable entry.2) :
    ∃ members : List MemberText, members ≠ [] ∧ (∀ member ∈ members, member.Named) ∧
      (∀ member ∈ members, Written member.valueText member.value) ∧
      members.map MemberText.entry = entries ∧
      chars = joined (members.map MemberText.text) ++ '\x7d' :: rest := by
  rw [members?] at found
  split at found
  · next behindQuote quote =>
    rcases Option.bind_eq_some_iff.mp found with ⟨⟨name, behindName⟩, body, found⟩
    dsimp only at found
    split at found
    · next behindColon colon =>
      rcases Option.bind_eq_some_iff.mp found with ⟨⟨value, behindValue⟩, first, found⟩
      dsimp only at found
      cases entries with
      | nil =>
          split at found
          · rcases Option.bind_eq_some_iff.mp found with ⟨_, _, same⟩
            cases same
          · cases found
          · cases found
      | cons entry entries =>
          rcases List.forall_mem_cons.mp whole with ⟨own, whole⟩
          split at found
          · next others continues =>
            rcases Option.bind_eq_some_iff.mp found with ⟨⟨further, left⟩, read, same⟩
            cases same
            rcases inner.exists_memberText quote body colon first own with
              ⟨member, own_name, own_written, same, rfl⟩
            rcases inner.members read whole with ⟨members, not_empty, named, written, rfl, rfl⟩
            have more : members.map MemberText.text ≠ [] := mt List.map_eq_nil_iff.mp not_empty
            refine ⟨member :: members, List.cons_ne_nil _ _,
              List.forall_mem_cons.mpr ⟨own_name, named⟩,
              List.forall_mem_cons.mpr ⟨own_written, written⟩, congrArg (· :: _) same, ?_⟩
            rw [List.map_cons, joined_cons more, continues, List.append_assoc, List.cons_append]
          · next closes =>
            cases entries with
            | cons second entries => cases found
            | nil =>
                cases found
                rcases inner.exists_memberText quote body colon first own with
                  ⟨member, own_name, own_written, same, rfl⟩
                refine ⟨[member], List.cons_ne_nil _ _,
                  List.forall_mem_cons.mpr ⟨own_name, fun _ member => nomatch member⟩,
                  List.forall_mem_cons.mpr ⟨own_written, fun _ member => nomatch member⟩,
                  congrArg (· :: []) same, ?_⟩
                rw [closes]
                rfl
          · cases found
    · cases found
  · cases found

end ReadsOnlyWritten

/-! ## Whole texts -/

theorem readsOnlyWritten (fuel : Nat) : ReadsOnlyWritten fuel := by
  induction fuel with
  | zero =>
      exact {
        value := fun found _ => nomatch found
        items := fun found _ => nomatch found
        members := fun found _ => nomatch found }
  | succ fuel inner =>
      exact {
        value := inner.value_succ
        items := inner.items_succ
        members := inner.members_succ }

theorem written_of_parse? {text : String} {json : Json} (found : parse? text = some json)
    (whole : IsReadable json) : Written text.toList json := by
  rw [parse?] at found
  split at found
  · next value rest read =>
    split at found
    · next nothing =>
      cases found
      rcases (readsOnlyWritten _).value read whole with ⟨written, split, holds⟩
      rcases exists_blanks rest with ⟨blanks, all_blank, parted⟩
      rw [List.isEmpty_iff.mp nothing, List.append_nil] at parted
      rw [split, parted]
      exact holds.append_blanks all_blank
    · cases found
  · cases found

/-- The grammar says what is read, and as which value. -/
theorem parseReadable?_eq_some_iff {text : String} {json : Json} :
    parseReadable? text = some json ↔ Written text.toList json ∧ json.readable 127 = true := by
  rw [parseReadable?, Option.filter_eq_some_iff]
  constructor
  · rintro ⟨found, whole⟩
    exact ⟨written_of_parse? found ⟨_, whole⟩, whole⟩
  · rintro ⟨written, whole⟩
    exact ⟨parse?_of_written written, whole⟩

end PacketFraming.Json
