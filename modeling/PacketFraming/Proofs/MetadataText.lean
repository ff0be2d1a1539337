import PacketFraming.Metadata.Json
import PacketFraming.Proofs.JsonAcceptance
import PacketFraming.Proofs.JsonFields
import PacketFraming.Proofs.JsonWriting
import PacketFraming.Proofs.MetadataEntries

/-! Metadata as text.

Metadata is read back from its own text. Of all texts, those are read that stand for an object whose
values are integers of 64 bits or lists of bytes; its members are inserted in their order. -/

namespace PacketFraming

/-! ## Values -/

namespace MetaValue

inductive Spelled : Json → MetaValue → Prop
  | int {number : Int} : -2 ^ 63 ≤ number → number < 2 ^ 63 →
      Spelled (.integer number) (.int (Int64.ofInt number))
  | bytes {numbers : List Int} : (∀ number ∈ numbers, 0 ≤ number ∧ number ≤ 255) →
      Spelled (.array (numbers.map .integer))
        (.bytes (numbers.map fun number => UInt8.ofNat number.toNat))

theorem uint8?_eq_some_iff {json : Json} {byte : UInt8} :
    json.uint8? = some byte ↔
      ∃ number, json = .integer number ∧ (0 ≤ number ∧ number ≤ 255) ∧
        UInt8.ofNat number.toNat = byte := by
  rw [Json.uint8?, Option.map_eq_some_iff]
  constructor
  · rintro ⟨number, found, same⟩
    rcases Json.integerWithin?_eq_some_iff.mp found with ⟨rfl, within⟩
    exact ⟨number, rfl, within, same⟩
  · rintro ⟨number, rfl, within, same⟩
    exact ⟨number, Json.integerWithin?_eq_some_iff.mpr ⟨rfl, within⟩, same⟩

theorem bytes_iff {items : List Json} {bytes : List UInt8} :
    List.Forall₂ (fun item byte => item.uint8? = some byte) items bytes ↔
      ∃ numbers : List Int, items = numbers.map .integer ∧
        (∀ number ∈ numbers, 0 ≤ number ∧ number ≤ 255) ∧
        numbers.map (fun number => UInt8.ofNat number.toNat) = bytes := by
  constructor
  · intro each
    induction each with
    | nil => exact ⟨[], rfl, nofun, rfl⟩
    | cons own _ induction =>
        rcases uint8?_eq_some_iff.mp own with ⟨number, rfl, within, rfl⟩
        rcases induction with ⟨numbers, rfl, others, rfl⟩
        exact ⟨number :: numbers, rfl, List.forall_mem_cons.mpr ⟨within, others⟩, rfl⟩
  · rintro ⟨numbers, rfl, within, rfl⟩
    rw [List.forall₂_map_left_iff, List.forall₂_map_right_iff, List.forall₂_same]
    exact fun number member => uint8?_eq_some_iff.mpr ⟨number, rfl, within number member, rfl⟩

theorem ofJson?_eq_some_iff {json : Json} {value : MetaValue} :
    ofJson? json = some value ↔ Spelled json value := by
  constructor
  · intro found
    cases json with
    | integer number =>
        rcases Option.map_eq_some_iff.mp found with ⟨word, fits, rfl⟩
        rcases Option.map_eq_some_iff.mp fits with ⟨_, within, rfl⟩
        rcases Json.integerWithin?_eq_some_iff.mp within with ⟨⟨⟩, low, high⟩
        exact .int low (by omega)
    | array items =>
        rcases Option.map_eq_some_iff.mp found with ⟨bytes, read, rfl⟩
        rcases Json.list?_eq_some_iff.mp read with ⟨_, ⟨⟩, each⟩
        rcases bytes_iff.mp each with ⟨numbers, rfl, within, rfl⟩
        exact .bytes within
    | _ => cases found
  · intro spelled
    cases spelled with
    | @int number low high =>
        have found : (Json.integer number).integerWithin? (-2 ^ 63) (2 ^ 63 - 1) = some number :=
          Json.integerWithin?_eq_some_iff.mpr ⟨rfl, low, by omega⟩
        rw [ofJson?, Json.int64?, found]
        rfl
    | bytes within =>
        rw [ofJson?, Json.list?_eq_some_iff.mpr ⟨_, rfl, bytes_iff.mpr ⟨_, rfl, within, rfl⟩⟩]
        rfl

theorem spelled_toJson (value : MetaValue) : Spelled value.toJson value := by
  cases value with
  | int value =>
      have spelled := Spelled.int value.le_toInt value.toInt_lt
      rwa [Int64.ofInt_toInt] at spelled
  | bytes value =>
      have within : ∀ number ∈ value.map fun byte => (byte.toNat : Int),
          0 ≤ number ∧ number ≤ 255 := by
        refine List.forall_mem_map.mpr fun byte _ => ?_
        have small := byte.toNat_lt
        omega
      have back : (value.map fun byte => (byte.toNat : Int)).map
          (fun number => UInt8.ofNat number.toNat) = value := by
        rw [List.map_map]
        exact (List.map_congr_left fun byte _ => UInt8.ofNat_toNat).trans (List.map_id value)
      have spelled := Spelled.bytes within
      rw [back, List.map_map] at spelled
      exact spelled

theorem faithful_toJson (value : MetaValue) : value.toJson.Faithful := by
  cases value with
  | int value =>
      have low := value.le_toInt
      have high := value.toInt_lt
      exact Json.faithful_integer (by omega)
  | bytes value =>
      refine Json.faithful_array (List.forall_mem_map.mpr fun byte _ => ?_)
      exact Json.faithful_natural (Nat.lt_trans byte.toNat_lt (by decide))

theorem readable_of_spelled {json : Json} {value : MetaValue} (spelled : Spelled json value) :
    json.readable 126 = true := by
  cases spelled with
  | int => rfl
  | bytes => exact List.all_eq_true.mpr (List.forall_mem_map.mpr fun _ _ => rfl)

end MetaValue

namespace Metadata

/-! ## Objects -/

structure Spells (member : String × Json) (entry : String × MetaValue) : Prop where
  key : member.1 = entry.1
  value : MetaValue.Spelled member.2 entry.2

theorem entriesOfJson?_eq_some_iff {members : List (String × Json)}
    {entries : List (String × MetaValue)} :
    entriesOfJson? (.object members) = some entries ↔ List.Forall₂ Spells members entries := by
  have spells : (fun (member : String × Json) (entry : String × MetaValue) =>
      (MetaValue.ofJson? member.2).map (member.1, ·) = some entry) = Spells := by
    funext member entry
    apply propext
    rw [Option.map_eq_some_iff]
    constructor
    · rintro ⟨value, found, rfl⟩
      exact ⟨rfl, MetaValue.ofJson?_eq_some_iff.mp found⟩
    · rintro ⟨same, spelled⟩
      exact ⟨entry.2, MetaValue.ofJson?_eq_some_iff.mpr spelled, Prod.ext same rfl⟩
  rw [entriesOfJson?, Json.mapM_eq_some_iff, spells]

theorem exists_spelled {members : List (String × Json)} {entries : List (String × MetaValue)}
    (spells : List.Forall₂ Spells members entries) :
    ∀ member ∈ members, ∃ value, MetaValue.Spelled member.2 value := by
  induction spells with
  | nil => exact nofun
  | cons own _ induction => exact List.forall_mem_cons.mpr ⟨⟨_, own.value⟩, induction⟩

theorem readable_of_spells {members : List (String × Json)} {entries : List (String × MetaValue)}
    (spells : List.Forall₂ Spells members entries) :
    (Json.object members).readable 127 = true := by
  apply List.all_eq_true.mpr
  induction spells with
  | nil => exact nofun
  | cons own _ induction =>
      exact List.forall_mem_cons.mpr ⟨MetaValue.readable_of_spelled own.value, induction⟩

/-! ## Texts -/

theorem parse?_eq_some_iff {text : String} {metadata : Metadata} :
    parse? text = some metadata ↔
      ∃ members entries, Json.Written text.toList (.object members) ∧
        List.Forall₂ Spells members entries ∧ ofList entries = metadata := by
  constructor
  · intro found
    rcases Option.bind_eq_some_iff.mp found with ⟨json, read, found⟩
    rw [ofJson?_eq, Option.map_eq_some_iff] at found
    rcases found with ⟨entries, found, same⟩
    cases json with
    | object members =>
        exact ⟨members, entries, (Json.parseReadable?_eq_some_iff.mp read).1,
          entriesOfJson?_eq_some_iff.mp found, same⟩
    | _ => cases found
  · rintro ⟨members, entries, written, spells, same⟩
    have read := Json.parseReadable?_eq_some_iff.mpr ⟨written, readable_of_spells spells⟩
    rw [parse?, read, Option.bind_some, ofJson?_eq, entriesOfJson?_eq_some_iff.mpr spells, ← same]
    rfl

theorem faithful_toJson (metadata : Metadata) : metadata.toJson.Faithful :=
  Json.faithful_object (List.forall_mem_map.mpr fun entry _ => entry.2.faithful_toJson)

theorem spells_toJson (metadata : Metadata) :
    List.Forall₂ Spells (metadata.entries.map fun entry => (entry.1, entry.2.toJson))
      metadata.entries := by
  rw [List.forall₂_map_left_iff, List.forall₂_same]
  exact fun entry _ => ⟨rfl, entry.2.spelled_toJson⟩

/-- Metadata survives its text. A text of an object whose values are integers or lists of bytes is
read by inserting its members one after another, so a repeated name keeps its first place and has
its last value; any other value, and any other text, is refused. -/
theorem parse?_of_text :
    (∀ metadata : Metadata, parse? metadata.toJson.render = some metadata) ∧
    (∀ (text : String) (members : List (String × Json)),
      Json.Written text.toList (.object members) →
        (∀ entries, List.Forall₂ Spells members entries →
          parse? text =
            some (entries.foldl (fun metadata entry => metadata.insert entry.1 entry.2) empty)) ∧
        ((∃ member ∈ members, ∀ value, ¬MetaValue.Spelled member.2 value) →
          parse? text = none)) ∧
    (∀ text : String, (∀ members, ¬Json.Written text.toList (.object members)) →
      parse? text = none) := by
  refine ⟨fun metadata => ?_, fun text members written => ⟨fun entries spells => ?_, ?_⟩, ?_⟩
  · exact parse?_eq_some_iff.mpr ⟨_, _, Json.written_render metadata.faithful_toJson,
      metadata.spells_toJson, ofList_toList metadata⟩
  · exact parse?_eq_some_iff.mpr ⟨members, entries, written, spells, rfl⟩
  · rintro ⟨member, inside, unspelled⟩
    rw [Option.eq_none_iff_forall_ne_some]
    intro metadata found
    rcases parse?_eq_some_iff.mp found with ⟨others, entries, spelled, spells, -⟩
    cases Json.written_unique written spelled
    rcases exists_spelled spells member inside with ⟨value, holds⟩
    exact unspelled value holds
  · intro text no_object
    rw [Option.eq_none_iff_forall_ne_some]
    intro metadata found
    rcases parse?_eq_some_iff.mp found with ⟨members, entries, written, -, -⟩
    exact no_object members written

/-- A name with a quote and a line feed occurs twice, first with bytes and then with an integer. -/
def repeatedMembers : List (String × Json) :=
  [("\"\n", .array [.integer 0, .integer 255]), ("a", .integer (-5)), ("\"\n", .integer 7)]

/-- A list that is not one of bytes. -/
def refusedMembers : List (String × Json) :=
  [("a", .integer 7), ("b", .array [.integer 256])]

theorem faithful_repeated : (Json.object repeatedMembers).Faithful := by
  refine Json.faithful_object ?_
  simp only [repeatedMembers, List.forall_mem_cons]
  refine ⟨Json.faithful_array ?_, Json.faithful_integer (by decide),
    Json.faithful_integer (by decide), nofun⟩
  simp only [List.forall_mem_cons]
  exact ⟨Json.faithful_integer (by decide), Json.faithful_integer (by decide), nofun⟩

theorem faithful_refused : (Json.object refusedMembers).Faithful := by
  refine Json.faithful_object ?_
  simp only [refusedMembers, List.forall_mem_cons]
  refine ⟨Json.faithful_integer (by decide), Json.faithful_array ?_, nofun⟩
  simp only [List.forall_mem_cons]
  exact ⟨Json.faithful_integer (by decide), nofun⟩

theorem parse?_of_text_repeated :
    (Json.object repeatedMembers).render =
      "\x7b\"\\\"\\n\":[0,255],\"a\":-5,\"\\\"\\n\":7\x7d" ∧
    Json.Written (Json.object repeatedMembers).render.toList (.object repeatedMembers) ∧
    List.Forall₂ Spells repeatedMembers
      [("\"\n", .bytes [0, 255]), ("a", .int (-5)), ("\"\n", .int 7)] ∧
    parse? (Json.object repeatedMembers).render =
      some (ofList [("\"\n", .int 7), ("a", .int (-5))]) ∧
    Json.Written (Json.object refusedMembers).render.toList (.object refusedMembers) ∧
    parse? (Json.object refusedMembers).render = none ∧
    parse? (Json.array []).render = none := by
  have spells : List.Forall₂ Spells repeatedMembers
      [("\"\n", .bytes [0, 255]), ("a", .int (-5)), ("\"\n", .int 7)] :=
    entriesOfJson?_eq_some_iff.mp rfl
  have unspelled : ∀ value, ¬MetaValue.Spelled (.array [.integer 256]) value := by
    intro value spelled
    cases MetaValue.ofJson?_eq_some_iff.mpr spelled
  have no_object : ∀ members, ¬Json.Written (Json.array []).render.toList (.object members) := by
    intro members written
    have list := Json.written_render (Json.faithful_array (List.forall_mem_nil _))
    cases Json.written_unique list written
  refine ⟨by decide +kernel, Json.written_render faithful_repeated, spells, ?_,
    Json.written_render faithful_refused, ?_, parse?_of_text.2.2 _ no_object⟩
  · rw [(parse?_of_text.2.1 _ _ (Json.written_render faithful_repeated)).1 _ spells]
    rfl
  · exact (parse?_of_text.2.1 _ _ (Json.written_render faithful_refused)).2
      ⟨_, List.mem_cons_of_mem _ List.mem_cons_self, unspelled⟩

end Metadata

end PacketFraming
