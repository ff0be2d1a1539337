import Mathlib.Data.List.Forall2
import PacketFraming.Json.Value

/-! What the readers of fields accept.

A field is read from the members with its name. It may be missing, and then has its default; more
than one are refused, and so is a value that does not fit. -/

namespace PacketFraming.Json

theorem mapM_eq_some_iff {Item Value : Type} {read : Item → Option Value} {items : List Item}
    {values : List Value} :
    items.mapM read = some values ↔
      List.Forall₂ (fun item value => read item = some value) items values := by
  induction items generalizing values with
  | nil =>
      rw [List.forall₂_nil_left_iff, List.mapM_nil]
      exact ⟨fun equal => (Option.some.inj equal).symm, fun equal => congrArg some equal.symm⟩
  | cons item items induction =>
      rw [List.mapM_cons, List.forall₂_cons_left_iff]
      constructor
      · intro all
        rcases Option.bind_eq_some_iff.mp all with ⟨value, own, all⟩
        rcases Option.bind_eq_some_iff.mp all with ⟨others, further, equal⟩
        cases equal
        exact ⟨value, others, own, induction.mp further, rfl⟩
      · rintro ⟨value, others, own, further, rfl⟩
        rw [own, induction.mpr further]
        rfl

theorem integerWithin?_eq_some_iff {low high value : Int} {json : Json} :
    json.integerWithin? low high = some value ↔
      json = integer value ∧ low ≤ value ∧ value ≤ high := by
  cases json with
  | integer number =>
      rw [integerWithin?, Option.ite_none_right_eq_some, Json.integer.injEq, Option.some.injEq]
      constructor
      · rintro ⟨within, rfl⟩
        exact ⟨rfl, within⟩
      · rintro ⟨rfl, within⟩
        exact ⟨within, rfl⟩
  | _ => exact ⟨nofun, nofun⟩

theorem list?_eq_some_iff {Value : Type} {item? : Json → Option Value} {json : Json}
    {values : List Value} :
    json.list? item? = some values ↔
      ∃ items, json = array items ∧
        List.Forall₂ (fun item value => item? item = some value) items values := by
  cases json with
  | array items =>
      rw [list?, mapM_eq_some_iff]
      constructor
      · exact fun each => ⟨items, rfl, each⟩
      · rintro ⟨_, ⟨⟩, each⟩
        exact each
  | _ => exact ⟨nofun, nofun⟩

/-! ## Values as they are written -/

theorem integerWithin?_natural {most value : Nat} (value_le : value ≤ most) :
    (natural value).integerWithin? 0 most = some (value : Int) :=
  integerWithin?_eq_some_iff.mpr ⟨rfl, Int.natCast_nonneg value, Int.ofNat_le.mpr value_le⟩

theorem uint64?_natural (value : UInt64) : (natural value.toNat).uint64? = some value := by
  have within : (natural value.toNat).integerWithin? 0 (2 ^ 64 - 1) = some (value.toNat : Int) :=
    integerWithin?_natural (Nat.le_pred_of_lt value.toNat_lt)
  rw [uint64?, within, Option.map_some, Int.toNat_natCast, UInt64.ofNat_toNat]

theorem uint32?_natural (value : UInt32) : (natural value.toNat).uint32? = some value := by
  have within : (natural value.toNat).integerWithin? 0 (2 ^ 32 - 1) = some (value.toNat : Int) :=
    integerWithin?_natural (Nat.le_pred_of_lt value.toNat_lt)
  rw [uint32?, within, Option.map_some, Int.toNat_natCast, UInt32.ofNat_toNat]

theorem uint16?_natural (value : UInt16) : (natural value.toNat).uint16? = some value := by
  have within : (natural value.toNat).integerWithin? 0 (2 ^ 16 - 1) = some (value.toNat : Int) :=
    integerWithin?_natural (Nat.le_pred_of_lt value.toNat_lt)
  rw [uint16?, within, Option.map_some, Int.toNat_natCast, UInt16.ofNat_toNat]

theorem int32?_integer (value : Int32) : (integer value.toInt).int32? = some value := by
  have within : (integer value.toInt).integerWithin? (-2 ^ 31) (2 ^ 31 - 1) = some value.toInt :=
    integerWithin?_eq_some_iff.mpr ⟨rfl, value.le_toInt, Int.le_sub_one_of_lt value.toInt_lt⟩
  rw [int32?, within, Option.map_some, Int32.ofInt_toInt]

theorem string?_string (text : String) : (string text).string? = some text := rfl

theorem bool?_bool (value : Bool) : (bool value).bool? = some value := rfl

theorem list?_array {Value : Type} {item? : Json → Option Value} {write : Value → Json}
    (reads : ∀ value, item? (write value) = some value) (values : List Value) :
    (array (values.map write)).list? item? = some values := by
  refine list?_eq_some_iff.mpr ⟨_, rfl, ?_⟩
  rw [List.forall₂_map_left_iff, List.forall₂_same]
  exact fun value _ => reads value

/-! ## Fields -/

section Fields

variable {Value : Type} {members : List (String × Json)} {name : String}
  {value? : Json → Option Value} {value default : Value}

/-- A field is among the members with its value, or it is missing and has the value of its
default. -/
def Stated (members : List (String × Json)) (name : String) (json default : Json) : Prop :=
  members.filter (fun entry => entry.1 == name) = [(name, json)] ∨
    members.filter (fun entry => entry.1 == name) = [] ∧ json = default

def StatedAll (members entries defaults : List (String × Json)) : Prop :=
  List.Forall₂ (fun entry fallback => Stated members entry.1 entry.2 fallback.2) entries defaults

theorem statedAll_of_forall {entries defaults : List (String × Json)}
    (names : entries.map Prod.fst = defaults.map Prod.fst)
    (each : ∀ {name json default}, (name, json) ∈ entries → (name, default) ∈ defaults →
      Stated members name json default) : StatedAll members entries defaults := by
  induction entries generalizing defaults with
  | nil =>
      cases defaults with
      | nil => exact .nil
      | cons => cases names
  | cons entry entries induction =>
      cases defaults with
      | nil => cases names
      | cons fallback defaults =>
          rcases List.cons.inj names with ⟨same, names⟩
          refine .cons (each (.head _) (same ▸ .head _)) (induction names ?_)
          exact fun own other => each (.tail _ own) (.tail _ other)

theorem field?_of_stated {write : Value → Json} (reads : ∀ value, value? (write value) = some value)
    (stated : Stated members name (write value) (write default)) :
    field? members name value? default = some value := by
  rcases stated with once | ⟨nowhere, same⟩
  · rw [field?, once]
    exact reads value
  · rw [field?, nowhere, ← reads default, ← same]
    exact reads value

/-- A field is there at most once, and with a value that it takes. -/
structure Taken (members : List (String × Json)) (name : String) (Takes : Json → Prop) : Prop where
  once : (members.filter fun entry => entry.1 == name).length ≤ 1
  takes : ∀ json, (name, json) ∈ members → Takes json

theorem taken_of_field? {Takes : Json → Prop}
    (takes : ∀ {json value}, value? json = some value → Takes json)
    (read : field? members name value? default = some value) : Taken members name Takes := by
  have found (json : Json) (member : (name, json) ∈ members) :
      (name, json) ∈ members.filter fun entry => entry.1 == name :=
    List.mem_filter.mpr ⟨member, beq_self_eq_true name⟩
  unfold field? at read
  split at read
  · next nowhere =>
    rw [nowhere] at found
    refine ⟨by rw [nowhere]; exact Nat.zero_le 1, fun json member => ?_⟩
    cases found json member
  · next entry once =>
    rw [once] at found
    refine ⟨by rw [once]; exact Nat.le_refl 1, fun json member => ?_⟩
    rw [← List.mem_singleton.mp (found json member)] at read
    exact takes read
  · cases read

end Fields

end PacketFraming.Json
