import PacketFraming.Proofs.ConfigMembers
import PacketFraming.Proofs.JsonAcceptance
import PacketFraming.Proofs.JsonWriting

/-! Layout selections as text.

A selection is read back from its own text, and from every other text of an object that presents
it. -/

namespace PacketFraming

namespace LayoutConfig

/-- What holds of texts, of integers that fit a parameter, of flags and of carrier tables holds of
the members of a selection. -/
theorem forall_members {Holds : Json → Prop} (texts : ∀ content, Holds (.string content))
    (integers : ∀ value : Int, -2 ^ 31 ≤ value → value < 2 ^ 64 → Holds (.integer value))
    (flags : ∀ value, Holds (.bool value))
    (tables : ∀ table : List (List Int32), Holds (.array (table.map fun row =>
      .array (row.map fun carrier => .integer carrier.toInt))))
    (config : LayoutConfig) : ∀ entry ∈ config.members, Holds entry.2 := by
  have word64 (value : UInt64) : Holds (.natural value.toNat) := by
    have bound := value.toNat_lt
    exact integers value.toNat (by omega) (by omega)
  have word32 (value : UInt32) : Holds (.natural value.toNat) := by
    have bound := value.toNat_lt
    exact integers value.toNat (by omega) (by omega)
  have word16 (value : UInt16) : Holds (.natural value.toNat) := by
    have bound := value.toNat_lt
    exact integers value.toNat (by omega) (by omega)
  cases config with
  | plain config =>
      simp only [members, PlainConfig.members, List.forall_mem_cons]
      exact ⟨texts _, word32 _, nofun⟩
  | counter config =>
      simp only [members, CounterConfig.members, List.forall_mem_cons]
      exact ⟨texts _, word32 _, word16 _, nofun⟩
  | crc config =>
      simp only [members, CrcConfig.members, List.forall_mem_cons]
      exact ⟨texts _, texts _, nofun⟩
  | units config =>
      simp only [members, UnitsConfig.members, List.forall_mem_cons]
      exact ⟨word64 _, word32 _, texts _, texts _, nofun⟩
  | carriers config =>
      simp only [members, CarriersConfig.members, List.forall_mem_cons]
      exact ⟨tables _, word64 _, texts _, texts _, texts _, word32 _, word32 _, flags _, nofun⟩

theorem faithful_toJson (config : LayoutConfig) : config.toJson.Faithful := by
  refine Json.faithful_object (List.forall_mem_cons.mpr ⟨Json.faithful_string _, ?_⟩)
  apply forall_members Json.faithful_string
  · intro value low high
    exact Json.faithful_integer (by omega)
  · exact Json.faithful_bool
  · intro table
    refine Json.faithful_array (List.forall_mem_map.mpr fun row _ => ?_)
    refine Json.faithful_array (List.forall_mem_map.mpr fun carrier _ => ?_)
    have low := carrier.le_toInt
    have high := carrier.toInt_lt
    exact Json.faithful_integer (by omega)

theorem readable_toJson (config : LayoutConfig) : config.toJson.readable 127 = true := by
  refine List.all_eq_true.mpr (List.forall_mem_cons.mpr ⟨rfl, ?_⟩)
  apply @forall_members fun json => json.readable 126 = true
  · exact fun _ => rfl
  · exact fun _ _ _ => rfl
  · exact fun _ => rfl
  · intro table
    refine List.all_eq_true.mpr (List.forall_mem_map.mpr fun row _ => ?_)
    exact List.all_eq_true.mpr (List.forall_mem_map.mpr fun _ _ => rfl)

theorem presents_toJson (config : LayoutConfig) :
    Presents (("layout", .string config.name) :: config.members) config := by
  refine ⟨config.members, List.Sublist.refl _, fun entry member => .inl member, ?_⟩
  rw [List.filter_eq_self.mpr]
  rintro entry member
  have known : entry.1 ∈ "layout" :: config.members.map Prod.fst := List.mem_map_of_mem member
  rw [config.names_members] at known
  exact decide_eq_true known

variable {text : String} {members : List (String × Json)}

theorem parse?_eq (written : Json.Written text.toList (.object members)) :
    parse? text =
      if (Json.object members).readable 127 then ofJson? (.object members) else none := by
  rw [parse?, Json.parseReadable?, Json.parse?_of_written written]
  rw [Option.filter_some]
  split <;> rfl

theorem parse?_of_presents {config : LayoutConfig}
    (written : Json.Written text.toList (.object members))
    (readable : (Json.object members).readable 127 = true) (presents : Presents members config) :
    parse? text = some config := by
  rw [parse?_eq written, if_pos readable, ofJson?_of_presents presents]

theorem taken_of_parse? {config : LayoutConfig}
    (written : Json.Written text.toList (.object members)) (read : parse? text = some config) :
    (members.filter fun entry => entry.1 == "layout") = [("layout", .string config.name)] ∧
      TakenAll members config.parameters := by
  rw [parse?_eq written, Option.ite_none_right_eq_some] at read
  exact taken_of_ofJson? read.2

theorem parse?_eq_none_of_unreadable (written : Json.Written text.toList (.object members))
    (unreadable : (Json.object members).readable 127 = false) : parse? text = none := by
  rw [parse?_eq written, unreadable]
  rfl

theorem parse?_eq_none_of_ungrammatical (ungrammatical : ∀ json, ¬Json.Written text.toList json) :
    parse? text = none := by
  have unread : Json.parseReadable? text = none := by
    rw [Option.eq_none_iff_forall_ne_some]
    intro json read
    exact ungrammatical json (Json.parseReadable?_eq_some_iff.mp read).1
  rw [parse?, unread]
  rfl

theorem parse?_eq_none_of_layouts (written : Json.Written text.toList (.object members))
    (twice : 2 ≤ (members.filter fun entry => entry.1 == "layout").length) :
    parse? text = none := by
  rw [Option.eq_none_iff_forall_ne_some]
  intro config read
  rw [(taken_of_parse? written read).1, List.length_singleton] at twice
  omega

theorem taken_of_mem {config result : LayoutConfig}
    (written : Json.Written text.toList (.object members)) (read : parse? text = some result)
    (tag : ("layout", .string config.name) ∈ members) {parameter : String × ParameterKind}
    (known : parameter ∈ config.parameters) :
    Json.Taken members parameter.1 parameter.2.Takes := by
  rcases taken_of_parse? written read with ⟨layout, taken⟩
  have named : ("layout", Json.string config.name) ∈
      members.filter fun entry => entry.1 == "layout" :=
    List.mem_filter.mpr ⟨tag, beq_self_eq_true "layout"⟩
  rw [layout, List.mem_singleton, Prod.mk.injEq, Json.string.injEq] at named
  rw [parameters_eq_of_name named.2] at known
  exact taken parameter known

theorem parse?_eq_none_of_parameter {config : LayoutConfig}
    (written : Json.Written text.toList (.object members))
    (tag : ("layout", .string config.name) ∈ members) {parameter : String × ParameterKind}
    (known : parameter ∈ config.parameters) :
    (2 ≤ (members.filter fun entry => entry.1 == parameter.1).length → parse? text = none) ∧
      ∀ json, (parameter.1, json) ∈ members → ¬parameter.2.Takes json → parse? text = none := by
  constructor
  · intro twice
    rw [Option.eq_none_iff_forall_ne_some]
    intro result read
    have once := (taken_of_mem written read tag known).once
    omega
  · intro json member foreign
    rw [Option.eq_none_iff_forall_ne_some]
    intro result read
    exact foreign ((taken_of_mem written read tag known).takes json member)

end LayoutConfig

end PacketFraming
