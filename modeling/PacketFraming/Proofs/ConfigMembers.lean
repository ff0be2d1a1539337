import Mathlib.Data.List.Nodup
import Mathlib.Data.List.Perm.Basic
import PacketFraming.Layout.ConfigJson
import PacketFraming.Proofs.JsonFields

/-! Layout selections as members of an object.

A selection is read back from its members in any order, also without those that have their default.
Members of other names do not matter. A member that is there twice, or whose integer does not fit,
makes an object unreadable. -/

namespace PacketFraming

/-! ## Parameters -/

inductive ParameterKind
  | text
  /-- A natural number of so many bits. -/
  | natural (bits : Nat)
  /-- Lists of integers of 32 bits with a sign. -/
  | table
  | flag

inductive ParameterKind.Takes : ParameterKind → Json → Prop
  | text {content : String} : Takes text (.string content)
  | natural {bits value : Nat} : value < 2 ^ bits → Takes (natural bits) (.integer value)
  | table {rows : List (List Int)} :
      (∀ row ∈ rows, ∀ carrier ∈ row, -2 ^ 31 ≤ carrier ∧ carrier < 2 ^ 31) →
        Takes table (.array (rows.map fun row => .array (row.map .integer)))
  | flag {value : Bool} : Takes flag (.bool value)

namespace ParameterKind

variable {json : Json}

theorem takes_of_string? {content : String} (read : json.string? = some content) :
    text.Takes json := by
  cases json with
  | string content => exact .text
  | _ => cases read

theorem takes_of_bool? {value : Bool} (read : json.bool? = some value) : flag.Takes json := by
  cases json with
  | bool value => exact .flag
  | _ => cases read

theorem takes_of_integerWithin? {bits : Nat} {value : Int}
    (read : json.integerWithin? 0 (2 ^ bits - 1) = some value) : (natural bits).Takes json := by
  rcases Json.integerWithin?_eq_some_iff.mp read with ⟨rfl, low, high⟩
  lift value to Nat using low
  have small : value < 2 ^ bits := by
    exact_mod_cast Int.lt_of_le_sub_one high
  exact .natural small

theorem takes_of_uint64? {value : UInt64} (read : json.uint64? = some value) :
    (natural 64).Takes json := by
  rcases Option.map_eq_some_iff.mp read with ⟨_, within, -⟩
  exact takes_of_integerWithin? within

theorem takes_of_uint32? {value : UInt32} (read : json.uint32? = some value) :
    (natural 32).Takes json := by
  rcases Option.map_eq_some_iff.mp read with ⟨_, within, -⟩
  exact takes_of_integerWithin? within

theorem takes_of_uint16? {value : UInt16} (read : json.uint16? = some value) :
    (natural 16).Takes json := by
  rcases Option.map_eq_some_iff.mp read with ⟨_, within, -⟩
  exact takes_of_integerWithin? within

theorem exists_integers {items : List Json} {row : List Int32}
    (read : List.Forall₂ (fun item carrier => item.int32? = some carrier) items row) :
    ∃ carriers : List Int, items = carriers.map .integer ∧
      ∀ carrier ∈ carriers, -2 ^ 31 ≤ carrier ∧ carrier < 2 ^ 31 := by
  induction read with
  | nil => exact ⟨[], rfl, nofun⟩
  | cons own _ induction =>
      rcases Option.map_eq_some_iff.mp own with ⟨carrier, within, -⟩
      rcases Json.integerWithin?_eq_some_iff.mp within with ⟨rfl, low, high⟩
      rcases induction with ⟨carriers, rfl, others⟩
      have small : carrier < 2 ^ 31 := Int.lt_of_le_sub_one high
      exact ⟨carrier :: carriers, rfl, List.forall_mem_cons.mpr ⟨⟨low, small⟩, others⟩⟩

theorem takes_of_list? {rows : List (List Int32)}
    (read : json.list? (Json.list? Json.int32?) = some rows) : table.Takes json := by
  rcases Json.list?_eq_some_iff.mp read with ⟨items, rfl, each⟩
  have spelled : ∃ rows : List (List Int),
      items = rows.map (fun row => .array (row.map .integer)) ∧
      ∀ row ∈ rows, ∀ carrier ∈ row, -2 ^ 31 ≤ carrier ∧ carrier < 2 ^ 31 := by
    clear read
    induction each with
    | nil => exact ⟨[], rfl, nofun⟩
    | cons own _ induction =>
        rcases Json.list?_eq_some_iff.mp own with ⟨items, rfl, integers⟩
        rcases exists_integers integers with ⟨carriers, rfl, within⟩
        rcases induction with ⟨rows, rfl, others⟩
        exact ⟨carriers :: rows, rfl, List.forall_mem_cons.mpr ⟨within, others⟩⟩
  rcases spelled with ⟨rows, rfl, within⟩
  exact .table within

end ParameterKind

namespace LayoutConfig

def parameters : LayoutConfig → List (String × ParameterKind)
  | plain _ => [("access_code", .text), ("threshold", .natural 32)]
  | counter _ => [("access_code", .text), ("threshold", .natural 32), ("bps", .natural 16)]
  | crc _ => [("len_key", .text), ("num_key", .text)]
  | units _ =>
      [("header_len", .natural 64), ("bits_per_symbol", .natural 32), ("len_key", .text),
        ("num_key", .text)]
  | carriers _ =>
      [("occupied_carriers", .table), ("n_syms", .natural 64), ("len_key", .text),
        ("frame_len_key", .text), ("num_key", .text), ("bits_per_header_sym", .natural 32),
        ("bits_per_payload_sym", .natural 32), ("scramble_header", .flag)]

def names (config : LayoutConfig) : List String :=
  "layout" :: config.parameters.map Prod.fst

theorem names_nodup (config : LayoutConfig) : config.names.Nodup := by
  cases config <;> simp [names, parameters]

def defaults : LayoutConfig → LayoutConfig
  | plain _ => plain {}
  | counter _ => counter {}
  | crc _ => crc {}
  | units _ => units {}
  | carriers _ => carriers {}

theorem names_members (config : LayoutConfig) :
    config.members.map Prod.fst = config.parameters.map Prod.fst := by
  cases config <;> rfl

theorem names_defaults (config : LayoutConfig) :
    config.defaults.members.map Prod.fst = config.parameters.map Prod.fst := by
  cases config <;> rfl

/-- An object presents a selection: it has the name of the layout and the parameters, in any order,
but for some that have their default. Members with other names do not matter. -/
def Presents (members : List (String × Json)) (config : LayoutConfig) : Prop :=
  ∃ kept : List (String × Json), kept.Sublist config.members ∧
    (∀ entry ∈ config.members, entry ∈ kept ∨ entry ∈ config.defaults.members) ∧
    (members.filter fun entry => entry.1 ∈ config.names).Perm
      (("layout", .string config.name) :: kept)

/-! ## Finding members -/

section Finding

variable {entries members : List (String × Json)} {name : String} {json other : Json}

theorem json_unique (distinct : (entries.map Prod.fst).Nodup) (first : (name, json) ∈ entries)
    (second : (name, other) ∈ entries) : json = other :=
  congrArg Prod.snd (List.inj_on_of_nodup_map distinct first second rfl)

theorem filter_eq_nil (absent : name ∉ entries.map Prod.fst) :
    (entries.filter fun entry => entry.1 == name) = [] := by
  rw [List.filter_eq_nil_iff]
  intro entry member same
  exact absent (beq_iff_eq.mp same ▸ List.mem_map_of_mem member)

theorem filter_cons_self (json : Json) (entries : List (String × Json)) :
    (((name, json) :: entries).filter fun entry => entry.1 == name) =
      (name, json) :: entries.filter fun entry => entry.1 == name :=
  List.filter_cons_of_pos (beq_self_eq_true name)

theorem filter_cons_of_ne {entry : String × Json} (apart : entry.1 ≠ name)
    (entries : List (String × Json)) :
    ((entry :: entries).filter fun entry => entry.1 == name) =
      entries.filter fun entry => entry.1 == name :=
  List.filter_cons_of_neg (mt beq_iff_eq.mp apart)

theorem filter_of_mem (distinct : (entries.map Prod.fst).Nodup) (member : (name, json) ∈ entries) :
    (entries.filter fun entry => entry.1 == name) = [(name, json)] := by
  induction entries with
  | nil => cases member
  | cons entry entries induction =>
      rcases List.nodup_cons.mp distinct with ⟨once, others⟩
      rcases List.mem_cons.mp member with rfl | later
      · rw [filter_cons_self, filter_eq_nil once]
      · have apart : entry.1 ≠ name := fun same => once (same ▸ List.mem_map_of_mem later)
        rw [filter_cons_of_ne apart, induction others later]

end Finding

section Presented

variable {config : LayoutConfig} {members : List (String × Json)}

theorem filter_known {name : String} (known : name ∈ config.names) :
    ((members.filter fun entry => entry.1 ∈ config.names).filter fun entry => entry.1 == name) =
      members.filter fun entry => entry.1 == name := by
  rw [List.filter_filter]
  apply List.filter_congr
  intro entry _
  by_cases same : entry.1 = name
  · simp [same, known]
  · simp [same]

theorem layout_of_presents (presents : Presents members config) :
    (members.filter fun entry => entry.1 == "layout") = [("layout", .string config.name)] := by
  rcases presents with ⟨kept, part, -, same⟩
  rcases List.nodup_cons.mp config.names_nodup with ⟨no_layout, -⟩
  rw [← config.names_members] at no_layout
  have no_more : "layout" ∉ kept.map Prod.fst :=
    fun member => no_layout ((part.map Prod.fst).subset member)
  have found := same.filter fun entry => entry.1 == "layout"
  rwa [filter_known List.mem_cons_self, filter_cons_self, filter_eq_nil no_more,
    List.perm_singleton] at found

theorem stated_of_presents (presents : Presents members config) {name : String}
    {json default : Json} (own : (name, json) ∈ config.members)
    (fallback : (name, default) ∈ config.defaults.members) :
    Json.Stated members name json default := by
  rcases presents with ⟨kept, part, others, same⟩
  rcases List.nodup_cons.mp config.names_nodup with ⟨no_layout, distinct⟩
  have defaults_distinct := distinct
  rw [← config.names_defaults] at defaults_distinct
  rw [← config.names_members] at no_layout distinct
  have named : name ∈ config.members.map Prod.fst := List.mem_map_of_mem own
  have apart : "layout" ≠ name := fun same => no_layout (same ▸ named)
  have known : name ∈ config.names := List.mem_cons_of_mem _ (config.names_members ▸ named)
  have found := same.filter fun entry => entry.1 == name
  rw [filter_known known, filter_cons_of_ne apart] at found
  by_cases inside : (name, json) ∈ kept
  · left
    rwa [filter_of_mem (distinct.sublist (part.map Prod.fst)) inside, List.perm_singleton] at found
  · right
    have nowhere : name ∉ kept.map Prod.fst := by
      intro kept_name
      rcases List.mem_map.mp kept_name with ⟨⟨_, value⟩, member, rfl⟩
      cases json_unique distinct own (part.subset member)
      exact inside member
    rw [filter_eq_nil nowhere, List.perm_nil] at found
    have left_out := (others _ own).resolve_left inside
    exact ⟨found, json_unique defaults_distinct left_out fallback⟩

theorem statedAll_of_presents (presents : Presents members config) :
    Json.StatedAll members config.members config.defaults.members := by
  have names := config.names_members.trans config.names_defaults.symm
  exact Json.statedAll_of_forall names fun own fallback => stated_of_presents presents own fallback

end Presented

end LayoutConfig

/-! ## Reading the parameters -/

section Parameters

variable {members : List (String × Json)}

theorem PlainConfig.ofJson?_of_stated {config : PlainConfig}
    (stated : Json.StatedAll members config.members ({} : PlainConfig).members) :
    ofJson? (.object members) = some config := by
  rcases List.forall₂_cons.mp stated with ⟨accessCode, stated⟩
  rcases List.forall₂_cons.mp stated with ⟨threshold, -⟩
  have accessCode_read := Json.field?_of_stated Json.string?_string accessCode
  have threshold_read := Json.field?_of_stated Json.uint32?_natural threshold
  simp only [ofJson?, Json.record?, accessCode_read, threshold_read, Option.bind_eq_bind,
    Option.bind_some]

theorem CounterConfig.ofJson?_of_stated {config : CounterConfig}
    (stated : Json.StatedAll members config.members ({} : CounterConfig).members) :
    ofJson? (.object members) = some config := by
  rcases List.forall₂_cons.mp stated with ⟨accessCode, stated⟩
  rcases List.forall₂_cons.mp stated with ⟨threshold, stated⟩
  rcases List.forall₂_cons.mp stated with ⟨symbolBits, -⟩
  have accessCode_read := Json.field?_of_stated Json.string?_string accessCode
  have threshold_read := Json.field?_of_stated Json.uint32?_natural threshold
  have symbolBits_read := Json.field?_of_stated Json.uint16?_natural symbolBits
  simp only [ofJson?, Json.record?, accessCode_read, threshold_read, symbolBits_read,
    Option.bind_eq_bind, Option.bind_some]

theorem CrcConfig.ofJson?_of_stated {config : CrcConfig}
    (stated : Json.StatedAll members config.members ({} : CrcConfig).members) :
    ofJson? (.object members) = some config := by
  rcases List.forall₂_cons.mp stated with ⟨lengthKey, stated⟩
  rcases List.forall₂_cons.mp stated with ⟨counterKey, -⟩
  have lengthKey_read := Json.field?_of_stated Json.string?_string lengthKey
  have counterKey_read := Json.field?_of_stated Json.string?_string counterKey
  simp only [ofJson?, Json.record?, lengthKey_read, counterKey_read, Option.bind_eq_bind,
    Option.bind_some]

theorem UnitsConfig.ofJson?_of_stated {config : UnitsConfig}
    (stated : Json.StatedAll members config.members ({} : UnitsConfig).members) :
    ofJson? (.object members) = some config := by
  rcases List.forall₂_cons.mp stated with ⟨count, stated⟩
  rcases List.forall₂_cons.mp stated with ⟨width, stated⟩
  rcases List.forall₂_cons.mp stated with ⟨lengthKey, stated⟩
  rcases List.forall₂_cons.mp stated with ⟨counterKey, -⟩
  have count_read := Json.field?_of_stated Json.uint64?_natural count
  have width_read := Json.field?_of_stated Json.uint32?_natural width
  have lengthKey_read := Json.field?_of_stated Json.string?_string lengthKey
  have counterKey_read := Json.field?_of_stated Json.string?_string counterKey
  simp only [ofJson?, Json.record?, count_read, width_read, lengthKey_read, counterKey_read,
    Option.bind_eq_bind, Option.bind_some]

theorem CarriersConfig.ofJson?_of_stated {config : CarriersConfig}
    (stated : Json.StatedAll members config.members ({} : CarriersConfig).members) :
    ofJson? (.object members) = some config := by
  rcases List.forall₂_cons.mp stated with ⟨table, stated⟩
  rcases List.forall₂_cons.mp stated with ⟨headerSymbols, stated⟩
  rcases List.forall₂_cons.mp stated with ⟨lengthKey, stated⟩
  rcases List.forall₂_cons.mp stated with ⟨frameLengthKey, stated⟩
  rcases List.forall₂_cons.mp stated with ⟨counterKey, stated⟩
  rcases List.forall₂_cons.mp stated with ⟨width, stated⟩
  rcases List.forall₂_cons.mp stated with ⟨symbolBits, stated⟩
  rcases List.forall₂_cons.mp stated with ⟨scrambled, -⟩
  have table_read :=
    Json.field?_of_stated (Json.list?_array (Json.list?_array Json.int32?_integer)) table
  have headerSymbols_read := Json.field?_of_stated Json.uint64?_natural headerSymbols
  have lengthKey_read := Json.field?_of_stated Json.string?_string lengthKey
  have frameLengthKey_read := Json.field?_of_stated Json.string?_string frameLengthKey
  have counterKey_read := Json.field?_of_stated Json.string?_string counterKey
  have width_read := Json.field?_of_stated Json.uint32?_natural width
  have symbolBits_read := Json.field?_of_stated Json.uint32?_natural symbolBits
  have scrambled_read := Json.field?_of_stated Json.bool?_bool scrambled
  simp only [ofJson?, Json.record?, table_read, headerSymbols_read, lengthKey_read,
    frameLengthKey_read, counterKey_read, width_read, symbolBits_read, scrambled_read,
    Option.bind_eq_bind, Option.bind_some]

def TakenAll (members : List (String × Json)) (parameters : List (String × ParameterKind)) : Prop :=
  ∀ parameter ∈ parameters, Json.Taken members parameter.1 parameter.2.Takes

theorem PlainConfig.taken_of_ofJson? {config : PlainConfig}
    (read : ofJson? (.object members) = some config) :
    TakenAll members (LayoutConfig.parameters (.plain config)) := by
  rcases Option.bind_eq_some_iff.mp read with ⟨_, accessCode, read⟩
  rcases Option.bind_eq_some_iff.mp read with ⟨_, threshold, read⟩
  simp only [TakenAll, LayoutConfig.parameters, List.forall_mem_cons]
  exact ⟨Json.taken_of_field? ParameterKind.takes_of_string? accessCode,
    Json.taken_of_field? ParameterKind.takes_of_uint32? threshold, nofun⟩

theorem CounterConfig.taken_of_ofJson? {config : CounterConfig}
    (read : ofJson? (.object members) = some config) :
    TakenAll members (LayoutConfig.parameters (.counter config)) := by
  rcases Option.bind_eq_some_iff.mp read with ⟨_, accessCode, read⟩
  rcases Option.bind_eq_some_iff.mp read with ⟨_, threshold, read⟩
  rcases Option.bind_eq_some_iff.mp read with ⟨_, symbolBits, read⟩
  simp only [TakenAll, LayoutConfig.parameters, List.forall_mem_cons]
  exact ⟨Json.taken_of_field? ParameterKind.takes_of_string? accessCode,
    Json.taken_of_field? ParameterKind.takes_of_uint32? threshold,
    Json.taken_of_field? ParameterKind.takes_of_uint16? symbolBits, nofun⟩

theorem CrcConfig.taken_of_ofJson? {config : CrcConfig}
    (read : ofJson? (.object members) = some config) :
    TakenAll members (LayoutConfig.parameters (.crc config)) := by
  rcases Option.bind_eq_some_iff.mp read with ⟨_, lengthKey, read⟩
  rcases Option.bind_eq_some_iff.mp read with ⟨_, counterKey, read⟩
  simp only [TakenAll, LayoutConfig.parameters, List.forall_mem_cons]
  exact ⟨Json.taken_of_field? ParameterKind.takes_of_string? lengthKey,
    Json.taken_of_field? ParameterKind.takes_of_string? counterKey, nofun⟩

theorem UnitsConfig.taken_of_ofJson? {config : UnitsConfig}
    (read : ofJson? (.object members) = some config) :
    TakenAll members (LayoutConfig.parameters (.units config)) := by
  rcases Option.bind_eq_some_iff.mp read with ⟨_, count, read⟩
  rcases Option.bind_eq_some_iff.mp read with ⟨_, width, read⟩
  rcases Option.bind_eq_some_iff.mp read with ⟨_, lengthKey, read⟩
  rcases Option.bind_eq_some_iff.mp read with ⟨_, counterKey, read⟩
  simp only [TakenAll, LayoutConfig.parameters, List.forall_mem_cons]
  exact ⟨Json.taken_of_field? ParameterKind.takes_of_uint64? count,
    Json.taken_of_field? ParameterKind.takes_of_uint32? width,
    Json.taken_of_field? ParameterKind.takes_of_string? lengthKey,
    Json.taken_of_field? ParameterKind.takes_of_string? counterKey, nofun⟩

theorem CarriersConfig.taken_of_ofJson? {config : CarriersConfig}
    (read : ofJson? (.object members) = some config) :
    TakenAll members (LayoutConfig.parameters (.carriers config)) := by
  rcases Option.bind_eq_some_iff.mp read with ⟨_, table, read⟩
  rcases Option.bind_eq_some_iff.mp read with ⟨_, headerSymbols, read⟩
  rcases Option.bind_eq_some_iff.mp read with ⟨_, lengthKey, read⟩
  rcases Option.bind_eq_some_iff.mp read with ⟨_, frameLengthKey, read⟩
  rcases Option.bind_eq_some_iff.mp read with ⟨_, counterKey, read⟩
  rcases Option.bind_eq_some_iff.mp read with ⟨_, width, read⟩
  rcases Option.bind_eq_some_iff.mp read with ⟨_, symbolBits, read⟩
  rcases Option.bind_eq_some_iff.mp read with ⟨_, scrambled, read⟩
  simp only [TakenAll, LayoutConfig.parameters, List.forall_mem_cons]
  exact ⟨Json.taken_of_field? ParameterKind.takes_of_list? table,
    Json.taken_of_field? ParameterKind.takes_of_uint64? headerSymbols,
    Json.taken_of_field? ParameterKind.takes_of_string? lengthKey,
    Json.taken_of_field? ParameterKind.takes_of_string? frameLengthKey,
    Json.taken_of_field? ParameterKind.takes_of_string? counterKey,
    Json.taken_of_field? ParameterKind.takes_of_uint32? width,
    Json.taken_of_field? ParameterKind.takes_of_uint32? symbolBits,
    Json.taken_of_field? ParameterKind.takes_of_bool? scrambled, nofun⟩

end Parameters

/-! ## Reading selections -/

namespace LayoutConfig

variable {members : List (String × Json)} {config : LayoutConfig}

theorem ofJson?_of_presents (presents : Presents members config) :
    ofJson? (.object members) = some config := by
  have layout := layout_of_presents presents
  have stated := statedAll_of_presents presents
  have tag : tagged? (.object members) = some (config.name, .object members) := by
    rw [tagged?, layout]
  rw [ofJson?, tag]
  cases config with
  | plain config => exact congrArg (Option.map plain) (PlainConfig.ofJson?_of_stated stated)
  | counter config => exact congrArg (Option.map counter) (CounterConfig.ofJson?_of_stated stated)
  | crc config => exact congrArg (Option.map crc) (CrcConfig.ofJson?_of_stated stated)
  | units config => exact congrArg (Option.map units) (UnitsConfig.ofJson?_of_stated stated)
  | carriers config =>
      exact congrArg (Option.map carriers) (CarriersConfig.ofJson?_of_stated stated)

theorem layout_of_tagged? {name : String} {parameters : Json}
    (tag : tagged? (.object members) = some (name, parameters)) :
    (members.filter fun entry => entry.1 == "layout") = [("layout", .string name)] ∧
      parameters = .object members := by
  unfold tagged? at tag
  dsimp only at tag
  split at tag
  · next key _ once =>
    cases tag
    have found : (key, Json.string name) ∈ members.filter fun entry => entry.1 == "layout" := by
      rw [once]
      exact List.mem_singleton_self _
    have same : key = "layout" := beq_iff_eq.mp (List.mem_filter.mp found).2
    exact ⟨by rw [once, same], rfl⟩
  · cases tag

/-- An object that is read names its layout once, and has each parameter of the layout at most once
and with a value that the parameter takes. -/
theorem taken_of_ofJson? (read : ofJson? (.object members) = some config) :
    (members.filter fun entry => entry.1 == "layout") = [("layout", .string config.name)] ∧
      TakenAll members config.parameters := by
  rcases Option.bind_eq_some_iff.mp read with ⟨⟨name, parameters⟩, tag, read⟩
  rcases layout_of_tagged? tag with ⟨layout, rfl⟩
  dsimp only at read
  split at read
  · rcases Option.map_eq_some_iff.mp read with ⟨config, parameters_read, rfl⟩
    exact ⟨layout, PlainConfig.taken_of_ofJson? parameters_read⟩
  · rcases Option.map_eq_some_iff.mp read with ⟨config, parameters_read, rfl⟩
    exact ⟨layout, CounterConfig.taken_of_ofJson? parameters_read⟩
  · rcases Option.map_eq_some_iff.mp read with ⟨config, parameters_read, rfl⟩
    exact ⟨layout, CrcConfig.taken_of_ofJson? parameters_read⟩
  · rcases Option.map_eq_some_iff.mp read with ⟨config, parameters_read, rfl⟩
    exact ⟨layout, UnitsConfig.taken_of_ofJson? parameters_read⟩
  · rcases Option.map_eq_some_iff.mp read with ⟨config, parameters_read, rfl⟩
    exact ⟨layout, CarriersConfig.taken_of_ofJson? parameters_read⟩
  · cases read

theorem parameters_eq_of_name {first second : LayoutConfig} (same : first.name = second.name) :
    first.parameters = second.parameters := by
  cases first <;> cases second <;> first | rfl | (simp [name] at same)

end LayoutConfig

end PacketFraming
