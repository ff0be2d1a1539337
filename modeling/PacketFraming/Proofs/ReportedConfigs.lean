import PacketFraming.Command.Run
import PacketFraming.Proofs.ConfigText
import PacketFraming.Proofs.Scanning
import PacketFraming.Proofs.Selection
import PacketFraming.Proofs.Whitening

/-! The selection in the report on a layout.

What the report says of a layout is text of the grammar. Its member `config` is the selection, which
a command reads back when the member stands in a file. -/

namespace PacketFraming

/-! ## Files of text -/

namespace Command

theorem toList_loop_eq (bytes : ByteArray) (index : Nat) (found : List UInt8) :
    ByteArray.toList.loop bytes index found = found.reverse ++ bytes.data.toList.drop index := by
  fun_induction ByteArray.toList.loop bytes index found with
  | case1 index found inside induction =>
      have held : index < bytes.data.toList.length := inside
      have here : bytes.get! index = bytes.data.toList[index] :=
        getElem!_pos bytes.data index inside
      rw [induction, List.drop_eq_getElem_cons held, List.reverse_cons, List.append_assoc, here]
      rfl
  | case2 index found outside =>
      have beyond : bytes.data.toList.length ≤ index := Nat.not_lt.mp outside
      rw [List.drop_eq_nil_of_le beyond, List.append_nil]

theorem textOfBytes?_bytesOfText (text : String) : textOfBytes? (bytesOfText text) = some text := by
  have same : (⟨(bytesOfText text).toArray⟩ : ByteArray) = text.toUTF8 := by
    rw [bytesOfText, ByteArray.toList, toList_loop_eq]
    rfl
  rw [textOfBytes?, same]
  exact dif_pos text.isValidUTF8

theorem readConfig_eq_ok {surroundings : Surroundings} {path text : String} {config : LayoutConfig}
    (file : surroundings.file path = .ok (bytesOfText text))
    (read : LayoutConfig.parse? text = some config) :
    LayoutOptions.readConfig surroundings path = .ok config := by
  have content : fileText surroundings path = .ok text := by
    rw [fileText, file]
    simp only [bind, Except.bind, textOfBytes?_bytesOfText]
  rw [LayoutOptions.readConfig, content]
  simp only [bind, Except.bind, Except.mapError, read]

end Command

/-! ## Sizes of layouts -/

/-- Every size in a report fits 250 digits. -/
structure Layout.Printable (layout : Layout) : Prop where
  headerBits : layout.headerBits < 10 ^ 250
  headerBytes : layout.headerBytes < 10 ^ 250
  bitsPerItem : layout.bitsPerItem < 10 ^ 250

namespace Layout

theorem printable_of_lt {layout : Layout} (bits : layout.headerBits < 2 ^ 70)
    (bytes : layout.headerBytes < 2 ^ 70) (item : layout.bitsPerItem < 2 ^ 70) :
    layout.Printable where
  headerBits := Nat.lt_trans bits (by decide)
  headerBytes := Nat.lt_trans bytes (by decide)
  bitsPerItem := Nat.lt_trans item (by decide)

theorem printable_plain (layout : PlainLayout) : (plain layout).Printable := by
  have length_le := layout.code.length_le
  apply printable_of_lt
  · change layout.code.length + 32 < 2 ^ 70
    omega
  · change layout.code.length / 8 + 4 < 2 ^ 70
    omega
  · change 1 < 2 ^ 70
    decide

theorem printable_counter (layout : CounterLayout) : (counter layout).Printable := by
  have length_le := layout.code.length_le
  apply printable_of_lt
  · change layout.code.length + 64 < 2 ^ 70
    omega
  · change layout.code.length / 8 + 8 < 2 ^ 70
    omega
  · change 1 < 2 ^ 70
    decide

theorem printable_crc (layout : CrcLayout) : (crc layout).Printable := by
  apply printable_of_lt
  · change 0 + 32 < 2 ^ 70
    decide
  · change 4 < 2 ^ 70
    decide
  · change 1 < 2 ^ 70
    decide

theorem sizes_lt {units : UnitLayout} (few : units.count < 2 ^ 64) :
    0 + units.bodyBits < 2 ^ 70 ∧ units.count < 2 ^ 70 ∧ units.width < 2 ^ 70 := by
  have bits_le : units.bodyBits ≤ (2 ^ 64 - 1) * 8 :=
    Nat.mul_le_mul (Nat.le_pred_of_lt few) units.width_le
  have width_le := units.width_le
  omega

theorem printable_units {layout : UnitLayout} (few : layout.count < 2 ^ 64) :
    (units layout).Printable :=
  printable_of_lt (sizes_lt few).1 (sizes_lt few).2.1 (sizes_lt few).2.2

theorem printable_carriers {layout : CarrierLayout} (few : layout.units.count < 2 ^ 64) :
    (carriers layout).Printable :=
  printable_of_lt (sizes_lt few).1 (sizes_lt few).2.1 (sizes_lt few).2.2

end Layout

theorem UnitLayout.count_of_ofSizes {count width : Nat} {lengthKey counterKey : String}
    {layout : UnitLayout} (built : ofSizes count width lengthKey counterKey = .ok layout) :
    layout.count = count := by
  unfold ofSizes at built
  split at built
  · split at built
    · cases built
      rfl
    · cases built
  · cases built

namespace Command

variable {options : LayoutOptions} {config : LayoutConfig} {layout : Layout}

theorem carriers_of_spelledConfig {carriers : CarriersConfig}
    (spelled : options.spelledConfig = .ok (.carriers carriers)) :
    carriers.table = defaultCarriers ∧ carriers.headerSymbols = 1 := by
  unfold LayoutOptions.spelledConfig at spelled
  dsimp only at spelled
  split at spelled
  · cases spelled
  · split at spelled
    · cases spelled
    · split at spelled <;> cases spelled
    · cases spelled
    · cases spelled
    · cases spelled
      exact ⟨rfl, rfl⟩

theorem printable_of_spelledConfig (spelled : options.spelledConfig = .ok config)
    (built : config.build = .ok layout) : layout.Printable := by
  cases config with
  | plain config =>
      rcases exists_of_bind_eq_ok built with ⟨code, -, ⟨⟩⟩
      exact Layout.printable_plain _
  | counter config =>
      rcases exists_of_bind_eq_ok built with ⟨code, -, further⟩
      rcases exists_of_bind_eq_ok further with ⟨layout, -, ⟨⟩⟩
      exact Layout.printable_counter _
  | crc config =>
      cases built
      exact Layout.printable_crc _
  | units config =>
      rcases exists_of_bind_eq_ok built with ⟨layout, sized, ⟨⟩⟩
      apply Layout.printable_units
      rw [UnitLayout.count_of_ofSizes sized]
      exact config.count.toNat_lt
  | carriers config =>
      rcases CarrierLayout.selected_of_build built with ⟨layout, rfl, selected⟩
      rcases carriers_of_spelledConfig spelled with ⟨table, rows⟩
      apply Layout.printable_carriers
      rw [UnitLayout.count_of_ofSizes selected.units, table, rows]
      decide

/-! ## Reports -/

def LayoutSummary.members (summary : LayoutSummary) : List (String × Json) :=
  [("layout", .string summary.layout.name),
   ("header_nbits", .natural summary.layout.headerBits),
   ("header_nbytes", .natural summary.layout.headerBytes),
   ("bits_per_item", .natural summary.layout.bitsPerItem),
   ("carries_units", .bool summary.layout.carriesUnits),
   ("access_code", .string summary.layout.accessCode.toText),
   ("threshold", .natural summary.threshold),
   ("config", summary.config.toJson)]

theorem LayoutSummary.faithful_toJson {summary : LayoutSummary}
    (printable : summary.layout.Printable) (threshold_lt : summary.threshold < 10 ^ 250) :
    (Json.object summary.members).Faithful := by
  apply Json.faithful_object
  simp only [members, List.forall_mem_cons]
  exact ⟨Json.faithful_string _, Json.faithful_natural printable.headerBits,
    Json.faithful_natural printable.headerBytes, Json.faithful_natural printable.bitsPerItem,
    Json.faithful_bool _, Json.faithful_string _, Json.faithful_natural threshold_lt,
    summary.config.faithful_toJson, nofun⟩

def summaryOf (config : LayoutConfig) (layout : Layout) : LayoutSummary where
  layout := layout
  threshold := config.threshold.toNat
  config := config

theorem runLayout_eq_ok {options : LayoutReportOptions} {surroundings : Surroundings}
    {transceiver : Transceiver} {format : OutputFormat}
    (selected : options.select.layoutConfig surroundings = .ok config)
    (built : Transceiver.ofConfig config = .ok transceiver)
    (json : format = .json ∨ format = .raw) :
    runLayout options format surroundings =
      .ok (.success (bytesOfText
        (line (Json.object (summaryOf config transceiver.layout).members).render))) := by
  have tolerated : transceiver.receiver.correlator.threshold = config.threshold.toNat :=
    (Transceiver.fresh_of_setThreshold
      (Transceiver.setThreshold_of_ofConfig built).2).2.threshold
  rw [runLayout, selected]
  simp only [bind, Except.bind, built, Except.mapError, tolerated]
  rcases json with rfl | rfl <;> rfl

theorem config_of_members (summary : LayoutSummary) :
    (summary.members.filter fun entry => entry.1 == "config") =
      [("config", summary.config.toJson)] := by
  simp [LayoutSummary.members]

theorem written_of_spelledConfig {transceiver : Transceiver}
    (spelled : options.spelledConfig = .ok config)
    (built : Transceiver.ofConfig config = .ok transceiver) :
    let report : Json := .object (summaryOf config transceiver.layout).members
    Json.Written report.render.toList report := by
  have threshold_lt : config.threshold.toNat < 10 ^ 250 :=
    Nat.lt_trans config.threshold.toNat_lt (by decide)
  exact Json.written_render (LayoutSummary.faithful_toJson
    (printable_of_spelledConfig spelled (Transceiver.setThreshold_of_ofConfig built).1)
    threshold_lt)

theorem layoutConfig_of_file {again : LayoutOptions} {elsewhere : Surroundings}
    {file path : String} (written : Json.Written file.toList config.toJson)
    (stored : elsewhere.file path = .ok (bytesOfText file)) (asked : again.config = some path) :
    again.layoutConfig elsewhere = .ok config := by
  have read := LayoutConfig.parse?_of_presents written config.readable_toJson
    config.presents_toJson
  rw [LayoutOptions.layoutConfig, asked]
  exact readConfig_eq_ok stored read

end Command

namespace LayoutConfig

open Command

/-! ## Sample objects -/

/-- A selection with its members out of order, one that is not known and one left out. -/
def mixedMembers : List (String × Json) :=
  [("x", .null), ("threshold", .natural 3), ("layout", .string "default")]

def layoutTwice : List (String × Json) :=
  [("layout", .string "crc"), ("layout", .string "crc")]

def lengthKeyTwice : List (String × Json) :=
  [("len_key", .string "bits"), ("layout", .string "crc"), ("len_key", .string "bits")]

def wideMembers : List (String × Json) :=
  [("layout", .string "default"), ("threshold", .natural (2 ^ 32))]

def cutText : String :=
  "\x7b\"layout\":\"crc\""

def sampleSurroundings : Surroundings where
  standardInput := []
  file _ := .ok (bytesOfText (LayoutConfig.units { width := 4 }).toJson.render)
  terminal := false

theorem presents_mixed : Presents mixedMembers (.plain { threshold := 3 }) := by
  refine ⟨[("threshold", .natural 3)], (List.Sublist.refl _).cons _, ?_, .swap _ _ _⟩
  intro entry member
  rcases List.mem_cons.mp member with rfl | member
  · exact .inr (List.mem_cons_self)
  · exact .inl member

theorem written_mixed : Json.Written (Json.object mixedMembers).render.toList
    (.object mixedMembers) := by
  apply Json.written_render (Json.faithful_object _)
  simp only [mixedMembers, List.forall_mem_cons]
  exact ⟨.null, Json.faithful_natural (by decide), Json.faithful_string _, nofun⟩

theorem written_layoutTwice : Json.Written (Json.object layoutTwice).render.toList
    (.object layoutTwice) := by
  apply Json.written_render (Json.faithful_object _)
  simp only [layoutTwice, List.forall_mem_cons]
  exact ⟨Json.faithful_string _, Json.faithful_string _, nofun⟩

theorem written_lengthKeyTwice : Json.Written (Json.object lengthKeyTwice).render.toList
    (.object lengthKeyTwice) := by
  apply Json.written_render (Json.faithful_object _)
  simp only [lengthKeyTwice, List.forall_mem_cons]
  exact ⟨Json.faithful_string _, Json.faithful_string _, Json.faithful_string _, nofun⟩

theorem written_wide : Json.Written (Json.object wideMembers).render.toList
    (.object wideMembers) := by
  apply Json.written_render (Json.faithful_object _)
  simp only [wideMembers, List.forall_mem_cons]
  exact ⟨Json.faithful_string _, Json.faithful_natural (by decide), nofun⟩

theorem wide_refused : ¬(ParameterKind.natural 32).Takes (.natural (2 ^ 32)) := by
  intro takes
  cases takes with
  | natural small => exact Nat.lt_irrefl _ small

def nested : Nat → Json
  | 0 => .null
  | levels + 1 => .array [nested levels]

theorem faithful_nested (levels : Nat) : (nested levels).Faithful := by
  induction levels with
  | zero => exact .null
  | succ levels induction =>
      exact Json.faithful_array (List.forall_mem_singleton.mpr induction)

theorem readable_nested (levels : Nat) : (nested (levels + 1)).readable levels = false := by
  induction levels with
  | zero => rfl
  | succ levels induction =>
      change ((nested (levels + 1)).readable levels && true) = false
      rw [induction]
      rfl

/-- A member that no layout knows, too deep for the reader. -/
def deepMembers : List (String × Json) :=
  [("layout", .string "crc"), ("x", nested 127)]

/-- A member that no layout knows, a number beyond the largest double. -/
def hugeMembers : List (String × Json) :=
  [("layout", .string "crc"), ("x", .unreadable)]

def hugeText : String :=
  "\x7b\"layout\":\"crc\",\"x\":1e400\x7d"

theorem faithful_deep : (Json.object deepMembers).Faithful := by
  apply Json.faithful_object
  simp only [deepMembers, List.forall_mem_cons]
  exact ⟨Json.faithful_string _, faithful_nested 127, nofun⟩

theorem unreadable_deep : (Json.object deepMembers).readable 127 = false := by
  change ((Json.string "crc").readable 126 && ((nested 127).readable 126 && true)) = false
  rw [readable_nested]
  rfl

theorem written_huge : Json.Written hugeText.toList (.object hugeMembers) := by
  have one : Json.WholeText ['1'] :=
    ⟨⟨List.cons_ne_nil _ _, List.all_eq_true.mp rfl⟩, by decide⟩
  have exponent : Json.Digits ['4', '0', '0'] :=
    ⟨List.cons_ne_nil _ _, List.all_eq_true.mp rfl⟩
  have outside : ¬Json.InRange ['1'] none (some 400) := by
    rw [Json.InRange]
    decide +kernel
  have number : Json.Written ((if false then ['-'] else []) ++ ['1', 'e', '4', '0', '0'])
      .unreadable :=
    .number one .none (.some (.inl rfl) .none exponent) (.beyond outside)
  let layout := Json.MemberText.ofEntry ("layout", .string "crc")
  let unknown : Json.MemberText := {
    Json.MemberText.ofEntry ("x", .unreadable) with valueText := ['1', 'e', '4', '0', '0'] }
  have unknown_named : unknown.Named :=
    ⟨Json.blanks_nil, Json.stringText_escape "x".toList, Json.blanks_nil⟩
  have named : ∀ member ∈ [layout, unknown], member.Named :=
    List.forall_mem_cons.mpr ⟨Json.MemberText.named_ofEntry _,
      List.forall_mem_singleton.mpr unknown_named⟩
  have written : ∀ member ∈ [layout, unknown], Json.Written member.valueText member.value :=
    List.forall_mem_cons.mpr ⟨Json.faithful_string "crc", List.forall_mem_singleton.mpr number⟩
  have same : hugeText.toList =
      '\x7b' :: (Json.joined ([layout, unknown].map Json.MemberText.text) ++ ['\x7d']) := by
    decide +kernel
  rw [same]
  exact .object (List.cons_ne_nil _ _) named written

theorem ungrammatical_cut (json : Json) : ¬Json.Written cutText.toList json := by
  intro written
  have unread : Json.parse? cutText = none :=
    Option.isNone_iff_eq_none.mp (by decide +kernel)
  cases unread.symm.trans (Json.parse?_of_written written)

theorem presents_crc (json : Json) :
    Presents [("layout", .string "crc"), ("x", json)] (.crc {}) := by
  refine ⟨[], List.nil_sublist _, fun entry member => .inr member, ?_⟩
  simp [names, parameters, name]

/-! ## Reading back -/

/-- Selections survive their text. A text of an object that presents a selection is read as the
selection, and so is the member that the report on a layout has for it. An object that cannot be
read, that has a known member twice or with a value that the member does not take is refused, and so
is a text in which no value stands. -/
theorem selections_read_back :
    (∀ config : LayoutConfig, parse? config.toJson.render = some config) ∧
    (∀ (text : String) (members : List (String × Json)) (config : LayoutConfig),
      Json.Written text.toList (.object members) → (Json.object members).readable 127 = true →
        Presents members config → parse? text = some config) ∧
    (∀ (text : String) (members : List (String × Json)),
      Json.Written text.toList (.object members) →
        ((Json.object members).readable 127 = false → parse? text = none) ∧
        (2 ≤ (members.filter fun entry => entry.1 == "layout").length → parse? text = none) ∧
        ∀ config : LayoutConfig, ("layout", .string config.name) ∈ members →
          ∀ parameter ∈ config.parameters,
            (2 ≤ (members.filter fun entry => entry.1 == parameter.1).length →
              parse? text = none) ∧
            ∀ json, (parameter.1, json) ∈ members → ¬parameter.2.Takes json →
              parse? text = none) ∧
    (∀ text : String, (∀ json, ¬Json.Written text.toList json) → parse? text = none) ∧
    (∀ (options : LayoutReportOptions) (surroundings : Surroundings) (format : OutputFormat)
      (config : LayoutConfig) (transceiver : Transceiver),
      options.select.config = none → format = .json ∨ format = .raw →
      options.select.layoutConfig surroundings = .ok config →
      Transceiver.ofConfig config = .ok transceiver →
        ∃ (text : String) (members : List (String × Json)),
          runLayout options format surroundings = .ok (.success (bytesOfText (line text))) ∧
          Json.Written text.toList (.object members) ∧
          (members.filter fun entry => entry.1 == "config") = [("config", config.toJson)] ∧
          ∀ (file : String) (path : String) (again : LayoutOptions) (elsewhere : Surroundings),
            Json.Written file.toList config.toJson →
            elsewhere.file path = .ok (bytesOfText file) → again.config = some path →
              again.layoutConfig elsewhere = .ok config) := by
  refine ⟨fun config => ?_, fun text members config => parse?_of_presents, ?_,
    fun text => parse?_eq_none_of_ungrammatical, ?_⟩
  · exact parse?_of_presents (Json.written_render config.faithful_toJson) config.readable_toJson
      config.presents_toJson
  · intro text members written
    refine ⟨parse?_eq_none_of_unreadable written, parse?_eq_none_of_layouts written, ?_⟩
    exact fun config tag parameter known => parse?_eq_none_of_parameter written tag known
  · intro options surroundings format config transceiver flags json selected built
    have spelled : options.select.spelledConfig = .ok config := by
      rwa [LayoutOptions.layoutConfig, flags] at selected
    exact ⟨_, _, runLayout_eq_ok selected built json, written_of_spelledConfig spelled built,
      config_of_members _, fun file path again elsewhere => layoutConfig_of_file⟩

theorem selections_read_back_samples :
    parse? (LayoutConfig.crc { counterKey := "\"n\"" }).toJson.render =
      some (.crc { counterKey := "\"n\"" }) ∧
    parse? (Json.object mixedMembers).render = some (.plain { threshold := 3 }) ∧
    parse? (Json.object deepMembers).render = none ∧
    parse? (Json.object layoutTwice).render = none ∧
    parse? (Json.object lengthKeyTwice).render = none ∧
    parse? (Json.object wideMembers).render = none ∧
    parse? cutText = none ∧
    LayoutOptions.layoutConfig { config := some "units.json" } sampleSurroundings =
      .ok (.units { width := 4 }) := by
  rcases selections_read_back with ⟨own, presented, refused, ungrammatical, reported⟩
  have built : ∃ transceiver, Transceiver.ofConfig (.units { width := 4 }) = .ok transceiver :=
    ⟨_, rfl⟩
  rcases built with ⟨transceiver, built⟩
  rcases reported { select := { layout := some .units, bps := some 4 } } sampleSurroundings .json _
    _ rfl (.inl rfl) rfl built with ⟨_, _, _, _, _, again⟩
  have nested_refused := (refused _ _ (Json.written_render faithful_deep)).1 unreadable_deep
  have layouts_refused := (refused _ _ written_layoutTwice).2.1 (by decide)
  have keys_refused := ((refused _ _ written_lengthKeyTwice).2.2 (.crc {}) (.tail _ (.head _)) _
    (.head _)).1 (by decide)
  have threshold_refused := ((refused _ _ written_wide).2.2 (.plain {}) (.head _) _
    (.tail _ (.head _))).2 _ (.tail _ (.head _)) wide_refused
  exact ⟨own _, presented _ _ _ written_mixed rfl presents_mixed, nested_refused, layouts_refused,
    keys_refused, threshold_refused, ungrammatical _ ungrammatical_cut,
    again _ "units.json" _ _ (Json.written_render (faithful_toJson _)) rfl rfl⟩

/-- Members that no layout knows are not ignored when they cannot be read: an object that presents a
selection is refused for a value that is nested too deep, and for a number beyond the largest
double. -/
theorem unknown_members_refused :
    (Json.Written (Json.object deepMembers).render.toList (.object deepMembers) ∧
      Presents deepMembers (.crc {}) ∧ parse? (Json.object deepMembers).render = none) ∧
    Json.Written hugeText.toList (.object hugeMembers) ∧ Presents hugeMembers (.crc {}) ∧
      parse? hugeText = none := by
  have deep : Json.Written (Json.object deepMembers).render.toList (.object deepMembers) :=
    Json.written_render faithful_deep
  exact ⟨⟨deep, presents_crc _, parse?_eq_none_of_unreadable deep unreadable_deep⟩, written_huge,
    presents_crc _, parse?_eq_none_of_unreadable written_huge rfl⟩

end LayoutConfig

end PacketFraming
