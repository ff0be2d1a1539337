import PacketFraming.Transceiver.Shared

/-! Which selections a device is built from.

A selection is refused for an access code that is no string of whole bytes, a threshold beyond
the code, a width out of range, and carriers that leave no room for a header or a payload. Every
other one is taken. -/

namespace PacketFraming

namespace AccessCode

theorem firstForeign_eq_none_iff (index : Nat) (digits : List Char) :
    firstForeign index digits = none ↔ ∀ digit ∈ digits, digit = '0' ∨ digit = '1' := by
  induction digits generalizing index with
  | nil => simp [firstForeign]
  | cons digit rest induction =>
      rw [firstForeign, List.forall_mem_cons]
      split
      · next binary =>
        rw [induction]
        exact ⟨fun others => ⟨binary, others⟩, And.right⟩
      · next foreign =>
        constructor
        · nofun
        · intro all
          exact absurd all.1 foreign

theorem length_of_ofWord {word : UInt64} {length : Nat} {code : AccessCode}
    (built : ofWord word length = .ok code) : code.length = length := by
  unfold ofWord at built
  split at built
  · split at built
    · exact congrArg AccessCode.length (Except.ok.inj built).symm
    · cases built
  · cases built

theorem exists_ofWord_iff (word : UInt64) (length : Nat) :
    (∃ code, ofWord word length = .ok code) ↔ length ≤ 64 ∧ length % 8 = 0 := by
  unfold ofWord
  constructor
  · rintro ⟨code, built⟩
    split at built
    · next length_le =>
      split at built
      · next aligned => exact ⟨length_le, aligned⟩
      · cases built
    · cases built
  · rintro ⟨length_le, aligned⟩
    rw [dif_pos length_le, dif_pos aligned]
    exact ⟨_, rfl⟩

theorem exists_parse_iff (text : String) :
    (∃ code, parse text = .ok code) ↔
      (∀ digit ∈ text.toList, digit = '0' ∨ digit = '1') ∧
        text.length ≤ 64 ∧ text.length % 8 = 0 := by
  have sized := exists_ofWord_iff (wordOfDigits text.toList) text.toList.length
  rw [String.length_toList] at sized
  rw [← firstForeign_eq_none_iff 0, ← sized]
  unfold parse
  dsimp only
  rw [String.length_toList]
  cases ofWord (wordOfDigits text.toList) text.length with
  | error cause => simp
  | ok code =>
      cases firstForeign 0 text.toList with
      | none => simp
      | some foreign => simp

theorem length_of_parse {text : String} {code : AccessCode} (read : parse text = .ok code) :
    code.length = text.length := by
  unfold parse at read
  dsimp only at read
  split at read
  · cases read
  · next built =>
    split at read
    · cases read
    · rw [← Except.ok.inj read, length_of_ofWord built, String.length_toList]

end AccessCode

theorem CounterLayout.code_of_ofCode {code : AccessCode} {symbolBits : Nat}
    {layout : CounterLayout} (built : ofCode code symbolBits = .ok layout) :
    layout.code = code := by
  unfold ofCode at built
  split at built
  · exact congrArg CounterLayout.code (Except.ok.inj built).symm
  · cases built

theorem exists_of_bind_eq_ok {Cause Result Final : Type} {first : Except Cause Result}
    {next : Result → Except Cause Final} {final : Final} (arrives : (first >>= next) = .ok final) :
    ∃ result, first = .ok result ∧ next result = .ok final := by
  cases first with
  | error cause => cases arrives
  | ok result => exact ⟨result, rfl, arrives⟩

namespace LayoutConfig

/-- Digits of an access code, and a threshold that is no longer than it. -/
structure CodeSelectable (text : String) (threshold : Nat) : Prop where
  digits : ∀ digit ∈ text.toList, digit = '0' ∨ digit = '1'
  length : text.length ∈ [0, 8, 16, 24, 32, 40, 48, 56, 64]
  threshold_le : threshold ≤ text.length

/-- What a selection has to fulfil. -/
def Selectable : LayoutConfig → Prop
  | plain config => CodeSelectable config.accessCode config.threshold.toNat
  | counter config =>
      CodeSelectable config.accessCode config.threshold.toNat ∧
        1 ≤ config.symbolBits.toNat ∧ config.symbolBits.toNat ≤ 8
  | crc _ => True
  | units config =>
      1 ≤ config.count.toNat ∧ 1 ≤ config.width.toNat ∧ config.width.toNat ≤ 8
  | carriers config =>
      (∃ row ∈ config.table, row ≠ []) ∧
        config.headerSymbols.toNat ≤ config.table.length ∧
        (∃ row ∈ config.table.take config.headerSymbols.toNat, row ≠ []) ∧
        1 ≤ config.width.toNat ∧ config.width.toNat ≤ 8 ∧ 1 ≤ config.symbolBits.toNat

theorem codeSelectable_iff (text : String) (threshold : Nat) :
    CodeSelectable text threshold ↔
      ∃ code, parseCode text = .ok code ∧ threshold ≤ code.length := by
  have parsed (code : AccessCode) :
      parseCode text = .ok code ↔ AccessCode.parse text = .ok code := by
    unfold parseCode
    cases AccessCode.parse text with
    | error cause => exact ⟨nofun, nofun⟩
    | ok built =>
        exact ⟨fun same => congrArg Except.ok (Except.ok.inj same),
          fun same => congrArg Except.ok (Except.ok.inj same)⟩
  have sizes : text.length ∈ [0, 8, 16, 24, 32, 40, 48, 56, 64] ↔
      text.length ≤ 64 ∧ text.length % 8 = 0 := by
    simp only [List.mem_cons, List.not_mem_nil, or_false]
    omega
  simp only [parsed]
  constructor
  · rintro ⟨digits, length, threshold_le⟩
    rcases (AccessCode.exists_parse_iff text).mpr ⟨digits, sizes.mp length⟩ with ⟨code, read⟩
    exact ⟨code, read, (AccessCode.length_of_parse read).symm ▸ threshold_le⟩
  · rintro ⟨code, read, threshold_le⟩
    rcases (AccessCode.exists_parse_iff text).mp ⟨code, read⟩ with ⟨digits, length⟩
    exact {
      digits
      length := sizes.mpr length
      threshold_le := AccessCode.length_of_parse read ▸ threshold_le }

theorem exists_ofCode_iff (code : AccessCode) (symbolBits : Nat) :
    (∃ layout, CounterLayout.ofCode code symbolBits = .ok layout ∧ layout.code = code) ↔
      1 ≤ symbolBits ∧ symbolBits ≤ 8 := by
  unfold CounterLayout.ofCode
  split
  · next inRange => exact ⟨fun _ => inRange, fun _ => ⟨_, rfl, rfl⟩⟩
  · next outside =>
    constructor
    · rintro ⟨layout, built, -⟩
      cases built
    · exact fun inRange => absurd inRange outside

theorem exists_ofSizes_iff (count width : Nat) (lengthKey counterKey : String) :
    (∃ layout, UnitLayout.ofSizes count width lengthKey counterKey = .ok layout) ↔
      1 ≤ count ∧ 1 ≤ width ∧ width ≤ 8 := by
  unfold UnitLayout.ofSizes
  constructor
  · rintro ⟨layout, built⟩
    split at built
    · next inRange =>
      split at built
      · next count_pos => exact ⟨count_pos, inRange⟩
      · cases built
    · cases built
  · rintro ⟨count_pos, inRange⟩
    rw [dif_pos inRange, dif_pos count_pos]
    exact ⟨_, rfl⟩

theorem one_le_carriersIn_iff (table : List (List Int32)) :
    1 ≤ carriersIn (table.map List.length) ↔ ∃ row ∈ table, row ≠ [] := by
  induction table with
  | nil => simp [carriersIn]
  | cons row rest induction =>
      change 1 ≤ row.length + carriersIn (rest.map List.length) ↔ _
      have some : row ≠ [] ↔ 0 < row.length := List.length_pos_iff.symm
      simp only [List.mem_cons, exists_eq_or_imp]
      rw [← induction, some]
      omega

theorem exists_ofTable_iff (table : List (List Int32)) (headerRows width symbolBits : Nat)
    (lengthKey counterKey frameLengthKey : String) (scrambled : Bool) :
    (∃ layout, CarrierLayout.ofTable (table.map List.length) headerRows width symbolBits
        lengthKey counterKey frameLengthKey scrambled = .ok layout) ↔
      (∃ row ∈ table, row ≠ []) ∧ headerRows ≤ table.length ∧
        (∃ row ∈ table.take headerRows, row ≠ []) ∧
        1 ≤ width ∧ width ≤ 8 ∧ 1 ≤ symbolBits := by
  have sized := exists_ofSizes_iff (carriersIn ((table.map List.length).take headerRows)) width
    lengthKey counterKey
  rw [← List.map_take, one_le_carriersIn_iff] at sized
  rw [← one_le_carriersIn_iff]
  unfold CarrierLayout.ofTable
  rw [List.length_map, ← List.map_take]
  constructor
  · rintro ⟨layout, built⟩
    split at built
    · next carriers_pos =>
      split at built
      · next within =>
        split at built
        · next symbolBits_pos =>
          split at built
          · cases built
          · next units sizes =>
            rcases sized.mp ⟨units, sizes⟩ with ⟨some, width_pos, width_le⟩
            exact ⟨carriers_pos, within, some, width_pos, width_le, symbolBits_pos⟩
        · cases built
      · cases built
    · cases built
  · rintro ⟨carriers_pos, within, some, width_pos, width_le, symbolBits_pos⟩
    rcases sized.mpr ⟨some, width_pos, width_le⟩ with ⟨units, sizes⟩
    rw [dif_pos carriers_pos, if_pos within, dif_pos symbolBits_pos, sizes]
    exact ⟨_, rfl⟩

theorem exists_bind_iff {Built Layouts : Type} (first : Except LayoutError Built)
    (next : Built → Except LayoutError Layouts) (Fits : Layouts → Prop) :
    (∃ layout, (first >>= next) = .ok layout ∧ Fits layout) ↔
      ∃ built, first = .ok built ∧ ∃ layout, next built = .ok layout ∧ Fits layout := by
  cases first with
  | error cause =>
      constructor
      · rintro ⟨layout, built, -⟩
        cases built
      · rintro ⟨built, failed, -⟩
        cases failed
  | ok built =>
      constructor
      · exact fun arrives => ⟨built, rfl, arrives⟩
      · rintro ⟨same, named, arrives⟩
        cases named
        exact arrives

theorem exists_pure_iff {Layouts : Type} (layout : Layouts) (Fits : Layouts → Prop) :
    (∃ same, (pure layout : Except LayoutError Layouts) = .ok same ∧ Fits same) ↔ Fits layout := by
  constructor
  · rintro ⟨same, named, fits⟩
    cases named
    exact fits
  · exact fun fits => ⟨layout, rfl, fits⟩

/-- A layout is built from a selection whose threshold does not exceed its code, and from no
other one. -/
theorem selectable_iff (config : LayoutConfig) :
    config.Selectable ↔
      ∃ layout, config.build = .ok layout ∧
        config.threshold.toNat ≤ layout.accessCode.length := by
  cases config with
  | plain config =>
      refine (codeSelectable_iff _ _).trans ?_
      simp only [build, exists_bind_iff, exists_pure_iff]
      rfl
  | counter config =>
      simp only [build, exists_bind_iff, exists_pure_iff]
      constructor
      · rintro ⟨selectable, inRange⟩
        rcases (codeSelectable_iff _ _).mp selectable with ⟨code, read, threshold_le⟩
        rcases (exists_ofCode_iff code _).mpr inRange with ⟨layout, built, rfl⟩
        exact ⟨layout.code, read, layout, built, threshold_le⟩
      · rintro ⟨code, read, layout, built, threshold_le⟩
        have same : layout.code = code := CounterLayout.code_of_ofCode built
        exact ⟨(codeSelectable_iff _ _).mpr ⟨code, read, same ▸ threshold_le⟩,
          (exists_ofCode_iff code _).mp ⟨layout, built, same⟩⟩
  | crc config => exact ⟨fun _ => ⟨_, rfl, Nat.zero_le _⟩, fun _ => trivial⟩
  | units config =>
      simp only [build, exists_bind_iff, exists_pure_iff]
      refine (exists_ofSizes_iff _ _ config.lengthKey config.counterKey).symm.trans ?_
      exact ⟨fun ⟨layout, built⟩ => ⟨layout, built, Nat.zero_le _⟩,
        fun ⟨layout, built, _⟩ => ⟨layout, built⟩⟩
  | carriers config =>
      simp only [build, exists_bind_iff, exists_pure_iff]
      refine (exists_ofTable_iff _ _ _ _ config.lengthKey config.counterKey
        config.frameLengthKey config.scrambled).symm.trans ?_
      exact ⟨fun ⟨layout, built⟩ => ⟨layout, built, Nat.zero_le _⟩,
        fun ⟨layout, built, _⟩ => ⟨layout, built⟩⟩

end LayoutConfig

def Receiver.tolerating (code : AccessCode) (threshold : Nat) : Receiver :=
  { Receiver.ofCode code with correlator := { Correlator.ofCode code with threshold } }

theorem Receiver.setThreshold_ofCode {code : AccessCode} {threshold : Nat}
    (within : threshold ≤ code.length) :
    (ofCode code).setThreshold threshold = .ok (tolerating code threshold) :=
  congrArg (Except.map _) (if_pos within)

namespace SharedTransceiver

variable {config : LayoutConfig} {layout : Layout}

theorem ofConfig_eq_ok (built : config.build = .ok layout)
    (within : config.threshold.toNat ≤ layout.accessCode.length) :
    ofConfig config = .ok {
      codec := .ofLayout layout
      receiver := .tolerating layout.accessCode config.threshold.toNat } := by
  unfold ofConfig
  rw [built]
  simp only [bind, Except.bind, setThreshold, ofLayout, Receiver.setThreshold_ofCode within]
  rfl

theorem ofConfig_eq_error_of_build {cause : LayoutError} (refused : config.build = .error cause) :
    ofConfig config = .error cause := by
  unfold ofConfig
  rw [refused]
  rfl

theorem ofConfig_eq_error_of_threshold (built : config.build = .ok layout)
    (beyond : ¬config.threshold.toNat ≤ layout.accessCode.length) :
    ofConfig config = .error
      (.field (.thresholdTooLarge config.threshold.toNat layout.accessCode.length)) := by
  have refused : (Receiver.ofCode layout.accessCode).setThreshold config.threshold.toNat =
      .error (.thresholdTooLarge config.threshold.toNat layout.accessCode.length) :=
    congrArg (Except.map _) (if_neg beyond)
  unfold ofConfig
  rw [built]
  simp only [bind, Except.bind, setThreshold, ofLayout, refused]
  rfl

theorem exists_layout_of_ofConfig {device : SharedTransceiver}
    (built : ofConfig config = .ok device) :
    ∃ layout, config.build = .ok layout ∧
      config.threshold.toNat ≤ layout.accessCode.length ∧
      device = {
        codec := .ofLayout layout
        receiver := .tolerating layout.accessCode config.threshold.toNat } := by
  cases selected : config.build with
  | error cause =>
      rw [ofConfig_eq_error_of_build selected] at built
      cases built
  | ok layout =>
      by_cases within : config.threshold.toNat ≤ layout.accessCode.length
      · rw [ofConfig_eq_ok selected within] at built
        exact ⟨layout, rfl, within, (Except.ok.inj built).symm⟩
      · rw [ofConfig_eq_error_of_threshold selected within] at built
        cases built

theorem exists_ofConfig_iff (config : LayoutConfig) :
    (∃ device, ofConfig config = .ok device) ↔ config.Selectable := by
  rw [config.selectable_iff]
  constructor
  · rintro ⟨device, built⟩
    rcases exists_layout_of_ofConfig built with ⟨layout, selected, within, -⟩
    exact ⟨layout, selected, within⟩
  · rintro ⟨layout, selected, within⟩
    exact ⟨_, ofConfig_eq_ok selected within⟩

end SharedTransceiver

end PacketFraming
