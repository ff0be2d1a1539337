import PacketFraming.Proofs.HeaderFields

/-! Headers of bits, read back from the fields that were written. -/

namespace PacketFraming

theorem Layout.readItems?_of_register {layout : Layout} {items : List UInt8}
    {header : DecodedHeader}
    (accepted : layout.accepts (items.foldl layout.collect .empty) = true)
    (decoded : layout.decode? (items.foldl layout.collect .empty) = some header) :
    layout.readItems? items = some header := by
  rw [readItems?, read?, if_pos accepted, decoded]

namespace PlainLayout

/-- What a header for a payload of `length` bytes says. -/
def header (length : Nat) : DecodedHeader where
  metadata := .ofList [(Metadata.payloadBitsKey, .natural (8 * length))]
  payloadItems := 8 * length

theorem reads_fields {register : HeaderRegister} {length : Nat} {rest : List Bool}
    (fits : length ≤ maxShortLength)
    (held : register.bits = bitsOfValue 16 length ++ bitsOfValue 16 length ++ rest) :
    accepts register = true ∧ decode? register = some (header length) := by
  have small : length < 2 ^ 16 := Nat.lt_succ_of_le fits
  have first : register.value? 0 16 = some length :=
    HeaderRegister.value?_of_bits [] (bitsOfValue 16 length ++ rest)
      (by simpa using held) rfl (by decide) (by decide) small
  have second : register.value? 16 16 = some length :=
    HeaderRegister.value?_of_bits (bitsOfValue 16 length) rest
      held (by simp) (by decide) (by decide) small
  constructor
  · simp [accepts, first, second]
  · rw [decode?, first]
    rfl

theorem readItems?_encode (layout : PlainLayout) {length : Nat} (fits : length ≤ maxShortLength) :
    (Layout.plain layout).readItems?
        (unpackBits (bigEndian 2 length ++ bigEndian 2 length)) = some (header length) := by
  have held := Layout.bits_foldl_collect_unpackBits (.plain layout) rfl
    (bigEndian 2 length ++ bigEndian 2 length)
  simp only [bitsOfBytes_append, bitsOfBytes_bigEndian] at held
  rcases reads_fields fits (held.trans (List.append_nil _).symm) with ⟨accepted, decoded⟩
  exact Layout.readItems?_of_register accepted decoded

end PlainLayout

namespace CounterLayout

def header (symbolBits counter length : Nat) : DecodedHeader where
  metadata := .ofList [
    (Metadata.payloadBitsKey, .natural (8 * length)),
    (Metadata.payloadSymbolsKey, .natural (8 * length / max symbolBits 1)),
    (Metadata.symbolBitsKey, .natural symbolBits),
    (Metadata.counterKey, .natural counter)]
  payloadItems := 8 * length / max symbolBits 1

theorem reads_fields {register : HeaderRegister} {symbolBits counter length : Nat}
    {rest : List Bool} (fits : length ≤ maxShortLength) (symbolBits_pos : 1 ≤ symbolBits)
    (symbolBits_lt : symbolBits < 2 ^ 16) (counter_lt : counter < 2 ^ 16)
    (held : register.bits = bitsOfValue 16 length ++ bitsOfValue 16 length ++
      bitsOfValue 16 symbolBits ++ bitsOfValue 16 counter ++ rest) :
    accepts register = true ∧ decode? register = some (header symbolBits counter length) := by
  have small : length < 2 ^ 16 := Nat.lt_succ_of_le fits
  have some : symbolBits ≠ 0 := Nat.ne_of_gt symbolBits_pos
  have first : register.value? 0 16 = Option.some length :=
    HeaderRegister.value?_of_bits []
      (bitsOfValue 16 length ++ bitsOfValue 16 symbolBits ++ bitsOfValue 16 counter ++ rest)
      (by simpa using held) rfl (by decide) (by decide) small
  have second : register.value? 16 16 = Option.some length :=
    HeaderRegister.value?_of_bits (bitsOfValue 16 length)
      (bitsOfValue 16 symbolBits ++ bitsOfValue 16 counter ++ rest)
      (by simpa using held) (by simp) (by decide) (by decide) small
  have third : register.value? 32 16 = Option.some symbolBits :=
    HeaderRegister.value?_of_bits (bitsOfValue 16 length ++ bitsOfValue 16 length)
      (bitsOfValue 16 counter ++ rest) (by simpa using held) (by simp) (by decide) (by decide)
      symbolBits_lt
  have fourth : register.value? 48 16 = Option.some counter :=
    HeaderRegister.value?_of_bits
      (bitsOfValue 16 length ++ bitsOfValue 16 length ++ bitsOfValue 16 symbolBits) rest
      held (by simp) (by decide) (by decide) counter_lt
  constructor
  · simp [accepts, first, second, third, some]
  · rw [decode?, first, third, fourth]
    rfl

theorem readItems?_encode (layout : CounterLayout) {counter length : Nat}
    (fits : length ≤ maxShortLength) (counter_lt : counter < 2 ^ 16) :
    (Layout.counter layout).readItems?
        (unpackBits (bigEndian 2 length ++ bigEndian 2 length ++ bigEndian 2 layout.symbolBits ++
          bigEndian 2 counter)) = some (header layout.symbolBits counter length) := by
  have held := Layout.bits_foldl_collect_unpackBits (.counter layout) rfl
    (bigEndian 2 length ++ bigEndian 2 length ++ bigEndian 2 layout.symbolBits ++
      bigEndian 2 counter)
  simp only [bitsOfBytes_append, bitsOfBytes_bigEndian] at held
  have symbolBits_lt : layout.symbolBits < 2 ^ 16 :=
    Nat.lt_of_le_of_lt layout.symbolBits_le (by decide)
  rcases reads_fields fits layout.symbolBits_pos symbolBits_lt counter_lt
    (held.trans (List.append_nil _).symm) with ⟨accepted, decoded⟩
  exact Layout.readItems?_of_register accepted decoded

end CounterLayout

namespace CrcLayout

def header (layout : CrcLayout) (counter length : Nat) : DecodedHeader where
  metadata := .ofList [
    (Metadata.payloadBitsKey, .natural (8 * length)),
    (layout.lengthKey, .natural (8 * length)),
    (layout.counterKey, .natural counter)]
  payloadItems := 8 * length

theorem fields?_of_bits {register : HeaderRegister} {counter length checksum : Nat}
    {rest : List Bool} (counter_lt : counter < 2 ^ 12) (length_lt : length < 2 ^ 12)
    (checksum_lt : checksum < 2 ^ 8)
    (held : register.bits = bitsOfValue 12 counter ++ bitsOfValue 12 length ++
      bitsOfValue 8 checksum ++ rest) :
    fields? register = some { counter, length, checksum } := by
  have first : register.value? 0 12 = some counter :=
    HeaderRegister.value?_of_bits [] (bitsOfValue 12 length ++ bitsOfValue 8 checksum ++ rest)
      (by simpa using held) rfl (by decide) (by decide) counter_lt
  have second : register.value? 12 12 = some length :=
    HeaderRegister.value?_of_bits (bitsOfValue 12 counter) (bitsOfValue 8 checksum ++ rest)
      (by simpa using held) (by simp) (by decide) (by decide) length_lt
  have third : register.value? 24 8 = some checksum :=
    HeaderRegister.value?_of_bits (bitsOfValue 12 counter ++ bitsOfValue 12 length) rest
      held (by simp) (by decide) (by decide) checksum_lt
  rw [fields?, first, second, third]
  rfl

theorem reads_fields (layout : CrcLayout) {register : HeaderRegister} {counter length : Nat}
    {rest : List Bool} (fits : length < 2 ^ 12) (counter_lt : counter < 2 ^ 12)
    (held : register.bits = bitsOfValue 12 counter ++ bitsOfValue 12 length ++
      bitsOfValue 8 (headerCrc length counter).toNat ++ rest) :
    accepts register = true ∧ layout.decode? register = some (layout.header counter length) := by
  have fields := fields?_of_bits counter_lt fits (UInt8.toNat_lt (headerCrc length counter)) held
  constructor
  · simp [accepts, fields]
  · rw [decode?, fields]
    rfl

theorem bitsOfBytes_encode {counter length : Nat} (fits : length < twelveBits) :
    bitsOfBytes (encode counter length) = bitsOfValue 12 counter ++ bitsOfValue 12 length ++
      bitsOfValue 8 (headerCrc length counter).toNat := by
  have high : (counter * twelveBits + length) / 2 ^ 12 = counter := by
    unfold twelveBits at fits ⊢
    omega
  have low : bitsOfValue 12 (counter * twelveBits + length) = bitsOfValue 12 length := by
    have same : (counter * twelveBits + length) % 2 ^ 12 = length := by
      unfold twelveBits at fits ⊢
      omega
    rw [← bitsOfValue_mod 12 _ (Nat.le_refl 12), same]
  rw [encode, Nat.mod_eq_of_lt fits, bitsOfBytes_append, bitsOfBytes_bigEndian,
    bitsOfBytes_singleton, show 8 * 3 = 12 + 12 from rfl, bitsOfValue_add, high, low]

theorem readItems?_encode (layout : CrcLayout) {counter length : Nat}
    (fits : length < twelveBits) (counter_lt : counter < twelveBits) :
    (Layout.crc layout).readItems? (unpackBits (encode counter length)) =
      some (layout.header counter length) := by
  have held := Layout.bits_foldl_collect_unpackBits (.crc layout) rfl
    (encode counter length)
  rw [bitsOfBytes_encode fits] at held
  rcases reads_fields layout fits counter_lt (held.trans (List.append_nil _).symm) with
    ⟨accepted, decoded⟩
  exact Layout.readItems?_of_register accepted decoded

end CrcLayout

end PacketFraming
