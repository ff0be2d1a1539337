import PacketFraming.Bits.Scrambler
import PacketFraming.Layout.Units

/-! Unit headers laid over the carriers of OFDM symbols.

A carrier table says how many carriers each transmission symbol occupies; its rows repeat
cyclically. The header fills the carriers of the first rows, one unit each, and may be
whitened with the sequence of a fixed scrambler. -/

namespace PacketFraming

/-- The carriers that symbols occupy when no table is given: 48 around the centre. -/
def defaultCarriers : List (List Int32) :=
  [[-26, -25, -24, -23, -22,
    -20, -19, -18, -17, -16, -15, -14, -13, -12, -11, -10, -9, -8,
    -6, -5, -4, -3, -2, -1,
    1, 2, 3, 4, 5, 6,
    8, 9, 10, 11, 12, 13, 14, 15, 16, 17, 18, 19, 20,
    22, 23, 24, 25, 26]]

def headerScrambler : Scrambler where
  mask := 0x8A
  seed := 0x6F
  length := 7
  length_le := by decide
  register := 0x6F

/-- The rows needed, from the first on, to cover a number of payload symbols. -/
def rowsCovering : List Nat → Nat → Nat
  | _, 0 => 0
  | [], _ => 0
  | row :: rest, symbols => 1 + rowsCovering rest (symbols - row)

def carriersIn (rows : List Nat) : Nat :=
  rows.foldr (· + ·) 0

structure CarrierLayout.Sized (rows : List Nat) (symbolBits : Nat) : Prop where
  carriers_pos : 1 ≤ carriersIn rows
  symbolBits_pos : 1 ≤ symbolBits

/-- A unit header over a carrier table. -/
structure CarrierLayout where
  units : UnitLayout
  rows : List Nat
  symbolBits : Nat
  frameLengthKey : String
  scrambled : Bool
  sized : CarrierLayout.Sized rows symbolBits
deriving DecidableEq

namespace CarrierLayout

/-- A header over the first `headerRows` rows of a table. The table is judged first, then
the rows of the header, the payload symbols, and last the header's units. -/
def ofTable (rows : List Nat) (headerRows width symbolBits : Nat)
    (lengthKey counterKey frameLengthKey : String) (scrambled : Bool) :
    Except LayoutError CarrierLayout :=
  if carriers_pos : 1 ≤ carriersIn rows then
    if headerRows ≤ rows.length then
      if symbolBits_pos : 1 ≤ symbolBits then
        match UnitLayout.ofSizes (carriersIn (rows.take headerRows)) width lengthKey counterKey with
        | .error cause => .error cause
        | .ok units =>
            .ok {
              units, rows, symbolBits, frameLengthKey, scrambled
              sized := { carriers_pos, symbolBits_pos } }
      else .error (.invalidSymbolBits 0)
    else .error (.headerSymbolsOutOfRange headerRows rows.length)
  else .error .emptyCarrierTable

def carriersPerPass (layout : CarrierLayout) : Nat :=
  carriersIn layout.rows

/-- Transmission symbols that carry a number of payload symbols: whole passes over the
table, and then rows in order until the rest is covered. -/
def frameLength (layout : CarrierLayout) (symbols : Nat) : Nat :=
  symbols / layout.carriersPerPass * layout.rows.length +
    rowsCovering layout.rows (symbols % layout.carriersPerPass)

/-- What each header unit is combined with: scrambler units, or zeros when whitening is
off. -/
def whitening (layout : CarrierLayout) : List UInt8 :=
  if layout.scrambled then (headerScrambler.nextUnits layout.units.width layout.units.count).1
  else List.replicate layout.units.count 0

/-- Combines units with the whitening sequence. Doing it twice changes nothing. -/
def whiten (layout : CarrierLayout) (units : List UInt8) : List UInt8 :=
  units.zipWith (· ^^^ ·) layout.whitening

def encode (layout : CarrierLayout) (counter length : Nat) : List UInt8 :=
  layout.whiten (layout.units.encode counter length)

def registerFields? (layout : CarrierLayout) (register : HeaderRegister) :
    Option UnitFields :=
  (layout.units.units? register).bind fun units => layout.units.fields? (layout.whiten units)

def accepts (layout : CarrierLayout) (register : HeaderRegister) : Bool :=
  (layout.registerFields? register).isSome

/-- What the fields say: the length is reported in payload symbols, together with the
transmission symbols that they span. -/
def describe (layout : CarrierLayout) (fields : UnitFields) : DecodedHeader :=
  let symbols := ceilDiv (8 * fields.length) layout.symbolBits
  { metadata :=
      ((layout.units.describe fields).metadata.insert layout.units.lengthKey
        (.natural symbols)).insert layout.frameLengthKey
          (.natural (layout.frameLength symbols))
    payloadItems := symbols }

def decode? (layout : CarrierLayout) (register : HeaderRegister) : Option DecodedHeader :=
  (layout.registerFields? register).map layout.describe

end CarrierLayout

end PacketFraming
