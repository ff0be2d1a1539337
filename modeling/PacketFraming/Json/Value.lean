/-! Values of JSON text. -/

namespace PacketFraming

/-- A JSON value. The members of an object keep their order, and a name may occur twice. -/
inductive Json
  | null
  | bool (value : Bool)
  | integer (value : Int)
  /-- A number with a fraction or an exponent, or a negative zero. No field takes such a
  number, so its value is not kept. -/
  | decimal
  | string (text : String)
  | array (items : List Json)
  | object (members : List (String × Json))
  /-- Text that follows the grammar and yet stands for no value: a number beyond the range
  of double precision, or a string or a name with half of a surrogate pair. -/
  | unreadable

namespace Json

instance : Inhabited Json := ⟨null⟩

/-- A list of strings or numbers is not nested; every list or object inside another adds a
level. -/
def readable : (levels : Nat) → Json → Bool
  | _, unreadable => false
  | 0, array _ => false
  | 0, object _ => false
  | levels + 1, array items => items.all (readable levels)
  | levels + 1, object members => members.all fun entry => readable levels entry.2
  | _, _ => true

def natural (value : Nat) : Json :=
  integer value

/-! ## Reading fields -/

def integerWithin? (low high : Int) : Json → Option Int
  | integer value => if low ≤ value ∧ value ≤ high then some value else none
  | _ => none

def uint64? (json : Json) : Option UInt64 :=
  (json.integerWithin? 0 (2 ^ 64 - 1)).map fun value => UInt64.ofNat value.toNat

def uint32? (json : Json) : Option UInt32 :=
  (json.integerWithin? 0 (2 ^ 32 - 1)).map fun value => UInt32.ofNat value.toNat

def uint16? (json : Json) : Option UInt16 :=
  (json.integerWithin? 0 (2 ^ 16 - 1)).map fun value => UInt16.ofNat value.toNat

def uint8? (json : Json) : Option UInt8 :=
  (json.integerWithin? 0 (2 ^ 8 - 1)).map fun value => UInt8.ofNat value.toNat

def int64? (json : Json) : Option Int64 :=
  (json.integerWithin? (-2 ^ 63) (2 ^ 63 - 1)).map Int64.ofInt

def int32? (json : Json) : Option Int32 :=
  (json.integerWithin? (-2 ^ 31) (2 ^ 31 - 1)).map Int32.ofInt

def string? : Json → Option String
  | string text => some text
  | _ => none

def bool? : Json → Option Bool
  | bool value => some value
  | _ => none

def list? (item? : Json → Option α) : Json → Option (List α)
  | array items => items.mapM item?
  | _ => none

/-- The members that a record is read from. A list gives the leading fields of the record
in order, without their names. -/
def record? (names : List String) : Json → Option (List (String × Json))
  | object members => some members
  | array items => if items.length ≤ names.length then some (names.zip items) else none
  | _ => none

/-- The field of a record. A missing field takes its default, and a repeated one is
refused. -/
def field? (members : List (String × Json)) (name : String) (value? : Json → Option α)
    (default : α) : Option α :=
  match members.filter fun entry => entry.1 == name with
  | [] => some default
  | [entry] => value? entry.2
  | _ => none

example : field? [("b", integer 1)] "a" uint8? 7 = some 7 := rfl

example : (field? [("a", integer 1), ("a", integer 1)] "a" uint8? 7) = none := rfl

end Json

end PacketFraming
