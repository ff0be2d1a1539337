/-! Metadata: what is known about a frame, as named values in the order in which the names
first appeared. -/

namespace PacketFraming

inductive MetaValue
  | int (value : Int64)
  | bytes (value : List UInt8)
deriving DecidableEq, Repr

namespace MetaValue

instance : Inhabited MetaValue := ⟨int 0⟩

/-- A natural number as a value; one that does not fit becomes the largest that does. -/
def natural (value : Nat) : MetaValue :=
  int (Int64.ofNat (min value (2 ^ 63 - 1)))

def int? : MetaValue → Option Int64
  | int value => some value
  | bytes _ => none

example : natural (2 ^ 64 - 1) = int 9223372036854775807 := rfl

end MetaValue

/-- Named values in order; no name occurs twice. -/
structure Metadata where
  entries : List (String × MetaValue)
  keys_nodup : (entries.map Prod.fst).Nodup
deriving DecidableEq, Repr

namespace Metadata

/-! ## Names used by the layouts -/

def payloadBitsKey : String := "payload bits"

/-- Items read while searching for a header and reading it. -/
def skippedItemsKey : String := "skip samps"

def symbolBitsKey : String := "bps"

def counterKey : String := "counter"

def payloadSymbolsKey : String := "payload symbols"

def packetLengthKey : String := "packet_len"

def packetNumberKey : String := "packet_num"

/-- Transmission symbols that a payload spans. -/
def frameLengthKey : String := "frame_len"

/-! ## Operations -/

def empty : Metadata where
  entries := []
  keys_nodup := List.nodup_nil

instance : Inhabited Metadata := ⟨empty⟩

/-- Replaces the value of a name where it stands, or adds the name at the end. -/
def insertEntry (key : String) (value : MetaValue) :
    List (String × MetaValue) → List (String × MetaValue)
  | [] => [(key, value)]
  | entry :: rest =>
      if entry.1 = key then (key, value) :: rest else entry :: insertEntry key value rest

theorem keys_insertEntry (key : String) (value : MetaValue)
    (entries : List (String × MetaValue)) :
    (insertEntry key value entries).map Prod.fst =
      if key ∈ entries.map Prod.fst then entries.map Prod.fst
      else entries.map Prod.fst ++ [key] := by
  induction entries with
  | nil => rfl
  | cons entry rest induction =>
      by_cases same : entry.1 = key
      · simp [insertEntry, same]
      · have other : key ≠ entry.1 := fun equal => same equal.symm
        simp only [insertEntry, same, if_false, List.map_cons, induction, List.mem_cons,
          other, false_or]
        split <;> rfl

def insert (metadata : Metadata) (key : String) (value : MetaValue) : Metadata where
  entries := insertEntry key value metadata.entries
  keys_nodup := by
    rw [keys_insertEntry]
    split
    · exact metadata.keys_nodup
    · next absent =>
        apply List.nodup_append.mpr
        refine ⟨metadata.keys_nodup, List.pairwise_singleton (· ≠ ·) key, ?_⟩
        intro known member added inLast equal
        rw [List.mem_singleton] at inLast
        exact absent (inLast ▸ equal ▸ member)

def valueOf? (key : String) : List (String × MetaValue) → Option MetaValue
  | [] => none
  | entry :: rest => if entry.1 = key then some entry.2 else valueOf? key rest

theorem valueOf?_insertEntry (key : String) (value : MetaValue)
    (entries : List (String × MetaValue)) (wanted : String) :
    valueOf? wanted (insertEntry key value entries) =
      if wanted = key then some value else valueOf? wanted entries := by
  induction entries with
  | nil => simp [insertEntry, valueOf?, eq_comm]
  | cons entry rest induction =>
      by_cases replaced : entry.1 = key
      · by_cases same : wanted = key
        · simp [insertEntry, valueOf?, replaced, same]
        · have other : key ≠ wanted := fun equal => same equal.symm
          simp [insertEntry, valueOf?, replaced, same, other]
      · by_cases found : entry.1 = wanted
        · have different : wanted ≠ key := fun equal => replaced (found.trans equal)
          simp [insertEntry, valueOf?, found, different]
        · simp [insertEntry, valueOf?, replaced, found, induction]

def get? (metadata : Metadata) (key : String) : Option MetaValue :=
  valueOf? key metadata.entries

@[simp] theorem get?_insert_self (metadata : Metadata) (key : String) (value : MetaValue) :
    (metadata.insert key value).get? key = some value := by
  simp [get?, insert, valueOf?_insertEntry]

theorem get?_insert_of_ne (metadata : Metadata) {key other : String} (value : MetaValue)
    (different : other ≠ key) :
    (metadata.insert key value).get? other = metadata.get? other := by
  simp [get?, insert, valueOf?_insertEntry, different]

def getInt? (metadata : Metadata) (key : String) : Option Int64 :=
  (metadata.get? key).bind MetaValue.int?

def contains (metadata : Metadata) (key : String) : Bool :=
  (metadata.get? key).isSome

def erase (metadata : Metadata) (key : String) : Metadata where
  entries := metadata.entries.eraseP fun entry => entry.1 == key
  keys_nodup := (List.eraseP_sublist.map Prod.fst).nodup metadata.keys_nodup

/-- Takes a name out: the value that it had, and the metadata without it. -/
def remove (metadata : Metadata) (key : String) : Option MetaValue × Metadata :=
  match metadata.entries.findIdx? fun entry => entry.1 == key with
  | some index =>
      (metadata.entries[index]?.map Prod.snd, {
        entries := metadata.entries.eraseIdx index
        keys_nodup :=
          ((List.eraseIdx_sublist metadata.entries index).map Prod.fst).nodup
            metadata.keys_nodup })
  | none => (none, metadata)

def insertAll (metadata : Metadata) (entries : List (String × MetaValue)) : Metadata :=
  entries.foldl (fun metadata entry => metadata.insert entry.1 entry.2) metadata

def merge (metadata other : Metadata) : Metadata :=
  metadata.insertAll other.entries

/-- Metadata from a list in which a later entry replaces an earlier one of its name. -/
def ofList (entries : List (String × MetaValue)) : Metadata :=
  empty.insertAll entries

def toList (metadata : Metadata) : List (String × MetaValue) :=
  metadata.entries

def keys (metadata : Metadata) : List String :=
  metadata.entries.map Prod.fst

theorem keys_insert (metadata : Metadata) (key : String) (value : MetaValue) :
    (metadata.insert key value).keys =
      if key ∈ metadata.keys then metadata.keys else metadata.keys ++ [key] :=
  keys_insertEntry key value metadata.entries

def size (metadata : Metadata) : Nat :=
  metadata.entries.length

def isEmpty (metadata : Metadata) : Bool :=
  metadata.entries.isEmpty

example : ((ofList [("a", .int 1), ("b", .int 2)]).insert "a" (.int 3)).toList =
    [("a", .int 3), ("b", .int 2)] := rfl

end Metadata

end PacketFraming
