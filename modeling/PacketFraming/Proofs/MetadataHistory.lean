import Mathlib.Data.List.DropRight
import PacketFraming.Metadata.Json
import PacketFraming.Proofs.MetadataEntries

/-! Metadata over all of its use.

However it came about, metadata has for every name the value stored last since the name was last
removed, and its names stand in the order in which each of them was first stored since then. -/

namespace PacketFraming

namespace Metadata

/-! ## Uses of metadata -/

/-- Inserting stands for both styles, with and without giving the metadata back. -/
inductive Call
  | insert (key : String) (value : MetaValue)
  | merge (other : Metadata)
  | remove (key : String)
  | ofList (entries : List (String × MetaValue))
  | parse (text : String)

/-- The metadata behind a call. A list or a text is a new beginning; a text that is refused leaves
the metadata as it was. -/
def after (metadata : Metadata) : Call → Metadata
  | .insert key value => metadata.insert key value
  | .merge other => metadata.merge other
  | .remove key => (metadata.remove key).2
  | .ofList entries => ofList entries
  | .parse text => (parse? text).getD metadata

def afterAll (calls : List Call) : Metadata :=
  calls.foldl after empty

theorem afterAll_concat (calls : List Call) (call : Call) :
    afterAll (calls ++ [call]) = (afterAll calls).after call :=
  List.foldl_append

def entriesOfText? (text : String) : Option (List (String × MetaValue)) :=
  (Json.parseReadable? text).bind entriesOfJson?

theorem parse?_eq (text : String) : parse? text = (entriesOfText? text).map ofList := by
  rw [parse?, entriesOfText?, Option.map_bind]
  exact congrArg _ (funext ofJson?_eq)

/-! ## Lists of pairs

The same calls, made to a list of pairs of which nothing is known. -/

def insertPairs (entries added : List (String × MetaValue)) : List (String × MetaValue) :=
  added.foldl (fun entries entry => insertEntry entry.1 entry.2 entries) entries

def Call.perform (entries : List (String × MetaValue)) : Call → List (String × MetaValue)
  | insert key value => insertEntry key value entries
  | merge other => insertPairs entries other.entries
  | remove key =>
      match entries.findIdx? fun entry => entry.1 == key with
      | some index => entries.eraseIdx index
      | none => entries
  | ofList added => insertPairs [] added
  | parse text => ((entriesOfText? text).map (insertPairs [])).getD entries

theorem entries_insertAll (metadata : Metadata) (added : List (String × MetaValue)) :
    (metadata.insertAll added).entries = insertPairs metadata.entries added := by
  induction added generalizing metadata with
  | nil => rfl
  | cons entry rest induction => exact induction (metadata.insert entry.1 entry.2)

theorem perform_eq (metadata : Metadata) (call : Call) :
    call.perform metadata.entries = (metadata.after call).entries := by
  cases call with
  | insert key value => rfl
  | merge other => exact (entries_insertAll metadata other.entries).symm
  | remove key =>
      have found := findIdx?_cases key metadata.entries
      rw [after, remove_eq, Call.perform]
      cases place : metadata.entries.findIdx? fun entry => entry.1 == key with
      | none =>
          rw [place] at found
          exact found.2.symm
      | some index =>
          rw [place] at found
          exact found.2
  | ofList added => exact (entries_insertAll empty added).symm
  | parse text =>
      rw [after, parse?_eq, Call.perform]
      cases entriesOfText? text with
      | none => rfl
      | some added => exact (entries_insertAll empty added).symm

theorem foldl_perform_eq (calls : List Call) :
    calls.foldl Call.perform [] = (afterAll calls).entries := by
  induction calls using List.reverseRecOn with
  | nil => rfl
  | append_singleton calls call induction =>
      rw [List.foldl_append, List.foldl_cons, List.foldl_nil, induction, perform_eq,
        afterAll_concat]

/-! ## What has happened to names -/

inductive Event
  | stored (key : String) (value : MetaValue)
  | removed (key : String)
deriving DecidableEq

def storing (entries : List (String × MetaValue)) : List Event :=
  entries.map fun entry => .stored entry.1 entry.2

/-- The events behind a call. What was before a new beginning does not count. -/
def Call.extend (events : List Event) : Call → List Event
  | insert key value => events ++ [.stored key value]
  | merge other => events ++ storing other.entries
  | remove key => events ++ [.removed key]
  | ofList entries => storing entries
  | parse text => ((entriesOfText? text).map storing).getD events

def history (calls : List Call) : List Event :=
  calls.foldl Call.extend []

def Event.valueFor? (key : String) : Event → Option MetaValue
  | stored name value => if name = key then some value else none
  | removed _ => none

/-- The events since a name was last removed, and all of them if it never was. -/
def since (key : String) (events : List Event) : List Event :=
  events.rtakeWhile (· ≠ .removed key)

/-- The value stored last under a name since its last removal. -/
def lastStored? (key : String) (events : List Event) : Option MetaValue :=
  ((since key events).filterMap (Event.valueFor? key)).getLast?

/-- Which event was the first to store a name since its last removal. -/
def firstStored? (key : String) (events : List Event) : Option Nat :=
  ((since key events).findIdx? fun event => (event.valueFor? key).isSome).map
    (events.length - (since key events).length + ·)

def Before (events : List Event) (first second : String) : Prop :=
  ∃ earlier later, firstStored? first events = some earlier ∧
    firstStored? second events = some later ∧ earlier < later

section History

variable (events : List Event) (key : String)

theorem since_removed : since key (events ++ [.removed key]) = [] :=
  List.rtakeWhile_concat_neg _ _ _ (by simp)

variable {events key}

theorem since_concat {event : Event} (other : event ≠ .removed key) :
    since key (events ++ [event]) = since key events ++ [event] :=
  List.rtakeWhile_concat_pos _ _ _ (by simp [other])

theorem length_since_le (key : String) (events : List Event) :
    (since key events).length ≤ events.length :=
  (List.rtakeWhile_suffix _ events).length_le

theorem lastStored?_concat {event : Event} (other : event ≠ .removed key) :
    lastStored? key (events ++ [event]) = (event.valueFor? key).or (lastStored? key events) := by
  rw [lastStored?, since_concat other, List.filterMap_append, lastStored?]
  cases value : event.valueFor? key with
  | none => simp [value]
  | some value => simp [value]

theorem firstStored?_concat {event : Event} (other : event ≠ .removed key) :
    firstStored? key (events ++ [event]) =
      (firstStored? key events).or ((event.valueFor? key).map fun _ => events.length) := by
  have short := length_since_le key events
  have gone : (events ++ [event]).length - (since key events ++ [event]).length =
      events.length - (since key events).length := by
    rw [List.length_append, List.length_append, Nat.add_sub_add_right]
  rw [firstStored?, since_concat other, gone, List.findIdx?_append, firstStored?]
  cases (since key events).findIdx? fun event => (event.valueFor? key).isSome with
  | some index => rfl
  | none =>
      cases value : event.valueFor? key with
      | none => simp [value]
      | some value =>
          simp only [List.findIdx?_singleton, value, Option.isSome_some, if_true, Option.none_or,
            Option.map_some, Nat.zero_add, Option.map_none]
          exact congrArg some (Nat.sub_add_cancel short)

theorem lastStored?_stored (events : List Event) (key wanted : String) (value : MetaValue) :
    lastStored? wanted (events ++ [.stored key value]) =
      if wanted = key then some value else lastStored? wanted events := by
  have other : Event.stored key value ≠ .removed wanted := nofun
  rw [lastStored?_concat other, Event.valueFor?]
  by_cases own : wanted = key
  · rw [if_pos own, if_pos own.symm, Option.some_or]
  · rw [if_neg own, if_neg (Ne.symm own), Option.none_or]

theorem firstStored?_stored (events : List Event) (key wanted : String) (value : MetaValue) :
    firstStored? wanted (events ++ [.stored key value]) =
      (firstStored? wanted events).or (if key = wanted then some events.length else none) := by
  have other : Event.stored key value ≠ .removed wanted := nofun
  rw [firstStored?_concat other, Event.valueFor?]
  split <;> rfl

theorem firstStored?_removed {wanted : String} (apart : wanted ≠ key) :
    firstStored? wanted (events ++ [.removed key]) = firstStored? wanted events := by
  have other : Event.removed key ≠ .removed wanted := by simpa using Ne.symm apart
  rw [firstStored?_concat other]
  exact Option.or_none

theorem lastStored?_removed (events : List Event) (key wanted : String) :
    lastStored? wanted (events ++ [.removed key]) =
      if wanted = key then none else lastStored? wanted events := by
  split
  · next own =>
    rw [own, lastStored?, since_removed]
    rfl
  · next apart =>
    have other : Event.removed key ≠ .removed wanted := by simpa using Ne.symm apart
    rw [lastStored?_concat other]
    rfl

theorem firstStored?_lt {place : Nat} (stored : firstStored? key events = some place) :
    place < events.length := by
  rcases Option.map_eq_some_iff.mp stored with ⟨index, found, rfl⟩
  have inside := (List.findIdx?_eq_some_iff_getElem.mp found).1
  have short := length_since_le key events
  omega

theorem isSome_firstStored? (key : String) (events : List Event) :
    (firstStored? key events).isSome = (lastStored? key events).isSome := by
  rw [firstStored?, lastStored?, Option.isSome_map, List.findIdx?_isSome, Bool.eq_iff_iff,
    List.any_eq_true, Option.isSome_iff_ne_none, ne_eq, List.getLast?_eq_none_iff,
    List.filterMap_eq_nil_iff]
  simp only [not_forall, Option.isSome_iff_ne_none, ne_eq, exists_prop]

theorem Before.stored {first second : String} (before : Before events first second)
    (key : String) (value : MetaValue) :
    Before (events ++ [.stored key value]) first second := by
  rcases before with ⟨earlier, later, one, two, less⟩
  refine ⟨earlier, later, ?_, ?_, less⟩
  · rw [firstStored?_stored, one, Option.some_or]
  · rw [firstStored?_stored, two, Option.some_or]

theorem Before.removed {first second : String} (before : Before events first second)
    (first_ne : first ≠ key) (second_ne : second ≠ key) :
    Before (events ++ [.removed key]) first second := by
  rcases before with ⟨earlier, later, one, two, less⟩
  refine ⟨earlier, later, ?_, ?_, less⟩
  · rw [firstStored?_removed first_ne, one]
  · rw [firstStored?_removed second_ne, two]

end History

/-! ## The invariant -/

/-- Metadata that is what has happened to its names. -/
structure Recounts (metadata : Metadata) (events : List Event) : Prop where
  get?_eq (key : String) : metadata.get? key = lastStored? key events
  ordered : metadata.keys.Pairwise (Before events)

def happen (metadata : Metadata) : Event → Metadata
  | .stored key value => metadata.insert key value
  | .removed key => metadata.erase key

section Steps

variable {metadata : Metadata} {events : List Event}

theorem Recounts.isSome_firstStored? (recounts : metadata.Recounts events) {key : String} :
    (firstStored? key events).isSome ↔ key ∈ metadata.keys := by
  rw [Metadata.isSome_firstStored?, mem_keys_iff, recounts.get?_eq]

theorem Recounts.stored (recounts : metadata.Recounts events) (key : String)
    (value : MetaValue) :
    (metadata.insert key value).Recounts (events ++ [.stored key value]) where
  get?_eq wanted := by
    rw [get?_insert, lastStored?_stored, recounts.get?_eq]
  ordered := by
    have kept := recounts.ordered.imp fun before => before.stored key value
    rw [keys_insert]
    split
    · exact kept
    · next absent =>
      rw [List.pairwise_append]
      refine ⟨kept, List.pairwise_singleton _ _, fun first member second last => ?_⟩
      rw [List.mem_singleton] at last
      rcases Option.isSome_iff_exists.mp (recounts.isSome_firstStored?.mpr member) with
        ⟨place, found⟩
      have fresh : firstStored? key events = none := by
        rw [← Option.not_isSome_iff_eq_none, recounts.isSome_firstStored?]
        exact absent
      refine ⟨place, events.length, ?_, ?_, firstStored?_lt found⟩
      · rw [firstStored?_stored, found, Option.some_or]
      · rw [last, firstStored?_stored, fresh, if_pos rfl, Option.none_or]

theorem Recounts.removed (recounts : metadata.Recounts events) (key : String) :
    (metadata.erase key).Recounts (events ++ [.removed key]) where
  get?_eq wanted := by
    rw [get?_erase, lastStored?_removed, recounts.get?_eq]
  ordered := by
    rw [keys_erase]
    refine (recounts.ordered.filter _).imp_of_mem fun first second before => ?_
    rw [List.mem_filter, decide_eq_true_eq] at first second
    exact before.removed first.2 second.2

theorem Recounts.happen (recounts : metadata.Recounts events) (event : Event) :
    (metadata.happen event).Recounts (events ++ [event]) := by
  cases event with
  | stored key value => exact recounts.stored key value
  | removed key => exact recounts.removed key

end Steps

theorem recounts_empty : empty.Recounts [] where
  get?_eq _ := rfl
  ordered := List.Pairwise.nil

theorem recounts_foldl_happen (events : List Event) :
    (events.foldl happen empty).Recounts events := by
  induction events using List.reverseRecOn with
  | nil => exact recounts_empty
  | append_singleton events event induction =>
      rw [List.foldl_append]
      exact induction.happen event

theorem insertAll_eq (metadata : Metadata) (entries : List (String × MetaValue)) :
    metadata.insertAll entries = (storing entries).foldl happen metadata := by
  rw [storing, List.foldl_map]
  rfl

/-- Every call is a list of events, or begins anew with one. -/
theorem after_foldl_happen (events : List Event) (call : Call) :
    (events.foldl happen empty).after call = (call.extend events).foldl happen empty := by
  cases call with
  | insert key value => rw [Call.extend, List.foldl_append]; rfl
  | merge other => rw [Call.extend, List.foldl_append, ← insertAll_eq]; rfl
  | remove key => rw [Call.extend, List.foldl_append, after, remove_eq]; rfl
  | ofList entries => exact insertAll_eq empty entries
  | parse text =>
      rw [after, parse?_eq, Call.extend]
      cases entriesOfText? text with
      | none => rfl
      | some entries => exact insertAll_eq empty entries

theorem afterAll_eq (calls : List Call) :
    afterAll calls = (history calls).foldl happen empty := by
  induction calls using List.reverseRecOn with
  | nil => rfl
  | append_singleton calls call induction =>
      rw [afterAll_concat, induction, after_foldl_happen, history, history, List.foldl_append]
      rfl

/-! ## Metadata as an ordered map -/

/-- What the operations make of the entries, and what they answer. -/
structure OrderedMap (metadata : Metadata) : Prop where
  /-- A value is replaced where it stands, and a new name comes last. -/
  insert_eq (key : String) (value : MetaValue) :
    (metadata.insert key value).entries = setEntry key value metadata.entries
  removed_eq (key : String) : (metadata.remove key).1 = metadata.get? key
  remaining_eq (key : String) :
    (metadata.remove key).2.entries = metadata.entries.filter fun entry => entry.1 ≠ key
  keys_merge_eq (other : Metadata) :
    (metadata.merge other).keys = metadata.keys ++ other.keys.filter (· ∉ metadata.keys)
  get?_merge_eq (other : Metadata) (key : String) :
    (metadata.merge other).get? key = (other.get? key).or (metadata.get? key)
  merge_twice (other : Metadata) : (metadata.merge other).merge other = metadata.merge other
  ofList_toList_eq : ofList metadata.toList = metadata

theorem orderedMap (metadata : Metadata) : metadata.OrderedMap where
  insert_eq := metadata.entries_insert
  removed_eq key := congrArg Prod.fst (metadata.remove_eq key)
  remaining_eq key := by
    rw [remove_eq]
    exact metadata.entries_erase key
  keys_merge_eq := metadata.keys_merge
  get?_merge_eq := metadata.get?_merge
  merge_twice := metadata.merge_merge_self
  ofList_toList_eq := metadata.ofList_toList

/-- Calls on a plain list of pairs keep its names distinct. What they come to is told by the history
of each name alone, and every further operation treats it as an ordered map. -/
theorem calls_recounted (calls : List Call) :
    let pairs := calls.foldl Call.perform []
    (pairs.map Prod.fst).Nodup ∧ (afterAll calls).toList = pairs ∧
      (afterAll calls).Recounts (history calls) ∧ (afterAll calls).OrderedMap := by
  intro pairs
  have same : pairs = (afterAll calls).entries := foldl_perform_eq calls
  refine ⟨?_, same.symm, ?_, orderedMap _⟩
  · rw [same]
    exact (afterAll calls).keys_nodup
  · rw [afterAll_eq]
    exact recounts_foldl_happen (history calls)

example :
    let calls : List Call := [
      .insert "a" (.int 1), .insert "b" (.int 2), .insert "a" (.int 3), .remove "a",
      .merge (ofList [("b", .int 5), ("a", .bytes [])])]
    (afterAll calls).toList = [("b", .int 5), ("a", .bytes [])] ∧
      firstStored? "b" (history calls) = some 1 ∧ firstStored? "a" (history calls) = some 5 := by
  decide +kernel

end Metadata

end PacketFraming
