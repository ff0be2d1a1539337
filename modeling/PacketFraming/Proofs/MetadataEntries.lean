import PacketFraming.Metadata.Basic

/-! Metadata by its entries.

Every operation is told by what it does to the list of entries, and metadata is determined by its
names in order and by the value of each. -/

namespace PacketFraming

namespace Metadata

/-! ## Single entries -/

/-- Entries in which the value of a name is replaced where it stands, or to which the name is
added at the end. -/
def setEntry (key : String) (value : MetaValue) (entries : List (String × MetaValue)) :
    List (String × MetaValue) :=
  if key ∈ entries.map Prod.fst then
    entries.map fun entry => if entry.1 = key then (key, value) else entry
  else entries ++ [(key, value)]

theorem insertEntry_eq_setEntry (key : String) (value : MetaValue)
    {entries : List (String × MetaValue)} (distinct : (entries.map Prod.fst).Nodup) :
    insertEntry key value entries = setEntry key value entries := by
  induction entries with
  | nil => rfl
  | cons entry rest induction =>
      rcases List.nodup_cons.mp distinct with ⟨once, others⟩
      by_cases found : entry.1 = key
      · have same : rest.map (fun entry => if entry.1 = key then (key, value) else entry) =
            rest := by
          have kept : ∀ other ∈ rest, (if other.1 = key then (key, value) else other) = other := by
            intro other member
            apply if_neg
            intro equal
            exact once (found.trans equal.symm ▸ List.mem_map_of_mem member)
          exact (List.map_congr_left kept).trans (List.map_id rest)
        have present : key ∈ (entry :: rest).map Prod.fst := by simp [found]
        rw [insertEntry, if_pos found, setEntry, if_pos present, List.map_cons, if_pos found, same]
      · have further : key ∈ (entry :: rest).map Prod.fst ↔ key ∈ rest.map Prod.fst := by
          simp [Ne.symm found]
        rw [insertEntry, if_neg found, induction others, setEntry, setEntry]
        by_cases present : key ∈ rest.map Prod.fst
        · rw [if_pos present, if_pos (further.mpr present), List.map_cons, if_neg found]
        · rw [if_neg present, if_neg (mt further.mp present), List.cons_append]

theorem entries_insert (metadata : Metadata) (key : String) (value : MetaValue) :
    (metadata.insert key value).entries = setEntry key value metadata.entries :=
  insertEntry_eq_setEntry key value metadata.keys_nodup

section Lists

variable {entries : List (String × MetaValue)}

theorem mem_map_fst_iff (key : String) (entries : List (String × MetaValue)) :
    key ∈ entries.map Prod.fst ↔ (valueOf? key entries).isSome := by
  induction entries with
  | nil => simp [valueOf?]
  | cons entry rest induction =>
      by_cases found : entry.1 = key
      · simp [valueOf?, found]
      · rw [List.map_cons, List.mem_cons, induction, valueOf?, if_neg found]
        exact or_iff_right (Ne.symm found)

theorem eraseP_eq_filter (key : String) (distinct : (entries.map Prod.fst).Nodup) :
    entries.eraseP (fun entry => entry.1 == key) = entries.filter fun entry => entry.1 ≠ key := by
  induction entries with
  | nil => rfl
  | cons entry rest induction =>
      rcases List.nodup_cons.mp distinct with ⟨once, others⟩
      by_cases found : entry.1 = key
      · have kept : rest.filter (fun entry => entry.1 ≠ key) = rest := by
          rw [List.filter_eq_self]
          intro other member
          have apart : other.1 ≠ key := fun equal =>
            once (found.trans equal.symm ▸ List.mem_map_of_mem member)
          simp [apart]
        rw [List.eraseP_cons_of_pos (by simp [found]), List.filter_cons_of_neg (by simp [found]),
          kept]
      · rw [List.eraseP_cons_of_neg (by simp [found]), List.filter_cons_of_pos (by simp [found]),
          induction others]

theorem valueOf?_filter (key wanted : String) (entries : List (String × MetaValue)) :
    valueOf? wanted (entries.filter fun entry => entry.1 ≠ key) =
      if wanted = key then none else valueOf? wanted entries := by
  induction entries with
  | nil => simp [valueOf?]
  | cons entry rest induction =>
      by_cases found : entry.1 = key
      · rw [List.filter_cons_of_neg (by simp [found]), induction, valueOf?, found]
        split
        · rfl
        · next apart => rw [if_neg (Ne.symm apart)]
      · rw [List.filter_cons_of_pos (by simp [found]), valueOf?, valueOf?, induction]
        by_cases here : entry.1 = wanted
        · rw [if_pos here, if_pos here, if_neg (here ▸ found)]
        · rw [if_neg here, if_neg here]

/-- The first entry with a name has its value, and taking it out by place is taking it out by
name. -/
theorem findIdx?_cases (key : String) (entries : List (String × MetaValue)) :
    match entries.findIdx? fun entry => entry.1 == key with
    | some index =>
        entries[index]?.map Prod.snd = valueOf? key entries ∧
          entries.eraseIdx index = entries.eraseP fun entry => entry.1 == key
    | none =>
        valueOf? key entries = none ∧ entries.eraseP (fun entry => entry.1 == key) = entries := by
  induction entries with
  | nil => exact ⟨rfl, rfl⟩
  | cons entry rest induction =>
      rw [List.findIdx?_cons]
      by_cases found : entry.1 = key
      · rw [if_pos (by simp [found]), List.eraseP_cons_of_pos (by simp [found]), valueOf?,
          if_pos found]
        exact ⟨rfl, rfl⟩
      · rw [if_neg (by simp [found]), List.eraseP_cons_of_neg (by simp [found]), valueOf?,
          if_neg found]
        cases place : rest.findIdx? fun entry => entry.1 == key with
        | none =>
            rw [place] at induction
            exact ⟨induction.1, congrArg (entry :: ·) induction.2⟩
        | some index =>
            rw [place] at induction
            exact ⟨induction.1, congrArg (entry :: ·) induction.2⟩

theorem map_valueOf? (distinct : (entries.map Prod.fst).Nodup) :
    (entries.map Prod.fst).map (fun key => (key, (valueOf? key entries).getD default)) =
      entries := by
  induction entries with
  | nil => rfl
  | cons entry rest induction =>
      rcases List.nodup_cons.mp distinct with ⟨once, others⟩
      have own : (valueOf? entry.1 (entry :: rest)).getD default = entry.2 := by
        rw [valueOf?, if_pos rfl]
        rfl
      have further : (rest.map Prod.fst).map
            (fun key => (key, (valueOf? key (entry :: rest)).getD default)) =
          (rest.map Prod.fst).map (fun key => (key, (valueOf? key rest).getD default)) := by
        apply List.map_congr_left
        intro key member
        have apart : entry.1 ≠ key := fun equal => once (equal ▸ member)
        rw [valueOf?, if_neg apart]
      rw [List.map_cons, List.map_cons, own, further, induction others]

end Lists

/-! ## Operations -/

theorem mem_keys_iff (metadata : Metadata) (key : String) :
    key ∈ metadata.keys ↔ (metadata.get? key).isSome :=
  mem_map_fst_iff key metadata.entries

theorem entries_erase (metadata : Metadata) (key : String) :
    (metadata.erase key).entries = metadata.entries.filter fun entry => entry.1 ≠ key :=
  eraseP_eq_filter key metadata.keys_nodup

theorem keys_erase (metadata : Metadata) (key : String) :
    (metadata.erase key).keys = metadata.keys.filter (· ≠ key) := by
  rw [keys, entries_erase, keys, List.filter_map]
  rfl

theorem get?_erase (metadata : Metadata) (key wanted : String) :
    (metadata.erase key).get? wanted = if wanted = key then none else metadata.get? wanted := by
  rw [get?, entries_erase, valueOf?_filter, get?]

theorem remove_eq (metadata : Metadata) (key : String) :
    metadata.remove key = (metadata.get? key, metadata.erase key) := by
  have found := findIdx?_cases key metadata.entries
  unfold remove
  split
  · next index place =>
    rw [place] at found
    rw [found.1]
    refine Prod.ext rfl ?_
    simp only [erase, found.2]
  · next place =>
    rw [place] at found
    rw [get?, found.1]
    refine Prod.ext rfl ?_
    simp only [erase, found.2]

theorem eq_of_keys_of_get? {first second : Metadata} (keys_eq : first.keys = second.keys)
    (get?_eq : ∀ key, first.get? key = second.get? key) : first = second := by
  have same : first.entries = second.entries := by
    rw [← map_valueOf? first.keys_nodup, ← map_valueOf? second.keys_nodup]
    change first.keys.map (fun key => (key, (first.get? key).getD default)) =
      second.keys.map (fun key => (key, (second.get? key).getD default))
    rw [keys_eq, funext get?_eq]
  cases first
  cases second
  cases same
  rfl

theorem get?_insert (metadata : Metadata) (key : String) (value : MetaValue) (wanted : String) :
    (metadata.insert key value).get? wanted =
      if wanted = key then some value else metadata.get? wanted :=
  valueOf?_insertEntry key value metadata.entries wanted

/-! ## Many entries -/

section Many

variable {entries : List (String × MetaValue)}

theorem get?_insertAll (metadata : Metadata) (distinct : (entries.map Prod.fst).Nodup)
    (key : String) :
    (metadata.insertAll entries).get? key = (valueOf? key entries).or (metadata.get? key) := by
  induction entries generalizing metadata with
  | nil => rfl
  | cons entry rest induction =>
      rcases List.nodup_cons.mp distinct with ⟨once, others⟩
      have first : (metadata.insertAll (entry :: rest)).get? key =
          ((metadata.insert entry.1 entry.2).insertAll rest).get? key := rfl
      rw [first, induction _ others, get?_insert, valueOf?]
      by_cases own : key = entry.1
      · have absent : valueOf? entry.1 rest = none := by
          rw [← Option.not_isSome_iff_eq_none, ← mem_map_fst_iff]
          exact once
        rw [if_pos own, if_pos own.symm, own, absent]
        rfl
      · rw [if_neg own, if_neg (Ne.symm own)]

theorem keys_insertAll (metadata : Metadata) (distinct : (entries.map Prod.fst).Nodup) :
    (metadata.insertAll entries).keys =
      metadata.keys ++ (entries.map Prod.fst).filter (· ∉ metadata.keys) := by
  induction entries generalizing metadata with
  | nil => exact (List.append_nil _).symm
  | cons entry rest induction =>
      rcases List.nodup_cons.mp distinct with ⟨once, others⟩
      have first : (metadata.insertAll (entry :: rest)).keys =
          ((metadata.insert entry.1 entry.2).insertAll rest).keys := rfl
      rw [first, induction _ others, keys_insert, List.map_cons]
      by_cases present : entry.1 ∈ metadata.keys
      · rw [if_pos present, List.filter_cons_of_neg (by simp [present])]
      · have same : (rest.map Prod.fst).filter (· ∉ metadata.keys ++ [entry.1]) =
            (rest.map Prod.fst).filter (· ∉ metadata.keys) := by
          apply List.filter_congr
          intro key member
          have apart : key ≠ entry.1 := fun equal => once (equal ▸ member)
          simp [apart]
        rw [if_neg present, List.filter_cons_of_pos (by simp [present]), same, List.append_assoc]
        rfl

end Many

theorem get?_merge (metadata other : Metadata) (key : String) :
    (metadata.merge other).get? key = (other.get? key).or (metadata.get? key) :=
  get?_insertAll metadata other.keys_nodup key

theorem keys_merge (metadata other : Metadata) :
    (metadata.merge other).keys =
      metadata.keys ++ other.keys.filter (· ∉ metadata.keys) :=
  keys_insertAll metadata other.keys_nodup

theorem merge_merge_self (metadata other : Metadata) :
    (metadata.merge other).merge other = metadata.merge other := by
  apply eq_of_keys_of_get?
  · have nothing : other.keys.filter (· ∉ (metadata.merge other).keys) = [] := by
      rw [List.filter_eq_nil_iff, keys_merge]
      intro key member
      by_cases present : key ∈ metadata.keys <;> simp [member, present]
    rw [keys_merge, nothing, List.append_nil]
  · intro key
    rw [get?_merge, get?_merge, ← Option.or_assoc, Option.or_self]

theorem ofList_toList (metadata : Metadata) : ofList metadata.toList = metadata := by
  apply eq_of_keys_of_get?
  · have all : metadata.keys.filter (· ∉ empty.keys) = metadata.keys :=
      List.filter_eq_self.mpr fun key _ => rfl
    exact (keys_insertAll empty metadata.keys_nodup).trans all
  · intro key
    exact (get?_insertAll empty metadata.keys_nodup key).trans Option.or_none

end Metadata

end PacketFraming
