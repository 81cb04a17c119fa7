import Relint.Rule.Map
import Relint.Proofs.Assoc.Combined
import Mathlib.Data.Finset.Card
import Mathlib.Data.List.Nodup
import Std.Data.HashMap.Lemmas

/-!
Rule maps as ordered records. The index of a map that was built by insertion
points each name to its entry and no other name to any, so that the entries of the
map are what the same insertions make of a plain list of entries. A map so records the
insertions that made it: its names stand in the order in which they first came up, and under
each name the settings that were inserted last are found.
-/

namespace Relint

namespace RuleMap

variable {m : RuleMap} {name : String} {settings : RuleSettings}

/-- The index has exactly the names of the entries, each with the position of the
entry that bears it. -/
def WellIndexed (m : RuleMap) : Prop :=
  ∀ (name : String) (position : Nat),
    m.index[name]? = some position ↔ m.keys[position]? = some name

theorem keys_eq (m : RuleMap) : m.keys = Assoc.keys m.toList :=
  rfl

theorem wellIndexed_empty : empty.WellIndexed := by
  intro name position
  simp [empty, keys, toList]

/-- A name has one position at most. -/
theorem WellIndexed.unique (h : m.WellIndexed) {first second : Nat}
    (hfirst : m.keys[first]? = some name) (hsecond : m.keys[second]? = some name) :
    first = second := by
  have hsame := ((h name first).mpr hfirst).symm.trans ((h name second).mpr hsecond)
  exact Option.some.inj hsame

theorem WellIndexed.not_mem_keys (h : m.WellIndexed) (hnone : m.index[name]? = none) :
    name ∉ m.keys := by
  intro hmem
  obtain ⟨position, hposition⟩ := List.mem_iff_getElem?.mp hmem
  rw [← h name position, hnone] at hposition
  cases hposition

/-- No two entries have the same name. -/
theorem WellIndexed.nodup_keys (h : m.WellIndexed) : m.keys.Nodup := by
  rw [List.nodup_iff_getElem?_ne_getElem?]
  intro first second hlt hlength hsame
  have hname := List.getElem?_eq_getElem hlength
  have heq := h.unique (hsame.trans hname) hname
  omega

/-- Looking up a rule through the index finds the entry of that name. -/
theorem get?_eq_lookup (h : m.WellIndexed) (name : String) :
    m.get? name = m.toList.lookup name := by
  unfold get?
  cases hindex : m.index[name]? with
  | none =>
      have hnone := Assoc.lookup_eq_none_iff_not_mem_keys.mpr (h.not_mem_keys hindex)
      rw [Option.bind_none, hnone]
  | some position =>
      have hkey := (h name position).mp hindex
      rw [keys, List.getElem?_map, Option.map_eq_some_iff] at hkey
      obtain ⟨⟨_, settings⟩, hentry, rfl⟩ := hkey
      have hfound := (Assoc.lookup_eq_some_iff_mem h.nodup_keys).mpr (List.mem_of_getElem? hentry)
      rw [hfound, Option.bind_some, ← Array.getElem?_toList]
      exact congrArg _ hentry

/-- Setting a rule in the map is writing an entry of the plain list. -/
theorem toList_insert (h : m.WellIndexed) (name : String) (settings : RuleSettings) :
    (m.insert name settings).toList = Assoc.insert name settings m.toList := by
  unfold insert
  split
  · rename_i position hposition
    have hkey := (h name position).mp hposition
    have hset : Assoc.insert name settings m.toList = m.toList.set position (name, settings) := by
      apply Assoc.insert_eq_set hkey
      intro earlier hearlier heq
      have hsame := h.unique heq hkey
      omega
    simpa [toList] using hset.symm
  · rename_i hnone
    have happend : Assoc.insert name settings m.toList = m.toList ++ [(name, settings)] :=
      Assoc.insert_of_not_mem (h.not_mem_keys hnone)
    simpa [toList] using happend.symm

theorem wellIndexed_insert (h : m.WellIndexed) (name : String) (settings : RuleSettings) :
    (m.insert name settings).WellIndexed := by
  intro name' position
  rw [keys_eq, toList_insert h, Assoc.keys_insert, ← keys_eq]
  unfold insert
  split
  · rename_i old hold
    have hmem : name ∈ m.keys := List.mem_of_getElem? ((h name old).mp hold)
    rw [if_pos hmem]
    exact h name' position
  · rename_i hnone
    have hfresh := h.not_mem_keys hnone
    have hsize : m.entries.size = m.keys.length := by simp [keys, toList]
    rw [if_neg hfresh, Std.HashMap.getElem?_insert, hsize]
    by_cases hname : name = name'
    · subst hname
      have hlast : (m.keys ++ [name])[position]? = some name ↔ position = m.keys.length := by
        rw [List.getElem?_append]
        split
        · rename_i hlt
          constructor
          · intro hold
            exact absurd (List.mem_of_getElem? hold) hfresh
          · intro heq
            omega
        · rename_i hge
          rw [List.getElem?_singleton]
          split
          · simp
            omega
          · simp
            omega
      simp [hlast, eq_comm]
    · have hne : (name == name') = false := by simpa using hname
      rw [hne]
      simp only [Bool.false_eq_true, ↓reduceIte, h name' position]
      rw [List.getElem?_append]
      split
      · rfl
      · rename_i hge
        have hbeyond : m.keys[position]? = none := by
          rw [List.getElem?_eq_none_iff]
          omega
        rw [hbeyond, List.getElem?_singleton]
        split
        · simp [hname]
        · rfl

theorem wellIndexed_insertAll (h : m.WellIndexed) (entries : List (String × RuleSettings)) :
    (m.insertAll entries).WellIndexed := by
  induction entries generalizing m with
  | nil => exact h
  | cons entry rest ih => exact ih (wellIndexed_insert h entry.1 entry.2)

theorem toList_insertAll (h : m.WellIndexed) (entries : List (String × RuleSettings)) :
    (m.insertAll entries).toList = Assoc.insertAll m.toList entries := by
  induction entries generalizing m with
  | nil => rfl
  | cons entry rest ih =>
      rw [Assoc.insertAll_cons, ← toList_insert h]
      exact ih (wellIndexed_insert h entry.1 entry.2)

theorem wellIndexed_ofList (entries : List (String × RuleSettings)) :
    (ofList entries).WellIndexed :=
  wellIndexed_insertAll wellIndexed_empty entries

/-- The map of some rules has the entries of the plain record of these rules. -/
theorem toList_ofList (entries : List (String × RuleSettings)) :
    (ofList entries).toList = Assoc.ofEntries entries :=
  toList_insertAll wellIndexed_empty entries

theorem keys_ofList (entries : List (String × RuleSettings)) :
    (ofList entries).keys = (Assoc.keys entries).eraseDups := by
  rw [keys_eq, toList_ofList, Assoc.keys_ofEntries, distinct_eq_eraseDups]

theorem get?_ofList (entries : List (String × RuleSettings)) (name : String) :
    (ofList entries).get? name = entries.reverse.lookup name := by
  rw [get?_eq_lookup (wellIndexed_ofList entries), toList_ofList, Assoc.lookup_ofEntries]

/-- A name leads to the entry that bears it, so no position is out of range. -/
theorem WellIndexed.entry_iff (h : m.WellIndexed) {position : Nat} :
    m.index[name]? = some position ↔
      ∃ settings, m.entries[position]? = some (name, settings) := by
  rw [h name position, keys, toList, List.getElem?_map, Array.getElem?_toList,
    Option.map_eq_some_iff]
  constructor
  · rintro ⟨⟨_, settings⟩, hentry, rfl⟩
    exact ⟨settings, hentry⟩
  · rintro ⟨settings, hentry⟩
    exact ⟨(name, settings), hentry, rfl⟩

/-- What a map shows of the insertions that made it. -/
structure Records (m : RuleMap) (inserted : List (String × RuleSettings)) : Prop where
  nodup_keys : m.keys.Nodup
  index_iff : ∀ (name : String) (position : Nat),
    m.index[name]? = some position ↔
      ∃ settings, m.entries[position]? = some (name, settings)
  keys_eq : m.keys = (Assoc.keys inserted).eraseDups
  get?_eq : ∀ name, m.get? name = inserted.reverse.lookup name
  get?_eq_none_iff : ∀ name, m.get? name = none ↔ name ∉ Assoc.keys inserted
  size_eq : m.size = (Assoc.keys inserted).toFinset.card

/-- Every map that is made by insertions records them: no name has two entries, the index
has exactly the positions of the names, the names come in the order of their first
insertions and as many as there are different ones, and the settings found under a name are
those of its last insertion. -/
theorem ofList_records (inserted : List (String × RuleSettings)) :
    (ofList inserted).Records inserted where
  nodup_keys := (wellIndexed_ofList inserted).nodup_keys
  index_iff := fun _ _ => (wellIndexed_ofList inserted).entry_iff
  keys_eq := keys_ofList inserted
  get?_eq := get?_ofList inserted
  get?_eq_none_iff := by
    intro name
    rw [get?_ofList, Assoc.lookup_eq_none_iff_not_mem_keys, Assoc.keys, List.map_reverse,
      List.mem_reverse, Assoc.keys]
  size_eq := by
    have hnames : (ofList inserted).keys.toFinset = (Assoc.keys inserted).toFinset := by
      ext name
      rw [keys_ofList, List.mem_toFinset, List.mem_toFinset, List.mem_eraseDups]
    rw [← hnames, List.toFinset_card_of_nodup (wellIndexed_ofList inserted).nodup_keys]
    simp [size, keys, toList]

end RuleMap

end Relint
