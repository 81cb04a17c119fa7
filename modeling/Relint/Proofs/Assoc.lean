import Relint.Assoc
import Mathlib.Data.List.Nodup

/-!
Writing entries of an ordered record. An entry that is written keeps or gets its
place by its name alone, so the names after a sequence of writes are those before
and those written, and writing an entry a second time changes nothing.
-/

namespace Relint

namespace Assoc

variable {α : Type} {key : String} {value : α} {entries additions : List (String × α)}

@[simp] theorem keys_nil : keys ([] : List (String × α)) = [] :=
  rfl

@[simp] theorem keys_cons (entry : String × α) (rest : List (String × α)) :
    keys (entry :: rest) = entry.1 :: keys rest :=
  rfl

@[simp] theorem keys_append (first second : List (String × α)) :
    keys (first ++ second) = keys first ++ keys second :=
  List.map_append

theorem contains_iff_mem_keys : contains entries key = true ↔ key ∈ keys entries := by
  simp only [contains, List.lookup_isSome_iff, keys, List.mem_map, beq_iff_eq]
  constructor
  · rintro ⟨entry, hentry, rfl⟩
    exact ⟨entry, hentry, rfl⟩
  · rintro ⟨entry, hentry, rfl⟩
    exact ⟨entry, hentry, rfl⟩

theorem mem_of_lookup (h : entries.lookup key = some value) : (key, value) ∈ entries := by
  obtain ⟨before, after, hentries, _⟩ := List.lookup_eq_some_iff.mp h
  rw [hentries]
  simp

theorem lookup_eq_none_iff_not_mem_keys : entries.lookup key = none ↔ key ∉ keys entries := by
  rw [← contains_iff_mem_keys, contains]
  cases entries.lookup key <;> simp

/-- Where no name occurs twice, an entry is the one that is found under its name. -/
theorem lookup_eq_some_iff_mem (h : (keys entries).Nodup) :
    entries.lookup key = some value ↔ (key, value) ∈ entries := by
  refine ⟨mem_of_lookup, ?_⟩
  intro hmem
  induction entries with
  | nil => exact absurd hmem List.not_mem_nil
  | cons entry rest ih =>
      obtain ⟨hfresh, hrest⟩ := List.nodup_cons.mp h
      rcases List.mem_cons.mp hmem with rfl | hmem
      · simp
      · have hne : key ≠ entry.1 := by
          intro heq
          exact hfresh (List.mem_map.mpr ⟨(key, value), hmem, heq⟩)
        rw [List.lookup_cons, beq_false_of_ne hne]
        exact ih hrest hmem

theorem eq_of_mem_of_mem {other : α} (h : (keys entries).Nodup) (hvalue : (key, value) ∈ entries)
    (hother : (key, other) ∈ entries) : value = other := by
  rw [← lookup_eq_some_iff_mem h] at hvalue hother
  exact Option.some.inj (hvalue.symm.trans hother)

/-- Where no name occurs twice, what is found under the names does not depend on the order
of the entries. -/
theorem lookup_eq_of_perm {others : List (String × α)} (h : (keys entries).Nodup)
    (hperm : entries.Perm others) (key : String) : entries.lookup key = others.lookup key := by
  have hothers : (keys others).Nodup := (hperm.map _).nodup_iff.mp h
  apply Option.ext
  intro value
  rw [lookup_eq_some_iff_mem h, lookup_eq_some_iff_mem hothers, hperm.mem_iff]

/-- Records without repeated names have the same entries if the same is found in both. -/
theorem perm_of_lookup_eq {others : List (String × α)} (h : (keys entries).Nodup)
    (hothers : (keys others).Nodup)
    (hlookup : ∀ key, entries.lookup key = others.lookup key) : entries.Perm others := by
  rw [List.perm_ext_iff_of_nodup (List.Nodup.of_map _ h) (List.Nodup.of_map _ hothers)]
  rintro ⟨key, value⟩
  rw [← lookup_eq_some_iff_mem h, ← lookup_eq_some_iff_mem hothers, hlookup key]

theorem lookup_map_snd {β : Type} (f : α → β) :
    (entries.map fun entry => (entry.1, f entry.2)).lookup key = (entries.lookup key).map f := by
  induction entries with
  | nil => rfl
  | cons entry rest ih =>
      rw [List.map_cons, List.lookup_cons, List.lookup_cons, ih]
      cases key == entry.1 <;> rfl

/-- A name that is present keeps its place, and a new one comes last. -/
theorem keys_insert (key : String) (value : α) (entries : List (String × α)) :
    keys (insert key value entries) =
      if key ∈ keys entries then keys entries else keys entries ++ [key] := by
  induction entries with
  | nil => simp [insert]
  | cons entry rest ih =>
      obtain ⟨name, old⟩ := entry
      rw [insert]
      by_cases hname : name = key
      · simp [hname]
      · have hne : ¬key = name := fun heq => hname heq.symm
        by_cases hrest : key ∈ keys rest
        · simp [hname, ih, hrest]
        · simp [hname, ih, hrest, hne]

theorem mem_keys_insert {name : String} :
    name ∈ keys (insert key value entries) ↔ name = key ∨ name ∈ keys entries := by
  rw [keys_insert]
  split
  · rename_i hpresent
    constructor
    · exact Or.inr
    · rintro (rfl | hmem)
      · exact hpresent
      · exact hmem
  · simp [or_comm]

/-- A new entry is written behind the others. -/
theorem insert_of_not_mem (h : key ∉ keys entries) :
    insert key value entries = entries ++ [(key, value)] := by
  induction entries with
  | nil => rfl
  | cons entry rest ih =>
      obtain ⟨name, old⟩ := entry
      simp only [keys_cons, List.mem_cons, not_or] at h
      have hname : ¬name = key := fun heq => h.1 heq.symm
      rw [insert, if_neg hname, ih h.2, List.cons_append]

/-- Leaving out entries by their names leaves the others to be found. -/
theorem lookup_filter_key (p : String → Bool) (entries : List (String × α)) :
    (entries.filter fun entry => p entry.1).lookup key =
      if p key then entries.lookup key else none := by
  induction entries with
  | nil => simp
  | cons entry rest ih =>
      obtain ⟨name, old⟩ := entry
      by_cases hkey : key = name
      · subst hkey
        cases hp : p key <;> simp [hp, ih]
      · have hne : (key == name) = false := beq_false_of_ne hkey
        cases hp : p name <;> simp [hp, ih, List.lookup_cons, hne]

@[simp] theorem lookup_insert_self (key : String) (value : α) (entries : List (String × α)) :
    (insert key value entries).lookup key = some value := by
  induction entries with
  | nil => simp [insert]
  | cons entry rest ih =>
      obtain ⟨name, old⟩ := entry
      by_cases hname : name = key
      · simp [insert, hname]
      · have hne : (key == name) = false := beq_false_of_ne fun heq => hname heq.symm
        rw [insert, if_neg hname, List.lookup_cons, hne]
        exact ih

theorem lookup_insert_of_ne {name : String} (h : name ≠ key) :
    (insert key value entries).lookup name = entries.lookup name := by
  induction entries with
  | nil => simp [insert, h]
  | cons entry rest ih =>
      obtain ⟨name', old⟩ := entry
      by_cases hname : name' = key
      · simp [insert, hname, List.lookup_cons, beq_false_of_ne h]
      · simp [insert, hname, List.lookup_cons, ih]

/-- Nothing but the writing of an entry that is found already changes nothing. -/
theorem insert_eq_self_iff :
    insert key value entries = entries ↔ entries.lookup key = some value := by
  constructor
  · intro h
    rw [← h, lookup_insert_self]
  · intro h
    induction entries with
    | nil => cases h
    | cons entry rest ih =>
        obtain ⟨name, old⟩ := entry
        by_cases hname : name = key
        · subst hname
          simp only [List.lookup_cons, beq_self_eq_true, Option.some.injEq] at h
          simp [insert, h]
        · have hne : (key == name) = false := beq_false_of_ne fun heq => hname heq.symm
          rw [List.lookup_cons, hne] at h
          rw [insert, if_neg hname, ih h]

/-- The second of two equal writes finds its own entry and puts it back. -/
theorem insert_insert_self (key : String) (value : α) (entries : List (String × α)) :
    insert key value (insert key value entries) = insert key value entries :=
  insert_eq_self_iff.mpr (lookup_insert_self key value entries)

theorem length_insert_of_mem (h : key ∈ keys entries) :
    (insert key value entries).length = entries.length := by
  have hkeys : (keys (insert key value entries)).length = (keys entries).length := by
    rw [keys_insert, if_pos h]
  simpa [keys] using hkeys

/-- An entry is written in the first of two records that has its name, and else behind
both. -/
theorem insert_append (first second : List (String × α)) :
    insert key value (first ++ second) =
      if key ∈ keys first then insert key value first ++ second
      else first ++ insert key value second := by
  induction first with
  | nil => simp
  | cons entry rest ih =>
      obtain ⟨name, old⟩ := entry
      by_cases hname : name = key
      · simp [insert, hname]
      · have hne : ¬key = name := fun heq => hname heq.symm
        by_cases hrest : key ∈ keys rest
        · simp [insert, hname, ih, hrest]
        · simp [insert, hname, ih, hrest, hne]

/-- Writing an entry leaves those alone that are picked by another name. -/
theorem filter_insert_of_not {p : String → Bool} (h : p key = false) (value : α)
    (entries : List (String × α)) :
    (insert key value entries).filter (fun entry => p entry.1) =
      entries.filter fun entry => p entry.1 := by
  induction entries with
  | nil => simp [insert, h]
  | cons entry rest ih =>
      obtain ⟨name, old⟩ := entry
      by_cases hname : name = key
      · subst hname
        simp [insert, h]
      · rw [insert, if_neg hname, List.filter_cons, List.filter_cons, ih]

/-- Writing an entry leaves those of other names alone. -/
theorem filter_insert_ne (key : String) (value : α) (entries : List (String × α)) :
    (insert key value entries).filter (·.1 != key) = entries.filter (·.1 != key) :=
  filter_insert_of_not (p := (· != key)) (by simp) value entries

/-- An entry that is present is replaced at the first position that has its name. -/
theorem insert_eq_set {position : Nat} (hposition : (keys entries)[position]? = some key)
    (hfirst : ∀ earlier < position, (keys entries)[earlier]? ≠ some key) :
    insert key value entries = entries.set position (key, value) := by
  induction entries generalizing position with
  | nil => simp at hposition
  | cons entry rest ih =>
      obtain ⟨name, old⟩ := entry
      cases position with
      | zero =>
          have hname : name = key := by simpa using hposition
          simp [insert, hname]
      | succ position =>
          have hname : ¬name = key := by
            intro heq
            exact hfirst 0 (Nat.succ_pos _) (by simp [heq])
          have hrest : insert key value rest = rest.set position (key, value) := by
            apply ih
            · simpa using hposition
            · intro earlier hearlier
              simpa using hfirst (earlier + 1) (Nat.succ_lt_succ hearlier)
          rw [insert, if_neg hname, hrest, List.set_cons_succ]

@[simp] theorem insertAll_nil (entries : List (String × α)) : insertAll entries [] = entries :=
  rfl

theorem insertAll_cons (entries : List (String × α)) (entry : String × α)
    (rest : List (String × α)) :
    insertAll entries (entry :: rest) = insertAll (insert entry.1 entry.2 entries) rest :=
  rfl

theorem mem_keys_insertAll {name : String} :
    name ∈ keys (insertAll entries additions) ↔ name ∈ keys entries ∨ name ∈ keys additions := by
  induction additions generalizing entries with
  | nil => simp
  | cons entry rest ih =>
      rw [insertAll_cons, ih, mem_keys_insert, keys_cons, List.mem_cons]
      tauto

theorem nodup_keys_insert (key : String) (value : α) (h : (keys entries).Nodup) :
    (keys (insert key value entries)).Nodup := by
  rw [keys_insert]
  split
  · exact h
  · rename_i hfresh
    exact List.Nodup.append h (List.nodup_singleton key) (List.disjoint_singleton.mpr hfresh)

theorem nodup_keys_insertAll (additions : List (String × α)) (h : (keys entries).Nodup) :
    (keys (insertAll entries additions)).Nodup := by
  induction additions generalizing entries with
  | nil => exact h
  | cons entry rest ih => exact ih (nodup_keys_insert entry.1 entry.2 h)

theorem mem_keys_ofEntries {name : String} :
    name ∈ keys (ofEntries entries) ↔ name ∈ keys entries := by
  rw [ofEntries, mem_keys_insertAll]
  simp

theorem ofEntries_eq_nil_iff : ofEntries entries = [] ↔ entries = [] := by
  constructor
  · intro h
    cases entries with
    | nil => rfl
    | cons entry rest =>
        have hmem : entry.1 ∈ keys (ofEntries (entry :: rest)) := mem_keys_ofEntries.mpr (by simp)
        simp [h] at hmem
  · rintro rfl
    rfl

/-- Entries with new and different names are appended as they are. -/
theorem insertAll_of_disjoint (hfresh : (keys additions).Disjoint (keys entries))
    (hnodup : (keys additions).Nodup) : insertAll entries additions = entries ++ additions := by
  induction additions generalizing entries with
  | nil => simp
  | cons entry rest ih =>
      obtain ⟨hother, hrest⟩ := List.nodup_cons.mp hnodup
      obtain ⟨hentry, hremaining⟩ := List.disjoint_cons_left.mp hfresh
      have hshifted : (keys rest).Disjoint (keys (entries ++ [entry])) := by
        rw [keys_append, List.disjoint_append_right]
        exact ⟨hremaining, List.disjoint_singleton.mpr hother⟩
      rw [insertAll_cons, insert_of_not_mem hentry, ih hshifted hrest, List.append_assoc]
      rfl

theorem ofEntries_of_nodup (h : (keys entries).Nodup) : ofEntries entries = entries := by
  have hfresh : (keys entries).Disjoint (keys ([] : List (String × α))) :=
    List.disjoint_nil_right _
  rw [ofEntries, insertAll_of_disjoint hfresh h, List.nil_append]

end Assoc

end Relint
