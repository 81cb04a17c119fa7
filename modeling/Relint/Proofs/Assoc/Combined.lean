import Relint.Proofs.Assoc
import Relint.Proofs.Distinct
import Mathlib.Data.List.Perm.Basic
import Mathlib.Data.Option.Basic

/-!
Writing a row of entries, where the value of each may depend on what is found under its
name. Names do not get in each other's way: what is found under a name in the end comes from
the values that were written under it, one after the other, and the names stand in the order
in which they came up. So the order of the row matters only among entries of one name.
-/

namespace Relint

namespace Assoc

variable {α : Type} {key name : String} {entries additions others : List (String × α)}
  {combine : String → Option α → α → α} {related : α → α → Prop}

/-- Writes an entry with the value that comes of its own and of the one that is found under
its name. -/
def combineEntry (combine : String → Option α → α → α) (entries : List (String × α))
    (entry : String × α) : List (String × α) :=
  insert entry.1 (combine entry.1 (entries.lookup entry.1) entry.2) entries

/-- The values that a row of entries has under a name. -/
def valuesAt (key : String) (entries : List (String × α)) : List α :=
  (entries.filter (·.1 == key)).map (·.2)

/-- What values come to that are written under one name, one after the other. -/
def combined (combine : Option α → α → α) (found : Option α) (values : List α) : Option α :=
  values.foldl (fun found value => some (combine found value)) found

theorem valuesAt_cons_self (key : String) (value : α) (rest : List (String × α)) :
    valuesAt key ((key, value) :: rest) = value :: valuesAt key rest := by
  simp [valuesAt]

theorem valuesAt_cons_of_ne {entry : String × α} (h : key ≠ entry.1)
    (rest : List (String × α)) : valuesAt key (entry :: rest) = valuesAt key rest := by
  have hne : entry.1 ≠ key := Ne.symm h
  simp [valuesAt, hne]

theorem mem_valuesAt {value : α} : value ∈ valuesAt key entries ↔ (key, value) ∈ entries := by
  simp only [valuesAt, List.mem_map, List.mem_filter, beq_iff_eq]
  constructor
  · rintro ⟨⟨name, value⟩, ⟨hmem, rfl⟩, rfl⟩
    exact hmem
  · intro hmem
    exact ⟨(key, value), ⟨hmem, rfl⟩, rfl⟩

theorem valuesAt_perm (h : additions.Perm others) (key : String) :
    (valuesAt key additions).Perm (valuesAt key others) :=
  (h.filter _).map _

/-- Where nothing is made of what is found, the last value is what is left. -/
theorem combined_eq_getLast? {combine : Option α → α → α}
    (h : ∀ found value, combine found value = value) (found : Option α) (values : List α) :
    combined combine found values = values.getLast?.or found := by
  induction values generalizing found with
  | nil => rfl
  | cons value rest ih =>
      change combined combine (some (combine found value)) rest = _
      rw [ih, h, List.getLast?_cons]
      cases rest.getLast? <;> rfl

/-- Every name is combined for itself. -/
theorem lookup_foldl_combineEntry (combine : String → Option α → α → α)
    (entries additions : List (String × α)) (key : String) :
    (additions.foldl (combineEntry combine) entries).lookup key =
      combined (combine key) (entries.lookup key) (valuesAt key additions) := by
  induction additions generalizing entries with
  | nil => rfl
  | cons entry rest ih =>
      obtain ⟨name, value⟩ := entry
      rw [List.foldl_cons, ih, combineEntry]
      by_cases hname : key = name
      · subst hname
        rw [lookup_insert_self, valuesAt_cons_self]
        rfl
      · rw [lookup_insert_of_ne hname, valuesAt_cons_of_ne hname]

/-- The names stand in the order in which they came up, whatever becomes of the values. -/
theorem keys_foldl_combineEntry (combine : String → Option α → α → α)
    (entries additions : List (String × α)) :
    keys (additions.foldl (combineEntry combine) entries) =
      (keys additions).foldl appendNew (keys entries) := by
  induction additions generalizing entries with
  | nil => rfl
  | cons entry rest ih =>
      have hstep : keys (combineEntry combine entries entry) =
          appendNew (keys entries) entry.1 := by
        rw [combineEntry, keys_insert, appendNew]
        simp only [List.contains_iff_mem]
      rw [List.foldl_cons, ih, hstep]
      rfl

section InsertAll

theorem keys_insertAll (entries additions : List (String × α)) :
    keys (insertAll entries additions) = (keys additions).foldl appendNew (keys entries) :=
  keys_foldl_combineEntry (fun _ _ value => value) entries additions

/-- Entries of different names are found where they were written, and behind them what was
there before. -/
theorem lookup_insertAll (h : (keys additions).Nodup) (entries : List (String × α))
    (key : String) :
    (insertAll entries additions).lookup key = (additions.lookup key).or (entries.lookup key) := by
  induction additions generalizing entries with
  | nil => rfl
  | cons entry rest ih =>
      obtain ⟨hfresh, hrest⟩ := List.nodup_cons.mp h
      obtain ⟨name, value⟩ := entry
      rw [insertAll_cons, ih hrest]
      by_cases hname : key = name
      · subst hname
        rw [lookup_eq_none_iff_not_mem_keys.mpr hfresh, lookup_insert_self]
        simp
      · rw [lookup_insert_of_ne hname, List.lookup_cons, beq_false_of_ne hname]

theorem keys_ofEntries (entries : List (String × α)) :
    keys (ofEntries entries) = distinct (keys entries) :=
  keys_insertAll [] entries

theorem ofEntries_concat (entries : List (String × α)) (entry : String × α) :
    ofEntries (entries ++ [entry]) = insert entry.1 entry.2 (ofEntries entries) :=
  List.foldl_concat _ _ _ _

/-- Of several entries of one name the last is found. -/
theorem lookup_ofEntries (entries : List (String × α)) (key : String) :
    (ofEntries entries).lookup key = entries.reverse.lookup key := by
  induction entries using List.reverseRecOn with
  | nil => rfl
  | append_singleton earlier entry ih =>
      obtain ⟨name, value⟩ := entry
      rw [ofEntries_concat, List.reverse_concat, List.lookup_cons]
      by_cases hname : key = name
      · subst hname
        rw [lookup_insert_self, beq_self_eq_true]
      · rw [lookup_insert_of_ne hname, beq_false_of_ne hname, ih]

/-- Writing entries that are found already changes nothing. -/
theorem insertAll_eq_self (h : ∀ entry ∈ additions, entries.lookup entry.1 = some entry.2) :
    insertAll entries additions = entries := by
  induction additions with
  | nil => rfl
  | cons entry rest ih =>
      obtain ⟨hentry, hrest⟩ := List.forall_mem_cons.mp h
      rw [insertAll_cons, insert_eq_self_iff.mpr hentry, ih hrest]

/-- Entries of other names stay as they are, in their order. -/
theorem filter_insertAll {p : String → Bool} (h : ∀ key ∈ keys additions, p key = false)
    (entries : List (String × α)) :
    (insertAll entries additions).filter (fun entry => p entry.1) =
      entries.filter fun entry => p entry.1 := by
  induction additions generalizing entries with
  | nil => rfl
  | cons entry rest ih =>
      obtain ⟨hentry, hrest⟩ := List.forall_mem_cons.mp h
      rw [insertAll_cons, ih hrest, filter_insert_of_not hentry]

end InsertAll

/-- Records with the same names and the same values in any order, except that what is found
under one name need only be related. -/
structure SameBut (name : String) (related : α → α → Prop)
    (entries others : List (String × α)) : Prop where
  nodup_keys : (keys entries).Nodup
  keys_perm : (keys entries).Perm (keys others)
  lookup_eq : ∀ key, key ≠ name → entries.lookup key = others.lookup key
  related : Option.Rel related (entries.lookup name) (others.lookup name)

/-- Values that are all the same are the same row in any order. -/
theorem eq_of_perm_of_forall_eq {values values' : List α} (h : values.Perm values')
    (hsame : ∀ v ∈ values, ∀ w ∈ values, v = w) : values = values' := by
  have hany : ∀ row : List α, row.Pairwise fun _ _ => True := fun row =>
    List.pairwise_of_forall fun _ _ => trivial
  refine h.eq_of_pairwise ?_ (hany values) (hany values')
  intro v w hv hw _ _
  exact hsame v hv w (h.mem_iff.mpr hw)

/-- Entries that are written in another order come to the same, up to what they come to under
one name, if no other name is written with two values. -/
theorem sameBut_of_perm (hperm : additions.Perm others)
    (honce : ∀ key, key ≠ name →
      ∀ v ∈ valuesAt key additions, ∀ w ∈ valuesAt key additions, v = w)
    (hrelated : Option.Rel related (combined (combine name) none (valuesAt name additions))
      (combined (combine name) none (valuesAt name others))) :
    SameBut name related (additions.foldl (combineEntry combine) [])
      (others.foldl (combineEntry combine) []) := by
  have hkeys : ∀ row : List (String × α),
      keys (row.foldl (combineEntry combine) []) = distinct (keys row) :=
    keys_foldl_combineEntry combine []
  refine ⟨?_, ?_, ?_, ?_⟩
  · rw [hkeys]
    exact nodup_distinct
  · rw [hkeys, hkeys]
    exact distinct_perm (hperm.map _)
  · intro key hkey
    rw [lookup_foldl_combineEntry, lookup_foldl_combineEntry,
      eq_of_perm_of_forall_eq (valuesAt_perm hperm key) (honce key hkey)]
  · rw [lookup_foldl_combineEntry, lookup_foldl_combineEntry]
    exact hrelated

end Assoc

end Relint
