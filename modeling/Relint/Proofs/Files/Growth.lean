import Relint.Files.Tree

/-!
Trees that grow. Writing puts a file where nothing or a file stands, and a directory where
nothing stands; it never makes a link and takes nothing away. A path that leads somewhere
therefore keeps leading there, and only one that leads nowhere may come to lead somewhere.
-/

namespace Relint

section Entries

variable {location l : Location} {entry : Entry} {entries : List (Location × Entry)}

theorem lookup_entries_cons (place : Location) (old : Entry) :
    ((place, old) :: entries).lookup l = if l = place then some old else entries.lookup l := by
  rw [List.lookup_cons]
  split
  · rename_i heq
    rw [if_pos (eq_of_beq heq)]
  · rename_i hne
    rw [if_neg (by simpa using hne)]

theorem lookup_setEntry :
    (setEntry location entry entries).lookup l =
      if l = location then some entry else entries.lookup l := by
  induction entries with
  | nil =>
      rw [setEntry, lookup_entries_cons]
  | cons head rest ih =>
      obtain ⟨place, old⟩ := head
      rw [setEntry]
      split
      · rename_i heq
        subst heq
        rw [lookup_entries_cons, lookup_entries_cons]
        by_cases h : l = place <;> simp [h]
      · rename_i hne
        rw [lookup_entries_cons, lookup_entries_cons, ih]
        by_cases h : l = place
        · simp [h, hne]
        · simp [h]

theorem setEntry_of_lookup_eq_none (h : entries.lookup location = none) :
    setEntry location entry entries = entries ++ [(location, entry)] := by
  induction entries with
  | nil => rfl
  | cons head rest ih =>
      obtain ⟨place, old⟩ := head
      rw [lookup_entries_cons] at h
      split at h
      · cases h
      · rename_i hne
        rw [setEntry, if_neg (Ne.symm hne), ih h, List.cons_append]

theorem mem_locations_setEntry :
    l ∈ (setEntry location entry entries).map (·.1) ↔
      l = location ∨ l ∈ entries.map (·.1) := by
  induction entries with
  | nil => simp [setEntry]
  | cons head rest ih =>
      obtain ⟨place, old⟩ := head
      rw [setEntry]
      split
      · rename_i heq
        simp [heq]
      · rw [List.map_cons, List.mem_cons, ih, List.map_cons, List.mem_cons]
        exact or_left_comm

theorem nodup_setEntry (h : (entries.map (·.1)).Nodup) :
    ((setEntry location entry entries).map (·.1)).Nodup := by
  induction entries with
  | nil => simp [setEntry]
  | cons head rest ih =>
      obtain ⟨place, old⟩ := head
      obtain ⟨hfresh, hrest⟩ := List.nodup_cons.mp h
      rw [setEntry]
      split
      · rename_i heq
        subst heq
        exact h
      · rename_i hne
        refine List.nodup_cons.mpr ⟨?_, ih hrest⟩
        rw [mem_locations_setEntry]
        rintro (heq | hmem)
        · exact hne heq
        · exact hfresh hmem

end Entries

namespace FileTree

variable {t t' t'' : FileTree} {l location : Location} {entry : Entry}

@[simp] theorem entryAt_root (t : FileTree) : t.entryAt [] = some .directory := rfl

theorem entryAt_eq_lookup (h : l ≠ []) : t.entryAt l = t.entries.lookup l := by
  simp [entryAt, h]

theorem entryAt_put (h : location ≠ []) :
    (t.put location entry).entryAt l = if l = location then some entry else t.entryAt l := by
  by_cases hroot : l = []
  · subst hroot
    rw [if_neg h.symm, entryAt_root, entryAt_root]
  · rw [entryAt_eq_lookup hroot, put, lookup_setEntry, entryAt_eq_lookup hroot]

theorem ne_root_of_entryAt_ne (h : t.entryAt l ≠ some .directory) : l ≠ [] := by
  rintro rfl
  exact h (entryAt_root t)

theorem ne_root_of_entryAt_eq_none (h : t.entryAt l = none) : l ≠ [] :=
  ne_root_of_entryAt_ne (t := t) (by simp [h])

/-- A file can be put here: nothing is in the way, or a file that it replaces. -/
def Takes (t : FileTree) (location : Location) : Prop :=
  t.entryAt location = none ∨ ∃ content, t.entryAt location = some (.file content)

theorem Takes.ne_root (h : t.Takes location) : location ≠ [] := by
  apply ne_root_of_entryAt_ne (t := t)
  rcases h with hnone | ⟨content, hfile⟩
  · simp [hnone]
  · simp [hfile]

/-- One tree becomes another by writing. Directories and links stay, files stay files, no
link is new, and new files come behind the ones that are there. -/
structure Grows (t t' : FileTree) : Prop where
  working_eq : t'.working = t.working
  workingPath_eq : t'.workingPath = t.workingPath
  directory : ∀ l, t.entryAt l = some .directory → t'.entryAt l = some .directory
  link_iff : ∀ l target,
    t'.entryAt l = some (.link target) ↔ t.entryAt l = some (.link target)
  file : ∀ l content, t.entryAt l = some (.file content) →
    ∃ content', t'.entryAt l = some (.file content')
  filesBelow : ∃ new, t'.filesBelow = t.filesBelow ++ new

namespace Grows

theorem refl (t : FileTree) : t.Grows t where
  working_eq := rfl
  workingPath_eq := rfl
  directory := fun _ h => h
  link_iff := fun _ _ => Iff.rfl
  file := fun _ content h => ⟨content, h⟩
  filesBelow := ⟨[], by simp⟩

theorem trans (h : t.Grows t') (h' : t'.Grows t'') : t.Grows t'' where
  working_eq := h'.working_eq.trans h.working_eq
  workingPath_eq := h'.workingPath_eq.trans h.workingPath_eq
  directory := fun l hl => h'.directory l (h.directory l hl)
  link_iff := fun l target => (h'.link_iff l target).trans (h.link_iff l target)
  file := by
    intro l content hl
    obtain ⟨content', hl'⟩ := h.file l content hl
    exact h'.file l content' hl'
  filesBelow := by
    obtain ⟨new, hnew⟩ := h.filesBelow
    obtain ⟨new', hnew'⟩ := h'.filesBelow
    exact ⟨new ++ new', by rw [hnew', hnew, List.append_assoc]⟩

end Grows

section Putting

/-- The names of a file that stands below the working directory. -/
def fileBelow? (working : Location) (entry : Location × Entry) : Option (List String) :=
  match entry.2 with
  | .file _ =>
      if working.isPrefixOf entry.1 then some (entry.1.drop working.length) else none
  | _ => none

theorem filesBelow_eq (t : FileTree) : t.filesBelow = t.entries.filterMap (fileBelow? t.working) :=
  rfl

/-- A file that replaces another one stands where that stood. -/
theorem filterMap_setEntry_file {working : Location} {entries : List (Location × Entry)}
    {old content : Content} (h : entries.lookup location = some (.file old)) :
    (setEntry location (.file content) entries).filterMap (fileBelow? working) =
      entries.filterMap (fileBelow? working) := by
  induction entries with
  | nil => simp at h
  | cons head rest ih =>
      obtain ⟨place, entry⟩ := head
      rw [lookup_entries_cons] at h
      rw [setEntry]
      split
      · rename_i heq
        rw [if_pos heq.symm] at h
        obtain rfl := Option.some.inj h
        rw [heq]
        rfl
      · rename_i hne
        rw [if_neg (Ne.symm hne)] at h
        rw [List.filterMap_cons, List.filterMap_cons, ih h]

theorem Grows.put_file {content : Content} (h : t.Takes location) :
    t.Grows (t.put location (.file content)) where
  working_eq := rfl
  workingPath_eq := rfl
  directory := by
    intro l hl
    rw [entryAt_put h.ne_root, if_neg]
    · exact hl
    · rintro rfl
      rcases h with hnone | ⟨_, hfile⟩
      · simp [hnone] at hl
      · simp [hfile] at hl
  link_iff := by
    intro l target
    rw [entryAt_put h.ne_root]
    split
    · rename_i heq
      subst heq
      rcases h with hnone | ⟨_, hfile⟩
      · simp [hnone]
      · simp [hfile]
    · exact Iff.rfl
  file := by
    intro l old hl
    rw [entryAt_put h.ne_root]
    split
    · exact ⟨content, rfl⟩
    · exact ⟨old, hl⟩
  filesBelow := by
    have hroot := h.ne_root
    rcases h with hnone | ⟨old, hfile⟩
    · rw [entryAt_eq_lookup hroot] at hnone
      rw [filesBelow_eq, filesBelow_eq, put, setEntry_of_lookup_eq_none hnone,
        List.filterMap_append]
      exact ⟨_, rfl⟩
    · rw [entryAt_eq_lookup hroot] at hfile
      rw [filesBelow_eq, filesBelow_eq, put, filterMap_setEntry_file hfile]
      exact ⟨[], by simp⟩

theorem Grows.put_directory (h : t.entryAt location = none) :
    t.Grows (t.put location .directory) where
  working_eq := rfl
  workingPath_eq := rfl
  directory := by
    intro l hl
    rw [entryAt_put (ne_root_of_entryAt_eq_none h)]
    split
    · rfl
    · exact hl
  link_iff := by
    intro l target
    rw [entryAt_put (ne_root_of_entryAt_eq_none h)]
    split
    · rename_i heq
      simp [heq, h]
    · exact Iff.rfl
  file := by
    intro l content hl
    rw [entryAt_put (ne_root_of_entryAt_eq_none h), if_neg]
    · exact ⟨content, hl⟩
    · rintro rfl
      simp [h] at hl
  filesBelow := by
    have hnone : t.entries.lookup location = none := by
      rw [← entryAt_eq_lookup (ne_root_of_entryAt_eq_none h)]
      exact h
    rw [filesBelow_eq, filesBelow_eq, put, setEntry_of_lookup_eq_none hnone,
      List.filterMap_append]
    exact ⟨_, rfl⟩

end Putting

section Walking

variable {follow : Bool} {directory : Location} {steps : List String}

/-- Where a walk does not come to an early end, it goes the same way in a tree that has
grown. The induction is on the steps, and links are what `jump` makes of them. -/
theorem Grows.walkUntil (h : t.Grows t')
    {jump jump' : Location → List String → Except FileFault Location}
    (hjump : ∀ directory steps, jump directory steps ≠ .error .notFound →
      jump' directory steps = jump directory steps)
    (hwalk : t.walkUntil follow jump directory steps ≠ .error .notFound) :
    t'.walkUntil follow jump' directory steps = t.walkUntil follow jump directory steps := by
  fun_induction t.walkUntil follow jump directory steps with
  | case1 directory => rfl
  | case2 directory rest ih => simpa [FileTree.walkUntil] using ih hwalk
  | case3 directory rest hdot ih => simpa [FileTree.walkUntil] using ih hwalk
  | case4 directory name rest hdot hup place hnone hlast =>
      obtain rfl := List.isEmpty_iff.mp hlast
      cases hentry : t'.entryAt place with
      | none => simp [FileTree.walkUntil, hdot, hup, place, hentry]
      | some entry =>
          cases entry with
          | file content => simp [FileTree.walkUntil, hdot, hup, place, hentry]
          | directory => simp [FileTree.walkUntil, hdot, hup, place, hentry]
          | link target => simp [h.link_iff, hnone] at hentry
  | case5 => exact absurd rfl hwalk
  | case6 directory name rest hdot hup place hentry ih =>
      simpa [FileTree.walkUntil, hdot, hup, place, h.directory _ hentry] using ih hwalk
  | case7 directory name rest hdot hup place content hentry hlast
  | case8 directory name rest hdot hup place content hentry hlast =>
      obtain ⟨content', hentry'⟩ := h.file _ _ hentry
      simp [FileTree.walkUntil, hdot, hup, place, hentry', hlast]
  | case9 directory name rest hdot hup place target hentry hlast =>
      simp [FileTree.walkUntil, hdot, hup, place, (h.link_iff _ _).mpr hentry, hlast]
  | case10 directory name rest hdot hup place target hentry hfollow =>
      simpa [FileTree.walkUntil, hdot, hup, place, (h.link_iff _ _).mpr hentry, hfollow]
        using hjump _ _ hwalk

theorem Grows.walk (h : t.Grows t') {links : Nat}
    (hwalk : t.walk follow links directory steps ≠ .error .notFound) :
    t'.walk follow links directory steps = t.walk follow links directory steps := by
  induction links generalizing directory steps with
  | zero => exact h.walkUntil (fun _ _ _ => rfl) hwalk
  | succ links ih => exact h.walkUntil (fun _ _ => ih) hwalk

/-- A path that does not lead nowhere leads to the same place in a tree that has grown. -/
theorem Grows.locate (h : t.Grows t') {path : String}
    (hpath : t.locate follow path ≠ .error .notFound) :
    t'.locate follow path = t.locate follow path := by
  rw [FileTree.locate, FileTree.locate, h.working_eq]
  exact h.walk hpath

theorem Grows.locate_eq_ok (h : t.Grows t') {path : String}
    (hpath : t.locate follow path = .ok location) : t'.locate follow path = .ok location := by
  rw [h.locate (by simp [hpath]), hpath]

end Walking

end FileTree

end Relint
