import Relint.Proofs.Files.Growth
import Relint.Proofs.Path
import Mathlib.Data.List.Induction
import Mathlib.Data.List.Nodup

/-!
Trees that hang together: whatever stands somewhere has a proper name and stands in a
directory. A walk that starts in a directory of such a tree ends in a directory or at a
place in a directory, so that what is written there leaves the tree well formed.
-/

namespace Relint

namespace FileTree

variable {t : FileTree} {directory location : Location} {entry : Entry}

/-- A place below the root that something can stand at: its names are proper, and the last
of them is one in a directory. -/
def HasPlace (t : FileTree) (location : Location) : Prop :=
  location ≠ [] ∧ (∀ name ∈ location, Path.IsName name) ∧
    t.entryAt location.dropLast = some .directory

instance (t : FileTree) (location : Location) : Decidable (t.HasPlace location) :=
  inferInstanceAs (Decidable (_ ∧ _ ∧ _))

/-- One entry for each location, each in a directory, and a working directory. -/
structure WellFormed (t : FileTree) : Prop where
  nodup : (t.entries.map (·.1)).Nodup
  hasPlace : ∀ entry ∈ t.entries, t.HasPlace entry.1
  working : t.entryAt t.working = some .directory

theorem mem_of_entryAt (hroot : location ≠ []) (h : t.entryAt location = some entry) :
    (location, entry) ∈ t.entries := by
  rw [entryAt_eq_lookup hroot] at h
  obtain ⟨before, after, hentries, _⟩ := List.lookup_eq_some_iff.mp h
  rw [hentries]
  exact List.mem_append_right _ List.mem_cons_self

namespace WellFormed

theorem hasPlace_of_entryAt (h : t.WellFormed) (hroot : location ≠ [])
    (hentry : t.entryAt location = some entry) : t.HasPlace location :=
  h.hasPlace _ (mem_of_entryAt hroot hentry)

/-- The entries of a well-formed tree are what stands at their locations. -/
theorem entryAt_of_mem (h : t.WellFormed) (hmem : (location, entry) ∈ t.entries) :
    t.entryAt location = some entry := by
  rw [entryAt_eq_lookup (h.hasPlace _ hmem).1, List.lookup_eq_some_iff]
  obtain ⟨before, after, hentries⟩ := List.append_of_mem hmem
  refine ⟨before, after, hentries, ?_⟩
  intro other hother
  have hnodup := h.nodup
  rw [hentries, List.map_append, List.map_cons, List.nodup_middle] at hnodup
  have hne : location ≠ other.1 := by
    rintro rfl
    exact (List.nodup_cons.mp hnodup).1
      (List.mem_append_left _ (List.mem_map_of_mem (f := (·.1)) hother))
  simpa using hne

theorem isName_of_entryAt (h : t.WellFormed) (hentry : t.entryAt location = some entry) :
    ∀ name ∈ location, Path.IsName name := by
  by_cases hroot : location = []
  · simp [hroot]
  · exact (h.hasPlace_of_entryAt hroot hentry).2.1

theorem entryAt_dropLast (h : t.WellFormed) (hentry : t.entryAt location = some entry) :
    t.entryAt location.dropLast = some .directory := by
  by_cases hroot : location = []
  · subst hroot
    rfl
  · exact (h.hasPlace_of_entryAt hroot hentry).2.2

/-- Above everything that stands somewhere there are directories up to the root. -/
theorem entryAt_append (h : t.WellFormed) {above below : Location} (hbelow : below ≠ [])
    (hentry : t.entryAt (above ++ below) = some entry) : t.entryAt above = some .directory := by
  induction below using List.reverseRecOn generalizing entry with
  | nil => exact absurd rfl hbelow
  | append_singleton below name ih =>
      have hup := h.entryAt_dropLast hentry
      rw [← List.append_assoc, List.dropLast_concat] at hup
      by_cases hnil : below = []
      · rw [hnil, List.append_nil] at hup
        exact hup
      · exact ih hnil hup

theorem put (h : t.WellFormed) (hplace : t.HasPlace location)
    (hkept : t.entryAt location = some .directory → entry = .directory) :
    (t.put location entry).WellFormed where
  nodup := nodup_setEntry h.nodup
  hasPlace := by
    intro other hother
    have hdirectory : ∀ l, t.entryAt l = some .directory →
        (t.put location entry).entryAt l = some .directory := by
      intro l hl
      rw [entryAt_put hplace.1]
      split
      · rename_i heq
        rw [hkept (heq ▸ hl)]
      · exact hl
    have hlocation : other.1 ∈ (t.put location entry).entries.map (·.1) :=
      List.mem_map_of_mem hother
    rcases mem_locations_setEntry.mp hlocation with heq | hold
    · rw [heq]
      exact ⟨hplace.1, hplace.2.1, hdirectory _ hplace.2.2⟩
    · obtain ⟨old, hmem, heq⟩ := List.mem_map.mp hold
      obtain ⟨hroot, hnames, hup⟩ := h.hasPlace old hmem
      rw [← heq]
      exact ⟨hroot, hnames, hdirectory _ hup⟩
  working := by
    change (t.put location entry).entryAt t.working = _
    rw [entryAt_put hplace.1]
    split
    · rename_i heq
      rw [hkept (heq ▸ h.working)]
    · exact h.working

section Walking

variable {follow : Bool} {steps : List String}

/-- A walk from a directory ends in a directory or at a place in one. -/
theorem walkUntil (h : t.WellFormed)
    {jump : Location → List String → Except FileFault Location}
    (hjump : ∀ directory steps, t.entryAt directory = some .directory →
      (∀ name ∈ steps, name ≠ "" ∧ '/' ∉ name.toList) → jump directory steps = .ok location →
        t.entryAt location = some .directory ∨ t.HasPlace location)
    (hdirectory : t.entryAt directory = some .directory)
    (hsteps : ∀ name ∈ steps, name ≠ "" ∧ '/' ∉ name.toList)
    (hwalk : t.walkUntil follow jump directory steps = .ok location) :
    t.entryAt location = some .directory ∨ t.HasPlace location := by
  have hhere : ∀ {directory : Location} {name : String}, t.entryAt directory = some .directory →
      name ≠ "." → name ≠ ".." → name ≠ "" ∧ '/' ∉ name.toList →
        t.HasPlace (directory ++ [name]) := by
    intro directory name hdirectory hdot hup hname
    refine ⟨by simp, ?_, by rw [List.dropLast_concat]; exact hdirectory⟩
    intro other hother
    rcases List.mem_append.mp hother with habove | hlast
    · exact h.isName_of_entryAt hdirectory other habove
    · rw [List.mem_singleton.mp hlast]
      exact ⟨hname.1, hdot, hup, hname.2⟩
  fun_induction t.walkUntil follow jump directory steps with
  | case1 directory =>
      rw [← Except.ok.inj hwalk]
      exact Or.inl hdirectory
  | case2 directory rest ih => exact ih hdirectory (List.forall_mem_cons.mp hsteps).2 hwalk
  | case3 directory rest hdot ih =>
      exact ih (h.entryAt_dropLast hdirectory) (List.forall_mem_cons.mp hsteps).2 hwalk
  | case4 directory name rest hdot hup place hentry hlast
  | case7 directory name rest hdot hup place content hentry hlast
  | case9 directory name rest hdot hup place target hentry hlast =>
      rw [← Except.ok.inj hwalk]
      exact Or.inr (hhere hdirectory hdot hup (List.forall_mem_cons.mp hsteps).1)
  | case5 | case8 => cases hwalk
  | case6 directory name rest hdot hup place hentry ih =>
      exact ih hentry (List.forall_mem_cons.mp hsteps).2 hwalk
  | case10 directory name rest hdot hup place target hentry hfollow =>
      refine hjump _ _ ?_ ?_ hwalk
      · unfold startOf
        split
        · exact entryAt_root t
        · exact hdirectory
      · intro other hother
        rcases List.mem_append.mp hother with htarget | hrest
        · exact Path.of_mem_steps htarget
        · exact (List.forall_mem_cons.mp hsteps).2 other hrest

theorem walk (h : t.WellFormed) {links : Nat} (hdirectory : t.entryAt directory = some .directory)
    (hsteps : ∀ name ∈ steps, name ≠ "" ∧ '/' ∉ name.toList)
    (hwalk : t.walk follow links directory steps = .ok location) :
    t.entryAt location = some .directory ∨ t.HasPlace location := by
  induction links generalizing directory steps with
  | zero =>
      refine h.walkUntil ?_ hdirectory hsteps hwalk
      intro _ _ _ _ hnone
      cases hnone
  | succ links ih => exact h.walkUntil (fun _ _ => ih) hdirectory hsteps hwalk

theorem locate (h : t.WellFormed) {path : String} (hpath : t.locate follow path = .ok location) :
    t.entryAt location = some .directory ∨ t.HasPlace location := by
  refine h.walk ?_ (fun _ => Path.of_mem_steps) hpath
  unfold startOf
  split
  · exact entryAt_root t
  · exact h.working

end Walking

end WellFormed

end FileTree

end Relint
