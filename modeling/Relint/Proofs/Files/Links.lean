import Relint.Proofs.Files.Discovery
import Mathlib.Data.List.Infix

/-!
Links on the way of a path. Writing makes no links, so a path passes one in a tree that has
grown only where it did so before, or where it led nowhere before. In the second case the
directories that were made for it have nothing but new entries below them, and a link can
only be reached by going up again.
-/

namespace Relint

namespace FileTree

variable {t t' : FileTree} {directory location : Location} {steps init rest : List String}
  {path target : String}

/-- Whether steps lead to a link. The link itself is not followed. -/
def linkAt (t : FileTree) (directory : Location) (steps : List String) : Bool :=
  match t.walk false linkLimit directory steps with
  | .ok location =>
      match t.entryAt location with
      | some (.link _) => true
      | _ => false
  | .error _ => false

/-- A component of a path is a link, the last one or one of its directories. -/
def PassesLink (t : FileTree) (path : String) : Prop :=
  ∃ init ∈ (Path.steps path).inits, t.linkAt (startOf t.working path) init

instance (t : FileTree) (path : String) : Decidable (t.PassesLink path) :=
  inferInstanceAs (Decidable (∃ init ∈ (Path.steps path).inits, _))

/-- One of the directories of a path is a link. -/
def DirectoryLink (t : FileTree) (path : String) : Prop :=
  ∃ init ∈ (Path.steps path).inits, init ≠ Path.steps path ∧ t.linkAt (startOf t.working path) init

instance (t : FileTree) (path : String) : Decidable (t.DirectoryLink path) :=
  inferInstanceAs (Decidable (∃ init ∈ (Path.steps path).inits, _))

theorem linkAt_iff :
    t.linkAt directory steps ↔
      ∃ location target, t.walk false linkLimit directory steps = .ok location ∧
        t.entryAt location = some (.link target) := by
  rw [linkAt]
  cases t.walk false linkLimit directory steps with
  | error fault => simp
  | ok location =>
      cases hentry : t.entryAt location with
      | none => simp [hentry]
      | some entry => cases entry <;> simp [hentry]

theorem isLink_eq_linkAt (t : FileTree) (path : String) :
    t.isLink path = t.linkAt (startOf t.working path) (Path.steps path) := by
  rw [isLink, find?, locate, linkAt]
  cases t.walk false linkLimit (startOf t.working path) (Path.steps path) <;> rfl

section Missing

/-- Below a place where nothing stood there is no link, however many directories have been
made since. -/
theorem not_link_below_missing (hwell : t.WellFormed) (h : t.Grows t')
    {jump : Location → List String → Except FileFault Location}
    (hmissing : t.entryAt directory = none) (hup : ".." ∉ steps)
    (hplace : t'.walkUntil false jump directory steps = .ok location) :
    t'.entryAt location ≠ some (.link target) := by
  have hfree : ∀ {l target}, t.entryAt l = none → t'.entryAt l ≠ some (.link target) := by
    intro l target hnone hlink
    rw [h.link_iff, hnone] at hlink
    cases hlink
  have hbelow : ∀ {directory : Location} (name : String), t.entryAt directory = none →
      t.entryAt (directory ++ [name]) = none := by
    intro directory name hnone
    cases hentry : t.entryAt (directory ++ [name]) with
    | none => rfl
    | some entry =>
        have habove := hwell.entryAt_dropLast hentry
        rw [List.dropLast_concat, hnone] at habove
        cases habove
  fun_induction t'.walkUntil false jump directory steps with
  | case1 directory =>
      obtain rfl := Except.ok.inj hplace
      exact hfree hmissing
  | case2 directory rest ih => exact ih hmissing (List.not_mem_of_not_mem_cons hup) hplace
  | case3 directory rest => exact absurd List.mem_cons_self hup
  | case4 | case7 =>
      obtain rfl := Except.ok.inj hplace
      exact hfree (hbelow _ hmissing)
  | case5 | case8 => cases hplace
  | case6 directory name rest hdot hname place hentry ih =>
      exact ih (hbelow name hmissing) (List.not_mem_of_not_mem_cons hup) hplace
  | case9 directory name rest hdot hname place target hentry
  | case10 directory name rest hdot hname place target hentry =>
      exact absurd hentry (hfree (hbelow name hmissing))

/-- Steps that led nowhere and lead to a link now have passed a link before, unless they go
up. -/
theorem passed_of_walkUntil (hwell : t.WellFormed) (h : t.Grows t')
    {jump jump' : Location → List String → Except FileFault Location}
    (hmissing : t.walkUntil false jump directory steps = .error .notFound) (hup : ".." ∉ steps)
    (hplace : t'.walkUntil false jump' directory steps = .ok location)
    (hlink : t'.entryAt location = some (.link target)) :
    ∃ init rest, steps = init ++ rest ∧ rest ≠ [] ∧ ∃ l target,
      t.walkUntil false jump directory init = .ok l ∧ t.entryAt l = some (.link target) := by
  fun_induction t.walkUntil false jump directory steps with
  | case1 | case4 | case7 | case8 | case9 => cases hmissing
  | case2 directory rest ih =>
      have hrest : t'.walkUntil false jump' directory rest = .ok location := by
        simpa [walkUntil] using hplace
      obtain ⟨init, more, rfl, hmore, l, target, hinit, hentry⟩ :=
        ih hmissing (List.not_mem_of_not_mem_cons hup) hrest
      exact ⟨"." :: init, more, rfl, hmore, l, target, by simpa [walkUntil] using hinit, hentry⟩
  | case3 directory rest => exact absurd List.mem_cons_self hup
  | case5 directory name rest hdot hname place hnone hmore =>
      cases hentry : t'.entryAt place with
      | none => simp [walkUntil, hdot, hname, place, hentry, hmore] at hplace
      | some entry =>
          cases entry with
          | file content => simp [walkUntil, hdot, hname, place, hentry, hmore] at hplace
          | directory =>
              have hbelow : t'.walkUntil false jump' place rest = .ok location := by
                simpa [walkUntil, hdot, hname, place, hentry] using hplace
              have hup' : ".." ∉ rest := List.not_mem_of_not_mem_cons hup
              exact absurd hlink (not_link_below_missing hwell h hnone hup' hbelow)
          | link other =>
              rw [h.link_iff, hnone] at hentry
              cases hentry
  | case6 directory name rest hdot hname place hentry ih =>
      have hrest : t'.walkUntil false jump' place rest = .ok location := by
        simpa [walkUntil, hdot, hname, place, h.directory _ hentry] using hplace
      obtain ⟨init, more, rfl, hmore, l, target, hinit, hlinked⟩ :=
        ih hmissing (List.not_mem_of_not_mem_cons hup) hrest
      refine ⟨name :: init, more, rfl, hmore, l, target, ?_, hlinked⟩
      simpa [walkUntil, hdot, hname, place, hentry] using hinit
  | case10 directory name rest hdot hname place other hentry hmore =>
      have hrest : rest ≠ [] := by simpa using hmore
      refine ⟨[name], rest, rfl, hrest, place, other, ?_, hentry⟩
      simp [walkUntil, hdot, hname, place, hentry]

theorem passed_of_walk (hwell : t.WellFormed) (h : t.Grows t') {links : Nat}
    (hmissing : t.walk false links directory steps = .error .notFound) (hup : ".." ∉ steps)
    (hplace : t'.walk false links directory steps = .ok location)
    (hlink : t'.entryAt location = some (.link target)) :
    ∃ init rest, steps = init ++ rest ∧ rest ≠ [] ∧ ∃ l target,
      t.walk false links directory init = .ok l ∧ t.entryAt l = some (.link target) := by
  cases links with
  | zero => exact passed_of_walkUntil hwell h hmissing hup hplace hlink
  | succ links => exact passed_of_walkUntil hwell h hmissing hup hplace hlink

/-- Steps that lead nowhere do not lead anywhere with more steps behind them. -/
theorem walkUntil_append_missing {follow : Bool}
    {jump : Location → List String → Except FileFault Location}
    (hjump : ∀ directory steps, jump directory steps = .error .notFound →
      jump directory (steps ++ rest) = .error .notFound)
    (hmissing : t.walkUntil follow jump directory init = .error .notFound) :
    t.walkUntil follow jump directory (init ++ rest) = .error .notFound := by
  fun_induction t.walkUntil follow jump directory init with
  | case1 | case4 | case7 | case8 | case9 => cases hmissing
  | case2 directory more ih => simpa [walkUntil] using ih hmissing
  | case3 directory more hdot ih => simpa [walkUntil] using ih hmissing
  | case5 directory name more hdot hname place hnone hmore =>
      simp [walkUntil, hdot, hname, place, hnone, show more ≠ [] by simpa using hmore]
  | case6 directory name more hdot hname place hentry ih =>
      simpa [walkUntil, hdot, hname, place, hentry] using ih hmissing
  | case10 directory name more hdot hname place target hentry hfollow =>
      have hfollowed : ((more ++ rest).isEmpty && !follow) = false := by
        cases more <;> simp_all
      have htail := hjump _ _ hmissing
      rw [List.append_assoc] at htail
      simpa [walkUntil, hdot, hname, place, hentry, hfollowed] using htail

theorem walk_append_missing {follow : Bool} {links : Nat}
    (hmissing : t.walk follow links directory init = .error .notFound) :
    t.walk follow links directory (init ++ rest) = .error .notFound := by
  induction links generalizing directory init with
  | zero =>
      apply walkUntil_append_missing _ hmissing
      intro _ _ hnone
      cases hnone
  | succ links ih => exact walkUntil_append_missing (fun _ _ => ih) hmissing

end Missing

theorem DirectoryLink.of_append (hsteps : Path.steps path = init ++ rest) (hrest : rest ≠ [])
    (hlink : t.linkAt (startOf t.working path) init) : t.DirectoryLink path := by
  refine ⟨init, ?_, ?_, hlink⟩
  · rw [List.mem_inits, hsteps]
    exact List.prefix_append init rest
  · rw [hsteps]
    simpa using hrest

/-- Where a path passes a link in a tree that has grown, it is a link itself or passes one
among its directories, or it led nowhere before and goes up on its way. -/
theorem PassesLink.before (hwell : t.WellFormed) (h : t.Grows t') (hpasses : t'.PassesLink path) :
    t.isLink path = true ∨ t.DirectoryLink path ∨
      ".." ∈ Path.steps path ∧ t.locate false path = .error .notFound := by
  obtain ⟨init, hinit, hlink⟩ := hpasses
  obtain ⟨rest, hsteps⟩ := (List.mem_inits _ _).mp hinit
  obtain ⟨location, target, hplace, hentry⟩ := linkAt_iff.mp hlink
  rw [h.working_eq] at hplace
  by_cases hmissing : t.walk false linkLimit (startOf t.working path) init = .error .notFound
  · by_cases hup : ".." ∈ init
    · right; right
      constructor
      · rw [← hsteps]
        exact List.mem_append_left _ hup
      · rw [locate, ← hsteps]
        exact walk_append_missing hmissing
    · right; left
      obtain ⟨first, more, rfl, hmore, l, other, hfirst, hother⟩ :=
        passed_of_walk hwell h hmissing hup hplace hentry
      rw [List.append_assoc] at hsteps
      have hrest : more ++ rest ≠ [] := by simp [hmore]
      exact .of_append hsteps.symm hrest (linkAt_iff.mpr ⟨l, other, hfirst, hother⟩)
  · have hlinked : t.linkAt (startOf t.working path) init := by
      rw [linkAt_iff]
      refine ⟨location, target, ?_, (h.link_iff _ _).mp hentry⟩
      rw [← h.walk hmissing]
      exact hplace
    by_cases hrest : rest = []
    · left
      rw [hrest, List.append_nil] at hsteps
      rw [isLink_eq_linkAt, ← hsteps]
      exact hlinked
    · right; left
      exact .of_append hsteps.symm hrest hlinked

theorem Grows.isLink (h : t.Grows t') (hlink : t.isLink path = true) : t'.isLink path = true := by
  rw [isLink_eq_linkAt, linkAt_iff] at hlink ⊢
  obtain ⟨location, target, hplace, hentry⟩ := hlink
  exact ⟨location, target, h.locate_eq_ok hplace, (h.link_iff _ _).mpr hentry⟩

theorem PassesLink.grows (hpasses : t.PassesLink path) (h : t.Grows t') : t'.PassesLink path := by
  obtain ⟨init, hinit, hlink⟩ := hpasses
  obtain ⟨location, target, hplace, hentry⟩ := linkAt_iff.mp hlink
  refine ⟨init, hinit, linkAt_iff.mpr ⟨location, target, ?_, (h.link_iff _ _).mpr hentry⟩⟩
  rw [h.working_eq, h.walk (by simp [hplace])]
  exact hplace

/-- No link is passed on the way to a file that is found below the working directory. -/
theorem WellFormed.not_passesLink (h : t.WellFormed) (hpath : path ∈ t.pathsBelow) :
    ¬t.PassesLink path := by
  obtain ⟨names, hnames, rfl⟩ := List.mem_map.mp hpath
  obtain ⟨content, hfile⟩ := h.mem_filesBelow_iff.mp hnames
  have hproper := h.isName_of_mem_filesBelow hnames
  rintro ⟨init, hinit, hlink⟩
  rw [Path.steps_intercalate (h.ne_nil_of_mem_filesBelow hnames) hproper, List.mem_inits] at hinit
  obtain ⟨rest, rfl⟩ := hinit
  obtain ⟨entry, hentry, hplain⟩ : ∃ entry, t.entryAt (t.working ++ init) = some entry ∧
      ∀ target, entry ≠ .link target := by
    by_cases hrest : rest = []
    · rw [hrest, List.append_nil] at hfile
      exact ⟨_, hfile, by simp⟩
    · rw [← List.append_assoc] at hfile
      exact ⟨_, h.entryAt_append hrest hfile, by simp⟩
  have hwalk : t.walk false linkLimit t.working init = .ok (t.working ++ init) :=
    h.walk_names hentry hplain
  obtain ⟨location, target, hplace, hlinked⟩ := linkAt_iff.mp hlink
  rw [startOf, Path.isAbsolute_intercalate hproper, if_neg (by decide), hwalk] at hplace
  obtain rfl := Except.ok.inj hplace
  rw [hentry] at hlinked
  exact hplain target (Option.some.inj hlinked)

end FileTree

end Relint
