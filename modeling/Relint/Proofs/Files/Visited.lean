import Relint.Files.Tree

/-!
What following a path looks at. Two trees with the same entries at these locations cannot
be told apart by that path: it leads to the same place in both, and to the same content.
-/

namespace Relint

namespace FileTree

/-- The locations that steps look at until a link has to be followed, and those of the
`jump` that follows it. -/
def visitedUntil (t : FileTree) (follow : Bool) (jump : Location → List String → List Location)
    (directory : Location) : List String → List Location
  | [] => [directory]
  | name :: rest =>
      if name = "." then t.visitedUntil follow jump directory rest
      else if name = ".." then t.visitedUntil follow jump directory.dropLast rest
      else
        let location := directory ++ [name]
        location ::
          match t.entryAt location with
          | some .directory => t.visitedUntil follow jump location rest
          | some (.link target) =>
              if rest.isEmpty && !follow then []
              else jump (startOf directory target) (Path.steps target ++ rest)
          | _ => []

/-- The locations that a walk looks at. -/
def visited (t : FileTree) (follow : Bool) : Nat → Location → List String → List Location
  | 0 => t.visitedUntil follow fun _ _ => []
  | links + 1 => t.visitedUntil follow (t.visited follow links)

/-- The locations that a path looks at. -/
def visitedBy (t : FileTree) (follow : Bool) (path : String) : List Location :=
  t.visited follow linkLimit (startOf t.working path) (Path.steps path)

/-- Nothing that a path looks at has changed from one tree to another. -/
def SameAlong (t t' : FileTree) (follow : Bool) (path : String) : Prop :=
  ∀ l ∈ t.visitedBy follow path, t'.entryAt l = t.entryAt l

instance (t t' : FileTree) (follow : Bool) (path : String) :
    Decidable (t.SameAlong t' follow path) :=
  inferInstanceAs (Decidable (∀ l ∈ t.visitedBy follow path, t'.entryAt l = t.entryAt l))

variable {t t' : FileTree} {follow : Bool} {directory location : Location} {steps : List String}
  {path : String}

theorem mem_visitedUntil_cons {visits : Location → List String → List Location} {name : String}
    {rest : List String} (hdot : name ≠ ".") (hup : name ≠ "..") :
    directory ++ [name] ∈ t.visitedUntil follow visits directory (name :: rest) := by
  simp [visitedUntil, hdot, hup]

/-- The place that a walk ends at is the last one that it looks at. -/
theorem mem_visitedUntil {jump : Location → List String → Except FileFault Location}
    {visits : Location → List String → List Location}
    (hjump : ∀ directory steps, jump directory steps = .ok location →
      location ∈ visits directory steps)
    (h : t.walkUntil follow jump directory steps = .ok location) :
    location ∈ t.visitedUntil follow visits directory steps := by
  fun_induction t.walkUntil follow jump directory steps with
  | case1 directory => simpa [visitedUntil] using (Except.ok.inj h).symm
  | case2 directory rest ih => simpa [visitedUntil] using ih h
  | case3 directory rest hdot ih => simpa [visitedUntil] using ih h
  | case4 directory name rest hdot hup place hentry hlast =>
      obtain rfl := Except.ok.inj h
      exact mem_visitedUntil_cons hdot hup
  | case5 => cases h
  | case6 directory name rest hdot hup place hentry ih =>
      simpa [visitedUntil, hdot, hup, place, hentry] using Or.inr (ih h)
  | case7 directory name rest hdot hup place content hentry hlast =>
      obtain rfl := Except.ok.inj h
      exact mem_visitedUntil_cons hdot hup
  | case8 => cases h
  | case9 directory name rest hdot hup place target hentry hlast =>
      obtain rfl := Except.ok.inj h
      exact mem_visitedUntil_cons hdot hup
  | case10 directory name rest hdot hup place target hentry hfollow =>
      simpa [visitedUntil, hdot, hup, place, hentry, hfollow] using Or.inr (hjump _ _ h)

theorem mem_visited {links : Nat} (h : t.walk follow links directory steps = .ok location) :
    location ∈ t.visited follow links directory steps := by
  induction links generalizing directory steps with
  | zero =>
      apply mem_visitedUntil _ h
      intro _ _ hnone
      cases hnone
  | succ links ih => exact mem_visitedUntil (fun _ _ => ih) h

/-- A walk depends on the entries that it looks at and on nothing else. -/
theorem walkUntil_eq_of_visited {jump jump' : Location → List String → Except FileFault Location}
    {visits : Location → List String → List Location}
    (hjump : ∀ directory steps, (∀ l ∈ visits directory steps, t'.entryAt l = t.entryAt l) →
      jump' directory steps = jump directory steps)
    (h : ∀ l ∈ t.visitedUntil follow visits directory steps, t'.entryAt l = t.entryAt l) :
    t'.walkUntil follow jump' directory steps = t.walkUntil follow jump directory steps := by
  fun_induction t.walkUntil follow jump directory steps with
  | case1 directory => rfl
  | case2 directory rest ih => simpa [walkUntil] using ih (by simpa [visitedUntil] using h)
  | case3 directory rest hdot ih => simpa [walkUntil] using ih (by simpa [visitedUntil] using h)
  | case4 directory name rest hdot hup place hentry hlast
  | case5 directory name rest hdot hup place hentry hlast
  | case7 directory name rest hdot hup place content hentry hlast
  | case8 directory name rest hdot hup place content hentry hlast
  | case9 directory name rest hdot hup place target hentry hlast =>
      have hsame : t'.entryAt place = t.entryAt place := h _ (mem_visitedUntil_cons hdot hup)
      simp [walkUntil, hdot, hup, place, hsame, hentry, hlast]
  | case6 directory name rest hdot hup place hentry ih =>
      have hsame : t'.entryAt place = t.entryAt place := h _ (mem_visitedUntil_cons hdot hup)
      have hrest := ih fun l hl => h l (by simp [visitedUntil, hdot, hup, place, hentry, hl])
      simpa [walkUntil, hdot, hup, place, hsame, hentry] using hrest
  | case10 directory name rest hdot hup place target hentry hfollow =>
      have hsame : t'.entryAt place = t.entryAt place := h _ (mem_visitedUntil_cons hdot hup)
      have hrest := hjump (startOf directory target) (Path.steps target ++ rest) fun l hl =>
        h l (by simp [visitedUntil, hdot, hup, place, hentry, hfollow, hl])
      simpa [walkUntil, hdot, hup, place, hsame, hentry, hfollow] using hrest

theorem walk_eq_of_visited {links : Nat}
    (h : ∀ l ∈ t.visited follow links directory steps, t'.entryAt l = t.entryAt l) :
    t'.walk follow links directory steps = t.walk follow links directory steps := by
  induction links generalizing directory steps with
  | zero => exact walkUntil_eq_of_visited (fun _ _ _ => rfl) h
  | succ links ih => exact walkUntil_eq_of_visited (fun _ _ => ih) h

theorem SameAlong.locate (hworking : t'.working = t.working) (h : t.SameAlong t' follow path) :
    t'.locate follow path = t.locate follow path := by
  rw [FileTree.locate, FileTree.locate, hworking]
  exact walk_eq_of_visited h

theorem SameAlong.entryAt (h : t.SameAlong t' follow path)
    (hplace : t.locate follow path = .ok location) : t'.entryAt location = t.entryAt location :=
  h _ (mem_visited hplace)

theorem SameAlong.find? (hworking : t'.working = t.working) (h : t.SameAlong t' follow path) :
    t'.find? follow path = t.find? follow path := by
  rw [FileTree.find?, FileTree.find?, h.locate hworking]
  cases hplace : t.locate follow path with
  | error fault => rfl
  | ok location => exact h.entryAt hplace

theorem SameAlong.read (hworking : t'.working = t.working) (h : t.SameAlong t' true path) :
    t'.read path = t.read path := by
  rw [FileTree.read, FileTree.read, h.locate hworking]
  cases hplace : t.locate true path with
  | error fault => rfl
  | ok location => simp only [bind, Except.bind, h.entryAt hplace]

theorem SameAlong.isFile (hworking : t'.working = t.working) (h : t.SameAlong t' true path) :
    t'.isFile path = t.isFile path := by
  rw [FileTree.isFile, FileTree.isFile, h.find? hworking]

theorem SameAlong.isPlainFile (hworking : t'.working = t.working)
    (h : t.SameAlong t' false path) : t'.isPlainFile path = t.isPlainFile path := by
  rw [FileTree.isPlainFile, FileTree.isPlainFile, h.find? hworking]

end FileTree

end Relint
