import Relint.Files.Discovery
import Relint.Proofs.Files.Visited
import Relint.Proofs.Files.Writing
import Relint.Proofs.Traversal

/-!
What a search for source files depends on. A file that is found below the working directory
stands where its path leads, with nothing but directories on the way. So a search finds the
same files in a tree that has grown, if nothing has changed along the paths it finds there.
-/

namespace Relint

namespace FileTree

variable {t t' : FileTree} {names : List String} {directory : Location} {follow : Bool}

/-- The paths of the files below the working directory. -/
def pathsBelow (t : FileTree) : List String :=
  t.filesBelow.map fun names => "/".intercalate names

theorem mem_filesBelow :
    names ∈ t.filesBelow ↔ ∃ content, (t.working ++ names, Entry.file content) ∈ t.entries := by
  rw [filesBelow_eq, List.mem_filterMap]
  constructor
  · rintro ⟨⟨location, entry⟩, hmem, hbelow⟩
    cases entry with
    | file content =>
        simp only [fileBelow?] at hbelow
        split at hbelow
        · rename_i hprefix
          obtain ⟨rest, rfl⟩ := List.isPrefixOf_iff_prefix.mp hprefix
          rw [List.drop_left] at hbelow
          exact ⟨content, Option.some.inj hbelow ▸ hmem⟩
        · cases hbelow
    | directory | link => cases hbelow
  · rintro ⟨content, hmem⟩
    refine ⟨_, hmem, ?_⟩
    simp [fileBelow?]

theorem WellFormed.mem_filesBelow_iff (h : t.WellFormed) :
    names ∈ t.filesBelow ↔ ∃ content, t.entryAt (t.working ++ names) = some (.file content) := by
  rw [mem_filesBelow]
  constructor
  · rintro ⟨content, hmem⟩
    exact ⟨content, h.entryAt_of_mem hmem⟩
  · rintro ⟨content, hentry⟩
    refine ⟨content, mem_of_entryAt (ne_root_of_entryAt_ne (t := t) ?_) hentry⟩
    simp [hentry]

theorem WellFormed.nodup_filesBelow (h : t.WellFormed) : t.filesBelow.Nodup := by
  have hlocations : t.entries.Pairwise fun entry entry' => entry.1 ≠ entry'.1 :=
    List.pairwise_map.mp h.nodup
  rw [filesBelow_eq]
  refine hlocations.filterMap _ ?_
  rintro entry entry' hne names hnames _ hnames' rfl
  have hplace : ∀ {entry : Location × Entry}, fileBelow? t.working entry = some names →
      entry.1 = t.working ++ names := by
    intro entry hbelow
    unfold fileBelow? at hbelow
    split at hbelow
    · split at hbelow
      · rename_i hprefix
        obtain ⟨rest, hrest⟩ := List.isPrefixOf_iff_prefix.mp hprefix
        rw [← hrest, List.drop_left] at hbelow
        rw [← hrest, Option.some.inj hbelow]
      · cases hbelow
    · cases hbelow
  exact hne ((hplace hnames).trans (hplace hnames').symm)

/-- The names that lead from a directory to a file or to a directory are walked one by one:
links cannot be on the way. -/
theorem WellFormed.walkUntil_names (h : t.WellFormed)
    {jump : Location → List String → Except FileFault Location} {entry : Entry}
    (hentry : t.entryAt (directory ++ names) = some entry)
    (hplain : ∀ target, entry ≠ .link target) :
    t.walkUntil follow jump directory names = .ok (directory ++ names) := by
  induction names generalizing directory with
  | nil => simp [FileTree.walkUntil]
  | cons name rest ih =>
      have hname : Path.IsName name := h.isName_of_entryAt hentry name (by simp)
      have hsplit : directory ++ name :: rest = directory ++ [name] ++ rest := by simp
      rw [hsplit] at hentry ⊢
      simp only [FileTree.walkUntil, hname.2.1, hname.2.2.1, if_false]
      by_cases hlast : rest = []
      · subst hlast
        rw [List.append_nil] at hentry ⊢
        cases entry with
        | file content => simp [hentry]
        | directory => simp [hentry, FileTree.walkUntil]
        | link target => exact absurd rfl (hplain target)
      · rw [h.entryAt_append hlast hentry]
        exact ih hentry

theorem WellFormed.walk_names (h : t.WellFormed) {links : Nat} {entry : Entry}
    (hentry : t.entryAt (directory ++ names) = some entry)
    (hplain : ∀ target, entry ≠ .link target) :
    t.walk follow links directory names = .ok (directory ++ names) := by
  cases links with
  | zero => exact h.walkUntil_names hentry hplain
  | succ links => exact h.walkUntil_names hentry hplain

theorem WellFormed.ne_nil_of_mem_filesBelow (h : t.WellFormed) (hnames : names ∈ t.filesBelow) :
    names ≠ [] := by
  rintro rfl
  obtain ⟨content, hentry⟩ := h.mem_filesBelow_iff.mp hnames
  simp [h.working] at hentry

theorem WellFormed.isName_of_mem_filesBelow (h : t.WellFormed) (hnames : names ∈ t.filesBelow) :
    ∀ name ∈ names, Path.IsName name := by
  obtain ⟨content, hentry⟩ := h.mem_filesBelow_iff.mp hnames
  intro name hname
  exact h.isName_of_entryAt hentry name (List.mem_append_right _ hname)

/-- The path of a file below the working directory leads to that file. -/
theorem WellFormed.locate_of_mem_filesBelow (h : t.WellFormed) (hnames : names ∈ t.filesBelow) :
    t.locate follow ("/".intercalate names) = .ok (t.working ++ names) := by
  obtain ⟨content, hentry⟩ := h.mem_filesBelow_iff.mp hnames
  have hproper := h.isName_of_mem_filesBelow hnames
  rw [FileTree.locate, startOf, Path.isAbsolute_intercalate hproper,
    Path.steps_intercalate (h.ne_nil_of_mem_filesBelow hnames) hproper]
  refine h.walk_names hentry ?_
  intro target hlink
  cases hlink

theorem Grows.mem_pathsBelow (h : t.Grows t') {path : String} (hpath : path ∈ t.pathsBelow) :
    path ∈ t'.pathsBelow := by
  obtain ⟨new, hnew⟩ := h.filesBelow
  rw [pathsBelow, hnew, List.map_append]
  exact List.mem_append_left _ hpath

end FileTree

namespace SourceSearch

open FileTree

variable {t t' : FileTree} {search : SourceSearch} {patterns paths : List String} {path : String}

/-- The paths that a search comes upon, before they are put in order. -/
def found (search : SourceSearch) (t : FileTree) (patterns : List String) :
    Except DiscoveryFault (List String) :=
  (patterns.mapM (readPattern t)).map fun patterns =>
    (patterns.filterMap Pattern.file? ++
      matchedFiles t (patterns.filterMap Pattern.glob?)).filter (!search.ignores ·)

theorem discover_eq_map_found (search : SourceSearch) (t : FileTree) (patterns : List String) :
    search.discover t patterns = (search.found t patterns).map (sortPaths t) := by
  rw [discover, found]
  cases patterns.mapM (readPattern t) <;> rfl

section Order

theorem fullNames_congr (h : t'.working = t.working) : fullNames t' = fullNames t := by
  funext path
  rw [fullNames, fullNames, h]

theorem mergeNeighbours_congr (h : t'.working = t.working) (paths : List String) :
    mergeNeighbours t' paths = mergeNeighbours t paths := by
  fun_induction mergeNeighbours t paths with
  | case1 a b rest hsame ih =>
      rw [mergeNeighbours, fullNames_congr h, if_pos hsame, ih]
  | case2 a b rest hdistinct ih =>
      rw [mergeNeighbours, fullNames_congr h, if_neg hdistinct, ih]
  | case3 paths hshort =>
      rw [mergeNeighbours]
      exact hshort

/-- The order of paths depends on the working directory alone. -/
theorem sortPaths_congr (h : t'.working = t.working) : sortPaths t' = sortPaths t := by
  funext paths
  rw [sortPaths, sortPaths, mergeNeighbours_congr h, fullNames_congr h]

theorem mem_of_mem_mergeNeighbours (h : path ∈ mergeNeighbours t paths) : path ∈ paths := by
  fun_induction mergeNeighbours t paths with
  | case1 a b rest hsame ih =>
      rcases List.mem_cons.mp (ih h) with hhead | hrest
      · exact List.mem_cons.mpr (Or.inl hhead)
      · exact List.mem_cons_of_mem _ (List.mem_cons_of_mem _ hrest)
  | case2 a b rest hdistinct ih =>
      rcases List.mem_cons.mp h with hhead | hrest
      · exact List.mem_cons.mpr (Or.inl hhead)
      · exact List.mem_cons_of_mem _ (ih hrest)
  | case3 paths hshort => exact h

/-- Of the neighbours with the same names one stays. -/
theorem exists_mem_mergeNeighbours (h : path ∈ paths) :
    ∃ kept ∈ mergeNeighbours t paths, fullNames t kept = fullNames t path := by
  fun_induction mergeNeighbours t paths generalizing path with
  | case1 a b rest hsame ih =>
      rcases List.mem_cons.mp h with rfl | htail
      · exact ih List.mem_cons_self
      · rcases List.mem_cons.mp htail with rfl | hrest
        · rw [← hsame]
          exact ih List.mem_cons_self
        · exact ih (List.mem_cons_of_mem _ hrest)
  | case2 a b rest hdistinct ih =>
      rcases List.mem_cons.mp h with rfl | htail
      · exact ⟨path, List.mem_cons_self, rfl⟩
      · obtain ⟨kept, hkept, hsame⟩ := ih htail
        exact ⟨kept, List.mem_cons_of_mem _ hkept, hsame⟩
  | case3 paths hshort => exact ⟨path, h, rfl⟩

theorem exists_mem_sortPaths (h : path ∈ paths) :
    ∃ kept ∈ sortPaths t paths, fullNames t kept = fullNames t path :=
  exists_mem_mergeNeighbours (List.mem_mergeSort.mpr h)

theorem mem_of_mem_sortPaths (h : path ∈ sortPaths t paths) : path ∈ paths :=
  List.mem_mergeSort.mp (mem_of_mem_mergeNeighbours h)

end Order

section Origin

theorem file?_eq_some_iff {pattern : String} {reading : Pattern}
    (h : readPattern t pattern = .ok reading) :
    reading.file? = some path ↔ path = pattern ∧ t.isPlainFile path = true := by
  rw [readPattern] at h
  split at h
  · rename_i hfile
    obtain rfl := Except.ok.inj h
    rw [Pattern.file?, Option.some.injEq]
    constructor
    · rintro rfl
      exact ⟨rfl, hfile⟩
    · rintro ⟨rfl, _⟩
      rfl
  · rename_i hfile
    rw [mapError_eq_ok_iff, map_eq_ok_iff] at h
    obtain ⟨glob, _, rfl⟩ := h
    constructor
    · rintro ⟨⟩
    · rintro ⟨rfl, hplain⟩
      exact absurd hplain hfile

/-- The patterns that name a file are those that lead to one without a link at their end. -/
theorem mem_named_iff {readings : List Pattern}
    (h : patterns.mapM (readPattern t) = .ok readings) :
    path ∈ readings.filterMap Pattern.file? ↔ path ∈ patterns ∧ t.isPlainFile path = true := by
  induction patterns generalizing readings with
  | nil =>
      obtain rfl := Except.ok.inj h
      simp
  | cons pattern rest ih =>
      obtain ⟨reading, others, hreading, hothers, rfl⟩ := mapM_cons_eq_ok_iff.mp h
      have hrest := ih hothers
      rw [List.mem_filterMap] at hrest ⊢
      rw [List.exists_mem_cons_iff, hrest, file?_eq_some_iff hreading, List.mem_cons, or_and_right]

/-- The paths that are found are those that patterns name and those of files that their globs
match, less what is left out. -/
theorem mem_found_iff (h : search.found t patterns = .ok paths) :
    ∃ globs, ∀ path, path ∈ paths ↔
      ((path ∈ patterns ∧ t.isPlainFile path = true) ∨ path ∈ matchedFiles t globs) ∧
        search.ignores path = false := by
  obtain ⟨readings, hreadings, rfl⟩ := map_eq_ok_iff.mp h
  refine ⟨readings.filterMap Pattern.glob?, fun path => ?_⟩
  rw [List.mem_filter, List.mem_append, mem_named_iff hreadings, Bool.not_eq_true']

/-- A path that is found is one that a pattern names, or that of a file below the working
directory. -/
theorem mem_of_found (h : search.found t patterns = .ok paths) (hpath : path ∈ paths) :
    path ∈ patterns ∨ path ∈ t.pathsBelow := by
  obtain ⟨globs, hfound⟩ := mem_found_iff h
  rcases ((hfound path).mp hpath).1 with ⟨hnamed, _⟩ | hmatched
  · exact Or.inl hnamed
  · exact Or.inr (List.mem_filter.mp hmatched).1

theorem found_of_discover {files : List String} (h : search.discover t patterns = .ok files) :
    ∃ paths, search.found t patterns = .ok paths ∧ files = sortPaths t paths := by
  rw [discover_eq_map_found] at h
  obtain ⟨paths, hpaths, rfl⟩ := map_eq_ok_iff.mp h
  exact ⟨paths, hpaths, rfl⟩

/-- What a search finds is not left out and is named by a pattern or below the working
directory. -/
theorem mem_of_discover {files : List String} (h : search.discover t patterns = .ok files)
    (hpath : path ∈ files) :
    ((path ∈ patterns ∧ t.isPlainFile path = true) ∨ path ∈ t.pathsBelow) ∧
      search.ignores path = false := by
  obtain ⟨paths, hpaths, rfl⟩ := found_of_discover h
  obtain ⟨globs, hfound⟩ := mem_found_iff hpaths
  obtain ⟨horigin, hkept⟩ := (hfound path).mp (mem_of_mem_sortPaths hpath)
  exact ⟨horigin.imp_right fun hmatched => (List.mem_filter.mp hmatched).1, hkept⟩

/-- A file that a pattern names and that is not left out is found, perhaps in another
spelling. -/
theorem exists_mem_of_discover {files : List String} (h : search.discover t patterns = .ok files)
    (hnamed : path ∈ patterns) (hfile : t.isPlainFile path = true)
    (hkept : search.ignores path = false) :
    ∃ file ∈ files, fullNames t file = fullNames t path := by
  obtain ⟨paths, hpaths, rfl⟩ := found_of_discover h
  obtain ⟨globs, hfound⟩ := mem_found_iff hpaths
  exact exists_mem_sortPaths ((hfound path).mpr ⟨Or.inl ⟨hnamed, hfile⟩, hkept⟩)

end Origin

section Growth

theorem readings_congr (hworking : t'.working = t.working)
    (h : ∀ pattern ∈ patterns, t.SameAlong t' false pattern) :
    patterns.mapM (readPattern t') = patterns.mapM (readPattern t) := by
  induction patterns with
  | nil => rfl
  | cons pattern rest ih =>
      obtain ⟨hpattern, hrest⟩ := List.forall_mem_cons.mp h
      rw [List.mapM_cons, List.mapM_cons, ih hrest, readPattern, readPattern,
        hpattern.isPlainFile hworking]

/-- A file below the working directory is no new one where nothing has changed along its
path. -/
theorem mem_filesBelow_of_sameAlong {names : List String} (h : t.WellFormed) (h' : t'.WellFormed)
    (hworking : t'.working = t.working) (hnames : names ∈ t'.filesBelow)
    (hsame : t.SameAlong t' true ("/".intercalate names)) : names ∈ t.filesBelow := by
  have hplace : t'.locate true ("/".intercalate names) = .ok (t'.working ++ names) :=
    h'.locate_of_mem_filesBelow hnames
  rw [hsame.locate hworking, hworking] at hplace
  obtain ⟨content, hentry⟩ := h'.mem_filesBelow_iff.mp hnames
  rw [hworking, hsame.entryAt hplace] at hentry
  exact h.mem_filesBelow_iff.mpr ⟨content, hentry⟩

/-- What is matched in a tree that has grown comes behind what was matched before, and these
are files that were not there. -/
theorem matchedFiles_eq_append (hwell : t.WellFormed) (hevolves : t.Evolves t')
    (globs : List Glob) :
    ∃ added, matchedFiles t' globs = matchedFiles t globs ++ added ∧
      ∀ path ∈ added, ∃ names, names ∈ t'.filesBelow ∧ names ∉ t.filesBelow ∧
        path = "/".intercalate names := by
  obtain ⟨new, hnew⟩ := hevolves.grows.filesBelow
  have hnodup := (hevolves.wellFormed hwell).nodup_filesBelow
  rw [hnew] at hnodup
  refine ⟨(new.map fun names => "/".intercalate names).filter fun path =>
    globs.any (·.matches path), ?_, ?_⟩
  · rw [matchedFiles, matchedFiles, hnew, List.map_append, List.filter_append]
  · intro path hpath
    obtain ⟨names, hnames, rfl⟩ := List.mem_map.mp (List.mem_filter.mp hpath).1
    refine ⟨names, hnew ▸ List.mem_append_right _ hnames, ?_, rfl⟩
    intro hold
    exact (List.nodup_append.mp hnodup).2.2 names hold names hnames rfl

/-- A search finds what it finds in a tree that has grown, if nothing has changed along the
patterns and along the paths that it finds. -/
theorem found_eq_of_sameAlong (hwell : t.WellFormed) (hevolves : t.Evolves t')
    (hpatterns : ∀ pattern ∈ patterns, t.SameAlong t' false pattern)
    (hfound : search.found t' patterns = .ok paths)
    (hpaths : ∀ path ∈ paths, t.SameAlong t' true path) :
    search.found t patterns = .ok paths := by
  have hworking := hevolves.grows.working_eq
  rw [found, readings_congr hworking hpatterns] at hfound
  obtain ⟨readings, hreadings, rfl⟩ := map_eq_ok_iff.mp hfound
  obtain ⟨added, hmatched, hadded⟩ :=
    matchedFiles_eq_append hwell hevolves (readings.filterMap Pattern.glob?)
  rw [hmatched, ← List.append_assoc, List.filter_append] at hpaths ⊢
  have hnone : added.filter (!search.ignores ·) = [] := by
    rw [List.eq_nil_iff_forall_not_mem]
    intro path hpath
    obtain ⟨names, hnames, hnew, rfl⟩ := hadded path (List.mem_filter.mp hpath).1
    have hsame := hpaths _ (List.mem_append_right _ hpath)
    exact hnew (mem_filesBelow_of_sameAlong hwell (hevolves.wellFormed hwell) hworking hnames
      hsame)
  rw [found, hreadings, hnone, List.append_nil]
  rfl

end Growth

end SourceSearch

end Relint
