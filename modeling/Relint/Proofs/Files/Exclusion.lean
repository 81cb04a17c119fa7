import Relint.Proofs.Files.Discovery
import Relint.Proofs.Glob.Directory

/-!
What the exclusions of a search keep from the files that it finds. A file has one path from the
working directory on, but a pattern can spell it in many ways, and a path is tested as it is
spelled. The built-in exclusions ask for the directories on the way only, which every spelling
has, so they hold for all files that are found. The globs of a user hold for the files that are
found below the working directory and for those that a pattern spells plainly.
-/

namespace Relint

namespace SourceSearch

open FileTree

variable {t : FileTree} {search : SourceSearch} {globs patterns files : List String}
  {path : String}

/-- Whether some text of a list is a glob that matches a path. -/
def SomeMatches (globs : List String) (path : String) : Prop :=
  ∃ text ∈ globs, ∃ glob, Glob.read text = .ok glob ∧ glob.matches path = true

theorem someMatches_append {others : List String} :
    SomeMatches (globs ++ others) path ↔ SomeMatches globs path ∨ SomeMatches others path := by
  simp only [SomeMatches, List.mem_append, or_and_right, exists_or]

theorem someMatches_iff {exclusions : List Glob}
    (h : List.Forall₂ (fun text glob => Glob.read text = .ok glob) globs exclusions) :
    SomeMatches globs path ↔ exclusions.any (·.matches path) = true := by
  induction h with
  | nil => simp [SomeMatches]
  | cons hread _ ih =>
      rw [List.any_cons, Bool.or_eq_true, ← ih, SomeMatches, List.exists_mem_cons_iff]
      simp only [hread, Except.ok.injEq, exists_eq_left']
      rfl

theorem excluding_eq_ok_iff :
    excluding globs = .ok search ↔
      List.Forall₂ (fun text glob => Glob.read text = .ok glob) (builtinExclusions ++ globs)
        search.exclusions := by
  rw [excluding, map_eq_ok_iff]
  simp only [mapM_eq_ok_iff, mapError_eq_ok_iff]
  constructor
  · rintro ⟨exclusions, hread, rfl⟩
    exact hread
  · intro hread
    exact ⟨search.exclusions, hread, rfl⟩

/-- A search leaves out what the built-in exclusions match and what its globs do. -/
theorem ignores_iff (h : excluding globs = .ok search) :
    search.ignores path = true ↔ SomeMatches (builtinExclusions ++ globs) path :=
  (someMatches_iff (excluding_eq_ok_iff.mp h)).symm

theorem read_nodeModules :
    Glob.read "**/node_modules/**" = .ok (Glob.inDirectory "node_modules".toList) :=
  Glob.read_inDirectory (by decide) (by decide)

theorem read_git : Glob.read "**/.git/**" = .ok (Glob.inDirectory ".git".toList) :=
  Glob.read_inDirectory (by decide) (by decide)

/-- Each built-in exclusion is for what is in a directory of some name. -/
theorem read_builtinExclusions {text : String} (h : text ∈ builtinExclusions) :
    ∃ name : List Char, '/' ∉ name ∧ Glob.read text = .ok (Glob.inDirectory name) := by
  rw [builtinExclusions, List.mem_cons, List.mem_singleton] at h
  rcases h with rfl | rfl
  · exact ⟨_, by decide, read_nodeModules⟩
  · exact ⟨_, by decide, read_git⟩

section Relative

/-- The path of a file from the working directory on. Empty pieces and dots in the spelling do not
count, and where it does not lead through the working directory, there is no such path. -/
def relativePath? (t : FileTree) (path : String) : Option String :=
  if t.working <+: fullNames t path then
    some ("/".intercalate ((fullNames t path).drop t.working.length))
  else none

theorem fullNames_eq (t : FileTree) (path : String) :
    fullNames t path = startOf t.working path ++ Path.counted path := by
  rw [fullNames, startOf]
  split
  · rename_i habsolute
    rw [Path.names_of_absolute habsolute, List.nil_append]
  · rw [Path.filter_names]

theorem relativePath?_of_isPlain (h : Path.IsPlain path) : relativePath? t path = some path := by
  have hnames : fullNames t path = t.working ++ Path.pieces path := by
    rw [fullNames_eq, startOf, Path.not_isAbsolute_of_isPlain h, Path.counted_of_isPlain h]
    rfl
  rw [relativePath?, hnames, if_pos (List.prefix_append _ _), List.drop_left,
    Path.intercalate_pieces]

theorem relativePath?_eq_some_iff {relative : String} :
    relativePath? t path = some relative ↔
      ∃ names, fullNames t path = t.working ++ names ∧ "/".intercalate names = relative := by
  rw [relativePath?]
  constructor
  · intro h
    split at h
    · rename_i hprefix
      obtain ⟨names, hnames⟩ := hprefix
      refine ⟨names, hnames.symm, ?_⟩
      rw [← hnames, List.drop_left] at h
      exact Option.some.inj h
    · cases h
  · rintro ⟨names, hnames, rfl⟩
    rw [hnames, if_pos (List.prefix_append _ _), List.drop_left]

/-- The path of a file goes through no directories but those that its spelling has. -/
theorem directories_relativePath?_subset {relative : String}
    (h : relativePath? t path = some relative) :
    Path.directories relative ⊆ Path.directories path := by
  obtain ⟨names, hnames, rfl⟩ := relativePath?_eq_some_iff.mp h
  have hcounted : names <:+ Path.counted path := by
    rw [fullNames_eq, startOf] at hnames
    split at hnames
    · exact ⟨t.working, hnames.symm⟩
    · exact List.append_cancel_left hnames ▸ List.suffix_rfl
  have hpieces : names.Sublist (Path.pieces path) := hcounted.sublist.trans List.filter_sublist
  by_cases hne : names = []
  · have hempty : Path.directories ("/".intercalate []) = [] := by decide +kernel
    rw [hne, hempty]
    exact List.nil_subset _
  · have hdirectories : names.dropLast.Sublist (Path.pieces path).dropLast := by
      simpa using hpieces.reverse.tail
    have hslashes : ∀ name ∈ names, '/' ∉ name.toList := fun name hname =>
      Path.slash_not_mem_pieces (hpieces.subset hname)
    rw [Path.directories, Path.directories, Path.pieces_intercalate hne hslashes]
    exact hdirectories.subset

/-- Whether some of the globs matches the path that a file has from the working directory on,
however it is spelled. -/
def Covers (t : FileTree) (globs : List String) (path : String) : Prop :=
  ∃ relative, relativePath? t path = some relative ∧ SomeMatches globs relative

theorem Covers.of_fullNames {path' : String} (h : Covers t globs path)
    (hsame : fullNames t path' = fullNames t path) : Covers t globs path' := by
  rw [Covers, relativePath?, hsame]
  exact h

theorem covers_iff_of_isPlain (h : Path.IsPlain path) :
    Covers t globs path ↔ SomeMatches globs path := by
  simp [Covers, relativePath?_of_isPlain h]

/-- What a built-in exclusion covers it matches in every spelling. -/
theorem someMatches_of_covers_builtin (h : Covers t builtinExclusions path) :
    SomeMatches builtinExclusions path := by
  obtain ⟨relative, hrelative, text, htext, glob, hglob, hmatches⟩ := h
  obtain ⟨name, hname, hread⟩ := read_builtinExclusions htext
  obtain rfl : Glob.inDirectory name = glob := Except.ok.inj (hread.symm.trans hglob)
  refine ⟨text, htext, _, hread, ?_⟩
  rw [Glob.matches_inDirectory_iff hname] at hmatches ⊢
  exact directories_relativePath?_subset hrelative hmatches

end Relative

theorem isPlain_of_mem_pathsBelow (h : t.WellFormed) (hpath : path ∈ t.pathsBelow) :
    Path.IsPlain path := by
  obtain ⟨names, hnames, rfl⟩ := List.mem_map.mp hpath
  exact Path.isPlain_intercalate (h.ne_nil_of_mem_filesBelow hnames)
    (h.isName_of_mem_filesBelow hnames)

/-- Whether a pattern names a file that the globs cover, in a spelling that nothing matches. -/
structure Escapes (t : FileTree) (globs : List String) (pattern : String) : Prop where
  isPlainFile : t.isPlainFile pattern = true
  covers : Covers t globs pattern
  unmatched : ¬SomeMatches (builtinExclusions ++ globs) pattern

theorem escapes_of_covers (hwell : t.WellFormed) (hsearch : excluding globs = .ok search)
    (hfiles : search.discover t patterns = .ok files) (hpath : path ∈ files)
    (hcovers : Covers t globs path) :
    path ∈ patterns ∧ ¬Path.IsPlain path ∧ Escapes t globs path := by
  obtain ⟨horigin, hkept⟩ := mem_of_discover hfiles hpath
  have hunmatched : ¬SomeMatches (builtinExclusions ++ globs) path := by
    rw [← ignores_iff hsearch, hkept]
    exact Bool.false_ne_true
  have hspelling : ¬Path.IsPlain path := by
    intro hplain
    rw [covers_iff_of_isPlain hplain] at hcovers
    exact hunmatched (someMatches_append.mpr (Or.inr hcovers))
  rcases horigin with ⟨hnamed, hfile⟩ | hbelow
  · exact ⟨hnamed, hspelling, hfile, hcovers, hunmatched⟩
  · exact absurd (isPlain_of_mem_pathsBelow hwell hbelow) hspelling

/-- No file is found that a built-in exclusion covers, and one that a glob of the user covers is
named by a pattern, with an empty piece or a dot in its path. There is such a file exactly if a
pattern names one in a spelling that nothing matches. -/
theorem discover_covers (hwell : t.WellFormed) (hsearch : excluding globs = .ok search)
    (hfiles : search.discover t patterns = .ok files) :
    (∀ path ∈ files, ¬Covers t builtinExclusions path) ∧
      (∀ path ∈ files, Covers t globs path → path ∈ patterns ∧ ¬Path.IsPlain path) ∧
      ((∃ path ∈ files, Covers t globs path) ↔ ∃ pattern ∈ patterns, Escapes t globs pattern) := by
  refine ⟨?_, ?_, ?_, ?_⟩
  · intro path hpath hcovers
    have hignored : search.ignores path = true :=
      (ignores_iff hsearch).mpr
        (someMatches_append.mpr (Or.inl (someMatches_of_covers_builtin hcovers)))
    exact Bool.false_ne_true ((mem_of_discover hfiles hpath).2.symm.trans hignored)
  · intro path hpath hcovers
    obtain ⟨hnamed, hspelling, _⟩ := escapes_of_covers hwell hsearch hfiles hpath hcovers
    exact ⟨hnamed, hspelling⟩
  · rintro ⟨path, hpath, hcovers⟩
    obtain ⟨hnamed, _, hescapes⟩ := escapes_of_covers hwell hsearch hfiles hpath hcovers
    exact ⟨path, hnamed, hescapes⟩
  · rintro ⟨pattern, hpattern, hescapes⟩
    have hkept : search.ignores pattern = false :=
      Bool.eq_false_iff.mpr fun hignored =>
        hescapes.unmatched ((ignores_iff hsearch).mp hignored)
    obtain ⟨file, hfile, hsame⟩ :=
      exists_mem_of_discover hfiles hpattern hescapes.isPlainFile hkept
    exact ⟨file, hfile, hescapes.covers.of_fullNames hsame⟩

/-- A project with a source that others have written. -/
def vendoredProject : FileTree :=
  .ofEntries [(["project", "vendor", "a.ts"], .file (.text ""))] ["project"] "/project"

/-- The glob for what others have written. -/
def vendored : Glob :=
  ⟨"vendor".toList.map .literal ++ [.trailingPath]⟩

/-- The search that leaves out what others have written. -/
def ownSources : SourceSearch :=
  ⟨[Glob.inDirectory "node_modules".toList, Glob.inDirectory ".git".toList, vendored]⟩

theorem read_vendored : Glob.read "vendor/**" = .ok vendored :=
  Glob.read_below (by decide) (by decide)

theorem excluding_vendored : excluding ["vendor/**"] = .ok ownSources :=
  excluding_eq_ok_iff.mpr
    (.cons read_nodeModules (.cons read_git (.cons read_vendored .nil)))

theorem vendored_covers : Covers vendoredProject ["vendor/**"] "./vendor/a.ts" :=
  ⟨"vendor/a.ts", by decide +kernel, "vendor/**", List.mem_singleton_self _, vendored,
    read_vendored, by decide +kernel⟩

theorem vendoredProject_escaped :
    vendoredProject.WellFormed ∧ excluding ["vendor/**"] = .ok ownSources ∧
      ownSources.discover vendoredProject ["vendor/a.ts", "./vendor/a.ts"] =
        .ok ["./vendor/a.ts"] ∧
      ∃ pattern ∈ ["vendor/a.ts", "./vendor/a.ts"],
        Escapes vendoredProject ["vendor/**"] pattern := by
  have hwell : vendoredProject.WellFormed :=
    ⟨by decide +kernel, by decide +kernel, by decide +kernel⟩
  have hfiles : ownSources.discover vendoredProject ["vendor/a.ts", "./vendor/a.ts"] =
      .ok ["./vendor/a.ts"] := by decide +kernel
  have hfound := discover_covers hwell excluding_vendored hfiles
  exact ⟨hwell, excluding_vendored, hfiles,
    hfound.2.2.mp ⟨"./vendor/a.ts", List.mem_singleton_self _, vendored_covers⟩⟩

/-- A dot before its path is enough for a file to be found although it is excluded. -/
theorem vendoredProject_found_covered :
    excluding ["vendor/**"] = .ok ownSources ∧
      ownSources.discover vendoredProject ["./vendor/a.ts"] = .ok ["./vendor/a.ts"] ∧
      Covers vendoredProject ["vendor/**"] "./vendor/a.ts" :=
  ⟨excluding_vendored, by decide +kernel, vendored_covers⟩

end SourceSearch

end Relint
