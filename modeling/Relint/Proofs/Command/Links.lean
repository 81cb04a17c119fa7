import Relint.Proofs.Command.Steps
import Relint.Proofs.Files.Links

/-!
Where a run writes. Each of its writes changes one file, which stands where the path of the
write leads, and this path was no link when it was looked at. So a link can only be among
its directories, or come to light where the path led nowhere before its directories were
made. Sources that are found by a glob lie behind directories alone.
-/

namespace Relint

open FileTree FileAction

namespace Run

variable {o : Options} {t : FileTree} {path : String} {write : String × String}

/-- The paths that the options of a run name: what is written to, and what is searched for
comments. -/
def namedPaths (o : Options) : List String :=
  o.config :: (o.editor.toList ++ (o.comments.map searched).getD [])

theorem path_of_mem_written {text : String} (h : write ∈ written o path text) : write.1 = path := by
  rw [written] at h
  split at h
  · exact absurd h List.not_mem_nil
  · rw [List.mem_singleton.mp h]

theorem path_of_mem_configurationWrites (h : write ∈ configurationWrites o t) :
    write.1 ∈ namedPaths o := by
  rw [configurationWrites] at h
  split at h
  · rw [path_of_mem_written h]
    exact List.mem_cons_self
  · exact absurd h List.not_mem_nil

theorem path_of_mem_editorWrites (h : write ∈ editorWrites o t) : write.1 ∈ namedPaths o := by
  rw [editorWrites] at h
  cases hpath : o.editor with
  | none =>
      rw [hpath] at h
      exact absurd h List.not_mem_nil
  | some path =>
      rw [hpath] at h
      dsimp only at h
      split at h
      · rw [path_of_mem_written h]
        simp [namedPaths, hpath]
      · exact absurd h List.not_mem_nil

theorem path_of_convertSource? {c : String × CommentConversion}
    (h : convertSource? o t path = some c) : c.1 = path := by
  unfold convertSource? at h
  split at h
  · rw [← Option.some.inj h]
  · cases h

/-- A source that is written is one that a pattern names, or a file that is found below the
working directory. -/
theorem path_of_mem_sourceWrites {exclude : List String} (h : write ∈ sourceWrites o exclude t) :
    write.1 ∈ namedPaths o ∨ write.1 ∈ t.pathsBelow := by
  rw [sourceWrites] at h
  cases hcomments : o.comments with
  | none =>
      rw [hcomments] at h
      exact absurd h List.not_mem_nil
  | some patterns =>
      rw [hcomments] at h
      dsimp only at h
      split at h
      · rename_i files hplan
        obtain ⟨paths, hsearch, rfl⟩ := searchSources_of_planSources hplan
        obtain ⟨⟨path, c⟩, hc, hwrite⟩ := List.mem_flatMap.mp h
        obtain ⟨found, hfound, hconversion⟩ := List.mem_filterMap.mp hc
        have hpath : write.1 = found := by
          rw [← path_of_convertSource? hconversion]
          dsimp only at hwrite
          split at hwrite
          · exact path_of_mem_written hwrite
          · exact absurd hwrite List.not_mem_nil
        rw [hpath]
        rcases mem_of_searchSources hsearch (SourceSearch.mem_of_mem_sortPaths hfound) with
          hnamed | hbelow
        · left
          simp [namedPaths, hcomments, hnamed]
        · exact Or.inr hbelow
      · exact absurd h List.not_mem_nil

/-- What a run writes is named by its options or found below the working directory. -/
theorem path_of_mem_writes (h : write ∈ writes o t) :
    write.1 ∈ namedPaths o ∨ write.1 ∈ (runOptions o t).tree.pathsBelow := by
  rw [writes] at h
  rcases List.mem_append.mp h with hconfiguration | hlater
  · exact Or.inl (path_of_mem_configurationWrites hconfiguration)
  obtain ⟨converted, t₁, hconfiguration, hlater⟩ := mem_thereafter hlater
  rcases List.mem_append.mp hlater with heditor | hlater
  · exact Or.inl (path_of_mem_editorWrites heditor)
  obtain ⟨editor, t₂, heditor, hsource⟩ := mem_thereafter hlater
  rcases path_of_mem_sourceWrites hsource with hnamed | hbelow
  · exact Or.inl hnamed
  · right
    have hevolves : t₂.Evolves (runOptions o t).tree := by
      rw [tree_runOptions, migrate_eq, exec_bind, hconfiguration]
      dsimp only
      rw [exec_bind, heditor]
      exact ((writes_convertSources? o t₂ converted.exclude).bind_answer
        fun _ _ => ⟨_, rfl⟩).evolves
    exact hevolves.grows.mem_pathsBelow hbelow

end Run

section Lines

variable {arguments : List String} {t s : FileTree}

/-- What a command line writes, in its order: nothing unless it asks for a run. -/
def writesOf (arguments : List String) (t : FileTree) : List (String × String) :=
  match Options.read arguments with
  | .run o => Run.writes o t
  | .version | .help | .refused => []

/-- The paths that a command line names, whether as options or by default. -/
def namedBy (arguments : List String) : List String :=
  match Options.read arguments with
  | .run o => Run.namedPaths o
  | .version | .help | .refused => []

theorem tree_runArguments (arguments : List String) (t : FileTree) :
    (runArguments arguments t).tree = ((writeAll (writesOf arguments t)).exec t).2 := by
  rw [runArguments, writesOf]
  cases Options.read arguments with
  | run o => exact Run.tree_runOptions_writes o t
  | version | help | refused => rfl

theorem path_of_mem_writesOf {write : String × String} (h : write ∈ writesOf arguments t) :
    write.1 ∈ namedBy arguments ∨ write.1 ∈ (runArguments arguments t).tree.pathsBelow := by
  rw [writesOf] at h
  rw [namedBy, runArguments]
  cases hread : Options.read arguments with
  | run o =>
      rw [hread] at h
      exact Run.path_of_mem_writes h
  | version | help | refused =>
      rw [hread] at h
      exact absurd h List.not_mem_nil

/-- A command line comes to one of its writes: all before it have succeeded, and they have
made `s` of the tree. -/
def ComesTo (arguments : List String) (t s : FileTree) (path text : String) : Prop :=
  ∃ before rest, writesOf arguments t = before ++ (path, text) :: rest ∧
    (writeAll before).exec t = (.ok (), s)

theorem ComesTo.evolves {path text : String} (h : ComesTo arguments t s path text) :
    t.Evolves s ∧ ((writeFile path text).exec s).2.Evolves (runArguments arguments t).tree := by
  obtain ⟨before, rest, hwrites, hs⟩ := h
  constructor
  · have hbefore := evolves_writeAll before t
    rw [hs] at hbefore
    exact hbefore
  · rw [tree_runArguments, hwrites, exec_writeAll_append, hs]
    exact evolves_writeAll_cons path text rest s

/-- A command line does nothing to a tree but its writes, and the files that one of them
creates or changes are where its path leads. This path passes no link, unless the command
line names it and one of its directories is a link, or it leads nowhere before the run and
goes up on its way. -/
theorem writes_past_links (hwell : t.WellFormed) (arguments : List String) :
    (runArguments arguments t).tree = ((writeAll (writesOf arguments t)).exec t).2 ∧
      ∀ s path text location content, ComesTo arguments t s path text →
        ((writeFile path text).exec s).2.entryAt location = some (.file content) →
        s.entryAt location ≠ some (.file content) →
          ((writeFile path text).exec s).2.locate true path = .ok location ∧
            (((writeFile path text).exec s).2.PassesLink path → path ∈ namedBy arguments ∧
              (t.DirectoryLink path ∨
                ".." ∈ Path.steps path ∧ t.locate false path = .error .notFound)) := by
  refine ⟨tree_runArguments arguments t, ?_⟩
  intro s path text location content hcomes hfile hnew
  obtain ⟨hbefore, hafter⟩ := hcomes.evolves
  obtain ⟨hlink, hplace⟩ := changed_of_writeFile hfile hnew
  refine ⟨hplace, ?_⟩
  intro hpasses
  constructor
  · obtain ⟨before, rest, hwrites, _⟩ := hcomes
    have hmem : (path, text) ∈ writesOf arguments t := by simp [hwrites]
    rcases path_of_mem_writesOf hmem with hnamed | hbelow
    · exact hnamed
    · have hwell' : (runArguments arguments t).tree.WellFormed := by
        rw [tree_runArguments]
        exact (evolves_writeAll _ t).wellFormed hwell
      exact absurd (hpasses.grows hafter.grows) (hwell'.not_passesLink hbelow)
  · have hgrows := hbefore.grows.trans (evolves_writeFile path text s).grows
    rcases hpasses.before hwell hgrows with hlinked | hothers
    · -- The guard would have seen it.
      have hseen := hbefore.grows.isLink hlinked
      rw [hlink] at hseen
      cases hseen
    · exact hothers

end Lines

section Linked

/-- A project with a link to a directory and with a link to a file. -/
def linkedProject : FileTree :=
  FileTree.ofEntries
    [(["work", "tslint.json"], .file (.text "\x7b\x7d")), (["work", "real"], .directory),
      (["work", "link"], .link "real"), (["work", "kept.json"], .file (.text "kept")),
      (["work", "latest.json"], .link "kept.json")]
    ["work"] "/work"

/-- What a command line leaves behind in this project. -/
def linkedProjectAfter (config : String) : FileTree :=
  (runArguments ["--config", config] linkedProject).tree

def isFileAt (t : FileTree) (location : Location) : Bool :=
  match t.entryAt location with
  | some (.file _) => true
  | _ => false

theorem exists_of_isFileAt {t : FileTree} {location : Location} (h : isFileAt t location = true) :
    ∃ content, t.entryAt location = some (.file content) := by
  rw [isFileAt] at h
  cases hentry : t.entryAt location with
  | none => simp [hentry] at h
  | some entry =>
      cases entry with
      | file content => exact ⟨content, rfl⟩
      | directory | link => simp [hentry] at h

theorem linkedProject_wellFormed : linkedProject.WellFormed :=
  ⟨by decide +kernel, by decide +kernel, by decide +kernel⟩

theorem linkedProject_writes_past_links :
    let arguments := ["--config", "out/lint.json"]
    let location := ["work", "out", "lint.json"]
    linkedProject.WellFormed ∧ ∃ text content,
      let after := ((writeFile "out/lint.json" text).exec linkedProject).2
      ComesTo arguments linkedProject linkedProject "out/lint.json" text ∧
        after.entryAt location = some (.file content) ∧
        linkedProject.entryAt location ≠ some (.file content) ∧
        after.locate true "out/lint.json" = .ok location := by
  intro arguments location
  have hpaths : (writesOf arguments linkedProject).map (·.1) = ["out/lint.json"] := by
    decide +kernel
  obtain ⟨⟨path, text⟩, hwrites, rfl⟩ := List.map_eq_singleton_iff.mp hpaths
  have hcomes : ComesTo arguments linkedProject linkedProject "out/lint.json" text :=
    ⟨[], [], hwrites, rfl⟩
  obtain ⟨htree, hplaces⟩ := writes_past_links linkedProject_wellFormed arguments
  rw [hwrites, exec_writeAll_singleton] at htree
  have hwritten : isFileAt (runArguments arguments linkedProject).tree location = true := by
    decide +kernel
  obtain ⟨content, hfile⟩ := exists_of_isFileAt hwritten
  rw [htree] at hfile
  have hmissing : linkedProject.entryAt location = none := by decide +kernel
  have hnew : linkedProject.entryAt location ≠ some (.file content) := by simp [hmissing]
  have hplace := (hplaces _ _ _ _ _ hcomes hfile hnew).1
  exact ⟨linkedProject_wellFormed, text, content, hcomes, hfile, hnew, hplace⟩

/-- Both exceptions come about. A new configuration is written through a link to a
directory, and one that is refused in the place of a link replaces what this link leads to
when its path goes through a directory that is still missing. -/
theorem linkedProject_written_through_links :
    ((linkedProjectAfter "link/lint.json").PassesLink "link/lint.json" ∧
      linkedProject.entryAt ["work", "real", "lint.json"] = none ∧
      isFileAt (linkedProjectAfter "link/lint.json") ["work", "real", "lint.json"] = true) ∧
    (linkedProjectAfter "latest.json").entryAt ["work", "kept.json"] =
      some (.file (.text "kept")) ∧
    (linkedProjectAfter "missing/../latest.json").PassesLink "missing/../latest.json" ∧
    linkedProject.entryAt ["work", "kept.json"] = some (.file (.text "kept")) ∧
    (linkedProjectAfter "missing/../latest.json").entryAt ["work", "kept.json"] ≠
      some (.file (.text "kept")) := by
  decide +kernel

end Linked

end Relint
