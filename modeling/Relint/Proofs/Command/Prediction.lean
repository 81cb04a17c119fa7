import Relint.Proofs.Command.DryRun

/-!
What a dry run predicts. A real run reads the tree again after it has written to it: the file
of the editor, the sources and what the patterns find, and at the end the lock files. Where
all of this is as it was before, the dry run reads the same and reports the same.
-/

namespace Relint

namespace Run

open FileAction FileTree

variable {o : Options} {t t' : FileTree}

/-- The tree behind the step for the configuration. -/
def configured (o : Options) (t : FileTree) : FileTree :=
  ((convertConfiguration o).exec t).2

/-- The tree behind the step for the editor. -/
def edited (o : Options) (t : FileTree) : FileTree :=
  ((convertEditor? o).exec (configured o t)).2

/-- The globs of files that the configuration of a tree leaves out. -/
def excluded (o : Options) (t : FileTree) : List String :=
  match planConfiguration o t with
  | .ok converted => converted.exclude
  | .error _ => []

/-- The paths that the search for comments comes upon; none where a pattern is wrong. -/
def sourcesFound (exclude patterns : List String) (t : FileTree) : List String :=
  match searchSources exclude patterns t with
  | .ok paths => paths
  | .error _ => []

/-- Nothing that a run reads after it has begun to write has changed until then: not along
the path of the editor's settings, the patterns and the sources that they find, or the lock
files. -/
structure ReadsUnwritten (o : Options) (t : FileTree) : Prop where
  editor : ∀ path ∈ o.editor, t.SameAlong (configured o t) true path
  patterns : ∀ patterns ∈ o.comments, ∀ pattern ∈ searched patterns,
    t.SameAlong (edited o t) false pattern
  sources : ∀ patterns ∈ o.comments,
    ∀ path ∈ sourcesFound (excluded o t) patterns (edited o t), t.SameAlong (edited o t) true path
  lockFiles : ∀ path ∈ ["pnpm-lock.yaml", "yarn.lock"], t.SameAlong (runOptions o t).tree true path

section Steps

theorem exec_dry_write (o : Options) (t : FileTree) (path text : String) :
    (write o.dry path text).exec t = (.ok (), t) := by
  rw [exec_write, written_of_dryRun rfl]
  rfl

theorem dry_convertConfiguration {converted : Converted}
    (h : (convertConfiguration o).exec t = (.ok converted, t')) :
    planConfiguration o t = .ok converted ∧
      (convertConfiguration o.dry).exec t = (.ok converted, t) := by
  rw [exec_convertConfiguration] at h ⊢
  have hplan : planConfiguration o.dry t = planConfiguration o t := rfl
  rw [hplan]
  cases hplanned : planConfiguration o t with
  | error fault => simp [hplanned] at h
  | ok planned =>
      rw [hplanned] at h
      obtain rfl := eq_of_exec_bind_pure h
      exact ⟨rfl, exec_bind_pure (exec_dry_write o t o.config converted.output)⟩

theorem dry_convertEditor {path : String} {report : EditorReport} {t₁ t₂ : FileTree}
    (hread : t₁.read path = t.read path)
    (h : (convertEditor o path).exec t₁ = (.ok report, t₂)) :
    (convertEditor o.dry path).exec t = (.ok report, t) := by
  have hplan : planEditor o.dry path t = planEditor o path t₁ := by
    rw [planEditor, planEditor, hread]
    rfl
  rw [exec_convertEditor] at h ⊢
  rw [hplan]
  cases hplanned : planEditor o path t₁ with
  | error fault => simp [hplanned] at h
  | ok planned =>
      rw [hplanned] at h
      obtain rfl := eq_of_exec_bind_pure h
      exact exec_bind_pure (exec_dry_write o t path planned.2)

theorem dry_convertEditor? {editor : Option EditorReport} {t₁ t₂ : FileTree}
    (hworking : t₁.working = t.working) (hsame : ∀ path ∈ o.editor, t.SameAlong t₁ true path)
    (h : (convertEditor? o).exec t₁ = (.ok editor, t₂)) :
    (convertEditor? o.dry).exec t = (.ok editor, t) := by
  rw [convertEditor?] at h ⊢
  rw [Options.dry_editor]
  cases hpath : o.editor with
  | none =>
      rw [hpath] at h
      cases h
      rfl
  | some path =>
      rw [hpath] at h
      obtain ⟨report, hreport, rfl⟩ := exec_map_eq_ok h
      have hread := (hsame path hpath).read hworking
      dsimp only
      rw [exec_map, dry_convertEditor hread hreport]
      rfl

theorem exec_dry_writeSources (conversions : List (String × CommentConversion)) :
    (writeSources o.dry conversions).exec t = (.ok (), t) := by
  rw [exec_writeSources, conversionWrites_of_dryRun rfl]
  rfl

theorem searchSources_eq_of_sameAlong {exclude patterns paths : List String} {t₁ : FileTree}
    (hwell : t.WellFormed) (hevolves : t.Evolves t₁)
    (hpatterns : ∀ pattern ∈ searched patterns, t.SameAlong t₁ false pattern)
    (h : searchSources exclude patterns t₁ = .ok paths)
    (hpaths : ∀ path ∈ paths, t.SameAlong t₁ true path) :
    searchSources exclude patterns t = .ok paths := by
  rw [searchSources] at h ⊢
  cases hsearch : SourceSearch.excluding exclude with
  | error fault => simp [hsearch, Except.bind] at h
  | ok search =>
      rw [hsearch] at h
      exact SourceSearch.found_eq_of_sameAlong hwell hevolves hpatterns h hpaths

/-- The report on some sources depends on what they hold and on nothing else. -/
theorem reportSources_congr {files : List String} {t₁ : FileTree}
    (hworking : t₁.workingPath = t.workingPath)
    (hreads : ∀ path ∈ files, t₁.read path = t.read path) :
    reportSources o.dry t files = reportSources o t₁ files := by
  have hconversions :
      files.filterMap (convertSource? o.dry t) = files.filterMap (convertSource? o t₁) := by
    apply List.filterMap_congr
    intro path hpath
    rw [convertSource?, convertSource?, hreads path hpath]
    rfl
  have hshown : shownPath t = shownPath t₁ := by
    funext path
    rw [shownPath, shownPath, hworking]
  rw [reportSources, reportSources, hconversions, hshown]

theorem dry_convertSources {exclude patterns : List String} {report : CommentsReport}
    {t₁ t₂ : FileTree} (hwell : t.WellFormed) (hevolves : t.Evolves t₁)
    (hpatterns : ∀ pattern ∈ searched patterns, t.SameAlong t₁ false pattern)
    (hsources : ∀ path ∈ sourcesFound exclude patterns t₁, t.SameAlong t₁ true path)
    (h : (convertSources o exclude patterns).exec t₁ = (.ok report, t₂)) :
    (convertSources o.dry exclude patterns).exec t = (.ok report, t) := by
  have hworking := hevolves.grows.working_eq
  rw [exec_convertSources] at h ⊢
  cases hplan : planSources exclude patterns t₁ with
  | error fault => simp [hplan] at h
  | ok files =>
      obtain ⟨paths, hsearch, rfl⟩ := searchSources_of_planSources hplan
      rw [sourcesFound, hsearch] at hsources
      have hsearch' := searchSources_eq_of_sameAlong hwell hevolves hpatterns hsearch hsources
      have hplan' : planSources exclude patterns t = .ok (SourceSearch.sortPaths t₁ paths) := by
        rw [planSources_eq, hsearch', SourceSearch.sortPaths_congr hworking]
        rfl
      have hreads : ∀ path ∈ SourceSearch.sortPaths t₁ paths, t₁.read path = t.read path := by
        intro path hpath
        exact (hsources path (SourceSearch.mem_of_mem_sortPaths hpath)).read hworking
      rw [hplan] at h
      obtain rfl := eq_of_exec_bind_pure h
      rw [hplan', ← reportSources_congr hevolves.grows.workingPath_eq hreads]
      exact exec_bind_pure (exec_dry_writeSources _)

theorem dry_convertSources? {exclude : List String} {comments : Option CommentsReport}
    {t₁ t₂ : FileTree} (hwell : t.WellFormed) (hevolves : t.Evolves t₁)
    (hpatterns : ∀ patterns ∈ o.comments, ∀ pattern ∈ searched patterns,
      t.SameAlong t₁ false pattern)
    (hsources : ∀ patterns ∈ o.comments, ∀ path ∈ sourcesFound exclude patterns t₁,
      t.SameAlong t₁ true path)
    (h : (convertSources? o exclude).exec t₁ = (.ok comments, t₂)) :
    (convertSources? o.dry exclude).exec t = (.ok comments, t) := by
  rw [convertSources?] at h ⊢
  rw [Options.dry_comments]
  cases hcomments : o.comments with
  | none =>
      rw [hcomments] at h
      cases h
      rfl
  | some patterns =>
      rw [hcomments] at h
      obtain ⟨report, hreport, rfl⟩ := exec_map_eq_ok h
      have hdry := dry_convertSources hwell hevolves (hpatterns patterns hcomments)
        (hsources patterns hcomments) hreport
      dsimp only
      rw [exec_map, hdry]
      rfl

/-- The package manager depends on nothing but its lock files. -/
theorem detectManager_congr {t₁ : FileTree} (hworking : t₁.working = t.working)
    (h : ∀ path ∈ ["pnpm-lock.yaml", "yarn.lock"], t.SameAlong t₁ true path) :
    detectManager t₁ = detectManager t := by
  have hpnpm := (h "pnpm-lock.yaml" (by simp)).isFile hworking
  have hyarn := (h "yarn.lock" (by simp)).isFile hworking
  rw [detectManager, detectManager, hpnpm, hyarn]

end Steps

/-- A run gets to its end where each of its steps does. -/
theorem exists_migrate {exclude : List String} (hexcluded : excluded o t = exclude)
    (hconfiguration : ((convertConfiguration o).exec t).1.toOption.isSome)
    (heditor : ((convertEditor? o).exec (configured o t)).1.toOption.isSome)
    (hcomments : ((convertSources? o exclude).exec (edited o t)).1.toOption.isSome) :
    ∃ report t', (migrate o).exec t = (.ok report, t') := by
  obtain ⟨converted, hconverted⟩ := exec_eq_ok hconfiguration
  obtain ⟨editor, hedited⟩ := exec_eq_ok heditor
  obtain ⟨comments, hsearched⟩ := exec_eq_ok hcomments
  rw [← hexcluded, excluded, (dry_convertConfiguration hconverted).1] at hsearched
  exact ⟨_, _, migrate_of_steps hconverted hedited hsearched⟩

theorem dryRun_of_migrate {report : MigrationReport} (h : (migrate o).exec t = (.ok report, t')) :
    report.dryRun = o.dryRun := by
  obtain ⟨converted, _, editor, _, comments, _, _, _, rfl⟩ := steps_of_migrate h
  rfl

/-- A run that gets to its end is predicted by the dry run. -/
theorem dry_migrate {report : MigrationReport} (hwell : t.WellFormed) (hreads : ReadsUnwritten o t)
    (h : (migrate o).exec t = (.ok report, t')) :
    (migrate o.dry).exec t = (.ok { report with dryRun := true }, t) := by
  have hafter : (runOptions o t).tree = t' := by rw [tree_runOptions, h]
  obtain ⟨converted, t₁, editor, t₂, comments, hconfiguration, heditor, hcomments, rfl⟩ :=
    steps_of_migrate h
  have hconfigured : configured o t = t₁ := by rw [configured, hconfiguration]
  have hedited : edited o t = t₂ := by rw [edited, hconfigured, heditor]
  have hevolves₁ : t.Evolves t₁ := hconfigured ▸ (writes_convertConfiguration o t).evolves
  have hevolves₂ : t.Evolves t₂ := by
    have hstep := (writes_convertEditor? o t₁).evolves
    rw [heditor] at hstep
    exact hevolves₁.trans hstep
  have hevolves₃ : t.Evolves t' := by
    rw [← hafter, tree_runOptions]
    exact (writes_migrate o t).evolves
  obtain ⟨hplan, hdry₁⟩ := dry_convertConfiguration hconfiguration
  have hexcluded : excluded o t = converted.exclude := by rw [excluded, hplan]
  have hdry₂ : (convertEditor? o.dry).exec t = (.ok editor, t) := by
    apply dry_convertEditor? hevolves₁.grows.working_eq _ heditor
    rw [← hconfigured]
    exact hreads.editor
  have hdry₃ : (convertSources? o.dry converted.exclude).exec t = (.ok comments, t) := by
    apply dry_convertSources? hwell hevolves₂ _ _ hcomments
    · rw [← hedited]
      exact hreads.patterns
    · rw [← hedited, ← hexcluded]
      exact hreads.sources
  have hmanager : detectManager t' = detectManager t := by
    apply detectManager_congr hevolves₃.grows.working_eq
    rw [← hafter]
    exact hreads.lockFiles
  rw [migrate_of_steps hdry₁ hdry₂ hdry₃, reportOf, reportOf, hmanager]
  rfl

/-- Whether a run reports failures, and its report as JSON; nothing of a run that ends early. -/
def reported? (o : Options) (t : FileTree) : Option (Bool × Value) :=
  ((migrate o).exec t).1.toOption.map fun report => (report.hasFailures, report.toValue)

/-- A run with a report as JSON prints it, and its failures decide how it ends. -/
theorem runOptions_of_reported {failures : Bool} {value : Value} (hformat : o.format = .json)
    (h : reported? o t = some (failures, value)) :
    (runOptions o t).status = (if failures then .failures else .success) ∧
      (runOptions o t).output = Json.pretty "  " 0 value ++ "\n" := by
  rw [reported?] at h
  rw [runOptions_eq]
  cases hrun : (migrate o).exec t with
  | mk answer t' =>
      rw [hrun] at h
      cases answer with
      | error fault => cases h
      | ok report =>
          cases h
          dsimp only
          rw [hformat]
          exact ⟨rfl, rfl⟩

end Run

/-- Whether a run was dry is said in one field of its report and nowhere else. -/
theorem MigrationReport.toValue_dryRun (r : MigrationReport) :
    ∃ front back : List (String × Value), ∀ dry : Bool,
      { r with dryRun := dry }.toValue = .object (front ++ ("dryRun", .bool dry) :: back) := by
  refine ⟨[("outputPath", .string r.outputPath)],
    [("convertedRuleCount", .ofNat r.conversion.results.convertedCount),
      ("results", r.conversion.results.toValue),
      ("missingExtends", .strings r.conversion.missingPresets),
      ("packages", .strings r.packages), ("installCommand", .string r.installCommand),
      ("editor", (r.editor.map EditorReport.toValue).getD .null),
      ("comments", (r.comments.map CommentsReport.toValue).getD .null)], ?_⟩
  intro dry
  rfl

theorem runArguments_of_read {arguments : List String} {o : Options}
    (hread : Options.read arguments = .run o) (t : FileTree) :
    runArguments arguments t = runOptions o t := by
  rw [runArguments, hread]

/-- A dry run predicts the real run: added to a command line with a report as JSON, the flag
`--dry-run` changes neither the exit code nor the report beyond the value of `dryRun`, as
long as the run reads nothing again that it has changed. -/
theorem dryRun_predicts {before after : List String} {o : Options} {t : FileTree}
    (hread : Options.read (before ++ after) = .run o) (hformat : o.format = .json)
    (hwet : o.dryRun = false)
    (hfits : Options.read (before ++ "--dry-run" :: after) ≠ .refused)
    (hwell : t.WellFormed) (hreads : Run.ReadsUnwritten o t)
    (hends : (runArguments (before ++ after) t).status ≠ .fatal) :
    (runArguments (before ++ "--dry-run" :: after) t).status =
        (runArguments (before ++ after) t).status ∧
      ∃ front back : List (String × Value),
        (runArguments (before ++ after) t).output =
          Json.pretty "  " 0 (.object (front ++ ("dryRun", .bool false) :: back)) ++ "\n" ∧
        (runArguments (before ++ "--dry-run" :: after) t).output =
          Json.pretty "  " 0 (.object (front ++ ("dryRun", .bool true) :: back)) ++ "\n" := by
  have hdry : Options.read (before ++ "--dry-run" :: after) = .run o.dry :=
    (Options.readFrom_insert_dryRun hwet hread).resolve_right hfits
  rw [runArguments_of_read hread, Run.runOptions_eq] at hends
  rw [runArguments_of_read hread, runArguments_of_read hdry, Run.runOptions_eq,
    Run.runOptions_eq]
  cases hrun : (Run.migrate o).exec t with
  | mk answer t' =>
      cases answer with
      | error fault =>
          rw [hrun] at hends
          exact absurd rfl hends
      | ok report =>
          obtain ⟨front, back, hvalue⟩ := report.toValue_dryRun
          have hfalse : { report with dryRun := false } = report := by
            rw [← hwet, ← Run.dryRun_of_migrate hrun]
          have hreport := hvalue false
          rw [hfalse] at hreport
          rw [Run.dry_migrate hwell hreads hrun]
          refine ⟨rfl, front, back, ?_, ?_⟩
          · dsimp only
            rw [hformat, MigrationReport.render, hreport]
          · dsimp only
            rw [Options.dry_format, hformat, MigrationReport.render, hvalue]

section Samples

/-- All three steps, with a report as JSON. -/
def sampleOptions : Options where
  tslint := "tslint.json"
  config := "out/lint.json"
  eslint := none
  editor := some "settings.json"
  comments := some []
  prettier := false
  typeChecked := false
  dryRun := false
  verbose := false
  format := .json

theorem sampleProject_wellFormed : sampleProject.WellFormed :=
  ⟨by decide +kernel, by decide +kernel, by decide +kernel⟩

theorem sampleProject_readsUnwritten : Run.ReadsUnwritten sampleOptions sampleProject where
  editor := by decide +kernel
  patterns := by decide +kernel
  sources := by decide +kernel
  lockFiles := by decide +kernel

/-- The sample is predicted: nothing that is read again leads to its new configuration. -/
theorem sampleProject_predicted :
    let before := "--format" :: "json" :: sampleArguments
    Options.read (before ++ []) = .run sampleOptions ∧
      Options.read (before ++ ["--dry-run"]) ≠ .refused ∧ sampleProject.WellFormed ∧
      Run.ReadsUnwritten sampleOptions sampleProject ∧
      (runArguments (before ++ []) sampleProject).status ≠ .fatal ∧
      (runArguments (before ++ ["--dry-run"]) sampleProject).status =
        (runArguments (before ++ []) sampleProject).status := by
  intro before
  have hread : Options.read (before ++ []) = .run sampleOptions := by decide +kernel
  have hfits : Options.read (before ++ ["--dry-run"]) ≠ .refused := by decide +kernel
  have hends : (runArguments (before ++ []) sampleProject).status ≠ .fatal := by
    have hexcluded : Run.excluded sampleOptions sampleProject = [] := by decide +kernel
    obtain ⟨report, t', hrun⟩ :=
      Run.exists_migrate hexcluded (by decide +kernel) (by decide +kernel) (by decide +kernel)
    rw [runArguments_of_read hread]
    exact Run.status_of_migrate hrun
  have hpredicted := dryRun_predicts hread rfl rfl hfits sampleProject_wellFormed
    sampleProject_readsUnwritten hends
  exact ⟨hread, hfits, sampleProject_wellFormed, sampleProject_readsUnwritten, hends, hpredicted.1⟩

/-- A project with nothing but a configuration without rules. -/
def bareProject : FileTree :=
  FileTree.ofEntries [(["work", "tslint.json"], .file (.text "\x7b\x7d"))] ["work"] "/work"

/-- The report on this project, if that many files are searched for comments. -/
def bareReport (dryRun : Bool) (filesSearched : Nat) : Value :=
  .object [("outputPath", .string ".eslintrc.js"), ("dryRun", .bool dryRun),
    ("convertedRuleCount", .ofNat 0),
    ("results", .object [("converted", .object []), ("failed", .array []),
      ("missing", .array []), ("extends", .array []), ("plugins", .array []),
      ("conflicts", .array []), ("equivalents", .array []), ("outcomes", .array [])]),
    ("missingExtends", .array []),
    ("packages", .strings
      ["eslint", "@typescript-eslint/parser", "@typescript-eslint/eslint-plugin"]),
    ("installCommand", .string ("npm install --save-dev " ++
      "eslint @typescript-eslint/parser @typescript-eslint/eslint-plugin")),
    ("editor", .null),
    ("comments", .object [("filesSearched", .ofNat filesSearched), ("changedFiles", .array []),
      ("converted", .ofNat 0), ("unchanged", .ofNat 0), ("droppedRules", .array [])])]

/-- A run on this project for its configuration and the comments. -/
def bareOptions : Options :=
  { sampleOptions with config := ".eslintrc.js", editor := none }

/-- The real run finds the configuration that it has just written among the sources. The dry
run does not, so it does not report what would be the same but for `dryRun`. -/
theorem bareProject_not_predicted :
    let arguments := ["--format", "json", "--comments"]
    let real := runArguments arguments bareProject
    let planned := runArguments (arguments ++ ["--dry-run"]) bareProject
    real.status = .success ∧ planned.status = .success ∧
      real.output = Json.pretty "  " 0 (bareReport false 1) ++ "\n" ∧
      planned.output = Json.pretty "  " 0 (bareReport true 0) ++ "\n" ∧
      planned.output ≠ Json.pretty "  " 0 (bareReport true 1) ++ "\n" := by
  intro arguments real planned
  have hread : Options.read arguments = .run bareOptions := by decide +kernel
  have hread' : Options.read (arguments ++ ["--dry-run"]) = .run bareOptions.dry := by
    decide +kernel
  have hreported : Run.reported? bareOptions bareProject = some (false, bareReport false 1) := by
    decide +kernel
  have hreported' : Run.reported? bareOptions.dry bareProject =
      some (false, bareReport true 0) := by
    decide +kernel
  obtain ⟨hstatus, houtput⟩ := Run.runOptions_of_reported rfl hreported
  obtain ⟨hstatus', houtput'⟩ := Run.runOptions_of_reported rfl hreported'
  rw [← runArguments_of_read hread] at hstatus houtput
  rw [← runArguments_of_read hread'] at hstatus' houtput'
  have hpromised : Json.pretty "  " 0 (bareReport true 0) ++ "\n" ≠
      Json.pretty "  " 0 (bareReport true 1) ++ "\n" := by
    decide +kernel
  exact ⟨hstatus, hstatus', houtput, houtput', houtput'.trans_ne hpromised⟩

end Samples

end Relint
