import Relint.Command.Run
import Relint.Proofs.Files.Discovery

/-!
The steps of a run. Each of them first reads the tree as it finds it, which settles what it
answers and what it writes, and writes then. What a whole run does to a tree follows from
what the single writes do.
-/

namespace Relint

namespace Run

open FileAction FileTree

/-- What is loaded from a file of a tree. -/
def loaded {α ε : Type} (wrap : ε → Fault) (read : String → Except ε α) (path : String)
    (t : FileTree) : Except RunFault α :=
  match t.read path with
  | .error fault => .error (.migration (.unreadable path fault))
  | .ok text => (read text).mapError fun fault => .migration (wrap fault)

/-- The converted configuration, as it follows from a tree. -/
def planConfiguration (o : Options) (t : FileTree) : Except RunFault Converted := do
  let tslint ← loaded .tslint TslintConfig.read o.tslint t
  let eslint ←
    match existingPath? t o with
    | some path => (loaded .eslint (EslintConfig.readFile path) path t).map some
    | none => .ok none
  let conversion := convertConfig registries o.settings tslint eslint
  let config := conversion.summarize o.settings eslint
  return ⟨conversion, config, (OutputFormat.ofPath o.config).render config, tslint.exclude⟩

/-- The converted settings of an editor and the new text of their file. -/
def planEditor (o : Options) (path : String) (t : FileTree) :
    Except RunFault (EditorReport × String) := do
  let text ← (t.read path).mapError RunFault.editorUnreadable
  let entries ← (readEditorSettings text).mapError fun fault => RunFault.migration (.editor fault)
  let results := convertEditorSettings EditorRegistry.builtin o.settings entries
  return (⟨path, results⟩, OutputFormat.json.render (.object (results.apply entries)))

/-- The patterns that comments are searched with. -/
def searched (patterns : List String) : List String :=
  if patterns.isEmpty then defaultPatterns else patterns

/-- The files that are searched for comments. -/
def planSources (exclude patterns : List String) (t : FileTree) :
    Except RunFault (List String) :=
  ((SourceSearch.excluding exclude).bind fun search =>
    search.discover t (searched patterns)).mapError
      fun fault => RunFault.migration (.discovery fault)

/-- The paths that the search for comments comes upon, before they are put in order. -/
def searchSources (exclude patterns : List String) (t : FileTree) :
    Except DiscoveryFault (List String) :=
  (SourceSearch.excluding exclude).bind fun search => search.found t (searched patterns)

/-- The report on the comments of some files. -/
def reportSources (o : Options) (t : FileTree) (files : List String) : CommentsReport :=
  let conversions := files.filterMap (convertSource? o t)
  { filesSearched := files.length
    changedFiles := (conversions.filter (·.2.isChanged)).map fun (path, _) => shownPath t path
    converted := (conversions.map (·.2.converted)).foldl (· + ·) 0
    unchanged := (conversions.map (·.2.unchanged)).foldl (· + ·) 0
    droppedRules := distinct (conversions.flatMap (·.2.droppedRules)) }

/-- The step for an editor, if its settings are to be converted. -/
def convertEditor? (o : Options) : FileAction RunFault (Option EditorReport) :=
  match o.editor with
  | some path => some <$> convertEditor o path
  | none => pure none

/-- The step for comments, if they are to be converted. -/
def convertSources? (o : Options) (exclude : List String) :
    FileAction RunFault (Option CommentsReport) :=
  match o.comments with
  | some patterns => some <$> convertSources o exclude patterns
  | none => pure none

/-- The report that a run ends with. -/
def reportOf (o : Options) (converted : Converted) (editor : Option EditorReport)
    (comments : Option CommentsReport) (t : FileTree) : MigrationReport where
  outputPath := o.config
  output := converted.output
  dryRun := o.dryRun
  conversion := converted.conversion
  packages := requiredPackages converted.config
  manager := detectManager t
  editor := editor
  comments := comments

section Equations

variable (o : Options) (t : FileTree)

theorem exec_load {α ε : Type} (wrap : ε → Fault) (read : String → Except ε α) (path : String) :
    (load wrap read path).exec t = (loaded wrap read path t, t) :=
  exec_ask _ t

theorem exec_convertConfiguration :
    (convertConfiguration o).exec t =
      match planConfiguration o t with
      | .ok converted => (write o o.config converted.output >>= fun _ => pure converted).exec t
      | .error fault => (.error fault, t) := by
  rw [convertConfiguration, planConfiguration, exec_bind, exec_load]
  cases loaded .tslint TslintConfig.read o.tslint t with
  | error fault => rfl
  | ok tslint =>
      dsimp only
      rw [exec_bind, exec_get]
      dsimp only
      cases existingPath? t o with
      | none => rfl
      | some path =>
          dsimp only
          rw [exec_bind, exec_map, exec_load]
          cases loaded .eslint (EslintConfig.readFile path) path t with
          | error fault => rfl
          | ok eslint => rfl

theorem exec_convertEditor (path : String) :
    (convertEditor o path).exec t =
      match planEditor o path t with
      | .ok (report, output) => (write o path output >>= fun _ => pure report).exec t
      | .error fault => (.error fault, t) := by
  rw [convertEditor, planEditor, exec_bind, exec_ask]
  cases t.read path with
  | error fault => rfl
  | ok text =>
      change (FileAction.ask _ >>= _).exec t = _
      rw [exec_bind, exec_ask]
      cases hentries : readEditorSettings text with
      | error fault => simp [hentries, Except.mapError, bind, Except.bind]
      | ok entries => simp [hentries, Except.mapError, bind, Except.bind, pure, Except.pure]

theorem exec_convertSources (exclude patterns : List String) :
    (convertSources o exclude patterns).exec t =
      match planSources exclude patterns t with
      | .ok files =>
          (writeSources o (files.filterMap (convertSource? o t)) >>= fun _ =>
            pure (reportSources o t files)).exec t
      | .error fault => (.error fault, t) := by
  rw [convertSources, exec_bind, exec_ask, planSources, searched]
  split <;> rename_i hplan
  · rw [(Prod.mk.inj hplan).1, (Prod.mk.inj hplan).2]
    rfl
  · rw [(Prod.mk.inj hplan).1, (Prod.mk.inj hplan).2]

theorem writeSources_cons (path : String) (c : CommentConversion)
    (rest : List (String × CommentConversion)) :
    writeSources o ((path, c) :: rest) =
      (if c.isChanged then write o path c.content else pure ()) >>=
        fun _ => writeSources o rest := by
  rw [writeSources]
  split <;> rfl

/-- A run is its three steps and the report on them. -/
theorem migrate_eq :
    migrate o =
      convertConfiguration o >>= fun converted =>
        convertEditor? o >>= fun editor =>
          convertSources? o converted.exclude >>= fun comments =>
            get >>= fun t => pure (reportOf o converted editor comments t) := by
  rw [migrate, convertEditor?]
  unfold convertSources?
  cases o.editor <;> cases o.comments <;> rfl

theorem runOptions_eq :
    runOptions o t =
      match (migrate o).exec t with
      | (.ok report, t') =>
          ⟨report.render o.format, if report.hasFailures then .failures else .success, none, t'⟩
      | (.error fault, t') => ⟨"", .fatal, some fault, t'⟩ := rfl

theorem tree_runOptions : (runOptions o t).tree = ((migrate o).exec t).2 := by
  rw [runOptions_eq]
  cases (migrate o).exec t with
  | mk answer t' => cases answer <;> rfl

end Equations

section Answers

variable {o : Options} {t : FileTree}

theorem migrate_of_steps {converted : Converted} {editor : Option EditorReport}
    {comments : Option CommentsReport} {t₁ t₂ t₃ : FileTree}
    (hconfiguration : (convertConfiguration o).exec t = (.ok converted, t₁))
    (heditor : (convertEditor? o).exec t₁ = (.ok editor, t₂))
    (hcomments : (convertSources? o converted.exclude).exec t₂ = (.ok comments, t₃)) :
    (migrate o).exec t = (.ok (reportOf o converted editor comments t₃), t₃) := by
  rw [migrate_eq, exec_bind, hconfiguration]
  dsimp only
  rw [exec_bind, heditor]
  dsimp only
  rw [exec_bind, hcomments]
  rfl

/-- A run that gets to its end has gone through its three steps. -/
theorem steps_of_migrate {report : MigrationReport} {t' : FileTree}
    (h : (migrate o).exec t = (.ok report, t')) :
    ∃ converted t₁ editor t₂ comments,
      (convertConfiguration o).exec t = (.ok converted, t₁) ∧
      (convertEditor? o).exec t₁ = (.ok editor, t₂) ∧
      (convertSources? o converted.exclude).exec t₂ = (.ok comments, t') ∧
      report = reportOf o converted editor comments t' := by
  rw [migrate_eq] at h
  obtain ⟨converted, t₁, hconfiguration, h⟩ := exec_bind_eq_ok h
  obtain ⟨editor, t₂, heditor, h⟩ := exec_bind_eq_ok h
  obtain ⟨comments, t₃, hcomments, h⟩ := exec_bind_eq_ok h
  cases h
  exact ⟨converted, t₁, editor, t₂, comments, hconfiguration, heditor, hcomments, rfl⟩

/-- A run that gets to its end does not end with a fatal error. -/
theorem status_of_migrate {report : MigrationReport} {t' : FileTree}
    (h : (migrate o).exec t = (.ok report, t')) : (runOptions o t).status ≠ .fatal := by
  rw [runOptions_eq, h]
  dsimp only
  split <;> simp

theorem planSources_eq (exclude patterns : List String) (t : FileTree) :
    planSources exclude patterns t =
      ((searchSources exclude patterns t).map (SourceSearch.sortPaths t)).mapError
        fun fault => RunFault.migration (.discovery fault) := by
  rw [planSources, searchSources]
  cases SourceSearch.excluding exclude with
  | error fault => rfl
  | ok search =>
      simp only [Except.bind]
      rw [SourceSearch.discover_eq_map_found]

/-- What is searched for comments is what the search comes upon, in order. -/
theorem searchSources_of_planSources {exclude patterns files : List String}
    (h : planSources exclude patterns t = .ok files) :
    ∃ paths, searchSources exclude patterns t = .ok paths ∧
      files = SourceSearch.sortPaths t paths := by
  rw [planSources_eq] at h
  cases hsearch : searchSources exclude patterns t with
  | error fault => simp [hsearch, Except.map, Except.mapError] at h
  | ok paths =>
      rw [hsearch] at h
      exact ⟨paths, rfl, (Except.ok.inj h).symm⟩

theorem mem_of_searchSources {exclude patterns paths : List String} {path : String}
    (h : searchSources exclude patterns t = .ok paths) (hpath : path ∈ paths) :
    path ∈ searched patterns ∨ path ∈ t.pathsBelow := by
  rw [searchSources] at h
  cases hsearch : SourceSearch.excluding exclude with
  | error fault => simp [hsearch, Except.bind] at h
  | ok search =>
      rw [hsearch] at h
      exact SourceSearch.mem_of_found h hpath

end Answers

section Writing

/-- What a run writes when it writes a file: nothing if it is dry. -/
def written (o : Options) (path text : String) : List (String × String) :=
  if o.dryRun then [] else [(path, text)]

/-- What the step for the configuration writes. -/
def configurationWrites (o : Options) (t : FileTree) : List (String × String) :=
  match planConfiguration o t with
  | .ok converted => written o o.config converted.output
  | .error _ => []

/-- What the step for the editor writes. -/
def editorWrites (o : Options) (t : FileTree) : List (String × String) :=
  match o.editor with
  | some path =>
      match planEditor o path t with
      | .ok (_, output) => written o path output
      | .error _ => []
  | none => []

/-- What the conversions of some sources write. -/
def conversionWrites (o : Options) (conversions : List (String × CommentConversion)) :
    List (String × String) :=
  conversions.flatMap fun (path, c) => if c.isChanged then written o path c.content else []

/-- What the step for comments writes. -/
def sourceWrites (o : Options) (exclude : List String) (t : FileTree) : List (String × String) :=
  match o.comments with
  | some patterns =>
      match planSources exclude patterns t with
      | .ok files => conversionWrites o (files.filterMap (convertSource? o t))
      | .error _ => []
  | none => []

/-- What a run writes, in its order. Each step settles that in the tree that it finds. -/
def writes (o : Options) (t : FileTree) : List (String × String) :=
  configurationWrites o t ++
    thereafter ((convertConfiguration o).exec t) fun converted t₁ =>
      editorWrites o t₁ ++
        thereafter ((convertEditor? o).exec t₁) fun _ t₂ => sourceWrites o converted.exclude t₂

variable (o : Options) (t : FileTree)

theorem exec_write (path text : String) :
    (write o path text).exec t =
      (((writeAll (written o path text)).exec t).1.mapError .unwritable,
        ((writeAll (written o path text)).exec t).2) := by
  rw [write, written]
  split
  · rfl
  · rw [exec_writeAll_singleton]
    rfl

theorem writes_write (path text : String) : Writes (write o path text) t (written o path text) :=
  .of_writeAll (exec_write o t path text)

theorem writes_convertConfiguration :
    Writes (convertConfiguration o) t (configurationWrites o t) := by
  have hexec := exec_convertConfiguration o t
  rw [configurationWrites]
  cases hplan : planConfiguration o t with
  | error fault =>
      rw [hplan] at hexec
      exact .of_error hexec
  | ok converted =>
      rw [hplan] at hexec
      apply Writes.congr hexec
      exact (writes_write o t o.config converted.output).bind_answer fun _ _ => ⟨_, rfl⟩

theorem writes_convertEditor? : Writes (convertEditor? o) t (editorWrites o t) := by
  rw [convertEditor?, editorWrites]
  cases o.editor with
  | none => exact .pure none t
  | some path =>
      dsimp only
      apply Writes.map
      have hexec := exec_convertEditor o t path
      cases hplan : planEditor o path t with
      | error fault =>
          rw [hplan] at hexec
          exact .of_error hexec
      | ok planned =>
          rw [hplan] at hexec
          apply Writes.congr hexec
          exact (writes_write o t path planned.2).bind_answer fun _ _ => ⟨_, rfl⟩

theorem exec_writeSources (conversions : List (String × CommentConversion)) :
    (writeSources o conversions).exec t =
      (((writeAll (conversionWrites o conversions)).exec t).1.mapError .unwritable,
        ((writeAll (conversionWrites o conversions)).exec t).2) := by
  induction conversions generalizing t with
  | nil => rfl
  | cons first rest ih =>
      obtain ⟨path, c⟩ := first
      have hcons : conversionWrites o ((path, c) :: rest) =
          (if c.isChanged then written o path c.content else []) ++ conversionWrites o rest := rfl
      rw [writeSources_cons, hcons]
      split
      · rw [exec_bind, exec_write, exec_writeAll_append]
        cases (writeAll (written o path c.content)).exec t with
        | mk answer t' =>
            cases answer with
            | ok => exact ih t'
            | error fault => rfl
      · exact ih t

theorem writes_convertSources? (exclude : List String) :
    Writes (convertSources? o exclude) t (sourceWrites o exclude t) := by
  rw [convertSources?, sourceWrites]
  cases o.comments with
  | none => exact .pure none t
  | some patterns =>
      dsimp only
      apply Writes.map
      have hexec := exec_convertSources o t exclude patterns
      cases hplan : planSources exclude patterns t with
      | error fault =>
          rw [hplan] at hexec
          exact .of_error hexec
      | ok files =>
          rw [hplan] at hexec
          apply Writes.congr hexec
          exact (Writes.of_writeAll (exec_writeSources o t _)).bind_answer fun _ _ => ⟨_, rfl⟩

/-- What a run does to a tree is what it writes. -/
theorem writes_migrate : Writes (migrate o) t (writes o t) := by
  rw [migrate_eq, writes]
  apply Writes.bind (writes_convertConfiguration o t)
  intro converted t₁ _
  apply Writes.bind (writes_convertEditor? o t₁)
  intro editor t₂ _
  apply Writes.bind_answer (writes_convertSources? o t₂ converted.exclude)
  intro comments t₃
  exact ⟨_, rfl⟩

theorem tree_runOptions_writes : (runOptions o t).tree = ((writeAll (writes o t)).exec t).2 := by
  rw [tree_runOptions]
  exact (writes_migrate o t).tree

end Writing

end Run

end Relint
