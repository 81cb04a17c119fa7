import Relint.Command.Report
import Relint.Command.Usage
import Relint.Config.Output
import Relint.Converter.Builtin
import Relint.Fault
import Relint.Files.Writing
import Relint.Merge.Builtin

/-!
A run of the command line on a tree of files: the configuration is converted, then
the settings of the editor, then the comments, and the report is made at the end.
-/

namespace Relint

/-- What ends a run early. -/
inductive RunFault where
  | migration (fault : Fault)
  | editorUnreadable (fault : FileFault)
  | unwritable (fault : WriteFault)
  deriving DecidableEq

def RunFault.message : RunFault → String
  | .migration fault => fault.message
  | .editorUnreadable fault => fault.message
  | .unwritable fault => fault.message

namespace Options

def settings (o : Options) : ConversionSettings :=
  ⟨o.prettier, o.typeChecked⟩

end Options

namespace Run

def registries : Registries :=
  ⟨ConverterRegistry.builtin, MergerRegistry.builtin⟩

def load {α ε : Type} (wrap : ε → Fault) (read : String → Except ε α) (path : String) :
    FileAction RunFault α :=
  FileAction.ask fun t =>
    match t.read path with
    | .error fault => .error (.migration (.unreadable path fault))
    | .ok text => (read text).mapError fun fault => .migration (wrap fault)

/-- The existing configuration that a run builds on: the one that is asked for, or the
one in the place of the new one unless it would have to be run. -/
def existingPath? (t : FileTree) (o : Options) : Option String :=
  match o.eslint with
  | some path => some path
  | none =>
      if t.isFile o.config && !EslintConfig.isScript o.config then some o.config else none

def write (o : Options) (path text : String) : FileAction RunFault Unit :=
  if o.dryRun then return else (FileAction.writeFile path text).adapt .unwritable

/-- A converted configuration: the results, the new configuration and its text, and
the globs of files that are left out. -/
structure Converted where
  conversion : ConfigConversion
  config : Value
  output : String
  exclude : List String

def convertConfiguration (o : Options) : FileAction RunFault Converted := do
  let tslint ← load .tslint TslintConfig.read o.tslint
  let eslint ←
    match existingPath? (← get) o with
    | some path => some <$> load .eslint (EslintConfig.readFile path) path
    | none => pure none
  let conversion := convertConfig registries o.settings tslint eslint
  let config := conversion.summarize o.settings eslint
  let output := (OutputFormat.ofPath o.config).render config
  write o o.config output
  return ⟨conversion, config, output, tslint.exclude⟩

def convertEditor (o : Options) (path : String) : FileAction RunFault EditorReport := do
  let text ← FileAction.ask fun t => (t.read path).mapError RunFault.editorUnreadable
  let entries ← FileAction.ask fun _ =>
    (readEditorSettings text).mapError fun fault => RunFault.migration (.editor fault)
  let results := convertEditorSettings EditorRegistry.builtin o.settings entries
  write o path (OutputFormat.json.render (.object (results.apply entries)))
  return ⟨path, results⟩

/-- A path as it is shown: from the working directory. -/
def shownPath (t : FileTree) (path : String) : String :=
  if Path.isAbsolute path then path
  else if t.workingPath.toList.getLast? = some '/' then t.workingPath ++ path
  else t.workingPath ++ "/" ++ path

/-- The conversion of the comments of a file; nothing for a file that is no text. -/
def convertSource? (o : Options) (t : FileTree) (path : String) :
    Option (String × CommentConversion) :=
  match t.read path with
  | .ok text => some (path, convertComments ConverterRegistry.builtin o.settings text)
  | .error _ => none

def writeSources (o : Options) : List (String × CommentConversion) → FileAction RunFault Unit
  | [] => return
  | (path, c) :: rest => do
      if c.isChanged then write o path c.content
      writeSources o rest

/-- Converts the comments of the files that patterns stand for. All files are read
before the first one is written. -/
def convertSources (o : Options) (exclude patterns : List String) :
    FileAction RunFault CommentsReport := do
  let files ← FileAction.ask fun t =>
    ((SourceSearch.excluding exclude).bind fun search =>
      search.discover t (if patterns.isEmpty then defaultPatterns else patterns)).mapError
        fun fault => RunFault.migration (.discovery fault)
  let t ← get
  let conversions := files.filterMap (convertSource? o t)
  writeSources o conversions
  return {
    filesSearched := files.length
    changedFiles := (conversions.filter (·.2.isChanged)).map fun (path, _) => shownPath t path
    converted := (conversions.map (·.2.converted)).foldl (· + ·) 0
    unchanged := (conversions.map (·.2.unchanged)).foldl (· + ·) 0
    droppedRules := distinct (conversions.flatMap (·.2.droppedRules)) }

/-- The package manager whose lock file is in the working directory. -/
def detectManager (t : FileTree) : PackageManager :=
  if t.isFile "pnpm-lock.yaml" then .pnpm
  else if t.isFile "yarn.lock" then .yarn
  else .npm

def migrate (o : Options) : FileAction RunFault MigrationReport := do
  let converted ← convertConfiguration o
  let editor ←
    match o.editor with
    | some path => some <$> convertEditor o path
    | none => pure none
  let comments ←
    match o.comments with
    | some patterns => some <$> convertSources o converted.exclude patterns
    | none => pure none
  return {
    outputPath := o.config
    output := converted.output
    dryRun := o.dryRun
    conversion := converted.conversion
    packages := requiredPackages converted.config
    manager := detectManager (← get)
    editor := editor
    comments := comments }

end Run

/-- How a run ends. -/
inductive ExitStatus where
  | success
  | failures
  | fatal
  deriving DecidableEq, Repr

def ExitStatus.code : ExitStatus → Nat
  | .success => 0
  | .failures => 1
  | .fatal => 2

/-- What comes of a command line: what is printed, how it ends, why it ended early, and
the tree behind it. -/
structure Outcome where
  output : String
  status : ExitStatus
  fault : Option RunFault
  tree : FileTree

/-- Runs with some options. A run that ends early prints nothing. -/
def runOptions (o : Options) (t : FileTree) : Outcome :=
  match (Run.migrate o).run t with
  | (.ok report, t) =>
      ⟨report.render o.format, if report.hasFailures then .failures else .success, none, t⟩
  | (.error fault, t) => ⟨"", .fatal, some fault, t⟩

def runArguments (arguments : List String) (t : FileTree) : Outcome :=
  match Options.read arguments with
  | .run o => runOptions o t
  | .version => ⟨versionLine, .success, none, t⟩
  | .help => ⟨usage, .success, none, t⟩
  | .refused => ⟨"", .fatal, none, t⟩

end Relint
