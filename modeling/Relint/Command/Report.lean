import Relint.Command.Options
import Relint.Comment.Conversion
import Relint.Conversion.Config
import Relint.Editor.Conversion
import Relint.Packages

/-!
The report on a run, for a reader or as JSON.
-/

namespace Relint

/-- What was done to the settings of an editor. -/
structure EditorReport where
  path : String
  results : EditorResults

/-- What was done to comments, over all files that were searched. -/
structure CommentsReport where
  filesSearched : Nat
  changedFiles : List String
  converted : Nat
  unchanged : Nat
  droppedRules : List String

/-- Everything that a run did. -/
structure MigrationReport where
  outputPath : String
  output : String
  dryRun : Bool
  conversion : ConfigConversion
  packages : List String
  manager : PackageManager
  editor : Option EditorReport
  comments : Option CommentsReport

namespace EditorReport

def toValue (r : EditorReport) : Value :=
  .object [("path", .string r.path), ("results", r.results.toValue)]

def lines (r : EditorReport) (dryRun : Bool) : List String :=
  ["",
    "✨ " ++ toString r.results.converted.length ++ " editor settings converted, " ++
      (if dryRun then "would be written to" else "written to") ++ " " ++ r.path] ++
    r.results.failed.map (fun failure => "  ❌ " ++ failure.message) ++
    r.results.missing.map fun name => "  ❓ " ++ name ++ " has no ESLint equivalent"

end EditorReport

def plural (count : Nat) (one several : String) : String :=
  if count = 1 then one else several

namespace CommentsReport

def toValue (r : CommentsReport) : Value :=
  .object [("filesSearched", .ofNat r.filesSearched), ("changedFiles", .strings r.changedFiles),
    ("converted", .ofNat r.converted), ("unchanged", .ofNat r.unchanged),
    ("droppedRules", .strings r.droppedRules)]

def lines (r : CommentsReport) (dryRun : Bool) : List String :=
  let count := r.changedFiles.length
  ["",
    "✨ " ++ toString r.converted ++ " comment directives converted in " ++ toString count ++
      " " ++ plural count "file" "files" ++ " (" ++ toString r.filesSearched ++ " searched)" ++
      if dryRun then ", nothing written" else ""] ++
    r.changedFiles.map (fun path => "  " ++ path) ++
    (if r.unchanged = 0 then []
      else ["  " ++ toString r.unchanged ++
        " directives were left unchanged because none of their rules converted"]) ++
    if r.droppedRules.isEmpty then []
    else ["  Dropped rules: " ++ ", ".intercalate r.droppedRules]

end CommentsReport

namespace MigrationReport

def hasFailures (r : MigrationReport) : Bool :=
  r.conversion.results.hasFailures ||
    match r.editor with
    | some editor => !editor.results.failed.isEmpty
    | none => false

def installCommand (r : MigrationReport) : String :=
  r.manager.installCommand r.packages

def toValue (r : MigrationReport) : Value :=
  .object [
    ("outputPath", .string r.outputPath),
    ("dryRun", .bool r.dryRun),
    ("convertedRuleCount", .ofNat r.conversion.results.convertedCount),
    ("results", r.conversion.results.toValue),
    ("missingExtends", .strings r.conversion.missingPresets),
    ("packages", .strings r.packages),
    ("installCommand", .string r.installCommand),
    ("editor", (r.editor.map EditorReport.toValue).getD .null),
    ("comments", (r.comments.map CommentsReport.toValue).getD .null)]

/-- A paragraph with a heading that counts its items; nothing without items. -/
def paragraph (mark heading : String) (items : List String) : List String :=
  if items.isEmpty then []
  else ["", mark ++ " " ++ toString items.length ++ " " ++ heading] ++
    items.map fun item => "  " ++ item

/-- The notices of all converted rules under the names of their rules. -/
def notices (r : MigrationReport) : List String :=
  r.conversion.results.converted.toList.flatMap fun (name, settings) =>
    settings.notices.map fun notice => name ++ ": " ++ notice

def summary (r : MigrationReport) : String :=
  let count := r.conversion.results.convertedCount
  "✨ " ++ toString count ++ " " ++ plural count "TSLint rule was" "TSLint rules were" ++
    " converted into " ++ toString r.conversion.results.converted.size ++ " ESLint rules. " ++
    (if r.dryRun then "Would write" else "Wrote") ++ " " ++ r.outputPath

def lines (r : MigrationReport) : List String :=
  let results := r.conversion.results
  [r.summary] ++
    paragraph "❌" "rules threw errors during conversion:"
      (results.failed.map RuleFailure.message) ++
    paragraph "❓" "rules have no ESLint equivalent and will run through eslint-plugin-tslint:"
      (results.missing.map (·.name)) ++
    paragraph "📢" "ESLint rules behave differently from their TSLint counterparts:" r.notices ++
    paragraph "🔀"
      "converted rules were already configured; the existing settings were kept:"
      (results.conflicts.map (·.rule)) ++
    paragraph "❓" "extended configurations could not be converted:"
      r.conversion.missingPresets ++
    (match r.editor with
      | some editor => editor.lines r.dryRun
      | none => []) ++
    (match r.comments with
      | some comments => comments.lines r.dryRun
      | none => []) ++
    ["",
      "⚡ " ++ toString r.packages.length ++
        " packages are required for the new ESLint configuration.",
      "  " ++ r.installCommand]

/-- The report for a reader. Where nothing is written, the configuration itself comes
first. -/
def text (r : MigrationReport) : String :=
  (if r.dryRun then r.outputPath ++ ":\n" ++ r.output ++ "\n" else "") ++
    String.join (r.lines.map (· ++ "\n"))

def render (r : MigrationReport) : ReportFormat → String
  | .text => r.text
  | .json => Json.pretty "  " 0 r.toValue ++ "\n"

end MigrationReport

end Relint
