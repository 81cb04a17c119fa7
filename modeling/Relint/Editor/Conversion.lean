import Relint.Editor.Setting
import Relint.Jsonc.Document
import Relint.Value.Same

/-!
Converting the settings file of an editor. Only the settings of the TSLint
extension are looked at, and applying the results leaves every other setting as
it is.
-/

namespace Relint

/-- Why a text is not a settings file. -/
inductive EditorFault where
  | malformed (report : String)
  | root
  deriving DecidableEq

def EditorFault.reason : EditorFault → String
  | .malformed report => "Invalid editor settings: " ++ report
  | .root => "Editor settings root must be an object"

/-- Reads the settings from the text of a file. A text without value has none. -/
def readEditorSettings (text : String) : Except EditorFault Fields :=
  match Jsonc.read text with
  | .error report => .error (.malformed report)
  | .ok none => .ok []
  | .ok (some (.object settings)) => .ok settings
  | .ok (some _) => .error .root

/-- What is known after the settings of a file have been converted. The new settings
stand in the order in which they came up. -/
structure EditorResults where
  converted : Fields
  failed : List RuleFailure
  missing : List String
  deriving DecidableEq

namespace EditorResults

def empty : EditorResults :=
  ⟨[], [], []⟩

def toValue (r : EditorResults) : Value :=
  .object [("converted", .object r.converted),
    ("failed", .array (r.failed.map RuleFailure.toValue)), ("missing", .strings r.missing)]

def apply (r : EditorResults) (settings : Fields) : Fields :=
  Assoc.insertAll settings r.converted

end EditorResults

def globsOf : Value → List Value
  | .array globs => globs
  | glob => [glob]

/-- The globs of two values, each once. -/
def joinGlobs (previous addition : Value) : Value :=
  .array (Value.pushAllUnique [] (globsOf previous ++ globsOf addition))

/-- The value of an option that is written over a previous one. Globs of files that
are left out are added to the previous ones. -/
def overwriteOption (name : String) (previous addition : Value) : Value :=
  if name = EditorConverter.ignoreOption then joinGlobs previous addition else addition

def addOption (options : Fields) (entry : String × Value) : Fields :=
  match options.lookup entry.1 with
  | some previous => Assoc.insert entry.1 (overwriteOption entry.1 previous entry.2) options
  | none => Assoc.insert entry.1 entry.2 options

/-- Writes a new setting. Where an object is there already and another one comes,
the fields of both are kept; every other value is replaced. -/
def addSetting (converted : Fields) (setting : EditorSetting) : Fields :=
  match converted.lookup setting.name, setting.value with
  | some (.object existing), .object additions =>
      Assoc.insert setting.name (.object (additions.foldl addOption existing)) converted
  | _, v => Assoc.insert setting.name v converted

def convertEditorSetting (converters : EditorRegistry) (settings : ConversionSettings)
    (results : EditorResults) (entry : String × Value) : EditorResults :=
  if knownEditorSettings.contains entry.1 then
    match converters.lookup entry.1 with
    | none => { results with missing := results.missing ++ [entry.1] }
    | some converter =>
        match converter settings entry.2 with
        | .ok additions =>
            { results with converted := additions.foldl addSetting results.converted }
        | .error reason =>
            { results with failed := results.failed ++ [.converterFailed entry.1 reason] }
  else results

def convertEditorSettings (converters : EditorRegistry) (settings : ConversionSettings)
    (entries : Fields) : EditorResults :=
  entries.foldl (convertEditorSetting converters settings) .empty

end Relint
